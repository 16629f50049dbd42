import Mathlib.Data.List.Basic

/-!
# Handlers and the gorilla/mux route table

The platform server hands `net/http` handlers to a `mux.Router`. A handler is kept here as
the term that built it, so two handlers are equal exactly when they were built from the same
arguments. A router is its ordered list of routes: it serves a request with the first route
whose matchers accept it, and `Get` returns the last route registered under a name, since
each `Name` call overwrites mux's `namedRoutes` entry.

mux checks a template when `Path` or `PathPrefix` adds it. A refused template sets the route's
error, after which the rest of the builder chain does nothing: the route keeps no path, no method
matcher and no handler, is named only if `Name` came before the path, and never matches.

Accepted templates are matched literally: `Path` matches the request path equal to the template
and `PathPrefix` every path that starts with it. A variable such as `{id}` is matched as its own
text rather than as the pattern it stands for, so no result here says that a served request's
path equals a route's template.
-/

namespace Ranch

/-- One application of a `mux.MiddlewareFunc`: the function, by identity, and whether the handler
it returns in this application has dynamic type `http.HandlerFunc`. A pass-through middleware
returns its argument, so the flag is a fact of the call, not of the function. -/
structure Middleware where
  id : Nat
  returnsHandlerFunc : Bool
  deriving DecidableEq, Repr

/-- The HTTP handlers the platform server builds, as the calls that build them. -/
inductive Handler where
  /-- `buildEndpointHandler(serviceChannel, builder, restBridgeTimeout, payloadChannel)`. -/
  | endpoint (serviceChannel : String) (requestBuilder : Nat) (restBridgeTimeout : Int)
      (payloadChannel : Nat)
  /-- `http.FileServer(NoDirFileSystem{http.Dir(fullpath)})`. -/
  | fileServer (fullpath : String)
  /-- `http.StripPrefix(pfx, inner)`. -/
  | stripPrefix (pfx : String) (inner : Handler)
  /-- `mw(inner)`. -/
  | wrap (mw : Middleware) (inner : Handler)
  /-- the nil handler of a route whose `Handler` call did nothing -/
  | unset
  deriving DecidableEq, Repr

/-- Whether the handler's dynamic type is `http.HandlerFunc`: endpoint handlers are, a file
server is a `*fileHandler`, `http.StripPrefix` returns its argument for the empty prefix and an
`http.HandlerFunc` otherwise, and a middleware returns what it returns. -/
def Handler.isHandlerFunc : Handler → Bool
  | .endpoint .. => true
  | .fileServer _ => false
  | .stripPrefix pfx inner => if pfx = "" then inner.isHandlerFunc else true
  | .wrap mw _ => mw.returnsHandlerFunc
  | .unset => false

/-- How a route matches the request path: `Path` or `PathPrefix`. -/
inductive MatchKind where
  | path
  | pathPrefix
  deriving DecidableEq, Repr

/-- Whether a path matcher of this kind on template `tpl` accepts the request path. -/
def MatchKind.matchesPath : MatchKind → String → String → Bool
  | .path, tpl, requestPath => requestPath == tpl
  | .pathPrefix, tpl, requestPath => tpl.data.isPrefixOf requestPath.data

/-- mux's `braceIndices` on a template, returning the text inside each outermost pair of braces
(`level` counts the open braces, `cur` is the text of the open variable so far); `none` when a
`}` closes no `{` or a `{` is never closed, mux's "unbalanced braces". -/
def braceGroups : List Char → Nat → List Char → Option (List (List Char))
  | [], level, _ => if level = 0 then some [] else none
  | '{' :: cs, level, cur => braceGroups cs (level + 1) (if level = 0 then [] else cur ++ ['{'])
  | '}' :: _, 0, _ => none
  | '}' :: cs, 1, cur => (braceGroups cs 0 []).map (cur :: ·)
  | '}' :: cs, level + 2, cur => braceGroups cs (level + 1) (cur ++ ['}'])
  | c :: cs, level, cur => braceGroups cs level (if level = 0 then cur else cur ++ [c])

/-- A variable `name` or `name:pattern`, split at its first `:` as `strings.SplitN(_, ":", 2)`
does, has a name and, after a `:`, a pattern; otherwise mux reports "missing name or pattern". -/
def variableNamed (v : List Char) : Bool :=
  match v.span (· != ':') with
  | (name, []) => !name.isEmpty
  | (name, _ :: pattern) => !name.isEmpty && !pattern.isEmpty

/-- mux's checks when `Path` or `PathPrefix` adds a template (`addRegexpMatcher`,
`newRouteRegexp`): a non-empty template starts with `/`, its braces balance, and every variable
is named. Whether a variable's own pattern compiles as a regular expression is not checked here. -/
def templateAccepted (tpl : String) : Bool :=
  (match tpl.data with
   | [] => true
   | c :: _ => c == '/') &&
  match braceGroups tpl.data 0 [] with
  | some vars => vars.all variableNamed
  | none => false

example : templateAccepted "/stock/\x7bsymbol\x7d" = true ∧ templateAccepted "" = true ∧
    templateAccepted "static/" = false ∧ templateAccepted "/a/\x7bid" = false ∧
    templateAccepted "/a/\x7b:[0-9]+\x7d" = false := by decide

/-- A `mux.Route`: its name, its path matcher, its `Methods` matcher if it has one, its handler,
whether mux's `route.err` is set, and whether `Name` registered it in the router's
`namedRoutes`. -/
structure Route where
  name : String
  kind : MatchKind
  pathTemplate : String
  methods : Option (List String)
  handler : Handler
  err : Bool := false
  named : Bool := true
  deriving DecidableEq, Repr

/-- The route a builder chain leaves: `Name(name)`, the path matcher `kind` on `tpl`, then the
`Methods` matcher if any and `Handler(handler)`, with `nameFirst` saying whether `Name` came before
the path matcher. When mux refuses the template, the later calls do nothing. -/
def Route.build (nameFirst : Bool) (name : String) (kind : MatchKind) (tpl : String)
    (methods : Option (List String)) (handler : Handler) : Route :=
  if templateAccepted tpl then
    { name, kind, pathTemplate := tpl, methods, handler }
  else
    { name := if nameFirst then name else "", kind, pathTemplate := "", methods := none,
      handler := .unset, err := true, named := nameFirst }

theorem Route.build_of_accepted {nameFirst : Bool} {name tpl : String} {kind : MatchKind}
    {methods : Option (List String)} {handler : Handler} (h : templateAccepted tpl = true) :
    Route.build nameFirst name kind tpl methods handler =
      { name, kind, pathTemplate := tpl, methods, handler } := by
  simp [Route.build, h]

/-- Every route a chain leaves has an accepted template: its own, or none at all. -/
@[simp] theorem Route.build_templateAccepted (nameFirst : Bool) (name : String) (kind : MatchKind)
    (tpl : String) (methods : Option (List String)) (handler : Handler) :
    templateAccepted (Route.build nameFirst name kind tpl methods handler).pathTemplate = true := by
  unfold Route.build
  split
  · assumption
  · rfl

/-- A route holds the handler it was given, or none when its template was refused. -/
theorem Route.build_handler (nameFirst : Bool) (name : String) (kind : MatchKind) (tpl : String)
    (methods : Option (List String)) (handler : Handler) :
    (Route.build nameFirst name kind tpl methods handler).handler = handler ∨
      (Route.build nameFirst name kind tpl methods handler).handler = .unset := by
  unfold Route.build
  split <;> simp

/-- A `mux.Router`, as the routes it holds in registration order. -/
abbrev Router := List Route

/-- An incoming HTTP request, as far as routing reads it. -/
structure Request where
  method : String
  path : String
  deriving DecidableEq, Repr

/-- mux's `Methods(methods...)` upper-cases each method (`strings.ToUpper`, on ASCII). -/
def methodMatcher (methods : List String) : List String :=
  methods.map fun m => ⟨m.data.map Char.toUpper⟩

/-- A route accepts a request when it has no error and its path matcher and its `Methods`
matcher, if any, do. -/
def Route.matches (r : Route) (req : Request) : Bool :=
  !r.err && r.kind.matchesPath r.pathTemplate req.path &&
    match r.methods with
    | none => true
    | some ms => ms.contains req.method

/-- The handler the router serves a request with (`Router.ServeHTTP` after `Match`). -/
def Router.dispatch (R : Router) (req : Request) : Option Handler :=
  (R.find? (·.matches req)).map Route.handler

/-- `Router.Get(name)`: the route registered last under `name`. -/
def Router.get (R : Router) (name : String) : Option Route :=
  (R.filter fun r => r.named && r.name == name).getLast?

namespace Router

@[simp] theorem dispatch_nil (req : Request) : Router.dispatch [] req = none := rfl

theorem dispatch_cons (r : Route) (R : Router) (req : Request) :
    Router.dispatch (r :: R) req = if r.matches req then some r.handler else R.dispatch req := by
  unfold Router.dispatch
  cases h : r.matches req <;> simp [List.find?_cons, h]

/-- The router tries its routes in order, so a route appended later only answers what no earlier
route matches. -/
theorem dispatch_append (R S : Router) (req : Request) :
    Router.dispatch (R ++ S) req = (R.dispatch req).or (S.dispatch req) := by
  unfold Router.dispatch
  rw [List.find?_append]
  cases R.find? (·.matches req) <;> rfl

@[simp] theorem get_nil (name : String) : Router.get [] name = none := rfl

theorem get_append_single (R : Router) (r : Route) (name : String) :
    Router.get (R ++ [r]) name = if r.named ∧ r.name = name then some r else R.get name := by
  rw [Router.get, Router.get, List.filter_append, List.filter_singleton]
  split_ifs with h
  · simp [h.1, h.2]
  · have hr : (r.named && r.name == name) = false := by simpa using h
    simp [hr]

end Router

end Ranch
