import Ranch.Server
import Mathlib.Logic.Relation
import Mathlib.Data.List.Nodup

/-!
# Runs of the bridge registry

The bridge operations and `clearHttpChannelBridgesForService` each run under `ps.lock`, so each is
one atomic step. `SetStaticRoute` takes no lock: it writes `endpointHandlerMap` and appends to the
router's route slice unguarded, and run beside another operation it races with it. The model
assumes it is never called while another operation runs, and runs it as one step too; every
result over runs of the registry rests on this assumption.

Publishing is separate from building the router it publishes. `clearHttpChannelBridgesForService`
returns a router under the lock, and its caller passes it to `loadGlobalHttpHandler`, which takes
the lock again. `StartServer` calls `loadGlobalHttpHandler(ps.router)`, reading `ps.router` before
the call takes the lock. A registry state therefore carries the routers that callers hold between
the two steps, and other operations may run in between. A step that panics has no successor.
-/

namespace Ranch

/-- A call into the registry. A bridge operation carries whether `ListenStream` succeeds on its
channel, which the bus decides. -/
inductive Op where
  | setHttpChannelBridge (cfg : RESTBridgeConfig) (listenOk : Bool)
  | setHttpPathPrefixChannelBridge (cfg : RESTBridgeConfig) (listenOk : Bool)
  | setStaticRoute (pfx fullpath : String) (middlewareFn : List Middleware)
  | clearHttpChannelBridgesForService (serviceChannel : String)
  /-- `StartServer` reading `ps.router` for its `loadGlobalHttpHandler` call -/
  | startServer
  /-- a caller publishing the `held`-th router it holds -/
  | loadGlobalHttpHandler (held : Nat)
  deriving DecidableEq, Repr

/-- The server together with the routers that callers of `clearHttpChannelBridgesForService`
and `StartServer` hold until they pass them to `loadGlobalHttpHandler`. -/
structure Registry where
  server : PlatformServer
  held : List Router

namespace Registry

/-- A freshly constructed server, with no caller between a clear and its publication. -/
def init (restBridgeTimeout : Int) (basicSecurityHeaderMiddleware : Middleware) : Registry :=
  ⟨PlatformServer.init restBridgeTimeout basicSecurityHeaderMiddleware, []⟩

/-- The registry after a server operation that may panic. -/
def withServer (g : Registry) : Except String PlatformServer → Except String Registry
  | .ok ps => .ok { g with server := ps }
  | .error e => .error e

/-- One atomic step. -/
def step (g : Registry) : Op → Except String Registry
  | .setHttpChannelBridge cfg listenOk => g.withServer (setHttpChannelBridge g.server cfg listenOk)
  | .setHttpPathPrefixChannelBridge cfg listenOk =>
      g.withServer (setHttpPathPrefixChannelBridge g.server cfg listenOk)
  | .setStaticRoute pfx fullpath middlewareFn =>
      g.withServer (setStaticRoute g.server pfx fullpath middlewareFn)
  | .clearHttpChannelBridgesForService serviceChannel =>
      .ok ⟨(clearHttpChannelBridgesForService g.server serviceChannel).1,
        g.held ++ [(clearHttpChannelBridgesForService g.server serviceChannel).2]⟩
  | .startServer => .ok ⟨g.server, g.held ++ [g.server.router]⟩
  | .loadGlobalHttpHandler i =>
      match g.held[i]? with
      | some h => .ok ⟨loadGlobalHttpHandler g.server h, g.held.eraseIdx i⟩
      | none => .error "no router is held at this index"

/-- Some operation takes `g` to `g'`. -/
def Step (g g' : Registry) : Prop := ∃ op, g.step op = .ok g'

/-- The states that some interleaving of operations reaches from a fresh server. -/
def Reachable (g : Registry) : Prop :=
  ∃ restBridgeTimeout basicSecurityHeaderMiddleware,
    Relation.ReflTransGen Step (init restBridgeTimeout basicSecurityHeaderMiddleware) g

theorem withServer_eq_ok {g g' : Registry} {r : Except String PlatformServer}
    (h : g.withServer r = .ok g') : r = .ok g'.server ∧ g'.held = g.held := by
  cases r with
  | error e => cases h
  | ok ps => cases h; exact ⟨rfl, rfl⟩

/-- Everything one step can do: a bridge operation through `bridgeEndpoint` (whose route the
builder chain makes, on the configured uri, under the endpoint's name), a static route, a
router read for publication, by a clear or by `StartServer`, or the publication of a held
router. -/
theorem step_cases {g g' : Registry} {op : Op} (h : g.step op = .ok g') :
    (∃ cfg listenOk key kind methods,
      bridgeEndpoint g.server cfg listenOk key (Route.build false key kind cfg.uri methods) =
        .ok g'.server ∧ g'.held = g.held) ∨
    (∃ pfx fullpath middlewareFn,
      setStaticRoute g.server pfx fullpath middlewareFn = .ok g'.server ∧ g'.held = g.held) ∨
    (∃ c, g'.server = (clearHttpChannelBridgesForService g.server c).1 ∧
      g'.held = g.held ++ [(clearHttpChannelBridgesForService g.server c).2]) ∨
    (g'.server = g.server ∧ g'.held = g.held ++ [g.server.router]) ∨
    (∃ i R, g.held[i]? = some R ∧ g'.server = loadGlobalHttpHandler g.server R ∧
      g'.held = g.held.eraseIdx i) := by
  cases op with
  | setHttpChannelBridge cfg listenOk | setHttpPathPrefixChannelBridge cfg listenOk =>
      obtain ⟨hs, hheld⟩ := withServer_eq_ok h
      simp only [setHttpChannelBridge, setHttpPathPrefixChannelBridge] at hs
      exact .inl ⟨cfg, listenOk, _, _, _, hs, hheld⟩
  | setStaticRoute pfx fullpath middlewareFn =>
      obtain ⟨hs, hheld⟩ := withServer_eq_ok h
      exact .inr (.inl ⟨pfx, fullpath, middlewareFn, hs, hheld⟩)
  | clearHttpChannelBridgesForService c =>
      cases h
      exact .inr (.inr (.inl ⟨c, rfl, rfl⟩))
  | startServer =>
      cases h
      exact .inr (.inr (.inr (.inl ⟨rfl, rfl⟩)))
  | loadGlobalHttpHandler i =>
      simp only [step] at h
      split at h
      next R hR => cases h; exact .inr (.inr (.inr (.inr ⟨i, R, hR, rfl, rfl⟩)))
      next => cases h

/-- The operations of a run applied in turn; a panic ends the run. -/
def run (g : Registry) : List Op → Except String Registry
  | [] => .ok g
  | op :: ops =>
    match g.step op with
    | .ok g' => g'.run ops
    | .error e => .error e

theorem run_steps {g g' : Registry} {ops : List Op} (h : g.run ops = .ok g') :
    Relation.ReflTransGen Step g g' := by
  induction ops generalizing g with
  | nil => cases h; exact .refl
  | cons op ops ih =>
      simp only [run] at h
      split at h
      next g₁ hstep => exact .head ⟨op, hstep⟩ (ih h)
      next => cases h

theorem reachable_of_run {t : Int} {mw : Middleware} {ops : List Op} {g : Registry}
    (h : (init t mw).run ops = .ok g) : g.Reachable :=
  ⟨t, mw, run_steps h⟩

/-- An invariant that holds of every fresh server and is kept by every step holds in every
reachable state. -/
theorem Reachable.induction {P : Registry → Prop} (hinit : ∀ t mw, P (init t mw))
    (hstep : ∀ g g', P g → Step g g' → P g') {g : Registry} (hg : g.Reachable) : P g := by
  obtain ⟨t, mw, hrun⟩ := hg
  induction hrun with
  | refl => exact hinit t mw
  | tail _ hs ih => exact hstep _ _ ih hs

end Registry

end Ranch
