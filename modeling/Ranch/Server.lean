import Ranch.Router

/-!
# The platform server's bridge registry

Beside its router, `platformServer` keeps `endpointHandlerMap` from endpoint names to
handlers, `serviceChanToBridgeEndpoints` from service channels to the endpoint names bridged
to them, and `messageBridgeMap` from service channels to the bus subscription and queue that
feed their handlers. Go maps are total functions here: a missing key reads as `none`, and a
missing channel list as the empty list, which is how Go reads a `nil` slice (so creating an
empty list for a channel, as both bridge operations do first, changes nothing).

An operation that panics returns `.error` with the runtime's message.
-/

namespace Ranch

/-- `AllMethodsWildcard`: every method, open the gates. -/
def allMethodsWildcard : String := "*"

/-- `http.MethodHead`. -/
def methodHead : String := "HEAD"

/-- `http.MethodOptions`. -/
def methodOptions : String := "OPTIONS"

/-- The message of the runtime panic for a method call on a nil handler. -/
def nilDereference : String := "runtime error: invalid memory address or nil pointer dereference"

/-- The message of the runtime panic for a failed `.(http.HandlerFunc)` assertion (the runtime
also names the dynamic type). -/
def notHandlerFunc : String := "interface conversion: http.Handler is not http.HandlerFunc"

/-- `service.RESTBridgeConfig`, as far as the bridge operations read it. -/
structure RESTBridgeConfig where
  serviceChannel : String
  uri : String
  method : String
  allowHead : Bool
  allowOptions : Bool
  /-- the `FabricRequestBuilder` closure, by identity -/
  fabricRequestBuilder : Nat
  deriving DecidableEq, Repr

/-- A `MessageBridge`: the bus subscription of a service channel and the buffered channel its
callback feeds, both by identity. -/
structure MessageBridge where
  serviceListenStream : Nat
  payloadChannel : Nat
  deriving DecidableEq, Repr

/-- The fields of `platformServer` that the routing operations read and write, and the bus's
record of the `ListenStream` subscriptions they opened. -/
structure PlatformServer where
  router : Router
  endpointHandlerMap : String → Option Handler
  serviceChanToBridgeEndpoints : String → List String
  messageBridgeMap : String → Option MessageBridge
  /-- the channels of the successful `eventbus.ListenStream` calls, in call order -/
  listenStreams : List String
  /-- `serverConfig.RestBridgeTimeout` -/
  restBridgeTimeout : Int
  /-- `middleware.BasicSecurityHeaderMiddleware()`, whose package is not under src -/
  basicSecurityHeaderMiddleware : Middleware

/-- The registry as the constructor leaves it: no routes, no endpoints, no bridges. -/
def PlatformServer.init (restBridgeTimeout : Int) (basicSecurityHeaderMiddleware : Middleware) :
    PlatformServer where
  router := []
  endpointHandlerMap := fun _ => none
  serviceChanToBridgeEndpoints := fun _ => []
  messageBridgeMap := fun _ => none
  listenStreams := []
  restBridgeTimeout := restBridgeTimeout
  basicSecurityHeaderMiddleware := basicSecurityHeaderMiddleware

/-! ## Attaching bridges -/

/-- A new subscription for `serviceChannel`: `ListenStream` succeeds, and the bridge stored for
the channel gets a fresh stream and a fresh 100-slot payload channel. -/
@[simps]
def subscribe (ps : PlatformServer) (serviceChannel : String) : PlatformServer × MessageBridge :=
  let bridge : MessageBridge := ⟨ps.listenStreams.length, ps.listenStreams.length⟩
  ({ ps with
      messageBridgeMap := Function.update ps.messageBridgeMap serviceChannel (some bridge)
      listenStreams := ps.listenStreams ++ [serviceChannel] }, bridge)

/-- The `messageBridgeMap` step of both bridge operations: keep the channel's bridge, or
subscribe. When `ListenStream` fails it returns a nil handler, and `handler.Handle` panics. -/
def ensureMessageBridge (ps : PlatformServer) (serviceChannel : String) (listenOk : Bool) :
    Except String (PlatformServer × MessageBridge) :=
  match ps.messageBridgeMap serviceChannel with
  | some bridge => .ok (ps, bridge)
  | none => if listenOk then .ok (subscribe ps serviceChannel) else .error nilDereference

/-- Record a new endpoint: its handler under its name, its name at the end of its channel's
list, and its route at the end of the router. -/
@[simps]
def addEndpoint (ps : PlatformServer) (serviceChannel endpointHandlerKey : String)
    (handler : Handler) (route : Route) : PlatformServer :=
  { ps with
    endpointHandlerMap := Function.update ps.endpointHandlerMap endpointHandlerKey (some handler)
    serviceChanToBridgeEndpoints := Function.update ps.serviceChanToBridgeEndpoints serviceChannel
      (ps.serviceChanToBridgeEndpoints serviceChannel ++ [endpointHandlerKey])
    router := ps.router ++ [route] }

/-- `ps.buildEndpointHandler(cfg.ServiceChannel, cfg.FabricRequestBuilder,
ps.serverConfig.RestBridgeTimeout, bridge.payloadChannel)`. -/
def buildEndpointHandler (ps : PlatformServer) (cfg : RESTBridgeConfig) (bridge : MessageBridge) :
    Handler :=
  .endpoint cfg.serviceChannel cfg.fabricRequestBuilder ps.restBridgeTimeout bridge.payloadChannel

theorem mem_addEndpoint_serviceChanToBridgeEndpoints {ps : PlatformServer}
    {serviceChannel endpointHandlerKey : String} {handler : Handler} {route : Route} {c k : String} :
    k ∈ (addEndpoint ps serviceChannel endpointHandlerKey handler route).serviceChanToBridgeEndpoints c ↔
      k ∈ ps.serviceChanToBridgeEndpoints c ∨ (c = serviceChannel ∧ k = endpointHandlerKey) := by
  by_cases hc : c = serviceChannel
  · subst hc; simp
  · simp [hc, Function.update_noteq]

/-- The body shared by `SetHttpChannelBridge` and `SetHttpPathPrefixChannelBridge`, which differ
only in the endpoint name and in the route built for the handler. An occupied name is a
warning and a return. -/
def bridgeEndpoint (ps : PlatformServer) (cfg : RESTBridgeConfig) (listenOk : Bool)
    (endpointHandlerKey : String) (route : Handler → Route) : Except String PlatformServer :=
  if (ps.endpointHandlerMap endpointHandlerKey).isSome then .ok ps
  else
    match ensureMessageBridge ps cfg.serviceChannel listenOk with
    | .error e => .error e
    | .ok (ps, bridge) =>
      let handler := buildEndpointHandler ps cfg bridge
      .ok (addEndpoint ps cfg.serviceChannel endpointHandlerKey handler (route handler))

/-- The methods an exact bridge accepts: its own, then HEAD and OPTIONS when allowed. -/
def permittedMethods (cfg : RESTBridgeConfig) : List String :=
  [cfg.method] ++ (if cfg.allowHead then [methodHead] else []) ++
    (if cfg.allowOptions then [methodOptions] else [])

/-- `SetHttpChannelBridge`: the endpoint `uri-method`, routed by
`Path(uri).Methods(permittedMethods...).Name(uri-method).Handler(handler)`. -/
def setHttpChannelBridge (ps : PlatformServer) (cfg : RESTBridgeConfig) (listenOk : Bool) :
    Except String PlatformServer :=
  bridgeEndpoint ps cfg listenOk (cfg.uri ++ "-" ++ cfg.method)
    (Route.build false (cfg.uri ++ "-" ++ cfg.method) .path cfg.uri
      (some (methodMatcher (permittedMethods cfg))))

/-- `SetHttpPathPrefixChannelBridge`: the endpoint `uri-*`, routed by
`PathPrefix(uri).Name(uri-*).Handler(handler)` for every method. Its compare-and-swap guard on
the router is uncontended, since only this function touches the counter and it holds
`ps.lock`. -/
def setHttpPathPrefixChannelBridge (ps : PlatformServer) (cfg : RESTBridgeConfig)
    (listenOk : Bool) : Except String PlatformServer :=
  bridgeEndpoint ps cfg listenOk (cfg.uri ++ "-" ++ allMethodsWildcard)
    (Route.build false (cfg.uri ++ "-" ++ allMethodsWildcard) .pathPrefix cfg.uri none)

/-- The `compositeHandler` of `SetStaticRoute`: a file server wrapped in the security headers,
stripped of the prefix, then wrapped in each middleware in turn. -/
def staticHandler (securityHeaders : Middleware) (pfx fullpath : String)
    (middlewareFn : List Middleware) : Handler :=
  middlewareFn.foldl (fun h mw => Handler.wrap mw h)
    (.stripPrefix pfx (.wrap securityHeaders (.fileServer fullpath)))

theorem staticHandler_append_singleton (securityHeaders : Middleware) (pfx fullpath : String)
    (middlewareFn : List Middleware) (mw : Middleware) :
    staticHandler securityHeaders pfx fullpath (middlewareFn ++ [mw]) =
      .wrap mw (staticHandler securityHeaders pfx fullpath middlewareFn) := by
  simp [staticHandler]

/-- A stack of middleware is an `http.HandlerFunc` when its outermost layer returns one; an empty
stack is what it wraps. -/
theorem isHandlerFunc_foldl_wrap (init : Handler) (middlewareFn : List Middleware) :
    (middlewareFn.foldl (fun h mw => Handler.wrap mw h) init).isHandlerFunc =
      (middlewareFn.getLast?.map Middleware.returnsHandlerFunc).getD init.isHandlerFunc := by
  induction middlewareFn generalizing init with
  | nil => rfl
  | cons mw rest ih =>
      rw [List.foldl_cons, ih, List.getLast?_cons]
      cases rest.getLast? <;> rfl

/-- `SetStaticRoute`: the composite handler under `pfx*`, routed by
`PathPrefix(pfx/).Name(pfx*).Handler(composite)` for every method, once it passes the assertion
that it is an `http.HandlerFunc`. It takes no lock. -/
def setStaticRoute (ps : PlatformServer) (pfx fullpath : String) (middlewareFn : List Middleware) :
    Except String PlatformServer :=
  let endpointHandlerMapKey := pfx ++ "*"
  let compositeHandler := staticHandler ps.basicSecurityHeaderMiddleware pfx fullpath middlewareFn
  if compositeHandler.isHandlerFunc then
    .ok { ps with
      endpointHandlerMap :=
        Function.update ps.endpointHandlerMap endpointHandlerMapKey (some compositeHandler)
      router := ps.router ++
        [Route.build false endpointHandlerMapKey .pathPrefix (pfx ++ "/") none compositeHandler] }
  else .error notHandlerFunc

/-! ## Clearing and publishing -/

/-- Delete each of `keys` from a map, in turn. -/
def deleteKeys {α : Type} (m : String → Option α) (keys : List String) : String → Option α :=
  keys.foldl (fun m key => Function.update m key none) m

@[simp] theorem deleteKeys_apply {α : Type} (m : String → Option α) (keys : List String)
    (k : String) : deleteKeys m keys k = if k ∈ keys then none else m k := by
  induction keys generalizing m with
  | nil => simp [deleteKeys]
  | cons key keys ih =>
      simp only [deleteKeys, List.foldl_cons] at ih ⊢
      rw [ih]
      by_cases hk : k = key
      · subst hk; simp
      · simp [hk, Function.update_noteq]

/-- The route `newRouter.Name(name).Path(path).Methods(methods...).Handler(handler)` that the
walk in `clearHttpChannelBridgesForService` adds for a kept route, from its `GetName`,
`GetPathTemplate` (empty for a route with an error), `GetMethods` (nil for a route without a
`Methods` matcher) and `GetHandler`. -/
def copyRoute (r : Route) : Route :=
  Route.build true r.name .path r.pathTemplate (some (methodMatcher (r.methods.getD []))) r.handler

/-- `clearHttpChannelBridgesForService`: a new router holding a copy of every route whose name
is not bridged to the channel, with the channel's list emptied and its endpoints' handlers
deleted. The server's own router is left as it is. -/
@[simps]
def clearHttpChannelBridgesForService (ps : PlatformServer) (serviceChannel : String) :
    PlatformServer × Router :=
  let lookupMap := ps.serviceChanToBridgeEndpoints serviceChannel
  let newRouter := (ps.router.filter fun r => r.name ∉ lookupMap).map copyRoute
  let existingMappings := ps.serviceChanToBridgeEndpoints serviceChannel
  ({ ps with
      serviceChanToBridgeEndpoints :=
        Function.update ps.serviceChanToBridgeEndpoints serviceChannel []
      endpointHandlerMap := deleteKeys ps.endpointHandlerMap existingMappings }, newRouter)

theorem mem_clearHttpChannelBridgesForService_serviceChanToBridgeEndpoints
    {ps : PlatformServer} {serviceChannel c k : String} :
    k ∈ (clearHttpChannelBridgesForService ps serviceChannel).1.serviceChanToBridgeEndpoints c ↔
      c ≠ serviceChannel ∧ k ∈ ps.serviceChanToBridgeEndpoints c := by
  by_cases hc : c = serviceChannel
  · subst hc; simp
  · simp [hc, Function.update_noteq]

/-- `loadGlobalHttpHandler`: the router the HTTP server serves from now on. -/
@[simps]
def loadGlobalHttpHandler (ps : PlatformServer) (h : Router) : PlatformServer :=
  { ps with router := h }

/-- `getSubRoute`: the route registered under a name. -/
def getSubRoute (ps : PlatformServer) (name : String) : Except String Route :=
  match ps.router.get name with
  | some route => .ok route
  | none => .error s!"no route exists under name {name}"

/-- `GetRestBridgeSubRoute`: the route named `uri-method`. -/
def getRestBridgeSubRoute (ps : PlatformServer) (uri method : String) : Except String Route :=
  match getSubRoute ps (uri ++ "-" ++ method) with
  | .ok route => .ok route
  | .error _ => .error s!"no route exists at {uri} ({method}) exists"

/-! ## What each operation can do -/

theorem ensureMessageBridge_eq_ok {ps : PlatformServer} {serviceChannel : String}
    {listenOk : Bool} {result : PlatformServer × MessageBridge}
    (h : ensureMessageBridge ps serviceChannel listenOk = .ok result) :
    (ps.messageBridgeMap serviceChannel = some result.2 ∧ result.1 = ps) ∨
      (ps.messageBridgeMap serviceChannel = none ∧ result = subscribe ps serviceChannel) := by
  unfold ensureMessageBridge at h
  split at h
  next bridge hbridge => cases h; exact .inl ⟨hbridge, rfl⟩
  next hnone =>
    split at h
    · cases h; exact .inr ⟨hnone, rfl⟩
    · cases h

theorem bridgeEndpoint_eq_ok {ps ps' : PlatformServer} {cfg : RESTBridgeConfig}
    {listenOk : Bool} {key : String} {route : Handler → Route}
    (h : bridgeEndpoint ps cfg listenOk key route = .ok ps') :
    ((ps.endpointHandlerMap key).isSome ∧ ps' = ps) ∨
      (ps.endpointHandlerMap key = none ∧ ∃ ps₁ bridge,
        ensureMessageBridge ps cfg.serviceChannel listenOk = .ok (ps₁, bridge) ∧
        ps' = addEndpoint ps₁ cfg.serviceChannel key (buildEndpointHandler ps₁ cfg bridge)
          (route (buildEndpointHandler ps₁ cfg bridge))) := by
  unfold bridgeEndpoint at h
  split at h
  next hkey => cases h; exact .inl ⟨hkey, rfl⟩
  next hkey =>
    refine .inr ⟨Option.not_isSome_iff_eq_none.mp hkey, ?_⟩
    split at h
    next => cases h
    next ps₁ bridge hensure => cases h; exact ⟨ps₁, bridge, hensure, rfl⟩

/-- Where `ListenStream` fails, a bridge operation on a free name and a channel with no bridge
yet panics on the nil handler. -/
theorem bridgeEndpoint_of_listen_failure {ps : PlatformServer} {cfg : RESTBridgeConfig}
    {key : String} {route : Handler → Route} (hkey : ps.endpointHandlerMap key = none)
    (hnone : ps.messageBridgeMap cfg.serviceChannel = none) :
    bridgeEndpoint ps cfg false key route = .error nilDereference := by
  simp [bridgeEndpoint, ensureMessageBridge, hkey, hnone]

theorem ensureMessageBridge_maps {ps ps₁ : PlatformServer} {serviceChannel : String}
    {listenOk : Bool} {bridge : MessageBridge}
    (h : ensureMessageBridge ps serviceChannel listenOk = .ok (ps₁, bridge)) :
    ps₁.endpointHandlerMap = ps.endpointHandlerMap ∧
      ps₁.serviceChanToBridgeEndpoints = ps.serviceChanToBridgeEndpoints ∧
      ps₁.router = ps.router ∧ ps₁.restBridgeTimeout = ps.restBridgeTimeout ∧
      ps₁.messageBridgeMap serviceChannel = some bridge ∧
      ∀ c b, ps.messageBridgeMap c = some b → ps₁.messageBridgeMap c = some b := by
  rcases ensureMessageBridge_eq_ok h with ⟨hbridge, rfl⟩ | ⟨hnone, hres⟩
  · exact ⟨rfl, rfl, rfl, rfl, hbridge, fun _ _ hb => hb⟩
  · obtain ⟨rfl, rfl⟩ := Prod.ext_iff.mp hres
    refine ⟨rfl, rfl, rfl, rfl, by simp [subscribe], fun c b hb => ?_⟩
    have hc : c ≠ serviceChannel := by rintro rfl; simp [hnone] at hb
    simpa [Function.update_noteq hc] using hb

/-- A bridge operation leaves the server as it was exactly when the endpoint's name is already a
key of `endpointHandlerMap`. -/
theorem bridgeEndpoint_eq_self_iff {ps : PlatformServer} {cfg : RESTBridgeConfig}
    {listenOk : Bool} {key : String} {route : Handler → Route} :
    bridgeEndpoint ps cfg listenOk key route = .ok ps ↔ (ps.endpointHandlerMap key).isSome := by
  constructor
  · intro h
    rcases bridgeEndpoint_eq_ok h with ⟨hkey, -⟩ | ⟨hkey, ps₁, bridge, hensure, hps⟩
    · exact hkey
    · have hmap := congrArg (fun ps => ps.endpointHandlerMap key) hps
      simp only [addEndpoint_endpointHandlerMap, Function.update_same] at hmap
      simp [hmap]
  · intro hkey
    simp [bridgeEndpoint, hkey]

theorem staticHandler_ne_endpoint (securityHeaders : Middleware) (pfx fullpath : String)
    (middlewareFn : List Middleware) (c : String) (rb : Nat) (t : Int) (q : Nat) :
    staticHandler securityHeaders pfx fullpath middlewareFn ≠ .endpoint c rb t q := by
  unfold staticHandler
  generalize hinit : Handler.stripPrefix pfx _ = init
  have hne : init ≠ .endpoint c rb t q := by rw [← hinit]; exact fun h => Handler.noConfusion h
  clear hinit
  induction middlewareFn generalizing init with
  | nil => exact hne
  | cons mw rest ih => exact ih _ fun h => Handler.noConfusion h

theorem setStaticRoute_eq_ok {ps ps' : PlatformServer} {pfx fullpath : String}
    {middlewareFn : List Middleware}
    (h : setStaticRoute ps pfx fullpath middlewareFn = .ok ps') :
    ps' = { ps with
      endpointHandlerMap := Function.update ps.endpointHandlerMap (pfx ++ "*")
        (some (staticHandler ps.basicSecurityHeaderMiddleware pfx fullpath middlewareFn))
      router := ps.router ++ [Route.build false (pfx ++ "*") .pathPrefix (pfx ++ "/") none
        (staticHandler ps.basicSecurityHeaderMiddleware pfx fullpath middlewareFn)] } := by
  simp only [setStaticRoute] at h
  split at h
  · cases h; rfl
  · cases h

theorem setStaticRoute_of_isHandlerFunc {ps : PlatformServer} {pfx fullpath : String}
    {middlewareFn : List Middleware}
    (h : (staticHandler ps.basicSecurityHeaderMiddleware pfx fullpath middlewareFn).isHandlerFunc) :
    setStaticRoute ps pfx fullpath middlewareFn = .ok { ps with
      endpointHandlerMap := Function.update ps.endpointHandlerMap (pfx ++ "*")
        (some (staticHandler ps.basicSecurityHeaderMiddleware pfx fullpath middlewareFn))
      router := ps.router ++ [Route.build false (pfx ++ "*") .pathPrefix (pfx ++ "/") none
        (staticHandler ps.basicSecurityHeaderMiddleware pfx fullpath middlewareFn)] } := by
  simp [setStaticRoute, h]

end Ranch
