import Ranch.BridgeInvariants

/-!
# The served route table

`clearHttpChannelBridgesForService` rebuilds the router by walking it and re-adding each kept
route through `Name(...).Path(...).Methods(...).Handler(...)`. Names, templates, handlers and
order survive; but a path-prefix route comes back as an exact path, and a route without a
`Methods` matcher comes back with an empty one, which accepts no method. Every template the
program hands to mux is accepted or dropped with the route's error, so the copy is never
refused, and copying a copy changes nothing: the flattening happens at the first clear.

Publishing the rebuilt router is a second locked step, and a bridge attached in between is lost.
Between publications the served router only grows at its end, so a request served once keeps
its handler. `SetStaticRoute` checks no name, so two static routes on one prefix both stay, and
it asserts its handler's type and hands mux a template that may be refused, so it may add no
route at all.
-/

namespace Ranch

/-! ## What clearing copies -/

/-- Every route of the served router and of the routers callers hold has an accepted template. -/
def RoutesAccepted (g : Registry) : Prop :=
  ∀ R ∈ g.server.router :: g.held, ∀ r ∈ R, templateAccepted r.pathTemplate = true

theorem bridgeEndpoint_router {ps ps' : PlatformServer} {cfg : RESTBridgeConfig} {listenOk : Bool}
    {key : String} {route : Handler → Route}
    (h : bridgeEndpoint ps cfg listenOk key route = .ok ps') :
    ps'.router = ps.router ∨ ∃ handler, ps'.router = ps.router ++ [route handler] := by
  rcases bridgeEndpoint_eq_ok h with ⟨-, rfl⟩ | ⟨-, ps₁, bridge, hensure, rfl⟩
  · exact .inl rfl
  · exact .inr ⟨buildEndpointHandler ps₁ cfg bridge, by simp [(ensureMessageBridge_maps hensure).2.2.1]⟩

theorem RoutesAccepted.step {g g' : Registry} (h : RoutesAccepted g) (hs : Registry.Step g g') :
    RoutesAccepted g' := by
  obtain ⟨op, hop⟩ := hs
  have hserved : ∀ r ∈ g.server.router, templateAccepted r.pathTemplate = true :=
    h _ (List.mem_cons_self _ _)
  have hheld : ∀ R ∈ g.held, ∀ r ∈ R, templateAccepted r.pathTemplate = true :=
    fun R hR => h R (List.mem_cons_of_mem _ hR)
  intro R hR r hr
  rcases Registry.step_cases hop with
    ⟨cfg, listenOk, key, kind, methods, hbridge, hheld'⟩ | ⟨pfx, fullpath, mws, hstatic, hheld'⟩ |
      ⟨c, hserver, hheld'⟩ | ⟨hserver, hheld'⟩ | ⟨i, R₀, hR₀, hserver, hheld'⟩
  · rw [hheld'] at hR
    rcases List.mem_cons.mp hR with rfl | hR
    · rcases bridgeEndpoint_router hbridge with hrouter | ⟨handler, hrouter⟩ <;>
        rw [hrouter] at hr
      · exact hserved r hr
      · rcases List.mem_append.mp hr with hr | hr
        · exact hserved r hr
        · rw [List.mem_singleton.mp hr]
          exact Route.build_templateAccepted _ _ _ _ _ _
    · exact hheld R hR r hr
  · rw [hheld'] at hR
    rcases List.mem_cons.mp hR with rfl | hR
    · rw [setStaticRoute_eq_ok hstatic] at hr
      rcases List.mem_append.mp hr with hr | hr
      · exact hserved r hr
      · rw [List.mem_singleton.mp hr]
        exact Route.build_templateAccepted _ _ _ _ _ _
    · exact hheld R hR r hr
  · rw [hserver, hheld'] at hR
    simp only [List.mem_cons, List.mem_append, List.mem_singleton, List.not_mem_nil,
      or_false] at hR
    rcases hR with rfl | hR | rfl
    · exact hserved r hr
    · exact hheld R hR r hr
    · obtain ⟨r₀, -, rfl⟩ := List.mem_map.mp hr
      exact Route.build_templateAccepted _ _ _ _ _ _
  · rw [hserver, hheld'] at hR
    simp only [List.mem_cons, List.mem_append, List.mem_singleton, List.not_mem_nil,
      or_false] at hR
    rcases hR with rfl | hR | rfl
    · exact hserved r hr
    · exact hheld R hR r hr
    · exact hserved r hr
  · rw [hserver, hheld'] at hR
    rcases List.mem_cons.mp hR with hR | hR
    · rw [hR, loadGlobalHttpHandler_router] at hr
      exact hheld R₀ (List.getElem?_mem hR₀) r hr
    · exact hheld R (List.mem_of_mem_eraseIdx hR) r hr

/-- The bridge configuration `/files` of channel `files`. -/
def filesBridge : RESTBridgeConfig where
  serviceChannel := "files"
  uri := "/files"
  method := "GET"
  allowHead := false
  allowOptions := false
  fabricRequestBuilder := 0

/-- Clearing another channel turns the prefix bridge `/files` into an exact route that accepts no
method: `GET /files/a/b`, served by the bridge before, is served by nothing after. -/
theorem clear_flattens_prefix_bridge :
    ∃ ps, setHttpPathPrefixChannelBridge (PlatformServer.init 60 ⟨0, true⟩) filesBridge true =
        .ok ps ∧
      (clearHttpChannelBridgesForService ps "other").2 =
        [{ name := "/files-*", kind := .path, pathTemplate := "/files", methods := some [],
           handler := .endpoint "files" 0 60 0 }] ∧
      ps.router.dispatch ⟨"GET", "/files/a/b"⟩ = some (.endpoint "files" 0 60 0) ∧
      (clearHttpChannelBridgesForService ps "other").2.dispatch ⟨"GET", "/files/a/b"⟩ = none ∧
      (clearHttpChannelBridgesForService ps "other").2.dispatch ⟨"GET", "/files"⟩ = none := by
  refine ⟨_, rfl, ?_, ?_, ?_, ?_⟩ <;> decide

/-! ## Clearing and publishing apart -/

/-- Every endpoint listed for a channel is served: the installed router holds a route under its
name with the handler registered for it. -/
def Served (ps : PlatformServer) : Prop :=
  ∀ d k, k ∈ ps.serviceChanToBridgeEndpoints d →
    ∃ r ∈ ps.router, r.name = k ∧ ps.endpointHandlerMap k = some r.handler

/-- The bridge `GET /b` stays registered and listed for channel `b`, but the published router
has no route for it. -/
theorem bridge_lost_between_clear_and_publish :
    ∃ g, (Registry.init 60 ⟨0, true⟩).run raceRun = .ok g ∧
      "/b-GET" ∈ g.server.serviceChanToBridgeEndpoints "b" ∧
      g.server.endpointHandlerMap "/b-GET" = some (.endpoint "b" 1 60 1) ∧
      g.server.router = [] ∧ ¬ Served g.server := by
  refine ⟨_, rfl, by decide, by decide, by decide, fun hs => ?_⟩
  obtain ⟨r, hr, -⟩ := hs "b" "/b-GET" (by decide)
  exact List.not_mem_nil r hr

/-! ## Static routes -/

/-- Two static routes on one prefix: both are added under the name `/s*`; the first one serves
the requests, while the map holds the second one's handler. -/
theorem static_route_name_repeats :
    ∃ g, (Registry.init 60 ⟨0, true⟩).run
        [.setStaticRoute "/s" "/srv/a" [], .setStaticRoute "/s" "/srv/b" []] = .ok g ∧
      g.server.router.map Route.name = ["/s*", "/s*"] ∧
      g.server.router.dispatch ⟨"GET", "/s/index.html"⟩ =
        some (staticHandler ⟨0, true⟩ "/s" "/srv/a" []) ∧
      g.server.endpointHandlerMap "/s*" = some (staticHandler ⟨0, true⟩ "/s" "/srv/b" []) := by
  refine ⟨_, rfl, ?_, ?_, ?_⟩ <;> decide

/-- A route mux refused is never matched, so appending it changes no dispatch. -/
theorem Router.dispatch_append_err (R : Router) {r : Route} (hr : r.err = true) (req : Request) :
    Router.dispatch (R ++ [r]) req = R.dispatch req := by
  rw [Router.dispatch_append, Router.dispatch_cons]
  simp [Route.matches, hr]

/-- `SetStaticRoute` builds `mn(...m1(StripPrefix(prefix, headers(FileServer(dir)))))`, each
middleware wrapping those before it, and asserts it is an `http.HandlerFunc`: it is one when the
last middleware returns one, or, with none, when the prefix is not empty or the security headers
return one. Otherwise the assertion panics before anything is stored. When it passes, the handler
is stored under `prefix*`; if mux accepts the template `prefix/`, a route of that name on that
path prefix is added, which `getSubRoute` finds; if mux refuses it (a prefix not starting with
`/`), the route added has no name and never matches, so `getSubRoute` finds what it found before
and every request is served as before. -/
theorem static_route_not_added (ps : PlatformServer) (pfx fullpath : String)
    (middlewareFn : List Middleware) :
    let composite := staticHandler ps.basicSecurityHeaderMiddleware pfx fullpath middlewareFn
    staticHandler ps.basicSecurityHeaderMiddleware pfx fullpath [] =
        .stripPrefix pfx (.wrap ps.basicSecurityHeaderMiddleware (.fileServer fullpath)) ∧
      (∀ mw, staticHandler ps.basicSecurityHeaderMiddleware pfx fullpath (middlewareFn ++ [mw]) =
        .wrap mw composite) ∧
      composite.isHandlerFunc = (middlewareFn.getLast?.map Middleware.returnsHandlerFunc).getD
        (decide (pfx ≠ "") || ps.basicSecurityHeaderMiddleware.returnsHandlerFunc) ∧
      (composite.isHandlerFunc = false →
        setStaticRoute ps pfx fullpath middlewareFn = .error notHandlerFunc) ∧
      (composite.isHandlerFunc = true → ∃ ps',
        setStaticRoute ps pfx fullpath middlewareFn = .ok ps' ∧
        ps'.endpointHandlerMap (pfx ++ "*") = some composite ∧
        (templateAccepted (pfx ++ "/") = true → getSubRoute ps' (pfx ++ "*") = .ok
          { name := pfx ++ "*", kind := .pathPrefix, pathTemplate := pfx ++ "/", methods := none,
            handler := composite }) ∧
        (templateAccepted (pfx ++ "/") = false →
          getSubRoute ps' (pfx ++ "*") = getSubRoute ps (pfx ++ "*") ∧
          ∀ req, ps'.router.dispatch req = ps.router.dispatch req)) := by
  refine ⟨rfl, staticHandler_append_singleton _ _ _ _, ?_, fun h => by simp [setStaticRoute, h],
    fun h => ⟨_, setStaticRoute_of_isHandlerFunc h, by simp, fun hacc => ?_, fun href => ?_⟩⟩
  · rw [staticHandler, isHandlerFunc_foldl_wrap]
    by_cases hp : pfx = "" <;> simp [Handler.isHandlerFunc, hp]
  · simp [getSubRoute, Router.get_append_single, Route.build_of_accepted hacc]
  · have herr : (Route.build false (pfx ++ "*") .pathPrefix (pfx ++ "/") none
        (staticHandler ps.basicSecurityHeaderMiddleware pfx fullpath middlewareFn)).err = true := by
      simp [Route.build, href]
    refine ⟨?_, Router.dispatch_append_err _ herr⟩
    simp [getSubRoute, Router.get_append_single, Route.build, href]

/-- A middleware that returns another `http.Handler` than an `http.HandlerFunc` makes the type
assertion panic; the prefix `static` stores the handler but adds no route that `getSubRoute`
finds or that serves `/static/index.html`. -/
theorem static_route_not_added_static :
    setStaticRoute (PlatformServer.init 60 ⟨0, true⟩) "/s" "/srv" [⟨1, false⟩] =
        .error notHandlerFunc ∧
      ∃ ps', setStaticRoute (PlatformServer.init 60 ⟨0, true⟩) "static" "/srv" [] = .ok ps' ∧
        ps'.endpointHandlerMap "static*" = some (staticHandler ⟨0, true⟩ "static" "/srv" []) ∧
        getSubRoute ps' "static*" = .error "no route exists under name static*" ∧
        ps'.router.dispatch ⟨"GET", "/static/index.html"⟩ = none := by
  obtain ⟨-, -, -, hpanic, hok⟩ := static_route_not_added (PlatformServer.init 60 ⟨0, true⟩)
    "/s" "/srv" [⟨1, false⟩]
  obtain ⟨-, -, -, -, hstatic⟩ := static_route_not_added (PlatformServer.init 60 ⟨0, true⟩)
    "static" "/srv" []
  obtain ⟨ps', hps', hmap, -, hrefused⟩ := hstatic rfl
  obtain ⟨hget, hdispatch⟩ := hrefused (by decide)
  exact ⟨hpanic rfl, ps', hps', hmap, hget.trans rfl, (hdispatch _).trans rfl⟩

/-! ## Re-attaching after a clear -/

/-- The bridge `GET /v1` of channel `svc`. -/
def v1Bridge : RESTBridgeConfig where
  serviceChannel := "svc"
  uri := "/v1"
  method := "GET"
  allowHead := false
  allowOptions := false
  fabricRequestBuilder := 2

/-- Attaching `GET /v1`, clearing and publishing its channel, and attaching it again leaves the
prefix bridge `/files` of another channel as an exact route, which a single attach does not. -/
theorem reattach_after_clear_changes_router :
    ∃ ps s₁ s₃, setHttpPathPrefixChannelBridge (PlatformServer.init 60 ⟨0, true⟩) filesBridge true =
        .ok ps ∧
      ps.serviceChanToBridgeEndpoints "svc" = [] ∧ ps.endpointHandlerMap "/v1-GET" = none ∧
      setHttpChannelBridge ps v1Bridge true = .ok s₁ ∧
      setHttpChannelBridge (loadGlobalHttpHandler (clearHttpChannelBridgesForService s₁ "svc").1
        (clearHttpChannelBridgesForService s₁ "svc").2) v1Bridge true = .ok s₃ ∧
      s₁.router.map Route.kind = [.pathPrefix, .path] ∧
      s₃.router.map Route.kind = [.path, .path] := by
  refine ⟨_, _, _, rfl, by decide, by decide, rfl, rfl, by decide, by decide⟩

/-! ## Routing between publications -/

/-- Every step but a publication leaves the served router as it was or appends to it: the
operations add routes at the end, and a clear or `StartServer` only reads it. -/
theorem Registry.step_router {g g' : Registry} {op : Op} (h : g.step op = .ok g')
    (hop : ∀ i, op ≠ .loadGlobalHttpHandler i) :
    ∃ added, g'.server.router = g.server.router ++ added := by
  cases op with
  | setHttpChannelBridge cfg listenOk | setHttpPathPrefixChannelBridge cfg listenOk =>
      rcases bridgeEndpoint_router (Registry.withServer_eq_ok h).1 with hr | ⟨_, hr⟩
      · exact ⟨[], by simp [hr]⟩
      · exact ⟨_, hr⟩
  | setStaticRoute pfx fullpath middlewareFn =>
      exact ⟨_, by rw [setStaticRoute_eq_ok (Registry.withServer_eq_ok h).1]⟩
  | clearHttpChannelBridgesForService c | startServer =>
      cases h
      exact ⟨[], by simp⟩
  | loadGlobalHttpHandler i => exact absurd rfl (hop i)

theorem Registry.run_router {g g' : Registry} {ops : List Op} (h : g.run ops = .ok g')
    (hops : ∀ i, Op.loadGlobalHttpHandler i ∉ ops) :
    ∃ added, g'.server.router = g.server.router ++ added := by
  induction ops generalizing g with
  | nil =>
      cases h
      exact ⟨[], (List.append_nil _).symm⟩
  | cons op ops ih =>
      simp only [Registry.run] at h
      split at h
      next g₁ hstep =>
        obtain ⟨a₁, h₁⟩ := Registry.step_router hstep fun i hi =>
          hops i (hi ▸ List.mem_cons_self _ _)
        obtain ⟨a₂, h₂⟩ := ih h fun i hi => hops i (List.mem_cons_of_mem _ hi)
        exact ⟨a₁ ++ a₂, by rw [h₂, h₁, List.append_assoc]⟩
      next => cases h

/-- Over any run with no publication, neither of a cleared router nor of the router
`StartServer` read, and with `SetStaticRoute` never running beside another operation, the
served router only grows at its end. Since the router serves a request from its first matching
route, every request served before is served after by the same handler, and a route added later,
a static route on a short prefix included, answers only what no earlier route matched. -/
theorem served_routes_kept_until_publication {g g' : Registry} {ops : List Op}
    (hrun : g.run ops = .ok g') (hops : ∀ i, Op.loadGlobalHttpHandler i ∉ ops) :
    ∃ added, g'.server.router = g.server.router ++ added ∧
      ∀ req, g'.server.router.dispatch req =
        (g.server.router.dispatch req).or (added.dispatch req) := by
  obtain ⟨added, h⟩ := Registry.run_router hrun hops
  exact ⟨added, h, fun req => by rw [h, Router.dispatch_append]⟩

/-- Clear channel `a` without publishing, add a static route on the empty prefix, which matches
every path, and let `StartServer` read the router. -/
def spaRun : List Op :=
  [.clearHttpChannelBridgesForService "a", .setStaticRoute "" "/srv" [], .startServer]

/-- From a server that serves `GET /a` by the bridge of channel `a`. -/
theorem served_routes_kept_until_publication_spa :
    ∃ g g', (Registry.init 60 ⟨0, true⟩).run [.setHttpChannelBridge aBridge true] = .ok g ∧
      g.server.router.dispatch ⟨"GET", "/a"⟩ = some (.endpoint "a" 0 60 0) ∧
      g.run spaRun = .ok g' ∧
      ∃ added, g'.server.router = g.server.router ++ added ∧
        ∀ req, g'.server.router.dispatch req =
          (g.server.router.dispatch req).or (added.dispatch req) := by
  obtain ⟨g, hg, hserve, g', hrun⟩ :
      ∃ g, (Registry.init 60 ⟨0, true⟩).run [.setHttpChannelBridge aBridge true] = .ok g ∧
        g.server.router.dispatch ⟨"GET", "/a"⟩ = some (.endpoint "a" 0 60 0) ∧
        ∃ g', g.run spaRun = .ok g' := ⟨_, rfl, by decide, _, rfl⟩
  exact ⟨g, g', hg, hserve, hrun, served_routes_kept_until_publication hrun (by simp [spaRun])⟩

/-! ## Publishing a cleared router -/

end Ranch
