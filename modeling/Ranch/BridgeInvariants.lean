import Ranch.Registry

/-!
# Invariants of the bridge registry

Three invariants hold in every reachable state, under the registry's assumption that
`SetStaticRoute` runs alone. The maps stay consistent: every listed endpoint
has a handler, each endpoint is listed for one channel only, and every channel with endpoints
has its bridge. Clearing a channel only deletes handlers of names listed for it, so disjointness
is what lets clearing keep the first part, and the existence check of both bridge operations is
what keeps disjointness. The subscriptions stay single: each channel is subscribed at most once,
its bridge is never replaced, and every endpoint handler reads the queue of its channel's bridge.
And every endpoint handler in the map is listed under its own channel, so that clearing a channel
removes all of its handlers.
-/

namespace Ranch

/-! ## Consistency of the maps -/

/-- The maps of the registry agree with each other. -/
structure RegistryInv (ps : PlatformServer) : Prop where
  listed_handler : ∀ c k, k ∈ ps.serviceChanToBridgeEndpoints c → (ps.endpointHandlerMap k).isSome
  nodup : ∀ c, (ps.serviceChanToBridgeEndpoints c).Nodup
  disjoint : ∀ c d k, k ∈ ps.serviceChanToBridgeEndpoints c →
    k ∈ ps.serviceChanToBridgeEndpoints d → c = d
  bridged : ∀ c, ps.serviceChanToBridgeEndpoints c ≠ [] → (ps.messageBridgeMap c).isSome

namespace RegistryInv

variable {ps : PlatformServer}

theorem init (t : Int) (mw : Middleware) : RegistryInv (PlatformServer.init t mw) := by
  constructor <;> simp [PlatformServer.init]

/-- The invariant reads only the maps, and gaining bridges cannot break it. -/
theorem of_maps {ps' : PlatformServer} (h : RegistryInv ps)
    (hhandlers : ps'.endpointHandlerMap = ps.endpointHandlerMap)
    (hlists : ps'.serviceChanToBridgeEndpoints = ps.serviceChanToBridgeEndpoints)
    (hbridges : ∀ c b, ps.messageBridgeMap c = some b → ps'.messageBridgeMap c = some b) :
    RegistryInv ps' where
  listed_handler := hhandlers ▸ hlists ▸ h.listed_handler
  nodup := hlists ▸ h.nodup
  disjoint := hlists ▸ h.disjoint
  bridged c hc := by
    obtain ⟨b, hb⟩ := Option.isSome_iff_exists.mp (h.bridged c (hlists ▸ hc))
    simp [hbridges c b hb]

theorem addEndpoint (h : RegistryInv ps) {c key : String} {handler : Handler} {route : Route}
    (hkey : ps.endpointHandlerMap key = none) (hbridge : (ps.messageBridgeMap c).isSome) :
    RegistryInv (addEndpoint ps c key handler route) := by
  have hfresh : ∀ d, key ∉ ps.serviceChanToBridgeEndpoints d := fun d hd => by
    simpa [hkey] using h.listed_handler d key hd
  constructor
  · intro d k hk
    by_cases hkk : k = key
    · simp [hkk]
    · have hk' : k ∈ ps.serviceChanToBridgeEndpoints d := by
        simpa [hkk] using mem_addEndpoint_serviceChanToBridgeEndpoints.mp hk
      simpa [hkk] using h.listed_handler d k hk'
  · intro d
    by_cases hd : d = c
    · subst hd
      simpa [List.nodup_append] using ⟨h.nodup d, hfresh d⟩
    · simpa [hd] using h.nodup d
  · intro d₁ d₂ k hk₁ hk₂
    rcases mem_addEndpoint_serviceChanToBridgeEndpoints.mp hk₁ with hold₁ | ⟨rfl, hkey₁⟩ <;>
      rcases mem_addEndpoint_serviceChanToBridgeEndpoints.mp hk₂ with hold₂ | ⟨rfl, hkey₂⟩
    · exact h.disjoint d₁ d₂ k hold₁ hold₂
    · exact absurd (hkey₂ ▸ hold₁) (hfresh d₁)
    · exact absurd (hkey₁ ▸ hold₂) (hfresh d₂)
    · rfl
  · intro d hd
    by_cases hdc : d = c
    · subst hdc; simpa using hbridge
    · simpa using h.bridged d (by simpa [hdc] using hd)

theorem bridgeEndpoint (h : RegistryInv ps) {ps' : PlatformServer} {cfg : RESTBridgeConfig}
    {listenOk : Bool} {key : String} {route : Handler → Route}
    (hstep : bridgeEndpoint ps cfg listenOk key route = .ok ps') : RegistryInv ps' := by
  rcases bridgeEndpoint_eq_ok hstep with ⟨-, rfl⟩ | ⟨hkey, ps₁, bridge, hensure, rfl⟩
  · exact h
  · obtain ⟨hhandlers, hlists, -, -, hbridge, hgrow⟩ := ensureMessageBridge_maps hensure
    exact (h.of_maps hhandlers hlists hgrow).addEndpoint (hhandlers ▸ hkey) (by simp [hbridge])

theorem setStaticRoute (h : RegistryInv ps) {ps' : PlatformServer} {pfx fullpath : String}
    {middlewareFn : List Middleware}
    (hstep : setStaticRoute ps pfx fullpath middlewareFn = .ok ps') : RegistryInv ps' := by
  rw [setStaticRoute_eq_ok hstep]
  refine ⟨fun c k hk => ?_, h.nodup, h.disjoint, h.bridged⟩
  by_cases hkk : k = pfx ++ "*"
  · subst hkk; simp
  · simpa [hkk] using h.listed_handler c k hk

theorem clear (h : RegistryInv ps) (serviceChannel : String) :
    RegistryInv (clearHttpChannelBridgesForService ps serviceChannel).1 := by
  constructor
  · intro d k hk
    obtain ⟨hd, hk⟩ := mem_clearHttpChannelBridgesForService_serviceChanToBridgeEndpoints.mp hk
    have hnot : k ∉ ps.serviceChanToBridgeEndpoints serviceChannel :=
      fun hc => hd (h.disjoint d serviceChannel k hk hc)
    simpa [hnot] using h.listed_handler d k hk
  · intro d
    by_cases hd : d = serviceChannel
    · subst hd; simp
    · simpa [hd] using h.nodup d
  · intro d₁ d₂ k hk₁ hk₂
    exact h.disjoint d₁ d₂ k
      (mem_clearHttpChannelBridgesForService_serviceChanToBridgeEndpoints.mp hk₁).2
      (mem_clearHttpChannelBridgesForService_serviceChanToBridgeEndpoints.mp hk₂).2
  · intro d hd
    by_cases hdc : d = serviceChannel
    · subst hdc; simp at hd
    · simpa using h.bridged d (by simpa [hdc] using hd)

theorem step (h : RegistryInv g.server) {g' : Registry} (hs : Registry.Step g g') :
    RegistryInv g'.server := by
  obtain ⟨op, hop⟩ := hs
  rcases Registry.step_cases hop with
    ⟨cfg, listenOk, key, kind, methods, hbridge, -⟩ | ⟨pfx, fullpath, mws, hstatic, -⟩ |
      ⟨c, hserver, -⟩ | ⟨hserver, -⟩ | ⟨i, R, -, hserver, -⟩
  · exact h.bridgeEndpoint hbridge
  · exact h.setStaticRoute hstatic
  · exact hserver ▸ h.clear c
  · exact hserver ▸ h
  · exact hserver ▸ h.of_maps rfl rfl fun _ _ hb => hb

end RegistryInv

/-- In every state reachable by any interleaving of the registry operations, with
`SetStaticRoute`, which takes no lock, never running beside another, the maps are consistent, and
so clearing a channel keeps the handler of every endpoint listed for another. -/
theorem registry_maps_consistent {g : Registry} (hg : g.Reachable) :
    RegistryInv g.server ∧
      ∀ c d k, c ≠ d → k ∈ g.server.serviceChanToBridgeEndpoints d →
        (clearHttpChannelBridgesForService g.server c).1.endpointHandlerMap k =
          g.server.endpointHandlerMap k := by
  have hinv : RegistryInv g.server :=
    Registry.Reachable.induction (P := fun g => RegistryInv g.server) RegistryInv.init
      (fun _ _ h hs => h.step hs) hg
  refine ⟨hinv, fun c d k hcd hk => ?_⟩
  have hnot : k ∉ g.server.serviceChanToBridgeEndpoints c :=
    fun hc => hcd (hinv.disjoint c d k hc hk)
  simp [hnot]

/-- The bridge `GET /a` of channel `a`. -/
def aBridge : RESTBridgeConfig where
  serviceChannel := "a"
  uri := "/a"
  method := "GET"
  allowHead := false
  allowOptions := false
  fabricRequestBuilder := 0

/-- The bridge `GET /b` of channel `b`. -/
def bBridge : RESTBridgeConfig where
  serviceChannel := "b"
  uri := "/b"
  method := "GET"
  allowHead := false
  allowOptions := false
  fabricRequestBuilder := 1

/-- Attach `GET /a`, clear channel `a`, attach `GET /b` before the cleared router is published,
then publish it. -/
def raceRun : List Op :=
  [.setHttpChannelBridge aBridge true, .clearHttpChannelBridgesForService "a",
    .setHttpChannelBridge bBridge true, .loadGlobalHttpHandler 0]

theorem registry_maps_consistent_race :
    ∃ g, (Registry.init 60 ⟨0, true⟩).run raceRun = .ok g ∧
      "/b-GET" ∈ g.server.serviceChanToBridgeEndpoints "b" ∧
      (RegistryInv g.server ∧
        ∀ c d k, c ≠ d → k ∈ g.server.serviceChanToBridgeEndpoints d →
          (clearHttpChannelBridgesForService g.server c).1.endpointHandlerMap k =
            g.server.endpointHandlerMap k) := by
  obtain ⟨g, hg, hb⟩ : ∃ g, (Registry.init 60 ⟨0, true⟩).run raceRun = .ok g ∧
      "/b-GET" ∈ g.server.serviceChanToBridgeEndpoints "b" := ⟨_, rfl, by decide⟩
  exact ⟨g, hg, hb, registry_maps_consistent (Registry.reachable_of_run hg)⟩

/-! ## One subscription per channel -/

/-- An endpoint handler built for channel `c` reads the payload channel of `c`'s bridge. -/
def BoundTo (bridges : String → Option MessageBridge) (handler : Handler) : Prop :=
  ∀ c rb t q, handler = .endpoint c rb t q →
    ∃ bridge, bridges c = some bridge ∧ q = bridge.payloadChannel

theorem BoundTo.mono {bridges bridges' : String → Option MessageBridge} {handler : Handler}
    (h : BoundTo bridges handler)
    (hgrow : ∀ c b, bridges c = some b → bridges' c = some b) : BoundTo bridges' handler :=
  fun c rb t q he => let ⟨b, hb, hq⟩ := h c rb t q he; ⟨b, hgrow c b hb, hq⟩

/-- A route holds its handler or none, so it is bound when its handler is. -/
theorem BoundTo.build {bridges : String → Option MessageBridge} {handler : Handler}
    (h : BoundTo bridges handler) (nameFirst : Bool) (name : String) (kind : MatchKind)
    (tpl : String) (methods : Option (List String)) :
    BoundTo bridges (Route.build nameFirst name kind tpl methods handler).handler := by
  rcases Route.build_handler nameFirst name kind tpl methods handler with he | he <;> rw [he]
  · exact h
  · exact fun _ _ _ _ he => Handler.noConfusion he

/-- The bus holds one subscription per bridged channel, each bridge is the one its channel's
subscription created, and every handler, in the maps or in a router served or held, reads the
queue of its channel's bridge. -/
structure SubscriptionInv (ps : PlatformServer) (held : List Router) : Prop where
  streams_nodup : ps.listenStreams.Nodup
  subscribed_iff : ∀ c, c ∈ ps.listenStreams ↔ (ps.messageBridgeMap c).isSome
  bridge_stream : ∀ c bridge, ps.messageBridgeMap c = some bridge →
    ps.listenStreams[bridge.serviceListenStream]? = some c ∧
      bridge.payloadChannel = bridge.serviceListenStream
  handlers_bound : ∀ k handler, ps.endpointHandlerMap k = some handler →
    BoundTo ps.messageBridgeMap handler
  routes_bound : ∀ R ∈ ps.router :: held, ∀ r ∈ R, BoundTo ps.messageBridgeMap r.handler

namespace SubscriptionInv

variable {ps : PlatformServer} {held : List Router}

theorem init (t : Int) (mw : Middleware) : SubscriptionInv (PlatformServer.init t mw) [] := by
  constructor <;> simp [PlatformServer.init]

theorem subscribe (h : SubscriptionInv ps held) {c : String} (hnone : ps.messageBridgeMap c = none) :
    SubscriptionInv (Ranch.subscribe ps c).1 held := by
  have hgrow : ∀ d b, ps.messageBridgeMap d = some b →
      (Ranch.subscribe ps c).1.messageBridgeMap d = some b :=
    fun d b hb => by
      have hd : d ≠ c := by rintro rfl; simp [hnone] at hb
      simpa [Function.update_noteq hd] using hb
  have hfresh : c ∉ ps.listenStreams := by simp [h.subscribed_iff, hnone]
  constructor
  · simpa using h.streams_nodup.append (List.nodup_singleton c) (by simpa using hfresh)
  · intro d
    by_cases hd : d = c
    · subst hd; simp
    · simpa [hd, Function.update_noteq] using h.subscribed_iff d
  · intro d bridge hb
    by_cases hd : d = c
    · subst hd
      simp only [subscribe_fst_messageBridgeMap, Function.update_same, Option.some.injEq] at hb
      subst hb
      simp [List.getElem?_concat_length]
    · simp only [subscribe_fst_messageBridgeMap, Function.update_noteq hd] at hb
      obtain ⟨hidx, hpay⟩ := h.bridge_stream d bridge hb
      refine ⟨?_, hpay⟩
      obtain ⟨hlt, -⟩ := List.getElem?_eq_some_iff.mp hidx
      simpa [List.getElem?_append_left hlt] using hidx
  · exact fun k handler hk => (h.handlers_bound k handler hk).mono hgrow
  · exact fun R hR r hr => (h.routes_bound R hR r hr).mono hgrow

theorem addEndpoint (h : SubscriptionInv ps held) {cfg : RESTBridgeConfig} {key : String}
    {bridge : MessageBridge} {route : Route}
    (hbridge : ps.messageBridgeMap cfg.serviceChannel = some bridge)
    (hroute : route.handler = buildEndpointHandler ps cfg bridge ∨ route.handler = .unset) :
    SubscriptionInv (addEndpoint ps cfg.serviceChannel key (buildEndpointHandler ps cfg bridge) route)
      held := by
  have hnew : BoundTo ps.messageBridgeMap (buildEndpointHandler ps cfg bridge) := by
    rintro c rb t q he
    cases he
    exact ⟨bridge, hbridge, rfl⟩
  refine ⟨h.streams_nodup, h.subscribed_iff, h.bridge_stream, fun k handler hk => ?_, ?_⟩
  · by_cases hkk : k = key
    · subst hkk
      simp only [addEndpoint_endpointHandlerMap, Function.update_same, Option.some.injEq] at hk
      exact hk ▸ hnew
    · exact h.handlers_bound k handler (by simpa [hkk] using hk)
  · intro R hR r hr
    simp only [addEndpoint_router, List.mem_cons] at hR
    rcases hR with rfl | hR
    · rcases List.mem_append.mp hr with hr | hr
      · exact h.routes_bound _ (List.mem_cons_self _ _) r hr
      · rw [List.mem_singleton.mp hr]
        rcases hroute with hroute | hroute <;> rw [hroute]
        · exact hnew
        · exact fun _ _ _ _ he => Handler.noConfusion he
    · exact h.routes_bound R (List.mem_cons_of_mem _ hR) r hr

theorem bridgeEndpoint (h : SubscriptionInv ps held) {ps' : PlatformServer}
    {cfg : RESTBridgeConfig} {listenOk : Bool} {key : String} {route : Handler → Route}
    (hroute : ∀ handler, (route handler).handler = handler ∨ (route handler).handler = .unset)
    (hstep : Ranch.bridgeEndpoint ps cfg listenOk key route = .ok ps') :
    SubscriptionInv ps' held := by
  rcases bridgeEndpoint_eq_ok hstep with ⟨-, rfl⟩ | ⟨-, ps₁, bridge, hensure, rfl⟩
  · exact h
  · have h₁ : SubscriptionInv ps₁ held := by
      rcases ensureMessageBridge_eq_ok hensure with ⟨-, rfl⟩ | ⟨hnone, hres⟩
      · exact h
      · rw [show ps₁ = (Ranch.subscribe ps cfg.serviceChannel).1 from congrArg Prod.fst hres]
        exact h.subscribe hnone
    exact h₁.addEndpoint (ensureMessageBridge_maps hensure).2.2.2.2.1 (hroute _)

theorem setStaticRoute (h : SubscriptionInv ps held) {ps' : PlatformServer}
    {pfx fullpath : String} {middlewareFn : List Middleware}
    (hstep : Ranch.setStaticRoute ps pfx fullpath middlewareFn = .ok ps') :
    SubscriptionInv ps' held := by
  rw [setStaticRoute_eq_ok hstep]
  have hstatic : BoundTo ps.messageBridgeMap
      (staticHandler ps.basicSecurityHeaderMiddleware pfx fullpath middlewareFn) :=
    fun c rb t q he => absurd he (staticHandler_ne_endpoint _ _ _ _ c rb t q)

  refine ⟨h.streams_nodup, h.subscribed_iff, h.bridge_stream, fun k handler hk => ?_,
    fun R hR r hr => ?_⟩
  · by_cases hkk : k = pfx ++ "*"
    · subst hkk
      simp only [Function.update_same, Option.some.injEq] at hk
      exact hk ▸ hstatic
    · exact h.handlers_bound k handler (by simpa [hkk] using hk)
  · rcases List.mem_cons.mp hR with rfl | hR
    · rcases List.mem_append.mp hr with hr | hr
      · exact h.routes_bound _ (List.mem_cons_self _ _) r hr
      · rw [List.mem_singleton.mp hr]
        exact hstatic.build _ _ _ _ _
    · exact h.routes_bound R (List.mem_cons_of_mem _ hR) r hr

theorem clear (h : SubscriptionInv ps held) (c : String) :
    SubscriptionInv (clearHttpChannelBridgesForService ps c).1
      (held ++ [(clearHttpChannelBridgesForService ps c).2]) := by
  refine ⟨h.streams_nodup, h.subscribed_iff, h.bridge_stream, fun k handler hk => ?_,
    fun R hR r hr => ?_⟩
  · simp only [clearHttpChannelBridgesForService_fst_endpointHandlerMap, deleteKeys_apply] at hk
    split_ifs at hk
    exact h.handlers_bound k handler hk
  · simp only [List.mem_cons, List.mem_append, List.mem_singleton, List.not_mem_nil,
      or_false] at hR
    rcases hR with rfl | hR | rfl
    · exact h.routes_bound _ (List.mem_cons_self _ _) r hr
    · exact h.routes_bound R (List.mem_cons_of_mem _ hR) r hr
    · simp only [clearHttpChannelBridgesForService_snd, List.mem_map, List.mem_filter] at hr
      obtain ⟨r₀, ⟨hr₀, -⟩, rfl⟩ := hr
      exact (h.routes_bound _ (List.mem_cons_self _ _) r₀ hr₀).build _ _ _ _ _

theorem startServer (h : SubscriptionInv ps held) : SubscriptionInv ps (held ++ [ps.router]) := by
  refine ⟨h.streams_nodup, h.subscribed_iff, h.bridge_stream, h.handlers_bound,
    fun R hR r hr => h.routes_bound R ?_ r hr⟩
  simp only [List.mem_cons, List.mem_append, List.mem_singleton] at hR ⊢
  tauto

theorem load (h : SubscriptionInv ps held) {i : Nat} {R : Router} (hR : held[i]? = some R) :
    SubscriptionInv (loadGlobalHttpHandler ps R) (held.eraseIdx i) := by
  refine ⟨h.streams_nodup, h.subscribed_iff, h.bridge_stream, h.handlers_bound,
    fun R' hR' r hr => ?_⟩
  rcases List.mem_cons.mp hR' with rfl | hR'
  · exact h.routes_bound _ (List.mem_cons_of_mem _ (List.getElem?_mem hR)) r hr
  · exact h.routes_bound R' (List.mem_cons_of_mem _ (List.mem_of_mem_eraseIdx hR')) r hr

theorem step {g g' : Registry} (h : SubscriptionInv g.server g.held) (hs : Registry.Step g g') :
    SubscriptionInv g'.server g'.held := by
  obtain ⟨op, hop⟩ := hs
  rcases Registry.step_cases hop with
    ⟨cfg, listenOk, key, kind, methods, hbridge, hheld⟩ | ⟨pfx, fullpath, mws, hstatic, hheld⟩ |
      ⟨c, hserver, hheld⟩ | ⟨hserver, hheld⟩ | ⟨i, R, hR, hserver, hheld⟩
  · rw [hheld]
    exact h.bridgeEndpoint (Route.build_handler false key kind cfg.uri methods) hbridge
  · rw [hheld]
    exact h.setStaticRoute hstatic
  · rw [hserver, hheld]
    exact h.clear c
  · rw [hserver, hheld]
    exact h.startServer
  · rw [hserver, hheld]
    exact h.load hR

/-- Distinct channels' bridges feed distinct payload channels. -/
theorem payloadChannel_injective (h : SubscriptionInv ps held) {c d : String}
    {bc bd : MessageBridge} (hc : ps.messageBridgeMap c = some bc)
    (hd : ps.messageBridgeMap d = some bd) (heq : bc.payloadChannel = bd.payloadChannel) :
    c = d := by
  obtain ⟨hcs, hcp⟩ := h.bridge_stream c bc hc
  obtain ⟨hds, hdp⟩ := h.bridge_stream d bd hd
  rw [← hcp, heq, hdp, hds] at hcs
  exact (Option.some.inj hcs).symm

end SubscriptionInv


/-- A stored bridge survives every step. -/
theorem Registry.step_keeps_messageBridge {g g' : Registry} (hs : Registry.Step g g')
    {c : String} {bridge : MessageBridge} (hb : g.server.messageBridgeMap c = some bridge) :
    g'.server.messageBridgeMap c = some bridge := by
  obtain ⟨op, hop⟩ := hs
  rcases Registry.step_cases hop with
    ⟨cfg, listenOk, key, kind, methods, hbridge, -⟩ | ⟨pfx, fullpath, mws, hstatic, -⟩ |
      ⟨c, hserver, -⟩ | ⟨hserver, -⟩ | ⟨i, R, -, hserver, -⟩
  · rcases bridgeEndpoint_eq_ok hbridge with ⟨-, hps⟩ | ⟨-, ps₁, bridge₁, hensure, hps⟩
    · exact hps ▸ hb
    · rw [hps]
      exact (ensureMessageBridge_maps hensure).2.2.2.2.2 c bridge hb
  · exact setStaticRoute_eq_ok hstatic ▸ hb
  · exact hserver ▸ hb
  · exact hserver ▸ hb
  · exact hserver ▸ hb

/-- The bus's subscriptions only grow. -/
theorem Registry.step_listenStreams {g g' : Registry} (hs : Registry.Step g g') :
    g.server.listenStreams <+: g'.server.listenStreams := by
  obtain ⟨op, hop⟩ := hs
  rcases Registry.step_cases hop with
    ⟨cfg, listenOk, key, kind, methods, hbridge, -⟩ | ⟨pfx, fullpath, mws, hstatic, -⟩ |
      ⟨c, hserver, -⟩ | ⟨hserver, -⟩ | ⟨i, R, -, hserver, -⟩
  · rcases bridgeEndpoint_eq_ok hbridge with ⟨-, hps⟩ | ⟨-, ps₁, bridge₁, hensure, hps⟩
    · exact hps ▸ List.prefix_refl _
    · rw [hps, addEndpoint_listenStreams]
      rcases ensureMessageBridge_eq_ok hensure with ⟨-, hres⟩ | ⟨-, hres⟩
      · exact hres ▸ List.prefix_refl _
      · rw [show ps₁ = (subscribe g.server cfg.serviceChannel).1 from congrArg Prod.fst hres]
        exact List.prefix_append _ _
  · exact setStaticRoute_eq_ok hstatic ▸ List.prefix_refl _
  · exact hserver ▸ List.prefix_refl _
  · exact hserver ▸ List.prefix_refl _
  · exact hserver ▸ List.prefix_refl _

/-- A bridge a step creates reads a payload channel past every earlier subscription. -/
theorem Registry.step_new_bridge {g g' : Registry} (hs : Registry.Step g g')
    (hinv : SubscriptionInv g.server g.held) {c : String} {bridge : MessageBridge}
    (hnone : g.server.messageBridgeMap c = none)
    (hb : g'.server.messageBridgeMap c = some bridge) :
    g.server.listenStreams.length ≤ bridge.payloadChannel := by
  obtain ⟨l, hl⟩ := Registry.step_listenStreams hs
  obtain ⟨hidx, hpay⟩ := (hinv.step hs).bridge_stream c bridge hb
  rw [hpay]
  by_contra hlt
  rw [← hl, List.getElem?_append_left (Nat.lt_of_not_le hlt)] at hidx
  simpa [hnone] using (hinv.subscribed_iff c).mp (List.getElem?_mem hidx)

/-- Over any interleaving of the registry operations, with `SetStaticRoute` never running beside
another, `ListenStream` is called once at most on each channel, the bridge stored for a channel is
the one its subscription created and is never replaced or removed, and every endpoint handler, in
the map or in a router served or held, is bound to the payload channel of its channel's
bridge. -/
theorem messageBridge_single_per_channel {g : Registry} (hg : g.Reachable) :
    g.server.listenStreams.Nodup ∧
      (∀ c bridge, g.server.messageBridgeMap c = some bridge →
        g.server.listenStreams[bridge.serviceListenStream]? = some c ∧
          bridge.payloadChannel = bridge.serviceListenStream) ∧
      (∀ g', Relation.ReflTransGen Registry.Step g g' → ∀ c bridge,
        g.server.messageBridgeMap c = some bridge → g'.server.messageBridgeMap c = some bridge) ∧
      (∀ k handler, g.server.endpointHandlerMap k = some handler →
        BoundTo g.server.messageBridgeMap handler) ∧
      (∀ R ∈ g.server.router :: g.held, ∀ r ∈ R, BoundTo g.server.messageBridgeMap r.handler) := by
  have hinv : SubscriptionInv g.server g.held :=
    Registry.Reachable.induction (P := fun g => SubscriptionInv g.server g.held)
      SubscriptionInv.init (fun _ _ h hs => h.step hs) hg
  refine ⟨hinv.streams_nodup, hinv.bridge_stream, fun g' hrun c bridge hb => ?_,
    hinv.handlers_bound, hinv.routes_bound⟩
  induction hrun with
  | refl => exact hb
  | tail _ hs ih => exact Registry.step_keeps_messageBridge hs ih

theorem messageBridge_single_per_channel_race :
    ∃ g, (Registry.init 60 ⟨0, true⟩).run raceRun = .ok g ∧ g.server.listenStreams = ["a", "b"] ∧
      g.server.endpointHandlerMap "/b-GET" = some (.endpoint "b" 1 60 1) ∧
      (g.server.listenStreams.Nodup ∧
        (∀ c bridge, g.server.messageBridgeMap c = some bridge →
          g.server.listenStreams[bridge.serviceListenStream]? = some c ∧
            bridge.payloadChannel = bridge.serviceListenStream) ∧
        (∀ g', Relation.ReflTransGen Registry.Step g g' → ∀ c bridge,
          g.server.messageBridgeMap c = some bridge → g'.server.messageBridgeMap c = some bridge) ∧
        (∀ k handler, g.server.endpointHandlerMap k = some handler →
          BoundTo g.server.messageBridgeMap handler) ∧
        (∀ R ∈ g.server.router :: g.held, ∀ r ∈ R, BoundTo g.server.messageBridgeMap r.handler)) := by
  obtain ⟨g, hg, hs, hk⟩ : ∃ g, (Registry.init 60 ⟨0, true⟩).run raceRun = .ok g ∧
      g.server.listenStreams = ["a", "b"] ∧
      g.server.endpointHandlerMap "/b-GET" = some (.endpoint "b" 1 60 1) := ⟨_, rfl, rfl, rfl⟩
  exact ⟨g, hg, hs, hk, messageBridge_single_per_channel (Registry.reachable_of_run hg)⟩

/-! ## A channel the bus cannot listen on -/

/-- `ListenStream`'s error is discarded and `Handle` is called on the nil handler it returned:
on a channel with no bridge yet, either bridge operation on a free name panics, and the registry
takes no step. -/
theorem unlistenable_channel_panics (g : Registry) (cfg : RESTBridgeConfig)
    (hnone : g.server.messageBridgeMap cfg.serviceChannel = none) :
    (g.server.endpointHandlerMap (cfg.uri ++ "-" ++ cfg.method) = none →
      g.step (.setHttpChannelBridge cfg false) = .error nilDereference) ∧
    (g.server.endpointHandlerMap (cfg.uri ++ "-" ++ allMethodsWildcard) = none →
      g.step (.setHttpPathPrefixChannelBridge cfg false) = .error nilDereference) := by
  refine ⟨fun hkey => ?_, fun hkey => ?_⟩ <;>
    simp [Registry.step, Registry.withServer, setHttpChannelBridge,
      setHttpPathPrefixChannelBridge, bridgeEndpoint_of_listen_failure hkey hnone]

/-- A bridge `GET /m` on channel `missing`, which the bus does not have. -/
def missingBridge : RESTBridgeConfig where
  serviceChannel := "missing"
  uri := "/m"
  method := "GET"
  allowHead := false
  allowOptions := false
  fabricRequestBuilder := 0

theorem unlistenable_channel_panics_fresh :
    (Registry.init 60 ⟨0, true⟩).step (.setHttpChannelBridge missingBridge false) =
        .error nilDereference ∧
      (Registry.init 60 ⟨0, true⟩).step (.setHttpPathPrefixChannelBridge missingBridge false) =
        .error nilDereference :=
  ⟨(unlistenable_channel_panics _ _ rfl).1 rfl, (unlistenable_channel_panics _ _ rfl).2 rfl⟩

/-! ## Endpoint handlers stay listed -/

/-- Every endpoint handler in `endpointHandlerMap` is listed under the channel it was built for. -/
def HandlersListed (ps : PlatformServer) : Prop :=
  ∀ k c rb t q, ps.endpointHandlerMap k = some (.endpoint c rb t q) →
    k ∈ ps.serviceChanToBridgeEndpoints c

namespace HandlersListed

variable {ps : PlatformServer}

theorem init (t : Int) (mw : Middleware) : HandlersListed (PlatformServer.init t mw) :=
  fun _ _ _ _ _ hk => by simp [PlatformServer.init] at hk

theorem bridgeEndpoint (h : HandlersListed ps) {ps' : PlatformServer} {cfg : RESTBridgeConfig}
    {listenOk : Bool} {key : String} {route : Handler → Route}
    (hstep : Ranch.bridgeEndpoint ps cfg listenOk key route = .ok ps') : HandlersListed ps' := by
  rcases bridgeEndpoint_eq_ok hstep with ⟨-, rfl⟩ | ⟨-, ps₁, bridge, hensure, rfl⟩
  · exact h
  · obtain ⟨hhandlers, hlists, -⟩ := ensureMessageBridge_maps hensure
    intro k c rb t q hk
    refine mem_addEndpoint_serviceChanToBridgeEndpoints.mpr ?_
    by_cases hkk : k = key
    · subst hkk
      simp only [addEndpoint_endpointHandlerMap, Function.update_same, Option.some.injEq,
        buildEndpointHandler, Handler.endpoint.injEq] at hk
      exact .inr ⟨hk.1.symm, rfl⟩
    · simp only [addEndpoint_endpointHandlerMap, Function.update_noteq hkk, hhandlers] at hk
      exact .inl (hlists ▸ h k c rb t q hk)

theorem setStaticRoute (h : HandlersListed ps) {ps' : PlatformServer} {pfx fullpath : String}
    {middlewareFn : List Middleware}
    (hstep : Ranch.setStaticRoute ps pfx fullpath middlewareFn = .ok ps') : HandlersListed ps' := by
  rw [setStaticRoute_eq_ok hstep]
  intro k c rb t q hk
  by_cases hkk : k = pfx ++ "*"
  · subst hkk
    simp only [Function.update_same, Option.some.injEq] at hk
    exact absurd hk (staticHandler_ne_endpoint _ _ _ _ c rb t q)
  · exact h k c rb t q (by simpa [hkk] using hk)

theorem clear (h : HandlersListed ps) (serviceChannel : String) :
    HandlersListed (clearHttpChannelBridgesForService ps serviceChannel).1 := by
  intro k c rb t q hk
  simp only [clearHttpChannelBridgesForService_fst_endpointHandlerMap, deleteKeys_apply] at hk
  split_ifs at hk with hcleared
  have hc := h k c rb t q hk
  refine mem_clearHttpChannelBridgesForService_serviceChanToBridgeEndpoints.mpr ⟨?_, hc⟩
  rintro rfl
  exact hcleared hc

theorem step {g g' : Registry} (h : HandlersListed g.server) (hs : Registry.Step g g') :
    HandlersListed g'.server := by
  obtain ⟨op, hop⟩ := hs
  rcases Registry.step_cases hop with
    ⟨cfg, listenOk, key, kind, methods, hbridge, -⟩ | ⟨pfx, fullpath, mws, hstatic, -⟩ |
      ⟨c, hserver, -⟩ | ⟨hserver, -⟩ | ⟨i, R, -, hserver, -⟩
  · exact h.bridgeEndpoint hbridge
  · exact h.setStaticRoute hstatic
  · exact hserver ▸ h.clear c
  · exact hserver ▸ h
  · rw [hserver]; exact h

end HandlersListed

/-- Over any interleaving, with `SetStaticRoute` never running beside another operation, every
endpoint handler `endpointHandlerMap` holds is listed under the channel it was built for (a
static route that takes an endpoint's name replaces its handler), so clearing a channel deletes
every handler of that channel from the map. -/
theorem cleared_channel_keeps_no_handler {g : Registry} (hg : g.Reachable) :
    HandlersListed g.server ∧
      ∀ c k rb t q, (clearHttpChannelBridgesForService g.server c).1.endpointHandlerMap k ≠
        some (.endpoint c rb t q) := by
  have hinv : HandlersListed g.server :=
    Registry.Reachable.induction (P := fun g => HandlersListed g.server) HandlersListed.init
      (fun _ _ h hs => h.step hs) hg
  exact ⟨hinv, fun c k rb t q hk => by simpa using hinv.clear c k c rb t q hk⟩

theorem cleared_channel_keeps_no_handler_race :
    ∃ g, (Registry.init 60 ⟨0, true⟩).run raceRun = .ok g ∧
      g.server.endpointHandlerMap "/b-GET" = some (.endpoint "b" 1 60 1) ∧
      (HandlersListed g.server ∧
        ∀ c k rb t q, (clearHttpChannelBridgesForService g.server c).1.endpointHandlerMap k ≠
          some (.endpoint c rb t q)) := by
  obtain ⟨g, hg, hk⟩ : ∃ g, (Registry.init 60 ⟨0, true⟩).run raceRun = .ok g ∧
      g.server.endpointHandlerMap "/b-GET" = some (.endpoint "b" 1 60 1) := ⟨_, rfl, rfl⟩
  exact ⟨g, hg, hk, cleared_channel_keeps_no_handler (Registry.reachable_of_run hg)⟩

end Ranch
