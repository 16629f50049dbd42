import Ranch.RouteTable

/-!
# Endpoint names

Every endpoint is known by one string: an exact bridge on `uri` and `method` by `uri-method`,
a prefix bridge on `uri` by `uri-*`, a static route on a prefix by `prefix*`. Both bridge
operations refuse a configuration whose name is already a key of `endpointHandlerMap`. Names of
one kind are distinct (for exact bridges, when methods contain no `-`), but names of different
kinds meet: the prefix bridge on `uri`, the exact bridge on `uri` for method `*` and the static
route on `uri-` are all named `uri-*`.
-/

namespace Ranch

/-- The endpoints the server names. -/
inductive Endpoint where
  /-- `SetHttpChannelBridge` on a uri and a method -/
  | exact (uri method : String)
  /-- `SetHttpPathPrefixChannelBridge` on a uri -/
  | pathPrefix (uri : String)
  /-- `SetStaticRoute` on a prefix -/
  | static (pfx : String)
  deriving DecidableEq, Repr

/-- The key an endpoint is registered under in `endpointHandlerMap`, and its route's name. -/
def Endpoint.name : Endpoint → String
  | .exact uri method => uri ++ "-" ++ method
  | .pathPrefix uri => uri ++ "-" ++ allMethodsWildcard
  | .static pfx => pfx ++ "*"

/-- `SetHttpChannelBridge` leaves the server as it was exactly when its endpoint's name is a key. -/
theorem setHttpChannelBridge_eq_self_iff (ps : PlatformServer) (cfg : RESTBridgeConfig)
    (listenOk : Bool) : setHttpChannelBridge ps cfg listenOk = .ok ps ↔
      (ps.endpointHandlerMap (Endpoint.exact cfg.uri cfg.method).name).isSome :=
  bridgeEndpoint_eq_self_iff

/-- `SetHttpPathPrefixChannelBridge` leaves the server as it was exactly when its endpoint's name
is a key. -/
theorem setHttpPathPrefixChannelBridge_eq_self_iff (ps : PlatformServer) (cfg : RESTBridgeConfig)
    (listenOk : Bool) : setHttpPathPrefixChannelBridge ps cfg listenOk = .ok ps ↔
      (ps.endpointHandlerMap (Endpoint.pathPrefix cfg.uri).name).isSome :=
  bridgeEndpoint_eq_self_iff

/-! ## Splitting names -/

/-- A separator that neither tail contains splits a list in one way only. -/
theorem eq_of_append_sep {α : Type} {l₁ r₁ l₂ r₂ : List α} {s : α}
    (h : l₁ ++ s :: r₁ = l₂ ++ s :: r₂) (h₁ : s ∉ r₁) (h₂ : s ∉ r₂) : l₁ = l₂ ∧ r₁ = r₂ := by
  induction l₁ generalizing l₂ with
  | nil =>
      cases l₂ with
      | nil => simpa using h
      | cons b l₂ =>
          simp only [List.nil_append, List.cons_append, List.cons.injEq] at h
          exact absurd (by rw [h.2]; simp) h₁
  | cons a l₁ ih =>
      cases l₂ with
      | nil =>
          simp only [List.nil_append, List.cons_append, List.cons.injEq] at h
          exact absurd (by rw [← h.2]; simp) h₂
      | cons b l₂ =>
          simp only [List.cons_append, List.cons.injEq] at h
          obtain ⟨hl, hr⟩ := ih h.2
          exact ⟨by rw [h.1, hl], hr⟩

theorem name_exact_data (uri method : String) :
    (Endpoint.exact uri method).name.data = uri.data ++ '-' :: method.data := by
  simp [Endpoint.name]

theorem name_exact_injective {u m u' m' : String} (hm : '-' ∉ m.data) (hm' : '-' ∉ m'.data)
    (h : (Endpoint.exact u m).name = (Endpoint.exact u' m').name) : u = u' ∧ m = m' := by
  have hdata := congrArg String.data h
  rw [name_exact_data, name_exact_data] at hdata
  obtain ⟨hu, hmm⟩ := eq_of_append_sep hdata hm hm'
  exact ⟨String.ext hu, String.ext hmm⟩

theorem name_pathPrefix_injective {u u' : String}
    (h : (Endpoint.pathPrefix u).name = (Endpoint.pathPrefix u').name) : u = u' := by
  have hdata := congrArg String.data h
  simp only [Endpoint.name, allMethodsWildcard, String.data_append, List.append_cancel_right_eq]
    at hdata
  exact String.ext hdata

theorem name_static_injective {p p' : String}
    (h : (Endpoint.static p).name = (Endpoint.static p').name) : p = p' := by
  have hdata := congrArg String.data h
  simp only [Endpoint.name, String.data_append, List.append_cancel_right_eq] at hdata
  exact String.ext hdata

theorem name_exact_eq_pathPrefix {u m u' : String} (hm : '-' ∉ m.data) :
    (Endpoint.exact u m).name = (Endpoint.pathPrefix u').name ↔
      u = u' ∧ m = allMethodsWildcard := by
  constructor
  · intro h
    exact name_exact_injective hm (by decide) h
  · rintro ⟨rfl, rfl⟩
    rfl

theorem name_pathPrefix_eq_static {u p : String} :
    (Endpoint.pathPrefix u).name = (Endpoint.static p).name ↔ p = u ++ "-" := by
  rw [String.ext_iff, String.ext_iff]
  simp only [Endpoint.name, allMethodsWildcard, String.data_append, List.append_cancel_right_eq]
  exact eq_comm

theorem name_exact_eq_static {u m p : String} :
    (Endpoint.exact u m).name = (Endpoint.static p).name ↔
      ∃ m₀, m = m₀ ++ "*" ∧ p = u ++ "-" ++ m₀ := by
  constructor
  · intro h
    have hdata := congrArg String.data h
    simp only [Endpoint.name, String.data_append] at hdata
    rcases List.eq_nil_or_concat m.data with hnil | ⟨m₀, c, hm⟩
    · rw [hnil, List.append_nil] at hdata
      exact absurd (List.append_inj' hdata rfl).2 (by decide)
    · rw [hm, List.concat_eq_append, ← List.append_assoc] at hdata
      obtain ⟨hp, hc⟩ := List.append_inj' hdata rfl
      refine ⟨⟨m₀⟩, String.ext ?_, String.ext ?_⟩
      · simpa [hm] using hc
      · simpa using hp.symm
  · rintro ⟨m₀, rfl, rfl⟩
    simp only [Endpoint.name, String.append_assoc]

/-! ## Names across kinds -/

/-- A static route on `/files-` takes the name of the prefix bridge on `/files`, which is then
refused although no prefix bridge is registered. -/
theorem prefix_bridge_refused_after_static_route :
    Endpoint.pathPrefix "/files" ≠ Endpoint.static "/files-" ∧
      (Endpoint.pathPrefix "/files").name = (Endpoint.static "/files-").name ∧
      ∃ ps, setStaticRoute (PlatformServer.init 60 ⟨0, true⟩) "/files-" "/srv" [] = .ok ps ∧
        setHttpPathPrefixChannelBridge ps filesBridge true = .ok ps ∧
        ps.serviceChanToBridgeEndpoints filesBridge.serviceChannel = [] :=
  ⟨by decide, by decide, _, rfl, rfl, rfl⟩

/-- Names of one kind are distinct (for exact bridges, among methods without `-`); across kinds
they meet exactly where `uri-*` and `uri-m*` allow; and both bridge operations refuse a
configuration exactly when its name is already a key, whichever kind of endpoint put it there. -/
theorem endpoint_names_by_kind :
    (∀ u m u' m', '-' ∉ m.data → '-' ∉ m'.data →
      (Endpoint.exact u m).name = (Endpoint.exact u' m').name → u = u' ∧ m = m') ∧
    (∀ u u', (Endpoint.pathPrefix u).name = (Endpoint.pathPrefix u').name → u = u') ∧
    (∀ p p', (Endpoint.static p).name = (Endpoint.static p').name → p = p') ∧
    (∀ u m u', '-' ∉ m.data → ((Endpoint.exact u m).name = (Endpoint.pathPrefix u').name ↔
      u = u' ∧ m = allMethodsWildcard)) ∧
    (∀ u p, (Endpoint.pathPrefix u).name = (Endpoint.static p).name ↔ p = u ++ "-") ∧
    (∀ u m p, (Endpoint.exact u m).name = (Endpoint.static p).name ↔
      ∃ m₀, m = m₀ ++ "*" ∧ p = u ++ "-" ++ m₀) ∧
    (∀ ps cfg listenOk, setHttpChannelBridge ps cfg listenOk = .ok ps ↔
      (ps.endpointHandlerMap (Endpoint.exact cfg.uri cfg.method).name).isSome) ∧
    (∀ ps cfg listenOk, setHttpPathPrefixChannelBridge ps cfg listenOk = .ok ps ↔
      (ps.endpointHandlerMap (Endpoint.pathPrefix cfg.uri).name).isSome) :=
  ⟨fun _ _ _ _ hm hm' h => name_exact_injective hm hm' h, fun _ _ => name_pathPrefix_injective,
    fun _ _ => name_static_injective, fun _ _ _ => name_exact_eq_pathPrefix,
    fun _ _ => name_pathPrefix_eq_static, fun _ _ _ => name_exact_eq_static,
    setHttpChannelBridge_eq_self_iff, setHttpPathPrefixChannelBridge_eq_self_iff⟩

end Ranch
