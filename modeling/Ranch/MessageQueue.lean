import Ranch.RouteTable

/-!
# The payload queues of the message bridges

A bridge's subscription callback sends each bus message on the bridge's payload channel, a Go
channel buffered for 100 messages. A send on a full buffer blocks until a consumer receives:
nothing is dropped, and the bus's delivery waits meanwhile.

The callback reads `ps.messageBridgeMap` without `ps.lock`. A bridge operation on a new channel
registers the callback with `handler.Handle` before it stores the channel's bridge, so an attach
is three steps here: the subscription goes live, the store begins, and the store ends together
with the rest of the operation. A delivery on the new channel before the store finds no bridge
and panics on it; a delivery on any channel while the store runs reads the map during a write,
a data race that the Go runtime may abort as a concurrent map read and write. Between attaches
the callback reads a map no one writes. Registry operations hold `ps.lock` or are taken to run
alone, so none overlaps an attach.

The system interleaves registry operations, attaches, deliveries by the bus and receives by the
endpoint handlers, and records for each payload channel every message the callback sent on it
and how many its consumers received.
-/

namespace Ranch

/-- The buffer size of a payload channel, `make(chan *model.Message, 100)`. -/
def payloadCapacity : Nat := 100

/-- A bus message, by identity. -/
abbrev Message := Nat

/-- What one invocation of a bridge's subscription callback does. -/
inductive CallbackOutcome where
  /-- the send completed, leaving this buffer on this payload channel -/
  | delivered (payloadChannel : Nat) (buffer : List Message)
  /-- the buffer is full, and the send waits for a receiver -/
  | blocked
  /-- `ps.messageBridgeMap[c]` is nil, and reading its field panics -/
  | nilBridge
  /-- the read of `ps.messageBridgeMap` runs while an attach writes it -/
  | concurrentMapAccess
  deriving DecidableEq, Repr

/-- The callback `func(message) { ps.messageBridgeMap[c].payloadChannel <- message }`, on a map
no one is writing. -/
def bridgeCallback (bridges : String → Option MessageBridge) (queues : Nat → List Message)
    (serviceChannel : String) (message : Message) : CallbackOutcome :=
  match bridges serviceChannel with
  | none => .nilBridge
  | some bridge =>
    if (queues bridge.payloadChannel).length < payloadCapacity then
      .delivered bridge.payloadChannel (queues bridge.payloadChannel ++ [message])
    else .blocked

theorem bridgeCallback_eq_delivered {bridges : String → Option MessageBridge}
    {queues : Nat → List Message} {serviceChannel : String} {message q : Nat}
    {buffer : List Message}
    (h : bridgeCallback bridges queues serviceChannel message = .delivered q buffer) :
    ∃ bridge, bridges serviceChannel = some bridge ∧ q = bridge.payloadChannel ∧
      (queues q).length < payloadCapacity ∧ buffer = queues q ++ [message] := by
  unfold bridgeCallback at h
  split at h
  · cases h
  next bridge hb =>
    split at h
    · cases h
      exact ⟨bridge, hb, rfl, by assumption, rfl⟩
    · cases h

/-- The channel a bridge operation on `key` subscribes to: one on a free endpoint name for a
channel with no bridge yet. -/
def newSubscription (ps : PlatformServer) (cfg : RESTBridgeConfig) (key : String) :
    Option String :=
  if ps.endpointHandlerMap key = none ∧ ps.messageBridgeMap cfg.serviceChannel = none then
    some cfg.serviceChannel
  else none

/-- The channel an operation subscribes to, if it is a bridge operation that reaches
`ListenStream`. -/
def Op.newSubscription (ps : PlatformServer) : Op → Option String
  | .setHttpChannelBridge cfg _ => Ranch.newSubscription ps cfg (cfg.uri ++ "-" ++ cfg.method)
  | .setHttpPathPrefixChannelBridge cfg _ =>
      Ranch.newSubscription ps cfg (cfg.uri ++ "-" ++ allMethodsWildcard)
  | _ => none

theorem newSubscription_unbridged {ps : PlatformServer} {cfg : RESTBridgeConfig} {key c : String}
    (h : newSubscription ps cfg key = some c) : ps.messageBridgeMap c = none := by
  unfold newSubscription at h
  split_ifs at h with hfree
  cases h
  exact hfree.2

theorem Op.newSubscription_unbridged {ps : PlatformServer} {op : Op} {c : String}
    (h : Op.newSubscription ps op = some c) : ps.messageBridgeMap c = none := by
  cases op
  case setHttpChannelBridge | setHttpPathPrefixChannelBridge => exact Ranch.newSubscription_unbridged h
  all_goals cases h

/-- A bridge operation on a new channel, from its `handler.Handle` to the end of its store of the
channel's bridge. -/
structure Attach where
  /-- the channel whose subscription is live and whose bridge is not stored yet -/
  serviceChannel : String
  /-- the registry the operation leaves when it completes -/
  result : Registry
  /-- `ps.messageBridgeMap[c] = &MessageBridge{...}` is under way -/
  storing : Bool

/-- The registry with the attach under way, if any, the buffers of the payload channels, and for
each payload channel the messages the callback sent on it and the number its consumers
received. -/
structure BridgeQueues where
  registry : Registry
  attach : Option Attach
  queues : Nat → List Message
  sent : Nat → List Message
  received : Nat → Nat

/-- One event: a registry operation that subscribes no new channel, the three steps of an
operation that does, the bus delivering a message to a channel's subscription, or an endpoint
handler receiving from a payload channel. -/
inductive QueueEvent where
  | registry (op : Op)
  /-- the operation runs up to `handler.Handle`: the subscription is live -/
  | subscribe (op : Op)
  /-- the store of the new bridge in `messageBridgeMap` begins -/
  | storeBridge
  /-- the store ends, and the operation runs to its end -/
  | finishAttach
  | deliver (serviceChannel : String) (message : Message)
  | receive (payloadChannel : Nat)

namespace BridgeQueues

/-- A fresh server, with empty buffers. -/
def init (restBridgeTimeout : Int) (basicSecurityHeaderMiddleware : Middleware) : BridgeQueues :=
  ⟨Registry.init restBridgeTimeout basicSecurityHeaderMiddleware, none, fun _ => [], fun _ => [],
    fun _ => 0⟩

/-- The channels the bus delivers on: those with a subscription, the attach's included. -/
def subscribed (s : BridgeQueues) (serviceChannel : String) : Bool :=
  decide (serviceChannel ∈ s.registry.server.listenStreams) ||
    s.attach.map Attach.serviceChannel == some serviceChannel

/-- What the callback does when the bus delivers on `serviceChannel`. -/
def callback (s : BridgeQueues) (serviceChannel : String) (message : Message) : CallbackOutcome :=
  if s.attach.any Attach.storing then .concurrentMapAccess
  else bridgeCallback s.registry.server.messageBridgeMap s.queues serviceChannel message

/-- One step. A delivery completes only when the callback's send does; a blocked callback takes
no step, and a panicking one, or a panicking operation, ends the run. -/
def step (s : BridgeQueues) : QueueEvent → Option BridgeQueues
  | .registry op =>
    if s.attach.isNone && (Op.newSubscription s.registry.server op).isNone then
      match s.registry.step op with
      | .ok g => some { s with registry := g }
      | .error _ => none
    else none
  | .subscribe op =>
    match s.attach, Op.newSubscription s.registry.server op, s.registry.step op with
    | none, some c, .ok g => some { s with attach := some ⟨c, g, false⟩ }
    | _, _, _ => none
  | .storeBridge =>
    match s.attach with
    | some a => if a.storing then none else some { s with attach := some { a with storing := true } }
    | none => none
  | .finishAttach =>
    match s.attach with
    | some a => if a.storing then some { s with registry := a.result, attach := none } else none
    | none => none
  | .deliver serviceChannel message =>
    if s.subscribed serviceChannel then
      match s.callback serviceChannel message with
      | .delivered q buffer =>
        some { s with
          queues := Function.update s.queues q buffer
          sent := Function.update s.sent q (s.sent q ++ [message]) }
      | _ => none
    else none
  | .receive q =>
    match s.queues q with
    | [] => none
    | _ :: rest =>
      some { s with
        queues := Function.update s.queues q rest
        received := Function.update s.received q (s.received q + 1) }

/-- The events of a run applied in turn; a run stops at an event that cannot happen. -/
def run (s : BridgeQueues) : List QueueEvent → Option BridgeQueues
  | [] => some s
  | e :: es => (s.step e).bind (·.run es)

/-- The three steps of an operation that subscribes a new channel. -/
def attachEvents (op : Op) : List QueueEvent := [.subscribe op, .storeBridge, .finishAttach]

/-- The states some interleaving reaches from a fresh server. -/
def Reachable (s : BridgeQueues) : Prop :=
  ∃ t mw, Relation.ReflTransGen (fun s s' => ∃ e, step s e = some s') (init t mw) s

variable {s s' : BridgeQueues}

theorem callback_eq_delivered {c : String} {m q : Nat} {buffer : List Message}
    (h : s.callback c m = .delivered q buffer) :
    s.attach.any Attach.storing = false ∧
      bridgeCallback s.registry.server.messageBridgeMap s.queues c m = .delivered q buffer := by
  unfold callback at h
  split_ifs at h with hst
  exact ⟨by simpa using hst, h⟩

/-- Everything one step can do. -/
theorem step_cases {e : QueueEvent} (h : s.step e = some s') :
    (∃ op g, e = .registry op ∧ s.attach = none ∧ s.registry.step op = .ok g ∧
      s' = { s with registry := g }) ∨
    (∃ op c g, e = .subscribe op ∧ s.attach = none ∧
      Op.newSubscription s.registry.server op = some c ∧ s.registry.step op = .ok g ∧
      s' = { s with attach := some ⟨c, g, false⟩ }) ∨
    (∃ a, e = .storeBridge ∧ s.attach = some a ∧
      s' = { s with attach := some { a with storing := true } }) ∨
    (∃ a, e = .finishAttach ∧ s.attach = some a ∧ a.storing = true ∧
      s' = { s with registry := a.result, attach := none }) ∨
    (∃ c m q buffer, e = .deliver c m ∧ s.callback c m = .delivered q buffer ∧
      s' = { s with
        queues := Function.update s.queues q buffer
        sent := Function.update s.sent q (s.sent q ++ [m]) }) ∨
    (∃ q m rest, e = .receive q ∧ s.queues q = m :: rest ∧
      s' = { s with
        queues := Function.update s.queues q rest
        received := Function.update s.received q (s.received q + 1) }) := by
  cases e with
  | registry op =>
      simp only [step] at h
      split_ifs at h with hfree
      simp only [Bool.and_eq_true, Option.isNone_iff_eq_none] at hfree
      split at h
      next g hg => cases h; exact .inl ⟨op, g, rfl, hfree.1, hg, rfl⟩
      next => cases h
  | subscribe op =>
      simp only [step] at h
      split at h
      next c g ha hc hg => cases h; exact .inr (.inl ⟨op, c, g, rfl, ha, hc, hg, rfl⟩)
      next => cases h
  | storeBridge =>
      simp only [step] at h
      split at h
      next a ha => split_ifs at h; cases h; exact .inr (.inr (.inl ⟨a, rfl, ha, rfl⟩))
      next => cases h
  | finishAttach =>
      simp only [step] at h
      split at h
      next a ha =>
        split_ifs at h with hst; cases h; exact .inr (.inr (.inr (.inl ⟨a, rfl, ha, hst, rfl⟩)))
      next => cases h
  | deliver c m =>
      simp only [step] at h
      split_ifs at h
      split at h
      next q buffer hcb =>
        cases h; exact .inr (.inr (.inr (.inr (.inl ⟨c, m, q, buffer, rfl, hcb, rfl⟩))))
      next => cases h
  | receive q =>
      simp only [step] at h
      split at h
      next => cases h
      next m rest hq => cases h; exact .inr (.inr (.inr (.inr (.inr ⟨q, m, rest, rfl, hq, rfl⟩))))

theorem Reachable.of_run {es : List QueueEvent} (hs : s.Reachable) (h : s.run es = some s') :
    s'.Reachable := by
  induction es generalizing s with
  | nil => cases h; exact hs
  | cons e es ih =>
      cases hstep : s.step e with
      | none => simp [run, hstep] at h
      | some s₁ =>
          simp only [run, hstep, Option.some_bind] at h
          obtain ⟨t, mw, hr⟩ := hs
          exact ih ⟨t, mw, hr.tail ⟨e, hstep⟩⟩ h

/-- A property of fresh servers that every step keeps holds in every reachable state. -/
theorem Reachable.induction {P : BridgeQueues → Prop} (hinit : ∀ t mw, P (init t mw))
    (hstep : ∀ s s' e, P s → s.step e = some s' → P s') (hs : s.Reachable) : P s := by
  obtain ⟨t, mw, hrun⟩ := hs
  induction hrun with
  | refl => exact hinit t mw
  | tail _ he ih => obtain ⟨e, he⟩ := he; exact hstep _ _ e ih he

end BridgeQueues

/-! ## The buffers -/

/-- Every buffer is bounded, and holds exactly the messages sent on it and not yet received, in
the order they were sent. -/
structure QueueInv (s : BridgeQueues) : Prop where
  bounded : ∀ q, (s.queues q).length ≤ payloadCapacity
  received_le : ∀ q, s.received q ≤ (s.sent q).length
  fifo : ∀ q, s.queues q = (s.sent q).drop (s.received q)

namespace QueueInv

variable {s s' : BridgeQueues}

/-- Changing one payload channel keeps the invariant when the channel itself keeps it. -/
theorem update (h : QueueInv s) (q : Nat) (queue sent : List Message)
    (received : Nat) (hb : queue.length ≤ payloadCapacity) (hr : received ≤ sent.length)
    (hf : queue = sent.drop received) :
    QueueInv { s with
      queues := Function.update s.queues q queue
      sent := Function.update s.sent q sent
      received := Function.update s.received q received } := by
  refine ⟨fun q' => ?_, fun q' => ?_, fun q' => ?_⟩ <;> by_cases hq : q' = q
  · subst hq; simpa using hb
  · simpa [hq] using h.bounded q'
  · subst hq; simpa using hr
  · simpa [hq] using h.received_le q'
  · subst hq; simpa using hf
  · simpa [hq] using h.fifo q'

theorem step {e : QueueEvent} (h : QueueInv s) (hstep : s.step e = some s') : QueueInv s' := by
  rcases BridgeQueues.step_cases hstep with
    ⟨-, -, -, -, -, rfl⟩ | ⟨-, -, -, -, -, -, -, rfl⟩ | ⟨-, -, -, rfl⟩ | ⟨-, -, -, -, rfl⟩ |
      ⟨c, m, q, buffer, -, hcb, rfl⟩ | ⟨q, m, rest, -, hq, rfl⟩
  iterate 4 exact ⟨h.bounded, h.received_le, h.fifo⟩
  · obtain ⟨b, -, rfl, hlt, rfl⟩ :=
      bridgeCallback_eq_delivered (BridgeQueues.callback_eq_delivered hcb).2
    have hle := h.received_le b.payloadChannel
    simpa using h.update b.payloadChannel (s.queues b.payloadChannel ++ [m])
      (s.sent b.payloadChannel ++ [m]) (s.received b.payloadChannel) (by simp; omega)
      (by simp; omega) (by rw [h.fifo, List.drop_append_of_le_length hle])
  · have hdrop : (s.sent q).drop (s.received q) = m :: rest := (h.fifo q).symm.trans hq
    have hlt : s.received q < (s.sent q).length := by
      by_contra hge
      rw [List.drop_eq_nil_iff.mpr (by omega)] at hdrop
      cases hdrop
    have hb := h.bounded q
    rw [hq] at hb
    simpa using h.update q rest (s.sent q) (s.received q + 1) (by simp at hb; omega) hlt
      (by simp [← List.tail_drop, hdrop])

theorem reachable (hs : s.Reachable) : QueueInv s :=
  BridgeQueues.Reachable.induction (fun _ _ => ⟨by simp [BridgeQueues.init], by
      simp [BridgeQueues.init], by simp [BridgeQueues.init]⟩)
    (fun _ _ _ h he => h.step he) hs

end QueueInv

/-! ## Attaches under way -/

/-- The registry is consistent, and an attach under way is a registry step on a channel with no
bridge yet. -/
structure AttachInv (s : BridgeQueues) : Prop where
  subscriptions : SubscriptionInv s.registry.server s.registry.held
  attach : ∀ a, s.attach = some a →
    Registry.Step s.registry a.result ∧ s.registry.server.messageBridgeMap a.serviceChannel = none

namespace AttachInv

variable {s s' : BridgeQueues}

theorem step {e : QueueEvent} (h : AttachInv s) (hstep : s.step e = some s') : AttachInv s' := by
  rcases BridgeQueues.step_cases hstep with
    ⟨op, g, -, ha, hg, rfl⟩ | ⟨op, c, g, -, -, hc, hg, rfl⟩ | ⟨a, -, ha, rfl⟩ | ⟨a, -, ha, -, rfl⟩ |
      ⟨-, -, -, -, -, -, rfl⟩ | ⟨-, -, -, -, -, rfl⟩
  · exact ⟨h.subscriptions.step ⟨op, hg⟩, fun a ha' => by simp [ha] at ha'⟩
  · refine ⟨h.subscriptions, fun a ha => ?_⟩
    cases ha
    exact ⟨⟨op, hg⟩, Op.newSubscription_unbridged hc⟩
  · refine ⟨h.subscriptions, fun a' ha' => ?_⟩
    cases ha'
    exact h.attach a ha
  · exact ⟨h.subscriptions.step (h.attach a ha).1, fun _ ha' => by cases ha'⟩
  all_goals exact ⟨h.subscriptions, h.attach⟩

theorem reachable (hs : s.Reachable) : AttachInv s :=
  BridgeQueues.Reachable.induction (fun t mw => ⟨SubscriptionInv.init t mw, fun _ ha => by
      cases ha⟩) (fun _ _ _ h he => h.step he) hs

end AttachInv

/-- The message an event delivers on `serviceChannel`, if it is a delivery there. -/
def QueueEvent.deliveredMessage (serviceChannel : String) : QueueEvent → Option Message
  | .deliver c m => if c = serviceChannel then some m else none
  | _ => none

/-- The messages the bus delivered on `serviceChannel` over a run, in order. -/
def deliveredOn (serviceChannel : String) (es : List QueueEvent) : List Message :=
  es.filterMap (QueueEvent.deliveredMessage serviceChannel)

@[simp] theorem deliveredOn_nil (serviceChannel : String) : deliveredOn serviceChannel [] = [] := rfl

@[simp] theorem deliveredOn_append_single (serviceChannel : String) (es : List QueueEvent)
    (e : QueueEvent) : deliveredOn serviceChannel (es ++ [e]) =
      deliveredOn serviceChannel es ++ (e.deliveredMessage serviceChannel).toList := by
  simp only [deliveredOn, List.filterMap_append, List.filterMap_cons, List.filterMap_nil]
  cases e.deliveredMessage serviceChannel <;> rfl

/-- After the run `es`: each bridged channel's payload channel has been sent exactly the messages
delivered on the channel, a payload channel no subscription has created yet has been sent
nothing, and nothing was delivered on a channel without a bridge. -/
structure DeliveryInv (es : List QueueEvent) (s : BridgeQueues) : Prop where
  sent_bridged : ∀ c bridge, s.registry.server.messageBridgeMap c = some bridge →
    s.sent bridge.payloadChannel = deliveredOn c es
  sent_fresh : ∀ q, s.registry.server.listenStreams.length ≤ q → s.sent q = []
  unbridged : ∀ c, s.registry.server.messageBridgeMap c = none → deliveredOn c es = []

namespace DeliveryInv

variable {es : List QueueEvent} {s s' : BridgeQueues}

/-- A step that delivers nothing and leaves the registry and the sends as they were keeps the
record of sends. -/
theorem quiet (h : DeliveryInv es s) {e : QueueEvent} (he : ∀ c, e.deliveredMessage c = none)
    (hreg : s'.registry = s.registry) (hsent : s'.sent = s.sent) : DeliveryInv (es ++ [e]) s' :=
  ⟨fun c b hb => by simpa [hsent, he] using h.sent_bridged c b (hreg ▸ hb),
    fun q hq => hsent ▸ h.sent_fresh q (hreg ▸ hq),
    fun c hc => by simpa [he] using h.unbridged c (hreg ▸ hc)⟩

/-- A registry step, whole or ending an attach, keeps the record of sends. -/
theorem registry (h : DeliveryInv es s) (hsub : SubscriptionInv s.registry.server s.registry.held)
    {e : QueueEvent} (he : ∀ c, e.deliveredMessage c = none) {g : Registry}
    (hg : Registry.Step s.registry g) (a : Option Attach) :
    DeliveryInv (es ++ [e]) { s with registry := g, attach := a } := by
  refine ⟨fun c b hb => ?_,
    fun q hq => h.sent_fresh q ((Registry.step_listenStreams hg).length_le.trans hq),
    fun c hc => ?_⟩
  · simp only [deliveredOn_append_single, he, Option.toList_none, List.append_nil]
    cases hold : s.registry.server.messageBridgeMap c with
    | some b₀ =>
        obtain rfl : b₀ = b :=
          Option.some.inj ((Registry.step_keeps_messageBridge hg hold).symm.trans hb)
        exact h.sent_bridged c b₀ hold
    | none =>
        rw [h.unbridged c hold]
        exact h.sent_fresh _ (Registry.step_new_bridge hg hsub hold hb)
  · simp only [deliveredOn_append_single, he, Option.toList_none, List.append_nil]
    refine h.unbridged c (Option.eq_none_iff_forall_not_mem.mpr fun b hb => ?_)
    simp [Registry.step_keeps_messageBridge hg hb] at hc

/-- A delivery sends the message on the payload channel of its channel's bridge. -/
theorem deliver (h : DeliveryInv es s) (hsub : SubscriptionInv s.registry.server s.registry.held)
    {c : String} {m : Message} {q : Nat} {buffer : List Message}
    (hcb : s.callback c m = .delivered q buffer) :
    DeliveryInv (es ++ [.deliver c m]) { s with
      queues := Function.update s.queues q buffer
      sent := Function.update s.sent q (s.sent q ++ [m]) } := by
  obtain ⟨b', hb', rfl, -, -⟩ := bridgeCallback_eq_delivered (BridgeQueues.callback_eq_delivered hcb).2
  have hlt : b'.payloadChannel < s.registry.server.listenStreams.length := by
    obtain ⟨hidx, hpay⟩ := hsub.bridge_stream c b' hb'
    exact hpay ▸ (List.getElem?_eq_some_iff.mp hidx).1
  refine ⟨fun d b hb => ?_, fun q hq => ?_, fun d hd => ?_⟩
  · by_cases hdc : c = d
    · subst hdc
      obtain rfl : b' = b := Option.some.inj (hb'.symm.trans hb)
      simp [QueueEvent.deliveredMessage, h.sent_bridged c b' hb']
    · have hne : b.payloadChannel ≠ b'.payloadChannel :=
        fun heq => hdc (hsub.payloadChannel_injective hb' hb heq.symm)
      simp [Function.update_noteq hne, QueueEvent.deliveredMessage, hdc, h.sent_bridged d b hb]
  · change s.registry.server.listenStreams.length ≤ q at hq
    simp [Function.update_noteq (show q ≠ b'.payloadChannel by omega), h.sent_fresh q hq]
  · have hdc : c ≠ d := by rintro rfl; simp [hb'] at hd
    simp [QueueEvent.deliveredMessage, hdc, h.unbridged d hd]

theorem step (h : DeliveryInv es s) (ha : AttachInv s) {e : QueueEvent}
    (hstep : s.step e = some s') : DeliveryInv (es ++ [e]) s' := by
  rcases BridgeQueues.step_cases hstep with
    ⟨op, g, rfl, -, hg, rfl⟩ | ⟨-, -, -, rfl, -, -, -, rfl⟩ | ⟨-, rfl, -, rfl⟩ |
      ⟨a, rfl, hA, -, rfl⟩ | ⟨c, m, q, buffer, rfl, hcb, rfl⟩ | ⟨-, -, -, rfl, -, rfl⟩
  · exact h.registry ha.subscriptions (fun _ => by rfl) ⟨op, hg⟩ s.attach
  · exact h.quiet (fun _ => by rfl) rfl rfl
  · exact h.quiet (fun _ => by rfl) rfl rfl
  · exact h.registry ha.subscriptions (fun _ => by rfl) (ha.attach a hA).1 none
  · exact h.deliver ha.subscriptions hcb
  · exact h.quiet (fun _ => by rfl) rfl rfl

theorem run (h : DeliveryInv es s) (ha : AttachInv s) {es' : List QueueEvent}
    (hrun : s.run es' = some s') : DeliveryInv (es ++ es') s' := by
  induction es' generalizing es s with
  | nil =>
      cases hrun
      simpa using h
  | cons e es' ih =>
      cases hstep : s.step e with
      | none => simp [BridgeQueues.run, hstep] at hrun
      | some s₁ =>
          simp only [BridgeQueues.run, hstep, Option.some_bind] at hrun
          simpa using ih (h.step ha hstep) (ha.step hstep) hrun

end DeliveryInv

/-- Over any run that no panicking or racing callback has ended, a bridged channel's payload
channel has been sent exactly the messages the bus delivered on that channel, in delivery
order: none lost, none sent twice, none from another channel. Its buffer holds those not yet
received, in that order, and every endpoint handler of the channel, in the served router or in
one a caller holds, reads it. -/
theorem payload_queue_carries_channel_deliveries {t : Int} {mw : Middleware}
    {es : List QueueEvent} {s : BridgeQueues} (hrun : (BridgeQueues.init t mw).run es = some s)
    {c : String} {bridge : MessageBridge} (hb : s.registry.server.messageBridgeMap c = some bridge) :
    s.sent bridge.payloadChannel = deliveredOn c es ∧
    s.queues bridge.payloadChannel = (deliveredOn c es).drop (s.received bridge.payloadChannel) ∧
    ∀ R ∈ s.registry.server.router :: s.registry.held, ∀ r ∈ R, ∀ rb t' q,
      r.handler = .endpoint c rb t' q → q = bridge.payloadChannel := by
  have hreach := BridgeQueues.Reachable.of_run ⟨t, mw, .refl⟩ hrun
  have hinv : DeliveryInv es s := by
    simpa using (show DeliveryInv [] (BridgeQueues.init t mw) from
      ⟨fun _ _ hb => (by cases hb), fun _ _ => rfl, fun _ _ => rfl⟩).run
      (AttachInv.reachable ⟨t, mw, .refl⟩) hrun
  have hsent := hinv.sent_bridged c bridge hb
  refine ⟨hsent, by rw [(QueueInv.reachable hreach).fifo, hsent], fun R hR r hr rb t' q hh => ?_⟩
  obtain ⟨b, hb', rfl⟩ := (AttachInv.reachable hreach).subscriptions.routes_bound R hR r hr c rb t' q hh
  rw [hb] at hb'
  exact congrArg MessageBridge.payloadChannel (Option.some.inj hb').symm

/-- Attach channels `a` and `b`, deliver on `a`, `b` and `a` again, and receive once from `a`'s
payload channel. -/
def deliveryRun : List QueueEvent :=
  BridgeQueues.attachEvents (.setHttpChannelBridge aBridge true) ++
    BridgeQueues.attachEvents (.setHttpChannelBridge bBridge true) ++
    [.deliver "a" 1, .deliver "b" 2, .deliver "a" 3, .receive 0]

theorem payload_queue_carries_channel_deliveries_ab :
    ∃ s, (BridgeQueues.init 60 ⟨0, true⟩).run deliveryRun = some s ∧
      s.registry.server.messageBridgeMap "a" = some ⟨0, 0⟩ ∧
      s.sent 0 = deliveredOn "a" deliveryRun ∧
      s.queues 0 = (deliveredOn "a" deliveryRun).drop (s.received 0) ∧
      ∀ R ∈ s.registry.server.router :: s.registry.held, ∀ r ∈ R, ∀ rb t' q,
        r.handler = .endpoint "a" rb t' q → q = 0 := by
  obtain ⟨s, hrun, hb⟩ : ∃ s, (BridgeQueues.init 60 ⟨0, true⟩).run deliveryRun = some s ∧
      s.registry.server.messageBridgeMap "a" = some ⟨0, 0⟩ := ⟨_, rfl, rfl⟩
  exact ⟨s, hrun, hb, payload_queue_carries_channel_deliveries hrun hb⟩

end Ranch
