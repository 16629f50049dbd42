import Mathlib.Logic.Relation
import Mathlib.Data.List.Count
import Mathlib.Data.List.Nodup

/-!
# Starting and stopping the server

`StartServer` spawns a goroutine for the broker (when a fabric configuration is present), one
for the HTTP listener and one waiting for a signal, and then dials the port until a dial
succeeds, when it sends `true` on the online channel. Each goroutine raises its availability
flag as it starts, before the blocking call the flag announces. `StartServer` waits for the
signal goroutine, so it is taken to be called once per server.

The HTTP goroutine's `ListenAndServe` goes through `net/http`'s steps: it returns
`ErrServerClosed` if `Shutdown` has begun, calls `net.Listen`, and then `Serve` tracks the
listener, unless `Shutdown` has begun meanwhile, in which case `Serve` closes it and returns.
`Shutdown` marks the server as shutting down and closes the listeners tracked so far.

Each `StopServer` call, on the signal or by the embedder, lowers Http first, then starts the
services' shutdown hooks, calls `Shutdown`, and, when a fabric connection listener is set, stops
the broker and lowers Fabric; it returns once the hooks have run. Calls may overlap, and each
advances through these statements in turn. The model interleaves all of this with the embedder's
`CustomizeTLSConfig` and with other processes taking the port, and counts the calls each
`StopServer` makes.
-/

namespace Ranch

/-- The error of `CustomizeTLSConfig` on a running server. -/
def serverRunning : String :=
  "TLS configuration can be provided only if the server is not running"

/-- What the configuration and the registered services fix for a run. -/
structure LifecycleConfig where
  /-- `ps.serverConfig.FabricConfig != nil` -/
  fabricConfig : Bool
  /-- `ps.fabricConn != nil` -/
  fabricConn : Bool
  /-- `svcRegistry.GetAllServiceChannels()`, the keys of the registry's map -/
  serviceChannels : List String
  serviceChannels_nodup : serviceChannels.Nodup
  /-- whether `lcm.GetOnServerShutdownService(svcChannel)` is non-nil -/
  hasShutdownHook : String → Bool

/-- Where the broker goroutine of `StartServer` is. -/
inductive Phase where
  /-- not spawned -/
  | idle
  /-- spawned, not yet scheduled -/
  | spawned
  /-- its availability flag raised, its blocking call not yet made -/
  | flagged
  /-- in its blocking call, or returned from it -/
  | called
  deriving DecidableEq, Repr

/-- The goroutine has run, and raised its flag. -/
def Phase.started : Phase → Bool
  | .flagged | .called => true
  | .idle | .spawned => false

/-- Where the HTTP goroutine of `StartServer` is. -/
inductive HttpPhase where
  /-- not spawned -/
  | idle
  /-- spawned, not yet scheduled -/
  | spawned
  /-- Http raised; about to call `ListenAndServe` -/
  | flagged
  /-- `ListenAndServe` found the server not shutting down; about to call `net.Listen` -/
  | checked
  /-- `net.Listen` bound the port; `Serve` about to track the listener -/
  | bound
  /-- `Serve` tracked the listener and accepts on it -/
  | serving
  /-- `ListenAndServe` returned, its listener closed or never bound -/
  | returned
  deriving DecidableEq, Repr

/-- The goroutine has run, and raised Http. -/
def HttpPhase.started : HttpPhase → Bool
  | .idle | .spawned => false
  | _ => true

/-- The goroutine holds a bound listener. -/
def HttpPhase.listening : HttpPhase → Bool
  | .bound | .serving => true
  | _ => false

theorem HttpPhase.started_of_listening {p : HttpPhase} (h : p.listening = true) :
    p.started = true := by
  cases p <;> revert h <;> decide

structure ServerAvailability where
  http : Bool
  fabric : Bool
  deriving DecidableEq, Repr

/-- The `StopServer` calls under way, counted by the statement each is about to run. -/
structure StopsInFlight where
  /-- Http lowered; about to start the services' shutdown hooks -/
  hooks : Nat
  /-- hooks started; about to call `HttpServer.Shutdown` -/
  shutdown : Nat
  /-- `Shutdown` returned; about to stop the broker and wait for the hooks -/
  fabric : Nat
  deriving DecidableEq, Repr

/-- The calls `StopServer` makes, counted over a run. -/
structure StopCalls where
  stopServer : Nat
  /-- `OnServerShutdown` calls, by service channel -/
  onServerShutdown : String → Nat
  /-- `ps.HttpServer.Shutdown` calls -/
  shutdown : Nat
  /-- `ps.eventbus.StopFabricEndpoint` calls -/
  stopFabricEndpoint : Nat
  /-- `StopServer` calls that returned -/
  returned : Nat

structure Lifecycle where
  serverAvailability : ServerAvailability
  /-- `ps.HttpServer.TLSConfig` -/
  tlsConfig : Option Nat
  fabricGoroutine : Phase
  httpGoroutine : HttpPhase
  /-- the signal goroutine still waits on `ps.SyscallChan` -/
  awaitingSignal : Bool
  /-- the main goroutine is in its readiness loop -/
  probing : Bool
  /-- `Shutdown` has begun, after which `ListenAndServe` and `Serve` return `ErrServerClosed` -/
  httpClosed : Bool
  brokerRunning : Bool
  /-- another process listens on the port -/
  portHeldByOther : Bool
  /-- the payloads sent on `RANCH_SERVER_ONLINE_CHANNEL`, in order -/
  online : List Bool
  stops : StopsInFlight
  calls : StopCalls

/-- A server built by `NewPlatformServer` and not yet started. -/
def Lifecycle.init : Lifecycle :=
  ⟨⟨false, false⟩, none, .idle, .idle, false, false, false, false, false, [], ⟨0, 0, 0⟩,
    ⟨0, fun _ => 0, 0, 0, 0⟩⟩

/-- This server's listener holds the port. -/
def Lifecycle.listenerBound (s : Lifecycle) : Bool := s.httpGoroutine.listening

/-- The loop of `StopServer` over the registered services: each one with a shutdown hook has
it called once. -/
def runShutdownHooks (hasShutdownHook : String → Bool) :
    List String → (String → Nat) → String → Nat
  | [], calls => calls
  | svcChannel :: rest, calls =>
    runShutdownHooks hasShutdownHook rest
      (if hasShutdownHook svcChannel then Function.update calls svcChannel (calls svcChannel + 1)
       else calls)

theorem runShutdownHooks_apply (hasShutdownHook : String → Bool) (channels : List String)
    (calls : String → Nat) (c : String) :
    runShutdownHooks hasShutdownHook channels calls c =
      calls c + (channels.filter hasShutdownHook).count c := by
  induction channels generalizing calls with
  | nil => rfl
  | cons d rest ih =>
      rw [runShutdownHooks, ih]
      by_cases hd : hasShutdownHook d <;> by_cases hc : c = d
      · subst hc; simp [hd]; omega
      · simp [hd, hc, List.count_cons, Ne.symm hc]
      · subst hc; simp [hd]
      · simp [hd]

theorem count_filter_serviceChannels (cfg : LifecycleConfig) (c : String) :
    (cfg.serviceChannels.filter cfg.hasShutdownHook).count c =
      if c ∈ cfg.serviceChannels ∧ cfg.hasShutdownHook c = true then 1 else 0 := by
  split_ifs with hc
  · exact List.count_eq_one_of_mem (cfg.serviceChannels_nodup.filter _) (List.mem_filter.mpr hc)
  · exact List.count_eq_zero_of_not_mem fun hmem => hc (List.mem_filter.mp hmem)

/-! ## The statements of `StopServer` -/

/-- A `StopServer` call begins: it lowers Http (line 208). -/
@[simps]
def beginStop (s : Lifecycle) : Lifecycle :=
  { s with
    serverAvailability := { s.serverAvailability with http := false }
    stops := { s.stops with hooks := s.stops.hooks + 1 }
    calls := { s.calls with stopServer := s.calls.stopServer + 1 } }

/-- A call starts the `OnServerShutdown` hook of every registered service that has one. -/
@[simps]
def startHooks (cfg : LifecycleConfig) (s : Lifecycle) : Lifecycle :=
  { s with
    stops := { s.stops with hooks := s.stops.hooks - 1, shutdown := s.stops.shutdown + 1 }
    calls := { s.calls with
      onServerShutdown := runShutdownHooks cfg.hasShutdownHook cfg.serviceChannels
        s.calls.onServerShutdown } }

/-- A call runs `HttpServer.Shutdown`: the server is shutting down, and the tracked listener is
closed, so `Serve` returns. -/
@[simps]
def shutdownHttp (s : Lifecycle) : Lifecycle :=
  { s with
    httpClosed := true
    httpGoroutine := if s.httpGoroutine = .serving then .returned else s.httpGoroutine
    stops := { s.stops with shutdown := s.stops.shutdown - 1, fabric := s.stops.fabric + 1 }
    calls := { s.calls with shutdown := s.calls.shutdown + 1 } }

/-- A call stops the broker and lowers Fabric when a fabric connection listener is set, waits
for the hooks, and returns. -/
@[simps]
def stopFabric (cfg : LifecycleConfig) (s : Lifecycle) : Lifecycle :=
  { s with
    serverAvailability :=
      { s.serverAvailability with fabric := if cfg.fabricConn then false else s.serverAvailability.fabric }
    brokerRunning := if cfg.fabricConn then false else s.brokerRunning
    stops := { s.stops with fabric := s.stops.fabric - 1 }
    calls := { s.calls with
      stopFabricEndpoint :=
        if cfg.fabricConn then s.calls.stopFabricEndpoint + 1 else s.calls.stopFabricEndpoint
      returned := s.calls.returned + 1 } }

/-- `CustomizeTLSConfig`. -/
def customizeTLSConfig (s : Lifecycle) (tls : Option Nat) : Except String Lifecycle :=
  if s.serverAvailability.http || s.serverAvailability.fabric then .error serverRunning
  else .ok { s with tlsConfig := tls }

/-- What can happen: a goroutine of `StartServer` takes its next step, a `StopServer` call runs
its next statement, the embedder calls into the server, or another process takes or frees the
port. -/
inductive LifecycleEvent where
  | startServer
  /-- the broker goroutine runs up to `StartFabricEndpoint` -/
  | fabricGoroutine
  | startFabricEndpoint (ok : Bool)
  /-- the HTTP goroutine runs up to `ListenAndServe` -/
  | httpGoroutine
  /-- `ListenAndServe` checks whether the server is shutting down -/
  | listenAndServe
  /-- `net.Listen`, which fails on a port another process holds -/
  | listen (bindOk : Bool)
  /-- `Serve` tracks the listener, or closes it when the server is shutting down -/
  | serve
  /-- one round of the readiness loop -/
  | probe
  /-- the signal arrives: the goroutine sends `false` and calls `StopServer` -/
  | signal
  /-- the embedder calls `StopServer` -/
  | stopServer
  | runShutdownHooks
  | shutdown
  | stopFabricEndpoint
  | customizeTLSConfig (tls : Option Nat)
  | portTaken (held : Bool)
  deriving Repr

namespace Lifecycle

/-- One event, or `none` where it cannot happen. `checkPortAvailability` only logs. -/
def step (cfg : LifecycleConfig) (s : Lifecycle) : LifecycleEvent → Option Lifecycle
  | .startServer =>
    if s.httpGoroutine = .idle then
      some { s with
        fabricGoroutine := if cfg.fabricConfig then .spawned else .idle
        httpGoroutine := .spawned
        awaitingSignal := true
        probing := true }
    else none
  | .fabricGoroutine =>
    if s.fabricGoroutine = .spawned then
      some { s with
        serverAvailability := { s.serverAvailability with fabric := true }
        fabricGoroutine := .flagged }
    else none
  | .startFabricEndpoint ok =>
    if s.fabricGoroutine = .flagged then
      some { s with fabricGoroutine := .called, brokerRunning := ok }
    else none
  | .httpGoroutine =>
    if s.httpGoroutine = .spawned then
      some { s with
        serverAvailability := { s.serverAvailability with http := true }
        httpGoroutine := .flagged }
    else none
  | .listenAndServe =>
    if s.httpGoroutine = .flagged then
      some { s with httpGoroutine := if s.httpClosed then .returned else .checked }
    else none
  | .listen bindOk =>
    if s.httpGoroutine = .checked then
      some { s with httpGoroutine := if bindOk && !s.portHeldByOther then .bound else .returned }
    else none
  | .serve =>
    if s.httpGoroutine = .bound then
      some { s with httpGoroutine := if s.httpClosed then .returned else .serving }
    else none
  | .probe =>
    if s.probing then
      if s.listenerBound || s.portHeldByOther then
        some { s with online := s.online ++ [true], probing := false }
      else some s
    else none
  | .signal =>
    if s.awaitingSignal then
      some (beginStop { s with online := s.online ++ [false], awaitingSignal := false })
    else none
  | .stopServer => some (beginStop s)
  | .runShutdownHooks => if 0 < s.stops.hooks then some (startHooks cfg s) else none
  | .shutdown => if 0 < s.stops.shutdown then some (shutdownHttp s) else none
  | .stopFabricEndpoint => if 0 < s.stops.fabric then some (stopFabric cfg s) else none
  | .customizeTLSConfig tls =>
    match customizeTLSConfig s tls with
    | .ok s' => some s'
    | .error _ => some s
  | .portTaken held =>
    if s.listenerBound then none else some { s with portHeldByOther := held }

/-- The events of a run applied in turn; a run stops at an event that cannot happen. -/
def run (cfg : LifecycleConfig) (s : Lifecycle) : List LifecycleEvent → Option Lifecycle
  | [] => some s
  | e :: es => (s.step cfg e).bind (·.run cfg es)

/-- The states some interleaving reaches from a server not yet started. -/
def Reachable (cfg : LifecycleConfig) (s : Lifecycle) : Prop :=
  Relation.ReflTransGen (fun s s' => ∃ e, s.step cfg e = some s') init s

end Lifecycle

/-- One `StopServer` call run to its end with nothing in between. -/
def stopCall : List LifecycleEvent :=
  [.stopServer, .runShutdownHooks, .shutdown, .stopFabricEndpoint]

/-! ## What a step changes -/

namespace Lifecycle

/-- The ways a step can go, one constructor for each branch of `step` that has a successor, each
with the guard it passed. -/
inductive Transition (cfg : LifecycleConfig) (s : Lifecycle) : LifecycleEvent → Lifecycle → Prop
  | startServer (h : s.httpGoroutine = .idle) : Transition cfg s .startServer
      { s with
        fabricGoroutine := if cfg.fabricConfig then .spawned else .idle
        httpGoroutine := .spawned
        awaitingSignal := true
        probing := true }
  | fabricGoroutine (h : s.fabricGoroutine = .spawned) : Transition cfg s .fabricGoroutine
      { s with
        serverAvailability := { s.serverAvailability with fabric := true }
        fabricGoroutine := .flagged }
  | startFabricEndpoint (ok : Bool) (h : s.fabricGoroutine = .flagged) :
      Transition cfg s (.startFabricEndpoint ok)
        { s with fabricGoroutine := .called, brokerRunning := ok }
  | httpGoroutine (h : s.httpGoroutine = .spawned) : Transition cfg s .httpGoroutine
      { s with
        serverAvailability := { s.serverAvailability with http := true }
        httpGoroutine := .flagged }
  | listenAndServe (h : s.httpGoroutine = .flagged) : Transition cfg s .listenAndServe
      { s with httpGoroutine := if s.httpClosed then .returned else .checked }
  | listen (bindOk : Bool) (h : s.httpGoroutine = .checked) : Transition cfg s (.listen bindOk)
      { s with httpGoroutine := if bindOk && !s.portHeldByOther then .bound else .returned }
  | serve (h : s.httpGoroutine = .bound) : Transition cfg s .serve
      { s with httpGoroutine := if s.httpClosed then .returned else .serving }
  | probeReady (hp : s.probing = true) (hd : (s.listenerBound || s.portHeldByOther) = true) :
      Transition cfg s .probe { s with online := s.online ++ [true], probing := false }
  | probeRetry (hp : s.probing = true) (hd : (s.listenerBound || s.portHeldByOther) = false) :
      Transition cfg s .probe s
  | signal (h : s.awaitingSignal = true) : Transition cfg s .signal
      (beginStop { s with online := s.online ++ [false], awaitingSignal := false })
  | stopServer : Transition cfg s .stopServer (beginStop s)
  | runShutdownHooks (h : 0 < s.stops.hooks) :
      Transition cfg s .runShutdownHooks (startHooks cfg s)
  | shutdown (h : 0 < s.stops.shutdown) : Transition cfg s .shutdown (shutdownHttp s)
  | stopFabricEndpoint (h : 0 < s.stops.fabric) :
      Transition cfg s .stopFabricEndpoint (stopFabric cfg s)
  | customizeTLSConfig (tls : Option Nat) : Transition cfg s (.customizeTLSConfig tls)
      (if (s.serverAvailability.http || s.serverAvailability.fabric) then s
       else { s with tlsConfig := tls })
  | portTaken (held : Bool) (h : s.listenerBound = false) : Transition cfg s (.portTaken held)
      { s with portHeldByOther := held }

variable {cfg : LifecycleConfig} {s s' : Lifecycle} {e : LifecycleEvent}

theorem step_customizeTLSConfig (tls : Option Nat) :
    s.step cfg (.customizeTLSConfig tls) = some
      (if (s.serverAvailability.http || s.serverAvailability.fabric) then s
       else { s with tlsConfig := tls }) := by
  simp only [step, customizeTLSConfig]
  split_ifs <;> rfl

/-- Every step is one of the transitions: the one place that unfolds `step`. -/
theorem Transition.of_step (h : s.step cfg e = some s') : Transition cfg s e s' := by
  cases e
  case probe =>
    simp only [step] at h
    split_ifs at h with hp hd <;> cases h
    · exact .probeReady hp hd
    · exact .probeRetry hp (by simpa using hd)
  case customizeTLSConfig tls =>
    rw [step_customizeTLSConfig] at h
    cases h; exact .customizeTLSConfig tls
  case stopServer => cases h; exact .stopServer
  case portTaken held =>
    simp only [step] at h
    split_ifs at h with hb; cases h; exact .portTaken held (by simpa using hb)
  all_goals
    simp only [step] at h
    split at h
    · cases h; constructor; assumption
    · cases h

/-- Http comes down only as a `StopServer` call begins. -/
theorem step_http_lowered (h : s.step cfg e = some s') (hup : s.serverAvailability.http = true)
    (hdown : s'.serverAvailability.http = false) : e = .signal ∨ e = .stopServer := by
  cases Transition.of_step h
  case signal => exact .inl rfl
  case stopServer => exact .inr rfl
  case customizeTLSConfig => split at hdown <;> simp_all
  all_goals simp_all

/-- Fabric comes down only when a `StopServer` call with a fabric connection listener stops the
broker. -/
theorem step_fabric_lowered (h : s.step cfg e = some s')
    (hup : s.serverAvailability.fabric = true) (hdown : s'.serverAvailability.fabric = false) :
    e = .stopFabricEndpoint ∧ cfg.fabricConn = true := by
  cases Transition.of_step h
  case stopFabricEndpoint => cases hc : cfg.fabricConn <;> simp_all
  case customizeTLSConfig => split at hdown <;> simp_all
  all_goals simp_all

/-- Without a fabric connection listener nothing lowers the Fabric flag. -/
theorem step_fabric_kept (hconn : cfg.fabricConn = false) (h : s.step cfg e = some s')
    (hfab : s.serverAvailability.fabric = true) : s'.serverAvailability.fabric = true := by
  cases hf : s'.serverAvailability.fabric
  · simpa [hconn] using (step_fabric_lowered h hfab hf).2
  · rfl

/-- Only a probe that reaches a listener sends `true`. -/
theorem step_online_count (h : s.step cfg e = some s')
    (hlt : s.online.count true < s'.online.count true) :
    e = .probe ∧ (s.listenerBound || s.portHeldByOther) = true := by
  cases Transition.of_step h
  case probeReady hd => exact ⟨rfl, hd⟩
  case signal => simp at hlt
  case customizeTLSConfig => split at hlt <;> exact absurd hlt (lt_irrefl _)
  all_goals exact absurd hlt (lt_irrefl _)

/-- `net.Listen` leaves the flags as they are: the listener is bound exactly when the bind succeeds
on a port no other process holds. -/
theorem step_listen {bindOk : Bool} (h : s.step cfg (.listen bindOk) = some s') :
    s'.serverAvailability = s.serverAvailability ∧
      s'.listenerBound = (bindOk && !s.portHeldByOther) := by
  cases Transition.of_step h
  refine ⟨rfl, ?_⟩
  split <;> simp_all [listenerBound, HttpPhase.listening]

/-- The broker's start leaves the flags as they are, whether it succeeds or not. -/
theorem step_startFabricEndpoint {ok : Bool} (h : s.step cfg (.startFabricEndpoint ok) = some s') :
    s'.serverAvailability = s.serverAvailability ∧ s'.brokerRunning = ok := by
  cases Transition.of_step h
  exact ⟨rfl, rfl⟩

end Lifecycle

/-! ## Invariants -/

/-- The calls each `StopServer` call has made so far: every call begun has returned or is at one
of its statements, and it has started the hooks, called `Shutdown` and stopped the broker once
it is past the statement doing so. -/
structure StopCounts (cfg : LifecycleConfig) (s : Lifecycle) : Prop where
  begun : s.calls.stopServer = s.calls.returned + s.stops.hooks + s.stops.shutdown + s.stops.fabric
  hooks : ∀ ch, s.calls.onServerShutdown ch =
    if ch ∈ cfg.serviceChannels ∧ cfg.hasShutdownHook ch = true then
      s.calls.returned + s.stops.shutdown + s.stops.fabric
    else 0
  shutdown : s.calls.shutdown = s.calls.returned + s.stops.fabric
  stopFabricEndpoint : s.calls.stopFabricEndpoint = if cfg.fabricConn then s.calls.returned else 0

namespace StopCounts
variable {cfg : LifecycleConfig} {s s' : Lifecycle} {e : LifecycleEvent}

/-- The counts read only the calls under way and the calls made. -/
theorem of_eq (h : StopCounts cfg s) (hstops : s'.stops = s.stops) (hcalls : s'.calls = s.calls) :
    StopCounts cfg s' := by
  obtain ⟨h₁, h₂, h₃, h₄⟩ := h
  exact ⟨hcalls ▸ hstops ▸ h₁, hcalls ▸ hstops ▸ h₂, hcalls ▸ hstops ▸ h₃, hcalls ▸ h₄⟩

theorem beginStop (h : StopCounts cfg s) : StopCounts cfg (beginStop s) :=
  ⟨by simp [h.begun]; omega, h.hooks, h.shutdown, h.stopFabricEndpoint⟩

theorem startHooks (h : StopCounts cfg s) (hpos : 0 < s.stops.hooks) :
    StopCounts cfg (startHooks cfg s) := by
  refine ⟨by simp [h.begun]; omega, fun ch => ?_, h.shutdown, h.stopFabricEndpoint⟩
  rw [startHooks_calls_onServerShutdown, runShutdownHooks_apply, h.hooks, count_filter_serviceChannels]
  split_ifs <;> simp; omega

theorem shutdownHttp (h : StopCounts cfg s) (hpos : 0 < s.stops.shutdown) :
    StopCounts cfg (shutdownHttp s) := by
  refine ⟨by simp [h.begun]; omega, fun ch => ?_, by simp [h.shutdown]; omega,
    h.stopFabricEndpoint⟩
  rw [shutdownHttp_calls_onServerShutdown, h.hooks]
  split_ifs <;> simp; omega

theorem stopFabric (h : StopCounts cfg s) (hpos : 0 < s.stops.fabric) :
    StopCounts cfg (stopFabric cfg s) := by
  refine ⟨by simp [h.begun]; omega, fun ch => ?_, by simp [h.shutdown]; omega, ?_⟩
  · rw [stopFabric_calls_onServerShutdown, h.hooks]
    split_ifs <;> simp; omega
  · cases hc : cfg.fabricConn <;> simp [hc, h.stopFabricEndpoint]

theorem step (h : StopCounts cfg s) (hs : s.step cfg e = some s') : StopCounts cfg s' := by
  cases Lifecycle.Transition.of_step hs
  case signal => exact StopCounts.beginStop (h.of_eq rfl rfl)
  case stopServer => exact h.beginStop
  case runShutdownHooks hpos => exact h.startHooks hpos
  case shutdown hpos => exact h.shutdownHttp hpos
  case stopFabricEndpoint hpos => exact h.stopFabric hpos
  case customizeTLSConfig => split <;> exact h.of_eq rfl rfl
  all_goals exact h.of_eq rfl rfl

end StopCounts

/-- The HTTP goroutine and Http: Http is up only once the goroutine has run, it stays up after
that until a `StopServer` call begins, and once `Shutdown` has begun a bound listener is one
`Serve` has not tracked yet. -/
structure HttpInv (s : Lifecycle) : Prop where
  http_started : s.serverAvailability.http = true → s.httpGoroutine.started = true
  started_http : s.httpGoroutine.started = true →
    s.serverAvailability.http = true ∨ 0 < s.calls.stopServer
  closed_bound : s.httpClosed = true → s.listenerBound = true → s.httpGoroutine = .bound

namespace HttpInv
variable {cfg : LifecycleConfig} {s s' : Lifecycle} {e : LifecycleEvent}

theorem of_eq (h : HttpInv s) (hhttp : s'.serverAvailability.http = s.serverAvailability.http)
    (hphase : s'.httpGoroutine = s.httpGoroutine) (hclosed : s'.httpClosed = s.httpClosed)
    (hcalls : s'.calls.stopServer = s.calls.stopServer) : HttpInv s' where
  http_started hu := hphase ▸ h.http_started (hhttp ▸ hu)
  started_http hst := hhttp ▸ hcalls ▸ h.started_http (hphase ▸ hst)
  closed_bound hc hl := by
    simp only [Lifecycle.listenerBound, hphase, hclosed] at hc hl ⊢
    exact h.closed_bound hc hl

theorem beginStop (h : HttpInv s) : HttpInv (beginStop s) :=
  ⟨nofun, fun _ => .inr (by simp), h.closed_bound⟩

/-- A step of the HTTP goroutine keeps it started and leaves Http as it was. -/
theorem advance (h : HttpInv s) {p : HttpPhase} (hstarted : s.httpGoroutine.started = true)
    (hp : p.started = true) (hbound : s.httpClosed = true → p.listening = true → p = .bound) :
    HttpInv { s with httpGoroutine := p } :=
  ⟨fun _ => hp, fun _ => h.started_http hstarted, hbound⟩

theorem step (hi : HttpInv s) (h : s.step cfg e = some s') : HttpInv s' := by
  cases Lifecycle.Transition.of_step h
  case startServer hidle =>
    refine ⟨fun hu => absurd (hi.http_started hu) (by simp [hidle, HttpPhase.started]),
      nofun, fun _ hl => absurd hl (by simp [Lifecycle.listenerBound, HttpPhase.listening])⟩
  case httpGoroutine =>
    exact ⟨fun _ => rfl, fun _ => .inl rfl, fun _ hl => absurd hl (by simp [Lifecycle.listenerBound,
      HttpPhase.listening])⟩
  case listenAndServe hp | listen hp | serve hp =>
    exact hi.advance (by simp [hp, HttpPhase.started]) (by split <;> rfl)
      fun hc => by split <;> simp_all [HttpPhase.listening]
  case signal => exact HttpInv.beginStop (hi.of_eq rfl rfl rfl rfl)
  case stopServer => exact hi.beginStop
  case shutdown =>
    refine ⟨fun hu => ?_, fun hst => ?_, fun _ hl => ?_⟩
    · have := hi.http_started hu
      simp only [shutdownHttp_httpGoroutine]
      split <;> simp_all [HttpPhase.started]
    · simp only [shutdownHttp_httpGoroutine] at hst
      refine hi.started_http ?_
      split at hst <;> simp_all [HttpPhase.started]
    · simp only [Lifecycle.listenerBound, shutdownHttp_httpGoroutine] at hl ⊢
      split at hl <;> simp_all [HttpPhase.listening]
      cases h : s.httpGoroutine <;> simp_all
  case customizeTLSConfig => split <;> exact hi.of_eq rfl rfl rfl rfl
  all_goals exact hi.of_eq rfl rfl rfl rfl

end HttpInv

/-- The broker goroutine and Fabric: Fabric is up only once the goroutine has run, the goroutine
runs only with a fabric configuration, and only after `StartServer`. -/
structure FabricInv (cfg : LifecycleConfig) (s : Lifecycle) : Prop where
  fabric_started : s.serverAvailability.fabric = true → s.fabricGoroutine.started = true
  fabric_config : s.fabricGoroutine ≠ .idle → cfg.fabricConfig = true
  idle_before_start : s.httpGoroutine = .idle → s.fabricGoroutine = .idle

theorem FabricInv.step {cfg : LifecycleConfig} {s s' : Lifecycle} {e : LifecycleEvent}
    (hi : FabricInv cfg s) (h : s.step cfg e = some s') : FabricInv cfg s' := by
  obtain ⟨hs, hc, hidle⟩ := hi
  cases Lifecycle.Transition.of_step h
  case startServer hh =>
    refine ⟨fun hfab => by simpa [hidle hh, Phase.started] using hs hfab, fun hne => ?_, nofun⟩
    by_contra hcfg
    simp [hcfg] at hne
  case fabricGoroutine hsp =>
    exact ⟨fun _ => rfl, fun _ => hc (by simp [hsp]), fun hh => absurd (hidle hh) (by simp [hsp])⟩
  case startFabricEndpoint hfl =>
    exact ⟨fun _ => rfl, fun _ => hc (by simp [hfl]), fun hh => absurd (hidle hh) (by simp [hfl])⟩
  case httpGoroutine => exact ⟨hs, hc, nofun⟩
  case listenAndServe | listen | serve => exact ⟨hs, hc, fun hh => by split at hh <;> cases hh⟩
  case shutdown =>
    exact ⟨hs, hc, fun hh => hidle (by simp only [shutdownHttp_httpGoroutine] at hh; split at hh <;>
      simp_all)⟩
  case stopFabricEndpoint =>
    exact ⟨fun hfab => hs (by cases hcn : cfg.fabricConn <;> simp_all), hc, hidle⟩
  case customizeTLSConfig => split <;> exact ⟨hs, hc, hidle⟩
  all_goals exact ⟨hs, hc, hidle⟩

/-- The readiness loop: it runs only after `StartServer`, sends no `true` before it stops probing,
and sends `true` at most once. -/
structure ReadyInv (s : Lifecycle) : Prop where
  idle_before_start : s.httpGoroutine = .idle → s.probing = false ∧ s.online.count true = 0
  probing_fresh : s.probing = true → s.online.count true = 0
  ready_le : s.online.count true ≤ 1

theorem ReadyInv.step {cfg : LifecycleConfig} {s s' : Lifecycle} {e : LifecycleEvent}
    (hi : ReadyInv s) (h : s.step cfg e = some s') : ReadyInv s' := by
  obtain ⟨hidle, hfresh, hle⟩ := hi
  cases Lifecycle.Transition.of_step h
  case startServer hh => exact ⟨nofun, fun _ => (hidle hh).2, hle⟩
  case probeReady hp _ =>
    refine ⟨fun hh => absurd hp (by simp [(hidle hh).1]), nofun, ?_⟩
    simp [hfresh hp]
  case signal =>
    exact ⟨fun hh => by simpa using hidle hh, by simpa using hfresh, by simpa using hle⟩
  case shutdown =>
    exact ⟨fun hh => hidle (by simp only [shutdownHttp_httpGoroutine] at hh; split at hh <;>
      simp_all), hfresh, hle⟩
  case httpGoroutine => exact ⟨nofun, hfresh, hle⟩
  case listenAndServe | listen | serve => exact ⟨fun hh => (by split at hh <;> cases hh), hfresh, hle⟩
  case customizeTLSConfig => split <;> exact ⟨hidle, hfresh, hle⟩
  all_goals exact ⟨hidle, hfresh, hle⟩

namespace Lifecycle
variable {cfg : LifecycleConfig} {s : Lifecycle}

/-- Every reachable state keeps the call counts and the three invariants. -/
theorem Reachable.invariants (hs : s.Reachable cfg) :
    StopCounts cfg s ∧ HttpInv s ∧ FabricInv cfg s ∧ ReadyInv s := by
  induction hs with
  | refl =>
      exact ⟨⟨rfl, fun _ => by simp [init], rfl, by simp [init]⟩, ⟨nofun, nofun, nofun⟩,
        ⟨nofun, fun h => absurd rfl h, fun _ => rfl⟩, ⟨fun _ => ⟨rfl, rfl⟩, nofun, by simp [init]⟩⟩
  | tail _ hstep ih =>
      obtain ⟨e, he⟩ := hstep
      obtain ⟨hc, hh, hf, hr⟩ := ih
      exact ⟨hc.step he, hh.step he, hf.step he, hr.step he⟩

/-- A fact every step keeps holds along every run of steps. -/
theorem steps_preserve {P : Lifecycle → Prop} {s s' : Lifecycle}
    (hP : ∀ e s s', s.step cfg e = some s' → P s → P s')
    (hrun : Relation.ReflTransGen (fun s s' => ∃ e, s.step cfg e = some s') s s') (h : P s) :
    P s' := by
  induction hrun with
  | refl => exact h
  | tail _ hstep ih => obtain ⟨e, he⟩ := hstep; exact hP e _ _ he ih

theorem run_steps {s s' : Lifecycle} {es : List LifecycleEvent} (h : s.run cfg es = some s') :
    Relation.ReflTransGen (fun s s' => ∃ e, s.step cfg e = some s') s s' := by
  induction es generalizing s with
  | nil => cases h; rfl
  | cons e es ih =>
      cases hstep : s.step cfg e with
      | none => simp [run, hstep] at h
      | some s₁ =>
          simp only [run, hstep, Option.some_bind] at h
          exact .head ⟨e, hstep⟩ (ih h)

theorem Reachable.of_run {s' : Lifecycle} {es : List LifecycleEvent} (hs : s.Reachable cfg)
    (h : s.run cfg es = some s') : s'.Reachable cfg :=
  Relation.ReflTransGen.trans hs (run_steps h)

/-- A `StopServer` call with nothing running beside it goes through all its statements. -/
theorem run_stopCall (cfg : LifecycleConfig) (s : Lifecycle) :
    s.run cfg stopCall = some (stopFabric cfg (shutdownHttp (startHooks cfg (beginStop s)))) := by
  simp [stopCall, run, step]

end Lifecycle

/-! ## Stopping -/

/-- A fabric configuration, no fabric connection listener, and no services. -/
def brokerConfig : LifecycleConfig :=
  ⟨true, false, [], List.nodup_nil, fun _ => false⟩

/-- Another process holds the port and the broker fails to start. Both goroutines raise their
flags anyway, the bind fails, and the readiness dial reaches the other process: the server is
announced online with no listener of its own, and `CustomizeTLSConfig` is refused although
nothing of this server serves. -/
theorem flags_up_without_listener_or_broker :
    ∃ s, Lifecycle.init.run brokerConfig
        [.portTaken true, .startServer, .fabricGoroutine, .startFabricEndpoint false,
          .httpGoroutine, .listenAndServe, .listen true, .probe] = some s ∧
      s.serverAvailability = ⟨true, true⟩ ∧ s.listenerBound = false ∧
      s.httpGoroutine = .returned ∧ s.brokerRunning = false ∧ s.online = [true] ∧
      customizeTLSConfig s none = .error serverRunning :=
  ⟨_, rfl, rfl, rfl, rfl, rfl, rfl, rfl⟩

/-- Each flag is raised by its goroutine as it starts, whatever its bind or start then does. In
every reachable state Http is up only once the HTTP goroutine has run, and Fabric only once the
broker goroutine has run, so only with a fabric configuration. While this server's listener is
bound Http is up unless a `StopServer` call has begun, since a call lowers Http before `Shutdown`
closes the listener. Http comes down only as a `StopServer` call begins, and Fabric only when a
call with a fabric connection listener stops the broker, so a failed bind or broker start leaves
its flag up. The online channel has had `true` at most once, sent after a dial that reached a
listener on the port, this server's or another process's. `CustomizeTLSConfig` is refused exactly
while a flag is up, and otherwise only stores the TLS configuration. -/
theorem availability_raised_by_goroutines {cfg : LifecycleConfig} {s : Lifecycle}
    (hs : s.Reachable cfg) :
    (s.serverAvailability.http = true → s.httpGoroutine.started = true) ∧
    (s.serverAvailability.fabric = true →
      cfg.fabricConfig = true ∧ s.fabricGoroutine.started = true) ∧
    (s.listenerBound = true → s.serverAvailability.http = true ∨ 0 < s.calls.stopServer) ∧
    (∀ e s', s.step cfg e = some s' → s.serverAvailability.http = true →
      s'.serverAvailability.http = false → e = .signal ∨ e = .stopServer) ∧
    (∀ e s', s.step cfg e = some s' → s.serverAvailability.fabric = true →
      s'.serverAvailability.fabric = false → e = .stopFabricEndpoint ∧ cfg.fabricConn = true) ∧
    (∀ bindOk s', s.step cfg (.listen bindOk) = some s' →
      s'.serverAvailability = s.serverAvailability ∧
        s'.listenerBound = (bindOk && !s.portHeldByOther)) ∧
    (∀ ok s', s.step cfg (.startFabricEndpoint ok) = some s' →
      s'.serverAvailability = s.serverAvailability ∧ s'.brokerRunning = ok) ∧
    s.online.count true ≤ 1 ∧
    (∀ e s', s.step cfg e = some s' → s.online.count true < s'.online.count true →
      e = .probe ∧ (s.listenerBound || s.portHeldByOther) = true) ∧
    (∀ tls, customizeTLSConfig s tls =
      if (s.serverAvailability.http || s.serverAvailability.fabric) = true then
        .error serverRunning
      else .ok { s with tlsConfig := tls }) := by
  obtain ⟨-, hh, hf, hr⟩ := hs.invariants
  refine ⟨hh.http_started, fun hfab => ?_,
    fun hb => hh.started_http (HttpPhase.started_of_listening hb),
    fun _ _ h => Lifecycle.step_http_lowered h, fun _ _ h => Lifecycle.step_fabric_lowered h,
    fun _ _ => Lifecycle.step_listen, fun _ _ => Lifecycle.step_startFabricEndpoint, hr.ready_le,
    fun _ _ => Lifecycle.step_online_count, fun _ => rfl⟩
  have hst := hf.fabric_started hfab
  refine ⟨hf.fabric_config fun hidle => ?_, hst⟩
  simp [hidle, Phase.started] at hst

theorem availability_raised_by_goroutines_broker :
    ∃ s, Lifecycle.init.run brokerConfig
        [.portTaken true, .startServer, .fabricGoroutine, .httpGoroutine, .listenAndServe] =
        some s ∧
      s.serverAvailability = ⟨true, true⟩ ∧ s.fabricGoroutine = .flagged ∧
      s.httpGoroutine = .checked ∧
    ((s.serverAvailability.http = true → s.httpGoroutine.started = true) ∧
    (s.serverAvailability.fabric = true →
      brokerConfig.fabricConfig = true ∧ s.fabricGoroutine.started = true) ∧
    (s.listenerBound = true → s.serverAvailability.http = true ∨ 0 < s.calls.stopServer) ∧
    (∀ e s', s.step brokerConfig e = some s' → s.serverAvailability.http = true →
      s'.serverAvailability.http = false → e = .signal ∨ e = .stopServer) ∧
    (∀ e s', s.step brokerConfig e = some s' → s.serverAvailability.fabric = true →
      s'.serverAvailability.fabric = false →
        e = .stopFabricEndpoint ∧ brokerConfig.fabricConn = true) ∧
    (∀ bindOk s', s.step brokerConfig (.listen bindOk) = some s' →
      s'.serverAvailability = s.serverAvailability ∧
        s'.listenerBound = (bindOk && !s.portHeldByOther)) ∧
    (∀ ok s', s.step brokerConfig (.startFabricEndpoint ok) = some s' →
      s'.serverAvailability = s.serverAvailability ∧ s'.brokerRunning = ok) ∧
    s.online.count true ≤ 1 ∧
    (∀ e s', s.step brokerConfig e = some s' → s.online.count true < s'.online.count true →
      e = .probe ∧ (s.listenerBound || s.portHeldByOther) = true) ∧
    (∀ tls, customizeTLSConfig s tls =
      if (s.serverAvailability.http || s.serverAvailability.fabric) = true then
        .error serverRunning
      else .ok { s with tlsConfig := tls })) := by
  obtain ⟨s, hs, h₁, h₂, h₃⟩ : ∃ s, Lifecycle.init.run brokerConfig
        [.portTaken true, .startServer, .fabricGoroutine, .httpGoroutine, .listenAndServe] =
        some s ∧
      s.serverAvailability = ⟨true, true⟩ ∧ s.fabricGoroutine = .flagged ∧
      s.httpGoroutine = .checked :=
    ⟨_, rfl, rfl, rfl, rfl⟩
  exact ⟨s, hs, h₁, h₂, h₃, availability_raised_by_goroutines (Lifecycle.Reachable.of_run .refl hs)⟩

/-! ## After `Shutdown` -/

/-- `StopServer` lowers the Fabric flag only when a fabric connection listener is set. Without
one, once the broker goroutine has raised the flag it stays up in every state any interleaving
reaches, `StopServer` included, and `CustomizeTLSConfig` is refused from then on. -/
theorem fabric_flag_kept_without_listener {cfg : LifecycleConfig} {s s' : Lifecycle}
    (hconn : cfg.fabricConn = false) (hfab : s.serverAvailability.fabric = true)
    (hrun : Relation.ReflTransGen (fun s s' => ∃ e, s.step cfg e = some s') s s') :
    s'.serverAvailability.fabric = true ∧ ∀ tls, customizeTLSConfig s' tls = .error serverRunning := by
  have hfab' : s'.serverAvailability.fabric = true :=
    Lifecycle.steps_preserve (fun _ _ _ h => Lifecycle.step_fabric_kept hconn h) hrun hfab
  exact ⟨hfab', fun _ => by simp [customizeTLSConfig, hfab']⟩

/-- With a fabric configuration and no fabric connection listener, the broker goroutine runs,
and then a `StopServer` call runs to its end. -/
theorem fabric_flag_kept_without_listener_broker :
    ∃ s s', Lifecycle.init.run brokerConfig [.startServer, .fabricGoroutine] = some s ∧
      s.serverAvailability.fabric = true ∧
      s.run brokerConfig stopCall = some s' ∧
      s'.serverAvailability.fabric = true ∧
      ∀ tls, customizeTLSConfig s' tls = .error serverRunning := by
  obtain ⟨s, hs, hfab⟩ : ∃ s, Lifecycle.init.run brokerConfig [.startServer, .fabricGoroutine] =
      some s ∧ s.serverAvailability.fabric = true :=
    ⟨_, rfl, rfl⟩
  exact ⟨s, _, hs, hfab, Lifecycle.run_stopCall _ _,
    fabric_flag_kept_without_listener rfl hfab (Lifecycle.run_steps (Lifecycle.run_stopCall _ _))⟩

end Ranch
