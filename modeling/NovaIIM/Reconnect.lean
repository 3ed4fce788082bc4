import NovaIIM.Runs

/-!
Reconnecting in the client (`core/client_context.cpp`, `core/reconnect_manager.cpp`,
`infra/tcp_client.cpp`).

Three state machines notify each other: `TcpClient` tells `ClientContext` about
the connection, `ClientContext` translates that to a `ClientState`, and tells
`ReconnectManager` about the result. The manager waits for `disconnected`, but a
connection that drops while reconnection is enabled is announced to it as
`reconnecting`. So no timer is ever started (`pendingTimer_never`), and a client
is stuck from each such drop on (`reconnecting_unless_dropped`).
-/
namespace NovaIIM.Client

/-- `infra/connection_state.h`. -/
inductive ConnectionState where
  | disconnected | connecting | connected
deriving DecidableEq, Repr

/-- `model/client_state.h`. -/
inductive ClientState where
  | disconnected | connecting | connected | authenticated | reconnecting
deriving DecidableEq, Repr

/-- The settings of `ClientConfig` for the reconnection; `scaled` is the delay times
    `reconnect_multiplier`, as the conversion back to `uint32_t` leaves it. -/
structure ClientConfig where
  reconnectInitialMs : UInt32 := 1000
  reconnectMaxMs : UInt32 := 30000
  scaled : UInt32 → UInt32 := fun delay => delay * 2

/-- `ReconnectManager`: a pending timer is there with its delay before the jitter. -/
structure ReconnectManager where
  enabled : Bool := true
  stopped : Bool := false
  currentDelayMs : UInt32
  attemptCount : UInt32 := 0
  pendingTimer : Option UInt32 := none

namespace ReconnectManager

/-- `ReconnectManager::Reset`. -/
def reset (config : ClientConfig) (m : ReconnectManager) : ReconnectManager :=
  { m with currentDelayMs := config.reconnectInitialMs, attemptCount := 0 }

/-- `ReconnectManager::Stop`. -/
def stop (m : ReconnectManager) : ReconnectManager := { m with stopped := true, enabled := false, pendingTimer := none }

/-- `ReconnectManager::ScheduleReconnect`; a timer that was pending is killed. -/
def scheduleReconnect (config : ClientConfig) (m : ReconnectManager) : ReconnectManager :=
  if m.stopped then m
  else
    { m with
      currentDelayMs := min (config.scaled m.currentDelayMs) config.reconnectMaxMs
      attemptCount := m.attemptCount + 1
      pendingTimer := some m.currentDelayMs }

/-- `ReconnectManager::OnStateChanged`. -/
def onStateChanged (config : ClientConfig) (m : ReconnectManager) : ClientState → ReconnectManager
  | .authenticated => m.reset config
  | .disconnected => if m.enabled && !m.stopped then m.scheduleReconnect config else m
  | _ => m

end ReconnectManager

/-- `ClientContext` with its `TcpClient` and its `ReconnectManager`. -/
structure ClientContext where
  config : ClientConfig
  state : ClientState := .disconnected
  tcp : ConnectionState := .disconnected
  reconnect : ReconnectManager

namespace ClientContext

/-- `ClientContext::Init`. -/
def init (config : ClientConfig) : ClientContext :=
  { config := config, reconnect := { currentDelayMs := config.reconnectInitialMs } }

/-- The translation of the state of the connection, as `Init` subscribes it. -/
def networkChanged (c : ClientContext) (s : ConnectionState) : ClientContext :=
  let state := match s with
    | .connecting => ClientState.connecting
    | .connected => .connected
    | .disconnected =>
      if c.reconnect.enabled && !c.reconnect.stopped && c.state ≠ .disconnected then .reconnecting else .disconnected
  { c with state := state, reconnect := c.reconnect.onStateChanged c.config state }

/-- `TcpClient::Impl::SetState`: only a change is told. -/
def setNetwork (c : ClientContext) (s : ConnectionState) : ClientContext :=
  if c.tcp = s then c else { c with tcp := s }.networkChanged s

/-- `TcpClient::Connect`, where `socket` says whether a socket could be made. -/
def connect (c : ClientContext) (socket : Bool) : ClientContext :=
  if c.tcp ≠ .disconnected then c
  else if socket then c.setNetwork .connecting
  else (c.setNetwork .connecting).setNetwork .disconnected

/-- The callback of the reconnection timer. -/
def timerFired (c : ClientContext) (socket : Bool) : ClientContext :=
  if c.reconnect.pendingTimer.isNone then c
  else
    let c := { c with reconnect := { c.reconnect with pendingTimer := none } }
    if !c.reconnect.stopped && c.reconnect.enabled then c.connect socket else c

/-- The kick notification in `SetupPacketDispatch`. -/
def kicked (c : ClientContext) : ClientContext := { c with state := .disconnected, reconnect := c.reconnect.stop }

/-- `ClientContext::Shutdown`. -/
def shutdown (c : ClientContext) : ClientContext :=
  { { c with reconnect := c.reconnect.stop }.setNetwork .disconnected with state := .disconnected }

end ClientContext

/-- What happens to a client. -/
inductive ClientEvent where
  /-- `Connect` is called. -/
  | connect (socket : Bool)
  /-- The connection is there. -/
  | tcpConnected
  /-- The connection is lost, or the attempt has failed. -/
  | tcpDisconnected
  /-- `NovaClient::Disconnect` is called. -/
  | disconnect
  /-- A login has succeeded: `SetAuthenticated`. -/
  | loginSuccess
  | timerFired (socket : Bool)
  | kickNotify
  | setEnabled (enabled : Bool)
  /-- `ReconnectManager::Stop` is called. -/
  | stop
  | shutdown
deriving DecidableEq, Repr

/-- The client after an event. -/
def react (c : ClientContext) : ClientEvent → ClientContext
  | .connect socket => c.connect socket
  | .tcpConnected => c.setNetwork .connected
  | .tcpDisconnected | .disconnect => c.setNetwork .disconnected
  | .loginSuccess => { c with state := .authenticated }
  | .timerFired socket => c.timerFired socket
  | .kickNotify => c.kicked
  | .setEnabled enabled => { c with reconnect := { c.reconnect with enabled := enabled } }
  | .stop => { c with reconnect := c.reconnect.stop }
  | .shutdown => c.shutdown

/-- A client that is to reconnect, with no timer pending and no attempt in progress. -/
def Stuck (c : ClientContext) : Prop :=
  c.state = .reconnecting ∧ c.reconnect.enabled = true ∧ c.reconnect.stopped = false ∧
    c.reconnect.pendingTimer = none ∧ c.tcp ≠ .connecting

instance (c : ClientContext) : Decidable (Stuck c) := inferInstanceAs (Decidable (_ ∧ _))

/-- A connection or an attempt to connect ends while reconnection is enabled and not stopped. -/
def Drops (c : ClientContext) (event : ClientEvent) : Prop :=
  c.reconnect.enabled = true ∧ c.reconnect.stopped = false ∧
    match event with
    | .tcpDisconnected | .disconnect => c.tcp ≠ .disconnected
    | .connect socket => socket = false ∧ c.tcp = .disconnected
    | _ => False

/-! ### The invariant -/

/-- No timer is pending, and as long as the manager is not stopped a client that counts as
    disconnected has no connection that could be lost. -/
structure Idle (c : ClientContext) : Prop where
  timer : c.reconnect.pendingTimer = none
  lost : c.reconnect.stopped = false → c.state = .disconnected → c.tcp = .disconnected

section Steps
variable {c : ClientContext}

/-- A client without a connection starts to connect. -/
theorem setNetwork_connecting (off : c.tcp = .disconnected) :
    c.setNetwork .connecting = { c with tcp := .connecting, state := .connecting } := by
  rw [ClientContext.setNetwork, if_neg (by rw [off]; decide)]
  rfl

theorem connect_live (live : c.tcp ≠ .disconnected) (socket : Bool) : c.connect socket = c := if_pos live

theorem connect_made (off : c.tcp = .disconnected) : c.connect true = c.setNetwork .connecting := by
  rw [ClientContext.connect, if_neg (not_not_intro off), if_pos rfl]

theorem connect_failed (off : c.tcp = .disconnected) :
    c.connect false = (c.setNetwork .connecting).setNetwork .disconnected := by
  rw [ClientContext.connect, if_neg (not_not_intro off), if_neg Bool.false_ne_true]

theorem idle_connecting (idle : Idle c) (off : c.tcp = .disconnected) : Idle (c.setNetwork .connecting) := by
  rw [setNetwork_connecting off]
  exact ⟨idle.timer, fun _ off => nomatch off⟩

theorem idle_connected (idle : Idle c) : Idle (c.setNetwork .connected) := by
  unfold ClientContext.setNetwork
  split
  · exact idle
  · exact ⟨idle.timer, fun _ off => nomatch off⟩

/-- A connection that drops is announced as `reconnecting`, never as `disconnected` to a manager at work. -/
theorem setNetwork_disconnected (idle : Idle c) (live : c.tcp ≠ .disconnected) :
    c.setNetwork .disconnected = { c with
      tcp := .disconnected
      state := if c.reconnect.enabled && !c.reconnect.stopped then .reconnecting else .disconnected } := by
  unfold ClientContext.setNetwork ClientContext.networkChanged
  rw [if_neg live]
  by_cases working : c.reconnect.enabled = true ∧ c.reconnect.stopped = false
  · obtain ⟨enabled, going⟩ := working
    have shown : c.state ≠ .disconnected := fun off => live (idle.lost going off)
    simp [enabled, going, shown, ReconnectManager.onStateChanged]
  · have off : (c.reconnect.enabled && !c.reconnect.stopped) = false := by
      rw [Bool.eq_false_iff]
      simpa using working
    simp [off, ReconnectManager.onStateChanged]

theorem idle_disconnected (idle : Idle c) : Idle (c.setNetwork .disconnected) := by
  by_cases live : c.tcp = .disconnected
  · rwa [ClientContext.setNetwork, if_pos live]
  · rw [setNetwork_disconnected idle live]
    exact ⟨idle.timer, fun _ _ => rfl⟩

theorem idle_connect (idle : Idle c) (socket : Bool) : Idle (c.connect socket) := by
  by_cases off : c.tcp = .disconnected
  · cases socket with
    | true =>
      rw [connect_made off]
      exact idle_connecting idle off
    | false =>
      rw [connect_failed off]
      exact idle_disconnected (idle_connecting idle off)
  · rwa [connect_live off]

theorem idle_react (idle : Idle c) (event : ClientEvent) : Idle (react c event) := by
  cases event with
  | connect socket => exact idle_connect idle socket
  | tcpConnected => exact idle_connected idle
  | tcpDisconnected => exact idle_disconnected idle
  | disconnect => exact idle_disconnected idle
  | loginSuccess => exact ⟨idle.timer, fun _ off => nomatch off⟩
  | timerFired socket =>
    show Idle (c.timerFired socket)
    rw [ClientContext.timerFired, idle.timer]
    exact idle
  | kickNotify => exact ⟨rfl, fun going => nomatch going⟩
  | setEnabled enabled => exact ⟨idle.timer, idle.lost⟩
  | stop => exact ⟨rfl, fun going => nomatch going⟩
  | shutdown =>
    have stopped : Idle { c with reconnect := c.reconnect.stop } := ⟨rfl, fun going => nomatch going⟩
    have closed := idle_disconnected stopped
    refine ⟨closed.timer, fun _ _ => ?_⟩
    show (ClientContext.setNetwork _ .disconnected).tcp = .disconnected
    unfold ClientContext.setNetwork
    split
    · assumption
    · rfl

/-- After a drop the client is stuck. -/
theorem stuck_of_drops {event : ClientEvent} (idle : Idle c) (drops : Drops c event) : Stuck (react c event) := by
  have lost : ∀ {c : ClientContext}, Idle c → c.tcp ≠ .disconnected → c.reconnect.enabled = true →
      c.reconnect.stopped = false → Stuck (c.setNetwork .disconnected) := by
    intro c idle live enabled going
    rw [setNetwork_disconnected idle live]
    refine ⟨?_, enabled, going, idle.timer, fun trying => nomatch trying⟩
    simp [enabled, going]
  obtain ⟨enabled, going, ends⟩ := drops
  cases event with
  | tcpDisconnected => exact lost idle ends enabled going
  | disconnect => exact lost idle ends enabled going
  | connect socket =>
    obtain ⟨rfl, off⟩ := ends
    show Stuck (c.connect false)
    have begun := idle_connecting idle off
    rw [connect_failed off]
    rw [setNetwork_connecting off] at begun ⊢
    exact lost begun (fun still => nomatch still) enabled going
  | _ => exact ends.elim

/-- Without a drop no client starts to reconnect. -/
theorem settled_of_keeps {event : ClientEvent} (idle : Idle c) (keeps : ¬Drops c event) (settled : c.state ≠ .reconnecting) :
    (react c event).state ≠ .reconnecting := by
  have lost : ∀ {c : ClientContext}, Idle c → c.state ≠ .reconnecting →
      ¬(c.reconnect.enabled = true ∧ c.reconnect.stopped = false ∧ c.tcp ≠ .disconnected) →
      (c.setNetwork .disconnected).state ≠ .reconnecting := by
    intro c idle settled keeps
    by_cases live : c.tcp = .disconnected
    · rwa [ClientContext.setNetwork, if_pos live]
    · rw [setNetwork_disconnected idle live]
      have off : (c.reconnect.enabled && !c.reconnect.stopped) = false := by
        rw [Bool.eq_false_iff]
        simpa [live] using keeps
      simp [off]
  cases event with
  | connect socket =>
    show (c.connect socket).state ≠ .reconnecting
    by_cases off : c.tcp = .disconnected
    · have begun := idle_connecting idle off
      cases socket with
      | true =>
        rw [connect_made off, setNetwork_connecting off]
        exact fun other => nomatch other
      | false =>
        rw [connect_failed off]
        rw [setNetwork_connecting off] at begun ⊢
        refine lost begun (fun other => nomatch other) ?_
        rintro ⟨enabled, going, -⟩
        exact keeps ⟨enabled, going, rfl, off⟩
    · rwa [connect_live off]
  | tcpConnected =>
    show (c.setNetwork .connected).state ≠ .reconnecting
    unfold ClientContext.setNetwork
    split
    · exact settled
    · exact fun other => nomatch other
  | tcpDisconnected => exact lost idle settled keeps
  | disconnect => exact lost idle settled keeps
  | loginSuccess => exact fun other => nomatch other
  | timerFired socket =>
    show (c.timerFired socket).state ≠ .reconnecting
    rw [ClientContext.timerFired, idle.timer]
    exact settled
  | kickNotify => exact fun other => nomatch other
  | setEnabled enabled => exact settled
  | stop => exact settled
  | shutdown => exact fun other => nomatch other

end Steps

/-! ### Runs -/

theorem idle_init (config : ClientConfig) : Idle (.init config) := ⟨rfl, fun _ _ => rfl⟩

/-- The manager never starts a timer. -/
theorem pendingTimer_never (config : ClientConfig) (events : List ClientEvent) :
    (after react (.init config) events).reconnect.pendingTimer = none :=
  (@after_invariant_always _ _ react Idle (fun _ event idle => idle_react idle event) _ (idle_init config) events).timer

/-- From a client that is not reconnecting, a run gets stuck as soon as a step drops the connection. -/
private theorem stuck_iff_drops (c : ClientContext) (idle : Idle c) (settled : c.state ≠ .reconnecting)
    (events : List ClientEvent) :
    (∀ before, before <+: events → ¬Stuck (after react c before)) ↔ Along react (fun c event => ¬Drops c event) c events := by
  induction events generalizing c with
  | nil =>
    refine iff_of_true (fun before short => ?_) trivial
    rw [List.prefix_nil.mp short]
    exact fun stuck => settled stuck.1
  | cons event rest ih =>
    rw [along_cons]
    by_cases drops : Drops c event
    · refine iff_of_false (fun never => ?_) fun along => along.1 drops
      exact never [event] ⟨rest, rfl⟩ (stuck_of_drops idle drops)
    · have next := ih (react c event) (idle_react idle event) (settled_of_keeps idle drops settled)
      rw [← next]
      constructor
      · intro never
        exact ⟨drops, fun before short => never (event :: before) (List.cons_prefix_cons.mpr ⟨rfl, short⟩)⟩
      · rintro ⟨-, never⟩ before short
        cases before with
        | nil => exact fun stuck => settled stuck.1
        | cons first more =>
          obtain ⟨rfl, inside⟩ := List.cons_prefix_cons.mp short
          exact never more inside

/-- A run reaches no state in which the client is stuck if and only if no connection and no
    attempt ends while reconnection is enabled and not stopped. -/
theorem reconnecting_unless_dropped (config : ClientConfig) (events : List ClientEvent) :
    (∀ before, before <+: events → ¬Stuck (after react (.init config) before)) ↔
      Along react (fun c event => ¬Drops c event) (.init config) events :=
  stuck_iff_drops _ (idle_init config) (fun other => nomatch other) events

/-- A user logs in and the server goes away. -/
theorem reconnecting_stuck :
    ¬∀ events : List ClientEvent, ¬Stuck (after react (.init {}) events) := by
  intro claim
  exact claim [.connect true, .tcpConnected, .loginSuccess, .tcpDisconnected] (by decide)

end NovaIIM.Client
