import NovaIIM.Answers
import NovaIIM.LimiterPurge
import NovaIIM.ServerSteps

/-!
How often a password can be guessed.

The limiter counts the failed logins of an email in a window that the first of them opens, and
while a window is full no login of that email gets as far as the password. A stretch that is
shorter than a window meets two of them at most. So between two logins with the right password
at most twice the limit of wrong ones is answered in such a stretch (`guesses_bounded`), whatever
else is served in between and whatever fails. A limit below 1 counts as 1.
-/
namespace NovaIIM
open Store

/-! ### Failures in the windows -/

/-- What the entry of a key says of the guesses since a time: those in an older window are counted
    by its entry, and before a window that has begun since there was at most one other. -/
def Tally (limit since guesses : Nat) : Option RateEntry → Prop
  | none => guesses ≤ limit
  | some e => 0 ≤ e.count ∧ e.count ≤ limit ∧ (guesses : Int) ≤ (if e.windowStart < since then 0 else limit) + e.count

/-- The count of an entry is within the limit. -/
def InLimit (limit : Nat) (entry : Option RateEntry) : Prop := ∀ e, entry = some e → 0 ≤ e.count ∧ e.count ≤ limit

namespace RateLimiter

/-- The guesses that a window has room for; the first one is let through whatever the limit is. -/
def room (l : RateLimiter) : Nat := (max 1 l.maxAttempts).toNat

/-- What a call did to the entry of a key: nothing, a failure was counted, or it was cleared. -/
inductive Moved (proved : Prop) (key : Bytes) (now : Nat) (l l' : RateLimiter) : Bool → Prop where
  | kept (same : l'.live now key = l.live now key) : Moved proved key now l l' false
  | failed (allowed : (l.allow key now).1 = true) (counts : l'.live now key = some (counted now (l.live now key))) :
      Moved proved key now l l' true
  | cleared (hit : Bool) (right : proved) (none_ : l'.live now key = none) : Moved proved key now l l' hit

variable {l l' : RateLimiter} {key other : Bytes} {now later limit since guesses : Nat} {proved : Prop} {hit : Bool}

theorem tally_zero {entry : Option RateEntry} (sound : InLimit limit entry) : Tally limit since 0 entry := by
  cases entry with
  | none => exact Nat.zero_le limit
  | some e =>
    obtain ⟨low, high⟩ := sound e rfl
    refine ⟨low, high, ?_⟩
    split <;> omega

theorem tally_total {entry : Option RateEntry} (tally : Tally limit since guesses entry) : guesses ≤ 2 * limit := by
  cases entry with
  | none =>
    have few : guesses ≤ limit := tally
    omega
  | some e =>
    obtain ⟨low, high, few⟩ := tally
    split at few <;> omega

/-- A window that has begun since does not pass within a stretch that is shorter than it. -/
theorem tally_later (tally : Tally limit since guesses (l.live now key)) (after : now ≤ later) (short : later - since < l.window) :
    Tally limit since guesses (l.live later key) := by
  rw [live_later after]
  cases entry : l.live now key with
  | none =>
    rw [entry] at tally
    exact tally
  | some e =>
    rw [entry] at tally
    by_cases inside : later - e.windowStart < l.window
    · rw [Option.filter_some, if_pos (decide_eq_true inside)]
      exact tally
    · obtain ⟨low, high, few⟩ := tally
      have few' : guesses ≤ limit := by
        split at few <;> omega
      rw [Option.filter_some, if_neg (by simpa using inside)]
      exact few'

theorem inLimit_later (sound : InLimit limit (l.live now key)) (after : now ≤ later) : InLimit limit (l.live later key) := by
  intro e found
  rw [live_later after] at found
  exact sound e (Option.filter_eq_some_iff.mp found).1

/-- A guess is let through while the window has room. -/
theorem inLimit_counted (sound : InLimit l.room (l.live now key)) (allowed : (l.allow key now).1 = true) :
    InLimit l.room (some (counted now (l.live now key))) := by
  intro e same
  cases same
  rw [allow_answer] at allowed
  cases entry : l.live now key with
  | none =>
    simp only [counted, room]
    omega
  | some e =>
    obtain ⟨low, high⟩ := sound e entry
    rw [entry, Option.map_some, Option.getD_some, decide_eq_true_eq] at allowed
    by_cases zero : e.count = 0
    · simp only [counted, zero, if_true, room]
      omega
    · simp only [counted, zero, if_false, room] at high ⊢
      omega

theorem tally_counted (tally : Tally l.room since guesses (l.live now key)) (allowed : (l.allow key now).1 = true) (reached : since ≤ now) :
    Tally l.room since (guesses + 1) (some (counted now (l.live now key))) := by
  have sound : InLimit l.room (l.live now key) := by
    intro e found
    rw [found] at tally
    exact ⟨tally.1, tally.2.1⟩
  obtain ⟨low, high⟩ := inLimit_counted sound allowed _ rfl
  refine ⟨low, high, ?_⟩
  cases entry : l.live now key with
  | none =>
    rw [entry] at tally
    have few : guesses ≤ l.room := tally
    simp only [counted, Nat.not_lt.mpr reached, if_false]
    omega
  | some e =>
    rw [entry] at tally
    obtain ⟨-, high', few⟩ := tally
    by_cases zero : e.count = 0
    · have few' : guesses ≤ l.room := by
        split at few <;> omega
      simp only [counted, zero, if_true, Nat.not_lt.mpr reached, if_false]
      omega
    · simp only [counted, zero, if_false]
      omega

/-! ### What a login does to the limiter -/

theorem moved_allow : Moved proved key now l (l.allow other now).2 false := .kept live_allow

/-- A failure that is counted for a key, behind the question whether it is allowed. -/
theorem moved_failure (allowed : (l.allow other now).1 = true) (opens : 0 < l.window) :
    Moved proved key now l ((l.allow other now).2.recordFailure other now) (decide (other = key)) := by
  have entry : ((l.allow other now).2.recordFailure other now).entryOf key =
      if key = other then some (counted now (l.live now other)) else ((l.allow other now).2.maybePurge now).entryOf key := by
    rw [recordFailure_eq, entryOf_countFailure, live_maybePurge, live_allow]
  by_cases same : other = key
  · subst same
    rw [if_pos rfl] at entry
    rw [decide_eq_true rfl]
    refine .failed allowed (live_some entry ?_)
    rw [show ((l.allow other now).2.recordFailure other now).window = l.window from maybePurge_limits.2.trans allow_limits.2]
    cases found : l.live now other with
    | none => simpa [counted] using opens
    | some e =>
      have inside := of_decide_eq_true (Option.filter_eq_some_iff.mp found).2
      by_cases zero : e.count = 0
      · simpa [counted, zero] using opens
      · simpa [counted, zero] using inside
  · rw [if_neg fun back => same back.symm] at entry
    rw [decide_eq_false same]
    refine .kept ?_
    rw [live, entry, ← @live_allow l other key now, ← live_maybePurge]
    rfl

theorem moved_reset (right : other = key → proved) (elsewhere : other ≠ key → hit = false) :
    Moved proved key now l ((l.allow other now).2.reset other) hit := by
  have entry : ((l.allow other now).2.reset other).live now key = if key = other then none else l.live now key := by
    rw [reset, live_erase, live_allow]
  by_cases same : other = key
  · exact .cleared hit (right same) (by rw [entry, if_pos same.symm])
  · rw [elsewhere same]
    exact .kept (by rw [entry, if_neg fun back => same back.symm])

end RateLimiter

/-! ### Logins -/

/-- The key under which the limiter counts a login. -/
def LoginReq.key (req : LoginReq) : Bytes := UserService.emailToLower (UserService.trim req.email)

/-- The reply to a login whose email or password is wrong. -/
def guessAnswer (conn : ConnId) (seq : UInt32) : Event :=
  .sent conn
    { cmd := .loginAck, seq := seq, uid := 0,
      body := .loginAck { code := errc.user.kInvalidCredentials.code, msg := errc.user.kInvalidCredentials.msg } }

/-- How a login may leave the limiter, and what it is told. -/
inductive LoginEnds (w : World) (conn : ConnId) (seq : UInt32) (req : LoginReq) : RateLimiter → List Event → Prop where
  | away (events : List Event) (untold : guessAnswer conn seq ∉ events) : LoginEnds w conn seq req w.mem.loginLimiter events
  | full (events : List Event) (untold : guessAnswer conn seq ∉ events) :
      LoginEnds w conn seq req (w.mem.loginLimiter.allow req.key w.mem.steady).2 events
  | wrong (events : List Event) (allowed : (w.mem.loginLimiter.allow req.key w.mem.steady).1 = true)
      (told : guessAnswer conn seq ∈ events) :
      LoginEnds w conn seq req ((w.mem.loginLimiter.allow req.key w.mem.steady).2.recordFailure req.key w.mem.steady) events
  | right (events : List Event) (user : User) (verified : Verified w req user) :
      LoginEnds w conn seq req ((w.mem.loginLimiter.allow req.key w.mem.steady).2.reset req.key) events

/-- A program that leaves the login limiter and the clock alone. -/
theorem Store.Plain.run_logins {trans : Prop} {ι ρ α : Type} {mask : ι → Tables → Tables} {part : Tables → ρ} {p : Action α}
    (plain : Plain trans mask part logins p) (w : World) :
    (p.run w).state.mem.loginLimiter = w.mem.loginLimiter ∧ (p.run w).state.mem.steady = w.mem.steady :=
  ⟨congrArg Prod.fst (plain.run_view w), congrArg Prod.snd (plain.run_view w)⟩

namespace UserService
variable {conn : ConnId} {seq : UInt32} {w : World} {req : LoginReq} {e : Error}

theorem refuse_events : ((refuse conn seq e).run w).events =
    [.sent conn { cmd := .loginAck, seq := seq, uid := 0, body := .loginAck { code := e.code, msg := e.msg } }, .closed conn] := by
  simp [refuse, sendLoginAck, sendPacket, send, close]

/-- A refusal for another reason than a wrong password. -/
theorem refuse_untold (other : e.code ≠ errc.user.kInvalidCredentials.code) :
    guessAnswer conn seq ∉ ((refuse conn seq e).run w).events := by
  rw [refuse_events]
  simp [guessAnswer, other.symm]

/-- What holds behind a login. -/
def Ends (w : World) (conn : ConnId) (seq : UInt32) (req : LoginReq) (o : Outcome World Event Unit) : Prop :=
  o.state.mem.steady = w.mem.steady ∧ LoginEnds w conn seq req o.state.mem.loginLimiter o.events

/-- A login behind the limiter, in a state that the limiter has left. -/
structure Passed (w : World) (req : LoginReq) (v : World) : Prop where
  allowed : (w.mem.loginLimiter.allow req.key w.mem.steady).1 = true
  limiter : v.mem.loginLimiter = (w.mem.loginLimiter.allow req.key w.mem.steady).2
  steady : v.mem.steady = w.mem.steady

theorem ends_wrong {v : World} (passed : Passed w req v) :
    (recordFailure req.key >>= fun _ => refuse conn seq errc.user.kInvalidCredentials).Ensures v (Ends w conn seq req) := by
  refine Prog.ensures_bind ?_
  rw [recordFailure, Prog.Ensures, run_modify]
  obtain ⟨limiter, steady⟩ := (@plain_refuse conn seq errc.user.kInvalidCredentials).run_logins
    { v with mem := { v.mem with loginLimiter := v.mem.loginLimiter.recordFailure req.key v.mem.steady } }
  refine ⟨steady.trans passed.steady, ?_⟩
  dsimp only
  rw [limiter, passed.limiter, passed.steady, List.nil_append]
  exact .wrong _ passed.allowed (by rw [refuse_events]; exact List.mem_cons_self)

theorem ends_right {v : World} (passed : Passed w req v) {user : User} (verified : Verified w req user) {deviceId deviceType : Bytes} :
    (resetLimiter req.key >>= fun _ => loginVerified conn seq user deviceId deviceType).Ensures v (Ends w conn seq req) := by
  refine Prog.ensures_bind ?_
  rw [resetLimiter, Prog.Ensures, run_modify]
  obtain ⟨limiter, steady⟩ := (@plain_loginVerified conn seq user deviceId deviceType).run_logins
    { v with mem := { v.mem with loginLimiter := v.mem.loginLimiter.reset req.key } }
  refine ⟨steady.trans passed.steady, ?_⟩
  dsimp only
  rw [limiter, passed.limiter, List.nil_append]
  exact .right _ user verified

/-- The state and the events of a login behind the checks of its fields. -/
theorem loginChecked_ends (req : LoginReq) (w : World) : (loginChecked conn seq req).Ensures w (Ends w conn seq req) := by
  refine Prog.ensures_bind ?_
  rw [limiterAllow, Prog.Ensures, Prog.run_step]
  refine Prog.ensures_ite (fun denied => ?_) fun allowed => ?_
  · obtain ⟨limiter, steady⟩ := (@plain_refuse conn seq errc.user.kRateLimited).run_logins
      { w with mem := { w.mem with loginLimiter := (w.mem.loginLimiter.allow req.key w.mem.steady).2 } }
    refine ⟨steady, ?_⟩
    rw [show emailToLower (trim req.email) = req.key from rfl, limiter, List.nil_append]
    exact .full _ (refuse_untold (by decide))
  · have passed : Passed w req { w with mem := { w.mem with loginLimiter := (w.mem.loginLimiter.allow req.key w.mem.steady).2 } } :=
      ⟨by rwa [Bool.not_eq_true, Bool.not_eq_false'] at allowed, rfl, rfl⟩
    have still : Passed w req { w with mem := { w.mem with loginLimiter := (w.mem.loginLimiter.allow req.key w.mem.steady).2 } }.spend :=
      ⟨passed.allowed, passed.limiter, passed.steady⟩
    refine ensures_lookup (ends_wrong still) fun user found => ?_
    refine Prog.ensures_ite (fun banned => ends_wrong still) fun banned => ensures_peek ?_
    refine Prog.ensures_ite (fun differs => ends_wrong still) fun right => ends_right still ?_
    have shape := List.find?_some found
    simp only [Bool.and_eq_true, decide_eq_true_eq] at shape
    refine ⟨List.mem_of_find?_eq_some found, ?_, shape.1, by simpa using right⟩
    cases status : user.status with
    | normal => rfl
    | banned => exact absurd status banned
    | deleted => exact absurd status shape.2

theorem sameEnds {v : World} {l : RateLimiter} {events : List Event} (limiter : v.mem.loginLimiter = w.mem.loginLimiter)
    (steady : v.mem.steady = w.mem.steady) (verified : ∀ user, Verified v req user → Verified w req user)
    (ends : LoginEnds v conn seq req l events) : LoginEnds w conn seq req l events := by
  cases ends with
  | away _ untold => exact limiter ▸ .away events untold
  | full _ untold =>
    rw [limiter, steady]
    exact .full events untold
  | wrong _ allowed told =>
    rw [limiter, steady] at allowed ⊢
    exact .wrong events allowed told
  | right _ user right =>
    rw [limiter, steady]
    exact .right events user (verified user right)

theorem handleLogin_ends (req : LoginReq) (w : World) : (handleLogin conn seq (some req)).Ensures w (Ends w conn seq req) := by
  refine Prog.ensures_bind ?_
  obtain ⟨tables, config, -⟩ := endSession_connections conn w
  obtain ⟨limiter, steady⟩ := (@plain_endSession conn).run_logins w
  have quiet : ((endSession conn).run w).events = [] := wordless_endSession w
  rw [Prog.Ensures, quiet]
  generalize ((endSession conn).run w).state = v at tables config limiter steady ⊢
  have away : ∀ {e : Error}, e.code ≠ errc.user.kInvalidCredentials.code → Ends w conn seq req ((refuse conn seq e).run v) := by
    intro e other
    obtain ⟨limiter', steady'⟩ := (@plain_refuse conn seq e).run_logins v
    refine ⟨steady'.trans steady, ?_⟩
    rw [limiter', limiter]
    exact .away _ (refuse_untold other)
  refine Prog.ensures_ite (fun _ => away (by decide)) fun _ => Prog.ensures_ite (fun _ => away (by decide)) fun _ => ?_
  obtain ⟨steady', ends⟩ := @loginChecked_ends conn seq req v
  refine ⟨steady'.trans steady, ?_⟩
  refine sameEnds limiter steady (fun user verified => ?_) ends
  exact ⟨tables ▸ verified.known, verified.normal, verified.named, config ▸ verified.password⟩

end UserService

/-! ### Everything else -/

section Others
variable {w : World}

theorem UserService.handle_logins {request : UserService.Request} (other : ∀ conn seq req, request ≠ .login conn seq (some req)) :
    ((handle request).run w).state.mem.loginLimiter = w.mem.loginLimiter ∧
      ((handle request).run w).state.mem.steady = w.mem.steady := by
  cases request with
  | register conn seq body => exact (plain_handleRegister body).limiter.run_logins w
  | login conn seq body =>
    cases body with
    | none =>
      have refused : SessionHandler (handleLogin conn seq none) := .bind plain_endSession fun _ => plain_refuse
      exact refused.run_logins w
    | some req => exact absurd rfl (other conn seq req)
  | logout conn seq => exact plain_handleLogout.run_logins w
  | heartbeat conn seq => exact plain_handleHeartbeat.limiter.run_logins w
  | searchUser conn seq body => exact (plain_handleSearchUser body).limiter.run_logins w
  | getProfile conn seq body => exact (plain_handleGetProfile body).limiter.run_logins w
  | updateProfile conn seq body => exact (plain_handleUpdateProfile body).limiter.run_logins w

theorem AdminServer.handle_logins (request : AdminServer.Request) :
    ((handle request).run w).state.mem.loginLimiter = w.mem.loginLimiter ∧
      ((handle request).run w).state.mem.steady = w.mem.steady := by
  cases request with
  | banUser permitted uid | unbanUser permitted uid | deleteUser permitted uid => exact (plain_setStatus ..).limiter.run_logins w
  | kickUser permitted uid => exact (plain_handleKickUser ..).limiter.run_logins w
  | recallMessage permitted id =>
    -- a recall looks at the message, so nothing is masked here
    have recalls : Plain False (fun (_ : Unit) (t : Tables) => t) (fun _ => ()) logins (handleRecallMessage permitted id) := by
      refine plain_ite (.ret _) (plain_ite (.ret _) (plain_lookup (plain_query fun _ _ => rfl) (.ret _) fun msg => ?_))
      refine .bind (.atomic (plain_lookup (plain_query fun _ _ => rfl) (.ret false) fun row => ?_)) fun updated => plain_ite (.ret _) ?_
      · exact plain_execute (fun _ _ => rfl) fun _ => rfl
      · refine .bind (MessageBus.plain_publish fun _ _ => rfl) fun _ => .bind (.bind ?_ fun _ => .ret ()) fun _ => .ret _
        exact plain_execute (fun _ _ => rfl) fun _ => rfl
    exact recalls.run_logins w

end Others

/-- What is left of the limiter and the clock by a send. -/
theorem send_limiter (call : SendCall) (w : World) :
    (call.program.run w).state.mem.loginLimiter = w.mem.loginLimiter ∧ (call.program.run w).state.mem.steady = w.mem.steady := by
  obtain ⟨phase, -, kept⟩ := @MsgService.send_invariant call
    (fun _ w' _ => w'.mem.loginLimiter = w.mem.loginLimiter ∧ w'.mem.steady = w.mem.steady)
    (fun phase next w₁ w₂ sofar events kept step => by cases step <;> simp_all) w ⟨rfl, rfl⟩
  exact kept

/-- Every input but a login leaves the limiter and the clock alone. -/
theorem serve_limiter {input : Input} (other : ∀ conn seq req, input ≠ .packet (.user (.login conn seq (some req)))) (w : World) :
    ((serve sqliteDaoFactory input).run w).state.mem.loginLimiter = w.mem.loginLimiter ∧
      ((serve sqliteDaoFactory input).run w).state.mem.steady = w.mem.steady := by
  cases asked : input.request? with
  | some request =>
    rw [serve_request asked]
    obtain ⟨send, rfl⟩ | ⟨-, mem⟩ := handle_cases request w
    · exact send_limiter send w
    · rw [mem]
      exact ⟨rfl, rfl⟩
  | none =>
    cases input with
    | packet request =>
      cases request with
      | user request =>
        rw [serve, Router.dispatch, UserService.handleWith_sqlite]
        exact UserService.handle_logins fun conn seq req same => other conn seq req (by rw [same])
      | sync request =>
        have mem : ((SyncService.handle request).run w).state.mem = w.mem := by
          cases request with
          | syncMsg conn seq body => exact (SyncService.silent_handleSyncMsg conn seq body w).mem
          | syncUnread conn seq => exact (SyncService.silent_handleSyncUnread conn seq w).mem
        rw [serve, Router.dispatch, mem]
        exact ⟨rfl, rfl⟩
      | file request => exact (FileService.plain_handle request).limiter.run_logins w
      | msg | friend | conv | group => cases asked
    | disconnected conn => exact Gateway.plain_onDisconnected.run_logins w
    | admin request =>
      rw [serve, Prog.run_bind]
      exact AdminServer.handle_logins request
    | bus => exact Application.plain_dispatchMessage.run_logins w

/-! ### Runs -/

/-- The arrival is a login of the key that is answered as wrong. -/
def guessed (key : Bytes) (w : World) (arrival : Arrival) : Bool :=
  match arrival.input with
  | .packet (.user (.login conn seq (some req))) =>
    decide (req.key = key ∧ guessAnswer conn seq ∈ (received sqliteDaoFactory w arrival).events)
  | _ => false

/-- The arrival is a login of the key with the right password. -/
def Proves (key : Bytes) (w : World) (arrival : Arrival) : Prop :=
  ∃ conn seq req user, arrival.input = .packet (.user (.login conn seq (some req))) ∧ req.key = key ∧ Verified w req user

/-- The time that arrivals take. -/
def lasting : List Arrival → Nat
  | [] => 0
  | arrival :: rest => arrival.elapsed + lasting rest

/-- The limits of a limiter. -/
structure Limits (window limit : Nat) (l : RateLimiter) : Prop where
  window : l.window = window
  room : l.room = limit

section Runs
variable {key : Bytes} {w : World} {arrival : Arrival} {window limit since guesses : Nat}

theorem limits_allow {l : RateLimiter} {other : Bytes} {now : Nat} (limits : Limits window limit l) : Limits window limit (l.allow other now).2 := by
  obtain ⟨attempts, same⟩ := @RateLimiter.allow_limits l other now
  exact ⟨same.trans limits.window, by rw [RateLimiter.room, attempts]; exact limits.room⟩

theorem limits_recordFailure {l : RateLimiter} {other : Bytes} {now : Nat} (limits : Limits window limit l) :
    Limits window limit (l.recordFailure other now) := by
  obtain ⟨attempts, same⟩ := @RateLimiter.maybePurge_limits l now
  refine ⟨same.trans limits.window, ?_⟩
  show (max 1 (l.maybePurge now).maxAttempts).toNat = limit
  rw [attempts]
  exact limits.room

/-- What an arrival does to the limiter: the time passes, and the entry of the key has moved. -/
theorem received_limiter (opens : 0 < window) (limits : Limits window limit w.mem.loginLimiter) :
    (receive sqliteDaoFactory w arrival).mem.steady = w.mem.steady + arrival.elapsed ∧
      Limits window limit (receive sqliteDaoFactory w arrival).mem.loginLimiter ∧
      RateLimiter.Moved (Proves key w arrival) key (w.mem.steady + arrival.elapsed) w.mem.loginLimiter
        (receive sqliteDaoFactory w arrival).mem.loginLimiter (guessed key w arrival) := by
  by_cases login : ∃ conn seq req, arrival.input = .packet (.user (.login conn seq (some req)))
  · obtain ⟨conn, seq, req, asked⟩ := login
    have ends := @UserService.handleLogin_ends conn seq req ((arrival.call w).enter w)
    have served : received sqliteDaoFactory w arrival = (UserService.handleLogin conn seq (some req)).run ((arrival.call w).enter w) := by
      rw [received, served, Arrival.call, asked]
      rfl
    have hit : guessed key w arrival = decide (req.key = key ∧ guessAnswer conn seq ∈ (received sqliteDaoFactory w arrival).events) := by
      rw [guessed, asked]
    rw [Prog.Ensures, ← served] at ends
    obtain ⟨steady, ends⟩ := ends
    rw [hit]
    refine ⟨steady, ?_⟩
    rw [receive]
    generalize (received sqliteDaoFactory w arrival).state.mem.loginLimiter = l', (received sqliteDaoFactory w arrival).events = events at ends ⊢
    cases ends with
    | away _ untold =>
      rw [decide_eq_false fun both => untold both.2]
      exact ⟨limits, .kept rfl⟩
    | full _ untold =>
      rw [decide_eq_false fun both => untold both.2]
      exact ⟨limits_allow limits, RateLimiter.moved_allow⟩
    | wrong _ allowed told =>
      simp only [told, and_true]
      exact ⟨limits_recordFailure (limits_allow limits), RateLimiter.moved_failure allowed (limits.window.symm ▸ opens)⟩
    | right _ user verified =>
      refine ⟨⟨(limits_allow limits).window, (limits_allow limits).room⟩, RateLimiter.moved_reset (fun mine => ?_) fun apart => ?_⟩
      · exact ⟨conn, seq, req, user, asked, mine, verified.known, verified.normal, verified.named, verified.password⟩
      · exact decide_eq_false fun both => apart both.1
  · obtain ⟨limiter, steady⟩ := serve_limiter (fun conn seq req same => login ⟨conn, seq, req, same⟩) ((arrival.call w).enter w)
    have idle : guessed key w arrival = false := by
      unfold guessed
      split
      · next conn seq req asked => exact absurd ⟨conn, seq, req, asked⟩ login
      · rfl
    rw [idle, receive, received, served]
    refine ⟨steady, ?_⟩
    rw [show (arrival.call w).request = arrival.input from rfl, limiter]
    exact ⟨limits, .kept rfl⟩

/-- The entry of a key stays within the limit. -/
theorem inLimit_received (opens : 0 < window) (limits : Limits window limit w.mem.loginLimiter)
    (sound : InLimit limit (w.mem.loginLimiter.live w.mem.steady key)) :
    InLimit limit ((receive sqliteDaoFactory w arrival).mem.loginLimiter.live (receive sqliteDaoFactory w arrival).mem.steady key) := by
  obtain ⟨steady, -, moved⟩ := @received_limiter key w arrival window limit opens limits
  rw [steady]
  have later := RateLimiter.inLimit_later sound (Nat.le_add_right w.mem.steady arrival.elapsed)
  generalize guessed key w arrival = hit at moved
  cases moved with
  | kept same => exact same ▸ later
  | failed allowed counts =>
    rw [counts, ← limits.room]
    rw [← limits.room] at later
    exact RateLimiter.inLimit_counted later allowed
  | cleared _ _ none_ =>
    rw [none_]
    intro e found
    cases found

/-- A guess is counted in the window of the entry, which does not pass within the stretch. -/
theorem tally_received (opens : 0 < window) (limits : Limits window limit w.mem.loginLimiter)
    (tally : Tally limit since guesses (w.mem.loginLimiter.live w.mem.steady key)) (reached : since ≤ w.mem.steady + arrival.elapsed)
    (short : w.mem.steady + arrival.elapsed - since < window) (unproved : ¬Proves key w arrival) :
    Tally limit since (guesses + (guessed key w arrival).toNat)
      ((receive sqliteDaoFactory w arrival).mem.loginLimiter.live (receive sqliteDaoFactory w arrival).mem.steady key) := by
  obtain ⟨steady, -, moved⟩ := @received_limiter key w arrival window limit opens limits
  rw [steady]
  have later := RateLimiter.tally_later tally (Nat.le_add_right w.mem.steady arrival.elapsed) (by rwa [limits.window])
  generalize guessed key w arrival = hit at moved ⊢
  cases moved with
  | kept same => exact same ▸ later
  | failed allowed counts =>
    rw [counts, ← limits.room]
    rw [← limits.room] at later
    exact RateLimiter.tally_counted later allowed reached
  | cleared _ proved => exact absurd proved unproved

/-- The guesses of a stretch that is shorter than a window. -/
theorem tally_along (opens : 0 < window) {rest : List Arrival} (limits : Limits window limit w.mem.loginLimiter)
    (tally : Tally limit since guesses (w.mem.loginLimiter.live w.mem.steady key)) (reached : since ≤ w.mem.steady)
    (short : w.mem.steady + lasting rest - since < window)
    (unproved : Along (receive sqliteDaoFactory) (fun w arrival => ¬Proves key w arrival) w rest) :
    guesses + countAlong (receive sqliteDaoFactory) (guessed key) w rest ≤ 2 * limit := by
  induction rest generalizing w guesses with
  | nil => exact RateLimiter.tally_total tally
  | cons arrival rest ih =>
    obtain ⟨unproved, along⟩ := unproved
    obtain ⟨steady, limits', -⟩ := @received_limiter key w arrival window limit opens limits
    rw [lasting] at short
    rw [countAlong, ← Nat.add_assoc]
    exact ih limits' (tally_received opens limits tally (by omega) (by omega) unproved) (by omega) (by omega) along

end Runs

/-- In a run from an empty limiter, a stretch that lasts less than a window and in which nobody logs in to an email with
    its password has at most twice the limit of logins to that email that are answered as wrong. A limit below 1 counts
    as 1, since the first failure of a window is let through whatever the limit is. -/
theorem guesses_bounded (w : World) (fresh : w.mem.loginLimiter.entries = ∅) (key : Bytes) (sofar : List Arrival) (first : Arrival)
    (rest : List Arrival) (short : lasting rest < w.mem.loginLimiter.window)
    (unproved : Along (receive sqliteDaoFactory) (fun w arrival => ¬Proves key w arrival) (after (receive sqliteDaoFactory) w sofar)
      (first :: rest)) :
    countAlong (receive sqliteDaoFactory) (guessed key) (after (receive sqliteDaoFactory) w sofar) (first :: rest) ≤
      2 * (max 1 w.mem.loginLimiter.maxAttempts).toNat := by
  have opens : 0 < w.mem.loginLimiter.window := by omega
  obtain ⟨limits, sound⟩ := @after_invariant_always _ _ (receive sqliteDaoFactory)
    (fun w' => Limits w.mem.loginLimiter.window w.mem.loginLimiter.room w'.mem.loginLimiter ∧
      InLimit w.mem.loginLimiter.room (w'.mem.loginLimiter.live w'.mem.steady key))
    (fun w' arrival holds => ⟨(@received_limiter key w' arrival _ _ opens holds.1).2.1, inLimit_received opens holds.1 holds.2⟩) w
    ⟨⟨rfl, rfl⟩, by
      intro e found
      rw [RateLimiter.live, RateLimiter.entryOf, fresh] at found
      cases found⟩ sofar
  generalize after (receive sqliteDaoFactory) w sofar = w' at limits sound unproved ⊢
  obtain ⟨unproved, along⟩ := unproved
  obtain ⟨steady, limits', -⟩ := @received_limiter key w' first _ _ opens limits
  have tally := @tally_received key w' first _ _ (w'.mem.steady + first.elapsed) 0 opens limits (RateLimiter.tally_zero sound)
    (Nat.le_refl _) (by omega) unproved
  rw [Nat.zero_add] at tally
  exact tally_along opens limits' tally (by omega) (by omega) along

/-- A server without accounts, which lets five wrong logins through in a minute. -/
def unguessed : World := { tables := {}, mem := {} }

/-- A login to an account that does not exist, a second after what came before. -/
def guessing : Arrival :=
  { elapsed := 1000000000
    input := .packet (.user (.login 1 0 (some { email := ascii "a@b.c", password := ascii "secret", deviceId := [], deviceType := [] }))) }

theorem guesses_bounded_two :
    countAlong (receive sqliteDaoFactory) (guessed (ascii "a@b.c")) (after (receive sqliteDaoFactory) unguessed [guessing])
      [guessing, guessing] ≤ 2 * (max 1 unguessed.mem.loginLimiter.maxAttempts).toNat := by
  refine guesses_bounded unguessed rfl (ascii "a@b.c") [guessing] guessing [guessing] (by decide) ⟨?_, ?_, trivial⟩
  · rintro ⟨_, _, req, user, -, -, verified⟩
    have known : user ∈ ([] : List User) := verified.known
    cases known
  · rintro ⟨_, _, req, user, -, -, verified⟩
    have known : user ∈ ([] : List User) := verified.known
    cases known

end NovaIIM
