import NovaIIM.SessionTable

/-!
Ghost connections.

The network thread opens connections, takes packets off them and closes them (`net/gateway.cpp`),
and the workers execute the queued packets in whatever order they get to them. The close callback
takes the connection off the table if somebody is logged in on it. A login looks at nothing but the
request, so one that is executed behind the callback lists a connection that is closed, for good
(`login_after_close`). In a run without such a login only open connections are listed, in every
state (`no_ghosts`).
-/
namespace NovaIIM
open Store

/-! ### Who comes to be listed -/

/-- What is listed behind a program was listed before, but for some connections. -/
def Enters {α : Type} (may : ConnId → Prop) (p : Action α) (w : World) : Prop :=
  ∀ userId, ∀ c ∈ (p.run w).state.mem.connManager.getConns userId, c ∈ w.mem.connManager.getConns userId ∨ may c

section Rules
variable {α β : Type} {may : ConnId → Prop} {p : Action α} {f : α → Action β} {w : World}

theorem enters_same (same : (p.run w).state.mem.connManager = w.mem.connManager) : Enters may p w := by
  intro userId c inside
  rw [same] at inside
  exact .inl inside

theorem enters_sessions (same : sessions (p.run w).state.mem = sessions w.mem) : Enters may p w :=
  enters_same (congrArg Sessions.connManager same)

theorem enters_calm (calm : Calm p) : Enters may p w := enters_sessions (calm w).2

theorem enters_bind (first : Enters may p w) (rest : Enters may (f (p.run w).value) (p.run w).state) :
    Enters may (p >>= f) w := by
  unfold Enters
  rw [Prog.run_bind]
  intro userId c inside
  rcases rest userId c inside with before | new
  · exact first userId c before
  · exact .inr new

theorem enters_peek {look : Server → α} (rest : Enters may (f (look w.mem)) w) : Enters may (peek look >>= f) w := by
  unfold Enters
  rw [Prog.run_bind, run_peek]
  exact rest

theorem enters_query {failed : α} {answer : Tables → α} (miss : Enters may (f failed) w.spend)
    (hit : w.fails = false → Enters may (f (answer w.tables)) w.spend) : Enters may (query failed answer >>= f) w := by
  unfold Enters
  rw [Prog.run_bind, run_query]
  by_cases fault : w.fails = true
  · rw [if_pos fault]
    exact miss
  · rw [if_neg fault]
    exact hit (Bool.eq_false_iff.mpr fault)

theorem enters_ite {c : Prop} [Decidable c] {q : Action α} (yes : c → Enters may p w) (no : ¬c → Enters may q w) :
    Enters may (if c then p else q) w := by
  split
  · exact yes ‹_›
  · exact no ‹_›

theorem Enters.mono {more : ConnId → Prop} (enters : Enters may p w) (weaker : ∀ c, may c → more c) : Enters more p w :=
  fun userId c inside => (enters userId c inside).imp id (weaker c)

end Rules

namespace UserService
variable {conn : ConnId} {seq : UInt32} {w : World} {may : ConnId → Prop}

theorem enters_removeConn {userId : Int} : Enters may (removeConn userId conn) w :=
  fun _ _ inside => .inl (ConnManager.mem_getConns_remove.mp inside).1

theorem enters_endSession : Enters may (endSession conn) w := by
  refine enters_bind (enters_calm (calm_silent (silent_peek _))) ?_
  refine enters_ite (fun _ => enters_same rfl) fun _ => ?_
  exact enters_bind enters_removeConn (enters_same rfl)

theorem enters_handleLogout : Enters may (handleLogout conn seq) w :=
  enters_bind enters_endSession (enters_calm (calm_bind calm_send fun _ => calm_close))

theorem enters_kickSameType {userId : Int} {deviceType : Bytes} : Enters may (kickSameType userId deviceType) w := by
  refine enters_ite (fun _ => enters_same rfl) fun _ => enters_bind (enters_calm (calm_silent (silent_peek _))) ?_
  generalize ((getConns userId).run w).value = conns
  generalize ((getConns userId).run w).state = w
  induction conns generalizing w with
  | nil => exact enters_same rfl
  | cons old rest ih =>
    refine enters_bind (enters_bind (enters_calm (calm_silent (silent_peek _))) ?_) (ih _)
    refine enters_ite (fun _ => ?_) fun _ => enters_same rfl
    exact enters_bind (enters_calm calm_send) (enters_bind enters_removeConn (enters_calm calm_close))

theorem enters_addConn {userId : Int} : Enters (· = conn) (addConn userId conn) w := by
  unfold addConn
  refine enters_bind ?_ (enters_calm (calm_silent (silent_forEach fun _ => silent_close)))
  intro other c inside
  have there : c ∈ (w.mem.connManager.add (fun c => (w.mem.connections c).deviceId) userId conn).1.getConns other := inside
  exact (ConnManager.mem_getConns_add there).imp id And.right

/-- A session that begins lists its connection. -/
theorem enters_beginSession {user : User} {deviceId deviceType : Bytes} :
    Enters (· = conn) (beginSession conn seq user deviceId deviceType) w := by
  have fields : ∀ fields w, Enters (· = conn) (setConnection conn fields) w := fun fields w => by
    unfold setConnection
    exact enters_same (by rw [run_modify])
  have rest : Plain False Tables.masked Tables.settled sessions (do
      (if deviceId.isEmpty then return () else UserDao.upsertDevice user.uid deviceId deviceType)
      sendPacket conn .loginAck seq
        (.loginAck { code := errc.kOk.code, msg := errc.kOk.msg, uid := user.uid, nickname := user.nickname, avatar := user.avatar })
      : Handler) := .bind (plain_ite (.ret ()) plain_upsertDevice) fun _ => plain_emits _
  unfold beginSession
  exact enters_bind (fields _ w) (enters_bind enters_addConn (enters_sessions (rest.run_view _)))

/-- A login passes all checks: of the request, the rate limit, the account, the password and the device. -/
structure LoginAccepted (w : World) (conn : ConnId) (req : LoginReq) : Prop where
  email : req.email ≠ []
  password : req.password ≠ []
  allowed : (w.mem.loginLimiter.allow (emailToLower (trim req.email)) w.mem.steady).1 = true
  works : w.fails = false
  account : ∃ user, (w.tables.users.rows.find? fun r => r.email = emailToLower (trim req.email) && r.status ≠ .deleted) = some user ∧
    user.status ≠ .banned ∧ w.mem.config.passwordVerify req.password user.passwordHash = true ∧
    (deviceField 128 req.deviceId ≠ [] → ∀ c ∈ w.mem.connManager.getConns user.id, c ≠ conn →
      (w.mem.connections c).deviceId ≠ deviceField 128 req.deviceId)

/-- What the end of a session leaves: the other connections, where they are listed. -/
structure SessionEnded (conn : ConnId) (w w' : World) : Prop where
  tables : w'.tables = w.tables
  faults : w'.faults = w.faults
  limiter : w'.mem.loginLimiter = w.mem.loginLimiter
  steady : w'.mem.steady = w.mem.steady
  config : w'.mem.config = w.mem.config
  connections : ∀ c, c ≠ conn → w'.mem.connections c = w.mem.connections c
  listed : ∀ userId, ∀ c ∈ w.mem.connManager.getConns userId, c ≠ conn → c ∈ w'.mem.connManager.getConns userId

theorem endSession_ends (conn : ConnId) (w : World) : SessionEnded conn w ((endSession conn).run w).state := by
  simp only [endSession, connection, Prog.run_bind, run_peek]
  by_cases free : (w.mem.connections conn).userId = 0
  · rw [if_pos free]
    exact ⟨rfl, rfl, rfl, rfl, rfl, fun _ _ => rfl, fun _ _ inside _ => inside⟩
  · rw [if_neg free]
    simp only [Prog.run_bind, removeConn, setConnection, run_modify]
    refine ⟨rfl, rfl, rfl, rfl, rfl, fun c other => Function.update_of_ne other _ _, fun userId c inside other => ?_⟩
    exact ConnManager.mem_getConns_remove.mpr ⟨inside, fun same => other same.2⟩

theorem LoginAccepted.before {w' : World} {req : LoginReq} (ended : SessionEnded conn w w') (accepted : LoginAccepted w' conn req) :
    LoginAccepted w conn req := by
  obtain ⟨email, password, allowed, works, user, found, status, verified, device⟩ := accepted
  refine ⟨email, password, ?_, ?_, user, ?_, status, ?_, fun named c inside other => ?_⟩
  · rwa [ended.limiter, ended.steady] at allowed
  · rwa [fails, ended.faults] at works
  · rwa [ended.tables] at found
  · rwa [ended.config] at verified
  · rw [← ended.connections c other]
    exact device named c (ended.listed _ c inside other) other

/-- The login of a user whose password was right lists the connection, unless the device is in use. -/
theorem enters_loginVerified {user : User} {deviceId deviceType : Bytes} :
    Enters (fun c => c = conn ∧ (deviceId ≠ [] → ∀ other ∈ w.mem.connManager.getConns user.id,
      (w.mem.connections other).deviceId ≠ deviceId)) (loginVerified conn seq user deviceId deviceType) w := by
  have begun : Enters (· = conn) (do
      kickSameType user.id deviceType
      beginSession conn seq user deviceId deviceType) w := enters_bind enters_kickSameType enters_beginSession
  unfold loginVerified
  refine enters_peek (enters_ite (fun _ => enters_calm calm_refuse) fun new => ?_)
  refine Enters.mono begun fun c same => ⟨same, fun named other inside device => new ⟨?_, ?_⟩⟩
  · simpa using named
  · rw [ConnManager.getConn, List.find?_isSome]
    exact ⟨other, inside, decide_eq_true device⟩

theorem enters_loginChecked {req : LoginReq} (email : req.email ≠ []) (password : req.password ≠ []) :
    Enters (fun c => c = conn ∧ LoginAccepted w conn req) (loginChecked conn seq req) w := by
  have refused : ∀ {email e w'}, Enters (fun c => c = conn ∧ LoginAccepted w conn req)
      (recordFailure email >>= fun _ => refuse conn seq e) w' := fun {_ _ _} =>
    enters_calm (calm_bind (calm_modify fun _ => rfl) fun _ => calm_refuse)
  unfold loginChecked
  refine enters_bind (enters_calm (calm_allow _)) (enters_ite (fun _ => enters_calm calm_refuse) fun allowed => ?_)
  refine enters_query refused fun works => ?_
  have tables : ((limiterAllow (emailToLower (trim req.email))).run w).state.tables = w.tables := rfl
  rw [tables]
  cases found : w.tables.users.rows.find? fun r : User => r.email = emailToLower (trim req.email) && r.status ≠ .deleted with
  | none => exact refused
  | some user =>
    refine enters_ite (fun _ => refused) fun status => enters_peek (enters_ite (fun _ => refused) fun verified => ?_)
    refine enters_bind (enters_same rfl) (enters_loginVerified.mono fun c begun => ⟨begun.1, email, password, ?_, works, user, found, status, ?_, ?_⟩)
    · rw [Bool.not_eq_true, Bool.not_eq_false'] at allowed
      exact allowed
    · rw [Bool.not_eq_true, Bool.not_eq_false'] at verified
      exact verified
    · exact fun named other inside _ => begun.2 named other inside

theorem enters_handleLogin (body : Option LoginReq) :
    Enters (fun c => c = conn ∧ ∃ req, body = some req ∧ LoginAccepted w conn req) (handleLogin conn seq body) w := by
  refine enters_bind enters_endSession ?_
  cases body with
  | none => exact enters_calm calm_refuse
  | some req =>
    refine enters_ite (fun _ => enters_calm calm_refuse) fun email => enters_ite (fun _ => enters_calm calm_refuse) fun password => ?_
    refine (enters_loginChecked (by simpa using email) (by simpa using password)).mono fun c accepted => ?_
    exact ⟨accepted.1, req, rfl, accepted.2.before (endSession_ends conn w)⟩

end UserService

section Inputs
variable {w : World} {may : ConnId → Prop}

theorem Gateway.enters_onDisconnected (conn : ConnId) : Enters may (onDisconnected conn) w :=
  enters_peek (enters_ite (fun _ => enters_same rfl) fun _ => UserService.enters_removeConn)

theorem Application.enters_dispatchMessage : Enters may dispatchMessage w := by
  refine enters_peek ?_
  cases w.mem.bus with
  | nil => exact enters_same rfl
  | cons event rest =>
    refine enters_bind (enters_same rfl) ?_
    cases event with
    | adminKickUser userId =>
      refine enters_peek ?_
      generalize (Prog.run _ w).state = w
      generalize ConnManager.getConns _ _ = conns
      induction conns generalizing w with
      | nil => exact enters_same rfl
      | cons c rest ih =>
        exact enters_bind (enters_bind (enters_calm calm_send) (enters_bind UserService.enters_removeConn (enters_calm calm_close))) (ih _)
    | adminRecallMsg _ conversationId serverSeq =>
      exact enters_sessions (keepsSessions_plain plain_onAdminRecallMsg)

/-- The packet is a login on the connection that passes all checks. -/
def LogsIn (w : World) (conn : ConnId) (input : Input) : Prop :=
  ∃ seq req, input = .packet (.user (.login conn seq (some req))) ∧ UserService.LoginAccepted w conn req

/-- Only a login whose checks pass lists a connection. -/
theorem enters_served (input : Input) : Enters (LogsIn w · input) (serve sqliteDaoFactory input) w := by
  rcases @serve_keepsSessions w input with changes | keeps
  · cases changes with
    | login conn seq body =>
      refine (UserService.enters_handleLogin body).mono fun c accepted => ?_
      obtain ⟨rfl, req, rfl, accepted⟩ := accepted
      exact ⟨seq, req, rfl, accepted⟩
    | logout conn seq => exact UserService.enters_handleLogout
    | disconnected conn => exact Gateway.enters_onDisconnected conn
    | bus => exact Application.enters_dispatchMessage
  · exact enters_sessions keeps

/-- The close callback takes the connection off the table. -/
theorem Gateway.onDisconnected_unlists {conn : ConnId} (listed : Listed (sessions w.mem)) (userId : Int) :
    conn ∉ ((onDisconnected conn).run w).state.mem.connManager.getConns userId := by
  simp only [onDisconnected, connection, Prog.run_bind, run_peek]
  intro inside
  by_cases free : (w.mem.connections conn).userId = 0
  · rw [if_pos free] at inside
    obtain ⟨some_, carries⟩ := listed userId conn inside
    exact some_ (carries.symm.trans free)
  · rw [if_neg free, UserService.removeConn, run_modify] at inside
    obtain ⟨there, other⟩ := ConnManager.mem_getConns_remove.mp inside
    exact other ⟨(listed userId conn there).2.symm, rfl⟩

end Inputs

/-! ### The network thread and the workers -/

/-- How far a connection has got. -/
inductive Channel where
  | idle
  | connected
  | closed
deriving DecidableEq

/-- The server with its connections and the tasks of the worker pool. -/
structure Floor where
  world : World
  channels : ConnId → Channel := fun _ => .idle
  tasks : List Router.Request := []

/-- What happens on the floor. A packet that the full pool turns away is no task. -/
inductive FloorMove where
  /-- `OnConnection`, connected -/
  | connected (conn : ConnId)
  /-- `OnMessage`, and the pool takes the packet -/
  | message (request : Router.Request)
  /-- a worker executes one of the tasks -/
  | execute (position : Nat) (faults : List Bool) (elapsed : Nat) (systemMs : Int)
  /-- `OnConnection`, not connected -/
  | disconnected (conn : ConnId)
  /-- a request to the admin server, or an event of the bus -/
  | background (arrival : Arrival)

/-- The task as it arrives at the handlers. -/
def taskArrival (request : Router.Request) (faults : List Bool) (elapsed : Nat) (systemMs : Int) : Arrival :=
  { faults := faults, elapsed := elapsed, systemMs := systemMs, input := .packet request }

def Floor.step (s : Floor) : FloorMove → Floor
  | .connected conn =>
    if s.channels conn = .idle then { s with channels := Function.update s.channels conn .connected } else s
  | .message request =>
    if s.channels request.conn = .connected then { s with tasks := s.tasks ++ [request] } else s
  | .execute position faults elapsed systemMs =>
    match s.tasks[position]? with
    | none => s
    | some request =>
      { s with
        world := receive sqliteDaoFactory s.world (taskArrival request faults elapsed systemMs)
        tasks := s.tasks.eraseIdx position }
  | .disconnected conn =>
    if s.channels conn = .connected then
      { s with
        world := receive sqliteDaoFactory s.world { input := .disconnected conn }
        channels := Function.update s.channels conn .closed }
    else s
  | .background arrival =>
    match arrival.input with
    | .admin _ | .bus => { s with world := receive sqliteDaoFactory s.world arrival }
    | _ => s

/-- The close callback of the connection has run, and none of its packets remains to be executed. -/
def Floor.Gone (s : Floor) (conn : ConnId) : Prop := s.channels conn = .closed ∧ ∀ request ∈ s.tasks, request.conn ≠ conn

/-- A connection that is gone is not listed; and when all closed ones are gone, users are online on
    open connections, and the counter counts the users who are. -/
structure NoGhosts (s : Floor) : Prop where
  unlisted : ∀ conn, s.Gone conn → ∀ userId, conn ∉ s.world.mem.connManager.getConns userId
  online : (∀ conn, s.channels conn = .closed → s.Gone conn) → ∀ userId, s.world.mem.connManager.isOnline userId = true →
    ∃ c ∈ s.world.mem.connManager.getConns userId, s.channels c = .connected
  counted : (∀ conn, s.channels conn = .closed → s.Gone conn) → s.world.mem.connManager.onlineCount =
    (s.world.mem.connManager.conns.keys.filter fun userId =>
      ∃ c ∈ s.world.mem.connManager.getConns userId, s.channels c = .connected).length

/-- A login whose checks pass is executed on a connection that is closed. -/
def LateLogin (s : Floor) : FloorMove → Prop
  | .execute position faults elapsed systemMs => ∃ request, s.tasks[position]? = some request ∧
    s.channels request.conn = .closed ∧
    LogsIn (((taskArrival request faults elapsed systemMs).call s.world).enter s.world) request.conn (.packet request)
  | _ => False

/-- Only open connections are listed, and only connections that were opened have tasks. -/
structure Orderly (s : Floor) : Prop where
  listed : Listed (sessions s.world.mem)
  table : TableInv (sessions s.world.mem)
  tasks : ∀ request ∈ s.tasks, s.channels request.conn ≠ .idle
  open_ : ∀ userId, ∀ c ∈ s.world.mem.connManager.getConns userId, s.channels c = .connected

section Floor
variable {s : Floor}

/-- The world serves an input that lists open connections only. -/
theorem orderly_received (orderly : Orderly s) (arrival : Arrival)
    (enters : ∀ c, LogsIn ((arrival.call s.world).enter s.world) c arrival.input → s.channels c = .connected) :
    Orderly { s with world := receive sqliteDaoFactory s.world arrival } where
  listed := listed_received s.world arrival orderly.listed
  table := tableInv_received s.world arrival orderly.listed orderly.table
  tasks := orderly.tasks
  open_ := fun userId c inside =>
    (enters_served arrival.input userId c inside).elim (orderly.open_ userId c) (enters c)

theorem orderly_connected (orderly : Orderly s) {conn : ConnId} :
    Orderly { s with channels := Function.update s.channels conn .connected } where
  listed := orderly.listed
  table := orderly.table
  tasks := by
    intro request inside
    dsimp only
    by_cases same : request.conn = conn
    · rw [same, Function.update_self]
      exact nofun
    · rw [Function.update_of_ne same]
      exact orderly.tasks request inside
  open_ := by
    intro userId c inside
    dsimp only
    by_cases same : c = conn
    · rw [same, Function.update_self]
    · rw [Function.update_of_ne same]
      exact orderly.open_ userId c inside

theorem orderly_disconnected (orderly : Orderly s) (conn : ConnId) :
    Orderly
      { s with
        world := receive sqliteDaoFactory s.world { input := .disconnected conn }
        channels := Function.update s.channels conn .closed } := by
  have received := orderly_received orderly { input := .disconnected conn } fun c => by
    rintro ⟨_, _, other, -⟩
    cases other
  refine ⟨received.listed, received.table, fun request inside => ?_, fun userId c inside => ?_⟩
  · show Function.update s.channels conn .closed request.conn ≠ .idle
    by_cases same : request.conn = conn
    · rw [same, Function.update_self]
      exact nofun
    · rw [Function.update_of_ne same]
      exact orderly.tasks request inside
  · show Function.update s.channels conn .closed c = .connected
    have other : c ≠ conn := by
      rintro rfl
      have listed : Listed (sessions (((({ input := .disconnected c } : Arrival).call s.world).enter s.world).mem)) := orderly.listed
      exact Gateway.onDisconnected_unlists listed userId inside
    rw [Function.update_of_ne other]
    exact received.open_ userId c inside

theorem orderly_step (orderly : Orderly s) (move : FloorMove) (timely : ¬LateLogin s move) : Orderly (s.step move) := by
  cases move with
  | connected conn =>
    dsimp only [Floor.step]
    split
    · exact orderly_connected orderly
    · exact orderly
  | message request =>
    dsimp only [Floor.step]
    split
    · rename_i opened
      refine { orderly with tasks := fun other inside => ?_ }
      rcases List.mem_append.mp inside with old | new
      · exact orderly.tasks other old
      · rw [List.mem_singleton.mp new, opened]
        exact nofun
    · exact orderly
  | execute position faults elapsed systemMs =>
    dsimp only [Floor.step]
    cases here : s.tasks[position]? with
    | none => exact orderly
    | some request =>
      have task : request ∈ s.tasks := List.mem_of_getElem? here
      have received := orderly_received orderly (taskArrival request faults elapsed systemMs) fun c logsIn => ?_
      · exact { received with tasks := fun other inside => orderly.tasks other (List.mem_of_mem_eraseIdx inside) }
      · obtain ⟨seq, req, is, accepted⟩ := logsIn
        have conn : request.conn = c := by
          cases is
          rfl
        subst conn
        cases channel : s.channels request.conn with
        | connected => rfl
        | idle => exact absurd channel (orderly.tasks request task)
        | closed => exact absurd ⟨request, here, channel, seq, req, is, accepted⟩ timely
  | disconnected conn =>
    dsimp only [Floor.step]
    split
    · exact orderly_disconnected orderly conn
    · exact orderly
  | background arrival =>
    have quiet : ∀ c, (∃ request, arrival.input = .admin request) ∨ arrival.input = .bus →
        LogsIn ((arrival.call s.world).enter s.world) c arrival.input → s.channels c = .connected := by
      rintro c (⟨request, is⟩ | is) ⟨_, _, other, -⟩
      · cases is.symm.trans other
      · cases is.symm.trans other
    dsimp only [Floor.step]
    split
    · exact orderly_received orderly arrival fun c => quiet c (.inl ⟨_, ‹_›⟩)
    · exact orderly_received orderly arrival fun c => quiet c (.inr ‹_›)
    · exact orderly

theorem noGhosts_orderly (orderly : Orderly s) : NoGhosts s where
  unlisted := by
    intro conn gone userId inside
    have opened := orderly.open_ userId conn inside
    rw [gone.1] at opened
    cases opened
  online := by
    intro _ userId online
    obtain ⟨c, inside⟩ : ∃ c, c ∈ s.world.mem.connManager.getConns userId := by
      refine List.exists_mem_of_ne_nil _ fun none => ?_
      simp [ConnManager.isOnline, none] at online
    exact ⟨c, inside, orderly.open_ userId c inside⟩
  counted := by
    intro _
    rw [List.filter_eq_self.mpr fun userId known => ?_]
    · exact orderly.table.count
    · obtain ⟨vec, found⟩ := Option.isSome_iff_exists.mp (AList.lookup_isSome.mpr (AList.mem_keys.mpr known))
      obtain ⟨c, inside⟩ := List.exists_mem_of_ne_nil _ (orderly.table.tidy userId vec found).online
      rw [← ConnManager.getConns_lookup found] at inside
      exact decide_eq_true ⟨c, inside, orderly.open_ userId c inside⟩

/-- In every state of every run of the server in which no login is accepted on a closed connection
    there are no ghosts. -/
theorem no_ghosts {w : World} (empty : w.mem.connManager = {}) {moves : List FloorMove}
    (timely : Along Floor.step (fun s move => ¬LateLogin s move) { world := w } moves) :
    NoGhosts (after Floor.step { world := w } moves) := by
  have start : Orderly { world := w } := by
    refine ⟨listed_empty empty, tableInv_empty empty, nofun, fun userId c inside => ?_⟩
    rw [empty] at inside
    cases inside
  have keeps : ∀ (s : Floor) (move : FloorMove), ¬LateLogin s move → Orderly s → Orderly (s.step move) :=
    fun s move timely orderly => orderly_step orderly move timely
  exact noGhosts_orderly (after_invariant keeps start timely)

end Floor

/-- One user, whose password is always right. -/
def oneUser : World where
  tables := { users := (∅ : Table User).insert { uid := [1], email := ascii "a@b.c", passwordHash := [1] } }
  mem := { config := { passwordVerify := fun _ _ => true } }

/-- A login of the user. -/
def loggingIn (conn : ConnId) : Router.Request :=
  .user (.login conn 0 (some { email := ascii "a@b.c", password := [1], deviceId := [], deviceType := [] }))

/-- The user logs in, and the connection closes. -/
theorem no_ghosts_session :
    NoGhosts (after Floor.step { world := oneUser }
      [.connected 1, .message (loggingIn 1), .execute 0 [] 0 0, .disconnected 1]) := by
  refine no_ghosts rfl ⟨id, id, ?_, id, trivial⟩
  rintro ⟨request, here, closed, -⟩
  cases here
  exact absurd closed (by decide)

/-- The connection closes while the login is queued, and is listed from the execution of the login on. -/
theorem login_after_close :
    ¬∀ (w : World), w.mem.connManager = {} → ∀ moves : List FloorMove, NoGhosts (after Floor.step { world := w } moves) := by
  intro claim
  have clean := claim oneUser rfl [.connected 1, .message (loggingIn 1), .disconnected 1, .execute 0 [] 0 0]
  exact clean.unlisted 1 ⟨by decide, nofun⟩ 1 (by decide)

end NovaIIM
