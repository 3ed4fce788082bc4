import NovaIIM.Runs
import NovaIIM.Writers

/-!
What the server does to the sessions.

Every input changes who is logged in where by a few kinds of steps (`SessionStep`): a
connection goes off the table, a session ends, and a login, whose password was right, begins
one for a user who is not banned. A listed connection carries the user it is listed for
(`Listed`), in every state of every run (`listed_received`).
-/
namespace NovaIIM
open Store
open Relation (ReflTransGen)

/-- The connection table after a login on a connection with new fields. -/
def Sessions.begun (seen : Sessions) (conn : ConnId) (fields : Connection) : Sessions :=
  { seen with
    connections := Function.update seen.connections conn fields
    connManager :=
      (seen.connManager.add (fun c => (Function.update seen.connections conn fields c).deviceId) fields.userId conn).1 }

/-- The table without a connection of a user. -/
def Sessions.dropped (seen : Sessions) (userId : Int) (conn : ConnId) : Sessions :=
  { seen with connManager := seen.connManager.remove userId conn }

/-- The session of a connection is over. -/
def Sessions.ended (seen : Sessions) (conn : ConnId) : Sessions :=
  { seen.dropped (seen.connections conn).userId conn with connections := Function.update seen.connections conn {} }

/-- One change of the sessions. -/
inductive SessionStep (users : List User) : Sessions → Sessions → Prop where
  | dropped (seen : Sessions) (userId : Int) (conn : ConnId) : SessionStep users seen (seen.dropped userId conn)
  | ended (seen : Sessions) (conn : ConnId) : SessionStep users seen (seen.ended conn)
  | began (seen : Sessions) (conn : ConnId) (user : User) (fields : Connection) (known : user ∈ users)
      (normal : user.status = .normal) (named : fields.userId = user.id) (free : (seen.connections conn).userId = 0)
      (evicted : ∀ c ∈ seen.connManager.getConns user.id, fields.deviceType ≠ [] →
        (seen.connections c).deviceType ≠ fields.deviceType) : SessionStep users seen (seen.begun conn fields)

/-- A program whose run changes the sessions by steps. -/
def Steps {α : Type} (p : Action α) (w : World) : Prop :=
  ReflTransGen (SessionStep w.tables.users.rows) (sessions w.mem) (sessions (p.run w).state.mem)

/-- A program that leaves the tables and the sessions alone. -/
def Calm {α : Type} (p : Action α) : Prop :=
  ∀ w : World, (p.run w).state.tables = w.tables ∧ sessions (p.run w).state.mem = sessions w.mem

section Rules
variable {α β : Type} {p : Action α} {f : α → Action β} {w : World}

theorem calm_silent (silent : Silent p) : Calm p := fun w =>
  ⟨(silent w).tables, by rw [(silent w).mem]⟩

theorem calm_modify {update : Server → Server} (keeps : ∀ m, sessions (update m) = sessions m) :
    Calm (modify update : Handler) := fun w => by
  rw [run_modify]
  exact ⟨rfl, keeps w.mem⟩

theorem calm_query (failed : α) (answer : Tables → α) : Calm (query failed answer) := calm_silent (silent_query _ _)

theorem calm_send {conn : ConnId} {packet : Packet} : Calm (send conn packet) := calm_silent silent_send

theorem calm_close {conn : ConnId} : Calm (close conn) := calm_silent silent_close

theorem calm_bind (first : Calm p) (rest : ∀ a, Calm (f a)) : Calm (p >>= f) := by
  intro w
  rw [Prog.run_bind]
  exact ⟨(rest _ _).1.trans (first w).1, (rest _ _).2.trans (first w).2⟩

theorem steps_calm (calm : Calm p) (w : World) : Steps p w := by
  unfold Steps
  rw [(calm w).2]

/-- Behind a calm program the world is as it was, as far as tables and sessions go. -/
theorem steps_behind (calm : Calm p)
    (rest : ∀ w' : World, w'.tables = w.tables → sessions w'.mem = sessions w.mem → Steps (f (p.run w).value) w') :
    Steps (p >>= f) w := by
  obtain ⟨tables, same⟩ := calm w
  have steps := rest _ tables same
  unfold Steps at steps ⊢
  rw [tables, same] at steps
  rwa [Prog.run_bind]

/-- A program that leaves the tables alone, and what comes behind it. -/
theorem steps_bind (tables : (p.run w).state.tables = w.tables) (first : Steps p w)
    (rest : Steps (f (p.run w).value) (p.run w).state) : Steps (p >>= f) w := by
  unfold Steps at first rest ⊢
  rw [tables] at rest
  rw [Prog.run_bind]
  exact first.trans rest

theorem steps_ite {c : Prop} [Decidable c] {p q : Action α} (yes : c → Steps p w) (no : ¬c → Steps q w) :
    Steps (if c then p else q) w := by
  split
  · exact yes ‹_›
  · exact no ‹_›

end Rules

/-! ### Login and logout -/

namespace UserService
variable {conn : ConnId} {seq : UInt32} {w : World}

theorem calm_refuse {e : Error} : Calm (refuse conn seq e) := calm_bind calm_send fun _ => calm_close

/-- Behind `endSession` nobody is logged in on the connection. -/
theorem endSession_run (conn : ConnId) (w : World) :
    ((endSession conn).run w).state.tables = w.tables ∧ Steps (endSession conn) w ∧
      (((endSession conn).run w).state.mem.connections conn).userId = 0 := by
  simp only [endSession, connection, Steps, Prog.run_bind, run_peek, List.nil_append]
  by_cases free : (w.mem.connections conn).userId = 0
  · rw [if_pos free]
    exact ⟨rfl, .refl, free⟩
  · rw [if_neg free]
    simp only [Prog.run_bind, removeConn, setConnection, run_modify]
    refine ⟨trivial, .single (.ended _ _), ?_⟩
    rw [Function.update_self]

theorem calm_allow (key : Bytes) : Calm (limiterAllow key) := fun _ => ⟨rfl, rfl⟩

/-- The user that a login finds. -/
theorem findByEmail_found {email : Bytes} {user : User} (found : ((UserDao.findByEmail email).run w).value = some user) :
    user ∈ w.tables.users.rows ∧ user.status ≠ .deleted := by
  rw [UserDao.findByEmail, run_query] at found
  split at found
  · cases found
  · have named := List.find?_some found
    simp only [Bool.and_eq_true, decide_eq_true_eq] at named
    exact ⟨List.mem_of_find?_eq_some found, named.2⟩

/-- What the eviction of a user's sessions on one type of device has done so far; the listed ones
    of that type are still to come. -/
structure Evicted (userId : Int) (deviceType : Bytes) (todo : List ConnId) (w w' : World) : Prop where
  tables : w'.tables = w.tables
  steps : ReflTransGen (SessionStep w.tables.users.rows) (sessions w.mem) (sessions w'.mem)
  connections : w'.mem.connections = w.mem.connections
  gone : ∀ c ∈ w'.mem.connManager.getConns userId, (w.mem.connections c).deviceType = deviceType → c ∈ todo

theorem evicted_each {userId : Int} {deviceType : Bytes} {w : World} (todo : List ConnId) {w' : World}
    (sofar : Evicted userId deviceType todo w w') :
    Evicted userId deviceType [] w ((Prog.forEach todo fun old => do
      let fields ← connection old
      if fields.deviceType = deviceType then do
        sendPacket old .kickNotify 0
          (.rspBase ⟨errc.kick.kSameDeviceTypeRelogin.code, errc.kick.kSameDeviceTypeRelogin.msg⟩)
        removeConn userId old
        close old
      else return ()).run w').state := by
  induction todo generalizing w' with
  | nil => exact sofar
  | cons old rest ih =>
    simp only [Prog.forEach_cons, Prog.run_bind, connection, run_peek]
    by_cases same : (w'.mem.connections old).deviceType = deviceType
    · rw [if_pos same]
      simp only [Prog.run_bind, removeConn, run_modify, close, sendPacket, send, Prog.run_emits]
      refine ih ⟨sofar.tables, sofar.steps.tail (.dropped _ userId old), sofar.connections, fun c inside kind => ?_⟩
      obtain ⟨there, other⟩ := ConnManager.mem_getConns_remove.mp inside
      rcases List.mem_cons.mp (sofar.gone c there kind) with rfl | later
      · exact absurd ⟨rfl, rfl⟩ other
      · exact later
    · rw [if_neg same]
      refine ih ⟨sofar.tables, sofar.steps, sofar.connections, fun c inside kind => ?_⟩
      rcases List.mem_cons.mp (sofar.gone c inside kind) with rfl | later
      · rw [sofar.connections] at same
        exact absurd kind same
      · exact later

/-- The sessions on the same type of device go off the table; the fields of connections stay. -/
theorem kickSameType_run (userId : Int) (deviceType : Bytes) (w : World) (named : deviceType ≠ []) :
    Evicted userId deviceType [] w ((kickSameType userId deviceType).run w).state := by
  rw [kickSameType, if_neg (by simpa using named)]
  simp only [getConns, Prog.run_bind, run_peek]
  exact evicted_each _ ⟨rfl, .refl, rfl, fun c inside _ => inside⟩

/-- A session begins. -/
theorem steps_beginSession {user : User} {deviceId deviceType : Bytes} (known : user ∈ w.tables.users.rows)
    (normal : user.status = .normal) (free : (w.mem.connections conn).userId = 0)
    (evicted : ∀ c ∈ w.mem.connManager.getConns user.id, deviceType ≠ [] → (w.mem.connections c).deviceType ≠ deviceType) :
    Steps (beginSession conn seq user deviceId deviceType) w := by
  have rest : ∀ dropped : List ConnId, Plain False Tables.masked Tables.settled sessions (do
      .forEach dropped close
      (if deviceId.isEmpty then return () else UserDao.upsertDevice user.uid deviceId deviceType)
      sendPacket conn .loginAck seq
        (.loginAck { code := errc.kOk.code, msg := errc.kOk.msg, uid := user.uid, nickname := user.nickname, avatar := user.avatar })
      : Handler) := fun dropped =>
    .bind (plain_forEach fun _ => plain_emits _) fun _ => .bind (plain_ite (.ret ()) plain_upsertDevice) fun _ => plain_emits _
  have begun := (rest (w.mem.connManager.add (fun c => (Function.update w.mem.connections conn
    { userId := user.id, uid := user.uid, deviceId := deviceId, deviceType := deviceType } c).deviceId) user.id conn).2).run_view
  simp only [Steps, beginSession, addConn, setConnection, Prog.run_bind, run_modify, Prog.run_step] at begun ⊢
  rw [begun]
  exact .single (.began (sessions w.mem) conn user _ known normal rfl free evicted)

theorem steps_loginVerified {user : User} {deviceId deviceType : Bytes} (known : user ∈ w.tables.users.rows)
    (normal : user.status = .normal) (free : (w.mem.connections conn).userId = 0) :
    Steps (loginVerified conn seq user deviceId deviceType) w := by
  refine steps_behind (calm_silent (silent_peek _)) fun w' tables same => ?_
  refine steps_ite (fun _ => steps_calm calm_refuse _) fun _ => ?_
  have fields : w'.mem.connections = w.mem.connections := congrArg Sessions.connections same
  by_cases named : deviceType = []
  · rw [kickSameType, if_pos (by simpa using named)]
    exact steps_beginSession (tables ▸ known) normal (by rwa [fields]) fun _ _ some_ => absurd named some_
  · have kicked := kickSameType_run user.id deviceType w' named
    refine steps_bind kicked.tables kicked.steps (steps_beginSession ?_ normal ?_ fun c inside _ kind => ?_)
    · rwa [kicked.tables, tables]
    · rwa [kicked.connections, fields]
    · rw [kicked.connections] at kind
      cases kicked.gone c inside kind

theorem steps_loginChecked {req : LoginReq} (free : (w.mem.connections conn).userId = 0) :
    Steps (loginChecked conn seq req) w := by
  have refused : ∀ {email e}, Calm (recordFailure email >>= fun _ => refuse conn seq e) := fun {_ _} =>
    calm_bind (calm_modify fun _ => rfl) fun _ => calm_refuse
  refine steps_behind (calm_allow _) fun w₁ tables₁ same₁ => ?_
  refine steps_ite (fun _ => steps_calm calm_refuse _) fun _ => ?_
  refine steps_behind (calm_query _ _) fun w₂ tables₂ same₂ => ?_
  cases found : ((UserDao.findByEmail (emailToLower (trim req.email))).run w₁).value with
  | none => exact steps_calm refused _
  | some user =>
    obtain ⟨known, kept⟩ := findByEmail_found found
    refine steps_ite (fun _ => steps_calm refused _) fun banned => ?_
    refine steps_behind (calm_silent (silent_peek _)) fun w₃ tables₃ same₃ => ?_
    refine steps_ite (fun _ => steps_calm refused _) fun _ => ?_
    refine steps_behind (calm_modify fun _ => rfl) fun w₄ tables₄ same₄ => steps_loginVerified ?_ ?_ ?_
    · rwa [tables₄, tables₃, tables₂]
    · cases status : user.status with
      | normal => rfl
      | banned => exact absurd status banned
      | deleted => exact absurd status kept
    · have fields : w₄.mem.connections = w.mem.connections :=
        congrArg Sessions.connections (same₄.trans (same₃.trans (same₂.trans same₁)))
      rwa [fields]

theorem steps_handleLogin (body : Option LoginReq) : Steps (handleLogin conn seq body) w := by
  obtain ⟨tables, ended, free⟩ := endSession_run conn w
  refine steps_bind tables ended ?_
  cases body with
  | none => exact steps_calm calm_refuse _
  | some req =>
    refine steps_ite (fun _ => steps_calm calm_refuse _) fun _ => ?_
    exact steps_ite (fun _ => steps_calm calm_refuse _) fun _ => steps_loginChecked free

theorem steps_handleLogout : Steps (handleLogout conn seq) w := by
  obtain ⟨tables, ended, -⟩ := endSession_run conn w
  exact steps_bind tables ended (steps_calm (calm_bind calm_send fun _ => calm_close) _)

end UserService

/-! ### The other inputs -/

/-- A program that leaves the sessions alone. -/
def KeepsSessions {α : Type} (p : Action α) (w : World) : Prop := sessions (p.run w).state.mem = sessions w.mem

section Inputs
variable {w : World}

theorem keepsSessions_plain {α ρ : Type} {p : Action α} {trans : Prop} {part : Tables → ρ}
    (plain : Plain trans Tables.masked part presence p) : KeepsSessions p w := congrArg Prod.fst (plain.run_view w)

/-- A program that runs alike beside itself keeps its sessions. -/
theorem keepsSessions_beside {α : Type} {p : Action α} {V : α → α → Prop} {R : Event → Event → Prop}
    (twins : Twins (Beside (fun _ _ => false) (fun _ => True) (sessions w.mem)) V R p p) : KeepsSessions p w :=
  (twins w w ⟨rfl, trivial, fun _ _ => trivial, rfl⟩).2.1.view

theorem MsgService.keepsSessions_handle (request : MsgService.Request) : KeepsSessions (handle request) w := by
  have same : ∀ (event : Event), event = event := fun _ => rfl
  cases request with
  | sendMsg conn seq body =>
    refine keepsSessions_beside (R := Eq) (twins_handleSendMsg same body fun req _ => ?_)
    exact ⟨fun _ _ => trivial, fun _ _ _ => trivial, fun _ _ => trivial, fun _ _ _ => trivial, fun _ _ => .inl rfl⟩
  | recallMsg conn seq body => exact keepsSessions_beside (R := Eq) (twins_handleRecallMsg same (fun _ _ _ => trivial) body)
  | deliverAck conn body => exact keepsSessions_plain (plain_handleDeliverAck body)
  | readAck conn seq body => exact keepsSessions_plain (plain_handleReadAck body)

theorem SyncService.keepsSessions_handle (request : SyncService.Request) : KeepsSessions (handle request) w := by
  cases request with
  | syncMsg conn seq body => exact keepsSessions_beside (twins_handleSyncMsg conn seq body)
  | syncUnread conn seq => exact keepsSessions_beside (twins_handleSyncUnread conn seq)

theorem ConvService.keepsSessions_handle (request : ConvService.Request) : KeepsSessions (handle request) w := by
  cases request with
  | getConvList conn seq => exact keepsSessions_beside (twins_handleGetConvList conn seq)
  | deleteConv conn seq body => exact keepsSessions_plain (plain_handleDeleteConv body)
  | muteConv conn seq body => exact keepsSessions_plain (plain_handleMuteConv body)
  | pinConv conn seq body => exact keepsSessions_plain (plain_handlePinConv body)

theorem AdminServer.keepsSessions_handle (request : AdminServer.Request) : KeepsSessions (handle request) w := by
  cases request with
  | banUser permitted uid => exact keepsSessions_plain (plain_setStatus ..)
  | unbanUser permitted uid => exact keepsSessions_plain (plain_setStatus ..)
  | deleteUser permitted uid => exact keepsSessions_plain (plain_setStatus ..)
  | kickUser permitted uid => exact keepsSessions_plain (plain_handleKickUser ..)
  | recallMessage permitted id =>
    exact keepsSessions_beside (R := Eq) (twins_handleRecallMessage (fun _ => rfl) (fun _ _ _ => trivial) permitted id)

/-- The inputs that may begin or end sessions. -/
inductive Input.ChangesSessions : Input → Prop where
  | login (conn : ConnId) (seq : UInt32) (body : Option LoginReq) : ChangesSessions (.packet (.user (.login conn seq body)))
  | logout (conn : ConnId) (seq : UInt32) : ChangesSessions (.packet (.user (.logout conn seq)))
  | disconnected (conn : ConnId) : ChangesSessions (.disconnected conn)
  | bus : ChangesSessions .bus

theorem serve_keepsSessions (input : Input) : input.ChangesSessions ∨ KeepsSessions (serve sqliteDaoFactory input) w := by
  cases input with
  | packet request =>
    cases request with
    | user request =>
      cases request with
      | login conn seq body => exact .inl (.login ..)
      | logout conn seq => exact .inl (.logout ..)
      | register conn seq body => exact .inr (keepsSessions_plain (UserService.plain_handleRegister body))
      | heartbeat conn seq => exact .inr (keepsSessions_plain UserService.plain_handleHeartbeat)
      | searchUser conn seq body => exact .inr (keepsSessions_plain (UserService.plain_handleSearchUser body))
      | getProfile conn seq body => exact .inr (keepsSessions_plain (UserService.plain_handleGetProfile body))
      | updateProfile conn seq body => exact .inr (keepsSessions_plain (UserService.plain_handleUpdateProfile body))
    | msg request => exact .inr (MsgService.keepsSessions_handle request)
    | sync request => exact .inr (SyncService.keepsSessions_handle request)
    | friend request =>
      rw [serve, Router.dispatch, FriendService.handleWith_sqlite]
      exact .inr (keepsSessions_plain (FriendService.plain_handle request))
    | conv request => exact .inr (ConvService.keepsSessions_handle request)
    | group request =>
      rw [serve, Router.dispatch, GroupService.handleWith_sqlite]
      exact .inr (keepsSessions_plain (GroupService.plain_handle request))
    | file request => exact .inr (keepsSessions_plain (FileService.plain_handle request))
  | disconnected conn => exact .inl (.disconnected conn)
  | admin request =>
    have keeps := AdminServer.keepsSessions_handle (w := w) request
    unfold KeepsSessions at keeps ⊢
    rw [serve, Prog.run_bind]
    exact .inr keeps
  | bus => exact .inl .bus

theorem Gateway.steps_onDisconnected (conn : ConnId) : Steps (onDisconnected conn) w := by
  refine steps_behind (calm_silent (silent_peek _)) fun w' _ _ => steps_ite (fun _ => .refl) fun _ => ?_
  exact .single (.dropped _ _ _)

/-- A kick takes connections of a user off the table. -/
theorem Application.steps_kicked (userId : Int) (conns : List ConnId) (w : World) :
    Steps (.forEach conns fun c => do
      sendPacket c .kickNotify 0 (.rspBase ⟨errc.kick.kAdminKick.code, errc.kick.kAdminKick.msg⟩)
      UserService.removeConn userId c
      close c) w := by
  induction conns generalizing w with
  | nil => exact .refl
  | cons c rest ih =>
    refine steps_bind ?_ ?_ (ih _)
    · rfl
    · exact .single (.dropped _ userId c)

theorem steps_keepsSessions {α : Type} {p : Action α} (keeps : KeepsSessions p w) : Steps p w := by
  unfold Steps
  rw [keeps]

theorem Application.plain_onAdminRecallMsg {conversationId serverSeq : Int} :
    AsideHandler (onAdminRecallMsg conversationId serverSeq) :=
  .bind (plain_query fun _ _ => rfl) fun _ => plain_forEach fun _ => plain_sendToUser

theorem Application.steps_dispatchMessage : Steps dispatchMessage w := by
  refine steps_behind (calm_silent (silent_peek _)) fun w' _ _ => ?_
  cases ((peek fun m : Server => m.bus : Action (List BusEvent)).run w).value with
  | nil => exact .refl
  | cons event rest =>
    refine steps_behind (calm_modify fun _ => rfl) fun w' _ _ => ?_
    cases event with
    | adminKickUser userId => exact steps_behind (calm_silent (silent_peek _)) fun w' _ _ => steps_kicked userId _ w'
    | adminRecallMsg _ conversationId serverSeq =>
      exact steps_keepsSessions (keepsSessions_plain plain_onAdminRecallMsg)

/-- Whatever arrives, the sessions change by steps. -/
theorem received_steps (w : World) (arrival : Arrival) :
    ReflTransGen (SessionStep w.tables.users.rows) (sessions w.mem) (sessions (receive sqliteDaoFactory w arrival).mem) := by
  suffices steps : Steps (serve sqliteDaoFactory arrival.input) ((arrival.call w).enter w) from steps
  generalize (arrival.call w).enter w = w
  generalize arrival.input = input
  rcases @serve_keepsSessions w input with changes | keeps
  · cases changes with
    | login conn seq body => exact UserService.steps_handleLogin body
    | logout conn seq => exact UserService.steps_handleLogout
    | disconnected conn => exact Gateway.steps_onDisconnected conn
    | bus => exact Application.steps_dispatchMessage
  · exact steps_keepsSessions keeps

end Inputs

/-- The configuration never changes. -/
theorem config_received (w : World) (arrival : Arrival) :
    (receive sqliteDaoFactory w arrival).mem.config = w.mem.config := by
  have steps := received_steps w arrival
  show (sessions (receive sqliteDaoFactory w arrival).mem).config = (sessions w.mem).config
  generalize sessions (receive sqliteDaoFactory w arrival).mem = seen' at steps ⊢
  induction steps with
  | refl => rfl
  | tail _ step ih =>
    cases step with
    | dropped | ended | began => exact ih

/-! ### Listed connections -/

/-- A listed connection carries the user it is listed for. -/
def Listed (seen : Sessions) : Prop := ∀ userId, ∀ c ∈ seen.connManager.getConns userId, userId ≠ 0 ∧ (seen.connections c).userId = userId

theorem listed_empty {seen : Sessions} (empty : seen.connManager = {}) : Listed seen := by
  intro userId c inside
  have none : c ∈ ({} : ConnManager).getConns userId := empty ▸ inside
  cases none

theorem begun_listed {seen : Sessions} {conn c : ConnId} {fields : Connection} {userId : Int}
    (inside : c ∈ (seen.begun conn fields).connManager.getConns userId) :
    c ∈ seen.connManager.getConns userId ∨ userId = fields.userId ∧ c = conn := by
  dsimp only [Sessions.begun] at inside
  exact ConnManager.mem_getConns_add inside

theorem listed_step {users : List User} {seen seen' : Sessions} (step : SessionStep users seen seen')
    (numbered : ∀ user ∈ users, user.id ≠ 0) (listed : Listed seen) : Listed seen' := by
  cases step with
  | dropped userId conn =>
    intro other c inside
    exact listed other c (ConnManager.mem_getConns_remove.mp inside).1
  | ended conn =>
    intro other c inside
    obtain ⟨there, apart⟩ := ConnManager.mem_getConns_remove.mp inside
    obtain ⟨some_, carries⟩ := listed other c there
    have different : c ≠ conn := by
      rintro rfl
      exact apart ⟨carries.symm, rfl⟩
    refine ⟨some_, ?_⟩
    show (Function.update seen.connections conn {} c).userId = other
    rwa [Function.update_of_ne different]
  | began conn user fields known normal named free evicted =>
    intro other c inside
    show other ≠ 0 ∧ (Function.update seen.connections conn fields c).userId = other
    rcases begun_listed inside with there | ⟨rfl, rfl⟩
    · obtain ⟨some_, carries⟩ := listed other c there
      have different : c ≠ conn := by
        rintro rfl
        exact some_ (carries.symm.trans free)
      refine ⟨some_, ?_⟩
      rwa [Function.update_of_ne different]
    · refine ⟨named ▸ numbered user known, ?_⟩
      rw [Function.update_self]

/-- In every state of every run a listed connection carries the user it is listed for. -/
theorem listed_received (w : World) (arrival : Arrival) (listed : Listed (sessions w.mem)) :
    Listed (sessions (receive sqliteDaoFactory w arrival).mem) := by
  have numbered : ∀ user ∈ w.tables.users.rows, user.id ≠ 0 := fun user inside => by
    have := (w.tables.users.bounded user inside).1
    exact (Int.lt_of_lt_of_le Int.zero_lt_one this).ne'
  have steps := received_steps w arrival
  generalize sessions (receive sqliteDaoFactory w arrival).mem = seen' at steps ⊢
  induction steps with
  | refl => exact listed
  | tail _ step ih => exact listed_step step numbered ih

end NovaIIM
