import NovaIIM.MessageLog

/-!
What stands behind a session.

A connection comes to carry a user by a login alone, and a login needs the password of the
account that its email names (`received_connections`). A packet on a connection that carries
nobody is turned away before it reaches a statement that writes (`anonymous_received`). So
whatever a packet writes, and every message of the log, was preceded by a login of its user on
the same connection, with the right password.
-/
namespace NovaIIM
open Store

/-- The login names the account by its email and has its password. -/
structure Verified (w : World) (req : LoginReq) (user : User) : Prop where
  known : user ∈ w.tables.users.rows
  normal : user.status = .normal
  named : user.email = UserService.emailToLower (UserService.trim req.email)
  password : w.mem.config.passwordVerify req.password user.passwordHash = true

/-- The fields that a login gives a connection. -/
def loginFields (user : User) (req : LoginReq) : Connection where
  userId := user.id
  uid := user.uid
  deviceId := UserService.deviceField 128 req.deviceId
  deviceType := UserService.deviceField 64 req.deviceType

/-- What one input does to the fields of the connections. -/
inductive ConnectionStep (w : World) : Input → (ConnId → Connection) → Prop where
  | kept (input : Input) : ConnectionStep w input w.mem.connections
  | cleared (input : Input) (conn : ConnId) : ConnectionStep w input (Function.update w.mem.connections conn {})
  | began (conn : ConnId) (seq : UInt32) (req : LoginReq) (user : User) (verified : Verified w req user) :
      ConnectionStep w (.packet (.user (.login conn seq (some req))))
        (Function.update w.mem.connections conn (loginFields user req))

/-- A program that leaves the fields of the connections alone. -/
abbrev ConnectionsKept {α : Type} (p : Action α) : Prop :=
  Plain True Tables.masked Tables.settled (fun m : Server => m.connections) p

/-- What is said of the state behind a program, said of the state behind its second part. -/
theorem ensures_state {α β : Type} {p : Action α} {f : α → Action β} {w : World} {holds : World → Prop}
    (rest : (f (p.run w).value).Ensures (p.run w).state fun o => holds o.state) : (p >>= f).Ensures w fun o => holds o.state := by
  rw [Prog.Ensures, Prog.run_bind]
  exact rest

namespace UserService
variable {conn : ConnId} {seq : UInt32} {w : World}

theorem kept_refuse {e : Error} : ConnectionsKept (refuse conn seq e) := .bind (plain_emits _) fun _ => plain_emits _

theorem kept_removeConn {userId : Int} : ConnectionsKept (removeConn userId conn) := plain_modify fun _ => rfl

theorem kept_kickSameType {userId : Int} {deviceType : Bytes} : ConnectionsKept (kickSameType userId deviceType) :=
  plain_ite (.ret ()) (.bind (plain_peek _) fun _ => plain_forEach fun _ => .bind (plain_peek _) fun _ =>
    plain_ite (.bind (plain_emits _) fun _ => .bind kept_removeConn fun _ => plain_emits _) (.ret ()))

theorem kept_addConn {userId : Int} : ConnectionsKept (addConn userId conn) :=
  .bind (.memory (fun m : Server => (m.connManager.add (fun c => (m.connections c).deviceId) userId conn).2)
    (fun m : Server => { m with
      connManager := (m.connManager.add (fun c => (m.connections c).deviceId) userId conn).1 }) [] fun _ => rfl)
    fun _ => plain_forEach fun _ => plain_emits _

/-- The session begins with the fields of the login. -/
theorem beginSession_connections (user : User) (deviceId deviceType : Bytes) (w : World) :
    ((beginSession conn seq user deviceId deviceType).run w).state.mem.connections =
      Function.update w.mem.connections conn
        { userId := user.id, uid := user.uid, deviceId := deviceId, deviceType := deviceType } := by
  have rest : ConnectionsKept (do
      addConn user.id conn
      (if deviceId.isEmpty then return () else UserDao.upsertDevice user.uid deviceId deviceType)
      sendPacket conn .loginAck seq
        (.loginAck
          { code := errc.kOk.code, msg := errc.kOk.msg, uid := user.uid, nickname := user.nickname, avatar := user.avatar })
      : Handler) :=
    .bind kept_addConn fun _ => .bind (plain_ite (.ret ()) plain_upsertDevice) fun _ => plain_emits _
  rw [beginSession, Prog.run_bind, setConnection, run_modify]
  exact rest.run_view _

/-- The connections after a login that began with none of them carrying a user on `conn`. -/
def LoginLeaves (w : World) (conn : ConnId) (req : LoginReq) (base : ConnId → Connection) (w' : World) : Prop :=
  w'.mem.connections = base ∨
    ∃ user, Verified w req user ∧ w'.mem.connections = Function.update base conn (loginFields user req)

/-- A login behind the checks of the request changes nothing, or it is right and its session begins. -/
theorem loginChecked_connections {base : ConnId → Connection} (req : LoginReq) {w' : World} (tables : w'.tables = w.tables)
    (config : w'.mem.config = w.mem.config) (fields : w'.mem.connections = base) :
    (loginChecked conn seq req).Ensures w' fun o => LoginLeaves w conn req base o.state := by
  have stop : ∀ {p : Handler} {v : World}, ConnectionsKept p → v.mem.connections = base →
      p.Ensures v fun o => LoginLeaves w conn req base o.state := fun kept same => .inl ((kept.run_view _).trans same)
  have refused : ∀ {email e}, ConnectionsKept (recordFailure email >>= fun _ => refuse conn seq e) := fun {_ _} =>
    .bind (plain_modify fun _ => rfl) fun _ => kept_refuse
  refine ensures_state (Prog.ensures_ite (fun _ => stop kept_refuse fields) fun _ => ?_)
  refine ensures_lookup (stop refused fields) fun user found => ?_
  refine Prog.ensures_ite (fun _ => stop refused fields) fun banned => ensures_peek ?_
  refine Prog.ensures_ite (fun _ => stop refused fields) fun right => ?_
  have verified : Verified w req user := by
    have there : w.tables.users.rows.find? _ = some user := tables ▸ found
    have shape := List.find?_some there
    simp only [Bool.and_eq_true, decide_eq_true_eq] at shape
    refine ⟨List.mem_of_find?_eq_some there, ?_, shape.1, ?_⟩
    · cases status : user.status with
      | normal => rfl
      | banned => exact absurd status banned
      | deleted => exact absurd status shape.2
    · rw [Bool.not_eq_true, Bool.not_eq_false'] at right
      rw [← config]
      exact right
  refine ensures_state (ensures_peek (Prog.ensures_ite (fun _ => stop kept_refuse fields) fun _ => ?_))
  refine ensures_state (.inr ⟨user, verified, ?_⟩)
  rw [beginSession_connections]
  have kicked : ConnectionsKept (kickSameType user.id (deviceField 64 req.deviceType)) := kept_kickSameType
  rw [kicked.run_view]
  exact congrArg (Function.update · conn _) fields

/-- The session that a connection had is over. -/
theorem endSession_connections (conn : ConnId) (w : World) :
    (endSession conn).Ensures w fun o => o.state.tables = w.tables ∧ o.state.mem.config = w.mem.config ∧
      (o.state.mem.connections = w.mem.connections ∨ o.state.mem.connections = Function.update w.mem.connections conn {}) := by
  refine ensures_peek (Prog.ensures_ite (fun _ => ⟨rfl, rfl, .inl rfl⟩) fun _ => ?_)
  simp only [Prog.Ensures, Prog.run_bind, removeConn, setConnection, run_modify]
  exact ⟨trivial, trivial, .inr trivial⟩

theorem handleLogin_connections (body : Option LoginReq) (w : World) :
    (handleLogin conn seq body).Ensures w fun o =>
      ConnectionStep w (.packet (.user (.login conn seq body))) o.state.mem.connections := by
  obtain ⟨tables, config, fields⟩ := endSession_connections conn w
  have idle : ∀ {base}, base = w.mem.connections ∨ base = Function.update w.mem.connections conn {} →
      ConnectionStep w (.packet (.user (.login conn seq body))) base := by
    rintro base (rfl | rfl)
    · exact .kept _
    · exact .cleared _ conn
  have refused : ∀ {e}, ConnectionStep w (.packet (.user (.login conn seq body)))
      ((refuse conn seq e).run ((endSession conn).run w).state).state.mem.connections := by
    intro e
    have kept : ConnectionsKept (refuse conn seq e) := kept_refuse
    rw [kept.run_view]
    exact idle fields
  refine @ensures_state _ _ _ _ w (fun v => ConnectionStep w _ v.mem.connections) ?_
  cases body with
  | none => exact refused
  | some req =>
    refine Prog.ensures_ite (fun _ => refused) fun _ => Prog.ensures_ite (fun _ => refused) fun _ => ?_
    obtain same | ⟨user, verified, began⟩ := @loginChecked_connections conn seq w _ req _ tables config rfl
    · show ConnectionStep w _ ((loginChecked conn seq req).run _).state.mem.connections
      rw [same]
      exact idle fields
    · show ConnectionStep w _ ((loginChecked conn seq req).run _).state.mem.connections
      have whole : Function.update ((endSession conn).run w).state.mem.connections conn (loginFields user req) =
          Function.update w.mem.connections conn (loginFields user req) := by
        rcases fields with same | cleared
        · rw [same]
        · rw [cleared, Function.update_idem]
      rw [began, whole]
      exact .began conn seq req user verified

theorem handleLogout_connections (w : World) :
    (handleLogout conn seq).Ensures w fun o =>
      ConnectionStep w (.packet (.user (.logout conn seq))) o.state.mem.connections := by
  obtain ⟨-, -, fields⟩ := endSession_connections conn w
  have rest : ConnectionsKept (sendPacket conn .logout seq (.rspBase ⟨errc.kOk.code, "goodbye"⟩) >>= fun _ => close conn) :=
    .bind (plain_emits _) fun _ => plain_emits _
  refine @ensures_state _ _ _ _ w (fun v => ConnectionStep w _ v.mem.connections) ?_
  rw [Prog.Ensures, rest.run_view]
  rcases fields with same | cleared
  · rw [same]
    exact .kept _
  · rw [cleared]
    exact .cleared _ conn

end UserService

theorem Gateway.kept_onDisconnected {conn : ConnId} : ConnectionsKept (onDisconnected conn) :=
  .bind (plain_peek _) fun _ => plain_ite (.ret ()) UserService.kept_removeConn

theorem Application.kept_dispatchMessage (w : World) : (dispatchMessage.run w).state.mem.connections = w.mem.connections := by
  have kept : ConnectionsKept dispatchMessage := by
    refine .bind (plain_peek _) fun bus => ?_
    cases bus with
    | nil => exact .ret ()
    | cons event rest =>
      refine .bind (plain_modify fun _ => rfl) fun _ => ?_
      cases event with
      | adminKickUser userId =>
        exact .bind (plain_peek _) fun _ => plain_forEach fun _ =>
          .bind (plain_emits _) fun _ => .bind UserService.kept_removeConn fun _ => plain_emits _
      | adminRecallMsg _ conversationId serverSeq =>
        exact .bind (plain_query fun _ _ => rfl) fun _ => plain_forEach fun _ => plain_sendToUser
  exact kept.run_view w

/-- What one arrival does to the fields of the connections. -/
theorem received_connections (w : World) (arrival : Arrival) :
    ConnectionStep ((arrival.call w).enter w) arrival.input (receive sqliteDaoFactory w arrival).mem.connections := by
  suffices step : (serve sqliteDaoFactory arrival.input).Ensures ((arrival.call w).enter w) fun o =>
      ConnectionStep ((arrival.call w).enter w) arrival.input o.state.mem.connections from step
  generalize (arrival.call w).enter w = w, arrival.input = input
  have kept : ∀ {p : Handler}, (p.run w).state.mem.connections = w.mem.connections →
      ConnectionStep w input (p.run w).state.mem.connections := by
    intro p same
    rw [same]
    exact .kept _
  rcases @serve_keepsSessions w input with changes | keeps
  · cases changes with
    | login conn seq body => exact UserService.handleLogin_connections body w
    | logout conn seq => exact UserService.handleLogout_connections w
    | disconnected conn => exact kept (Gateway.kept_onDisconnected.run_view w)
    | bus => exact kept (Application.kept_dispatchMessage w)
  · exact kept (congrArg Sessions.connections keeps)

/-! ### Nobody logged in -/

/-- The requests that are served without a session. -/
inductive Router.Request.Open : Router.Request → Prop where
  | register (conn : ConnId) (seq : UInt32) (body : Option RegisterReq) : Open (.user (.register conn seq body))
  | login (conn : ConnId) (seq : UInt32) (body : Option LoginReq) : Open (.user (.login conn seq body))

/-- The event concerns the connection alone. -/
def Event.At (conn : ConnId) (event : Event) : Prop := event = .closed conn ∨ ∃ packet, event = .sent conn packet

/-- A run that leaves the tables as they are and turns to nobody but the connection. -/
def Inert (conn : ConnId) (w : World) (o : Outcome World Event Unit) : Prop :=
  o.state.tables = w.tables ∧ ∀ event ∈ o.events, event.At conn

section Anonymous
variable {conn : ConnId} {seq : UInt32} {w : World}

theorem inert_ret : (.ret () : Handler).Ensures w (Inert conn w) := ⟨rfl, by simp⟩

theorem inert_sendPacket {cmd : Cmd} {body : Body} : (sendPacket conn cmd seq body).Ensures w (Inert conn w) :=
  ⟨rfl, fun _ inside => .inr ⟨_, List.mem_singleton.mp inside⟩⟩

/-- A handler that looks first who is logged in turns an unknown one away. -/
theorem inert_guarded {reply rest : Connection → Handler} (anonymous : (w.mem.connections conn).userId = 0)
    (away : (reply (w.mem.connections conn)).Ensures w (Inert conn w)) :
    (connection conn >>= fun me => if me.userId = 0 then reply me else rest me).Ensures w (Inert conn w) :=
  ensures_peek (Prog.ensures_ite (fun _ => away) fun known => absurd anonymous known)

theorem UserService.inert_handle (request : UserService.Request) (closed : ¬(Router.Request.user request).Open)
    (anonymous : (w.mem.connections request.conn).userId = 0) : (handle request).Ensures w (Inert request.conn w) := by
  cases request with
  | register conn seq body => exact absurd (.register ..) closed
  | login conn seq body => exact absurd (.login ..) closed
  | logout conn seq =>
    refine Prog.ensures_bind (ensures_peek (Prog.ensures_ite (fun _ => ⟨rfl, ?_⟩) fun known => absurd anonymous known))
    intro event inside
    rcases List.mem_cons.mp inside with rfl | last
    · exact .inr ⟨_, rfl⟩
    · exact .inl (List.mem_singleton.mp last)
  | heartbeat conn seq | searchUser conn seq body | getProfile conn seq body | updateProfile conn seq body =>
    exact inert_guarded anonymous inert_sendPacket

theorem MsgService.inert_handle (request : MsgService.Request) (anonymous : (w.mem.connections request.conn).userId = 0) :
    (handle request).Ensures w (Inert request.conn w) := by
  cases request with
  | sendMsg conn seq body | recallMsg conn seq body => exact inert_guarded anonymous inert_sendPacket
  | deliverAck conn body | readAck conn seq body => exact inert_guarded anonymous inert_ret

theorem SyncService.inert_handle (request : SyncService.Request) (anonymous : (w.mem.connections request.conn).userId = 0) :
    (handle request).Ensures w (Inert request.conn w) := by
  cases request <;> exact inert_guarded anonymous inert_sendPacket

theorem FriendService.inert_handle (request : FriendService.Request) (anonymous : (w.mem.connections request.conn).userId = 0) :
    (handle request).Ensures w (Inert request.conn w) := by
  cases request <;> exact inert_guarded anonymous inert_sendPacket

theorem ConvService.inert_handle (request : ConvService.Request) (anonymous : (w.mem.connections request.conn).userId = 0) :
    (handle request).Ensures w (Inert request.conn w) := by
  cases request <;> exact inert_guarded anonymous inert_sendPacket

theorem GroupService.inert_handle (request : GroupService.Request) (anonymous : (w.mem.connections request.conn).userId = 0) :
    (handle request).Ensures w (Inert request.conn w) := by
  cases request <;> exact inert_guarded anonymous inert_sendPacket

theorem FileService.inert_handle (request : FileService.Request) (anonymous : (w.mem.connections request.conn).userId = 0) :
    (handle request).Ensures w (Inert request.conn w) := by
  cases request <;> exact inert_guarded anonymous inert_sendPacket

/-- A packet on a connection that carries nobody writes nothing and tells nobody else, but for a registration or a login. -/
theorem anonymous_received (w : World) {arrival : Arrival} {request : Router.Request} (packet : arrival.input = .packet request)
    (closed : ¬request.Open) (anonymous : (w.mem.connections request.conn).userId = 0) :
    Inert request.conn w (received sqliteDaoFactory w arrival) := by
  suffices inert : (Router.dispatch sqliteDaoFactory request).Ensures ((arrival.call w).enter w)
      (Inert request.conn ((arrival.call w).enter w)) by
    rw [received, served, Arrival.call, packet]
    exact inert
  have anonymous : (((arrival.call w).enter w).mem.connections request.conn).userId = 0 := anonymous
  cases request with
  | user request =>
    rw [Router.dispatch, UserService.handleWith_sqlite]
    exact UserService.inert_handle request closed anonymous
  | msg request => exact MsgService.inert_handle request anonymous
  | sync request => exact SyncService.inert_handle request anonymous
  | friend request =>
    rw [Router.dispatch, FriendService.handleWith_sqlite]
    exact FriendService.inert_handle request anonymous
  | conv request => exact ConvService.inert_handle request anonymous
  | group request =>
    rw [Router.dispatch, GroupService.handleWith_sqlite]
    exact GroupService.inert_handle request anonymous
  | file request => exact FileService.inert_handle request anonymous

end Anonymous

/-! ### Runs -/

/-- An arrival logs the user in on the connection. -/
def SignsIn (v : World) (arrival : Arrival) (conn : ConnId) (userId : Int) : Prop :=
  ∃ seq req user, arrival.input = .packet (.user (.login conn seq (some req))) ∧ Verified v req user ∧ user.id = userId

/-- What a run has to show for a connection that carries a user: a login on it behind which it always did. -/
def Vouched (w : World) (arrivals : List Arrival) (conn : ConnId) (userId : Int) : Prop :=
  ∃ before login between, arrivals = before ++ login :: between ∧
    SignsIn (after (receive sqliteDaoFactory) w before) login conn userId ∧
    ∀ more, more <+: between →
      ((after (receive sqliteDaoFactory) w (before ++ login :: more)).mem.connections conn).userId = userId

/-- Nobody is logged in. -/
def LoggedOut (w : World) : Prop := ∀ conn, (w.mem.connections conn).userId = 0

section Runs
variable {w : World} {arrivals : List Arrival} {conn : ConnId}

/-- An arrival behind which a connection carries a user, and before which it did not, logs the user in on it. -/
theorem signsIn_received {v : World} {login : Arrival} {userId : Int} (carries : userId ≠ 0)
    (free : (v.mem.connections conn).userId ≠ userId)
    (now : ((receive sqliteDaoFactory v login).mem.connections conn).userId = userId) : SignsIn v login conn userId := by
  have step := received_connections v login
  generalize is : login.input = input at step
  generalize (receive sqliteDaoFactory v login).mem.connections = connections at step now
  cases step with
  | kept => exact absurd now free
  | cleared _ other =>
    by_cases same : conn = other
    · rw [same, Function.update_self] at now
      exact absurd now.symm carries
    · rw [Function.update_of_ne same] at now
      exact absurd now free
  | began other seq req user verified =>
    by_cases same : conn = other
    · rw [same, Function.update_self] at now
      obtain ⟨known, normal, named, password⟩ := verified
      exact ⟨seq, req, user, same ▸ is, ⟨known, normal, named, password⟩, now⟩
    · rw [Function.update_of_ne same] at now
      exact absurd now free

/-- A connection that carries a user was logged in on, with the password of the user. -/
theorem vouched_carried (out : LoggedOut w)
    (carries : ((after (receive sqliteDaoFactory) w arrivals).mem.connections conn).userId ≠ 0) :
    Vouched w arrivals conn ((after (receive sqliteDaoFactory) w arrivals).mem.connections conn).userId := by
  generalize named : ((after (receive sqliteDaoFactory) w arrivals).mem.connections conn).userId = userId at carries ⊢
  have notYet : (w.mem.connections conn).userId ≠ userId := by
    rw [out conn]
    exact Ne.symm carries
  obtain ⟨before, login, between, rfl, free, since⟩ := @arises _ _ (receive sqliteDaoFactory)
    (fun v => (v.mem.connections conn).userId = userId) w arrivals notYet named
  refine ⟨before, login, between, rfl, ?_, fun more short => ?_⟩
  · exact signsIn_received carries free (since [] List.nil_prefix)
  · rw [after_append, after_cons]
    exact since more short

/-- Whatever a packet writes or tells others, other than a registration or a login, follows a login on its
    connection with the password of the user it is served for. -/
theorem packet_authentic (out : LoggedOut w) {arrival : Arrival} {request : Router.Request}
    (packet : arrival.input = .packet request) (closed : ¬request.Open)
    (acts : ¬Inert request.conn (after (receive sqliteDaoFactory) w arrivals)
      (received sqliteDaoFactory (after (receive sqliteDaoFactory) w arrivals) arrival)) :
    ((after (receive sqliteDaoFactory) w arrivals).mem.connections request.conn).userId ≠ 0 ∧
      Vouched w arrivals request.conn
        ((after (receive sqliteDaoFactory) w arrivals).mem.connections request.conn).userId := by
  have carries : ((after (receive sqliteDaoFactory) w arrivals).mem.connections request.conn).userId ≠ 0 :=
    fun anonymous => acts (anonymous_received _ packet closed anonymous)
  exact ⟨carries, vouched_carried out carries⟩

/-- The two friends, with one password, before anybody is logged in. -/
def friendsAway : World :=
  { (after (perform handle) twoUsers befriending) with mem := { config := { passwordVerify := fun password _ => password == [7] } } }

/-- User 1 logs in on connection 4. -/
def signingIn : Arrival :=
  { input := .packet (.user (.login 4 0 (some { email := [1], password := [7], deviceId := [], deviceType := [] }))) }

theorem loggedOut_friends : LoggedOut friendsAway := fun _ => rfl

theorem packet_authentic_friend :
    ((after (receive sqliteDaoFactory) friendsAway [signingIn]).mem.connections 4).userId ≠ 0 ∧
      Vouched friendsAway [signingIn] 4 ((after (receive sqliteDaoFactory) friendsAway [signingIn]).mem.connections 4).userId := by
  have closed : ¬(Router.Request.msg (.sendMsg 4 0 (some { conversationId := 1, content := [104], clientMsgId := [] }))).Open := by
    rintro ⟨⟩
  refine @packet_authentic friendsAway [signingIn] loggedOut_friends (saying 4) _ rfl closed fun inert => ?_
  exact absurd (congrArg (fun t => t.messages.rows.length) inert.1) (by decide +kernel)

/-- A message of the log that a run has added was asked for by a packet of its sender, who was a member of
    the conversation, and who had logged in on that connection with the password. -/
theorem message_authentic (out : LoggedOut w) {m : Message}
    (inside : m ∈ (after (receive sqliteDaoFactory) w arrivals).tables.messages.rows)
    (new : ∀ old ∈ w.tables.messages.rows, old.id ≠ m.id) :
    ∃ sofar arrival rest, arrivals = sofar ++ arrival :: rest ∧ ∃ conn req,
      Authored (after (receive sqliteDaoFactory) w sofar) arrival conn req m ∧ Vouched w sofar conn m.senderId := by
  obtain ⟨sofar, arrival, rest, rfl, conn, req, authored⟩ := message_authored inside new
  refine ⟨sofar, arrival, rest, rfl, conn, req, authored, ?_⟩
  have sender := authored.sender
  have carries : ((after (receive sqliteDaoFactory) w sofar).mem.connections conn).userId ≠ 0 := by
    rw [sender]
    exact authored.known
  exact sender ▸ vouched_carried out carries

theorem message_authentic_friend :
    ∃ m ∈ (after (receive sqliteDaoFactory) friendsAway [signingIn, saying 4]).tables.messages.rows, m.senderId = 1 ∧
      ∃ sofar arrival rest, [signingIn, saying 4] = sofar ++ arrival :: rest ∧ ∃ conn req,
        Authored (after (receive sqliteDaoFactory) friendsAway sofar) arrival conn req m ∧ Vouched friendsAway sofar conn m.senderId := by
  have inside : { id := 1, conversationId := 1, senderId := 1, seq := 1, msgType := 1, content := [104],
                  createdAt := Calendar.formatUtc 0 } ∈
      (after (receive sqliteDaoFactory) friendsAway [signingIn, saying 4]).tables.messages.rows := by decide +kernel
  exact ⟨_, inside, rfl, message_authentic loggedOut_friends inside fun old there => by cases there⟩

end Runs

end NovaIIM
