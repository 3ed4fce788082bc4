import NovaIIM.BlockedSending
import NovaIIM.Closed
import NovaIIM.Sessions

/-!
Bans.

A ban sets the status of a user and publishes a kick, which takes the connections of the user
off the table and closes them. A banned user cannot log in, so no connection comes to carry
the user (`carried_received`), and nothing that is served lifts the ban but an unban
(`withheld_served`). But the kick leaves the user on the connections, and a send looks at
nothing else: what is queued for such a connection is stored. Behind a ban the user is silent
exactly if no send is admitted on a connection that was left to the user (`ban_silences_iff`).
-/
namespace NovaIIM
open Store MsgService
open Relation (ReflTransGen)

/-! ### What a ban keeps to -/

/-- The user with the id has this uid and is not in use. -/
structure Barred (userId : Int) (uid : Bytes) (t : Tables) : Prop where
  issued : userId ≤ t.users.lastId
  status : ∀ r ∈ t.users.rows, r.id = userId → r.uid = uid ∧ r.status ≠ .normal

/-- A user who is barred stays barred, and no message is new. -/
structure Withholds (userId : Int) (uid : Bytes) (t t' : Tables) : Prop where
  barred : Barred userId uid t → Barred userId uid t'
  nothingNew : ∀ m' ∈ t'.messages.rows, ∃ m ∈ t.messages.rows, m.id = m'.id

section Writes
variable {userId : Int} {uid : Bytes} {t t' t'' : Tables}

theorem withholds_of_eq (users : t'.users = t.users) (messages : t'.messages = t.messages) : Withholds userId uid t t' := by
  refine ⟨fun barred => ?_, fun m inside => ⟨m, messages ▸ inside, rfl⟩⟩
  obtain ⟨issued, status⟩ := barred
  exact ⟨users ▸ issued, users ▸ status⟩

theorem Withholds.refl (t : Tables) : Withholds userId uid t t := withholds_of_eq rfl rfl

theorem Withholds.trans (first : Withholds userId uid t t') (second : Withholds userId uid t' t'') : Withholds userId uid t t'' := by
  refine ⟨fun barred => second.barred (first.barred barred), fun m inside => ?_⟩
  obtain ⟨old, there, same⟩ := second.nothingNew m inside
  obtain ⟨older, there', same'⟩ := first.nothingNew old there
  exact ⟨older, there', same'.trans same⟩

theorem withholds_path {W : Tables → Tables → Prop} (each : ∀ t t', W t t' → Withholds userId uid t t')
    (writes : ReflTransGen W t t') : Withholds userId uid t t' := by
  induction writes with
  | refl => exact .refl _
  | tail _ last ih => exact ih.trans (each _ _ last)

theorem withholds_insertUser (user : User) : Withholds userId uid t (t.insertUser user) := by
  refine ⟨fun barred => ⟨?_, fun r inside named => ?_⟩, fun m inside => ⟨m, inside, rfl⟩⟩
  · have grows := Table.lastId_le_insert t.users user
    have issued := barred.issued
    show userId ≤ ((t.users.insert user).lastId : Int)
    omega
  · obtain old | ⟨-, rfl⟩ := Table.mem_insert.mp inside
    · exact barred.status r old named
    · have next : (t.users.lastId : Int) + 1 = userId := named
      have issued := barred.issued
      omega

/-- An UPDATE of one user, who is another one or stays out of use. -/
theorem withholds_updateUser (id : Int) {change : RowUpdate User} (uids : ∀ r, (change.apply r).uid = r.uid)
    (bars : Barred userId uid t → id = userId → ∀ r : User, r.status ≠ .normal → (change.apply r).status ≠ .normal) :
    Withholds userId uid t { t with users := t.users.update (fun r => r.id = id) change } := by
  refine ⟨fun barred => ⟨barred.issued, fun r inside named => ?_⟩, fun m inside => ⟨m, inside, rfl⟩⟩
  obtain ⟨old, there, rfl⟩ := Table.mem_update.mp inside
  by_cases selected : decide (old.id = id) = true
  · rw [if_pos selected] at named ⊢
    have own : old.id = userId := (change.same_id old).symm.trans named
    obtain ⟨known, status⟩ := barred.status old there own
    exact ⟨(uids old).trans known, bars barred ((of_decide_eq_true selected).symm.trans own) old status⟩
  · rw [if_neg selected] at named ⊢
    exact barred.status old there named

theorem withholds_setMessageStatus (id : Int) (status : MsgStatus) : Withholds userId uid t (t.setMessageStatus id status) := by
  refine ⟨fun barred => ⟨barred.issued, barred.status⟩, fun m inside => ?_⟩
  obtain ⟨old, there, rfl⟩ := Table.mem_update.mp inside
  refine ⟨old, there, ?_⟩
  split <;> rfl

/-- The users are left alone by the message, friend, group and conversation services. -/
theorem users_effect {me : Connection} {request : Request} (effect : Effect me t t' request) : t'.users = t.users := by
  have path : ∀ {W : Tables → Tables → Prop}, (∀ t t', W t t' → t'.users = t.users) →
      ∀ {t t'}, ReflTransGen W t t' → t'.users = t.users := by
    intro W each t t' writes
    induction writes with
    | refl => rfl
    | tail _ last ih => exact (each _ _ last).trans ih
  cases effect with
  | group request writes => exact path (fun _ _ write => by cases write <;> rfl) writes
  | conv request effect => cases effect <;> rfl
  | msg request effect => cases effect <;> rfl
  | friend request effect =>
    cases effect with
    | accepted fr known pending mine writes => exact path (fun _ _ write => by cases write <;> rfl) writes
    | deleted row known normal mine target asked named writes => exact path (fun _ _ write => by cases write <;> rfl) writes
    | _ => rfl

theorem withholds_effect {me : Connection} {request : Request} (effect : Effect me t t' request) : Withholds userId uid t t' := by
  have users := users_effect effect
  obtain messages | ⟨id, status, recalled⟩ := messages_effect effect
  · exact withholds_of_eq users messages
  · exact (withholds_setMessageStatus id status).trans (withholds_of_eq users recalled)

end Writes

/-! ### What is served -/

/-- The run of a program from a world keeps to a ban and stores nothing. -/
def Withheld {α : Type} (userId : Int) (uid : Bytes) (p : Action α) (w : World) : Prop :=
  p.Ensures w fun o => Withholds userId uid w.tables o.state.tables

section Served
variable {userId : Int} {uid : Bytes} {conn : ConnId} {seq : UInt32} {w : World} {α : Type} {p : Action α}

theorem withheld_silent (silent : Silent p) : Withheld userId uid p w :=
  withholds_of_eq (by rw [(silent w).tables]) (by rw [(silent w).tables])

/-- A program without transactions that writes neither messages nor users. -/
theorem withheld_plain {μ : Type} {view : Server → μ} (plain : Plain False Tables.masked Tables.spared view p) :
    Withheld userId uid p w := by
  obtain ⟨spared, -⟩ := plain.keepsPart w
  exact withholds_of_eq (congrArg Prod.snd spared) (congrArg Prod.fst spared)

theorem withheld_does {E : Tables → Tables → Prop} (done : Does E p w) (each : ∀ t, E w.tables t → Withholds userId uid w.tables t) :
    Withheld userId uid p w := each _ done.1

/-- An UPDATE of the user who is found by a uid. -/
def FoundUpdate (named : Bytes) (effect : Int → Tables → Tables) (w : World) (o : Outcome World Event (Option Int)) : Prop :=
  o.state.tables = w.tables ∧ o.value = none ∨
    ∃ user, (w.tables.users.rows.find? fun r => r.uid = named && r.status ≠ .deleted) = some user ∧
      o.state.tables = effect user.id w.tables ∧ o.value = some user.id

theorem updateStatus_found (named : Bytes) (status : AccountStatus) (w : World) :
    (UserDao.updateStatus named status).Ensures w (FoundUpdate named (Tables.setUserStatus · status) w) := by
  refine Prog.ensures_atomic (ensures_lookup (Prog.ensures_ret (.inl ⟨rfl, rfl⟩)) fun user found => ?_)
  exact ensures_execute rfl (fun _ => .inl ⟨rfl, rfl⟩) fun _ => .inr ⟨user, found, rfl, rfl⟩

theorem updateNickname_found (named nickname : Bytes) (w : World) :
    (UserDao.updateNickname named nickname).Ensures w (FoundUpdate named (Tables.setNickname · nickname) w) := by
  refine Prog.ensures_atomic (ensures_lookup (Prog.ensures_ret (.inl ⟨rfl, rfl⟩)) fun user found => ?_)
  exact ensures_execute rfl (fun _ => .inl ⟨rfl, rfl⟩) fun _ => .inr ⟨user, found, rfl, rfl⟩

theorem updateAvatar_found (named avatar : Bytes) (w : World) :
    (UserDao.updateAvatar named avatar).Ensures w (FoundUpdate named (Tables.setAvatar · avatar) w) := by
  refine Prog.ensures_atomic (ensures_lookup (Prog.ensures_ret (.inl ⟨rfl, rfl⟩)) fun user found => ?_)
  exact ensures_execute rfl (fun _ => .inl ⟨rfl, rfl⟩) fun _ => .inr ⟨user, found, rfl, rfl⟩

theorem withheld_bind {β : Type} {f : α → Action β} (first : Withheld userId uid p w)
    (rest : ∀ a w, Withheld userId uid (f a) w) : Withheld userId uid (p >>= f) w := by
  rw [Withheld, Prog.Ensures, Prog.run_bind]
  exact first.trans (rest _ _)

theorem withheld_ite {c : Prop} [Decidable c] {q : Action α} (yes : Withheld userId uid p w) (no : Withheld userId uid q w) :
    Withheld userId uid (if c then p else q) w := Prog.ensures_ite (fun _ => yes) fun _ => no

theorem withheld_statement {failed : α} {answer : Tables → α} {effect : Tables → Tables}
    (each : ∀ t, Withholds userId uid t (effect t)) : Withheld userId uid (statement failed answer effect : Action α) w := by
  rw [Withheld, Prog.Ensures, run_statement]
  split
  · exact .refl _
  · exact each _

/-! ### The user service -/

theorem withheld_register (body : Option RegisterReq) : Withheld userId uid (UserService.handleRegister conn seq body) w := by
  have reply : ∀ {e} w, Withheld userId uid (UserService.sendRegisterAck conn seq e) w := fun _ => withheld_silent silent_sendPacket
  have insert : ∀ user w, Withheld userId uid (UserDao.insert user) w := fun user w => by
    unfold UserDao.insert insertReturningId
    exact withheld_statement fun _ => withholds_insertUser user
  cases body with
  | none => exact reply w
  | some req =>
    refine withheld_bind (withheld_ite (.refl _) (.refl _)) fun allowed w => withheld_ite (reply w) ?_
    cases UserService.emailError (UserService.emailToLower (UserService.trim req.email)) with
    | some e => exact reply w
    | none =>
      refine withheld_bind (withheld_silent (silent_query _ _)) fun known w => ?_
      refine withheld_ite (withheld_bind (.refl _) fun _ w => reply w) ?_
      dsimp only
      cases UserService.registerError (UserService.trim req.nickname) req.password with
      | some e => exact reply w
      | none =>
        refine withheld_bind (withheld_silent (silent_peek _)) fun config w => withheld_ite (reply w) ?_
        refine withheld_bind (.refl _) fun uid w => ?_
        refine withheld_bind (insert _ w) fun inserted w => ?_
        refine withheld_ite (withheld_silent silent_sendPacket) ?_
        exact withheld_bind (withheld_silent (silent_query _ _)) fun known w => withheld_ite (reply w) (reply w)

/-- An UPDATE of a found user that keeps the uid and the status. -/
theorem withholds_foundUpdate {named : Bytes} {effect : Int → Tables → Tables} {o : Outcome World Event (Option Int)}
    (found : FoundUpdate named effect w o)
    (each : ∀ user, (w.tables.users.rows.find? fun r => r.uid = named && r.status ≠ .deleted) = some user →
      Withholds userId uid w.tables (effect user.id w.tables)) : Withholds userId uid w.tables o.state.tables := by
  obtain ⟨same, -⟩ | ⟨user, known, written, -⟩ := found
  · rw [same]
    exact .refl _
  · rw [written]
    exact each user known

theorem profileCommitted_withholds (start : Tables) (w : World) :
    InTransaction (Withholds userId uid) start (UserService.profileCommitted conn seq) w :=
  inTransaction_commit (inTransaction_abort silent_sendRsp) silent_sendRsp

theorem updateAvatarFile_withholds (named : Bytes) (user : User) (avatar fileHash : Bytes) (start : Tables) (w : World) :
    InTransaction (Withholds userId uid) start (UserService.updateAvatarFile conn seq named user avatar fileHash) w := by
  have stop : ∀ e w, InTransaction (Withholds userId uid) start (abort (sendRsp conn .updateProfileAck seq e)) w :=
    fun _ _ => inTransaction_abort silent_sendRsp
  have files : ∀ {β : Type} {p : Action β}, Plain False Tables.masked Tables.settled id p → ∀ w : World,
      ReflTransGen (Withholds userId uid) w.tables (p.run w).state.tables ∧ (p.run w).state.saved = w.saved ∧
        (p.run w).state.mem = w.mem := fun plain w =>
    ⟨.single (withheld_plain plain.spares), (plain.keepsPart w).2, plain.run_view w⟩
  refine inTransaction_ite (fun _ => profileCommitted_withholds start w) fun _ => ?_
  have updated := updateAvatar_found named avatar w
  have plain : Plain False Tables.masked Tables.social id (UserDao.updateAvatar named avatar) := plain_updateAvatar
  refine inTransaction_part (.single (withholds_foundUpdate updated fun user _ => withholds_updateUser _ (fun _ => rfl) fun _ _ _ same => same))
    (plain.keepsPart w).2 (plain.run_view w) (inTransaction_ite (fun _ => stop _ _) fun _ => ?_)
  generalize (Prog.run _ w).state = w
  obtain ⟨moved, saved, mem⟩ := files plain_softDelete w
  refine inTransaction_part moved saved mem ?_
  obtain ⟨moved, saved, mem⟩ := files plain_insertFile (Prog.run _ w).state
  refine inTransaction_part moved saved mem (inTransaction_ite (fun _ => stop _ _) fun _ => ?_)
  exact profileCommitted_withholds start _

theorem updateProfile_withholds (named : Bytes) (user : User) (nickname avatar fileHash : Bytes) (start : Tables) (w : World) :
    InTransaction (Withholds userId uid) start (UserService.updateProfile conn seq named user nickname avatar fileHash) w := by
  refine inTransaction_ite (fun _ => updateAvatarFile_withholds named user avatar fileHash start w) fun _ => ?_
  have updated := updateNickname_found named nickname w
  have plain : Plain False Tables.masked Tables.social id (UserDao.updateNickname named nickname) := plain_updateNickname
  refine inTransaction_part (.single (withholds_foundUpdate updated fun user _ => withholds_updateUser _ (fun _ => rfl) fun _ _ _ same => same))
    (plain.keepsPart w).2 (plain.run_view w) (inTransaction_ite (fun _ => inTransaction_abort silent_sendRsp) fun _ => ?_)
  exact updateAvatarFile_withholds named user avatar fileHash start _

theorem withheld_updateProfile (body : Option UpdateProfileReq) :
    Withheld userId uid (UserService.handleUpdateProfile conn seq body) w := by
  have stop : ∀ e w, Does (Withholds userId uid) (sendRsp conn .updateProfileAck seq e) w := fun _ _ => does_silent silent_sendRsp (.refl _)
  suffices done : Does (Withholds userId uid) (UserService.handleUpdateProfile conn seq body) w from done.1
  refine does_peek (does_ite (fun _ => stop _ _) fun _ => ?_)
  cases body with
  | none => exact stop _ _
  | some req =>
    dsimp only
    cases UserService.profileError (UserService.trim req.nickname) (UserService.trim req.avatar) with
    | some e => exact stop _ _
    | none =>
      refine does_lookup (stop _ _) fun user _ => ?_
      refine does_begin (.refl _) silent_sendRsp ?_ fun t => withholds_path fun _ _ each => each
      exact updateProfile_withholds _ user _ _ _ _ _

/-! ### The admin server -/

/-- What follows a change of status: the kick, the audit log and the reply. -/
theorem withheld_told (id : Int) (kick : Bool) (w : World) :
    Withheld userId uid (do
      (if kick then do
        let _ ← AdminServer.kickAllConns id
        return ()
      else return ())
      AdminServer.writeAuditLog
      return jsonOk : Action ApiReply) w := by
  have logs : SettledHandler AdminServer.writeAuditLog := AdminServer.plain_writeAuditLog
  refine withheld_bind ?_ fun _ w => withheld_bind (withheld_plain logs.spares) fun _ w => .refl _
  have kicks : SettledHandler (AdminServer.kickAllConns id) := AdminServer.plain_kickAllConns
  exact withheld_ite (withheld_bind (withheld_plain kicks.spares) fun _ w => .refl _) (.refl _)

/-- A new status of another user, or one that is out of use as well. -/
theorem withheld_setStatus (permitted : Bool) (named : Bytes) (status : AccountStatus) (kick : Bool)
    (bars : status ≠ .normal ∨ named ≠ uid) : Withheld userId uid (AdminServer.setStatus permitted named status kick) w := by
  refine withheld_ite (.refl _) (withheld_ite (.refl _) (withheld_bind ?_ fun updated w => ?_))
  · refine withholds_foundUpdate (updateStatus_found named status w) fun user found => ?_
    refine withholds_updateUser user.id (fun _ => rfl) fun barred own r _ => ?_
    obtain ⟨known, -⟩ := barred.status user (List.mem_of_find?_eq_some found) own
    have shape := List.find?_some found
    simp only [Bool.and_eq_true, decide_eq_true_eq] at shape
    exact bars.elim id fun other => absurd (shape.1.symm.trans known) other
  · cases updated with
    | none => exact .refl _
    | some id => exact withheld_told id kick w

theorem withheld_recallMessage (permitted : Bool) (id : Int) :
    Withheld userId uid (AdminServer.handleRecallMessage permitted id) w := by
  refine withheld_ite (.refl _) (withheld_ite (.refl _) (withheld_bind (withheld_silent (silent_query _ _)) fun msg w => ?_))
  cases msg with
  | none => exact .refl _
  | some msg =>
    refine withheld_bind (Prog.ensures_atomic (withheld_bind (withheld_silent (silent_query _ _)) fun row w => ?_)) fun updated w => ?_
    · cases row with
      | none => exact .refl _
      | some row => exact withheld_statement fun _ => withholds_setMessageStatus id .recalled
    · refine withheld_ite (.refl _) (withheld_bind (.refl _) fun _ w => ?_)
      have logs : SettledHandler AdminServer.writeAuditLog := AdminServer.plain_writeAuditLog
      exact withheld_bind (withheld_plain logs.spares) fun _ w => .refl _

/-- A request lifts the ban of the users with the uid. -/
def Unbans (uid : Bytes) (input : Input) : Prop := ∃ permitted, input = .admin (.unbanUser permitted uid)

/-- A packet that carries a send. -/
def SendCall.input (send : SendCall) : Input := .packet (.msg (.sendMsg send.conn send.seq send.body))

/-- Whatever is served, but for a send and an unban, keeps to a ban and stores nothing. -/
theorem withheld_served (input : Input) (other : ∀ send : SendCall, input ≠ send.input) (still : ¬Unbans uid input) :
    Withheld userId uid (serve sqliteDaoFactory input) w := by
  have service : ∀ request : Request, (∀ send : SendCall, request ≠ send.request) → Withheld userId uid (handle request) w := by
    intro request apart
    obtain ⟨send, is⟩ | done := handle_cases request w
    · exact absurd is (apart send)
    · exact withheld_does done fun _ => withholds_effect
  cases input with
  | packet request =>
    cases request with
    | user request =>
      rw [serve, Router.dispatch, UserService.handleWith_sqlite]
      cases request with
      | register conn seq body => exact withheld_register body
      | login conn seq body => exact withheld_plain (UserService.plain_handleLogin body).spares
      | logout conn seq => exact withheld_plain UserService.plain_handleLogout.spares
      | heartbeat conn seq => exact withheld_plain UserService.plain_handleHeartbeat.spares
      | searchUser conn seq body => exact withheld_plain (UserService.plain_handleSearchUser body).spares
      | getProfile conn seq body => exact withheld_plain (UserService.plain_handleGetProfile body).spares
      | updateProfile conn seq body => exact withheld_updateProfile body
    | msg request =>
      refine service (.msg request) fun send is => other send ?_
      rw [SendCall.request, Request.msg.injEq] at is
      rw [is]
      rfl
    | sync request =>
      cases request with
      | syncMsg conn seq body => exact withheld_silent (SyncService.silent_handleSyncMsg conn seq body)
      | syncUnread conn seq => exact withheld_silent (SyncService.silent_handleSyncUnread conn seq)
    | friend request =>
      rw [serve, Router.dispatch, FriendService.handleWith_sqlite]
      exact service (.friend request) fun send is => by cases is
    | conv request => exact service (.conv request) fun send is => by cases is
    | group request =>
      rw [serve, Router.dispatch, GroupService.handleWith_sqlite]
      exact service (.group request) fun send is => by cases is
    | file request => exact withheld_plain (FileService.plain_handle request).spares
  | disconnected conn => exact withheld_plain Gateway.plain_onDisconnected.spares
  | admin request =>
    refine withheld_bind ?_ fun _ w => .refl _
    cases request with
    | banUser permitted named => exact withheld_setStatus permitted named .banned true (.inl (by decide))
    | unbanUser permitted named =>
      refine withheld_setStatus permitted named .normal false (.inr fun same => still ?_)
      rw [same]
      exact ⟨permitted, rfl⟩
    | deleteUser permitted named => exact withheld_setStatus permitted named .deleted true (.inl (by decide))
    | kickUser permitted named => exact withheld_plain (AdminServer.plain_handleKickUser permitted named).spares
    | recallMessage permitted id => exact withheld_recallMessage permitted id
  | bus => exact withheld_plain Application.plain_dispatchMessage.spares

end Served

/-! ### Sends -/

/-- A message of the user is stored. -/
def StoresOf (userId : Int) (t t' : Tables) : Prop :=
  ∃ m ∈ t'.messages.rows, m.senderId = userId ∧ ∀ old ∈ t.messages.rows, old.id ≠ m.id

/-- Every message is an old one or a new one of the user. -/
def SpokenBy (userId : Int) (t t' : Tables) : Prop :=
  ∀ m ∈ t'.messages.rows, m ∈ t.messages.rows ∨ m.senderId = userId ∧ ∀ old ∈ t.messages.rows, old.id ≠ m.id

section Sends
variable {call : SendCall} {w w' w'' : World}

theorem spokenBy_of_eq {userId : Int} {t t' : Tables} (messages : t'.messages = t.messages) : SpokenBy userId t t' :=
  fun _ inside => .inl (messages ▸ inside)

/-- Up to the insertion the messages are the old ones, and the send is for the user of the connection. -/
private def PhaseSpoken (w : World) (phase : Phase call) (w' : World) : Prop :=
  w'.mem.connections = w.mem.connections ∧
    match phase with
    | .entered => w'.tables.messages = w.tables.messages
    | .identified s | .looking s _ | .checking s | .allocating s | .timing s _ | .inserting s _ _ =>
      w'.tables.messages = w.tables.messages ∧ s.userId = (w.mem.connections call.conn).userId
    | _ => SpokenBy (w.mem.connections call.conn).userId w.tables w'.tables

private theorem spoken_quit {s : Sending call} {e : Error} {bad : e.code ≠ 0} (connections : w'.mem.connections = w.mem.connections)
    (messages : w'.tables.messages = w.tables.messages) : PhaseSpoken w (.quit s e bad) w' := by
  unfold Phase.quit
  split <;> exact ⟨connections, spokenBy_of_eq messages⟩

private theorem step_spoken {phase next : Phase call} {events : List Event} (now : PhaseSpoken w phase w')
    (step : SendStep w' phase next w'' events) : PhaseSpoken w next w'' := by
  obtain ⟨connections, now⟩ := now
  cases step with
  | anonymous unknown => exact ⟨connections, spokenBy_of_eq now⟩
  | malformed known garbled => exact ⟨connections, spokenBy_of_eq now⟩
  | identify s user known => exact ⟨connections, now, by rw [user, connections]⟩
  | invalid s e error => exact ⟨connections, spokenBy_of_eq now.1⟩
  | unkeyed s valid empty => exact ⟨connections, now⟩
  | keyed s valid keyed => exact ⟨connections, now⟩
  | replay s keyed ack found => exact ⟨connections, spokenBy_of_eq now.1⟩
  | busy s keyed absent marked => exact ⟨connections, spokenBy_of_eq now.1⟩
  | take s keyed absent free => exact ⟨connections, now⟩
  | outsider s turned => exact spoken_quit connections now.1
  | insider s sound member => exact ⟨connections, now⟩
  | unallocated s _ mem tables stuck =>
    refine spoken_quit (by rw [mem, connections]) ?_
    obtain same | incremented := tables
    · rw [same]
      exact now.1
    · rw [incremented]
      exact now.1
  | allocated s conv _ mem tables faults able known named positive =>
    refine ⟨by rw [mem, connections], ?_, now.2⟩
    rw [tables]
    exact now.1
  | time s serverSeq => exact ⟨connections, now⟩
  | lost s serverSeq epochMs fault => exact spoken_quit connections now.1
  | insert s serverSeq epochMs sound =>
    obtain ⟨messages, user⟩ := now
    have spoken : SpokenBy (w.mem.connections call.conn).userId w.tables
        (w'.tables.insertMessage (messageOf s.userId s.req serverSeq epochMs)) := by
      intro m inside
      obtain old | ⟨-, rfl⟩ := Table.mem_insert.mp inside
      · exact .inl (messages ▸ old)
      · refine .inr ⟨user, fun old there same => ?_⟩
        rw [← messages] at there
        have bound := (w'.tables.messages.bounded old there).2
        have next : old.id = (w'.tables.messages.lastId : Int) + 1 := same
        have id : Row.id old = old.id := rfl
        omega
    unfold Phase.stored
    split <;> exact ⟨connections, spoken⟩
  | fill s serverSeq epochMs keyed => exact ⟨connections, now⟩
  | answer s serverSeq epochMs => exact ⟨connections, now⟩
  | deliver d d' _ _ saved mem tables pushes =>
    refine ⟨by rw [mem, connections], ?_⟩
    obtain same | ⟨_, _, _, _, -, -, written⟩ := tables
    · rw [same]
      exact now
    · rw [written]
      exact now
  | release s e bad keyed => exact ⟨connections, now⟩
  | refuse e bad => exact ⟨connections, now⟩

/-- A send stores nothing but a message of the user of the connection. -/
theorem send_spoken (call : SendCall) (w : World) :
    SpokenBy (w.mem.connections call.conn).userId w.tables (call.program.run w).state.tables := by
  obtain ⟨phase, finished, -, spoken⟩ := @send_invariant call (fun phase w' _ => PhaseSpoken w phase w')
    (fun phase next w' w'' _ _ now step => step_spoken now step) w ⟨rfl, rfl⟩
  obtain rfl | ⟨d, rfl⟩ := finished_cases finished
  · exact spoken
  · exact spoken

/-- A send stores a message of a user exactly if it is admitted and the connection carries the user. -/
theorem send_stores_iff (call : SendCall) (w : World) (userId : Int) :
    StoresOf userId w.tables (call.program.run w).state.tables ↔
      (w.mem.connections call.conn).userId = userId ∧ Admitted w call := by
  have spoken := send_spoken call w
  constructor
  · rintro ⟨m, inside, mine, new⟩
    obtain old | ⟨sender, -⟩ := spoken m inside
    · exact absurd rfl (new m old)
    refine ⟨sender.symm.trans mine, ?_⟩
    obtain ⟨admitted, -⟩ | ⟨-, messages, -⟩ := send_outcome call w
    · exact admitted
    · rw [messages] at inside
      exact absurd rfl (new m inside)
  · rintro ⟨mine, admitted⟩
    obtain ⟨-, m, inside, new⟩ | ⟨refused, -⟩ := send_outcome call w
    · obtain old | ⟨sender, apart⟩ := spoken m inside
      · exact absurd old new
      · exact ⟨m, inside, sender.trans mine, apart⟩
    · exact absurd admitted refused

theorem send_users (call : SendCall) (w : World) : (call.program.run w).state.tables.users = w.tables.users := by
  have chatting : Chatting fun t t' => t'.users = t.users :=
    { refl := fun _ => rfl
      trans := fun first second => second.trans first
      numbered := fun _ _ => rfl
      stored := fun _ _ => rfl
      status := fun _ _ _ => rfl
      settings := fun _ _ _ _ _ _ => rfl }
  exact chatting_sent chatting call w

end Sends

/-! ### Behind a ban -/

section Behind
variable {userId : Int} {uid : Bytes} {w : World} {arrival : Arrival}

theorem barred_received (barred : Barred userId uid w.tables) (still : ¬Unbans uid arrival.input) :
    Barred userId uid (receive sqliteDaoFactory w arrival).tables := by
  by_cases sends : ∃ send : SendCall, arrival.input = send.input
  · obtain ⟨send, is⟩ := sends
    have users : (receive sqliteDaoFactory w arrival).tables.users = w.tables.users := by
      rw [receive, received, served, Arrival.call, is]
      exact send_users send _
    exact ⟨users ▸ barred.issued, users ▸ barred.status⟩
  · have withheld : Withheld userId uid (serve sqliteDaoFactory arrival.input) ((arrival.call w).enter w) :=
      withheld_served arrival.input (fun send is => sends ⟨send, is⟩) still
    exact withheld.barred barred

theorem carried_sessionStep {users : List User} {seen seen' : Sessions} (step : SessionStep users seen seen')
    (out : ∀ user ∈ users, user.id = userId → user.status ≠ .normal) (some_ : userId ≠ 0) (c : ConnId)
    (carries : (seen'.connections c).userId = userId) : (seen.connections c).userId = userId := by
  cases step with
  | dropped other conn => exact carries
  | ended conn =>
    have carried : (Function.update seen.connections conn {} c).userId = userId := carries
    by_cases same : c = conn
    · rw [same, Function.update_self] at carried
      exact absurd carried.symm some_
    · rwa [Function.update_of_ne same] at carried
  | began conn user fields known normal named free evicted =>
    have carried : (Function.update seen.connections conn fields c).userId = userId := carries
    by_cases same : c = conn
    · rw [same, Function.update_self] at carried
      exact absurd normal (out user known (named.symm.trans carried))
    · rwa [Function.update_of_ne same] at carried

/-- No connection comes to carry a user who is barred. -/
theorem carried_received (barred : Barred userId uid w.tables) (some_ : userId ≠ 0) (c : ConnId)
    (carries : ((receive sqliteDaoFactory w arrival).mem.connections c).userId = userId) :
    (w.mem.connections c).userId = userId := by
  have steps := received_steps w arrival
  have carried : ((sessions (receive sqliteDaoFactory w arrival).mem).connections c).userId = userId := carries
  show ((sessions w.mem).connections c).userId = userId
  generalize sessions (receive sqliteDaoFactory w arrival).mem = seen' at steps carried
  induction steps with
  | refl => exact carried
  | tail _ step ih => exact ih (carried_sessionStep step (fun user known own => (barred.status user known own).2) some_ c carried)

/-- Only a send stores a message of a user. -/
theorem received_stores_iff (still : ¬Unbans uid arrival.input) :
    StoresOf userId w.tables (receive sqliteDaoFactory w arrival).tables ↔
      ∃ send : SendCall, arrival.input = send.input ∧ (w.mem.connections send.conn).userId = userId ∧
        Admitted ((arrival.call w).enter w) send := by
  constructor
  · intro stores
    by_cases sends : ∃ send : SendCall, arrival.input = send.input
    · obtain ⟨send, is⟩ := sends
      rw [receive, received, served, Arrival.call, is] at stores
      obtain ⟨carried, admitted⟩ := (send_stores_iff send _ userId).mp stores
      exact ⟨send, is, carried, admitted⟩
    · have withheld : Withheld userId uid (serve sqliteDaoFactory arrival.input) ((arrival.call w).enter w) :=
        withheld_served arrival.input (fun send is => sends ⟨send, is⟩) still
      obtain ⟨m, inside, -, new⟩ := stores
      obtain ⟨old, there, same⟩ := withheld.nothingNew m inside
      exact absurd same (new old there)
  · rintro ⟨send, is, carried, admitted⟩
    have stores := (send_stores_iff send ((arrival.call w).enter w) userId).mpr ⟨carried, admitted⟩
    rw [receive, received, served, Arrival.call, is]
    exact stores

/-- `HandleBanUser` answers OK, for this user. -/
structure Banned (w : World) (ban : Arrival) (user : User) : Prop where
  asked : ∃ permitted, ban.input = .admin (.banUser permitted user.uid) ∧
    ((AdminServer.handleBanUser permitted user.uid).run ((ban.call w).enter w)).value = jsonOk
  named : (w.tables.users.rows.find? fun r => r.uid = user.uid && r.status ≠ .deleted) = some user

/-- A ban that is answered with OK leaves the user barred. -/
theorem barred_banned {ban : Arrival} {user : User} (banned : Banned w ban user) :
    Barred user.id user.uid (receive sqliteDaoFactory w ban).tables := by
  obtain ⟨⟨permitted, asked, ok⟩, named⟩ := banned
  have known : user ∈ w.tables.users.rows := List.mem_of_find?_eq_some named
  have issued : user.id ≤ w.tables.users.lastId := (w.tables.users.bounded user known).2
  have barred : Barred user.id user.uid (w.tables.setUserStatus user.id .banned) := by
    refine ⟨issued, fun r inside own => ?_⟩
    obtain ⟨old, there, rfl⟩ := Table.mem_update.mp inside
    by_cases selected : decide (old.id = user.id) = true
    · rw [if_pos selected]
      obtain rfl : old = user := Table.eq_of_id there known (of_decide_eq_true selected)
      exact ⟨rfl, fun same => by cases same⟩
    · rw [if_neg selected] at own
      exact absurd (decide_eq_true own) selected
  suffices holds : (AdminServer.handleBanUser permitted user.uid).Ensures ((ban.call w).enter w) fun o =>
      o.value = jsonOk → Barred user.id user.uid o.state.tables by
    rw [receive, received, served, Arrival.call, asked, serve, Prog.run_bind]
    exact holds ok
  refine Prog.ensures_ite (fun _ same => by cases same) fun _ => Prog.ensures_ite (fun _ same => by cases same) fun _ => Prog.ensures_bind ?_
  refine Prog.ensures_mono (updateStatus_found user.uid .banned _) fun o found => ?_
  obtain ⟨-, none_⟩ | ⟨found, here, written, value⟩ := found
  · rw [none_]
    intro same
    cases same
  · obtain rfl : user = found := Option.some.inj (named.symm.trans here)
    rw [value]
    intro _
    have told : Withheld user.id user.uid _ o.state := withheld_told user.id true o.state
    exact told.barred (written ▸ barred)

/-- The bus hands over the kick of a user. -/
def Kicks (userId : Int) (w : World) (arrival : Arrival) : Prop :=
  arrival.input = .bus ∧ w.mem.bus.head? = some (.adminKickUser userId)

/-- A run: a user is banned, and after some arrivals the kick is handed over; more arrivals follow, and
    none of all these lifts the ban. -/
structure Expelled (w : World) (ban : Arrival) (between : List Arrival) (kick : Arrival) (rest : List Arrival)
    (user : User) : Prop where
  banned : Banned w ban user
  kicked : Kicks user.id (after (receive sqliteDaoFactory) w (ban :: between)) kick
  unlifted : ∀ arrival ∈ between ++ rest, ¬Unbans user.uid arrival.input

/-- The world behind the kick. -/
def behindKick (w : World) (ban : Arrival) (between : List Arrival) (kick : Arrival) : World :=
  after (receive sqliteDaoFactory) w (ban :: between ++ [kick])

/-- A send whose checks pass, on a connection that carried the user when the ban was answered and carries
    the user still. -/
def LeftOver (answered : World) (userId : Int) (w : World) (arrival : Arrival) : Prop :=
  ∃ send : SendCall, arrival.input = send.input ∧ (answered.mem.connections send.conn).userId = userId ∧
    (w.mem.connections send.conn).userId = userId ∧ Admitted ((arrival.call w).enter w) send

/-- What holds behind a ban: the user is barred, and only the old connections carry the user. -/
structure Shut (answered : World) (userId : Int) (uid : Bytes) (w : World) : Prop where
  barred : Barred userId uid w.tables
  carried : ∀ c, (w.mem.connections c).userId = userId → (answered.mem.connections c).userId = userId

theorem shut_received {answered : World} (shut : Shut answered userId uid w) (some_ : userId ≠ 0)
    (still : ¬Unbans uid arrival.input) : Shut answered userId uid (receive sqliteDaoFactory w arrival) :=
  ⟨barred_received shut.barred still, fun c carries => shut.carried c (carried_received shut.barred some_ c carries)⟩

theorem shut_after {answered : World} (shut : Shut answered userId uid w) (some_ : userId ≠ 0) {arrivals : List Arrival}
    (still : ∀ arrival ∈ arrivals, ¬Unbans uid arrival.input) :
    Shut answered userId uid (after (receive sqliteDaoFactory) w arrivals) := by
  induction arrivals generalizing w with
  | nil => exact shut
  | cons first rest ih =>
    exact ih (shut_received shut some_ (still first List.mem_cons_self)) fun other inside => still other (List.mem_cons_of_mem _ inside)

/-- Behind a ban a run stores messages of the user exactly where a send is left over. -/
theorem silent_iff {answered : World} (shut : Shut answered userId uid w) (some_ : userId ≠ 0) {arrivals : List Arrival}
    (still : ∀ arrival ∈ arrivals, ¬Unbans uid arrival.input) :
    Along (receive sqliteDaoFactory)
        (fun v arrival => ¬StoresOf userId v.tables (receive sqliteDaoFactory v arrival).tables) w arrivals ↔
      Along (receive sqliteDaoFactory) (fun v arrival => ¬LeftOver answered userId v arrival) w arrivals := by
  induction arrivals generalizing w with
  | nil => exact Iff.rfl
  | cons first rest ih =>
    have head := still first List.mem_cons_self
    rw [along_cons, along_cons, ih (shut_received shut some_ head) fun other inside => still other (List.mem_cons_of_mem _ inside),
      received_stores_iff head]
    refine and_congr_left fun _ => not_congr (exists_congr fun send => and_congr_right fun _ => ?_)
    exact ⟨fun sends => ⟨shut.carried _ sends.1, sends.1, sends.2⟩, fun sends => sends.2⟩

/-- Behind a ban and its kick no message of the user is stored exactly if no send is left over. -/
theorem ban_silences_iff {ban kick : Arrival} {between rest : List Arrival} {user : User}
    (expelled : Expelled w ban between kick rest user) :
    Along (receive sqliteDaoFactory)
        (fun v arrival => ¬StoresOf user.id v.tables (receive sqliteDaoFactory v arrival).tables)
        (behindKick w ban between kick) rest ↔
      Along (receive sqliteDaoFactory)
        (fun v arrival => ¬LeftOver (receive sqliteDaoFactory w ban) user.id v arrival) (behindKick w ban between kick) rest := by
  obtain ⟨banned, kicked, unlifted⟩ := expelled
  have known : user ∈ w.tables.users.rows := List.mem_of_find?_eq_some banned.named
  have some_ : user.id ≠ 0 := by
    have positive : 1 ≤ user.id := (w.tables.users.bounded user known).1
    omega
  have answered : Shut (receive sqliteDaoFactory w ban) user.id user.uid (receive sqliteDaoFactory w ban) :=
    ⟨barred_banned banned, fun _ carries => carries⟩
  refine silent_iff (shut_after answered some_ fun arrival inside => ?_) some_
    fun arrival inside => unlifted arrival (List.mem_append.mpr (.inr inside))
  rcases List.mem_append.mp inside with old | last
  · exact unlifted arrival (List.mem_append.mpr (.inl old))
  · rw [List.mem_singleton.mp last, kicked.1]
    rintro ⟨_, other⟩
    cases other

end Behind

/-- The two friends, both listed where they are logged in. -/
def friendsOnline : World :=
  { (after (perform handle) twoUsers befriending) with
    mem :=
      { connections := bothOnline.connections
        connManager := ((({} : ConnManager).add (fun _ => []) 1 1).1.add (fun _ => []) 2 2).1 } }

/-- What a user says to the other. -/
def saying (conn : ConnId) : Arrival :=
  { input := .packet (.msg (.sendMsg conn 0 (some { conversationId := 1, content := [104], clientMsgId := [] }))) }

/-- User 2 is banned. -/
def banning : Arrival := { input := .admin (.banUser true [2]) }

/-- The bus hands over its next event. -/
def handing : Arrival := { input := .bus }

theorem expelled_friend (rest : List Arrival) (unlifted : ∀ arrival ∈ rest, ¬Unbans [2] arrival.input) :
    Expelled friendsOnline banning [] handing rest { id := 2, uid := [2], email := [2] } where
  banned := ⟨⟨true, rfl, by decide⟩, by decide⟩
  kicked := ⟨rfl, by decide⟩
  unlifted := unlifted

/-- User 2 is banned and kicked, and user 1 goes on talking. -/
theorem ban_silences_friend :
    Along (receive sqliteDaoFactory)
      (fun v arrival => ¬StoresOf 2 v.tables (receive sqliteDaoFactory v arrival).tables)
      (behindKick friendsOnline banning [] handing) [saying 1] := by
  have unlifted : ∀ arrival ∈ [saying 1], ¬Unbans [2] arrival.input := by
    intro arrival inside
    rw [List.mem_singleton.mp inside]
    rintro ⟨_, other⟩
    cases other
  refine (ban_silences_iff (expelled_friend [saying 1] unlifted)).mpr ⟨?_, trivial⟩
  rintro ⟨⟨conn, seq, body⟩, is, carried, -⟩
  cases is
  exact absurd carried (by decide)

/-- User 2 is banned and kicked, and what was queued for the connection is stored. -/
theorem banned_user_sends :
    ¬∀ (w : World) (ban : Arrival) (between : List Arrival) (kick : Arrival) (rest : List Arrival) (user : User),
      Expelled w ban between kick rest user →
      Along (receive sqliteDaoFactory)
        (fun v arrival => ¬StoresOf user.id v.tables (receive sqliteDaoFactory v arrival).tables)
        (behindKick w ban between kick) rest := by
  intro claim
  have unlifted : ∀ arrival ∈ [saying 2], ¬Unbans [2] arrival.input := by
    intro arrival inside
    rw [List.mem_singleton.mp inside]
    rintro ⟨_, other⟩
    cases other
  obtain ⟨silent, -⟩ := claim friendsOnline banning [] handing [saying 2] _ (expelled_friend [saying 2] unlifted)
  refine silent ⟨_, List.Mem.head _, by decide, fun old inside => ?_⟩
  cases inside

end NovaIIM
