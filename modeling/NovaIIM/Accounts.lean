import NovaIIM.AccountAgreement
import NovaIIM.Credentials

/-!
The accounts of the users.

A row of the table of users is made by a registration or by an administrator, and nothing takes
it out: its id, its uid and its email stay, and behind a deletion the whole row (`Lasts`). What
else is in it has a known origin (`accounts_accounted`). The password comes from the creation or
from an administrator's reset, the nickname and the avatar from the creation or from a request on
a connection of the account, and the status from an administrator. So a session goes back to a
login, and the password that it was begun with to where the account has its own from
(`session_rooted`).
-/
namespace NovaIIM
open Store
open Relation (ReflTransGen)

/-! ### The password that an administrator sets -/

namespace apiErr
def kNewPasswordEmpty : ApiReply := ⟨1, "new_password cannot be empty", 400⟩
end apiErr

namespace AdminServer

/-- `AdminServer::HandleResetPassword`; `permitted` is the outcome of `RequirePermission`. -/
def handleResetPassword (permitted : Bool) (uid : Bytes) (body : Option Json) : Action ApiReply :=
  if !permitted then return apiErr.kPermissionDenied
  else if uid.isEmpty then return apiErr.kInvalidUserId
  else match body.bind (Json.field (ascii "new_password")) with
  | none => return apiErr.kNewPasswordRequired
  | some password =>
    match password.string? with
    | none => return apiErr.kNewPasswordString
    | some password =>
      if password.isEmpty then return apiErr.kNewPasswordEmpty
      else if password.length < 6 then return apiErr.kPasswordTooShort
      else if 128 < password.length then return apiErr.kPasswordTooLong
      else do
      let config ← peek fun m => m.config
      let hash := config.passwordHash password
      if hash.isEmpty then return apiErr.kHashFailed
      else do
      let updated ← UserDao.updatePassword uid hash
      if updated.isNone then return apiErr.kUserNotFound
      else do
      writeAuditLog
      return jsonOk

/-- The status that a request of an administrator gives, and the account that it gives it to. -/
def Request.sets : Request → Option (Bytes × AccountStatus)
  | .banUser true uid => some (uid, .banned)
  | .unbanUser true uid => some (uid, .normal)
  | .deleteUser true uid => some (uid, .deleted)
  | _ => none

end AdminServer

/-! ### What is called for -/

/-- An arrival, or one of the two requests of administrators that make an account or give it a password. -/
inductive AccountCall where
  | arrival (arrival : Arrival)
  | createUser (faults : List Bool) (permitted : Bool) (body : Option Json)
  | resetPassword (faults : List Bool) (permitted : Bool) (uid : Bytes) (body : Option Json)

/-- A call is served to its end, whatever statements fail. -/
def AccountCall.step (w : World) : AccountCall → World
  | .arrival input => receive sqliteDaoFactory w input
  | .createUser faults permitted body => ((AdminServer.handleCreateUser permitted body).run { w with faults := faults }).state
  | .resetPassword faults permitted uid body =>
    ((AdminServer.handleResetPassword permitted uid body).run { w with faults := faults }).state

/-- A call makes an account. -/
inductive OpensAccount (v : World) : AccountCall → User → Prop where
  | register (arrival : Arrival) (conn : ConnId) (seq : UInt32) (req : RegisterReq)
      (asks : arrival.input = .packet (.user (.register conn seq (some req))))
      (addressed : UserService.emailError (UserService.emailToLower (UserService.trim req.email)) = none)
      (fields : UserService.registerError (UserService.trim req.nickname) req.password = none) :
      OpensAccount v (.arrival arrival)
        (newUser v.mem (UserService.emailToLower (UserService.trim req.email)) (UserService.trim req.nickname) req.password)
  | create (faults : List Bool) (body : Json) (email nickname password : Bytes)
      (addressee : (body.field (ascii "email")).bind Json.string? = some email)
      (named : body.value (ascii "nickname") email = some nickname)
      (secret : (body.field (ascii "password")).bind Json.string? = some password)
      (fields : AdminServer.createUserError (AdminServer.emailToLower (AdminServer.trimInPlace email))
        (AdminServer.trimInPlace nickname) password = none) :
      OpensAccount v (.createUser faults true (some body))
        (newUser v.mem (AdminServer.emailToLower (AdminServer.trimInPlace email)) (AdminServer.trimInPlace nickname) password)

/-- What a call makes of a row. -/
inductive RowStep (v : World) : AccountCall → User → User → Prop where
  | same (call : AccountCall) (r : User) : RowStep v call r r
  | profile (arrival : Arrival) (conn : ConnId) (seq : UInt32) (req : UpdateProfileReq) (r : User) (nickname avatar : Bytes)
      (asks : arrival.input = .packet (.user (.updateProfile conn seq (some req))))
      (known : (v.mem.connections conn).userId ≠ 0) (own : r.uid = (v.mem.connections conn).uid) (live : r.status ≠ .deleted)
      (valid : UserService.profileError (UserService.trim req.nickname) (UserService.trim req.avatar) = none)
      (named : nickname = r.nickname ∨ nickname = UserService.trim req.nickname ∧ nickname ≠ [])
      (pictured : avatar = r.avatar ∨ avatar = UserService.trim req.avatar ∧ avatar ≠ []) :
      RowStep v (.arrival arrival) r { r with nickname := nickname, avatar := avatar }
  | status (arrival : Arrival) (request : AdminServer.Request) (status : AccountStatus) (r : User)
      (asks : arrival.input = .admin request) (sets : request.sets = some (r.uid, status)) (live : r.status ≠ .deleted) :
      RowStep v (.arrival arrival) r { r with status := status }
  | password (faults : List Bool) (body : Option Json) (password : Bytes) (r : User)
      (given : (body.bind (Json.field (ascii "new_password"))).bind Json.string? = some password)
      (length : 6 ≤ password.length ∧ password.length ≤ 128) (hashed : v.mem.config.passwordHash password ≠ [])
      (live : r.status ≠ .deleted) :
      RowStep v (.resetPassword faults true r.uid body) r { r with passwordHash := v.mem.config.passwordHash password }

/-- What a call makes of the table of users: a row more, or other values in the rows there are. -/
inductive AccountsStep (v : World) (call : AccountCall) : Table User → Prop where
  | rows (users : Table User) (each : List.Forall₂ (RowStep v call) v.tables.users.rows users.rows) : AccountsStep v call users
  | enrolled (user : User) (enrols : OpensAccount v call user) : AccountsStep v call (v.tables.users.insert user)

section Steps
variable {v w : World} {call : AccountCall}

theorem accountsStep_kept {users : Table User} (same : users = v.tables.users) : AccountsStep v call users := by
  rw [same]
  exact .rows _ (List.forall₂_same.mpr fun r _ => .same call r)

/-- The user who is found by a uid. -/
theorem found_live {t : Tables} {uid : Bytes} {user : User}
    (found : (t.users.rows.find? fun r => r.uid = uid && r.status ≠ .deleted) = some user) :
    user ∈ t.users.rows ∧ user.uid = uid ∧ user.status ≠ .deleted := by
  have shape := List.find?_some found
  simp only [Bool.and_eq_true, decide_eq_true_eq] at shape
  exact ⟨List.mem_of_find?_eq_some found, shape.1, shape.2⟩

/-- An UPDATE of the user who is found by a uid changes that row, if any, and leaves the others. -/
theorem foundUpdate_each {becomes : User → User → Prop} (same : ∀ r, becomes r r) {uid : Bytes} {effect : Int → Tables → Tables}
    {o : Outcome World Event (Option Int)} (found : FoundUpdate uid effect w o)
    (each : ∀ user, user.uid = uid → user.status ≠ .deleted → ∃ change : RowUpdate User,
      (effect user.id w.tables).users = w.tables.users.update (fun r => r.id = user.id) change ∧
        becomes user (change.apply user)) :
    List.Forall₂ becomes w.tables.users.rows o.state.tables.users.rows := by
  obtain ⟨kept, -⟩ | ⟨user, known, written, -⟩ := found
  · rw [kept]
    exact List.forall₂_same.mpr fun r _ => same r
  · obtain ⟨inside, own, live⟩ := found_live known
    obtain ⟨change, users, changes⟩ := each user own live
    rw [written, users, Table.rows_update]
    refine List.forall₂_map_right_iff.mpr (List.forall₂_same.mpr fun r there => ?_)
    by_cases selected : r.id = user.id
    · obtain rfl : r = user := Table.eq_of_id there inside selected
      rw [if_pos (decide_eq_true rfl)]
      exact changes
    · rw [if_neg (by simpa using selected)]
      exact same r

end Steps

/-! ### Accounts that are made -/

section Creations
variable {w : World} {conn : ConnId} {seq : UInt32}

/-- A registration makes the account that it asks for, or none. -/
theorem register_users (body : Option RegisterReq) (w : World) :
    (UserService.handleRegister conn seq body).Ensures w fun o => o.state.tables.users = w.tables.users ∨
      ∃ req, body = some req ∧ UserService.emailError (UserService.emailToLower (UserService.trim req.email)) = none ∧
        UserService.registerError (UserService.trim req.nickname) req.password = none ∧
        o.state.tables.users = w.tables.users.insert
          (newUser w.mem (UserService.emailToLower (UserService.trim req.email)) (UserService.trim req.nickname)
            req.password) := by
  cases body with
  | none => exact .inl rfl
  | some req =>
    by_cases allowed : UserService.emailToLower (UserService.trim req.email) ≠ [] →
        (w.mem.registerLimiter.allow (UserService.emailToLower (UserService.trim req.email)) w.mem.steady).1 = true
    · have attempted := @handleRegister_attempt w conn seq req.email req.nickname req.password allowed
      refine Prog.ensures_mono attempted fun o attempt => ?_
      by_cases storable : Storable w (UserService.emailToLower (UserService.trim req.email)) (UserService.trim req.nickname)
        req.password
      · exact .inr ⟨req, rfl, storable.addressed, storable.fields, congrArg Tables.users (attempt.stored storable).2⟩
      · exact .inl (congrArg Tables.users (attempt.refused storable).2)
    · obtain ⟨named, limited⟩ := Classical.not_imp.mp allowed
      refine .inl ?_
      have blank : (UserService.emailToLower (UserService.trim req.email)).isEmpty = false := by simpa using named
      simp only [UserService.handleRegister, blank, UserService.registerAllow, limited, UserService.sendRegisterAck,
        Prog.run_bind, Prog.run_step, Bool.false_eq_true, if_false, Bool.not_false, if_true]
      exact congrArg Tables.users (silent_sendPacket _).tables

/-- An administrator makes the account with the fields of the body, or none. -/
theorem createChecked_users (email nickname password : Bytes) (w : World) :
    (AdminServer.createChecked email nickname password).Ensures w fun o =>
      o.state.tables.users = w.tables.users ∨
        o.state.tables.users = w.tables.users.insert (newUser w.mem email nickname password) := by
  unfold AdminServer.createChecked
  refine ensures_any fun known => Prog.ensures_ite (fun _ => .inl rfl) fun _ => ensures_peek ?_
  refine Prog.ensures_ite (fun _ => .inl rfl) fun _ => ensures_nextIdStr ?_
  refine ensures_insertUser (fun _ _ id => ?_) fun _ w' same => ?_
  · refine Prog.ensures_bind (.inr ?_)
    have logs : SettledHandler AdminServer.writeAuditLog := AdminServer.plain_writeAuditLog
    exact congrArg Prod.snd (logs.keepsPart _).1
  · refine ensures_any fun known => .inl ?_
    split <;> exact congrArg Tables.users same

theorem createUser_users (permitted : Bool) (body : Option Json) (w : World) :
    (AdminServer.handleCreateUser permitted body).Ensures w fun o => o.state.tables.users = w.tables.users ∨
      ∃ fields email nickname password, permitted = true ∧ body = some fields ∧
        (fields.field (ascii "email")).bind Json.string? = some email ∧ fields.value (ascii "nickname") email = some nickname ∧
        (fields.field (ascii "password")).bind Json.string? = some password ∧
        AdminServer.createUserError (AdminServer.emailToLower (AdminServer.trimInPlace email))
          (AdminServer.trimInPlace nickname) password = none ∧
        o.state.tables.users = w.tables.users.insert
          (newUser w.mem (AdminServer.emailToLower (AdminServer.trimInPlace email)) (AdminServer.trimInPlace nickname)
            password) := by
  refine Prog.ensures_ite (fun _ => .inl rfl) fun allowed => ?_
  cases body with
  | none => exact .inl rfl
  | some fields =>
    refine Prog.ensures_ite (fun _ => .inl rfl) fun _ => ?_
    split
    · rename_i email password addressee secret
      split
      · exact .inl rfl
      · rename_i nickname named
        refine Prog.ensures_ite (fun _ => .inl rfl) fun _ => ?_
        dsimp only
        split
        · exact .inl rfl
        · rename_i checked
          refine Prog.ensures_mono (createChecked_users _ _ _ w) fun o made => made.imp_right fun stored => ?_
          exact ⟨fields, email, nickname, password, by simpa using allowed, rfl, addressee, named, secret, checked, stored⟩
    · exact .inl rfl

end Creations

/-! ### Rows that are changed -/

/-- What the update of a profile may have made of a row so far. -/
def Rewrites (uid nickname avatar : Bytes) (r r' : User) : Prop :=
  r' = r ∨ r.uid = uid ∧ r.status ≠ .deleted ∧ ∃ n a, (n = r.nickname ∨ n = nickname ∧ n ≠ []) ∧
    (a = r.avatar ∨ a = avatar ∧ a ≠ []) ∧ r' = { r with nickname := n, avatar := a }

/-- What it may have made of the tables. -/
def Rewritten (uid nickname avatar : Bytes) (t t' : Tables) : Prop :=
  List.Forall₂ (Rewrites uid nickname avatar) t.users.rows t'.users.rows

section Changes
variable {w : World} {conn : ConnId} {seq : UInt32} {uid nickname avatar : Bytes} {t t' t'' : Tables}

theorem Rewrites.trans {a b c : User} (first : Rewrites uid nickname avatar a b) (second : Rewrites uid nickname avatar b c) :
    Rewrites uid nickname avatar a c := by
  rcases first with rfl | ⟨own, live, n, p, named, pictured, rfl⟩
  · exact second
  · rcases second with rfl | ⟨-, -, n', p', named', pictured', rfl⟩
    · exact .inr ⟨own, live, n, p, named, pictured, rfl⟩
    · refine .inr ⟨own, live, n', p', ?_, ?_, rfl⟩
      · rcases named' with rfl | new
        · exact named
        · exact .inr new
      · rcases pictured' with rfl | new
        · exact pictured
        · exact .inr new

theorem rewritten_of_eq (users : t'.users = t.users) : Rewritten uid nickname avatar t t' := by
  rw [Rewritten, users]
  exact List.forall₂_same.mpr fun r _ => .inl rfl

theorem Rewritten.trans (first : Rewritten uid nickname avatar t t') (second : Rewritten uid nickname avatar t' t'') :
    Rewritten uid nickname avatar t t'' := by
  unfold Rewritten at first second ⊢
  generalize t.users.rows = rows, t'.users.rows = rows', t''.users.rows = rows'' at first second
  induction first generalizing rows'' with
  | nil =>
    cases second
    exact .nil
  | cons becomes rest ih =>
    cases second with
    | cons becomes' rest' => exact .cons (becomes.trans becomes') (ih _ rest')

theorem updateNickname_rewrites (filled : nickname ≠ []) (w : World) :
    (UserDao.updateNickname uid nickname).Ensures w fun o => Rewritten uid nickname avatar w.tables o.state.tables :=
  foundUpdate_each (fun _ => .inl rfl) (updateNickname_found uid nickname w) fun user own live =>
    ⟨_, rfl, .inr ⟨own, live, nickname, user.avatar, .inr ⟨rfl, filled⟩, .inl rfl, rfl⟩⟩

theorem updateAvatar_rewrites (filled : avatar ≠ []) (w : World) :
    (UserDao.updateAvatar uid avatar).Ensures w fun o => Rewritten uid nickname avatar w.tables o.state.tables :=
  foundUpdate_each (fun _ => .inl rfl) (updateAvatar_found uid avatar w) fun user own live =>
    ⟨_, rfl, .inr ⟨own, live, user.nickname, avatar, .inl rfl, .inr ⟨rfl, filled⟩, rfl⟩⟩

theorem profileCommitted_rewrites (start : Tables) (w : World) :
    InTransaction (Rewritten uid nickname avatar) start (UserService.profileCommitted conn seq) w :=
  inTransaction_commit (inTransaction_abort silent_sendRsp) silent_sendRsp

theorem updateAvatarFile_rewrites (user : User) (fileHash : Bytes) (start : Tables) (w : World) :
    InTransaction (Rewritten uid nickname avatar) start (UserService.updateAvatarFile conn seq uid user avatar fileHash) w := by
  have stop : ∀ e w, InTransaction (Rewritten uid nickname avatar) start (abort (sendRsp conn .updateProfileAck seq e)) w :=
    fun _ _ => inTransaction_abort silent_sendRsp
  have files : ∀ {β : Type} {p : Action β}, Plain False Tables.masked Tables.settled id p → ∀ w : World,
      ReflTransGen (Rewritten uid nickname avatar) w.tables (p.run w).state.tables ∧ (p.run w).state.saved = w.saved ∧
        (p.run w).state.mem = w.mem := fun plain w =>
    ⟨.single (rewritten_of_eq (congrArg Prod.snd (plain.keepsPart w).1)), (plain.keepsPart w).2, plain.run_view w⟩
  refine inTransaction_ite (fun _ => profileCommitted_rewrites start w) fun filled => ?_
  have plain : Plain False Tables.masked Tables.social id (UserDao.updateAvatar uid avatar) := plain_updateAvatar
  refine inTransaction_part (.single (updateAvatar_rewrites filled w)) (plain.keepsPart w).2 (plain.run_view w) ?_
  refine inTransaction_ite (fun _ => stop _ _) fun _ => ?_
  generalize (Prog.run _ w).state = w
  obtain ⟨moved, saved, mem⟩ := files plain_softDelete w
  refine inTransaction_part moved saved mem ?_
  obtain ⟨moved, saved, mem⟩ := files plain_insertFile (Prog.run _ w).state
  refine inTransaction_part moved saved mem (inTransaction_ite (fun _ => stop _ _) fun _ => ?_)
  exact profileCommitted_rewrites start _

theorem updateProfile_rewrites (user : User) (fileHash : Bytes) (start : Tables) (w : World) :
    InTransaction (Rewritten uid nickname avatar) start
      (UserService.updateProfile conn seq uid user nickname avatar fileHash) w := by
  refine inTransaction_ite (fun _ => updateAvatarFile_rewrites user fileHash start w) fun filled => ?_
  have plain : Plain False Tables.masked Tables.social id (UserDao.updateNickname uid nickname) := plain_updateNickname
  refine inTransaction_part (.single (updateNickname_rewrites filled w)) (plain.keepsPart w).2 (plain.run_view w) ?_
  refine inTransaction_ite (fun _ => inTransaction_abort silent_sendRsp) fun _ => ?_
  exact updateAvatarFile_rewrites user fileHash start _

/-- A request to update a profile rewrites the row of its connection's account, if any. -/
theorem handleUpdateProfile_rewrites (body : Option UpdateProfileReq) (w : World) :
    Does (fun t t' => t' = t ∨ ∃ req, body = some req ∧ (w.mem.connections conn).userId ≠ 0 ∧
        UserService.profileError (UserService.trim req.nickname) (UserService.trim req.avatar) = none ∧
        Rewritten (w.mem.connections conn).uid (UserService.trim req.nickname) (UserService.trim req.avatar) t t')
      (UserService.handleUpdateProfile conn seq body) w := by
  have stop : ∀ e w', Does (fun t t' => t' = t ∨ ∃ req, body = some req ∧ (w.mem.connections conn).userId ≠ 0 ∧
      UserService.profileError (UserService.trim req.nickname) (UserService.trim req.avatar) = none ∧
      Rewritten (w.mem.connections conn).uid (UserService.trim req.nickname) (UserService.trim req.avatar) t t')
      (sendRsp conn .updateProfileAck seq e) w' := fun _ _ => does_silent silent_sendRsp (.inl rfl)
  refine does_peek (does_ite (fun _ => stop _ _) fun known => ?_)
  cases body with
  | none => exact stop _ _
  | some req =>
    dsimp only
    cases valid : UserService.profileError (UserService.trim req.nickname) (UserService.trim req.avatar) with
    | some e => exact stop _ _
    | none =>
      refine does_lookup (stop _ _) fun user _ => ?_
      refine does_begin (.inl rfl) silent_sendRsp (updateProfile_rewrites user req.fileHash _ _) fun t moved => ?_
      refine .inr ⟨req, rfl, known, valid, ?_⟩
      induction moved with
      | refl => exact rewritten_of_eq rfl
      | tail _ last ih => exact ih.trans last

/-- What follows an UPDATE of the users leaves them alone. -/
theorem users_settled {α μ : Type} {view : Server → μ} {p : Action α} (plain : Plain False Tables.masked Tables.settled view p)
    (w : World) : (p.run w).state.tables.users = w.tables.users := congrArg Prod.snd (plain.keepsPart w).1

theorem each_settled {becomes : User → User → Prop} {rows : List User} {α : Type} {p : Action α}
    (written : List.Forall₂ becomes rows w.tables.users.rows) (plain : SettledHandler p) :
    List.Forall₂ becomes rows (p.run w).state.tables.users.rows := by
  rw [users_settled plain w]
  exact written

/-- A new status of an account, by an administrator. -/
theorem setStatus_each {becomes : User → User → Prop} (same : ∀ r, becomes r r) {permitted : Bool} {named : Bytes}
    {status : AccountStatus} {kick : Bool} (w : World)
    (each : permitted = true → ∀ r : User, r.uid = named → r.status ≠ .deleted → becomes r { r with status := status }) :
    (AdminServer.setStatus permitted named status kick).Ensures w fun o =>
      List.Forall₂ becomes w.tables.users.rows o.state.tables.users.rows := by
  have kept : List.Forall₂ becomes w.tables.users.rows w.tables.users.rows := List.forall₂_same.mpr fun r _ => same r
  refine Prog.ensures_ite (fun _ => kept) fun allowed => Prog.ensures_ite (fun _ => kept) fun _ => ?_
  refine Prog.ensures_bind (Prog.ensures_mono (updateStatus_found named status w) fun o found => ?_)
  have written := foundUpdate_each same found fun user own live => ⟨_, rfl, each (by simpa using allowed) user own live⟩
  cases o.value with
  | none => exact written
  | some id =>
    have kicks : SettledHandler (AdminServer.kickAllConns id) := AdminServer.plain_kickAllConns
    have logs : SettledHandler AdminServer.writeAuditLog := AdminServer.plain_writeAuditLog
    refine each_settled written ?_
    exact .bind (plain_ite (.bind kicks fun _ => .ret _) (.ret _)) fun _ => .bind logs fun _ => .ret _

theorem updatePassword_found (named hash : Bytes) (w : World) :
    (UserDao.updatePassword named hash).Ensures w (FoundUpdate named (Tables.setPasswordHash · hash) w) := by
  refine Prog.ensures_atomic (ensures_lookup (Prog.ensures_ret (.inl ⟨rfl, rfl⟩)) fun user found => ?_)
  exact ensures_execute rfl (fun _ => .inl ⟨rfl, rfl⟩) fun _ => .inr ⟨user, found, rfl, rfl⟩

/-- An administrator gives an account the password of the body, or none. -/
theorem handleResetPassword_each (faults : List Bool) (permitted : Bool) (named : Bytes) (body : Option Json) (w : World) :
    (AdminServer.handleResetPassword permitted named body).Ensures { w with faults := faults } fun o =>
      List.Forall₂ (RowStep w (.resetPassword faults permitted named body)) w.tables.users.rows o.state.tables.users.rows := by
  have same : ∀ r, RowStep w (.resetPassword faults permitted named body) r r := fun r => .same _ r
  have kept : List.Forall₂ (RowStep w (.resetPassword faults permitted named body)) w.tables.users.rows w.tables.users.rows :=
    List.forall₂_same.mpr fun r _ => same r
  refine Prog.ensures_ite (fun _ => kept) fun allowed => Prog.ensures_ite (fun _ => kept) fun _ => ?_
  have allowed : permitted = true := by simpa using allowed
  subst allowed
  cases member : body.bind (Json.field (ascii "new_password")) with
  | none => exact kept
  | some value =>
    dsimp only
    cases given : value.string? with
    | none => exact kept
    | some password =>
      refine Prog.ensures_ite (fun _ => kept) fun _ => Prog.ensures_ite (fun _ => kept) fun short => ?_
      refine Prog.ensures_ite (fun _ => kept) fun long => ensures_peek (Prog.ensures_ite (fun _ => kept) fun hashed => ?_)
      refine Prog.ensures_bind (Prog.ensures_mono (updatePassword_found named _ _) fun o found => ?_)
      have written := foundUpdate_each same found fun user own live => ⟨_, rfl, by
        subst own
        exact .password faults body password user (by rw [member]; exact given) ⟨by omega, by omega⟩ (by simpa using hashed) live⟩
      have logs : SettledHandler AdminServer.writeAuditLog := AdminServer.plain_writeAuditLog
      refine each_settled written ?_
      exact plain_ite (.ret _) (.bind logs fun _ => .ret _)

end Changes

/-! ### A call -/

section Served

theorem recallMessage_users (permitted : Bool) (id : Int) (w : World) :
    (AdminServer.handleRecallMessage permitted id).Ensures w fun o => o.state.tables.users = w.tables.users := by
  refine Prog.ensures_ite (fun _ => rfl) fun _ => Prog.ensures_ite (fun _ => rfl) fun _ => ensures_lookup rfl fun msg _ => ?_
  have written : (MessageDao.updateStatus id .recalled).Ensures w.spend fun o => o.state.tables.users = w.tables.users := by
    refine Prog.ensures_atomic (ensures_lookup rfl fun row _ => ?_)
    rw [Prog.Ensures, execute, run_statement]
    split <;> rfl
  refine Prog.ensures_bind (Prog.ensures_mono written fun o same => ?_)
  refine (@users_settled _ _ sessions _ ?_ o.state).trans same
  exact plain_ite (.ret _) (.bind (MessageBus.plain_publish fun _ _ => rfl) fun _ => .bind AdminServer.plain_writeAuditLog fun _ => .ret _)

/-- Whatever else is served leaves the users alone, also when statements fail. -/
theorem serve_users (input : Input) : input.WritesUsers ∨
    ∀ w, ((serve sqliteDaoFactory input).run w).state.tables.users = w.tables.users := by
  have effect : ∀ (request : Request) (w : World), (∀ send : SendCall, request ≠ send.request) →
      ((handle request).run w).state.tables.users = w.tables.users := by
    intro request w apart
    obtain ⟨send, is⟩ | ⟨effect, -⟩ := handle_cases request w
    · exact absurd is (apart send)
    · exact users_effect effect
  cases input with
  | packet request =>
    cases request with
    | user request =>
      rw [serve, Router.dispatch, UserService.handleWith_sqlite]
      cases request with
      | register conn seq body => exact .inl (.register ..)
      | updateProfile conn seq body => exact .inl (.updateProfile ..)
      | login conn seq body => exact .inr (users_settled (UserService.plain_handleLogin body))
      | logout conn seq => exact .inr (users_settled UserService.plain_handleLogout)
      | heartbeat conn seq => exact .inr (users_settled UserService.plain_handleHeartbeat)
      | searchUser conn seq body => exact .inr (users_settled (UserService.plain_handleSearchUser body))
      | getProfile conn seq body => exact .inr (users_settled (UserService.plain_handleGetProfile body))
    | msg request =>
      by_cases sends : ∃ send : SendCall, (.msg request : Request) = send.request
      · obtain ⟨send, is⟩ := sends
        rw [SendCall.request, Request.msg.injEq] at is
        rw [is]
        exact .inr (send_users send)
      · exact .inr fun w => effect (.msg request) w fun send is => sends ⟨send, is⟩
    | sync request =>
      cases request with
      | syncMsg conn seq body =>
        exact .inr fun w => congrArg Tables.users (SyncService.silent_handleSyncMsg conn seq body w).tables
      | syncUnread conn seq =>
        exact .inr fun w => congrArg Tables.users (SyncService.silent_handleSyncUnread conn seq w).tables
    | friend request =>
      rw [serve, Router.dispatch, FriendService.handleWith_sqlite]
      exact .inr fun w => effect (.friend request) w fun _ is => by cases is
    | conv request => exact .inr fun w => effect (.conv request) w fun _ is => by cases is
    | group request =>
      rw [serve, Router.dispatch, GroupService.handleWith_sqlite]
      exact .inr fun w => effect (.group request) w fun _ is => by cases is
    | file request => exact .inr (users_settled (FileService.plain_handle request))
  | disconnected conn => exact .inr (users_settled Gateway.plain_onDisconnected)
  | admin request =>
    cases request with
    | banUser permitted uid => exact .inl (.banUser ..)
    | unbanUser permitted uid => exact .inl (.unbanUser ..)
    | deleteUser permitted uid => exact .inl (.deleteUser ..)
    | kickUser permitted uid =>
      have kicks : SettledHandler (serve sqliteDaoFactory (.admin (.kickUser permitted uid))) :=
        .bind (AdminServer.plain_handleKickUser permitted uid) fun _ => .ret ()
      exact .inr (users_settled kicks)
    | recallMessage permitted id =>
      refine .inr fun w => ?_
      rw [serve, Prog.run_bind]
      exact recallMessage_users permitted id w
  | bus => exact .inr (users_settled Application.plain_dispatchMessage)

theorem received_accounts (v : World) (arrival : Arrival) :
    AccountsStep v (.arrival arrival) (receive sqliteDaoFactory v arrival).tables.users := by
  have statuses : ∀ (request : AdminServer.Request) {permitted uid status kick}, arrival.input = .admin request →
      (permitted = true → request.sets = some (uid, status)) →
      AccountsStep v (.arrival arrival)
        ((AdminServer.setStatus permitted uid status kick).run ((arrival.call v).enter v)).state.tables.users := by
    intro request permitted uid status kick is sets
    refine .rows _ (setStatus_each (fun r => .same _ r) ((arrival.call v).enter v) fun allowed r own live => ?_)
    exact .status arrival request status r is (by rw [own, sets allowed]) live
  show AccountsStep v _ ((serve sqliteDaoFactory arrival.input).run ((arrival.call v).enter v)).state.tables.users
  rcases serve_users arrival.input with writes | spares
  · generalize is : arrival.input = input at writes
    cases writes with
    | register conn seq body =>
      obtain same | ⟨req, rfl, addressed, fields, stored⟩ := @register_users conn seq body ((arrival.call v).enter v)
      · exact accountsStep_kept same
      · have opened : AccountsStep v (.arrival arrival) (v.tables.users.insert _) :=
          .enrolled _ (.register arrival conn seq req is addressed fields)
        rw [serve, Router.dispatch, UserService.handleWith_sqlite]
        exact (congrArg (AccountsStep v (.arrival arrival)) stored).mpr opened
    | updateProfile conn seq body =>
      rw [serve, Router.dispatch, UserService.handleWith_sqlite]
      have done := @handleUpdateProfile_rewrites conn seq body ((arrival.call v).enter v)
      obtain ⟨same | ⟨req, rfl, known, valid, rewritten⟩, -⟩ := done
      · exact accountsStep_kept (congrArg Tables.users same)
      · refine .rows _ (List.Forall₂.imp (fun r r' becomes => ?_) rewritten)
        obtain rfl | ⟨own, live, nickname, avatar, named, pictured, rfl⟩ := becomes
        · exact .same _ _
        · exact .profile arrival conn seq req r nickname avatar is known own live valid
            (named.imp_right fun new => ⟨new.1, new.2⟩) (pictured.imp_right fun new => ⟨new.1, new.2⟩)
    | banUser permitted uid =>
      rw [serve, Prog.run_bind]
      exact statuses _ is fun allowed => by rw [allowed]; rfl
    | unbanUser permitted uid =>
      rw [serve, Prog.run_bind]
      exact statuses _ is fun allowed => by rw [allowed]; rfl
    | deleteUser permitted uid =>
      rw [serve, Prog.run_bind]
      exact statuses _ is fun allowed => by rw [allowed]; rfl
  · exact accountsStep_kept (spares _)

/-- What one call makes of the accounts. -/
theorem call_accounts (v : World) (call : AccountCall) : AccountsStep v call (call.step v).tables.users := by
  cases call with
  | arrival arrival => exact received_accounts v arrival
  | createUser faults permitted body =>
    obtain same | ⟨fields, email, nickname, password, rfl, rfl, addressee, named, secret, checked, stored⟩ :=
      createUser_users permitted body { v with faults := faults }
    · exact accountsStep_kept same
    · have opened : AccountsStep v (.createUser faults true (some fields)) (v.tables.users.insert _) :=
        .enrolled _ (.create faults fields email nickname password addressee named secret checked)
      exact (congrArg (AccountsStep v _) stored).mpr opened
  | resetPassword faults permitted uid body => exact .rows _ (handleResetPassword_each faults permitted uid body v)

end Served

/-! ### The accounts over a run -/

/-- An account later on: its id, its uid and its email stay, and all of it once it is deleted. -/
structure Lasts (r r' : User) : Prop where
  id : r'.id = r.id
  uid : r'.uid = r.uid
  email : r'.email = r.email
  ended : r.status = .deleted → r' = r

theorem Lasts.refl (r : User) : Lasts r r := ⟨rfl, rfl, rfl, fun _ => rfl⟩

theorem Lasts.trans {a b c : User} (first : Lasts a b) (second : Lasts b c) : Lasts a c := by
  refine ⟨second.id.trans first.id, second.uid.trans first.uid, second.email.trans first.email, fun ended => ?_⟩
  obtain rfl : b = a := first.ended ended
  exact second.ended ended

/-- The account has its value of the column in every state of the run from `v`. -/
def Stands {α : Type} (column : User → α) (r : User) (v : World) (calls : List AccountCall) : Prop :=
  ∀ more, more <+: calls → ∃ b ∈ (after AccountCall.step v more).tables.users.rows, b.id = r.id ∧ column b = column r

/-- The value of an account stood in the whole run, or a call of the run gave it, and it stood from then on. -/
def Owed {α : Type} (column : User → α) (gives : World → AccountCall → Prop) (r : User) (w : World)
    (calls : List AccountCall) : Prop :=
  Stands column r w calls ∨ ∃ sofar call rest, calls = sofar ++ call :: rest ∧ gives (after AccountCall.step w sofar) call ∧
    Stands column r (call.step (after AccountCall.step w sofar)) rest

/-- The call makes the account, and the column with it. -/
def Opens {α : Type} (column : User → α) (r : User) (v : World) (call : AccountCall) : Prop :=
  ∃ user, OpensAccount v call user ∧ user.uid = r.uid ∧ user.email = r.email ∧ column user = column r

/-- An administrator gives the account its password. -/
def Resets (r : User) (v : World) (call : AccountCall) : Prop :=
  ∃ faults body password, call = .resetPassword faults true r.uid body ∧
    (body.bind (Json.field (ascii "new_password"))).bind Json.string? = some password ∧
    (6 ≤ password.length ∧ password.length ≤ 128) ∧ r.passwordHash = v.mem.config.passwordHash password ∧ r.passwordHash ≠ []

/-- A request on a connection of the account asks for the column. -/
def AsksProfile (column : User → Bytes) (asked : UpdateProfileReq → Bytes) (r : User) (v : World) (call : AccountCall) : Prop :=
  ∃ arrival conn seq req, call = .arrival arrival ∧ arrival.input = .packet (.user (.updateProfile conn seq (some req))) ∧
    (v.mem.connections conn).userId ≠ 0 ∧ (v.mem.connections conn).uid = r.uid ∧
    UserService.profileError (UserService.trim req.nickname) (UserService.trim req.avatar) = none ∧
    column r = UserService.trim (asked req) ∧ column r ≠ []

/-- An administrator gives the account its status. -/
def Rules (r : User) (_ : World) (call : AccountCall) : Prop :=
  ∃ arrival request, call = .arrival arrival ∧ arrival.input = .admin request ∧ request.sets = some (r.uid, r.status)

section Runs
variable {v w : World} {call : AccountCall} {calls : List AccountCall} {r r' : User}

/-- No call takes the identity of an account or brings a deleted one back. -/
theorem RowStep.lasts (step : RowStep v call r r') : Lasts r r' := by
  cases step with
  | same => exact .refl r
  | profile _ _ _ _ _ _ _ _ _ _ live => exact ⟨rfl, rfl, rfl, fun ended => absurd ended live⟩
  | status _ _ _ _ _ _ live => exact ⟨rfl, rfl, rfl, fun ended => absurd ended live⟩
  | password _ _ _ _ _ _ _ live => exact ⟨rfl, rfl, rfl, fun ended => absurd ended live⟩

theorem continues_call (v : World) (call : AccountCall) :
    Continues Lasts v.tables.users.rows (call.step v).tables.users.rows := by
  have step := call_accounts v call
  generalize (call.step v).tables.users = users at step
  cases step with
  | rows _ each =>
    generalize v.tables.users.rows = rows, users.rows = rows' at each
    induction each with
    | nil => exact .behind []
    | cons becomes _ ih => exact .keeps becomes.lasts ih
  | enrolled user opens => exact .insert .refl _ user

theorem continues_calls (w : World) (calls : List AccountCall) :
    Continues Lasts w.tables.users.rows (after AccountCall.step w calls).tables.users.rows :=
  @after_invariant_always _ _ AccountCall.step (fun v => Continues Lasts w.tables.users.rows v.tables.users.rows)
    (fun v call lasts => lasts.trans (fun _ _ _ => .trans) (continues_call v call)) w (.refl .refl _) calls

/-- Each row of the later list was one of the earlier list. -/
theorem exists_before {becomes : User → User → Prop} {rows rows' : List User} (each : List.Forall₂ becomes rows rows')
    (inside : r' ∈ rows') : ∃ r ∈ rows, becomes r r' := by
  induction each with
  | nil => simp at inside
  | @cons a b _ _ became _ ih =>
    rcases List.mem_cons.mp inside with rfl | further
    · exact ⟨a, List.mem_cons_self, became⟩
    · obtain ⟨r, there, becomes⟩ := ih further
      exact ⟨r, List.mem_cons_of_mem _ there, becomes⟩

/-- A row behind the call was made by it or comes from one before. -/
theorem account_before (inside : r' ∈ (call.step v).tables.users.rows) :
    (∃ r ∈ v.tables.users.rows, RowStep v call r r') ∨ ∃ user, OpensAccount v call user ∧ r' = v.tables.users.fresh user := by
  have step := call_accounts v call
  generalize (call.step v).tables.users = users at step inside
  cases step with
  | rows _ each =>
    exact .inl (exists_before each inside)
  | enrolled user opens =>
    obtain there | ⟨-, rfl⟩ := Table.mem_insert.mp inside
    · exact .inl ⟨r', there, .same call r'⟩
    · exact .inr ⟨user, opens, rfl⟩

/-- A value that some state of the run lacks is given by a call of the run, the last one to do so. -/
theorem owed {α : Type} {column : User → α} {gives : World → AccountCall → Prop}
    (inside : r ∈ (after AccountCall.step w calls).tables.users.rows)
    (issued : ∀ (t : Table User) user, column (t.fresh user) = column user)
    (made : ∀ v call, Opens column r v call → gives v call)
    (given : ∀ v call a a', RowStep v call a a' → a.uid = r.uid → column a ≠ column r → column a' = column r → gives v call) :
    Owed column gives r w calls := by
  by_cases always : Stands column r w calls
  · exact .inl always
  right
  simp only [Stands, not_forall] at always
  obtain ⟨before, ⟨tail, rfl⟩, lacks⟩ := always
  rw [after_append] at inside
  obtain ⟨sofar, call, rest, rfl, notYet, since⟩ := @arises _ _ AccountCall.step
    (fun v => ∃ b ∈ v.tables.users.rows, b.id = r.id ∧ column b = column r) _ tail lacks ⟨r, inside, rfl, rfl⟩
  rw [← after_append] at notYet since
  refine ⟨before ++ sofar, call, rest, by simp, ?_, since⟩
  rw [after_append, after_cons, ← after_append] at inside
  generalize after AccountCall.step w (before ++ sofar) = v at inside notYet since ⊢
  obtain ⟨b, there, same, value⟩ := since [] List.nil_prefix
  obtain ⟨later, here, lasts⟩ := (continues_calls (call.step v) rest).mem there
  obtain rfl : later = r := Table.eq_of_id here inside (lasts.id.trans same)
  obtain ⟨a, old, becomes⟩ | ⟨user, opens, rfl⟩ := account_before there
  · have kept := becomes.lasts
    refine given v call a b becomes (kept.uid.symm.trans lasts.uid.symm) (fun already => notYet ⟨a, old, ?_, already⟩) value
    exact kept.id.symm.trans same
  · exact made v call ⟨user, opens, lasts.uid.symm, lasts.email.symm, (issued _ user).symm.trans value⟩

theorem password_owed (inside : r ∈ (after AccountCall.step w calls).tables.users.rows) :
    Owed User.passwordHash (fun v call => Opens User.passwordHash r v call ∨ Resets r v call) r w calls := by
  refine owed inside (fun _ _ => rfl) (fun _ _ => .inl) fun v call a a' step own other value => .inr ?_
  cases step with
  | password faults body password _ given length hashed live =>
    exact ⟨faults, body, password, by rw [own], given, length, value.symm, value ▸ hashed⟩
  | _ => exact absurd value other

/-- A column that is written at the creation and by the updates of a profile, with what a request asks for. -/
theorem profile_owed {column : User → Bytes} {asked : UpdateProfileReq → Bytes}
    (inside : r ∈ (after AccountCall.step w calls).tables.users.rows)
    (issued : ∀ (t : Table User) user, column (t.fresh user) = column user)
    (profile : ∀ (a : User) nickname avatar (req : UpdateProfileReq),
      (nickname = a.nickname ∨ nickname = UserService.trim req.nickname ∧ nickname ≠ []) →
      (avatar = a.avatar ∨ avatar = UserService.trim req.avatar ∧ avatar ≠ []) →
      column { a with nickname := nickname, avatar := avatar } = column a ∨
        column { a with nickname := nickname, avatar := avatar } = UserService.trim (asked req) ∧
          column { a with nickname := nickname, avatar := avatar } ≠ [])
    (status : ∀ (a : User) status, column { a with status := status } = column a)
    (password : ∀ (a : User) hash, column { a with passwordHash := hash } = column a) :
    Owed column (fun v call => Opens column r v call ∨ AsksProfile column asked r v call) r w calls := by
  refine owed inside issued (fun _ _ => .inl) fun v call a a' step own other value => .inr ?_
  cases step with
  | same => exact absurd value other
  | profile arrival conn seq req _ nickname avatar asks known mine live valid named pictured =>
    obtain same | ⟨new, filled⟩ := profile a nickname avatar req named pictured
    · exact absurd (same.symm.trans value) other
    · exact ⟨arrival, conn, seq, req, rfl, asks, known, mine.symm.trans own, valid, value.symm.trans new, value ▸ filled⟩
  | status => exact absurd ((status _ _).symm.trans value) other
  | password => exact absurd ((password _ _).symm.trans value) other

/-- Every account goes on with its id, its uid and its email, deleted ones with all they have; and each of its values has its
    origin. The password comes from the creation or from an administrator, the nickname and the avatar from the creation or
    from a request on a connection of the account, and the status from the creation or from an administrator. -/
theorem accounts_accounted (w : World) (calls : List AccountCall) :
    Continues Lasts w.tables.users.rows (after AccountCall.step w calls).tables.users.rows ∧
      ∀ r ∈ (after AccountCall.step w calls).tables.users.rows,
        Owed User.passwordHash (fun v call => Opens User.passwordHash r v call ∨ Resets r v call) r w calls ∧
        Owed User.nickname (fun v call =>
          Opens User.nickname r v call ∨ AsksProfile User.nickname UpdateProfileReq.nickname r v call) r w calls ∧
        Owed User.avatar (fun v call =>
          Opens User.avatar r v call ∨ AsksProfile User.avatar UpdateProfileReq.avatar r v call) r w calls ∧
        Owed User.status (fun v call => Opens User.status r v call ∨ Rules r v call) r w calls := by
  refine ⟨continues_calls w calls, fun r inside => ⟨password_owed inside, ?_, ?_, ?_⟩⟩
  · exact profile_owed inside (fun _ _ => rfl) (fun _ _ _ _ named _ => named) (fun _ _ => rfl) fun _ _ => rfl
  · exact profile_owed inside (fun _ _ => rfl) (fun _ _ _ _ _ pictured => pictured) (fun _ _ => rfl) fun _ _ => rfl
  · refine owed inside (fun _ _ => rfl) (fun _ _ => .inl) fun v call a a' step own other value => .inr ?_
    cases step with
    | status arrival request status _ asks sets live => exact ⟨arrival, request, rfl, asks, by rw [sets, own, ← value]⟩
    | _ => exact absurd value other

end Runs

/-! ### Sessions -/

/-- A program that leaves the fields of the connections alone, whatever it writes. -/
abbrev FieldsKept {α : Type} (p : Action α) : Prop :=
  Plain True (fun (_ : Unit) (t : Tables) => t) (fun _ => ()) (fun m : Server => m.connections) p

section Sessions
variable {w : World} {calls : List AccountCall} {conn : ConnId}

theorem fieldsKept_statement {α : Type} {failed : α} {answer : Tables → α} {effect : Tables → Tables} :
    FieldsKept (statement failed answer effect) :=
  .statement (fun _ _ => rfl) (fun _ _ => rfl) fun _ => rfl

theorem fieldsKept_query {α : Type} {failed : α} {answer : Tables → α} : FieldsKept (query failed answer) := fieldsKept_statement

theorem fieldsKept_insert {ρ : Type} [Row ρ] {table : Tables → Table ρ} {row : ρ} {effect : Tables → Tables} :
    FieldsKept (insertReturningId table row effect) := fieldsKept_statement

theorem fieldsKept_writeAuditLog : FieldsKept AdminServer.writeAuditLog := .bind fieldsKept_statement fun _ => .ret ()

theorem fieldsKept_createChecked {email nickname password : Bytes} :
    FieldsKept (AdminServer.createChecked email nickname password) := by
  refine .bind fieldsKept_query fun known => plain_ite (.ret _) (.bind (plain_peek _) fun config => plain_ite (.ret _) ?_)
  refine .bind (UserService.plain_nextIdStr fun _ _ => rfl) fun uid => .bind fieldsKept_insert fun inserted => plain_ite ?_ ?_
  · exact .bind fieldsKept_writeAuditLog fun _ => .ret _
  · refine .bind fieldsKept_query fun known => ?_
    split <;> exact .ret _

theorem fieldsKept_handleCreateUser {permitted : Bool} {body : Option Json} :
    FieldsKept (AdminServer.handleCreateUser permitted body) := by
  refine plain_ite (.ret _) ?_
  cases body with
  | none => exact .ret _
  | some fields =>
    refine plain_ite (.ret _) ?_
    split
    · split
      · exact .ret _
      · refine plain_ite (.ret _) ?_
        dsimp only
        split
        · exact .ret _
        · exact fieldsKept_createChecked
    · exact .ret _

theorem fieldsKept_handleResetPassword {permitted : Bool} {uid : Bytes} {body : Option Json} :
    FieldsKept (AdminServer.handleResetPassword permitted uid body) := by
  refine plain_ite (.ret _) (plain_ite (.ret _) ?_)
  split
  · exact .ret _
  · split
    · exact .ret _
    · refine plain_ite (.ret _) (plain_ite (.ret _) (plain_ite (.ret _) (.bind (plain_peek _) fun config => ?_)))
      refine plain_ite (.ret _) (.bind (.atomic (.bind fieldsKept_query fun found => ?_)) fun updated => ?_)
      · cases found with
        | none => exact .ret _
        | some user => exact .bind fieldsKept_statement fun _ => .ret _
      · exact plain_ite (.ret _) (.bind fieldsKept_writeAuditLog fun _ => .ret _)

/-- A call behind which a connection carries a user, and before which it did not, is a login. -/
theorem signsIn_call {v : World} {call : AccountCall} {userId : Int} (carries : userId ≠ 0)
    (free : (v.mem.connections conn).userId ≠ userId) (now : ((call.step v).mem.connections conn).userId = userId) :
    ∃ arrival, call = .arrival arrival ∧ SignsIn v arrival conn userId := by
  cases call with
  | arrival arrival => exact ⟨arrival, rfl, signsIn_received carries free now⟩
  | createUser faults permitted body =>
    have kept : FieldsKept (AdminServer.handleCreateUser permitted body) := fieldsKept_handleCreateUser
    refine absurd now ?_
    rw [AccountCall.step, kept.run_view]
    exact free
  | resetPassword faults permitted uid body =>
    have kept : FieldsKept (AdminServer.handleResetPassword permitted uid body) := fieldsKept_handleResetPassword
    refine absurd now ?_
    rw [AccountCall.step, kept.run_view]
    exact free

/-- Whoever is logged in gave a password that fits the one of the account, and that one has its origin: the account was there
    with it, or was made with it, or an administrator set it. -/
theorem session_rooted (out : LoggedOut w) (carries : ((after AccountCall.step w calls).mem.connections conn).userId ≠ 0) :
    ∃ sofar arrival rest seq req user, calls = sofar ++ .arrival arrival :: rest ∧
      arrival.input = .packet (.user (.login conn seq (some req))) ∧ Verified (after AccountCall.step w sofar) req user ∧
      user.id = ((after AccountCall.step w calls).mem.connections conn).userId ∧
      Owed User.passwordHash (fun v call => Opens User.passwordHash user v call ∨ Resets user v call) user w sofar ∧
      ∀ more, more <+: rest →
        ((after AccountCall.step w (sofar ++ .arrival arrival :: more)).mem.connections conn).userId = user.id := by
  generalize named : ((after AccountCall.step w calls).mem.connections conn).userId = userId at carries ⊢
  have notYet : (w.mem.connections conn).userId ≠ userId := by
    rw [out conn]
    exact Ne.symm carries
  obtain ⟨sofar, call, rest, rfl, free, since⟩ := @arises _ _ AccountCall.step
    (fun v => (v.mem.connections conn).userId = userId) w calls notYet named
  obtain ⟨arrival, rfl, seq, req, user, asked, verified, rfl⟩ := signsIn_call carries free (since [] List.nil_prefix)
  refine ⟨sofar, arrival, rest, seq, req, user, rfl, asked, verified, rfl, ?_, fun more short => ?_⟩
  · exact password_owed verified.known
  · rw [after_append, after_cons]
    exact since more short

/-- A server before its first user. -/
def unsettled : World :=
  { tables := {}
    mem := {
      config := { passwordHash := fun password => 1 :: password, passwordVerify := fun password hash => hash == 1 :: password }
      snowflake := fun n => decimalText n } }

/-- A user registers, is given another password by an administrator, and logs in with it on connection 7. -/
def forgotten : List AccountCall :=
  [.arrival { input := .packet (.user (.register 7 1
      (some { email := ascii "ada@nova.im", nickname := ascii "Ada", password := ascii "first one" }))) },
    .resetPassword [] true (decimalText 0) (some (.object [(ascii "new_password", .string (ascii "second one"))])),
    .arrival { input := .packet (.user (.login 7 2
      (some { email := ascii "ada@nova.im", password := ascii "second one", deviceId := [], deviceType := [] }))) }]

theorem session_rooted_forgotten :
    ∃ sofar arrival rest seq req user, forgotten = sofar ++ .arrival arrival :: rest ∧
      arrival.input = .packet (.user (.login 7 seq (some req))) ∧ Verified (after AccountCall.step unsettled sofar) req user ∧
      user.id = ((after AccountCall.step unsettled forgotten).mem.connections 7).userId ∧
      Owed User.passwordHash (fun v call => Opens User.passwordHash user v call ∨ Resets user v call) user unsettled sofar ∧
      ∀ more, more <+: rest →
        ((after AccountCall.step unsettled (sofar ++ .arrival arrival :: more)).mem.connections 7).userId = user.id :=
  @session_rooted unsettled forgotten 7 (fun _ => rfl) (by decide +kernel)

end Sessions

end NovaIIM
