import NovaIIM.AccountAgreement
import NovaIIM.Runs

/-!
An account for every free email.

`FindByEmail` passes over the rows of deleted users, the unique index does not. So the email
of a deleted user is found to be free, and its INSERT fails (`createsIfFree_iff`). The uids of
an account never stand in its way: along a run they are ids that the generator has handed
out before (`UidsIssued`).
-/
namespace NovaIIM
open Store UserService

/-! ### Histories -/

/-- What happens to the accounts of users, and time that passes. -/
inductive AccountEvent where
  | register (conn : ConnId) (seq : UInt32) (body : Option RegisterReq)
  | createUser (permitted : Bool) (body : Option Json)
  | deleteUser (permitted : Bool) (uid : Bytes)
  | wait (elapsed : Nat)

/-- An event is served to its end, under failures. -/
def AccountEvent.step (w : World) (call : List Bool × AccountEvent) : World :=
  let w := { w with faults := call.1 }
  match call.2 with
  | .register conn seq body => ((handleRegister conn seq body).run w).state
  | .createUser permitted body => ((AdminServer.handleCreateUser permitted body).run w).state
  | .deleteUser permitted uid => ((AdminServer.handleDeleteUser permitted uid).run w).state
  | .wait elapsed => { w with mem := { w.mem with steady := w.mem.steady + elapsed } }

/-- Users come with uids that are handed out meanwhile, and none gets another uid. -/
structure Grown (w w' : World) : Prop where
  snowflake : w'.mem.snowflake = w.mem.snowflake
  issued : w.mem.issued ≤ w'.mem.issued
  users : ∀ r ∈ w'.tables.users.rows, (∃ old ∈ w.tables.users.rows, old.uid = r.uid) ∨
    ∃ k, w.mem.issued ≤ k ∧ k < w'.mem.issued ∧ r.uid = w.mem.snowflake k

theorem Grown.refl (w : World) : Grown w w := ⟨rfl, Nat.le_refl _, fun r inside => .inl ⟨r, inside, rfl⟩⟩

theorem Grown.trans {w w' w'' : World} (first : Grown w w') (second : Grown w' w'') : Grown w w'' := by
  refine ⟨second.snowflake.trans first.snowflake, Nat.le_trans first.issued second.issued, fun r inside => ?_⟩
  have := first.issued
  have := second.issued
  obtain ⟨old, there, same⟩ | ⟨k, from_, to_, uid⟩ := second.users r inside
  · obtain ⟨older, there', same'⟩ | ⟨k, from_, to_, uid⟩ := first.users old there
    · exact .inl ⟨older, there', same'.trans same⟩
    · exact .inr ⟨k, from_, by omega, same ▸ uid⟩
  · exact .inr ⟨k, by omega, to_, first.snowflake ▸ uid⟩

/-- A program that only makes accounts with new uids. -/
def Enrolls {α : Type} (p : Action α) : Prop := ∀ w, Grown w (p.run w).state

section Enrolls
variable {α β : Type}

theorem enrolls_ret (value : α) : Enrolls (.ret value) := fun w => .refl w

theorem enrolls_bind {p : Action α} {f : α → Action β} (first : Enrolls p) (rest : ∀ a, Enrolls (f a)) : Enrolls (p >>= f) := by
  intro w
  rw [Prog.run_bind]
  exact (first w).trans (rest _ _)

theorem enrolls_ite {c : Prop} [Decidable c] {p q : Action α} (yes : Enrolls p) (no : Enrolls q) :
    Enrolls (if c then p else q) := by
  split
  · exact yes
  · exact no

theorem enrolls_silent {p : Action α} (silent : Silent p) : Enrolls p := by
  intro w
  obtain ⟨tables, -, mem⟩ := silent w
  exact ⟨congrArg Server.snowflake mem, Nat.le_of_eq (congrArg Server.issued mem).symm,
    fun r inside => .inl ⟨r, tables ▸ inside, rfl⟩⟩

theorem enrolls_modify {update : Server → Server} (same : ∀ m, (update m).snowflake = m.snowflake ∧
    (update m).issued = m.issued) : Enrolls (modify update) := by
  intro w
  rw [run_modify]
  exact ⟨(same _).1, Nat.le_of_eq (same _).2.symm, fun r inside => .inl ⟨r, inside, rfl⟩⟩

/-- A statement that gives no user another uid. -/
theorem enrolls_statement {failed : α} {answer : Tables → α} {effect : Tables → Tables}
    (same : ∀ t, ∀ r ∈ (effect t).users.rows, ∃ old ∈ t.users.rows, old.uid = r.uid) :
    Enrolls (statement failed answer effect : Action α) := by
  intro w
  rw [run_statement]
  split
  · exact ⟨rfl, Nat.le_refl _, fun r inside => .inl ⟨r, inside, rfl⟩⟩
  · exact ⟨rfl, Nat.le_refl _, fun r inside => .inl (same _ r inside)⟩

/-- A new user gets the uid that is handed out for it. -/
theorem enrolls_insert {user : Bytes → User} {f : Bytes → Option Int → Action α} (named : ∀ uid, (user uid).uid = uid)
    (rest : ∀ uid id, Enrolls (f uid id)) : Enrolls (nextIdStr >>= fun uid => UserDao.insert (user uid) >>= f uid) := by
  intro w
  have issued : (nextIdStr.run w).state = { w with mem := { w.mem with issued := w.mem.issued + 1 } } := by
    simp [nextIdStr]
  have uid : (nextIdStr.run w).value = w.mem.snowflake w.mem.issued := by simp [nextIdStr]
  rw [Prog.run_bind, Prog.run_bind, issued, uid]
  refine Grown.trans ?_ (rest _ _ _)
  unfold UserDao.insert insertReturningId
  rw [run_statement]
  split
  · exact ⟨rfl, Nat.le_succ _, fun r inside => .inl ⟨r, inside, rfl⟩⟩
  · refine ⟨rfl, Nat.le_succ _, fun r inside => ?_⟩
    obtain old | ⟨-, rfl⟩ := Table.mem_insert.mp inside
    · exact .inl ⟨r, old, rfl⟩
    · exact .inr ⟨w.mem.issued, Nat.le_refl _, Nat.lt_succ_self _, named _⟩

end Enrolls

section Handlers
variable {conn : ConnId} {seq : UInt32}

private theorem enrolls_sendRegisterAck {e : Error} : Enrolls (sendRegisterAck conn seq e) :=
  enrolls_silent silent_sendPacket

private theorem enrolls_findByEmail {email : Bytes} : Enrolls (UserDao.findByEmail email) :=
  enrolls_silent (silent_query _ _)

private theorem enrolls_registerAllow {key : Bytes} : Enrolls (registerAllow key) := by
  intro w
  rw [registerAllow, Prog.run_step]
  exact ⟨rfl, Nat.le_refl _, fun r inside => .inl ⟨r, inside, rfl⟩⟩

theorem enrolls_handleRegister (body : Option RegisterReq) : Enrolls (handleRegister conn seq body) := by
  cases body with
  | none => exact enrolls_sendRegisterAck
  | some req =>
    refine enrolls_bind (enrolls_ite (enrolls_ret true) enrolls_registerAllow) fun allowed => ?_
    refine enrolls_ite enrolls_sendRegisterAck ?_
    dsimp only
    split
    · exact enrolls_sendRegisterAck
    refine enrolls_bind enrolls_findByEmail fun known => enrolls_ite ?_ ?_
    · exact enrolls_bind (enrolls_modify fun _ => ⟨rfl, rfl⟩) fun _ => enrolls_sendRegisterAck
    split
    · exact enrolls_sendRegisterAck
    refine enrolls_bind (enrolls_silent (silent_peek _)) fun config => enrolls_ite enrolls_sendRegisterAck ?_
    refine enrolls_insert (fun uid => rfl) fun uid id => enrolls_ite (enrolls_silent silent_sendPacket) ?_
    exact enrolls_bind enrolls_findByEmail fun known => enrolls_ite enrolls_sendRegisterAck enrolls_sendRegisterAck

private theorem enrolls_writeAuditLog : Enrolls AdminServer.writeAuditLog :=
  enrolls_bind (enrolls_statement fun _ r inside => ⟨r, inside, rfl⟩) fun _ => enrolls_ret ()

theorem enrolls_handleCreateUser (permitted : Bool) (body : Option Json) :
    Enrolls (AdminServer.handleCreateUser permitted body) := by
  unfold AdminServer.handleCreateUser
  refine enrolls_ite (enrolls_ret _) ?_
  split
  · exact enrolls_ret _
  refine enrolls_ite (enrolls_ret _) ?_
  split
  · split
    · exact enrolls_ret _
    refine enrolls_ite (enrolls_ret _) ?_
    dsimp only
    split
    · exact enrolls_ret _
    refine enrolls_bind enrolls_findByEmail fun known => enrolls_ite (enrolls_ret _) ?_
    refine enrolls_bind (enrolls_silent (silent_peek _)) fun config => enrolls_ite (enrolls_ret _) ?_
    refine enrolls_insert (fun uid => rfl) fun uid id => enrolls_ite ?_ ?_
    · exact enrolls_bind enrolls_writeAuditLog fun _ => enrolls_ret _
    · exact enrolls_bind enrolls_findByEmail fun known => enrolls_ret _
  · exact enrolls_ret _

private theorem enrolls_updateStatus {uid : Bytes} {status : AccountStatus} : Enrolls (UserDao.updateStatus uid status) := by
  intro w
  rw [UserDao.updateStatus, Prog.run_atomic]
  refine enrolls_bind (enrolls_silent (silent_query _ _)) (fun res => ?_) w
  cases res with
  | none => exact enrolls_ret none
  | some user =>
    refine enrolls_bind (enrolls_statement fun t r inside => ?_) fun _ => enrolls_ret _
    obtain ⟨old, there, rfl⟩ := Table.mem_update.mp inside
    refine ⟨old, there, ?_⟩
    split <;> rfl

theorem enrolls_handleDeleteUser (permitted : Bool) (uid : Bytes) :
    Enrolls (AdminServer.handleDeleteUser permitted uid) := by
  have publish : ∀ event, Enrolls (MessageBus.publish event) := fun event => enrolls_modify fun m => by
    split <;> exact ⟨rfl, rfl⟩
  have kicks : ∀ id, Enrolls (AdminServer.kickAllConns id) := fun id =>
    enrolls_bind (enrolls_silent (silent_peek _)) fun conns =>
      enrolls_bind (enrolls_ite (publish _) (enrolls_ret ())) fun _ => enrolls_ret _
  refine enrolls_ite (enrolls_ret _) (enrolls_ite (enrolls_ret _) (enrolls_bind enrolls_updateStatus fun updated => ?_))
  cases updated with
  | none => exact enrolls_ret _
  | some id =>
    refine enrolls_bind (enrolls_ite (enrolls_bind (kicks id) fun _ => enrolls_ret ()) (enrolls_ret ())) fun _ => ?_
    exact enrolls_bind enrolls_writeAuditLog fun _ => enrolls_ret _

end Handlers

/-- No event gives a user a uid that was not handed out for it. -/
theorem grown_step (w : World) (call : List Bool × AccountEvent) : Grown w (AccountEvent.step w call) := by
  obtain ⟨faults, event⟩ := call
  have begun : Grown w { w with faults := faults } := ⟨rfl, Nat.le_refl _, fun r inside => .inl ⟨r, inside, rfl⟩⟩
  cases event with
  | register conn seq body => exact begun.trans (enrolls_handleRegister body _)
  | createUser permitted body => exact begun.trans (enrolls_handleCreateUser permitted body _)
  | deleteUser permitted uid => exact begun.trans (enrolls_handleDeleteUser permitted uid _)
  | wait elapsed => exact ⟨rfl, Nat.le_refl _, fun r inside => .inl ⟨r, inside, rfl⟩⟩

/-- Every uid has been handed out, and no id is handed out twice. -/
structure UidsIssued (w : World) : Prop where
  distinct : Function.Injective w.mem.snowflake
  issued : ∀ r ∈ w.tables.users.rows, ∃ k < w.mem.issued, r.uid = w.mem.snowflake k

theorem UidsIssued.step {w : World} (ids : UidsIssued w) (call : List Bool × AccountEvent) :
    UidsIssued (AccountEvent.step w call) := by
  obtain ⟨snowflake, later, users⟩ := grown_step w call
  refine ⟨snowflake ▸ ids.distinct, fun r inside => ?_⟩
  rw [snowflake]
  obtain ⟨old, there, same⟩ | ⟨k, -, below, uid⟩ := users r inside
  · obtain ⟨k, below, uid⟩ := ids.issued old there
    exact ⟨k, by omega, same ▸ uid⟩
  · exact ⟨k, below, uid⟩

/-- The next uid is nobody's. -/
theorem UidsIssued.fresh {w : World} (ids : UidsIssued w) : ∀ r ∈ w.tables.users.rows, r.uid ≠ w.mem.snowflake w.mem.issued := by
  intro r inside same
  obtain ⟨k, below, uid⟩ := ids.issued r inside
  have := ids.distinct (uid.symm.trans same)
  omega

/-! ### Free emails -/

/-- What `FindByEmail` answers on these tables. -/
def emailFound (t : Tables) (email : Bytes) : Option User :=
  ((UserDao.findByEmail email).run { tables := t, mem := {} }).value

/-- A creation ends as it should: with a new user, which is found by its email, if the email is free;
    with one answer, and the tables as they were, if it is not. -/
structure CreatesIfFree {α : Type} (w : World) (email nickname password : Bytes)
    (success : Bytes → Outcome World Event α → Prop) (exists_ : Outcome World Event α → Prop)
    (o : Outcome World Event α) : Prop where
  free : emailFound w.tables email = none → ∃ user, success user.uid o ∧
    emailFound o.state.tables email = some user ∧ user ∉ w.tables.users.rows ∧ user.nickname = nickname ∧
      user.passwordHash = w.mem.config.passwordHash password
  taken : emailFound w.tables email ≠ none → exists_ o ∧ o.state.tables = w.tables

/-- No deleted user has the email, and the password of a new user can be hashed. -/
structure EmailClear (w : World) (email password : Bytes) : Prop where
  undeleted : ∀ r ∈ w.tables.users.rows, r.email = email → r.status ≠ .deleted
  hashed : (∀ r ∈ w.tables.users.rows, r.email ≠ email) → w.mem.config.passwordHash password ≠ []

theorem emailFound_eq (t : Tables) (email : Bytes) :
    emailFound t email = t.users.rows.find? fun r => r.email = email && r.status ≠ .deleted := by
  simp [emailFound, UserDao.findByEmail, fails]

section Creation
variable {w : World} {email nickname password : Bytes}

/-- The row that the INSERT would make is kept out by a row with its email alone. -/
private theorem taken_newUser (ids : UidsIssued w) :
    w.tables.users.taken (newUser w.mem email nickname password) = true ↔ ∃ r ∈ w.tables.users.rows, r.email = email := by
  have clash : ∀ r : User, Row.clash (newUser w.mem email nickname password) r = true ↔
      w.mem.snowflake w.mem.issued = r.uid ∨ email = r.email := fun r =>
    Bool.or_eq_true_iff.trans (or_congr decide_eq_true_iff decide_eq_true_iff)
  simp only [Table.taken_iff, clash]
  constructor
  · rintro ⟨r, inside, same | same⟩
    · exact absurd same.symm (ids.fresh r inside)
    · exact ⟨r, inside, same.symm⟩
  · rintro ⟨r, inside, same⟩
    exact ⟨r, inside, .inr same.symm⟩

/-- A creation that is one attempt behind a lookup ends as it should exactly for clear emails. -/
private theorem createsIfFree_iff {α : Type} {success : Bytes → Outcome World Event α → Prop}
    {exists_ failure : Outcome World Event α → Prop} {o : Outcome World Event α} (sound : w.faults = [])
    (ids : UidsIssued w) (addressed : emailError email = none) (fields : registerError nickname password = none)
    (attempt : CreationAttempt w (newUser w.mem email nickname password) (Storable w email nickname password)
      (success (w.mem.snowflake w.mem.issued)) failure o)
    (apart : ∀ uid, failure o → ¬success uid o)
    (known : emailKnown w email = true → exists_ o ∧ o.state.tables = w.tables) :
    CreatesIfFree w email nickname password success exists_ o ↔ EmailClear w email password := by
  have works : w.fails = false := fails_sound sound
  have known_iff : emailKnown w email = (emailFound w.tables email).isSome := by
    simp [emailKnown, works, emailFound_eq]
  cases found : emailFound w.tables email with
  | some user =>
    rw [emailFound_eq] at found
    have inside := List.mem_of_find?_eq_some found
    have live := List.find?_some found
    simp only [Bool.and_eq_true, decide_eq_true_eq] at live
    refine iff_of_true ⟨fun free => ?_, fun _ => known ?_⟩ ⟨fun r there same => ?_, fun unknown => ?_⟩
    · rw [emailFound_eq, found] at free
      cases free
    · rw [known_iff, emailFound_eq, found]
      rfl
    · have : r = user := Table.eq_of_clash there inside (by simp [Row.clash, same, live.1])
      exact this ▸ live.2
    · exact absurd live.1 (unknown user inside)
  | none =>
    have unknown : emailKnown w email = false := by rw [known_iff, found]; rfl
    rw [emailFound_eq, List.find?_eq_none] at found
    by_cases deleted : ∃ r ∈ w.tables.users.rows, r.email = email
    · -- the row can only be that of a deleted user
      refine iff_of_false (fun creates => ?_) fun clear => ?_
      · obtain ⟨user, success', -⟩ := creates.free (by rw [emailFound_eq, List.find?_eq_none]; exact found)
        have missed : ¬Storable w email nickname password := fun storable => by
          have free := storable.free
          rw [(taken_newUser ids).mpr deleted] at free
          cases free
        exact apart _ (attempt.refused missed).1 success'
      · obtain ⟨r, inside, same⟩ := deleted
        have gone := found r inside
        simp only [same, decide_true, Bool.true_and, decide_eq_true_eq, ne_eq, not_not] at gone
        exact clear.undeleted r inside same gone
    · have free : w.tables.users.taken (newUser w.mem email nickname password) = false :=
        Bool.eq_false_iff.mpr fun taken => deleted ((taken_newUser ids).mp taken)
      have unheld : ∀ r ∈ w.tables.users.rows, r.email ≠ email := fun r inside same => deleted ⟨r, inside, same⟩
      constructor
      · intro creates
        refine ⟨fun r inside same => absurd same (unheld r inside), fun _ empty => ?_⟩
        obtain ⟨user, success', -⟩ := creates.free (by rw [emailFound_eq, List.find?_eq_none]; exact found)
        exact apart _ (attempt.refused fun storable => storable.hashed empty).1 success'
      · intro clear
        have storable : Storable w email nickname password :=
          ⟨addressed, fields, unknown, clear.hashed unheld, fails_sound (spend_sound sound), free⟩
        obtain ⟨success', tables⟩ := attempt.stored storable
        refine ⟨fun _ => ⟨w.tables.users.fresh (newUser w.mem email nickname password), success', ?_,
          Table.fresh_not_mem _ _, rfl, rfl⟩, fun taken => absurd ?_ taken⟩
        · have rows : (Tables.insertUser (newUser w.mem email nickname password) w.tables).users.rows =
              w.tables.users.rows ++ [w.tables.users.fresh (newUser w.mem email nickname password)] :=
            Table.rows_insert_free free
          rw [emailFound_eq, tables, rows, List.find?_append, List.find?_eq_none.mpr found]
          simp [Table.fresh, Row.withId, newUser]
        · rw [emailFound_eq, List.find?_eq_none]
          exact found

end Creation

/-! ### The three handlers -/

section Users
variable {w : World} {conn : ConnId} {seq : UInt32} {email nickname password : Bytes} {body : Json}

private theorem registerAnswer_code {o : Outcome World Event Unit} {e e' : Error} {uid uid' : Bytes}
    (answer : RegisterAnswer conn seq e uid o) (answer' : RegisterAnswer conn seq e' uid' o) : e.code = e'.code := by
  unfold RegisterAnswer at answer answer'
  rw [answer] at answer'
  simp only [registerPacket, List.cons.injEq, Event.sent.injEq, Packet.mk.injEq, Body.registerAck.injEq,
    RegisterAck.mk.injEq] at answer'
  exact answer'.1.2.2.2.2.1

/-- A registration that the limiter turns away has an answer of its own. -/
private theorem handleRegister_limited (named : emailToLower (trim email) ≠ [])
    (denied : (w.mem.registerLimiter.allow (emailToLower (trim email)) w.mem.steady).1 = false) :
    RegisterAnswer conn seq errc.user.kRateLimited [] ((handleRegister conn seq (some ⟨email, nickname, password⟩)).run w) := by
  have filled : (emailToLower (trim email)).isEmpty = false :=
    Bool.eq_false_iff.mpr fun empty => named (List.isEmpty_iff.mp empty)
  simp [handleRegister, registerAllow, filled, denied, RegisterAnswer, sendRegisterAck, sendPacket, send, registerPacket]

private theorem handleRegister_known
    (allowed : (w.mem.registerLimiter.allow (emailToLower (trim email)) w.mem.steady).1 = true)
    (addressed : emailError (emailToLower (trim email)) = none) (known : emailKnown w (emailToLower (trim email)) = true) :
    (handleRegister conn seq (some ⟨email, nickname, password⟩)).Ensures w fun o =>
      RegisterAnswer conn seq errc.user.kEmailAlreadyExists [] o ∧ o.state.tables = w.tables := by
  unfold handleRegister
  dsimp only
  generalize emailToLower (trim email) = address at allowed addressed known ⊢
  refine ensures_registerAllow (fun _ => allowed) fun limiter => ?_
  simp only [Bool.not_true, Bool.false_eq_true, if_false, addressed]
  have lookup := lookup_eq w address
  refine ensures_answer (Prog.ensures_ite (fun _ => ?_) fun unknown => absurd (lookup.trans known) unknown)
  refine Prog.ensures_bind ?_
  simp only [recordRegister, Prog.Ensures, run_modify, List.nil_append]
  exact @ensures_sendRegisterAck _ conn seq _ (fun o => RegisterAnswer conn seq errc.user.kEmailAlreadyExists [] o ∧
    o.state.tables = w.tables) ⟨rfl, rfl⟩

private theorem handleCreateUser_known (given : UserFields body email nickname password)
    (addressed : emailError (emailToLower (trim email)) = none) (fields : registerError (trim nickname) password = none)
    (known : emailKnown w (emailToLower (trim email)) = true) :
    (AdminServer.handleCreateUser true (some body)).Ensures w fun o =>
      o.value = .error apiErr.kEmailAlreadyExists ∧ o.state.tables = w.tables := by
  have checked : AdminServer.createUserError (emailToLower (trim email)) (trim nickname) password = none :=
    createUserError_eq_none.mpr ⟨addressed, fields⟩
  have lookup := lookup_eq w (emailToLower (trim email))
  refine handleCreateUser_checked given checked ?_
  refine ensures_answer (Prog.ensures_ite (fun _ => ?_) fun unknown => absurd (lookup.trans known) unknown)
  exact ensures_error ⟨rfl, rfl⟩

/-- A registration ends as it should. -/
def RegistersIfFree (w : World) (conn : ConnId) (seq : UInt32) (email nickname password : Bytes) : Prop :=
  CreatesIfFree w (emailToLower (trim email)) (trim nickname) password (RegisterAnswer conn seq errc.kOk)
    (RegisterAnswer conn seq errc.user.kEmailAlreadyExists [])
    ((handleRegister conn seq (some ⟨email, nickname, password⟩)).run w)

/-- The creation of a user by an administrator ends as it should. -/
def CreatesUserIfFree (w : World) (body : Json) (email nickname password : Bytes) : Prop :=
  CreatesIfFree w (emailToLower (trim email)) (trim nickname) password
    (fun uid o => o.value = .created uid (emailToLower (trim email)))
    (fun o => o.value = .error apiErr.kEmailAlreadyExists) ((AdminServer.handleCreateUser true (some body)).run w)

theorem registersIfFree_iff (sound : w.faults = []) (ids : UidsIssued w)
    (addressed : emailError (emailToLower (trim email)) = none) (fields : registerError (trim nickname) password = none) :
    RegistersIfFree w conn seq email nickname password ↔
      EmailClear w (emailToLower (trim email)) password ∧
        (w.mem.registerLimiter.allow (emailToLower (trim email)) w.mem.steady).1 = true := by
  cases allowed : (w.mem.registerLimiter.allow (emailToLower (trim email)) w.mem.steady).1 with
  | false =>
    have named : emailToLower (trim email) ≠ [] := fun empty => by
      rw [empty] at addressed
      exact absurd addressed (by decide)
    have limited := @handleRegister_limited w conn seq email nickname password named allowed
    refine iff_of_false (fun registers => ?_) fun both => by cases both.2
    by_cases free : emailFound w.tables (emailToLower (trim email)) = none
    · obtain ⟨user, success, -⟩ := registers.free free
      exact absurd (registerAnswer_code limited success) (by decide)
    · exact absurd (registerAnswer_code limited (registers.taken free).1) (by decide)
  | true =>
    have attempt := @handleRegister_attempt w conn seq email nickname password fun _ => allowed
    have apart : ∀ uid o, RegisterRefusal conn seq o → ¬RegisterAnswer conn seq errc.kOk uid o := by
      rintro uid o ⟨e, error, answer⟩ success
      exact error (registerAnswer_code answer success)
    simp only [and_true]
    exact createsIfFree_iff sound ids addressed fields attempt (fun uid => apart uid _)
      (handleRegister_known allowed addressed)

theorem createsUserIfFree_iff (sound : w.faults = []) (ids : UidsIssued w)
    (given : UserFields body email nickname password) (addressed : emailError (emailToLower (trim email)) = none)
    (fields : registerError (trim nickname) password = none) :
    CreatesUserIfFree w body email nickname password ↔ EmailClear w (emailToLower (trim email)) password := by
  have apart : ∀ uid (o : Outcome World Event CreateUserReply), CreateRefusal o →
      ¬o.value = .created uid (emailToLower (trim email)) := by
    rintro uid o ⟨e, refused⟩ success
    rw [refused] at success
    cases success
  exact createsIfFree_iff sound ids addressed fields (handleCreateUser_attempt given) (fun uid => apart uid _)
    (handleCreateUser_known given addressed fields)

end Users

section Admins
variable {c : AdminConfig} {s : AdminState} {who : Identity} {body : Json} {uid nickname password : Bytes}

/-- A body has these three fields. -/
structure AdminFields (body : Json) (uid nickname password : Bytes) : Prop where
  uid : body.field (ascii "uid") = some (.string uid)
  nickname : body.field (ascii "nickname") = some (.string nickname)
  password : body.field (ascii "password") = some (.string password)

/-- The creation of an administrator ends as it should. -/
structure CreatesAdminIfFree (c : AdminConfig) (s : AdminState) (who : Identity) (body : Json)
    (uid nickname password : Bytes) : Prop where
  free : AdminAccountDao.findByUid uid s.tables = none → ∃ admin,
    (AdminHandlers.handleCreateAdmin c s who (some body)).2 = .ok (.id admin.id) ∧
    AdminAccountDao.findByUid uid (AdminHandlers.handleCreateAdmin c s who (some body)).1.tables = some admin ∧
    admin ∉ s.tables.admins.rows ∧ admin.nickname = (if nickname.isEmpty then uid else nickname) ∧
      admin.passwordHash = c.hash password
  taken : AdminAccountDao.findByUid uid s.tables ≠ none →
    (AdminHandlers.handleCreateAdmin c s who (some body)).2 = .error apiErr.kUidAlreadyExists ∧
    (AdminHandlers.handleCreateAdmin c s who (some body)).1.tables = s.tables

/-- No deleted administrator has the uid. -/
def UidClear (t : AdminTables) (uid : Bytes) : Prop := ∀ a ∈ t.admins.rows, a.uid = uid → a.status ≠ .deleted

/-- The administrator that `HandleCreateAdmin` stores. -/
def newAdmin (c : AdminConfig) (uid nickname password : Bytes) : Admin where
  uid := uid
  passwordHash := c.hash password
  nickname := if nickname.isEmpty then uid else nickname

private theorem taken_newAdmin {t : AdminTables} :
    t.admins.taken (newAdmin c uid nickname password) = true ↔ ∃ a ∈ t.admins.rows, a.uid = uid := by
  have clash : ∀ a : Admin, Row.clash (newAdmin c uid nickname password) a = true ↔ uid = a.uid := fun a =>
    decide_eq_true_iff
  simp only [Table.taken_iff, clash, @eq_comm _ uid]

/-- With well formed fields it comes down to the lookup and the INSERT. -/
private theorem handleCreateAdmin_cases (manages : who.hasPermission AdminHandlers.kManage = true)
    (given : AdminFields body uid nickname password) (named : trim uid ≠ []) (long : 6 ≤ password.length) :
    AdminHandlers.handleCreateAdmin c s who (some body) =
      if (AdminAccountDao.findByUid (trim uid) s.tables).isSome then (s, .error apiErr.kUidAlreadyExists)
      else if s.tables.admins.taken (newAdmin c (trim uid) (trim nickname) password) then (s, .error apiErr.kDatabaseError)
      else ({ s with tables := (AdminAccountDao.insert (newAdmin c (trim uid) (trim nickname) password) s.tables).2 },
        .ok (.id (s.tables.admins.lastId + 1))) := by
  have values : body.value (ascii "uid") [] = some uid ∧ body.value (ascii "password") [] = some password ∧
      body.value (ascii "nickname") [] = some nickname := by
    simp [Json.value, given.uid, given.password, given.nickname]
  have filled : ¬((trim uid).isEmpty = true ∨ password.length < 6) := by
    rintro (blank | short)
    · exact named (List.isEmpty_iff.mp blank)
    · omega
  simp only [AdminHandlers.handleCreateAdmin, manages, Bool.not_true, Bool.false_eq_true, if_false, given.uid,
    given.password, Option.isNone_some, or_self, values.1, values.2.1, values.2.2, filled]
  split
  · rfl
  have row : newAdmin c (trim uid) (trim nickname) password =
    { uid := trim uid, passwordHash := c.hash password,
      nickname := if (trim nickname).isEmpty then trim uid else trim nickname } := rfl
  rw [← row]
  cases taken : s.tables.admins.taken (newAdmin c (trim uid) (trim nickname) password) with
  | true => simp [AdminAccountDao.insert, Table.insertId_eq_zero.mpr taken, Table.insert_taken taken]
  | false =>
    have positive : ((s.tables.admins.lastId : Int) + 1) ≠ 0 := by omega
    simp [AdminAccountDao.insert, Table.insertId_free taken, positive]

theorem createsAdminIfFree_iff (manages : who.hasPermission AdminHandlers.kManage = true)
    (given : AdminFields body uid nickname password) (named : trim uid ≠ []) (long : 6 ≤ password.length) :
    CreatesAdminIfFree c s who body (trim uid) (trim nickname) password ↔ UidClear s.tables (trim uid) := by
  have served := @handleCreateAdmin_cases c s who body uid nickname password manages given named long
  generalize trim uid = uid' at served ⊢
  generalize trim nickname = nickname' at served ⊢
  cases found : AdminAccountDao.findByUid uid' s.tables with
  | some admin =>
    have inside := List.mem_of_find?_eq_some found
    have live := List.find?_some found
    simp only [Bool.and_eq_true, decide_eq_true_eq] at live
    rw [found, Option.isSome_some, if_pos rfl] at served
    refine iff_of_true ⟨fun free => ?_, fun _ => ?_⟩ fun a there same => ?_
    · rw [found] at free
      cases free
    · rw [served]
      exact ⟨rfl, rfl⟩
    · have : a = admin := Table.eq_of_clash there inside (by simp [Row.clash, same, live.1])
      exact this ▸ live.2
  | none =>
    rw [found, Option.isSome_none, if_neg (by decide)] at served
    have none_ := List.find?_eq_none.mp found
    cases taken : s.tables.admins.taken (newAdmin c uid' nickname' password) with
    | true =>
      rw [taken, if_pos rfl] at served
      obtain ⟨a, inside, same⟩ := taken_newAdmin.mp taken
      refine iff_of_false (fun creates => ?_) fun clear => ?_
      · obtain ⟨admin, replied, -⟩ := creates.free found
        rw [served] at replied
        cases replied
      · have gone := none_ a inside
        simp only [same, decide_true, Bool.true_and, decide_eq_true_eq, ne_eq, not_not] at gone
        exact clear a inside same gone
    | false =>
      rw [taken, if_neg (by decide)] at served
      have unheld : ∀ a ∈ s.tables.admins.rows, a.uid ≠ uid' := fun a inside same => by
        rw [taken_newAdmin.mpr ⟨a, inside, same⟩] at taken
        cases taken
      refine iff_of_true ⟨fun _ => ?_, fun known => absurd found known⟩ fun a inside same => absurd same (unheld a inside)
      refine ⟨s.tables.admins.fresh (newAdmin c uid' nickname' password), ?_, ?_, Table.fresh_not_mem _ _, rfl, rfl⟩
      · rw [served]
        rfl
      · rw [served]
        have rows : (s.tables.admins.insert (newAdmin c uid' nickname' password)).rows =
            s.tables.admins.rows ++ [s.tables.admins.fresh (newAdmin c uid' nickname' password)] :=
          Table.rows_insert_free taken
        simp only [AdminAccountDao.findByUid, AdminAccountDao.insert, rows, List.find?_append, List.find?_eq_none.mpr none_]
        simp [Table.fresh, Row.withId, newAdmin]

end Admins

/-! ### Every history -/

/-- In every state that a history of registrations, creations and deletions leads to, the three ways to create an
    account with well formed fields end as they should exactly if no deleted row has the email or the uid,
    the password can be hashed, and, for a registration, the limiter lets the email through. -/
theorem created_iff_clear (w₀ : World) (new : w₀.tables.users.rows = []) (distinct : Function.Injective w₀.mem.snowflake)
    (calls : List (List Bool × AccountEvent)) (w : World)
    (reached : w = { after AccountEvent.step w₀ calls with faults := [] }) :
    (∀ conn seq email nickname password, emailError (emailToLower (trim email)) = none →
      registerError (trim nickname) password = none →
        (RegistersIfFree w conn seq email nickname password ↔ EmailClear w (emailToLower (trim email)) password ∧
          (w.mem.registerLimiter.allow (emailToLower (trim email)) w.mem.steady).1 = true)) ∧
    (∀ body email nickname password, UserFields body email nickname password →
      emailError (emailToLower (trim email)) = none → registerError (trim nickname) password = none →
        (CreatesUserIfFree w body email nickname password ↔ EmailClear w (emailToLower (trim email)) password)) ∧
    ∀ (c : AdminConfig) (s : AdminState) (who : Identity) body uid nickname password,
      who.hasPermission AdminHandlers.kManage = true → AdminFields body uid nickname password → trim uid ≠ [] →
        6 ≤ password.length →
          (CreatesAdminIfFree c s who body (trim uid) (trim nickname) password ↔ UidClear s.tables (trim uid)) := by
  have start : UidsIssued w₀ := ⟨distinct, fun r inside => by rw [new] at inside; cases inside⟩
  have ids : UidsIssued w := by
    have last : UidsIssued (after AccountEvent.step w₀ calls) :=
      @after_invariant_always _ _ AccountEvent.step UidsIssued (fun w call ids => ids.step call) w₀ start calls
    rw [reached]
    exact ⟨last.distinct, last.issued⟩
  have sound : w.faults = [] := by rw [reached]
  refine ⟨fun conn seq email nickname password addressed fields => ?_, fun body email nickname password given addressed fields => ?_,
    fun c s who body uid nickname password manages given named long => ?_⟩
  · exact registersIfFree_iff sound ids addressed fields
  · exact createsUserIfFree_iff sound ids given addressed fields
  · exact createsAdminIfFree_iff manages given named long

/-- A server with an empty database that hands out 1, 11, 111, … as uids. -/
def unaryServer : World where
  tables := {}
  mem := { config := { passwordHash := fun password => password }, snowflake := fun n => List.replicate (n + 1) 49 }

theorem unary_distinct : Function.Injective unaryServer.mem.snowflake := by
  intro m n same
  have := congrArg List.length same
  simpa [unaryServer] using this

/-- A user registers and is deleted. -/
def leftEmail : List (List Bool × AccountEvent) :=
  [([], .register 1 7 (some ⟨ascii "ada@x.org", ascii "Ada", ascii "secret"⟩)), ([], .deleteUser true [49])]

/-- A config of the admin server that stores passwords as they are. -/
private def bareConfig : AdminConfig where
  encode _ _ _ := []
  decode _ := none
  sha256Hex := id
  hash := id
  verify password hash := password = hash
  jwtExpires := 1000

/-- An admin `bob` has been deleted. -/
private def leftUid : AdminState where
  tables := { admins := (∅ : Table Admin).insert { uid := ascii "bob", passwordHash := [1], nickname := [], status := .deleted } }
  loginLimiter := { maxAttempts := 5, window := 60000000000 }

private def adminBody (uid : Bytes) : Json :=
  .object [(ascii "uid", .string uid), (ascii "nickname", .string []), (ascii "password", .string (ascii "secret"))]

/-- After a user has registered and left, another email and another uid are free, and those of the
    rows that were deleted are not. -/
theorem created_iff_clear_left :
    let w : World := { after AccountEvent.step unaryServer leftEmail with faults := [] }
    RegistersIfFree w 1 8 (ascii "eve@x.org") (ascii "Eve") (ascii "secret") ∧
      ¬RegistersIfFree w 1 8 (ascii "ada@x.org") (ascii "Eve") (ascii "secret") ∧
      CreatesUserIfFree w (userBody (ascii "eve@x.org") (ascii "Eve") (ascii "secret")) (ascii "eve@x.org")
        (ascii "Eve") (ascii "secret") ∧
      CreatesAdminIfFree bareConfig leftUid { permissions := AdminHandlers.kManage } (adminBody (ascii "eve")) (ascii "eve") []
        (ascii "secret") ∧
      ¬CreatesAdminIfFree bareConfig leftUid { permissions := AdminHandlers.kManage } (adminBody (ascii "bob")) (ascii "bob") []
        (ascii "secret") := by
  intro w
  obtain ⟨registers, creates, admits⟩ := created_iff_clear unaryServer rfl unary_distinct leftEmail w rfl
  have clear : EmailClear w (emailToLower (trim (ascii "eve@x.org"))) (ascii "secret") := ⟨by decide, fun _ => by decide⟩
  have left : ¬∀ r ∈ w.tables.users.rows, r.email = emailToLower (trim (ascii "ada@x.org")) → r.status ≠ .deleted := by decide
  have manages : ({ permissions := AdminHandlers.kManage } : Identity).hasPermission AdminHandlers.kManage = true := by decide
  have admin := fun uid => admits bareConfig leftUid { permissions := AdminHandlers.kManage } (adminBody uid) uid []
    (ascii "secret") manages ⟨rfl, rfl, rfl⟩
  refine ⟨(registers 1 8 _ _ _ (by decide) (by decide)).mpr ⟨clear, by decide⟩, fun registered => ?_,
    (creates _ _ _ _ fields_userBody (by decide) (by decide)).mpr clear, ?_, fun created => ?_⟩
  · exact left ((registers 1 8 _ _ _ (by decide) (by decide)).mp registered).1.undeleted
  · exact (admin (ascii "eve") (by decide) (by decide)).mpr (by unfold UidClear; decide)
  · have clear := (admin (ascii "bob") (by decide) (by decide)).mp created
    revert clear
    unfold UidClear
    decide

/-- Its email is found to be free, but cannot be registered again. -/
theorem left_email_blocked :
    ¬∀ (w₀ : World), w₀.tables.users.rows = [] → Function.Injective w₀.mem.snowflake →
      ∀ calls w, w = { after AccountEvent.step w₀ calls with faults := [] } →
        (∀ conn seq email nickname password, emailError (emailToLower (trim email)) = none →
          registerError (trim nickname) password = none → RegistersIfFree w conn seq email nickname password) ∧
        (∀ body email nickname password, UserFields body email nickname password →
          emailError (emailToLower (trim email)) = none → registerError (trim nickname) password = none →
            CreatesUserIfFree w body email nickname password) ∧
        ∀ (c : AdminConfig) (s : AdminState) (who : Identity) body uid nickname password,
          who.hasPermission AdminHandlers.kManage = true → AdminFields body uid nickname password → trim uid ≠ [] →
            6 ≤ password.length → CreatesAdminIfFree c s who body (trim uid) (trim nickname) password := by
  intro always
  obtain ⟨registers, -, -⟩ := always unaryServer rfl unary_distinct leftEmail _ rfl
  have free : emailFound (after AccountEvent.step unaryServer leftEmail).tables (ascii "ada@x.org") = none := by decide
  obtain ⟨user, success, -⟩ := (registers 1 8 (ascii "ada@x.org") (ascii "Eve") (ascii "secret") (by decide) (by decide)).free free
  have refused : replies 1 .registerAck ((handleRegister 1 8 (some ⟨ascii "ada@x.org", ascii "Eve", ascii "secret"⟩)).run
      { after AccountEvent.step unaryServer leftEmail with faults := [] }).events = [1016] := by
    decide
  have answered := (registered_answer success).mpr rfl
  unfold UserRegistered at answered
  rw [refused] at answered
  cases answered

end NovaIIM
