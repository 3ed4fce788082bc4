import NovaIIM.AccountCreation
import NovaIIM.Replies

/-!
The two ways to create a user agree.

Either handler makes one attempt to store the new user (`CreationAttempt`). The fields that it takes
(`createUserError_eq_none`) and the statements it makes are the same, in another order, so
that both attempts succeed under the same condition (`Storable`).
-/
namespace NovaIIM
open Store UserService

/-- The user that the next account becomes. -/
def newUser (m : Server) (email nickname password : Bytes) : User where
  uid := m.snowflake m.issued
  email := email
  passwordHash := m.config.passwordHash password
  nickname := nickname

/-- What the next lookup of an email answers. -/
def emailKnown (w : World) (email : Bytes) : Bool :=
  !w.fails && (w.tables.users.rows.find? fun r => r.email = email && r.status ≠ .deleted).isSome

/-- An account with these fields, normalised, is stored: the fields are well formed, the email is
    not found, and the INSERT behind the lookup is executed and breaks no unique index. -/
structure Storable (w : World) (email nickname password : Bytes) : Prop where
  addressed : emailError email = none
  fields : registerError nickname password = none
  unknown : emailKnown w email = false
  hashed : w.mem.config.passwordHash password ≠ []
  works : w.spend.fails = false
  free : w.tables.users.taken (newUser w.mem email nickname password) = false

/-- An attempt ends with the user in the tables and one answer, or with the tables as they were
    and another. -/
structure CreationAttempt {α : Type} (w : World) (user : User) (admitted : Prop) (success failure : Outcome World Event α → Prop)
    (o : Outcome World Event α) : Prop where
  stored : admitted → success o ∧ o.state.tables = Tables.insertUser user w.tables
  refused : ¬admitted → failure o ∧ o.state.tables = w.tables

def registerPacket (seq : UInt32) (e : Error) (uid : Bytes) : Packet :=
  { cmd := .registerAck, seq := seq, uid := 0, body := .registerAck { code := e.code, msg := e.msg, uid := uid } }

/-- The one answer is a code, and the uid with an OK. -/
def RegisterAnswer (conn : ConnId) (seq : UInt32) (e : Error) (uid : Bytes) (o : Outcome World Event Unit) : Prop :=
  o.events = [.sent conn (registerPacket seq e uid)]

/-- The one answer is an error. -/
def RegisterRefusal (conn : ConnId) (seq : UInt32) (o : Outcome World Event Unit) : Prop :=
  ∃ e : Error, e.code ≠ 0 ∧ RegisterAnswer conn seq e [] o

/-- The reply of an administrator's request is an error. -/
def CreateRefusal (o : Outcome World Event CreateUserReply) : Prop := ∃ e, o.value = .error e

variable {w : World} {conn : ConnId} {seq : UInt32} {email nickname password : Bytes}

/-- The answer of `FindByEmail`, where nobody is found when it fails. -/
theorem lookup_eq (w : World) (email : Bytes) :
    (if w.fails then none else w.tables.users.rows.find? fun r => r.email = email && r.status ≠ .deleted).isSome =
      emailKnown w email := by
  unfold emailKnown
  cases w.fails <;> rfl

/-! ### The INSERT -/

section Insert
variable {α : Type} {user : User} {post : Outcome World Event α → Prop}

theorem ensures_nextIdStr {f : Bytes → Action α}
    (rest : (f (w.mem.snowflake w.mem.issued)).Ensures { w with mem := { w.mem with issued := w.mem.issued + 1 } } post) :
    (nextIdStr >>= f).Ensures w post := by
  simpa [Prog.Ensures, nextIdStr] using rest

/-- It stores the user unless it fails or breaks a unique index. -/
theorem ensures_insertUser {f : Option Int → Action α}
    (stored : w.fails = false → w.tables.users.taken user = false → ∀ id,
      (f (some id)).Ensures (w.wrote (Tables.insertUser user w.tables)) post)
    (refused : ¬(w.fails = false ∧ w.tables.users.taken user = false) → ∀ w' : World, w'.tables = w.tables →
      (f none).Ensures w' post) : (UserDao.insert user >>= f).Ensures w post := by
  unfold UserDao.insert insertReturningId
  refine ensures_statement rfl (fun fault => ?_) fun works => ?_
  · exact refused (by simp [fault]) w.spend rfl
  · cases taken : w.tables.users.taken user with
    | true =>
      rw [if_pos (Table.insertId_eq_zero.mpr taken)]
      refine refused (fun both => by simp [taken] at both) _ ?_
      rw [wrote_tables, Tables.insertUser, Table.insert_taken taken]
    | false =>
      rw [if_neg fun zero => by simp [Table.insertId_eq_zero.mp zero] at taken]
      exact stored works taken _

end Insert

/-! ### The user service -/

theorem emailError_code {e : Error} (wrong : emailError email = some e) : e.code ≠ 0 := by
  unfold emailError at wrong
  grind [errc.user.kEmailRequired, errc.user.kEmailTooLong, errc.user.kEmailInvalid]

theorem registerError_code {e : Error} (wrong : registerError nickname password = some e) : e.code ≠ 0 := by
  unfold registerError at wrong
  grind [errc.user.kNicknameRequired, errc.user.kNicknameTooLong, errc.user.kNicknameInvalid,
    errc.user.kPasswordTooShort, errc.user.kPasswordTooLong]

theorem ensures_sendRegisterAck {e : Error} {post : Outcome World Event Unit → Prop}
    (holds : post ⟨(), w, [.sent conn (registerPacket seq e [])]⟩) : (sendRegisterAck conn seq e).Ensures w post := by
  simpa [Prog.Ensures, sendRegisterAck, sendPacket, send, registerPacket] using holds

private theorem registerChecked_attempt :
    (registerChecked conn seq email nickname password).Ensures w
      (CreationAttempt w (newUser w.mem email nickname password)
        (w.mem.config.passwordHash password ≠ [] ∧ w.fails = false ∧
          w.tables.users.taken (newUser w.mem email nickname password) = false)
        (RegisterAnswer conn seq errc.kOk (w.mem.snowflake w.mem.issued)) (RegisterRefusal conn seq)) := by
  unfold registerChecked
  refine ensures_peek ?_
  refine Prog.ensures_ite (fun empty => ?_) fun hashed => ?_
  · refine ensures_sendRegisterAck ⟨fun admitted => ?_, fun _ => ⟨⟨_, by decide, rfl⟩, rfl⟩⟩
    exact absurd (List.isEmpty_iff.mp empty) admitted.1
  have hashed' : w.mem.config.passwordHash password ≠ [] := fun empty => hashed (List.isEmpty_iff.mpr empty)
  refine ensures_nextIdStr (ensures_insertUser (fun works free id => ?_) fun refused w' tables => ?_)
  · refine ⟨fun _ => ⟨?_, rfl⟩, fun missed => absurd ⟨hashed', works, free⟩ missed⟩
    rfl
  · have missed : ¬(w.mem.config.passwordHash password ≠ [] ∧ w.fails = false ∧
        w.tables.users.taken (newUser w.mem email nickname password) = false) := fun admitted => refused admitted.2
    refine ensures_any fun known => Prog.ensures_ite (fun _ => ?_) fun _ => ?_
    · exact ensures_sendRegisterAck ⟨fun admitted => absurd admitted missed, fun _ => ⟨⟨_, by decide, rfl⟩, tables⟩⟩
    · exact ensures_sendRegisterAck ⟨fun admitted => absurd admitted missed, fun _ => ⟨⟨_, by decide, rfl⟩, tables⟩⟩

/-- The limiter answers yes, and nothing else in the memory changes. -/
theorem ensures_registerAllow {f : Bool → Handler} {post : Outcome World Event Unit → Prop}
    (allowed : email ≠ [] → (w.mem.registerLimiter.allow email w.mem.steady).1 = true)
    (rest : ∀ limiter, (f true).Ensures { w with mem := { w.mem with registerLimiter := limiter } } post) :
    ((if email.isEmpty then pure true else registerAllow email) >>= f).Ensures w post := by
  split
  · exact rest w.mem.registerLimiter
  · rename_i named
    have yes := allowed fun empty => named (List.isEmpty_iff.mpr empty)
    simpa [Prog.Ensures, registerAllow, yes] using rest _

/-- A registration that the limiter lets through. -/
theorem handleRegister_attempt (allowed : emailToLower (trim email) ≠ [] →
      (w.mem.registerLimiter.allow (emailToLower (trim email)) w.mem.steady).1 = true) :
    (handleRegister conn seq (some ⟨email, nickname, password⟩)).Ensures w
      (CreationAttempt w (newUser w.mem (emailToLower (trim email)) (trim nickname) password)
        (Storable w (emailToLower (trim email)) (trim nickname) password)
        (RegisterAnswer conn seq errc.kOk (w.mem.snowflake w.mem.issued)) (RegisterRefusal conn seq)) := by
  unfold handleRegister
  dsimp only
  generalize emailToLower (trim email) = address at allowed ⊢
  generalize trim nickname = name
  have refusal : ∀ {w' : World} {e : Error}, w'.tables = w.tables → e.code ≠ 0 → ¬Storable w address name password →
      (sendRegisterAck conn seq e).Ensures w' (CreationAttempt w (newUser w.mem address name password)
        (Storable w address name password) (RegisterAnswer conn seq errc.kOk (w.mem.snowflake w.mem.issued))
        (RegisterRefusal conn seq)) := by
    intro w' e tables error missed
    exact ensures_sendRegisterAck ⟨fun admitted => absurd admitted missed, fun _ => ⟨⟨e, error, rfl⟩, tables⟩⟩
  refine ensures_registerAllow allowed fun limiter => ?_
  simp only [Bool.not_true, Bool.false_eq_true, if_false]
  cases addressed : emailError address with
  | some e => exact refusal rfl (emailError_code addressed) fun admitted => by simp [admitted.addressed] at addressed
  | none =>
  dsimp only
  have lookup := lookup_eq w address
  refine ensures_answer (Prog.ensures_ite (fun known => ?_) fun unknown => ?_)
  · have missed : ¬Storable w address name password := fun admitted => by
      have found : emailKnown w address = true := lookup.symm.trans known
      simp [admitted.unknown] at found
    refine Prog.ensures_bind ?_
    simp only [recordRegister, Prog.Ensures, run_modify, List.nil_append]
    exact refusal rfl (by decide) missed
  · cases fields : registerError name password with
    | some e => exact refusal rfl (registerError_code fields) fun admitted => by simp [admitted.fields] at fields
    | none =>
      have unknown' : emailKnown w address = false := lookup.symm.trans (Bool.eq_false_iff.mpr unknown)
      refine Prog.ensures_mono registerChecked_attempt fun o attempt => ⟨fun admitted => ?_, fun missed => ?_⟩
      · exact attempt.stored ⟨admitted.hashed, admitted.works, admitted.free⟩
      · refine attempt.refused fun stored => missed ?_
        exact ⟨addressed, fields, unknown', stored.1, stored.2.1, stored.2.2⟩

/-! ### The admin server -/

/-- A body has these three fields. -/
structure UserFields (body : Json) (email nickname password : Bytes) : Prop where
  email : body.field (ascii "email") = some (.string email)
  nickname : body.field (ascii "nickname") = some (.string nickname)
  password : body.field (ascii "password") = some (.string password)

/-- The fields pass the checks of the one handler if they pass those of the other. -/
theorem createUserError_eq_none :
    AdminServer.createUserError email nickname password = none ↔
      emailError email = none ∧ registerError nickname password = none := by
  have empty : email.isEmpty = true → isValidEmail email = false := by
    intro empty
    rw [List.isEmpty_iff.mp empty]
    rfl
  have same : (nickname.any fun c => c < 0x20 || c = 0x7F) = containsControlChars nickname := rfl
  unfold AdminServer.createUserError emailError registerError
  rw [AdminServer.isValidEmail_eq, same]
  cases blank : email.isEmpty with
  | true =>
    rw [empty blank]
    grind
  | false => grind

theorem ensures_error {e : ApiReply} {post : Outcome World Event CreateUserReply → Prop}
    (holds : post ⟨.error e, w, []⟩) : (pure (.error e) : Action CreateUserReply).Ensures w post := holds

private theorem writeAuditLog_tables (w : World) : (AdminServer.writeAuditLog.run w).state.tables = w.tables := by
  cases fault : w.fails <;> simp [AdminServer.writeAuditLog, execute, fault]

private theorem createChecked_attempt :
    (AdminServer.createChecked email nickname password).Ensures w
      (CreationAttempt w (newUser w.mem email nickname password)
        (emailKnown w email = false ∧ w.mem.config.passwordHash password ≠ [] ∧ w.spend.fails = false ∧
          w.tables.users.taken (newUser w.mem email nickname password) = false)
        (fun o => o.value = .created (w.mem.snowflake w.mem.issued) email) CreateRefusal) := by
  unfold AdminServer.createChecked
  have lookup := lookup_eq w email
  refine ensures_answer (Prog.ensures_ite (fun known => ?_) fun unknown => ?_)
  · refine ensures_error ⟨fun admitted => ?_, fun _ => ⟨⟨_, rfl⟩, rfl⟩⟩
    have found := lookup.symm.trans known
    simp [admitted.1] at found
  have unknown' : emailKnown w email = false := lookup.symm.trans (Bool.eq_false_iff.mpr unknown)
  refine ensures_peek (Prog.ensures_ite (fun empty => ?_) fun hashed => ?_)
  · refine ensures_error ⟨fun admitted => ?_, fun _ => ⟨⟨_, rfl⟩, rfl⟩⟩
    exact absurd (List.isEmpty_iff.mp empty) admitted.2.1
  have hashed' : w.mem.config.passwordHash password ≠ [] := fun empty => hashed (List.isEmpty_iff.mpr empty)
  refine ensures_nextIdStr (ensures_insertUser (fun works free id => ?_) fun refused w' tables => ?_)
  · refine Prog.ensures_bind ⟨fun _ => ⟨rfl, writeAuditLog_tables _⟩, fun missed => ?_⟩
    exact absurd ⟨unknown', hashed', works, free⟩ missed
  · have missed : ¬(emailKnown w email = false ∧ w.mem.config.passwordHash password ≠ [] ∧ w.spend.fails = false ∧
        w.tables.users.taken (newUser w.mem email nickname password) = false) := fun admitted => refused admitted.2.2
    refine ensures_any fun known => ?_
    have refusal : ∀ e, CreationAttempt w (newUser w.mem email nickname password)
        (emailKnown w email = false ∧ w.mem.config.passwordHash password ≠ [] ∧ w.spend.fails = false ∧
          w.tables.users.taken (newUser w.mem email nickname password) = false)
        (fun o => o.value = .created (w.mem.snowflake w.mem.issued) email) CreateRefusal ⟨.error e, w'.spend, []⟩ :=
      fun e => ⟨fun admitted => absurd admitted missed, fun _ => ⟨⟨e, rfl⟩, tables⟩⟩
    split
    · exact ensures_error (refusal _)
    · exact ensures_error (refusal _)

/-- What the handler does with a body that has the fields. -/
private theorem handleCreateUser_eq {body : Json} (given : UserFields body email nickname password) :
    AdminServer.handleCreateUser true (some body) =
      if email.isEmpty ∨ password.isEmpty then return .error apiErr.kEmailPasswordEmpty
      else (AdminServer.createUserError (emailToLower (trim email)) (trim nickname) password).elim
        (AdminServer.createChecked (emailToLower (trim email)) (trim nickname) password) fun e => return .error e := by
  have named : body.value (ascii "nickname") email = some nickname := by simp [Json.value, given.nickname]
  have lower : AdminServer.emailToLower (trim email) = emailToLower (trim email) := rfl
  simp only [AdminServer.handleCreateUser, Bool.not_true, Bool.false_eq_true, if_false, given.email, given.password,
    Option.isNone_some, or_self, Option.bind_some, Json.string?, named, AdminServer.trimInPlace_eq, lower]
  cases AdminServer.createUserError (emailToLower (trim email)) (trim nickname) password <;> rfl

/-- Fields that do not pass the checks are turned away at once. -/
private theorem handleCreateUser_refused {body : Json} (given : UserFields body email nickname password) {e : ApiReply}
    (checked : AdminServer.createUserError (emailToLower (trim email)) (trim nickname) password = some e) :
    ∃ e', AdminServer.handleCreateUser true (some body) = pure (.error e') := by
  rw [handleCreateUser_eq given, checked]
  split
  · exact ⟨_, rfl⟩
  · exact ⟨_, rfl⟩

/-- A body whose fields pass the checks gets to the lookup. -/
theorem handleCreateUser_checked {body : Json} {post : Outcome World Event CreateUserReply → Prop}
    (given : UserFields body email nickname password)
    (checked : AdminServer.createUserError (emailToLower (trim email)) (trim nickname) password = none)
    (rest : (AdminServer.createChecked (emailToLower (trim email)) (trim nickname) password).Ensures w post) :
    (AdminServer.handleCreateUser true (some body)).Ensures w post := by
  obtain ⟨addressed, fields⟩ := createUserError_eq_none.mp checked
  have filled : ¬(email.isEmpty = true ∨ password.isEmpty = true) := by
    rintro (blank | blank)
    · rw [List.isEmpty_iff.mp blank] at addressed
      exact absurd addressed (by decide)
    · rw [List.isEmpty_iff.mp blank] at fields
      unfold registerError at fields
      grind
  rw [handleCreateUser_eq given, if_neg filled, checked]
  exact rest

/-- A creation by an administrator that may create users. -/
theorem handleCreateUser_attempt {body : Json} (given : UserFields body email nickname password) :
    (AdminServer.handleCreateUser true (some body)).Ensures w
      (CreationAttempt w (newUser w.mem (emailToLower (trim email)) (trim nickname) password)
        (Storable w (emailToLower (trim email)) (trim nickname) password)
        (fun o => o.value = .created (w.mem.snowflake w.mem.issued) (emailToLower (trim email))) CreateRefusal) := by
  cases checked : AdminServer.createUserError (emailToLower (trim email)) (trim nickname) password with
  | some e =>
    have missed : ¬Storable w (emailToLower (trim email)) (trim nickname) password := fun storable => by
      rw [createUserError_eq_none.mpr ⟨storable.addressed, storable.fields⟩] at checked
      cases checked
    obtain ⟨e', refused⟩ := handleCreateUser_refused given checked
    rw [refused]
    exact ensures_error ⟨fun storable => absurd storable missed, fun _ => ⟨⟨e', rfl⟩, rfl⟩⟩
  | none =>
    obtain ⟨addressed, fields⟩ := createUserError_eq_none.mp checked
    refine handleCreateUser_checked given checked (Prog.ensures_mono createChecked_attempt fun o attempt => ?_)
    refine ⟨fun storable => ?_, fun missed => ?_⟩
    · exact attempt.stored ⟨storable.unknown, storable.hashed, storable.works, storable.free⟩
    · refine attempt.refused fun stored => missed ?_
      exact ⟨addressed, fields, stored.1, stored.2.1, stored.2.2.1, stored.2.2.2⟩

/-! ### Agreement -/

/-- A registration is accepted. -/
def UserRegistered (conn : ConnId) (o : Outcome World Event Unit) : Prop := replies conn .registerAck o.events = [0]

/-- A creation is accepted. -/
def UserCreated (o : Outcome World Event CreateUserReply) : Prop := ∃ uid email, o.value = .created uid email

theorem registered_answer {e : Error} {uid : Bytes} {o : Outcome World Event Unit}
    (answer : RegisterAnswer conn seq e uid o) : UserRegistered conn o ↔ e.code = 0 := by
  simp [UserRegistered, RegisterAnswer] at answer ⊢
  simp [answer, replies, replyCode, registerPacket, Body.code]

/-- What both ways make of a triple: they accept it or turn it away together, leave the same tables, and
    an accepted one is stored with its email and nickname normalised. -/
structure WaysAgree (w : World) (conn : ConnId) (email nickname password : Bytes) (o : Outcome World Event Unit)
    (o' : Outcome World Event CreateUserReply) : Prop where
  accepted : UserRegistered conn o ↔ UserCreated o'
  tables : o.state.tables = o'.state.tables
  stored : UserCreated o' → ∃ user ∈ o'.state.tables.users.rows, user.email = emailToLower (trim email) ∧
    user.nickname = trim nickname ∧ user ∉ w.tables.users.rows

/-- Whatever the tables, the triple and the failures to come, a registration that the limiter lets through
    and a creation by an administrator agree. -/
theorem creations_agree (w : World) (conn : ConnId) (seq : UInt32) (email nickname password : Bytes) (body : Json)
    (given : UserFields body email nickname password) (allowed : emailToLower (trim email) ≠ [] →
      (w.mem.registerLimiter.allow (emailToLower (trim email)) w.mem.steady).1 = true) :
    WaysAgree w conn email nickname password ((handleRegister conn seq (some ⟨email, nickname, password⟩)).run w)
      ((AdminServer.handleCreateUser true (some body)).run w) := by
  have registers := @handleRegister_attempt w conn seq email nickname password allowed
  have creates := @handleCreateUser_attempt w email nickname password body given
  by_cases admitted : Storable w (emailToLower (trim email)) (trim nickname) password
  · obtain ⟨answer, tables⟩ := registers.stored admitted
    obtain ⟨created, tables'⟩ := creates.stored admitted
    refine ⟨iff_of_true ((registered_answer answer).mpr rfl) ⟨_, _, created⟩, tables.trans tables'.symm, fun _ => ?_⟩
    refine ⟨w.tables.users.fresh (newUser w.mem (emailToLower (trim email)) (trim nickname) password), ?_, rfl, rfl,
      Table.fresh_not_mem _ _⟩
    rw [tables']
    exact Table.mem_insert.mpr (.inr ⟨admitted.free, rfl⟩)
  · obtain ⟨⟨e, error, answer⟩, tables⟩ := registers.refused admitted
    obtain ⟨⟨e', refused⟩, tables'⟩ := creates.refused admitted
    have none_ : ¬UserCreated ((AdminServer.handleCreateUser true (some body)).run w) := by
      rintro ⟨uid, address, created⟩
      rw [refused] at created
      cases created
    refine ⟨iff_of_false ?_ none_, tables.trans tables'.symm, fun created => absurd created none_⟩
    exact fun registered => error ((registered_answer answer).mp registered)

/-- A server with an empty database. -/
def blankServer : World where
  tables := {}
  mem := { config := { passwordHash := fun password => password }, snowflake := fun n => [UInt8.ofNat n] }

/-- The body of an administrator's request for a user. -/
def userBody (email nickname password : Bytes) : Json :=
  .object [(ascii "email", .string email), (ascii "nickname", .string nickname), (ascii "password", .string password)]

theorem fields_userBody : UserFields (userBody email nickname password) email nickname password := ⟨rfl, rfl, rfl⟩

/-- A user whose email and nickname have blanks around them is accepted both ways. -/
theorem creations_agree_blanks :
    WaysAgree blankServer 1 (ascii " Ada@x.org") (ascii "Ada\t") (ascii "secret")
        ((handleRegister 1 7 (some ⟨ascii " Ada@x.org", ascii "Ada\t", ascii "secret"⟩)).run blankServer)
        ((AdminServer.handleCreateUser true (some (userBody (ascii " Ada@x.org") (ascii "Ada\t") (ascii "secret")))).run
          blankServer) ∧
      UserRegistered 1 ((handleRegister 1 7 (some ⟨ascii " Ada@x.org", ascii "Ada\t", ascii "secret"⟩)).run blankServer) :=
  ⟨creations_agree blankServer 1 7 _ _ _ _ fields_userBody fun _ => rfl, by unfold UserRegistered; decide⟩

end NovaIIM
