import NovaIIM.AdminAuth

/-!
The account that an administrator creates (`AdminServer::HandleCreateUser`).

The admin server has its own copies of the functions that check and normalise the fields.
They agree with those of the user service (`trimInPlace_eq`, `isValidEmail_eq`).
-/
namespace NovaIIM
open Store

namespace apiErr
def kEmailPasswordRequired : ApiReply := ⟨1, "email and password required", 400⟩
def kEmailPasswordStrings : ApiReply := ⟨1, "email and password must be strings", 400⟩
def kEmailPasswordEmpty : ApiReply := ⟨1, "email and password cannot be empty", 400⟩
def kEmailAlreadyExists : ApiReply := ⟨1, "email already exists", 409⟩
def kEmailInvalidFormat : ApiReply := ⟨1, "invalid email format", 400⟩
def kEmailTooLong : ApiReply := ⟨1, "email must be at most 255 characters", 400⟩
def kNicknameTooLong : ApiReply := ⟨1, "nickname must be at most 100 characters", 400⟩
def kNicknameRequired : ApiReply := ⟨1, "nickname is required", 400⟩
def kNicknameInvalid : ApiReply := ⟨1, "nickname contains invalid characters", 400⟩
def kCreateUserFailed : ApiReply := ⟨5, "failed to create user", 500⟩
end apiErr

/-- The reply to the creation of a user, or an exception that leaves the handler. -/
inductive CreateUserReply where
  | error (e : ApiReply)
  | created (uid email : Bytes)
  | raised
deriving DecidableEq, Repr

namespace AdminServer

/-- `IsValidEmail`. -/
def isValidEmail (email : Bytes) : Bool :=
  match findFrom email 64 0 with
  | none => false
  | some at_ =>
    if at_ = 0 ∨ at_ = email.length - 1 then false
    else match findFrom email 46 (at_ + 1) with
    | none => false
    | some dot =>
      if dot = at_ + 1 ∨ dot = email.length - 1 then false
      else email.all fun c => !(c ≤ 0x20 || c = 0x7F)

/-- None of the characters that are cut off. -/
def solid (c : UInt8) : Bool := !(c = 32 || c = 9 || c = 13 || c = 10)

/-- `TrimInPlace`. -/
def trimInPlace (s : Bytes) : Bytes :=
  let start := s.findIdx? solid
  let end_ := (s.reverse.findIdx? solid).map fun i => s.length - 1 - i
  match start, end_ with
  | some start, some end_ => (s.drop start).take (end_ - start + 1)
  | _, _ => []

/-- `EmailToLower`. -/
def emailToLower (email : Bytes) : Bytes :=
  email.map fun c => if 65 ≤ c && c ≤ 90 then c + 32 else c

/-- The check of the nickname, then of the email, then of the password. -/
def createUserError (email nickname password : Bytes) : Option ApiReply :=
  if nickname.isEmpty then some apiErr.kNicknameRequired
  else if 100 < nickname.length then some apiErr.kNicknameTooLong
  else if nickname.any fun c => c < 0x20 || c = 0x7F then some apiErr.kNicknameInvalid
  else if 255 < email.length then some apiErr.kEmailTooLong
  else if !isValidEmail email then some apiErr.kEmailInvalidFormat
  else if password.length < 6 then some apiErr.kPasswordTooShort
  else if 128 < password.length then some apiErr.kPasswordTooLong
  else none

/-- The part of `HandleCreateUser` behind the checks. -/
def createChecked (email nickname password : Bytes) : Action CreateUserReply := do
  let known ← UserDao.findByEmail email
  if known.isSome then return .error apiErr.kEmailAlreadyExists
  else do
  let config ← peek fun m => m.config
  let hash := config.passwordHash password
  if hash.isEmpty then return .error apiErr.kHashFailed
  else do
  let uid ← UserService.nextIdStr
  let inserted ← UserDao.insert { uid := uid, email := email, passwordHash := hash, nickname := nickname }
  if inserted.isSome then do
    writeAuditLog
    return .created uid email
  else do
  -- another creation of the same email may have come first
  let known ← UserDao.findByEmail email
  return if known.isSome then .error apiErr.kEmailAlreadyExists else .error apiErr.kCreateUserFailed

/-- `AdminServer::HandleCreateUser`; `permitted` is the outcome of `RequirePermission`. -/
def handleCreateUser (permitted : Bool) (body : Option Json) : Action CreateUserReply :=
  if !permitted then return .error apiErr.kPermissionDenied
  else match body with
  | none => return .error apiErr.kEmailPasswordRequired
  | some body =>
    if (body.field (ascii "email")).isNone ∨ (body.field (ascii "password")).isNone then
      return .error apiErr.kEmailPasswordRequired
    else match (body.field (ascii "email")).bind Json.string?, (body.field (ascii "password")).bind Json.string? with
    | some email, some password =>
      -- without a nickname the user is called by its email
      match body.value (ascii "nickname") email with
      | none => return .raised
      | some nickname =>
        if email.isEmpty ∨ password.isEmpty then return .error apiErr.kEmailPasswordEmpty
        else
        let nickname := trimInPlace nickname
        let email := emailToLower (trimInPlace email)
        match createUserError email nickname password with
        | some e => return .error e
        | none => createChecked email nickname password
    | _, _ => return .error apiErr.kEmailPasswordStrings

/-! ### The two copies -/

theorem isValidEmail_eq (email : Bytes) : isValidEmail email = UserService.isValidEmail email := by
  unfold isValidEmail UserService.isValidEmail findFrom
  simp only [List.drop_zero]
  cases email.findIdx? fun b => b = 64 with
  | none => rfl
  | some at_ =>
    simp only [Option.map_some, Nat.zero_add]
    cases (email.drop (at_ + 1)).findIdx? fun b => b = 46 with
    | none => rfl
    | some dot =>
      have first : at_ + 1 + dot = at_ + 1 ↔ dot = 0 := by omega
      simp only [Option.map_some, first]

/-- What comes before the first solid character goes, and what comes behind the last one. -/
theorem trimInPlace_eq (s : Bytes) : trimInPlace s = UserService.trim s := by
  have blank : ∀ s : Bytes, (s.dropWhile fun c => c = 32 || c = 9 || c = 13 || c = 10) = s.drop (s.findIdx solid) :=
    fun s => List.dropWhile_eq_drop_findIdx_not
  simp only [UserService.trim, blank]
  unfold trimInPlace
  cases first : s.findIdx? solid with
  | none =>
    have none_ := List.findIdx?_eq_none_iff.mp first
    have length : s.findIdx solid = s.length := List.findIdx_eq_length.mpr none_
    simp [length]
  | some start =>
    obtain ⟨inside, start_eq⟩ := List.findIdx?_eq_some_iff_findIdx_eq.mp first
    obtain ⟨_, there, -⟩ := List.findIdx?_eq_some_iff_getElem.mp first
    -- the last solid character is behind the first one
    have last : (s.drop start).reverse.findIdx solid < (s.drop start).reverse.length := by
      refine List.findIdx_lt_length.mpr ⟨s[start], ?_, there⟩
      rw [List.mem_reverse, List.drop_eq_getElem_cons inside]
      exact .head _
    have found : s.reverse.findIdx? solid = some ((s.drop start).reverse.findIdx solid) := by
      have split : s.reverse = (s.drop start).reverse ++ (s.take start).reverse := by
        rw [← List.reverse_append, List.take_append_drop]
      rw [split, List.findIdx?_append, List.findIdx?_eq_some_iff_findIdx_eq.mpr ⟨last, rfl⟩]
      rfl
    simp only [List.length_reverse, List.length_drop] at last
    simp only [found, Option.map_some, start_eq]
    rw [List.drop_reverse, List.reverse_reverse, List.length_drop]
    congr 1
    omega

end AdminServer
end NovaIIM
