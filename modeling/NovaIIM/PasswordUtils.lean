import NovaIIM.Types
import NovaIIM.Utf8

/-!
Stored passwords (`core/password_utils.cpp`).

`Hash` writes a record `pbkdf2:sha256:<iterations>$<salt_hex>$<hash_hex>` and
`Verify` reads it back: its fields end where they are expected to, since neither a
number nor hexadecimal digits contain a dollar sign (`splitDollar_field`), the digits
give back the bytes (`fromHex_toHex`), and the comparison that takes the same time
for all keys finds exactly the equal ones (`constantTimeEqual_iff`).
-/
namespace NovaIIM.PasswordUtils

def kIterations : Int := 100000
def kSaltLen : Nat := 16
def kHashLen : Nat := 32

/-- A buffer of a fixed length. -/
structure Block (size : Nat) where
  bytes : Bytes
  length : bytes.length = size

@[ext] theorem Block.ext {size : Nat} {a b : Block size} (same : a.bytes = b.bytes) : a = b := by
  cases a
  cases b
  congr

/-- What `Hash` and `Verify` use of the library; each of it may fail. -/
structure Crypto where
  /-- the salt that the generator gives -/
  random : Option (Block kSaltLen)
  /-- the key for a password, a salt and a number of iterations -/
  pbkdf2 : Bytes → Bytes → Int → Option (Block kHashLen)

/-- The library when nothing fails. -/
def Crypto.working (derive : Bytes → Bytes → Int → Block kHashLen) (salt : Block kSaltLen) : Crypto where
  random := some salt
  pbkdf2 password salt iterations := some (derive password salt iterations)

/-! ### Hexadecimal digits -/

/-- The digit that `std::hex` prints. -/
def hexDigit (n : UInt8) : UInt8 := if n < 10 then 48 + n else 87 + n

def toHex (data : Bytes) : Bytes := data.flatMap fun b : UInt8 => [hexDigit (b >>> 4), hexDigit (b &&& 15)]

def hexCharToByte (c : UInt8) : UInt8 :=
  if 48 ≤ c ∧ c ≤ 57 then c - 48
  else if 97 ≤ c ∧ c ≤ 102 then c - 97 + 10
  else if 65 ≤ c ∧ c ≤ 70 then c - 65 + 10
  else 255

/-- The loop of `FromHex`. -/
def readHex : Bytes → Option Bytes
  | first :: second :: rest =>
    let high := hexCharToByte first
    let low := hexCharToByte second
    if high = 255 ∨ low = 255 then none else (readHex rest).map ((high <<< 4 ||| low) :: ·)
  | _ => some []

def fromHex (hex : Bytes) (outLen : Nat) : Option Bytes :=
  if hex.length ≠ outLen * 2 then none else readHex hex

/-! ### Records -/

def kPrefix : Bytes := ascii "pbkdf2:sha256:"

/-- `PasswordUtils::Hash`. -/
def hash (c : Crypto) (password : Bytes) : Bytes :=
  match c.random with
  | none => []
  | some salt =>
    match c.pbkdf2 password salt.bytes kIterations with
    | none => []
    | some key => kPrefix ++ decimalText kIterations ++ [36] ++ toHex salt.bytes ++ [36] ++ toHex key.bytes

/-- What stands before and after the first dollar sign. -/
def splitDollar (s : Bytes) : Option (Bytes × Bytes) :=
  (s.findIdx? (· == 36)).map fun dollar => (s.take dollar, s.drop (dollar + 1))

/-- `std::atoi`. -/
def atoi (s : Bytes) : Int :=
  match Calendar.scanInt s with
  | none => 0
  | some (value, _) => value

/-- The comparison in `Verify`, which reads all bytes. -/
def constantTimeEqual (computed expected : Bytes) : Bool :=
  (List.zipWith (· ^^^ ·) computed expected).foldl (· ||| ·) 0 = 0

/-- `PasswordUtils::Verify`. -/
def verify (c : Crypto) (password storedHash : Bytes) : Bool :=
  if storedHash.take kPrefix.length ≠ kPrefix then false
  else match splitDollar (storedHash.drop kPrefix.length) with
  | none => false
  | some (number, s) =>
    let iterations := atoi number
    if iterations ≤ 0 ∨ 10000000 < iterations then false
    else match splitDollar s with
    | none => false
    | some (saltHex, hashHex) =>
      match fromHex saltHex kSaltLen, fromHex hashHex kHashLen with
      | some salt, some expected =>
        match c.pbkdf2 password salt iterations with
        | none => false
        | some computed => constantTimeEqual computed.bytes expected
      | _, _ => false

/-! ### Round trips -/

/-- Each byte is read back from its two digits, and no digit is a dollar sign. -/
theorem hexDigit_spec (b : UInt8) :
    (hexCharToByte (hexDigit (b >>> 4)) ≠ 255 ∧ hexCharToByte (hexDigit (b &&& 15)) ≠ 255 ∧
      hexCharToByte (hexDigit (b >>> 4)) <<< 4 ||| hexCharToByte (hexDigit (b &&& 15)) = b) ∧
      hexDigit (b >>> 4) ≠ 36 ∧ hexDigit (b &&& 15) ≠ 36 :=
  Utf8.forall_byte (p := fun b =>
    (hexCharToByte (hexDigit (b >>> 4)) ≠ 255 ∧ hexCharToByte (hexDigit (b &&& 15)) ≠ 255 ∧
      hexCharToByte (hexDigit (b >>> 4)) <<< 4 ||| hexCharToByte (hexDigit (b &&& 15)) = b) ∧
      hexDigit (b >>> 4) ≠ 36 ∧ hexDigit (b &&& 15) ≠ 36) (by decide +kernel) b

theorem length_toHex (data : Bytes) : (toHex data).length = data.length * 2 := by
  induction data with
  | nil => rfl
  | cons b data ih =>
    have more : (toHex (b :: data)).length = (toHex data).length + 2 := rfl
    rw [more, ih, List.length_cons, Nat.add_mul]

theorem toHex_no_dollar (data : Bytes) : ∀ c ∈ toHex data, c ≠ 36 := by
  intro c digit
  obtain ⟨b, -, here⟩ := List.mem_flatMap.mp digit
  obtain ⟨-, first, second⟩ := hexDigit_spec b
  rcases List.mem_pair.mp here with rfl | rfl
  · exact first
  · exact second

theorem readHex_toHex (data : Bytes) : readHex (toHex data) = some data := by
  induction data with
  | nil => rfl
  | cons b data ih =>
    obtain ⟨⟨high, low, whole⟩, -⟩ := hexDigit_spec b
    show readHex (hexDigit (b >>> 4) :: hexDigit (b &&& 15) :: toHex data) = _
    simp only [readHex]
    rw [if_neg (not_or.mpr ⟨high, low⟩), ih, whole, Option.map_some]

theorem fromHex_toHex {data : Bytes} {outLen : Nat} (length : data.length = outLen) :
    fromHex (toHex data) outLen = some data := by
  rw [fromHex, if_neg (not_not_intro (by rw [length_toHex, length])), readHex_toHex]

/-- A field without a dollar sign ends at the next one. -/
theorem splitDollar_field {field : Bytes} (plain : ∀ c ∈ field, c ≠ 36) (rest : Bytes) :
    splitDollar (field ++ 36 :: rest) = some (field, rest) := by
  have absent : field.findIdx? (· == 36) = none := by
    rw [List.findIdx?_eq_none_iff]
    exact fun c inside => beq_false_of_ne (plain c inside)
  have found : (field ++ 36 :: rest).findIdx? (· == 36) = some field.length := by
    rw [List.findIdx?_append, absent, List.findIdx?_cons]
    simp
  rw [splitDollar, found, Option.map_some, List.take_left', List.drop_append]
  · simp
  · rfl

/-- Differences are collected, and none is lost. -/
theorem foldl_or_eq_zero (bytes : Bytes) (diff : UInt8) :
    bytes.foldl (· ||| ·) diff = 0 ↔ diff = 0 ∧ ∀ b ∈ bytes, b = 0 := by
  induction bytes generalizing diff with
  | nil => simp
  | cons b bytes ih =>
    rw [List.foldl_cons, ih, UInt8.or_eq_zero_iff, List.forall_mem_cons, and_assoc]

theorem constantTimeEqual_iff {computed expected : Bytes} (length : computed.length = expected.length) :
    constantTimeEqual computed expected = true ↔ computed = expected := by
  rw [constantTimeEqual, decide_eq_true_iff, foldl_or_eq_zero]
  induction computed generalizing expected with
  | nil =>
    obtain rfl := List.length_eq_zero_iff.mp length.symm
    simp
  | cons a computed ih =>
    cases expected with
    | nil => cases length
    | cons b expected =>
      have rest := ih (Nat.succ.inj length)
      rw [List.zipWith_cons_cons, List.forall_mem_cons, List.cons.injEq, UInt8.xor_eq_zero_iff]
      tauto

/-- The fields of a record are read as they were written. -/
theorem verify_record (c : Crypto) (q : Bytes) (salt : Block kSaltLen) (key : Block kHashLen) :
    verify c q (kPrefix ++ decimalText kIterations ++ [36] ++ toHex salt.bytes ++ [36] ++ toHex key.bytes) =
      ((c.pbkdf2 q salt.bytes kIterations).map fun computed => constantTimeEqual computed.bytes key.bytes).getD false := by
  have number : ∀ c ∈ decimalText kIterations, c ≠ 36 := by decide +kernel
  have iterations : atoi (decimalText kIterations) = kIterations := by decide +kernel
  have record : kPrefix ++ decimalText kIterations ++ [36] ++ toHex salt.bytes ++ [36] ++ toHex key.bytes =
      kPrefix ++ (decimalText kIterations ++ 36 :: (toHex salt.bytes ++ 36 :: toHex key.bytes)) := by
    simp
  rw [record, verify, List.take_left', List.drop_left', if_neg (not_not_intro rfl), splitDollar_field number]
  · dsimp only
    rw [iterations, if_neg (by decide), splitDollar_field (toHex_no_dollar _)]
    dsimp only
    rw [fromHex_toHex salt.length, fromHex_toHex key.length]
    dsimp only
    cases c.pbkdf2 q salt.bytes kIterations <;> rfl
  · rfl
  · rfl

/-- A stored password accepts itself, and otherwise exactly what has the same key under its salt;
    hexadecimal digits give back the bytes. -/
theorem passwords (derive : Bytes → Bytes → Int → Block kHashLen) (salt : Block kSaltLen) :
    (∀ p, verify (.working derive salt) p (hash (.working derive salt) p) = true) ∧
      (∀ p q, verify (.working derive salt) q (hash (.working derive salt) p) = true ↔
        derive q salt.bytes kIterations = derive p salt.bytes kIterations) ∧
      ∀ data : Bytes, fromHex (toHex data) data.length = some data := by
  have accepted : ∀ p q, verify (.working derive salt) q (hash (.working derive salt) p) = true ↔
      derive q salt.bytes kIterations = derive p salt.bytes kIterations := by
    intro p q
    have compared := verify_record (.working derive salt) q salt (derive p salt.bytes kIterations)
    show verify _ q _ = true ↔ _
    rw [hash]
    show verify _ q (kPrefix ++ decimalText kIterations ++ [36] ++ toHex salt.bytes ++ [36] ++
      toHex (derive p salt.bytes kIterations).bytes) = true ↔ _
    rw [compared]
    show constantTimeEqual _ _ = true ↔ _
    rw [constantTimeEqual_iff ((Block.length _).trans (Block.length _).symm), Block.ext_iff]
  exact ⟨fun p => (accepted p p).mpr rfl, accepted, fun data => fromHex_toHex rfl⟩

/-- A stored password that was not written by `Hash` is not accepted where it lacks a field. -/
example (c : Crypto) (q : Bytes) : verify c q (ascii "pbkdf2:sha256:100000") = false := rfl

end NovaIIM.PasswordUtils
