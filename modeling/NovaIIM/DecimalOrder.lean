import Mathlib.Algebra.Group.Nat.Defs
import Mathlib.Algebra.Ring.Int.Defs
import NovaIIM.AdminTables

/-!
The order of decimal numbers as texts.

Texts are compared from the front, so of two numbers of one length the smaller one comes
first, and of others only as many leading digits count as the shorter one has. What follows
the shorter one decides if these digits agree.
-/
namespace NovaIIM

/-- A text of decimal digits. -/
def Digits (text : Bytes) : Prop := ∀ b ∈ text, 48 ≤ b ∧ b ≤ 57

/-- The number of a text of digits. -/
def digitsValue : Bytes → Nat
  | [] => 0
  | b :: text => (b.toNat - 48) * 10 ^ text.length + digitsValue text

variable {a b x : Bytes}

theorem Digits.tail {first : UInt8} (digits : Digits (first :: a)) : Digits a :=
  fun d inside => digits d (List.mem_cons_of_mem _ inside)

theorem Digits.take (digits : Digits a) (n : Nat) : Digits (a.take n) := fun d inside => digits d (List.mem_of_mem_take inside)

theorem Digits.append (digits : Digits a) (digits' : Digits b) : Digits (a ++ b) :=
  fun d inside => (List.mem_append.mp inside).elim (digits d) (digits' d)

/-- A digit as a number. -/
theorem Digits.head {first : UInt8} (digits : Digits (first :: a)) : 48 ≤ first.toNat ∧ first.toNat ≤ 57 := by
  obtain ⟨low, high⟩ := digits first List.mem_cons_self
  exact ⟨UInt8.le_iff_toNat_le.mp low, UInt8.le_iff_toNat_le.mp high⟩

theorem digitsValue_append (a b : Bytes) : digitsValue (a ++ b) = digitsValue a * 10 ^ b.length + digitsValue b := by
  induction a with
  | nil => simp [digitsValue]
  | cons first a ih =>
    rw [List.cons_append, digitsValue, ih, digitsValue, List.length_append, Nat.pow_add, Nat.add_mul, Nat.mul_assoc]
    omega

theorem digitsValue_lt (digits : Digits a) : digitsValue a < 10 ^ a.length := by
  induction a with
  | nil => exact Nat.one_pos
  | cons first a ih =>
    have rest := ih digits.tail
    obtain ⟨low, high⟩ := digits.head
    have most : (first.toNat - 48) * 10 ^ a.length ≤ 9 * 10 ^ a.length := Nat.mul_le_mul_right _ (by omega)
    rw [digitsValue, List.length_cons, Nat.pow_succ]
    omega

/-- The number of the leading digits. -/
theorem digitsValue_take (digits : Digits a) (n : Nat) :
    digitsValue (a.take n) = digitsValue a / 10 ^ (a.length - n) := by
  have whole := digitsValue_append (a.take n) (a.drop n)
  have rest : digitsValue (a.drop n) < 10 ^ (a.drop n).length :=
    digitsValue_lt fun d there => digits d (List.mem_of_mem_drop there)
  rw [List.take_append_drop, List.length_drop] at whole
  rw [List.length_drop] at rest
  rw [whole, Nat.mul_comm, Nat.mul_add_div (Nat.pow_pos (by decide)), Nat.div_eq_of_lt rest, Nat.add_zero]

/-- Numbers of one length are in the order of their texts. -/
theorem textLess_iff_value (digits : Digits a) (digits' : Digits b) (same : a.length = b.length) :
    textLess a b = true ↔ digitsValue a < digitsValue b := by
  induction a generalizing b with
  | nil =>
    obtain rfl := List.length_eq_zero_iff.mp same.symm
    simp [textLess, digitsValue]
  | cons first a ih =>
    obtain _ | ⟨first', b⟩ := b
    · cases same
    have length : a.length = b.length := Nat.succ.inj same
    obtain ⟨low, high⟩ := digits.head
    obtain ⟨low', high'⟩ := digits'.head
    have rest := digitsValue_lt digits.tail
    have rest' := digitsValue_lt digits'.tail
    rw [textLess, digitsValue, digitsValue, ← length, Bool.or_eq_true, Bool.and_eq_true, decide_eq_true_eq, decide_eq_true_eq,
      ih digits.tail digits'.tail length, UInt8.lt_iff_toNat_lt, ← UInt8.toNat_inj]
    rw [← length] at rest'
    obtain less | rfl' | more := Nat.lt_trichotomy first.toNat first'.toNat
    · have step : (first.toNat - 48) * 10 ^ a.length + 10 ^ a.length ≤ (first'.toNat - 48) * 10 ^ a.length := by
        rw [← Nat.succ_mul]
        exact Nat.mul_le_mul_right _ (by omega)
      exact iff_of_true (.inl less) (by omega)
    · rw [rfl']
      omega
    · have step : (first'.toNat - 48) * 10 ^ a.length + 10 ^ a.length ≤ (first.toNat - 48) * 10 ^ a.length := by
        rw [← Nat.succ_mul]
        exact Nat.mul_le_mul_right _ (by omega)
      exact iff_of_false (by omega) (by omega)

/-- A text is compared with a shorter one by as much of it. -/
theorem textLess_longer (x : Bytes) (short : b.length ≤ a.length) :
    textLess (a ++ x) b = textLess (a.take b.length) b := by
  induction b generalizing a with
  | nil => cases a <;> simp [textLess]
  | cons first' b ih =>
    obtain _ | ⟨first, a⟩ := a
    · cases short
    · rw [List.cons_append, List.length_cons, List.take_succ_cons, textLess, textLess, ih (Nat.le_of_succ_le_succ short)]

/-- A number with a dash behind it comes before a longer one that begins with it. -/
theorem textLess_shorter (digits : Digits b) (long : a.length < b.length) :
    textLess (a ++ 45 :: x) b = !textLess (b.take a.length) a := by
  induction a generalizing b with
  | nil =>
    obtain _ | ⟨first, b⟩ := b
    · cases long
    have low := digits.head.1
    have dash : (45 : UInt8) < first := UInt8.lt_iff_toNat_lt.mpr (show 45 < first.toNat by omega)
    simp [textLess, dash]
  | cons first a ih =>
    obtain _ | ⟨first', b⟩ := b
    · cases long
    rw [List.cons_append, List.length_cons, List.take_succ_cons, textLess, textLess,
      ih digits.tail (Nat.lt_of_succ_lt_succ long)]
    obtain less | same | more := Nat.lt_trichotomy first.toNat first'.toNat
    · have less' : first < first' := UInt8.lt_iff_toNat_lt.mpr less
      have other : first' ≠ first := fun same => by simp [same] at less
      simp [less', UInt8.lt_asymm less', other]
    · obtain rfl := UInt8.toNat_inj.mp same
      simp
    · have more' : first' < first := UInt8.lt_iff_toNat_lt.mpr more
      have other : first ≠ first' := fun same => by simp [same] at more
      simp [more', UInt8.lt_asymm more', other]

/-! ### Decimals -/

/-- The number of digits of a decimal of a width at least. -/
def decimalWidth (width : Nat) (n : Nat) : Nat := max width (Nat.toDigits 10 n).length

private theorem digit_byte {d : Nat} (small : d < 10) :
    (UInt8.ofNat d.digitChar.toNat).toNat = 48 + d := by
  rw [Nat.toNat_digitChar_of_lt_ten small, UInt8.toNat_ofNat']
  omega

/-- The digits of a number are digits, and have its value. -/
theorem digitsValue_toDigits (n : Nat) :
    Digits ((Nat.toDigits 10 n).map fun c => UInt8.ofNat c.toNat) ∧
      digitsValue ((Nat.toDigits 10 n).map fun c => UInt8.ofNat c.toNat) = n := by
  have one : ∀ d < 10, Digits [UInt8.ofNat d.digitChar.toNat] ∧ digitsValue [UInt8.ofNat d.digitChar.toNat] = d := by
    intro d small
    have byte := digit_byte small
    refine ⟨fun b inside => ?_, ?_⟩
    · rw [List.mem_singleton.mp inside, UInt8.le_iff_toNat_le, UInt8.le_iff_toNat_le, byte]
      exact ⟨Nat.le_add_right .., Nat.add_le_add_left (Nat.le_of_lt_succ small) 48⟩
    · simp [digitsValue, byte]
  induction n using Nat.strongRecOn with
  | ind n ih =>
    obtain small | big := Nat.lt_or_ge n 10
    · rw [Nat.toDigits_of_lt_base small]
      exact one n small
    · obtain ⟨digits, value⟩ := ih (n / 10) (Nat.div_lt_self (by omega) (by decide))
      obtain ⟨last, lastValue⟩ := one (n % 10) (Nat.mod_lt n (by decide))
      rw [Nat.toDigits_of_base_le (by decide) big, List.map_append, List.map_singleton]
      refine ⟨digits.append last, ?_⟩
      rw [digitsValue_append, value, lastValue, List.length_singleton]
      omega

theorem digits_replicate (n : Nat) : Digits (List.replicate n 48) := by
  intro b inside
  rw [List.eq_of_mem_replicate inside]
  decide

theorem digitsValue_replicate (n : Nat) : digitsValue (List.replicate n 48) = 0 := by
  induction n with
  | zero => rfl
  | succ n ih => simp [List.replicate_succ, digitsValue, ih]

theorem digits_decimal (width : Nat) (n : Int) : Digits (Calendar.decimal width n) :=
  (digits_replicate _).append (digitsValue_toDigits n.toNat).1

theorem digitsValue_decimal (width : Nat) (n : Int) : digitsValue (Calendar.decimal width n) = n.toNat := by
  rw [Calendar.decimal, digitsValue_append, digitsValue_replicate, (digitsValue_toDigits n.toNat).2]
  omega

theorem length_decimal (width : Nat) (n : Int) : (Calendar.decimal width n).length = decimalWidth width n.toNat := by
  rw [Calendar.decimal, List.length_append, List.length_replicate, List.length_map, decimalWidth]
  omega

/-- A number of some width comes before another one in the order of texts, when a dash follows it:
    it does not have more leading digits than the other has. -/
def LeadsTo (width n m : Nat) : Prop :=
  if decimalWidth 0 m ≤ decimalWidth width n then n / 10 ^ (decimalWidth width n - decimalWidth 0 m) < m
  else n ≤ m / 10 ^ (decimalWidth 0 m - decimalWidth width n)

instance (width n m : Nat) : Decidable (LeadsTo width n m) :=
  inferInstanceAs (Decidable (if decimalWidth 0 m ≤ decimalWidth width n then
    n / 10 ^ (decimalWidth width n - decimalWidth 0 m) < m
    else n ≤ m / 10 ^ (decimalWidth 0 m - decimalWidth width n)))

/-- The order of a number with a dash behind it and another number. -/
theorem textLess_decimal (width : Nat) (n m : Int) (x : Bytes) :
    textLess (Calendar.decimal width n ++ 45 :: x) (Calendar.decimal 0 m) = true ↔ LeadsTo width n.toNat m.toNat := by
  have digits := digits_decimal width n
  have digits' := digits_decimal 0 m
  have length := length_decimal width n
  have length' := length_decimal 0 m
  rw [LeadsTo]
  split
  · next shorter =>
    have short : (Calendar.decimal 0 m).length ≤ (Calendar.decimal width n).length := by omega
    have same : ((Calendar.decimal width n).take (Calendar.decimal 0 m).length).length = (Calendar.decimal 0 m).length := by
      rw [List.length_take]
      omega
    rw [textLess_longer _ short, textLess_iff_value (digits.take _) digits' same, digitsValue_take digits,
      digitsValue_decimal, digitsValue_decimal, length, length']
  · next longer =>
    have long : (Calendar.decimal width n).length < (Calendar.decimal 0 m).length := by omega
    have same : ((Calendar.decimal 0 m).take (Calendar.decimal width n).length).length = (Calendar.decimal width n).length := by
      rw [List.length_take]
      omega
    rw [textLess_shorter digits' long, Bool.not_eq_true', ← Bool.not_eq_true,
      textLess_iff_value (digits'.take _) digits same, digitsValue_take digits', digitsValue_decimal,
      digitsValue_decimal, length, length', Nat.not_lt]

end NovaIIM
