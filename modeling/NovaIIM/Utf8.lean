import Mathlib.Data.List.GetD
import Mathlib.Data.List.Infix

/-!
UTF-8 as lists of bytes.

A text is a list of characters, and its encoding puts their encodings one after
another. The first byte of a character is never a continuation byte and the other
ones always are (`encodeChar_shape`), so the places where one can cut an encoding
are the ones that are not followed by a continuation byte (`valid_take_iff`). The
encodings of two texts are a prefix or a part of each other exactly if the texts
are (`encode_prefix_iff`, `encode_infix_iff`).
-/
namespace NovaIIM.Utf8

def encode (cs : List Char) : List UInt8 := cs.flatMap String.utf8EncodeChar

/-- A sequence of bytes that encodes a text. -/
def Valid (s : List UInt8) : Prop := ∃ cs, s = encode cs

/-- A continuation byte. -/
abbrev IsTail (b : UInt8) : Prop := b &&& 0xC0 = 0x80

@[simp] theorem encode_nil : encode [] = [] := rfl

@[simp] theorem encode_cons (c : Char) (cs : List Char) : encode (c :: cs) = String.utf8EncodeChar c ++ encode cs := rfl

theorem encode_append (cs ds : List Char) : encode (cs ++ ds) = encode cs ++ encode ds := List.flatMap_append

theorem valid_nil : Valid [] := ⟨[], rfl⟩

theorem Valid.append {s t : List UInt8} (first : Valid s) (second : Valid t) : Valid (s ++ t) := by
  obtain ⟨cs, rfl⟩ := first
  obtain ⟨ds, rfl⟩ := second
  exact ⟨cs ++ ds, (encode_append cs ds).symm⟩

theorem valid_char (c : Char) : Valid (String.utf8EncodeChar c) := ⟨[c], by simp⟩

/-! ### The bytes of a character -/

/-- What holds of the bytes below 256 holds of all. -/
theorem forall_byte {p : UInt8 → Prop} (all : ∀ n < 256, p (UInt8.ofNat n)) (b : UInt8) : p b := by
  have is := all b.toNat b.toNat_lt
  rwa [UInt8.ofNat_toNat] at is

theorem not_isTail_of_first {b : UInt8} : b.IsUTF8FirstByte → ¬IsTail b :=
  forall_byte (p := fun b => b.IsUTF8FirstByte → ¬IsTail b) (by decide +kernel) b

theorem isTail_low (b : UInt8) : IsTail (b &&& 0x3f ||| 0x80) :=
  forall_byte (p := fun b => IsTail (b &&& 0x3f ||| 0x80)) (by decide +kernel) b

/-- The first byte of a character is no continuation byte, and the others are. -/
theorem encodeChar_shape (c : Char) :
    ∃ lead tails, String.utf8EncodeChar c = lead :: tails ∧ ¬IsTail lead ∧ ∀ b ∈ tails, IsTail b := by
  have first : ∀ {lead tails}, String.utf8EncodeChar c = lead :: tails → ¬IsTail lead := by
    intro lead tails is
    have first := UInt8.isUTF8FirstByte_getElem_zero_utf8EncodeChar (c := c)
    simp only [is, List.getElem_cons_zero] at first
    exact not_isTail_of_first first
  rcases c.utf8Size_eq with size | size | size | size
  · have is := String.utf8EncodeChar_eq_singleton size
    exact ⟨_, _, is, first is, List.forall_mem_nil _⟩
  · have is := String.utf8EncodeChar_eq_cons_cons size
    exact ⟨_, _, is, first is, List.forall_mem_singleton.mpr (isTail_low _)⟩
  · have is := String.utf8EncodeChar_eq_cons_cons_cons size
    exact ⟨_, _, is, first is, List.forall_mem_cons.mpr ⟨isTail_low _, List.forall_mem_singleton.mpr (isTail_low _)⟩⟩
  · have is := String.utf8EncodeChar_eq_cons_cons_cons_cons size
    have last := List.forall_mem_singleton.mpr (isTail_low c.val.toUInt8)
    exact ⟨_, _, is, first is, List.forall_mem_cons.mpr ⟨isTail_low _, List.forall_mem_cons.mpr ⟨isTail_low _, last⟩⟩⟩

/-- No character is the beginning of another one. -/
theorem encodeChar_unique {c d : Char} {s t : List UInt8}
    (same : String.utf8EncodeChar c ++ s = String.utf8EncodeChar d ++ t) : c = d := by
  have decoded := ByteArray.utf8DecodeChar?_utf8EncodeChar_append (b := s.toByteArray) (c := c)
  rw [← List.toByteArray_append, same, List.toByteArray_append,
    ByteArray.utf8DecodeChar?_utf8EncodeChar_append] at decoded
  exact (Option.some.inj decoded).symm

/-! ### Texts inside texts -/

theorem encode_prefix_iff {cs ds : List Char} : encode cs <+: encode ds ↔ cs <+: ds := by
  constructor
  · intro inside
    induction cs generalizing ds with
    | nil => exact List.nil_prefix
    | cons c cs ih =>
      obtain ⟨rest, is⟩ := inside
      rw [encode_cons, List.append_assoc] at is
      cases ds with
      | nil =>
        obtain ⟨lead, tails, shape, -⟩ := encodeChar_shape c
        simp [shape] at is
      | cons d ds =>
        rw [encode_cons] at is
        obtain rfl := encodeChar_unique is
        exact List.cons_prefix_cons.mpr ⟨rfl, ih ⟨rest, List.append_cancel_left is⟩⟩
  · rintro ⟨rest, rfl⟩
    exact ⟨encode rest, (encode_append cs rest).symm⟩

/-- Different texts have different encodings. -/
theorem encode_injective {cs ds : List Char} (same : encode cs = encode ds) : cs = ds := by
  have first : cs <+: ds := encode_prefix_iff.mp ⟨[], by rw [List.append_nil, same]⟩
  have second : ds <+: cs := encode_prefix_iff.mp ⟨[], by rw [List.append_nil, same]⟩
  exact first.eq_of_length_le second.length_le

/-- What follows the encoding of a text in the encoding of another one is no continuation byte. -/
theorem not_isTail_head (cs : List Char) : ¬IsTail ((encode cs).getD 0 0) := by
  cases cs with
  | nil => decide
  | cons c cs =>
    obtain ⟨lead, tails, shape, first, -⟩ := encodeChar_shape c
    rw [encode_cons, shape]
    exact first

/-- The beginning of an encoding encodes a text exactly if no continuation byte follows it. -/
theorem valid_take_iff {s : List UInt8} (valid : Valid s) {k : Nat} (inside : k ≤ s.length) :
    Valid (s.take k) ↔ ¬IsTail (s.getD k 0) := by
  obtain ⟨cs, rfl⟩ := valid
  constructor
  · rintro ⟨ds, is⟩
    obtain ⟨rest, rfl⟩ := encode_prefix_iff.mp (is ▸ List.take_prefix k (encode cs))
    have length : (encode ds).length = k := by rw [← is, List.length_take, Nat.min_eq_left inside]
    rw [encode_append, ← length, List.getD_append_right _ _ _ _ (Nat.le_refl _), Nat.sub_self]
    exact not_isTail_head rest
  · intro first
    induction cs generalizing k with
    | nil => exact ⟨[], by simp⟩
    | cons c cs ih =>
      rw [encode_cons] at first ⊢
      rcases Nat.lt_or_ge k (String.utf8EncodeChar c).length with within | past
      · -- inside a character only the place before its first byte is left
        obtain ⟨lead, tails, shape, -, tail⟩ := encodeChar_shape c
        cases k with
        | zero => exact valid_nil
        | succ k =>
          rw [shape, List.length_cons] at within
          refine absurd (tail _ (List.getElem_mem (Nat.lt_of_succ_lt_succ within))) ?_
          rw [List.getD_append _ _ _ _ (by rw [shape]; exact within), shape, List.getD_cons_succ,
            List.getD_eq_getElem _ _ (Nat.lt_of_succ_lt_succ within)] at first
          exact first
      · rw [List.getD_append_right _ _ _ _ past] at first
        rw [List.take_append, List.take_of_length_le past]
        refine (valid_char c).append (ih ?_ first)
        rw [encode_cons, List.length_append] at inside
        omega

theorem encode_infix_iff {cs ds : List Char} : encode cs <:+: encode ds ↔ cs <:+: ds := by
  constructor
  · rintro ⟨before, rest, is⟩
    cases cs with
    | nil => exact List.nil_infix
    | cons c cs =>
      have cut : (encode ds).take before.length = before := by rw [← is]; simp
      have follows : ¬IsTail ((encode ds).getD before.length 0) := by
        obtain ⟨lead, tails, shape, first, -⟩ := encodeChar_shape c
        rw [← is, List.append_assoc, List.getD_append_right _ _ _ _ (Nat.le_refl _), Nat.sub_self, encode_cons, shape]
        exact first
      have short : before.length ≤ (encode ds).length := by
        rw [← is]
        simp only [List.length_append]
        omega
      -- what stands before is a text, and so is it with the part
      obtain ⟨bs, text⟩ := (valid_take_iff ⟨ds, rfl⟩ short).mpr follows
      rw [cut] at text
      subst text
      rw [← encode_append] at is
      obtain ⟨more, rfl⟩ := encode_prefix_iff.mp ⟨rest, is⟩
      exact ⟨bs, more, rfl⟩
  · rintro ⟨before, rest, rfl⟩
    exact ⟨encode before, encode rest, by rw [encode_append, encode_append]⟩

/-! ### Decoding -/

/-- The text that a sequence of bytes encodes. -/
def decode (s : List UInt8) : Option (List Char) := s.toByteArray.utf8Decode?.map Array.toList

@[simp] theorem decode_encode (cs : List Char) : decode (encode cs) = some cs := by
  have decoded : cs.utf8Encode.utf8Decode? = some cs.toArray := List.utf8Decode?_utf8Encode
  rw [decode]
  show cs.utf8Encode.utf8Decode?.map Array.toList = some cs
  rw [decoded, Option.map_some]

/-- What can be decoded encodes a text. -/
theorem decode_isSome_iff {s : List UInt8} : (decode s).isSome = true ↔ Valid s := by
  constructor
  · intro decoded
    rw [decode, Option.isSome_map, ByteArray.isSome_utf8Decode?_iff] at decoded
    obtain ⟨cs, is⟩ := decoded
    exact ⟨cs, List.toByteArray_inj.mp is⟩
  · rintro ⟨cs, rfl⟩
    rw [decode_encode]
    rfl

instance (s : List UInt8) : Decidable (Valid s) := decidable_of_iff _ decode_isSome_iff

/-! ### Replacing ASCII characters -/

theorem high_byte (b : UInt8) :
    0x80 ≤ (b &&& 0x3f ||| 0x80) ∧ 0x80 ≤ (b &&& 0x1f ||| 0xc0) ∧ 0x80 ≤ (b &&& 0x0f ||| 0xe0) ∧
      0x80 ≤ (b &&& 0x07 ||| 0xf0) :=
  forall_byte (p := fun b => 0x80 ≤ (b &&& 0x3f ||| 0x80) ∧ 0x80 ≤ (b &&& 0x1f ||| 0xc0) ∧
    0x80 ≤ (b &&& 0x0f ||| 0xe0) ∧ 0x80 ≤ (b &&& 0x07 ||| 0xf0)) (by decide +kernel) b

/-- The bytes of a character are all ASCII or all not. -/
theorem encodeChar_high {c : Char} (other : 127 < c.val) : ∀ b ∈ String.utf8EncodeChar c, 0x80 ≤ b := by
  have many : c.utf8Size ≠ 1 := fun size => UInt32.not_le.mpr other (Char.utf8Size_eq_one_iff.mp size)
  rcases c.utf8Size_eq with size | size | size | size
  · exact absurd size many
  · rw [String.utf8EncodeChar_eq_cons_cons size]
    exact List.forall_mem_cons.mpr ⟨(high_byte _).2.1, List.forall_mem_singleton.mpr (high_byte _).1⟩
  · rw [String.utf8EncodeChar_eq_cons_cons_cons size]
    exact List.forall_mem_cons.mpr ⟨(high_byte _).2.2.1,
      List.forall_mem_cons.mpr ⟨(high_byte _).1, List.forall_mem_singleton.mpr (high_byte _).1⟩⟩
  · rw [String.utf8EncodeChar_eq_cons_cons_cons_cons size]
    have last := List.forall_mem_singleton.mpr (high_byte c.val.toUInt8).1
    exact List.forall_mem_cons.mpr ⟨(high_byte _).2.2.2,
      List.forall_mem_cons.mpr ⟨(high_byte _).1, List.forall_mem_cons.mpr ⟨(high_byte _).1, last⟩⟩⟩

/-- Bytes and characters are replaced alike where only ASCII characters are. -/
theorem encode_flatMap {f : UInt8 → List UInt8} {g : Char → List Char}
    (low : ∀ n < 128, f (UInt8.ofNat n) = encode (g (Char.ofNat n))) (high : ∀ b, 0x80 ≤ b → f b = [b])
    (others : ∀ c : Char, 127 < c.val → g c = [c]) (cs : List Char) :
    (encode cs).flatMap f = encode (cs.flatMap g) := by
  induction cs with
  | nil => rfl
  | cons c cs ih =>
    have one : (String.utf8EncodeChar c).flatMap f = encode (g c) := by
      rcases Nat.lt_or_ge c.toNat 128 with ascii | other
      · have size : c.utf8Size = 1 := Char.utf8Size_eq_one_iff.mpr (UInt32.le_iff_toNat_le.mpr (Nat.le_of_lt_succ ascii))
        have is := low c.toNat ascii
        rw [Char.ofNat_toNat] at is
        rw [String.utf8EncodeChar_eq_singleton size, List.flatMap_singleton]
        exact is
      · have other : 127 < c.val := UInt32.lt_iff_toNat_lt.mpr other
        have same : (String.utf8EncodeChar c).flatMap f = (String.utf8EncodeChar c).flatMap fun b => [b] :=
          List.flatMap_congr fun b byte => high b (encodeChar_high other b byte)
        rw [same, others c other, encode_cons, encode_nil, List.append_nil, List.flatMap_singleton']
    rw [encode_cons, List.flatMap_append, one, ih, List.flatMap_cons, encode_append]

end NovaIIM.Utf8
