import NovaIIM.ConvService
import NovaIIM.Utf8

/-!
The previews of messages (`TruncateUtf8` in `msg_service.cpp` and, with the same
body, in `conv_service.cpp`).

The scan goes back from the limit over continuation bytes (`cutPosition_tails`)
and stops at the last place in front of a character (`cutPosition_first`), which
is where the longest text that fits ends.
-/
namespace NovaIIM.ConvService
open Utf8

theorem cutPosition_le (s : Bytes) (pos : Nat) : cutPosition s pos ≤ pos := by
  induction pos with
  | zero => exact Nat.le_refl 0
  | succ pos ih =>
    rw [cutPosition]
    split
    · exact Nat.le_succ_of_le ih
    · exact Nat.le_refl _

/-- The scan passes continuation bytes only. -/
theorem cutPosition_tails {s : Bytes} {pos at_ : Nat} (after : cutPosition s pos < at_) (within : at_ ≤ pos) :
    IsTail (s.getD at_ 0) := by
  induction pos with
  | zero => exact absurd (Nat.lt_of_lt_of_le after within) (Nat.not_lt_zero _)
  | succ pos ih =>
    rw [cutPosition] at after
    split at after
    · rename_i tail
      rcases Nat.lt_or_eq_of_le within with less | rfl
      · exact ih after (Nat.le_of_lt_succ less)
      · exact tail
    · omega

/-- In a text the scan does not stop inside a character. -/
theorem cutPosition_first {s : Bytes} (valid : Utf8.Valid s) (pos : Nat) : ¬IsTail (s.getD (cutPosition s pos) 0) := by
  induction pos with
  | zero =>
    obtain ⟨cs, rfl⟩ := valid
    exact not_isTail_head cs
  | succ pos ih =>
    rw [cutPosition]
    split
    · exact ih
    · assumption

/-- What is left is a text: of the whole characters at the beginning, as many as fit. -/
theorem truncateUtf8_longest (s : Bytes) (valid : Utf8.Valid s) (maxLen : Nat) :
    Utf8.Valid (truncateUtf8 s maxLen) ∧ truncateUtf8 s maxLen <+: s ∧ (truncateUtf8 s maxLen).length ≤ maxLen ∧
      ∀ t, Utf8.Valid t → t <+: s → t.length ≤ maxLen → t <+: truncateUtf8 s maxLen := by
  unfold truncateUtf8
  split
  · rename_i fits
    exact ⟨valid, List.prefix_refl s, fits, fun t _ inside _ => inside⟩
  · rename_i long
    have cut := cutPosition_le s maxLen
    have inside : cutPosition s maxLen ≤ s.length := by omega
    refine ⟨(valid_take_iff valid inside).mpr (cutPosition_first valid maxLen), List.take_prefix _ s, ?_, ?_⟩
    · rw [List.length_take]
      omega
    · intro t text begins fits
      -- a longer text would end in front of a byte that the scan has passed
      have first : ¬IsTail (s.getD t.length 0) := by
        refine (valid_take_iff valid begins.length_le).mp ?_
        rwa [← List.prefix_iff_eq_take.mp begins]
      have short : t.length ≤ cutPosition s maxLen :=
        Nat.le_of_not_lt fun longer => first (cutPosition_tails longer fits)
      exact List.prefix_of_prefix_length_le begins (List.take_prefix _ s) (by rw [List.length_take]; omega)

theorem truncateUtf8_longest_umlaut :
    Utf8.Valid (encode ['ä', 'b']) ∧
      Utf8.Valid (truncateUtf8 (encode ['ä', 'b']) 1) ∧ truncateUtf8 (encode ['ä', 'b']) 1 <+: encode ['ä', 'b'] ∧
        (truncateUtf8 (encode ['ä', 'b']) 1).length ≤ 1 ∧
          ∀ t, Utf8.Valid t → t <+: encode ['ä', 'b'] → t.length ≤ 1 → t <+: truncateUtf8 (encode ['ä', 'b']) 1 :=
  ⟨⟨_, rfl⟩, truncateUtf8_longest (encode ['ä', 'b']) ⟨_, rfl⟩ 1⟩

example : truncateUtf8 (encode ['ä', 'b']) 1 = [] := by decide

end NovaIIM.ConvService
