import Mathlib.Algebra.Group.Nat.Defs
import Mathlib.Data.Nat.Log

/-!
Powers of two in machine words.

A word of any width is a power of two exactly if clearing its lowest set bit
leaves nothing (`isPowerOfTwo_iff`). A loop that doubles a power of two until it
reaches a bound stops at the least power that does (`doubleTo_least`), but only
where that power fits: past the highest bit the word becomes 0 and stays there
(`doubleTo_diverges`).
-/
namespace NovaIIM.WordPowers
variable {w : Nat}

/-- `while (p < n) p <<= 1`, for at most so many rounds. -/
def doubleTo (n : BitVec w) : Nat → BitVec w → Option (BitVec w)
  | 0, _ => none
  | fuel + 1, p => if p < n then doubleTo n fuel (p <<< 1) else some p

theorem toNat_twoPow {i : Nat} (small : i < w) : (BitVec.twoPow w i).toNat = 2 ^ i := by
  rw [BitVec.toNat_twoPow, Nat.mod_eq_of_lt (Nat.pow_lt_pow_right (by decide) small)]

/-- Doubling a power leads to the next one, or past the highest bit to 0. -/
theorem twoPow_shift (i : Nat) : BitVec.twoPow w i <<< 1 = BitVec.twoPow w (i + 1) := by
  apply BitVec.eq_of_toNat_eq
  rw [BitVec.toNat_shiftLeft, BitVec.toNat_twoPow, BitVec.toNat_twoPow, Nat.shiftLeft_eq, Nat.pow_one, Nat.pow_succ,
    Nat.mod_mul_mod]

theorem isPowerOfTwo_iff {n : BitVec w} (positive : 0 < n.toNat) : n &&& (n - 1) = 0 ↔ n.toNat.isPowerOfTwo := by
  have wide : 0 < w := by
    rcases Nat.eq_zero_or_pos w with rfl | wide
    · simp [BitVec.toNat_of_zero_length] at positive
    · exact wide
  have less : (n - 1).toNat = n.toNat - 1 := by
    have one : (1 : BitVec w).toNat = 1 := by
      exact (BitVec.toNat_ofNat 1 w).trans (Nat.mod_eq_of_lt (Nat.one_lt_two_pow (by omega)))
    rw [BitVec.toNat_sub_of_le (by rw [BitVec.le_def, one]; exact positive), one]
  rw [← Nat.and_sub_one_eq_zero_iff_isPowerOfTwo (by omega), ← less, ← BitVec.toNat_and,
    ← BitVec.toNat_inj]
  exact Iff.rfl

/-- From any power up to the least one that reaches the bound, the loop ends at the latter. -/
theorem doubleTo_least {n : BitVec w} (fits : Nat.clog 2 n.toNat < w) (rounds : Nat)
    (near : rounds ≤ Nat.clog 2 n.toNat) :
    doubleTo n (rounds + 1) (BitVec.twoPow w (Nat.clog 2 n.toNat - rounds)) =
      some (BitVec.twoPow w (Nat.clog 2 n.toNat)) := by
  induction rounds with
  | zero =>
    have reached : ¬BitVec.twoPow w (Nat.clog 2 n.toNat) < n := by
      rw [BitVec.lt_def, toNat_twoPow fits]
      exact Nat.not_lt.mpr (Nat.le_pow_clog (by decide) _)
    rw [Nat.sub_zero, doubleTo, if_neg reached]
  | succ rounds ih =>
    have below : BitVec.twoPow w (Nat.clog 2 n.toNat - (rounds + 1)) < n := by
      rw [BitVec.lt_def, toNat_twoPow (by omega)]
      exact Nat.pow_lt_of_lt_clog (by omega)
    have next : Nat.clog 2 n.toNat - (rounds + 1) + 1 = Nat.clog 2 n.toNat - rounds := by omega
    rw [doubleTo, if_pos below, twoPow_shift, next]
    exact ih (by omega)

/-- A loop that has ended does not use further rounds. -/
theorem doubleTo_enough {n p least : BitVec w} {fuel more : Nat} (ends : doubleTo n fuel p = some least)
    (enough : fuel ≤ more) : doubleTo n more p = some least := by
  induction fuel generalizing p more with
  | zero => cases ends
  | succ fuel ih =>
    obtain ⟨rest, rfl⟩ : ∃ rest, more = rest + 1 := ⟨more - 1, by omega⟩
    rw [doubleTo] at ends ⊢
    split
    · rename_i below
      rw [if_pos below] at ends
      exact ih ends (by omega)
    · rename_i reached
      rwa [if_neg reached] at ends

/-- Above the highest power the loop never ends. -/
theorem doubleTo_diverges {n : BitVec w} (wide : 0 < w) (high : w ≤ Nat.clog 2 n.toNat) (fuel i : Nat) :
    doubleTo n fuel (BitVec.twoPow w i) = none := by
  induction fuel generalizing i with
  | zero => rfl
  | succ fuel ih =>
    have below : BitVec.twoPow w i < n := by
      rw [BitVec.lt_def]
      rcases Nat.lt_or_ge i w with small | past
      · rw [toNat_twoPow small]
        exact Nat.pow_lt_of_lt_clog (by omega)
      · have zero : (BitVec.twoPow w i).toNat = 0 := by
          rw [BitVec.toNat_twoPow]
          exact Nat.mod_eq_zero_of_dvd (Nat.pow_dvd_pow 2 past)
        have one : 2 ^ 0 < n.toNat := Nat.pow_lt_of_lt_clog (by omega)
        omega
    rw [doubleTo, if_pos below, twoPow_shift]
    exact ih (i + 1)

end NovaIIM.WordPowers
