import Mathlib.Data.Nat.Bitwise

/-!
Numbers as bytes, the lowest byte first.

`writeLE` shifts the bytes out of a number and `readLE` puts them together again.
Each undoes the other on the numbers and the texts of one width.
-/
namespace NovaIIM

/-- So many bytes of a number. -/
def writeLE : Nat → Nat → List UInt8
  | 0, _ => []
  | width + 1, v => UInt8.ofNat v :: writeLE width (v >>> 8)

/-- The number that the bytes are of. -/
def readLE : List UInt8 → Nat
  | [] => 0
  | b :: bytes => b.toNat ||| readLE bytes <<< 8

@[simp] theorem length_writeLE (width v : Nat) : (writeLE width v).length = width := by
  induction width generalizing v with
  | zero => rfl
  | succ width ih => simp [writeLE, ih]

theorem readLE_cons (b : UInt8) (bytes : List UInt8) : readLE (b :: bytes) = b.toNat + 256 * readLE bytes := by
  have low : b.toNat < 2 ^ 8 := b.toNat_lt
  rw [readLE, Nat.or_comm, ← Nat.shiftLeft_add_eq_or_of_lt low, Nat.shiftLeft_eq]
  omega

theorem readLE_lt (bytes : List UInt8) : readLE bytes < 256 ^ bytes.length := by
  induction bytes with
  | nil => exact Nat.one_pos
  | cons b bytes ih =>
    have low : b.toNat < 256 := b.toNat_lt
    rw [readLE_cons, List.length_cons, pow_succ]
    omega

/-- What does not fit the width is cut off. -/
theorem readLE_writeLE (width v : Nat) : readLE (writeLE width v) = v % 256 ^ width := by
  induction width generalizing v with
  | zero => simp [writeLE, readLE, Nat.mod_one]
  | succ width ih =>
    have low : (UInt8.ofNat v).toNat = v % 256 := UInt8.toNat_ofNat'
    have high : v >>> 8 = v / 256 := Nat.shiftRight_eq_div_pow v 8
    rw [writeLE, readLE_cons, ih, low, high, pow_succ', Nat.mod_mul]

theorem readLE_writeLE_of_lt {width v : Nat} (fits : v < 256 ^ width) : readLE (writeLE width v) = v := by
  rw [readLE_writeLE, Nat.mod_eq_of_lt fits]

theorem writeLE_readLE (bytes : List UInt8) : writeLE bytes.length (readLE bytes) = bytes := by
  induction bytes with
  | nil => rfl
  | cons b bytes ih =>
    have low : b.toNat < 256 := b.toNat_lt
    have rest : readLE (b :: bytes) >>> 8 = readLE bytes := by
      rw [readLE_cons, Nat.shiftRight_eq_div_pow]
      omega
    have first : UInt8.ofNat (readLE (b :: bytes)) = b := by
      rw [readLE_cons, ← UInt8.toNat_inj, UInt8.toNat_ofNat']
      omega
    rw [List.length_cons, writeLE, rest, ih, first]

end NovaIIM
