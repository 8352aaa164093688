import Courier.Bytes
import Mathlib.Algebra.Group.Nat.Defs

/-!
# Courier — numbers in bytes

* `ofLittleEndian_littleEndian`, `ofBigEndian_bigEndian` — a number that fits reads back;
* `ofLittleEndian_lt` — so many bytes hold numbers up to a power of 256.
-/

namespace Courier.Bytes

/-- A number below `256 ^ k` is read back from its `k` bytes; a larger one loses its high part. -/
theorem ofLittleEndian_littleEndian (k n : Nat) :
    ofLittleEndian (littleEndian k n) = n % 256 ^ k := by
  induction k generalizing n with
  | zero => simp [littleEndian, ofLittleEndian, Nat.mod_one]
  | succ k ih =>
    rw [littleEndian, ofLittleEndian, ih, Nat.pow_succ, Nat.mul_comm (256 ^ k) 256,
      Nat.mod_mul]
    simp

/-- What the little-endian bytes denote is bounded by their number. -/
theorem ofLittleEndian_lt (bs : Bytes) : ofLittleEndian bs < 256 ^ bs.length := by
  induction bs with
  | nil => simp [ofLittleEndian]
  | cons b bs ih =>
    have hb : b.toNat < 256 := b.toNat_lt
    rw [List.length_cons, Nat.pow_succ, ofLittleEndian]
    omega

/-- A number below `256 ^ k` is read back from its `k` big-endian bytes. -/
theorem ofBigEndian_bigEndian (k n : Nat) : ofBigEndian (bigEndian k n) = n % 256 ^ k := by
  simp [ofBigEndian, bigEndian, ofLittleEndian_littleEndian]

end Courier.Bytes
