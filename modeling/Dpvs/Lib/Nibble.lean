import Mathlib.Tactic.IntervalCases

/-!
# Nibble-shifted bytes

A byte string written one nibble late puts the high nibble of each byte in the low
nibble of one cell and its low nibble in the high nibble of the next, which leaves the
high nibble of the first cell and the low nibble of the last free for other data.
Reading it back takes, for each pair of neighbouring cells, the byte that straddles
them (`straddle`). The cells are built by OR-ing nibbles into place; the lemmas below
say which nibble of a cell an OR or a mask leaves alone, and that a byte is its two
nibbles put together again (`straddle_eq`).
-/

namespace Nibble

/-- The low nibble of `b` followed by the high nibble of `c`. -/
def straddle (b c : UInt8) : UInt8 := ((b &&& 0xf) <<< 4) ||| ((c >>> 4) &&& 0xf)

/-- A byte is its high nibble shifted back above its low nibble. -/
theorem recombine (a : UInt8) : ((a >>> 4) <<< 4) ||| (a &&& 0xf) = a := by
  apply UInt8.toBitVec_inj.mp
  simp only [UInt8.toBitVec_and, UInt8.toBitVec_or, UInt8.toBitVec_shiftRight,
    UInt8.toBitVec_shiftLeft]
  ext i hi
  interval_cases i <;> simp

theorem shiftRight_and_low (a : UInt8) : (a >>> 4) &&& (0xf : UInt8) = a >>> 4 := by
  apply UInt8.toBitVec_inj.mp
  simp only [UInt8.toBitVec_and, UInt8.toBitVec_shiftRight]
  ext i hi
  interval_cases i <;> simp

/-- The byte straddling two cells is the byte whose nibbles they hold. -/
theorem straddle_eq {a b c : UInt8} (low : b &&& (0xf : UInt8) = a >>> 4)
    (high : c >>> 4 = a &&& (0xf : UInt8)) : straddle b c = a := by
  have masked : (a &&& 0xf) &&& 0xf = a &&& 0xf := by rw [UInt8.and_assoc, UInt8.and_self]
  rw [straddle, low, high, masked, recombine]

/-! ### Which nibble an OR or a mask keeps -/

/-- OR-ing into a cell whose low nibble is clear gives the low nibble of what is OR-ed. -/
theorem or_and_low {x y : UInt8} (hx : x &&& 0xf = 0) : (x ||| y) &&& 0xf = y &&& 0xf := by
  have distrib : (x ||| y) &&& 0xf = (x &&& 0xf) ||| (y &&& 0xf) :=
    UInt8.toBitVec_inj.mp (by ext i; simp [Bool.and_or_distrib_right])
  rw [distrib, hx, UInt8.zero_or]

/-- OR-ing a value below 16 into a cell keeps its high nibble. -/
theorem or_shiftRight_high {x y : UInt8} (hy : y >>> 4 = 0) : (x ||| y) >>> 4 = x >>> 4 := by
  rw [UInt8.shiftRight_or, hy, UInt8.or_zero]

theorem shiftLeft_and_low (a : UInt8) : (a <<< 4) &&& 0xf = 0 := by
  apply UInt8.toBitVec_inj.mp
  simp only [UInt8.toBitVec_and, UInt8.toBitVec_shiftLeft, UInt8.toBitVec_zero]
  ext i hi
  interval_cases i <;> simp

theorem and_low_shiftRight (a : UInt8) : (a &&& 0xf) >>> 4 = 0 := by
  apply UInt8.toBitVec_inj.mp
  simp only [UInt8.toBitVec_and, UInt8.toBitVec_shiftRight, UInt8.toBitVec_zero]
  ext i hi
  interval_cases i <;> simp

theorem shiftRight_shiftRight (a : UInt8) : (a >>> 4) >>> 4 = 0 := by
  apply UInt8.toBitVec_inj.mp
  simp only [UInt8.toBitVec_shiftRight, UInt8.toBitVec_zero]
  ext i hi
  interval_cases i <;> simp

/-- The high nibble of a low nibble shifted up is that nibble. -/
theorem shiftLeft_shiftRight (a : UInt8) : ((a &&& 0xf) <<< 4) >>> 4 = a &&& 0xf := by
  apply UInt8.toBitVec_inj.mp
  simp only [UInt8.toBitVec_and, UInt8.toBitVec_shiftLeft, UInt8.toBitVec_shiftRight]
  ext i hi
  interval_cases i <;> simp

/-- Masking a cell to its high nibble keeps that nibble and clears the low one. -/
theorem and_high_shiftRight (a : UInt8) : (a &&& 0xf0) >>> 4 = a >>> 4 := by
  apply UInt8.toBitVec_inj.mp
  simp only [UInt8.toBitVec_and, UInt8.toBitVec_shiftRight]
  ext i hi
  interval_cases i <;> simp

theorem and_high_and_low (a : UInt8) : (a &&& 0xf0) &&& 0xf = 0 := by
  rw [UInt8.and_assoc]
  exact UInt8.and_zero

/-- A value below 16 is its own low nibble. -/
theorem and_low_of_lt {a : UInt8} (small : a.toNat < 16) : a &&& 0xf = a := by
  apply UInt8.toNat_inj.mp
  rw [UInt8.toNat_and, show (0xf : UInt8).toNat = 2 ^ 4 - 1 from rfl, Nat.and_two_pow_sub_one_eq_mod]
  omega

/-- The high nibble is below 16. -/
theorem toNat_shiftRight_lt (a : UInt8) : (a >>> 4).toNat < 16 := by
  rw [UInt8.toNat_shiftRight, Nat.shiftRight_eq_div_pow]
  have := a.toNat_lt
  have four : (4 : UInt8).toNat % 8 = 4 := rfl
  rw [four]
  omega

end Nibble
