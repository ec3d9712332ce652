import Mathlib

/-!
# One's-complement sums of 16-bit words

The internet checksum adds 16-bit words with an end-around carry: a carry out of bit 15
is added back in at bit 0. Over `ℕ` this is arithmetic modulo `2^16 - 1 = 0xffff`, since
`2^16 ≡ 1`: folding the carries of a sum back in (`reduce`) keeps its residue, and two
folds bring any sum below `2^32` down to 16 bits (`fold_le`). A header whose words fold
to `0xffff` is one whose sum is a non-zero multiple of `0xffff` (`fold_eq_ffff_iff`), so
a change of the words that keeps the residue and leaves some word non-zero keeps the
header valid.

An incremental update adds a word `b` to a stored sum `a` and folds the carry in by
hand: `c = a + b; c + (c >= 0xffff)`, truncated to 16 bits. It keeps the residue of
`a + b` (`addCarry_mod`); it writes `0x0000` where a fold would write `0xffff`, the
other zero of the arithmetic.
-/

namespace OnesComplement

/-- One end-around carry: the bits above 16 added back in at bit 0. -/
def reduce (x : Nat) : Nat := x / 2 ^ 16 + x % 2 ^ 16

/-- Two end-around carries, enough for a sum below `2^32`. -/
def fold (x : Nat) : Nat := reduce (reduce x)

/-- The carry added back by hand and the result truncated to 16 bits. -/
def addCarry (a b : Nat) : Nat := (a + b + if 0xffff ≤ a + b then 1 else 0) % 2 ^ 16

theorem reduce_mod (x : Nat) : reduce x % 0xffff = x % 0xffff := by
  unfold reduce
  omega

theorem fold_mod (x : Nat) : fold x % 0xffff = x % 0xffff := by
  rw [fold, reduce_mod, reduce_mod]

theorem fold_eq_zero_iff (x : Nat) : fold x = 0 ↔ x = 0 := by
  unfold fold reduce
  omega

theorem fold_le {x : Nat} (h : x < 2 ^ 32) : fold x ≤ 0xffff := by
  unfold fold reduce
  omega

/-- A 32-bit sum folds to `0xffff` exactly when it is a non-zero multiple of `0xffff`. -/
theorem fold_eq_ffff_iff {x : Nat} (h : x < 2 ^ 32) : fold x = 0xffff ↔ x % 0xffff = 0 ∧ x ≠ 0 := by
  have residue := fold_mod x
  have zero := fold_eq_zero_iff x
  have bound := fold_le h
  constructor
  · intro ffff
    rw [ffff] at residue zero
    exact ⟨by omega, by omega⟩
  · rintro ⟨multiple, nonzero⟩
    omega

/-- The hand-folded addition keeps the residue of the sum. -/
theorem addCarry_mod {a b : Nat} (ha : a < 2 ^ 16) (hb : b < 2 ^ 16) :
    addCarry a b % 0xffff = (a + b) % 0xffff := by
  unfold addCarry
  split_ifs <;> omega

end OnesComplement
