import Mathlib.Algebra.Field.ZMod

/-!
# Probing a table of prime size with a fixed stride

A table of `p` slots probed from `x` with stride `s` visits `x, x + s, x + 2s, …`, each
taken modulo `p`; code that keeps the position below `p` writes the step as one
conditional subtraction, `stepWrap`. A search walks on while the slot it stands on is
taken and stops at the first free one, `probe`.

When `p` is prime and `0 < s < p`, the stride is invertible modulo `p`, so the first `p`
positions of the walk are all `p` slots: a search with `p` steps of fuel finds a free
slot whenever the table has one.
-/

namespace ModProbe

/-- One step of the walk: add the stride, and subtract `p` once if the sum reaches it. -/
def stepWrap (p s x : Nat) : Nat := if p ≤ x + s then x + s - p else x + s

/-- Walk from `x` by `f` while the slot is taken, looking at `fuel` slots at most; `none`
is a walk that has not stopped yet. -/
def probe {α : Type*} (taken : α → Bool) (f : α → α) : Nat → α → Option α
  | 0, _ => none
  | fuel + 1, x => if taken x then probe taken f fuel (f x) else some x

variable {p s x : Nat}

theorem stepWrap_eq_mod (hx : x < p) (hs : s ≤ p) : stepWrap p s x = (x + s) % p := by
  unfold stepWrap
  split
  · rw [Nat.mod_eq_sub_mod (by omega), Nat.mod_eq_of_lt (by omega)]
  · rw [Nat.mod_eq_of_lt (by omega)]

theorem stepWrap_lt (hx : x < p) (hs : s ≤ p) : stepWrap p s x < p := by
  unfold stepWrap
  split <;> omega

/-- The `k`-th position of the walk from `x`. -/
theorem iterate_stepWrap (hx : x < p) (hs : s ≤ p) (k : Nat) :
    (stepWrap p s)^[k] x = (x + k * s) % p := by
  induction k with
  | zero => simp [Nat.mod_eq_of_lt hx]
  | succ k ih =>
    have hlt : (x + k * s) % p < p := Nat.mod_lt _ (by omega)
    rw [Function.iterate_succ_apply', ih, stepWrap_eq_mod hlt hs, Nat.mod_add_mod, add_one_mul,
      Nat.add_assoc]

/-- With `p` prime and `0 < s < p`, the walk from any slot reaches every slot within `p`
steps: the number of steps is `(y - x) / s` in the field `ZMod p`. -/
theorem exists_iterate_stepWrap_eq {y : Nat} (hp : p.Prime) (hs0 : 0 < s) (hs : s < p)
    (hx : x < p) (hy : y < p) : ∃ k < p, (stepWrap p s)^[k] x = y := by
  have := Fact.mk hp
  have stride : (s : ZMod p) ≠ 0 := by
    rw [Ne, ZMod.natCast_eq_zero_iff]
    exact Nat.not_dvd_of_pos_of_lt hs0 hs
  obtain ⟨k, steps⟩ : ∃ k : ZMod p, k * s = (y : ZMod p) - x :=
    ⟨((y : ZMod p) - x) / (s : ZMod p), div_mul_cancel₀ _ stride⟩
  have reach : ((x + k.val * s : Nat) : ZMod p) = y := by
    push_cast [ZMod.natCast_zmod_val]
    rw [steps, add_sub_cancel]
  refine ⟨k.val, ZMod.val_lt k, ?_⟩
  rw [iterate_stepWrap hx hs.le, ← ZMod.val_natCast, reach, ZMod.val_natCast,
    Nat.mod_eq_of_lt hy]

section Probe

variable {α : Type*} {taken : α → Bool} {f : α → α}

/-- What a search returns is a free slot of its walk, reached within its fuel. -/
theorem probe_eq_some {fuel : Nat} {a b : α} (h : probe taken f fuel a = some b) :
    taken b = false ∧ ∃ k < fuel, f^[k] a = b := by
  induction fuel generalizing a with
  | zero => simp [probe] at h
  | succ fuel ih =>
    unfold probe at h
    split at h
    next =>
      obtain ⟨free, k, hk, walk⟩ := ih h
      exact ⟨free, k + 1, by omega, walk⟩
    next free =>
      cases h
      exact ⟨by simpa using free, 0, by omega, rfl⟩

/-- A search stops if its walk meets a free slot within its fuel. -/
theorem probe_isSome {fuel : Nat} {a : α} (h : ∃ k < fuel, taken (f^[k] a) = false) :
    ∃ b, probe taken f fuel a = some b := by
  induction fuel generalizing a with
  | zero =>
    obtain ⟨k, hk, -⟩ := h
    omega
  | succ fuel ih =>
    obtain ⟨k, hk, free⟩ := h
    unfold probe
    split
    · -- `a` is taken, so the free slot lies at least one step ahead
      cases k with
      | zero => simp_all
      | succ k => exact ih ⟨k, by omega, by rwa [Function.iterate_succ_apply] at free⟩
    · exact ⟨a, rfl⟩

end Probe

end ModProbe
