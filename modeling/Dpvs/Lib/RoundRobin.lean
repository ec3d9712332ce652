import Mathlib.Algebra.BigOperators.Group.List.Basic
import Mathlib.Data.List.Count

/-!
# Shares of a round-robin schedule cut short

A round of a round-robin schedule is a list `L` of takers, each as often as its share;
the schedule repeats the round, and a table of `n` slots is filled by its first `n`
entries. With `R = n / L.length` whole rounds fitting in the table, a taker that comes
`k` times a round gets between `R * k` and `(R + 1) * k` slots: the first `R` rounds are
a prefix of the cut schedule, and the cut schedule is a prefix of `R + 1` rounds.
-/

namespace RoundRobin

variable {α : Type*} {L : List α}

/-- `m` rounds of `L`, one after the other. -/
def rounds (L : List α) (m : Nat) : List α := (List.replicate m L).flatten

@[simp] theorem length_rounds (L : List α) (m : Nat) : (rounds L m).length = m * L.length := by
  simp [rounds, List.sum_replicate]

@[simp] theorem rounds_zero (L : List α) : rounds L 0 = [] := rfl

theorem rounds_succ (L : List α) (m : Nat) : rounds L (m + 1) = rounds L m ++ L := by
  simp [rounds, List.replicate_succ']

theorem mem_rounds {a : α} {m : Nat} (h : a ∈ rounds L m) : a ∈ L := by
  simp only [rounds, List.mem_flatten, List.mem_replicate] at h
  obtain ⟨l, ⟨-, rfl⟩, mem⟩ := h
  exact mem

theorem count_rounds [DecidableEq α] (L : List α) (m : Nat) (a : α) :
    (rounds L m).count a = m * L.count a := by
  simp [rounds, List.count_flatten, List.sum_replicate]

/-- Fewer rounds are a prefix of more. -/
theorem rounds_isPrefix_of_le {m k : Nat} (h : m ≤ k) : rounds L m <+: rounds L k := by
  induction k with
  | zero => simp [Nat.le_zero.mp h]
  | succ k ih =>
    rcases Nat.lt_or_eq_of_le h with lt | rfl
    · rw [rounds_succ]
      exact (ih (by omega)).trans (List.prefix_append _ _)
    · exact List.prefix_refl _

/-- The first `n` entries of any number of rounds are a prefix of every number of rounds
that holds `n` entries. -/
theorem take_rounds_isPrefix_of_le {m k n : Nat} (hk : n ≤ k * L.length) :
    (rounds L m).take n <+: rounds L k := by
  rcases Nat.le_total m k with le | le
  · exact (List.take_prefix n _).trans (rounds_isPrefix_of_le le)
  · -- more rounds than needed: the first `n` entries lie inside the first `k` rounds
    obtain ⟨rest, split⟩ : rounds L k <+: rounds L m := rounds_isPrefix_of_le le
    rw [← split, List.take_append_of_le_length (by simpa using hk)]
    exact List.take_prefix n _

/-- A taker's slots among the first `n` entries of the schedule, for a schedule of at
least `n` entries. -/
theorem count_take_rounds [DecidableEq α] (a : α) (hL : 0 < L.length) {m n : Nat}
    (hm : n ≤ m * L.length) :
    n / L.length * L.count a ≤ ((rounds L m).take n).count a ∧
      ((rounds L m).take n).count a ≤ (n / L.length + 1) * L.count a := by
  have whole : n / L.length * L.length ≤ n := Nat.div_mul_le_self n L.length
  have cover : n ≤ (n / L.length + 1) * L.length := by
    have := Nat.lt_mul_div_succ n hL
    rw [Nat.mul_comm] at this
    omega
  constructor
  · -- `R` whole rounds come first
    have first : rounds L (n / L.length) <+: (rounds L m).take n := by
      refine List.prefix_take_iff.mpr ⟨rounds_isPrefix_of_le ?_, by simpa using whole⟩
      exact Nat.le_of_mul_le_mul_right (Nat.le_trans whole hm) hL
    calc n / L.length * L.count a = (rounds L (n / L.length)).count a := (count_rounds ..).symm
      _ ≤ ((rounds L m).take n).count a := first.sublist.count_le a
  · -- and the cut schedule ends inside round `R + 1`
    calc ((rounds L m).take n).count a ≤ (rounds L (n / L.length + 1)).count a :=
          (take_rounds_isPrefix_of_le cover).sublist.count_le a
      _ = (n / L.length + 1) * L.count a := count_rounds ..

end RoundRobin
