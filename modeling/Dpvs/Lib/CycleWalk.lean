import Mathlib.Data.List.Rotate

/-!
# A do-while walk around a cycle

`do { if (hit q) goto out; q = q->next; } while (q != p);` walks the links of a cyclic
list from `p` back to `p` and leaves at the first node that hits. Within a budget of
`fuel` rounds, `walk next pick p fuel q` is that loop at node `q`: `some (some c)` at the
first hit `c`, `some none` when the walk comes back to `p`, and `none` when the budget
runs out.

A cycle is a list whose every member is linked to the one after it and the last to the
first (`IsCycle`); every rotation of a cycle is one (`IsCycle.rotate`). Walking a cycle
without repeated members from its first member returns the first hit in the list's
order, within as many rounds as the cycle has members (`walk_of_isCycle`).
-/

namespace CycleWalk

variable {β γ : Type*} (next : β → β) (pick : β → Option γ)

/-- Every member of `L` is linked to the one after it, and the last to the first. -/
def IsCycle (L : List β) : Prop :=
  ∀ (i : Nat) (x : β), L[i]? = some x → L[(i + 1) % L.length]? = some (next x)

variable {next} in
/-- A cycle read from any of its members is a cycle. -/
theorem IsCycle.rotate {L : List β} (cyc : IsCycle next L) (k : Nat) :
    IsCycle next (L.rotate k) := by
  intro i x hx
  have inside : i < L.length := by simpa using (List.getElem?_eq_some_iff.mp hx).1
  have pos : 0 < L.length := by omega
  rw [List.getElem?_rotate inside] at hx
  rw [List.length_rotate, List.getElem?_rotate (Nat.mod_lt _ pos)]
  -- both indices are `i + k + 1` around the cycle
  have index : ((i + 1) % L.length + k) % L.length = ((i + k) % L.length + 1) % L.length := by
    rw [Nat.mod_add_mod, Nat.mod_add_mod, Nat.add_right_comm]
  rw [index]
  exact cyc _ x hx

variable [DecidableEq β]

/-- The do-while walk at node `q`, back to `p`, for at most `fuel` rounds. -/
def walk (p : β) : Nat → β → Option (Option γ)
  | 0, _ => none
  | fuel + 1, q =>
    match pick q with
    | some c => some (some c)
    | none => if next q = p then some none else walk p fuel (next q)

variable {next pick}

/-- From the `j`-th member of a cycle without repeats, the walk returns the first hit of
the members from the `j`-th on. -/
theorem walk_drop {L : List β} {p : β} (cyc : IsCycle next L) (nodup : L.Nodup)
    (first : L[0]? = some p) :
    ∀ (fuel j : Nat) (x : β), L[j]? = some x → L.length ≤ fuel + j →
      walk next pick p fuel x = some ((L.drop j).findSome? pick)
  | 0, j, x, hx, enough => by
    have := (List.getElem?_eq_some_iff.mp hx).1
    omega
  | fuel + 1, j, x, hx, enough => by
    obtain ⟨inside, hxj⟩ := List.getElem?_eq_some_iff.mp hx
    rw [List.drop_eq_getElem_cons inside, hxj, walk, List.findSome?_cons]
    cases hit : pick x with
    | some c => rfl
    | none =>
      have link := cyc j x hx
      by_cases last : j + 1 = L.length
      · -- the last member links back to `p`: the walk is over
        rw [last, Nat.mod_self, first, Option.some.injEq] at link
        rw [if_pos link.symm, List.drop_eq_nil_of_le (by omega), List.findSome?_nil]
      · rw [Nat.mod_eq_of_lt (by omega)] at link
        have fresh : next x ≠ p := by
          intro back
          rw [back, ← first] at link
          have := (List.getElem?_inj (by omega) nodup).mp link
          omega
        rw [if_neg fresh]
        exact walk_drop cyc nodup first fuel (j + 1) (next x) link (by omega)

/-- The walk of a cycle without repeats from its first member returns the cycle's first
hit. -/
theorem walk_of_isCycle {L : List β} {p : β} (cyc : IsCycle next L) (nodup : L.Nodup)
    (first : L[0]? = some p) {fuel : Nat} (enough : L.length ≤ fuel) :
    walk next pick p fuel p = some (L.findSome? pick) := by
  rw [walk_drop cyc nodup first fuel 0 p first (by omega), List.drop_zero]

end CycleWalk
