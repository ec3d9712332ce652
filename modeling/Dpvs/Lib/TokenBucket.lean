import Mathlib

/-!
# Token buckets that count time

A token bucket holds a level counted in units of time. A take at time `t` refills the
level by the time since the last take `tc`, at most `cap` of it and not above the
bucket's `depth`, then takes the take's `cost`, and it happens only when the level left
is not negative. A run of takes is `Run cap depth level tc takes final`.

Over a run whose takes come in order of time, the costs of the takes up to a time never
exceed the level at the start and the time since (`Run.sum_until_le`), and, since the first
take of a window caps the level at the depth, the costs of the takes between two times
exceed the time between them by at most the depth (`Run.window_sum_le`): the bucket's burst
bound.
-/

namespace TokenBucket

/-- The level at a take at `t`, before its cost: the `level` at the last take `tc`,
refilled by the time since, at most `cap` of it, and not above `depth`. -/
def refill (cap depth level tc t : Int) : Int := min (level + min (t - tc) cap) depth

/-- A run of takes `(t, cost)` from `level` at the last take `tc`, leaving `final`: each
take leaves a level that is not negative. -/
inductive Run (cap depth : Int) : Int → Int → List (Int × Int) → Int → Prop
  | nil (level tc : Int) : Run cap depth level tc [] level
  | cons {level tc t cost final : Int} {rest : List (Int × Int)} :
      0 ≤ refill cap depth level tc t - cost →
      Run cap depth (refill cap depth level tc t - cost) t rest final →
      Run cap depth level tc ((t, cost) :: rest) final

variable {cap depth : Int}

theorem refill_le_depth (level tc t : Int) : refill cap depth level tc t ≤ depth :=
  Int.min_le_right _ _

/-- A refill adds no more than the time elapsed. -/
theorem refill_le_elapsed (level tc t : Int) : refill cap depth level tc t ≤ level + (t - tc) := by
  unfold refill
  omega

/-- No take of a list whose takes all come at `t` or later passes a filter that keeps only
takes up to `tb`, when `tb` is before `t`. -/
theorem filter_eq_nil_of_later {rest : List (Int × Int)} {t tb : Int} (keep : Int × Int → Bool)
    (later : ∀ p ∈ rest, t ≤ p.1) (past : tb < t) (keeps : ∀ p, keep p = true → p.1 ≤ tb) :
    rest.filter keep = [] :=
  List.filter_eq_nil_iff.mpr fun p mem kept => by
    have := later p mem
    have := keeps p kept
    omega

/-- The costs of the takes of a run up to `tb`, a time not before the last take `tc`, are at
most the level the run started from and the time since. -/
theorem Run.sum_until_le {level tc final tb : Int} {takes : List (Int × Int)}
    (run : Run cap depth level tc takes final) (start : 0 ≤ level)
    (sorted : takes.Pairwise fun p q => p.1 ≤ q.1) (since : tc ≤ tb) :
    ((takes.filter fun p => p.1 ≤ tb).map Prod.snd).sum ≤ level + (tb - tc) := by
  induction run with
  | nil => simp only [List.filter_nil, List.map_nil, List.sum_nil]; omega
  | @cons level tc t cost _ rest left _ ih =>
    obtain ⟨later, sortedRest⟩ := List.pairwise_cons.mp sorted
    by_cases within : t ≤ tb
    · have restSum := ih left sortedRest within
      have refilled := @refill_le_elapsed cap depth level tc t
      rw [List.filter_cons_of_pos (by simpa using within), List.map_cons, List.sum_cons]
      omega
    · -- every later take is later still, so nothing from here on is counted
      have none := filter_eq_nil_of_later (fun p => decide (p.1 ≤ tb)) later (show tb < t by omega)
        (fun p kept => by simpa using kept)
      rw [List.filter_cons_of_neg (by simpa using within), none]
      simp only [List.map_nil, List.sum_nil]
      omega

/-- The burst bound: the costs of the takes of a run between two times exceed the time
between them by at most the depth. -/
theorem Run.window_sum_le {level tc final ta tb : Int} {takes : List (Int × Int)}
    (run : Run cap depth level tc takes final) (sorted : takes.Pairwise fun p q => p.1 ≤ q.1)
    (ordered : ta ≤ tb) (deep : 0 ≤ depth) :
    ((takes.filter fun p => ta ≤ p.1 ∧ p.1 ≤ tb).map Prod.snd).sum ≤ depth + (tb - ta) := by
  induction run with
  | nil => simp only [List.filter_nil, List.map_nil, List.sum_nil]; omega
  | @cons level tc t cost _ rest left next ih =>
    obtain ⟨later, sortedRest⟩ := List.pairwise_cons.mp sorted
    by_cases early : t < ta
    · rw [List.filter_cons_of_neg (by simp only [decide_eq_true_eq]; omega)]
      exact ih sortedRest
    by_cases within : t ≤ tb
    · -- the first take of the window: its refill is capped at the depth, and the takes
      -- after it are past `ta`, so only their bound `tb` counts
      have same : (rest.filter fun p => ta ≤ p.1 ∧ p.1 ≤ tb) = rest.filter fun p => p.1 ≤ tb :=
        List.filter_congr fun p mem => by
          have := later p mem
          simp only [decide_eq_decide]
          omega
      have restSum := next.sum_until_le left sortedRest within
      have capped := @refill_le_depth cap depth level tc t
      rw [List.filter_cons_of_pos (by simp only [decide_eq_true_eq]; omega), List.map_cons,
        List.sum_cons, same]
      omega
    · have none := filter_eq_nil_of_later (fun p => decide (ta ≤ p.1 ∧ p.1 ≤ tb)) later
        (show tb < t by omega) (fun p kept => by simp at kept; omega)
      rw [List.filter_cons_of_neg (by simp only [decide_eq_true_eq]; omega), none]
      simp only [List.map_nil, List.sum_nil]
      omega

end TokenBucket
