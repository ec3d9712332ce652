import Mathlib.Logic.Basic

/-!
# Loops run within a budget of iterations

A C loop that tests `cond` before each round and leaves at the first round whose body
fails, `while (cond) { if (body fails) return err; }`, is `run cond body` on the state
`σ` the loop changes, given `fuel` rounds: `none` when the budget runs out, `some
(.error e)` at the first failing round, and `some (.ok s)` with the state the loop
leaves in.

The budget only bounds the run; it never changes an answer (`run_mono`). A measure
that every round lowers gives an answer within that many rounds (`run_isSome`), and
an invariant of the rounds holds of the state the loop leaves (`run_invariant`). The
other way round, an invariant that keeps the condition true and the body from
failing leaves every budget without an answer (`run_eq_none`): such a loop does not
terminate. A loop whose rounds lower a measure only from the states it can reach ends
within that many rounds from them (`run_isSome_of_inv`), and whatever it answers, at its
own exit or at a failing round, has the property its rounds lead to (`run_answer`).
-/

namespace WhileLoop

variable {σ ε : Type*} (cond : σ → Bool) (body : σ → Except ε σ)

/-- `while (cond) { if (body fails) return err; }` for at most `fuel` rounds. -/
def run : Nat → σ → Option (Except ε σ)
  | 0, _ => none
  | fuel + 1, s =>
    if cond s then
      match body s with
      | .error e => some (.error e)
      | .ok s' => run fuel s'
    else some (.ok s)

variable {cond body}

@[simp] theorem run_zero (s : σ) : run cond body 0 s = none := rfl

theorem run_succ_of_not (fuel : Nat) {s : σ} (h : cond s = false) :
    run cond body (fuel + 1) s = some (.ok s) := by
  simp [run, h]

theorem run_succ_of_ok (fuel : Nat) {s s' : σ} (h : cond s = true) (hb : body s = .ok s') :
    run cond body (fuel + 1) s = run cond body fuel s' := by
  simp [run, h, hb]

theorem run_succ_of_error (fuel : Nat) {s : σ} {e : ε} (h : cond s = true)
    (hb : body s = .error e) : run cond body (fuel + 1) s = some (.error e) := by
  simp [run, h, hb]

/-- More fuel changes no answer. -/
theorem run_mono {r : Except ε σ} (k : Nat) :
    ∀ {fuel : Nat} {s : σ}, run cond body fuel s = some r → run cond body (fuel + k) s = some r
  | 0, _, h => by simp at h
  | fuel + 1, s, h => by
    rw [Nat.add_right_comm]
    cases hc : cond s with
    | false => rwa [run_succ_of_not _ hc] at h ⊢
    | true =>
      cases hb : body s with
      | error e => rwa [run_succ_of_error _ hc hb] at h ⊢
      | ok s' =>
        rw [run_succ_of_ok _ hc hb] at h ⊢
        exact run_mono k h

/-- A measure that every round lowers bounds the rounds: more fuel than the measure
gives an answer. -/
theorem run_isSome (μ : σ → Nat)
    (lowers : ∀ s s', cond s = true → body s = .ok s' → μ s' < μ s) :
    ∀ {fuel : Nat} {s : σ}, μ s < fuel → (run cond body fuel s).isSome
  | 0, _, h => absurd h (Nat.not_lt_zero _)
  | fuel + 1, s, h => by
    cases hc : cond s with
    | false => simp [run_succ_of_not _ hc]
    | true =>
      cases hb : body s with
      | error e => simp [run_succ_of_error _ hc hb]
      | ok s' =>
        rw [run_succ_of_ok _ hc hb]
        exact run_isSome μ lowers (by have := lowers s s' hc hb; omega)

/-- Divergence: when an invariant keeps the condition true and the body succeeding,
no budget gives an answer. -/
theorem run_eq_none (inv : σ → Prop)
    (step : ∀ s, inv s → cond s = true ∧ ∃ s', body s = .ok s' ∧ inv s') :
    ∀ (fuel : Nat) (s : σ), inv s → run cond body fuel s = none
  | 0, _, _ => rfl
  | fuel + 1, s, hs => by
    obtain ⟨hc, s', hb, hs'⟩ := step s hs
    rw [run_succ_of_ok _ hc hb]
    exact run_eq_none inv step fuel s' hs'

/-- An invariant of the rounds holds of the state the loop leaves in, where the
condition is false. -/
theorem run_invariant (inv : σ → Prop)
    (step : ∀ s s', inv s → cond s = true → body s = .ok s' → inv s') :
    ∀ {fuel : Nat} {s r : σ}, inv s → run cond body fuel s = some (.ok r) →
      inv r ∧ cond r = false
  | 0, _, _, _, h => by simp at h
  | fuel + 1, s, r, hs, h => by
    cases hc : cond s with
    | false =>
      rw [run_succ_of_not _ hc, Option.some.injEq, Except.ok.injEq] at h
      exact h ▸ ⟨hs, hc⟩
    | true =>
      cases hb : body s with
      | error e => simp [run_succ_of_error _ hc hb] at h
      | ok s' =>
        rw [run_succ_of_ok _ hc hb] at h
        exact run_invariant inv step (step s s' hs hc hb) h

/-- What a run answers: a property of the state at the loop's own exit and of the value of
every failing round, with an invariant of the rounds, holds of the answer. -/
theorem run_answer (inv : σ → Prop) (P : Except ε σ → Prop)
    (step : ∀ s s', inv s → cond s = true → body s = .ok s' → inv s')
    (fails : ∀ s e, inv s → cond s = true → body s = .error e → P (.error e))
    (stops : ∀ s, inv s → cond s = false → P (.ok s)) :
    ∀ {fuel : Nat} {s : σ} {r : Except ε σ}, inv s → run cond body fuel s = some r → P r
  | 0, _, _, _, h => by simp at h
  | fuel + 1, s, r, hs, h => by
    cases hc : cond s with
    | false =>
      rw [run_succ_of_not _ hc, Option.some.injEq] at h
      exact h ▸ stops s hs hc
    | true =>
      cases hb : body s with
      | error e =>
        rw [run_succ_of_error _ hc hb, Option.some.injEq] at h
        exact h ▸ fails s e hs hc hb
      | ok s' =>
        rw [run_succ_of_ok _ hc hb] at h
        exact run_answer inv P step fails stops (step s s' hs hc hb) h

/-- A measure that every round from an invariant state lowers, into an invariant state,
bounds the rounds from such a state. -/
theorem run_isSome_of_inv (inv : σ → Prop) (μ : σ → Nat)
    (lowers : ∀ s s', inv s → cond s = true → body s = .ok s' → inv s' ∧ μ s' < μ s) :
    ∀ {fuel : Nat} {s : σ}, inv s → μ s < fuel → (run cond body fuel s).isSome
  | 0, _, _, h => absurd h (Nat.not_lt_zero _)
  | fuel + 1, s, hs, h => by
    cases hc : cond s with
    | false => simp [run_succ_of_not _ hc]
    | true =>
      cases hb : body s with
      | error e => simp [run_succ_of_error _ hc hb]
      | ok s' =>
        rw [run_succ_of_ok _ hc hb]
        obtain ⟨hs', lower⟩ := lowers s s' hs hc hb
        exact run_isSome_of_inv inv μ lowers hs' (by omega)

end WhileLoop
