import Mathlib.Data.List.Basic
import Mathlib.Algebra.BigOperators.Group.List.Basic

/-!
# The first element of a list that passes a test

Linked-list code finds a node by walking the list and stopping at the first one
that passes a test, then edits that node in place or unlinks it. On a list these
are `List.find?`, an in-place `update` (a `List.replaceF`) and `List.eraseP`, all
with the one test. This module cuts a list at the element `find?` returns, so that
the edit and the unlink become list surgery on `l₁ ++ a :: l₂`, and collects what
the surgery keeps: length, sums, and pairwise facts.
-/

namespace FirstMatch

variable {α : Type*} (p : α → Bool)

/-- The in-place edit `f` of the first element that passes `p`. -/
def update (f : α → α) (l : List α) : List α :=
  l.replaceF fun x => if p x then some (f x) else none

variable {p}

/-- A hit of `find?` cuts the list: nothing before it passes the test. -/
theorem split_of_find? {l : List α} {a : α} (h : l.find? p = some a) :
    ∃ l₁ l₂, l = l₁ ++ a :: l₂ ∧ (∀ b ∈ l₁, p b = false) ∧ p a = true := by
  obtain ⟨ha, l₁, l₂, rfl, hbefore⟩ := List.find?_eq_some_iff_append.mp h
  refine ⟨l₁, l₂, rfl, fun b hb => ?_, ha⟩
  simpa using hbefore b hb

theorem update_split (f : α → α) {l₁ l₂ : List α} {a : α}
    (hbefore : ∀ b ∈ l₁, p b = false) (ha : p a = true) :
    update p f (l₁ ++ a :: l₂) = l₁ ++ f a :: l₂ := by
  induction l₁ with
  | nil => simp [update, ha]
  | cons b l₁ ih =>
    have hb : p b = false := hbefore b (by simp)
    have ih' := ih fun c hc => hbefore c (by simp [hc])
    simp only [update] at ih' ⊢
    simp [hb, ih']

theorem update_of_find?_none (f : α → α) {l : List α} (h : l.find? p = none) :
    update p f l = l := by
  apply List.replaceF_of_forall_none
  intro b hb
  have hpb : p b = false := by simpa using List.find?_eq_none.mp h b hb
  simp [hpb]

/-- An edit of a list whose first part has a hit stays in the first part. -/
theorem update_append_left (f : α → α) {l₁ l₂ : List α} {a : α} (h : l₁.find? p = some a) :
    update p f (l₁ ++ l₂) = update p f l₁ ++ l₂ := by
  obtain ⟨b₁, b₂, rfl, ahead, ha⟩ := split_of_find? h
  rw [update_split f ahead ha, List.append_assoc, List.cons_append, update_split f ahead ha]
  simp

/-- An edit of a list whose first part has no hit is an edit of the rest. -/
theorem update_append_right (f : α → α) {l₁ l₂ : List α} (h : l₁.find? p = none) :
    update p f (l₁ ++ l₂) = l₁ ++ update p f l₂ := by
  induction l₁ with
  | nil => rfl
  | cons b l₁ ih =>
    have hb : p b = false := by simpa using List.find?_eq_none.mp h b (by simp)
    have rest : l₁.find? p = none := by simpa [hb] using h
    simp only [update, List.cons_append, List.replaceF_cons, hb] at ih ⊢
    simp [ih rest]

theorem eraseP_split {l₁ l₂ : List α} {a : α}
    (hbefore : ∀ b ∈ l₁, p b = false) (ha : p a = true) :
    (l₁ ++ a :: l₂).eraseP p = l₁ ++ l₂ := by
  rw [List.eraseP_append_right _ (fun b hb => by simp [hbefore b hb])]
  simp [ha]

theorem eraseP_of_find?_none {l : List α} (h : l.find? p = none) : l.eraseP p = l := by
  apply List.eraseP_of_forall_not
  intro b hb
  simpa using List.find?_eq_none.mp h b hb

/-- An edit that keeps what `g` reads of an element keeps the list's image under `g`. -/
theorem map_update (f : α → α) {β : Type*} (g : α → β) (hf : ∀ x, g (f x) = g x)
    (l : List α) : (update p f l).map g = l.map g := by
  induction l with
  | nil => rfl
  | cons b l ih =>
    simp only [update, List.replaceF_cons] at ih ⊢
    by_cases hb : p b = true
    · simp [hb, hf]
    · simp [hb, ih]

theorem length_update (f : α → α) (l : List α) : (update p f l).length = l.length := by
  simpa using congrArg List.length (map_update f (fun _ => ()) (fun _ => rfl) l)

/-- Sums over a list cut at one element. -/
theorem sum_split {M : Type*} [AddCommMonoid M] (g : α → M) (l₁ l₂ : List α) (a : α) :
    ((l₁ ++ a :: l₂).map g).sum = g a + ((l₁ ++ l₂).map g).sum := by
  simp only [List.map_append, List.map_cons, List.sum_append, List.sum_cons]
  exact add_left_comm _ _ _

/-- A symmetric pairwise property of a cut list moves to the cut element first. -/
theorem pairwise_split {R : α → α → Prop} (hsymm : ∀ {x y}, R x y → R y x)
    {l₁ l₂ : List α} {a : α} :
    (l₁ ++ a :: l₂).Pairwise R ↔ (∀ b ∈ l₁ ++ l₂, R a b) ∧ (l₁ ++ l₂).Pairwise R := by
  rw [List.pairwise_middle hsymm, List.pairwise_cons]

end FirstMatch
