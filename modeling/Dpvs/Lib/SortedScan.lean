import Mathlib

/-!
# Lists kept in non-increasing order of a key

A routing list ordered from the most specific entry to the least specific one is
searched front to back, so the first hit is the best one; it is extended by one
scan that gives up at the first clashing entry and otherwise links the new
element in front of the first entry it must precede. This module states the
order as `Descending`, models the scan as `scanInsert`, and proves the two facts
such a list is used for: the scan keeps the order, and a first hit has the
largest key among all hits.
-/

namespace SortedScan

variable {α β : Type*} [LinearOrder β]

/-- The list is ordered by non-increasing `key`. -/
def Descending (key : α → β) (l : List α) : Prop :=
  l.Pairwise fun a b => key b ≤ key a

/-- One insertion scan: stop with `none` at the first element that `clash`es,
link `x` in front of the first element that `before` selects, and append `x`
when the scan runs off the end. -/
def scanInsert (clash before : α → Bool) (x : α) : List α → Option (List α)
  | [] => some [x]
  | a :: l =>
    if clash a then none
    else if before a then some (x :: a :: l)
    else (scanInsert clash before x l).map (a :: ·)

variable {clash before : α → Bool} {x : α}

/-- A successful scan splits the list where `x` went in: everything ahead of it
neither clashes nor is selected, and the element right after it is selected. -/
theorem scanInsert_split {l l' : List α} (h : scanInsert clash before x l = some l') :
    ∃ l₁ l₂, l = l₁ ++ l₂ ∧ l' = l₁ ++ x :: l₂ ∧
      (∀ a ∈ l₁, clash a = false ∧ before a = false) ∧ (∀ a ∈ l₂.head?, before a = true) := by
  induction l generalizing l' with
  | nil =>
    simp only [scanInsert, Option.some.injEq] at h
    exact ⟨[], [], rfl, by simp [h], by simp, by simp⟩
  | cons a l ih =>
    simp only [scanInsert] at h
    by_cases hclash : clash a = true
    · simp [hclash] at h
    by_cases hbefore : before a = true
    · simp only [hclash, hbefore, if_true, Bool.false_eq_true, if_false,
        Option.some.injEq] at h
      exact ⟨[], a :: l, rfl, by simp [h], by simp, by simp [hbefore]⟩
    · simp only [hclash, hbefore, Bool.false_eq_true, if_false] at h
      obtain ⟨l'', hl'', rfl⟩ := Option.map_eq_some_iff.mp h
      obtain ⟨l₁, l₂, rfl, rfl, ahead, after⟩ := ih hl''
      refine ⟨a :: l₁, l₂, rfl, rfl, ?_, after⟩
      intro b hb
      rcases List.mem_cons.mp hb with rfl | hb
      · exact ⟨by simpa using hclash, by simpa using hbefore⟩
      · exact ahead b hb

/-- A failed scan met a clashing element. -/
theorem exists_clash_of_scanInsert_none {l : List α} (h : scanInsert clash before x l = none) :
    ∃ a ∈ l, clash a = true := by
  induction l with
  | nil => simp [scanInsert] at h
  | cons a l ih =>
    simp only [scanInsert] at h
    by_cases hclash : clash a = true
    · exact ⟨a, by simp, hclash⟩
    · by_cases hbefore : before a = true
      · simp [hclash, hbefore] at h
      · simp only [hclash, hbefore, Bool.false_eq_true, if_false, Option.map_eq_none_iff] at h
        obtain ⟨b, hb, hb'⟩ := ih h
        exact ⟨b, List.mem_cons_of_mem a hb, hb'⟩

variable {key : α → β}

/-- Past the insertion point of a descending list every key is below `x`'s. -/
theorem Descending.lt_of_after {l₁ l₂ : List α} (desc : Descending key (l₁ ++ l₂))
    (hbefore : ∀ a, before a = true ↔ key a < key x)
    (after : ∀ a ∈ l₂.head?, before a = true) : ∀ b ∈ l₂, key b < key x := by
  intro b hb
  cases l₂ with
  | nil => simp at hb
  | cons c l₂ =>
    have hc : key c < key x := (hbefore c).mp (after c (by simp))
    rcases List.mem_cons.mp hb with rfl | hb
    · exact hc
    · have hcb : key b ≤ key c :=
        (List.pairwise_cons.mp (List.pairwise_append.mp desc).2.1).1 b hb
      exact lt_of_le_of_lt hcb hc

/-- A descending list stays descending when `x` goes in front of the first element
with a smaller key, all earlier elements having a key at least `x`'s. -/
theorem Descending.scanInsert {l l' : List α} (desc : Descending key l)
    (hbefore : ∀ a, before a = true ↔ key a < key x)
    (h : scanInsert clash before x l = some l') : Descending key l' := by
  obtain ⟨l₁, l₂, rfl, rfl, ahead, after⟩ := scanInsert_split h
  have ahead_ge : ∀ a ∈ l₁, key x ≤ key a := by
    intro a ha
    have : ¬ key a < key x := by
      rw [← hbefore]
      simp [(ahead a ha).2]
    exact le_of_not_gt this
  have after_lt := desc.lt_of_after hbefore after
  unfold Descending at desc ⊢
  rw [List.pairwise_append] at desc ⊢
  refine ⟨desc.1, List.pairwise_cons.mpr ⟨fun b hb => (after_lt b hb).le, desc.2.1⟩, ?_⟩
  intro a ha b hb
  rcases List.mem_cons.mp hb with rfl | hb
  · exact ahead_ge a ha
  · exact desc.2.2 a ha b hb

/-- The order reads the keys only: a list with the same keys is as ordered. -/
theorem Descending.of_map_eq {l l' : List α} (desc : Descending key l)
    (h : l'.map key = l.map key) : Descending key l' := by
  unfold Descending at desc ⊢
  have keys : (l.map key).Pairwise (fun a b => b ≤ a) := List.pairwise_map.mpr desc
  rw [← h] at keys
  exact List.pairwise_map.mp keys

/-- In a descending list the first hit of a test has the largest key among all hits. -/
theorem Descending.find?_max {l : List α} (desc : Descending key l) {p : α → Bool} {a : α}
    (h : l.find? p = some a) : ∀ b ∈ l, p b = true → key b ≤ key a := by
  obtain ⟨_, l₁, l₂, rfl, ahead⟩ := List.find?_eq_some_iff_append.mp h
  intro b hb hpb
  rcases List.mem_append.mp hb with hb | hb
  · exact absurd hpb (by simpa using ahead b hb)
  · rcases List.mem_cons.mp hb with rfl | hb
    · exact le_rfl
    · exact (List.pairwise_cons.mp (List.pairwise_append.mp desc).2.1).1 b hb

end SortedScan
