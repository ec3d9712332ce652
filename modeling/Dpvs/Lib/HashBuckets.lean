import Dpvs.Lib.FirstMatch

/-!
# Chained hash buckets

A table of chained buckets is a list of buckets, bucket `i` holding the elements that
hash to `i`; the elements of the table are the buckets one after the other. This
module states the placement as `Placed` and proves what a search or an edit confined
to one bucket does to the table as a whole: when every element that passes a test
hashes to `k`, the first hit in bucket `k` is the first hit of the table, and an
in-place edit or an unlink of that hit in bucket `k` is the same edit of the table.
-/

namespace HashBuckets

variable {α : Type*}

/-- Every element of bucket `i` hashes to `i`. -/
def Placed (hash : α → Nat) (l : List (List α)) : Prop :=
  ∀ i, ∀ a ∈ l.getD i [], hash a = i

variable {hash : α → Nat} {l : List (List α)}

theorem getD_modify (f : List α → List α) (k i : Nat) :
    (l.modify k f).getD i [] = if k = i then (if i < l.length then f (l.getD i []) else [])
      else l.getD i [] := by
  simp only [List.getD_eq_getElem?_getD, List.getElem?_modify]
  split
  · by_cases hi : i < l.length <;> simp [hi]
  · simp

theorem mem_flatten_of_mem_getD {a : α} {i : Nat} (h : a ∈ l.getD i []) : a ∈ l.flatten := by
  rw [List.getD_eq_getElem?_getD] at h
  cases hi : l[i]? with
  | none => simp [hi] at h
  | some b =>
    rw [hi, Option.getD_some] at h
    exact List.mem_flatten.mpr ⟨b, List.mem_of_getElem? hi, h⟩

/-- An element of the table sits in the bucket of its hash. -/
theorem Placed.mem_getD (placed : Placed hash l) {a : α} (h : a ∈ l.flatten) :
    a ∈ l.getD (hash a) [] := by
  obtain ⟨b, hb, ha⟩ := List.mem_flatten.mp h
  obtain ⟨i, hi, rfl⟩ := List.getElem_of_mem hb
  have at_i : l.getD i [] = l[i] := by simp [List.getD_eq_getElem?_getD, hi]
  rw [placed i a (at_i ▸ ha), at_i]
  exact ha

theorem Placed.modify (placed : Placed hash l) {f : List α → List α} {k : Nat}
    (hf : ∀ a ∈ f (l.getD k []), hash a = k) : Placed hash (l.modify k f) := by
  intro i a ha
  rw [getD_modify] at ha
  split at ha
  · subst_vars
    split at ha
    · exact hf a ha
    · simp at ha
  · exact placed i a ha

theorem Placed.map_filter (placed : Placed hash l) (q : α → Bool) :
    Placed hash (l.map (·.filter q)) := by
  intro i a ha
  simp only [List.getD_eq_getElem?_getD, List.getElem?_map] at ha
  cases hi : l[i]? with
  | none => simp [hi] at ha
  | some b =>
    rw [hi, Option.map_some, Option.getD_some] at ha
    exact placed i a (by simpa [List.getD_eq_getElem?_getD, hi] using (List.mem_filter.mp ha).1)

theorem placed_replicate (n : Nat) : Placed hash (List.replicate n []) := by
  intro i a ha
  simp [List.getD_eq_getElem?_getD, List.getElem?_replicate] at ha
  split at ha <;> simp at ha

/-- The table cut around bucket `k`. -/
theorem flatten_eq_around {k : Nat} (hk : k < l.length) :
    l.flatten = (l.take k).flatten ++ l.getD k [] ++ (l.drop (k + 1)).flatten := by
  rw [List.getD_eq_getElem?_getD, List.getElem?_eq_getElem hk, Option.getD_some]
  conv_lhs => rw [← List.take_append_drop k l, List.drop_eq_getElem_cons hk]
  simp only [List.flatten_append, List.flatten_cons, List.append_assoc]

/-- An edit of bucket `k` is an edit of the table between the same neighbours. -/
theorem flatten_modify (f : List α → List α) {k : Nat} (hk : k < l.length) :
    (l.modify k f).flatten = (l.take k).flatten ++ f (l.getD k []) ++ (l.drop (k + 1)).flatten := by
  rw [List.modify_eq_take_cons_drop hk]
  simp [List.getD_eq_getElem?_getD, List.getElem?_eq_getElem hk]

section Keyed

/-! ## A test whose hits all hash to one bucket -/

variable {p : α → Bool} {k : Nat}

/-- Outside bucket `k` nothing passes the test. -/
theorem Placed.no_hit_outside (placed : Placed hash l)
    (keyed : ∀ a ∈ l.flatten, p a = true → hash a = k)
    {i : Nat} (hi : i ≠ k) : ∀ a ∈ l.getD i [], p a = false := by
  intro a ha
  by_contra hit
  exact hi ((placed i a ha).symm.trans
    (keyed a (mem_flatten_of_mem_getD ha) (by simpa using hit)))

theorem Placed.no_hit_take (placed : Placed hash l)
    (keyed : ∀ a ∈ l.flatten, p a = true → hash a = k) :
    ∀ a ∈ (l.take k).flatten, p a = false := by
  intro a ha
  obtain ⟨b, hb, hab⟩ := List.mem_flatten.mp ha
  obtain ⟨i, hi, rfl⟩ := List.getElem_of_mem hb
  have lt : i < k ∧ i < l.length := by simp at hi; omega
  refine placed.no_hit_outside keyed (Nat.ne_of_lt lt.1) a ?_
  simpa [List.getD_eq_getElem?_getD, List.getElem?_eq_getElem lt.2] using hab

theorem Placed.no_hit_drop (placed : Placed hash l)
    (keyed : ∀ a ∈ l.flatten, p a = true → hash a = k) :
    ∀ a ∈ (l.drop (k + 1)).flatten, p a = false := by
  intro a ha
  obtain ⟨b, hb, hab⟩ := List.mem_flatten.mp ha
  obtain ⟨i, hi, rfl⟩ := List.getElem_of_mem hb
  have lt : k + 1 + i < l.length := by simp at hi; omega
  refine placed.no_hit_outside keyed (show k + 1 + i ≠ k by omega) a ?_
  simpa [List.getD_eq_getElem?_getD, List.getElem?_eq_getElem lt] using hab

/-- The first hit in bucket `k` is the first hit of the table. -/
theorem Placed.find?_getD (placed : Placed hash l)
    (keyed : ∀ a ∈ l.flatten, p a = true → hash a = k) :
    (l.getD k []).find? p = l.flatten.find? p := by
  by_cases hk : k < l.length
  · have before : (l.take k).flatten.find? p = none :=
      List.find?_eq_none.mpr fun a ha => by simp [placed.no_hit_take keyed a ha]
    have after : (l.drop (k + 1)).flatten.find? p = none :=
      List.find?_eq_none.mpr fun a ha => by simp [placed.no_hit_drop keyed a ha]
    rw [flatten_eq_around hk, List.find?_append, List.find?_append, before, after]
    simp
  · -- no bucket `k`: nothing in the table passes
    have empty : l.getD k [] = [] := by
      simp [List.getD_eq_getElem?_getD, List.getElem?_eq_none (Nat.le_of_not_lt hk)]
    rw [empty, List.find?_nil, eq_comm, List.find?_eq_none]
    intro a ha hit
    have := placed.mem_getD ha
    rw [keyed a ha (by simpa using hit), empty] at this
    simp at this

/-- A hit in bucket `k` cuts an existing bucket. -/
theorem split_of_find?_getD {a : α} (h : (l.getD k []).find? p = some a) :
    k < l.length ∧ ∃ b₁ b₂, l.getD k [] = b₁ ++ a :: b₂ ∧ (∀ b ∈ b₁, p b = false) ∧ p a = true := by
  refine ⟨?_, FirstMatch.split_of_find? h⟩
  by_contra hk
  simp [List.getD_eq_getElem?_getD, List.getElem?_eq_none (Nat.le_of_not_lt hk)] at h

/-- An edit of bucket `k` that changes nothing before its first hit and replaces that
hit by `r a` is the same edit of the table. -/
theorem Placed.flatten_modify_cut (placed : Placed hash l)
    (keyed : ∀ a ∈ l.flatten, p a = true → hash a = k) {op : List α → List α} (r : α → List α)
    (untouched : ∀ L, L.find? p = none → op L = L)
    (cut : ∀ L₁ a L₂, (∀ b ∈ L₁, p b = false) → p a = true →
      op (L₁ ++ a :: L₂) = L₁ ++ (r a ++ L₂)) :
    (l.modify k op).flatten = op l.flatten := by
  cases hit : (l.getD k []).find? p with
  | none =>
    have whole : l.flatten.find? p = none := by rw [← placed.find?_getD keyed, hit]
    rw [untouched _ whole]
    by_cases hk : k < l.length
    · rw [flatten_modify op hk, untouched _ hit, ← flatten_eq_around hk]
    · rw [List.modify_eq_self (Nat.le_of_not_lt hk)]
  | some a =>
    obtain ⟨hk, b₁, b₂, bucket, ahead, ha⟩ := split_of_find?_getD hit
    -- the hit of bucket `k` is the first hit of the whole table
    have before : ∀ b ∈ (l.take k).flatten ++ b₁, p b = false := by
      intro b hb
      rcases List.mem_append.mp hb with hb | hb
      · exact placed.no_hit_take keyed b hb
      · exact ahead b hb
    rw [flatten_modify op hk, flatten_eq_around hk, bucket, cut b₁ a b₂ ahead ha,
      show (l.take k).flatten ++ (b₁ ++ a :: b₂) ++ (l.drop (k + 1)).flatten =
        ((l.take k).flatten ++ b₁) ++ a :: (b₂ ++ (l.drop (k + 1)).flatten) by simp,
      cut _ a _ before ha]
    simp

/-- Editing the first hit in bucket `k` edits the first hit of the table. -/
theorem Placed.flatten_modify_update (placed : Placed hash l)
    (keyed : ∀ a ∈ l.flatten, p a = true → hash a = k) (f : α → α) :
    (l.modify k (FirstMatch.update p f)).flatten = FirstMatch.update p f l.flatten :=
  placed.flatten_modify_cut keyed (fun a => [f a])
    (fun _ none => FirstMatch.update_of_find?_none f none)
    (fun _ _ _ ahead ha => FirstMatch.update_split f ahead ha)

/-- Unlinking the first hit of bucket `k` unlinks the first hit of the table. -/
theorem Placed.flatten_modify_eraseP (placed : Placed hash l)
    (keyed : ∀ a ∈ l.flatten, p a = true → hash a = k) :
    (l.modify k (·.eraseP p)).flatten = l.flatten.eraseP p :=
  placed.flatten_modify_cut keyed (fun _ => [])
    (fun _ none => FirstMatch.eraseP_of_find?_none none)
    (fun _ _ _ ahead ha => FirstMatch.eraseP_split ahead ha)

end Keyed

end HashBuckets
