import Mathlib.Data.List.Perm.Basic
import Mathlib.Data.List.Nodup

/-!
# A free list and a used list sharing out a fixed set of slots

A slot allocator keeps the slots it owns on two lists: allocation moves the head of
the free list to the tail of the used list, and a release moves a slot of the used
list to the tail of the free list. `Split univ free used` says the two lists hold
the slots of `univ` between them, each exactly as often as `univ` does. With a
duplicate-free `univ` it follows that the head of the free list is never on the used
list, which is what makes an allocator hand a slot out at most once.
-/

namespace FreeList

variable {α : Type*}

/-- The free and the used list together are a permutation of the owned slots. -/
structure Split (univ free used : List α) : Prop where
  perm : (free ++ used).Perm univ

variable {univ free used : List α} {a : α}

theorem Split.init (univ : List α) : Split univ univ [] :=
  ⟨by simp⟩

/-- Allocation: the head of the free list moves to the tail of the used list. -/
theorem Split.take (h : Split univ (a :: free) used) : Split univ free (used ++ [a]) := by
  refine ⟨List.Perm.trans ?_ h.perm⟩
  calc free ++ (used ++ [a])
      _ = (free ++ used) ++ [a] := by simp
      List.Perm _ (a :: (free ++ used)) := List.perm_append_singleton a _
      _ = (a :: free) ++ used := rfl

theorem Split.nodup (h : Split univ free used) (nd : univ.Nodup) : (free ++ used).Nodup :=
  h.perm.nodup_iff.mpr nd

/-- A slot is on one list at most. -/
theorem Split.not_mem_free (h : Split univ free used) (nd : univ.Nodup) (mem : a ∈ used) :
    a ∉ free := by
  intro mem'
  exact List.disjoint_of_nodup_append (h.nodup nd) mem' mem

/-- Release: a slot of the used list leaves it for the tail of the free list, as
`list_move_tail` unlinks a node from whichever list holds it. -/
theorem Split.give [DecidableEq α] (h : Split univ free used) (nd : univ.Nodup) (mem : a ∈ used) :
    Split univ (free.erase a ++ [a]) (used.erase a) := by
  rw [List.erase_of_not_mem (h.not_mem_free nd mem)]
  refine ⟨List.Perm.trans ?_ h.perm⟩
  have back : List.Perm (a :: used.erase a) used := (List.perm_cons_erase mem).symm
  calc free ++ [a] ++ used.erase a
      _ = free ++ (a :: used.erase a) := by simp
      List.Perm _ (free ++ used) := back.append_left free

theorem Split.mem_iff (h : Split univ free used) : a ∈ free ∨ a ∈ used ↔ a ∈ univ := by
  rw [← List.mem_append]
  exact h.perm.mem_iff

/-- The head of the free list is not allocated. -/
theorem Split.head_not_mem_used (h : Split univ (a :: free) used) (nd : univ.Nodup) :
    a ∉ used := by
  intro mem
  have nd' := h.nodup nd
  rw [List.cons_append, List.nodup_cons] at nd'
  exact nd'.1 (List.mem_append_right free mem)

theorem Split.used_nodup (h : Split univ free used) (nd : univ.Nodup) : used.Nodup :=
  (List.nodup_append.mp (h.nodup nd)).2.1

theorem Split.length_eq (h : Split univ free used) : free.length + used.length = univ.length := by
  rw [← List.length_append]
  exact h.perm.length_eq

end FreeList
