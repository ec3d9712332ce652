import Dpvs.Ipvs.Sched
import Dpvs.Lib.CycleWalk

/-!
# Round-robin scheduling

`src/ipvs/ip_vs_rr.c` keeps a cursor on the ring `svc->dests` in `svc->sched_data`:
`dp_vs_rr_init_svc` and `dp_vs_rr_update_svc` set it to the worker's first destination,
and `dp_vs_rr_schedule` walks the ring from the link after the cursor, once around,
stepping over the head, to the first valid destination, which becomes the new cursor.

What round-robin is for is `rrPick`: the first valid destination in the order the
cursor offers them (`rrOrder`: the destinations after it, then those up to it, itself
last), or nothing with the cursor left as it was. The walk is a `CycleWalk.walk` around
the ring of cursors (`destRing`), and from every cursor the service can reach it is
`rrPick` (`dpVsRrSchedule_eq_rrPick`).
-/

namespace Dpvs

/-! ## The model -/

/-- The body of the loop of `dp_vs_rr_schedule` at cursor `q`: the head is stepped over,
and a valid destination is a hit. -/
def rrHit (dests : List Dest) : Option Nat → Option Nat
  | none => none
  | some i =>
    match dests[i]? with
    | some d => if destIsValid d then some i else none
    | none => none

/-- `dp_vs_rr_init_svc` on the worker of index `index`. -/
def dpVsRrInitSvc (slaveLcoreNum index : Nat) (dests : List Dest) : Option Nat :=
  dpVsSchedFirstDest dests.length slaveLcoreNum index

/-- `dp_vs_rr_update_svc`: the cursor starts again on the changed list. -/
def dpVsRrUpdateSvc (slaveLcoreNum index : Nat) (dests : List Dest) : Option Nat :=
  dpVsRrInitSvc slaveLcoreNum index dests

/-- `dp_vs_rr_schedule`: the do-while from `p = cursor->next` back to `p`, with one
round for each of the `n + 1` links of the ring. The destination and the new cursor, or
`NULL` with the cursor as it was. -/
def dpVsRrSchedule (dests : List Dest) (schedData : Option Nat) :
    Option (Option Dest × Option Nat) :=
  let p := ringNext dests.length schedData
  (CycleWalk.walk (ringNext dests.length) (rrHit dests) p (dests.length + 1) p).map fun
    | some i => (dests[i]?, some i)
    | none => (none, schedData)

/-- The cursors a worker's round-robin service can hold: set by `init_service` or
`update_service` for the service's current list, or left by a call of `schedule`. -/
inductive RrReachable (slaveLcoreNum index : Nat) : List Dest → Option Nat → Prop
  | initSvc (dests : List Dest) :
    RrReachable slaveLcoreNum index dests (dpVsRrInitSvc slaveLcoreNum index dests)
  | updateSvc {dests : List Dest} {cur : Option Nat} (dests' : List Dest) :
    RrReachable slaveLcoreNum index dests cur →
      RrReachable slaveLcoreNum index dests' (dpVsRrUpdateSvc slaveLcoreNum index dests')
  | schedule {dests : List Dest} {cur cur' : Option Nat} {d : Option Dest} :
    RrReachable slaveLcoreNum index dests cur → dpVsRrSchedule dests cur = some (d, cur') →
      RrReachable slaveLcoreNum index dests cur'

/-- `n` consecutive calls of `dp_vs_rr_schedule`, with nothing else between them. -/
def dpVsRrScheduleN (dests : List Dest) : Nat → Option Nat → Option (List (Option Dest))
  | 0, _ => some []
  | k + 1, cur =>
    match dpVsRrSchedule dests cur with
    | some (d, cur') => (dpVsRrScheduleN dests k cur').map (d :: ·)
    | none => none

/-! ## What round-robin is for -/

/-- The order in which a cursor offers the destinations: those after it, then those up
to it, itself last; from the head, the list as it is. -/
def rrOrder (n : Nat) : Option Nat → List Nat
  | none => List.range n
  | some c => (List.range n).rotate (c + 1)

example : rrOrder 5 (some 2) = [3, 4, 0, 1, 2] := by decide

/-- The first valid destination in the cursor's order, which becomes the cursor; with
none, nothing, and the cursor stays. -/
def rrPick (dests : List Dest) (cur : Option Nat) : Option Dest × Option Nat :=
  match (rrOrder dests.length cur).find? fun i => dests[i]?.any destIsValid with
  | some i => (dests[i]?, some i)
  | none => (none, cur)

/-- A cursor on a ring of `n` destinations: the head or one of them. -/
def CursorOk (n : Nat) (cur : Option Nat) : Prop := ∀ c ∈ cur, c < n

theorem rrOrder_perm (n : Nat) (cur : Option Nat) : (rrOrder n cur).Perm (List.range n) := by
  cases cur with
  | none => exact List.Perm.refl _
  | some c => exact List.rotate_perm _ _

theorem lt_of_mem_rrOrder {n i : Nat} {cur : Option Nat} (mem : i ∈ rrOrder n cur) : i < n :=
  List.mem_range.mp ((rrOrder_perm n cur).subset mem)

theorem rrPick_cursorOk (dests : List Dest) {cur : Option Nat} (ok : CursorOk dests.length cur) :
    CursorOk dests.length (rrPick dests cur).2 := by
  unfold rrPick
  split
  · next i found =>
    intro c mem
    cases mem
    exact lt_of_mem_rrOrder (List.mem_of_find?_eq_some found)
  · exact ok

/-- No valid destination is exactly when the pick is `NULL` with the cursor unchanged. -/
theorem rrPick_eq_none_iff (dests : List Dest) (cur : Option Nat) :
    rrPick dests cur = (none, cur) ↔ ∀ d ∈ dests, destIsValid d = false := by
  have none_iff : (rrOrder dests.length cur).find? (fun i => dests[i]?.any destIsValid) = none ↔
      ∀ d ∈ dests, destIsValid d = false := by
    rw [List.find?_eq_none]
    constructor
    · intro none d mem
      obtain ⟨i, inside, rfl⟩ := List.getElem_of_mem mem
      have := none i ((rrOrder_perm _ cur).mem_iff.mpr (List.mem_range.mpr inside))
      simpa [inside] using this
    · intro invalid i mem
      have inside := lt_of_mem_rrOrder mem
      simpa [inside] using invalid _ (List.getElem_mem inside)
  rw [← none_iff]
  unfold rrPick
  split
  · next i found =>
    have inside := lt_of_mem_rrOrder (List.mem_of_find?_eq_some found)
    rw [found]
    simp [inside]
  · next found => simp [found]

/-! ## The ring of cursors -/

/-- The links of `svc->dests` in ring order: the destinations, then the head. -/
def destRing (n : Nat) : List (Option Nat) := (List.range n).map some ++ [none]

theorem destRing_getElem? (n i : Nat) :
    (destRing n)[i]? = if i < n then some (some i) else if i = n then some none else none := by
  unfold destRing
  by_cases inside : i < n
  · simp [List.getElem?_append_left, inside]
  · rw [List.getElem?_append_right (by simpa using inside)]
    by_cases head : i = n
    · simp [head]
    · simp [inside, head, show i - n ≠ 0 by omega]

theorem destRing_isCycle (n : Nat) : CycleWalk.IsCycle (ringNext n) (destRing n) := by
  intro i x hx
  have length : (destRing n).length = n + 1 := by simp [destRing]
  rw [destRing_getElem?] at hx
  rw [length, destRing_getElem?]
  by_cases inside : i < n
  · -- a destination links to the next one, the last one to the head
    rw [if_pos inside, Option.some.injEq] at hx
    subst hx
    rw [Nat.mod_eq_of_lt (by omega)]
    by_cases more : i + 1 < n
    · simp [ringNext, more]
    · simp [ringNext, show i + 1 = n by omega]
  · -- the head links to the first destination, or to itself on an empty list
    have head : i = n := by by_contra ne; simp [inside, ne] at hx
    rw [if_neg inside, if_pos head, Option.some.injEq] at hx
    subst hx head
    rw [Nat.mod_self]
    by_cases empty : i = 0 <;> simp [ringNext, empty]

theorem destRing_nodup (n : Nat) : (destRing n).Nodup := by
  unfold destRing
  refine List.Nodup.append ((List.nodup_range).map fun _ _ => Option.some.inj) (List.nodup_singleton _) ?_
  simp

/-- Where the walk of a cursor starts in the ring: the link after it. -/
def ringStart : Option Nat → Nat
  | none => 0
  | some c => c + 1

theorem ringStart_le {n : Nat} {cur : Option Nat} (ok : CursorOk n cur) : ringStart cur ≤ n := by
  cases cur with
  | none => exact Nat.zero_le n
  | some c => exact ok c rfl

theorem rrOrder_eq_rotate (n : Nat) (cur : Option Nat) :
    rrOrder n cur = (List.range n).rotate (ringStart cur) := by
  cases cur with
  | none => exact (List.rotate_zero _).symm
  | some c => rfl

/-- The ring read from the walk's start is the cursor's order with the head in it. -/
theorem destRing_rotate {n s : Nat} (le : s ≤ n) :
    (destRing n).rotate s =
      ((List.range n).drop s).map some ++ none :: ((List.range n).take s).map some := by
  have length : s ≤ (destRing n).length := by simp [destRing]; omega
  rw [List.rotate_eq_drop_append_take length, destRing,
    List.drop_append_of_le_length (by simpa using le),
    List.take_append_of_le_length (by simpa using le), List.map_drop, List.map_take,
    List.append_assoc, List.singleton_append]

theorem findSome?_rrHit_map_some (dests : List Dest) (L : List Nat) :
    (L.map some).findSome? (rrHit dests) = L.find? fun i => dests[i]?.any destIsValid := by
  induction L with
  | nil => rfl
  | cons i L ih =>
    rw [List.map_cons, List.findSome?_cons, List.find?_cons, ih]
    cases entry : dests[i]? with
    | none => simp [rrHit, entry]
    | some d => by_cases valid : destIsValid d <;> simp [rrHit, entry, valid]

/-- The first hit of the walk's list is the first valid destination of the cursor's
order. -/
theorem findSome?_rrHit_rotate (dests : List Dest) {cur : Option Nat}
    (ok : CursorOk dests.length cur) :
    ((destRing dests.length).rotate (ringStart cur)).findSome? (rrHit dests) =
      (rrOrder dests.length cur).find? fun i => dests[i]?.any destIsValid := by
  have le := ringStart_le ok
  rw [destRing_rotate le, rrOrder_eq_rotate, List.rotate_eq_drop_append_take (by simpa using le),
    List.findSome?_append, List.findSome?_cons, List.find?_append]
  simp only [findSome?_rrHit_map_some, rrHit]

theorem destRing_rotate_first {n : Nat} {cur : Option Nat} (ok : CursorOk n cur) :
    ((destRing n).rotate (ringStart cur))[0]? = some (ringNext n cur) := by
  have le := ringStart_le ok
  rw [List.getElem?_rotate (by simp [destRing]), destRing_getElem?, Nat.zero_add,
    Nat.mod_eq_of_lt (by simp [destRing]; omega)]
  cases cur with
  | none =>
    simp only [ringStart, ringNext]
    by_cases empty : n = 0
    · simp [empty]
    · simp [empty, Nat.pos_of_ne_zero empty]
  | some c =>
    simp only [ringStart, ringNext]
    by_cases more : c + 1 < n
    · simp [more]
    · simp [show c + 1 = n by simp [ringStart] at le; omega]

/-! ## The walk refines the pick -/

/-- From a cursor on the ring, one call of `dp_vs_rr_schedule` is `rrPick`. -/
theorem dpVsRrSchedule_eq_rrPick (dests : List Dest) {cur : Option Nat}
    (ok : CursorOk dests.length cur) : dpVsRrSchedule dests cur = some (rrPick dests cur) := by
  have walked : CycleWalk.walk (ringNext dests.length) (rrHit dests) (ringNext dests.length cur)
      (dests.length + 1) (ringNext dests.length cur) =
        some (((destRing dests.length).rotate (ringStart cur)).findSome? (rrHit dests)) :=
    CycleWalk.walk_of_isCycle ((destRing_isCycle dests.length).rotate (ringStart cur))
      (List.nodup_rotate.mpr (destRing_nodup _)) (destRing_rotate_first ok) (by simp [destRing])
  unfold dpVsRrSchedule rrPick
  dsimp only
  rw [walked, findSome?_rrHit_rotate dests ok, Option.map_some]

/-! ## The cursors a service reaches -/

theorem cursorOk_ringNext (n : Nat) (cur : Option Nat) : CursorOk n (ringNext n cur) := by
  intro c mem
  cases cur with
  | none =>
    by_cases empty : n = 0 <;> simp [ringNext, empty] at mem
    omega
  | some i =>
    by_cases more : i + 1 < n <;> simp [ringNext, more] at mem
    omega

theorem cursorOk_dpVsSchedFirstDest (n slaveLcoreNum index : Nat) :
    CursorOk n (dpVsSchedFirstDest n slaveLcoreNum index) := by
  unfold dpVsSchedFirstDest
  cases firstDestLoc n slaveLcoreNum index with
  | zero => exact cursorOk_ringNext n none
  | succ k =>
    -- every step of the walk ends on a link of the ring
    rw [Function.iterate_succ_apply', skipHead]
    split
    · exact cursorOk_ringNext n _
    · exact cursorOk_ringNext n _

/-- Every cursor a service reaches is the head or one of its destinations. -/
theorem RrReachable.cursorOk {slaveLcoreNum index : Nat} {dests : List Dest}
    {cur : Option Nat} (reach : RrReachable slaveLcoreNum index dests cur) :
    CursorOk dests.length cur := by
  induction reach with
  | initSvc dests => exact cursorOk_dpVsSchedFirstDest _ _ _
  | updateSvc dests' _ _ => exact cursorOk_dpVsSchedFirstDest _ _ _
  | schedule _ call ih =>
    rw [dpVsRrSchedule_eq_rrPick _ ih, Option.some.injEq] at call
    have next := rrPick_cursorOk _ ih
    rwa [call] at next

/-! ## Consecutive calls with every destination valid -/

section AllValid

variable (dests : List Dest) (valid : ∀ d ∈ dests, destIsValid d = true)

include valid in
/-- With every destination valid, a call takes the first of the cursor's order. -/
theorem rrPick_of_all_valid {cur : Option Nat} {i : Nat} {rest : List Nat}
    (order : rrOrder dests.length cur = i :: rest) : rrPick dests cur = (dests[i]?, some i) := by
  have inside : i < dests.length := lt_of_mem_rrOrder (order ▸ List.mem_cons_self)
  have hit : dests[i]?.any destIsValid = true := by
    simpa [inside] using valid _ (List.getElem_mem inside)
  unfold rrPick
  simp only [order, List.find?_cons, hit]

/-- The order from the destination a call took is the old order turned by one. -/
theorem rrOrder_after_first {n : Nat} {cur : Option Nat} {i : Nat} {rest : List Nat}
    (order : rrOrder n cur = i :: rest) : rrOrder n (some i) = rest ++ [i] := by
  have pos : 0 < n := by
    have := (rrOrder_perm n cur).length_eq
    rw [order] at this
    simp at this
    omega
  have first : i = ringStart cur % n := by
    have head := congrArg (·[0]?) order
    simp only [rrOrder_eq_rotate] at head
    rw [List.getElem?_rotate (by simpa using pos), List.length_range, Nat.zero_add,
      List.getElem?_range (Nat.mod_lt _ pos)] at head
    simpa using head.symm
  calc rrOrder n (some i) = (List.range n).rotate (i + 1) := rfl
    _ = (List.range n).rotate (ringStart cur + 1) := by
      rw [← List.rotate_mod, ← List.rotate_mod _ (ringStart cur + 1), first, List.length_range,
        Nat.mod_add_mod]
    _ = (rrOrder n cur).rotate 1 := by rw [rrOrder_eq_rotate, List.rotate_rotate]
    _ = rest ++ [i] := by rw [order, List.rotate_cons_succ, List.rotate_zero]

include valid in
/-- With every destination valid, `k` consecutive calls take the first `k` of the
cursor's order. -/
theorem dpVsRrScheduleN_of_all_valid :
    ∀ (k : Nat) (cur : Option Nat), CursorOk dests.length cur → k ≤ dests.length →
      dpVsRrScheduleN dests k cur = some (((rrOrder dests.length cur).take k).map (dests[·]?))
  | 0, _, _, _ => rfl
  | k + 1, cur, ok, le => by
    have length := (rrOrder_perm dests.length cur).length_eq
    obtain ⟨i, rest, order⟩ : ∃ i rest, rrOrder dests.length cur = i :: rest :=
      List.exists_cons_of_length_pos (by simp [length]; omega)
    have inside : i < dests.length := lt_of_mem_rrOrder (order ▸ List.mem_cons_self)
    rw [order, List.length_cons, List.length_range] at length
    rw [dpVsRrScheduleN, dpVsRrSchedule_eq_rrPick dests ok, rrPick_of_all_valid dests valid order]
    dsimp only
    rw [dpVsRrScheduleN_of_all_valid k (some i) (fun c mem => by cases mem; exact inside)
        (by omega), rrOrder_after_first order, order, List.take_append_of_le_length (by omega),
      List.take_succ_cons, List.map_cons, Option.map_some]

end AllValid

theorem rr_schedule_first_valid_after_cursor {slaveLcoreNum index : Nat} {dests : List Dest}
    {cur : Option Nat} (reach : RrReachable slaveLcoreNum index dests cur) :
    dpVsRrSchedule dests cur = some (rrPick dests cur) ∧
      (rrPick dests cur = (none, cur) ↔ ∀ d ∈ dests, destIsValid d = false) ∧
      ((∀ d ∈ dests, destIsValid d = true) →
        dpVsRrScheduleN dests dests.length cur =
            some ((rrOrder dests.length cur).map (dests[·]?)) ∧
          (rrOrder dests.length cur).Perm (List.range dests.length)) := by
  have ok := reach.cursorOk
  refine ⟨dpVsRrSchedule_eq_rrPick dests ok, rrPick_eq_none_iff dests cur, fun valid => ?_⟩
  have whole := dpVsRrScheduleN_of_all_valid dests valid dests.length cur ok le_rfl
  rw [List.take_of_length_le (by rw [(rrOrder_perm _ _).length_eq, List.length_range])] at whole
  exact ⟨whole, rrOrder_perm _ _⟩

/-- A valid destination `10.0.0.id:80` of weight 1. -/
def rrDest (id : Nat) : Dest :=
  { id := id, af := afInet, addr := InetAddr.ofV4 ((0x0000000a : UInt32) ||| (id.toUInt32 <<< 24)),
    port := 80, flags := destFAvailable, connFlags := 0x0200, weight := 1, refcnt := 1,
    fwdmode := 5, actconns := 0, inactconns := 0, persistconns := 0, maxConn := 0, minConn := 0 }

/-- Three destinations, the second one overloaded. -/
def rrDests : List Dest :=
  [rrDest 1, { rrDest 2 with flags := destFAvailable ||| destFOverload }, rrDest 3]

theorem rr_schedule_first_valid_after_cursor_second_worker :
    dpVsRrSchedule rrDests (dpVsRrInitSvc 2 1 rrDests) =
        some (rrPick rrDests (dpVsRrInitSvc 2 1 rrDests)) ∧
      (rrPick rrDests (dpVsRrInitSvc 2 1 rrDests) = (none, dpVsRrInitSvc 2 1 rrDests) ↔
        ∀ d ∈ rrDests, destIsValid d = false) ∧
      ((∀ d ∈ rrDests, destIsValid d = true) →
        dpVsRrScheduleN rrDests rrDests.length (dpVsRrInitSvc 2 1 rrDests) =
            some ((rrOrder rrDests.length (dpVsRrInitSvc 2 1 rrDests)).map (rrDests[·]?)) ∧
          (rrOrder rrDests.length (dpVsRrInitSvc 2 1 rrDests)).Perm (List.range rrDests.length)) :=
  rr_schedule_first_valid_after_cursor (.initSvc rrDests)

end Dpvs
