import Dpvs.Ipvs.Dest

/-!
# What the schedulers share

`src/ipvs/ip_vs_sched.c` and `include/ipvs/dest.h` give every scheduler the same
pieces: the test of a destination that may take new connections
(`dp_vs_dest_is_valid`), the common divisor of the positive weights
(`dp_vs_gcd_weight`), and the destination a worker starts its walk from
(`dp_vs_sched_first_dest`).

`svc->dests` is a ring closed by its list head. A cursor on it is the head (`none`)
or the position of a destination in the list (`some i`); `ringNext` is the `next`
link.
-/

namespace Dpvs

/-- `dp_vs_dest_is_valid`: available, not overloaded, not inhibited, and a positive
16-bit weight. -/
def destIsValid (d : Dest) : Bool :=
  d.flags &&& destFAvailable != 0 && d.flags &&& destFOverload == 0 &&
    d.flags &&& destFInhibited == 0 && 0 < d.weight.toInt

/-! ## `dp_vs_gcd_weight` -/

/-- `gcd` of `ip_vs_sched.c`, `while ((c = a % b)) { a = b; b = c; } return b;`, for at
most `fuel` rounds. -/
def gcdLoop : Nat → Nat → Nat → Nat
  | 0, _, b => b
  | fuel + 1, a, b => if a % b = 0 then b else gcdLoop fuel b (a % b)

/-- `gcd(a, b)`: `b` falls in every round, so `b` rounds are enough. -/
def schedGcd (a b : Nat) : Nat := gcdLoop b a b

/-- `dp_vs_gcd_weight`: the common divisor of the positive weights, or 1 when there are
none. -/
def dpVsGcdWeight (dests : List Dest) : Nat :=
  let g := dests.foldl (fun g d =>
    if 0 < d.weight.toInt then
      if 0 < g then schedGcd d.weight.toInt.toNat g else d.weight.toInt.toNat
    else g) 0
  if g = 0 then 1 else g

/-! ## Cursors on the ring -/

/-- The `next` link of a ring of `n` destinations: from the head to the first one, from
the last one back to the head. -/
def ringNext (n : Nat) : Option Nat → Option Nat
  | none => if n = 0 then none else some 0
  | some i => if i + 1 < n then some (i + 1) else none

/-- The destination a cursor points at; the head has none. -/
def destAt (dests : List Dest) (cur : Option Nat) : Option Dest := cur.bind (dests[·]?)

/-- `loc` of `dp_vs_sched_first_dest`: the worker's share of the list times its index,
with `?: 1` for a share or a list size of zero. -/
def firstDestLoc (numDests slaveLcoreNum index : Nat) : Nat :=
  (if numDests / slaveLcoreNum = 0 then 1 else numDests / slaveLcoreNum) * index %
    (if numDests = 0 then 1 else numDests)

/-- One step of the walk of `dp_vs_sched_first_dest`, which never stops on the head. -/
def skipHead (n : Nat) (cur : Option Nat) : Option Nat :=
  let cur := ringNext n cur
  if cur = none then ringNext n cur else cur

/-- `dp_vs_sched_first_dest` for the worker of index `g_lcore_id2index[cid]`: `loc`
steps from the first destination. -/
def dpVsSchedFirstDest (numDests slaveLcoreNum index : Nat) : Option Nat :=
  (skipHead numDests)^[firstDestLoc numDests slaveLcoreNum index] (ringNext numDests none)

theorem firstDestLoc_lt {numDests : Nat} (slaveLcoreNum index : Nat) (nonempty : 0 < numDests) :
    firstDestLoc numDests slaveLcoreNum index < numDests := by
  have size : (if numDests = 0 then 1 else numDests) = numDests := if_neg (by omega)
  unfold firstDestLoc
  rw [size]
  exact Nat.mod_lt _ nonempty

theorem skipHead_iterate {n k : Nat} (inside : k < n) : (skipHead n)^[k] (some 0) = some k := by
  induction k with
  | zero => rfl
  | succ k ih =>
    rw [Function.iterate_succ_apply', ih (by omega)]
    simp [skipHead, ringNext, inside]

/-- On a list with destinations, a worker starts at the destination at position `loc`. -/
theorem dpVsSchedFirstDest_of_pos {numDests : Nat} (slaveLcoreNum index : Nat)
    (nonempty : 0 < numDests) :
    dpVsSchedFirstDest numDests slaveLcoreNum index =
      some (firstDestLoc numDests slaveLcoreNum index) := by
  have start : ringNext numDests none = some 0 := by simp [ringNext]; omega
  rw [dpVsSchedFirstDest, start]
  exact skipHead_iterate (firstDestLoc_lt slaveLcoreNum index nonempty)

end Dpvs
