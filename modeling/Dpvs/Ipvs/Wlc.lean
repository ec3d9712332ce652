import Dpvs.Ipvs.Sched

/-!
# Weighted least-connection scheduling

`src/ipvs/ip_vs_wlc.c` picks the valid destination with the least
`overhead / weight`, where `overhead = actconns * 256 + inactconns`. It walks the ring
from the worker's first destination twice: once to the first valid destination, then
on around to the start, and it compares two loads by cross-multiplying,
`loh * weight(dest) > doh * weight(least)`.

Every quantity is an `unsigned int`: the overhead is the `int` sum converted, each
16-bit weight is converted to `unsigned int` for the product, and the products are
taken modulo `2^32`. The model keeps that arithmetic in `UInt32`; the counters are
the destination's unbounded `Int` fields, read as 32-bit values.
-/

namespace Dpvs

/-- `dp_vs_wlc_dest_overhead`: `(actconns << 8) + inactconns` as an `unsigned int`. -/
def dpVsWlcDestOverhead (d : Dest) : UInt32 := UInt32.ofInt (d.actconns * 256 + d.inactconns)

/-- The weight as the comparison reads it: `rte_atomic16_read` converted to `unsigned int`. -/
def wlcWeight (d : Dest) : UInt32 := UInt32.ofInt d.weight.toInt

/-- The overhead in exact arithmetic, as the scheduler means it. -/
def exactOverhead (d : Dest) : Int := d.actconns * 256 + d.inactconns

section Walk

variable (dests : List Dest) (first : Option Nat)

/-- The second loop of `dp_vs_wlc_schedule` (`nextstage`), from cursor `cur` on around to
`first`, skipping the head and the invalid destinations. -/
def wlcLeast (least : Dest) (loh : UInt32) : Nat → Option Nat → Option Dest
  | 0, _ => none
  | fuel + 1, cur =>
    if cur = first then some least
    else
      let next := ringNext dests.length cur
      match destAt dests cur with
      | none => wlcLeast least loh fuel next
      | some d =>
        if !destIsValid d then wlcLeast least loh fuel next
        else
          let doh := dpVsWlcDestOverhead d
          if loh * wlcWeight d > doh * wlcWeight least then wlcLeast d doh fuel next
          else wlcLeast least loh fuel next

/-- The first loop of `dp_vs_wlc_schedule`, a `do … while (cur != first)` from `first` to
the first valid destination; the head is stepped over with `continue`, which goes to
the loop test. `some none` is the `NULL` of a ring without a valid destination. -/
def wlcFirstValid : Nat → Option Nat → Option (Option Dest)
  | 0, _ => none
  | fuel + 1, cur =>
    let next := ringNext dests.length cur
    match destAt dests cur with
    | some d =>
      if destIsValid d then
        (wlcLeast dests first d (dpVsWlcDestOverhead d) (dests.length + 1) next).map some
      else if next = first then some none else wlcFirstValid fuel next
    | none => if next = first then some none else wlcFirstValid fuel next

end Walk

/-- `dp_vs_wlc_schedule` on the worker of index `index`; either loop visits each of the
`n + 1` links of the ring at most once. -/
def dpVsWlcSchedule (slaveLcoreNum index : Nat) (dests : List Dest) : Option (Option Dest) :=
  let first := dpVsSchedFirstDest dests.length slaveLcoreNum index
  wlcFirstValid dests first (dests.length + 1) first

/-! ## A more loaded destination wins

Two valid destinations of weight 100 with 100000 and 195313 active connections have
the overheads 25600000 and 50000128. The second is almost twice as loaded, but
`50000128 * 100` wraps modulo `2^32` to 705045504, below `25600000 * 100`. -/

/-- A valid destination of weight 100 with `act` active connections and no inactive one. -/
def loadedDest (id : Nat) (act : Int) : Dest :=
  { id := id, af := afInet, addr := InetAddr.ofV4 ((0x0000000a : UInt32) ||| (id.toUInt32 <<< 24)),
    port := 80, flags := destFAvailable, connFlags := 0x0200, weight := 100, refcnt := 1,
    fwdmode := 5, actconns := act, inactconns := 0, persistconns := 0, maxConn := 0, minConn := 0 }

theorem wlc_picks_more_loaded_dest :
    dpVsWlcSchedule 1 0 [loadedDest 1 100000, loadedDest 2 195313] = some (some (loadedDest 2 195313)) ∧
      destIsValid (loadedDest 1 100000) = true ∧
      exactOverhead (loadedDest 2 195313) * (loadedDest 1 100000).weight.toInt >
        exactOverhead (loadedDest 1 100000) * (loadedDest 2 195313).weight.toInt := by
  decide

end Dpvs
