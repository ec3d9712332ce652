import Dpvs.Ipvs.Sched

/-!
# Weighted round-robin scheduling

`src/ipvs/ip_vs_wrr.c` keeps a mark per service: the cursor `cl` on the ring of
destinations, the current weight `cw`, the largest weight `mw` and the step
`di = dp_vs_gcd_weight`. Each call of `dp_vs_wrr_schedule` moves the cursor on; every
time it passes the head, `cw` drops by `di` and wraps to `mw` when it reaches zero.
The first valid destination whose weight is at least `cw` is taken. The loop gives up
when it is back at the destination it started from with `cw = di`, which its comment
says happens only when all destinations are overloaded.

That test reads the start position, not a whole pass: when the start destination has
become invalid and the walk reaches it with `cw = di`, the call returns `NULL`
although a valid destination further on has weight `di`.
-/

namespace Dpvs

/-- `struct dp_vs_wrr_mark`. -/
structure WrrMark where
  cl : Option Nat
  cw : Int
  mw : Int
  di : Int
  deriving DecidableEq, Repr

/-- `dp_vs_wrr_max_weight`: the largest 16-bit weight, at least 0. -/
def dpVsWrrMaxWeight (dests : List Dest) : Int :=
  dests.foldl (fun w d => if d.weight.toInt > w then d.weight.toInt else w) 0

/-- `dp_vs_wrr_init_svc` once the mark is allocated. -/
def dpVsWrrInitSvc (slaveLcoreNum index : Nat) (dests : List Dest) : WrrMark :=
  ⟨dpVsSchedFirstDest dests.length slaveLcoreNum index, 0, dpVsWrrMaxWeight dests,
    dpVsGcdWeight dests⟩

/-- `dp_vs_wrr_update_svc`: a new start, maximum and step; `cw` is kept unless it is
above the new maximum. -/
def dpVsWrrUpdateSvc (slaveLcoreNum index : Nat) (dests : List Dest) (mark : WrrMark) :
    WrrMark :=
  let mark := { mark with cl := dpVsSchedFirstDest dests.length slaveLcoreNum index,
                          mw := dpVsWrrMaxWeight dests, di := dpVsGcdWeight dests }
  if mark.cw > mark.mw then { mark with cw := 0 } else mark

/-- The cursor move at the top of the loop of `dp_vs_wrr_schedule`. From the head it goes
to the first destination and lowers `cw`, wrapping it to `mw`; `true` is one of the two
`goto out` with `NULL` there (no destination at all, or `mw = 0`). -/
def wrrMove (n : Nat) (mark : WrrMark) : WrrMark × Bool :=
  match mark.cl with
  | some _ => ({ mark with cl := ringNext n mark.cl }, false)
  | none =>
    if n = 0 then (mark, true)
    else
      let mark := { mark with cl := some 0, cw := mark.cw - mark.di }
      if mark.cw ≤ 0 then
        let mark := { mark with cw := mark.mw }
        if mark.cw = 0 then ({ mark with cl := none }, true) else (mark, false)
      else (mark, false)

/-- The tests at the bottom of the loop: a valid destination of weight at least `cw` is
taken; back at the start `p` with `cw = di` the call gives up; `none` goes round again. -/
def wrrCheck (dests : List Dest) (p : Option Nat) (mark : WrrMark) : Option (Option Dest) :=
  let giveUp := if mark.cl = p ∧ mark.cw = mark.di then some none else none
  match destAt dests mark.cl with
  | some d => if destIsValid d ∧ d.weight.toInt ≥ mark.cw then some (some d) else giveUp
  | none => giveUp

/-- The loop of `dp_vs_wrr_schedule` from the start `p`, for at most `fuel` rounds;
`none` is a loop still running. -/
def wrrLoop (dests : List Dest) (p : Option Nat) : Nat → WrrMark → Option (Option Dest × WrrMark)
  | 0, _ => none
  | fuel + 1, mark =>
    let (mark, stop) := wrrMove dests.length mark
    if stop then some (none, mark)
    else match wrrCheck dests p mark with
      | some r => some (r, mark)
      | none => wrrLoop dests p fuel mark

/-- `dp_vs_wrr_schedule`: the destination, or `NULL`, and the mark it leaves. -/
def dpVsWrrSchedule (fuel : Nat) (dests : List Dest) (mark : WrrMark) :
    Option (Option Dest × WrrMark) :=
  wrrLoop dests mark.cl fuel mark

/-! ## `NULL` with a valid destination on the ring

Destination 0 has weight 2, destination 1 weight 1. From `dp_vs_wrr_init_svc` the
first two calls return destination 1, then destination 0 at `cw = 2`, and leave the
cursor on destination 0. When destination 0 is then overloaded, the next call passes
destination 1 at `cw = 2`, comes back to destination 0 at `cw = 1 = di`, and gives
up. -/

/-- A destination of weight `w` with the flags `flags`. -/
def wrrDest (id : Nat) (w : Int16) (flags : UInt16) : Dest :=
  { id := id, af := afInet, addr := InetAddr.ofV4 ((0x0000000a : UInt32) ||| (id.toUInt32 <<< 24)),
    port := 80, flags := flags, connFlags := 0x0200, weight := w, refcnt := 1, fwdmode := 5,
    actconns := 0, inactconns := 0, persistconns := 0, maxConn := 0, minConn := 0 }

/-- The service before destination 0 is overloaded. -/
def wrrRing : List Dest := [wrrDest 0 2 destFAvailable, wrrDest 1 1 destFAvailable]

/-- The same ring once destination 0 carries `DPVS_DEST_F_OVERLOAD`. -/
def wrrRingOverloaded : List Dest :=
  [wrrDest 0 2 (destFAvailable ||| destFOverload), wrrDest 1 1 destFAvailable]

theorem wrr_null_with_valid_dest :
    ∃ mark1 mark2,
      dpVsWrrSchedule 16 wrrRing (dpVsWrrInitSvc 1 0 wrrRing) = some (some (wrrDest 1 1 destFAvailable), mark1) ∧
      dpVsWrrSchedule 16 wrrRing mark1 = some (some (wrrDest 0 2 destFAvailable), mark2) ∧
      (dpVsWrrSchedule 16 wrrRingOverloaded mark2).map Prod.fst = some none ∧
      destIsValid (wrrDest 1 1 destFAvailable) = true ∧ wrrDest 1 1 destFAvailable ∈ wrrRingOverloaded :=
  ⟨_, _, by rfl, by rfl, by decide, by decide, by decide⟩

end Dpvs
