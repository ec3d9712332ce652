import Dpvs.Basic

/-!
# The two-level timer wheel

`src/timer.c` drives every lcore's timers from one DPDK timer that calls
`rte_timer_tick_cb` once a tick. The scheduler has two wheels of `LEVEL_SIZE`
buckets and a cursor per wheel; a tick moves the level-0 cursor, and the level-1
cursor only when level 0 wraps. A timer goes on the highest wheel its delay
reaches, remembering in `left` the ticks still due once that bucket comes up; a
bucket that comes up expires its timers with nothing left and drops the others to
a lower wheel.

Timers are named by numbers and kept in a table; a timer's `loc` is the wheel list
it is linked on (`timer_pending`). A handler is arbitrary code: the model takes,
for each handler, the timer calls it makes, given the scheduler as it finds it,
and whether it returns `DTIMER_OK`. Tick counts (`dpvs_tick_t`, `uint32_t`) stay
below `2^32` here and are natural numbers.
-/

namespace Dpvs.Timer

/-- `LEVEL_SIZE`, `2 << 18`. -/
def levelSize : Nat := 2 <<< 18

/-- `TIMER_MAX_TICKS`. -/
def timerMaxTicks : Nat := 0xffffffff

/-- `DPVS_TIMER_HZ`. -/
def dpvsTimerHz : Nat := 1000

/-- `TIMER_MAX_SECS`. -/
def timerMaxSecs : Nat := timerMaxTicks / dpvsTimerHz

/-- `get_level_ticks`: the ticks of one step of the wheel. -/
def getLevelTicks (level : Nat) : Nat := levelSize ^ level

/-- `struct timeval`. -/
structure Timeval where
  sec : Nat
  usec : Nat
  deriving DecidableEq, Repr

/-- `timeval_to_ticks`, capped at `TIMER_MAX_TICKS`. -/
def timevalToTicks (tv : Timeval) : Nat :=
  let ticks := tv.sec * dpvsTimerHz + tv.usec * dpvsTimerHz / 1000000
  if ticks ≥ timerMaxTicks then timerMaxTicks else ticks

/-- `ticks_to_timeval`. -/
def ticksToTimeval (ticks : Nat) : Timeval :=
  ⟨ticks / dpvsTimerHz, ticks % dpvsTimerHz * 1000000 / dpvsTimerHz⟩

/-- `struct dpvs_timer`: the handler (with its `priv`) by number, the wheel list it
is linked on, if any. -/
structure DpvsTimer where
  handler : Nat
  isPeriod : Bool
  delay : Nat
  left : Nat
  loc : Option (Nat × Nat)
  deriving DecidableEq, Repr

/-- A timer as `memset` leaves it: on no list. -/
def DpvsTimer.zero : DpvsTimer := ⟨0, false, 0, 0, none⟩

/-- `struct timer_scheduler` with its timers: the two cursors, the wheels as lists of
timer numbers, and the timers. -/
structure Sched where
  cursors : Nat → Nat
  hashs : Nat → Nat → List Nat
  timers : Nat → DpvsTimer

/-- The scheduler `timer_init_schedler` leaves: cursors at 0, every bucket empty. -/
def Sched.empty : Sched := ⟨fun _ => 0, fun _ _ => [], fun _ => .zero⟩

/-- The calls a handler can make on timers, with the public API's arguments. -/
inductive TimerCall where
  | sched (id : Nat) (delay : Timeval) (handler : Nat) (period : Bool)
  | cancel (id : Nat)
  | reset (id : Nat)
  | update (id : Nat) (delay : Timeval)

/-- What each handler does when called: the timer calls it makes, given the
scheduler as it finds it, and whether it returns `DTIMER_OK`. -/
def Handlers : Type := Nat → Sched → List TimerCall × Bool

/-! ## List operations -/

/-- `list_add_tail` of timer `id` on bucket `b` of wheel `level`. -/
def Sched.link (s : Sched) (id level b : Nat) (t : DpvsTimer) : Sched :=
  { s with
    hashs := Function.update s.hashs level
      (Function.update (s.hashs level) b (s.hashs level b ++ [id]))
    timers := Function.update s.timers id { t with loc := some (level, b) } }

/-- `list_del` of a pending timer: off the list it is linked on. -/
def Sched.unlink (s : Sched) (id : Nat) : Sched :=
  match (s.timers id).loc with
  | none => s
  | some (level, b) =>
    { s with
      hashs := Function.update s.hashs level
        (Function.update (s.hashs level) b ((s.hashs level b).erase id))
      timers := Function.update s.timers id { s.timers id with loc := none } }

/-! ## Scheduling -/

/-- The wheel a delay goes on: the highest one whose step it reaches. -/
def placeLevel (delay : Nat) : List Nat → Option Nat
  | [] => none
  | level :: lower => if delay / getLevelTicks level > 0 then some level else placeLevel delay lower

/-- The ticks the lower cursors have already run, `cursors[l] * get_level_ticks(l)`
for every wheel below `level`. -/
def lowerTicks (s : Sched) (level : Nat) : Nat :=
  ((List.range level).map fun l => s.cursors l * getLevelTicks l).sum

/-- `__dpvs_timer_sched`: record handler, period and delay (a delay of `TIMER_MAX_TICKS`
is refused after that, a delay of 0 becomes 1), then link on the bucket `off` steps
past the cursor of the highest wheel the delay reaches, keeping the remainder plus
what the lower cursors have already run. A pending timer is linked again all the
same. -/
def dpvsTimerSchedRaw (s : Sched) (id : Nat) (delay : Timeval) (handler : Nat)
    (period : Bool) : Edpvs × Sched :=
  let ticks := timevalToTicks delay
  let t := { s.timers id with handler, isPeriod := period, delay := ticks }
  if ticks ≥ timerMaxTicks then (.inval, { s with timers := Function.update s.timers id t })
  else
    let d := if ticks = 0 then 1 else ticks
    match placeLevel d [1, 0] with
    | none => (.inval, { s with timers := Function.update s.timers id { t with delay := d } })
    | some level =>
      let off := d / getLevelTicks level
      let b := (s.cursors level + off) % levelSize
      (.ok, s.link id level b
        { t with delay := d, left := d % getLevelTicks level + lowerTicks s level })

/-- `dpvs_timer_sched` and `dpvs_timer_sched_period`: a delay of `TIMER_MAX_SECS`
seconds or more is refused first. -/
def dpvsTimerSched (s : Sched) (id : Nat) (delay : Timeval) (handler : Nat) (period : Bool) :
    Edpvs × Sched :=
  if delay.sec ≥ timerMaxSecs then (.inval, s) else dpvsTimerSchedRaw s id delay handler period

/-- `dpvs_timer_cancel`. -/
def dpvsTimerCancel (s : Sched) (id : Nat) : Edpvs × Sched := (.ok, s.unlink id)

/-- `dpvs_timer_update`: off its list, then scheduled again with the new delay and its
own handler and period. -/
def dpvsTimerUpdate (s : Sched) (id : Nat) (delay : Timeval) : Edpvs × Sched :=
  let s := s.unlink id
  dpvsTimerSchedRaw s id delay (s.timers id).handler (s.timers id).isPeriod

/-- `dpvs_timer_reset`: `dpvs_timer_update` with the timer's own delay. -/
def dpvsTimerReset (s : Sched) (id : Nat) : Edpvs × Sched :=
  let s := s.unlink id
  dpvsTimerSchedRaw s id (ticksToTimeval (s.timers id).delay) (s.timers id).handler
    (s.timers id).isPeriod

/-- One call a handler makes. -/
def applyCall (s : Sched) : TimerCall → Sched
  | .sched id delay handler period => (dpvsTimerSched s id delay handler period).2
  | .cancel id => (dpvsTimerCancel s id).2
  | .reset id => (dpvsTimerReset s id).2
  | .update id delay => (dpvsTimerUpdate s id delay).2

/-! ## A tick -/

variable (handlers : Handlers)

/-- `timer_expire`: off its list, run the handler, and schedule a periodic timer
whose handler returned `DTIMER_OK` again with its delay. -/
def timerExpire (s : Sched) (id : Nat) : Sched :=
  let handler := (s.timers id).handler
  let s := s.unlink id
  let (calls, ok) := handlers handler s
  let s := calls.foldl applyCall s
  let t := s.timers id
  if !ok || !t.isPeriod then s
  else (dpvsTimerSchedRaw s id (ticksToTimeval t.delay) t.handler t.isPeriod).2

/-- The drop of a timer with ticks left to the highest wheel at or below `level`
that its remainder reaches, the lower cursors being 0. -/
def cascade (s : Sched) (level id : Nat) : Sched :=
  let s := s.unlink id
  let t := s.timers id
  match placeLevel t.left ((List.range (level + 1)).reverse) with
  | none => s
  | some lower =>
    let off := t.left / getLevelTicks lower
    s.link id lower ((s.cursors lower + off) % levelSize)
      { t with left := t.left % getLevelTicks lower }

/-- The `while (!list_empty(head))` loop over the bucket under the cursor of
`level`: the first timer expires or drops, until the bucket is empty. `none` when
the loop outlasts its fuel. -/
def drainBucket (level : Nat) : Nat → Sched → Option Sched
  | fuel, s =>
    match s.hashs level (s.cursors level), fuel with
    | [], _ => some s
    | _ :: _, 0 => none
    | id :: _, fuel + 1 =>
      if (s.timers id).left = 0 then drainBucket level fuel (timerExpire handlers s id)
      else drainBucket level fuel (cascade s level id)

/-- One level of `rte_timer_tick_cb`: move the cursor, wrapping to 0 with a carry,
and drain the bucket it lands on. The fuel is the bucket's length. -/
def tickLevel (s : Sched) (level : Nat) : Option (Sched × Bool) :=
  let c := s.cursors level + 1
  let carry := decide (c ≥ levelSize)
  let s := { s with cursors := Function.update s.cursors level (if carry then 0 else c) }
  (drainBucket handlers level (s.hashs level (s.cursors level)).length s).map (·, carry)

/-- `rte_timer_tick_cb`: level 0, and level 1 when level 0 carried. -/
def rteTimerTickCb (s : Sched) : Option Sched :=
  match tickLevel handlers s 0 with
  | none => none
  | some (s, false) => some s
  | some (s, true) => (tickLevel handlers s 1).map Prod.fst

/-- `n` ticks. -/
def tickN : Nat → Sched → Option Sched
  | 0, s => some s
  | n + 1, s => (rteTimerTickCb handlers s).bind (tickN n)

/-! ## Idle ticks -/

/-- A scheduler with no timer linked, its level-0 cursor at `c0`. -/
def Sched.idleAt (c0 : Nat) : Sched :=
  { Sched.empty with cursors := Function.update (fun _ => 0) 0 c0 }

theorem Sched.empty_eq_idleAt : Sched.empty = Sched.idleAt 0 := by
  have cursors : Function.update (fun _ : Nat => (0 : Nat)) 0 0 = fun _ => 0 :=
    Function.update_eq_self 0 _
  simp only [Sched.idleAt, Sched.empty, cursors]

/-- A tick of an idle scheduler that does not wrap level 0 only moves its cursor. -/
theorem rteTimerTickCb_idleAt (c0 : Nat) (h : c0 + 1 < levelSize) :
    rteTimerTickCb handlers (Sched.idleAt c0) = some (Sched.idleAt (c0 + 1)) := by
  have nocarry : decide (c0 + 1 ≥ levelSize) = false := by simp; omega
  simp [rteTimerTickCb, tickLevel, drainBucket, Sched.idleAt, Sched.empty, nocarry]

/-- Idle ticks that do not wrap level 0 only move its cursor. -/
theorem tickN_idleAt (n c0 : Nat) (h : c0 + n < levelSize) :
    tickN handlers n (Sched.idleAt c0) = some (Sched.idleAt (c0 + n)) := by
  induction n generalizing c0 with
  | zero => rfl
  | succ n ih =>
    have step := rteTimerTickCb_idleAt handlers c0 (by omega)
    rw [tickN, step, Option.bind_some, ih (c0 + 1) (by omega)]
    congr 2
    omega

/-! ## A timer scheduled by a handler on the wrapping tick

On the tick where level 0 wraps, level 0's bucket is drained with the level-1
cursor not yet moved. A timer a handler schedules there with a delay of
`LEVEL_SIZE` ticks goes one step past the old level-1 cursor, onto the bucket that
level 1 drains next, in the same call. -/

/-- Handler 0 schedules timer 1 for `LEVEL_SIZE` ticks (524.288 s) with handler 1;
handler 1 schedules timer 2 for a second, which shows that it ran. -/
def carryHandlers : Handlers := fun handler _ =>
  match handler with
  | 0 => ([.sched 1 ⟨524, 288000⟩ 1 false], true)
  | 1 => ([.sched 2 ⟨1, 0⟩ 2 false], true)
  | _ => ([], true)

/-- After `LEVEL_SIZE - 1` idle ticks, timer 0 is scheduled for one tick; on the next
tick, which wraps level 0, its handler schedules timer 1 for `LEVEL_SIZE` ticks, and
timer 1 fires in that same tick: it is no longer pending and its handler has
scheduled timer 2. -/
theorem timer_fires_early_after_carry :
    let idle : Option Sched := tickN carryHandlers (levelSize - 1) Sched.empty
    let armed : Option Sched :=
      idle.map fun s => (dpvsTimerSched s 0 ⟨0, 1000⟩ 0 false).2
    let ticked : Option Sched := armed.bind (rteTimerTickCb carryHandlers)
    idle = some (Sched.idleAt (levelSize - 1)) ∧
      (armed.map fun s => ((s.timers 0).loc, (s.timers 0).left)) = some (some (0, 0), 0) ∧
      (ticked.map fun s => ((s.timers 1).delay, (s.timers 1).loc, (s.timers 2).loc.isSome)) =
        some (levelSize, none, true) := by
  have idle : tickN carryHandlers (levelSize - 1) Sched.empty =
      some (Sched.idleAt (levelSize - 1)) := by
    rw [Sched.empty_eq_idleAt, tickN_idleAt carryHandlers _ 0 (by decide)]
    rfl
  simp only [idle, Option.map_some, Option.bind_some]
  decide

end Dpvs.Timer
