import Dpvs.Basic
import Dpvs.Lib.TokenBucket
import Mathlib.Data.Int.Bitwise

/-!
# The token bucket filter

`src/tc/sch_tbf.c` shapes a queue of packets by two buckets of tokens counted in
nanoseconds, kept in the shared part `priv->shm`: `tokens`, filled at the rate `priv->rate`
up to the depth `priv->buffer`, and `ptokens`, filled from the same arrivals up to
`priv->mtu` and charged at the peak rate `priv->peak`. `tbf_enqueue` only queues (a packet
longer than `max_size`, or one that takes the backlog past `limit`, is dropped);
`tbf_dequeue` sends the head packet when both buckets, refilled by the time since the
checkpoint `t_c`, cover its cost, and then sets the checkpoint. `tbf_change` computes the
parameters from a `struct tc_tbf_qopt`, and it and `tbf_reset` fill both buckets.

The buckets are those of `TokenBucket`: every run of calls is a `TokenBucket.Run` of
the dequeued packets' costs (`tbfRun_tokens`, `tbfRun_ptokens`), from which the burst bound
over any window of time follows. With the parameters of a successful `tbf_change`, the
buckets stay within their depths, a dequeue sends exactly when the refilled buckets cover
the head packet, and every packet the queue takes costs at most a bucket
(`tbf_shapes_to_its_parameters`).

The model is of one lcore, on which `rte_spinlock_trylock` on the shared part always
succeeds. Times are the `int64_t` values of `tc_get_ns`, the token counts `int64_t` values,
both as `Int`; the rates and the conversions `qsch_l2t_ns`, `qsch_t2l_ns` are `uint64_t`
arithmetic, as `Nat` modulo 2^64, and the casts between the two are explicit.
-/

namespace Dpvs.Tc.Tbf

open TokenBucket

/-- `struct qsch_rate`: bytes a second. -/
structure QschRate where
  rateBytesPs : Nat
  deriving DecidableEq, Repr

/-- `qsch_l2t_ns`: the nanoseconds `len` bytes take at `rate`, in `uint64_t`; `~0U` for a
rate of 0. -/
def qschL2tNs (rate : QschRate) (len : Nat) : Nat :=
  if rate.rateBytesPs = 0 then 0xffffffff else len * 1000000000 % 2 ^ 64 / rate.rateBytesPs

/-- `qsch_t2l_ns`: the bytes `rate` sends in `ns` nanoseconds, in `uint64_t`. -/
def qschT2lNs (rate : QschRate) (ns : Nat) : Nat :=
  rate.rateBytesPs * ns % 2 ^ 64 / 1000000000

/-- A `uint64_t` value stored in an `int64_t`. -/
def int64OfU64 (v : Nat) : Int := if v < 2 ^ 63 then v else (v : Int) - 2 ^ 64

/-- An `int64_t` value passed as a `uint64_t`. -/
def u64OfI64 (v : Int) : Nat := (v % 2 ^ 64).toNat

/-- `struct tc_tbf_qopt` as `tbf_change` reads it; of each `struct tc_ratespec` only `rate`,
in bits a second. -/
structure TcTbfQopt where
  rate : UInt32
  peakrate : UInt32
  limit : UInt32
  buffer : UInt32
  mtu : UInt32
  deriving DecidableEq, Repr

/-- `struct tbf_sch_priv` without its pointer `shm`: the depths `buffer` and `mtu` are in
nanoseconds. -/
structure TbfSchPriv where
  limit : UInt32
  maxSize : UInt32
  buffer : Int
  mtu : Int
  rate : QschRate
  peak : QschRate
  deriving DecidableEq, Repr

/-- `struct tbf_sch_shared` without its lock. -/
structure TbfSchShared where
  tokens : Int
  ptokens : Int
  tC : Int
  deriving DecidableEq, Repr

/-- A tbf `Qsch`: its private part and the shared part `priv->shm`, the generic queue
`sch->q` (the `pkt_len` of each queued mbuf, head first) with its `uint16_t` count, and the
counters of `sch->qstats` and `sch->bstats` the queue helpers keep. -/
structure TbfSch where
  priv : TbfSchPriv
  shm : TbfSchShared
  q : List UInt32
  qQlen : UInt16
  qlen : UInt32
  backlog : UInt32
  drops : UInt32
  overlimits : UInt32
  packets : UInt32
  bytes : UInt64
  deriving DecidableEq, Repr

/-- A tbf `Qsch` as `qsch_create` allocates it with `rte_zmalloc`, before `tbf_init`. -/
def tbfSchAlloc : TbfSch :=
  ⟨⟨0, 0, 0, 0, ⟨0⟩, ⟨0⟩⟩, ⟨0, 0, 0⟩, [], 0, 0, 0, 0, 0, 0, 0⟩

/-- `tbf_peak_present`. -/
def tbfPeakPresent (priv : TbfSchPriv) : Bool := priv.peak.rateBytesPs ≠ 0

/-! ## The queue helpers of `tc/sch.h` -/

/-- `qsch_drop`: the packet is freed and counted. -/
def qschDrop (s : TbfSch) : TbfSch := { s with drops := s.drops + 1 }

/-- `qsch_enqueue_tail`; `tmOk` is whether `rte_mempool_get` gave a `tc_mbuf`. -/
def qschEnqueueTail (s : TbfSch) (len : UInt32) (tmOk : Bool) : Edpvs × TbfSch :=
  if tmOk then
    (.ok, { s with
      q := s.q ++ [len]
      qQlen := s.qQlen + 1
      backlog := s.backlog + len
      qlen := s.qlen + 1 })
  else (.nomem, qschDrop s)

/-- `qsch_peek_head`. -/
def qschPeekHead (s : TbfSch) : Option UInt32 := s.q.head?

/-- `qsch_dequeue_head`. -/
def qschDequeueHead (s : TbfSch) : Option UInt32 × TbfSch :=
  match s.q with
  | [] => (none, s)
  | len :: rest =>
    (some len, { s with
      q := rest
      qQlen := s.qQlen - 1
      qlen := s.qlen - 1
      backlog := s.backlog - len
      packets := s.packets + 1
      bytes := s.bytes + len.toUInt64 })

/-- `qsch_reset_queue`: every queued packet dropped through `qsch_drop`. -/
def qschResetQueue (s : TbfSch) : TbfSch :=
  { s with q := [], qQlen := 0, drops := s.drops + s.q.length.toUInt32, qlen := 0, backlog := 0 }

/-! ## The scheduler -/

/-- `tbf_enqueue`. -/
def tbfEnqueue (s : TbfSch) (len : UInt32) (tmOk : Bool) : Edpvs × TbfSch :=
  if len > s.priv.maxSize then (.drop, qschDrop s)
  else if s.backlog + len > s.priv.limit then (.drop, qschDrop s)
  else qschEnqueueTail s len tmOk

/-- The first `toks` of `tbf_dequeue`: the tokens arrived since the checkpoint, at most a
bucket. -/
def tbfArrived (s : TbfSch) (now : Int) : Int := min (now - s.shm.tC) s.priv.buffer

/-- `ptoks` of `tbf_dequeue` for a packet of `pktLen` bytes: the arrived tokens and the
peak tokens left, at most `mtu`, less the packet's cost at the peak rate; 0 without a
peak. -/
def tbfPtoks (s : TbfSch) (now : Int) (pktLen : UInt32) : Int :=
  if tbfPeakPresent s.priv then
    min (tbfArrived s now + s.shm.ptokens) s.priv.mtu -
      int64OfU64 (qschL2tNs s.priv.peak pktLen.toNat)
  else 0

/-- The last `toks` of `tbf_dequeue`: the arrived tokens and the tokens left, at most a
bucket, less the packet's cost at the rate. -/
def tbfToks (s : TbfSch) (now : Int) (pktLen : UInt32) : Int :=
  min (tbfArrived s now + s.shm.tokens) s.priv.buffer -
    int64OfU64 (qschL2tNs s.priv.rate pktLen.toNat)

/-- `tbf_dequeue` at the time `now` of `tc_get_ns`. -/
def tbfDequeue (s : TbfSch) (now : Int) : Option UInt32 × TbfSch :=
  match qschPeekHead s with
  | none => (none, s)
  | some pktLen =>
    -- "token producer bug?"
    if tbfArrived s now < 0 then (none, s)
    else
      let toks := tbfToks s now pktLen
      let ptoks := tbfPtoks s now pktLen
      -- both signs in one test, `(toks|ptoks) >= 0`
      if 0 ≤ Int.lor toks ptoks then
        match qschDequeueHead s with
        | (none, s) => (none, s)
        | (some m, s) => (some m, { s with shm := ⟨toks, ptoks, now⟩ })
      else (none, { s with overlimits := s.overlimits + 1 })

/-- The refill of the shared part on the master lcore, in `tbf_change` and `tbf_reset`:
both buckets full from `now`. -/
def tbfFill (priv : TbfSchPriv) (now : Int) : TbfSchShared := ⟨priv.buffer, priv.mtu, now⟩

/-- `rate` of `tbf_change`: `qopt->rate.rate / 8` bytes a second, or the rate in use. -/
def tbfChangeRate (qopt : TcTbfQopt) (priv : TbfSchPriv) : QschRate :=
  if qopt.rate ≠ 0 then ⟨(qopt.rate / 8).toNat⟩ else priv.rate

/-- `peak` of `tbf_change`. -/
def tbfChangePeak (qopt : TcTbfQopt) (priv : TbfSchPriv) : QschRate :=
  if qopt.peakrate ≠ 0 then ⟨(qopt.peakrate / 8).toNat⟩ else priv.peak

/-- `limit` of `tbf_change`. -/
def tbfChangeLimit (qopt : TcTbfQopt) (priv : TbfSchPriv) : UInt32 :=
  if qopt.limit ≠ 0 then qopt.limit else priv.limit

/-- `buffer` of `tbf_change`: the burst in nanoseconds at the new rate. -/
def tbfChangeBuffer (qopt : TcTbfQopt) (priv : TbfSchPriv) : Int :=
  if qopt.buffer ≠ 0 then int64OfU64 (qschL2tNs (tbfChangeRate qopt priv) qopt.buffer.toNat)
  else priv.buffer

/-- `mtu` of `tbf_change`: the minburst in nanoseconds at the new peak rate; without a new
minburst, the old one converted to bytes and back at the new peak rate. -/
def tbfChangeMtu (qopt : TcTbfQopt) (priv : TbfSchPriv) : Int :=
  let peak := tbfChangePeak qopt priv
  if qopt.mtu ≠ 0 then int64OfU64 (qschL2tNs peak qopt.mtu.toNat)
  else if peak.rateBytesPs ≠ 0 then
    int64OfU64 (qschL2tNs peak (qschT2lNs peak (u64OfI64 priv.mtu)))
  else 0

/-- `max_size` of `tbf_change`, "min(burst, minburst)", in `uint64_t` from `~0U`. -/
def tbfMaxSize (rate peak : QschRate) (buffer mtu : Int) : Nat :=
  let maxSize := if mtu ≠ 0 then min (qschT2lNs peak (u64OfI64 mtu)) 0xffffffff else 0xffffffff
  if buffer ≠ 0 then min maxSize (qschT2lNs rate (u64OfI64 buffer)) else maxSize

/-- The sanity check of `tbf_change`, each of whose tests returns `EDPVS_INVAL`. -/
def tbfChangeInval (devMtu : UInt16) (qopt : TcTbfQopt) (priv : TbfSchPriv) : Bool :=
  let rate := tbfChangeRate qopt priv
  let peak := tbfChangePeak qopt priv
  let buffer := tbfChangeBuffer qopt priv
  let mtu := tbfChangeMtu qopt priv
  tbfMaxSize rate peak buffer mtu = 0 ∨ buffer = 0 ∨ rate.rateBytesPs = 0 ∨
    (peak.rateBytesPs ≠ 0 ∧
      (peak.rateBytesPs < rate.rateBytesPs ∨ mtu = 0 ∨
        qschT2lNs peak (u64OfI64 mtu) < devMtu.toNat))

/-- The parameters `tbf_change` saves; `max_size` is truncated to its `uint32_t` field. -/
def tbfChangePriv (qopt : TcTbfQopt) (priv : TbfSchPriv) : TbfSchPriv :=
  let rate := tbfChangeRate qopt priv
  let peak := tbfChangePeak qopt priv
  let buffer := tbfChangeBuffer qopt priv
  let mtu := tbfChangeMtu qopt priv
  ⟨tbfChangeLimit qopt priv, (tbfMaxSize rate peak buffer mtu).toUInt32, buffer, mtu, rate, peak⟩

/-- `tbf_change` on an lcore that is the master lcore or not, at the time `now` of
`tc_get_ns`, on a device of MTU `devMtu`. -/
def tbfChange (master : Bool) (now : Int) (devMtu : UInt16) (qopt : TcTbfQopt) (s : TbfSch) :
    Edpvs × TbfSch :=
  if tbfChangeInval devMtu qopt s.priv then (.inval, s)
  else
    let priv := tbfChangePriv qopt s.priv
    if master then (.ok, { s with priv := priv, shm := tbfFill priv now })
    else (.ok, { s with priv := priv })

/-- `tbf_reset`. -/
def tbfReset (master : Bool) (now : Int) (s : TbfSch) : TbfSch :=
  let s := qschResetQueue s
  if master then { s with shm := tbfFill s.priv now } else s

/-- The calls a run of the scheduler is made of. -/
inductive TbfCall where
  | enqueue (len : UInt32) (tmOk : Bool)
  | dequeue (now : Int)
  deriving DecidableEq, Repr

/-- A run of calls: the state it leaves, and the packets it dequeued, each with the time of
its dequeue, in order. -/
def tbfRun : TbfSch → List TbfCall → TbfSch × List (UInt32 × Int)
  | s, [] => (s, [])
  | s, .enqueue len tmOk :: calls => tbfRun (tbfEnqueue s len tmOk).2 calls
  | s, .dequeue now :: calls =>
    let r := tbfRun (tbfDequeue s now).2 calls
    (r.1, ((tbfDequeue s now).1.map fun len => (len, now)).toList ++ r.2)

/-- The times of the dequeues of a run. -/
def tbfTimes : List TbfCall → List Int
  | [] => []
  | .enqueue _ _ :: calls => tbfTimes calls
  | .dequeue now :: calls => now :: tbfTimes calls

/-! ## The conversions -/

theorem int64OfU64_of_lt {v : Nat} (fits : v < 2 ^ 63) : int64OfU64 v = v := if_pos fits

theorem u64OfI64_of_nonneg {v : Int} (nonneg : 0 ≤ v) (fits : v < 2 ^ 64) :
    (u64OfI64 v : Int) = v := by
  unfold u64OfI64
  rw [Int.emod_eq_of_lt nonneg fits, Int.toNat_of_nonneg nonneg]

/-- A packet takes less than 2^62 ns at any rate: `len * 1000000000` does not wrap. -/
theorem qschL2tNs_lt (rate : QschRate) {len : Nat} (short : len < 2 ^ 32) :
    qschL2tNs rate len < 2 ^ 62 := by
  unfold qschL2tNs
  split
  · norm_num
  · have product : len * 1000000000 < 2 ^ 62 := by omega
    rw [Nat.mod_eq_of_lt (by omega)]
    exact lt_of_le_of_lt (Nat.div_le_self _ _) product

/-- The cost of a packet at a rate, as `tbf_dequeue` casts it to `int64_t`. -/
theorem int64OfU64_qschL2tNs (rate : QschRate) (len : UInt32) :
    int64OfU64 (qschL2tNs rate len.toNat) = qschL2tNs rate len.toNat :=
  int64OfU64_of_lt (by have := qschL2tNs_lt rate len.toNat_lt; omega)

/-- A packet no longer than what `rate` sends in `ns` takes at most `ns` at that rate. -/
theorem qschL2tNs_le_of_le_t2l {rate : QschRate} (moving : rate.rateBytesPs ≠ 0) {len ns : Nat}
    (short : len < 2 ^ 32) (within : len ≤ qschT2lNs rate ns) : qschL2tNs rate len ≤ ns := by
  unfold qschL2tNs
  rw [if_neg moving, Nat.mod_eq_of_lt (by omega)]
  apply Nat.div_le_of_le_mul
  calc len * 1000000000
      ≤ rate.rateBytesPs * ns % 2 ^ 64 := (Nat.le_div_iff_mul_le (by norm_num)).mp within
    _ ≤ rate.rateBytesPs * ns := Nat.mod_le _ _

/-- The old minburst converted to bytes and back at any peak rate fits an `int64_t`. -/
theorem qschL2tNs_t2l_lt (peak : QschRate) {ns : Nat} (fits : ns < 2 ^ 63) :
    qschL2tNs peak (qschT2lNs peak ns) < 2 ^ 63 := by
  unfold qschL2tNs qschT2lNs
  split
  · norm_num
  · rename_i moving
    have wrapped := Nat.mod_lt (peak.rateBytesPs * ns) (show 0 < 2 ^ 64 by norm_num)
    have bytes := Nat.div_mul_le_self (peak.rateBytesPs * ns % 2 ^ 64) 1000000000
    rw [Nat.mod_eq_of_lt (by omega)]
    -- the product wraps only for a peak rate of two or more bytes a second
    have below : peak.rateBytesPs * ns % 2 ^ 64 < 2 ^ 63 * peak.rateBytesPs := by
      rcases Nat.lt_or_ge peak.rateBytesPs 2 with one | two
      · have : peak.rateBytesPs = 1 := by omega
        rw [this, Nat.one_mul, Nat.mod_eq_of_lt (by omega)]
        omega
      · have : 2 ^ 64 ≤ 2 ^ 63 * peak.rateBytesPs := by omega
        omega
    calc _ ≤ peak.rateBytesPs * ns % 2 ^ 64 / peak.rateBytesPs := Nat.div_le_div_right bytes
      _ < 2 ^ 63 := (Nat.div_lt_iff_lt_mul (by omega)).mpr below

/-- The sign test of `tbf_dequeue`: the bitwise or of two `int64_t` values is not negative
exactly when neither is. -/
theorem lor_nonneg_iff {a b : Int} : 0 ≤ Int.lor a b ↔ 0 ≤ a ∧ 0 ≤ b := by
  cases a <;> cases b <;> simp [Int.lor]

/-! ## The parameters of `tbf_change` -/

/-- The `int64_t` depths of a tbf `Qsch` are not negative: so in the zeroed one, and so
after every `tbf_change`. -/
structure TbfPrivRange (priv : TbfSchPriv) : Prop where
  buffer : 0 ≤ priv.buffer ∧ priv.buffer < 2 ^ 63
  mtu : 0 ≤ priv.mtu ∧ priv.mtu < 2 ^ 63

/-- The parameters a successful `tbf_change` saves. -/
structure TbfPrivOk (priv : TbfSchPriv) : Prop where
  range : TbfPrivRange priv
  rate : priv.rate.rateBytesPs ≠ 0
  buffer : priv.buffer ≠ 0
  peak : tbfPeakPresent priv → priv.rate.rateBytesPs ≤ priv.peak.rateBytesPs ∧ priv.mtu ≠ 0
  noPeak : tbfPeakPresent priv = false → priv.mtu = 0
  maxSize : priv.maxSize.toNat ≤ qschT2lNs priv.rate (u64OfI64 priv.buffer)
  peakMaxSize : tbfPeakPresent priv → priv.maxSize.toNat ≤ qschT2lNs priv.peak (u64OfI64 priv.mtu)

theorem tbfPrivRange_alloc : TbfPrivRange tbfSchAlloc.priv where
  buffer := by simp [tbfSchAlloc]
  mtu := by simp [tbfSchAlloc]

/-- A cost in `uint64_t` below 2^62 stored in an `int64_t` is within its range. -/
theorem int64OfU64_range {v : Nat} (fits : v < 2 ^ 62) :
    0 ≤ int64OfU64 v ∧ int64OfU64 v < 2 ^ 63 := by
  rw [int64OfU64_of_lt (by omega)]
  omega

theorem tbfChangeBuffer_range {qopt : TcTbfQopt} {priv : TbfSchPriv} (range : TbfPrivRange priv) :
    0 ≤ tbfChangeBuffer qopt priv ∧ tbfChangeBuffer qopt priv < 2 ^ 63 := by
  unfold tbfChangeBuffer
  split
  · exact int64OfU64_range (qschL2tNs_lt _ qopt.buffer.toNat_lt)
  · exact range.buffer

theorem tbfChangeMtu_range {qopt : TcTbfQopt} {priv : TbfSchPriv} (range : TbfPrivRange priv) :
    0 ≤ tbfChangeMtu qopt priv ∧ tbfChangeMtu qopt priv < 2 ^ 63 := by
  dsimp only [tbfChangeMtu]
  split
  · exact int64OfU64_range (qschL2tNs_lt _ qopt.mtu.toNat_lt)
  split
  · -- the old minburst, back and forth at the new peak rate
    have old : u64OfI64 priv.mtu < 2 ^ 63 := by
      have below := range.mtu.2
      have := u64OfI64_of_nonneg range.mtu.1 (by omega)
      omega
    have fits := qschL2tNs_t2l_lt (tbfChangePeak qopt priv) old
    rw [int64OfU64_of_lt fits]
    omega
  · omega

theorem tbfMaxSize_le_ffffffff (rate peak : QschRate) (buffer mtu : Int) :
    tbfMaxSize rate peak buffer mtu ≤ 0xffffffff := by
  dsimp only [tbfMaxSize]
  split <;> split <;> omega

theorem tbfMaxSize_le_rate {rate peak : QschRate} {buffer mtu : Int} (filled : buffer ≠ 0) :
    tbfMaxSize rate peak buffer mtu ≤ qschT2lNs rate (u64OfI64 buffer) := by
  unfold tbfMaxSize
  rw [if_pos filled]
  omega

theorem tbfMaxSize_le_peak {rate peak : QschRate} {buffer mtu : Int} (minburst : mtu ≠ 0) :
    tbfMaxSize rate peak buffer mtu ≤ qschT2lNs peak (u64OfI64 mtu) := by
  unfold tbfMaxSize
  simp only [if_pos minburst]
  split <;> omega

/-- A failed `tbf_change` leaves the `Qsch` as it was; a successful one saves the
parameters it computed and, on the master lcore, fills both buckets from `now`. -/
theorem tbfChange_cases (master : Bool) (now : Int) (devMtu : UInt16) (qopt : TcTbfQopt)
    (s : TbfSch) :
    (tbfChangeInval devMtu qopt s.priv = true ∧ tbfChange master now devMtu qopt s = (.inval, s)) ∨
      (tbfChangeInval devMtu qopt s.priv = false ∧
        tbfChange master now devMtu qopt s = (.ok, { s with
          priv := tbfChangePriv qopt s.priv
          shm := if master then tbfFill (tbfChangePriv qopt s.priv) now else s.shm })) := by
  unfold tbfChange
  cases inval : tbfChangeInval devMtu qopt s.priv
  · cases master <;> simp
  · simp

/-- The parameters of a successful `tbf_change` from depths within range. -/
theorem tbfChange_ok {master : Bool} {now : Int} {devMtu : UInt16} {qopt : TcTbfQopt}
    {s s' : TbfSch} (range : TbfPrivRange s.priv)
    (changed : tbfChange master now devMtu qopt s = (.ok, s')) : TbfPrivOk s'.priv := by
  rcases tbfChange_cases master now devMtu qopt s with ⟨_, inval⟩ | ⟨sane, ok⟩
  · rw [inval] at changed
    cases changed
  rw [ok] at changed
  cases changed
  simp only [tbfChangeInval, decide_eq_false_iff_not, not_or, not_and, not_lt] at sane
  obtain ⟨sized, filled, moving, peaked⟩ := sane
  have limited := tbfMaxSize_le_ffffffff (tbfChangeRate qopt s.priv) (tbfChangePeak qopt s.priv)
    (tbfChangeBuffer qopt s.priv) (tbfChangeMtu qopt s.priv)
  have stored : (tbfMaxSize (tbfChangeRate qopt s.priv) (tbfChangePeak qopt s.priv)
      (tbfChangeBuffer qopt s.priv) (tbfChangeMtu qopt s.priv)).toUInt32.toNat =
      tbfMaxSize (tbfChangeRate qopt s.priv) (tbfChangePeak qopt s.priv)
        (tbfChangeBuffer qopt s.priv) (tbfChangeMtu qopt s.priv) := by
    simp only [Nat.toUInt32]
    exact Nat.mod_eq_of_lt (by omega)
  refine ⟨⟨tbfChangeBuffer_range range, tbfChangeMtu_range range⟩, moving, filled, ?_, ?_, ?_, ?_⟩
  · intro present
    have present : (tbfChangePeak qopt s.priv).rateBytesPs ≠ 0 := by
      simpa [tbfPeakPresent, tbfChangePriv] using present
    obtain ⟨faster, minburst, _⟩ := peaked present
    exact ⟨faster, minburst⟩
  · -- without a peak any minburst makes `max_size` 0
    intro absent
    have absent : (tbfChangePeak qopt s.priv).rateBytesPs = 0 := by
      simpa [tbfPeakPresent, tbfChangePriv] using absent
    show tbfChangeMtu qopt s.priv = 0
    by_contra minburst
    have := @tbfMaxSize_le_peak (tbfChangeRate qopt s.priv) (tbfChangePeak qopt s.priv)
      (tbfChangeBuffer qopt s.priv) _ minburst
    simp only [qschT2lNs, absent, Nat.zero_mul, Nat.zero_mod, Nat.zero_div] at this
    omega
  · show _ ≤ _
    simp only [tbfChangePriv, stored]
    exact tbfMaxSize_le_rate filled
  · intro present
    have present : (tbfChangePeak qopt s.priv).rateBytesPs ≠ 0 := by
      simpa [tbfPeakPresent, tbfChangePriv] using present
    simp only [tbfChangePriv, stored]
    exact tbfMaxSize_le_peak (peaked present).2.1

/-- A packet no longer than `max_size` costs at most a bucket at the rate. -/
theorem TbfPrivOk.rate_cost_le {priv : TbfSchPriv} (ok : TbfPrivOk priv) {len : UInt32}
    (fits : len ≤ priv.maxSize) : (qschL2tNs priv.rate len.toNat : Int) ≤ priv.buffer := by
  have cost := qschL2tNs_le_of_le_t2l ok.rate len.toNat_lt
    (le_trans (UInt32.le_iff_toNat_le.mp fits) ok.maxSize)
  have := u64OfI64_of_nonneg ok.range.buffer.1 (by have := ok.range.buffer.2; omega)
  omega

/-- With a peak, a packet no longer than `max_size` costs at most `mtu` at the peak rate. -/
theorem TbfPrivOk.peak_cost_le {priv : TbfSchPriv} (ok : TbfPrivOk priv)
    (present : tbfPeakPresent priv) {len : UInt32} (fits : len ≤ priv.maxSize) :
    (qschL2tNs priv.peak len.toNat : Int) ≤ priv.mtu := by
  have moving : priv.peak.rateBytesPs ≠ 0 := by simpa [tbfPeakPresent] using present
  have cost := qschL2tNs_le_of_le_t2l moving len.toNat_lt
    (le_trans (UInt32.le_iff_toNat_le.mp fits) (ok.peakMaxSize present))
  have := u64OfI64_of_nonneg ok.range.mtu.1 (by have := ok.range.mtu.2; omega)
  omega

/-! ## What one call does -/

/-- `tbf_enqueue` reads and keeps the parameters and the buckets. -/
theorem tbfEnqueue_frame (s : TbfSch) (len : UInt32) (tmOk : Bool) :
    (tbfEnqueue s len tmOk).2.priv = s.priv ∧ (tbfEnqueue s len tmOk).2.shm = s.shm := by
  unfold tbfEnqueue qschEnqueueTail qschDrop
  split_ifs <;> exact ⟨rfl, rfl⟩

/-- A packet `tbf_enqueue` takes is no longer than `max_size`, fits the `uint32_t` sum of the
backlog under `limit`, and goes to the tail of the queue. -/
theorem tbfEnqueue_eq_ok {s : TbfSch} {len : UInt32} {tmOk : Bool}
    (queued : (tbfEnqueue s len tmOk).1 = .ok) :
    len ≤ s.priv.maxSize ∧ s.backlog + len ≤ s.priv.limit ∧ tmOk = true ∧
      (tbfEnqueue s len tmOk).2.q = s.q ++ [len] := by
  unfold tbfEnqueue qschEnqueueTail at *
  split at queued
  · cases queued
  split at queued
  · cases queued
  rename_i short fits
  split at queued
  · rename_i taken
    subst taken
    refine ⟨UInt32.not_lt.mp short, UInt32.not_lt.mp fits, rfl, ?_⟩
    simp only [short, fits, ↓reduceIte]
  · cases queued

theorem qschDequeueHead_priv (s : TbfSch) : (qschDequeueHead s).2.priv = s.priv := by
  unfold qschDequeueHead
  split <;> rfl

theorem qschDequeueHead_q (s : TbfSch) : (qschDequeueHead s).2.q = s.q.tail := by
  unfold qschDequeueHead
  split <;> simp_all

/-- `tbf_dequeue` with a packet at the head, once tokens have arrived. -/
theorem tbfDequeue_of_head {s : TbfSch} {now : Int} {len : UInt32} {rest : List UInt32}
    (head : s.q = len :: rest) (arrived : 0 ≤ tbfArrived s now) :
    tbfDequeue s now =
      if 0 ≤ Int.lor (tbfToks s now len) (tbfPtoks s now len) then
        (some len, { (qschDequeueHead s).2 with
          shm := ⟨tbfToks s now len, tbfPtoks s now len, now⟩ })
      else (none, { s with overlimits := s.overlimits + 1 }) := by
  simp only [tbfDequeue, qschPeekHead, head, List.head?_cons, if_neg (not_lt.mpr arrived)]
  split <;> simp only [qschDequeueHead, head]

theorem tbfDequeue_priv (s : TbfSch) (now : Int) : (tbfDequeue s now).2.priv = s.priv := by
  rcases head : s.q with _ | ⟨len, rest⟩
  · simp [tbfDequeue, qschPeekHead, head]
  by_cases arrived : 0 ≤ tbfArrived s now
  · rw [tbfDequeue_of_head head arrived]
    split
    · exact qschDequeueHead_priv s
    · rfl
  · simp [tbfDequeue, qschPeekHead, head, not_le.mp arrived]

/-- A dequeue that sends nothing keeps the queue and the buckets. -/
theorem tbfDequeue_eq_none {s : TbfSch} {now : Int} (none : (tbfDequeue s now).1 = none) :
    (tbfDequeue s now).2.q = s.q ∧ (tbfDequeue s now).2.shm = s.shm := by
  rcases head : s.q with _ | ⟨len, rest⟩
  · simp [tbfDequeue, qschPeekHead, head]
  by_cases arrived : 0 ≤ tbfArrived s now
  · rw [tbfDequeue_of_head head arrived] at none ⊢
    by_cases sign : 0 ≤ Int.lor (tbfToks s now len) (tbfPtoks s now len)
    · rw [if_pos sign] at none
      cases none
    · rw [if_neg sign]
      exact ⟨head, rfl⟩
  · simp [tbfDequeue, qschPeekHead, head, not_le.mp arrived]

/-- A dequeue that sends a packet sends the head, after tokens have arrived, with both
buckets covering it, and leaves the buckets the dequeue computed from `now`. -/
theorem tbfDequeue_eq_some {s : TbfSch} {now : Int} {len : UInt32}
    (sent : (tbfDequeue s now).1 = some len) :
    ∃ rest, s.q = len :: rest ∧ 0 ≤ tbfToks s now len ∧ 0 ≤ tbfPtoks s now len ∧
      (tbfDequeue s now).2.q = rest ∧
      (tbfDequeue s now).2.shm = ⟨tbfToks s now len, tbfPtoks s now len, now⟩ := by
  rcases head : s.q with _ | ⟨first, rest⟩
  · simp [tbfDequeue, qschPeekHead, head] at sent
  by_cases arrived : 0 ≤ tbfArrived s now
  · rw [tbfDequeue_of_head head arrived] at sent ⊢
    split at sent
    · rename_i sign
      cases sent
      obtain ⟨toks, ptoks⟩ := lor_nonneg_iff.mp sign
      rw [if_pos sign]
      refine ⟨rest, rfl, toks, ptoks, ?_, rfl⟩
      show (qschDequeueHead s).2.q = rest
      rw [qschDequeueHead_q, head, List.tail_cons]
    · cases sent
  · simp [tbfDequeue, qschPeekHead, head, not_le.mp arrived] at sent

/-- The condition for sending a packet of `len` bytes at `now`: the tokens left and
those arrived since the checkpoint, at most a bucket, cover its cost at the rate; with a
peak, the arrived tokens and the peak tokens left, at most `mtu`, cover its cost at the
peak rate. -/
def TbfCovers (priv : TbfSchPriv) (shm : TbfSchShared) (now : Int) (len : UInt32) : Prop :=
  (qschL2tNs priv.rate len.toNat : Int) ≤
      min (shm.tokens + min (now - shm.tC) priv.buffer) priv.buffer ∧
    (tbfPeakPresent priv → (qschL2tNs priv.peak len.toNat : Int) ≤
      min (min (now - shm.tC) priv.buffer + shm.ptokens) priv.mtu)

theorem tbfCovers_iff (s : TbfSch) (now : Int) (len : UInt32) :
    TbfCovers s.priv s.shm now len ↔ 0 ≤ tbfToks s now len ∧ 0 ≤ tbfPtoks s now len := by
  unfold TbfCovers tbfToks tbfPtoks tbfArrived
  rw [int64OfU64_qschL2tNs, int64OfU64_qschL2tNs]
  cases tbfPeakPresent s.priv <;> simp <;> omega

/-- From a checkpoint not after `now` and a depth not negative, `tbf_dequeue` sends the
head packet exactly when the buckets cover it. -/
theorem tbfDequeue_eq_some_iff {s : TbfSch} {now : Int} {len : UInt32} {rest : List UInt32}
    (head : s.q = len :: rest) (deep : 0 ≤ s.priv.buffer) (after : s.shm.tC ≤ now) :
    (tbfDequeue s now).1 = some len ↔ TbfCovers s.priv s.shm now len := by
  have arrived : 0 ≤ tbfArrived s now := by
    unfold tbfArrived
    omega
  rw [tbfDequeue_of_head head arrived, tbfCovers_iff, ← lor_nonneg_iff]
  split <;> simp_all

/-- The tokens a dequeue leaves are a take of the rate bucket. -/
theorem tbfToks_eq (s : TbfSch) (now : Int) (len : UInt32) :
    tbfToks s now len =
      refill s.priv.buffer s.priv.buffer s.shm.tokens s.shm.tC now -
        qschL2tNs s.priv.rate len.toNat := by
  rw [tbfToks, int64OfU64_qschL2tNs, tbfArrived, refill, Int.add_comm]

/-- With a peak, the peak tokens a dequeue leaves are a take of the peak bucket, which the
same arrivals fill, at most a rate bucket's worth, up to `mtu`. -/
theorem tbfPtoks_eq {s : TbfSch} (present : tbfPeakPresent s.priv) (now : Int) (len : UInt32) :
    tbfPtoks s now len =
      refill s.priv.buffer s.priv.mtu s.shm.ptokens s.shm.tC now -
        qschL2tNs s.priv.peak len.toNat := by
  rw [tbfPtoks, if_pos present, int64OfU64_qschL2tNs, tbfArrived, refill, Int.add_comm]

/-! ## Runs -/

section Runs

variable {s : TbfSch}

theorem tbfRun_enqueue (s : TbfSch) (len : UInt32) (tmOk : Bool) (calls : List TbfCall) :
    tbfRun s (.enqueue len tmOk :: calls) = tbfRun (tbfEnqueue s len tmOk).2 calls := rfl

theorem tbfRun_dequeue (s : TbfSch) (now : Int) (calls : List TbfCall) :
    tbfRun s (.dequeue now :: calls) =
      ((tbfRun (tbfDequeue s now).2 calls).1,
        ((tbfDequeue s now).1.map fun len => (len, now)).toList ++
          (tbfRun (tbfDequeue s now).2 calls).2) := rfl

/-- What each call keeps, every run keeps. -/
theorem tbfRun_inv (P : TbfSch → Prop) (enqueue : ∀ s len tmOk, P s → P (tbfEnqueue s len tmOk).2)
    (dequeue : ∀ s now, P s → P (tbfDequeue s now).2) (start : P s) (calls : List TbfCall) :
    P (tbfRun s calls).1 := by
  induction calls generalizing s with
  | nil => exact start
  | cons call calls ih =>
    cases call with
    | enqueue len tmOk => exact ih (enqueue s len tmOk start)
    | dequeue now => exact ih (dequeue s now start)

theorem tbfRun_priv (s : TbfSch) (calls : List TbfCall) : (tbfRun s calls).1.priv = s.priv :=
  tbfRun_inv (fun s' => s'.priv = s.priv)
    (fun _ _ _ same => (tbfEnqueue_frame _ _ _).1.trans same)
    (fun _ _ same => (tbfDequeue_priv _ _).trans same) rfl calls

/-- The checkpoint a run leaves is no later than a time after its start and its dequeues. -/
theorem tbfRun_tC_le {now : Int} {calls : List TbfCall}
    (before : ∀ t ∈ s.shm.tC :: tbfTimes calls, t ≤ now) : (tbfRun s calls).1.shm.tC ≤ now := by
  induction calls generalizing s with
  | nil => exact before _ List.mem_cons_self
  | cons call calls ih =>
    cases call with
    | enqueue len tmOk =>
      rw [tbfRun_enqueue]
      apply ih
      rw [(tbfEnqueue_frame s len tmOk).2]
      exact before
    | dequeue t1 =>
      rw [tbfRun_dequeue]
      apply ih
      intro t mem
      rcases sent : (tbfDequeue s t1).1 with _ | len
      · rw [(tbfDequeue_eq_none sent).2] at mem
        rcases List.mem_cons.mp mem with rfl | later
        · exact before _ List.mem_cons_self
        · exact before t (by simp [tbfTimes, later])
      · obtain ⟨_, _, _, _, _, shm⟩ := tbfDequeue_eq_some sent
        rw [shm] at mem
        exact before t (List.mem_cons_of_mem _ (by simpa [tbfTimes] using mem))

/-- A run dequeues at the times of some of its dequeue calls, in their order. -/
theorem tbfRun_times_sublist (s : TbfSch) (calls : List TbfCall) :
    ((tbfRun s calls).2.map Prod.snd).Sublist (tbfTimes calls) := by
  induction calls generalizing s with
  | nil => exact List.Sublist.slnil
  | cons call calls ih =>
    cases call with
    | enqueue len tmOk => exact ih _
    | dequeue now =>
      rw [tbfRun_dequeue]
      cases (tbfDequeue s now).1 with
      | none => exact (ih _).cons now
      | some len => exact (ih _).cons_cons now

/-- Every run is a run of a bucket, whose level a dequeue of a packet of `len` bytes at
`now` takes as a take of `cost len`. -/
theorem tbfRun_bucket (cap depth : Int) (level : TbfSchShared → Int) (cost : UInt32 → Int)
    (priv : TbfSchPriv)
    (take : ∀ s now len, s.priv = priv → (tbfDequeue s now).1 = some len →
      0 ≤ level (tbfDequeue s now).2.shm ∧
        level (tbfDequeue s now).2.shm = refill cap depth (level s.shm) s.shm.tC now - cost len)
    (same : s.priv = priv) (calls : List TbfCall) :
    Run cap depth (level s.shm) s.shm.tC ((tbfRun s calls).2.map fun d => (d.2, cost d.1))
      (level (tbfRun s calls).1.shm) := by
  induction calls generalizing s with
  | nil => exact .nil _ _
  | cons call calls ih =>
    cases call with
    | enqueue len tmOk =>
      have next := ih ((tbfEnqueue_frame s len tmOk).1.trans same)
      rwa [(tbfEnqueue_frame s len tmOk).2] at next
    | dequeue now =>
      have next := ih ((tbfDequeue_priv s now).trans same)
      rw [tbfRun_dequeue]
      rcases sent : (tbfDequeue s now).1 with _ | len
      · rwa [(tbfDequeue_eq_none sent).2] at next
      · obtain ⟨left, taken⟩ := take s now len same sent
        obtain ⟨_, _, _, _, _, shm⟩ := tbfDequeue_eq_some sent
        rw [taken, shm] at next
        rw [shm] at left taken
        exact .cons (taken ▸ left) next

/-- The tokens of every run are a run of the rate bucket, at the packets' costs. -/
theorem tbfRun_tokens (s : TbfSch) (calls : List TbfCall) :
    Run s.priv.buffer s.priv.buffer s.shm.tokens s.shm.tC
      ((tbfRun s calls).2.map fun d => (d.2, (qschL2tNs s.priv.rate d.1.toNat : Int)))
      (tbfRun s calls).1.shm.tokens :=
  tbfRun_bucket s.priv.buffer s.priv.buffer TbfSchShared.tokens
    (fun len => (qschL2tNs s.priv.rate len.toNat : Int)) s.priv
    (fun s' now len same sent => by
      obtain ⟨_, _, toks, _, _, shm⟩ := tbfDequeue_eq_some sent
      rw [shm, ← same]
      exact ⟨toks, tbfToks_eq s' now len⟩)
    rfl calls

/-- With a peak, the peak tokens of every run are a run of the peak bucket. -/
theorem tbfRun_ptokens (present : tbfPeakPresent s.priv) (calls : List TbfCall) :
    Run s.priv.buffer s.priv.mtu s.shm.ptokens s.shm.tC
      ((tbfRun s calls).2.map fun d => (d.2, (qschL2tNs s.priv.peak d.1.toNat : Int)))
      (tbfRun s calls).1.shm.ptokens :=
  tbfRun_bucket s.priv.buffer s.priv.mtu TbfSchShared.ptokens
    (fun len => (qschL2tNs s.priv.peak len.toNat : Int)) s.priv
    (fun s' now len same sent => by
      obtain ⟨_, _, _, ptoks, _, shm⟩ := tbfDequeue_eq_some sent
      rw [shm, ← same]
      exact ⟨ptoks, tbfPtoks_eq (same ▸ present) now len⟩)
    rfl calls

end Runs

/-- The burst bound of a bucket read on the packets a run dequeued, in the order of time. -/
theorem window_of_run {cap depth level tc final : Int} (cost : UInt32 → Int)
    {out : List (UInt32 × Int)} (run : Run cap depth level tc (out.map fun d => (d.2, cost d.1)) final)
    (sorted : (out.map Prod.snd).Pairwise (· ≤ ·)) {ta tb : Int} (ordered : ta ≤ tb)
    (deep : 0 ≤ depth) :
    ((out.filter fun d => ta ≤ d.2 ∧ d.2 ≤ tb).map fun d => cost d.1).sum ≤ tb - ta + depth := by
  have bound := run.window_sum_le (List.pairwise_map.mpr (List.pairwise_map.mp sorted)) ordered deep
  rw [List.filter_map, List.map_map] at bound
  have : depth + (tb - ta) = tb - ta + depth := Int.add_comm _ _
  exact this ▸ bound

/-! ## Shaping -/

/-- Both buckets within their depths. -/
structure TbfBuckets (s : TbfSch) : Prop where
  mtu : 0 ≤ s.priv.mtu
  tokens : 0 ≤ s.shm.tokens ∧ s.shm.tokens ≤ s.priv.buffer
  ptokens : 0 ≤ s.shm.ptokens ∧ s.shm.ptokens ≤ s.priv.mtu

theorem tbfToks_le_buffer (s : TbfSch) (now : Int) (len : UInt32) :
    tbfToks s now len ≤ s.priv.buffer := by
  have cost := int64OfU64_qschL2tNs s.priv.rate len
  unfold tbfToks
  omega

theorem tbfPtoks_le_mtu (s : TbfSch) (now : Int) (len : UInt32) (deep : 0 ≤ s.priv.mtu) :
    tbfPtoks s now len ≤ s.priv.mtu := by
  have cost := int64OfU64_qschL2tNs s.priv.peak len
  unfold tbfPtoks
  split <;> omega

theorem TbfBuckets.of_frame {s s' : TbfSch} (priv : s'.priv = s.priv) (shm : s'.shm = s.shm)
    (kept : TbfBuckets s) : TbfBuckets s' where
  mtu := priv ▸ kept.mtu
  tokens := priv ▸ shm ▸ kept.tokens
  ptokens := priv ▸ shm ▸ kept.ptokens

theorem tbfBuckets_enqueue (s : TbfSch) (len : UInt32) (tmOk : Bool) (kept : TbfBuckets s) :
    TbfBuckets (tbfEnqueue s len tmOk).2 :=
  kept.of_frame (tbfEnqueue_frame s len tmOk).1 (tbfEnqueue_frame s len tmOk).2

theorem tbfBuckets_dequeue (s : TbfSch) (now : Int) (kept : TbfBuckets s) :
    TbfBuckets (tbfDequeue s now).2 := by
  have priv := tbfDequeue_priv s now
  rcases sent : (tbfDequeue s now).1 with _ | len
  · exact kept.of_frame priv (tbfDequeue_eq_none sent).2
  · obtain ⟨_, _, toks, ptoks, _, shm⟩ := tbfDequeue_eq_some sent
    refine ⟨priv ▸ kept.mtu, ?_, ?_⟩ <;> rw [shm, priv]
    · exact ⟨toks, tbfToks_le_buffer s now len⟩
    · exact ⟨ptoks, tbfPtoks_le_mtu s now len kept.mtu⟩

/-- Conformance of a run of calls from `s`, whose buckets were filled
at `t0`: the depths are those of the parameters, (i) both buckets stay within them, (ii) a
dequeue at a later time sends the head packet exactly when the buckets cover it, (iii) the
costs of the packets sent between two times exceed the time between them by at most a
bucket, and (iv) every packet the queue takes costs at most a bucket. -/
structure TbfConforms (s : TbfSch) (t0 : Int) (calls : List TbfCall) : Prop where
  depths : 0 < s.priv.buffer ∧ (tbfPeakPresent s.priv → 0 < s.priv.mtu) ∧
    (tbfPeakPresent s.priv = false → s.priv.mtu = 0)
  tokens : 0 ≤ (tbfRun s calls).1.shm.tokens ∧ (tbfRun s calls).1.shm.tokens ≤ s.priv.buffer
  ptokens : 0 ≤ (tbfRun s calls).1.shm.ptokens ∧ (tbfRun s calls).1.shm.ptokens ≤ s.priv.mtu
  dequeue : ∀ now len rest, (∀ t ∈ t0 :: tbfTimes calls, t ≤ now) →
    (tbfRun s calls).1.q = len :: rest →
    ((tbfDequeue (tbfRun s calls).1 now).1 = some len ↔
      TbfCovers s.priv (tbfRun s calls).1.shm now len)
  window : ∀ ta tb, ta ≤ tb →
    (((tbfRun s calls).2.filter fun d => ta ≤ d.2 ∧ d.2 ≤ tb).map fun d =>
      (qschL2tNs s.priv.rate d.1.toNat : Int)).sum ≤ tb - ta + s.priv.buffer
  peakWindow : tbfPeakPresent s.priv → ∀ ta tb, ta ≤ tb →
    (((tbfRun s calls).2.filter fun d => ta ≤ d.2 ∧ d.2 ≤ tb).map fun d =>
      (qschL2tNs s.priv.peak d.1.toNat : Int)).sum ≤ tb - ta + s.priv.mtu
  accepts : ∀ len tmOk, (tbfEnqueue (tbfRun s calls).1 len tmOk).1 = .ok →
    len ≤ s.priv.maxSize ∧ (qschL2tNs s.priv.rate len.toNat : Int) ≤ s.priv.buffer ∧
      (tbfPeakPresent s.priv → (qschL2tNs s.priv.peak len.toNat : Int) ≤ s.priv.mtu)

theorem tbf_shapes_to_its_parameters {master : Bool} {now t0 : Int} {devMtu : UInt16}
    {qopt : TcTbfQopt} {old configured s : TbfSch} {calls : List TbfCall}
    (range : TbfPrivRange old.priv) (changed : tbfChange master now devMtu qopt old = (.ok, configured))
    (start : s.priv = configured.priv) (filled : s.shm = tbfFill s.priv t0)
    (inOrder : (t0 :: tbfTimes calls).Pairwise (· ≤ ·)) : TbfConforms s t0 calls := by
  have ok : TbfPrivOk s.priv := start ▸ tbfChange_ok range changed
  have deep := ok.range.buffer.1
  have same := tbfRun_priv s calls
  have sorted : ((tbfRun s calls).2.map Prod.snd).Pairwise (· ≤ ·) :=
    (List.pairwise_cons.mp inOrder).2.sublist (tbfRun_times_sublist s calls)
  have full : TbfBuckets s :=
    ⟨ok.range.mtu.1, by rw [filled]; exact ⟨deep, le_rfl⟩,
      by rw [filled]; exact ⟨ok.range.mtu.1, le_rfl⟩⟩
  have buckets := tbfRun_inv TbfBuckets tbfBuckets_enqueue tbfBuckets_dequeue full calls
  refine ⟨⟨by have := ok.buffer; omega, fun present => ?_, ok.noPeak⟩,
    by rw [← same]; exact buckets.tokens, by rw [← same]; exact buckets.ptokens, ?_, ?_, ?_, ?_⟩
  · have := (ok.peak present).2
    have := ok.range.mtu.1
    omega
  · intro later len rest before head
    have after : (tbfRun s calls).1.shm.tC ≤ later :=
      tbfRun_tC_le (by rw [filled]; exact before)
    rw [tbfDequeue_eq_some_iff head (same ▸ deep) after, same]
  · intro ta tb ordered
    exact window_of_run (fun len => (qschL2tNs s.priv.rate len.toNat : Int))
      (tbfRun_tokens s calls) sorted ordered deep
  · intro present ta tb ordered
    exact window_of_run (fun len => (qschL2tNs s.priv.peak len.toNat : Int))
      (tbfRun_ptokens present calls) sorted ordered ok.range.mtu.1
  · intro len tmOk queued
    have fits := same ▸ (tbfEnqueue_eq_ok queued).1
    exact ⟨fits, ok.rate_cost_le fits, fun present => ok.peak_cost_le present fits⟩

/-- 8000 bytes a second with a burst of 1000 bytes and no peak, from a fresh `Qsch`. -/
theorem tbf_shapes_to_its_parameters_sample :
    tbfChange true 0 1500 ⟨64000, 0, 10000, 1000, 0⟩ tbfSchAlloc =
        (.ok, (tbfChange true 0 1500 ⟨64000, 0, 10000, 1000, 0⟩ tbfSchAlloc).2) ∧
      TbfConforms (tbfChange true 0 1500 ⟨64000, 0, 10000, 1000, 0⟩ tbfSchAlloc).2 0
        [.enqueue 1000 true, .dequeue 0, .enqueue 500 true, .dequeue 1000000] :=
  have changed : tbfChange true 0 1500 ⟨64000, 0, 10000, 1000, 0⟩ tbfSchAlloc =
      (.ok, (tbfChange true 0 1500 ⟨64000, 0, 10000, 1000, 0⟩ tbfSchAlloc).2) := rfl
  ⟨changed, tbf_shapes_to_its_parameters tbfPrivRange_alloc changed rfl rfl (by decide)⟩

end Dpvs.Tc.Tbf
