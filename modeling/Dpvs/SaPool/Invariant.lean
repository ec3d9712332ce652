import Dpvs.SaPool.Flow
import Dpvs.Lib.FreeList

/-!
# What a pool keeps over a run

`BucketOk` is the invariant of one bucket: its free and used lists share out the
entry indices of the admitted ports (`FreeList.Split`), an entry is flagged
`SA_F_USED` exactly when it is on the used list, every admitted port's entry holds
the pool's address and the port, and the two `uint16_t` counters are the lengths of
the lists. `PoolOk` adds that the pool holds one reference for itself and one for
every outstanding pair of every bucket.

`sa_pool_alloc_hash` establishes both, and every `sa_fetch` and `sa_release` keeps
them, whatever its arguments, as long as no assertion fails
(`SaReachable.poolOk`). From them: within one bucket no port is outstanding
twice, a fetch returns an admitted port that its bucket had not handed out, and the
release of a port that is not outstanding in its bucket is refused. Across buckets
nothing of the kind holds: the same pair is handed out once per bucket.
-/

namespace Dpvs.Sa

open FreeList

/-- The entry indices of the admitted ports: what the two lists of a bucket share. -/
def slots (flow : SaFlow) (low high : UInt16) : List Nat :=
  (admittedPorts flow low high).map (entryIndex flow.shift)

/-- The ports a bucket has handed out and not taken back, in used-list order. -/
def outstandingPorts (pool : SaEntryPool) : List UInt16 :=
  pool.usedEnties.map fun i => (pool.saEntries i).port

section Slots

variable {flow : SaFlow}

theorem slots_nodup (ok : FlowOk flow) (low high : UInt16) : (slots flow low high).Nodup :=
  (admittedPorts_nodup low high).map_on fun _ hp _ hq same => entryIndex_injOn ok hp hq same

theorem length_slots_le {low : UInt16} (lowNe : low ≠ 0) (high : UInt16) :
    (slots flow low high).length ≤ 65535 := by
  simpa [slots] using length_admittedPorts_le lowNe high

theorem exists_port_of_mem_slots {low high : UInt16} {i : Nat} (h : i ∈ slots flow low high) :
    ∃ p ∈ admittedPorts flow low high, entryIndex flow.shift p = i :=
  List.mem_map.mp h

end Slots

/-- The invariant of one bucket. -/
structure BucketOk (flow : SaFlow) (addr : InetAddr) (low high : UInt16) (pool : SaEntryPool) :
    Prop where
  shift : pool.shift = flow.shift
  split : Split (slots flow low high) pool.freeEnties pool.usedEnties
  used_iff : ∀ i, (pool.saEntries i).flags &&& saFUsed ≠ 0 ↔ i ∈ pool.usedEnties
  entry : ∀ p ∈ admittedPorts flow low high,
    (pool.saEntries (entryIndex flow.shift p)).addr = addr ∧
      (pool.saEntries (entryIndex flow.shift p)).port = htons p.toUInt16
  usedCnt : pool.usedCnt.toNat = pool.usedEnties.length
  freeCnt : pool.freeCnt.toNat = pool.freeEnties.length

/-- The invariant of a pool: every bucket keeps its own, and `refcnt` is one for the
pool and one for every outstanding pair. -/
structure PoolOk (flow : SaFlow) (ap : SaPool) : Prop where
  low_ne : ap.low ≠ 0
  bucket : ∀ pool ∈ ap.poolHash, BucketOk flow ap.addr ap.low ap.high pool
  refcnt : ap.refcnt = 1 + (ap.poolHash.map fun pool => (pool.usedEnties.length : Int)).sum

/-! ### Flags and counters -/

theorem flags_set_used (f : UInt32) : (f ||| saFUsed) &&& saFUsed ≠ 0 := by
  intro h
  have bit := congrArg (fun v => (UInt32.toBitVec v).getLsbD 0) h
  simp [saFUsed] at bit

theorem flags_clear_used (f : UInt32) : (f &&& ~~~saFUsed) &&& saFUsed = 0 := by
  rw [UInt32.and_assoc]
  simp [saFUsed]

theorem toNat_add_one_of_lt {a : UInt16} (h : a.toNat + 1 < 65536) : (a + 1).toNat = a.toNat + 1 := by
  rw [UInt16.toNat_add]
  simp only [UInt16.reduceToNat, Nat.reducePow]
  omega

theorem toNat_sub_one_of_pos {a : UInt16} (h : 1 ≤ a.toNat) : (a - 1).toNat = a.toNat - 1 := by
  have le : (1 : UInt16) ≤ a := UInt16.le_iff_toNat_le.mpr (by simpa using h)
  rw [UInt16.toNat_sub_of_le _ _ le]
  rfl

/-- Writing the flags of one entry leaves every address and port as it was. -/
theorem update_flags_addr_port (e : Nat → SaEntry) (idx j : Nat) (f : UInt32) :
    (Function.update e idx { e idx with flags := f } j).addr = (e j).addr ∧
      (Function.update e idx { e idx with flags := f } j).port = (e j).port := by
  by_cases same : j = idx
  · subst same
    simp
  · simp [Function.update_of_ne same]

/-! ### Creation -/

section Fill

variable (addr : InetAddr)

@[simp] theorem addFreeEntry_shift (pool : SaEntryPool) (port : Nat) :
    (addFreeEntry addr pool port).shift = pool.shift := rfl

@[simp] theorem addFreeEntry_usedEnties (pool : SaEntryPool) (port : Nat) :
    (addFreeEntry addr pool port).usedEnties = pool.usedEnties := rfl

theorem addFreeEntry_entry_ne (pool : SaEntryPool) {port i : Nat}
    (h : i ≠ entryIndex pool.shift port) :
    (addFreeEntry addr pool port).saEntries i = pool.saEntries i :=
  Function.update_of_ne h _ _

theorem addFreeEntry_flags (pool : SaEntryPool) (port i : Nat) :
    ((addFreeEntry addr pool port).saEntries i).flags = (pool.saEntries i).flags := by
  by_cases same : i = entryIndex pool.shift port
  · subst same
    simp [addFreeEntry]
  · rw [addFreeEntry_entry_ne addr pool same]

/-- The port loop leaves the shift, the used list and the flags alone, and appends
the ports' indices to the free list. -/
theorem foldl_addFreeEntry_frame (ports : List Nat) (pool : SaEntryPool) :
    (ports.foldl (addFreeEntry addr) pool).shift = pool.shift ∧
      (ports.foldl (addFreeEntry addr) pool).usedEnties = pool.usedEnties ∧
      (ports.foldl (addFreeEntry addr) pool).usedCnt = pool.usedCnt ∧
      (ports.foldl (addFreeEntry addr) pool).freeEnties =
        pool.freeEnties ++ ports.map (entryIndex pool.shift) ∧
      (ports.foldl (addFreeEntry addr) pool).freeCnt = pool.freeCnt + ports.length.toUInt16 ∧
      ∀ i, ((ports.foldl (addFreeEntry addr) pool).saEntries i).flags = (pool.saEntries i).flags := by
  induction ports generalizing pool with
  | nil => simp
  | cons port ports ih =>
    obtain ⟨shift, used, usedCnt, free, freeCnt, flags⟩ := ih (addFreeEntry addr pool port)
    simp only [List.foldl_cons]
    refine ⟨shift, used, usedCnt, ?_, ?_, fun i => ?_⟩
    · rw [free]
      simp [addFreeEntry]
    · have succ : (ports.length + 1).toUInt16 = ports.length.toUInt16 + 1 := by simp
      rw [freeCnt]
      simp only [addFreeEntry, List.length_cons, succ]
      ac_rfl
    · rw [flags i, addFreeEntry_flags]

theorem foldl_addFreeEntry_other (ports : List Nat) (pool : SaEntryPool) {i : Nat}
    (h : i ∉ ports.map (entryIndex pool.shift)) :
    (ports.foldl (addFreeEntry addr) pool).saEntries i = pool.saEntries i := by
  induction ports generalizing pool with
  | nil => rfl
  | cons port ports ih =>
    simp only [List.map_cons, List.mem_cons, not_or] at h
    rw [List.foldl_cons, ih _ (by simpa using h.2), addFreeEntry_entry_ne addr pool h.1]

/-- A port's entry is written once, by its own round, when no two ports share an
index. -/
theorem foldl_addFreeEntry_mem (ports : List Nat) (pool : SaEntryPool)
    (nd : (ports.map (entryIndex pool.shift)).Nodup) {p : Nat} (hp : p ∈ ports) :
    ((ports.foldl (addFreeEntry addr) pool).saEntries (entryIndex pool.shift p)).addr = addr ∧
      ((ports.foldl (addFreeEntry addr) pool).saEntries (entryIndex pool.shift p)).port =
        htons p.toUInt16 := by
  induction ports generalizing pool with
  | nil => cases hp
  | cons port ports ih =>
    rw [List.map_cons, List.nodup_cons] at nd
    rw [List.foldl_cons]
    rcases List.mem_cons.mp hp with rfl | hp
    · rw [foldl_addFreeEntry_other addr _ _ (by simpa using nd.1)]
      simp [addFreeEntry]
    · have later := ih (addFreeEntry addr pool port) (by simpa using nd.2) hp
      rwa [addFreeEntry_shift] at later

theorem fillBucket_usedEnties (flow : SaFlow) (low high : UInt16) :
    (fillBucket addr flow low high).usedEnties = [] :=
  (foldl_addFreeEntry_frame addr _ _).2.1

theorem bucketOk_fillBucket {flow : SaFlow} (ok : FlowOk flow) {low : UInt16} (lowNe : low ≠ 0)
    (high : UInt16) : BucketOk flow addr low high (fillBucket addr flow low high) := by
  obtain ⟨shift, used, usedCnt, free, freeCnt, flags⟩ :=
    foldl_addFreeEntry_frame addr (admittedPorts flow low high) (SaEntryPool.empty flow.shift)
  have len : (admittedPorts flow low high).length ≤ 65535 := length_admittedPorts_le lowNe high
  refine ⟨shift, ?_, fun i => ?_, fun p hp => ?_, ?_, ?_⟩
  · rw [fillBucket, free, used]
    simpa [SaEntryPool.empty, slots] using Split.init (slots flow low high)
  · -- the zero-filled flags: no entry is flagged and the used list is empty
    rw [fillBucket, flags, used]
    simp [SaEntryPool.empty, SaEntry.zero]
  · exact foldl_addFreeEntry_mem addr (admittedPorts flow low high) (SaEntryPool.empty flow.shift)
      (slots_nodup ok low high) hp
  · rw [fillBucket, usedCnt, used]
    rfl
  · rw [fillBucket, freeCnt, free]
    simp only [SaEntryPool.empty, List.nil_append, List.length_map, UInt16.zero_add,
      toNat_toUInt16]
    omega

end Fill

/-- What a successful `sa_pool_create` builds: the defaulted range, one reference, and
`pool_hash_sz` filled buckets. -/
theorem saPoolCreate_eq_ok {flows : Nat → SaFlow} {lcoreMask : UInt64}
    {cid master hashSz : Nat} {addr : InetAddr} {low high : UInt16} {ap : SaPool}
    (h : saPoolCreate flows lcoreMask cid master hashSz addr low high = (.ok, some ap)) :
    lcoreEnabled lcoreMask cid = true ∧ ∃ low' high', low' ≠ 0 ∧
      ap = ⟨addr, low', high', 1, saPoolAllocHash addr hashSz (flows cid) low' high'⟩ := by
  unfold saPoolCreate at h
  split at h
  · split at h <;> simp at h
  · rename_i enabled
    simp only [Bool.or_eq_true, decide_eq_true_eq, Bool.not_eq_true', not_or] at enabled
    refine ⟨by simpa using enabled.2, ?_⟩
    generalize (if low = 0 then defMinPort else low) = low' at h
    generalize (if high = 0 then defMaxPort else high) = high' at h
    dsimp only at h
    split at h
    · simp at h
    · rename_i valid
      simp only [Bool.or_eq_true, decide_eq_true_eq, not_or] at valid
      simp only [Prod.mk.injEq, Option.some.injEq, true_and] at h
      exact ⟨low', high', valid.2, h.symm⟩

theorem saPoolCreate_poolOk {flows : Nat → SaFlow} {lcoreMask : UInt64}
    {cid master hashSz : Nat} {addr : InetAddr} {low high : UInt16} {ap : SaPool}
    (ok : FlowOk (flows cid))
    (h : saPoolCreate flows lcoreMask cid master hashSz addr low high = (.ok, some ap)) :
    PoolOk (flows cid) ap := by
  obtain ⟨-, low', high', lowNe, rfl⟩ := saPoolCreate_eq_ok h
  refine ⟨lowNe, fun pool mem => ?_, ?_⟩
  · rw [saPoolAllocHash, List.eq_of_mem_replicate mem]
    exact bucketOk_fillBucket addr ok lowNe high'
  · simp [saPoolAllocHash, fillBucket_usedEnties]

/-! ### One bucket, one call -/

section Bucket

variable {flow : SaFlow} {addr : InetAddr} {low high : UInt16} {pool : SaEntryPool}

theorem BucketOk.missCnt (ok : BucketOk flow addr low high pool) (miss : UInt32) :
    BucketOk flow addr low high { pool with missCnt := miss } :=
  ⟨ok.shift, ok.split, ok.used_iff, ok.entry, ok.usedCnt, ok.freeCnt⟩

/-- A fetch keeps the bucket's invariant. -/
theorem BucketOk.take (ok : BucketOk flow addr low high pool) (flowOk : FlowOk flow)
    (lowNe : low ≠ 0) {idx : Nat} {rest : List Nat} (free : pool.freeEnties = idx :: rest) :
    BucketOk flow addr low high (pool.take idx rest) := by
  have split := ok.split
  rw [free] at split
  have fresh : idx ∉ pool.usedEnties := split.head_not_mem_used (slots_nodup flowOk low high)
  have total := split.length_eq
  have cap : (slots flow low high).length ≤ 65535 := length_slots_le lowNe high
  have freeCnt := ok.freeCnt
  rw [free] at freeCnt
  refine ⟨ok.shift, split.take, fun i => ?_, fun p hp => ?_, ?_, ?_⟩
  · -- only the flag of `idx` changes, and `idx` joins the used list
    by_cases same : i = idx
    · subst same
      simp [SaEntryPool.take, flags_set_used]
    · simp [SaEntryPool.take, ok.used_iff i, same]
  · simp only [SaEntryPool.take, (update_flags_addr_port _ _ _ _).1,
      (update_flags_addr_port _ _ _ _).2]
    exact ok.entry p hp
  · simp only [SaEntryPool.take, List.length_append, List.length_singleton]
    rw [List.length_cons] at total
    rw [toNat_add_one_of_lt (by rw [ok.usedCnt]; omega), ok.usedCnt]
  · simp only [SaEntryPool.take]
    rw [toNat_sub_one_of_pos (by rw [freeCnt, List.length_cons]; omega), freeCnt]
    simp

/-- A release of a flagged entry keeps the bucket's invariant. -/
theorem BucketOk.give (ok : BucketOk flow addr low high pool) (flowOk : FlowOk flow)
    (lowNe : low ≠ 0) {idx : Nat} (used : idx ∈ pool.usedEnties) :
    BucketOk flow addr low high (pool.give idx) := by
  have nd := slots_nodup flowOk low high
  have usedNd := ok.split.used_nodup nd
  have notFree := ok.split.not_mem_free nd used
  have total := ok.split.length_eq
  have cap : (slots flow low high).length ≤ 65535 := length_slots_le lowNe high
  have pos := List.length_pos_of_mem used
  refine ⟨ok.shift, ok.split.give nd used, fun i => ?_, fun p hp => ?_, ?_, ?_⟩
  · -- only the flag of `idx` changes, and `idx` leaves the used list
    by_cases same : i = idx
    · subst same
      simp [SaEntryPool.give, flags_clear_used, usedNd.not_mem_erase]
    · simp [SaEntryPool.give, Function.update_of_ne same, ok.used_iff i,
        List.mem_erase_of_ne same]
  · simp only [SaEntryPool.give, (update_flags_addr_port _ _ _ _).1,
      (update_flags_addr_port _ _ _ _).2]
    exact ok.entry p hp
  · simp only [SaEntryPool.give]
    rw [toNat_sub_one_of_pos (by rw [ok.usedCnt]; omega), ok.usedCnt,
      List.length_erase_of_mem used]
  · simp only [SaEntryPool.give, List.length_append, List.length_singleton,
      List.erase_of_not_mem notFree]
    rw [toNat_add_one_of_lt (by rw [ok.freeCnt]; omega), ok.freeCnt]

theorem saPoolFetch_bucketOk (ok : BucketOk flow addr low high pool) (flowOk : FlowOk flow)
    (lowNe : low ≠ 0) {ss sa : SockAddr} {err : Edpvs} {pool' : SaEntryPool}
    (h : saPoolFetch pool ss = (err, sa, pool')) :
    BucketOk flow addr low high pool' ∧
      (pool'.usedEnties.length : Int) = pool.usedEnties.length + if err = .ok then 1 else 0 := by
  unfold saPoolFetch at h
  split at h
  · -- an empty free list only counts the miss
    simp only [Prod.mk.injEq] at h
    obtain ⟨rfl, -, rfl⟩ := h
    exact ⟨ok.missCnt _, by simp⟩
  · rename_i idx rest free
    have taken := ok.take flowOk lowNe free
    split_ifs at h <;> simp only [Prod.mk.injEq] at h <;> obtain ⟨rfl, -, rfl⟩ := h
    · exact ⟨taken, by simp [SaEntryPool.take]⟩
    · exact ⟨taken, by simp [SaEntryPool.take]⟩
    · exact ⟨ok, by simp⟩

theorem saPoolRelease_bucketOk (ok : BucketOk flow addr low high pool) (flowOk : FlowOk flow)
    (lowNe : low ≠ 0) {ss : SockAddr} {pool' : SaEntryPool}
    (h : saPoolRelease pool ss = some (.ok, pool')) :
    BucketOk flow addr low high pool' ∧
      (pool'.usedEnties.length : Int) + 1 = pool.usedEnties.length := by
  unfold saPoolRelease at h
  dsimp only at h
  split_ifs at h with family port flag same <;>
    simp only [Option.some.injEq, Prod.mk.injEq, reduceCtorEq, false_and, true_and] at h
  subst h
  -- the flag says the entry is on the used list
  have used := (ok.used_iff _).mp flag
  refine ⟨ok.give flowOk lowNe used, ?_⟩
  have pos := List.length_pos_of_mem used
  simp only [SaEntryPool.give, List.length_erase_of_mem used]
  omega

end Bucket

/-! ### The pool, one call -/

section Pool

variable (jhash32b : List UInt32 → UInt32 → UInt32)
variable {flow : SaFlow} {ap : SaPool}

theorem saPoolHash_lt {ss : Option SockAddr} {b : Nat} (h : saPoolHash jhash32b ap ss = some b) :
    b < ap.poolHash.length := by
  unfold saPoolHash at h
  split at h
  · simp at h
  · rename_i nonempty
    have pos : 0 < ap.poolHash.length := Nat.pos_of_ne_zero nonempty
    split at h
    · simp only [Option.some.injEq] at h
      omega
    · split_ifs at h <;> simp only [Option.some.injEq] at h <;> subst h <;>
        exact Nat.mod_lt _ pos

theorem SaPool.bucket_eq {b : Nat} (hb : b < ap.poolHash.length) : ap.bucket b = ap.poolHash[b] := by
  simp [SaPool.bucket, List.getD_eq_getElem?_getD, hb]

theorem SaPool.bucket_setBucket {b : Nat} (hb : b < ap.poolHash.length) (pool : SaEntryPool)
    (r : Int) : ({ ap.setBucket b pool with refcnt := r } : SaPool).bucket b = pool := by
  simp [SaPool.bucket, SaPool.setBucket, List.getD_eq_getElem?_getD, hb]

theorem PoolOk.bucketOk (ok : PoolOk flow ap) {b : Nat} (hb : b < ap.poolHash.length) :
    BucketOk flow ap.addr ap.low ap.high (ap.bucket b) := by
  rw [SaPool.bucket_eq hb]
  exact ok.bucket _ (List.getElem_mem hb)

/-- Replacing a bucket by one that keeps the invariant, with `refcnt` following its
used list, keeps the pool's invariant. -/
theorem PoolOk.setBucket (ok : PoolOk flow ap) {b : Nat} (hb : b < ap.poolHash.length)
    {pool : SaEntryPool} (bucketOk : BucketOk flow ap.addr ap.low ap.high pool) {r : Int}
    (hr : r + (ap.bucket b).usedEnties.length = ap.refcnt + pool.usedEnties.length) :
    PoolOk flow { ap.setBucket b pool with refcnt := r } := by
  refine ⟨ok.low_ne, fun q mem => ?_, ?_⟩
  · rcases List.mem_or_eq_of_mem_set mem with mem | rfl
    · exact ok.bucket q mem
    · exact bucketOk
  · have refcnt := ok.refcnt
    rw [SaPool.bucket_eq hb] at hr
    simp only [SaPool.setBucket, List.map_set, List.sum_set', List.length_map, hb,
      dite_true, List.getElem_map]
    omega

theorem PoolOk.fetch (ok : PoolOk flow ap) (flowOk : FlowOk flow) {af : Int}
    {daddr : Option SockAddr} {saddr sa : SockAddr} {err : Edpvs} {ap' : SaPool}
    (h : saFetch jhash32b ap af daddr saddr = some (err, sa, ap')) : PoolOk flow ap' := by
  unfold saFetch at h
  split_ifs at h
  -- the calls that return before the pool is touched
  any_goals simp only [Option.some.injEq, Prod.mk.injEq] at h; rw [← h.2.2]; exact ok
  split at h
  · simp at h
  · rename_i b hash
    have hb := saPoolHash_lt jhash32b hash
    rcases fetch : saPoolFetch (ap.bucket b) saddr with ⟨err', sa', pool⟩
    rw [fetch] at h
    simp only [Option.some.injEq, Prod.mk.injEq] at h
    obtain ⟨rfl, -, rfl⟩ := h
    obtain ⟨bucketOk, used⟩ := saPoolFetch_bucketOk (ok.bucketOk hb) flowOk ok.low_ne fetch
    refine ok.setBucket hb bucketOk ?_
    split_ifs at used ⊢ <;> omega

theorem saPoolDestroy_setBucket (b : Nat) (pool : SaEntryPool) :
    saPoolDestroy (ap.setBucket b pool) = { ap.setBucket b pool with refcnt := ap.refcnt - 1 } :=
  rfl

theorem PoolOk.release (ok : PoolOk flow ap) (flowOk : FlowOk flow)
    {daddr : Option SockAddr} {saddr : SockAddr} {err : Edpvs} {ap' : SaPool}
    (h : saRelease jhash32b ap daddr saddr = some (err, ap')) : PoolOk flow ap' := by
  unfold saRelease at h
  split_ifs at h
  any_goals simp only [Option.some.injEq, Prod.mk.injEq] at h; rw [← h.2]; exact ok
  split at h
  · simp at h
  · rename_i b hash
    have hb := saPoolHash_lt jhash32b hash
    split at h
    · simp at h
    · rename_i err' pool release
      split_ifs at h with released
      · subst released
        simp only [Option.some.injEq, Prod.mk.injEq] at h
        obtain ⟨-, rfl⟩ := h
        obtain ⟨bucketOk, used⟩ :=
          saPoolRelease_bucketOk (ok.bucketOk hb) flowOk ok.low_ne release
        rw [saPoolDestroy_setBucket]
        exact ok.setBucket hb bucketOk (by omega)
      · simp only [Option.some.injEq, Prod.mk.injEq] at h
        rw [← h.2]
        exact ok

end Pool

/-! ### Whole runs -/

section Run

variable {jhash32b : List UInt32 → UInt32 → UInt32} {flows : Nat → SaFlow} {lcoreMask : UInt64}
  {cid : Nat} {ap : SaPool}

/-- Every pool a run builds keeps the invariant: the created pool has it, and every
call keeps it. -/
theorem SaReachable.poolOk (flowOk : FlowOk (flows cid))
    (reach : SaReachable jhash32b flows lcoreMask cid ap) : PoolOk (flows cid) ap := by
  induction reach with
  | create h => exact saPoolCreate_poolOk flowOk h
  | fetch _ h ih => exact ih.fetch jhash32b flowOk h
  | release _ h ih => exact ih.release jhash32b flowOk h

/-- Only an enabled lcore has pools. -/
theorem SaReachable.enabled (reach : SaReachable jhash32b flows lcoreMask cid ap) :
    lcoreEnabled lcoreMask cid = true := by
  induction reach with
  | create h => exact (saPoolCreate_eq_ok h).1
  | fetch _ _ ih => exact ih
  | release _ _ ih => exact ih

end Run

end Dpvs.Sa
