import Dpvs.SaPool.Invariant

/-!
# A pair is handed out once per bucket

What the invariant of `Dpvs.SaPool.Invariant` says about the pairs a pool hands
out. Within the bucket a destination hint hashes to, a fetch returns an admitted
port that the bucket had not handed out, and a release of a port that is not
outstanding there never succeeds: an admitted port is refused with `EDPVS_INVAL`, a
port of another lcore whose entry index `port >> shift` is that of an outstanding
port fails the assertion on the entry's port. The buckets do not know of each
other: `sa_pool_alloc_hash` puts every admitted port on the free list of every
bucket, so two hints that hash apart get the same pair while both connections
hold it.
-/

namespace Dpvs.Sa

section Bucket

variable {flow : SaFlow} {addr : InetAddr} {low high : UInt16} {pool : SaEntryPool}

theorem toNat_toUInt16_of_admitted {p : Nat} (hp : p ∈ admittedPorts flow low high) :
    p.toUInt16.toNat = p := by
  have lt := lt_of_mem_admittedPorts hp
  rw [toNat_toUInt16]
  exact Nat.mod_eq_of_lt lt

/-- Within a bucket no port is outstanding twice. -/
theorem BucketOk.outstandingPorts_nodup (ok : BucketOk flow addr low high pool)
    (flowOk : FlowOk flow) : (outstandingPorts pool).Nodup := by
  apply (ok.split.used_nodup (slots_nodup flowOk low high)).map_on
  intro i hi j hj same
  -- both indices are slots, of admitted ports whose entries hold the ports themselves
  obtain ⟨p, hp, rfl⟩ := exists_port_of_mem_slots (ok.split.mem_iff.mp (Or.inr hi))
  obtain ⟨q, hq, rfl⟩ := exists_port_of_mem_slots (ok.split.mem_iff.mp (Or.inr hj))
  rw [(ok.entry p hp).2, (ok.entry q hq).2] at same
  have eq := congrArg UInt16.toNat (htons_injective same)
  rw [toNat_toUInt16_of_admitted hp, toNat_toUInt16_of_admitted hq] at eq
  rw [eq]

/-- A successful fetch takes the head of the free list and writes its entry's port,
and its address as the family reads it, into the caller's address. -/
theorem saPoolFetch_eq_ok {ss sa : SockAddr} {pool' : SaEntryPool}
    (h : saPoolFetch pool ss = (.ok, sa, pool')) :
    ∃ idx rest, pool.freeEnties = idx :: rest ∧ pool' = pool.take idx rest ∧
      sa.family = ss.family ∧ (sa.family = afInet ∨ sa.family = afInet6) ∧
      sa.port = (pool.saEntries idx).port ∧
      inetAddrEqual sa.family (pool.saEntries idx).addr sa.addr = true := by
  unfold saPoolFetch at h
  split at h
  · simp at h
  · rename_i idx rest free
    -- the two families fill the address differently and the port the same way
    split_ifs at h with inet inet6 <;> simp only [Prod.mk.injEq, reduceCtorEq, false_and] at h <;>
      obtain ⟨-, rfl, rfl⟩ := h
    · exact ⟨idx, rest, free, rfl, inet.symm, Or.inl rfl, rfl, by simp [inetAddrEqual]⟩
    · exact ⟨idx, rest, free, rfl, inet6.symm, Or.inr rfl, rfl, inetAddrEqual_refl _ _⟩

/-- A successful fetch from a bucket hands out the entry of an admitted port, which
joins the tail of the outstanding ones. -/
theorem saPoolFetch_ok (ok : BucketOk flow addr low high pool) {ss sa : SockAddr}
    {pool' : SaEntryPool} (h : saPoolFetch pool ss = (.ok, sa, pool')) :
    ∃ p ∈ admittedPorts flow low high, sa.port = htons p.toUInt16 ∧
      outstandingPorts pool' = outstandingPorts pool ++ [sa.port] := by
  obtain ⟨idx, rest, free, rfl, -, -, port, -⟩ := saPoolFetch_eq_ok h
  have slot : idx ∈ slots flow low high := ok.split.mem_iff.mp (Or.inl (by simp [free]))
  obtain ⟨p, hp, rfl⟩ := exists_port_of_mem_slots slot
  refine ⟨p, hp, port.trans (ok.entry p hp).2, ?_⟩
  simp only [outstandingPorts, SaEntryPool.take, List.map_append, List.map_cons, List.map_nil,
    (update_flags_addr_port _ _ _ _).2]
  rw [port]

/-- Every outstanding port is an admitted one, in network order. -/
theorem BucketOk.mem_outstandingPorts (ok : BucketOk flow addr low high pool) {port : UInt16}
    (h : port ∈ outstandingPorts pool) :
    ∃ p ∈ admittedPorts flow low high, port = htons p.toUInt16 := by
  obtain ⟨i, used, rfl⟩ := List.mem_map.mp h
  obtain ⟨p, hp, rfl⟩ := exists_port_of_mem_slots (ok.split.mem_iff.mp (Or.inr used))
  exact ⟨p, hp, (ok.entry p hp).2⟩

/-- The index `sa_pool_release` computes from an admitted port in network order is the
port's entry, and the port is not zero. -/
theorem BucketOk.release_index (ok : BucketOk flow addr low high pool) (lowNe : low ≠ 0) {p : Nat}
    (hp : p ∈ admittedPorts flow low high) :
    ntohs (htons p.toUInt16) ≠ 0 ∧
      (ntohs (htons p.toUInt16)).toNat >>> pool.shift = entryIndex flow.shift p := by
  have pos : 1 ≤ p := by
    have lowPos : 1 ≤ low.toNat := by
      have := UInt16.toNat_inj.not.mpr lowNe
      simp at this
      omega
    have := (mem_admittedPorts.mp hp).1
    omega
  have host : (ntohs (htons p.toUInt16)).toNat = p := by
    rw [ntohs_htons, toNat_toUInt16_of_admitted hp]
  refine ⟨fun zero => ?_, ?_⟩
  · rw [zero] at host
    simp at host
    omega
  · rw [host, ok.shift, entryIndex_of_lt (lt_of_mem_admittedPorts hp), Nat.shiftRight_eq_div_pow]

/-- Taking an entry and giving it back leaves the outstanding ports as they were. -/
theorem outstandingPorts_give_take {idx : Nat} (rest : List Nat) (fresh : idx ∉ pool.usedEnties) :
    outstandingPorts ((pool.take idx rest).give idx) = outstandingPorts pool := by
  simp only [outstandingPorts, SaEntryPool.give, SaEntryPool.take,
    List.erase_append_right _ fresh, List.erase_cons_head, List.append_nil]
  -- the two writes are at `idx`, which is not on the used list
  apply List.map_congr_left
  intro i used
  have ne : i ≠ idx := fun same => fresh (same ▸ used)
  rw [Function.update_of_ne ne, Function.update_of_ne ne]

/-- The release of the pair a fetch took from a bucket succeeds. -/
theorem saPoolRelease_take (ok : BucketOk flow addr low high pool) (lowNe : low ≠ 0)
    {idx : Nat} {rest : List Nat} {sa : SockAddr} (free : pool.freeEnties = idx :: rest)
    (family : sa.family = afInet ∨ sa.family = afInet6) (port : sa.port = (pool.saEntries idx).port)
    (addrEq : inetAddrEqual sa.family (pool.saEntries idx).addr sa.addr = true) :
    saPoolRelease (pool.take idx rest) sa = some (.ok, (pool.take idx rest).give idx) := by
  have slot : idx ∈ slots flow low high := ok.split.mem_iff.mp (Or.inl (by simp [free]))
  obtain ⟨p, hp, rfl⟩ := exists_port_of_mem_slots slot
  have network : sa.port = htons p.toUInt16 := port.trans (ok.entry p hp).2
  obtain ⟨portNe, index⟩ := ok.release_index lowNe hp
  rw [← network] at portNe index
  have known : ¬ (sa.family ≠ afInet ∧ sa.family ≠ afInet6) := by tauto
  have flagged :
      ((pool.take (entryIndex flow.shift p) rest).saEntries (entryIndex flow.shift p)).flags &&&
        saFUsed ≠ 0 := by
    simp [SaEntryPool.take, flags_set_used]
  have same :
      (inetAddrEqual sa.family
          ((pool.take (entryIndex flow.shift p) rest).saEntries (entryIndex flow.shift p)).addr sa.addr &&
        ((pool.take (entryIndex flow.shift p) rest).saEntries (entryIndex flow.shift p)).port ==
          sa.port) = true := by
    simp only [SaEntryPool.take, (update_flags_addr_port _ _ _ _).1,
      (update_flags_addr_port _ _ _ _).2, addrEq, port, beq_self_eq_true, Bool.and_self]
  unfold saPoolRelease
  dsimp only
  rw [if_neg known, if_neg portNe]
  simp only [SaEntryPool.take] at index flagged same ⊢
  simp only [index, flagged, same, if_false, if_true]

/-- The release of an admitted port that the bucket has not handed out is refused and
changes nothing: its entry is not flagged. -/
theorem saPoolRelease_of_not_outstanding (ok : BucketOk flow addr low high pool)
    (lowNe : low ≠ 0) {ss : SockAddr} {p : Nat} (hp : p ∈ admittedPorts flow low high)
    (family : ss.family = afInet ∨ ss.family = afInet6) (port : ss.port = htons p.toUInt16)
    (notOut : ss.port ∉ outstandingPorts pool) : saPoolRelease pool ss = some (.inval, pool) := by
  have known : ¬ (ss.family ≠ afInet ∧ ss.family ≠ afInet6) := by tauto
  obtain ⟨portNe, idx⟩ := ok.release_index lowNe hp
  rw [← port] at portNe idx
  have unflagged : (pool.saEntries (entryIndex flow.shift p)).flags &&& saFUsed = 0 := by
    by_contra flagged
    have used := (ok.used_iff _).mp flagged
    apply notOut
    rw [port, ← (ok.entry p hp).2]
    exact List.mem_map_of_mem used
  unfold saPoolRelease
  dsimp only
  rw [if_neg known, if_neg portNe, idx, if_pos unflagged]

/-- A release that succeeds names an outstanding port: the flagged entry it reads is
on the used list and holds the port released. -/
theorem BucketOk.mem_outstandingPorts_of_release (ok : BucketOk flow addr low high pool)
    {ss : SockAddr} {pool' : SaEntryPool} (h : saPoolRelease pool ss = some (.ok, pool')) :
    ss.port ∈ outstandingPorts pool := by
  unfold saPoolRelease at h
  dsimp only at h
  split_ifs at h with family port flag same <;>
    simp only [Option.some.injEq, Prod.mk.injEq, reduceCtorEq, false_and] at h
  have used := (ok.used_iff _).mp flag
  simp only [Bool.and_eq_true, beq_iff_eq] at same
  rw [← same.2]
  exact List.mem_map_of_mem used

/-- A release that fails leaves the bucket as it was. -/
theorem saPoolRelease_of_ne_ok {ss : SockAddr} {err : Edpvs} {pool' : SaEntryPool}
    (h : saPoolRelease pool ss = some (err, pool')) (ne : err ≠ .ok) : pool' = pool := by
  unfold saPoolRelease at h
  dsimp only at h
  split_ifs at h <;> simp only [Option.some.injEq, Prod.mk.injEq] at h
  · exact h.2.symm
  · exact h.2.symm
  · exact absurd h.1.symm ne

end Bucket

section Pool

variable (jhash32b : List UInt32 → UInt32 → UInt32) {flow : SaFlow} {ap : SaPool}

/-- A successful fetch that has a pair to find (no address, or no port) passed the
family checks, took its pair from the bucket of its hint, and took a reference on the
pool. -/
theorem saFetch_eq_ok {af : Int} {daddr : Option SockAddr} {saddr sa : SockAddr} {ap' : SaPool}
    (lookup : addrAny af saddr.addr = true ∨ saddr.port = 0)
    (h : saFetch jhash32b ap af daddr saddr = some (.ok, sa, ap')) :
    (∀ d, daddr = some d → d.family = af) ∧ saddr.family = af ∧
      ∃ b pool, saPoolHash jhash32b ap daddr = some b ∧
        saPoolFetch (ap.bucket b) saddr = (.ok, sa, pool) ∧
        ap' = { ap.setBucket b pool with refcnt := ap.refcnt + 1 } := by
  unfold saFetch at h
  split_ifs at h with refused unsupported known
  · simp at h
  · simp at h
  · rcases lookup with any | unset
    · simp [any] at known
    · simp [unset] at known
  simp only [Bool.or_eq_true, bne_iff_ne, ne_eq, not_or, not_not] at refused
  have hint : ∀ d, daddr = some d → d.family = af := by
    intro d hd
    simpa [hd] using refused.1
  split at h
  · simp at h
  · rename_i b hash
    rcases fetch : saPoolFetch (ap.bucket b) saddr with ⟨err, sa', pool⟩
    rw [fetch] at h
    simp only [Option.some.injEq, Prod.mk.injEq] at h
    obtain ⟨rfl, rfl, rfl⟩ := h
    exact ⟨hint, refused.2, b, pool, hash, fetch, by simp⟩

/-- The bucket of a hint does not depend on what the buckets hold. -/
theorem saPoolHash_setBucket (b : Nat) (pool : SaEntryPool) (r : Int) (ss : Option SockAddr) :
    saPoolHash jhash32b { ap.setBucket b pool with refcnt := r } ss = saPoolHash jhash32b ap ss := by
  simp [saPoolHash, SaPool.setBucket]

theorem SaPool.bucket_setBucket_ne {b b' : Nat} (ne : b' ≠ b) (pool : SaEntryPool) (r : Int) :
    ({ ap.setBucket b pool with refcnt := r } : SaPool).bucket b' = ap.bucket b' := by
  simp [SaPool.bucket, SaPool.setBucket, List.getD_eq_getElem?_getD, List.getElem?_set_ne ne.symm]

/-- A fetch that has a pair to find works on the bucket of its hint, and hands out an
admitted port that bucket had not handed out. -/
theorem PoolOk.fetch_ok (ok : PoolOk flow ap) (flowOk : FlowOk flow) {af : Int}
    {daddr : Option SockAddr} {saddr sa : SockAddr} {ap' : SaPool}
    (lookup : addrAny af saddr.addr = true ∨ saddr.port = 0)
    (h : saFetch jhash32b ap af daddr saddr = some (.ok, sa, ap')) :
    ∃ b, saPoolHash jhash32b ap daddr = some b ∧
      ∃ p ∈ admittedPorts flow ap.low ap.high, sa.port = htons p.toUInt16 ∧
        sa.port ∉ outstandingPorts (ap.bucket b) ∧
        outstandingPorts (ap'.bucket b) = outstandingPorts (ap.bucket b) ++ [sa.port] := by
  obtain ⟨-, -, b, pool, hash, fetch, rfl⟩ := saFetch_eq_ok jhash32b lookup h
  have hb := saPoolHash_lt jhash32b hash
  have bucketOk := ok.bucketOk hb
  obtain ⟨p, hp, port, joined⟩ := saPoolFetch_ok bucketOk fetch
  have after := (saPoolFetch_bucketOk bucketOk flowOk ok.low_ne fetch).1
  -- the bucket after the fetch has no port twice, and it is the one before plus `sa.port`
  have nodup := after.outstandingPorts_nodup flowOk
  rw [joined, List.nodup_append] at nodup
  refine ⟨b, hash, p, hp, port, fun mem => ?_, ?_⟩
  · exact nodup.2.2 _ mem _ (List.mem_singleton_self _) rfl
  · rw [SaPool.bucket_setBucket hb, joined]

/-- The release of an admitted port that is not outstanding in the bucket of its hint
is refused and leaves the pool as it was. -/
theorem PoolOk.release_not_outstanding (ok : PoolOk flow ap) {daddr : Option SockAddr}
    {saddr : SockAddr} {b p : Nat} (hash : saPoolHash jhash32b ap daddr = some b)
    (sameFamily : ∀ d, daddr = some d → d.family = saddr.family)
    (family : saddr.family = afInet ∨ saddr.family = afInet6)
    (hp : p ∈ admittedPorts flow ap.low ap.high) (port : saddr.port = htons p.toUInt16)
    (notOut : saddr.port ∉ outstandingPorts (ap.bucket b)) :
    saRelease jhash32b ap daddr saddr = some (.inval, ap) := by
  have matching : (daddr.any fun d => d.family != saddr.family) = false := by
    cases daddr with
    | none => rfl
    | some d => simp [sameFamily d rfl]
  have known : ¬ (saddr.family ≠ afInet ∧ saddr.family ≠ afInet6) := by tauto
  have refused := saPoolRelease_of_not_outstanding (ok.bucketOk (saPoolHash_lt jhash32b hash))
    ok.low_ne hp family port notOut
  unfold saRelease
  rw [matching, if_neg Bool.false_ne_true, if_neg known, hash]
  simp only [refused, reduceCtorEq, if_false]

/-- A fetch whose pair is known, address and port, hands out nothing: whatever it
returns, the pair is the caller's and the pool is as it was. -/
theorem saFetch_of_known {af : Int} {daddr : Option SockAddr} {saddr sa : SockAddr}
    {err : Edpvs} {ap' : SaPool} (bound : addrAny af saddr.addr = false) (set : saddr.port ≠ 0)
    (h : saFetch jhash32b ap af daddr saddr = some (err, sa, ap')) : sa = saddr ∧ ap' = ap := by
  have known : (!addrAny af saddr.addr && saddr.port != 0) = true := by simp [bound, set]
  unfold saFetch at h
  rw [if_pos known] at h
  split_ifs at h <;> simp only [Option.some.injEq, Prod.mk.injEq] at h <;>
    exact ⟨h.2.1.symm, h.2.2.symm⟩

/-- A call that answers an error with the pool it was given: the caller sees that error,
and the pool unchanged. -/
theorem refused_of_error {e err : Edpvs} {ap' : SaPool} (ne : e ≠ .ok)
    (h : some (e, ap) = some (err, ap')) : err ≠ .ok ∧ ap' = ap := by
  simp only [Option.some.injEq, Prod.mk.injEq] at h
  exact ⟨h.1 ▸ ne, h.2.symm⟩

/-- A release of a port that is not outstanding in the bucket of its hint never
succeeds and leaves the pool as it was, whatever the port: it returns an error, or an
assertion fails. -/
theorem PoolOk.release_of_not_outstanding (ok : PoolOk flow ap) {daddr : Option SockAddr}
    {saddr : SockAddr} {b : Nat} (hash : saPoolHash jhash32b ap daddr = some b)
    (notOut : saddr.port ∉ outstandingPorts (ap.bucket b)) {err : Edpvs} {ap' : SaPool}
    (h : saRelease jhash32b ap daddr saddr = some (err, ap')) : err ≠ .ok ∧ ap' = ap := by
  unfold saRelease at h
  split_ifs at h
  · exact refused_of_error (by decide) h
  · exact refused_of_error (by decide) h
  rw [hash] at h
  dsimp only at h
  split at h
  · cases h
  · rename_i e pool released
    -- a success would have read a flagged entry of the port, which is outstanding
    by_cases okay : e = .ok
    · subst okay
      exact absurd ((ok.bucketOk (saPoolHash_lt jhash32b hash)).mem_outstandingPorts_of_release
        released) notOut
    · rw [if_neg okay] at h
      exact refused_of_error okay h

end Pool

/-! ### The same pair in two buckets, and a port of another lcore -/

/-- Lcore 0 as the only worker: no mask, base zero. -/
def oneWorkerFlows : Nat → SaFlow :=
  (saPoolInit 1 1).getD fun _ => SaFlow.zero

/-- 192.168.0.10, the local address. -/
def localAddr : InetAddr := InetAddr.ofV4 0x0a00a8c0

/-- A pool of the one port 1025 in the default sixteen buckets. -/
def onePortPool : SaPool :=
  ⟨localAddr, 1025, 1025, 1, saPoolAllocHash localAddr 16 (oneWorkerFlows 0) 1025 1025⟩

theorem saPoolCreate_onePortPool :
    saPoolCreate oneWorkerFlows 1 0 1 16 localAddr 1025 1025 = (.ok, some onePortPool) :=
  rfl

/-- The real server 10.0.0.`host`, port 80: the destination hint of an FNAT
connection. -/
def realServer (host : UInt32) : SockAddr :=
  ⟨afInet, InetAddr.ofV4 ((0x0000000a : UInt32) ||| (host <<< 24)), htons 80⟩

/-- The source `dp_vs_laddr_bind` asks to fill: the local address, no port. -/
def unboundSource : SockAddr :=
  ⟨afInet, localAddr, 0⟩

/-- Lcores 0 and 1 as the workers: one mask bit, bases 0 and 1. -/
def twoWorkerFlows : Nat → SaFlow :=
  (saPoolInit 2 3).getD fun _ => SaFlow.zero

/-- The pool of the local address for ports 1025 to 1028 on lcore `cid`. -/
def lcorePool (cid : Nat) : SaPool :=
  ⟨localAddr, 1025, 1028, 1, saPoolAllocHash localAddr 16 (twoWorkerFlows cid) 1025 1028⟩

theorem saPoolCreate_lcorePool (cid : Nat) (enabled : lcoreEnabled 3 cid = true)
    (small : cid ≤ 64) :
    saPoolCreate twoWorkerFlows 3 cid 2 16 localAddr 1025 1028 = (.ok, some (lcorePool cid)) := by
  have admitted : (64 < cid || !lcoreEnabled 3 cid) = false := by
    simp [enabled, Nat.not_lt.mpr small]
  simp only [saPoolCreate, admitted, Bool.false_eq_true, if_false]
  rfl

/-- Two ways a pair escapes what one pool-wide view would promise. Two connections to
two real servers get the same local pair: the hints hash to buckets 1 and 2, and each
bucket hands out port 1025 (an IPv4 hint does not reach `rte_jhash_32b`). And on lcore
0 of two workers, with port 1026 out, the release of port 1027, which lcore 1 admits
and no bucket of lcore 0 has handed out, reads the entry `1027 >> 1 = 1026 >> 1`,
finds it in use with another port, and fails the assertion on the port instead of
returning `EDPVS_INVAL`. -/
theorem sa_pool_same_pair_twice :
    (saPoolCreate oneWorkerFlows 1 0 1 16 localAddr 1025 1025 = (.ok, some onePortPool) ∧
      ∃ ap1 ap2,
        saFetch (fun _ _ => 0) onePortPool afInet (some (realServer 1)) unboundSource =
          some (.ok, ⟨afInet, localAddr, htons 1025⟩, ap1) ∧
        saFetch (fun _ _ => 0) ap1 afInet (some (realServer 2)) unboundSource =
          some (.ok, ⟨afInet, localAddr, htons 1025⟩, ap2)) ∧
    (saPoolCreate twoWorkerFlows 3 0 2 16 localAddr 1025 1028 = (.ok, some (lcorePool 0)) ∧
      ∃ ap1,
        saFetch (fun _ _ => 0) (lcorePool 0) afInet (some (realServer 1)) unboundSource =
          some (.ok, ⟨afInet, localAddr, htons 1026⟩, ap1) ∧
        (∀ pool ∈ ap1.poolHash, htons 1027 ∉ outstandingPorts pool) ∧
        saRelease (fun _ _ => 0) ap1 (some (realServer 1)) ⟨afInet, localAddr, htons 1027⟩ =
          none) :=
  ⟨⟨saPoolCreate_onePortPool, _, _, by rfl, by rfl⟩,
    ⟨saPoolCreate_lcorePool 0 rfl (by decide), _, by rfl, by decide, by rfl⟩⟩

/-! ### Whole runs -/

/-- Over any run of `sa_fetch` and `sa_release` calls on a pool of an enabled worker
lcore: the pool keeps its invariant (the counters are the list lengths, the lists
share out the admitted ports, `SA_F_USED` marks the used list, `refcnt` is one plus
the outstanding pairs); no bucket has a port outstanding twice; a fetch with a pair
to find hands out an admitted port of the lcore, one its bucket had not handed out
and no other lcore can hold, and a fetch whose pair is known hands out nothing; a
release of a port its bucket has not handed out never succeeds and changes nothing,
and for an admitted port it is refused with `EDPVS_INVAL`. -/
theorem sa_pool_pairs_unique_per_bucket (jhash32b : List UInt32 → UInt32 → UInt32)
    {nlcore : UInt8} {lcoreMask : UInt64} {flows : Nat → SaFlow}
    (init : saPoolInit nlcore lcoreMask = some flows)
    (count : lcoreRank lcoreMask 64 ≤ nlcore.toNat) {cid : Nat} (worker : cid < 64)
    {ap : SaPool} (reach : SaReachable jhash32b flows lcoreMask cid ap) :
    PoolOk (flows cid) ap ∧
      (∀ pool ∈ ap.poolHash, (outstandingPorts pool).Nodup) ∧
      (∀ af daddr saddr sa ap', (addrAny af saddr.addr = true ∨ saddr.port = 0) →
        saFetch jhash32b ap af daddr saddr = some (.ok, sa, ap') →
        ∃ b, saPoolHash jhash32b ap daddr = some b ∧
          sa.port ∉ outstandingPorts (ap.bucket b) ∧
          outstandingPorts (ap'.bucket b) = outstandingPorts (ap.bucket b) ++ [sa.port] ∧
          ap.low ≤ ntohs sa.port ∧ ntohs sa.port ≤ ap.high ∧
          ntohs sa.port &&& (flows cid).mask = ntohs (flows cid).portBase ∧
          ∀ c, c ≠ cid → c < 64 → lcoreEnabled lcoreMask c = true →
            flowAdmits (flows c) (ntohs sa.port).toNat = false) ∧
      (∀ af daddr saddr err sa ap', addrAny af saddr.addr = false → saddr.port ≠ 0 →
        saFetch jhash32b ap af daddr saddr = some (err, sa, ap') → sa = saddr ∧ ap' = ap) ∧
      (∀ daddr saddr b err ap', saPoolHash jhash32b ap daddr = some b →
        saddr.port ∉ outstandingPorts (ap.bucket b) →
        saRelease jhash32b ap daddr saddr = some (err, ap') → err ≠ .ok ∧ ap' = ap) ∧
      (∀ daddr saddr b p, saPoolHash jhash32b ap daddr = some b →
        (∀ d, daddr = some d → d.family = saddr.family) →
        (saddr.family = afInet ∨ saddr.family = afInet6) →
        p ∈ admittedPorts (flows cid) ap.low ap.high → saddr.port = htons p.toUInt16 →
        saddr.port ∉ outstandingPorts (ap.bucket b) →
        saRelease jhash32b ap daddr saddr = some (.inval, ap)) := by
  have flowOk := saPoolInit_flowOk init count cid
  have ok := reach.poolOk flowOk
  refine ⟨ok, fun pool mem => (ok.bucket pool mem).outstandingPorts_nodup flowOk,
    fun af daddr saddr sa ap' lookup h => ?_,
    fun af daddr saddr err sa ap' bound set h => saFetch_of_known jhash32b bound set h,
    fun daddr saddr b err ap' hash notOut h => ok.release_of_not_outstanding jhash32b hash notOut h,
    fun daddr saddr b p hash sameFamily family hp port notOut =>
      ok.release_not_outstanding jhash32b hash sameFamily family hp port notOut⟩
  obtain ⟨b, hash, p, hp, port, fresh, joined⟩ := ok.fetch_ok jhash32b flowOk lookup h
  -- the port handed out is `p`, admitted by this lcore's flow
  have host : ntohs sa.port = p.toUInt16 := by rw [port, ntohs_htons]
  have hostNat : (ntohs sa.port).toNat = p := by rw [host, toNat_toUInt16_of_admitted hp]
  obtain ⟨lowLe, leHigh, admits⟩ := mem_admittedPorts.mp hp
  refine ⟨b, hash, fresh, joined, ?_, ?_, ?_, fun c ne small enabled => ?_⟩
  · rw [UInt16.le_iff_toNat_le, hostNat]
    exact lowLe
  · rw [UInt16.le_iff_toNat_le, hostNat]
    exact leHigh
  · rw [← UInt16.toNat_inj, host, toUInt16_and_mask flowOk]
    exact (flowAdmits_iff flowOk p).mp admits
  · rw [hostNat]
    exact saPoolInit_disjoint init count ⟨worker, reach.enabled⟩ ⟨small, enabled⟩ ne.symm p admits

/-- The one-port pool of a single worker satisfies what the run theorem assumes. -/
theorem sa_pool_pairs_unique_per_bucket_one_port :
    saPoolInit 1 1 = some oneWorkerFlows ∧ lcoreRank 1 64 ≤ (1 : UInt8).toNat ∧
      SaReachable (fun _ _ => 0) oneWorkerFlows 1 0 onePortPool ∧
      PoolOk (oneWorkerFlows 0) onePortPool :=
  ⟨rfl, by decide, .create saPoolCreate_onePortPool,
    (@sa_pool_pairs_unique_per_bucket (fun _ _ => 0) 1 1 oneWorkerFlows rfl (by decide) 0
      (by decide) onePortPool (.create saPoolCreate_onePortPool)).1⟩


/-! ### Two lcores, and a fetch undone -/

/-- The pools of two worker lcores never have a port outstanding in common, whatever
their addresses: the ports of an lcore are those whose low bits are its base. -/
theorem sa_pools_of_two_lcores_disjoint (jhash32b : List UInt32 → UInt32 → UInt32)
    {nlcore : UInt8} {lcoreMask : UInt64} {flows : Nat → SaFlow}
    (init : saPoolInit nlcore lcoreMask = some flows)
    (count : lcoreRank lcoreMask 64 ≤ nlcore.toNat) {c c' : Nat} (worker : c < 64)
    (worker' : c' < 64) (ne : c ≠ c') {ap ap' : SaPool}
    (reach : SaReachable jhash32b flows lcoreMask c ap)
    (reach' : SaReachable jhash32b flows lcoreMask c' ap') :
    ∀ pool ∈ ap.poolHash, ∀ pool' ∈ ap'.poolHash, ∀ port ∈ outstandingPorts pool,
      port ∉ outstandingPorts pool' := by
  intro pool mem pool' mem' port out out'
  have ok := reach.poolOk (saPoolInit_flowOk init count c)
  have ok' := reach'.poolOk (saPoolInit_flowOk init count c')
  obtain ⟨p, hp, rfl⟩ := (ok.bucket pool mem).mem_outstandingPorts out
  obtain ⟨q, hq, same⟩ := (ok'.bucket pool' mem').mem_outstandingPorts out'
  -- one network-order port is one number
  have eq := congrArg UInt16.toNat (htons_injective same)
  rw [toNat_toUInt16_of_admitted hp, toNat_toUInt16_of_admitted hq] at eq
  subst eq
  have admits' := (mem_admittedPorts.mp hq).2.2
  rw [saPoolInit_disjoint init count ⟨worker, reach.enabled⟩ ⟨worker', reach'.enabled⟩ ne p
    (mem_admittedPorts.mp hp).2.2] at admits'
  exact Bool.false_ne_true admits'

theorem sa_pools_of_two_lcores_disjoint_two_workers :
    saPoolInit 2 3 = some twoWorkerFlows ∧ lcoreRank 3 64 ≤ (2 : UInt8).toNat ∧
      SaReachable (fun _ _ => 0) twoWorkerFlows 3 0 (lcorePool 0) ∧
      SaReachable (fun _ _ => 0) twoWorkerFlows 3 1 (lcorePool 1) ∧
      ∀ pool ∈ (lcorePool 0).poolHash, ∀ pool' ∈ (lcorePool 1).poolHash,
        ∀ port ∈ outstandingPorts pool, port ∉ outstandingPorts pool' :=
  ⟨rfl, by decide, .create (saPoolCreate_lcorePool 0 rfl (by decide)),
    .create (saPoolCreate_lcorePool 1 rfl (by decide)),
    @sa_pools_of_two_lcores_disjoint (fun _ _ => 0) 2 3 twoWorkerFlows rfl (by decide) 0 1
      (by decide) (by decide) (by decide) (lcorePool 0) (lcorePool 1)
      (.create (saPoolCreate_lcorePool 0 rfl (by decide)))
      (.create (saPoolCreate_lcorePool 1 rfl (by decide)))⟩

/-- `sa_release` of the pair an `sa_fetch` just handed out, with the same hint,
succeeds: the bucket has the same outstanding ports as before the fetch and the pool
its reference count. -/
theorem sa_release_undoes_fetch (jhash32b : List UInt32 → UInt32 → UInt32)
    {nlcore : UInt8} {lcoreMask : UInt64} {flows : Nat → SaFlow}
    (init : saPoolInit nlcore lcoreMask = some flows)
    (count : lcoreRank lcoreMask 64 ≤ nlcore.toNat) {cid : Nat} {ap : SaPool}
    (reach : SaReachable jhash32b flows lcoreMask cid ap) {af : Int} {daddr : Option SockAddr}
    {saddr sa : SockAddr} {ap1 : SaPool} (unset : saddr.port = 0)
    (h : saFetch jhash32b ap af daddr saddr = some (.ok, sa, ap1)) :
    ∃ ap2, saRelease jhash32b ap1 daddr sa = some (.ok, ap2) ∧ ap2.refcnt = ap.refcnt ∧
      ∀ b, outstandingPorts (ap2.bucket b) = outstandingPorts (ap.bucket b) := by
  have flowOk := saPoolInit_flowOk init count cid
  have ok := reach.poolOk flowOk
  obtain ⟨hint, family, b, pool, hash, fetch, rfl⟩ := saFetch_eq_ok jhash32b (.inr unset) h
  have hb := saPoolHash_lt jhash32b hash
  have bucketOk := ok.bucketOk hb
  obtain ⟨idx, rest, free, rfl, saFamily, known, port, addrEq⟩ := saPoolFetch_eq_ok fetch
  have fresh : idx ∉ (ap.bucket b).usedEnties := by
    have split := bucketOk.split
    rw [free] at split
    exact split.head_not_mem_used (slots_nodup flowOk _ _)
  have released := saPoolRelease_take bucketOk ok.low_ne free known port addrEq
  -- the release hashes its hint to the same bucket: only the number of buckets counts
  have matching : (daddr.any fun d => d.family != sa.family) = false := by
    cases daddr with
    | none => rfl
    | some d => simp [hint d rfl, saFamily, family]
  have known' : ¬ (sa.family ≠ afInet ∧ sa.family ≠ afInet6) := by tauto
  have hb' : b < ({ ap.setBucket b ((ap.bucket b).take idx rest) with
      refcnt := ap.refcnt + 1 } : SaPool).poolHash.length := by
    simpa [SaPool.setBucket] using hb
  refine ⟨saPoolDestroy (({ ap.setBucket b ((ap.bucket b).take idx rest) with
      refcnt := ap.refcnt + 1 } : SaPool).setBucket b (((ap.bucket b).take idx rest).give idx)),
    ?_, ?_, fun b' => ?_⟩
  · unfold saRelease
    rw [matching, if_neg Bool.false_ne_true, if_neg known', saPoolHash_setBucket, hash]
    simp only [SaPool.bucket_setBucket hb, released, if_true]
  · simp [saPoolDestroy, SaPool.setBucket]
  · rw [saPoolDestroy_setBucket]
    by_cases same : b' = b
    · subst same
      rw [SaPool.bucket_setBucket hb', outstandingPorts_give_take rest fresh]
    · rw [SaPool.bucket_setBucket_ne same, SaPool.bucket_setBucket_ne same]

theorem sa_release_undoes_fetch_one_port :
    ∃ sa ap1,
      saFetch (fun _ _ => 0) onePortPool afInet (some (realServer 1)) unboundSource =
        some (.ok, sa, ap1) ∧
      ∃ ap2, saRelease (fun _ _ => 0) ap1 (some (realServer 1)) sa = some (.ok, ap2) ∧
        ap2.refcnt = onePortPool.refcnt ∧
        ∀ b, outstandingPorts (ap2.bucket b) = outstandingPorts (onePortPool.bucket b) := by
  obtain ⟨sa, ap1, fetch⟩ : ∃ sa ap1,
      saFetch (fun _ _ => 0) onePortPool afInet (some (realServer 1)) unboundSource =
        some (.ok, sa, ap1) := ⟨_, _, by rfl⟩
  exact ⟨sa, ap1, fetch, @sa_release_undoes_fetch (fun _ _ => 0) 1 1 oneWorkerFlows rfl
    (by decide) 0 onePortPool (.create saPoolCreate_onePortPool) afInet (some (realServer 1))
    unboundSource sa ap1 rfl fetch⟩

end Dpvs.Sa
