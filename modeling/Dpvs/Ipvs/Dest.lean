import Dpvs.Basic
import Dpvs.Lib.FirstMatch

/-!
# Destinations of a virtual service

`src/ipvs/ip_vs_dest.c` keeps the real servers of a service on the list
`svc->dests`, and keeps two totals beside it: the count `svc->num_dests` and the
weight `svc->weight`, documented in `include/ipvs/service.h` as the "sum of
servers weight". Neither total is ever recomputed from scratch on the normal
path: `dp_vs_dest_add`, `dp_vs_dest_edit`, `dp_vs_dest_edit_health` and
`dp_vs_dest_unlink` each move it by the change they make, and fall back to a
recount only when the weight goes negative.

The user's weight `udest->weight` is a `uint32_t`, while the destination stores
its own in an `rte_atomic16_t`. The model keeps both widths: `DestConf.weight` is
a `UInt32`, `Dest.weight` an `Int16`, and the conversion between them is the C
one. The totals are unbounded integers (`long` and `uint32_t` in C); they stay far
inside their ranges for any list that fits in memory.

A destination is a heap object in C; the model gives it its address `id`, which
the schedulers below use to refer to it.
-/

namespace Dpvs

/-! ## Data -/

/-- `DPVS_DEST_F_AVAILABLE`. -/
def destFAvailable : UInt16 := 0x1

/-- `DPVS_DEST_F_OVERLOAD`. -/
def destFOverload : UInt16 := 0x2

/-- `DPVS_DEST_F_INHIBITED`. -/
def destFInhibited : UInt16 := 0x4

/-- `DPVS_CONN_F_INACTIVE`, which every destination passes on to its connections. -/
def connFInactive : UInt16 := 0x0200

/-- `struct dp_vs_dest_conf`, as the control plane hands it over; `fwdmode` is the raw
enumeration value, which nothing on this path checks. -/
structure DestConf where
  af : Int
  port : UInt16
  weight : UInt32
  addr : InetAddr
  connFlags : UInt16
  flags : UInt16
  fwdmode : UInt32
  maxConn : UInt32
  minConn : UInt32
  deriving DecidableEq, Repr

/-- `struct dp_vs_dest`, the fields the destination and connection code reads. -/
structure Dest where
  id : Nat
  af : Int
  addr : InetAddr
  port : UInt16
  flags : UInt16
  connFlags : Int16
  weight : Int16
  refcnt : Int
  fwdmode : UInt32
  actconns : Int
  inactconns : Int
  persistconns : Int
  maxConn : UInt32
  minConn : UInt32
  deriving DecidableEq, Repr

/-- What `__dp_vs_dest_update` reads of the running lcore: whether it is the master,
and `g_slave_lcore_num`. -/
structure LcoreEnv where
  isMaster : Bool
  slaveLcoreNum : UInt32
  deriving DecidableEq, Repr

/-- The `DPVS_SO_SET_*DEST` command a scheduler's `update_service` is told about. -/
inductive SetOpt where
  | adddest
  | editdest
  | deldest
  deriving DecidableEq, Repr

/-- The `update_service` hook of `svc->scheduler`, absent for schedulers without one. It
reads the service's destination list and the destination that changed, and returns a
code and its new `sched_data`; every caller here ignores the code. -/
structure Scheduler (σ : Type) where
  updateService : Option (List Dest → Dest → SetOpt → σ → Edpvs × σ)

/-- `struct dp_vs_service`: the destination list with its two totals, and the
scheduler's private data. -/
structure Svc (σ : Type) where
  dests : List Dest
  numDests : Nat
  weight : Int
  schedData : σ

/-! ## The functions of `ip_vs_dest.c` -/

/-- The test of `dp_vs_dest_lookup`: same family, same address as that family compares
it, same port. -/
def destMatches (af : Int) (addr : InetAddr) (port : UInt16) (d : Dest) : Bool :=
  d.af == af && inetAddrEqual af d.addr addr && d.port == port

/-- `dp_vs_dest_lookup`: the first destination of the list that matches. -/
def dpVsDestLookup (af : Int) (dests : List Dest) (addr : InetAddr) (port : UInt16) :
    Option Dest :=
  dests.find? (destMatches af addr port)

/-- `rte_atomic16_set(&dest->weight, udest->weight)`: the `uint32_t` is cut to its low
sixteen bits, read as a signed value. -/
def weightToAtomic16 (w : UInt32) : Int16 := w.toUInt16.toInt16

/-- `old_weight = rte_atomic16_read(&dest->weight)` into a `uint32_t`: the signed value
is taken modulo `2^32`. -/
def atomic16ToUInt32 (w : Int16) : Int := w.toInt % 4294967296

/-- `rte_atomic16_read(&dest->weight)` over a list, as the recount loops add it up. -/
def weightSum (dests : List Dest) : Int := (dests.map fun d => d.weight.toInt).sum

/-- The inhibited bit of `__dp_vs_dest_update` and `dp_vs_dest_edit_health`. -/
def setInhibited (udest : DestConf) (flags : UInt16) : UInt16 :=
  if udest.flags &&& destFInhibited ≠ 0 then flags ||| destFInhibited
  else flags &&& ~~~destFInhibited

/-- `__dp_vs_dest_update`. The overload test reads the old `max_conn`; the thresholds are
split over the slave lcores, the master keeping the remainder. -/
def dpVsDestUpdate (env : LcoreEnv) (dest : Dest) (udest : DestConf) : Dest :=
  let flags := setInhibited udest dest.flags ||| destFAvailable
  let flags :=
    if udest.maxConn = 0 ∨ udest.maxConn > dest.maxConn then flags &&& ~~~destFOverload
    else flags
  { dest with
    weight := weightToAtomic16 udest.weight
    flags := flags
    connFlags := (udest.connFlags ||| connFInactive).toInt16
    fwdmode := udest.fwdmode
    maxConn := if env.isMaster then udest.maxConn % env.slaveLcoreNum
      else udest.maxConn / env.slaveLcoreNum
    minConn := if env.isMaster then udest.minConn % env.slaveLcoreNum
      else udest.minConn / env.slaveLcoreNum }

/-- `dp_vs_dest_new` once `rte_zmalloc` has returned the zeroed object at `id`. -/
def dpVsDestNew (env : LcoreEnv) (id : Nat) (udest : DestConf) : Dest :=
  dpVsDestUpdate env
    { id := id, af := udest.af, addr := udest.addr, port := udest.port, flags := 0,
      connFlags := 0, weight := 0, refcnt := 1, fwdmode := udest.fwdmode, actconns := 0,
      inactconns := 0, persistconns := 0, maxConn := 0, minConn := 0 }
    udest

/-- The scheduler call at the end of every successful change; its code is dropped. -/
def callUpdateService {σ : Type} (sched : Scheduler σ) (dests : List Dest) (dest : Dest)
    (opt : SetOpt) (data : σ) : σ :=
  match sched.updateService with
  | some f => (f dests dest opt data).2
  | none => data

/-- The weight total after a change, with the recount the code falls back to when it
went negative. -/
def settleWeight (w : Int) (dests : List Dest) : Int :=
  if w < 0 then weightSum dests else w

/-- `dp_vs_dest_add`. `alloc` is what `rte_zmalloc` returned: the new object's address,
or nothing. The first guard compares an unsigned field with zero. -/
def dpVsDestAdd {σ : Type} (env : LcoreEnv) (sched : Scheduler σ) (alloc : Option Nat)
    (svc : Svc σ) (udest : DestConf) : Edpvs × Svc σ :=
  if (udest.weight.toNat : Int) < 0 then (.notsupp, svc)
  else if udest.minConn > udest.maxConn then (.notsupp, svc)
  else match dpVsDestLookup udest.af svc.dests udest.addr udest.port with
    | some _ => (.exist, svc)
    | none =>
      match alloc with
      | none => (.nomem, svc)
      | some id =>
        let dest := dpVsDestNew env id udest
        let dests := dest :: svc.dests
        (.ok, { dests := dests, numDests := svc.numDests + 1,
                weight := svc.weight + udest.weight.toNat,
                schedData := callUpdateService sched dests dest .adddest svc.schedData })

/-- `dp_vs_dest_edit`. -/
def dpVsDestEdit {σ : Type} (env : LcoreEnv) (sched : Scheduler σ) (svc : Svc σ)
    (udest : DestConf) : Edpvs × Svc σ :=
  if udest.minConn > udest.maxConn then (.inval, svc)
  else match dpVsDestLookup udest.af svc.dests udest.addr udest.port with
    | none => (.notexist, svc)
    | some dest =>
      let oldWeight := atomic16ToUInt32 dest.weight
      let dest' := dpVsDestUpdate env dest udest
      let dests := FirstMatch.update (destMatches udest.af udest.addr udest.port)
        (fun d => dpVsDestUpdate env d udest) svc.dests
      (.ok, { dests := dests, numDests := svc.numDests,
              weight := settleWeight (svc.weight - oldWeight + udest.weight.toNat) dests,
              schedData := callUpdateService sched dests dest' .editdest svc.schedData })

/-- What `dp_vs_dest_edit_health` changes: the weight and the inhibited bit. -/
def editHealth (udest : DestConf) (dest : Dest) : Dest :=
  { dest with weight := weightToAtomic16 udest.weight, flags := setInhibited udest dest.flags }

/-- `dp_vs_dest_edit_health`. -/
def dpVsDestEditHealth {σ : Type} (sched : Scheduler σ) (svc : Svc σ) (udest : DestConf) :
    Edpvs × Svc σ :=
  match dpVsDestLookup udest.af svc.dests udest.addr udest.port with
  | none => (.notexist, svc)
  | some dest =>
    let oldWeight := atomic16ToUInt32 dest.weight
    let dests := FirstMatch.update (destMatches udest.af udest.addr udest.port)
      (editHealth udest) svc.dests
    (.ok, { dests := dests, numDests := svc.numDests,
            weight := settleWeight (svc.weight - oldWeight + udest.weight.toNat) dests,
            schedData := callUpdateService sched dests (editHealth udest dest) .editdest
              svc.schedData })

/-- `dp_vs_dest_unlink` of the destination `dest`, found by `test` (its `list_del`
unlinks exactly that node, the first one `test` passes). -/
def dpVsDestUnlink {σ : Type} (sched : Scheduler σ) (svc : Svc σ) (test : Dest → Bool)
    (dest : Dest) (svcupd : Bool) : Svc σ :=
  let dests := svc.dests.eraseP test
  let dest' := { dest with flags := dest.flags &&& ~~~destFAvailable }
  { dests := dests, numDests := svc.numDests - 1,
    weight := settleWeight (svc.weight - dest.weight.toInt) dests,
    schedData := if svcupd then callUpdateService sched dests dest' .deldest svc.schedData
      else svc.schedData }

/-- `dp_vs_dest_del`: unlink, then `dp_vs_dest_put` drops the list's reference to an object
that no list reaches any more. -/
def dpVsDestDel {σ : Type} (sched : Scheduler σ) (svc : Svc σ) (udest : DestConf) :
    Edpvs × Svc σ :=
  match dpVsDestLookup udest.af svc.dests udest.addr udest.port with
  | none => (.notexist, svc)
  | some dest =>
    (.ok, dpVsDestUnlink sched svc (destMatches udest.af udest.addr udest.port) dest true)

/-! ## Field lemmas -/

/-- The identity `dp_vs_dest_lookup` compares: family, address, port. -/
def Dest.key (d : Dest) : Int × InetAddr × UInt16 := (d.af, d.addr, d.port)

/-- `destMatches` on the key alone. -/
def keyMatches (k k' : Int × InetAddr × UInt16) : Bool :=
  k'.1 == k.1 && inetAddrEqual k.1 k'.2.1 k.2.1 && k'.2.2 == k.2.2

theorem destMatches_eq_keyMatches (af : Int) (addr : InetAddr) (port : UInt16) (d : Dest) :
    destMatches af addr port d = keyMatches (af, addr, port) d.key := rfl

@[simp] theorem dpVsDestUpdate_key (env : LcoreEnv) (d : Dest) (udest : DestConf) :
    (dpVsDestUpdate env d udest).key = d.key := rfl

@[simp] theorem dpVsDestUpdate_weight (env : LcoreEnv) (d : Dest) (udest : DestConf) :
    (dpVsDestUpdate env d udest).weight = weightToAtomic16 udest.weight := rfl

@[simp] theorem editHealth_key (udest : DestConf) (d : Dest) : (editHealth udest d).key = d.key :=
  rfl

@[simp] theorem editHealth_weight (udest : DestConf) (d : Dest) :
    (editHealth udest d).weight = weightToAtomic16 udest.weight := rfl

@[simp] theorem dpVsDestNew_key (env : LcoreEnv) (id : Nat) (udest : DestConf) :
    (dpVsDestNew env id udest).key = (udest.af, udest.addr, udest.port) := rfl

@[simp] theorem dpVsDestNew_weight (env : LcoreEnv) (id : Nat) (udest : DestConf) :
    (dpVsDestNew env id udest).weight = weightToAtomic16 udest.weight := rfl

/-- A weight below `2^15` survives the cut to sixteen bits. -/
theorem weightToAtomic16_toInt {w : UInt32} (h : w.toNat < 32768) :
    (weightToAtomic16 w).toInt = w.toNat := by
  have hw : w.toUInt16 = UInt16.ofNat w.toNat := by
    apply UInt16.toNat.inj
    simp [UInt32.toNat_toUInt16]
  rw [weightToAtomic16, hw, UInt16.toInt16_ofNat', Int16.toInt_ofNat_of_lt (by omega)]

/-- A weight that reads non-negative comes back unchanged as a `uint32_t`. -/
theorem atomic16ToUInt32_of_nonneg {w : Int16} (h : 0 ≤ w.toInt) :
    atomic16ToUInt32 w = w.toInt := by
  have := w.toInt_lt
  unfold atomic16ToUInt32
  omega

/-! ## What each call does

One lemma per call says everything the call can do, its guards included; the
invariants below are proved from these and never unfold the calls again. -/

section Cases

variable {σ : Type} {env : LcoreEnv} {sched : Scheduler σ} {svc svc' : Svc σ}
  {udest : DestConf} {rc : Edpvs}

theorem dpVsDestAdd_cases {alloc : Option Nat} (h : dpVsDestAdd env sched alloc svc udest = (rc, svc')) :
    (rc ≠ .ok ∧ svc' = svc) ∨
      (rc = .ok ∧ dpVsDestLookup udest.af svc.dests udest.addr udest.port = none ∧
        ∃ id, alloc = some id ∧ svc'.dests = dpVsDestNew env id udest :: svc.dests ∧
          svc'.numDests = svc.numDests + 1 ∧ svc'.weight = svc.weight + udest.weight.toNat) := by
  unfold dpVsDestAdd at h
  split at h
  · exact .inl ⟨by cases h; simp, by cases h; rfl⟩
  split at h
  · exact .inl ⟨by cases h; simp, by cases h; rfl⟩
  split at h
  · exact .inl ⟨by cases h; simp, by cases h; rfl⟩
  · rename_i hlookup
    split at h
    · exact .inl ⟨by cases h; simp, by cases h; rfl⟩
    · rename_i id
      cases h
      exact .inr ⟨rfl, hlookup, id, rfl, rfl, rfl, rfl⟩

theorem dpVsDestEdit_cases (h : dpVsDestEdit env sched svc udest = (rc, svc')) :
    (rc ≠ .ok ∧ svc' = svc) ∨
      (rc = .ok ∧ ∃ dest, dpVsDestLookup udest.af svc.dests udest.addr udest.port = some dest ∧
        svc'.dests = FirstMatch.update (destMatches udest.af udest.addr udest.port)
          (fun d => dpVsDestUpdate env d udest) svc.dests ∧
        svc'.numDests = svc.numDests ∧
        svc'.weight = settleWeight (svc.weight - atomic16ToUInt32 dest.weight + udest.weight.toNat)
          svc'.dests) := by
  unfold dpVsDestEdit at h
  split at h
  · exact .inl ⟨by cases h; simp, by cases h; rfl⟩
  split at h
  · exact .inl ⟨by cases h; simp, by cases h; rfl⟩
  · rename_i dest hlookup
    cases h
    exact .inr ⟨rfl, dest, hlookup, rfl, rfl, rfl⟩

theorem dpVsDestEditHealth_cases (h : dpVsDestEditHealth sched svc udest = (rc, svc')) :
    (rc ≠ .ok ∧ svc' = svc) ∨
      (rc = .ok ∧ ∃ dest, dpVsDestLookup udest.af svc.dests udest.addr udest.port = some dest ∧
        svc'.dests = FirstMatch.update (destMatches udest.af udest.addr udest.port)
          (editHealth udest) svc.dests ∧
        svc'.numDests = svc.numDests ∧
        svc'.weight = settleWeight (svc.weight - atomic16ToUInt32 dest.weight + udest.weight.toNat)
          svc'.dests) := by
  unfold dpVsDestEditHealth at h
  split at h
  · exact .inl ⟨by cases h; simp, by cases h; rfl⟩
  · rename_i dest hlookup
    cases h
    exact .inr ⟨rfl, dest, hlookup, rfl, rfl, rfl⟩

theorem dpVsDestDel_cases (h : dpVsDestDel sched svc udest = (rc, svc')) :
    (rc ≠ .ok ∧ svc' = svc) ∨
      (rc = .ok ∧ ∃ dest, dpVsDestLookup udest.af svc.dests udest.addr udest.port = some dest ∧
        svc'.dests = svc.dests.eraseP (destMatches udest.af udest.addr udest.port) ∧
        svc'.numDests = svc.numDests - 1 ∧
        svc'.weight = settleWeight (svc.weight - dest.weight.toInt) svc'.dests) := by
  unfold dpVsDestDel at h
  split at h
  · exact .inl ⟨by cases h; simp, by cases h; rfl⟩
  · rename_i dest hlookup
    cases h
    exact .inr ⟨rfl, dest, hlookup, rfl, rfl, rfl⟩

end Cases

/-! ## The destination store

`DestStore` is what the list and its count promise together: the count is the
list's length, and no two destinations answer to one lookup. `WeightTotal` is the
documented meaning of `svc->weight`. -/

/-- `svc->num_dests` counts `svc->dests`, and `dp_vs_dest_lookup` can tell every two
destinations of the list apart. -/
structure DestStore (dests : List Dest) (numDests : Nat) : Prop where
  count : numDests = dests.length
  unique : (dests.map Dest.key).Pairwise fun k k' => keyMatches k k' = false

/-- `svc->weight` is the sum of the weights on the list, and every one of them reads
non-negative. -/
structure WeightTotal (dests : List Dest) (weight : Int) : Prop where
  total : weight = weightSum dests
  nonneg : ∀ d ∈ dests, 0 ≤ d.weight.toInt

theorem not_destMatches_of_lookup_none {af : Int} {addr : InetAddr} {port : UInt16}
    {dests : List Dest} (h : dpVsDestLookup af dests addr port = none) :
    ∀ d ∈ dests, destMatches af addr port d = false := by
  intro d hd
  simpa using List.find?_eq_none.mp h d hd

theorem DestStore.add {dests : List Dest} {n : Nat} (store : DestStore dests n) {d : Dest}
    (fresh : ∀ b ∈ dests, destMatches d.af d.addr d.port b = false) :
    DestStore (d :: dests) (n + 1) := by
  refine ⟨by simp [store.count], ?_⟩
  rw [List.map_cons, List.pairwise_cons]
  refine ⟨?_, store.unique⟩
  intro k hk
  obtain ⟨b, hb, rfl⟩ := List.mem_map.mp hk
  exact fresh b hb

theorem DestStore.update {dests : List Dest} {n : Nat} (store : DestStore dests n)
    (p : Dest → Bool) (f : Dest → Dest) (hf : ∀ d, (f d).key = d.key) :
    DestStore (FirstMatch.update p f dests) n := by
  have keys := FirstMatch.map_update (p := p) f Dest.key hf dests
  refine ⟨?_, ?_⟩
  · have lengths := congrArg List.length keys
    simp only [List.length_map] at lengths
    rw [store.count, lengths]
  · rw [keys]
    exact store.unique

theorem DestStore.erase {dests : List Dest} {n : Nat} (store : DestStore dests n)
    {p : Dest → Bool} {d : Dest} (found : dests.find? p = some d) :
    DestStore (dests.eraseP p) (n - 1) := by
  obtain ⟨l₁, l₂, rfl, before, hd⟩ := FirstMatch.split_of_find? found
  have erased : (l₁ ++ d :: l₂).eraseP p = l₁ ++ l₂ := FirstMatch.eraseP_split before hd
  refine ⟨?_, ?_⟩
  · rw [erased, store.count]
    simp
  · exact store.unique.sublist (List.eraseP_sublist.map _)

/-- The recount the code falls back to gives back a total that was already right. -/
theorem settleWeight_of_eq {w : Int} {dests : List Dest} (h : w = weightSum dests) :
    settleWeight w dests = w := by
  unfold settleWeight
  split <;> simp [h]

theorem weightSum_cons (d : Dest) (dests : List Dest) :
    weightSum (d :: dests) = d.weight.toInt + weightSum dests := by
  simp [weightSum]

theorem weightSum_split (l₁ l₂ : List Dest) (d : Dest) :
    weightSum (l₁ ++ d :: l₂) = d.weight.toInt + weightSum (l₁ ++ l₂) :=
  FirstMatch.sum_split _ l₁ l₂ d

theorem WeightTotal.add {dests : List Dest} {w : Int} (total : WeightTotal dests w) {d : Dest}
    {uw : UInt32} (small : uw.toNat < 32768) (hd : d.weight = weightToAtomic16 uw) :
    WeightTotal (d :: dests) (w + uw.toNat) := by
  have hdw : d.weight.toInt = uw.toNat := by rw [hd, weightToAtomic16_toInt small]
  refine ⟨?_, ?_⟩
  · rw [weightSum_cons, hdw, total.total, add_comm]
  · intro b hb
    rcases List.mem_cons.mp hb with rfl | hb
    · rw [hdw]
      exact Int.natCast_nonneg _
    · exact total.nonneg b hb

/-- The in-place weight change of `dp_vs_dest_edit` and `dp_vs_dest_edit_health`:
the total moves by the new weight less the old one, read back as a `uint32_t`. -/
theorem WeightTotal.update {dests : List Dest} {w : Int} (total : WeightTotal dests w)
    {p : Dest → Bool} {f : Dest → Dest} {d : Dest} (found : dests.find? p = some d)
    {uw : UInt32} (small : uw.toNat < 32768) (hf : ∀ x, (f x).weight = weightToAtomic16 uw) :
    WeightTotal (FirstMatch.update p f dests)
      (settleWeight (w - atomic16ToUInt32 d.weight + uw.toNat)
        (FirstMatch.update p f dests)) := by
  obtain ⟨l₁, l₂, rfl, before, hd⟩ := FirstMatch.split_of_find? found
  have hfw : ∀ x, (f x).weight.toInt = uw.toNat := fun x => by
    rw [hf x, weightToAtomic16_toInt small]
  have old : atomic16ToUInt32 d.weight = d.weight.toInt :=
    atomic16ToUInt32_of_nonneg (total.nonneg d (by simp))
  rw [FirstMatch.update_split f before hd]
  have sum : w - atomic16ToUInt32 d.weight + uw.toNat = weightSum (l₁ ++ f d :: l₂) := by
    rw [weightSum_split, hfw, old, total.total, weightSum_split]
    omega
  refine ⟨by rw [settleWeight_of_eq sum, sum], ?_⟩
  intro b hb
  rcases List.mem_append.mp hb with hb | hb
  · exact total.nonneg b (by simp [hb])
  rcases List.mem_cons.mp hb with rfl | hb
  · rw [hfw]
    exact Int.natCast_nonneg _
  · exact total.nonneg b (by simp [hb])

theorem WeightTotal.erase {dests : List Dest} {w : Int} (total : WeightTotal dests w)
    {p : Dest → Bool} {d : Dest} (found : dests.find? p = some d) :
    WeightTotal (dests.eraseP p) (settleWeight (w - d.weight.toInt) (dests.eraseP p)) := by
  obtain ⟨l₁, l₂, rfl, before, hd⟩ := FirstMatch.split_of_find? found
  rw [FirstMatch.eraseP_split before hd]
  have sum : w - d.weight.toInt = weightSum (l₁ ++ l₂) := by
    rw [total.total, weightSum_split]
    omega
  refine ⟨by rw [settleWeight_of_eq sum, sum], ?_⟩
  intro b hb
  exact total.nonneg b (by
    rcases List.mem_append.mp hb with hb | hb <;> simp [hb])

/-! ## Every run of the four calls -/

section Runs

variable {σ : Type}

/-- The services that a run of `dp_vs_dest_add`, `dp_vs_dest_edit`,
`dp_vs_dest_edit_health` and `dp_vs_dest_del` reaches from one without destinations,
every call given a `dp_vs_dest_conf` that `accepted` allows. -/
inductive DestReachable (env : LcoreEnv) (sched : Scheduler σ) (accepted : DestConf → Prop) :
    Svc σ → Prop where
  | init (data : σ) : DestReachable env sched accepted ⟨[], 0, 0, data⟩
  | add {svc : Svc σ} (alloc : Option Nat) (udest : DestConf) :
      DestReachable env sched accepted svc → accepted udest →
      DestReachable env sched accepted (dpVsDestAdd env sched alloc svc udest).2
  | edit {svc : Svc σ} (udest : DestConf) :
      DestReachable env sched accepted svc → accepted udest →
      DestReachable env sched accepted (dpVsDestEdit env sched svc udest).2
  | editHealth {svc : Svc σ} (udest : DestConf) :
      DestReachable env sched accepted svc → accepted udest →
      DestReachable env sched accepted (dpVsDestEditHealth sched svc udest).2
  | del {svc : Svc σ} (udest : DestConf) :
      DestReachable env sched accepted svc → accepted udest →
      DestReachable env sched accepted (dpVsDestDel sched svc udest).2

variable {env : LcoreEnv} {sched : Scheduler σ} {accepted : DestConf → Prop}

/-- Along every run, whatever the inputs, `svc->num_dests` is the length of
`svc->dests` and no two destinations of the list answer to one lookup. -/
theorem DestReachable.destStore {svc : Svc σ} (reach : DestReachable env sched accepted svc) :
    DestStore svc.dests svc.numDests := by
  induction reach with
  | init data => exact ⟨rfl, List.Pairwise.nil⟩
  | @add svc alloc udest _ _ ih =>
    generalize hr : dpVsDestAdd env sched alloc svc udest = r
    obtain ⟨rc, svc'⟩ := r
    rcases dpVsDestAdd_cases hr with ⟨-, rfl⟩ | ⟨-, fresh, id, -, hd, hn, -⟩
    · exact ih
    · dsimp only
      rw [hd, hn]
      exact ih.add (not_destMatches_of_lookup_none fresh)
  | @edit svc udest _ _ ih =>
    generalize hr : dpVsDestEdit env sched svc udest = r
    obtain ⟨rc, svc'⟩ := r
    rcases dpVsDestEdit_cases hr with ⟨-, rfl⟩ | ⟨-, _, -, hd, hn, -⟩
    · exact ih
    · dsimp only
      rw [hd, hn]
      exact ih.update _ _ fun d => dpVsDestUpdate_key env d udest
  | @editHealth svc udest _ _ ih =>
    generalize hr : dpVsDestEditHealth sched svc udest = r
    obtain ⟨rc, svc'⟩ := r
    rcases dpVsDestEditHealth_cases hr with ⟨-, rfl⟩ | ⟨-, _, -, hd, hn, -⟩
    · exact ih
    · dsimp only
      rw [hd, hn]
      exact ih.update _ _ (editHealth_key udest)
  | @del svc udest _ _ ih =>
    generalize hr : dpVsDestDel sched svc udest = r
    obtain ⟨rc, svc'⟩ := r
    rcases dpVsDestDel_cases hr with ⟨-, rfl⟩ | ⟨-, _, found, hd, hn, -⟩
    · exact ih
    · dsimp only
      rw [hd, hn]
      exact ih.erase found

/-- The IPv4 destination `10.0.0.2`, port 80, weight 100, for the runs below. -/
def sampleDest : DestConf :=
  { af := afInet, port := 80, weight := 100, addr := InetAddr.ofV4 0x0200000a,
    connFlags := 0, flags := 0, fwdmode := 5, maxConn := 0, minConn := 0 }

theorem destStore_after_add :
    DestStore (dpVsDestAdd ⟨false, 1⟩ (⟨none⟩ : Scheduler Unit) (some 1) ⟨[], 0, 0, ()⟩
        sampleDest).2.dests
      (dpVsDestAdd ⟨false, 1⟩ (⟨none⟩ : Scheduler Unit) (some 1) ⟨[], 0, 0, ()⟩
        sampleDest).2.numDests :=
  @DestReachable.destStore Unit ⟨false, 1⟩ ⟨none⟩ (fun _ => True) _
    (.add (some 1) sampleDest (.init ()) trivial)

/-- Along every run whose weights stay below `2^15`, `svc->weight` is the sum of the
destinations' weights, as documented. -/
theorem DestReachable.weightTotal {svc : Svc σ}
    (reach : DestReachable env sched (fun udest => udest.weight.toNat < 32768) svc) :
    WeightTotal svc.dests svc.weight := by
  induction reach with
  | init data => exact ⟨rfl, by simp⟩
  | @add svc alloc udest _ small ih =>
    generalize hr : dpVsDestAdd env sched alloc svc udest = r
    obtain ⟨rc, svc'⟩ := r
    rcases dpVsDestAdd_cases hr with ⟨-, rfl⟩ | ⟨-, -, id, -, hd, -, hw⟩
    · exact ih
    · dsimp only
      rw [hd, hw]
      exact ih.add small (dpVsDestNew_weight env id udest)
  | @edit svc udest _ small ih =>
    generalize hr : dpVsDestEdit env sched svc udest = r
    obtain ⟨rc, svc'⟩ := r
    rcases dpVsDestEdit_cases hr with ⟨-, rfl⟩ | ⟨-, d, found, hd, -, hw⟩
    · exact ih
    · dsimp only
      rw [hw, hd]
      exact ih.update found small fun x => dpVsDestUpdate_weight env x udest
  | @editHealth svc udest _ small ih =>
    generalize hr : dpVsDestEditHealth sched svc udest = r
    obtain ⟨rc, svc'⟩ := r
    rcases dpVsDestEditHealth_cases hr with ⟨-, rfl⟩ | ⟨-, d, found, hd, -, hw⟩
    · exact ih
    · dsimp only
      rw [hw, hd]
      exact ih.update found small (editHealth_weight udest)
  | @del svc udest _ _ ih =>
    generalize hr : dpVsDestDel sched svc udest = r
    obtain ⟨rc, svc'⟩ := r
    rcases dpVsDestDel_cases hr with ⟨-, rfl⟩ | ⟨-, d, found, hd, -, hw⟩
    · exact ih
    · dsimp only
      rw [hw, hd]
      exact ih.erase found

theorem weightTotal_after_add :
    WeightTotal (dpVsDestAdd ⟨false, 1⟩ (⟨none⟩ : Scheduler Unit) (some 1) ⟨[], 0, 0, ()⟩
        sampleDest).2.dests
      (dpVsDestAdd ⟨false, 1⟩ (⟨none⟩ : Scheduler Unit) (some 1) ⟨[], 0, 0, ()⟩
        sampleDest).2.weight :=
  DestReachable.weightTotal (.add (some 1) sampleDest (.init ()) (by decide))

end Runs

/-! ## A weight of `2^15` or more

`ipvsadm` accepts weights up to 65535 and hands them over in the `uint32_t`; the
guard `udest->weight < 0` of `dp_vs_dest_add` can never hold for it. A weight of
`2^15` or more is added to `svc->weight` in full and stored in the destination
cut to sixteen signed bits, and `dp_vs_dest_unlink` later takes back the cut
value. -/

/-- The IPv4 destination `10.0.0.1`, port 80, with weight 40000. -/
def heavyDest : DestConf :=
  { af := afInet, port := 80, weight := 40000, addr := InetAddr.ofV4 0x0100000a,
    connFlags := 0, flags := 0, fwdmode := 5, maxConn := 0, minConn := 0 }

/-- Added to a service without destinations, the weight total says 40000 while the
destination's weight reads -25536; deleted again, it leaves a total of 65536 over an
empty list. -/
theorem dest_weight_total_drifts :
    let added : Edpvs × Svc Unit := dpVsDestAdd ⟨false, 1⟩ ⟨none⟩ (some 1)
      ⟨[], 0, 0, ()⟩ heavyDest
    let deleted : Edpvs × Svc Unit := dpVsDestDel (⟨none⟩ : Scheduler Unit) added.2 heavyDest
    added.1 = .ok ∧ added.2.weight = 40000 ∧ weightSum added.2.dests = -25536 ∧
      deleted.1 = .ok ∧ deleted.2.dests = [] ∧ deleted.2.weight = 65536 := by
  decide

end Dpvs
