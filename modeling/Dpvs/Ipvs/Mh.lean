import Dpvs.Ipvs.Dest
import Dpvs.SaPool.Pool
import Dpvs.Lib.ModProbe
import Dpvs.Lib.RoundRobin

/-!
# The Maglev lookup table

`src/ipvs/ip_vs_mh.c` schedules by a table of `DP_VS_MH_TAB_SIZE` slots, a prime, each
pointing at a destination. `dp_vs_mh_reassign` rebuilds it whenever the destinations
change: `dp_vs_mh_permutate` gives every destination a starting slot `offset`, a stride
`skip` in `[1, P - 1]` and its `turns`, its weight over the common divisor of the
weights, and `dp_vs_mh_populate` deals the slots out in rounds. In a round every
destination with positive turns takes that many slots, each the first free one of its
own walk `offset, offset + skip, …` modulo the table size; the rounds go on until every
slot is taken. A slot whose destination changes moves one reference from the old
destination to the new one.

The bitmap `table` is the set of taken slots. The lookup table gives each slot the
address of its destination (`NULL` is `none`), and `refcnt` the reference count of
every destination by address: a slot may still point at a destination that has left
the list. `hsiphash` is left open, and `svc->num_dests` is read as the length of
`svc->dests`.
-/

namespace Dpvs

/-! ## Data -/

/-- `primes[]`, the table sizes MH can be built with. -/
def primes : List Nat := [251, 509, 1021, 2039, 4093, 8191, 16381, 32749, 65521, 131071]

/-- `CONFIG_DP_VS_MH_TAB_INDEX`, at its default. -/
def configDpVsMhTabIndex : Nat := 12

def dpVsMhTabBits : Int := configDpVsMhTabIndex / 2

def dpVsMhTabIndex : Nat := configDpVsMhTabIndex - 8

/-- `DP_VS_MH_TAB_SIZE`. -/
def dpVsMhTabSize : Nat := primes.getD dpVsMhTabIndex 0

/-- `hsiphash_key_t`. -/
structure HsiphashKey where
  key0 : UInt64
  key1 : UInt64
  deriving DecidableEq, Repr

/-- What the MH code calls out to: `hsiphash` of a 32-bit value under a key, and whether
`rte_calloc` returns memory. -/
structure MhEnv where
  hsiphash : UInt32 → HsiphashKey → UInt32
  memory : Bool

/-- `struct dp_vs_mh_dest_setup`. -/
structure MhDestSetup where
  offset : Nat
  skip : Nat
  perm : Nat
  turns : Int
  deriving DecidableEq, Repr

/-- `struct dp_vs_mh_state`. -/
structure MhState where
  lookup : Nat → Option Nat
  destSetup : List MhDestSetup
  hash1 : HsiphashKey
  hash2 : HsiphashKey
  gcd : Int
  rshift : Nat

/-- What `dp_vs_mh_populate` works on: its bitmap, the state's lookup table and dest
setup, the reference counts, and its counters `n` and `dt_count`. -/
structure MhPop where
  table : Finset Nat
  lookup : Nat → Option Nat
  setup : List MhDestSetup
  refcnt : Nat → Int
  n : Nat
  dtCount : Int

/-! ## The functions of `ip_vs_mh.c` -/

/-- `generate_hash_secret`. -/
def generateHashSecret : HsiphashKey × HsiphashKey :=
  (⟨2654435761, 2654435761⟩, ⟨2654446892, 2654446892⟩)

/-- `dp_vs_mh_hashkey`. -/
def dpVsMhHashkey (env : MhEnv) (af : Int) (addr : InetAddr) (port : UInt16)
    (key : HsiphashKey) (offset : UInt32) : UInt32 :=
  env.hsiphash (offset + (Sa.ntohs port).toUInt32 + beToCpu32 (inetAddrFold af addr)) key

/-- `dp_vs_dest_put` of a slot's destination, if it has one; freeing the destination
when the count reaches zero is not modelled. -/
def dpVsDestPut (refcnt : Nat → Int) : Option Nat → Nat → Int
  | none => refcnt
  | some dest => Function.update refcnt dest (refcnt dest - 1)

/-- `dp_vs_mh_reset`: every slot let go of its destination. -/
def dpVsMhReset (s : MhState) (refcnt : Nat → Int) : MhState × (Nat → Int) :=
  (List.range dpVsMhTabSize).foldl (fun acc i =>
    match acc.1.lookup i with
    | some dest =>
      ({ acc.1 with lookup := Function.update acc.1.lookup i none }, dpVsDestPut acc.2 (some dest))
    | none => acc) (s, refcnt)

/-- `ds->turns`: the weight over the common divisor, shifted right by `rshift`, and 1 for
a non-zero weight that this leaves at 0 (the `?:`). -/
def dpVsMhTurns (gcd : Int) (rshift : Nat) (lw : Int) : Int :=
  let turns := lw.tdiv gcd >>> rshift
  if turns ≠ 0 then turns else if lw ≠ 0 then 1 else 0

/-- The entry `dp_vs_mh_permutate` writes for one destination. -/
def mhDestSetup (env : MhEnv) (s : MhState) (af : Int) (dest : Dest) : MhDestSetup :=
  let offset := (dpVsMhHashkey env af dest.addr dest.port s.hash1 0).toNat % dpVsMhTabSize
  { offset := offset
    skip := (dpVsMhHashkey env af dest.addr dest.port s.hash2 0).toNat % (dpVsMhTabSize - 1) + 1
    perm := offset
    turns := dpVsMhTurns s.gcd s.rshift dest.weight.toInt }

/-- `dp_vs_mh_permutate`: nothing to do when no weight is positive. -/
def dpVsMhPermutate (env : MhEnv) (s : MhState) (af : Int) (dests : List Dest) : MhState :=
  if s.gcd < 1 then s else { s with destSetup := dests.map (mhDestSetup env s af) }

/-- The probe of `dp_vs_mh_populate`: from `ds->perm`, add `ds->skip` modulo the table
size while the slot is taken. The C loop has no bound; its walk comes back to its start
after `DP_VS_MH_TAB_SIZE` steps, so a walk that finds no free slot in that many never
does, and `none` stands for that. -/
def mhProbe (table : Finset Nat) (ds : MhDestSetup) : Option Nat :=
  ModProbe.probe (fun c => decide (c ∈ table)) (ModProbe.stepWrap dpVsMhTabSize ds.skip)
    dpVsMhTabSize ds.perm

/-- The body of the inner loop for the destination `dest` at position `i`: probe, take
the slot, and point it at `dest`, moving a reference if it pointed elsewhere. -/
def mhClaim (dest : Dest) (i : Nat) (ds : MhDestSetup) (st : MhPop) : Option MhPop := do
  let c ← mhProbe st.table ds
  let st := { st with table := insert c st.table, setup := st.setup.set i { ds with perm := c } }
  let old := st.lookup c
  if old ≠ some dest.id then
    let refcnt := dpVsDestPut st.refcnt old
    pure { st with
      refcnt := Function.update refcnt dest.id (refcnt dest.id + 1)
      lookup := Function.update st.lookup c (some dest.id) }
  else pure st

/-- The inner `while (p != &svc->dests)` loop from position `i`, for at most `fuel`
iterations; `true` is the `goto out` once the last slot is taken. -/
def mhRound (dests : List Dest) : Nat → Nat → MhPop → Option (MhPop × Bool)
  | 0, _, _ => none
  | fuel + 1, i, st =>
    if h : i < dests.length then
      match st.setup[i]? with
      | none => none
      | some ds =>
        -- a destination of zero weight is passed over
        if ds.turns < 1 then mhRound dests fuel (i + 1) st
        else match mhClaim dests[i] i ds st with
          | none => none
          | some st =>
            let st := { st with n := st.n + 1 }
            if st.n = dpVsMhTabSize then some (st, true)
            else if st.dtCount + 1 ≥ ds.turns then
              mhRound dests fuel (i + 1) { st with dtCount := 0 }
            else mhRound dests fuel i { st with dtCount := st.dtCount + 1 }
    else some (st, false)

/-- The outer `while (n < DP_VS_MH_TAB_SIZE)` loop, for at most `fuel` rounds, each from
the first destination. A round looks at every destination once and takes at most every
slot, which bounds its iterations. -/
def mhRounds (dests : List Dest) : Nat → MhPop → Option MhPop
  | 0, _ => none
  | fuel + 1, st =>
    if st.n < dpVsMhTabSize then
      match mhRound dests (dests.length + dpVsMhTabSize + 1) 0 st with
      | none => none
      | some (st, true) => some st
      | some (st, false) => mhRounds dests fuel st
    else some st

/-- `dp_vs_mh_populate`. Every round that gets anywhere takes a slot, so the table is full
after `DP_VS_MH_TAB_SIZE` rounds. -/
def dpVsMhPopulate (env : MhEnv) (s : MhState) (dests : List Dest) (refcnt : Nat → Int) :
    Option (Edpvs × MhState × (Nat → Int)) :=
  if s.gcd < 1 then
    let reset := dpVsMhReset s refcnt
    some (.ok, reset.1, reset.2)
  else if env.memory = false then some (.nomem, s, refcnt)
  else do
    let st ← mhRounds dests (dpVsMhTabSize + 1) ⟨∅, s.lookup, s.destSetup, refcnt, 0, 0⟩
    pure (.ok, { s with lookup := st.lookup, destSetup := st.setup }, st.refcnt)

/-- `dp_vs_mh_reassign`: a fresh zeroed dest setup, the permutation, the population, and
the dest setup freed again. -/
def dpVsMhReassign (env : MhEnv) (s : MhState) (af : Int) (dests : List Dest)
    (refcnt : Nat → Int) : Option (Edpvs × MhState × (Nat → Int)) :=
  if dests.length > dpVsMhTabSize then some (.inval, s, refcnt)
  else if 1 ≤ dests.length ∧ env.memory = false then some (.nomem, s, refcnt)
  else do
    let s := if 1 ≤ dests.length then
      { s with destSetup := List.replicate dests.length ⟨0, 0, 0, 0⟩ } else s
    let (ret, s, refcnt) ← dpVsMhPopulate env (dpVsMhPermutate env s af dests) dests refcnt
    pure (ret, if 1 ≤ dests.length then { s with destSetup := [] } else s, refcnt)

/-- `dp_vs_mh_gcd_weight`; `gcd` of `kcompat.c` is the binary algorithm, and the model
takes the divisor it computes. -/
def dpVsMhGcdWeight (dests : List Dest) : Int :=
  dests.foldl (fun g dest =>
    let weight := dest.weight.toInt
    if weight > 0 then (if g > 0 then (Nat.gcd weight.toNat g.toNat : Int) else weight)
    else g) 0

/-- `fls` of `kcompat.c`: `x ? 32 - __builtin_clz(x) : 0`, one more than the position of
the highest set bit. -/
def fls (x : UInt32) : Int := if x = 0 then 0 else 32 - (x.toBitVec.clz.toNat : Int)

/-- `dp_vs_mh_shift_weight`: how far to shift the turns so that the largest fits in
`DP_VS_MH_TAB_BITS` bits. -/
def dpVsMhShiftWeight (dests : List Dest) (gcd : Int) : Nat :=
  if gcd < 1 then 0
  else
    let weight := dests.foldl (fun weight dest =>
      if dest.weight.toInt > weight then dest.weight.toInt else weight) 0
    let mw := weight.tdiv gcd
    let shift := fls (UInt32.ofNat mw.toNat) - dpVsMhTabBits
    if shift ≥ 0 then shift.toNat else 0

/-- `dp_vs_mh_dest_changed`, the scheduler's `update_service`. -/
def dpVsMhDestChanged (env : MhEnv) (s : MhState) (af : Int) (dests : List Dest)
    (refcnt : Nat → Int) : Option (Edpvs × MhState × (Nat → Int)) :=
  let gcd := dpVsMhGcdWeight dests
  dpVsMhReassign env { s with gcd := gcd, rshift := dpVsMhShiftWeight dests gcd } af dests
    refcnt

/-- The state `dp_vs_mh_init_svc` allocates: a zeroed lookup table, the hash secrets, and
the divisor and shift of the weights. -/
def mhFreshState (dests : List Dest) : MhState :=
  let gcd := dpVsMhGcdWeight dests
  ⟨fun _ => none, [], generateHashSecret.1, generateHashSecret.2, gcd,
    dpVsMhShiftWeight dests gcd⟩

/-- `dp_vs_mh_init_svc`: the fresh state, filled by a first reassign; on failure the
table lets go of its destinations and the state is freed. -/
def dpVsMhInitSvc (env : MhEnv) (af : Int) (dests : List Dest) (refcnt : Nat → Int) :
    Option (Edpvs × Option MhState × (Nat → Int)) :=
  if env.memory = false then some (.nomem, none, refcnt)
  else
    match dpVsMhReassign env (mhFreshState dests) af dests refcnt with
    | none => none
    | some (.ok, s, refcnt) => some (.ok, some s, refcnt)
    | some (ret, s, refcnt) => some (ret, none, (dpVsMhReset s refcnt).2)

/-! ## One slot

A destination takes a slot in three steps: its walk finds a free slot, the slot is
marked taken, and the slot is pointed at it. Over the slots handed out so far, the
lookup table and the reference counts are then what `Filled` says. -/

theorem dpVsMhTabSize_eq : dpVsMhTabSize = 4093 := rfl

theorem dpVsMhTabSize_prime : dpVsMhTabSize.Prime := by
  rw [dpVsMhTabSize_eq]
  norm_num

/-- A dest setup entry the probe can walk from: a stride in `[1, P - 1]` and a slot. -/
structure SetupOk (ds : MhDestSetup) : Prop where
  skip_pos : 1 ≤ ds.skip
  skip_lt : ds.skip < dpVsMhTabSize
  perm_lt : ds.perm < dpVsMhTabSize

/-- While a slot is free, the probe stops, and at a free slot: the stride is invertible
modulo the prime table size, so the walk meets every slot. -/
theorem mhProbe_free {table : Finset Nat} {ds : MhDestSetup} (ok : SetupOk ds)
    (room : table.card < dpVsMhTabSize) :
    ∃ c, mhProbe table ds = some c ∧ c ∉ table ∧ c < dpVsMhTabSize := by
  obtain ⟨y, hy, free⟩ := Finset.exists_mem_notMem_of_card_lt_card
    (show table.card < (Finset.range dpVsMhTabSize).card by simpa using room)
  obtain ⟨k, hk, walk⟩ := ModProbe.exists_iterate_stepWrap_eq dpVsMhTabSize_prime ok.skip_pos
    ok.skip_lt ok.perm_lt (Finset.mem_range.mp hy)
  obtain ⟨c, probe⟩ : ∃ c, mhProbe table ds = some c :=
    ModProbe.probe_isSome ⟨k, hk, by simp [walk, free]⟩
  obtain ⟨notTaken, k', -, walk'⟩ := ModProbe.probe_eq_some probe
  refine ⟨c, probe, by simpa using notTaken, ?_⟩
  rw [← walk', ModProbe.iterate_stepWrap ok.perm_lt ok.skip_lt.le]
  exact Nat.mod_lt _ (by rw [dpVsMhTabSize_eq]; norm_num)

/-- What a claim does once the probe has found `c`: the slot is taken and points at
`dest`, and the counts move only if it pointed elsewhere. -/
theorem mhClaim_eq {dest : Dest} {i : Nat} {ds : MhDestSetup} {st : MhPop} {c : Nat}
    (probe : mhProbe st.table ds = some c) :
    mhClaim dest i ds st = some { st with
      table := insert c st.table
      setup := st.setup.set i { ds with perm := c }
      lookup := Function.update st.lookup c (some dest.id)
      refcnt := if st.lookup c = some dest.id then st.refcnt
        else Function.update (dpVsDestPut st.refcnt (st.lookup c)) dest.id
          (dpVsDestPut st.refcnt (st.lookup c) dest.id + 1) } := by
  by_cases same : st.lookup c = some dest.id
  · have keep : Function.update st.lookup c (some dest.id) = st.lookup :=
      Function.update_eq_self_iff.mpr same.symm
    simp [mhClaim, probe, same, keep]
  · simp [mhClaim, probe, same]

/-- The count of one destination after a claim, against the slot's old destination `old`
and the new one `e`. -/
theorem claimRefcnt_apply (refcnt : Nat → Int) (old : Option Nat) (e d : Nat) :
    (if old = some e then refcnt
      else Function.update (dpVsDestPut refcnt old) e (dpVsDestPut refcnt old e + 1)) d =
      refcnt d + (if e = d ∧ old ≠ some d then 1 else 0) -
        (if old = some d ∧ e ≠ d then 1 else 0) := by
  by_cases same : old = some e
  · subst same
    by_cases h : e = d <;> simp [h]
  · rw [if_neg same]
    cases old with
    | none => by_cases h : e = d <;> simp_all [dpVsDestPut, Function.update_apply, eq_comm]
    | some o =>
      by_cases h : e = d <;> by_cases h' : o = d <;>
        simp_all [dpVsDestPut, Function.update_apply] <;> omega

/-- Slots of `slots` pointing at `d`. -/
def ownedOn (slots : Finset Nat) (lookup : Nat → Option Nat) (d : Nat) : Nat :=
  (slots.filter fun c => lookup c = some d).card

/-- Slots of `slots` that point at `d` in `new` and did not in `old`. -/
def gainedOn (slots : Finset Nat) (old new : Nat → Option Nat) (d : Nat) : Nat :=
  (slots.filter fun c => new c = some d ∧ old c ≠ some d).card

/-- Slots of `slots` that pointed at `d` in `old` and do not in `new`. -/
def lostOn (slots : Finset Nat) (old new : Nat → Option Nat) (d : Nat) : Nat :=
  (slots.filter fun c => old c = some d ∧ new c ≠ some d).card

/-- Handing the free slot `c` a new value: a count over the taken slots grows by one
exactly when the new value of `c` is counted. -/
theorem card_filter_insert_update {s : Finset Nat} {c : Nat} (hc : c ∉ s)
    (f : Nat → Option Nat) (v : Option Nat) (q : Nat → Option Nat → Prop)
    [∀ x y, Decidable (q x y)] :
    ((insert c s).filter fun x => q x (Function.update f c v x)).card =
      (s.filter fun x => q x (f x)).card + if q c v then 1 else 0 := by
  have same : (s.filter fun x => q x (Function.update f c v x)) = s.filter fun x => q x (f x) :=
    Finset.filter_congr fun x hx => by rw [Function.update_of_ne (ne_of_mem_of_not_mem hx hc)]
  rw [Finset.filter_insert, Function.update_self, same]
  split
  · rw [Finset.card_insert_of_notMem (fun h => hc (Finset.mem_filter.mp h).1)]
  · rfl

section Filled

variable {dests : List Dest} {ts : List Int} {lookup0 : Nat → Option Nat}
  {refcnt0 : Nat → Int} {cs : List Nat} {st : MhPop}

/-- Populate has handed the slots of `table` to the destinations at the positions `cs`,
one slot per entry, starting from the lookup table `lookup0` and the counts `refcnt0`;
the dest setup keeps the turns `ts` and walkable entries. -/
structure Filled (dests : List Dest) (ts : List Int) (lookup0 : Nat → Option Nat)
    (refcnt0 : Nat → Int) (cs : List Nat) (st : MhPop) : Prop where
  sub : st.table ⊆ Finset.range dpVsMhTabSize
  card : st.table.card = cs.length
  untouched : ∀ c ∉ st.table, st.lookup c = lookup0 c
  claimed : ∀ c ∈ st.table, ∃ i ∈ cs, ∃ h : i < dests.length,
    st.lookup c = some dests[i].id
  owned : ∀ i (h : i < dests.length), ownedOn st.table st.lookup dests[i].id = cs.count i
  refcnt : ∀ d, st.refcnt d = refcnt0 d + gainedOn st.table lookup0 st.lookup d -
    lostOn st.table lookup0 st.lookup d
  setupOk : ∀ ds ∈ st.setup, SetupOk ds
  turns : st.setup.map MhDestSetup.turns = ts

/-- Nothing handed out yet. -/
theorem filled_init (setupOk : ∀ ds ∈ st.setup, SetupOk ds)
    (turns : st.setup.map MhDestSetup.turns = ts) (empty : st.table = ∅) :
    Filled dests ts st.lookup st.refcnt [] st where
  sub := by simp [empty]
  card := by simp [empty]
  untouched := fun _ _ => rfl
  claimed := by simp [empty]
  owned := by simp [ownedOn, empty]
  refcnt := by simp [gainedOn, lostOn]
  setupOk := setupOk
  turns := turns

/-- The entry of the dest setup at a position of the turns. -/
theorem Filled.setup_get (fill : Filled dests ts lookup0 refcnt0 cs st) {i : Nat}
    (hi : i < ts.length) : ∃ ds, st.setup[i]? = some ds ∧ ds.turns = ts.getD i 0 := by
  have len : i < st.setup.length := by simpa [← fill.turns] using hi
  refine ⟨st.setup[i], List.getElem?_eq_getElem len, ?_⟩
  simp [← fill.turns, List.getD_eq_getElem?_getD, len]

/-- One claim by the destination at position `i` hands it one more slot. -/
theorem Filled.claim (fill : Filled dests ts lookup0 refcnt0 cs st)
    (distinct : (dests.map Dest.id).Nodup) {i : Nat} (hi : i < dests.length) {ds : MhDestSetup}
    (get : st.setup[i]? = some ds) (room : cs.length < dpVsMhTabSize) :
    ∃ st', mhClaim dests[i] i ds st = some st' ∧
      Filled dests ts lookup0 refcnt0 (cs ++ [i]) st' ∧
      st'.n = st.n ∧ st'.dtCount = st.dtCount := by
  have ok : SetupOk ds := fill.setupOk ds (List.mem_of_getElem? get)
  obtain ⟨c, probe, free, lt⟩ := mhProbe_free ok (fill.card ▸ room)
  have old : st.lookup c = lookup0 c := fill.untouched c free
  -- the destination at `j` is the one at `i` only for `j = i`
  have sameDest : ∀ j (hj : j < dests.length), dests[i].id = dests[j].id ↔ i = j := by
    intro j hj
    constructor
    · intro same
      exact (List.Nodup.of_map Dest.id distinct).getElem_inj_iff.mp
        (List.inj_on_of_nodup_map distinct (List.getElem_mem hi) (List.getElem_mem hj) same)
    · rintro rfl
      rfl
  refine ⟨_, mhClaim_eq probe, ⟨?_, ?_, ?_, ?_, ?_, ?_, ?_, ?_⟩, rfl, rfl⟩ <;> dsimp only
  · exact Finset.insert_subset_iff.mpr ⟨Finset.mem_range.mpr lt, fill.sub⟩
  · rw [Finset.card_insert_of_notMem free, fill.card, List.length_append, List.length_singleton]
  · intro x hx
    rw [Finset.mem_insert, not_or] at hx
    rw [Function.update_of_ne hx.1]
    exact fill.untouched x hx.2
  · intro x hx
    rcases Finset.mem_insert.mp hx with rfl | hx
    · exact ⟨i, by simp, hi, Function.update_self ..⟩
    · obtain ⟨j, hj, hj', look⟩ := fill.claimed x hx
      refine ⟨j, List.mem_append_left _ hj, hj', ?_⟩
      rw [Function.update_of_ne (ne_of_mem_of_not_mem hx free)]
      exact look
  · intro j hj
    have step := card_filter_insert_update free st.lookup (some dests[i].id)
      (fun _ y => y = some dests[j].id)
    rw [ownedOn, step, ← ownedOn, fill.owned j hj, List.count_append, List.count_singleton]
    simp only [Option.some.injEq, sameDest j hj, beq_iff_eq]
  · intro d
    have gained := card_filter_insert_update free st.lookup (some dests[i].id)
      (fun x y => y = some d ∧ lookup0 x ≠ some d)
    have lost := card_filter_insert_update free st.lookup (some dests[i].id)
      (fun x y => lookup0 x = some d ∧ y ≠ some d)
    rw [claimRefcnt_apply, fill.refcnt d, gainedOn, gainedOn, lostOn, lostOn, gained, lost, old]
    -- the claim's own change to the count is the one the new slot adds to the difference
    by_cases mine : dests[i].id = d <;> by_cases held : lookup0 c = some d <;>
      simp [mine, held] <;> omega
  · intro ds' mem
    rcases List.mem_or_eq_of_mem_set mem with mem | rfl
    · exact fill.setupOk ds' mem
    · exact ⟨ok.skip_pos, ok.skip_lt, lt⟩
  · -- the entry written back keeps its turns
    have same : (st.setup.map MhDestSetup.turns)[i]? = some ds.turns := by simp [get]
    obtain ⟨len, entry⟩ := List.getElem?_eq_some_iff.mp same
    rw [← fill.turns, List.map_set, ← entry]
    exact List.set_getElem_self len

end Filled

/-! ## A round

A round serves the destinations in list order, each as often as its turns, those with
turns below one not at all: `roundClaims ts i` is that order for the turns `ts`, the
first of them at position `i`. From position `i` with `dt_count` of its turns used, what
the round has left is a suffix of it, and `RoundDone` is what the round leaves once that
suffix is served, or as much of it as there are free slots. -/

/-- The positions a round serves, in order, each as often as its turns. -/
def roundClaims : List Int → Nat → List Nat
  | [], _ => []
  | t :: ts, i => List.replicate t.toNat i ++ roundClaims ts (i + 1)

theorem count_roundClaims (ts : List Int) (i x : Nat) :
    (roundClaims ts i).count x = if i ≤ x then (ts.getD (x - i) 0).toNat else 0 := by
  induction ts generalizing i with
  | nil => simp [roundClaims]
  | cons t ts ih =>
    rw [roundClaims, List.count_append, List.count_replicate, ih]
    rcases Nat.lt_trichotomy x i with lt | rfl | gt
    · simp [Nat.ne_of_gt lt, Nat.not_le_of_gt lt, Nat.not_le_of_gt (Nat.lt_succ_of_lt lt)]
    · simp
    · have shift : x - i = x - (i + 1) + 1 := by omega
      simp [Nat.ne_of_lt gt, Nat.le_of_lt gt, Nat.succ_le_of_lt gt, shift]

theorem length_roundClaims (ts : List Int) (i : Nat) :
    (roundClaims ts i).length = (ts.map Int.toNat).sum := by
  induction ts generalizing i with
  | nil => rfl
  | cons t ts ih => simp [roundClaims, ih]

/-- A position a round serves has turns of at least one. -/
theorem one_le_of_mem_roundClaims {ts : List Int} {i x : Nat} (h : x ∈ roundClaims ts i) :
    i ≤ x ∧ 1 ≤ ts.getD (x - i) 0 := by
  have pos := List.count_pos_iff.mpr h
  rw [count_roundClaims] at pos
  split at pos
  · exact ⟨‹_›, by omega⟩
  · omega

section Round

variable {ts : List Int} {i : Nat}

theorem roundClaims_drop (hi : i < ts.length) :
    roundClaims (ts.drop i) i =
      List.replicate (ts.getD i 0).toNat i ++ roundClaims (ts.drop (i + 1)) (i + 1) := by
  rw [List.drop_eq_getElem_cons hi, roundClaims, List.getD_eq_getElem?_getD,
    List.getElem?_eq_getElem hi, Option.getD_some]

theorem roundClaims_drop_of_le (h : ts.length ≤ i) : roundClaims (ts.drop i) i = [] := by
  rw [List.drop_eq_nil_of_le h, roundClaims]

/-- At position `i`, after `c` of its turns, the next slot goes to `i` again. -/
theorem drop_roundClaims_cons {c : Nat} (hi : i < ts.length) (hc : c < (ts.getD i 0).toNat) :
    (roundClaims (ts.drop i) i).drop c = i :: (roundClaims (ts.drop i) i).drop (c + 1) := by
  rw [roundClaims_drop hi, List.drop_append_of_le_length (by rw [List.length_replicate]; omega),
    List.drop_append_of_le_length (by rw [List.length_replicate]; omega), List.drop_replicate,
    List.drop_replicate,
    show (ts.getD i 0).toNat - c = (ts.getD i 0).toNat - (c + 1) + 1 by omega,
    List.replicate_succ, List.cons_append]

/-- After all its turns, the round goes on at the next position. -/
theorem drop_roundClaims_turns (hi : i < ts.length) :
    (roundClaims (ts.drop i) i).drop (ts.getD i 0).toNat =
      roundClaims (ts.drop (i + 1)) (i + 1) := by
  rw [roundClaims_drop hi, List.drop_left' (List.length_replicate ..)]

end Round

section RoundDone

variable {dests : List Dest} {ts : List Int} {lookup0 : Nat → Option Nat}
  {refcnt0 : Nat → Int} {cs : List Nat} {st : MhPop}

/-- The counters are not part of what `Filled` says. -/
theorem Filled.counters (fill : Filled dests ts lookup0 refcnt0 cs st) (n : Nat) (dt : Int) :
    Filled dests ts lookup0 refcnt0 cs { st with n := n, dtCount := dt } :=
  ⟨fill.sub, fill.card, fill.untouched, fill.claimed, fill.owned, fill.refcnt, fill.setupOk,
    fill.turns⟩

/-- A round that started with the claims `cs` and had `rest` left has served `rest`, or as
much of it as the table holds; it ends early exactly when the table is full, and
otherwise with `dt_count` back at zero. -/
structure RoundDone (dests : List Dest) (ts : List Int) (lookup0 : Nat → Option Nat)
    (refcnt0 : Nat → Int) (cs rest : List Nat) (st : MhPop) (done : Bool) : Prop where
  filled : Filled dests ts lookup0 refcnt0 (cs ++ rest.take (dpVsMhTabSize - cs.length)) st
  n : st.n = (cs ++ rest.take (dpVsMhTabSize - cs.length)).length
  stops : done = true ↔ dpVsMhTabSize ≤ cs.length + rest.length
  dtCount : done = false → st.dtCount = 0

/-- A round that serves `i` and then `rest` from the claims `cs` serves `i :: rest`. -/
theorem RoundDone.cons {rest : List Nat} {done : Bool}
    (post : RoundDone dests ts lookup0 refcnt0 (cs ++ [i]) rest st done)
    (room : cs.length < dpVsMhTabSize) :
    RoundDone dests ts lookup0 refcnt0 cs (i :: rest) st done := by
  have served : cs ++ (i :: rest).take (dpVsMhTabSize - cs.length) =
      cs ++ [i] ++ rest.take (dpVsMhTabSize - (cs ++ [i]).length) := by
    rw [List.length_append, List.length_singleton,
      show dpVsMhTabSize - cs.length = dpVsMhTabSize - (cs.length + 1) + 1 by omega,
      List.take_succ_cons, List.append_assoc, List.singleton_append]
  refine ⟨served ▸ post.filled, served ▸ post.n, ?_, post.dtCount⟩
  rw [post.stops, List.length_append, List.length_singleton, List.length_cons]
  omega

/-- The last slot: the round stops with the table full. -/
theorem RoundDone.full {rest : List Nat} (fill : Filled dests ts lookup0 refcnt0 (cs ++ [i]) st)
    (n : st.n = cs.length + 1) (full : cs.length + 1 = dpVsMhTabSize) :
    RoundDone dests ts lookup0 refcnt0 (cs ++ [i]) rest st true := by
  have none : dpVsMhTabSize - (cs ++ [i]).length = 0 := by simp; omega
  refine ⟨?_, ?_, ?_, fun h => Bool.noConfusion h⟩
  · rwa [none, List.take_zero, List.append_nil]
  · rw [none, List.take_zero, List.append_nil, n, List.length_append, List.length_singleton]
  · simp
    omega

/-- The end of the list: the round is over with nothing left. -/
theorem RoundDone.finish (fill : Filled dests ts lookup0 refcnt0 cs st) (n : st.n = cs.length)
    (room : cs.length < dpVsMhTabSize) (dt : st.dtCount = 0) :
    RoundDone dests ts lookup0 refcnt0 cs [] st false where
  filled := by rwa [List.take_nil, List.append_nil]
  n := by rw [List.take_nil, List.append_nil, n]
  stops := by simp; omega
  dtCount := fun _ => dt

/-- One round from position `i`, with `dt_count` of its turns used there, serves what is
left of the round; the fuel covers one iteration per position and per free slot. -/
theorem mhRound_spec (distinct : (dests.map Dest.id).Nodup) (hts : ts.length = dests.length)
    (fuel : Nat) : ∀ i st cs, Filled dests ts lookup0 refcnt0 cs st → st.n = cs.length →
      cs.length < dpVsMhTabSize → 0 ≤ st.dtCount →
      (st.dtCount = 0 ∨ (i < dests.length ∧ st.dtCount < ts.getD i 0)) →
      dests.length - i + (dpVsMhTabSize - cs.length) < fuel →
      ∃ st' done, mhRound dests fuel i st = some (st', done) ∧
        RoundDone dests ts lookup0 refcnt0 cs
          ((roundClaims (ts.drop i) i).drop st.dtCount.toNat) st' done := by
  induction fuel with
  | zero => intro i st cs _ _ _ _ _ fuelOk; omega
  | succ fuel ih =>
    intro i st cs fill n room nonneg dt fuelOk
    by_cases hi : i < dests.length
    · obtain ⟨ds, get, turns⟩ := fill.setup_get (hts ▸ hi)
      by_cases skip : ds.turns < 1
      · -- no turns: the destination is passed over, and `dt_count` is zero
        have dt0 : st.dtCount = 0 := by omega
        obtain ⟨st', done, run, post⟩ :=
          ih (i + 1) st cs fill n room nonneg (Or.inl dt0) (by omega)
        refine ⟨st', done, by simp [mhRound, hi, get, skip, run], ?_⟩
        rw [dt0, roundClaims_drop (hts ▸ hi), show (ts.getD i 0).toNat = 0 by omega]
        simpa [dt0] using post
      · -- positive turns: a slot for `i`, then the round goes on or stops
        obtain ⟨st1, claim, fill1, n1, dt1⟩ := fill.claim distinct hi get room
        have used : st.dtCount.toNat < (ts.getD i 0).toNat := by omega
        rw [drop_roundClaims_cons (hts ▸ hi) used]
        by_cases full : st1.n + 1 = dpVsMhTabSize
        · refine ⟨{ st1 with n := st1.n + 1 }, true,
            by simp [mhRound, hi, get, skip, claim, full],
            RoundDone.cons (RoundDone.full (fill1.counters _ _) (by simp; omega) (by omega)) room⟩
        · by_cases next : st1.dtCount + 1 ≥ ds.turns
          · -- the last of its turns: on to the next position with `dt_count` reset
            obtain ⟨st', done, run, post⟩ :=
              ih (i + 1) { st1 with n := st1.n + 1, dtCount := 0 } (cs ++ [i])
                (fill1.counters _ _) (by simp; omega) (by simp; omega) le_rfl (Or.inl rfl)
                (by simp; omega)
            refine ⟨st', done, by simp [mhRound, hi, get, skip, claim, full, next, run], ?_⟩
            rw [show st.dtCount.toNat + 1 = (ts.getD i 0).toNat by omega,
              drop_roundClaims_turns (hts ▸ hi)]
            exact RoundDone.cons (by simpa using post) room
          · -- more turns: the same position again
            obtain ⟨st', done, run, post⟩ :=
              ih i { st1 with n := st1.n + 1, dtCount := st1.dtCount + 1 } (cs ++ [i])
                (fill1.counters _ _) (by simp; omega) (by simp; omega) (by simp; omega)
                (Or.inr ⟨hi, by dsimp only; omega⟩) (by simp; omega)
            refine ⟨st', done, by simp [mhRound, hi, get, skip, claim, full, next, run], ?_⟩
            rw [show st.dtCount.toNat + 1 = (st1.dtCount + 1).toNat by omega]
            exact RoundDone.cons post room
    · -- past the last destination: the round is over
      have dt0 : st.dtCount = 0 := by omega
      refine ⟨st, false, by simp [mhRound, hi], ?_⟩
      rw [roundClaims_drop_of_le (by omega), List.drop_nil]
      exact RoundDone.finish fill n room dt0

end RoundDone

/-! ## The rounds

Round after round from the first destination, populate serves the round of the turns
over and over; `RoundRobin.rounds` is that schedule, and the table takes its first
`DP_VS_MH_TAB_SIZE` entries. -/

section Rounds

variable {dests : List Dest} {ts : List Int} {lookup0 : Nat → Option Nat}
  {refcnt0 : Nat → Int} {cs : List Nat} {st : MhPop}

/-- At most `DP_VS_MH_TAB_SIZE` slots are handed out. -/
theorem Filled.length_le (fill : Filled dests ts lookup0 refcnt0 cs st) :
    cs.length ≤ dpVsMhTabSize := by
  rw [← fill.card, ← Finset.card_range dpVsMhTabSize]
  exact Finset.card_le_card fill.sub

/-- From `k` whole rounds, the rounds go on until the table is full. -/
theorem mhRounds_spec (distinct : (dests.map Dest.id).Nodup) (hts : ts.length = dests.length)
    (hL : 0 < (roundClaims ts 0).length) (fuel : Nat) :
    ∀ k st, Filled dests ts lookup0 refcnt0 (RoundRobin.rounds (roundClaims ts 0) k) st →
      st.n = k * (roundClaims ts 0).length → st.dtCount = 0 →
      dpVsMhTabSize - k * (roundClaims ts 0).length < fuel →
      ∃ st' m, mhRounds dests fuel st = some st' ∧
        Filled dests ts lookup0 refcnt0
          ((RoundRobin.rounds (roundClaims ts 0) m).take dpVsMhTabSize) st' ∧
        dpVsMhTabSize ≤ m * (roundClaims ts 0).length := by
  induction fuel with
  | zero => intro k st _ _ _ fuelOk; omega
  | succ fuel ih =>
    intro k st fill n dt fuelOk
    have before := fill.length_le
    rw [RoundRobin.length_rounds] at before
    by_cases room : st.n < dpVsMhTabSize
    · obtain ⟨st', done, run, post⟩ :=
        mhRound_spec distinct hts (dests.length + dpVsMhTabSize + 1)
        0 st _ fill (by rw [n, RoundRobin.length_rounds]) (by rw [RoundRobin.length_rounds]; omega)
        (by omega) (Or.inl dt) (by omega)
      rw [dt, Int.toNat_zero, List.drop_zero, List.drop_zero] at post
      cases done with
      | true =>
        -- the table fills up in this round
        have cover := post.stops.mp rfl
        rw [RoundRobin.length_rounds] at cover
        refine ⟨st', k + 1, by simp [mhRounds, room, run], ?_, by rw [Nat.succ_mul]; omega⟩
        rw [RoundRobin.rounds_succ, List.take_append, List.take_of_length_le (by simp; omega)]
        exact post.filled
      | false =>
        -- a whole round: on to the next one
        have short : ¬dpVsMhTabSize ≤ (RoundRobin.rounds (roundClaims ts 0) k).length +
            (roundClaims ts 0).length := fun h => Bool.noConfusion (post.stops.mpr h)
        rw [RoundRobin.length_rounds] at short
        have served : (roundClaims ts 0).take
            (dpVsMhTabSize - (RoundRobin.rounds (roundClaims ts 0) k).length) = roundClaims ts 0 :=
          List.take_of_length_le (by rw [RoundRobin.length_rounds]; omega)
        have fill' := post.filled
        have n' := post.n
        rw [served, ← RoundRobin.rounds_succ] at fill' n'
        obtain ⟨st'', m, run', fill'', cover⟩ := ih (k + 1) st' fill'
          (by rw [n', RoundRobin.length_rounds]) (post.dtCount rfl) (by rw [Nat.succ_mul]; omega)
        exact ⟨st'', m, by simp [mhRounds, room, run, run'], fill'', cover⟩
    · -- the table is already full
      have full : k * (roundClaims ts 0).length = dpVsMhTabSize := by omega
      refine ⟨st, k, by simp [mhRounds, room], ?_, full.ge⟩
      rwa [List.take_of_length_le (by rw [RoundRobin.length_rounds]; omega)]

/-- The table once every slot has been handed out: every slot points at a destination the
schedule `cs` names, each destination owns as many slots as `cs` names it, and every
count has moved by the slots gained and lost. -/
structure FullTable (dests : List Dest) (lookup0 : Nat → Option Nat) (refcnt0 : Nat → Int)
    (cs : List Nat) (lookup : Nat → Option Nat) (refcnt : Nat → Int) : Prop where
  points : ∀ c < dpVsMhTabSize, ∃ i ∈ cs, ∃ h : i < dests.length,
    lookup c = some dests[i].id
  owned : ∀ i (h : i < dests.length),
    ownedOn (Finset.range dpVsMhTabSize) lookup dests[i].id = cs.count i
  refcnt : ∀ d, refcnt d = refcnt0 d + gainedOn (Finset.range dpVsMhTabSize) lookup0 lookup d -
    lostOn (Finset.range dpVsMhTabSize) lookup0 lookup d

theorem Filled.full (fill : Filled dests ts lookup0 refcnt0 cs st)
    (len : cs.length = dpVsMhTabSize) : FullTable dests lookup0 refcnt0 cs st.lookup st.refcnt := by
  have all : st.table = Finset.range dpVsMhTabSize :=
    Finset.eq_of_subset_of_card_le fill.sub (by rw [Finset.card_range, fill.card, len])
  refine ⟨fun c hc => ?_, fun i h => ?_, fun d => ?_⟩
  · exact fill.claimed c (all ▸ Finset.mem_range.mpr hc)
  · rw [← all]
    exact fill.owned i h
  · rw [← all]
    exact fill.refcnt d

end Rounds

/-! ## Reassigning

With one positive weight among the destinations, `dp_vs_mh_permutate` gives walkable
entries whose turns add up to at least one, and population runs to a full table. -/

/-- The entries of `dp_vs_mh_permutate` are walkable. -/
theorem mhDestSetup_ok (env : MhEnv) (s : MhState) (af : Int) (dest : Dest) :
    SetupOk (mhDestSetup env s af dest) where
  skip_pos := Nat.le_add_left 1 _
  skip_lt := by
    have := Nat.mod_lt (dpVsMhHashkey env af dest.addr dest.port s.hash2 0).toNat
      (show 0 < dpVsMhTabSize - 1 by rw [dpVsMhTabSize_eq]; decide)
    simp only [mhDestSetup]
    omega
  perm_lt := Nat.mod_lt _ (by rw [dpVsMhTabSize_eq]; decide)

/-- A positive weight has turns of at least one. -/
theorem one_le_dpVsMhTurns {gcd lw : Int} (rshift : Nat) (hgcd : 1 ≤ gcd) (pos : 0 < lw) :
    1 ≤ dpVsMhTurns gcd rshift lw := by
  have quot : 0 ≤ lw.tdiv gcd := Int.tdiv_nonneg pos.le (by omega)
  have shifted : 0 ≤ lw.tdiv gcd >>> rshift := by
    rw [Int.shiftRight_eq_div_pow]
    exact Int.ediv_nonneg quot (by positivity)
  simp only [dpVsMhTurns]
  split
  · omega
  · rw [if_pos pos.ne']

/-- The common divisor is positive once one weight is. -/
theorem one_le_dpVsMhGcdWeight {dests : List Dest}
    (positive : ∃ d ∈ dests, 0 < d.weight.toInt) :
    1 ≤ dpVsMhGcdWeight dests := by
  -- the fold keeps a non-negative divisor, and a positive one once a weight was positive
  suffices fold : ∀ (l : List Dest) (g : Int), 0 ≤ g →
      (0 < g ∨ ∃ d ∈ l, 0 < d.weight.toInt) →
      0 < l.foldl (fun g dest =>
        if dest.weight.toInt > 0 then
          (if g > 0 then (Nat.gcd dest.weight.toInt.toNat g.toNat : Int) else dest.weight.toInt)
        else g) g from fold dests 0 le_rfl (Or.inr positive)
  intro l
  induction l with
  | nil =>
    rintro g - (pos | ⟨d, mem, -⟩)
    · exact pos
    · cases mem
  | cons d l ih =>
    intro g nonneg pos
    rw [List.foldl_cons]
    by_cases w : d.weight.toInt > 0
    · have gcdPos : 0 < (Nat.gcd d.weight.toInt.toNat g.toNat : Int) :=
        Int.natCast_pos.mpr (Nat.gcd_pos_of_pos_left _ (by omega))
      apply ih _ (by split <;> omega)
      left
      split <;> omega
    · rw [if_neg w]
      refine ih g nonneg ?_
      rcases pos with pos | ⟨d', mem, pos'⟩
      · exact Or.inl pos
      · rcases List.mem_cons.mp mem with rfl | mem
        · exact absurd pos' w
        · exact Or.inr ⟨d', mem, pos'⟩

/-- A round of turns with a positive entry serves someone. -/
theorem length_roundClaims_pos {ts : List Int} (i : Nat) (pos : ∃ t ∈ ts, 1 ≤ t) :
    0 < (roundClaims ts i).length := by
  obtain ⟨t, mem, one⟩ := pos
  rw [length_roundClaims]
  have := List.le_sum_of_mem (List.mem_map_of_mem mem : t.toNat ∈ ts.map Int.toNat)
  omega

/-- `dp_vs_mh_permutate` with a positive divisor writes one entry per destination. -/
theorem dpVsMhPermutate_of_gcd {env : MhEnv} {s : MhState} {af : Int} {dests : List Dest}
    (gcd : 1 ≤ s.gcd) :
    dpVsMhPermutate env s af dests = { s with destSetup := dests.map (mhDestSetup env s af) } := by
  rw [dpVsMhPermutate, if_neg (not_lt.mpr gcd)]

/-- `dp_vs_mh_populate` from walkable entries with the turns `ts`, one of them positive:
the rounds run until the table is full. -/
theorem dpVsMhPopulate_spec {env : MhEnv} {dests : List Dest} {ts : List Int} (s : MhState)
    (refcnt : Nat → Int) (memory : env.memory = true) (gcd : 1 ≤ s.gcd)
    (distinct : (dests.map Dest.id).Nodup) (setupOk : ∀ ds ∈ s.destSetup, SetupOk ds)
    (turns : s.destSetup.map MhDestSetup.turns = ts) (hts : ts.length = dests.length)
    (hL : 0 < (roundClaims ts 0).length) :
    ∃ st m, dpVsMhPopulate env s dests refcnt =
        some (.ok, { s with lookup := st.lookup, destSetup := st.setup }, st.refcnt) ∧
      Filled dests ts s.lookup refcnt
        ((RoundRobin.rounds (roundClaims ts 0) m).take dpVsMhTabSize) st ∧
      dpVsMhTabSize ≤ m * (roundClaims ts 0).length := by
  obtain ⟨st, m, run, fill, cover⟩ := mhRounds_spec distinct hts hL (dpVsMhTabSize + 1) 0
    ⟨∅, s.lookup, s.destSetup, refcnt, 0, 0⟩ (filled_init setupOk turns rfl)
    (Nat.zero_mul _).symm rfl (by omega)
  refine ⟨st, m, ?_, fill, cover⟩
  simp [dpVsMhPopulate, not_lt.mpr gcd, memory, run]

/-- `dp_vs_mh_reassign` of at most `DP_VS_MH_TAB_SIZE` destinations with a positive weight
and a positive divisor returns, with a full table dealt out by rounds of the turns. -/
theorem dpVsMhReassign_spec (env : MhEnv) (s : MhState) (af : Int) (dests : List Dest)
    (refcnt : Nat → Int) (memory : env.memory = true) (distinct : (dests.map Dest.id).Nodup)
    (fits : dests.length ≤ dpVsMhTabSize) (positive : ∃ d ∈ dests, 0 < d.weight.toInt)
    (gcd : 1 ≤ s.gcd) :
    ∃ s' refcnt' m, dpVsMhReassign env s af dests refcnt = some (.ok, s', refcnt') ∧
      dpVsMhTabSize ≤
        m * (roundClaims (dests.map fun d => dpVsMhTurns s.gcd s.rshift d.weight.toInt)
          0).length ∧
      FullTable dests s.lookup refcnt
        ((RoundRobin.rounds (roundClaims
          (dests.map fun d => dpVsMhTurns s.gcd s.rshift d.weight.toInt) 0) m).take dpVsMhTabSize)
        s'.lookup refcnt' := by
  obtain ⟨d, mem, pos⟩ := positive
  have nonempty : 1 ≤ dests.length := List.length_pos_of_mem mem
  -- the zeroed dest setup of `rte_calloc`, which the permutation then fills in
  have permuted : dpVsMhPermutate env
      { s with destSetup := List.replicate dests.length ⟨0, 0, 0, 0⟩ } af dests =
      { s with destSetup := dests.map (mhDestSetup env s af) } :=
    dpVsMhPermutate_of_gcd gcd
  obtain ⟨st, m, pop, fill, cover⟩ := dpVsMhPopulate_spec
    { s with destSetup := dests.map (mhDestSetup env s af) } refcnt memory gcd distinct
    (by simpa using fun d _ => mhDestSetup_ok env s af d) (by rw [List.map_map])
    (by simp)
    (length_roundClaims_pos 0 ⟨_, List.mem_map_of_mem mem, one_le_dpVsMhTurns _ gcd pos⟩)
  refine ⟨{ s with lookup := st.lookup, destSetup := [] }, st.refcnt, m, ?_, cover,
    fill.full (by simp; omega)⟩
  simp [dpVsMhReassign, not_lt.mpr fits, memory, nonempty, permuted, pop]

/-! ## Shares of the table

Every slot points at a destination with turns of at least one, every reference count has
moved by the slots gained and lost, and a destination's share lies between `R` and
`R + 1` times its turns, `R` being how often the positive turns fit in the table. -/

theorem mh_reassign_deals_turns (env : MhEnv) (s : MhState) (af : Int) (dests : List Dest)
    (refcnt : Nat → Int) (memory : env.memory = true) (distinct : (dests.map Dest.id).Nodup)
    (fits : dests.length ≤ dpVsMhTabSize) (positive : ∃ d ∈ dests, 0 < d.weight.toInt)
    (gcd : s.gcd = dpVsMhGcdWeight dests) :
    ∃ s' refcnt', dpVsMhReassign env s af dests refcnt = some (.ok, s', refcnt') ∧
      (∀ c < dpVsMhTabSize, ∃ d ∈ dests, s'.lookup c = some d.id ∧
        1 ≤ dpVsMhTurns s.gcd s.rshift d.weight.toInt) ∧
      (∀ d, refcnt' d = refcnt d + gainedOn (Finset.range dpVsMhTabSize) s.lookup s'.lookup d -
        lostOn (Finset.range dpVsMhTabSize) s.lookup s'.lookup d) ∧
      ∀ d ∈ dests,
        let turns := (dpVsMhTurns s.gcd s.rshift d.weight.toInt).toNat
        let total := (dests.map fun d => (dpVsMhTurns s.gcd s.rshift d.weight.toInt).toNat).sum
        dpVsMhTabSize / total * turns ≤ ownedOn (Finset.range dpVsMhTabSize) s'.lookup d.id ∧
          ownedOn (Finset.range dpVsMhTabSize) s'.lookup d.id ≤
            (dpVsMhTabSize / total + 1) * turns := by
  have hgcd : 1 ≤ s.gcd := gcd ▸ one_le_dpVsMhGcdWeight positive
  obtain ⟨d₀, mem₀, pos₀⟩ := positive
  obtain ⟨s', refcnt', m, run, cover, full⟩ :=
    dpVsMhReassign_spec env s af dests refcnt memory distinct fits ⟨d₀, mem₀, pos₀⟩ hgcd
  refine ⟨s', refcnt', run, fun c hc => ?_, full.refcnt, fun d mem => ?_⟩
  · -- the slot's destination is served by the rounds, so its turns are positive
    obtain ⟨i, served, h, look⟩ := full.points c hc
    have one := (one_le_of_mem_roundClaims (RoundRobin.mem_rounds (List.mem_of_mem_take served))).2
    refine ⟨dests[i], List.getElem_mem h, look, ?_⟩
    simpa [List.getD_eq_getElem?_getD, h] using one
  · -- a share is a count in the schedule cut at the table size
    obtain ⟨i, h, rfl⟩ := List.mem_iff_getElem.mp mem
    have hL : 0 < (roundClaims (dests.map fun d => dpVsMhTurns s.gcd s.rshift d.weight.toInt)
        0).length :=
      length_roundClaims_pos 0
        ⟨_, List.mem_map_of_mem mem₀, one_le_dpVsMhTurns s.rshift hgcd pos₀⟩
    have bounds := RoundRobin.count_take_rounds i hL cover
    rw [count_roundClaims, length_roundClaims, List.map_map] at bounds
    rw [full.owned i h]
    simpa [List.getD_eq_getElem?_getD, h, Function.comp_def] using bounds

/-- A destination at the IPv4 address `id` of the given 16-bit weight. -/
def mhSampleDest (id : Nat) (weight : Int16) : Dest :=
  { id := id, af := afInet, addr := InetAddr.ofV4 id.toUInt32, port := 80,
    flags := destFAvailable, connFlags := 0, weight := weight, refcnt := 1, fwdmode := 0,
    actconns := 0, inactconns := 0, persistconns := 0, maxConn := 0, minConn := 0 }

/-- Two destinations of weights 3 and 1. -/
def mhSampleDests : List Dest := [mhSampleDest 1 3, mhSampleDest 2 1]

/-- A stand-in for `hsiphash` and memory that `rte_calloc` hands out. -/
def mhSampleEnv : MhEnv := ⟨fun v _ => v, true⟩

theorem mh_reassign_deals_turns_sample :
    (mhSampleEnv.memory = true ∧ (mhSampleDests.map Dest.id).Nodup ∧
      mhSampleDests.length ≤ dpVsMhTabSize ∧ (∃ d ∈ mhSampleDests, 0 < d.weight.toInt) ∧
      (mhFreshState mhSampleDests).gcd = dpVsMhGcdWeight mhSampleDests) ∧
    ∃ s' refcnt', dpVsMhReassign mhSampleEnv (mhFreshState mhSampleDests) afInet mhSampleDests
        (fun _ => 1) = some (.ok, s', refcnt') ∧
      (∀ c < dpVsMhTabSize, ∃ d ∈ mhSampleDests, s'.lookup c = some d.id ∧
        1 ≤ dpVsMhTurns (mhFreshState mhSampleDests).gcd (mhFreshState mhSampleDests).rshift
          d.weight.toInt) ∧
      (∀ d, refcnt' d = 1 + gainedOn (Finset.range dpVsMhTabSize)
          (mhFreshState mhSampleDests).lookup s'.lookup d -
        lostOn (Finset.range dpVsMhTabSize) (mhFreshState mhSampleDests).lookup s'.lookup d) ∧
      ∀ d ∈ mhSampleDests,
        let turns := (dpVsMhTurns (mhFreshState mhSampleDests).gcd
          (mhFreshState mhSampleDests).rshift d.weight.toInt).toNat
        let total := (mhSampleDests.map fun d => (dpVsMhTurns (mhFreshState mhSampleDests).gcd
          (mhFreshState mhSampleDests).rshift d.weight.toInt).toNat).sum
        dpVsMhTabSize / total * turns ≤ ownedOn (Finset.range dpVsMhTabSize) s'.lookup d.id ∧
          ownedOn (Finset.range dpVsMhTabSize) s'.lookup d.id ≤
            (dpVsMhTabSize / total + 1) * turns :=
  ⟨⟨rfl, by decide, by decide, by decide, rfl⟩,
    mh_reassign_deals_turns mhSampleEnv (mhFreshState mhSampleDests) afInet mhSampleDests
      (fun _ => 1) rfl (by decide) (by decide) (by decide) rfl⟩

/-! ## A weight read as negative

`dp_vs_dest_add` keeps a weight in 16 bits, so a destination added with weight 65534
reads as -2, and its turns are -2. Population passes it over, and the first destination
takes every slot; a share bound that sums the turns of all destinations, -1 here, puts
that share at most `(4093 / -1 + 1) * 1 = -4092`. -/

/-- The first sample destination beside one added with weight 65534. -/
def heavyMhDests : List Dest := [mhSampleDest 1 1, mhSampleDest 2 (weightToAtomic16 65534)]

theorem mh_negative_turns_break_share :
    (heavyMhDests.map fun d => dpVsMhTurns (mhFreshState heavyMhDests).gcd
        (mhFreshState heavyMhDests).rshift d.weight.toInt) = [1, -2] ∧
      ∃ s' refcnt', dpVsMhReassign mhSampleEnv (mhFreshState heavyMhDests) afInet heavyMhDests
          (fun _ => 1) = some (.ok, s', refcnt') ∧
        ¬((ownedOn (Finset.range dpVsMhTabSize) s'.lookup 1 : Int) ≤
          ((dpVsMhTabSize : Int) / ([1, -2] : List Int).sum + 1) * 1) := by
  obtain ⟨s', refcnt', m, run, -, -⟩ := dpVsMhReassign_spec mhSampleEnv
    (mhFreshState heavyMhDests) afInet heavyMhDests (fun _ => 1) rfl (by decide) (by decide)
    (by decide) (by decide)
  refine ⟨by decide, s', refcnt', run, ?_⟩
  have bound : ((dpVsMhTabSize : Int) / ([1, -2] : List Int).sum + 1) * 1 = -4092 := by
    rw [dpVsMhTabSize_eq]
    decide
  rw [bound]
  omega

end Dpvs
