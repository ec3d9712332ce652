import Dpvs.SaPool.Pool

/-!
# The flows of `sa_pool_init`

`sa_pool_init` gives the `k`-th enabled lcore the port base `k` and every lcore the
same `shift`, the least with `2^shift ≥ sa_nlcore`. `FlowOk` is what a pool's proofs
need of its flow: the mask is the low `shift` bits and the base fits in them. Then
a port is admitted exactly when its low bits are the base, the entry index
`port >> shift` tells admitted ports apart, and two enabled lcores admit no port in
common.
-/

namespace Dpvs.Sa

/-- The mask is the low `shift` bits and the base fits in them. -/
structure FlowOk (flow : SaFlow) : Prop where
  shift_lt : flow.shift < 16
  mask_eq : flow.mask.toNat = 2 ^ flow.shift - 1
  base_lt : (ntohs flow.portBase).toNat < 2 ^ flow.shift

theorem flowOk_zero : FlowOk SaFlow.zero :=
  ⟨by decide, by decide, by decide⟩

theorem toNat_toUInt16 (n : Nat) : n.toUInt16.toNat = n % 65536 := by
  simp only [Nat.toUInt16_eq, UInt16.toNat_ofNat', Nat.reducePow]

/-! ### The shift -/

theorem maskBitsFrom_le (n : Nat) : ∀ fuel shift, maskBitsFrom n fuel shift ≤ shift + fuel
  | 0, shift => by simp [maskBitsFrom]
  | fuel + 1, shift => by
    unfold maskBitsFrom
    split
    · have ih := maskBitsFrom_le n fuel (shift + 1)
      omega
    · omega

/-- The loop stops at a shift whose power covers `n`, given that the last one does. -/
theorem le_two_pow_maskBitsFrom (n : Nat) :
    ∀ fuel shift, n ≤ 2 ^ (shift + fuel) → n ≤ 2 ^ maskBitsFrom n fuel shift
  | 0, shift, h => h
  | fuel + 1, shift, h => by
    unfold maskBitsFrom
    split
    · apply le_two_pow_maskBitsFrom n fuel (shift + 1)
      rwa [Nat.add_right_comm, Nat.add_assoc]
    · rename_i covered
      rw [Nat.one_shiftLeft] at covered
      omega

theorem maskBits_le (n : UInt8) : maskBits n ≤ 8 :=
  maskBitsFrom_le n.toNat 8 0

theorem le_two_pow_maskBits (n : UInt8) : n.toNat ≤ 2 ^ maskBits n := by
  apply le_two_pow_maskBitsFrom
  have small := UInt8.toNat_lt n
  simpa using small.le

theorem flowMask_toNat {shift : Nat} (h : shift < 16) : (flowMask shift).toNat = 2 ^ shift - 1 := by
  have every : ∀ s : Fin 16, (flowMask s.val).toNat = 2 ^ s.val - 1 := by decide
  exact every ⟨shift, h⟩

/-! ### Port bases -/

/-- How many lcores below `cid` are enabled: the base `sa_pool_init` gives `cid`. -/
def lcoreRank (lcoreMask : UInt64) (cid : Nat) : Nat :=
  ((List.range cid).filter (lcoreEnabled lcoreMask)).length

theorem lcoreRank_succ (lcoreMask : UInt64) (cid : Nat) :
    lcoreRank lcoreMask (cid + 1) =
      lcoreRank lcoreMask cid + if lcoreEnabled lcoreMask cid then 1 else 0 := by
  unfold lcoreRank
  rw [List.range_succ, List.filter_append]
  split <;> simp [*]

theorem lcoreRank_mono (lcoreMask : UInt64) {a b : Nat} (h : a ≤ b) :
    lcoreRank lcoreMask a ≤ lcoreRank lcoreMask b := by
  induction b, h using Nat.le_induction with
  | base => exact le_rfl
  | succ b _ ih =>
    rw [lcoreRank_succ]
    omega

theorem lcoreRank_lt {lcoreMask : UInt64} {a b : Nat} (enabled : lcoreEnabled lcoreMask a)
    (h : a < b) : lcoreRank lcoreMask a < lcoreRank lcoreMask b := by
  have step : lcoreRank lcoreMask (a + 1) = lcoreRank lcoreMask a + 1 := by
    simp [lcoreRank_succ, enabled]
  have mono := lcoreRank_mono lcoreMask (show a + 1 ≤ b by omega)
  omega

theorem lcoreRank_le (lcoreMask : UInt64) (cid : Nat) : lcoreRank lcoreMask cid ≤ cid := by
  unfold lcoreRank
  exact (List.length_filter_le _ _).trans (List.length_range ▸ le_rfl)

/-- The flow `sa_pool_init` gives an enabled lcore. -/
def initFlowOf (lcoreMask : UInt64) (shift cid : Nat) : SaFlow :=
  ⟨flowMask shift, cid, htons (lcoreRank lcoreMask cid).toUInt16, shift⟩

/-- The lcore loop after `k` rounds: the lcores below `k` that are enabled have their
flow, the others are untouched, and the counter is their number. -/
theorem initFlows_spec (lcoreMask : UInt64) (shift : Nat) {k : Nat} (hk : k ≤ 64) :
    ((List.range k).foldl (initFlow lcoreMask shift) (fun _ => SaFlow.zero, 0)).2 =
        (lcoreRank lcoreMask k).toUInt16 ∧
      ∀ cid, ((List.range k).foldl (initFlow lcoreMask shift) (fun _ => SaFlow.zero, 0)).1 cid =
        if cid < k ∧ lcoreEnabled lcoreMask cid then initFlowOf lcoreMask shift cid
        else SaFlow.zero := by
  induction k with
  | zero => simp [lcoreRank]
  | succ k ih =>
    obtain ⟨count, flows⟩ := ih (by omega)
    rw [List.range_succ, List.foldl_append, List.foldl_cons, List.foldl_nil]
    generalize (List.range k).foldl (initFlow lcoreMask shift) (fun _ => SaFlow.zero, 0) = acc
      at count flows
    have below : ¬ 64 ≤ k := by omega
    by_cases enabled : lcoreEnabled lcoreMask k
    · refine ⟨by simp [initFlow, below, enabled, count, lcoreRank_succ], fun cid => ?_⟩
      by_cases same : cid = k
      · subst same
        simp [initFlow, below, enabled, initFlowOf, count]
      · have lt : cid < k + 1 ↔ cid < k := by omega
        simp [initFlow, below, enabled, Function.update_of_ne same, flows, lt]
    · refine ⟨by simp [initFlow, enabled, count, lcoreRank_succ], fun cid => ?_⟩
      by_cases same : cid = k
      · subst same
        simp [initFlow, enabled, flows]
      · have lt : cid < k + 1 ↔ cid < k := by omega
        simp [initFlow, enabled, flows, lt]

theorem saPoolInit_flows {nlcore : UInt8} {lcoreMask : UInt64} {flows : Nat → SaFlow}
    (init : saPoolInit nlcore lcoreMask = some flows) (cid : Nat) :
    flows cid =
      if cid < 64 ∧ lcoreEnabled lcoreMask cid then initFlowOf lcoreMask (maskBits nlcore) cid
      else SaFlow.zero := by
  have small : ¬ 16 ≤ maskBits nlcore := by
    have := maskBits_le nlcore
    omega
  simp only [saPoolInit, small, if_false, Option.some.injEq] at init
  rw [← init]
  exact (initFlows_spec lcoreMask (maskBits nlcore) le_rfl).2 cid

/-- Every flow is `FlowOk` when `sa_nlcore` counts the enabled lcores, as
`netif_get_slave_lcores` computes them. -/
theorem saPoolInit_flowOk {nlcore : UInt8} {lcoreMask : UInt64} {flows : Nat → SaFlow}
    (init : saPoolInit nlcore lcoreMask = some flows)
    (count : lcoreRank lcoreMask 64 ≤ nlcore.toNat) (cid : Nat) : FlowOk (flows cid) := by
  rw [saPoolInit_flows init]
  split
  · rename_i enabled
    have shift_le := maskBits_le nlcore
    have rank_lt := lcoreRank_lt enabled.2 enabled.1
    have covered := le_two_pow_maskBits nlcore
    have rank_le := lcoreRank_le lcoreMask 64
    refine ⟨by simp only [initFlowOf]; omega, flowMask_toNat (by omega), ?_⟩
    simp only [initFlowOf, ntohs_htons, toNat_toUInt16]
    omega
  · exact flowOk_zero

/-! ### Admitted ports -/

section Admitted

variable {flow : SaFlow}

theorem toUInt16_and_mask (ok : FlowOk flow) (port : Nat) :
    (port.toUInt16 &&& flow.mask).toNat = port % 2 ^ flow.shift := by
  have le : flow.shift ≤ 16 := ok.shift_lt.le
  rw [UInt16.toNat_and, ok.mask_eq, Nat.and_two_pow_sub_one_eq_mod, toNat_toUInt16]
  exact Nat.mod_mod_of_dvd port (pow_dvd_pow 2 le)

/-- The test of `sa_pool_alloc_hash`: a port is the lcore's when its low bits are the
base. -/
theorem flowAdmits_iff (ok : FlowOk flow) (port : Nat) :
    flowAdmits flow port = true ↔ port % 2 ^ flow.shift = (ntohs flow.portBase).toNat := by
  have low := toUInt16_and_mask ok port
  by_cases unmasked : flow.mask = 0
  · -- one lcore: no mask, and the only base is zero
    have one : 2 ^ flow.shift = 1 := by
      have mask := ok.mask_eq
      rw [unmasked, UInt16.toNat_zero] at mask
      have pos : 1 ≤ 2 ^ flow.shift := Nat.one_le_two_pow
      omega
    have base := ok.base_lt
    rw [one] at base ⊢
    simp only [flowAdmits, unmasked, bne_self_eq_false, Bool.false_and, Bool.not_false,
      Nat.mod_one, true_iff]
    omega
  · have masked : (flow.mask != 0) = true := by simpa using unmasked
    simp only [flowAdmits, masked, Bool.true_and, Bool.not_eq_true', bne_eq_false_iff_eq]
    rw [← UInt16.toNat_inj, low]

theorem mem_admittedPorts {low high : UInt16} {port : Nat} :
    port ∈ admittedPorts flow low high ↔
      low.toNat ≤ port ∧ port ≤ high.toNat ∧ flowAdmits flow port = true := by
  simp only [admittedPorts, List.mem_filter, List.mem_range'_1]
  constructor
  · rintro ⟨⟨lo, hi⟩, admits⟩
    exact ⟨lo, by omega, admits⟩
  · rintro ⟨lo, hi, admits⟩
    exact ⟨⟨lo, by omega⟩, admits⟩

theorem admittedPorts_nodup (low high : UInt16) : (admittedPorts flow low high).Nodup :=
  (List.nodup_range' ..).filter _

theorem lt_of_mem_admittedPorts {low high : UInt16} {port : Nat}
    (h : port ∈ admittedPorts flow low high) : port < maxPort := by
  have := (mem_admittedPorts.mp h).2.1
  have := UInt16.toNat_lt high
  simp only [maxPort]
  omega

theorem length_admittedPorts_le {low : UInt16} (lowNe : low ≠ 0) (high : UInt16) :
    (admittedPorts flow low high).length ≤ 65535 := by
  have pos : 1 ≤ low.toNat := by
    have := UInt16.toNat_inj.not.mpr lowNe
    simp at this
    omega
  have := UInt16.toNat_lt high
  calc (admittedPorts flow low high).length
      _ ≤ (List.range' low.toNat (high.toNat + 1 - low.toNat)).length := List.length_filter_le _ _
      _ ≤ 65535 := by simp; omega

theorem entryIndex_of_lt {shift port : Nat} (h : port < maxPort) :
    entryIndex shift port = port / 2 ^ shift := by
  have le : port / 2 ^ shift ≤ port := Nat.div_le_self _ _
  simp only [entryIndex, Nat.shiftRight_eq_div_pow]
  exact Nat.mod_eq_of_lt (by omega)

/-- Admitted ports share their low bits, so the high bits tell them apart. -/
theorem entryIndex_injOn (ok : FlowOk flow) {low high : UInt16} {p q : Nat}
    (hp : p ∈ admittedPorts flow low high) (hq : q ∈ admittedPorts flow low high)
    (same : entryIndex flow.shift p = entryIndex flow.shift q) : p = q := by
  have lowP := (flowAdmits_iff ok p).mp (mem_admittedPorts.mp hp).2.2
  have lowQ := (flowAdmits_iff ok q).mp (mem_admittedPorts.mp hq).2.2
  rw [entryIndex_of_lt (lt_of_mem_admittedPorts hp), entryIndex_of_lt (lt_of_mem_admittedPorts hq)]
    at same
  calc p
      _ = 2 ^ flow.shift * (p / 2 ^ flow.shift) + p % 2 ^ flow.shift := (Nat.div_add_mod p _).symm
      _ = 2 ^ flow.shift * (q / 2 ^ flow.shift) + q % 2 ^ flow.shift := by rw [same, lowP, lowQ]
      _ = q := Nat.div_add_mod q _

end Admitted

/-- Two enabled lcores admit no port in common. -/
theorem saPoolInit_disjoint {nlcore : UInt8} {lcoreMask : UInt64} {flows : Nat → SaFlow}
    (init : saPoolInit nlcore lcoreMask = some flows)
    (count : lcoreRank lcoreMask 64 ≤ nlcore.toNat) {c c' : Nat}
    (enabled : c < 64 ∧ lcoreEnabled lcoreMask c) (enabled' : c' < 64 ∧ lcoreEnabled lcoreMask c')
    (ne : c ≠ c') (port : Nat) (admits : flowAdmits (flows c) port = true) :
    flowAdmits (flows c') port = false := by
  have base := (flowAdmits_iff (saPoolInit_flowOk init count c) port).mp admits
  rw [Bool.eq_false_iff]
  intro admits'
  have base' := (flowAdmits_iff (saPoolInit_flowOk init count c') port).mp admits'
  rw [saPoolInit_flows init, if_pos enabled] at base
  rw [saPoolInit_flows init, if_pos enabled'] at base'
  have rank := lcoreRank_le lcoreMask c
  have rank' := lcoreRank_le lcoreMask c'
  simp only [initFlowOf, ntohs_htons, toNat_toUInt16] at base base'
  -- the bases are the ranks, and distinct lcores have distinct ranks
  rcases Nat.lt_or_gt_of_ne ne with lt | gt
  · have := lcoreRank_lt enabled.2 lt
    omega
  · have := lcoreRank_lt enabled'.2 gt
    omega

end Dpvs.Sa
