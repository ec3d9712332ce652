import Dpvs.Basic
import Dpvs.Lib.FirstMatch

/-!
# Hash ipsets

`src/ipset/ipset_hash.c` is one hash engine shared by every `hash:*` set type.
A type plugs in through `struct ipset_type_variant`: how to compare a probe with
a stored element, how to cut an element's address to a prefix, and how to hash
the first `hash_len` bytes of an element. Elements of types with nets start with
the common layout `ip1, cidr, ip2, cidr2`, which the engine reads through a cast.
`hash_test` of a bare address (cidr 0) tries, from the longest prefix down, every
prefix length that `cidr_map` says some entry has, cutting the probe in place.

The engine is generic here over the element type and a `HashOps` record; the
model of `hash:net` (`src/ipset/ipset_hash_net.c`) instantiates it for IPv4 and
IPv6. `rte_jhash` is a parameter over the bytes it hashes; an allocation from the
entry mempool is an argument of `hash_add`.
-/

namespace Dpvs.Ipset

/-! ## Prefix masks (`src/ipset/pfxlen.c`) -/

/-- Word `k` of `ip_set_hostmask_map[p]`: the first `p` bits of the address that fall
in word `k`, in host order. -/
def hostmaskWord (p k : Nat) : UInt32 :=
  let bits := min 32 (p - 32 * k)
  let full : UInt32 := 0xffffffff
  if bits = 0 then 0 else full <<< (32 - bits).toUInt32

/-- Word `k` of `ip_set_netmask_map[p]`: the same mask through `htonl`. -/
def netmaskWord (p k : Nat) : UInt32 := beToCpu32 (hostmaskWord p k)

/-- `ip_set_netmask`. -/
def ipSetNetmask (pfxlen : UInt8) : UInt32 := netmaskWord pfxlen.toNat 0

/-- `ip_set_hostmask`. -/
def ipSetHostmask (pfxlen : UInt8) : UInt32 := hostmaskWord pfxlen.toNat 0

/-- `ip6_netmask`: each word of the address under the prefix's mask. -/
def ip6Netmask (ip : InetAddr) (pfx : UInt8) : InetAddr :=
  ⟨ip.w0 &&& netmaskWord pfx.toNat 0, ip.w1 &&& netmaskWord pfx.toNat 1,
    ip.w2 &&& netmaskWord pfx.toNat 2, ip.w3 &&& netmaskWord pfx.toNat 3⟩

/-- `after` of `pfxlen.c`: sequence comparison through a signed difference. -/
def after (seq1 seq2 : UInt32) : Bool := (seq1 - seq2).toInt32 > 0

/-- `ip_set_range_to_cidr`: the largest network that starts at `lo` and ends by
`hi`, as its last address and prefix length. -/
def ipSetRangeToCidr (lo hi : UInt32) : UInt32 × UInt8 :=
  let fits := fun i : Nat =>
    (lo &&& ipSetHostmask i.toUInt8) == lo && !after (lo ||| ~~~ipSetHostmask i.toUInt8) hi
  match (List.range 32).find? fits with
  | some i => (lo ||| ~~~ipSetHostmask i.toUInt8, i.toUInt8)
  | none => (lo, 32)

/-- `after` of the last address and a bound below `2^31`: their difference is at least
`2^31`, which is negative as a signed word. -/
theorem after_max_of_le {hi : UInt32} (h : hi ≤ 0x7fffffff) : after 0xffffffff hi = false := by
  have hn : hi.toNat ≤ 0x7fffffff := h
  have diff : (0xffffffff - hi).toNat = 0xffffffff - hi.toNat :=
    UInt32.toNat_sub_of_le _ _ (UInt32.le_iff_toNat_le.mpr (by simp; omega))
  unfold after
  rw [decide_eq_false_iff_not, gt_iff_lt, Int32.lt_iff_toInt_lt]
  change ¬ (0 : Int) < (0xffffffff - hi).toBitVec.toInt
  rw [BitVec.toInt_eq_toNat_cond, UInt32.toNat_toBitVec, diff]
  omega

/-- The scan over the prefix lengths stops at 0 when 0 fits. Stated for the literal
`32` of the scan, so that no proof asks the kernel to see `32` as `31 + 1` inside it. -/
theorem find?_range32_of_zero {f : Nat → Bool} (h0 : f 0 = true) :
    (List.range 32).find? f = some 0 := by
  rw [List.range_succ_eq_map, List.find?_cons_of_pos h0]

/-- From `0.0.0.0`, every range that ends below `128.0.0.0` gets the whole address
space: prefix length 0 is tried first, its network ends at `0xffffffff`, and `after`
does not see that this is past the end of the range. -/
theorem ipSetRangeToCidr_zero {hi : UInt32} (h : hi ≤ 0x7fffffff) :
    ipSetRangeToCidr 0 hi = ((0xffffffff : UInt32), (0 : UInt8)) := by
  have whole : (0 : UInt32) ||| ~~~ipSetHostmask (0 : Nat).toUInt8 = 0xffffffff := by decide
  have aligned : ((0 : UInt32) &&& ipSetHostmask (0 : Nat).toUInt8 == 0) = true := by decide
  rw [ipSetRangeToCidr.eq_1, find?_range32_of_zero
    (by rw [aligned, whole, after_max_of_le h]; rfl)]
  dsimp only
  rw [whole]
  rfl

/-! ## The engine -/

/-- `enum HASH_COMPARE_RESULT`. -/
inductive CompareResult where
  | inequal
  | equalAccept
  | equalReject
  deriving DecidableEq, Repr

/-- `IPSET_OP_*` of the calls that reach a type's `adt`. -/
inductive IpsetOp where
  | add
  | del
  | test
  deriving DecidableEq, Repr

/-- `IPSET_F_FORCE`. -/
def ipsetFForce : UInt16 := 0x0001

/-- What a set type gives the engine: `do_compare` (probe, stored), `do_netmask`,
`do_hash` with the table mask, the copy of the bytes past `hash_len` that an
overwrite makes (stored, probe), and the fields of the common layout. -/
structure HashOps (α : Type) where
  doCompare : α → α → CompareResult
  doNetmask : α → UInt8 → Bool → α
  doHash : α → UInt32 → UInt32
  overwrite : α → α → α
  cidr : α → UInt8
  cidr2 : α → UInt8
  ip2 : α → InetAddr
  setIp2 : α → InetAddr → α

/-- The fields of `struct ipset` and `struct hash_type` the engine reads but never
writes. -/
structure HashConf where
  family : Int
  netCount : Nat
  mask : UInt32
  maxelem : Nat
  comment : Bool
  deriving DecidableEq, Repr

/-- The engine's state: the buckets, `set->elements` and `cidr_map[129][2]`. -/
structure HashSet (α : Type) where
  htable : Nat → List α
  elements : Nat
  cidrMap : Nat → Nat → UInt32

/-- A set just created: no entries, every count zero. -/
def HashSet.empty {α : Type} : HashSet α := ⟨fun _ => [], 0, fun _ _ => 0⟩

section Engine

variable {α : Type} (ops : HashOps α) (conf : HashConf)

/-- The bucket of an element. -/
def bucketOf (value : α) : Nat := (ops.doHash value conf.mask).toNat

/-- One count of `cidr_map` moved by `delta`, in `uint32_t` arithmetic. -/
def bumpCidr (m : Nat → Nat → UInt32) (c k : Nat) (delta : UInt32) : Nat → Nat → UInt32 :=
  fun c' k' => if c' = c ∧ k' = k then m c k + delta else m c' k'

/-- The `cidr_map` update of `hash_add` (`delta = 1`) and `hash_del` (`delta = -1`),
by the probe's prefix lengths. -/
def cidrMapMove (m : Nat → Nat → UInt32) (value : α) (delta : UInt32) : Nat → Nat → UInt32 :=
  let m := if conf.netCount > 0 then bumpCidr m (ops.cidr value).toNat 0 delta else m
  if conf.netCount = 2 then bumpCidr m (ops.cidr2 value).toNat 1 delta else m

/-- `hash_add`. An entry that compares equal is an error only when `flag` is zero:
the guard `!flag & IPSET_F_FORCE` parses as `(!flag) & IPSET_F_FORCE`; otherwise the
stored entry takes the probe's extension. `poolOk` is whether the mempool has an
entry to give. -/
def hashAdd (poolOk : Bool) (s : HashSet α) (value : α) (flag : UInt16) : Edpvs × HashSet α :=
  if s.elements ≥ conf.maxelem then (.nomem, s)
  else
    let key := bucketOf ops conf value
    let hit := fun stored => ops.doCompare value stored != .inequal
    match (s.htable key).find? hit with
    | some _ =>
      if ((if flag = 0 then 1 else 0 : UInt16) &&& ipsetFForce) ≠ 0 then (.exist, s)
      else
        let bucket := FirstMatch.update hit (fun stored => ops.overwrite stored value) (s.htable key)
        (.ok, { s with htable := Function.update s.htable key bucket })
    | none =>
      if !poolOk then (.nomem, s)
      else
        (.ok, { htable := Function.update s.htable key (s.htable key ++ [value])
                elements := s.elements + 1
                cidrMap := cidrMapMove ops conf s.cidrMap value 1 })

/-- `hash_del`: the first entry of the bucket that compares equal goes, and the counts
are moved down by the probe's prefix lengths. -/
def hashDel (s : HashSet α) (value : α) (flag : UInt16) : Edpvs × HashSet α :=
  let key := bucketOf ops conf value
  let hit := fun stored => ops.doCompare value stored != .inequal
  match (s.htable key).find? hit with
  | some _ =>
    (.ok, { htable := Function.update s.htable key ((s.htable key).eraseP hit)
            elements := s.elements - 1
            cidrMap := cidrMapMove ops conf s.cidrMap value (-1) })
  | none => (if flag &&& ipsetFForce ≠ 0 then .ok else .notexist, s)

/-- `do_test`: the first verdict of the probe's bucket. -/
def doTest (s : HashSet α) (value : α) : CompareResult :=
  match (s.htable (bucketOf ops conf value)).find? fun stored =>
      ops.doCompare value stored != .inequal with
  | some stored => ops.doCompare value stored
  | none => .inequal

/-- The loop of `test_cidrs` for one net, over the prefix lengths still to try, the
probe cut in place as it goes. -/
def testCidrsOne (s : HashSet α) : List Nat → α → Nat
  | [], _ => 0
  | i :: is, value =>
    if s.cidrMap i 0 = 0 then testCidrsOne s is value
    else
      let value := ops.doNetmask value i.toUInt8 false
      match doTest ops conf s value with
      | .equalAccept => 1
      | .equalReject => 0
      | .inequal => testCidrsOne s is value

/-- The inner loop of `test_cidrs` for two nets: a verdict, or the probe as the loop
leaves it. -/
def testCidrsInner (s : HashSet α) : List Nat → α → Nat ⊕ α
  | [], value => .inr value
  | j :: js, value =>
    if s.cidrMap j 1 = 0 then testCidrsInner s js value
    else
      let value := ops.doNetmask value j.toUInt8 true
      match doTest ops conf s value with
      | .equalAccept => .inl 1
      | .equalReject => .inl 0
      | .inequal => testCidrsInner s js value

/-- The outer loop of `test_cidrs` for two nets: the second address is put back at
the top of every round, the first stays cut. -/
def testCidrsTwo (s : HashSet α) (ip2Save : InetAddr) (hostMasks : List Nat) :
    List Nat → α → Nat
  | [], _ => 0
  | i :: is, value =>
    let value := ops.setIp2 value ip2Save
    if s.cidrMap i 0 = 0 then testCidrsTwo s ip2Save hostMasks is value
    else
      let value := ops.doNetmask value i.toUInt8 false
      match testCidrsInner ops conf s hostMasks value with
      | .inl res => res
      | .inr value => testCidrsTwo s ip2Save hostMasks is value

/-- The prefix lengths `test_cidrs` tries, from the host length down to 0. -/
def prefixesDown : Nat → List Nat
  | 0 => [0]
  | n + 1 => (n + 1) :: prefixesDown n

/-- `test_cidrs`. -/
def testCidrs (s : HashSet α) (value : α) : Nat :=
  let hostMask := if conf.family = afInet then 32 else 128
  if conf.netCount = 1 then testCidrsOne ops conf s (prefixesDown hostMask) value
  else testCidrsTwo ops conf s (ops.ip2 value) (prefixesDown hostMask) (prefixesDown hostMask) value

/-- `hash_test`: a probe without prefix lengths tries every recorded length; any
other probe is looked up as it is. -/
def hashTest (s : HashSet α) (value : α) : Nat :=
  if (conf.netCount = 1 ∧ ops.cidr value = 0) ∨
      (conf.netCount = 2 ∧ ops.cidr value = 0 ∧ ops.cidr2 value = 0) then
    testCidrs ops conf s value
  else if doTest ops conf s value = .equalAccept then 1 else 0

/-- What `adtfn` returns: an `EDPVS_*` code for an add or a delete, the verdict of a
test. -/
inductive AdtRet where
  | code (e : Edpvs)
  | verdict (v : Nat)
  deriving DecidableEq, Repr

/-- `hash_adtfn`, indexed by the operation; a test leaves the table as it is. -/
def hashAdtfn (poolOk : Bool) (op : IpsetOp) (s : HashSet α) (value : α) (flag : UInt16) :
    AdtRet × HashSet α :=
  match op with
  | .add => let r := hashAdd ops conf poolOk s value flag; (.code r.1, r.2)
  | .del => let r := hashDel ops conf s value flag; (.code r.1, r.2)
  | .test => (.verdict (hashTest ops conf s value), s)

end Engine

end Dpvs.Ipset
