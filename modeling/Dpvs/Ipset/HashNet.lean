import Dpvs.Ipset.Hash

/-!
# The `hash:net` set type

`src/ipset/ipset_hash_net.c`: an element is a network (`ip`, `cidr`) with a
comment and a `nomatch` mark; the first `hash_len = offsetof(elem_t, comment)`
bytes, the address and the prefix length, are what is hashed and compared. The
IPv4 variant hashes those bytes by hand and splits an address range into
networks; the IPv6 variant hashes them with `rte_jhash` and cuts the address to
its prefix only when the request gives a prefix length.
-/

namespace Dpvs.Ipset

/-- `IPSET_MAXCOMLEN`. -/
def ipsetMaxcomlen : Nat := 32

/-- The `hash:net` element. -/
structure NetElem where
  ip : InetAddr
  cidr : UInt8
  comment : String
  noMatch : Bool
  deriving DecidableEq, Repr

/-- The fields of `struct ipset_param` that `hash:net` reads. -/
structure IpsetParam where
  opcode : IpsetOp
  flag : UInt16
  family : Int
  cidr : UInt8
  minAddr : InetAddr
  maxAddr : InetAddr
  noMatch : Bool
  comment : String
  deriving DecidableEq, Repr

/-- `rte_strlcpy` into the comment field. -/
def copyComment (comment : String) : String :=
  String.ofList (comment.toList.take (ipsetMaxcomlen - 1))

/-- The zeroed element a `memset` leaves. -/
def NetElem.zero : NetElem := ⟨⟨0, 0, 0, 0⟩, 0, "", false⟩

/-- The verdict of a hit: `COMPARE_EQUAL_REJECT` for a `nomatch` entry. -/
def verdictOf (stored : NetElem) : CompareResult :=
  if stored.noMatch then .equalReject else .equalAccept

/-- `hash_net_data_equal4`: the IPv4 address and the prefix length. -/
def hashNetDataEqual4 (probe stored : NetElem) : CompareResult :=
  if probe.ip.w0 = stored.ip.w0 ∧ probe.cidr = stored.cidr then verdictOf stored else .inequal

/-- `hash_net_data_equal6`: `memcmp` of the sixteen address bytes and the prefix length. -/
def hashNetDataEqual6 (probe stored : NetElem) : CompareResult :=
  if probe.ip = stored.ip ∧ probe.cidr = stored.cidr then verdictOf stored else .inequal

/-- `hash_net_hashkey4`. -/
def hashNetHashkey4 (e : NetElem) (mask : UInt32) : UInt32 :=
  (e.ip.w0 * 31 + e.cidr.toUInt32 * 31) &&& mask

/-- `jhash_hashkey` over the `hash_len` bytes of a `hash:net` element. -/
def jhashHashkey (rteJhash : List UInt8 → UInt32 → UInt32) (e : NetElem) (mask : UInt32) :
    UInt32 :=
  rteJhash (e.ip.bytes ++ [e.cidr]) 0 &&& mask

/-- `hash_data_netmask4` on the first net. -/
def hashDataNetmask4 (e : NetElem) (cidr : UInt8) : NetElem :=
  { e with ip := { e.ip with w0 := e.ip.w0 &&& ipSetNetmask cidr }, cidr }

/-- `hash_data_netmask6` on the first net. -/
def hashDataNetmask6 (e : NetElem) (cidr : UInt8) : NetElem :=
  { e with ip := ip6Netmask e.ip cidr, cidr }

/-- The engine's view of a `hash:net` element. With one net the engine never reads
the second net of the common layout, so it reads as zero here. -/
def netOps (compare : NetElem → NetElem → CompareResult) (netmask : NetElem → UInt8 → NetElem)
    (hash : NetElem → UInt32 → UInt32) : HashOps NetElem where
  doCompare := compare
  doNetmask := fun e cidr _ => netmask e cidr
  doHash := hash
  overwrite := fun stored probe => { stored with comment := probe.comment, noMatch := probe.noMatch }
  cidr := NetElem.cidr
  cidr2 := fun _ => 0
  ip2 := fun _ => ⟨0, 0, 0, 0⟩
  setIp2 := fun e _ => e

/-- `hash_net_variant4`. -/
def hashNetVariant4 : HashOps NetElem := netOps hashNetDataEqual4 hashDataNetmask4 hashNetHashkey4

/-- `hash_net_variant6`. -/
def hashNetVariant6 (rteJhash : List UInt8 → UInt32 → UInt32) : HashOps NetElem :=
  netOps hashNetDataEqual6 hashDataNetmask6 (jhashHashkey rteJhash)

/-- What `hash_net_create` fixes for a set of the family, on top of `hash_create`. -/
def hashNetConf (family : Int) (hashsize maxelem : Nat) (comment : Bool) : HashConf :=
  { family, netCount := 1, mask := (hashsize - 1).toUInt32, maxelem, comment }

/-- The comment and `nomatch` an add request puts in its element. -/
def withAddExtension (conf : HashConf) (p : IpsetParam) (e : NetElem) : NetElem :=
  if p.opcode = .add then
    { e with comment := if conf.comment then copyComment p.comment else e.comment,
             noMatch := p.noMatch || e.noMatch }
  else e

@[simp] theorem withAddExtension_cidr (conf : HashConf) (p : IpsetParam) (e : NetElem) :
    (withAddExtension conf p e).cidr = e.cidr := by
  unfold withAddExtension
  split <;> rfl

@[simp] theorem withAddExtension_ip (conf : HashConf) (p : IpsetParam) (e : NetElem) :
    (withAddExtension conf p e).ip = e.ip := by
  unfold withAddExtension
  split <;> rfl

/-- The range loop of `hash_net_adt4`: each step files the largest network that
starts at `ip` and ends by `ipTo`, stops at the first error, and goes on from the
address after that network while it was below `ipTo`. -/
def hashNetAdt4Loop (conf : HashConf) (poolOk : Bool) (op : IpsetOp) (flag : UInt16)
    (ipTo : UInt32) (e : NetElem) : Nat → UInt32 → HashSet NetElem → AdtRet × HashSet NetElem
  | 0, _, s => (.code .ok, s)
  | fuel + 1, ip, s =>
    let (last, cidr) := ipSetRangeToCidr ip ipTo
    let e := { e with ip := { e.ip with w0 := beToCpu32 ip }, cidr }
    match hashAdtfn hashNetVariant4 conf poolOk op s e flag with
    | (.code .ok, s) =>
      if last < ipTo then hashNetAdt4Loop conf poolOk op flag ipTo e fuel (last + 1) s
      else (.code .ok, s)
    | r => r

/-- `hash_net_adt4`. A test looks the first address up with the request's prefix
length; an add or a delete covers the network of the prefix length, or else the
address range, one largest network at a time. -/
def hashNetAdt4 (poolOk : Bool) (op : IpsetOp) (conf : HashConf) (s : HashSet NetElem)
    (p : IpsetParam) : AdtRet × HashSet NetElem :=
  if conf.family ≠ p.family then (.code .inval, s)
  else
    let e := { NetElem.zero with cidr := p.cidr }
    if op = .test then
      hashAdtfn hashNetVariant4 conf poolOk .test s
        { e with ip := { e.ip with w0 := p.minAddr.w0 } } 0
    else
      let e := withAddExtension conf p e
      let ip := beToCpu32 p.minAddr.w0
      let (ip, ipTo) :=
        if e.cidr ≠ 0 then
          (ip &&& ipSetHostmask e.cidr, (ip &&& ipSetHostmask e.cidr) ||| ~~~ipSetHostmask e.cidr)
        else (ip, beToCpu32 p.maxAddr.w0)
      hashNetAdt4Loop conf poolOk op p.flag ipTo e 4294967296 ip s

/-- A round whose network ends at the last address is the loop's last: the loop returns
what filing that network returns. -/
theorem hashNetAdt4Loop_of_last (conf : HashConf) (poolOk : Bool) (op : IpsetOp) (flag : UInt16)
    {ipTo ip : UInt32} (e : NetElem) {fuel : Nat} (hf : 0 < fuel) (s : HashSet NetElem)
    {cidr : UInt8} (last : ipSetRangeToCidr ip ipTo = ((0xffffffff : UInt32), cidr)) :
    hashNetAdt4Loop conf poolOk op flag ipTo e fuel ip s =
      hashAdtfn hashNetVariant4 conf poolOk op s
        { e with ip := { e.ip with w0 := beToCpu32 ip }, cidr } flag := by
  cases fuel with
  | zero => omega
  | succ fuel =>
    rw [hashNetAdt4Loop, last]
    dsimp only
    split
    · next s' h =>
      -- `last < ip_to` fails: nothing is above the last address
      have bound := ipTo.toNat_lt
      rw [h, if_neg (by simp [UInt32.lt_iff_toNat_lt]; omega)]
    · rfl

/-- An add of `0.0.0.0/1` to a set of the request's family files one network, and it
is `0.0.0.0/0`. -/
theorem hashNetAdt4_zero_slash_one (poolOk : Bool) (conf : HashConf) (s : HashSet NetElem)
    {p : IpsetParam} (family : conf.family = p.family) (cidr : p.cidr = 1)
    (zero : p.minAddr.w0 = 0) :
    hashNetAdt4 poolOk .add conf s p =
      hashAdtfn hashNetVariant4 conf poolOk .add s
        { withAddExtension conf p { NetElem.zero with cidr := 1 } with
          ip := ⟨0, 0, 0, 0⟩, cidr := 0 } p.flag := by
  -- the network of `0.0.0.0/1` is the range `0.0.0.0-127.255.255.255`
  have net : (beToCpu32 0 &&& ipSetHostmask 1,
      beToCpu32 0 &&& ipSetHostmask 1 ||| ~~~ipSetHostmask 1) =
        ((0 : UInt32), (0x7fffffff : UInt32)) := by decide
  unfold hashNetAdt4
  simp only [family, ne_eq, not_true_eq_false, if_false, cidr, zero, reduceCtorEq,
    withAddExtension_cidr]
  rw [if_pos (show ¬(1 : UInt8) = 0 by decide), net]
  dsimp only
  rw [hashNetAdt4Loop_of_last _ _ _ _ _ (by decide) _ (ipSetRangeToCidr_zero (UInt32.le_refl _))]
  simp only [withAddExtension_ip]
  rfl

/-- A `hash:net` set of IPv4 networks with the default sizes. -/
def net4Conf : HashConf := hashNetConf afInet 1024 65535 false

/-- `dpip ipset add` of `0.0.0.0/1`. -/
def addZeroSlashOne : IpsetParam :=
  { opcode := .add, flag := 0, family := afInet, cidr := 1, minAddr := ⟨0, 0, 0, 0⟩,
    maxAddr := ⟨0, 0, 0, 0⟩, noMatch := false, comment := "" }

set_option maxRecDepth 8000 in
/-- From `0.0.0.0`, `ip_set_range_to_cidr` answers with the whole address space for
every range that ends below `128.0.0.0`, past the end of the range. So an add of
`0.0.0.0/1` files `0.0.0.0/0`, whatever the set holds; into an empty set it is the one
entry, and the set then holds every IPv4 address. -/
theorem range_to_cidr_overshoots_from_zero :
    (∀ hi : UInt32, hi ≤ 0x7fffffff →
      ipSetRangeToCidr 0 hi = ((0xffffffff : UInt32), (0 : UInt8))) ∧
    (∀ (poolOk : Bool) (conf : HashConf) (s : HashSet NetElem) (p : IpsetParam),
      conf.family = p.family → p.cidr = 1 → p.minAddr.w0 = 0 →
      hashNetAdt4 poolOk .add conf s p =
        hashAdtfn hashNetVariant4 conf poolOk .add s
          { withAddExtension conf p { NetElem.zero with cidr := 1 } with
            ip := ⟨0, 0, 0, 0⟩, cidr := 0 } p.flag) ∧
    (hashNetAdt4 true .add net4Conf .empty addZeroSlashOne).1 = .code .ok ∧
    (hashNetAdt4 true .add net4Conf .empty addZeroSlashOne).2.elements = 1 ∧
    (hashNetAdt4 true .add net4Conf .empty addZeroSlashOne).2.htable
        (bucketOf hashNetVariant4 net4Conf ⟨⟨0, 0, 0, 0⟩, 0, "", false⟩) =
      [⟨⟨0, 0, 0, 0⟩, 0, "", false⟩] := by
  have filed := hashNetAdt4_zero_slash_one true net4Conf .empty
    (p := addZeroSlashOne) rfl rfl rfl
  refine ⟨fun _ h => ipSetRangeToCidr_zero h,
    fun poolOk conf s _ => hashNetAdt4_zero_slash_one poolOk conf s, ?_⟩
  rw [filed]
  decide

/-- `hash_net_adt6`: the request's address, cut to its prefix length only when that
length is not zero. -/
def hashNetAdt6 (rteJhash : List UInt8 → UInt32 → UInt32) (poolOk : Bool) (op : IpsetOp)
    (conf : HashConf) (s : HashSet NetElem) (p : IpsetParam) : AdtRet × HashSet NetElem :=
  if conf.family ≠ p.family then (.code .inval, s)
  else
    let e := { NetElem.zero with ip := p.minAddr, cidr := p.cidr }
    let e := if e.cidr ≠ 0 then { e with ip := ip6Netmask e.ip e.cidr } else e
    let e := withAddExtension conf p e
    hashAdtfn (hashNetVariant6 rteJhash) conf poolOk op s e p.flag

/-- The packet test of a set type: the set's family must be the packet's, and the
probe is the bare source or destination address. -/
def hashNetTestWith (ops : HashOps NetElem) (family : Int) (conf : HashConf)
    (s : HashSet NetElem) (mbufAf : Int) (hdr : Option (InetAddr × InetAddr))
    (dstMatch : Bool) : Nat :=
  if conf.family ≠ family ∨ mbufAf ≠ family then 0
  else match hdr with
    | none => 0
    | some (src, dst) =>
      hashTest ops conf s { NetElem.zero with ip := if dstMatch then dst else src }

/-- `hash_net_test4`; the header gives `src_addr` and `dst_addr` in the first word. -/
def hashNetTest4 (conf : HashConf) (s : HashSet NetElem) (mbufAf : Int)
    (hdr : Option (InetAddr × InetAddr)) (dstMatch : Bool) : Nat :=
  hashNetTestWith hashNetVariant4 afInet conf s mbufAf hdr dstMatch

/-- `hash_net_test6`. -/
def hashNetTest6 (rteJhash : List UInt8 → UInt32 → UInt32) (conf : HashConf)
    (s : HashSet NetElem) (mbufAf : Int) (hdr : Option (InetAddr × InetAddr))
    (dstMatch : Bool) : Nat :=
  hashNetTestWith (hashNetVariant6 rteJhash) afInet6 conf s mbufAf hdr dstMatch

/-! ## An IPv6 entry given without a prefix length -/

/-- A `hash:net` set of IPv6 networks with the default sizes. -/
def net6Conf : HashConf := hashNetConf afInet6 1024 65535 false

/-- `2001::1`: the first word holds the bytes `20 01 00 00`, the last `00 00 00 01`. -/
def host2001 : InetAddr := ⟨0x00000120, 0, 0, 0x01000000⟩

/-- `dpip ipset add` of the bare address `2001::1`: the prefix length stays 0. -/
def add2001 : IpsetParam :=
  { opcode := .add, flag := 0, family := afInet6, cidr := 0, minAddr := host2001,
    maxAddr := host2001, noMatch := false, comment := "" }

/-- The entry the add files: `2001::1` with prefix length 0. -/
def bare2001 : NetElem := ⟨host2001, 0, "", false⟩

section Bare

variable (rteJhash : List UInt8 → UInt32 → UInt32)

/-- The add files the entry in the bucket its hash picks, whatever the hash, and counts
it once at prefix length 0. -/
theorem hashNetAdt6_add2001 :
    hashNetAdt6 rteJhash true .add net6Conf .empty add2001 =
      (.code .ok,
        { htable := Function.update (fun _ => [])
            (bucketOf (hashNetVariant6 rteJhash) net6Conf bare2001) [bare2001]
          elements := 1
          cidrMap := bumpCidr (fun _ _ => 0) 0 0 1 }) :=
  rfl

/-- With only prefix length 0 recorded, `test_cidrs` skips every other length. -/
theorem testCidrsOne_prefixesDown {ops : HashOps NetElem} {conf : HashConf}
    {s : HashSet NetElem} (only : ∀ i, i ≠ 0 → s.cidrMap i 0 = 0) (value : NetElem) :
    ∀ n, testCidrsOne ops conf s (prefixesDown n) value = testCidrsOne ops conf s [0] value
  | 0 => rfl
  | n + 1 => by
    rw [prefixesDown, testCidrsOne, if_pos (only (n + 1) (Nat.succ_ne_zero n))]
    exact testCidrsOne_prefixesDown only value n

/-- Any probe whose address is not `2001::1` misses the set of the one entry, in
whichever bucket its hash puts it. -/
theorem doTest_add2001 {probe : NetElem} (other : probe.ip ≠ host2001) :
    doTest (hashNetVariant6 rteJhash) net6Conf
      (hashNetAdt6 rteJhash true .add net6Conf .empty add2001).2 probe = .inequal := by
  rw [hashNetAdt6_add2001]
  unfold doTest
  rw [List.find?_eq_none.mpr]
  intro stored mem
  -- the only entry of any bucket is `2001::1`, which the probe does not equal
  have entry : stored = bare2001 := by
    simp only [Function.update_apply] at mem
    split at mem
    · simpa using mem
    · simp at mem
  subst entry
  simp [hashNetVariant6, netOps, hashNetDataEqual6, bare2001, other]

/-- `2001::1` is added as an entry of prefix length 0 that keeps its address bits.
`test_cidrs` then tries only length 0 and cuts the probe to `::`, which no entry
equals: a packet from `2001::1` is not in the set, although the entry's network,
of any length, holds that address. So it goes whatever `rte_jhash` computes. -/
theorem hash_net6_bare_address_never_matches :
    let added : AdtRet × HashSet NetElem := hashNetAdt6 rteJhash true .add net6Conf .empty add2001
    added.1 = .code .ok ∧ added.2.elements = 1 ∧ added.2.cidrMap 0 0 = 1 ∧
      (added.2.htable (bucketOf (hashNetVariant6 rteJhash) net6Conf
        ⟨host2001, 0, "", false⟩)) = [⟨host2001, 0, "", false⟩] ∧
      hashNetTest6 rteJhash net6Conf added.2 afInet6 (some (host2001, host2001)) false = 0 := by
  intro added
  have only : ∀ i, i ≠ 0 → added.2.cidrMap i 0 = 0 := by
    intro i ne
    simp [added, hashNetAdt6_add2001, bumpCidr, ne]
  have masked : ip6Netmask host2001 0 ≠ host2001 := by decide
  -- the probe has prefix length 0, so `test_cidrs` runs, and of its lengths only 0 is set
  have six : afInet6 ≠ afInet := by decide
  have tried : hashNetTest6 rteJhash net6Conf added.2 afInet6 (some (host2001, host2001)) false =
      testCidrsOne (hashNetVariant6 rteJhash) net6Conf added.2 (prefixesDown 128) bare2001 := by
    simp only [hashNetTest6, hashNetTestWith, hashTest, testCidrs, net6Conf, hashNetConf, ne_eq,
      not_true_eq_false, or_self, if_false, six, if_true, true_and, hashNetVariant6, netOps,
      NetElem.zero]
    simp [bare2001]
  have counted : added.2.cidrMap 0 0 = 1 := by simp [added, hashNetAdt6_add2001, bumpCidr]
  refine ⟨rfl, rfl, counted, by simp [added, hashNetAdt6_add2001, bare2001], ?_⟩
  rw [tried, testCidrsOne_prefixesDown only, testCidrsOne, counted, if_neg (by decide)]
  dsimp only
  rw [doTest_add2001 rteJhash masked]
  rfl

end Bare

end Dpvs.Ipset
