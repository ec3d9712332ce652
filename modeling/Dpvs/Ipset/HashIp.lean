import Dpvs.Ipset.HashNet
import Dpvs.Lib.WhileLoop

/-!
# The `hash:ip` set type and its address loop

`src/ipset/ipset_hash_ip.c`: an element is one address with a comment, and only the
address is hashed and compared. An add or a delete of an IPv4 range runs
`for (; ip <= ip_to; ip++)` over `uint32_t` addresses, one call of the engine per
address, and returns at the first call that fails.

Below the last address the loop is what it means to be: one call per address of the
range, in order, stopping at the first error (`hashIpAdt4Loop_below_max`). At the last
address it is not: `ip <= 0xffffffff` holds of every `uint32_t`, so after
`255.255.255.255` the counter wraps to `0.0.0.0` and the loop goes on, and a delete with
`IPSET_F_FORCE`, whose every call succeeds, never returns
(`hash_ip_force_delete_to_broadcast_never_returns`).
-/

namespace Dpvs.Ipset

/-- The `hash:ip` element; an IPv4 address is in the first word. -/
structure IpElem where
  ip : InetAddr
  comment : String
  deriving DecidableEq, Repr

/-- An element with no address and no comment. -/
def IpElem.zero : IpElem := ⟨⟨0, 0, 0, 0⟩, ""⟩

/-- `hash_ip_data_equal4`. -/
def hashIpDataEqual4 (probe stored : IpElem) : CompareResult :=
  if probe.ip.w0 = stored.ip.w0 then .equalAccept else .inequal

/-- `hash_ip_data_equal6`. -/
def hashIpDataEqual6 (probe stored : IpElem) : CompareResult :=
  if probe.ip = stored.ip then .equalAccept else .inequal

/-- `hash_ip_hashkey4`. -/
def hashIpHashkey4 (e : IpElem) (mask : UInt32) : UInt32 := (e.ip.w0 * 31) &&& mask

/-- `jhash_hashkey` over the address, the `hash_len` bytes of a `hash:ip` element. -/
def ipJhashHashkey (rteJhash : List UInt8 → UInt32 → UInt32) (e : IpElem) (mask : UInt32) :
    UInt32 :=
  rteJhash e.ip.bytes 0 &&& mask

/-- The engine's view of a `hash:ip` element: no prefix lengths, and an overwrite copies
the comment. -/
def ipOps (compare : IpElem → IpElem → CompareResult) (hash : IpElem → UInt32 → UInt32) :
    HashOps IpElem where
  doCompare := compare
  doNetmask := fun e _ _ => e
  doHash := hash
  overwrite := fun stored probe => { stored with comment := probe.comment }
  cidr := fun _ => 0
  cidr2 := fun _ => 0
  ip2 := fun _ => ⟨0, 0, 0, 0⟩
  setIp2 := fun e _ => e

/-- `hash_ip_variant4`. -/
def hashIpVariant4 : HashOps IpElem := ipOps hashIpDataEqual4 hashIpHashkey4

/-- `hash_ip_variant6`. -/
def hashIpVariant6 (rteJhash : List UInt8 → UInt32 → UInt32) : HashOps IpElem :=
  ipOps hashIpDataEqual6 (ipJhashHashkey rteJhash)

/-- What `hash_ip_create` fixes for a set, on top of `hash_create`: no prefix lengths. -/
def hashIpConf (family : Int) (hashsize maxelem : Nat) (comment : Bool) : HashConf :=
  { family, netCount := 0, mask := (hashsize - 1).toUInt32, maxelem, comment }

/-- The element an add or a delete starts from: the request's comment on an add to a
set with comments. -/
def ipAdtElem (conf : HashConf) (op : IpsetOp) (p : IpsetParam) : IpElem :=
  if conf.comment ∧ op = .add then { IpElem.zero with comment := copyComment p.comment }
  else IpElem.zero

/-- One round of `for (; ip <= ip_to; ip++)` in `hash_ip_adt4`: the engine's call for
the address `ip`, and on success the next address, in `uint32_t` arithmetic. -/
def hashIpAdt4Round (conf : HashConf) (poolOk : Bool) (op : IpsetOp) (flag : UInt16)
    (e : IpElem) (st : UInt32 × HashSet IpElem) :
    Except (AdtRet × HashSet IpElem) (UInt32 × HashSet IpElem) :=
  let r := hashAdtfn hashIpVariant4 conf poolOk op st.2
    { e with ip := { e.ip with w0 := beToCpu32 st.1 } } flag
  if r.1 = .code .ok then .ok (st.1 + 1, r.2) else .error r

/-- The test of `for (; ip <= ip_to; ip++)`. -/
def ipInRange (ipTo : UInt32) (st : UInt32 × HashSet IpElem) : Bool := decide (st.1 ≤ ipTo)

/-- The address loop of `hash_ip_adt4`, within `fuel` rounds. -/
def hashIpAdt4Loop (conf : HashConf) (poolOk : Bool) (op : IpsetOp) (flag : UInt16)
    (e : IpElem) (ipTo : UInt32) (fuel : Nat) (ip : UInt32) (s : HashSet IpElem) :
    Option (AdtRet × HashSet IpElem) :=
  (WhileLoop.run (ipInRange ipTo) (hashIpAdt4Round conf poolOk op flag e)
      fuel (ip, s)).map fun
    | .ok st => (.code .ok, st.2)
    | .error r => r

/-- `hash_ip_adt4` within `fuel` rounds of its loop: a test looks the first address up;
an add or a delete covers the network of the prefix length, or else the range. -/
def hashIpAdt4 (fuel : Nat) (poolOk : Bool) (op : IpsetOp) (conf : HashConf)
    (s : HashSet IpElem) (p : IpsetParam) : Option (AdtRet × HashSet IpElem) :=
  if p.family ≠ afInet then some (.code .inval, s)
  else if op = .test then
    some (hashAdtfn hashIpVariant4 conf poolOk .test s
      { IpElem.zero with ip := { IpElem.zero.ip with w0 := p.minAddr.w0 } } 0)
  else
    let ip := beToCpu32 p.minAddr.w0
    let (ip, ipTo) :=
      if p.cidr ≠ 0 then
        (ip &&& ipSetHostmask p.cidr, (ip &&& ipSetHostmask p.cidr) ||| ~~~ipSetHostmask p.cidr)
      else (ip, beToCpu32 p.maxAddr.w0)
    hashIpAdt4Loop conf poolOk op p.flag (ipAdtElem conf op p) ipTo fuel ip s

/-- `hash_ip_adt6`: one call for the request's address. -/
def hashIpAdt6 (rteJhash : List UInt8 → UInt32 → UInt32) (poolOk : Bool) (op : IpsetOp)
    (conf : HashConf) (s : HashSet IpElem) (p : IpsetParam) : AdtRet × HashSet IpElem :=
  if p.family ≠ afInet6 then (.code .inval, s)
  else hashAdtfn (hashIpVariant6 rteJhash) conf poolOk op s
    { ipAdtElem conf op p with ip := p.minAddr } p.flag

section Loop

variable (conf : HashConf) (poolOk : Bool) (op : IpsetOp) (flag : UInt16) (e : IpElem)

/-- The engine's call for the address `ip`. -/
abbrev adtAt (s : HashSet IpElem) (ip : UInt32) : AdtRet × HashSet IpElem :=
  hashAdtfn hashIpVariant4 conf poolOk op s { e with ip := { e.ip with w0 := beToCpu32 ip } } flag

theorem hashIpAdt4Loop_succ_of_lt {ipTo ip : UInt32} (fuel : Nat) (s : HashSet IpElem)
    (past : ipTo < ip) :
    hashIpAdt4Loop conf poolOk op flag e ipTo (fuel + 1) ip s = some (.code .ok, s) := by
  have test : ipInRange ipTo (ip, s) = false := decide_eq_false (UInt32.not_le.mpr past)
  unfold hashIpAdt4Loop
  rw [WhileLoop.run_succ_of_not _ test]
  rfl

/-- One round inside the range: the call for `ip`, and the rest of the loop from
`ip + 1` when it succeeds. -/
theorem hashIpAdt4Loop_succ_of_le {ipTo ip : UInt32} (fuel : Nat) (s : HashSet IpElem)
    (inside : ip ≤ ipTo) :
    hashIpAdt4Loop conf poolOk op flag e ipTo (fuel + 1) ip s =
      if (adtAt conf poolOk op flag e s ip).1 = .code .ok then
        hashIpAdt4Loop conf poolOk op flag e ipTo fuel (ip + 1) (adtAt conf poolOk op flag e s ip).2
      else some (adtAt conf poolOk op flag e s ip) := by
  have test : ipInRange ipTo (ip, s) = true := decide_eq_true inside
  unfold hashIpAdt4Loop
  by_cases ok : (adtAt conf poolOk op flag e s ip).1 = .code .ok
  · have round : hashIpAdt4Round conf poolOk op flag e (ip, s) =
        .ok (ip + 1, (adtAt conf poolOk op flag e s ip).2) := if_pos ok
    rw [WhileLoop.run_succ_of_ok _ test round, if_pos ok]
  · have round : hashIpAdt4Round conf poolOk op flag e (ip, s) =
        .error (adtAt conf poolOk op flag e s ip) := if_neg ok
    rw [WhileLoop.run_succ_of_error _ test round, if_neg ok]
    rfl

/-! ## The loop below the last address -/

/-- The calls of the loop over a list of addresses, stopping at the first that fails. -/
def adtAddrs : List UInt32 → HashSet IpElem → AdtRet × HashSet IpElem
  | [], s => (.code .ok, s)
  | ip :: ips, s =>
    if (adtAt conf poolOk op flag e s ip).1 = .code .ok then
      adtAddrs ips (adtAt conf poolOk op flag e s ip).2
    else adtAt conf poolOk op flag e s ip

/-- The addresses `ip, ip + 1, …` of a range of `n` addresses. -/
def addrsFrom (ip : UInt32) (n : Nat) : List UInt32 := (List.range n).map fun k => ip + k.toUInt32

theorem addrsFrom_succ (ip : UInt32) (n : Nat) :
    addrsFrom ip (n + 1) = ip :: addrsFrom (ip + 1) n := by
  unfold addrsFrom
  rw [List.range_succ_eq_map, List.map_cons, List.map_map]
  congr 1
  · simp
  · refine List.map_congr_left fun k _ => ?_
    simp only [Function.comp_apply, Nat.toUInt32_eq, Nat.succ_eq_add_one, UInt32.ofNat_add,
      UInt32.ofNat_one]
    ac_rfl

/-- Below the last address the loop makes one call per address from `ip` to `ipTo`, in
order, and stops at the first that fails; more rounds than addresses are enough. -/
theorem hashIpAdt4Loop_below_max {ipTo : UInt32} (below : ipTo.toNat < 0xffffffff) :
    ∀ (n : Nat) (ip : UInt32) (s : HashSet IpElem) (fuel : Nat),
      ip.toNat + n = ipTo.toNat + 1 → n < fuel →
      hashIpAdt4Loop conf poolOk op flag e ipTo fuel ip s =
        some (adtAddrs conf poolOk op flag e (addrsFrom ip n) s)
  | 0, ip, s, fuel + 1, last, _ => by
    -- past the end: `ip = ipTo + 1` fails the test
    rw [hashIpAdt4Loop_succ_of_lt _ _ _ _ _ _ _ (by simp only [UInt32.lt_iff_toNat_lt]; omega)]
    rfl
  | n + 1, ip, s, fuel + 1, last, enough => by
    have next : (ip + 1).toNat = ip.toNat + 1 := by
      rw [UInt32.toNat_add, UInt32.toNat_one]
      omega
    rw [hashIpAdt4Loop_succ_of_le _ _ _ _ _ _ _ (by simp only [UInt32.le_iff_toNat_le]; omega),
      addrsFrom_succ, adtAddrs]
    split
    · exact hashIpAdt4Loop_below_max below n (ip + 1) _ fuel (by omega) (by omega)
    · rfl

end Loop

/-! ## The loop at the last address -/

/-- A delete with `IPSET_F_FORCE` succeeds whether the address is there or not. -/
theorem hashDel_force_ok {α : Type} (ops : HashOps α) (conf : HashConf) (s : HashSet α)
    (value : α) {flag : UInt16} (force : flag &&& ipsetFForce ≠ 0) :
    (hashDel ops conf s value flag).1 = .ok := by
  unfold hashDel
  simp only [ne_eq, force, not_false_eq_true, if_true]
  split <;> rfl

/-- With `IPSET_F_FORCE`, a range that ends at `255.255.255.255` is deleted forever:
every round succeeds and `ip <= 0xffffffff` holds of every counter. -/
theorem hashIpAdt4Loop_force_del_eq_none (conf : HashConf) (poolOk : Bool) {flag : UInt16}
    (force : flag &&& ipsetFForce ≠ 0) (e : IpElem) (fuel : Nat) (ip : UInt32)
    (s : HashSet IpElem) :
    hashIpAdt4Loop conf poolOk .del flag e 0xffffffff fuel ip s = none := by
  unfold hashIpAdt4Loop
  rw [WhileLoop.run_eq_none (fun _ => True) _ fuel (ip, s) trivial, Option.map_none]
  intro st _
  have top : st.1 ≤ 0xffffffff := UInt32.le_iff_toNat_le.mpr (by have := st.1.toNat_lt; simp; omega)
  have ok := hashDel_force_ok hashIpVariant4 conf st.2
    { e with ip := { e.ip with w0 := beToCpu32 st.1 } } force
  refine ⟨decide_eq_true top, (st.1 + 1, (adtAt conf poolOk .del flag e st.2 st.1).2), ?_, trivial⟩
  exact if_pos (by simp only [hashAdtfn, ok])

/-- An IPv4 `hash:ip` set with the default sizes. -/
def ip4Conf : HashConf := hashIpConf afInet 1024 65535 false

/-- `dpip ipset del` of the whole range `0.0.0.0-255.255.255.255` with `-F`. -/
def delAllForce : IpsetParam :=
  { opcode := .del, flag := ipsetFForce, family := afInet, cidr := 0, minAddr := ⟨0, 0, 0, 0⟩,
    maxAddr := ⟨0xffffffff, 0, 0, 0⟩, noMatch := false, comment := "" }

theorem hash_ip_force_delete_to_broadcast_never_returns (fuel : Nat) (poolOk : Bool)
    (conf : HashConf) (s : HashSet IpElem) (p : IpsetParam) (family : p.family = afInet)
    (cidr : p.cidr = 0) (top : p.maxAddr.w0 = 0xffffffff) (force : p.flag &&& ipsetFForce ≠ 0) :
    hashIpAdt4 fuel poolOk .del conf s p = none := by
  have last : beToCpu32 0xffffffff = 0xffffffff := by decide
  unfold hashIpAdt4
  simp only [family, cidr, top, last, ne_eq, not_true_eq_false, if_false, reduceCtorEq]
  exact hashIpAdt4Loop_force_del_eq_none conf poolOk force _ fuel _ s

theorem force_delete_of_all_addresses_never_returns :
    delAllForce.flag &&& ipsetFForce ≠ 0 ∧
      hashIpAdt4 4294967296 true .del ip4Conf .empty delAllForce = none :=
  ⟨by decide, hash_ip_force_delete_to_broadcast_never_returns 4294967296 true ip4Conf .empty
    delAllForce rfl rfl rfl (by decide)⟩

end Dpvs.Ipset
