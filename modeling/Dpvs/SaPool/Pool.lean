import Dpvs.Basic

/-!
# The socket-address pool

`src/sa_pool.c` hands out the local `<address, port>` pairs of FNAT and SNAT
connections. Every worker lcore owns a pool per local address (`struct sa_pool`),
created by `sa_pool_create` with the port range `[low, high]`. The ports of one
lcore are those whose low `shift` bits equal the lcore's `port_base`
(`sa_pool_init`), so that the NIC's flow director sends the replies back to the
lcore that opened the connection.

A pool is `pool_hash_sz` buckets (`struct sa_entry_pool`), chosen by a hash of the
destination hint. `sa_pool_alloc_hash` gives every bucket its own array of entries
and puts every admitted port on its free list, so each bucket can hand out each
port once: the pool is unique per destination hash, not per pool.

The intrusive `used_enties`/`free_enties` lists are lists of indices into the
entry array, in list order. The entry array is a function from indices; its
memory comes from `rte_malloc`, which DPVS's heap hands out zero-filled, so an
entry nobody wrote is `SaEntry.zero`. The NIC filter (`sa_pool_add_filter`) and
the allocation failures of `sa_pool_create` are not modelled; the routing part
of `sa4_fetch`/`sa6_fetch` and the interface lookup of `sa_release` choose which
pool a call works on, and the model takes that pool as given.
-/

namespace Dpvs.Sa

/-- `MAX_PORT`. -/
def maxPort : Nat := 65536

def defMinPort : UInt16 := 1025

def defMaxPort : UInt16 := 65535

/-- `SA_F_USED`. -/
def saFUsed : UInt32 := 0x01

/-- `htons` and `ntohs` on the little-endian hosts DPVS runs on: a byte swap. -/
def bswap16 (x : UInt16) : UInt16 :=
  ((x &&& 0x00ff) <<< 8) ||| ((x &&& 0xff00) >>> 8)

def htons (x : UInt16) : UInt16 := bswap16 x

def ntohs (x : UInt16) : UInt16 := bswap16 x

theorem bswap16_bswap16 (x : UInt16) : bswap16 (bswap16 x) = x := by
  unfold bswap16
  apply UInt16.toBitVec_inj.mp
  simp only [UInt16.toBitVec_or, UInt16.toBitVec_and, UInt16.toBitVec_shiftLeft,
    UInt16.toBitVec_shiftRight]
  ext i hi
  -- bit by bit: every bit of the swap of the swap is the bit it started as
  interval_cases i <;> simp

@[simp] theorem ntohs_htons (x : UInt16) : ntohs (htons x) = x :=
  bswap16_bswap16 x

theorem htons_injective : Function.Injective htons := by
  intro x y h
  rw [← ntohs_htons x, h, ntohs_htons]

/-! ### Flows: the ports of each lcore -/

/-- `struct sa_flow`: an lcore may use the ports with `port & mask = ntohs(port_base)`. -/
structure SaFlow where
  mask : UInt16
  lcore : Nat
  portBase : UInt16
  shift : Nat
  deriving DecidableEq, Repr

/-- A flow of the static `sa_flows` array that `sa_pool_init` never wrote. -/
def SaFlow.zero : SaFlow := ⟨0, 0, 0, 0⟩

/-- Bit `cid` of `sa_lcore_mask`. -/
def lcoreEnabled (lcoreMask : UInt64) (cid : Nat) : Bool :=
  lcoreMask &&& ((1 : UInt64) <<< cid.toUInt64) != 0

/-- The loop `for (shift = 0; (0x1<<shift) < sa_nlcore; shift++)` from `shift`, with
`fuel` rounds left. -/
def maskBitsFrom (nlcore : Nat) : Nat → Nat → Nat
  | 0, shift => shift
  | fuel + 1, shift => if 1 <<< shift < nlcore then maskBitsFrom nlcore fuel (shift + 1) else shift

/-- The shift of `sa_pool_init`; `sa_nlcore` is a `uint8_t`, so eight rounds end the
loop. -/
def maskBits (nlcore : UInt8) : Nat :=
  maskBitsFrom nlcore.toNat 8 0

/-- `~((~0x0) << shift)` stored in the `uint16_t` mask. -/
def flowMask (shift : Nat) : UInt16 :=
  ~~~((~~~0) <<< shift.toUInt16)

/-- One round of the lcore loop of `sa_pool_init`: an enabled lcore gets the next
port base. -/
def initFlow (lcoreMask : UInt64) (shift : Nat) (acc : (Nat → SaFlow) × UInt16) (cid : Nat) :
    (Nat → SaFlow) × UInt16 :=
  if 64 ≤ cid || !lcoreEnabled lcoreMask cid then acc
  else (Function.update acc.1 cid ⟨flowMask shift, cid, htons acc.2, shift⟩, acc.2 + 1)

/-- `sa_pool_init` from the lcore count and mask of `netif_get_slave_lcores`. The loop
runs to `DPVS_MAX_LCORE` but skips every `cid ≥ 64`, so the model stops at 64. -/
def saPoolInit (nlcore : UInt8) (lcoreMask : UInt64) : Option (Nat → SaFlow) :=
  let shift := maskBits nlcore
  if 16 ≤ shift then none
  else some ((List.range 64).foldl (initFlow lcoreMask shift) (fun _ => SaFlow.zero, 0)).1

/-! ### Pools -/

/-- `struct sa_entry` without its list node. -/
structure SaEntry where
  flags : UInt32
  addr : InetAddr
  port : UInt16
  deriving DecidableEq, Repr

def SaEntry.zero : SaEntry := ⟨0, ⟨0, 0, 0, 0⟩, 0⟩

/-- `struct sa_entry_pool`: one hash bucket. -/
structure SaEntryPool where
  saEntries : Nat → SaEntry
  usedEnties : List Nat
  freeEnties : List Nat
  usedCnt : UInt16
  freeCnt : UInt16
  missCnt : UInt32
  shift : Nat

/-- `struct sa_pool`; `addr` is `ap->ifa->addr`. -/
structure SaPool where
  addr : InetAddr
  low : UInt16
  high : UInt16
  refcnt : Int
  poolHash : List SaEntryPool

/-- A fresh bucket: empty lists, zero counters. -/
def SaEntryPool.empty (shift : Nat) : SaEntryPool :=
  ⟨fun _ => SaEntry.zero, [], [], 0, 0, 0, shift⟩

instance : Inhabited SaEntryPool := ⟨SaEntryPool.empty 0⟩

/-- The port test of `sa_pool_alloc_hash`: a flow with a mask keeps the ports whose
masked bits are its base. -/
def flowAdmits (flow : SaFlow) (port : Nat) : Bool :=
  !(flow.mask != 0 && (port.toUInt16 &&& flow.mask) != ntohs flow.portBase)

/-- The ports of `[low, high]` that the buckets of a flow's lcore hold, in the
loop's order. -/
def admittedPorts (flow : SaFlow) (low high : UInt16) : List Nat :=
  (List.range' low.toNat (high.toNat + 1 - low.toNat)).filter (flowAdmits flow)

/-- `(uint16_t)(port >> pool->shift)`: where a port's entry sits. -/
def entryIndex (shift port : Nat) : Nat :=
  (port >>> shift) % maxPort

/-- One round of the port loop of `sa_pool_alloc_hash`: the port's entry gets the
address and the port, and goes to the tail of the free list. -/
def addFreeEntry (addr : InetAddr) (pool : SaEntryPool) (port : Nat) : SaEntryPool :=
  let idx := entryIndex pool.shift port
  let ent := pool.saEntries idx
  { pool with
    saEntries := Function.update pool.saEntries idx { ent with addr := addr, port := htons port.toUInt16 }
    freeEnties := pool.freeEnties ++ [idx]
    freeCnt := pool.freeCnt + 1 }

/-- One bucket as `sa_pool_alloc_hash` fills it. -/
def fillBucket (addr : InetAddr) (flow : SaFlow) (low high : UInt16) : SaEntryPool :=
  (admittedPorts flow low high).foldl (addFreeEntry addr) (SaEntryPool.empty flow.shift)

/-- `sa_pool_alloc_hash`: the loop over the buckets fills each one the same way. -/
def saPoolAllocHash (addr : InetAddr) (hashSz : Nat) (flow : SaFlow) (low high : UInt16) :
    List SaEntryPool :=
  List.replicate hashSz (fillBucket addr flow low high)

/-- `sa_pool_create` on lcore `cid`; `none` is a call that creates no pool. -/
def saPoolCreate (flows : Nat → SaFlow) (lcoreMask : UInt64) (cid master hashSz : Nat)
    (addr : InetAddr) (low high : UInt16) : Edpvs × Option SaPool :=
  if 64 < cid || !lcoreEnabled lcoreMask cid then
    -- no sapool on master
    if cid = master then (.ok, none) else (.inval, none)
  else
    let low := if low = 0 then defMinPort else low
    let high := if high = 0 then defMaxPort else high
    if high < low || low = 0 then (.inval, none)
    else (.ok, some ⟨addr, low, high, 1, saPoolAllocHash addr hashSz (flows cid) low high⟩)

/-! ### Fetch and release -/

/-- A `struct sockaddr_in`/`sockaddr_in6` in a `sockaddr_storage`; an IPv4 address is
the first word, the port is in network order. -/
structure SockAddr where
  family : Int
  addr : InetAddr
  port : UInt16
  deriving DecidableEq, Repr

/-- `INADDR_ANY` / `ipv6_addr_any`. -/
def addrAny (af : Int) (a : InetAddr) : Bool :=
  if af = afInet then a.w0 == 0 else a == ⟨0, 0, 0, 0⟩

section Calls

variable (jhash32b : List UInt32 → UInt32 → UInt32)

/-- `sa_pool_hash`: the bucket of a destination hint; `none` is the `NULL` bucket of an
unknown family, or the failed assertion on a pool without buckets. -/
def saPoolHash (ap : SaPool) (ss : Option SockAddr) : Option Nat :=
  if ap.poolHash.length = 0 then none
  else match ss with
    | none => some 0
    | some ss =>
      if ss.family = afInet then
        let v0 := (beToCpu32 ss.addr.w0 &&& 0xffff).toNat
        let v1 := (ntohs ss.port).toNat
        some ((v0 + v1) % ap.poolHash.length)
      else if ss.family = afInet6 then
        -- vect[0] is the port as stored, vect[1..4] the address, the family the seed
        some ((jhash32b (ss.port.toUInt32 :: ss.addr.words) ss.family.toNat.toUInt32).toNat %
          ap.poolHash.length)
      else none

/-- The head `idx` of the free list moves to the tail of the used list, flagged
`SA_F_USED`. -/
def SaEntryPool.take (pool : SaEntryPool) (idx : Nat) (rest : List Nat) : SaEntryPool :=
  let ent := pool.saEntries idx
  { pool with
    saEntries := Function.update pool.saEntries idx { ent with flags := ent.flags ||| saFUsed }
    usedEnties := pool.usedEnties ++ [idx]
    freeEnties := rest
    usedCnt := pool.usedCnt + 1
    freeCnt := pool.freeCnt - 1 }

/-- `sa_pool_fetch`: the entry at the head of the free list, written into `ss`. -/
def saPoolFetch (pool : SaEntryPool) (ss : SockAddr) : Edpvs × SockAddr × SaEntryPool :=
  match pool.freeEnties with
  | [] => (.resource, ss, { pool with missCnt := pool.missCnt + 1 })
  | idx :: rest =>
    let ent := pool.saEntries idx
    if ss.family = afInet then
      (.ok, ⟨afInet, { ss.addr with w0 := ent.addr.w0 }, ent.port⟩, pool.take idx rest)
    else if ss.family = afInet6 then
      (.ok, ⟨afInet6, ent.addr, ent.port⟩, pool.take idx rest)
    else (.notsupp, ss, pool)

/-- The entry `idx` leaves the list that holds it for the tail of the free list, its
`SA_F_USED` cleared. -/
def SaEntryPool.give (pool : SaEntryPool) (idx : Nat) : SaEntryPool :=
  let ent := pool.saEntries idx
  { pool with
    saEntries := Function.update pool.saEntries idx { ent with flags := ent.flags &&& ~~~saFUsed }
    usedEnties := pool.usedEnties.erase idx
    freeEnties := pool.freeEnties.erase idx ++ [idx]
    usedCnt := pool.usedCnt - 1
    freeCnt := pool.freeCnt + 1 }

/-- `sa_pool_release`; `none` is a failed assertion. The entry is found by the port
alone, then checked against the address. -/
def saPoolRelease (pool : SaEntryPool) (ss : SockAddr) : Option (Edpvs × SaEntryPool) :=
  if ss.family ≠ afInet ∧ ss.family ≠ afInet6 then some (.notsupp, pool)
  else
    let port := ntohs ss.port
    if port = 0 then none
    else
      let idx := port.toNat >>> pool.shift
      let ent := pool.saEntries idx
      if ent.flags &&& saFUsed = 0 then some (.inval, pool)
      else if inetAddrEqual ss.family ent.addr ss.addr && ent.port == ss.port then
        some (.ok, pool.give idx)
      else none

/-- Bucket `b` of a pool. -/
def SaPool.bucket (ap : SaPool) (b : Nat) : SaEntryPool :=
  ap.poolHash.getD b default

def SaPool.setBucket (ap : SaPool) (b : Nat) (pool : SaEntryPool) : SaPool :=
  { ap with poolHash := ap.poolHash.set b pool }

/-- `sa_fetch` on the pool that `sa4_fetch`/`sa6_fetch` find for the source address.
A successful fetch takes a reference on the pool. -/
def saFetch (ap : SaPool) (af : Int) (daddr : Option SockAddr) (saddr : SockAddr) :
    Option (Edpvs × SockAddr × SaPool) :=
  if (daddr.any fun d => d.family != af) || saddr.family != af then some (.inval, saddr, ap)
  else if af ≠ afInet ∧ af ≠ afInet6 then some (.notsupp, saddr, ap)
  -- everything is known: nothing is fetched
  else if !addrAny af saddr.addr && saddr.port != 0 then some (.ok, saddr, ap)
  else match saPoolHash jhash32b ap daddr with
    | none => none
    | some b =>
      let (err, sa, pool) := saPoolFetch (ap.bucket b) saddr
      some (err, sa, { ap.setBucket b pool with
        refcnt := if err = .ok then ap.refcnt + 1 else ap.refcnt })

/-- `sa_pool_destroy` as `sa_release` calls it: it drops a reference, and frees the
pool when none is left. -/
def saPoolDestroy (ap : SaPool) : SaPool :=
  { ap with refcnt := ap.refcnt - 1 }

/-- `sa_release` on the pool of the interface address that `saddr` names. -/
def saRelease (ap : SaPool) (daddr : Option SockAddr) (saddr : SockAddr) :
    Option (Edpvs × SaPool) :=
  if daddr.any fun d => d.family != saddr.family then some (.inval, ap)
  else if saddr.family ≠ afInet ∧ saddr.family ≠ afInet6 then some (.notsupp, ap)
  else match saPoolHash jhash32b ap daddr with
    | none => none
    | some b =>
      match saPoolRelease (ap.bucket b) saddr with
      | none => none
      | some (err, pool) =>
        if err = .ok then some (.ok, saPoolDestroy (ap.setBucket b pool)) else some (err, ap)

/-- The pools that `sa_pool_create` on lcore `cid`, then any `sa_fetch` and
`sa_release` calls, can build. A call that fails an assertion ends the run. -/
inductive SaReachable (flows : Nat → SaFlow) (lcoreMask : UInt64) (cid : Nat) : SaPool → Prop
  | create {master hashSz : Nat} {addr : InetAddr} {low high : UInt16} {ap : SaPool} :
      saPoolCreate flows lcoreMask cid master hashSz addr low high = (.ok, some ap) →
      SaReachable flows lcoreMask cid ap
  | fetch {ap ap' : SaPool} {af : Int} {daddr : Option SockAddr} {saddr sa : SockAddr}
      {err : Edpvs} :
      SaReachable flows lcoreMask cid ap → saFetch jhash32b ap af daddr saddr = some (err, sa, ap') →
      SaReachable flows lcoreMask cid ap'
  | release {ap ap' : SaPool} {daddr : Option SockAddr} {saddr : SockAddr} {err : Edpvs} :
      SaReachable flows lcoreMask cid ap → saRelease jhash32b ap daddr saddr = some (err, ap') →
      SaReachable flows lcoreMask cid ap'

end Calls

end Dpvs.Sa
