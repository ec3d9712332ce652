import Dpvs.Basic
import Dpvs.Lib.FirstMatch
import Dpvs.Lib.SortedScan

/-!
# IPv4 routes of one lcore

`src/route.c` keeps two tables per lcore: a hash table of local routes
(`RTF_LOCALIN`, `RTF_KNI`), hashed on the low byte of the host-order address, and
one list of net routes (`RTF_FORWARD`, `RTF_DEFAULT`) that `route_net_add` keeps
ordered from the longest netmask to the shortest, so that the first entry whose
network holds an address is the most specific one. The master lcore changes its
own tables through `route_add_del` and multicasts the same request to the slaves,
which apply it with the same `route_add_lcore` / `route_del_lcore`; a sequence of
requests therefore acts on every lcore's tables alike, and the model is one
lcore's tables.

Addresses are `in_addr.s_addr` words as loaded from memory, in network byte
order; `ip_addr_netcmp` swaps them to host order before it masks them. A route
entry's `port` is the `netif_port` it points to, of which the code reads the `id`
and the `mtu`. Allocation by `rte_zmalloc` is an argument of the calls that
allocate.
-/

namespace Dpvs.Route

/-- `RTF_FORWARD` of `include/conf/flow.h`. -/
def rtfForward : UInt32 := 0x0400

/-- `RTF_LOCALIN`. -/
def rtfLocalin : UInt32 := 0x0800

/-- `RTF_DEFAULT`. -/
def rtfDefault : UInt32 := 0x1000

/-- `RTF_KNI`. -/
def rtfKni : UInt32 := 0x2000

/-- `LOCAL_ROUTE_TAB_MASK`, for a local table of `1 << 8` buckets. -/
def localRouteTabMask : UInt32 := ((1 : UInt32) <<< (8 : UInt32)) - 1

/-- The two fields of `struct netif_port` that the route code reads. -/
structure NetifPort where
  id : UInt16
  mtu : UInt16
  deriving DecidableEq, Repr

/-- `struct route_entry`, its list links left to the list that holds it. -/
structure RouteEntry where
  netmask : UInt8
  metric : Int16
  flag : UInt32
  mtu : UInt64
  dest : UInt32
  gw : UInt32
  src : UInt32
  port : NetifPort
  refcnt : Int
  deriving DecidableEq, Repr

/-- The arguments every `route_*_lcore` call passes along (`gw` and `src` may be
`NULL`). -/
structure RouteReq where
  dest : UInt32
  netmask : UInt8
  flag : UInt32
  gw : Option UInt32
  port : NetifPort
  src : Option UInt32
  mtu : UInt64
  metric : Int16
  deriving DecidableEq, Repr

/-- One lcore's route tables and its `num_routes` counter. -/
structure RouteLcore where
  localRouteTable : Nat → List RouteEntry
  netRouteTable : List RouteEntry
  numRoutes : Int

/-- The tables `route_lcore_init` leaves: every list empty. -/
def RouteLcore.empty : RouteLcore := ⟨fun _ => [], [], 0⟩

/-! ## Masks and comparisons (`include/route.h`) -/

/-- `depth_to_mask`: `(int)0x80000000 >> (depth - 1)`, an arithmetic shift, so the
top `depth` bits are set. A depth above 32 shifts by more than the width; the model
takes the count modulo 32, as the `sar` instruction does. -/
def depthToMask (depth : UInt8) : UInt32 :=
  if depth > 0 then (Int32.minValue >>> (Int32.ofNat depth.toNat - 1)).toUInt32 else 0

/-- `ip_addr_netcmp`: `dest` masked with the request's `mask`, against the node's
destination masked with the node's own netmask. -/
def ipAddrNetcmp (dest : UInt32) (mask : UInt8) (node : RouteEntry) : Bool :=
  (beToCpu32 dest &&& depthToMask mask) == (beToCpu32 node.dest &&& depthToMask node.netmask)

/-- `net_cmp`: the same port, and `ip_addr_netcmp`. -/
def netCmp (port : NetifPort) (dest : UInt32) (mask : UInt8) (node : RouteEntry) : Bool :=
  port.id == node.port.id && ipAddrNetcmp dest mask node

/-- `route_local_hashkey`: the low byte of the host-order address. -/
def routeLocalHashkey (ipAddr : UInt32) : Nat :=
  (beToCpu32 ipAddr &&& localRouteTabMask).toNat

/-- A reference taken on an entry (`rte_atomic32_inc(&route->refcnt)`). -/
def RouteEntry.get (route : RouteEntry) : RouteEntry := { route with refcnt := route.refcnt + 1 }

/-! ## Adding routes -/

/-- `route_new_entry` once `rte_zmalloc` succeeded: a `NULL` gateway or source is
`0.0.0.0`, an `mtu` of 0 takes the port's, and the count starts at 0. -/
def routeNewEntry (r : RouteReq) : RouteEntry where
  dest := r.dest
  netmask := r.netmask
  flag := r.flag
  gw := r.gw.getD 0
  port := r.port
  src := r.src.getD 0
  mtu := if r.mtu ≠ 0 then r.mtu else r.port.mtu.toUInt64
  metric := r.metric
  refcnt := 0

/-- The test of `route_net_add` that finds the request already present. -/
def netClash (r : RouteReq) (node : RouteEntry) : Bool :=
  netCmp r.port r.dest r.netmask node && r.netmask == node.netmask

/-- `route_net_add`: one scan that returns `EDPVS_EXIST` at the first entry of the
same port, network and netmask, and otherwise links the new entry, holding the
list's reference, in front of the first entry of a shorter netmask (or at the tail).
`alloc` is whether `rte_zmalloc` succeeds. -/
def routeNetAdd (alloc : Bool) (t : RouteLcore) (r : RouteReq) : Edpvs × RouteLcore :=
  match SortedScan.scanInsert (netClash r) (fun node => decide (node.netmask < r.netmask))
      (routeNewEntry r).get t.netRouteTable with
  | none => (.exist, t)
  | some table =>
    if alloc then (.ok, { t with netRouteTable := table, numRoutes := t.numRoutes + 1 })
    else (.nomem, t)

/-- `route_local_hash`: push on the front of the address's bucket, taking the table's
reference. -/
def routeLocalHash (t : RouteLcore) (route : RouteEntry) : RouteLcore :=
  let k := routeLocalHashkey route.dest
  { t with localRouteTable := Function.update t.localRouteTable k (route.get :: t.localRouteTable k) }

/-- `route_local_add`: `EDPVS_EXIST` when the bucket holds an entry of the same port
and address, else a new entry hashed in. -/
def routeLocalAdd (alloc : Bool) (t : RouteLcore) (r : RouteReq) : Edpvs × RouteLcore :=
  let bucket := t.localRouteTable (routeLocalHashkey r.dest)
  if bucket.any (fun node => netCmp r.port r.dest r.netmask node && r.dest == node.dest) then
    (.exist, t)
  else if alloc then
    (.ok, { routeLocalHash t (routeNewEntry r) with numRoutes := t.numRoutes + 1 })
  else (.nomem, t)

/-- `route_add_lcore`: local routes first, then forwarding routes, else `EDPVS_INVAL`. -/
def routeAddLcore (alloc : Bool) (t : RouteLcore) (r : RouteReq) : Edpvs × RouteLcore :=
  if r.flag &&& rtfLocalin ≠ 0 || r.flag &&& rtfKni ≠ 0 then routeLocalAdd alloc t r
  else if r.flag &&& rtfForward ≠ 0 || r.flag &&& rtfDefault ≠ 0 then routeNetAdd alloc t r
  else (.inval, t)

/-! ## Lookups

Each lookup takes a reference on the entry it returns; the model returns the entry
as the table then holds it. -/

/-- A list walk that stops at the first entry passing `p` and takes a reference on it. -/
def lookupGet (p : RouteEntry → Bool) (l : List RouteEntry) : Option RouteEntry × List RouteEntry :=
  ((l.find? p).map RouteEntry.get, FirstMatch.update p RouteEntry.get l)

/-- `route_local_lookup`: the bucket's first entry of that address (and port, when
one is given). -/
def routeLocalLookup (t : RouteLcore) (dest : UInt32) (port : Option NetifPort) :
    Option RouteEntry × RouteLcore :=
  let k := routeLocalHashkey dest
  let found := lookupGet (fun node => dest == node.dest &&
    (match port with
     | some port => port.id == node.port.id
     | none => true)) (t.localRouteTable k)
  (found.1, { t with localRouteTable := Function.update t.localRouteTable k found.2 })

/-- `route_out_local_lookup`: `route_local_lookup` with no port. -/
def routeOutLocalLookup (t : RouteLcore) (dest : UInt32) : Option RouteEntry × RouteLcore :=
  routeLocalLookup t dest none

/-- `route_net_lookup`: the first net entry that `net_cmp` matches against the
request's port, address and netmask. -/
def routeNetLookup (t : RouteLcore) (port : NetifPort) (dest : UInt32) (netmask : UInt8) :
    Option RouteEntry × RouteLcore :=
  let found := lookupGet (netCmp port dest netmask) t.netRouteTable
  (found.1, { t with netRouteTable := found.2 })

/-- The test of `route_out_net_lookup` and `route_in_net_lookup`: `net_cmp` of the
node against itself, that is, `dest` lies in the node's network. -/
def outNetMatch (dest : UInt32) (node : RouteEntry) : Bool :=
  netCmp node.port dest node.netmask node

/-- `route_out_net_lookup`: the first net entry whose network holds `dest`. -/
def routeOutNetLookup (t : RouteLcore) (dest : UInt32) : Option RouteEntry × RouteLcore :=
  let found := lookupGet (outNetMatch dest) t.netRouteTable
  (found.1, { t with netRouteTable := found.2 })

/-- `route_in_net_lookup` has the body of `route_out_net_lookup`; its port is unused. -/
def routeInNetLookup (t : RouteLcore) (_port : NetifPort) (dest : UInt32) :
    Option RouteEntry × RouteLcore :=
  routeOutNetLookup t dest

/-- `route4_output`: a local route to the address, else the best net route. -/
def route4Output (t : RouteLcore) (daddr : UInt32) : Option RouteEntry × RouteLcore :=
  match routeOutLocalLookup t daddr with
  | (some route, t') => (some route, t')
  | (none, t') => routeOutNetLookup t' daddr

/-! ## Deleting routes -/

/-- `route_del_lcore`: unlink the entry the lookup finds, with `EDPVS_NOTEXIST` when
it finds none. The reference the lookup took and the list's reference are both
dropped with the entry, so what stays in the tables is untouched. -/
def routeDelLcore (t : RouteLcore) (r : RouteReq) : Edpvs × RouteLcore :=
  if r.flag &&& rtfLocalin ≠ 0 || r.flag &&& rtfKni ≠ 0 then
    let k := routeLocalHashkey r.dest
    let p := fun node : RouteEntry => r.dest == node.dest && r.port.id == node.port.id
    match (t.localRouteTable k).find? p with
    | none => (.notexist, t)
    | some _ =>
      (.ok, { t with localRouteTable := Function.update t.localRouteTable k ((t.localRouteTable k).eraseP p)
                     numRoutes := t.numRoutes - 1 })
  else if r.flag &&& rtfForward ≠ 0 || r.flag &&& rtfDefault ≠ 0 then
    match t.netRouteTable.find? (netCmp r.port r.dest r.netmask) with
    | none => (.notexist, t)
    | some _ =>
      (.ok, { t with netRouteTable := t.netRouteTable.eraseP (netCmp r.port r.dest r.netmask)
                     numRoutes := t.numRoutes - 1 })
  else (.inval, t)

/-- `route_lcore_flush`: drop every entry of the port (of every port when it is
`NULL`) from both tables. -/
def routeLcoreFlush (t : RouteLcore) (port : Option NetifPort) : RouteLcore :=
  let keep := fun node : RouteEntry =>
    match port with
    | some port => port.id != node.port.id
    | none => false
  let dropped := fun l : List RouteEntry => (l.length - (l.filter keep).length : Int)
  { localRouteTable := fun k => (t.localRouteTable k).filter keep
    netRouteTable := t.netRouteTable.filter keep
    numRoutes := t.numRoutes
      - ((List.range 256).map fun k => dropped (t.localRouteTable k)).sum
      - dropped t.netRouteTable }

/-- `route_add_del` on the lcore it is called from: only the master may change routes;
`EDPVS_EXIST` and `EDPVS_NOTEXIST` are reported as success once the request is
multicast to the slaves. -/
def routeAddDel (isMaster alloc add : Bool) (t : RouteLcore) (r : RouteReq) : Edpvs × RouteLcore :=
  if !isMaster then (.notsupp, t)
  else
    let res := if add then routeAddLcore alloc t r else routeDelLcore t r
    if res.1 ≠ .ok ∧ res.1 ≠ .exist ∧ res.1 ≠ .notexist then res else (.ok, res.2)

/-- `route_add`. -/
def routeAdd (isMaster alloc : Bool) (t : RouteLcore) (r : RouteReq) : Edpvs × RouteLcore :=
  routeAddDel isMaster alloc true t r

/-- `route_del`; it allocates nothing. -/
def routeDel (isMaster : Bool) (t : RouteLcore) (r : RouteReq) : Edpvs × RouteLcore :=
  routeAddDel isMaster true false t r

/-! ## Deleting a route by its request

`route_del_lcore` finds the victim with `route_net_lookup`, whose `net_cmp` masks
the request with the request's netmask and the entry with the entry's own netmask
and never compares the two lengths. -/

/-- Port 1, of MTU 1500. -/
def port1 : NetifPort := ⟨1, 1500⟩

/-- The forwarding route 10.0.0.0/8 on port 1; `0x0000000a` is `s_addr` of 10.0.0.0
as a little-endian host loads it. -/
def net8 : RouteReq where
  dest := 0x0000000a
  netmask := 8
  flag := rtfForward
  gw := some 0
  port := port1
  src := some 0
  mtu := 0
  metric := 0

/-- The forwarding route 10.0.0.0/16 on port 1. -/
def net16 : RouteReq := { net8 with netmask := 16 }

/-- With 10.0.0.0/8 and 10.0.0.0/16 on one port, deleting the /8 removes the /16
and keeps the /8; deleting the /16 that was never added removes the /8; and a
delete that finds nothing reports success. -/
theorem route_del_removes_longer_prefix :
    let t1 : RouteLcore := (routeAdd true true .empty net8).2
    let t2 : RouteLcore := (routeAdd true true t1 net16).2
    t2.netRouteTable.map RouteEntry.netmask = [16, 8] ∧
      (routeDel true t2 net8).1 = .ok ∧
      (routeDel true t2 net8).2.netRouteTable.map RouteEntry.netmask = [8] ∧
      (routeDel true t1 net16).2.netRouteTable = [] ∧
      (routeDel true .empty net8).1 = .ok := by
  decide

/-! ## The net list: ordered, and one entry per route

`route_net_add` looks for a duplicate and for the insertion point in one scan.
The scan stops at the first shorter netmask; in an ordered list every entry of
the same netmask lies ahead of that point, so the one scan is enough. -/

/-- What makes two net routes the same: port, masked destination, netmask. -/
def routeKey (e : RouteEntry) : UInt16 × UInt32 × UInt8 :=
  (e.port.id, beToCpu32 e.dest &&& depthToMask e.netmask, e.netmask)

/-- The net list is ordered by non-increasing netmask and holds each route once. -/
structure NetTableOk (l : List RouteEntry) : Prop where
  descending : SortedScan.Descending (fun e => e.netmask.toNat) l
  unique : (l.map routeKey).Nodup

@[simp] theorem routeKey_get (e : RouteEntry) : routeKey e.get = routeKey e := rfl

@[simp] theorem netmask_get (e : RouteEntry) : e.get.netmask = e.netmask := rfl

/-- The duplicate test of `route_net_add` compares exactly the route keys. -/
theorem netClash_iff (r : RouteReq) (node : RouteEntry) :
    netClash r node = true ↔ routeKey node = routeKey (routeNewEntry r) := by
  simp only [netClash, netCmp, ipAddrNetcmp, routeKey, routeNewEntry, Bool.and_eq_true,
    beq_iff_eq, Prod.mk.injEq]
  constructor
  · rintro ⟨⟨hport, hnet⟩, hmask⟩
    exact ⟨hport.symm, hnet.symm, hmask.symm⟩
  · rintro ⟨hport, hnet, hmask⟩
    exact ⟨⟨hport.symm, hnet.symm⟩, hmask.symm⟩

theorem NetTableOk.sublist {l l' : List RouteEntry} (ok : NetTableOk l) (h : l'.Sublist l) :
    NetTableOk l' :=
  ⟨ok.descending.sublist h, ok.unique.sublist (h.map _)⟩

/-- Taking a reference changes no key. -/
theorem NetTableOk.update {l : List RouteEntry} (ok : NetTableOk l) (p : RouteEntry → Bool) :
    NetTableOk (FirstMatch.update p RouteEntry.get l) := by
  refine ⟨ok.descending.of_map_eq
    (FirstMatch.map_update RouteEntry.get (fun e : RouteEntry => e.netmask.toNat) (fun _ => rfl) l), ?_⟩
  rw [FirstMatch.map_update RouteEntry.get routeKey routeKey_get l]
  exact ok.unique

/-- The insertion scan of `route_net_add` keeps the list ordered and free of
duplicates: ahead of the insertion point nothing clashes, and past it every
netmask is shorter. -/
theorem NetTableOk.scanInsert {l l' : List RouteEntry} (ok : NetTableOk l) (r : RouteReq)
    (h : SortedScan.scanInsert (netClash r) (fun node => decide (node.netmask < r.netmask))
      (routeNewEntry r).get l = some l') : NetTableOk l' := by
  have hbefore : ∀ a : RouteEntry, decide (a.netmask < r.netmask) = true ↔
      a.netmask.toNat < (routeNewEntry r).get.netmask.toNat := by
    intro a
    simp [routeNewEntry, UInt8.lt_iff_toNat_lt]
  refine ⟨ok.descending.scanInsert hbefore h, ?_⟩
  obtain ⟨l₁, l₂, rfl, rfl, ahead, after⟩ := SortedScan.scanInsert_split h
  have shorter := ok.descending.lt_of_after hbefore after
  have fresh : ∀ a ∈ l₁ ++ l₂, routeKey a ≠ routeKey (routeNewEntry r) := by
    intro a ha same
    rcases List.mem_append.mp ha with ha | ha
    · have clash := (netClash_iff r a).mpr same
      simp [(ahead a ha).1] at clash
    · have masks : a.netmask = r.netmask := congrArg (fun k => k.2.2) same
      have := shorter a ha
      simp [masks, routeNewEntry] at this
  rw [List.map_append, List.map_cons, List.perm_middle.nodup_iff, List.nodup_cons,
    ← List.map_append]
  refine ⟨?_, ok.unique⟩
  simp only [List.mem_map, not_exists, not_and, routeKey_get]
  exact fun a ha same => fresh a ha same

/-! ### What each call does to the net list -/

@[simp] theorem routeLocalAdd_netRouteTable (alloc : Bool) (t : RouteLcore) (r : RouteReq) :
    (routeLocalAdd alloc t r).2.netRouteTable = t.netRouteTable := by
  simp only [routeLocalAdd]
  split_ifs <;> rfl

@[simp] theorem routeOutLocalLookup_netRouteTable (t : RouteLcore) (daddr : UInt32) :
    (routeOutLocalLookup t daddr).2.netRouteTable = t.netRouteTable := rfl

@[simp] theorem routeOutNetLookup_netRouteTable (t : RouteLcore) (daddr : UInt32) :
    (routeOutNetLookup t daddr).2.netRouteTable =
      FirstMatch.update (outNetMatch daddr) RouteEntry.get t.netRouteTable := rfl

section NetSteps

variable {t : RouteLcore} (ok : NetTableOk t.netRouteTable)
include ok

theorem NetTableOk.routeNetAdd (alloc : Bool) (r : RouteReq) :
    NetTableOk (routeNetAdd alloc t r).2.netRouteTable := by
  unfold Dpvs.Route.routeNetAdd
  split
  · exact ok
  · rename_i table scan
    by_cases halloc : alloc = true
    · simpa [halloc] using ok.scanInsert r scan
    · simpa [halloc] using ok

theorem NetTableOk.routeAddLcore (alloc : Bool) (r : RouteReq) :
    NetTableOk (routeAddLcore alloc t r).2.netRouteTable := by
  unfold Dpvs.Route.routeAddLcore
  split_ifs
  · simpa using ok
  · exact ok.routeNetAdd alloc r
  · exact ok

theorem NetTableOk.routeDelLcore (r : RouteReq) :
    NetTableOk (routeDelLcore t r).2.netRouteTable := by
  unfold Dpvs.Route.routeDelLcore
  split
  · dsimp only
    split <;> exact ok
  · split
    · split
      · exact ok
      · exact ok.sublist List.eraseP_sublist
    · exact ok

theorem NetTableOk.routeLcoreFlush (port : Option NetifPort) :
    NetTableOk (routeLcoreFlush t port).netRouteTable :=
  ok.sublist List.filter_sublist

theorem NetTableOk.route4Output (daddr : UInt32) :
    NetTableOk (route4Output t daddr).2.netRouteTable := by
  rcases hlocal : routeOutLocalLookup t daddr with ⟨_ | route, t'⟩
  · -- no local route: the net lookup takes a reference
    have same : t'.netRouteTable = t.netRouteTable := by
      rw [← routeOutLocalLookup_netRouteTable t daddr, hlocal]
    simp only [Dpvs.Route.route4Output, hlocal, routeOutNetLookup_netRouteTable, same]
    exact ok.update _
  · have same : t'.netRouteTable = t.netRouteTable := by
      rw [← routeOutLocalLookup_netRouteTable t daddr, hlocal]
    simp only [Dpvs.Route.route4Output, hlocal, same]
    exact ok

end NetSteps

/-- The states one lcore's route tables reach: requests applied by `route_add_lcore`
and `route_del_lcore` (on the master through `route_add_del`, on a slave from the
multicast message), flushes, and the output lookups of the data path. -/
inductive RouteReachable : RouteLcore → Prop
  | init : RouteReachable .empty
  | add {t} (alloc : Bool) (r : RouteReq) :
      RouteReachable t → RouteReachable (routeAddLcore alloc t r).2
  | del {t} (r : RouteReq) : RouteReachable t → RouteReachable (routeDelLcore t r).2
  | flush {t} (port : Option NetifPort) : RouteReachable t → RouteReachable (routeLcoreFlush t port)
  | output {t} (daddr : UInt32) : RouteReachable t → RouteReachable (route4Output t daddr).2

/-- The tables `route_add_del` leaves are those of the `route_*_lcore` call it
makes, whatever code it then reports. -/
theorem routeAddDel_snd (isMaster alloc add : Bool) (t : RouteLcore) (r : RouteReq) :
    (routeAddDel isMaster alloc add t r).2 =
      if isMaster then (if add then routeAddLcore alloc t r else routeDelLcore t r).2 else t := by
  unfold routeAddDel
  cases isMaster
  · rfl
  · simp only [Bool.not_true, Bool.false_eq_true, if_false, if_true]
    split_ifs <;> rfl

/-- `route_add` and `route_del` on the master move its tables within the reachable states. -/
theorem RouteReachable.routeAddDel {t : RouteLcore} (reach : RouteReachable t)
    (isMaster alloc add : Bool) (r : RouteReq) : RouteReachable (routeAddDel isMaster alloc add t r).2 := by
  rw [routeAddDel_snd]
  split_ifs
  · exact RouteReachable.add alloc r reach
  · exact RouteReachable.del r reach
  · exact reach

/-- On every lcore, whatever routes were added, deleted or flushed and whatever
traffic was routed, the net list is ordered from the longest netmask to the
shortest and holds no two entries of the same port, masked destination and netmask. -/
theorem RouteReachable.netTableOk {t : RouteLcore} (reach : RouteReachable t) :
    NetTableOk t.netRouteTable := by
  induction reach with
  | init => exact ⟨List.Pairwise.nil, List.nodup_nil⟩
  | add alloc r _ ih => exact ih.routeAddLcore alloc r
  | del r _ ih => exact ih.routeDelLcore r
  | flush port _ ih => exact ih.routeLcoreFlush port
  | output daddr _ ih => exact ih.route4Output daddr

theorem netTableOk_after_add :
    NetTableOk (routeAddLcore true (routeAddLcore true .empty net8).2 net16).2.netRouteTable :=
  RouteReachable.netTableOk (.add true net16 (.add true net8 .init))

/-! ## The output lookup -/

/-- `dest` lies in the network of the entry. -/
def InNet (dest : UInt32) (e : RouteEntry) : Prop :=
  beToCpu32 dest &&& depthToMask e.netmask = beToCpu32 e.dest &&& depthToMask e.netmask

instance (dest : UInt32) (e : RouteEntry) : Decidable (InNet dest e) :=
  inferInstanceAs (Decidable (_ = _))

theorem outNetMatch_iff (dest : UInt32) (e : RouteEntry) :
    outNetMatch dest e = true ↔ InNet dest e := by
  simp [outNetMatch, netCmp, ipAddrNetcmp, InNet]

/-- `route_out_net_lookup` on a reachable table returns `NULL` exactly when no net
route holds the address, and otherwise a reference on a net route that holds it
with the longest netmask of all that do. -/
theorem routeOutNetLookup_longest {t : RouteLcore} (reach : RouteReachable t) (dest : UInt32) :
    ((routeOutNetLookup t dest).1 = none ↔ ∀ e ∈ t.netRouteTable, ¬ InNet dest e) ∧
    ∀ found, (routeOutNetLookup t dest).1 = some found →
      ∃ e ∈ t.netRouteTable, found = e.get ∧ InNet dest e ∧
        ∀ e' ∈ t.netRouteTable, InNet dest e' → e'.netmask ≤ e.netmask := by
  have ok := reach.netTableOk
  refine ⟨?_, ?_⟩
  · simp only [routeOutNetLookup, lookupGet, Option.map_eq_none_iff, List.find?_eq_none,
      outNetMatch_iff]
  · intro found h
    simp only [routeOutNetLookup, lookupGet, Option.map_eq_some_iff] at h
    obtain ⟨e, he, rfl⟩ := h
    have longest := ok.descending.find?_max he
    refine ⟨e, List.mem_of_find?_eq_some he, rfl, (outNetMatch_iff dest e).mp (List.find?_some he), ?_⟩
    intro e' he' hin
    exact UInt8.le_iff_toNat_le.mpr (longest e' he' ((outNetMatch_iff dest e').mpr hin))

theorem routeOutNetLookup_longest_two_routes :
    let t := (routeAddLcore true (routeAddLcore true .empty net8).2 net16).2
    ((routeOutNetLookup t 0x0100000a).1 = none ↔ ∀ e ∈ t.netRouteTable, ¬ InNet 0x0100000a e) ∧
    ∀ found, (routeOutNetLookup t 0x0100000a).1 = some found →
      ∃ e ∈ t.netRouteTable, found = e.get ∧ InNet 0x0100000a e ∧
        ∀ e' ∈ t.netRouteTable, InNet 0x0100000a e' → e'.netmask ≤ e.netmask :=
  routeOutNetLookup_longest (.add true net16 (.add true net8 .init)) 0x0100000a


end Dpvs.Route
