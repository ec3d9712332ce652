import Dpvs.Ipv6.Prefix
import Dpvs.Lib.HashBuckets
import Dpvs.Lib.SortedScan

/-!
# IPv6 routes of one lcore in hash lists

`src/ipv6/route6_hlist.c` is the route6 method `hlist`. Each lcore keeps a list of
`struct rt6_hlist` nodes, one per prefix length, sorted from the longest prefix to
the shortest; a node holds `rt6_hlist_buckets(plen)` hash lists, and a route of that
length sits in the list its masked prefix hashes to. Adding, deleting and flushing
edit the node list and the buckets in place; a lookup walks the nodes from the
longest prefix down, searches the one bucket the flow's destination hashes to in
each, and takes a reference on the first route that matches.

The model keeps the node list as a list of nodes and each node's buckets as a list
of lists of routes, in the order `list_for_each_entry` walks them. The allocations
`rt6_hlist_add_lcore` makes are inputs (their failure is `EDPVS_NOMEM`), a failed
`assert` is `none`, and a route that `route6_free` keeps for its other holders goes
to the dustbin of `route6.c`. `rte_jhash_32b` and `netif_port_get_by_name` are the
fields of `Rt6Env` that `route6_lpm.c` reads too.

The invariant `HtableOk` is the store's shape: non-empty nodes
in strictly decreasing `plen` order, each with its bucket count, every route in the
bucket of its prefix, and counters that count. Under it, each call is an operation
on the list of routes the nodes hold one after the other (`Rt6Htable.routes`): get
is `find?` of the match, del is `eraseP` of it, flush is `filter`, a lookup is
`find?` of the flow match with a reference added in place.
-/

namespace Dpvs.Route6Hlist

open Route6Lpm

/-- `RT6_HLIST_MAX_BUCKET_BITS`. -/
def rt6HlistMaxBucketBits : Nat := 8

/-- `RT6_HLIST_MAX_BUCKETS`. -/
def rt6HlistMaxBuckets : Nat := 1 <<< rt6HlistMaxBucketBits

/-- `struct rt6_hlist`: a prefix length, its route count, and `nbuckets` hash lists. -/
structure Rt6Hlist where
  plen : Int
  nroutes : Int
  nbuckets : Nat
  hlist : List (List Route6)
  deriving DecidableEq, Repr

/-- One lcore's `struct rt6_htable`, with the routes `route6_free` has put in the
lcore's dustbin. -/
structure Rt6Htable where
  nroutes : Int
  htable : List Rt6Hlist
  dustbin : List Route6
  deriving DecidableEq, Repr

/-- `rt6_hlist_setup_lcore`. -/
def rt6HlistSetupLcore : Rt6Htable := ⟨0, [], []⟩

/-- `rt6_hlist_buckets`: one bucket per value of the first `plen` bits, at most
`RT6_HLIST_MAX_BUCKETS` (the caller keeps `plen` within `0..128`). -/
def rt6HlistBuckets (plen : Int) : Nat :=
  if plen < rt6HlistMaxBucketBits then 1 <<< plen.toNat else rt6HlistMaxBuckets

/-- `rt6_hlist_hashkey`: `rte_jhash_32b` of the prefix of the address, modulo the
bucket count. -/
def rt6HlistHashkey (env : Rt6Env) (addr : InetAddr) (plen : Int) (nbuckets : Nat) : Nat :=
  (env.jhash32b (ipv6AddrPrefix addr plen.toNat).words 0).toNat % nbuckets

/-- `rt6_match`: the same prefix and length, and the device the request names when
the route has one and the request names any. -/
def rt6Match (env : Rt6Env) (rt6 : Route6) (cf : Route6Conf) : Bool :=
  rt6.dst.addr == cf.dst.addr && rt6.dst.plen == cf.dst.plen &&
    match rt6.dev with
    | none => true
    | some d =>
      cf.ifname.isEmpty ||
        match env.portByName cf.ifname with
        | some dev => dev.id == d.id
        | none => false

/-- `__rt6_hlist_get` from the node at position `i` of the list on: nodes of longer
prefixes are passed over, a shorter one ends the search, and in a node of the
request's length the bucket of its prefix is searched. The position and the node
(`*phlist`) with the route. -/
def rt6HlistGetFrom (env : Rt6Env) (cf : Route6Conf) :
    Nat → List Rt6Hlist → Option (Nat × Rt6Hlist × Route6)
  | _, [] => none
  | i, hlist :: rest =>
    if hlist.plen > cf.dst.plen then rt6HlistGetFrom env cf (i + 1) rest
    else if hlist.plen < cf.dst.plen then none
    else
      let hashkey := rt6HlistHashkey env cf.dst.addr hlist.plen hlist.nbuckets
      match (hlist.hlist.getD hashkey []).find? (rt6Match env · cf) with
      | some rt6 => some (i, hlist, rt6)
      | none => rt6HlistGetFrom env cf (i + 1) rest

/-- `rt6_hlist_get`. -/
def rt6HlistGet (env : Rt6Env) (t : Rt6Htable) (cf : Route6Conf) : Option Route6 :=
  (rt6HlistGetFrom env cf 0 t.htable).map fun found => found.2.2

/-- The empty node `rt6_hlist_add_lcore` allocates for a prefix length. -/
def rt6HlistNew (plen : Int) : Rt6Hlist :=
  ⟨plen, 0, rt6HlistBuckets plen, List.replicate (rt6HlistBuckets plen) []⟩

/-- The tail of `rt6_hlist_add_lcore`: the route `rt6_fill_with_cfg` makes goes to the
tail of the bucket of its prefix, and the node counts it. -/
def rt6HlistLink (env : Rt6Env) (cf : Route6Conf) (hlist : Rt6Hlist) : Rt6Hlist :=
  let hashkey := rt6HlistHashkey env cf.dst.addr cf.dst.plen hlist.nbuckets
  { hlist with
    hlist := hlist.hlist.modify hashkey (· ++ [rt6FillWithCfg env cf])
    nroutes := hlist.nroutes + 1 }

/-- The second half of `rt6_hlist_add_lcore`, once the node is chosen: given the nodes
ahead of it and the node with the nodes after it (`none` when the node had to be
allocated and was not), the route is allocated and linked; a node left without
routes is unlinked again. -/
def rt6HlistAddRoute (env : Rt6Env) (routeAlloc : Bool) (t : Rt6Htable) (cf : Route6Conf)
    (before : List Rt6Hlist) : Option (Rt6Hlist × List Rt6Hlist) → Edpvs × Rt6Htable
  | none => (.nomem, t)
  | some (hlist, rest) =>
    if routeAlloc then
      (.ok, { t with
        htable := before ++ rt6HlistLink env cf hlist :: rest
        nroutes := t.nroutes + 1 })
    else if hlist.nroutes = 0 then (.nomem, { t with htable := before ++ rest })
    else (.nomem, { t with htable := before ++ hlist :: rest })

/-- `rt6_hlist_add_lcore`, given whether the node and the route allocations succeed.
The scan stops at the first node whose prefix is not longer than the request's; a
node of the request's length is used, else a new node goes in front of the one the
scan stopped at, or at the tail when the scan ran off the end (the cursor is then
the list head). -/
def rt6HlistAddLcore (env : Rt6Env) (nodeAlloc routeAlloc : Bool) (t : Rt6Htable)
    (cf : Route6Conf) : Edpvs × Rt6Htable :=
  if (rt6HlistGet env t cf).isSome then (.exist, t)
  else
    let scan := t.htable.span fun hlist => decide (hlist.plen > cf.dst.plen)
    rt6HlistAddRoute env routeAlloc t cf scan.1 <|
      match scan.2 with
      | hlist :: rest => if hlist.plen = cf.dst.plen then some (hlist, rest)
        else if nodeAlloc then some (rt6HlistNew cf.dst.plen, scan.2) else none
      | [] => if nodeAlloc then some (rt6HlistNew cf.dst.plen, []) else none

/-- `route6_free`: a route another holder still references waits in the dustbin. -/
def route6Free (dustbin : List Route6) (rt6 : Route6) : List Route6 :=
  if rt6.refcnt > 1 then dustbin ++ [rt6] else dustbin

/-- `rt6_hlist_del_lcore`: the route `__rt6_hlist_get` finds leaves its bucket and is
freed, and a node left without routes is unlinked. -/
def rt6HlistDelLcore (env : Rt6Env) (t : Rt6Htable) (cf : Route6Conf) : Edpvs × Rt6Htable :=
  match rt6HlistGetFrom env cf 0 t.htable with
  | none => (.notexist, t)
  | some (i, hlist, rt6) =>
    let hashkey := rt6HlistHashkey env cf.dst.addr hlist.plen hlist.nbuckets
    let hlist := { hlist with
      hlist := hlist.hlist.modify hashkey (·.eraseP (rt6Match env · cf))
      nroutes := hlist.nroutes - 1 }
    (.ok, { nroutes := t.nroutes - 1
            htable := if hlist.nroutes = 0 then t.htable.eraseIdx i else t.htable.set i hlist
            dustbin := route6Free t.dustbin rt6 })

/-- The device a flush request names; none without a request. -/
def flushIfname (cf : Option Route6Conf) : String := (cf.map Route6Conf.ifname).getD ""

/-- Whether `rt6_hlist_flush_lcore` removes a route: every route when the request names
no device (`flush_all`), else the routes on the named device. -/
def flushVictim (cf : Option Route6Conf) (rt6 : Route6) : Bool :=
  (flushIfname cf).isEmpty ||
    match rt6.dev with
    | some d => d.name == flushIfname cf
    | none => false

/-- The flush loop from a node on: each node loses the routes that go, bucket by
bucket, and is unlinked once empty; `assert(!flush_all || hlist->nroutes == 0)` after
each node. The nodes kept and the routes removed, in order. -/
def flushNodes (flushAll : Bool) (victim : Route6 → Bool) :
    List Rt6Hlist → Option (List Rt6Hlist × List Route6)
  | [] => some ([], [])
  | hlist :: rest =>
    let gone := hlist.hlist.flatMap (·.filter victim)
    let hlist : Rt6Hlist := { hlist with
      hlist := hlist.hlist.map (·.filter fun rt6 => !victim rt6)
      nroutes := hlist.nroutes - gone.length }
    if flushAll ∧ hlist.nroutes ≠ 0 then none
    else (flushNodes flushAll victim rest).map fun (kept, goneRest) =>
      (if hlist.nroutes = 0 then kept else hlist :: kept, gone ++ goneRest)

/-- `rt6_hlist_flush_lcore`: the routes of the named device, or all routes when the
request names none, each freed by `route6_free`. The loop's last `assert` reads the
list head as a node and is left out. -/
def rt6HlistFlushLcore (t : Rt6Htable) (cf : Option Route6Conf) : Option (Edpvs × Rt6Htable) :=
  (flushNodes (flushIfname cf).isEmpty (flushVictim cf) t.htable).map fun (htable, gone) =>
    (.ok, { nroutes := t.nroutes - gone.length, htable
            dustbin := gone.foldl route6Free t.dustbin })

/-- `rt6_hlist_flow_match`: the flow's destination lies in the route's prefix (is its
address, for a full-length prefix), and the devices agree when both sides name one. -/
def rt6HlistFlowMatch (rt6 : Route6) (daddr : InetAddr) (oif : Option Dev) : Bool :=
  (if rt6.dst.plen < 128 then ipv6PrefixEqual daddr rt6.dst.addr (rt6.dst.plen % 4294967296).toNat
   else daddr == rt6.dst.addr) &&
    match oif, rt6.dev with
    | some o, some d => o.id == d.id
    | _, _ => true

/-- `rte_atomic32_inc(&rt6->refcnt)`: a reference more on a route. -/
def rt6Hold (rt6 : Route6) : Route6 := { rt6 with refcnt := rt6.refcnt + 1 }

/-- `rt6_hlist_lookup` from a node on: in each node the bucket of the destination's
prefix of the node's length is searched, and the first route that matches the flow
takes a reference. -/
def rt6HlistLookupFrom (env : Rt6Env) (daddr : InetAddr) (oif : Option Dev) :
    List Rt6Hlist → Option Route6 × List Rt6Hlist
  | [] => (none, [])
  | hlist :: rest =>
    let hashkey := rt6HlistHashkey env daddr hlist.plen hlist.nbuckets
    let hit := fun rt6 => rt6HlistFlowMatch rt6 daddr oif
    match (hlist.hlist.getD hashkey []).find? hit with
    | some rt6 =>
      (some (rt6Hold rt6),
        { hlist with hlist := hlist.hlist.modify hashkey (FirstMatch.update hit rt6Hold) } :: rest)
    | none =>
      let found := rt6HlistLookupFrom env daddr oif rest
      (found.1, hlist :: found.2)

/-- `rt6_hlist_lookup`, which serves `rt6_hlist_input` and `rt6_hlist_output`. -/
def rt6HlistLookup (env : Rt6Env) (t : Rt6Htable) (daddr : InetAddr) (oif : Option Dev) :
    Option Route6 × Rt6Htable :=
  let found := rt6HlistLookupFrom env daddr oif t.htable
  (found.1, { t with htable := found.2 })

/-! ## Runs of calls -/

/-- The calls an lcore applies to its table, with the outcomes of the allocations an
add makes. -/
inductive Rt6HlistCall where
  | add (nodeAlloc routeAlloc : Bool) (cf : Route6Conf)
  | del (cf : Route6Conf)
  | flush (cf : Option Route6Conf)
  | lookup (daddr : InetAddr) (oif : Option Dev)

/-- One call; `none` where an `assert` fails. -/
def rt6HlistStep (env : Rt6Env) (t : Rt6Htable) : Rt6HlistCall → Option Rt6Htable
  | .add nodeAlloc routeAlloc cf => some (rt6HlistAddLcore env nodeAlloc routeAlloc t cf).2
  | .del cf => some (rt6HlistDelLcore env t cf).2
  | .flush cf => (rt6HlistFlushLcore t cf).map Prod.snd
  | .lookup daddr oif => some (rt6HlistLookup env t daddr oif).2

/-- A run of calls; `none` from the first failed `assert` on. -/
def rt6HlistRun (env : Rt6Env) (t : Rt6Htable) : List Rt6HlistCall → Option Rt6Htable
  | [] => some t
  | c :: cs => (rt6HlistStep env t c).bind fun t => rt6HlistRun env t cs

/-- The prefix lengths `rt6_conf_check` lets reach an add. -/
def Rt6HlistCall.plenOk : Rt6HlistCall → Bool
  | .add _ _ cf => 0 ≤ cf.dst.plen && cf.dst.plen ≤ 128
  | _ => true

end Dpvs.Route6Hlist
