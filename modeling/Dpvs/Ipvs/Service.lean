import Dpvs.Basic

/-!
# The service tables of one lcore

`src/ipvs/ip_vs_service.c` keeps the services of each lcore in three places: a service
with a firewall mark in `dp_vs_svc_fwm_table`, one with a match in
`dp_vs_svc_match_list`, and every other one in `dp_vs_svc_table`, in the bucket of its
`<protocol, address>`. `dp_vs_service_hash` picks the place in that order: fwmark, then
match, then address.

`dp_vs_service_set` finds the service a control message is about in the other order:
by address and port whenever either is set, then by fwmark, then by match. A service
configured with both a fwmark and an address is hashed in the fwmark table and looked
for in the address table, where it never is: a second `ADD` of it creates a second
service, and `EDIT` and `DEL` of it are refused.

The tables hold handles; the objects live in `svcs`, which is what `rte_zmalloc` has
handed out and `rte_free` not yet taken back.
-/

namespace Dpvs

/-- `struct inet_addr_range`. -/
structure InetAddrRange where
  minAddr : InetAddr
  maxAddr : InetAddr
  minPort : UInt16
  maxPort : UInt16
  deriving DecidableEq, Repr

/-- `struct dp_vs_match`; the interface names are `char[IFNAMSIZ]`. -/
structure DpVsMatch where
  af : Int
  srange : InetAddrRange
  drange : InetAddrRange
  iifname : Vector UInt8 16
  oifname : Vector UInt8 16
  deriving DecidableEq, Repr

/-- The all-zero match of `is_empty_match`. -/
def zeroMatch : DpVsMatch :=
  ⟨0, ⟨⟨0, 0, 0, 0⟩, ⟨0, 0, 0, 0⟩, 0, 0⟩, ⟨⟨0, 0, 0, 0⟩, ⟨0, 0, 0, 0⟩, 0, 0⟩,
    Vector.replicate 16 0, Vector.replicate 16 0⟩

/-- `is_empty_match`: a `memcmp` with the zero match. -/
def isEmptyMatch (m : DpVsMatch) : Bool := m == zeroMatch

/-- `struct dp_vs_service_conf`, the fields the table functions read. -/
structure DpVsServiceConf where
  af : Int
  proto : UInt8
  port : UInt16
  fwmark : UInt32
  flags : UInt32
  netmask : UInt32
  addr : InetAddr
  schedName : String
  match' : DpVsMatch
  deriving DecidableEq, Repr

/-- `struct dp_vs_service`, the fields the table functions read and write; `match'` is
the pointer `svc->match`, `scheduler` the name of `svc->scheduler`. -/
structure DpVsService where
  af : Int
  proto : UInt8
  port : UInt16
  fwmark : UInt32
  addr : InetAddr
  match' : Option DpVsMatch
  flags : UInt32
  scheduler : Option String
  refcnt : Int
  deriving DecidableEq, Repr

/-- The service tables of one lcore and the service objects it has allocated. -/
structure SvcLcore where
  svcs : List (Nat × DpVsService)
  svcTable : Nat → List Nat
  fwmTable : Nat → List Nat
  matchList : List Nat
  numServices : Int16
  nextHandle : Nat

/-- What a call reads besides the tables: the registered schedulers, the code each one's
`init_service` returns, and whether `rte_zmalloc` finds memory. -/
structure SvcEnv where
  schedulers : List String
  initService : String → Edpvs
  memory : Bool

/-- The `DPVS_SO_SET_*` commands on services. -/
inductive SvcSetOpt where
  | add
  | edit
  | del
  | flush
  deriving DecidableEq, Repr

/-! `DP_VS_SVC_TAB_MASK`, `DP_VS_SVC_F_HASHED` and the protocols `dp_vs_service_set`
accepts. -/

def dpVsSvcTabMask : UInt32 := ((1 : UInt32) <<< 8) - 1

def dpVsSvcFHashed : UInt32 := 0x0002

def ipprotoIcmp : UInt8 := 1

def ipprotoTcp : UInt8 := 6

def ipprotoUdp : UInt8 := 17

def ipprotoIcmpv6 : UInt8 := 58

def ipprotoSctp : UInt8 := 132

/-! ## Objects and links -/

/-- The object behind a handle, if it is still allocated. -/
def SvcLcore.svc? (st : SvcLcore) (h : Nat) : Option DpVsService :=
  (st.svcs.find? fun p => p.1 = h).map Prod.snd

/-- A write to a live service. -/
def SvcLcore.modifySvc (st : SvcLcore) (h : Nat) (f : DpVsService → DpVsService) : SvcLcore :=
  { st with svcs := st.svcs.map fun p => if p.1 = h then (p.1, f p.2) else p }

/-- `rte_free` of a service. -/
def SvcLcore.freeSvc (st : SvcLcore) (h : Nat) : SvcLcore :=
  { st with svcs := st.svcs.filter fun p => p.1 ≠ h }

/-- `list_add` at the head of bucket `i`. -/
def linkSvc (tbl : Nat → List Nat) (i h : Nat) : Nat → List Nat :=
  Function.update tbl i (h :: tbl i)

/-- `list_del` of a handle from every bucket; a handle is in one bucket at most. -/
def unlinkSvc (tbl : Nat → List Nat) (h : Nat) : Nat → List Nat :=
  fun i => (tbl i).erase h

/-! ## Hashing -/

/-- `dp_vs_service_hashkey`; `none` is `EDPVS_INVAL`, for an address that folds to zero. -/
def dpVsServiceHashkey (af : Int) (proto : UInt8) (addr : InetAddr) : Option Nat :=
  let addrFold := inetAddrFold af addr
  if addrFold = 0 then none
  else some ((proto.toUInt32 ^^^ beToCpu32 addrFold) &&& dpVsSvcTabMask).toNat

/-- `dp_vs_service_fwm_hashkey`. -/
def dpVsServiceFwmHashkey (fwmark : UInt32) : Nat := (fwmark &&& dpVsSvcTabMask).toNat

/-- `dp_vs_service_hash` of the live service `h`: the fwmark table, the match list or the
bucket of its address, in that order. -/
def dpVsServiceHash (st : SvcLcore) (h : Nat) (svc : DpVsService) : Edpvs × SvcLcore :=
  if svc.flags &&& dpVsSvcFHashed ≠ 0 then (.exist, st)
  else
    let hashed := fun (st : SvcLcore) =>
      st.modifySvc h fun s => { s with flags := s.flags ||| dpVsSvcFHashed }
    if svc.fwmark ≠ 0 then
      (.ok, hashed { st with fwmTable := linkSvc st.fwmTable (dpVsServiceFwmHashkey svc.fwmark) h })
    else if svc.match'.isSome then
      (.ok, hashed { st with matchList := h :: st.matchList })
    else match dpVsServiceHashkey svc.af svc.proto svc.addr with
      | none => (.inval, st)
      | some i => (.ok, hashed { st with svcTable := linkSvc st.svcTable i h })

/-- `dp_vs_service_unhash`; the code is `EDPVS_NOTEXIST` for a service not hashed. -/
def dpVsServiceUnhash (st : SvcLcore) (h : Nat) (svc : DpVsService) : Edpvs × SvcLcore :=
  if svc.flags &&& dpVsSvcFHashed = 0 then (.notexist, st)
  else
    let st :=
      if svc.fwmark ≠ 0 then { st with fwmTable := unlinkSvc st.fwmTable h }
      else if svc.match'.isSome then { st with matchList := st.matchList.erase h }
      else { st with svcTable := unlinkSvc st.svcTable h }
    (.ok, st.modifySvc h fun s => { s with flags := s.flags &&& ~~~dpVsSvcFHashed })

/-! ## Lookups -/

/-- A `list_for_each_entry` walk: the first handle whose service passes `test`. -/
def svcFirst (st : SvcLcore) (test : DpVsService → Bool) : List Nat → Option Nat
  | [] => none
  | h :: rest =>
    match st.svc? h with
    | some svc => if test svc then some h else svcFirst st test rest
    | none => svcFirst st test rest

/-- `__dp_vs_service_get`: the bucket of `<protocol, address>`. -/
def dpVsServiceGetRaw (st : SvcLcore) (af : Int) (protocol : UInt8) (vaddr : InetAddr)
    (vport : UInt16) : Option Nat :=
  match dpVsServiceHashkey af protocol vaddr with
  | none => none
  | some i => svcFirst st (fun svc => svc.af = af && inetAddrEqual af svc.addr vaddr &&
      svc.port = vport && svc.proto = protocol) (st.svcTable i)

/-- `__dp_vs_service_fwm_get`. -/
def dpVsServiceFwmGet (st : SvcLcore) (af : Int) (fwmark : UInt32) : Option Nat :=
  svcFirst st (fun svc => svc.fwmark = fwmark && svc.af = af)
    (st.fwmTable (dpVsServiceFwmHashkey fwmark))

/-- `__dp_vs_service_match_find`. -/
def dpVsServiceMatchFind (st : SvcLcore) (af : Int) (proto : UInt8) (m : DpVsMatch) :
    Option Nat :=
  if isEmptyMatch m then none
  else svcFirst st (fun svc => af = svc.af && proto = svc.proto && svc.match' = some m)
    st.matchList

/-- `dp_vs_service_lookup` without a packet: fwmark, then address, then match. -/
def dpVsServiceLookup (st : SvcLcore) (af : Int) (protocol : UInt8) (vaddr : InetAddr)
    (vport : UInt16) (fwmark : UInt32) (m : Option DpVsMatch) : Option Nat :=
  let byMark := if fwmark ≠ 0 then dpVsServiceFwmGet st af fwmark else none
  match byMark with
  | some h => some h
  | none =>
    match dpVsServiceGetRaw st af protocol vaddr vport with
    | some h => some h
    | none =>
      match m with
      | some m => if !isEmptyMatch m then dpVsServiceMatchFind st af protocol m else none
      | none => none

/-- `dp_vs_vip_lookup`: any port. -/
def dpVsVipLookup (st : SvcLcore) (af : Int) (protocol : UInt8) (vaddr : InetAddr) :
    Option Nat :=
  match dpVsServiceHashkey af protocol vaddr with
  | none => none
  | some i => svcFirst st (fun svc => svc.af = af && inetAddrEqual af svc.addr vaddr &&
      svc.proto = protocol) (st.svcTable i)

/-! ## Adding, editing, deleting -/

/-- `dp_vs_unbind_scheduler`; `exit_service` of every scheduler succeeds. -/
def dpVsUnbindScheduler (st : SvcLcore) (h : Nat) (svc : DpVsService) : Edpvs × SvcLcore :=
  match svc.scheduler with
  | none => (.inval, st)
  | some _ => (.ok, st.modifySvc h fun s => { s with scheduler := none })

/-- `dp_vs_bind_scheduler`: the pointer is set before `init_service` runs, and stays set
when it fails. -/
def dpVsBindScheduler (env : SvcEnv) (st : SvcLcore) (h : Nat) (sched : String) :
    Edpvs × SvcLcore :=
  (env.initService sched, st.modifySvc h fun s => { s with scheduler := some sched })

/-- The new object of `dp_vs_service_add`, with `svc->match` allocated for a match that
is not empty. -/
def newService (u : DpVsServiceConf) : DpVsService :=
  { af := u.af, proto := u.proto, port := u.port, fwmark := u.fwmark, addr := u.addr,
    match' := if isEmptyMatch u.match' then none else some u.match', flags := u.flags,
    scheduler := none, refcnt := 0 }

/-- `dp_vs_service_add`. When `dp_vs_service_hash` fails, its code is returned as it is:
the object stays allocated, unlinked, with its scheduler bound. -/
def dpVsServiceAdd (env : SvcEnv) (st : SvcLcore) (u : DpVsServiceConf) : Edpvs × SvcLcore :=
  if u.fwmark = 0 ∧ inetIsAddrAny u.af u.addr ∧ u.port = 0 ∧ isEmptyMatch u.match' then
    (.inval, st)
  else if u.schedName ∉ env.schedulers then (.notexist, st)
  else if !env.memory then (.nomem, st)
  else
    let h := st.nextHandle
    let st := { st with svcs := (h, newService u) :: st.svcs, nextHandle := h + 1 }
    match dpVsBindScheduler env st h u.schedName with
    | (.ok, st) =>
      match dpVsServiceHash st h { newService u with scheduler := some u.schedName } with
      | (.ok, st) =>
        (.ok, ({ st with numServices := st.numServices + 1 }).modifySvc h
          fun s => { s with refcnt := 1 })
      | (ret, st) => (ret, st)
    -- `out_err`: unbind the scheduler, free the match and the object
    | (ret, st) => (ret, ((dpVsUnbindScheduler st h
        { newService u with scheduler := some u.schedName }).2).freeSvc h)

/-- `dp_vs_service_edit` of the live service `h`. A new scheduler is bound in place of the
old one; when its `init_service` fails the old one is bound again. -/
def dpVsServiceEdit (env : SvcEnv) (st : SvcLcore) (h : Nat) (svc : DpVsService)
    (u : DpVsServiceConf) : Edpvs × SvcLcore :=
  if u.schedName ∉ env.schedulers then (.notexist, st)
  else if u.af = afInet6 ∧ (u.netmask < 1 ∨ u.netmask > 128) then (.inval, st)
  else
    let st := st.modifySvc h fun s => { s with flags := u.flags ||| dpVsSvcFHashed }
    if svc.scheduler = some u.schedName then (.ok, st)
    else
      match dpVsUnbindScheduler st h svc with
      | (.ok, st) =>
        match dpVsBindScheduler env st h u.schedName with
        | (.ok, st) => (.ok, st)
        | (ret, st) =>
          match svc.scheduler with
          | some old => (ret, (dpVsBindScheduler env st h old).2)
          | none => (ret, st)
      | (ret, st) => (ret, st)

/-- `dp_vs_service_put`: the object is freed with its last reference. -/
def dpVsServicePut (st : SvcLcore) (h : Nat) : SvcLcore :=
  match st.svc? h with
  | none => st
  | some svc =>
    if svc.refcnt - 1 = 0 then st.freeSvc h
    else st.modifySvc h fun s => { s with refcnt := s.refcnt - 1 }

/-- `dp_vs_service_del` of the live service `h`: unhash, count it out, unbind its
scheduler and drop the table's reference. The service has no destinations here. -/
def dpVsServiceDel (st : SvcLcore) (h : Nat) (svc : DpVsService) : Edpvs × SvcLcore :=
  let st := (dpVsServiceUnhash st h svc).2
  let st := { st with numServices := st.numServices - 1 }
  let st := match st.svc? h with
    | some svc => (dpVsUnbindScheduler st h svc).2
    | none => st
  (.ok, dpVsServicePut st h)

/-- `dp_vs_service_del` of a handle read from a table. -/
def dpVsServiceDelHandle (st : SvcLcore) (h : Nat) : SvcLcore :=
  match st.svc? h with
  | some svc => (dpVsServiceDel st h svc).2
  | none => st

/-- `dp_vs_services_flush`: the address table bucket by bucket, then the fwmark table,
then the match list. -/
def dpVsServicesFlush (st : SvcLcore) : SvcLcore :=
  let byAddr := (List.range 256).flatMap st.svcTable
  let byMark := (List.range 256).flatMap st.fwmTable
  (byAddr ++ byMark ++ st.matchList).foldl dpVsServiceDelHandle st

/-- The protocols `dp_vs_service_set` accepts. -/
def supportedProto (proto : UInt8) : Bool :=
  proto == ipprotoTcp || proto == ipprotoUdp || proto == ipprotoSctp || proto == ipprotoIcmp ||
    proto == ipprotoIcmpv6

/-- `dp_vs_service_set` on one lcore for the service commands; `usvc` is the copied
`dpvs_service_compat_t`. -/
def dpVsServiceSet (env : SvcEnv) (st : SvcLcore) (opt : SvcSetOpt) (usvc : DpVsServiceConf) :
    Edpvs × SvcLcore :=
  if opt = .flush then (.ok, dpVsServicesFlush st)
  else if !supportedProto usvc.proto then (.inval, st)
  else
    -- the service is looked for by address and port first, whatever else is set
    let found : Option (Option Nat) :=
      if !inetIsAddrAny usvc.af usvc.addr || usvc.port ≠ 0 then
        some (dpVsServiceGetRaw st usvc.af usvc.proto usvc.addr usvc.port)
      else if usvc.fwmark ≠ 0 then some (dpVsServiceFwmGet st usvc.af usvc.fwmark)
      else if !isEmptyMatch usvc.match' then
        some (dpVsServiceMatchFind st usvc.af usvc.proto usvc.match')
      else none
    match found with
    | none => (.inval, st)
    | some found =>
      match opt, found.bind fun h => (st.svc? h).map fun svc => (h, svc) with
      | .add, some _ => (.exist, st)
      | .add, none => dpVsServiceAdd env st usvc
      | _, none => (.inval, st)
      | opt, some (h, svc) =>
        if svc.proto ≠ usvc.proto then (.inval, st)
        else match opt with
          | .edit => dpVsServiceEdit env st h svc usvc
          | .del => dpVsServiceDel st h svc
          | _ => (.inval, st)

/-- A run of `dp_vs_service_set` calls on one lcore: the codes, and the tables left. -/
def dpVsServiceSetRun (env : SvcEnv) : SvcLcore → List (SvcSetOpt × DpVsServiceConf) →
    List Edpvs × SvcLcore
  | st, [] => ([], st)
  | st, (opt, usvc) :: calls =>
    let (ret, st) := dpVsServiceSet env st opt usvc
    let (rets, st) := dpVsServiceSetRun env st calls
    (ret :: rets, st)

/-- An lcore with no service. -/
def svcLcoreInit : SvcLcore := ⟨[], fun _ => [], fun _ => [], [], 0, 0⟩

/-! ## A service that is looked for where it is not

A TCP service on 10.0.0.1:80 with the fwmark 7 is hashed in the fwmark table and looked
for in the address table. Two `ADD`s of it both succeed and leave two services in fwmark
bucket 7; a `DEL` and an `EDIT` of it are refused. A service on port 80 of the wildcard
address passes the check of `dp_vs_service_add`, but its address folds to zero and
`dp_vs_service_hash` fails: the `ADD` returns `EDPVS_INVAL` and leaves the object
allocated with its scheduler bound. -/

/-- An IPv4 TCP service on 10.0.0.1:80 that also carries the firewall mark 7. -/
def markedConf : DpVsServiceConf :=
  { af := afInet, proto := ipprotoTcp, port := 80, fwmark := 7, flags := 0, netmask := 0,
    addr := InetAddr.ofV4 0x0100000a, schedName := "rr", match' := zeroMatch }

/-- A TCP service on port 80 of the IPv4 wildcard address. -/
def anyAddrConf : DpVsServiceConf := { markedConf with fwmark := 0, addr := InetAddr.ofV4 0 }

/-- The round-robin scheduler registered, and memory to spare. -/
def rrEnv : SvcEnv := ⟨["rr"], fun _ => .ok, true⟩

theorem service_added_twice_and_never_found :
    (dpVsServiceSetRun rrEnv svcLcoreInit
        [(.add, markedConf), (.add, markedConf), (.del, markedConf), (.edit, markedConf)]).1 =
      [.ok, .ok, .inval, .inval] ∧
    (dpVsServiceSetRun rrEnv svcLcoreInit
        [(.add, markedConf), (.add, markedConf), (.del, markedConf), (.edit, markedConf)]).2.fwmTable
        (dpVsServiceFwmHashkey 7) = [1, 0] ∧
    (dpVsServiceSet rrEnv svcLcoreInit .add anyAddrConf).1 = .inval ∧
    (dpVsServiceSet rrEnv svcLcoreInit .add anyAddrConf).2.svc? 0 =
      some { newService anyAddrConf with scheduler := some "rr" } := by
  decide

end Dpvs
