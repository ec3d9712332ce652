import Dpvs.Ipvs.Service
import Dpvs.Route
import Dpvs.SaPool.Pool

/-!
# Finding a match service for a packet

The last resort of `dp_vs_service_lookup` in `src/ipvs/ip_vs_service.c` is
`__dp_vs_service_match_get4/6`: the first service of the lcore's match list whose
`dp_vs_match` the packet meets — family, upper-layer protocol, source and destination
ranges (`__service_in_range`), input device and output device.

The output device is the route's, kept in a variable `oif` of the function. The loop
sets that variable to `NETIF_PORT_ID_ALL` at every service without an output device
name, for the test of that service and of every one after it. A service that names
its output device and comes after one that does not is then tested against
`NETIF_PORT_ID_ALL` and never found (`matchGetLoop_ne_of_unnamed`), although the
packet leaves by its device: which services the lookup can return depends on their
order in the list.
-/

namespace Dpvs

open Dpvs.Sa (ntohs)
open Dpvs.Route (rtfKni rtfLocalin)

/-- `NETIF_PORT_ID_ALL`, which is `NETIF_PORT_ID_INVALID = NETIF_MAX_PORTS`. -/
def netifPortIdAll : UInt16 := 4096

/-- `memcmp` of two byte strings of one length: the order of the first bytes that
differ. -/
def memcmpBytes : List UInt8 → List UInt8 → Ordering
  | x :: xs, y :: ys => if x = y then memcmpBytes xs ys else compare x y
  | _, _ => .eq

/-- `ipv6_addr_cmp`: `memcmp` of the sixteen bytes. -/
def ipv6AddrCmp (a b : InetAddr) : Ordering := memcmpBytes a.bytes b.bytes

/-- `__service_in_range`; the port and the range's ports are in network order. An
empty range (`max_addr` zero, `max_port` zero) does not restrict. -/
def serviceInRange (af : Int) (addr : InetAddr) (port : UInt16) (range : InetAddrRange) : Bool :=
  if af = afInet ∧ beToCpu32 range.minAddr.w0 > beToCpu32 range.maxAddr.w0 then false
  else if af = afInet6 ∧ ipv6AddrCmp range.minAddr range.maxAddr = .gt then false
  else if ntohs range.minPort > ntohs range.maxPort then false
  else if !inetIsAddrAny af range.maxAddr ∧
      (if af = afInet then
        beToCpu32 addr.w0 < beToCpu32 range.minAddr.w0 ∨
          beToCpu32 addr.w0 > beToCpu32 range.maxAddr.w0
      else ipv6AddrCmp range.minAddr addr = .gt ∨ ipv6AddrCmp range.maxAddr addr = .lt) then
    false
  else if range.maxPort ≠ 0 ∧ (ntohs port < ntohs range.minPort ∨ ntohs port > ntohs range.maxPort)
  then false
  else true

/-- What the lookup reads of a route: its flags and its device. -/
structure MatchRoute where
  flag : UInt32
  portId : UInt16
  deriving DecidableEq, Repr

/-- What the lookup reads of a packet: the addresses and the next header of its IP
header, the two port words after it (`none` when `mbuf_header_pointer` cannot read
them), its input port `mbuf->port`, and the route attached to it
(`MBUF_FIELD_ROUTE`). -/
structure MatchPacket where
  srcAddr : InetAddr
  dstAddr : InetAddr
  nextProto : UInt8
  ports : Option (UInt16 × UInt16)
  port : UInt16
  route : Option MatchRoute
  deriving DecidableEq, Repr

/-- What the lookup reads besides the packet and the tables: the route
`route4_input` / `route6_input` gives the packet, the device of each name in
`netif_port_get_by_name`'s table, and `ip6_skip_exthdr` from the end of the packet's
fixed header, as a function of the next header it starts from. -/
structure MatchEnv where
  routeInput : Option MatchRoute
  portByName : Vector UInt8 16 → Option UInt16
  ip6SkipExthdr : UInt8 → UInt8

/-- `netif_port_get_by_name`: no device for an empty name. -/
def netifPortGetByName (env : MatchEnv) (name : Vector UInt8 16) : Option UInt16 :=
  if name[0] = 0 then none else env.portByName name

/-- The output device the loop starts from: that of the route attached to the packet,
or else of the one routing gives; `none` (the lookup's `NULL`) without a route or for a
KNI or local route. -/
def matchOif (env : MatchEnv) (pkt : MatchPacket) : Option UInt16 :=
  let rt := match pkt.route with
    | some rt => some rt
    | none => env.routeInput
  match rt with
  | none => none
  | some rt => if rt.flag &&& rtfKni ≠ 0 ∨ rt.flag &&& rtfLocalin ≠ 0 then none else some rt.portId

/-- The test of one service `svc` with match `m` in the loop, against the output device
`oif` and the next header `nxt`. -/
def matchTest (env : MatchEnv) (af : Int) (pkt : MatchPacket) (sport dport oif : UInt16)
    (nxt : UInt8) (svc : DpVsService) (m : DpVsMatch) : Bool :=
  svc.af = af && svc.proto = nxt && serviceInRange af pkt.srcAddr sport m.srange &&
    serviceInRange af pkt.dstAddr dport m.drange &&
    (netifPortGetByName env m.iifname).all (· = pkt.port) &&
    (netifPortGetByName env m.oifname).all (· = oif)

section Loop

variable (env : MatchEnv) (st : SvcLcore) (af : Int) (nextHdr : UInt8 → UInt8)
  (pkt : MatchPacket) (sport dport : UInt16)

/-- The loop of `__dp_vs_service_match_get4/6` over the match list, with the loop's
variables `oif` and `nxt`; `nextHdr` is what a round does to `nxt`: nothing for IPv4,
`ip6_skip_exthdr` for IPv6. Every service on the list has a match (`assert(m)`). -/
def matchGetLoop : UInt16 → UInt8 → List Nat → Option Nat
  | _, _, [] => none
  | oif, nxt, h :: rest =>
    match st.svc? h with
    | none => matchGetLoop oif nxt rest
    | some svc =>
      match svc.match' with
      | none => matchGetLoop oif nxt rest
      | some m =>
        -- the function's own `oif`, not a copy: it stays reset for the rest of the list
        let oif := if m.oifname[0] = 0 then netifPortIdAll else oif
        let nxt := nextHdr nxt
        if matchTest env af pkt sport dport oif nxt svc m then some h
        else matchGetLoop oif nxt rest

/-- `__dp_vs_service_match_get4/6` for the family `af`. -/
def serviceMatchGetWith : Option Nat :=
  match pkt.ports with
  | none => none
  | some (sport, dport) =>
    match matchOif env pkt with
    | none => none
    | some oif => matchGetLoop env st af nextHdr pkt sport dport oif pkt.nextProto st.matchList

end Loop

/-- `__dp_vs_service_match_get4`. -/
def dpVsServiceMatchGet4 (env : MatchEnv) (st : SvcLcore) (pkt : MatchPacket) : Option Nat :=
  serviceMatchGetWith env st afInet id pkt

/-- `__dp_vs_service_match_get6`. -/
def dpVsServiceMatchGet6 (env : MatchEnv) (st : SvcLcore) (pkt : MatchPacket) : Option Nat :=
  serviceMatchGetWith env st afInet6 env.ip6SkipExthdr pkt

/-- `__dp_vs_service_match_get`. -/
def dpVsServiceMatchGet (env : MatchEnv) (st : SvcLcore) (af : Int) (pkt : MatchPacket) :
    Option Nat :=
  if af = afInet then dpVsServiceMatchGet4 env st pkt
  else if af = afInet6 then dpVsServiceMatchGet6 env st pkt
  else none

/-- `dp_vs_service_lookup`: fwmark, address and match, and at the lowest priority the
packet, when there is one. -/
def dpVsServiceLookupMbuf (env : MatchEnv) (st : SvcLcore) (af : Int) (protocol : UInt8)
    (vaddr : InetAddr) (vport : UInt16) (fwmark : UInt32) (mbuf : Option MatchPacket)
    (m : Option DpVsMatch) : Option Nat :=
  match dpVsServiceLookup st af protocol vaddr vport fwmark m with
  | some h => some h
  | none =>
    match mbuf with
    | some pkt => dpVsServiceMatchGet env st af pkt
    | none => none

/-! ## What the lookup by packet is for -/

/-- The first service of the match list whose match the packet meets, every one tested
against the packet's own output device `oif`. -/
def matchGetIntended (env : MatchEnv) (st : SvcLcore) (af : Int) (pkt : MatchPacket)
    (sport dport oif : UInt16) (nxt : UInt8) : Option Nat :=
  svcFirst st (fun svc => match svc.match' with
    | some m => matchTest env af pkt sport dport oif nxt svc m
    | none => false) st.matchList

/-! ## One round of the loop -/

section Rounds

variable {env : MatchEnv} {st : SvcLcore} {af : Int} {nextHdr : UInt8 → UInt8}
  {pkt : MatchPacket} {sport dport : UInt16}

theorem matchGetLoop_cons_of_free {h : Nat} (rest : List Nat) (free : st.svc? h = none)
    (oif : UInt16) (nxt : UInt8) :
    matchGetLoop env st af nextHdr pkt sport dport oif nxt (h :: rest) =
      matchGetLoop env st af nextHdr pkt sport dport oif nxt rest := by
  rw [matchGetLoop, free]

theorem matchGetLoop_cons_of_no_match {h : Nat} (rest : List Nat) {svc : DpVsService}
    (found : st.svc? h = some svc) (none : svc.match' = none) (oif : UInt16) (nxt : UInt8) :
    matchGetLoop env st af nextHdr pkt sport dport oif nxt (h :: rest) =
      matchGetLoop env st af nextHdr pkt sport dport oif nxt rest := by
  rw [matchGetLoop, found]
  simp only [none]

/-- The round of a service with a match: `oif` is reset first when it names no output
device, and the service is tested against what `oif` then holds. -/
theorem matchGetLoop_cons_of_match {h : Nat} (rest : List Nat) {svc : DpVsService}
    {m : DpVsMatch} (found : st.svc? h = some svc) (hm : svc.match' = some m) (oif : UInt16)
    (nxt : UInt8) :
    matchGetLoop env st af nextHdr pkt sport dport oif nxt (h :: rest) =
      if matchTest env af pkt sport dport (if m.oifname[0] = 0 then netifPortIdAll else oif)
          (nextHdr nxt) svc m then some h
      else matchGetLoop env st af nextHdr pkt sport dport
        (if m.oifname[0] = 0 then netifPortIdAll else oif) (nextHdr nxt) rest := by
  rw [matchGetLoop, found]
  simp only [hm]

theorem ite_some_ne {c : Prop} [Decidable c] {h b : Nat} {r : Option Nat} (other : h ≠ b)
    (rest : r ≠ some b) : (if c then some h else r) ≠ some b := by
  split
  · exact fun same => other (Option.some.inj same)
  · exact rest

end Rounds

/-! ## The loop once `oif` is reset -/

section Reset

variable {env : MatchEnv} {st : SvcLcore} {af : Int} {nextHdr : UInt8 → UInt8}
  {pkt : MatchPacket} {sport dport : UInt16}

/-- A service on the list that has a match and no output device name. -/
def Unnamed (st : SvcLcore) (h : Nat) : Prop :=
  ∃ svc m, st.svc? h = some svc ∧ svc.match' = some m ∧ m.oifname[0] = 0

/-- A service whose output device is a real port is never found once `oif` is
`NETIF_PORT_ID_ALL`. -/
theorem matchGetLoop_all_ne {b : Nat} {svcB : DpVsService} {mB : DpVsMatch} {id : UInt16}
    (hb : st.svc? b = some svcB) (hmB : svcB.match' = some mB)
    (named : netifPortGetByName env mB.oifname = some id) (real : id ≠ netifPortIdAll) :
    ∀ (nxt : UInt8) (L : List Nat),
      matchGetLoop env st af nextHdr pkt sport dport netifPortIdAll nxt L ≠ some b := by
  intro nxt L
  induction L generalizing nxt with
  | nil => exact nofun
  | cons h rest later =>
    cases found : st.svc? h with
    | none => rw [matchGetLoop_cons_of_free rest found]; exact later nxt
    | some svc =>
      cases hm : svc.match' with
      | none => rw [matchGetLoop_cons_of_no_match rest found hm]; exact later nxt
      | some m =>
        -- the variable stays `NETIF_PORT_ID_ALL` whatever this service names
        rw [matchGetLoop_cons_of_match rest found hm, ite_self]
        by_cases same : h = b
        · subst same
          rw [hb, Option.some.injEq] at found
          subst found
          rw [hmB, Option.some.injEq] at hm
          subst hm
          rw [if_neg (by simp [matchTest, named, real])]
          exact later _
        · exact ite_some_ne same (later _)

/-- A service that names its output device is never found after one that does not. -/
theorem matchGetLoop_ne_of_unnamed {b : Nat} {svcB : DpVsService} {mB : DpVsMatch}
    {id : UInt16} (hb : st.svc? b = some svcB) (hmB : svcB.match' = some mB)
    (named : netifPortGetByName env mB.oifname = some id) (real : id ≠ netifPortIdAll)
    (post : List Nat) :
    ∀ (pre : List Nat) (oif : UInt16) (nxt : UInt8), b ∉ pre → (∃ u ∈ pre, Unnamed st u) →
      matchGetLoop env st af nextHdr pkt sport dport oif nxt (pre ++ b :: post) ≠ some b := by
  intro pre
  induction pre with
  | nil => exact fun _ _ _ ⟨_, mem, _⟩ => absurd mem List.not_mem_nil
  | cons h pre later =>
    intro oif nxt fresh ⟨u, mem, unnamed⟩
    have other : h ≠ b := fun same => fresh (same ▸ List.mem_cons_self)
    rw [List.cons_append]
    by_cases first : u = h
    · -- the unnamed service resets `oif` here, for the rest of the list
      obtain ⟨svc, m, found, hm, empty⟩ := unnamed
      subst first
      rw [matchGetLoop_cons_of_match _ found hm, if_pos empty]
      exact ite_some_ne other (matchGetLoop_all_ne hb hmB named real _ _)
    · have unnamedLater : ∃ u ∈ pre, Unnamed st u :=
        ⟨u, (List.mem_cons.mp mem).resolve_left first, unnamed⟩
      have freshLater : b ∉ pre := fun m => fresh (List.mem_cons_of_mem h m)
      cases found : st.svc? h with
      | none =>
        rw [matchGetLoop_cons_of_free _ found]
        exact later oif nxt freshLater unnamedLater
      | some svc =>
        cases hm : svc.match' with
        | none =>
          rw [matchGetLoop_cons_of_no_match _ found hm]
          exact later oif nxt freshLater unnamedLater
        | some m =>
          rw [matchGetLoop_cons_of_match _ found hm]
          exact ite_some_ne other (later _ _ freshLater unnamedLater)

end Reset

/-! ## The lookup against its purpose -/

theorem svcFirst_append_of_none {st : SvcLcore} {test : DpVsService → Bool} {pre : List Nat}
    (post : List Nat) (none : svcFirst st test pre = none) :
    svcFirst st test (pre ++ post) = svcFirst st test post := by
  induction pre with
  | nil => rfl
  | cons h pre ih =>
    rw [List.cons_append, svcFirst]
    rw [svcFirst] at none
    split
    · next svc found =>
      rw [found] at none
      by_cases pass : test svc
      · simp [pass] at none
      · simp only [pass] at none ⊢
        exact ih none
    · next found =>
      rw [found] at none
      exact ih none

theorem match_lookup_hides_named_oif_after_unnamed (env : MatchEnv) (st : SvcLcore)
    (protocol : UInt8) (vaddr : InetAddr) (vport : UInt16) (fwmark : UInt32)
    (m : Option DpVsMatch) (pkt : MatchPacket) {sport dport oif : UInt16} (pre post : List Nat)
    {b : Nat} {svcB : DpVsService} {mB : DpVsMatch}
    (earlier : dpVsServiceLookup st afInet protocol vaddr vport fwmark m = none)
    (ports : pkt.ports = some (sport, dport)) (routed : matchOif env pkt = some oif)
    (list : st.matchList = pre ++ b :: post) (fresh : b ∉ pre)
    (unnamed : ∃ u ∈ pre, Unnamed st u) (hb : st.svc? b = some svcB)
    (hmB : svcB.match' = some mB) (named : netifPortGetByName env mB.oifname = some oif)
    (real : oif ≠ netifPortIdAll)
    (meets : matchTest env afInet pkt sport dport oif pkt.nextProto svcB mB = true)
    (noneBefore : svcFirst st (fun svc => match svc.match' with
      | some m => matchTest env afInet pkt sport dport oif pkt.nextProto svc m
      | none => false) pre = none) :
    dpVsServiceLookupMbuf env st afInet protocol vaddr vport fwmark (some pkt) m ≠ some b ∧
      matchGetIntended env st afInet pkt sport dport oif pkt.nextProto = some b := by
  constructor
  · -- the loop reaches `b` with `oif` already reset
    unfold dpVsServiceLookupMbuf dpVsServiceMatchGet dpVsServiceMatchGet4 serviceMatchGetWith
    rw [earlier]
    dsimp only
    rw [if_pos rfl, ports]
    dsimp only
    rw [routed]
    dsimp only
    rw [list]
    exact matchGetLoop_ne_of_unnamed hb hmB named real post pre oif _ fresh unnamed
  · unfold matchGetIntended
    rw [list, svcFirst_append_of_none _ noneBefore, svcFirst, hb]
    simp [hmB, meets]

/-- The name `dpdk1` in a `char[IFNAMSIZ]`. -/
def dpdk1Name : Vector UInt8 16 := ⟨#[100, 112, 100, 107, 49, 0, 0, 0, 0, 0, 0, 0, 0, 0, 0, 0], rfl⟩

/-- A forwarding route out of port 1 (`dpdk1`), the only named port. -/
def dpdk1Env : MatchEnv :=
  { routeInput := some ⟨0, 1⟩, portByName := fun name => if name = dpdk1Name then some 1 else none,
    ip6SkipExthdr := id }

/-- A match service of `proto` whose match names the output device `oifname` only. -/
def oifMatchService (proto : UInt8) (oifname : Vector UInt8 16) : DpVsService :=
  { af := afInet, proto, port := 0, fwmark := 0, addr := ⟨0, 0, 0, 0⟩,
    match' := some { zeroMatch with af := afInet, oifname }, flags := dpVsSvcFHashed,
    scheduler := some "rr", refcnt := 0 }

/-- Two SNAT services: UDP out of any device first, then TCP out of `dpdk1`. -/
def snatPair : SvcLcore :=
  { svcs := [(0, oifMatchService ipprotoUdp (Vector.replicate 16 0)),
      (1, oifMatchService ipprotoTcp dpdk1Name)],
    svcTable := fun _ => [], fwmTable := fun _ => [], matchList := [0, 1], numServices := 2,
    nextHandle := 2 }

/-- A TCP packet from `192.168.1.2:4660` to `8.8.8.8:80` that arrived on port 0. -/
def tcpOut : MatchPacket :=
  { srcAddr := InetAddr.ofV4 0x0201a8c0, dstAddr := InetAddr.ofV4 0x08080808,
    nextProto := ipprotoTcp, ports := some (0x3412, 0x5000), port := 0, route := none }

theorem match_lookup_hides_named_oif_after_unnamed_snat :
    dpVsServiceLookupMbuf dpdk1Env snatPair afInet ipprotoTcp tcpOut.dstAddr 0x5000 0
        (some tcpOut) none ≠ some 1 ∧
      matchGetIntended dpdk1Env snatPair afInet tcpOut 0x3412 0x5000 1 tcpOut.nextProto = some 1 :=
  match_lookup_hides_named_oif_after_unnamed dpdk1Env snatPair ipprotoTcp tcpOut.dstAddr 0x5000 0
    none tcpOut [0] [] (by decide) rfl (by decide) rfl (by decide)
    ⟨0, List.mem_singleton_self 0, _, _, rfl, rfl, rfl⟩ rfl rfl (by decide) (by decide)
    (by decide) (by decide)

end Dpvs
