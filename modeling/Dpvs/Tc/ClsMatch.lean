import Dpvs.Tc.PfifoFast
import Dpvs.Ipvs.ServiceMatch
import Dpvs.Ipv6.Prefix

/-!
# The match classifier

`match_classify` of `src/tc/cls_match.c` tests a packet against the `dp_vs_match` of a
classifier: the input device on the ingress side or the output device on the egress
side, then, after the walk over 802.1Q tags it shares with `pfifo_fast_enqueue`
(`l2Walk`), the family and the address ranges of the IP header, the upper-layer
protocol, and the port ranges of a TCP, UDP or SCTP header. It answers `TC_ACT_OK` with
the classifier's result on a match, `TC_ACT_SHOT` when a header it needs is cut short,
and `TC_ACT_RECLASSIFY` otherwise.

Once the device checks have passed, a frame whose first tag carries a second
`ETH_P_8021Q` tag keeps the shared walk at that type for ever, so the classifier never
answers for it, as `pfifo_fast_enqueue` never does below the limit
(`tc_l2parse_spins_on_stacked_tags`).
-/

namespace Dpvs.Tc

open Dpvs.Sa (ntohs)

/-- `AF_UNSPEC`. -/
def afUnspec : Int := 0

/-- The answers of a classifier (`TC_ACT_*`). -/
inductive TcAct where
  | ok
  | reclassify
  | shot
  deriving DecidableEq, Repr

/-- `struct tc_cls_result`. -/
structure TcClsResult where
  drop : Bool
  schId : UInt32
  deriving DecidableEq, Repr

/-- `struct match_cls_priv`: the protocol, the match and the result of the classifier. -/
structure MatchClsPriv where
  proto : UInt8
  match' : DpVsMatch
  result : TcClsResult
  deriving DecidableEq, Repr

/-- The device checks: on the ingress side the input device of the match, on the egress
side its output device, when the match names one, must be the packet's port. -/
def matchDevCheck (env : MatchEnv) (ingress : Bool) (mt : DpVsMatch) (port : UInt16) : Bool :=
  if ingress then (netifPortGetByName env mt.iifname).all (· = port)
  else (netifPortGetByName env mt.oifname).all (· = port)

/-- The IPv4 range test: a range with `max_addr` set holds the address (in host order)
between its bounds. -/
def ipv4OutOfRange (addr : UInt32) (range : InetAddrRange) : Bool :=
  range.maxAddr.w0 ≠ 0 ∧
    (addr < beToCpu32 range.minAddr.w0 ∨ addr > beToCpu32 range.maxAddr.w0)

/-- The IPv6 range test, by `ipv6_addr_cmp`. -/
def ipv6OutOfRange (addr : InetAddr) (range : InetAddrRange) : Bool :=
  !inetIsAddrAny afInet6 range.maxAddr ∧
    (ipv6AddrCmp addr range.minAddr = .lt ∨ ipv6AddrCmp addr range.maxAddr = .gt)

/-- The port range test; the range's ports are in network order. -/
def portOutOfRange (port : UInt16) (range : InetAddrRange) : Bool :=
  range.maxPort ≠ 0 ∧ (port < ntohs range.minPort ∨ port > ntohs range.maxPort)

/-- The `switch (ntohs(pkt_type))` after the tags: the upper-layer protocol and the
offset of its header, or the answer the classifier gives at once. `skipExthdr` is
`ip6_skip_exthdr` from an offset and a next header, `none` for its negative answer. -/
def matchL3 (skipExthdr : Mbuf → Nat → UInt8 → Option (Nat × UInt8)) (mt : DpVsMatch)
    (m : Mbuf) (pktType : UInt16) (offset : Nat) : Except TcAct (UInt8 × Nat) :=
  if pktType = ethPIp then
    if mt.af ≠ afInet ∧ mt.af ≠ afUnspec then .error .reclassify
    else if !mbufMayPull m (offset + 20) then .error .shot
    else if ipv4OutOfRange (m.be32 (offset + 12)) mt.srange then .error .reclassify
    else if ipv4OutOfRange (m.be32 (offset + 16)) mt.drange then .error .reclassify
    -- `offset += (iph->ihl << 2)`, `ihl` the low nibble of the first byte
    else .ok (m.data.getD (offset + 9) 0, offset + ((m.data.getD offset 0 &&& 0xf).toNat <<< 2))
  else if pktType = ethPIpv6 then
    if mt.af ≠ afInet6 ∧ mt.af ≠ afUnspec then .error .reclassify
    else if !mbufMayPull m (offset + 40) then .error .shot
    else if ipv6OutOfRange (InetAddr.ofBytes (m.data.drop (offset + 8))) mt.srange then
      .error .reclassify
    else if ipv6OutOfRange (InetAddr.ofBytes (m.data.drop (offset + 24))) mt.drange then
      .error .reclassify
    else
      match skipExthdr m (offset + 40) (m.data.getD (offset + 6) 0) with
      | none => .error .shot
      | some (offset, l4Proto) => .ok (l4Proto, offset)
  else .error .reclassify

/-- The length of the header whose ports the classifier reads: TCP, UDP, SCTP. -/
def l4PortHdrLen (l4Proto : UInt8) : Option Nat :=
  if l4Proto = ipprotoTcp then some 20
  else if l4Proto = ipprotoUdp then some 8
  else if l4Proto = ipprotoSctp then some 12
  else none

/-- The protocol and port checks, from the upper-layer protocol and its offset. -/
def matchL4 (priv : MatchClsPriv) (m : Mbuf) (l4Proto : UInt8) (offset : Nat) :
    TcAct × Option TcClsResult :=
  if priv.proto ≠ 0 ∧ l4Proto ≠ 0 ∧ priv.proto ≠ l4Proto then (.reclassify, none)
  else
    match l4PortHdrLen l4Proto with
    | none => (.ok, some priv.result)
    | some len =>
      if !mbufMayPull m (offset + len) then (.shot, none)
      else if portOutOfRange (m.be16 offset) priv.match'.srange then (.reclassify, none)
      else if portOutOfRange (m.be16 (offset + 2)) priv.match'.drange then (.reclassify, none)
      else (.ok, some priv.result)

/-- `match_classify` on a classifier of an ingress (`ingress`) or egress Qsch: the answer
and the result it writes, `none` when its walk over the tags does not end within `fuel`
rounds. -/
def matchClassify (env : MatchEnv) (skipExthdr : Mbuf → Nat → UInt8 → Option (Nat × UInt8))
    (ingress : Bool) (fuel : Nat) (priv : MatchClsPriv) (m : Mbuf) :
    Option (TcAct × Option TcClsResult) :=
  if !matchDevCheck env ingress priv.match' m.port then some (.reclassify, none)
  else
    match l2Walk m fuel with
    | none => none
    | some (pktType, offset) =>
      match matchL3 skipExthdr priv.match' m pktType offset with
      | .error act => some (act, none)
      | .ok (l4Proto, offset) => some (matchL4 priv m l4Proto offset)

/-! ## What a match means -/

/-- An IPv4 header the classifier passes on is one of the match's family, pulled whole,
with both addresses in the match's ranges. -/
theorem matchL3_ipv4_ok {skipExthdr : Mbuf → Nat → UInt8 → Option (Nat × UInt8)} {mt : DpVsMatch}
    {m : Mbuf} {offset : Nat} {l4Proto : UInt8} {offset' : Nat}
    (h : matchL3 skipExthdr mt m ethPIp offset = .ok (l4Proto, offset')) :
    (mt.af = afInet ∨ mt.af = afUnspec) ∧ offset + 20 ≤ m.data.length ∧
      ipv4OutOfRange (m.be32 (offset + 12)) mt.srange = false ∧
      ipv4OutOfRange (m.be32 (offset + 16)) mt.drange = false ∧
      l4Proto = m.data.getD (offset + 9) 0 := by
  unfold matchL3 at h
  rw [if_pos rfl] at h
  split_ifs at h with family pull src dst
  cases h
  refine ⟨?_, by simpa [mbufMayPull] using pull, by simpa using src, by simpa using dst, rfl⟩
  by_contra other
  exact family (not_or.mp other)

/-- The IP header never makes the classifier answer `TC_ACT_OK` on its own. -/
theorem matchL3_ne_error_ok (skipExthdr : Mbuf → Nat → UInt8 → Option (Nat × UInt8))
    (mt : DpVsMatch) (m : Mbuf) (pktType : UInt16) (offset : Nat) :
    matchL3 skipExthdr mt m pktType offset ≠ .error .ok := by
  unfold matchL3
  split_ifs
  all_goals try split
  all_goals simp

/-- The checks after the IP header that lead to a match: the protocol agrees, and a TCP,
UDP or SCTP header is pulled whole with both ports in the match's ranges. -/
theorem matchL4_ok {priv : MatchClsPriv} {m : Mbuf} {l4Proto : UInt8} {offset : Nat}
    {r : Option TcClsResult} (h : matchL4 priv m l4Proto offset = (.ok, r)) :
    r = some priv.result ∧ (priv.proto = 0 ∨ l4Proto = 0 ∨ priv.proto = l4Proto) ∧
      ∀ len, l4PortHdrLen l4Proto = some len → offset + len ≤ m.data.length ∧
        portOutOfRange (m.be16 offset) priv.match'.srange = false ∧
        portOutOfRange (m.be16 (offset + 2)) priv.match'.drange = false := by
  unfold matchL4 at h
  by_cases proto : priv.proto ≠ 0 ∧ l4Proto ≠ 0 ∧ priv.proto ≠ l4Proto
  · rw [if_pos proto] at h
    cases h
  rw [if_neg proto] at h
  have agrees : priv.proto = 0 ∨ l4Proto = 0 ∨ priv.proto = l4Proto := by
    by_contra other
    obtain ⟨set, rest⟩ := not_or.mp other
    obtain ⟨given, differs⟩ := not_or.mp rest
    exact proto ⟨set, given, differs⟩
  cases hdr : l4PortHdrLen l4Proto with
  | none =>
    rw [hdr] at h
    exact ⟨(Prod.mk.inj h).2.symm, agrees, fun _ none => by cases none⟩
  | some len =>
    -- a TCP, UDP or SCTP header: the pull and both port checks passed
    rw [hdr] at h
    dsimp only at h
    split_ifs at h with pull src dst
    · cases h
    · cases h
    · cases h
    refine ⟨(Prod.mk.inj h).2.symm, agrees, fun len' same => ?_⟩
    cases same
    exact ⟨by simpa [mbufMayPull] using pull, by simpa using src, by simpa using dst⟩

/-- A match passed the device checks, ended its walk over the tags, and passed the checks
of the IP header and of the header after it; only a match writes the result. -/
theorem matchClassify_ok {env : MatchEnv} {skipExthdr : Mbuf → Nat → UInt8 → Option (Nat × UInt8)}
    {ingress : Bool} {fuel : Nat} {priv : MatchClsPriv} {m : Mbuf} {r : Option TcClsResult}
    (h : matchClassify env skipExthdr ingress fuel priv m = some (.ok, r)) :
    matchDevCheck env ingress priv.match' m.port = true ∧
      ∃ pktType offset l4Proto offset', l2Walk m fuel = some (pktType, offset) ∧
        matchL3 skipExthdr priv.match' m pktType offset = .ok (l4Proto, offset') ∧
        matchL4 priv m l4Proto offset' = (.ok, r) := by
  unfold matchClassify at h
  split_ifs at h with dev
  · cases h
  · refine ⟨by simpa using dev, ?_⟩
    cases walk : l2Walk m fuel with
    | none => rw [walk] at h; cases h
    | some st =>
      obtain ⟨pktType, offset⟩ := st
      rw [walk] at h
      dsimp only at h
      cases l3 : matchL3 skipExthdr priv.match' m pktType offset with
      | error act =>
        rw [l3] at h
        cases h
        exact absurd l3 (matchL3_ne_error_ok skipExthdr priv.match' m pktType offset)
      | ok res =>
        obtain ⟨l4Proto, offset'⟩ := res
        rw [l3] at h
        exact ⟨pktType, offset, l4Proto, offset', rfl, l3, Option.some.inj h⟩

/-! ## Stacked tags -/

theorem tc_l2parse_spins_on_stacked_tags {m : Mbuf} (outer : m.be16 12 = ethP8021Q)
    (inner : m.be16 16 = ethP8021Q) :
    (∀ (fuel : Nat) (tmOk : Bool) (s : PfifoFast), ¬s.qQlen.toUInt32 ≥ s.limit →
        pfifoFastEnqueue fuel tmOk s m = none) ∧
      ∀ (env : MatchEnv) (skipExthdr : Mbuf → Nat → UInt8 → Option (Nat × UInt8)) (ingress : Bool)
        (fuel : Nat) (priv : MatchClsPriv), matchDevCheck env ingress priv.match' m.port = true →
        matchClassify env skipExthdr ingress fuel priv m = none := by
  refine ⟨fun fuel tmOk s under => pfifoFastEnqueue_spins under (l2Walk_stacked outer inner fuel), ?_⟩
  intro env skipExthdr ingress fuel priv dev
  rw [matchClassify, if_neg (by simp [dev]), l2Walk_stacked outer inner fuel]

/-- A frame with two 802.1Q tags in front of an IPv4 header. -/
def qinqFrame : Mbuf :=
  ⟨List.replicate 12 0 ++ [0x81, 0x00, 0x00, 0x05, 0x81, 0x00, 0x00, 0x06, 0x08, 0x00, 0x45] ++
    List.replicate 19 0, 42, 0⟩

/-- A match on nothing, and a setting with no devices and no extension headers. -/
def anyMatchPriv : MatchClsPriv := ⟨0, zeroMatch, ⟨false, 0⟩⟩

def noDevEnv : MatchEnv := ⟨none, fun _ => none, id⟩

theorem tc_l2parse_spins_on_stacked_tags_qinq :
    pfifoFastEnqueue 4096 true pfifoFastInit qinqFrame = none ∧
      matchClassify noDevEnv (fun _ _ _ => none) true 4096 anyMatchPriv qinqFrame = none :=
  ⟨(tc_l2parse_spins_on_stacked_tags (by decide) (by decide)).1 4096 true pfifoFastInit (by decide),
    (tc_l2parse_spins_on_stacked_tags (by decide) (by decide)).2 noDevEnv _ true 4096 anyMatchPriv
      (by decide)⟩

end Dpvs.Tc
