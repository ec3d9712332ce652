import Dpvs.Ipv4.Forward
import Dpvs.IpTunnel

/-!
# ICMP errors: icmp_send

`src/icmp.c` answers an offending IPv4 datagram, held in an mbuf whose data start at its
IP header, with an ICMP error: addressed to the datagram's source, quoting its header and
as much of what follows as fits in 576 bytes and the output MTU, with the checksum taken
over the whole message (`icmpSend_daddr`, `icmpSend_quote`, `icmpSend_cksum_valid`).

It stays silent for link-layer broadcasts, IP multicast and broadcast destinations,
non-first fragments, and ICMP errors about ICMP errors. But `icmp_ctrls` marks every ICMP
type but the echo request as an error, the queries among them too (echo reply, router
advertisement and solicitation, timestamp, information and address mask requests and
replies), so no error is ever sent about a datagram that carries one
(`icmp_send_drops_errors_about_queries`).

The caller must hand over the datagram as it arrived. `gre_rcv` calls it after
`ipv4_local_in_fin` stripped the outer header, so what it parses as an IP header is the
GRE header and the payload behind it, and the error goes to an address read from them
(`greRcvIcmp_daddr`).
-/

namespace Dpvs.Ipv4

open OnesComplement

/-- `eth_type_t`, the `packet_type` a frame arrived as. -/
inductive EthType where
  | host
  | broadcast
  | multicast
  | otherhost
  deriving DecidableEq, Repr

/-- `NR_ICMP_TYPES`. -/
def nrIcmpTypes : Nat := 18

/-- `ICMP_ECHO`. -/
def icmpEcho : Nat := 8

/-- `IPPROTO_ICMP`. -/
def ipprotoIcmp : UInt8 := 1

/-- `IPTOS_TOS_MASK`. -/
def iptosTosMask : UInt8 := 0x1e

/-- `IPTOS_PREC_INTERNETCONTROL`. -/
def iptosPrecInternetcontrol : UInt8 := 0xc0

/-- `RTE_IPV4_HDR_OFFSET_MASK`. -/
def rteIpv4HdrOffsetMask : UInt16 := 0x1fff

/-- `INADDR_BROADCAST`. -/
def inaddrBroadcast : UInt32 := 0xffffffff

/-- `icmp_ctrls[type].is_error`: the table marks every type up to `NR_ICMP_TYPES` but
`ICMP_ECHO`, and leaves the types above it unmarked. -/
def icmpIsError (type : Nat) : Bool := type ≤ nrIcmpTypes && type != icmpEcho

/-- The 32-bit field at `i` of a header, in network order: `ntohl` of it. -/
def be32 (l : List UInt8) (i : Nat) : UInt32 :=
  (l.getD i 0).toUInt32 <<< 24 ||| (l.getD (i + 1) 0).toUInt32 <<< 16 |||
    (l.getD (i + 2) 0).toUInt32 <<< 8 ||| (l.getD (i + 3) 0).toUInt32

/-- `ip4_hdrlen`. -/
def ip4Hdrlen (l : List UInt8) : Nat := ((l.getD 0 0) &&& 0xf).toNat <<< 2

/-- The type of the ICMP message behind the header, when `mbuf_header_pointer` finds its
eight bytes in the linear mbuf. -/
def icmpInnerType (l : List UInt8) : Option UInt8 :=
  if ip4Hdrlen l + 8 ≤ l.length then some (l.getD (ip4Hdrlen l) 0) else none

/-- `!oich || oich->type > NR_ICMP_TYPES || icmp_ctrls[oich->type].is_error`: the ICMP
message the datagram carries is missing, out of range or marked as an error. -/
def icmpOrigIsError (l : List UInt8) : Bool :=
  match icmpInnerType l with
  | none => true
  | some t => decide (t.toNat > nrIcmpTypes) || icmpIsError t.toNat

/-- The bytes of a `uint32_t` as the host stores it. -/
def hostStore32 : Endian → UInt32 → List UInt8
  | .little, v => [v.toUInt8, (v >>> 8).toUInt8, (v >>> 16).toUInt8, (v >>> 24).toUInt8]
  | .big, v => [(v >>> 24).toUInt8, (v >>> 16).toUInt8, (v >>> 8).toUInt8, v.toUInt8]

/-- The message before its checksum: `type`, `code`, a zero checksum, `un.gateway`, and
the quoted bytes. -/
def icmpMsg (e : Endian) (type code : UInt8) (info : UInt32) (quote : List UInt8) : List UInt8 :=
  [type, code, 0, 0] ++ hostStore32 e info ++ quote

/-- The checksum `icmp_send` writes: the raw sum of the message, complemented unless it is
`0xffff`. -/
def icmpCksum (e : Endian) (msg : List UInt8) : UInt16 :=
  let csum := rteRawCksum e msg
  if csum = 0xffff then csum else ~~~csum

/-- The checksum stored into bytes 2 and 3 of the message. -/
def setCksum (e : Endian) (msg : List UInt8) (c : UInt16) : List UInt8 :=
  (msg.set 2 (hostStore16 e c).1).set 3 (hostStore16 e c).2

/-- The `room` of `icmp_send`: what fits in 576 bytes and the MTU after the IP and ICMP
headers, cut to the datagram's `data_len`. -/
def icmpRoom (dataLen mtu : Nat) : Int :=
  let room : Int := (if mtu > 576 then 576 else mtu) - 20 - 8
  if (dataLen : Int) > room then room else dataLen

/-- What `icmp_send` hands to `ipv4_xmit`: the flow's addresses and TOS, and the message. -/
structure IcmpOut where
  daddr : UInt32
  saddr : UInt32
  tos : UInt8
  msg : List UInt8
  deriving DecidableEq, Repr

/-- `icmp_send` of the error `type`, `code`, `info` about the datagram `data` (the mbuf's
linear data) that arrived as `etype`, with the route's `RTF_LOCALIN` and the MTU of the
output interface if there is one; `none` where it returns without sending. The mbuf it
allocates is taken to have the room it asks for. -/
def icmpSend (e : Endian) (data : List UInt8) (etype : EthType) (localIn : Bool)
    (oifMtu : Option Nat) (type code : UInt8) (info : UInt32) : Option IcmpOut :=
  let dst := be32 data 16
  if etype ≠ .host then none
  else if Tunnel.inMulticast dst ∨ dst = inaddrBroadcast then none
  else if hostLoad16 e (data.getD 6 0) (data.getD 7 0) &&& htonsOn e rteIpv4HdrOffsetMask ≠ 0 then
    none
  else if type.toNat > nrIcmpTypes then none
  -- no error about an ICMP error
  else if icmpIsError type.toNat ∧ data.getD 9 0 = ipprotoIcmp ∧ icmpOrigIsError data then none
  else match oifMtu with
    | none => none
    | some mtu =>
      let room := icmpRoom data.length mtu
      -- rte_pktmbuf_append takes a uint16_t: a negative room asks for too much
      if room < 0 then none
      else
        let msg := icmpMsg e type code info (data.take room.toNat)
        some ⟨be32 data 12, if localIn then dst else 0,
          if icmpIsError type.toNat then (data.getD 1 0 &&& iptosTosMask) ||| iptosPrecInternetcontrol
          else data.getD 1 0,
          setCksum e msg (icmpCksum e msg)⟩

/-! ## The message -/

theorem icmpRoom_toNat {dataLen mtu : Nat} (fits : 0 ≤ icmpRoom dataLen mtu) :
    (icmpRoom dataLen mtu).toNat = min dataLen (min mtu 576 - 28) := by
  unfold icmpRoom at fits ⊢
  dsimp only at fits ⊢
  split_ifs at fits ⊢ <;> omega

theorem length_hostStore32 (e : Endian) (v : UInt32) : (hostStore32 e v).length = 4 := by
  cases e <;> rfl

/-- The checksum lands in bytes 2 and 3, in front of the rest of the message. -/
theorem setCksum_icmpMsg (e : Endian) (type code : UInt8) (info : UInt32) (quote : List UInt8)
    (c : UInt16) :
    setCksum e (icmpMsg e type code info quote) c =
      type :: code :: (hostStore16 e c).1 :: (hostStore16 e c).2 :: (hostStore32 e info ++ quote) :=
  rfl

/-- Everything `icmp_send` does when it sends: the output interface's MTU leaves room for
the headers, and the message, to the datagram's source, quotes its first bytes. -/
theorem icmpSend_eq_some {e : Endian} {data : List UInt8} {etype : EthType} {localIn : Bool}
    {oifMtu : Option Nat} {type code : UInt8} {info : UInt32} {out : IcmpOut}
    (sent : icmpSend e data etype localIn oifMtu type code info = some out) :
    ∃ mtu, oifMtu = some mtu ∧ 28 ≤ min mtu 576 ∧ out.daddr = be32 data 12 ∧
      out.msg = setCksum e (icmpMsg e type code info (data.take (min data.length (min mtu 576 - 28))))
        (icmpCksum e (icmpMsg e type code info (data.take (min data.length (min mtu 576 - 28))))) := by
  unfold icmpSend at sent
  dsimp only at sent
  split at sent
  · cases sent
  split at sent
  · cases sent
  split at sent
  · cases sent
  split at sent
  · cases sent
  split at sent
  · cases sent
  rcases oifMtu with _ | mtu
  · cases sent
  dsimp only at sent
  split at sent
  · cases sent
  rename_i fits
  cases sent
  have room := icmpRoom_toNat (Int.not_lt.mp fits)
  refine ⟨mtu, rfl, ?_, rfl, by rw [room]⟩
  unfold icmpRoom at fits
  dsimp only at fits
  split_ifs at fits <;> omega

theorem icmpSend_daddr {e : Endian} {data : List UInt8} {etype : EthType} {localIn : Bool}
    {oifMtu : Option Nat} {type code : UInt8} {info : UInt32} {out : IcmpOut}
    (sent : icmpSend e data etype localIn oifMtu type code info = some out) :
    out.daddr = be32 data 12 := by
  obtain ⟨_, _, _, daddr, _⟩ := icmpSend_eq_some sent
  exact daddr

/-- The message quotes the datagram from its first byte, as much as fits. -/
theorem icmpSend_quote {e : Endian} {data : List UInt8} {etype : EthType} {localIn : Bool}
    {oifMtu : Option Nat} {type code : UInt8} {info : UInt32} {out : IcmpOut}
    (sent : icmpSend e data etype localIn oifMtu type code info = some out) :
    ∃ mtu, oifMtu = some mtu ∧ out.msg.drop 8 = data.take (min data.length (min mtu 576 - 28)) := by
  obtain ⟨mtu, oif, _, _, msg⟩ := icmpSend_eq_some sent
  refine ⟨mtu, oif, ?_⟩
  rw [msg, setCksum_icmpMsg]
  exact List.drop_left' (length_hostStore32 e info)

/-- Writing `icmp_send`'s checksum into the two zero bytes of a message makes it check out,
as long as its sum has room to grow in the `uint32_t`. -/
theorem rteRawCksum_setCksum (e : Endian) {msg : List UInt8} (zero2 : msg.getD 2 0 = 0)
    (zero3 : msg.getD 3 0 = 0) (long : 4 ≤ msg.length) (bound : rawSum e msg + 0xffff < 2 ^ 32) :
    rteRawCksum e (setCksum e msg (icmpCksum e msg)) = 0xffff := by
  have stored := hostStore16_toNat e (icmpCksum e msg)
  have first := rawSum_set e msg 2 (hostStore16 e (icmpCksum e msg)).1 (by omega)
  have second := rawSum_set e (msg.set 2 (hostStore16 e (icmpCksum e msg)).1) 3
    (hostStore16 e (icmpCksum e msg)).2 (by rw [List.length_set]; omega)
  have kept : (msg.set 2 (hostStore16 e (icmpCksum e msg)).1).getD 3 0 = 0 := by
    rw [List.getD_eq_getElem?_getD, List.getElem?_set_ne (by omega), ← List.getD_eq_getElem?_getD,
      zero3]
  rw [zero2, UInt8.toNat_zero] at first
  rw [kept, UInt8.toNat_zero] at second
  -- the two bytes add the checksum's value to the sum
  have sum : rawSum e (setCksum e msg (icmpCksum e msg)) = rawSum e msg + (icmpCksum e msg).toNat := by
    rw [setCksum]
    cases e <;> simp only [byteWeight] at first second stored <;> simp at first second stored <;> omega
  have sumBound : rawSum e msg < 2 ^ 32 := by omega
  have residue := fold_mod (rawSum e msg)
  have folded := fold_le sumBound
  have cksum : (icmpCksum e msg).toNat =
      if fold (rawSum e msg) = 0xffff then 0xffff else 0xffff - fold (rawSum e msg) := by
    unfold icmpCksum
    dsimp only
    rw [← rteRawCksum_toNat e sumBound]
    split
    · rename_i full
      rw [if_pos (by rw [full]; rfl), full]
      rfl
    · rename_i notFull
      have size : UInt16.size = 65536 := rfl
      rw [if_neg (fun h => notFull (UInt16.toNat_inj.mp (by rw [h]; rfl))), UInt16.toNat_not]
      omega
  have total := (icmpCksum e msg).toNat_lt
  rw [rteRawCksum_eq_ffff_iff_of_lt e (by omega), sum, cksum]
  split <;> omega

/-- Every message `icmp_send` sends checks out. -/
theorem icmpSend_cksum_valid {e : Endian} {data : List UInt8} {etype : EthType} {localIn : Bool}
    {oifMtu : Option Nat} {type code : UInt8} {info : UInt32} {out : IcmpOut}
    (sent : icmpSend e data etype localIn oifMtu type code info = some out) :
    rteRawCksum e out.msg = 0xffff := by
  obtain ⟨mtu, _, _, _, msg⟩ := icmpSend_eq_some sent
  rw [msg]
  have length : (icmpMsg e type code info (data.take (min data.length (min mtu 576 - 28)))).length ≤ 556 := by
    rw [icmpMsg, List.length_append, List.length_append, length_hostStore32, List.length_take]
    simp only [List.length_cons, List.length_nil]
    omega
  have := rawSum_le e (icmpMsg e type code info (data.take (min data.length (min mtu 576 - 28))))
  exact rteRawCksum_setCksum e rfl rfl (by rw [icmpMsg]; simp) (by omega)

/-! ## Errors about queries -/

/-- The ICMP types that are queries and replies rather than errors (RFC 792, 950, 1256):
echo reply and request, router advertisement and solicitation, timestamp, information and
address mask requests and replies. -/
def icmpQuery (t : Nat) : Bool := t = 0 ∨ t = 8 ∨ t = 9 ∨ t = 10 ∨ (13 ≤ t ∧ t ≤ 18)

/-- The table marks every query as an error, the echo request aside. -/
theorem icmpIsError_of_query {t : Nat} (query : icmpQuery t) (notEcho : t ≠ icmpEcho) :
    icmpIsError t := by
  simp only [icmpQuery, decide_eq_true_eq] at query
  -- the decided propositions go first: their instances still name the constants
  simp only [icmpIsError, Bool.and_eq_true, decide_eq_true_eq, bne_iff_ne, ne_eq]
  simp only [nrIcmpTypes, icmpEcho] at notEcho ⊢
  omega

/-- `icmp_send` never reports an error about a datagram that carries an ICMP query other
than the echo request, even one sent to a unicast address as the first fragment: the
table marks it an error. -/
theorem icmp_send_drops_errors_about_queries (e : Endian) (data : List UInt8) (localIn : Bool)
    (oifMtu : Option Nat) (type code : UInt8) (info : UInt32) (t : UInt8)
    (unicast : ¬ (Tunnel.inMulticast (be32 data 16) ∨ be32 data 16 = inaddrBroadcast))
    (firstFragment : hostLoad16 e (data.getD 6 0) (data.getD 7 0) &&& htonsOn e rteIpv4HdrOffsetMask = 0)
    (error : type.toNat ≤ nrIcmpTypes ∧ icmpIsError type.toNat)
    (carriesIcmp : data.getD 9 0 = ipprotoIcmp) (inner : icmpInnerType data = some t)
    (query : icmpQuery t.toNat) (notEcho : t.toNat ≠ icmpEcho) :
    icmpSend e data .host localIn oifMtu type code info = none := by
  have marked : icmpOrigIsError data = true := by
    rw [icmpOrigIsError, inner]
    exact Bool.or_eq_true_iff.mpr (Or.inr (icmpIsError_of_query query notEcho))
  unfold icmpSend
  dsimp only
  rw [if_neg (fun other => other rfl), if_neg unicast, if_neg (not_not.mpr firstFragment),
    if_neg (Nat.not_lt.mpr error.1), if_pos ⟨error.2, carriesIcmp, marked⟩]

/-- An echo reply from 10.0.0.2 to 10.0.0.1, whole and unfragmented. -/
def echoReply : List UInt8 :=
  [0x45, 0, 0, 28, 0, 1, 0, 0, 64, 1, 0, 0, 10, 0, 0, 2, 10, 0, 0, 1,
    0, 0, 0xff, 0xfe, 0, 1, 0, 0]

theorem icmp_send_drops_errors_about_queries_echo_reply :
    ¬ (Tunnel.inMulticast (be32 echoReply 16) ∨ be32 echoReply 16 = inaddrBroadcast) ∧
    hostLoad16 .little (echoReply.getD 6 0) (echoReply.getD 7 0) &&&
      htonsOn .little rteIpv4HdrOffsetMask = 0 ∧
    ((3 : UInt8).toNat ≤ nrIcmpTypes ∧ icmpIsError (3 : UInt8).toNat) ∧
    echoReply.getD 9 0 = ipprotoIcmp ∧ icmpInnerType echoReply = some 0 ∧
    icmpQuery (0 : UInt8).toNat ∧ (0 : UInt8).toNat ≠ icmpEcho ∧
    icmpSend .little echoReply .host false (some 1500) 3 1 0 = none :=
  ⟨by decide, by decide, by decide, by decide, by decide, by decide, by decide,
    icmp_send_drops_errors_about_queries .little echoReply false (some 1500) 3 1 0 0
      (by decide) (by decide) (by decide) (by decide) (by decide) (by decide) (by decide)⟩

/-! ## The call in gre_rcv -/

/-- What `gre_rcv` sends when `ip_tunnel_lookup` finds no tunnel for a GRE datagram it
parsed: a port unreachable by `icmp_send`, on the mbuf as `ipv4_local_in_fin` left it, the
outer header stripped and the route dropped. -/
def greRcvIcmp (e : Endian) (datagram : List UInt8) (etype : EthType) (oifMtu : Option Nat) :
    Option IcmpOut :=
  icmpSend e (datagram.drop (ip4Hdrlen datagram)) etype false oifMtu 3 3 0

/-- The error goes to the address in bytes 12 to 15 behind the outer header, in the GRE
header or the packet it carries, not to the datagram's source. -/
theorem greRcvIcmp_daddr {e : Endian} {datagram : List UInt8} {etype : EthType}
    {oifMtu : Option Nat} {out : IcmpOut} (sent : greRcvIcmp e datagram etype oifMtu = some out) :
    out.daddr = be32 (datagram.drop (ip4Hdrlen datagram)) 12 :=
  icmpSend_daddr sent

/-- A keyed GRE packet from 10.0.0.1 carrying an IPv4 packet whose identification and
fragment field read 18.52.64.0: that is where the error goes. -/
example :
    (greRcvIcmp .little
      ([0x45, 0, 0, 48, 0, 0, 0, 0, 64, 47, 0, 0, 10, 0, 0, 1, 10, 0, 0, 2] ++
        [0x20, 0, 0x08, 0, 0, 0, 0, 0] ++
        [0x45, 0, 0, 20, 0x12, 0x34, 0x40, 0, 64, 6, 0, 0, 192, 168, 0, 1, 192, 168, 0, 2])
      .host (some 1500)).map (·.daddr) = some 0x12344000 := by
  decide

end Dpvs.Ipv4
