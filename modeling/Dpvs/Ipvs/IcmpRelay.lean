import Dpvs.Ipvs.Conn
import Dpvs.Ipv4.Icmp

/-!
# ICMP errors about load-balanced flows: __dp_vs_in_icmp4

`__dp_vs_in_icmp4` of `src/ipvs/ip_vs_core.c` takes an ICMP destination unreachable,
source quench or time exceeded that quotes a packet of a connection, looks the
connection up by the quoted tuple (a reverse lookup: the quoted packet went the other
way), and hands the message to `xmit_inbound_icmp` or `xmit_outbound_icmp`, which
translate its outer and inner addresses, the inner ports and the TCP sequence number to
the connection's other side (`__dp_vs_xmit_icmp4` of `src/ipvs/ip_vs_xmit.c`) and
recompute the ICMP checksum (`dpVsXmitIcmp4_cksum_valid`). A message it relays had a
valid checksum and quotes the connection's tuple (`dpVsInIcmp4_relay`).

The lookup is the protocol's own `conn_lookup`, and each first reads a whole transport
header behind the quoted IP header: twenty bytes for TCP. RFC 792 only has a router
quote the first eight, so an error quoting a TCP segment that way is never matched and
passes unchanged, whatever the table holds (`in_icmp4_misses_short_tcp_quote`). The
relay's own DF test reads `fragment_offset & RTE_IPV4_HDR_DF_FLAG` without `htons`,
which on a little-endian host is a bit of the fragment offset
(`xmitIcmp4DfTest_little`).

The mbuf is modelled by its bytes from the outer IP header on; `ip4_defrag`, the
black and white lists, the redirect table, `icmp_conn_lookup`, the route lookup and
DPDK's `rte_ipv4_cksum` are parameters.
-/

namespace Dpvs.IcmpRelay

open Dpvs.Conn (Dir DpVsConn Worker HashEnv Entry dpVsConnGet dpvsFwdModeNat dpvsFwdModeFnat
  dpvsFwdModeSnat)
open Dpvs.Ipv4 (Endian hostLoad16 hostStore16 htonsOn rteRawCksum rteIpv4HdrDfFlag
  rteIpv4HdrOffsetMask ip4Hdrlen hostStore32 icmpCksum setCksum)

/-! ## Constants -/

def icmpDestUnreach : UInt8 := 3
def icmpSourceQuench : UInt8 := 4
def icmpTimeExceeded : UInt8 := 11

def ipprotoUdp : UInt8 := 17
def ipprotoSctp : UInt8 := 132

/-- `RTE_IPV4_HDR_MF_FLAG`. -/
def rteIpv4HdrMfFlag : UInt16 := 0x2000

/-! ## Bytes -/

/-- The `uint32_t` a host loads from the four bytes at `i`. -/
def hostLoad32 (e : Endian) (l : List UInt8) (i : Nat) : UInt32 :=
  match e with
  | .little =>
    (l.getD i 0).toUInt32 ||| (l.getD (i + 1) 0).toUInt32 <<< 8 |||
      (l.getD (i + 2) 0).toUInt32 <<< 16 ||| (l.getD (i + 3) 0).toUInt32 <<< 24
  | .big =>
    (l.getD i 0).toUInt32 <<< 24 ||| (l.getD (i + 1) 0).toUInt32 <<< 16 |||
      (l.getD (i + 2) 0).toUInt32 <<< 8 ||| (l.getD (i + 3) 0).toUInt32

/-- The `uint16_t` a host loads from the two bytes at `i`. -/
def load16 (e : Endian) (l : List UInt8) (i : Nat) : UInt16 :=
  hostLoad16 e (l.getD i 0) (l.getD (i + 1) 0)

/-- Bytes written into the buffer from `i` on, as a field store does. -/
def storeAt (l : List UInt8) (i : Nat) : List UInt8 → List UInt8
  | [] => l
  | b :: bs => storeAt (l.set i b) (i + 1) bs

/-- A `uint16_t` stored at `i`. -/
def store16 (e : Endian) (l : List UInt8) (i : Nat) (v : UInt16) : List UInt8 :=
  storeAt l i [(hostStore16 e v).1, (hostStore16 e v).2]

/-- A `uint32_t` stored at `i`. -/
def store32 (e : Endian) (l : List UInt8) (i : Nat) (v : UInt32) : List UInt8 :=
  storeAt l i (hostStore32 e v)

/-! ## The lookup -/

/-- `ip4_is_frag`: the MF flag or a fragment offset. -/
def ip4IsFrag (e : Endian) (hdr : List UInt8) : Bool :=
  load16 e hdr 6 &&& htonsOn e (rteIpv4HdrMfFlag ||| rteIpv4HdrOffsetMask) != 0

/-- The protocols registered in `dp_vs_protocols` that an IPv4 header can name: ICMP and
ICMPv6 both look up with `icmp_conn_lookup`. -/
inductive VsProto where
  | tcp
  | udp
  | sctp
  | icmp
  deriving DecidableEq, Repr

/-- `dp_vs_proto_lookup`. -/
def dpVsProtoLookup (proto : UInt8) : Option VsProto :=
  if proto = Conn.ipprotoTcp then some .tcp
  else if proto = ipprotoUdp then some .udp
  else if proto = ipprotoSctp then some .sctp
  else if proto = Conn.ipprotoIcmp ∨ proto = Conn.ipprotoIcmpv6 then some .icmp
  else none

/-- `struct dp_vs_iphdr`, as `dp_vs_fill_iphdr` fills it from an IPv4 header. -/
structure DpVsIphdr where
  af : Int
  len : Nat
  proto : UInt8
  saddr : InetAddr
  daddr : InetAddr
  deriving DecidableEq, Repr

/-- `dp_vs_fill_iphdr(AF_INET, ...)`. -/
def dpVsFillIphdr4 (e : Endian) (hdr : List UInt8) : DpVsIphdr :=
  ⟨afInet, ip4Hdrlen hdr, hdr.getD 9 0, .ofV4 (hostLoad32 e hdr 12), .ofV4 (hostLoad32 e hdr 16)⟩

/-- What a `conn_lookup` hands back: the connection's table entry (its direction is
`*direct`), `*drop`, and the lcore of a redirect it found, which overrides `*peer_cid`. -/
structure Lookup where
  conn : Option Entry
  drop : Bool
  peerCid : Option Nat
  deriving DecidableEq, Repr

/-- The lookup of a packet whose transport header is missing: nothing found, nothing
changed. -/
def Lookup.miss : Lookup := ⟨none, false, none⟩

/-- What the lookups consult besides the connection table: `dp_vs_blklst_filtered` or
`dp_vs_whtlst_filtered` on the protocol, destination address and port and source
address; `dp_vs_redirect_get`, the lcore owning a tuple's redirect; and
`icmp_conn_lookup`. -/
structure LookupEnv where
  hash : HashEnv
  filtered : UInt8 → InetAddr → UInt16 → InetAddr → Bool
  redirectGet : UInt8 → InetAddr → InetAddr → UInt16 → UInt16 → Option Nat
  icmpConnLookup : Worker → DpVsIphdr → List UInt8 → Option Lookup

section Lookups

variable (e : Endian) (env : LookupEnv) (w : Worker) (iph : DpVsIphdr) (l : List UInt8)
  (reverse : Bool)

/-- What `tcp_conn_lookup`, `udp_conn_lookup` and `sctp_conn_lookup` do once they hold
the transport header at `iph->len`: the lists, then `dp_vs_conn_get` on its two ports,
and on a miss the redirect table. `none` where the table walk reads a freed connection. -/
def portLookup : Option Lookup :=
  let sport := load16 e l iph.len
  let dport := load16 e l (iph.len + 2)
  if env.filtered iph.proto iph.daddr dport iph.saddr then some ⟨none, true, none⟩
  else
    match dpVsConnGet env.hash w iph.af iph.proto iph.saddr iph.daddr sport dport reverse with
    | none => none
    | some (some entry, _) => some ⟨some entry, false, none⟩
    | some (none, _) => some ⟨none, false, env.redirectGet iph.proto iph.saddr iph.daddr sport dport⟩

/-- A lookup that first has `mbuf_header_pointer` read `size` bytes at `iph->len`. -/
def headerConnLookup (size : Nat) : Option Lookup :=
  if l.length < iph.len + size then some .miss
  else portLookup e env w iph l reverse

/-- `tcp_conn_lookup`: `sizeof(struct tcphdr)`. -/
def tcpConnLookup : Option Lookup := headerConnLookup e env w iph l reverse 20

/-- `udp_conn_lookup`: `sizeof(struct rte_udp_hdr)`. -/
def udpConnLookup : Option Lookup := headerConnLookup e env w iph l reverse 8

/-- `sctp_conn_lookup` reads the common header, then the first chunk's header. -/
def sctpConnLookup : Option Lookup :=
  if l.length < iph.len + 12 then some .miss
  else if l.length < iph.len + 12 + 4 then some .miss
  else portLookup e env w iph l reverse

/-- `prot->conn_lookup`. -/
def connLookup : VsProto → Option Lookup
  | .tcp => tcpConnLookup e env w iph l reverse
  | .udp => udpConnLookup e env w iph l reverse
  | .sctp => sctpConnLookup e env w iph l reverse
  | .icmp => env.icmpConnLookup w iph l

end Lookups

/-- What `__dp_vs_in_icmp4` does with an ICMP message. -/
inductive InIcmp4Result where
  /-- `INET_ACCEPT`, not related: the message goes on unchanged. -/
  | accept
  /-- `INET_DROP`, with `*related`. -/
  | drop (related : Bool)
  /-- `INET_STOLEN` by `ip4_defrag`. -/
  | defragStolen
  /-- Passed to the lcore owning the quoted tuple's redirect, `dp_vs_redirect_pkt`. -/
  | redirect (cid : Nat)
  /-- Related to the connection of this entry: relayed by `xmit_inbound_icmp` or
  `xmit_outbound_icmp` as the entry's direction says, `*related` set. -/
  | relay (conn : Entry)
  /-- The lookup read a freed connection. -/
  | fault
  deriving DecidableEq, Repr

/-- The ICMP types `__dp_vs_in_icmp4` relates to a connection. -/
def relatedType (type : UInt8) : Bool :=
  type == icmpDestUnreach || type == icmpSourceQuench || type == icmpTimeExceeded

/-- `__dp_vs_in_icmp4` on lcore `cid`, on the datagram `pkt` from its IP header on, with
`ip4_defrag` giving the reassembled datagram or stealing the fragment. The pulls of the
mbuf and `dp_vs_stats_in` are taken to succeed. -/
def dpVsInIcmp4 (e : Endian) (env : LookupEnv) (w : Worker) (cid : Nat)
    (defrag : List UInt8 → Option (List UInt8)) (pkt : List UInt8) : InIcmp4Result :=
  match (if ip4IsFrag e pkt then defrag pkt else some pkt) with
  | none => .defragStolen
  | some pkt =>
    let off := ip4Hdrlen pkt
    if pkt.length < off + 8 then .drop false
    else if !relatedType (pkt.getD off 0) then .accept
    -- the inner IP header, behind the eight bytes of the ICMP header
    else if pkt.length < off + 8 + 20 then .accept
    else
      let inner := pkt.drop (off + 8)
      match dpVsProtoLookup (inner.getD 9 0) with
      | none => .accept
      | some prot =>
        if load16 e inner 6 &&& htonsOn e rteIpv4HdrOffsetMask ≠ 0 then .drop false
        else
          match connLookup e env w (dpVsFillIphdr4 e inner) inner true prot with
          | none => .fault
          | some r =>
            if r.peerCid.getD cid ≠ cid then .redirect (r.peerCid.getD cid)
            else
              match r.conn with
              | none => .accept
              | some entry =>
                if rteRawCksum e (pkt.drop off) ≠ 0xffff then .drop true
                else .relay entry

/-! ## The relay -/

/-- The fields of `struct dp_vs_conn` the relay reads beyond the table's tuples: the
sequence deltas of FNAT (`fnat_seq.delta`) and of the SYN proxy (`syn_proxy_seq.delta`). -/
structure SeqDeltas where
  fnat : UInt32
  synProxy : UInt32
  deriving DecidableEq, Repr

/-- `ip4_send_csum` on the IPv4 header at `pos`: the checksum field cleared, then DPDK's
`rte_ipv4_cksum` of the header stored. -/
def ip4SendCsum (e : Endian) (ipv4Cksum : List UInt8 → UInt16) (l : List UInt8) (pos : Nat) :
    List UInt8 :=
  let cleared := store16 e l (pos + 10) 0
  store16 e cleared (pos + 10) (ipv4Cksum (cleared.drop pos))

/-- The outer and inner L3 translation of `__dp_vs_xmit_icmp4`. The connection's
addresses are its tuples': `caddr -> vaddr` inbound, `daddr -> laddr` outbound. -/
def xmitIcmp4L3 (e : Endian) (ipv4Cksum : List UInt8 → UInt16) (c : DpVsConn) (fullnat : Bool)
    (dir : Dir) (pkt : List UInt8) : List UInt8 :=
  let ci := ip4Hdrlen pkt + 8
  let pkt :=
    if fullnat then
      match dir with
      | .inbound => store32 e (store32 e pkt 12 c.tout.daddr.w0) (ci + 16) c.tout.daddr.w0
      | .outbound => store32 e (store32 e pkt 16 c.tin.saddr.w0) (ci + 12) c.tin.saddr.w0
    else pkt
  match dir with
  | .inbound =>
    let pkt := ip4SendCsum e ipv4Cksum (store32 e pkt 16 c.tout.saddr.w0) 0
    ip4SendCsum e ipv4Cksum (store32 e pkt (ci + 12) c.tout.saddr.w0) ci
  | .outbound =>
    let pkt := ip4SendCsum e ipv4Cksum (store32 e pkt 12 c.tin.daddr.w0) 0
    ip4SendCsum e ipv4Cksum (store32 e pkt (ci + 16) c.tin.daddr.w0) ci

/-- `*seq = htonl(ntohl(*seq) - delta)`. -/
def seqSub (l : List UInt8) (i : Nat) (delta : UInt32) : List UInt8 :=
  storeAt l i (hostStore32 .big (Ipv4.be32 l i - delta))

/-- The inner L4 translation of `__dp_vs_xmit_icmp4`, for TCP and UDP: the ports at the
start of the quoted transport header, and the TCP sequence number behind them. -/
def xmitIcmp4L4 (e : Endian) (c : DpVsConn) (fullnat : Bool) (deltas : SeqDeltas) (dir : Dir)
    (pkt : List UInt8) : List UInt8 :=
  let ci := ip4Hdrlen pkt + 8
  let proto := pkt.getD (ci + 9) 0
  if proto = Conn.ipprotoTcp ∨ proto = ipprotoUdp then
    let ports := ci + ip4Hdrlen (pkt.drop ci)
    let pkt :=
      if fullnat then
        match dir with
        | .inbound => store16 e pkt (ports + 2) c.tout.dport
        | .outbound =>
          let pkt := store16 e pkt ports c.tin.sport
          if proto = Conn.ipprotoTcp then seqSub pkt (ports + 4) deltas.fnat else pkt
      else pkt
    match dir with
    | .inbound =>
      let pkt := store16 e pkt ports c.tout.sport
      if proto = Conn.ipprotoTcp then seqSub pkt (ports + 4) deltas.synProxy else pkt
    | .outbound => store16 e pkt (ports + 2) c.tin.dport
  else pkt

/-- The ICMP checksum of `__dp_vs_xmit_icmp4`: cleared, taken over the `pkt_len -
ip4_hdrlen` bytes of the message, stored. -/
def icmpRecsum (e : Endian) (pkt : List UInt8) : List UInt8 :=
  let hl := ip4Hdrlen pkt
  let cleared := store16 e pkt (hl + 2) 0
  store16 e cleared (hl + 2) (icmpCksum e (cleared.drop hl))

/-- `__dp_vs_xmit_icmp4`. -/
def dpVsXmitIcmp4 (e : Endian) (ipv4Cksum : List UInt8 → UInt16) (c : DpVsConn)
    (fwdmode : UInt32) (deltas : SeqDeltas) (dir : Dir) (pkt : List UInt8) : List UInt8 :=
  let fullnat := fwdmode = dpvsFwdModeFnat
  icmpRecsum e (xmitIcmp4L4 e c fullnat deltas dir (xmitIcmp4L3 e ipv4Cksum c fullnat dir pkt))

/-- What the transmit paths of a relayed ICMP message do. -/
inductive XmitResult where
  /-- DR and tunnel connections: `conn->packet_xmit` or `conn->packet_out_xmit`. -/
  | connXmit
  /-- `EDPVS_NOROUTE`. -/
  | noRoute
  /-- `icmp_send(ICMP_DEST_UNREACH, ICMP_UNREACH_NEEDFRAG, htonl(mtu))`, `EDPVS_FRAG`. -/
  | fragNeeded (mtu : UInt32)
  /-- Translated and handed to `INET_HOOK_LOCAL_OUT`. -/
  | out (pkt : List UInt8)
  deriving DecidableEq, Repr

/-- The body `__xmit_inbound_icmp4` and `__xmit_outbound_icmp4` share: the route to the
connection's other side (`route4_output` of its destination, source and the TOS, giving
the route's mtu), the DF test and the translation. -/
def xmitIcmp4 (e : Endian) (ipv4Cksum : List UInt8 → UInt16)
    (route : InetAddr → InetAddr → UInt8 → Option UInt32) (c : DpVsConn) (fwdmode : UInt32)
    (deltas : SeqDeltas) (dir : Dir) (pkt : List UInt8) : XmitResult :=
  if fwdmode ≠ dpvsFwdModeFnat ∧ fwdmode ≠ dpvsFwdModeNat ∧ fwdmode ≠ dpvsFwdModeSnat then
    .connXmit
  else
    let flow := match dir with
      | .inbound => (c.tout.saddr, c.tout.daddr)
      | .outbound => (c.tin.saddr, c.tin.daddr)
    match route flow.1 flow.2 (pkt.getD 1 0) with
    | none => .noRoute
    | some mtu =>
      -- the flag is tested on the raw field, without htons
      if pkt.length > mtu.toNat ∧ load16 e pkt 6 &&& rteIpv4HdrDfFlag ≠ 0 then .fragNeeded mtu
      else .out (dpVsXmitIcmp4 e ipv4Cksum c fwdmode deltas dir pkt)

/-- `__xmit_inbound_icmp4`. -/
def xmitInboundIcmp4 (e : Endian) (ipv4Cksum : List UInt8 → UInt16)
    (route : InetAddr → InetAddr → UInt8 → Option UInt32) (c : DpVsConn) (fwdmode : UInt32)
    (deltas : SeqDeltas) (pkt : List UInt8) : XmitResult :=
  xmitIcmp4 e ipv4Cksum route c fwdmode deltas .inbound pkt

/-- `__xmit_outbound_icmp4`. -/
def xmitOutboundIcmp4 (e : Endian) (ipv4Cksum : List UInt8 → UInt16)
    (route : InetAddr → InetAddr → UInt8 → Option UInt32) (c : DpVsConn) (fwdmode : UInt32)
    (deltas : SeqDeltas) (pkt : List UInt8) : XmitResult :=
  xmitIcmp4 e ipv4Cksum route c fwdmode deltas .outbound pkt

/-! ## The lookups -/

section Lookups

variable {e : Endian} {env : LookupEnv} {w : Worker} {iph : DpVsIphdr} {l : List UInt8}
  {reverse : Bool}

/-- A TCP lookup that cannot read twenty bytes of header finds nothing and changes nothing. -/
theorem tcpConnLookup_short (short : l.length < iph.len + 20) :
    tcpConnLookup e env w iph l reverse = some .miss := by
  rw [tcpConnLookup, headerConnLookup, if_pos short]

/-- A port lookup only finds a connection whose tuple, read the way the lookup reads it,
is the quoted one. -/
theorem portLookup_conn {r : Lookup} {entry : Entry}
    (found : portLookup e env w iph l reverse = some r) (conn : r.conn = some entry) :
    ∃ w', dpVsConnGet env.hash w iph.af iph.proto iph.saddr iph.daddr (load16 e l iph.len)
      (load16 e l (iph.len + 2)) reverse = some (some entry, w') := by
  unfold portLookup at found
  dsimp only at found
  split at found
  · cases found
    cases conn
  · split at found
    · cases found
    · rename_i w' get
      cases found
      cases conn
      exact ⟨w', get⟩
    · cases found
      cases conn

theorem headerConnLookup_conn {size : Nat} {r : Lookup} {entry : Entry}
    (found : headerConnLookup e env w iph l reverse size = some r) (conn : r.conn = some entry) :
    iph.len + size ≤ l.length ∧ portLookup e env w iph l reverse = some r := by
  unfold headerConnLookup at found
  split at found
  · cases found
    cases conn
  · rename_i long
    exact ⟨Nat.le_of_not_lt long, found⟩

end Lookups

/-- A message `__dp_vs_in_icmp4` relays is an error of a type it relates, with a valid
checksum, quoting an IP header whose protocol's lookup found the connection. -/
theorem dpVsInIcmp4_relay {e : Endian} {env : LookupEnv} {w : Worker} {cid : Nat}
    {defrag : List UInt8 → Option (List UInt8)} {pkt : List UInt8} {entry : Entry}
    (relayed : dpVsInIcmp4 e env w cid defrag pkt = .relay entry) :
    ∃ dgram prot r, (if ip4IsFrag e pkt then defrag pkt else some pkt) = some dgram ∧
      relatedType (dgram.getD (ip4Hdrlen dgram) 0) = true ∧
      dpVsProtoLookup ((dgram.drop (ip4Hdrlen dgram + 8)).getD 9 0) = some prot ∧
      connLookup e env w (dpVsFillIphdr4 e (dgram.drop (ip4Hdrlen dgram + 8)))
        (dgram.drop (ip4Hdrlen dgram + 8)) true prot = some r ∧ r.conn = some entry ∧
      rteRawCksum e (dgram.drop (ip4Hdrlen dgram)) = 0xffff := by
  unfold dpVsInIcmp4 at relayed
  split at relayed
  · cases relayed
  rename_i dgram reassembled
  dsimp only at relayed
  split at relayed
  · cases relayed
  split at relayed
  · cases relayed
  rename_i related
  split at relayed
  · cases relayed
  split at relayed
  · cases relayed
  rename_i prot proto
  split at relayed
  · cases relayed
  split at relayed
  · cases relayed
  rename_i r found
  split at relayed
  · cases relayed
  split at relayed
  · cases relayed
  rename_i conn
  split at relayed
  · cases relayed
  rename_i valid
  cases relayed
  exact ⟨dgram, prot, r, reassembled, by simpa using related, proto, found, conn,
    Decidable.not_not.mp valid⟩

/-- A relayed message about a TCP segment quotes twenty bytes of its header, and the
connection's tuple, reversed, is the quoted one. -/
theorem dpVsInIcmp4_relay_tcp {e : Endian} {env : LookupEnv} {w : Worker} {cid : Nat}
    {defrag : List UInt8 → Option (List UInt8)} {pkt : List UInt8} {entry : Entry}
    (relayed : dpVsInIcmp4 e env w cid defrag pkt = .relay entry)
    (whole : ip4IsFrag e pkt = false)
    (tcp : (pkt.drop (ip4Hdrlen pkt + 8)).getD 9 0 = Conn.ipprotoTcp) :
    let inner := pkt.drop (ip4Hdrlen pkt + 8)
    let iph := dpVsFillIphdr4 e inner
    iph.len + 20 ≤ inner.length ∧
      ∃ w', dpVsConnGet env.hash w iph.af iph.proto iph.saddr iph.daddr (load16 e inner iph.len)
        (load16 e inner (iph.len + 2)) true = some (some entry, w') := by
  obtain ⟨dgram, prot, r, reassembled, _, proto, found, conn, _⟩ := dpVsInIcmp4_relay relayed
  rw [whole, if_neg Bool.false_ne_true] at reassembled
  cases reassembled
  rw [tcp] at proto
  cases proto
  obtain ⟨long, port⟩ := headerConnLookup_conn found conn
  exact ⟨long, portLookup_conn port conn⟩

/-! ## Errors quoting eight bytes of a TCP header -/

/-- An ICMP message quoting a TCP segment with fewer than twenty bytes of its header,
as RFC 792 allows a router to, is accepted unrelated and unchanged, whatever connections
the table holds, in either direction. -/
theorem in_icmp4_misses_short_tcp_quote (e : Endian) (env : LookupEnv) (w : Worker)
    (cid : Nat) (defrag : List UInt8 → Option (List UInt8)) (pkt : List UInt8)
    (whole : ip4IsFrag e pkt = false)
    (quotesHeader : ip4Hdrlen pkt + 8 + 20 ≤ pkt.length)
    (tcp : (pkt.drop (ip4Hdrlen pkt + 8)).getD 9 0 = Conn.ipprotoTcp)
    (firstFragment : load16 e (pkt.drop (ip4Hdrlen pkt + 8)) 6 &&& htonsOn e rteIpv4HdrOffsetMask = 0)
    (shortQuote : pkt.length < ip4Hdrlen pkt + 8 + ip4Hdrlen (pkt.drop (ip4Hdrlen pkt + 8)) + 20) :
    dpVsInIcmp4 e env w cid defrag pkt = .accept := by
  have innerShort : (pkt.drop (ip4Hdrlen pkt + 8)).length <
      (dpVsFillIphdr4 e (pkt.drop (ip4Hdrlen pkt + 8))).len + 20 := by
    simp only [dpVsFillIphdr4, List.length_drop]
    omega
  unfold dpVsInIcmp4
  rw [if_neg (by rw [whole]; decide)]
  dsimp only
  rw [if_neg (by omega)]
  -- a type it does not relate is accepted as well
  by_cases related : relatedType (pkt.getD (ip4Hdrlen pkt) 0)
  · have proto : dpVsProtoLookup ((pkt.drop (ip4Hdrlen pkt + 8)).getD 9 0) = some .tcp := by
      rw [tcp]
      rfl
    rw [if_neg (by rw [related]; decide), if_neg (by omega), proto]
    dsimp only
    rw [if_neg (not_not.mpr firstFragment), connLookup, tcpConnLookup_short innerShort]
    dsimp only [Lookup.miss, Option.getD]
    rw [if_neg (not_not.mpr rfl)]
  · rw [if_pos (by simpa using related)]

/-- A connection from the client 10.0.0.1:5000 to the virtual service 10.0.0.100:80, its
addresses and ports as a little-endian host loads them from the wire. -/
def sampleConn : DpVsConn where
  af := afInet
  proto := Conn.ipprotoTcp
  flags := 0
  state := 1
  refcnt := 1
  dest := 0
  tin := ⟨afInet, Conn.ipprotoTcp, .ofV4 0x0100000a, .ofV4 0x6400000a, 0x8813, 0x5000⟩
  tout := ⟨afInet, Conn.ipprotoTcp, .ofV4 0x0200000a, .ofV4 0x0100000a, 0x5000, 0x8813⟩
  synMbuf := false
  synRetryMax := 0
  ackNum := 0

/-- The destination 10.0.0.2:80 of `sampleConn`, in NAT mode. -/
def sampleDest : Dest where
  id := 0
  af := afInet
  addr := .ofV4 0x0200000a
  port := 80
  flags := 0
  connFlags := 0
  weight := 1
  refcnt := 1
  fwdmode := dpvsFwdModeNat
  actconns := 1
  inactconns := 0
  persistconns := 0
  maxConn := 0
  minConn := 0

/-- A worker holding `sampleConn` under both tuples, with a hash that puts every tuple in
bucket 0. -/
def sampleWorker : Worker where
  conns := [(0, sampleConn)]
  table := fun b => if b = 0 then [(0, .inbound), (0, .outbound)] else []
  ctTable := fun _ => []
  dests := fun _ => sampleDest
  nextHandle := 1

/-- No lists, no redirects, and a hash into bucket 0. -/
def plainEnv : LookupEnv where
  hash := ⟨fun _ _ _ _ => 0, fun _ _ => 0, 0⟩
  filtered := fun _ _ _ _ => false
  redirectGet := fun _ _ _ _ _ => none
  icmpConnLookup := fun _ _ _ => none

/-- A router's port unreachable about the reply 10.0.0.100:80 -> 10.0.0.1:5000 of
`sampleConn`, quoting its IP header and the eight bytes RFC 792 requires. -/
def shortQuoteError : List UInt8 :=
  [0x45, 0, 0, 56, 0, 0, 0, 0, 64, 1, 0, 0, 10, 0, 0, 254, 10, 0, 0, 100] ++
  [3, 3, 0, 0, 0, 0, 0, 0] ++
  [0x45, 0, 0, 40, 0, 0, 0x40, 0, 63, 6, 0, 0, 10, 0, 0, 100, 10, 0, 0, 1] ++
  [0, 80, 0x13, 0x88, 0, 0, 0, 1]

theorem in_icmp4_misses_short_tcp_quote_router :
    (dpVsConnGet plainEnv.hash sampleWorker afInet Conn.ipprotoTcp (.ofV4 0x6400000a)
      (.ofV4 0x0100000a) 0x5000 0x8813 true).map Prod.fst = some (some (0, .inbound)) ∧
    ip4IsFrag .little shortQuoteError = false ∧
    ip4Hdrlen shortQuoteError + 8 + 20 ≤ shortQuoteError.length ∧
    (shortQuoteError.drop (ip4Hdrlen shortQuoteError + 8)).getD 9 0 = Conn.ipprotoTcp ∧
    load16 .little (shortQuoteError.drop (ip4Hdrlen shortQuoteError + 8)) 6 &&&
      htonsOn .little rteIpv4HdrOffsetMask = 0 ∧
    shortQuoteError.length < ip4Hdrlen shortQuoteError + 8 +
      ip4Hdrlen (shortQuoteError.drop (ip4Hdrlen shortQuoteError + 8)) + 20 ∧
    dpVsInIcmp4 .little plainEnv sampleWorker 0 (fun _ => none) shortQuoteError = .accept :=
  ⟨by decide, by decide, by decide, by decide, by decide, by decide,
    in_icmp4_misses_short_tcp_quote .little plainEnv sampleWorker 0 (fun _ => none)
      shortQuoteError (by decide) (by decide) (by decide) (by decide) (by decide)⟩

/-! ## What the translation keeps -/

/-- A rewrite that keeps the buffer's length and its first byte, and with it the
header length the later steps read. -/
def Kept (l l' : List UInt8) : Prop := l'.length = l.length ∧ l'.getD 0 0 = l.getD 0 0

theorem Kept.refl (l : List UInt8) : Kept l l := ⟨rfl, rfl⟩

theorem Kept.trans {l l' l'' : List UInt8} (first : Kept l l') (second : Kept l' l'') :
    Kept l l'' :=
  ⟨second.1.trans first.1, second.2.trans first.2⟩

theorem Kept.ite {l x y : List UInt8} (p : Prop) [Decidable p] (kx : Kept l x) (ky : Kept l y) :
    Kept l (if p then x else y) := by
  split
  · exact kx
  · exact ky

theorem Kept.ip4Hdrlen {l l' : List UInt8} (kept : Kept l l') : ip4Hdrlen l' = ip4Hdrlen l := by
  rw [Ipv4.ip4Hdrlen, Ipv4.ip4Hdrlen, kept.2]

@[simp] theorem length_storeAt : ∀ (l : List UInt8) (i : Nat) (bs : List UInt8),
    (storeAt l i bs).length = l.length
  | _, _, [] => rfl
  | l, i, b :: bs => by rw [storeAt, length_storeAt, List.length_set]

theorem getD_storeAt_of_lt : ∀ (l : List UInt8) {i j : Nat} (bs : List UInt8), j < i →
    (storeAt l i bs).getD j 0 = l.getD j 0
  | _, _, _, [], _ => rfl
  | l, i, j, b :: bs, below => by
    rw [storeAt, getD_storeAt_of_lt _ bs (by omega), List.getD_eq_getElem?_getD,
      List.getElem?_set_ne (by omega), ← List.getD_eq_getElem?_getD]

/-- A store past the first byte keeps it. -/
theorem kept_storeAt (l : List UInt8) {i : Nat} (bs : List UInt8) (pos : 0 < i) :
    Kept l (storeAt l i bs) :=
  ⟨length_storeAt l i bs, getD_storeAt_of_lt l bs pos⟩

theorem kept_store16 (e : Endian) (l : List UInt8) {i : Nat} (v : UInt16) (pos : 0 < i) :
    Kept l (store16 e l i v) :=
  kept_storeAt l _ pos

theorem kept_store32 (e : Endian) (l : List UInt8) {i : Nat} (v : UInt32) (pos : 0 < i) :
    Kept l (store32 e l i v) :=
  kept_storeAt l _ pos

theorem kept_ip4SendCsum (e : Endian) (ipv4Cksum : List UInt8 → UInt16) (l : List UInt8)
    (pos : Nat) : Kept l (ip4SendCsum e ipv4Cksum l pos) :=
  Kept.trans (kept_store16 e l 0 (by omega)) (kept_store16 e _ _ (by omega))

theorem kept_seqSub (l : List UInt8) {i : Nat} (delta : UInt32) (pos : 0 < i) :
    Kept l (seqSub l i delta) :=
  kept_storeAt _ _ pos

theorem kept_xmitIcmp4L3 (e : Endian) (ipv4Cksum : List UInt8 → UInt16) (c : DpVsConn)
    (fullnat : Bool) (dir : Dir) (pkt : List UInt8) :
    Kept pkt (xmitIcmp4L3 e ipv4Cksum c fullnat dir pkt) := by
  -- the two header checksums, after the address stores into either header
  have resum : ∀ (l : List UInt8) (i : Nat) (v : UInt32) (first second : Nat), 0 < first →
      0 < second → Kept l (ip4SendCsum e ipv4Cksum
        (store32 e (ip4SendCsum e ipv4Cksum (store32 e l first v) 0) second v) i) :=
    fun l i v first second below above =>
      Kept.trans (Kept.trans (kept_store32 e l v below) (kept_ip4SendCsum e ipv4Cksum _ 0))
        (Kept.trans (kept_store32 e _ v above) (kept_ip4SendCsum e ipv4Cksum _ i))
  unfold xmitIcmp4L3
  cases fullnat <;> cases dir <;> simp only [Bool.false_eq_true, ↓reduceIte]
  · exact resum _ _ _ _ _ (by omega) (by omega)
  · exact resum _ _ _ _ _ (by omega) (by omega)
  · exact Kept.trans (Kept.trans (kept_store32 e _ _ (by omega)) (kept_store32 e _ _ (by omega)))
      (resum _ _ _ _ _ (by omega) (by omega))
  · exact Kept.trans (Kept.trans (kept_store32 e _ _ (by omega)) (kept_store32 e _ _ (by omega)))
      (resum _ _ _ _ _ (by omega) (by omega))

theorem kept_xmitIcmp4L4 (e : Endian) (c : DpVsConn) (fullnat : Bool) (deltas : SeqDeltas)
    (dir : Dir) (pkt : List UInt8) : Kept pkt (xmitIcmp4L4 e c fullnat deltas dir pkt) := by
  unfold xmitIcmp4L4
  dsimp only
  refine Kept.ite _ ?_ (Kept.refl pkt)
  -- the ports and the sequence number lie past the ICMP header
  cases fullnat <;> cases dir <;> simp only [Bool.false_eq_true, ↓reduceIte]
  · exact Kept.ite _ (Kept.trans (kept_store16 e _ _ (by omega)) (kept_seqSub _ _ (by omega)))
      (kept_store16 e _ _ (by omega))
  · exact kept_store16 e _ _ (by omega)
  · exact Kept.ite _
      (Kept.trans (Kept.trans (kept_store16 e _ _ (by omega)) (kept_store16 e _ _ (by omega)))
        (kept_seqSub _ _ (by omega)))
      (Kept.trans (kept_store16 e _ _ (by omega)) (kept_store16 e _ _ (by omega)))
  · exact Kept.trans (Kept.ite _ (Kept.trans (kept_store16 e _ _ (by omega)) (kept_seqSub _ _ (by omega)))
      (kept_store16 e _ _ (by omega))) (kept_store16 e _ _ (by omega))

/-! ## The ICMP checksum -/

/-- Bytes stored past the point a buffer is cut at land in the rest. -/
theorem drop_storeAt : ∀ (l : List UInt8) {i j : Nat} (bs : List UInt8), j ≤ i →
    (storeAt l i bs).drop j = storeAt (l.drop j) (i - j) bs
  | _, _, _, [], _ => rfl
  | l, i, j, b :: bs, le => by
    rw [storeAt, drop_storeAt _ bs (by omega), List.drop_set, if_neg (by omega), storeAt,
      show i + 1 - j = i - j + 1 by omega]

theorem hostStore16_zero (e : Endian) : hostStore16 e 0 = (0, 0) := by
  cases e <;> rfl

/-- A message whose checksum `__dp_vs_xmit_icmp4` recomputed checks out, whatever the
translation did to it, as long as it is no longer than an IP datagram can carry. -/
theorem icmpRecsum_cksum_valid (e : Endian) {pkt : List UInt8}
    (long : ip4Hdrlen pkt + 4 ≤ pkt.length) (short : pkt.length ≤ ip4Hdrlen pkt + 65535) :
    rteRawCksum e ((icmpRecsum e pkt).drop (ip4Hdrlen pkt)) = 0xffff := by
  have cleared : (store16 e pkt (ip4Hdrlen pkt + 2) 0).drop (ip4Hdrlen pkt) =
      storeAt (pkt.drop (ip4Hdrlen pkt)) 2 [0, 0] := by
    rw [store16, drop_storeAt _ _ (by omega), Nat.add_sub_cancel_left, hostStore16_zero]
  have stored : (icmpRecsum e pkt).drop (ip4Hdrlen pkt) =
      setCksum e (storeAt (pkt.drop (ip4Hdrlen pkt)) 2 [0, 0])
        (icmpCksum e (storeAt (pkt.drop (ip4Hdrlen pkt)) 2 [0, 0])) := by
    unfold icmpRecsum
    dsimp only
    rw [store16, drop_storeAt _ _ (by omega), Nat.add_sub_cancel_left, cleared]
    rfl
  have length : (storeAt (pkt.drop (ip4Hdrlen pkt)) 2 [0, 0]).length = pkt.length - ip4Hdrlen pkt := by
    rw [length_storeAt, List.length_drop]
  have bound := Ipv4.rawSum_le e (storeAt (pkt.drop (ip4Hdrlen pkt)) 2 [0, 0])
  rw [length] at bound
  rw [stored]
  refine Ipv4.rteRawCksum_setCksum e ?_ ?_ (by omega) (by omega)
  · simp only [storeAt, List.getD_eq_getElem?_getD, List.getElem?_set, List.length_set,
      List.length_drop]
    split_ifs <;> rfl
  · simp only [storeAt, List.getD_eq_getElem?_getD, List.getElem?_set, List.length_set,
      List.length_drop]
    split_ifs <;> rfl

/-- Every message the relay sends on checks out. -/
theorem dpVsXmitIcmp4_cksum_valid (e : Endian) (ipv4Cksum : List UInt8 → UInt16) (c : DpVsConn)
    (fwdmode : UInt32) (deltas : SeqDeltas) (dir : Dir) {pkt : List UInt8}
    (long : ip4Hdrlen pkt + 4 ≤ pkt.length) (short : pkt.length ≤ ip4Hdrlen pkt + 65535) :
    rteRawCksum e ((dpVsXmitIcmp4 e ipv4Cksum c fwdmode deltas dir pkt).drop (ip4Hdrlen pkt)) =
      0xffff := by
  have kept := (kept_xmitIcmp4L3 e ipv4Cksum c (fwdmode = dpvsFwdModeFnat) dir pkt).trans
    (kept_xmitIcmp4L4 e c (fwdmode = dpvsFwdModeFnat) deltas dir _)
  rw [dpVsXmitIcmp4, ← kept.ip4Hdrlen]
  exact icmpRecsum_cksum_valid e (by rw [kept.ip4Hdrlen, kept.1]; omega)
    (by rw [kept.ip4Hdrlen, kept.1]; omega)

/-! ## The DF test -/

/-- On a little-endian host the relay's DF test reads bit 6 of the second byte of the
field, a bit of the fragment offset. -/
theorem xmitIcmp4DfTest_little (l : List UInt8) :
    load16 .little l 6 &&& rteIpv4HdrDfFlag ≠ 0 ↔ l.getD 7 0 &&& 0x40 ≠ 0 := by
  have bit : load16 .little l 6 &&& rteIpv4HdrDfFlag = (l.getD 7 0 &&& 0x40).toUInt16 <<< 8 := by
    apply UInt16.toBitVec_inj.mp
    simp only [load16, hostLoad16, rteIpv4HdrDfFlag, UInt16.toBitVec_and, UInt16.toBitVec_or,
      UInt16.toBitVec_shiftLeft, UInt8.toBitVec_toUInt16, UInt8.toBitVec_and]
    ext i hi
    interval_cases i <;> simp
  have shifted : ((l.getD 7 0 &&& 0x40).toUInt16 <<< 8).toNat = (l.getD 7 0 &&& 0x40).toNat * 256 := by
    have := (l.getD 7 0 &&& 0x40).toNat_lt
    rw [UInt16.toNat_shiftLeft, UInt8.toNat_toUInt16, show (8 : UInt16).toNat % 16 = 8 from rfl,
      Nat.shiftLeft_eq]
    omega
  rw [bit, Ne, Ne, ← UInt16.toNat_inj, shifted, ← UInt8.toNat_inj]
  simp

/-- On a little-endian host the relay sends a message on over the route's mtu with DF
set, unless bit 6 of the fragment offset's low byte happens to be set. -/
theorem xmitIcmp4_ignores_df_little (ipv4Cksum : List UInt8 → UInt16)
    (route : InetAddr → InetAddr → UInt8 → Option UInt32) (c : DpVsConn) (fwdmode : UInt32)
    (deltas : SeqDeltas) (dir : Dir) (pkt : List UInt8)
    (translating : fwdmode = dpvsFwdModeFnat ∨ fwdmode = dpvsFwdModeNat ∨ fwdmode = dpvsFwdModeSnat)
    (routed : ∀ d s tos, (route d s tos).isSome)
    (offsetBit : pkt.getD 7 0 &&& 0x40 = 0) :
    xmitIcmp4 .little ipv4Cksum route c fwdmode deltas dir pkt =
      .out (dpVsXmitIcmp4 .little ipv4Cksum c fwdmode deltas dir pkt) := by
  have untested : ¬ (load16 .little pkt 6 &&& rteIpv4HdrDfFlag ≠ 0) := by
    rw [xmitIcmp4DfTest_little, not_not]
    exact offsetBit
  unfold xmitIcmp4
  rw [if_neg (fun plain => by rcases translating with mode | mode | mode <;> simp [mode] at plain)]
  dsimp only
  split
  · rename_i none
    exact absurd none (Option.ne_none_iff_isSome.mpr (routed _ _ _))
  · rw [if_neg (fun test => untested test.2)]

end Dpvs.IcmpRelay
