import Dpvs.Basic

/-!
# The PROXY protocol header of a FNAT connection

`src/ipvs/ip_vs_proxy_proto.c` reads a PROXY header (the text line of version 1 or
the binary block of version 2) at the start of a client's first data segment
(`proxy_proto_parse`), and writes the header the service asks for in its place
(`proxy_proto_insert`); `tcp_in_add_proxy_proto` and `udp_in_add_proxy_proto`
decide between keeping the client's header and writing a new one.

The model works on the bytes that follow the transport header. `proxy_proto_insert`
grows or shrinks the packet by `room = |E| - datalen` and moves the IP and
transport headers, or, past the MTU, sends `E` in a packet of its own and cuts the
first `datalen` bytes from the original; either way the bytes after the transport
header become `E` followed by the old bytes past `datalen`. The union
`proxy_info.addr` is kept as its 216 bytes. `inet_pton` and `inet_ntop` are
parameters.
-/

namespace Dpvs.ProxyProto

/-- `PROXY_PROTO_V1_MAX_DATALEN`. -/
def proxyProtoV1MaxDatalen : Nat := 107

/-- `PROXY_PROTO_HDR_LEN_V4`. -/
def proxyProtoHdrLenV4 : Nat := 28

/-- `PROXY_PROTO_HDR_LEN_V6`. -/
def proxyProtoHdrLenV6 : Nat := 52

/-- `PROXY_PROTO_HDR_LEN_UX`. -/
def proxyProtoHdrLenUx : Nat := 232

/-- `PROXY_PROTO_V2_SIGNATURE`. -/
def proxyProtoV2Signature : List UInt8 :=
  [0x0D, 0x0A, 0x0D, 0x0A, 0x00, 0x0D, 0x0A, 0x51, 0x55, 0x49, 0x54, 0x0A]

/-- `sizeof(struct proxy_hdr_v2)`. -/
def proxyHdrV2Size : Nat := 16

/-- `PROXY_PROTOCOL_V1`. -/
def proxyProtocolV1 : UInt8 := 0x01

/-- `PROXY_PROTOCOL_V2`. -/
def proxyProtocolV2 : UInt8 := 0x02

/-- `PROXY_PROTOCOL_F_INSECURE`. -/
def proxyProtocolFInsecure : UInt8 := 0x10

/-- `PROXY_PROTOCOL_VERSION`. -/
def proxyProtocolVersion (verflag : UInt8) : UInt8 := verflag &&& 0x0F

/-- `PROXY_PROTOCOL_IS_INSECURE`. -/
def proxyProtocolIsInsecure (verflag : UInt8) : Bool := verflag &&& proxyProtocolFInsecure != 0

/-- `AF_UNIX` as the `uint8_t` of `proxy_info`. -/
def afUnixByte : UInt8 := 1

/-- `AF_INET`. -/
def afInetByte : UInt8 := 2

/-- `AF_INET6`. -/
def afInet6Byte : UInt8 := 10

/-- `IPPROTO_TCP`. -/
def ipprotoTcp : UInt8 := 6

/-- `IPPROTO_UDP`. -/
def ipprotoUdp : UInt8 := 17

/-- `struct proxy_info`; `addr` is the union's 216 bytes. -/
structure ProxyInfo where
  af : UInt8
  proto : UInt8
  version : UInt8
  cmd : UInt8
  datalen : Nat
  addr : List UInt8
  deriving DecidableEq, Repr

/-- `struct proxy_info` zeroed. -/
def ProxyInfo.zero : ProxyInfo := ⟨0, 0, 0, 0, 0, List.replicate 216 0⟩

/-- The bytes `[i, i + n)` of a buffer; bytes past the packet read as 0. -/
def slice (data : List UInt8) (i n : Nat) : List UInt8 :=
  (List.range n).map fun k => data.getD (i + k) 0

/-- The union with the bytes `[i, i + bytes.length)` written. -/
def writeAt (addr : List UInt8) (i : Nat) (bytes : List UInt8) : List UInt8 :=
  addr.take i ++ bytes ++ addr.drop (i + bytes.length)

/-- `ppv2_af_pp2host`. -/
def ppv2AfPp2host (ppv2af : UInt8) : UInt8 :=
  match ppv2af with
  | 1 => afInetByte
  | 2 => afInet6Byte
  | 3 => afUnixByte
  | _ => 0

/-- `ppv2_af_host2pp`. -/
def ppv2AfHost2pp (hostaf : UInt8) : UInt8 :=
  if hostaf = afInetByte then 1 else if hostaf = afInet6Byte then 2
  else if hostaf = afUnixByte then 3 else 0

/-- `ppv2_proto_pp2host`. -/
def ppv2ProtoPp2host (ppv2proto : UInt8) : UInt8 :=
  match ppv2proto with
  | 1 => ipprotoTcp
  | 2 => ipprotoUdp
  | _ => 0

/-- `ppv2_proto_host2pp`. -/
def ppv2ProtoHost2pp (hostproto : UInt8) : UInt8 :=
  if hostproto = ipprotoTcp then 1 else if hostproto = ipprotoUdp then 2 else 0

/-! ## Text helpers of the version-1 line -/

/-- The byte of a character. -/
def ch (c : Char) : UInt8 := c.toNat.toUInt8

/-- The bytes of a string. -/
def bytesOf (s : String) : List UInt8 := s.toList.map ch

/-- `strtok_r` with the delimiter `' '` over a NUL-free string: the runs of other bytes. -/
def strtokSpace (s : List UInt8) : List (List UInt8) :=
  (s.splitOn (ch ' ')).filter (· ≠ [])

/-- `isspace` of the C locale. -/
def isSpace (b : UInt8) : Bool := b = ch ' ' || (0x09 ≤ b && b ≤ 0x0D)

/-- `strtol(token, &end, 10)` truncated to the `uint16_t` that `htons` takes, with
whether `*end` is the terminating NUL: leading blanks and a sign, then the digits;
without a digit, `end` is the token itself. -/
def strtolPort (token : List UInt8) : UInt16 × Bool :=
  let rest := token.dropWhile isSpace
  let (neg, rest) := match rest with
    | b :: r => if b = ch '-' then (true, r) else if b = ch '+' then (false, r) else (false, rest)
    | [] => (false, rest)
  let digits := rest.takeWhile fun b => ch '0' ≤ b && b ≤ ch '9'
  let value : Int := digits.foldl (fun v b => v * 10 + (b - ch '0').toNat) 0
  -- values past `LONG_MAX` saturate; the low sixteen bits of the saturated value are all ones
  let value := if value > 9223372036854775807 then 9223372036854775807 else value
  let value := if neg then -value else value
  if digits = [] then (0, token = []) else (UInt16.ofInt value, rest.drop digits.length = [])

/-- A `uint16_t` in network byte order, as its two bytes. -/
def be16 (v : UInt16) : List UInt8 := [(v >>> 8).toUInt8, v.toUInt8]

/-- `%d` of a non-negative number. -/
def decimal (n : Nat) : List UInt8 := bytesOf (toString n)

/-! ## `proxy_proto_parse` -/

variable (inetPton4 : List UInt8 → Option (List UInt8))
  (inetPton6 : List UInt8 → Option (List UInt8))

/-- The version-1 address and port fields after `TCP4` or `TCP6`: two addresses by
`inet_pton`, two ports by `strtol`, and nothing after them. -/
def parseV1Fields (pton : List UInt8 → Option (List UInt8)) (alen : Nat)
    (info : ProxyInfo) : List (List UInt8) → Edpvs × ProxyInfo
  | src :: dst :: sport :: dport :: rest =>
    match pton src, pton dst with
    | some s, some d =>
      let (sp, sok) := strtolPort sport
      let (dp, dok) := strtolPort dport
      if !sok || !dok then (.inval, info)
      else if rest ≠ [] then (.inval, info)
      else (.ok, { info with
        addr := writeAt (writeAt info.addr 0 (s.take alen)) alen (d.take alen ++ be16 sp ++ be16 dp) })
    | _, _ => (.inval, info)
  | _ => (.inval, info)

/-- `proxy_proto_parse` of the bytes `data` that follow the transport header. A
result with `datalen = 0` means no PROXY data. -/
def proxyProtoParse (data : List UInt8) : Edpvs × ProxyInfo :=
  if data.length < 12 then (.ok, .zero)
  else
    let info := ProxyInfo.zero
    if data.take 12 = proxyProtoV2Signature then
      if data.length < 16 then (.invpkt, info)
      else
        let addrlen := (data.getD 14 0).toNat * 256 + (data.getD 15 0).toNat
        if data.length < 16 + addrlen then (.invpkt, info)
        else
          let info := { info with version := data.getD 12 0 >>> 4 }
          -- `ppinfo->cmd` is still 0 here: the test on it never fails
          if info.version ≠ proxyProtocolV2 ∨ info.cmd > 1 then (.inval, info)
          else
            let info := { info with cmd := data.getD 12 0 &&& 0x0F }
            if info.cmd = 0 then (.ok, info)
            else
              let info := { info with af := ppv2AfPp2host (data.getD 13 0 >>> 4) }
              if info.af = 0 then (.notsupp, info)
              else
                let info := { info with proto := ppv2ProtoPp2host (data.getD 13 0 &&& 0x0F) }
                if info.proto = 0 then (.notsupp, info)
                else if info.af = afInetByte then
                  (.ok, { info with addr := writeAt info.addr 0 (slice data 16 12),
                                    datalen := proxyProtoHdrLenV4 })
                else if info.af = afInet6Byte then
                  (.ok, { info with addr := writeAt info.addr 0 (slice data 16 36),
                                    datalen := proxyProtoHdrLenV6 })
                else
                  (.ok, { info with addr := writeAt info.addr 0 (slice data 16 216),
                                    datalen := proxyProtoHdrLenUx })
    else if data.take 6 = bytesOf "PROXY " then
      let ppdlen := (data.takeWhile fun b => b ≠ ch '\n' && b ≠ 0).length
      if ppdlen > proxyProtoV1MaxDatalen ∨ ppdlen = 0 then (.invpkt, info)
      else
        let ppdlen := ppdlen + 1
        if data.length < ppdlen then (.invpkt, info)
        else
          let line := data.take (ppdlen - 1)
          let line := if line.getLast? = some (ch '\r') then line.dropLast else line
          match strtokSpace line with
          | [] => (.inval, info)
          | [_] => (.inval, { info with version := proxyProtocolV1 })
          | _ :: family :: fields =>
            let info := { info with version := proxyProtocolV1 }
            if family.take 4 = bytesOf "TCP4" then
              let r := parseV1Fields inetPton4 4
                { info with af := afInetByte, proto := ipprotoTcp, cmd := 1 } fields
              (r.1, if r.1 = .ok then { r.2 with datalen := ppdlen } else r.2)
            else if family.take 4 = bytesOf "TCP6" then
              let r := parseV1Fields inetPton6 16
                { info with af := afInet6Byte, proto := ipprotoTcp, cmd := 1 } fields
              (r.1, if r.1 = .ok then { r.2 with datalen := ppdlen } else r.2)
            -- `!memcpy(token, "UNKNOWN", 7)`: `memcpy` returns `token`, never `NULL`
            else (.notsupp, info)
    else (.ok, info)

/-! ## The header `proxy_proto_insert` writes -/

variable (inetNtop : UInt8 → List UInt8 → Option (List UInt8))

/-- `strlen` of a NUL-terminated field. -/
def cstrlen (bytes : List UInt8) : Nat := (bytes.takeWhile (· ≠ 0)).length

/-- The version-1 line for an address family: `"PROXY TCP4 %s %s %d %d\r\n"` or its
`TCP6` form, from `inet_ntop` of the addresses; `snprintf` into 108 bytes keeps at
most 107 of them. -/
def v1Line (family : String) (af : UInt8) (alen : Nat) (info : ProxyInfo) :
    Option (List UInt8) := do
  let src ← inetNtop af (info.addr.take alen)
  let dst ← inetNtop af (slice info.addr alen alen)
  let sport := (slice info.addr (2 * alen) 2)
  let dport := (slice info.addr (2 * alen + 2) 2)
  let port := fun (b : List UInt8) => (b.getD 0 0).toNat * 256 + (b.getD 1 0).toNat
  some (bytesOf ("PROXY " ++ family ++ " ") ++ src ++ [ch ' '] ++ dst ++ [ch ' '] ++
    decimal (port sport) ++ [ch ' '] ++ decimal (port dport) ++ bytesOf "\r\n")

/-- The header `proxy_proto_insert` writes for a service of PROXY version `version`
(`EDPVS_*` when it refuses): version 2 a 16-byte header that always says PROXY,
then `ppdatalen - 16` bytes of the address union; version 1 the text line, or
`"PROXY UNKNOWN\r\n"` for a LOCAL command. -/
def ppEncode (version : UInt8) (info : ProxyInfo) : Except Edpvs (List UInt8) :=
  if version = proxyProtocolV2 then
    let ppdatalen :=
      if info.cmd = 1 then
        if info.af = afInetByte then some proxyProtoHdrLenV4
        else if info.af = afInet6Byte then some proxyProtoHdrLenV6
        else if info.af = afUnixByte then
          some (proxyHdrV2Size + cstrlen (info.addr.take 108) + cstrlen (info.addr.drop 108))
        else none
      else some proxyHdrV2Size
    match ppdatalen with
    | none => .error .notsupp
    | some n =>
      let alen := n - proxyHdrV2Size
      .ok (proxyProtoV2Signature ++ [(proxyProtocolV2 <<< 4) ||| 1,
        (ppv2AfHost2pp info.af <<< 4) ||| ppv2ProtoHost2pp info.proto] ++
        be16 alen.toUInt16 ++ slice info.addr 0 alen)
  else if version = proxyProtocolV1 then
    if info.cmd = 1 then
      if info.proto ≠ ipprotoTcp then .error .notsupp
      else
        let line := if info.af = afInetByte then v1Line inetNtop "TCP4" afInetByte 4 info
          else if info.af = afInet6Byte then v1Line inetNtop "TCP6" afInet6Byte 16 info
          else none
        match line with
        | none => .error (if info.af = afInetByte ∨ info.af = afInet6Byte then .inval else .notsupp)
        | some line => if line.length > 108 then .error .inval else .ok (line.take 107)
    else .ok (bytesOf "PROXY UNKNOWN\r\n")
  else .error .notsupp

/-- `proxy_proto_insert` on the bytes after the transport header, for a FNAT
connection of transport protocol `proto` and PROXY setting `ppVersion`: an
insecure service keeps a client header of its own version; otherwise the header
it encodes replaces the first `datalen` bytes. -/
def proxyProtoInsert (info : ProxyInfo) (proto ppVersion : UInt8) (payload : List UInt8) :
    Edpvs × List UInt8 :=
  if proto ≠ info.proto then (.inval, payload)
  else if info.datalen > 0 ∧ proxyProtocolIsInsecure ppVersion ∧
      info.version = proxyProtocolVersion ppVersion then (.ok, payload)
  else match ppEncode inetNtop (proxyProtocolVersion ppVersion) info with
    | .error e => (e, payload)
    | .ok header => (.ok, header ++ payload.drop info.datalen)

/-- What the inbound side of a connection gives the PROXY header: its family, the
client and virtual addresses, the ports (as numbers: the connection keeps them in
network order, whose bytes are `be16` of the number) and the service's setting. -/
structure ConnSide where
  af : UInt8
  caddr : InetAddr
  vaddr : InetAddr
  cport : UInt16
  vport : UInt16
  ppVersion : UInt8
  deriving DecidableEq, Repr

/-- The fields `*_in_add_proxy_proto` write over the parsed info from the
connection; the rest of the union keeps what the parser left. -/
def fillFromConn (proto : UInt8) (conn : ConnSide) (info : ProxyInfo) : Option ProxyInfo :=
  let info := { info with af := conn.af, proto := proto, version := proxyProtocolVersion conn.ppVersion, cmd := 1 }
  if conn.af = afInetByte then
    let fields := (InetAddr.ofV4 conn.caddr.w0).bytes.take 4 ++
      (InetAddr.ofV4 conn.vaddr.w0).bytes.take 4 ++ be16 conn.cport ++ be16 conn.vport
    some { info with addr := writeAt info.addr 0 fields }
  else if conn.af = afInet6Byte then
    let fields := conn.caddr.bytes ++ conn.vaddr.bytes ++ be16 conn.cport ++ be16 conn.vport
    some { info with addr := writeAt info.addr 0 fields }
  else none

/-- What `fillFromConn` writes: the connection's family, the protocol, the service's
version and the PROXY command; the parsed length stays. -/
theorem fillFromConn_spec {proto : UInt8} {conn : ConnSide} {info filled : ProxyInfo}
    (fill : fillFromConn proto conn info = some filled) :
    filled.af = conn.af ∧ filled.proto = proto ∧
      filled.version = proxyProtocolVersion conn.ppVersion ∧ filled.cmd = 1 ∧
      filled.datalen = info.datalen := by
  unfold fillFromConn at fill
  split_ifs at fill <;> (cases fill; exact ⟨rfl, rfl, rfl, rfl, rfl⟩)

/-- The body the two `*_in_add_proxy_proto` share, on the bytes after the transport
header: parse; keep a client header of the service's own version when the service
is insecure; take the connection's addresses unless an insecure service got a
client header of the other version; then insert. -/
def inAddProxyProto (proto : UInt8) (conn : ConnSide) (payload : List UInt8) :
    Edpvs × List UInt8 :=
  match proxyProtoParse inetPton4 inetPton6 payload with
  | (.ok, info) =>
    if info.datalen > 0 ∧ info.version = proxyProtocolVersion conn.ppVersion ∧
        proxyProtocolIsInsecure conn.ppVersion then (.ok, payload)
    else
      let filled :=
        if info.datalen = 0 ∨ !proxyProtocolIsInsecure conn.ppVersion then fillFromConn proto conn info
        else some info
      match filled with
      | none => (.notsupp, payload)
      | some info => proxyProtoInsert inetNtop info proto conn.ppVersion payload
  | _ => (.invpkt, payload)

/-- `tcp_in_add_proxy_proto`: a segment without data is left alone. -/
def tcpInAddProxyProto (conn : ConnSide) (payload : List UInt8) : Edpvs × List UInt8 :=
  if payload = [] then (.ok, payload)
  else inAddProxyProto inetPton4 inetPton6 inetNtop ipprotoTcp conn payload

/-- `udp_in_add_proxy_proto`. -/
def udpInAddProxyProto (conn : ConnSide) (payload : List UInt8) : Edpvs × List UInt8 :=
  inAddProxyProto inetPton4 inetPton6 inetNtop ipprotoUdp conn payload

/-! ## A segment without a client header -/

/-- A FNAT connection `192.168.0.1:1234 -> 10.0.0.1:80` of a service that sends
PROXY version `ppVersion`. -/
def sampleConn (ppVersion : UInt8) : ConnSide :=
  ⟨afInetByte, InetAddr.ofV4 0x0100a8c0, InetAddr.ofV4 0x0100000a, 1234, 80, ppVersion⟩

/-- The application bytes after the client's header. -/
def appData : List UInt8 := bytesOf "GET"

@[simp] theorem length_slice (data : List UInt8) (i n : Nat) : (slice data i n).length = n := by
  simp [slice]

@[simp] theorem slice_cons_succ (b : UInt8) (data : List UInt8) (i n : Nat) :
    slice (b :: data) (i + 1) n = slice data i n := by
  simp only [slice]
  congr 1
  funext k
  rw [Nat.add_right_comm]
  rfl

theorem slice_append_of_length {l : List UInt8} {n : Nat} (h : l.length = n) (rest : List UInt8) :
    slice (l ++ rest) 0 n = l := by
  apply List.ext_getElem (by simp [h])
  intro k hk hk'
  simp only [slice, List.getElem_map, List.getElem_range, Nat.zero_add]
  simp [List.getD_eq_getElem?_getD, List.getElem?_append_left hk', hk']

theorem fillFromConn_ipFamily {proto : UInt8} {conn : ConnSide} {info filled : ProxyInfo}
    (fill : fillFromConn proto conn info = some filled) :
    conn.af = afInetByte ∨ conn.af = afInet6Byte := by
  unfold fillFromConn at fill
  split_ifs at fill with inet inet6
  · exact Or.inl inet
  · exact Or.inr inet6

/-- The version-2 header a service writes for a PROXY command of an IP family: the
signature, version and command, family and protocol, the address length and that
many bytes of the union. -/
theorem ppEncode_v2_proxy {info : ProxyInfo} (cmd : info.cmd = 1) {alen : Nat}
    (len : (info.af = afInetByte ∧ alen = 12) ∨ (info.af = afInet6Byte ∧ alen = 36)) :
    ppEncode inetNtop proxyProtocolV2 info = .ok (proxyProtoV2Signature ++
      [(0x21 : UInt8), (ppv2AfHost2pp info.af <<< 4) ||| ppv2ProtoHost2pp info.proto] ++
      be16 alen.toUInt16 ++ slice info.addr 0 alen) := by
  have verCmd : (proxyProtocolV2 <<< 4) ||| 1 = (0x21 : UInt8) := by decide
  rcases len with ⟨family, rfl⟩ | ⟨family, rfl⟩ <;>
    simp [ppEncode, cmd, family, afInetByte, afInet6Byte, verCmd, proxyProtoHdrLenV4,
      proxyProtoHdrLenV6, proxyHdrV2Size]

/-- `proxy_proto_parse` of a version-2 PROXY header of an IP family followed by any
data: the family and protocol of byte 13, and the fixed-size address block after the
16 header bytes. -/
theorem proxyProtoParse_v2_ip {b13 : UInt8} {alen : Nat} {bytes rest : List UInt8}
    (len : bytes.length = alen)
    (fam : (ppv2AfPp2host (b13 >>> 4) = afInetByte ∧ alen = 12) ∨
      (ppv2AfPp2host (b13 >>> 4) = afInet6Byte ∧ alen = 36))
    (pr : ppv2ProtoPp2host (b13 &&& 0x0F) ≠ 0) :
    proxyProtoParse inetPton4 inetPton6
        (proxyProtoV2Signature ++ [(0x21 : UInt8), b13] ++ be16 alen.toUInt16 ++ bytes ++ rest) =
      (.ok, { ProxyInfo.zero with
        version := proxyProtocolV2, cmd := 1, af := ppv2AfPp2host (b13 >>> 4),
        proto := ppv2ProtoPp2host (b13 &&& 0x0F), addr := writeAt ProxyInfo.zero.addr 0 bytes,
        datalen := proxyHdrV2Size + alen }) := by
  -- the 16 header bytes are known; the parser reads nothing else of the data but the block
  have header : proxyProtoV2Signature ++ [(0x21 : UInt8), b13] ++ be16 alen.toUInt16 ++ bytes ++ rest =
      [13, 10, 13, 10, 0, 13, 10, 81, 85, 73, 84, 10, 0x21, b13,
        (alen.toUInt16 >>> 8).toUInt8, alen.toUInt16.toUInt8] ++ (bytes ++ rest) := by
    simp [proxyProtoV2Signature, be16]
  have verCmd : (0x21 : UInt8) >>> 4 = proxyProtocolV2 ∧ (0x21 : UInt8) &&& 0x0F = 1 := by decide
  have zeroCmd : ProxyInfo.zero.cmd = 0 := rfl
  have total : ([13, 10, 13, 10, 0, 13, 10, 81, 85, 73, 84, 10, 0x21, b13,
      (alen.toUInt16 >>> 8).toUInt8, alen.toUInt16.toUInt8] ++ (bytes ++ rest)).length =
      16 + alen + rest.length := by
    simp [len]
    omega
  rw [header]
  unfold proxyProtoParse
  rw [total]
  rcases fam with ⟨family, rfl⟩ | ⟨family, rfl⟩
  · have known : afInetByte ≠ 0 := by decide
    simp [proxyProtoV2Signature, verCmd, zeroCmd, family, pr, len, known,
      slice_append_of_length, proxyProtoHdrLenV4, proxyHdrV2Size,
      show ¬ 16 + 12 + rest.length < 12 by omega, show ¬ 16 + 12 + rest.length < 16 by omega,
      show ¬ 16 + 12 + rest.length < 28 by omega]
  · have known : afInet6Byte ≠ 0 := by decide
    have six : ¬ afInet6Byte = afInetByte := by decide
    simp [proxyProtoV2Signature, verCmd, zeroCmd, family, pr, len, known, six,
      slice_append_of_length, proxyProtoHdrLenV6, proxyHdrV2Size,
      show ¬ 16 + 36 + rest.length < 12 by omega, show ¬ 16 + 36 + rest.length < 16 by omega,
      show ¬ 16 + 36 + rest.length < 52 by omega]

/-- The version-2 header a service writes for a connection reads back, in front of any
data, as what it wrote: the connection's family and protocol, the PROXY version and
command and the address bytes the header carries, with the header's length; the rest
of the address union reads as zero. -/
theorem proxyProtoParse_ppEncode_v2 {proto : UInt8} {conn : ConnSide} {info filled : ProxyInfo}
    {header : List UInt8} (rest : List UInt8) (transport : proto = ipprotoTcp ∨ proto = ipprotoUdp)
    (v2 : proxyProtocolVersion conn.ppVersion = proxyProtocolV2)
    (fill : fillFromConn proto conn info = some filled)
    (encoded : ppEncode inetNtop proxyProtocolV2 filled = .ok header) :
    proxyProtoParse inetPton4 inetPton6 (header ++ rest) =
      (.ok, { filled with
        addr := writeAt ProxyInfo.zero.addr 0 (slice filled.addr 0 (header.length - proxyHdrV2Size))
        datalen := header.length }) := by
  obtain ⟨sameAf, sameProto, version, cmd, -⟩ := fillFromConn_spec fill
  subst sameProto
  rw [v2] at version
  -- an IPv4 header carries 12 address bytes, an IPv6 one 36
  obtain ⟨alen, len⟩ : ∃ alen, (filled.af = afInetByte ∧ alen = 12) ∨
      (filled.af = afInet6Byte ∧ alen = 36) := by
    rcases fillFromConn_ipFamily fill with inet | inet6
    · exact ⟨12, Or.inl ⟨sameAf.trans inet, rfl⟩⟩
    · exact ⟨36, Or.inr ⟨sameAf.trans inet6, rfl⟩⟩
  rw [ppEncode_v2_proxy inetNtop cmd len] at encoded
  cases encoded
  have total : (proxyProtoV2Signature ++
      [(0x21 : UInt8), ppv2AfHost2pp filled.af <<< 4 ||| ppv2ProtoHost2pp filled.proto] ++
      be16 alen.toUInt16 ++ slice filled.addr 0 alen).length = proxyHdrV2Size + alen := by
    simp [proxyProtoV2Signature, be16, proxyHdrV2Size]
    omega
  rw [total, Nat.add_sub_cancel_left]
  -- byte 13 decodes to the family and the protocol it was encoded from
  have decode :
      ppv2AfPp2host ((ppv2AfHost2pp filled.af <<< 4 ||| ppv2ProtoHost2pp filled.proto) >>> 4) =
          filled.af ∧
        ppv2ProtoPp2host ((ppv2AfHost2pp filled.af <<< 4 ||| ppv2ProtoHost2pp filled.proto) &&&
          0x0F) = filled.proto := by
    rcases len with ⟨family, -⟩ | ⟨family, -⟩ <;> rw [family] <;>
      rcases transport with tcp | udp <;> simp only [*] <;> decide
  have known : ppv2ProtoPp2host
      ((ppv2AfHost2pp filled.af <<< 4 ||| ppv2ProtoHost2pp filled.proto) &&& 0x0F) ≠ 0 := by
    rw [decode.2]
    rcases transport with tcp | udp <;> simp only [*] <;> decide
  rw [proxyProtoParse_v2_ip inetPton4 inetPton6 (length_slice _ _ _) (by rwa [decode.1]) known,
    decode.1, decode.2]
  obtain ⟨af, pr, v, c, dl, addr⟩ := filled
  simp only at version cmd ⊢
  subst version cmd
  rfl

/-- The version-2 header of `sampleConn` read back in front of `GET`. -/
theorem proxyProtoParse_ppEncode_v2_sample :
    ∃ filled header, fillFromConn ipprotoTcp (sampleConn proxyProtocolV2) .zero = some filled ∧
      ppEncode (fun _ _ => none) proxyProtocolV2 filled = .ok header ∧
      proxyProtoParse (fun _ => none) (fun _ => none) (header ++ appData) =
        (.ok, { filled with
          addr := writeAt ProxyInfo.zero.addr 0 (slice filled.addr 0 (header.length - proxyHdrV2Size))
          datalen := header.length }) := by
  refine ⟨_, _, rfl, rfl, ?_⟩
  exact @proxyProtoParse_ppEncode_v2 (fun _ => none) (fun _ => none) (fun _ _ => none) ipprotoTcp
    (sampleConn proxyProtocolV2) .zero _ _ appData (Or.inl rfl) (by decide) rfl rfl

/-! ## Client headers that are not replaced cleanly -/

/-- A version-2 PROXY header for TCP over IPv4 with a 4-byte `PP2_TYPE_NOOP` TLV after
the addresses, so `addrlen = 16`. -/
def tlvHeader : List UInt8 :=
  proxyProtoV2Signature ++ [0x21, 0x11, 0x00, 0x10] ++
    [192, 168, 0, 2, 10, 0, 0, 1, 0x30, 0x39, 0x00, 0x50] ++ [0x04, 0x00, 0x01, 0x00]

/-- A version-2 LOCAL header: no addresses. -/
def localHeader : List UInt8 := proxyProtoV2Signature ++ [0x20, 0x00, 0x00, 0x00]

/-- The line a version-1 service writes for a LOCAL command. -/
def unknownLine : List UInt8 := bytesOf "PROXY UNKNOWN\r\n"

/-- The version-2 header of `sampleConn`. -/
def sampleV2Header : List UInt8 :=
  proxyProtoV2Signature ++ [0x21, 0x11, 0x00, 0x0c] ++
    [192, 168, 0, 1, 10, 0, 0, 1, 0x04, 0xd2, 0x00, 0x50]

/-- Three client headers that do not come out as `E ++ P`, whatever `inet_pton` and
`inet_ntop` do: the parser gives a version-2 header with a TLV its fixed length of 28
bytes, so the TLV stays between the new header and the data; it gives a LOCAL
header no length at all, so the header stays after the new one; and it refuses
the `PROXY UNKNOWN` line that the inserter itself writes, so the client's line
goes to the server as it came. -/
theorem proxy_header_leftovers
    (inetPton4 inetPton6 : List UInt8 → Option (List UInt8))
    (inetNtop : UInt8 → List UInt8 → Option (List UInt8)) :
    tcpInAddProxyProto inetPton4 inetPton6 inetNtop (sampleConn proxyProtocolV2) (tlvHeader ++ appData) =
        (.ok, sampleV2Header ++ [0x04, 0x00, 0x01, 0x00] ++ appData) ∧
      tcpInAddProxyProto inetPton4 inetPton6 inetNtop (sampleConn proxyProtocolV2) (localHeader ++ appData) =
        (.ok, sampleV2Header ++ localHeader ++ appData) ∧
      ppEncode inetNtop proxyProtocolV1 { ProxyInfo.zero with proto := ipprotoTcp } = .ok unknownLine ∧
      (proxyProtoParse inetPton4 inetPton6 unknownLine).1 = .notsupp ∧
      tcpInAddProxyProto inetPton4 inetPton6 inetNtop (sampleConn proxyProtocolV1)
          (unknownLine ++ appData) = (.invpkt, unknownLine ++ appData) := by
  refine ⟨?_, ?_, ?_, ?_, ?_⟩ <;> rfl

end Dpvs.ProxyProto
