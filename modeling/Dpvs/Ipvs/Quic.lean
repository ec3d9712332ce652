import Dpvs.Ipvs.Persist
import Dpvs.Lib.Nibble
import Dpvs.SaPool.Pool

/-!
# Server information in QUIC connection IDs

A QUIC service (`DP_VS_SVC_F_QUIC`) keeps a connection on its real server across
client address changes by reading the server out of the packet's destination
connection ID. `quic_cid_generator` (`include/ipvs/quic.h`), which the servers run,
writes the last `l3len` bytes of the server address and, when `l4len = 2`, its port
into the ID one nibble late, after a byte of three length bits and a port flag;
`quic_parse_server` (`src/ipvs/ip_vs_quic.c`) reads them back into a
`struct quic_server`, and `quic_server_match` compares that with each destination.

The structure is modelled as its twenty bytes in memory: `wildcard` at 0 and 1,
`port` at 2 and 3 (both stored little-endian), `addr` from 4. The parser is modelled
with what it reads and writes: the indices of the DCID its loops read, how many DCID
bytes it pulled, and the offsets of the structure its loops write. The packet is the
UDP payload; `mbuf_header_pointer` succeeds when the bytes are there, and a read past
them reads on in the payload, or 0 past its end. The compare loop is modelled with the
offsets from `addr` it reads, and memory outside an address reads as 0.

* `quic_cid_round_trip`: an ID from the generator, in a long or a short header, is
  parsed back to the server it names, and the server then matches exactly the
  destinations with those address bytes and that port.
* `quic_parse_ipv4_wildcard_overrun`: the parser takes the address length from
  three bits of the packet and never holds it to the family, so an IPv4 packet can
  leave a wildcard past 32, and `quic_server_match` then reads before the address.
-/

namespace Dpvs.Quic

open Dpvs.Sa (htons)
open Dpvs.Persist (dpVsSvcFPersistent dpVsSvcFExpireQuiescent)
open Dpvs.Conn (dpvsFwdModeSnat)
open Nibble (straddle)

/-- `DPVS_QUIC_DCID_BYTES_MIN`. -/
def dpvsQuicDcidBytesMin : Nat := 7

/-- The bytes of the address union the family uses: four for `AF_INET`, sixteen for
every other family. -/
def famLen (af : Int) : Nat := if af = afInet then 4 else 16

/-! ## `struct quic_server` -/

/-- `struct quic_server` as its bytes in memory. -/
structure QuicServer where
  mem : Vector UInt8 20
  deriving DecidableEq, Repr

namespace QuicServer

/-- The structure after `memset(qsvr, 0, sizeof(struct quic_server))`. -/
def zero : QuicServer := ⟨Vector.replicate 20 0⟩

/-- A store of one byte at an offset of the structure. -/
def write (q : QuicServer) (off : Nat) (b : UInt8) : QuicServer := ⟨q.mem.setIfInBounds off b⟩

/-- `qsvr->wildcard`. -/
def wildcard (q : QuicServer) : UInt16 := q.mem[0].toUInt16 ||| (q.mem[1].toUInt16 <<< 8)

/-- `qsvr->port`, in network order as stored. -/
def port (q : QuicServer) : UInt16 := q.mem[2].toUInt16 ||| (q.mem[3].toUInt16 <<< 8)

/-- The sixteen bytes of `qsvr->addr`. -/
def addr (q : QuicServer) : List UInt8 := q.mem.toList.drop 4

/-- The byte at offset `k` from `&qsvr->addr`, which may lie before or after it. -/
def addrByte (q : QuicServer) (k : Int) : UInt8 :=
  if 0 ≤ k + 4 then q.mem.toList.getD (k + 4).toNat 0 else 0

/-- `qsvr->wildcard = w`. -/
def setWildcard (q : QuicServer) (w : UInt16) : QuicServer :=
  (q.write 0 w.toUInt8).write 1 (w >>> 8).toUInt8

end QuicServer

/-! ## `quic_parse_server` -/

/-- What the decoding loops have done: the structure, the DCID indices they read and the
offsets they wrote, in order. -/
structure Decode where
  qsvr : QuicServer
  reads : List Nat
  writes : List Nat

/-- `for (i = 0; i < n; i++, ptr++, dptr++) *dptr = ((*ptr & 0xf) << 4) |
((*(ptr+1) >> 4) & 0xf);` with `ptr` at DCID index `src` and `dptr` at offset `dst`. -/
def shiftCopy (cid : Nat → UInt8) : Nat → Nat → Nat → Decode → Decode
  | 0, _, _, d => d
  | n + 1, src, dst, d =>
    shiftCopy cid n (src + 1) (dst + 1)
      ⟨d.qsvr.write dst (straddle (cid src) (cid (src + 1))), d.reads ++ [src, src + 1],
        d.writes ++ [dst]⟩

/-- `l3len = ((*ptr >> 5) & 0x7) + 1` of the second DCID byte. -/
def cidL3len (b : UInt8) : Nat := ((b >>> 5) &&& 0x7).toNat + 1

/-- `l4len = (*ptr & 0x10) ? 2 : 0` of the second DCID byte. -/
def cidL4len (b : UInt8) : Nat := if b &&& 0x10 ≠ 0 then 2 else 0

/-- The tail of `quic_parse_server` from `ptr = cid; ++ptr;`: set the wildcard, copy the
address bytes to the end of the family's part of `addr`, then the port bytes. -/
def quicDecode (af : Int) (cid : Nat → UInt8) : Decode :=
  let l3len := cidL3len (cid 1)
  let l4len := cidL4len (cid 1)
  let q := QuicServer.zero.setWildcard (l3len <<< 3).toUInt16
  -- `dptr = &qsvr->addr + (4 - l3len)`, or `16 - l3len`: offset `4 + famLen - l3len`
  let d := shiftCopy cid l3len 1 (4 + famLen af - l3len) ⟨q, [], []⟩
  if l4len ≠ 0 then shiftCopy cid l4len (1 + l3len) 2 d else d

/-- A run of `quic_parse_server`: its return code, the structure it leaves, how many
DCID bytes it pulled, and what its decoding loops read and wrote. -/
structure ParseRun where
  ret : Edpvs
  qsvr : QuicServer
  pulled : Nat
  reads : List Nat
  writes : List Nat

/-- A return before the DCID is decoded, with the structure as the `memset` left it. -/
def ParseRun.early (ret : Edpvs) : ParseRun := ⟨ret, QuicServer.zero, 0, [], []⟩

/-- A return after `pulled` DCID bytes were decoded. -/
def ParseRun.decoded (pulled : Nat) (d : Decode) : ParseRun :=
  ⟨.ok, d.qsvr, pulled, d.reads, d.writes⟩

/-- `ntohl` of four bytes in network order. -/
def beWord (bs : List UInt8) : Nat := bs.foldl (fun acc b => acc * 256 + b.toNat) 0

/-- The DCID length a short header implies by its second DCID byte:
`((*ptr >> 5) & 0x3) + 1`, plus 2 when `*ptr & 0x10`, plus 6. -/
def shortCidlen (b : UInt8) : Nat :=
  ((b >>> 5) &&& 0x3).toNat + 1 + (if b &&& 0x10 ≠ 0 then 2 else 0) + 6

/-- `quic_parse_server` on the UDP payload `pl` of a packet of family `af`. The first
byte holds the form and fixed bits of `union quic_header`, which is four bytes long. -/
def quicParseServer (af : Int) (pl : List UInt8) : ParseRun :=
  if pl.length < 4 then .early .invpkt
  else
    let b0 := pl.getD 0 0
    if b0 &&& 0x40 = 0 then .early .invpkt
    else if b0 &&& 0x80 ≠ 0 then
      -- long header: version, DCID length, DCID
      if pl.length < 5 ∨ 1 < beWord ((pl.drop 1).take 4) then .early .invpkt
      else if pl.length < 6 ∨ 20 < (pl.getD 5 0).toNat then .early .invpkt
      else
        let cidlen := (pl.getD 5 0).toNat
        if cidlen < dpvsQuicDcidBytesMin then .early .ok
        else if pl.length < 6 + cidlen then .early .invpkt
        else .decoded cidlen (quicDecode af fun j => pl.getD (6 + j) 0)
    else
      -- short header: no length byte, the length is inferred from the second DCID byte
      if pl.length < 1 + dpvsQuicDcidBytesMin then .early .ok
      else
        let cidlen := shortCidlen (pl.getD 2 0)
        if dpvsQuicDcidBytesMin < cidlen then
          if pl.length < 1 + cidlen then .early .ok
          else .decoded cidlen (quicDecode af fun j => pl.getD (1 + j) 0)
        else .decoded dpvsQuicDcidBytesMin (quicDecode af fun j => pl.getD (1 + j) 0)

/-- A long header of version `v` (`v ≤ 1` for the versions the parser takes) carrying
the DCID `cid`, with its length byte. -/
def longHeader (b0 v : UInt8) (cid rest : List UInt8) : List UInt8 :=
  b0 :: 0 :: 0 :: 0 :: v :: cid.length.toUInt8 :: (cid ++ rest)

/-- A UDP payload whose QUIC header carries the DCID `cid`: a long header (form and fixed
bits set, version 0 or 1, the DCID's length), or a short header (fixed bit set, form
clear) with at least one byte after the DCID. -/
inductive QuicDcidPacket (cid : List UInt8) : List UInt8 → Prop
  | long (b0 v : UInt8) (rest : List UInt8) (form : b0 &&& 0x80 ≠ 0) (fixed : b0 &&& 0x40 ≠ 0)
      (version : v ≤ 1) : QuicDcidPacket cid (longHeader b0 v cid rest)
  | short (b0 x : UInt8) (rest : List UInt8) (form : b0 &&& 0x80 = 0) (fixed : b0 &&& 0x40 ≠ 0) :
      QuicDcidPacket cid (b0 :: (cid ++ x :: rest))

/-! ## `quic_server_match` and `quic_schedule` -/

/-- The byte at offset `k` from `&dest->addr`. -/
def destAddrByte (d : Dest) (k : Int) : UInt8 :=
  if 0 ≤ k then d.addr.bytes.getD k.toNat 0 else 0

/-- `while (l3len-- > 0) { if (*ptr1 != *ptr2) return false; ptr1++; ptr2++; }` from
offset `k`, with the offsets it reads. -/
def cmpLoop (p1 p2 : Int → UInt8) : Nat → Int → Bool × List Int
  | 0, _ => (true, [])
  | n + 1, k =>
    if p1 k ≠ p2 k then (false, [k])
    else
      let r := cmpLoop p1 p2 n (k + 1)
      (r.1, k :: r.2)

/-- `quic_server_match`, with the offsets from `addr` its compare loop reads. -/
def quicServerMatch (q : QuicServer) (d : Dest) : Bool × List Int :=
  if q.wildcard = 0 ∨ q.wildcard % 8 ≠ 0 then (false, [])
  else
    let l3len := (q.wildcard >>> 3).toNat
    let r := cmpLoop (destAddrByte d) q.addrByte l3len ((famLen d.af : Int) - l3len)
    if !r.1 then (false, r.2)
    else if q.port = 0 then (true, r.2)
    else (q.port == d.port, r.2)

/-- `quic_schedule` up to `dp_vs_conn_new`: the destination, the ports of the packet
(`none` when `mbuf_header_pointer` cannot read them) and the flags the connection is
made with. -/
def quicSchedule (svcFlags : UInt32) (qsvr : Option QuicServer) (proto : UInt8)
    (dests : List Dest) (ports : Option (UInt16 × UInt16)) :
    Option (Dest × (UInt16 × UInt16) × UInt32) :=
  match qsvr with
  | none => none
  | some q =>
    if q.wildcard = 0 ∨ proto ≠ ipprotoUdp ∨ svcFlags &&& dpVsSvcFPersistent ≠ 0 then none
    else
      match dests.find? fun d => (quicServerMatch q d).1 with
      | none => none
      | some d =>
        if d.fwdmode = dpvsFwdModeSnat then none
        else
          match ports with
          | none => none
          | some pp =>
            some (d, pp,
              if svcFlags &&& dpVsSvcFExpireQuiescent ≠ 0 then dpVsSvcFExpireQuiescent else 0)

/-! ## `quic_cid_generator` -/

/-- The byte at offset `k` from `svr_ip`, which may lie before the union. -/
def inetAddrByte (a : InetAddr) (k : Int) : UInt8 :=
  if 0 ≤ k then a.bytes.getD k.toNat 0 else 0

/-- `(*l3addr >> 4) & 0xf` on a `char`, which is signed: the shift sign-extends. -/
def charHighNibble (b : UInt8) : UInt8 := ((b.toInt8 >>> 4) &&& 0xf).toUInt8

/-- Round `i` of the generator's address loop with `l3len` at `p`: `cid[2+i]` is
`((*l3addr & 0xf) << 4) | ((*(l3addr+1) >> 4) & 0xf)`, and only the first part in the
last round. -/
def genAddrCell (ip : Int → UInt8) (l3len i : Nat) (p : Int) : UInt8 :=
  if i = l3len - 1 then (ip p &&& 0xf) <<< 4
  else ((ip p &&& 0xf) <<< 4) ||| charHighNibble (ip (p + 1))

/-- The generator's address loop, `n` rounds from round `i` with `l3addr` at `p`. -/
def genAddrLoop (ip : Int → UInt8) (l3len : Nat) : Nat → Nat → Int → (Nat → UInt8) → Nat → UInt8
  | 0, _, _, cid => cid
  | n + 1, i, p, cid =>
    genAddrLoop ip l3len n (i + 1) (p + 1) (Function.update cid (2 + i) (genAddrCell ip l3len i p))

/-- The port part of the generator: the top nibble of the port into the low nibble of
`cid[l3len+1]`, then `l4addr <<= 4` and its two bytes. -/
def genPortCells (l3len : Nat) (l4addr : UInt16) (cid : Nat → UInt8) : Nat → UInt8 :=
  let cid := Function.update cid (l3len + 1) (cid (l3len + 1) &&& 0xf0)
  let cid := Function.update cid (l3len + 1)
    (cid (l3len + 1) ||| ((l4addr >>> 12) &&& 0xf).toUInt8)
  let l4addr := l4addr <<< 4
  let cid := Function.update cid (l3len + 2) ((l4addr >>> 8) &&& 0xff).toUInt8
  Function.update cid (l3len + 3) (l4addr &&& 0xff).toUInt8

/-- `cid[1]`: the length bits, the port flag and the high nibble of the first address
byte. The `int` expression is stored into a `char`, which keeps its low eight bits, so
it is computed on bytes. -/
def genHeader (l3len l4len : Nat) (first : UInt8) : UInt8 :=
  let l4flag : UInt8 := if l4len > 0 then 1 else 0
  (((l3len - 1).toUInt8 &&& 0x7) <<< 5) ||| ((l4flag &&& 0x1) <<< 4) ||| charHighNibble first

/-- The generator's writes before the `memcpy`: the first random byte, the header byte,
the address cells, the port cells, and a random nibble OR-ed into the cell after them. -/
def genServerCells (af : Int) (l3len l4len : Nat) (svrIp : InetAddr) (svrPort : UInt16)
    (rdbuf : List UInt8) (cid : Nat → UInt8) : Nat → UInt8 :=
  let l3addr : Int := (famLen af : Int) - l3len
  let ip := inetAddrByte svrIp
  let cid := Function.update cid 0 (rdbuf.getD 0 0)
  let cid := Function.update cid 1 (genHeader l3len l4len (ip l3addr))
  let cid := genAddrLoop ip l3len l3len 0 l3addr cid
  let cid := if l4len > 0 then genPortCells l3len svrPort cid else cid
  let last := l3len + l4len + 1
  Function.update cid last (cid last ||| (rdbuf.getD 1 0 &&& 0xf))

/-- `quic_cid_generator` into the caller's buffer `cid`: `some` of the buffer after the
call when it returns 0. `rdbuf` is what `read` got from `/dev/urandom`; the call fails
unless it is `entropy` bytes. The `int` parameters are taken as naturals: a negative
one fails the same checks. -/
def quicCidGenerator (af : Int) (cidlen l3len l4len : Nat) (svrIp : InetAddr)
    (svrPort : UInt16) (rdbuf : List UInt8) (cid : Nat → UInt8) : Option (Nat → UInt8) :=
  let entropy := cidlen - l3len - l4len + 1
  if cidlen < dpvsQuicDcidBytesMin ∨ 8 < l3len ∨ l3len < 1 ∨ (l4len ≠ 0 ∧ l4len ≠ 2) ∨
      cidlen < l3len + l4len + 5 then none
  else if rdbuf.length ≠ entropy then none
  else
    let cid := genServerCells af l3len l4len svrIp svrPort rdbuf cid
    let next := l3len + l4len + 2
    -- `memcpy(&cid[l3len+l4len+2], &rdbuf[2], entropy - 3)`
    some fun j =>
      if next ≤ j ∧ j < next + (entropy - 3) then rdbuf.getD (j - next + 2) 0 else cid j

/-- The first `n` bytes of a buffer. -/
def dcid (cid : Nat → UInt8) (n : Nat) : List UInt8 := (List.range n).map cid

/-- The generator's example in `quic.h`: `cidlen 10, l3len 2, l4len 2` for
192.168.111.222 port 8029 gives `XX36 FDE1 F5DX XXXX XXXX`. -/
example : (quicCidGenerator afInet 10 2 2 ⟨0xde6fa8c0, 0, 0, 0⟩ 8029 (List.replicate 7 0)
    fun _ => 0).map (dcid · 10) = some [0, 0x36, 0xfd, 0xe1, 0xf5, 0xd0, 0, 0, 0, 0] := by
  decide

/-! ## The decoding loops -/

namespace QuicServer

@[simp] theorem write_mem (q : QuicServer) (off : Nat) (b : UInt8) {k : Nat} (hk : k < 20) :
    (q.write off b).mem[k] = if off = k then b else q.mem[k] :=
  Vector.getElem_setIfInBounds hk

@[simp] theorem zero_mem {k : Nat} (hk : k < 20) : zero.mem[k] = 0 :=
  Vector.getElem_replicate hk

end QuicServer

/-- After the loop, the `n` offsets from `dst` hold the bytes straddling the DCID bytes
from `src`, and every other offset what it held. -/
theorem shiftCopy_mem (cid : Nat → UInt8) (n : Nat) :
    ∀ (src dst : Nat) (d : Decode) {k : Nat} (hk : k < 20),
      (shiftCopy cid n src dst d).qsvr.mem[k] =
        if dst ≤ k ∧ k < dst + n then straddle (cid (src + (k - dst))) (cid (src + (k - dst) + 1))
        else d.qsvr.mem[k] := by
  induction n with
  | zero =>
    intro src dst d k hk
    rw [if_neg (by omega)]
    rfl
  | succ n ih =>
    intro src dst d k hk
    rw [shiftCopy, ih (src + 1) (dst + 1) _ hk, QuicServer.write_mem _ _ _ hk]
    -- offset `dst` is the one this round wrote, the rest are the later rounds'
    by_cases here : dst = k
    · subst here
      simp
    · by_cases later : dst + 1 ≤ k ∧ k < dst + 1 + n
      · rw [if_pos later, if_pos (by omega), show src + 1 + (k - (dst + 1)) = src + (k - dst) by omega]
      · rw [if_neg later, if_neg here, if_neg (by omega)]

theorem shiftCopy_reads (cid : Nat → UInt8) (n : Nat) :
    ∀ (src dst : Nat) (d : Decode),
      (shiftCopy cid n src dst d).reads = d.reads ++ (List.range' src n).flatMap fun j => [j, j + 1] := by
  induction n with
  | zero => intro src dst d; simp [shiftCopy]
  | succ n ih =>
    intro src dst d
    rw [shiftCopy, ih, List.range'_succ, List.flatMap_cons, List.append_assoc]

theorem shiftCopy_writes (cid : Nat → UInt8) (n : Nat) :
    ∀ (src dst : Nat) (d : Decode),
      (shiftCopy cid n src dst d).writes = d.writes ++ List.range' dst n := by
  induction n with
  | zero => intro src dst d; simp [shiftCopy]
  | succ n ih =>
    intro src dst d
    rw [shiftCopy, ih, List.range'_succ, List.append_assoc, List.singleton_append]

/-- The loop reads the DCID from `src` to `src + n` only. -/
theorem shiftCopy_congr {cid cid' : Nat → UInt8} (n : Nat) :
    ∀ (src dst : Nat) (d : Decode), (∀ j, src ≤ j → j ≤ src + n → cid j = cid' j) →
      shiftCopy cid n src dst d = shiftCopy cid' n src dst d := by
  induction n with
  | zero => intro src dst d _; rfl
  | succ n ih =>
    intro src dst d same
    rw [shiftCopy, shiftCopy, same src (by omega) (by omega), same (src + 1) (by omega) (by omega)]
    exact ih (src + 1) (dst + 1) _ fun j lo hi => same j (by omega) (by omega)


theorem QuicServer.setWildcard_mem (q : QuicServer) (w : UInt16) {k : Nat} (hk : k < 20) :
    (q.setWildcard w).mem[k] =
      if k = 0 then w.toUInt8 else if k = 1 then (w >>> 8).toUInt8 else q.mem[k] := by
  rw [setWildcard, write_mem _ _ _ hk, write_mem _ _ _ hk]
  by_cases k0 : k = 0
  · subst k0; simp
  · by_cases k1 : k = 1
    · subst k1; simp
    · simp [Ne.symm k0, Ne.symm k1, k0, k1]

/-- A 16-bit field is its two bytes stored little-endian and loaded back. -/
theorem toUInt16_bytes (w : UInt16) : w.toUInt8.toUInt16 ||| ((w >>> 8).toUInt8.toUInt16 <<< 8) = w := by
  apply UInt16.toBitVec_inj.mp
  simp only [UInt16.toBitVec_or, UInt16.toBitVec_shiftLeft, UInt16.toBitVec_shiftRight,
    UInt8.toBitVec_toUInt16, UInt16.toBitVec_toUInt8]
  ext i hi
  interval_cases i <;> simp

theorem cidL4len_eq_two {b : UInt8} (h : cidL4len b ≠ 0) : cidL4len b = 2 := by
  unfold cidL4len at h ⊢
  split
  · rfl
  · simp_all

/-- Every byte of the structure after the decoding: the port bytes when the DCID has a
port, the address bytes at the end of the family's part of `addr`, and otherwise what the
`memset` and the wildcard store left. -/
theorem quicDecode_mem (af : Int) (c : Nat → UInt8) {k : Nat} (hk : k < 20) :
    (quicDecode af c).qsvr.mem[k] =
      let l3len := cidL3len (c 1)
      let base := 4 + famLen af - l3len
      if cidL4len (c 1) ≠ 0 ∧ 2 ≤ k ∧ k < 4 then
        straddle (c (1 + l3len + (k - 2))) (c (1 + l3len + (k - 2) + 1))
      else if base ≤ k ∧ k < base + l3len then straddle (c (1 + (k - base))) (c (1 + (k - base) + 1))
      else (QuicServer.zero.setWildcard (l3len <<< 3).toUInt16).mem[k] := by
  unfold quicDecode
  dsimp only
  split
  · next port =>
    rw [shiftCopy_mem _ _ _ _ _ hk, shiftCopy_mem _ _ _ _ _ hk, cidL4len_eq_two port]
    simp
  · next noPort =>
    rw [shiftCopy_mem _ _ _ _ _ hk]
    simp only [noPort, false_and, if_false]


/-- The decoding reads the DCID up to index `l3len + l4len + 1` only. -/
theorem quicDecode_congr (af : Int) {c c' : Nat → UInt8}
    (same : ∀ j ≤ cidL3len (c 1) + cidL4len (c 1) + 1, c j = c' j) :
    quicDecode af c = quicDecode af c' := by
  have second : c 1 = c' 1 := same 1 (by omega)
  have address := @shiftCopy_congr c c' (cidL3len (c 1)) 1 (4 + famLen af - cidL3len (c 1))
    ⟨QuicServer.zero.setWildcard (cidL3len (c 1) <<< 3).toUInt16, [], []⟩
    fun j _ hi => same j (by omega)
  unfold quicDecode
  dsimp only
  rw [← second, address]
  split
  · exact shiftCopy_congr _ _ _ _ fun j _ hi => same j (by omega)
  · rfl

/-- While the address stays within the family's part plus the port, the wildcard keeps
the value stored before the loops. -/
theorem quicDecode_wildcard (af : Int) (c : Nat → UInt8) (h : cidL3len (c 1) ≤ famLen af + 2) :
    (quicDecode af c).qsvr.wildcard = (cidL3len (c 1) <<< 3).toUInt16 := by
  have low : (quicDecode af c).qsvr.mem[0] = (cidL3len (c 1) <<< 3).toUInt16.toUInt8 := by
    rw [quicDecode_mem _ _ (by omega)]
    dsimp only
    rw [if_neg (by omega), if_neg (by omega), QuicServer.setWildcard_mem _ _ (by omega)]
    rfl
  have high : (quicDecode af c).qsvr.mem[1] = ((cidL3len (c 1) <<< 3).toUInt16 >>> 8).toUInt8 := by
    rw [quicDecode_mem _ _ (by omega)]
    dsimp only
    rw [if_neg (by omega), if_neg (by omega), QuicServer.setWildcard_mem _ _ (by omega)]
    rfl
  rw [QuicServer.wildcard, low, high, toUInt16_bytes]

theorem quicDecode_port_bytes (af : Int) (c : Nat → UInt8) (h : cidL3len (c 1) ≤ famLen af) :
    (quicDecode af c).qsvr.mem[2] = (if cidL4len (c 1) ≠ 0 then
        straddle (c (cidL3len (c 1) + 1)) (c (cidL3len (c 1) + 2)) else 0) ∧
      (quicDecode af c).qsvr.mem[3] = (if cidL4len (c 1) ≠ 0 then
        straddle (c (cidL3len (c 1) + 2)) (c (cidL3len (c 1) + 3)) else 0) := by
  rw [quicDecode_mem _ _ (by omega), quicDecode_mem _ _ (by omega)]
  dsimp only
  by_cases port : cidL4len (c 1) = 0
  · -- no port: offsets 2 and 3 keep the zeros of the `memset`
    simp only [port, ne_eq, not_true_eq_false, false_and, if_false]
    rw [if_neg (by omega), if_neg (by omega), QuicServer.setWildcard_mem _ _ (by omega),
      QuicServer.setWildcard_mem _ _ (by omega)]
    simp
  · simp only [port, ne_eq, not_false_eq_true, true_and, if_true]
    rw [if_pos (by omega), if_pos (by omega)]
    constructor <;> congr 2 <;> omega

namespace QuicServer

theorem addr_getD (q : QuicServer) {k : Nat} (hk : k < 16) : q.addr.getD k 0 = q.mem[4 + k] := by
  simp [addr, List.getD_eq_getElem?_getD, Nat.add_comm, hk]

theorem addrByte_natCast (q : QuicServer) {k : Nat} (hk : k < 16) :
    q.addrByte (k : Int) = q.addr.getD k 0 := by
  have offset : ((k : Int) + 4).toNat = 4 + k := by omega
  rw [addr_getD q hk]
  unfold addrByte
  rw [if_pos (by omega), offset]
  simp [List.getD_eq_getElem?_getD, show 4 + k < 20 by omega]

end QuicServer

/-- The address bytes after the decoding: the bytes straddling the DCID at the end of the
family's part of `addr`, zero elsewhere. -/
theorem quicDecode_addr (af : Int) (c : Nat → UInt8) (h : cidL3len (c 1) ≤ famLen af) {k : Nat}
    (hk : k < 16) :
    (quicDecode af c).qsvr.addr.getD k 0 =
      if famLen af - cidL3len (c 1) ≤ k ∧ k < famLen af then
        straddle (c (1 + (k - (famLen af - cidL3len (c 1)))))
          (c (2 + (k - (famLen af - cidL3len (c 1)))))
      else 0 := by
  have fam : famLen af ≤ 16 := by unfold famLen; split <;> omega
  rw [QuicServer.addr_getD _ hk, quicDecode_mem _ _ (by omega)]
  dsimp only
  rw [if_neg (by omega)]
  by_cases inside : famLen af - cidL3len (c 1) ≤ k ∧ k < famLen af
  · rw [if_pos (by omega), if_pos inside]
    congr 2 <;> omega
  · rw [if_neg (by omega), if_neg inside, QuicServer.setWildcard_mem _ _ (by omega),
      if_neg (by omega), if_neg (by omega), QuicServer.zero_mem]


/-! ## Parsing a header that carries a DCID -/

theorem seven_le_shortCidlen (b : UInt8) : dpvsQuicDcidBytesMin ≤ shortCidlen b := by
  unfold shortCidlen dpvsQuicDcidBytesMin
  omega

/-- A short header implies at most six bytes beyond the server information the second
byte announces. -/
theorem shortCidlen_le (b : UInt8) : shortCidlen b ≤ cidL3len b + cidL4len b + 6 := by
  have three : (0x3 : UInt8).toNat = 2 ^ 2 - 1 := rfl
  have seven : (0x7 : UInt8).toNat = 2 ^ 3 - 1 := rfl
  unfold shortCidlen cidL3len cidL4len
  rw [UInt8.toNat_and, UInt8.toNat_and, three, seven, Nat.and_two_pow_sub_one_eq_mod,
    Nat.and_two_pow_sub_one_eq_mod]
  split <;> omega

/-- A long header of version 0 or 1 with a DCID of 7 to 20 bytes is decoded from the
DCID, read on into the rest of the packet. -/
theorem quicParseServer_long (af : Int) {b0 v : UInt8} {cid : List UInt8} (rest : List UInt8)
    (form : b0 &&& 0x80 ≠ 0) (fixed : b0 &&& 0x40 ≠ 0) (version : v ≤ 1)
    (long : dpvsQuicDcidBytesMin ≤ cid.length) (short : cid.length ≤ 20) :
    quicParseServer af (longHeader b0 v cid rest) =
      .decoded cid.length (quicDecode af fun j => (cid ++ rest).getD j 0) := by
  have word : beWord ((longHeader b0 v cid rest).drop 1 |>.take 4) = v.toNat := by
    simp [longHeader, beWord]
  have size : (cid.length.toUInt8).toNat = cid.length := by
    rw [Nat.toUInt8_eq, UInt8.toNat_ofNat']
    omega
  have version' : v.toNat ≤ 1 := UInt8.le_iff_toNat_le.mp version
  unfold quicParseServer dpvsQuicDcidBytesMin at *
  simp only [longHeader, List.length_cons, List.length_append, List.getD_cons_zero] at word ⊢
  rw [if_neg (by omega), if_neg fixed, if_pos form, if_neg (by omega)]
  simp only [List.getD_cons_succ, List.getD_cons_zero, size]
  rw [if_neg (by omega), if_neg (by omega), if_neg (by omega)]
  congr
  funext j
  rw [show 6 + j = j + 1 + 1 + 1 + 1 + 1 + 1 by omega]
  simp only [List.getD_cons_succ]

/-- A short header whose second DCID byte implies no more bytes than the packet has is
decoded from the DCID, read on into the rest of the packet. -/
theorem quicParseServer_short (af : Int) {b0 x : UInt8} {cid : List UInt8} (rest : List UInt8)
    (form : b0 &&& 0x80 = 0) (fixed : b0 &&& 0x40 ≠ 0) (long : dpvsQuicDcidBytesMin ≤ cid.length)
    (fits : shortCidlen (cid.getD 1 0) ≤ cid.length + 1) :
    quicParseServer af (b0 :: (cid ++ x :: rest)) =
      .decoded (shortCidlen (cid.getD 1 0)) (quicDecode af fun j => (cid ++ x :: rest).getD j 0) := by
  have second : (b0 :: (cid ++ x :: rest)).getD 2 0 = cid.getD 1 0 := by
    obtain ⟨c0, c1, tail, rfl⟩ : ∃ c0 c1 tail, cid = c0 :: c1 :: tail := by
      match cid, long with
      | c0 :: c1 :: tail, _ => exact ⟨c0, c1, tail, rfl⟩
    rfl
  have atLeast := seven_le_shortCidlen (cid.getD 1 0)
  have seven : dpvsQuicDcidBytesMin = 7 := rfl
  unfold quicParseServer
  simp only [List.length_cons, List.length_append, List.getD_cons_zero, second]
  rw [if_neg (by omega), if_neg fixed, if_neg (by simpa using form), if_neg (by omega)]
  have shift : (fun j => (b0 :: (cid ++ x :: rest)).getD (1 + j) 0) =
      fun j => (cid ++ x :: rest).getD j 0 := by
    funext j
    rw [Nat.add_comm, List.getD_cons_succ]
  split
  · rw [if_neg (by omega), shift]
  · rw [shift, show shortCidlen (cid.getD 1 0) = dpvsQuicDcidBytesMin by omega]

/-- The first `n` bytes of a buffer, followed by anything, read as the buffer. -/
theorem dcid_getD (cid : Nat → UInt8) {n j : Nat} (rest : List UInt8) (hj : j < n) :
    (dcid cid n ++ rest).getD j 0 = cid j := by
  have inside : j < (dcid cid n).length := by simpa [dcid] using hj
  rw [List.getD_eq_getElem?_getD, List.getElem?_append_left inside]
  simp [dcid, hj]


/-- The decoding always reads DCID index `l3len + l4len + 1`, whatever the number of bytes
pulled: a long header whose length byte is at most that index is read past its DCID. -/
theorem quicDecode_reads_last (af : Int) (c : Nat → UInt8) :
    cidL3len (c 1) + cidL4len (c 1) + 1 ∈ (quicDecode af c).reads := by
  have pos : 1 ≤ cidL3len (c 1) := by unfold cidL3len; omega
  unfold quicDecode
  dsimp only
  split
  · next port =>
    -- the second port round reads `1 + l3len + 1` and the byte after it
    rw [shiftCopy_reads, shiftCopy_reads, cidL4len_eq_two port]
    simp only [List.mem_append, List.mem_flatMap, List.mem_range', List.mem_cons]
    exact .inr ⟨1 + cidL3len (c 1) + 1, ⟨1, by omega, by omega⟩, .inr (.inl (by omega))⟩
  · next noPort =>
    -- the last address round reads `l3len` and the byte after it
    rw [shiftCopy_reads]
    simp only [List.mem_append, List.mem_flatMap, List.mem_range', List.mem_cons]
    refine .inr ⟨cidL3len (c 1), ⟨cidL3len (c 1) - 1, by omega, by omega⟩, .inr (.inl ?_)⟩
    simp only [ne_eq, Decidable.not_not] at noPort
    omega

/-! ## The generator's cells -/

/-- The signed shift of a `char` and the mask give the high nibble all the same. -/
theorem charHighNibble_eq (b : UInt8) : charHighNibble b = b >>> 4 := by
  unfold charHighNibble
  apply UInt8.toBitVec_inj.mp
  simp only [Int8.toBitVec_toUInt8, Int8.toBitVec_and, Int8.toBitVec_shiftRight,
    UInt8.toBitVec_shiftRight, UInt8.toBitVec_toInt8]
  ext i hi
  simp only [BitVec.getElem_and]
  interval_cases i <;> simp [BitVec.getElem_sshiftRight]

/-- Round `i` of the address loop writes cell `2 + i`, with `l3addr` moved on by the
rounds before it. -/
theorem genAddrLoop_apply (ip : Int → UInt8) (l3len n : Nat) :
    ∀ (i : Nat) (p : Int) (cid : Nat → UInt8) (j : Nat),
      genAddrLoop ip l3len n i p cid j =
        if 2 + i ≤ j ∧ j < 2 + i + n then genAddrCell ip l3len (j - 2) (p + ((j - 2 - i : Nat) : Int))
        else cid j := by
  induction n with
  | zero => intro i p cid j; rw [if_neg (by omega)]; rfl
  | succ n ih =>
    intro i p cid j
    rw [genAddrLoop, ih]
    by_cases here : j = 2 + i
    · subst here
      simp
    · by_cases later : 2 + (i + 1) ≤ j ∧ j < 2 + (i + 1) + n
      · rw [if_pos later, if_pos (by omega)]
        congr 1
        omega
      · rw [if_neg later, if_neg (by omega), Function.update_of_ne here]

theorem genPortCells_of_lt {l3len j : Nat} (port : UInt16) (cid : Nat → UInt8)
    (h : j < l3len + 1) : genPortCells l3len port cid j = cid j := by
  simp only [genPortCells]
  rw [Function.update_of_ne (by omega), Function.update_of_ne (by omega),
    Function.update_of_ne (by omega), Function.update_of_ne (by omega)]

/-- The cell the port's top nibble goes into keeps its high nibble. -/
theorem genPortCells_first (l3len : Nat) (port : UInt16) (cid : Nat → UInt8) :
    genPortCells l3len port cid (l3len + 1) =
      (cid (l3len + 1) &&& (0xf0 : UInt8)) ||| ((port >>> 12) &&& (0xf : UInt16)).toUInt8 := by
  simp only [genPortCells]
  rw [Function.update_of_ne (by omega), Function.update_of_ne (by omega)]
  simp

theorem genPortCells_second (l3len : Nat) (port : UInt16) (cid : Nat → UInt8) :
    genPortCells l3len port cid (l3len + 2) = (((port <<< 4) >>> 8) &&& (0xff : UInt16)).toUInt8 := by
  simp only [genPortCells]
  rw [Function.update_of_ne (by omega)]
  simp

theorem genPortCells_third (l3len : Nat) (port : UInt16) (cid : Nat → UInt8) :
    genPortCells l3len port cid (l3len + 3) = ((port <<< 4) &&& (0xff : UInt16)).toUInt8 := by
  simp [genPortCells]


/-! ### The header byte -/

/-- The three fields of the header byte: the address nibble below, the port flag at bit 4,
the length in the top three bits. -/
theorem headerByte_fields (y f x : UInt8) :
    let h := ((y &&& 0x7) <<< 5) ||| ((f &&& 0x1) <<< 4) ||| (x >>> 4)
    h &&& (0xf : UInt8) = x >>> 4 ∧ (h >>> 5) &&& (0x7 : UInt8) = y &&& 0x7 ∧
      h &&& (0x10 : UInt8) = (f &&& 0x1) <<< 4 := by
  refine ⟨?_, ?_, ?_⟩ <;>
  · apply UInt8.toBitVec_inj.mp
    simp only [UInt8.toBitVec_and, UInt8.toBitVec_or, UInt8.toBitVec_shiftRight,
      UInt8.toBitVec_shiftLeft]
    ext i hi
    interval_cases i <;> simp

theorem genHeader_low (l3len l4len : Nat) (x : UInt8) :
    genHeader l3len l4len x &&& (0xf : UInt8) = x >>> 4 := by
  unfold genHeader
  rw [charHighNibble_eq]
  exact (headerByte_fields _ _ x).1

theorem cidL3len_genHeader {l3len : Nat} (l4len : Nat) (x : UInt8) (pos : 1 ≤ l3len)
    (le : l3len ≤ 8) : cidL3len (genHeader l3len l4len x) = l3len := by
  have seven : (0x7 : UInt8).toNat = 2 ^ 3 - 1 := rfl
  unfold cidL3len genHeader
  rw [charHighNibble_eq, (headerByte_fields _ _ x).2.1, UInt8.toNat_and, seven,
    Nat.and_two_pow_sub_one_eq_mod, Nat.toUInt8_eq, UInt8.toNat_ofNat']
  omega

theorem cidL4len_genHeader (l3len : Nat) {l4len : Nat} (x : UInt8) (l4 : l4len = 0 ∨ l4len = 2) :
    cidL4len (genHeader l3len l4len x) = l4len := by
  unfold cidL4len genHeader
  rw [charHighNibble_eq, (headerByte_fields _ _ x).2.2]
  rcases l4 with rfl | rfl <;> decide

/-! ### The cells of the server information -/

/-- The four nibbles of the port, as the generator shifts and masks them. -/
theorem portNibbles (port : UInt16) :
    ((port >>> 12) &&& (0xf : UInt16)).toUInt8 = (port >>> 8).toUInt8 >>> 4 ∧
      (((port <<< 4) >>> 8) &&& (0xff : UInt16)).toUInt8 >>> 4 = (port >>> 8).toUInt8 &&& 0xf ∧
      (((port <<< 4) >>> 8) &&& (0xff : UInt16)).toUInt8 &&& (0xf : UInt8) = port.toUInt8 >>> 4 ∧
      ((port <<< 4) &&& (0xff : UInt16)).toUInt8 >>> 4 = port.toUInt8 &&& 0xf := by
  refine ⟨?_, ?_, ?_, ?_⟩ <;>
  · apply UInt8.toBitVec_inj.mp
    simp only [UInt8.toBitVec_and, UInt8.toBitVec_shiftRight, UInt16.toBitVec_toUInt8,
      UInt16.toBitVec_and, UInt16.toBitVec_shiftRight, UInt16.toBitVec_shiftLeft]
    ext i hi
    interval_cases i <;> simp

theorem genAddrCell_high (ip : Int → UInt8) (l3len i : Nat) (p : Int) :
    genAddrCell ip l3len i p >>> 4 = ip p &&& 0xf := by
  unfold genAddrCell
  split
  · exact Nibble.shiftLeft_shiftRight _
  · rw [Nibble.or_shiftRight_high (by rw [charHighNibble_eq, Nibble.shiftRight_shiftRight]),
      Nibble.shiftLeft_shiftRight]

theorem genAddrCell_low (ip : Int → UInt8) {l3len i : Nat} (p : Int) (h : i ≠ l3len - 1) :
    genAddrCell ip l3len i p &&& (0xf : UInt8) = ip (p + 1) >>> 4 := by
  unfold genAddrCell
  rw [if_neg h, Nibble.or_and_low (Nibble.shiftLeft_and_low _), charHighNibble_eq,
    Nibble.shiftRight_and_low]

section Cells

variable (af : Int) (l3len l4len : Nat) (a : InetAddr) (port : UInt16) (rd : List UInt8)
  (buf : Nat → UInt8)

/-- Below the port cells the generator's cells are the header and the address loop's. -/
theorem genServerCells_of_le {j : Nat} (hj : j ≤ l3len) :
    genServerCells af l3len l4len a port rd buf j =
      genAddrLoop (inetAddrByte a) l3len l3len 0 ((famLen af : Int) - l3len)
        (Function.update (Function.update buf 0 (rd.getD 0 0)) 1
          (genHeader l3len l4len (inetAddrByte a ((famLen af : Int) - l3len)))) j := by
  unfold genServerCells
  rw [Function.update_of_ne (by omega)]
  split
  · exact genPortCells_of_lt _ _ (by omega)
  · rfl

theorem genServerCells_one (pos : 1 ≤ l3len) :
    genServerCells af l3len l4len a port rd buf 1 =
      genHeader l3len l4len (inetAddrByte a ((famLen af : Int) - l3len)) := by
  rw [genServerCells_of_le _ _ _ _ _ _ _ pos, genAddrLoop_apply, if_neg (by omega)]
  simp

theorem genServerCells_addr {i : Nat} (hi : i + 1 < l3len) :
    genServerCells af l3len l4len a port rd buf (2 + i) =
      genAddrCell (inetAddrByte a) l3len i ((famLen af : Int) - l3len + i) := by
  rw [genServerCells_of_le _ _ _ _ _ _ _ (by omega), genAddrLoop_apply, if_pos (by omega)]
  simp

/-- The cell after the address keeps the last address nibble on top, whatever the port
or the random nibble does to its low nibble. -/
theorem genServerCells_last_high (pos : 1 ≤ l3len) (l4 : l4len = 0 ∨ l4len = 2) :
    genServerCells af l3len l4len a port rd buf (l3len + 1) >>> 4 =
      inetAddrByte a ((famLen af : Int) - l3len + (l3len - 1 : Nat)) &&& 0xf := by
  have loop : genAddrLoop (inetAddrByte a) l3len l3len 0 ((famLen af : Int) - l3len)
      (Function.update (Function.update buf 0 (rd.getD 0 0)) 1
        (genHeader l3len l4len (inetAddrByte a ((famLen af : Int) - l3len)))) (l3len + 1) >>> 4 =
      inetAddrByte a ((famLen af : Int) - l3len + (l3len - 1 : Nat)) &&& 0xf := by
    rw [genAddrLoop_apply, if_pos (by omega), genAddrCell_high]
    congr 2
  unfold genServerCells
  rcases l4 with rfl | rfl
  · -- no port: the random nibble goes into this cell
    rw [Function.update_self, Nibble.or_shiftRight_high (Nibble.and_low_shiftRight _)]
    simpa using loop
  · -- a port: its top nibble replaces the low nibble of this cell
    rw [Function.update_of_ne (by omega), if_pos (by omega), genPortCells_first,
      Nibble.or_shiftRight_high (by rw [(portNibbles port).1, Nibble.shiftRight_shiftRight]),
      Nibble.and_high_shiftRight, loop]

theorem genServerCells_port (l4 : l4len = 2) :
    genServerCells af l3len l4len a port rd buf (l3len + 1) &&& (0xf : UInt8) =
        (port >>> 8).toUInt8 >>> 4 ∧
      genServerCells af l3len l4len a port rd buf (l3len + 2) =
        (((port <<< 4) >>> 8) &&& (0xff : UInt16)).toUInt8 ∧
      genServerCells af l3len l4len a port rd buf (l3len + 3) >>> 4 = port.toUInt8 &&& 0xf := by
  subst l4
  unfold genServerCells
  rw [if_pos (by omega)]
  refine ⟨?_, ?_, ?_⟩
  · rw [Function.update_of_ne (by omega), genPortCells_first,
      Nibble.or_and_low (Nibble.and_high_and_low _), (portNibbles port).1,
      Nibble.shiftRight_and_low]
  · rw [Function.update_of_ne (by omega), genPortCells_second]
  · rw [Function.update_self, genPortCells_third,
      Nibble.or_shiftRight_high (Nibble.and_low_shiftRight _), (portNibbles port).2.2.2]

end Cells


/-! ## The generator's IDs decoded -/

theorem inetAddrByte_natCast (a : InetAddr) (k : Nat) : inetAddrByte a (k : Int) = a.bytes.getD k 0 := by
  simp [inetAddrByte]

/-- Below the `memcpy`, the buffer after a successful call holds the generator's cells. -/
theorem quicCidGenerator_cells {af : Int} {cidlen l3len l4len : Nat} {a : InetAddr} {port : UInt16}
    {rd : List UInt8} {buf cid : Nat → UInt8}
    (gen : quicCidGenerator af cidlen l3len l4len a port rd buf = some cid) {j : Nat}
    (hj : j < l3len + l4len + 2) : cid j = genServerCells af l3len l4len a port rd buf j := by
  unfold quicCidGenerator at gen
  dsimp only at gen
  split at gen
  · cases gen
  · split at gen
    · cases gen
    · obtain rfl := Option.some.inj gen.symm
      dsimp only
      rw [if_neg (by omega)]

section Generated

variable {af : Int} {l3len l4len : Nat} (a : InetAddr) (port : UInt16) (rd : List UInt8)
  (buf : Nat → UInt8)

/-- The bytes straddling the address cells are the address bytes the generator read. -/
theorem genServerCells_straddle (pos : 1 ≤ l3len) (l4 : l4len = 0 ∨ l4len = 2) {i : Nat}
    (hi : i < l3len) :
    straddle (genServerCells af l3len l4len a port rd buf (1 + i))
      (genServerCells af l3len l4len a port rd buf (2 + i)) =
      inetAddrByte a ((famLen af : Int) - l3len + i) := by
  apply Nibble.straddle_eq
  · -- the low nibble of cell `1 + i`: the header's, or the address loop's round `i - 1`
    rcases i with _ | k
    · rw [genServerCells_one _ _ _ _ _ _ _ pos, genHeader_low]
      simp
    · rw [show 1 + (k + 1) = 2 + k by omega, genServerCells_addr _ _ _ _ _ _ _ (by omega),
        genAddrCell_low _ _ (by omega)]
      congr 2
      push_cast
      ring
  · -- the high nibble of cell `2 + i`: the address loop's round `i`, or the last cell
    by_cases inside : i + 1 < l3len
    · rw [genServerCells_addr _ _ _ _ _ _ _ inside, genAddrCell_high]
    · rw [show 2 + i = l3len + 1 by omega, genServerCells_last_high _ _ _ _ _ _ _ pos l4]
      congr 3
      omega

/-- The bytes straddling the port cells are the port in network order. -/
theorem genServerCells_port_straddle (l4 : l4len = 2) :
    straddle (genServerCells af l3len l4len a port rd buf (l3len + 1))
        (genServerCells af l3len l4len a port rd buf (l3len + 2)) = (port >>> 8).toUInt8 ∧
      straddle (genServerCells af l3len l4len a port rd buf (l3len + 2))
        (genServerCells af l3len l4len a port rd buf (l3len + 3)) = port.toUInt8 := by
  obtain ⟨first, second, third⟩ := genServerCells_port af l3len l4len a port rd buf l4
  exact ⟨Nibble.straddle_eq first (by rw [second]; exact (portNibbles port).2.1),
    Nibble.straddle_eq (by rw [second]; exact (portNibbles port).2.2.1) third⟩

end Generated

/-- The two bytes of a port in network order, loaded on a little-endian host, are
`htons` of it. -/
theorem bytes_htons (p : UInt16) : (p >>> 8).toUInt8.toUInt16 ||| (p.toUInt8.toUInt16 <<< 8) = htons p := by
  unfold htons Dpvs.Sa.bswap16
  apply UInt16.toBitVec_inj.mp
  simp only [UInt16.toBitVec_or, UInt16.toBitVec_shiftLeft, UInt16.toBitVec_shiftRight,
    UInt8.toBitVec_toUInt16, UInt16.toBitVec_toUInt8, UInt16.toBitVec_and]
  ext i hi
  interval_cases i <;> simp

/-! ## Matching a destination -/

/-- The compare loop holds iff the two sides agree on every byte it walks. -/
theorem cmpLoop_fst (p1 p2 : Int → UInt8) (n : Nat) :
    ∀ k : Int, (cmpLoop p1 p2 n k).1 = true ↔ ∀ i < n, p1 (k + i) = p2 (k + i) := by
  induction n with
  | zero => intro k; simp [cmpLoop]
  | succ n ih =>
    intro k
    unfold cmpLoop
    by_cases same : p1 k = p2 k
    · rw [if_neg (not_not_intro same)]
      dsimp only
      rw [ih (k + 1)]
      constructor
      · -- the first byte agrees, the rest by the loop after it
        intro rest i hi
        rcases i with _ | i
        · simpa using same
        · have := rest i (by omega)
          rwa [show k + 1 + (i : Int) = k + ((i + 1 : Nat) : Int) by push_cast; ring] at this
      · intro all i hi
        have := all (i + 1) (by omega)
        rwa [show k + ((i + 1 : Nat) : Int) = k + 1 + (i : Int) by push_cast; ring] at this
    · rw [if_pos same]
      simp only [Bool.false_eq_true, false_iff, not_forall]
      exact ⟨0, by omega, by simpa using same⟩

/-- The loop reads the first offset whenever it has a byte to compare. -/
theorem cmpLoop_mem (p1 p2 : Int → UInt8) {n : Nat} (k : Int) (pos : 0 < n) :
    k ∈ (cmpLoop p1 p2 n k).2 := by
  obtain ⟨m, rfl⟩ : ∃ m, n = m + 1 := ⟨n - 1, by omega⟩
  unfold cmpLoop
  split <;> simp

/-- With a wildcard of `8 * l3len`, the match is the compare loop over the last `l3len`
bytes of the destination's family, then the port test. -/
theorem quicServerMatch_eq (q : QuicServer) (d : Dest) {l3len : Nat}
    (wild : q.wildcard.toNat = 8 * l3len) (pos : 1 ≤ l3len) :
    quicServerMatch q d =
      let r := cmpLoop (destAddrByte d) q.addrByte l3len ((famLen d.af : Int) - l3len)
      if !r.1 then (false, r.2) else if q.port = 0 then (true, r.2) else (q.port == d.port, r.2) := by
  have set : q.wildcard ≠ 0 := by
    intro zero
    rw [zero] at wild
    simp at wild
    omega
  have whole : q.wildcard % 8 = 0 := by
    apply UInt16.toNat_inj.mp
    rw [UInt16.toNat_mod, wild]
    simp
  have len : (q.wildcard >>> 3).toNat = l3len := by
    rw [UInt16.toNat_shiftRight, wild, Nat.shiftRight_eq_div_pow]
    simp
  unfold quicServerMatch
  rw [if_neg (by rintro (zero | odd) <;> contradiction), len]


theorem famLen_le (af : Int) : famLen af ≤ 16 := by
  unfold famLen
  split <;> omega

theorem destAddrByte_natCast (d : Dest) (k : Nat) : destAddrByte d (k : Int) = d.addr.bytes.getD k 0 := by
  simp [destAddrByte]

/-- The match of a structure with a wildcard of `8 * l3len`, at most the family's length:
the last `l3len` bytes of the family's part of the two addresses agree, and the structure
has no port or the destination's. -/
theorem quicServerMatch_fst_iff (q : QuicServer) (d : Dest) {l3len : Nat}
    (wild : q.wildcard.toNat = 8 * l3len) (pos : 1 ≤ l3len) (fam : l3len ≤ famLen d.af) :
    (quicServerMatch q d).1 = true ↔
      (∀ k, famLen d.af - l3len ≤ k → k < famLen d.af → d.addr.bytes.getD k 0 = q.addr.getD k 0) ∧
        (q.port = 0 ∨ q.port = d.port) := by
  have sixteen := famLen_le d.af
  have bytes : (cmpLoop (destAddrByte d) q.addrByte l3len ((famLen d.af : Int) - l3len)).1 = true ↔
      ∀ k, famLen d.af - l3len ≤ k → k < famLen d.af → d.addr.bytes.getD k 0 = q.addr.getD k 0 := by
    rw [cmpLoop_fst]
    constructor
    · intro all k lo hi
      have := all (k - (famLen d.af - l3len)) (by omega)
      rwa [show (famLen d.af : Int) - l3len + ((k - (famLen d.af - l3len) : Nat) : Int) = (k : Int) by
        omega, destAddrByte_natCast, QuicServer.addrByte_natCast _ (by omega)] at this
    · intro all i hi
      rw [show (famLen d.af : Int) - l3len + (i : Int) = ((famLen d.af - l3len + i : Nat) : Int) by
        omega, destAddrByte_natCast, QuicServer.addrByte_natCast _ (by omega)]
      exact all _ (by omega) (by omega)
  rw [quicServerMatch_eq q d wild pos, ← bytes]
  dsimp only
  cases (cmpLoop (destAddrByte d) q.addrByte l3len ((famLen d.af : Int) - l3len)).1
  · simp
  · by_cases none : q.port = 0 <;> simp [none]

/-- A packet that carries a DCID of 7 to 20 bytes holding its server information, and not
implying more bytes than it has, is decoded from that DCID. -/
theorem quicParseServer_of_dcid (af : Int) {cid : Nat → UInt8} {n : Nat} {pl : List UInt8}
    (pkt : QuicDcidPacket (dcid cid n) pl) (long : dpvsQuicDcidBytesMin ≤ n) (short : n ≤ 20)
    (reach : cidL3len (cid 1) + cidL4len (cid 1) + 1 < n) (fits : shortCidlen (cid 1) ≤ n + 1) :
    ∃ pulled, quicParseServer af pl = .decoded pulled (quicDecode af cid) := by
  have length : (dcid cid n).length = n := by simp [dcid]
  have second : ∀ rest, (dcid cid n ++ rest).getD 1 0 = cid 1 := fun rest =>
    dcid_getD cid rest (by omega)
  -- past the server information nothing of the packet is read
  have decodes : ∀ rest, quicDecode af (fun j => (dcid cid n ++ rest).getD j 0) = quicDecode af cid :=
    fun rest => quicDecode_congr af fun j hj => by
      rw [second rest] at hj
      exact dcid_getD cid rest (by omega)
  cases pkt with
  | long b0 v rest form fixed version =>
    rw [quicParseServer_long af rest form fixed version (by omega) (by omega), decodes]
    exact ⟨_, rfl⟩
  | short b0 x rest form fixed =>
    have first : (dcid cid n).getD 1 0 = cid 1 := by simpa using second []
    rw [quicParseServer_short af rest form fixed (by omega) (by rw [first, length]; omega), decodes]
    exact ⟨_, rfl⟩

/-- The wildcard `l3len << 3` of an address length of at most 8. -/
theorem wildcard_toNat {l3len : Nat} (le : l3len ≤ 8) : ((l3len <<< 3).toUInt16).toNat = 8 * l3len := by
  rw [Nat.toUInt16_eq, UInt16.toNat_ofNat', Nat.shiftLeft_eq]
  omega

section Generated

variable {af : Int} {cidlen l3len l4len : Nat} {a : InetAddr} {port : UInt16} {rd : List UInt8}
  {buf cid : Nat → UInt8}

/-- The second byte of a generated ID announces the lengths it was made with. -/
theorem quicCidGenerator_lens (gen : quicCidGenerator af cidlen l3len l4len a port rd buf = some cid)
    (pos : 1 ≤ l3len) (le : l3len ≤ 8) (l4 : l4len = 0 ∨ l4len = 2) :
    cidL3len (cid 1) = l3len ∧ cidL4len (cid 1) = l4len := by
  rw [quicCidGenerator_cells gen (by omega), genServerCells_one _ _ _ _ _ _ _ pos]
  exact ⟨cidL3len_genHeader _ _ pos le, cidL4len_genHeader _ _ l4⟩

/-- Decoding a generated ID gives back the wildcard, the address bytes and the port. -/
theorem quicDecode_generated (gen : quicCidGenerator af cidlen l3len l4len a port rd buf = some cid)
    (pos : 1 ≤ l3len) (le : l3len ≤ 8) (fam : l3len ≤ famLen af) (l4 : l4len = 0 ∨ l4len = 2) :
    let q := (quicDecode af cid).qsvr
    q.wildcard.toNat = 8 * l3len ∧
      (∀ k < 16, q.addr.getD k 0 =
        if famLen af - l3len ≤ k ∧ k < famLen af then a.bytes.getD k 0 else 0) ∧
      q.port = if l4len = 2 then htons port else 0 := by
  have cells := fun j (hj : j < l3len + l4len + 2) => quicCidGenerator_cells gen hj
  obtain ⟨l3, l4'⟩ := quicCidGenerator_lens gen pos le l4
  refine ⟨?_, ?_, ?_⟩
  · rw [quicDecode_wildcard af cid (by omega), l3, wildcard_toNat le]
  · intro k hk
    rw [quicDecode_addr af cid (by omega) hk, l3]
    split
    · next inside =>
      rw [cells _ (by omega), cells _ (by omega),
        genServerCells_straddle a port rd buf pos l4 (show k - (famLen af - l3len) < l3len by omega),
        show (famLen af : Int) - l3len + ((k - (famLen af - l3len) : Nat) : Int) = (k : Int) by omega,
        inetAddrByte_natCast]
    · rfl
  · obtain ⟨two, three⟩ := quicDecode_port_bytes af cid (by omega)
    rw [QuicServer.port, two, three, l3, l4']
    rcases l4 with rfl | rfl
    · simp
    · obtain ⟨high, low⟩ := @genServerCells_port_straddle af l3len 2 a port rd buf rfl
      rw [cells _ (by omega), cells _ (by omega), cells _ (by omega), high, low,
        if_pos (by decide), if_pos (by decide), if_pos rfl]
      exact bytes_htons port

end Generated


/-! ## The round trip -/

/-- An ID from `quic_cid_generator`, carried by a long or a short header, is parsed back
to the server it names, and the server then matches exactly the destinations of the
family with those last address bytes and, when the ID has a port, that port. Every
family other than `AF_INET` takes the sixteen-byte branches, so it holds for them all. -/
theorem quic_cid_round_trip {af : Int} {cidlen l3len l4len : Nat} (l3 : 1 ≤ l3len ∧ l3len ≤ 8 ∧ l3len ≤ famLen af)
    (l4 : l4len = 0 ∨ l4len = 2)
    (len : dpvsQuicDcidBytesMin ≤ cidlen ∧ l3len + l4len + 5 ≤ cidlen ∧ cidlen ≤ 20)
    (a : InetAddr) {p : UInt16} (hp : p ≠ 0) (rdbuf : List UInt8) (buf : Nat → UInt8)
    {cid : Nat → UInt8} (gen : quicCidGenerator af cidlen l3len l4len a p rdbuf buf = some cid)
    {pl : List UInt8} (pkt : QuicDcidPacket (dcid cid cidlen) pl) :
    let r := quicParseServer af pl
    r.ret = .ok ∧ r.qsvr.wildcard.toNat = 8 * l3len ∧
      (∀ k < 16, r.qsvr.addr.getD k 0 =
        if famLen af - l3len ≤ k ∧ k < famLen af then a.bytes.getD k 0 else 0) ∧
      r.qsvr.port = (if l4len = 2 then htons p else 0) ∧
      ∀ d : Dest, d.af = af →
        ((quicServerMatch r.qsvr d).1 = true ↔
          (∀ k, famLen af - l3len ≤ k → k < famLen af → d.addr.bytes.getD k 0 = a.bytes.getD k 0) ∧
            (l4len = 0 ∨ d.port = htons p)) := by
  obtain ⟨pos, le, fam⟩ := l3
  obtain ⟨long, room, short⟩ := len
  obtain ⟨l3', l4'⟩ := quicCidGenerator_lens gen pos le l4
  have implied := shortCidlen_le (cid 1)
  obtain ⟨pulled, parsed⟩ := quicParseServer_of_dcid af pkt long short (by omega) (by omega)
  obtain ⟨wild, addr, port⟩ := quicDecode_generated gen pos le fam l4
  dsimp only
  rw [parsed]
  simp only [ParseRun.decoded]
  refine ⟨trivial, wild, addr, port, ?_⟩
  intro d daf
  rw [quicServerMatch_fst_iff _ d wild pos (by rw [daf]; exact fam), daf, port]
  -- inside the compared range the structure holds the generator's address bytes
  have inside : ∀ k, famLen af - l3len ≤ k → k < famLen af →
      (quicDecode af cid).qsvr.addr.getD k 0 = a.bytes.getD k 0 := fun k lo hi => by
    rw [addr k (by have := famLen_le af; omega), if_pos ⟨lo, hi⟩]
  apply and_congr
  · exact forall_congr' fun k => imp_congr_right fun lo => imp_congr_right fun hi => by
      rw [inside k lo hi]
  · rcases l4 with rfl | rfl
    · simp
    · have set : htons p ≠ 0 := fun zero => hp (Dpvs.Sa.htons_injective (zero.trans rfl))
      simp [set, eq_comm]

/-- 192.168.111.222 as `union inet_addr` stores it. -/
def exampleServer : InetAddr := ⟨0xde6fa8c0, 0, 0, 0⟩

/-- The ID of the example in `quic.h`: `cidlen 10, l3len 2, l4len 2`, port 8029, with
zero random bytes. -/
def exampleCid : Nat → UInt8 :=
  (quicCidGenerator afInet 10 2 2 exampleServer 8029 (List.replicate 7 0) fun _ => 0).getD
    fun _ => 0

theorem quic_cid_round_trip_header_example :
    let r := quicParseServer afInet (longHeader 0xc0 1 (dcid exampleCid 10) [])
    r.ret = .ok ∧ r.qsvr.wildcard.toNat = 8 * 2 ∧
      (∀ k < 16, r.qsvr.addr.getD k 0 =
        if famLen afInet - 2 ≤ k ∧ k < famLen afInet then exampleServer.bytes.getD k 0 else 0) ∧
      r.qsvr.port = (if 2 = 2 then htons 8029 else 0) ∧
      ∀ d : Dest, d.af = afInet →
        ((quicServerMatch r.qsvr d).1 = true ↔
          (∀ k, famLen afInet - 2 ≤ k → k < famLen afInet →
            d.addr.bytes.getD k 0 = exampleServer.bytes.getD k 0) ∧
            (2 = 0 ∨ d.port = htons 8029)) :=
  quic_cid_round_trip ⟨by decide, by decide, by decide⟩ (Or.inr rfl)
    ⟨by decide, by decide, by decide⟩ exampleServer (by decide) (List.replicate 7 0) (fun _ => 0)
    rfl (.long 0xc0 1 [] (by decide) (by decide) (by decide))

/-! ## An IPv4 packet with a longer address -/

/-- Top bits `100` or `101` in the second DCID byte announce five or six address bytes. -/
theorem cidL3len_of_wide {b : UInt8} (wide : 0x80 ≤ b ∧ b < 0xc0) :
    cidL3len b = 5 ∨ cidL3len b = 6 := by
  have lo := UInt8.le_iff_toNat_le.mp wide.1
  have hi := UInt8.lt_iff_toNat_lt.mp wide.2
  have seven : (0x7 : UInt8).toNat = 2 ^ 3 - 1 := rfl
  unfold cidL3len
  rw [UInt8.toNat_and, seven, Nat.and_two_pow_sub_one_eq_mod, UInt8.toNat_shiftRight,
    Nat.shiftRight_eq_div_pow]
  simp only [UInt8.reduceToNat, Nat.reduceMod, Nat.reducePow] at lo hi ⊢
  omega

/-- The compare loop of the match starts at `famLen - l3len` from the address, before it
when the wildcard is longer than the destination's family. -/
theorem quicServerMatch_reads_first (q : QuicServer) (d : Dest) {l3len : Nat}
    (wild : q.wildcard.toNat = 8 * l3len) (pos : 1 ≤ l3len) :
    (famLen d.af : Int) - l3len ∈ (quicServerMatch q d).2 := by
  have first := cmpLoop_mem (destAddrByte d) q.addrByte ((famLen d.af : Int) - l3len)
    (show 0 < l3len by omega)
  rw [quicServerMatch_eq q d wild pos]
  dsimp only
  split
  · exact first
  · split <;> exact first

/-- A long-header IPv4 packet whose second DCID byte announces five or six address bytes is
accepted with a wildcard of 40 or 48, past the 32 bits of an IPv4 address, and
`quic_server_match` then compares bytes before `dest->addr` of every IPv4 destination. -/
theorem quic_parse_ipv4_wildcard_overrun {b0 v : UInt8} {cid : List UInt8} (rest : List UInt8)
    (form : b0 &&& 0x80 ≠ 0) (fixed : b0 &&& 0x40 ≠ 0) (version : v ≤ 1)
    (long : dpvsQuicDcidBytesMin ≤ cid.length) (short : cid.length ≤ 20)
    (wide : 0x80 ≤ cid.getD 1 0 ∧ cid.getD 1 0 < 0xc0) :
    let r := quicParseServer afInet (longHeader b0 v cid rest)
    r.ret = .ok ∧ (r.qsvr.wildcard = 40 ∨ r.qsvr.wildcard = 48) ∧
      ∀ d : Dest, d.af = afInet → ∃ k < 0, k ∈ (quicServerMatch r.qsvr d).2 := by
  have second : (cid ++ rest).getD 1 0 = cid.getD 1 0 := by
    simp only [List.getD_eq_getElem?_getD, List.getElem?_append_left (show 1 < cid.length by
      unfold dpvsQuicDcidBytesMin at long; omega)]
  have l3 := cidL3len_of_wide (second ▸ wide)
  have ipv4 : famLen afInet = 4 := if_pos rfl
  have wild := quicDecode_wildcard afInet (fun j => (cid ++ rest).getD j 0)
    (by rw [ipv4]; omega)
  dsimp only
  rw [quicParseServer_long afInet rest form fixed version long short]
  simp only [ParseRun.decoded]
  refine ⟨trivial, ?_, ?_⟩
  · rw [wild]
    rcases l3 with five | six
    · exact .inl (by rw [five]; rfl)
    · exact .inr (by rw [six]; rfl)
  · intro d daf
    have wide' : (quicDecode afInet fun j => (cid ++ rest).getD j 0).qsvr.wildcard.toNat =
        8 * cidL3len ((cid ++ rest).getD 1 0) := by
      rw [wild, wildcard_toNat (by omega)]
    refine ⟨_, ?_, quicServerMatch_reads_first _ d wide' (by omega)⟩
    rw [daf, ipv4]
    omega

theorem quic_parse_ipv4_wildcard_overrun_five :
    let r := quicParseServer afInet (longHeader 0xc0 1 [0, 0x80, 0, 0, 0, 0, 0] [])
    r.ret = .ok ∧ (r.qsvr.wildcard = 40 ∨ r.qsvr.wildcard = 48) ∧
      ∀ d : Dest, d.af = afInet → ∃ k < 0, k ∈ (quicServerMatch r.qsvr d).2 :=
  quic_parse_ipv4_wildcard_overrun [] (by decide) (by decide) (by decide) (by decide) (by decide)
    ⟨by decide, by decide⟩

end Dpvs.Quic
