import Dpvs.Basic

/-!
# SACK edges of inbound segments

Once the SYN proxy has answered a SYN with its own cookie, the sequence numbers the
client sees differ from the real server's by `delta`. For each segment from the client
`dp_vs_synproxy_dnat_handler` in `src/ipvs/ip_vs_synproxy.c` lowers `ack_seq` by
`delta`, and `syn_proxy_filter_opt_outin` walks the TCP options to lower the edges of
every SACK block in the same way.

The walk is the option loop of the kernel's `tcp_parse_options`. One branch differs:
on a partial option, whose size runs past the option area, it `break`s, which leaves
the `switch` but not the `while`. The loop then goes on two bytes further with the
length left unchanged, so it can run past the option area into the payload.
-/

namespace Dpvs

/-! The option kinds and lengths the walk reads, from `netinet/tcp.h` and
`include/ipvs/proto_tcp.h`; `TCPOLEN_TSTAMP_APPA` is a timestamp option after two `NOP`s. -/

def tcpoptEol : UInt8 := 0

def tcpoptNop : UInt8 := 1

def tcpoptSack : UInt8 := 5

def tcpoptTimestamp : UInt8 := 8

def tcpolenTimestamp : UInt8 := 10

def tcpolenTstampAppa : Int := 12

def tcpOlenSackBase : Nat := 2

def tcpOlenSackPerblock : Nat := 8

/-- A TCP segment as the handler sees it: the 4-bit data offset `doff`, `ack_seq` in
host order, and the bytes after the 20-byte fixed header, the option area and then the
payload. -/
structure TcpSegment where
  doff : Fin 16
  ackSeq : UInt32
  data : List UInt8
  deriving DecidableEq, Repr

/-- `ntohl(*(uint32_t *)(ptr + p))`; `none` is a read past the segment. -/
def readBe32 (bytes : List UInt8) (p : Nat) : Option UInt32 := do
  let b0 ← bytes[p]?
  let b1 ← bytes[p + 1]?
  let b2 ← bytes[p + 2]?
  let b3 ← bytes[p + 3]?
  pure ((b0.toUInt32 <<< 24) ||| (b1.toUInt32 <<< 16) ||| (b2.toUInt32 <<< 8) ||| b3.toUInt32)

/-- `*(uint32_t *)(ptr + p) = htonl(v)`. -/
def writeBe32 (bytes : List UInt8) (p : Nat) (v : UInt32) : List UInt8 :=
  (((bytes.set p (v >>> 24).toUInt8).set (p + 1) (v >>> 16).toUInt8).set (p + 2)
    (v >>> 8).toUInt8).set (p + 3) v.toUInt8

/-- `*tmp = htonl((uint32_t)(ntohl(*tmp) - delta))` for the word at `p`. -/
def seqSubAt (delta : UInt32) (bytes : List UInt8) (p : Nat) : Option (List UInt8) := do
  let old ← readBe32 bytes p
  pure (writeBe32 bytes p (old - delta))

/-- The loop over `n` SACK blocks from `ptr`, lowering both edges of each. -/
def sackBlocks (delta : UInt32) : Nat → Nat → List UInt8 → Option (List UInt8)
  | 0, _, bytes => some bytes
  | n + 1, ptr, bytes => do
    let bytes ← seqSubAt delta bytes ptr
    let bytes ← seqSubAt delta bytes (ptr + 4)
    sackBlocks delta n (ptr + tcpOlenSackPerblock) bytes

/-- A SACK option of at least one block and whole blocks only. -/
def isSackOption (opcode opsize : UInt8) : Bool :=
  opcode == tcpoptSack && opsize.toNat ≥ tcpOlenSackBase + tcpOlenSackPerblock &&
    (opsize.toNat - tcpOlenSackBase) % tcpOlenSackPerblock == 0

/-- The `while (length > 0)` loop of `syn_proxy_filter_opt_outin`, at offset `ptr` with
`length` option bytes left, for at most `fuel` rounds; `none` is a read past the segment
or a loop still running. -/
def filterOptOutinLoop (delta : UInt32) : Nat → List UInt8 → Nat → Int → Option (List UInt8)
  | 0, _, _, _ => none
  | fuel + 1, bytes, ptr, length =>
    if length ≤ 0 then some bytes
    else match bytes[ptr]? with
      | none => none
      | some opcode =>
        if opcode = tcpoptEol then some bytes
        else if opcode = tcpoptNop then filterOptOutinLoop delta fuel bytes (ptr + 1) (length - 1)
        else match bytes[ptr + 1]? with
          | none => none
          | some opsize =>
            if opsize.toNat < 2 then some bytes
            -- the partial option: `break` leaves the switch, and the loop goes on
            else if opsize.toNat > length then filterOptOutinLoop delta fuel bytes (ptr + 2) length
            else if isSackOption opcode opsize then
              sackBlocks delta ((opsize.toNat - tcpOlenSackBase) / tcpOlenSackPerblock)
                (ptr + 2) bytes
            else filterOptOutinLoop delta fuel bytes (ptr + opsize.toNat) (length - opsize.toNat)

/-- `syn_proxy_filter_opt_outin`: the bytes after the fixed header once the SACK edges are
lowered. Each round reads at a larger offset, so one round per byte is enough. -/
def synProxyFilterOptOutin (th : TcpSegment) (delta : UInt32) : Option (List UInt8) :=
  let length : Int := th.doff.val * 4 - 20
  if length = 0 then some th.data
  -- the fast path for a timestamp option alone
  else if length = tcpolenTstampAppa ∧
      readBe32 th.data 0 = some ((tcpoptNop.toUInt32 <<< 24) ||| (tcpoptNop.toUInt32 <<< 16) |||
        (tcpoptTimestamp.toUInt32 <<< 8) ||| tcpolenTimestamp.toUInt32) then some th.data
  else filterOptOutinLoop delta (th.data.length + 1) th.data 0 length

/-- `dp_vs_synproxy_dnat_handler` for the `delta` of the connection's `syn_proxy_seq`. -/
def dpVsSynproxyDnatHandler (tcph : TcpSegment) (delta : UInt32) : Option TcpSegment :=
  if delta ≠ 0 then
    let tcph := { tcph with ackSeq := tcph.ackSeq - delta }
    (synProxyFilterOptOutin tcph delta).map fun data => { tcph with data := data }
  else some tcph

/-! ## Payload taken for a SACK option

Twelve option bytes (`doff = 8`) that each start an option of size 255 are all partial:
the loop steps over them two by two with `length` left at 12 and reaches the payload,
which reads as a SACK option of one block. Its two edges, eight payload bytes, are
lowered by `delta`. -/

/-- A segment whose option area is six partial options and whose payload starts with the
bytes of a SACK option. -/
def partialOptionSegment : TcpSegment :=
  ⟨8, 1000, [5, 0xff, 5, 0xff, 5, 0xff, 5, 0xff, 5, 0xff, 5, 0xff] ++
    [5, 10, 0, 0, 0, 10, 0, 0, 0, 20]⟩

theorem dnat_handler_rewrites_payload :
    partialOptionSegment.doff.val * 4 - 20 = 12 ∧
      partialOptionSegment.data.drop 12 = [5, 10, 0, 0, 0, 10, 0, 0, 0, 20] ∧
      (dpVsSynproxyDnatHandler partialOptionSegment 1).map (·.data.drop 12) =
        some [5, 10, 0, 0, 0, 9, 0, 0, 0, 19] := by
  decide

end Dpvs
