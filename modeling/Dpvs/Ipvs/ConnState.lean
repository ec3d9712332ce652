import Dpvs.Ipvs.Conn

/-!
# Connection states and the destination's counters

A destination counts its connections three ways: `actconns` and `inactconns` for
connections without and with `DPVS_CONN_F_INACTIVE`, `persistconns` for templates.
Five places move the counts: bind and unbind (`src/ipvs/ip_vs_conn.c`), the TCP
and SCTP state machines (`tcp_state_trans` of `src/ipvs/ip_vs_proto_tcp.c`, the
transition of `src/ipvs/ip_vs_proto_sctp.c`), and the SYN-proxy path of
`src/ipvs/ip_vs_synproxy.c`, which marks a connection established when the real
server's SYN-ACK comes back and sends a reused connection back to `SYN_SENT`.

The TCP transition table is the source's; the SCTP one is left out, its next state
being an argument. Health detection (`dp_vs_dest_detected_*`), timeouts and the
saved packets are outside the model.
-/

namespace Dpvs.Conn

/-! ## TCP states (`include/ipvs/proto_tcp.h`) -/

def sNO : UInt16 := 0
def sES : UInt16 := 1
def sSS : UInt16 := 2
def sSR : UInt16 := 3
def sFW : UInt16 := 4
def sTW : UInt16 := 5
def sCL : UInt16 := 6
def sCW : UInt16 := 7
def sLA : UInt16 := 8
def sLI : UInt16 := 9
def sSA : UInt16 := 10

/-- `DPVS_SCTP_S_ESTABLISHED`. -/
def dpvsSctpSEstablished : UInt16 := 8

/-- `tcp_states`: for each of input, output and input-only, the rows of a SYN, a
FIN, an ACK and a RST, each indexed by the current state. -/
def tcpStates : List (List UInt16) :=
  [[sSR, sES, sES, sSR, sSR, sSR, sSR, sSR, sSR, sSR, sSR],
   [sCL, sCW, sSS, sTW, sTW, sTW, sCL, sCW, sLA, sLI, sTW],
   [sCL, sES, sSS, sES, sFW, sTW, sCL, sCW, sCL, sLI, sES],
   [sCL, sCL, sCL, sSR, sCL, sCL, sCL, sCL, sLA, sLI, sSR],
   [sSS, sES, sSS, sSR, sSS, sSS, sSS, sSS, sSS, sLI, sSR],
   [sTW, sFW, sSS, sTW, sFW, sTW, sCL, sTW, sLA, sLI, sTW],
   [sES, sES, sSS, sES, sFW, sTW, sCL, sCW, sLA, sES, sES],
   [sCL, sCL, sSS, sCL, sCL, sTW, sCL, sCL, sCL, sCL, sCL],
   [sSR, sES, sES, sSR, sSR, sSR, sSR, sSR, sSR, sSR, sSR],
   [sCL, sFW, sSS, sTW, sFW, sTW, sCL, sCW, sLA, sLI, sTW],
   [sCL, sES, sSS, sES, sFW, sTW, sCL, sCW, sCL, sLI, sES],
   [sCL, sCL, sCL, sSR, sCL, sCL, sCL, sCL, sLA, sLI, sCL]]

/-- The flag bits of a TCP header that the state machines read. -/
structure TcpFlags where
  syn : Bool
  fin : Bool
  ack : Bool
  rst : Bool
  deriving DecidableEq, Repr

/-- `tcp_state_idx`: the row of a segment, `none` for one with no flag of the four. -/
def tcpStateIdx (th : TcpFlags) : Option Nat :=
  if th.rst then some 3 else if th.syn then some 0 else if th.fin then some 1
  else if th.ack then some 2 else none

/-! ## The shared counter move -/

/-- The tail of both state machines on a change of state: a connection leaving the
established state goes from `actconns` to `inactconns` and becomes inactive; one
entering it goes back. -/
def moveActivity (w : Worker) (h : Nat) (c : DpVsConn) (established : Bool) : Worker :=
  let dest := w.dests c.dest
  if c.flags &&& dpvsConnFInactive = 0 ∧ !established then
    (w.setDest c.dest { dest with actconns := dest.actconns - 1,
                                  inactconns := dest.inactconns + 1 }).modifyConn h
      fun c => { c with flags := c.flags ||| dpvsConnFInactive }
  else if c.flags &&& dpvsConnFInactive ≠ 0 ∧ established then
    (w.setDest c.dest { dest with actconns := dest.actconns + 1,
                                  inactconns := dest.inactconns - 1 }).modifyConn h
      fun c => { c with flags := c.flags &&& ~~~dpvsConnFInactive }
  else w

/-- `tcp_state_trans` for a segment of direction `dir`; `none` as the header is a
segment `mbuf_header_pointer` cannot read. -/
def tcpStateTrans (w : Worker) (h : Nat) (dir : Dir) (th : Option TcpFlags) : Edpvs × Worker :=
  match w.conn? h, th with
  | none, _ => (.ok, w)
  | some _, none => (.invpkt, w)
  | some c, some th =>
    let dest := w.dests c.dest
    let off := if dest.fwdmode = dpvsFwdModeDr ∨ dest.fwdmode = dpvsFwdModeTunnel then 8
      else match dir with
        | .inbound => 0
        | .outbound => 4
    let newState := match tcpStateIdx th with
      | none => sCL
      | some idx => ((tcpStates.getD (off + idx) []).getD c.state.toNat sCL)
    if newState = c.state then (.ok, w)
    else
      let w := w.modifyConn h fun c => { c with state := newState }
      (.ok, moveActivity w h { c with state := newState } (newState = sES))

/-- The state change of the SCTP transition, to the state `nextState` its table
gives. -/
def sctpStateTrans (w : Worker) (h : Nat) (nextState : UInt16) : Worker :=
  match w.conn? h with
  | none => w
  | some c =>
    if nextState = c.state then w
    else (moveActivity w h c (nextState = dpvsSctpSEstablished)).modifyConn h
      fun c => { c with state := nextState }

/-- `dp_vs_synproxy_synack_rcv`: the real server's SYN-ACK on a SYN-proxied connection
in `SYN_SENT` makes it established and moves one count from `inactconns` to
`actconns` without looking at the connection's flag; its RST closes it. -/
def dpVsSynproxySynackRcv (w : Worker) (h : Nat) (th : Option TcpFlags) : Worker :=
  match w.conn? h, th with
  | some c, some th =>
    let proxied := c.flags &&& dpvsConnFSynproxy ≠ 0 ∧ c.state = sSS
    if th.syn ∧ th.ack ∧ !th.rst ∧ proxied then
      let dest := w.dests c.dest
      (w.setDest c.dest { dest with actconns := dest.actconns + 1,
                                    inactconns := dest.inactconns - 1 }).modifyConn h
        fun c => { c with state := sES, flags := c.flags &&& ~~~dpvsConnFInactive }
    else if th.rst ∧ proxied then w.modifyConn h fun c => { c with state := sCL }
    else w
  | _, _ => w

/-- `tcp_conn_reuse_states`: a bit for each state a SYN-proxied connection may be
reused from, by the five `conn_reuse_*` switches. -/
def tcpConnReuseStates (cl tw fw cw la : UInt32) : UInt32 :=
  (cl <<< sCL.toUInt32) ||| (tw <<< sTW.toUInt32) ||| (fw <<< sFW.toUInt32) |||
    (cw <<< sCW.toUInt32) ||| (la <<< sLA.toUInt32)

/-- `dp_vs_synproxy_reuse_conn` with `__syn_proxy_reuse_conn`: a client's new ACK with
a valid cookie on a connection in a reusable state sends it back to `SYN_SENT`
(the saved ACK needs an entry from the mempool, `poolOk`). Neither the flags nor
the counters change. -/
def dpVsSynproxyReuseConn (w : Worker) (h : Nat) (reuseStates : UInt32)
    (freshAck cookieOk poolOk : Bool) : Worker :=
  match w.conn? h with
  | none => w
  | some c =>
    if ((1 : UInt32) <<< c.state.toUInt32) &&& reuseStates ≠ 0 ∧
        c.flags &&& dpvsConnFSynproxy ≠ 0 ∧ freshAck ∧ cookieOk then
      if poolOk then w.modifyConn h fun c => { c with ackNum := 1, state := sSS }
      else w.modifyConn h fun c => { c with ackNum := 0 }
    else w

/-! ## Counting the connections of a destination -/

/-- The live connections bound to destination `id` that pass a test. -/
def boundCount (w : Worker) (id : Nat) (p : DpVsConn → Bool) : Nat :=
  (w.conns.filter fun e => e.2.dest == id && p e.2).length

/-- Connections that `actconns` should count: not templates, not inactive. -/
def isActive (c : DpVsConn) : Bool := !c.isTemplate && c.flags &&& dpvsConnFInactive == 0

/-- Connections that `inactconns` should count. -/
def isInactive (c : DpVsConn) : Bool := !c.isTemplate && c.flags &&& dpvsConnFInactive != 0

/-- The counters of destination `id` are those of the live connections bound to it,
and its reference count is above their number. -/
structure Accounted (w : Worker) (id : Nat) : Prop where
  act : (w.dests id).actconns = boundCount w id isActive
  inact : (w.dests id).inactconns = boundCount w id isInactive
  persist : (w.dests id).persistconns = boundCount w id DpVsConn.isTemplate
  refcnt : (w.dests id).refcnt > boundCount w id fun _ => true

/-- `dp_vs_conn_new` for a destination whose forwarding mode has no transmitter:
the connection is freed at `errout`, and the reference and the count its bind took
stay with the destination. -/
theorem dpVsConnNew_of_noXmit (env : HashEnv) (w : Worker) (param : ConnParam) (destId : Nat)
    (flags : UInt16) (out : NewOutcome) {rport : UInt16}
    (fresh : w.conn? w.nextHandle = none)
    (alloc : out.allocOk = true)
    (port : rportOf param (w.dests destId) flags out.ports = some rport)
    (noLimit : (w.dests destId).maxConn = 0)
    (noXmit : hasXmit (w.dests destId).fwdmode = false) :
    dpVsConnNew env w param destId flags out =
      (none, { w with
        dests := Function.update w.dests destId (bindCounts (w.dests destId)
          ((flags ||| (w.dests destId).connFlags.toUInt16) &&& dpvsConnFTemplate != 0))
        nextHandle := w.nextHandle + 1 }) := by
  let c := newConn param (w.dests destId) destId flags rport
  let w1 : Worker := { w with conns := (w.nextHandle, c) :: w.conns, nextHandle := w.nextHandle + 1 }
  have live : w1.conn? w.nextHandle = some c := by simp [w1, Worker.conn?]
  have bind := dpVsConnBindDest_of_noLimit live (by simpa [c] using noLimit)
  simp only [dpVsConnNew, alloc, port, Bool.not_true, Bool.false_eq_true, if_false]
  rw [bind]
  simp only [w1, c, newConn_dest, newConn_flags, noXmit]
  simp [Worker.freeConn_fresh w fresh, DpVsConn.isTemplate]

/-- A connection to a destination in a forwarding mode without a transmitter
(`DPVS_FWD_LOCALNODE`, `DPVS_FWD_MODE_BYPASS` or any other value) is refused, but
the destination keeps counting it as inactive: accounting that held before no
longer holds. -/
theorem dest_counts_leak_on_notsupp (env : HashEnv) (w : Worker) (param : ConnParam)
    (destId : Nat) (flags : UInt16) (out : NewOutcome)
    (accounted : Accounted w destId)
    (fresh : w.conn? w.nextHandle = none)
    (alloc : out.allocOk = true)
    (port : (rportOf param (w.dests destId) flags out.ports).isSome)
    (notTemplate : (flags ||| (w.dests destId).connFlags.toUInt16) &&& dpvsConnFTemplate = 0)
    (noLimit : (w.dests destId).maxConn = 0)
    (noXmit : hasXmit (w.dests destId).fwdmode = false) :
    (dpVsConnNew env w param destId flags out).1 = none ∧
      ¬ Accounted (dpVsConnNew env w param destId flags out).2 destId := by
  obtain ⟨rport, hport⟩ := Option.isSome_iff_exists.mp port
  rw [dpVsConnNew_of_noXmit env w param destId flags out fresh alloc hport noLimit noXmit]
  refine ⟨rfl, fun after => ?_⟩
  -- the heap is the one before, so only the counter has moved
  have counted := after.inact
  have before := accounted.inact
  simp [notTemplate, bindCounts, boundCount] at counted
  simp [boundCount] at before
  omega

/-- `10.0.0.2:80` in `DPVS_FWD_LOCALNODE` mode, as `dp_vs_dest_new` leaves a new
destination: one reference (the service's), `DPVS_CONN_F_INACTIVE` to pass on, no
limit. -/
def localnodeDest : Dest where
  id := 0
  af := afInet
  addr := InetAddr.ofV4 0x0200000a
  port := 80
  flags := destFAvailable
  connFlags := 0x0200
  weight := 100
  refcnt := 1
  fwdmode := dpvsFwdLocalnode
  actconns := 0
  inactconns := 0
  persistconns := 0
  maxConn := 0
  minConn := 0

/-- A worker with no connection yet. -/
def Worker.empty (dests : Nat → Dest) : Worker := ⟨[], fun _ => [], fun _ => [], dests, 0⟩

/-- A stand-in for `rte_jhash`: the failure comes before any hashing. -/
def zeroHash : HashEnv := ⟨fun _ _ _ _ => 0, fun _ _ => 0, 0⟩

/-- A TCP client `192.168.0.1:1234` of the service `10.0.0.1:80`. -/
def clientParam : ConnParam :=
  ⟨afInet, ipprotoTcp, InetAddr.ofV4 0x0100a8c0, InetAddr.ofV4 0x0100000a, 1234, 80, 0,
    InetAddr.ofV4 0x0100a8c0⟩

/-- The first connection to a `DPVS_FWD_LOCALNODE` destination. -/
theorem dest_counts_leak_on_notsupp_localnode :
    Accounted (Worker.empty fun _ => localnodeDest) 0 ∧
      ((dpVsConnNew zeroHash (Worker.empty fun _ => localnodeDest) clientParam 0 0
          ⟨true, none, .error .resource, true⟩).1 = none ∧
        ¬ Accounted (dpVsConnNew zeroHash (Worker.empty fun _ => localnodeDest) clientParam 0 0
          ⟨true, none, .error .resource, true⟩).2 0) :=
  have accounted : Accounted (Worker.empty fun _ => localnodeDest) 0 :=
    ⟨by decide, by decide, by decide, by decide⟩
  ⟨accounted, dest_counts_leak_on_notsupp zeroHash _ clientParam 0 0 ⟨true, none, .error .resource, true⟩
    accounted rfl rfl (by decide) (by decide) rfl (by decide)⟩

end Dpvs.Conn
