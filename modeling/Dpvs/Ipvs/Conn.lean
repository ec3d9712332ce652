import Dpvs.Ipvs.Dest

/-!
# The connection table of a worker

`src/ipvs/ip_vs_conn.c` keeps every connection of a worker lcore in the hash table
`this_conn_tbl` twice, once under each of its two tuples: the inbound tuple
`client -> virtual` and the outbound tuple `real server -> local`. A tuple is a
`struct conn_tuple_hash` embedded in the connection, so a table entry is a pointer
into the connection, and `tuplehash_to_conn` finds the connection again. Templates
go to the shared table `dp_vs_ct_tbl` instead.

Binding a connection to its destination moves the destination's counters
(`refcnt`, `inactconns`, `persistconns`), and unbinding moves them back by the
connection's flags at that time.

The model keeps the worker's connection objects on a heap, by handle; a freed
connection leaves the heap, and a table entry is the pair of a handle and a
direction. Reading the connection of an entry whose handle is gone is a read of
freed memory, and the functions that can do it return `none`. Timers, the
redirect table, statistics and the `sa_pool` release of SNAT are outside this
model; `rte_jhash` and the seed are parameters.
-/

namespace Dpvs.Conn

/-! ## Constants

`DPVS_CONN_F_*` of `include/conf/conn.h`, the forwarding modes of
`enum dpvs_fwd_mode` and the table size of `ip_vs_conn.c`. -/

def dpvsConnFSynproxy : UInt16 := 0x0010
def dpvsConnFHashed : UInt16 := 0x0100
def dpvsConnFInactive : UInt16 := 0x0200
def dpvsConnFTemplate : UInt16 := 0x0400
def dpvsConnFOnePacket : UInt16 := 0x0800

def dpvsFwdModeNat : UInt32 := 0
def dpvsFwdLocalnode : UInt32 := 1
def dpvsFwdModeTunnel : UInt32 := 2
def dpvsFwdModeDr : UInt32 := 3
def dpvsFwdModeBypass : UInt32 := 4
def dpvsFwdModeFnat : UInt32 := 5
def dpvsFwdModeSnat : UInt32 := 6

def ipprotoIcmp : UInt8 := 1
def ipprotoTcp : UInt8 := 6
def ipprotoIcmpv6 : UInt8 := 58

def dpvsConnTblBits : Nat := 20
def dpvsConnTblSize : Nat := 1 <<< dpvsConnTblBits
def dpvsConnTblMask : UInt32 := (1 <<< (20 : UInt32)) - 1

/-- `DPVS_TCP_S_SYN_SENT`, the state a SYN-proxied connection starts in. -/
def dpvsTcpSSynSent : UInt16 := 2

/-! ## Data -/

/-- `DPVS_CONN_DIR_INBOUND` and `DPVS_CONN_DIR_OUTBOUND`. -/
inductive Dir where
  | inbound
  | outbound
  deriving DecidableEq, Repr

/-- The fields of `struct conn_tuple_hash` that are hashed and compared. -/
structure Tuple where
  af : Int
  proto : UInt8
  saddr : InetAddr
  daddr : InetAddr
  sport : UInt16
  dport : UInt16
  deriving DecidableEq, Repr

/-- `struct dp_vs_conn`, the fields this file reads. `dest` is the destination the
connection was created for: `conn->dest` is only written at the end of a
successful bind, and a connection whose bind fails is freed without reading it. -/
structure DpVsConn where
  af : Int
  proto : UInt8
  flags : UInt16
  state : UInt16
  refcnt : Int
  dest : Nat
  tin : Tuple
  tout : Tuple
  synMbuf : Bool
  synRetryMax : Int
  ackNum : Nat
  deriving DecidableEq, Repr

/-- The tuple a table entry points at. -/
def DpVsConn.tuple (c : DpVsConn) : Dir → Tuple
  | .inbound => c.tin
  | .outbound => c.tout

/-- `dp_vs_conn_is_template`. -/
def DpVsConn.isTemplate (c : DpVsConn) : Bool := c.flags &&& dpvsConnFTemplate != 0

/-- A flag clear in a union of flags is clear in each part. -/
theorem UInt16.and_eq_zero_of_or_left {a b t : UInt16} (clear : (a ||| b) &&& t = 0) :
    a &&& t = 0 := by
  have bits := congrArg UInt16.toBitVec clear
  simp [BitVec.and_or_distrib_right] at bits
  apply UInt16.toBitVec_inj.mp
  simp [bits.1]

/-- A table entry: the connection's handle and which of its tuples is linked. -/
abbrev Entry := Nat × Dir

/-- One worker's view: its live connection objects, its table, the template table,
and the destinations the connections are bound to. -/
structure Worker where
  conns : List (Nat × DpVsConn)
  table : Nat → List Entry
  ctTable : Nat → List Entry
  dests : Nat → Dest
  nextHandle : Nat

/-- The connection behind a handle, if it is still allocated. -/
def Worker.conn? (w : Worker) (h : Nat) : Option DpVsConn :=
  (w.conns.find? fun p => p.1 = h).map Prod.snd

/-- A write to a live connection. -/
def Worker.modifyConn (w : Worker) (h : Nat) (f : DpVsConn → DpVsConn) : Worker :=
  { w with conns := w.conns.map fun p => if p.1 = h then (p.1, f p.2) else p }

/-- `dp_vs_conn_free`: the object goes back to the mempool; its table entries, if any,
stay where they are. -/
def Worker.freeConn (w : Worker) (h : Nat) : Worker :=
  { w with conns := w.conns.filter fun p => p.1 ≠ h }

/-- A write to a destination. -/
def Worker.setDest (w : Worker) (id : Nat) (d : Dest) : Worker :=
  { w with dests := Function.update w.dests id d }

/-! ### What each write leaves alone -/

@[simp] theorem Worker.setDest_conns (w : Worker) (id : Nat) (d : Dest) :
    (w.setDest id d).conns = w.conns := rfl

@[simp] theorem Worker.setDest_table (w : Worker) (id : Nat) (d : Dest) :
    (w.setDest id d).table = w.table := rfl

@[simp] theorem Worker.conn?_setDest (w : Worker) (id : Nat) (d : Dest) (h : Nat) :
    (w.setDest id d).conn? h = w.conn? h := rfl

@[simp] theorem Worker.setDest_dests_self (w : Worker) (id : Nat) (d : Dest) :
    (w.setDest id d).dests id = d := by
  simp [Worker.setDest]

theorem Worker.setDest_dests_ne (w : Worker) {id j : Nat} (d : Dest) (hne : j ≠ id) :
    (w.setDest id d).dests j = w.dests j := by
  simp [Worker.setDest, hne]

@[simp] theorem Worker.modifyConn_dests (w : Worker) (h : Nat) (f : DpVsConn → DpVsConn) :
    (w.modifyConn h f).dests = w.dests := rfl

@[simp] theorem Worker.modifyConn_table (w : Worker) (h : Nat) (f : DpVsConn → DpVsConn) :
    (w.modifyConn h f).table = w.table := rfl

@[simp] theorem Worker.freeConn_dests (w : Worker) (h : Nat) : (w.freeConn h).dests = w.dests := rfl

@[simp] theorem Worker.freeConn_table (w : Worker) (h : Nat) : (w.freeConn h).table = w.table := rfl

@[simp] theorem Worker.conn?_modifyConn_self (w : Worker) (h : Nat) (f : DpVsConn → DpVsConn) :
    (w.modifyConn h f).conn? h = (w.conn? h).map f := by
  unfold Worker.modifyConn Worker.conn?
  induction w.conns with
  | nil => simp
  | cons p l ih =>
    obtain ⟨k, c⟩ := p
    by_cases hk : k = h
    · simp [hk]
    · simpa [hk] using ih

theorem Worker.conn?_modifyConn_ne (w : Worker) {h h' : Nat} (f : DpVsConn → DpVsConn)
    (hne : h' ≠ h) : (w.modifyConn h f).conn? h' = w.conn? h' := by
  unfold Worker.modifyConn Worker.conn?
  induction w.conns with
  | nil => simp
  | cons p l ih =>
    obtain ⟨k, c⟩ := p
    by_cases hk : k = h
    · have hk' : ¬ h = h' := fun same => hne same.symm
      simpa [hk, hk'] using ih
    · by_cases hk' : k = h' <;> simp_all

theorem Worker.conn?_freeConn (w : Worker) (h h' : Nat) :
    (w.freeConn h).conn? h' = if h' = h then none else w.conn? h' := by
  unfold Worker.freeConn Worker.conn?
  induction w.conns with
  | nil => simp
  | cons p l ih =>
    obtain ⟨k, c⟩ := p
    by_cases hk : k = h <;> by_cases hk' : k = h' <;> simp_all

/-- A handle with no live connection: no entry of the heap has it. -/
theorem Worker.keys_ne_of_conn?_none {w : Worker} {h : Nat} (dead : w.conn? h = none) :
    ∀ p ∈ w.conns, p.1 ≠ h := by
  intro p hp same
  simp only [Worker.conn?, Option.map_eq_none_iff, List.find?_eq_none] at dead
  exact dead p hp (by simp [same])

/-- Nothing to write at a handle that is not live. -/
theorem Worker.modifyConn_of_conn?_none {w : Worker} {h : Nat} (dead : w.conn? h = none)
    (f : DpVsConn → DpVsConn) : w.modifyConn h f = w := by
  have keys := Worker.keys_ne_of_conn?_none dead
  unfold Worker.modifyConn
  congr
  conv_rhs => rw [← List.map_id w.conns]
  exact List.map_congr_left fun p hp => by simp [keys p hp]

/-- Nothing to free at a handle that is not live. -/
theorem Worker.freeConn_of_conn?_none {w : Worker} {h : Nat} (dead : w.conn? h = none) :
    w.freeConn h = w := by
  have keys := Worker.keys_ne_of_conn?_none dead
  unfold Worker.freeConn
  congr
  exact List.filter_eq_self.mpr fun p hp => by simp [keys p hp]

/-- A connection allocated at a fresh handle, written to and freed again, leaves the
heap as it was. -/
theorem Worker.freeConn_fresh (w : Worker) {h : Nat} (dead : w.conn? h = none) (c : DpVsConn)
    (f : DpVsConn → DpVsConn) (id : Nat) (d : Dest) (n : Nat) :
    ((({ w with conns := (h, c) :: w.conns, nextHandle := n } : Worker).modifyConn h f).setDest
        id d).freeConn h = { w with dests := Function.update w.dests id d, nextHandle := n } := by
  have keys := Worker.keys_ne_of_conn?_none dead
  have mapped : (w.modifyConn h f).conns = w.conns := by rw [Worker.modifyConn_of_conn?_none dead]
  simp only [Worker.freeConn, Worker.modifyConn, Worker.setDest] at mapped ⊢
  simp only [List.map_cons, if_pos, mapped, List.filter_cons, ne_eq, not_true_eq_false,
    decide_false, Bool.false_eq_true, if_false]
  rw [List.filter_eq_self.mpr fun p mem => by simp [keys p mem]]

/-- `rte_jhash_3words`, `rte_jhash_32b` and the seed `dp_vs_conn_rnd`. -/
structure HashEnv where
  jhash3words : UInt32 → UInt32 → UInt32 → UInt32 → UInt32
  jhash32b : List UInt32 → UInt32 → UInt32
  rnd : UInt32

section Table

variable (env : HashEnv)

/-! ## Hashing -/

/-- `dp_vs_conn_hashkey`. -/
def dpVsConnHashkey (af : Int) (saddr : InetAddr) (sport : UInt16) (daddr : InetAddr)
    (dport : UInt16) (mask : UInt32) : UInt32 :=
  let ports := (sport.toUInt32 <<< (16 : UInt32)) ||| dport.toUInt32
  if af = afInet then env.jhash3words saddr.w0 daddr.w0 ports env.rnd &&& mask
  else if af = afInet6 then env.jhash32b (ports :: saddr.words ++ daddr.words) env.rnd &&& mask
  else 0

/-- The bucket of a tuple. -/
def tupleBucket (t : Tuple) : Nat :=
  (dpVsConnHashkey env t.af t.saddr t.sport t.daddr t.dport dpvsConnTblMask).toNat

/-- `list_del` of an entry: it leaves whichever list holds it. -/
def unlinkEntry (tbl : Nat → List Entry) (e : Entry) : Nat → List Entry :=
  fun i => (tbl i).erase e

/-- `list_add` of an entry at the head of a bucket. -/
def linkEntry (tbl : Nat → List Entry) (i : Nat) (e : Entry) : Nat → List Entry :=
  Function.update tbl i (e :: tbl i)

/-- `__dp_vs_conn_hash`: both tuples at the head of their buckets, inbound first, in
the template table for a template; the table's reference is counted. -/
def dpVsConnHashRaw (w : Worker) (h : Nat) : Edpvs × Worker :=
  match w.conn? h with
  | none => (.ok, w)
  | some c =>
    if c.flags &&& dpvsConnFHashed ≠ 0 then (.exist, w)
    else
      let ihash := tupleBucket env c.tin
      let ohash := tupleBucket env c.tout
      let link := fun tbl => linkEntry (linkEntry tbl ihash (h, .inbound)) ohash (h, .outbound)
      let w := if c.isTemplate then { w with ctTable := link w.ctTable }
        else { w with table := link w.table }
      (.ok, w.modifyConn h fun c => { c with flags := c.flags ||| dpvsConnFHashed,
                                              refcnt := c.refcnt + 1 })

/-- `dp_vs_conn_hash`: a one-packet connection is never hashed. -/
def dpVsConnHash (w : Worker) (h : Nat) : Edpvs × Worker :=
  match w.conn? h with
  | none => (.ok, w)
  | some c => if c.flags &&& dpvsConnFOnePacket ≠ 0 then (.ok, w) else dpVsConnHashRaw env w h

@[simp] theorem linkEntry_self (tbl : Nat → List Entry) (i : Nat) (e : Entry) :
    linkEntry tbl i e i = e :: tbl i := by
  simp [linkEntry]

theorem linkEntry_ne (tbl : Nat → List Entry) {i j : Nat} (e : Entry) (hne : j ≠ i) :
    linkEntry tbl i e j = tbl j := by
  simp [linkEntry, hne]

/-- Hashing a connection that is not hashed yet: both entries go to the heads of
their buckets and the table takes a reference. -/
theorem dpVsConnHashRaw_of_unhashed {w : Worker} {h : Nat} {c : DpVsConn}
    (live : w.conn? h = some c) (unhashed : c.flags &&& dpvsConnFHashed = 0)
    (notTemplate : c.isTemplate = false) :
    dpVsConnHashRaw env w h =
      (.ok, ({ w with table := (linkEntry (linkEntry w.table (tupleBucket env c.tin) (h, .inbound))
                  (tupleBucket env c.tout) (h, .outbound)) } : Worker).modifyConn h
        fun c => { c with flags := c.flags ||| dpvsConnFHashed, refcnt := c.refcnt + 1 }) := by
  simp [dpVsConnHashRaw, live, unhashed, notTemplate]

/-- `dp_vs_conn_hash` of a connection that is not one-packet. -/
theorem dpVsConnHash_of_multi {w : Worker} {h : Nat} {c : DpVsConn}
    (live : w.conn? h = some c) (multi : c.flags &&& dpvsConnFOnePacket = 0) :
    dpVsConnHash env w h = dpVsConnHashRaw env w h := by
  simp [dpVsConnHash, live, multi]

end Table

/-- `dp_vs_conn_unhash`: only the table's reference and one other may be held. -/
def dpVsConnUnhash (w : Worker) (h : Nat) : Edpvs × Worker :=
  match w.conn? h with
  | none => (.ok, w)
  | some c =>
    if c.flags &&& dpvsConnFHashed ≠ 0 then
      if c.refcnt ≠ 2 then (.busy, w)
      else
        let unlink := fun tbl => unlinkEntry (unlinkEntry tbl (h, .inbound)) (h, .outbound)
        let w := if c.isTemplate then { w with ctTable := unlink w.ctTable }
          else { w with table := unlink w.table }
        (.ok, w.modifyConn h fun c => { c with flags := c.flags &&& ~~~dpvsConnFHashed,
                                                refcnt := c.refcnt - 1 })
    else if c.flags &&& dpvsConnFOnePacket ≠ 0 then (.ok, w)
    else (.notexist, w)

/-! ## Binding to a destination -/

/-- The overload test of bind and unbind: `inactconns + actconns` against `max_conn`,
compared as `unsigned`. -/
def destConnSum (d : Dest) : Nat := ((d.inactconns + d.actconns) % 4294967296).toNat

/-- The forwarding modes `dp_vs_conn_bind_dest` has a transmitter for. -/
def hasXmit (fwdmode : UInt32) : Bool :=
  fwdmode = dpvsFwdModeNat || fwdmode = dpvsFwdModeTunnel || fwdmode = dpvsFwdModeDr ||
    fwdmode = dpvsFwdModeFnat || fwdmode = dpvsFwdModeSnat

/-- The counts a connection takes from its destination when it is bound: a reference,
and one template or one inactive connection. -/
def bindCounts (dest : Dest) (isTemplate : Bool) : Dest :=
  let dest := { dest with refcnt := dest.refcnt + 1 }
  if isTemplate then { dest with persistconns := dest.persistconns + 1 }
  else { dest with inactconns := dest.inactconns + 1 }

/-- `dp_vs_conn_bind_dest`. The destination's flags are taken first; past the
overload test the reference and the counter are taken before the forwarding mode
is looked at. -/
def dpVsConnBindDest (w : Worker) (h : Nat) : Edpvs × Worker :=
  match w.conn? h with
  | none => (.ok, w)
  | some c =>
    let dest := w.dests c.dest
    let c := { c with flags := c.flags ||| dest.connFlags.toUInt16 }
    let w := w.modifyConn h fun _ => c
    if dest.maxConn ≠ 0 ∧ destConnSum dest ≥ dest.maxConn.toNat then
      (.overload, w.setDest c.dest { dest with flags := dest.flags ||| destFOverload })
    else
      let dest := bindCounts dest c.isTemplate
      let w := w.setDest c.dest dest
      if hasXmit dest.fwdmode then (.ok, w) else (.notsupp, w)

@[simp] theorem bindCounts_fwdmode (dest : Dest) (isTemplate : Bool) :
    (bindCounts dest isTemplate).fwdmode = dest.fwdmode := by
  unfold bindCounts; split <;> rfl

@[simp] theorem bindCounts_maxConn (dest : Dest) (isTemplate : Bool) :
    (bindCounts dest isTemplate).maxConn = dest.maxConn := by
  unfold bindCounts; split <;> rfl

/-- Bind below the connection limit: the flags are merged, the counts taken, and the
forwarding mode decides the code. -/
theorem dpVsConnBindDest_of_noLimit {w : Worker} {h : Nat} {c : DpVsConn}
    (live : w.conn? h = some c) (noLimit : (w.dests c.dest).maxConn = 0) :
    dpVsConnBindDest w h =
      let c' := { c with flags := c.flags ||| (w.dests c.dest).connFlags.toUInt16 }
      (if hasXmit (w.dests c.dest).fwdmode then .ok else .notsupp,
        (w.modifyConn h fun _ => c').setDest c.dest (bindCounts (w.dests c.dest) c'.isTemplate)) := by
  by_cases xmit : hasXmit (w.dests c.dest).fwdmode <;> simp [dpVsConnBindDest, live, noLimit, xmit]

/-- `dp_vs_conn_unbind_dest`, with `dp_vs_dest_put` taking the reference back. -/
def dpVsConnUnbindDest (w : Worker) (c : DpVsConn) : Worker :=
  let dest := w.dests c.dest
  let dest :=
    if c.isTemplate then { dest with persistconns := dest.persistconns - 1 }
    else if c.flags &&& dpvsConnFInactive ≠ 0 then { dest with inactconns := dest.inactconns - 1 }
    else { dest with actconns := dest.actconns - 1 }
  let dest :=
    if dest.maxConn ≠ 0 ∧ destConnSum dest < dest.maxConn.toNat then
      { dest with flags := dest.flags &&& ~~~destFOverload }
    else dest
  w.setDest c.dest { dest with refcnt := dest.refcnt - 1 }

/-! ## Creating a connection -/

/-- `struct dp_vs_conn_param`, and the packet's source address that SNAT reads. -/
structure ConnParam where
  af : Int
  proto : UInt8
  caddr : InetAddr
  vaddr : InetAddr
  cport : UInt16
  vport : UInt16
  ctDport : UInt16
  iphSaddr : InetAddr
  deriving DecidableEq, Repr

/-- What `dp_vs_conn_new` gets from calls this model leaves out: whether the mempool
has an object, the ports of the packet (`none` when `mbuf_header_pointer` fails),
what `dp_vs_laddr_bind` chose (the local address and port) or its error, and
whether the SYN-proxy path could read the TCP header and save the ACK. -/
structure NewOutcome where
  allocOk : Bool
  ports : Option UInt16
  laddrBind : Except Edpvs (InetAddr × UInt16)
  synproxySaved : Bool

/-- The real server's port: a template's or the parameter's own, the packet's for
SNAT (the virtual port for ICMP), else the destination's. -/
def rportOf (param : ConnParam) (dest : Dest) (flags : UInt16) (ports : Option UInt16) :
    Option UInt16 :=
  if flags &&& dpvsConnFTemplate ≠ 0 ∨ param.ctDport ≠ 0 then some param.ctDport
  else if dest.fwdmode = dpvsFwdModeSnat then
    if param.proto = ipprotoIcmp ∨ param.proto = ipprotoIcmpv6 then some param.vport else ports
  else some dest.port

/-- The connection `dp_vs_conn_new` fills in before binding it. -/
def newConn (param : ConnParam) (dest : Dest) (destId : Nat) (flags : UInt16) (rport : UInt16) :
    DpVsConn where
  af := param.af
  proto := param.proto
  flags := flags
  state := 0
  refcnt := 1
  dest := destId
  tin := ⟨param.af, param.proto, param.caddr, param.vaddr, param.cport, param.vport⟩
  tout := ⟨dest.af, param.proto, if dest.fwdmode = dpvsFwdModeSnat then param.iphSaddr else dest.addr,
    param.caddr, rport, param.cport⟩
  synMbuf := false
  synRetryMax := 0
  ackNum := 0

@[simp] theorem newConn_dest (param : ConnParam) (dest : Dest) (destId : Nat) (flags rport : UInt16) :
    (newConn param dest destId flags rport).dest = destId := rfl

@[simp] theorem newConn_flags (param : ConnParam) (dest : Dest) (destId : Nat) (flags rport : UInt16) :
    (newConn param dest destId flags rport).flags = flags := rfl

/-- `dp_vs_laddr_bind` as seen from the table: a template keeps its tuples; any other
FNAT connection's outbound tuple gets the chosen local address and port as its
destination. -/
def laddrBind (w : Worker) (h : Nat) (isTemplate : Bool)
    (bound : Except Edpvs (InetAddr × UInt16)) : Except Edpvs Worker :=
  if isTemplate then .ok w
  else match bound with
    | .error e => .error e
    | .ok (laddr, lport) =>
      .ok (w.modifyConn h fun c => { c with tout := { c.tout with daddr := laddr, dport := lport } })

/-- The `unbind_dest` label of `dp_vs_conn_new` (after `unbind_laddr`): the
connection gives its counts back and is freed. -/
def unbindAndFree (w : Worker) (h : Nat) : Worker :=
  match w.conn? h with
  | some c => (dpVsConnUnbindDest w c).freeConn h
  | none => w

/-- `dp_vs_conn_new` after a successful bind to `dest`: the FNAT local address, the
hash, and the SYN proxy's saved ACK. -/
def connNewBound (env : HashEnv) (w : Worker) (h : Nat) (dest : Dest) (flags : UInt16)
    (out : NewOutcome) : Option Nat × Worker :=
  let bound := if dest.fwdmode = dpvsFwdModeFnat then
      laddrBind w h (flags &&& dpvsConnFTemplate ≠ 0) out.laddrBind
    else .ok w
  match bound with
  | .error _ => (none, unbindAndFree w h)
  | .ok w =>
    match dpVsConnHash env w h with
    | (.ok, w) =>
      if flags &&& dpvsConnFSynproxy ≠ 0 ∧ flags &&& dpvsConnFTemplate = 0 then
        if out.synproxySaved then
          (some h, w.modifyConn h fun c => { c with ackNum := c.ackNum + 1,
                                                      state := dpvsTcpSSynSent })
        else (none, unbindAndFree w h)
      else (some h, w)
    | (_, w) => (none, unbindAndFree w h)

/-- `dp_vs_conn_new`, for the destination `destId`: the new handle on success. The
error labels are those of the source: `errout` frees the object, `unbind_dest`
first unbinds it, `unbind_laddr` also (and leaves the local address to
`sa_pool`). -/
def dpVsConnNew (env : HashEnv) (w : Worker) (param : ConnParam) (destId : Nat) (flags : UInt16)
    (out : NewOutcome) : Option Nat × Worker :=
  if !out.allocOk then (none, w)
  else
    let h := w.nextHandle
    let dest := w.dests destId
    match rportOf param dest flags out.ports with
    | none => (none, w)
    | some rport =>
      let w := { w with conns := (h, newConn param dest destId flags rport) :: w.conns,
                        nextHandle := h + 1 }
      match dpVsConnBindDest w h with
      | (.ok, w) => connNewBound env w h dest flags out
      | (_, w) => (none, w.freeConn h)

@[simp] theorem unbindAndFree_table (w : Worker) (h : Nat) :
    (unbindAndFree w h).table = w.table := by
  unfold unbindAndFree dpVsConnUnbindDest; split <;> rfl

@[simp] theorem unbindAndFree_conn?_self (w : Worker) (h : Nat) :
    (unbindAndFree w h).conn? h = none := by
  unfold unbindAndFree dpVsConnUnbindDest
  split
  · simp [Worker.conn?_freeConn]
  · assumption

/-- A connection that was hashed but whose ACK the SYN proxy could not save is unbound
and freed with its entries still in the table. -/
theorem connNewBound_of_synproxy_lost (env : HashEnv) {w : Worker} {h : Nat} {dest : Dest}
    {flags : UInt16} {out : NewOutcome} (notFnat : dest.fwdmode ≠ dpvsFwdModeFnat)
    (hashOk : (dpVsConnHash env w h).1 = .ok) (proxied : flags &&& dpvsConnFSynproxy ≠ 0)
    (flagsPlain : flags &&& dpvsConnFTemplate = 0) (lost : out.synproxySaved = false) :
    connNewBound env w h dest flags out = (none, unbindAndFree (dpVsConnHash env w h).2 h) := by
  rcases hash : dpVsConnHash env w h with ⟨code, hashed⟩
  rw [hash] at hashOk
  simp only at hashOk
  subst hashOk
  simp [connNewBound, notFnat, hash, proxied, flagsPlain, lost]

/-! ## Looking a connection up -/

/-- The test of `dp_vs_conn_get` on one entry's tuple. -/
def tupleMatches (af : Int) (proto : UInt8) (saddr daddr : InetAddr) (sport dport : UInt16)
    (t : Tuple) : Bool :=
  t.sport == sport && t.dport == dport && inetAddrEqual af t.saddr saddr &&
    inetAddrEqual af t.daddr daddr && t.proto == proto && t.af == af

/-- The walk of one bucket: the first entry whose tuple passes the test; `none` when
an entry's connection has been freed. -/
def scanBucket (w : Worker) (test : Tuple → Bool) : List Entry → Option (Option Entry)
  | [] => some none
  | (h, d) :: rest =>
    match w.conn? h with
    | none => none
    | some c => if test (c.tuple d) then some (some (h, d)) else scanBucket w test rest

/-- `dp_vs_conn_get`: the hit, with its direction, holds one more reference. A
reverse lookup hashes and compares the swapped tuple. -/
def dpVsConnGet (env : HashEnv) (w : Worker) (af : Int) (proto : UInt8) (saddr daddr : InetAddr)
    (sport dport : UInt16) (reverse : Bool) : Option (Option Entry × Worker) :=
  let hash :=
    if reverse then dpVsConnHashkey env af daddr dport saddr sport dpvsConnTblMask
    else dpVsConnHashkey env af saddr sport daddr dport dpvsConnTblMask
  let test :=
    if reverse then tupleMatches af proto daddr saddr dport sport
    else tupleMatches af proto saddr daddr sport dport
  match scanBucket w test (w.table hash.toNat) with
  | none => none
  | some none => some (none, w)
  | some (some (h, d)) => some (some (h, d), w.modifyConn h fun c => { c with refcnt := c.refcnt + 1 })

/-! ## Dropping a connection -/

/-- Everything the last reference of a connection takes with it: its destination,
then the object. -/
def releaseConn (w : Worker) (c : DpVsConn) (h : Nat) : Worker :=
  (dpVsConnUnbindDest w c).freeConn h

/-- `dp_vs_conn_expire`, run by the connection's timer: `none` when an assertion
fails. A pending SYN retransmission puts the expiry off; otherwise the connection
is unhashed, and freed when no other reference is left, else hashed back. -/
def dpVsConnExpire (env : HashEnv) (w : Worker) (h : Nat) : Option Worker := do
  let c ← w.conn? h
  if ¬ (c.af = afInet ∨ c.af = afInet6) ∨ c.refcnt ≤ 0 then none
  let onePacket := c.flags &&& dpvsConnFOnePacket ≠ 0
  let w := if onePacket then w else w.modifyConn h fun c => { c with refcnt := c.refcnt + 1 }
  if c.synMbuf ∧ c.synRetryMax > 0 then
    -- `dp_vs_conn_resend_packets`, then `dp_vs_conn_put_nolock`
    return w.modifyConn h fun c => { c with synRetryMax := c.synRetryMax - 1,
                                            refcnt := c.refcnt - 1 }
  let w := (dpVsConnUnhash w h).2
  let w := w.modifyConn h fun c => { c with refcnt := c.refcnt - 1 }
  let c ← w.conn? h
  if c.refcnt = 0 then return releaseConn w c h
  else return (dpVsConnHash env w h).2

/-- `dp_vs_conn_put`: a one-packet connection expires at once. -/
def dpVsConnPut (env : HashEnv) (w : Worker) (h : Nat) : Option Worker := do
  let c ← w.conn? h
  if c.flags &&& dpvsConnFOnePacket ≠ 0 then dpVsConnExpire env w h
  else if c.refcnt ≤ 0 then none
  else return w.modifyConn h fun c => { c with refcnt := c.refcnt - 1 }

/-! ## Flushing the table -/

/-- What `list_next_entry` reads from an entry: the entry after it, the list head,
or `LIST_POISON1` for an entry that `list_del` took off its list. -/
inductive Link where
  | entry (e : Entry)
  | head
  | poison
  deriving DecidableEq, Repr

/-- The link after `e` in a bucket. -/
def nextLink (bucket : List Entry) (e : Entry) : Link :=
  match bucket.dropWhile (· ≠ e) with
  | [] => .poison
  | [_] => .head
  | _ :: n :: _ => .entry n

/-- The first link of a bucket. -/
def firstLink : List Entry → Link
  | [] => .head
  | e :: _ => .entry e

/-- The body of `conn_flush` for the connection of an entry: a connection nobody
else holds is unhashed, unbound and freed; any other is left alone. -/
def flushConn (w : Worker) (h : Nat) (c : DpVsConn) : Worker :=
  if c.refcnt + 1 ≠ 2 then w
  else
    let w := w.modifyConn h fun c => { c with refcnt := c.refcnt + 1 }
    let w := (dpVsConnUnhash w h).2
    match w.conn? h with
    | none => w
    | some c => releaseConn w c h

/-- `list_for_each_entry_safe` over bucket `i` with the body of `conn_flush`: the
next link is read before the body runs, and the walk goes on from it. A link to a
freed connection, or the poison of a deleted entry, is a read of freed or invalid
memory: `none`. -/
def flushWalk (i : Nat) : Nat → Link → Worker → Option Worker
  | _, .head, w => some w
  | _, .poison, _ => none
  | 0, .entry _, _ => none
  | fuel + 1, .entry (h, d), w =>
    match w.conn? h with
    | none => none
    | some c => flushWalk i fuel (nextLink (w.table i) (h, d)) (flushConn w h c)

/-- One bucket of `conn_flush`, with a step for each entry it starts with. -/
def flushBucket (w : Worker) (i : Nat) : Option Worker :=
  flushWalk i ((w.table i).length + 1) (firstLink (w.table i)) w

/-- `conn_flush`: every bucket in turn. -/
def connFlush (w : Worker) : Option Worker :=
  (List.range dpvsConnTblSize).foldlM flushBucket w

end Dpvs.Conn
