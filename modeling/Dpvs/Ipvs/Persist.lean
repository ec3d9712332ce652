import Dpvs.Ipvs.ConnTable
import Dpvs.Ipvs.Service
import Dpvs.Ipv6.Prefix

/-!
# Persistent scheduling

`dp_vs_schedule` in `src/ipvs/ip_vs_core.c` gives a packet of a new flow a connection:
for a persistent service through `dp_vs_sched_persist`, which keeps the destination of
a client network in a connection template, else straight to the destination the
service's scheduler picks.

`dp_vs_sched_persist` looks the template of `<proto, snet, vaddr, vport or 0>` up
(`dp_vs_ct_in_get`, which takes a reference), keeps it if its destination is still
available (`dp_vs_check_template`, which drops the reference otherwise), or else makes
a new one for the scheduler's pick, and then a connection to the template's
destination, after which the template's reference is dropped.

The connection flags the two paths pass to `dp_vs_conn_new` differ. `dp_vs_schedule`
sets `DPVS_CONN_F_EXPIRE_QUIESCENT` when the service has `DP_VS_SVC_F_EXPIRE_QUIESCENT`;
`dp_vs_sched_persist` tests `svc->flags | DP_VS_SVC_F_EXPIRE_QUIESCENT`, which is never
zero, and sets it always (`persist_conn_always_expires_quiescent`).

The connections are those of one worker, seen as `dp_vs_sched_persist` sees them: a
table of objects, most recently hashed first, with the fields the scheduling path
reads and writes. What the rest of `dp_vs_conn_new` does (binding, local addresses,
the SYN proxy) is the `Dpvs.Conn` model's; here it succeeds or fails as a whole.
-/

namespace Dpvs.Persist

open Dpvs.Conn (ConnParam Tuple rportOf dpvsConnFTemplate dpvsConnFSynproxy dpvsConnFOnePacket
  dpvsConnFHashed dpvsFwdModeSnat)

/-! `DP_VS_SVC_F_*` and `DPVS_CONN_F_EXPIRE_QUIESCENT`. -/

def dpVsSvcFPersistent : UInt32 := 0x0001

def dpVsSvcFOnepacket : UInt32 := 0x0004

def dpVsSvcFExpireQuiescent : UInt32 := 0x0010

def dpvsConnFExpireQuiescent : UInt16 := 0x0020

/-- The fields of `struct dp_vs_iphdr` the scheduling path reads. -/
structure DpVsIphdr where
  af : Int
  proto : UInt8
  saddr : InetAddr
  daddr : InetAddr
  deriving DecidableEq, Repr

/-- The fields of `struct dp_vs_service` the scheduling path reads; for IPv6 the
`netmask` is read as a prefix length. -/
structure SchedSvc where
  af : Int
  port : UInt16
  flags : UInt32
  netmask : UInt32
  timeout : Nat
  deriving DecidableEq, Repr

/-- A connection object as the scheduling path sees it: its own address and port
fields, the inbound tuple it is hashed and found by, its destination, flags,
reference count, timeout and control links. -/
structure PConn where
  cport : UInt16
  vport : UInt16
  lport : UInt16
  dport : UInt16
  tin : Tuple
  dest : Nat
  flags : UInt16
  refcnt : Int
  timeout : Nat
  control : Option Nat
  nControl : Int
  deriving DecidableEq, Repr

/-- One worker's connections, most recently hashed first, and its destinations. -/
structure PersistState where
  conns : List (Nat × PConn)
  dests : Nat → Dest
  nextHandle : Nat

/-- What the scheduling path gets from the calls this model leaves out: the service
scheduler's pick, whether each `dp_vs_conn_new` succeeds, the sysctl
`conn_expire_quiescent_template`, the ICMP identifier and type/code word
(`none` when the header cannot be read), the bytes the local `snet` holds before it is
written, and what `dp_vs_snat_schedule` does. -/
structure SchedCalls where
  pick : Option Nat
  ctNewOk : Bool
  connNewOk : Bool
  expireQuiescentTemplate : Bool
  icmp : Option (UInt16 × UInt16)
  stale : InetAddr
  snatSchedule : PersistState → Option Nat × PersistState

namespace PersistState

/-- The object behind a handle. -/
def conn? (s : PersistState) (h : Nat) : Option PConn :=
  (s.conns.find? fun p => p.1 = h).map Prod.snd

/-- A write to an object. -/
def modify (s : PersistState) (h : Nat) (f : PConn → PConn) : PersistState :=
  { s with conns := s.conns.map fun p => if p.1 = h then (p.1, f p.2) else p }

/-- `dp_vs_conn_new` as the scheduling path sees it: on success a new object for the
parameters and the destination `d`, with the destination's connection flags merged
in, one reference for the caller and one for the table (none for a one-packet
connection, which is not hashed). -/
def connNew (s : PersistState) (ok : Bool) (param : ConnParam) (d : Nat) (flags : UInt16)
    (sport : Option UInt16) : Option Nat × PersistState :=
  let dest := s.dests d
  match ok, rportOf param dest flags sport with
  | true, some rport =>
    let flags := flags ||| dest.connFlags.toUInt16
    let c : PConn :=
      { cport := param.cport, vport := param.vport, lport := param.cport, dport := rport,
        tin := ⟨param.af, param.proto, param.caddr, param.vaddr, param.cport, param.vport⟩,
        dest := d, flags := if flags &&& dpvsConnFOnePacket ≠ 0 then flags
          else flags ||| dpvsConnFHashed,
        refcnt := if flags &&& dpvsConnFOnePacket ≠ 0 then 1 else 2, timeout := 0,
        control := none, nControl := 0 }
    (some s.nextHandle, { s with conns := (s.nextHandle, c) :: s.conns,
                                 nextHandle := s.nextHandle + 1 })
  | _, _ => (none, s)

/-- `dp_vs_ct_in_get`: the most recently hashed template whose inbound tuple is the
key, with one more reference. -/
def ctInGet (s : PersistState) (af : Int) (proto : UInt8) (saddr daddr : InetAddr)
    (sport dport : UInt16) : Option (Nat × PConn) × PersistState :=
  let hit := fun (p : Nat × PConn) =>
    p.2.tin.sport = sport && p.2.tin.dport = dport && inetAddrEqual af p.2.tin.saddr saddr &&
      inetAddrEqual af p.2.tin.daddr daddr && p.2.flags &&& dpvsConnFTemplate != 0 &&
      p.2.tin.proto = proto && p.2.tin.af = af
  match s.conns.find? hit with
  | some (h, c) => (some (h, c), s.modify h fun c => { c with refcnt := c.refcnt + 1 })
  | none => (none, s)

/-- The unhash and hash of `dp_vs_check_template`: the object's ports are rewritten,
its tuple stays, and it is linked again at the head of the table. -/
def invalidate (s : PersistState) (h : Nat) (c : PConn) : PersistState :=
  let c := { c with dport := 0xffff, vport := 0xffff, lport := 0, cport := 0 }
  { s with conns := (h, c) :: s.conns.filter fun p => p.1 ≠ h }

/-- `dp_vs_check_template`: whether the template's destination is available; when it is
not, the template is invalidated (once) and the lookup's reference dropped. -/
def checkTemplate (s : PersistState) (expireQuiescentTemplate : Bool) (h : Nat) (c : PConn) :
    Bool × PersistState :=
  let dest := s.dests c.dest
  if dest.flags &&& destFAvailable = 0 ∨ (expireQuiescentTemplate ∧ dest.weight.toInt = 0) then
    -- `dp_vs_conn_unhash` succeeds on a hashed object
    let s := if c.vport ≠ 0xffff ∧ c.flags &&& dpvsConnFHashed ≠ 0 then s.invalidate h c else s
    (false, s.modify h fun c => { c with refcnt := c.refcnt - 1 })
  else (true, s)

/-- `dp_vs_conn_put` of an object that is not one-packet: one reference less (its timer
is restarted). -/
def connPut (s : PersistState) (h : Nat) : PersistState :=
  s.modify h fun c => { c with refcnt := c.refcnt - 1 }

/-- `dp_vs_control_add`: the connection is controlled by the template, which counts
it; a connection already controlled leaves its old template first. -/
def controlAdd (s : PersistState) (h ct : Nat) : PersistState :=
  let s := match s.conn? h with
    | some { control := some old, .. } =>
      (s.modify h fun c => { c with control := none }).modify old
        fun c => { c with nControl := c.nControl - 1 }
    | _ => s
  (s.modify h fun c => { c with control := some ct }).modify ct
    fun c => { c with nControl := c.nControl + 1 }

end PersistState

/-! ## The connection flags -/

/-- The flags `dp_vs_sched_persist` gives its connection; the test is
`svc->flags | DP_VS_SVC_F_EXPIRE_QUIESCENT`. -/
def persistConnFlags (svcFlags : UInt32) (isSynproxyOn : Bool) : UInt16 :=
  let connFlags := if isSynproxyOn then dpvsConnFSynproxy else 0
  if svcFlags ||| dpVsSvcFExpireQuiescent ≠ 0 then connFlags ||| dpvsConnFExpireQuiescent
  else connFlags

/-- The flags `dp_vs_schedule` gives a connection of a service that is not persistent. -/
def scheduleConnFlags (svcFlags : UInt32) (proto : UInt8) (isSynproxyOn : Bool) : UInt16 :=
  let flags := if isSynproxyOn then dpvsConnFSynproxy else 0
  let flags :=
    if svcFlags &&& dpVsSvcFOnepacket ≠ 0 ∧ proto = ipprotoUdp then flags ||| dpvsConnFOnePacket
    else flags
  if svcFlags &&& dpVsSvcFExpireQuiescent ≠ 0 then flags ||| dpvsConnFExpireQuiescent else flags

/-! ## The two scheduling functions -/

/-- `ipv6_addr_prefix_copy`: the first `plen` bits of `pfx` over `addr`, whose other
bits stay. -/
def ipv6AddrPrefixCopy (addr pfx : InetAddr) (plen : Nat) : InetAddr :=
  let o := plen >>> 3
  let b := plen &&& 0x7
  InetAddr.ofBytes ((List.range 16).map fun k =>
    if k < o then pfx.bytes.getD k 0
    else if k = o ∧ b ≠ 0 then
      (addr.bytes.getD o 0 &&& ~~~byteMask b) ||| (pfx.bytes.getD o 0 &&& byteMask b)
    else addr.bytes.getD k 0)

/-- The source network of a client: the address under the service's netmask, or its
prefix for IPv6, written over what the local held. -/
def sourceNet (svc : SchedSvc) (saddr stale : InetAddr) : InetAddr :=
  if svc.af = afInet6 then ipv6AddrPrefixCopy stale saddr svc.netmask.toNat
  else { stale with w0 := saddr.w0 &&& svc.netmask }

/-- The template part of `dp_vs_sched_persist`: the template of the key with its
destination, when the lookup finds one whose destination passes the check, or else a
new template for the scheduler's pick. The template comes with a reference. -/
def persistTemplate (calls : SchedCalls) (s : PersistState) (svc : SchedSvc) (iph : DpVsIphdr)
    (snet : InetAddr) (sport vport : UInt16) (connFlags : UInt16) :
    Option (Nat × Nat) × PersistState :=
  let newTemplate := fun (s : PersistState) =>
    match calls.pick with
    | none => (none, s)
    | some d =>
      match s.connNew calls.ctNewOk ⟨iph.af, iph.proto, snet, iph.daddr, 0, vport, 0, iph.saddr⟩
          d (connFlags ||| dpvsConnFTemplate) (some sport) with
      | (none, s) => (none, s)
      | (some ct, s) => (some (ct, d), s.modify ct fun c => { c with timeout := svc.timeout })
  match s.ctInGet svc.af iph.proto snet iph.daddr 0 vport with
  | (some (ct, c), s) =>
    match s.checkTemplate calls.expireQuiescentTemplate ct c with
    | (true, s) => (some (ct, c.dest), s)
    | (false, s) => newTemplate s
  | (none, s) => newTemplate s

/-- `dp_vs_sched_persist`. `ports` are the packet's source and destination ports. -/
def dpVsSchedPersist (calls : SchedCalls) (s : PersistState) (svc : SchedSvc) (iph : DpVsIphdr)
    (ports : Option (UInt16 × UInt16)) (isSynproxyOn : Bool) : Option Nat × PersistState :=
  let connFlags := persistConnFlags svc.flags isSynproxyOn
  let snet := sourceNet svc iph.saddr calls.stale
  match ports with
  | none => (none, s)
  | some (sport, dport) =>
    -- a regular persistent service keys its templates by the virtual port, any other by 0
    let regular := dport = svc.port
    let vport := if regular then dport else 0
    match persistTemplate calls s svc iph snet sport vport connFlags with
    | (none, s) => (none, s)
    | (some (ct, d), s) =>
      let dport' := if regular then (s.dests d).port else dport
      match s.connNew calls.connNewOk ⟨iph.af, iph.proto, iph.saddr, iph.daddr, sport, dport,
          dport', iph.saddr⟩ d connFlags (some sport) with
      | (none, s) => (none, s.connPut ct)
      | (some h, s) => (some h, (s.controlAdd h ct).connPut ct)

/-- `dp_vs_schedule`. -/
def dpVsSchedule (calls : SchedCalls) (s : PersistState) (svc : SchedSvc) (iph : DpVsIphdr)
    (ports : Option (UInt16 × UInt16)) (isSynproxyOn : Bool) : Option Nat × PersistState :=
  match ports with
  | none => (none, s)
  | some (sport, dport) =>
    if svc.flags &&& dpVsSvcFPersistent ≠ 0 then
      dpVsSchedPersist calls s svc iph ports isSynproxyOn
    else
      match calls.pick with
      | none => (none, s)
      | some d =>
        if (s.dests d).fwdmode = dpvsFwdModeSnat then calls.snatSchedule s
        else
          let param : Option ConnParam :=
            if iph.proto = Conn.ipprotoIcmp then
              calls.icmp.map fun (id, tc) => ⟨iph.af, iph.proto, iph.saddr, iph.daddr, id, tc, 0,
                iph.saddr⟩
            else if iph.proto = Conn.ipprotoIcmpv6 then
              calls.icmp.map fun (id, tc) => ⟨iph.af, iph.proto, iph.daddr, (s.dests d).addr, tc,
                id, 0, iph.saddr⟩
            else some ⟨iph.af, iph.proto, iph.saddr, iph.daddr, sport, dport, 0, iph.saddr⟩
          match param with
          | none => (none, s)
          | some param =>
            s.connNew calls.connNewOk param d (scheduleConnFlags svc.flags iph.proto isSynproxyOn)
              (some sport)

/-! ## Reading the object table -/

namespace PersistState

theorem conn?_modify (s : PersistState) (h' : Nat) (f : PConn → PConn) (h : Nat) :
    (s.modify h' f).conn? h = (s.conn? h).map fun c => if h = h' then f c else c := by
  unfold conn? modify
  dsimp only
  generalize s.conns = l
  induction l with
  | nil => rfl
  | cons p rest ih =>
    obtain ⟨k, c⟩ := p
    by_cases same : k = h
    · subst same
      by_cases hit : k = h' <;> simp [hit]
    · by_cases hit : k = h'
      · simp only [List.map_cons, hit, if_true, List.find?_cons]
        simpa [← hit, same] using ih
      · simpa [hit, same] using ih

/-- A write that keeps the flags keeps every object's flags. -/
theorem flags_modify (s : PersistState) (h' : Nat) {f : PConn → PConn}
    (keeps : ∀ c, (f c).flags = c.flags) (h : Nat) :
    ((s.modify h' f).conn? h).map PConn.flags = (s.conn? h).map PConn.flags := by
  rw [conn?_modify, Option.map_map]
  congr 1
  funext c
  by_cases hit : h = h' <;> simp [hit, keeps]

theorem flags_connPut (s : PersistState) (ct h : Nat) :
    ((s.connPut ct).conn? h).map PConn.flags = (s.conn? h).map PConn.flags := by
  unfold connPut
  simp [flags_modify]

theorem flags_controlAdd (s : PersistState) (h' ct h : Nat) :
    ((s.controlAdd h' ct).conn? h).map PConn.flags = (s.conn? h).map PConn.flags := by
  unfold controlAdd
  dsimp only
  split <;> simp [flags_modify]

theorem conn?_mk_cons (h : Nat) (c : PConn) (rest : List (Nat × PConn)) (dests : Nat → Dest)
    (nextHandle : Nat) : (PersistState.mk ((h, c) :: rest) dests nextHandle).conn? h = some c := by
  simp [conn?]

/-- A new object has the flags it was made with, and more. -/
theorem connNew_flags {s s' : PersistState} {ok : Bool} {param : ConnParam} {d : Nat}
    {flags : UInt16} {sport : Option UInt16} {h : Nat}
    (made : s.connNew ok param d flags sport = (some h, s')) {t : UInt16}
    (set : flags &&& t ≠ 0) : ∃ c, s'.conn? h = some c ∧ c.flags &&& t ≠ 0 := by
  unfold connNew at made
  dsimp only at made
  split at made
  · simp only [Prod.mk.injEq, Option.some.injEq] at made
    obtain ⟨rfl, rfl⟩ := made
    have merged : (flags ||| (s.dests d).connFlags.toUInt16) &&& t ≠ 0 :=
      fun zero => set (Conn.UInt16.and_eq_zero_of_or_left zero)
    refine ⟨_, conn?_mk_cons _ _ _ _ _, ?_⟩
    dsimp only
    split
    · exact merged
    · exact fun zero => merged (Conn.UInt16.and_eq_zero_of_or_left zero)
  · cases made

end PersistState

/-! ## The flags against each other -/

theorem or_expireQuiescent_ne_zero (x : UInt32) : x ||| dpVsSvcFExpireQuiescent ≠ 0 := by
  intro zero
  have bits := congrArg UInt32.toBitVec zero
  simp [dpVsSvcFExpireQuiescent] at bits

theorem or_and_self_ne_zero (x : UInt16) {y : UInt16} (hy : y ≠ 0) : (x ||| y) &&& y ≠ 0 := by
  have absorb : (x ||| y) &&& y = y := by
    apply UInt16.toBitVec_inj.mp
    rw [UInt16.toBitVec_and, UInt16.toBitVec_or]
    grind
  rwa [absorb]

/-- `svc->flags | DP_VS_SVC_F_EXPIRE_QUIESCENT` holds of every service. -/
theorem persistConnFlags_expire (svcFlags : UInt32) (isSynproxyOn : Bool) :
    persistConnFlags svcFlags isSynproxyOn &&& dpvsConnFExpireQuiescent ≠ 0 := by
  unfold persistConnFlags
  rw [if_pos (or_expireQuiescent_ne_zero svcFlags)]
  exact or_and_self_ne_zero _ (by decide)

/-- `dp_vs_schedule` sets `DPVS_CONN_F_EXPIRE_QUIESCENT` exactly for a service with
`DP_VS_SVC_F_EXPIRE_QUIESCENT`. -/
theorem scheduleConnFlags_expire_iff (svcFlags : UInt32) (proto : UInt8) (isSynproxyOn : Bool) :
    scheduleConnFlags svcFlags proto isSynproxyOn &&& dpvsConnFExpireQuiescent ≠ 0 ↔
      svcFlags &&& dpVsSvcFExpireQuiescent ≠ 0 := by
  unfold scheduleConnFlags
  by_cases quiet : svcFlags &&& dpVsSvcFExpireQuiescent ≠ 0
  · rw [if_pos quiet]
    exact iff_of_true (or_and_self_ne_zero _ (by decide)) quiet
  · rw [if_neg quiet]
    refine iff_of_false ?_ quiet
    -- what is left is the SYN-proxy and one-packet bits
    split_ifs <;> decide

/-- The connection `dp_vs_sched_persist` makes has `DPVS_CONN_F_EXPIRE_QUIESCENT`. -/
theorem dpVsSchedPersist_expire {calls : SchedCalls} {s : PersistState} {svc : SchedSvc}
    {iph : DpVsIphdr} {ports : Option (UInt16 × UInt16)} {isSynproxyOn : Bool} {h : Nat}
    {s' : PersistState} (made : dpVsSchedPersist calls s svc iph ports isSynproxyOn = (some h, s')) :
    ∃ c, s'.conn? h = some c ∧ c.flags &&& dpvsConnFExpireQuiescent ≠ 0 := by
  unfold dpVsSchedPersist at made
  rcases ports with _ | ⟨sport, dport⟩
  · cases made
  · dsimp only at made
    split at made
    · cases made
    · split at made
      · cases made
      · next _ ct d s1 _ _ h' s2 made' =>
        simp only [Prod.mk.injEq, Option.some.injEq] at made
        obtain ⟨rfl, rfl⟩ := made
        obtain ⟨c, found, set⟩ := PersistState.connNew_flags made'
          (persistConnFlags_expire svc.flags isSynproxyOn)
        -- the control link and the template's reference leave the flags alone
        have kept := (PersistState.flags_connPut _ ct h').trans
          (PersistState.flags_controlAdd s2 h' ct h')
        rw [found] at kept
        obtain ⟨c', found', same⟩ := Option.map_eq_some_iff.mp kept
        exact ⟨c', found', same ▸ set⟩

theorem persist_conn_always_expires_quiescent (calls : SchedCalls) (s : PersistState)
    (svc : SchedSvc) (iph : DpVsIphdr) (ports : Option (UInt16 × UInt16)) (isSynproxyOn : Bool)
    {h : Nat} {s' : PersistState}
    (made : dpVsSchedule calls s svc iph ports isSynproxyOn = (some h, s'))
    (persistent : svc.flags &&& dpVsSvcFPersistent ≠ 0)
    (quiet : svc.flags &&& dpVsSvcFExpireQuiescent = 0) :
    (∃ c, s'.conn? h = some c ∧ c.flags &&& dpvsConnFExpireQuiescent ≠ 0) ∧
      scheduleConnFlags svc.flags iph.proto isSynproxyOn &&& dpvsConnFExpireQuiescent = 0 := by
  constructor
  · unfold dpVsSchedule at made
    rcases ports with _ | ⟨sport, dport⟩
    · cases made
    · dsimp only at made
      rw [if_pos persistent] at made
      exact dpVsSchedPersist_expire made
  · by_contra set
    exact (scheduleConnFlags_expire_iff _ _ _).mp set quiet

/-- The scheduler picks the NAT destination `10.0.0.2:80`, and every call succeeds. -/
def natPick : SchedCalls :=
  { pick := some 0, ctNewOk := true, connNewOk := true, expireQuiescentTemplate := false,
    icmp := none, stale := ⟨0, 0, 0, 0⟩, snatSchedule := fun s => (none, s) }

/-- A worker with no connection and template yet. -/
def natWorker : PersistState := ⟨[], fun _ => Conn.natDest, 0⟩

/-- A persistent TCP service on port 80 with a `/24` netmask and no other flag. -/
def persistentHttp : SchedSvc :=
  { af := afInet, port := 0x5000, flags := dpVsSvcFPersistent, netmask := 0x00ffffff,
    timeout := 360 }

/-- The first packet of `192.168.0.1` to `10.0.0.1`. -/
def clientHdr : DpVsIphdr :=
  { af := afInet, proto := ipprotoTcp, saddr := InetAddr.ofV4 0x0100a8c0,
    daddr := InetAddr.ofV4 0x0100000a }

theorem persist_conn_always_expires_quiescent_http :
    (∃ c, (dpVsSchedule natPick natWorker persistentHttp clientHdr (some (0xd204, 0x5000))
        false).2.conn? 1 = some c ∧ c.flags &&& dpvsConnFExpireQuiescent ≠ 0) ∧
      scheduleConnFlags persistentHttp.flags clientHdr.proto false &&& dpvsConnFExpireQuiescent = 0 :=
  persist_conn_always_expires_quiescent natPick natWorker persistentHttp clientHdr
    (some (0xd204, 0x5000)) false rfl (by decide) (by decide)

end Dpvs.Persist
