import Dpvs.Basic

/-!
# The neighbour table of one lcore

`src/neigh.c` keeps on every lcore a table of neighbour entries, hashed by
`neigh_hashkey`, each with its link-layer address, a state of the NUD machine of
`nud_states`, a timer, and the packets that wait for the address. Entries are learnt
from ARP replies (`neigh_resolve_input`), created by `neigh_output` for an unknown next
hop, and added or deleted by messages on the lcore's ring (`neigh_process_ring`), which
carry the static entries of the control plane and the entries other lcores learn.

A static entry is not to be changed by what the lcore learns. `neigh_resolve_input`
keeps that by editing a found entry only when it is not static, but its other branch
then adds a second, dynamic entry for the same key in front of the static one, and
every later lookup finds that one.
-/

namespace Dpvs

/-- `struct rte_ether_addr`. -/
structure EtherAddr where
  bytes : Vector UInt8 6
  deriving DecidableEq, Repr

/-- The states of the NUD machine. -/
inductive NudState where
  | none
  | send
  | reachable
  | probe
  | delay
  deriving DecidableEq, Repr

/-- The rows of `nud_states`, one per event. -/
inductive NudEvent where
  | sendArp
  | recvArp
  | ackConfirm
  | mbufRef
  | timeout
  deriving DecidableEq, Repr

/-- `nud_states`: the next state, or `none` for `sNKP`, keep the state and the timer. -/
def nudNext : NudEvent → NudState → Option NudState
  | .sendArp, .reachable => none
  | .sendArp, .none | .sendArp, .send => some .send
  | .sendArp, .probe | .sendArp, .delay => some .delay
  | .recvArp, _ => some .reachable
  | .ackConfirm, .none | .ackConfirm, .send => none
  | .ackConfirm, _ => some .reachable
  | .mbufRef, .probe => some .probe
  | .mbufRef, _ => none
  | .timeout, .reachable => some .probe
  | .timeout, _ => some .none

/-- `struct neighbour_entry`; `port` is the `netif_port` by its id, `timer` whether the
entry's timer is scheduled, `queue` the packets of `queue_list`, oldest first. -/
structure NeighbourEntry where
  af : Int
  ipAddr : InetAddr
  ethAddr : EtherAddr
  port : Nat
  timer : Bool
  queue : List Nat
  queNum : Nat
  state : NudState
  flag : UInt8
  deriving DecidableEq, Repr

/-- A frame handed to `netif_xmit`: the packet, the destination address filled in, if
any, and the port. -/
structure TxFrame where
  mbuf : Nat
  dst : Option EtherAddr
  port : Nat
  deriving DecidableEq, Repr

/-- The entries one lcore has allocated, its table, `neigh_nums[cid]`, and the frames it
has sent. -/
structure NeighLcore where
  neighs : List (Nat × NeighbourEntry)
  table : Nat → List Nat
  neighNums : Int
  nextHandle : Nat
  xmit : List TxFrame

/-- What a call reads besides the table: whether `neigh_mempool` has room, and
`arp_unres_qlen`. -/
structure NeighEnv where
  memory : Bool
  arpUnresQlen : Nat

/-- `struct raw_neigh`, a message of the ring. -/
structure RawNeigh where
  af : Int
  ipAddr : InetAddr
  ethAddr : EtherAddr
  port : Nat
  add : Bool
  flag : UInt8
  deriving DecidableEq, Repr

/-- `struct dp_vs_neigh_conf`, as the control plane sends it; `port` is the device
`ifname` names. -/
structure NeighConf where
  af : Int
  ipAddr : InetAddr
  ethAddr : EtherAddr
  port : Nat
  flag : UInt8
  deriving DecidableEq, Repr

/-! `NEIGHBOUR_HASHED`, `NEIGHBOUR_STATIC` and `NEIGH_TAB_MASK`. -/

def neighbourHashed : UInt8 := 0x01

def neighbourStatic : UInt8 := 0x02

def neighTabMask : UInt32 := 0xff

/-! ## Entries and links -/

/-- The entry behind a handle, if it is still allocated. -/
def NeighLcore.neigh? (st : NeighLcore) (h : Nat) : Option NeighbourEntry :=
  (st.neighs.find? fun p => p.1 = h).map Prod.snd

/-- A write to a live entry. -/
def NeighLcore.modifyNeigh (st : NeighLcore) (h : Nat) (f : NeighbourEntry → NeighbourEntry) :
    NeighLcore :=
  { st with neighs := st.neighs.map fun p => if p.1 = h then (p.1, f p.2) else p }

/-- `dpvs_mempool_put` of an entry. -/
def NeighLcore.freeNeigh (st : NeighLcore) (h : Nat) : NeighLcore :=
  { st with neighs := st.neighs.filter fun p => p.1 ≠ h }

/-- `neigh_hashkey`: the folded address, byte-swapped, masked; the port is not read. -/
def neighHashkey (af : Int) (ipAddr : InetAddr) : Nat :=
  (beToCpu32 (inetAddrFold af ipAddr) &&& neighTabMask).toNat

/-- `neigh_key_cmp`. -/
def neighKeyCmp (af : Int) (key : InetAddr) (port : Nat) (n : NeighbourEntry) : Bool :=
  inetAddrEqual af key n.ipAddr && n.port == port && n.af == af

/-- `neigh_hash`: at the head of the bucket, unless already hashed. -/
def neighHash (st : NeighLcore) (h hashkey : Nat) : NeighLcore :=
  match st.neigh? h with
  | some n =>
    if n.flag &&& neighbourHashed = 0 then
      ({ st with table := Function.update st.table hashkey (h :: st.table hashkey) }).modifyNeigh h
        fun n => { n with flag := n.flag ||| neighbourHashed }
    else st
  | none => st

/-- `neigh_unhash`. -/
def neighUnhash (st : NeighLcore) (h : Nat) : NeighLcore :=
  match st.neigh? h with
  | some n =>
    if n.flag &&& neighbourHashed ≠ 0 then
      ({ st with table := fun i => (st.table i).erase h }).modifyNeigh h
        fun n => { n with flag := n.flag &&& ~~~neighbourHashed }
    else st
  | none => st

/-- `neigh_lookup_entry`: the first entry of the bucket with the key. -/
def neighLookupEntry (st : NeighLcore) (af : Int) (key : InetAddr) (port hashkey : Nat) :
    Option Nat :=
  (st.table hashkey).find? fun h => (st.neigh? h).any (neighKeyCmp af key port)

/-- `neigh_edit`. -/
def neighEdit (st : NeighLcore) (h : Nat) (ethAddr : EtherAddr) : NeighLcore :=
  st.modifyNeigh h fun n => { n with ethAddr := ethAddr }

/-- The address `dpvs_mempool_get` leaves in an entry created without one. -/
def unsetEtherAddr : EtherAddr := ⟨Vector.replicate 6 0⟩

/-- `neigh_add_table`: a new entry, with its timer unless it is static, hashed and
counted; `none` when the mempool is empty. -/
def neighAddTable (env : NeighEnv) (st : NeighLcore) (af : Int) (ipAddr : InetAddr)
    (ethAddr : Option EtherAddr) (port hashkey : Nat) (flag : UInt8) : Option Nat × NeighLcore :=
  if !env.memory then (none, st)
  else
    let h := st.nextHandle
    let n : NeighbourEntry :=
      { af := af, ipAddr := ipAddr, ethAddr := ethAddr.getD unsetEtherAddr, port := port,
        timer := flag &&& neighbourStatic = 0, queue := [], queNum := 0,
        state := if ethAddr.isSome then .reachable else .none, flag := flag }
    let st := neighHash { st with neighs := (h, n) :: st.neighs, nextHandle := h + 1 } h hashkey
    (some h, { st with neighNums := st.neighNums + 1 })

/-- `neigh_entry_state_trans`: a static entry, and the `sNKP` cells, keep their state. -/
def neighEntryStateTrans (st : NeighLcore) (h : Nat) (ev : NudEvent) : NeighLcore :=
  match st.neigh? h with
  | some n =>
    match nudNext ev n.state with
    | some next =>
      if n.flag &&& neighbourStatic = 0 then
        st.modifyNeigh h fun n => { n with state := next, timer := true }
      else st
    | none => st
  | none => st

/-- `neigh_send_mbuf_cach`: every waiting packet goes out with the entry's address. -/
def neighSendMbufCach (st : NeighLcore) (h : Nat) : NeighLcore :=
  match st.neigh? h with
  | some n =>
    let frames := n.queue.map fun m => (⟨m, some n.ethAddr, n.port⟩ : TxFrame)
    ({ st with xmit := st.xmit ++ frames }).modifyNeigh h
      fun n => { n with queue := [], queNum := n.queNum - n.queue.length }
  | none => st

/-- The deletion shared by `neigh_entry_expire` and a delete message: the timer is
cancelled, the entry unhashed, its packets and itself freed, and the count lowered. -/
def neighRelease (st : NeighLcore) (h : Nat) : NeighLcore :=
  let st := st.modifyNeigh h fun n => { n with timer := false }
  let st := (neighUnhash st h).freeNeigh h
  { st with neighNums := st.neighNums - 1 }

/-! ## Events -/

/-- The ARP operations `neigh_resolve_input` tells apart. -/
inductive ArpOp where
  | request
  | reply
  | other
  deriving DecidableEq, Repr

/-- `neigh_resolve_input` for an ARP packet on `port` from `sip` with sender address
`sha`; `ours` is whether its target address is one of the port's. A request is
answered in place and leaves the table alone. -/
def neighResolveInput (env : NeighEnv) (st : NeighLcore) (port : Nat) (ours : Bool) (op : ArpOp)
    (sip : UInt32) (sha : EtherAddr) : Edpvs × NeighLcore :=
  if !ours then (.knicontinue, st)
  else match op with
    | .request => (.ok, st)
    | .other => (.drop, st)
    | .reply =>
      let ipaddr := InetAddr.ofV4 sip
      let hashkey := neighHashkey afInet ipaddr
      let found := (neighLookupEntry st afInet ipaddr port hashkey).bind fun h =>
        (st.neigh? h).bind fun n => if n.flag &&& neighbourStatic = 0 then some h else none
      -- a static entry found is treated as no entry: a new one is added
      let learnt := match found with
        | some h => (some h, neighEdit st h sha)
        | none => neighAddTable env st afInet ipaddr (some sha) port hashkey 0
      match learnt with
      | (none, st) => (.nomem, st)
      | (some h, st) => (.knicontinue, neighSendMbufCach (neighEntryStateTrans st h .recvArp) h)

/-- The queueing of a packet on an unresolved entry, shared by the two branches of
`neigh_output` that wait for an address; the request sent by `neigh_state_confirm` is
not modelled. -/
def neighQueue (st : NeighLcore) (h m : Nat) : NeighLcore :=
  let st := st.modifyNeigh h fun n => { n with queue := n.queue ++ [m], queNum := n.queNum + 1 }
  match st.neigh? h with
  | some n => if n.state = .none then neighEntryStateTrans st h .sendArp else st
  | none => st

/-- `neigh_output` of the packet `m` to `nexthop` on `port`; `noArp` is the port's
`NETIF_PORT_FLAG_NO_ARP`. -/
def neighOutput (env : NeighEnv) (st : NeighLcore) (af : Int) (nexthop : InetAddr) (m port : Nat)
    (noArp : Bool) : Edpvs × NeighLcore :=
  if noArp then (.ok, { st with xmit := st.xmit ++ [⟨m, none, port⟩] })
  else
    let hashkey := neighHashkey af nexthop
    match (neighLookupEntry st af nexthop port hashkey).bind fun h =>
        (st.neigh? h).map fun n => (h, n) with
    | some (h, n) =>
      match n.state with
      | .none | .send =>
        if n.queNum > env.arpUnresQlen then (.drop, st)
        else if !env.memory then (.drop, st)
        else (.ok, neighQueue st h m)
      | .reachable | .probe | .delay =>
        let st := { st with xmit := st.xmit ++ [⟨m, some n.ethAddr, n.port⟩] }
        if n.state = .probe then (.ok, neighEntryStateTrans st h .sendArp) else (.ok, st)
    | none =>
      match neighAddTable env st af nexthop none port hashkey 0 with
      | (none, st) => (.nomem, st)
      | (some h, st) => if !env.memory then (.drop, st) else (.ok, neighQueue st h m)

/-- `neigh_process_ring` for one message. -/
def neighProcessRing (env : NeighEnv) (st : NeighLcore) (param : RawNeigh) : NeighLcore :=
  let hash := neighHashkey param.af param.ipAddr
  let found := neighLookupEntry st param.af param.ipAddr param.port hash
  if param.add then
    let added := match found with
      | some h => (some h, neighEdit st h param.ethAddr)
      | none => neighAddTable env st param.af param.ipAddr (some param.ethAddr) param.port hash
          param.flag
    match added with
    | (none, st) => st
    | (some h, st) =>
      let st := if param.flag &&& neighbourStatic = 0 then neighEntryStateTrans st h .recvArp else st
      neighSendMbufCach st h
  else match found with
    | some h => neighRelease st h
    | none => st

/-- `neigh_ring_clone_param`: the message of a control-plane add or delete, marked static. -/
def neighRingCloneParam (conf : NeighConf) (add : Bool) : RawNeigh :=
  { af := conf.af, ipAddr := conf.ipAddr, ethAddr := conf.ethAddr, port := conf.port, add := add,
    flag := conf.flag ||| neighbourStatic }

/-- `neighbour_timer_event` of the entry `h`. -/
def neighbourTimerEvent (st : NeighLcore) (h : Nat) : NeighLcore :=
  match st.neigh? h with
  | some n => if n.state = .none then neighRelease st h else neighEntryStateTrans st h .timeout
  | none => st

/-- The calls that change one lcore's table. -/
inductive NeighCall where
  | output (af : Int) (nexthop : InetAddr) (m port : Nat) (noArp : Bool)
  | resolveInput (port : Nat) (ours : Bool) (op : ArpOp) (sip : UInt32) (sha : EtherAddr)
  | ring (param : RawNeigh)
  | timer (h : Nat)

/-- One call on the lcore. -/
def neighCall (env : NeighEnv) (st : NeighLcore) : NeighCall → NeighLcore
  | .output af nexthop m port noArp => (neighOutput env st af nexthop m port noArp).2
  | .resolveInput port ours op sip sha => (neighResolveInput env st port ours op sip sha).2
  | .ring param => neighProcessRing env st param
  | .timer h => neighbourTimerEvent st h

/-- A run of calls on the lcore. -/
def neighRun (env : NeighEnv) (st : NeighLcore) (calls : List NeighCall) : NeighLcore :=
  calls.foldl (neighCall env) st

/-- An lcore with an empty table. -/
def neighLcoreInit : NeighLcore := ⟨[], fun _ => [], 0, 0, []⟩

/-! ## A static entry and an ARP reply

The control plane adds 10.0.0.2 on port 1 as a static neighbour. An ARP reply from
10.0.0.2 with another address finds the static entry, does not edit it, and adds a
dynamic entry with the same key in front of it: the table holds two entries for the
key, and the next packet to 10.0.0.2 goes out with the address of the reply. Apart
from that, the check `que_num > arp_unres_qlen` lets a queue grow to one packet more
than `arp_unres_qlen`. -/

/-- 10.0.0.2. -/
def peerAddr : UInt32 := 0x0200000a

/-- The address configured for the peer. -/
def staticMac : EtherAddr := ⟨#v[0x02, 0, 0, 0, 0, 0x0a]⟩

/-- The address an ARP reply claims for it. -/
def replyMac : EtherAddr := ⟨#v[0x02, 0, 0, 0, 0, 0x0b]⟩

/-- The static entry the control plane adds. -/
def staticPeer : NeighConf :=
  { af := afInet, ipAddr := .ofV4 peerAddr, ethAddr := staticMac, port := 1, flag := 0 }

/-- Memory to spare, and the smallest `arp_unres_qlen` the configuration accepts. -/
def neighEnvMin : NeighEnv := ⟨true, 16⟩

theorem static_neighbour_shadowed :
    (neighRun neighEnvMin neighLcoreInit
        [.ring (neighRingCloneParam staticPeer true),
          .resolveInput 1 true .reply peerAddr replyMac]).table (neighHashkey afInet (.ofV4 peerAddr)) =
      [1, 0] ∧
    ((neighRun neighEnvMin neighLcoreInit
        [.ring (neighRingCloneParam staticPeer true),
          .resolveInput 1 true .reply peerAddr replyMac]).neigh? 0).map
        (fun n => (n.ipAddr, n.port, n.ethAddr, n.flag &&& neighbourStatic)) =
      some (.ofV4 peerAddr, 1, staticMac, neighbourStatic) ∧
    ((neighRun neighEnvMin neighLcoreInit
        [.ring (neighRingCloneParam staticPeer true),
          .resolveInput 1 true .reply peerAddr replyMac]).neigh? 1).map
        (fun n => (n.ipAddr, n.port, n.ethAddr, n.flag &&& neighbourStatic)) =
      some (.ofV4 peerAddr, 1, replyMac, 0) ∧
    (neighRun neighEnvMin neighLcoreInit
        [.ring (neighRingCloneParam staticPeer true),
          .resolveInput 1 true .reply peerAddr replyMac]).neighNums = 2 ∧
    (neighRun neighEnvMin neighLcoreInit
        [.ring (neighRingCloneParam staticPeer true),
          .resolveInput 1 true .reply peerAddr replyMac,
          .output afInet (.ofV4 peerAddr) 7 1 false]).xmit = [⟨7, some replyMac, 1⟩] ∧
    ((neighRun neighEnvMin neighLcoreInit
        (List.replicate 17 (.output afInet (.ofV4 peerAddr) 7 1 false))).neigh? 0).map
        (fun n => (n.queNum, n.queue.length)) = some (17, 17) := by
  decide

end Dpvs
