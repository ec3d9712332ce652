import Dpvs.Ipvs.Sched

/-!
# The consistent-hash scheduler

`src/ipvs/ip_vs_conhash.c` keeps one `conhash_node` per destination on the list
`sched_data->nodes`, each the `node_s` of the bundled `libconhash`
(`src/ipvs/libconhash/conhash.c`, `conhash_inter.c`). A node with `replicas`
virtual nodes puts the hashes of `"<iden>-000"`, `"<iden>-001"`, … into the
red-black tree `vnode_tree`, each entry pointing back at the node; `ivnodes`
counts the entries.

The scheduler is told about every change of the destination list through its
`update_service` hook, and recomputes every node's replica count from the
weights' common divisor `dp_vs_gcd_weight` (`src/ipvs/ip_vs_sched.c`).

What the model takes as given: the string hash `cb_hashfunc` (MD5 in
`conhash_inter.c`) and `inet_ntop` are parameters; the tree is a list of entries
searched by key, which is what `util_rbtree_search`, `_insert` and `_delete` do;
every `rte_zmalloc` of a tree entry succeeds. A node's `data` is the address of
its destination: the reference the node holds on it is the node itself.
-/

namespace Dpvs

/-! ## Data -/

/-- `NODE_FLAG_INIT`. -/
def nodeFlagInit : UInt32 := 0x01

/-- `NODE_FLAG_IN`. -/
def nodeFlagIn : UInt32 := 0x02

/-- `REPLICA`, the virtual nodes per unit of reduced weight. -/
def replica : Int := 160

/-- A `conhash_node` with its `node_s`, at address `addr`. -/
structure ConhashNode where
  addr : Nat
  iden : String
  replicas : UInt32
  flag : UInt32
  data : Nat
  deriving DecidableEq, Repr

/-- A `virtual_node_s` in the tree: its hash, which is also the tree key, and the
address of its node. -/
structure VNode where
  hash : Int
  node : Nat
  deriving DecidableEq, Repr

/-- `struct conhash_s` less its hash function. -/
structure Conhash where
  vnodeTree : List VNode
  ivnodes : Nat
  deriving DecidableEq, Repr

/-- `struct conhash_sched_data`. -/
structure ConhashSchedData where
  nodes : List ConhashNode
  conhash : Conhash
  deriving DecidableEq, Repr

/-- What the scheduler gets from outside the repository: the string hash, `inet_ntop`,
and the address each `rte_zmalloc` of a `conhash_node` returns (or nothing). -/
structure ConhashEnv where
  hashfunc : String → Int
  inetNtop : Int → InetAddr → String
  allocNode : Dest → Option Nat

/-- `weight / weight_gcd * REPLICA` of an `int16_t` weight in `int` arithmetic, as the
`u_int` it is stored in and compared as. -/
def replicaCount (weight : Int16) (gcd : Nat) : UInt32 :=
  UInt32.ofInt (weight.toInt.tdiv gcd * replica)

/-! ## `libconhash` -/

/-- `%03d`. -/
def pad3 (i : Nat) : String :=
  let s := toString i
  String.ofList (List.replicate (3 - s.length) '0') ++ s

/-- `__conhash_node2string`: `"%s-%03d"`. -/
def node2string (iden : String) (i : Nat) : String := iden ++ "-" ++ pad3 i

/-- `util_rbtree_search`: the entry with that key. -/
def treeSearch (tree : List VNode) (hash : Int) : Option VNode := tree.find? (·.hash == hash)

/-- One round of `__conhash_add_replicas`: an entry for replica `i` unless its key is
taken. -/
def addReplica (hashfunc : String → Int) (node : ConhashNode) (c : Conhash) (i : Nat) :
    Conhash :=
  let hash := hashfunc (node2string node.iden i)
  match treeSearch c.vnodeTree hash with
  | some _ => c
  | none => { vnodeTree := ⟨hash, node.addr⟩ :: c.vnodeTree, ivnodes := c.ivnodes + 1 }

/-- One round of `__conhash_del_replicas`: the entry for replica `i` goes if it is this
node's. -/
def delReplica (hashfunc : String → Int) (node : ConhashNode) (c : Conhash) (i : Nat) :
    Conhash :=
  let hash := hashfunc (node2string node.iden i)
  match treeSearch c.vnodeTree hash with
  | some v =>
    if v.hash = hash ∧ v.node = node.addr then
      { vnodeTree := c.vnodeTree.erase v, ivnodes := c.ivnodes - 1 }
    else c
  | none => c

/-- `__conhash_add_replicas`. -/
def conhashAddReplicas (hashfunc : String → Int) (c : Conhash) (node : ConhashNode) :
    Conhash :=
  (List.range node.replicas.toNat).foldl (addReplica hashfunc node) c

/-- `__conhash_del_replicas`. -/
def conhashDelReplicas (hashfunc : String → Int) (c : Conhash) (node : ConhashNode) :
    Conhash :=
  (List.range node.replicas.toNat).foldl (delReplica hashfunc node) c

/-- `conhash_set_node`: `strncpy` into the 64-byte `iden`. -/
def conhashSetNode (node : ConhashNode) (iden : String) (replica : UInt32) : ConhashNode :=
  { node with iden := String.ofList (iden.toList.take 63), replicas := replica, flag := nodeFlagInit }

/-- `conhash_add_node`: refused unless the node is set and not yet in. -/
def conhashAddNode (hashfunc : String → Int) (c : Conhash) (node : ConhashNode) :
    Option (Conhash × ConhashNode) :=
  if node.flag &&& nodeFlagInit = 0 ∨ node.flag &&& nodeFlagIn ≠ 0 then none
  else
    let node := { node with flag := node.flag ||| nodeFlagIn }
    some (conhashAddReplicas hashfunc c node, node)

/-- `conhash_del_node`: refused unless the node is set and in. -/
def conhashDelNode (hashfunc : String → Int) (c : Conhash) (node : ConhashNode) :
    Option (Conhash × ConhashNode) :=
  if node.flag &&& nodeFlagInit = 0 ∨ node.flag &&& nodeFlagIn = 0 then none
  else
    let node := { node with flag := node.flag &&& ~~~nodeFlagIn }
    some (conhashDelReplicas hashfunc c node, node)

/-! ### What the ring holds after a node's replicas go in -/

section Ring

variable (hashfunc : String → Int)

theorem treeSearch_cons_isSome {tree : List VNode} {k : Int} (v : VNode)
    (found : (treeSearch tree k).isSome) : (treeSearch (v :: tree) k).isSome := by
  unfold treeSearch at *
  rw [List.find?_cons]
  split <;> simp_all

/-- A key in the tree stays there: a replica only ever adds an entry. -/
theorem addReplica_isSome (node : ConhashNode) (c : Conhash) (i : Nat) {k : Int}
    (found : (treeSearch c.vnodeTree k).isSome) :
    (treeSearch (addReplica hashfunc node c i).vnodeTree k).isSome := by
  unfold addReplica
  dsimp only
  split
  · exact found
  · exact treeSearch_cons_isSome _ found

/-- After a replica's round its key is in the tree, its own or an earlier one. -/
theorem addReplica_self (node : ConhashNode) (c : Conhash) (i : Nat) :
    (treeSearch (addReplica hashfunc node c i).vnodeTree
      (hashfunc (node2string node.iden i))).isSome := by
  unfold addReplica
  dsimp only
  split
  · next found => simp [found]
  · simp [treeSearch]

theorem foldl_addReplica_isSome (node : ConhashNode) (l : List Nat) (c : Conhash) {k : Int}
    (found : (treeSearch c.vnodeTree k).isSome) :
    (treeSearch (l.foldl (addReplica hashfunc node) c).vnodeTree k).isSome := by
  induction l generalizing c with
  | nil => exact found
  | cons i l ih => exact ih _ (addReplica_isSome hashfunc node c i found)

/-- Every replica key of a node is in the tree once its replicas are in. -/
theorem conhashAddReplicas_isSome (c : Conhash) (node : ConhashNode) {i : Nat}
    (lt : i < node.replicas.toNat) :
    (treeSearch (conhashAddReplicas hashfunc c node).vnodeTree
      (hashfunc (node2string node.iden i))).isSome := by
  unfold conhashAddReplicas
  have mem := List.mem_range.mpr lt
  generalize List.range node.replicas.toNat = l at mem
  induction l generalizing c with
  | nil => cases mem
  | cons j l ih =>
    rw [List.foldl_cons]
    rcases List.mem_cons.mp mem with rfl | mem
    · exact foldl_addReplica_isSome hashfunc node l _ (addReplica_self hashfunc node c _)
    · exact ih _ mem

/-- A node all of whose replica keys are taken adds nothing: `__conhash_add_replicas`
skips every "duplicate". -/
theorem conhashAddReplicas_of_present (c : Conhash) (node : ConhashNode)
    (present : ∀ i < node.replicas.toNat,
      (treeSearch c.vnodeTree (hashfunc (node2string node.iden i))).isSome) :
    conhashAddReplicas hashfunc c node = c := by
  unfold conhashAddReplicas
  have each : ∀ i ∈ List.range node.replicas.toNat, addReplica hashfunc node c i = c := by
    intro i mem
    obtain ⟨v, hv⟩ := Option.isSome_iff_exists.mp (present i (List.mem_range.mp mem))
    simp [addReplica, hv]
  generalize List.range node.replicas.toNat = l at each
  induction l with
  | nil => rfl
  | cons i l ih =>
    rw [List.foldl_cons, each i List.mem_cons_self]
    exact ih fun j mem => each j (List.mem_cons_of_mem i mem)

/-- The entries a node's replicas add point at that node. -/
theorem conhashAddReplicas_entries (c : Conhash) (node : ConhashNode) {v : VNode}
    (mem : v ∈ (conhashAddReplicas hashfunc c node).vnodeTree) :
    v ∈ c.vnodeTree ∨ v.node = node.addr := by
  unfold conhashAddReplicas at mem
  generalize List.range node.replicas.toNat = l at mem
  induction l generalizing c with
  | nil => exact .inl mem
  | cons i l ih =>
    rw [List.foldl_cons] at mem
    rcases ih _ mem with old | mine
    · unfold addReplica at old
      dsimp only at old
      split at old
      · exact .inl old
      · rcases List.mem_cons.mp old with rfl | old
        · exact .inr rfl
        · exact .inl old
    · exact .inr mine

end Ring

/-! ## The scheduler of `ip_vs_conhash.c` -/

section Hooks

variable (cenv : ConhashEnv)

/-- The `iden` of a destination's node: `"%s%d"` of `inet_ntop` and the port. -/
def destIden (dest : Dest) : String := cenv.inetNtop dest.af dest.addr ++ toString dest.port.toNat

/-- The destination a node's `data` points at: the one the hook was called for, or one
of the service's list. A node holds a reference on its destination, so in C the
pointer always reads a live object; the walks below leave a node alone in the case
`none`, which their callers never produce. -/
def findNodeDest (dests : List Dest) (dest : Dest) (id : Nat) : Option Dest :=
  (dest :: dests).find? (·.id == id)

/-- `conhash_update_node_replicas`: take the node out of the ring with its old count,
set the new one, put it back. The flag says whether both library calls succeeded. -/
def conhashUpdateNodeReplicas (c : Conhash) (node : ConhashNode) (dest : Dest) (gcd : Nat) :
    Bool × Conhash × ConhashNode :=
  match conhashDelNode cenv.hashfunc c node with
  | none => (false, c, node)
  | some (c, node) =>
    let node := conhashSetNode node (destIden cenv dest) (replicaCount dest.weight gcd)
    match conhashAddNode cenv.hashfunc c node with
    | none => (false, c, node)
    | some (c, node) => (true, c, node)

/-- The walk over `sched_data->nodes` that ends `dp_vs_conhash_add_dest` and makes up
`dp_vs_conhash_edit_dest` (`victim = none`) and `dp_vs_conhash_del_dest` (`victim` the
deleted destination's address): the victim's node leaves the ring and the list, every
other node whose count is off is re-set, and the first failure stops the walk with
what it has changed so far. -/
def conhashWalk (dests : List Dest) (dest : Dest) (gcd : Nat) (victim : Option Nat) :
    Conhash → List ConhashNode → Edpvs × Conhash × List ConhashNode
  | c, [] => (.ok, c, [])
  | c, n :: ns =>
    if victim = some n.data then
      match conhashDelNode cenv.hashfunc c n with
      | none => (.inval, c, n :: ns)
      | some (c, _) => conhashWalk dests dest gcd victim c ns
    else
      match findNodeDest dests dest n.data with
      | none =>
        let r := conhashWalk dests dest gcd victim c ns
        (r.1, r.2.1, n :: r.2.2)
      | some d =>
        if n.replicas = replicaCount d.weight gcd then
          let r := conhashWalk dests dest gcd victim c ns
          (r.1, r.2.1, n :: r.2.2)
        else
          match conhashUpdateNodeReplicas cenv c n d gcd with
          | (false, c, n) => (.inval, c, n :: ns)
          | (true, c, n) =>
            let r := conhashWalk dests dest gcd victim c ns
            (r.1, r.2.1, n :: r.2.2)

/-- `dp_vs_conhash_add_dest`, called with the service's list that already holds
`dest`. A negative weight is refused before anything is allocated. -/
def dpVsConhashAddDest (dests : List Dest) (dest : Dest) (sd : ConhashSchedData) :
    Edpvs × ConhashSchedData :=
  let gcd := dpVsGcdWeight dests
  if dest.weight.toInt < 0 then (.inval, sd)
  else match cenv.allocNode dest with
    | none => (.nomem, sd)
    | some addr =>
      let node := conhashSetNode ⟨addr, "", 0, 0, 0⟩ (destIden cenv dest)
        (replicaCount dest.weight gcd)
      match conhashAddNode cenv.hashfunc sd.conhash node with
      | none => (.inval, sd)
      | some (c, node) =>
        let r := conhashWalk cenv dests dest gcd none c ({ node with data := dest.id } :: sd.nodes)
        (r.1, ⟨r.2.2, r.2.1⟩)

/-- `dp_vs_conhash_del_dest`, called with the list the destination has left. -/
def dpVsConhashDelDest (dests : List Dest) (dest : Dest) (sd : ConhashSchedData) :
    Edpvs × ConhashSchedData :=
  let r := conhashWalk cenv dests dest (dpVsGcdWeight dests) (some dest.id) sd.conhash sd.nodes
  (r.1, ⟨r.2.2, r.2.1⟩)

/-- `dp_vs_conhash_edit_dest`. -/
def dpVsConhashEditDest (dests : List Dest) (dest : Dest) (sd : ConhashSchedData) :
    Edpvs × ConhashSchedData :=
  let r := conhashWalk cenv dests dest (dpVsGcdWeight dests) none sd.conhash sd.nodes
  (r.1, ⟨r.2.2, r.2.1⟩)

/-- `dp_vs_conhash_update_svc`. -/
def dpVsConhashUpdateSvc (dests : List Dest) (dest : Dest) (opt : SetOpt)
    (sd : ConhashSchedData) : Edpvs × ConhashSchedData :=
  match opt with
  | .adddest => dpVsConhashAddDest cenv dests dest sd
  | .deldest => dpVsConhashDelDest cenv dests dest sd
  | .editdest => dpVsConhashEditDest cenv dests dest sd

/-- `dp_vs_conhash_assign`: every destination of the list in turn, stopping at the first
failure. -/
def dpVsConhashAssign (dests : List Dest) : List Dest → ConhashSchedData → Edpvs × ConhashSchedData
  | [], sd => (.ok, sd)
  | d :: ds, sd =>
    match dpVsConhashAddDest cenv dests d sd with
    | (.ok, sd) => dpVsConhashAssign dests ds sd
    | r => r

/-- `dp_vs_conhash_init_svc` once its two allocations have succeeded. -/
def dpVsConhashInitSvc (dests : List Dest) : Edpvs × ConhashSchedData :=
  dpVsConhashAssign cenv dests dests ⟨[], ⟨[], 0⟩⟩

/-- The consistent-hash scheduler as `svc->scheduler` sees it. -/
def conhashScheduler : Scheduler ConhashSchedData := ⟨some (dpVsConhashUpdateSvc cenv)⟩

/-- A walk over nodes whose replica counts are all current changes nothing. -/
theorem conhashWalk_of_current (dests : List Dest) (dest : Dest) (gcd : Nat) (c : Conhash)
    (ns : List ConhashNode)
    (current : ∀ n ∈ ns, ∃ d, findNodeDest dests dest n.data = some d ∧
      n.replicas = replicaCount d.weight gcd) :
    conhashWalk cenv dests dest gcd none c ns = (.ok, c, ns) := by
  induction ns with
  | nil => rfl
  | cons n ns ih =>
    obtain ⟨d, found, count⟩ := current n List.mem_cons_self
    have rest := ih fun m mem => current m (List.mem_cons_of_mem n mem)
    simp [conhashWalk, found, count, rest]

/-- The node `conhash_add_node` hands back for a destination at node address `addr`. -/
def addedNode (dests : List Dest) (dest : Dest) (addr : Nat) : ConhashNode :=
  let node := conhashSetNode ⟨addr, "", 0, 0, 0⟩ (destIden cenv dest)
    (replicaCount dest.weight (dpVsGcdWeight dests))
  { node with flag := node.flag ||| nodeFlagIn }

/-- `dp_vs_conhash_add_dest` when the node can be allocated and every replica count is
current: the node is linked first and its replicas go into the ring. -/
theorem dpVsConhashAddDest_of_current (dests : List Dest) (dest : Dest) (sd : ConhashSchedData)
    {addr : Nat} (weight : 0 ≤ dest.weight.toInt) (alloc : cenv.allocNode dest = some addr)
    (current : ∀ n ∈ { addedNode cenv dests dest addr with data := dest.id } :: sd.nodes,
      ∃ d, findNodeDest dests dest n.data = some d ∧
        n.replicas = replicaCount d.weight (dpVsGcdWeight dests)) :
    dpVsConhashAddDest cenv dests dest sd =
      (.ok, ⟨{ addedNode cenv dests dest addr with data := dest.id } :: sd.nodes,
        conhashAddReplicas cenv.hashfunc sd.conhash (addedNode cenv dests dest addr)⟩) := by
  have walk := conhashWalk_of_current cenv dests dest (dpVsGcdWeight dests)
    (conhashAddReplicas cenv.hashfunc sd.conhash (addedNode cenv dests dest addr)) _ current
  have flag : (conhashSetNode ⟨addr, "", 0, 0, 0⟩ (destIden cenv dest)
      (replicaCount dest.weight (dpVsGcdWeight dests))).flag = nodeFlagInit := rfl
  have cond : ¬ ((conhashSetNode ⟨addr, "", 0, 0, 0⟩ (destIden cenv dest)
        (replicaCount dest.weight (dpVsGcdWeight dests))).flag &&& nodeFlagInit = 0 ∨
      (conhashSetNode ⟨addr, "", 0, 0, 0⟩ (destIden cenv dest)
        (replicaCount dest.weight (dpVsGcdWeight dests))).flag &&& nodeFlagIn ≠ 0) := by
    rw [flag]
    decide
  simp only [dpVsConhashAddDest, show ¬ dest.weight.toInt < 0 by omega, if_false, alloc,
    conhashAddNode, cond, if_false]
  simp only [addedNode] at walk
  rw [walk]
  rfl

end Hooks

/-! ## A destination the scheduler refused

`dp_vs_conhash_add_dest` refuses a destination whose 16-bit weight reads negative,
and `dp_vs_dest_add` drops the hook's code: the destination is on `svc->dests` but
has no node, and every later successful call leaves it without one. -/

/-- The IPv4 destination `10.0.0.2`, port 80, with weight 1. -/
def lightDest : DestConf :=
  { af := afInet, port := 80, weight := 1, addr := InetAddr.ofV4 0x0200000a,
    connFlags := 0, flags := 0, fwdmode := 5, maxConn := 0, minConn := 0 }

/-- After adding `heavyDest` and then `lightDest` to a service without destinations, the
second `update_service` call succeeds and leaves one node for two destinations, whatever
the hash and `inet_ntop`, once the light destination's node can be allocated. -/
theorem conhash_node_missing (cenv : ConhashEnv) {addr : Nat}
    (alloc : cenv.allocNode (dpVsDestNew ⟨false, 1⟩ 2 lightDest) = some addr) :
    let env : LcoreEnv := ⟨false, 1⟩
    let s0 : Svc ConhashSchedData := ⟨[], 0, 0, ⟨[], ⟨[], 0⟩⟩⟩
    let s1 := (dpVsDestAdd env (conhashScheduler cenv) (some 1) s0 heavyDest).2
    let s2 := (dpVsDestAdd env (conhashScheduler cenv) (some 2) s1 lightDest).2
    (dpVsConhashUpdateSvc cenv s1.dests (dpVsDestNew env 1 heavyDest) .adddest
        s0.schedData).1 = .inval ∧
      (dpVsConhashUpdateSvc cenv s2.dests (dpVsDestNew env 2 lightDest) .adddest
        s1.schedData).1 = .ok ∧
      s2.dests.length = 2 ∧ s2.schedData.nodes.length = 1 := by
  intro env s0 s1 s2
  -- the heavy destination's weight reads negative: its hook refuses it before allocating
  have first : s1 = ⟨[dpVsDestNew env 1 heavyDest], 1, 40000, s0.schedData⟩ := rfl
  have dests : s2.dests = [dpVsDestNew env 2 lightDest, dpVsDestNew env 1 heavyDest] := rfl
  -- the light one gets its node, and the walk finds its replica count current
  have added := dpVsConhashAddDest_of_current cenv s2.dests (dpVsDestNew env 2 lightDest)
    s0.schedData (by decide) alloc (by
      intro n mem
      rcases List.mem_cons.mp mem with rfl | empty
      · exact ⟨_, rfl, rfl⟩
      · exact absurd empty List.not_mem_nil)
  have second : s2.schedData =
      (dpVsConhashAddDest cenv s2.dests (dpVsDestNew env 2 lightDest) s0.schedData).2 := rfl
  refine ⟨rfl, ?_, by rw [dests]; rfl, ?_⟩
  · rw [first]
    show (dpVsConhashAddDest cenv s2.dests (dpVsDestNew env 2 lightDest) s0.schedData).1 = .ok
    rw [added]
  · rw [second, added]
    rfl

/-- A hash, an `inet_ntop` and an allocator to run the hooks with. -/
def ringEnv : ConhashEnv :=
  { hashfunc := fun s => s.length, inetNtop := fun _ _ => "10.0.0.1",
    allocNode := fun d => some (100 + d.id) }

theorem conhash_node_missing_ring :
    ringEnv.allocNode (dpVsDestNew ⟨false, 1⟩ 2 lightDest) = some 102 ∧
      let env : LcoreEnv := ⟨false, 1⟩
      let s0 : Svc ConhashSchedData := ⟨[], 0, 0, ⟨[], ⟨[], 0⟩⟩⟩
      let s1 := (dpVsDestAdd env (conhashScheduler ringEnv) (some 1) s0 heavyDest).2
      let s2 := (dpVsDestAdd env (conhashScheduler ringEnv) (some 2) s1 lightDest).2
      (dpVsConhashUpdateSvc ringEnv s1.dests (dpVsDestNew env 1 heavyDest) .adddest
          s0.schedData).1 = .inval ∧
        (dpVsConhashUpdateSvc ringEnv s2.dests (dpVsDestNew env 2 lightDest) .adddest
          s1.schedData).1 = .ok ∧
        s2.dests.length = 2 ∧ s2.schedData.nodes.length = 1 :=
  ⟨rfl, conhash_node_missing ringEnv rfl⟩

/-! ## Identities that run together

`"%s%d"` puts the port's decimal right after the address text, with no separator.
`1.1.1.1` with port 11 and `1.1.1.11` with port 1 (the stored, network-order values)
both get the identity `1.1.1.111`, so their replicas have the same strings and hashes
whatever the hash function is. The second node finds every key taken and adds no
virtual node: one of two equal destinations gets no traffic. -/

/-- `inet_ntop(AF_INET, …)`: the four bytes of `s_addr` in decimal, joined by dots. -/
def inetNtopV4 (a : InetAddr) : String :=
  ".".intercalate ((a.bytes.take 4).map fun b => toString b.toNat)

/-- An available IPv4 destination of weight 1 at address `addr` and port `port`. -/
def joinedDest (id : Nat) (addr : UInt32) (port : UInt16) : Dest :=
  { id := id, af := afInet, addr := InetAddr.ofV4 addr, port := port, flags := destFAvailable,
    connFlags := 0x0200, weight := 1, refcnt := 1, fwdmode := 5, actconns := 0, inactconns := 0,
    persistconns := 0, maxConn := 0, minConn := 0 }

/-- `1.1.1.1` port 11, then `1.1.1.11` port 1. -/
def joinedDests : List Dest := [joinedDest 1 0x01010101 11, joinedDest 2 0x0b010101 1]

/-- The scheduler with the C `inet_ntop` for IPv4, any string hash, and node addresses
`100 + id`. -/
def joinedEnv (hashfunc : String → Int) : ConhashEnv :=
  ⟨hashfunc, fun _ a => inetNtopV4 a, fun d => some (100 + d.id)⟩

theorem conhash_second_dest_gets_no_vnodes (hashfunc : String → Int) :
    destIden (joinedEnv hashfunc) (joinedDest 1 0x01010101 11) =
        destIden (joinedEnv hashfunc) (joinedDest 2 0x0b010101 1) ∧
      (dpVsConhashInitSvc (joinedEnv hashfunc) joinedDests).1 = .ok ∧
      (∃ n ∈ (dpVsConhashInitSvc (joinedEnv hashfunc) joinedDests).2.nodes,
        n.data = 2 ∧ n.replicas = 160) ∧
      ∀ v ∈ (dpVsConhashInitSvc (joinedEnv hashfunc) joinedDests).2.conhash.vnodeTree,
        v.node = 101 := by
  -- the two identities are one string
  have same : destIden (joinedEnv hashfunc) (joinedDest 1 0x01010101 11) =
      destIden (joinedEnv hashfunc) (joinedDest 2 0x0b010101 1) := by
    show inetNtopV4 _ ++ toString _ = inetNtopV4 _ ++ toString _
    decide
  let env := joinedEnv hashfunc
  let node1 := addedNode env joinedDests (joinedDest 1 0x01010101 11) 101
  let node2 := addedNode env joinedDests (joinedDest 2 0x0b010101 1) 102
  let ring1 := conhashAddReplicas env.hashfunc ⟨[], 0⟩ node1
  have first : dpVsConhashAddDest env joinedDests (joinedDest 1 0x01010101 11) ⟨[], ⟨[], 0⟩⟩ =
      (.ok, ⟨[{ node1 with data := 1 }], ring1⟩) := by
    refine dpVsConhashAddDest_of_current env joinedDests _ _ (by decide)
      (show env.allocNode _ = some 101 from rfl) ?_
    intro n mem
    rw [List.mem_singleton.mp mem]
    exact ⟨joinedDest 1 0x01010101 11,
      show findNodeDest joinedDests (joinedDest 1 0x01010101 11) 1 = _ by decide, rfl⟩
  -- the second node's keys are all taken by the first node's
  have taken : conhashAddReplicas env.hashfunc ring1 node2 = ring1 := by
    apply conhashAddReplicas_of_present
    intro i lt
    have idens : node2.iden = node1.iden := by
      simp only [node1, node2, addedNode, conhashSetNode]
      rw [same]
    rw [idens]
    exact conhashAddReplicas_isSome env.hashfunc _ node1 lt
  have second : dpVsConhashAddDest env joinedDests (joinedDest 2 0x0b010101 1)
      ⟨[{ node1 with data := 1 }], ring1⟩ =
      (.ok, ⟨[{ node2 with data := 2 }, { node1 with data := 1 }], ring1⟩) := by
    rw [dpVsConhashAddDest_of_current env joinedDests _ _ (by decide)
      (show env.allocNode _ = some 102 from rfl) ?_, taken]
    · rfl
    intro n mem
    rcases List.mem_cons.mp mem with rfl | mem
    · exact ⟨joinedDest 2 0x0b010101 1,
        show findNodeDest joinedDests (joinedDest 2 0x0b010101 1) 2 = _ by decide, rfl⟩
    · rw [List.mem_singleton.mp mem]
      exact ⟨joinedDest 1 0x01010101 11,
        show findNodeDest joinedDests (joinedDest 2 0x0b010101 1) 1 = _ by decide, rfl⟩
  have init : dpVsConhashInitSvc env joinedDests =
      (.ok, ⟨[{ node2 with data := 2 }, { node1 with data := 1 }], ring1⟩) := by
    show dpVsConhashAssign env joinedDests
      [joinedDest 1 0x01010101 11, joinedDest 2 0x0b010101 1] ⟨[], ⟨[], 0⟩⟩ = _
    simp only [dpVsConhashAssign, first, second]
  have count : node2.replicas = 160 := by
    show replicaCount (joinedDest 2 0x0b010101 1).weight (dpVsGcdWeight joinedDests) = 160
    decide
  rw [init]
  refine ⟨same, rfl, ⟨_, List.mem_cons_self, rfl, count⟩, fun v mem => ?_⟩
  -- every entry of the ring is one of the first node's
  have inRing : v ∈ (conhashAddReplicas env.hashfunc ⟨[], 0⟩ node1).vnodeTree := mem
  rcases conhashAddReplicas_entries env.hashfunc _ node1 inRing with empty | mine
  · cases empty
  · rw [mine]
    rfl

end Dpvs
