import Dpvs.SaPool.Pool

/-!
# The tunnel table and its lookup

`src/ip_tunnel.c` keeps the tunnels of one kind (GRE, IPIP) in `IP_TNL_HASH_SIZE`
buckets. `tunnel_create` and `tunnel_change` put a tunnel at the head of the bucket of
`hash(i_key, daddr)` (`tunnelHashHead`), `tunnel_destroy` unlinks it, and every table the
configuration calls build keeps each tunnel in that one bucket (`TunnelOk`, kept by
`tunnelSoSet`).

`ip_tunnel_lookup` demultiplexes a received packet in four stages, after Linux: exact
addresses, wildcard source, the local address (or a multicast group), and the key
alone. It scans the bucket of `hash(key, remote)` for the first two stages and that of
`hash(key, 0)` for the last two, so it only ever returns a tunnel of those two buckets
(`ipTunnelLookup_mem`). A tunnel whose own bucket is neither is never returned, even when
it is the one tunnel that accepts the packet: one with an `i_key` but no `TUNNEL_F_KEY`,
which accepts keyless packets at the first stage, is placed by its key but looked for
by the packet's (`ip_tunnel_lookup_misses_placed_tunnel`).

Addresses, keys and flags are the raw network-order words the code compares.
-/

namespace Dpvs.Tunnel

open Dpvs.Sa (htons)

/-- `IP_TNL_HASH_SIZE`. -/
def ipTnlHashSize : Nat := 128

/-- `NETIF_PORT_ID_INVALID`. -/
def netifPortIdInvalid : UInt16 := 4096

/-- `TUNNEL_F_KEY`, `htobe16(0x04)`. -/
def tunnelFKey : UInt16 := htons 0x04

/-- `TUNNEL_F_NO_KEY`, `htobe16(0x80)`. -/
def tunnelFNoKey : UInt16 := htons 0x80

/-- The fields of `struct ip_tunnel_param` the table reads, with the input port of the
link device `tnl->link` when there is one. -/
structure TnlParams where
  iFlags : UInt16
  iKey : UInt32
  saddr : UInt32
  daddr : UInt32
  link : Option UInt16
  deriving DecidableEq, Repr

/-- A tunnel: its device, its parameters and whether the device is running. -/
structure Tnl where
  dev : Nat
  params : TnlParams
  running : Bool
  deriving DecidableEq, Repr

/-- `struct ip_tunnel_tab`: the buckets and `fb_tunnel_dev`. -/
structure TunnelTab where
  tunnels : Nat → List Tnl
  fb : Option Tnl

/-- `ip_tunnel_init_tab`: empty buckets; the creation of a fallback device is compiled
out. -/
def tunnelTabInit : TunnelTab := ⟨fun _ => [], none⟩

/-- `tunnel_hash_head`. -/
def tunnelHashHead (key remote : UInt32) : Nat := (key ^^^ remote).toNat % ipTnlHashSize

/-- `IN_MULTICAST`, on the word it is given. -/
def inMulticast (a : UInt32) : Bool := a &&& 0xf0000000 == 0xe0000000

/-- `tunnel_key_match`. -/
def tunnelKeyMatch (p : TnlParams) (flags : UInt16) (key : UInt32) : Bool :=
  if p.iFlags &&& tunnelFKey ≠ 0 then
    if flags &&& tunnelFKey ≠ 0 then key == p.iKey else false
  else flags &&& tunnelFKey == 0

/-- `tunnel_link_match`. -/
def tunnelLinkMatch (t : Tnl) (port : UInt16) : Bool :=
  (port == netifPortIdInvalid && t.params.link.isNone) || t.params.link == some port

/-- One `hlist_for_each_entry` of the lookup over a bucket: the first accepted tunnel on
the packet's link is returned (`.inl`); otherwise the candidate is passed on (`.inr`),
replaced by an accepted tunnel on another link at every one (`overwrite`, the first
stage) or only when there is none yet (the other stages). -/
def tunnelScan (accept : Tnl → Bool) (link : UInt16) (overwrite : Bool) :
    List Tnl → Option Tnl → Tnl ⊕ Option Tnl
  | [], cand => .inr cand
  | t :: rest, cand =>
    if !accept t then tunnelScan accept link overwrite rest cand
    else if tunnelLinkMatch t link then .inl t
    else tunnelScan accept link overwrite rest (if overwrite || cand.isNone then some t else cand)

section Stages

variable (flags : UInt16) (remote localAddr key : UInt32) (t : Tnl)

/-- The first stage: both addresses, the key. -/
def tunnelStage1 : Bool :=
  localAddr == t.params.saddr && remote == t.params.daddr && t.running &&
    tunnelKeyMatch t.params flags key

/-- The second stage: the remote address with a wildcard source, the key. -/
def tunnelStage2 : Bool :=
  remote == t.params.daddr && t.params.saddr == 0 && t.running &&
    tunnelKeyMatch t.params flags key

/-- The third stage: the local address with a wildcard remote, or a multicast group
joined by its address, the key. -/
def tunnelStage3 : Bool :=
  ((localAddr == t.params.saddr && t.params.daddr == 0) ||
      (localAddr == t.params.daddr && inMulticast localAddr)) &&
    t.running && tunnelKeyMatch t.params flags key

/-- The fourth stage: the key alone, both addresses wildcards. -/
def tunnelStage4 : Bool :=
  t.params.iKey == key && t.params.saddr == 0 && t.params.daddr == 0 && t.running

end Stages

/-- `ip_tunnel_lookup`. -/
def ipTunnelLookup (tab : TunnelTab) (link flags : UInt16) (remote localAddr key : UInt32) :
    Option Tnl :=
  let head := tab.tunnels (tunnelHashHead key remote)
  match tunnelScan (tunnelStage1 flags remote localAddr key) link true head none with
  | .inl t => some t
  | .inr cand =>
    match tunnelScan (tunnelStage2 flags remote key) link false head cand with
    | .inl t => some t
    | .inr cand =>
      let head := tab.tunnels (tunnelHashHead key 0)
      match tunnelScan (tunnelStage3 flags localAddr key) link false head cand with
      | .inl t => some t
      | .inr cand =>
        let keyed :=
          if flags &&& tunnelFNoKey ≠ 0 then .inr cand
          else tunnelScan (tunnelStage4 key) link false head cand
        match keyed with
        | .inl t => some t
        | .inr (some t) => some t
        | .inr none =>
          match tab.fb with
          | some fb => if fb.running then some fb else none
          | none => none

/-! ## Building the table -/

/-- `hlist_add_head` of a tunnel into the bucket of its key and remote address. -/
def tunnelInsert (tab : TunnelTab) (t : Tnl) : TunnelTab :=
  let h := tunnelHashHead t.params.iKey t.params.daddr
  { tab with tunnels := Function.update tab.tunnels h (t :: tab.tunnels h) }

/-- `hlist_del` of the tunnel of a device. -/
def tunnelUnlink (tab : TunnelTab) (dev : Nat) : TunnelTab :=
  { tab with tunnels := fun h => (tab.tunnels h).filter (·.dev ≠ dev) }

/-- The tunnel of a device, found in the bucket its parameters hash to. -/
def tunnelOf (tab : TunnelTab) (dev : Nat) : Option Tnl :=
  ((List.range ipTnlHashSize).flatMap tab.tunnels).find? (·.dev = dev)

/-- `tunnel_create`: a running device, inserted. -/
def tunnelCreate (tab : TunnelTab) (dev : Nat) (p : TnlParams) : TunnelTab :=
  tunnelInsert tab ⟨dev, p, true⟩

/-- `tunnel_change`: unlinked, given its new parameters, inserted again. -/
def tunnelChange (tab : TunnelTab) (t : Tnl) (p : TnlParams) : TunnelTab :=
  tunnelInsert (tunnelUnlink tab t.dev) { t with params := p }

/-- `tunnel_destroy`: unlinked, and no longer the fallback device. -/
def tunnelDestroy (tab : TunnelTab) (dev : Nat) : TunnelTab :=
  let tab := tunnelUnlink tab dev
  { tab with fb := match tab.fb with
    | some fb => if fb.dev = dev then none else some fb
    | none => none }

/-- The calls of `tunnel_so_set`, each on the device it names. -/
inductive TunnelOp where
  | add (dev : Nat) (p : TnlParams)
  | del (dev : Nat)
  | change (dev : Nat) (p : TnlParams)
  | replace (dev : Nat) (p : TnlParams)

/-- `tunnel_so_set` on the table. -/
def tunnelSoSet (tab : TunnelTab) : TunnelOp → Edpvs × TunnelTab
  | .add dev p =>
    match tunnelOf tab dev with
    | some _ => (.exist, tab)
    | none => (.ok, tunnelCreate tab dev p)
  | .del dev =>
    match tunnelOf tab dev with
    | none => (.notexist, tab)
    | some _ => (.ok, tunnelDestroy tab dev)
  | .change dev p =>
    match tunnelOf tab dev with
    | none => (.notexist, tab)
    | some t => (.ok, tunnelChange tab t p)
  | .replace dev p =>
    match tunnelOf tab dev with
    | none => (.notexist, tab)
    | some _ => (.ok, tunnelCreate (tunnelDestroy tab dev) dev p)

/-- A run of configuration calls. -/
def tunnelRun (tab : TunnelTab) (ops : List TunnelOp) : TunnelTab :=
  ops.foldl (fun tab op => (tunnelSoSet tab op).2) tab

/-! ## Every tunnel sits in the bucket of its key and remote address -/

/-- What the configuration calls keep of the table: each tunnel is in the bucket its
`i_key` and `daddr` hash to, and there is no fallback device. -/
structure TunnelOk (tab : TunnelTab) : Prop where
  placed : ∀ h t, t ∈ tab.tunnels h → h = tunnelHashHead t.params.iKey t.params.daddr
  noFb : tab.fb = none

theorem tunnelOk_init : TunnelOk tunnelTabInit := ⟨fun _ _ mem => absurd mem List.not_mem_nil, rfl⟩

theorem TunnelOk.insert {tab : TunnelTab} (ok : TunnelOk tab) (t : Tnl) : TunnelOk (tunnelInsert tab t) where
  placed h t' mem := by
    simp only [tunnelInsert, Function.update_apply] at mem
    split at mem
    · rename_i same
      rcases List.mem_cons.mp mem with rfl | old
      · exact same
      · exact ok.placed h t' (same ▸ old)
    · exact ok.placed h t' mem
  noFb := ok.noFb

theorem TunnelOk.unlink {tab : TunnelTab} (ok : TunnelOk tab) (dev : Nat) :
    TunnelOk (tunnelUnlink tab dev) where
  placed h t mem := ok.placed h t (List.mem_of_mem_filter mem)
  noFb := ok.noFb

theorem TunnelOk.destroy {tab : TunnelTab} (ok : TunnelOk tab) (dev : Nat) :
    TunnelOk (tunnelDestroy tab dev) where
  placed h t mem := (ok.unlink dev).placed h t mem
  noFb := by simp [tunnelDestroy, tunnelUnlink, ok.noFb]

/-- Every configuration call keeps the table's shape. -/
theorem TunnelOk.soSet {tab : TunnelTab} (ok : TunnelOk tab) (op : TunnelOp) :
    TunnelOk (tunnelSoSet tab op).2 := by
  cases op with
  | add dev p =>
    simp only [tunnelSoSet]
    split
    · exact ok
    · exact ok.insert _
  | del dev =>
    simp only [tunnelSoSet]
    split
    · exact ok
    · exact ok.destroy dev
  | change dev p =>
    simp only [tunnelSoSet]
    split
    · exact ok
    · exact (ok.unlink _).insert _
  | replace dev p =>
    simp only [tunnelSoSet]
    split
    · exact ok
    · exact (ok.destroy dev).insert _

theorem TunnelOk.run : ∀ {tab : TunnelTab} (ops : List TunnelOp), TunnelOk tab → TunnelOk (tunnelRun tab ops)
  | _, [], ok => ok
  | _, op :: ops, ok => TunnelOk.run ops (ok.soSet op)

/-! ## Where the lookup looks -/

/-- A property of every tunnel of a bucket and of the candidate holds of what a scan
returns and of the candidate it passes on. -/
theorem tunnelScan_elim {P : Tnl → Prop} (accept : Tnl → Bool) (link : UInt16) (overwrite : Bool) :
    ∀ (l : List Tnl) (cand : Option Tnl), (∀ t ∈ l, P t) → (∀ t ∈ cand, P t) →
      Sum.elim P (fun c => ∀ t ∈ c, P t) (tunnelScan accept link overwrite l cand)
  | [], _, _, hc => hc
  | t :: rest, cand, hl, hc => by
    have head := hl t List.mem_cons_self
    have tail : ∀ t' ∈ rest, P t' := fun t' mem => hl t' (List.mem_cons_of_mem t mem)
    unfold tunnelScan
    split
    · exact tunnelScan_elim accept link overwrite rest cand tail hc
    split
    · exact head
    -- the candidate passed on is this tunnel or the one before
    refine tunnelScan_elim accept link overwrite rest _ tail fun t' mem => ?_
    split at mem
    · cases mem
      exact head
    · exact hc t' mem

/-- `ip_tunnel_lookup` returns a tunnel of the bucket of the packet's key and remote
address, one of the bucket of its key alone, or the fallback device. -/
theorem ipTunnelLookup_mem {tab : TunnelTab} {link flags : UInt16} {remote localAddr key : UInt32}
    {t : Tnl} (h : ipTunnelLookup tab link flags remote localAddr key = some t) :
    t ∈ tab.tunnels (tunnelHashHead key remote) ∨ t ∈ tab.tunnels (tunnelHashHead key 0) ∨
      tab.fb = some t := by
  let P : Tnl → Prop := fun t => t ∈ tab.tunnels (tunnelHashHead key remote) ∨
    t ∈ tab.tunnels (tunnelHashHead key 0)
  suffices P t ∨ tab.fb = some t from or_assoc.mp this
  have first : ∀ t ∈ tab.tunnels (tunnelHashHead key remote), P t := fun _ mem => .inl mem
  have zero : ∀ t ∈ tab.tunnels (tunnelHashHead key 0), P t := fun _ mem => .inr mem
  unfold ipTunnelLookup at h
  dsimp only at h
  -- each stage passes on a candidate of the buckets scanned so far
  have s1 := tunnelScan_elim (tunnelStage1 flags remote localAddr key) link true
    (tab.tunnels (tunnelHashHead key remote)) none first (fun _ mem => by cases mem)
  split at h
  · rename_i e1
    rw [e1] at s1
    cases h
    exact .inl s1
  rename_i c1 e1
  rw [e1] at s1
  have s2 := tunnelScan_elim (tunnelStage2 flags remote key) link false _ c1 first s1
  split at h
  · rename_i e2
    rw [e2] at s2
    cases h
    exact .inl s2
  rename_i c2 e2
  rw [e2] at s2
  have s3 := tunnelScan_elim (tunnelStage3 flags localAddr key) link false _ c2 zero s2
  split at h
  · rename_i e3
    rw [e3] at s3
    cases h
    exact .inl s3
  rename_i c3 e3
  rw [e3] at s3
  have s4 : Sum.elim P (fun c => ∀ t ∈ c, P t) (if flags &&& tunnelFNoKey ≠ 0 then .inr c3
      else tunnelScan (tunnelStage4 key) link false (tab.tunnels (tunnelHashHead key 0)) c3) := by
    split
    · exact s3
    · exact tunnelScan_elim _ link false _ c3 zero s3
  split at h
  · rename_i e4
    rw [e4] at s4
    cases h
    exact .inl s4
  · rename_i e4
    rw [e4] at s4
    cases h
    exact .inl (s4 _ rfl)
  -- no candidate: the fallback device
  split at h
  · rename_i fb e
    split at h
    · cases h
      exact .inr e
    · cases h
  · cases h
/-- On every table the configuration calls build, the lookup never returns a tunnel whose
own bucket is neither of the two it scans, whichever stage would accept it. -/
theorem ip_tunnel_lookup_misses_placed_tunnel (ops : List TunnelOp) (link flags : UInt16)
    (remote localAddr key : UInt32) (t : Tnl)
    (elsewhere : tunnelHashHead t.params.iKey t.params.daddr ≠ tunnelHashHead key remote ∧
      tunnelHashHead t.params.iKey t.params.daddr ≠ tunnelHashHead key 0) :
    ipTunnelLookup (tunnelRun tunnelTabInit ops) link flags remote localAddr key ≠ some t := by
  intro found
  have ok := TunnelOk.run ops tunnelOk_init
  rcases ipTunnelLookup_mem found with mem | mem | fb
  · exact elsewhere.1 (ok.placed _ t mem).symm
  · exact elsewhere.2 (ok.placed _ t mem).symm
  · rw [ok.noFb] at fb
    cases fb

/-- A tunnel from 10.0.0.1 to 10.0.0.2 (raw words) with key 5 but no
`TUNNEL_F_KEY`: it accepts keyless packets. -/
def keylessParams : TnlParams := ⟨0, 5, 0x0100000a, 0x0200000a, none⟩

/-- The one tunnel is configured, the first stage accepts a keyless packet between its
addresses on any link, and the lookup still does not return it: the tunnel sits in
bucket 15, the lookup scans buckets 10 and 0. -/
theorem ip_tunnel_lookup_misses_placed_tunnel_keyless :
    tunnelOf (tunnelRun tunnelTabInit [.add 1 keylessParams]) 1 = some ⟨1, keylessParams, true⟩ ∧
    tunnelStage1 0 0x0200000a 0x0100000a 0 ⟨1, keylessParams, true⟩ = true ∧
    tunnelLinkMatch ⟨1, keylessParams, true⟩ netifPortIdInvalid = true ∧
    (tunnelHashHead 5 0x0200000a ≠ tunnelHashHead 0 0x0200000a ∧
      tunnelHashHead 5 0x0200000a ≠ tunnelHashHead 0 0) ∧
    ipTunnelLookup (tunnelRun tunnelTabInit [.add 1 keylessParams]) netifPortIdInvalid 0
      0x0200000a 0x0100000a 0 ≠ some ⟨1, keylessParams, true⟩ :=
  ⟨by decide, by decide, by decide, ⟨by decide, by decide⟩,
    ip_tunnel_lookup_misses_placed_tunnel [.add 1 keylessParams] _ _ _ _ _ _
      ⟨by decide, by decide⟩⟩

end Dpvs.Tunnel
