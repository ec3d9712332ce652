import Dpvs.Basic
import Dpvs.Lib.WhileLoop

/-!
# The pfifo_fast queue discipline

`src/tc/sch_pfifo_fast.c` keeps three FIFO bands of packets. `pfifo_fast_enqueue` reads
the priority of a packet from its IP header and appends it to the band
`prio2band[prio]`; `pfifo_fast_dequeue` takes the oldest packet of the lowest band that
is not empty, which it finds through the summary `priv->bitmap` and the table
`bitmap2band`. Beside the bands the discipline keeps the counters of `sch->qstats`
and, per band, the `uint16_t` count `qh->qlen` by which it decides to clear a band's bit.

Both `pfifo_fast_enqueue` and `match_classify` find the IP header by the same walk over
802.1Q tags (`l2Walk`): at each tag they read the encapsulated type of
`veh = (struct vlan_ethhdr *)eh`, which is always the first tag's, and move the offset
on by one tag. A frame with a second tag whose type is again `ETH_P_8021Q` keeps the walk
at the same type for ever (`l2Walk_stacked`).

The limit test of `pfifo_fast_enqueue` reads `sch->q.qlen`, the count of the generic
queue that pfifo_fast never uses, so it is always 0 and no packet is ever refused for
the limit (`pfifo_fast_limit_never_enforced`). Within runs whose bands stay below 65537
packets the bitmap, the counters and the dequeue order are those of three FIFOs
(`PfifoOk`, `pfifoFastDequeue_spec`).

A packet is modelled by its data from the Ethernet header on, in one segment, so that
`mbuf_may_pull` succeeds exactly when the bytes are there; bytes read past the data read
as 0.
-/

namespace Dpvs.Tc

/-- `ETH_P_8021Q`. -/
def ethP8021Q : UInt16 := 0x8100

/-- `ETH_P_IP`. -/
def ethPIp : UInt16 := 0x0800

/-- `ETH_P_IPV6`. -/
def ethPIpv6 : UInt16 := 0x86dd

/-- `sizeof(struct rte_ether_hdr)`. -/
def ethHlen : Nat := 14

/-- `VLAN_HLEN`. -/
def vlanHlen : Nat := 4

/-- A packet as the traffic-control code reads it: its data from the Ethernet header on,
`pkt_len` and the input port `mbuf->port`. -/
structure Mbuf where
  data : List UInt8
  pktLen : UInt32
  port : UInt16
  deriving DecidableEq, Repr

namespace Mbuf

/-- The 16-bit field at `k` in network order, as `ntohs` reads it. -/
def be16 (m : Mbuf) (k : Nat) : UInt16 :=
  ((m.data.getD k 0).toUInt16 <<< 8) ||| (m.data.getD (k + 1) 0).toUInt16

/-- The 32-bit field at `k` in network order, as `ntohl` reads it. -/
def be32 (m : Mbuf) (k : Nat) : UInt32 :=
  ((m.data.getD k 0).toUInt32 <<< 24) ||| ((m.data.getD (k + 1) 0).toUInt32 <<< 16) |||
    ((m.data.getD (k + 2) 0).toUInt32 <<< 8) ||| (m.data.getD (k + 3) 0).toUInt32

end Mbuf

/-- `mbuf_may_pull(mbuf, len) == 0` on a packet of one segment. -/
def mbufMayPull (m : Mbuf) (len : Nat) : Bool := len ≤ m.data.length

/-! ## The walk over 802.1Q tags -/

/-- `case ETH_P_8021Q:` of the `l2parse:` switch. -/
def isVlanTag (st : UInt16 × Nat) : Bool := st.1 = ethP8021Q

/-- `veh = (struct vlan_ethhdr *)eh; pkt_type = veh->h_vlan_encapsulated_proto;
offset += VLAN_HLEN;`: the type is read at bytes 16 and 17 whatever the offset. -/
def vlanSkip (m : Mbuf) (st : UInt16 × Nat) : Except Empty (UInt16 × Nat) :=
  .ok (m.be16 16, st.2 + vlanHlen)

/-- The `l2parse:` loop from `pkt_type = eh->ether_type`, `offset = sizeof(*eh)`: the type
and offset it leaves with, or `none` when it has not left within `fuel` rounds. -/
def l2Walk (m : Mbuf) (fuel : Nat) : Option (UInt16 × Nat) :=
  match WhileLoop.run isVlanTag (vlanSkip m) fuel (m.be16 12, ethHlen) with
  | some (.ok st) => some st
  | _ => none

/-! ## `struct pfifo_fast_priv` and the counters of the `Qsch` -/

/-- `prio2band`. -/
def prio2band : List (Fin 3) := [1, 2, 2, 2, 1, 2, 0, 0, 1, 1, 1, 1, 1, 1, 1, 1]

/-- `bitmap2band`, with `-1` as `none`; a bitmap past 7 would read past the table and
reads as `none`. -/
def bitmap2band : List (Option (Fin 3)) :=
  [none, some 0, some 1, some 0, some 2, some 0, some 1, some 0]

/-- A pfifo_fast `Qsch` with its private part: the bands `priv->q[b].mbufs` and their
`uint16_t` counts `priv->q[b].qlen`, `priv->bitmap`, the count `sch->q.qlen` of the
generic queue, `sch->limit`, and the statistics `sch->qstats` and `sch->bstats`. -/
structure PfifoFast where
  bands : Vector (List Mbuf) 3
  bandQlen : Vector UInt16 3
  bitmap : UInt32
  qQlen : UInt16
  limit : UInt32
  qlen : UInt32
  backlog : UInt32
  drops : UInt32
  packets : UInt32
  bytes : UInt64
  deriving DecidableEq, Repr

/-- `sch_alloc` (`rte_zmalloc`, `tc_mbuf_head_init(&sch->q)`) then `pfifo_fast_init`. -/
def pfifoFastInit : PfifoFast :=
  ⟨#v[[], [], []], #v[0, 0, 0], 0, 0, 1024, 0, 0, 0, 0, 0⟩

/-- `qsch_drop`: the packet is freed and counted. -/
def qschDrop (s : PfifoFast) : PfifoFast := { s with drops := s.drops + 1 }

/-- `__qsch_enqueue_tail` into band `b`; `tmOk` is whether `rte_mempool_get` gave a
`tc_mbuf`. -/
def qschEnqueueTail (s : PfifoFast) (b : Fin 3) (m : Mbuf) (tmOk : Bool) : Edpvs × PfifoFast :=
  if tmOk then
    (.ok, { s with
      bands := s.bands.set b (s.bands[b] ++ [m])
      bandQlen := s.bandQlen.set b (s.bandQlen[b] + 1) })
  else (.nomem, qschDrop s)

/-- `__qsch_dequeue_head` of band `b`. -/
def qschDequeueHead (s : PfifoFast) (b : Fin 3) : Option Mbuf × PfifoFast :=
  match s.bands[b] with
  | [] => (none, s)
  | m :: rest =>
    (some m, { s with
      bands := s.bands.set b rest
      bandQlen := s.bandQlen.set b (s.bandQlen[b] - 1) })

/-- The priority `pfifo_fast_enqueue` reads after the tags: the TOS bits of an IPv4
header, the traffic-class bits of an IPv6 one, 0 when the header cannot be pulled or the
frame is not IP. -/
def pfifoFastPrio (m : Mbuf) (pktType : UInt16) (offset : Nat) : UInt8 :=
  if pktType = ethPIp then
    if mbufMayPull m (offset + 20) then ((m.data.getD (offset + 1) 0) >>> 1) &&& 0x0f else 0
  else if pktType = ethPIpv6 then
    if mbufMayPull m (offset + 40) then ((m.be32 offset >>> 21) &&& 0x0f).toUInt8 else 0
  else 0

/-- `band = prio2band[prio]`; the priority is below 16, so the default is never read. -/
def pfifoFastBand (m : Mbuf) (pktType : UInt16) (offset : Nat) : Fin 3 :=
  prio2band.getD (pfifoFastPrio m pktType offset).toNat 0

/-- `pfifo_fast_enqueue`, `none` when its walk over the tags does not end within `fuel`
rounds. -/
def pfifoFastEnqueue (fuel : Nat) (tmOk : Bool) (s : PfifoFast) (m : Mbuf) :
    Option (Edpvs × PfifoFast) :=
  -- `sch->q.qlen`, not the number of packets in the bands
  if s.qQlen.toUInt32 ≥ s.limit then some (.drop, qschDrop s)
  else
    match l2Walk m fuel with
    | none => none
    | some (pktType, offset) =>
      let band := pfifoFastBand m pktType offset
      match qschEnqueueTail s band m tmOk with
      | (.ok, s) =>
        some (.ok, { s with
          bitmap := s.bitmap ||| ((1 : UInt32) <<< band.val.toUInt32)
          qlen := s.qlen + 1
          backlog := s.backlog + m.pktLen })
      | (err, s) => some (err, s)

/-- `pfifo_fast_dequeue`. -/
def pfifoFastDequeue (s : PfifoFast) : Option Mbuf × PfifoFast :=
  match bitmap2band.getD s.bitmap.toNat none with
  | none => (none, s)
  | some b =>
    let (mbuf, s) := qschDequeueHead s b
    let s := match mbuf with
      | some m => { s with
          qlen := s.qlen - 1
          backlog := s.backlog - m.pktLen
          packets := s.packets + 1
          bytes := s.bytes + m.pktLen.toUInt64 }
      | none => s
    let s := if s.bandQlen[b] = 0 then
        { s with bitmap := s.bitmap &&& ~~~((1 : UInt32) <<< b.val.toUInt32) }
      else s
    (mbuf, s)

/-- `pfifo_fast_peek`. -/
def pfifoFastPeek (s : PfifoFast) : Option Mbuf :=
  match bitmap2band.getD s.bitmap.toNat none with
  | none => none
  | some b => s.bands[b].head?

/-- `pfifo_fast_reset`: every queued packet dropped through `qsch_drop`, the bands, their
counts, the queue statistics and the bitmap cleared. -/
def pfifoFastReset (s : PfifoFast) : PfifoFast :=
  { s with
    bands := #v[[], [], []]
    bandQlen := #v[0, 0, 0]
    bitmap := 0
    qlen := 0
    backlog := 0
    drops := s.drops + (s.bands[0].length + s.bands[1].length + s.bands[2].length).toUInt32 }

/-- The calls a run is made of. -/
inductive PfifoCall where
  | enqueue (m : Mbuf) (tmOk : Bool)
  | dequeue
  | peek
  | reset

/-- One call; `none` when an enqueue does not return. -/
def pfifoFastCall (fuel : Nat) (s : PfifoFast) : PfifoCall → Option PfifoFast
  | .enqueue m tmOk => (pfifoFastEnqueue fuel tmOk s m).map Prod.snd
  | .dequeue => some (pfifoFastDequeue s).2
  | .peek => some s
  | .reset => some (pfifoFastReset s)

/-- A run of calls. -/
def pfifoFastRun (fuel : Nat) : PfifoFast → List PfifoCall → Option PfifoFast
  | s, [] => some s
  | s, c :: cs => (pfifoFastCall fuel s c).bind fun s => pfifoFastRun fuel s cs

/-! ## What the bands hold -/

/-- A quantity summed over the three bands. -/
def bandsSum (f : List Mbuf → Nat) (bands : Vector (List Mbuf) 3) : Nat :=
  f bands[0] + f bands[1] + f bands[2]

/-- The packets queued in the bands. -/
def queued (s : PfifoFast) : Nat := bandsSum List.length s.bands

/-- The bytes queued in the bands, by `pkt_len`. -/
def queuedBytes (s : PfifoFast) : Nat := bandsSum (fun l => (l.map fun m => m.pktLen.toNat).sum) s.bands

/-- The bitmap with bit `b` set for each band `b` flagged. -/
def bandBits (e0 e1 e2 : Bool) : UInt32 :=
  (if e0 then 1 else 0) ||| (if e1 then 2 else 0) ||| (if e2 then 4 else 0)

/-- The bitmap that flags the bands holding a packet. -/
def bandsBitmap (bands : Vector (List Mbuf) 3) : UInt32 :=
  bandBits (bands[0] ≠ []) (bands[1] ≠ []) (bands[2] ≠ [])

/-- The lowest band holding a packet: the band a priority FIFO serves next. -/
def lowestBand (bands : Vector (List Mbuf) 3) : Option (Fin 3) :=
  if bands[0] ≠ [] then some 0 else if bands[1] ≠ [] then some 1 else if bands[2] ≠ [] then some 2
  else none

/-! ## The walk over the tags -/

/-- A round reads the type of the first tag, whatever the offset. -/
theorem vlanSkip_eq (m : Mbuf) (st : UInt16 × Nat) :
    vlanSkip m st = .ok (m.be16 16, st.2 + vlanHlen) := rfl

/-- An untagged frame is parsed from its own type, right after the Ethernet header. -/
theorem l2Walk_untagged {m : Mbuf} (h : m.be16 12 ≠ ethP8021Q) (fuel : Nat) :
    l2Walk m (fuel + 1) = some (m.be16 12, ethHlen) := by
  have test : isVlanTag (m.be16 12, ethHlen) = false := by simp [isVlanTag, h]
  rw [l2Walk, WhileLoop.run_succ_of_not _ test]

/-- A frame with one tag is parsed from the tag's encapsulated type, after the tag. -/
theorem l2Walk_single {m : Mbuf} (outer : m.be16 12 = ethP8021Q) (inner : m.be16 16 ≠ ethP8021Q)
    (fuel : Nat) : l2Walk m (fuel + 2) = some (m.be16 16, ethHlen + vlanHlen) := by
  have tag : isVlanTag (m.be16 12, ethHlen) = true := by simp [isVlanTag, outer]
  have done : isVlanTag (m.be16 16, ethHlen + vlanHlen) = false := by simp [isVlanTag, inner]
  rw [l2Walk, WhileLoop.run_succ_of_ok _ tag (vlanSkip_eq m _), WhileLoop.run_succ_of_not _ done]

/-- A second tag of type `ETH_P_8021Q` keeps the walk at that type: it never ends. -/
theorem l2Walk_stacked {m : Mbuf} (outer : m.be16 12 = ethP8021Q) (inner : m.be16 16 = ethP8021Q)
    (fuel : Nat) : l2Walk m fuel = none := by
  unfold l2Walk
  rw [WhileLoop.run_eq_none (fun st => st.1 = ethP8021Q) _ fuel _ outer]
  rintro ⟨pktType, offset⟩ (tag : pktType = ethP8021Q)
  exact ⟨by simp [isVlanTag, tag], _, rfl, inner⟩

/-- The walk reads no type but those at bytes 12 and 16. -/
theorem l2Walk_cases {m : Mbuf} {fuel : Nat} {st : UInt16 × Nat} (h : l2Walk m fuel = some st) :
    (m.be16 12 ≠ ethP8021Q ∧ st = (m.be16 12, ethHlen)) ∨
      (m.be16 12 = ethP8021Q ∧ m.be16 16 ≠ ethP8021Q ∧ st = (m.be16 16, ethHlen + vlanHlen)) := by
  cases fuel with
  | zero => simp [l2Walk] at h
  | succ fuel =>
    by_cases outer : m.be16 12 = ethP8021Q
    · by_cases inner : m.be16 16 = ethP8021Q
      · rw [l2Walk_stacked outer inner] at h
        cases h
      · cases fuel with
        | zero =>
          have tag : isVlanTag (m.be16 12, ethHlen) = true := by simp [isVlanTag, outer]
          rw [l2Walk, WhileLoop.run_succ_of_ok _ tag (vlanSkip_eq m _)] at h
          simp at h
        | succ fuel => exact .inr ⟨outer, inner, by rw [l2Walk_single outer inner] at h; cases h; rfl⟩
    · exact .inl ⟨outer, by rw [l2Walk_untagged outer] at h; cases h; rfl⟩

/-! ## The bitmap -/

theorem bandBits_or_bit (b : Fin 3) (e0 e1 e2 : Bool) :
    bandBits e0 e1 e2 ||| ((1 : UInt32) <<< b.val.toUInt32) =
      bandBits (e0 || b = 0) (e1 || b = 1) (e2 || b = 2) := by
  fin_cases b <;> cases e0 <;> cases e1 <;> cases e2 <;> rfl

theorem bandBits_clear_bit (b : Fin 3) (e0 e1 e2 : Bool) :
    bandBits e0 e1 e2 &&& ~~~((1 : UInt32) <<< b.val.toUInt32) =
      bandBits (e0 && b ≠ 0) (e1 && b ≠ 1) (e2 && b ≠ 2) := by
  fin_cases b <;> cases e0 <;> cases e1 <;> cases e2 <;> rfl

/-- `bitmap2band` names the lowest band a bitmap flags. -/
theorem bitmap2band_bandBits (e0 e1 e2 : Bool) :
    bitmap2band.getD (bandBits e0 e1 e2).toNat none =
      if e0 then some 0 else if e1 then some 1 else if e2 then some 2 else none := by
  cases e0 <;> cases e1 <;> cases e2 <;> rfl

/-! ## The bands after a packet in or out -/

theorem bandsSum_set (f : List Mbuf → Nat) (bands : Vector (List Mbuf) 3) (b : Fin 3)
    (l : List Mbuf) : bandsSum f (bands.set b l) + f bands[b] = bandsSum f bands + f l := by
  fin_cases b <;> simp [bandsSum] <;> omega

theorem bandsBitmap_push (bands : Vector (List Mbuf) 3) (b : Fin 3) (m : Mbuf) :
    bandsBitmap (bands.set b (bands[b] ++ [m])) =
      bandsBitmap bands ||| ((1 : UInt32) <<< b.val.toUInt32) := by
  rw [bandsBitmap, bandsBitmap, bandBits_or_bit]
  fin_cases b <;> simp

/-- Taking a packet off a band clears its bit exactly when the band is left empty. -/
theorem bandsBitmap_pop (bands : Vector (List Mbuf) 3) (b : Fin 3) (rest : List Mbuf)
    (hb : bands[b] ≠ []) :
    bandsBitmap (bands.set b rest) =
      if rest = [] then bandsBitmap bands &&& ~~~((1 : UInt32) <<< b.val.toUInt32)
      else bandsBitmap bands := by
  split
  · rw [bandsBitmap, bandsBitmap, bandBits_clear_bit]
    fin_cases b <;> simp_all
  · rw [bandsBitmap, bandsBitmap]
    fin_cases b <;> simp_all

theorem bitmap2band_bandsBitmap (bands : Vector (List Mbuf) 3) :
    bitmap2band.getD (bandsBitmap bands).toNat none = lowestBand bands := by
  rw [bandsBitmap, bitmap2band_bandBits, lowestBand]
  simp

theorem lowestBand_eq_none {bands : Vector (List Mbuf) 3} :
    lowestBand bands = none ↔ ∀ b : Fin 3, bands[b] = [] := by
  constructor
  · intro h b
    unfold lowestBand at h
    -- only the branch with every band empty answers `none`
    split_ifs at h with h0 h1 h2
    fin_cases b <;> simp_all
  · intro h
    have h0 := h 0
    have h1 := h 1
    have h2 := h 2
    simp_all [lowestBand]

theorem lowestBand_eq_some {bands : Vector (List Mbuf) 3} {b : Fin 3} (h : lowestBand bands = some b) :
    bands[b] ≠ [] ∧ ∀ c : Fin 3, c < b → bands[c] = [] := by
  unfold lowestBand at h
  split_ifs at h with h0 h1 h2 <;> cases h
  · exact ⟨h0, fun c hc => absurd hc (Fin.not_lt_zero c)⟩
  · refine ⟨h1, fun c hc => ?_⟩
    fin_cases c <;> simp_all
  · refine ⟨h2, fun c hc => ?_⟩
    fin_cases c <;> simp_all

/-! ## The invariant of the discipline -/

/-- What pfifo_fast keeps of its bands: the bitmap flags the bands that hold a packet,
each band's `uint16_t` count is its length modulo 2^16, `qstats.qlen` and
`qstats.backlog` count the queued packets and bytes modulo 2^32, and the generic queue is
left empty. -/
structure PfifoOk (s : PfifoFast) : Prop where
  bitmap : s.bitmap = bandsBitmap s.bands
  bandQlen : ∀ b : Fin 3, s.bandQlen[b].toNat = s.bands[b].length % 2 ^ 16
  qlen : s.qlen.toNat = queued s % 2 ^ 32
  backlog : s.backlog.toNat = queuedBytes s % 2 ^ 32
  qQlen : s.qQlen = 0

theorem pfifoOk_init : PfifoOk pfifoFastInit where
  bitmap := rfl
  bandQlen b := by fin_cases b <;> rfl
  qlen := rfl
  backlog := rfl
  qQlen := rfl

theorem pfifoOk_qschDrop {s : PfifoFast} (ok : PfifoOk s) : PfifoOk (qschDrop s) :=
  ⟨ok.bitmap, ok.bandQlen, ok.qlen, ok.backlog, ok.qQlen⟩

/-! ## Enqueue -/

/-- The state after `pfifo_fast_enqueue` has filed `m` in band `b`. -/
def enqueued (s : PfifoFast) (b : Fin 3) (m : Mbuf) : PfifoFast :=
  { s with
    bands := s.bands.set b (s.bands[b] ++ [m])
    bandQlen := s.bandQlen.set b (s.bandQlen[b] + 1)
    bitmap := s.bitmap ||| ((1 : UInt32) <<< b.val.toUInt32)
    qlen := s.qlen + 1
    backlog := s.backlog + m.pktLen }

theorem pfifoFastEnqueue_full {fuel : Nat} {tmOk : Bool} {s : PfifoFast} (m : Mbuf)
    (full : s.qQlen.toUInt32 ≥ s.limit) : pfifoFastEnqueue fuel tmOk s m = some (.drop, qschDrop s) := by
  rw [pfifoFastEnqueue, if_pos full]

theorem pfifoFastEnqueue_spins {fuel : Nat} {tmOk : Bool} {s : PfifoFast} {m : Mbuf}
    (under : ¬s.qQlen.toUInt32 ≥ s.limit) (walk : l2Walk m fuel = none) :
    pfifoFastEnqueue fuel tmOk s m = none := by
  rw [pfifoFastEnqueue, if_neg under, walk]

/-- Below the limit, a packet whose walk ends is filed by its priority, or dropped when no
`tc_mbuf` can be had. -/
theorem pfifoFastEnqueue_of_walk {fuel : Nat} {tmOk : Bool} {s : PfifoFast} {m : Mbuf}
    {pktType : UInt16} {offset : Nat} (under : ¬s.qQlen.toUInt32 ≥ s.limit)
    (walk : l2Walk m fuel = some (pktType, offset)) :
    pfifoFastEnqueue fuel tmOk s m =
      some (if tmOk then (.ok, enqueued s (pfifoFastBand m pktType offset) m)
        else (.nomem, qschDrop s)) := by
  rw [pfifoFastEnqueue, if_neg under, walk]
  cases tmOk <;> rfl

theorem queued_enqueued (s : PfifoFast) (b : Fin 3) (m : Mbuf) :
    queued (enqueued s b m) = queued s + 1 := by
  have sum := bandsSum_set List.length s.bands b (s.bands[b] ++ [m])
  simp only [List.length_append, List.length_singleton] at sum
  simp only [queued, enqueued]
  omega

theorem queuedBytes_enqueued (s : PfifoFast) (b : Fin 3) (m : Mbuf) :
    queuedBytes (enqueued s b m) = queuedBytes s + m.pktLen.toNat := by
  have sum := bandsSum_set (fun l => (l.map fun m => m.pktLen.toNat).sum) s.bands b
    (s.bands[b] ++ [m])
  simp only [List.map_append, List.sum_append, List.map_singleton, List.sum_singleton] at sum
  simp only [queuedBytes, enqueued]
  omega

/-- Filing a packet keeps the invariant, whatever the band holds: the bit is set, the
counts grow by one modulo their widths. -/
theorem pfifoOk_enqueued {s : PfifoFast} (ok : PfifoOk s) (b : Fin 3) (m : Mbuf) :
    PfifoOk (enqueued s b m) where
  bitmap := by
    show s.bitmap ||| _ = _
    rw [ok.bitmap, enqueued, bandsBitmap_push]
  bandQlen c := by
    simp only [enqueued, Fin.getElem_fin, Vector.getElem_set]
    split
    · rename_i same
      have count := ok.bandQlen c
      rw [Fin.getElem_fin, Fin.getElem_fin] at count
      rw [Fin.val_inj.mp same, UInt16.toNat_add, count, List.length_append,
        List.length_singleton, UInt16.toNat_one]
      omega
    · exact ok.bandQlen c
  qlen := by
    rw [queued_enqueued, show (enqueued s b m).qlen = s.qlen + 1 from rfl, UInt32.toNat_add, ok.qlen]
    simp only [UInt32.toNat_one]
    omega
  backlog := by
    rw [queuedBytes_enqueued, show (enqueued s b m).backlog = s.backlog + m.pktLen from rfl,
      UInt32.toNat_add, ok.backlog]
    omega
  qQlen := ok.qQlen

/-- Every answer of `pfifo_fast_enqueue` keeps the invariant. -/
theorem pfifoOk_enqueue {fuel : Nat} {tmOk : Bool} {s s' : PfifoFast} {m : Mbuf} {err : Edpvs}
    (ok : PfifoOk s) (h : pfifoFastEnqueue fuel tmOk s m = some (err, s')) : PfifoOk s' := by
  by_cases full : s.qQlen.toUInt32 ≥ s.limit
  · rw [pfifoFastEnqueue_full m full] at h
    cases h
    exact pfifoOk_qschDrop ok
  · cases walk : l2Walk m fuel with
    | none => rw [pfifoFastEnqueue_spins full walk] at h; cases h
    | some st =>
      rw [pfifoFastEnqueue_of_walk full walk] at h
      cases tmOk
      · cases h
        exact pfifoOk_qschDrop ok
      · cases h
        exact pfifoOk_enqueued ok _ m

/-! ## Dequeue -/

/-- The state after `pfifo_fast_dequeue` has taken `m` off band `b`, leaving `rest`. -/
def dequeued (s : PfifoFast) (b : Fin 3) (m : Mbuf) (rest : List Mbuf) : PfifoFast :=
  let s1 := { s with
    bands := s.bands.set b rest
    bandQlen := s.bandQlen.set b (s.bandQlen[b] - 1)
    qlen := s.qlen - 1
    backlog := s.backlog - m.pktLen
    packets := s.packets + 1
    bytes := s.bytes + m.pktLen.toUInt64 }
  if s1.bandQlen[b] = 0 then { s1 with bitmap := s1.bitmap &&& ~~~((1 : UInt32) <<< b.val.toUInt32) }
  else s1

theorem pfifoFastDequeue_of_band {s : PfifoFast} {b : Fin 3} {m : Mbuf} {rest : List Mbuf}
    (sel : bitmap2band.getD s.bitmap.toNat none = some b) (hb : s.bands[b] = m :: rest) :
    pfifoFastDequeue s = (some m, dequeued s b m rest) := by
  unfold pfifoFastDequeue qschDequeueHead
  simp only [sel, hb]
  rfl

theorem pfifoFastDequeue_of_none {s : PfifoFast} (sel : bitmap2band.getD s.bitmap.toNat none = none) :
    pfifoFastDequeue s = (none, s) := by
  unfold pfifoFastDequeue
  simp only [sel]

section Dequeued

variable {s : PfifoFast} {b : Fin 3} {m : Mbuf} {rest : List Mbuf}

theorem dequeued_bands : (dequeued s b m rest).bands = s.bands.set b rest := by
  unfold dequeued
  dsimp only
  split <;> rfl

theorem dequeued_bandQlen : (dequeued s b m rest).bandQlen = s.bandQlen.set b (s.bandQlen[b] - 1) := by
  unfold dequeued
  dsimp only
  split <;> rfl

theorem dequeued_qlen : (dequeued s b m rest).qlen = s.qlen - 1 := by
  unfold dequeued
  dsimp only
  split <;> rfl

theorem dequeued_backlog : (dequeued s b m rest).backlog = s.backlog - m.pktLen := by
  unfold dequeued
  dsimp only
  split <;> rfl

theorem dequeued_qQlen : (dequeued s b m rest).qQlen = s.qQlen := by
  unfold dequeued
  dsimp only
  split <;> rfl

/-- The bit of the band is cleared when its count drops to 0. -/
theorem dequeued_bitmap :
    (dequeued s b m rest).bitmap =
      if s.bandQlen[b] - 1 = 0 then s.bitmap &&& ~~~((1 : UInt32) <<< b.val.toUInt32)
      else s.bitmap := by
  unfold dequeued
  simp only [Fin.getElem_fin, Vector.getElem_set_self]
  split <;> rfl

variable (hb : s.bands[b] = m :: rest)
include hb

theorem queued_dequeued : queued (dequeued s b m rest) + 1 = queued s := by
  have sum := bandsSum_set List.length s.bands b rest
  rw [hb, List.length_cons] at sum
  rw [queued, dequeued_bands, queued]
  omega

theorem queuedBytes_dequeued :
    queuedBytes (dequeued s b m rest) + m.pktLen.toNat = queuedBytes s := by
  have sum := bandsSum_set (fun l => (l.map fun m => m.pktLen.toNat).sum) s.bands b rest
  simp only [hb, List.map_cons, List.sum_cons] at sum
  rw [queuedBytes, dequeued_bands, queuedBytes]
  omega

/-- While the band holds at most 2^16 packets, its `uint16_t` count reaches 0 exactly
when the band is emptied. -/
theorem bandQlen_pred_eq_zero (ok : PfifoOk s) (small : s.bands[b].length ≤ 2 ^ 16) :
    s.bandQlen[b] - 1 = 0 ↔ rest = [] := by
  have count := ok.bandQlen b
  rw [hb, List.length_cons] at count small
  rw [← UInt16.toNat_inj, UInt16.toNat_sub, count, UInt16.toNat_one, UInt16.toNat_zero,
    ← List.length_eq_zero_iff]
  omega

/-- Taking a packet keeps the invariant while the band holds at most 2^16 packets. -/
theorem pfifoOk_dequeued (ok : PfifoOk s) (small : s.bands[b].length ≤ 2 ^ 16) :
    PfifoOk (dequeued s b m rest) where
  bitmap := by
    rw [dequeued_bitmap, dequeued_bands, bandsBitmap_pop _ _ rest (by simp [hb]), ← ok.bitmap]
    simp only [bandQlen_pred_eq_zero hb ok small]
  bandQlen c := by
    rw [dequeued_bandQlen, dequeued_bands]
    simp only [Fin.getElem_fin, Vector.getElem_set]
    split
    · rename_i same
      have count := ok.bandQlen b
      rw [hb, List.length_cons, Fin.getElem_fin] at count
      rw [UInt16.toNat_sub, count, UInt16.toNat_one]
      omega
    · exact ok.bandQlen c
  qlen := by
    have less := queued_dequeued hb
    rw [dequeued_qlen, UInt32.toNat_sub, ok.qlen, UInt32.toNat_one]
    omega
  backlog := by
    have less := queuedBytes_dequeued hb
    have bound := m.pktLen.toNat_lt
    rw [dequeued_backlog, UInt32.toNat_sub, ok.backlog]
    omega
  qQlen := by rw [dequeued_qQlen, ok.qQlen]

end Dequeued

/-! ## The order of service -/

theorem length_le_queued (s : PfifoFast) (b : Fin 3) : s.bands[b].length ≤ queued s := by
  fin_cases b <;> simp [queued, bandsSum] <;> omega

theorem bandsBitmap_empty {bands : Vector (List Mbuf) 3} (empty : ∀ b : Fin 3, bands[b] = []) :
    bandsBitmap bands = 0 := by
  have h0 := empty 0
  have h1 := empty 1
  have h2 := empty 2
  simp_all [bandsBitmap, bandBits]

section Service

variable {s : PfifoFast} (ok : PfifoOk s)
include ok

/-- `pfifo_fast_dequeue` serves the head of the lowest band that holds a packet. -/
theorem pfifoFastDequeue_serves_lowest {b : Fin 3} {m : Mbuf} {rest : List Mbuf}
    (low : lowestBand s.bands = some b) (hb : s.bands[b] = m :: rest) :
    pfifoFastDequeue s = (some m, dequeued s b m rest) :=
  pfifoFastDequeue_of_band (by rw [ok.bitmap, bitmap2band_bandsBitmap, low]) hb

/-- With every band empty, `pfifo_fast_dequeue` answers `NULL` and changes nothing. -/
theorem pfifoFastDequeue_of_empty (empty : lowestBand s.bands = none) :
    pfifoFastDequeue s = (none, s) :=
  pfifoFastDequeue_of_none (by rw [ok.bitmap, bitmap2band_bandsBitmap, empty])

/-- `pfifo_fast_peek` shows the packet the next dequeue takes. -/
theorem pfifoFastPeek_eq_dequeue : pfifoFastPeek s = (pfifoFastDequeue s).1 := by
  cases low : lowestBand s.bands with
  | none =>
    rw [pfifoFastDequeue_of_empty ok low, pfifoFastPeek, ok.bitmap, bitmap2band_bandsBitmap, low]
  | some b =>
    obtain ⟨m, rest, hb⟩ := List.exists_cons_of_ne_nil (lowestBand_eq_some low).1
    rw [pfifoFastDequeue_serves_lowest ok low hb, pfifoFastPeek, ok.bitmap,
      bitmap2band_bandsBitmap, low]
    simp [hb]

/-- A dequeue keeps the invariant while at most 2^16 packets are queued. -/
theorem pfifoOk_dequeue (small : queued s ≤ 2 ^ 16) : PfifoOk (pfifoFastDequeue s).2 := by
  cases low : lowestBand s.bands with
  | none =>
    rw [pfifoFastDequeue_of_empty ok low]
    exact ok
  | some b =>
    obtain ⟨m, rest, hb⟩ := List.exists_cons_of_ne_nil (lowestBand_eq_some low).1
    rw [pfifoFastDequeue_serves_lowest ok low hb]
    exact pfifoOk_dequeued hb ok ((length_le_queued s b).trans small)

theorem queued_dequeue_le : queued (pfifoFastDequeue s).2 ≤ queued s := by
  cases low : lowestBand s.bands with
  | none => rw [pfifoFastDequeue_of_empty ok low]
  | some b =>
    obtain ⟨m, rest, hb⟩ := List.exists_cons_of_ne_nil (lowestBand_eq_some low).1
    have less := queued_dequeued hb
    rw [pfifoFastDequeue_serves_lowest ok low hb]
    show queued (dequeued s b m rest) ≤ queued s
    omega

end Service

theorem pfifoOk_reset {s : PfifoFast} (ok : PfifoOk s) : PfifoOk (pfifoFastReset s) where
  bitmap := by
    show (0 : UInt32) = _
    rw [bandsBitmap_empty]
    intro b
    fin_cases b <;> rfl
  bandQlen b := by fin_cases b <;> rfl
  qlen := rfl
  backlog := rfl
  qQlen := ok.qQlen

/-! ## Runs of calls -/

/-- Whether a call may add a packet. -/
def PfifoCall.isEnqueue : PfifoCall → Bool
  | .enqueue .. => true
  | _ => false

theorem queued_enqueue_le {fuel : Nat} {tmOk : Bool} {s s' : PfifoFast} {m : Mbuf} {err : Edpvs}
    (h : pfifoFastEnqueue fuel tmOk s m = some (err, s')) : queued s' ≤ queued s + 1 := by
  by_cases full : s.qQlen.toUInt32 ≥ s.limit
  · rw [pfifoFastEnqueue_full m full] at h
    cases h
    exact Nat.le_succ _
  · cases walk : l2Walk m fuel with
    | none => rw [pfifoFastEnqueue_spins full walk] at h; cases h
    | some st =>
      rw [pfifoFastEnqueue_of_walk full walk] at h
      cases tmOk
      · cases h
        exact Nat.le_succ _
      · cases h
        exact (queued_enqueued s _ m).le

/-- One call keeps the invariant and adds at most the packet it enqueues, while at most
2^16 packets are queued. -/
theorem pfifoOk_call {fuel : Nat} {s s' : PfifoFast} {c : PfifoCall} (ok : PfifoOk s)
    (small : queued s ≤ 2 ^ 16) (h : pfifoFastCall fuel s c = some s') :
    PfifoOk s' ∧ queued s' ≤ queued s + if c.isEnqueue then 1 else 0 := by
  cases c with
  | enqueue m tmOk =>
    obtain ⟨⟨err, s''⟩, h', rfl⟩ := Option.map_eq_some_iff.mp h
    exact ⟨pfifoOk_enqueue ok h', queued_enqueue_le h'⟩
  | dequeue =>
    cases h
    exact ⟨pfifoOk_dequeue ok small, queued_dequeue_le ok⟩
  | peek =>
    cases h
    exact ⟨ok, Nat.le_refl _⟩
  | reset =>
    cases h
    exact ⟨pfifoOk_reset ok, Nat.zero_le _⟩

/-- Over a run that never has more than 2^16 packets queued, which the enqueues it makes
bound, the bitmap, the counts and the statistics stay those of the bands. -/
theorem pfifoOk_run {fuel : Nat} :
    ∀ {s s' : PfifoFast} {cs : List PfifoCall}, PfifoOk s →
      queued s + cs.countP PfifoCall.isEnqueue ≤ 2 ^ 16 → pfifoFastRun fuel s cs = some s' →
      PfifoOk s'
  | _, _, [], ok, _, h => by cases h; exact ok
  | s, s', c :: cs, ok, small, h => by
    obtain ⟨s1, step, rest⟩ := Option.bind_eq_some_iff.mp h
    obtain ⟨ok1, grew⟩ := pfifoOk_call ok (by rw [List.countP_cons] at small; omega) step
    refine pfifoOk_run ok1 ?_ rest
    rw [List.countP_cons] at small
    split at grew <;> simp_all <;> omega

theorem pfifoFastRun_append (fuel : Nat) (s : PfifoFast) (cs ds : List PfifoCall) :
    pfifoFastRun fuel s (cs ++ ds) = (pfifoFastRun fuel s cs).bind fun s => pfifoFastRun fuel s ds := by
  induction cs generalizing s with
  | nil => rfl
  | cons c cs ih =>
    simp only [List.cons_append, pfifoFastRun, Option.bind_assoc, ih]

/-! ## What the code does with the limit and the counts -/

/-- Below the limit, enqueues of packets whose walks end are all accepted, and leave the
generic queue, the limit and the drop count as they were. -/
theorem pfifoFastRun_enqueues {fuel : Nat} {pkts : List Mbuf}
    (walks : ∀ m ∈ pkts, (l2Walk m fuel).isSome) :
    ∀ s : PfifoFast, ¬s.qQlen.toUInt32 ≥ s.limit →
      ∃ s', pfifoFastRun fuel s (pkts.map fun m => .enqueue m true) = some s' ∧
        s'.qQlen = s.qQlen ∧ s'.limit = s.limit ∧ s'.drops = s.drops ∧
        queued s' = queued s + pkts.length := by
  induction pkts with
  | nil => exact fun s _ => ⟨s, rfl, rfl, rfl, rfl, rfl⟩
  | cons m pkts ih =>
    intro s under
    obtain ⟨⟨pktType, offset⟩, walk⟩ := Option.isSome_iff_exists.mp (walks m List.mem_cons_self)
    have enq : pfifoFastEnqueue fuel true s m = some (.ok, enqueued s (pfifoFastBand m pktType offset) m) := by
      rw [pfifoFastEnqueue_of_walk under walk]
      rfl
    -- the packet is filed and `sch->q.qlen` is left at what it was
    obtain ⟨s', run, qQlen, limit, drops, count⟩ :=
      ih (fun m' hm => walks m' (List.mem_cons_of_mem m hm)) (enqueued s _ m) under
    refine ⟨s', ?_, qQlen, limit, drops, ?_⟩
    · simp only [List.map_cons, pfifoFastRun, pfifoFastCall, enq, Option.map_some, Option.bind_some]
      exact run
    · rw [count, queued_enqueued, List.length_cons]
      omega

theorem pfifo_fast_limit_never_enforced (fuel : Nat) (pkts : List Mbuf)
    (walks : ∀ m ∈ pkts, (l2Walk m fuel).isSome) :
    ∃ s, pfifoFastRun fuel pfifoFastInit (pkts.map fun m => .enqueue m true) = some s ∧
      s.limit = 1024 ∧ s.drops = 0 ∧ queued s = pkts.length := by
  obtain ⟨s, run, -, limit, drops, count⟩ := pfifoFastRun_enqueues walks pfifoFastInit (by decide)
  have empty : queued pfifoFastInit = 0 := rfl
  exact ⟨s, run, limit, drops, by rw [count, empty, Nat.zero_add]⟩

theorem lowestBand_of_only {bands : Vector (List Mbuf) 3} {b : Fin 3}
    (only : ∀ c : Fin 3, c ≠ b → bands[c] = []) (hb : bands[b] ≠ []) : lowestBand bands = some b := by
  have h0 := only 0
  have h1 := only 1
  have h2 := only 2
  fin_cases b <;> simp_all [lowestBand]

theorem queued_of_only {s : PfifoFast} {b : Fin 3} (only : ∀ c : Fin 3, c ≠ b → s.bands[c] = []) :
    queued s = s.bands[b].length := by
  have h0 := only 0
  have h1 := only 1
  have h2 := only 2
  fin_cases b <;> simp_all [queued, bandsSum]

theorem getElem_set_of_ne {bands : Vector (List Mbuf) 3} {b c : Fin 3} (l : List Mbuf) (ne : c ≠ b) :
    (bands.set b l)[c] = bands[c] := by
  simp only [Fin.getElem_fin, Vector.getElem_set]
  rw [if_neg (Fin.val_ne_of_ne (Ne.symm ne))]

/-- The `uint16_t` count of a band wraps: taking a packet off a band of `2^16 * (k + 1) + 1`
packets brings the count to 0 and clears the band's bit with `2^16 * (k + 1)` packets still
in it. With the other bands empty they are stranded: the next dequeue answers `NULL`. -/
theorem pfifoFastDequeue_strands {s : PfifoFast} (ok : PfifoOk s) {b : Fin 3} {m : Mbuf}
    {rest : List Mbuf} {k : Nat} (only : ∀ c : Fin 3, c ≠ b → s.bands[c] = [])
    (hb : s.bands[b] = m :: rest) (wrap : rest.length = 2 ^ 16 * (k + 1)) :
    queued (pfifoFastDequeue s).2 = 2 ^ 16 * (k + 1) ∧
      pfifoFastDequeue (pfifoFastDequeue s).2 = (none, (pfifoFastDequeue s).2) := by
  have ne : s.bands[b] ≠ [] := by simp [hb]
  rw [pfifoFastDequeue_serves_lowest ok (lowestBand_of_only only ne) hb]
  have zero : s.bandQlen[b] - 1 = 0 := by
    have count := ok.bandQlen b
    rw [hb, List.length_cons, wrap] at count
    rw [← UInt16.toNat_inj, UInt16.toNat_sub, count, UInt16.toNat_one, UInt16.toNat_zero]
    omega
  -- the bit is cleared as if the band were emptied, and no other bit is set
  have cleared : (dequeued s b m rest).bitmap = 0 := by
    have emptied : bandsBitmap (s.bands.set b []) = 0 := by
      apply bandsBitmap_empty
      intro c
      by_cases same : c = b
      · subst same
        simp
      · rw [getElem_set_of_ne [] same]
        exact only c same
    rw [dequeued_bitmap, if_pos zero, ok.bitmap, ← emptied, bandsBitmap_pop _ _ [] ne, if_pos rfl]
  refine ⟨?_, pfifoFastDequeue_of_none (by rw [cleared]; rfl)⟩
  have less := queued_dequeued hb
  rw [queued_of_only only, hb, List.length_cons, wrap] at less
  show queued (dequeued s b m rest) = _
  omega

/-- Enqueues of one packet pile it up in its band, whatever their number. -/
theorem pfifoFastRun_fill {fuel : Nat} {m : Mbuf} {pktType : UInt16} {offset : Nat} {b : Fin 3}
    (walk : l2Walk m fuel = some (pktType, offset)) (band : pfifoFastBand m pktType offset = b)
    (n : Nat) :
    ∀ (s : PfifoFast) (k : Nat), ¬s.qQlen.toUInt32 ≥ s.limit → PfifoOk s →
      s.bands[b] = List.replicate k m → (∀ c : Fin 3, c ≠ b → s.bands[c] = []) →
      ∃ s', pfifoFastRun fuel s (List.replicate n (.enqueue m true)) = some s' ∧ PfifoOk s' ∧
        s'.bands[b] = List.replicate (k + n) m ∧ ∀ c : Fin 3, c ≠ b → s'.bands[c] = [] := by
  induction n with
  | zero => exact fun s k _ ok hb only => ⟨s, rfl, ok, hb, only⟩
  | succ n ih =>
    intro s k under ok hb only
    have enq : pfifoFastEnqueue fuel true s m = some (.ok, enqueued s b m) := by
      rw [pfifoFastEnqueue_of_walk under walk, band]
      rfl
    have grown : (enqueued s b m).bands[b] = List.replicate (k + 1) m := by
      simp [enqueued, hb, List.replicate_succ']
    have others : ∀ c : Fin 3, c ≠ b → (enqueued s b m).bands[c] = [] := fun c ne => by
      rw [enqueued, getElem_set_of_ne _ ne]
      exact only c ne
    obtain ⟨s', run, ok', hb', only'⟩ := ih (enqueued s b m) (k + 1) under (pfifoOk_enqueued ok b m) grown others
    refine ⟨s', ?_, ok', by rw [hb', Nat.add_right_comm, Nat.add_assoc], only'⟩
    simp only [List.replicate_succ, pfifoFastRun, pfifoFastCall, enq, Option.map_some, Option.bind_some]
    exact run

/-- Since the limit is not enforced, one packet enqueued `2^16 + 1` times from the start
overfills its band's count; the next dequeue leaves `2^16` packets that no dequeue returns. -/
theorem pfifoFast_strands_after_overfill {fuel : Nat} {m : Mbuf} {pktType : UInt16} {offset : Nat}
    (walk : l2Walk m fuel = some (pktType, offset)) :
    ∃ s, pfifoFastRun fuel pfifoFastInit (List.replicate (2 ^ 16 + 1) (.enqueue m true) ++ [.dequeue]) =
      some s ∧ queued s = 2 ^ 16 ∧ pfifoFastDequeue s = (none, s) := by
  have empty : ∀ c : Fin 3, pfifoFastInit.bands[c] = [] := by
    intro c
    fin_cases c <;> rfl
  obtain ⟨s1, run, ok1, hb1, only1⟩ := pfifoFastRun_fill walk rfl (2 ^ 16 + 1) pfifoFastInit 0
    (by decide) pfifoOk_init (empty _) (fun c _ => empty c)
  rw [Nat.zero_add, List.replicate_succ] at hb1
  obtain ⟨count, stuck⟩ := pfifoFastDequeue_strands ok1 only1 hb1
    (by rw [List.length_replicate, Nat.zero_add, Nat.mul_one] :
      (List.replicate (2 ^ 16) m).length = 2 ^ 16 * (0 + 1))
  refine ⟨(pfifoFastDequeue s1).2, ?_, count, stuck⟩
  rw [pfifoFastRun_append, run]
  rfl

/-- An untagged IPv4 frame of the smallest header. -/
def ipv4Frame : Mbuf := ⟨List.replicate 12 0 ++ [0x08, 0x00, 0x45] ++ List.replicate 19 0, 34, 0⟩

theorem pfifo_fast_limit_never_enforced_1025 :
    ∃ s, pfifoFastRun 1 pfifoFastInit ((List.replicate 1025 ipv4Frame).map fun m => .enqueue m true) =
      some s ∧ s.limit = 1024 ∧ s.drops = 0 ∧ queued s = (List.replicate 1025 ipv4Frame).length :=
  pfifo_fast_limit_never_enforced 1 _ (by
    intro m hm
    rw [List.eq_of_mem_replicate hm]
    rfl)

end Dpvs.Tc
