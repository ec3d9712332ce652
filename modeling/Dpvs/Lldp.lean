import Dpvs.SaPool.Pool

/-!
# LLDP: the neighbour walk over a received LLDPDU

`src/lldp.c` keeps, for every port, the TLVs its LLDP neighbour last sent: a list of
`lldp_entry`, one per TLV type and subtype, sorted by `lldp_type_cmp` with the End TLV
last and counted by `port->entries`. `lldp_pdu_neigh_update` marks the list stale, walks
the received PDU TLV by TLV through `lldp_entry_add`, then drops what the PDU no longer
carries.

The walk keeps the bytes left in a `size_t totlen` and takes each TLV's length from its
header, unchecked. A TLV that claims more bytes than remain makes the copy read past the
frame, and `totlen -= len` wraps, so the loop goes on reading behind it
(`lldp_walk_reads_past_frame`). Memory is modelled from the data pointer on, the frame's
`data_len` bytes and whatever follows them, and every load the code makes is logged
(`LldpRun.reads`).

The list's shape does not depend on the bytes read: every step keeps it sorted with one
entry per type and subtype, the End TLV last and `entries` its length (`PortOk`,
`portOk_lldpPduNeighUpdate`).

TLV headers are loaded on the little-endian hosts DPVS runs on.
-/

namespace Dpvs.Lldp

open Dpvs.Sa (bswap16)

/-- `DPVS_LLDP_TYPE_MAX`. -/
def dpvsLldpTypeMax : UInt8 := 128

/-- `DPVS_LLDP_TTL_DEFAULT`. -/
def dpvsLldpTtlDefault : UInt32 := 120

/-- `LLDP_TYPE_END`. -/
def lldpTypeEnd : UInt8 := 0

/-- `LLDP_TYPE_TTL`, the one type with an `on_change`. -/
def lldpTypeTtl : UInt8 := 3

/-- A `uint16_t` load at `p` on the little-endian host. -/
def load16 (mem : Nat → UInt8) (p : Nat) : UInt16 :=
  (mem p).toUInt16 ||| ((mem (p + 1)).toUInt16 <<< 8)

/-- `DPVS_LLDP_TL_TYPE`. -/
def dpvsLldpTlType (tl : UInt16) : UInt8 := ((bswap16 tl &&& 0xfe00) >>> 9).toUInt8

/-- `DPVS_LLDP_TL_LEN`. -/
def dpvsLldpTlLen (tl : UInt16) : UInt16 := bswap16 tl &&& 0x01ff

/-- `(uint16_t)(*lldpdu)`: the first byte as a signed `char`, widened. -/
def charToU16 (b : UInt8) : UInt16 := if b < 0x80 then b.toUInt16 else 0xff00 ||| b.toUInt16

/-- The type of a loaded header is the top seven bits of its first byte. -/
theorem dpvsLldpTlType_load16 (mem : Nat → UInt8) (p : Nat) :
    dpvsLldpTlType (load16 mem p) = mem p >>> 1 := by
  apply UInt8.toBitVec_inj.mp
  simp only [dpvsLldpTlType, load16, bswap16, UInt16.toBitVec_toUInt8, UInt16.toBitVec_and,
    UInt16.toBitVec_or, UInt16.toBitVec_shiftLeft, UInt16.toBitVec_shiftRight,
    UInt8.toBitVec_toUInt16, UInt8.toBitVec_shiftRight]
  ext i hi
  interval_cases i <;> simp

/-- So is the type `lldp_entry_add` and the parsers take from the first byte alone,
whether the `char` is sign-extended or not. -/
theorem dpvsLldpTlType_charToU16 (b : UInt8) : dpvsLldpTlType (charToU16 b) = b >>> 1 := by
  unfold charToU16
  split
  all_goals
    apply UInt8.toBitVec_inj.mp
    simp only [dpvsLldpTlType, bswap16, UInt16.toBitVec_toUInt8, UInt16.toBitVec_and,
      UInt16.toBitVec_or, UInt16.toBitVec_shiftLeft, UInt16.toBitVec_shiftRight,
      UInt8.toBitVec_toUInt16, UInt8.toBitVec_shiftRight]
    ext i hi
    interval_cases i <;> simp

theorem dpvsLldpTlLen_le (tl : UInt16) : (dpvsLldpTlLen tl).toNat ≤ 511 := by
  rw [dpvsLldpTlLen, UInt16.toNat_and]
  exact Nat.and_le_right

theorem shiftRight_one_lt (b : UInt8) : b >>> 1 < dpvsLldpTypeMax := by
  have := b.toNat_lt
  rw [dpvsLldpTypeMax, UInt8.lt_iff_toNat_lt, UInt8.toNat_shiftRight]
  simp only [UInt8.reduceToNat, Nat.shiftRight_eq_div_pow, Nat.reduceMod, Nat.reducePow]
  omega

theorem not_ge_typeMax (b : UInt8) : ¬ b >>> 1 ≥ dpvsLldpTypeMax :=
  UInt8.not_le.mpr (shiftRight_one_lt b)

/-! ## Types, entries and the registered parsers -/

/-- `lldp_type_t`. -/
structure LldpType where
  type : UInt8
  subtype : UInt32
  deriving DecidableEq, Repr

/-- `lldp_type_cmp`. -/
def lldpTypeCmp (t1 t2 : LldpType) : Int :=
  if t1.type < t2.type then -1
  else if t1.type > t2.type then 1
  else if t1.subtype < t2.subtype then -1
  else if t1.subtype > t2.subtype then 1
  else 0

/-- `struct lldp_entry`: its type, `len`, `stale`, and its bytes from `typelen` on. -/
structure LldpEntry where
  type : LldpType
  len : UInt16
  stale : Bool
  pdu : List UInt8
  deriving DecidableEq, Repr

/-- The neighbour `struct lldp_port`: its entry list, `entries` and `timeout`. -/
structure LldpPort where
  head : List LldpEntry
  entries : UInt16
  timeout : UInt32
  deriving DecidableEq, Repr

/-- The parsers of `lldp_ops`. -/
inductive LldpParse where
  | default
  | chassisId
  | portId
  | mngAddr
  | org
  deriving DecidableEq, Repr

/-- `lldp_type_get` on the types `lldp_ops` registers: their parser. -/
def lldpTypeGet (t : UInt8) : Option LldpParse :=
  if t ≥ dpvsLldpTypeMax then none
  else if t = 0 ∨ (3 ≤ t ∧ t ≤ 7) then some .default
  else if t = 1 then some .chassisId
  else if t = 2 then some .portId
  else if t = 8 then some .mngAddr
  else if t = 127 then some .org
  else none

/-- A parser on the TLV at `p`: the bytes it loads, and the TLV's type and value length,
or its error. The chassis and port id parsers differ only in the names of their subtype
ranges. -/
def lldpParseType (ops : LldpParse) (mem : Nat → UInt8) (p : Nat) :
    List Nat × Except Edpvs (LldpType × UInt16) :=
  let t := dpvsLldpTlType (charToU16 (mem p))
  -- *len = DPVS_LLDP_TL_LEN(*((uint16_t *)lldpdu)) loads the header again
  let len := dpvsLldpTlLen (load16 mem p)
  if t ≥ dpvsLldpTypeMax then ([p], .error .inval)
  else match ops with
  | .default => ([p, p, p + 1], .ok (⟨t, 0⟩, len))
  | .chassisId | .portId =>
    if 0 < mem (p + 2) ∧ mem (p + 2) ≤ 7 then
      ([p, p + 2, p, p + 1], .ok (⟨t, (mem (p + 2)).toUInt32⟩, len))
    else ([p, p + 2], .error .inval)
  | .mngAddr => ([p, p + 3, p, p + 1], .ok (⟨t, (mem (p + 3)).toUInt32⟩, len))
  | .org =>
    -- rte_be_to_cpu_32(*((uint32_t *)&lldpdu[2]))
    let sub := (mem (p + 2)).toUInt32 <<< 24 ||| (mem (p + 3)).toUInt32 <<< 16 |||
      (mem (p + 4)).toUInt32 <<< 8 ||| (mem (p + 5)).toUInt32
    ([p, p + 2, p + 3, p + 4, p + 5, p, p + 1], .ok (⟨t, sub⟩, len))

/-! ## The entry list -/

/-- `lldp_entry_get`. -/
def lldpEntryGet (l : List LldpEntry) (type : LldpType) : Option LldpEntry :=
  l.find? (·.type = type)

/-- The in-place update of `lldp_entry_add`: the first entry of the type takes the new
`len`, is no longer stale, and the TLV's bytes are copied over the front of its own. -/
def lldpEntryRewrite (type : LldpType) (len : UInt16) (tlv : List UInt8) :
    List LldpEntry → List LldpEntry
  | [] => []
  | e :: rest =>
    if e.type = type then { e with len, stale := false, pdu := tlv ++ e.pdu.drop tlv.length } :: rest
    else e :: lldpEntryRewrite type len tlv rest

/-- `lldp_entry_del` of the first entry of the type. -/
def lldpEntryDel (port : LldpPort) (type : LldpType) : LldpPort :=
  { port with head := port.head.eraseP (·.type = type), entries := port.entries - 1 }

/-- Where `lldp_entry_hash` links an entry other than the End TLV: before the first entry
that is the End TLV or not below it. -/
def lldpHashInsert (e : LldpEntry) : List LldpEntry → List LldpEntry
  | [] => [e]
  | x :: rest =>
    if x.type.type = 0 ∨ lldpTypeCmp x.type e.type ≥ 0 then e :: x :: rest
    else x :: lldpHashInsert e rest

/-- `lldp_entry_hash`: the End TLV at the tail, any other in order. -/
def lldpEntryHash (e : LldpEntry) (port : LldpPort) : LldpPort :=
  { port with
    head := if e.type.type = 0 then port.head ++ [e] else lldpHashInsert e port.head
    entries := port.entries + 1 }

/-- The list part of `lldp_entry_add` once the TLV is parsed: an entry of the type that is
long enough is rewritten, a shorter one is replaced by a fresh entry, and a fresh entry is
added when there is none; with the entry as it now stands. -/
def lldpEntryStore (port : LldpPort) (type : LldpType) (len : UInt16) (tlv : List UInt8) :
    LldpPort × LldpEntry :=
  match lldpEntryGet port.head type with
  | some e =>
    if e.len ≥ len then
      ({ port with head := lldpEntryRewrite type len tlv port.head },
        { e with len, stale := false, pdu := tlv ++ e.pdu.drop tlv.length })
    else (lldpEntryHash ⟨type, len, false, tlv⟩ (lldpEntryDel port type), ⟨type, len, false, tlv⟩)
  | none => (lldpEntryHash ⟨type, len, false, tlv⟩ port, ⟨type, len, false, tlv⟩)

/-- `lldp_on_change_ttl` on a neighbour port: the entry's TTL becomes the port's timeout.
The value's two bytes lie in the entry's zeroed allocation even when the TLV is shorter. -/
def lldpOnChangeTtl (port : LldpPort) (e : LldpEntry) : LldpPort :=
  { port with timeout := ((e.pdu.getD 2 0).toUInt32 <<< 8) ||| (e.pdu.getD 3 0).toUInt32 }

/-- `lldp_entry_add` of the TLV at `p`: the bytes it loads, and the port after it or its
error. -/
def lldpEntryAdd (mem : Nat → UInt8) (port : LldpPort) (p : Nat) :
    List Nat × Except Edpvs LldpPort :=
  match lldpTypeGet (dpvsLldpTlType (charToU16 (mem p))) with
  | none => ([p], .error .notsupp)
  | some ops =>
    match lldpParseType ops mem p with
    | (reads, .error e) => (p :: reads, .error e)
    | (reads, .ok (type, len)) =>
      -- rte_memcpy(&entry->typelen, lldpdu, len + 2)
      let span := (List.range (len.toNat + 2)).map (p + ·)
      let stored := lldpEntryStore port type len (span.map mem)
      (p :: reads ++ span,
        .ok (if type.type = lldpTypeTtl then lldpOnChangeTtl stored.1 stored.2 else stored.1))

/-! ## The walk -/

/-- What a run of the walk did: the offsets it loaded, and how it ended, `none` when the
fuel ran out first. -/
structure LldpRun where
  reads : List Nat
  result : Option (Except Edpvs LldpPort)

/-- The `while (totlen > 0)` loop of `lldp_pdu_neigh_update` from `ptr`, for at most `fuel`
rounds. -/
def lldpWalk (mem : Nat → UInt8) : Nat → LldpPort → Nat → UInt64 → LldpRun
  | 0, _, _, _ => ⟨[], none⟩
  | fuel + 1, port, ptr, totlen =>
    if totlen = 0 then ⟨[], some (.ok port)⟩
    else
      let typelen := load16 mem ptr
      let len := dpvsLldpTlLen typelen + 2
      let added := lldpEntryAdd mem port ptr
      let reads := [ptr, ptr + 1] ++ added.1
      -- totlen -= len; ptr += len; and the End TLV ends the walk
      let next (port : LldpPort) : LldpRun :=
        if dpvsLldpTlType typelen = lldpTypeEnd then ⟨reads, some (.ok port)⟩
        else
          let rest := lldpWalk mem fuel port (ptr + len.toNat) (totlen - len.toUInt64)
          ⟨reads ++ rest.reads, rest.result⟩
      match added.2 with
      | .ok port => next port
      | .error .notsupp => next port
      | .error e => ⟨reads, some (.error e)⟩

/-- The `check_stale` pass: the entries still stale are deleted. -/
def lldpDropStale (port : LldpPort) : LldpPort :=
  { port with
    head := port.head.filter (!·.stale)
    entries := port.entries - (port.head.countP (·.stale)).toUInt16 }

/-- `lldp_pdu_neigh_update` on a frame of `data_len` bytes at the start of `mem`, given the
neighbour port if there is one (`lldp_port_add` creates it otherwise); the timer re-arm that
ends it is left out. -/
def lldpPduNeighUpdate (mem : Nat → UInt8) (dataLen : UInt16) (existing : Option LldpPort)
    (fuel : Nat) : LldpRun :=
  let start : LldpPort × Bool := match existing with
    | none => (⟨[], 0, dpvsLldpTtlDefault⟩, false)
    | some port => ({ port with head := port.head.map ({ · with stale := true }) }, true)
  let run := lldpWalk mem fuel start.1 0 dataLen.toUInt64
  match run.result with
  | some (.ok port) => ⟨run.reads, some (.ok (if start.2 then lldpDropStale port else port))⟩
  | result => ⟨run.reads, result⟩

/-! ## The list keeps its shape -/

/-- `lldp_type_cmp` orders types as the numbers `type * 2^32 + subtype`. -/
def typeKey (t : LldpType) : Nat := t.type.toNat * 2 ^ 32 + t.subtype.toNat

theorem lldpTypeCmp_neg_iff (a b : LldpType) : lldpTypeCmp a b < 0 ↔ typeKey a < typeKey b := by
  have := a.subtype.toNat_lt
  have := b.subtype.toNat_lt
  unfold lldpTypeCmp typeKey
  simp only [UInt8.lt_iff_toNat_lt, UInt32.lt_iff_toNat_lt, gt_iff_lt]
  split_ifs <;> omega

theorem typeKey_inj {a b : LldpType} (same : typeKey a = typeKey b) : a = b := by
  have := a.subtype.toNat_lt
  have := b.subtype.toNat_lt
  unfold typeKey at same
  obtain ⟨ty, st⟩ := a
  obtain ⟨ty2, st2⟩ := b
  have types : ty.toNat = ty2.toNat := by dsimp only at *; omega
  have subtypes : st.toNat = st2.toNat := by dsimp only at *; omega
  rw [UInt8.toNat_inj.mp types, UInt32.toNat_inj.mp subtypes]

/-- The order of the entry list: every TLV but the End TLV comes before the End TLV, and
those by `lldp_type_cmp`, strictly. -/
def TypeBefore (a b : LldpType) : Prop :=
  a.type ≠ 0 ∧ (b.type = 0 ∨ lldpTypeCmp a b < 0)

theorem TypeBefore.trans {a b c : LldpType} (ab : TypeBefore a b) (bc : TypeBefore b c) :
    TypeBefore a c := by
  obtain ⟨a0, b0 | abLt⟩ := ab
  · exact absurd b0 bc.1
  refine ⟨a0, ?_⟩
  rcases bc.2 with c0 | bcLt
  · exact .inl c0
  · rw [lldpTypeCmp_neg_iff] at abLt bcLt ⊢
    exact .inr (abLt.trans bcLt)

/-- What every step keeps of the neighbour port: its list in `TypeBefore` order, so one
entry per type and subtype and the End TLV last; an End TLV of subtype 0, as its parser
gives it; and `entries` its length. -/
structure PortOk (port : LldpPort) : Prop where
  sorted : port.head.Pairwise (fun a b => TypeBefore a.type b.type)
  endKey : ∀ e ∈ port.head, e.type.type = 0 → e.type.subtype = 0
  entries : port.entries.toNat = port.head.length

/-- A list with the same types in the same order, counted the same, keeps the shape. -/
theorem PortOk.of_map_type {port port' : LldpPort} (ok : PortOk port)
    (types : port'.head.map (·.type) = port.head.map (·.type)) (entries : port'.entries = port.entries) :
    PortOk port' where
  sorted := by
    have := List.pairwise_map.mpr ok.sorted
    rw [← types] at this
    exact List.pairwise_map.mp this
  endKey e mem := by
    have : e.type ∈ port.head.map (·.type) := types ▸ List.mem_map_of_mem mem
    obtain ⟨e', mem', same⟩ := List.mem_map.mp this
    rw [← same]
    exact ok.endKey e' mem'
  entries := by
    rw [entries, ok.entries, ← List.length_map (f := LldpEntry.type), ← types, List.length_map]

theorem map_type_lldpEntryRewrite (type : LldpType) (len : UInt16) (tlv : List UInt8) :
    ∀ (l : List LldpEntry), (lldpEntryRewrite type len tlv l).map (·.type) = l.map (·.type)
  | [] => rfl
  | e :: rest => by
    unfold lldpEntryRewrite
    split
    · rfl
    · rw [List.map_cons, List.map_cons, map_type_lldpEntryRewrite type len tlv rest]

/-- A list that keeps some of the entries keeps the shape, when it is counted. -/
theorem PortOk.sublist {port port' : LldpPort} (ok : PortOk port) (sub : port'.head.Sublist port.head)
    (entries : port'.entries.toNat = port'.head.length) : PortOk port' where
  sorted := ok.sorted.sublist sub
  endKey e mem := ok.endKey e (sub.subset mem)
  entries := entries

theorem mem_lldpHashInsert {e x : LldpEntry} :
    ∀ (l : List LldpEntry), x ∈ lldpHashInsert e l ↔ x = e ∨ x ∈ l
  | [] => by simp [lldpHashInsert]
  | y :: rest => by
    unfold lldpHashInsert
    split
    · simp
    · simp only [List.mem_cons, mem_lldpHashInsert rest]
      tauto

theorem length_lldpHashInsert (e : LldpEntry) :
    ∀ (l : List LldpEntry), (lldpHashInsert e l).length = l.length + 1
  | [] => rfl
  | y :: rest => by
    unfold lldpHashInsert
    split
    · rfl
    · rw [List.length_cons, List.length_cons, length_lldpHashInsert e rest]

/-- Inserting a TLV other than the End TLV whose type is not in the list keeps it in order. -/
theorem pairwise_lldpHashInsert {e : LldpEntry} (notEnd : e.type.type ≠ 0) :
    ∀ (l : List LldpEntry), l.Pairwise (fun a b => TypeBefore a.type b.type) →
      (∀ x ∈ l, x.type ≠ e.type) →
        (lldpHashInsert e l).Pairwise (fun a b => TypeBefore a.type b.type)
  | [], _, _ => List.pairwise_singleton _ _
  | x :: rest, sorted, fresh => by
    obtain ⟨head, tail⟩ := List.pairwise_cons.mp sorted
    have differ : typeKey x.type ≠ typeKey e.type := fun same =>
      fresh x List.mem_cons_self (typeKey_inj same)
    unfold lldpHashInsert
    split
    -- e goes in front of x: it is below x, and so below everything after x
    · rename_i stop
      have ex : TypeBefore e.type x.type := by
        refine ⟨notEnd, ?_⟩
        rcases stop with x0 | notBelow
        · exact .inl x0
        · have : ¬ typeKey x.type < typeKey e.type := by
            rw [← lldpTypeCmp_neg_iff]
            omega
          rw [lldpTypeCmp_neg_iff]
          exact .inr (by omega)
      refine List.pairwise_cons.mpr ⟨fun y mem => ?_, sorted⟩
      rcases List.mem_cons.mp mem with rfl | later
      · exact ex
      · exact ex.trans (head y later)
    -- x stays in front: it is below e
    · rename_i pass
      obtain ⟨x0, below⟩ := not_or.mp pass
      have xe : TypeBefore x.type e.type := ⟨x0, .inr (by omega)⟩
      refine List.pairwise_cons.mpr ⟨fun y mem => ?_, pairwise_lldpHashInsert notEnd rest tail
        fun y mem => fresh y (List.mem_cons_of_mem x mem)⟩
      rcases (mem_lldpHashInsert rest).mp mem with rfl | later
      · exact xe
      · exact head y later

theorem toNat_succ_of_lt {n : UInt16} (small : n.toNat + 1 < 2 ^ 16) : (n + 1).toNat = n.toNat + 1 := by
  rw [UInt16.toNat_add, UInt16.toNat_one]
  omega

/-- `lldp_entry_hash` of an entry whose type is not in the list keeps the shape. -/
theorem PortOk.hash {port : LldpPort} (ok : PortOk port) {e : LldpEntry}
    (fresh : ∀ x ∈ port.head, x.type ≠ e.type) (endKey : e.type.type = 0 → e.type.subtype = 0)
    (room : port.head.length + 1 < 2 ^ 16) :
    PortOk (lldpEntryHash e port) ∧ (lldpEntryHash e port).head.length = port.head.length + 1 := by
  unfold lldpEntryHash
  have entries : (port.entries + 1).toNat = port.head.length + 1 := by
    rw [toNat_succ_of_lt (by rw [ok.entries]; exact room), ok.entries]
  split
  -- the End TLV goes at the tail: nothing in the list is one, so all of it comes before
  · rename_i isEnd
    have notEnd : ∀ x ∈ port.head, x.type.type ≠ 0 := fun x mem x0 =>
      fresh x mem (typeKey_inj (by rw [typeKey, typeKey, x0, isEnd, ok.endKey x mem x0, endKey isEnd]))
    refine ⟨⟨?_, ?_, ?_⟩, List.length_append⟩
    · exact List.pairwise_append.mpr ⟨ok.sorted, List.pairwise_singleton _ _,
        fun x mem y last => (List.mem_singleton.mp last) ▸ ⟨notEnd x mem, .inl isEnd⟩⟩
    · intro x mem
      rcases List.mem_append.mp mem with old | last
      · exact ok.endKey x old
      · exact (List.mem_singleton.mp last) ▸ endKey
    · rw [entries, List.length_append, List.length_singleton]
  -- any other TLV goes in order
  · rename_i notEnd
    refine ⟨⟨pairwise_lldpHashInsert notEnd _ ok.sorted fresh, fun x mem => ?_, ?_⟩,
      length_lldpHashInsert e _⟩
    · rcases (mem_lldpHashInsert _).mp mem with rfl | old
      · exact endKey
      · exact ok.endKey x old
    · rw [entries, length_lldpHashInsert]

/-- Once the first entry of a type is deleted from a list in order, no entry of it is left. -/
theorem fresh_eraseP {t : LldpType} :
    ∀ (l : List LldpEntry), l.Pairwise (fun a b => TypeBefore a.type b.type) →
      ∀ x ∈ l.eraseP (·.type = t), x.type ≠ t
  | [], _ => fun _ mem => absurd mem List.not_mem_nil
  | y :: rest, sorted => by
    obtain ⟨head, tail⟩ := List.pairwise_cons.mp sorted
    intro x mem
    by_cases found : y.type = t
    · rw [List.eraseP_cons_of_pos (by simpa using found)] at mem
      rw [← found]
      intro same
      obtain ⟨y0, x0 | lt⟩ := head x mem
      · exact y0 (same ▸ x0)
      · rw [same, lldpTypeCmp_neg_iff] at lt
        exact lt_irrefl _ lt
    · rw [List.eraseP_cons_of_neg (by simpa using found)] at mem
      rcases List.mem_cons.mp mem with rfl | later
      · exact found
      · exact fresh_eraseP rest tail x later

/-- `lldp_entry_add`'s list part keeps the shape, and adds at most one entry. -/
theorem PortOk.store {port : LldpPort} (ok : PortOk port) {type : LldpType} {len : UInt16}
    {tlv : List UInt8} (endKey : type.type = 0 → type.subtype = 0)
    (room : port.head.length + 1 < 2 ^ 16) :
    PortOk (lldpEntryStore port type len tlv).1 ∧
      (lldpEntryStore port type len tlv).1.head.length ≤ port.head.length + 1 := by
  unfold lldpEntryStore
  split
  · rename_i e found
    have mem : e ∈ port.head := List.mem_of_find?_eq_some found
    have key : e.type = type := by simpa using List.find?_some found
    split
    -- rewritten in place: the same types in the same order
    · refine ⟨ok.of_map_type (map_type_lldpEntryRewrite type len tlv port.head) rfl, ?_⟩
      rw [← List.length_map (f := LldpEntry.type), map_type_lldpEntryRewrite, List.length_map]
      omega
    -- replaced: deleted, then hashed afresh
    · have erased : (port.head.eraseP (·.type = type)).length = port.head.length - 1 :=
        List.length_eraseP_of_mem mem (by simpa using key)
      have positive : 0 < port.head.length := List.length_pos_of_mem mem
      have deleted : PortOk (lldpEntryDel port type) := ok.sublist (List.eraseP_sublist) (by
        rw [lldpEntryDel, UInt16.toNat_sub_of_le _ _ (by
          rw [UInt16.le_iff_toNat_le, ok.entries]; simp; omega), ok.entries, UInt16.toNat_one]
        exact erased.symm)
      obtain ⟨hashed, length⟩ := deleted.hash (e := ⟨type, len, false, tlv⟩)
        (fresh_eraseP port.head ok.sorted) endKey (by simp only [lldpEntryDel]; omega)
      exact ⟨hashed, by rw [length]; simp only [lldpEntryDel]; omega⟩
  -- none of the type: hashed afresh
  · rename_i none
    obtain ⟨hashed, length⟩ := ok.hash (e := ⟨type, len, false, tlv⟩)
      (fun x mem same => by simpa [same] using List.find?_eq_none.mp none x mem) endKey room
    exact ⟨hashed, length.le⟩

theorem lldpTypeGet_zero : lldpTypeGet 0 = some .default := by decide

/-- The parsers give the End TLV subtype 0: only the default parser takes type 0. -/
theorem lldpParseType_endKey {ops : LldpParse} {mem : Nat → UInt8} {p : Nat} {reads : List Nat}
    {type : LldpType} {len : UInt16} (known : lldpTypeGet (mem p >>> 1) = some ops)
    (parsed : lldpParseType ops mem p = (reads, .ok (type, len))) :
    type.type = 0 → type.subtype = 0 := by
  unfold lldpParseType at parsed
  rw [dpvsLldpTlType_charToU16, if_neg (not_ge_typeMax (mem p))] at parsed
  intro zero
  -- a parser other than the default one runs on a type other than 0
  have notZero : ops ≠ .default → mem p >>> 1 ≠ 0 := fun other z => by
    rw [z, lldpTypeGet_zero] at known
    exact other (Option.some.inj known).symm
  cases ops with
  | default =>
    cases parsed
    rfl
  | chassisId | portId =>
    dsimp only at parsed
    split at parsed
    · cases parsed
      exact absurd zero (notZero (by decide))
    · cases parsed
  | mngAddr =>
    cases parsed
    exact absurd zero (notZero (by decide))
  | org =>
    cases parsed
    exact absurd zero (notZero (by decide))

/-- `lldp_entry_add` keeps the shape whatever bytes it reads, and adds at most one entry. -/
theorem PortOk.entryAdd {mem : Nat → UInt8} {port port' : LldpPort} {p : Nat} (ok : PortOk port)
    (room : port.head.length + 1 < 2 ^ 16) (added : (lldpEntryAdd mem port p).2 = .ok port') :
    PortOk port' ∧ port'.head.length ≤ port.head.length + 1 := by
  unfold lldpEntryAdd at added
  rw [dpvsLldpTlType_charToU16] at added
  rcases known : lldpTypeGet (mem p >>> 1) with _ | ops
  · rw [known] at added
    cases added
  rw [known] at added
  dsimp only at added
  rcases parsed : lldpParseType ops mem p with ⟨reads, _ | ⟨type, len⟩⟩
  · rw [parsed] at added
    cases added
  rw [parsed] at added
  cases added
  obtain ⟨stored, length⟩ := @PortOk.store port ok type len _ (lldpParseType_endKey known parsed) room
  split
  -- the TTL's on_change moves the timeout only
  · exact ⟨stored.of_map_type rfl rfl, length⟩
  · exact ⟨stored, length⟩

/-- What a round of the walk that ends well can do: end at once, or take the port that
`lldp_entry_add` leaves (or the same one when it does not know the TLV) and end there or
walk on from the next TLV. -/
theorem lldpWalk_ok {mem : Nat → UInt8} {fuel : Nat} {port port' : LldpPort} {ptr : Nat}
    {totlen : UInt64} (walked : (lldpWalk mem (fuel + 1) port ptr totlen).result = some (.ok port')) :
    port' = port ∨ ∃ port1, ((lldpEntryAdd mem port ptr).2 = .ok port1 ∨ port1 = port) ∧
      (port' = port1 ∨ (lldpWalk mem fuel port1 (ptr + (dpvsLldpTlLen (load16 mem ptr) + 2).toNat)
        (totlen - (dpvsLldpTlLen (load16 mem ptr) + 2).toUInt64)).result = some (.ok port')) := by
  unfold lldpWalk at walked
  split at walked
  · cases walked
    exact .inl rfl
  dsimp only at walked
  -- after the End TLV the walk stops, after any other it goes on
  have next : ∀ port1, (if dpvsLldpTlType (load16 mem ptr) = lldpTypeEnd then
        (⟨[ptr, ptr + 1] ++ (lldpEntryAdd mem port ptr).1, some (.ok port1)⟩ : LldpRun)
      else ⟨[ptr, ptr + 1] ++ (lldpEntryAdd mem port ptr).1 ++
          (lldpWalk mem fuel port1 (ptr + (dpvsLldpTlLen (load16 mem ptr) + 2).toNat)
            (totlen - (dpvsLldpTlLen (load16 mem ptr) + 2).toUInt64)).reads,
        (lldpWalk mem fuel port1 (ptr + (dpvsLldpTlLen (load16 mem ptr) + 2).toNat)
            (totlen - (dpvsLldpTlLen (load16 mem ptr) + 2).toUInt64)).result⟩).result =
        some (.ok port') →
      port' = port1 ∨ (lldpWalk mem fuel port1 (ptr + (dpvsLldpTlLen (load16 mem ptr) + 2).toNat)
        (totlen - (dpvsLldpTlLen (load16 mem ptr) + 2).toUInt64)).result = some (.ok port') := by
    intro port1 ended
    split at ended
    · cases ended
      exact .inl rfl
    · exact .inr ended
  split at walked
  · rename_i port1 added
    exact .inr ⟨port1, .inl added, next port1 walked⟩
  · exact .inr ⟨port, .inr rfl, next port walked⟩
  · cases walked

/-- Every walk that ends well leaves the port in shape, whatever bytes it read, as long as
the entries it may add still fit the counter. -/
theorem PortOk.walk (mem : Nat → UInt8) :
    ∀ (fuel : Nat) (port : LldpPort) (ptr : Nat) (totlen : UInt64), PortOk port →
      port.head.length + fuel < 2 ^ 16 →
      ∀ port', (lldpWalk mem fuel port ptr totlen).result = some (.ok port') → PortOk port'
  | 0, _, _, _, _, _, _, walked => by cases walked
  | fuel + 1, port, ptr, totlen, ok, room, port', walked => by
    rcases lldpWalk_ok walked with rfl | ⟨port1, added, rest⟩
    · exact ok
    have ⟨ok1, length⟩ : PortOk port1 ∧ port1.head.length ≤ port.head.length + 1 := by
      rcases added with added | rfl
      · exact ok.entryAdd (by omega) added
      · exact ⟨ok, by omega⟩
    rcases rest with rfl | rest
    · exact ok1
    · exact PortOk.walk mem fuel port1 _ _ ok1 (by omega) port' rest

/-- The `check_stale` pass keeps the shape. -/
theorem PortOk.dropStale {port : LldpPort} (ok : PortOk port) : PortOk (lldpDropStale port) := by
  refine ok.sublist List.filter_sublist ?_
  have total := List.length_eq_countP_add_countP (fun e : LldpEntry => e.stale) (l := port.head)
  have kept : (port.head.filter (!·.stale)).length = port.head.countP (fun e => ¬ e.stale) := by
    rw [List.countP_eq_length_filter]
    simp
  have small : port.head.length < 2 ^ 16 := ok.entries ▸ port.entries.toNat_lt
  have count : (port.head.countP (·.stale)).toUInt16.toNat = port.head.countP (·.stale) := by
    rw [Nat.toUInt16, UInt16.toNat_ofNat_of_lt' (by unfold UInt16.size; omega)]
  simp only [lldpDropStale]
  rw [UInt16.toNat_sub_of_le _ _ (by rw [UInt16.le_iff_toNat_le, count, ok.entries]; omega),
    count, ok.entries, kept]
  omega

/-- Whatever bytes it reads, `lldp_pdu_neigh_update` leaves the neighbour port with its
entries sorted by type and subtype, one per type and subtype, the End TLV last and
`entries` their number, when it ends well. -/
theorem portOk_lldpPduNeighUpdate (mem : Nat → UInt8) (dataLen : UInt16)
    (existing : Option LldpPort) (fuel : Nat) (small : fuel < 2 ^ 16)
    (ok : ∀ port ∈ existing, PortOk port ∧ port.head.length + fuel < 2 ^ 16) (port' : LldpPort)
    (updated : (lldpPduNeighUpdate mem dataLen existing fuel).result = some (.ok port')) :
    PortOk port' := by
  unfold lldpPduNeighUpdate at updated
  cases existing with
  | none =>
    have fresh : PortOk ⟨[], 0, dpvsLldpTtlDefault⟩ :=
      ⟨List.Pairwise.nil, fun _ mem => absurd mem List.not_mem_nil, rfl⟩
    dsimp only at updated
    rcases walked : (lldpWalk mem fuel ⟨[], 0, dpvsLldpTtlDefault⟩ 0 dataLen.toUInt64).result
      with _ | _ | port
    all_goals rw [walked] at updated
    · cases updated
    · cases updated
    · cases updated
      exact PortOk.walk mem fuel _ 0 _ fresh (by simpa using small) port walked
  | some port =>
    obtain ⟨ok, room⟩ := ok port rfl
    -- marking the list stale keeps its types and its count
    have marked : PortOk { port with head := port.head.map ({ · with stale := true }) } :=
      ok.of_map_type (by simp [Function.comp_def]) rfl
    dsimp only at updated
    rcases walked : (lldpWalk mem fuel { port with head := port.head.map ({ · with stale := true }) }
      0 dataLen.toUInt64).result with _ | _ | port1
    all_goals rw [walked] at updated
    · cases updated
    · cases updated
    · cases updated
      exact (PortOk.walk mem fuel _ 0 _ marked (by simpa using room) port1 walked).dropStale

/-! ## What the walk loads -/

/-- The length a TLV header gives, its own two bytes included. -/
theorem toNat_tlvLen (tl : UInt16) : (dpvsLldpTlLen tl + 2).toNat = (dpvsLldpTlLen tl).toNat + 2 := by
  have := dpvsLldpTlLen_le tl
  have two : (2 : UInt16).toNat = 2 := rfl
  rw [UInt16.toNat_add, two]
  omega

/-- A registered parser accepts any TLV but a chassis or port id with a reserved
subtype, and returns the length in its header. -/
theorem lldpParseType_ok {ops : LldpParse} {mem : Nat → UInt8} {p : Nat}
    (subtype : ops = .chassisId ∨ ops = .portId → 0 < mem (p + 2) ∧ mem (p + 2) ≤ 7) :
    ∃ reads type, lldpParseType ops mem p = (reads, .ok (type, dpvsLldpTlLen (load16 mem p))) := by
  unfold lldpParseType
  rw [dpvsLldpTlType_charToU16, if_neg (not_ge_typeMax (mem p))]
  cases ops with
  | default => exact ⟨_, _, rfl⟩
  | chassisId => exact ⟨_, _, by rw [if_pos (subtype (.inl rfl))]⟩
  | portId => exact ⟨_, _, by rw [if_pos (subtype (.inr rfl))]⟩
  | mngAddr => exact ⟨_, _, rfl⟩
  | org => exact ⟨_, _, rfl⟩

/-- An unregistered type is left alone, loading nothing but its first byte. -/
theorem lldpEntryAdd_notsupp {mem : Nat → UInt8} {port : LldpPort} {p : Nat}
    (none : lldpTypeGet (mem p >>> 1) = none) :
    lldpEntryAdd mem port p = ([p], .error .notsupp) := by
  rw [lldpEntryAdd, dpvsLldpTlType_charToU16, none]

/-- A TLV a registered parser accepts is copied whole: its last byte is loaded. -/
theorem lldpEntryAdd_reads_last {mem : Nat → UInt8} {port : LldpPort} {p : Nat} {ops : LldpParse}
    (some : lldpTypeGet (mem p >>> 1) = some ops)
    (subtype : ops = .chassisId ∨ ops = .portId → 0 < mem (p + 2) ∧ mem (p + 2) ≤ 7) :
    p + (dpvsLldpTlLen (load16 mem p)).toNat + 1 ∈ (lldpEntryAdd mem port p).1 := by
  obtain ⟨reads, type, parsed⟩ := lldpParseType_ok subtype
  rw [lldpEntryAdd, dpvsLldpTlType_charToU16, some]
  dsimp only
  rw [parsed]
  exact List.mem_cons_of_mem p (List.mem_append_right reads
    (List.mem_map.mpr ⟨_, List.mem_range.mpr (Nat.lt_succ_self _), by omega⟩))

/-- Only the chassis and port id TLVs go to the parsers that check a subtype. -/
theorem lldpTypeGet_subtyped {t : UInt8} {ops : LldpParse} (known : lldpTypeGet t = some ops)
    (subtyped : ops = .chassisId ∨ ops = .portId) : t = 1 ∨ t = 2 := by
  unfold lldpTypeGet at known
  rcases subtyped with rfl | rfl
  all_goals
    split_ifs at known
    all_goals simp_all

section Round

variable {mem : Nat → UInt8} {fuel : Nat} {port : LldpPort} {ptr : Nat} {totlen : UInt64}

/-- A round of the walk loads the header at `ptr`. -/
theorem ptr_mem_lldpWalk (left : totlen ≠ 0) : ptr ∈ (lldpWalk mem (fuel + 1) port ptr totlen).reads := by
  unfold lldpWalk
  rw [if_neg left]
  dsimp only
  split
  all_goals first
    | (split <;> simp)
    | simp

/-- A round of the walk loads what `lldp_entry_add` loads. -/
theorem lldpEntryAdd_reads_sub (left : totlen ≠ 0) :
    ∀ i ∈ (lldpEntryAdd mem port ptr).1, i ∈ (lldpWalk mem (fuel + 1) port ptr totlen).reads := by
  intro i mem'
  unfold lldpWalk
  rw [if_neg left]
  dsimp only
  split
  all_goals first
    | (split <;> simp [mem'])
    | simp [mem']

/-- After an unsupported TLV other than the End TLV the walk goes on at the next one, with
`len` taken off `totlen`. -/
theorem lldpWalk_of_notsupp (left : totlen ≠ 0)
    (notsupp : (lldpEntryAdd mem port ptr).2 = .error .notsupp)
    (notEnd : dpvsLldpTlType (load16 mem ptr) ≠ lldpTypeEnd) :
    lldpWalk mem (fuel + 1) port ptr totlen =
      let rest := lldpWalk mem fuel port (ptr + (dpvsLldpTlLen (load16 mem ptr) + 2).toNat)
        (totlen - (dpvsLldpTlLen (load16 mem ptr) + 2).toUInt64)
      ⟨[ptr, ptr + 1] ++ (lldpEntryAdd mem port ptr).1 ++ rest.reads, rest.result⟩ := by
  rw [lldpWalk, if_neg left]
  dsimp only
  rw [notsupp]
  dsimp only
  rw [if_neg notEnd]

end Round

theorem lldpPduNeighUpdate_reads (mem : Nat → UInt8) (dataLen : UInt16) (existing : Option LldpPort)
    (fuel : Nat) : ∃ port, (lldpPduNeighUpdate mem dataLen existing fuel).reads =
      (lldpWalk mem fuel port 0 dataLen.toUInt64).reads := by
  unfold lldpPduNeighUpdate
  dsimp only
  exact ⟨_, by split <;> rfl⟩

/-- A frame whose first TLV claims more bytes than the frame holds is read past its end:
the copy of an accepted TLV runs over it, and after an unsupported one `totlen` wraps and
the next header is loaded from behind the frame. -/
theorem lldp_walk_reads_past_frame (mem : Nat → UInt8) (dataLen : UInt16)
    (existing : Option LldpPort) (fuel : Nat) (rounds : 2 ≤ fuel) (header : 2 ≤ dataLen.toNat)
    (overlong : dataLen.toNat < (dpvsLldpTlLen (load16 mem 0)).toNat + 2)
    (subtype : (mem 0 >>> 1 = 1 ∨ mem 0 >>> 1 = 2) → 0 < mem 2 ∧ mem 2 ≤ 7) :
    ∃ i ∈ (lldpPduNeighUpdate mem dataLen existing fuel).reads, dataLen.toNat ≤ i := by
  obtain ⟨port, reads⟩ := lldpPduNeighUpdate_reads mem dataLen existing fuel
  obtain ⟨fuel, rfl⟩ : ∃ f, fuel = f + 2 := ⟨fuel - 2, by omega⟩
  rw [reads]
  have left : dataLen.toUInt64 ≠ 0 := by
    intro zero
    have := congrArg UInt64.toNat zero
    rw [UInt16.toNat_toUInt64, UInt64.toNat_zero] at this
    omega
  rcases known : lldpTypeGet (mem 0 >>> 1) with _ | ops
  -- unsupported: the walk wraps totlen and loads the next header behind the frame
  · have notEnd : dpvsLldpTlType (load16 mem 0) ≠ lldpTypeEnd := by
      rw [dpvsLldpTlType_load16, lldpTypeEnd]
      intro zero
      rw [zero] at known
      cases known
    have wrapped : dataLen.toUInt64 - (dpvsLldpTlLen (load16 mem 0) + 2).toUInt64 ≠ 0 := by
      intro zero
      have := congrArg UInt64.toNat zero
      rw [UInt64.toNat_sub, UInt16.toNat_toUInt64, UInt16.toNat_toUInt64, toNat_tlvLen,
        UInt64.toNat_zero] at this
      have := dpvsLldpTlLen_le (load16 mem 0)
      omega
    have next := @ptr_mem_lldpWalk mem fuel port (0 + (dpvsLldpTlLen (load16 mem 0) + 2).toNat) _
      wrapped
    rw [lldpWalk_of_notsupp left (by rw [lldpEntryAdd_notsupp known]) notEnd]
    refine ⟨_, List.mem_append_right _ next, ?_⟩
    rw [toNat_tlvLen]
    omega
  -- registered: the copy loads the TLV's last byte, past the frame
  · have subtype' : ops = .chassisId ∨ ops = .portId → 0 < mem (0 + 2) ∧ mem (0 + 2) ≤ 7 :=
      fun subtyped => subtype (lldpTypeGet_subtyped known subtyped)
    refine ⟨_, lldpEntryAdd_reads_sub left _ (lldpEntryAdd_reads_last known subtype'), ?_⟩
    omega

/-- A frame of two bytes, a TTL TLV header that claims sixteen bytes of value, followed by
zeros. -/
def overlongTtl (i : Nat) : UInt8 := if i = 0 then 0x06 else if i = 1 then 0x10 else 0

theorem lldp_walk_reads_past_frame_ttl :
    2 ≤ 2 ∧ 2 ≤ (2 : UInt16).toNat ∧
    (2 : UInt16).toNat < (dpvsLldpTlLen (load16 overlongTtl 0)).toNat + 2 ∧
    ((overlongTtl 0 >>> 1 = 1 ∨ overlongTtl 0 >>> 1 = 2) → 0 < overlongTtl 2 ∧ overlongTtl 2 ≤ 7) ∧
    ∃ i ∈ (lldpPduNeighUpdate overlongTtl 2 none 2).reads, (2 : UInt16).toNat ≤ i :=
  ⟨le_rfl, by decide, by decide, by decide,
    lldp_walk_reads_past_frame overlongTtl 2 none 2 le_rfl (by decide) (by decide) (by decide)⟩

end Dpvs.Lldp
