import Mathlib

/-!
# Mbuf chains: copying bytes out, header pointers, pulling into the head

`include/mbuf.h` and `src/mbuf.c` read packets held as DPDK mbuf chains: a head
`rte_mbuf` and the segments linked from its `next`. The packet's bytes are the
concatenation of the segments' data (`RteMbuf.bytes`); the head's `pkt_len` and `nb_segs`
count them (`ChainOk`).

`mbuf_copy_bits` walks the segments with a running window `[start, end)` and copies the
part of `[offset, offset + len)` each one holds (`copyLoop_spec`); `mbuf_header_pointer`
points into the head when the bytes lie in it and copies them out otherwise;
`mbuf_may_pull` copies the missing bytes into the head's tailroom, then frees the
segments it ate whole and trims the one it ate in part (`eatLoop_spec`), keeping the
chain and its bytes (`mbufMayPull_ok`).

All of them compare with `(int)mbuf->pkt_len`. Below 2^31 bytes that is the chain's
length and the helpers do what they say (`mbuf_chain_helpers_preserve_bytes`); a chain of
2^31 bytes or more casts to a negative length, and every copy out of it fails
(`mbuf_copy_bits_fails_on_long_chain`).

Offsets and lengths are the C `int`s as integers: `offset + len` is not wrapped, its
overflow being undefined in C. A segment's `data_len` is the length of its data, which
`ChainOk` keeps inside a `uint16_t` buffer.
-/

namespace Dpvs.Mbuf

/-- One `rte_mbuf` of a chain: its data (`data_len` bytes from `data_off`) and the room
behind it in its buffer (`rte_pktmbuf_tailroom`). -/
structure RteSeg where
  data : List UInt8
  tailroom : Nat
  deriving DecidableEq, Repr

/-- A chain: the head, the segments linked from its `next`, and the head's `pkt_len` and
`nb_segs`. -/
structure RteMbuf where
  head : RteSeg
  segs : List RteSeg
  pktLen : UInt32
  nbSegs : UInt16
  deriving DecidableEq, Repr

/-- The bytes of a list of segments, in chain order. -/
def segBytes (segs : List RteSeg) : List UInt8 := segs.flatMap RteSeg.data

@[simp] theorem segBytes_nil : segBytes [] = [] := rfl

@[simp] theorem segBytes_cons (seg : RteSeg) (rest : List RteSeg) :
    segBytes (seg :: rest) = seg.data ++ segBytes rest := rfl

/-- The packet's bytes. -/
def RteMbuf.bytes (m : RteMbuf) : List UInt8 := segBytes (m.head :: m.segs)

/-- What the mbuf library keeps of a chain: `pkt_len` is the sum of the segments'
`data_len`, `nb_segs` counts them, and each segment's data and tailroom fit a buffer of
`uint16_t buf_len`. -/
structure ChainOk (m : RteMbuf) : Prop where
  pktLen : m.pktLen.toNat = m.bytes.length
  nbSegs : m.nbSegs.toNat = m.segs.length + 1
  fits : ∀ seg ∈ m.head :: m.segs, seg.data.length + seg.tailroom < 2 ^ 16

/-- The C conversion `(int)` of an unsigned 32-bit value. -/
def toCInt (x : UInt32) : Int := x.toInt32.toInt

theorem toCInt_of_lt {x : UInt32} (h : x.toNat < 2 ^ 31) : toCInt x = x.toNat := by
  rw [toCInt, ← Int32.toInt_toBitVec, UInt32.toBitVec_toInt32, BitVec.toInt_eq_toNat_of_lt]
  · rfl
  · rw [UInt32.toNat_toBitVec]
    omega

/-! ## mbuf_copy_bits -/

/-- The loop of `mbuf_copy_bits` over the segments left, with the running `start`,
`offset` and `len` and the bytes written to `to` so far (`out`): the result code and what was
written. -/
def copyLoop : List RteSeg → (start offset len : Int) → List UInt8 → Int × List UInt8
  | [], _, _, len, out => (if len = 0 then 0 else -1, out)
  | seg :: rest, start, offset, len, out =>
    let segEnd := start + seg.data.length
    let copy := segEnd - offset
    if 0 < copy then
      let copy := if copy > len then len else copy
      let out := out ++ (seg.data.drop (offset - start).toNat).take copy.toNat
      if len - copy = 0 then (0, out)
      else copyLoop rest segEnd (offset + copy) (len - copy) out
    else copyLoop rest segEnd offset len out

/-- `mbuf_copy_bits`: the result code and the bytes written to `to`. -/
def mbufCopyBits (m : RteMbuf) (offset len : Int) : Int × List UInt8 :=
  if offset + len > toCInt m.pktLen then (-1, [])
  else copyLoop (m.head :: m.segs) 0 offset len []

/-- The loop copies the window it is asked for: from `offset - start` into the bytes of
the segments left, `len` of them, when they are there. -/
theorem copyLoop_spec : ∀ (segs : List RteSeg) (start offset len : Int) (out : List UInt8),
    start ≤ offset → 0 ≤ len → offset - start + len ≤ (segBytes segs).length →
      copyLoop segs start offset len out =
        (0, out ++ ((segBytes segs).drop (offset - start).toNat).take len.toNat)
  | [], start, offset, len, out, _, _, fits => by
    have empty : len = 0 := by simp at fits; omega
    simp [copyLoop, empty]
  | seg :: rest, start, offset, len, out, after, nonneg, fits => by
    simp only [segBytes_cons, List.length_append] at fits
    unfold copyLoop
    dsimp only
    by_cases inSeg : 0 < start + seg.data.length - offset
    · rw [if_pos inSeg]
      have within : (offset - start).toNat ≤ seg.data.length := by omega
      by_cases last : start + seg.data.length - offset > len
      -- the window ends inside this segment
      · rw [if_pos last, if_pos (by omega), segBytes_cons, List.drop_append_of_le_length within,
          List.take_append_of_le_length (by simp; omega)]
      -- the window runs on: this segment's tail, then the rest from its start
      · rw [if_neg last]
        by_cases done : len - (start + seg.data.length - offset) = 0
        · rw [if_pos done, segBytes_cons, List.drop_append_of_le_length within,
            List.take_append_of_le_length (by simp; omega)]
          congr 3
          omega
        · have fromStart : (offset + (start + seg.data.length - offset) -
              (start + seg.data.length)).toNat = 0 := by omega
          have segLen : (seg.data.drop (offset - start).toNat).length =
              (start + seg.data.length - offset).toNat := by simp only [List.length_drop]; omega
          have whole : ∀ j, (start + seg.data.length - offset).toNat ≤ j →
              (seg.data.drop (offset - start).toNat).take j = seg.data.drop (offset - start).toNat :=
            fun j le => List.take_of_length_le (segLen ▸ le)
          have restLen : (len - (start + seg.data.length - offset)).toNat =
              len.toNat - (start + seg.data.length - offset).toNat := by omega
          rw [if_neg done, copyLoop_spec rest _ _ _ _ (by omega) (by omega) (by omega), fromStart,
            List.drop_zero, segBytes_cons, List.drop_append_of_le_length within, List.take_append,
            segLen, whole _ le_rfl, whole _ (by omega), restLen, List.append_assoc]
    -- the window starts past this segment
    · have gone : seg.data.drop (offset - start).toNat = [] := List.drop_of_length_le (by omega)
      have index : (offset - (start + seg.data.length)).toNat =
          (offset - start).toNat - seg.data.length := by omega
      rw [if_neg inSeg, copyLoop_spec rest _ _ _ _ (by omega) nonneg (by omega), segBytes_cons,
        List.drop_append, gone, List.nil_append, index]

/-- Below 2^31 bytes, `mbuf_copy_bits` copies `[offset, offset + len)` exactly when it
lies in the packet, and fails otherwise. -/
theorem mbufCopyBits_spec {m : RteMbuf} (ok : ChainOk m) (short : m.pktLen.toNat < 2 ^ 31)
    {offset len : Int} (hoff : 0 ≤ offset) (hlen : 0 ≤ len) :
    mbufCopyBits m offset len =
      if offset + len ≤ m.pktLen.toNat then (0, (m.bytes.drop offset.toNat).take len.toNat)
      else (-1, []) := by
  unfold mbufCopyBits
  rw [toCInt_of_lt short]
  by_cases inside : offset + len ≤ m.pktLen.toNat
  · rw [if_neg (by omega), if_pos inside, copyLoop_spec _ _ _ _ _ hoff hlen (by
      rw [← RteMbuf.bytes, ← ok.pktLen]; omega)]
    simp [RteMbuf.bytes]
  · rw [if_pos (by omega), if_neg inside]

/-! ## mbuf_header_pointer -/

/-- Where `mbuf_header_pointer` points: into the head's data at an offset, or at the
caller's buffer after the bytes were copied there. -/
inductive HeaderPtr where
  | data (offset : Nat)
  | buffer (bytes : List UInt8)
  deriving DecidableEq, Repr

/-- `mbuf_header_pointer`, with `none` for `NULL`; comparing with the unsigned `pkt_len`
converts `offset + len` modulo 2^32. -/
def mbufHeaderPointer (m : RteMbuf) (offset len : Int) : Option HeaderPtr :=
  if (m.head.data.length : Int) < offset + len then
    if (m.pktLen.toNat : Int) < (offset + len) % 2 ^ 32 then none
    else
      let copied := mbufCopyBits m offset len
      if copied.1 ≠ 0 then none else some (.buffer copied.2)
  else some (.data offset.toNat)

/-- The `len` bytes a header pointer gives access to. -/
def HeaderPtr.read (m : RteMbuf) (len : Nat) : HeaderPtr → List UInt8
  | .data offset => (m.head.data.drop offset).take len
  | .buffer bytes => bytes

theorem head_length_le {m : RteMbuf} (ok : ChainOk m) : m.head.data.length ≤ m.pktLen.toNat := by
  rw [ok.pktLen, RteMbuf.bytes, segBytes_cons, List.length_append]
  omega

/-- Below 2^31 bytes, `mbuf_header_pointer` is `NULL` exactly when the bytes run past the
packet; otherwise it points into the head when they lie in it and at the copy otherwise,
and the bytes it points at are the packet's. -/
theorem mbufHeaderPointer_spec {m : RteMbuf} (ok : ChainOk m) (short : m.pktLen.toNat < 2 ^ 31)
    {offset len : Int} (hoff : 0 ≤ offset) (hlen : 0 ≤ len) :
    mbufHeaderPointer m offset len =
      if (m.pktLen.toNat : Int) < offset + len then none
      else if offset + len ≤ m.head.data.length then some (.data offset.toNat)
      else some (.buffer ((m.bytes.drop offset.toNat).take len.toNat)) := by
  have inHead := head_length_le ok
  unfold mbufHeaderPointer
  dsimp only
  rw [mbufCopyBits_spec ok short hoff hlen]
  by_cases past : (m.pktLen.toNat : Int) < offset + len
  · have beyond : (m.head.data.length : Int) < offset + len := by omega
    have outside : ¬ offset + len ≤ (m.pktLen.toNat : Int) := by omega
    -- the unsigned test may let a wrapped sum through; the copy then fails
    simp only [beyond, outside, past, if_true, if_false, ne_eq, Int.reduceNeg]
    split <;> simp
  · have inside : offset + len ≤ (m.pktLen.toNat : Int) := by omega
    have unwrapped : (offset + len) % 2 ^ 32 = offset + len := Int.emod_eq_of_lt (by omega) (by omega)
    simp only [inside, past, unwrapped, if_true, if_false, ne_eq, not_true_eq_false]
    by_cases tail : (m.head.data.length : Int) < offset + len
    · have notHead : ¬ offset + len ≤ (m.head.data.length : Int) := by omega
      simp [tail, notHead]
    · have inHead : offset + len ≤ (m.head.data.length : Int) := by omega
      simp [tail, inHead]

theorem read_data_eq {m : RteMbuf} {offset len : Nat} (inHead : offset + len ≤ m.head.data.length) :
    (HeaderPtr.data offset).read m len = (m.bytes.drop offset).take len := by
  rw [HeaderPtr.read, RteMbuf.bytes, segBytes_cons, List.drop_append_of_le_length (by omega),
    List.take_append_of_le_length (by simp; omega)]

/-- What a header pointer gives is the packet's bytes, and it points into the head just
when they lie there. -/
theorem mbufHeaderPointer_read {m : RteMbuf} (ok : ChainOk m) (short : m.pktLen.toNat < 2 ^ 31)
    {offset len : Int} (hoff : 0 ≤ offset) (hlen : 0 ≤ len) {p : HeaderPtr}
    (found : mbufHeaderPointer m offset len = some p) :
    p.read m len.toNat = (m.bytes.drop offset.toNat).take len.toNat ∧
      (p = .data offset.toNat ↔ offset + len ≤ m.head.data.length) := by
  rw [mbufHeaderPointer_spec ok short hoff hlen] at found
  by_cases past : (m.pktLen.toNat : Int) < offset + len
  · rw [if_pos past] at found
    cases found
  rw [if_neg past] at found
  by_cases inHead : offset + len ≤ m.head.data.length
  · rw [if_pos inHead] at found
    cases found
    exact ⟨read_data_eq (by omega), iff_of_true rfl inHead⟩
  · rw [if_neg inHead] at found
    cases found
    exact ⟨rfl, iff_of_false (by simp) inHead⟩

/-! ## mbuf_may_pull -/

/-- The loop of `mbuf_may_pull` over the segments after the head: it frees the ones the
pull ate whole and trims the one it ate in part; the segments still chained, `nb_segs`
and what is left to eat. -/
def eatLoop : List RteSeg → Int → UInt16 → List RteSeg × UInt16 × Int
  | [], eat, n => ([], n, eat)
  | seg :: rest, eat, n =>
    if eat ≤ 0 then (seg :: rest, n, eat)
    else if (seg.data.length : Int) ≤ eat then eatLoop rest (eat - seg.data.length) (n - 1)
    -- rte_pktmbuf_adj: the eaten bytes leave the front of the segment
    else ({ seg with data := seg.data.drop eat.toNat } :: rest, n, 0)

/-- What `mbuf_may_pull` does once the `delta` bytes it lacks are copied behind the head's
data: the head takes them in, and the segments they came from are freed or trimmed. -/
def pullInto (m : RteMbuf) (delta : Int) (pulled : List UInt8) : RteMbuf :=
  let eaten := eatLoop m.segs delta m.nbSegs
  { m with
    head := ⟨m.head.data ++ pulled, m.head.tailroom - delta.toNat⟩
    segs := eaten.1
    nbSegs := eaten.2.1 }

/-- `mbuf_may_pull`: the result code and the chain after it. -/
def mbufMayPull (m : RteMbuf) (len : UInt32) : Int × RteMbuf :=
  if len.toNat ≤ m.head.data.length then (0, m)
  else if len > m.pktLen then (-1, m)
  else
    -- int delta = len - mbuf->data_len, an unsigned difference converted to int
    let delta := toCInt (len - UInt32.ofNat m.head.data.length)
    if (m.head.tailroom : Int) < delta then (-1, m)
    else
      let pulled := mbufCopyBits m m.head.data.length delta
      if pulled.1 ≠ 0 then (-1, m)
      else (0, pullInto m delta pulled.2)

/-- Eating `eat` bytes off segments that hold at least that many leaves the rest of their
bytes, one fewer `nb_segs` for each segment freed, nothing left to eat, and segments that
still fit their buffers. -/
theorem eatLoop_spec : ∀ (segs : List RteSeg) (eat : Int) (n : UInt16),
    0 ≤ eat → eat ≤ (segBytes segs).length → n.toNat = segs.length + 1 →
    (∀ seg ∈ segs, seg.data.length + seg.tailroom < 2 ^ 16) →
      segBytes (eatLoop segs eat n).1 = (segBytes segs).drop eat.toNat ∧
      (eatLoop segs eat n).2.1.toNat = (eatLoop segs eat n).1.length + 1 ∧
      (eatLoop segs eat n).2.2 = 0 ∧
      ∀ seg ∈ (eatLoop segs eat n).1, seg.data.length + seg.tailroom < 2 ^ 16
  | [], eat, n, nonneg, le, count, _ => by
    have none : eat = 0 := by simp at le; omega
    simp [eatLoop, none, count]
  | seg :: rest, eat, n, nonneg, le, count, fits => by
    simp only [segBytes_cons, List.length_append] at le
    have restFits : ∀ s ∈ rest, s.data.length + s.tailroom < 2 ^ 16 :=
      fun s mem => fits s (List.mem_cons_of_mem seg mem)
    unfold eatLoop
    by_cases stop : eat ≤ 0
    · have zero : eat = 0 := by omega
      rw [if_pos stop]
      exact ⟨by simp [zero], count, zero, fits⟩
    rw [if_neg stop]
    by_cases whole : (seg.data.length : Int) ≤ eat
    -- the segment is freed and the rest is eaten from
    · rw [if_pos whole]
      have fewer : (n - 1).toNat = rest.length + 1 := by
        simp only [List.length_cons] at count
        rw [UInt16.toNat_sub_of_le _ _ (by simp [UInt16.le_iff_toNat_le]; omega)]
        simp only [UInt16.toNat_one]
        omega
      obtain ⟨bytes, nb, left, segFits⟩ :=
        eatLoop_spec rest (eat - seg.data.length) (n - 1) (by omega) (by omega) fewer restFits
      have gone : seg.data.drop eat.toNat = [] := List.drop_of_length_le (by omega)
      have index : (eat - seg.data.length).toNat = eat.toNat - seg.data.length := by omega
      refine ⟨?_, nb, left, segFits⟩
      rw [bytes, segBytes_cons, List.drop_append, gone, List.nil_append, index]
    -- the segment is trimmed and the loop stops
    · rw [if_neg whole]
      refine ⟨?_, by simpa using count, rfl, ?_⟩
      · rw [segBytes_cons, segBytes_cons, List.drop_append_of_le_length (by omega)]
      · intro s mem
        rcases List.mem_cons.mp mem with rfl | old
        · have := fits seg List.mem_cons_self
          simp only [List.length_drop]
          omega
        · exact restFits s old

theorem length_segBytes_tail {m : RteMbuf} (ok : ChainOk m) :
    (segBytes m.segs).length = m.pktLen.toNat - m.head.data.length := by
  rw [ok.pktLen, RteMbuf.bytes, segBytes_cons, List.length_append]
  omega

theorem head_fits {m : RteMbuf} (ok : ChainOk m) : m.head.data.length + m.head.tailroom < 2 ^ 16 :=
  ok.fits m.head List.mem_cons_self

/-- The pull's `delta`: what the head lacks, as an `int`. -/
theorem toCInt_delta {m : RteMbuf} (ok : ChainOk m) (short : m.pktLen.toNat < 2 ^ 31) {len : UInt32}
    (more : m.head.data.length < len.toNat) (inside : len ≤ m.pktLen) :
    toCInt (len - UInt32.ofNat m.head.data.length) = len.toNat - m.head.data.length := by
  have small : m.head.data.length < 2 ^ 16 := by have := head_fits ok; omega
  have ofNat : (UInt32.ofNat m.head.data.length).toNat = m.head.data.length :=
    UInt32.toNat_ofNat_of_lt' (Nat.lt_trans small (by decide))
  rw [UInt32.le_iff_toNat_le] at inside
  have sub : (len - UInt32.ofNat m.head.data.length).toNat = len.toNat - m.head.data.length := by
    rw [UInt32.toNat_sub_of_le _ _ (by rw [UInt32.le_iff_toNat_le, ofNat]; omega), ofNat]
  rw [toCInt_of_lt (by omega), sub]
  omega

/-- Everything a pull can do: nothing when the head holds `len` bytes; fail, leaving the
chain, when the packet is shorter or the head's tailroom cannot take what is missing;
otherwise pull the missing bytes of the segments into the head. -/
theorem mbufMayPull_cases {m : RteMbuf} (ok : ChainOk m) (short : m.pktLen.toNat < 2 ^ 31)
    (len : UInt32) :
    (len.toNat ≤ m.head.data.length ∧ mbufMayPull m len = (0, m)) ∨
    (m.head.data.length < len.toNat ∧
      (m.pktLen.toNat < len.toNat ∨ m.head.data.length + m.head.tailroom < len.toNat) ∧
      mbufMayPull m len = (-1, m)) ∨
    (m.head.data.length < len.toNat ∧ len.toNat ≤ m.pktLen.toNat ∧
      len.toNat ≤ m.head.data.length + m.head.tailroom ∧
      mbufMayPull m len = (0, pullInto m ((len.toNat : Int) - m.head.data.length)
        ((segBytes m.segs).take (len.toNat - m.head.data.length)))) := by
  by_cases enough : len.toNat ≤ m.head.data.length
  · exact .inl ⟨enough, by rw [mbufMayPull, if_pos enough]⟩
  have more : m.head.data.length < len.toNat := by omega
  by_cases past : m.pktLen.toNat < len.toNat
  · refine .inr (.inl ⟨more, .inl past, ?_⟩)
    rw [mbufMayPull, if_neg enough, if_pos (UInt32.lt_iff_toNat_lt.mpr past)]
  have inside : len ≤ m.pktLen := UInt32.le_iff_toNat_le.mpr (by omega)
  have notPast : ¬ len > m.pktLen := by
    rw [gt_iff_lt, UInt32.lt_iff_toNat_lt]
    omega
  have delta := toCInt_delta ok short more inside
  rw [mbufMayPull, if_neg enough, if_neg notPast]
  dsimp only
  rw [delta]
  by_cases full : m.head.data.length + m.head.tailroom < len.toNat
  · have noRoom : (m.head.tailroom : Int) < len.toNat - m.head.data.length := by omega
    exact .inr (.inl ⟨more, .inr full, by rw [if_pos noRoom]⟩)
  -- the copy out of the segments succeeds: it reads inside the packet
  have room : ¬ (m.head.tailroom : Int) < len.toNat - m.head.data.length := by omega
  have copies : (m.head.data.length : Int) + (len.toNat - m.head.data.length) ≤ m.pktLen.toNat := by
    omega
  have window : (m.bytes.drop (m.head.data.length : Int).toNat).take
      ((len.toNat : Int) - m.head.data.length).toNat =
      (segBytes m.segs).take (len.toNat - m.head.data.length) := by
    rw [Int.toNat_natCast, RteMbuf.bytes, segBytes_cons, List.drop_left]
    congr 1
    omega
  refine .inr (.inr ⟨more, by omega, by omega, ?_⟩)
  rw [if_neg room, mbufCopyBits_spec ok short (by omega) (by omega), if_pos copies, window]
  rfl

/-- A pull keeps the packet's bytes and the chain's shape: the head takes in the front of
the segments' bytes, and what the segments lose is just that front. -/
theorem pullInto_ok {m : RteMbuf} (ok : ChainOk m) {len : Nat} (more : m.head.data.length < len)
    (inside : len ≤ m.pktLen.toNat) (room : len ≤ m.head.data.length + m.head.tailroom) :
    len ≤ (pullInto m (len - m.head.data.length) ((segBytes m.segs).take (len - m.head.data.length))).head.data.length ∧
    (pullInto m (len - m.head.data.length) ((segBytes m.segs).take (len - m.head.data.length))).bytes = m.bytes ∧
    ChainOk (pullInto m (len - m.head.data.length) ((segBytes m.segs).take (len - m.head.data.length))) := by
  have tail := length_segBytes_tail ok
  have eat : ((len : Int) - m.head.data.length).toNat = len - m.head.data.length := by omega
  obtain ⟨bytes, nb, -, segFits⟩ := eatLoop_spec m.segs ((len : Int) - m.head.data.length) m.nbSegs
    (by omega) (by omega) ok.nbSegs fun s mem => ok.fits s (List.mem_cons_of_mem _ mem)
  rw [eat] at bytes
  -- the head gains what the segments lose
  have same : (pullInto m (len - m.head.data.length)
      ((segBytes m.segs).take (len - m.head.data.length))).bytes = m.bytes := by
    rw [pullInto, RteMbuf.bytes, segBytes_cons, bytes, List.append_assoc, List.take_append_drop]
    rfl
  refine ⟨?_, same, ⟨?_, nb, ?_⟩⟩
  · simp only [pullInto, List.length_append, List.length_take]
    omega
  · rw [same, ← ok.pktLen]
    rfl
  · intro s mem
    rcases List.mem_cons.mp mem with rfl | later
    · have := head_fits ok
      simp only [pullInto, List.length_append, List.length_take]
      omega
    · exact segFits s later

/-- A pull that succeeds leaves `len` bytes in the head, the same bytes and `pkt_len`, and
a chain whose `nb_segs` counts the segments still linked. -/
theorem mbufMayPull_ok {m : RteMbuf} (ok : ChainOk m) (short : m.pktLen.toNat < 2 ^ 31)
    {len : UInt32} (pulled : (mbufMayPull m len).1 = 0) :
    len.toNat ≤ (mbufMayPull m len).2.head.data.length ∧
      (mbufMayPull m len).2.pktLen = m.pktLen ∧ (mbufMayPull m len).2.bytes = m.bytes ∧
      ChainOk (mbufMayPull m len).2 := by
  rcases mbufMayPull_cases ok short len with ⟨enough, eq⟩ | ⟨-, -, eq⟩ | ⟨more, inside, room, eq⟩
  · rw [eq]
    exact ⟨enough, rfl, rfl, ok⟩
  · rw [eq] at pulled
    cases pulled
  · obtain ⟨head, same, chain⟩ := pullInto_ok ok more inside room
    rw [eq]
    exact ⟨head, rfl, same, chain⟩

/-- A pull that fails leaves the chain as it was. -/
theorem mbufMayPull_fail {m : RteMbuf} (ok : ChainOk m) (short : m.pktLen.toNat < 2 ^ 31)
    {len : UInt32} (failed : (mbufMayPull m len).1 ≠ 0) : (mbufMayPull m len).2 = m := by
  rcases mbufMayPull_cases ok short len with ⟨-, eq⟩ | ⟨-, -, eq⟩ | ⟨-, -, -, eq⟩
  · rw [eq]
  · rw [eq]
  · rw [eq] at failed
    exact absurd rfl failed

/-- Below 2^31 bytes, a pull succeeds exactly when the head already holds `len` bytes, or
the packet does and the head's tailroom takes what is missing. -/
theorem mbufMayPull_eq_zero_iff {m : RteMbuf} (ok : ChainOk m) (short : m.pktLen.toNat < 2 ^ 31)
    {len : UInt32} :
    (mbufMayPull m len).1 = 0 ↔ len.toNat ≤ m.head.data.length ∨
      (len.toNat ≤ m.pktLen.toNat ∧ len.toNat ≤ m.head.data.length + m.head.tailroom) := by
  rcases mbufMayPull_cases ok short len with ⟨enough, eq⟩ | ⟨more, fails, eq⟩ | ⟨-, inside, room, eq⟩
  · simp [eq, enough]
  · rw [eq]
    simp only
    omega
  · simp [eq, inside, room]
/-- Below 2^31 bytes the chain helpers preserve the packet's bytes: `mbuf_copy_bits`
copies exactly the window asked for when it lies in the packet and fails otherwise;
`mbuf_header_pointer` is `NULL` exactly when the window runs past the packet, and otherwise
gives the window's bytes, in the head when they lie there; `mbuf_may_pull` succeeds exactly
when the head holds `len` bytes or can take them in, and then leaves them in the head with
the same bytes, `pkt_len` and a well-formed chain, and fails leaving the chain as it was. -/
theorem mbuf_chain_helpers_preserve_bytes {m : RteMbuf} (ok : ChainOk m)
    (short : m.pktLen.toNat < 2 ^ 31) :
    (∀ offset len : Int, 0 ≤ offset → 0 ≤ len →
      mbufCopyBits m offset len =
        if offset + len ≤ m.pktLen.toNat then (0, (m.bytes.drop offset.toNat).take len.toNat)
        else (-1, [])) ∧
    (∀ offset len : Int, 0 ≤ offset → 0 ≤ len →
      (mbufHeaderPointer m offset len = none ↔ (m.pktLen.toNat : Int) < offset + len) ∧
      ∀ p, mbufHeaderPointer m offset len = some p →
        p.read m len.toNat = (m.bytes.drop offset.toNat).take len.toNat ∧
        (p = .data offset.toNat ↔ offset + len ≤ m.head.data.length)) ∧
    (∀ len : UInt32,
      ((mbufMayPull m len).1 = 0 ↔ len.toNat ≤ m.head.data.length ∨
        (len.toNat ≤ m.pktLen.toNat ∧ len.toNat ≤ m.head.data.length + m.head.tailroom)) ∧
      ((mbufMayPull m len).1 = 0 →
        len.toNat ≤ (mbufMayPull m len).2.head.data.length ∧
        (mbufMayPull m len).2.pktLen = m.pktLen ∧ (mbufMayPull m len).2.bytes = m.bytes ∧
        ChainOk (mbufMayPull m len).2) ∧
      ((mbufMayPull m len).1 ≠ 0 → (mbufMayPull m len).2 = m)) := by
  refine ⟨fun _ _ hoff hlen => mbufCopyBits_spec ok short hoff hlen,
    fun offset len hoff hlen => ⟨?_, fun _ found => mbufHeaderPointer_read ok short hoff hlen found⟩,
    fun _ => ⟨mbufMayPull_eq_zero_iff ok short, mbufMayPull_ok ok short,
      mbufMayPull_fail ok short⟩⟩
  rw [mbufHeaderPointer_spec ok short hoff hlen]
  by_cases past : (m.pktLen.toNat : Int) < offset + len
  · simp [past]
  · rw [if_neg past]
    split <;> simp [past]

/-- A head of three bytes with room for four more, and a segment of four. -/
def twoSegChain : RteMbuf := ⟨⟨[1, 2, 3], 4⟩, [⟨[4, 5, 6, 7], 0⟩], 7, 2⟩

theorem mbuf_chain_helpers_preserve_bytes_two_segs :
    ChainOk twoSegChain ∧ twoSegChain.pktLen.toNat < 2 ^ 31 ∧
    (∀ offset len : Int, 0 ≤ offset → 0 ≤ len →
      mbufCopyBits twoSegChain offset len =
        if offset + len ≤ twoSegChain.pktLen.toNat then
          (0, (twoSegChain.bytes.drop offset.toNat).take len.toNat)
        else (-1, [])) ∧
    (∀ offset len : Int, 0 ≤ offset → 0 ≤ len →
      (mbufHeaderPointer twoSegChain offset len = none ↔
        (twoSegChain.pktLen.toNat : Int) < offset + len) ∧
      ∀ p, mbufHeaderPointer twoSegChain offset len = some p →
        p.read twoSegChain len.toNat = (twoSegChain.bytes.drop offset.toNat).take len.toNat ∧
        (p = .data offset.toNat ↔ offset + len ≤ twoSegChain.head.data.length)) ∧
    (∀ len : UInt32,
      ((mbufMayPull twoSegChain len).1 = 0 ↔ len.toNat ≤ twoSegChain.head.data.length ∨
        (len.toNat ≤ twoSegChain.pktLen.toNat ∧
          len.toNat ≤ twoSegChain.head.data.length + twoSegChain.head.tailroom)) ∧
      ((mbufMayPull twoSegChain len).1 = 0 →
        len.toNat ≤ (mbufMayPull twoSegChain len).2.head.data.length ∧
        (mbufMayPull twoSegChain len).2.pktLen = twoSegChain.pktLen ∧
        (mbufMayPull twoSegChain len).2.bytes = twoSegChain.bytes ∧
        ChainOk (mbufMayPull twoSegChain len).2) ∧
      ((mbufMayPull twoSegChain len).1 ≠ 0 → (mbufMayPull twoSegChain len).2 = twoSegChain)) :=
  have ok : ChainOk twoSegChain := ⟨by decide, by decide, by decide⟩
  ⟨ok, by decide, mbuf_chain_helpers_preserve_bytes ok (by decide)⟩

/-- A segment that fills its `uint16_t` buffer. -/
def fullSeg : RteSeg := ⟨List.replicate 65535 0, 0⟩

/-- A chain of 32769 full segments: 2^31 + 32767 bytes, a valid `uint32_t pkt_len`. -/
def longChain : RteMbuf := ⟨fullSeg, List.replicate 32768 fullSeg, 2147516415, 32769⟩

/-- A chain of full segments is well formed when its counts are right; stated for any
number of them, so that the long chain's is never computed segment by segment. -/
theorem chainOk_fullSegs (n : Nat) (pktLen : UInt32) (nbSegs : UInt16)
    (bytes : pktLen.toNat = 65535 * (n + 1)) (count : nbSegs.toNat = n + 1) :
    ChainOk ⟨fullSeg, List.replicate n fullSeg, pktLen, nbSegs⟩ where
  pktLen := by
    show pktLen.toNat = (segBytes (fullSeg :: List.replicate n fullSeg)).length
    rw [← List.replicate_succ, segBytes, List.length_flatMap, List.map_replicate, List.sum_replicate,
      fullSeg, List.length_replicate, smul_eq_mul, bytes, Nat.mul_comm]
  nbSegs := by
    show nbSegs.toNat = (List.replicate n fullSeg).length + 1
    rw [count, List.length_replicate]
  fits seg mem := by
    change seg ∈ fullSeg :: List.replicate n fullSeg at mem
    rw [← List.replicate_succ] at mem
    rw [List.eq_of_mem_replicate mem, fullSeg, List.length_replicate]
    decide

/-- `(int)pkt_len` is negative on the long chain, so copying even nothing from its start
fails. -/
theorem mbuf_copy_bits_fails_on_long_chain :
    ChainOk longChain ∧ (0 : Int) + 0 ≤ longChain.pktLen.toNat ∧
      mbufCopyBits longChain 0 0 = (-1, []) :=
  ⟨chainOk_fullSegs 32768 2147516415 32769 rfl rfl, by decide,
    by rw [mbufCopyBits, if_pos (by decide)]⟩

end Dpvs.Mbuf
