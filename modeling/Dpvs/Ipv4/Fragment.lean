import Dpvs.Ipvs.IcmpRelay

/-!
# Fragmenting an IPv4 datagram: ipv4_fragment

`ipv4_fragment` of `src/ipv4_frag.c` cuts a datagram longer than the route's mtu into
fragments: `mtu -= hlen` is the room for data in each, and a loop copies the header and
the next `min(left, mtu)` bytes of data, cut down to a multiple of eight unless they are
the last, into a fresh mbuf, sets the fragment offset, MF and the total length, and
hands the fragment to `output`, until no data are left.

With room for eight bytes or more the loop ends within `ceil(n / 8)` passes, and the
data of the fragments it sends, in order, are the datagram's (`fragLoop_done`,
`fragLoop_length_le`, `fragLoop_payload`). With less room than eight bytes the cut is
rounded down to nothing: every pass sends a fragment with no data and `left` never
falls, so the loop never ends (`ipv4_fragment_never_ends_below_eight`).

The header fields are set from the loop's own count: `htons(offset >> 3)`, and MF while
data are left, whatever offset and MF the datagram had. The DF test reads
`fragment_offset & RTE_IPV4_HDR_DF_FLAG` without `htons`, a bit of the fragment offset on
a little-endian host (`Dpvs.IcmpRelay.xmitIcmp4DfTest_little` reads the same test).

The datagram is modelled by its bytes from the IP header on; allocations and `output`
succeed, and DPDK's `rte_ipv4_cksum` is a parameter. The loop has fuel: a pass per unit.
-/

namespace Dpvs.Ipv4

open Dpvs.IcmpRelay (load16 store16 storeAt ip4SendCsum rteIpv4HdrMfFlag length_storeAt)

/-- How the loop of `ipv4_fragment` stopped. -/
inductive FragEnd where
  /-- No data left: `EDPVS_OK`. -/
  | done
  /-- A copy out of the datagram failed: `EDPVS_NOROOM`. -/
  | noRoom
  /-- Still looping when the fuel ran out. -/
  | running
  deriving DecidableEq, Repr

/-- What `ipv4_fragment` does with a datagram. -/
inductive FragResult where
  /-- `icmp_send(ICMP_DEST_UNREACH, ICMP_FRAG_NEEDED, htonl(mtu))`, `EDPVS_FRAG`. -/
  | fragNeeded
  /-- The fragments handed to `output`, in order, and how the loop stopped. -/
  | sent (frames : List (List UInt8)) (ending : FragEnd)
  deriving DecidableEq, Repr

/-- The data length of the next fragment: what fits, cut down to a multiple of eight
unless it is the last (`len &= ~7`). -/
def fragLen (left room : Nat) : Nat :=
  let len := min left room
  if len < left then len / 8 * 8 else len

/-- The header of a fragment: the datagram's `hlen` header bytes with `fragment_offset`
set to `htons(offset >> 3)`, MF while data are left, `total_length` to
`htons(len + hlen)`, and the checksum redone. -/
def fragHeader (e : Endian) (ipv4Cksum : List UInt8 → UInt16) (hdr : List UInt8)
    (hlen offset len : Nat) (more : Bool) : List UInt8 :=
  let field := htonsOn e (offset >>> 3).toUInt16 ||| (if more then htonsOn e rteIpv4HdrMfFlag else 0)
  let hdr := store16 e hdr 6 field
  let hdr := store16 e hdr 2 (htonsOn e (len + hlen).toUInt16)
  ip4SendCsum e ipv4Cksum hdr 0

/-- The `while (left > 0)` loop of `ipv4_fragment`: the fragments it hands to `output`,
`from` the data's position in the datagram and `offset` their offset. -/
def fragLoop (e : Endian) (ipv4Cksum : List UInt8 → UInt16) (pkt : List UInt8)
    (hlen room : Nat) : Nat → (left start offset : Nat) → List (List UInt8) × FragEnd
  | 0, left, _, _ => ([], if left = 0 then .done else .running)
  | fuel + 1, left, start, offset =>
    if left = 0 then ([], .done)
    else
      let len := fragLen left room
      -- mbuf_copy_bits of the header, then of the data
      if pkt.length < hlen ∨ pkt.length < start + len then ([], .noRoom)
      else
        let frame := fragHeader e ipv4Cksum (pkt.take hlen) hlen offset len (left - len > 0) ++
          (pkt.drop start).take len
        let rest := fragLoop e ipv4Cksum pkt hlen room fuel (left - len) (start + len) (offset + len)
        (frame :: rest.1, rest.2)

/-- `ipv4_fragment` of the datagram `pkt` to the route's `mtu`, an `unsigned int`. -/
def ipv4Fragment (e : Endian) (ipv4Cksum : List UInt8 → UInt16) (pkt : List UInt8)
    (mtu fuel : Nat) : FragResult :=
  -- the flag is tested on the raw field, without htons
  if load16 e pkt 6 &&& rteIpv4HdrDfFlag ≠ 0 then .fragNeeded
  else
    let hlen := ip4Hdrlen pkt
    -- mtu -= hlen and pkt_len - hlen are unsigned
    let room := (mtu + 2 ^ 32 - hlen) % 2 ^ 32
    let left := (pkt.length + 2 ^ 32 - hlen) % 2 ^ 32
    let run := fragLoop e ipv4Cksum pkt hlen room fuel left hlen 0
    .sent run.1 run.2

/-! ## The cut -/

theorem fragLen_le_left (left room : Nat) : fragLen left room ≤ left := by
  unfold fragLen
  dsimp only
  split <;> omega

theorem fragLen_le_room (left room : Nat) : fragLen left room ≤ room := by
  unfold fragLen
  dsimp only
  split <;> omega

/-- With room for eight bytes a cut takes some data. -/
theorem fragLen_pos {left room : Nat} (wide : 8 ≤ room) (some : 0 < left) :
    0 < fragLen left room := by
  unfold fragLen
  dsimp only
  split <;> omega

/-- A cut that leaves data behind takes a multiple of eight, and with room for eight bytes
at least eight. -/
theorem fragLen_of_lt {left room : Nat} (short : fragLen left room < left) :
    fragLen left room % 8 = 0 ∧ (8 ≤ room → 8 ≤ fragLen left room) := by
  unfold fragLen at short ⊢
  dsimp only at short ⊢
  by_cases cut : min left room < left
  · rw [if_pos cut] at short ⊢
    omega
  · rw [if_neg cut] at short
    omega

/-- With less room than eight bytes and more data than fit, the cut is empty. -/
theorem fragLen_eq_zero {left room : Nat} (cramped : room < 8) (beyond : room < left) :
    fragLen left room = 0 := by
  unfold fragLen
  dsimp only
  rw [if_pos (by omega)]
  omega

/-! ## The loop -/

section Loop

variable (e : Endian) (ipv4Cksum : List UInt8 → UInt16) (pkt : List UInt8) (hlen room : Nat)

/-- One pass of the loop, when there are data left and the copies succeed. -/
theorem fragLoop_succ {fuel left start offset : Nat} (some : left ≠ 0)
    (copies : hlen ≤ pkt.length ∧ start + fragLen left room ≤ pkt.length) :
    fragLoop e ipv4Cksum pkt hlen room (fuel + 1) left start offset =
      ((fragHeader e ipv4Cksum (pkt.take hlen) hlen offset (fragLen left room)
          (left - fragLen left room > 0) ++ (pkt.drop start).take (fragLen left room)) ::
        (fragLoop e ipv4Cksum pkt hlen room fuel (left - fragLen left room)
          (start + fragLen left room) (offset + fragLen left room)).1,
        (fragLoop e ipv4Cksum pkt hlen room fuel (left - fragLen left room)
          (start + fragLen left room) (offset + fragLen left room)).2) := by
  rw [fragLoop, if_neg some, if_neg (by omega)]

/-- With no data left the loop sends nothing. -/
theorem fragLoop_nil (fuel start offset : Nat) :
    (fragLoop e ipv4Cksum pkt hlen room fuel 0 start offset).1 = [] := by
  cases fuel <;> rw [fragLoop]
  rfl

/-- With less room than eight bytes the loop sends the header alone, again and again,
and is still running however much fuel it has. -/
theorem fragLoop_stuck (cramped : room < 8) (header : hlen ≤ pkt.length) :
    ∀ (fuel : Nat) {left start : Nat} (offset : Nat), room < left → start ≤ pkt.length →
      fragLoop e ipv4Cksum pkt hlen room fuel left start offset =
        (List.replicate fuel (fragHeader e ipv4Cksum (pkt.take hlen) hlen offset 0 true), .running)
  | 0, left, _, _, beyond, _ => by
    rw [fragLoop, if_neg (by omega)]
    rfl
  | fuel + 1, left, start, offset, beyond, inside => by
    have empty := fragLen_eq_zero cramped beyond
    rw [fragLoop_succ e ipv4Cksum pkt hlen room (by omega) ⟨header, by omega⟩, empty,
      Nat.sub_zero, Nat.add_zero, Nat.add_zero,
      fragLoop_stuck cramped header fuel offset beyond inside]
    simp only [List.take_zero, List.append_nil, List.replicate_succ, gt_iff_lt,
      show 0 < left by omega, decide_true]

/-- The data still to copy lie inside the datagram. -/
def Inside (left start : Nat) : Prop := hlen ≤ pkt.length ∧ start + left ≤ pkt.length

/-- One pass keeps the data still to copy inside the datagram. -/
theorem Inside.cut {left start : Nat} (inside : Inside pkt hlen left start) :
    Inside pkt hlen (left - fragLen left room) (start + fragLen left room) := by
  have := fragLen_le_left left room
  exact ⟨inside.1, by have := inside.2; omega⟩

/-- With room for eight bytes, `ceil(left / 8)` passes are enough. -/
theorem fragLoop_done (wide : 8 ≤ room) :
    ∀ (fuel : Nat) {left start : Nat} (offset : Nat), Inside pkt hlen left start →
      (left + 7) / 8 ≤ fuel → (fragLoop e ipv4Cksum pkt hlen room fuel left start offset).2 = .done
  | 0, left, _, _, _, enough => by
    rw [fragLoop, if_pos (by omega)]
  | fuel + 1, left, start, offset, inside, enough => by
    by_cases empty : left = 0
    · rw [fragLoop, if_pos empty]
    have cut := fragLen_pos wide (Nat.pos_of_ne_zero empty)
    have within := fragLen_le_left left room
    rw [fragLoop_succ e ipv4Cksum pkt hlen room empty ⟨inside.1, by have := inside.2; omega⟩]
    -- a cut that is not the last takes eight bytes or more
    refine fragLoop_done wide fuel _ (inside.cut pkt hlen room) ?_
    by_cases last : fragLen left room < left
    · have := (fragLen_of_lt last).2 wide
      omega
    · omega

/-- The loop sends at most `ceil(left / 8)` fragments. -/
theorem fragLoop_length_le (wide : 8 ≤ room) :
    ∀ (fuel left start offset : Nat),
      (fragLoop e ipv4Cksum pkt hlen room fuel left start offset).1.length ≤ (left + 7) / 8
  | 0, left, _, _ => by
    rw [fragLoop]
    exact Nat.zero_le _
  | fuel + 1, left, start, offset => by
    by_cases empty : left = 0
    · rw [fragLoop, if_pos empty]
      exact Nat.zero_le _
    by_cases copies : hlen ≤ pkt.length ∧ start + fragLen left room ≤ pkt.length
    · have cut := fragLen_pos wide (Nat.pos_of_ne_zero empty)
      have rest := fragLoop_length_le wide fuel (left - fragLen left room) (start + fragLen left room)
        (offset + fragLen left room)
      rw [fragLoop_succ e ipv4Cksum pkt hlen room empty copies, List.length_cons]
      by_cases last : fragLen left room < left
      · have := (fragLen_of_lt last).2 wide
        omega
      · have := fragLen_le_left left room
        omega
    · rw [fragLoop, if_neg empty, if_pos (by omega)]
      exact Nat.zero_le _

theorem length_fragHeader (hdr : List UInt8) (offset len : Nat) (more : Bool) :
    (fragHeader e ipv4Cksum hdr hlen offset len more).length = hdr.length := by
  simp only [fragHeader, ip4SendCsum, store16, length_storeAt]

/-- A fragment's data are the slice of the datagram it was cut from. -/
theorem drop_fragFrame (header : hlen ≤ pkt.length) (offset len start : Nat) (more : Bool) :
    (fragHeader e ipv4Cksum (pkt.take hlen) hlen offset len more ++ (pkt.drop start).take len).drop hlen =
      (pkt.drop start).take len := by
  apply List.drop_left'
  rw [length_fragHeader, List.length_take]
  omega

/-- The data of the fragments of a loop that ends, in order, are the data it was given. -/
theorem fragLoop_payload :
    ∀ (fuel : Nat) {left start : Nat} (offset : Nat), Inside pkt hlen left start →
      (fragLoop e ipv4Cksum pkt hlen room fuel left start offset).2 = .done →
      ((fragLoop e ipv4Cksum pkt hlen room fuel left start offset).1.map (·.drop hlen)).flatten =
        (pkt.drop start).take left
  | 0, left, _, _, _, ended => by
    rw [fragLoop] at ended ⊢
    by_cases empty : left = 0
    · rw [empty]
      simp
    · rw [if_neg empty] at ended
      cases ended
  | fuel + 1, left, start, offset, inside, ended => by
    by_cases empty : left = 0
    · rw [fragLoop, if_pos empty, empty]
      simp
    have copies : hlen ≤ pkt.length ∧ start + fragLen left room ≤ pkt.length := by
      have := fragLen_le_left left room
      exact ⟨inside.1, by have := inside.2; omega⟩
    rw [fragLoop_succ e ipv4Cksum pkt hlen room empty copies] at ended ⊢
    have rest := fragLoop_payload fuel (offset + fragLen left room) (inside.cut pkt hlen room) ended
    rw [List.map_cons, List.flatten_cons, drop_fragFrame e ipv4Cksum pkt hlen inside.1, rest]
    -- the two slices are adjacent: take len, then the rest from start + len
    have split := List.take_append_drop (fragLen left room) ((pkt.drop start).take left)
    rw [List.take_take, Nat.min_eq_left (fragLen_le_left left room), List.drop_take,
      List.drop_drop] at split
    exact split

/-- Every fragment fits the room after its header; every fragment followed by another
carries data, a multiple of eight bytes of them. -/
theorem fragLoop_sizes (wide : 8 ≤ room) :
    ∀ (fuel : Nat) {left start : Nat} (offset : Nat), Inside pkt hlen left start →
      (∀ frame ∈ (fragLoop e ipv4Cksum pkt hlen room fuel left start offset).1,
        frame.length ≤ hlen + room) ∧
      (∀ frame ∈ (fragLoop e ipv4Cksum pkt hlen room fuel left start offset).1.dropLast,
        hlen + 8 ≤ frame.length ∧ (frame.length - hlen) % 8 = 0)
  | 0, _, _, _, _ => by
    rw [fragLoop]
    simp
  | fuel + 1, left, start, offset, inside => by
    by_cases empty : left = 0
    · rw [fragLoop, if_pos empty]
      simp
    have within := fragLen_le_left left room
    have copies : hlen ≤ pkt.length ∧ start + fragLen left room ≤ pkt.length :=
      ⟨inside.1, by have := inside.2; omega⟩
    have rest := fragLoop_sizes wide fuel (offset + fragLen left room) (inside.cut pkt hlen room)
    rw [fragLoop_succ e ipv4Cksum pkt hlen room empty copies]
    -- the frame is its header and its data
    have frameLength : (fragHeader e ipv4Cksum (pkt.take hlen) hlen offset (fragLen left room)
        (left - fragLen left room > 0) ++ (pkt.drop start).take (fragLen left room)).length =
        hlen + fragLen left room := by
      rw [List.length_append, length_fragHeader, List.length_take, List.length_take,
        List.length_drop]
      omega
    refine ⟨fun frame mem => ?_, fun frame mem => ?_⟩
    · rcases List.mem_cons.mp mem with first | later
      · rw [first, frameLength]
        have := fragLen_le_room left room
        omega
      · exact rest.1 frame later
    · rcases next : (fragLoop e ipv4Cksum pkt hlen room fuel (left - fragLen left room)
          (start + fragLen left room) (offset + fragLen left room)).1 with _ | ⟨second, others⟩
      · rw [next] at mem
        simp at mem
      rw [next, List.dropLast_cons_of_ne_nil (List.cons_ne_nil _ _)] at mem
      rcases List.mem_cons.mp mem with first | later
      · -- a frame with a successor left data behind
        have more : fragLen left room < left := by
          by_contra last
          rw [show left - fragLen left room = 0 by omega, fragLoop_nil] at next
          cases next
        have cut := fragLen_of_lt more
        have := cut.2 wide
        rw [first, frameLength]
        omega
      · exact rest.2 frame (by rw [next]; exact later)

end Loop

/-! ## ipv4_fragment -/

section Fragment

variable (e : Endian) (ipv4Cksum : List UInt8 → UInt16) (pkt : List UInt8)

/-- Without DF, `ipv4_fragment` runs its loop over the datagram's data from the header on. -/
theorem ipv4Fragment_of_dfClear {mtu : Nat} (fuel : Nat)
    (dfClear : load16 e pkt 6 &&& rteIpv4HdrDfFlag = 0) (header : ip4Hdrlen pkt ≤ mtu)
    (mtuFits : mtu < 2 ^ 32) (inside : ip4Hdrlen pkt ≤ pkt.length) (fits : pkt.length < 2 ^ 32) :
    ipv4Fragment e ipv4Cksum pkt mtu fuel =
      .sent (fragLoop e ipv4Cksum pkt (ip4Hdrlen pkt) (mtu - ip4Hdrlen pkt) fuel
          (pkt.length - ip4Hdrlen pkt) (ip4Hdrlen pkt) 0).1
        (fragLoop e ipv4Cksum pkt (ip4Hdrlen pkt) (mtu - ip4Hdrlen pkt) fuel
          (pkt.length - ip4Hdrlen pkt) (ip4Hdrlen pkt) 0).2 := by
  -- neither unsigned subtraction wraps
  have room : (mtu + 2 ^ 32 - ip4Hdrlen pkt) % 2 ^ 32 = mtu - ip4Hdrlen pkt := by omega
  have left : (pkt.length + 2 ^ 32 - ip4Hdrlen pkt) % 2 ^ 32 = pkt.length - ip4Hdrlen pkt := by
    omega
  rw [ipv4Fragment, if_neg (not_not.mpr dfClear)]
  dsimp only
  rw [room, left]

/-- With room for less than eight bytes of data after the header, `ipv4_fragment` of a
datagram that does not fit never finishes: however long it runs, it has sent nothing but
the header, again and again, and is still in its loop. -/
theorem ipv4_fragment_never_ends_below_eight (mtu fuel : Nat)
    (dfClear : load16 e pkt 6 &&& rteIpv4HdrDfFlag = 0) (header : ip4Hdrlen pkt ≤ mtu)
    (cramped : mtu < ip4Hdrlen pkt + 8) (longer : mtu < pkt.length) (fits : pkt.length < 2 ^ 32) :
    ipv4Fragment e ipv4Cksum pkt mtu fuel =
      .sent (List.replicate fuel
        (fragHeader e ipv4Cksum (pkt.take (ip4Hdrlen pkt)) (ip4Hdrlen pkt) 0 0 true)) .running := by
  rw [ipv4Fragment_of_dfClear e ipv4Cksum pkt fuel dfClear header (by omega) (by omega) fits,
    fragLoop_stuck e ipv4Cksum pkt (ip4Hdrlen pkt) (mtu - ip4Hdrlen pkt) (by omega) (by omega) fuel 0
      (by omega) (by omega)]

/-- A datagram of 48 bytes, a 20-byte header and 28 of data, DF clear. -/
def smallDatagram : List UInt8 :=
  [0x45, 0, 0, 48, 0, 1, 0, 0, 64, 17, 0, 0, 10, 0, 0, 1, 10, 0, 0, 2] ++ List.replicate 28 0

theorem ipv4_fragment_never_ends_below_eight_mtu27 :
    load16 .little smallDatagram 6 &&& rteIpv4HdrDfFlag = 0 ∧ ip4Hdrlen smallDatagram ≤ 27 ∧
    27 < ip4Hdrlen smallDatagram + 8 ∧ 27 < smallDatagram.length ∧
    smallDatagram.length < 2 ^ 32 ∧
    ipv4Fragment .little (fun _ => 0) smallDatagram 27 3 =
      .sent (List.replicate 3 (fragHeader .little (fun _ => 0) (smallDatagram.take 20) 20 0 0 true))
        .running :=
  ⟨by decide, by decide, by decide, by decide, by decide,
    ipv4_fragment_never_ends_below_eight .little (fun _ => 0) smallDatagram 27 3 (by decide)
      (by decide) (by decide) (by decide) (by decide)⟩

/-- With room for eight bytes of data or more and enough fuel, `ipv4_fragment` sends at
most `ceil(n / 8)` fragments, each within the mtu, every one but the last with a positive
multiple of eight bytes of data, and their data, in order, are the datagram's. -/
theorem ipv4Fragment_sent {mtu fuel : Nat}
    (dfClear : load16 e pkt 6 &&& rteIpv4HdrDfFlag = 0) (roomy : ip4Hdrlen pkt + 8 ≤ mtu)
    (mtuFits : mtu < 2 ^ 32) (inside : ip4Hdrlen pkt ≤ pkt.length) (fits : pkt.length < 2 ^ 32)
    (enough : (pkt.length - ip4Hdrlen pkt + 7) / 8 ≤ fuel) :
    ∃ frames, ipv4Fragment e ipv4Cksum pkt mtu fuel = .sent frames .done ∧
      frames.length ≤ (pkt.length - ip4Hdrlen pkt + 7) / 8 ∧
      (frames.map (·.drop (ip4Hdrlen pkt))).flatten = pkt.drop (ip4Hdrlen pkt) ∧
      (∀ frame ∈ frames, frame.length ≤ mtu) ∧
      (∀ frame ∈ frames.dropLast,
        ip4Hdrlen pkt + 8 ≤ frame.length ∧ (frame.length - ip4Hdrlen pkt) % 8 = 0) := by
  have whole : Inside pkt (ip4Hdrlen pkt) (pkt.length - ip4Hdrlen pkt) (ip4Hdrlen pkt) :=
    ⟨inside, by omega⟩
  have done := fragLoop_done e ipv4Cksum pkt (ip4Hdrlen pkt) (mtu - ip4Hdrlen pkt) (by omega) fuel 0
    whole enough
  have sizes := fragLoop_sizes e ipv4Cksum pkt (ip4Hdrlen pkt) (mtu - ip4Hdrlen pkt) (by omega)
    fuel 0 whole
  refine ⟨_, by rw [ipv4Fragment_of_dfClear e ipv4Cksum pkt fuel dfClear (by omega) mtuFits inside
    fits, done], fragLoop_length_le e ipv4Cksum pkt _ _ (by omega) fuel _ _ 0, ?_,
    fun frame mem => by have := sizes.1 frame mem; omega, sizes.2⟩
  rw [fragLoop_payload e ipv4Cksum pkt _ _ fuel 0 whole done]
  exact List.take_of_length_le (by rw [List.length_drop])

/-- On a little-endian host a datagram with DF set is fragmented all the same unless bit 6
of the fragment offset's low byte happens to be set too. -/
theorem ipv4Fragment_ignores_df_little (mtu fuel : Nat) (offsetBit : pkt.getD 7 0 &&& 0x40 = 0) :
    ipv4Fragment .little ipv4Cksum pkt mtu fuel ≠ .fragNeeded := by
  have untested : ¬ (load16 .little pkt 6 &&& rteIpv4HdrDfFlag ≠ 0) := by
    rw [IcmpRelay.xmitIcmp4DfTest_little, not_not]
    exact offsetBit
  rw [ipv4Fragment, if_neg untested]
  exact fun sent => nomatch sent

end Fragment

end Dpvs.Ipv4
