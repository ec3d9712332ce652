import Dpvs.Lib.OnesComplement
import Dpvs.SaPool.Pool

/-!
# Forwarding an IPv4 datagram

`ipv4_forward` of `src/ipv4.c` drops a datagram whose TTL has run out (after an ICMP time
exceeded), drops one longer than the route's mtu with DF set (after an ICMP
fragmentation needed), drops everything else while `ipv4:forwarding` is off (its
default, `IPV4_FORWARD_DEF`), and otherwise lowers the TTL and patches the header
checksum in place:

    csum = (uint32_t)iph->hdr_checksum;
    csum += (uint32_t)htons(0x0100);
    iph->hdr_checksum = (uint16_t)(csum + (csum >= 0xffff));

The checksum field is read and written as the host's `uint16_t`, and so is every word
`rte_raw_cksum` adds. One's-complement sums do not depend on the byte order, and the
word holding the TTL drops by exactly `htons(0x0100)` on either host, so the patch keeps
the header valid on little- and big-endian hosts alike (`ipv4_forward_header_valid`).

`rte_raw_cksum` is DPDK's: the 16-bit words of the buffer in host order summed into a
`uint32_t`, a trailing byte as the first byte of a word, and two end-around carries.
A header is modelled by its bytes, from the version byte on.
-/

namespace Dpvs.Ipv4

open OnesComplement

/-- The byte order of the host. -/
inductive Endian where
  | little
  | big
  deriving DecidableEq, Repr

/-- The `uint16_t` a host loads from two bytes in memory order. -/
def hostLoad16 : Endian → UInt8 → UInt8 → UInt16
  | .little, b0, b1 => b0.toUInt16 ||| (b1.toUInt16 <<< 8)
  | .big, b0, b1 => (b0.toUInt16 <<< 8) ||| b1.toUInt16

/-- The two bytes, in memory order, a host stores a `uint16_t` as. -/
def hostStore16 : Endian → UInt16 → UInt8 × UInt8
  | .little, v => (v.toUInt8, (v >>> 8).toUInt8)
  | .big, v => ((v >>> 8).toUInt8, v.toUInt8)

/-- `htons` on a host of either byte order. -/
def htonsOn : Endian → UInt16 → UInt16
  | .little, v => Sa.bswap16 v
  | .big, v => v

/-- `__rte_raw_cksum`: the sum of the buffer's words in host order. -/
def rawSum (e : Endian) : List UInt8 → Nat
  | b0 :: b1 :: rest => (hostLoad16 e b0 b1).toNat + rawSum e rest
  | [b] => (hostLoad16 e b 0).toNat
  | [] => 0

/-- `rte_raw_cksum`: the sum kept in a `uint32_t`, its carries folded in twice. -/
def rteRawCksum (e : Endian) (bytes : List UInt8) : UInt16 :=
  UInt16.ofNat (fold (rawSum e bytes % 2 ^ 32))

/-- `RTE_IPV4_HDR_DF_FLAG`. -/
def rteIpv4HdrDfFlag : UInt16 := 0x4000

/-- What `ipv4_forward` does with a datagram. -/
inductive ForwardResult where
  /-- `icmp_send(ICMP_TIME_EXCEEDED, ICMP_EXC_TTL)` and the datagram dropped. -/
  | timeExceeded
  /-- `icmp_send(ICMP_DEST_UNREACH, ICMP_UNREACH_NEEDFRAG, htonl(mtu))` and the datagram dropped. -/
  | fragNeeded (mtu : UInt32)
  /-- Dropped with no message: forwarding is off. -/
  | drop
  /-- Passed to the forward hook with this header. -/
  | forward (hdr : List UInt8)
  deriving DecidableEq, Repr

/-- The three lines that patch the checksum field, on its host-order value `c`. -/
def csumPatch (e : Endian) (c : UInt16) : UInt16 :=
  let csum : UInt32 := c.toUInt32 + (htonsOn e 0x0100).toUInt32
  (csum + if csum ≥ 0xffff then 1 else 0).toUInt16

/-- The header with the TTL lowered and the checksum patched, as `ipv4_forward` leaves it. -/
def decTtlPatch (e : Endian) (hdr : List UInt8) : List UInt8 :=
  let patched := csumPatch e (hostLoad16 e (hdr.getD 10 0) (hdr.getD 11 0))
  (((hdr.set 10 (hostStore16 e patched).1).set 11 (hostStore16 e patched).2).set 8
    (hdr.getD 8 0 - 1))

/-- `ipv4_forward` on a host of byte order `e`, with `ipv4:forwarding` at `forwardSwitch`,
the route's `mtu` and the datagram's `pkt_len`. -/
def ipv4Forward (e : Endian) (forwardSwitch : Bool) (mtu pktLen : UInt32) (hdr : List UInt8) :
    ForwardResult :=
  if hdr.getD 8 0 ≤ 1 then .timeExceeded
  else if pktLen > mtu ∧
      hostLoad16 e (hdr.getD 6 0) (hdr.getD 7 0) &&& htonsOn e rteIpv4HdrDfFlag ≠ 0 then
    .fragNeeded mtu
  else if !forwardSwitch then .drop
  else .forward (decTtlPatch e hdr)

/-- The DF bit of a header: bit 14 of the network-order `fragment_offset`, bit 6 of its
first byte. -/
def ipv4DfSet (hdr : List UInt8) : Bool := hdr.getD 6 0 &&& 0x40 ≠ 0

/-! ## Words and their weights -/

/-- The weight of byte `i` of a buffer in the sum of its host-order words. -/
def byteWeight : Endian → Nat → Nat
  | .little, i => if i % 2 = 0 then 1 else 256
  | .big, i => if i % 2 = 0 then 256 else 1

theorem byteWeight_add_two (e : Endian) (i : Nat) : byteWeight e (i + 2) = byteWeight e i := by
  cases e <;> simp [byteWeight, Nat.add_mod_right]

theorem or_shiftLeft_eight {a : Nat} (ha : a < 2 ^ 8) (b : Nat) : a ||| b <<< 8 = a + 256 * b := by
  rw [Nat.or_comm, ← Nat.shiftLeft_add_eq_or_of_lt ha, Nat.shiftLeft_eq]
  omega

/-- A loaded word is its two bytes, weighted by their places. -/
theorem hostLoad16_toNat (e : Endian) (b0 b1 : UInt8) :
    (hostLoad16 e b0 b1).toNat = byteWeight e 0 * b0.toNat + byteWeight e 1 * b1.toNat := by
  have h0 := b0.toNat_lt
  have h1 := b1.toNat_lt
  cases e with
  | little =>
    have high : (b1.toNat <<< 8) % 2 ^ 16 = b1.toNat <<< 8 := Nat.mod_eq_of_lt (by rw [Nat.shiftLeft_eq]; omega)
    simp only [hostLoad16, byteWeight, UInt16.toNat_or, UInt16.toNat_shiftLeft, UInt8.toNat_toUInt16]
    rw [show ((8 : UInt16).toNat % 16) = 8 from rfl, high, or_shiftLeft_eight h0]
    simp
  | big =>
    have high : (b0.toNat <<< 8) % 2 ^ 16 = b0.toNat <<< 8 := Nat.mod_eq_of_lt (by rw [Nat.shiftLeft_eq]; omega)
    simp only [hostLoad16, byteWeight, UInt16.toNat_or, UInt16.toNat_shiftLeft, UInt8.toNat_toUInt16]
    rw [show ((8 : UInt16).toNat % 16) = 8 from rfl, high, Nat.or_comm, or_shiftLeft_eight h1]
    simp
    omega

/-- A stored word puts its value back, weighted by the places of its two bytes. -/
theorem hostStore16_toNat (e : Endian) (v : UInt16) :
    byteWeight e 0 * (hostStore16 e v).1.toNat + byteWeight e 1 * (hostStore16 e v).2.toNat =
      v.toNat := by
  have bound := v.toNat_lt
  cases e <;>
    simp only [hostStore16, byteWeight, UInt16.toNat_toUInt8, UInt16.toNat_shiftRight,
      Nat.shiftRight_eq_div_pow] <;> simp <;> omega

theorem htonsOn_ttl_word (e : Endian) : (htonsOn e 0x0100).toNat = byteWeight e 8 := by
  cases e <;> rfl

/-! ## The raw sum -/

/-- Changing one byte changes the raw sum by its weight times the change. -/
theorem rawSum_set (e : Endian) :
    ∀ (l : List UInt8) (i : Nat) (x : UInt8), i < l.length →
      rawSum e (l.set i x) + byteWeight e i * (l.getD i 0).toNat =
        rawSum e l + byteWeight e i * x.toNat
  | b0 :: b1 :: rest, 0, x, _ => by
    simp only [List.set_cons_zero, rawSum, hostLoad16_toNat, List.getD_cons_zero]
    omega
  | b0 :: b1 :: rest, 1, x, _ => by
    simp only [List.set_cons_succ, List.set_cons_zero, rawSum, hostLoad16_toNat,
      List.getD_cons_succ, List.getD_cons_zero]
    omega
  | b0 :: b1 :: rest, i + 2, x, h => by
    have step := rawSum_set e rest i x (by simp only [List.length_cons] at h; omega)
    simp only [List.set_cons_succ, rawSum, byteWeight_add_two, List.getD_cons_succ]
    omega
  | [b], 0, x, _ => by
    simp only [List.set_cons_zero, rawSum, hostLoad16_toNat, List.getD_cons_zero]
    omega
  | [_], _ + 1, _, h => by simp at h
  | [], _, _, h => by simp at h

theorem rawSum_le (e : Endian) : ∀ l : List UInt8, rawSum e l ≤ 0xffff * l.length
  | b0 :: b1 :: rest => by
    have word := (hostLoad16 e b0 b1).toNat_lt
    have tail := rawSum_le e rest
    simp only [rawSum, List.length_cons]
    omega
  | [b] => by
    have word := (hostLoad16 e b 0).toNat_lt
    simp only [rawSum, List.length_singleton]
    omega
  | [] => by simp [rawSum]

/-- Every byte's share is part of the raw sum. -/
theorem le_rawSum (e : Endian) {l : List UInt8} {i : Nat} (h : i < l.length) :
    byteWeight e i * (l.getD i 0).toNat ≤ rawSum e l := by
  have cleared := rawSum_set e l i 0 h
  simp only [UInt8.toNat_zero, Nat.mul_zero, Nat.add_zero] at cleared
  omega

/-- While the raw sum fits the `uint32_t`, the checksum is its fold. -/
theorem rteRawCksum_toNat (e : Endian) {l : List UInt8} (bound : rawSum e l < 2 ^ 32) :
    (rteRawCksum e l).toNat = fold (rawSum e l) := by
  have folded := fold_le bound
  rw [rteRawCksum, Nat.mod_eq_of_lt bound, UInt16.toNat_ofNat', Nat.mod_eq_of_lt (by omega)]

/-- A buffer whose raw sum fits the `uint32_t` checks out exactly when that sum is a
non-zero multiple of `0xffff`. -/
theorem rteRawCksum_eq_ffff_iff_of_lt (e : Endian) {l : List UInt8} (bound : rawSum e l < 2 ^ 32) :
    rteRawCksum e l = 0xffff ↔ rawSum e l % 0xffff = 0 ∧ rawSum e l ≠ 0 := by
  rw [← fold_eq_ffff_iff bound, ← UInt16.toNat_inj, rteRawCksum_toNat e bound]
  rfl

/-- A header of at most 60 bytes checks out exactly when its raw sum is a non-zero
multiple of `0xffff`. -/
theorem rteRawCksum_eq_ffff_iff (e : Endian) {l : List UInt8} (short : l.length ≤ 60) :
    rteRawCksum e l = 0xffff ↔ rawSum e l % 0xffff = 0 ∧ rawSum e l ≠ 0 := by
  have := rawSum_le e l
  exact rteRawCksum_eq_ffff_iff_of_lt e (by omega)

/-! ## The patch -/

/-- The code's carry handling is the hand-folded addition of the library. -/
theorem csumPatch_toNat (e : Endian) (c : UInt16) :
    (csumPatch e c).toNat = addCarry c.toNat (htonsOn e 0x0100).toNat := by
  have hc := c.toNat_lt
  have hh := (htonsOn e 0x0100).toNat_lt
  have sum : (c.toUInt32 + (htonsOn e 0x0100).toUInt32).toNat = c.toNat + (htonsOn e 0x0100).toNat := by
    simp only [UInt32.toNat_add, UInt16.toNat_toUInt32]
    omega
  unfold csumPatch addCarry
  dsimp only
  by_cases big : 0xffff ≤ c.toNat + (htonsOn e 0x0100).toNat
  · rw [if_pos (UInt32.le_iff_toNat_le.mpr (by rw [sum]; exact big)), if_pos big,
      UInt32.toNat_toUInt16, UInt32.toNat_add, sum, UInt32.toNat_one]
    omega
  · rw [if_neg (fun h => big (by rw [← sum]; exact UInt32.le_iff_toNat_le.mp h)), if_neg big,
      UInt32.toNat_toUInt16, UInt32.toNat_add, sum, UInt32.toNat_zero]
    omega

section Patch

variable (e : Endian) (hdr : List UInt8)

theorem length_decTtlPatch : (decTtlPatch e hdr).length = hdr.length := by
  simp [decTtlPatch]

/-- The patch touches the TTL and the two checksum bytes only. -/
theorem decTtlPatch_getD_of_ne {i : Nat} (h8 : i ≠ 8) (h10 : i ≠ 10) (h11 : i ≠ 11) :
    (decTtlPatch e hdr).getD i 0 = hdr.getD i 0 := by
  simp [decTtlPatch, List.getD_eq_getElem?_getD, Ne.symm h8, Ne.symm h10, Ne.symm h11]

theorem decTtlPatch_ttl (long : 8 < hdr.length) :
    (decTtlPatch e hdr).getD 8 0 = hdr.getD 8 0 - 1 := by
  simp [decTtlPatch, List.getD_eq_getElem?_getD, long]

/-- The raw sum after the patch: the TTL word has lost `htons(0x0100)` and the checksum
word has gone from `c` to the hand-folded `c + htons(0x0100)`. -/
theorem rawSum_decTtlPatch (len : 12 ≤ hdr.length) (ttl : 1 ≤ hdr.getD 8 0) :
    rawSum e (decTtlPatch e hdr) + (htonsOn e 0x0100).toNat +
        (hostLoad16 e (hdr.getD 10 0) (hdr.getD 11 0)).toNat =
      rawSum e hdr + addCarry (hostLoad16 e (hdr.getD 10 0) (hdr.getD 11 0)).toNat
        (htonsOn e 0x0100).toNat := by
  set c := hostLoad16 e (hdr.getD 10 0) (hdr.getD 11 0) with hc
  set p := csumPatch e c
  have stored := hostStore16_toNat e p
  have loaded := hostLoad16_toNat e (hdr.getD 10 0) (hdr.getD 11 0)
  rw [csumPatch_toNat, htonsOn_ttl_word] at stored
  rw [← hc] at loaded
  -- the three bytes changed one after the other
  have s10 := rawSum_set e hdr 10 (hostStore16 e p).1 (by omega)
  have s11 := rawSum_set e (hdr.set 10 (hostStore16 e p).1) 11 (hostStore16 e p).2
    (by simp only [List.length_set]; omega)
  have s8 := rawSum_set e ((hdr.set 10 (hostStore16 e p).1).set 11 (hostStore16 e p).2) 8
    (hdr.getD 8 0 - 1) (by simp only [List.length_set]; omega)
  have get11 : (hdr.set 10 (hostStore16 e p).1).getD 11 0 = hdr.getD 11 0 := by
    simp [List.getD_eq_getElem?_getD]
  have get8 : ((hdr.set 10 (hostStore16 e p).1).set 11 (hostStore16 e p).2).getD 8 0 =
      hdr.getD 8 0 := by
    simp [List.getD_eq_getElem?_getD]
  have lowered : (hdr.getD 8 0 - 1).toNat + 1 = (hdr.getD 8 0).toNat := by
    have := UInt8.le_iff_toNat_le.mp ttl
    rw [UInt8.toNat_sub_of_le _ _ ttl, UInt8.toNat_one]
    simp only [UInt8.toNat_one] at this
    omega
  rw [get11] at s11
  rw [get8, ← lowered] at s8
  rw [show decTtlPatch e hdr = ((hdr.set 10 (hostStore16 e p).1).set 11 (hostStore16 e p).2).set 8
      (hdr.getD 8 0 - 1) from rfl, htonsOn_ttl_word]
  -- with the byte order fixed the weights are numbers
  cases e <;> simp only [byteWeight, Nat.reduceMod, ↓reduceIte] at s10 s11 s8 stored loaded ⊢ <;> omega

/-- A valid header stays valid: the raw sum keeps its residue and the lowered TTL keeps it
non-zero. -/
theorem rteRawCksum_decTtlPatch (len : 20 ≤ hdr.length ∧ hdr.length ≤ 60) (ttl : 1 < hdr.getD 8 0)
    (valid : rteRawCksum e hdr = 0xffff) : rteRawCksum e (decTtlPatch e hdr) = 0xffff := by
  obtain ⟨multiple, -⟩ := (rteRawCksum_eq_ffff_iff e len.2).mp valid
  have short : (decTtlPatch e hdr).length ≤ 60 := by rw [length_decTtlPatch]; exact len.2
  have above : 1 < (hdr.getD 8 0).toNat := by
    have := UInt8.lt_iff_toNat_lt.mp ttl
    simpa only [UInt8.toNat_one] using this
  have ttl' : 1 ≤ hdr.getD 8 0 := UInt8.le_iff_toNat_le.mpr (by rw [UInt8.toNat_one]; omega)
  have sums := rawSum_decTtlPatch e hdr (by omega) ttl'
  have carried := addCarry_mod (hostLoad16 e (hdr.getD 10 0) (hdr.getD 11 0)).toNat_lt
    (htonsOn e 0x0100).toNat_lt
  have share := le_rawSum e (show 8 < (decTtlPatch e hdr).length by rw [length_decTtlPatch]; omega)
  have lowered : 1 ≤ ((decTtlPatch e hdr).getD 8 0).toNat := by
    rw [decTtlPatch_ttl e hdr (by omega), UInt8.toNat_sub_of_le _ _ ttl', UInt8.toNat_one]
    omega
  have weight : 1 ≤ byteWeight e 8 := by cases e <;> decide
  refine (rteRawCksum_eq_ffff_iff e short).mpr ⟨by omega, ?_⟩
  have := Nat.mul_le_mul weight lowered
  omega

end Patch

/-! ## The DF test -/

/-- The test `fragment_offset & htons(RTE_IPV4_HDR_DF_FLAG)` reads the DF bit on either
host. -/
theorem dfTest_iff (e : Endian) (b6 b7 : UInt8) :
    hostLoad16 e b6 b7 &&& htonsOn e rteIpv4HdrDfFlag ≠ 0 ↔ b6 &&& 0x40 ≠ 0 := by
  have widen : ∀ x : UInt8, x.toUInt16 ≠ 0 ↔ x ≠ 0 := fun x => by
    rw [Ne, Ne, ← UInt16.toNat_inj, ← UInt8.toNat_inj, UInt8.toNat_toUInt16]
    rfl
  cases e with
  | little =>
    have bit : hostLoad16 .little b6 b7 &&& htonsOn .little rteIpv4HdrDfFlag = (b6 &&& 0x40).toUInt16 := by
      rw [show htonsOn .little rteIpv4HdrDfFlag = 0x40 by decide]
      apply UInt16.toBitVec_inj.mp
      simp only [hostLoad16, UInt16.toBitVec_and, UInt16.toBitVec_or, UInt16.toBitVec_shiftLeft,
        UInt8.toBitVec_toUInt16, UInt8.toBitVec_and]
      ext i hi
      interval_cases i <;> simp
    rw [bit, widen]
  | big =>
    have bit : hostLoad16 .big b6 b7 &&& htonsOn .big rteIpv4HdrDfFlag =
        (b6 &&& 0x40).toUInt16 <<< 8 := by
      apply UInt16.toBitVec_inj.mp
      simp only [hostLoad16, htonsOn, rteIpv4HdrDfFlag, UInt16.toBitVec_and, UInt16.toBitVec_or,
        UInt16.toBitVec_shiftLeft, UInt8.toBitVec_toUInt16, UInt8.toBitVec_and]
      ext i hi
      interval_cases i <;> simp
    have shifted : ((b6 &&& 0x40).toUInt16 <<< 8).toNat = (b6 &&& 0x40).toNat * 256 := by
      have := (b6 &&& 0x40).toNat_lt
      rw [UInt16.toNat_shiftLeft, UInt8.toNat_toUInt16, show (8 : UInt16).toNat % 16 = 8 from rfl,
        Nat.shiftLeft_eq]
      omega
    rw [bit, Ne, Ne, ← UInt16.toNat_inj, shifted, ← UInt8.toNat_inj]
    simp

/-! ## `ipv4_forward` -/

theorem ipv4Forward_dfTest (e : Endian) (mtu pktLen : UInt32) (hdr : List UInt8) :
    (pktLen > mtu ∧ hostLoad16 e (hdr.getD 6 0) (hdr.getD 7 0) &&& htonsOn e rteIpv4HdrDfFlag ≠ 0) ↔
      (mtu < pktLen ∧ ipv4DfSet hdr = true) := by
  rw [dfTest_iff]
  simp [ipv4DfSet]

theorem ipv4_forward_header_valid (e : Endian) (forwardSwitch : Bool) (mtu pktLen : UInt32)
    (hdr : List UInt8) (len : 20 ≤ hdr.length ∧ hdr.length ≤ 60)
    (valid : rteRawCksum e hdr = 0xffff) :
    (ipv4Forward e forwardSwitch mtu pktLen hdr = .timeExceeded ↔ hdr.getD 8 0 ≤ 1) ∧
      (ipv4Forward e forwardSwitch mtu pktLen hdr = .fragNeeded mtu ↔
        1 < hdr.getD 8 0 ∧ mtu < pktLen ∧ ipv4DfSet hdr = true) ∧
      (1 < hdr.getD 8 0 → ¬(mtu < pktLen ∧ ipv4DfSet hdr = true) →
        if forwardSwitch then
          ∃ hdr', ipv4Forward e forwardSwitch mtu pktLen hdr = .forward hdr' ∧
            hdr'.length = hdr.length ∧
            (∀ i, i ≠ 8 → i ≠ 10 → i ≠ 11 → hdr'.getD i 0 = hdr.getD i 0) ∧
            hdr'.getD 8 0 = hdr.getD 8 0 - 1 ∧ rteRawCksum e hdr' = 0xffff
        else ipv4Forward e forwardSwitch mtu pktLen hdr = .drop) := by
  have df := ipv4Forward_dfTest e mtu pktLen hdr
  by_cases expired : hdr.getD 8 0 ≤ 1
  · -- the TTL test comes first
    have answer : ipv4Forward e forwardSwitch mtu pktLen hdr = .timeExceeded := by
      rw [ipv4Forward, if_pos expired]
    refine ⟨iff_of_true answer expired, ?_, fun ttl => absurd expired (UInt8.not_le.mpr ttl)⟩
    rw [answer]
    exact iff_of_false (by simp) (fun ⟨ttl, _⟩ => absurd expired (UInt8.not_le.mpr ttl))
  have ttl : 1 < hdr.getD 8 0 := UInt8.not_le.mp expired
  by_cases needFrag : mtu < pktLen ∧ ipv4DfSet hdr = true
  · have answer : ipv4Forward e forwardSwitch mtu pktLen hdr = .fragNeeded mtu := by
      rw [ipv4Forward, if_neg expired, if_pos (df.mpr needFrag)]
    rw [answer]
    exact ⟨iff_of_false (by simp) expired, iff_of_true rfl ⟨ttl, needFrag⟩,
      fun _ fits => absurd needFrag fits⟩
  have passed : ipv4Forward e forwardSwitch mtu pktLen hdr =
      if !forwardSwitch then .drop else .forward (decTtlPatch e hdr) := by
    rw [ipv4Forward, if_neg expired, if_neg (fun h => needFrag (df.mp h))]
  refine ⟨iff_of_false (by rw [passed]; split <;> simp) expired,
    iff_of_false (by rw [passed]; split <;> simp) (fun ⟨_, h⟩ => needFrag h), fun _ _ => ?_⟩
  cases forwardSwitch with
  | false => exact passed
  | true =>
    refine ⟨decTtlPatch e hdr, passed, length_decTtlPatch e hdr,
      fun i h8 h10 h11 => decTtlPatch_getD_of_ne e hdr h8 h10 h11,
      decTtlPatch_ttl e hdr (by omega), rteRawCksum_decTtlPatch e hdr len ttl valid⟩

/-- The smallest header: TTL 64, UDP, from 192.168.0.1 to 192.168.0.2, its checksum set. -/
def sampleHeader : List UInt8 :=
  [0x45, 0, 0, 0x1c, 0, 0, 0, 0, 0x40, 0x11, 0xf9, 0x7d, 192, 168, 0, 1, 192, 168, 0, 2]

theorem ipv4_forward_header_valid_sample :
    rteRawCksum .little sampleHeader = 0xffff ∧
      (1 < sampleHeader.getD 8 0 → ¬(1500 < 28 ∧ ipv4DfSet sampleHeader = true) →
        ∃ hdr', ipv4Forward .little true 1500 28 sampleHeader = .forward hdr' ∧
          hdr'.length = sampleHeader.length ∧
          (∀ i, i ≠ 8 → i ≠ 10 → i ≠ 11 → hdr'.getD i 0 = sampleHeader.getD i 0) ∧
          hdr'.getD 8 0 = sampleHeader.getD 8 0 - 1 ∧ rteRawCksum .little hdr' = 0xffff) :=
  ⟨by decide, (ipv4_forward_header_valid .little true 1500 28 sampleHeader ⟨by decide, by decide⟩
    (by decide)).2.2⟩

/-- With `ipv4:forwarding` at its default, off, a datagram that passes both tests is
dropped, not forwarded. -/
theorem ipv4_forward_default_drops :
    ipv4Forward .little false 1500 28 sampleHeader = .drop := by
  decide

end Dpvs.Ipv4
