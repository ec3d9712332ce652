import Dpvs.Ipv6.Route6Lpm

/-!
# IPv6 prefixes byte by byte

`ipv6_addr_prefix` cuts an address to a prefix length byte by byte: it copies the
whole bytes of the prefix and masks the byte after them with `0xff00 >> b`.
`ipv6_prefix_equal` compares two addresses word by word: the whole words of the
prefix by `memcmp`, then the remaining bits of the next word under
`htonl(0xffffffff << (32 - pbi))`. The route hash lists hash the first and match with
the second, so a lookup finds a route only if the two agree: addresses equal on a
prefix have the same `ipv6_addr_prefix`.

Both are read here through the bytes of the address in memory order. Byte `k` is
byte `k % 4` of word `k / 4`, and every mask the two functions use is, at byte `k`,
`0xff00 >> min 8 (plen - 8 * k)` cut to a byte: all ones inside the prefix, the top
bits of the byte it ends in, zero after.
-/

namespace Dpvs

open Route6Lpm

/-- Sixteen bytes in memory order loaded as the four words of an address, each word
little-endian; missing bytes are zero. -/
def InetAddr.ofBytes (l : List UInt8) : InetAddr :=
  let word := fun i => (l.getD i 0).toUInt32 ||| ((l.getD (i + 1) 0).toUInt32 <<< 8) |||
    ((l.getD (i + 2) 0).toUInt32 <<< 16) ||| ((l.getD (i + 3) 0).toUInt32 <<< 24)
  ⟨word 0, word 4, word 8, word 12⟩

example : InetAddr.ofBytes (InetAddr.bytes ⟨0x000080fe, 0x12345678, 0, 0x01000000⟩) =
    ⟨0x000080fe, 0x12345678, 0, 0x01000000⟩ := by decide

/-- The C mask `0xff00 >> b` stored into a byte: the top `b` bits of a byte for
`b ≤ 8`. -/
def byteMask (b : Nat) : UInt8 := ((0xff00 : Nat) >>> b).toUInt8

/-- Byte `k` of `ipv6_addr_prefix`: a byte of the prefix, the cut byte after them,
or zero. -/
def prefixByte (addr : InetAddr) (plen k : Nat) : UInt8 :=
  let o := plen >>> 3
  let b := plen &&& 0x7
  if k < o then addr.bytes.getD k 0
  else if k = o ∧ b ≠ 0 then addr.bytes.getD o 0 &&& byteMask b
  else 0

/-- `ipv6_addr_prefix`: zero the address, copy its first `plen >> 3` bytes, and cut the
byte after them by `0xff00 >> (plen & 7)` when the length is not whole bytes (the
caller keeps `plen` within `0..128`). -/
def ipv6AddrPrefix (addr : InetAddr) (plen : Nat) : InetAddr :=
  InetAddr.ofBytes ((List.range 16).map (prefixByte addr plen))

/-! ## Bytes of words -/

/-- Byte `j`, in memory order, of a word a little-endian host stores. -/
def wordByte (w : UInt32) (j : Nat) : UInt8 := (w >>> (8 * j).toUInt32).toUInt8

theorem wordByte_and (w v : UInt32) (j : Nat) :
    wordByte (w &&& v) j = wordByte w j &&& wordByte v j := by
  simp [wordByte, UInt32.shiftRight_and]

theorem wordByte_xor (w v : UInt32) (j : Nat) :
    wordByte (w ^^^ v) j = wordByte w j ^^^ wordByte v j := by
  simp [wordByte, UInt32.shiftRight_xor]

/-- Byte `k` of an address is byte `k % 4` of its word `k / 4`. -/
theorem InetAddr.bytes_getD (a : InetAddr) {k : Nat} (hk : k < 16) :
    a.bytes.getD k 0 = wordByte (a.words.getD (k / 4) 0) (k % 4) := by
  interval_cases k <;> simp [InetAddr.bytes, InetAddr.words, wordByte]

/-! ## Masks byte by byte -/

theorem and_byteMask_eight (x : UInt8) : x &&& byteMask 8 = x := by
  rw [show byteMask 8 = -1 by decide, UInt8.and_neg_one]

theorem and_byteMask_zero (x : UInt8) : x &&& byteMask 0 = 0 := by
  rw [show byteMask 0 = 0 by decide, UInt8.and_zero]

/-- Bytes that differ only outside a mask agree under it. -/
theorem and_eq_of_xor_and_eq_zero {a b m : UInt8} (h : (a ^^^ b) &&& m = 0) :
    a &&& m = b &&& m := by
  have distrib : (a ^^^ b) &&& m = (a &&& m) ^^^ (b &&& m) :=
    UInt8.toBitVec_inj.1 (by ext i; simp [Bool.and_xor_distrib_right])
  rwa [distrib, UInt8.xor_eq_zero_iff] at h

/-- The mask `htonl(0xffffffff << (32 - pbi))` of `ipv6_prefix_equal`, byte by byte in
memory order; checked for each of its 31 widths. -/
theorem wordByte_prefixMask : ∀ pbi : Fin 32, ∀ j : Fin 4, 0 < pbi.val →
    wordByte (beToCpu32 ((0xffffffff : UInt32) <<< (32 - pbi.val).toUInt32)) j.val =
      byteMask (min 8 (pbi.val - 8 * j.val)) := by
  decide

/-- Byte `k` of the prefix is byte `k` of the address under the mask of the prefix. -/
theorem prefixByte_eq (addr : InetAddr) (plen k : Nat) :
    prefixByte addr plen k = addr.bytes.getD k 0 &&& byteMask (min 8 (plen - 8 * k)) := by
  have o : plen >>> 3 = plen / 8 := Nat.shiftRight_eq_div_pow plen 3
  have b : plen &&& 0x7 = plen % 8 := Nat.and_two_pow_sub_one_eq_mod plen 3
  unfold prefixByte
  simp only [o, b]
  split
  · -- a whole byte of the prefix
    rw [show min 8 (plen - 8 * k) = 8 by omega, and_byteMask_eight]
  · split
    · -- the byte the prefix ends in
      next cut => rw [cut.1, show min 8 (plen - 8 * (plen / 8)) = plen % 8 by omega]
    · -- past the prefix
      rw [show min 8 (plen - 8 * k) = 0 by omega, and_byteMask_zero]

/-- Addresses equal on a prefix, as `ipv6_prefix_equal` tests it, are equal on every
byte under the mask of the prefix. -/
theorem masked_bytes_eq {a b : InetAddr} {plen k : Nat} (hk : k < 16)
    (h : ipv6PrefixEqual a b plen = true) :
    a.bytes.getD k 0 &&& byteMask (min 8 (plen - 8 * k)) =
      b.bytes.getD k 0 &&& byteMask (min 8 (plen - 8 * k)) := by
  have pdw : plen >>> 5 = plen / 32 := Nat.shiftRight_eq_div_pow plen 5
  have pbi : plen &&& 0x1f = plen % 32 := Nat.and_two_pow_sub_one_eq_mod plen 5
  simp only [ipv6PrefixEqual, pdw, pbi, Bool.and_eq_true, Bool.or_eq_true, beq_iff_eq] at h
  obtain ⟨whole, part⟩ := h
  rw [InetAddr.bytes_getD a hk, InetAddr.bytes_getD b hk]
  rcases lt_trichotomy (k / 4) (plen / 32) with inside | ending | past
  · -- a whole word of the prefix: the words agree
    have same : (a.words.take (plen / 32))[k / 4]? = (b.words.take (plen / 32))[k / 4]? := by
      rcases whole with none | same
      · omega
      · rw [same]
    rw [List.getElem?_take_of_lt inside, List.getElem?_take_of_lt inside] at same
    simp only [List.getD_eq_getElem?_getD, same]
  · -- the word the prefix ends in
    by_cases whole_words : plen % 32 = 0
    · rw [show min 8 (plen - 8 * k) = 0 by omega, and_byteMask_zero, and_byteMask_zero]
    · have byte := congrArg (wordByte · (k % 4)) (part.resolve_left whole_words)
      simp only [wordByte_and, wordByte_xor] at byte
      rw [wordByte_prefixMask ⟨plen % 32, by omega⟩ ⟨k % 4, by omega⟩
        (Nat.pos_of_ne_zero whole_words)] at byte
      rw [ending, show min 8 (plen - 8 * k) = min 8 (plen % 32 - 8 * (k % 4)) by omega]
      exact and_eq_of_xor_and_eq_zero (by simpa [wordByte] using byte)
  · -- past the prefix
    rw [show min 8 (plen - 8 * k) = 0 by omega, and_byteMask_zero, and_byteMask_zero]

/-- Addresses equal on a prefix have the same `ipv6_addr_prefix`: the hash of the
prefix of a flow's destination is the hash of the prefix of every route it matches. -/
theorem ipv6AddrPrefix_eq_of_prefixEqual {a b : InetAddr} {plen : Nat}
    (h : ipv6PrefixEqual a b plen = true) : ipv6AddrPrefix a plen = ipv6AddrPrefix b plen := by
  unfold ipv6AddrPrefix
  congr 1
  refine List.map_congr_left fun k hk => ?_
  rw [prefixByte_eq, prefixByte_eq]
  exact masked_bytes_eq (List.mem_range.mp hk) h

end Dpvs
