import Dpvs.Ipvs.SackAdjust
import Dpvs.Lib.WhileLoop
import Dpvs.Lib.Memmove
import Dpvs.Lib.Nibble

/-!
# Pruning TCP options to make room for the client address

When `tcp_in_add_toa` finds no room for the client address option (TOA) in the first
data segment of a FULLNAT connection, `tcp_fnat_in_handler` calls `tcp_in_prune_options`
(`src/ipvs/ip_vs_proto_tcp.c`) and tries again. The function compacts the option area in
place with a `fast` pointer that reads and a `slow` pointer that writes. A first pass drops
every `NOP` and every TOA and stops at an `EOL`, a silly option (size below 2) or a partial
one (size past the area), which drops the rest of the area. When that frees fewer than
`reqlen` bytes, a second pass over the compacted options drops the options that are not
protected: each protected kind survives once, and only within its `opts_maxlen`, and once
`pruned` reaches `reqlen` the rest is kept. The area is then padded with zero bytes to a
multiple of 4, the payload moved up, and `doff` and the IP length lowered.

The packet is modelled by its bytes from the L3 header, in one segment, with the TCP header
at offset `th`; the pointers are offsets into it. The loops are `WhileLoop.run`s whose
jumps out (`goto fini`, `break`) are failing rounds that carry the state they leave.

The passes compute the option list of `prunedOptions`: the options of the area
(`tcpOptionList`) less the TOAs, and, when that frees too little, what `trimOptions` keeps
of them.
-/

namespace Dpvs.TcpPrune

/-- `TCP_OPT_ADDR`, the client address option. -/
def tcpOptAddr : UInt8 := 254

/-- `opts_maxlen[opcode]` for `opcode < 64`: the longest protected option of each kind. -/
def optsMaxlen (opcode : UInt8) : UInt8 :=
  match opcode.toNat with
  | 2 => 4
  | 3 => 3
  | 4 => 2
  | 8 => 10
  | 30 => 40
  | 34 => 18
  | _ => 0

/-- `opts_protected` before the second pass: MSS, WS, SACK-permitted, TS, MPTCP and TFO on a
SYN, only TS otherwise. -/
def optsProtectedInit (syn : Bool) : UInt64 :=
  if syn then
    ((1 : UInt64) <<< 2) ||| ((1 : UInt64) <<< 3) ||| ((1 : UInt64) <<< 4) |||
      ((1 : UInt64) <<< 8) ||| ((1 : UInt64) <<< 30) ||| ((1 : UInt64) <<< 34)
  else (1 : UInt64) <<< 8

/-- `(unsigned int)reqlen`. -/
def toUnsigned (v : Int) : Nat := (v % 2 ^ 32).toNat

/-- `tcph->doff`: the high nibble of byte 12 of the TCP header at `th`. -/
def tcpDoff (buf : List UInt8) (th : Nat) : UInt8 := buf.getD (th + 12) 0 >>> 4

/-- `tcph->syn`: bit 1 of byte 13. -/
def tcpSyn (buf : List UInt8) (th : Nat) : Bool := buf.getD (th + 13) 0 &&& 0x02 ≠ 0

/-- `tcph->doff = v`: the bit-field store into the high nibble of byte 12. -/
def doffSet (buf : List UInt8) (th : Nat) (v : UInt8) : List UInt8 :=
  buf.set (th + 12) (((v &&& 0xf) <<< 4) ||| (buf.getD (th + 12) 0 &&& 0xf))

/-- A 16-bit field in network order, `ntohs(field)`. -/
def be16At (buf : List UInt8) (i : Nat) : UInt16 :=
  ((buf.getD i 0).toUInt16 <<< 8) ||| (buf.getD (i + 1) 0).toUInt16

/-- `field = htons(v)`. -/
def setBe16 (buf : List UInt8) (i : Nat) (v : UInt16) : List UInt8 :=
  Memmove.write buf i [(v >>> 8).toUInt8, v.toUInt8]

/-- The offset of the length field of the L3 header: `total_length` of IPv4,
`payload_len` of IPv6. -/
def ipLenAt (af : Int) : Nat := if af = afInet then 2 else 4

/-- The locals of `tcp_in_prune_options` that its loops change: the packet bytes, the
pointers `ptr`, `fast` and `slow` as offsets, `optlen`, `pruned` and `opts_protected`. -/
structure PruneState where
  buf : List UInt8
  ptr : Nat
  fast : Nat
  slow : Nat
  optlen : Int
  pruned : Nat
  optsProtected : UInt64
  deriving DecidableEq, Repr

/-- The state a loop leaves, by its test or by a jump out. -/
def PruneState.left : Except PruneState PruneState → PruneState
  | .ok s => s
  | .error s => s

/-- The copy of the first pass, `opsize` times `if (slow != fast) *slow = *fast; slow++;
fast++;`. -/
def pruneCopy : Nat → List UInt8 → Nat → Nat → List UInt8
  | 0, buf, _, _ => buf
  | n + 1, buf, fast, slow =>
    pruneCopy n (if slow ≠ fast then buf.set slow (buf.getD fast 0) else buf) (fast + 1) (slow + 1)

/-- One round of the first `while (optlen > 0)`; a `goto fini` fails with the state. -/
def firstPassBody (s : PruneState) : Except PruneState PruneState :=
  let opcode := s.buf.getD s.ptr 0
  if opcode = tcpoptEol then .error s
  else if opcode = tcpoptNop then
    .ok { s with ptr := s.ptr + 1, fast := s.fast + 1, optlen := s.optlen - 1 }
  else
    let opsize := s.buf.getD (s.ptr + 1) 0
    -- silly options, then partial options
    if opsize < 2 then .error s
    else if s.optlen < opsize.toNat then .error s
    else if opcode = tcpOptAddr then
      .ok { s with
        ptr := s.ptr + opsize.toNat
        fast := s.fast + opsize.toNat
        optlen := s.optlen - opsize.toNat }
    else
      .ok { s with
        buf := pruneCopy opsize.toNat s.buf s.fast s.slow
        ptr := s.ptr + opsize.toNat
        fast := s.fast + opsize.toNat
        slow := s.slow + opsize.toNat
        optlen := s.optlen - opsize.toNat }

/-- The test of the second pass: a kind below 64 whose bit is still in `opts_protected`, of
a size within `opts_maxlen`. -/
def secondKeeps (prot : UInt64) (opcode opsize : UInt8) : Bool :=
  opcode.toNat < 64 ∧ ((1 : UInt64) <<< opcode.toUInt64) &&& prot ≠ 0 ∧ opsize ≤ optsMaxlen opcode

/-- One round of the second `while (fast < ptr)` against `(unsigned)reqlen`; the `break`
once `pruned` reaches it, after copying the rest, fails with the state. -/
def secondPassBody (reqlen : Nat) (s : PruneState) : Except PruneState PruneState :=
  let opcode := s.buf.getD s.fast 0
  let opsize := s.buf.getD (s.fast + 1) 0
  if secondKeeps s.optsProtected opcode opsize then
    .ok { s with
      buf := Memmove.copyFwd opsize.toNat s.buf s.fast s.slow
      fast := s.fast + opsize.toNat
      slow := s.slow + opsize.toNat
      optsProtected := s.optsProtected ^^^ ((1 : UInt64) <<< opcode.toUInt64) }
  else
    let fast := s.fast + opsize.toNat
    let pruned := s.pruned + opsize.toNat
    if reqlen ≤ pruned then
      -- `while (fast < ptr) *slow++ = *fast++;`
      .error { s with
        buf := Memmove.copyFwd (s.ptr - fast) s.buf fast s.slow
        fast := fast + (s.ptr - fast)
        slow := s.slow + (s.ptr - fast)
        pruned := pruned }
    else .ok { s with fast := fast, pruned := pruned }

/-- One round of `while (pruned & 0x3) { *slow++ = 0; pruned--; }`. -/
def alignBody (s : PruneState) : Except PruneState PruneState :=
  .ok { s with buf := s.buf.set s.slow 0, slow := s.slow + 1, pruned := s.pruned - 1 }

/-- The second pass, after `fini:`, when the first freed fewer than `(unsigned)reqlen`
bytes: the options compacted from `start` are walked again from `start`. -/
def secondPass (reqlen : Int) (syn : Bool) (start payload : Nat) (s : PruneState) :
    Option PruneState :=
  if payload - s.slow < toUnsigned reqlen then
    -- further trim the options, except for the protected ones
    (WhileLoop.run (fun s => decide (s.fast < s.ptr)) (secondPassBody (toUnsigned reqlen))
      (s.slow - start + 1)
      { s with
        ptr := s.slow
        fast := start
        slow := start
        pruned := payload - s.slow
        optsProtected := optsProtectedInit syn }).map PruneState.left
  else some s

/-- The trim of `tcp_in_prune_options` once `pruned` bytes are freed: the payload moved from
`payload` down to `slow`, the packet trimmed, and `doff` and the IP length lowered. -/
def trimPacket (af : Int) (th : Nat) (buf : List UInt8) (len slow payload pruned : Nat) :
    List UInt8 :=
  let buf := Memmove.memmove buf slow payload (len - payload)
  let buf := buf.take (buf.length - pruned)
  let buf := doffSet buf th (tcpDoff buf th - (pruned >>> 2).toUInt8)
  setBe16 buf (ipLenAt af) (be16At buf (ipLenAt af) - pruned.toUInt16)

/-- The end of `tcp_in_prune_options`, from `pruned = payload - slow`: the alignment, the
check of the packet's length and the trim. -/
def pruneFinish (af : Int) (pkt : List UInt8) (th payload : Nat) (s : PruneState) :
    Option (Except Edpvs Nat × List UInt8) := do
  let pruned := payload - s.slow
  if pruned = 0 then return (.ok 0, s.buf)
  -- 4-bytes alignment for tcp options
  let a ← WhileLoop.run (fun s => decide (s.pruned &&& 3 ≠ 0)) alignBody 4 { s with pruned := pruned }
  let a := PruneState.left a
  if a.pruned = 0 then return (.ok 0, a.buf)
  if pkt.length < payload then return (.error .invpkt, Memmove.memset a.buf a.slow a.pruned 0)
  return (.ok a.pruned, trimPacket af th a.buf pkt.length a.slow payload a.pruned)

/-- `tcp_in_prune_options(af, reqlen, mbuf, tcph)` on the packet `pkt` with its TCP header at
`th`: the value returned, a count of bytes or an error, and the packet it leaves; `none`
when a loop runs past the rounds the option area allows. -/
def tcpInPruneOptions (af reqlen : Int) (pkt : List UInt8) (th : Nat) :
    Option (Except Edpvs Nat × List UInt8) := do
  let start := th + 20
  let optlen : Int := (tcpDoff pkt th).toNat * 4 - 20
  let payload := start + optlen.toNat
  -- "make no sense to do anything"
  if optlen < reqlen then return (.ok 0, pkt)
  let first ← WhileLoop.run (fun s => decide (0 < s.optlen)) firstPassBody (optlen.toNat + 1)
    ⟨pkt, start, start, start, optlen, 0, 0⟩
  let s ← secondPass reqlen (tcpSyn pkt th) start payload (PruneState.left first)
  pruneFinish af pkt th payload s

def optKind (o : List UInt8) : UInt8 := o.headD 0

def optSize (o : List UInt8) : UInt8 := o.getD 1 0

def tcpOptionList : List UInt8 → List (List UInt8)
  | [] => []
  | opcode :: tail =>
    if opcode = tcpoptEol then []
    else if opcode = tcpoptNop then tcpOptionList tail
    else if (tail.headD 0).toNat < 2 then []
    else if tail.length + 1 < (tail.headD 0).toNat then []
    else (opcode :: tail).take (tail.headD 0).toNat ::
      tcpOptionList ((opcode :: tail).drop (tail.headD 0).toNat)
termination_by area => area.length
decreasing_by
  all_goals simp only [List.length_drop, List.length_cons]
  all_goals omega

structure OptionWf (o : List UInt8) : Prop where
  kind_ne_eol : optKind o ≠ tcpoptEol
  kind_ne_nop : optKind o ≠ tcpoptNop
  two_le : 2 ≤ o.length
  size : (optSize o).toNat = o.length

theorem tcpOptionList_wf (area : List UInt8) : ∀ o ∈ tcpOptionList area, OptionWf o := by
  fun_induction tcpOptionList area with
  | case1 => simp
  | case2 => simp
  | case3 _ _ ih => exact ih
  | case4 => simp
  | case5 => simp
  | case6 opcode tail eol nop two fits ih =>
    intro o mem
    rw [List.mem_cons] at mem
    rcases mem with rfl | mem
    · cases tail with
      | nil => simp at two
      | cons size rest =>
        simp only [List.headD_cons, List.length_cons, not_lt] at two fits
        obtain ⟨k, hk⟩ : ∃ k, size.toNat = k + 2 := ⟨size.toNat - 2, by omega⟩
        simp only [List.headD_cons, hk, List.take_succ_cons]
        refine ⟨eol, nop, by simp, ?_⟩
        simp only [optSize, List.getD_cons_succ, List.getD_cons_zero, List.length_cons,
          List.length_take]
        omega
    · exact ih o mem

theorem tcpOptionList_append {o : List UInt8} (wf : OptionWf o) (rest : List UInt8) :
    tcpOptionList (o ++ rest) = o :: tcpOptionList rest := by
  obtain ⟨eol, nop, two, size⟩ := wf
  match o, two with
  | opcode :: b :: t, _ =>
    simp only [optKind, optSize, List.headD_cons, List.getD_cons_succ, List.getD_cons_zero,
      List.length_cons] at eol nop size
    rw [List.cons_append, tcpOptionList, if_neg eol, if_neg nop, List.cons_append,
      List.headD_cons, if_neg (by omega), if_neg (by simp; omega), size,
      ← List.cons_append, ← List.cons_append,
      List.take_left' (by simp), List.drop_left' (by simp)]

theorem tcpOptionList_replicate (m : Nat) : tcpOptionList (List.replicate m 0) = [] := by
  cases m with
  | zero => simp [tcpOptionList]
  | succ m => rw [List.replicate_succ, tcpOptionList, if_pos (show (0 : UInt8) = tcpoptEol from rfl)]

theorem tcpOptionList_flatten (pad : Nat) :
    ∀ (os : List (List UInt8)), (∀ o ∈ os, OptionWf o) →
      tcpOptionList (os.flatten ++ List.replicate pad 0) = os
  | [], _ => by simpa using tcpOptionList_replicate pad
  | o :: os, wf => by
    rw [List.flatten_cons, List.append_assoc, tcpOptionList_append (wf o (by simp)),
      tcpOptionList_flatten pad os (fun o' mem => wf o' (by simp [mem]))]

/-- The parse of the `k` bytes at `p` of a buffer, one step, as the first pass reads it:
the kind at `p` and, past a `NOP` or an `EOL`, the size at `p + 1`. -/
theorem tcpOptionList_window {buf : List UInt8} {p k : Nat} (pos : 0 < k)
    (fits : p + k ≤ buf.length) :
    tcpOptionList (Memmove.slice buf p k) =
      if buf.getD p 0 = tcpoptEol then []
      else if buf.getD p 0 = tcpoptNop then tcpOptionList (Memmove.slice buf (p + 1) (k - 1))
      else if buf.getD (p + 1) 0 < 2 then []
      else if k < (buf.getD (p + 1) 0).toNat then []
      else Memmove.slice buf p (buf.getD (p + 1) 0).toNat ::
        tcpOptionList (Memmove.slice buf (p + (buf.getD (p + 1) 0).toNat)
          (k - (buf.getD (p + 1) 0).toNat)) := by
  simp only [Memmove.slice]
  obtain ⟨j, rfl⟩ : ∃ j, k = j + 1 := ⟨k - 1, by omega⟩
  have head : (buf.drop p).take (j + 1) = buf.getD p 0 :: (buf.drop (p + 1)).take j := by
    rw [List.drop_eq_getElem_cons (by omega), List.take_succ_cons]
    simp [List.getD_eq_getElem?_getD, show p < buf.length by omega]
  rw [head, tcpOptionList, Nat.add_sub_cancel]
  rcases Nat.eq_zero_or_pos j with rfl | pos
  · -- a last byte: the parse reads size 0 there, the code a byte past the area, and both stop
    simp only [List.take_zero, List.headD_nil, List.length_nil]
    generalize buf.getD (p + 1) 0 = b
    have stop : ¬ b < 2 → 1 < b.toNat := by
      rw [UInt8.lt_iff_toNat_lt]
      simp only [UInt8.toNat_ofNat]
      omega
    by_cases small : b < 2
    · simp [small]
    · simp [small, stop small]
  · have size : ((buf.drop (p + 1)).take j).headD 0 = buf.getD (p + 1) 0 := by
      obtain ⟨i, rfl⟩ : ∃ i, j = i + 1 := ⟨j - 1, by omega⟩
      rw [List.drop_eq_getElem_cons (by omega), List.take_succ_cons]
      simp [List.getD_eq_getElem?_getD, show p + 1 < buf.length by omega]
    have len : ((buf.drop (p + 1)).take j).length = j := by simp; omega
    rw [size, len, ← head, List.take_take, List.drop_take, List.drop_drop]
    generalize buf.getD (p + 1) 0 = b
    have two : b < 2 ↔ b.toNat < 2 := by
      rw [UInt8.lt_iff_toNat_lt]
      simp only [UInt8.toNat_ofNat]
    by_cases fit : j + 1 < b.toNat
    · simp [fit]
    · have within : min b.toNat (j + 1) = b.toNat := by omega
      simp [two, fit, within]

theorem bit_toNat {k : UInt8} (small : k.toNat < 64) :
    ((1 : UInt64) <<< k.toUInt64).toNat = 2 ^ k.toNat := by
  have lt : 2 ^ k.toNat < 2 ^ 64 := Nat.pow_lt_pow_right (by omega) small
  simp only [UInt64.toNat_shiftLeft, UInt8.toNat_toUInt64, UInt64.toNat_one, Nat.mod_eq_of_lt small,
    Nat.shiftLeft_eq, Nat.one_mul]
  exact Nat.mod_eq_of_lt lt

theorem bit_and_ne_zero {k : UInt8} (small : k.toNat < 64) (p : UInt64) :
    ((1 : UInt64) <<< k.toUInt64) &&& p ≠ 0 ↔ p.toNat.testBit k.toNat = true := by
  rw [Ne, ← UInt64.toNat_inj, UInt64.toNat_and, bit_toNat small, Nat.two_pow_and]
  cases p.toNat.testBit k.toNat <;> simp

/-- The test of the second pass on the bits of `opts_protected`. -/
theorem secondKeeps_iff {prot : UInt64} {opcode opsize : UInt8} :
    secondKeeps prot opcode opsize = true ↔
      opcode.toNat < 64 ∧ prot.toNat.testBit opcode.toNat = true ∧ opsize ≤ optsMaxlen opcode := by
  simp only [secondKeeps, decide_eq_true_eq]
  exact and_congr_right fun small => and_congr_left' (bit_and_ne_zero small prot)

theorem testBit_xor_bit {k j : UInt8} (hj : j.toNat < 64) (p : UInt64) :
    (p ^^^ ((1 : UInt64) <<< j.toUInt64)).toNat.testBit k.toNat =
      (p.toNat.testBit k.toNat ^^ decide (j = k)) := by
  rw [UInt64.toNat_xor, bit_toNat hj, Nat.testBit_xor, Nat.testBit_two_pow]
  congr 1
  simp [UInt8.toNat_inj]

/-- Clearing the bit of another kind leaves the test of a kind as it is. -/
theorem secondKeeps_xor_of_ne {prot : UInt64} {j k size : UInt8} (small : j.toNat < 64)
    (other : j ≠ k) :
    secondKeeps (prot ^^^ ((1 : UInt64) <<< j.toUInt64)) k size = secondKeeps prot k size := by
  rw [Bool.eq_iff_iff, secondKeeps_iff, secondKeeps_iff, testBit_xor_bit small,
    decide_eq_false other, Bool.xor_false]

/-- Once kept, a kind is not kept again: the second pass clears its bit. -/
theorem secondKeeps_xor_self {prot : UInt64} {j size size' : UInt8}
    (kept : secondKeeps prot j size = true) :
    secondKeeps (prot ^^^ ((1 : UInt64) <<< j.toUInt64)) j size' = false := by
  obtain ⟨small, bit, -⟩ := secondKeeps_iff.mp kept
  rw [← Bool.not_eq_true, secondKeeps_iff, testBit_xor_bit small, bit, decide_eq_true rfl]
  simp

/-- The second pass only clears bits. -/
theorem secondKeeps_of_xor {prot : UInt64} {j k size size' : UInt8}
    (kept : secondKeeps prot j size = true)
    (later : secondKeeps (prot ^^^ ((1 : UInt64) <<< j.toUInt64)) k size' = true) :
    secondKeeps prot k size' = true := by
  by_cases same : j = k
  · subst same
    rw [secondKeeps_xor_self kept] at later
    exact absurd later Bool.false_ne_true
  · rwa [secondKeeps_xor_of_ne (secondKeeps_iff.mp kept).1 same] at later

/-- The kinds the second pass protects: MSS, WS, SACK-permitted, TS, MPTCP and TFO on a SYN,
TS otherwise. -/
def protectedKinds (syn : Bool) : List UInt8 := if syn then [2, 3, 4, 8, 30, 34] else [8]

/-- The initial `opts_protected` keeps the protected kinds within their maxima. -/
theorem secondKeeps_init {syn : Bool} {opcode opsize : UInt8} :
    secondKeeps (optsProtectedInit syn) opcode opsize = true ↔
      opcode ∈ protectedKinds syn ∧ opsize ≤ optsMaxlen opcode := by
  have below : ∀ i < 64, (optsProtectedInit syn).toNat.testBit i =
      decide (i ∈ (protectedKinds syn).map UInt8.toNat) := by
    cases syn <;> decide
  have small : ∀ k ∈ protectedKinds syn, k.toNat < 64 := by cases syn <;> simp [protectedKinds]
  have mem : opcode ∈ protectedKinds syn ↔ opcode.toNat ∈ (protectedKinds syn).map UInt8.toNat := by
    simp [UInt8.toNat_inj]
  rw [secondKeeps_iff]
  constructor
  · rintro ⟨lt, bit, within⟩
    rw [below _ lt, decide_eq_true_eq, ← mem] at bit
    exact ⟨bit, within⟩
  · rintro ⟨kind, within⟩
    refine ⟨small _ kind, ?_, within⟩
    rw [below _ (small _ kind), decide_eq_true_eq, ← mem]
    exact kind

def trimOptions (reqlen : Nat) : UInt64 → Nat → List (List UInt8) → List (List UInt8)
  | _, _, [] => []
  | prot, pruned, o :: os =>
    if secondKeeps prot (optKind o) (optSize o) then
      o :: trimOptions reqlen (prot ^^^ ((1 : UInt64) <<< (optKind o).toUInt64)) pruned os
    else if reqlen ≤ pruned + (optSize o).toNat then os
    else trimOptions reqlen prot (pruned + (optSize o).toNat) os

variable {reqlen : Nat}

theorem trimOptions_sublist : ∀ {prot : UInt64} {pruned : Nat} (opts : List (List UInt8)),
    List.Sublist (trimOptions reqlen prot pruned opts) opts
  | _, _, [] => List.Sublist.slnil
  | prot, pruned, o :: os => by
    rw [trimOptions]
    split_ifs
    · exact (trimOptions_sublist os).cons_cons o
    · exact List.sublist_cons_self o os
    · exact (trimOptions_sublist os).cons o

/-- The second pass keeps an option whose kind it still protects at its turn and that no
earlier option of that kind, within the maximum, came before. -/
theorem mem_trimOptions {o : List UInt8} {post : List (List UInt8)} :
    ∀ {prot : UInt64} {pruned : Nat} (pre : List (List UInt8)),
      secondKeeps prot (optKind o) (optSize o) = true →
      (∀ o' ∈ pre, optKind o' = optKind o → optsMaxlen (optKind o) < optSize o') →
      o ∈ trimOptions reqlen prot pruned (pre ++ o :: post)
  | prot, pruned, [], kept, _ => by
    simp [trimOptions, kept]
  | prot, pruned, o' :: pre, kept, first => by
    rw [List.cons_append, trimOptions]
    split_ifs with keeps stop
    · -- a kept `o'` is of another kind, so the bit of `o` survives it
      have other : optKind o' ≠ optKind o := by
        intro same
        have within := (secondKeeps_iff.mp keeps).2.2
        have above := first o' (by simp) same
        rw [same, UInt8.le_iff_toNat_le] at within
        rw [UInt8.lt_iff_toNat_lt] at above
        omega
      refine List.mem_cons_of_mem _ (mem_trimOptions pre ?_ fun o'' mem => first o'' (by simp [mem]))
      rwa [secondKeeps_xor_of_ne (secondKeeps_iff.mp keeps).1 other]
    · simp
    · exact mem_trimOptions pre kept fun o'' mem => first o'' (by simp [mem])

theorem length_flatten_trimOptions_le {prot : UInt64} {pruned : Nat} (opts : List (List UInt8)) :
    (trimOptions reqlen prot pruned opts).flatten.length ≤ opts.flatten.length :=
  (trimOptions_sublist opts).flatten.length_le

/-- Either the second pass drops `reqlen` bytes, counting from `pruned`, and stops, or every
option it keeps is one it protects, each kind once. -/
theorem trimOptions_reaches_or_protects :
    ∀ {prot : UInt64} {pruned : Nat} (opts : List (List UInt8)),
      (∀ o ∈ opts, (optSize o).toNat = o.length) →
      reqlen ≤ pruned + (opts.flatten.length - (trimOptions reqlen prot pruned opts).flatten.length) ∨
        (∀ o ∈ trimOptions reqlen prot pruned opts, secondKeeps prot (optKind o) (optSize o) = true) ∧
          ((trimOptions reqlen prot pruned opts).map optKind).Nodup
  | _, _, [], _ => .inr ⟨by simp [trimOptions], by simp [trimOptions]⟩
  | prot, pruned, o :: os, sized => by
    have sizedRest : ∀ o' ∈ os, (optSize o').toNat = o'.length := fun o' mem => sized o' (by simp [mem])
    have size := sized o (by simp)
    have shorter : (trimOptions reqlen prot (pruned + (optSize o).toNat) os).flatten.length ≤
        os.flatten.length := length_flatten_trimOptions_le os
    rw [trimOptions]
    split_ifs with keeps stop
    · -- kept: `o` cancels from both lengths, and clears its kind's bit for the rest
      rcases @trimOptions_reaches_or_protects (prot ^^^ ((1 : UInt64) <<< (optKind o).toUInt64))
        pruned os sizedRest with reached | ⟨protects, nodup⟩
      · left
        simp only [List.flatten_cons, List.length_append]
        omega
      · right
        refine ⟨?_, ?_⟩
        · intro o' mem
          rcases List.mem_cons.mp mem with rfl | mem
          · exact keeps
          · exact secondKeeps_of_xor keeps (protects o' mem)
        · refine List.nodup_cons.mpr ⟨?_, nodup⟩
          intro mem
          obtain ⟨o', mem', same⟩ := List.mem_map.mp mem
          have again := protects o' mem'
          rw [same, secondKeeps_xor_self keeps] at again
          exact Bool.false_ne_true again
    · left
      simp only [List.flatten_cons, List.length_append]
      omega
    · rcases @trimOptions_reaches_or_protects prot (pruned + (optSize o).toNat) os sizedRest
        with reached | protects
      · left
        simp only [List.flatten_cons, List.length_append]
        omega
      · exact .inr protects

/-- The options the first pass keeps of an area: all but the client addresses. -/
def firstKept (area : List UInt8) : List (List UInt8) :=
  (tcpOptionList area).filter fun o => optKind o != tcpOptAddr

theorem slice_of_drop_eq {a b : List UInt8} {p : Nat} (same : a.drop p = b.drop p) (n : Nat) :
    Memmove.slice a p n = Memmove.slice b p n := by
  rw [Memmove.slice, Memmove.slice, same]

theorem optKind_slice {buf : List UInt8} {p n : Nat} (pos : 0 < n) (lt : p < buf.length) :
    optKind (Memmove.slice buf p n) = buf.getD p 0 := by
  obtain ⟨m, rfl⟩ : ∃ m, n = m + 1 := ⟨n - 1, by omega⟩
  rw [Memmove.slice, List.drop_eq_getElem_cons lt, List.take_succ_cons]
  simp [optKind, List.getD_eq_getElem?_getD, lt]

/-- A cell copied onto itself is left as it is. -/
theorem set_getD_self (buf : List UInt8) (i : Nat) : buf.set i (buf.getD i 0) = buf := by
  by_cases lt : i < buf.length
  · simp [List.getD_eq_getElem?_getD, lt]
  · exact List.set_eq_of_length_le (by omega)

/-- The copy of the first pass, which skips a cell onto itself, is the plain copy. -/
theorem pruneCopy_eq_copyFwd : ∀ (n : Nat) (buf : List UInt8) (fast slow : Nat),
    pruneCopy n buf fast slow = Memmove.copyFwd n buf fast slow
  | 0, _, _, _ => rfl
  | n + 1, buf, fast, slow => by
    rw [pruneCopy, Memmove.copyFwd, pruneCopy_eq_copyFwd n]
    split_ifs with moved
    · rfl
    · rw [not_not.mp moved]
      exact congrArg (Memmove.copyFwd n · (fast + 1) (fast + 1)) (set_getD_self buf fast).symm

theorem two_le_toNat {b : UInt8} (big : ¬ b < 2) : 2 ≤ b.toNat := by
  rw [UInt8.lt_iff_toNat_lt] at big
  simp only [UInt8.toNat_ofNat] at big
  omega

/-- The packet as a pass leaves it: the header below `start` and the bytes from `payload`
on as they came, and `area` written from `start` to `slow`. -/
structure Compacted (pkt : List UInt8) (start payload : Nat) (area : List UInt8)
    (s : PruneState) : Prop where
  low : start ≤ s.slow
  high : s.slow ≤ payload
  length : s.buf.length = pkt.length
  head : s.buf.take start = pkt.take start
  tail : s.buf.drop payload = pkt.drop payload
  written : Memmove.slice s.buf start (s.slow - start) = area

/-- How the first pass stands between its rounds over the area of `pkt` from `start` to
`payload`: `fast` is `ptr`; from `ptr` on the packet is as it came; and the options copied
so far, from `start` to `slow`, followed by those the rest of the area holds, are the
options the whole area holds. -/
structure FirstPassInv (pkt : List UInt8) (start payload : Nat) (s : PruneState) : Prop where
  fast : s.fast = s.ptr
  low : start ≤ s.slow
  behind : s.slow ≤ s.ptr
  nonneg : 0 ≤ s.optlen
  ends : s.ptr + s.optlen.toNat = payload
  length : s.buf.length = pkt.length
  head : s.buf.take start = pkt.take start
  unread : s.buf.drop s.ptr = pkt.drop s.ptr
  copied : Memmove.slice s.buf start (s.slow - start) ++
      (firstKept (Memmove.slice pkt s.ptr s.optlen.toNat)).flatten =
    (firstKept (Memmove.slice pkt start (payload - start))).flatten

section FirstPass

variable {pkt : List UInt8} {start payload : Nat} {s : PruneState}

/-- A round that skips `d` bytes whose options the first pass does not keep. -/
theorem FirstPassInv.skip (inv : FirstPassInv pkt start payload s) {d : Nat}
    (within : d ≤ s.optlen.toNat)
    (same : firstKept (Memmove.slice pkt (s.ptr + d) (s.optlen.toNat - d)) =
      firstKept (Memmove.slice pkt s.ptr s.optlen.toNat)) :
    FirstPassInv pkt start payload
      { s with ptr := s.ptr + d, fast := s.fast + d, optlen := s.optlen - d } where
  fast := by simp [inv.fast]
  low := inv.low
  behind := by simp; have := inv.behind; omega
  nonneg := by simp; have := inv.nonneg; omega
  ends := by simp; have := inv.ends; omega
  length := inv.length
  head := inv.head
  unread := by simp [← List.drop_drop, inv.unread]
  copied := by
    have rest : (s.optlen - d).toNat = s.optlen.toNat - d := by omega
    simpa [rest, same] using inv.copied

/-- A round that copies the option of `d` bytes at `ptr` down to `slow`. -/
theorem FirstPassInv.copy (inv : FirstPassInv pkt start payload s) (fits : payload ≤ pkt.length)
    {d : Nat} (within : d ≤ s.optlen.toNat)
    (next : firstKept (Memmove.slice pkt s.ptr s.optlen.toNat) =
      Memmove.slice pkt s.ptr d :: firstKept (Memmove.slice pkt (s.ptr + d) (s.optlen.toNat - d))) :
    FirstPassInv pkt start payload
      { s with
        buf := pruneCopy d s.buf s.fast s.slow
        ptr := s.ptr + d
        fast := s.fast + d
        slow := s.slow + d
        optlen := s.optlen - d } := by
  have ends := inv.ends
  have behind := inv.behind
  have low := inv.low
  have length := inv.length
  have copy : pruneCopy d s.buf s.fast s.slow =
      Memmove.write s.buf s.slow (Memmove.slice pkt s.ptr d) := by
    rw [pruneCopy_eq_copyFwd, inv.fast,
      Memmove.copyFwd_eq_memmove d s.buf s.ptr s.slow behind (by omega), Memmove.memmove]
    exact congrArg _ (slice_of_drop_eq inv.unread d)
  have cells : (Memmove.slice pkt s.ptr d).length = d := by simp [Memmove.slice]; omega
  have rest : (s.optlen - d).toNat = s.optlen.toNat - d := by omega
  refine ⟨by simp [inv.fast], by simp; omega, by simp; omega, by simp; have := inv.nonneg; omega,
    by simp; omega, ?_, ?_, ?_, ?_⟩
  · simp only [copy]
    exact (Memmove.length_write (by omega)).trans length
  · simp only [copy]
    exact (Memmove.take_write_of_le low (by omega)).trans inv.head
  · simp only [copy]
    rw [Memmove.drop_write_of_le (by omega) (by omega)]
    simp [← List.drop_drop, inv.unread]
  · simp only [copy, rest]
    have written : s.slow + d - start = s.slow - start + (Memmove.slice pkt s.ptr d).length := by
      omega
    rw [written, Memmove.slice_write low (by omega), List.append_assoc, ← List.flatten_cons,
      ← next]
    exact inv.copied

/-- One round of the first pass from a state of the invariant: it stops where the rest of
the area holds no option to keep, or it keeps the invariant and lowers `optlen`. -/
theorem firstPassBody_round (fits : payload ≤ pkt.length) (inv : FirstPassInv pkt start payload s)
    (more : 0 < s.optlen) :
    (firstPassBody s = .error s ∧ firstKept (Memmove.slice pkt s.ptr s.optlen.toNat) = []) ∨
      ∃ s', firstPassBody s = .ok s' ∧ FirstPassInv pkt start payload s' ∧
        s'.optlen.toNat < s.optlen.toNat := by
  have ends := inv.ends
  have window := @tcpOptionList_window pkt s.ptr s.optlen.toNat (by omega) (by omega)
  have readKind : s.buf.getD s.ptr 0 = pkt.getD s.ptr 0 := by
    simpa using Memmove.getD_of_drop_eq inv.unread 0
  have readSize : s.buf.getD (s.ptr + 1) 0 = pkt.getD (s.ptr + 1) 0 := Memmove.getD_of_drop_eq inv.unread 1
  have kind : ∀ {d}, 0 < d → optKind (Memmove.slice pkt s.ptr d) = pkt.getD s.ptr 0 :=
    fun pos => optKind_slice pos (by omega)
  simp only [firstPassBody, readKind, readSize]
  split_ifs with eol nop silly past toa
  · exact .inl ⟨rfl, by rw [firstKept, window, if_pos eol, List.filter_nil]⟩
  · refine .inr ⟨_, rfl, inv.skip (d := 1) (by omega) ?_, by simp; omega⟩
    rw [firstKept, firstKept, window, if_neg eol, if_pos nop]
  · exact .inl ⟨rfl, by rw [firstKept, window, if_neg eol, if_neg nop, if_pos silly, List.filter_nil]⟩
  · have beyond : s.optlen.toNat < (pkt.getD (s.ptr + 1) 0).toNat := by omega
    exact .inl ⟨rfl, by
      rw [firstKept, window, if_neg eol, if_neg nop, if_neg silly, if_pos beyond, List.filter_nil]⟩
  · -- the options from here on are complete; a TOA is skipped, any other copied
    have two := two_le_toNat silly
    have within : (pkt.getD (s.ptr + 1) 0).toNat ≤ s.optlen.toNat := by omega
    have next : firstKept (Memmove.slice pkt s.ptr s.optlen.toNat) =
        (Memmove.slice pkt s.ptr (pkt.getD (s.ptr + 1) 0).toNat ::
          tcpOptionList (Memmove.slice pkt (s.ptr + (pkt.getD (s.ptr + 1) 0).toNat)
            (s.optlen.toNat - (pkt.getD (s.ptr + 1) 0).toNat))).filter
          fun o => optKind o != tcpOptAddr := by
      rw [firstKept, window, if_neg eol, if_neg nop, if_neg silly, if_neg (not_lt.mpr within)]
    rw [List.filter_cons, kind (by omega), toa, bne_self_eq_false, if_neg Bool.false_ne_true] at next
    exact .inr ⟨_, rfl, inv.skip within next.symm, by dsimp only; omega⟩
  · have two := two_le_toNat silly
    have within : (pkt.getD (s.ptr + 1) 0).toNat ≤ s.optlen.toNat := by omega
    have next : firstKept (Memmove.slice pkt s.ptr s.optlen.toNat) =
        (Memmove.slice pkt s.ptr (pkt.getD (s.ptr + 1) 0).toNat ::
          tcpOptionList (Memmove.slice pkt (s.ptr + (pkt.getD (s.ptr + 1) 0).toNat)
            (s.optlen.toNat - (pkt.getD (s.ptr + 1) 0).toNat))).filter
          fun o => optKind o != tcpOptAddr := by
      rw [firstKept, window, if_neg eol, if_neg nop, if_neg silly, if_neg (not_lt.mpr within)]
    rw [List.filter_cons, kind (by omega), if_pos (bne_iff_ne.mpr toa)] at next
    exact .inr ⟨_, rfl, inv.copy fits within next, by dsimp only; omega⟩

/-- Where the rest of the area holds nothing to keep, the first pass has compacted the
options of the area it keeps. -/
theorem FirstPassInv.compacted (inv : FirstPassInv pkt start payload s)
    (done : firstKept (Memmove.slice pkt s.ptr s.optlen.toNat) = []) :
    Compacted pkt start payload (firstKept (Memmove.slice pkt start (payload - start))).flatten s where
  low := inv.low
  high := by have := inv.behind; have := inv.ends; omega
  length := inv.length
  head := inv.head
  tail := by
    have split : payload = s.ptr + (payload - s.ptr) := by have := inv.ends; omega
    rw [split, ← List.drop_drop, inv.unread, List.drop_drop]
  written := by simpa [done] using inv.copied

/-- The first pass ends within its rounds and leaves the options of the area, less the
client addresses, compacted from `start`. -/
theorem firstPass_run {optlen : Int} (nonneg : 0 ≤ optlen)
    (fits : start + optlen.toNat ≤ pkt.length) :
    ∃ r, WhileLoop.run (fun s => decide (0 < s.optlen)) firstPassBody (optlen.toNat + 1)
        ⟨pkt, start, start, start, optlen, 0, 0⟩ = some r ∧
      Compacted pkt start (start + optlen.toNat)
        (firstKept (Memmove.slice pkt start optlen.toNat)).flatten (PruneState.left r) := by
  have init : FirstPassInv pkt start (start + optlen.toNat) ⟨pkt, start, start, start, optlen, 0, 0⟩ :=
    ⟨rfl, le_rfl, le_rfl, nonneg, rfl, rfl, rfl, rfl, by simp [Memmove.slice]⟩
  have round := fun {s} => @firstPassBody_round pkt start (start + optlen.toNat) s fits
  have lowers : ∀ s s', FirstPassInv pkt start (start + optlen.toNat) s →
      decide (0 < s.optlen) = true → firstPassBody s = .ok s' →
      FirstPassInv pkt start (start + optlen.toNat) s' ∧ s'.optlen.toNat < s.optlen.toNat := by
    intro s s' inv more step
    rcases round inv (of_decide_eq_true more) with ⟨fails, -⟩ | ⟨s'', ok, inv', lower⟩
    · rw [fails] at step
      cases step
    · rw [ok, Except.ok.injEq] at step
      exact step ▸ ⟨inv', lower⟩
  obtain ⟨r, ran⟩ := Option.isSome_iff_exists.mp
    (WhileLoop.run_isSome_of_inv _ (fun s => s.optlen.toNat) lowers init (Nat.lt_succ_self _))
  refine ⟨r, ran, WhileLoop.run_answer _ (fun r => Compacted pkt start (start + optlen.toNat)
    (firstKept (Memmove.slice pkt start optlen.toNat)).flatten (PruneState.left r))
    (fun s s' inv more step => (lowers s s' inv more step).1) ?_ ?_ init ran⟩
  · intro s e inv more step
    rcases round inv (of_decide_eq_true more) with ⟨fails, done⟩ | ⟨s'', ok, -, -⟩
    · rw [fails, Except.error.injEq] at step
      simpa [← step, PruneState.left] using inv.compacted done
    · rw [ok] at step
      cases step
  · intro s inv stop
    have empty : s.optlen.toNat = 0 := by simp at stop; omega
    simpa [PruneState.left] using inv.compacted (by simp [empty, Memmove.slice, firstKept, tcpOptionList])

end FirstPass

/-- A later pass that keeps the bytes from `ptr` on leaves what an earlier one left there. -/
theorem Compacted.trans {pkt buf0 : List UInt8} {start ptr payload : Nat} {area area0 : List UInt8}
    {s0 s : PruneState} (before : Compacted pkt start payload area0 s0) (same : s0.buf = buf0)
    (at0 : s0.slow = ptr) (after : Compacted buf0 start ptr area s) :
    Compacted pkt start payload area s where
  low := after.low
  high := by have := after.high; have := before.high; omega
  length := after.length.trans (same ▸ before.length)
  head := after.head.trans (same ▸ before.head)
  tail := by
    have split : payload = ptr + (payload - ptr) := by have := before.high; omega
    rw [split, ← List.drop_drop, after.tail, List.drop_drop, ← split, ← same, before.tail]
  written := after.written

/-- How the second pass stands between its rounds over the options compacted in `buf0` from
`start` to `ptr`: the options it has kept, from `start` to `slow`, and what it will keep of
the options still from `fast` to `ptr`, are what it keeps of all of them (`target`). -/
structure SecondPassInv (buf0 : List UInt8) (start ptr reqlen : Nat) (target : List (List UInt8))
    (s : PruneState) : Prop where
  atPtr : s.ptr = ptr
  low : start ≤ s.slow
  behind : s.slow ≤ s.fast
  below : s.fast ≤ ptr
  length : s.buf.length = buf0.length
  head : s.buf.take start = buf0.take start
  tail : s.buf.drop ptr = buf0.drop ptr
  walk : ∃ done rest, target = done ++ trimOptions reqlen s.optsProtected s.pruned rest ∧
    (∀ o ∈ rest, OptionWf o) ∧ Memmove.slice s.buf s.fast (ptr - s.fast) = rest.flatten ∧
    Memmove.slice s.buf start (s.slow - start) = done.flatten

section SecondPass

variable {buf0 : List UInt8} {start ptr reqlen : Nat} {target : List (List UInt8)} {s : PruneState}

theorem optKind_eq_getD {o : List UInt8} (wf : OptionWf o) : optKind o = o.getD 0 0 := by
  match o, wf.two_le with
  | _ :: _ :: _, _ => rfl

/-- One round of the second pass from a state of the invariant: it breaks out with every
option compacted, or keeps the invariant and moves `fast` on. -/
theorem secondPassBody_round (fits : ptr ≤ buf0.length)
    (inv : SecondPassInv buf0 start ptr reqlen target s) (more : s.fast < s.ptr) :
    (∃ s', secondPassBody reqlen s = .error s' ∧ Compacted buf0 start ptr target.flatten s') ∨
      ∃ s', secondPassBody reqlen s = .ok s' ∧ SecondPassInv buf0 start ptr reqlen target s' ∧
        ptr - s'.fast < ptr - s.fast := by
  obtain ⟨done, rest, whole, wf, ahead, kept⟩ := inv.walk
  have ptrEq := inv.atPtr
  have behind := inv.behind
  have below := inv.below
  have low := inv.low
  have length := inv.length
  -- bytes remain, so an option does
  obtain ⟨o, os, rfl⟩ : ∃ o os, rest = o :: os := by
    cases rest with
    | nil =>
      have := @Memmove.length_slice _ s.buf s.fast (ptr - s.fast) (by omega)
      simp [ahead] at this
      omega
    | cons o os => exact ⟨o, os, rfl⟩
  have wfo := wf o (by simp)
  rw [List.flatten_cons] at ahead
  obtain ⟨isO, isRest⟩ := Memmove.slice_eq_append ahead
  have readKind : s.buf.getD s.fast 0 = optKind o := by
    rw [optKind_eq_getD wfo, ← isO, Memmove.getD_slice (by have := wfo.two_le; omega),
      Nat.add_zero]
  have readSize : s.buf.getD (s.fast + 1) 0 = optSize o := by
    rw [optSize, ← isO, Memmove.getD_slice (by have := wfo.two_le; omega)]
  have size := wfo.size
  have two := wfo.two_le
  have within : s.fast + o.length ≤ ptr := by
    have lengths := congrArg List.length ahead
    rw [Memmove.length_slice (by omega), List.length_append] at lengths
    omega
  simp only [secondPassBody, readKind, readSize]
  split_ifs with keeps reached
  · -- kept: copied down to `slow`, and its kind's bit cleared
    have copy : Memmove.copyFwd (optSize o).toNat s.buf s.fast s.slow = Memmove.write s.buf s.slow o := by
      rw [Memmove.copyFwd_eq_memmove _ _ _ _ behind (by omega), Memmove.memmove, size]
      exact congrArg _ isO
    refine .inr ⟨_, rfl, ⟨ptrEq, by simp; omega, by simp; omega, by simp; omega, ?_, ?_, ?_, ?_⟩,
      by simp; omega⟩
    · simp only [copy]
      exact (Memmove.length_write (by omega)).trans length
    · simp only [copy]
      exact (Memmove.take_write_of_le low (by omega)).trans inv.head
    · simp only [copy]
      exact (Memmove.drop_write_of_le (by omega) (by omega)).trans inv.tail
    · refine ⟨done ++ [o], os, ?_, fun o' mem => wf o' (by simp [mem]), ?_, ?_⟩
      · rw [whole, trimOptions, if_pos keeps, List.append_assoc, List.singleton_append]
      · dsimp only
        rw [copy, size, Memmove.slice_write_of_le (by omega) (by omega), ← Nat.sub_sub]
        exact isRest
      · dsimp only
        rw [copy, size, show s.slow + o.length - start = s.slow - start + o.length by omega,
          Memmove.slice_write low (by omega), kept, List.flatten_append, List.flatten_singleton]
  · -- dropped, and `pruned` reaches `reqlen`: the rest is copied down as it is
    have restLength : os.flatten.length = s.ptr - (s.fast + (optSize o).toNat) := by
      have := @Memmove.length_slice _ s.buf (s.fast + o.length) (ptr - s.fast - o.length) (by omega)
      rw [isRest] at this
      omega
    have copy : Memmove.copyFwd (s.ptr - (s.fast + (optSize o).toNat)) s.buf
        (s.fast + (optSize o).toNat) s.slow = Memmove.write s.buf s.slow os.flatten := by
      rw [Memmove.copyFwd_eq_memmove _ _ _ _ (by omega) (by omega), Memmove.memmove, size]
      refine congrArg _ ?_
      rw [← isRest]
      congr 1
      omega
    have target' : target = done ++ os := by
      rw [whole, trimOptions, if_neg keeps, if_pos reached]
    refine .inl ⟨_, rfl, by simp; omega, by simp; omega, ?_, ?_, ?_, ?_⟩
    · dsimp only
      rw [copy]
      exact (Memmove.length_write (by omega)).trans length
    · dsimp only
      rw [copy]
      exact (Memmove.take_write_of_le low (by omega)).trans inv.head
    · dsimp only
      rw [copy]
      exact (Memmove.drop_write_of_le (by omega) (by omega)).trans inv.tail
    · dsimp only
      rw [copy, show s.slow + (s.ptr - (s.fast + (optSize o).toNat)) - start =
          s.slow - start + os.flatten.length by omega,
        Memmove.slice_write low (by omega), kept, target', List.flatten_append]
  · -- dropped, and `pruned` still short of `reqlen`
    refine .inr ⟨_, rfl, ⟨ptrEq, low, by simp; omega, by simp; omega, length, inv.head, inv.tail,
      done, os, ?_, fun o' mem => wf o' (by simp [mem]), ?_, kept⟩, by simp; omega⟩
    · rw [whole, trimOptions, if_neg keeps, if_neg reached]
    · dsimp only
      rw [size, ← Nat.sub_sub]
      exact isRest

/-- Where `fast` has reached `ptr`, the second pass has compacted all it keeps. -/
theorem SecondPassInv.compacted (inv : SecondPassInv buf0 start ptr reqlen target s)
    (reached : ptr ≤ s.fast) : Compacted buf0 start ptr target.flatten s := by
  obtain ⟨done, rest, whole, wf, ahead, kept⟩ := inv.walk
  have empty : rest = [] := by
    cases rest with
    | nil => rfl
    | cons o os =>
      have := (wf o (by simp)).two_le
      rw [show ptr - s.fast = 0 by omega, Memmove.slice, List.take_zero, List.flatten_cons] at ahead
      simp_all
  have below := inv.below
  refine ⟨inv.low, by have := inv.behind; omega, inv.length, inv.head, inv.tail, ?_⟩
  rw [kept, whole, empty, trimOptions, List.append_nil]

/-- The second pass ends within its rounds and leaves what `trimOptions` keeps of the options
compacted from `start` to `slow`, compacted from `start`. -/
theorem secondPass_run {s : PruneState} {opts : List (List UInt8)} (fits : s.slow ≤ s.buf.length)
    (low : start ≤ s.slow) (wf : ∀ o ∈ opts, OptionWf o)
    (area : Memmove.slice s.buf start (s.slow - start) = opts.flatten) (prot : UInt64) (pruned : Nat) :
    ∃ r, WhileLoop.run (fun s => decide (s.fast < s.ptr)) (secondPassBody reqlen) (s.slow - start + 1)
        { s with ptr := s.slow, fast := start, slow := start, pruned := pruned, optsProtected := prot } =
          some r ∧
      Compacted s.buf start s.slow (trimOptions reqlen prot pruned opts).flatten (PruneState.left r) := by
  have init : SecondPassInv s.buf start s.slow reqlen (trimOptions reqlen prot pruned opts)
      { s with ptr := s.slow, fast := start, slow := start, pruned := pruned, optsProtected := prot } :=
    ⟨rfl, le_rfl, le_rfl, low, rfl, rfl, rfl, [], opts, by simp, wf, area, by simp [Memmove.slice]⟩
  have round := fun {s'} => @secondPassBody_round s.buf start s.slow reqlen
    (trimOptions reqlen prot pruned opts) s' fits
  have lowers : ∀ s' s'', SecondPassInv s.buf start s.slow reqlen (trimOptions reqlen prot pruned opts) s' →
      decide (s'.fast < s'.ptr) = true → secondPassBody reqlen s' = .ok s'' →
      SecondPassInv s.buf start s.slow reqlen (trimOptions reqlen prot pruned opts) s'' ∧
        s.slow - s''.fast < s.slow - s'.fast := by
    intro s' s'' inv more step
    rcases round inv (of_decide_eq_true more) with ⟨_, fails, -⟩ | ⟨t, ok, inv', lower⟩
    · rw [fails] at step
      cases step
    · rw [ok, Except.ok.injEq] at step
      exact step ▸ ⟨inv', lower⟩
  obtain ⟨r, ran⟩ := Option.isSome_iff_exists.mp
    (WhileLoop.run_isSome_of_inv _ (fun s' => s.slow - s'.fast) lowers init
      (show s.slow - start < s.slow - start + 1 from Nat.lt_succ_self _))
  refine ⟨r, ran, WhileLoop.run_answer _ (fun r => Compacted s.buf start s.slow
    (trimOptions reqlen prot pruned opts).flatten (PruneState.left r))
    (fun s' s'' inv more step => (lowers s' s'' inv more step).1) ?_ ?_ init ran⟩
  · intro s' e inv more step
    rcases round inv (of_decide_eq_true more) with ⟨t, fails, done⟩ | ⟨t, ok, -, -⟩
    · rw [fails, Except.error.injEq] at step
      simpa [← step, PruneState.left] using done
    · rw [ok] at step
      cases step
  · intro s' inv stop
    have reached : s.slow ≤ s'.fast := by
      have := inv.atPtr
      simp at stop
      omega
    simpa [PruneState.left] using inv.compacted reached

end SecondPass

theorem and_three (n : Nat) : n &&& 3 = n % 4 := Nat.and_two_pow_sub_one_eq_mod n 2

/-- The alignment loop writes `pruned % 4` zero bytes at `slow`. -/
theorem align_run : ∀ (k fuel : Nat) (s : PruneState), s.pruned % 4 = k → k < fuel →
    s.slow + k ≤ s.buf.length →
    WhileLoop.run (fun s => decide (s.pruned &&& 3 ≠ 0)) alignBody fuel s =
      some (.ok { s with
        buf := Memmove.memset s.buf s.slow k 0
        slow := s.slow + k
        pruned := s.pruned - k })
  | 0, fuel + 1, s, aligned, _, _ => by
    rw [WhileLoop.run_succ_of_not _ (by simp [and_three, aligned])]
    simp [Memmove.memset, Memmove.write]
  | k + 1, fuel + 1, s, left, more, fits => by
    have round : alignBody s =
        .ok { s with buf := s.buf.set s.slow 0, slow := s.slow + 1, pruned := s.pruned - 1 } := rfl
    rw [WhileLoop.run_succ_of_ok _ (by simp [and_three, left]) round,
      align_run k fuel _ (by simp; omega) (by omega) (by simp; omega)]
    simp only [Memmove.memset]
    rw [Memmove.write_set_succ (by omega), ← List.replicate_succ, Nat.sub_sub, Nat.add_assoc,
      Nat.add_comm 1 k]

/-! ## The header updates of the trim -/

section Header

variable {buf : List UInt8} {th i : Nat}

theorem length_doffSet (v : UInt8) : (doffSet buf th v).length = buf.length := List.length_set

theorem length_setBe16 (fits : i + 2 ≤ buf.length) (v : UInt16) :
    (setBe16 buf i v).length = buf.length :=
  Memmove.length_write (by simpa using fits)

theorem drop_doffSet {k : Nat} (past : th + 12 < k) (v : UInt8) :
    (doffSet buf th v).drop k = buf.drop k :=
  List.drop_set_of_lt past

theorem drop_setBe16 {k : Nat} (fits : i + 2 ≤ buf.length) (past : i + 2 ≤ k) (v : UInt16) :
    (setBe16 buf i v).drop k = buf.drop k :=
  Memmove.drop_write_of_le (by omega) (by simpa using past)

/-- `tcph->doff` reads back what the bit-field store wrote. -/
theorem tcpDoff_doffSet (lt : th + 12 < buf.length) {v : UInt8} (small : v.toNat < 16) :
    tcpDoff (doffSet buf th v) th = v := by
  have stored : (doffSet buf th v).getD (th + 12) 0 =
      ((v &&& 0xf) <<< 4) ||| (buf.getD (th + 12) 0 &&& 0xf) := by
    simp [doffSet, List.getD_eq_getElem?_getD, lt]
  rw [tcpDoff, stored, Nibble.or_shiftRight_high (Nibble.and_low_shiftRight _),
    Nibble.shiftLeft_shiftRight, Nibble.and_low_of_lt small]

theorem tcpDoff_setBe16 (fits : i + 2 ≤ buf.length) (below : i + 2 ≤ th + 12) (v : UInt16) :
    tcpDoff (setBe16 buf i v) th = tcpDoff buf th := by
  rw [tcpDoff, tcpDoff, setBe16, Memmove.getD_write_of_le (by omega) (by simpa using below)]

/-- A 16-bit value is its two bytes in network order put together again. -/
theorem be16_recombine (v : UInt16) :
    ((v >>> 8).toUInt8.toUInt16 <<< 8) ||| v.toUInt8.toUInt16 = v := by
  apply UInt16.toBitVec_inj.mp
  simp only [UInt16.toBitVec_or, UInt16.toBitVec_shiftLeft, UInt8.toBitVec_toUInt16,
    UInt16.toBitVec_toUInt8, UInt16.toBitVec_shiftRight]
  ext i hi
  simp
  by_cases low : i < 8
  · simp [low, BitVec.getLsbD_eq_getElem hi]
  · have high : 8 + (i - 8) = i := by omega
    simp [low, high, show i - 8 < 8 by omega, BitVec.getLsbD_eq_getElem hi]

/-- `ntohs` reads back what `htons` stored. -/
theorem be16At_setBe16 (fits : i + 2 ≤ buf.length) (v : UInt16) :
    be16At (setBe16 buf i v) i = v := by
  have hi : (setBe16 buf i v).getD (i + 0) 0 = (v >>> 8).toUInt8 :=
    Memmove.getD_write_at (by omega) (by simp)
  have lo : (setBe16 buf i v).getD (i + 1) 0 = v.toUInt8 :=
    Memmove.getD_write_at (by omega) (by simp)
  rw [Nat.add_zero] at hi
  rw [be16At, hi, lo, be16_recombine]

theorem be16At_doffSet (below : i + 2 ≤ th + 12) (v : UInt8) :
    be16At (doffSet buf th v) i = be16At buf i := by
  simp only [be16At, doffSet, List.getD_eq_getElem?_getD,
    List.getElem?_set_ne (show th + 12 ≠ i by omega), List.getElem?_set_ne (show th + 12 ≠ i + 1 by omega)]

theorem tcpDoff_of_take_eq {other : List UInt8} {k : Nat} (same : buf.take k = other.take k)
    (lt : th + 12 < k) : tcpDoff buf th = tcpDoff other th := by
  rw [tcpDoff, tcpDoff, Memmove.getD_of_take_eq same lt]

theorem be16At_of_take_eq {other : List UInt8} {k : Nat} (same : buf.take k = other.take k)
    (lt : i + 1 < k) : be16At buf i = be16At other i := by
  rw [be16At, be16At, Memmove.getD_of_take_eq same (by omega), Memmove.getD_of_take_eq same lt]

end Header

/-! ## The whole function -/

/-- The option area of the TCP header at `th`: `doff * 4 - 20` bytes from `th + 20`. -/
def optionArea (buf : List UInt8) (th : Nat) : List UInt8 :=
  Memmove.slice buf (th + 20) ((tcpDoff buf th).toNat * 4 - 20)

/-- The options `tcp_in_prune_options` leaves of an area, for `(unsigned)reqlen`: those the
first pass keeps, and what the second pass keeps of them when they free too little. -/
def prunedOptions (syn : Bool) (reqlen : Nat) (area : List UInt8) : List (List UInt8) :=
  if area.length - (firstKept area).flatten.length < reqlen then
    trimOptions reqlen (optsProtectedInit syn) (area.length - (firstKept area).flatten.length)
      (firstKept area)
  else firstKept area

theorem firstKept_wf (area : List UInt8) : ∀ o ∈ firstKept area, OptionWf o :=
  fun o mem => tcpOptionList_wf area o (List.mem_of_mem_filter mem)

theorem prunedOptions_sublist (syn : Bool) (reqlen : Nat) (area : List UInt8) :
    List.Sublist (prunedOptions syn reqlen area) (firstKept area) := by
  unfold prunedOptions
  split_ifs
  · exact trimOptions_sublist _
  · exact List.Sublist.refl _

/-- The options of an area take no more bytes than the area. -/
theorem length_flatten_tcpOptionList_le (area : List UInt8) :
    (tcpOptionList area).flatten.length ≤ area.length := by
  fun_induction tcpOptionList area with
  | case1 => simp
  | case2 => simp
  | case3 _ _ ih => simp only [List.length_cons]; omega
  | case4 => simp
  | case5 => simp
  | case6 opcode tail _ _ _ _ ih =>
    simp only [List.flatten_cons, List.length_append, List.length_take, List.length_drop] at ih ⊢
    omega

theorem length_flatten_firstKept_le (area : List UInt8) :
    (firstKept area).flatten.length ≤ area.length :=
  ((List.filter_sublist).flatten.length_le).trans (length_flatten_tcpOptionList_le area)

theorem prunedOptions_wf (syn : Bool) (reqlen : Nat) (area : List UInt8) :
    ∀ o ∈ prunedOptions syn reqlen area, OptionWf o :=
  fun o mem => firstKept_wf area o ((prunedOptions_sublist syn reqlen area).subset mem)

theorem prunedOptions_not_addr (syn : Bool) (reqlen : Nat) (area : List UInt8) :
    ∀ o ∈ prunedOptions syn reqlen area, optKind o ≠ tcpOptAddr := by
  intro o mem
  have kept := (prunedOptions_sublist syn reqlen area).subset mem
  simpa [firstKept] using (List.mem_filter.mp kept).2

/-- Both passes keep the first option of each protected kind within its maximum. -/
theorem prunedOptions_first_protected {syn : Bool} {reqlen : Nat} {area : List UInt8}
    {pre post : List (List UInt8)} {o : List UInt8} (split : tcpOptionList area = pre ++ o :: post)
    (kind : optKind o ∈ protectedKinds syn) (within : optSize o ≤ optsMaxlen (optKind o))
    (first : ∀ o' ∈ pre, optKind o' = optKind o → optsMaxlen (optKind o) < optSize o') :
    o ∈ prunedOptions syn reqlen area := by
  have notAddr : optKind o ≠ tcpOptAddr := by
    intro addr
    rw [addr] at kind
    cases syn <;> simp [protectedKinds, tcpOptAddr] at kind
  have filtered : firstKept area = (pre.filter fun o => optKind o != tcpOptAddr) ++
      o :: post.filter fun o => optKind o != tcpOptAddr := by
    rw [firstKept, split, List.filter_append, List.filter_cons, if_pos (bne_iff_ne.mpr notAddr)]
  unfold prunedOptions
  split_ifs
  · rw [filtered]
    exact mem_trimOptions _ (secondKeeps_init.mpr ⟨kind, within⟩)
      fun o' mem => first o' (List.mem_of_mem_filter mem)
  · simp [filtered]

/-- Where the second pass drops an option, it frees `reqlen` bytes or keeps only protected
options, each kind once. -/
theorem prunedOptions_reaches_or_protects {syn : Bool} {reqlen : Nat} {area : List UInt8}
    (dropped : prunedOptions syn reqlen area ≠ firstKept area) :
    reqlen ≤ area.length - (prunedOptions syn reqlen area).flatten.length ∨
      (∀ o ∈ prunedOptions syn reqlen area,
        optKind o ∈ protectedKinds syn ∧ optSize o ≤ optsMaxlen (optKind o)) ∧
      ((prunedOptions syn reqlen area).map optKind).Nodup := by
  unfold prunedOptions at dropped ⊢
  split_ifs at dropped ⊢ with short
  · have within := length_flatten_firstKept_le area
    set pruned := area.length - (firstKept area).flatten.length
    have shorter : (trimOptions reqlen (optsProtectedInit syn) pruned (firstKept area)).flatten.length ≤
        (firstKept area).flatten.length := length_flatten_trimOptions_le _
    rcases @trimOptions_reaches_or_protects reqlen (optsProtectedInit syn) pruned (firstKept area)
      (fun o mem => (firstKept_wf area o mem).size) with reached | ⟨protects, nodup⟩
    · left
      omega
    · exact .inr ⟨fun o mem => secondKeeps_init.mp (protects o mem), nodup⟩
  · exact absurd rfl dropped

section Finish

variable {pkt : List UInt8} {start payload : Nat} {area : List UInt8} {s : PruneState}

theorem Compacted.length_area (c : Compacted pkt start payload area s) (fits : payload ≤ pkt.length) :
    area.length = s.slow - start := by
  have := c.high
  have := c.low
  rw [← c.written, Memmove.length_slice (by rw [c.length]; omega)]

/-- The second pass, where it runs, ends and leaves the options of `prunedOptions`. -/
theorem secondPass_spec (reqlen : Int) (syn : Bool) (fits : payload ≤ pkt.length)
    (c : Compacted pkt start payload (firstKept (Memmove.slice pkt start (payload - start))).flatten s) :
    ∃ s', secondPass reqlen syn start payload s = some s' ∧
      Compacted pkt start payload
        (prunedOptions syn (toUnsigned reqlen) (Memmove.slice pkt start (payload - start))).flatten s' := by
  have high := c.high
  have low := c.low
  have areaLength : (Memmove.slice pkt start (payload - start)).length = payload - start :=
    Memmove.length_slice (by omega)
  have keptLength := c.length_area fits
  have pruned : payload - s.slow = (Memmove.slice pkt start (payload - start)).length -
      (firstKept (Memmove.slice pkt start (payload - start))).flatten.length := by
    omega
  unfold secondPass prunedOptions
  rw [pruned]
  split_ifs with short
  · obtain ⟨r, ran, c2⟩ := @secondPass_run start (toUnsigned reqlen) s _
      (by rw [c.length]; omega) low (firstKept_wf _) c.written (optsProtectedInit syn) _
    exact ⟨_, by rw [ran]; rfl, c.trans rfl rfl c2⟩
  · exact ⟨s, rfl, c⟩

/-- The alignment pads the compacted options with zero bytes. -/
theorem Compacted.pad (c : Compacted pkt start payload area s) (fits : payload ≤ pkt.length)
    {k : Nat} (within : s.slow + k ≤ payload) {a : PruneState}
    (buf : a.buf = Memmove.memset s.buf s.slow k 0) (slow : a.slow = s.slow + k) :
    Compacted pkt start payload (area ++ List.replicate k 0) a := by
  have low := c.low
  have length := c.length
  refine ⟨by omega, by omega, ?_, ?_, ?_, ?_⟩
  · rw [buf, Memmove.length_memset (by omega), length]
  · rw [buf, Memmove.memset, Memmove.take_write_of_le low (by omega), c.head]
  · rw [buf, Memmove.memset, Memmove.drop_write_of_le (by omega) (by simpa using within), c.tail]
  · rw [buf, slow, Memmove.memset,
      show s.slow + k - start = s.slow - start + (List.replicate k (0 : UInt8)).length by simp; omega,
      Memmove.slice_write low (by omega), c.written]

/-- The end of the function: where it returns `n > 0`, it has padded the options to the next
multiple of 4, freed `n` bytes, and trimmed the packet by them. -/
theorem pruneFinish_spec (af : Int) (th : Nat) (fits : payload ≤ pkt.length)
    (c : Compacted pkt start payload area s) :
    ∃ r, pruneFinish af pkt th payload s = some r ∧ ∀ n, r.1 = .ok n → 0 < n →
      ∃ a, Compacted pkt start payload (area ++ List.replicate ((payload - s.slow) % 4) 0) a ∧
        a.slow + n = payload ∧ n % 4 = 0 ∧ r.2 = trimPacket af th a.buf pkt.length a.slow payload n := by
  have high := c.high
  by_cases nothing : payload - s.slow = 0
  · refine ⟨(.ok 0, s.buf), by simp [pruneFinish, nothing], ?_⟩
    rintro n ok pos
    simp at ok
    omega
  have ran := align_run ((payload - s.slow) % 4) 4 { s with pruned := payload - s.slow } rfl
    (Nat.mod_lt _ (by omega)) (by have := c.length; dsimp only; omega)
  simp only [pruneFinish, nothing, ran, if_false, PruneState.left, Option.pure_def, Option.bind_eq_bind,
    Option.bind_some]
  by_cases aligned : payload - s.slow - (payload - s.slow) % 4 = 0
  · refine ⟨_, if_pos aligned, ?_⟩
    rintro n ok pos
    simp at ok
    omega
  · refine ⟨_, by rw [if_neg aligned, if_neg (not_lt.mpr fits)], ?_⟩
    rintro n ok -
    simp only [Except.ok.injEq] at ok
    subst ok
    let a : PruneState := { s with
      buf := Memmove.memset s.buf s.slow ((payload - s.slow) % 4) 0
      slow := s.slow + (payload - s.slow) % 4 }
    exact ⟨a, c.pad fits (by omega) rfl rfl, by dsimp only [a]; omega, by omega, rfl⟩

/-- What the trim leaves of a packet whose options were compacted to `area` with `n` bytes
freed: the packet, `doff` and the IP length lowered by `n`, and after the header the new area
and then the payload. -/
structure Trimmed (af : Int) (pkt : List UInt8) (th n : Nat) (area out : List UInt8) : Prop where
  shorter : out.length + n = pkt.length
  doff : (tcpDoff out th).toNat * 4 + n = (tcpDoff pkt th).toNat * 4
  ipLen : be16At out (ipLenAt af) = be16At pkt (ipLenAt af) - n.toUInt16
  rest : out.drop (th + 20) = area ++ pkt.drop (th + (tcpDoff pkt th).toNat * 4)

/-- The move of the payload down to `slow` and the trim splice the new area between the
header and the payload. -/
theorem Compacted.splice (c : Compacted pkt start payload area s) (fits : payload ≤ pkt.length)
    {n : Nat} (freed : s.slow + n = payload) :
    let buf := Memmove.memmove s.buf s.slow payload (pkt.length - payload)
    buf.take (buf.length - n) = pkt.take start ++ area ++ pkt.drop payload := by
  have low := c.low
  have length := c.length
  have tail : (s.buf.drop payload).take (pkt.length - payload) = pkt.drop payload := by
    rw [c.tail, List.take_of_length_le (by simp)]
  have moved : Memmove.memmove s.buf s.slow payload (pkt.length - payload) =
      Memmove.write s.buf s.slow (pkt.drop payload) := by
    rw [Memmove.memmove, tail]
  have kept : s.buf.take s.slow = pkt.take start ++ area := by
    rw [show s.slow = start + (s.slow - start) by omega, List.take_add, c.head]
    exact congrArg _ c.written
  dsimp only
  rw [moved, Memmove.length_write (by simp; omega),
    show s.buf.length - n = s.slow + (pkt.drop payload).length by simp; omega,
    Memmove.take_write_add (by omega), kept]

/-- The trim of a packet whose options from `th + 20` were compacted with `n` bytes freed,
a multiple of 4. -/
theorem Compacted.trimmed {af : Int} {th n : Nat} (c : Compacted pkt (th + 20) payload area s)
    (fits : payload ≤ pkt.length) (ends : payload = th + (tcpDoff pkt th).toNat * 4)
    (lenField : ipLenAt af + 2 ≤ th) (freed : s.slow + n = payload) (aligned : n % 4 = 0) :
    Trimmed af pkt th n area (trimPacket af th s.buf pkt.length s.slow payload n) := by
  have low := c.low
  have high := c.high
  have spliced := c.splice fits freed
  have areaLength := c.length_area fits
  have headLength : (pkt.take (th + 20)).length = th + 20 := by simp; omega
  -- the packet the header updates start from
  set mid := pkt.take (th + 20) ++ area ++ pkt.drop payload with midEq
  have midLength : mid.length + n = pkt.length := by simp [midEq]; omega
  have midHead : mid.take (th + 20) = pkt.take (th + 20) := by
    rw [midEq, List.append_assoc, List.take_left' headLength]
  have doffMid : tcpDoff mid th = tcpDoff pkt th := tcpDoff_of_take_eq midHead (by omega)
  have lenMid : be16At mid (ipLenAt af) = be16At pkt (ipLenAt af) :=
    be16At_of_take_eq midHead (by omega)
  -- `doff` loses `n / 4` words, and no more than it holds past the fixed header
  have doffSmall := Nibble.toNat_shiftRight_lt (pkt.getD (th + 12) 0)
  have quarter : ((n >>> 2).toUInt8).toNat = n / 4 := by
    simp only [Nat.shiftRight_eq_div_pow, Nat.toUInt8]
    exact UInt8.toNat_ofNat_of_lt' (show n / 2 ^ 2 < 256 by unfold tcpDoff at ends; omega)
  have lowered : (tcpDoff mid th - (n >>> 2).toUInt8).toNat = (tcpDoff pkt th).toNat - n / 4 := by
    rw [doffMid, UInt8.toNat_sub_of_le _ _ (by rw [UInt8.le_iff_toNat_le, quarter]; omega), quarter]
  have small : (tcpDoff mid th - (n >>> 2).toUInt8).toNat < 16 := by
    rw [lowered]
    unfold tcpDoff at *
    omega
  simp only [trimPacket]
  rw [spliced]
  refine ⟨?_, ?_, ?_, ?_⟩
  · rw [length_setBe16 (by rw [length_doffSet]; omega), length_doffSet, midLength]
  · rw [tcpDoff_setBe16 (by rw [length_doffSet]; omega) (by omega),
      tcpDoff_doffSet (by omega) small, lowered]
    omega
  · rw [be16At_setBe16 (by rw [length_doffSet]; omega), be16At_doffSet (by omega), lenMid]
  · rw [drop_setBe16 (by rw [length_doffSet]; omega) (by omega), drop_doffSet (by omega),
      midEq, List.append_assoc, List.drop_left' headLength, ← ends]

/-- What `tcp_in_prune_options` makes of a packet when it returns `n > 0`: the packet, `doff`
and the IP length lowered by `n`, a multiple of 4; the payload kept; and in the new option
area a subsequence of the old options with no TOA, which keeps the first option of each
protected kind within its maximum, and which, where the second pass dropped an option, freed
`reqlen` rounded down to a multiple of 4 or kept only protected options, each kind once. -/
structure PrunedWell (af reqlen : Int) (pkt : List UInt8) (th n : Nat) (out : List UInt8) :
    Prop where
  aligned : n % 4 = 0
  shorter : out.length + n = pkt.length
  doff : (tcpDoff out th).toNat * 4 + n = (tcpDoff pkt th).toNat * 4
  ipLen : be16At out (ipLenAt af) = be16At pkt (ipLenAt af) - n.toUInt16
  payload : out.drop (th + (tcpDoff out th).toNat * 4) = pkt.drop (th + (tcpDoff pkt th).toNat * 4)
  sublist : List.Sublist (tcpOptionList (optionArea out th)) (tcpOptionList (optionArea pkt th))
  noAddr : ∀ o ∈ tcpOptionList (optionArea out th), optKind o ≠ tcpOptAddr
  firstProtected : ∀ pre o post, tcpOptionList (optionArea pkt th) = pre ++ o :: post →
    optKind o ∈ protectedKinds (tcpSyn pkt th) → optSize o ≤ optsMaxlen (optKind o) →
    (∀ o' ∈ pre, optKind o' = optKind o → optsMaxlen (optKind o) < optSize o') →
    o ∈ tcpOptionList (optionArea out th)
  reachesOrProtects : tcpOptionList (optionArea out th) ≠ firstKept (optionArea pkt th) →
    reqlen - reqlen % 4 ≤ n ∨
      (∀ o ∈ tcpOptionList (optionArea out th),
        optKind o ∈ protectedKinds (tcpSyn pkt th) ∧ optSize o ≤ optsMaxlen (optKind o)) ∧
      ((tcpOptionList (optionArea out th)).map optKind).Nodup

theorem tcp_in_prune_options_keeps_protected {af reqlen : Int} {pkt : List UInt8} {th : Nat}
    (header : 5 ≤ (tcpDoff pkt th).toNat) (inPacket : th + (tcpDoff pkt th).toNat * 4 ≤ pkt.length)
    (lenField : ipLenAt af + 2 ≤ th) :
    ∃ r, tcpInPruneOptions af reqlen pkt th = some r ∧
      ∀ n, r.1 = .ok n → 0 < n → PrunedWell af reqlen pkt th n r.2 := by
  -- the option area, of `optlen` bytes from `th + 20` to `payload`
  set optlen := (tcpDoff pkt th).toNat * 4 - 20 with optlenEq
  have asInt : ((tcpDoff pkt th).toNat * 4 - 20 : Int) = optlen := by omega
  set payload := th + 20 + optlen with payloadEq
  have ends : payload = th + (tcpDoff pkt th).toNat * 4 := by omega
  have area : optionArea pkt th = Memmove.slice pkt (th + 20) (payload - (th + 20)) := by
    rw [optionArea, ← optlenEq, payloadEq, Nat.add_sub_cancel_left]
  unfold tcpInPruneOptions
  simp only [asInt, Int.toNat_natCast]
  by_cases short : (optlen : Int) < reqlen
  · refine ⟨_, if_pos short, ?_⟩
    rintro n ok pos
    simp only [Except.ok.injEq] at ok
    omega
  rw [if_neg short]
  obtain ⟨r1, ran1, c1⟩ := @firstPass_run pkt (th + 20) optlen (by omega) (by omega)
  rw [Int.toNat_natCast, ← payloadEq,
    show optlen = payload - (th + 20) by omega] at c1
  obtain ⟨s2, passed, c2⟩ := secondPass_spec reqlen (tcpSyn pkt th) (by omega) c1
  obtain ⟨r, finished, answer⟩ := pruneFinish_spec af th (by omega) c2
  rw [Int.toNat_natCast] at ran1
  refine ⟨r, ?_, ?_⟩
  · simp only [ran1, Option.bind_eq_bind, Option.bind_some, ← payloadEq, passed, finished]
  rintro n ok pos
  obtain ⟨a, ca, freed, aligned, out⟩ := answer n ok pos
  have trimmed := ca.trimmed (by omega) ends lenField freed aligned
  rw [← out] at trimmed
  set kept := prunedOptions (tcpSyn pkt th) (toUnsigned reqlen)
    (Memmove.slice pkt (th + 20) (payload - (th + 20))) with keptEq
  have keptLength := c2.length_area (by omega)
  have paddedLength := ca.length_area (by omega)
  simp only [List.length_append, List.length_replicate] at paddedLength
  have areaLength : (Memmove.slice pkt (th + 20) (payload - (th + 20))).length = payload - (th + 20) :=
    Memmove.length_slice (by omega)
  -- the new option area is the kept options and the zero padding
  have padded : (kept.flatten ++ List.replicate ((payload - s2.slow) % 4) 0).length =
      (tcpDoff r.2 th).toNat * 4 - 20 := by
    have := trimmed.doff
    simp only [List.length_append, List.length_replicate]
    omega
  have newArea : optionArea r.2 th = kept.flatten ++ List.replicate ((payload - s2.slow) % 4) 0 := by
    rw [optionArea, Memmove.slice, trimmed.rest, ← padded, List.take_left]
  have options : tcpOptionList (optionArea r.2 th) = kept := by
    rw [newArea, tcpOptionList_flatten _ _ (prunedOptions_wf _ _ _)]
  refine ⟨aligned, trimmed.shorter, trimmed.doff, trimmed.ipLen, ?_, ?_, ?_, ?_, ?_⟩
  · have shift : th + (tcpDoff r.2 th).toNat * 4 =
        th + 20 + (kept.flatten ++ List.replicate ((payload - s2.slow) % 4) 0).length := by
      have := trimmed.doff
      have := ca.low
      rw [padded]
      omega
    rw [shift, ← List.drop_drop, trimmed.rest, List.drop_left]
  · rw [options, area]
    exact (prunedOptions_sublist _ _ _).trans List.filter_sublist
  · rw [options]
    exact prunedOptions_not_addr _ _ _
  · intro pre o post split kind within first
    rw [area] at split
    rw [options]
    exact prunedOptions_first_protected split kind within first
  · intro dropped
    rw [options, area] at dropped
    rw [options]
    rcases prunedOptions_reaches_or_protects dropped with reached | protects
    · -- `(unsigned)reqlen` is `reqlen` where it is not negative, as it is at most `optlen`
      have unsigned : 0 ≤ reqlen → (toUnsigned reqlen : Int) = reqlen := by
        intro nonneg
        have := Nibble.toNat_shiftRight_lt (pkt.getD (th + 12) 0)
        unfold toUnsigned
        unfold tcpDoff at optlenEq
        omega
      rw [← keptEq, areaLength] at reached
      left
      omega
    · exact .inr protects

theorem tcp_in_prune_options_keeps_protected_sample :
    5 ≤ (tcpDoff (List.replicate 32 0 ++ 0x70 :: List.replicate 17 0) 20).toNat ∧
      20 + (tcpDoff (List.replicate 32 0 ++ 0x70 :: List.replicate 17 0) 20).toNat * 4 ≤
        (List.replicate 32 0 ++ 0x70 :: List.replicate 17 0).length ∧ ipLenAt 2 + 2 ≤ 20 ∧
      ∃ r, tcpInPruneOptions 2 8 (List.replicate 32 0 ++ 0x70 :: List.replicate 17 0) 20 = some r ∧
        ∀ n, r.1 = .ok n → 0 < n →
          PrunedWell 2 8 (List.replicate 32 0 ++ 0x70 :: List.replicate 17 0) 20 n r.2 :=
  ⟨by decide, by decide, by decide,
    tcp_in_prune_options_keeps_protected (by decide) (by decide) (by decide)⟩

/-- With `reqlen = 5` on a segment that is not a SYN and whose options are an unprotected one
of 5 bytes and one of 3, the second pass drops the first and stops, and the alignment gives a
byte back: 4 bytes are freed, fewer than `reqlen`, and the unprotected option of kind 6 is
left. -/
theorem tcp_in_prune_options_frees_less_than_reqlen :
    tcpInPruneOptions 2 5 ([0x45, 0, 0, 50] ++ List.replicate 28 0 ++ [0x70, 0x10] ++
        List.replicate 6 0 ++ [5, 5, 1, 2, 3, 6, 3, 9, 0xAA, 0xBB]) 20 =
      some (.ok 4, [0x45, 0, 0, 46] ++ List.replicate 28 0 ++ [0x60, 0x10] ++ List.replicate 6 0 ++
        [6, 3, 9, 0, 0xAA, 0xBB]) ∧
    tcpOptionList (optionArea ([0x45, 0, 0, 46] ++ List.replicate 28 0 ++ [0x60, 0x10] ++
        List.replicate 6 0 ++ [6, 3, 9, 0, 0xAA, 0xBB]) 20) = [[6, 3, 9]] ∧
    firstKept (optionArea ([0x45, 0, 0, 50] ++ List.replicate 28 0 ++ [0x70, 0x10] ++
        List.replicate 6 0 ++ [5, 5, 1, 2, 3, 6, 3, 9, 0xAA, 0xBB]) 20) =
      [[5, 5, 1, 2, 3], [6, 3, 9]] ∧
    optKind [6, 3, 9] ∉ protectedKinds (tcpSyn ([0x45, 0, 0, 50] ++ List.replicate 28 0 ++
        [0x70, 0x10] ++ List.replicate 6 0 ++ [5, 5, 1, 2, 3, 6, 3, 9, 0xAA, 0xBB]) 20) ∧
    (4 : Int) < 5 := by
  refine ⟨by decide, ?_, ?_, by decide, by decide⟩
  · simp [optionArea, Memmove.slice, tcpDoff, tcpOptionList, tcpoptEol, tcpoptNop]
  · simp [firstKept, optionArea, Memmove.slice, tcpDoff, tcpOptionList, tcpoptEol, tcpoptNop,
      optKind, tcpOptAddr]

end Finish

end Dpvs.TcpPrune
