import Mathlib.Data.List.Basic

/-!
# Moving cells within a buffer

A C function that edits a packet in place writes fields, fills ranges (`memset`) and moves
ranges (`memmove`), which copies as if through a temporary buffer and so is right for
overlapping ranges in either direction. On a buffer modelled as a list each is a splice of
`take` and `drop`: `write buf dst cells` puts `cells` at `dst`, `memset` writes a run of
one value and `memmove` writes the range it reads.

A C loop that copies one cell at a time, `for (i = 0; i < n; i++) *dst++ = *src++;`, is
`copyFwd`; while it copies downwards (`dst ≤ src`) it never reads a cell it has written, so
it is a `memmove` (`copyFwd_eq_memmove`).

What a write leaves is read back through `slice buf p n`, the `n` cells from `p`: below the
write the buffer is kept (`take_write_of_le`), past it too
(`slice_write_of_le`, `getD_write_of_le`), and read from below, a write appends its cells
to what it keeps (`slice_write`).
-/

namespace Memmove

variable {α : Type*}

/-- The cells of `cells` stored from `dst` on. -/
def write (buf : List α) (dst : Nat) (cells : List α) : List α :=
  buf.take dst ++ cells ++ buf.drop (dst + cells.length)

/-- `memset(buf + dst, v, n)`. -/
def memset (buf : List α) (dst n : Nat) (v : α) : List α := write buf dst (List.replicate n v)

/-- `memmove(buf + dst, buf + src, n)`. -/
def memmove (buf : List α) (dst src n : Nat) : List α := write buf dst ((buf.drop src).take n)

/-- The `n` cells from `p` on. -/
def slice (buf : List α) (p n : Nat) : List α := (buf.drop p).take n

/-- The loop `for (i = 0; i < n; i++) buf[dst + i] = buf[src + i];`. -/
def copyFwd [Inhabited α] : Nat → List α → Nat → Nat → List α
  | 0, buf, _, _ => buf
  | n + 1, buf, src, dst => copyFwd n (buf.set dst (buf.getD src default)) (src + 1) (dst + 1)

variable {buf : List α} {dst : Nat} {cells : List α}

theorem length_write (fits : dst + cells.length ≤ buf.length) :
    (write buf dst cells).length = buf.length := by
  simp only [write, List.length_append, List.length_take, List.length_drop]
  omega

/-- A write keeps the cells below it. -/
theorem take_write (fits : dst ≤ buf.length) : (write buf dst cells).take dst = buf.take dst := by
  rw [write, List.append_assoc, List.take_append_of_le_length (by simp; omega),
    List.take_take, Nat.min_self]

/-- From `dst` on, a write is its cells and then the cells past them. -/
theorem drop_write (fits : dst ≤ buf.length) :
    (write buf dst cells).drop dst = cells ++ buf.drop (dst + cells.length) := by
  rw [write, List.append_assoc, List.drop_append_of_le_length (by rw [List.length_take]; omega),
    List.drop_of_length_le (List.length_take_le _ _), List.nil_append]

/-- Past its cells, a write keeps the buffer. -/
theorem drop_write_of_le {k : Nat} (fits : dst ≤ buf.length) (past : dst + cells.length ≤ k) :
    (write buf dst cells).drop k = buf.drop k := by
  have split : k = dst + (cells.length + (k - dst - cells.length)) := by omega
  rw [split, ← List.drop_drop, drop_write fits, ← List.drop_drop,
    List.drop_append_of_le_length (Nat.le_refl _), List.drop_length, List.nil_append,
    List.drop_drop]
  congr 1
  omega

theorem length_memset {n : Nat} {v : α} (fits : dst + n ≤ buf.length) :
    (memset buf dst n v).length = buf.length :=
  length_write (by simpa using fits)

/-- A cell set, and the cells below it. -/
theorem take_succ_set {i : Nat} {a : α} (h : i < buf.length) :
    (buf.set i a).take (i + 1) = buf.take i ++ [a] := by
  rw [List.set_eq_take_append_cons_drop, if_pos h, List.take_append]
  simp [show min i buf.length = i by omega, List.take_take]

/-- Copying one cell at a time downwards is `memmove`. -/
theorem copyFwd_eq_memmove [Inhabited α] :
    ∀ (n : Nat) (buf : List α) (src dst : Nat), dst ≤ src → src + n ≤ buf.length →
      copyFwd n buf src dst = memmove buf dst src n
  | 0, buf, src, dst, _, _ => by
    simp [copyFwd, memmove, write]
  | n + 1, buf, src, dst, down, fits => by
    rw [copyFwd, copyFwd_eq_memmove n _ (src + 1) (dst + 1) (by omega)
      (by rw [List.length_set]; omega)]
    -- the first cell copied is `buf[src]`; the rest is the same move one cell on
    have head : buf.drop src = buf.getD src default :: buf.drop (src + 1) := by
      rw [List.drop_eq_getElem_cons (by omega)]
      simp [List.getD_eq_getElem?_getD, show src < buf.length by omega]
    have moved : ((buf.drop (src + 1)).take n).length = n := by
      simp only [List.length_take, List.length_drop]
      omega
    simp only [memmove, write,
      List.drop_set_of_lt (show dst < src + 1 by omega), head, List.take_succ_cons,
      take_succ_set (show dst < buf.length by omega), moved, List.length_cons]
    rw [List.drop_set_of_lt (by omega)]
    simp only [List.append_assoc, List.singleton_append]
    congr 3
    omega

theorem take_write_of_le {k : Nat} (le : k ≤ dst) (fits : dst ≤ buf.length) :
    (write buf dst cells).take k = buf.take k := by
  rw [← Nat.min_eq_left le, ← List.take_take, take_write fits, List.take_take]

/-- Read from below `dst`, a write is the cells it keeps and then the cells it writes. -/
theorem slice_write {p : Nat} (le : p ≤ dst) (fits : dst ≤ buf.length) :
    slice (write buf dst cells) p (dst - p + cells.length) = slice buf p (dst - p) ++ cells := by
  have kept : ((buf.take dst).drop p).length = dst - p := by simp; omega
  rw [slice, slice, write, List.append_assoc, List.drop_append_of_le_length (by simp; omega),
    ← List.append_assoc, List.take_append_of_le_length (by simp; omega),
    List.take_of_length_le (by simp; omega), List.drop_take]

/-- Setting a cell and writing past it is one write. -/
theorem write_set_succ {i : Nat} {a : α} (lt : i < buf.length) :
    write (buf.set i a) (i + 1) cells = write buf i (a :: cells) := by
  rw [write, write, take_succ_set lt, List.drop_set_of_lt (by omega), List.length_cons]
  simp only [List.append_assoc, List.cons_append, List.nil_append]
  rw [Nat.add_right_comm, Nat.add_assoc]

theorem length_slice {p n : Nat} (fits : p + n ≤ buf.length) : (slice buf p n).length = n := by
  simp [slice]
  omega

theorem getD_slice {p n i : Nat} {d : α} (lt : i < n) : (slice buf p n).getD i d = buf.getD (p + i) d := by
  simp [slice, List.getD_eq_getElem?_getD, lt, List.getElem?_drop]

/-- Lists that agree from `p` on agree at every index from `p` on. -/
theorem getD_of_drop_eq {a b : List α} {p : Nat} (same : a.drop p = b.drop p) (i : Nat) {d : α} :
    a.getD (p + i) d = b.getD (p + i) d := by
  simp only [List.getD_eq_getElem?_getD, ← List.getElem?_drop, same]

theorem getD_write_of_le {j : Nat} {d : α} (fits : dst ≤ buf.length) (past : dst + cells.length ≤ j) :
    (write buf dst cells).getD j d = buf.getD j d := by
  have kept : (write buf dst cells).drop j = buf.drop j := drop_write_of_le fits past
  simpa using getD_of_drop_eq kept 0 (d := d)

/-- A written cell reads back. -/
theorem getD_write_at {j : Nat} {d : α} (fits : dst ≤ buf.length) (lt : j < cells.length) :
    (write buf dst cells).getD (dst + j) d = cells.getD j d := by
  have front : (write buf dst cells).drop dst = cells ++ buf.drop (dst + cells.length) :=
    drop_write fits
  simp only [List.getD_eq_getElem?_getD, ← List.getElem?_drop, front, List.getElem?_append_left lt]

/-- Up to the end of its cells, a write is the cells it keeps and the cells it writes. -/
theorem take_write_add (fits : dst ≤ buf.length) :
    (write buf dst cells).take (dst + cells.length) = buf.take dst ++ cells := by
  have kept : (buf.take dst).length = dst := by simp; omega
  rw [write, List.append_assoc, List.take_append, kept, List.take_of_length_le (by omega),
    Nat.add_sub_cancel_left, List.take_left]

/-- Lists that agree below `k` agree at every index below `k`. -/
theorem getD_of_take_eq {a b : List α} {k j : Nat} (same : a.take k = b.take k) (lt : j < k) {d : α} :
    a.getD j d = b.getD j d := by
  have := congrArg (List.getD · j d) same
  simpa [List.getD_eq_getElem?_getD, List.getElem?_take, lt] using this

/-- A write leaves the cells past it. -/
theorem slice_write_of_le {p n : Nat} (fits : dst ≤ buf.length) (past : dst + cells.length ≤ p) :
    slice (write buf dst cells) p n = slice buf p n := by
  rw [slice, slice, drop_write_of_le fits past]

/-- The cells of a slice that splits, as two slices. -/
theorem slice_eq_append {p n : Nat} {a b : List α} (split : slice buf p n = a ++ b) :
    slice buf p a.length = a ∧ slice buf (p + a.length) (n - a.length) = b := by
  have whole := congrArg (List.take a.length) split
  have rest := congrArg (List.drop a.length) split
  rw [List.take_left] at whole
  rw [List.drop_left] at rest
  have short : a.length ≤ n := by
    have lengths := congrArg List.length split
    simp only [slice, List.length_take, List.length_append] at lengths
    omega
  refine ⟨?_, ?_⟩
  · rwa [slice, List.take_take, Nat.min_eq_left short] at whole
  · rw [← rest, slice, slice, List.drop_take, List.drop_drop]

end Memmove
