import Mathlib.Data.List.GetD
import Mathlib.Data.List.Range
import Mathlib.Logic.Function.Basic

/-!
# Byte memory

A buffer is a function from offsets to bytes. Reading a region back gives what was
written there (`Memory.read_write`), and a region can be read in two halves
(`Memory.read_add`), which is what consuming a buffer from the front needs. A record
that was written field by field is therefore read field by field
(`Memory.read_write_field`).

A store changes the region it names and nothing else, so a buffer that has been written to
many times is read in pieces: a piece that has not been written to since is what it was.
Whether an access stays inside the allocation is not the business of this file: a
buffer is as long as its accesses.

All lemmas about reading after writing are of one of two kinds: the region that is read lies in
what has been written, or it lies beside it. There is no lemma for a region that lies partly in
it. Where such a region occurs it is cut at the boundary first (`Memory.read_add`), and this is
also the way in which a parser is followed that takes one field after the other from the front.
-/

namespace Memory

variable {β : Type} [Inhabited β]

omit [Inhabited β] in
/-- The `n` elements from offset `o` on. There is always something there, as a memory has no
end. -/
def read (mem : ℕ → β) (o n : ℕ) : List β := (List.range n).map fun j => mem (o + j)

/-- The memory after `bs` has been stored at offset `o`. All other offsets keep what they
have. -/
def write (mem : ℕ → β) (o : ℕ) (bs : List β) : ℕ → β :=
  fun a => if o ≤ a ∧ a < o + bs.length then bs.getD (a - o) default else mem a

omit [Inhabited β] in
@[simp] theorem length_read (mem : ℕ → β) (o n : ℕ) : (read mem o n).length = n := by
  simp [read]

omit [Inhabited β] in
@[simp] theorem read_zero (mem : ℕ → β) (o : ℕ) : read mem o 0 = [] := rfl

omit [Inhabited β] in
theorem read_add (mem : ℕ → β) (o m n : ℕ) :
    read mem o (m + n) = read mem o m ++ read mem (o + m) n := by
  simp [read, List.range_add, Nat.add_assoc, Function.comp_def]

/-- **What was written is read back**, if the region is the same. -/
theorem read_write (mem : ℕ → β) (o : ℕ) (bs : List β) :
    read (write mem o bs) o bs.length = bs := by
  refine List.ext_getElem (by simp) ?_
  intro i hi hb
  simp only [read, write, List.getElem_map, List.getElem_range]
  rw [if_pos ⟨Nat.le_add_right _ _, by omega⟩, Nat.add_sub_cancel_left,
    List.getD_eq_getElem _ _ hb]

/-- **A field of what was written is read back**, which is how a header is taken apart that has
been put together from its fields. -/
theorem read_write_field (mem : ℕ → β) (o : ℕ) (before field after : List β) :
    read (write mem o (before ++ field ++ after)) (o + before.length) field.length = field := by
  have hall := read_write mem o (before ++ field ++ after)
  rw [List.length_append, List.length_append, read_add, read_add] at hall
  have hfront := (List.append_inj hall (by simp)).1
  exact (List.append_inj hfront (by simp)).2

omit [Inhabited β] in
/-- A region is the same in two memories that agree on it, whatever they have elsewhere. -/
theorem read_congr {mem mem' : ℕ → β} {o n : ℕ} (h : ∀ i < n, mem (o + i) = mem' (o + i)) :
    read mem o n = read mem' o n :=
  List.map_congr_left fun i hi => h i (List.mem_range.mp hi)

omit [Inhabited β] in
theorem eq_of_read_eq {mem mem' : ℕ → β} {o n i : ℕ} (h : read mem o n = read mem' o n)
    (hi : i < n) : mem (o + i) = mem' (o + i) :=
  List.map_inj_left.mp h i (List.mem_range.mpr hi)

/-- `memmove`: all is read before anything is written, so that the two regions may overlap. -/
def move (mem : ℕ → β) (dst src n : ℕ) : ℕ → β := write mem dst (read mem src n)

/-! ### Pieces that are not written to -/

omit [Inhabited β] in
/-- A region without the byte that is stored is not changed. This is the frame of a single
assignment. -/
theorem read_update {mem : ℕ → β} {o n a : ℕ} (h : ∀ i < n, o + i ≠ a) (b : β) :
    read (Function.update mem a b) o n = read mem o n :=
  read_congr fun i hi => Function.update_of_ne (h i hi) ..

omit [Inhabited β] in
theorem read_update_self (mem : ℕ → β) (a : ℕ) (b : β) :
    read (Function.update mem a b) a 1 = [b] := by
  simp [read]

/-- A region beside the one that is written is not changed, whether it is before it or behind
it. -/
theorem read_write_of_disjoint {mem : ℕ → β} {o n a : ℕ} {bs : List β}
    (h : ∀ i < n, o + i < a ∨ a + bs.length ≤ o + i) :
    read (write mem a bs) o n = read mem o n := by
  refine read_congr fun i hi => if_neg ?_
  have hdisjoint := h i hi
  omega

/-- **Storing a byte and then the others behind it** is storing them all. -/
theorem write_update (mem : ℕ → β) (o : ℕ) (b : β) (bs : List β) :
    write (Function.update mem o b) (o + 1) bs = write mem o (b :: bs) := by
  funext a
  unfold write
  rw [List.length_cons, Function.update_apply]
  rcases Nat.lt_trichotomy a o with hlt | rfl | hgt
  · rw [if_neg (by omega), if_neg (by omega), if_neg (by omega)]
  · rw [if_neg (by omega), if_pos rfl, if_pos (by omega), Nat.sub_self, List.getD_cons_zero]
  · have hsub : a - o = a - (o + 1) + 1 := by omega
    rw [if_neg (show a ≠ o by omega), hsub, List.getD_cons_succ]
    exact if_congr (by omega) rfl rfl

@[simp] theorem write_nil (mem : ℕ → β) (o : ℕ) : write mem o [] = mem := by
  funext a
  exact if_neg (by simp)

end Memory
