import Mathlib.Algebra.BigOperators.Group.Finset.Basic
import Mathlib.Algebra.Order.BigOperators.Group.Finset
import Mathlib.Data.List.GetD

/-!
# A stream cut into chunks

A byte stream is transported in chunks, and whoever handles a chunk knows where
in the stream it starts. Here a stream is the concatenation of a list of chunks,
and `Chunks.offset` is that position. Chunks past the end of the list are empty,
so that no bound has to be carried along.

Two facts are what a transport rests on.

* **Handing on the next chunk extends the stream** (`Chunks.take_offset_add`): the
  stream up to the end of a chunk, or to any point inside it, is the stream up to
  its start followed by that much of the chunk.
* **The distance to the next chunk is bounded by what is pending**
  (`Chunks.offset_le_add_pending`): if every chunk below chunk `n` either ends
  before a position `a` or is still pending, then chunk `n` starts at most the
  length of the pending chunks beyond `a`.
-/

namespace Chunks

variable {β : Type} (cs : List (List β)) (n : ℕ)

/-- Chunk `n` of the stream, empty past the end, so that no index has to be checked. -/
def chunk : List β := cs.getD n []

/-- The position in the stream at which chunk `n` starts. An empty chunk starts where the next
one does. -/
def offset : ℕ := (cs.take n).flatten.length

theorem take_succ_flatten : (cs.take (n + 1)).flatten = (cs.take n).flatten ++ chunk cs n := by
  rw [List.take_add_one, List.flatten_append, chunk, List.getD_eq_getElem?_getD]
  cases cs[n]? <;> simp

theorem offset_succ : offset cs (n + 1) = offset cs n + (chunk cs n).length := by
  rw [offset, take_succ_flatten, List.length_append, offset]

theorem offset_length : offset cs cs.length = cs.flatten.length := by
  rw [offset, List.take_length]

variable {cs} {n}

theorem chunk_append_left {ds : List (List β)} (h : n < cs.length) :
    chunk (cs ++ ds) n = chunk cs n := by
  rw [chunk, chunk, List.getD_append _ _ _ _ h]

theorem chunk_append_singleton (d : List β) : chunk (cs ++ [d]) cs.length = d := by
  simp [chunk]

theorem offset_append_left {ds : List (List β)} (h : n ≤ cs.length) :
    offset (cs ++ ds) n = offset cs n := by
  rw [offset, List.take_append_of_le_length h, offset]

theorem offset_mono {m : ℕ} (h : m ≤ n) : offset cs m ≤ offset cs n := by
  induction h with
  | refl => exact le_rfl
  | step _ ih => exact ih.trans (by rw [offset_succ]; exact Nat.le_add_right _ _)

/-- A chunk ends before any later chunk starts, or just where it does. -/
theorem offset_add_length_le {m : ℕ} (h : m < n) :
    offset cs m + (chunk cs m).length ≤ offset cs n := by
  rw [← offset_succ]
  exact offset_mono h

theorem flatten_take_offset : cs.flatten.take (offset cs n) = (cs.take n).flatten := by
  conv_lhs => rw [← List.take_append_drop n cs, List.flatten_append]
  rw [List.take_append_of_le_length]
  · rw [List.take_append_drop, offset, List.take_length]
  · rw [List.take_append_drop, offset]

/-- **Handing on the next chunk, or part of it, extends the stream.** -/
theorem take_offset_add {k : ℕ} (hk : k ≤ (chunk cs n).length) :
    cs.flatten.take (offset cs n + k) = cs.flatten.take (offset cs n) ++ (chunk cs n).take k := by
  have hsucc : cs.flatten.take (offset cs n + k) =
      ((cs.take (n + 1)).flatten).take (offset cs n + k) := by
    rw [← flatten_take_offset, List.take_take, offset_succ, min_eq_left (by omega)]
  rw [hsucc, take_succ_flatten, flatten_take_offset, offset, List.take_length_add_append]

/-! ### What is pending -/

/-- The total length of the first `n` chunks that are marked. The marks may be changed at any
time. -/
def pending (cs : List (List β)) (marked : ℕ → Bool) (n : ℕ) : ℕ :=
  ∑ j ∈ Finset.range n, if marked j then (chunk cs j).length else 0

variable {marked : ℕ → Bool}

theorem pending_succ : pending cs marked (n + 1) =
    pending cs marked n + if marked n then (chunk cs n).length else 0 :=
  Finset.sum_range_succ ..

theorem pending_mono {m : ℕ} (h : m ≤ n) : pending cs marked m ≤ pending cs marked n :=
  Finset.sum_le_sum_of_subset (Finset.range_mono h)

theorem pending_false : pending cs (fun _ => false) n = 0 :=
  Finset.sum_eq_zero fun _ _ => rfl

/-- Marking fewer chunks leaves less pending, or the same if they are empty. -/
theorem pending_le_of_imp {marked' : ℕ → Bool} (h : ∀ j, marked j = true → marked' j = true) :
    pending cs marked n ≤ pending cs marked' n := by
  refine Finset.sum_le_sum ?_
  intro j _
  by_cases hj : marked j = true
  · rw [if_pos hj, if_pos (h j hj)]
  · rw [if_neg hj]
    exact Nat.zero_le _

/-- **What lies between a position and a later chunk is pending**, if every chunk
below that one either ends before the position, or is pending, or is empty. -/
theorem offset_le_add_pending {a : ℕ}
    (h : ∀ j < n, offset cs j + (chunk cs j).length ≤ a ∨ marked j = true ∨ chunk cs j = []) :
    offset cs n ≤ a + pending cs marked n := by
  induction n with
  | zero => exact Nat.zero_le _
  | succ n ih =>
    have hn := ih fun j hj => h j (Nat.lt_succ_of_lt hj)
    rw [offset_succ, pending_succ]
    rcases h n (Nat.lt_succ_self n) with hle | hm | he
    · omega
    · rw [if_pos hm]
      omega
    · rw [he, List.length_nil]
      omega

end Chunks
