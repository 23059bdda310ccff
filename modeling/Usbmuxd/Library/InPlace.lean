import Mathlib.Data.List.Basic
import Mathlib.Data.List.Nodup

/-!
# Removing an element in place

`std::remove` takes an element out of a range without changing the length of the range. It
walks over the range and copies every element that stays to the place `result`, which is
behind the last one that it has copied. In the end `result` is where the range should be cut
off. What lies from there on is not what has been removed: it is what has been there all
along (`InPlace.remove_eq`).

So when a single element has been removed, the one that lies at `result` is the last element
of the old range (`InPlace.removed_eq_last`). It is the removed one only if that has been the
last.

The loop is modelled as it is, with its two positions and with the range that is written while
it is read. That it does the right thing rests on one observation: the place that is read is
never before the place that is written, and so it still has what was there at the beginning.
From this the range after every turn is known exactly (`InPlace.rangeAt`), also the part of it
that a caller should not look at. It is this part that matters where a caller does look at it.
-/

namespace InPlace

variable {α : Type} [DecidableEq α]

/-- The loop of `std::remove`: there are so many elements left, the next one is at `i`. -/
def removeLoop (v : α) : ℕ → ℕ → ℕ → List α → ℕ × List α
  | 0, _, result, l => (result, l)
  | left + 1, i, result, l =>
    match l[i]? with
    | none => (result, l)
    | some a =>
      if a = v then removeLoop v left (i + 1) result l
      else removeLoop v left (i + 1) (result + 1) (l.set result a)

/-- **`std::remove(begin, end, v)`**: where the range is to be cut off, and what it holds. -/
def remove (v : α) (l : List α) : ℕ × List α := removeLoop v l.length 0 0 l

variable {v a : α} {l : List α}

/-- What stays of the range: the elements that are not equal to `v`, in their order. -/
def kept (v : α) (l : List α) : List α := l.filter fun a => !decide (a = v)

theorem length_kept_le (v : α) (l : List α) : (kept v l).length ≤ l.length :=
  List.length_filter_le _ l

theorem kept_concat_self (v : α) (l : List α) : kept v (l ++ [v]) = kept v l := by simp [kept]

theorem kept_concat_of_ne (h : a ≠ v) (l : List α) : kept v (l ++ [a]) = kept v l ++ [a] := by
  simp [kept, h]

/-- The range while the loop is at `i`: what stays of the part that has been read, and
behind it what has been there all along. -/
def rangeAt (v : α) (l : List α) (i : ℕ) : List α :=
  kept v (l.take i) ++ l.drop (kept v (l.take i)).length

theorem length_kept_take_le (v : α) (l : List α) (i : ℕ) : (kept v (l.take i)).length ≤ i :=
  Nat.le_trans (length_kept_le v _) (List.length_take_le i l)

/-- The place that is read has not been written to, since reading is never behind writing. -/
theorem rangeAt_get (v : α) {i : ℕ} (hi : i < l.length) : (rangeAt v l i)[i]? = some l[i] := by
  have hle := length_kept_take_le v l i
  rw [rangeAt, List.getElem?_append_right hle, List.getElem?_drop, Nat.add_sub_cancel' hle,
    List.getElem?_eq_getElem hi]

theorem removeLoop_eq (left i : ℕ) (hleft : i + left = l.length) :
    removeLoop v left i (kept v (l.take i)).length (rangeAt v l i) =
      ((kept v l).length, kept v l ++ l.drop (kept v l).length) := by
  induction left generalizing i with
  | zero =>
    rw [removeLoop, rangeAt, List.take_of_length_le (by omega)]
  | succ left ih =>
    have hi : i < l.length := by omega
    have hle := length_kept_take_le v l i
    have htake : l.take (i + 1) = l.take i ++ [l[i]] := List.take_succ_eq_append_getElem hi
    have hnext := ih (i + 1) (by omega)
    simp only [removeLoop, rangeAt_get v hi]
    by_cases hv : l[i] = v
    · rw [htake, hv, kept_concat_self] at hnext
      rw [if_pos hv]
      rwa [rangeAt, htake, hv, kept_concat_self] at hnext
    · have hset : (rangeAt v l i).set (kept v (l.take i)).length l[i] = rangeAt v l (i + 1) := by
        rw [rangeAt, rangeAt, htake, kept_concat_of_ne hv,
          List.set_append_right _ _ (Nat.le_refl _), Nat.sub_self,
          List.drop_eq_getElem_cons (by omega), List.set_cons_zero]
        simp
      rw [if_neg hv, hset]
      rwa [htake, kept_concat_of_ne hv, List.length_append] at hnext

/-- **What `std::remove` leaves**: the elements that stay, and behind them what has been
there all along. -/
theorem remove_eq (v : α) (l : List α) :
    remove v l = ((kept v l).length, kept v l ++ l.drop (kept v l).length) := by
  have h := removeLoop_eq (v := v) (l := l) l.length 0 (Nat.zero_add _)
  rwa [rangeAt, List.take_zero] at h

/-- What is left when the range is cut off where the function says, is what should stay. -/
theorem take_remove (v : α) (l : List α) : (remove v l).2.take (remove v l).1 = kept v l := by
  simp [remove_eq]

theorem getElem?_remove (v : α) (l : List α) :
    (remove v l).2[(remove v l).1]? = l[(kept v l).length]? := by
  simp only [remove_eq]
  rw [List.getElem?_append_right (Nat.le_refl _), Nat.sub_self, List.getElem?_drop, Nat.add_zero]

theorem kept_of_not_mem (hv : v ∉ l) : kept v l = l := by
  refine List.filter_eq_self.mpr fun a ha => ?_
  have hne : a ≠ v := fun h => hv (h ▸ ha)
  simpa using hne

/-- Nothing is to be cut off when the element is not there, and the place that is returned is
the end of the range. -/
theorem removed_of_not_mem (hv : v ∉ l) : (remove v l).2[(remove v l).1]? = none := by
  rw [getElem?_remove, kept_of_not_mem hv, List.getElem?_eq_none (Nat.le_refl _)]

theorem kept_eq_erase (hl : l.Nodup) (v : α) : kept v l = l.erase v := by
  rw [hl.erase_eq_filter]
  exact List.filter_congr fun a _ => by simp [bne, beq_eq_decide]

/-- **What lies where the range is cut off** is its last element, if the one that is removed was
there once: nothing has been written to the last place. -/
theorem removed_eq_last (hl : l.Nodup) (hv : v ∈ l) :
    (remove v l).2[(remove v l).1]? = l.getLast? := by
  rw [getElem?_remove, kept_eq_erase hl, List.length_erase_of_mem hv, List.getLast?_eq_getElem?]

/-- The last element stays the last one until it is removed, whatever is removed before it. -/
theorem getLast?_erase (ha : l.getLast? = some a) (hne : v ≠ a) :
    (l.erase v).getLast? = some a := by
  obtain ⟨front, rfl⟩ := List.getLast?_eq_some_iff.mp ha
  by_cases hv : v ∈ front
  · rw [List.erase_append_left _ hv, List.getLast?_concat]
  · have hv' : v ∉ front ++ [a] := by simp [hv, hne]
    rw [List.erase_of_not_mem hv', List.getLast?_concat]

omit [DecidableEq α] in
theorem exists_getLast?_of_mem (hv : v ∈ l) : ∃ a, l.getLast? = some a :=
  ⟨_, List.getLast?_eq_some_getLast (List.ne_nil_of_mem hv)⟩

end InPlace
