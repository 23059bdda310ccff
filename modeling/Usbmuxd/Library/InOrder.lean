import Usbmuxd.Library.Chunks

/-!
# Passing chunks in order

Chunks of a stream are handled by threads that overtake each other, and a gate lets
them pass in order: the gate keeps a position in the stream, and a chunk passes when
the position is where it starts, upon which the position moves to its end.

The invariant of such a gate is `Chunks.InLine`: what has passed lies below the
position, and what has not passed starts at or above it. What makes the invariant
more than a picture is the empty chunk, which starts where the next one starts. A
chunk that is not empty may pass only when no empty chunk is left behind at its
start (`Chunks.InLine.pass`); a gate that does not see to this leaves the empty
chunk waiting for a position that is gone. A gate may also not mind some chunks at
all, such as the empty ones: these are neither kept in line nor asked about.
-/

namespace Chunks

variable {β : Type} {cs : List (List β)} {minds : List β → Prop} {passed : ℕ → Prop} {a n : ℕ}

/-- **The chunks are in line**: of those the gate minds, the ones that have passed
end at or below the position `a`, and the others start at or above it. -/
structure InLine (cs : List (List β)) (minds : List β → Prop) (passed : ℕ → Prop) (a : ℕ) :
    Prop where
  le_length : a ≤ cs.flatten.length
  passed_lt : ∀ i, passed i → i < cs.length
  before : ∀ i, passed i → minds (chunk cs i) → offset cs i + (chunk cs i).length ≤ a
  ahead : ∀ i, ¬passed i → minds (chunk cs i) → a ≤ offset cs i

namespace InLine

/-- Before anything has been sent, nothing can be out of line. -/
theorem nil (minds : List β → Prop) : InLine [] minds (fun _ => False) 0 where
  le_length := le_rfl
  passed_lt := fun _ h => h.elim
  before := fun _ h => h.elim
  ahead := fun _ _ _ => Nat.zero_le _

theorem congr {passed' : ℕ → Prop} (h : InLine cs minds passed a)
    (hiff : ∀ i, passed i ↔ passed' i) : InLine cs minds passed' a := by
  obtain rfl : passed = passed' := funext fun i => propext (hiff i)
  exact h

/-- One more chunk is sent, behind all that have been sent before. -/
theorem append (h : InLine cs minds passed a) (d : List β) :
    InLine (cs ++ [d]) minds passed a where
  le_length := by
    rw [List.flatten_append, List.length_append]
    exact Nat.le_add_right_of_le h.le_length
  passed_lt := by
    intro i hi
    rw [List.length_append]
    exact Nat.lt_add_right _ (h.passed_lt i hi)
  before := by
    intro i hi hm
    have hlt := h.passed_lt i hi
    rw [chunk_append_left hlt] at hm ⊢
    rw [offset_append_left hlt.le]
    exact h.before i hi hm
  ahead := by
    intro i hi hm
    -- the new chunk starts where the others end, which is ahead of all that has passed
    rcases Nat.lt_or_ge i cs.length with hlt | hge
    · rw [chunk_append_left hlt] at hm
      rw [offset_append_left hlt.le]
      exact h.ahead i hi hm
    · calc a ≤ cs.flatten.length := h.le_length
        _ = offset (cs ++ [d]) cs.length := by rw [offset_append_left le_rfl, offset_length]
        _ ≤ offset (cs ++ [d]) i := offset_mono hge

/-- A chunk the gate does not mind passes at any time, since it takes up no place in the
stream. -/
theorem skip (h : InLine cs minds passed a) (hn : n < cs.length) (hm : ¬minds (chunk cs n)) :
    InLine cs minds (fun i => passed i ∨ i = n) a where
  le_length := h.le_length
  passed_lt := by
    rintro i (hi | rfl)
    · exact h.passed_lt i hi
    · exact hn
  before := by
    rintro i (hi | rfl) hmi
    · exact h.before i hi hmi
    · exact absurd hmi hm
  ahead := fun i hi hmi => h.ahead i (not_or.mp hi).1 hmi

/-- **The chunk at the position passes**, provided it is empty or no empty chunk is
left behind. -/
theorem pass (h : InLine cs minds passed (offset cs n)) (hn : n < cs.length)
    (hclear : ∀ j < n, ¬passed j → minds (chunk cs j) → chunk cs n ≠ [] → chunk cs j ≠ []) :
    InLine cs minds (fun i => passed i ∨ i = n) (offset cs n + (chunk cs n).length) where
  le_length := by
    rw [← offset_succ, ← offset_length]
    exact offset_mono hn
  passed_lt := by
    rintro i (hi | rfl)
    · exact h.passed_lt i hi
    · exact hn
  before := by
    rintro i (hi | rfl) hm
    · exact (h.before i hi hm).trans (Nat.le_add_right _ _)
    · exact le_rfl
  ahead := by
    intro i hi hm
    obtain ⟨hnot, hne⟩ := not_or.mp hi
    rcases Nat.lt_or_gt_of_ne hne with hlt | hgt
    · -- a chunk before `n` that has not passed is empty, and then so is chunk `n`
      have hstart := h.ahead i hnot hm
      have hend : offset cs i + (chunk cs i).length ≤ offset cs n := offset_add_length_le hlt
      have hi0 : chunk cs i = [] := List.length_eq_zero_iff.mp (by omega)
      have hn0 : chunk cs n = [] := by
        by_contra hcon
        exact hclear i hlt hnot hm hcon hi0
      rw [hn0, List.length_nil]
      exact hstart
    · exact offset_add_length_le hgt

/-- **How far ahead of the position a chunk can start**, when what has not passed is
marked as pending and what the gate does not mind is empty. -/
theorem offset_le {marked : ℕ → Bool} (h : InLine cs minds passed a)
    (hmarked : ∀ j < n, ¬passed j → marked j = true)
    (hempty : ∀ d : List β, ¬minds d → d = []) : offset cs n ≤ a + pending cs marked n := by
  refine offset_le_add_pending ?_
  intro j hj
  by_cases hp : passed j
  · by_cases hm : minds (chunk cs j)
    · exact Or.inl (h.before j hp hm)
    · exact Or.inr (Or.inr (hempty _ hm))
  · exact Or.inr (Or.inl (hmarked j hj hp))

/-- **When everything has passed**, the position is the end of the stream. For this, the chunks
that the gate does not mind have to be empty. -/
theorem eq_length (h : InLine cs minds passed a) (hall : ∀ j < cs.length, passed j)
    (hempty : ∀ d : List β, ¬minds d → d = []) : a = cs.flatten.length := by
  refine le_antisymm h.le_length ?_
  have hle : offset cs cs.length ≤ a + pending cs (fun _ => false) cs.length :=
    h.offset_le (fun j hj hp => absurd (hall j hj) hp) hempty
  rwa [offset_length, pending_false, Nat.add_zero] at hle

end InLine

end Chunks
