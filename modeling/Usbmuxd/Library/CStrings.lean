import Mathlib.Data.List.TakeWhile
import Usbmuxd.Library.Memory

/-!
# Strings in memory

A C string is what stands in a buffer in front of the first zero. When a text without zeros
has been stored with a zero behind it, the text is what is read
(`CString.text_eq_of_read`), whatever the rest of the buffer holds.

Nothing is said of the size of the buffer but that the zero stands inside it. That is the point
where code goes wrong that copies a text of the full size and forgets about the zero: then there
may be none, and the text that is read goes on with what follows.
-/

namespace CString

open Memory

variable {β : Type} [OfNat β 0] [DecidableEq β] {mem : ℕ → β} {size : ℕ} {s : List β}

/-- The text in a buffer of a given size: everything up to the first zero, and the whole buffer
if there is none. -/
def text (mem : ℕ → β) (size : ℕ) : List β := (read mem 0 size).takeWhile (· ≠ 0)

/-- **What has been stored is what is read**, if the text and the zero behind it fit into the
buffer, and the text has no zero of its own. -/
theorem text_eq_of_read (h : read mem 0 (s.length + 1) = s ++ [0]) (hs : 0 ∉ s)
    (hsize : s.length < size) : text mem size = s := by
  obtain ⟨rest, rfl⟩ := Nat.exists_eq_add_of_lt hsize
  have hsplit : s.length + rest + 1 = s.length + 1 + rest := by omega
  have hpos : ∀ b ∈ s, decide (b ≠ 0) = true := by
    intro b hb
    refine decide_eq_true ?_
    rintro rfl
    exact hs hb
  rw [text, hsplit, read_add, h, List.append_assoc, List.takeWhile_append_of_pos hpos]
  simp

end CString
