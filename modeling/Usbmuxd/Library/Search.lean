import Mathlib.Logic.Basic

/-!
# Searching along a successor

A loop that starts at some value and goes from each value to its successor until it
finds one that is free. What it finds is described here without the loop: the value
`b` is *first from* `a` when it is free and nothing between `a` and `b` is
(`Search.FirstFrom`). A loop is connected to this by induction on its turns, and what
is said of the value found does not depend on how the loop keeps count.

The successor need not be the next number: in a search that wraps around at the end of a range
it is not. Nor need there be a free value at all, and then no value is first from anywhere, and
the loop goes on forever. Both are the reason for a relation in the place of a function that
returns the smallest free value.
-/

namespace Search

variable {α : Type}

/-- **`b` is the first free value from `a` on.** There are as many uses of the second
constructor as there are turns of the loop. -/
inductive FirstFrom (next : α → α) (free : α → Prop) : α → α → Prop
  /-- A free value is the first from itself on. -/
  | here {a : α} : free a → FirstFrom next free a a
  /-- A value that is not free is passed over. -/
  | step {a b : α} : ¬free a → FirstFrom next free (next a) b → FirstFrom next free a b

variable {next : α → α} {free : α → Prop} {a b : α}

/-- The value found is free, however many values have been passed over on the way to it. -/
theorem FirstFrom.free_of (h : FirstFrom next free a b) : free b := by
  induction h with
  | here hfree => exact hfree
  | step _ _ ih => exact ih

end Search
