import Mathlib.Data.Finset.Basic

/-!
# Feeds

A *feed* tells a reader about a set it cannot see: a list of messages, each of which
adds an element or removes one. Folding it gives the reader's *view*
(`Feed.view`). Messages are not expected to make sense: an element may be added
twice, or removed without being there.

What a feed is worth depends on how it is written, and no more is said about that here: the
question is always whether the view of a reader is the set that the writer had in mind. As a
view is made by folding from the left, a writer that appends to a feed changes the view by one
message (`Feed.view_append`), which is what an invariant of the writer needs.
-/

namespace Feed

variable {α : Type} [DecidableEq α]

/-- A message of a feed. -/
inductive Update (α : Type)
  /-- The element is in the set now. -/
  | add (a : α)
  /-- The element is no longer in the set. -/
  | remove (a : α)
  deriving DecidableEq

/-- What one message makes of a view. Adding an element that is there changes nothing, nor does
removing one that is not. -/
def Update.apply (view : Finset α) : Update α → Finset α
  | .add a => insert a view
  | .remove a => view.erase a

/-- **The view of a reader** who has seen all of a feed, having begun with nothing. -/
def view (feed : List (Update α)) : Finset α := feed.foldl Update.apply ∅

@[simp] theorem view_nil : view ([] : List (Update α)) = ∅ := rfl

theorem view_append (feed : List (Update α)) (u : Update α) :
    view (feed ++ [u]) = u.apply (view feed) := by
  simp [view]

end Feed
