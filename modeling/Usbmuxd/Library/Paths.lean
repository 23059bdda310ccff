import Mathlib.Data.List.Basic

/-!
# Paths

A path is a word, cut into names at each separator, and to *resolve* it is to walk from
directory to directory, name by name. The empty name and the name `.` stay where they
are, and `..` goes back up. A file or directory is known by the names that lead to it
from the root; there are no links here, so these names say which file it is.

What is put after a directory and a separator is walked from that directory on
(`Paths.resolve_join`), and if it is an ordinary name then it is a file in that directory
(`Paths.resolve_child`).

A path that begins with a separator is walked from the root, and any other from a current
directory, which is a parameter. Going up from the root stays there. To resolve a path does not
ask whether anything exists at the places it goes through; that is left to a model of the file
system. It follows that a name like `..` in the middle of a path can lead anywhere, while a name
without a separator that is neither `.` nor `..` cannot: this is the difference on which it
depends whether a path that is put together from a directory and a name stays in the directory.
-/

namespace Paths

variable {α : Type} [DecidableEq α] (sep dot : α)

/-- Walk on by one name: an empty one and a single dot lead nowhere, two dots lead back, and any
other name leads into that directory. -/
def walk (place : List (List α)) (name : List α) : List (List α) :=
  if name = [] ∨ name = [dot] then place
  else if name = [dot, dot] then place.dropLast
  else place ++ [name]

/-- **Where a path leads**: from the root if it starts with a separator, and from the
current directory `cwd` otherwise. -/
def resolve (cwd : List (List α)) (path : List α) : List (List α) :=
  (path.splitOn sep).foldl (walk dot) (if path.head? = some sep then [] else cwd)

/-- A name that leads to an entry of the directory: it is not empty, has no separator, and is
neither of the two special names. -/
def Ordinary (name : List α) : Prop :=
  sep ∉ name ∧ name ≠ [] ∧ name ≠ [dot] ∧ name ≠ [dot, dot]

instance (name : List α) : Decidable (Ordinary sep dot name) :=
  inferInstanceAs (Decidable (_ ∧ _ ∧ _ ∧ _))

variable {sep dot} {cwd : List (List α)} {dir name : List α}

theorem walk_of_ordinary (h : Ordinary sep dot name) (place : List (List α)) :
    walk dot place name = place ++ [name] := by
  obtain ⟨-, hempty, hdot, hdots⟩ := h
  rw [walk, if_neg (not_or.mpr ⟨hempty, hdot⟩), if_neg hdots]

/-- **A path that goes on from a directory** is walked from there. So the beginning of a path
can be dealt with by itself. -/
theorem resolve_join (cwd : List (List α)) (dir rest : List α) :
    resolve sep dot cwd (dir ++ sep :: rest) =
      (rest.splitOn sep).foldl (walk dot) (resolve sep dot cwd (dir ++ [sep])) := by
  have hhead : (dir ++ sep :: rest).head? = (dir ++ [sep]).head? := by cases dir <;> rfl
  rw [resolve, resolve, List.splitOn_append_cons_self, List.splitOn_append_cons_self,
    List.foldl_append, List.foldl_append, hhead, List.splitOn_nil]
  rfl

/-- **An ordinary name after a directory** is an entry of it. This is the form in which paths
are usually put together. -/
theorem resolve_child (cwd : List (List α)) (dir : List α) (h : Ordinary sep dot name) :
    resolve sep dot cwd (dir ++ sep :: name) = resolve sep dot cwd (dir ++ [sep]) ++ [name] := by
  rw [resolve_join, List.splitOn_eq_singleton h.1, List.foldl_cons, List.foldl_nil,
    walk_of_ordinary h]

/-- The part of a word after its last separator, where the name of the file is. -/
theorem exists_last_part (h : sep ∈ name) :
    ∃ front last, name = front ++ sep :: last ∧ sep ∉ last := by
  induction name with
  | nil => exact absurd h List.not_mem_nil
  | cons a rest ih =>
    by_cases hrest : sep ∈ rest
    · obtain ⟨front, last, rfl, hlast⟩ := ih hrest
      exact ⟨a :: front, last, rfl, hlast⟩
    · obtain rfl | hmem := List.mem_cons.mp h
      · exact ⟨[], rest, rfl, hrest⟩
      · exact absurd hmem hrest

end Paths
