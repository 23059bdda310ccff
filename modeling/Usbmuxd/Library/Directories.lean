import Mathlib.Data.List.DropRight
import Mathlib.Logic.Function.Iterate
import Usbmuxd.Library.Paths

/-!
# Directory trees

A tree says of each place, given by the names that lead to it from the root, whether there is
a directory, a file or nothing. What exists is in a directory, all the way up
(`Directories.Tree.closed`).

A path is walked through a tree name by name (`Directories.Tree.find`), where every name must be
that of a directory; so a path leads somewhere exactly if all its directories exist. The path
without its last name is its `Directories.dirname`, as the C library has it: separators at the
end do not count, and what has only one name is in the root or in the current directory.

`Directories.Tree.mkdir` makes the directory of a path, if its parent exists and nothing else
has the name. What can be said about trees that grow by a directory is that paths which lead
somewhere still do (`Directories.Tree.walk_create`), and that a path which leads somewhere only
now leads through the new directory (`Directories.Tree.eq_of_enter_create`).

There are no links and no permissions in these trees, and `..` leads from a directory to the one
it is in. With links, a path could lead somewhere through a directory that its names do not
mention, and the relation between a path and its `dirname`, on which everything here rests,
would not hold.
-/

namespace Directories

/-! ### The names of a path -/

section Names

variable {α : Type} [DecidableEq α] (sep dot : α)

/-- The names in a path. Two separators in a row count as one, and those at the beginning and at
the end have no name beside them. -/
def names (path : List α) : List (List α) := (path.splitOn sep).filter (· ≠ [])

/-- `dirname`: separators at the end are taken off, then the last name, then the separators in
front of it. If nothing is left, the path has only one name, and the result is the root or the
current directory. -/
def dirname (path : List α) : List α :=
  let trimmed := path.rdropWhile (· = sep)
  let front := trimmed.rdropWhile (· ≠ sep)
  if front = [] then if path.head? = some sep then [sep] else [dot]
  else if front.rdropWhile (· = sep) = [] then [sep]
  else front.rdropWhile (· = sep)

variable {sep dot} {path front last : List α}

theorem names_append_sep (path : List α) : names sep (path ++ [sep]) = names sep path := by
  rw [names, List.splitOn_append_cons_self, List.splitOn_nil, List.filter_append]
  simp [names]

/-- Separators at the end do not count: what has been taken off at the end has no names in
it. -/
theorem names_rdropWhile (path : List α) :
    names sep (path.rdropWhile (· = sep)) = names sep path := by
  induction path using List.reverseRecOn with
  | nil => rfl
  | append_singleton path a ih =>
    by_cases ha : a = sep
    · subst ha
      rw [List.rdropWhile_concat_pos _ _ _ (by simp), names_append_sep, ih]
    · rw [List.rdropWhile_concat_neg _ _ _ (by simp [ha])]

theorem names_of_not_mem (hsep : sep ∉ last) (hne : last ≠ []) : names sep last = [last] := by
  rw [names, List.splitOn_eq_singleton hsep, List.filter_singleton]
  simp [hne]

/-- A name after a separator. -/
theorem names_append_cons (hsep : sep ∉ last) (hne : last ≠ []) :
    names sep (front ++ sep :: last) = names sep front ++ [last] := by
  rw [names, List.splitOn_append_cons_self, List.filter_append]
  exact congrArg _ (names_of_not_mem hsep hne)

variable (sep dot) in
/-- **What `dirname` leaves**: all names but the last, or a place that is always there. This is
all that is used of the function; how it finds the last name is forgotten from here on. -/
theorem dirname_cases (path : List α) :
    (names sep path).dropLast = [] ∧
      (dirname sep dot path = [sep] ∨ dirname sep dot path = [dot]) ∨
    dirname sep dot path ≠ [] ∧ names sep (dirname sep dot path) = (names sep path).dropLast ∧
      (dirname sep dot path).head? = path.head? := by
  obtain ⟨trimmed, htrimmed⟩ : ∃ trimmed, trimmed = path.rdropWhile (· = sep) := ⟨_, rfl⟩
  obtain ⟨front, hfront⟩ : ∃ front, front = trimmed.rdropWhile (· ≠ sep) := ⟨_, rfl⟩
  have hnames : names sep path = names sep trimmed := by rw [htrimmed, names_rdropWhile]
  have hdirname : dirname sep dot path =
      if front = [] then if path.head? = some sep then [sep] else [dot]
      else if front.rdropWhile (· = sep) = [] then [sep] else front.rdropWhile (· = sep) := by
    rw [hfront, htrimmed, dirname]
  have hsplit : front ++ trimmed.rtakeWhile (· ≠ sep) = trimmed := by
    rw [hfront]
    exact List.rdropWhile_append_rtakeWhile
  have hsep : sep ∉ trimmed.rtakeWhile (· ≠ sep) := by
    intro hmem
    simpa using List.mem_rtakeWhile_imp hmem
  by_cases hempty : front = []
  · -- one name at most
    left
    rw [hdirname, if_pos hempty]
    refine ⟨?_, ?_⟩
    · rw [hempty, List.nil_append] at hsplit
      rw [hsplit] at hsep
      rw [hnames]
      by_cases hne : trimmed = []
      · simp [hne, names]
      · rw [names_of_not_mem hsep hne]
        rfl
    · split
      · exact Or.inl rfl
      · exact Or.inr rfl
  · obtain ⟨f, a, rfl⟩ := (List.eq_nil_or_concat' front).resolve_left hempty
    obtain rfl : a = sep := by
      have hlast := List.rdropWhile_last_not (fun b => decide (b ≠ sep)) trimmed
        (by rw [← hfront]; exact hempty)
      simp only [← hfront] at hlast
      simpa using hlast
    have hne : trimmed.rtakeWhile (· ≠ a) ≠ [] := by
      intro hnil
      rw [hnil, List.append_nil] at hsplit
      have hlast := List.rdropWhile_last_not (fun b => decide (b = a)) path
        (by rw [← htrimmed, ← hsplit]; simp)
      simp [← htrimmed, ← hsplit] at hlast
    have hlast : (names a path).dropLast = names a f := by
      rw [hnames, ← hsplit, List.append_assoc, List.singleton_append, names_append_cons hsep hne,
        List.dropLast_concat]
    have hrest : (f ++ [a]).rdropWhile (· = a) = f.rdropWhile (· = a) :=
      List.rdropWhile_concat_pos _ _ _ (by simp)
    rw [hdirname, if_neg hempty, hrest, hlast]
    by_cases hnil : f.rdropWhile (· = a) = []
    · left
      rw [if_pos hnil, ← names_rdropWhile, hnil]
      exact ⟨rfl, Or.inl rfl⟩
    · right
      rw [if_neg hnil]
      refine ⟨hnil, names_rdropWhile f, ?_⟩
      have hprefix : f.rdropWhile (· = a) <+: path := by
        refine (List.rdropWhile_prefix _ f).trans (List.IsPrefix.trans ?_
          (htrimmed ▸ List.rdropWhile_prefix _ path))
        rw [← hsplit, List.append_assoc]
        exact List.prefix_append ..
      obtain ⟨rest, rfl⟩ := hprefix
      exact (List.head?_append_of_ne_nil _ hnil).symm

end Names

/-! ### Trees -/

/-- What may be at a place. -/
inductive Entry (β : Type)
  /-- A directory. -/
  | directory
  /-- A file with this content. -/
  | file (content : β)

/-- A directory tree: what is at each place, such that what exists is in a directory. A place is
the list of the names that lead to it from the root, so that different paths may lead to one
place. -/
structure Tree (α β : Type) where
  /-- What is at each place. -/
  entry : List (List α) → Option (Entry β)
  /-- The current directory. -/
  cwd : List (List α)
  /-- The root is a directory. -/
  root : entry [] = some .directory
  /-- What exists is in a directory. -/
  closed : ∀ place name, entry (place ++ [name]) ≠ none → entry place = some .directory
  /-- The current directory exists. -/
  cwd_directory : entry cwd = some .directory

namespace Tree

section

variable {α β : Type} {t : Tree α β}

/-- There is a directory at a place. For whoever walks through the tree, a file is no better
than nothing. -/
def isDirectory (t : Tree α β) (place : List (List α)) : Bool :=
  match t.entry place with
  | some .directory => true
  | some (.file _) | none => false

theorem isDirectory_iff {place : List (List α)} :
    t.isDirectory place = true ↔ t.entry place = some .directory := by
  unfold isDirectory
  split
  · next hentry => simp [hentry]
  · next hentry => simp [hentry]
  · next hentry => simp [hentry]

/-- A directory with this name may be made in a place: it is that of a directory, and nothing
there has the name yet, not even a file. -/
def Free (t : Tree α β) (place : List (List α)) (name : List α) : Prop :=
  t.isDirectory place = true ∧ (t.entry (place ++ [name])).isNone = true

instance (place : List (List α)) (name : List α) : Decidable (t.Free place name) :=
  inferInstanceAs (Decidable (_ ∧ _))

theorem Free.entry {place : List (List α)} {name : List α} (h : t.Free place name) :
    t.entry (place ++ [name]) = none := Option.isNone_iff_eq_none.mp h.2

end

variable {α β : Type} [DecidableEq α] (sep dot : α) (t : Tree α β)

/-- The tree with one more directory. It is a tree again because the new directory is made in
one that exists, and because nothing can have been below it. -/
def create (place : List (List α)) (name : List α) (h : t.Free place name) : Tree α β where
  entry := fun p => if p = place ++ [name] then some .directory else t.entry p
  cwd := t.cwd
  root := by
    rw [if_neg (by simp)]
    exact t.root
  closed := by
    intro p n hp
    have hdir : t.entry p = some .directory := by
      split at hp
      · next heq =>
        obtain ⟨rfl, -⟩ := List.append_inj' heq rfl
        exact isDirectory_iff.mp h.1
      · exact t.closed p n hp
    split
    · rfl
    · exact hdir
  cwd_directory := by
    split
    · rfl
    · exact t.cwd_directory

/-- Walk on by one name. The name for the place itself and the name for its parent are no
entries of the tree; at the root the second leads nowhere else. -/
def enter (place : List (List α)) (name : List α) : Option (List (List α)) :=
  if name = [dot] then some place
  else if name = [dot, dot] then some place.dropLast
  else if t.isDirectory (place ++ [name]) then some (place ++ [name])
  else none

/-- Where a path starts: at the root if it begins with a separator, and in the current directory
otherwise. -/
def start (path : List α) : List (List α) := if path.head? = some sep then [] else t.cwd

/-- Walk through these names, one after the other, as long as each of them is that of a
directory. -/
def walk (place : List (List α)) (ns : List (List α)) : Option (List (List α)) :=
  ns.foldlM (t.enter dot) place

/-- **The directory that a path leads to**, if there is one. The empty path leads nowhere, as
the C library has it, although it has no name that could fail. -/
def find (path : List α) : Option (List (List α)) :=
  if path = [] then none else t.walk dot (t.start sep path) (names sep path)

/-- What comes of making a directory. -/
inductive Made (α β : Type)
  /-- It has been made. -/
  | created (t : Tree α β)
  /-- Something with this name is there already. -/
  | present
  /-- The parent is missing. -/
  | missing

/-- `mkdir`: the path without its last name has to lead to a directory, and the last name must
be free in it. It is the last name that counts here, and not the `dirname`, so that the two need
not agree on paths with separators at the end. -/
def mkdir (path : List α) : Made α β :=
  if path = [] then .missing
  else
    match (names sep path).getLast? with
    | none => .present
    | some name =>
      match t.walk dot (t.start sep path) (names sep path).dropLast with
      | none => .missing
      | some place =>
        if name = [dot] ∨ name = [dot, dot] then .present
        else if h : t.Free place name then .created (t.create place name h)
        else .present

/-! ### Walking through a tree -/

variable {sep dot t} {t' : Tree α β} {path : List α} {name : List α}
  {ns : List (List α)} {place place' : List (List α)}

@[simp] theorem walk_nil (place : List (List α)) : t.walk dot place [] = some place := rfl

theorem walk_append (place : List (List α)) (ns ns' : List (List α)) :
    t.walk dot place (ns ++ ns') = (t.walk dot place ns).bind fun p => t.walk dot p ns' := by
  rw [walk, List.foldlM_append]
  rfl

theorem walk_singleton (place : List (List α)) (name : List α) :
    t.walk dot place [name] = t.enter dot place name := by
  rw [walk, List.foldlM_cons]
  cases t.enter dot place name <;> rfl

/-- A path of names that leads somewhere does so up to each of them; this is the step from a
path to its `dirname`. -/
theorem walk_dropLast (h : (t.walk dot place ns).isSome) :
    (t.walk dot place ns.dropLast).isSome := by
  cases ns using List.reverseRecOn with
  | nil => exact h
  | append_singleton ns name =>
    rw [walk_append] at h
    rw [List.dropLast_concat]
    cases hw : t.walk dot place ns with
    | none =>
      rw [hw] at h
      cases h
    | some p => rfl

/-- What keeps from entering: only that there is no directory with the name. The two special
names can always be entered. -/
theorem enter_eq_none_iff : t.enter dot place name = none ↔
    name ≠ [dot] ∧ name ≠ [dot, dot] ∧ t.isDirectory (place ++ [name]) = false := by
  unfold enter
  split_ifs <;> simp_all

variable (dot t) in
/-- **Names lead somewhere, or there is a first one that does not.** The names before it lead to
a place where it is missing, and that is the one place where a directory has to be made. -/
theorem walk_cases (place : List (List α)) (ns : List (List α)) :
    (t.walk dot place ns).isSome ∨
    ∃ before name after p, ns = before ++ name :: after ∧ t.walk dot place before = some p ∧
      t.enter dot p name = none := by
  induction ns generalizing place with
  | nil => exact Or.inl rfl
  | cons name ns ih =>
    cases henter : t.enter dot place name with
    | none => exact Or.inr ⟨[], name, ns, place, rfl, rfl, henter⟩
    | some p =>
      have hcons : ∀ ms, t.walk dot place (name :: ms) = t.walk dot p ms := by
        intro ms
        rw [← List.singleton_append, walk_append, walk_singleton, henter]
        rfl
      rcases ih p with hsome | ⟨before, name', after, p', rfl, hbefore, hnone⟩
      · rw [hcons]
        exact Or.inl hsome
      · exact Or.inr ⟨name :: before, name', after, p', rfl, (hcons before).trans hbefore, hnone⟩

/-! ### One more directory -/

theorem isDirectory_create (h : t.Free place name) (p : List (List α)) :
    (t.create place name h).isDirectory p = true ↔
      p = place ++ [name] ∨ t.isDirectory p = true := by
  rw [isDirectory_iff, isDirectory_iff, create]
  dsimp only
  split
  · next heq => simp [heq]
  · next hne => simp [hne]

/-- **What existed before is unchanged.** -/
theorem entry_create (h : t.Free place name) {p : List (List α)} {e : Entry β}
    (hp : t.entry p = some e) : (t.create place name h).entry p = some e := by
  rw [create]
  dsimp only
  rw [if_neg]
  · exact hp
  · rintro rfl
    rw [h.entry] at hp
    cases hp

/-- What leads somewhere still does. A tree that grows by a directory loses no path. -/
theorem enter_create (h : t.Free place name) {p p' : List (List α)} {n : List α}
    (henter : t.enter dot p n = some p') : (t.create place name h).enter dot p n = some p' := by
  unfold enter at henter ⊢
  split_ifs at henter with hdot hdots hdir
  · rwa [if_pos hdot]
  · rwa [if_neg hdot, if_pos hdots]
  · rwa [if_neg hdot, if_neg hdots, if_pos ((isDirectory_create h _).mpr (Or.inr hdir))]

theorem walk_create (h : t.Free place name) {p p' : List (List α)} {ns : List (List α)}
    (hwalk : t.walk dot p ns = some p') : (t.create place name h).walk dot p ns = some p' := by
  induction ns generalizing p with
  | nil => exact hwalk
  | cons n ns ih =>
    rw [← List.singleton_append, walk_append, walk_singleton, Option.bind_eq_some_iff] at hwalk ⊢
    obtain ⟨q, hq, hrest⟩ := hwalk
    exact ⟨q, enter_create h hq, ih hrest⟩

/-- **What can be entered only now** is the new directory. Hence a path that leads somewhere
only now has to go through it. -/
theorem eq_of_enter_create (h : t.Free place name) {p : List (List α)} {n : List α}
    (hnone : t.enter dot p n = none)
    (hsome : ((t.create place name h).enter dot p n).isSome) : p = place ∧ n = name := by
  obtain ⟨hdot, hdots, hdir⟩ := enter_eq_none_iff.mp hnone
  have hnew : (t.create place name h).isDirectory (p ++ [n]) = true := by
    by_contra hnot
    rw [Bool.not_eq_true] at hnot
    rw [enter_eq_none_iff.mpr ⟨hdot, hdots, hnot⟩] at hsome
    cases hsome
  rcases (isDirectory_create h _).mp hnew with heq | hold
  · obtain ⟨hp, hn⟩ := List.append_inj' heq rfl
    exact ⟨hp, by simpa using hn⟩
  · rw [hdir] at hold
    cases hold

/-! ### Making a directory -/

/-- A directory that exists is not made. -/
theorem mkdir_of_find (h : (t.find sep dot path).isSome) : t.mkdir sep dot path = .present := by
  unfold find at h
  split_ifs at h with hempty
  · cases h
  · have hprefix := walk_dropLast h
    rw [mkdir, if_neg hempty]
    cases hns : names sep path using List.reverseRecOn with
    | nil => rfl
    | append_singleton ns name =>
      rw [hns] at h hprefix
      rw [walk_append] at h
      rw [List.dropLast_concat] at hprefix
      rw [List.getLast?_concat, List.dropLast_concat]
      cases hw : t.walk dot (t.start sep path) ns with
      | none =>
        rw [hw] at h
        cases h
      | some p =>
        rw [hw] at h
        dsimp only
        split_ifs with hdots hfree
        · rfl
        · -- the name can be entered, so it is not free
          rw [not_or] at hdots
          have hnone : t.enter dot p name = none := by
            refine enter_eq_none_iff.mpr ⟨hdots.1, hdots.2, ?_⟩
            rw [isDirectory, hfree.entry]
          have hsome : (t.walk dot p [name]).isSome := h
          rw [walk_singleton, hnone] at hsome
          cases hsome
        · rfl

/-- A directory whose parent exists is made, if nothing else has its name. -/
theorem mkdir_of_last {before : List (List α)} {p : List (List α)} (hempty : path ≠ [])
    (hnames : names sep path = before ++ [name])
    (hbefore : t.walk dot (t.start sep path) before = some p)
    (hnone : t.enter dot p name = none) :
    t.mkdir sep dot path =
      if h : t.Free p name then .created (t.create p name h) else .present := by
  obtain ⟨hdot, hdots, -⟩ := enter_eq_none_iff.mp hnone
  rw [mkdir, if_neg hempty, hnames, List.getLast?_concat, List.dropLast_concat, hbefore]
  dsimp only
  rw [if_neg (not_or.mpr ⟨hdot, hdots⟩)]

/-- A directory is not made when its parent is missing. -/
theorem mkdir_of_missing (h : t.walk dot (t.start sep path) (names sep path).dropLast = none) :
    t.mkdir sep dot path = .missing := by
  rw [mkdir]
  split_ifs
  · rfl
  · cases hns : names sep path using List.reverseRecOn with
    | nil =>
      rw [hns] at h
      cases h
    | append_singleton ns name =>
      rw [hns, List.dropLast_concat] at h
      rw [List.getLast?_concat, List.dropLast_concat, h]

/-! ### The directories of a path -/

/-- **Where a path leads, so does its `dirname`**, as all its directories are on the way. -/
theorem find_dirname (h : (t.find sep dot path).isSome) :
    (t.find sep dot (dirname sep dot path)).isSome := by
  have hplain : ∀ a : α, a = sep ∨ a = dot → (t.find sep dot [a]).isSome := by
    intro a ha
    rw [find, if_neg (List.cons_ne_nil _ _)]
    by_cases hsep : a = sep
    · have hnames : names sep [a] = [] := by
        subst hsep
        exact names_append_sep []
      rw [hnames]
      rfl
    · obtain rfl := ha.resolve_left hsep
      rw [names_of_not_mem (by simpa using Ne.symm hsep) (List.cons_ne_nil _ _), walk_singleton,
        enter, if_pos rfl]
      rfl
  rcases dirname_cases sep dot path with ⟨-, heq | heq⟩ | ⟨hne, hnames, hhead⟩
  · rw [heq]
    exact hplain _ (Or.inl rfl)
  · rw [heq]
    exact hplain _ (Or.inr rfl)
  · unfold find at h
    split_ifs at h with hempty
    · cases h
    · rw [find, if_neg hne, hnames, start, hhead]
      exact walk_dropLast h

/-- **All directories of a path that leads somewhere exist**, however often `dirname` is
applied. -/
theorem find_dirname_iterate (h : (t.find sep dot path).isSome) (k : ℕ) :
    (t.find sep dot ((dirname sep dot)^[k] path)).isSome := by
  induction k generalizing path with
  | zero => exact h
  | succ k ih => exact ih (find_dirname h)

/-- A path does not lead past a name that cannot be entered: wherever the names are split, the
walk gets to the split and one name further. -/
theorem enter_of_find {before after : List (List α)} (h : (t.find sep dot path).isSome)
    (hnames : names sep path = before ++ name :: after) :
    ∃ p, t.walk dot (t.start sep path) before = some p ∧ (t.enter dot p name).isSome := by
  unfold find at h
  split_ifs at h with hempty
  · cases h
  · rw [hnames, walk_append, ← List.singleton_append (l := after)] at h
    cases hw : t.walk dot (t.start sep path) before with
    | none =>
      rw [hw] at h
      cases h
    | some p =>
      rw [hw, Option.bind_some, walk_append, walk_singleton] at h
      refine ⟨p, rfl, ?_⟩
      cases henter : t.enter dot p name with
      | none =>
        rw [henter] at h
        cases h
      | some p' => rfl

end Tree

end Directories
