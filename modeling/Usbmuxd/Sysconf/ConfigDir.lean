import Usbmuxd.Library.Directories

/-!
# Making the configuration directory

`mkdir_with_parents` makes a directory, and if that fails it calls itself for the parent. It
does not come back: once the parent has been made, nobody tries again to make the directory.
So it makes one directory at most, the topmost of those that are missing
(`Usbmuxd.Sysconf.mkdirWithParents_cases`), and that is enough if no more than one is missing
(`Usbmuxd.Sysconf.creates_path_iff`).

Here `mkdir` fails only when the name is taken or the parent is no directory; the source tells
the first from everything else.

The function is modelled on trees of directories, so that a path is more than a text: two paths
may lead to the same place, and a path may have separators too many or `..` in it. The recursion
goes by the text, from a path to its `dirname`, while what is missing is a question about
places. The two are brought together by looking at the names in a path: `dirname` takes the last
one off, and a call of `mkdir` fails as long as a name before the last is missing.
-/

namespace Usbmuxd

namespace Sysconf

open Directories

variable {β : Type}

/-- `mkdir_with_parents`, with a bound on the depth of the recursion. The function calls itself
for the parent, and does not try again afterwards. -/
def mkdirWithParents : ℕ → Tree Char β → List Char → Option (Tree Char β)
  | 0, _, _ => none
  | depth + 1, t, dir =>
      match t.mkdir '/' '.' dir with
      | .created t' => some t'
      -- `EEXIST`
      | .present => some t
      | .missing => mkdirWithParents depth t (dirname '/' '.' dir)

/-- There is a directory at this path, and all directories on the way to it exist. -/
def IsDir (t : Tree Char β) (dir : List Char) : Prop := (t.find '/' '.' dir).isSome

instance (t : Tree Char β) (dir : List Char) : Decidable (IsDir t dir) :=
  inferInstanceAs (Decidable (_ = true))

/-- What existed before is unchanged. Making a directory where something is fails, and leaves it
alone. -/
def Unchanged (t t' : Tree Char β) : Prop :=
  ∀ place e, t.entry place = some e → t'.entry place = some e

/-- **`mkdir_with_parents` creates the whole path**: it ends, the directory and all its parents
exist then, and what existed before is unchanged. -/
def CreatesPath (t : Tree Char β) (dir : List Char) : Prop :=
  ∃ depth t', mkdirWithParents depth t dir = some t' ∧
    (∀ k, IsDir t' ((dirname '/' '.')^[k] dir)) ∧ Unchanged t t'

/-- **No more than one directory is missing**: the directory exists, or it would exist if there
were one more. -/
def OneMissing (t : Tree Char β) (dir : List Char) : Prop :=
  IsDir t dir ∨ ∃ place name, ∃ h : t.Free place name, IsDir (t.create place name h) dir

variable {t t' : Tree Char β} {dir : List Char}

/-! ### What is made -/

/-- The bound makes no difference, once it is large enough for the recursion to end. -/
theorem mkdirWithParents_unique {depth depth' : ℕ} {t₁ t₂ : Tree Char β}
    (h₁ : mkdirWithParents depth t dir = some t₁) (h₂ : mkdirWithParents depth' t dir = some t₂) :
    t₁ = t₂ := by
  induction depth generalizing depth' dir with
  | zero => cases h₁
  | succ depth ih =>
    cases depth' with
    | zero => cases h₂
    | succ depth' =>
      rw [mkdirWithParents] at h₁ h₂
      cases hmkdir : t.mkdir '/' '.' dir with
      | created t' =>
        rw [hmkdir] at h₁ h₂
        exact Option.some.inj (h₁.symm.trans h₂)
      | present =>
        rw [hmkdir] at h₁ h₂
        exact Option.some.inj (h₁.symm.trans h₂)
      | missing =>
        rw [hmkdir] at h₁ h₂
        exact ih h₁ h₂

/-- **The topmost directory that is missing is made**, and no other. The calls further down have
failed before it existed, and they are not repeated. -/
theorem mkdirWithParents_cases (hne : dir ≠ []) :
    IsDir t dir ∧ mkdirWithParents 1 t dir = some t ∨
    ∃ before name after p, names '/' dir = before ++ name :: after ∧
      t.walk '.' (t.start '/' dir) before = some p ∧ t.enter '.' p name = none ∧
      ∃ depth, mkdirWithParents depth t dir =
        some (if h : t.Free p name then t.create p name h else t) := by
  rcases t.walk_cases '.' (t.start '/' dir) (names '/' dir) with
    hsome | ⟨before, name, after, p, hnames, hbefore, hnone⟩
  · left
    have hdir : IsDir t dir := by
      rw [IsDir, Tree.find, if_neg hne]
      exact hsome
    refine ⟨hdir, ?_⟩
    rw [mkdirWithParents, Tree.mkdir_of_find hdir]
  · right
    refine ⟨before, name, after, p, hnames, hbefore, hnone, ?_⟩
    -- the recursion goes up through the names behind the first that is missing
    induction after using List.reverseRecOn generalizing dir with
    | nil =>
      have hmkdir := Tree.mkdir_of_last hne hnames hbefore hnone
      refine ⟨1, ?_⟩
      split
      · next hfree =>
        rw [dif_pos hfree] at hmkdir
        rw [mkdirWithParents, hmkdir]
      · next hfree =>
        rw [dif_neg hfree] at hmkdir
        rw [mkdirWithParents, hmkdir]
    | append_singleton after x ih =>
      have hlast : (names '/' dir).dropLast = before ++ name :: after := by
        rw [hnames, ← List.cons_append, ← List.append_assoc, List.dropLast_concat]
      have hmissing : t.mkdir '/' '.' dir = .missing := by
        refine Tree.mkdir_of_missing ?_
        rw [hlast, Tree.walk_append, hbefore, Option.bind_some, ← List.singleton_append,
          Tree.walk_append, Tree.walk_singleton, hnone]
        rfl
      rcases dirname_cases '/' '.' dir with ⟨hnil, -⟩ | ⟨hne', hnames', hhead⟩
      · rw [hlast] at hnil
        simp at hnil
      · have hstart : t.start '/' (dirname '/' '.' dir) = t.start '/' dir := by
          rw [Tree.start, Tree.start, hhead]
        obtain ⟨depth, hdepth⟩ := ih hne' (hnames'.trans hlast) (hstart ▸ hbefore)
        exact ⟨depth + 1, by rw [mkdirWithParents, hmissing, hdepth]⟩

/-- **`mkdir_with_parents` ends**, and changes nothing that existed. The path gets shorter with
each call, down to a place that is always there. -/
theorem mkdirWithParents_ends (t : Tree Char β) (dir : List Char) :
    ∃ depth t', mkdirWithParents depth t dir = some t' ∧ Unchanged t t' := by
  by_cases hne : dir = []
  · subst hne
    exact ⟨2, t, rfl, fun _ _ h => h⟩
  · rcases mkdirWithParents_cases hne with ⟨-, hrun⟩ | ⟨-, name, -, p, -, -, -, depth, hrun⟩
    · exact ⟨1, t, hrun, fun _ _ h => h⟩
    · refine ⟨depth, _, hrun, ?_⟩
      intro place e hentry
      split
      · next hfree => exact Tree.entry_create hfree hentry
      · exact hentry

/-- **`mkdir_with_parents` creates the whole path** when no more than one directory is missing,
and only then. -/
theorem creates_path_iff (t : Tree Char β) (dir : List Char) :
    CreatesPath t dir ↔ OneMissing t dir := by
  by_cases hne : dir = []
  · -- the empty path leads nowhere
    subst hne
    constructor
    · rintro ⟨_, _, _, hall, _⟩
      exact absurd (hall 0) (by simp [IsDir, Tree.find])
    · rintro (h | ⟨_, _, _, h⟩)
      · exact absurd h (by simp [IsDir, Tree.find])
      · exact absurd h (by simp [IsDir, Tree.find])
  constructor
  · rintro ⟨depth, t', hrun, hall, -⟩
    rcases mkdirWithParents_cases hne with ⟨hdir, -⟩ | ⟨-, name, -, p, -, -, -, depth', hrun'⟩
    · exact Or.inl hdir
    · obtain rfl := mkdirWithParents_unique hrun hrun'
      have hdir := hall 0
      split at hdir
      · next hfree => exact Or.inr ⟨p, name, hfree, hdir⟩
      · exact Or.inl hdir
  · intro h
    rcases mkdirWithParents_cases hne with
      ⟨hdir, hrun⟩ | ⟨before, name, after, p, hnames, hbefore, hnone, depth, hrun⟩
    · exact ⟨1, t, hrun, Tree.find_dirname_iterate hdir, fun _ _ hentry => hentry⟩
    · rcases h with hdir | ⟨place, name', hfree, hdir⟩
      · obtain ⟨p', hp', hsome⟩ := Tree.enter_of_find hdir hnames
        rw [hbefore] at hp'
        cases hp'
        rw [hnone] at hsome
        cases hsome
      · obtain ⟨p', hp', hsome⟩ := Tree.enter_of_find hdir hnames
        have hbefore' : (t.create place name' hfree).walk '.'
            ((t.create place name' hfree).start '/' dir) before = some p :=
          Tree.walk_create hfree hbefore
        rw [hbefore'] at hp'
        cases hp'
        obtain ⟨rfl, rfl⟩ := Tree.eq_of_enter_create hfree hnone hsome
        rw [dif_pos hfree] at hrun
        exact ⟨depth, _, hrun, Tree.find_dirname_iterate hdir,
          fun _ _ hentry => Tree.entry_create hfree hentry⟩

/-- A tree with nothing but its root, as on a system that has just been set up. -/
def bareTree : Tree Char Unit where
  entry := fun place => if place = [] then some .directory else none
  cwd := []
  root := rfl
  closed := by
    intro place name h
    simp at h
  cwd_directory := rfl

theorem bareTree_free : bareTree.Free [] ['a'] := by decide

/-- **The directory is not made**: both `/a` and `/a/b` are missing, and only the first of them
is there afterwards. -/
theorem two_missing : ¬CreatesPath bareTree ['/', 'a', '/', 'b'] := by
  rintro ⟨depth, t', hrun, hall, -⟩
  have hmade : mkdirWithParents 2 bareTree ['/', 'a', '/', 'b'] =
      some (bareTree.create [] ['a'] bareTree_free) := by rfl
  obtain rfl := mkdirWithParents_unique hrun hmade
  exact absurd (hall 0) (by decide)

end Sysconf

end Usbmuxd
