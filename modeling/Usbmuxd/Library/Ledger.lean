import Mathlib.Data.List.ReduceOption
import Mathlib.Data.Set.Insert
import Mathlib.Logic.Function.Basic

/-!
# Ledgers of resources

A program that acquires and releases resources is watched by a *ledger*, which counts for
each resource how often it has been acquired and how often it has been released. What the
program has in use is not a part of the ledger; that the two agree is a statement
(`Ledger.Holds`): what is in use has been acquired and not been released, and everything
else has been released as often as it has been acquired, which is once at most.

The rules follow the operations. A resource that has never been acquired may be
(`Ledger.Holds.acquire`), and one that is in use may be released
(`Ledger.Holds.release`). What is merely handed from one owner to another is not an
operation at all. A function with a cleanup keeps its resources in pointers, some of which
may be null, and frees them at its end; if no two of them point to the same resource, what
is left in use is what was not theirs (`Ledger.Holds.freeAll`).
-/

/-- How often each resource has been acquired and released. A resource that is allocated again
at the same address is another one. -/
structure Ledger (R : Type) where
  /-- How often it has been acquired. -/
  acquired : R → ℕ
  /-- How often it has been released. -/
  released : R → ℕ

namespace Ledger

variable {R : Type}

/-- Nothing has been acquired yet, nor released. -/
def empty : Ledger R := ⟨fun _ => 0, fun _ => 0⟩

section Operations

variable [DecidableEq R] (L : Ledger R)

/-- A resource is acquired. That this happens once at most is not built in, but has to be
shown. -/
def acquire (r : R) : Ledger R :=
  { L with acquired := Function.update L.acquired r (L.acquired r + 1) }

/-- A resource is released. It is counted also if it has not been acquired, which would be a
mistake of the program. -/
def release (r : R) : Ledger R :=
  { L with released := Function.update L.released r (L.released r + 1) }

/-- What a pointer points to is released, unless the pointer is null. This is what `free` and
its like do. -/
def free : Option R → Ledger R
  | none => L
  | some r => L.release r

/-- What some pointers point to is released, one after the other. Two pointers to the same
resource release it twice. -/
def freeAll (ptrs : List (Option R)) : Ledger R := ptrs.foldl free L

end Operations

/-- **What is in use**: it has been acquired and not been released, and everything else has
been released as often as it has been acquired. -/
structure Holds (L : Ledger R) (S : Set R) : Prop where
  once : ∀ r, L.acquired r ≤ 1
  inUse : ∀ r ∈ S, L.acquired r = 1 ∧ L.released r = 0
  settled : ∀ r, r ∉ S → L.released r = L.acquired r

variable {L : Ledger R} {S T : Set R} {r : R} {ptrs : List (Option R)}

theorem holds_empty : (empty : Ledger R).Holds ∅ where
  once := fun _ => Nat.zero_le _
  inUse := fun _ h => absurd h (Set.notMem_empty _)
  settled := fun _ _ => rfl

/-- Nothing is released more often than once. It follows from what is in use being known. -/
theorem Holds.released_le (h : L.Holds S) (r : R) : L.released r ≤ 1 := by
  by_cases hr : r ∈ S
  · rw [(h.inUse r hr).2]
    exact Nat.zero_le _
  · rw [h.settled r hr]
    exact h.once r

theorem Holds.congr (h : L.Holds S) (hset : S = T) : L.Holds T := hset ▸ h

theorem Holds.not_mem (h : L.Holds S) (hr : L.acquired r = 0) : r ∉ S := by
  intro hmem
  rw [(h.inUse r hmem).1] at hr
  cases hr

variable [DecidableEq R]

theorem acquire_self : (L.acquire r).acquired r = L.acquired r + 1 := Function.update_self ..

theorem acquire_of_ne {r' : R} (h : r' ≠ r) : (L.acquire r).acquired r' = L.acquired r' :=
  Function.update_of_ne h ..

theorem release_self : (L.release r).released r = L.released r + 1 := Function.update_self ..

theorem release_of_ne {r' : R} (h : r' ≠ r) : (L.release r).released r' = L.released r' :=
  Function.update_of_ne h ..

/-- **A resource is acquired** for the first time, and is in use with the others from then
on. -/
theorem Holds.acquire (h : L.Holds S) (hr : L.acquired r = 0) :
    (L.acquire r).Holds (insert r S) := by
  have hnot := h.not_mem hr
  refine ⟨?_, ?_, ?_⟩
  · intro r'
    rcases eq_or_ne r' r with rfl | hne
    · rw [acquire_self, hr]
    · rw [acquire_of_ne hne]
      exact h.once r'
  · rintro r' (rfl | hmem)
    · refine ⟨?_, (h.settled _ hnot).trans hr⟩
      rw [acquire_self, hr]
    · have hne : r' ≠ r := by
        rintro rfl
        exact hnot hmem
      rw [acquire_of_ne hne]
      exact h.inUse r' hmem
  · rintro r' hr'
    rw [Set.mem_insert_iff, not_or] at hr'
    rw [acquire_of_ne hr'.1]
    exact h.settled r' hr'.2

/-- **A resource in use is released.** Nothing else can be released without breaking the
books. -/
theorem Holds.release (h : L.Holds S) (hr : r ∈ S) : (L.release r).Holds (S \ {r}) := by
  refine ⟨h.once, ?_, ?_⟩
  · rintro r' ⟨hmem, hne⟩
    refine ⟨(h.inUse r' hmem).1, ?_⟩
    rw [release_of_ne hne]
    exact (h.inUse r' hmem).2
  · rintro r' hr'
    rcases eq_or_ne r' r with rfl | hne
    · rw [release_self, (h.inUse _ hr).2]
      exact (h.inUse _ hr).1.symm
    · rw [release_of_ne hne]
      exact h.settled r' fun hmem => hr' ⟨hmem, hne⟩

theorem freeAll_acquired (L : Ledger R) (ptrs : List (Option R)) :
    (L.freeAll ptrs).acquired = L.acquired := by
  induction ptrs generalizing L with
  | nil => rfl
  | cons p ptrs ih =>
    refine (ih _).trans ?_
    cases p <;> rfl

/-- **A cleanup**: the pointers point to different things, and what is left in use is what
they do not point to. -/
theorem Holds.freeAll (h : L.Holds S) (hnodup : ptrs.reduceOption.Nodup)
    (hmem : ∀ r, some r ∈ ptrs → r ∈ S) :
    (L.freeAll ptrs).Holds {r ∈ S | some r ∉ ptrs} := by
  induction ptrs generalizing L S with
  | nil =>
    have hall : {r ∈ S | some r ∉ ([] : List (Option R))} = S := by simp
    rw [hall]
    exact h
  | cons p ptrs ih =>
    cases p with
    | none =>
      have hrest := ih h hnodup fun r hr => hmem r (List.mem_cons_of_mem _ hr)
      have hall : {r ∈ S | some r ∉ none :: ptrs} = {r ∈ S | some r ∉ ptrs} := by simp
      rw [hall]
      exact hrest
    | some r =>
      rw [List.reduceOption_cons_of_some, List.nodup_cons, List.reduceOption_mem_iff] at hnodup
      have hfreed := h.release (hmem r List.mem_cons_self)
      have hrest := ih hfreed hnodup.2 fun r' hr' => by
        refine ⟨hmem r' (List.mem_cons_of_mem _ hr'), ?_⟩
        rintro rfl
        exact hnodup.1 hr'
      have hall : {r' ∈ S | some r' ∉ some r :: ptrs} = {r' ∈ S \ {r} | some r' ∉ ptrs} := by
        ext r'
        simp only [Set.mem_ofPred_eq, List.mem_cons, Option.some.injEq, not_or, Set.mem_sdiff,
          Set.mem_singleton_iff, and_assoc]
      rw [hall]
      exact hrest

end Ledger
