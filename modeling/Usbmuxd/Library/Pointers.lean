import Mathlib.Data.List.Nodup
import Usbmuxd.Library.Ledger

/-!
# Pointers and what they own

A program knows of what it has in use by its pointers. There is a pointer for every variable of
every thread, and for every field that is a pointer; some of them are null. That the pointers
*own* what is in use (`Ledger.Owned`) says two things. What they point to is in use and nothing
else is, so that nothing is leaked; and no two of them point to the same, so that each may be
freed without a look at the others.

The rules are those of the assignments. A pointer that is null may be given what has been
acquired just now (`Ledger.Owned.acquire`), it may take over what another pointer has
(`Ledger.Owned.move`), and several pointers may be freed and be null then
(`Ledger.Owned.freeAll`).

The pointers are a family, indexed by whatever names the variables of a program, and a null
pointer is `none`. There is no heap behind it: what a pointer points to is a resource, which is
never used twice, so that a pointer which has been freed and is still there would be seen as a
second owner or as an owner of nothing. This is how a double free and a leak look here, and both
are excluded by the one invariant.
-/

namespace Ledger

variable {R P : Type}

/-- **The pointers own what is in use**: what has been acquired and not released has a pointer,
and only one. -/
structure Owned (L : Ledger R) (ptr : P → Option R) : Prop where
  /-- What is in use is what they point to. -/
  holds : L.Holds {r | ∃ p, ptr p = some r}
  /-- No two of them point to the same. -/
  single : ∀ p q r, ptr p = some r → ptr q = some r → p = q

namespace Owned

variable {L : Ledger R} {ptr ptr' : P → Option R} {p q : P} {r : R}

/-- All pointers are null, and nothing has been acquired. A function that begins like this owns
nothing. -/
theorem start : (empty : Ledger R).Owned fun _ : P => none where
  holds := holds_empty.congr (by simp)
  single := nofun

theorem congr (h : L.Owned ptr) (heq : ∀ p, ptr' p = ptr p) : L.Owned ptr' := by
  obtain rfl : ptr' = ptr := funext heq
  exact h

/-- What a pointer points to has been acquired, and not more than once, so that no other pointer
can have been given it then. -/
theorem acquired_eq (h : L.Owned ptr) (hp : ptr p = some r) : L.acquired r = 1 :=
  (h.holds.inUse r ⟨p, hp⟩).1

/-- **What nobody points to has been released** as often as it has been acquired. -/
theorem settled (h : L.Owned ptr) (hr : ∀ p, ptr p ≠ some r) : L.released r = L.acquired r :=
  h.holds.settled r fun ⟨p, hp⟩ => hr p hp

/-- Nothing is released that has not been acquired, and nothing is acquired twice. -/
theorem released_le (h : L.Owned ptr) (r : R) :
    L.released r ≤ L.acquired r ∧ L.acquired r ≤ 1 := by
  refine ⟨?_, h.holds.once r⟩
  by_cases hr : ∃ p, ptr p = some r
  · rw [(h.holds.inUse r hr).2]
    exact Nat.zero_le _
  · exact (h.holds.settled r hr).le

variable [DecidableEq P]

/-- **A null pointer is given what has just been acquired.** If it were not null, what it points
to would be lost. -/
theorem acquire [DecidableEq R] (h : L.Owned ptr) (hp : ptr p = none) (hr : L.acquired r = 0) :
    (L.acquire r).Owned (Function.update ptr p (some r)) where
  holds := by
    refine (h.holds.acquire hr).congr ?_
    ext r'
    simp only [Set.mem_insert_iff, Set.mem_ofPred_eq]
    constructor
    · rintro (rfl | ⟨q, hq⟩)
      · exact ⟨p, Function.update_self ..⟩
      · refine ⟨q, ?_⟩
        rcases eq_or_ne q p with rfl | hne
        · rw [hp] at hq
          cases hq
        · rw [Function.update_of_ne hne]
          exact hq
    · rintro ⟨q, hq⟩
      rcases eq_or_ne q p with rfl | hne
      · rw [Function.update_self] at hq
        exact Or.inl (Option.some.inj hq).symm
      · rw [Function.update_of_ne hne] at hq
        exact Or.inr ⟨q, hq⟩
  single := by
    have hnew : ∀ q, ptr q ≠ some r := by
      intro q hq
      rw [h.acquired_eq hq] at hr
      cases hr
    rintro q q' r' hq hq'
    rcases eq_or_ne q p with rfl | hne <;> rcases eq_or_ne q' q with rfl | hne'
    · rfl
    · rw [Function.update_self] at hq
      rw [Function.update_of_ne hne', ← hq] at hq'
      exact absurd hq' (hnew q')
    · rfl
    · rw [Function.update_of_ne hne] at hq
      rcases eq_or_ne q' p with rfl | hp'
      · rw [Function.update_self] at hq'
        rw [← hq'] at hq
        exact absurd hq (hnew q)
      · rw [Function.update_of_ne hp'] at hq'
        exact h.single q q' r' hq hq'

/-- **A null pointer takes over** what another one has, which is null then. -/
theorem move (h : L.Owned ptr) (hne : p ≠ q) (hq : ptr q = none) :
    L.Owned (Function.update (Function.update ptr q (ptr p)) p none) := by
  -- who has something now has had it before, or it was `p` that had it
  have hold : ∀ q' r, Function.update (Function.update ptr q (ptr p)) p none q' = some r →
      q' ≠ p ∧ ptr (if q' = q then p else q') = some r := by
    rintro q' r hq'
    rcases eq_or_ne q' p with rfl | hp'
    · rw [Function.update_self] at hq'
      cases hq'
    · rw [Function.update_of_ne hp'] at hq'
      refine ⟨hp', ?_⟩
      rcases eq_or_ne q' q with rfl | hne'
      · rw [Function.update_self] at hq'
        rwa [if_pos rfl]
      · rw [Function.update_of_ne hne'] at hq'
        rwa [if_neg hne']
  refine ⟨h.holds.congr ?_, ?_⟩
  · ext r
    simp only [Set.mem_ofPred_eq]
    constructor
    · rintro ⟨q', hq'⟩
      rcases eq_or_ne q' p with rfl | hp'
      · refine ⟨q, ?_⟩
        rw [Function.update_of_ne hne.symm, Function.update_self, hq']
      · have hother : q' ≠ q := by
          rintro rfl
          rw [hq] at hq'
          cases hq'
        exact ⟨q', by rwa [Function.update_of_ne hp', Function.update_of_ne hother]⟩
    · rintro ⟨q', hq'⟩
      exact ⟨_, (hold q' r hq').2⟩
  · rintro q₁ q₂ r h₁ h₂
    obtain ⟨hp₁, h₁⟩ := hold q₁ r h₁
    obtain ⟨hp₂, h₂⟩ := hold q₂ r h₂
    have heq := h.single _ _ r h₁ h₂
    grind

/-- **Several pointers are freed**, and are null then. None of them may occur twice, since it
would be freed twice. -/
theorem freeAll [DecidableEq R] (h : L.Owned ptr) {ps : List P} (hps : ps.Nodup) :
    (L.freeAll (ps.map ptr)).Owned fun p => if p ∈ ps then none else ptr p := by
  have hmem : ∀ r, some r ∈ ps.map ptr ↔ ∃ p ∈ ps, ptr p = some r := fun r => List.mem_map
  have hnodup : (ps.map ptr).reduceOption.Nodup := by
    rw [List.reduceOption, List.filterMap_map]
    refine List.Nodup.filterMap ?_ hps
    rintro p q r hp hq
    exact h.single p q r hp hq
  refine ⟨(h.holds.freeAll hnodup fun r hr => ?_).congr ?_, ?_⟩
  · obtain ⟨p, -, hp⟩ := (hmem r).mp hr
    exact ⟨p, hp⟩
  · ext r
    simp only [Set.mem_ofPred_eq, hmem]
    constructor
    · rintro ⟨⟨p, hp⟩, hnot⟩
      refine ⟨p, ?_⟩
      rw [if_neg fun hps => hnot ⟨p, hps, hp⟩]
      exact hp
    · rintro ⟨p, hp⟩
      split_ifs at hp with hin
      refine ⟨⟨p, hp⟩, ?_⟩
      rintro ⟨q, hqs, hq⟩
      exact hin (h.single q p r hq hp ▸ hqs)
  · rintro p q r hp hq
    split_ifs at hp hq
    exact h.single p q r hp hq

end Owned

end Ledger
