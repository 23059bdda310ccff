import Mathlib.Data.List.AList
import Mathlib.Data.List.Induction
import Mathlib.Data.List.Nodup

/-!
# Lists in which a key occurs once

A registry is kept as a list of entries, some of which have a *key* (`key a = some k`), and
it is searched for the first entry with a key. As long as a key occurs once, it does not
matter that it is the first: a search finds the only entry, and erasing the first entry with
a key leaves none (`Keyed.Single.eq_of_find?`, `Keyed.Single.ne_of_mem_eraseP`).

What keeps it so is said operation by operation. Erasing always does (`Keyed.Single.sublist`),
and so does replacing an entry by one with the same key (`Keyed.Single.replaceF`); an entry
that is inserted has to have a new key (`Keyed.single_insert_iff`). Where it is inserted does
not matter.

An *index* of the registry is a map from the keys to something that is known of the entries
(`Keyed.index`). It is filled entry by entry, so the last entry with a key counts; if a key
occurs once, it is the only one (`Keyed.Single.lookup_index_iff`).
-/

namespace Keyed

variable {α κ : Type} {key : α → Option κ} {l l' : List α} {a b : α} {k : κ}

/-- **Every key occurs once.** Entries without a key are not restricted. -/
def Single (key : α → Option κ) (l : List α) : Prop := (l.filterMap key).Nodup

instance [DecidableEq κ] : Decidable (Single key l) :=
  inferInstanceAs (Decidable (l.filterMap key).Nodup)

/-- An entry inserted at a place, which is the end if the list is too short. -/
def insertAt (place : ℕ) (a : α) (l : List α) : List α := l.take place ++ a :: l.drop place

theorem single_nil : Single key ([] : List α) := List.nodup_nil

theorem Single.sublist (h : Single key l) (hl : l'.Sublist l) : Single key l' :=
  List.Nodup.sublist (hl.filterMap key) h

theorem Single.eq_of_mem (h : Single key l) (ha : a ∈ l) (hb : b ∈ l) (hka : key a = some k)
    (hkb : key b = some k) : a = b := by
  induction l with
  | nil => cases ha
  | cons c l ih =>
    -- whatever has the key of the head is not behind it
    have hhead : ∀ {d}, d ∈ l → key c = some k → key d ≠ some k := by
      intro d hd hkc hkd
      rw [Single, List.filterMap_cons_some hkc, List.nodup_cons] at h
      exact h.1 (List.mem_filterMap.mpr ⟨d, hd, hkd⟩)
    rcases List.mem_cons.mp ha with rfl | ha'
    · rcases List.mem_cons.mp hb with rfl | hb'
      · rfl
      · exact absurd hkb (hhead hb' hka)
    · rcases List.mem_cons.mp hb with rfl | hb'
      · exact absurd hka (hhead ha' hkb)
      · exact ih (h.sublist (List.sublist_cons_self c l)) ha' hb'

/-- Wherever an entry is inserted, it could as well be the first, as far as keys are
concerned. -/
theorem insertAt_perm (place : ℕ) (a : α) (l : List α) : (insertAt place a l).Perm (a :: l) := by
  rw [insertAt]
  exact List.perm_middle.trans (by rw [List.take_append_drop])

theorem map_insertAt {β : Type} (f : α → β) (place : ℕ) (a : α) (l : List α) :
    (insertAt place a l).map f = insertAt place (f a) (l.map f) := by
  rw [insertAt, insertAt, List.map_append, List.map_cons, List.map_take, List.map_drop]

/-- An entry that is replaced could as well be erased and its replacement inserted. -/
theorem replaceF_perm {f : α → Option α} {p : α → Bool} (hp : ∀ c, p c = (f c).isSome)
    (ha : l.find? p = some a) (hf : f a = some b) : (l.replaceF f).Perm (b :: l.eraseP p) := by
  obtain ⟨hpa, l₁, l₂, rfl, hl₁⟩ := List.find?_eq_some_iff_append.mp ha
  have hnone : ∀ c ∈ l₁, f c = none := fun c hc => by simpa [hp] using hl₁ c hc
  have hreplace : (l₁ ++ a :: l₂).replaceF f = l₁ ++ b :: l₂ := by
    clear ha hl₁
    induction l₁ with
    | nil => exact List.replaceF_cons_of_some f hf
    | cons c l₁ ih =>
      rw [List.cons_append, List.replaceF_cons_of_none f (hnone c List.mem_cons_self),
        ih fun d hd => hnone d (List.mem_cons_of_mem c hd), List.cons_append]
  have herase : (l₁ ++ a :: l₂).eraseP p = l₁ ++ l₂ := by
    rw [List.eraseP_append_right _ fun c hc => by simp [hp, hnone c hc],
      List.eraseP_cons_of_pos hpa]
  rw [hreplace, herase]
  exact List.perm_middle

/-- A new entry in front has to have a new key. -/
theorem single_cons_iff : Single key (a :: l) ↔
    Single key l ∧ ∀ k, key a = some k → ∀ b ∈ l, key b ≠ some k := by
  rw [Single]
  cases hka : key a with
  | none =>
    rw [List.filterMap_cons_none hka]
    simp [Single]
  | some k =>
    rw [List.filterMap_cons_some hka, List.nodup_cons, Single, and_comm]
    simp

/-- **A new entry** has to have a new key, wherever it is inserted. It is also enough. -/
theorem single_insert_iff {place : ℕ} : Single key (insertAt place a l) ↔
    Single key l ∧ ∀ k, key a = some k → ∀ b ∈ l, key b ≠ some k := by
  rw [Single, ((insertAt_perm place a l).filterMap key).nodup_iff]
  exact single_cons_iff

/-- **An entry that is replaced** by one with the same key does no harm, and the place stays the
same. -/
theorem Single.replaceF (h : Single key l) {f : α → Option α}
    (hf : ∀ a b, f a = some b → key b = key a) : Single key (l.replaceF f) := by
  have hkeys : (l.replaceF f).filterMap key = l.filterMap key := by
    induction l with
    | nil => rfl
    | cons a l ih =>
      cases hfa : f a with
      | none =>
        rw [List.replaceF_cons_of_none f hfa, List.filterMap_cons, List.filterMap_cons,
          ih (h.sublist (List.sublist_cons_self a l))]
      | some b =>
        rw [List.replaceF_cons_of_some f hfa, List.filterMap_cons, List.filterMap_cons, hf a b hfa]
  rw [Single, hkeys]
  exact h

/-- **A search finds the only entry** with a key, although it stops at the first one. -/
theorem Single.eq_of_find? (h : Single key l) {p : α → Bool} (hp : ∀ c, p c = true ↔ key c = some k)
    (ha : l.find? p = some a) (hb : b ∈ l) (hkb : key b = some k) : b = a :=
  h.eq_of_mem hb (List.mem_of_find?_eq_some ha) hkb ((hp a).mp (List.find?_some ha))

/-- **Erasing the first entry with a key leaves none**, so that a search afterwards does not
find another one. -/
theorem Single.ne_of_mem_eraseP (h : Single key l) {p : α → Bool}
    (hp : ∀ c, p c = true ↔ key c = some k) (hb : b ∈ l.eraseP p) : key b ≠ some k := by
  intro hkb
  obtain ⟨c, l₁, l₂, -, hpc, rfl, herase⟩ :=
    List.exists_of_eraseP (List.mem_of_mem_eraseP hb) ((hp b).mpr hkb)
  rw [herase] at hb
  -- the entry that is erased has the same key
  have hkc := (hp c).mp hpc
  rw [Single, List.filterMap_append, List.filterMap_cons_some hkc, List.nodup_middle,
    List.nodup_cons, ← List.filterMap_append] at h
  exact h.1 (List.mem_filterMap.mpr ⟨b, hb, hkb⟩)

/-! ### Indices -/

section Index

variable {β : Type} [DecidableEq κ]

/-- **An index** of a list: for every key, the value of the last entry with it. -/
def index (key : α → Option κ) (val : α → β) (l : List α) : AList fun _ : κ => β :=
  l.foldl (fun m a => match key a with
    | none => m
    | some k => m.insert k (val a)) ∅

/-- **What is found in an index** is the value of an entry with the key, and nothing is found
only if there is none. -/
theorem lookup_index_cases (key : α → Option κ) (val : α → β) (l : List α) (k : κ) :
    (∃ a ∈ l, key a = some k ∧ (index key val l).lookup k = some (val a)) ∨
      ((∀ a ∈ l, key a ≠ some k) ∧ (index key val l).lookup k = none) := by
  induction l using List.reverseRecOn with
  | nil => exact Or.inr ⟨fun a ha => absurd ha List.not_mem_nil, rfl⟩
  | append_singleton l c ih =>
    have hlast : index key val (l ++ [c]) = match key c with
        | none => index key val l
        | some k => (index key val l).insert k (val c) := by
      rw [index, List.foldl_append]
      rfl
    rw [hlast]
    by_cases hkc : key c = some k
    · refine Or.inl ⟨c, by simp, hkc, ?_⟩
      rw [hkc]
      exact AList.lookup_insert _
    · -- the key is looked up in what was there before
      have hbefore : AList.lookup k (match key c with
          | none => index key val l
          | some k => (index key val l).insert k (val c)) = (index key val l).lookup k := by
        cases hk' : key c with
        | none => rfl
        | some k' =>
          refine AList.lookup_insert_ne ?_
          rintro rfl
          exact hkc hk'
      rw [hbefore]
      rcases ih with ⟨a, ha, hka, hval⟩ | ⟨hnone, hval⟩
      · exact Or.inl ⟨a, List.mem_append_left _ ha, hka, hval⟩
      · refine Or.inr ⟨fun a ha => ?_, hval⟩
        rcases List.mem_append.mp ha with ha | ha
        · exact hnone a ha
        · rwa [List.mem_singleton.mp ha]

/-- **An index finds the value of the only entry** with a key. Without the condition, it would
find that of the last one which has been put in. -/
theorem Single.lookup_index_iff (h : Single key l) {val : α → β} {b : β} :
    (index key val l).lookup k = some b ↔ ∃ a ∈ l, key a = some k ∧ val a = b := by
  rcases lookup_index_cases key val l k with ⟨a, ha, hka, hval⟩ | ⟨hnone, hval⟩
  · rw [hval]
    constructor
    · exact fun hb => ⟨a, ha, hka, Option.some.inj hb⟩
    · rintro ⟨a', ha', hka', rfl⟩
      rw [h.eq_of_mem ha ha' hka hka']
  · rw [hval]
    constructor
    · intro hcon
      cases hcon
    · rintro ⟨a, ha, hka, -⟩
      exact absurd hka (hnone a ha)

end Index

end Keyed
