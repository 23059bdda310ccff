import Mathlib.Order.Interval.Finset.Nat
import Usbmuxd.Muxer.Ids

/-!
# The scan for a fresh index

`add_device` looks for an index that no attached device has by going over `_devices` once
and counting `_newid` up at each device that has it; the counter that is reached in the end
is taken for free. It starts over only when the counter wraps.

One pass meets the indices from `_newid` on as far as they stand in the order of the pass
(`Usbmuxd.Muxer.sublist_of_scanPass`), and `_devices` is in the order of addresses. A device
whose index comes up only after the pass has gone by it is not noticed. So the scan always
ends (`Usbmuxd.Muxer.scanLoop_terminates`), and ends at a free index when the indices that it
has to get past are in order (`Usbmuxd.Muxer.ScanInOrder`), and not otherwise.

The counter keeps its value between two calls, so that IDs are not used again soon. This is also
why the mistake is rarely seen: as long as the counter has not wrapped, no index in use is above
it, and it has to get past one device at most. After the wrap it meets devices that have stayed,
and then it matters in which order they are. The order is that of their addresses, which is no
order that anybody has chosen.
-/

namespace Usbmuxd

namespace Muxer

variable {taken : List ℕ} {n k r : ℕ}

/-! ### One pass -/

/-- A pass that ends has met all indices that it has got past. -/
theorem sublist_of_scanPass (hn : n ≤ maxid) (h : scanPass taken n = some r) :
    n ≤ r ∧ r ≤ maxid ∧ (List.range' n (r - n)).Sublist taken := by
  induction taken generalizing n with
  | nil =>
    obtain rfl : n = r := by simpa [scanPass] using h
    refine ⟨Nat.le_refl n, hn, ?_⟩
    rw [Nat.sub_self]
    exact List.nil_sublist _
  | cons i rest ih =>
    rw [scanPass] at h
    split_ifs at h with hi hlast
    · obtain ⟨hle, hmax, hsub⟩ := ih (Nat.le_of_not_lt hlast) h
      refine ⟨by omega, hmax, ?_⟩
      subst hi
      rw [show r - i = r - (i + 1) + 1 by omega, List.range'_succ]
      exact List.cons_sublist_cons.mpr hsub
    · obtain ⟨hle, hmax, hsub⟩ := ih hn h
      exact ⟨hle, hmax, hsub.trans (List.sublist_cons_self i rest)⟩

/-- A pass that wraps has met all indices up to `MAXID`, one after the other. -/
theorem sublist_of_scanPass_none (hn : n ≤ maxid) (h : scanPass taken n = none) :
    (List.range' n (maxid + 1 - n)).Sublist taken := by
  induction taken generalizing n with
  | nil => cases h
  | cons i rest ih =>
    rw [scanPass] at h
    split_ifs at h with hi hlast
    · have hn' : n = maxid := by omega
      subst hi
      rw [hn', Nat.add_sub_cancel_left, List.range'_one]
      exact List.singleton_sublist.mpr List.mem_cons_self
    · have hsub := ih (Nat.le_of_not_lt hlast) h
      subst hi
      rw [show maxid + 1 - i = maxid + 1 - (i + 1) + 1 by omega, List.range'_succ]
      exact List.cons_sublist_cons.mpr hsub
    · exact (ih hn h).trans (List.sublist_cons_self i rest)

/-- A pass does not end at an index that it meets. It has moved on from there, at least by
one. -/
theorem lt_of_scanPass (hmem : n ∈ taken) (h : scanPass taken n = some r) : n < r := by
  induction taken with
  | nil => exact absurd hmem List.not_mem_nil
  | cons i rest ih =>
    rw [scanPass] at h
    split_ifs at h with hi hlast
    · exact (sublist_of_scanPass (Nat.le_of_not_lt hlast) h).1
    · exact ih ((List.mem_cons.mp hmem).resolve_left (Ne.symm hi)) h

/-- **A pass finds a free index when no index is above the counter**, in any order. -/
theorem scanPass_fresh (hn : n ≤ maxid) (hle : ∀ i ∈ taken, i ≤ n)
    (h : scanPass taken n = some r) : r ∉ taken := by
  intro hmem
  have hr := hle r hmem
  have hrn : n = r := Nat.le_antisymm (sublist_of_scanPass hn h).1 hr
  subst hrn
  exact absurd (lt_of_scanPass hmem h) (Nat.lt_irrefl n)

/-! ### The loop -/

/-- The loop around the passes, for so many of them. The source has no such bound. -/
def scanLoop (taken : List ℕ) : ℕ → ℕ → Option ℕ
  | 0, _ => none
  | passes + 1, newid =>
      match scanPass taken newid with
      | some newid => some newid
      | none => scanLoop taken passes 1

theorem scanLoop_of_some (h : scanPass taken n = some r) : scanLoop taken (k + 1) n = some r := by
  rw [scanLoop, h]

theorem scanLoop_of_none (h : scanPass taken n = none) :
    scanLoop taken (k + 1) n = scanLoop taken k 1 := by
  rw [scanLoop, h]

/-- `scanIds` is the loop: what two passes do not find is not found. -/
theorem scanIds_eq_some_iff :
    scanIds taken n = some r ↔ ∃ passes, scanLoop taken passes n = some r := by
  have hone : ∀ passes, scanLoop taken passes 1 = some r → scanPass taken 1 = some r := by
    intro passes hloop
    induction passes with
    | zero => cases hloop
    | succ passes ih =>
      cases hpass : scanPass taken 1 with
      | some r' => rwa [scanLoop_of_some hpass] at hloop
      | none =>
        rw [scanLoop_of_none hpass] at hloop
        rw [← hpass]
        exact ih hloop
  unfold scanIds
  cases hpass : scanPass taken n with
  | some r' =>
    constructor
    · intro h
      exact ⟨1, (scanLoop_of_some hpass).trans h⟩
    · rintro ⟨passes, hloop⟩
      cases passes with
      | zero => cases hloop
      | succ passes => rwa [scanLoop_of_some hpass] at hloop
  | none =>
    constructor
    · intro h
      exact ⟨2, (scanLoop_of_none hpass).trans (scanLoop_of_some h)⟩
    · rintro ⟨passes, hloop⟩
      cases passes with
      | zero => cases hloop
      | succ passes =>
        rw [scanLoop_of_none hpass] at hloop
        exact hone passes hloop

/-- Fewer indices than `MAXID` leave one free, whatever they are. -/
theorem exists_free (hcard : taken.toFinset.card < maxid) :
    ∃ i, 1 ≤ i ∧ i ≤ maxid ∧ i ∉ taken := by
  have hlt : taken.toFinset.card < (Finset.Icc 1 maxid).card := by
    rwa [Nat.card_Icc, Nat.add_sub_cancel]
  obtain ⟨i, hi, hnew⟩ := Finset.exists_mem_notMem_of_card_lt_card hlt
  obtain ⟨hpos, hle⟩ := Finset.mem_Icc.mp hi
  exact ⟨i, hpos, hle, fun hmem => hnew (List.mem_toFinset.mpr hmem)⟩

/-- A pass from `1` ends, as it cannot meet all indices if one is missing. -/
theorem exists_scanPass_one (hcard : taken.toFinset.card < maxid) :
    ∃ r, scanPass taken 1 = some r := by
  cases hpass : scanPass taken 1 with
  | some r => exact ⟨r, rfl⟩
  | none =>
    obtain ⟨i, hpos, hle, hnew⟩ := exists_free hcard
    have hsub := sublist_of_scanPass_none (by omega) hpass
    refine absurd (hsub.subset ?_) hnew
    rw [List.mem_range'_1]
    omega

/-- **The scan ends**, at an index that is in range. There are two passes at most. -/
theorem scanLoop_terminates (hcard : taken.toFinset.card < maxid) (hpos : 1 ≤ n)
    (hmax : n ≤ maxid) : ∃ passes r, scanLoop taken passes n = some r ∧ 1 ≤ r ∧ r ≤ maxid := by
  cases hpass : scanPass taken n with
  | some r =>
    obtain ⟨hle, hr, -⟩ := sublist_of_scanPass hmax hpass
    exact ⟨1, r, scanLoop_of_some hpass, by omega, hr⟩
  | none =>
    obtain ⟨r, hr⟩ := exists_scanPass_one hcard
    obtain ⟨hle, hrmax, -⟩ := sublist_of_scanPass (by omega) hr
    exact ⟨2, r, (scanLoop_of_none hpass).trans (scanLoop_of_some hr), hle, hrmax⟩

/-! ### When the index found is free -/

/-- **The attached indices from `n` on, up to the first that is free, stand in the order of
the pass.** -/
def InOrder (taken : List ℕ) (n : ℕ) : Prop :=
  ∀ k, n + k ≤ maxid + 1 → (∀ i < k, n + i ∈ taken) → (List.range' n k).Sublist taken

/-- The indices that the scan from `n` has to get past are in order: those from `n` on, and,
if there is no free one among these, those from `1` on. -/
def ScanInOrder (taken : List ℕ) (n : ℕ) : Prop :=
  InOrder taken n ∧ ((∀ i, n ≤ i → i ≤ maxid → i ∈ taken) → InOrder taken 1)

/-- **The scan finds a free index**, and it is one that no device has. -/
def ScanFindsFree (taken : List ℕ) (n : ℕ) : Prop :=
  ∃ passes r, scanLoop taken passes n = some r ∧ 1 ≤ r ∧ r ≤ maxid ∧ r ∉ taken

/-- What a pass has met, it has met in order, up to the index at which it ended. -/
theorem inOrder_of_sublist (hsub : (List.range' n (r - n)).Sublist taken) (hn : n ≤ r)
    (hr : r ∉ taken ∨ r = maxid + 1) : InOrder taken n := by
  intro k hk hall
  have hle : k ≤ r - n := by
    by_contra hlt
    rcases hr with hr | hr
    · have hmem := hall (r - n) (by omega)
      rw [Nat.add_sub_cancel' hn] at hmem
      exact hr hmem
    · omega
  have hpre : (List.range' n k).Sublist (List.range' n (r - n)) := by
    have happ := List.range'_append_1 (s := n) (m := k) (n := r - n - k)
    rw [Nat.add_sub_cancel' hle] at happ
    rw [← happ]
    exact List.sublist_append_left ..
  exact hpre.trans hsub

/-- A pass over indices that are in order ends at the first free one. -/
theorem InOrder.exists_scanPass (h : InOrder taken n) (hfree : ∃ i, n ≤ i ∧ i ≤ maxid ∧ i ∉ taken) :
    ∃ r, scanPass taken n = some r ∧ r ≤ maxid ∧ n ≤ r ∧ r ∉ taken := by
  classical
  obtain ⟨hle, hmax, hnew⟩ := Nat.find_spec hfree
  have hall : ∀ i < Nat.find hfree - n, n + i ∈ taken := by
    intro i hi
    by_contra hnot
    exact Nat.find_min hfree (m := n + i) (by omega) ⟨by omega, by omega, hnot⟩
  have hsub := h (Nat.find hfree - n) (by omega) hall
  exact ⟨_, scanPass_eq_some hnew hle hmax hsub, hmax, hle, hnew⟩

end Muxer

open Muxer

/-- **The scan finds a free index** when the indices it has to get past are in the order of
the pass, and only then. -/
theorem scan_finds_free_iff {T C : Type} {m : Muxer T C} (hcard : m.taken.toFinset.card < maxid)
    (hpos : 1 ≤ m.newid) (hmax : m.newid ≤ maxid) :
    ScanFindsFree m.taken m.newid ↔ ScanInOrder m.taken m.newid := by
  constructor
  · rintro ⟨passes, r, hloop, hr, hrmax, hnew⟩
    have hscan := scanIds_eq_some_iff.mpr ⟨passes, hloop⟩
    rw [scanIds] at hscan
    split at hscan
    · next r' hpass =>
      cases hscan
      obtain ⟨hle, -, hsub⟩ := sublist_of_scanPass hmax hpass
      exact ⟨inOrder_of_sublist hsub hle (Or.inl hnew), fun hall => absurd (hall r hle hrmax) hnew⟩
    · next hpass =>
      -- the counter has wrapped
      obtain ⟨hle, -, hsub⟩ := sublist_of_scanPass (by decide) hscan
      have hwrap := sublist_of_scanPass_none hmax hpass
      exact ⟨inOrder_of_sublist hwrap (by omega) (Or.inr rfl),
        fun _ => inOrder_of_sublist hsub hle (Or.inl hnew)⟩
  · rintro ⟨horder, hwrap⟩
    by_cases hfree : ∃ i, m.newid ≤ i ∧ i ≤ maxid ∧ i ∉ m.taken
    · obtain ⟨r, hpass, hr, hle, hnew⟩ := horder.exists_scanPass hfree
      exact ⟨1, r, scanLoop_of_some hpass, by omega, hr, hnew⟩
    · have hall : ∀ i, m.newid ≤ i → i ≤ maxid → i ∈ m.taken := by
        intro i hle hi
        by_contra hnew
        exact hfree ⟨i, hle, hi, hnew⟩
      have hnone : scanPass m.taken m.newid = none := by
        refine scanPass_eq_none hmax (horder _ (by omega) fun i hi => ?_)
        exact hall _ (Nat.le_add_right ..) (by omega)
      obtain ⟨r, hpass, hr, hle, hnew⟩ := (hwrap hall).exists_scanPass (exists_free hcard)
      exact ⟨2, r, (scanLoop_of_none hnone).trans (scanLoop_of_some hpass), hle, hr, hnew⟩

/-- Two devices, whose indices are in the order of their addresses or not. -/
def Muxer.twoDevices (i j newid : ℕ) : Muxer Empty Empty where
  devices := [0, 1]
  id := fun dev => if dev = 0 then 2 * i else 2 * j
  newid := newid
  isListening := fun _ => false
  inbox := fun _ => []
  thread := fun t => t.elim

/-- Two indices in order. The scan passes both of them over. -/
theorem scan_finds_free_ordered :
    ScanFindsFree (twoDevices 1 2 1).taken 1 ↔ ScanInOrder (twoDevices 1 2 1).taken 1 :=
  scan_finds_free_iff (by decide) (by decide) (by decide)

/-- **An index is found that is taken**: the device that has it came first. -/
theorem scan_finds_taken :
    let m := twoDevices 2 1 1
    m.taken.toFinset.card < maxid ∧ 1 ≤ m.newid ∧ m.newid ≤ maxid ∧
      ¬ScanFindsFree m.taken m.newid := by
  refine ⟨by decide, by decide, by decide, ?_⟩
  rintro ⟨passes, r, hloop, -, -, hnew⟩
  have hscan := scanIds_eq_some_iff.mpr ⟨passes, hloop⟩
  have htwo : scanIds (twoDevices 2 1 1).taken (twoDevices 2 1 1).newid = some 2 := by decide
  rw [htwo] at hscan
  cases hscan
  exact hnew (by decide)

end Usbmuxd
