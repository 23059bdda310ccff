import Mathlib.Logic.Function.Basic
import Usbmuxd.Library.Interleaving

/-!
# The children of a device manager

A `USBDevice` lives as long as there is a `shared_ptr` to it. The muxer, the transfers
and the connections of the device have such pointers; the manager has not. It keeps bare
pointers in `_children`, which the destructor of the device takes out, and a thread that
reaps devices. To have a device reaped, one calls `kill`, which makes a `shared_ptr` from
the weak `_selfref` of the device and posts it to `_reapDevices`.

Whoever calls `kill` through a `shared_ptr` posts a pointer to a device that is alive. The
destructor of the manager calls it through `_children`. It holds `_childrenLck`, so that no
device in `_children` is gone, but a device may be in its destructor, before it gets to the
lock. Then `_selfref` has expired, and a null pointer is posted; the reaper calls
`deconstruct` on it.

Once the destructor of a device has begun, the manager must therefore not come to it in its
loop (`Usbmuxd.Children.KillsLiving`). The managers of the clients and of the wifi devices
are made in the same way.
-/

namespace Usbmuxd

open Interleaving

namespace Children

/-- What has become of a device. Its destructor has to wait for `_childrenLck`, and until then
the device can be found in `_children`. -/
inductive Life
  /-- It has not been made yet. -/
  | absent
  /-- It has been made. -/
  | alive
  /-- Its destructor has begun, and has not taken `_childrenLck` yet. -/
  | dying
  /-- It has taken itself out of `_children`. -/
  | gone
  deriving DecidableEq

end Children

/-- A device manager and its devices. Of each device there is the number of pointers to it,
besides those in the places that the manager knows. -/
structure Children where
  /-- How many `shared_ptr`s to a device there are, outside `_reapDevices` and the reaper. -/
  refs : ℕ → ℕ
  /-- What has become of a device. -/
  life : ℕ → Children.Life
  /-- `_children`. -/
  children : List ℕ
  /-- `_reapDevices`; a null pointer is `none`. -/
  reapDevices : List (Option ℕ)
  /-- The `dev` of `reaper_runloop`, unless it waits. -/
  reaper : Option (Option ℕ)
  /-- The devices that are left in the loop of `~USBDeviceManager`, while it has
  `_childrenLck`. -/
  killLoop : Option (List ℕ)

namespace Children

variable (s : Children) (c : ℕ)

/-- A manager without devices, whose threads have been started. -/
def init : Children where
  refs := fun _ => 0
  life := fun _ => .absent
  children := []
  reapDevices := []
  reaper := none
  killLoop := none

/-- The steps of a manager and its devices. Copying a pointer is one of them, which stands for
all that the rest of the program does with devices. -/
inductive Label
  /-- `make_shared`, and the assignment of `_selfref`. -/
  | make (c : ℕ)
  /-- `device_add` inserts the device into `_children`. -/
  | insert (c : ℕ)
  /-- A `shared_ptr` is copied. -/
  | copy (c : ℕ)
  /-- A `shared_ptr` is given up. -/
  | drop (c : ℕ)
  /-- `kill` is called through a `shared_ptr`. -/
  | kill (c : ℕ)
  /-- The reaper takes a request. -/
  | pop
  /-- The reaper has gone through `deconstruct`, and `dev` goes out of scope. -/
  | deconstructed
  /-- `~USBDevice` takes the device out of `_children`. -/
  | erase (c : ℕ)
  /-- `~USBDeviceManager` takes `_childrenLck`. -/
  | lock
  /-- `~USBDeviceManager` calls `kill` on one of the `_children`. -/
  | killChild (c : ℕ)
  /-- `~USBDeviceManager` gives `_childrenLck` back, and waits. -/
  | unlock

/-- The strong count of a device: the pointers that somebody has, and those that have been
posted. -/
def strong : ℕ :=
  s.refs c + s.reapDevices.count (some c) + if s.reaper = some (some c) then 1 else 0

/-- `_selfref.lock()`, which gives null when no pointer is left, even if the device is still in
`_children`. -/
def selfref : Option ℕ := if 0 < s.strong c then some c else none

/-- `USBDevice::kill`. What is posted is made from the weak pointer, and it is not tested. -/
def post : Children := { s with reapDevices := s.reapDevices ++ [s.selfref c] }

/-- The destructor begins, if no `shared_ptr` is left. Whoever gives up the last one runs it. -/
def settle : Children :=
  if s.strong c = 0 then { s with life := Function.update s.life c .dying } else s

/-- One step, of the manager, of a device or of anybody with a pointer. A step that has to wait
for a lock is `none`. -/
def step : Label → Option Children
  | .make c =>
    if s.life c = .absent then
      some { s with
        refs := Function.update s.refs c 1
        life := Function.update s.life c .alive }
    else none
  | .insert c =>
    if 0 < s.refs c ∧ c ∉ s.children ∧ s.killLoop = none then
      some { s with children := c :: s.children }
    else none
  | .copy c =>
    if 0 < s.strong c then some { s with refs := Function.update s.refs c (s.refs c + 1) }
    else none
  | .drop c =>
    if 0 < s.refs c then
      some (settle { s with refs := Function.update s.refs c (s.refs c - 1) } c)
    else none
  | .kill c => if 0 < s.refs c then some (s.post c) else none
  | .pop =>
    match s.reaper, s.reapDevices with
    | none, dev :: rest => some { s with reaper := some dev, reapDevices := rest }
    | _, _ => none
  | .deconstructed =>
    match s.reaper with
    | some (some c) => some (settle { s with reaper := none } c)
    -- `deconstruct` is called on a null pointer
    | some none => none
    | none => none
  | .erase c =>
    if s.life c = .dying ∧ s.killLoop = none then
      some { s with
        life := Function.update s.life c .gone
        children := s.children.erase c }
    else none
  | .lock =>
    if s.killLoop = none ∧ s.children ≠ [] then some { s with killLoop := some s.children }
    else none
  | .killChild c =>
    match s.killLoop with
    | some rest => if c ∈ rest then some { s.post c with killLoop := some (rest.erase c) } else none
    | none => none
  | .unlock =>
    match s.killLoop with
    | some [] => some { s with killLoop := none }
    | _ => none

end Children

/-- A device manager and the threads that its devices live on. -/
def childrenMachine : Machine Children Children.Label := ⟨Children.step⟩

namespace Children

/-! ### The reaper is given living devices -/

/-- **Only living devices are posted**: what is in `_reapDevices`, and what the reaper
works on, is no null pointer, and the destructor of the device has not begun. -/
def PostsLiving (s : Children) : Prop :=
  ∀ dev, dev ∈ s.reapDevices ∨ s.reaper = some dev → ∃ c, dev = some c ∧ s.life c = .alive

/-- **The manager only kills the living**: when it comes to a device in its loop, there is
still a `shared_ptr` to it. -/
def KillsLiving (s : Children) : Label → Prop
  | .killChild c => 0 < s.strong c
  | _ => True

instance (s : Children) : (l : Label) → Decidable (KillsLiving s l)
  | .killChild c => inferInstanceAs (Decidable (0 < s.strong c))
  | .make _ => isTrue trivial
  | .insert _ => isTrue trivial
  | .copy _ => isTrue trivial
  | .drop _ => isTrue trivial
  | .kill _ => isTrue trivial
  | .pop => isTrue trivial
  | .deconstructed => isTrue trivial
  | .erase _ => isTrue trivial
  | .lock => isTrue trivial
  | .unlock => isTrue trivial

variable {s s' : Children} {c c' : ℕ} {l : Label}

/-! ### Pointers -/

/-- The weak pointer of a device that is pointed to gives the device, and not null. -/
theorem selfref_of_pos (h : 0 < s.strong c) : s.selfref c = some c := if_pos h

/-- A pointer that has been posted counts: as long as it is in the queue, the device lives. -/
theorem strong_pos_of_mem (h : some c ∈ s.reapDevices) : 0 < s.strong c := by
  have hcount := List.count_pos_iff.mpr h
  rw [strong]
  omega

theorem strong_pos_of_reaper (h : s.reaper = some (some c)) : 0 < s.strong c := by
  rw [strong, if_pos h]
  omega

theorem strong_pos_of_refs (h : 0 < s.refs c) : 0 < s.strong c := by
  rw [strong]
  omega

/-- A post counts for the device itself, which was pointed to before. So nothing comes to life
by being posted. -/
theorem strong_post (h : 0 < (s.post c).strong c') : 0 < s.strong c' := by
  by_cases heq : s.selfref c = some c'
  · rw [selfref] at heq
    split at heq
    · rename_i hpos
      obtain rfl := Option.some.inj heq
      exact hpos
    · cases heq
  · have hother : [s.selfref c].count (some c') = 0 :=
      List.count_eq_zero.mpr (by simpa using Ne.symm heq)
    have hcount : (s.post c).reapDevices.count (some c') = s.reapDevices.count (some c') := by
      rw [post, List.count_append, hother, Nat.add_zero]
    rw [strong, hcount] at h
    exact h

/-! ### The invariant -/

/-- **The invariant**: a device that is pointed to is alive, and only such are posted. -/
structure Inv (s : Children) : Prop where
  /-- No destructor begins while there is a `shared_ptr`. -/
  owned : ∀ c, 0 < s.strong c → s.life c = .alive
  /-- No null pointer is posted. -/
  posted : none ∉ s.reapDevices
  /-- The reaper has none. -/
  served : s.reaper ≠ some none

theorem inv_init : Inv init where
  owned := fun c h => by simp [strong, init] at h
  posted := by simp [init]
  served := by simp [init]

theorem Inv.postsLiving (h : Inv s) : PostsLiving s := by
  rintro dev (hmem | hreaper)
  · cases dev with
    | none => exact absurd hmem h.posted
    | some c => exact ⟨c, rfl, h.owned c (strong_pos_of_mem hmem)⟩
  · cases dev with
    | none => exact absurd hreaper h.served
    | some c => exact ⟨c, rfl, h.owned c (strong_pos_of_reaper hreaper)⟩

/-- A pointer to a living device is posted, and no null pointer with it. -/
theorem Inv.post (h : Inv s) (hpos : 0 < s.strong c) : Inv (s.post c) where
  owned := fun c' hc' => h.owned c' (strong_post hc')
  posted := by
    simp only [Children.post, selfref_of_pos hpos, List.mem_append, List.mem_singleton, not_or]
    exact ⟨h.posted, by simp⟩
  served := h.served

/-- **When the last pointer is given up, the destructor begins.** -/
theorem Inv.settle (h : Inv s) : Inv (s.settle c) := by
  rw [Children.settle]
  split
  · rename_i hzero
    refine ⟨?_, h.posted, h.served⟩
    intro c' hc'
    have hne : c' ≠ c := by
      rintro rfl
      exact absurd (show 0 < s.strong c' from hc') (by omega)
    exact (Function.update_of_ne hne ..).trans (h.owned c' hc')
  · exact h

/-- Fewer pointers are no harm, as long as nothing has been posted for a device without one. -/
theorem Inv.of_le (h : Inv s) (hle : ∀ c, 0 < s'.strong c → 0 < s.strong c)
    (hlife : s'.life = s.life) (hposted : none ∉ s'.reapDevices)
    (hserved : s'.reaper ≠ some none) : Inv s' :=
  ⟨fun c hc => hlife ▸ h.owned c (hle c hc), hposted, hserved⟩

/-- **Every step keeps the invariant**, if the manager only kills the living. -/
theorem Inv.step (h : Inv s) (hok : KillsLiving s l) (hs : s.step l = some s') : Inv s' := by
  cases l with
  | make c =>
    obtain ⟨-, hs⟩ := Option.ite_none_right_eq_some.mp hs
    cases hs
    refine ⟨?_, h.posted, h.served⟩
    intro c' hc'
    rcases eq_or_ne c' c with rfl | hne
    · exact Function.update_self ..
    · refine (Function.update_of_ne hne ..).trans (h.owned c' ?_)
      simpa [strong, Function.update_of_ne hne] using hc'
  | insert c =>
    obtain ⟨-, hs⟩ := Option.ite_none_right_eq_some.mp hs
    cases hs
    exact h.of_le (fun _ hc => hc) rfl h.posted h.served
  | copy c =>
    obtain ⟨hpos, hs⟩ := Option.ite_none_right_eq_some.mp hs
    cases hs
    refine h.of_le ?_ rfl h.posted h.served
    intro c' hc'
    rcases eq_or_ne c' c with rfl | hne
    · exact hpos
    · simpa [strong, Function.update_of_ne hne] using hc'
  | drop c =>
    obtain ⟨hpos, hs⟩ := Option.ite_none_right_eq_some.mp hs
    cases hs
    refine Inv.settle (h.of_le ?_ rfl h.posted h.served)
    intro c' hc'
    rcases eq_or_ne c' c with rfl | hne
    · exact strong_pos_of_refs hpos
    · simpa [strong, Function.update_of_ne hne] using hc'
  | kill c =>
    obtain ⟨hpos, hs⟩ := Option.ite_none_right_eq_some.mp hs
    cases hs
    exact h.post (strong_pos_of_refs hpos)
  | pop =>
    simp only [Children.step] at hs
    split at hs
    · rename_i dev rest hreaper hqueue
      cases hs
      have hmem : dev ∈ s.reapDevices := by rw [hqueue]; exact List.mem_cons_self
      refine h.of_le ?_ rfl ?_ ?_
      · -- the pointer has only changed hands
        intro c hc
        simp only [strong, hqueue, hreaper, List.count_cons, Option.some.injEq, beq_iff_eq] at hc ⊢
        simpa [Nat.add_assoc] using hc
      · intro hnone
        exact h.posted (hqueue ▸ List.mem_cons_of_mem _ hnone)
      · intro hnull
        exact h.posted (Option.some.inj hnull ▸ hmem)
    · cases hs
  | deconstructed =>
    simp only [Children.step] at hs
    split at hs
    · rename_i c hreaper
      cases hs
      refine Inv.settle (h.of_le ?_ rfl h.posted (by simp))
      intro c' hc'
      simp only [strong, reduceCtorEq, if_false, Nat.add_zero] at hc'
      rw [strong]
      omega
    · cases hs
    · cases hs
  | erase c =>
    obtain ⟨⟨hdying, -⟩, hs⟩ := Option.ite_none_right_eq_some.mp hs
    cases hs
    refine ⟨?_, h.posted, h.served⟩
    intro c' hc'
    have hlife := h.owned c' hc'
    have hne : c' ≠ c := by
      rintro rfl
      exact absurd (hlife.symm.trans hdying) (by simp)
    exact (Function.update_of_ne hne ..).trans hlife
  | lock =>
    obtain ⟨-, hs⟩ := Option.ite_none_right_eq_some.mp hs
    cases hs
    exact h.of_le (fun _ hc => hc) rfl h.posted h.served
  | killChild c =>
    simp only [Children.step] at hs
    split at hs
    · obtain ⟨-, hs⟩ := Option.ite_none_right_eq_some.mp hs
      cases hs
      have hpost := h.post hok
      exact hpost.of_le (fun _ hc => hc) rfl hpost.posted hpost.served
    · cases hs
  | unlock =>
    simp only [Children.step] at hs
    split at hs
    · cases hs
      exact h.of_le (fun _ hc => hc) rfl h.posted h.served
    · cases hs

/-- **The reaper is given living devices only**, in every run in which the manager only kills
the living. -/
theorem posts_living_of_reaches (h : childrenMachine.Reaches KillsLiving init s) :
    PostsLiving s :=
  (h.invariant inv_init fun _ _ _ hinv hok hs => hinv.step hok hs).postsLiving

/-- The manager is destroyed while a device is alive, and the reaper is given the device. -/
theorem posts_living_of_reaches_device :
    ∃ s : Children, s.reaper = some (some 0) ∧ s.killLoop = some [] ∧ PostsLiving s := by
  obtain ⟨s, hr, hp⟩ := childrenMachine.exists_reaches_of_runOk KillsLiving init
    [.make 0, .insert 0, .lock, .killChild 0, .pop]
    (fun s => decide (s.reaper = some (some 0) ∧ s.killLoop = some [])) (by decide)
  obtain ⟨hreaper, hloop⟩ := of_decide_eq_true hp
  exact ⟨s, hreaper, hloop, posts_living_of_reaches hr⟩

/-- **A null pointer is reaped**: a device is reaped, its last pointer is given up by the
reaper, and before its destructor gets to `_childrenLck`, the manager is destroyed and comes
to it in its loop. -/
theorem null_is_reaped : ∃ s : Children, childrenMachine.Reachable init s ∧
    s.reaper = some none ∧ ¬PostsLiving s := by
  obtain ⟨s, hr, hp⟩ := childrenMachine.exists_reaches_of_runOk (fun _ _ => True) init
    [.make 0, .insert 0, .kill 0, .drop 0, .pop, .deconstructed, .lock, .killChild 0, .pop]
    (fun s => decide (s.reaper = some none)) (by decide)
  have hreaper : s.reaper = some none := of_decide_eq_true hp
  refine ⟨s, hr, hreaper, ?_⟩
  intro hall
  obtain ⟨c, hc, -⟩ := hall none (.inr hreaper)
  cases hc

end Children

end Usbmuxd
