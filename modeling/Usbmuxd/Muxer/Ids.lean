import Usbmuxd.Muxer.Devices

/-!
# Device IDs

A device ID is an index, shared by the two connections of a device, and a bit that
tells the connections apart. `add_device` takes the index of the other connection if
there is one (`Usbmuxd.Muxer.lookupId`), and scans for a fresh one otherwise
(`Usbmuxd.Muxer.scanId`); the device is inserted later, and until then a second scan
does not see it.

A device *holds* its index from the moment the index is assigned to the moment the
device is erased, or not inserted after all (`Usbmuxd.Muxer.Holds`). The invariant is
that devices holding the same index have the same serial
(`Usbmuxd.Muxer.IndexInv.serial`). What keeps it is that the scan ends at an index
nobody else holds (`Usbmuxd.Muxer.FreshScan`), and for that it takes two things: that
the pass over `_devices` meets the indices from `_newid` on in their order, which only
fails once `_newid` has wrapped around, and that no other thread is about to insert a
device under the index found.
-/

namespace Usbmuxd

open Interleaving

namespace Muxer

variable {S T C : Type}

/-! ### The scan -/

/-- **The scan from `newid` ends at `r`**, which is free: the indices passed over stand
in the order of the pass, or up to `MAXID`, and from `1` on in a second pass. -/
def Finds (taken : List ℕ) (newid r : ℕ) : Prop :=
  r ∉ taken ∧ 1 ≤ r ∧ r ≤ maxid ∧
    (newid ≤ r ∧ (List.range' newid (r - newid)).Sublist taken ∨
      newid ≤ maxid ∧ (List.range' newid (maxid + 1 - newid)).Sublist taken ∧
        (List.range' 1 (r - 1)).Sublist taken)

variable {taken : List ℕ} {n k r i : ℕ}

/-- An index that is not next is passed over, and the indices still to come have to be met by
the rest. -/
theorem sublist_of_ne (hi : i ≠ n) (h : (List.range' n k).Sublist (i :: taken)) :
    (List.range' n k).Sublist taken := by
  rcases List.sublist_cons_iff.mp h with h | ⟨l, hl, -⟩
  · exact h
  · cases k with
    | zero => exact List.nil_sublist _
    | succ k =>
      rw [List.range'_succ, List.cons.injEq] at hl
      exact absurd hl.1.symm hi

/-- The next index moves the scan on, by one. -/
theorem sublist_of_next (h : (List.range' n (k + 1)).Sublist (n :: taken)) :
    (List.range' (n + 1) k).Sublist taken := by
  rw [List.range'_succ] at h
  exact List.cons_sublist_cons.mp h

/-- A pass that meets all indices below a free one ends there. The order in which the devices
are met decides which ones are met. -/
theorem scanPass_eq_some (hr : r ∉ taken) (hnr : n ≤ r) (hmax : r ≤ maxid)
    (h : (List.range' n (r - n)).Sublist taken) : scanPass taken n = some r := by
  induction taken generalizing n with
  | nil =>
    have hlen : r - n = 0 := by simpa using h
    rw [scanPass, show n = r by omega]
  | cons i rest ih =>
    rw [List.mem_cons, not_or] at hr
    rw [scanPass]
    by_cases hi : i = n
    · subst hi
      have hlt : i < r := lt_of_le_of_ne hnr (Ne.symm hr.1)
      rw [if_pos rfl, if_neg (by omega)]
      refine ih hr.2 hlt (sublist_of_next ?_)
      rwa [show r - (i + 1) + 1 = r - i by omega]
    · rw [if_neg hi]
      exact ih hr.2 hnr (sublist_of_ne hi h)

/-- A pass that meets all indices up to `MAXID` gets past it, and another one begins at 1. -/
theorem scanPass_eq_none (hmax : n ≤ maxid)
    (h : (List.range' n (maxid + 1 - n)).Sublist taken) : scanPass taken n = none := by
  induction taken generalizing n with
  | nil =>
    have hlen : maxid + 1 - n = 0 := by simpa using h
    omega
  | cons i rest ih =>
    rw [scanPass]
    by_cases hi : i = n
    · subst hi
      rw [if_pos rfl]
      by_cases hlast : i + 1 > maxid
      · rw [if_pos hlast]
      · rw [if_neg hlast]
        refine ih (by omega) (sublist_of_next ?_)
        rwa [show maxid + 1 - (i + 1) + 1 = maxid + 1 - i by omega]
    · rw [if_neg hi]
      exact ih hmax (sublist_of_ne hi h)

/-- **The scan ends where it is said to end.** The relation says it without counting passes. -/
theorem Finds.scanIds_eq (h : Finds taken n r) : scanIds taken n = some r := by
  obtain ⟨hr, hpos, hmax, ⟨hnr, hpath⟩ | ⟨hn, hwrap, hpath⟩⟩ := h
  · rw [scanIds, scanPass_eq_some hr hnr hmax hpath]
  · rw [scanIds, scanPass_eq_none hn hwrap]
    exact scanPass_eq_some hr hpos hmax hpath

/-- **The scan finds a free index as long as `_newid` has not wrapped around**: then it is
at least as large as any index taken. -/
theorem exists_finds (hpos : 1 ≤ n) (hmax : n < maxid) (hle : ∀ i ∈ taken, i ≤ n) :
    ∃ r, Finds taken n r := by
  by_cases hn : n ∈ taken
  · refine ⟨n + 1, fun h => ?_, by omega, hmax, Or.inl ⟨Nat.le_succ n, ?_⟩⟩
    · exact absurd (hle _ h) (by omega)
    · rw [Nat.add_sub_cancel_left, List.range'_one]
      exact List.singleton_sublist.mpr hn
  · refine ⟨n, hn, hpos, hmax.le, Or.inl ⟨Nat.le_refl n, ?_⟩⟩
    rw [Nat.sub_self]
    exact List.nil_sublist _

/-! ### Indices -/

/-- The index in an ID. Devices with the same serial share it. -/
def index (id : ℕ) : ℕ := id >>> 1

theorem index_eq (id : ℕ) : index id = id / 2 := Nat.shiftRight_eq_div_pow id 1

/-- The bit of an ID that tells the connections apart, which is the lowest. -/
def connBit : MuxConnType → ℕ
  | .muxconnUsb => 0
  | .muxconnWifi => 1

theorem fixupId_eq (b : ℕ) (ty : MuxConnType) : fixupId (2 * b) ty = 2 * b + connBit ty := by
  cases ty with
  | muxconnUsb => exact Nat.or_zero _
  | muxconnWifi => exact (Nat.two_pow_add_eq_or_of_lt (i := 1) (b := 1) (by decide) b).symm

theorem index_fixupId (b : ℕ) (ty : MuxConnType) : index (fixupId (2 * b) ty) = b := by
  rw [fixupId_eq, index_eq]
  cases ty <;> simp only [connBit] <;> omega

theorem mod_fixupId (b : ℕ) (ty : MuxConnType) : fixupId (2 * b) ty % 2 = connBit ty := by
  rw [fixupId_eq]
  cases ty <;> simp only [connBit] <;> omega

theorem connBit_injective {ty ty' : MuxConnType} (h : connBit ty = connBit ty') : ty = ty' := by
  cases ty <;> cases ty' <;> first | rfl | cases h

/-! ### Devices being added -/

/-- The thread is adding device `dev`, and has not inserted it. Until then no other thread can
find it. -/
def Call.Adds (dev : ℕ) : Call C → Prop
  | .lookup dev' | .scan dev' | .insert dev' => dev' = dev
  | _ => False

instance (dev : ℕ) (pc : Call C) : Decidable (pc.Adds dev) := by
  unfold Call.Adds
  split <;> infer_instance

variable [DecidableEq T] {E : MuxerEnv S C} {m m' : Muxer T C} {t : T} {d : ℕ}

/-- A thread goes on in a way that has nothing to do with IDs. -/
structure Bystander (m : Muxer T C) (t : T) (m' : Muxer T C) : Prop where
  thread : ∃ pc, m'.thread = Function.update m.thread t pc ∧ ∀ dev, ¬pc.Adds dev
  devices : ∀ dev ∈ m'.devices, dev ∈ m.devices
  id : m'.id = m.id
  newid : m'.newid = m.newid

theorem bystander_go {pc : Call C} (hpc : ∀ dev, ¬pc.Adds dev) {devices : List ℕ}
    (hdev : ∀ dev ∈ devices, dev ∈ m.devices) {isListening : C → Bool}
    {inbox : C → List MuxMessage} :
    m.Bystander t
      { m.go t pc with devices := devices, isListening := isListening, inbox := inbox } where
  thread := ⟨pc, rfl, hpc⟩
  devices := hdev
  id := rfl
  newid := rfl

theorem bystander_send [DecidableEq C] {pc : Call C} (hpc : ∀ dev, ¬pc.Adds dev) {cli : C}
    {msg : MuxMessage} : m.Bystander t ((m.sendIfListening cli msg).go t pc) := by
  obtain ⟨inbox, heq⟩ := sendIfListening_eq m cli msg
  rw [heq]
  exact bystander_go hpc fun _ hd => hd

variable [DecidableEq S] [Fintype T] [DecidableEq C] {ok : Bool}

/-- **Threads that are not adding a device** have nothing to do with IDs. -/
theorem bystander_of_not_adds (hnot : ∀ dev, ¬(m.thread t).Adds dev)
    (h : m.threadStep E t ok = some m') : m.Bystander t m' := by
  have hsame : ∀ dev ∈ m.devices, dev ∈ m.devices := fun _ hd => hd
  have herase : ∀ {dev'}, ∀ dev ∈ m.eraseDevice dev', dev ∈ m.devices := fun _ hd =>
    (mem_eraseDevice.mp hd).1
  unfold threadStep at h
  split at h
  · cases h
  · next dev hpc => exact absurd rfl (hpc ▸ hnot dev)
  · next dev hpc => exact absurd rfl (hpc ▸ hnot dev)
  · next dev hpc => exact absurd rfl (hpc ▸ hnot dev)
  · next dev hpc =>
    cases h
    unfold startLoopStep
    split_ifs <;> exact bystander_go (by simp [Call.Adds]) hsame
  · cases h
    exact bystander_go (by simp [Call.Adds]) hsame
  · cases h
    exact bystander_send (by simp [Call.Adds])
  · cases h
    exact bystander_go (by simp [Call.Adds]) hsame
  · split_ifs at h
    cases h
    exact bystander_go (by simp [Call.Adds]) herase
  · cases h
    exact bystander_go (by simp [Call.Adds]) hsame
  · split_ifs at h
    cases h
    unfold unplugStep
    split
    · -- `unplug` goes on with an announcement or not
      refine bystander_go (fun dev => ?_) herase
      split_ifs <;> exact fun h => h
    · exact bystander_go (by simp [Call.Adds]) hsame
  · cases h
    exact bystander_send (by simp [Call.Adds])
  · cases h
    exact bystander_go (by simp [Call.Adds]) hsame
  · cases h
    exact bystander_go (by simp [Call.Adds]) hsame
  · cases h
    exact bystander_go (by simp [Call.Adds]) hsame
  · cases h
    exact bystander_go (by simp [Call.Adds]) hsame
  · cases h
    exact bystander_go (by simp [Call.Adds]) hsame

/-- **The steps of a thread that is adding a device**, and of those that are not. These are the
only ones that assign an ID. -/
theorem threadStep_cases (h : m.threadStep E t ok = some m') :
    m.Bystander t m' ∨
    (∃ dev, m.thread t = .lookup dev ∧ m' = m.lookupId E t dev) ∨
    (∃ dev, m.thread t = .scan dev ∧ m.scanId E t dev = some m') ∨
    ∃ dev, m.thread t = .insert dev ∧ m.guardFree ∧ m' = m.insertStep E t dev := by
  by_cases hadds : ∃ dev, (m.thread t).Adds dev
  · obtain ⟨dev, hadds⟩ := hadds
    cases hpc : m.thread t with
    | lookup dev' =>
      simp only [threadStep, hpc, Option.some.injEq] at h
      exact Or.inr (Or.inl ⟨dev', rfl, h.symm⟩)
    | scan dev' =>
      simp only [threadStep, hpc] at h
      exact Or.inr (Or.inr (Or.inl ⟨dev', rfl, h⟩))
    | insert dev' =>
      simp only [threadStep, hpc, Option.ite_none_right_eq_some, Option.some.injEq] at h
      exact Or.inr (Or.inr (Or.inr ⟨dev', rfl, h.1, h.2.symm⟩))
    | _ =>
      rw [hpc] at hadds
      exact hadds.elim
  · exact Or.inl (bystander_of_not_adds (fun dev hd => hadds ⟨dev, hd⟩) h)

omit [Fintype T] [DecidableEq C] in
/-- What the lookup makes of it: there is no other connection, or its index is taken
over. -/
theorem lookupId_cases (m : Muxer T C) (t : T) (dev : ℕ) :
    m.lookupId E t dev = { m.go t (.scan dev) with id := Function.update m.id dev 0 } ∨
    ∃ odev ∈ m.devices, (E.device odev).serial = (E.device dev).serial ∧
      1 ≤ index (m.id odev) ∧
      m.lookupId E t dev =
        { m.go t (.insert dev) with
          id := Function.update m.id dev
            (fixupId (2 * index (m.id odev)) (E.device dev).conntype) } := by
  unfold lookupId
  dsimp only
  split_ifs with hbase
  · exact Or.inl rfl
  · unfold idForDevice at hbase ⊢
    split at hbase
    · -- another device with this serial number has an index
      next odev hfind =>
      have hodev := List.mem_of_find?_eq_some hfind
      have hserial := List.find?_some hfind
      simp only [decide_eq_true_eq] at hserial
      refine Or.inr ⟨odev, hodev, hserial.2, ?_, ?_⟩
      · rw [index_eq]
        omega
      · rw [index_eq, Nat.mul_comm 2]
    · exact absurd rfl hbase

omit [DecidableEq S] [Fintype T] [DecidableEq C] in
theorem insertStep_eq (m : Muxer T C) (t : T) (dev : ℕ) :
    ∃ pc, (pc = .notifyAdd dev ∨ pc = .startLoop dev) ∧
      m.insertStep E t dev = { m.go t pc with devices := m.insertDevice dev } := by
  unfold insertStep
  split
  · exact ⟨_, Or.inl rfl, rfl⟩
  · exact ⟨_, Or.inr rfl, rfl⟩

/-! ### A device is added by one thread -/

omit [DecidableEq T] [DecidableEq S] [Fintype T] [DecidableEq C] in
theorem Call.not_adds_of_inserted {pc : Call C} {dev : ℕ}
    (h : pc = .notifyAdd dev ∨ pc = .startLoop dev) (d : ℕ) : ¬pc.Adds d := by
  rcases h with rfl | rfl <;> exact fun h => h

/-- **`add_device` is called for a device** that is neither attached nor being added. -/
def FreshAdd (m : Muxer T C) : Label T C → Prop
  | .call _ (.addDevice dev) => dev ∉ m.devices ∧ ∀ t, ¬(m.thread t).Adds dev
  | _ => True

/-- A device that is being added is being added by one thread, and is not attached. -/
structure Adders (m : Muxer T C) : Prop where
  alone : ∀ t t' dev, (m.thread t).Adds dev → (m.thread t').Adds dev → t = t'
  fresh : ∀ t dev, (m.thread t).Adds dev → dev ∉ m.devices

namespace Adders

omit [DecidableEq S] [Fintype T] [DecidableEq C] in
/-- A thread goes on. It may stop adding a device, but it does not begin to. -/
theorem move (h : m.Adders) {pc : Call C} (hthread : m'.thread = Function.update m.thread t pc)
    (hpc : ∀ dev, pc.Adds dev → (m.thread t).Adds dev)
    (hdev : ∀ dev ∈ m'.devices, dev ∈ m.devices ∨ (m.thread t).Adds dev ∧ ¬pc.Adds dev) :
    m'.Adders := by
  have hold : ∀ t' dev, (m'.thread t').Adds dev → (m.thread t').Adds dev := by
    intro t' dev ha
    by_cases ht : t' = t
    · subst ht
      rw [hthread, Function.update_self] at ha
      exact hpc dev ha
    · rwa [hthread, Function.update_of_ne ht] at ha
  refine ⟨fun t₁ t₂ dev h₁ h₂ => h.alone t₁ t₂ dev (hold _ _ h₁) (hold _ _ h₂), ?_⟩
  intro t' dev ha hmem
  rcases hdev dev hmem with hmem | ⟨hadds, hnot⟩
  · exact h.fresh t' dev (hold _ _ ha) hmem
  · obtain rfl := h.alone t' t dev (hold _ _ ha) hadds
    rw [hthread, Function.update_self] at ha
    exact hnot ha

omit [DecidableEq S] [Fintype T] [DecidableEq C] in
/-- A thread is called. If it is to add a device, this device is not being added by anybody
else. -/
theorem call (h : m.Adders) {r : Request C} (hok : m.FreshAdd (.call t r)) :
    (m.go t r.call).Adders := by
  by_cases hr : ∃ dev, r = .addDevice dev
  · obtain ⟨dev, rfl⟩ := hr
    obtain ⟨hdev, hnone⟩ := hok
    -- the device is new, so that no other thread is adding it
    have hcases : ∀ t' d, ((m.go t (.lookup dev)).thread t').Adds d →
        t' = t ∧ d = dev ∨ (m.thread t').Adds d ∧ d ≠ dev := by
      intro t' d ha
      by_cases ht : t' = t
      · subst ht
        rw [go_thread_self] at ha
        exact Or.inl ⟨rfl, ha.symm⟩
      · rw [go_thread_of_ne _ _ ht] at ha
        exact Or.inr ⟨ha, fun he => hnone t' (he ▸ ha)⟩
    constructor
    · intro t₁ t₂ d h₁ h₂
      rcases hcases t₁ d h₁ with ⟨rfl, rfl⟩ | ⟨h₁, hne⟩ <;>
        rcases hcases t₂ d h₂ with ⟨rfl, he⟩ | ⟨h₂, hne'⟩
      · rfl
      · exact absurd rfl hne'
      · exact absurd he hne
      · exact h.alone t₁ t₂ d h₁ h₂
    · intro t' d ha
      rcases hcases t' d ha with ⟨-, rfl⟩ | ⟨ha, -⟩
      · exact hdev
      · exact h.fresh t' d ha
  · refine h.move rfl ?_ fun _ hd => Or.inl hd
    intro dev ha
    cases r with
    | addDevice dev' => exact absurd ⟨dev', rfl⟩ hr
    | _ => exact ha.elim

/-- **A step.** -/
theorem step (h : m.Adders) {l : Label T C} (hok : m.FreshAdd l) (hs : m.step E l = some m') :
    m'.Adders := by
  cases l with
  | call t r =>
    simp only [Muxer.step, Option.ite_none_right_eq_some, Option.some.injEq] at hs
    obtain ⟨-, rfl⟩ := hs
    exact h.call hok
  | run t ok =>
    rcases threadStep_cases hs with hby | ⟨dev, hpc, rfl⟩ | ⟨dev, hpc, hscan⟩ | ⟨dev, hpc, -, rfl⟩
    · obtain ⟨pc, hthread, hnot⟩ := hby.thread
      exact h.move hthread (fun dev ha => absurd ha (hnot dev)) fun _ hd =>
        Or.inl (hby.devices _ hd)
    · rcases lookupId_cases (E := E) m t dev with heq | ⟨odev, -, -, -, heq⟩ <;> rw [heq] <;>
        exact h.move rfl (fun d ha => by rw [hpc]; exact ha) fun _ hd => Or.inl hd
    · obtain ⟨newid, -, rfl⟩ := Option.map_eq_some_iff.mp hscan
      exact h.move rfl (fun d ha => by rw [hpc]; exact ha) fun _ hd => Or.inl hd
    · obtain ⟨pc, hpc', heq⟩ := insertStep_eq (E := E) m t dev
      have hnot := Call.not_adds_of_inserted hpc'
      rw [heq]
      refine h.move rfl (fun d ha => absurd ha (hnot d)) ?_
      intro d hd
      rcases mem_insertDevice.mp hd with rfl | hd
      · exact Or.inr ⟨by rw [hpc]; rfl, hnot d⟩
      · exact Or.inl hd

end Adders

/-! ### Devices that hold an index -/

/-- Device `dev` has been assigned an index, and is attached or about to be. -/
def Holds (m : Muxer T C) (dev : ℕ) : Prop := dev ∈ m.devices ∨ ∃ t, m.thread t = .insert dev

/-- **The scan finds an index** that no device holds and none is about to be inserted
under, unless it is the same device on its other connection. -/
def FreshScan (E : MuxerEnv S C) (m : Muxer T C) (dev : ℕ) : Prop :=
  ∃ r, Finds m.taken m.newid r ∧ ∀ t odev, m.thread t = .insert odev →
    index (m.id odev) = r → (E.device odev).serial = (E.device dev).serial

/-- **No two devices get one index**: a device that is attached or being added is not
added again, and every scan finds a fresh index. -/
def NoIndexClash (E : MuxerEnv S C) (m : Muxer T C) : Label T C → Prop
  | .call t r => m.FreshAdd (.call t r)
  | .run t _ => ∀ dev, m.thread t = .scan dev → FreshScan E m dev

/-- **An index belongs to one serial**, among the devices that are attached and those that are
about to be inserted. -/
structure IndexInv (E : MuxerEnv S C) (m : Muxer T C) : Prop where
  adders : m.Adders
  pos : ∀ d, m.Holds d → 1 ≤ index (m.id d)
  serial : ∀ d d', m.Holds d → m.Holds d' → index (m.id d) = index (m.id d') →
    (E.device d).serial = (E.device d').serial
  conntype : ∀ d, m.Holds d → m.id d % 2 = connBit (E.device d).conntype

namespace IndexInv

omit [DecidableEq T] [DecidableEq S] [Fintype T] [DecidableEq C] in
theorem init (E : MuxerEnv S C) : IndexInv E (init : Muxer T C) := by
  have hnone : ∀ d, ¬(Muxer.init : Muxer T C).Holds d := by
    intro d h
    simp [Holds, Muxer.init] at h
  exact ⟨⟨nofun, nofun⟩, fun d h => absurd h (hnone d), fun d d' h => absurd h (hnone d),
    fun d h => absurd h (hnone d)⟩

omit [DecidableEq T] [DecidableEq S] [Fintype T] [DecidableEq C] in
/-- Nobody is assigned an index. Devices may have been removed, and threads may have given
up. -/
theorem mono (h : IndexInv E m) (hadders : m'.Adders)
    (hold : ∀ d, m'.Holds d → m.Holds d ∧ m'.id d = m.id d) : IndexInv E m' where
  adders := hadders
  pos := by
    intro d hd
    obtain ⟨hd, he⟩ := hold d hd
    rw [he]
    exact h.pos d hd
  serial := by
    intro d d' hd hd' hi
    obtain ⟨hd, he⟩ := hold d hd
    obtain ⟨hd', he'⟩ := hold d' hd'
    rw [he, he'] at hi
    exact h.serial d d' hd hd' hi
  conntype := by
    intro d hd
    obtain ⟨hd, he⟩ := hold d hd
    rw [he]
    exact h.conntype d hd

omit [DecidableEq S] [Fintype T] [DecidableEq C] in
/-- **Device `dev` is assigned index `r`**, which is held by its other connection at
most. -/
theorem assign (h : IndexInv E m) {dev r : ℕ} (hadders : m'.Adders)
    (hthread : m'.thread = Function.update m.thread t (.insert dev))
    (hdevices : m'.devices = m.devices)
    (hid : m'.id = Function.update m.id dev (fixupId (2 * r) (E.device dev).conntype))
    (hpos : 1 ≤ r) (hdev : ¬m.Holds dev)
    (hr : ∀ d, m.Holds d → index (m.id d) = r →
      (E.device d).serial = (E.device dev).serial) : IndexInv E m' := by
  have hself : m'.id dev = fixupId (2 * r) (E.device dev).conntype := by
    rw [hid, Function.update_self]
  have hindex : index (m'.id dev) = r := by rw [hself, index_fixupId]
  -- the others hold what they held before
  have hold : ∀ d, m'.Holds d → d ≠ dev → m.Holds d ∧ m'.id d = m.id d := by
    intro d hd hne
    refine ⟨?_, by rw [hid, Function.update_of_ne hne]⟩
    rcases hd with hd | ⟨t', ht'⟩
    · exact Or.inl (hdevices ▸ hd)
    · by_cases ht : t' = t
      · subst ht
        rw [hthread, Function.update_self, Call.insert.injEq] at ht'
        exact absurd ht'.symm hne
      · rw [hthread, Function.update_of_ne ht] at ht'
        exact Or.inr ⟨t', ht'⟩
  refine ⟨hadders, ?_, ?_, ?_⟩
  · intro d hd
    by_cases hne : d = dev
    · rw [hne, hindex]
      exact hpos
    · obtain ⟨hd, he⟩ := hold d hd hne
      rw [he]
      exact h.pos d hd
  · intro d d' hd hd' hi
    by_cases hne : d = dev <;> by_cases hne' : d' = dev
    · rw [hne, hne']
    · subst hne
      obtain ⟨hd', he'⟩ := hold d' hd' hne'
      rw [hindex, he'] at hi
      exact (hr d' hd' hi.symm).symm
    · subst hne'
      obtain ⟨hd, he⟩ := hold d hd hne
      rw [hindex, he] at hi
      exact hr d hd hi
    · obtain ⟨hd, he⟩ := hold d hd hne
      obtain ⟨hd', he'⟩ := hold d' hd' hne'
      rw [he, he'] at hi
      exact h.serial d d' hd hd' hi
  · intro d hd
    by_cases hne : d = dev
    · rw [hne, hself, mod_fixupId]
    · obtain ⟨hd, he⟩ := hold d hd hne
      rw [he]
      exact h.conntype d hd

omit [DecidableEq T] [DecidableEq S] [Fintype T] [DecidableEq C] in
/-- A device that is looked up or scanned for holds no index yet. -/
theorem not_holds (h : IndexInv E m) {dev : ℕ} (hadds : (m.thread t).Adds dev)
    (hpc : m.thread t ≠ .insert dev) : ¬m.Holds dev := by
  rintro (hd | ⟨t', ht'⟩)
  · exact h.adders.fresh t dev hadds hd
  · obtain rfl := h.adders.alone t t' dev hadds (by rw [ht']; rfl)
    exact hpc ht'

omit [DecidableEq S] [Fintype T] [DecidableEq C] in
/-- A thread that goes on holds no more than before, unless it has just got an ID. -/
theorem holds_of_update (h : m'.Holds d) {pc : Call C}
    (hthread : m'.thread = Function.update m.thread t pc) (hpc : ∀ dev, pc ≠ .insert dev)
    (hdev : ∀ d ∈ m'.devices, m.Holds d) : m.Holds d := by
  rcases h with hd | ⟨t', ht'⟩
  · exact hdev d hd
  · by_cases ht : t' = t
    · subst ht
      rw [hthread, Function.update_self] at ht'
      exact absurd ht' (hpc d)
    · rw [hthread, Function.update_of_ne ht] at ht'
      exact Or.inr ⟨t', ht'⟩

/-- **A step.** -/
theorem step (h : IndexInv E m) {l : Label T C} (hok : NoIndexClash E m l)
    (hs : m.step E l = some m') : IndexInv E m' := by
  have hfresh : m.FreshAdd l := by
    cases l with
    | call t r => exact hok
    | run t ok => trivial
  have hadders := h.adders.step hfresh hs
  cases l with
  | call t r =>
    simp only [Muxer.step, Option.ite_none_right_eq_some, Option.some.injEq] at hs
    obtain ⟨-, rfl⟩ := hs
    refine h.mono hadders fun d hd => ⟨holds_of_update hd rfl ?_ fun _ => Or.inl, rfl⟩
    intro dev
    cases r <;> exact nofun
  | run t ok =>
    rcases threadStep_cases hs with hby | ⟨dev, hpc, rfl⟩ | ⟨dev, hpc, hscan⟩ | ⟨dev, hpc, -, rfl⟩
    · obtain ⟨pc, hthread, hnot⟩ := hby.thread
      refine h.mono hadders fun d hd => ⟨holds_of_update hd hthread ?_
        fun d hd => Or.inl (hby.devices d hd), by rw [hby.id]⟩
      intro dev he
      exact hnot dev (he ▸ rfl)
    · have hdev : ¬m.Holds dev := h.not_holds (by rw [hpc]; rfl) (by simp [hpc])
      -- the index of a device with the same serial number, or none yet
      rcases lookupId_cases (E := E) m t dev with heq | ⟨odev, hodev, hserial, hpos, heq⟩
      · rw [heq] at hadders ⊢
        refine h.mono hadders ?_
        intro d hd
        have hold : m.Holds d := holds_of_update hd rfl (by simp) fun _ => Or.inl
        refine ⟨hold, Function.update_of_ne ?_ _ _⟩
        rintro rfl
        exact hdev hold
      · rw [heq] at hadders ⊢
        exact h.assign hadders rfl rfl rfl hpos hdev fun d hd hi =>
          (h.serial d odev hd (Or.inl hodev) hi).trans hserial
    · have hdev : ¬m.Holds dev := h.not_holds (by rw [hpc]; rfl) (by simp [hpc])
      obtain ⟨r, hfinds, hnone⟩ := hok dev hpc
      obtain ⟨newid, hnewid, rfl⟩ := Option.map_eq_some_iff.mp hscan
      obtain rfl : r = newid := Option.some.inj (hfinds.scanIds_eq.symm.trans hnewid)
      -- the index the scan has found is free, and nobody else is about to use it
      refine h.assign hadders rfl rfl ?_ hfinds.2.1 hdev ?_
      · rw [Nat.shiftLeft_eq, Nat.pow_one, Nat.mul_comm]
      · intro d hd hi
        rcases hd with hd | ⟨t', ht'⟩
        · exact absurd (List.mem_map.mpr ⟨d, hd, hi⟩) hfinds.1
        · exact hnone t' d ht' hi
    · obtain ⟨pc, hpc', heq⟩ := insertStep_eq (E := E) m t dev
      rw [heq] at hadders ⊢
      refine h.mono hadders fun d hd => ⟨holds_of_update hd rfl ?_ ?_, rfl⟩
      · intro dev'
        rcases hpc' with rfl | rfl <;> exact nofun
      · intro d hd
        rcases mem_insertDevice.mp hd with rfl | hd
        · exact Or.inr ⟨t, hpc⟩
        · exact Or.inl hd

end IndexInv

end Muxer

/-! ### Device IDs are unique -/

open Muxer

section

variable {S T C : Type} [DecidableEq S] [DecidableEq T] [Fintype T] [DecidableEq C]

/-- **Device IDs are unique**: no two devices in `_devices` have the same `_id`. -/
def Muxer.UniqueIds (m : Muxer T C) : Prop :=
  ∀ d ∈ m.devices, ∀ d' ∈ m.devices, m.id d = m.id d' → d = d'

/-- No two devices share both serial and connection type. This is a fact about the devices that
are plugged in, and not about the muxer. -/
def MuxerEnv.Distinct (E : MuxerEnv S C) : Prop :=
  ∀ d d', (E.device d).serial = (E.device d').serial →
    (E.device d).conntype = (E.device d').conntype → d = d'

/-- **Device IDs are unique** in every run in which no two devices get one index, when no
two devices share both serial and connection type. -/
theorem device_ids_unique {E : MuxerEnv S C} (hE : E.Distinct) {m : Muxer T C}
    (h : (muxerMachine E).Reaches (NoIndexClash E) init m) : m.UniqueIds := by
  have hinv := h.invariant (I := IndexInv E) (.init E) fun _ _ _ hi hok hs => hi.step hok hs
  intro d hd d' hd' hid
  have hserial := hinv.serial d d' (Or.inl hd) (Or.inl hd') (by rw [hid])
  have hbit : connBit (E.device d).conntype = connBit (E.device d').conntype := by
    rw [← hinv.conntype d (Or.inl hd), ← hinv.conntype d' (Or.inl hd'), hid]
  exact hE d d' hserial (connBit_injective hbit)

end

/-- USB devices whose serials are their addresses, and one client. -/
def Muxer.usbDevices : MuxerEnv ℕ Unit where
  device := fun dev => ⟨.muxconnUsb, dev, dev⟩
  clients := [()]
  allowHeartlessWifi := false

theorem Muxer.usbDevices_distinct : usbDevices.Distinct := fun _ _ hserial _ => hserial

/-- Devices are added one after the other, and `_newid` has not wrapped around. -/
def Muxer.OneByOne {T C : Type} (m : Muxer T C) : Label T C → Prop
  | .call _ (.addDevice dev) => dev ∉ m.devices ∧ ∀ t, (m.thread t).isIdle
  | .run t _ =>
      match m.thread t with
      | .scan _ => (1 ≤ m.newid ∧ m.newid < maxid ∧ ∀ i ∈ m.taken, i ≤ m.newid) ∧
          ∀ t', t' = t ∨ (m.thread t').isIdle
      | _ => True
  | _ => True

instance {T C : Type} [DecidableEq T] [Fintype T] (m : Muxer T C) (l : Label T C) :
    Decidable (m.OneByOne l) := by
  unfold Muxer.OneByOne
  split
  · infer_instance
  · split <;> infer_instance
  · infer_instance

theorem Muxer.OneByOne.noIndexClash {S T C : Type} {E : MuxerEnv S C} {m : Muxer T C}
    {l : Label T C} (h : m.OneByOne l) : NoIndexClash E m l := by
  cases l with
  | call t r =>
    cases r with
    | addDevice dev =>
      refine ⟨h.1, ?_⟩
      intro t ha
      have hidle := h.2 t
      cases hpc : m.thread t with
      | idle => rw [hpc] at ha; exact ha
      | _ => rw [hpc] at hidle; cases hidle
    | _ => trivial
  | run t ok =>
    intro dev hpc
    simp only [OneByOne, hpc] at h
    obtain ⟨⟨hpos, hmax, hle⟩, hidle⟩ := h
    obtain ⟨r, hr⟩ := exists_finds hpos hmax hle
    refine ⟨r, hr, ?_⟩
    intro t' odev ht'
    rcases hidle t' with rfl | hidle
    · rw [hpc] at ht'
      cases ht'
    · rw [ht'] at hidle
      cases hidle

/-- Two devices added one after the other, so that the second finds the index of the first
taken. -/
theorem device_ids_unique_two :
    ∃ m : Muxer (Fin 2) Unit, m.devices = [0, 1] ∧ m.UniqueIds := by
  obtain ⟨m, hr, hp⟩ := (muxerMachine usbDevices).exists_reaches_of_runOk OneByOne
    (init : Muxer (Fin 2) Unit)
    [.call 0 (.addDevice 1), .run 0 true, .run 0 true, .run 0 true, .run 0 true, .run 0 true,
      .run 0 true, .call 1 (.addDevice 0), .run 1 true, .run 1 true, .run 1 true]
    (fun m => m.devices = [0, 1]) (by decide)
  exact ⟨m, of_decide_eq_true hp,
    device_ids_unique usbDevices_distinct (hr.mono fun _ _ h => h.noIndexClash)⟩

/-- **Two devices with one ID**: both are scanned for before either is inserted. -/
theorem concurrent_adds_share_id :
    usbDevices.Distinct ∧ ∃ m : Muxer (Fin 2) Unit,
      (muxerMachine usbDevices).Reachable init m ∧ ¬m.UniqueIds := by
  refine ⟨usbDevices_distinct, ?_⟩
  obtain ⟨m, hr, hp⟩ := (muxerMachine usbDevices).exists_reaches_of_runOk
    (fun _ _ => True) (init : Muxer (Fin 2) Unit)
    [.call 0 (.addDevice 0), .call 1 (.addDevice 1), .run 0 true, .run 1 true, .run 0 true,
      .run 1 true, .run 0 true, .run 1 true]
    (fun m => m.devices = [0, 1] ∧ m.id 0 = 2 ∧ m.id 1 = 2) (by decide)
  obtain ⟨hdevices, h0, h1⟩ := of_decide_eq_true hp
  refine ⟨m, hr, ?_⟩
  intro hall
  have heq := hall 0 (by simp [hdevices]) 1 (by simp [hdevices]) (h0.trans h1.symm)
  cases heq

end Usbmuxd
