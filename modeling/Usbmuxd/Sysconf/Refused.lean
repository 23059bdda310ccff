import Usbmuxd.Sysconf.Preflight

/-!
# Which records a preflight removes

If a device refuses a session with `LOCKDOWN_E_SSL_ERROR`, `preflight_device` removes the pair
record, as it is invalid. But the record has been read some time before, and the file is removed
by its name. In between a client may have saved a new record, that the device would accept, and
this one is removed then (`Usbmuxd.Preflight.exists_removed_unrefused`).

So the condition is that nobody saves a record while a preflight uses the old one
(`Usbmuxd.Preflight.Undisturbed`); that it is removed in the meantime does no harm. Then the
records that preflights remove are those that the device has refused
(`Usbmuxd.Preflight.removed_refused`), in spite of all the other calls.

A serial is part of a path, and so is the name under which a client saves or removes a record.
With a name such as `./u` the record of the device `u` would be saved or removed under another
name, and `/` would leave the directory. All serials and names are plain here
(`Usbmuxd.Sysconf.PlainId`), as they are for the store.
-/

namespace Usbmuxd

open Interleaving Objects Sysconf

namespace Preflight

/-! ### What the calls do to a record -/

section Tables

variable {D V : Type} {p : PlistApi D (List Char) V} {v : Store.ValueApi V}

/-- **A record changes only** when it is removed or set. The other calls read it, or have to do
with the configuration. -/
theorem tables_record (c : Store.Contents D) (call : Store.Call D V) (udid : List Char) :
    ((Store.tables p v).call c call).1.record udid = c.record udid ∨
    (((Store.tables p v).call c call).1.record udid = .missing ∧
      ∃ removes loads, call = .removeDeviceRecord udid removes loads) ∨
    ∃ record opens loads, call = .setDeviceRecord udid record opens loads := by
  cases call with
  | getValue key => exact Or.inl rfl
  | setValue key val opens => cases opens <;> exact Or.inl rfl
  | getDeviceRecord udid' => exact Or.inl rfl
  | setDeviceRecord udid' record opens loads =>
    rcases eq_or_ne udid udid' with rfl | hne
    · exact Or.inr (Or.inr ⟨record, opens, loads, rfl⟩)
    · cases opens with
      | false => exact Or.inl rfl
      | true => exact Or.inl (Function.update_of_ne hne ..)
  | removeDeviceRecord udid' removes loads =>
    rcases eq_or_ne udid udid' with rfl | hne
    · cases hslot : c.record udid with
      | missing => simp [Store.tables, hslot]
      | unreadable | holds =>
        cases removes with
        | false => simp [Store.tables, hslot]
        | true => exact Or.inr (Or.inl ⟨by simp [Store.tables, hslot, Store.Contents.setRecord],
            true, loads, rfl⟩)
    · refine Or.inl ?_
      cases hslot : c.record udid' <;> cases removes <;>
        simp [Store.tables, hslot, Store.Contents.setRecord, hne]
  | tryGetconfigBool key defaultValue opens =>
    cases hb : (p.getItem c.config key).bind v.boolVal <;> cases opens <;>
      simp [Store.tables, hb, Store.Contents.setValue]
  | getSystemBuid generated opens =>
    cases hb : p.getItem c.config Store.systemBuidKey <;> cases opens <;>
      simp [Store.tables, hb, Store.Contents.setValue]

end Tables

/-! ### What a step of `preflight_device` does -/

section Went

variable {σ D V : Type} (O : Object σ (Store.Call D V) (Store.Result D V))

/-- The call uses the record that it has read: until the session has been refused and the record
has been removed, it takes it for the one in the files. -/
def Uses (s : Preflight σ D) (n : ℕ) : Prop :=
  s.pc n = .hostID ∨ s.pc n = .startSession ∨ s.pc n = .removeRecord

/-- The function of `sysconf.cpp` that `preflight_device` calls, at the places where it calls
one. The answers say whether files can be opened and removed. -/
def callOf (s : Preflight σ D) (n : ℕ) (a : Answer) : Pc → Option (Store.Call D V)
  | .readRecord => some (.getDeviceRecord (s.serial n))
  | .removeRecord => some (.removeDeviceRecord (s.serial n) a.removes a.loads)
  | .systemBuid => some (.getSystemBuid a.generated a.opens)
  | _ => none

/-- **What a step of `preflight_device` does** to the files and to its record. All that the
invariant needs of a step is in here, and how the pointers change is not. -/
structure Went (n : ℕ) (a : Answer) (s s' : Preflight σ D) : Prop where
  store : s'.store = (callOf s n a (s.pc n)).elim s.store fun call => (O.call s.store call).1
  serial : s'.serial = s.serial
  pc : ∀ m ≠ n, s'.pc m = s.pc m
  record : ∀ m ≠ n, s'.record m = s.record m
  refused : ∀ x ∈ s.refused, x ∈ s'.refused
  hostID : s'.pc n = .hostID → s.pc n = .readRecord ∧ ∃ record, s'.record n = some record ∧
    recordOf (O.call s.store (.getDeviceRecord (s.serial n))).2 = some record
  startSession : s'.pc n = .startSession → s.pc n = .hostID ∧ s'.record n = s.record n
  removeRecord : s'.pc n = .removeRecord → s.pc n = .startSession ∧ s'.record n = s.record n ∧
    ∀ record, s.record n = some record → (s.serial n, record) ∈ s'.refused

variable {O} {hostID : D → Option (List Char)} {s s' s₁ s₂ : Preflight σ D} {n : ℕ} {a : Answer}

/-- Only pointers have been assigned to. A step that frees or acquires something is of this
kind, as far as records are concerned. -/
structure Assigned (s s₁ : Preflight σ D) : Prop where
  store : s₁.store = s.store
  pc : s₁.pc = s.pc
  serial : s₁.serial = s.serial
  record : s₁.record = s.record
  refused : s₁.refused = s.refused

theorem assigned_refl (s : Preflight σ D) : Assigned s s := ⟨rfl, rfl, rfl, rfl, rfl⟩

theorem assigned_gets (s : Preflight σ D) (n : ℕ) (p : Ptr) (k : Kind) :
    Assigned s (s.gets n p k) :=
  ⟨rfl, rfl, rfl, rfl, rfl⟩

theorem assigned_frees (s : Preflight σ D) (n : ℕ) (ps : List Ptr) : Assigned s (s.frees n ps) :=
  ⟨rfl, rfl, rfl, rfl, rfl⟩

theorem assigned_moves (s : Preflight σ D) (n : ℕ) (p q : Ptr) : Assigned s (s.moves n p q) :=
  ⟨rfl, rfl, rfl, rfl, rfl⟩

theorem Assigned.trans (h : Assigned s s₁) (h' : Assigned s₁ s₂) : Assigned s s₂ where
  store := h'.store.trans h.store
  pc := h'.pc.trans h.pc
  serial := h'.serial.trans h.serial
  record := h'.record.trans h.record
  refused := h'.refused.trans h.refused

theorem assigned_newCbData (s : Preflight σ D) (n : ℕ) :
    Assigned s (((s.gets n .cbData .cbData).moves n .dev .cbDev).moves n .np .cbNp) :=
  ((assigned_gets ..).trans (assigned_moves ..)).trans (assigned_moves ..)

theorem assigned_handOver (s : Preflight σ D) (n : ℕ) : Assigned s (s.handOver n) := by
  have hmoves : Assigned s (((s.moves n .cbDev .userdataDev).moves n .cbNp .userdataNp).moves n
      .cbData .userdata) :=
    ((assigned_moves ..).trans (assigned_moves ..)).trans (assigned_moves ..)
  exact ⟨hmoves.store, hmoves.pc, hmoves.serial, hmoves.record, hmoves.refused⟩

/-- The call goes where no record is used, after a call of `sysconf.cpp` or without one. -/
theorem went_goto {pc : Pc} {store : σ}
    (hstore : store = (callOf s n a (s.pc n)).elim s.store fun call => (O.call s.store call).1)
    (h : Assigned { s with store := store } s₁)
    (hnot : pc ≠ .hostID ∧ pc ≠ .startSession ∧ pc ≠ .removeRecord) :
    Went O n a s (s₁.goto n pc) where
  store := h.store.trans hstore
  serial := h.serial
  pc m hm := (Function.update_of_ne hm ..).trans (congrFun h.pc m)
  record m _ := congrFun h.record m
  refused _ hx := h.refused ▸ hx
  hostID hpc := absurd ((goto_pc ..).symm.trans hpc) hnot.1
  startSession hpc := absurd ((goto_pc ..).symm.trans hpc) hnot.2.1
  removeRecord hpc := absurd ((goto_pc ..).symm.trans hpc) hnot.2.2

/-- The call ends, and does not use its record any more. -/
theorem went_ends {pc : Pc} {store : σ}
    (hstore : store = (callOf s n a (s.pc n)).elim s.store fun call => (O.call s.store call).1)
    (h : Assigned { s with store := store } s₁) (hpc : pc = .returned ∨ pc = .threw) :
    Went O n a s (s₁.ends n pc) := by
  have hfrees : Assigned { s with store := store } (s₁.frees n cleanup) :=
    ⟨h.store, h.pc, h.serial, h.record, h.refused⟩
  exact went_goto hstore hfrees (by rcases hpc with rfl | rfl <;> decide)

/-- A function succeeds or not. In the second case the call ends, so that only the first has to
be looked at. -/
theorem went_orThrow (ok : Bool) {store : σ}
    (hstore : store = (callOf s n a (s.pc n)).elim s.store fun call => (O.call s.store call).1)
    (hgoes : Went O n a s s₁) : Went O n a s (orThrow { s with store := store } n ok s₁) := by
  cases ok with
  | false => exact went_ends hstore (assigned_refl _) (Or.inr rfl)
  | true => exact hgoes

/-- The record is read, and what has been read is what the files had. -/
theorem went_read {record : D} (hpc : s.pc n = .readRecord)
    (hread : recordOf (O.call s.store (.getDeviceRecord (s.serial n))).2 = some record) :
    Went O n a s { (s.gets n .pairingRecord .pairingRecord).goto n .hostID with
      store := (O.call s.store (.getDeviceRecord (s.serial n))).1
      record := Function.update s.record n (some record) } := by
  have hnow : ((s.gets n .pairingRecord .pairingRecord).goto n .hostID).pc n = .hostID :=
    goto_pc ..
  exact {
    store := by rw [hpc]; rfl
    serial := rfl
    pc := fun m hm => Function.update_of_ne hm ..
    record := fun m hm => Function.update_of_ne hm ..
    refused := fun _ hx => hx
    hostID := fun _ => ⟨hpc, record, Function.update_self .., hread⟩
    startSession := fun h => by cases hnow.symm.trans h
    removeRecord := fun h => by cases hnow.symm.trans h }

/-- The `HostID` is in the record, and the call goes on with the record that it has read. -/
theorem went_hostID (hpc : s.pc n = .hostID) :
    Went O n a s ((s.gets n .hostid .hostid).goto n .startSession) := by
  have hnow : ((s.gets n .hostid .hostid).goto n .startSession).pc n = .startSession :=
    goto_pc ..
  exact {
    store := by rw [hpc]; rfl
    serial := rfl
    pc := fun m hm => Function.update_of_ne hm ..
    record := fun _ _ => rfl
    refused := fun _ hx => hx
    hostID := fun h => by cases hnow.symm.trans h
    startSession := fun _ => ⟨hpc, rfl⟩
    removeRecord := fun h => by cases hnow.symm.trans h }

/-- The device refuses the record: it is written down which one, and the call goes on to remove
it. -/
theorem went_refused (hpc : s.pc n = .startSession) :
    Went O n a s { (s.frees n [.hostid]).goto n .removeRecord with
      refused := s.refused ++ ((s.record n).map (Prod.mk (s.serial n))).toList } := by
  have hnow : ((s.frees n [.hostid]).goto n .removeRecord).pc n = .removeRecord := goto_pc ..
  exact {
    store := by rw [hpc]; rfl
    serial := rfl
    pc := fun m hm => Function.update_of_ne hm ..
    record := fun _ _ => rfl
    refused := fun _ hx => List.mem_append_left _ hx
    hostID := fun h => by cases hnow.symm.trans h
    startSession := fun h => by cases hnow.symm.trans h
    removeRecord := fun _ => ⟨hpc, rfl, fun record hrecord => by simp [hrecord]⟩ }

/-- **Every step of `preflight_device`** is of this kind, with one case for each place. -/
theorem went_of_goStep (hs : s.goStep O hostID n a (s.pc n) = some s') : Went O n a s s' := by
  have hnone : callOf (V := V) s n a (s.pc n) = none → s.store =
      (callOf s n a (s.pc n)).elim s.store fun call => (O.call s.store call).1 := by
    intro hcall
    rw [hcall]
    rfl
  cases hpc : s.pc n with
  | idle | returned | threw =>
    rw [hpc] at hs
    cases hs
  | newDevice | newClient | getVersion | versionStr | startService | newNp =>
    have hstore := hnone (by rw [hpc]; rfl)
    rw [hpc] at hs
    cases hs
    exact went_orThrow _ hstore (went_goto hstore (assigned_gets ..) (by decide))
  | setBuid | observe =>
    have hstore := hnone (by rw [hpc]; rfl)
    rw [hpc] at hs
    cases hs
    exact went_orThrow _ hstore (went_goto hstore (assigned_refl _) (by decide))
  | newCbData =>
    have hstore := hnone (by rw [hpc]; rfl)
    rw [hpc] at hs
    cases hs
    exact went_orThrow _ hstore (went_goto hstore (assigned_newCbData s n) (by decide))
  | setCallback =>
    have hstore := hnone (by rw [hpc]; rfl)
    rw [hpc] at hs
    cases hs
    exact went_orThrow _ hstore (went_ends hstore (assigned_handOver s n) (Or.inl rfl))
  | removeRecord | systemBuid =>
    rw [hpc] at hs
    cases hs
    exact went_orThrow _ (by rw [hpc]; rfl)
      (went_goto (by rw [hpc]; rfl) (assigned_refl _) (by decide))
  | queryType =>
    have hstore := hnone (by rw [hpc]; rfl)
    rw [hpc] at hs
    cases hs
    refine went_orThrow _ hstore ?_
    split_ifs
    · exact went_goto hstore (assigned_gets ..) (by decide)
    · exact went_ends hstore (assigned_gets ..) (Or.inl rfl)
  | pair =>
    have hstore := hnone (by rw [hpc]; rfl)
    rw [hpc, goStep] at hs
    split at hs <;> cases hs
    · exact went_ends hstore (assigned_refl _) (Or.inl rfl)
    · exact went_ends hstore (assigned_refl _) (Or.inl rfl)
    · exact went_goto hstore (assigned_refl _) (by decide)
    · exact went_ends hstore (assigned_refl _) (Or.inr rfl)
  | readRecord =>
    rw [hpc, goStep] at hs
    dsimp only at hs
    split at hs
    case h_1 record hread =>
      cases hs
      exact went_read hpc hread
    case h_2 =>
      cases hs
      have hstore : (O.call s.store (.getDeviceRecord (s.serial n))).1 =
          (callOf s n a (s.pc n)).elim s.store fun call => (O.call s.store call).1 := by
        rw [hpc]
        rfl
      have hgoes : Went O n a s (goto { s with
          store := (O.call s.store (.getDeviceRecord (s.serial n))).1 } n .getVersion) :=
        went_goto hstore (assigned_refl _) (by decide)
      exact hgoes
  | hostID =>
    have hstore := hnone (by rw [hpc]; rfl)
    rw [hpc] at hs
    cases hs
    exact went_orThrow _ hstore (went_hostID hpc)
  | startSession =>
    have hstore := hnone (by rw [hpc]; rfl)
    rw [hpc, goStep] at hs
    split at hs <;> cases hs
    · exact went_ends hstore (assigned_refl _) (Or.inl rfl)
    · exact went_refused hpc
    · exact went_goto hstore (assigned_frees ..) (by decide)

end Went

/-! ### What is known of a record that is used -/

section Keeps

variable {σ D V : Type} {O : Object σ (Store.Call D V) (Store.Result D V)}
  {p : PlistApi D (List Char) V} {v : Store.ValueApi V} {abs : σ → Store.Contents D}
  {hostID : D → Option (List Char)} {s s' : Preflight σ D} {n : ℕ} {a : Answer}

/-- **Nobody saves a record** while a preflight uses the old one. All names are plain. -/
def Undisturbed (s : Preflight σ D) : Label D V → Prop
  | .start _ serial => PlainId serial
  | .other (.setDeviceRecord udid _ _ _) => PlainId udid ∧ ∀ n, s.Uses n → s.serial n ≠ udid
  | .other call => call.Plain
  | _ => True

/-- **What is known of a record that is used**: it is the one in the files, unless it has been
removed; and the device has refused it before the call removes it. -/
structure Keeps (abs : σ → Store.Contents D) (s : Preflight σ D) : Prop where
  plain : ∀ n, s.pc n ≠ .idle → PlainId (s.serial n)
  held : ∀ n, s.Uses n → ∃ record, s.record n = some record ∧
    ((abs s.store).record (s.serial n) = .holds record ∨
      (abs s.store).record (s.serial n) = .missing)
  refused : ∀ n, s.pc n = .removeRecord → ∀ record, s.record n = some record →
    (s.serial n, record) ∈ s.refused

theorem keeps_init (store : σ) : Keeps abs (init store : Preflight σ D) where
  plain _ h := absurd rfl h
  held := by rintro n (h | h | h) <;> cases h
  refused := nofun

/-- A record changes only when it is removed or set, on the level of the files: what is known of
the table is carried over. -/
theorem record_call (himpl : Implements O (Store.tables p v) abs Store.Call.Plain) (store : σ)
    {call : Store.Call D V} (hplain : call.Plain) (udid : List Char) :
    (abs (O.call store call).1).record udid = (abs store).record udid ∨
    ((abs (O.call store call).1).record udid = .missing ∧
      ∃ removes loads, call = .removeDeviceRecord udid removes loads) ∨
    ∃ record opens loads, call = .setDeviceRecord udid record opens loads := by
  have habs : abs (O.call store call).1 = ((Store.tables p v).call (abs store) call).1 :=
    (congrArg Prod.fst (himpl store call hplain)).symm
  rw [habs]
  exact tables_record (abs store) call udid

/-- What is read is in the files, under the serial number of the device. For this the name of
the record has to be plain. -/
theorem record_read (himpl : Implements O (Store.tables p v) abs Store.Call.Plain) {store : σ}
    {udid : List Char} (hplain : PlainId udid) {record : D}
    (hread : recordOf (O.call store (.getDeviceRecord udid)).2 = some record) :
    (abs store).record udid = .holds record := by
  have hresult : (O.call store (.getDeviceRecord udid)).2 =
      .record ((abs store).record udid).get :=
    (congrArg Prod.snd (himpl store (.getDeviceRecord udid) hplain)).symm
  rw [hresult, recordOf] at hread
  cases hslot : (abs store).record udid with
  | missing | unreadable =>
    rw [hslot] at hread
    cases hread
  | holds record' =>
    rw [hslot] at hread
    cases hread
    rfl

/-- A record that is used is still there, or removed, after a call that does not set it. -/
theorem held_call (himpl : Implements O (Store.tables p v) abs Store.Call.Plain) {store : σ}
    {call : Store.Call D V} (hplain : call.Plain) {udid : List Char} {record : D}
    (hnot : ∀ record opens loads, call ≠ .setDeviceRecord udid record opens loads)
    (h : (abs store).record udid = .holds record ∨ (abs store).record udid = .missing) :
    (abs (O.call store call).1).record udid = .holds record ∨
      (abs (O.call store call).1).record udid = .missing := by
  rcases record_call himpl store hplain udid with hsame | ⟨hmissing, -⟩ |
    ⟨record', opens, loads, hset⟩
  · rw [hsame]
    exact h
  · exact Or.inr hmissing
  · exact absurd hset (hnot record' opens loads)

/-- Somebody else goes on, and sets no record that is used. The records in use may be removed by
it, but that does no harm. -/
theorem Keeps.others (himpl : Implements O (Store.tables p v) abs Store.Call.Plain)
    (h : Keeps abs s) {store : σ}
    (hstore : store = s.store ∨ ∃ call : Store.Call D V, call.Plain ∧
      store = (O.call s.store call).1 ∧ ∀ n, s.Uses n →
        ∀ record opens loads, call ≠ .setDeviceRecord (s.serial n) record opens loads)
    (hs' : s'.store = store ∧ s'.pc = s.pc ∧ s'.serial = s.serial ∧ s'.record = s.record ∧
      s'.refused = s.refused) : Keeps abs s' := by
  obtain ⟨hstore', hpc, hserial, hrecord, hrefused⟩ := hs'
  refine ⟨?_, ?_, ?_⟩
  · rw [hpc, hserial]
    exact h.plain
  · intro n hn
    have huses : s.Uses n := by
      rw [Uses, hpc] at hn
      exact hn
    obtain ⟨record, heq, hheld⟩ := h.held n huses
    rw [hrecord, hserial, hstore']
    refine ⟨record, heq, ?_⟩
    rcases hstore with rfl | ⟨call, hplain, rfl, hnot⟩
    · exact hheld
    · exact held_call himpl hplain (hnot n huses) hheld
  · rw [hpc, hrecord, hserial, hrefused]
    exact h.refused

/-- A function that does not set a record: `preflight_device` reads and removes records, but it
leaves it to others to save one. -/
theorem callOf_ne_set {pc : Pc} {call : Store.Call D V} (hcall : s.callOf n a pc = some call) :
    ∀ udid record opens loads, call ≠ .setDeviceRecord udid record opens loads := by
  rintro udid record opens loads rfl
  cases pc <;> cases hcall

/-- The names that are used are plain if the serial number of the device is. -/
theorem callOf_plain {pc : Pc} {call : Store.Call D V} (hcall : s.callOf n a pc = some call)
    (hserial : PlainId (s.serial n)) : call.Plain := by
  cases pc with
  | readRecord | removeRecord =>
    cases hcall
    exact hserial
  | systemBuid =>
    cases hcall
    trivial
  | _ => cases hcall

/-- A record that is used is still there, or removed, after a step of `preflight_device`. -/
theorem held_went (himpl : Implements O (Store.tables p v) abs Store.Call.Plain)
    (hserial : PlainId (s.serial n)) (hwent : Went O n a s s') {udid : List Char} {record : D}
    (h : (abs s.store).record udid = .holds record ∨ (abs s.store).record udid = .missing) :
    (abs s'.store).record udid = .holds record ∨ (abs s'.store).record udid = .missing := by
  rw [hwent.store]
  cases hcall : s.callOf n a (s.pc n) with
  | none => exact h
  | some call =>
    exact held_call himpl (callOf_plain hcall hserial) (callOf_ne_set hcall udid) h

/-- **A step of `preflight_device`** keeps what is known of all calls, its own and those for
other devices. -/
theorem Keeps.go (himpl : Implements O (Store.tables p v) abs Store.Call.Plain) (h : Keeps abs s)
    (hs : s.goStep O hostID n a (s.pc n) = some s') : Keeps abs s' := by
  have hwent : Went O n a s s' := went_of_goStep hs
  have hserial : PlainId (s.serial n) := by
    refine h.plain n fun hidle => ?_
    rw [hidle] at hs
    cases hs
  -- a record that is used is still there, whoever uses it
  have hstays : ∀ {udid : List Char} {record : D},
      (abs s.store).record udid = .holds record ∨ (abs s.store).record udid = .missing →
      (abs s'.store).record udid = .holds record ∨ (abs s'.store).record udid = .missing :=
    held_went himpl hserial hwent
  refine ⟨fun m hm => ?_, fun m hm => ?_, fun m hm => ?_⟩
  · rw [hwent.serial]
    rcases eq_or_ne m n with rfl | hne
    · exact hserial
    · rw [hwent.pc m hne] at hm
      exact h.plain m hm
  · rw [hwent.serial]
    rcases eq_or_ne m n with rfl | hne
    · rcases hm with hm | hm | hm
      · -- it has just been read
        obtain ⟨-, record, hrecord, hread⟩ := hwent.hostID hm
        exact ⟨record, hrecord, hstays (Or.inl (record_read himpl hserial hread))⟩
      · obtain ⟨hpc, hrecord⟩ := hwent.startSession hm
        obtain ⟨record, heq, hheld⟩ := h.held m (Or.inl hpc)
        exact ⟨record, hrecord.trans heq, hstays hheld⟩
      · obtain ⟨hpc, hrecord, -⟩ := hwent.removeRecord hm
        obtain ⟨record, heq, hheld⟩ := h.held m (Or.inr (Or.inl hpc))
        exact ⟨record, hrecord.trans heq, hstays hheld⟩
    · have huses : s.Uses m := by
        rw [Uses, hwent.pc m hne] at hm
        exact hm
      obtain ⟨record, heq, hheld⟩ := h.held m huses
      exact ⟨record, (hwent.record m hne).trans heq, hstays hheld⟩
  · rw [hwent.serial]
    rcases eq_or_ne m n with rfl | hne
    · obtain ⟨-, hrecord, hrefused⟩ := hwent.removeRecord hm
      rw [hrecord]
      exact hrefused
    · rw [hwent.pc m hne] at hm
      rw [hwent.record m hne]
      exact fun record hrecord => hwent.refused _ (h.refused m hm record hrecord)

/-- What `pairing_callback` does to the files: it may ask for the identifier of the system, and
this is not about any record. -/
theorem callbackStep_eq (hs : s.callbackStep O n a (s.notifier n) = some s') :
    (s'.store = s.store ∨ s'.store = (O.call s.store (.getSystemBuid a.generated a.opens)).1) ∧
      s'.pc = s.pc ∧ s'.serial = s.serial ∧ s'.record = s.record ∧ s'.refused = s.refused := by
  cases hn : s.notifier n with
  | off | waiting | joined =>
    rw [hn] at hs
    cases hs
  | calling pc =>
    rw [hn] at hs
    cases pc with
    | entered x =>
      simp only [callbackStep] at hs
      split_ifs at hs <;> cases hs <;> exact ⟨Or.inl rfl, rfl, rfl, rfl, rfl⟩
    | connected x =>
      cases x with
      | requestHostBuid =>
        simp only [callbackStep] at hs
        split_ifs at hs <;> cases hs <;> exact ⟨Or.inr rfl, rfl, rfl, rfl, rfl⟩
      | _ =>
        cases hs
        exact ⟨Or.inl rfl, rfl, rfl, rfl, rfl⟩
    | setBuid | error =>
      simp only [callbackStep] at hs
      split_ifs at hs <;> cases hs <;> exact ⟨Or.inl rfl, rfl, rfl, rfl, rfl⟩

/-- What a thread that frees does to the files: nothing. -/
theorem deleteStep_eq {i : ℕ} (hs : s.deleteStep n i (s.deleters n)[i]? = some s') :
    s'.store = s.store ∧ s'.pc = s.pc ∧ s'.serial = s.serial ∧ s'.record = s.record ∧
      s'.refused = s.refused := by
  cases hd : (s.deleters n)[i]? with
  | none =>
    rw [hd] at hs
    cases hs
  | some d =>
    rw [hd] at hs
    cases d with
    | join =>
      simp only [deleteStep] at hs
      split at hs <;> cases hs <;> exact ⟨rfl, rfl, rfl, rfl, rfl⟩
    | done => cases hs
    | _ =>
      cases hs
      exact ⟨rfl, rfl, rfl, rfl, rfl⟩

/-- Nobody calls `sysconf_set_device_record` for a record that is used. All other calls are
free. -/
theorem Undisturbed.other {call : Store.Call D V} (h : s.Undisturbed (.other call)) :
    call.Plain ∧ ∀ n, s.Uses n →
      ∀ record opens loads, call ≠ .setDeviceRecord (s.serial n) record opens loads := by
  cases call with
  | setDeviceRecord udid record opens loads =>
    refine ⟨h.1, fun n hn record' opens' loads' heq => ?_⟩
    cases heq
    exact h.2 n hn rfl
  | _ => exact ⟨h, fun n hn record opens loads => nofun⟩

/-- **One step** of whatever thread, as long as no record that is used is set by it. -/
theorem Keeps.step (himpl : Implements O (Store.tables p v) abs Store.Call.Plain) (h : Keeps abs s)
    {l : Label D V} (hok : s.Undisturbed l) (hs : s.step O hostID l = some s') : Keeps abs s' := by
  cases l with
  | start n serial =>
    simp only [Preflight.step] at hs
    split_ifs at hs with hidle
    cases hs
    refine ⟨fun m hm => ?_, fun m hm => ?_, fun m hm => ?_⟩
    · rcases eq_or_ne m n with rfl | hne
      · simp only [Function.update_self]
        exact hok
      · simp only [goto, Function.update_of_ne hne] at hm ⊢
        exact h.plain m hm
    · rcases eq_or_ne m n with rfl | hne
      · simp [Uses, goto] at hm
      · simp only [Uses, goto, Function.update_of_ne hne] at hm ⊢
        exact h.held m hm
    · rcases eq_or_ne m n with rfl | hne
      · simp [goto] at hm
      · simp only [goto, Function.update_of_ne hne] at hm ⊢
        exact h.refused m hm
  | go n a =>
    simp only [Preflight.step] at hs
    split_ifs at hs
    exact h.go himpl hs
  | other call =>
    simp only [Preflight.step] at hs
    split_ifs at hs
    cases hs
    obtain ⟨hplain, hnot⟩ := hok.other
    exact h.others himpl (Or.inr ⟨call, hplain, rfl, hnot⟩) ⟨rfl, rfl, rfl, rfl, rfl⟩
  | notify n x =>
    simp only [Preflight.step] at hs
    split_ifs at hs
    cases hs
    exact h.others himpl (Or.inl rfl) ⟨rfl, rfl, rfl, rfl, rfl⟩
  | callback n a =>
    simp only [Preflight.step] at hs
    split_ifs at hs
    obtain ⟨hstore, hrest⟩ := callbackStep_eq hs
    refine h.others himpl ?_ ⟨rfl, hrest⟩
    rcases hstore with hsame | hasked
    · exact Or.inl hsame
    · exact Or.inr ⟨.getSystemBuid a.generated a.opens, trivial, hasked,
        fun n hn record opens loads heq => by cases heq⟩
  | delete n i =>
    simp only [Preflight.step] at hs
    split_ifs at hs
    exact h.others himpl (Or.inl rfl) (deleteStep_eq hs)

/-- **The invariant holds** as long as nobody saves a record that is used, in every run with any
number of devices. -/
theorem keeps_of_reaches (himpl : Implements O (Store.tables p v) abs Store.Call.Plain) {store : σ}
    (hr : (preflightMachine O hostID).Reaches Undisturbed (init store) s) : Keeps abs s :=
  hr.invariant (keeps_init store) fun _ _ _ h hok hs => h.step himpl hok hs

/-- A step of `preflight_device` takes a record away only if the device has refused it. -/
theorem Keeps.removes (himpl : Implements O (Store.tables p v) abs Store.Call.Plain)
    (h : Keeps abs s) (hs : s.goStep O hostID n a (s.pc n) = some s') {udid : List Char}
    {record : D} (hheld : (abs s.store).record udid = .holds record) :
    (abs s'.store).record udid = .holds record ∨
      (abs s'.store).record udid = .missing ∧ (udid, record) ∈ s.refused := by
  have hwent : Went O n a s s' := went_of_goStep hs
  rw [hwent.store]
  cases hcall : s.callOf n a (s.pc n) with
  | none => exact Or.inl hheld
  | some call =>
    have hserial : PlainId (s.serial n) := by
      refine h.plain n fun hidle => ?_
      rw [hidle] at hcall
      cases hcall
    rcases record_call himpl s.store (callOf_plain hcall hserial) udid with
      hsame | ⟨hmissing, removes, loads, rfl⟩ | ⟨record', opens, loads, hset⟩
    · exact Or.inl (hsame.trans hheld)
    · -- the call removes the record, and so it is the one it has read
      obtain ⟨hpc, rfl⟩ : s.pc n = .removeRecord ∧ s.serial n = udid := by
        cases hpc : s.pc n <;> rw [hpc] at hcall <;> cases hcall
        exact ⟨rfl, rfl⟩
      obtain ⟨record', heq, hslot⟩ := h.held n (Or.inr (Or.inr hpc))
      refine Or.inr ⟨hmissing, ?_⟩
      rcases hslot with hslot | hslot <;> rw [hheld] at hslot <;> cases hslot
      exact h.refused n hpc record heq
    · exact absurd hset (callOf_ne_set hcall udid record' opens loads)

end Keeps

/-! ### The files -/

section Files

variable {D V : Type} {disk : Disk} {p : PlistApi D (List Char) V} {v : Store.ValueApi V}
  {hostID : D → Option (List Char)} {s s' : Preflight Store.Files D}

/-- **What preflights remove has been refused.** If nobody saves a record while a preflight uses
the old one, then whatever is done apart from the calls of others, a record stays as it is, or it
is removed and the device has refused it with `LOCKDOWN_E_SSL_ERROR`. -/
theorem removed_refused {files : Store.Files}
    (hr : (preflightMachine (Store.sysconf disk p v) hostID).Reaches Undisturbed (init files) s)
    {l : Label D V} (hs : (preflightMachine (Store.sysconf disk p v) hostID).step s l = some s')
    (hl : ∀ call, l ≠ .other call) {udid : List Char} {record : D}
    (hheld : (Store.contents disk p s.store).record udid = .holds record) :
    (Store.contents disk p s'.store).record udid = .holds record ∨
      (Store.contents disk p s'.store).record udid = .missing ∧ (udid, record) ∈ s.refused := by
  have himpl : Implements (Store.sysconf disk p v) (Store.tables p v) (Store.contents disk p)
      Store.Call.Plain := Store.implements_tables
  have hkeeps : Keeps (Store.contents disk p) s := keeps_of_reaches himpl hr
  have hs' : s.step (Store.sysconf disk p v) hostID l = some s' := hs
  cases l with
  | go n a =>
    simp only [Preflight.step] at hs'
    split_ifs at hs'
    exact hkeeps.removes himpl hs' hheld
  | callback n a =>
    simp only [Preflight.step] at hs'
    split_ifs at hs'
    refine Or.inl ?_
    rcases (callbackStep_eq hs').1 with hsame | hasked
    · rw [hsame]
      exact hheld
    · have hbuid : (Store.Call.getSystemBuid a.generated a.opens : Store.Call D V).Plain := trivial
      rw [hasked]
      rcases record_call himpl s.store hbuid udid with hsame | ⟨-, removes, loads, hcall⟩ |
        ⟨record', opens, loads, hcall⟩
      · exact hsame.trans hheld
      · cases hcall
      · cases hcall
  | delete n i =>
    simp only [Preflight.step] at hs'
    split_ifs at hs'
    rw [(deleteStep_eq hs').1]
    exact Or.inl hheld
  | other call => exact absurd rfl (hl call)
  | start n serial | notify n x =>
    simp only [Preflight.step] at hs'
    split_ifs at hs'
    cases hs'
    exact Or.inl hheld

/-- The only file is the record of one device, which is an empty dictionary. -/
def oneFile : Store.Files :=
  Function.update (fun _ => none) (getDeviceRecordPath varLibLockdown ['u']) (some [0])

/-- Only that device is there, and nobody else uses the files. Then all that has been assumed
can be read off the labels. -/
def alone : Label Store.Dict (Bool ⊕ List Char) → Bool
  | .start _ serial => serial = ['u']
  | .other _ => false
  | _ => true

theorem undisturbed_of_alone {σ : Type} {s : Preflight σ Store.Dict}
    {l : Label Store.Dict (Bool ⊕ List Char)} (h : alone l = true) : s.Undisturbed l := by
  cases l with
  | start n serial =>
    obtain rfl : serial = ['u'] := of_decide_eq_true h
    exact ⟨by decide, by decide, by decide⟩
  | other call => cases h
  | _ => trivial

/-- The device refuses the record, which is removed, and it is not there when the call has
returned. -/
theorem removed_refused_one : ∃ s s' : Preflight Store.Files Store.Dict,
    (Store.contents varLibLockdown (Store.listApi (Bool ⊕ List Char)) s.store).record ['u'] =
      .holds [] ∧
    (Store.contents varLibLockdown (Store.listApi (Bool ⊕ List Char)) s'.store).record ['u'] =
      .missing ∧ (['u'], []) ∈ s.refused := by
  have hu : PlainId ['u'] := ⟨by decide, by decide, by decide⟩
  obtain ⟨s, hr, hp⟩ := (preflightMachine
    (Store.sysconf varLibLockdown (Store.listApi (Bool ⊕ List Char)) Store.sumApi)
    fun _ => some []).exists_reaches_of_runOk (fun _ l => alone l = true) (init oneFile)
    [.start 0 ['u'], .go 0 .good, .go 0 .good, .go 0 .good, .go 0 .good, .go 0 .good,
      .go 0 (.returns .sslError)]
    (fun s => decide (s.store (getDeviceRecordPath varLibLockdown ['u']) =
        (Store.listApi (Bool ⊕ List Char)).toXml [] ∧
      (s.step (Store.sysconf varLibLockdown (Store.listApi (Bool ⊕ List Char)) Store.sumApi)
        (fun _ => some []) (.go 0 .good)).any
          (fun s' => (s'.store (getDeviceRecordPath varLibLockdown ['u'])).isNone) = true))
    (by decide +kernel)
  obtain ⟨hfile, hstep⟩ := of_decide_eq_true hp
  obtain ⟨s', hs', hgone⟩ := (Option.any_eq_true ..).mp hstep
  have hheld : (Store.contents varLibLockdown (Store.listApi (Bool ⊕ List Char)) s.store).record
      ['u'] = .holds [] := by
    rw [Store.contents_record hu.ne_configFile, hfile]
    exact Store.slotOf_buf []
  have hmissing : (Store.contents varLibLockdown (Store.listApi (Bool ⊕ List Char))
      s'.store).record ['u'] = .missing := by
    rw [Store.contents_record hu.ne_configFile, Option.isNone_iff_eq_none.mp hgone]
    rfl
  have hundisturbed := hr.mono fun s l h => undisturbed_of_alone (s := s) h
  have hgoes : (preflightMachine
    (Store.sysconf varLibLockdown (Store.listApi (Bool ⊕ List Char)) Store.sumApi)
    fun _ => some []).step s (.go 0 .good) = some s' := hs'
  refine ⟨s, s', hheld, hmissing, ?_⟩
  rcases removed_refused hundisturbed hgoes (fun _ heq => by cases heq) hheld with
    hstill | ⟨-, hrefused⟩
  · rw [hmissing] at hstill
    cases hstill
  · exact hrefused

/-- A record that is saved later, in the place of the one that has been refused. -/
def newRecord : Store.Dict := [(['n'], .inl true)]

/-- **A client saves a record** after the old one has been read: this one is removed, though no
device has refused it. -/
theorem exists_removed_unrefused : ∃ s s' : Preflight (Store.Contents Store.Dict) Store.Dict,
    (preflightMachine Store.dictTables fun _ => some []).Reachable
      (init ⟨[], fun _ => .holds []⟩) s ∧
    (preflightMachine Store.dictTables fun _ => some []).step s
      (.go 0 .good) = some s' ∧
    (s.store.record ['u']).get = some newRecord ∧
    (s'.store.record ['u']).get = none ∧ (['u'], newRecord) ∉ s.refused := by
  obtain ⟨s, hr, hp⟩ := (preflightMachine Store.dictTables
    fun _ => some []).exists_reaches_of_runOk (fun _ _ => True)
    (init ⟨[], fun _ => .holds []⟩)
    [.start 0 ['u'], .go 0 .good, .go 0 .good, .go 0 .good, .go 0 .good, .go 0 .good,
      .other (.setDeviceRecord ['u'] newRecord true true),
      .go 0 (.returns .sslError)]
    (fun s => decide ((s.store.record ['u']).get = some newRecord ∧
      s.refused = [(['u'], [])] ∧
      (s.step Store.dictTables (fun _ => some []) (.go 0 .good)).any
        (fun s' => (s'.store.record ['u']).get.isNone) = true)) (by decide)
  obtain ⟨hsaved, hrefused, hstep⟩ := of_decide_eq_true hp
  obtain ⟨s', hs', hgone⟩ := (Option.any_eq_true ..).mp hstep
  refine ⟨s, s', hr, hs', hsaved, Option.isNone_iff_eq_none.mp hgone, ?_⟩
  -- what the device has refused is the empty record that was there before
  simp [hrefused, newRecord]

end Files

end Preflight

end Usbmuxd
