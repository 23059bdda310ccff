import Mathlib.Data.List.AList
import Mathlib.Logic.Function.Basic
import Usbmuxd.Library.Interleaving

/-!
# The BUID of the system

The host has an identifier, `SystemBUID`, that is made up when it is first asked for and kept
in `SystemConfiguration.plist`, next to other values. Clients ask for it and so does the
preflight of a device, each in a thread of its own, and the devices are paired with it.

A call reads the file and looks the identifier up. If that does not succeed, for whatever
reason, it makes up a new one and stores it: it reads the file again, starts with an empty
dictionary if that fails, sets the value and writes the file. A file that is opened for writing
is empty until it is written; who reads it in the meantime fails.

## What goes wrong

Nothing keeps the calls apart. Between the first read of a call that finds no identifier and
its write there is none for any other call either, be it that it is not stored yet or that the
file is empty just then, so each call that reads in that time makes up its own
(`Usbmuxd.SystemBuid.Alone`). They return what they have made up, and the last one is stored;
and a call that finds the file empty twice stores nothing but its identifier.
-/

namespace Usbmuxd

open Interleaving

namespace SystemBuid

/-! ### The configuration -/

/-- `CONFIG_SYSTEM_BUID_KEY`, the one key that matters here. -/
def buidKey : List Char := ['S', 'y', 's', 't', 'e', 'm', 'B', 'U', 'I', 'D']

/-- A value in a property list. For the identifier it only matters whether it is a string, and
which one. -/
inductive Value (V : Type)
  /-- A string. -/
  | string (s : List Char)
  /-- Anything else. -/
  | other (v : V)
  deriving DecidableEq

/-- A dictionary, with one value for each key. -/
abbrev Config (V : Type) := AList fun _ : List Char => Value V

/-- The file `SystemConfiguration.plist`. Between opening and writing it is empty, and a thread
that reads it then finds nothing. -/
inductive File (V : Type)
  /-- There is none. -/
  | missing
  /-- It was opened for writing and nothing is written yet. -/
  | truncated
  /-- It has this dictionary. -/
  | holds (config : Config V)

/-- `readPlist`. That there is no file and that the file is empty comes to the same. -/
def File.read {V : Type} : File V → Option (Config V)
  | missing => none
  | truncated => none
  | holds config => some config

/-- `sysconf_get_value`, for the BUID. The value is found, but it need not be a string. -/
def File.buid {V : Type} (file : File V) : Option (Value V) :=
  file.read.bind (·.lookup buidKey)

/-! ### The calls -/

/-- What a call of `sysconf_get_system_buid` does next. There is one place for each access to
the file, since between two of them another call can do anything. -/
inductive Call (V : Type)
  /-- It reads the file for `sysconf_get_value`. -/
  | start
  /-- That failed, and it generates a BUID. -/
  | generate
  /-- It reads the file for `sysconf_set_value`. -/
  | setValue (buid : List Char)
  /-- It opens the file for writing. -/
  | openFile (buid : List Char) (config : Config V)
  /-- It writes the file. -/
  | writeFile (buid : List Char) (config : Config V)
  /-- It has returned. -/
  | returned (buid : List Char)
  /-- It has thrown, because the BUID is not a string. -/
  | threw

/-- The call has not found a BUID and has not stored one yet. Two such calls at the same time
are what makes trouble. -/
def Call.Regenerates {V : Type} : Call V → Prop
  | start => False
  | generate => True
  | setValue _ => True
  | openFile _ _ => True
  | writeFile _ _ => True
  | returned _ => False
  | threw => False

instance {V : Type} : (c : Call V) → Decidable c.Regenerates
  | .start => isFalse id
  | .generate => isTrue trivial
  | .setValue _ => isTrue trivial
  | .openFile _ _ => isTrue trivial
  | .writeFile _ _ => isTrue trivial
  | .returned _ => isFalse id
  | .threw => isFalse id

/-- The call has not looked for the BUID yet, so that nothing that happens now can confuse
it. -/
def Call.isStart {V : Type} : Call V → Bool
  | start => true
  | _ => false

/-- The file and the calls, of which each thread has one. -/
structure State (T V : Type) where
  /-- `SystemConfiguration.plist`. -/
  file : File V
  /-- Every call. -/
  call : T → Call V

/-- One step of a call. Which BUID is generated is not decided by the state, and so it is part
of the label. -/
inductive Label (T : Type)
  /-- The call goes on. -/
  | step (t : T)
  /-- `sysconf_generate_system_buid` returns this. -/
  | generated (t : T) (buid : List Char)

section Step

variable {T V : Type} [DecidableEq T]

/-- The call goes on here, and the file stays as it is. -/
def State.goto (s : State T V) (t : T) (c : Call V) : State T V :=
  { s with call := Function.update s.call t c }

/-- The dictionary that `sysconf_set_value` writes: all values of the file, as it has been read,
and the BUID. -/
def File.withBuid (file : File V) (buid : List Char) : Config V :=
  (file.read.getD ∅).insert buidKey (.string buid)

/-- `sysconf_get_system_buid`, one access to the file after the other. Other functions that
write the file are not among the steps. -/
def step (s : State T V) : Label T → Option (State T V)
  | .step t =>
    match s.call t with
    | .start =>
      match s.file.buid with
      | none => some (s.goto t .generate)
      | some (.string buid) => some (s.goto t (.returned buid))
      | some (.other _) => some (s.goto t .threw)
    | .generate => none
    | .setValue buid => some (s.goto t (.openFile buid (s.file.withBuid buid)))
    | .openFile buid config => some { s.goto t (.writeFile buid config) with file := .truncated }
    | .writeFile buid config => some { s.goto t (.returned buid) with file := .holds config }
    | .returned _ => none
    | .threw => none
  | .generated t buid =>
    match s.call t with
    | .generate => some (s.goto t (.setValue buid))
    | _ => none

/-- **A call starts alone**: when it looks the BUID up, no other call is about to store one. -/
def Alone (s : State T V) : Label T → Prop
  | .step t => (s.call t).isStart = true → ∀ t', ¬(s.call t').Regenerates
  | .generated _ _ => True

instance [∀ s : State T V, Decidable (∀ t, ¬(s.call t).Regenerates)] (s : State T V) :
    (l : Label T) → Decidable (Alone s l)
  | .step t => inferInstanceAs (Decidable ((s.call t).isStart = true →
      ∀ t', ¬(s.call t').Regenerates))
  | .generated _ _ => isTrue trivial

/-- No call has started yet, and the file is missing or as a call has left it. -/
structure Start (s : State T V) : Prop where
  /-- Every call is still to come. -/
  call_eq : ∀ t, s.call t = .start
  /-- The file is not being written. -/
  not_truncated : s.file ≠ .truncated
  /-- The BUID is a string, if there is one. -/
  buid_eq : ∀ v, s.file.buid = some v → ∃ buid, v = .string buid

end Step

end SystemBuid

/-- The calls of `sysconf_get_system_buid`, any number of them at the same time. -/
def systemBuidMachine (T V : Type) [DecidableEq T] :
    Machine (SystemBuid.State T V) (SystemBuid.Label T) := ⟨SystemBuid.step⟩

namespace SystemBuid

/-- **The BUID is stable**, from a state `s` to a later one `s'`: all calls return the same, it
is what is stored, nothing else in the file is lost, and every call can return. -/
structure Stable {T V : Type} [DecidableEq T] (s s' : State T V) : Prop where
  /-- All calls return the same. -/
  returned_eq : ∀ t t' buid buid', s'.call t = .returned buid → s'.call t' = .returned buid' →
    buid = buid'
  /-- It is what is stored. -/
  stored : ∀ t buid, s'.call t = .returned buid → s'.file.buid = some (.string buid)
  /-- Once there is a BUID the file stays as it is. -/
  kept : s.file.buid ≠ none → s'.file = s.file
  /-- The other values stay in any case, as long as the file is not being written, and they are
  there again when it was. -/
  others : ∀ config key v, s.file = .holds config → config.lookup key = some v →
    (∃ config', s'.file = .holds config' ∧ config'.lookup key = some v) ∨
      ∃ t buid config', s'.call t = .writeFile buid config' ∧ config'.lookup key = some v
  /-- No call throws. -/
  not_threw : ∀ t, s'.call t ≠ .threw
  /-- Every call can go on until it returns. -/
  returns : ∀ t, ∃ s'' buid, (systemBuidMachine T V).Reaches Alone s' s'' ∧
    s''.call t = .returned buid

variable {T V : Type} [DecidableEq T] {s s₀ s' : State T V} {t t' : T} {l : Label T}
  {c : Call V} {file : File V} {buid : List Char} {config : Config V}

/-! ### The invariant -/

/-- What a call relies on, with this file. A call that is going to write the file has to be sure
that nothing has been put there since it read it. -/
def CallOk (file : File V) : Call V → Prop
  | .start => True
  | .generate => file.buid = none ∧ file ≠ .truncated
  | .setValue _ => file.buid = none ∧ file ≠ .truncated
  | .openFile buid config =>
    (file.buid = none ∧ file ≠ .truncated) ∧ config = file.withBuid buid
  | .writeFile buid config =>
    file = .truncated ∧ config.lookup buidKey = some (.string buid)
  | .returned buid => file.buid = some (.string buid)
  | .threw => False

/-- **At most one call is about to store a BUID**, and none is stored until it has. -/
structure Inv (s : State T V) : Prop where
  /-- There is at most one such call. -/
  one : ∀ t t', (s.call t).Regenerates → (s.call t').Regenerates → t = t'
  /-- Every call can rely on the file. -/
  callOk : ∀ t, CallOk s.file (s.call t)
  /-- Only a call that writes the file leaves it empty. -/
  settled : s.file = .truncated → ∃ t buid config, s.call t = .writeFile buid config
  /-- The BUID is a string. -/
  buid_eq : ∀ v, s.file.buid = some v → ∃ buid, v = .string buid

omit [DecidableEq T] in
theorem inv_of_start (h : Start s) : Inv s where
  one := fun t _ hreg _ => by
    rw [h.call_eq t] at hreg
    exact hreg.elim
  callOk := fun t => by
    rw [h.call_eq t]
    trivial
  settled := fun htrunc => absurd htrunc h.not_truncated
  buid_eq := h.buid_eq

/-- As long as a call is about to store a BUID, there is none. -/
theorem buid_eq_none (h : CallOk file c) (hreg : c.Regenerates) : file.buid = none := by
  cases c with
  | start => exact hreg.elim
  | generate => exact h.1
  | setValue buid => exact h.1
  | openFile buid config => exact h.1.1
  | writeFile buid config =>
    rw [h.1]
    rfl
  | returned buid => exact hreg.elim
  | threw => exact hreg.elim

omit [DecidableEq T] in
/-- **While one call is about to store a BUID**, the others have not begun. -/
theorem Inv.eq_start (h : Inv s) (hreg : (s.call t).Regenerates) (hne : t' ≠ t) :
    s.call t' = .start := by
  have hnone := buid_eq_none (h.callOk t) hreg
  have hok := h.callOk t'
  have hnot : ¬(s.call t').Regenerates := fun hreg' => hne (h.one t' t hreg' hreg)
  cases hc : s.call t' with
  | start => rfl
  | returned buid =>
    rw [hc] at hok
    exact absurd (hnone.symm.trans hok) (by simp)
  | threw =>
    rw [hc] at hok
    exact hok.elim
  | generate => exact (hnot (hc ▸ trivial)).elim
  | setValue buid => exact (hnot (hc ▸ trivial)).elim
  | openFile buid config => exact (hnot (hc ▸ trivial)).elim
  | writeFile buid config => exact (hnot (hc ▸ trivial)).elim

/-- **A call goes on** while no other one is about to store a BUID, and what it leaves is a file
that all calls can rely on. -/
theorem inv_goto (hok : CallOk file c) (hothers : ∀ t', t' ≠ t → CallOk file (s.call t'))
    (hone : ∀ t', t' ≠ t → ¬(s.call t').Regenerates)
    (hsettled : file = .truncated → ∃ buid config, c = .writeFile buid config)
    (hbuid : ∀ v, file.buid = some v → ∃ buid, v = .string buid) :
    Inv { s.goto t c with file := file } := by
  have hcall : ∀ t', t' ≠ t → (s.goto t c).call t' = s.call t' :=
    fun t' hne => Function.update_of_ne hne ..
  have hself : (s.goto t c).call t = c := Function.update_self ..
  have honly : ∀ t', ((s.goto t c).call t').Regenerates → t' = t := by
    intro t' hreg
    by_contra hne
    rw [hcall t' hne] at hreg
    exact hone t' hne hreg
  refine ⟨fun t₁ t₂ h₁ h₂ => (honly t₁ h₁).trans (honly t₂ h₂).symm, fun t' => ?_, ?_, hbuid⟩
  · by_cases hne : t' = t
    · rw [hne]
      exact (congrArg (CallOk file) hself).mpr hok
    · exact (congrArg (CallOk file) (hcall t' hne)).mpr (hothers t' hne)
  · intro htrunc
    obtain ⟨buid, config, hc⟩ := hsettled htrunc
    exact ⟨t, buid, config, hself.trans hc⟩

omit [DecidableEq T] in
/-- What a call has returned is stored, so that two calls cannot have returned different
identifiers. -/
theorem Inv.stored (h : Inv s) (hc : s.call t = .returned buid) :
    s.file.buid = some (.string buid) := by
  have hok := h.callOk t
  rw [hc] at hok
  exact hok

/-! ### What a step does -/

/-- **What a step does**, with one case for each way on in `sysconf_get_system_buid`. -/
inductive Move (s : State T V) : Label T → State T V → Prop
  /-- There is no BUID. -/
  | missing {t : T} : s.call t = .start → s.file.buid = none →
    Move s (.step t) (s.goto t .generate)
  /-- There is one. -/
  | found {t : T} {buid : List Char} : s.call t = .start → s.file.buid = some (.string buid) →
    Move s (.step t) (s.goto t (.returned buid))
  /-- There is something else. -/
  | other {t : T} {v : V} : s.call t = .start → s.file.buid = some (.other v) →
    Move s (.step t) (s.goto t .threw)
  /-- A BUID has been made up. -/
  | generated {t : T} {buid : List Char} : s.call t = .generate →
    Move s (.generated t buid) (s.goto t (.setValue buid))
  /-- The file is read once more. -/
  | setValue {t : T} {buid : List Char} : s.call t = .setValue buid →
    Move s (.step t) (s.goto t (.openFile buid (s.file.withBuid buid)))
  /-- The file is opened, and empty from now on. -/
  | openFile {t : T} {buid : List Char} {config : Config V} :
    s.call t = .openFile buid config →
      Move s (.step t) { s.goto t (.writeFile buid config) with file := .truncated }
  /-- The file is written. -/
  | writeFile {t : T} {buid : List Char} {config : Config V} :
    s.call t = .writeFile buid config →
      Move s (.step t) { s.goto t (.returned buid) with file := .holds config }

/-- **Every step is one of these**, which is the only place where the definition of a step is
taken apart. -/
theorem step_move (hs : step s l = some s') : Move s l s' := by
  cases l with
  | generated t buid =>
    cases hc : s.call t with
    | generate =>
      rw [step, hc] at hs
      cases hs
      exact .generated hc
    | _ =>
      rw [step, hc] at hs
      cases hs
  | step t =>
    cases hc : s.call t with
    | start =>
      rw [step, hc] at hs
      cases hbuid : s.file.buid with
      | none =>
        rw [hbuid] at hs
        cases hs
        exact .missing hc hbuid
      | some v =>
        rw [hbuid] at hs
        cases v with
        | string buid =>
          cases hs
          exact .found hc hbuid
        | other v =>
          cases hs
          exact .other hc hbuid
    | setValue buid =>
      rw [step, hc] at hs
      cases hs
      exact .setValue hc
    | openFile buid config =>
      rw [step, hc] at hs
      cases hs
      exact .openFile hc
    | writeFile buid config =>
      rw [step, hc] at hs
      cases hs
      exact .writeFile hc
    | _ =>
      rw [step, hc] at hs
      cases hs

theorem buid_holds_withBuid (file : File V) (buid : List Char) :
    (file.withBuid buid).lookup buidKey = some (.string buid) := AList.lookup_insert _

/-- A call goes on without touching the file, when no other one is about to store a BUID and
none is writing. -/
theorem Inv.goto (h : Inv s) (hone : ∀ t', t' ≠ t → ¬(s.call t').Regenerates)
    (hnot : s.file ≠ .truncated) (hcok : CallOk s.file c) : Inv (s.goto t c) :=
  inv_goto hcok (fun t' _ => h.callOk t') hone (fun htrunc => absurd htrunc hnot) h.buid_eq

omit [DecidableEq T] in
/-- A call that is about to store a BUID is the only one, and this is what the condition on the
schedule comes to. -/
theorem Inv.others (h : Inv s) (hreg : (s.call t).Regenerates) :
    ∀ t', t' ≠ t → ¬(s.call t').Regenerates :=
  fun t' hne hreg' => hne (h.one t' t hreg' hreg)

omit [DecidableEq T] in
/-- The file is not being written when no call is about to store a BUID. -/
theorem Inv.not_truncated (h : Inv s) (hnone : ∀ t, ¬(s.call t).Regenerates) :
    s.file ≠ .truncated := by
  intro htrunc
  obtain ⟨t, buid, config, hc⟩ := h.settled htrunc
  exact hnone t (hc ▸ trivial)

/-- **Every step keeps the invariant**, if a call starts alone. No other condition is put on the
order of the steps. -/
theorem inv_step (h : Inv s) (hok : Alone s l) (hs : step s l = some s') : Inv s' := by
  cases step_move hs with
  | @missing t hc hbuid =>
    have hnone : ∀ t', ¬(s.call t').Regenerates := hok (by rw [hc]; rfl)
    have hnot := h.not_truncated hnone
    exact h.goto (fun t' _ => hnone t') hnot ⟨hbuid, hnot⟩
  | @found t buid hc hbuid =>
    have hnone : ∀ t', ¬(s.call t').Regenerates := hok (by rw [hc]; rfl)
    exact h.goto (fun t' _ => hnone t') (h.not_truncated hnone) hbuid
  | other hc hbuid =>
    obtain ⟨buid, hstring⟩ := h.buid_eq _ hbuid
    cases hstring
  | @generated t buid hc =>
    have hcok := hc ▸ h.callOk t
    exact h.goto (h.others (hc ▸ trivial)) hcok.2 hcok
  | @setValue t buid hc =>
    have hcok := hc ▸ h.callOk t
    exact h.goto (h.others (hc ▸ trivial)) hcok.2 ⟨hcok, rfl⟩
  | @openFile t buid config hc =>
    obtain ⟨-, hconfig⟩ := hc ▸ h.callOk t
    have hreg : (s.call t).Regenerates := hc ▸ trivial
    refine inv_goto ⟨rfl, ?_⟩ (fun t' hne => ?_) (h.others hreg)
      (fun _ => ⟨buid, config, rfl⟩) (fun v hv => by cases hv)
    · rw [hconfig]
      exact buid_holds_withBuid ..
    · rw [h.eq_start hreg hne]
      trivial
  | @writeFile t buid config hc =>
    obtain ⟨-, hconfig⟩ := hc ▸ h.callOk t
    have hreg : (s.call t).Regenerates := hc ▸ trivial
    refine inv_goto hconfig (fun t' hne => ?_) (h.others hreg)
      (fun htrunc => by cases htrunc) (fun v hv => ⟨buid, ?_⟩)
    · rw [h.eq_start hreg hne]
      trivial
    · exact Option.some.inj (hv.symm.trans hconfig)

theorem inv_of_reaches (h : Inv s₀) (hr : (systemBuidMachine T V).Reaches Alone s₀ s) : Inv s :=
  hr.invariant h fun _ _ _ hinv hok hs => inv_step hinv hok hs

/-- **A call that does not start alone** makes up a BUID of its own. -/
theorem step_start_of_not_alone (h : Inv s) (hc : s.call t = .start)
    (hreg : (s.call t').Regenerates) : step s (.step t) = some (s.goto t .generate) := by
  rw [step, hc, buid_eq_none (h.callOk t') hreg]

/-! ### What stays in the file -/

/-- **A BUID that is stored stays**, since no call is about to store one. -/
theorem file_eq_of_step (h : Inv s) (hbuid : s.file.buid ≠ none) (hs : step s l = some s') :
    s'.file = s.file := by
  have hnot : ∀ t, ¬(s.call t).Regenerates := fun t hreg =>
    hbuid (buid_eq_none (h.callOk t) hreg)
  cases step_move hs with
  | @openFile t buid config hc => exact (hnot t (hc ▸ trivial)).elim
  | @writeFile t buid config hc => exact (hnot t (hc ▸ trivial)).elim
  | _ => rfl

/-- The value is in the file, or a call is about to write it there. -/
def Has (key : List Char) (v : Value V) (s : State T V) : Prop :=
  (∃ config, s.file = .holds config ∧ config.lookup key = some v) ∨
    ∃ t buid config, s.call t = .writeFile buid config ∧ config.lookup key = some v

/-- What is in a file that is not opened or written stays there. So reading does no harm. -/
theorem has_goto {key : List Char} {v : Value V} (h : Has key v s)
    (hnot : ∀ buid config, s.call t ≠ .writeFile buid config) : Has key v (s.goto t c) := by
  rcases h with hfile | ⟨t', buid, config, hc, hlookup⟩
  · exact Or.inl hfile
  · refine Or.inr ⟨t', buid, config, ?_, hlookup⟩
    have hne : t' ≠ t := by
      rintro rfl
      exact hnot buid config hc
    exact (Function.update_of_ne hne ..).trans hc

/-- A call opens the file. What it has read before has all values in it. -/
theorem has_openFile {key : List Char} {v : Value V} (h : Inv s) (hv : Has key v s)
    (hc : s.call t = .openFile buid config) :
    Has key v { s.goto t (.writeFile buid config) with file := .truncated } := by
  obtain ⟨⟨hnone, hnot⟩, rfl⟩ := hc ▸ h.callOk t
  rcases hv with ⟨config, hfile, hlookup⟩ | ⟨t', buid', config', hc', -⟩
  · refine Or.inr ⟨t, buid, _, Function.update_self .., ?_⟩
    have hne : key ≠ buidKey := by
      rintro rfl
      rw [hfile] at hnone
      exact absurd (hnone.symm.trans hlookup) (by simp)
    rw [hfile, File.withBuid, AList.lookup_insert_ne hne]
    exact hlookup
  · exact absurd (hc' ▸ h.callOk t').1 hnot

/-- A call writes the file, with the values that it has read before, and none of them has
changed since. -/
theorem has_writeFile {key : List Char} {v : Value V} (h : Inv s) (hv : Has key v s)
    (hc : s.call t = .writeFile buid config) :
    Has key v { s.goto t (.returned buid) with file := .holds config } := by
  have htrunc := (hc ▸ h.callOk t).1
  rcases hv with ⟨config, hfile, -⟩ | ⟨t', buid', config', hc', hlookup⟩
  · exact absurd (htrunc.symm.trans hfile) (by simp)
  · obtain rfl : t' = t := h.one t' t (hc' ▸ trivial) (hc ▸ trivial)
    cases hc.symm.trans hc'
    exact Or.inl ⟨config, rfl, hlookup⟩

theorem has_step {key : List Char} {v : Value V} (h : Inv s) (hv : Has key v s)
    (hs : step s l = some s') : Has key v s' := by
  cases step_move hs with
  | openFile hc => exact has_openFile h hv hc
  | writeFile hc => exact has_writeFile h hv hc
  | missing hc | found hc | other hc | generated hc | setValue hc =>
    exact has_goto hv (by simp [hc])

/-! ### Every call returns -/

/-- The call can go on until it returns, by some further steps that start calls alone. -/
def CanReturn (s : State T V) (t : T) : Prop :=
  ∃ s' buid, (systemBuidMachine T V).Reaches Alone s s' ∧ s'.call t = .returned buid

/-- One more step in front of the others. With this it is shown from the end that a call can
return. -/
theorem CanReturn.of_step (hok : Alone s l) (hs : step s l = some s') (h : CanReturn s' t) :
    CanReturn s t := by
  obtain ⟨s'', buid, hr, hreturned⟩ := h
  exact ⟨s'', buid, (Machine.Reaches.tail l .refl hok hs).trans hr, hreturned⟩

omit [DecidableEq T] in
/-- A call that has looked for the BUID need not be alone. The condition is on the first step of
a call only. -/
theorem alone_of_regenerates (hreg : (s.call t).Regenerates) : Alone s (.step t) := by
  intro hstart
  cases hc : s.call t <;> rw [hc] at hstart hreg
  case start => exact hreg.elim
  all_goals cases hstart

theorem canReturn_writeFile (hc : s.call t = .writeFile buid config) : CanReturn s t := by
  have hok : Alone s (.step t) := alone_of_regenerates (hc ▸ trivial)
  refine .of_step hok (by rw [step, hc]) ⟨_, buid, .refl, ?_⟩
  exact Function.update_self ..

theorem canReturn_openFile (hc : s.call t = .openFile buid config) : CanReturn s t := by
  have hok : Alone s (.step t) := alone_of_regenerates (hc ▸ trivial)
  exact .of_step hok (by rw [step, hc]) (canReturn_writeFile (Function.update_self ..))

theorem canReturn_setValue (hc : s.call t = .setValue buid) : CanReturn s t := by
  have hok : Alone s (.step t) := alone_of_regenerates (hc ▸ trivial)
  exact .of_step hok (by rw [step, hc]) (canReturn_openFile (Function.update_self ..))

/-- **A call that is about to store a BUID** can do so and return. -/
theorem canReturn_of_regenerates (hreg : (s.call t).Regenerates) : CanReturn s t := by
  cases hc : s.call t with
  | generate =>
    refine .of_step (l := .generated t []) trivial (by rw [step, hc]) ?_
    exact canReturn_setValue (Function.update_self ..)
  | setValue buid => exact canReturn_setValue hc
  | openFile buid config => exact canReturn_openFile hc
  | writeFile buid config => exact canReturn_writeFile hc
  | start => exact (hc ▸ hreg : Call.Regenerates .start).elim
  | returned buid => exact (hc ▸ hreg : Call.Regenerates (.returned buid)).elim
  | threw => exact (hc ▸ hreg : Call.Regenerates .threw).elim

/-- A call that starts when no other one is about to store a BUID. -/
theorem canReturn_start (h : Inv s) (hnone : ∀ t', ¬(s.call t').Regenerates)
    (hc : s.call t = .start) : CanReturn s t := by
  have hok : Alone s (.step t) := fun _ => hnone
  cases hbuid : s.file.buid with
  | none =>
    have hs : step s (.step t) = some (s.goto t .generate) := by rw [step, hc, hbuid]
    have hnext : (s.goto t .generate).call t = .generate := Function.update_self ..
    exact .of_step hok hs (canReturn_of_regenerates (by rw [hnext]; trivial))
  | some v =>
    obtain ⟨buid, rfl⟩ := h.buid_eq v hbuid
    have hs : step s (.step t) = some (s.goto t (.returned buid)) := by rw [step, hc, hbuid]
    exact .of_step hok hs ⟨_, buid, .refl, Function.update_self ..⟩

/-- **Every call can return**: one that has not begun waits for the one that is about to store a
BUID. -/
theorem canReturn (h : Inv s) (t : T) : CanReturn s t := by
  have hquiet : ∀ {s : State T V}, Inv s → (∀ t', ¬(s.call t').Regenerates) → CanReturn s t := by
    intro s h hnone
    have hok := h.callOk t
    cases hc : s.call t with
    | start => exact canReturn_start h hnone hc
    | returned buid => exact ⟨s, buid, .refl, hc⟩
    | threw =>
      rw [hc] at hok
      exact hok.elim
    | _ => exact (hnone t (hc ▸ trivial)).elim
  by_cases hreg : ∃ t', (s.call t').Regenerates
  · obtain ⟨t', hreg⟩ := hreg
    obtain ⟨s', buid, hr, hreturned⟩ := canReturn_of_regenerates hreg
    have h' := inv_of_reaches h hr
    -- the BUID is stored now
    have hstored := h'.stored hreturned
    obtain ⟨s'', buid', hr', hreturned'⟩ := hquiet h' fun t'' hreg' =>
      absurd ((buid_eq_none (h'.callOk t'') hreg').symm.trans hstored) (by simp)
    exact ⟨s'', buid', hr.trans hr', hreturned'⟩
  · exact hquiet h (not_exists.mp hreg)

/-! ### All runs -/

/-- **The BUID is stable in every run in which the calls start alone**, between any two states
of it. -/
theorem stable_of_reaches (h : Start s₀) (hr : (systemBuidMachine T V).Reaches Alone s₀ s)
    (hr' : (systemBuidMachine T V).Reaches Alone s s') : Stable s s' := by
  have hinv := inv_of_reaches (inv_of_start h) hr
  have hinv' := inv_of_reaches hinv hr'
  refine ⟨fun t t' buid buid' hc hc' => ?_, fun _ _ => hinv'.stored, fun hbuid => ?_, ?_,
    fun t hc => ?_, canReturn hinv'⟩
  · have heq := (hinv'.stored hc).symm.trans (hinv'.stored hc')
    exact Value.string.inj (Option.some.inj heq)
  · refine (hr'.invariant (I := fun s'' => Inv s'' ∧ s''.file = s.file) ⟨hinv, rfl⟩ ?_).2
    rintro s₁ l s₂ ⟨h₁, hfile⟩ hok hs
    have hsame := file_eq_of_step h₁ (hfile ▸ hbuid) hs
    exact ⟨inv_step h₁ hok hs, hsame.trans hfile⟩
  · intro config key v hfile hlookup
    refine (hr'.invariant (I := fun s'' => Inv s'' ∧ Has key v s'')
      ⟨hinv, Or.inl ⟨config, hfile, hlookup⟩⟩ ?_).2
    rintro s₁ l s₂ ⟨h₁, hv⟩ hok hs
    exact ⟨inv_step h₁ hok hs, has_step h₁ hv hs⟩
  · exact (hc ▸ hinv'.callOk t : CallOk s'.file .threw)

/-! ### Runs -/

/-- What the call has returned, if it has. -/
def Call.result : Call V → Option (List Char)
  | returned buid => some buid
  | _ => none

theorem Call.eq_returned (h : c.result = some buid) : c = .returned buid := by
  cases c with
  | returned buid' =>
    cases h
    rfl
  | _ => cases h

/-- Two calls, and no file. Whichever call is first has to make one. -/
def noFile : State Bool Unit := ⟨.missing, fun _ => .start⟩

/-- One call stores a BUID, and then the other one returns it. The second starts only when the
first has written the file. -/
theorem stable_of_reaches_alone : ∃ s : State Bool Unit,
    s.call true = .returned ['A'] ∧ Stable noFile s := by
  obtain ⟨s, hr, hp⟩ :=
    (systemBuidMachine Bool Unit).exists_reaches_of_runOk Alone noFile
      [.step false, .generated false ['A'], .step false, .step false, .step false, .step true]
      (fun s => decide ((s.call true).result = some ['A'])) (by decide)
  have hstart : Start noFile := ⟨fun _ => rfl, nofun, nofun⟩
  exact ⟨s, Call.eq_returned (of_decide_eq_true hp), stable_of_reaches hstart .refl hr⟩

/-- **Two BUIDs**: both calls find none, and each returns its own. The one that is written last
is kept. -/
theorem two_buids : ∃ s : State Bool Unit,
    (systemBuidMachine Bool Unit).Reachable noFile s ∧ Start noFile ∧ ¬Stable noFile s := by
  obtain ⟨s, hr, hp⟩ :=
    (systemBuidMachine Bool Unit).exists_reaches_of_runOk (fun _ _ => True) noFile
      [.step false, .step true, .generated false ['A'], .step false, .step false, .step false,
        .generated true ['B'], .step true, .step true, .step true]
      (fun s => decide ((s.call false).result = some ['A'] ∧ (s.call true).result = some ['B']))
      (by decide)
  obtain ⟨hfirst, hsecond⟩ := of_decide_eq_true hp
  refine ⟨s, hr, ⟨fun _ => rfl, nofun, nofun⟩, fun hstable => ?_⟩
  have heq := hstable.returned_eq false true ['A'] ['B'] (Call.eq_returned hfirst)
    (Call.eq_returned hsecond)
  exact absurd heq (by decide)

end SystemBuid

end Usbmuxd
