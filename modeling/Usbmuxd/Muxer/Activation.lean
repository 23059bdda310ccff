import Usbmuxd.Muxer.Lifecycle

/-!
# One activation

A USB device is activated when it answers the version packet: `device_version_input` looks
whether that has happened already, stores the version, sends `MUX_PROTO_SETUP`, sets `_state`
and calls `Muxer::add_device`. Packets are handed on without a lock, and as long as the version
is not stored not even in their order, so there may be several receivers in it. Here it is cut
at each of these actions, which the life of a device (`Usbmuxd.Lifecycle`) does not need.

The calls of `add_device` and the setup packets are counted. The muxer goes on as it does,
with other devices and with removals of this one at any time.

## What goes wrong

What is looked at first, `_state`, is set almost at the end. Whoever looks at it in between
goes on as well (`Usbmuxd.Activation.Exclusive`), and then the device is set up twice and added
twice; and the second call of `add_device` gives it another ID while it is attached.
-/

namespace Usbmuxd

open Interleaving Muxer

/-! ### The handshake, action by action -/

namespace Activation

/-- What a receiver does next in `device_version_input`. Between two of these places another
receiver may do the same. -/
inductive Stage
  /-- It is not in it, or in `add_device` already. -/
  | away
  /-- It has passed the checks, and stores `_muxdev.version`. -/
  | storeVersion (major : ℕ)
  /-- It sends `MUX_PROTO_SETUP`, if the version is at least 2. -/
  | sendSetup
  /-- It stores `_state`. -/
  | storeState
  /-- It calls `add_device`. -/
  | addDevice
  deriving DecidableEq

end Activation

/-- A USB device, the muxer, and the receivers. It is counted how often the device has been set
up and added, as the flags of the device do not tell. -/
structure Activation (T C : Type) where
  /-- The muxer. -/
  mux : Muxer T C
  /-- `_state`. -/
  state : MuxDevState
  /-- `_muxdev.version`. -/
  version : ℕ
  /-- Where each thread is in `device_version_input`. -/
  stage : T → Activation.Stage
  /-- The setup packets that have been sent. -/
  setups : ℕ
  /-- The calls of `add_device` for the device. -/
  adds : ℕ

namespace Activation

section Step

variable {S T C : Type} [DecidableEq S] [DecidableEq T] [Fintype T] [DecidableEq C]
  (E : MuxerEnv S C) (dev : ℕ) (s : Activation T C)

/-- A device that has been sent the version packet. The muxer knows nothing of it. -/
def init : Activation T C where
  mux := .init
  state := .muxdevInit
  version := 0
  stage := fun _ => .away
  setups := 0
  adds := 0

/-- Thread `t` goes on here, and the rest stays as it is. -/
def goto (t : T) (stage : Stage) : Activation T C :=
  { s with stage := Function.update s.stage t stage }

/-- The thread is in none of the calls, neither of the device nor of the muxer. -/
def isIdle (t : T) : Bool := s.stage t = .away && (s.mux.thread t).isIdle

/-- The checks of `device_version_input`, which throws if the first fails and calls `kill` if the
second does. -/
def checkVersion (t : T) (major : ℕ) : Activation T C :=
  if s.state ≠ .muxdevInit then s
  else if major ≠ 2 ∧ major ≠ 1 then s
  else s.goto t (.storeVersion major)

/-- Thread `t` goes on in `device_version_input`; `ok` is whether `usb_send` succeeds, and if it
does not then `send_packet` throws. -/
def goOn (t : T) (ok : Bool) : Stage → Option (Activation T C)
  | .away => none
  | .storeVersion major => some { s.goto t .sendSetup with version := major }
  | .sendSetup =>
    if 2 ≤ s.version then
      if ok then some { s.goto t .storeState with setups := s.setups + 1 }
      else some (s.goto t .away)
    else some (s.goto t .storeState)
  | .storeState => some { s.goto t .addDevice with state := .muxdevActive }
  | .addDevice =>
    some { s.goto t .away with
      adds := s.adds + 1
      mux := s.mux.go t (Request.call (.addDevice dev)) }

/-- The muxer is called to add the device. No other thread does this but the receivers, in the
handshake. -/
def isAdd : Request C → Bool
  | .addDevice d => d = dev
  | _ => false

/-- A step. A version packet can come at any time, also when the handshake is over. -/
inductive Label (T C : Type)
  /-- A receiver gets a version packet. -/
  | versionPacket (t : T) (major : ℕ)
  /-- A receiver goes on in `device_version_input`. -/
  | goOn (t : T) (ok : Bool)
  /-- The muxer is called for anything else, as for other devices or to remove this one. -/
  | other (t : T) (r : Request C)
  /-- A thread that is in a call of the muxer makes a step. -/
  | run (t : T) (ok : Bool)

/-- One step, by a receiver or by another thread that uses the muxer. -/
def step : Label T C → Option (Activation T C)
  | .versionPacket t major => if s.isIdle t then some (s.checkVersion t major) else none
  | .goOn t ok => s.goOn dev t ok (s.stage t)
  | .other t r =>
    if s.isIdle t ∧ isAdd dev r = false then some { s with mux := s.mux.go t r.call } else none
  | .run t ok => (s.mux.threadStep E t ok).map fun mux => { s with mux := mux }

/-- **One receiver at a time**: when a version packet passes the checks, no other receiver is
between them and the call of `add_device`. -/
def Exclusive : Label T C → Prop
  | .versionPacket _ major => s.state = .muxdevInit → major = 2 ∨ major = 1 →
      ∀ t, s.stage t = .away
  | _ => True

instance : (l : Label T C) → Decidable (s.Exclusive l)
  | .versionPacket _ major => inferInstanceAs (Decidable (s.state = .muxdevInit →
      major = 2 ∨ major = 1 → ∀ t, s.stage t = .away))
  | .goOn _ _ => isTrue trivial
  | .other _ _ => isTrue trivial
  | .run _ _ => isTrue trivial

end Step

end Activation

/-- The activation of a device, as a machine, with any number of receivers. -/
def activationMachine {S T C : Type} [DecidableEq S] [DecidableEq T] [Fintype T] [DecidableEq C]
    (E : MuxerEnv S C) (dev : ℕ) : Machine (Activation T C) (Activation.Label T C) :=
  ⟨fun s l => s.step E dev l⟩

/-- **The device is activated at most once**, from a state `s` to a later one `s'`. -/
structure ActivatedOnce {T C : Type} (dev : ℕ) (s s' : Activation T C) : Prop where
  /-- `add_device` is called at most once. -/
  adds_le : s'.adds ≤ 1
  /-- At most one setup packet is sent. -/
  setups_le : s'.setups ≤ 1
  /-- An attached device keeps its ID. -/
  id_eq : dev ∈ s.mux.devices → s'.mux.id dev = s.mux.id dev

/-! ### What a step of the muxer does to a device that is being added -/

namespace Muxer

variable {S T C : Type} [DecidableEq S] [DecidableEq T] [Fintype T] [DecidableEq C]
  {E : MuxerEnv S C} {m m' : Muxer T C} {t t' : T} {ok : Bool} {dev : ℕ}

/-- **A step begins no addition**, and it is only in an addition that an ID is assigned. -/
theorem threadStep_adds (h : m.threadStep E t ok = some m') :
    ((m'.thread t).Adds dev → (m.thread t).Adds dev) ∧
      (¬(m.thread t).Adds dev → m'.id dev = m.id dev) := by
  rcases threadStep_cases h with hby | ⟨d, hpc, rfl⟩ | ⟨d, hpc, hscan⟩ | ⟨d, hpc, -, rfl⟩
  · obtain ⟨pc, hthread, hnot⟩ := hby.thread
    rw [hthread, Function.update_self, hby.id]
    exact ⟨fun ha => absurd ha (hnot dev), fun _ => rfl⟩
  · rw [hpc]
    rcases lookupId_cases (E := E) m t d with heq | ⟨odev, -, -, -, heq⟩ <;> rw [heq]
    · exact ⟨fun ha => (go_thread_self m t _ ▸ ha : Call.Adds dev (.scan d)),
        fun hne => Function.update_of_ne (fun he => hne he.symm) ..⟩
    · exact ⟨fun ha => (go_thread_self m t _ ▸ ha : Call.Adds dev (.insert d)),
        fun hne => Function.update_of_ne (fun he => hne he.symm) ..⟩
  · rw [hpc]
    obtain ⟨newid, -, rfl⟩ := Option.map_eq_some_iff.mp hscan
    exact ⟨fun ha => (go_thread_self m t _ ▸ ha : Call.Adds dev (.insert d)),
      fun hne => Function.update_of_ne (fun he => hne he.symm) ..⟩
  · obtain ⟨pc, hpc', heq⟩ := insertStep_eq (E := E) m t d
    rw [heq]
    refine ⟨fun ha => absurd ?_ (Call.not_adds_of_inserted hpc' dev), fun _ => rfl⟩
    exact (go_thread_self m t pc ▸ ha : pc.Adds dev)

/-- A device that is attached has been before, or its addition is over now. -/
theorem threadStep_attached (h : m.threadStep E t ok = some m') (hmem : dev ∈ m'.devices) :
    dev ∈ m.devices ∨ (m.thread t).Adds dev ∧ ¬(m'.thread t).Adds dev := by
  rcases threadStep_mem h hmem with hold | hpc
  · exact Or.inl hold
  · refine Or.inr ⟨by rw [hpc]; rfl, ?_⟩
    simp only [threadStep, hpc, Option.ite_none_right_eq_some, Option.some.injEq] at h
    obtain ⟨-, rfl⟩ := h
    obtain ⟨pc, hpc', heq⟩ := insertStep_eq (E := E) m t dev
    rw [heq]
    exact fun ha => Call.not_adds_of_inserted hpc' dev (go_thread_self m t pc ▸ ha)

end Muxer

namespace Activation

variable {S T C : Type} [DecidableEq S] [DecidableEq T] [Fintype T] [DecidableEq C]
  {E : MuxerEnv S C} {dev : ℕ} {s s₀ s' : Activation T C} {l : Label T C} {t : T} {ok : Bool}

/-! ### The handshake -/

/-- What is known where a receiver is in the handshake: how far the device is, and what has been
done for it. -/
def StageOk (state : MuxDevState) (setups adds : ℕ) : Stage → Prop
  | .away => True
  | .storeVersion _ => state = .muxdevInit ∧ setups = 0 ∧ adds = 0
  | .sendSetup => state = .muxdevInit ∧ setups = 0 ∧ adds = 0
  | .storeState => state = .muxdevInit ∧ setups ≤ 1 ∧ adds = 0
  | .addDevice => state ≠ .muxdevInit ∧ setups ≤ 1 ∧ adds = 0

/-- What is known when no receiver is in the handshake: it has not begun, or it is over. -/
structure Quiet (state : MuxDevState) (setups adds : ℕ) : Prop where
  setups_le : setups ≤ 1
  adds_le : adds ≤ 1
  /-- The device is not activated. -/
  init : state = .muxdevInit → setups = 0 ∧ adds = 0

/-- **At most one receiver is in the handshake**, and the counts are what they are at its
stage. -/
structure Handshake (s : Activation T C) : Prop where
  one : ∀ t t', s.stage t ≠ .away → s.stage t' ≠ .away → t = t'
  stageOk : ∀ t, StageOk s.state s.setups s.adds (s.stage t)
  quiet : (∀ t, s.stage t = .away) → Quiet s.state s.setups s.adds

omit [DecidableEq T] [Fintype T] [DecidableEq C] in
theorem handshake_init : Handshake (init : Activation T C) where
  one := fun _ _ h => absurd rfl h
  stageOk := fun _ => trivial
  quiet := fun _ => ⟨Nat.zero_le _, Nat.zero_le _, fun _ => ⟨rfl, rfl⟩⟩

omit [Fintype T] [DecidableEq C] in
/-- A receiver goes on while the others are away. Then only its own place matters. -/
theorem handshake_goto {stage : Stage} (hothers : ∀ t', t' ≠ t → s.stage t' = .away)
    (hstage : s'.stage = Function.update s.stage t stage)
    (hok : StageOk s'.state s'.setups s'.adds stage)
    (hquiet : stage = .away → Quiet s'.state s'.setups s'.adds) : Handshake s' := by
  have hself : s'.stage t = stage := by rw [hstage, Function.update_self]
  have hother : ∀ t', t' ≠ t → s'.stage t' = .away := fun t' hne => by
    rw [hstage, Function.update_of_ne hne]
    exact hothers t' hne
  have honly : ∀ t', s'.stage t' ≠ .away → t' = t := fun t' hin => by
    by_contra hne
    exact hin (hother t' hne)
  refine ⟨fun t₁ t₂ h₁ h₂ => (honly t₁ h₁).trans (honly t₂ h₂).symm, fun t' => ?_,
    fun haway => hquiet (hself.symm.trans (haway t))⟩
  by_cases hne : t' = t
  · rw [hne, hself]
    exact hok
  · rw [hother t' hne]
    trivial

omit [DecidableEq T] [Fintype T] [DecidableEq C] in
theorem Handshake.others (h : Handshake s) (hin : s.stage t ≠ .away) :
    ∀ t', t' ≠ t → s.stage t' = .away := fun t' hne => by
  by_contra hin'
  exact hne (h.one t' t hin' hin)

omit [Fintype T] [DecidableEq C] in
/-- **A receiver goes on**, from any place in the handshake to the next. -/
theorem handshake_goOn (h : Handshake s) (hs : s.goOn dev t ok (s.stage t) = some s') :
    Handshake s' := by
  have hok := h.stageOk t
  cases hstage : s.stage t with
  | away =>
    rw [hstage] at hs
    cases hs
  | storeVersion major =>
    have hothers := h.others (t := t) (by rw [hstage]; exact Stage.noConfusion)
    rw [hstage] at hs hok
    cases hs
    exact handshake_goto hothers rfl hok nofun
  | sendSetup =>
    have hothers := h.others (t := t) (by rw [hstage]; exact Stage.noConfusion)
    rw [hstage] at hs hok
    obtain ⟨hinit, hsetups, hadds⟩ := hok
    rw [goOn] at hs
    split_ifs at hs
    · cases hs
      exact handshake_goto hothers rfl ⟨hinit, by simp [hsetups], hadds⟩ nofun
    · -- the packet could not be sent, and nothing has happened
      cases hs
      refine handshake_goto hothers rfl trivial fun _ => ⟨?_, ?_, fun _ => ⟨hsetups, hadds⟩⟩
      · exact hsetups ▸ Nat.zero_le 1
      · exact hadds ▸ Nat.zero_le 1
    · cases hs
      exact handshake_goto hothers rfl ⟨hinit, hsetups ▸ Nat.zero_le 1, hadds⟩ nofun
  | storeState =>
    have hothers := h.others (t := t) (by rw [hstage]; exact Stage.noConfusion)
    rw [hstage] at hs hok
    cases hs
    exact handshake_goto hothers rfl ⟨nofun, hok.2⟩ nofun
  | addDevice =>
    have hothers := h.others (t := t) (by rw [hstage]; exact Stage.noConfusion)
    rw [hstage] at hs hok
    obtain ⟨hactive, hsetups, hadds⟩ := hok
    cases hs
    refine handshake_goto hothers rfl trivial fun _ => ⟨hsetups, ?_, fun hinit => ?_⟩
    · exact (congrArg (· + 1) hadds).le
    · exact absurd hinit hactive

omit [Fintype T] [DecidableEq C] in
/-- **A version packet** is taken by one receiver at a time. If the state of the device is no
longer `MUXDEV_INIT`, it is refused. -/
theorem handshake_checkVersion {major : ℕ} (h : Handshake s)
    (hok : s.Exclusive (.versionPacket t major)) : Handshake (s.checkVersion t major) := by
  rw [checkVersion]
  split_ifs with hinit hmajor
  · exact h
  · exact h
  · rw [not_not] at hinit
    have haway := hok hinit (by omega)
    exact handshake_goto (fun t' _ => haway t') rfl ⟨hinit, (h.quiet haway).init hinit⟩ nofun

theorem handshake_step (h : Handshake s) (hok : s.Exclusive l) (hs : s.step E dev l = some s') :
    Handshake s' := by
  cases l with
  | versionPacket t major =>
    obtain ⟨-, rfl⟩ := Option.ite_none_right_eq_some.mp hs |>.imp_right Option.some.inj
    exact handshake_checkVersion h hok
  | goOn t ok => exact handshake_goOn h hs
  | other t r =>
    obtain ⟨-, rfl⟩ := Option.ite_none_right_eq_some.mp hs |>.imp_right Option.some.inj
    exact ⟨h.one, h.stageOk, h.quiet⟩
  | run t ok =>
    obtain ⟨m, -, rfl⟩ := Option.map_eq_some_iff.mp hs
    exact ⟨h.one, h.stageOk, h.quiet⟩

omit [DecidableEq T] [Fintype T] [DecidableEq C] in
/-- **The counts** are at most one, in the handshake and after it, which is what the invariant
is for. -/
theorem Handshake.counts (h : Handshake s) : s.setups ≤ 1 ∧ s.adds ≤ 1 := by
  by_cases haway : ∀ t, s.stage t = .away
  · exact ⟨(h.quiet haway).setups_le, (h.quiet haway).adds_le⟩
  · obtain ⟨t, hin⟩ := not_forall.mp haway
    have hok := h.stageOk t
    cases hstage : s.stage t <;> rw [hstage] at hok
    case away => exact absurd hstage hin
    all_goals
      obtain ⟨-, hsetups, hadds⟩ := hok
      omega

/-! ### The addition -/

/-- **The device is added by one thread**, and that not while it is attached. -/
structure Adding (dev adds : ℕ) (m : Muxer T C) : Prop where
  /-- Before `add_device` is called, the muxer does not know the device. -/
  unknown : adds = 0 → dev ∉ m.devices ∧ ∀ t, ¬(m.thread t).Adds dev
  one : ∀ t t', (m.thread t).Adds dev → (m.thread t').Adds dev → t = t'
  fresh : ∀ t, (m.thread t).Adds dev → dev ∉ m.devices

omit [DecidableEq T] [Fintype T] [DecidableEq C] in
theorem adding_init : Adding dev 0 (Muxer.init : Muxer T C) where
  unknown := fun _ => ⟨List.not_mem_nil, fun _ h => h⟩
  one := fun _ _ h => h.elim
  fresh := fun _ h => h.elim

variable {m m' : Muxer T C} {adds : ℕ}

omit [Fintype T] [DecidableEq C] in
/-- `add_device` is called for the first time. There is no other call that adds this device. -/
theorem adding_addDevice (h : Adding dev 0 m) (t : T) :
    Adding dev 1 (m.go t (Request.call (.addDevice dev))) := by
  obtain ⟨hmem, hnone⟩ := h.unknown rfl
  have honly : ∀ t', ((m.go t (.lookup dev)).thread t').Adds dev → t' = t := by
    intro t' ha
    by_contra hne
    rw [go_thread_of_ne _ _ hne] at ha
    exact hnone t' ha
  exact ⟨nofun, fun t₁ t₂ h₁ h₂ => (honly t₁ h₁).trans (honly t₂ h₂).symm, fun _ _ => hmem⟩

omit [Fintype T] [DecidableEq C] in
/-- A thread is not going to add the device when it is called for something else. -/
theorem adds_of_go {r : Request C} (hr : isAdd dev r = false) {t t' : T}
    (ha : ((m.go t r.call).thread t').Adds dev) : (m.thread t').Adds dev := by
  by_cases hne : t' = t
  · subst hne
    rw [go_thread_self] at ha
    cases r with
    | addDevice d => exact absurd ha (of_decide_eq_false hr)
    | _ => exact ha.elim
  · rwa [go_thread_of_ne _ _ hne] at ha

omit [DecidableEq T] [Fintype T] [DecidableEq C] in
/-- Whatever begins no addition keeps this up, also if it removes the device. -/
theorem Adding.of_adds (h : Adding dev adds m)
    (hadds : ∀ t, (m'.thread t).Adds dev → (m.thread t).Adds dev)
    (hmem : dev ∈ m'.devices → dev ∈ m.devices ∨
      (∃ t, (m.thread t).Adds dev) ∧ ∀ t, ¬(m'.thread t).Adds dev) : Adding dev adds m' where
  unknown := fun hzero => by
    obtain ⟨hnot, hnone⟩ := h.unknown hzero
    refine ⟨fun hcon => ?_, fun t ha => hnone t (hadds t ha)⟩
    rcases hmem hcon with hold | ⟨⟨t, ha⟩, -⟩
    · exact hnot hold
    · exact hnone t ha
  one := fun t t' ha ha' => h.one t t' (hadds t ha) (hadds t' ha')
  fresh := fun t ha hcon => by
    rcases hmem hcon with hold | ⟨-, hnone⟩
    · exact h.fresh t (hadds t ha) hold
    · exact hnone t ha

theorem adds_of_threadStep (hs : m.threadStep E t ok = some m') {t' : T}
    (ha : (m'.thread t').Adds dev) : (m.thread t').Adds dev := by
  by_cases hne : t' = t
  · subst hne
    exact (threadStep_adds hs).1 ha
  · rwa [threadStep_others hs hne] at ha

/-- **A step of the muxer**: the insertion ends the one addition, and no other step inserts the
device. -/
theorem adding_run (h : Adding dev adds m) (hs : m.threadStep E t ok = some m') :
    Adding dev adds m' := by
  refine h.of_adds (fun t' => adds_of_threadStep hs) fun hmem => ?_
  rcases threadStep_attached hs hmem with hold | ⟨ha, hnot⟩
  · exact Or.inl hold
  · refine Or.inr ⟨⟨t, ha⟩, fun t' ha' => hnot ?_⟩
    rwa [← h.one t' t (adds_of_threadStep hs ha') ha]

theorem adding_step (h : Adding dev s.adds s.mux) (hhand : Handshake s)
    (hs : s.step E dev l = some s') : Adding dev s'.adds s'.mux := by
  cases l with
  | versionPacket t major =>
    obtain ⟨-, rfl⟩ := Option.ite_none_right_eq_some.mp hs |>.imp_right Option.some.inj
    rw [checkVersion]
    split_ifs <;> exact h
  | goOn t ok =>
    have hok := hhand.stageOk t
    rw [step] at hs
    cases hstage : s.stage t <;> rw [hstage] at hs hok
    case addDevice =>
      cases hs
      rw [hok.2.2] at h ⊢
      exact adding_addDevice h t
    case sendSetup =>
      rw [goOn] at hs
      split_ifs at hs <;> cases hs <;> exact h
    all_goals
      cases hs
      try exact h
  | other t r =>
    obtain ⟨⟨-, hr⟩, rfl⟩ := Option.ite_none_right_eq_some.mp hs |>.imp_right Option.some.inj
    exact h.of_adds (fun _ => adds_of_go hr) Or.inl
  | run t ok =>
    obtain ⟨m, hm, rfl⟩ := Option.map_eq_some_iff.mp hs
    exact adding_run h hm

/-! ### All runs -/

/-- The invariant of the handshake and of the addition, which are connected by the count of the
calls. -/
def Inv (dev : ℕ) (s : Activation T C) : Prop := Handshake s ∧ Adding dev s.adds s.mux

theorem inv_step (h : Inv dev s) (hok : s.Exclusive l) (hs : s.step E dev l = some s') :
    Inv dev s' := ⟨handshake_step h.1 hok hs, adding_step h.2 h.1 hs⟩

/-- The addition is over, with this ID. The device may have been removed again since. -/
def Added (dev id : ℕ) (s : Activation T C) : Prop :=
  s.adds ≠ 0 ∧ (∀ t, ¬(s.mux.thread t).Adds dev) ∧ s.mux.id dev = id

/-- **An ID stays** once the addition is over, as there is no other. -/
theorem added_step {id : ℕ} (h : Inv dev s) (hadded : Added dev id s)
    (hs : s.step E dev l = some s') : Added dev id s' := by
  obtain ⟨hadds, hnone, hid⟩ := hadded
  cases l with
  | versionPacket t major =>
    obtain ⟨-, rfl⟩ := Option.ite_none_right_eq_some.mp hs |>.imp_right Option.some.inj
    rw [checkVersion]
    split_ifs <;> exact ⟨hadds, hnone, hid⟩
  | goOn t ok =>
    have hok := h.1.stageOk t
    rw [step] at hs
    cases hstage : s.stage t <;> rw [hstage] at hs hok
    case addDevice => exact absurd hok.2.2 hadds
    case sendSetup =>
      rw [goOn] at hs
      split_ifs at hs <;> cases hs <;> exact ⟨hadds, hnone, hid⟩
    all_goals
      cases hs
      try exact ⟨hadds, hnone, hid⟩
  | other t r =>
    obtain ⟨⟨-, hr⟩, rfl⟩ := Option.ite_none_right_eq_some.mp hs |>.imp_right Option.some.inj
    exact ⟨hadds, fun t' ha => hnone t' (adds_of_go hr ha), hid⟩
  | run t ok =>
    obtain ⟨m, hm, rfl⟩ := Option.map_eq_some_iff.mp hs
    exact ⟨hadds, fun t' ha => hnone t' (adds_of_threadStep hm ha),
      ((threadStep_adds hm).2 (hnone t)).trans hid⟩

end Activation

open Activation

/-- **A device is activated at most once** in every run in which one receiver at a time passes
the checks. -/
theorem activated_once {S T C : Type} [DecidableEq S] [DecidableEq T] [Fintype T] [DecidableEq C]
    {E : MuxerEnv S C} {dev : ℕ} {s s' : Activation T C}
    (h : (activationMachine E dev).Reaches (fun s l => s.Exclusive l) init s)
    (h' : (activationMachine E dev).Reaches (fun s l => s.Exclusive l) s s') :
    ActivatedOnce dev s s' := by
  have hinv : Inv dev s := h.invariant ⟨handshake_init, adding_init⟩
    fun _ _ _ hi hok hs => inv_step hi hok hs
  have hcounts := (h'.invariant (I := Inv dev) hinv
    fun _ _ _ hi hok hs => inv_step hi hok hs).1.counts
  refine ⟨hcounts.2, hcounts.1, fun hmem => ?_⟩
  have hadded : Added dev (s.mux.id dev) s :=
    ⟨fun hzero => (hinv.2.unknown hzero).1 hmem, fun t ha => hinv.2.fresh t ha hmem, rfl⟩
  have hend := h'.invariant (I := fun s'' => Inv dev s'' ∧ Added dev (s.mux.id dev) s'')
    ⟨hinv, hadded⟩ fun _ _ _ hi hok hs => ⟨inv_step hi.1 hok hs, added_step hi.1 hi.2 hs⟩
  exact hend.2.2.2

/-- Two version packets, of which the second comes after the activation, and is refused. -/
theorem activated_once_in_turn : ∃ s : Activation Bool (Fin 0),
    (s.adds = 1 ∧ s.setups = 1) ∧ ActivatedOnce 1 s s := by
  obtain ⟨s, hr, hp⟩ := (activationMachine (T := Bool) Lifecycle.lone 1).exists_reaches_of_runOk
    (fun s l => s.Exclusive l) init
    [.versionPacket false 2, .goOn false true, .goOn false true, .goOn false true,
      .versionPacket true 2, .goOn false true, .run false true]
    (fun s => decide (s.adds = 1 ∧ s.setups = 1)) (by decide)
  exact ⟨s, of_decide_eq_true hp, activated_once hr .refl⟩

/-- **A device is activated twice**: two receivers pass the checks before one of them stores the
state. -/
theorem activated_twice : ∃ s : Activation Bool (Fin 0),
    (activationMachine Lifecycle.lone 1).Reachable init s ∧ s.adds = 2 ∧ s.setups = 2 ∧
      ¬ActivatedOnce 1 init s := by
  obtain ⟨s, hr, hp⟩ := (activationMachine (T := Bool) Lifecycle.lone 1).exists_reaches_of_runOk
    (fun _ _ => True) init
    [.versionPacket false 2, .versionPacket true 2, .goOn false true, .goOn false true,
      .goOn false true, .goOn false true, .goOn true true, .goOn true true, .goOn true true,
      .goOn true true]
    (fun s => decide (s.adds = 2 ∧ s.setups = 2)) (by decide)
  obtain ⟨hadds, hsetups⟩ := of_decide_eq_true hp
  exact ⟨s, hr, hadds, hsetups, fun honce => absurd honce.adds_le (by omega)⟩

end Usbmuxd
