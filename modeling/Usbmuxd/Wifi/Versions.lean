import Usbmuxd.Wifi.Calls

/-!
# Which discovery a session knows of

What has been discovered about a wifi device has a version, which is counted up in the
device when something changes. The session is told the version, as
`_pendingDiscoveryVersion`, and remembers which one its last attempt to connect was made
with, as `_appliedDiscoveryVersion`. It connects again when these differ. An update tells
the session after it has given `_sessionLck` back; `start` sets both to what it reads in the
device, before it makes the thread.

## What goes wrong

Between the reading and the writing of `start` an update may go through as a whole. Then
`start` writes a version that is no longer that of the device, and no one corrects it: every
attempt is made with the version of the device, and is given up because another one is
pending. So when `start` writes the version it has read, that must still be the version of
the device, or the update must have its own writing ahead of it
(`Usbmuxd.WifiVersions.StoresCurrent`).
-/

namespace Usbmuxd

open Interleaving WifiSession WifiCalls

namespace WifiVersions

/-- What has become of the last attempt to connect since the device has changed. -/
inductive Attempt
  /-- There has been none. -/
  | missing
  /-- It has read the version of the device. -/
  | taken
  /-- It has set `_appliedDiscoveryVersion`. -/
  | applied
  deriving DecidableEq

end WifiVersions

/-- A wifi device with its session, and an observer of the attempts to connect. -/
structure WifiVersions (T : Type) where
  /-- The device, the session, and the threads. -/
  host : WifiCalls T
  /-- The last attempt. -/
  attempt : WifiVersions.Attempt

namespace WifiVersions

variable {T : Type} [DecidableEq T] (cfg : WifiConfig) (s : WifiVersions T)

/-- A device that has just been found, for which there has been no attempt. -/
def init : WifiVersions T := ⟨WifiCalls.init, .missing⟩

/-- What a step makes of the last attempt: how far it is, and that it counts for nothing when
the discovery has changed. -/
def observe : WifiCalls.Label T → Attempt
  | .update changed => if changed then .missing else s.attempt
  | .worker _ =>
    match s.host.session.worker with
    | .snapshot => .taken
    | .storeApplied _ => if s.attempt = .taken then .applied else .missing
    | _ => s.attempt
  | _ => s.attempt

/-- One step, seen by the observer of the attempts. -/
def step (l : WifiCalls.Label T) : Option (WifiVersions T) :=
  (s.host.step cfg l).map fun host => ⟨host, s.observe l⟩

/-- The call is in `start`, and may still write a version. -/
def inStart : CallerPc → Bool
  | .starting _ _ => true
  | _ => false

/-- The call has set `_started`, and has not set `_pendingDiscoveryVersion` yet. It may be about
to write an old one. -/
def unread : CallerPc → Bool
  | .starting _ .snapshot => true
  | .starting _ (.storePending _) => true
  | _ => false

/-- The version that the call is about to write, which it has read some time before. -/
def storing : CallerPc → Option ℕ
  | .starting _ (.storePending version) => some version
  | _ => none

/-- **No `updateDiscoveryInfo` and no `start` is in progress**, so that nobody is about to write
a version. -/
def Quiet : Prop := s.host.updater = .idle ∧ ∀ t, inStart (s.host.caller t) = false

/-- **The versions have converged**: when all is quiet and the session is started, the
version that is pending is that of the device, and once an attempt to connect has been made
since the device has changed, it is the one that is applied. -/
structure Converged (s : WifiVersions T) : Prop where
  /-- What is pending is what the device has. -/
  pending : s.Quiet → s.host.session.started = true →
    s.host.session.pendingDiscoveryVersion = s.host.discoveryVersion
  /-- After an attempt, it is applied. -/
  applied : s.Quiet → s.host.session.started = true → s.attempt = .applied →
    s.host.session.pendingDiscoveryVersion = s.host.session.appliedDiscoveryVersion

/-- **`start` writes what is current**: the version it has read is still that of the device
when it writes it, or an update has its own writing ahead of it. -/
def StoresCurrent (s : WifiVersions T) : WifiCalls.Label T → Prop
  | .caller t => ∀ version ∈ storing (s.host.caller t),
      version = s.host.discoveryVersion ∨ s.host.updater.owes = true
  | _ => True

instance (s : WifiVersions T) : (l : WifiCalls.Label T) → Decidable (StoresCurrent s l)
  | .caller t => inferInstanceAs (Decidable (∀ version ∈ storing (s.host.caller t), _))
  | .call _ _ => isTrue trivial
  | .update _ => isTrue trivial
  | .updater => isTrue trivial
  | .worker _ => isTrue trivial

end WifiVersions

/-- The calls that reach a session, and its worker, observed for the versions. -/
def wifiVersionsMachine (T : Type) [DecidableEq T] (cfg : WifiConfig) :
    Machine (WifiVersions T) (WifiCalls.Label T) :=
  ⟨WifiVersions.step cfg⟩

namespace WifiVersions

variable {T : Type} [DecidableEq T] {cfg : WifiConfig} {s s' : WifiVersions T}
  {l : WifiCalls.Label T} {t : T} {pc : CallerPc} {session : WifiSession} {created : Bool}

/-! ### The invariant -/

/-- **The invariant.** Whoever has read or written a version has that of the device, unless
the device has changed since then; and a version that is pending wrongly is one that an
update has yet to correct. -/
structure Inv (s : WifiVersions T) : Prop where
  /-- One call at a time makes a worker. -/
  exclusive : Exclusive s.host
  /-- A session that is started is there. -/
  made : s.host.session.started = true → s.host.created = true
  /-- So is one that is being started. -/
  calls : ∀ t, inStart (s.host.caller t) = true → s.host.created = true
  /-- An update tells the session what the device has. -/
  notify : ∀ version changed, s.host.updater = .notify version changed →
    version = s.host.discoveryVersion
  /-- What is pending is what the device has, or will be. -/
  pending : s.host.session.started = true → (∀ t, unread (s.host.caller t) = false) →
    s.host.session.pendingDiscoveryVersion = s.host.discoveryVersion ∨
      s.host.updater.owes = true
  /-- What an attempt has read. -/
  taken : ∀ version, s.host.session.worker = .storeApplied version → s.attempt = .taken →
    version = s.host.discoveryVersion
  /-- What `start` has read, after an attempt. -/
  read : ∀ t kind version, s.host.caller t = .starting kind (.storePending version) →
    s.attempt = .applied → version = s.host.discoveryVersion
  /-- What `start` has written, after an attempt. -/
  stored : ∀ t kind, s.host.caller t = .starting kind .storeApplied → s.attempt = .applied →
    s.host.session.pendingDiscoveryVersion = s.host.discoveryVersion
  /-- What an attempt has applied. -/
  applied : s.attempt = .applied →
    s.host.session.appliedDiscoveryVersion = s.host.discoveryVersion

omit [DecidableEq T] in
theorem inv_init : Inv (init : WifiVersions T) where
  exclusive := exclusive_init
  made := fun h => by cases h
  calls := fun _ h => by cases h
  notify := fun _ _ h => by cases h
  pending := fun h => by cases h
  taken := fun _ h => by cases h
  read := fun _ _ _ h => by cases h
  stored := fun _ _ h => by cases h
  applied := fun h => by cases h

omit [DecidableEq T] in
/-- A call that is about to write has set `_started`, and so it is in `start`. -/
theorem not_inStart_unread {p : CallerPc} (h : inStart p = false) : unread p = false := by
  cases p <;> first | rfl | cases h

omit [DecidableEq T] in
theorem Inv.converged (h : Inv s) : Converged s := by
  have hpending : s.Quiet → s.host.session.started = true →
      s.host.session.pendingDiscoveryVersion = s.host.discoveryVersion := by
    intro hquiet hstarted
    rcases h.pending hstarted fun t => not_inStart_unread (hquiet.2 t) with hp | howes
    · exact hp
    · rw [hquiet.1] at howes
      cases howes
  exact ⟨hpending, fun hquiet hstarted happlied =>
    (hpending hquiet hstarted).trans (h.applied happlied).symm⟩

/-- **A call that goes on** without touching a version. It may leave `start`. -/
theorem Inv.go (h : Inv s)
    (hex : Exclusive { s.host.go t pc with session := session, created := created })
    (hpending : session.pendingDiscoveryVersion = s.host.session.pendingDiscoveryVersion)
    (happlied : session.appliedDiscoveryVersion = s.host.session.appliedDiscoveryVersion)
    (hworker : ∀ version, session.worker = .storeApplied version →
      s.host.session.worker = .storeApplied version)
    (hstarted : session.started = true → s.host.session.started = true ∨ unread pc = true)
    (hunread : unread (s.host.caller t) = true → unread pc = true)
    (hcreated : s.host.created = true → created = true)
    (hcalls : inStart pc = true → created = true)
    (hread : ∀ kind version, pc = .starting kind (.storePending version) →
      version = s.host.discoveryVersion)
    (hstored : ∀ kind, pc ≠ .starting kind .storeApplied) :
    Inv ⟨{ s.host.go t pc with session := session, created := created }, s.attempt⟩ := by
  refine ⟨hex, ?_, ?_, h.notify, ?_, fun version hw => h.taken version (hworker version hw), ?_, ?_,
    fun hattempt => happlied.trans (h.applied hattempt)⟩
  · intro hset
    rcases hstarted hset with hset | hnew
    · exact hcreated (h.made hset)
    · exact hcalls (by cases pc <;> first | rfl | cases hnew)
  · intro u hu
    rcases eq_or_ne u t with rfl | hne
    · exact hcalls (by simpa using hu)
    · exact hcreated (h.calls u (by rwa [← go_caller_of_ne s.host pc hne]))
  · intro hset hnone
    have hpc : unread pc = false := by simpa using hnone t
    have hset : s.host.session.started = true :=
      (hstarted hset).resolve_right (by rw [hpc]; simp)
    have hother : ∀ u, unread (s.host.caller u) = false := by
      intro u
      rcases eq_or_ne u t with rfl | hne
      · cases hu : unread (s.host.caller u) with
        | false => rfl
        | true => exact (hunread hu).symm.trans hpc
      · have hnone := hnone u
        rwa [show ({ s.host.go t pc with session := session, created := created } :
          WifiCalls T).caller u = s.host.caller u from go_caller_of_ne s.host pc hne] at hnone
    exact hpending ▸ h.pending hset hother
  · intro u kind version hu hattempt
    rcases eq_or_ne u t with rfl | hne
    · exact hread kind version (by simpa using hu)
    · exact h.read u kind version (by rwa [← go_caller_of_ne s.host pc hne]) hattempt
  · intro u kind hu hattempt
    rcases eq_or_ne u t with rfl | hne
    · exact absurd (by simpa using hu) (hstored kind)
    · exact hpending.trans
        (h.stored u kind (by rwa [← go_caller_of_ne s.host pc hne]) hattempt)

/-- A call whose `start` returns is not in it any more, and writes nothing. -/
theorem afterStart_none (kind : Kind) :
    unread (afterStart kind none) = false ∧ inStart (afterStart kind none) = false ∧
      ∀ kind' pc, afterStart kind none ≠ .starting kind' pc := by
  cases kind <;> exact ⟨rfl, rfl, by simp [afterStart]⟩

/-- **`start` writes the version it has read**, which must be the current one still. This is
where the condition is used. -/
theorem Inv.storePending (h : Inv s) {kind : Kind} {version : ℕ}
    (ht : s.host.caller t = .starting kind (.storePending version))
    (hex : Exclusive { s.host.go t (.starting kind .storeApplied) with
      session := { s.host.session with pendingDiscoveryVersion := version } })
    (hok : version = s.host.discoveryVersion ∨ s.host.updater.owes = true) :
    Inv ⟨{ s.host.go t (.starting kind .storeApplied) with
      session := { s.host.session with pendingDiscoveryVersion := version } }, s.attempt⟩ := by
  have hwon : (s.host.caller t).won = true := by
    rw [ht]
    rfl
  refine ⟨hex, h.made, ?_, h.notify, fun _ _ => hok, h.taken, ?_, ?_, h.applied⟩
  · intro u _
    exact h.calls t (by rw [ht]; rfl)
  · intro u kind' version' hu
    rcases eq_or_ne u t with rfl | hne
    · simp at hu
    · exact h.read u kind' version' (by rwa [← go_caller_of_ne s.host _ hne])
  · intro u kind' hu hattempt
    rcases eq_or_ne u t with rfl | hne
    · exact h.read u kind version ht hattempt
    · -- no other call has set `_started`
      have hu : s.host.caller u = .starting kind' .storeApplied := by
        rwa [← go_caller_of_ne s.host (.starting kind .storeApplied) hne]
      exact absurd (h.exclusive.one u t (by rw [hu]; rfl) hwon) hne

/-- **`start` makes it the one that is applied**, before there is a worker. -/
theorem Inv.storeApplied (h : Inv s) {kind : Kind}
    (ht : s.host.caller t = .starting kind .storeApplied)
    (hex : Exclusive { s.host.go t (.starting kind .clearStop) with
      session := { s.host.session with
        appliedDiscoveryVersion := s.host.session.pendingDiscoveryVersion } }) :
    Inv ⟨{ s.host.go t (.starting kind .clearStop) with
      session := { s.host.session with
        appliedDiscoveryVersion := s.host.session.pendingDiscoveryVersion } }, s.attempt⟩ := by
  have hother : ∀ u, u ≠ t → (s.host.go t (.starting kind .clearStop)).caller u = s.host.caller u :=
    fun u hne => go_caller_of_ne s.host _ hne
  refine ⟨hex, h.made, ?_, h.notify, ?_, h.taken, ?_, ?_, h.stored t kind ht⟩
  · intro u _
    exact h.calls t (by rw [ht]; rfl)
  · intro hset hnone
    refine h.pending hset fun u => ?_
    rcases eq_or_ne u t with rfl | hne
    · rw [ht]
      rfl
    · rw [← hother u hne]
      exact hnone u
  · intro u kind' version hu
    rcases eq_or_ne u t with rfl | hne
    · simp at hu
    · exact h.read u kind' version ((hother u hne).symm.trans hu)
  · intro u kind' hu
    rcases eq_or_ne u t with rfl | hne
    · simp at hu
    · exact h.stored u kind' ((hother u hne).symm.trans hu)

/-- **A step of `start`**, each of which is one of the cases before. -/
theorem Inv.startStep (h : Inv s) {kind : Kind} {pc : StartPc} {next : Option StartPc}
    (ht : s.host.caller t = .starting kind pc)
    (hs : s.host.session.start s.host.discoveryVersion pc = some (session, next))
    (hok : ∀ version, pc = .storePending version →
      version = s.host.discoveryVersion ∨ s.host.updater.owes = true) :
    Inv ⟨{ s.host.go t (afterStart kind next) with session := session }, s.attempt⟩ := by
  have hex := h.exclusive.startStep ht hs
  have hcreated : s.host.created = true := h.calls t (by rw [ht]; rfl)
  have hnone := afterStart_none kind
  cases pc with
  | testJoinable =>
    cases hs
    refine h.go hex rfl rfl (fun _ => id) .inl (by simp [ht, unread]) id (fun _ => hcreated) ?_ ?_
    · intro kind' version hpc
      simp only [afterStart] at hpc
      split at hpc <;> cases hpc
    · intro kind' hpc
      simp only [afterStart] at hpc
      split at hpc <;> cases hpc
  | testStarted =>
    cases hs
    refine h.go hex rfl rfl (fun _ => id) .inl (by simp [ht, unread]) id (fun _ => hcreated) ?_ ?_
    · intro kind' version hpc
      split at hpc
      · exact absurd hpc (hnone.2.2 _ _)
      · cases hpc
    · intro kind' hpc
      split at hpc
      · exact hnone.2.2 _ _ hpc
      · cases hpc
  | join =>
    obtain ⟨-, hs⟩ := Option.ite_none_right_eq_some.mp hs
    cases hs
    refine h.go hex rfl rfl (fun _ => id) .inl (by simp [ht, unread]) id (fun _ => hcreated) ?_ ?_
    · simp [afterStart]
    · simp [afterStart]
  | exchangeStarted =>
    simp only [start] at hs
    split at hs
    · cases hs
      refine h.go hex rfl rfl (fun _ => id) .inl (by simp [ht, unread]) id (fun _ => hcreated) ?_ ?_
      · exact fun _ _ hpc => absurd hpc (hnone.2.2 _ _)
      · exact fun _ => hnone.2.2 _ _
    · cases hs
      refine h.go hex rfl rfl (fun _ => id) (fun _ => .inr rfl) (fun _ => rfl) id
        (fun _ => hcreated) ?_ ?_
      · simp [afterStart]
      · simp [afterStart]
  | snapshot =>
    cases hs
    refine h.go hex rfl rfl (fun _ => id) .inl (fun _ => rfl) id (fun _ => hcreated) ?_ ?_
    · rintro kind' version hpc
      simp only [afterStart, CallerPc.starting.injEq, StartPc.storePending.injEq] at hpc
      exact hpc.2.symm
    · simp [afterStart]
  | storePending version =>
    cases hs
    exact h.storePending ht hex (hok version rfl)
  | storeApplied =>
    cases hs
    exact h.storeApplied ht hex
  | clearStop =>
    cases hs
    refine h.go hex rfl rfl (fun _ => id) .inl (by simp [ht, unread]) id (fun _ => hcreated) ?_ ?_
    · simp [afterStart]
    · simp [afterStart]
  | clearReconnect =>
    cases hs
    refine h.go hex rfl rfl (fun _ => id) .inl (by simp [ht, unread]) id (fun _ => hcreated) ?_ ?_
    · simp [afterStart]
    · simp [afterStart]
  | spawn =>
    obtain ⟨-, hs⟩ := Option.ite_none_right_eq_some.mp hs
    cases hs
    refine h.go hex rfl rfl (fun _ hw => by cases hw) .inl (by simp [ht, unread]) id
      (fun _ => hcreated) ?_ ?_
    · exact fun _ _ hpc => absurd hpc (hnone.2.2 _ _)
    · exact fun _ => hnone.2.2 _ _

omit [DecidableEq T] in
/-- **A step of the worker**, which reads the version of the device and stores it as applied, in
two steps, before it connects. -/
theorem Inv.workerStep (h : Inv s) {chance : Chance}
    (hex : Exclusive { s.host with session := session })
    (hs : s.host.session.run cfg s.host.discoveryVersion chance = some session) :
    Inv ⟨{ s.host with session := session }, s.observe (.worker chance)⟩ := by
  obtain ⟨hbusy, hstarted⟩ := run_started hs
  obtain ⟨hpending, hread, happlied⟩ := run_versions hs
  -- there is a worker, and so no call is about to make one
  have hnone : ∀ t, ¬(s.host.caller t).won = true := fun t ht =>
    absurd (hbusy.symm.trans (h.exclusive.won t ht).2) (by simp)
  have hset : session.started = true → s.host.session.started = true := by
    intro hset
    rcases hstarted with ⟨heq, -⟩ | ⟨-, hfalse, -⟩
    · exact heq.symm.trans hset
    · exact absurd (hfalse.symm.trans hset) (by simp)
  refine ⟨hex, fun hs => h.made (hset hs), h.calls, h.notify, ?_, fun v hv _ => hread v hv, ?_, ?_,
    ?_⟩
  · intro hs hunread
    exact hpending ▸ h.pending (hset hs) hunread
  · intro t kind v ht
    exact absurd (show (s.host.caller t).won = true by rw [show s.host.caller t = _ from ht]; rfl)
      (hnone t)
  · intro t kind ht
    exact absurd (show (s.host.caller t).won = true by rw [show s.host.caller t = _ from ht]; rfl)
      (hnone t)
  · intro hattempt
    rcases happlied with ⟨v, hw, hv⟩ | ⟨hw, hv⟩
    · have htaken : s.attempt = .taken := by
        by_contra hne
        simp [observe, hw, hne] at hattempt
      exact hv.trans (h.taken v hw htaken)
    · have hsame : s.attempt = .applied := by
        simp only [observe] at hattempt
        split at hattempt
        · cases hattempt
        · rename_i v hstore
          exact absurd hstore (hw v)
        · exact hattempt
      exact hv.trans (h.applied hsame)

omit [DecidableEq T] in
/-- **An update under `_sessionLck`**, with which the version of the session is out of date
until it has been told. -/
theorem Inv.updateStep (h : Inv s) {changed : Bool} :
    Inv ⟨s.host.updateStep changed, s.observe (.update changed)⟩ := by
  have hex : Exclusive (s.host.updateStep changed) :=
    ⟨h.exclusive.ended, h.exclusive.won, h.exclusive.one⟩
  have hnotify : ∀ v c, (s.host.updateStep changed).updater = .notify v c →
      v = (s.host.updateStep changed).discoveryVersion := by
    intro v c hu
    simp only [WifiCalls.updateStep] at hu
    split at hu
    · cases hu
      rfl
    · cases hu
  have howes : s.host.created = true → (s.host.updateStep changed).updater.owes = true := by
    intro hcreated
    simp [WifiCalls.updateStep, hcreated, UpdatePc.owes]
  cases changed with
  | true =>
    -- the last attempt does not count any more
    have hmissing : s.observe (.update true) = .missing := rfl
    rw [hmissing]
    refine ⟨hex, h.made, h.calls, hnotify, fun hs _ => .inr (howes (h.made hs)), ?_, ?_, ?_, ?_⟩
    all_goals simp
  | false =>
    refine ⟨hex, h.made, h.calls, hnotify, fun hs hunread => ?_, h.taken, h.read, h.stored,
      h.applied⟩
    exact .inr (howes (h.made hs))

/-- **Every step keeps the invariant**, if `start` writes what is current. -/
theorem Inv.step (h : Inv s) (hok : StoresCurrent s l) (hs : s.step cfg l = some s') :
    Inv s' := by
  obtain ⟨host, hhost, rfl⟩ := Option.map_eq_some_iff.mp hs
  have hex := h.exclusive.step hhost
  rcases step_cases hhost with ⟨t, kind, rfl, ht, rfl⟩ | ⟨t, kind, rfl, ht, rfl⟩ |
    ⟨t, kind, pc, session, next, rfl, ht, hstart, rfl⟩ | ⟨t, rfl, ht, rfl⟩ |
    ⟨changed, rfl, -, rfl⟩ | ⟨version, changed, rfl, hu, rfl⟩ | ⟨rfl, hu, rfl⟩ |
    ⟨chance, session, rfl, hrun, rfl⟩
  · refine h.go hex rfl rfl (fun _ => id) .inl (by simp [ht, unread]) id
      (fun hp => by cases hp) ?_ ?_
    · simp
    · simp
  · refine h.go hex rfl rfl (fun _ => id) .inl (by simp [ht, unread])
      (fun _ => rfl) (fun _ => rfl) ?_ ?_
    · simp
    · simp
  · refine h.startStep ht hstart ?_
    rintro version rfl
    simp only [StoresCurrent, ht] at hok
    exact hok version rfl
  · refine h.go hex rfl rfl (fun _ => id) .inl (by simp [ht, unread]) id
      (fun hp => by cases hp) ?_ ?_
    · simp
    · simp
  · exact h.updateStep
  · -- an update tells the session
    have hversion := h.notify version changed hu
    refine ⟨hex, h.made, h.calls, ?_, fun _ _ => .inl hversion, h.taken, h.read,
      fun _ _ _ _ => hversion, h.applied⟩
    intro v c hnotify
    dsimp only at hnotify
    split at hnotify <;> cases hnotify
  · refine ⟨hex, h.made, h.calls, by simp, ?_, h.taken, h.read, h.stored, h.applied⟩
    intro hset hunread
    refine (h.pending hset hunread).imp id fun howes => ?_
    rw [hu] at howes
    cases howes
  · exact h.workerStep hex hrun

/-- **The versions converge** in every run in which `start` writes what is current. -/
theorem converged_of_reaches (h : (wifiVersionsMachine T cfg).Reaches StoresCurrent init s) :
    Converged s :=
  (h.invariant inv_init fun _ _ _ hinv hok hs => hinv.step hok hs).converged

/-! ### Runs -/

/-- The settings under which nothing is given up, however often it fails. -/
def patient : WifiConfig := ⟨true, true⟩

/-- A step of the worker in which nothing fails, and no heartbeat comes. -/
def works : WifiCalls.Label T := .worker ⟨true, true, .lost⟩

omit [DecidableEq T] in
/-- With one calling thread, it is quiet when that one is idle and no update is in progress. -/
theorem quiet_of_idle {s : WifiVersions Unit} (hupdater : s.host.updater = .idle)
    (hcaller : s.host.caller () = .idle) : s.Quiet :=
  ⟨hupdater, fun t => by rw [show s.host.caller t = .idle from hcaller]; rfl⟩

/-- The device is found again while `start` is about to write, and an attempt to connect is
made afterwards. -/
def updateMeanwhile (first second : List (WifiCalls.Label Unit)) : List (WifiCalls.Label Unit) :=
  [.call () .ensure, .caller (), .caller (), .caller (), .caller ()] ++ first ++
    [.caller (), .caller (), .caller (), .caller (), .caller ()] ++ second ++
    [works, works, works, works]

/-- The update tells the session after `start` has written. So its version is the last one to be
written. -/
theorem converged_of_reaches_update : ∃ s : WifiVersions Unit, s.Quiet ∧
    s.host.session.started = true ∧ s.attempt = .applied ∧ s.host.discoveryVersion = 2 ∧
      Converged s := by
  obtain ⟨s, hr, hp⟩ := (wifiVersionsMachine Unit patient).exists_reaches_of_runOk StoresCurrent
    init (updateMeanwhile [.update true] [.updater, .updater])
    (fun s => decide ((s.host.updater = .idle ∧ s.host.caller () = .idle) ∧
      s.host.session.started = true ∧ s.attempt = .applied ∧ s.host.discoveryVersion = 2))
    (by decide)
  obtain ⟨⟨hupdater, hcaller⟩, hstarted, hattempt, hversion⟩ := of_decide_eq_true hp
  exact ⟨s, quiet_of_idle hupdater hcaller, hstarted, hattempt, hversion, converged_of_reaches hr⟩

/-- **An update that is lost**: it goes through as a whole between the reading and the
writing of `start`. Version 1 is pending for a device of version 2, and the attempt that is
made with version 2 is given up for it. -/
theorem update_overwritten : ∃ s : WifiVersions Unit,
    (wifiVersionsMachine Unit patient).Reachable init s ∧ s.Quiet ∧
      s.host.session.started = true ∧ s.host.session.pendingDiscoveryVersion = 1 ∧
      s.host.session.appliedDiscoveryVersion = 2 ∧ ¬Converged s := by
  obtain ⟨s, hr, hp⟩ := (wifiVersionsMachine Unit patient).exists_reaches_of_runOk
    (fun _ _ => True) init (updateMeanwhile [.update true, .updater, .updater] [])
    (fun s => decide ((s.host.updater = .idle ∧ s.host.caller () = .idle) ∧
      s.host.session.started = true ∧ s.host.discoveryVersion = 2 ∧
        s.host.session.pendingDiscoveryVersion = 1 ∧ s.host.session.appliedDiscoveryVersion = 2))
    (by decide)
  obtain ⟨⟨hupdater, hcaller⟩, hstarted, hversion, hpending, happlied⟩ := of_decide_eq_true hp
  have hquiet := quiet_of_idle hupdater hcaller
  refine ⟨s, hr, hquiet, hstarted, hpending, happlied, ?_⟩
  intro hconverged
  have heq := hconverged.pending hquiet hstarted
  omega

end WifiVersions

end Usbmuxd
