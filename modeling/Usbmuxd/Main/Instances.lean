import Mathlib.Data.Fintype.Basic
import Mathlib.Logic.Function.Basic
import Usbmuxd.Library.Interleaving

/-!
# One instance at a time

`main` sees to it that there is only one instance, by means of a lockfile. It opens the
lockfile, asks whether another process has a lock on it, and closes it again. If there is a
lock, `main` ends. Otherwise it unlinks the lockfile and creates it again, with `O_EXCL`, and
locks the new one; it has that until it ends.

A lock belongs to a file and not to its name. So a file is given by a number here, and the
name is a link to one of them or to none. Any number of instances are started, at any time.

## What goes wrong

The lockfile is unlinked by its name, some time after a lock has been looked for. In between
another instance may have created its own lockfile, and it may even have locked it. Then it is
that one that is unlinked, so that `O_EXCL` does not fail, and there are two instances
(`Usbmuxd.Instances.exists_two_running`). It does not happen if nobody unlinks what another
instance has created (`Usbmuxd.Instances.eq_of_running`); in particular, instances that are
started when one is running do not get beyond the test for a lock
(`Usbmuxd.Instances.turnedAway_of_running`).
-/

namespace Usbmuxd

open Interleaving

namespace Instances

/-- Where an instance is in `main`. Between two of these places another instance may do
anything, as there is no lock that spans more than one of the calls. -/
inductive Pc
  /-- Before the lockfile is opened. -/
  | start
  /-- The lockfile is open, and `F_GETLK` comes next. -/
  | opened (lfd : ℕ)
  /-- It has been closed, and there was a lock or not. -/
  | closed (locked : Bool)
  /-- It has been unlinked. -/
  | unlinked
  /-- A new one has been created, and `F_SETLK` comes next. -/
  | created (lfd : ℕ)
  /-- It is locked. -/
  | running (lfd : ℕ)
  /-- The process is gone. -/
  | ended
  deriving DecidableEq

/-- The lockfile that the instance has created, and that it should be the only one to have. -/
def Pc.lockfile : Pc → Option ℕ
  | created lfd | running lfd => some lfd
  | _ => none

end Instances

open Instances

/-- The instances, and the lockfile. Files are numbered in the order in which they are created,
since a name may be given to a new file while the old one is still open. -/
structure Instances (P : Type) where
  /-- Where an instance is. -/
  pc : P → Pc
  /-- What `/var/run/usbmuxd.pid` is a link to. -/
  path : Option ℕ
  /-- Who has a lock on a file. -/
  lock : ℕ → Option P
  /-- The number of the next file. -/
  nextFile : ℕ

namespace Instances

/-- A step of an instance. -/
inductive Label (P : Type)
  /-- The next step in `main`. `ok` is false if the call that is made there fails, or if it is the
  instance that is to tell another one to end. That `unlink` or `F_GETLK` has failed, `main` does
  not notice. -/
  | main (p : P) (ok : Bool)
  /-- The process is killed. -/
  | kill (p : P)

section Steps

variable {P : Type} [DecidableEq P] (s : Instances P)

/-- An instance goes on to `pc`, and the file and the locks stay. -/
def pcAt (p : P) (pc : Pc) : Instances P := { s with pc := Function.update s.pc p pc }

/-- An instance ends, and with it go its locks. The lockfile stays where it is. -/
def endAt (p : P) : Instances P :=
  { s.pcAt p .ended with lock := fun lfd => if s.lock lfd = some p then none else s.lock lfd }

/-- The name becomes a link to a new file, on which nobody has a lock yet. -/
def createFile : Instances P :=
  { s with path := some s.nextFile, nextFile := s.nextFile + 1 }

/-- Somebody else has a lock on the file. `F_GETLK` does not tell of a lock that the caller has
himself. -/
def lockedByOther (p : P) (lfd : ℕ) : Bool := (s.lock lfd).any fun q => decide (q ≠ p)

/-- A step in `main`. -/
def mainStep (p : P) (ok : Bool) : Option (Instances P) :=
  match s.pc p with
  | .start =>
    some (if ok then
        match s.path with
        | some lfd => s.pcAt p (.opened lfd)
        | none => s.createFile.pcAt p (.opened s.nextFile)
      else s.endAt p)
  | .opened lfd =>
    -- if `F_GETLK` fails, `lock.l_type` is still the `F_WRLCK` that was asked for
    some (s.pcAt p (.closed (!ok || s.lockedByOther p lfd)))
  | .closed locked =>
    some (if locked then s.endAt p
      else { s with path := if ok then none else s.path }.pcAt p .unlinked)
  | .unlinked =>
    some (if ok && s.path.isNone then s.createFile.pcAt p (.created s.nextFile) else s.endAt p)
  | .created lfd =>
    some (if ok && !s.lockedByOther p lfd then
        { s with lock := Function.update s.lock lfd (some p) }.pcAt p (.running lfd)
      else s.endAt p)
  | .running _ => some (s.endAt p)
  | .ended => none

end Steps

variable {P : Type} [DecidableEq P]

/-- One step: of an instance in `main`, or its sudden end. -/
def step (s : Instances P) : Label P → Option (Instances P)
  | .main p ok => s.mainStep p ok
  | .kill p => some (s.endAt p)

/-- No instance has been started; the lockfile of an earlier one may be there. -/
def init (old : Bool) : Instances P where
  pc _ := .start
  path := if old then some 0 else none
  lock _ := none
  nextFile := 1

/-- **Nobody unlinks a lockfile that another instance has created** and still has. -/
def KeepsFile (s : Instances P) : Label P → Prop
  | .main p ok => s.pc p = .closed false → ok = true →
      ∀ q, s.path.isSome = true → (s.pc q).lockfile ≠ s.path
  | .kill _ => True

/-- It is the step of another instance than `q`, which goes on running meanwhile. -/
def ByOther (q : P) : Label P → Prop
  | .main p _ | .kill p => p ≠ q

instance (q : P) : (l : Label P) → Decidable (ByOther q l)
  | .main p _ | .kill p => inferInstanceAs (Decidable (p ≠ q))

instance [Fintype P] (s : Instances P) : (l : Label P) → Decidable (s.KeepsFile l)
  | .main p ok => inferInstanceAs (Decidable (s.pc p = .closed false → ok = true →
      ∀ q, s.path.isSome = true → (s.pc q).lockfile ≠ s.path))
  | .kill _ => isTrue trivial

end Instances

/-- Any number of instances, which are started and ended at any time. -/
def instancesMachine (P : Type) [DecidableEq P] : Machine (Instances P) (Instances.Label P) :=
  ⟨Instances.step⟩

namespace Instances

variable {P : Type} [DecidableEq P] {s s' : Instances P} {l : Label P} {p q : P} {lfd : ℕ}
  {ok old : Bool}

/-! ### What a step does -/

@[simp] theorem pc_pcAt_self (s : Instances P) (p : P) (pc : Pc) : (s.pcAt p pc).pc p = pc :=
  Function.update_self ..

theorem pc_pcAt_of_ne (hne : q ≠ p) (pc : Pc) : (s.pcAt p pc).pc q = s.pc q :=
  Function.update_of_ne hne ..

@[simp] theorem pc_endAt_self (s : Instances P) (p : P) : (s.endAt p).pc p = .ended :=
  Function.update_self ..

theorem pc_endAt_of_ne (hne : q ≠ p) : (s.endAt p).pc q = s.pc q := Function.update_of_ne hne ..

/-- The locks of the others stay when an instance ends: a lock belongs to one process. -/
theorem lock_endAt_of_ne (hne : q ≠ p) (hlock : s.lock lfd = some q) :
    (s.endAt p).lock lfd = some q := by
  simp [endAt, hlock, hne]

theorem lockedByOther_of_lock (hne : q ≠ p) (hlock : s.lock lfd = some q) :
    s.lockedByOther p lfd = true := by
  simp [lockedByOther, hlock, hne]

/-! ### At most one instance -/

/-- **The name is a link to the lockfile of the one instance** that has one. -/
structure Sound (s : Instances P) : Prop where
  /-- The lockfile that an instance has created is the one with the name. -/
  linked : ∀ p lfd, (s.pc p).lockfile = some lfd → s.path = some lfd
  /-- Only one instance has one. -/
  single : ∀ p q, (s.pc p).lockfile ≠ none → (s.pc q).lockfile ≠ none → p = q

omit [DecidableEq P] in
/-- Where there is no lockfile, nobody has one, so that creating one is safe. -/
theorem Sound.nobody_of_path (h : s.Sound) (hpath : s.path = none) (q : P) :
    (s.pc q).lockfile = none := by
  cases hq : (s.pc q).lockfile with
  | none => rfl
  | some lfd => cases hpath.symm.trans (h.linked q lfd hq)

omit [DecidableEq P] in
/-- Nobody else has a lockfile, and this instance has the one with the name, if any. Then there
are no two to be told apart. -/
theorem sound_of_others (hothers : ∀ q, q ≠ p → (s.pc q).lockfile = none)
    (hp : ∀ lfd, (s.pc p).lockfile = some lfd → s.path = some lfd) : s.Sound := by
  have honly : ∀ q, (s.pc q).lockfile ≠ none → q = p := fun q hq =>
    Classical.byContradiction fun hne => hq (hothers q hne)
  constructor
  · intro q lfd hq
    obtain rfl := honly q (by simp [hq])
    exact hp lfd hq
  · intro q q' hq hq'
    rw [honly q hq, honly q' hq']

omit [DecidableEq P] in
/-- An instance goes on, and has its lockfile if it has had one. -/
theorem Sound.mono (h : s.Sound) (hpath : s'.path = s.path)
    (hpc : ∀ q, (s'.pc q).lockfile = none ∨ (s'.pc q).lockfile = (s.pc q).lockfile) : s'.Sound := by
  have hback : ∀ q, (s'.pc q).lockfile ≠ none → (s'.pc q).lockfile = (s.pc q).lockfile :=
    fun q hq => (hpc q).resolve_left hq
  constructor
  · intro q lfd hq
    rw [hpath]
    exact h.linked q lfd ((hback q (by simp [hq])).symm.trans hq)
  · intro q q' hq hq'
    exact h.single q q' (hback q hq ▸ hq) (hback q' hq' ▸ hq')

/-- An instance comes to a place without a lockfile, and there is nothing to be shown of it. -/
theorem Sound.pcAt (h : s.Sound) (pc : Pc) (hpc : pc.lockfile = none) : (s.pcAt p pc).Sound := by
  refine h.mono rfl fun q => ?_
  rcases eq_or_ne q p with rfl | hne
  · exact .inl (by rw [pc_pcAt_self, hpc])
  · exact .inr (by rw [pc_pcAt_of_ne hne])

theorem Sound.endAt (h : s.Sound) (p : P) : (s.endAt p).Sound :=
  (h.pcAt (p := p) .ended rfl).mono rfl fun _ => .inr rfl

/-- The name is changed when nobody has a lockfile, and so nobody loses one by it. -/
theorem sound_of_nobody (s : Instances P) (pc : Pc) (hnobody : ∀ q, (s.pc q).lockfile = none)
    (hlfd : ∀ lfd, pc.lockfile = some lfd → s.path = some lfd) : (s.pcAt p pc).Sound := by
  refine sound_of_others (p := p) (fun q hne => ?_) fun lfd hp => hlfd lfd ?_
  · rw [pc_pcAt_of_ne hne, hnobody]
  · rwa [pc_pcAt_self] at hp

theorem Sound.mainStep (h : s.Sound) (hok : s.KeepsFile (.main p ok))
    (hs : s.mainStep p ok = some s') : s'.Sound := by
  rw [Instances.mainStep] at hs
  cases hpc : s.pc p with
  | start =>
    rw [hpc] at hs
    obtain rfl := Option.some.inj hs
    split
    · split
      · exact h.pcAt _ rfl
      · rename_i hpath
        exact sound_of_nobody s.createFile _ (h.nobody_of_path hpath) fun _ hlfd => by cases hlfd
    · exact h.endAt p
  | opened lfd =>
    rw [hpc] at hs
    obtain rfl := Option.some.inj hs
    exact h.pcAt _ rfl
  | closed locked =>
    rw [hpc] at hs
    obtain rfl := Option.some.inj hs
    cases locked with
    | true => exact h.endAt p
    | false =>
      cases ok with
      | false => exact h.pcAt .unlinked rfl
      | true =>
        -- nobody has the lockfile that is unlinked
        have hnobody : ∀ q, (s.pc q).lockfile = none := by
          intro q
          cases hq : (s.pc q).lockfile with
          | none => rfl
          | some lfd =>
            have hpath := h.linked q lfd hq
            exact absurd (hq.trans hpath.symm) (hok hpc rfl q (by rw [hpath]; rfl))
        exact sound_of_nobody { s with path := none } _ hnobody fun _ hlfd => by cases hlfd
  | unlinked =>
    rw [hpc] at hs
    obtain rfl := Option.some.inj hs
    split
    · rename_i hnew
      have hpath : s.path = none := by simpa using (Bool.and_eq_true_iff.mp hnew).2
      exact sound_of_nobody s.createFile _ (h.nobody_of_path hpath) fun _ hlfd => hlfd
    · exact h.endAt p
  | created lfd =>
    rw [hpc] at hs
    obtain rfl := Option.some.inj hs
    split
    · refine h.mono rfl fun q => .inr ?_
      rcases eq_or_ne q p with rfl | hne
      · rw [pc_pcAt_self, hpc]
        rfl
      · rw [pc_pcAt_of_ne hne]
    · exact h.endAt p
  | running lfd =>
    rw [hpc] at hs
    obtain rfl := Option.some.inj hs
    exact h.endAt p
  | ended =>
    rw [hpc] at hs
    cases hs

theorem Sound.step (h : s.Sound) (hok : s.KeepsFile l) (hs : s.step l = some s') : s'.Sound := by
  cases l with
  | main p ok => exact h.mainStep hok hs
  | kill p =>
    obtain rfl := Option.some.inj hs
    exact h.endAt p

/-- **There is at most one instance that is running**, if nobody unlinks a lockfile that another
instance has created; and the name is a link to its lockfile. -/
theorem eq_of_running {i j : ℕ} (h : (instancesMachine P).Reaches KeepsFile (init old) s)
    (hp : s.pc p = .running i) (hq : s.pc q = .running j) : p = q ∧ s.path = some i := by
  have hsound : s.Sound := h.invariant
    (sound_of_others (p := p) (fun _ _ => rfl) fun _ hnone => by cases hnone)
    fun _ _ _ hI hok hs => hI.step hok hs
  exact ⟨hsound.single p q (by simp [hp, Pc.lockfile]) (by simp [hq, Pc.lockfile]),
    hsound.linked p i (by simp [hp, Pc.lockfile])⟩

/-! ### An instance that is running -/

/-- Where an instance can be that is started while another one is running. -/
def Pc.turnedAway (lfd : ℕ) : Pc → Bool
  | start | closed true | ended => true
  | opened i => decide (i = lfd)
  | _ => false

/-- **An instance is running, and the others are turned away.** All that the others can do is to
ask for the lock, and to see that it is taken. -/
structure Alone (s : Instances P) (q : P) (lfd : ℕ) : Prop where
  /-- It is running. -/
  running : s.pc q = .running lfd
  /-- The name is a link to its lockfile. -/
  path : s.path = some lfd
  /-- It has the lock. -/
  lock : s.lock lfd = some q
  /-- The others are turned away. -/
  others : ∀ p, p ≠ q → (s.pc p).turnedAway lfd = true

/-- Another instance goes on, to a place from which it will be turned away. -/
theorem Alone.pcAt (h : s.Alone q lfd) (hne : p ≠ q) (pc : Pc) (hpc : pc.turnedAway lfd = true) :
    (s.pcAt p pc).Alone q lfd where
  running := (pc_pcAt_of_ne hne.symm pc).trans h.running
  path := h.path
  lock := h.lock
  others p' hp' := by
    rcases eq_or_ne p' p with rfl | hother
    · rwa [pc_pcAt_self]
    · rw [pc_pcAt_of_ne hother]
      exact h.others p' hp'

theorem Alone.endAt (h : s.Alone q lfd) (hne : p ≠ q) : (s.endAt p).Alone q lfd :=
  let hpc := h.pcAt hne .ended rfl
  ⟨hpc.running, hpc.path, lock_endAt_of_ne hne.symm h.lock, hpc.others⟩

theorem Alone.mainStep (h : s.Alone q lfd) (hne : p ≠ q) (hs : s.mainStep p ok = some s') :
    s'.Alone q lfd := by
  have haway := h.others p hne
  rw [Instances.mainStep] at hs
  cases hpc : s.pc p with
  | start =>
    rw [hpc, h.path] at hs
    obtain rfl := Option.some.inj hs
    split
    · exact h.pcAt hne _ (by simp [Pc.turnedAway])
    · exact h.endAt hne
  | opened i =>
    rw [hpc] at hs haway
    obtain rfl := Option.some.inj hs
    obtain rfl : i = lfd := by simpa [Pc.turnedAway] using haway
    rw [lockedByOther_of_lock hne.symm h.lock, Bool.or_true]
    exact h.pcAt hne _ rfl
  | closed locked =>
    rw [hpc] at hs haway
    obtain rfl := Option.some.inj hs
    cases locked with
    | true => exact h.endAt hne
    | false => cases haway
  | unlinked | created _ | running _ =>
    rw [hpc] at haway
    cases haway
  | ended =>
    rw [hpc] at hs
    cases hs

/-- **What a step in `main` leaves alone**, and that an instance that is running has a lock. -/
theorem mainStep_frame (hs : s.mainStep p ok = some s') :
    (∀ q, q ≠ p → s'.pc q = s.pc q ∧ ∀ lfd, s.lock lfd = some q → s'.lock lfd = some q) ∧
      ∀ lfd, s'.pc p = .running lfd → s'.lock lfd = some p := by
  have hend : (∀ q, q ≠ p → (s.endAt p).pc q = s.pc q ∧
      ∀ lfd, s.lock lfd = some q → (s.endAt p).lock lfd = some q) ∧
        ∀ lfd, (s.endAt p).pc p = .running lfd → (s.endAt p).lock lfd = some p :=
    ⟨fun q hne => ⟨pc_endAt_of_ne hne, fun _ => lock_endAt_of_ne hne⟩, fun lfd hrun => by
      simp at hrun⟩
  have hpc : ∀ (s₁ : Instances P) (pc : Pc), s₁.pc = s.pc → s₁.lock = s.lock →
      (∀ lfd, pc ≠ .running lfd) → (∀ q, q ≠ p → (s₁.pcAt p pc).pc q = s.pc q ∧
        ∀ lfd, s.lock lfd = some q → (s₁.pcAt p pc).lock lfd = some q) ∧
          ∀ lfd, (s₁.pcAt p pc).pc p = .running lfd → (s₁.pcAt p pc).lock lfd = some p := by
    intro s₁ pc hsame hlock hpc
    refine ⟨fun q hne => ⟨by rw [pc_pcAt_of_ne hne, hsame], fun lfd hq => hlock ▸ hq⟩, ?_⟩
    intro lfd hrun
    rw [pc_pcAt_self] at hrun
    exact absurd hrun (hpc lfd)
  rw [mainStep] at hs
  cases hcase : s.pc p with
  | start =>
    rw [hcase] at hs
    obtain rfl := Option.some.inj hs
    split
    · split
      · exact hpc s _ rfl rfl (by simp)
      · exact hpc s.createFile _ rfl rfl (by simp)
    · exact hend
  | opened i =>
    rw [hcase] at hs
    obtain rfl := Option.some.inj hs
    exact hpc s _ rfl rfl (by simp)
  | closed locked =>
    rw [hcase] at hs
    obtain rfl := Option.some.inj hs
    split
    · exact hend
    · exact hpc { s with path := if ok then none else s.path } _ rfl rfl (by simp)
  | unlinked =>
    rw [hcase] at hs
    obtain rfl := Option.some.inj hs
    split
    · exact hpc s.createFile _ rfl rfl (by simp)
    · exact hend
  | created i =>
    rw [hcase] at hs
    obtain rfl := Option.some.inj hs
    split
    · rename_i hfree
      refine ⟨fun q hne => ⟨pc_pcAt_of_ne hne _, fun lfd hq => ?_⟩, fun lfd hrun => ?_⟩
      · have hother : lfd ≠ i := by
          rintro rfl
          simp [lockedByOther_of_lock hne hq] at hfree
        exact (Function.update_of_ne hother ..).trans hq
      · rw [pc_pcAt_self] at hrun
        obtain rfl := Pc.running.inj hrun
        exact Function.update_self ..
    · exact hend
  | running i =>
    rw [hcase] at hs
    obtain rfl := Option.some.inj hs
    exact hend
  | ended =>
    rw [hcase] at hs
    cases hs

/-- The instance that is running has the lock on its own file, in every reachable state, whether
that file still has the name or not. -/
theorem lock_of_running (h : (instancesMachine P).Reachable (init old) s) :
    ∀ q lfd, s.pc q = .running lfd → s.lock lfd = some q := by
  refine h.invariant (I := fun s => ∀ q lfd, s.pc q = .running lfd → s.lock lfd = some q)
    (fun q lfd hq => by cases hq) fun s l s' hlock _ hs q lfd hq => ?_
  cases l with
  | main p ok =>
    obtain ⟨hothers, hself⟩ := mainStep_frame hs
    rcases eq_or_ne q p with rfl | hne
    · exact hself lfd hq
    · obtain ⟨hpc, hkeep⟩ := hothers q hne
      exact hkeep lfd (hlock q lfd (hpc ▸ hq))
  | kill p =>
    obtain rfl := Option.some.inj hs
    rcases eq_or_ne q p with rfl | hne
    · simp at hq
    · exact lock_endAt_of_ne hne (hlock q lfd ((pc_endAt_of_ne hne) ▸ hq))

/-- **Instances that are started while one is running are turned away**, however they are
interleaved, as long as it is running. -/
theorem turnedAway_of_running (hr : (instancesMachine P).Reachable (init old) s)
    (hq : s.pc q = .running lfd) (hpath : s.path = some lfd)
    (hothers : ∀ p, p ≠ q → s.pc p = .start ∨ s.pc p = .ended)
    (h : (instancesMachine P).Reaches (fun _ l => ByOther q l) s s') :
    s'.pc q = .running lfd ∧ s'.path = some lfd ∧
      ∀ p, p ≠ q → (s'.pc p).turnedAway lfd = true := by
  have hfirst : s.Alone q lfd := by
    refine ⟨hq, hpath, lock_of_running hr q lfd hq, fun p hne => ?_⟩
    rcases hothers p hne with hpc | hpc <;> rw [hpc] <;> rfl
  have halone : s'.Alone q lfd := h.invariant (I := fun s => s.Alone q lfd) hfirst
    fun s l s' hI hok hs => by
    cases l with
    | main p ok => exact hI.mainStep hok hs
    | kill p =>
      obtain rfl := Option.some.inj hs
      exact hI.endAt hok
  exact ⟨halone.running, halone.path, halone.others⟩

/-! ### Runs -/

/-- An instance makes `n` steps in `main` in which nothing fails, and in which it does not have
to tell another one to end. -/
def mains (p : Bool) (n : ℕ) : List (Label Bool) := List.replicate n (.main p true)

/-- An instance is killed, and another one takes its lockfile over: it unlinks the file, which
is allowed, as nobody has it any more. -/
theorem eq_of_running_second : ∃ s : Instances Bool, s.pc true = .running 2 ∧
    true = true ∧ s.path = some 2 := by
  obtain ⟨s, hr, hp⟩ := (instancesMachine Bool).exists_reaches_of_runOk KeepsFile (init true)
    (mains false 5 ++ [.kill false] ++ mains true 5)
    (fun s => decide (s.pc true = .running 2)) (by decide)
  exact ⟨s, of_decide_eq_true hp, eq_of_running hr (of_decide_eq_true hp) (of_decide_eq_true hp)⟩

/-- **Two instances**: both have found no lock when the first of them creates its lockfile. -/
theorem exists_two_running : ∃ s : Instances Bool,
    (instancesMachine Bool).Reachable (init false) s ∧ s.pc false = .running 2 ∧
      s.pc true = .running 3 := by
  obtain ⟨s, hr, hp⟩ := (instancesMachine Bool).exists_reaches_of_runOk (fun _ _ => True)
    (init false) (mains false 2 ++ mains true 2 ++ mains false 3 ++ mains true 3)
    (fun s => decide (s.pc false = .running 2 ∧ s.pc true = .running 3)) (by decide)
  exact ⟨s, hr, of_decide_eq_true hp⟩

/-- One instance is running, and another one is started. It finds the lock, and comes to its end
without touching the file. -/
theorem turnedAway_of_running_second : ∃ s' : Instances Bool, s'.pc true = .closed true ∧
    s'.pc false = .running 1 ∧ s'.path = some 1 ∧
      ∀ p, p ≠ false → (s'.pc p).turnedAway 1 = true := by
  have hr := Machine.reaches_of_runOk (show (instancesMachine Bool).runOk (fun _ _ => True)
    (init true) (mains false 5) = some _ from rfl)
  exact ⟨_, rfl, turnedAway_of_running hr rfl rfl (by decide) (Machine.reaches_of_runOk
    (show (instancesMachine Bool).runOk (fun _ l => ByOther false l) _ (mains true 2) =
      some _ from rfl))⟩

end Instances

end Usbmuxd
