import Usbmuxd.Manager.Plugged

/-!
# Constructions are transfers in flight

The machine of `_constructing` leaves open what `device_add` asks libusb, and knows the
constructions by their locations alone. The one with all of libusb's answers is a
refinement of it: each of its steps is one there, or none
(`Usbmuxd.Plugged.Tracks.moves`).

What keeps the two together is that the constructions are the transfers libusb has, one for
each address. So whether `device_add` takes a device for found can be read off the
transfers (`Usbmuxd.Plugged.found_iff_in_flight`).

The two machines have been modelled for different questions. The one of `_constructing` is about
which locations are skipped, and it is small enough to ask this for any sequence of calls; the
one with libusb is about what is acquired and freed, and a construction is a transfer there,
with a number of its own. The refinement says that the first is right about the second: nothing
that libusb answers leads to a step which the small machine does not have. What it answers only
decides which of the steps it is.
-/

namespace Usbmuxd

open Interleaving Constructing DeviceAdd

namespace DeviceAdd

variable {n : ℕ} {loc : Location} {a : Answers} {found : Bool} {L : Ledger Item}
  {v : Locals} {devdesc : DeviceDescriptor} {ep : Endpoints}

theorem request_outcome : (request v n loc devdesc a ep).outcome ≠ .found := by
  unfold request
  dsimp only
  split_ifs <;> exact nofun

theorem construct_outcome : (construct v n loc devdesc a).outcome ≠ .found := by
  unfold construct
  cases a.config with
  | none => exact nofun
  | some interfaces =>
    dsimp only
    split_ifs
    · exact nofun
    · cases findInterface interfaces with
      | none => exact nofun
      | some ep => exact request_outcome

theorem configure_outcome : (configure v n loc devdesc a).outcome ≠ .found := by
  unfold configure
  cases a.configuration with
  | none => exact nofun
  | some currentConfig =>
    dsimp only
    by_cases hset : a.setConfiguration = false
    · rw [if_pos hset]
      split_ifs
      · exact nofun
      · exact nofun
      · exact construct_outcome
    · rw [if_neg hset]
      split_ifs <;> exact construct_outcome

/-- **Nothing that libusb answers makes `device_add` say that the device is there.** That
depends on the muxer and on `_constructing` alone. -/
theorem deviceAdd_outcome_found :
    (deviceAdd n loc a found L).outcome = .found ↔ loc.address ≠ 0 ∧ found = true := by
  unfold deviceAdd
  dsimp only
  by_cases haddress : loc.address = 0
  · rw [if_pos haddress]
    exact iff_of_false nofun fun h => h.1 haddress
  rw [if_neg haddress]
  by_cases hfound : found = true
  · rw [if_pos hfound]
    exact iff_of_true rfl ⟨haddress, hfound⟩
  rw [if_neg hfound]
  refine iff_of_false ?_ fun h => hfound h.2
  cases a.deviceDescriptor with
  | none => exact nofun
  | some devdesc =>
    dsimp only
    split_ifs
    · exact nofun
    · exact nofun
    · exact configure_outcome
    · exact nofun

theorem deviceAdd_outcome_started (h : (deviceAdd n loc a found L).outcome = .started) :
    loc.address ≠ 0 ∧ found = false := by
  unfold deviceAdd at h
  dsimp only at h
  by_cases haddress : loc.address = 0
  · rw [if_pos haddress] at h
    cases h
  rw [if_neg haddress] at h
  by_cases hfound : found = true
  · rw [if_pos hfound] at h
    cases h
  · exact ⟨haddress, Bool.eq_false_iff.mpr hfound⟩

/-- **`device_add` with all its checks ends as it does with their result.** -/
theorem deviceAdd_refines (s : Constructing) :
    (deviceAdd n loc a (s.haveUsbDevice loc || s.isConstructing loc) L).outcome =
      (s.deviceAdd loc (decide ((deviceAdd n loc a (s.haveUsbDevice loc || s.isConstructing loc)
        L).outcome = .started))).1 := by
  cases hout : (deviceAdd n loc a (s.haveUsbDevice loc || s.isConstructing loc) L).outcome with
  | threw =>
    have hnot := deviceAdd_outcome_found.not.mp (hout.trans_ne nofun)
    unfold Constructing.deviceAdd
    split_ifs with haddress hfound hok
    · rfl
    · exact absurd ⟨haddress, hfound⟩ hnot
    · exact absurd (of_decide_eq_true hok) nofun
    · rfl
  | found =>
    obtain ⟨haddress, hfound⟩ := deviceAdd_outcome_found.mp hout
    rw [Constructing.deviceAdd, if_neg haddress, if_pos hfound]
  | started =>
    obtain ⟨haddress, hfound⟩ := deviceAdd_outcome_started hout
    rw [Constructing.deviceAdd, if_neg haddress, hfound]
    rfl

end DeviceAdd

namespace Plugged

variable {s s' : Plugged} {n : ℕ} {loc : Location} {a : Answers}

theorem drop_core : (s.drop n).core = s.core := by
  unfold drop
  split_ifs <;> rfl

theorem drop_job : (s.drop n).job = s.job := by
  unfold drop
  split_ifs <;> rfl

theorem requested_job_self : (s.requested n loc).job n = some ⟨loc, .serial⟩ :=
  Function.update_self ..

theorem requested_job_of_ne {m : ℕ} (h : m ≠ n) : (s.requested n loc).job m = s.job m :=
  Function.update_of_ne h ..

/-- **The constructions are the transfers libusb has**, and there is one for an address. -/
structure Tracks (s : Plugged) : Prop where
  reachable : constructingMachine.Reachable Constructing.init s.core
  mem_iff : ∀ c, c ∈ s.core.constructions ↔ ∃ n, s.job n = some c
  unique : ∀ n m c c', s.job n = some c → s.job m = some c' →
    c.location.address = c'.location.address → n = m

namespace Tracks

theorem init : init.Tracks where
  reachable := .refl
  mem_iff := fun _ => ⟨nofun, fun ⟨_, hjob⟩ => nomatch hjob⟩
  unique := nofun

/-- A transfer for another location belongs to another call, since a location is under
construction once. -/
theorem location_ne (h : s.Tracks) {m : ℕ} {c c' : Construction} (hjob : s.job n = some c)
    (hjob' : s.job m = some c') (hne : m ≠ n) : c'.location ≠ c.location := fun heq =>
  hne (h.unique m n c' c hjob' hjob (by rw [heq]))

/-- **A step of `_constructing`** that leaves the constructions alone. -/
theorem of_same (h : s.Tracks) {l : Constructing.Label} (hs : s.core.step l = some s'.core)
    (hconstructions : s'.core.constructions = s.core.constructions) (hjob : s'.job = s.job) :
    s'.Tracks where
  reachable := .tail l h.reachable trivial hs
  mem_iff := by
    rw [hconstructions, hjob]
    exact h.mem_iff
  unique := by
    rw [hjob]
    exact h.unique

theorem deviceAdd (h : s.Tracks) (hfree : s.job s.calls = none) :
    (s.deviceAdd loc a).Tracks := by
  unfold Plugged.deviceAdd
  dsimp only
  split_ifs with hout
  · obtain ⟨haddress, hfound⟩ := deviceAdd_outcome_started hout
    -- no transfer is for the address
    have hnone : ∀ m c, s.job m = some c → c.location.address ≠ loc.address := by
      intro m c hjob heq
      have hconstructing := (Constructing.inv_of_reachable h.reachable).isConstructing_iff.mpr
        ⟨c, (h.mem_iff c).mpr ⟨m, hjob⟩, heq⟩
      rw [Bool.or_eq_false_iff] at hfound
      rw [hfound.2] at hconstructing
      cases hconstructing
    refine ⟨.tail (.deviceAdd loc true) h.reachable trivial ?_, ?_, ?_⟩
    · change some (s.core.deviceAdd loc true).2 = _
      rw [Constructing.deviceAdd, if_neg haddress, hfound]
      rfl
    · intro c
      change c ∈ ⟨loc, .langid⟩ :: s.core.constructions ↔ _
      rw [List.mem_cons, h.mem_iff]
      constructor
      · rintro (rfl | ⟨m, hjob⟩)
        · exact ⟨s.calls, Function.update_self ..⟩
        · have hne : m ≠ s.calls := by
            rintro rfl
            rw [hfree] at hjob
            cases hjob
          exact ⟨m, (Function.update_of_ne hne ..).trans hjob⟩
      · rintro ⟨m, hjob⟩
        dsimp only at hjob
        rcases eq_or_ne m s.calls with rfl | hne
        · rw [Function.update_self] at hjob
          exact Or.inl (Option.some.inj hjob).symm
        · rw [Function.update_of_ne hne] at hjob
          exact Or.inr ⟨m, hjob⟩
    · intro m m' c c' hjob hjob' heq
      dsimp only at hjob hjob'
      rcases eq_or_ne m s.calls with rfl | hne <;> rcases eq_or_ne m' s.calls with rfl | hne'
      · rfl
      · rw [Function.update_self] at hjob
        rw [Function.update_of_ne hne'] at hjob'
        cases hjob
        exact absurd heq.symm (hnone m' c' hjob')
      · rw [Function.update_self] at hjob'
        rw [Function.update_of_ne hne] at hjob
        cases hjob'
        exact absurd heq (hnone m c hjob)
      · rw [Function.update_of_ne hne] at hjob
        rw [Function.update_of_ne hne'] at hjob'
        exact h.unique m m' c c' hjob hjob' heq
  · exact ⟨h.reachable, h.mem_iff, h.unique⟩

theorem requested (h : s.Tracks) (hjob : s.job n = some ⟨loc, .langid⟩) :
    (s.requested n loc).Tracks := by
  have hmem := (h.mem_iff _).mpr ⟨n, hjob⟩
  -- the others stay as they are
  have hother : ∀ m c, m ≠ n → s.job m = some c → c.location ≠ loc := fun m c hne hm =>
    h.location_ne hjob hm hne
  refine ⟨.tail (.langid loc true) h.reachable trivial ?_, ?_, ?_⟩
  · change (if ⟨loc, .langid⟩ ∈ s.core.constructions then _ else none) = _
    rw [if_pos hmem]
    rfl
  · intro c
    change c ∈ s.core.constructions.map _ ↔ _
    rw [List.mem_map]
    constructor
    · rintro ⟨c₀, hc₀, rfl⟩
      obtain ⟨m, hm⟩ := (h.mem_iff c₀).mp hc₀
      rcases eq_or_ne m n with rfl | hne
      · obtain rfl := Option.some.inj (hjob.symm.trans hm)
        rw [if_pos rfl]
        exact ⟨m, requested_job_self⟩
      · rw [if_neg (hother m c₀ hne hm)]
        exact ⟨m, (requested_job_of_ne hne).trans hm⟩
    · rintro ⟨m, hm⟩
      rcases eq_or_ne m n with rfl | hne
      · refine ⟨_, hmem, ?_⟩
        rw [if_pos rfl]
        exact Option.some.inj (requested_job_self.symm.trans hm)
      · rw [requested_job_of_ne hne] at hm
        exact ⟨c, (h.mem_iff c).mpr ⟨m, hm⟩, if_neg (hother m c hne hm)⟩
  · -- the locations are what they were
    have hlocation : ∀ m c, (s.requested n loc).job m = some c →
        ∃ c₀, s.job m = some c₀ ∧ c₀.location = c.location := by
      intro m c hm
      rcases eq_or_ne m n with rfl | hne
      · have hc := Option.some.inj (requested_job_self.symm.trans hm)
        exact ⟨_, hjob, by rw [← hc]⟩
      · exact ⟨c, (requested_job_of_ne hne).symm.trans hm, rfl⟩
    intro m m' c c' hm hm' heq
    obtain ⟨c₀, hm₀, hloc⟩ := hlocation m c hm
    obtain ⟨c₀', hm₀', hloc'⟩ := hlocation m' c' hm'
    rw [← hloc, ← hloc'] at heq
    exact h.unique m m' c₀ c₀' hm₀ hm₀' heq

/-- **A construction is over**, on both levels, and by the same callback. -/
theorem finish (h : s.Tracks) {p : Pending} (hjob : s.job n = some ⟨loc, p⟩)
    {l : Constructing.Label} (hs : s.core.step l = some (s.core.finish loc)) :
    (s.finish n loc).Tracks := by
  have hcore : (s.finish n loc).core = s.core.finish loc := drop_core
  have hjobs : (s.finish n loc).job = Function.update s.job n none := drop_job
  refine ⟨?_, ?_, ?_⟩
  · rw [hcore]
    exact .tail l h.reachable trivial hs
  · intro c
    rw [hcore, hjobs]
    have hmem : c ∈ (s.core.finish loc).constructions ↔
        c ∈ s.core.constructions ∧ c.location ≠ loc := by
      simp [Constructing.finish, Constructing.delConstructing]
    rw [hmem, h.mem_iff]
    constructor
    · rintro ⟨⟨m, hm⟩, hne⟩
      refine ⟨m, ?_⟩
      rw [Function.update_of_ne, hm]
      rintro rfl
      rw [hjob] at hm
      exact hne (congrArg Construction.location (Option.some.inj hm)).symm
    · rintro ⟨m, hm⟩
      rcases eq_or_ne m n with rfl | hne
      · rw [Function.update_self] at hm
        cases hm
      · rw [Function.update_of_ne hne] at hm
        exact ⟨⟨m, hm⟩, h.location_ne hjob hm hne⟩
  · rw [hjobs]
    intro m m' c c' hm hm' heq
    rcases eq_or_ne m n with rfl | hne
    · rw [Function.update_self] at hm
      cases hm
    rcases eq_or_ne m' n with rfl | hne'
    · rw [Function.update_self] at hm'
      cases hm'
    rw [Function.update_of_ne hne] at hm
    rw [Function.update_of_ne hne'] at hm'
    exact h.unique m m' c c' hm hm' heq

/-- **Every step is one of `_constructing`, or none.** The receivers, the handles and the
muxer's pointers are no part of it. -/
theorem moves (h : s.Tracks) (hinv : s.Inv) (hs : s.Moves s') : s'.Tracks := by
  cases hs with
  | deviceAdd loc a =>
    refine h.deviceAdd (Option.not_isSome_iff_eq_none.mp ?_)
    exact hinv.books.not_mem (r := (s.calls, .transfer)) (hinv.steady.later _ Nat.le.refl _)
  | requested hjob => exact h.requested hjob
  | @failed n loc hjob =>
    refine finish ⟨h.reachable, h.mem_iff, h.unique⟩ hjob (l := .langid loc false) ?_
    exact if_pos ((h.mem_iff _).mpr ⟨_, hjob⟩)
  | @serial n loc pointers hjob =>
    refine finish ⟨h.reachable, h.mem_iff, h.unique⟩ hjob (l := .serial loc) ?_
    exact if_pos ((h.mem_iff _).mpr ⟨_, hjob⟩)
  | held halive => exact ⟨h.reachable, h.mem_iff, h.unique⟩
  | letGo hheld =>
    refine ⟨?_, ?_, ?_⟩
    · rw [drop_core]
      exact h.reachable
    · rw [drop_core, drop_job]
      exact h.mem_iff
    · rw [drop_job]
      exact h.unique
  | attached halive hinfo =>
    obtain ⟨info, hinfo', -, hmade⟩ := hinv.steady.known _ halive
    obtain rfl := Option.some.inj (hinfo.symm.trans hinfo')
    exact h.of_same (l := .attach _) (if_pos hmade) rfl rfl
  | @detached n place hplace =>
    refine h.of_same (l := .detach place) ?_ ?_ drop_job
    · rw [drop_core]
      rfl
    · rw [drop_core]

end Tracks

theorem tracks_of_reachable (h : pluggedMachine.Reachable init s) : s.Tracks := by
  have hboth : s.Inv ∧ s.Tracks := by
    refine h.invariant (I := fun s => s.Inv ∧ s.Tracks) ⟨inv_init, .init⟩ ?_
    rintro s l s' ⟨hinv, htracks⟩ - hs
    have hmoves := moves_of_step hs
    exact ⟨inv_moves hinv hmoves, htracks.moves hinv hmoves⟩
  exact hboth.2

/-- **What `device_add` takes for found, with all that libusb answers, in every run**: a
device the muxer has, or one with the address of a device that libusb has a transfer for.
And what `_constructing` goes through is a run of its own machine. -/
theorem found_iff_in_flight (h : pluggedMachine.Reachable init s) (n : ℕ) (loc : Location)
    (a : Answers) (L : Ledger Item) :
    constructingMachine.Reachable Constructing.init s.core ∧
      ((DeviceAdd.deviceAdd n loc a (s.core.haveUsbDevice loc || s.core.isConstructing loc)
        L).outcome = .found ↔
        loc ∈ s.core.attached ∨
          ∃ m c, s.job m = some c ∧ c.location.address = loc.address) := by
  have htracks := tracks_of_reachable h
  refine ⟨htracks.reachable, ?_⟩
  rw [deviceAdd_refines, deviceAdd_found_iff (Constructing.inv_of_reachable htracks.reachable)]
  refine or_congr_right ?_
  constructor
  · rintro ⟨c, hc, haddress⟩
    obtain ⟨m, hm⟩ := (htracks.mem_iff c).mp hc
    exact ⟨m, c, hm, haddress⟩
  · rintro ⟨m, c, hm, haddress⟩
    exact ⟨c, (htracks.mem_iff c).mpr ⟨m, hm⟩, haddress⟩

/-- While the first transfer for a device is in flight, another one with its address is
taken for found. -/
theorem found_iff_in_flight_twice : ∃ s : Plugged, s.job 0 = some ⟨⟨1, 5⟩, .serial⟩ ∧
    (DeviceAdd.deviceAdd s.calls ⟨2, 5⟩ answers
      (s.core.haveUsbDevice ⟨2, 5⟩ || s.core.isConstructing ⟨2, 5⟩) s.ledger).outcome =
        .found := by
  obtain ⟨s, hr, hp⟩ := pluggedMachine.exists_reaches_of_runOk (fun _ _ => True) init
    [.deviceAdd ⟨1, 5⟩ answers, .langid 0 true true]
    (fun s => decide (s.job 0 = some ⟨⟨1, 5⟩, .serial⟩)) (by decide)
  have hjob : s.job 0 = some ⟨⟨1, 5⟩, .serial⟩ := of_decide_eq_true hp
  refine ⟨s, hjob, ?_⟩
  exact (found_iff_in_flight hr s.calls ⟨2, 5⟩ answers s.ledger).2.mpr
    (Or.inr ⟨0, _, hjob, rfl⟩)

end Plugged

end Usbmuxd
