import Usbmuxd.Devices.Reaper
import Usbmuxd.Library.Interleaving

/-!
# Tearing a device down

`USBDevice::deconstruct` takes the device out of the muxer, posts a request to the
connection reaper for every port in `_conns`, and then sleeps until `_conns` is empty;
the reaper gives a signal whenever it has erased a port. It may be called again, since
every callback of a transfer may call `kill`.

`start_connect` is called by the threads of the clients, with a device that
`Muxer::start_connect` has looked up before. That the device has left the muxer since then
does not stop them.

## What goes wrong

A connection that is made after the requests have been posted has no request of its own.
The sleeper waits for it, and if no one else asks for it to be closed, forever; and after
`deconstruct` has returned, the connection keeps the device alive.

The order in which things happen decides about it: teardown closes all connections if each of
them is registered before the requests are posted (`Usbmuxd.Deconstruct.Early`), that is, if no
call of `start_connect` gets past its test of `_conns.size()` and registers its connection only
then. A single late connection need not do harm, though. When it comes to a port for which
there is still a request in the queue, it is closed along with the one the request was meant
for; so the theorem is about runs in which every late connection is of this kind
(`Usbmuxd.Deconstruct.Barred`), which those are in which there are no late ones.
-/

namespace Usbmuxd

open Interleaving Conns

namespace Deconstruct

/-- Where `USBDevice::deconstruct` is. It waits for an event, and looks at the size of `_conns`
again after each of them. -/
inductive Pc
  /-- Not in it. -/
  | off
  /-- Before the test of `_conns.size()`. -/
  | checking
  /-- In `_conns_close_event.waitForEvent`. -/
  | asleep (wevent : ℕ)
  deriving DecidableEq

end Deconstruct

/-- A device that is being torn down, with the event by which `deconstruct` is told that a
connection has gone. -/
structure Deconstruct where
  /-- The connections. -/
  host : Conns
  /-- `_conns_close_event`. -/
  connsCloseEvent : EventCount
  /-- Where `deconstruct` is. -/
  pc : Deconstruct.Pc
  /-- Whether it has returned before. -/
  returned : Bool

namespace Deconstruct

variable (s : Deconstruct)

/-- A device without connections, and nobody has begun to tear it down. -/
def init : Deconstruct := ⟨Conns.init, ⟨0⟩, .off, false⟩

/-- The steps of a device that is being torn down: those of `deconstruct`, and all that other
threads do on the connections. -/
inductive Label
  /-- A step on the connections. -/
  | host (l : Conns.Label)
  /-- `deconstruct` is called, and posts its requests. -/
  | deconstruct
  /-- `deconstruct` tests the size of `_conns`. -/
  | check
  /-- `deconstruct` wakes up. -/
  | wake

/-- `deconstruct` posts a request for every port, however often it is called. -/
def postAll (d : Conns) : Conns :=
  { d with
    deconstructed := true
    reapConnections := d.reapConnections ++ d.conns.keys.insertionSort (· ≤ ·) }

/-- The reaper has gone through `_conns.erase`, and calls `_conns_close_event.notifyAll`. -/
def signalled (d d' : Conns) : Bool := decide (d.reaper ≠ .idle ∧ d'.reaper = .idle)

/-- A step of another thread on the connections. If it is the end of a teardown by the reaper,
the event is signalled. -/
def hostStep (l : Conns.Label) : Option Deconstruct :=
  (s.host.step l).map fun d' =>
    { s with
      host := d'
      connsCloseEvent := if signalled s.host d' then s.connsCloseEvent.advance
        else s.connsCloseEvent }

/-- One step. `deconstruct` is part of this machine and no step on the connections any more. -/
def step : Label → Option Deconstruct
  | .host .deconstruct => none
  | .host l => s.hostStep l
  | .deconstruct =>
    if s.pc = .off ∧ s.host.guardFree then
      some { s with host := postAll s.host, pc := .checking }
    else none
  | .check =>
    if s.pc = .checking ∧ s.host.guardFree then
      if s.host.conns.entries.length = 0 then some { s with pc := .off, returned := true }
      else some { s with pc := .asleep s.connsCloseEvent.next }
    else none
  | .wake =>
    match s.pc with
    | .asleep wevent => if s.connsCloseEvent.Reached wevent then
        some { s with pc := .checking } else none
    | _ => none

end Deconstruct

/-- The teardown of a device, and what goes on meanwhile in all the other threads. -/
def deconstructMachine : Machine Deconstruct Deconstruct.Label := ⟨Deconstruct.step⟩

namespace Deconstruct

/-! ### Closing all connections -/

/-- Every registered port has a request, so that the reaper is going to see to it. -/
def Pended (d : Conns) : Prop := ∀ port o, d.Registered port o → d.Pending port

/-- **Teardown closes all connections**: a sleeper waits for connections that the reaper
has been asked for, and none is left behind. -/
structure ClosesAll (s : Deconstruct) : Prop where
  /-- While `deconstruct` sleeps, every port has a request queued or being served. -/
  asleep : ∀ wevent, s.pc = .asleep wevent → Pended s.host
  /-- After it has returned, there are no connections. -/
  returned : s.returned = true → ∀ port o, ¬s.host.Registered port o

/-- **Connections are early**: `start_connect` registers a connection only before `deconstruct`
has posted its requests. This is a condition on the schedule alone. -/
def Early (s : Deconstruct) : Label → Prop
  | .host (.makeConn _ _) => s.host.deconstructed = false
  | _ => True

instance (s : Deconstruct) : (l : Label) → Decidable (Early s l)
  | .host (.makeConn _ _) => inferInstanceAs (Decidable (s.host.deconstructed = false))
  | .host .startConnect => isTrue trivial
  | .host (.tcp _ _) => isTrue trivial
  | .host (.dispatch _) => isTrue trivial
  | .host .reap => isTrue trivial
  | .host .deconstruct => isTrue trivial
  | .deconstruct => isTrue trivial
  | .check => isTrue trivial
  | .wake => isTrue trivial

/-- **No connection slips in.** Not every late connection does harm: what one step has to meet
is weaker than `Early`. It may register a connection after the post, as long as `deconstruct`
has not returned, on the port that it is about to get if there is a request for that port in
the queue, or the reaper is serving one, from an earlier connection. -/
def Barred (s : Deconstruct) : Label → Prop
  | .host (.makeConn _ _) => s.host.deconstructed = true →
      ∀ port, Search.FirstFrom (· + 1) (Free s.host.used) s.host.nextPort port →
        s.returned = false ∧ s.host.Pending port
  | _ => True

variable {s s' : Deconstruct} {d d' : Conns} {l : Label} {port : BitVec 16} {o : ℕ}

/-- The schedule condition is enough: a connection that is made before `deconstruct` posts its
requests gets one of them. -/
theorem Early.barred (h : Early s l) : Barred s l := by
  match l, h with
  | .host (.makeConn _ _), h => exact fun hposted => absurd (hposted.symm.trans h) (by simp)
  | .host .startConnect, _ => trivial
  | .host (.tcp _ _), _ => trivial
  | .host (.dispatch _), _ => trivial
  | .host .reap, _ => trivial
  | .host .deconstruct, _ => trivial
  | .deconstruct, _ => trivial
  | .check, _ => trivial
  | .wake, _ => trivial

/-! ### The steps -/

/-- **After the post, every port has a request**, since the requests are made from the entries
of `_conns` under the guard. -/
theorem pended_postAll (d : Conns) : Pended (postAll d) := by
  intro port o hreg
  have hkey : port ∈ d.conns.keys := by
    rw [← AList.mem_keys, ← AList.lookup_isSome]
    exact Option.isSome_iff_exists.mpr ⟨o, hreg⟩
  exact .inl (List.mem_append_right _ ((List.mem_insertionSort _).mpr hkey))

/-- When `_conns` has no entries, nothing is registered. This is the test that `deconstruct`
makes. -/
theorem not_registered_of_length (h : d.conns.entries.length = 0) (port : BitVec 16) (o : ℕ) :
    ¬d.Registered port o := by
  intro hreg
  have hkey : port ∈ d.conns := AList.lookup_isSome.mp (Option.isSome_iff_exists.mpr ⟨o, hreg⟩)
  rw [AList.mem_keys, AList.keys, List.length_eq_zero_iff.mp h] at hkey
  cases hkey

/-- Only `deconstruct` sets `deconstructed`. -/
theorem step_deconstructed {l : Conns.Label} (h : d.step l = some d') (hl : l ≠ .deconstruct) :
    d'.deconstructed = d.deconstructed := by
  cases l with
  | startConnect =>
    simp only [Conns.step] at h
    split at h
    · cases h
      rfl
    · cases h
      rfl
  | makeConn dport seq =>
    simp only [Conns.step, Option.ite_none_right_eq_some] at h
    obtain ⟨-, h⟩ := h
    cases h
    rcases makeConn_cases (d := d) dport seq with ⟨port, -, heq⟩ | ⟨port, heq⟩
    · rw [heq]
    · rw [heq]
  | tcp o l =>
    obtain ⟨-, -, c', -, rfl⟩ := step_tcp h
    rfl
  | dispatch seg =>
    rcases step_dispatch h with rfl | ⟨o, -, rfl⟩
    · rfl
    · rfl
  | reap =>
    rcases reap_cases h with ⟨_, _, -, -, rfl⟩ | ⟨_, _, -, -, rfl⟩ | ⟨_, -, -, rfl⟩ |
      ⟨_, _, -, -, rfl⟩ | ⟨_, _, _, -, -, rfl⟩
    all_goals rfl
  | deconstruct => exact absurd rfl hl

/-- **The moves**: others work on the connections, or `deconstruct` posts its requests,
finds `_conns` empty, sleeps, or wakes. -/
theorem step_cases (h : s.step l = some s') :
    (∃ l' d' e, l = .host l' ∧ l' ≠ .deconstruct ∧ s.host.step l' = some d' ∧
      s' = { s with host := d', connsCloseEvent := e }) ∨
    (l = .deconstruct ∧ s' = { s with host := postAll s.host, pc := .checking }) ∨
    (s.pc = .checking ∧ s.host.conns.entries.length = 0 ∧
      s' = { s with pc := .off, returned := true }) ∨
    (s.pc = .checking ∧ s' = { s with pc := .asleep s.connsCloseEvent.next }) ∨
    ∃ wevent, s.pc = .asleep wevent ∧ s' = { s with pc := .checking } := by
  cases l with
  | host l' =>
    by_cases hl : l' = .deconstruct
    · subst hl
      cases h
    · have hs : s.hostStep l' = some s' := by
        cases l' with
        | deconstruct => exact absurd rfl hl
        | _ => exact h
      obtain ⟨d', hd, rfl⟩ := Option.map_eq_some_iff.mp hs
      exact .inl ⟨l', d', _, rfl, hl, hd, rfl⟩
  | deconstruct =>
    obtain ⟨-, hs⟩ := Option.ite_none_right_eq_some.mp h
    exact .inr (.inl ⟨rfl, (Option.some.inj hs).symm⟩)
  | check =>
    obtain ⟨⟨hpc, -⟩, hs⟩ := Option.ite_none_right_eq_some.mp h
    split at hs
    · rename_i hempty
      exact .inr (.inr (.inl ⟨hpc, hempty, (Option.some.inj hs).symm⟩))
    · exact .inr (.inr (.inr (.inl ⟨hpc, (Option.some.inj hs).symm⟩)))
  | wake =>
    simp only [step] at h
    split at h
    · rename_i wevent hpc
      obtain ⟨-, hs⟩ := Option.ite_none_right_eq_some.mp h
      exact .inr (.inr (.inr (.inr ⟨wevent, hpc, (Option.some.inj hs).symm⟩)))
    · cases h

/-! ### The invariant -/

/-- **The invariant**: from the post on every registered port has a request, and none is
registered once `deconstruct` has returned. -/
structure Inv (s : Deconstruct) : Prop where
  /-- From the post on, every port has a request. -/
  pended : s.host.deconstructed = true → Pended s.host
  /-- After the return, there are no connections. -/
  closed : s.returned = true → ∀ port o, ¬s.host.Registered port o
  /-- The requests are posted before `deconstruct` goes on. -/
  posted : s.pc ≠ .off → s.host.deconstructed = true
  /-- Also before it returns. -/
  posted_returned : s.returned = true → s.host.deconstructed = true

theorem inv_init : Inv init where
  pended := fun h => by simp [init, Conns.init] at h
  closed := fun h => by simp [init] at h
  posted := fun h => absurd rfl h
  posted_returned := fun h => by simp [init] at h

theorem Inv.closesAll (h : Inv s) : ClosesAll s :=
  ⟨fun wevent hpc => h.pended (h.posted (by rw [hpc]; simp)), h.closed⟩

/-- **A step of another thread** keeps the invariant, if it is not a connection that slips in
after the post. -/
theorem Inv.host (h : Inv s) {l' : Conns.Label} {e : EventCount} (hl : l' ≠ .deconstruct)
    (hok : Barred s (.host l')) (hs : s.host.step l' = some d') :
    Inv { s with host := d', connsCloseEvent := e } := by
  have hbooks := step_books hs
  have hdec := step_deconstructed hs hl
  refine ⟨?_, ?_, fun hpc => hdec.trans (h.posted hpc),
    fun hret => hdec.trans (h.posted_returned hret)⟩
  · intro hposted port o hreg
    have hposted : s.host.deconstructed = true := hdec.symm.trans hposted
    rcases hbooks.registered port o hreg with hold | ⟨-, -, hfirst, dport, seq, rfl, -⟩
    · exact hbooks.kept port o hold hreg (h.pended hposted port o hold)
    · -- a connection on a port with a request, which registering it does not take away
      have hpending := (hok hposted port hfirst).2
      simp only [Conns.step, Option.ite_none_right_eq_some] at hs
      obtain ⟨-, hs⟩ := hs
      cases hs
      rcases makeConn_cases (d := s.host) dport seq with ⟨_, -, heq⟩ | ⟨_, heq⟩
      · rw [heq]
        exact hpending
      · rw [heq]
        exact hpending
  · intro hret port o hreg
    rcases hbooks.registered port o hreg with hold | ⟨-, -, hfirst, dport, seq, rfl, -⟩
    · exact h.closed hret port o hold
    · have hopen := (hok (h.posted_returned hret) port hfirst).1
      exact absurd (hopen.symm.trans hret) (by simp)

/-- **Every step keeps the invariant**, if no connection slips in. -/
theorem Inv.step (h : Inv s) (hok : Barred s l) (hs : s.step l = some s') : Inv s' := by
  rcases step_cases hs with ⟨l', d', e, rfl, hl, hd, rfl⟩ | ⟨rfl, rfl⟩ | ⟨hpc, hempty, rfl⟩ |
    ⟨hpc, rfl⟩ | ⟨wevent, hpc, rfl⟩
  · exact h.host hl hok hd
  · exact ⟨fun _ => pended_postAll s.host, h.closed, fun _ => rfl, fun _ => rfl⟩
  · have hposted := h.posted (by rw [hpc]; simp)
    exact ⟨h.pended, fun _ => not_registered_of_length hempty, fun _ => hposted, fun _ => hposted⟩
  · have hposted := h.posted (by rw [hpc]; simp)
    exact ⟨h.pended, h.closed, fun _ => hposted, h.posted_returned⟩
  · have hposted := h.posted (by rw [hpc]; simp)
    exact ⟨h.pended, h.closed, fun _ => hposted, h.posted_returned⟩

/-- **Teardown closes all connections** in every run in which none slips in; in particular in
every run in which all of them are early. -/
theorem closes_all_of_reaches (h : deconstructMachine.Reaches Barred init s) : ClosesAll s :=
  (h.invariant inv_init fun _ _ _ hinv hok hs => hinv.step hok hs).closesAll

/-- A client connects to port 62078, and `deconstruct` waits for the connection. -/
def sleeper : List Label :=
  [.host .startConnect, .host (.makeConn 62078 7), .deconstruct, .check]

/-- A sleeper, whose connection the reaper has been asked for. It is going to be woken when the
connection has gone. -/
theorem closes_all_of_reaches_sleeper : ∃ s : Deconstruct, s.pc = .asleep 1 ∧
    s.host.Registered 1 0 ∧ ClosesAll s := by
  obtain ⟨s, hr, hp⟩ := deconstructMachine.exists_reaches_of_runOk Early init sleeper
    (fun s => decide (s.pc = .asleep 1 ∧ s.host.Registered 1 0)) (by decide)
  obtain ⟨hpc, hreg⟩ := of_decide_eq_true hp
  exact ⟨s, hpc, hreg, closes_all_of_reaches (hr.mono fun _ _ h => h.barred)⟩

/-- **Connections that slip in**: a call of `start_connect` that is past the test of the
size makes its connection after `deconstruct` has posted its requests, and the sleeper waits
for a port that no one has asked the reaper for; or it makes it after `deconstruct` has
returned. -/
theorem connection_slips_in :
    (∃ s, deconstructMachine.Reachable init s ∧ s.pc = .asleep 1 ∧ ¬ClosesAll s) ∧
    ∃ s, deconstructMachine.Reachable init s ∧ s.returned = true ∧ ¬ClosesAll s := by
  constructor
  · obtain ⟨s, hr, hp⟩ := deconstructMachine.exists_reaches_of_runOk (fun _ _ => True) init
      [.host .startConnect, .deconstruct, .host (.makeConn 62078 7), .check]
      (fun s => decide (s.pc = .asleep 1 ∧ s.host.Registered 1 0 ∧ ¬s.host.Pending 1))
      (by decide)
    obtain ⟨hpc, hreg, hnone⟩ := of_decide_eq_true hp
    exact ⟨s, hr, hpc, fun hall => hnone (hall.asleep 1 hpc 1 0 hreg)⟩
  · obtain ⟨s, hr, hp⟩ := deconstructMachine.exists_reaches_of_runOk (fun _ _ => True) init
      [.host .startConnect, .deconstruct, .check, .host (.makeConn 62078 7)]
      (fun s => decide (s.returned = true ∧ s.host.Registered 1 0)) (by decide)
    obtain ⟨hret, hreg⟩ := of_decide_eq_true hp
    exact ⟨s, hr, hret, fun hall => hall.returned hret 1 0 hreg⟩

end Deconstruct

end Usbmuxd
