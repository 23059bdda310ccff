import Mathlib.Data.List.AList
import Mathlib.Data.List.Sort
import Usbmuxd.Library.Search
import Usbmuxd.Tcp.Connection

/-!
# The connections of a device

A `USBDevice` keeps its connections in `_conns`, by source port. `start_connect` puts
them there, `device_data_input` finds them there, and the reaper takes them out. The
reaper works on requests, and a request is a port: `TCP::kill` posts the port of its
connection, and `USBDevice::deconstruct` posts all of them.

This file composes the machine of a connection with that bookkeeping. A `TCP` object
has a number, which the program does not have and which tells two connections on the
same port apart; an object may go on living after the reaper has erased it, since its
threads hold on to it.

The size of `_conns` is tested before the lock is taken, so `start_connect` is two
steps. The reaper holds `_conns_Guard` from the search for the connection to its
erasure, with the steps of `TCP::deconstruct` in between, and meanwhile nobody else
gets at `_conns`.
-/

namespace Usbmuxd

open Interleaving

/-! ### The search for a port -/

namespace Conns

/-- The `while` loop of `USBDevice::start_connect`, from `_nextPort` on: where it leaves
`_nextPort`, and whether it has found a port rather than thrown. -/
def searchPort (used : BitVec 16 → Bool) : ℕ → BitVec 16 → Bool → BitVec 16 × Bool
  | 0, nextPort, _ => (nextPort, false)
  | fuel + 1, nextPort, didIterAllPorts =>
      if used nextPort ∨ nextPort = 0 then
        if nextPort = 0 then
          -- “Failed to find available port!”
          if didIterAllPorts then (nextPort, false)
          else searchPort used fuel (nextPort + 1) true
        else searchPort used fuel (nextPort + 1) didIterAllPorts
      else (nextPort, true)

/-- How many turns of the loop are left at most. After the last port the search goes through all
of them once more, and gives up at the second end. -/
def turnsLeft (nextPort : BitVec 16) (didIterAllPorts : Bool) : ℕ :=
  (if nextPort = 0 then 0 else 65536 - nextPort.toNat) + if didIterAllPorts then 0 else 65537

/-- Enough turns for any search: twice the number of ports, and two more. -/
def enoughTurns : ℕ := 131074

variable {used : BitVec 16 → Bool} {p q : BitVec 16} {did : Bool} {n : ℕ}

theorem toNat_ne_zero (hp : p ≠ 0) : p.toNat ≠ 0 := fun h => hp (BitVec.eq_of_toNat_eq h)

/-- A turn that passes a port over leaves fewer turns, also at the end of the range. -/
theorem turnsLeft_succ (hp : p ≠ 0) (did : Bool) : turnsLeft (p + 1) did < turnsLeft p did := by
  have hlt : p.toNat < 65536 := p.isLt
  have hne : p.toNat ≠ 0 := toNat_ne_zero hp
  have hsucc : (p + 1).toNat = (p.toNat + 1) % 65536 := by simp [BitVec.toNat_add]
  unfold turnsLeft
  rw [if_neg hp]
  by_cases hwrap : p + 1 = 0
  · rw [if_pos hwrap]
    omega
  · have hne' := toNat_ne_zero hwrap
    rw [if_neg hwrap]
    omega

theorem turnsLeft_wrap : turnsLeft (0 + 1) true < turnsLeft 0 false := by decide

/-- One turn of the loop. -/
theorem searchPort_turn (used : BitVec 16 → Bool) (n : ℕ) (p : BitVec 16) (did : Bool) :
    searchPort used (n + 1) p did =
      if used p ∨ p = 0 then
        if p = 0 then if did then (p, false) else searchPort used n (p + 1) true
        else searchPort used n (p + 1) did
      else (p, true) :=
  rfl

/-- No turns are left only at port 0, when all ports have been passed. -/
theorem eq_of_turnsLeft_le_zero (h : turnsLeft p did ≤ 0) : p = 0 ∧ did = true := by
  have hlt : p.toNat < 65536 := p.isLt
  unfold turnsLeft at h
  split_ifs at h with hp hdid hdid
  · exact ⟨hp, hdid⟩
  · omega
  · omega
  · omega

theorem turnsLeft_le (p : BitVec 16) (did : Bool) : turnsLeft p did ≤ enoughTurns := by
  unfold turnsLeft enoughTurns
  split_ifs <;> omega

/-- A port that `start_connect` may take: no connection has it, and it is not 0. -/
def Free (used : BitVec 16 → Bool) (port : BitVec 16) : Prop := used port = false ∧ port ≠ 0

instance (used : BitVec 16 → Bool) (port : BitVec 16) : Decidable (Free used port) :=
  inferInstanceAs (Decidable (_ ∧ _))

/-- **The search finds the first free port**, counted from the one at which it begins and going
round at the end of the range. -/
theorem searchPort_firstFrom (h : searchPort used n p did = (q, true)) :
    Search.FirstFrom (· + 1) (Free used) p q := by
  induction n generalizing p did with
  | zero => cases h
  | succ n ih =>
    rw [searchPort] at h
    split_ifs at h with hpass hp hdid
    · cases h
    · exact .step (fun hf => hf.2 hp) (ih h)
    · exact .step (fun hf => hpass.elim (by simp [hf.1]) hp) (ih h)
    · obtain rfl : p = q := congrArg Prod.fst h
      rw [not_or, Bool.not_eq_true] at hpass
      exact .here hpass

end Conns

/-! ### The state -/

namespace Conns

/-- Where `reaper_runloop` is. It takes a port from the queue before it takes the guard, so that
the connection may change in between. -/
inductive ReaperPc
  /-- In `_reapConnections.wait`. -/
  | idle
  /-- Before `_conns_Guard` is taken. -/
  | popped (conport : BitVec 16)
  /-- Holding `_conns_Guard`, in `deconstruct` or past it. -/
  | deconstructing (conport : BitVec 16) (conn : ℕ)
  deriving DecidableEq

end Conns

open Conns

/-- A device, as far as its connections go. Objects are numbered in the order in which they are
made, since a port may be used again for another connection. -/
structure Conns where
  /-- `_conns`, with the numbers of the objects. -/
  conns : AList fun _ : BitVec 16 => ℕ
  /-- `_nextPort`. -/
  nextPort : BitVec 16
  /-- `_reapConnections`. -/
  reapConnections : List (BitVec 16)
  /-- Where the reaper is. -/
  reaper : ReaperPc
  /-- The `TCP` objects. -/
  obj : ℕ → Tcp
  /-- How many of them have been made. -/
  made : ℕ
  /-- How many calls of `start_connect` are past the test of the size. -/
  entered : ℕ
  /-- `USBDevice::kill` has been called. -/
  killPosted : Bool
  /-- `USBDevice::deconstruct` has posted its requests. -/
  deconstructed : Bool

namespace Conns

variable (d : Conns)

/-- A device without connections, on which nothing has been called. -/
def init : Conns where
  conns := ∅
  nextPort := 0
  reapConnections := []
  reaper := .idle
  obj := fun _ => Tcp.new 0 0 0
  made := 0
  entered := 0
  killPosted := false
  deconstructed := false

/-- Somebody may take `_conns_Guard`, since the reaper does not hold it. All other sections
under the guard are one step here. -/
def guardFree : Prop :=
  match d.reaper with
  | .deconstructing _ _ => False
  | _ => True

instance : Decidable d.guardFree := by
  unfold guardFree
  split <;> infer_instance

/-- A port that `_conns` has an entry for. -/
def used (port : BitVec 16) : Bool := (d.conns.lookup port).isSome

/-- Object `o` becomes `c`, and the others stay as they are. -/
def setObj (o : ℕ) (c : Tcp) : Conns := { d with obj := Function.update d.obj o c }

/-! ### The steps -/

/-- The steps on a device. Each step of a connection is one of them, with the number of the
object that makes it. -/
inductive Label
  /-- `start_connect` tests the size of `_conns`. -/
  | startConnect
  /-- `start_connect` looks for a port and makes a connection; `seq` is what `random`
  returns. -/
  | makeConn (dport : BitVec 16) (seq : BitVec 32)
  /-- A thread makes a step on object `o`. -/
  | tcp (o : ℕ) (l : Tcp.Label)
  /-- `device_data_input` hands a segment to the connection it is for. -/
  | dispatch (s : Segment)
  /-- The reaper makes a step. -/
  | reap
  /-- `USBDevice::deconstruct` posts a request for every connection. -/
  | deconstruct

/-- `USBDevice::start_connect` under `_conns_Guard`: a port is looked for, and a connection is
made and put under it. -/
def makeConn (dport : BitVec 16) (seq : BitVec 32) : Conns :=
  match searchPort d.used enoughTurns d.nextPort false with
  | (port, true) =>
      { d with
        conns := d.conns.insert port d.made
        nextPort := port
        obj := Function.update d.obj d.made (Tcp.new port dport seq)
        made := d.made + 1
        entered := d.entered - 1 }
  | (port, false) => { d with nextPort := port, entered := d.entered - 1 }

/-- What the device sees of a step that takes object `o` from `c` to `c'`: each call of
`TCP::kill` posts a request, and a `handle_input` that throws makes the receiver kill
the device. -/
def observe (o : ℕ) (c c' : Tcp) (l : Tcp.Label) : Conns :=
  { d.setObj o c' with
    reapConnections := d.reapConnections ++
      List.replicate (c'.core.kills - c.core.kills) c.core.sPort
    killPosted := d.killPosted ||
      match l with
      | .input (.lockStx i _) => c'.handler i = .threw
      | _ => false }

/-- The labels of the threads that are inside an object: calls of `handle_input` come
from `device_data_input`, and `deconstruct` is called by the reaper. -/
def ofThread : Tcp.Label → Bool
  | .input (.call _) | .deconstruct => false
  | _ => true

/-- `reaper_runloop`, one step of it. If there is no connection under the port, the request is
dropped. -/
def reap : Option Conns :=
  match d.reaper with
  | .idle =>
      match d.reapConnections with
      | conport :: rest => some { d with reaper := .popped conport, reapConnections := rest }
      | [] => none
  | .popped conport =>
      match d.conns.lookup conport with
      | some o => some { d with reaper := .deconstructing conport o }
      | none => some { d with reaper := .idle }
  | .deconstructing conport o =>
      if (d.obj o).teardown = .done then
        some { d with reaper := .idle, conns := d.conns.erase conport }
      else ((d.obj o).step .deconstruct).map (d.setObj o)

/-- One step, on the connections as a whole or in one of them. -/
def step : Label → Option Conns
  | .startConnect =>
      if d.conns.entries.length < 0xfff0 then some { d with entered := d.entered + 1 } else some d
  | .makeConn dport seq =>
      if 0 < d.entered ∧ d.guardFree then some (d.makeConn dport seq) else none
  | .tcp o l =>
      if o < d.made ∧ ofThread l then
        ((d.obj o).step l).map fun c' => d.observe o (d.obj o) c' l
      else none
  | .dispatch s =>
      if d.guardFree then
        match d.conns.lookup s.hdr.thDport with
        | some o => some (d.setObj o ((d.obj o).enter s))
        | none => some d
      else none
  | .reap => d.reap
  | .deconstruct =>
      if d.guardFree ∧ d.deconstructed = false then
        some { d with
          deconstructed := true
          reapConnections := d.reapConnections ++ d.conns.keys.insertionSort (· ≤ ·) }
      else none

/-! ### What a step does -/

variable {d} {d' : Conns} {o : ℕ} {port : BitVec 16}

/-- `start_connect` makes a connection on the first free port, or it throws. -/
theorem makeConn_cases (dport : BitVec 16) (seq : BitVec 32) :
    (∃ port, Search.FirstFrom (· + 1) (Free d.used) d.nextPort port ∧
      d.makeConn dport seq =
        { d with
          conns := d.conns.insert port d.made
          nextPort := port
          obj := Function.update d.obj d.made (Tcp.new port dport seq)
          made := d.made + 1
          entered := d.entered - 1 }) ∨
    ∃ port, d.makeConn dport seq = { d with nextPort := port, entered := d.entered - 1 } := by
  unfold makeConn
  split
  · next port hport => exact Or.inl ⟨port, searchPort_firstFrom hport, rfl⟩
  · next port hport => exact Or.inr ⟨port, rfl⟩

/-- A step of a thread of object `o`, and what the device notices of it: a request, if the
connection has called `kill`. -/
theorem step_tcp {l : Tcp.Label} (h : d.step (.tcp o l) = some d') :
    o < d.made ∧ ofThread l = true ∧
      ∃ c', (d.obj o).step l = some c' ∧ d' = d.observe o (d.obj o) c' l := by
  simp only [step, Option.ite_none_right_eq_some, Option.map_eq_some_iff] at h
  obtain ⟨⟨ho, hl⟩, c', hc, rfl⟩ := h
  exact ⟨ho, hl, c', hc, rfl⟩

/-- `device_data_input`. -/
theorem step_dispatch {s : Segment} (h : d.step (.dispatch s) = some d') :
    d' = d ∨ ∃ o, d.conns.lookup s.hdr.thDport = some o ∧
      d' = d.setObj o ((d.obj o).enter s) := by
  simp only [step, Option.ite_none_right_eq_some] at h
  obtain ⟨-, h⟩ := h
  split at h
  · next o ho => exact Or.inr ⟨o, ho, (Option.some.inj h).symm⟩
  · exact Or.inl (Option.some.inj h).symm

/-- **What the reaper does**: it takes a request, finds the connection on that port or
finds none, tears the connection down, and erases it. -/
theorem reap_cases (h : d.reap = some d') :
    (∃ port rest, d.reaper = .idle ∧ d.reapConnections = port :: rest ∧
      d' = { d with reaper := .popped port, reapConnections := rest }) ∨
    (∃ port o, d.reaper = .popped port ∧ d.conns.lookup port = some o ∧
      d' = { d with reaper := .deconstructing port o }) ∨
    (∃ port, d.reaper = .popped port ∧ d.conns.lookup port = none ∧
      d' = { d with reaper := .idle }) ∨
    (∃ port o, d.reaper = .deconstructing port o ∧ (d.obj o).teardown = .done ∧
      d' = { d with reaper := .idle, conns := d.conns.erase port }) ∨
    ∃ port o c', d.reaper = .deconstructing port o ∧
      (d.obj o).step .deconstruct = some c' ∧ d' = d.setObj o c' := by
  unfold reap at h
  cases hr : d.reaper with
  | idle =>
    simp only [hr] at h
    -- waiting for a request
    split at h <;> cases h
    next port rest hq => exact Or.inl ⟨port, rest, rfl, hq, rfl⟩
  | popped port =>
    simp only [hr] at h
    split at h <;> cases h
    · next o ho => exact Or.inr (Or.inl ⟨port, o, rfl, ho, rfl⟩)
    · next ho => exact Or.inr (Or.inr (Or.inl ⟨port, rfl, ho, rfl⟩))
  | deconstructing port o =>
    simp only [hr] at h
    split_ifs at h with hdone
    · exact Or.inr (Or.inr (Or.inr (Or.inl ⟨port, o, rfl, hdone, (Option.some.inj h).symm⟩)))
    · obtain ⟨c', hc, rfl⟩ := Option.map_eq_some_iff.mp h
      exact Or.inr (Or.inr (Or.inr (Or.inr ⟨port, o, c', rfl, hc, rfl⟩)))

@[simp] theorem setObj_self (d : Conns) (o : ℕ) (c : Tcp) : (d.setObj o c).obj o = c := by
  simp [setObj]

theorem setObj_of_ne (d : Conns) {o o' : ℕ} (c : Tcp) (h : o' ≠ o) :
    (d.setObj o c).obj o' = d.obj o' := by
  simp [setObj, h]

/-- **What a step makes of an object**: nothing, or what a step of the connection makes
of it, or a new connection. Such a step is made by a thread of the object, by the reaper
or by a receiver that dispatches a segment. -/
theorem step_obj {l : Label} (h : d.step l = some d') (o : ℕ) :
    d'.obj o = d.obj o ∨
    (∃ l', (d.obj o).step l' = some (d'.obj o) ∧ (ofThread l' = true → l = .tcp o l') ∧
      (l' = .deconstruct → ∃ port, d.reaper = .deconstructing port o) ∧
      (ofThread l' = false → l' = .deconstruct ∨ ∃ s, l = .dispatch s)) ∨
    o = d.made ∧ d'.made = d.made + 1 ∧
      ∃ port dport seq, d'.obj o = Tcp.new port dport seq := by
  -- a step of object `o'`, seen from object `o`
  have hset : ∀ {o' c' l'}, (d.obj o').step l' = some c' → (d.setObj o' c').obj o = d.obj o ∨
      o = o' ∧ (d.obj o).step l' = some ((d.setObj o' c').obj o) := fun {o' c' l'} hc => by
    by_cases ho : o = o'
    · subst ho
      exact Or.inr ⟨rfl, by simpa using hc⟩
    · exact Or.inl (d.setObj_of_ne c' ho)
  cases l with
  | startConnect =>
    simp only [step] at h
    split_ifs at h <;> cases h <;> exact Or.inl rfl
  | makeConn dport seq =>
    simp only [step, Option.ite_none_right_eq_some] at h
    obtain ⟨-, h⟩ := h
    cases h
    rcases makeConn_cases (d := d) dport seq with ⟨port, -, heq⟩ | ⟨port, heq⟩
    · rw [heq]
      by_cases ho : o = d.made
      · exact Or.inr (Or.inr ⟨ho, rfl, port, dport, seq, by simp [ho]⟩)
      · exact Or.inl (by simp [ho])
    · exact Or.inl (by rw [heq])
  | tcp o' l' =>
    obtain ⟨-, hthread, c', hc, rfl⟩ := step_tcp h
    rcases hset hc with he | ⟨rfl, he⟩
    · exact Or.inl he
    · refine Or.inr (Or.inl ⟨l', he, fun _ => rfl, ?_, ?_⟩)
      · intro hl'
        rw [hl'] at hthread
        cases hthread
      · intro hl'
        rw [hl'] at hthread
        cases hthread
  | dispatch s =>
    rcases step_dispatch h with rfl | ⟨o', -, rfl⟩
    · exact Or.inl rfl
    · have hcall : (d.obj o').step (.input (.call s)) = some ((d.obj o').enter s) := rfl
      rcases hset hcall with he | ⟨rfl, he⟩
      · exact Or.inl he
      · exact Or.inr (Or.inl ⟨_, he, nofun, nofun, fun _ => Or.inr ⟨s, rfl⟩⟩)
  | reap =>
    rcases reap_cases h with ⟨port, rest, -, -, rfl⟩ | ⟨port, o', -, -, rfl⟩ | ⟨port, -, -, rfl⟩ |
      ⟨port, o', -, -, rfl⟩ | ⟨port, o', c', hr, hc, rfl⟩
    · exact Or.inl rfl
    · exact Or.inl rfl
    · exact Or.inl rfl
    · exact Or.inl rfl
    · rcases hset hc with he | ⟨rfl, he⟩
      · exact Or.inl he
      · exact Or.inr (Or.inl ⟨_, he, nofun, fun _ => ⟨port, hr⟩, fun _ => Or.inl rfl⟩)
  | deconstruct =>
    simp only [step, Option.ite_none_right_eq_some] at h
    obtain ⟨-, h⟩ := h
    cases h
    exact Or.inl rfl

end Conns

/-- The connections of a device as a machine, which starts without any. -/
def connsMachine : Machine Conns Conns.Label := ⟨Conns.step⟩

end Usbmuxd
