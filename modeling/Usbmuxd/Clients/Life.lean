import Mathlib.Data.Finset.Basic
import Mathlib.Logic.Function.Basic
import Usbmuxd.Library.Interleaving
import Usbmuxd.Library.Ledger

/-!
# The life of a client

The client manager accepts a connection and makes a `Client` for it, which goes into
`_clients` of the muxer and has a thread of its own from then on. When the thread ends, it
takes the client out of `_clients`, and posts it to the reaper; so does everybody else who
takes it out. The reaper waits for the thread, and lets go of the client. The last pointer
may also be with somebody who tells the listening clients something at that moment.

The descriptor that has been accepted goes with the client: its destructor closes it. Only
if a connection to a device has been made for the client does the connection take it over,
and closes it in its own destructor.

The destructor of a client waits for its thread. So it must not run in that thread, and what
keeps it from doing so is that as long as there is a thread, the client is in `_clients`, or
has been posted to the reaper, or the reaper waits for it
(`Usbmuxd.ClientLife.Kept`).

The client manager has bare pointers to the clients in `_children`. The destructor of a client
takes its own out, for which it has to wait for `_childrenLck`, and only then closes the
descriptor. When the manager is destroyed, it calls `kill` on everything in `_children`, also on
a client whose destructor has begun. `kill` makes a pointer from `_selfref`, which has expired
then, so that a null pointer is posted; and with this the reaper crashes, and all ends
(`Usbmuxd.ClientLife.ReaperPc.crashed`).

This file has the machine, and its order (`Usbmuxd.ClientLife.Order`), in which the pointers and
the descriptors do not occur. No descriptor has the number 0, which `handle_client` would not
close.
-/

namespace Usbmuxd

open Interleaving

namespace ClientLife

/-- What has become of a `Client`. Between `dying` and `gone` its destructor runs, which other
threads may notice, since the client is still in `_children`. -/
inductive Life
  /-- It has not been made. -/
  | absent
  /-- It has been made, and there is a pointer to it. -/
  | alive
  /-- Its destructor has begun, and has not taken it out of `_children` yet. -/
  | dying
  /-- Its destructor has run. -/
  | gone
  deriving DecidableEq

/-- The client is in `_children`. Between the making of a client and its insertion nobody but the
manager knows of it. -/
def Life.IsChild (life : Life) : Prop := life = .alive ∨ life = .dying

instance (life : Life) : Decidable life.IsChild := inferInstanceAs (Decidable (_ ∨ _))

/-- Where the thread of a client is. The place `connecting` is one of its own, as the connection
that is being made has a pointer to the client. -/
inductive LoopPc
  /-- There is none. -/
  | absent
  /-- In `loopEvent`. -/
  | running
  /-- In `Muxer::start_connect`, with pointers to the client. -/
  | connecting
  /-- The loop has ended. -/
  | after
  /-- It has taken the client out of `_clients`, and calls `kill`. -/
  | erased
  /-- It has ended. -/
  | ended
  deriving DecidableEq

/-- Where the thread of the client manager is. It holds a pointer from the making of the client
to the end of `handle_client`, or until an exception has been dealt with. -/
inductive ManagerPc
  /-- In `accept_client`. -/
  | idle
  /-- In `handle_client`, before the client is made. -/
  | accepted (n : ℕ)
  /-- Before `add_client`. -/
  | made (n : ℕ)
  /-- In `add_client`, before `startLoop`. -/
  | inserted (n : ℕ)
  /-- `startLoop` has thrown. -/
  | failed (n : ℕ)
  /-- It has taken the client out of `_clients`, and calls `kill`. -/
  | erased (n : ℕ)
  deriving DecidableEq

/-- The `client` of `handle_client`: the pointer it has on its stack, from the constructor
on. -/
def ManagerPc.client : ManagerPc → Option ℕ
  | .idle | .accepted _ => none
  | .made n | .inserted n | .failed n | .erased n => some n

/-- Where the reaper is. It deals with one client at a time, and keeps its pointer until the
thread of the client has ended. -/
inductive ReaperPc
  /-- It waits for a client. -/
  | idle
  /-- Before `delete_client`. -/
  | popped (n : ℕ)
  /-- It has taken the client out of `_clients`, and calls `kill`. -/
  | erased (n : ℕ)
  /-- In `stopLoop`. -/
  | stopping (n : ℕ)
  /-- It has called `deconstruct` on a null pointer, which is the end of the program. -/
  | crashed
  deriving DecidableEq

/-- The `cli` of `reaper_runloop`. While it is set, the client cannot be destroyed in its own
thread. -/
def ReaperPc.client : ReaperPc → Option ℕ
  | .idle | .crashed => none
  | .popped n | .erased n | .stopping n => some n

end ClientLife

open ClientLife in
/-- The clients, by the number of the connection that has been accepted. A number is not used
again, unlike a descriptor, so that closing one twice can be told from closing two. -/
structure ClientLife where
  /-- How many connections have been accepted. -/
  accepted : ℕ
  manager : ManagerPc
  reaper : ReaperPc
  /-- `~ClientManager` has begun. -/
  closing : Bool
  /-- `_clients`. -/
  clients : Finset ℕ
  /-- `_reapClients`; a null pointer is `none`. -/
  reapClients : List (Option ℕ)
  life : ℕ → Life
  loop : ℕ → LoopPc
  /-- The client has its descriptor: `_fd` is not -1. -/
  fd : ℕ → Bool
  /-- A connection has it. -/
  tcpFd : ℕ → Bool
  /-- How many pointers to the client others have. -/
  refs : ℕ → ℕ
  /-- The descriptors: what has been accepted, and what has been closed. -/
  ledger : Ledger ℕ

namespace ClientLife

section Functions

variable (s : ClientLife) (n : ℕ)

/-- The manager has just been made, and nobody has connected. -/
def init : ClientLife where
  accepted := 0
  manager := .idle
  reaper := .idle
  closing := false
  clients := ∅
  reapClients := []
  life := fun _ => .absent
  loop := fun _ => .absent
  fd := fun _ => false
  tcpFd := fun _ => false
  refs := fun _ => 0
  ledger := .empty

/-- **Somebody will see to the end of the client**: it can still be found in `_clients`, or it
has been posted, or the reaper has it already. -/
def Kept : Prop := n ∈ s.clients ∨ some n ∈ s.reapClients ∨ s.reaper.client = some n

/-- There is a pointer to the client. These are all the places in the source where a
`shared_ptr<Client>` is kept. -/
def Held : Prop := s.Kept n ∨ s.manager.client = some n ∨ s.loop n = .connecting ∨
  s.loop n = .erased ∨ 0 < s.refs n

instance : Decidable (s.Kept n) := inferInstanceAs (Decidable (_ ∨ _))

instance : Decidable (s.Held n) := inferInstanceAs (Decidable (_ ∨ _))

/-- Set the place of the thread of a client. Most steps of a client do no more than this, and
let go of a pointer. -/
def setLoop (pc : LoopPc) : ClientLife := { s with loop := Function.update s.loop n pc }

/-- `_selfref.lock()`, which gives null as soon as the last pointer has gone, even if the
destructor has not come to its end. -/
def selfref : Option ℕ := if s.life n = .alive then some n else none

/-- `Client::kill`: a pointer made from `_selfref` is put into the queue of the reaper, and it
is not looked at before. -/
def post : ClientLife := { s with reapClients := s.reapClients ++ [s.selfref n] }

/-- A pointer to the client has gone. If it was the last one, `~Client` begins; this is the only
way in which a client comes to its end. -/
def settle : ClientLife :=
  if s.Held n then s else { s with life := Function.update s.life n .dying }

/-- What is left of `~Client`: it waits for the thread and for `_childrenLck`, takes the client
out of `_children`, and closes the descriptor, if there is one. -/
def destroy : Option ClientLife :=
  if s.life n = .dying ∧ (s.loop n = .absent ∨ s.loop n = .ended) then
    some { s with
      life := Function.update s.life n .gone
      ledger := if s.fd n then s.ledger.release n else s.ledger }
  else none

/-! ### The manager -/

/-- `accept_client`. The thread has been stopped when `~ClientManager` has begun. -/
def accept : Option ClientLife :=
  if s.manager = .idle ∧ s.closing = false then
    some { s with
      accepted := s.accepted + 1
      manager := .accepted s.accepted
      ledger := s.ledger.acquire s.accepted }
  else none

/-- What `handle_client` and `add_client` do next; `ok` is whether `Client` and `startLoop`
do not throw. -/
def handle (ok : Bool) : Option ClientLife :=
  match s.manager with
  | .idle => none
  | .accepted n =>
    if ok then
      some { s with
        manager := .made n
        life := Function.update s.life n .alive
        fd := Function.update s.fd n true }
    -- the cleanup of `handle_client` closes the descriptor
    else some { s with manager := .idle, ledger := s.ledger.release n }
  | .made n => some { s with manager := .inserted n, clients := insert n s.clients }
  | .inserted n =>
    if ok then some (({ s with manager := .idle }.setLoop n .running).settle n)
    else some { s with manager := .failed n }
  | .failed n =>
    if n ∈ s.clients then some { s with manager := .erased n, clients := s.clients.erase n }
    else some ({ s with manager := .idle }.settle n)
  | .erased n => some (({ s with manager := .idle }.post n).settle n)

/-- `~ClientManager` has stopped the thread. From here on nobody connects, and `_children` only
gets smaller. -/
def close : Option ClientLife :=
  if s.manager = .idle then some { s with closing := true } else none

/-- `~ClientManager` calls `kill` on one of the `_children`, which are bare pointers: the client
may be at its end already, as long as it has not been taken out. -/
def killChild : Option ClientLife :=
  if s.closing ∧ (s.life n).IsChild then some (s.post n) else none

/-! ### The client -/

/-- The client asks for a connection, from within its loop. Until the answer is there, the
connection keeps the client alive. -/
def connect : Option ClientLife :=
  if s.loop n = .running then some (s.setLoop n .connecting) else none

/-- `Muxer::start_connect` throws. The client is told so, unless that throws. -/
def refused (answered : Bool) : Option ClientLife :=
  if s.loop n = .connecting then
    some ((s.setLoop n (if answered then .running else .after)).settle n)
  else none

/-- `TCP::connect`: `_pfd.fd = _cli->_fd; _cli->_fd = -1;`. Whatever comes of `startLoop`,
the loop of the client ends. -/
def connected : Option ClientLife :=
  if s.loop n = .connecting then
    some (({ s with
      tcpFd := Function.update s.tcpFd n (s.tcpFd n || s.fd n)
      fd := Function.update s.fd n false }.setLoop n .after).settle n)
  else none

/-- `loopEvent` throws: the client has disconnected, or has been stopped, or is in error. All of
them lead to `afterLoop`. -/
def leave : Option ClientLife :=
  if s.loop n = .running then some (s.setLoop n .after) else none

/-- `Client::afterLoop`, and the thread ends; `kill` is called if the client has been in
`_clients`. There is no such step if `_selfref` has expired. -/
def afterLoop : Option ClientLife :=
  if s.loop n = .after ∧ s.life n = .alive then
    if n ∈ s.clients then some ({ s with clients := s.clients.erase n }.setLoop n .erased)
    else some ((s.setLoop n .ended).settle n)
  else if s.loop n = .erased then some (((s.post n).setLoop n .ended).settle n)
  else none

/-- `~TCP` closes the descriptor, if it has got one. The client, which has given it away, does
not close it again. -/
def closeConn : Option ClientLife :=
  if s.tcpFd n then
    some { s with tcpFd := Function.update s.tcpFd n false, ledger := s.ledger.release n }
  else none

/-! ### The others -/

/-- Somebody takes a pointer to a client, from `_clients` or elsewhere: a thread that tells all
clients of something, for one. -/
def hold : Option ClientLife :=
  if s.life n = .alive then some { s with refs := Function.update s.refs n (s.refs n + 1) }
  else none

/-- Somebody lets go of it. If all others have done so before, this thread runs the
destructor. -/
def letGo : Option ClientLife :=
  if 0 < s.refs n then
    some ({ s with refs := Function.update s.refs n (s.refs n - 1) }.settle n)
  else none

/-- What the reaper does next. `stopLoop` waits for the thread of the client. -/
def reap : Option ClientLife :=
  match s.reaper with
  | .idle =>
    match s.reapClients with
    | some n :: rest => some { s with reaper := .popped n, reapClients := rest }
    | none :: rest => some { s with reaper := .crashed, reapClients := rest }
    | [] => none
  | .popped n =>
    if n ∈ s.clients then some { s with reaper := .erased n, clients := s.clients.erase n }
    else some { s with reaper := .stopping n }
  | .erased n => some ({ s with reaper := .stopping n }.post n)
  | .stopping n =>
    if s.loop n = .absent ∨ s.loop n = .ended then some ({ s with reaper := .idle }.settle n)
    else none
  | .crashed => none

/-- What happens. Every label is a step of one thread; those that depend on the outcome of a
call say what it was. -/
inductive Label
  /-- The manager accepts a connection. -/
  | accept
  /-- It goes on with it. -/
  | handle (ok : Bool)
  /-- `~ClientManager` begins. -/
  | close
  /-- It calls `kill`. -/
  | killChild (n : ℕ)
  /-- A client asks for a connection. -/
  | connect (n : ℕ)
  /-- It does not get it. -/
  | refused (n : ℕ) (answered : Bool)
  /-- It gets it. -/
  | connected (n : ℕ)
  /-- The loop of a client ends. -/
  | leave (n : ℕ)
  /-- Its thread goes on after that. -/
  | afterLoop (n : ℕ)
  /-- A connection goes. -/
  | closeConn (n : ℕ)
  /-- A pointer is taken. -/
  | hold (n : ℕ)
  /-- A pointer goes. -/
  | letGo (n : ℕ)
  /-- The destructor of a client goes on. -/
  | destroy (n : ℕ)
  /-- The reaper goes on. -/
  | reap

/-- What each of them does, if it can be done now. A step that has to wait gives `none`. -/
def go : Label → Option ClientLife
  | .accept => s.accept
  | .handle ok => s.handle ok
  | .close => s.close
  | .killChild n => s.killChild n
  | .connect n => s.connect n
  | .refused n answered => s.refused n answered
  | .connected n => s.connected n
  | .leave n => s.leave n
  | .afterLoop n => s.afterLoop n
  | .closeConn n => s.closeConn n
  | .hold n => s.hold n
  | .letGo n => s.letGo n
  | .destroy n => s.destroy n
  | .reap => s.reap

/-- One step, as long as the program runs. A null pointer that is dereferenced by the reaper
ends all of it. -/
def step (l : Label) : Option ClientLife := if s.reaper = .crashed then none else s.go l

/-- The thread of the client has begun, and has not come to `delete_client`. This is when
somebody else has to see to the end of the client. -/
def InLoop : Prop := s.loop n = .running ∨ s.loop n = .connecting ∨ s.loop n = .after

end Functions

end ClientLife

/-- The clients, as a machine. -/
def clientLifeMachine : Machine ClientLife ClientLife.Label := ⟨ClientLife.step⟩

namespace ClientLife

variable {s s' : ClientLife} {n m : ℕ} {l : Label}

/-! ### What a step does -/

/-- **What a step does**: the state before a pointer goes, and to which client, if one does.
Letting go of a pointer is taken apart from the rest, because most of the invariant does not
notice it. -/
inductive Moves (s : ClientLife) (l : Label) : ClientLife → Option ℕ → Prop
  | accepted (hmanager : s.manager = .idle) (hclosing : s.closing = false) :
    Moves s l { s with
      accepted := s.accepted + 1
      manager := .accepted s.accepted
      ledger := s.ledger.acquire s.accepted } none
  | made {n : ℕ} (hmanager : s.manager = .accepted n) :
    Moves s l { s with
      manager := .made n
      life := Function.update s.life n .alive
      fd := Function.update s.fd n true } none
  | unmade {n : ℕ} (hmanager : s.manager = .accepted n) :
    Moves s l { s with manager := .idle, ledger := s.ledger.release n } none
  | inserted {n : ℕ} (hmanager : s.manager = .made n) :
    Moves s l { s with manager := .inserted n, clients := insert n s.clients } none
  | started {n : ℕ} (hmanager : s.manager = .inserted n) :
    Moves s l ({ s with manager := .idle }.setLoop n .running) (some n)
  | failed {n : ℕ} (hmanager : s.manager = .inserted n) :
    Moves s l { s with manager := .failed n } none
  | unlisted {n : ℕ} (hmanager : s.manager = .failed n) (hmem : n ∈ s.clients) :
    Moves s l { s with manager := .erased n, clients := s.clients.erase n } none
  | notListed {n : ℕ} (hmanager : s.manager = .failed n) (hmem : n ∉ s.clients) :
    Moves s l { s with manager := .idle } (some n)
  | posted {n : ℕ} (hmanager : s.manager = .erased n) :
    Moves s l ({ s with manager := .idle }.post n) (some n)
  | closed (hmanager : s.manager = .idle) : Moves s l { s with closing := true } none
  | killed {n : ℕ} (hl : l = .killChild n) (hclosing : s.closing = true)
    (hchild : (s.life n).IsChild) :
    Moves s l (s.post n) none
  | connecting {n : ℕ} (hloop : s.loop n = .running) : Moves s l (s.setLoop n .connecting) none
  | refused {n : ℕ} {pc : LoopPc} (hloop : s.loop n = .connecting)
    (hpc : pc = .running ∨ pc = .after) : Moves s l (s.setLoop n pc) (some n)
  | connected {n : ℕ} (hloop : s.loop n = .connecting) :
    Moves s l ({ s with
      tcpFd := Function.update s.tcpFd n (s.tcpFd n || s.fd n)
      fd := Function.update s.fd n false }.setLoop n .after) (some n)
  | left {n : ℕ} (hloop : s.loop n = .running) : Moves s l (s.setLoop n .after) none
  | erased {n : ℕ} (hloop : s.loop n = .after) (halive : s.life n = .alive)
    (hmem : n ∈ s.clients) :
    Moves s l ({ s with clients := s.clients.erase n }.setLoop n .erased) none
  | ended {n : ℕ} (hloop : s.loop n = .after) (halive : s.life n = .alive)
    (hmem : n ∉ s.clients) : Moves s l (s.setLoop n .ended) (some n)
  | endedPosted {n : ℕ} (hloop : s.loop n = .erased) :
    Moves s l ((s.post n).setLoop n .ended) (some n)
  | connClosed {n : ℕ} (hfd : s.tcpFd n = true) :
    Moves s l { s with
      tcpFd := Function.update s.tcpFd n false
      ledger := s.ledger.release n } none
  | held {n : ℕ} (halive : s.life n = .alive) :
    Moves s l { s with refs := Function.update s.refs n (s.refs n + 1) } none
  | letGo {n : ℕ} (hheld : 0 < s.refs n) :
    Moves s l { s with refs := Function.update s.refs n (s.refs n - 1) } (some n)
  | popped {n : ℕ} {rest : List (Option ℕ)} (hreaper : s.reaper = .idle)
    (hqueue : s.reapClients = some n :: rest) :
    Moves s l { s with reaper := .popped n, reapClients := rest } none
  | crashed {rest : List (Option ℕ)} (hreaper : s.reaper = .idle)
    (hqueue : s.reapClients = none :: rest) :
    Moves s l { s with reaper := .crashed, reapClients := rest } none
  | destroyed {n : ℕ} (hdying : s.life n = .dying)
    (hloop : s.loop n = .absent ∨ s.loop n = .ended) :
    Moves s l { s with
      life := Function.update s.life n .gone
      ledger := if s.fd n then s.ledger.release n else s.ledger } none
  | reapErased {n : ℕ} (hreaper : s.reaper = .popped n) (hmem : n ∈ s.clients) :
    Moves s l { s with reaper := .erased n, clients := s.clients.erase n } none
  | reapListed {n : ℕ} (hreaper : s.reaper = .popped n) (hmem : n ∉ s.clients) :
    Moves s l { s with reaper := .stopping n } none
  | reapPosted {n : ℕ} (hreaper : s.reaper = .erased n) :
    Moves s l ({ s with reaper := .stopping n }.post n) none
  | reaped {n : ℕ} (hreaper : s.reaper = .stopping n)
    (hloop : s.loop n = .absent ∨ s.loop n = .ended) :
    Moves s l { s with reaper := .idle } (some n)

/-- What becomes of the state when the pointer has gone, if a pointer goes in that step. -/
def settleAt (s : ClientLife) : Option ℕ → ClientLife
  | none => s
  | some n => s.settle n

theorem moves_of_handle {ok : Bool} (h : s.handle ok = some s') :
    ∃ s₁ dropped, s.Moves l s₁ dropped ∧ s' = s₁.settleAt dropped := by
  unfold handle at h
  cases hmanager : s.manager with
  | idle =>
    rw [hmanager] at h
    cases h
  | accepted n =>
    rw [hmanager] at h
    cases ok with
    | true => exact ⟨_, none, .made hmanager, (Option.some.inj h).symm⟩
    | false => exact ⟨_, none, .unmade hmanager, (Option.some.inj h).symm⟩
  | made n =>
    rw [hmanager] at h
    exact ⟨_, none, .inserted hmanager, (Option.some.inj h).symm⟩
  | inserted n =>
    rw [hmanager] at h
    cases ok with
    | true => exact ⟨_, some n, .started hmanager, (Option.some.inj h).symm⟩
    | false => exact ⟨_, none, .failed hmanager, (Option.some.inj h).symm⟩
  | failed n =>
    rw [hmanager] at h
    dsimp only at h
    split_ifs at h with hmem
    · exact ⟨_, none, .unlisted hmanager hmem, (Option.some.inj h).symm⟩
    · exact ⟨_, some n, .notListed hmanager hmem, (Option.some.inj h).symm⟩
  | erased n =>
    rw [hmanager] at h
    exact ⟨_, some n, .posted hmanager, (Option.some.inj h).symm⟩

theorem moves_of_reap (h : s.reap = some s') :
    ∃ s₁ dropped, s.Moves l s₁ dropped ∧ s' = s₁.settleAt dropped := by
  unfold reap at h
  cases hreaper : s.reaper with
  | idle =>
    rw [hreaper] at h
    cases hqueue : s.reapClients with
    | nil =>
      rw [hqueue] at h
      cases h
    | cons cli rest =>
      rw [hqueue] at h
      cases cli with
      | none => exact ⟨_, none, .crashed hreaper hqueue, (Option.some.inj h).symm⟩
      | some n => exact ⟨_, none, .popped hreaper hqueue, (Option.some.inj h).symm⟩
  | popped n =>
    rw [hreaper] at h
    dsimp only at h
    split_ifs at h with hmem
    · exact ⟨_, none, .reapErased hreaper hmem, (Option.some.inj h).symm⟩
    · exact ⟨_, none, .reapListed hreaper hmem, (Option.some.inj h).symm⟩
  | erased n =>
    rw [hreaper] at h
    exact ⟨_, none, .reapPosted hreaper, (Option.some.inj h).symm⟩
  | stopping n =>
    rw [hreaper] at h
    obtain ⟨hloop, h⟩ := Option.ite_none_right_eq_some.mp h
    exact ⟨_, some n, .reaped hreaper hloop, (Option.some.inj h).symm⟩
  | crashed =>
    rw [hreaper] at h
    cases h

theorem moves_of_afterLoop (h : s.afterLoop n = some s') :
    ∃ s₁ dropped, s.Moves l s₁ dropped ∧ s' = s₁.settleAt dropped := by
  unfold afterLoop at h
  split_ifs at h with hafter hmem herased
  · exact ⟨_, none, .erased hafter.1 hafter.2 hmem, (Option.some.inj h).symm⟩
  · exact ⟨_, some n, .ended hafter.1 hafter.2 hmem, (Option.some.inj h).symm⟩
  · exact ⟨_, some n, .endedPosted herased, (Option.some.inj h).symm⟩

theorem moves_of_step (h : s.step l = some s') :
    ∃ s₁ dropped, s.Moves l s₁ dropped ∧ s' = s₁.settleAt dropped := by
  obtain ⟨-, h⟩ := Option.ite_none_left_eq_some.mp h
  cases l with
  | accept =>
    obtain ⟨hguard, h⟩ := Option.ite_none_right_eq_some.mp h
    exact ⟨_, none, .accepted hguard.1 hguard.2, (Option.some.inj h).symm⟩
  | handle ok => exact moves_of_handle h
  | close =>
    obtain ⟨hmanager, h⟩ := Option.ite_none_right_eq_some.mp h
    exact ⟨_, none, .closed hmanager, (Option.some.inj h).symm⟩
  | killChild n =>
    obtain ⟨hguard, h⟩ := Option.ite_none_right_eq_some.mp h
    exact ⟨_, none, .killed rfl hguard.1 hguard.2, (Option.some.inj h).symm⟩
  | connect n =>
    obtain ⟨hloop, h⟩ := Option.ite_none_right_eq_some.mp h
    exact ⟨_, none, .connecting hloop, (Option.some.inj h).symm⟩
  | refused n answered =>
    obtain ⟨hloop, h⟩ := Option.ite_none_right_eq_some.mp h
    refine ⟨_, some n, .refused hloop ?_, (Option.some.inj h).symm⟩
    cases answered with
    | true => exact Or.inl rfl
    | false => exact Or.inr rfl
  | connected n =>
    obtain ⟨hloop, h⟩ := Option.ite_none_right_eq_some.mp h
    exact ⟨_, some n, .connected hloop, (Option.some.inj h).symm⟩
  | leave n =>
    obtain ⟨hloop, h⟩ := Option.ite_none_right_eq_some.mp h
    exact ⟨_, none, .left hloop, (Option.some.inj h).symm⟩
  | afterLoop n => exact moves_of_afterLoop h
  | closeConn n =>
    obtain ⟨hfd, h⟩ := Option.ite_none_right_eq_some.mp h
    exact ⟨_, none, .connClosed hfd, (Option.some.inj h).symm⟩
  | hold n =>
    obtain ⟨halive, h⟩ := Option.ite_none_right_eq_some.mp h
    exact ⟨_, none, .held halive, (Option.some.inj h).symm⟩
  | letGo n =>
    obtain ⟨hheld, h⟩ := Option.ite_none_right_eq_some.mp h
    exact ⟨_, some n, .letGo hheld, (Option.some.inj h).symm⟩
  | destroy n =>
    obtain ⟨hguard, h⟩ := Option.ite_none_right_eq_some.mp h
    exact ⟨_, none, .destroyed hguard.1 hguard.2, (Option.some.inj h).symm⟩
  | reap => exact moves_of_reap h

@[simp, grind =] theorem setLoop_loop (pc : LoopPc) :
    (s.setLoop n pc).loop m = if m = n then pc else s.loop m := Function.update_apply ..

@[simp, grind =] theorem setLoop_life (pc : LoopPc) : (s.setLoop n pc).life m = s.life m := rfl

@[simp, grind =] theorem setLoop_fd (pc : LoopPc) : (s.setLoop n pc).fd m = s.fd m := rfl

@[simp, grind =] theorem setLoop_tcpFd (pc : LoopPc) : (s.setLoop n pc).tcpFd m = s.tcpFd m := rfl

@[simp, grind =] theorem post_life : (s.post n).life m = s.life m := rfl

@[simp, grind =] theorem post_loop : (s.post n).loop m = s.loop m := rfl

@[simp, grind =] theorem post_fd : (s.post n).fd m = s.fd m := rfl

@[simp, grind =] theorem post_tcpFd : (s.post n).tcpFd m = s.tcpFd m := rfl

@[simp, grind =] theorem setLoop_clients (pc : LoopPc) : (s.setLoop n pc).clients = s.clients := rfl

@[simp, grind =] theorem setLoop_reapClients (pc : LoopPc) :
    (s.setLoop n pc).reapClients = s.reapClients := rfl

@[simp, grind =] theorem setLoop_reaper (pc : LoopPc) : (s.setLoop n pc).reaper = s.reaper := rfl

@[simp, grind =] theorem setLoop_manager (pc : LoopPc) :
    (s.setLoop n pc).manager = s.manager := rfl

@[simp, grind =] theorem setLoop_refs (pc : LoopPc) : (s.setLoop n pc).refs = s.refs := rfl

/-- What has been posted: what was posted before, and this client, if there is a pointer to it. -/
@[simp, grind =] theorem mem_post_reapClients :
    some m ∈ (s.post n).reapClients ↔ some m ∈ s.reapClients ∨ m = n ∧ s.life n = .alive := by
  rw [post, List.mem_append, List.mem_singleton, selfref]
  split_ifs with halive <;> simp [halive]

@[simp, grind =] theorem post_reaper : (s.post n).reaper = s.reaper := rfl

@[simp, grind =] theorem post_clients : (s.post n).clients = s.clients := rfl

@[simp, grind =] theorem post_manager : (s.post n).manager = s.manager := rfl

@[simp, grind =] theorem post_refs : (s.post n).refs = s.refs := rfl

@[simp, grind =] theorem post_accepted : (s.post n).accepted = s.accepted := rfl

@[simp, grind =] theorem post_closing : (s.post n).closing = s.closing := rfl

/-! ### The order -/

/-- **The order of things**: who is in `_clients`, who has been posted, and where the threads
are. -/
structure Order (s : ClientLife) : Prop where
  /-- As long as a client has a thread, somebody will see to its end. -/
  kept : ∀ m, s.InLoop m → s.Kept m
  /-- The clients in `_clients` have a thread, or are about to get one. -/
  members : ∀ m ∈ s.clients, s.InLoop m ∨ s.manager = .inserted m ∨ s.manager = .failed m
  inserted : ∀ m, s.manager = .inserted m → m ∈ s.clients
  /-- The manager has the new client for itself. -/
  fresh : ∀ m, s.manager = .accepted m ∨ s.manager = .made m ∨ s.manager = .inserted m →
    s.loop m = .absent ∧ ¬(some m ∈ s.reapClients ∨ s.reaper.client = some m)
  failed : ∀ m, s.manager = .failed m ∨ s.manager = .erased m → s.loop m = .absent
  closing : s.closing = true → s.manager = .idle
  /-- Only connections that have been accepted occur. -/
  born : ∀ m, s.manager = .accepted m ∨ s.Held m ∨ s.loop m ≠ .absent → m < s.accepted

namespace Order

theorem init : init.Order where
  kept := by simp [InLoop, ClientLife.init]
  members := by simp [ClientLife.init]
  inserted := nofun
  fresh := nofun
  failed := nofun
  closing := nofun
  born := by simp [Held, Kept, ManagerPc.client, ReaperPc.client, ClientLife.init]

variable {s₁ : ClientLife} {dropped : Option ℕ}

theorem kept_moves (h : s.Order) (hs : s.Moves l s₁ dropped) : ∀ m, s₁.InLoop m → s₁.Kept m := by
  have hkept := h.kept
  simp only [InLoop, Kept] at hkept ⊢
  cases hs with
  | started hmanager =>
    have hmem := h.inserted _ hmanager
    grind [setLoop]
  | unlisted hmanager =>
    have habsent := h.failed _ (Or.inl hmanager)
    grind
  -- the reaper has waited for the thread
  | reaped hreaper hloop => grind [ReaperPc.client]
  | _ => first | exact hkept | grind [setLoop, ReaperPc.client]

theorem members_moves (h : s.Order) (hs : s.Moves l s₁ dropped) :
    ∀ m ∈ s₁.clients, s₁.InLoop m ∨ s₁.manager = .inserted m ∨ s₁.manager = .failed m := by
  have hmembers := h.members
  simp only [InLoop] at hmembers ⊢
  cases hs with
  -- where the loop of a client ends, the client is not in `_clients` any more
  | erased hloop halive hmem => grind [setLoop]
  | ended hloop halive hmem => grind [setLoop]
  | endedPosted hloop => grind [setLoop]
  | _ => first | exact hmembers | grind [setLoop]

theorem inserted_moves (h : s.Order) (hs : s.Moves l s₁ dropped) :
    ∀ m, s₁.manager = .inserted m → m ∈ s₁.clients := by
  have hinserted := h.inserted
  cases hs with
  | erased hloop =>
    have hfresh := h.fresh
    grind [setLoop]
  | reapErased hreaper =>
    have hfresh := h.fresh
    grind [ReaperPc.client]
  | _ => first | exact hinserted | grind [setLoop]

theorem fresh_moves (h : s.Order) (hs : s.Moves l s₁ dropped) :
    ∀ m, s₁.manager = .accepted m ∨ s₁.manager = .made m ∨ s₁.manager = .inserted m →
      s₁.loop m = .absent ∧ ¬(some m ∈ s₁.reapClients ∨ s₁.reaper.client = some m) := by
  have hfresh := h.fresh
  cases hs with
  | accepted hmanager =>
    have hborn := h.born
    grind [Held, Kept]
  | killed _ hclosing =>
    have hidle := h.closing hclosing
    grind
  | _ => first | exact hfresh | grind [setLoop, ReaperPc.client]

theorem failed_moves (h : s.Order) (hs : s.Moves l s₁ dropped) :
    ∀ m, s₁.manager = .failed m ∨ s₁.manager = .erased m → s₁.loop m = .absent := by
  have hfailed := h.failed
  cases hs with
  | failed hmanager =>
    have hfresh := h.fresh
    grind
  | _ => first | exact hfailed | grind [setLoop]

theorem closing_moves (h : s.Order) (hs : s.Moves l s₁ dropped) :
    s₁.closing = true → s₁.manager = .idle := by
  have hclosing := h.closing
  cases hs <;> first | exact hclosing | grind [setLoop]

theorem born_moves (h : s.Order) (hs : s.Moves l s₁ dropped)
    (halive : ∀ m, s.life m = .alive → m < s.accepted) :
    ∀ m, s₁.manager = .accepted m ∨ s₁.Held m ∨ s₁.loop m ≠ .absent → m < s₁.accepted := by
  have hborn := h.born
  simp only [Held, Kept] at hborn ⊢
  cases hs with
  | killed _ hclosing hn => grind
  | held hn => grind
  | _ => first | exact hborn |
    grind [setLoop, ReaperPc.client, ManagerPc.client, Function.update_apply]

theorem moves (h : s.Order) (hs : s.Moves l s₁ dropped)
    (halive : ∀ m, s.life m = .alive → m < s.accepted) : s₁.Order where
  kept := h.kept_moves hs
  members := h.members_moves hs
  inserted := h.inserted_moves hs
  fresh := h.fresh_moves hs
  failed := h.failed_moves hs
  closing := h.closing_moves hs
  born := h.born_moves hs halive

theorem settleAt (h : s.Order) (dropped : Option ℕ) : (s.settleAt dropped).Order := by
  rcases dropped with - | n
  · exact h
  · unfold ClientLife.settleAt settle
    dsimp only
    split_ifs
    · exact h
    all_goals exact ⟨h.kept, h.members, h.inserted, h.fresh, h.failed, h.closing, h.born⟩

end Order

end ClientLife

end Usbmuxd
