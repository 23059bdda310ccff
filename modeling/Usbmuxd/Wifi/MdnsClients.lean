import Mathlib.Logic.Function.Basic
import Usbmuxd.Library.InPlace
import Usbmuxd.Library.Interleaving

/-!
# The clients of the mDNS discovery

With `HAVE_WIFI_MDNS` a `WIFIDeviceManager` finds wifi devices with the functions of
`dns_sd.h`. For every service that `browse_reply` learns of it makes a `DNSServiceRef` to have
the service resolved, and `resolve_reply` makes another one to ask for the addresses. Both are
polled as long as they are in `_resolveClients`. When `getaddr_reply` has the last address, it
puts the two into `_removeClients`; the loop takes them out of `_resolveClients` and frees
them when it has handled everything that `poll` has reported.

All of this happens in the thread of the manager, since the callbacks are called by
`DNSServiceProcessResult`.

Two more `DNSServiceRef`s, `_client` and `_clientPairing`, browse for the services. They are made
and freed with the discovery as a whole, are never in `_resolveClients`, and do not occur here.

## What goes wrong

The loop takes a client out with `std::remove` and frees what then lies at the place where the
vector is to be cut off. That is the last client (`InPlace.removed_eq_last`), which need not be
the one that is taken out. If it is another one, that one is still polled, while nobody has a
pointer to the removed one any more. So every client has to be the last when its turn comes
(`Usbmuxd.MdnsClients.NewestFirst`), and this is why the order in `_removeClients` matters:
the client that has asked for the addresses has been made after the one that has resolved the
service.

Besides, `resolve_reply` drops a client that has no socket.
-/

namespace Usbmuxd

open Interleaving InPlace

namespace MdnsClients

/-- What a `DNSServiceRef` has been made by. The callback that is called for it depends on
this. -/
inductive Kind
  /-- `DNSServiceResolve`. -/
  | resolve
  /-- `DNSServiceGetAddrInfo`. -/
  | getAddrInfo
  deriving DecidableEq

end MdnsClients

open MdnsClients

/-- The clients of a `WIFIDeviceManager`, without the two that browse. A `DNSServiceRef` is given
by its address; `NULL` is 0. -/
structure MdnsClients where
  /-- The clients that have been made and not been freed. -/
  live : ℕ → Option Kind
  /-- `_resolveClients`. -/
  resolveClients : List ℕ
  /-- `_removeClients`. -/
  removeClients : List ℕ
  /-- `_linkedClients`. -/
  linkedClients : ℕ → Option ℕ
  /-- `_clientAddrs`. -/
  clientAddrs : ℕ → Option (List (List Char))
  /-- A client has been freed that there was not. -/
  freedTwice : Bool
  /-- The services whose addresses have come in: name and addresses, the newest first. -/
  services : List (List Char × List (List Char))

namespace MdnsClients

/-- What happens in the thread. A list of clients gives those that have no socket when
`rebuild_pollfds` asks for it. -/
inductive Event
  /-- `browse_reply` has made a client. -/
  | browse (ref : ℕ) (noFd : List ℕ)
  /-- `resolve_reply` with this `fullname` has made a client, which has a socket or not. -/
  | resolve (sdRef : ℕ) (fullname : List Char) (ref : ℕ) (hasFd : Bool) (noFd : List ℕ)
  /-- `getaddr_reply`, with no address in case of an error; `more` is
  `kDNSServiceFlagsMoreComing`. -/
  | getaddr (sdRef : ℕ) (address : Option (List Char)) (more : Bool)
  /-- Everything that `poll` has reported is handled. -/
  | handled (noFd : List ℕ)
  /-- `cleanup_mdns`. -/
  | cleanup

section Steps

variable (s : MdnsClients)

/-- `DNSServiceRefDeallocate`. To call it for a client that has been freed is undefined; here it
is written down that it has happened. -/
def deallocate (ref : ℕ) : MdnsClients :=
  { s with
    live := Function.update s.live ref none
    freedTwice := s.freedTwice || (s.live ref).isNone }

/-- `DNSServiceResolve` or `DNSServiceGetAddrInfo` makes a client. Whoever asked for it has to
free it. -/
def make (ref : ℕ) (kind : Kind) : MdnsClients :=
  { s with live := Function.update s.live ref (some kind) }

/-- `rebuild_pollfds`, by which the loop learns which clients it has to wait for. -/
def rebuildPollfds (noFd : List ℕ) : MdnsClients :=
  { s with
    removeClients := s.removeClients ++ s.resolveClients.filter fun c => decide (c ∈ noFd) }

/-- One pass of the loop over `_removeClients`: the client is taken out of the list, and
something is freed. -/
def removeClient (rc : ℕ) : MdnsClients :=
  -- `target` is not the end
  match (remove rc s.resolveClients).2[(remove rc s.resolveClients).1]? with
  | none => s
  | some tgt =>
    { s with
      resolveClients :=
        (remove rc s.resolveClients).2.take (remove rc s.resolveClients).1 }.deallocate tgt

/-- What is done when the handling of `poll` ends: all clients that have been noted are taken
out, one after the other. -/
def handled (noFd : List ℕ) : MdnsClients :=
  { s.removeClients.foldl removeClient s with removeClients := [] }.rebuildPollfds noFd

/-- `getaddr_reply`, for the part that concerns the clients. It may be called several times for
one client, once for each address. -/
def getaddrReply (sdRef : ℕ) (address : Option (List Char)) (more : Bool) : MdnsClients :=
  let addrs := address.map fun ipaddr => (s.clientAddrs sdRef).getD [] ++ [ipaddr]
  if more then
    match addrs with
    | none => s
    | some addrs => { s with clientAddrs := Function.update s.clientAddrs sdRef (some addrs) }
  else
    { s with
      services :=
        match addrs with
        | some (serviceName :: addrs) => (serviceName, addrs) :: s.services
        | _ => s.services
      clientAddrs := Function.update s.clientAddrs sdRef none
      linkedClients := Function.update s.linkedClients sdRef none
      removeClients := s.removeClients ++ [sdRef, (s.linkedClients sdRef).getD 0] }

/-- The clients that `cleanup_mdns` frees, which are those in the list. -/
def cleanupMdns : MdnsClients :=
  { s.resolveClients.foldl deallocate s with
    resolveClients := []
    removeClients := []
    linkedClients := fun _ => none
    clientAddrs := fun _ => none }

/-- A client that is made has a new address, which no living client has. One that has been freed
may have had it. -/
def Fresh (ref : ℕ) : Prop := ref ≠ 0 ∧ s.live ref = none

instance (ref : ℕ) : Decidable (s.Fresh ref) :=
  inferInstanceAs (Decidable (ref ≠ 0 ∧ s.live ref = none))

/-- The callbacks of a client are called: it is polled, and it is there. -/
def Called (ref : ℕ) (kind : Kind) : Prop := ref ∈ s.resolveClients ∧ s.live ref = some kind

instance (ref : ℕ) (kind : Kind) : Decidable (s.Called ref kind) :=
  inferInstanceAs (Decidable (ref ∈ s.resolveClients ∧ s.live ref = some kind))

end Steps

/-- One event: the library calls back, or the loop does what has been left to it. -/
def step (s : MdnsClients) : Event → Option MdnsClients
  | .browse ref noFd =>
    if s.Fresh ref then
      some ({ s.make ref .resolve with
        resolveClients := s.resolveClients ++ [ref] }.rebuildPollfds noFd)
    else none
  | .resolve sdRef fullname ref hasFd noFd =>
    if s.Called sdRef .resolve ∧ s.Fresh ref then
      if hasFd then
        some ({ s.make ref .getAddrInfo with
          clientAddrs := Function.update s.clientAddrs ref (some [fullname])
          resolveClients := s.resolveClients ++ [ref]
          linkedClients := Function.update s.linkedClients ref (some sdRef)
            }.rebuildPollfds noFd)
      else some (s.make ref .getAddrInfo)
    else none
  | .getaddr sdRef address more =>
    if s.Called sdRef .getAddrInfo then some (s.getaddrReply sdRef address more) else none
  | .handled noFd => some (s.handled noFd)
  | .cleanup => some s.cleanupMdns

/-- Before `init_mdns` there are no clients of any kind. -/
def start : MdnsClients where
  live _ := none
  resolveClients := []
  removeClients := []
  linkedClients _ := none
  clientAddrs _ := none
  freedTwice := false
  services := []

/-- **The clients that are there are those in `_resolveClients`**, and none has been freed
twice. -/
structure Owned (s : MdnsClients) : Prop where
  /-- No client is in the vector twice. -/
  nodup : s.resolveClients.Nodup
  /-- Those in the vector are there, and there are no others. -/
  live_iff : ∀ ref, s.live ref ≠ none ↔ ref ∈ s.resolveClients
  /-- None has been freed that there was not. -/
  once : s.freedTwice = false

/-- **Every client to be removed is the last** when its turn comes, if it is there at all. -/
def NewestFirst : List ℕ → List ℕ → Prop
  | _, [] => True
  | resolveClients, rc :: rest =>
    (rc ∈ resolveClients → resolveClients.getLast? = some rc) ∧
      NewestFirst (resolveClients.erase rc) rest

instance decNewestFirst : (l r : List ℕ) → Decidable (NewestFirst l r)
  | _, [] => isTrue trivial
  | l, rc :: rest =>
    letI := decNewestFirst (l.erase rc) rest
    inferInstanceAs (Decidable
      ((rc ∈ l → l.getLast? = some rc) ∧ NewestFirst (l.erase rc) rest))

/-- **An event that keeps the clients in order**: when clients are removed, each is the last
when its turn comes, and a client that `resolve_reply` makes has a socket. -/
def Tidy (s : MdnsClients) : Event → Prop
  | .resolve _ _ _ hasFd _ => hasFd = true
  | .handled _ => NewestFirst s.resolveClients s.removeClients
  | _ => True

instance (s : MdnsClients) : (e : Event) → Decidable (s.Tidy e)
  | .browse _ _ => isTrue trivial
  | .resolve _ _ _ hasFd _ => inferInstanceAs (Decidable (hasFd = true))
  | .getaddr _ _ _ => isTrue trivial
  | .handled _ => inferInstanceAs (Decidable (NewestFirst s.resolveClients s.removeClients))
  | .cleanup => isTrue trivial

end MdnsClients

/-- The thread of the manager, as far as its clients go. It is one thread, so that the events
come one after the other. -/
def mdnsClientsMachine : Machine MdnsClients MdnsClients.Event := ⟨MdnsClients.step⟩

namespace MdnsClients

variable {s s' : MdnsClients} {ref rc tgt sdRef : ℕ} {kind : Kind} {noFd l : List ℕ} {e : Event}

/-! ### Making a client and freeing it -/

theorem live_deallocate_ne_none_iff :
    (s.deallocate tgt).live ref ≠ none ↔ ref ≠ tgt ∧ s.live ref ≠ none := by
  rcases eq_or_ne ref tgt with rfl | hne
  · simp [deallocate]
  · simp [deallocate, hne]

theorem freedTwice_deallocate (h : s.live tgt ≠ none) :
    (s.deallocate tgt).freedTwice = s.freedTwice := by
  simp [deallocate, h]

theorem Owned.not_mem_of_fresh (h : s.Owned) (href : s.Fresh ref) : ref ∉ s.resolveClients :=
  fun hmem => (h.live_iff ref).mpr hmem href.2

/-- A new client that is put into `_resolveClients` is going to be freed from there. -/
theorem Owned.make (h : s.Owned) (href : s.Fresh ref) (hlive : s'.live = (s.make ref kind).live)
    (hclients : s'.resolveClients = s.resolveClients ++ [ref])
    (honce : s'.freedTwice = s.freedTwice) : s'.Owned where
  nodup := by
    rw [hclients]
    exact List.nodup_append.mpr ⟨h.nodup, List.nodup_singleton ref, fun a ha b hb hab =>
      h.not_mem_of_fresh href (List.mem_singleton.mp hb ▸ hab ▸ ha)⟩
  live_iff ref' := by
    rw [hlive, hclients, List.mem_append, List.mem_singleton, ← h.live_iff ref']
    rcases eq_or_ne ref' ref with rfl | hne
    · simp [MdnsClients.make]
    · simp [MdnsClients.make, hne]
  once := honce.trans h.once

/-- A new client that is dropped is never freed, as nobody has it. -/
theorem Owned.not_of_drop (h : s.Owned) (href : s.Fresh ref) : ¬(s.make ref kind).Owned := by
  intro howned
  refine h.not_mem_of_fresh href ((howned.live_iff ref).mp ?_)
  simp [MdnsClients.make]

theorem Owned.congr (h : s.Owned) (hlive : s'.live = s.live)
    (hclients : s'.resolveClients = s.resolveClients) (honce : s'.freedTwice = s.freedTwice) :
    s'.Owned where
  nodup := hclients ▸ h.nodup
  live_iff ref := by rw [hlive, hclients, h.live_iff]
  once := honce.trans h.once

/-- `getaddr_reply` leaves it to the loop to take the clients out, since it is called for one of
them. -/
theorem getaddrReply_frame (s : MdnsClients) (sdRef : ℕ) (address : Option (List Char))
    (more : Bool) : (s.getaddrReply sdRef address more).live = s.live ∧
      (s.getaddrReply sdRef address more).resolveClients = s.resolveClients ∧
      (s.getaddrReply sdRef address more).freedTwice = s.freedTwice := by
  cases more <;> cases address <;> exact ⟨rfl, rfl, rfl⟩

/-! ### Taking clients out -/

theorem removeClient_of_not_mem (hrc : rc ∉ s.resolveClients) : s.removeClient rc = s := by
  rw [removeClient, removed_of_not_mem hrc]

/-- **The last client is freed**, whichever is taken out: the loop goes by the place that
`std::remove` has left behind. -/
theorem removeClient_of_mem (hnodup : s.resolveClients.Nodup) (hrc : rc ∈ s.resolveClients)
    (htgt : s.resolveClients.getLast? = some tgt) :
    s.removeClient rc =
      { s with resolveClients := s.resolveClients.erase rc }.deallocate tgt := by
  rw [removeClient, removed_eq_last hnodup hrc, htgt]
  simp only [take_remove, kept_eq_erase hnodup]

theorem Owned.removeClient (h : s.Owned)
    (hlast : rc ∈ s.resolveClients → s.resolveClients.getLast? = some rc) :
    (s.removeClient rc).Owned := by
  by_cases hrc : rc ∈ s.resolveClients
  · rw [removeClient_of_mem h.nodup hrc (hlast hrc)]
    refine ⟨h.nodup.erase rc, fun ref => ?_, ?_⟩
    · rw [live_deallocate_ne_none_iff, h.live_iff]
      exact h.nodup.mem_erase_iff.symm
    · exact (freedTwice_deallocate ((h.live_iff rc).mpr hrc)).trans h.once
  · rwa [removeClient_of_not_mem hrc]

theorem resolveClients_removeClient (hnodup : s.resolveClients.Nodup) (rc : ℕ) :
    (s.removeClient rc).resolveClients = s.resolveClients.erase rc := by
  by_cases hrc : rc ∈ s.resolveClients
  · obtain ⟨tgt, htgt⟩ := exists_getLast?_of_mem hrc
    rw [removeClient_of_mem hnodup hrc htgt]
    rfl
  · rw [removeClient_of_not_mem hrc, List.erase_of_not_mem hrc]

theorem resolveClients_foldl_removeClient (hnodup : s.resolveClients.Nodup) (l : List ℕ) :
    (l.foldl MdnsClients.removeClient s).resolveClients = s.resolveClients.diff l := by
  induction l generalizing s with
  | nil => exact (List.diff_nil _).symm
  | cons rc l ih =>
    have hrc := resolveClients_removeClient hnodup rc
    rw [List.foldl_cons, ih (hrc ▸ hnodup.erase rc), hrc, List.diff_cons]

/-- **What a wrong client that is freed leaves behind**: one has been freed twice, or the last
one that is polled is not there. -/
structure Spoilt (s : MdnsClients) : Prop where
  /-- No client is in the vector twice. -/
  nodup : s.resolveClients.Nodup
  /-- The last one is not there. -/
  last : s.freedTwice = true ∨ ∃ ref, s.resolveClients.getLast? = some ref ∧ s.live ref = none

theorem Spoilt.not_owned (h : s.Spoilt) : ¬s.Owned := by
  intro howned
  rcases h.last with htwice | ⟨ref, hlast, hdead⟩
  · exact Bool.false_ne_true (howned.once.symm.trans htwice)
  · exact (howned.live_iff ref).mpr (List.mem_of_getLast? hlast) hdead

/-- The first client that is not the last spoils everything: it is lost, and another one is
freed that is still in the list. -/
theorem Owned.spoilt_removeClient (h : s.Owned) (hrc : rc ∈ s.resolveClients)
    (hlast : s.resolveClients.getLast? ≠ some rc) : (s.removeClient rc).Spoilt := by
  obtain ⟨tgt, htgt⟩ := exists_getLast?_of_mem hrc
  have hne : rc ≠ tgt := fun heq => hlast (heq ▸ htgt)
  rw [removeClient_of_mem h.nodup hrc htgt]
  exact ⟨h.nodup.erase rc, .inr ⟨tgt, getLast?_erase htgt hne, Function.update_self ..⟩⟩

theorem Spoilt.removeClient (h : s.Spoilt) (rc : ℕ) : (s.removeClient rc).Spoilt := by
  by_cases hrc : rc ∈ s.resolveClients
  · obtain ⟨tgt, htgt⟩ := exists_getLast?_of_mem hrc
    rw [removeClient_of_mem h.nodup hrc htgt]
    refine ⟨h.nodup.erase rc, .inl ?_⟩
    rcases h.last with htwice | ⟨ref, hlast, hdead⟩
    · simp [deallocate, htwice]
    · obtain rfl : tgt = ref := Option.some.inj (htgt.symm.trans hlast)
      simp [deallocate, hdead]
  · rwa [removeClient_of_not_mem hrc]

theorem Spoilt.foldl_removeClient (h : s.Spoilt) (l : List ℕ) :
    (l.foldl MdnsClients.removeClient s).Spoilt := by
  induction l generalizing s with
  | nil => exact h
  | cons rc l ih => exact ih (h.removeClient rc)

/-- **A whole pass** frees what it takes out exactly if every client is the last when its turn
comes. -/
theorem Owned.foldl_removeClient_iff (h : s.Owned) (l : List ℕ) :
    (l.foldl MdnsClients.removeClient s).Owned ↔ NewestFirst s.resolveClients l := by
  induction l generalizing s with
  | nil => exact iff_of_true h trivial
  | cons rc l ih =>
    rw [List.foldl_cons, NewestFirst]
    by_cases hlast : rc ∈ s.resolveClients → s.resolveClients.getLast? = some rc
    · rw [ih (h.removeClient hlast), resolveClients_removeClient h.nodup]
      exact (and_iff_right hlast).symm
    · obtain ⟨hrc, hnot⟩ := Classical.not_imp.mp hlast
      refine iff_of_false ?_ fun hnewest => hlast hnewest.1
      exact ((h.spoilt_removeClient hrc hnot).foldl_removeClient l).not_owned

/-- All clients are freed, once each, if none of them is in the list twice. -/
theorem foldl_deallocate (hl : l.Nodup) (hlive : ∀ ref ∈ l, s.live ref ≠ none) :
    (∀ ref, (l.foldl deallocate s).live ref ≠ none ↔ s.live ref ≠ none ∧ ref ∉ l) ∧
      (l.foldl deallocate s).freedTwice = s.freedTwice := by
  induction l generalizing s with
  | nil => simp
  | cons tgt l ih =>
    obtain ⟨htgt, hl⟩ := List.nodup_cons.mp hl
    obtain ⟨hrest, honce⟩ := ih hl (s := s.deallocate tgt) fun ref href =>
      live_deallocate_ne_none_iff.mpr
        ⟨fun heq => htgt (heq ▸ href), hlive ref (List.mem_cons_of_mem _ href)⟩
    refine ⟨fun ref => ?_, ?_⟩
    · rw [List.foldl_cons, hrest, live_deallocate_ne_none_iff, List.mem_cons, not_or]
      tauto
    · rw [List.foldl_cons, honce, freedTwice_deallocate (hlive tgt (List.mem_cons_self ..))]

/-- **After `cleanup_mdns` there is no client left**, as all that lived were in the list. -/
theorem Owned.live_cleanupMdns (h : s.Owned) (ref : ℕ) : s.cleanupMdns.live ref = none := by
  have hlive := (foldl_deallocate h.nodup fun ref => (h.live_iff ref).mpr).1 ref
  by_contra hne
  obtain ⟨hbefore, hnot⟩ := hlive.mp hne
  exact hnot ((h.live_iff ref).mp hbefore)

theorem Owned.cleanupMdns (h : s.Owned) : s.cleanupMdns.Owned where
  nodup := List.nodup_nil
  live_iff ref := iff_of_false (fun hne => hne (h.live_cleanupMdns ref)) List.not_mem_nil
  once := (foldl_deallocate h.nodup fun ref => (h.live_iff ref).mpr).2.trans h.once

/-! ### Runs -/

/-- **What an event may do**: the clients stay in order exactly if it is tidy. -/
theorem Owned.step_iff (h : s.Owned) (hs : s.step e = some s') : s'.Owned ↔ s.Tidy e := by
  cases e with
  | browse ref noFd =>
    obtain ⟨href, hs⟩ := Option.ite_none_right_eq_some.mp hs
    obtain rfl := Option.some.inj hs
    exact iff_of_true (h.make href rfl rfl rfl) trivial
  | resolve sdRef fullname ref hasFd noFd =>
    obtain ⟨⟨-, href⟩, hs⟩ := Option.ite_none_right_eq_some.mp hs
    cases hasFd with
    | true =>
      obtain rfl := Option.some.inj hs
      exact iff_of_true (h.make href rfl rfl rfl) rfl
    | false =>
      obtain rfl := Option.some.inj hs
      exact iff_of_false (h.not_of_drop href) Bool.false_ne_true
  | getaddr sdRef address more =>
    obtain ⟨-, hs⟩ := Option.ite_none_right_eq_some.mp hs
    obtain rfl := Option.some.inj hs
    obtain ⟨hlive, hclients, honce⟩ := getaddrReply_frame s sdRef address more
    exact iff_of_true (h.congr hlive hclients honce) trivial
  | handled noFd =>
    obtain rfl := Option.some.inj hs
    rw [Tidy, ← h.foldl_removeClient_iff]
    exact ⟨fun howned => howned.congr rfl rfl rfl, fun howned => howned.congr rfl rfl rfl⟩
  | cleanup =>
    obtain rfl := Option.some.inj hs
    exact iff_of_true h.cleanupMdns trivial

theorem owned_start : start.Owned where
  nodup := List.nodup_nil
  live_iff _ := by simp [start]
  once := rfl

/-- **The clients stay in order up to the first event that is not tidy**, and not beyond it:
then a client has been freed that is still polled, or there is one that nobody frees. When the
manager ends in order, there is no client left. -/
theorem owned_until_untidy (h : mdnsClientsMachine.Reaches Tidy start s) :
    s.Owned ∧ (∀ e s', s.step e = some s' → (s'.Owned ↔ s.Tidy e)) ∧
      ∀ ref, s.cleanupMdns.live ref = none := by
  have howned : s.Owned := h.invariant owned_start fun _ _ _ hs htidy hstep =>
    (hs.step_iff hstep).mpr htidy
  exact ⟨howned, fun e s' => howned.step_iff, howned.live_cleanupMdns⟩

/-- Two services that are resolved at the same time, of which neither has its addresses yet. -/
def twoServices : List Event :=
  [.browse 1 [], .resolve 1 ['a'] 2 true [], .browse 3 [], .resolve 3 ['b'] 4 true []]

/-- The second one has its addresses first, so that its client is the last one in the list when
it is removed. -/
theorem owned_until_untidy_twoServices : ∃ s : MdnsClients, s.resolveClients = [1, 2] ∧ s.Owned ∧
    (∀ e s', s.step e = some s' → (s'.Owned ↔ s.Tidy e)) ∧
      ∀ ref, s.cleanupMdns.live ref = none := by
  obtain ⟨s, hr, hp⟩ := mdnsClientsMachine.exists_reaches_of_runOk Tidy start
    (twoServices ++ [.getaddr 4 (some ['x']) false, .handled []])
    (fun s => decide (s.resolveClients = [1, 2])) (by decide)
  exact ⟨s, of_decide_eq_true hp, owned_until_untidy hr⟩

/-- **A client is freed that is still polled**, when the first one has its addresses first. -/
theorem exists_polled_freed : ∃ s : MdnsClients, mdnsClientsMachine.Reachable start s ∧
    s.resolveClients = [3, 4] ∧ s.live 4 = none ∧ s.live 1 = some .resolve := by
  obtain ⟨s, hr, hp⟩ := mdnsClientsMachine.exists_reaches_of_runOk (fun _ _ => True) start
    (twoServices ++ [.getaddr 2 (some ['x']) false, .handled []])
    (fun s => decide (s.resolveClients = [3, 4] ∧ s.live 4 = none ∧ s.live 1 = some .resolve))
    (by decide)
  exact ⟨s, hr, of_decide_eq_true hp⟩

/-! ### One service after the other -/

section OneByOne

/-- **The services are resolved one after the other**: a service is only browsed for when
there is no client, and it is resolved once. All clients have sockets. -/
def OneByOne (s : MdnsClients) : Event → Prop
  | .browse _ noFd => s.resolveClients = [] ∧ noFd = []
  | .resolve sdRef _ _ hasFd noFd => s.resolveClients = [sdRef] ∧ hasFd = true ∧ noFd = []
  | .handled noFd => noFd = []
  | _ => True

instance (s : MdnsClients) : (e : Event) → Decidable (s.OneByOne e)
  | .browse _ noFd => inferInstanceAs (Decidable (s.resolveClients = [] ∧ noFd = []))
  | .resolve sdRef _ _ hasFd noFd =>
    inferInstanceAs (Decidable (s.resolveClients = [sdRef] ∧ hasFd = true ∧ noFd = []))
  | .getaddr _ _ _ => isTrue trivial
  | .handled noFd => inferInstanceAs (Decidable (noFd = []))
  | .cleanup => isTrue trivial

/-- How far the one service is. There are never more than two clients for it, in the order in
which they have been made. -/
inductive Progress (s : MdnsClients) : Prop
  /-- There is none. -/
  | idle (hclients : s.resolveClients = []) (hremove : s.removeClients = [])
  /-- It is being resolved. -/
  | resolving (ref : ℕ) (hclients : s.resolveClients = [ref]) (hremove : s.removeClients = [])
    (hlive : s.live ref = some .resolve)
  /-- Its addresses are being asked for. -/
  | asking (ref sdRef : ℕ) (hclients : s.resolveClients = [sdRef, ref]) (hne : sdRef ≠ ref)
    (hsd : s.live sdRef = some .resolve) (hlink : s.linkedClients ref = some sdRef)
    (hremove : s.removeClients = [])
  /-- All addresses have come in. -/
  | found (ref sdRef : ℕ) (hclients : s.resolveClients = [sdRef, ref]) (hne : sdRef ≠ ref)
    (hsd : s.live sdRef = some .resolve) (rest : List ℕ)
    (hremove : s.removeClients = ref :: sdRef :: rest)

theorem newestFirst_nil (l : List ℕ) : NewestFirst [] l := by
  induction l with
  | nil => trivial
  | cons rc l ih => exact ⟨fun h => absurd h List.not_mem_nil, ih⟩

/-- **The order in which `getaddr_reply` removes the two clients** is the one in which the last
is always the next. -/
theorem newestFirst_pair (hne : sdRef ≠ ref) (l : List ℕ) :
    NewestFirst [sdRef, ref] (ref :: sdRef :: l) := by
  have herase : [sdRef, ref].erase ref = [sdRef] := by simp [hne]
  refine ⟨fun _ => rfl, ?_⟩
  rw [herase]
  refine ⟨fun _ => rfl, ?_⟩
  rw [List.erase_cons_head]
  exact newestFirst_nil l

theorem Progress.tidy (h : s.Progress) (hok : s.OneByOne e) : s.Tidy e := by
  cases e with
  | browse _ _ | getaddr _ _ _ | cleanup => trivial
  | resolve sdRef fullname ref hasFd noFd => exact hok.2.1
  | handled noFd =>
    rw [Tidy]
    cases h with
    | idle hclients hremove =>
      rw [hclients]
      exact newestFirst_nil _
    | resolving ref hclients hremove => rw [hremove]; trivial
    | asking ref sdRef hclients hne hsd hlink hremove => rw [hremove]; trivial
    | found ref sdRef hclients hne hsd rest hremove =>
      rw [hclients, hremove]
      exact newestFirst_pair hne rest

/-- `getaddr_reply` of the one client that asks for addresses, with one address more, or with
the last. -/
theorem Progress.getaddrReply (h : s.Progress) (hcalled : s.Called ref .getAddrInfo)
    (address : Option (List Char)) (more : Bool) :
    (s.getaddrReply ref address more).Progress := by
  obtain ⟨hmem, hkind⟩ := hcalled
  -- it is not the client that has resolved the service
  have hnotResolve : ∀ {sdRef : ℕ}, s.live sdRef = some .resolve → ref ≠ sdRef := by
    rintro sdRef hlive rfl
    simp [hkind] at hlive
  cases h with
  | idle hclients => simp [hclients] at hmem
  | resolving ref' hclients _ hlive =>
    rw [hclients, List.mem_singleton] at hmem
    exact absurd hmem (hnotResolve hlive)
  | asking ref' sdRef hclients hne hsd hlink hremove =>
    have href : ref = ref' := by
      rw [hclients] at hmem
      simpa [hnotResolve hsd] using hmem
    subst href
    cases more with
    | true => cases address <;> exact .asking ref sdRef hclients hne hsd hlink hremove
    | false =>
      refine .found ref sdRef hclients hne hsd [] ?_
      simp [MdnsClients.getaddrReply, hremove, hlink]
  | found ref' sdRef hclients hne hsd rest hremove =>
    cases more with
    | true => cases address <;> exact .found ref' sdRef hclients hne hsd rest hremove
    | false =>
      refine .found ref' sdRef hclients hne hsd (rest ++ [ref, (s.linkedClients ref).getD 0]) ?_
      simp [MdnsClients.getaddrReply, hremove]

theorem rebuildPollfds_nil (s : MdnsClients) : s.rebuildPollfds [] = s := by
  simp [rebuildPollfds]

/-- **When the addresses have come in, both clients are taken out**, and the next service finds
an empty list. -/
theorem Progress.resolveClients_handled (h : s.Progress) (hnodup : s.resolveClients.Nodup)
    (hremove : s.removeClients ≠ []) : (s.handled []).resolveClients = [] := by
  cases h with
  | idle _ hnil | resolving _ _ hnil | asking _ _ _ _ _ _ hnil => exact absurd hnil hremove
  | found ref sdRef hclients hne _ rest hremove =>
    rw [handled, rebuildPollfds_nil]
    calc (s.removeClients.foldl MdnsClients.removeClient s).resolveClients
        = s.resolveClients.diff s.removeClients := resolveClients_foldl_removeClient hnodup _
      _ = [sdRef, ref].diff (ref :: sdRef :: rest) := by rw [hclients, hremove]
      _ = [] := by simp [List.diff_cons, hne]

theorem Progress.handled (h : s.Progress) (hnodup : s.resolveClients.Nodup) :
    (s.handled []).Progress := by
  have hnil : (s.handled []).removeClients = [] := by
    rw [MdnsClients.handled, rebuildPollfds_nil]
  by_cases hremove : s.removeClients = []
  · have hsame : s.handled [] = s := by
      rw [MdnsClients.handled, rebuildPollfds_nil, hremove, List.foldl_nil, ← hremove]
    rwa [hsame]
  · exact .idle (h.resolveClients_handled hnodup hremove) hnil

theorem Progress.step (h : s.Progress) (howned : s.Owned) (hok : s.OneByOne e)
    (hs : s.step e = some s') : s'.Progress := by
  cases e with
  | browse ref noFd =>
    obtain ⟨href, hs⟩ := Option.ite_none_right_eq_some.mp hs
    obtain ⟨hclients, rfl⟩ := hok
    obtain rfl := Option.some.inj hs
    rw [rebuildPollfds_nil]
    cases h with
    | idle _ hremove =>
      exact .resolving ref (by simp [hclients]) hremove (by simp [make])
    | resolving _ hclients' | asking _ _ hclients' | found _ _ hclients' =>
      simp [hclients] at hclients'
  | resolve sdRef fullname ref hasFd noFd =>
    obtain ⟨⟨⟨hmem, hlive⟩, href⟩, hs⟩ := Option.ite_none_right_eq_some.mp hs
    obtain ⟨hclients, rfl, rfl⟩ := hok
    obtain rfl := Option.some.inj hs
    rw [rebuildPollfds_nil]
    have hne : sdRef ≠ ref := by
      rintro rfl
      simp [href.2] at hlive
    cases h with
    | resolving _ _ hremove =>
      refine .asking ref sdRef (by simp [hclients]) hne ?_ (Function.update_self ..) hremove
      exact (Function.update_of_ne hne ..).trans hlive
    | idle hclients' | asking _ _ hclients' | found _ _ hclients' =>
      simp [hclients] at hclients'
  | getaddr sdRef address more =>
    obtain ⟨hcalled, hs⟩ := Option.ite_none_right_eq_some.mp hs
    obtain rfl := Option.some.inj hs
    exact h.getaddrReply hcalled address more
  | handled noFd =>
    obtain rfl : noFd = [] := hok
    obtain rfl := Option.some.inj hs
    exact h.handled howned.nodup
  | cleanup =>
    obtain rfl := Option.some.inj hs
    exact .idle rfl rfl

/-- **If the services are resolved one after the other**, the clients stay in order, and the
two clients of a service are taken out once its addresses have come in. -/
theorem owned_of_oneByOne (h : mdnsClientsMachine.Reaches OneByOne start s) :
    s.Owned ∧ (s.removeClients ≠ [] → (s.handled []).resolveClients = []) := by
  have hrun := h.invariant (I := fun s => s.Owned ∧ s.Progress) ⟨owned_start, .idle rfl rfl⟩
    fun s e s' hI hok hs => ⟨(hI.1.step_iff hs).mpr (hI.2.tidy hok), hI.2.step hI.1 hok hs⟩
  exact ⟨hrun.1, hrun.2.resolveClients_handled hrun.1.nodup⟩

/-- One service, whose two addresses come in, and then another one, which begins only after
that. -/
theorem owned_of_oneByOne_twice : ∃ s : MdnsClients, s.resolveClients = [3, 4] ∧ s.Owned ∧
    (s.removeClients ≠ [] → (s.handled []).resolveClients = []) := by
  obtain ⟨s, hr, hp⟩ := mdnsClientsMachine.exists_reaches_of_runOk OneByOne start
    [.browse 1 [], .resolve 1 ['a'] 2 true [], .getaddr 2 (some ['x']) true,
      .getaddr 2 (some ['y']) false, .handled [], .browse 3 [], .resolve 3 ['b'] 4 true [],
      .getaddr 4 (some ['z']) false]
    (fun s => decide (s.resolveClients = [3, 4])) (by decide)
  exact ⟨s, of_decide_eq_true hp, owned_of_oneByOne hr⟩

end OneByOne

end MdnsClients

end Usbmuxd
