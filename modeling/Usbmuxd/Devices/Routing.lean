import Usbmuxd.Devices.Reaper
import Usbmuxd.Tcp.Handshake

/-!
# Which connection a segment reaches

`device_data_input` finds the connection of a segment by its destination port, which
the host has given out, and gives out again as soon as the connection is erased. The
device does not know when that is: when the host drops a connection, segments for it
may be on their way, and the device may go on sending until it has heard of it.

This file puts the device on the other side of the machine of
`Usbmuxd.Devices.Connections`. The device follows the protocol: it answers each SYN
once, accepting or refusing the connection, and sends segments for connections it has
accepted, in order (`Usbmuxd.Link.step`). What it has sent is in flight until a
receiver takes it; receivers go through the receive gate in order, and may overtake
each other behind it. Each segment in flight carries the number of the object it was
sent for, which nobody in the program knows.

## What goes wrong

A segment that is in flight while its port is given out again reaches the next
connection, which is waiting for the answer to its SYN: `handle_input` throws, and the
receiver kills the device (`Usbmuxd.stray_segment_kills_device`). It does not happen in
runs that are *well routed* (`Usbmuxd.Link.WellRouted`).
-/

namespace Usbmuxd

open Interleaving Conns

/-! ### The device on the other side -/

/-- The connections of a device, with the device, which answers SYNs and sends segments. -/
structure Link where
  /-- The host's side. -/
  host : Conns
  /-- What the device has sent and no receiver has dispatched, with the number of the
  object each segment was sent for. -/
  inFlight : List (ℕ × Segment)
  /-- The device has answered the SYN of the object. -/
  answered : ℕ → Bool
  /-- It has accepted the connection. -/
  accepted : ℕ → Bool
  /-- The position in the stream at which it goes on. -/
  devSeq : ℕ → BitVec 32
  /-- The objects for which segments were sent, and those they were handed to. -/
  handed : List (ℕ × ℕ)

namespace Link

/-- Nothing has happened, on either side. -/
def init : Link := ⟨Conns.init, [], fun _ => false, fun _ => false, fun _ => 0, []⟩

/-- The SYN of a connection has been sent, and so the device may know of it. -/
def synSent (c : Tcp) : Bool := c.core.wire.any fun w => w.hdr.thFlags = thSyn

/-- The steps of the host and of the device. Segments are in flight until a receiver takes one
of them. -/
inductive Label
  /-- A step of the host, other than the dispatch of a segment. -/
  | host (l : Conns.Label)
  /-- The device answers the SYN of object `o`. -/
  | answer (o : ℕ) (s : Segment)
  /-- The device sends a segment for object `o`, or resets the connection. -/
  | send (o : ℕ) (s : Segment)
  /-- A receiver dispatches the `k`-th of the segments in flight. -/
  | receive (k : ℕ)

variable (n : Link)

/-- The device sends `s` for object `o`, and will go on at `seq`. -/
def emit (o : ℕ) (s : Segment) (seq : BitVec 32) : Link :=
  { n with inFlight := n.inFlight ++ [(o, s)], devSeq := Function.update n.devSeq o seq }

/-- One step. A segment is dispatched only by being received. -/
def step : Label → Option Link
  | .host (.dispatch _) => none
  | .host l => (n.host.step l).map fun d => { n with host := d }
  | .answer o s =>
      if o < n.host.made ∧ synSent (n.host.obj o) ∧ n.answered o = false ∧
          s.hdr.thDport = (n.host.obj o).core.sPort ∧ s.IsAnswer then
        some { n.emit o s (s.hdr.thSeq + 1) with
          answered := Function.update n.answered o true
          accepted := Function.update n.accepted o (s.hdr.thFlags = thSyn ||| thAck) }
      else none
  | .send o s =>
      if n.accepted o = true ∧ s.hdr.thDport = (n.host.obj o).core.sPort ∧
          (s.hdr.thFlags = thAck ∨ s.hdr.thFlags = thRst) ∧ s.hdr.thSeq = n.devSeq o then
        some (n.emit o s (s.hdr.thSeq + s.payloadLen))
      else none
  | .receive k =>
      match n.inFlight[k]? with
      | some (o, s) =>
          (n.host.step (.dispatch s)).map fun d =>
            { n with
              host := d
              inFlight := n.inFlight.eraseIdx k
              handed := n.handed ++ (n.host.conns.lookup s.hdr.thDport).toList.map (o, ·) }
      | none => none

/-- **Every segment has reached the connection it belongs to**, and none has made
`handle_input` throw. -/
def NoStray (n : Link) : Prop :=
  (∀ p ∈ n.handed, p.1 = p.2) ∧ (∀ o i, (n.host.obj o).handler i ≠ .threw) ∧
    n.host.killPosted = false

/-- **A run is well routed**: a port is given out only when no segment for it is in
flight; the device sends for a connection only while its port has not passed on to
another; and the answer to a SYN is not overtaken behind the receive gate. -/
def WellRouted (n : Link) : Label → Prop
  | .host (.makeConn _ _) =>
      ∀ port, Search.FirstFrom (· + 1) (Free n.host.used) n.host.nextPort port →
        ∀ p ∈ n.inFlight, p.2.hdr.thDport ≠ port
  | .host (.tcp o l) => (n.host.obj o).InTurn l
  | .host _ => True
  | .answer o _ | .send o _ => ∀ o', n.host.Registered (n.host.obj o).core.sPort o' → o' = o
  | .receive k => ∀ p, n.inFlight[k]? = some p → (n.host.obj p.1).segs = [] →
      ∀ q ∈ n.inFlight.take k, q.1 ≠ p.1

/-- Those of the segments in flight that were sent for object `o`, in their order. -/
def sentFor (inFlight : List (ℕ × Segment)) (o : ℕ) : List Segment :=
  (inFlight.filter (·.1 = o)).map Prod.snd

end Link

/-- A device and its connections as a machine, with the segments between them. -/
def linkMachine : Machine Link Link.Label := ⟨Link.step⟩

/-! ### What a step of the host does to the calls -/

/-- Only a call of `handle_input` adds to the segments of a connection, and none takes one
away. -/
theorem Tcp.step_segs {c c' : Tcp} {l : Tcp.Label} (h : c.step l = some c')
    (hl : ∀ s, l ≠ .input (.call s)) : c'.segs = c.segs := by
  cases l with
  | input l =>
    cases l with
    | call s => exact absurd rfl (hl s)
    | lockStx i members =>
      -- both halves of `handle_input` work on what `call` has put there
      have hgate : ∀ s, (c.ackGate i s members).segs = c.segs := by
        intro s
        rcases ackGate_cases c i s members with ⟨-, heq⟩ | ⟨-, heq⟩ <;> rw [heq] <;> rfl
      obtain ⟨s, -, ⟨-, rfl⟩ | ⟨-, rfl⟩⟩ := inputStep_lockStx h
      · rcases firstHalf_cases c i s members with ⟨-, -, heq⟩ | ⟨core, pc, heq, -⟩
        · rw [heq, hgate]
        · rw [heq]
          rfl
      · exact hgate s
    | ackWake i => obtain ⟨w, -, -, ⟨-, rfl⟩ | ⟨-, rfl⟩⟩ := inputStep_ackWake h <;> rfl
    | lockClientSend i =>
      obtain ⟨s, -, -, -, rfl⟩ := inputStep_lockClientSend h
      rcases forwardGate_cases c i s with ⟨-, heq⟩ | ⟨-, heq⟩ <;> rw [heq] <;> rfl
    | fwdWake i => obtain ⟨w, -, -, ⟨-, rfl⟩ | ⟨-, rfl⟩⟩ := inputStep_fwdWake h <;> rfl
    | fwdTest i => obtain ⟨-, ⟨-, rfl⟩ | ⟨-, rfl⟩⟩ := inputStep_fwdTest h <;> rfl
    | send i r =>
      obtain ⟨s, -, -, rfl⟩ := inputStep_send h
      rfl
  | loop l =>
    obtain ⟨core, loop, buf, rcv, rfl, -⟩ := loopStep_eq h
    rfl
  | connect ok =>
    obtain ⟨core, pc, loop, fd, cfd, wl, out, rfl, -⟩ := connectStep_eq h
    rfl
  | deconstruct => rcases deconstructStep_eq h with ⟨-, rfl⟩ | ⟨-, -, rfl⟩ <;> rfl
  | notify l =>
    obtain ⟨wl, out, rfl⟩ := notifyStep_eq h
    rfl

namespace Conns

variable {d d' : Conns} {l : Label}

/-- **What the host makes of an object** when no segment is dispatched: a thread of
the object or the reaper makes a step on it, or it is new. -/
theorem step_obj_host (h : d.step l = some d') (hl : ∀ s, l ≠ .dispatch s) (o : ℕ) :
    d'.obj o = d.obj o ∨
    (∃ l', (d.obj o).step l' = some (d'.obj o) ∧
      (l = .tcp o l' ∧ ofThread l' = true ∨ l' = .deconstruct)) ∨
    o = d.made ∧ ∃ port dport seq, d'.obj o = Tcp.new port dport seq := by
  rcases step_obj h o with heq | ⟨l', hs, hthread, -, hother⟩ | ⟨heq, -, hnew⟩
  · exact Or.inl heq
  · refine Or.inr (Or.inl ⟨l', hs, ?_⟩)
    cases hof : ofThread l' with
    | true => exact Or.inl ⟨hthread hof, rfl⟩
    | false =>
      rcases hother hof with hdeconstruct | ⟨s, hdispatch⟩
      · exact Or.inr hdeconstruct
      · exact absurd hdispatch (hl s)
  · exact Or.inr (Or.inr ⟨heq, hnew⟩)

/-- Only `device_data_input` hands segments to a connection, and none changes its port. -/
theorem step_host_segs (h : d.step l = some d') (hl : ∀ s, l ≠ .dispatch s) {o : ℕ}
    (ho : o < d.made) :
    (d'.obj o).segs = (d.obj o).segs ∧ (d'.obj o).core.sPort = (d.obj o).core.sPort := by
  rcases step_obj_host h hl o with heq | ⟨l', hs, hl'⟩ | ⟨heq, -⟩
  · rw [heq]
    exact ⟨rfl, rfl⟩
  · refine ⟨Tcp.step_segs hs ?_, Tcp.step_sPort hs⟩
    intro s hcall
    rcases hl' with ⟨-, hthread⟩ | hdec
    · rw [hcall] at hthread
      cases hthread
    · rw [hcall] at hdec
      cases hdec
  · exact absurd heq (Nat.ne_of_lt ho)

end Conns

/-! ### The invariant -/

namespace Link

variable {n n' : Link} {l : Label} {o : ℕ} {s : Segment} {port : BitVec 16}

/-- The first of the segments handed to a connection or in flight for it answers its
SYN. -/
def Heads (c : Tcp) (inFlight : List (ℕ × Segment)) (o : ℕ) : Prop :=
  ∃ s, (c.segs ++ sentFor inFlight o).head? = some s ∧ s.IsAnswer

/-- **Every segment is on its way to the connection it was sent for.** -/
structure Routed (n : Link) : Prop where
  coherent : n.host.Coherent
  handshaken : ∀ o, (n.host.obj o).Handshaken
  answered : ∀ o, n.answered o = true → o < n.host.made
  unanswered : ∀ o, n.answered o = false → n.accepted o = false ∧ sentFor n.inFlight o = []
  /-- A segment in flight is for a port that has been given to its object, -/
  addressed : ∀ p ∈ n.inFlight, p.1 < n.host.made ∧
    p.2.hdr.thDport = (n.host.obj p.1).core.sPort
  /-- and to no other that is still registered. -/
  owner : ∀ p ∈ n.inFlight, ∀ o, n.host.Registered p.2.hdr.thDport o → o = p.1
  heads : ∀ port o, n.host.Registered port o → n.answered o = true →
    Heads (n.host.obj o) n.inFlight o
  handed : ∀ p ∈ n.handed, p.1 = p.2
  calm : n.host.killPosted = false

theorem sentFor_append (xs ys : List (ℕ × Segment)) (o : ℕ) :
    sentFor (xs ++ ys) o = sentFor xs o ++ sentFor ys o := by
  simp [sentFor]

theorem sentFor_cons (p : ℕ × Segment) (xs : List (ℕ × Segment)) (o : ℕ) :
    sentFor (p :: xs) o = (if p.1 = o then [p.2] else []) ++ sentFor xs o := by
  by_cases heq : p.1 = o <;> simp [sentFor, heq]

/-- A segment more at the end does not change what comes first for any connection. -/
theorem Heads.append {c : Tcp} {xs : List (ℕ × Segment)} (h : Heads c xs o)
    (ys : List (ℕ × Segment)) : Heads c (xs ++ ys) o := by
  obtain ⟨s, hs, hanswer⟩ := h
  refine ⟨s, ?_, hanswer⟩
  rw [sentFor_append, ← List.append_assoc, List.head?_append, hs]
  rfl

namespace Routed

theorem init : init.Routed where
  coherent := .init
  handshaken := fun _ => .new ..
  answered := nofun
  unanswered := fun _ _ => ⟨rfl, rfl⟩
  addressed := nofun
  owner := nofun
  heads := fun _ _ _ h => nomatch h
  handed := nofun
  calm := rfl

theorem noStray (hn : n.Routed) : n.NoStray :=
  ⟨hn.handed, fun o => (hn.handshaken o).calm, hn.calm⟩

/-! #### The host -/

/-- What the objects become in a step of the host: one makes a step, or is new, and the others
stay. -/
theorem handshaken_host (hn : n.Routed) {l : Conns.Label} {d : Conns} (hl : ∀ s, l ≠ .dispatch s)
    (hok : n.WellRouted (.host l)) (h : n.host.step l = some d) (o : ℕ) : (d.obj o).Handshaken := by
  rcases step_obj_host h hl o with
    heq | ⟨l', hs, ⟨rfl, hthread⟩ | rfl⟩ | ⟨-, port, dport, seq, hnew⟩
  · rw [heq]
    exact hn.handshaken o
  · refine (hn.handshaken o).step hok ?_ hs
    intro s hcall
    rw [hcall] at hthread
    cases hthread
  · exact (hn.handshaken o).step (l := .deconstruct) trivial (fun s hcall => nomatch hcall) hs
  · rw [hnew]
    exact .new ..

/-- No receiver throws, so none kills the device. An exception in one connection would be the
end of all. -/
theorem calm_host (hn : n.Routed) {l : Conns.Label} {d : Conns} (hok : n.WellRouted (.host l))
    (hl : ∀ s, l ≠ .dispatch s) (h : n.host.step l = some d) : d.killPosted = false := by
  have hcalm := hn.calm
  have hobj := hn.handshaken_host hl hok h
  cases l with
  | startConnect =>
    simp only [Conns.step] at h
    split_ifs at h <;> cases h <;> exact hcalm
  | makeConn dport seq =>
    simp only [Conns.step, Option.ite_none_right_eq_some] at h
    obtain ⟨-, h⟩ := h
    cases h
    rcases makeConn_cases (d := n.host) dport seq with ⟨port, -, heq⟩ | ⟨port, heq⟩ <;> rw [heq] <;>
      exact hcalm
  | tcp o l =>
    obtain ⟨-, -, c', -, rfl⟩ := step_tcp h
    -- a throw would be seen in the object, which takes its segments in turn
    have hc := hobj o
    simp only [observe, setObj_self] at hc
    simp only [observe, hcalm, Bool.false_or]
    split
    · exact decide_eq_false (hc.calm _)
    · rfl
  | dispatch s => exact absurd rfl (hl s)
  | reap =>
    rcases reap_cases h with ⟨port, rest, -, -, rfl⟩ | ⟨port, o', -, -, rfl⟩ | ⟨port, -, -, rfl⟩ |
      ⟨port, o', -, -, rfl⟩ | ⟨port, o', c', -, hc, rfl⟩ <;> exact hcalm
  | deconstruct =>
    simp only [Conns.step, Option.ite_none_right_eq_some] at h
    obtain ⟨-, h⟩ := h
    cases h
    exact hcalm

/-- A step of the host, by any of its threads. -/
theorem host (hn : n.Routed) {l : Conns.Label} {d : Conns} (hl : ∀ s, l ≠ .dispatch s)
    (hok : n.WellRouted (.host l)) (h : n.host.step l = some d) :
    { n with host := d }.Routed := by
  have hbooks := step_books h
  have hsame : ∀ {o}, o < n.host.made → (d.obj o).segs = (n.host.obj o).segs ∧
      (d.obj o).core.sPort = (n.host.obj o).core.sPort := step_host_segs h hl
  refine ⟨hn.coherent.step h, hn.handshaken_host hl hok h,
    fun o ho => Nat.lt_of_lt_of_le (hn.answered o ho) hbooks.made, hn.unanswered, ?_,
    ?_, ?_, hn.handed, hn.calm_host hok hl h⟩
  · intro p hp
    obtain ⟨hmade, hport⟩ := hn.addressed p hp
    exact ⟨Nat.lt_of_lt_of_le hmade hbooks.made, by rw [(hsame hmade).2]; exact hport⟩
  · intro p hp o hreg
    rcases hbooks.registered _ o hreg with hreg | ⟨-, -, hfirst, dport, seq, rfl, -⟩
    · exact hn.owner p hp o hreg
    · -- the port has just been taken, with no segment for it in flight
      exact absurd rfl (hok _ hfirst p hp)
  · intro port o hreg ho
    have hmade := hn.answered o ho
    rcases hbooks.registered port o hreg with hreg | ⟨heq, -⟩
    · obtain ⟨s, hs, hanswer⟩ := hn.heads port o hreg ho
      refine ⟨s, ?_, hanswer⟩
      rw [(hsame hmade).1]
      exact hs
    · exact absurd heq (Nat.ne_of_lt hmade)

/-! #### The device -/

/-- The device sends something for an object whose port has not passed on. -/
theorem emit (hn : n.Routed) (seq : BitVec 32) (ho : o < n.host.made)
    (hport : s.hdr.thDport = (n.host.obj o).core.sPort)
    (hown : ∀ o', n.host.Registered (n.host.obj o).core.sPort o' → o' = o)
    {answered accepted : ℕ → Bool} (hold : ∀ o', answered o' = true → n.answered o' = true ∨ o' = o)
    (hnew : ∀ o', answered o' = false → n.answered o' = false ∧ o' ≠ o)
    (haccepted : ∀ o', answered o' = false → accepted o' = false)
    (hfirst : n.answered o = false → s.IsAnswer) :
    { n.emit o s seq with answered := answered, accepted := accepted }.Routed where
  coherent := hn.coherent
  handshaken := hn.handshaken
  answered := fun o' ho' => (hold o' ho').elim (hn.answered o') (fun heq => heq ▸ ho)
  unanswered := by
    intro o' ho'
    obtain ⟨hun, hne⟩ := hnew o' ho'
    refine ⟨haccepted o' ho', (sentFor_append n.inFlight [(o, s)] o').trans ?_⟩
    rw [(hn.unanswered o' hun).2, sentFor_cons, if_neg (Ne.symm hne)]
    rfl
  addressed := by
    intro p hp
    rcases List.mem_append.mp hp with hp | hp
    · exact hn.addressed p hp
    · obtain rfl := List.mem_singleton.mp hp
      exact ⟨ho, hport⟩
  owner := by
    intro p hp o' hreg
    rcases List.mem_append.mp hp with hp | hp
    · exact hn.owner p hp o' hreg
    · obtain rfl := List.mem_singleton.mp hp
      exact hown o' (hport ▸ hreg)
  heads := by
    intro port o' hreg ho'
    cases hdone : n.answered o' with
    | true => exact (hn.heads port o' hreg hdone).append [(o, s)]
    | false =>
      obtain rfl : o' = o := (hold o' ho').resolve_left (by simp [hdone])
      -- nothing else has been sent for the object
      have hsent : sentFor (n.inFlight ++ [(o', s)]) o' = [s] := by
        rw [sentFor_append, (hn.unanswered o' hdone).2, sentFor_cons, if_pos rfl]
        rfl
      show Heads (n.host.obj o') (n.inFlight ++ [(o', s)]) o'
      rw [Heads, hsent]
      cases hsegs : (n.host.obj o').segs with
      | nil => exact ⟨s, rfl, hfirst hdone⟩
      | cons t rest => exact ⟨t, rfl, (hn.handshaken o').answer t (by rw [hsegs]; rfl)⟩
  handed := hn.handed
  calm := hn.calm

/-- The device answers a SYN, and this is the first segment for that connection. -/
theorem answer (hn : n.Routed) (hok : n.WellRouted (.answer o s))
    (h : n.step (.answer o s) = some n') : n'.Routed := by
  simp only [Link.step, Option.ite_none_right_eq_some] at h
  obtain ⟨⟨ho, -, hun, hport, hanswer⟩, h⟩ := h
  obtain rfl := Option.some.inj h
  -- the object is answered from now on, and accepted by a SYN|ACK only
  refine hn.emit _ ho hport hok ?_ ?_ ?_ fun _ => hanswer
  · intro o' ho'
    rw [Function.update_apply] at ho'
    split at ho'
    · next heq => exact .inr heq
    · exact .inl ho'
  · intro o' ho'
    rw [Function.update_apply] at ho'
    split at ho'
    · cases ho'
    · next hne => exact ⟨ho', hne⟩
  · intro o' ho'
    rw [Function.update_apply] at ho' ⊢
    split at ho'
    · cases ho'
    · next hne =>
      rw [if_neg hne]
      exact (hn.unanswered o' ho').1

/-- The device sends a segment on a connection that it has answered. -/
theorem send (hn : n.Routed) (hok : n.WellRouted (.send o s)) (h : n.step (.send o s) = some n') :
    n'.Routed := by
  simp only [Link.step, Option.ite_none_right_eq_some] at h
  obtain ⟨⟨hacc, hport, -⟩, h⟩ := h
  obtain rfl := Option.some.inj h
  have hdone : n.answered o = true := by
    cases hun : n.answered o with
    | true => rfl
    | false => rw [(hn.unanswered o hun).1] at hacc; cases hacc
  refine hn.emit _ (hn.answered o hdone) hport hok (fun o' ho' => .inl ho') ?_
    (fun o' ho' => (hn.unanswered o' ho').1) ?_
  · intro o' ho'
    refine ⟨ho', ?_⟩
    rintro rfl
    rw [hdone] at ho'
    cases ho'
  · intro hun
    rw [hdone] at hun
    cases hun

/-! #### The receivers -/

/-- A segment leaves the segments in flight, from between those that come before it and behind
it. -/
theorem sentFor_split {k : ℕ} {x : ℕ} (hk : n.inFlight[k]? = some (x, s)) (o : ℕ) :
    sentFor n.inFlight o =
        sentFor (n.inFlight.take k) o ++
          ((if x = o then [s] else []) ++ sentFor (n.inFlight.drop (k + 1)) o) ∧
      sentFor (n.inFlight.eraseIdx k) o =
        sentFor (n.inFlight.take k) o ++ sentFor (n.inFlight.drop (k + 1)) o := by
  obtain ⟨hlt, hget⟩ := List.getElem?_eq_some_iff.mp hk
  constructor
  · rw [← sentFor_cons (x, s), ← hget, ← List.drop_eq_getElem_cons hlt, ← sentFor_append,
      List.take_append_drop]
  · rw [List.eraseIdx_eq_take_drop_succ, sentFor_append]

/-- For another connection nothing has left, so that its order is the same. -/
theorem sentFor_eraseIdx_of_ne {k x o : ℕ} (hk : n.inFlight[k]? = some (x, s)) (hne : x ≠ o) :
    sentFor (n.inFlight.eraseIdx k) o = sentFor n.inFlight o := by
  obtain ⟨hold, hnew⟩ := sentFor_split hk o
  rw [hnew, hold, if_neg hne, List.nil_append]

/-- A connection with a segment in flight has been answered, as the answer is the first that is
sent. -/
theorem answered_of_inFlight (hn : n.Routed) {k x : ℕ} (hk : n.inFlight[k]? = some (x, s)) :
    n.answered x = true := by
  cases hun : n.answered x with
  | true => rfl
  | false =>
    have hsent := (hn.unanswered x hun).2
    rw [(sentFor_split hk x).1, if_pos rfl] at hsent
    simp at hsent

/-- The first to be handed over is the first that was sent. Later segments may come in any
order. -/
theorem sentFor_take_of_first {k x : ℕ} (hok : n.WellRouted (.receive k))
    (hk : n.inFlight[k]? = some (x, s)) (hsegs : (n.host.obj x).segs = []) :
    sentFor (n.inFlight.take k) x = [] := by
  have hnone := hok _ hk hsegs
  rw [sentFor, List.filter_eq_nil_iff.mpr]
  · rfl
  · intro q hq
    simpa using hnone q hq

/-- It answers the SYN, and the handshake goes on with it. -/
theorem isAnswer_of_first (hn : n.Routed) {k x : ℕ} {port : BitVec 16}
    (hok : n.WellRouted (.receive k)) (hk : n.inFlight[k]? = some (x, s))
    (hreg : n.host.Registered port x) (hsegs : (n.host.obj x).segs = []) : s.IsAnswer := by
  obtain ⟨t, ht, hanswer⟩ := hn.heads port x hreg (hn.answered_of_inFlight hk)
  rw [hsegs, (sentFor_split hk x).1, if_pos rfl, sentFor_take_of_first hok hk hsegs] at ht
  obtain rfl : s = t := by simpa using ht
  exact hanswer

/-- What the invariant says of the connections, once a segment has left those in flight. -/
theorem of_receive (hn : n.Routed) {k x : ℕ} (hk : n.inFlight[k]? = some (x, s)) {d : Conns}
    (hd : n.host.step (.dispatch s) = some d) (hconns : d.conns = n.host.conns)
    (hmade : d.made = n.host.made) (hcalm : d.killPosted = n.host.killPosted)
    (hport : ∀ o, (d.obj o).core.sPort = (n.host.obj o).core.sPort)
    (hobj : ∀ o, (d.obj o).Handshaken)
    (hheads : ∀ port o, n.host.Registered port o → n.answered o = true →
      Heads (d.obj o) (n.inFlight.eraseIdx k) o)
    {handed : List (ℕ × ℕ)} (hhanded : ∀ p ∈ handed, p.1 = p.2) :
    { n with host := d, inFlight := n.inFlight.eraseIdx k, handed := handed }.Routed where
  coherent := hn.coherent.step hd
  handshaken := hobj
  answered := fun o ho => hmade ▸ hn.answered o ho
  unanswered := by
    intro o ho
    obtain ⟨hacc, hsent⟩ := hn.unanswered o ho
    obtain ⟨hold, hnew⟩ := sentFor_split hk o
    refine ⟨hacc, hnew.trans ?_⟩
    -- nothing of this connection was in flight
    rw [hold] at hsent
    simp only [List.append_eq_nil_iff] at hsent ⊢
    exact ⟨hsent.1, hsent.2.2⟩
  addressed := by
    intro p hp
    rw [hmade, hport]
    exact hn.addressed p (List.mem_of_mem_eraseIdx hp)
  owner := by
    intro p hp o hreg
    rw [Registered, hconns] at hreg
    exact hn.owner p (List.mem_of_mem_eraseIdx hp) o hreg
  heads := by
    intro port o hreg ho
    rw [Registered, hconns] at hreg
    exact hheads port o hreg ho
  handed := hhanded
  calm := hcalm.trans hn.calm

/-- **A segment that is dispatched reaches its own connection**, or none if that has been
closed. -/
theorem receive (hn : n.Routed) {k : ℕ} (hok : n.WellRouted (.receive k))
    (h : n.step (.receive k) = some n') : n'.Routed := by
  simp only [Link.step] at h
  split at h
  · next x s hk =>
    obtain ⟨d, hd, rfl⟩ := Option.map_eq_some_iff.mp h
    have hmem : (x, s) ∈ n.inFlight := List.mem_of_getElem? hk
    obtain ⟨-, hport⟩ := hn.addressed _ hmem
    have hd' := hd
    simp only [Conns.step, Option.ite_none_right_eq_some] at hd'
    obtain ⟨-, hd'⟩ := hd'
    split at hd'
    · next o ho =>
      obtain rfl : o = x := hn.owner _ hmem o ho
      obtain rfl := Option.some.inj hd'
      have hanswer := hn.isAnswer_of_first hok hk ho
      refine hn.of_receive hk hd rfl rfl rfl ?_ ?_ ?_ ?_
      · intro o'
        by_cases heq : o' = o
        · rw [heq, setObj_self]
          rfl
        · rw [setObj_of_ne _ _ heq]
      · intro o'
        by_cases heq : o' = o
        · rw [heq, setObj_self]
          exact (hn.handshaken o).enter hanswer
        · rw [setObj_of_ne _ _ heq]
          exact hn.handshaken o'
      · intro port o' hreg ho'
        by_cases heq : o' = o
        · subst heq
          rw [setObj_self, Heads, Tcp.enter_segs, (sentFor_split hk o').2]
          cases hsegs : (n.host.obj o').segs with
          | nil =>
            refine ⟨s, ?_, hanswer hsegs⟩
            rw [sentFor_take_of_first hok hk hsegs]
            rfl
          | cons t rest => exact ⟨t, rfl, (hn.handshaken o').answer t (by rw [hsegs]; rfl)⟩
        · rw [setObj_of_ne _ _ heq, Heads, sentFor_eraseIdx_of_ne hk (Ne.symm heq)]
          exact hn.heads port o' hreg ho'
      · intro p hp
        rcases List.mem_append.mp hp with hp | hp
        · exact hn.handed p hp
        · rw [ho] at hp
          obtain rfl : p = (o, o) := by simpa using hp
          rfl
    · next hnone =>
      obtain rfl := Option.some.inj hd'
      refine hn.of_receive hk hd rfl rfl rfl (fun _ => rfl) hn.handshaken ?_ ?_
      · intro port o hreg ho
        have hne : x ≠ o := by
          rintro rfl
          rw [hport, hn.coherent.port port x hreg, show n.host.conns.lookup port = some x from hreg]
            at hnone
          cases hnone
        rw [Heads, sentFor_eraseIdx_of_ne hk hne]
        exact hn.heads port o hreg ho
      · intro p hp
        rw [hnone] at hp
        exact hn.handed p (by simpa using hp)
  · cases h

/-- **Every step of a well routed run leads every segment to its own connection.** -/
theorem step {l : Label} (hn : n.Routed) (hok : n.WellRouted l) (h : n.step l = some n') :
    n'.Routed := by
  cases l with
  | host l =>
    cases l with
    | dispatch s => cases h
    | _ =>
      obtain ⟨d, hd, rfl⟩ := Option.map_eq_some_iff.mp h
      exact hn.host (fun _ heq => by cases heq) hok hd
  | answer o s => exact hn.answer hok h
  | send o s => exact hn.send hok h
  | receive k => exact hn.receive hok h

end Routed

end Link

/-! ### Segments reach their own connection -/

/-- Connections are made while nothing is in flight, and segments arrive in order for
connections that are registered. -/
def Link.Quiet (n : Link) : Link.Label → Prop
  | .host (.makeConn _ _) => n.inFlight = []
  | .host (.tcp o l) => (n.host.obj o).InTurn l
  | .host _ => True
  | .answer o _ | .send o _ => n.host.conns.lookup (n.host.obj o).core.sPort = some o
  | .receive k => k = 0

instance (xs : List (ℕ × Segment)) : Decidable (xs = []) :=
  decidable_of_iff (xs.isEmpty = true) List.isEmpty_iff

instance (n : Link) (l : Link.Label) : Decidable (n.Quiet l) := by
  unfold Link.Quiet
  split <;> infer_instance

theorem Link.Quiet.wellRouted {n : Link} {l : Link.Label} (h : n.Quiet l) : n.WellRouted l := by
  cases l with
  | host l =>
    cases l with
    | makeConn dport seq =>
      intro port _ p hp
      rw [show n.inFlight = [] from h] at hp
      cases hp
    | tcp o l => exact h
    | _ => trivial
  | answer o s => exact fun o' ho' => Option.some.inj (ho'.symm.trans h)
  | send o s => exact fun o' ho' => Option.some.inj (ho'.symm.trans h)
  | receive k =>
    obtain rfl : k = 0 := h
    exact fun _ _ _ q hq => absurd hq List.not_mem_nil

/-- The first segment after the handshake with a device that answers with sequence
number 0, without payload. -/
def Link.firstSegment : Segment :=
  { controlSegment thAck with hdr := { (controlSegment thAck).hdr with thSeq := 1 } }

/-- The device accepts the first connection of a client, and its answer is received. -/
def Link.accepted₀ : List Link.Label :=
  [.host .startConnect, .host (.makeConn 62078 7), .host (.tcp 0 (.connect true)),
    .host (.tcp 0 (.connect true)), .answer 0 (controlSegment (thSyn ||| thAck)), .receive 0,
    .host (.tcp 0 (.input (.lockStx 0 false)))]

end Usbmuxd
