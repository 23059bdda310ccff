import Mathlib.Logic.Function.Basic
import Usbmuxd.Clients.Framing
import Usbmuxd.Library.Interleaving
import Usbmuxd.Protocol

/-!
# What is written to a client

A client is sent packets by its own thread, which answers its requests, and by every
thread that has something to tell all clients. All of them end up in
`Client::writeData`, which takes `_wlock`, and sends the header and then the payload. A
`send` may write less than it is asked to, or fail; then `writeData` throws, and the lock
is given back by the way.

## What goes wrong

A packet of which a part has been written is not finished by anyone. The answer to a
request is not tried again, since the exception ends the client's thread; but
`notify_device_add`, `notify_device_remove`, `notify_device_paired` and
`notify_alldevices` swallow it, and the next notification is sent to the same client. If
that is written, the client reads it as the rest of the packet that was cut off.

So the output stays framed as long as nothing is written after a packet that was left
unfinished (`Usbmuxd.Output.framed_of_reaches`).
-/

namespace Usbmuxd

open Interleaving Client

namespace Output

/-! ### Packets -/

/-- The arguments of `Client::send_pkt`, with the `_proto_version` of the client, which
`send_pkt` adds to them. -/
structure Packet where
  /-- `_proto_version`. -/
  version : ℕ
  /-- `msg`. -/
  message : ℕ
  /-- `tag`. -/
  tag : ℕ
  /-- The `payload_length` bytes of the payload. -/
  payload : List UInt8
  /-- `payload_length` is an `int`. -/
  length_lt : payload.length < 2 ^ 31

/-- The header that `send_pkt` makes. Its length is that of the header and the payload together,
by which the client finds the end of the packet. -/
def Packet.header (pkt : Packet) : List UInt8 :=
  Endian.toLe 4 (sizeofHeader + pkt.payload.length) ++ Endian.toLe 4 pkt.version ++
    Endian.toLe 4 pkt.message ++ Endian.toLe 4 pkt.tag

/-- A complete packet, as it is when both calls of `send` have written all they were given. -/
def Packet.bytes (pkt : Packet) : List UInt8 := pkt.header ++ pkt.payload

/-- Packets, one after the other, with nothing in between. -/
def stream (pkts : List Packet) : List UInt8 := (pkts.map Packet.bytes).flatten

/-- **The output is framed**: complete packets, and at most the beginning of one more, since a
client cannot expect a packet to be complete before it has been written. -/
def Framed (out : List UInt8) : Prop :=
  ∃ pkts tail, out = stream pkts ++ tail ∧ (tail = [] ∨ ∃ pkt : Packet, tail <+: pkt.bytes)

/-! ### The threads -/

/-- Where a thread is in `writeData`. There are two places with the lock, one before each call
of `send`. -/
inductive Call
  /-- Not in it. -/
  | idle
  /-- Before `_wlock` is taken. -/
  | waiting (pkt : Packet)
  /-- Before the first `send`. -/
  | sendHeader (pkt : Packet)
  /-- Before the second `send`. -/
  | sendPayload (pkt : Packet)

/-- The thread has `_wlock`, which is given back when `writeData` is left, in whatever way. -/
def Call.holds : Call → Bool
  | idle => false
  | waiting _ => false
  | sendHeader _ => true
  | sendPayload _ => true

/-- The part of its packet that a thread has written. It is the whole header or nothing, as a
thread that has written less is not in `writeData` any more. -/
def Call.written : Call → List UInt8
  | idle => []
  | waiting _ => []
  | sendHeader _ => []
  | sendPayload pkt => pkt.header

/-- A client, and the threads that send it packets. Whether the client still listens makes no
difference: a thread has taken its pointer before. -/
structure State (T : Type) where
  /-- What has been written to `_fd`. -/
  out : List UInt8
  /-- Whether a packet has been left unfinished. -/
  cut : Bool
  /-- Which thread has `_wlock`. -/
  wlock : Option T
  /-- Where the threads are. -/
  thread : T → Call

/-- A step of a thread. The number of bytes that `send` writes is part of the label, as the
kernel decides on it. -/
inductive Label (T : Type)
  /-- `send_pkt` is called. -/
  | call (t : T) (pkt : Packet)
  /-- `_wlock` is taken. -/
  | lock (t : T)
  /-- A `send` returns the number of bytes it has written, or fails. -/
  | send (t : T) (sent : Option ℕ)

section Code

variable {T : Type} [DecidableEq T] (s : State T)

/-- Nothing has been written, and no thread is in `writeData`. -/
def init : State T := ⟨[], false, none, fun _ => .idle⟩

/-- A thread goes on to another place in `writeData`. -/
def go (t : T) (call : Call) : State T := { s with thread := Function.update s.thread t call }

/-- `writeData` returns or throws. Either way the lock is given back, and what has been written
stays. -/
def leave (t : T) : State T := { go s t .idle with wlock := none }

/-- `assure(send(_fd, hdr, sizeof(usbmuxd_header), 0) == sizeof(usbmuxd_header))`. If some bytes
have been written, but not all, a packet has been left unfinished. -/
def headerStep (t : T) (pkt : Packet) (n : ℕ) : State T :=
  if n = sizeofHeader then { go s t (.sendPayload pkt) with out := s.out ++ pkt.header }
  else { leave s t with out := s.out ++ pkt.header.take n, cut := s.cut || decide (0 < n) }

/-- `assure(send(_fd, buf, buflen, 0) == buflen)`. Here the header is out already, so that the
packet is unfinished as soon as one byte of the payload is missing. -/
def payloadStep (t : T) (pkt : Packet) (n : ℕ) : State T :=
  { leave s t with
    out := s.out ++ pkt.payload.take n
    cut := s.cut || decide (n < pkt.payload.length) }

/-- One step of `Client::writeData`, by one of the threads. Taking the lock is the only step
that may have to wait. -/
def step : Label T → Option (State T)
  | .call t pkt =>
    match s.thread t with
    | .idle => some (go s t (.waiting pkt))
    | _ => none
  | .lock t =>
    match s.thread t with
    | .waiting pkt => if s.wlock = none then
        some { go s t (.sendHeader pkt) with wlock := some t } else none
    | _ => none
  | .send t sent =>
    match s.thread t with
    | .sendHeader pkt =>
      if sent.getD 0 ≤ sizeofHeader then some (headerStep s t pkt (sent.getD 0)) else none
    | .sendPayload pkt =>
      if sent.getD 0 ≤ pkt.payload.length then some (payloadStep s t pkt (sent.getD 0)) else none
    | _ => none

end Code

end Output

/-- The threads that write to a client. -/
def outputMachine (T : Type) [DecidableEq T] : Machine (Output.State T) (Output.Label T) :=
  ⟨Output.step⟩

namespace Output

/-- **Nothing is written after a packet that was left unfinished.** A `send` that writes nothing
does no harm, and neither does one that fails. -/
def NotAfterCut {T : Type} (s : State T) : Label T → Prop
  | .send _ (some n) => n = 0 ∨ s.cut = false
  | _ => True

instance {T : Type} (s : State T) : (l : Label T) → Decidable (NotAfterCut s l)
  | .send _ (some n) => inferInstanceAs (Decidable (n = 0 ∨ s.cut = false))
  | .send _ none => isTrue trivial
  | .call _ _ => isTrue trivial
  | .lock _ => isTrue trivial

/-! ### Small facts -/

section Facts

variable {T : Type} [DecidableEq T] {s s' : State T} {t t' : T} {call : Call} {pkt : Packet}
  {pkts : List Packet} {l : Label T} {out : List UInt8} {n : ℕ}

@[simp] theorem stream_nil : stream [] = [] := rfl

@[simp] theorem stream_cons (pkt : Packet) (pkts : List Packet) :
    stream (pkt :: pkts) = pkt.bytes ++ stream pkts := rfl

theorem stream_concat (pkts : List Packet) (pkt : Packet) :
    stream (pkts ++ [pkt]) = stream pkts ++ pkt.bytes := by
  simp [stream]

@[simp] theorem length_header (pkt : Packet) : pkt.header.length = sizeofHeader := by
  simp [Packet.header, sizeofHeader]

/-- **The header of a packet gives its length**, by the same function by which the daemon cuts
the other direction into requests. -/
theorem hdrLength_bytes (pkt : Packet) : hdrLength pkt.bytes = pkt.bytes.length := by
  have hlt := pkt.length_lt
  have htake : pkt.bytes.take 4 = Endian.toLe 4 (sizeofHeader + pkt.payload.length) := by
    rw [Packet.bytes, Packet.header, List.append_assoc, List.append_assoc, List.append_assoc,
      List.take_left' (Endian.length_toLe _ _)]
  have hfits : sizeofHeader + pkt.payload.length < 256 ^ 4 := by
    rw [sizeofHeader]
    omega
  rw [hdrLength, htake, Endian.le_toLe, Nat.mod_eq_of_lt hfits, Packet.bytes, List.length_append,
    length_header]

theorem sizeofHeader_le_length (pkt : Packet) : sizeofHeader ≤ pkt.bytes.length := by
  rw [Packet.bytes, List.length_append, length_header]
  exact Nat.le_add_right _ _

/-- Complete packets and the beginning of one more are framed. This is how a step is shown to
keep the output framed. -/
theorem framed_append {tail : List UInt8} (h : tail <+: pkt.bytes) :
    Framed (stream pkts ++ tail) :=
  ⟨pkts, tail, rfl, .inr ⟨pkt, h⟩⟩

/-- A part of the header begins a packet, and so does the header with a part of the
payload. -/
theorem take_header_begins (pkt : Packet) (n : ℕ) : pkt.header.take n <+: pkt.bytes :=
  (List.take_prefix n _).trans (List.prefix_append _ _)

theorem header_take_begins (pkt : Packet) (n : ℕ) :
    pkt.header ++ pkt.payload.take n <+: pkt.bytes :=
  (List.prefix_append_right_inj _).mpr (List.take_prefix n _)

/-- What the thread that has the lock has written of its packet. -/
def written (s : State T) : List UInt8 :=
  match s.wlock with
  | some t => (s.thread t).written
  | none => []

@[simp] theorem go_thread_self (s : State T) (t : T) (call : Call) :
    (go s t call).thread t = call :=
  Function.update_self ..

theorem go_thread_of_ne (s : State T) (call : Call) (h : t' ≠ t) :
    (go s t call).thread t' = s.thread t' :=
  Function.update_of_ne h ..

omit [DecidableEq T] in
theorem written_of_lock (h : s.wlock = some t) : written s = (s.thread t).written := by
  rw [written, h]

omit [DecidableEq T] in
theorem written_of_free (h : s.wlock = none) : written s = [] := by
  rw [written, h]

/-- A thread without the lock may go anywhere. -/
theorem written_go (call : Call) (h : s.wlock ≠ some t) : written (go s t call) = written s := by
  cases hlock : s.wlock with
  | none =>
    have hgo : (go s t call).wlock = none := hlock
    rw [written_of_free hlock, written_of_free hgo]
  | some u =>
    have hgo : (go s t call).wlock = some u := hlock
    have hne : u ≠ t := fun heq => h (heq ▸ hlock)
    rw [written_of_lock hlock, written_of_lock hgo, go_thread_of_ne s call hne]

/-- **The moves of `writeData`.** -/
theorem step_cases (h : step s l = some s') :
    (∃ t pkt, l = .call t pkt ∧ s.thread t = .idle ∧ s' = go s t (.waiting pkt)) ∨
    (∃ t pkt, l = .lock t ∧ s.thread t = .waiting pkt ∧ s.wlock = none ∧
      s' = { go s t (.sendHeader pkt) with wlock := some t }) ∨
    (∃ t sent pkt, l = .send t sent ∧ s.thread t = .sendHeader pkt ∧
      s' = headerStep s t pkt (sent.getD 0)) ∨
    ∃ t sent pkt, l = .send t sent ∧ s.thread t = .sendPayload pkt ∧
      sent.getD 0 ≤ pkt.payload.length ∧ s' = payloadStep s t pkt (sent.getD 0) := by
  cases l with
  | call t pkt =>
    simp only [step] at h
    split at h
    · rename_i ht
      exact .inl ⟨t, pkt, rfl, ht, (Option.some.inj h).symm⟩
    · cases h
  | lock t =>
    simp only [step] at h
    split at h
    · rename_i pkt ht
      obtain ⟨hfree, hs⟩ := Option.ite_none_right_eq_some.mp h
      exact .inr (.inl ⟨t, pkt, rfl, ht, hfree, (Option.some.inj hs).symm⟩)
    · cases h
  | send t sent =>
    simp only [step] at h
    split at h
    · rename_i pkt ht
      obtain ⟨-, hs⟩ := Option.ite_none_right_eq_some.mp h
      exact .inr (.inr (.inl ⟨t, sent, pkt, rfl, ht, (Option.some.inj hs).symm⟩))
    · rename_i pkt ht
      obtain ⟨hle, hs⟩ := Option.ite_none_right_eq_some.mp h
      exact .inr (.inr (.inr ⟨t, sent, pkt, rfl, ht, hle, (Option.some.inj hs).symm⟩))
    · cases h

end Facts

/-! ### Framed until something is cut off -/

section Invariant

variable {T : Type} [DecidableEq T] {s s' : State T} {t t' : T} {call : Call} {pkt : Packet}
  {l : Label T} {out : List UInt8} {n : ℕ}

/-- **The invariant.** Until a packet is left unfinished, there are complete packets and
what the thread with the lock has written; afterwards that thread writes nothing. -/
structure Inv (s : State T) : Prop where
  /-- The thread with the lock is the one that sends. -/
  lock : ∀ t, (s.thread t).holds = true ↔ s.wlock = some t
  /-- Nothing is unfinished but the packet that is being sent. -/
  whole : s.cut = false → ∃ pkts, s.out = stream pkts ++ written s
  /-- After that, the output is what it was. -/
  stuck : s.cut = true → Framed s.out ∧ written s = []

omit [DecidableEq T] in
theorem inv_init : Inv (init : State T) where
  lock := fun t => by simp [init, Call.holds]
  whole := fun _ => ⟨[], rfl⟩
  stuck := fun h => by simp [init] at h

omit [DecidableEq T] in
/-- Whatever the thread with the lock has written begins its packet. -/
theorem Inv.framed (h : Inv s) : Framed s.out := by
  cases hcut : s.cut with
  | true => exact (h.stuck hcut).1
  | false =>
    obtain ⟨pkts, hout⟩ := h.whole hcut
    rw [hout, written]
    split
    · rename_i t _
      cases s.thread t with
      | sendPayload pkt => exact framed_append (List.prefix_append _ _)
      | _ => exact ⟨pkts, [], rfl, .inl rfl⟩
    · exact ⟨pkts, [], rfl, .inl rfl⟩

/-- A thread without the lock may go where it does not need it. -/
theorem Inv.go (h : Inv s) (ht : (s.thread t).holds = false) (hcall : call.holds = false) :
    Inv (Output.go s t call) := by
  have hother : s.wlock ≠ some t := by
    intro hlock
    rw [(h.lock t).mpr hlock] at ht
    exact absurd ht (by simp)
  have hwritten := written_go call hother
  refine ⟨?_, ?_, ?_⟩
  · intro u
    rcases eq_or_ne u t with rfl | hne
    · rw [go_thread_self, hcall]
      exact iff_of_false (by simp) hother
    · rw [go_thread_of_ne s call hne]
      exact h.lock u
  · rw [hwritten]
    exact h.whole
  · rw [hwritten]
    exact h.stuck

/-- When the thread with the lock gives it back, no one has it. -/
theorem Inv.leave_lock (h : Inv s) (ht : (s.thread t).holds = true) (u : T) :
    ((leave s t).thread u).holds = true ↔ (leave s t).wlock = some u := by
  refine iff_of_false ?_ (by simp [leave])
  rcases eq_or_ne u t with rfl | hne
  · simp [leave, Call.holds]
  · have hlock := (h.lock t).mp ht
    rw [show (leave s t).thread u = s.thread u from go_thread_of_ne s .idle hne, h.lock u, hlock]
    simpa using hne.symm

theorem Inv.lockStep (h : Inv s) (ht : s.thread t = .waiting pkt) (hfree : s.wlock = none) :
    Inv { Output.go s t (.sendHeader pkt) with wlock := some t } := by
  have hnone := written_of_free hfree
  have hwritten : written { Output.go s t (.sendHeader pkt) with wlock := some t } = [] := by
    rw [written_of_lock rfl]
    simp [Call.written]
  refine ⟨?_, ?_, ?_⟩
  · intro u
    rcases eq_or_ne u t with rfl | hne
    · simp [Call.holds]
    · refine iff_of_false ?_ (by simpa using hne.symm)
      rw [show ({ Output.go s t (.sendHeader pkt) with wlock := some t } : State T).thread u =
        s.thread u from go_thread_of_ne s _ hne, h.lock u, hfree]
      simp
  · rw [hwritten, ← hnone]
    exact h.whole
  · intro hcut
    exact ⟨(h.stuck hcut).1, hwritten⟩

/-- **The first `send`.** -/
theorem Inv.headerStep (h : Inv s) (ht : s.thread t = .sendHeader pkt)
    (hok : n = 0 ∨ s.cut = false) : Inv (Output.headerStep s t pkt n) := by
  have hlock : s.wlock = some t := (h.lock t).mp (by rw [ht, Call.holds])
  have hnone : written s = [] := by rw [written_of_lock hlock, ht, Call.written]
  rw [Output.headerStep]
  split
  · -- all of the header has been written
    rename_i hn
    have hcut : s.cut = false := hok.resolve_left (by rw [hn]; decide)
    obtain ⟨pkts, hout⟩ := h.whole hcut
    rw [hnone, List.append_nil] at hout
    refine ⟨?_, ?_, ?_⟩
    · intro u
      rcases eq_or_ne u t with rfl | hne
      · simp [Call.holds, Output.go, hlock]
      · have hthread := go_thread_of_ne s (.sendPayload pkt) hne
        exact (hthread ▸ h.lock u : ((Output.go s t (.sendPayload pkt)).thread u).holds = true ↔
          s.wlock = some u)
    · intro _
      refine ⟨pkts, ?_⟩
      simp [written, Output.go, hlock, hout, Call.written]
    · intro hcut'
      exact absurd (hcut.symm.trans hcut') (by simp)
  · refine ⟨h.leave_lock (by rw [ht, Call.holds]), ?_, ?_⟩
    · intro hcut
      obtain ⟨hcut, hzero⟩ : s.cut = false ∧ n = 0 := by simpa using hcut
      obtain ⟨pkts, hout⟩ := h.whole hcut
      exact ⟨pkts, by simp [hzero, hout, hnone, written_of_free, leave]⟩
    · intro _
      refine ⟨?_, written_of_free rfl⟩
      rcases Nat.eq_zero_or_pos n with rfl | hpos
      · simpa using h.framed
      · obtain ⟨pkts, hout⟩ := h.whole (hok.resolve_left (Nat.ne_of_gt hpos))
        rw [hnone, List.append_nil] at hout
        dsimp only
        rw [hout]
        exact framed_append (take_header_begins pkt n)

/-- **The second `send`.** -/
theorem Inv.payloadStep (h : Inv s) (ht : s.thread t = .sendPayload pkt)
    (hle : n ≤ pkt.payload.length) : Inv (Output.payloadStep s t pkt n) := by
  have hlock : s.wlock = some t := (h.lock t).mp (by rw [ht, Call.holds])
  have hheader : written s = pkt.header := by rw [written_of_lock hlock, ht, Call.written]
  have hcut : s.cut = false := by
    cases hcut : s.cut with
    | false => rfl
    | true =>
      have hnil := congrArg List.length (hheader.symm.trans (h.stuck hcut).2)
      rw [length_header] at hnil
      exact absurd hnil (by decide)
  obtain ⟨pkts, hout⟩ := h.whole hcut
  rw [hheader] at hout
  refine ⟨h.leave_lock (by rw [ht, Call.holds]), ?_, ?_⟩
  · intro hwhole
    -- the packet is complete
    have hn : n = pkt.payload.length := by
      have hge : pkt.payload.length ≤ n := by simpa [Output.payloadStep, hcut] using hwhole
      exact Nat.le_antisymm hle hge
    refine ⟨pkts ++ [pkt], ?_⟩
    rw [written_of_free rfl, List.append_nil, stream_concat, Packet.bytes]
    simp [Output.payloadStep, hout, hn]
  · intro _
    refine ⟨?_, written_of_free rfl⟩
    have hbytes : (Output.payloadStep s t pkt n).out =
        stream pkts ++ (pkt.header ++ pkt.payload.take n) := by
      simp [Output.payloadStep, hout]
    rw [hbytes]
    exact framed_append (header_take_begins pkt n)

/-- **Every step keeps the output framed**, if nothing is written after a packet that was
left unfinished. -/
theorem Inv.step (h : Inv s) (hok : NotAfterCut s l) (hs : Output.step s l = some s') :
    Inv s' := by
  rcases step_cases hs with ⟨t, pkt, rfl, ht, rfl⟩ | ⟨t, pkt, rfl, ht, hfree, rfl⟩ |
    ⟨t, sent, pkt, rfl, ht, rfl⟩ | ⟨t, sent, pkt, rfl, ht, hle, rfl⟩
  · exact h.go (by rw [ht, Call.holds]) rfl
  · exact h.lockStep ht hfree
  · refine h.headerStep ht ?_
    cases sent with
    | none => exact .inl rfl
    | some n => exact hok
  · exact h.payloadStep ht hle

/-- **Until a packet is cut off and written after, the output is framed.** In every
interleaving of the threads that write to a client, and for every result of `send`: if
nothing is written after a packet that was left unfinished, the output consists of complete
packets, and of the beginning of one more at the end. -/
theorem framed_of_reaches (h : (outputMachine T).Reaches NotAfterCut init s) : Framed s.out :=
  (h.invariant inv_init fun _ _ _ hinv hok hs => hinv.step hok hs).framed

end Invariant

/-! ### A packet that is cut off -/

section CutOff

variable {T : Type} {out : List UInt8}

/-- **What framed output begins with**: a header that gives the length of a packet, and
what follows the packet is framed again, if there is that much. -/
theorem Framed.head (h : Framed out) (hlen : 4 ≤ out.length) :
    sizeofHeader ≤ hdrLength out ∧
      (out.length ≤ hdrLength out ∨ Framed (out.drop (hdrLength out))) := by
  obtain ⟨pkts, tail, rfl, htail⟩ := h
  cases pkts with
  | nil =>
    rw [stream_nil, List.nil_append] at hlen ⊢
    rcases htail with rfl | ⟨pkt, rest, hpkt⟩
    · exact absurd hlen (by simp)
    · have hhdr : hdrLength tail = pkt.bytes.length := by
        rw [← hdrLength_bytes, ← hpkt, hdrLength_append hlen]
      rw [hhdr]
      refine ⟨sizeofHeader_le_length pkt, .inl ?_⟩
      rw [← hpkt, List.length_append]
      exact Nat.le_add_right _ _
  | cons pkt pkts =>
    have hpkt := sizeofHeader_le_length pkt
    rw [stream_cons, List.append_assoc]
    have hhdr : hdrLength (pkt.bytes ++ (stream pkts ++ tail)) = pkt.bytes.length := by
      rw [hdrLength_append (Nat.le_trans (by decide) hpkt), hdrLength_bytes]
    rw [hhdr, List.drop_left]
    exact ⟨hpkt, .inr ⟨pkts, tail, rfl, htail⟩⟩

/-- What `notify_device_remove` tells, with the `DeviceID` given by its digit. -/
def detachedDict (deviceID : Char) : List Char :=
  "<dict>\n\t<key>MessageType</key>\n\t<string>Detached</string>\n".toList ++
    "\t<key>DeviceID</key>\n\t<integer>".toList ++ deviceID :: "</integer>\n</dict>\n".toList

theorem length_detachedDict (deviceID : Char) : (detachedDict deviceID).length = 109 := by
  have hbefore : ("<dict>\n\t<key>MessageType</key>\n\t<string>Detached</string>\n".toList ++
    "\t<key>DeviceID</key>\n\t<integer>".toList).length = 89 := by decide +kernel
  have hbehind : "</integer>\n</dict>\n".toList.length = 19 := by decide +kernel
  have hlength (before behind : List Char) :
      (before ++ deviceID :: behind).length = before.length + behind.length + 1 := by
    rw [List.length_append, List.length_cons, Nat.add_assoc]
  exact (hlength _ _).trans (congrArg₂ (fun m n => m + n + 1) hbefore hbehind)

/-- **`notify_device_remove`**, to a client that has said `MESSAGE_LISTEN` and so still has
`_proto_version` 0. A notification is a property list all the same. -/
def detached (deviceID : Char) : Packet where
  version := 0
  message := 8
  tag := 0
  payload := plistText (ascii (detachedDict deviceID))
  length_lt := by
    rw [length_plistText, length_ascii, length_detachedDict]
    decide

/-- A thread sends that packet, and so many bytes of its payload are written. The header is
written whole. -/
def notify (t : T) (deviceID : Char) (written : ℕ) : List (Label T) :=
  [.call t (detached deviceID), .lock t, .send t (some sizeofHeader), .send t (some written)]

/-- Two threads take turns, and the last two bytes of the second packet are not written. That
is the one truncated packet at the end which cannot be helped. -/
theorem framed_of_reaches_cut : ∃ s : State Bool,
    (outputMachine Bool).Reaches NotAfterCut init s ∧
      s.out = (detached '1').bytes ++ (detached '2').bytes.dropLast.dropLast ∧ s.cut = true ∧
      Framed s.out := by
  obtain ⟨s, hs, htest⟩ := (outputMachine Bool).exists_reaches_of_runOk NotAfterCut init
    (notify true '1' (detached '1').payload.length ++
      notify false '2' ((detached '2').payload.length - 2))
    (fun s => decide (s.out = (detached '1').bytes ++ (detached '2').bytes.dropLast.dropLast ∧
      s.cut = true)) (by decide +kernel)
  obtain ⟨hout, hcut⟩ := of_decide_eq_true htest
  exact ⟨s, hs, hout, hcut, framed_of_reaches hs⟩

/-- **Output that is not framed.** The client is told that two devices have gone. The last two
bytes of the first packet are not written, and `notify_device_remove` does not care. So the
packet that follows is two bytes short: its first two bytes are taken for the end of the one
before, and what is left begins with the upper half of a length that fits into the lower half,
that is, with a length of 0. -/
theorem written_after_cut : ∃ s : State Unit,
    (outputMachine Unit).Reachable init s ∧ ¬ Framed s.out := by
  obtain ⟨s, hs, htest⟩ := (outputMachine Unit).exists_reaches_of_runOk
    (fun _ _ => True) init
    (notify () '1' ((detached '1').payload.length - 2) ++
      notify () '2' (detached '2').payload.length)
    (fun s => decide (s.out = (detached '1').bytes.dropLast.dropLast ++ (detached '2').bytes))
    (by decide +kernel)
  refine ⟨s, hs, ?_⟩
  intro hframed
  rw [of_decide_eq_true htest] at hframed
  -- the first packet takes two bytes of the second
  rcases (hframed.head (by decide +kernel)).2 with hle | hrest
  · exact absurd hle (by decide +kernel)
  · exact absurd (hrest.head (by decide +kernel)).1 (by decide +kernel)

end CutOff

end Output

end Usbmuxd
