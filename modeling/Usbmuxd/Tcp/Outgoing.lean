import Usbmuxd.Tcp.Ending
import Usbmuxd.Tcp.SendWindow

/-!
# What a connection sends, from its constructor on

`Usbmuxd.Tcp.Sends` speaks of a connection whose client loop has been started. This file
puts the time before it in front: until `TCP::connect` returns, nothing has been received
from the client and no segment has a payload (`Usbmuxd.Tcp.Opening`). So in every state of
a connection, from its constructor on, the payloads sent are a prefix of what the client
wrote (`Usbmuxd.Tcp.Carries`), and each of them fits into a frame, as long as what is
received fits into the buffer of the connection (`Usbmuxd.Tcp.Fits`).

A step adds at most one segment, at the end (`Usbmuxd.Tcp.step_wire`), and the header of each
has the source port of its connection (`Usbmuxd.Tcp.Stamped`). This is what lets a device put
the segments of all its connections into one order and still tell them apart.

The buffer makes the condition necessary. As long as the client loop writes into it only as far
as it goes, what is sent is taken from what has been received; if it writes behind its end, the
bytes are somebody else's, who may change them before they are sent. The condition is on what is
received, that is, on the results of `recv`, and not on what is sent; and it says something only
about rounds of the loop that read more than once.
-/

namespace Usbmuxd

open Interleaving

namespace Tcp

variable {c c' : Tcp}

/-! ### Whose segments they are -/

/-- Nothing that has been sent is taken back. A step can only send something more. -/
theorem wire_prefix {l : Label} (h : c.step l = some c') : c.core.wire <+: c'.core.wire := by
  rcases step_wire h with hwire | ⟨seg, hwire, -⟩
  · exact hwire ▸ List.prefix_rfl
  · exact hwire ▸ List.prefix_append _ _

/-- Every segment has the header of its connection, whatever it carries. -/
def Stamped (c : Tcp) : Prop := ∀ seg ∈ c.core.wire, seg.From c.core.sPort

theorem Stamped.step (h : c.Stamped) {l : Label} (hs : c.step l = some c') : c'.Stamped := by
  rw [Stamped, step_sPort hs]
  rcases step_wire hs with hwire | ⟨seg, hwire, hfrom, -⟩ <;> rw [hwire]
  · exact h
  · rintro t ht
    rcases List.mem_append.mp ht with ht | ht
    · exact h t ht
    · exact List.mem_singleton.mp ht ▸ hfrom

/-! ### Before the client loop is started -/

/-- `connect` has seen the connection stand, and has still to hand the descriptor over. -/
def ConnectPc.Stands : ConnectPc → Prop
  | .result | .resultBody | .install | .disown | .startLoop => True
  | _ => False

/-- **`connect` has not returned**, so the client loop has not been started, and nothing but
control segments has been sent. -/
structure Opening (c : Tcp) : Prop where
  loop : c.loop = .off
  received : c.received = []
  wire : ∀ seg ∈ c.core.wire, seg.payload = []
  connectPc : c.connectPc ≠ .returned
  stands : c.connectPc.Stands → c.core.connState ≠ .connConnecting

theorem opening_new (sPort dPort : BitVec 16) (seq : BitVec 32) :
    (new sPort dPort seq).Opening where
  loop := rfl
  received := rfl
  wire := fun _ h => absurd h List.not_mem_nil
  connectPc := nofun
  stands := nofun

namespace Opening

theorem sentBytes_eq (h : c.Opening) : sentBytes c.core.wire = [] := by
  rw [sentBytes, List.flatten_eq_nil_iff]
  rintro p hp
  obtain ⟨seg, hseg, rfl⟩ := List.mem_map.mp hp
  exact h.wire seg hseg

/-- A step of a thread other than `connect`. Receivers may be at work during the handshake. -/
theorem others (h : c.Opening) {l : Label} (hs : c.step l = some c') (hloop : c'.loop = c.loop)
    (hreceived : c'.received = c.received) (hpc : c'.connectPc = c.connectPc)
    (hl : l ≠ .loop .sendData) : c'.Opening where
  loop := hloop.trans h.loop
  received := hreceived.trans h.received
  wire := by
    rcases step_wire hs with hwire | ⟨seg, hwire, -, hseg⟩
    · exact hwire ▸ h.wire
    · intro t ht
      rw [hwire, List.mem_append, List.mem_singleton] at ht
      rcases ht with ht | rfl
      · exact h.wire t ht
      · exact hseg.resolve_right hl
  connectPc := hpc ▸ h.connectPc
  stands := by
    intro hstands hconnecting
    rw [hpc] at hstands
    exact h.stands hstands ((step_evolves hs).connecting hconnecting).1

/-- **`connect` goes on**, and when it returns the client loop is started, with everything as it
should be at its beginning. -/
theorem connect (h : c.Opening) {ok : Bool} (hs : c.connectStep ok = some c') :
    c'.Opening ∨ c'.Sends c'.core.stx.seq := by
  cases connectStep_move hs with
  | start hpc => exact Or.inl ⟨h.loop, h.received, h.wire, nofun, nofun⟩
  | syn hpc =>
    refine Or.inl ⟨h.loop, h.received, ?_, nofun, nofun⟩
    intro seg hseg
    rcases List.mem_append.mp hseg with hseg | hseg
    · exact h.wire seg hseg
    · exact List.mem_singleton.mp hseg ▸ rfl
  | connected hpc _ hstate =>
    exact Or.inl ⟨h.loop, h.received, h.wire, nofun, fun _ => by rw [hstate]; nofun⟩
  | notConnected hpc _ hstate => exact Or.inl ⟨h.loop, h.received, h.wire, nofun, nofun⟩
  | result hpc | resultBody hpc | install hpc | disown hpc =>
    exact Or.inl ⟨h.loop, h.received, h.wire, nofun, fun _ => h.stands (by rw [hpc]; trivial)⟩
  | resultFails hpc | resultBodyFails hpc =>
    exact Or.inl ⟨h.loop, h.received, h.wire, nofun, nofun⟩
  | startLoop hpc =>
    have hsent := h.sentBytes_eq
    refine Or.inr ⟨h.stands (by rw [hpc]; trivial), rfl, ?_, ?_, ?_⟩
    · dsimp only
      rw [hsent, List.length_nil]
      exact (BitVec.add_zero _).symm
    · intro k seg hk hne
      exact absurd (h.wire seg (List.mem_of_getElem? hk)) hne
    · exact h.received.trans hsent.symm

end Opening

/-! ### A connection's whole life -/

/-- **What a connection does with the bytes of its client**: it has not started to read
them, or what it has read is what it has sent and what is left in its buffer. -/
def Carries (c : Tcp) : Prop := c.Opening ∨ ∃ seq0, c.Sends seq0

namespace Carries

/-- **One step keeps it**, if what it receives fits into the buffer. Both halves of the life of
a connection are in this. -/
theorem step (h : c.Carries) {l : Label} (hfits : c.Fits l) (hs : c.step l = some c') :
    c'.Carries := by
  rcases h with h | ⟨seq0, h⟩
  · cases l with
    | input l =>
      have hkeeps := inputStep_keeps hs
      exact Or.inl (h.others hs hkeeps.loop hkeeps.received hkeeps.connectPc nofun)
    | loop l =>
      -- the client loop is off, so it makes no step
      have hoff := h.loop
      cases loopStep_move hs with
      | start hloop | pollFailed hloop | pollOther hloop | pollNothing hloop | pollIn _ hloop
      | recvFailed hloop | recvEnd hloop | recvNothing hloop | recvData hloop | sendLater hloop
      | sendFast hloop | sendSleep hloop | sendSlow hloop | wake hloop | wakeGone hloop =>
        rw [hoff] at hloop
        cases hloop
    | connect ok => exact (h.connect hs).imp id fun hsends => ⟨_, hsends⟩
    | deconstruct =>
      rcases deconstructStep_eq hs with ⟨-, heq⟩ | ⟨-, -, heq⟩ <;>
        exact Or.inl (h.others hs (by rw [heq]) (by rw [heq]) (by rw [heq]) nofun)
    | notify l =>
      obtain ⟨wl, out, heq⟩ := notifyStep_eq hs
      exact Or.inl (h.others hs (by rw [heq]) (by rw [heq]) (by rw [heq]) nofun)
  · exact Or.inr ⟨seq0, h.step hfits hs⟩

/-- What has been sent is a prefix of what the client wrote. The rest has been received and
waits for the window. -/
theorem sent_prefix (h : c.Carries) : sentBytes c.core.wire <+: c.received := by
  rcases h with h | ⟨seq0, h⟩
  · exact h.sentBytes_eq ▸ List.nil_prefix
  · exact h.place.sent_prefix

/-- No payload is too long for a frame, which is what sending it over the bus needs. -/
theorem length_le (h : c.Carries) {seg : WireSegment} (hseg : seg ∈ c.core.wire) :
    seg.payload.length ≤ tcpMtu := by
  by_cases hne : seg.payload = []
  · rw [hne]
    exact Nat.zero_le _
  · rcases h with h | ⟨seq0, h⟩
    · exact absurd (h.wire seg hseg) hne
    · obtain ⟨k, hk⟩ := List.mem_iff_getElem?.mp hseg
      exact (h.wire k seg hk hne).length_le

end Carries

/-- The client loop has nothing in hand that it has read and not sent. -/
def LoopPc.EmptyHanded : LoopPc → Prop
  | .sending _ _ | .threw => False
  | _ => True

/-- **A client loop with nothing in hand has sent all it has read.** -/
theorem Carries.sent_eq (h : c.Carries) (hloop : c.loop.EmptyHanded) :
    sentBytes c.core.wire = c.received := by
  rcases h with h | ⟨seq0, h⟩
  · exact h.sentBytes_eq.trans h.received.symm
  · have hplace := h.place
    generalize c.loop = pc at hloop hplace
    cases pc with
    | sending call pc => exact absurd hloop id
    | threw => exact absurd hloop id
    | off | start | polling | receiving | finished => exact hplace.symm

end Tcp

end Usbmuxd
