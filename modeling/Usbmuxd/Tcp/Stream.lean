import Usbmuxd.Library.InOrder
import Usbmuxd.Library.Serial
import Usbmuxd.Tcp.Steps

/-!
# The stream of the device

The segments with which `handle_input` is called carry a stream: each names in its
`th_seq` the position at which its payload starts, counted from `S0` modulo
`2 ^ 32`. Both gates of `handle_input` compare such a field with a counter of the
connection for equality, and equality of fields is equality of positions only as
long as the positions are less than a turn apart.

They are, because a position in the stream is never further ahead of a gate than
the payload of the calls that have not returned
(`Usbmuxd.Tcp.outstanding`), and each receiver has one packet in hand at a time. For
the receivers the daemon starts this is far less than half a turn
(`Usbmuxd.Tcp.outstanding_lt`), so the bound which `Usbmuxd.Tcp.NextInStream` puts
on the calls is kept by whoever makes them.

What is outstanding is measured in bytes of payload, and not in segments: a segment without
payload takes up no room in the stream, and there may be any number of them. A receiver has one
packet at a time and cannot take another before its call has returned. Each packet has at most
`DEV_MRU` bytes, and so `NUM_RX_LOOPS` receivers can never be further apart than so many times
as much, which is very little in comparison with a turn of the positions.
-/

namespace Usbmuxd

open Interleaving Chunks

namespace Tcp

variable (c : Tcp)

/-- The payloads of the segments, in the order of the calls. It is the order in which the device
has sent them. -/
def payloads : List (List UInt8) := c.segs.map Segment.payload

/-- The stream the segments carry: their payloads, one behind the other. -/
def stream : List UInt8 := c.payloads.flatten

/-- The position in the stream at which segment `i` starts. A segment without payload starts
where the next one does. -/
def startOf (i : ℕ) : ℕ := offset c.payloads i

/-- Call `i` of `handle_input` has not returned, and may still do something with its segment. -/
def busy (i : ℕ) : Bool := c.handler i ≠ .returned

/-- The number of payload bytes in the hands of calls that have not returned. -/
def outstanding : ℕ := pending c.payloads c.busy c.segs.length

/-- **The next segment of the stream**: a plain acknowledgement whose `th_seq` is
where the stream has got to, with less than half a turn outstanding. -/
def NextInStream (S0 : BitVec 32) (s : Segment) : Prop :=
  s.hdr.thFlags = Usbmuxd.thAck ∧ s.hdr.thSeq = S0 + BitVec.ofNat 32 c.stream.length ∧
    c.outstanding + s.payload.length < 2 ^ 31

instance (S0 : BitVec 32) (s : Segment) : Decidable (c.NextInStream S0 s) :=
  inferInstanceAs (Decidable (_ ∧ _ ∧ _))

/-- The calls are made in the order of the stream. That they also come to the locks in this
order is not asked for. -/
def InStream (S0 : BitVec 32) (c : Tcp) : Label → Prop
  | .input (.call s) => c.NextInStream S0 s
  | _ => True

instance (S0 : BitVec 32) (c : Tcp) (l : Label) : Decidable (InStream S0 c l) := by
  unfold InStream
  split <;> infer_instance

/-- A segment of the stream that starts at `S0`, `n` bytes into it. -/
def segmentAt (S0 : BitVec 32) (n : ℕ) (payload : List UInt8) : Segment where
  hdr :=
    { thSport := 62078
      thDport := 1
      thSeq := S0 + BitVec.ofNat 32 n
      thAck := 0
      thOff := sizeofTcphdr / 4
      thFlags := Usbmuxd.thAck
      thWin := 0x200 }
  payload := payload.take devMru
  fits := List.length_take_le ..

variable {c} {c' : Tcp} {i : ℕ} {s : Segment} {S0 : BitVec 32}

theorem length_payloads : c.payloads.length = c.segs.length := List.length_map ..

theorem payloads_enter : (c.enter s).payloads = c.payloads ++ [s.payload] := by
  rw [payloads, enter_segs, List.map_append]
  rfl

theorem stream_enter : (c.enter s).stream = c.stream ++ s.payload := by
  rw [stream, payloads_enter, List.flatten_append, List.flatten_singleton, stream]

theorem startOf_enter (hi : i ≤ c.segs.length) : (c.enter s).startOf i = c.startOf i := by
  rw [startOf, payloads_enter, offset_append_left (length_payloads.symm ▸ hi), startOf]

theorem chunk_payloads_enter (hi : i < c.segs.length) :
    chunk (c.enter s).payloads i = chunk c.payloads i := by
  rw [payloads_enter, chunk_append_left (length_payloads.symm ▸ hi)]

theorem chunk_payloads (hs : c.segs[i]? = some s) : chunk c.payloads i = s.payload := by
  rw [chunk, payloads, List.getD_eq_getElem?_getD, List.getElem?_map, hs]
  rfl

/-- **The receivers never have half a turn of the sequence number in hand**: each
has one packet of at most `DEV_MRU` bytes, and there are `NUM_RX_LOOPS` of them. -/
theorem outstanding_lt
    (h : ((Finset.range c.segs.length).filter fun j => c.busy j).card < numRxLoops) :
    c.outstanding + s.payload.length < 2 ^ 31 := by
  have hchunk : ∀ j, (chunk c.payloads j).length ≤ devMru := by
    intro j
    cases hj : c.segs[j]? with
    | none => simp [chunk, payloads, hj]
    | some t => exact chunk_payloads hj ▸ t.fits
  have hsum : c.outstanding ≤
      ((Finset.range c.segs.length).filter fun j => c.busy j).card * devMru := by
    rw [outstanding, pending, ← Finset.sum_filter]
    exact Finset.sum_le_card_nsmul _ _ _ fun j _ => hchunk j
  have hnum : numRxLoops * devMru + devMru < 2 ^ 31 := by decide
  have hmul := Nat.mul_le_mul_right devMru h.le
  have hfit := s.fits
  omega

/-! ### The calls carry the stream -/

/-- From call `k` on, the calls made so far carry the stream, and less than half a turn
of it is outstanding. -/
structure Streamed (k : ℕ) (S0 : BitVec 32) (c : Tcp) : Prop where
  header : ∀ i s, k ≤ i → c.segs[i]? = some s →
    s.hdr.thFlags = Usbmuxd.thAck ∧ s.hdr.thSeq = S0 + BitVec.ofNat 32 (c.startOf i)
  absent : ∀ i, c.handler i = .absent ↔ c.segs.length ≤ i
  room : c.outstanding < 2 ^ 31

namespace Streamed

variable {k : ℕ}

theorem of_no_calls (hsegs : c.segs = []) (hh : ∀ i, c.handler i = .absent) :
    c.Streamed k S0 where
  header := fun i s _ hs => by simp [hsegs] at hs
  absent := fun i => by simp [hsegs, hh i]
  room := by simp [outstanding, hsegs, pending]

/-- One more call, with the next segment of the stream, as long as not too much of it is
outstanding. -/
theorem call (h : c.Streamed k S0) (hroom : c.outstanding + s.payload.length < 2 ^ 31)
    (hnext : k ≤ c.segs.length → c.NextInStream S0 s) : (c.enter s).Streamed k S0 where
  header := by
    intro i t hk ht
    rcases Nat.lt_or_ge i c.segs.length with hlt | hge
    · rw [enter_segs, List.getElem?_append_left hlt] at ht
      rw [startOf_enter hlt.le]
      exact h.header i t hk ht
    · have hlt : i < (c.segs ++ [s]).length := lt_of_getElem? ht
      rw [List.length_append, List.length_singleton] at hlt
      -- the new segment starts where the stream has ended so far
      obtain rfl : i = c.segs.length := by omega
      obtain rfl : s = t := by simpa using ht
      rw [startOf_enter le_rfl, startOf, ← length_payloads, offset_length]
      exact ⟨(hnext hk).1, (hnext hk).2.1⟩
  absent := by
    intro i
    rw [enter_handler, enter_segs, List.length_append, List.length_singleton]
    split
    · next hi => exact iff_of_false (by simp) (by omega)
    · next hi => exact (h.absent i).trans (by omega)
  room := by
    have hlen : (c.enter s).segs.length = c.segs.length + 1 := by simp
    have hold : pending (c.enter s).payloads (c.enter s).busy c.segs.length = c.outstanding := by
      -- the calls before it are as busy as they were
      refine Finset.sum_congr rfl ?_
      intro j hj
      have hne : j ≠ c.segs.length := (Finset.mem_range.mp hj).ne
      have hbusy : (c.enter s).busy j = c.busy j := by rw [busy, enter_handler, if_neg hne, busy]
      rw [chunk_payloads_enter (Finset.mem_range.mp hj), hbusy]
    rw [outstanding, hlen, pending_succ, hold, payloads_enter, ← length_payloads,
      chunk_append_singleton]
    split
    · exact hroom
    · exact h.room

/-- A call goes on. What is in the segments and where they start does not change. -/
theorem move {i : ℕ} {pc : HandlerPc} (h : c.Streamed k S0) (hm : c.Moves i pc c') :
    c'.Streamed k S0 where
  header := by
    intro j t hk ht
    rw [startOf, payloads, hm.segs] at *
    exact h.header j t hk ht
  absent := by
    intro j
    rw [hm.handler_apply, hm.segs]
    split
    · next hj => exact hj ▸ iff_of_false hm.to_ne_absent (Nat.not_le.mpr hm.lt_length)
    · exact h.absent j
  room := by
    refine lt_of_le_of_lt ?_ h.room
    rw [outstanding, outstanding, payloads, payloads, hm.segs]
    refine pending_le_of_imp ?_
    intro j hj
    rcases eq_or_ne j i with rfl | hne
    · simpa [busy] using hm.ne_returned
    · simpa [busy, hm.handler_of_ne hne] using hj

/-- **The calls go on carrying the stream**, if from call `k` on they are made in its
order. -/
theorem step (h : c.Streamed k S0) {l : Label}
    (hcall : ∀ s, l = .input (.call s) → c.outstanding + s.payload.length < 2 ^ 31 ∧
      (k ≤ c.segs.length → c.NextInStream S0 s))
    (hs : c.step l = some c') : c'.Streamed k S0 := by
  rcases step_moves (fun j hj => (h.absent j).mpr hj) hs with
    ⟨s, rfl, rfl⟩ | ⟨i, pc, hm⟩ | ⟨hsegs, hh⟩
  · exact h.call (hcall s rfl).1 (hcall s rfl).2
  · exact h.move hm
  · obtain ⟨header, absent, room⟩ := h
    simp only [startOf, payloads, outstanding] at header room
    refine ⟨?_, ?_, ?_⟩
    · simpa only [startOf, payloads, hsegs] using header
    · simpa only [hh, hsegs] using absent
    · have hbusy : c'.busy = c.busy := funext fun j => by rw [busy, busy, hh]
      simpa only [outstanding, payloads, hsegs, hbusy] using room

theorem step_inStream (h : c.Streamed 0 S0) {l : Label} (hok : InStream S0 c l)
    (hs : c.step l = some c') : c'.Streamed 0 S0 :=
  h.step (fun s hl => by subst hl; exact ⟨hok.2.2, fun _ => hok⟩) hs

theorem lt_length (h : c.Streamed k S0) (hi : c.handler i ≠ .absent) : i < c.segs.length :=
  Nat.lt_of_not_le fun hle => hi ((h.absent i).mpr hle)

/-- A call that is being executed has a segment, since every call is made with one. -/
theorem moves (h : c.Streamed k S0) {p pc : HandlerPc} (hpc : c.handler i = p)
    (hp : p ≠ .absent ∧ p ≠ .returned) (hto : pc ≠ .absent)
    (hc : c'.segs = c.segs ∧ c'.handler = (c.moveHandler i pc).handler) : c.Moves i pc c' :=
  .of_pc (h.lt_length (hpc ▸ hp.1)) hpc hp hto hc

/-- **A gate at position `a` opens to a call exactly when its segment starts there**,
provided the calls are in line and the one in question has not passed. -/
theorem gate_iff {minds : List UInt8 → Prop} {passed : ℕ → Prop} {a : ℕ} (h : c.Streamed k S0)
    (hline : InLine c.payloads minds passed a) (hk : k ≤ i) (hs : c.segs[i]? = some s)
    (hnot : ¬passed i) (hminds : minds (chunk c.payloads i)) (hempty : ∀ d, ¬minds d → d = [])
    (hpassed : ∀ j, c.handler j = .returned → passed j) :
    S0 + BitVec.ofNat 32 a = s.hdr.thSeq ↔ a = c.startOf i := by
  have hlen : i ≤ c.segs.length := (lt_of_getElem? hs).le
  have hfar : c.startOf i ≤ a + c.outstanding :=
    (hline.offset_le (fun j _ hj => by simpa [busy] using mt (hpassed j) hj) hempty).trans
      (Nat.add_le_add_left (pending_mono hlen) a)
  have hroom := h.room
  rw [(h.header i s hk hs).2]
  exact SerialNumber.eq_iff_of_lt S0 (hline.ahead i hnot hminds) (by omega)

end Streamed

end Tcp

end Usbmuxd
