import Usbmuxd.Devices.RoundTrip

/-!
# What `device_data_input` reads of a packet

A transfer buffer is used again and again, and holds the bytes of earlier packets
behind those of the last one. A packet is *parsed from what was received*
(`Usbmuxd.ParsedFromReceived`) if the outcome, the device after it and the bytes
handed on are the same whatever lies behind the packet, and if what is handed on
are the bytes of the packet behind its headers.

## What goes wrong

The mux header is read before anything is known about the length of the packet. A
packet that ends inside the length field or, on a version 2 device, inside
`tx_seq`, is compared with bytes of earlier packets. And
the control payload is taken to begin behind the union of the two headers, while its
length is that of the packet less the header of the version in use: on a version 1
device it is read eight bytes too far, and on a version 2 device a packet shorter
than its header gives a length just below `2 ^ 32`. `Usbmuxd.WellCut` says which
packets are parsed from what was received.
-/

namespace Usbmuxd

/-! ### Buffers that agree on a packet -/

/-- The buffers agree on the `length` bytes received. -/
def Agree (buffer buffer' : ℕ → UInt8) (length : ℕ) : Prop :=
  ∀ i < length, buffer i = buffer' i

/-- **The region is `[a, b)` of the packet.** An empty region may point anywhere. -/
def Slice.Covers (s : Slice) (a b : ℕ) : Prop :=
  a ≤ b ∧ s.length = b - a ∧ (s.length = 0 ∨ s.offset = a)

/-- **What is handed on lies behind the headers**: the version header; all of the
packet behind the mux header; the TCP header and all of the packet behind it. -/
def Dispatch.Inside (muxHeaderSize length : ℕ) : Dispatch Slice → Prop
  | .version vh => vh = ⟨muxHeaderSize, sizeofMuxVersionHeader⟩ ∧
      muxHeaderSize + sizeofMuxVersionHeader ≤ length
  | .control payload => payload.Covers muxHeaderSize length
  | .tcp header payload => header = ⟨muxHeaderSize, sizeofTcphdr⟩ ∧
      payload.Covers (muxHeaderSize + sizeofTcphdr) length
  | .unknown _ => True

/-- What a call does: its outcome with the bytes it hands on, and the device. -/
def effect (sight : Sight) (wakes : List Sight) (buffer : ℕ → UInt8) (length : ℕ) :
    Outcome (List UInt8) × MuxDevice :=
  ((deviceDataInput sight wakes buffer length).1.map (Slice.bytes buffer),
    (deviceDataInput sight wakes buffer length).2)

/-- **A packet is parsed from the bytes received**, however often its receiver has to
wait and whatever it sees when it wakes. -/
structure ParsedFromReceived (sight : Sight) (buffer : ℕ → UInt8) (length : ℕ) : Prop where
  /-- What lies behind the packet makes no difference. -/
  same : ∀ wakes : List Sight, (∀ w ∈ wakes, w.dev.Reached) → ∀ buffer',
    Agree buffer buffer' length →
    effect sight wakes buffer' length = effect sight wakes buffer length
  /-- What is handed on lies in the packet. -/
  inside : ∀ wakes : List Sight, (∀ w ∈ wakes, w.dev.Reached) → ∀ d,
    (deviceDataInput sight wakes buffer length).1 = .passed d →
      d.Inside (muxHeaderSize sight.dev.version) length

/-- A byte of the length field has been received, and is not that of `length`. -/
def Contradicts (buffer : ℕ → UInt8) (length : ℕ) : Prop :=
  ∃ i < 4, 4 + i < length ∧ buffer (4 + i) ≠ (Endian.toBe 4 length).getD i 0

/-- **The packets that are parsed from what was received.** -/
def WellCut (sight : Sight) (buffer : ℕ → UInt8) (length : ℕ) : Prop :=
  Contradicts buffer length ∨ 8 ≤ length ∧
    if sight.dev.version < 2 then mhdrProtocol buffer = MuxProtocol.control.number → length = 8
    else 14 ≤ length ∧ (mhdrProtocol buffer = MuxProtocol.control.number → 16 ≤ length) ∨
      -- thrown away as a duplicate, which the first byte of `tx_seq` has to tell if it is the last
      13 ≤ length ∧ firstVisit sight.dev.rxSeq (mhdrTxSeq buffer) sight.rxXfers = .discard ∧
        (length = 13 → (buffer 12).toNat ≠ (sight.dev.rxSeq + 1).toNat / 256)

section Agree

variable {buffer buffer' : ℕ → UInt8} {length : ℕ}

theorem Agree.symm (h : Agree buffer buffer' length) : Agree buffer' buffer length :=
  fun i hi => (h i hi).symm

theorem Agree.read (h : Agree buffer buffer' length) {o n : ℕ} (hle : o + n ≤ length) :
    Memory.read buffer o n = Memory.read buffer' o n :=
  Memory.read_congr fun i hi => h (o + i) (by omega)

theorem Agree.mhdrProtocol (h : Agree buffer buffer' length) (hle : 4 ≤ length) :
    mhdrProtocol buffer = mhdrProtocol buffer' := congrArg Endian.be (h.read hle)

theorem Agree.mhdrLength (h : Agree buffer buffer' length) (hle : 8 ≤ length) :
    mhdrLength buffer = mhdrLength buffer' := congrArg Endian.be (h.read hle)

theorem Agree.mhdrTxSeq (h : Agree buffer buffer' length) (hle : 14 ≤ length) :
    mhdrTxSeq buffer = mhdrTxSeq buffer' :=
  congrArg (fun bytes => BitVec.ofNat 16 (Endian.be bytes)) (h.read hle)

/-- The bytes of a region inside the packet are the same. -/
theorem Slice.Covers.bytes_eq {s : Slice} {a : ℕ} (h : s.Covers a length)
    (hagree : Agree buffer buffer' length) : s.bytes buffer = s.bytes buffer' := by
  obtain ⟨hle, hlen, hzero | hoff⟩ := h
  · rw [Slice.bytes, Slice.bytes, hzero, Memory.read_zero, Memory.read_zero]
  · exact hagree.read (by omega)

/-- What is handed on is the same if it lies in the packet. -/
theorem Dispatch.Inside.map_eq {d : Dispatch Slice} {size : ℕ} (h : d.Inside size length)
    (hagree : Agree buffer buffer' length) :
    d.map (Slice.bytes buffer) = d.map (Slice.bytes buffer') := by
  cases d with
  | version vh =>
    obtain ⟨rfl, hle⟩ := h
    exact congrArg Dispatch.version (hagree.read hle)
  | control payload => exact congrArg Dispatch.control (h.bytes_eq hagree)
  | tcp header payload =>
    obtain ⟨rfl, hpayload⟩ := h
    exact congrArg₂ Dispatch.tcp (hagree.read hpayload.1) (hpayload.bytes_eq hagree)
  | unknown protocol => rfl

/-- A received byte that contradicts the length makes the packet a mismatch. -/
theorem Contradicts.mhdrLength_ne (h : Contradicts buffer length) :
    Usbmuxd.mhdrLength buffer ≠ length := by
  obtain ⟨i, hi, -, hne⟩ := h
  intro heq
  have hread := Endian.toBe_be (Memory.read buffer 4 4)
  rw [Memory.length_read] at hread
  rw [show Endian.be (Memory.read buffer 4 4) = length from heq] at hread
  apply hne
  rw [hread, List.getD_eq_getElem _ _ (by simpa using hi)]
  simp [Memory.read]

theorem Contradicts.of_agree (h : Contradicts buffer length)
    (hagree : Agree buffer buffer' length) : Contradicts buffer' length := by
  obtain ⟨i, hi, hlen, hne⟩ := h
  exact ⟨i, hi, hlen, by rwa [← hagree _ hlen]⟩

/-- The two bytes of `tx_seq`. -/
theorem toNat_mhdrTxSeq (buffer : ℕ → UInt8) :
    (Usbmuxd.mhdrTxSeq buffer).toNat = 256 * (buffer 12).toNat + (buffer 13).toNat := by
  have hread :
      Endian.be (Memory.read buffer 12 2) = (buffer 13).toNat + 256 * (buffer 12).toNat := by
    simp [Memory.read, Endian.be, Endian.le, List.range_succ, Nat.ofDigits_cons]
  have h12 := (buffer 12).toNat_lt
  have h13 := (buffer 13).toNat_lt
  rw [Usbmuxd.mhdrTxSeq, hread, BitVec.toNat_ofNat]
  omega

end Agree

/-! ### What a call comes to -/

section Call

variable {buffer buffer' : ℕ → UInt8} {length : ℕ} {sight : Sight} {wakes : List Sight}

/-- The call, from the gate on. -/
def pastGate (version : ℕ) (buffer : ℕ → UInt8) (length : ℕ) :
    GateOutcome × MuxDevice → Outcome Slice × MuxDevice
  | (.sleep, dev) => (.waits, dev)
  | (.discard, dev) => (.discarded, dev)
  | (.accept, dev) =>
    (dispatchPacket version buffer length, { dev with rxSeq := mhdrTxSeq buffer })

theorem deviceDataInput_mismatch (hpos : 1 ≤ length) (hle : length ≤ usbMru)
    (h : mhdrLength buffer ≠ length) :
    deviceDataInput sight wakes buffer length = (.rejected .sizeMismatch, sight.dev) := by
  have husb : length ≤ usbMru ∧ length ≤ devMru := ⟨hle, Nat.le_trans hle (by decide)⟩
  rw [deviceDataInput, if_neg (by omega), if_neg (not_not.mpr husb), if_pos h]

theorem deviceDataInput_v1 (hpos : 1 ≤ length) (hle : length ≤ usbMru)
    (h : mhdrLength buffer = length) (hv : sight.dev.version < 2) (hsight : sight.dev.Reached) :
    deviceDataInput sight wakes buffer length =
      (dispatchPacket sight.dev.version buffer length, sight.dev) := by
  have husb : length ≤ usbMru ∧ length ≤ devMru := ⟨hle, Nat.le_trans hle (by decide)⟩
  rw [deviceDataInput, if_neg (by omega), if_neg (not_not.mpr husb), if_neg (not_not.mpr h),
    if_neg (Nat.not_le.mpr hv), handleSplit_eq hsight.pktbuf h]

theorem deviceDataInput_v2 (hpos : 1 ≤ length) (hle : length ≤ usbMru)
    (h : mhdrLength buffer = length) (hv : 2 ≤ sight.dev.version) (hsight : sight.dev.Reached)
    (hwakes : ∀ w ∈ wakes, w.dev.Reached) :
    deviceDataInput sight wakes buffer length = pastGate sight.dev.version buffer length
      (passGate (mhdrTxSeq buffer) firstVisit sight wakes) := by
  have husb : length ≤ usbMru ∧ length ≤ devMru := ⟨hle, Nat.le_trans hle (by decide)⟩
  have hgate := @passGate_mem (mhdrTxSeq buffer) firstVisit sight wakes
  obtain ⟨s, hs, hdev⟩ := List.mem_map.mp hgate
  have hreached : s.dev.Reached := by
    rcases List.mem_cons.mp hs with rfl | hs
    · exact hsight
    · exact hwakes s hs
  rw [deviceDataInput, if_neg (by omega), if_neg (not_not.mpr husb), if_neg (not_not.mpr h),
    if_pos hv]
  split <;> rename_i hout <;> rw [hout] at hdev ⊢
  · rfl
  · rfl
  · have hpkt := hreached.pktbuf
    rw [hdev] at hpkt
    exact handleSplit_eq hpkt h

/-- The dispatch reads the protocol only. -/
theorem dispatchPacket_congr (h : mhdrProtocol buffer = mhdrProtocol buffer') (version : ℕ) :
    dispatchPacket version buffer length = dispatchPacket version buffer' length := by
  simp only [dispatchPacket, h]

/-- **What the dispatch hands on lies in the packet**, except for control packets that
are too short for their header, and those of a version 1 device that are not empty. -/
theorem dispatchPacket_inside {version : ℕ} (hle : length ≤ usbMru) {d : Dispatch Slice}
    (hd : dispatchPacket version buffer length = .passed d)
    (hcontrol : mhdrProtocol buffer = MuxProtocol.control.number →
      muxHeaderSize version ≤ length ∧ (length = muxHeaderSize version ∨ 2 ≤ version)) :
    d.Inside (muxHeaderSize version) length := by
  have hlt : length < 2 ^ 32 := Nat.lt_of_le_of_lt hle (by decide)
  simp only [dispatchPacket] at hd
  split at hd
  · split at hd
    · cases hd
    · rename_i hlong
      obtain rfl : Dispatch.version _ = d := by simpa using hd
      exact ⟨rfl, not_not.mp hlong⟩
  split at hd
  · rename_i hproto
    -- the one case without a check of its own
    obtain rfl : Dispatch.control _ = d := by simpa using hd
    obtain ⟨hlong, hlen⟩ := hcontrol hproto
    have hmod : (length + 2 ^ 32 - muxHeaderSize version) % 2 ^ 32 =
        length - muxHeaderSize version := by omega
    refine ⟨hlong, hmod, ?_⟩
    rcases hlen with hempty | hv
    · left
      exact hmod.trans (by omega)
    · right
      exact (if_neg (Nat.not_lt.mpr hv)).symm
  split at hd
  · split at hd
    · cases hd
    · rename_i hlong
      obtain rfl : Dispatch.tcp _ _ = d := by simpa using hd
      rw [not_not] at hlong
      refine ⟨rfl, hlong, ?_, .inr rfl⟩
      dsimp only
      omega
  · obtain rfl : Dispatch.unknown _ = d := by simpa using hd
    exact trivial

/-- A control packet that is shorter than its header, or not empty on a version 1
device, is handed on with bytes outside the packet. -/
theorem dispatchPacket_outside {version : ℕ} (hle : length ≤ usbMru) (h8 : 8 ≤ length)
    (hproto : mhdrProtocol buffer = MuxProtocol.control.number)
    (h : if version < 2 then length ≠ 8 else length < 16) :
    ∃ d, dispatchPacket version buffer length = .passed d ∧
      ¬d.Inside (muxHeaderSize version) length := by
  have hlt : length < 2 ^ 32 := Nat.lt_of_le_of_lt hle (by decide)
  refine ⟨_, by rw [dispatchPacket, hproto]; rfl, ?_⟩
  rintro ⟨hlong, hlen, hoff⟩
  rw [muxHeaderSize] at hlong
  split at h
  · rename_i hv
    -- the header has eight bytes, and the payload is taken to begin at the sixteenth
    rw [if_pos hv, sizeofMuxHeaderV1] at hlong
    simp only [muxHeaderSize, if_pos hv, sizeofMuxHeaderV1, sizeofMuxHeader,
      sizeofMuxHeaderV2] at hoff
    omega
  · rename_i hv
    rw [if_neg hv, sizeofMuxHeaderV2] at hlong
    omega

/-- A call that does the same with both buffers, and hands on nothing from outside
the packet, has the same effect. -/
theorem effect_eq {size : ℕ} (hagree : Agree buffer buffer' length)
    (heq : deviceDataInput sight wakes buffer' length = deviceDataInput sight wakes buffer length)
    (hinside : ∀ d, (deviceDataInput sight wakes buffer length).1 = .passed d →
      d.Inside size length) :
    effect sight wakes buffer' length = effect sight wakes buffer length := by
  have hmap : ∀ o : Outcome Slice, (∀ d, o = .passed d → d.Inside size length) →
      o.map (Slice.bytes buffer') = o.map (Slice.bytes buffer) := by
    intro o ho
    cases o with
    | passed d => exact congrArg Outcome.passed ((ho d rfl).map_eq hagree).symm
    | _ => rfl
  rw [effect, effect, heq]
  exact Prod.ext (hmap _ hinside) rfl

end Call

/-! ### Packets that are parsed from what was received -/

section Parsed

variable {buffer buffer' : ℕ → UInt8} {length : ℕ} {sight : Sight}

/-- A packet whose length field cannot be that of its length is refused. -/
theorem parsed_of_mismatch (hpos : 1 ≤ length) (hle : length ≤ usbMru)
    (h : ∀ buffer', Agree buffer buffer' length → mhdrLength buffer' ≠ length) :
    ParsedFromReceived sight buffer length := by
  have hmine := h buffer fun _ _ => rfl
  constructor
  · intro wakes _ buffer' hagree
    rw [effect, effect, deviceDataInput_mismatch hpos hle (h buffer' hagree),
      deviceDataInput_mismatch hpos hle hmine]
    rfl
  · intro wakes _ d hd
    rw [deviceDataInput_mismatch hpos hle hmine] at hd
    cases hd

theorem parsed_v1 (hle : length ≤ usbMru) (h8 : 8 ≤ length) (h : mhdrLength buffer = length)
    (hv : sight.dev.version < 2) (hsight : sight.dev.Reached)
    (hcontrol : mhdrProtocol buffer = MuxProtocol.control.number → length = 8) :
    ParsedFromReceived sight buffer length := by
  have hpos : 1 ≤ length := by omega
  have hsize : muxHeaderSize sight.dev.version = 8 := if_pos hv
  have hinside : ∀ wakes d, (deviceDataInput sight wakes buffer length).1 = .passed d →
      d.Inside (muxHeaderSize sight.dev.version) length := by
    intro wakes d hd
    rw [deviceDataInput_v1 hpos hle h hv hsight] at hd
    exact dispatchPacket_inside hle hd fun hproto =>
      ⟨hsize ▸ h8, .inl ((hcontrol hproto).trans hsize.symm)⟩
  refine ⟨fun wakes _ buffer' hagree => effect_eq hagree ?_ (hinside wakes),
    fun wakes _ => hinside wakes⟩
  rw [deviceDataInput_v1 hpos hle h hv hsight,
    deviceDataInput_v1 hpos hle ((hagree.mhdrLength h8).symm.trans h) hv hsight,
    dispatchPacket_congr (hagree.mhdrProtocol (by omega))]

theorem parsed_v2 (hle : length ≤ usbMru) (h14 : 14 ≤ length) (h : mhdrLength buffer = length)
    (hv : 2 ≤ sight.dev.version) (hsight : sight.dev.Reached)
    (hcontrol : mhdrProtocol buffer = MuxProtocol.control.number → 16 ≤ length) :
    ParsedFromReceived sight buffer length := by
  have hpos : 1 ≤ length := by omega
  have hsize : muxHeaderSize sight.dev.version = 16 := if_neg (Nat.not_lt.mpr hv)
  -- what is handed on past the gate lies in the packet
  have hinside : ∀ wakes : List Sight, (∀ w ∈ wakes, w.dev.Reached) → ∀ d,
      (deviceDataInput sight wakes buffer length).1 = .passed d →
        d.Inside (muxHeaderSize sight.dev.version) length := by
    intro wakes hwakes d hd
    rw [deviceDataInput_v2 hpos hle h hv hsight hwakes] at hd
    revert hd
    obtain ⟨outcome, dev⟩ := passGate (mhdrTxSeq buffer) firstVisit sight wakes
    intro hd
    cases outcome with
    | sleep => cases hd
    | discard => cases hd
    | accept =>
      exact dispatchPacket_inside hle hd fun hproto => ⟨hsize ▸ hcontrol hproto, .inr hv⟩
  refine ⟨fun wakes hwakes buffer' hagree => effect_eq hagree ?_ (hinside wakes hwakes), hinside⟩
  rw [deviceDataInput_v2 hpos hle h hv hsight hwakes,
    deviceDataInput_v2 hpos hle ((hagree.mhdrLength (by omega)).symm.trans h) hv hsight hwakes,
    hagree.mhdrTxSeq h14]
  -- the gate and the switch look at nothing but the header, which both buffers have
  have hproto := hagree.mhdrProtocol (by omega)
  obtain ⟨outcome, dev⟩ := passGate (mhdrTxSeq buffer') firstVisit sight wakes
  cases outcome with
  | sleep => rfl
  | discard => rfl
  | accept => rw [pastGate, pastGate, dispatchPacket_congr hproto, hagree.mhdrTxSeq h14]

/-- Whether a packet is thrown away at once is told by the first byte of its number, if
that is not the first byte of the number expected. -/
theorem firstVisit_discard_congr {rxSeq txseq txseq' : BitVec 16} {n : ℕ}
    (hhigh : txseq.toNat / 256 = txseq'.toNat / 256)
    (hne : txseq.toNat / 256 ≠ (rxSeq + 1).toNat / 256)
    (h : firstVisit rxSeq txseq n = .discard) : firstVisit rxSeq txseq' n = .discard := by
  rw [firstVisit_discard_iff] at h ⊢
  have hlt := txseq.isLt
  have hlt' := txseq'.isLt
  omega

theorem passGate_discard {txseq : BitVec 16} (wakes : List Sight)
    (h : firstVisit sight.dev.rxSeq txseq sight.rxXfers = .discard) :
    passGate txseq firstVisit sight wakes = (.discard, sight.dev) := by
  cases wakes with
  | nil => rw [passGate, h]
  | cons woken wakes => rw [passGate, h]

/-- A duplicate is thrown away without a look at the rest of it. -/
theorem parsed_discard (hle : length ≤ usbMru) (h13 : 13 ≤ length) (h : mhdrLength buffer = length)
    (hv : 2 ≤ sight.dev.version) (hsight : sight.dev.Reached)
    (hdiscard : firstVisit sight.dev.rxSeq (mhdrTxSeq buffer) sight.rxXfers = .discard)
    (hbyte : length = 13 → (buffer 12).toNat ≠ (sight.dev.rxSeq + 1).toNat / 256) :
    ParsedFromReceived sight buffer length := by
  have hpos : 1 ≤ length := by omega
  have hall : ∀ wakes : List Sight, (∀ w ∈ wakes, w.dev.Reached) → ∀ buffer',
      Agree buffer buffer' length →
        deviceDataInput sight wakes buffer' length = (.discarded, sight.dev) := by
    intro wakes hwakes buffer' hagree
    -- with only the first byte of `tx_seq`, the number is a duplicate whatever the second
    have hdiscard' : firstVisit sight.dev.rxSeq (mhdrTxSeq buffer') sight.rxXfers = .discard := by
      rcases Nat.lt_or_ge length 14 with hlt | hge
      · have hhigh := hbyte (by omega)
        have h12 := hagree 12 (by omega)
        have hlow := (buffer 13).toNat_lt
        have hlow' := (buffer' 13).toNat_lt
        refine firstVisit_discard_congr ?_ ?_ hdiscard
        · rw [toNat_mhdrTxSeq, toNat_mhdrTxSeq, h12]
          omega
        · rw [toNat_mhdrTxSeq]
          omega
      · rwa [← hagree.mhdrTxSeq hge]
    rw [deviceDataInput_v2 hpos hle ((hagree.mhdrLength (by omega)).symm.trans h) hv hsight hwakes,
      passGate_discard wakes hdiscard', pastGate]
  constructor
  · intro wakes hwakes buffer' hagree
    rw [effect, effect, hall wakes hwakes buffer' hagree,
      hall wakes hwakes buffer fun _ _ => rfl]
    rfl
  · intro wakes hwakes d hd
    rw [hall wakes hwakes buffer fun _ _ => rfl] at hd
    cases hd

/-- **Packets that are well cut are parsed from what was received.** -/
theorem WellCut.parsed (hpos : 1 ≤ length) (hle : length ≤ usbMru) (hsight : sight.dev.Reached)
    (h : WellCut sight buffer length) : ParsedFromReceived sight buffer length := by
  rcases h with hcontra | ⟨h8, h⟩
  · exact parsed_of_mismatch hpos hle fun buffer' hagree =>
      (hcontra.of_agree hagree).mhdrLength_ne
  by_cases hlen : mhdrLength buffer = length
  · split at h
    · rename_i hv
      exact parsed_v1 hle h8 hlen hv hsight h
    · rename_i hv
      rw [Nat.not_lt] at hv
      rcases h with ⟨h14, hcontrol⟩ | ⟨h13, hdiscard, hbyte⟩
      · exact parsed_v2 hle h14 hlen hv hsight hcontrol
      · exact parsed_discard hle h13 hlen hv hsight hdiscard hbyte
  · exact parsed_of_mismatch hpos hle fun buffer' hagree => by rwa [← hagree.mhdrLength h8]

end Parsed

/-! ### Packets that are not -/

section NotParsed

variable {buffer buffer' : ℕ → UInt8} {length : ℕ} {sight : Sight}

/-- A length field that is that of the length, as far as it has been received. -/
theorem mhdrLength_eq (hle : length ≤ usbMru)
    (h : ∀ i < 4, buffer (4 + i) = (Endian.toBe 4 length).getD i 0) :
    mhdrLength buffer = length := by
  have hread : Memory.read buffer 4 4 = Endian.toBe 4 length := by
    refine List.ext_getElem (by simp) ?_
    intro i hi hi'
    rw [Memory.length_read] at hi
    rw [← List.getD_eq_getElem _ 0 hi', ← h i hi]
    simp [Memory.read]
  rw [mhdrLength, hread, Endian.be_toBe_of_lt (Nat.lt_of_le_of_lt hle (by decide))]

/-- The packet in a buffer with something else behind it. -/
def overlay (buffer behind : ℕ → UInt8) (length : ℕ) : ℕ → UInt8 :=
  fun i => if i < length then buffer i else behind i

theorem agree_overlay (behind : ℕ → UInt8) : Agree buffer (overlay buffer behind length) length :=
  fun _ hi => (if_pos hi).symm

theorem Outcome.eq_rejected {α β : Type} {f : α → β} {o : Outcome α} {e : DataError}
    (h : o.map f = .rejected e) : o = .rejected e := by
  cases o with
  | rejected e' => exact congrArg Outcome.rejected (Outcome.rejected.inj h)
  | _ => cases h

/-- What the dispatch comes to. -/
theorem dispatchPacket_cases (version : ℕ) (buffer : ℕ → UInt8) (length : ℕ) :
    dispatchPacket version buffer length = .rejected .versionTooSmall ∨
      dispatchPacket version buffer length = .rejected .tcpTooSmall ∨
        ∃ d, dispatchPacket version buffer length = .passed d := by
  simp only [dispatchPacket]
  split
  · split
    · exact .inl rfl
    · exact .inr (.inr ⟨_, rfl⟩)
  split
  · exact .inr (.inr ⟨_, rfl⟩)
  split
  · split
    · exact .inr (.inl rfl)
    · exact .inr (.inr ⟨_, rfl⟩)
  · exact .inr (.inr ⟨_, rfl⟩)

/-- A call that does not wake again. -/
theorem reached_nil : ∀ w ∈ ([] : List Sight), w.dev.Reached := nofun

theorem outcome_ne_mismatch (hpos : 1 ≤ length) (hle : length ≤ usbMru)
    (h : mhdrLength buffer = length) (hsight : sight.dev.Reached) :
    (deviceDataInput sight [] buffer length).1 ≠ .rejected .sizeMismatch := by
  rcases Nat.lt_or_ge sight.dev.version 2 with hv | hv
  · rw [deviceDataInput_v1 hpos hle h hv hsight]
    rcases dispatchPacket_cases sight.dev.version buffer length with hd | hd | ⟨d, hd⟩ <;>
      rw [hd] <;> nofun
  · rw [deviceDataInput_v2 hpos hle h hv hsight reached_nil]
    obtain ⟨outcome, dev⟩ := passGate (mhdrTxSeq buffer) firstVisit sight []
    cases outcome with
    | sleep => nofun
    | discard => nofun
    | accept =>
      rw [pastGate]
      rcases dispatchPacket_cases sight.dev.version buffer length with hd | hd | ⟨d, hd⟩ <;>
        rw [hd] <;> nofun

/-- A buffer with the length in its length field. -/
def rightLength (length : ℕ) (i : ℕ) : UInt8 := (Endian.toBe 4 length).getD (i - 4) 0

/-- A buffer in whose length field every byte is wrong. -/
def wrongLength (length : ℕ) (i : ℕ) : UInt8 := rightLength length i + 1

/-- **The length field has to be there**, if nothing of it contradicts the length. -/
theorem ParsedFromReceived.le_length (h : ParsedFromReceived sight buffer length)
    (hpos : 1 ≤ length) (hle : length ≤ usbMru) (hsight : sight.dev.Reached)
    (hcontra : ¬Contradicts buffer length) :
    8 ≤ length := by
  by_contra hshort
  -- behind the packet, the rest of the length field can be right, or have its last byte wrong
  have hright : mhdrLength (overlay buffer (rightLength length) length) = length := by
    refine mhdrLength_eq hle ?_
    intro i hi
    by_cases hin : 4 + i < length
    · rw [overlay, if_pos hin]
      by_contra hne
      exact hcontra ⟨i, hi, hin, hne⟩
    · rw [overlay, if_neg hin]
      exact congrArg (fun j => (Endian.toBe 4 length).getD j 0) (Nat.add_sub_cancel_left 4 i)
  have hwrong : mhdrLength (overlay buffer (wrongLength length) length) ≠ length := by
    intro heq
    have hread : Memory.read (overlay buffer (wrongLength length) length) 4 4 =
        Memory.read (overlay buffer (rightLength length) length) 4 4 :=
      Endian.be_inj (by simp) (heq.trans hright.symm)
    have hlast := Memory.eq_of_read_eq hread (show 3 < 4 by decide)
    rw [overlay, overlay, if_neg (by omega), if_neg (by omega)] at hlast
    exact absurd hlast (by simp [wrongLength])
  have hsame : effect sight [] (overlay buffer (wrongLength length) length) length =
      effect sight [] (overlay buffer (rightLength length) length) length :=
    (h.same [] reached_nil _ (agree_overlay _)).trans
      (h.same [] reached_nil _ (agree_overlay _)).symm
  have houtcome := congrArg Prod.fst hsame
  rw [effect, effect, deviceDataInput_mismatch hpos hle hwrong] at houtcome
  exact outcome_ne_mismatch hpos hle hright hsight (Outcome.eq_rejected houtcome.symm)

/-- A control packet that is handed on fills its header, and is empty on a version 1
device. -/
theorem ParsedFromReceived.control (h : ParsedFromReceived sight buffer length)
    (hle : length ≤ usbMru) (h8 : 8 ≤ length) {wakes : List Sight}
    (hwakes : ∀ w ∈ wakes, w.dev.Reached)
    (hcall : (deviceDataInput sight wakes buffer length).1 =
      dispatchPacket sight.dev.version buffer length)
    (hproto : mhdrProtocol buffer = MuxProtocol.control.number) :
    if sight.dev.version < 2 then length = 8 else 16 ≤ length := by
  by_contra hbad
  obtain ⟨d, hd, hout⟩ := @dispatchPacket_outside _ _ sight.dev.version hle h8 hproto (by
    split <;> rename_i hv
    · rwa [if_pos hv] at hbad
    · rw [if_neg hv] at hbad
      omega)
  exact hout (h.inside wakes hwakes d (hcall.trans hd))

/-- A packet goes through the gate only when it is next in line. -/
theorem passGate_accept {txseq : BitVec 16} {visit : BitVec 16 → BitVec 16 → ℕ → GateOutcome}
    {wakes : List Sight} (hvisit : ∀ rxSeq n, visit rxSeq txseq n = .accept → rxSeq + 1 = txseq)
    (h : (passGate txseq visit sight wakes).1 = .accept) :
    ∃ s ∈ sight :: wakes, s.dev.rxSeq + 1 = txseq := by
  induction wakes generalizing visit sight with
  | nil => exact ⟨sight, List.mem_singleton.mpr rfl, hvisit _ _ h⟩
  | cons woken wakes ih =>
    rw [passGate] at h
    split at h
    · obtain ⟨s, hs, hnext⟩ := ih (fun _ _ => waitLoop_accept) h
      exact ⟨s, List.mem_cons_of_mem _ hs, hnext⟩
    · exact ⟨sight, List.mem_cons_self, hvisit _ _ h⟩

/-- Every `rx_seq` is reached: the peer numbers its packets from the setup packet on. -/
theorem exists_reached (rxSeq : BitVec 16) :
    ∃ dev : MuxDevice, dev.Reached ∧ dev.rxSeq = rxSeq := by
  have hcount : ∀ k : ℕ, ∃ dev : MuxDevice, dev.Reached ∧ 2 ≤ dev.version ∧
      dev.rxSeq + 1 = BitVec.ofNat 16 k := by
    intro k
    induction k with
    | zero =>
      have hnew : MuxDevice.Reached { MuxDevice.new with version := 2 } := .negotiated 2 .new
      exact ⟨_, .sent 512 .setup [] none hnew, by decide, by decide⟩
    | succ k ih =>
      obtain ⟨dev, hdev, hv, hnext⟩ := ih
      -- one more packet, from a sender that is in step
      have hstep : InStep { dev with txSeq := dev.rxSeq + 1 } dev := ⟨hv, hv, rfl, hdev.pktbuf⟩
      have hrecv :=
        @deviceDataInput_frame _ dev .setup (fun _ => 0) [] 16 0 [] hstep rfl (by decide)
      have hone : ∀ s ∈ [Sight.mk dev 0], s.dev.Reached := by
        intro s hs
        obtain rfl := List.mem_singleton.mp hs
        exact hdev
      refine ⟨_, .received (received (fun _ => 0)
        (muxHeader { dev with txSeq := dev.rxSeq + 1 } .setup 16 ++ [])) 16 hone, ?_, ?_⟩ <;>
        rw [hrecv]
      · exact hv
      · rw [hnext, BitVec.ofNat_add]
        rfl
  obtain ⟨dev, hdev, -, hnext⟩ := hcount (rxSeq + 1).toNat
  refine ⟨dev, hdev, ?_⟩
  rw [BitVec.ofNat_toNat, BitVec.setWidth_eq] at hnext
  exact (BitVec.add_left_inj 1).mp hnext

/-- **A packet that is not thrown away at once goes through the gate**, if its receiver
finds the packet next in line when it wakes. -/
theorem exists_passGate_accept {txseq : BitVec 16}
    (h : firstVisit sight.dev.rxSeq txseq sight.rxXfers ≠ .discard) :
    ∃ wakes : List Sight, (∀ w ∈ wakes, w.dev.Reached ∧ w.dev.rxSeq + 1 = txseq) ∧
      (passGate txseq firstVisit sight wakes).1 = .accept := by
  cases hfirst : firstVisit sight.dev.rxSeq txseq sight.rxXfers with
  | accept => exact ⟨[], nofun, hfirst⟩
  | discard => exact absurd hfirst h
  | sleep =>
    obtain ⟨dev, hdev, hrx⟩ := exists_reached (txseq - 1)
    have hnext : dev.rxSeq + 1 = txseq := by rw [hrx, BitVec.sub_add_cancel]
    refine ⟨[⟨dev, 0⟩], ?_, ?_⟩
    · intro w hw
      obtain rfl := List.mem_singleton.mp hw
      exact ⟨hdev, hnext⟩
    · have hnat : (BitVec.ofNat 16 (dev.rxSeq.toNat + 1 + 0)).toNat = txseq.toNat := by
        rw [← hnext, BitVec.toNat_add, BitVec.toNat_ofNat]
        rfl
      have hwait : ¬mustWait dev.rxSeq txseq 0 = true := by
        rw [mustWait, hnat, hnext]
        simp
      simp only [passGate, hfirst, waitLoop, if_neg hwait, afterWait, if_neg (not_not.mpr hnext)]

/-- **The number has to be there**: of two packets that are the same as far as they
have been received, not one alone goes through the gate. -/
theorem ParsedFromReceived.not_accept (h : ParsedFromReceived sight buffer length)
    (hle : length ≤ usbMru) (h8 : 8 ≤ length) (hlen : mhdrLength buffer = length)
    (hv : 2 ≤ sight.dev.version) (hsight : sight.dev.Reached) {b c : ℕ → UInt8}
    (hb : Agree buffer b length) (hc : Agree buffer c length) {wakes : List Sight}
    (hwakes : ∀ w ∈ wakes, w.dev.Reached)
    (haccept : (passGate (mhdrTxSeq b) firstVisit sight wakes).1 = .accept) :
    (passGate (mhdrTxSeq c) firstVisit sight wakes).1 = .accept := by
  have hpos : 1 ≤ length := by omega
  have hsame := congrArg Prod.fst ((h.same wakes hwakes b hb).trans (h.same wakes hwakes c hc).symm)
  rw [effect, effect, deviceDataInput_v2 hpos hle ((hb.mhdrLength h8).symm.trans hlen) hv hsight
    hwakes, deviceDataInput_v2 hpos hle ((hc.mhdrLength h8).symm.trans hlen) hv hsight hwakes]
    at hsame
  revert hsame haccept
  obtain ⟨outcome, dev⟩ := passGate (mhdrTxSeq b) firstVisit sight wakes
  obtain ⟨outcome', dev'⟩ := passGate (mhdrTxSeq c) firstVisit sight wakes
  intro haccept hsame
  obtain rfl : outcome = .accept := haccept
  rcases dispatchPacket_cases sight.dev.version b length with hd | hd | ⟨d, hd⟩ <;>
    simp only [pastGate, hd] at hsame <;> cases outcome' <;> first | rfl | cases hsame

/-- A buffer with a given number in its field `tx_seq`. -/
def txSeqBuffer (txseq : BitVec 16) (i : ℕ) : UInt8 :=
  if i = 12 then .ofNat (txseq.toNat / 256) else .ofNat txseq.toNat

/-- A packet that ends inside `tx_seq` or before it, with a given number behind it. -/
theorem exists_agree_txSeq (h13 : length ≤ 13) (txseq : BitVec 16)
    (hhigh : length = 13 → (buffer 12).toNat = txseq.toNat / 256) :
    ∃ b, Agree buffer b length ∧ mhdrTxSeq b = txseq := by
  refine ⟨overlay buffer (txSeqBuffer txseq) length, agree_overlay _, BitVec.toNat_inj.mp ?_⟩
  have hlt := txseq.isLt
  have hlow : (overlay buffer (txSeqBuffer txseq) length 13).toNat = txseq.toNat % 256 := by
    rw [overlay, if_neg (by omega)]
    exact UInt8.toNat_ofNat' ..
  have hfirst : (overlay buffer (txSeqBuffer txseq) length 12).toNat = txseq.toNat / 256 := by
    rw [overlay]
    split
    · exact hhigh (by omega)
    · exact (UInt8.toNat_ofNat' ..).trans (Nat.mod_eq_of_lt (by omega))
  rw [toNat_mhdrTxSeq, hlow, hfirst]
  omega

/-- Another number with the same first byte. -/
theorem exists_same_high (txseq : BitVec 16) :
    ∃ other : BitVec 16, other ≠ txseq ∧ other.toNat / 256 = txseq.toNat / 256 := by
  have hlt := txseq.isLt
  refine ⟨.ofNat 16 (txseq.toNat / 256 * 256 + (txseq.toNat + 1) % 256), ?_, ?_⟩
  · intro heq
    have hnat := congrArg BitVec.toNat heq
    rw [BitVec.toNat_ofNat] at hnat
    omega
  · rw [BitVec.toNat_ofNat]
    omega

/-- **A packet that ends inside `tx_seq` has to be a duplicate**, and its last byte has
to tell. -/
theorem ParsedFromReceived.discard (h : ParsedFromReceived sight buffer length)
    (hle : length ≤ usbMru) (h8 : 8 ≤ length) (h13 : length ≤ 13)
    (hlen : mhdrLength buffer = length) (hv : 2 ≤ sight.dev.version) (hsight : sight.dev.Reached) :
    length = 13 ∧ (buffer 12).toNat ≠ (sight.dev.rxSeq + 1).toNat / 256 ∧
      firstVisit sight.dev.rxSeq (mhdrTxSeq buffer) sight.rxXfers = .discard := by
  have hthirteen : length = 13 ∧ (buffer 12).toNat ≠ (sight.dev.rxSeq + 1).toNat / 256 := by
    by_contra hopen
    have hhigh : length = 13 → (buffer 12).toNat = (sight.dev.rxSeq + 1).toNat / 256 := by
      intro heq
      by_contra hne
      exact hopen ⟨heq, hne⟩
    -- the bytes behind the packet can make it the next in line, or not
    obtain ⟨other, hother, hsame⟩ := exists_same_high (sight.dev.rxSeq + 1)
    obtain ⟨b, hb, hbtx⟩ := exists_agree_txSeq h13 (sight.dev.rxSeq + 1) hhigh
    obtain ⟨c, hc, hctx⟩ := exists_agree_txSeq h13 other fun heq => (hhigh heq).trans hsame.symm
    have hnext : (passGate (mhdrTxSeq b) firstVisit sight []).1 = .accept := by
      rw [passGate_next hbtx.symm rfl]
    have haccept := h.not_accept hle h8 hlen hv hsight hb hc reached_nil hnext
    obtain ⟨s, hs, heq⟩ := passGate_accept (fun _ _ => firstVisit_accept) haccept
    obtain rfl := List.mem_singleton.mp hs
    exact hother (hctx.symm.trans heq.symm)
  refine ⟨hthirteen.1, hthirteen.2, ?_⟩
  by_contra hdiscard
  obtain ⟨wakes, hwakes, haccept⟩ := exists_passGate_accept hdiscard
  obtain ⟨other, hother, hsame⟩ := exists_same_high (mhdrTxSeq buffer)
  have hhigh : (buffer 12).toNat = (mhdrTxSeq buffer).toNat / 256 := by
    have hlow := (buffer 13).toNat_lt
    rw [toNat_mhdrTxSeq]
    omega
  obtain ⟨c, hc, hctx⟩ := exists_agree_txSeq h13 other fun _ => hhigh.trans hsame.symm
  have haccept' := h.not_accept hle h8 hlen hv hsight (fun _ _ => rfl) hc
    (fun w hw => (hwakes w hw).1) haccept
  obtain ⟨s, hs, heq⟩ := passGate_accept (fun _ _ => firstVisit_accept) haccept'
  rcases List.mem_cons.mp hs with rfl | hs
  · -- the first byte already is not that of the number expected
    apply hthirteen.2
    rw [heq, hctx, hsame, hhigh]
  · exact hother (hctx.symm.trans (heq.symm.trans (hwakes s hs).2))

/-- **Packets that are parsed from what was received are well cut.** -/
theorem ParsedFromReceived.wellCut (h : ParsedFromReceived sight buffer length)
    (hpos : 1 ≤ length) (hle : length ≤ usbMru) (hsight : sight.dev.Reached) :
    WellCut sight buffer length := by
  by_cases hcontra : Contradicts buffer length
  · exact .inl hcontra
  have h8 := h.le_length hpos hle hsight hcontra
  have hlen : mhdrLength buffer = length := by
    refine mhdrLength_eq hle ?_
    intro i hi
    by_contra hne
    exact hcontra ⟨i, hi, by omega, hne⟩
  refine .inr ⟨h8, ?_⟩
  split <;> rename_i hv
  · intro hproto
    have hcontrol := h.control hle h8 reached_nil
      (by rw [deviceDataInput_v1 hpos hle hlen hv hsight]) hproto
    rwa [if_pos hv] at hcontrol
  · rw [Nat.not_lt] at hv
    rcases Nat.lt_or_ge length 14 with h14 | h14
    · obtain ⟨heq, hbyte, hdiscard⟩ := h.discard hle h8 (by omega) hlen hv hsight
      exact .inr ⟨by omega, hdiscard, fun _ => hbyte⟩
    · by_cases hshort : mhdrProtocol buffer = MuxProtocol.control.number → 16 ≤ length
      · exact .inl ⟨h14, hshort⟩
      · obtain ⟨hproto, hless⟩ := Classical.not_imp.mp hshort
        refine .inr ⟨by omega, ?_, fun heq => by omega⟩
        by_contra hdiscard
        -- a packet that is not thrown away gets through in some run, and is too short then
        obtain ⟨wakes, hwakes, haccept⟩ := exists_passGate_accept hdiscard
        have hreached := fun w hw => (hwakes w hw).1
        have hcontrol := h.control hle h8 hreached (by
          rw [deviceDataInput_v2 hpos hle hlen hv hsight hreached]
          revert haccept
          obtain ⟨outcome, dev⟩ := passGate (mhdrTxSeq buffer) firstVisit sight wakes
          rintro rfl
          rfl) hproto
        rw [if_neg (Nat.not_lt.mpr hv)] at hcontrol
        exact hless hcontrol

/-- **Which device packets are parsed only from the bytes received.** For every
reachable state of the device and every packet, `device_data_input` depends only on the
bytes received and hands on nothing but the packet behind its headers if and only if the
packet is well cut. -/
theorem parsed_iff_wellCut (sight : Sight) (buffer : ℕ → UInt8) (length : ℕ)
    (hsight : sight.dev.Reached) (hpos : 1 ≤ length) (hle : length ≤ usbMru) :
    ParsedFromReceived sight buffer length ↔ WellCut sight buffer length :=
  ⟨fun h => h.wellCut hpos hle hsight, fun h => h.parsed hpos hle hsight⟩

/-- A TCP packet of a version 2 device, with a payload of one byte. -/
theorem parsed_iff_wellCut_tcp : ParsedFromReceived ⟨{ MuxDevice.new with version := 2 }, 3⟩
    (received (fun _ => 0xab) ([0, 0, 0, 6, 0, 0, 0, 37] ++ List.replicate 29 0)) 37 :=
  (parsed_iff_wellCut _ _ _ (.negotiated 2 .new) (by decide) (by decide)).mpr
    (.inr ⟨by decide, .inl ⟨by decide, by decide⟩⟩)

/-- **A control packet of a version 1 device**: nine bytes are received, and the payload
of one byte that is handed on is the seventeenth of the buffer. -/
theorem control_payload_outside : MuxDevice.Reached { MuxDevice.new with version := 1 } ∧
    ¬ParsedFromReceived ⟨{ MuxDevice.new with version := 1 }, 3⟩
      (received (fun _ => 0) [0, 0, 0, 1, 0, 0, 0, 9, 7]) 9 := by
  refine ⟨.negotiated 1 .new, ?_⟩
  intro h
  have hinside := h.inside [] reached_nil (.control ⟨16, 1⟩) (by decide)
  exact absurd hinside.2.2 (by decide)

end NotParsed

end Usbmuxd
