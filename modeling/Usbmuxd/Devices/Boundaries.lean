import Usbmuxd.Devices.Packets
import Usbmuxd.Library.ShortPackets

/-!
# Frames on the bus

`USBDevice::usb_send` submits a frame as one transfer, and the USB stack cuts a transfer
into packets of `_wMaxPacketSize` bytes. What tells the device where a frame ends is a
packet that is shorter; so a frame that fills its packets is followed by a transfer of
length zero. This is `ShortPackets.terminate` for frames
(`Usbmuxd.usbSend_eq_terminate`), and the frames are found again in the packets
(`Usbmuxd.frames_recovered`).

A frame whose length does not fit into an `int` is not sent.

What is here is only about the lengths. That a frame is what `send_packet` has made is not used,
nor that the device gives the packets back in the order in which it gets them, which is the
bus's promise. So the result holds for any frames that are not empty, and `send_packet` never
makes an empty one, since a frame has a header. An empty frame would be the one thing that the
device could not see: it is the same as the transfer that ends the frame before.
-/

namespace Usbmuxd

open ShortPackets

/-- `INT_MAX`, as libusb takes the length of a transfer for an `int`. -/
def intMax : ℕ := 2147483647

/-- `USBDevice::usb_send` with its sanity check, the submissions succeeding; `none` when it
throws, and then nothing is submitted. -/
def usbSendChecked (wMaxPacketSize : ℕ) (buf : List UInt8) : Option (List (List UInt8)) :=
  if buf.length ≤ intMax then some (usbSend wMaxPacketSize buf) else none

/-- The transfers that are submitted for frames, one after the other; `none` when a call
throws. -/
def usbSendAll (wMaxPacketSize : ℕ) (frames : List (List UInt8)) : Option (List (List UInt8)) :=
  (frames.mapM (usbSendChecked wMaxPacketSize)).map List.flatten

/-- **`usb_send` terminates a frame** in the way in which the far end finds the end of a
message. -/
theorem usbSend_eq_terminate (wMaxPacketSize : ℕ) (buf : List UInt8) :
    usbSend wMaxPacketSize buf = terminate wMaxPacketSize buf := rfl

/-- What is submitted, if no frame is too long: the transfers of all frames, one after the
other. -/
theorem usbSendAll_of_le {wMaxPacketSize : ℕ} {frames : List (List UInt8)}
    (h : ∀ frame ∈ frames, frame.length ≤ intMax) :
    usbSendAll wMaxPacketSize frames = some (frames.flatMap (terminate wMaxPacketSize)) := by
  induction frames with
  | nil => rfl
  | cons frame frames ih =>
    have hframe := h frame List.mem_cons_self
    have hlater := ih fun frame' hmem => h frame' (List.mem_cons_of_mem _ hmem)
    rw [usbSendAll, Option.map_eq_some_iff] at hlater ⊢
    obtain ⟨transfers, htransfers, hflatten⟩ := hlater
    refine ⟨usbSend wMaxPacketSize frame :: transfers, ?_, ?_⟩
    · rw [List.mapM_cons, usbSendChecked, if_pos hframe, htransfers]
      rfl
    · rw [List.flatten_cons, hflatten, List.flatMap_cons, usbSend_eq_terminate]

/-- A frame that is too long is not sent, and an exception is thrown. -/
theorem le_of_usbSendAll {wMaxPacketSize : ℕ} {frames transfers : List (List UInt8)}
    (h : usbSendAll wMaxPacketSize frames = some transfers) :
    ∀ frame ∈ frames, frame.length ≤ intMax := by
  induction frames generalizing transfers with
  | nil => exact fun frame hmem => absurd hmem List.not_mem_nil
  | cons frame frames ih =>
    rw [usbSendAll, Option.map_eq_some_iff] at h
    obtain ⟨all, hall, -⟩ := h
    rw [List.mapM_cons, usbSendChecked] at hall
    split_ifs at hall with hframe
    · simp only [Option.pure_def, Option.bind_eq_bind, Option.bind_some,
        Option.bind_eq_some_iff] at hall
      obtain ⟨later, hlater, -⟩ := hall
      intro frame' hmem
      rcases List.mem_cons.mp hmem with rfl | hmem
      · exact hframe
      · exact ih (by rw [usbSendAll, hlater]; rfl) frame' hmem
    · cases hall

/-- **The frames are found again.** For frames that are not empty and every packet size, the
calls of `usb_send` go through if no frame is longer than an `int` can say, and in the packets
that the transfers are cut into, with a message ending at the first packet that is not full,
the messages are the frames. -/
theorem frames_recovered {wMaxPacketSize : ℕ} (hsize : 1 ≤ wMaxPacketSize)
    {frames : List (List UInt8)} (hframes : ∀ frame ∈ frames, 1 ≤ frame.length) :
    ((∃ transfers, usbSendAll wMaxPacketSize frames = some transfers) ↔
      ∀ frame ∈ frames, frame.length ≤ intMax) ∧
    ∀ transfers, usbSendAll wMaxPacketSize frames = some transfers →
      messages wMaxPacketSize [] (transfers.flatMap (cut wMaxPacketSize)) = (frames, []) := by
  refine ⟨⟨fun ⟨_, h⟩ => le_of_usbSendAll h, fun h => ⟨_, usbSendAll_of_le h⟩⟩, ?_⟩
  intro transfers h
  have hall := @usbSendAll_of_le wMaxPacketSize _ (le_of_usbSendAll h)
  obtain rfl := Option.some.inj (hall.symm.trans h)
  exact messages_flatMap hsize fun frame hmem =>
    List.length_pos_iff.mp (hframes frame hmem)

/-- Frames of one, four and two bytes. For packets of two bytes, two of them need an empty
transfer. -/
def shortAndEven : List (List UInt8) := [[1], [2, 3, 4, 5], [6, 7]]

/-- In packets of two bytes, the second and the third are followed by an empty packet. -/
theorem frames_recovered_even :
    usbSendAll 2 shortAndEven = some [[1], [2, 3, 4, 5], [], [6, 7], []] ∧
      messages 2 [] (([[1], [2, 3, 4, 5], [], [6, 7], []] : List (List UInt8)).flatMap (cut 2)) =
        (shortAndEven, []) :=
  ⟨by decide, (@frames_recovered 2 (by decide) shortAndEven (by decide)).2 _ (by decide)⟩

end Usbmuxd
