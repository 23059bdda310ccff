import Mathlib.Data.List.Basic

/-!
# Messages that end with a short packet

A bus carries packets of at most `m` items and knows nothing of messages. The receiver
takes a message to end at the first packet that is not full. What is transferred at once is
cut into full packets and a shorter one with the rest, if there is a rest
(`ShortPackets.cut`), so a transfer that fills its packets does not end a message: it is
followed by an empty transfer, which makes an empty packet (`ShortPackets.terminate`). With
that, the messages are found again in the packets, whatever follows them
(`ShortPackets.messages_terminate`).

Nothing is assumed of the items, and the messages may be of any length but zero. An empty
message is the exception because of what the rule is: a packet that is not full ends a message,
so an empty packet ends one too, and whether this is the end of a message before or a message of
its own cannot be seen. The receiver is a function of the packets alone
(`ShortPackets.messages`): it does not know where one transfer ends and the next begins, and
what it has gathered and not yet given out is the second part of its result.
-/

namespace ShortPackets

variable {α : Type} (m : ℕ)

/-- The packets of a transfer that has items left, for at most `fuel` of them. -/
def packets : ℕ → List α → List (List α)
  | 0, _ => []
  | fuel + 1, transfer =>
      if transfer = [] then [] else transfer.take m :: packets fuel (transfer.drop m)

/-- **The packets of a transfer**: full ones, and a shorter one if the length is not a
multiple of the packet size; an empty transfer is one empty packet. -/
def cut (transfer : List α) : List (List α) :=
  if transfer = [] then [[]] else packets m transfer.length transfer

/-- **The messages in a sequence of packets**, each ended by the first packet that is not
full, and what there is of the last one; `begun` is what there is of the first. -/
def messages (begun : List α) : List (List α) → List (List α) × List α
  | [] => ([], begun)
  | p :: ps =>
      if p.length < m then ((begun ++ p) :: (messages [] ps).1, (messages [] ps).2)
      else messages (begun ++ p) ps

/-- **The transfers of a message**: one with all of it, and an empty one behind it if it
fills its packets. -/
def terminate (message : List α) : List (List α) :=
  message :: if message.length % m = 0 ∧ m ≤ message.length then [[]] else []

variable {m} {begun transfer message : List α} {ps : List (List α)} {fuel : ℕ}

/-- There is nothing left to cut, and so there are no more packets. -/
theorem packets_nil : packets m fuel ([] : List α) = [] := by
  cases fuel with
  | zero => rfl
  | succ fuel => rw [packets, if_pos rfl]

/-- **The packets of a transfer** go on with the message, and end it if the last is short. -/
theorem messages_packets (hm : 1 ≤ m) (hne : transfer ≠ []) (hfuel : transfer.length ≤ fuel) :
    messages m begun (packets m fuel transfer ++ ps) =
      if transfer.length % m = 0 then messages m (begun ++ transfer) ps
      else ((begun ++ transfer) :: (messages m [] ps).1, (messages m [] ps).2) := by
  induction fuel generalizing begun transfer with
  | zero => exact absurd (List.length_eq_zero_iff.mp (Nat.le_zero.mp hfuel)) hne
  | succ fuel ih =>
    have hpos : 0 < transfer.length := List.length_pos_iff.mpr hne
    rw [packets, if_neg hne, List.cons_append, messages, List.length_take]
    rcases Nat.lt_trichotomy transfer.length m with hlt | heq | hgt
    · -- a short packet, and nothing behind it
      have hdrop : transfer.drop m = [] := List.drop_eq_nil_of_le (Nat.le_of_lt hlt)
      rw [if_pos (by omega), Nat.mod_eq_of_lt hlt, if_neg (by omega), hdrop, packets_nil,
        List.take_of_length_le (Nat.le_of_lt hlt), List.nil_append]
    · -- a full packet, and nothing behind it
      have hdrop : transfer.drop m = [] := List.drop_eq_nil_of_le (Nat.le_of_eq heq)
      rw [if_neg (by omega), heq, Nat.mod_self, if_pos rfl, hdrop, packets_nil,
        List.take_of_length_le (Nat.le_of_eq heq), List.nil_append]
    · -- a full packet, and the rest of the transfer
      have hrest : transfer.drop m ≠ [] := by
        rw [Ne, List.drop_eq_nil_iff]
        omega
      have hlen : (transfer.drop m).length = transfer.length - m := List.length_drop
      have hmod : (transfer.length - m) % m = transfer.length % m :=
        (Nat.mod_eq_sub_mod (Nat.le_of_lt hgt)).symm
      rw [if_neg (by omega), ih hrest (by omega), hlen, hmod, List.append_assoc,
        List.take_append_drop]

/-- A transfer with something in it. Whether its last packet is full decides if the message goes
on with the next transfer. -/
theorem messages_cut (hm : 1 ≤ m) (hne : transfer ≠ []) :
    messages m begun (cut m transfer ++ ps) =
      if transfer.length % m = 0 then messages m (begun ++ transfer) ps
      else ((begun ++ transfer) :: (messages m [] ps).1, (messages m [] ps).2) := by
  rw [cut, if_neg hne]
  exact messages_packets hm hne (Nat.le_refl _)

/-- An empty transfer ends the message, and adds nothing to it. -/
theorem messages_cut_nil (hm : 1 ≤ m) : messages m begun (cut m [] ++ ps) =
    (begun :: (messages m [] ps).1, (messages m [] ps).2) := by
  have hpos : 0 < m := by omega
  rw [cut, if_pos rfl, List.cons_append, messages, List.length_nil, if_pos hpos, List.append_nil,
    List.nil_append]

/-- **A message is found again in the packets of its transfers**, whatever packets follow. -/
theorem messages_terminate (hm : 1 ≤ m) (hne : message ≠ []) :
    messages m [] ((terminate m message).flatMap (cut m) ++ ps) =
      (message :: (messages m [] ps).1, (messages m [] ps).2) := by
  have hpos : 0 < message.length := List.length_pos_iff.mpr hne
  rw [terminate, List.flatMap_cons, List.append_assoc, messages_cut hm hne, List.nil_append]
  by_cases hmod : message.length % m = 0
  · -- the packets are full, and the empty transfer ends the message
    have hle : m ≤ message.length := Nat.le_of_dvd hpos (Nat.dvd_of_mod_eq_zero hmod)
    rw [if_pos hmod, if_pos ⟨hmod, hle⟩, List.flatMap_singleton, messages_cut_nil hm]
  · rw [if_neg hmod, if_neg fun h => hmod h.1, List.flatMap_nil, List.nil_append]

/-- **Messages are found again**, in their order and with nothing left over. This is what the
empty transfers are for. -/
theorem messages_flatMap (hm : 1 ≤ m) {ms : List (List α)} (hne : ∀ message ∈ ms, message ≠ []) :
    messages m [] ((ms.flatMap (terminate m)).flatMap (cut m)) = (ms, []) := by
  induction ms with
  | nil => rfl
  | cons message ms ih =>
    rw [List.flatMap_cons, List.flatMap_append,
      messages_terminate hm (hne message List.mem_cons_self),
      ih fun message h => hne message (List.mem_cons_of_mem _ h)]

end ShortPackets
