import Mathlib.Data.List.Basic
import Usbmuxd.Library.Endian

/-!
# How a client's requests are cut out of its stream

A client talks to the daemon over a stream socket, in requests that begin with a
`usbmuxd_header` whose first word is the length of the whole request. Each run of
`Client::loopEvent` starts with an empty buffer, lets `recv_data` read until the
buffer holds a request, and hands the buffer to `processData`.

`recv` returns what has arrived, up to the room there is. The stream is therefore
given as the list of pieces in which it arrives (`Usbmuxd.Client.Socket`); a piece
that does not fit stays in part for the next call.

## What goes wrong

Nothing is kept from one run to the next. Whatever `recv` returned beyond the end
of the request is lost with the buffer, and a header that takes more than two
calls to arrive ends the connection, as does a request that fills the buffer to
the last byte in anything but the calls that read its header. So framing works
exactly when the requests arrive *apart* (`Usbmuxd.Client.Apart`).
-/

namespace Usbmuxd

namespace Client

/-- `Client::bufsize`, the room for a request. It is not checked that a request fits before it
is read. -/
def bufsize : ℕ := 0x20000

/-- `sizeof(usbmuxd_header)`. -/
def sizeofHeader : ℕ := 16

/-- `hdr->length`, the first word of the header. -/
def hdrLength (buf : List UInt8) : ℕ := Endian.le (buf.take 4)

/-! ### The socket -/

/-- A piece of the stream, as it arrives: never empty, as `recv` would return 0 only at the end
of the stream. -/
structure Piece where
  /-- The bytes of the piece. -/
  bytes : List UInt8
  /-- There is at least one. -/
  ne_nil : bytes ≠ []
  deriving DecidableEq

/-- The bytes of several pieces. -/
def flat (ps : List Piece) : List UInt8 := (ps.map Piece.bytes).flatten

@[simp] theorem flat_nil : flat [] = [] := rfl

@[simp] theorem flat_cons (p : Piece) (ps : List Piece) : flat (p :: ps) = p.bytes ++ flat ps := rfl

@[simp] theorem flat_append (ps qs : List Piece) : flat (ps ++ qs) = flat ps ++ flat qs := by
  simp [flat]

theorem Piece.length_pos (p : Piece) : 0 < p.bytes.length := List.length_pos_of_ne_nil p.ne_nil

theorem length_le_flat (ps : List Piece) : ps.length ≤ (flat ps).length := by
  induction ps with
  | nil => exact Nat.le_refl 0
  | cons p ps ih =>
    have hpos := p.length_pos
    simp only [flat_cons, List.length_cons, List.length_append]
    omega

/-- Two pieces that arrive as one, because the second came before the first was read. -/
def Piece.append (p q : Piece) : Piece where
  bytes := p.bytes ++ q.bytes
  ne_nil := by simp [p.ne_nil]

/-- What a client's socket still has to deliver. What the pieces are depends on the network and
on when the daemon reads, and on neither the client has any influence. -/
structure Socket where
  /-- The pieces in which the stream arrives. -/
  pieces : List Piece
  /-- Whether the client closes the connection after that, or `recv` fails. -/
  hangsUp : Bool
  deriving DecidableEq

/-- What is left of a piece of which `recv` took `n` bytes: it is the next piece then, if there
is anything left. -/
def Piece.rest (p : Piece) (n : ℕ) : List Piece :=
  if h : n < p.bytes.length then [⟨p.bytes.drop n, by simpa using h⟩] else []

/-! ### The functions of `Client.cpp` -/

/-- What `readData` and `recv_data` throw. All of these end the connection, as `loopEvent` does
not catch them. -/
inductive Error
  /-- “out of bufspace for client”. -/
  | outOfBufspace
  /-- `MUXException_client_disconnected`. -/
  | clientDisconnected
  /-- `assure(got > 0)`. -/
  | recvFailed
  /-- “message is too short for header”. -/
  | tooShort
  /-- “no more space to read”. -/
  | noMoreSpace
  deriving DecidableEq

/-- `Client::readData`. The buffer is the list of the `_recvBytesCnt` bytes that
have been received into it. -/
def readData (buf : List UInt8) (sock : Socket) : Except Error (List UInt8 × Socket) :=
  let readsize := bufsize - buf.length
  if readsize = 0 then .error .outOfBufspace
  else match sock.pieces with
    | [] => .error (if sock.hangsUp then .clientDisconnected else .recvFailed)
    | p :: ps => .ok (buf ++ p.bytes.take readsize, { sock with pieces := p.rest readsize ++ ps })

/-- The `while` loop of `recv_data`; `none` when the fuel does not suffice. -/
def fill : ℕ → List UInt8 → Socket → Option (Except Error (List UInt8 × Socket))
  | 0, _, _ => none
  | fuel + 1, buf, sock =>
    -- `hdr->length` is read from the buffer again in every round
    if buf.length < hdrLength buf then
      match readData buf sock with
      | .error e => some (.error e)
      | .ok (buf', sock') =>
        if buf'.length < bufsize then fill fuel buf' sock' else some (.error .noMoreSpace)
    else some (.ok (buf, sock))

/-- `recv_data` up to the call of `processData`. Every round of the loop takes at
least one byte, so that the number of bytes still to come is fuel enough. -/
def gather (sock : Socket) : Option (Except Error (List UInt8 × Socket)) :=
  match readData [] sock with
  | .error e => some (.error e)
  | .ok (buf, sock') =>
    if buf.length < sizeofHeader then
      match readData buf sock' with
      | .error e => some (.error e)
      -- after the second call the header must be there
      | .ok (buf', sock'') =>
        if sizeofHeader ≤ buf'.length then fill ((flat sock.pieces).length + 1) buf' sock''
        else some (.error .tooShort)
    else fill ((flat sock.pieces).length + 1) buf sock'

/-- A call of `processData`: the length in the header, and that many bytes of the buffer.
Whether there are more bytes in it cannot be seen from this. -/
structure Call where
  /-- `hdr->length`. -/
  length : ℕ
  /-- The header and what follows it, up to that length. -/
  bytes : List UInt8
  deriving DecidableEq

/-- The call of `processData` that `recv_data` makes with a buffer, which may have received more
than the request. -/
def processData (buf : List UInt8) : Call := ⟨hdrLength buf, buf.take (hdrLength buf)⟩

/-- One run of `Client::loopEvent`, which starts with `_recvBytesCnt = 0`: the call
of `processData` it makes, and the socket after it. -/
def loopEvent (sock : Socket) : Option (Except Error (Call × Socket)) :=
  (gather sock).map (Except.map fun r => (processData r.1, r.2))

/-- `n` runs of `loopEvent`, as long as none of them throws. Nothing but the socket goes from
one to the next. -/
def loopEvents : ℕ → Socket → Option (Except Error (List Call × Socket))
  | 0, sock => some (.ok ([], sock))
  | n + 1, sock =>
    match loopEvent sock with
    | none => none
    | some (.error e) => some (.error e)
    | some (.ok (call, sock')) =>
      (loopEvents n sock').map (Except.map fun r => (call :: r.1, r.2))

/-! ### What one read does -/

section ReadData

variable {buf buf' : List UInt8} {sock sock' : Socket}

/-- Two successive pieces may as well be one, if the first of them fills the
buffer. -/
theorem readData_append {a b : Piece} {ps : List Piece} {hangsUp : Bool}
    (h : buf.length + a.bytes.length = bufsize) :
    readData buf ⟨a.append b :: ps, hangsUp⟩ = readData buf ⟨a :: b :: ps, hangsUp⟩ := by
  have hroom : bufsize - buf.length = a.bytes.length := by omega
  have hb : (a.append b).rest a.bytes.length = [b] := by
    simp [Piece.rest, Piece.append, b.length_pos]
  have ha : a.rest a.bytes.length = [] := by simp [Piece.rest]
  simp only [readData, hroom, hb, ha]
  simp [Piece.append]

/-- A piece that fits is read whole, and the next read begins with the next piece. -/
theorem readData_cons {p : Piece} {ps : List Piece} {hangsUp : Bool}
    (h : buf.length + p.bytes.length ≤ bufsize) :
    readData buf ⟨p :: ps, hangsUp⟩ = .ok (buf ++ p.bytes, ⟨ps, hangsUp⟩) := by
  have hpos := p.length_pos
  have hle : p.bytes.length ≤ bufsize - buf.length := by omega
  have hrest : p.rest (bufsize - buf.length) = [] := by simp [Piece.rest, hle]
  simp only [readData, hrest, List.take_of_length_le hle]
  exact if_neg (by omega)

/-- **What a successful read took**: the first piece, or as much of it as filled
the buffer. -/
theorem readData_ok (h : readData buf sock = .ok (buf', sock')) :
    ∃ a : Piece, buf' = buf ++ a.bytes ∧ sock'.hangsUp = sock.hangsUp ∧
      (sock.pieces = a :: sock'.pieces ∨
        buf'.length = bufsize ∧ ∃ b ps, sock'.pieces = b :: ps ∧
          sock.pieces = a.append b :: ps) := by
  obtain ⟨pieces, hangsUp⟩ := sock
  simp only [readData] at h
  split at h
  · cases h
  rename_i hroom
  cases pieces with
  | nil => cases h
  | cons p ps =>
    simp only [Except.ok.injEq, Prod.mk.injEq] at h
    obtain ⟨rfl, rfl⟩ := h
    by_cases hp : bufsize - buf.length < p.bytes.length
    · -- the piece does not fit: it is cut where the buffer ends
      refine ⟨⟨p.bytes.take (bufsize - buf.length), by simp [hroom, p.ne_nil]⟩, rfl, rfl, .inr ?_⟩
      refine ⟨by simp; omega, ⟨p.bytes.drop (bufsize - buf.length), by simpa using hp⟩, ps, ?_, ?_⟩
      · simp [Piece.rest, hp]
      · simp [Piece.append]
    · refine ⟨p, ?_, rfl, .inl ?_⟩
      · rw [List.take_of_length_le (by omega)]
      · simp [Piece.rest, hp]

/-- A read uses up part of the stream, so that there are no more reads than there are bytes. -/
theorem readData_shorter (h : readData buf sock = .ok (buf', sock')) :
    (flat sock'.pieces).length < (flat sock.pieces).length := by
  obtain ⟨a, -, -, htook⟩ := readData_ok h
  have hpos := a.length_pos
  rcases htook with hp | ⟨-, b, ps, hp', hp⟩
  · rw [hp]
    simpa using hpos
  · rw [hp, hp']
    simpa [Piece.append] using hpos

end ReadData

/-! ### What the loop does -/

section Fill

variable {buf buf' : List UInt8} {sock sock' : Socket} {fuel : ℕ}

/-- The loop reads at least one byte in every round, and so it ends with the stream at the
latest. -/
theorem fill_ne_none (h : (flat sock.pieces).length < fuel) : fill fuel buf sock ≠ none := by
  induction fuel generalizing buf sock with
  | zero => exact absurd h (Nat.not_lt_zero _)
  | succ fuel ih =>
    rw [fill]
    split
    · split
      · nofun
      · rename_i hread
        split
        · have hless := readData_shorter hread
          exact ih (by omega)
        · nofun
    · nofun

/-- Once there are four bytes in the buffer, the length in the header is fixed, and what is read
after them does not change it. -/
theorem hdrLength_append (h : 4 ≤ buf.length) (bytes : List UInt8) :
    hdrLength (buf ++ bytes) = hdrLength buf := by
  rw [hdrLength, hdrLength, List.take_append_of_le_length h]

/-- **The loop reads the rest of a request**, if that arrives in pieces of its own
and there is room left behind it. -/
theorem fill_pieces {ps qs : List Piece} {hangsUp : Bool} (hbuf : 4 ≤ buf.length)
    (hlen : hdrLength buf = (buf ++ flat ps).length)
    (hroom : ps = [] ∨ (buf ++ flat ps).length < bufsize) (hfuel : ps.length < fuel) :
    fill fuel buf ⟨ps ++ qs, hangsUp⟩ = some (.ok (buf ++ flat ps, ⟨qs, hangsUp⟩)) := by
  induction ps generalizing buf fuel with
  | nil =>
    obtain ⟨fuel, rfl⟩ := Nat.exists_eq_succ_of_ne_zero (Nat.ne_of_gt hfuel)
    have hdone : ¬buf.length < hdrLength buf := by simp [hlen]
    rw [fill, if_neg hdone]
    simp
  | cons p ps ih =>
    obtain ⟨fuel, rfl⟩ := Nat.exists_eq_succ_of_ne_zero (Nat.ne_of_gt (Nat.zero_lt_of_lt hfuel))
    have hpos := p.length_pos
    have hroom' : (buf ++ flat (p :: ps)).length < bufsize := hroom.resolve_left (by simp)
    simp only [flat_cons, List.length_append] at hlen hroom'
    have hmore : buf.length < hdrLength buf := by omega
    have hfits : (buf ++ p.bytes).length < bufsize := by
      rw [List.length_append]
      omega
    have hread : readData buf ⟨p :: (ps ++ qs), hangsUp⟩ =
        .ok (buf ++ p.bytes, ⟨ps ++ qs, hangsUp⟩) := readData_cons (by omega)
    rw [fill, if_pos hmore, List.cons_append, hread]
    dsimp only
    -- the loop goes on with a longer buffer and the same length field
    rw [if_pos hfits, ih (by rw [List.length_append]; omega), List.append_assoc, flat_cons]
    · rw [hdrLength_append hbuf, hlen]
      simp only [List.length_append]
      omega
    · right
      simp only [List.length_append]
      omega
    · exact Nat.lt_of_succ_lt_succ hfuel

/-- **What the loop took**: whole pieces only, none at all if they fill the
buffer, and until there are as many bytes as the header says. -/
theorem fill_ok (h : fill fuel buf sock = some (.ok (buf', sock'))) :
    hdrLength buf' ≤ buf'.length ∧ sock'.hangsUp = sock.hangsUp ∧
      ∃ ps, buf' = buf ++ flat ps ∧ sock.pieces = ps ++ sock'.pieces ∧
        (ps = [] ∨ buf'.length < bufsize) := by
  induction fuel generalizing buf sock with
  | zero => cases h
  | succ fuel ih =>
    rw [fill] at h
    split at h
    · split at h
      · cases h
      rename_i buf₁ sock₁ hread
      split at h
      · rename_i hfits
        obtain ⟨hdone, hup, ps, rfl, hps, hroom⟩ := ih h
        obtain ⟨a, rfl, hup₁, htook⟩ := readData_ok hread
        -- a piece that is cut fills the buffer, and the loop ends with an error
        have hp := htook.resolve_right (fun hcut => absurd hcut.1 (Nat.ne_of_lt hfits))
        refine ⟨hdone, hup.trans hup₁, a :: ps, by simp, by rw [hp, hps]; rfl, .inr ?_⟩
        rcases hroom with rfl | hroom
        · simpa using hfits
        · exact hroom
      · cases h
    · rename_i hdone
      obtain ⟨rfl, rfl⟩ : buf = buf' ∧ sock = sock' := by simpa using h
      exact ⟨Nat.le_of_not_lt hdone, rfl, [], by simp, rfl, .inl rfl⟩

end Fill

/-! ### Requests that arrive apart -/

/-- How many pieces are read before `recv_data` looks at the header: two if the first has less
than a header, and never more. -/
def headerPieces (ps : List Piece) : ℕ :=
  if (flat (ps.take 1)).length < sizeofHeader then 2 else 1

/-- **The pieces are read as one request**: its header is there after two of them,
and if it fills the buffer, nothing but these is left to read. -/
structure Whole (bytes : List UInt8) (ps : List Piece) : Prop where
  /-- The pieces hold the request and nothing else. -/
  flat_eq : flat ps = bytes
  /-- The first two of them hold the header. -/
  header : sizeofHeader ≤ (flat (ps.take 2)).length
  /-- A request of `bufsize` bytes is complete when the header is looked at. -/
  room : bytes.length = bufsize → ps.length ≤ headerPieces ps

section Gather

variable {bytes : List UInt8} {ps qs : List Piece} {sock sock' : Socket} {hangsUp : Bool}

/-- Framing a request does not run out of fuel: the bytes of the stream are enough. -/
theorem gather_ne_none (sock : Socket) : gather sock ≠ none := by
  rw [gather]
  split
  · nofun
  rename_i hread
  -- what is left of the stream is the measure
  have hless := readData_shorter hread
  split
  · split
    · nofun
    rename_i hread'
    have hless' := readData_shorter hread'
    split
    · exact fill_ne_none (by omega)
    · nofun
  · exact fill_ne_none (by omega)

/-- A request in pieces of its own is gathered, and what comes after it stays in the socket. -/
theorem gather_whole (h : Whole bytes ps) (hlen : hdrLength bytes = bytes.length)
    (hle : bytes.length ≤ bufsize) :
    gather ⟨ps ++ qs, hangsUp⟩ = some (.ok (bytes, ⟨qs, hangsUp⟩)) := by
  obtain ⟨rfl, hheader, hroom⟩ := h
  cases ps with
  | nil => exact absurd hheader (by decide)
  | cons p ps =>
    simp only [headerPieces, List.take_succ_cons, List.take_zero, flat_cons, flat_nil,
      List.append_nil, List.length_cons] at hroom hheader
    have hfuel : ps.length < (flat (p :: (ps ++ qs))).length + 1 := by
      have hcount := length_le_flat (p :: (ps ++ qs))
      simp only [List.length_cons, List.length_append] at hcount
      omega
    have hfirst : readData [] ⟨p :: (ps ++ qs), hangsUp⟩ = .ok (p.bytes, ⟨ps ++ qs, hangsUp⟩) := by
      simp only [flat_cons, List.length_append] at hle
      rw [readData_cons (by simp only [List.length_nil]; omega), List.nil_append]
    rw [gather, List.cons_append, hfirst]
    dsimp only
    split
    · rename_i hshort
      rw [if_pos hshort] at hroom
      -- the header is not there yet: a second piece is read before the loop
      cases ps with
      | nil =>
        simp only [List.take_nil, flat_nil, List.append_nil] at hheader
        omega
      | cons q ps =>
        simp only [List.take_succ_cons, List.take_zero, flat_cons, flat_nil, List.append_nil,
          List.length_cons, ← List.append_assoc] at hroom hheader hlen hle
        have hsecond : readData p.bytes ⟨q :: (ps ++ qs), hangsUp⟩ =
            .ok (p.bytes ++ q.bytes, ⟨ps ++ qs, hangsUp⟩) := by
          simp only [List.length_append] at hle
          exact readData_cons (by omega)
        rw [List.cons_append, hsecond]
        dsimp only
        rw [if_pos hheader, fill_pieces (Nat.le_trans (by decide) hheader)]
        · rw [flat_cons, flat_cons, List.append_assoc]
        · rw [← hlen, hdrLength_append (Nat.le_trans (by decide) hheader)]
        · rcases Nat.lt_or_eq_of_le hle with hlt | heq
          · exact .inr hlt
          · have hnone := hroom heq
            exact .inl (List.length_eq_zero_iff.mp (by omega))
        · simp only [List.length_cons, List.cons_append] at hfuel ⊢
          omega
    · rename_i hlong
      rw [if_neg hlong] at hroom
      have hfour : 4 ≤ p.bytes.length := Nat.le_trans (by decide) (Nat.le_of_not_lt hlong)
      rw [fill_pieces hfour _ _ hfuel, flat_cons]
      · rw [← flat_cons, ← hlen, flat_cons, hdrLength_append hfour]
      · rcases Nat.lt_or_eq_of_le hle with hlt | heq
        · exact .inr hlt
        · have hnone := hroom heq
          exact .inl (List.length_eq_zero_iff.mp (by omega))

/-- Cutting a piece where it fills the buffer makes no difference, since `recv` has no room for
more. -/
theorem gather_append {a b : Piece} (h : Whole bytes (ps ++ [a])) (hfull : bytes.length = bufsize) :
    gather ⟨ps ++ a.append b :: qs, hangsUp⟩ = gather ⟨(ps ++ [a]) ++ b :: qs, hangsUp⟩ := by
  obtain ⟨rfl, hheader, hroom⟩ := h
  have hcount := hroom hfull
  have hflat : flat (ps ++ a.append b :: qs) = flat ((ps ++ [a]) ++ b :: qs) := by
    simp [Piece.append]
  simp only [flat_append, flat_cons, flat_nil, List.append_nil, List.length_append] at hfull
  cases ps with
  | nil =>
    rw [gather, gather, hflat]
    simp only [List.nil_append, List.cons_append]
    rw [readData_append (by simpa using hfull)]
  | cons p ps =>
    -- two pieces at least, so that exactly two of them bring the header
    simp only [headerPieces, List.cons_append, List.take_succ_cons, List.take_zero, flat_cons,
      flat_nil, List.append_nil, List.length_cons, List.length_append, List.length_nil] at hcount
    split at hcount
    · rename_i hshort
      obtain rfl : ps = [] := List.length_eq_zero_iff.mp (by omega)
      simp only [flat_cons, flat_nil, List.append_nil] at hfull
      have hfirst : ∀ ts, readData [] ⟨p :: ts, hangsUp⟩ = .ok (p.bytes, ⟨ts, hangsUp⟩) := by
        intro ts
        rw [readData_cons (by simp only [List.length_nil]; omega), List.nil_append]
      rw [gather, gather, hflat]
      simp only [List.cons_append, List.nil_append, hfirst]
      rw [if_pos hshort, if_pos hshort, readData_append hfull]
    · omega

/-- **What `recv_data` takes from the socket**: whole pieces, or all but the end
of a piece that does not fit into the buffer. -/
theorem gather_ok (h : gather sock = some (.ok (bytes, sock'))) :
    hdrLength bytes ≤ bytes.length ∧ sock'.hangsUp = sock.hangsUp ∧
      ∃ ps, Whole bytes ps ∧
        (sock.pieces = ps ++ sock'.pieces ∨
          bytes.length = bufsize ∧ ∃ os a b qs, ps = os ++ [a] ∧ sock'.pieces = b :: qs ∧
            sock.pieces = os ++ a.append b :: qs) := by
  rw [gather] at h
  split at h
  · cases h
  rename_i buf sock₁ hread
  obtain ⟨p, rfl, hup₁, htook₁⟩ := readData_ok hread
  rw [List.nil_append] at h htook₁
  split at h
  · rename_i hshort
    split at h
    · cases h
    rename_i buf' sock₂ hread'
    split at h
    · rename_i hlong
      obtain ⟨q, rfl, hup₂, htook₂⟩ := readData_ok hread'
      obtain ⟨hdone, hup, ps, rfl, hps, hroom⟩ := fill_ok h
      have hp := htook₁.resolve_right fun hcut => absurd (hcut.1 ▸ hshort) (by decide)
      refine ⟨hdone, (hup.trans hup₂).trans hup₁, p :: q :: ps, ⟨?_, ?_, ?_⟩, ?_⟩
      · simp
      · simpa using hlong
      · intro hfull
        obtain rfl : ps = [] := hroom.resolve_right (by omega)
        simp [headerPieces, hshort]
      · rcases htook₂ with hq | ⟨hfull, b, qs, hb, hq⟩
        · left
          rw [hp, hq, hps]
          rfl
        · right
          obtain rfl : ps = [] := hroom.resolve_right (by
            simp only [List.length_append] at hfull ⊢
            omega)
          refine ⟨by simpa using hfull, [p], q, b, qs, rfl, ?_, by rw [hp, hq]; rfl⟩
          simpa [hb] using hps.symm
    · cases h
  · rename_i hlong
    -- the header came with the first piece
    obtain ⟨hdone, hup, ps, rfl, hps, hroom⟩ := fill_ok h
    refine ⟨hdone, hup.trans hup₁, p :: ps, ⟨?_, ?_, ?_⟩, ?_⟩
    · simp
    · simp only [List.take_succ_cons, flat_cons, List.length_append]
      omega
    · intro hfull
      obtain rfl : ps = [] := hroom.resolve_right (by omega)
      simp [headerPieces, hlong]
    · rcases htook₁ with hp | ⟨hfull, b, qs, hb, hp⟩
      · left
        rw [hp, hps]
        rfl
      · right
        obtain rfl : ps = [] := hroom.resolve_right (by
          simp only [List.length_append] at hfull ⊢
          omega)
        refine ⟨by simpa using hfull, [], p, b, qs, rfl, ?_, by rw [hp]; rfl⟩
        simpa [hb] using hps.symm

/-- No byte is lost between the socket and the buffer. What is lost is lost later, with the
buffer. -/
theorem gather_conserves (h : gather sock = some (.ok (bytes, sock'))) :
    flat sock.pieces = bytes ++ flat sock'.pieces := by
  obtain ⟨-, -, ps, ⟨rfl, -, -⟩, hp | ⟨-, os, a, b, qs, rfl, hb, hp⟩⟩ := gather_ok h
  · rw [hp, flat_append]
  · rw [hp, hb]
    simp [Piece.append]

end Gather

/-- A request a client may send: it has a header, which gives its length, and it fits into the
buffer. -/
structure Request where
  /-- The header and what follows it. -/
  bytes : List UInt8
  /-- The header gives the length. -/
  hdrLength_eq : hdrLength bytes = bytes.length
  /-- There is a header. -/
  le_length : sizeofHeader ≤ bytes.length
  /-- The request fits into the buffer. -/
  length_le : bytes.length ≤ bufsize

/-- The call of `processData` a request asks for, with nothing from before or after it. -/
def Request.call (r : Request) : Call := ⟨r.bytes.length, r.bytes⟩

/-- The stream of several requests. -/
def stream (rs : List Request) : List UInt8 := (rs.map Request.bytes).flatten

@[simp] theorem stream_cons (r : Request) (rs : List Request) :
    stream (r :: rs) = r.bytes ++ stream rs := rfl

/-- **The requests arrive apart**: each in pieces that are read as one request. A
piece may go on past a request only if that fills the buffer up to its last byte,
where `recv` stops. -/
inductive Apart : List Request → List Piece → Prop
  /-- Nothing is sent. -/
  | nil : Apart [] []
  /-- The next request comes in pieces of its own. -/
  | whole {r : Request} {rs : List Request} {ps qs : List Piece} :
    Whole r.bytes ps → Apart rs qs → Apart (r :: rs) (ps ++ qs)
  /-- The next request fills the buffer, and its last piece goes on. -/
  | cut {r : Request} {rs : List Request} {ps qs : List Piece} {a b : Piece} :
    r.bytes.length = bufsize → Whole r.bytes (ps ++ [a]) → Apart rs (b :: qs) →
      Apart (r :: rs) (ps ++ a.append b :: qs)

/-- **The stream is framed**: the runs of `loopEvent` hand each request to
`processData`, in order and complete, and nothing is left. -/
def Framed (rs : List Request) (sock : Socket) : Prop :=
  loopEvents rs.length sock = some (.ok (rs.map Request.call, ⟨[], sock.hangsUp⟩))

instance (rs : List Request) (sock : Socket) : Decidable (Framed rs sock) :=
  inferInstanceAs (Decidable (loopEvents rs.length sock = _))

section Framing

variable {r : Request} {rs : List Request} {ps : List Piece} {sock sock' : Socket}
  {calls : List Call} {n : ℕ}

theorem processData_request (r : Request) : processData r.bytes = r.call := by
  rw [processData, r.hdrLength_eq, List.take_length, Request.call]

theorem loopEvent_of_gather {bytes : List UInt8} (h : gather sock = some (.ok (bytes, sock'))) :
    loopEvent sock = some (.ok (processData bytes, sock')) := by
  rw [loopEvent, h]
  rfl

theorem loopEvents_succ {call : Call} (h : loopEvent sock = some (.ok (call, sock'))) :
    loopEvents (n + 1) sock =
      (loopEvents n sock').map (Except.map fun r => (call :: r.1, r.2)) := by
  rw [loopEvents, h]

/-- The runs of `loopEvent`, taken apart at the first one, which is how the induction over the
requests goes. -/
theorem loopEvents_succ_ok (h : loopEvents (n + 1) sock = some (.ok (calls, sock'))) :
    ∃ bytes sock₁ calls', gather sock = some (.ok (bytes, sock₁)) ∧
      loopEvents n sock₁ = some (.ok (calls', sock')) ∧ calls = processData bytes :: calls' := by
  rw [loopEvents] at h
  split at h
  · cases h
  · cases h
  rename_i call sock₁ hevent
  obtain ⟨res, hres, hcons⟩ := Option.map_eq_some_iff.mp h
  obtain ⟨got, hgather, hcall⟩ := Option.map_eq_some_iff.mp hevent
  cases res with
  | error e => cases hcons
  | ok res =>
    cases got with
    | error e => cases hcall
    | ok got =>
      simp only [Except.map, Except.ok.injEq, Prod.mk.injEq] at hcons hcall
      obtain ⟨rfl, rfl⟩ := hcons
      obtain ⟨rfl, rfl⟩ := hcall
      exact ⟨got.1, got.2, res.1, hgather, hres, rfl⟩

/-- The framing loop does not run out of fuel, however many requests there are. -/
theorem loopEvents_ne_none (n : ℕ) (sock : Socket) : loopEvents n sock ≠ none := by
  induction n generalizing sock with
  | zero => nofun
  | succ n ih =>
    rw [loopEvents]
    split
    · rename_i hevent
      exact absurd (Option.map_eq_none_iff.mp hevent) (gather_ne_none sock)
    · nofun
    · rename_i sock' _
      intro h
      exact ih sock' (Option.map_eq_none_iff.mp h)

/-- **Requests that arrive apart are framed.** Each run of `loopEvent` takes the pieces of one
request and leaves the others where they are. -/
theorem Apart.framed (h : Apart rs ps) (hangsUp : Bool) : Framed rs ⟨ps, hangsUp⟩ := by
  induction h with
  | nil => rfl
  | @whole r rs ps qs hwhole _ ih =>
    -- the first run reads the pieces of the first request
    have hgather := @gather_whole _ _ qs hangsUp hwhole r.hdrLength_eq r.length_le
    rw [Framed, List.length_cons, loopEvents_succ (loopEvent_of_gather hgather), ih,
      processData_request]
    rfl
  | @cut r rs ps qs a b hfull hwhole _ ih =>
    -- the first run stops in the middle of a piece, as if it had been cut there
    have hgather := @gather_whole _ _ (b :: qs) hangsUp hwhole r.hdrLength_eq r.length_le
    rw [← gather_append hwhole hfull] at hgather
    rw [Framed, List.length_cons, loopEvents_succ (loopEvent_of_gather hgather), ih,
      processData_request]
    rfl

/-- The bytes handed to `processData` are taken from the stream. There may be less of them than
have been read, but not more. -/
theorem loopEvents_length_le (h : loopEvents n sock = some (.ok (calls, sock'))) :
    ((calls.map Call.bytes).flatten).length + (flat sock'.pieces).length ≤
      (flat sock.pieces).length := by
  induction n generalizing sock calls with
  | zero =>
    obtain ⟨rfl, rfl⟩ : [] = calls ∧ sock = sock' := by simpa [loopEvents] using h
    simp
  | succ n ih =>
    obtain ⟨bytes, sock₁, calls', hgather, hcalls, rfl⟩ := loopEvents_succ_ok h
    have hrest := ih hcalls
    -- a call is handed at most what its run has read
    have hconserves := congrArg List.length (gather_conserves hgather)
    simp only [List.map_cons, List.flatten_cons, List.length_append, processData,
      List.length_take] at hconserves ⊢
    omega

/-- **Requests that are framed have arrived apart.** The bytes handed on are as many
as there are in the stream, so that no run may have read more than it handed on. -/
theorem Framed.apart (h : Framed rs sock) (hstream : flat sock.pieces = stream rs) :
    Apart rs sock.pieces := by
  induction rs generalizing sock with
  | nil =>
    obtain ⟨pieces, hangsUp⟩ := sock
    obtain rfl : pieces = [] := by simpa [Framed, loopEvents] using h
    exact .nil
  | cons r rs ih =>
    obtain ⟨bytes, sock₁, calls', hgather, hcalls, hcons⟩ := loopEvents_succ_ok h
    obtain ⟨hcall, rfl⟩ : r.call = processData bytes ∧ rs.map Request.call = calls' := by
      simpa using hcons
    have hconserves := gather_conserves hgather
    obtain ⟨hdone, hup, ps, hwhole, htook⟩ := gather_ok hgather
    have htake : r.bytes = bytes.take (hdrLength bytes) := congrArg Call.bytes hcall
    have hless := loopEvents_length_le hcalls
    have hcalled : ((rs.map Request.call).map Call.bytes).flatten = stream rs := by
      simp [stream, Request.call, Function.comp_def]
    -- the run read no more than the request
    have hbytes : bytes = r.bytes := by
      have htotal := congrArg List.length (hconserves.symm.trans hstream)
      rw [hcalled] at hless
      rw [htake, List.take_of_length_le]
      simp only [stream_cons, htake, List.length_append, List.length_take] at htotal
      omega
    subst hbytes
    have hrest : flat sock₁.pieces = stream rs :=
      List.append_cancel_left (hconserves.symm.trans hstream)
    have hapart : Apart rs sock₁.pieces := ih (by rw [Framed, hup]; exact hcalls) hrest
    rcases htook with hp | ⟨hfull, os, a, b, qs, rfl, hb, hp⟩
    · rw [hp]
      exact .whole hwhole hapart
    · rw [hb] at hapart
      rw [hp]
      exact .cut hfull hwhole hapart

/-- **When framing does not depend on the pieces.** For every sequence of requests
and every way their stream arrives, the runs of `loopEvent` hand each request to
`processData` if and only if the requests arrive apart. -/
theorem framed_iff_apart (rs : List Request) (sock : Socket) (h : flat sock.pieces = stream rs) :
    Framed rs sock ↔ Apart rs sock.pieces :=
  ⟨fun hframed => hframed.apart h, fun hapart => hapart.framed sock.hangsUp⟩

/-- A request that consists of its header only. It is the shortest there is. -/
def bareHeader : Request where
  bytes := [16, 0, 0, 0, 1, 0, 0, 0, 8, 0, 0, 0, 1, 0, 0, 0]
  hdrLength_eq := by decide
  le_length := by decide
  length_le := by decide

/-- The header comes in two pieces, and the second request in a piece of its own. -/
theorem framed_iff_apart_split : Apart [bareHeader, bareHeader]
    [⟨bareHeader.bytes.take 7, by decide⟩, ⟨bareHeader.bytes.drop 7, by decide⟩,
      ⟨bareHeader.bytes, by decide⟩] :=
  (framed_iff_apart [bareHeader, bareHeader] ⟨_, true⟩ rfl).mp (by decide)

/-- **Two requests in one piece**: the second of them is lost. -/
theorem second_request_lost :
    flat [⟨bareHeader.bytes ++ bareHeader.bytes, by decide⟩] = stream [bareHeader, bareHeader] ∧
      ¬Framed [bareHeader, bareHeader]
        ⟨[⟨bareHeader.bytes ++ bareHeader.bytes, by decide⟩], true⟩ := by
  decide

/-- A client that sends a request byte by byte is thrown out after two of them. -/
example : gather ⟨bareHeader.bytes.map fun b => ⟨[b], List.cons_ne_nil b []⟩, true⟩ =
    some (.error .tooShort) := by
  decide

end Framing

end Client

end Usbmuxd
