import Usbmuxd.Clients.Answers
import Usbmuxd.Library.Interleaving
import Mathlib.Data.Finset.Basic

/-!
# Listing the clients

`ListListeners` is answered with a property list for each of the `_clients`, and
`getClientPlist` makes strings of the `bundleID` and the `progName` of a client. A client is
among the `_clients` from the moment on when it connects. Its `_info` is all null then, and is
filled by the property lists it sends: `update_client_info` takes from each what has the right
type.

Here any number of clients do so at the same time, each of them in a thread of its own
(`Usbmuxd.Listing.State.step`). A client that is listed before it has given both names makes
the daemon dereference a null pointer, and nothing else does
(`Usbmuxd.Listing.step_crashed_iff`). So a run is safe when each client that is listed has
given them (`Usbmuxd.listing_safe`). Since nobody connects while the guard is held, it is
enough to look when the listing begins (`Usbmuxd.Listing.safe_of_startsNamed`).
-/

namespace Usbmuxd

namespace Listing

open Answers (Node MessageType)

/-! ### What is known of a client -/

/-- The items that `update_client_info` gets, in this order. A client may give some of them now
and others later. -/
inductive InfoKey
  /-- `ClientVersionString`. -/
  | clientVersionString
  /-- `BundleID`. -/
  | bundleID
  /-- `ProgName`. -/
  | progName
  /-- `kLibUSBMuxVersion`. -/
  | kLibUSBMuxVersion
  deriving DecidableEq

/-- The keys of `update_client_info`, each of which is looked for in every property list that
has a `MessageType`. -/
def InfoKey.all : List InfoKey :=
  [.clientVersionString, .bundleID, .progName, .kLibUSBMuxVersion]

/-- `Client::cinfo`. A string is `none` when it is a null pointer, which it is until the client
has given one. -/
structure Cinfo where
  /-- `bundleID`. -/
  bundleID : Option (List Char)
  /-- `clientVersionString`. -/
  clientVersionString : Option (List Char)
  /-- `progName`. -/
  progName : Option (List Char)
  /-- `kLibUSBMuxVersion`. -/
  kLibUSBMuxVersion : ℕ
  deriving DecidableEq

/-- `_info{}`: all pointers are null, and nothing but a message of the client changes this. -/
def Cinfo.init : Cinfo := ⟨none, none, none, 0⟩

/-- What `update_client_info` does with one of the items. A value that is there is replaced, but
it is never made null again. -/
def Cinfo.update (info : Cinfo) : InfoKey → Option Node → Cinfo
  | .clientVersionString, some (.string val) => { info with clientVersionString := some val }
  | .bundleID, some (.string val) => { info with bundleID := some val }
  | .progName, some (.string val) => { info with progName := some val }
  | .kLibUSBMuxVersion, some (.uint val) => { info with kLibUSBMuxVersion := val }
  -- there is no such item, or it has another type
  | _, _ => info

/-- The strings, by their keys. The version of the library is a number, and can always be
read. -/
def Cinfo.stringAt (info : Cinfo) : InfoKey → Option (List Char)
  | .clientVersionString => info.clientVersionString
  | .bundleID => info.bundleID
  | .progName => info.progName
  | .kLibUSBMuxVersion => none

/-- What `getClientPlist` returns. Two of its fields need a string that the client has given. -/
structure ClientPlist where
  /-- `Blacklisted`. -/
  blacklisted : Bool
  /-- `BundleID`. -/
  bundleID : List Char
  /-- `ConnType`. -/
  connType : ℕ
  /-- `ID String`. -/
  idString : List Char
  /-- `ProgName`. -/
  progName : List Char
  /-- `kLibUSBMuxVersion`. -/
  kLibUSBMuxVersion : ℕ
  deriving DecidableEq

/-- `Muxer::getClientPlist`, for a `_number` and an `_info`; `none` when there is a null
pointer. That a number must be given as well is not asked for. -/
def getClientPlist (number : ℕ) (info : Cinfo) : Option ClientPlist :=
  match info.bundleID, info.progName with
  | some bundleID, some progName => some
    { blacklisted := false
      bundleID := bundleID
      connType := 0
      idString := (Nat.toDigits 10 number ++ ['-']) ++ progName
      progName := progName
      kLibUSBMuxVersion := info.kLibUSBMuxVersion }
  | _, _ => none

/-! ### The clients and their threads -/

/-- What `recv_data` brings, as far as the kinds of messages are treated differently before the
request itself is looked at. -/
inductive Message
  /-- Nothing: the client has disconnected, or what it sends is not a message. -/
  | disconnected
  /-- A binary message. -/
  | binary
  /-- A property list, by its `MessageType` if that is a string, and its other items. -/
  | plist (message : Option MessageType) (item : InfoKey → Option Node)

/-- Where the thread of a client is. The list is made one client at a time, since other threads
may change their `_info` in between. -/
inductive Pc (C : Type)
  /-- There is no such client. -/
  | gone
  /-- In `recv_data`. -/
  | idle
  /-- In `update_client_info`, with the keys that are left to be looked up. -/
  | updating (todo : List InfoKey) (message : MessageType) (item : InfoKey → Option Node)
  /-- In the loop of `send_listenerList`, with the clients that are left. -/
  | listing (todo : List C) (done : List ClientPlist)
  /-- `send_listenerList` is about to send what it has collected. -/
  | sending (done : List ClientPlist)
  /-- A request of another kind is handled. -/
  | handling
  /-- The loop has ended. -/
  | ended

/-- The clients, each with its `_number`, its `_info`, and the items it has given so far. The
items are not in the code: they say what the null pointers depend on. -/
structure State (C : Type) where
  /-- `_clients`. -/
  clients : Finset C
  /-- The clients whose threads hold `_clientsGuard` for reading. -/
  reading : Finset C
  /-- `_clientNumber`. -/
  clientNumber : ℕ
  /-- `_number`. -/
  number : C → ℕ
  /-- `_info`. -/
  info : C → Cinfo
  /-- The items that have been looked up in its property lists. -/
  items : C → List (InfoKey × Option Node)
  /-- Where its thread is. -/
  pc : C → Pc C
  /-- The values of `ListenerList` it has been sent. -/
  sent : C → List (List ClientPlist)
  /-- A null pointer has been dereferenced. -/
  crashed : Bool

/-- Nobody has connected, and nobody reads `_clients`. -/
def State.init (C : Type) : State C where
  clients := ∅
  reading := ∅
  clientNumber := 0
  number _ := 0
  info _ := .init
  items _ := []
  pc _ := .gone
  sent _ := []
  crashed := false

/-- What happens next. A label says which thread moves, and what it receives from outside. -/
inductive Label (C : Type)
  /-- `handle_client`, and whether `startLoop` succeeds. -/
  | connect (c : C) (started : Bool)
  /-- `recv_data` returns, or throws. -/
  | receive (c : C) (message : Message)
  /-- `update_client_info` deals with the next key. -/
  | update (c : C)
  /-- `send_listenerList` takes the guard. The order is that of the set. -/
  | startListing (c : C) (order : List C)
  /-- It deals with the next client. -/
  | list (c : C)
  /-- It lets the guard go. -/
  | endListing (c : C)
  /-- The request has been handled, and `processData` returns or throws. -/
  | handled (c : C) (returned : Bool)
  /-- `delete_client`, from wherever it is called. -/
  | deleteClient (c : C)
  /-- `afterLoop`. -/
  | afterLoop (c : C)

variable {C : Type} [DecidableEq C]

namespace State

variable (s : State C)

/-- Move a thread, and leave all else as it is. -/
def setPc (c : C) (p : Pc C) : State C := { s with pc := Function.update s.pc c p }

@[simp] theorem setPc_info (c : C) (p : Pc C) : (s.setPc c p).info = s.info := rfl

@[simp] theorem setPc_items (c : C) (p : Pc C) : (s.setPc c p).items = s.items := rfl

@[simp] theorem setPc_reading (c : C) (p : Pc C) : (s.setPc c p).reading = s.reading := rfl

@[simp] theorem setPc_crashed (c : C) (p : Pc C) : (s.setPc c p).crashed = s.crashed := rfl

@[simp] theorem setPc_pc (c c' : C) (p : Pc C) :
    (s.setPc c p).pc c' = if c' = c then p else s.pc c' := Function.update_apply ..

/-- `ClientManager::handle_client` and `Muxer::add_client`. From here on the client is listed,
although it has not said anything. -/
def connect (c : C) (started : Bool) : State C where
  clients := insert c s.clients
  reading := s.reading
  clientNumber := s.clientNumber + 1
  number := Function.update s.number c s.clientNumber
  info := Function.update s.info c .init
  items := Function.update s.items c []
  -- where `startLoop` throws, the client is deleted as at the end of its loop
  pc := Function.update s.pc c (if started then .idle else .ended)
  sent := Function.update s.sent c []
  crashed := s.crashed

/-- `processData`, up to where the kinds of requests part. A property list without a
`MessageType` ends the client before its names are looked at. -/
def processData (c : C) : Message → State C
  | .disconnected => s.setPc c .ended
  | .binary => s.setPc c .handling
  -- “Failed to get MessageType from recieved plist”
  | .plist none _ => s.setPc c .ended
  | .plist (some message) item => s.setPc c (.updating InfoKey.all message item)

/-- One key of `update_client_info`, without a lock. The item is written down, whether it is
taken or not. -/
def updateClientInfo (c : C) (key : InfoKey) (item : Option Node) : State C :=
  { s with
    info := Function.update s.info c ((s.info c).update key item)
    items := Function.update s.items c (s.items c ++ [(key, item)]) }

/-- One round of the loop of `send_listenerList`. It is here that a null pointer is made into a
string. -/
def appendClientPlist (c d : C) (todo : List C) (done : List ClientPlist) : State C :=
  match getClientPlist (s.number d) (s.info d) with
  | some plist => s.setPc c (.listing todo (done ++ [plist]))
  | none => { s with crashed := true }

/-- What a step makes of the state; `none` when the step is not possible, because the thread is
elsewhere or the guard is held by another. After a null pointer has been dereferenced nothing
happens any more. -/
def step (l : Label C) : Option (State C) :=
  if s.crashed = true then none else
  match l with
  | .connect c started =>
    match s.pc c with
    | .gone => if s.reading = ∅ ∧ c ∉ s.clients then some (s.connect c started) else none
    | _ => none
  | .receive c message =>
    match s.pc c with
    | .idle => some (s.processData c message)
    | _ => none
  | .update c =>
    match s.pc c with
    | .updating (key :: todo) message item =>
        some ((s.updateClientInfo c key (item key)).setPc c (.updating todo message item))
    | _ => none
  | .startListing c order =>
    match s.pc c with
    | .updating [] .listListeners _ => if order.Nodup ∧ order.toFinset = s.clients then
        some ({ s with reading := insert c s.reading }.setPc c (.listing order [])) else none
    | _ => none
  | .list c =>
    match s.pc c with
    | .listing (d :: todo) done => some (s.appendClientPlist c d todo done)
    | _ => none
  | .endListing c =>
    match s.pc c with
    | .listing [] done =>
        some ({ s with reading := s.reading.erase c }.setPc c (.sending done))
    | _ => none
  | .handled c returned =>
    let next := if returned then .idle else .ended
    match s.pc c with
    | .updating [] message _ => if message = .listListeners then none else some (s.setPc c next)
    | .handling => some (s.setPc c next)
    | .sending done => some ({ s with
        sent := Function.update s.sent c (s.sent c ++ if returned then [done] else []) }.setPc c
          next)
    | _ => none
  | .deleteClient c =>
    if s.reading = ∅ then some { s with clients := s.clients.erase c } else none
  | .afterLoop c =>
    match s.pc c with
    | .ended => if s.reading = ∅ then
        some ({ s with clients := s.clients.erase c }.setPc c .gone) else none
    | _ => none

end State

/-- The machine: any number of clients, which connect and speak in any order. -/
def listingMachine (C : Type) [DecidableEq C] : Interleaving.Machine (State C) (Label C) where
  step := State.step

/-! ### What a client has given -/

/-- A string has been given for a key. A value of another type under that key does not count. -/
def Gives (items : List (InfoKey × Option Node)) (key : InfoKey) : Prop :=
  ∃ p ∈ items, p.1 = key ∧ (p.2.bind Node.getStringPtr).isSome = true

instance (items : List (InfoKey × Option Node)) (key : InfoKey) : Decidable (Gives items key) := by
  unfold Gives
  infer_instance

/-- **A client has given both its names**, as strings in property lists. -/
def GivesNames (items : List (InfoKey × Option Node)) : Prop :=
  Gives items .bundleID ∧ Gives items .progName

instance (items : List (InfoKey × Option Node)) : Decidable (GivesNames items) :=
  inferInstanceAs (Decidable (_ ∧ _))

theorem GivesNames.append {items : List (InfoKey × Option Node)} (h : GivesNames items)
    (items' : List (InfoKey × Option Node)) : GivesNames (items ++ items') := by
  have happend : ∀ key, Gives items key → Gives (items ++ items') key :=
    fun key ⟨p, hp, hgives⟩ => ⟨p, List.mem_append_left items' hp, hgives⟩
  exact ⟨happend _ h.1, happend _ h.2⟩

/-- What comes of the items a client has given, if they are taken one after the other. -/
def replay (items : List (InfoKey × Option Node)) : Cinfo :=
  items.foldl (fun info p => info.update p.1 p.2) .init

theorem replay_concat (items : List (InfoKey × Option Node)) (key : InfoKey)
    (item : Option Node) : replay (items ++ [(key, item)]) = (replay items).update key item := by
  rw [replay, List.foldl_append]
  rfl

/-- **A string is never taken back**, and comes from an item under its key. These are the two
halves of the equivalence. -/
theorem isSome_stringAt_update (info : Cinfo) (key key' : InfoKey) (item : Option Node)
    (hkey : key ≠ .kLibUSBMuxVersion) :
    ((info.update key' item).stringAt key).isSome = true ↔
      (info.stringAt key).isSome = true ∨
        key' = key ∧ (item.bind Node.getStringPtr).isSome = true := by
  cases key' <;> cases key <;>
    first
    | exact absurd rfl hkey
    | rcases item with _ | node
      · simp [Cinfo.update]
      · cases node <;> simp [Cinfo.update, Cinfo.stringAt, Node.getStringPtr]

/-- **A string is there** if it has been given, and only then. -/
theorem isSome_stringAt_replay (items : List (InfoKey × Option Node)) {key : InfoKey}
    (hkey : key ≠ .kLibUSBMuxVersion) :
    ((replay items).stringAt key).isSome = true ↔ Gives items key := by
  induction items using List.reverseRecOn with
  | nil =>
    have hnone : (replay []).stringAt key = none := by cases key <;> rfl
    simp [hnone, Gives]
  | append_singleton items p ih =>
    obtain ⟨key', item⟩ := p
    rw [replay_concat, isSome_stringAt_update _ _ _ _ hkey, ih]
    simp only [Gives, List.mem_append, List.mem_singleton, or_and_right, exists_or,
      exists_eq_left]

theorem isSome_getClientPlist (number : ℕ) (info : Cinfo) :
    (getClientPlist number info).isSome = true ↔
      (info.stringAt .bundleID).isSome = true ∧ (info.stringAt .progName).isSome = true := by
  unfold getClientPlist Cinfo.stringAt
  dsimp only
  cases info.bundleID <;> cases info.progName <;> simp

/-- The same answer as in `Usbmuxd.Answers.getClientPlist`, which leaves out the rest: there the
clients are looked at in one moment. -/
theorem map_getClientPlist (number : ℕ) (info : Cinfo) :
    (getClientPlist number info).map (fun plist => (number, plist.bundleID, plist.progName)) =
      Answers.getClientPlist ⟨number, info.bundleID, info.progName⟩ := by
  unfold getClientPlist Answers.getClientPlist
  dsimp only
  cases info.bundleID <;> cases info.progName <;> rfl

/-! ### What a step does -/

section Steps

variable {s s' : State C} {l : Label C}

/-- What each label does, where it is possible. The guards that later proofs need are kept, and
all the others dropped. -/
inductive Moves (s : State C) : Label C → State C → Prop
  | connect {c : C} (started : Bool) (hpc : s.pc c = .gone) (hreading : s.reading = ∅) :
      Moves s (.connect c started) (s.connect c started)
  | receive {c : C} (message : Message) (hpc : s.pc c = .idle) :
      Moves s (.receive c message) (s.processData c message)
  | update {c : C} {key : InfoKey} {todo : List InfoKey} {message : MessageType}
      {item : InfoKey → Option Node} (hpc : s.pc c = .updating (key :: todo) message item) :
      Moves s (.update c)
        ((s.updateClientInfo c key (item key)).setPc c (.updating todo message item))
  | startListing {c : C} {order : List C} (horder : order.toFinset = s.clients) :
      Moves s (.startListing c order)
        ({ s with reading := insert c s.reading }.setPc c (.listing order []))
  | list {c d : C} {todo : List C} {done : List ClientPlist}
      (hpc : s.pc c = .listing (d :: todo) done) :
      Moves s (.list c) (s.appendClientPlist c d todo done)
  | endListing {c : C} (done : List ClientPlist) :
      Moves s (.endListing c) ({ s with reading := s.reading.erase c }.setPc c (.sending done))
  | handled {c : C} {returned : Bool} (sent : C → List (List ClientPlist)) :
      Moves s (.handled c returned)
        ({ s with sent := sent }.setPc c (if returned then .idle else .ended))
  | deleteClient (c : C) : Moves s (.deleteClient c) { s with clients := s.clients.erase c }
  | afterLoop (c : C) :
      Moves s (.afterLoop c) ({ s with clients := s.clients.erase c }.setPc c .gone)

theorem step_cases (hs : s.step l = some s') : s.crashed = false ∧ Moves s l s' := by
  unfold State.step at hs
  split at hs
  · cases hs
  next hcrashed =>
  refine ⟨Bool.eq_false_iff.mpr hcrashed, ?_⟩
  cases l with
  | connect c started =>
    dsimp only at hs
    split at hs
    · next hpc =>
      obtain ⟨⟨hreading, -⟩, heq⟩ := Option.ite_none_right_eq_some.mp hs
      cases heq
      exact .connect started hpc hreading
    · cases hs
  | receive c message =>
    dsimp only at hs
    split at hs
    · next hpc =>
      cases hs
      exact .receive message hpc
    · cases hs
  | update c =>
    dsimp only at hs
    split at hs
    · next hpc =>
      cases hs
      exact .update hpc
    · cases hs
  | startListing c order =>
    dsimp only at hs
    split at hs
    · obtain ⟨⟨-, horder⟩, heq⟩ := Option.ite_none_right_eq_some.mp hs
      cases heq
      exact .startListing horder
    · cases hs
  | list c =>
    dsimp only at hs
    split at hs
    · next hpc =>
      cases hs
      exact .list hpc
    · cases hs
  | endListing c =>
    dsimp only at hs
    split at hs
    · cases hs
      exact .endListing _
    · cases hs
  | handled c returned =>
    dsimp only at hs
    split at hs
    · split at hs
      · cases hs
      · cases hs
        exact .handled s.sent
    · cases hs
      exact .handled s.sent
    · cases hs
      exact .handled _
    · cases hs
  | deleteClient c =>
    obtain ⟨-, heq⟩ := Option.ite_none_right_eq_some.mp hs
    cases heq
    exact .deleteClient c
  | afterLoop c =>
    dsimp only at hs
    split at hs
    · obtain ⟨-, heq⟩ := Option.ite_none_right_eq_some.mp hs
      cases heq
      exact .afterLoop c
    · cases hs

/-! ### What is known is what has been given -/

/-- **What is known of a client** is what comes of the items it has given. So a question about
pointers becomes one about messages. -/
def Recorded (s : State C) : Prop := ∀ c, s.info c = replay (s.items c)

theorem appendClientPlist_eq (s : State C) (c d : C) (todo : List C) (done : List ClientPlist) :
    (s.appendClientPlist c d todo done).info = s.info ∧
      (s.appendClientPlist c d todo done).items = s.items ∧
      (s.appendClientPlist c d todo done).reading = s.reading := by
  unfold State.appendClientPlist
  split <;> exact ⟨rfl, rfl, rfl⟩

theorem processData_eq (s : State C) (c : C) (message : Message) :
    ∃ p, s.processData c message = s.setPc c p ∧ ∀ todo done, p ≠ .listing todo done := by
  rcases message with _ | _ | ⟨_ | message, item⟩ <;>
    exact ⟨_, rfl, fun _ _ heq => nomatch heq⟩

theorem Recorded.moves (h : Recorded s) (hm : Moves s l s') : Recorded s' := by
  intro c'
  cases hm with
  | connect started hpc hreading =>
    simp only [State.connect, Function.update_apply]
    split
    · rfl
    · exact h c'
  | receive message hpc =>
    obtain ⟨p, heq, -⟩ := processData_eq s _ message
    rw [heq]
    exact h c'
  | update hpc =>
    simp only [State.setPc_info, State.setPc_items, State.updateClientInfo, Function.update_apply]
    split
    · rw [replay_concat, h]
    · exact h c'
  | list hpc =>
    rw [(appendClientPlist_eq ..).1, (appendClientPlist_eq ..).2.1]
    exact h c'
  | _ => exact h c'

/-- **The client whose turn it is** has given its names. Nothing is asked of the others, nor of
the steps that do not list anybody. -/
def ListsNamed (s : State C) : Label C → Prop
  | .list c =>
    match s.pc c with
    | .listing (d :: _) _ => GivesNames (s.items d)
    | _ => True
  | _ => True

instance (s : State C) (l : Label C) : Decidable (ListsNamed s l) := by
  unfold ListsNamed
  split
  · split <;> infer_instance
  · infer_instance

omit [DecidableEq C] in
/-- `getClientPlist` finds both strings for a client that has given its names, and for no other.
This is where the invariant is used. -/
theorem isSome_getClientPlist_iff (h : Recorded s) (number : ℕ) (d : C) :
    (getClientPlist number (s.info d)).isSome = true ↔ GivesNames (s.items d) := by
  rw [isSome_getClientPlist, h d, isSome_stringAt_replay _ (by decide),
    isSome_stringAt_replay _ (by decide), GivesNames]

/-- **A step dereferences a null pointer** when it lists a client that has not given its names,
and not otherwise. -/
theorem step_crashed_iff (h : Recorded s) (hs : s.step l = some s') :
    s'.crashed = true ↔ ¬ListsNamed s l := by
  obtain ⟨hcrashed, hm⟩ := step_cases hs
  cases hm with
  | @list c d todo done hpc =>
    rw [ListsNamed, hpc]
    dsimp only
    rw [← isSome_getClientPlist_iff h (s.number d), State.appendClientPlist]
    cases getClientPlist (s.number d) (s.info d) <;> simp [hcrashed]
  | @receive c message hpc =>
    obtain ⟨p, heq, -⟩ := processData_eq s c message
    simp [heq, hcrashed, ListsNamed]
  | _ => simp [State.connect, State.updateClientInfo, hcrashed, ListsNamed]

/-! ### When the listing begins -/

/-- **Each client has given its names** when a listing begins. This can be asked without knowing
in which order they are listed. -/
def StartsNamed (s : State C) : Label C → Prop
  | .startListing _ _ => ∀ d ∈ s.clients, GivesNames (s.items d)
  | _ => True

/-- The clients that are yet to be listed have given their names, and the guard is held, which
keeps new clients from being added to the list. -/
def Pending (s : State C) : Prop :=
  ∀ c todo done, s.pc c = .listing todo done →
    c ∈ s.reading ∧ ∀ d ∈ todo, GivesNames (s.items d)

/-- A thread moves, but not in a listing, so that none has begun or gone on. -/
theorem Pending.setPc (h : Pending s) {c : C} {p : Pc C}
    (hp : ∀ todo done, p ≠ .listing todo done) : Pending (s.setPc c p) := by
  intro c' todo done hpc
  rw [State.setPc_pc] at hpc
  split at hpc
  · exact absurd hpc (hp todo done)
  · exact h c' todo done hpc

omit [DecidableEq C] in
theorem Pending.listsNamed (h : Pending s) (l : Label C) : ListsNamed s l := by
  unfold ListsNamed
  split
  · split
    · next d _ _ hpc => exact (h _ _ _ hpc).2 d List.mem_cons_self
    · trivial
  · trivial

theorem Pending.moves (h : Pending s) (hok : StartsNamed s l) (hm : Moves s l s') :
    Pending s' := by
  cases hm with
  | @connect c started hpc hreading =>
    -- the guard is held by nobody, so nothing is being listed
    intro c' todo done hpc'
    simp only [State.connect, Function.update_apply] at hpc'
    split at hpc'
    · split at hpc' <;> cases hpc'
    · have hmem := (h c' todo done hpc').1
      rw [hreading] at hmem
      exact absurd hmem (Finset.notMem_empty c')
  | receive message hpc =>
    obtain ⟨p, heq, hp⟩ := processData_eq s _ message
    rw [heq]
    exact h.setPc hp
  | @update c key todo message item hpc =>
    refine Pending.setPc ?_ fun _ _ heq => nomatch heq
    intro c' todo' done hpc'
    obtain ⟨hmem, hgives⟩ := h c' todo' done hpc'
    refine ⟨hmem, fun d hd => ?_⟩
    simp only [State.updateClientInfo, Function.update_apply]
    split
    · next hdc =>
      subst hdc
      exact (hgives d hd).append _
    · exact hgives d hd
  | @startListing c order horder =>
    intro c' todo done hpc'
    rw [State.setPc_pc] at hpc'
    simp only [State.setPc_reading, State.setPc_items, Finset.mem_insert]
    split at hpc'
    · next hc =>
      cases hpc'
      exact ⟨Or.inl hc, fun d hd => hok d (horder ▸ List.mem_toFinset.mpr hd)⟩
    · obtain ⟨hmem, hgives⟩ := h c' todo done hpc'
      exact ⟨Or.inr hmem, hgives⟩
  | @list c d todo done hpc =>
    unfold State.appendClientPlist
    split
    · intro c' todo' done' hpc'
      rw [State.setPc_pc] at hpc'
      split at hpc'
      · next hc =>
        cases hpc'
        subst hc
        obtain ⟨hmem, hgives⟩ := h c' _ _ hpc
        exact ⟨hmem, fun d' hd => hgives d' (List.mem_cons_of_mem _ hd)⟩
      · exact h c' todo' done' hpc'
    · exact h
  | @endListing c done =>
    intro c' todo' done' hpc'
    rw [State.setPc_pc] at hpc'
    split at hpc'
    · cases hpc'
    · next hc =>
      obtain ⟨hmem, hgives⟩ := h c' todo' done' hpc'
      exact ⟨Finset.mem_erase.mpr ⟨hc, hmem⟩, hgives⟩
  | handled sent =>
    refine Pending.setPc h fun _ _ heq => ?_
    split at heq <;> cases heq
  | deleteClient c => exact h
  | afterLoop c => exact Pending.setPc h fun _ _ heq => nomatch heq

omit [DecidableEq C] in
theorem recorded_init : Recorded (State.init C) := fun _ => rfl

omit [DecidableEq C] in
theorem pending_init : Pending (State.init C) := fun _ _ _ hpc => nomatch hpc

/-- **It is enough to look when a listing begins**: a run in which everybody has given both
names by then dereferences no null pointer. -/
theorem safe_of_startsNamed (h : (listingMachine C).Reaches StartsNamed (State.init C) s) :
    s.crashed = false := by
  have hinv := h.invariant (I := fun s => Recorded s ∧ Pending s ∧ s.crashed = false)
    ⟨recorded_init, pending_init, rfl⟩ ?_
  · exact hinv.2.2
  · rintro s l s' ⟨hrecorded, hpending, -⟩ hok hs
    have hm := (step_cases hs).2
    refine ⟨hrecorded.moves hm, hpending.moves hok hm, Bool.eq_false_iff.mpr fun hcrashed => ?_⟩
    exact (step_crashed_iff hrecorded hs).mp hcrashed (hpending.listsNamed l)

end Steps

/-! ### Runs -/

/-- A property list with the two names, and nothing else. -/
def names : InfoKey → Option Node
  | .bundleID => some (.string ['b'])
  | .progName => some (.string ['p'])
  | _ => none

/-- A client asks for the clients after a message with its names. There is no other, and it
finds itself. -/
def namedRun : List (Label ℕ) :=
  [.connect 0 true, .receive 0 (.plist (some .listListeners) names), .update 0, .update 0,
    .update 0, .update 0, .startListing 0 [0], .list 0, .endListing 0, .handled 0 true]

/-- A client asks for the clients while another has only connected. -/
def silentRun : List (Label ℕ) :=
  [.connect 0 true, .connect 1 true, .receive 0 (.plist (some .listListeners) names), .update 0,
    .update 0, .update 0, .update 0, .startListing 0 [1, 0], .list 0]

end Listing

open Listing

/-- **Listing the clients is safe** in every run in which each client has given its `BundleID`
and its `ProgName` by the time when it is listed. -/
theorem listing_safe {C : Type} [DecidableEq C] {s : State C}
    (h : (listingMachine C).Reaches ListsNamed (State.init C) s) : s.crashed = false := by
  have hinv := h.invariant (I := fun s => Recorded s ∧ s.crashed = false)
    ⟨recorded_init, rfl⟩ ?_
  · exact hinv.2
  · rintro s l s' ⟨hrecorded, -⟩ hok hs
    refine ⟨hrecorded.moves (step_cases hs).2, Bool.eq_false_iff.mpr fun hcrashed => ?_⟩
    exact (step_crashed_iff hrecorded hs).mp hcrashed hok

/-- A client is sent a list with itself, and the daemon goes on. -/
theorem listing_safe_named :
    ∃ s : State ℕ, s.sent 0 = [[⟨false, ['b'], 0, ['0', '-', 'p'], ['p'], 0⟩]] ∧
      s.crashed = false := by
  obtain ⟨s, hr, hp⟩ := (listingMachine ℕ).exists_reaches_of_runOk ListsNamed (State.init ℕ)
    namedRun (fun s => s.sent 0 = [[⟨false, ['b'], 0, ['0', '-', 'p'], ['p'], 0⟩]]) (by decide)
  exact ⟨s, of_decide_eq_true hp, listing_safe hr⟩

/-- **A client that has only connected** is listed, and its names are null pointers. -/
theorem listing_crashes :
    ∃ s : State ℕ, (listingMachine ℕ).Reachable (State.init ℕ) s ∧ s.crashed = true := by
  obtain ⟨s, hr, hp⟩ := (listingMachine ℕ).exists_reaches_of_runOk (fun _ _ => True)
    (State.init ℕ) silentRun (fun s => s.crashed) (by decide)
  exact ⟨s, hr, hp⟩

end Usbmuxd
