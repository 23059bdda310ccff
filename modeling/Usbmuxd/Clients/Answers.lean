import Usbmuxd.Clients.Requests
import Usbmuxd.Muxer.Devices
import Usbmuxd.Sysconf.Records

/-!
# What a client is answered

Every request carries a tag, and the packet that answers it carries the same tag.
`processData` has a way out for every kind of request and for most of what may go
wrong: an error code for a field that is missing, for a record that is not there, for a
device that does not take the connection. A connection that is taken is answered by
`TCP::connect`, before the client is given up.

The packets a request leads to are collected here in the order in which they are sent
(`Usbmuxd.Answers.processData`), with all that decides which they are: the devices, the
other clients, the files, and the outcome of a connection attempt. Notifications are sent
with the tag `0`, and nothing keeps a client from giving this tag to its own requests. The
`Attached` notifications that follow a `Listen` are not counted as answers; everything else
that carries the tag of the request is (`Usbmuxd.Answers.Outcome.answers`).

## What goes wrong

* **No answer.** The functions of `sysconf.cpp` throw where writing or removing fails, and
  `SavePairRecord`, `DeletePairRecord` and `ReadBUID` let the exception pass: the client is
  thrown out without an answer. The same happens to a record that does not parse. And
  `ListListeners` makes strings of the names of all clients, which are null pointers for a
  client that has not given them.
* **Two answers.** `SavePairRecord` tells the listening clients that a device is paired before
  it sends its result. If the client that has sent the request is listening itself, and its
  tag was `0`, both packets carry the tag of the request.

These are all the ways not to have one answer (`Usbmuxd.Answers.answered_iff_speaks`).
-/

namespace Usbmuxd

namespace Answers

open Requests Sysconf

/-! ### Property lists -/

/-- A value in a property list, as far as `processData` can tell values apart. Of data it only
matters whether it parses as a pair record. -/
inductive Node
  /-- `PLIST_UINT`. -/
  | uint (val : ℕ)
  /-- `PLIST_STRING`. -/
  | string (val : List Char)
  /-- `PLIST_DATA`, and whether `plist_from_memory` makes a property list of it. -/
  | data (parses : Bool)
  /-- Anything else. -/
  | other
  deriving DecidableEq

/-- `plist_get_uint_val`, which `processData` calls only on a node whose type is `PLIST_UINT`. A
number that is given as a string therefore counts as missing. -/
def Node.getUintVal : Node → Option ℕ
  | uint val => some val
  | _ => none

/-- `plist_get_string_ptr`, which gives null for everything that is not a string. -/
def Node.getStringPtr : Node → Option (List Char)
  | string val => some val
  | _ => none

/-- What becomes of a `PairRecordData`: it has to be data, and the data has to be a property
list of its own. For both there is a `retassure`, so that the client is thrown out if it is not
so. -/
def Node.pairRecordData : Node → PairRecordData
  | data true => .parsed
  | data false => .unparsable
  | _ => .notData

/-- The items that `processData` gets from a received dictionary, apart from its
`MessageType`. Every request may have any of them, and those that its kind does not ask for
are not looked at. -/
structure Fields where
  /-- `BundleID`. -/
  bundleID : Option Node
  /-- `ProgName`. -/
  progName : Option Node
  /-- `DeviceID`. -/
  deviceID : Option Node
  /-- `PortNumber`. -/
  portNumber : Option Node
  /-- `PairRecordID`. -/
  pairRecordID : Option Node
  /-- `PairRecordData`. -/
  pairRecordData : Option Node

/-- `MessageType`, the name by which a property list says what it asks for. All names that
`processData` does not know are one. -/
inductive MessageType
  /-- `Listen`. -/
  | listen
  /-- `Connect`. -/
  | connect
  /-- `ListDevices`. -/
  | listDevices
  /-- `ReadBUID`. -/
  | readBUID
  /-- `ReadPairRecord`. -/
  | readPairRecord
  /-- `SavePairRecord`. -/
  | savePairRecord
  /-- `DeletePairRecord`. -/
  | deletePairRecord
  /-- `RefreshWifiDiscovery`. -/
  | refreshWifiDiscovery
  /-- `ListListeners`. -/
  | listListeners
  /-- Any other string. -/
  | unexpected
  deriving DecidableEq

/-- A request of a supported version, as `recv_data` hands it on. The two binary kinds are older
than property lists, and have their values at fixed places. -/
inductive Request
  /-- `MESSAGE_PLIST`. -/
  | plist (message : MessageType) (fields : Fields)
  /-- `MESSAGE_LISTEN`. -/
  | listen
  /-- `MESSAGE_CONNECT`. -/
  | connect (deviceId portnum : ℕ)
  /-- Any other `hdr->message`. -/
  | invalid

/-! ### Packets -/

/-- What is in a packet. Nothing is said of the bytes, as it is only counted how many packets
there are and which tags they have. -/
inductive Content
  /-- `send_result`. -/
  | result (code : ℕ)
  /-- `DeviceList`, by the `_id` of each device. -/
  | deviceList (ids : List ℕ)
  /-- `BUID`. -/
  | buid (val : List Char)
  /-- `PairRecordData`. -/
  | pairRecordData
  /-- `ListenerList`: the number, the `BundleID` and the `ProgName` of each client. -/
  | listenerList (clients : List (ℕ × List Char × List Char))
  /-- `Attached`. -/
  | attached (id : ℕ)
  /-- `Paired`. -/
  | paired (id : ℕ)
  deriving DecidableEq

/-- `Attached`, of which a client gets one for each device when it starts to listen. Those are
no answers, although one that has the tag `0` may look like one. -/
def Content.isAttached : Content → Bool
  | attached _ => true
  | _ => false

/-- A packet that is sent to the client. What it is about and which tag it has is all by which
the client may know whether it is the answer. -/
structure Packet where
  /-- `hdr.tag`: that of the request, or `0` for a notification. A request may have the
  tag `0` as well. -/
  tag : ℕ
  /-- What is in it. -/
  content : Content
  deriving DecidableEq

/-- How `processData` ends. It makes a difference to the client only afterwards, when its next
request is read or not; an answer may have been sent before in all three cases. -/
inductive Ending
  /-- It returns, and the next request is read. -/
  | returned
  /-- It throws, and the client is dropped. -/
  | threw
  /-- It makes a string of a null pointer. -/
  | undefined
  deriving DecidableEq

/-- What `processData` does: the packets in the order in which they are sent, and then how it
ends. -/
structure Outcome where
  /-- The packets it sends to the client. -/
  packets : List Packet
  /-- How it ends. -/
  ending : Ending
  deriving DecidableEq

/-! ### What a request finds -/

/-- A client, as `getClientPlist` sees it. The two names are pointers that are null until the
client has given them, and that are made into strings without a look. -/
structure ClientInfo where
  /-- `_number`. -/
  number : ℕ
  /-- `_info.bundleID`, unless it is null. -/
  bundleID : Option (List Char)
  /-- `_info.progName`, unless it is null. -/
  progName : Option (List Char)
  deriving DecidableEq

/-- How `USBDevice::start_connect` turns out. The point is whether `TCP::connect` has sent a
result before something is thrown. -/
inductive Attempt
  /-- An exception before the device has taken the connection. -/
  | refused
  /-- `TCP::connect` returns. -/
  | established
  /-- `TCP::connect` has answered and has taken over `_fd`, and then `startLoop` throws. -/
  | loopNotStarted
  deriving DecidableEq

/-- All that decides how a request is answered, at the moment when it is. Nothing is assumed
about any of it, so that what is said of all worlds is said of all that may have happened
before. -/
structure World where
  /-- The files. -/
  disk : Disk
  /-- `SystemBUID` in the configuration, if that can be read. -/
  systemBUID : Option Node
  /-- What `sysconf_generate_system_buid` returns. -/
  generatedBUID : List Char
  /-- The `_id` and `_conntype` of each of the `_devices`. -/
  devices : List (ℕ × MuxConnType)
  /-- How an attempt to connect to a device and port turns out. -/
  attempt : ℕ → ℕ → Attempt
  /-- The client itself. -/
  self : ClientInfo
  /-- Whether the client is among the `_clients`. -/
  registered : Bool
  /-- `_isListening`. -/
  isListening : Bool
  /-- The other `_clients`. -/
  others : List ClientInfo

/-! ### The functions called -/

section Code

variable (w : World) (tag : ℕ) (fields : Fields)

/-- `RESULT_BADDEV`, for a property list that asks for a connection without a device or a
port. -/
def resultBadDev : ℕ := 2

/-- `RESULT_CONNREFUSED`, for everything that goes wrong before `TCP::connect` has sent its
result. -/
def resultConnRefused : ℕ := 3

/-- A packet with the tag of the request: `hdr.tag` is copied from one to the other. -/
def answer (content : Content) : Packet := ⟨tag, content⟩

/-- A notification, which is sent with `send_plist_pkt(0, …)`. The tag is meant to be one that
no request has, but no request is refused for having it. -/
def notification (content : Content) : Packet := ⟨0, content⟩

/-- `send_result`, and return: the way out that most errors take. -/
def sendResult (code : ℕ) : Outcome := ⟨[answer tag (.result code)], .returned⟩

/-- `Client::update_client_info`. What the client has said before stays, unless it says
something else now. -/
def updateClientInfo : ClientInfo where
  number := w.self.number
  bundleID := (fields.bundleID.bind Node.getStringPtr).or w.self.bundleID
  progName := (fields.progName.bind Node.getStringPtr).or w.self.progName

/-- `_clients`, once the information has been updated. The client itself is among them unless it
has been removed by another thread. -/
def clients : List ClientInfo :=
  if w.registered then updateClientInfo w fields :: w.others else w.others

/-- `Muxer::getClientPlist`, which makes strings of the names. It is `none` when one of them is
a null pointer, from which no string can be made. -/
def getClientPlist (cli : ClientInfo) : Option (ℕ × List Char × List Char) :=
  match cli.bundleID, cli.progName with
  | some bundleID, some progName => some (cli.number, bundleID, progName)
  | _, _ => none

/-- `Muxer::send_listenerList`. All clients are listed, not only those that listen, so that a
client that has said nothing yet is in the way of everybody. -/
def sendListenerList : Outcome :=
  match (clients w fields).mapM getClientPlist with
  | some list => ⟨[answer tag (.listenerList list)], .returned⟩
  | none => ⟨[], .undefined⟩

/-- `sysconf_get_value` for the key `SystemBUID`. A configuration that cannot be read has no
values. -/
def getSystemBUID : Option Node :=
  if w.disk.succeeds (.read (getDeviceRecordPath w.disk configFile)) then w.systemBUID else none

/-- `sysconf_get_system_buid`; `none` when it throws. -/
def sysconfGetSystemBuid : Option (List Char) :=
  match getSystemBUID w with
  | some node => node.getStringPtr
  -- a new one is made, and `sysconf_set_value` has to write it
  | none => if w.disk.succeeds (.write (getDeviceRecordPath w.disk configFile)) then
      some w.generatedBUID else none

/-- `Muxer::start_connect`. The device is looked for by its ID, and a connection over WiFi is
never made in this way. -/
def startConnect (deviceId dport : ℕ) : Attempt :=
  match w.devices.find? fun d => d.1 = deviceId with
  | none => .refused
  | some (_, .muxconnWifi) => .refused
  | some (_, .muxconnUsb) => w.attempt deviceId dport

/-- `PLIST_CLIENT_CONNECTION_LOC`. The client is thrown out in all cases but the first, since
its descriptor belongs to the connection from then on; the result has been sent by
`TCP::connect` at that point. -/
def connectionLoc (deviceId portnum : ℕ) : Outcome :=
  match startConnect w deviceId portnum with
  | .refused => sendResult tag resultConnRefused
  -- “graceful kill”
  | .established => ⟨[answer tag (.result resultOk)], .threw⟩
  -- nothing more can be sent, since `_fd` is gone
  | .loopNotStarted => ⟨[answer tag (.result resultOk)], .threw⟩

/-- `PLIST_CLIENT_LISTEN_LOC`: the result first, and then an `Attached` for each device, as a
client would otherwise not know of the devices that are there already. -/
def listenLoc : Outcome :=
  ⟨answer tag (.result resultOk) :: w.devices.map fun d => notification (.attached d.1),
    .returned⟩

/-- `ntohs` of the low half. Only a property list has its port swapped so; the binary request
has it in this order already. -/
def ntohs (n : ℕ) : ℕ := n % 256 * 256 + n / 256 % 256

/-- `(int)n`, as a `uint64_t`. The ID goes through an `int` on its way into the notification,
and one of the upper half comes out as a different number. -/
def castInt (n : ℕ) : ℕ :=
  if n % 2 ^ 32 < 2 ^ 31 then n % 2 ^ 32 else n % 2 ^ 32 + (2 ^ 64 - 2 ^ 32)

/-- What the client is sent by `Muxer::notify_device_paired`, if `SavePairRecord` calls it. The
muxer makes no exception for the client that has caused the notification. -/
def notifyDevicePaired : List Packet :=
  match fields.deviceID.bind Node.getUintVal with
  | some intval => if w.registered && w.isListening then
      [notification (.paired (castInt intval))] else []
  | none => []

/-- The `PairRecordID`, which names the record. One that is not a string counts as missing. -/
def Fields.recordId (fields : Fields) : Option (List Char) :=
  fields.pairRecordID.bind Node.getStringPtr

/-- The end of a record request. What follows a successful change is told to the listening
clients first, and only then is the result sent. -/
def recordLoc (notifications : List Packet) : Reply → Outcome
  | .result code => ⟨(if code = resultOk then notifications else []) ++
      [answer tag (.result code)], .returned⟩
  | .pairRecordData => ⟨[answer tag .pairRecordData], .returned⟩
  | .threw => ⟨[], .threw⟩

/-- `Client::processData`, for a property list, with one case for each kind of request. Each of
them checks its fields in the order of the source, since the first that is missing decides the
error code. -/
def processPlist : MessageType → Outcome
  | .listen => listenLoc w tag
  | .connect =>
    match fields.deviceID.bind Node.getUintVal, fields.portNumber.bind Node.getUintVal with
    | none, _ => sendResult tag resultBadDev
    | some _, none => sendResult tag resultBadDev
    | some deviceId, some portnum => connectionLoc w tag (deviceId % 2 ^ 32) (ntohs portnum)
  | .listDevices => ⟨[answer tag (.deviceList (w.devices.map Prod.fst))], .returned⟩
  | .readBUID =>
    match sysconfGetSystemBuid w with
    | some buid => ⟨[answer tag (.buid buid)], .returned⟩
    | none => ⟨[], .threw⟩
  | .readPairRecord =>
    recordLoc tag [] (Sysconf.processData w.disk (.readPairRecord fields.recordId)).2
  | .savePairRecord =>
    recordLoc tag (notifyDevicePaired w fields) (Sysconf.processData w.disk
      (.savePairRecord fields.recordId (fields.pairRecordData.map Node.pairRecordData))).2
  | .deletePairRecord =>
    recordLoc tag [] (Sysconf.processData w.disk (.deletePairRecord fields.recordId)).2
  | .refreshWifiDiscovery => sendResult tag resultOk
  | .listListeners => sendListenerList w tag fields
  | .unexpected => sendResult tag resultBadCommand

/-- `Client::processData`, for a request of a supported version. Others are answered with
`RESULT_BADVERSION` before anything is looked at. -/
def processData : Request → Outcome
  | .plist message fields => processPlist w tag fields message
  | .listen => listenLoc w tag
  | .connect deviceId portnum => connectionLoc w tag deviceId portnum
  | .invalid => sendResult tag resultBadCommand

end Code

/-! ### One answer -/

/-- **What answers a request**: the packets that carry its tag, apart from the `Attached`
notifications. -/
def Outcome.answers (tag : ℕ) (outcome : Outcome) : List Packet :=
  outcome.packets.filter fun p => p.tag = tag && !p.content.isAttached

/-- **A request has its one answer**: one packet that carries its tag has been sent, and
besides it nothing but notifications. -/
structure Answered (tag : ℕ) (outcome : Outcome) : Prop where
  /-- There is one packet with the tag of the request. -/
  one : (outcome.answers tag).length = 1
  /-- Nothing has the tag of another request. -/
  rest : ∀ p ∈ outcome.packets, p.tag = tag ∨ p.tag = 0
  /-- The daemon is still alive. -/
  alive : outcome.ending ≠ .undefined

/-- **What it takes for a request to be answered once**: the files it changes can be changed, a
pair record parses, the clients it lists have given their names, and a client that listens
does not use the tag of the notifications where it causes one. -/
def Speaks (w : World) (tag : ℕ) : Request → Prop
  | .plist .readBUID _ =>
    (∀ node, getSystemBUID w = some node → node.getStringPtr ≠ none) ∧
      (getSystemBUID w = none →
        w.disk.succeeds (.write (getDeviceRecordPath w.disk configFile)) = true)
  | .plist .savePairRecord fields =>
    ∀ recordId node, fields.recordId = some recordId → fields.pairRecordData = some node →
      node = .data true ∧ w.disk.entries ≠ none ∧
        w.disk.succeeds (.write (getDeviceRecordPath w.disk (cStr recordId))) = true ∧
        (tag = 0 → w.registered = true → w.isListening = true →
          fields.deviceID.bind Node.getUintVal = none)
  | .plist .deletePairRecord fields =>
    ∀ recordId, fields.recordId = some recordId → w.disk.entries ≠ none ∧
      w.disk.succeeds (.remove (getDeviceRecordPath w.disk (cStr recordId))) = true
  | .plist .listListeners fields =>
    ∀ cli ∈ clients w fields, cli.bundleID ≠ none ∧ cli.progName ≠ none
  | _ => True

/-! ### The ways out -/

section WaysOut

variable {w : World} {tag : ℕ} {fields : Fields}

/-- **One packet with the tag** is sent, and nothing else, whatever happens afterwards. Most of
the ways out have this form. -/
theorem answered_singleton (tag : ℕ) {content : Content} (hcontent : content.isAttached = false)
    {ending : Ending} (hending : ending ≠ .undefined) :
    Answered tag ⟨[answer tag content], ending⟩ where
  one := by simp [Outcome.answers, answer, hcontent]
  rest p hp := Or.inl (List.mem_singleton.mp hp ▸ rfl)
  alive := hending

theorem answered_sendResult (tag code : ℕ) : Answered tag (sendResult tag code) :=
  answered_singleton tag rfl (by simp)

/-- The `Attached` notifications do not count, whatever the tag of the request. So it makes no
difference here if a client has used the tag `0`. -/
theorem answered_listenLoc (w : World) (tag : ℕ) : Answered tag (listenLoc w tag) where
  one := by
    have hnone : (w.devices.map fun d => notification (.attached d.1)).filter
        (fun p => p.tag = tag && !p.content.isAttached) = [] := by
      rw [List.filter_eq_nil_iff]
      intro p hp
      obtain ⟨d, -, rfl⟩ := List.mem_map.mp hp
      simp [notification, Content.isAttached]
    have hanswers : (listenLoc w tag).answers tag = [answer tag (.result resultOk)] := by
      rw [Outcome.answers, listenLoc]
      dsimp only
      rw [List.filter_cons_of_pos (by simp [answer, Content.isAttached]), hnone]
    rw [hanswers]
    rfl
  rest p hp := by
    rcases List.mem_cons.mp hp with rfl | hp
    · exact Or.inl rfl
    · obtain ⟨d, -, rfl⟩ := List.mem_map.mp hp
      exact Or.inr rfl
  alive := by simp [listenLoc]

/-- **A connect request is always answered**: by `TCP::connect`, or with an error, and never by
both, since nothing is sent after `_fd` has been given away. -/
theorem answered_connectionLoc (w : World) (tag deviceId portnum : ℕ) :
    Answered tag (connectionLoc w tag deviceId portnum) := by
  rw [connectionLoc]
  cases startConnect w deviceId portnum with
  | refused => exact answered_sendResult tag _
  | established => exact answered_singleton tag rfl (by simp)
  | loopNotStarted => exact answered_singleton tag rfl (by simp)

/-- An exception without an answer: the client is dropped, and it does not know why. -/
theorem not_answered_threw (tag : ℕ) : ¬ Answered tag ⟨[], .threw⟩ :=
  fun h => absurd h.one (by simp [Outcome.answers])

/-- A notification that is no `Attached`. If the request has the tag `0` as well, such a packet
cannot be told from the answer. -/
def Packet.IsPaired (p : Packet) : Prop := p.tag = 0 ∧ p.content.isAttached = false

/-- **A record request is answered once** unless it throws, or what it tells the listening clients
comes back to a client that has given its request the tag `0`. -/
theorem answered_recordLoc_iff {notifications : List Packet} {reply : Reply}
    (h : ∀ p ∈ notifications, p.IsPaired) :
    Answered tag (recordLoc tag notifications reply) ↔ reply ≠ .threw ∧
      (reply = .result resultOk → tag = 0 → notifications = []) := by
  cases reply with
  | threw => exact iff_of_false (not_answered_threw tag) fun hne => hne.1 rfl
  | pairRecordData =>
    exact iff_of_true (answered_singleton tag rfl (by simp)) ⟨by simp, nofun⟩
  | result code =>
    rcases eq_or_ne code resultOk with rfl | hcode
    · -- the notifications have the tag of the request if that is `0`
      have hanswers : ((recordLoc tag notifications (.result resultOk)).answers tag).length =
          (if tag = 0 then notifications.length else 0) + 1 := by
        have hself : [answer tag (.result resultOk)].filter
            (fun p => p.tag = tag && !p.content.isAttached) = [answer tag (.result resultOk)] := by
          simp [answer, Content.isAttached]
        rw [Outcome.answers, recordLoc, if_pos rfl, List.filter_append, hself, List.length_append,
          List.length_singleton]
        congr 1
        split_ifs with htag
        · rw [List.filter_eq_self.mpr]
          intro p hp
          simp [h p hp |>.1, h p hp |>.2, htag]
        · rw [List.length_eq_zero_iff, List.filter_eq_nil_iff]
          intro p hp hcarries
          simp only [Bool.and_eq_true, decide_eq_true_eq] at hcarries
          exact htag (hcarries.1.symm.trans (h p hp).1)
      constructor
      · rintro ⟨hone, -, -⟩
        refine ⟨by simp, fun _ htag => ?_⟩
        rw [hanswers, if_pos htag] at hone
        exact List.length_eq_zero_iff.mp (by omega)
      · rintro ⟨-, hnone⟩
        refine ⟨?_, fun p hp => ?_, by simp [recordLoc]⟩
        · rw [hanswers]
          split_ifs with htag
          · rw [hnone rfl htag]
            rfl
          · rfl
        · rw [recordLoc, if_pos rfl] at hp
          rcases List.mem_append.mp hp with hp | hp
          · exact Or.inr (h p hp).1
          · exact Or.inl (List.mem_singleton.mp hp ▸ rfl)
    · have hsingle : recordLoc tag notifications (.result code) = sendResult tag code := by
        rw [recordLoc, if_neg hcode, List.nil_append, sendResult]
      rw [hsingle]
      refine iff_of_true (answered_sendResult tag code) ⟨by simp, fun heq => ?_⟩
      exact absurd (Reply.result.inj heq) hcode

/-- Without notifications a record request is answered unless it throws. This is so for reading
and for deleting a record. -/
theorem answered_recordLoc_nil_iff {reply : Reply} :
    Answered tag (recordLoc tag [] reply) ↔ reply ≠ .threw :=
  (answered_recordLoc_iff (by simp)).trans ⟨And.left, fun h => ⟨h, fun _ _ => rfl⟩⟩

theorem notifyDevicePaired_isPaired : ∀ p ∈ notifyDevicePaired w fields, p.IsPaired := by
  intro p hp
  rw [notifyDevicePaired] at hp
  split at hp
  · split at hp
    · obtain rfl := List.mem_singleton.mp hp
      exact ⟨rfl, rfl⟩
    · cases hp
  · cases hp

/-- When the client is told nothing: it is not in `_clients`, it does not listen, or the request
has no `DeviceID`. -/
theorem notifyDevicePaired_eq_nil_iff : notifyDevicePaired w fields = [] ↔
    (w.registered = true → w.isListening = true →
      fields.deviceID.bind Node.getUintVal = none) := by
  rw [notifyDevicePaired]
  cases hid : fields.deviceID.bind Node.getUintVal with
  | none => simp
  | some intval => cases w.registered <;> cases w.isListening <;> simp

/-! ### The record requests -/

/-- **A change of a record returns** when it succeeds and the directory can be read again. The
second is easily overlooked: the MAC addresses are read anew after every change. -/
theorem changeRecord_returns_iff (disk : Disk) (op : FileOp) :
    (changeRecord disk op).returns = true ↔ disk.entries ≠ none ∧ disk.succeeds op = true := by
  cases hop : disk.succeeds op with
  | false => simp [changeRecord, hop]
  | true =>
    cases hentries : disk.entries with
    | none => simp [changeRecord, hop, loadKnownMacaddrs, hentries]
    | some entries => simp [changeRecord, hop, loadKnownMacaddrs, hentries]

theorem readPairRecord_ne_threw (disk : Disk) (recordId : Option (List Char)) :
    (Sysconf.processData disk (.readPairRecord recordId)).2 ≠ .threw := by
  cases recordId with
  | none => simp [Sysconf.processData]
  | some recordId =>
    rw [Sysconf.processData]
    dsimp only
    split
    · simp
    · simp

theorem result_or_threw_ne {b : Bool} {code : ℕ} :
    (if b = true then Reply.result code else Reply.threw) ≠ .threw ↔ b = true := by
  cases b <;> simp

theorem deletePairRecord_ne_threw_iff (disk : Disk) (id? : Option (List Char)) :
    (Sysconf.processData disk (.deletePairRecord id?)).2 ≠ .threw ↔
      ∀ recordId, id? = some recordId → disk.entries ≠ none ∧
        disk.succeeds (.remove (getDeviceRecordPath disk (cStr recordId))) = true := by
  cases id? with
  | none => exact iff_of_true (by simp [Sysconf.processData]) (by simp)
  | some recordId =>
    rw [Sysconf.processData]
    refine (result_or_threw_ne.trans (changeRecord_returns_iff _ _)).trans ?_
    simp

/-- **Saving a record** either throws or succeeds, once there is a record with an identifier.
Both are said at once, since a success is what the notification depends on. -/
theorem savePairRecord_ne_threw_iff (disk : Disk) (id? : Option (List Char))
    (data? : Option Node) (P : Prop) :
    ((Sysconf.processData disk
        (.savePairRecord id? (data?.map Node.pairRecordData))).2 ≠ .threw ∧
      ((Sysconf.processData disk (.savePairRecord id? (data?.map Node.pairRecordData))).2 =
        .result resultOk → P)) ↔
      ∀ recordId node, id? = some recordId → data? = some node →
        node = .data true ∧ disk.entries ≠ none ∧
          disk.succeeds (.write (getDeviceRecordPath disk (cStr recordId))) = true ∧ P := by
  match id?, data? with
  | none, _ => exact iff_of_true ⟨by simp [Sysconf.processData], nofun⟩ (by simp)
  | some _, none => exact iff_of_true ⟨by simp [Sysconf.processData], nofun⟩ (by simp)
  | some recordId, some (.data true) =>
    have hreply : (Sysconf.processData disk (.savePairRecord (some recordId)
        ((some (.data true)).map Node.pairRecordData))).2 =
      if (setDeviceRecord disk (cStr recordId)).returns then .result resultOk else .threw := rfl
    have hreturns : (setDeviceRecord disk (cStr recordId)).returns = true ↔ disk.entries ≠ none ∧
        disk.succeeds (.write (getDeviceRecordPath disk (cStr recordId))) = true :=
      changeRecord_returns_iff _ _
    rw [hreply]
    cases hset : (setDeviceRecord disk (cStr recordId)).returns with
    | false =>
      refine iff_of_false (fun h => h.1 rfl) fun h => ?_
      obtain ⟨-, hentries, hwrite, -⟩ := h recordId _ rfl rfl
      exact absurd (hset.symm.trans (hreturns.mpr ⟨hentries, hwrite⟩)) (by simp)
    | true =>
      obtain ⟨hentries, hwrite⟩ := hreturns.mp hset
      constructor
      · rintro ⟨-, hP⟩ recordId' node hid hnode
        cases hid
        cases hnode
        exact ⟨rfl, hentries, hwrite, hP rfl⟩
      · intro h
        exact ⟨by simp, fun _ => (h recordId _ rfl rfl).2.2.2⟩
  -- what is not a property list is not written
  | some _, some (.uint _) => exact iff_of_false (fun hne => hne.1 rfl) (by simp)
  | some _, some (.string _) => exact iff_of_false (fun hne => hne.1 rfl) (by simp)
  | some _, some (.data false) => exact iff_of_false (fun hne => hne.1 rfl) (by simp)
  | some _, some .other => exact iff_of_false (fun hne => hne.1 rfl) (by simp)

/-! ### The other requests that may fail -/

/-- **`ReadBUID` is answered** when the identifier is a string, or there is none and a new one
is written. In between, a value of another type in the configuration is an exception. -/
theorem answered_readBUID_iff :
    Answered tag (processPlist w tag fields .readBUID) ↔
      Speaks w tag (.plist .readBUID fields) := by
  rw [processPlist, Speaks, sysconfGetSystemBuid]
  cases hvalue : getSystemBUID w with
  | none =>
    cases hwrite : w.disk.succeeds (.write (getDeviceRecordPath w.disk configFile)) with
    | false => exact iff_of_false (not_answered_threw tag) (by simp)
    | true => exact iff_of_true (answered_singleton tag rfl (by simp)) (by simp)
  | some node =>
    dsimp only
    cases hstr : node.getStringPtr with
    | none => exact iff_of_false (not_answered_threw tag) (by simp [hstr])
    | some buid => exact iff_of_true (answered_singleton tag rfl (by simp)) (by simp [hstr])

/-- A list is made of all the clients, unless there is one of which none is made. One such
client is enough, wherever it stands. -/
theorem mapM_getClientPlist_eq_none_iff {l : List ClientInfo} :
    l.mapM getClientPlist = none ↔ ∃ cli ∈ l, getClientPlist cli = none := by
  induction l with
  | nil => simp
  | cons cli l ih =>
    rw [List.mapM_cons]
    cases hcli : getClientPlist cli with
    | none => simp [hcli]
    | some entry =>
      cases hrest : l.mapM getClientPlist with
      | none =>
        obtain ⟨other, hmem, hnone⟩ := ih.mp hrest
        exact iff_of_true rfl ⟨other, List.mem_cons_of_mem _ hmem, hnone⟩
      | some rest =>
        refine iff_of_false (by simp) ?_
        rintro ⟨other, hmem, hnone⟩
        rcases List.mem_cons.mp hmem with rfl | hmem
        · exact absurd (hcli.symm.trans hnone) (by simp)
        · exact absurd (hrest.symm.trans (ih.mpr ⟨other, hmem, hnone⟩)) (by simp)

theorem getClientPlist_eq_none_iff (cli : ClientInfo) :
    getClientPlist cli = none ↔ ¬(cli.bundleID ≠ none ∧ cli.progName ≠ none) := by
  obtain ⟨number, bundleID, progName⟩ := cli
  cases bundleID <;> cases progName <;> simp [getClientPlist]

/-- **`ListListeners` is answered** when every client has given its names, the one that asks
included: its own are updated by the request. -/
theorem answered_listListeners_iff : Answered tag (processPlist w tag fields .listListeners) ↔
    Speaks w tag (.plist .listListeners fields) := by
  rw [processPlist, Speaks, sendListenerList]
  cases hlist : (clients w fields).mapM getClientPlist with
  | none =>
    obtain ⟨cli, hmem, hnone⟩ := mapM_getClientPlist_eq_none_iff.mp hlist
    refine iff_of_false (fun h => h.alive rfl) ?_
    intro hall
    exact (getClientPlist_eq_none_iff cli).mp hnone (hall cli hmem)
  | some list =>
    refine iff_of_true (answered_singleton tag rfl (by simp)) ?_
    intro cli hmem
    by_contra hnone
    have hfails := mapM_getClientPlist_eq_none_iff.mpr
      ⟨cli, hmem, (getClientPlist_eq_none_iff cli).mpr hnone⟩
    exact absurd (hlist.symm.trans hfails) (by simp)

/-! ### All requests -/

/-- **Every way not to have one answer.** In every state of the devices, the clients and the
files, and however the attempts turn out, a request has its one answer if and only if the
files it changes can be changed, a pair record parses, the clients it lists have given
their names, and the client is not told with the tag of its own request that a device has
been paired. -/
theorem answered_iff_speaks (w : World) (tag : ℕ) (req : Request) :
    Answered tag (processData w tag req) ↔ Speaks w tag req := by
  cases req with
  | listen => exact iff_of_true (answered_listenLoc w tag) trivial
  | connect deviceId portnum =>
    exact iff_of_true (answered_connectionLoc w tag deviceId portnum) trivial
  | invalid => exact iff_of_true (answered_sendResult tag _) trivial
  | plist message fields =>
    cases message with
    | listen => exact iff_of_true (answered_listenLoc w tag) trivial
    | connect =>
      refine iff_of_true ?_ trivial
      rw [processData, processPlist]
      split
      · exact answered_sendResult tag _
      · exact answered_sendResult tag _
      · exact answered_connectionLoc w tag _ _
    | listDevices => exact iff_of_true (answered_singleton tag rfl (by simp)) trivial
    | readBUID => exact answered_readBUID_iff
    | readPairRecord =>
      refine iff_of_true ?_ trivial
      exact answered_recordLoc_nil_iff.mpr (readPairRecord_ne_threw _ _)
    | savePairRecord =>
      have hsaved := savePairRecord_ne_threw_iff w.disk fields.recordId fields.pairRecordData
        (tag = 0 → notifyDevicePaired w fields = [])
      refine (answered_recordLoc_iff notifyDevicePaired_isPaired).trans (hsaved.trans ?_)
      simp only [notifyDevicePaired_eq_nil_iff]
      exact Iff.rfl
    | deletePairRecord =>
      exact answered_recordLoc_nil_iff.trans (deletePairRecord_ne_threw_iff _ _)
    | refreshWifiDiscovery => exact iff_of_true (answered_sendResult tag _) trivial
    | listListeners => exact answered_listListeners_iff
    | unexpected => exact iff_of_true (answered_sendResult tag _) trivial

/-- A dictionary with nothing but a `MessageType`. -/
def noFields : Fields := ⟨none, none, none, none, none, none⟩

/-- The identifier of a record, and data that is not a property list. -/
def badRecord : Fields :=
  { noFields with pairRecordID := some (.string ['x']), pairRecordData := some (.data false) }

/-- A disk on which nothing succeeds, and a client that has not given its names. -/
def emptyWorld : World where
  disk := { varLibLockdown with succeeds := fun _ => false }
  systemBUID := none
  generatedBUID := []
  devices := []
  attempt := fun _ _ => .refused
  self := ⟨1, none, none⟩
  registered := true
  isListening := false
  others := []

/-- The identifier of a record, the record, and the device it is for. -/
def goodRecord : Fields :=
  { noFields with
    deviceID := some (.uint 1)
    pairRecordID := some (.string ['x'])
    pairRecordData := some (.data true) }

/-- A disk on which everything succeeds, and a client that listens. -/
def listeningWorld : World :=
  { emptyWorld with
    disk := varLibLockdown
    isListening := true }

/-- **Requests without an answer**: to delete a record that is not there, to save one that
does not parse, to read an identifier that cannot be written, and to list a client that has
not given its names. **And one with two**: a client that listens saves a record with the tag
`0`, and is told that the device is paired. -/
theorem no_answer :
    ¬ Answered 7 (processData emptyWorld 7 (.plist .deletePairRecord badRecord)) ∧
    ¬ Answered 7 (processData emptyWorld 7 (.plist .savePairRecord badRecord)) ∧
    ¬ Answered 7 (processData emptyWorld 7 (.plist .readBUID noFields)) ∧
    ¬ Answered 7 (processData emptyWorld 7 (.plist .listListeners noFields)) ∧
    ¬ Answered 0 (processData listeningWorld 0 (.plist .savePairRecord goodRecord)) := by
  refine ⟨?_, ?_, ?_, ?_, ?_⟩
  · exact fun h => absurd h.one (by decide)
  · exact fun h => absurd h.one (by decide)
  · exact fun h => absurd h.one (by decide)
  · exact fun h => absurd h.alive (by decide)
  · exact fun h => absurd h.one (by decide)

end WaysOut

end Answers

end Usbmuxd
