import Mathlib.Data.List.TakeWhile
import Usbmuxd.Library.Paths

/-!
# The pair records

A client asks for the pair record of a device, saves one or deletes one with the
requests `ReadPairRecord`, `SavePairRecord` and `DeletePairRecord`, and names the
record by a string of its own choice, the `PairRecordID`. The functions of
`sysconf.cpp` put this string between the configuration directory and `.plist`, and
open or remove the file at that path. A successful save or removal is followed by a
rescan of the directory for the addresses that the records hold.

## What goes wrong

No one looks at the string. It is cut at its first NUL, and a separator in it leads
elsewhere, so that the file is the record named in the request exactly when the string
has neither; and the string `SystemConfiguration` names the daemon's own configuration
(`Usbmuxd.Sysconf.PlainId`). The rescan takes its names from the directory, and leaves
the configuration out.
-/

namespace Usbmuxd

namespace Sysconf

/-! ### Files -/

/-- The character that ends a C string. A `std::string` may have it anywhere. -/
def nul : Char := Char.ofNat 0

/-- `std::string::c_str()`, as a function that takes a C string reads it: up to the first zero,
whatever comes after that. -/
def cStr (s : List Char) : List Char := s.takeWhile (· ≠ nul)

/-- `CONFIG_FILE`, the name of the configuration, which is in the same directory as the
records. -/
def configFile : List Char :=
  ['S', 'y', 's', 't', 'e', 'm', 'C', 'o', 'n', 'f', 'i', 'g', 'u', 'r', 'a', 't', 'i', 'o', 'n']

/-- The extension of a property list, which is put behind every name. -/
def plistSuffix : List Char := ['.', 'p', 'l', 'i', 's', 't']

/-- What the functions of `sysconf.cpp` do with a file, given its path. The path is all by which
the system finds the file. -/
inductive FileOp
  /-- `readPlist`. -/
  | read (path : List Char)
  /-- `writePlistToFile`. -/
  | write (path : List Char)
  /-- `remove`. -/
  | remove (path : List Char)
  deriving DecidableEq

/-- The path it is given, which may lead anywhere. -/
def FileOp.path : FileOp → List Char
  | read path => path
  | write path => path
  | remove path => path

/-- An entry of a directory, as `readdir` returns it. One whose type the file system does not
know is passed over, like a directory. -/
structure DirEntry where
  /-- `ent->d_name`. -/
  name : List Char
  /-- `ent->d_type == DT_REG`. -/
  isReg : Bool
  /-- Only directories are called `.` and `..`, and no name has a separator in it. -/
  ordinary : isReg = true → Paths.Ordinary '/' '.' name

/-- What a request finds on the disk, and how the calls it makes turn out. -/
structure Disk where
  /-- The directory the daemon runs in. -/
  cwd : List (List Char)
  /-- `sysconf_get_config_dir()`. -/
  configDir : List Char
  /-- Whether an operation succeeds. -/
  succeeds : FileOp → Bool
  /-- What `opendir` and `readdir` return for the configuration directory, if that
  directory can be opened. -/
  entries : Option (List DirEntry)

/-! ### The functions of `sysconf.cpp` -/

/-- `get_device_record_path`: the directory, a separator, the identifier and the extension, with
no look at what is in the identifier. -/
def getDeviceRecordPath (disk : Disk) (udid : List Char) : List Char :=
  disk.configDir ++ '/' :: (udid ++ plistSuffix)

/-- The path that `sysconf_load_known_macaddrs` makes of an entry. An entry has no separator in
its name. -/
def entryPath (disk : Disk) (ent : DirEntry) : List Char := disk.configDir ++ '/' :: ent.name

/-- `sysconf_load_known_macaddrs`: every regular file is read except `sysconfigpath`;
`none` when the directory cannot be opened. A record that cannot be read is passed over. -/
def loadKnownMacaddrs (disk : Disk) : Option (List FileOp) :=
  disk.entries.map fun entries =>
    (entries.filter fun ent =>
        ent.isReg && decide (entryPath disk ent ≠ getDeviceRecordPath disk configFile)).map
      fun ent => .read (entryPath disk ent)

/-- What a call for a device record does: one operation on a file, those of the rescan, and
whether it returns. -/
structure Effect where
  /-- The operation on the record. -/
  record : FileOp
  /-- The operations of the rescan, if it comes to one. -/
  rescan : List FileOp
  /-- Whether the call returns; otherwise it throws. -/
  returns : Bool
  deriving DecidableEq

/-- `sysconf_get_device_record`, which reads one file, and does nothing else. -/
def getDeviceRecord (disk : Disk) (udid : List Char) : Effect :=
  let op := .read (getDeviceRecordPath disk udid)
  ⟨op, [], disk.succeeds op⟩

/-- An operation on a record, and the rescan when it has succeeded. If the rescan fails, the
record has been changed all the same. -/
def changeRecord (disk : Disk) (op : FileOp) : Effect :=
  if disk.succeeds op then
    match loadKnownMacaddrs disk with
    | none => ⟨op, [], false⟩
    | some ops => ⟨op, ops, true⟩
  else ⟨op, [], false⟩

/-- `sysconf_set_device_record`, which writes the file of the record. -/
def setDeviceRecord (disk : Disk) (udid : List Char) : Effect :=
  changeRecord disk (.write (getDeviceRecordPath disk udid))

/-- `sysconf_remove_device_record`, which removes it. -/
def removeDeviceRecord (disk : Disk) (udid : List Char) : Effect :=
  changeRecord disk (.remove (getDeviceRecordPath disk udid))

/-! ### The requests -/

/-- What `plist_get_data_ptr` and `plist_from_memory` make of a `PairRecordData`. Only in the
last of the three cases is a record written. -/
inductive PairRecordData
  /-- It is not data. -/
  | notData
  /-- It is data, but not a property list. -/
  | unparsable
  /-- It is a property list. -/
  | parsed
  deriving DecidableEq

/-- The record requests. The identifier is missing when there is no `PairRecordID` or
it is not a string. -/
inductive RecordRequest
  /-- `ReadPairRecord`. -/
  | readPairRecord (recordId : Option (List Char))
  /-- `SavePairRecord`. -/
  | savePairRecord (recordId : Option (List Char)) (pairRecord : Option PairRecordData)
  /-- `DeletePairRecord`. -/
  | deletePairRecord (recordId : Option (List Char))
  deriving DecidableEq

/-- How a request ends for the client. Of the packet with a record only its kind is told. -/
inductive Reply
  /-- `send_result`, with this code. -/
  | result (code : ℕ)
  /-- A packet with the `PairRecordData`. -/
  | pairRecordData
  /-- An exception, which ends the connection. -/
  | threw
  deriving DecidableEq

/-- `RESULT_OK`. -/
def resultOk : ℕ := 0

/-- `ENOENT`, the answer if a record cannot be read, for whatever reason. -/
def enoent : ℕ := 2

/-- `EINVAL`, the answer if something is missing in the request. -/
def einval : ℕ := 22

/-- `Client::processData` for a record request: what is done with files, and how it ends. -/
def processData (disk : Disk) : RecordRequest → Option Effect × Reply
  | .readPairRecord none => (none, .result einval)
  | .readPairRecord (some recordId) =>
    let effect := getDeviceRecord disk (cStr recordId)
    (some effect, if effect.returns then .pairRecordData else .result enoent)
  | .savePairRecord none _ => (none, .result einval)
  | .savePairRecord (some _) none => (none, .result einval)
  | .savePairRecord (some _) (some .notData) => (none, .threw)
  | .savePairRecord (some _) (some .unparsable) => (none, .threw)
  | .savePairRecord (some recordId) (some .parsed) =>
    let effect := setDeviceRecord disk (cStr recordId)
    (some effect, if effect.returns then .result resultOk else .threw)
  | .deletePairRecord none => (none, .result einval)
  | .deletePairRecord (some recordId) =>
    let effect := removeDeviceRecord disk (cStr recordId)
    (some effect, if effect.returns then .result resultOk else .threw)

/-- The `PairRecordID` of a request. -/
def RecordRequest.recordId : RecordRequest → Option (List Char)
  | readPairRecord recordId => recordId
  | savePairRecord recordId _ => recordId
  | deletePairRecord recordId => recordId

/-- The `PairRecordID` of a request that has all it needs. Other requests are answered before
any file is looked for. -/
def RecordRequest.asksFor : RecordRequest → Option (List Char)
  | readPairRecord recordId => recordId
  | savePairRecord recordId (some .parsed) => recordId
  | savePairRecord _ _ => none
  | deletePairRecord recordId => recordId

/-! ### Staying inside -/

/-- The configuration directory, as the place to which its path leads. -/
def configDirectory (disk : Disk) : List (List Char) :=
  Paths.resolve '/' '.' disk.cwd (disk.configDir ++ ['/'])

/-- The file an operation is about, as the place to which its path leads. Two paths may lead to
the same one. -/
def FileOp.file (disk : Disk) (op : FileOp) : List (List Char) :=
  Paths.resolve '/' '.' disk.cwd op.path

/-- The entry of the configuration directory with a name and `.plist`. This is where a record
belongs. -/
def recordFile (disk : Disk) (recordId : List Char) : List (List Char) :=
  configDirectory disk ++ [recordId ++ plistSuffix]

/-- **A call stays inside the configuration directory**: the file of the record is the
entry named `<id>.plist` and not the daemon's own configuration, and the rescan does no
more than read entries, the configuration not among them. -/
structure Effect.StaysInside (disk : Disk) (recordId : List Char) (effect : Effect) : Prop where
  /-- The file of the record is the one its identifier names. -/
  record_eq : effect.record.file disk = recordFile disk recordId
  /-- It is not `SystemConfiguration.plist`. -/
  record_ne : effect.record.file disk ≠ recordFile disk configFile
  /-- The rescan reads other entries of the directory. -/
  rescan_read : ∀ op ∈ effect.rescan, ∃ path name, op = .read path ∧
    op.file disk = configDirectory disk ++ [name] ∧ name ≠ configFile ++ plistSuffix

/-- **A request stays inside the configuration directory**, whatever it does with files: each is
an entry of the directory, and it is the one of this record or is only read. -/
def StaysInside (disk : Disk) (req : RecordRequest) : Prop :=
  ∀ recordId effect, req.recordId = some recordId → (processData disk req).1 = some effect →
    effect.StaysInside disk recordId

/-- An identifier that no part of the path is lost to, and that is not taken. -/
structure PlainId (recordId : List Char) : Prop where
  /-- It is one name. -/
  sep_notMem : '/' ∉ recordId
  /-- It is a C string. -/
  nul_notMem : nul ∉ recordId
  /-- It is not the name of the configuration. -/
  ne_configFile : recordId ≠ configFile

/-! ### What a request does -/

variable {disk : Disk} {req : RecordRequest} {recordId udid : List Char}

theorem changeRecord_record (disk : Disk) (op : FileOp) : (changeRecord disk op).record = op := by
  unfold changeRecord
  split
  · cases loadKnownMacaddrs disk <;> rfl
  · rfl

theorem changeRecord_rescan (disk : Disk) (op : FileOp) :
    (changeRecord disk op).rescan = [] ∨
      loadKnownMacaddrs disk = some (changeRecord disk op).rescan := by
  unfold changeRecord
  split
  · cases h : loadKnownMacaddrs disk with
    | none => exact .inl rfl
    | some ops => exact .inr rfl
  · exact .inl rfl

/-- **A request that has all it needs** operates on the file at the path made of its
identifier, and rescans the directory or not. -/
theorem exists_effect (disk : Disk) (h : req.asksFor = some recordId) :
    ∃ effect, (processData disk req).1 = some effect ∧
      effect.record.path = getDeviceRecordPath disk (cStr recordId) ∧
      (effect.rescan = [] ∨ loadKnownMacaddrs disk = some effect.rescan) := by
  cases req with
  | readPairRecord id? =>
    obtain rfl : id? = some recordId := h
    exact ⟨_, rfl, rfl, .inl rfl⟩
  | savePairRecord id? data? =>
    match data?, h with
    | some .parsed, h =>
      obtain rfl : id? = some recordId := h
      exact ⟨_, rfl, congrArg _ (changeRecord_record ..), changeRecord_rescan ..⟩
  | deletePairRecord id? =>
    obtain rfl : id? = some recordId := h
    exact ⟨_, rfl, congrArg _ (changeRecord_record ..), changeRecord_rescan ..⟩

/-- Any other request does nothing with files, since it is answered with an error or thrown out
before. -/
theorem no_effect (disk : Disk) (h : req.asksFor = none) : (processData disk req).1 = none := by
  cases req with
  | readPairRecord id? =>
    obtain rfl : id? = none := h
    rfl
  | savePairRecord id? data? =>
    match id?, data?, h with
    | none, _, _ => rfl
    | some _, none, _ => rfl
    | some _, some .notData, _ => rfl
    | some _, some .unparsable, _ => rfl
  | deletePairRecord id? =>
    obtain rfl : id? = none := h
    rfl

/-- What a request asks for is its `PairRecordID`, if anything. So there is nothing else by
which a file might be named. -/
theorem asksFor_eq_or (req : RecordRequest) : req.asksFor = req.recordId ∨ req.asksFor = none := by
  cases req with
  | readPairRecord id? => exact .inl rfl
  | savePairRecord id? data? =>
    match data? with
    | none => exact .inr rfl
    | some .notData => exact .inr rfl
    | some .unparsable => exact .inr rfl
    | some .parsed => exact .inl rfl
  | deletePairRecord id? => exact .inl rfl

/-- **The rescan reads entries of the directory** other than the configuration. It does not
write, and it follows no name out of the directory. -/
theorem loadKnownMacaddrs_read {ops : List FileOp} (h : loadKnownMacaddrs disk = some ops)
    {op : FileOp} (hop : op ∈ ops) : ∃ path name, op = .read path ∧
      op.file disk = configDirectory disk ++ [name] ∧ name ≠ configFile ++ plistSuffix := by
  obtain ⟨entries, -, rfl⟩ := Option.map_eq_some_iff.mp h
  obtain ⟨ent, hent, rfl⟩ := List.mem_map.mp hop
  obtain ⟨hreg, hne⟩ := (Bool.and_eq_true _ _).mp (List.mem_filter.mp hent).2
  refine ⟨_, ent.name, rfl, Paths.resolve_child _ _ (ent.ordinary hreg), ?_⟩
  intro hname
  -- The paths are compared, which differ in nothing but the name.
  refine of_decide_eq_true hne ?_
  rw [entryPath, hname, getDeviceRecordPath]

/-! ### Which file a path leads to -/

/-- With `.plist` at its end, what has no separator in it is an ordinary name. -/
theorem ordinary_plist {base : List Char} (h : '/' ∉ base) :
    Paths.Ordinary '/' '.' (base ++ plistSuffix) := by
  have hlen : 6 ≤ (base ++ plistSuffix).length := by
    rw [List.length_append]
    exact Nat.le_add_left ..
  refine ⟨?_, ?_, ?_, ?_⟩
  · rw [List.mem_append]
    rintro (hmem | hmem)
    · exact h hmem
    · exact absurd hmem (by decide)
  all_goals
    intro heq
    rw [heq] at hlen
    exact absurd hlen (by decide)

/-- **Without a separator**, the string names the entry of the directory, and nothing else can
come of it. -/
theorem resolve_of_notMem (disk : Disk) (h : '/' ∉ udid) :
    Paths.resolve '/' '.' disk.cwd (getDeviceRecordPath disk udid) = recordFile disk udid :=
  Paths.resolve_child _ _ (ordinary_plist h)

/-- **Whatever the string**, the last name of the file is what follows its last separator. -/
theorem exists_resolve_eq (disk : Disk) (udid : List Char) :
    ∃ place base, Paths.resolve '/' '.' disk.cwd (getDeviceRecordPath disk udid) =
        place ++ [base ++ plistSuffix] ∧ '/' ∉ base ∧
      (base = udid ∨ base.length < udid.length) := by
  by_cases hsep : '/' ∈ udid
  · obtain ⟨front, base, rfl, hbase⟩ := Paths.exists_last_part hsep
    have hpath : getDeviceRecordPath disk (front ++ '/' :: base) =
        (disk.configDir ++ '/' :: front) ++ '/' :: (base ++ plistSuffix) := by
      simp only [getDeviceRecordPath, List.append_assoc, List.cons_append]
    refine ⟨_, base, hpath ▸ Paths.resolve_child _ _ (ordinary_plist hbase), hbase, .inr ?_⟩
    rw [List.length_append, List.length_cons]
    omega
  · exact ⟨_, udid, resolve_of_notMem disk hsep, hsep, .inl rfl⟩

theorem length_cStr_le (s : List Char) : (cStr s).length ≤ s.length :=
  (List.takeWhile_prefix _).length_le

theorem nul_notMem_cStr (s : List Char) : nul ∉ cStr s := by
  intro h
  have hne := List.mem_takeWhile_imp (p := (· ≠ nul)) h
  exact of_decide_eq_true hne rfl

theorem cStr_eq_self (h : nul ∉ recordId) : cStr recordId = recordId := by
  refine List.takeWhile_eq_self_iff.mpr fun c hc => decide_eq_true ?_
  rintro rfl
  exact h hc

/-- Two entries of the directory are one when their names are, so that identifiers of different
devices do not meet. -/
theorem recordFile_inj {a b : List Char} (h : recordFile disk a = recordFile disk b) : a = b :=
  List.append_cancel_right (List.singleton_inj.mp (List.append_cancel_left h))

/-- **The path made of a string leads to the file that the string names** exactly when
the string has no separator and no NUL in it. -/
theorem resolve_eq_recordFile_iff : Paths.resolve '/' '.' disk.cwd
      (getDeviceRecordPath disk (cStr recordId)) = recordFile disk recordId ↔
    '/' ∉ recordId ∧ nul ∉ recordId := by
  constructor
  · intro h
    obtain ⟨place, base, hres, hbase, hlen⟩ := exists_resolve_eq disk (cStr recordId)
    -- The last names agree, and so nothing has been cut off in front or at the end.
    obtain rfl : base = recordId := by
      have hnames := (List.append_inj' (hres.symm.trans h) rfl).2
      exact List.append_cancel_right (List.singleton_inj.mp hnames)
    have hle := length_cStr_le base
    rcases hlen with hbase_eq | hlt
    · refine ⟨hbase, ?_⟩
      rw [hbase_eq]
      exact nul_notMem_cStr base
    · omega
  · rintro ⟨hsep, hnul⟩
    rw [cStr_eq_self hnul]
    exact resolve_of_notMem disk hsep

/-! ### All requests -/

/-- **A record request stays inside the configuration directory** exactly when the
identifier it comes to a file with, if it does, is plain. -/
theorem stays_inside_iff_plain (disk : Disk) (req : RecordRequest) :
    StaysInside disk req ↔ ∀ recordId, req.asksFor = some recordId → PlainId recordId := by
  rcases asksFor_eq_or req with hasksFor | hnothing
  swap
  · -- the request comes to no file
    rw [hnothing, StaysInside, no_effect disk hnothing]
    exact iff_of_true (fun _ _ _ heffect => nomatch heffect) (fun _ hasks => nomatch hasks)
  rw [StaysInside, ← hasksFor]
  constructor
  · intro h recordId hasks
    obtain ⟨effect, heffect, hpath, -⟩ := exists_effect disk hasks
    have hinside := h recordId effect hasks heffect
    -- the file is the one in the directory only if the separator and NUL are absent
    have heq := hinside.record_eq
    rw [FileOp.file, hpath, resolve_eq_recordFile_iff] at heq
    refine ⟨heq.1, heq.2, ?_⟩
    rintro rfl
    exact hinside.record_ne hinside.record_eq
  · intro h recordId effect hasks heffect
    obtain ⟨hsep, hnul, hne⟩ := h recordId hasks
    obtain ⟨effect', heffect', hpath, hrescan⟩ := exists_effect disk hasks
    obtain rfl : effect = effect' := Option.some.inj (heffect.symm.trans heffect')
    have hfile : effect.record.file disk = recordFile disk recordId := by
      rw [FileOp.file, hpath]
      exact resolve_eq_recordFile_iff.mpr ⟨hsep, hnul⟩
    refine ⟨hfile, ?_, ?_⟩
    · rw [hfile]
      exact fun heq => hne (recordFile_inj heq)
    · intro op hop
      -- what follows the record is a rescan at most, which only reads
      rcases hrescan with hnone | hsome
      · rw [hnone] at hop
        cases hop
      · exact loadKnownMacaddrs_read hsome hop

/-- A daemon that runs in the root directory with the default configuration directory,
in which there is the configuration and nothing else. -/
def varLibLockdown : Disk where
  cwd := []
  configDir := ['/', 'v', 'a', 'r', '/', 'l', 'i', 'b', '/', 'l', 'o', 'c', 'k', 'd', 'o', 'w', 'n']
  succeeds := fun _ => true
  entries := some [⟨configFile ++ plistSuffix, true, fun _ => by decide⟩]

/-- A way out of that directory, which a client may send as an identifier. -/
def escapingId : List Char :=
  ['.', '.', '/', '.', '.', '/', '.', '.', '/', 'e', 't', 'c', '/', 'x']

/-- **Requests that do not stay inside**: with the identifier `../../../etc/x`, a
`SavePairRecord` writes the file `/etc/x.plist`; and a `DeletePairRecord` of
`SystemConfiguration` removes the daemon's own configuration. -/
theorem saves_outside :
    (setDeviceRecord varLibLockdown (cStr escapingId)).record.file varLibLockdown =
      [['e', 't', 'c'], ['x', '.', 'p', 'l', 'i', 's', 't']] ∧
    ¬ StaysInside varLibLockdown (.savePairRecord (some escapingId) (some .parsed)) ∧
    ¬ StaysInside varLibLockdown (.deletePairRecord (some configFile)) := by
  have hfile : (setDeviceRecord varLibLockdown (cStr escapingId)).record.file varLibLockdown =
      [['e', 't', 'c'], ['x', '.', 'p', 'l', 'i', 's', 't']] := by decide
  refine ⟨hfile, ?_, ?_⟩
  · intro hinside
    have heq := (hinside escapingId _ rfl rfl).record_eq
    exact absurd (hfile.symm.trans heq) (by decide)
  · intro hinside
    have hrecord := hinside configFile _ rfl rfl
    exact hrecord.record_ne hrecord.record_eq

end Sysconf

end Usbmuxd
