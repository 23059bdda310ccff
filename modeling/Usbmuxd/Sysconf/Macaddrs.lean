import Mathlib.Data.Nat.ModEq
import Usbmuxd.Library.Interleaving
import Usbmuxd.Library.Keyed
import Usbmuxd.Sysconf.Records

/-!
# The MAC addresses that the pair records have

A device that is discovered is known by a MAC address, and the pair records say whose it is.
`gKnownMacAddrs` has the UDID for every `WiFiMACAddress` that is in a record. It is an index of
the directory: whenever a record was saved or removed the directory is read again, file by
file in the order in which `readdir` has them, and the UDID of a record is taken from the name
of its file. A lookup reads the directory only if nothing is known.

As long as no two records have the same address, the order does not matter
(`Keyed.Single.lookup_index_iff`), and it is only left to say what is taken for the UDID.

## What goes wrong

It is what stands in the path after the last `/` and before the *first* `.`. That is the UDID if
the path has no other `.` than that of `.plist`. If there is one in the UDID, the rest is cut
off; and if there is one in front, in the path of the directory, then the length of the UDID
comes out negative, which is very long for an unsigned number, and `.plist` remains
(`Usbmuxd.Sysconf.Macaddrs.uuidOfPath_eq`).
-/

namespace Usbmuxd

open Interleaving Keyed

namespace Sysconf

namespace Macaddrs

/-! ### Positions in a string -/

/-- `std::string::npos`, the largest value of a `size_t`, which is returned where nothing is
found. -/
def npos : ℕ := 2 ^ 64 - 1

/-- `s.find(c)`, the first place of a character. -/
def find (s : List Char) (c : Char) : ℕ := if c ∈ s then s.idxOf c else npos

/-- `s.find_last_of(c)`, the last place of a character, or `npos`. -/
def findLastOf (s : List Char) (c : Char) : ℕ :=
  if c ∈ s then s.length - 1 - s.reverse.idxOf c else npos

/-- `s.substr(pos, count)`, which takes less if there is not so much. -/
def substr (s : List Char) (pos count : ℕ) : List Char := (s.drop pos).take count

/-- `uuid`, as `sysconf_load_known_macaddrs` takes it from a path: from the last separator to
the first dot of the path, with a length that may wrap. -/
def uuidOfPath (path : List Char) : List Char :=
  let lastSlashPos := (findLastOf path '/' + 1) % 2 ^ 64
  let dotPos := find path '.'
  substr path lastSlashPos ((2 ^ 64 + dotPos - lastSlashPos) % 2 ^ 64)

/-! ### Records -/

/-- A pair record, as far as it is looked at. Of all its entries only the WiFi address
matters. -/
structure PairRecord where
  /-- `WiFiMACAddress`, if it has that and it is a string. -/
  wifiMacAddress : Option (List Char)
  deriving DecidableEq

/-- A file of the configuration directory: its name, and the record in it. What else may be in
the directory is left out. -/
abbrev File := Σ _ : List Char, PairRecord

/-- `gKnownMacAddrs`, from the addresses to the identifiers of the devices. -/
abbrev Known := AList fun _ : List Char => List Char

/-- The configuration directory, and what is known of it since it has last been read. -/
structure State where
  /-- The files. -/
  files : AList fun _ : List Char => PairRecord
  /-- `gKnownMacAddrs`. -/
  known : Known

/-- The directory is empty, and so nothing is known. -/
def start : State := ⟨∅, ∅⟩

section Functions

variable (disk : Disk)

/-- The path of a file, as the function puts it together. -/
def filePath (file : File) : List Char := disk.configDir ++ '/' :: file.1

/-- The file is not the one at `sysconfigpath`, which has no addresses. -/
def isRead (file : File) : Bool := decide (filePath disk file ≠ getDeviceRecordPath disk configFile)

/-- The record of a file becomes known, in the place of another one with the same address. -/
def addRecord (known : Known) (file : File) : Known :=
  match file.2.wifiMacAddress with
  | none => known
  | some macaddr => known.insert macaddr (uuidOfPath (filePath disk file))

/-- `sysconf_load_known_macaddrs`, for a directory that is listed like this. In which order that
is done is up to the file system. -/
def loadKnownMacaddrs (listing : List File) : Known :=
  (listing.filter (isRead disk)).foldl (addRecord disk) ∅

/-- `sysconf_udid_for_macaddr`: what it returns, if it does not throw, and what is known then. -/
def udidForMacaddr (s : State) (macaddr : List Char) (listing : List File) :
    Option (List Char) × Known :=
  let known := if s.known.entries.isEmpty then loadKnownMacaddrs disk listing else s.known
  (known.lookup macaddr, known)

/-- A call, with the order in which the files of the directory are listed in it. -/
inductive Call
  /-- `sysconf_set_device_record`. -/
  | set (udid : List Char) (record : PairRecord) (listing : List File)
  /-- `sysconf_remove_device_record`. -/
  | remove (udid : List Char) (listing : List File)
  /-- `sysconf_udid_for_macaddr`. -/
  | lookup (macaddr : List Char) (listing : List File)

/-- The directory is listed again with these files, each of them once. -/
def rescan (files : AList fun _ : List Char => PairRecord) (listing : List File) : Option State :=
  if listing.Perm files.entries then some ⟨files, loadKnownMacaddrs disk listing⟩ else none

/-- One call whose file operations succeed. A path that is longer than a string can be is not
the path of a file. -/
def step (s : State) : Call → Option State
  | .set udid record listing =>
    if (getDeviceRecordPath disk udid).length < npos then
      rescan disk (s.files.insert (udid ++ plistSuffix) record) listing
    else none
  | .remove udid listing =>
    if udid ++ plistSuffix ∈ s.files then rescan disk (s.files.erase (udid ++ plistSuffix)) listing
    else none
  | .lookup macaddr listing =>
    if listing.Perm s.files.entries then some ⟨s.files, (udidForMacaddr disk s macaddr listing).2⟩
    else none

end Functions

/-- **The calls**: an identifier is a name other than that of the configuration, and no two
records have the same address. -/
def Admissible (s : State) : Call → Prop
  | .set udid record _ => ('/' ∉ udid ∧ udid ≠ configFile) ∧
      ∀ file ∈ s.files.entries, file.2.wifiMacAddress = record.wifiMacAddress →
        record.wifiMacAddress = none ∨ file.1 = udid ++ plistSuffix
  | .remove udid _ => '/' ∉ udid ∧ udid ≠ configFile
  | .lookup _ _ => True

instance (s : State) : (call : Call) → Decidable (Admissible s call)
  | .set udid record _ => inferInstanceAs (Decidable (('/' ∉ udid ∧ udid ≠ configFile) ∧
      ∀ file ∈ s.files.entries, file.2.wifiMacAddress = record.wifiMacAddress →
        record.wifiMacAddress = none ∨ file.1 = udid ++ plistSuffix))
  | .remove udid _ => inferInstanceAs (Decidable ('/' ∉ udid ∧ udid ≠ configFile))
  | .lookup _ _ => isTrue trivial

/-- The record that is stored for a UDID has this address, whether it is known or not. -/
def Stored (s : State) (udid macaddr : List Char) : Prop :=
  ∃ record, s.files.lookup (udid ++ plistSuffix) = some record ∧
    record.wifiMacAddress = some macaddr

/-- **The lookup matches the records**: what is found for an address is the device whose record
has it. -/
structure LookupRight (disk : Disk) (s : State) : Prop where
  /-- It returns the UDID whose record has the address. -/
  returns_iff : ∀ listing, listing.Perm s.files.entries → ∀ macaddr udid,
    (udidForMacaddr disk s macaddr listing).1 = some udid ↔ Stored s udid macaddr
  /-- It throws if no record has it. -/
  throws : ∀ listing, listing.Perm s.files.entries → ∀ macaddr,
    (∀ file ∈ s.files.entries, file.2.wifiMacAddress ≠ some macaddr) →
      (udidForMacaddr disk s macaddr listing).1 = none

/-- **There is no `.`** in the UDID of a record that has an address, and none in the path of the
directory if there is such a record. -/
def Undotted (disk : Disk) (s : State) : Prop :=
  ∀ udid macaddr, Stored s udid macaddr → '.' ∉ disk.configDir ∧ '.' ∉ udid

end Macaddrs

end Sysconf

/-- The configuration directory, as the calls change it, with the listing that the file system
gives for each of them. -/
def macaddrsMachine (disk : Sysconf.Disk) : Machine Sysconf.Macaddrs.State Sysconf.Macaddrs.Call :=
  ⟨Sysconf.Macaddrs.step disk⟩

namespace Sysconf

namespace Macaddrs

variable {disk : Disk} {s s' : State} {call : Call} {listing : List File}
  {udid macaddr dir name : List Char}

/-! ### What is taken for the UDID -/

theorem idxOf_reverse_slash (h : '/' ∉ name) :
    (dir ++ '/' :: name).reverse.idxOf '/' = name.length := by
  have hrev : (dir ++ '/' :: name).reverse = name.reverse ++ '/' :: dir.reverse := by simp
  rw [hrev, List.idxOf_append_of_notMem (by simpa using h), List.idxOf_cons_self,
    List.length_reverse, Nat.add_zero]

/-- The name of a file begins behind the last separator, as it has none itself. -/
theorem findLastOf_slash (dir : List Char) (h : '/' ∉ name) :
    findLastOf (dir ++ '/' :: name) '/' = dir.length := by
  rw [findLastOf, if_pos (by simp), idxOf_reverse_slash h, List.length_append, List.length_cons]
  omega

theorem idxOf_dot (dir name : List Char) (h : '.' ∉ dir) :
    (dir ++ '/' :: name).idxOf '.' = dir.length + 1 + name.idxOf '.' := by
  rw [List.idxOf_append_of_notMem h, List.idxOf_cons_ne _ (by decide)]
  omega

/-- **What is taken for the UDID**: the name up to its first `.`, or all of the name if there is
a `.` in front of it. -/
theorem uuidOfPath_eq (h : '/' ∉ name) (hlen : (dir ++ '/' :: name).length < npos) :
    uuidOfPath (dir ++ '/' :: name) =
      if '.' ∈ dir then name else name.takeWhile (· ≠ '.') := by
  rw [List.length_append, List.length_cons, npos] at hlen
  have hslash : (dir.length + 1) % 2 ^ 64 = dir.length + 1 := Nat.mod_eq_of_lt (by omega)
  have hname : (dir ++ '/' :: name).drop (dir.length + 1) = name := by
    rw [List.drop_append]
    simp
  rw [uuidOfPath, findLastOf_slash dir h, hslash, substr, hname]
  split
  · -- the difference is below zero
    rename_i hdot
    have hfind : find (dir ++ '/' :: name) '.' < dir.length := by
      rw [find, if_pos (List.mem_append_left _ hdot), List.idxOf_append_of_mem hdot]
      exact List.idxOf_lt_length_iff.mpr hdot
    rw [Nat.mod_eq_of_lt (by omega)]
    exact List.take_of_length_le (by omega)
  · rename_i hdot
    by_cases hmem : '.' ∈ name
    · have hfind : find (dir ++ '/' :: name) '.' = dir.length + 1 + name.idxOf '.' := by
        rw [find, if_pos (by simp [hmem]), idxOf_dot dir name hdot]
      have hlt := List.idxOf_lt_length_iff.mpr hmem
      have hcount : (2 ^ 64 + find (dir ++ '/' :: name) '.' - (dir.length + 1)) % 2 ^ 64 =
          name.idxOf '.' := by
        rw [hfind, show 2 ^ 64 + (dir.length + 1 + name.idxOf '.') - (dir.length + 1) =
          name.idxOf '.' + 2 ^ 64 by omega, Nat.add_mod_right]
        exact Nat.mod_eq_of_lt (by omega)
      rw [hcount, List.takeWhile_eq_take_findIdx_not, List.idxOf]
      congr 2
      funext c
      simp [Bool.beq_eq_decide_eq]
    · have hfind : find (dir ++ '/' :: name) '.' = npos := by
        rw [find, if_neg (by simp [hmem, hdot])]
      have hcount : (2 ^ 64 + find (dir ++ '/' :: name) '.' - (dir.length + 1)) % 2 ^ 64 =
          npos - (dir.length + 1) := by
        rw [hfind, npos]
        omega
      have hall : name.takeWhile (· ≠ '.') = name :=
        List.takeWhile_eq_self_iff.mpr fun c hc =>
          decide_eq_true fun hcdot => hmem (hcdot ▸ hc)
      rw [hcount, hall]
      exact List.take_of_length_le (by rw [npos]; omega)

/-! ### The files of the directory -/

/-- **The directory and what is known of it**, between two calls: each file is the record of a
UDID, no two have the same address, and what is known has been read from them. -/
structure Filed (disk : Disk) (s : State) : Prop where
  /-- Every file is the record of a UDID. -/
  named : ∀ file ∈ s.files.entries, ∃ udid, file.1 = udid ++ plistSuffix ∧
    ('/' ∉ udid ∧ udid ≠ configFile) ∧ (getDeviceRecordPath disk udid).length < npos
  /-- No two records have the same address. -/
  single : Single (fun file : File => file.2.wifiMacAddress) s.files.entries
  /-- What is known was read from these files. -/
  fresh : s.known = ∅ ∨
    ∃ listing, listing.Perm s.files.entries ∧ s.known = loadKnownMacaddrs disk listing

theorem filed_start (disk : Disk) : Filed disk start where
  named := fun _ hfile => absurd hfile List.not_mem_nil
  single := single_nil
  fresh := .inl rfl

/-- A file that is saved replaces the one that was there for the same device. -/
theorem filed_insert (h : Filed disk s) {record : PairRecord}
    (hok : Admissible s (.set udid record listing))
    (hlen : (getDeviceRecordPath disk udid).length < npos)
    (hs : rescan disk (s.files.insert (udid ++ plistSuffix) record) listing = some s') :
    Filed disk s' := by
  obtain ⟨hperm, hs⟩ := Option.ite_none_right_eq_some.mp hs
  cases hs
  refine ⟨?_, ?_, .inr ⟨listing, hperm, rfl⟩⟩
  · intro file hfile
    rw [AList.entries_insert, List.mem_cons] at hfile
    rcases hfile with rfl | hfile
    · exact ⟨udid, rfl, hok.1, hlen⟩
    · exact h.named file ((List.kerase_sublist _ _).subset hfile)
  · rw [AList.entries_insert]
    refine single_cons_iff.mpr
      ⟨h.single.sublist (List.kerase_sublist _ _), fun macaddr hmac file hfile hfileMac => ?_⟩
    -- the file that had the address would have been the one that is replaced
    have hmem := (List.kerase_sublist _ _).subset hfile
    rcases hok.2 file hmem (hfileMac.trans hmac.symm) with hnone | hname
    · exact absurd (hnone.symm.trans hmac) (by simp)
    · refine List.notMem_keys_kerase (udid ++ plistSuffix) s.files.nodupKeys ?_
      rw [← hname] at hfile ⊢
      exact List.mem_keys_of_mem hfile

/-- A file that is removed takes its address with it. -/
theorem filed_erase (h : Filed disk s)
    (hs : rescan disk (s.files.erase (udid ++ plistSuffix)) listing = some s') :
    Filed disk s' := by
  obtain ⟨hperm, hs⟩ := Option.ite_none_right_eq_some.mp hs
  cases hs
  have hsub := List.kerase_sublist (udid ++ plistSuffix) s.files.entries
  exact ⟨fun file hfile => h.named file (hsub.subset hfile), h.single.sublist hsub,
    .inr ⟨listing, hperm, rfl⟩⟩

/-- **A lookup knows what is in the files**, whether it reads them or not. -/
theorem exists_known (h : Filed disk s) (hperm : listing.Perm s.files.entries)
    (macaddr : List Char) : ∃ listing', listing'.Perm s.files.entries ∧
      (udidForMacaddr disk s macaddr listing).2 = loadKnownMacaddrs disk listing' := by
  rw [udidForMacaddr]
  split
  · exact ⟨listing, hperm, rfl⟩
  · rename_i hsize
    rcases h.fresh with hempty | hfresh
    · rw [hempty] at hsize
      exact absurd rfl hsize
    · exact hfresh

theorem filed_step (h : Filed disk s) (hok : Admissible s call)
    (hs : step disk s call = some s') : Filed disk s' := by
  cases call with
  | set udid record listing =>
    obtain ⟨hlen, hs⟩ := Option.ite_none_right_eq_some.mp hs
    exact filed_insert h hok hlen hs
  | remove udid listing =>
    obtain ⟨-, hs⟩ := Option.ite_none_right_eq_some.mp hs
    exact filed_erase h hs
  | lookup macaddr listing =>
    obtain ⟨hperm, hs⟩ := Option.ite_none_right_eq_some.mp hs
    cases hs
    exact ⟨h.named, h.single, .inr (exists_known h hperm macaddr)⟩

theorem filed_of_reaches (h : (macaddrsMachine disk).Reaches Admissible start s) : Filed disk s :=
  h.invariant (filed_start disk) fun _ _ _ hfiled hok hs => filed_step hfiled hok hs

/-- **The files that are read** are those that a rescan opens after a request. -/
theorem loadKnownMacaddrs_reads {entries : List DirEntry} (hentries : disk.entries = some entries)
    (hlisting : listing.map (·.1) = (entries.filter (·.isReg)).map (·.name)) :
    Sysconf.loadKnownMacaddrs disk =
      some ((listing.filter (isRead disk)).map fun file => .read (filePath disk file)) := by
  have hfiles : (listing.filter (isRead disk)).map (filePath disk) =
      ((listing.map (·.1)).map (disk.configDir ++ '/' :: ·)).filter
        fun path => decide (path ≠ getDeviceRecordPath disk configFile) := by
    rw [List.map_map, List.filter_map]
    rfl
  have hents : (entries.filter fun ent => ent.isReg &&
        decide (entryPath disk ent ≠ getDeviceRecordPath disk configFile)).map (entryPath disk) =
      (((entries.filter (·.isReg)).map (·.name)).map (disk.configDir ++ '/' :: ·)).filter
        fun path => decide (path ≠ getDeviceRecordPath disk configFile) := by
    rw [List.map_map, List.filter_map, List.filter_filter]
    congr 2
    funext ent
    exact Bool.and_comm ..
  have hpaths := hents.trans ((congrArg _ (congrArg _ hlisting.symm)).trans hfiles.symm)
  have hops := congrArg (List.map FileOp.read) hpaths
  rw [List.map_map, List.map_map] at hops
  rw [Sysconf.loadKnownMacaddrs, hentries]
  exact congrArg some hops

/-! ### What a lookup returns -/

/-- The directory is read as an index of the records by their addresses, for which there are
general rules. -/
theorem loadKnownMacaddrs_eq_index (disk : Disk) (listing : List File) :
    loadKnownMacaddrs disk listing = index (fun file : File => file.2.wifiMacAddress)
      (fun file => uuidOfPath (filePath disk file)) (listing.filter (isRead disk)) := by
  rw [loadKnownMacaddrs, index]
  congr 1
  funext known file
  rw [addRecord]
  cases file.2.wifiMacAddress <;> rfl

/-- Only the configuration itself is not read, so that no record is left out. -/
theorem isRead_of_named {file : File} (hname : file.1 = udid ++ plistSuffix)
    (hne : udid ≠ configFile) : isRead disk file = true := by
  refine decide_eq_true fun hpath => hne ?_
  rw [filePath, hname, getDeviceRecordPath] at hpath
  exact List.append_cancel_right (List.cons_inj_right _ |>.mp (List.append_cancel_left hpath))

/-- **What the directory is read as**: the address of every record, with what is taken from the
path of its file. -/
theorem lookup_loadKnownMacaddrs (h : Filed disk s) (hperm : listing.Perm s.files.entries) :
    (loadKnownMacaddrs disk listing).lookup macaddr = some udid ↔
      ∃ file ∈ s.files.entries, file.2.wifiMacAddress = some macaddr ∧
        uuidOfPath (filePath disk file) = udid := by
  have hall : listing.filter (isRead disk) = listing := by
    refine List.filter_eq_self.mpr fun file hfile => ?_
    obtain ⟨udid, hname, ⟨-, hne⟩, -⟩ := h.named file (hperm.mem_iff.mp hfile)
    exact isRead_of_named hname hne
  have hsingle : Single (fun file : File => file.2.wifiMacAddress) listing :=
    ((hperm.filterMap _).nodup_iff).mpr h.single
  rw [loadKnownMacaddrs_eq_index, hall, hsingle.lookup_index_iff]
  simp only [hperm.mem_iff]

/-- The path of the record of a UDID gives the UDID back exactly if there is no other `.` in it
than that of `.plist`. -/
theorem uuidOfPath_record (hsep : '/' ∉ udid)
    (hlen : (getDeviceRecordPath disk udid).length < npos) :
    uuidOfPath (getDeviceRecordPath disk udid) = udid ↔ '.' ∉ disk.configDir ∧ '.' ∉ udid := by
  have hname : '/' ∉ udid ++ plistSuffix := (ordinary_plist hsep).1
  rw [getDeviceRecordPath, uuidOfPath_eq hname (by simpa only [getDeviceRecordPath] using hlen)]
  split
  · rename_i hdot
    refine iff_of_false (fun hcon => ?_) fun hcon => hcon.1 hdot
    have hlength := congrArg List.length hcon
    rw [List.length_append] at hlength
    exact absurd hlength (by simp [plistSuffix])
  · rename_i hdot
    rw [and_iff_right hdot]
    constructor
    · intro htake hmem
      -- nothing that is taken is a dot
      rw [← htake] at hmem
      have hne := List.mem_takeWhile_imp (p := (· ≠ '.')) hmem
      exact of_decide_eq_true hne rfl
    · intro hmem
      have hall : ∀ c ∈ udid, decide (c ≠ '.') = true := by
        refine fun c hc => decide_eq_true ?_
        rintro rfl
        exact hmem hc
      rw [List.takeWhile_append_of_pos hall]
      simp [plistSuffix]

/-- Whether the record of a UDID has an address, said of its file, which is found by its
name. -/
theorem stored_iff : Stored s udid macaddr ↔
    ∃ file ∈ s.files.entries, file.1 = udid ++ plistSuffix ∧
      file.2.wifiMacAddress = some macaddr := by
  constructor
  · rintro ⟨record, hlookup, hmac⟩
    exact ⟨⟨_, record⟩, AList.mem_lookup_iff.mp hlookup, rfl, hmac⟩
  · rintro ⟨⟨name, record⟩, hfile, rfl, hmac⟩
    exact ⟨record, AList.mem_lookup_iff.mpr hfile, hmac⟩

/-- **What a lookup returns**: for the record that has the address, what is taken from the path
of its file. -/
theorem udidForMacaddr_iff (h : Filed disk s) (hperm : listing.Perm s.files.entries) :
    (udidForMacaddr disk s macaddr listing).1 = some udid ↔
      ∃ stored, Stored s stored macaddr ∧
        uuidOfPath (getDeviceRecordPath disk stored) = udid := by
  obtain ⟨listing', hperm', hknown⟩ := exists_known h hperm macaddr
  have hlookup : (udidForMacaddr disk s macaddr listing).1 =
      (udidForMacaddr disk s macaddr listing).2.lookup macaddr := rfl
  rw [hlookup, hknown, lookup_loadKnownMacaddrs h hperm']
  constructor
  · rintro ⟨file, hfile, hmac, huuid⟩
    obtain ⟨stored, hname, -⟩ := h.named file hfile
    rw [filePath, hname] at huuid
    exact ⟨stored, stored_iff.mpr ⟨file, hfile, hname, hmac⟩, huuid⟩
  · rintro ⟨stored, hstored, huuid⟩
    obtain ⟨file, hfile, hname, hmac⟩ := stored_iff.mp hstored
    refine ⟨file, hfile, hmac, ?_⟩
    rw [filePath, hname]
    exact huuid

/-- The record of a UDID is in a file with a name of its own. -/
theorem Filed.plain (h : Filed disk s) (hstored : Stored s udid macaddr) :
    '/' ∉ udid ∧ (getDeviceRecordPath disk udid).length < npos := by
  obtain ⟨file, hfile, hname, -⟩ := stored_iff.mp hstored
  obtain ⟨udid', hname', ⟨hsep, -⟩, hlen⟩ := h.named file hfile
  obtain rfl : udid = udid' := List.append_cancel_right (hname.symm.trans hname')
  exact ⟨hsep, hlen⟩

/-- **The lookup matches the records exactly if there is no `.`** in the UDIDs of the records
that have an address, and none in the path of the directory, after any calls. -/
theorem lookupRight_iff_undotted
    (h : (macaddrsMachine disk).Reaches Admissible start s) :
    LookupRight disk s ↔ Undotted disk s := by
  have hfiled := filed_of_reaches h
  constructor
  · intro hright udid macaddr hstored
    obtain ⟨hsep, hlen⟩ := hfiled.plain hstored
    have hfound := (hright.returns_iff _ (List.Perm.refl _) macaddr udid).mpr hstored
    obtain ⟨stored, hstored', huuid⟩ := (udidForMacaddr_iff hfiled (List.Perm.refl _)).mp hfound
    obtain ⟨file, hfile, hname, hmac⟩ := stored_iff.mp hstored
    obtain ⟨file', hfile', hname', hmac'⟩ := stored_iff.mp hstored'
    -- there is only one record with the address
    obtain rfl := hfiled.single.eq_of_mem hfile hfile' hmac hmac'
    obtain rfl : udid = stored := List.append_cancel_right (hname.symm.trans hname')
    exact (uuidOfPath_record hsep hlen).mp huuid
  · intro hundotted
    have hright : ∀ listing, listing.Perm s.files.entries → ∀ macaddr udid,
        (udidForMacaddr disk s macaddr listing).1 = some udid ↔ Stored s udid macaddr := by
      intro listing hperm macaddr udid
      rw [udidForMacaddr_iff hfiled hperm]
      have hself : ∀ stored, Stored s stored macaddr →
          uuidOfPath (getDeviceRecordPath disk stored) = stored := fun stored hstored =>
        (uuidOfPath_record (hfiled.plain hstored).1 (hfiled.plain hstored).2).mpr
          (hundotted stored macaddr hstored)
      constructor
      · rintro ⟨stored, hstored, rfl⟩
        rwa [hself stored hstored]
      · exact fun hstored => ⟨udid, hstored, hself udid hstored⟩
    refine ⟨hright, fun listing hperm macaddr hnone => ?_⟩
    refine Option.eq_none_iff_forall_ne_some.mpr fun udid hsome => ?_
    obtain ⟨file, hfile, -, hmac⟩ := stored_iff.mp ((hright listing hperm macaddr udid).mp hsome)
    exact hnone file hfile hmac

/-! ### Runs -/

/-- A record with a WiFi address, and nothing else. -/
def recordOf (macaddr : Char) : PairRecord := ⟨some [macaddr]⟩

/-- The file of a record, for a device with a short identifier. -/
def fileOf (udid macaddr : Char) : File := ⟨udid :: plistSuffix, recordOf macaddr⟩

/-- Two records, of which one is removed, and the other can still be looked up. -/
theorem lookupRight_removed : ∃ s : State, s.files.entries = [fileOf 'v' 'n'] ∧
    LookupRight varLibLockdown s := by
  obtain ⟨s, hr, hp⟩ :=
    (macaddrsMachine varLibLockdown).exists_reaches_of_runOk Admissible start
      [.set ['u'] (recordOf 'm') [fileOf 'u' 'm'],
        .set ['v'] (recordOf 'n') [fileOf 'u' 'm', fileOf 'v' 'n'],
        .lookup ['m'] [fileOf 'v' 'n', fileOf 'u' 'm'],
        .remove ['u'] [fileOf 'v' 'n']]
      (fun s => decide (s.files.entries = [fileOf 'v' 'n'])) (by decide)
  have hfiles := of_decide_eq_true hp
  refine ⟨s, hfiles, (lookupRight_iff_undotted hr).mpr fun udid macaddr hstored => ?_⟩
  obtain ⟨file, hfile, hname, -⟩ := stored_iff.mp hstored
  rw [hfiles, List.mem_singleton] at hfile
  subst hfile
  obtain rfl : ['v'] = udid := List.append_cancel_right hname
  decide

/-- A configuration directory with a `.` in its path, which is where the first dot is found
then. -/
def dotted : Disk := { varLibLockdown with configDir := ['/', '.', 'l'] }

/-- **The lookup returns what is no UDID**: with a `.` in the path of the directory, the record
of `u` is taken for one of `u.plist`. -/
theorem plist_returned : ∃ s : State,
    (macaddrsMachine dotted).Reaches Admissible start s ∧ ¬LookupRight dotted s := by
  obtain ⟨s, hr, hp⟩ :=
    (macaddrsMachine dotted).exists_reaches_of_runOk Admissible start
      [.set ['u'] (recordOf 'm') [fileOf 'u' 'm']]
      (fun s => decide ((udidForMacaddr dotted s ['m'] s.files.entries).1 =
        some ('u' :: plistSuffix) ∧ s.files.lookup ('u' :: (plistSuffix ++ plistSuffix)) = none))
      (by decide)
  refine ⟨s, hr, fun hright => ?_⟩
  obtain ⟨hreturned, hnone⟩ := of_decide_eq_true hp
  obtain ⟨record, hlookup, -⟩ :=
    (hright.returns_iff _ (List.Perm.refl _) ['m'] ('u' :: plistSuffix)).mp hreturned
  exact absurd (hnone.symm.trans hlookup) (by simp)

end Macaddrs

end Sysconf

end Usbmuxd
