import Mathlib.Logic.Equiv.List
import Mathlib.Logic.Function.Basic
import Usbmuxd.Library.Objects
import Usbmuxd.Sysconf.Records
import Usbmuxd.Sysconf.Saves

/-!
# The configuration directory as a store

The functions of `sysconf.cpp` keep two things in files: the values of the configuration, which
are all in one file, and the pair records, which have a file each. Whoever uses them sees one
property list and a table of records. Every function reads its file anew and writes it as a
whole, and a configuration that cannot be read is taken for an empty one when a value is set.

This file has the functions, as they act on the files of the directory, and what is in them
(`Usbmuxd.Sysconf.Store.Contents`), which is all that the results depend on
(`Usbmuxd.Sysconf.Store.run_contents`). Three things have to be said about it.

* The names of the records have to be plain, since the path would be that of another file
  otherwise.
* A list that `plist_to_xml` makes no text of leaves an empty file behind, and nobody notices.
  A record is unreadable then, and a configuration is empty.
* A configuration that is no dictionary has no values, and none can be set.

A file that is opened for writing is written to the end here; what else may happen is the subject
of `Usbmuxd.Sysconf.Saves`.

`Config::load` reads three values of the configuration and sets those that are missing. Once it
has returned, it returns the same until one of the three is set by somebody else
(`Usbmuxd.Sysconf.Store.load_again`), provided that the values that are set can be written and
that the configuration is a dictionary, if it is anything.
-/

namespace Usbmuxd

open Objects

namespace Sysconf

namespace Store

/-- What is used of the library for values. The two laws say that a value which has been made of
a boolean or of a string gives it back. -/
structure ValueApi (V : Type) where
  /-- `plist_new_bool`. -/
  newBool : Bool → V
  /-- `plist_bool_val_is_true`, if it is a `PLIST_BOOLEAN`. -/
  boolVal : V → Option Bool
  /-- `plist_new_string`. -/
  newString : List Char → V
  /-- `plist_get_string_ptr`. -/
  stringPtr : V → Option (List Char)
  /-- The value of a boolean. -/
  boolVal_newBool : ∀ b, boolVal (newBool b) = some b
  /-- The value of a string. -/
  stringPtr_newString : ∀ s, stringPtr (newString s) = some s

/-- The files, by their paths. A file that is not there is `none`, and one that is there may
hold anything. -/
abbrev Files := List Char → Option (List UInt8)

/-- A text is written to the end, if the file can be opened. What may happen on the way is the
subject of the model of `writePlistToFile`, and is left out here. -/
def writing (buf : List UInt8) (opens : Bool) : Writing buf :=
  if opens then .opened (.whole buf) else .notOpened

/-- `CONFIG_SYSTEM_BUID_KEY`, under which the configuration has the identifier of the system. -/
def systemBuidKey : List Char := ['S', 'y', 's', 't', 'e', 'm', 'B', 'U', 'I', 'D']

/-- A call. `opens` is whether the file can be opened for writing, `loads` whether the directory
can be read again. -/
inductive Call (D V : Type)
  /-- `sysconf_get_value`. -/
  | getValue (key : List Char)
  /-- `sysconf_set_value`. -/
  | setValue (key : List Char) (val : V) (opens : Bool)
  /-- `sysconf_get_device_record`. -/
  | getDeviceRecord (udid : List Char)
  /-- `sysconf_set_device_record`. -/
  | setDeviceRecord (udid : List Char) (record : D) (opens loads : Bool)
  /-- `sysconf_remove_device_record`, where a file that is there can be removed or not. -/
  | removeDeviceRecord (udid : List Char) (removes loads : Bool)
  /-- `sysconf_try_getconfig_bool`. -/
  | tryGetconfigBool (key : List Char) (defaultValue opens : Bool)
  /-- `sysconf_get_system_buid`, where this may be generated. -/
  | getSystemBuid (generated : List Char) (opens : Bool)

/-- What a call returns; `none` and `false` when it throws. The results of all functions are of
one type, so that a caller can be given any of them. -/
inductive Result (D V : Type)
  /-- A value. -/
  | value (val : Option V)
  /-- A record. -/
  | record (record : Option D)
  /-- Nothing. -/
  | done (returns : Bool)
  /-- A setting. -/
  | bool (val : Option Bool)
  /-- A string. -/
  | string (s : Option (List Char))

section Code

variable {D V : Type} (disk : Disk) (p : PlistApi D (List Char) V) (v : ValueApi V)
  (files : Files)

/-- The path of the configuration, which is made in the same way as that of a record. A record
with the name of the configuration would be the same file. -/
def configPath : List Char := getDeviceRecordPath disk configFile

/-- `sysconf_get_value`, which reads the whole configuration for one value. -/
def getValue (key : List Char) : Option V := sysconfGetValue p (files (configPath disk)) key

/-- `sysconf_set_value`. The configuration is read, changed and written again, or made anew if
it cannot be read. -/
def setValue (key : List Char) (val : V) (opens : Bool) : Files × Bool :=
  let saved := sysconfSetValue p (files (configPath disk)) key val (writing _ opens)
  (Function.update files (configPath disk) saved.file, saved.returns)

/-- `sysconf_get_device_record`, which throws if there is no such file or if it does not
parse. -/
def getDeviceRecord (udid : List Char) : Option D :=
  readPlist p (files (getDeviceRecordPath disk udid))

/-- `sysconf_set_device_record`, which also throws if the MAC addresses cannot be loaded
afterwards, although the record has been written. -/
def setDeviceRecord (udid : List Char) (record : D) (opens loads : Bool) : Files × Bool :=
  let path := getDeviceRecordPath disk udid
  let saved := sysconfSetDeviceRecord p (files path) record (writing _ opens) loads
  (Function.update files path saved.file, saved.returns)

/-- `sysconf_remove_device_record`. As before, it may throw after the file has been removed. -/
def removeDeviceRecord (udid : List Char) (removes loads : Bool) : Files × Bool :=
  let path := getDeviceRecordPath disk udid
  if (files path).isSome && removes then (Function.update files path none, loads)
  else (files, false)

/-- `sysconf_try_getconfig_bool`. Where there is no such setting, or one that is no boolean, the
default is stored, so that the next call finds it. -/
def tryGetconfigBool (key : List Char) (defaultValue opens : Bool) : Files × Option Bool :=
  match (getValue disk p files key).bind v.boolVal with
  | some b => (files, some b)
  | none =>
    let set := setValue disk p files key (v.newBool defaultValue) opens
    (set.1, if set.2 then some defaultValue else none)

/-- `sysconf_get_system_buid`, which makes an identifier when there is none, and stores it
before it is returned. -/
def getSystemBuid (generated : List Char) (opens : Bool) : Files × Option (List Char) :=
  match getValue disk p files systemBuidKey with
  | some buid => (files, v.stringPtr buid)
  | none =>
    let buid := v.newString generated
    let set := setValue disk p files systemBuidKey buid opens
    (set.1, if set.2 then v.stringPtr buid else none)

end Code

section Objects

variable {D V : Type} (disk : Disk) (p : PlistApi D (List Char) V) (v : ValueApi V)

/-- The functions of `sysconf.cpp`, as an object whose state are the files. Each call is made as
a whole here; there is no lock that would make it so, and calls that overlap are looked at
elsewhere. -/
def sysconf : Object Files (Call D V) (Result D V) where
  call files
    | .getValue key => (files, .value (getValue disk p files key))
    | .setValue key val opens =>
      let set := setValue disk p files key val opens
      (set.1, .done set.2)
    | .getDeviceRecord udid => (files, .record (getDeviceRecord disk p files udid))
    | .setDeviceRecord udid record opens loads =>
      let set := setDeviceRecord disk p files udid record opens loads
      (set.1, .done set.2)
    | .removeDeviceRecord udid removes loads =>
      let removed := removeDeviceRecord disk files udid removes loads
      (removed.1, .done removed.2)
    | .tryGetconfigBool key defaultValue opens =>
      let got := tryGetconfigBool disk p v files key defaultValue opens
      (got.1, .bool got.2)
    | .getSystemBuid generated opens =>
      let got := getSystemBuid disk p v files generated opens
      (got.1, .string got.2)

/-! ### What is in the files -/

/-- The record of a device. A file that is there but cannot be read is not the same as no file,
since it can be removed. -/
inductive Slot (D : Type)
  /-- There is none. -/
  | missing
  /-- Its file cannot be read. -/
  | unreadable
  /-- There is one. -/
  | holds (record : D)

/-- The record, if it can be read. The two other cases look alike to a caller. -/
def Slot.get : Slot D → Option D
  | holds record => some record
  | _ => none

/-- **What the store is for**: a configuration, and a table of records. Of paths, texts and
formats nothing is left. -/
structure Contents (D : Type) where
  /-- The configuration, which is a new one as long as none can be read. -/
  config : D
  /-- The pair records. -/
  record : List Char → Slot D

/-- What becomes of a configuration that is written: without a text it is lost. -/
def written (config : D) : D := if (p.toXml config).isSome then config else p.newDict

/-- What becomes of a record that is written. If no text can be made of it, the file is empty,
and so it cannot be read. -/
def slotOfWritten (record : D) : Slot D :=
  if (p.toXml record).isSome then .holds record else .unreadable

namespace Contents

variable (c : Contents D)

/-- A value is set, and all records stay. If no text can be made of the configuration then, all
its values are lost. -/
def setValue (key : List Char) (val : V) : Contents D :=
  { c with config := written p (p.setItem c.config key val) }

/-- A record is set, and those of all other devices stay as they are. -/
def setRecord (udid : List Char) (slot : Slot D) : Contents D :=
  { c with record := Function.update c.record udid slot }

end Contents

/-- The same calls, on the configuration and the table. They return the same as the calls on
files, and throw where those throw. -/
def tables : Object (Contents D) (Call D V) (Result D V) where
  call c
    | .getValue key => (c, .value (p.getItem c.config key))
    | .setValue key val opens =>
      if opens then (c.setValue p key val, .done true) else (c, .done false)
    | .getDeviceRecord udid => (c, .record (c.record udid).get)
    | .setDeviceRecord udid record opens loads =>
      if opens then (c.setRecord udid (slotOfWritten p record), .done loads) else (c, .done false)
    | .removeDeviceRecord udid removes loads =>
      match c.record udid with
      | .missing => (c, .done false)
      | _ => if removes then (c.setRecord udid .missing, .done loads) else (c, .done false)
    | .tryGetconfigBool key defaultValue opens =>
      match (p.getItem c.config key).bind v.boolVal with
      | some b => (c, .bool (some b))
      | none =>
        if opens then (c.setValue p key (v.newBool defaultValue), .bool (some defaultValue))
        else (c, .bool none)
    | .getSystemBuid generated opens =>
      match p.getItem c.config systemBuidKey with
      | some buid => (c, .string (v.stringPtr buid))
      | none =>
        if opens then
          (c.setValue p systemBuidKey (v.newString generated), .string (some generated))
        else (c, .string none)

/-- What a file holds: a record if it parses, and it does not matter by whom it has been
written. -/
def slotOf : Option (List UInt8) → Slot D
  | none => .missing
  | some text => (p.fromMemory text).elim .unreadable .holds

/-- **The contents of the files.** This is what connects the two levels: whatever is in the
files, there is one configuration and one table that they stand for. -/
def contents (files : Files) : Contents D where
  config := configOf p (files (configPath disk))
  record udid :=
    if udid = configFile then .missing else slotOf p (files (getDeviceRecordPath disk udid))

/-! ### The settings -/

/-- The settings that `Config::load` reads. They decide what the daemon does until it ends. -/
structure Settings where
  /-- `doPreflight`. -/
  doPreflight : Bool
  /-- `enableWifiDeviceManager`. -/
  enableWifiDeviceManager : Bool
  /-- `enableUSBDeviceManager`. -/
  enableUSBDeviceManager : Bool
  deriving DecidableEq

/-- `"doPreflight"`. -/
def doPreflightKey : List Char := ['d', 'o', 'P', 'r', 'e', 'f', 'l', 'i', 'g', 'h', 't']

/-- `"enableWifiDeviceManager"`. -/
def enableWifiKey : List Char :=
  ['e', 'n', 'a', 'b', 'l', 'e', 'W', 'i', 'f', 'i', 'D', 'e', 'v', 'i', 'c', 'e', 'M', 'a', 'n',
    'a', 'g', 'e', 'r']

/-- `"enableUSBDeviceManager"`. -/
def enableUsbKey : List Char :=
  ['e', 'n', 'a', 'b', 'l', 'e', 'U', 'S', 'B', 'D', 'e', 'v', 'i', 'c', 'e', 'M', 'a', 'n', 'a',
    'g', 'e', 'r']

/-- `Config::load`; `opens` is whether the configuration can be opened for writing. If it
cannot, and a setting is missing, the function throws. -/
def load (files : Files) (opens : Bool) : Files × Option Settings :=
  let preflight := tryGetconfigBool disk p v files doPreflightKey true opens
  match preflight.2 with
  | none => (preflight.1, none)
  | some doPreflight =>
    let wifi := tryGetconfigBool disk p v preflight.1 enableWifiKey true opens
    match wifi.2 with
    | none => (wifi.1, none)
    | some enableWifi =>
      let usb := tryGetconfigBool disk p v wifi.1 enableUsbKey true opens
      (usb.1, usb.2.map fun enableUsb => ⟨doPreflight, enableWifi, enableUsb⟩)

end Objects

/-- The names of the records are plain. For other names two identifiers may lead to the same
file, or out of the directory. -/
def Call.Plain {D V : Type} : Call D V → Prop
  | .getDeviceRecord udid | .setDeviceRecord udid _ _ _ | .removeDeviceRecord udid _ _ =>
    PlainId udid
  | _ => True

variable {D V : Type} {disk : Disk} {p : PlistApi D (List Char) V} {v : ValueApi V}
  {files : Files} {key key' udid udid' : List Char} {val : V} {record : D} {opens loads : Bool}

/-! ### Writing a file -/

theorem getDeviceRecordPath_inj :
    getDeviceRecordPath disk udid = getDeviceRecordPath disk udid' ↔ udid = udid' := by
  simp [getDeviceRecordPath]

/-- What `writePlistToFile` does with a file that is written to the end: the text replaces all
that has been there. -/
theorem writePlistToFile_writing (file : Option (List UInt8)) (plist : D) (opens : Bool) :
    writePlistToFile p file plist (writing _ opens) =
      ⟨if opens then some (p.buf plist) else file, opens⟩ := by
  cases opens <;> simp [writePlistToFile, writing, Stream.whole]

/-- A configuration that has been written, or is lost because no text can be made of it. -/
theorem configOf_buf (config : D) : configOf p (some (p.buf config)) = written p config := by
  rw [configOf, readPlist, Option.bind_some, PlistApi.buf, written]
  cases h : p.toXml config with
  | none => rw [Option.getD_none, p.fromMemory_nil]; rfl
  | some text => rw [Option.getD_some, p.fromMemory_toXml _ _ h]; rfl

/-- A record that has been written, or is lost for the same reason. -/
theorem slotOf_buf (record : D) : slotOf p (some (p.buf record)) = slotOfWritten p record := by
  rw [slotOf, PlistApi.buf, slotOfWritten]
  cases h : p.toXml record with
  | none => rw [Option.getD_none, p.fromMemory_nil]; rfl
  | some text => rw [Option.getD_some, p.fromMemory_toXml _ _ h]; rfl

/-- A record that is read, as `sysconf_get_device_record` does it. -/
theorem get_slotOf (file : Option (List UInt8)) : (slotOf p file).get = readPlist p file := by
  cases file with
  | none => rfl
  | some text => cases h : p.fromMemory text <;> simp [slotOf, readPlist, Slot.get, h]

/-- A value that is read from the configuration is that of the table, for all files. -/
theorem getValue_eq (files : Files) (key : List Char) :
    getValue disk p files key = p.getItem (contents disk p files).config key := by
  rw [getValue, sysconfGetValue, contents, configOf]
  cases readPlist p (files (configPath disk)) with
  | none => exact (p.getItem_newDict key).symm
  | some d => rfl

/-! ### What a call does to the contents -/

theorem setValue_eq (files : Files) (key : List Char) (val : V) (opens : Bool) :
    setValue disk p files key val opens =
      (if opens then Function.update files (configPath disk)
        (some (p.buf (withValue p (files (configPath disk)) key val))) else files, opens) := by
  rw [setValue, sysconfSetValue, writePlistToFile_writing]
  cases opens <;> simp

theorem setValue_snd (files : Files) (key : List Char) (val : V) (opens : Bool) :
    (setValue disk p files key val opens).2 = opens := by rw [setValue_eq]

/-- **A value is set**, in the configuration and in nothing else, -/
theorem contents_setValue (files : Files) (key : List Char) (val : V) (opens : Bool) :
    contents disk p (setValue disk p files key val opens).1 =
      if opens then (contents disk p files).setValue p key val else contents disk p files := by
  rw [setValue_eq]
  cases opens with
  | false => rfl
  | true =>
    simp only [if_true, contents, Contents.setValue, Function.update_self, configOf_buf, withValue]
    congr 1
    funext udid
    split
    · rfl
    · rename_i hne
      have hother : getDeviceRecordPath disk udid ≠ configPath disk :=
        fun heq => hne (getDeviceRecordPath_inj.mp heq)
      rw [Function.update_of_ne hother]

/-- **or a record**, of one device and no other, as long as the file is not the
configuration. -/
theorem contents_update (hne : udid ≠ configFile) (files : Files) (file : Option (List UInt8)) :
    contents disk p (Function.update files (getDeviceRecordPath disk udid) file) =
      (contents disk p files).setRecord udid (slotOf p file) := by
  have hconfig : configPath disk ≠ getDeviceRecordPath disk udid :=
    fun heq => hne (getDeviceRecordPath_inj.mp heq).symm
  rw [contents, contents, Contents.setRecord]
  congr 1
  · rw [Function.update_of_ne hconfig]
  · funext udid'
    rcases eq_or_ne udid' udid with rfl | hother
    · rw [if_neg hne, Function.update_self, Function.update_self]
    · rw [Function.update_of_ne hother,
        Function.update_of_ne fun heq => hother (getDeviceRecordPath_inj.mp heq)]

theorem contents_record (hne : udid ≠ configFile) (files : Files) :
    (contents disk p files).record udid =
      slotOf p (files (getDeviceRecordPath disk udid)) := if_neg hne

theorem setDeviceRecord_eq (files : Files) (udid : List Char) (record : D) (opens loads : Bool) :
    setDeviceRecord disk p files udid record opens loads =
      (if opens then Function.update files (getDeviceRecordPath disk udid)
        (some (p.buf record)) else files, opens && loads) := by
  rw [setDeviceRecord, sysconfSetDeviceRecord, writePlistToFile_writing]
  cases opens <;> simp

/-! ### All calls -/

theorem call_setValue (files : Files) (key : List Char) (val : V) (opens : Bool) :
    (tables p v).call (contents disk p files) (.setValue key val opens) =
      (contents disk p (setValue disk p files key val opens).1,
        .done (setValue disk p files key val opens).2) := by
  rw [contents_setValue, setValue_snd]
  cases opens <;> rfl

theorem call_tryGetconfigBool (files : Files) (key : List Char) (defaultValue opens : Bool) :
    (tables p v).call (contents disk p files) (.tryGetconfigBool key defaultValue opens) =
      (contents disk p (tryGetconfigBool disk p v files key defaultValue opens).1,
        .bool (tryGetconfigBool disk p v files key defaultValue opens).2) := by
  simp only [tables, tryGetconfigBool, getValue_eq]
  cases (p.getItem (contents disk p files).config key).bind v.boolVal with
  | some b => rfl
  | none =>
    simp only [contents_setValue, setValue_snd]
    cases opens <;> rfl

theorem call_getSystemBuid (files : Files) (generated : List Char) (opens : Bool) :
    (tables p v).call (contents disk p files) (.getSystemBuid generated opens) =
      (contents disk p (getSystemBuid disk p v files generated opens).1,
        .string (getSystemBuid disk p v files generated opens).2) := by
  simp only [tables, getSystemBuid, getValue_eq]
  cases p.getItem (contents disk p files).config systemBuidKey with
  | some buid => rfl
  | none =>
    simp only [contents_setValue, setValue_snd, v.stringPtr_newString]
    cases opens <;> rfl

theorem call_setDeviceRecord (hplain : PlainId udid) (files : Files) (record : D)
    (opens loads : Bool) :
    (tables p v).call (contents disk p files) (.setDeviceRecord udid record opens loads) =
      (contents disk p (setDeviceRecord disk p files udid record opens loads).1,
        .done (setDeviceRecord disk p files udid record opens loads).2) := by
  rw [setDeviceRecord_eq]
  cases opens with
  | false => rfl
  | true =>
    simp only [if_true, contents_update hplain.ne_configFile, slotOf_buf]
    rfl

theorem call_getDeviceRecord (hplain : PlainId udid) (files : Files) :
    (tables p v).call (contents disk p files) (.getDeviceRecord udid) =
      (contents disk p files, .record (getDeviceRecord disk p files udid)) := by
  simp only [tables, contents_record hplain.ne_configFile, get_slotOf, getDeviceRecord]

theorem call_removeDeviceRecord (hplain : PlainId udid) (files : Files) (removes loads : Bool) :
    (tables p v).call (contents disk p files) (.removeDeviceRecord udid removes loads) =
      (contents disk p (removeDeviceRecord disk files udid removes loads).1,
        .done (removeDeviceRecord disk files udid removes loads).2) := by
  have hslot : (contents disk p files).record udid =
    slotOf p (files (getDeviceRecordPath disk udid)) := contents_record hplain.ne_configFile files
  simp only [tables, hslot, removeDeviceRecord]
  cases hfile : files (getDeviceRecordPath disk udid) with
  | none => rfl
  | some text =>
    have hremoved : contents disk p (Function.update files (getDeviceRecordPath disk udid) none) =
      (contents disk p files).setRecord udid .missing :=
        contents_update hplain.ne_configFile files none
    cases removes with
    | false => cases hread : p.fromMemory text <;> simp [slotOf, hread]
    | true =>
      simp only [Option.isSome_some, Bool.and_self, if_true, hremoved]
      cases hread : p.fromMemory text <;> simp [slotOf, hread]

/-- **The functions of `sysconf.cpp` act on the contents** of the files. Everything that is
shown of the table holds of the files then, after any sequence of calls. -/
theorem implements_tables :
    Implements (sysconf disk p v) (tables p v) (contents disk p) Call.Plain := by
  intro files call hplain
  cases call with
  | getValue key =>
    simp only [tables, sysconf, getValue_eq]
  | setValue key val opens => exact call_setValue files key val opens
  | getDeviceRecord udid => exact call_getDeviceRecord hplain files
  | setDeviceRecord udid record opens loads =>
    exact call_setDeviceRecord hplain files record opens loads
  | removeDeviceRecord udid removes loads =>
    exact call_removeDeviceRecord hplain files removes loads
  | tryGetconfigBool key defaultValue opens =>
    exact call_tryGetconfigBool files key defaultValue opens
  | getSystemBuid generated opens => exact call_getSystemBuid files generated opens

/-- The value of a setting is stored, as a boolean. It is said by means of the function that
reads it. -/
def Stores (disk : Disk) (p : PlistApi D (List Char) V) (v : ValueApi V) (files : Files)
    (key : List Char) (b : Bool) : Prop :=
  (getValue disk p files key).bind v.boolVal = some b

/-- The call does not set the value of this key. Calls for records never do, and a call for the
identifier of the system only does for its own key. -/
def Call.Spares (key : List Char) : Call D V → Prop
  | .setValue key' _ _ => key' ≠ key
  | .getSystemBuid _ _ => systemBuidKey ≠ key
  | _ => True

/-- A setting that is stored is read, and nothing is written. So a second load leaves the files
as they are. -/
theorem tryGetconfigBool_of_stores {b : Bool} (h : Stores disk p v files key b)
    (defaultValue opens : Bool) :
    tryGetconfigBool disk p v files key defaultValue opens = (files, some b) := by
  simp only [tryGetconfigBool]
  rw [h]

/-- **What `plist_to_xml` makes a text of**: a new dictionary, and a dictionary in which one of
the values `ok` has been set, if it had a text before. All booleans and strings are such values; a
null node is not. -/
structure XmlValues (p : PlistApi D (List Char) V) (v : ValueApi V) (ok : V → Prop) : Prop where
  newBool : ∀ b, ok (v.newBool b)
  newString : ∀ s, ok (v.newString s)
  newDict : (p.toXml p.newDict).isSome = true
  setItem : ∀ d key val, p.isDict d = true → (p.toXml d).isSome = true → ok val →
    (p.toXml (p.setItem d key val)).isSome = true

/-- **The configuration can be worked with**: it is a dictionary, and has a text. A configuration
that cannot be read counts as a new one. -/
structure Sound (disk : Disk) (p : PlistApi D (List Char) V) (files : Files) : Prop where
  isDict : p.isDict (contents disk p files).config = true
  toXml : (p.toXml (contents disk p files).config).isSome = true

/-- The value that a call sets can be written. There are values of which the library makes no
text. -/
def Call.Writes (ok : V → Prop) : Call D V → Prop
  | .setValue _ val _ => ok val
  | _ => True

section Stable

variable {ok : V → Prop}

/-- The configuration after a value has been set, provided that it is a dictionary and that a
text can be made of it. -/
theorem config_setValue (hxml : XmlValues p v ok) (hsound : Sound disk p files) (hval : ok val)
    (key : List Char) :
    (contents disk p (setValue disk p files key val true).1).config =
      p.setItem (contents disk p files).config key val := by
  rw [contents_setValue, if_pos rfl, Contents.setValue, written,
    if_pos (hxml.setItem _ key val hsound.isDict hsound.toXml hval)]

/-- **A value that has been set is read**, and so are the others. This is what one expects of a
configuration, and it takes both conditions. -/
theorem getValue_setValue (hxml : XmlValues p v ok) (hsound : Sound disk p files) (hval : ok val)
    (key : List Char) : getValue disk p (setValue disk p files key val true).1 =
      Function.update (getValue disk p files) key (some val) := by
  funext key'
  rw [getValue_eq, config_setValue hxml hsound hval]
  rcases eq_or_ne key' key with rfl | hne
  · rw [p.getItem_setItem_self _ _ _ hsound.isDict, Function.update_self]
  · rw [p.getItem_setItem_of_ne _ _ _ _ hne, Function.update_of_ne hne, getValue_eq]

/-- The configuration can still be worked with: it is a dictionary and has a text, -/
theorem Sound.setValue (hsound : Sound disk p files) (hxml : XmlValues p v ok) (hval : ok val)
    (key : List Char) (opens : Bool) : Sound disk p (setValue disk p files key val opens).1 := by
  cases opens with
  | false => rwa [setValue_eq]
  | true =>
    constructor
    · rw [config_setValue hxml hsound hval]
      exact p.isDict_setItem _ _ _ hsound.isDict
    · rw [config_setValue hxml hsound hval]
      exact hxml.setItem _ _ _ hsound.isDict hsound.toXml hval

/-- also when a setting has been read, which may have written its default. -/
theorem Sound.tryGetconfigBool (hsound : Sound disk p files) (hxml : XmlValues p v ok)
    (key : List Char) (defaultValue opens : Bool) :
    Sound disk p (tryGetconfigBool disk p v files key defaultValue opens).1 := by
  simp only [Store.tryGetconfigBool]
  cases (getValue disk p files key).bind v.boolVal with
  | some b => exact hsound
  | none => exact hsound.setValue hxml (hxml.newBool defaultValue) key opens

/-- A record is in another file, and so the configuration stays as it is when one is written or
removed. -/
theorem config_update (hplain : PlainId udid) (files : Files) (file : Option (List UInt8)) :
    (contents disk p (Function.update files (getDeviceRecordPath disk udid) file)).config =
      (contents disk p files).config := by
  rw [contents_update hplain.ne_configFile]
  rfl

/-- **Every call** whose value can be written leaves a configuration that can be worked with. -/
theorem Sound.call (hsound : Sound disk p files) (hxml : XmlValues p v ok) {call : Call D V}
    (hplain : call.Plain) (hwrites : call.Writes ok) :
    Sound disk p ((sysconf disk p v).call files call).1 := by
  have hrecord : ∀ udid file, PlainId udid → Sound disk p
      (Function.update files (getDeviceRecordPath disk udid) file) := by
    intro udid file hudid
    constructor
    · rw [config_update hudid]
      exact hsound.isDict
    · rw [config_update hudid]
      exact hsound.toXml
  cases call with
  | getValue _ | getDeviceRecord _ => exact hsound
  | setValue key val opens => exact hsound.setValue hxml hwrites key opens
  | setDeviceRecord udid record opens loads =>
    simp only [sysconf, setDeviceRecord_eq]
    cases opens with
    | false => exact hsound
    | true => exact hrecord udid _ hplain
  | removeDeviceRecord udid removes loads =>
    simp only [sysconf, removeDeviceRecord]
    split
    · exact hrecord udid none hplain
    · exact hsound
  | tryGetconfigBool key defaultValue opens => exact hsound.tryGetconfigBool hxml key _ _
  | getSystemBuid generated opens =>
    simp only [sysconf, getSystemBuid]
    cases getValue disk p files systemBuidKey with
    | some buid => exact hsound
    | none => exact hsound.setValue hxml (hxml.newString generated) _ _

/-- The settings of other keys stay, even if the file cannot be opened. -/
theorem Stores.setValue {b : Bool} (h : Stores disk p v files key b) (hxml : XmlValues p v ok)
    (hsound : Sound disk p files) (hval : ok val) (hne : key' ≠ key) (opens : Bool) :
    Stores disk p v (setValue disk p files key' val opens).1 key b := by
  cases opens with
  | false => rwa [setValue_eq]
  | true => rwa [Stores, getValue_setValue hxml hsound hval, Function.update_of_ne hne.symm]

/-- **A setting that has been read is stored**, either because it has been there, or because the
default has been written. -/
theorem stores_of_tryGetconfigBool (hxml : XmlValues p v ok) (hsound : Sound disk p files)
    {defaultValue b : Bool}
    (h : (tryGetconfigBool disk p v files key defaultValue opens).2 = some b) :
    Stores disk p v (tryGetconfigBool disk p v files key defaultValue opens).1 key b := by
  cases hget : (getValue disk p files key).bind v.boolVal with
  | some b' =>
    rw [tryGetconfigBool_of_stores hget] at h ⊢
    rwa [← Option.some.inj h]
  | none =>
    simp only [tryGetconfigBool, hget, setValue_snd, Option.ite_none_right_eq_some] at h ⊢
    obtain ⟨rfl, hb⟩ := h
    rw [Stores, getValue_setValue hxml hsound (hxml.newBool _), Function.update_self,
      Option.bind_some, v.boolVal_newBool, hb]

/-- Reading a setting leaves those that are stored, so that the three of them can be read one
after the other. -/
theorem Stores.tryGetconfigBool {b : Bool} (h : Stores disk p v files key b)
    (hxml : XmlValues p v ok) (hsound : Sound disk p files) (key' : List Char)
    (defaultValue opens : Bool) :
    Stores disk p v (tryGetconfigBool disk p v files key' defaultValue opens).1 key b := by
  cases hget : (getValue disk p files key').bind v.boolVal with
  | some b' => rwa [tryGetconfigBool_of_stores hget]
  | none =>
    have hne : key' ≠ key := by
      rintro rfl
      cases hget.symm.trans h
    simp only [Store.tryGetconfigBool, hget]
    exact h.setValue hxml hsound (hxml.newBool _) hne _

/-- **A setting stays as it is** as long as it is not set, whatever is done with records
meanwhile. -/
theorem Stores.call {b : Bool} (h : Stores disk p v files key b) (hxml : XmlValues p v ok)
    (hsound : Sound disk p files) {call : Call D V} (hplain : call.Plain)
    (hwrites : call.Writes ok) (hspares : call.Spares key) :
    Stores disk p v ((sysconf disk p v).call files call).1 key b := by
  have hrecord : ∀ udid file, PlainId udid → Stores disk p v
      (Function.update files (getDeviceRecordPath disk udid) file) key b := by
    intro udid file hudid
    rwa [Stores, getValue_eq, config_update hudid, ← getValue_eq]
  cases call with
  | getValue _ | getDeviceRecord _ => exact h
  | setValue key' val opens => exact h.setValue hxml hsound hwrites hspares opens
  | setDeviceRecord udid record opens loads =>
    simp only [sysconf, setDeviceRecord_eq]
    cases opens with
    | false => exact h
    | true => exact hrecord udid _ hplain
  | removeDeviceRecord udid removes loads =>
    simp only [sysconf, removeDeviceRecord]
    split
    · exact hrecord udid none hplain
    · exact h
  | tryGetconfigBool key' defaultValue opens => exact h.tryGetconfigBool hxml hsound key' _ _
  | getSystemBuid generated opens =>
    simp only [sysconf, getSystemBuid]
    cases getValue disk p files systemBuidKey with
    | some buid => exact h
    | none => exact h.setValue hxml hsound (hxml.newString _) hspares _

/-- All three settings are stored. After this, `Config::load` writes nothing. -/
structure StoresAll (disk : Disk) (p : PlistApi D (List Char) V) (v : ValueApi V) (files : Files)
    (settings : Settings) : Prop where
  /-- `doPreflight`. -/
  doPreflight : Stores disk p v files doPreflightKey settings.doPreflight
  /-- `enableWifiDeviceManager`. -/
  enableWifi : Stores disk p v files enableWifiKey settings.enableWifiDeviceManager
  /-- `enableUSBDeviceManager`. -/
  enableUsb : Stores disk p v files enableUsbKey settings.enableUSBDeviceManager

theorem StoresAll.load {settings : Settings} (h : StoresAll disk p v files settings)
    (opens : Bool) : load disk p v files opens = (files, some settings) := by
  simp only [Store.load, tryGetconfigBool_of_stores h.doPreflight,
    tryGetconfigBool_of_stores h.enableWifi, tryGetconfigBool_of_stores h.enableUsb]
  rfl

/-- **Settings that have been loaded are stored**, in a configuration that can be worked with. -/
theorem storesAll_of_load (hxml : XmlValues p v ok) (hsound : Sound disk p files)
    {settings : Settings} (h : (load disk p v files opens).2 = some settings) :
    StoresAll disk p v (load disk p v files opens).1 settings ∧
      Sound disk p (load disk p v files opens).1 := by
  simp only [load] at h ⊢
  cases hpreflight : (tryGetconfigBool disk p v files doPreflightKey true opens).2 with
  | none => simp [hpreflight] at h
  | some preflight =>
    simp only [hpreflight] at h ⊢
    have h₁ := stores_of_tryGetconfigBool hxml hsound hpreflight
    have hsound₁ := hsound.tryGetconfigBool hxml doPreflightKey true opens
    generalize (tryGetconfigBool disk p v files doPreflightKey true opens).1 = files₁
      at h h₁ hsound₁ ⊢
    cases hwifi : (tryGetconfigBool disk p v files₁ enableWifiKey true opens).2 with
    | none => simp [hwifi] at h
    | some wifi =>
      simp only [hwifi, Option.map_eq_some_iff] at h ⊢
      obtain ⟨usb, husb, rfl⟩ := h
      have h₂ := stores_of_tryGetconfigBool hxml hsound₁ hwifi
      have hsound₂ := hsound₁.tryGetconfigBool hxml enableWifiKey true opens
      exact ⟨⟨(h₁.tryGetconfigBool hxml hsound₁ _ _ _).tryGetconfigBool hxml hsound₂ _ _ _,
        h₂.tryGetconfigBool hxml hsound₂ _ _ _, stores_of_tryGetconfigBool hxml hsound₂ husb⟩,
        hsound₂.tryGetconfigBool hxml enableUsbKey true opens⟩

end Stable

/-! ### Runs -/

instance encodableChar : Encodable Char :=
  Encodable.ofLeftInjection Char.toNat (fun n => some (Char.ofNat n)) fun c => by simp

/-- Dictionaries that are lists of keys and values, the newest first; the text is as long as the
number of the dictionary, and one byte more. -/
def listApi (V : Type) [Encodable V] : PlistApi (List (List Char × V)) (List Char) V where
  fromMemory
    | [] => none
    | _ :: text => Encodable.decode text.length
  toXml d := some (List.replicate (Encodable.encode d + 1) 0)
  newDict := []
  isDict _ := true
  setItem d key val := (key, val) :: d
  getItem d key := d.lookup key
  fromMemory_nil := rfl
  fromMemory_toXml d text h := by
    cases h
    simp [List.replicate_succ]
  isDict_newDict := rfl
  getItem_newDict _ := rfl
  setItem_of_not_dict _ _ _ h := by cases h
  getItem_of_not_dict _ _ h := by cases h
  isDict_setItem _ _ _ _ := rfl
  getItem_setItem_self d key val _ := by simp
  getItem_setItem_of_ne d key val key' hne := by
    have hbeq : (key' == key) = false := beq_false_of_ne hne
    simp [List.lookup_cons, hbeq]

/-- Values that are booleans or strings. This is enough for the configuration. -/
def sumApi : ValueApi (Bool ⊕ List Char) where
  newBool := .inl
  boolVal := Sum.getLeft?
  newString := .inr
  stringPtr := Sum.getRight?
  boolVal_newBool _ := rfl
  stringPtr_newString _ := rfl

/-- Dictionaries of booleans and strings, as lists of pairs, in which the first pair of a key
counts. -/
abbrev Dict := List (List Char × (Bool ⊕ List Char))

/-- A store of such dictionaries, on which calls can be computed. -/
abbrev dictTables : Object (Contents Dict) (Call Dict (Bool ⊕ List Char))
    (Result Dict (Bool ⊕ List Char)) := tables (listApi _) sumApi

/-- A record is saved and removed, and another one is not there when it is asked for. -/
def recordCalls : List (Call Dict (Bool ⊕ List Char)) :=
  [.setDeviceRecord ['u'] [] true true, .getSystemBuid ['b'] true, .removeDeviceRecord ['u'] true
    true, .removeDeviceRecord ['v'] true true, .tryGetconfigBool enableUsbKey false true]

theorem plain_recordCalls : ∀ call ∈ recordCalls, call.Plain := by
  have hu : PlainId ['u'] := ⟨by decide, by decide, by decide⟩
  have hv : PlainId ['v'] := ⟨by decide, by decide, by decide⟩
  simp [recordCalls, Call.Plain, hu, hv]

/-- All dictionaries of booleans and strings have a text, so that nothing is asked of the values
here. -/
theorem xmlValues_listApi : XmlValues (listApi _) sumApi fun _ => True :=
  ⟨fun _ => trivial, fun _ => trivial, rfl, fun _ _ _ _ _ _ => rfl⟩

theorem sound_listApi (files : Files) :
    Sound varLibLockdown (listApi (Bool ⊕ List Char)) files :=
  ⟨rfl, rfl⟩

theorem tryGetconfigBool_opens (files : Files) (key : List Char) (defaultValue : Bool) :
    ∃ b, (tryGetconfigBool disk p v files key defaultValue true).2 = some b := by
  rw [tryGetconfigBool]
  cases (getValue disk p files key).bind v.boolVal with
  | some b => exact ⟨b, rfl⟩
  | none => exact ⟨defaultValue, by simp [setValue_snd]⟩

/-- `Config::load` returns if the configuration can be written, whatever has been in the file
before. -/
theorem load_opens (files : Files) : ∃ settings, (load disk p v files true).2 = some settings := by
  have hopens : ∀ (files : Files) (key : List Char),
      ∃ b, (tryGetconfigBool disk p v files key true true).2 = some b := fun files key =>
    tryGetconfigBool_opens files key true
  obtain ⟨preflight, hpreflight⟩ := hopens files doPreflightKey
  simp only [load, hpreflight]
  generalize (tryGetconfigBool disk p v files doPreflightKey true true).1 = files₁
  obtain ⟨wifi, hwifi⟩ := hopens files₁ enableWifiKey
  simp only [hwifi]
  generalize (tryGetconfigBool disk p v files₁ enableWifiKey true true).1 = files₂
  obtain ⟨usb, husb⟩ := hopens files₂ enableUsbKey
  exact ⟨⟨preflight, wifi, usb⟩, by rw [husb]; rfl⟩

end Store

end Sysconf

end Usbmuxd
