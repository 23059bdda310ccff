import Mathlib.Data.List.Basic
import Usbmuxd.Protocol

/-!
# When a file cannot be saved

`writePlistToFile` makes the whole text of a property list first, and then opens the file with
`fopen(dst, "w")`, which empties it, writes the text with `fwrite` and closes the file. Any of
these may fail.

* `plist_to_xml` fails when there is something in the list that has no text, such as a null
  node, which a binary property list may have. Nobody looks at its result. The pointer stays
  null and the length `0`, so that nothing is written and nothing seems to be wrong.
* `fopen` fails before anything has happened to the file.
* `fwrite` says how many bytes it has accepted, and `writePlistToFile` throws if these are not
  all. But then the file has been emptied.
* What `fwrite` has accepted may still be lost when the file is closed, which nobody looks at.

`sysconf_set_value` reads the configuration before it writes it, and takes a file that does not
parse for an empty one. If the file does parse, but is no dictionary, `plist_dict_set_item` does
nothing, and what is written is what has been read. `sysconf_set_device_record` reads the
directory after it has written the record, and throws if it cannot.

Whichever of the two functions throws, the file should be what it was; and when it returns, the
file should hold the new text, and what has been saved should be read from it
(`Usbmuxd.Sysconf.KeepsOldData`). A file that has been emptied does not come back. So this holds
when the file cannot be opened or everything goes well, and otherwise only if what is in the file
happens to be what was in it before (`Usbmuxd.Sysconf.keeps_old_data_iff`).
-/

namespace Usbmuxd

namespace Sysconf

/-- **What is used of the library for property lists**, with what is known of it. The lists are
of type `D`; a list may be a dictionary, with items of type `V`, or anything else. -/
structure PlistApi (D K V : Type) where
  /-- `plist_from_memory`, which may fail. -/
  fromMemory : List UInt8 → Option D
  /-- `plist_to_xml`; `none` if it fails, which leaves the pointer null and the length `0`. -/
  toXml : D → Option (List UInt8)
  /-- `plist_new_dict`. -/
  newDict : D
  /-- Whether the type of the node is `PLIST_DICT`. -/
  isDict : D → Bool
  /-- `plist_dict_set_item`. -/
  setItem : D → K → V → D
  /-- `plist_dict_get_item`; `none` for the null pointer. -/
  getItem : D → K → Option V
  /-- An empty file is no property list. -/
  fromMemory_nil : fromMemory [] = none
  /-- What has been written can be read. -/
  fromMemory_toXml : ∀ d text, toXml d = some text → fromMemory text = some d
  /-- A new dictionary is one, -/
  isDict_newDict : isDict newDict = true
  /-- and has no items. -/
  getItem_newDict : ∀ key, getItem newDict key = none
  /-- Nothing can be set in what is no dictionary, -/
  setItem_of_not_dict : ∀ d key val, isDict d = false → setItem d key val = d
  /-- and it has no items. -/
  getItem_of_not_dict : ∀ d key, isDict d = false → getItem d key = none
  /-- A dictionary in which an item has been set is still a dictionary, -/
  isDict_setItem : ∀ d key val, isDict d = true → isDict (setItem d key val) = true
  /-- has this item, -/
  getItem_setItem_self : ∀ d key val, isDict d = true → getItem (setItem d key val) key = some val
  /-- and the other items as before. -/
  getItem_setItem_of_ne : ∀ d key val key', key' ≠ key →
    getItem (setItem d key val) key' = getItem d key'

/-- What happens to a text on its way into an open file: how much of it `fwrite` accepts, and
how much has got into the file in the end. The second is not known to the program. -/
structure Stream (buf : List UInt8) where
  /-- What `fwrite` returns. -/
  returned : ℕ
  /-- How many bytes are in the file when it has been closed. -/
  written : ℕ
  /-- `fwrite` accepts no more than there is. -/
  returned_le : returned ≤ buf.length
  /-- Nothing is written that has not been accepted. -/
  written_le : written ≤ returned

/-- All is well: every byte is accepted, and gets into the file. This is the usual case, and the
only one in which nothing is lost. -/
def Stream.whole (buf : List UInt8) : Stream buf :=
  ⟨buf.length, buf.length, Nat.le_refl _, Nat.le_refl _⟩

/-- How the writing of a text turns out. Opening the file is a step of its own, since it is
opening that empties it. -/
inductive Writing (buf : List UInt8)
  /-- `fopen` fails. -/
  | notOpened
  /-- The file is opened. -/
  | opened (stream : Stream buf)

/-- What is left of a save: the file, and whether the caller has been told of a failure. -/
structure Saved where
  /-- The content of the file, if there is one. -/
  file : Option (List UInt8)
  /-- Whether the function returns; otherwise it throws. -/
  returns : Bool

section Code

variable {D K V : Type} (p : PlistApi D K V) (file : Option (List UInt8))

/-- `readPlist`; `none` when it throws, which it does for a file that is missing and for one
that does not parse alike. -/
def readPlist : Option D := file.bind p.fromMemory

/-- The `buf` of `writePlistToFile`, with `bufLen` bytes: the text, or nothing if `plist_to_xml`
has failed. -/
def PlistApi.buf (plist : D) : List UInt8 := (p.toXml plist).getD []

/-- `writePlistToFile`. -/
def writePlistToFile (plist : D) : Writing (p.buf plist) → Saved
  | .notOpened => ⟨file, false⟩
  | .opened stream =>
      ⟨some ((p.buf plist).take stream.written), stream.returned = (p.buf plist).length⟩

/-- What `sysconf_set_value` takes the configuration for: a new one if it cannot be read. -/
def configOf : D := (readPlist p file).getD p.newDict

/-- The configuration that `sysconf_set_value` writes: that in the file, if there is one, and
otherwise an empty one, with the value in it. -/
def withValue (key : K) (val : V) : D := p.setItem (configOf p file) key val

/-- `sysconf_set_value`. All other values are written again with the one that is set, and they
share its fate. -/
def sysconfSetValue (key : K) (val : V) (w : Writing (p.buf (withValue p file key val))) :
    Saved :=
  writePlistToFile p file (withValue p file key val) w

/-- `sysconf_set_device_record`. `loads` is whether `sysconf_load_known_macaddrs` returns, which
is called when the file has been written. -/
def sysconfSetDeviceRecord (record : D) (w : Writing (p.buf record)) (loads : Bool) : Saved :=
  let saved := writePlistToFile p file record w
  ⟨saved.file, saved.returns && loads⟩

/-- `sysconf_get_value`; `none` when it throws, because there is no configuration or no such
value in it. -/
def sysconfGetValue (key : K) : Option V := (readPlist p file).bind fun d => p.getItem d key

end Code

/-! ### Saving -/

/-- A save, of either kind. Both of them write one property list to one file. -/
inductive Save (D K V : Type)
  /-- `sysconf_set_device_record`. -/
  | deviceRecord (record : D)
  /-- `sysconf_set_value`. -/
  | value (key : K) (val : V)

section

variable {D K V : Type} (p : PlistApi D K V) (file : Option (List UInt8))

/-- The property list that is written. It depends on the file if a value is set, as the other
values come from there. -/
def Save.plist : Save D K V → D
  | .deviceRecord record => record
  | .value key val => withValue p file key val

/-- Make the save. `loads` is whether the directory can be read, when a record is saved. -/
def Save.run (loads : Bool) : (save : Save D K V) → Writing (p.buf (save.plist p file)) → Saved
  | .deviceRecord record, w => sysconfSetDeviceRecord p file record w loads
  | .value key val, w => sysconfSetValue p file key val w

/-- Whether anything can still go wrong when the file has been written, and the caller is told
of a failure although there is none. -/
def Save.loads (loads : Bool) : Save D K V → Bool
  | .deviceRecord _ => loads
  | .value _ _ => true

/-- What has been saved is read from a file: the record, or the value. -/
def Save.ReadFrom : Save D K V → Option (List UInt8) → Prop
  | .deviceRecord record, file => readPlist p file = some record
  | .value key val, file => sysconfGetValue p file key = some val

/-- **A failed save keeps the old data**, and one that does not fail has all of the new. -/
structure KeepsOldData (save : Save D K V) (saved : Saved) : Prop where
  /-- If it throws, the file is what it was. -/
  threw : saved.returns = false → saved.file = file
  /-- If it returns, there is a new text and the file holds it, -/
  returned : saved.returns = true →
    ∃ text, p.toXml (save.plist p file) = some text ∧ saved.file = some text
  /-- and what has been saved can be read. -/
  read : saved.returns = true → save.ReadFrom p saved.file

/-- **The save can be made**: the new property list has a text, and if a value is set the
configuration is a dictionary, unless it cannot be read. -/
structure Save.Possible (save : Save D K V) : Prop where
  text : (p.toXml (save.plist p file)).isSome = true
  dict : ∀ key val, save = .value key val → p.isDict (configOf p file) = true

/-- **How the writing of a text has to turn out**: the file is not opened; or every byte gets
into it, nothing goes wrong afterwards, and the text was what was to be saved; or it is noticed
that something has gone wrong, and what has got into the file is what was in it before. -/
def Writing.Safe {buf : List UInt8} (possible : Prop) (loads : Bool) : Writing buf → Prop
  | .notOpened => True
  | .opened stream =>
      if stream.returned = buf.length ∧ loads = true then possible ∧ stream.written = buf.length
      else file = some (buf.take stream.written)

end

variable {D K V : Type} {p : PlistApi D K V} {file : Option (List UInt8)} {save : Save D K V}

/-- The one thing that both functions do: write a property list to a file that has been emptied
before. -/
theorem Save.run_eq (loads : Bool) (save : Save D K V) (w : Writing (p.buf (save.plist p file))) :
    save.run p file loads w =
      match w with
      | .notOpened => ⟨file, false⟩
      | .opened stream => ⟨some ((p.buf (save.plist p file)).take stream.written),
          stream.returned = (p.buf (save.plist p file)).length ∧ save.loads loads = true⟩ := by
  cases save with
  | deviceRecord record =>
    cases w with
    | notOpened => rfl
    | opened stream =>
      cases loads <;>
        simp [run, sysconfSetDeviceRecord, writePlistToFile, Save.loads, Save.plist]
  | value key val =>
    cases w with
    | notOpened => rfl
    | opened stream => simp [run, sysconfSetValue, writePlistToFile, Save.loads, Save.plist]

/-! ### What is read afterwards -/

theorem PlistApi.buf_of_toXml {plist : D} {text : List UInt8} (h : p.toXml plist = some text) :
    p.buf plist = text := by rw [buf, h, Option.getD_some]

/-- What has been written is read, if it has a text, and if nothing of the text is missing. -/
theorem readPlist_of_toXml {plist : D} {text : List UInt8} (h : p.toXml plist = some text) :
    readPlist p (some text) = some plist :=
  p.fromMemory_toXml plist text h

/-- **What has been saved is read** from its text, if the save can be made. -/
theorem Save.Possible.readFrom (h : save.Possible p file) {text : List UInt8}
    (htext : p.toXml (save.plist p file) = some text) : save.ReadFrom p (some text) := by
  cases save with
  | deviceRecord record => exact readPlist_of_toXml htext
  | value key val =>
    rw [ReadFrom, sysconfGetValue, readPlist_of_toXml htext, Option.bind_some, Save.plist,
      withValue]
    exact p.getItem_setItem_self _ key val (h.dict key val rfl)

/-- A value is read from a new configuration only if this is a dictionary. -/
theorem isDict_of_readFrom {key : K} {val : V} {text : List UInt8}
    (htext : p.toXml (withValue p file key val) = some text)
    (h : (Save.value key val : Save D K V).ReadFrom p (some text)) :
    p.isDict (configOf p file) = true := by
  by_contra hnot
  have hfalse : p.isDict (configOf p file) = false := Bool.eq_false_iff.mpr hnot
  rw [Save.ReadFrom, sysconfGetValue, readPlist_of_toXml htext, Option.bind_some, withValue,
    p.setItem_of_not_dict _ _ _ hfalse, p.getItem_of_not_dict _ _ hfalse] at h
  cases h

/-- **All the other values are read** as before, if the configuration could be read. -/
theorem getValue_of_ne {key key' : K} {val : V} {d : D} {text : List UInt8}
    (htext : p.toXml (withValue p file key val) = some text) (hread : readPlist p file = some d)
    (hne : key' ≠ key) : sysconfGetValue p (some text) key' = sysconfGetValue p file key' := by
  rw [sysconfGetValue, sysconfGetValue, readPlist_of_toXml htext, hread, Option.bind_some,
    Option.bind_some, withValue, configOf, hread, Option.getD_some,
    p.getItem_setItem_of_ne d key val key' hne]

/-- **A failed save keeps the old data** when the writing turns out in one of the ways that are
safe, and only then. -/
theorem keeps_old_data_iff (p : PlistApi D K V) (file : Option (List UInt8)) (loads : Bool)
    (save : Save D K V) (w : Writing (p.buf (save.plist p file))) :
    KeepsOldData p file save (save.run p file loads w) ↔
      w.Safe file (save.Possible p file) (save.loads loads) := by
  rw [Save.run_eq]
  cases w with
  | notOpened => exact iff_of_true ⟨fun _ => rfl, nofun, nofun⟩ trivial
  | opened stream =>
    have hle := Nat.le_trans stream.written_le stream.returned_le
    by_cases hreturns : stream.returned = (p.buf (save.plist p file)).length ∧
        save.loads loads = true
    · rw [Writing.Safe, if_pos hreturns]
      constructor
      · intro h
        obtain ⟨text, htext, hfile⟩ := h.returned (decide_eq_true hreturns)
        have hread := h.read (decide_eq_true hreturns)
        dsimp only at hfile hread
        rw [hfile] at hread
        have hbuf : p.buf (save.plist p file) = text := PlistApi.buf_of_toXml htext
        refine ⟨⟨by rw [htext]; rfl, ?_⟩, ?_⟩
        · rintro key val rfl
          exact isDict_of_readFrom htext hread
        · have hlen := congrArg List.length (Option.some.inj hfile)
          rw [List.length_take, ← hbuf] at hlen
          omega
      · rintro ⟨hpossible, hwritten⟩
        obtain ⟨text, htext⟩ := Option.isSome_iff_exists.mp hpossible.text
        have hbuf : p.buf (save.plist p file) = text := PlistApi.buf_of_toXml htext
        have hfile : some ((p.buf (save.plist p file)).take stream.written) = some text := by
          rw [hwritten, List.take_length, hbuf]
        refine ⟨fun hthrew => absurd hreturns (of_decide_eq_false hthrew),
          fun _ => ⟨text, htext, hfile⟩, fun _ => ?_⟩
        dsimp only
        rw [hfile]
        exact hpossible.readFrom htext
    · rw [Writing.Safe, if_neg hreturns]
      constructor
      · exact fun h => (h.threw (decide_eq_false hreturns)).symm
      · exact fun h => ⟨fun _ => h.symm,
          fun hreturned => absurd (of_decide_eq_true hreturned) hreturns,
          fun hreturned => absurd (of_decide_eq_true hreturned) hreturns⟩

/-! ### What is lost -/

/-- A property list of strings and null nodes, or an array. This is enough to have both kinds of
lists that make trouble. -/
inductive Sample
  /-- A dictionary; `none` stands for a null node. -/
  | dict (items : List (List Char × Option (List Char)))
  /-- An empty array. -/
  | array
  deriving DecidableEq

/-- `HostID`, the one entry of a pair record that is looked at when a session is started. -/
def hostIDKey : List Char := ['H', 'o', 's', 't', 'I', 'D']

/-- A pair record with nothing but a `HostID`. -/
def Sample.record (hostID : List Char) : Sample := .dict [(hostIDKey, some hostID)]

/-- The text of a list, as libplist writes it. That no text is made of a null node is said by
`Usbmuxd.Sysconf.sampleApi`. -/
def Sample.text : Sample → List UInt8
  | .array => plistText (ascii "<array/>\n".toList)
  | .dict [] => plistText (ascii "<dict/>\n".toList)
  | .dict items => plistText (ascii ("<dict>\n".toList ++
      items.flatMap (fun item => "\t<key>".toList ++ item.1 ++ "</key>\n\t<string>".toList ++
        item.2.getD [] ++ "</string>\n".toList) ++ "</dict>\n".toList))

/-- The lists that are written and read here. None of them has a null node. -/
def Sample.known : List Sample := [.dict [], .array, .record ['A'], .record ['B']]

/-- The library, as far as these lists go. A text is parsed by finding out which list it is the
text of, and a list with a null node has no text. -/
def sampleApi : PlistApi Sample (List Char) (Option (List Char)) where
  fromMemory text := Sample.known.find? fun d => d.text = text
  toXml d := if d ∈ Sample.known then some d.text else none
  newDict := .dict []
  isDict d := match d with
    | .dict _ => true
    | .array => false
  setItem d key val := match d with
    | .dict items => .dict ((key, val) :: items)
    | .array => .array
  getItem d key := match d with
    | .dict items => items.lookup key
    | .array => none
  fromMemory_nil := by decide +kernel
  fromMemory_toXml d text h := by
    have hknown : ∀ d ∈ Sample.known, Sample.known.find? (fun d' => d'.text = d.text) = some d := by
      decide +kernel
    obtain ⟨hmem, htext⟩ := Option.ite_none_right_eq_some.mp h
    cases htext
    exact hknown d hmem
  isDict_newDict := rfl
  getItem_newDict _ := rfl
  setItem_of_not_dict d key val h := by
    cases d with
    | dict items => cases h
    | array => rfl
  getItem_of_not_dict d key h := by
    cases d with
    | dict items => cases h
    | array => rfl
  isDict_setItem d key val h := by
    cases d with
    | dict items => rfl
    | array => cases h
  getItem_setItem_self d key val h := by
    cases d with
    | dict items => simp
    | array => cases h
  getItem_setItem_of_ne d key val key' hne := by
    cases d with
    | dict items => simp [List.lookup_cons, beq_false_of_ne hne]
    | array => rfl

/-- `fwrite` accepts so many bytes, and all of them get into the file. The others are missing,
and the caller notices. -/
def Stream.upTo {buf : List UInt8} (n : ℕ) (h : n ≤ buf.length) : Stream buf :=
  ⟨n, n, h, Nat.le_refl n⟩

/-- `fwrite` accepts all bytes, and none of them gets into the file. This is what happens when
the disk is full and the bytes are still in a buffer: `fclose` fails, and nobody looks at its
result. -/
def Stream.lost {buf : List UInt8} : Stream buf := ⟨buf.length, 0, Nat.le_refl _, Nat.zero_le _⟩

/-- The file of a record, as it is before the save. -/
abbrev sampleFile : Option (List UInt8) := some (Sample.record ['A']).text

/-- **The old record is gone**: it is overwritten, and after one byte the disk is full. **The new
record is not there**: the disk is full when the file is closed, or the record has a null node, and
nobody is told. And **the value is not there**: the configuration is an array. -/
theorem old_record_lost :
    ¬KeepsOldData sampleApi sampleFile (.deviceRecord (.record ['B']))
      ((Save.deviceRecord (.record ['B'])).run sampleApi sampleFile true
        (.opened (.upTo 1 (by decide +kernel)))) ∧
    ¬KeepsOldData sampleApi sampleFile (.deviceRecord (.record ['B']))
      ((Save.deviceRecord (.record ['B'])).run sampleApi sampleFile true (.opened .lost)) ∧
    ¬KeepsOldData sampleApi sampleFile (.deviceRecord (.dict [(hostIDKey, none)]))
      ((Save.deviceRecord (.dict [(hostIDKey, none)])).run sampleApi sampleFile true
        (.opened .lost)) ∧
    ¬KeepsOldData sampleApi (some Sample.array.text) (.value hostIDKey (some ['B']))
      ((Save.value hostIDKey (some ['B'])).run sampleApi (some Sample.array.text) true
        (.opened (.upTo _ (Nat.le_refl _)))) := by
  refine ⟨fun h => ?_, fun h => ?_, fun h => ?_, fun h => ?_⟩
  · exact absurd (h.threw (by decide +kernel)) (by decide +kernel)
  · obtain ⟨text, htext, hfile⟩ := h.returned (by decide +kernel)
    exact absurd (htext.trans hfile.symm) (by decide +kernel)
  · obtain ⟨text, htext, hfile⟩ := h.returned (by decide +kernel)
    exact absurd (htext.trans hfile.symm) (by decide +kernel)
  · have hread : sysconfGetValue sampleApi _ hostIDKey = some (some ['B']) :=
      h.read (by decide +kernel)
    exact absurd hread (by decide +kernel)

end Sysconf

end Usbmuxd
