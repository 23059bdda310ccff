import Mathlib.Data.Nat.Bitwise
import Usbmuxd.Library.CStrings
import Usbmuxd.Library.Endian

/-!
# The serial number of a USB device

The serial number comes in a string descriptor: its length in bytes, its type, and code units
of two bytes each, the low one first. `usb_get_serial_callback` puts the characters into
`_serial`, one byte for each code unit, and stops at the first zero. A new style UDID is sent
without its hyphen, which is put behind the eighth character: the sixteen others are moved up
by one.

The length is one byte, so there are at most 127 code units, and no text comes near the end of
`_serial` (`Usbmuxd.UsbSerial.length_decoded_le`); the loop therefore writes all that there is
to decode (`Usbmuxd.UsbSerial.decodeLoop_eq`). What it leaves behind the text is what was there
before, which is why `_serial` has to be zero at first.

For the same reason nothing is read beyond the transfer buffer, which has 1032 bytes: a length
of 255 ends the loop within the first 256 of them. And a serial number without characters
beyond ASCII is decoded from its descriptor as it is
(`Usbmuxd.UsbSerial.decoded_descriptor`), so that the daemon and the device agree about what
the device is called.
-/

namespace Usbmuxd

namespace UsbSerial

/-! ### The callback -/

/-- `sizeof(usbdev->_serial)`, with room for more characters than a string descriptor can
have. -/
def sizeofSerial : ℕ := 256

/-- What stands for a character that is not ASCII, since every code unit becomes one byte. -/
def questionMark : UInt8 := 0x3F

/-- What is put into a new style UDID, behind its eighth character. -/
def hyphen : UInt8 := 0x2D

/-- The loop of `usb_get_serial_callback`, from `si` and `di` on: `di` in the end, and
`_serial`. -/
def decodeLoop (data : ℕ → UInt8) (si di : ℕ) (serial : ℕ → UInt8) : ℕ × (ℕ → UInt8) :=
  if si < (data 0).toNat ∧ di < sizeofSerial - 1 then
    -- non-ASCII
    if data si &&& 0x80 ≠ 0 ∨ data (si + 1) ≠ 0 then
      decodeLoop data (si + 2) (di + 1) (Function.update serial di questionMark)
    else if data si = 0 then (di, serial)
    else decodeLoop data (si + 2) (di + 1) (Function.update serial di (data si))
  else (di, serial)
termination_by (data 0).toNat - si

/-- The hyphen is put into a new style UDID of `di` characters. Only the length decides whether
it is one, and not the characters. -/
def putHyphen (di : ℕ) (serial : ℕ → UInt8) : ℕ → UInt8 :=
  let serial := Memory.move serial 9 8 16
  let serial := Function.update serial 8 hyphen
  Function.update serial (di + 1) 0

/-- `_serial` after `usb_get_serial_callback` has decoded `data` into it, as the code computes
it: the loop, the zero, and then the hyphen. -/
def decodeSerial (data serial : ℕ → UInt8) : ℕ → UInt8 :=
  let (di, serial) := decodeLoop data 2 0 serial
  -- just doing sanity zero termination
  let serial := Function.update serial (sizeofSerial - 1) 0
  -- new style UDID
  if di = 24 then putHyphen di serial else serial

/-! ### What is to be decoded -/

/-- A code unit: two bytes of the descriptor, the low one first. -/
def codeUnit (data : ℕ → UInt8) (o : ℕ) : ℕ := Endian.le (Memory.read data o 2)

/-- The code units from an offset on, up to the length `data[0]`. Half a unit at the end is left
out, as the loop does not look at it. -/
def codeUnitsFrom (data : ℕ → UInt8) (o : ℕ) : List ℕ :=
  (List.range' o (((data 0).toNat - o + 1) / 2) 2).map (codeUnit data)

/-- The code units of a string descriptor, which begin behind its length and its type. -/
def codeUnits (data : ℕ → UInt8) : List ℕ := codeUnitsFrom data 2

/-- The character for a code unit. A unit of 128 or more is not ASCII, whatever its low byte
is. -/
def deUnicode (unit : ℕ) : UInt8 := if unit < 0x80 then UInt8.ofNat unit else questionMark

/-- The characters for code units, up to the first that is zero, at which the loop stops. -/
def decode (units : List ℕ) : List UInt8 := (units.takeWhile (· ≠ 0)).map deUnicode

/-- The characters in a string descriptor. This says what the serial number is without saying
how it is written. -/
def decoded (data : ℕ → UInt8) : List UInt8 := decode (codeUnits data)

/-- A string descriptor for code units. Its type is 3, and its length counts its first two
bytes. -/
def descriptor (units : List ℕ) : List UInt8 :=
  UInt8.ofNat (2 + 2 * units.length) :: 3 :: units.flatMap (Endian.toLe 2)

/-- A serial number as it is kept, with the hyphen of a new style UDID. -/
def formatted (s : List UInt8) : List UInt8 :=
  if s.length = 24 then s.take 8 ++ hyphen :: s.drop 8 else s

/-- **A serial number has been decoded** from `data`, and `_serial` was `serial` before. -/
structure Decoded (data serial serial' : ℕ → UInt8) : Prop where
  /-- There is a zero in `_serial`, -/
  terminated : ∃ i < sizeofSerial, serial' i = 0
  /-- and nothing has been written behind `_serial`. -/
  inside : ∀ i, sizeofSerial ≤ i → serial' i = serial i
  /-- The text is what has been decoded, with a hyphen if these are 24 characters; -/
  text : CString.text serial' sizeofSerial = formatted (decoded data)
  /-- then the hyphen makes a difference, and only then. -/
  changed : CString.text serial' sizeofSerial ≠ decoded data ↔ (decoded data).length = 24
  /-- Without the hyphen it is what has been decoded. -/
  restored : (decoded data).length = 24 →
    (CString.text serial' sizeofSerial).eraseIdx 8 = decoded data

variable {data serial : ℕ → UInt8} {si di o : ℕ}

/-! ### The code units -/

theorem codeUnit_eq (data : ℕ → UInt8) (o : ℕ) :
    codeUnit data o = (data o).toNat + 256 * (data (o + 1)).toNat := by
  simp [codeUnit, Endian.le, Memory.read, List.range_succ, Nat.ofDigits_cons]

theorem codeUnitsFrom_of_lt (h : si < (data 0).toNat) :
    codeUnitsFrom data si = codeUnit data si :: codeUnitsFrom data (si + 2) := by
  have hcount : ((data 0).toNat - si + 1) / 2 = ((data 0).toNat - (si + 2) + 1) / 2 + 1 := by omega
  rw [codeUnitsFrom, hcount, List.range'_succ, List.map_cons]
  rfl

theorem codeUnitsFrom_of_le (h : (data 0).toNat ≤ si) : codeUnitsFrom data si = [] := by
  have hcount : ((data 0).toNat - si + 1) / 2 = 0 := by omega
  rw [codeUnitsFrom, hcount]
  rfl

theorem length_codeUnitsFrom (data : ℕ → UInt8) (o : ℕ) :
    (codeUnitsFrom data o).length = ((data 0).toNat - o + 1) / 2 := by
  rw [codeUnitsFrom, List.length_map, List.length_range']

/-- **There is room for every text** in `_serial`, and for a zero and a hyphen. -/
theorem length_decoded_le (data : ℕ → UInt8) : (decoded data).length ≤ 127 := by
  have hlt := (data 0).toNat_lt
  calc (decoded data).length = ((codeUnits data).takeWhile (· ≠ 0)).length := List.length_map ..
    _ ≤ (codeUnits data).length := (List.takeWhile_sublist _).length_le
    _ = ((data 0).toNat - 2 + 1) / 2 := length_codeUnitsFrom data 2
    _ ≤ 127 := by omega

/-- **The loop finds out** what is not ASCII, although it looks at the two bytes of a code unit
one by one. -/
theorem nonAscii_iff (data : ℕ → UInt8) (o : ℕ) :
    data o &&& 0x80 ≠ 0 ∨ data (o + 1) ≠ 0 ↔ 0x80 ≤ codeUnit data o := by
  have hlow := (data o).toNat_lt
  have hand : data o &&& 0x80 = 0 ↔ (data o).toNat < 128 := by
    rw [← UInt8.toNat_inj, UInt8.toNat_and]
    change (data o).toNat &&& 2 ^ 7 = 0 ↔ _
    rw [Nat.and_two_pow, Nat.testBit_eq_decide_div_mod_eq, Nat.mul_eq_zero,
      or_iff_left (by decide), Bool.toNat_eq_zero, decide_eq_false_iff_not]
    omega
  have hzero : data (o + 1) = 0 ↔ (data (o + 1)).toNat = 0 := UInt8.toNat_inj.symm
  rw [Ne, hand, Ne, hzero, codeUnit_eq]
  omega

/-- A code unit that is ASCII has nothing in its high byte, so that the low byte is the
character. -/
theorem codeUnit_of_ascii (h : codeUnit data o < 0x80) : (data o).toNat = codeUnit data o := by
  rw [codeUnit_eq] at h ⊢
  omega

theorem decode_cons_zero (units : List ℕ) : decode (0 :: units) = [] := by
  simp [decode]

theorem decode_cons_of_ne {unit : ℕ} (h : unit ≠ 0) (units : List ℕ) :
    decode (unit :: units) = deUnicode unit :: decode units := by
  simp [decode, h]

/-- What has been decoded has no zero in it. So the text that is read back ends where it has
been ended. -/
theorem zero_notMem_decode (units : List ℕ) : 0 ∉ decode units := by
  intro hmem
  obtain ⟨unit, hunit, heq⟩ := List.mem_map.mp hmem
  have hne : unit ≠ 0 := by simpa using List.mem_takeWhile_imp hunit
  rw [deUnicode] at heq
  split at heq
  · next hlt =>
    have hzero := congrArg UInt8.toNat heq
    rw [UInt8.toNat_ofNat', Nat.mod_eq_of_lt (by omega)] at hzero
    exact hne hzero
  · cases heq

/-! ### Descriptors -/

/-- **The code units that stand in a buffer** are read, up to its length. -/
theorem codeUnitsFrom_of_read {units : List ℕ} (hunits : ∀ unit ∈ units, unit < 256 ^ 2)
    (hlen : (data 0).toNat = si + 2 * units.length)
    (hread : Memory.read data si (2 * units.length) = units.flatMap (Endian.toLe 2)) :
    codeUnitsFrom data si = units := by
  induction units generalizing si with
  | nil => exact codeUnitsFrom_of_le hlen.le
  | cons unit units ih =>
    rw [List.length_cons, Nat.mul_succ] at hlen hread
    have hsplit : Memory.read data si 2 ++ Memory.read data (si + 2) (2 * units.length) =
        Endian.toLe 2 unit ++ units.flatMap (Endian.toLe 2) := by
      rw [← Memory.read_add, Nat.add_comm 2, hread, List.flatMap_cons]
    obtain ⟨hfirst, hrest⟩ := List.append_inj hsplit (by simp)
    have hunit : codeUnit data si = unit := by
      rw [codeUnit, hfirst, Endian.le_toLe, Nat.mod_eq_of_lt (hunits unit List.mem_cons_self)]
    rw [codeUnitsFrom_of_lt (by omega), hunit,
      ih (fun u hu => hunits u (List.mem_cons_of_mem _ hu)) (by omega) hrest]

/-- A descriptor is decoded to its characters, whatever has been in the buffer before it. -/
theorem decoded_write_descriptor {units : List ℕ} (hunits : ∀ unit ∈ units, unit < 256 ^ 2)
    (hlen : units.length ≤ 126) (mem : ℕ → UInt8) :
    decoded (Memory.write mem 0 (descriptor units)) = decode units := by
  have hbytes : (units.flatMap (Endian.toLe 2)).length = 2 * units.length := by
    rw [List.length_flatMap, List.map_congr_left fun unit _ => Endian.length_toLe 2 unit,
      List.map_const', List.sum_replicate_nat, Nat.mul_comm]
  have hread := Memory.read_write_field mem 0
    [UInt8.ofNat (2 + 2 * units.length), 3] (units.flatMap (Endian.toLe 2)) []
  rw [List.append_nil, hbytes] at hread
  refine congrArg decode (codeUnitsFrom_of_read hunits ?_ hread)
  have hfirst : Memory.write mem 0 (descriptor units) 0 = UInt8.ofNat (2 + 2 * units.length) := rfl
  rw [hfirst, UInt8.toNat_ofNat', Nat.mod_eq_of_lt (by omega)]

/-- Characters that are ASCII are kept, and a serial number of nothing but these is what the
device has sent. -/
theorem decode_ascii {s : List UInt8} (hs : ∀ c ∈ s, c ≠ 0 ∧ c.toNat < 0x80) :
    decode (s.map UInt8.toNat) = s := by
  induction s with
  | nil => rfl
  | cons c s ih =>
    obtain ⟨hne, hlt⟩ := hs c List.mem_cons_self
    have hne' : c.toNat ≠ 0 := fun heq => hne (UInt8.toNat_inj.mp heq)
    rw [List.map_cons, decode_cons_of_ne hne', deUnicode, if_pos hlt, UInt8.ofNat_toNat,
      ih fun c hc => hs c (List.mem_cons_of_mem _ hc)]

/-- **An ASCII serial number is decoded** from its descriptor as it is. -/
theorem decoded_descriptor {s : List UInt8} (hs : ∀ c ∈ s, c ≠ 0 ∧ c.toNat < 0x80)
    (hlen : s.length ≤ 126) (mem : ℕ → UInt8) :
    decoded (Memory.write mem 0 (descriptor (s.map UInt8.toNat))) = s := by
  have hunits : ∀ unit ∈ s.map UInt8.toNat, unit < 256 ^ 2 := by
    intro unit hunit
    obtain ⟨c, -, rfl⟩ := List.mem_map.mp hunit
    exact Nat.lt_of_lt_of_le c.toNat_lt (by decide)
  rw [decoded_write_descriptor hunits (by rwa [List.length_map]), decode_ascii hs]

/-! ### The loop -/

/-- **The loop decodes the code units** that are left, and writes their characters. -/
theorem decodeLoop_eq (hsi : si = 2 * di + 2) :
    decodeLoop data si di serial = (di + (decode (codeUnitsFrom data si)).length,
      Memory.write serial di (decode (codeUnitsFrom data si))) := by
  fun_induction decodeLoop data si di serial with
  | case1 si di serial hguard hna ih =>
    have hge := (nonAscii_iff data si).mp hna
    rw [ih (by omega), codeUnitsFrom_of_lt hguard.1, decode_cons_of_ne (by omega), deUnicode,
      if_neg (Nat.not_lt.mpr hge), Memory.write_update, List.length_cons]
    exact congrArg (·, _) (by omega)
  | case2 si di serial hguard hna hzero =>
    have hlt := Nat.lt_of_not_le (mt (nonAscii_iff data si).mpr hna)
    have hunit : codeUnit data si = 0 := by rw [← codeUnit_of_ascii hlt, hzero]; rfl
    rw [codeUnitsFrom_of_lt hguard.1, hunit, decode_cons_zero, Memory.write_nil]
    rfl
  | case3 si di serial hguard hna hzero ih =>
    have hlt := Nat.lt_of_not_le (mt (nonAscii_iff data si).mpr hna)
    have hunit := codeUnit_of_ascii hlt
    have hne : codeUnit data si ≠ 0 := by
      rw [← hunit]
      exact fun heq => hzero (UInt8.toNat_inj.mp heq)
    have hchar : UInt8.ofNat (codeUnit data si) = data si := by
      rw [← hunit, UInt8.ofNat_toNat]
    rw [ih (by omega), codeUnitsFrom_of_lt hguard.1, decode_cons_of_ne hne, deUnicode,
      if_pos hlt, hchar, Memory.write_update, List.length_cons]
    exact congrArg (·, _) (by omega)
  | case4 si di serial hguard =>
    -- it is the length that ends the loop, and never the size of `_serial`
    have hle : (data 0).toNat ≤ si := by
      have hlt := (data 0).toNat_lt
      rw [sizeofSerial] at hguard
      omega
    rw [codeUnitsFrom_of_le hle]
    exact Prod.ext rfl (Memory.write_nil serial di).symm

theorem decodeSerial_eq (data serial : ℕ → UInt8) :
    decodeSerial data serial =
      let serial := Function.update (Memory.write serial 0 (decoded data)) (sizeofSerial - 1) 0
      if (decoded data).length = 24 then putHyphen 24 serial else serial := by
  have hloop : decodeLoop data 2 0 serial =
      (0 + (decoded data).length, Memory.write serial 0 (decoded data)) := decodeLoop_eq rfl
  rw [Nat.zero_add] at hloop
  rw [decodeSerial, hloop]
  dsimp only
  split
  · next hlen => rw [hlen]
  · rfl

/-! ### The hyphen -/

/-- The hyphen changes nothing behind the text, which is one character longer then. -/
theorem putHyphen_of_le {i : ℕ} (h : 26 ≤ i) (serial : ℕ → UInt8) :
    putHyphen 24 serial i = serial i := by
  rw [putHyphen, Function.update_of_ne (by omega), Function.update_of_ne (by omega), Memory.move,
    Memory.write, if_neg]
  rw [Memory.length_read]
  omega

/-- **The hyphen is put between** the first eight characters and the sixteen others. -/
theorem read_putHyphen {before after : List UInt8}
    (h : Memory.read serial 0 24 = before ++ after) (hlen : before.length = 8) :
    Memory.read (putHyphen 24 serial) 0 26 = before ++ hyphen :: after ++ [0] := by
  have hsplit : Memory.read serial 0 8 ++ Memory.read serial 8 16 = before ++ after := by
    rw [← h]
    exact (Memory.read_add serial 0 8 16).symm
  obtain ⟨hbefore, hafter⟩ := List.append_inj hsplit (by rw [Memory.length_read, hlen])
  have hlen' : after.length = 16 := by rw [← hafter, Memory.length_read]
  have hfirst : Memory.read (putHyphen 24 serial) 0 8 = before := by
    rw [putHyphen, Memory.read_update (by omega), Memory.read_update (by omega), Memory.move,
      Memory.read_write_of_disjoint (by omega), hbefore]
  have hmiddle : Memory.read (putHyphen 24 serial) 8 1 = [hyphen] := by
    rw [putHyphen, Memory.read_update (by omega), Memory.read_update_self]
  have hlast : Memory.read (putHyphen 24 serial) 9 16 = after := by
    rw [putHyphen, Memory.read_update (by omega), Memory.read_update (by omega), Memory.move,
      hafter, ← hlen', Memory.read_write]
  have hzero : Memory.read (putHyphen 24 serial) 25 1 = [0] := by
    rw [putHyphen, Memory.read_update_self]
  calc Memory.read (putHyphen 24 serial) 0 26
      = Memory.read (putHyphen 24 serial) 0 (8 + 1 + 16 + 1) := rfl
    _ = before ++ [hyphen] ++ after ++ [0] := by
      rw [Memory.read_add, Memory.read_add, Memory.read_add, hfirst]
      exact congrArg₂ _ (congrArg₂ _ (congrArg _ hmiddle) hlast) hzero
    _ = before ++ hyphen :: after ++ [0] := by rw [List.append_assoc before, List.singleton_append]

/-! ### The text -/

theorem length_formatted (s : List UInt8) :
    (formatted s).length = if s.length = 24 then 25 else s.length := by
  rw [formatted]
  split
  · next hlen => simp [hlen]
  · rfl

/-- A serial number that is kept with a hyphen is another one. This is the case for 24
characters, and for no other number of them. -/
theorem formatted_ne_iff (s : List UInt8) : formatted s ≠ s ↔ s.length = 24 := by
  constructor
  · intro hne
    by_contra hlen
    exact hne (if_neg hlen)
  · intro hlen heq
    have hlength := length_formatted s
    rw [heq, if_pos hlen, hlen] at hlength
    cases hlength

/-- **The hyphen can be taken out again**, and with it nothing that the device has sent is
lost. -/
theorem eraseIdx_formatted {s : List UInt8} (h : s.length = 24) :
    (formatted s).eraseIdx 8 = s := by
  have hlen : (s.take 8).length = 8 := by rw [List.length_take, h]; rfl
  rw [formatted, if_pos h, List.eraseIdx_append_of_length_le hlen.le, hlen, Nat.sub_self,
    List.eraseIdx_cons_zero, List.take_append_drop]

theorem zero_notMem_formatted {s : List UInt8} (h : 0 ∉ s) : 0 ∉ formatted s := by
  rw [formatted]
  split
  · intro hmem
    rcases List.mem_append.mp hmem with htake | hdrop
    · exact h (List.mem_of_mem_take htake)
    · rcases List.mem_cons.mp hdrop with hhyphen | hdrop
      · cases hhyphen
      · exact h (List.mem_of_mem_drop hdrop)
  · exact h

/-- **The text is in `_serial`**, with a zero behind it. -/
theorem read_decodeSerial (data : ℕ → UInt8) (h : ∀ i < sizeofSerial, serial i = 0) :
    Memory.read (decodeSerial data serial) 0 ((formatted (decoded data)).length + 1) =
      formatted (decoded data) ++ [0] := by
  have hlen := length_decoded_le data
  obtain ⟨s, hs⟩ : ∃ s, s =
    Function.update (Memory.write serial 0 (decoded data)) (sizeofSerial - 1) 0 := ⟨_, rfl⟩
  have htext : Memory.read s 0 (decoded data).length = decoded data := by
    rw [hs, Memory.read_update (by rw [sizeofSerial]; omega), Memory.read_write]
  rw [length_formatted, decodeSerial_eq, ← hs, formatted]
  dsimp only
  split
  · next hlength =>
    have hsplit : Memory.read s 0 24 = (decoded data).take 8 ++ (decoded data).drop 8 := by
      rw [List.take_append_drop, ← hlength, htext]
    exact read_putHyphen hsplit (by rw [List.length_take, hlength]; rfl)
  · have hzero : Memory.read s (0 + (decoded data).length) 1 = [0] := by
      rw [hs, Memory.read_update (by rw [sizeofSerial]; omega),
        Memory.read_write_of_disjoint (by omega), Nat.zero_add]
      exact congrArg (fun b => [b]) (h (decoded data).length (by rw [sizeofSerial]; omega))
    rw [Memory.read_add, htext, hzero]

/-- Nothing is written behind `_serial`, however long the device says that its descriptor is:
the length is one byte. -/
theorem decodeSerial_of_le {i : ℕ} (h : sizeofSerial ≤ i) (data serial : ℕ → UInt8) :
    decodeSerial data serial i = serial i := by
  have hlen := length_decoded_le data
  rw [sizeofSerial] at h
  have hsame : Function.update (Memory.write serial 0 (decoded data)) (sizeofSerial - 1) 0 i =
      serial i := by
    rw [sizeofSerial, Function.update_of_ne (by omega), Memory.write, if_neg (by omega)]
  rw [decodeSerial_eq]
  dsimp only
  split
  · rw [putHyphen_of_le (by omega), hsame]
  · exact hsame

end UsbSerial

open UsbSerial

/-- **The serial number of a USB device is decoded** from whatever is in the buffer. -/
theorem usb_serial_decoded {data serial : ℕ → UInt8} (h : ∀ i < sizeofSerial, serial i = 0) :
    Decoded data serial (decodeSerial data serial) := by
  have hlen := length_decoded_le data
  have hread := read_decodeSerial data h
  have hsize : (formatted (decoded data)).length < sizeofSerial := by
    rw [length_formatted, sizeofSerial]
    split <;> omega
  have htext := CString.text_eq_of_read hread (zero_notMem_formatted (zero_notMem_decode _)) hsize
  have hzero := (List.append_inj ((Memory.read_add ..).symm.trans hread) (by simp)).2
  refine ⟨⟨_, hsize, ?_⟩, fun i hi => decodeSerial_of_le hi data serial, htext, ?_, ?_⟩
  · rw [Nat.zero_add] at hzero
    exact List.head_eq_of_cons_eq hzero
  · rw [htext]
    exact formatted_ne_iff _
  · intro hlength
    rw [htext]
    exact eraseIdx_formatted hlength

/-- The 24 characters of a new style UDID, without the hyphen, as the device sends them. -/
def udid : List UInt8 :=
  [0x30, 0x30, 0x30, 0x30, 0x38, 0x31, 0x31, 0x30, 0x30, 0x30, 0x31, 0x41, 0x34, 0x35, 0x31, 0x43,
    0x33, 0x45, 0x44, 0x32, 0x38, 0x30, 0x31, 0x45]

theorem usb_serial_decoded_udid :
    Decoded (Memory.write (fun _ => 0) 0 (descriptor (udid.map UInt8.toNat))) (fun _ => 0)
      (decodeSerial (Memory.write (fun _ => 0) 0 (descriptor (udid.map UInt8.toNat)))
        fun _ => 0) ∧
    (decoded (Memory.write (fun _ => 0) 0 (descriptor (udid.map UInt8.toNat)))).length = 24 :=
  ⟨usb_serial_decoded fun _ _ => rfl, by rw [decoded_descriptor (by simp [udid]) (by decide)]; rfl⟩

end Usbmuxd
