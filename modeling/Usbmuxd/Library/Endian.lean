import Mathlib.Data.Nat.Digits.Defs

/-!
# Integers in byte strings

A fixed-width unsigned integer stands in a message as the list of its base 256
digits. Read from the least significant digit on, that is Mathlib's
`Nat.ofDigits`; in network byte order the list is reversed. Writing truncates to
the width of the field, as storing into an integer of that size does
(`Endian.le_toLe`, `Endian.be_toBe`).

Both orders have one definition, as the bytes of the one are those of the other in reverse.
Numbers are not bounded; a field of some width has the remainder of what is written into it, and
it is left to the caller to say that nothing is lost.
-/

namespace Endian

/-- The number whose bytes are given, the least significant one first. This is the order of the
machine on which the code runs. -/
def le (bytes : List UInt8) : ℕ := Nat.ofDigits 256 (bytes.map UInt8.toNat)

/-- The number whose bytes are given, the most significant one first. This is the order on the
network. -/
def be (bytes : List UInt8) : ℕ := le bytes.reverse

/-- The `width` low bytes of a number, the least significant one first. What does not fit is cut
off. -/
def toLe : ℕ → ℕ → List UInt8
  | 0, _ => []
  | width + 1, n => UInt8.ofNat n :: toLe width (n / 256)

/-- The `width` low bytes of a number, the most significant one first. -/
def toBe (width n : ℕ) : List UInt8 := (toLe width n).reverse

@[simp] theorem length_toLe (width n : ℕ) : (toLe width n).length = width := by
  induction width generalizing n with
  | zero => rfl
  | succ width ih => simp [toLe, ih]

@[simp] theorem length_toBe (width n : ℕ) : (toBe width n).length = width := by
  simp [toBe]

/-- **Writing a number and reading it back truncates it to the width.** -/
theorem le_toLe (width n : ℕ) : le (toLe width n) = n % 256 ^ width := by
  induction width generalizing n with
  | zero => simp [toLe, le, Nat.mod_one]
  | succ width ih =>
    have htail : Nat.ofDigits 256 ((toLe width (n / 256)).map UInt8.toNat) =
        n / 256 % 256 ^ width := ih (n / 256)
    rw [toLe, le, List.map_cons, Nat.ofDigits_cons, htail, UInt8.toNat_ofNat']
    exact (Nat.mod_mul (a := 256)).symm.trans (by rw [pow_succ'])

theorem be_toBe (width n : ℕ) : be (toBe width n) = n % 256 ^ width := by
  rw [be, toBe, List.reverse_reverse, le_toLe]

/-- A field of a given width holds every number below the power of that width. -/
theorem be_toBe_of_lt {width n : ℕ} (h : n < 256 ^ width) : be (toBe width n) = n := by
  rw [be_toBe, Nat.mod_eq_of_lt h]

/-- Reading a number and writing it back gives the bytes, if the width is the same. -/
theorem toLe_le (bytes : List UInt8) : toLe bytes.length (le bytes) = bytes := by
  induction bytes with
  | nil => rfl
  | cons b bytes ih =>
    have hcons : le (b :: bytes) = b.toNat + 256 * le bytes := Nat.ofDigits_cons ..
    have hb := b.toNat_lt
    have hdiv : le (b :: bytes) / 256 = le bytes := by omega
    have hlow : UInt8.ofNat (le (b :: bytes)) = b := by
      rw [← UInt8.toNat_inj, UInt8.toNat_ofNat']
      omega
    rw [List.length_cons, toLe, hdiv, hlow, ih]

theorem toBe_be (bytes : List UInt8) : toBe bytes.length (be bytes) = bytes := by
  have hrev := toLe_le bytes.reverse
  rw [List.length_reverse] at hrev
  rw [toBe, be, hrev, List.reverse_reverse]

/-- Fields of the same width with the same number are the same, byte by byte. -/
theorem be_inj {bytes bytes' : List UInt8} (hlen : bytes.length = bytes'.length)
    (h : be bytes = be bytes') : bytes = bytes' := by
  rw [← toBe_be bytes, ← toBe_be bytes', hlen, h]

end Endian
