import Mathlib.Data.Nat.ModEq

/-!
# Serial numbers

A counter that never stops is sent in a field of `w` bits, so what arrives is the
count modulo `2 ^ w`. Here are the two facts every use of such a field rests on.

* **Equality** (`SerialNumber.eq_iff_of_lt`): two counts that are known to lie
  within one turn of the field are equal exactly when their fields are.
* **Order** (`SerialNumber.Ahead`): a field is *ahead* of another when it is
  reached from it by going up less than half a turn. Within half a turn this is
  the order of the counts (`SerialNumber.ahead_of_lt`).

Both are stated for counts on top of a common start `s`, an arbitrary field.

The bounds are needed, and they are sharp. A field of `w` bits cannot tell two counts apart that
are a whole turn away from each other, and half a turn away neither is ahead of the other. A
program that compares such fields relies on its counts being close, and where this comes from is
always something outside the comparison: a window, a number of buffers, or a limit on what is
under way. So the bound is a hypothesis here, to be shown where the facts are used.
-/

namespace SerialNumber

variable {w : ℕ}

/-- Two counts within one turn of the field are equal when their fields are. -/
theorem eq_iff_of_lt (s : BitVec w) {a b : ℕ} (hle : a ≤ b) (hlt : b - a < 2 ^ w) :
    s + BitVec.ofNat w a = s + BitVec.ofNat w b ↔ a = b := by
  refine ⟨?_, fun h => by rw [h]⟩
  intro h
  have h' : BitVec.ofNat w a = BitVec.ofNat w b := (BitVec.add_right_inj s).mp h
  have hmod : a % 2 ^ w = b % 2 ^ w := by
    simpa only [BitVec.toNat_ofNat] using congrArg BitVec.toNat h'
  have hdvd : 2 ^ w ∣ b - a := (Nat.modEq_iff_dvd' hle).mp hmod
  have hzero : b - a = 0 := Nat.eq_zero_of_dvd_of_lt hdvd hlt
  omega

/-- How far up the field `b` is from the field `a`. -/
def distance (a b : BitVec w) : ℕ := (b - a).toNat

theorem distance_ofNat (s : BitVec w) {a b : ℕ} (hle : a ≤ b) (hlt : b - a < 2 ^ w) :
    distance (s + BitVec.ofNat w a) (s + BitVec.ofNat w b) = b - a := by
  have h : s + BitVec.ofNat w b - (s + BitVec.ofNat w a) = BitVec.ofNat w (b - a) := by
    obtain ⟨d, rfl⟩ := Nat.exists_eq_add_of_le hle
    have hd : a + d - a = d := by omega
    rw [hd, BitVec.ofNat_add, ← BitVec.add_assoc, BitVec.add_comm _ (BitVec.ofNat w d),
      BitVec.add_sub_cancel]
  rw [distance, h, BitVec.toNat_ofNat, Nat.mod_eq_of_lt hlt]

/-- **The serial order**: `b` is ahead of `a` when going up from `a` meets `b`
within half a turn. -/
def Ahead (a b : BitVec w) : Prop := 0 < distance a b ∧ distance a b < 2 ^ (w - 1)

instance (a b : BitVec w) : Decidable (Ahead a b) :=
  inferInstanceAs (Decidable (_ ∧ _))

/-- **Within half a turn the serial order is the order of the counts.** -/
theorem ahead_of_lt (s : BitVec w) {a b : ℕ} (hlt : a < b) (hhalf : b - a < 2 ^ (w - 1)) :
    Ahead (s + BitVec.ofNat w a) (s + BitVec.ofNat w b) := by
  have hw : 2 ^ (w - 1) ≤ 2 ^ w := Nat.pow_le_pow_right (by omega) (by omega)
  rw [Ahead, distance_ofNat s hlt.le (by omega)]
  exact ⟨by omega, hhalf⟩

end SerialNumber
