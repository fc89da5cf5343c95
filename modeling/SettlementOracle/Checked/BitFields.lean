import Mathlib.Tactic.Common

/-! Bit fields of a machine word, joined from the highest to the lowest. Fields
that do not overlap are joined with a bitwise or, which then is a sum. -/
namespace Checked

variable {x b mask place : UInt64} {value i n : Nat}

/-- The word has this value, and its low `i` bits are free. -/
structure Packed (x : UInt64) (value i : Nat) : Prop where
  toNat_eq : x.toNat = value
  low_eq_zero : value % Nat.pow 2 i = 0

theorem toNat_shiftLeft_eq_mul (hPlace : place.toNat < 64)
    (hb : b.toNat * Nat.pow 2 place.toNat < UInt64.size) :
    (b <<< place).toNat = b.toNat * Nat.pow 2 place.toNat := by
  rw [UInt64.toNat_shiftLeft, Nat.mod_eq_of_lt hPlace, Nat.shiftLeft_eq]
  exact Nat.mod_eq_of_lt hb

/-- A field at the top of the word. -/
theorem Packed.first (hPlace : place.toNat < 64)
    (hb : b.toNat * Nat.pow 2 place.toNat < UInt64.size) :
    Packed (b <<< place) (b.toNat * Nat.pow 2 place.toNat) place.toNat where
  toNat_eq := toNat_shiftLeft_eq_mul hPlace hb
  low_eq_zero := Nat.mul_mod_left _ _

/-- The lowest field, which needs no shift. -/
theorem Packed.last (h : Packed x value i) (hb : b.toNat < Nat.pow 2 i) :
    (x ||| b).toNat = value + b.toNat := by
  obtain ⟨high, hHigh⟩ := Nat.dvd_of_mod_eq_zero h.low_eq_zero
  rw [UInt64.toNat_or, h.toNat_eq, hHigh]
  exact (Nat.two_pow_add_eq_or_of_lt hb high).symm

/-- A field in the bits that are still free. -/
theorem Packed.field (h : Packed x value i) (hi : i ≤ 64) (hPlace : place.toNat < i)
    (hb : b.toNat * Nat.pow 2 place.toNat < Nat.pow 2 i) :
    Packed (x ||| b <<< place) (value + b.toNat * Nat.pow 2 place.toNat) place.toNat := by
  have hFits : Nat.pow 2 i ≤ UInt64.size := Nat.pow_le_pow_right (by decide) hi
  have hField := toNat_shiftLeft_eq_mul (Nat.lt_of_lt_of_le hPlace hi) (Nat.lt_of_lt_of_le hb hFits)
  constructor
  · rw [h.last (by rw [hField]; exact hb), hField]
  · have hHigh : Nat.pow 2 place.toNat ∣ value :=
      Nat.dvd_trans (Nat.pow_dvd_pow 2 (Nat.le_of_lt hPlace)) (Nat.dvd_of_mod_eq_zero h.low_eq_zero)
    exact Nat.mod_eq_zero_of_dvd (Nat.dvd_add hHigh (Nat.dvd_mul_left _ _))

/-- A mask of ones keeps the low bits. -/
theorem toNat_and_ones (n : Nat) (hMask : mask.toNat = Nat.pow 2 n - 1) :
    (x &&& mask).toNat = x.toNat % Nat.pow 2 n := by
  rw [UInt64.toNat_and, hMask]
  exact Nat.and_two_pow_sub_one_eq_mod x.toNat n

/-- The bits from `high` down to `low`. -/
def bits (x : UInt64) (high low : Nat) : Nat :=
  x.toNat / Nat.pow 2 low % Nat.pow 2 (high + 1 - low)

end Checked
