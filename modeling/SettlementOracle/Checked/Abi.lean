import Mathlib.Tactic.Common

/-! Big-endian bytes and the contract ABI's encoding of static values. Every
value takes one word of 32 bytes, so an encoding determines its values. -/
namespace Checked

/-- The lowest `width` bytes of a number, most significant first. -/
def bigEndian : Nat → Nat → List UInt8
  | 0, _ => []
  | width + 1, n => bigEndian width (n / 256) ++ [UInt8.ofNat (n % 256)]

/-- Zero bytes in front, up to the width. -/
def leftPad (width : Nat) (bytes : List UInt8) : List UInt8 :=
  List.replicate (width - bytes.length) 0 ++ bytes

section BigEndian

variable {width narrow n m : Nat}

@[simp] theorem length_bigEndian (width n : Nat) : (bigEndian width n).length = width := by
  induction width generalizing n with
  | zero => rfl
  | succ width ih => simp [bigEndian, ih]

theorem length_leftPad {bytes : List UInt8} (h : bytes.length ≤ width) :
    (leftPad width bytes).length = width := by
  simp only [leftPad, List.length_append, List.length_replicate]
  omega

theorem bigEndian_zero (width : Nat) : bigEndian width 0 = List.replicate width 0 := by
  induction width with
  | zero => rfl
  | succ width ih =>
      rw [bigEndian, Nat.zero_div, ih, List.replicate_succ']
      rfl

/-- Numbers that fit are told apart by their bytes. -/
theorem bigEndian_inj (hn : n < Nat.pow 256 width) (hm : m < Nat.pow 256 width)
    (h : bigEndian width n = bigEndian width m) : n = m := by
  induction width generalizing n m with
  | zero =>
      have hOne : Nat.pow 256 0 = 1 := rfl
      omega
  | succ width ih =>
      obtain ⟨hHigh, hLow⟩ := List.append_inj h (by simp)
      have hByte : n % 256 = m % 256 := by
        have hSame := congrArg UInt8.toNat (List.singleton_inj.mp hLow)
        simpa [UInt8.toNat_ofNat'] using hSame
      have hQuotient : n / 256 = m / 256 :=
        ih (Nat.div_lt_of_lt_mul (Nat.mul_comm .. ▸ hn)) (Nat.div_lt_of_lt_mul (Nat.mul_comm .. ▸ hm))
          hHigh
      omega

/-- A number that fits fewer bytes has zeros in front. -/
theorem leftPad_bigEndian (hWidth : narrow ≤ width) (hn : n < Nat.pow 256 narrow) :
    leftPad width (bigEndian narrow n) = bigEndian width n := by
  induction narrow generalizing width n with
  | zero =>
      have hZero : n = 0 := Nat.lt_one_iff.mp hn
      rw [hZero, bigEndian_zero width]
      simp [leftPad, bigEndian]
  | succ narrow ih =>
      obtain ⟨wide, rfl⟩ : ∃ wide, width = wide + 1 := ⟨width - 1, by omega⟩
      have hRest : leftPad wide (bigEndian narrow (n / 256)) = bigEndian wide (n / 256) :=
        ih (by omega) (Nat.div_lt_of_lt_mul (Nat.mul_comm .. ▸ hn))
      rw [bigEndian, bigEndian, ← hRest]
      simp [leftPad]

end BigEndian

/-- A word of the ABI. -/
abbrev Word := Vector UInt8 32

/-- A static value of the ABI, which fits its type. -/
inductive AbiValue where
  | bytes32 (word : Word)
  | uint (bits value : Nat) (fits : value < Nat.pow 2 bits)

def AbiValue.encode : AbiValue → List UInt8
  | .bytes32 word => word.toList
  | .uint _ value _ => bigEndian 32 value

/-- `abi.encode` of static values. -/
def abiEncode (values : List AbiValue) : List UInt8 := values.flatMap AbiValue.encode

end Checked
