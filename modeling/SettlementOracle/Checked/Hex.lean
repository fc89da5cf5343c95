import SettlementOracle.Checked.Text
import Mathlib.Data.Fin.Basic

/-! Hexadecimal text. Decoding takes both cases and reports the first bad digit. -/
namespace Checked

inductive FromHexError where
  | oddLength
  | invalidHexCharacter (c : UInt8) (index : Nat)
  deriving DecidableEq, Repr

/-- The digit for a value below 16. -/
def hexNibble (value : Nat) : UInt8 :=
  if value < 10 then (48 + value).toUInt8 else (87 + value).toUInt8

/-- Lower-case hexadecimal, two digits for each byte. -/
def hexText (bytes : List UInt8) : List UInt8 :=
  bytes.flatMap fun b => [hexNibble (b.toNat / 16), hexNibble (b.toNat % 16)]

def hexValue (c : UInt8) : Option Nat :=
  if 65 ≤ c ∧ c ≤ 70 then some (c.toNat - 55)
  else if 97 ≤ c ∧ c ≤ 102 then some (c.toNat - 87)
  else if 48 ≤ c ∧ c ≤ 57 then some (c.toNat - 48)
  else none

def readNibble (c : UInt8) (index : Nat) : Except FromHexError Nat :=
  match hexValue c with
  | some value => .ok value
  | none => .error (.invalidHexCharacter c index)

/-- Two digits at a time, from position `index` on. -/
def hexPairs (index : Nat) : List UInt8 → Except FromHexError (List UInt8)
  | high :: low :: rest => do
      let h ← readNibble high index
      let l ← readNibble low (index + 1)
      let bytes ← hexPairs (index + 2) rest
      .ok ((16 * h + l).toUInt8 :: bytes)
  | _ => .ok []

def hexDecode (text : List UInt8) : Except FromHexError (List UInt8) :=
  if text.length % 2 = 0 then hexPairs 0 text else .error .oddLength

def asciiLower (c : UInt8) : UInt8 := if 65 ≤ c ∧ c ≤ 90 then c + 32 else c

section Nibbles

variable {c b : UInt8} {value index : Nat}

/-- The digits of both cases stand for the values below 16. -/
theorem hexValue_eq_some_iff :
    hexValue c = some value ↔ value < 16 ∧ asciiLower c = hexNibble value := by
  have hRead : ∀ n : Fin 256, ∀ v ∈ hexValue (UInt8.ofNat n),
      v < 16 ∧ asciiLower (UInt8.ofNat n) = hexNibble v := by
    decide +kernel
  have hWrite : ∀ (n : Fin 256) (v : Fin 16), asciiLower (UInt8.ofNat n) = hexNibble v →
      hexValue (UInt8.ofNat n) = some v.val := by
    decide +kernel
  have hByte : UInt8.ofNat (⟨c.toNat, c.toNat_lt⟩ : Fin 256).val = c := UInt8.ofNat_toNat
  constructor
  · intro h
    have hFound := hRead ⟨c.toNat, c.toNat_lt⟩ value (by rw [hByte]; exact h)
    rwa [hByte] at hFound
  · rintro ⟨hSmall, hDigit⟩
    have hFound := hWrite ⟨c.toNat, c.toNat_lt⟩ ⟨value, hSmall⟩ (by rw [hByte]; exact hDigit)
    rwa [hByte] at hFound

theorem readNibble_eq_ok_iff :
    readNibble c index = .ok value ↔ value < 16 ∧ asciiLower c = hexNibble value := by
  rw [← hexValue_eq_some_iff]
  unfold readNibble
  cases hexValue c <;> simp

/-- Two digits make the byte that they spell. -/
theorem nibbles_byte {high low : Nat} (hHigh : high < 16) (hLow : low < 16) :
    (16 * high + low).toUInt8 = b ↔ high = b.toNat / 16 ∧ low = b.toNat % 16 := by
  rw [← UInt8.toNat_inj]
  simp only [Nat.toUInt8_eq, UInt8.toNat_ofNat']
  omega

end Nibbles

section Texts

variable {text bytes : List UInt8} {index : Nat}

theorem hexPairs_cons_eq_ok_iff {high low : UInt8} {rest : List UInt8} :
    hexPairs index (high :: low :: rest) = .ok bytes ↔
      ∃ b tail, bytes = b :: tail ∧ asciiLower high = hexNibble (b.toNat / 16) ∧
        asciiLower low = hexNibble (b.toNat % 16) ∧ hexPairs (index + 2) rest = .ok tail := by
  have hBind : hexPairs index (high :: low :: rest) = .ok bytes ↔
      ∃ h l tail, readNibble high index = .ok h ∧ readNibble low (index + 1) = .ok l ∧
        hexPairs (index + 2) rest = .ok tail ∧ (16 * h + l).toUInt8 :: tail = bytes := by
    rw [hexPairs]
    cases readNibble high index <;> cases readNibble low (index + 1) <;>
      cases hexPairs (index + 2) rest <;> simp [bind, Except.bind]
  rw [hBind]
  constructor
  · rintro ⟨h, l, tail, hHigh, hLow, hTail, rfl⟩
    obtain ⟨hSmall, hDigit⟩ := readNibble_eq_ok_iff.mp hHigh
    obtain ⟨lSmall, lDigit⟩ := readNibble_eq_ok_iff.mp hLow
    obtain ⟨hFirst, hSecond⟩ := (nibbles_byte hSmall lSmall).mp rfl
    refine ⟨_, tail, rfl, ?_, ?_, hTail⟩
    · rw [← hFirst]
      exact hDigit
    · rw [← hSecond]
      exact lDigit
  · rintro ⟨b, tail, rfl, hDigit, lDigit, hTail⟩
    have hSmall : b.toNat / 16 < 16 := by
      have hByte := b.toNat_lt
      omega
    have lSmall : b.toNat % 16 < 16 := Nat.mod_lt _ (by omega)
    refine ⟨b.toNat / 16, b.toNat % 16, tail, readNibble_eq_ok_iff.mpr ⟨hSmall, hDigit⟩,
      readNibble_eq_ok_iff.mpr ⟨lSmall, lDigit⟩, hTail, ?_⟩
    rw [(nibbles_byte hSmall lSmall).mpr ⟨rfl, rfl⟩]

/-- The induction takes two digits of the text and one byte at a time. -/
theorem hexPairs_eq_ok_iff (hEven : text.length % 2 = 0) :
    hexPairs index text = .ok bytes ↔ text.map asciiLower = hexText bytes := by
  induction index, text using hexPairs.induct generalizing bytes with
  | case1 index high low rest ih =>
      have hRest : rest.length % 2 = 0 := by
        simp only [List.length_cons] at hEven
        omega
      rw [hexPairs_cons_eq_ok_iff]
      cases bytes with
      | nil => simp [hexText]
      | cons b tail =>
          have hTail : hexPairs (index + 2) rest = .ok tail ↔ rest.map asciiLower = hexText tail :=
            ih hRest
          simp only [List.cons.injEq, hexText, List.flatMap_cons, List.map_cons, List.cons_append,
            List.nil_append]
          constructor
          · rintro ⟨_, _, ⟨rfl, rfl⟩, hHigh, hLow, hMore⟩
            exact ⟨hHigh, hLow, hTail.mp hMore⟩
          · rintro ⟨hHigh, hLow, hMore⟩
            exact ⟨b, tail, ⟨rfl, rfl⟩, hHigh, hLow, hTail.mpr hMore⟩
  | case2 rest index hShort =>
      cases rest with
      | nil => cases bytes <;> simp [hexPairs, hexText]
      | cons c rest =>
          cases rest with
          | nil => simp at hEven
          | cons d rest => exact absurd rfl (hShort c d rest)

theorem length_hexText (bytes : List UInt8) : (hexText bytes).length = 2 * bytes.length := by
  induction bytes with
  | nil => rfl
  | cons b bytes ih =>
      simp only [hexText, List.flatMap_cons, List.length_append, List.length_cons,
        List.length_nil] at ih ⊢
      omega

/-- What is accepted is the hexadecimal text of the result, in either case. -/
theorem hexDecode_eq_ok_iff : hexDecode text = .ok bytes ↔ text.map asciiLower = hexText bytes := by
  unfold hexDecode
  split
  · exact hexPairs_eq_ok_iff ‹_›
  · rename_i hOdd
    simp only [reduceCtorEq, false_iff]
    intro hText
    have hLength := congrArg List.length hText
    rw [List.length_map, length_hexText] at hLength
    omega

theorem asciiLower_hexNibble {value : Nat} (h : value < 16) :
    asciiLower (hexNibble value) = hexNibble value := by
  have hTable : ∀ v : Fin 16, asciiLower (hexNibble v) = hexNibble v := by
    decide +kernel
  exact hTable ⟨value, h⟩

/-- Decoding gives back what was encoded. -/
theorem hexDecode_hexText (bytes : List UInt8) : hexDecode (hexText bytes) = .ok bytes := by
  rw [hexDecode_eq_ok_iff]
  induction bytes with
  | nil => rfl
  | cons b bytes ih =>
      have hHigh : b.toNat / 16 < 16 := by
        have hByte := b.toNat_lt
        omega
      simp only [hexText, List.flatMap_cons, List.map_append, List.map_cons, List.map_nil,
        asciiLower_hexNibble hHigh, asciiLower_hexNibble (Nat.mod_lt b.toNat (by omega : 0 < 16))]
      exact congrArg _ ih

end Texts

end Checked
