import Mathlib.Tactic.Common

/-! Byte strings and the well-formed UTF-8 among them. Validation reads one
byte at a time and follows the table of well-formed sequences, so surrogates,
overlong forms and values above the last code point are all rejected. -/
namespace Checked

def byte (c : Char) : UInt8 := c.toNat.toUInt8

/-- The bytes of an ASCII literal. -/
def ascii (literal : String) : List UInt8 := literal.toByteArray.data.toList

inductive Utf8State where
  | boundary
  | pending (later : Nat) (low high : UInt8)
  deriving DecidableEq, Repr

def utf8First (b : UInt8) : Option Utf8State :=
  if b ≤ 0x7f then some .boundary
  else if 0xc2 ≤ b ∧ b ≤ 0xdf then some (.pending 0 0x80 0xbf)
  else if b = 0xe0 then some (.pending 1 0xa0 0xbf)
  else if b = 0xed then some (.pending 1 0x80 0x9f)
  else if 0xe1 ≤ b ∧ b ≤ 0xef then some (.pending 1 0x80 0xbf)
  else if b = 0xf0 then some (.pending 2 0x90 0xbf)
  else if 0xf1 ≤ b ∧ b ≤ 0xf3 then some (.pending 2 0x80 0xbf)
  else if b = 0xf4 then some (.pending 2 0x80 0x8f)
  else none

def utf8Step : Utf8State → UInt8 → Option Utf8State
  | .boundary, b => utf8First b
  | .pending later low high, b =>
      if low ≤ b ∧ b ≤ high then
        match later with
        | 0 => some .boundary
        | later + 1 => some (.pending later 0x80 0xbf)
      else none

def utf8Run : Utf8State → List UInt8 → Option Utf8State
  | state, [] => some state
  | state, b :: rest => (utf8Step state b).bind fun next => utf8Run next rest

def validUtf8 (bytes : List UInt8) : Bool := utf8Run .boundary bytes == some .boundary

/-- A string: bytes that are known to be well-formed UTF-8. -/
structure Text where
  bytes : List UInt8
  valid : validUtf8 bytes = true
  deriving DecidableEq

def Text.fromUtf8 (bytes : List UInt8) : Option Text :=
  if h : validUtf8 bytes = true then some ⟨bytes, h⟩ else none

@[ext] theorem Text.ext {first second : Text} (h : first.bytes = second.bytes) : first = second := by
  cases first
  cases second
  simpa using h

@[simp] theorem Text.fromUtf8_eq_some {bytes : List UInt8} {text : Text} :
    Text.fromUtf8 bytes = some text ↔ text.bytes = bytes := by
  unfold Text.fromUtf8
  split
  · simp only [Option.some.injEq]
    exact ⟨fun h => h ▸ rfl, fun h => Text.ext h.symm⟩
  · rename_i hInvalid
    constructor
    · intro h
      cases h
    · intro h
      exact absurd (h ▸ text.valid) hInvalid

end Checked
