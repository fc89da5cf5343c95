import SettlementOracle.Checked.BitFields

/-! The packed item detail. Skins use the standard layout; a definition index
that does not fit, or a tint, switches to the extended one, which is marked by a
paint seed that no item has. -/
namespace SettlementOracle

open Checked

/-- The floating-point operations that the attestation uses. `scaled` is
`(value as f64 * FLOAT_PRECISION).round() as u64`. -/
structure FloatFormat where
  Value : Type
  zero : Value
  parse : String → Option Value
  scaled : Value → UInt64
  scaled_zero : scaled zero = 0

def maxDefindexStandard : UInt32 := 0x1FFF

def maxPaintseed : UInt32 := 1000

def maxPatternTier : UInt32 := 0x7

def maxTintId : UInt32 := 0x1F

def extendedModePaintseed : UInt64 := 0x3FF

/-- `u32::min`. -/
def atMost (bound value : UInt32) : UInt32 := if value ≤ bound then value else bound

/-- Steam's quality as two bits. -/
def encodeQuality (steamQuality : UInt32) : UInt32 :=
  if steamQuality = 9 then 1
  else if steamQuality = 12 then 2
  else 0

/-- The extended layout. -/
def usesExtended (defindex tintId : UInt32) : Bool :=
  decide (maxDefindexStandard < defindex) || decide (0 < tintId)

def encodeItemDetailWithFlags (F : FloatFormat) (paintindex : UInt32) (floatvalue : F.Value)
    (defindex paintseed quality tintId patternTier : UInt32) (isSlab : Bool) : UInt64 :=
  let qualityEncoded := encodeQuality quality &&& 0x3
  if usesExtended defindex tintId then
    let defindexUpper := ((defindex >>> 13) &&& 0x7FFF).toUInt64
    let defindexLower := (defindex &&& 0x1FFF).toUInt64
    let tint := (atMost maxTintId tintId &&& 0x1F).toUInt64
    let slab : UInt64 := if isSlab then 1 else 0
    (tint <<< 43) ||| (defindexUpper <<< 28) ||| (defindexLower <<< 15) |||
      (extendedModePaintseed <<< 5) ||| (slab <<< 4) ||| qualityEncoded.toUInt64
  else
    let floatScaled := F.scaled floatvalue
    let paint := paintindex.toUInt64 &&& 0xFFFF
    let floatBits := floatScaled &&& 0xFFFFF
    let def' := defindex.toUInt64 &&& 0x1FFF
    let seed := (atMost maxPaintseed paintseed).toUInt64 &&& 0x3FF
    let patternBits := (atMost maxPatternTier patternTier).toUInt64 &&& 0x7
    let qualityBits := qualityEncoded.toUInt64
    (paint <<< 48) ||| (floatBits <<< 28) ||| (def' <<< 15) ||| (seed <<< 5) |||
      (patternBits <<< 2) ||| qualityBits

section Layout

variable {F : FloatFormat} {paintindex defindex paintseed quality tintId patternTier : UInt32}
  {floatvalue : F.Value} {isSlab : Bool}

theorem usesExtended_iff :
    usesExtended defindex tintId = true ↔ 8191 < defindex.toNat ∨ 0 < tintId.toNat := by
  simp [usesExtended, maxDefindexStandard, UInt32.lt_iff_toNat_lt]

theorem encodeQuality_lt (quality : UInt32) : (encodeQuality quality).toNat < 3 := by
  unfold encodeQuality
  split
  · decide
  · split <;> decide

theorem toNat_atMost (bound value : UInt32) :
    (atMost bound value).toNat = min value.toNat bound.toNat := by
  unfold atMost
  split
  · exact (Nat.min_eq_left (UInt32.le_iff_toNat_le.mp ‹_›)).symm
  · have hLess : bound.toNat < value.toNat := by
      simpa [UInt32.le_iff_toNat_le] using ‹¬value ≤ bound›
    exact (Nat.min_eq_right (Nat.le_of_lt hLess)).symm

/-- The value of a word in the extended layout. -/
theorem toNat_extended {tint upper lower seed slab code : UInt64} (hTint : tint.toNat < 32)
    (hUpper : upper.toNat < 32768) (hLower : lower.toNat < 8192) (hSeed : seed.toNat < 1024)
    (hSlab : slab.toNat < 2) (hCode : code.toNat < 16) :
    ((tint <<< 43) ||| (upper <<< 28) ||| (lower <<< 15) ||| (seed <<< 5) ||| (slab <<< 4) |||
        code).toNat =
      tint.toNat * 8796093022208 + upper.toNat * 268435456 + lower.toNat * 32768 +
        seed.toNat * 32 + slab.toNat * 16 + code.toNat := by
  have h₁ : Packed (tint <<< 43) (tint.toNat * 8796093022208) 43 :=
    .first (by decide) (by show _ * 8796093022208 < 18446744073709551616; omega)
  have h₂ : Packed (_ ||| upper <<< 28) (_ + upper.toNat * 268435456) 28 :=
    h₁.field (by decide) (by decide) (by show _ * 268435456 < 8796093022208; omega)
  have h₃ : Packed (_ ||| lower <<< 15) (_ + lower.toNat * 32768) 15 :=
    h₂.field (by decide) (by decide) (by show _ * 32768 < 268435456; omega)
  have h₄ : Packed (_ ||| seed <<< 5) (_ + seed.toNat * 32) 5 :=
    h₃.field (by decide) (by decide) (by show _ * 32 < 32768; omega)
  have h₅ : Packed (_ ||| slab <<< 4) (_ + slab.toNat * 16) 4 :=
    h₄.field (by decide) (by decide) (by show _ * 16 < 32; omega)
  exact h₅.last hCode

/-- The value of a word in the standard layout. -/
theorem toNat_standard {paint float index seed tier code : UInt64} (hPaint : paint.toNat < 65536)
    (hFloat : float.toNat < 1048576) (hIndex : index.toNat < 8192) (hSeed : seed.toNat < 1024)
    (hTier : tier.toNat < 8) (hCode : code.toNat < 4) :
    ((paint <<< 48) ||| (float <<< 28) ||| (index <<< 15) ||| (seed <<< 5) ||| (tier <<< 2) |||
        code).toNat =
      paint.toNat * 281474976710656 + float.toNat * 268435456 + index.toNat * 32768 +
        seed.toNat * 32 + tier.toNat * 4 + code.toNat := by
  have h₁ : Packed (paint <<< 48) (paint.toNat * 281474976710656) 48 :=
    .first (by decide) (by show _ * 281474976710656 < 18446744073709551616; omega)
  have h₂ : Packed (_ ||| float <<< 28) (_ + float.toNat * 268435456) 28 :=
    h₁.field (by decide) (by decide) (by show _ * 268435456 < 281474976710656; omega)
  have h₃ : Packed (_ ||| index <<< 15) (_ + index.toNat * 32768) 15 :=
    h₂.field (by decide) (by decide) (by show _ * 32768 < 268435456; omega)
  have h₄ : Packed (_ ||| seed <<< 5) (_ + seed.toNat * 32) 5 :=
    h₃.field (by decide) (by decide) (by show _ * 32 < 32768; omega)
  have h₅ : Packed (_ ||| tier <<< 2) (_ + tier.toNat * 4) 2 :=
    h₄.field (by decide) (by decide) (by show _ * 4 < 32; omega)
  exact h₅.last hCode

theorem toNat_and_low {value mask : UInt32} (n : Nat) (hMask : mask.toNat = Nat.pow 2 n - 1) :
    (value &&& mask).toUInt64.toNat = value.toNat % Nat.pow 2 n := by
  rw [UInt32.toNat_toUInt64, UInt32.toNat_and, hMask]
  exact Nat.and_two_pow_sub_one_eq_mod value.toNat n

theorem toNat_qualityCode (quality : UInt32) :
    (encodeQuality quality &&& 0x3).toUInt64.toNat = (encodeQuality quality).toNat := by
  rw [toNat_and_low 2 rfl]
  exact Nat.mod_eq_of_lt (Nat.lt_of_lt_of_le (encodeQuality_lt quality) (by decide))

/-- What the extended layout keeps of an item. -/
theorem encode_of_extended (h : usesExtended defindex tintId = true) :
    (encodeItemDetailWithFlags F paintindex floatvalue defindex paintseed quality tintId patternTier
        isSlab).toNat =
      min tintId.toNat 31 * 8796093022208 + defindex.toNat / 8192 % 32768 * 268435456 +
        defindex.toNat % 8192 * 32768 + 1023 * 32 + isSlab.toNat * 16 +
        (encodeQuality quality).toNat := by
  have hTint : (atMost maxTintId tintId &&& 0x1F).toUInt64.toNat = min tintId.toNat 31 := by
    rw [toNat_and_low 5 rfl, toNat_atMost]
    exact Nat.mod_eq_of_lt (by show min tintId.toNat 31 < 32; omega)
  have hUpper : ((defindex >>> 13) &&& 0x7FFF).toUInt64.toNat = defindex.toNat / 8192 % 32768 := by
    rw [toNat_and_low 15 rfl, UInt32.toNat_shiftRight, Nat.shiftRight_eq_div_pow]
    rfl
  have hLower : (defindex &&& 0x1FFF).toUInt64.toNat = defindex.toNat % 8192 :=
    toNat_and_low 13 rfl
  have hSlab : (if isSlab then (1 : UInt64) else 0).toNat = isSlab.toNat := by
    cases isSlab <;> rfl
  have hCode := encodeQuality_lt quality
  simp only [encodeItemDetailWithFlags, h, if_true]
  rw [toNat_extended, hTint, hUpper, hLower, hSlab, toNat_qualityCode]
  · rfl
  · rw [hTint]
    omega
  · rw [hUpper]
    omega
  · rw [hLower]
    omega
  · decide
  · rw [hSlab]
    cases isSlab <;> decide
  · rw [toNat_qualityCode]
    omega

/-- What the standard layout keeps of an item. -/
theorem encode_of_standard (h : usesExtended defindex tintId = false) :
    (encodeItemDetailWithFlags F paintindex floatvalue defindex paintseed quality tintId patternTier
        isSlab).toNat =
      paintindex.toNat % 65536 * 281474976710656 +
        (F.scaled floatvalue).toNat % 1048576 * 268435456 + defindex.toNat * 32768 +
        min paintseed.toNat 1000 * 32 + min patternTier.toNat 7 * 4 +
        (encodeQuality quality).toNat := by
  have hPaint : (paintindex.toUInt64 &&& 0xFFFF).toNat = paintindex.toNat % 65536 :=
    toNat_and_ones 16 rfl
  have hFloat : (F.scaled floatvalue &&& 0xFFFFF).toNat = (F.scaled floatvalue).toNat % 1048576 :=
    toNat_and_ones 20 rfl
  have hSmall : defindex.toNat < 8192 := by
    have hNot := mt usesExtended_iff.mpr (by simpa using h)
    omega
  have hIndex : (defindex.toUInt64 &&& 0x1FFF).toNat = defindex.toNat :=
    (toNat_and_ones 13 rfl).trans (Nat.mod_eq_of_lt hSmall)
  have hSeed : ((atMost maxPaintseed paintseed).toUInt64 &&& 0x3FF).toNat =
      min paintseed.toNat 1000 := by
    rw [toNat_and_ones 10 rfl, UInt32.toNat_toUInt64, toNat_atMost]
    exact Nat.mod_eq_of_lt (by show min paintseed.toNat 1000 < 1024; omega)
  have hTier : ((atMost maxPatternTier patternTier).toUInt64 &&& 0x7).toNat =
      min patternTier.toNat 7 := by
    rw [toNat_and_ones 3 rfl, UInt32.toNat_toUInt64, toNat_atMost]
    exact Nat.mod_eq_of_lt (by show min patternTier.toNat 7 < 8; omega)
  have hCode := encodeQuality_lt quality
  simp only [encodeItemDetailWithFlags, h, if_false, Bool.false_eq_true]
  rw [toNat_standard, hPaint, hFloat, hIndex, hSeed, hTier, toNat_qualityCode]
  · rw [hPaint]
    omega
  · rw [hFloat]
    omega
  · rw [hIndex]
    exact hSmall
  · rw [hSeed]
    omega
  · rw [hTier]
    omega
  · rw [toNat_qualityCode]
    omega

end Layout

end SettlementOracle
