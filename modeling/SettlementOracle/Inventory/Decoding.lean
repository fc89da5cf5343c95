import SettlementOracle.Inventory.Quality

/-! Reading an item detail back. The two layouts overlap, and a reader tells them
apart by the paint seed. -/
namespace SettlementOracle

open Checked

/-- The fields of the standard layout. -/
structure StandardFields where
  paintindex : Nat
  floatScaled : Nat
  defindex : Nat
  paintseed : Nat
  patternTier : Nat
  quality : Nat
  deriving DecidableEq, Repr

/-- The fields of the extended layout. -/
structure ExtendedFields where
  defindex : Nat
  tintId : Nat
  slab : Nat
  quality : Nat
  deriving DecidableEq, Repr

def readStandard (itemDetail : UInt64) : StandardFields where
  paintindex := bits itemDetail 63 48
  floatScaled := bits itemDetail 47 28
  defindex := bits itemDetail 27 15
  paintseed := bits itemDetail 14 5
  patternTier := bits itemDetail 4 2
  quality := bits itemDetail 1 0

/-- The upper 15 bits of the definition index stand above its lower 13. -/
def readExtended (itemDetail : UInt64) : ExtendedFields where
  defindex := bits itemDetail 42 28 * 8192 + bits itemDetail 27 15
  tintId := bits itemDetail 47 43
  slab := bits itemDetail 4 4
  quality := bits itemDetail 1 0

def readPaintseed (itemDetail : UInt64) : Nat := bits itemDetail 14 5

/-- Steam's qualities and their two-bit codes. -/
def qualityCodes : List (UInt32 × Nat) := [(4, 0), (9, 1), (12, 2)]

section Reading

variable {F : FloatFormat} {paintindex defindex paintseed quality tintId patternTier : UInt32}
  {floatvalue : F.Value} {isSlab : Bool} {code : Nat}

theorem toNat_encodeQuality (h : (quality, code) ∈ qualityCodes) :
    (encodeQuality quality).toNat = code := by
  simp only [qualityCodes, List.mem_cons, Prod.mk.injEq, List.not_mem_nil, or_false] at h
  obtain ⟨rfl, rfl⟩ | ⟨rfl, rfl⟩ | ⟨rfl, rfl⟩ := h <;> rfl

theorem defindex_le_of_standard (hMode : usesExtended defindex tintId = false) :
    defindex.toNat ≤ 8191 := by
  have hNot := mt usesExtended_iff.mpr (Bool.eq_false_iff.mp hMode)
  omega

/-- Standard fields within their widths are read back. -/
theorem readStandard_encode (hMode : usesExtended defindex tintId = false)
    (hPaint : paintindex.toNat < 65536) (hFloat : (F.scaled floatvalue).toNat < 1048576)
    (hSeed : paintseed.toNat ≤ 1000) (hTier : patternTier.toNat ≤ 7)
    (hQuality : (quality, code) ∈ qualityCodes) :
    readStandard (encodeItemDetailWithFlags F paintindex floatvalue defindex paintseed quality tintId
        patternTier isSlab) =
      ⟨paintindex.toNat, (F.scaled floatvalue).toNat, defindex.toNat, paintseed.toNat,
        patternTier.toNat, code⟩ := by
  have hDefindex := defindex_le_of_standard hMode
  have hCode := encodeQuality_lt quality
  have hValue : (encodeItemDetailWithFlags F paintindex floatvalue defindex paintseed quality tintId
      patternTier isSlab).toNat =
      paintindex.toNat * 281474976710656 + (F.scaled floatvalue).toNat * 268435456 +
        defindex.toNat * 32768 + paintseed.toNat * 32 + patternTier.toNat * 4 +
        (encodeQuality quality).toNat := by
    rw [encode_of_standard hMode, Nat.mod_eq_of_lt hPaint, Nat.mod_eq_of_lt hFloat,
      Nat.min_eq_left hSeed, Nat.min_eq_left hTier]
  rw [toNat_encodeQuality hQuality] at hCode hValue
  simp only [readStandard, bits, hValue, StandardFields.mk.injEq]
  refine ⟨?_, ?_, ?_, ?_, ?_, ?_⟩
  · change _ / 281474976710656 % 65536 = _
    omega
  · change _ / 268435456 % 1048576 = _
    omega
  · change _ / 32768 % 8192 = _
    omega
  · change _ / 32 % 1024 = _
    omega
  · change _ / 4 % 8 = _
    omega
  · change _ / 1 % 4 = _
    omega

/-- Extended fields within their widths are read back. -/
theorem readExtended_encode (hMode : usesExtended defindex tintId = true)
    (hDefindex : defindex.toNat < 268435456) (hTint : tintId.toNat ≤ 31)
    (hQuality : (quality, code) ∈ qualityCodes) :
    readExtended (encodeItemDetailWithFlags F paintindex floatvalue defindex paintseed quality tintId
        patternTier isSlab) =
      ⟨defindex.toNat, tintId.toNat, isSlab.toNat, code⟩ := by
  have hCode := encodeQuality_lt quality
  have hSlab := Bool.toNat_le isSlab
  have hValue : (encodeItemDetailWithFlags F paintindex floatvalue defindex paintseed quality tintId
      patternTier isSlab).toNat =
      tintId.toNat * 8796093022208 + defindex.toNat / 8192 * 268435456 +
        defindex.toNat % 8192 * 32768 + 1023 * 32 + isSlab.toNat * 16 +
        (encodeQuality quality).toNat := by
    rw [encode_of_extended hMode, Nat.min_eq_left hTint, Nat.mod_eq_of_lt (by omega)]
  rw [toNat_encodeQuality hQuality] at hCode hValue
  simp only [readExtended, bits, hValue, ExtendedFields.mk.injEq]
  refine ⟨?_, ?_, ?_, ?_⟩
  · change _ / 268435456 % 32768 * 8192 + _ / 32768 % 8192 = _
    omega
  · change _ / 8796093022208 % 32 = _
    omega
  · change _ / 16 % 2 = _
    omega
  · change _ / 1 % 4 = _
    omega

/-- The paint seed says which layout was used, whatever the item is. -/
theorem readPaintseed_encode_iff :
    readPaintseed (encodeItemDetailWithFlags F paintindex floatvalue defindex paintseed quality
        tintId patternTier isSlab) = 1023 ↔
      usesExtended defindex tintId = true := by
  have hCode := encodeQuality_lt quality
  have hSlab := Bool.toNat_le isSlab
  change _ / 32 % 1024 = 1023 ↔ _
  cases hMode : usesExtended defindex tintId with
  | false =>
      have hDefindex := defindex_le_of_standard hMode
      rw [encode_of_standard hMode]
      refine iff_of_false ?_ (by decide)
      omega
  | true =>
      rw [encode_of_extended hMode]
      refine iff_of_true ?_ rfl
      omega

end Reading

/-- The arguments of the encoder. -/
structure ItemAttributes (F : FloatFormat) where
  paintindex : UInt32
  floatvalue : F.Value
  defindex : UInt32
  paintseed : UInt32
  quality : UInt32
  tintId : UInt32
  patternTier : UInt32
  isSlab : Bool

def ItemAttributes.encode {F : FloatFormat} (item : ItemAttributes F) : UInt64 :=
  encodeItemDetailWithFlags F item.paintindex item.floatvalue item.defindex item.paintseed
    item.quality item.tintId item.patternTier item.isSlab

def ItemAttributes.extended {F : FloatFormat} (item : ItemAttributes F) : Bool :=
  usesExtended item.defindex item.tintId

/-- An item detail decodes to the fields it was made of. Standard and extended
details are told apart by the paint seed, so none is both. -/
theorem itemDetail_readBack (F : FloatFormat) :
    (∀ (item : ItemAttributes F) (code : Nat), item.paintindex.toNat < Nat.pow 2 16 →
      (F.scaled item.floatvalue).toNat < Nat.pow 2 20 → item.defindex.toNat ≤ 8191 →
      item.paintseed.toNat ≤ 1000 → item.patternTier.toNat ≤ 7 → item.tintId = 0 →
      (item.quality, code) ∈ qualityCodes →
      readStandard item.encode =
        ⟨item.paintindex.toNat, (F.scaled item.floatvalue).toNat, item.defindex.toNat,
          item.paintseed.toNat, item.patternTier.toNat, code⟩) ∧
    (∀ (item : ItemAttributes F) (code : Nat), item.defindex.toNat < Nat.pow 2 28 →
      item.tintId.toNat ≤ 31 → 8191 < item.defindex.toNat ∨ 0 < item.tintId.toNat →
      (item.quality, code) ∈ qualityCodes →
      readExtended item.encode =
        ⟨item.defindex.toNat, item.tintId.toNat, item.isSlab.toNat, code⟩) ∧
    (∀ item : ItemAttributes F, readPaintseed item.encode = 1023 ↔ item.extended = true) ∧
    ∀ item other : ItemAttributes F, item.extended = false → other.extended = true →
      item.encode ≠ other.encode := by
  refine ⟨?_, ?_, ?_, ?_⟩
  · intro item code hPaint hFloat hDefindex hSeed hTier hTint hQuality
    have hMode : usesExtended item.defindex item.tintId = false := by
      refine Bool.eq_false_iff.mpr fun hExtended => ?_
      obtain hLarge | hTinted := usesExtended_iff.mp hExtended
      · omega
      · rw [hTint] at hTinted
        exact absurd hTinted (by decide)
    exact readStandard_encode hMode hPaint hFloat hSeed hTier hQuality
  · intro item code hDefindex hTint hMode hQuality
    exact readExtended_encode (usesExtended_iff.mpr hMode) hDefindex hTint hQuality
  · intro item
    exact readPaintseed_encode_iff
  · intro item other hStandard hExtended hSame
    have hSeed : readPaintseed other.encode = 1023 := readPaintseed_encode_iff.mpr hExtended
    rw [← hSame] at hSeed
    have hMode : item.extended = true := readPaintseed_encode_iff.mp hSeed
    rw [hStandard] at hMode
    cases hMode

/-- A rifle and a graffiti of the encoder's tests. -/
theorem itemDetail_readBack_redline :
    readStandard (ItemAttributes.encode (⟨44, (250000 : UInt64), 7, 500, 4, 0, 0, false⟩ :
        ItemAttributes sampleFloats)) = ⟨44, 250000, 7, 500, 0, 0⟩ ∧
      readExtended (ItemAttributes.encode (⟨0, (0 : UInt64), 1727, 0, 4, 5, 0, false⟩ :
        ItemAttributes sampleFloats)) = ⟨1727, 5, 0, 0⟩ := by
  obtain ⟨hStandard, hExtended, _⟩ := itemDetail_readBack sampleFloats
  constructor
  · exact hStandard ⟨44, (250000 : UInt64), 7, 500, 4, 0, 0, false⟩ 0 (by decide) (by decide)
      (by decide) (by decide) (by decide) rfl (by decide)
  · exact hExtended ⟨0, (0 : UInt64), 1727, 0, 4, 5, 0, false⟩ 0 (by decide) (by decide)
      (by decide) (by decide)

end SettlementOracle
