import SettlementOracle.Inventory.Decoding
import SettlementOracle.Inventory.Uniqueness

/-! The key that the guard counts beside the detail that is signed. The guard takes
the tint of every entry and no tier, the signature the tint of graffiti and the
tier of the item's name. -/
namespace SettlementOracle

open Checked

section Keys

variable {F : FloatFormat} {catalog : CatalogArtifact} {item : InventoryItem F}
  {entry : CatalogItem} {resolved : ResolvedCatalogIdentity F}

/-- The signed detail is the key that the guard counts for the entry. -/
def GuardLaw (F : FloatFormat) (catalog : CatalogArtifact) (item : InventoryItem F) : Prop :=
  ∀ entry resolved, AttestsUnpainted F catalog item entry resolved →
    staticAttestationKeyForCatalogItem F entry = some (encodeResolvedItemDetail resolved)

/-- The tint of the entry is signed, or there is none. -/
def CatalogItem.signsTint (entry : CatalogItem) : Prop :=
  entry.itemType = "graffiti" ∨ entry.tintId.getD 0 = 0

/-- The extended layout drops the tier, or the name has none. -/
def CatalogItem.hidesTier (families : List SpecialFamilyConfig) (name : String)
    (entry : CatalogItem) : Prop :=
  entry.exempt = true ∨
    classifySpecialPatternTier families name (entry.defindex.getD 0) 0 0 = 0

/-- Two unpainted details of one definition index, slab flag and quality. -/
theorem unpaintedDetail_eq_iff {defindex quality tintId tintId' tier tier' : UInt32}
    {isSlab : Bool} :
    encodeItemDetailWithFlags F 0 F.zero defindex 0 quality tintId tier isSlab =
        encodeItemDetailWithFlags F 0 F.zero defindex 0 quality tintId' tier' isSlab ↔
      min tintId.toNat 31 = min tintId'.toNat 31 ∧
        (usesExtended defindex tintId = true ∨ min tier.toNat 7 = min tier'.toNat 7) := by
  by_cases hModes : usesExtended defindex tintId = usesExtended defindex tintId'
  · rw [← UInt64.toNat_inj]
    cases hMode : usesExtended defindex tintId with
    | true =>
        rw [encode_of_extended hMode, encode_of_extended (hModes.symm.trans hMode)]
        simp only [true_or, and_true]
        omega
    | false =>
        have hTint := mt usesExtended_iff.mpr (Bool.eq_false_iff.mp hMode)
        have hTint' := mt usesExtended_iff.mpr (Bool.eq_false_iff.mp (hModes.symm.trans hMode))
        rw [encode_of_standard hMode, encode_of_standard (hModes.symm.trans hMode)]
        simp only [Bool.false_eq_true, false_or]
        omega
  · -- the marker tells the layouts apart, and the tints differ as well
    refine iff_of_false (fun hSame => hModes ?_) fun hTints => ?_
    · have hMarker := congrArg (readPaintseed · = 1023) hSame
      simp only [readPaintseed_encode_iff] at hMarker
      exact Bool.eq_iff_iff.mpr (iff_of_eq hMarker)
    · refine hModes (Bool.eq_iff_iff.mpr ?_)
      rw [usesExtended_iff, usesExtended_iff]
      omega

theorem AttestsUnpainted.staticKey_eq (h : AttestsUnpainted F catalog item entry resolved) :
    staticAttestationKeyForCatalogItem F entry =
      some (encodeItemDetailWithFlags F 0 F.zero resolved.defindex 0 resolved.quality
        (entry.tintId.getD 0) 0 resolved.isSlab) := by
  simp only [staticAttestationKeyForCatalogItem, h.resolvesTo.defindex, h.unpainted,
    Option.bind_some, h.quality, h.resolvesTo.isSlab]
  exact if_neg (by decide)

theorem AttestsUnpainted.detail_eq (h : AttestsUnpainted F catalog item entry resolved) :
    encodeResolvedItemDetail resolved =
      encodeItemDetailWithFlags F 0 F.zero resolved.defindex 0 resolved.quality resolved.tintId
        resolved.patternTier resolved.isSlab := by
  have hPaint : resolved.paintindex = 0 := h.resolvesTo.paintindex.trans h.unpainted
  obtain ⟨hFloat, hSeed⟩ := h.resolvesTo.unpainted hPaint
  rw [encodeResolvedItemDetail, hPaint, hFloat, hSeed]

theorem AttestsUnpainted.tint_eq_iff (h : AttestsUnpainted F catalog item entry resolved) :
    min (entry.tintId.getD 0).toNat 31 = min resolved.tintId.toNat 31 ↔ entry.signsTint := by
  by_cases hType : entry.itemType = "graffiti"
  · rw [h.resolvesTo.graffiti hType]
    exact iff_of_true rfl (Or.inl hType)
  · rw [h.resolvesTo.untinted hType, CatalogItem.signsTint, or_iff_right hType, ← UInt32.toNat_inj]
    change _ = 0 ↔ _ = 0
    omega

theorem AttestsUnpainted.patternTier_eq (h : AttestsUnpainted F catalog item entry resolved) :
    resolved.patternTier = classifySpecialPatternTier catalog.specialClassification
      item.marketHashName (entry.defindex.getD 0) 0 0 := by
  have hPaint : resolved.paintindex = 0 := h.resolvesTo.paintindex.trans h.unpainted
  obtain ⟨_, hSeed⟩ := h.resolvesTo.unpainted hPaint
  rw [h.resolvesTo.patternTier, load_catalog, hPaint, hSeed,
    h.resolvesTo.defindex]
  rfl

/-- The guard counts the signed detail of an unpainted item exactly when the tint
of its entry is signed and no tier is. -/
theorem staticKey_signed_iff (h : AttestsUnpainted F catalog item entry resolved) :
    staticAttestationKeyForCatalogItem F entry = some (encodeResolvedItemDetail resolved) ↔
      entry.signsTint ∧ entry.hidesTier catalog.specialClassification item.marketHashName := by
  rw [h.staticKey_eq, h.detail_eq, Option.some.injEq, unpaintedDetail_eq_iff, h.tint_eq_iff]
  refine and_congr_right fun _ => or_congr ?_ ?_
  · rw [CatalogItem.exempt, h.resolvesTo.defindex]
    rfl
  · rw [← h.patternTier_eq, ← UInt32.toNat_inj]
    change min 0 7 = _ ↔ _ = 0
    omega

end Keys

/-- A patch with a tint, which only the guard reads. -/
def tintedEntry : CatalogItem :=
  ⟨"Patch | Bayonet Frog", some 4553, none, some 3, "patch", none, none, none, false, false⟩

def tintedCatalog : CatalogArtifact where
  items := [tintedEntry, caseEntry]
  specialClassification := []

theorem staticKey_signed_iff_case :
    ∃ resolved, AttestsUnpainted sampleFloats tintedCatalog (plainItem "Chroma Case") caseEntry
        resolved ∧
      staticAttestationKeyForCatalogItem sampleFloats caseEntry =
        some (encodeResolvedItemDetail resolved) := by
  obtain ⟨resolved, hAttests, _⟩ : ∃ resolved, AttestsUnpainted sampleFloats tintedCatalog
      (plainItem "Chroma Case") caseEntry resolved ∧
      encodeResolvedItemDetail resolved = 133070848 ∧ resolved.signedExtended = false :=
    AttestsUnpainted.of_map (by decide +kernel) (by decide +kernel) rfl rfl rfl
  exact ⟨resolved, hAttests,
    (staticKey_signed_iff hAttests).mpr ⟨Or.inr rfl, Or.inr (by decide +kernel)⟩⟩

/-- The patch is counted in the extended layout and signed in the standard one. -/
theorem not_guardLaw_patch :
    ¬GuardLaw sampleFloats tintedCatalog (plainItem "Patch | Bayonet Frog") := by
  intro hLaw
  obtain ⟨resolved, hAttests, hDetail, _⟩ : ∃ resolved, AttestsUnpainted sampleFloats tintedCatalog
      (plainItem "Patch | Bayonet Frog") tintedEntry resolved ∧
      encodeResolvedItemDetail resolved = 149192704 ∧ resolved.signedExtended = false :=
    AttestsUnpainted.of_map (by decide +kernel) (by decide +kernel) rfl rfl rfl
  have hKey := hLaw tintedEntry resolved hAttests
  rw [hDetail] at hKey
  exact absurd hKey (by decide +kernel)

end SettlementOracle
