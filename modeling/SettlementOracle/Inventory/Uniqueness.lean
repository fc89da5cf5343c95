import SettlementOracle.Inventory.Quality

/-! Which unpainted catalog entries share a signed item detail. The guard counts
the details of the whole catalog, but lets the extended layout pass. -/
namespace SettlementOracle

open Checked

section Attesting

variable (F : FloatFormat)

/-- The item resolves to an unpainted entry with the same StatTrak and Souvenir
flags. -/
structure AttestsUnpainted (catalog : CatalogArtifact) (item : InventoryItem F)
    (entry : CatalogItem) (resolved : ResolvedCatalogIdentity F) : Prop where
  found : (CatalogResolver.load F catalog).resolveCatalogItem item item.finishCatalog = .ok entry
  resolves : (CatalogResolver.load F catalog).resolve item = .ok resolved
  unpainted : entry.paintindex.getD 0 = 0
  statTrak : item.isStattrak = entry.statTrak
  souvenir : item.isSouvenir = entry.souvenir

/-- Different unpainted entries are signed with different details. -/
def UniquenessLaw (catalog : CatalogArtifact) (item₁ item₂ : InventoryItem F) : Prop :=
  ∀ entry₁ entry₂ resolved₁ resolved₂, AttestsUnpainted F catalog item₁ entry₁ resolved₁ →
    AttestsUnpainted F catalog item₂ entry₂ resolved₂ →
    entry₁.marketHashName ≠ entry₂.marketHashName →
    encodeResolvedItemDetail resolved₁ ≠ encodeResolvedItemDetail resolved₂

end Attesting

/-- The layout that the detail is signed in. -/
def ResolvedCatalogIdentity.signedExtended {F : FloatFormat}
    (resolved : ResolvedCatalogIdentity F) : Bool :=
  usesExtended resolved.defindex resolved.tintId

/-- The entry passes the guard without a look at the counts. -/
def CatalogItem.exempt (entry : CatalogItem) : Bool :=
  usesExtended (entry.defindex.getD 0) (entry.tintId.getD 0)

section Details

variable {F : FloatFormat} {catalog : CatalogArtifact} {item item₁ item₂ : InventoryItem F}
  {entry entry₁ entry₂ : CatalogItem} {resolved resolved₁ resolved₂ : ResolvedCatalogIdentity F}

theorem encodeQuality_fromFlags_inj {souvenir₁ statTrak₁ souvenir₂ statTrak₂ : Bool}
    (h : encodeQuality (qualityFromFlags souvenir₁ statTrak₁) =
      encodeQuality (qualityFromFlags souvenir₂ statTrak₂)) :
    qualityFromFlags souvenir₁ statTrak₁ = qualityFromFlags souvenir₂ statTrak₂ := by
  revert h
  revert souvenir₁ statTrak₁ souvenir₂ statTrak₂
  decide

theorem AttestsUnpainted.resolvesTo (h : AttestsUnpainted F catalog item entry resolved) :
    ResolvesTo (CatalogResolver.load F catalog) item entry resolved :=
  resolvesTo_of_resolve h.found h.resolves

/-- The signed quality is that of the entry. -/
theorem AttestsUnpainted.quality (h : AttestsUnpainted F catalog item entry resolved) :
    resolved.quality = qualityFromCatalogItem entry := by
  rw [h.resolvesTo.quality, qualityFromInventoryItem, h.statTrak, h.souvenir]
  rfl

/-- An unpainted detail in the standard layout. -/
theorem AttestsUnpainted.toNat_standard (h : AttestsUnpainted F catalog item entry resolved)
    (hMode : resolved.signedExtended = false) :
    (encodeResolvedItemDetail resolved).toNat =
      resolved.defindex.toNat * 32768 + min resolved.patternTier.toNat 7 * 4 +
        (encodeQuality resolved.quality).toNat := by
  have hPaint : resolved.paintindex = 0 := h.resolvesTo.paintindex.trans h.unpainted
  obtain ⟨hFloat, hSeed⟩ := h.resolvesTo.unpainted hPaint
  rw [encodeResolvedItemDetail, encode_of_standard hMode, hPaint, hFloat, hSeed, F.scaled_zero]
  simp

theorem toNat_signedExtended (hMode : resolved.signedExtended = true) :
    (encodeResolvedItemDetail resolved).toNat =
      min resolved.tintId.toNat 31 * 8796093022208 +
        resolved.defindex.toNat / 8192 % 32768 * 268435456 +
        resolved.defindex.toNat % 8192 * 32768 + 1023 * 32 + resolved.isSlab.toNat * 16 +
        (encodeQuality resolved.quality).toNat :=
  encode_of_extended hMode

/-- The marker tells the layouts apart. -/
theorem AttestsUnpainted.ne_of_modes (h₁ : AttestsUnpainted F catalog item₁ entry₁ resolved₁)
    (hStandard : resolved₁.signedExtended = false) (hExtended : resolved₂.signedExtended = true) :
    encodeResolvedItemDetail resolved₁ ≠ encodeResolvedItemDetail resolved₂ := by
  intro hEq
  have hCode₁ := encodeQuality_lt resolved₁.quality
  have hCode₂ := encodeQuality_lt resolved₂.quality
  have hSlab := Bool.toNat_le resolved₂.isSlab
  have hValue := congrArg UInt64.toNat hEq
  rw [h₁.toNat_standard hStandard, toNat_signedExtended hExtended] at hValue
  -- bits 14 to 5 are 0 on the left and 1023 on the right
  omega

/-- What the extended layout tells apart. -/
theorem signedExtended_eq_iff (h₁ : resolved₁.signedExtended = true)
    (h₂ : resolved₂.signedExtended = true) :
    encodeResolvedItemDetail resolved₁ = encodeResolvedItemDetail resolved₂ ↔
      min resolved₁.tintId.toNat 31 = min resolved₂.tintId.toNat 31 ∧
        resolved₁.defindex.toNat % 268435456 = resolved₂.defindex.toNat % 268435456 ∧
        resolved₁.isSlab = resolved₂.isSlab ∧
        encodeQuality resolved₁.quality = encodeQuality resolved₂.quality := by
  have hCode₁ := encodeQuality_lt resolved₁.quality
  have hCode₂ := encodeQuality_lt resolved₂.quality
  have hSlab₁ := Bool.toNat_le resolved₁.isSlab
  have hSlab₂ := Bool.toNat_le resolved₂.isSlab
  rw [← UInt64.toNat_inj, toNat_signedExtended h₁, toNat_signedExtended h₂]
  constructor
  · intro hValue
    refine ⟨by omega, by omega, ?_, UInt32.toNat_inj.mp (by omega)⟩
    have hSlab : resolved₁.isSlab.toNat = resolved₂.isSlab.toNat := by omega
    cases hFlag₁ : resolved₁.isSlab <;> cases hFlag₂ : resolved₂.isSlab <;>
      simp [hFlag₁, hFlag₂] at hSlab ⊢
  · rintro ⟨hTint, hDefindex, hSlab, hQuality⟩
    rw [hTint, hSlab, hQuality]
    omega

/-- An entry that the guard looks at is counted under its definition index and
its quality. -/
theorem AttestsUnpainted.staticKey (h : AttestsUnpainted F catalog item entry resolved)
    (hGuarded : entry.exempt = false) :
    ∃ key, staticAttestationKeyForCatalogItem F entry = some key ∧
      key.toNat = resolved.defindex.toNat * 32768 +
        (encodeQuality (qualityFromCatalogItem entry)).toNat := by
  have hMode : usesExtended resolved.defindex (entry.tintId.getD 0) = false := by
    simpa [CatalogItem.exempt, h.resolvesTo.defindex] using hGuarded
  refine ⟨encodeItemDetailWithFlags F 0 F.zero resolved.defindex 0 (qualityFromCatalogItem entry)
    (entry.tintId.getD 0) 0 (decide (entry.itemType = "sticker_slab")), ?_, ?_⟩
  · simp only [staticAttestationKeyForCatalogItem, h.resolvesTo.defindex, h.unpainted,
      Option.bind_some]
    exact if_neg (by decide)
  · rw [encode_of_standard hMode, F.scaled_zero]
    simp

/-- The guard rejects an entry whose key another entry has as well. -/
theorem AttestsUnpainted.key_unique (h : AttestsUnpainted F catalog item entry resolved)
    (hGuarded : entry.exempt = false) {key : UInt64}
    (hKey : staticAttestationKeyForCatalogItem F entry = some key) :
    catalog.items.countP
      (fun other => staticAttestationKeyForCatalogItem F other = some key) ≤ 1 := by
  have hEnsure := h.resolvesTo.representable
  simp only [ensureRepresentableItemDetail, hKey] at hEnsure
  rw [if_neg (by simpa [CatalogItem.exempt] using hGuarded), load_counts] at hEnsure
  split at hEnsure
  · cases hEnsure
  · omega

/-- Two entries that the guard looks at have different details in the standard
layout: equal details would be counted twice under one key. -/
theorem AttestsUnpainted.ne_of_guarded (h₁ : AttestsUnpainted F catalog item₁ entry₁ resolved₁)
    (h₂ : AttestsUnpainted F catalog item₂ entry₂ resolved₂)
    (hNames : entry₁.marketHashName ≠ entry₂.marketHashName)
    (hMode₁ : resolved₁.signedExtended = false) (hMode₂ : resolved₂.signedExtended = false)
    (hGuarded₁ : entry₁.exempt = false) (hGuarded₂ : entry₂.exempt = false) :
    encodeResolvedItemDetail resolved₁ ≠ encodeResolvedItemDetail resolved₂ := by
  intro hEq
  have hCode₁ := encodeQuality_lt resolved₁.quality
  have hCode₂ := encodeQuality_lt resolved₂.quality
  have hValue := congrArg UInt64.toNat hEq
  rw [h₁.toNat_standard hMode₁, h₂.toNat_standard hMode₂] at hValue
  have hDefindex : resolved₁.defindex.toNat = resolved₂.defindex.toNat := by omega
  have hQuality : (encodeQuality resolved₁.quality).toNat =
      (encodeQuality resolved₂.quality).toNat := by omega
  obtain ⟨key₁, hKey₁, hValue₁⟩ := h₁.staticKey hGuarded₁
  obtain ⟨key₂, hKey₂, hValue₂⟩ := h₂.staticKey hGuarded₂
  obtain rfl : key₁ = key₂ := by
    rw [← UInt64.toNat_inj, hValue₁, hValue₂, hDefindex, ← h₁.quality, ← h₂.quality, hQuality]
  have hTwo : 2 ≤ catalog.items.countP
      (fun other => staticAttestationKeyForCatalogItem F other = some key₁) :=
    two_le_countP (mem_of_resolveCatalogItem h₁.found) (mem_of_resolveCatalogItem h₂.found)
      (fun hSame => hNames (congrArg _ hSame)) (decide_eq_true hKey₁) (decide_eq_true hKey₂)
  have hOne := h₁.key_unique hGuarded₁ hKey₁
  omega

/-- Signed details of two unpainted entries with different names. They differ
between the two layouts, and in the standard layout behind the guard. In the
extended layout, which the guard lets pass, they are equal exactly when tint,
definition index, slab flag and quality are the same as far as the layout keeps
them. -/
theorem unpainted_details (h₁ : AttestsUnpainted F catalog item₁ entry₁ resolved₁)
    (h₂ : AttestsUnpainted F catalog item₂ entry₂ resolved₂)
    (hNames : entry₁.marketHashName ≠ entry₂.marketHashName) :
    (resolved₁.signedExtended ≠ resolved₂.signedExtended →
        encodeResolvedItemDetail resolved₁ ≠ encodeResolvedItemDetail resolved₂) ∧
      (resolved₁.signedExtended = false → resolved₂.signedExtended = false →
        entry₁.exempt = false → entry₂.exempt = false →
        encodeResolvedItemDetail resolved₁ ≠ encodeResolvedItemDetail resolved₂) ∧
      (resolved₁.signedExtended = true → resolved₂.signedExtended = true →
        (encodeResolvedItemDetail resolved₁ = encodeResolvedItemDetail resolved₂ ↔
          min resolved₁.tintId.toNat 31 = min resolved₂.tintId.toNat 31 ∧
            resolved₁.defindex.toNat % 268435456 = resolved₂.defindex.toNat % 268435456 ∧
            resolved₁.isSlab = resolved₂.isSlab ∧ resolved₁.quality = resolved₂.quality)) := by
  refine ⟨fun hModes => ?_, h₁.ne_of_guarded h₂ hNames, fun hMode₁ hMode₂ => ?_⟩
  · cases hMode₁ : resolved₁.signedExtended with
    | false =>
        have hMode₂ : resolved₂.signedExtended = true := by simpa [hMode₁] using hModes.symm
        exact h₁.ne_of_modes hMode₁ hMode₂
    | true =>
        have hMode₂ : resolved₂.signedExtended = false := by simpa [hMode₁] using hModes.symm
        exact (h₂.ne_of_modes hMode₂ hMode₁).symm
  · have hQuality : encodeQuality resolved₁.quality = encodeQuality resolved₂.quality ↔
        resolved₁.quality = resolved₂.quality := by
      rw [h₁.quality, h₂.quality]
      exact ⟨encodeQuality_fromFlags_inj, congrArg encodeQuality⟩
    rw [signedExtended_eq_iff hMode₁ hMode₂, hQuality]

theorem AttestsUnpainted.of_map {detail : UInt64} {extended : Bool}
    (hFound : (CatalogResolver.load F catalog).resolveCatalogItem item item.finishCatalog =
      .ok entry)
    (hResolves : ((CatalogResolver.load F catalog).resolve item).map
      (fun resolved => (encodeResolvedItemDetail resolved, resolved.signedExtended)) =
        .ok (detail, extended))
    (hUnpainted : entry.paintindex.getD 0 = 0) (hStatTrak : item.isStattrak = entry.statTrak)
    (hSouvenir : item.isSouvenir = entry.souvenir) :
    ∃ resolved, AttestsUnpainted F catalog item entry resolved ∧
      encodeResolvedItemDetail resolved = detail ∧ resolved.signedExtended = extended := by
  obtain ⟨resolved, hResolved, hPair⟩ := map_eq_ok.mp hResolves
  obtain ⟨hDetail, hExtended⟩ := Prod.mk.inj hPair
  exact ⟨resolved, ⟨hFound, hResolved, hUnpainted, hStatTrak, hSouvenir⟩, hDetail, hExtended⟩

end Details

def alphaEntry : CatalogItem :=
  ⟨"Sticker | Alpha", some 10000, none, none, "sticker", none, none, none, false, false⟩

def betaEntry : CatalogItem := { alphaEntry with marketHashName := "Sticker | Beta" }

def caseEntry : CatalogItem :=
  ⟨"Chroma Case", some 4061, none, none, "container", none, none, none, false, false⟩

def keyEntry : CatalogItem :=
  ⟨"Chroma Case Key", some 1325, none, none, "key", none, none, none, false, false⟩

/-- Two stickers with one definition index, beside a case and its key. -/
def twinCatalog : CatalogArtifact where
  items := [alphaEntry, betaEntry, caseEntry, keyEntry]
  specialClassification := []

def plainItem (name : String) : InventoryItem sampleFloats := ⟨name, none, false, false, none⟩

theorem attestsUnpainted_alpha : ∃ resolved, AttestsUnpainted sampleFloats twinCatalog
    (plainItem "Sticker | Alpha") alphaEntry resolved ∧
    encodeResolvedItemDetail resolved = 327712736 ∧ resolved.signedExtended = true :=
  AttestsUnpainted.of_map (by decide +kernel) (by decide +kernel) rfl rfl rfl

theorem attestsUnpainted_beta : ∃ resolved, AttestsUnpainted sampleFloats twinCatalog
    (plainItem "Sticker | Beta") betaEntry resolved ∧
    encodeResolvedItemDetail resolved = 327712736 ∧ resolved.signedExtended = true :=
  AttestsUnpainted.of_map (by decide +kernel) (by decide +kernel) rfl rfl rfl

/-- The guard looks at the case and at its key. It passes over the stickers, which
share their detail and hence their definition index. -/
theorem unpainted_details_case :
    ∃ alpha beta crate key,
      AttestsUnpainted sampleFloats twinCatalog (plainItem "Sticker | Alpha") alphaEntry alpha ∧
      AttestsUnpainted sampleFloats twinCatalog (plainItem "Sticker | Beta") betaEntry beta ∧
      AttestsUnpainted sampleFloats twinCatalog (plainItem "Chroma Case") caseEntry crate ∧
      AttestsUnpainted sampleFloats twinCatalog (plainItem "Chroma Case Key") keyEntry key ∧
      encodeResolvedItemDetail alpha ≠ encodeResolvedItemDetail crate ∧
      encodeResolvedItemDetail crate ≠ encodeResolvedItemDetail key ∧
      alpha.defindex.toNat % 268435456 = beta.defindex.toNat % 268435456 := by
  obtain ⟨alpha, hAlpha, hDetailAlpha, hExtended⟩ := attestsUnpainted_alpha
  obtain ⟨beta, hBeta, hDetailBeta, hExtendedBeta⟩ := attestsUnpainted_beta
  obtain ⟨crate, hCase, _, hStandard⟩ : ∃ resolved, AttestsUnpainted sampleFloats twinCatalog
      (plainItem "Chroma Case") caseEntry resolved ∧
      encodeResolvedItemDetail resolved = 133070848 ∧ resolved.signedExtended = false :=
    AttestsUnpainted.of_map (by decide +kernel) (by decide +kernel) rfl rfl rfl
  obtain ⟨key, hKey, _, hStandardKey⟩ : ∃ resolved, AttestsUnpainted sampleFloats twinCatalog
      (plainItem "Chroma Case Key") keyEntry resolved ∧
      encodeResolvedItemDetail resolved = 43417600 ∧ resolved.signedExtended = false :=
    AttestsUnpainted.of_map (by decide +kernel) (by decide +kernel) rfl rfl rfl
  refine ⟨alpha, beta, crate, key, hAlpha, hBeta, hCase, hKey, ?_, ?_, ?_⟩
  · refine (unpainted_details hAlpha hCase (by decide)).1 ?_
    rw [hExtended, hStandard]
    decide
  · exact (unpainted_details hCase hKey (by decide)).2.1 hStandard hStandardKey (by decide)
      (by decide)
  · exact (((unpainted_details hAlpha hBeta (by decide)).2.2 hExtended hExtendedBeta).mp
      (hDetailAlpha.trans hDetailBeta.symm)).2.1

/-- The two stickers are signed with one detail. -/
theorem not_uniquenessLaw_twins :
    ¬UniquenessLaw sampleFloats twinCatalog (plainItem "Sticker | Alpha")
      (plainItem "Sticker | Beta") := by
  intro hLaw
  obtain ⟨alpha, hAlpha, hDetailAlpha, _⟩ := attestsUnpainted_alpha
  obtain ⟨beta, hBeta, hDetailBeta, _⟩ := attestsUnpainted_beta
  exact hLaw alphaEntry betaEntry alpha beta hAlpha hBeta (by decide)
    (hDetailAlpha.trans hDetailBeta.symm)

end SettlementOracle
