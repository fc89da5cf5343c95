import SettlementOracle.Inventory.Catalog

/-! What the loaded indexes hold, and what a successful resolution says about the
catalog entry behind it. -/
namespace SettlementOracle

open Checked

section Loading

variable {F : FloatFormat} {catalog : CatalogArtifact}

/-- The loop fills each index on its own. -/
theorem foldl_push (items : List CatalogItem) (resolver : CatalogResolver) :
    items.foldl (CatalogResolver.push F) resolver =
      { catalog := resolver.catalog
        exactIndex :=
          items.foldl (pushEntry fun item => some item.marketHashName) resolver.exactIndex
        familyIndex := items.foldl (pushEntry FamilyKey.fromCatalogItem) resolver.familyIndex
        staticAttestationKeyCounts :=
          items.foldl (countEntry (staticAttestationKeyForCatalogItem F))
            resolver.staticAttestationKeyCounts } := by
  induction items generalizing resolver with
  | nil => rfl
  | cons item rest ih =>
      rw [List.foldl_cons, ih]
      rfl

theorem load_catalog : (CatalogResolver.load F catalog).catalog = catalog := by
  rw [CatalogResolver.load, foldl_push]

theorem load_exactIndex (name : String) :
    ((CatalogResolver.load F catalog).exactIndex name).getD [] =
      catalog.items.filter fun item => item.marketHashName = name := by
  rw [CatalogResolver.load, foldl_push, foldl_pushEntry_getD]
  simp

theorem load_familyIndex (key : FamilyKey) :
    ((CatalogResolver.load F catalog).familyIndex key).getD [] =
      catalog.items.filter fun item => FamilyKey.fromCatalogItem item = some key := by
  rw [CatalogResolver.load, foldl_push, foldl_pushEntry_getD]
  rfl

theorem load_counts (key : UInt64) :
    ((CatalogResolver.load F catalog).staticAttestationKeyCounts key).getD 0 =
      catalog.items.countP fun item => staticAttestationKeyForCatalogItem F item = some key := by
  rw [CatalogResolver.load, foldl_push, foldl_countEntry_getD]
  exact Nat.zero_add _

end Loading

section Resolution

variable {F : FloatFormat} {catalog : CatalogArtifact} {resolver : CatalogResolver}
  {item : InventoryItem F} {entry : CatalogItem} {resolved : ResolvedCatalogIdentity F}
  {finishCatalog : Option UInt32}

theorem oneCandidate_eq_ok {name : String} {missing : CatalogResolveError}
    {candidates : List CatalogItem} (h : oneCandidate name missing candidates = .ok entry) :
    candidates = [entry] := by
  unfold oneCandidate at h
  split at h
  · cases h
    rfl
  · cases h
  · cases h

/-- Only entries of the catalog are found. -/
theorem mem_of_resolveCatalogItem
    (h : (CatalogResolver.load F catalog).resolveCatalogItem item finishCatalog = .ok entry) :
    entry ∈ catalog.items := by
  simp only [CatalogResolver.resolveCatalogItem, load_exactIndex] at h
  split at h
  · split at h
    · split at h
      · rename_i hFound
        cases h
        exact List.mem_of_mem_filter (List.mem_of_find?_eq_some hFound)
      · cases h
    · split at h
      · cases h
      · rename_i hFamily
        obtain ⟨key, _, hCandidates⟩ := Option.bind_eq_some_iff.mp hFamily
        have hGroup := @load_familyIndex F catalog key
        rw [hCandidates, Option.getD_some] at hGroup
        have hMem : entry ∈ _ := (oneCandidate_eq_ok h).symm ▸ List.mem_singleton_self entry
        rw [hGroup] at hMem
        exact List.mem_of_mem_filter (List.mem_of_mem_filter hMem)
  · have hMem : entry ∈ _ := (oneCandidate_eq_ok h).symm ▸ List.mem_singleton_self entry
    exact List.mem_of_mem_filter hMem

@[simp] theorem required_eq_ok {ε α : Type} {value : Option α} {error : ε} {a : α} :
    required value error = .ok a ↔ value = some a := by
  cases value <;> simp [required]

@[simp] theorem required_eq_error {ε α : Type} {value : Option α} {error other : ε} :
    required value error = .error other ↔ value = none ∧ error = other := by
  cases value <;> simp [required]

/-- What resolution takes from the entry that it finds for the item, and from the
evidence of the item itself. -/
structure ResolvesTo (resolver : CatalogResolver) (item : InventoryItem F) (entry : CatalogItem)
    (resolved : ResolvedCatalogIdentity F) : Prop where
  found : resolver.resolveCatalogItem item item.finishCatalog = .ok entry
  marketHashName : resolved.marketHashName = item.marketHashName
  defindex : entry.defindex = some resolved.defindex
  paintindex : resolved.paintindex = entry.paintindex.getD 0
  graffiti : entry.itemType = "graffiti" → entry.tintId = some resolved.tintId
  untinted : entry.itemType ≠ "graffiti" → resolved.tintId = 0
  unpainted : resolved.paintindex = 0 → resolved.floatvalue = F.zero ∧ resolved.paintseed = 0
  painted : resolved.paintindex ≠ 0 →
    item.steamEvidence.bind SteamAssetEvidence.floatvalue = some resolved.floatvalue ∧
      item.steamEvidence.bind SteamAssetEvidence.paintseed = some resolved.paintseed
  patternTier : resolved.patternTier = classifySpecialPatternTier
    resolver.catalog.specialClassification item.marketHashName resolved.defindex
    resolved.paintindex resolved.paintseed
  representable :
    ensureRepresentableItemDetail F entry resolver.staticAttestationKeyCounts = .ok ()
  quality : resolved.quality = qualityFromInventoryItem F item
  isSlab : resolved.isSlab = decide (entry.itemType = "sticker_slab")

theorem paintedOnly_eq_ok {α : Type} {paintindex : UInt32} {value : Option α} {unpainted a : α}
    {error : CatalogResolveError} (h : paintedOnly paintindex value unpainted error = .ok a) :
    (paintindex = 0 → a = unpainted) ∧ (paintindex ≠ 0 → value = some a) := by
  unfold paintedOnly at h
  split_ifs at h with hPainted
  · refine ⟨fun hZero => ?_, fun _ => required_eq_ok.mp h⟩
    rw [hZero] at hPainted
    exact absurd hPainted (by decide)
  · refine ⟨fun _ => (Except.ok.inj h).symm, fun hNe => absurd ?_ hPainted⟩
    exact UInt32.pos_iff_ne_zero.mpr hNe

theorem resolvesTo_of_resolve
    (hEntry : resolver.resolveCatalogItem item item.finishCatalog = .ok entry)
    (h : resolver.resolve item = .ok resolved) : ResolvesTo resolver item entry resolved := by
  unfold CatalogResolver.resolve at h
  simp only [hEntry, bind_eq_ok, Except.ok.injEq, exists_eq_left', required_eq_ok] at h
  obtain ⟨defindex, hDefindex, tintId, hTint, floatvalue, hFloat, paintseed, hSeed, _, hEnsure,
    hEq⟩ := h
  cases hEq
  obtain ⟨hNoFloat, hFloat⟩ := paintedOnly_eq_ok hFloat
  obtain ⟨hNoSeed, hSeed⟩ := paintedOnly_eq_ok hSeed
  exact {
    found := hEntry
    marketHashName := rfl
    defindex := hDefindex
    paintindex := rfl
    graffiti := fun hType => by simpa [resolvedTintId, hType] using hTint
    untinted := fun hType => by simpa [resolvedTintId, hType, eq_comm] using hTint
    unpainted := fun hZero => ⟨hNoFloat hZero, hNoSeed hZero⟩
    painted := fun hPainted => ⟨hFloat hPainted, hSeed hPainted⟩
    patternTier := rfl
    representable := hEnsure
    quality := rfl
    isSlab := rfl }

end Resolution

end SettlementOracle
