import SettlementOracle.Inventory.Quality

/-! Resolution under another order of the catalog. The lookup by name and finish
takes the first entry it finds, the other two lookups count their candidates. -/
namespace SettlementOracle

open Checked

/-- What resolution reads of the entry it has found. -/
structure CatalogIdentity where
  defindex : Option UInt32
  paintindex : Option UInt32
  tintId : Option UInt32
  itemType : String
  statTrak : Bool
  souvenir : Bool
  deriving DecidableEq, Repr

def CatalogItem.identity (entry : CatalogItem) : CatalogIdentity :=
  ⟨entry.defindex, entry.paintindex, entry.tintId, entry.itemType, entry.statTrak, entry.souvenir⟩

section Lookup

variable {F : FloatFormat}

def CatalogArtifact.exactMatches (catalog : CatalogArtifact) (name : String) : List CatalogItem :=
  catalog.items.filter fun entry => entry.marketHashName = name

def CatalogArtifact.familyMatches (catalog : CatalogArtifact) (item : InventoryItem F) :
    List CatalogItem :=
  catalog.items.filter fun entry =>
    (FamilyKey.fromCatalogItem entry).isSome &&
      FamilyKey.fromCatalogItem entry = FamilyKey.fromInventoryItem F item

/-- The entries that match the item. Families are asked only where no entry has the
name. -/
def CatalogArtifact.candidates (catalog : CatalogArtifact) (item : InventoryItem F) :
    List CatalogItem :=
  let exact := catalog.exactMatches item.marketHashName
  match item.finishCatalog with
  | none => exact
  | some finish =>
      (if exact ≠ [] then exact else catalog.familyMatches item).filter fun entry =>
        entry.paintindex = some finish

/-- The lookup of an item in the loaded catalog. -/
def CatalogArtifact.lookup (catalog : CatalogArtifact) (item : InventoryItem F) :
    Except CatalogResolveError CatalogItem :=
  (CatalogResolver.load F catalog).resolveCatalogItem item item.finishCatalog

variable {catalog : CatalogArtifact} {item : InventoryItem F} {finish : UInt32}

theorem load_exactMatches :
    ((CatalogResolver.load F catalog).exactIndex item.marketHashName).getD [] =
      catalog.exactMatches item.marketHashName :=
  load_exactIndex _

/-- A family without entries is not in the index. -/
theorem load_familyMatches :
    (FamilyKey.fromInventoryItem F item).bind (CatalogResolver.load F catalog).familyIndex =
      if catalog.familyMatches item = [] then none else some (catalog.familyMatches item) := by
  cases hKey : FamilyKey.fromInventoryItem F item with
  | none =>
      have hNone : catalog.familyMatches item = [] := by
        simp [CatalogArtifact.familyMatches, hKey, Option.isSome_iff_ne_none]
      rw [if_pos hNone, Option.bind_none]
  | some key =>
      have hMatches : catalog.familyMatches item =
          catalog.items.filter fun entry => FamilyKey.fromCatalogItem entry = some key := by
        refine List.filter_congr fun entry _ => ?_
        cases FamilyKey.fromCatalogItem entry <;> simp [hKey]
      have hGroup := @load_familyIndex F catalog key
      rw [← hMatches] at hGroup
      rw [Option.bind_some]
      cases hIndex : (CatalogResolver.load F catalog).familyIndex key with
      | none =>
          rw [hIndex] at hGroup
          exact (if_pos hGroup.symm).symm
      | some group =>
          rw [hIndex] at hGroup
          obtain rfl : group = catalog.familyMatches item := hGroup
          refine (if_neg fun hEmpty => ?_).symm
          rw [hMatches, List.filter_eq_nil_iff] at hEmpty
          have hAbsent : (CatalogResolver.load F catalog).familyIndex key = none := by
            rw [CatalogResolver.load, foldl_push, foldl_pushEntry_eq_none]
            exact ⟨rfl, fun entry hEntry => by simpa using hEmpty entry hEntry⟩
          rw [hAbsent] at hIndex
          cases hIndex

theorem lookup_of_plain (hFinish : item.finishCatalog = none) :
    catalog.lookup item =
      oneCandidate item.marketHashName (.catalogMiss item.marketHashName)
        (catalog.candidates item) := by
  simp only [CatalogArtifact.lookup, CatalogResolver.resolveCatalogItem, CatalogArtifact.candidates, hFinish,
    load_exactMatches]

theorem lookup_of_exact (hFinish : item.finishCatalog = some finish)
    (hExact : catalog.exactMatches item.marketHashName ≠ []) :
    catalog.lookup item =
      required (catalog.candidates item).head?
        (.unsupportedFinishCatalog item.marketHashName finish) := by
  simp only [CatalogArtifact.lookup, CatalogResolver.resolveCatalogItem, CatalogArtifact.candidates, hFinish,
    load_exactMatches, if_pos hExact, List.head?_filter]
  generalize List.find? _ _ = found
  cases found <;> rfl

theorem lookup_of_family (hFinish : item.finishCatalog = some finish)
    (hExact : catalog.exactMatches item.marketHashName = []) :
    catalog.lookup item =
      if catalog.familyMatches item = [] then .error (.catalogMiss item.marketHashName)
      else oneCandidate item.marketHashName (.unsupportedFinishCatalog item.marketHashName finish)
        (catalog.candidates item) := by
  simp only [CatalogArtifact.lookup, CatalogResolver.resolveCatalogItem,
    CatalogArtifact.candidates, hFinish, load_exactMatches, load_familyMatches, if_neg (not_not_intro hExact)]
  split_ifs <;> rfl

theorem mem_candidates_of_exact {entry : CatalogItem} (hFinish : item.finishCatalog = some finish)
    (hMem : entry ∈ catalog.items) (hName : entry.marketHashName = item.marketHashName)
    (hPaint : entry.paintindex = some finish) : entry ∈ catalog.candidates item := by
  have hExact : entry ∈ catalog.exactMatches item.marketHashName :=
    List.mem_filter.mpr ⟨hMem, decide_eq_true hName⟩
  simp only [CatalogArtifact.candidates, hFinish, if_pos (List.ne_nil_of_mem hExact)]
  exact List.mem_filter.mpr ⟨hExact, decide_eq_true hPaint⟩

theorem candidate_of_exact {entry : CatalogItem} (hFinish : item.finishCatalog = some finish)
    (hExact : catalog.exactMatches item.marketHashName ≠ [])
    (h : entry ∈ catalog.candidates item) :
    entry ∈ catalog.items ∧ entry.marketHashName = item.marketHashName ∧
      entry.paintindex = some finish := by
  simp only [CatalogArtifact.candidates, hFinish, if_pos hExact] at h
  obtain ⟨hEntry, hPaint⟩ := List.mem_filter.mp h
  obtain ⟨hMem, hName⟩ := List.mem_filter.mp hEntry
  exact ⟨hMem, of_decide_eq_true hName, of_decide_eq_true hPaint⟩

end Lookup

section Found

variable {F : FloatFormat} {resolver resolver' : CatalogResolver} {item : InventoryItem F}
  {entry entry' : CatalogItem}

theorem ensureRepresentable_congr {counts counts' : UInt64 → Option Nat}
    (hIdentity : entry.identity = entry'.identity)
    (hName : entry.marketHashName = entry'.marketHashName)
    (hCounts : ∀ key, (counts key).getD 0 = (counts' key).getD 0) :
    ensureRepresentableItemDetail F entry counts =
      ensureRepresentableItemDetail F entry' counts' := by
  obtain ⟨_, _, _, _, _, _, _, _, _, _⟩ := entry
  obtain ⟨_, _, _, _, _, _, _, _, _, _⟩ := entry'
  obtain ⟨rfl, rfl, rfl, rfl, rfl, rfl⟩ := CatalogIdentity.mk.inj hIdentity
  obtain rfl : _ = _ := hName
  simp only [ensureRepresentableItemDetail, hCounts]
  rfl

/-- Two entries of one identity and name resolve an item alike. -/
theorem resolve_eq_of_found
    (hFound : resolver.resolveCatalogItem item item.finishCatalog = .ok entry)
    (hFound' : resolver'.resolveCatalogItem item item.finishCatalog = .ok entry')
    (hIdentity : entry.identity = entry'.identity)
    (hName : entry.marketHashName = entry'.marketHashName)
    (hFamilies : resolver.catalog.specialClassification = resolver'.catalog.specialClassification)
    (hCounts : ∀ key, (resolver.staticAttestationKeyCounts key).getD 0 =
      (resolver'.staticAttestationKeyCounts key).getD 0) :
    resolver.resolve item = resolver'.resolve item := by
  have hEnsure := @ensureRepresentable_congr F _ _ _ _ hIdentity hName hCounts
  obtain ⟨hDefindex, hPaint, hTint, hType, _, _⟩ := CatalogIdentity.mk.inj hIdentity
  simp only [CatalogResolver.resolve, bind_of_ok hFound, bind_of_ok hFound', hDefindex, hPaint,
    hEnsure, hType, hFamilies, resolvedTintId, hTint]

theorem resolve_of_error {error : CatalogResolveError}
    (h : resolver.resolveCatalogItem item item.finishCatalog = .error error) :
    resolver.resolve item = .error error := by
  simp only [CatalogResolver.resolve, h]
  rfl

theorem error_of_paintedOnly {α : Type} {paintindex : UInt32} {value : Option α} {unpainted : α}
    {error other : CatalogResolveError}
    (h : paintedOnly paintindex value unpainted error = .error other) : error = other := by
  unfold paintedOnly at h
  split at h
  · exact (required_eq_error.mp h).2
  · cases h

/-- Only the lookup finds an item ambiguous. -/
theorem resolve_of_found_ne_ambiguous {name : String} {count : Nat}
    (h : resolver.resolveCatalogItem item item.finishCatalog = .ok entry) :
    resolver.resolve item ≠ .error (.ambiguousCatalogIdentity name count) := by
  intro hResolve
  simp only [CatalogResolver.resolve, bind_of_ok h, bind_eq_error, required_eq_error, reduceCtorEq,
    and_false, false_or] at hResolve
  obtain ⟨_, _, hTint | ⟨_, _, hFloat | ⟨_, _, hSeed | ⟨_, _, hEnsure | ⟨_, _, hDone⟩⟩⟩⟩⟩ :=
    hResolve
  · simp only [resolvedTintId] at hTint
    split at hTint <;> simp at hTint
  · cases error_of_paintedOnly hFloat
  · cases error_of_paintedOnly hSeed
  · simp only [ensureRepresentableItemDetail] at hEnsure
    split at hEnsure
    · cases hEnsure
    · split at hEnsure
      · cases hEnsure
      · split at hEnsure <;> cases hEnsure
  · cases hDone

end Found

section Order

variable {F : FloatFormat} {catalog : CatalogArtifact} {item : InventoryItem F}
  {items : List CatalogItem}

theorem oneCandidate_perm {name : String} {missing : CatalogResolveError}
    {candidates candidates' : List CatalogItem} (h : candidates.Perm candidates') :
    oneCandidate name missing candidates = oneCandidate name missing candidates' := by
  match candidates, candidates', h with
  | [], candidates', h => rw [List.nil_perm.mp h]
  | [_], candidates', h => rw [List.singleton_perm.mp h]
  | _ :: _ :: _, [], h => exact absurd h.length_eq (by simp)
  | _ :: _ :: _, [_], h => exact absurd h.length_eq (by simp)
  | _ :: _ :: _, _ :: _ :: _, h =>
      rw [oneCandidate, oneCandidate, h.length_eq] <;> simp

theorem oneCandidate_of_two {name : String} {missing : CatalogResolveError}
    {candidates : List CatalogItem} {a b : CatalogItem} (ha : a ∈ candidates)
    (hb : b ∈ candidates) (hNe : a ≠ b) :
    oneCandidate name missing candidates =
      .error (.ambiguousCatalogIdentity name candidates.length) := by
  match candidates, ha, hb with
  | [c], ha, hb =>
      exact absurd ((List.mem_singleton.mp ha).trans (List.mem_singleton.mp hb).symm) hNe
  | _ :: _ :: _, _, _ => rfl

/-- The catalog with its entries in another order. -/
def CatalogArtifact.reorder (catalog : CatalogArtifact) (items : List CatalogItem) :
    CatalogArtifact :=
  { catalog with items := items }

theorem exactMatches_reorder (h : items.Perm catalog.items) (name : String) :
    ((catalog.reorder items).exactMatches name).Perm (catalog.exactMatches name) :=
  h.filter _

theorem familyMatches_reorder (h : items.Perm catalog.items) :
    ((catalog.reorder items).familyMatches item).Perm (catalog.familyMatches item) :=
  h.filter _

theorem candidates_reorder (h : items.Perm catalog.items) :
    ((catalog.reorder items).candidates item).Perm (catalog.candidates item) := by
  have hExact := exactMatches_reorder h item.marketHashName
  have hFamily := @familyMatches_reorder F catalog item items h
  simp only [CatalogArtifact.candidates]
  cases item.finishCatalog with
  | none => exact hExact
  | some finish =>
      refine List.Perm.filter _ ?_
      simp only [ne_eq, eq_nil_iff_of_perm hExact]
      split
      · exact hExact
      · exact hFamily

theorem load_counts_reorder (h : items.Perm catalog.items) (key : UInt64) :
    ((CatalogResolver.load F (catalog.reorder items)).staticAttestationKeyCounts key).getD 0 =
      ((CatalogResolver.load F catalog).staticAttestationKeyCounts key).getD 0 := by
  rw [load_counts, load_counts]
  exact h.countP_eq _

theorem resolve_reorder_of_found {entry entry' : CatalogItem} (h : items.Perm catalog.items)
    (hFound : (catalog.reorder items).lookup item = .ok entry)
    (hFound' : catalog.lookup item = .ok entry')
    (hIdentity : entry.identity = entry'.identity)
    (hName : entry.marketHashName = entry'.marketHashName) :
    (CatalogResolver.load F (catalog.reorder items)).resolve item =
      (CatalogResolver.load F catalog).resolve item := by
  refine resolve_eq_of_found hFound hFound' hIdentity hName ?_ (load_counts_reorder h)
  rw [load_catalog, load_catalog]
  rfl

theorem resolve_reorder_of_lookup (h : items.Perm catalog.items)
    (hLookup : (catalog.reorder items).lookup item = catalog.lookup item) :
    (CatalogResolver.load F (catalog.reorder items)).resolve item =
      (CatalogResolver.load F catalog).resolve item := by
  cases hFound : catalog.lookup item with
  | error error => rw [resolve_of_error hFound, resolve_of_error (hLookup.trans hFound)]
  | ok entry => exact resolve_reorder_of_found h (hLookup.trans hFound) hFound rfl rfl

/-- Entries that the item's name and finish find have one identity. -/
def OneIdentity (catalog : CatalogArtifact) (item : InventoryItem F) : Prop :=
  ∀ finish, item.finishCatalog = some finish → ∀ a ∈ catalog.items, ∀ b ∈ catalog.items,
    a.marketHashName = item.marketHashName → b.marketHashName = item.marketHashName →
      a.paintindex = some finish → b.paintindex = some finish → a.identity = b.identity

/-- Without twins in the lookup by name and finish, no order changes the result. -/
theorem resolve_reorder (hOne : OneIdentity catalog item) (h : items.Perm catalog.items) :
    (CatalogResolver.load F (catalog.reorder items)).resolve item =
      (CatalogResolver.load F catalog).resolve item := by
  have hCandidates := @candidates_reorder F catalog item items h
  have hExact := exactMatches_reorder h item.marketHashName
  have hFamily := @familyMatches_reorder F catalog item items h
  cases hFinish : item.finishCatalog with
  | none =>
      apply resolve_reorder_of_lookup h
      rw [lookup_of_plain hFinish, lookup_of_plain hFinish, oneCandidate_perm hCandidates]
  | some finish =>
      by_cases hEmpty : catalog.exactMatches item.marketHashName = []
      · apply resolve_reorder_of_lookup h
        rw [lookup_of_family hFinish hEmpty,
          lookup_of_family hFinish ((eq_nil_iff_of_perm hExact).mpr hEmpty),
          oneCandidate_perm hCandidates]
        simp only [eq_nil_iff_of_perm hFamily]
      · have hFound := lookup_of_exact hFinish hEmpty
        have hFound' := lookup_of_exact hFinish (mt (eq_nil_iff_of_perm hExact).mp hEmpty)
        match hList : catalog.candidates item,
            hList' : (catalog.reorder items).candidates item with
        | [], [] =>
            apply resolve_reorder_of_lookup h
            rw [hFound, hFound', hList, hList']
        | [], _ :: _ | _ :: _, [] =>
            rw [hList, hList'] at hCandidates
            exact absurd hCandidates.length_eq (by simp)
        | a :: _, b :: _ =>
            -- the first candidates of both orders are candidates of the catalog
            have ha : a ∈ catalog.candidates item := hList ▸ List.mem_cons_self
            have hb : b ∈ catalog.candidates item :=
              hCandidates.mem_iff.mp (hList' ▸ List.mem_cons_self)
            obtain ⟨haMem, haName, haPaint⟩ := candidate_of_exact hFinish hEmpty ha
            obtain ⟨hbMem, hbName, hbPaint⟩ := candidate_of_exact hFinish hEmpty hb
            rw [hList] at hFound
            rw [hList'] at hFound'
            exact resolve_reorder_of_found h hFound' hFound
              (hOne finish hFinish b hbMem a haMem hbName haName hbPaint haPaint)
              (hbName.trans haName.symm)

/-- Without twins in the lookup by name and finish, every ambiguity is reported. -/
theorem resolve_ambiguous {a b : CatalogItem} (hOne : OneIdentity catalog item)
    (ha : a ∈ catalog.candidates item) (hb : b ∈ catalog.candidates item)
    (hNe : a.identity ≠ b.identity) :
    (CatalogResolver.load F catalog).resolve item =
      .error (.ambiguousCatalogIdentity item.marketHashName (catalog.candidates item).length) := by
  have hTwo : a ≠ b := fun hSame => hNe (congrArg _ hSame)
  apply resolve_of_error
  change catalog.lookup item = _
  cases hFinish : item.finishCatalog with
  | none => rw [lookup_of_plain hFinish, oneCandidate_of_two ha hb hTwo]
  | some finish =>
      by_cases hEmpty : catalog.exactMatches item.marketHashName = []
      · have hFamily : catalog.familyMatches item ≠ [] := by
          intro hNone
          simp [CatalogArtifact.candidates, hFinish, hEmpty, hNone] at ha
        rw [lookup_of_family hFinish hEmpty, if_neg hFamily, oneCandidate_of_two ha hb hTwo]
      · obtain ⟨haMem, haName, haPaint⟩ := candidate_of_exact hFinish hEmpty ha
        obtain ⟨hbMem, hbName, hbPaint⟩ := candidate_of_exact hFinish hEmpty hb
        exact absurd (hOne finish hFinish a haMem b hbMem haName hbName haPaint hbPaint) hNe

/-- No order of the catalog changes the result, and candidates of different
identities are reported as ambiguous. -/
def OrderLaw (F : FloatFormat) (catalog : CatalogArtifact) (item : InventoryItem F) : Prop :=
  (∀ items, items.Perm catalog.items →
    (CatalogResolver.load F (catalog.reorder items)).resolve item =
      (CatalogResolver.load F catalog).resolve item) ∧
  ((∃ a ∈ catalog.candidates item, ∃ b ∈ catalog.candidates item, a.identity ≠ b.identity) →
    ∃ count, (CatalogResolver.load F catalog).resolve item =
      .error (.ambiguousCatalogIdentity item.marketHashName count))

/-- The order is immaterial exactly when the entries of the item's name and finish
have one identity. -/
theorem orderLaw_iff : OrderLaw F catalog item ↔ OneIdentity catalog item := by
  constructor
  · rintro ⟨_, hAmbiguous⟩ finish hFinish a ha b hb haName hbName haPaint hbPaint
    by_contra hNe
    have haMem := mem_candidates_of_exact hFinish ha haName haPaint
    have hbMem := mem_candidates_of_exact hFinish hb hbName hbPaint
    obtain ⟨count, hError⟩ := hAmbiguous ⟨a, haMem, b, hbMem, hNe⟩
    have hExact : catalog.exactMatches item.marketHashName ≠ [] :=
      List.ne_nil_of_mem (List.mem_filter.mpr ⟨ha, decide_eq_true haName⟩)
    obtain ⟨first, rest, hList⟩ := List.exists_cons_of_ne_nil (List.ne_nil_of_mem haMem)
    have hFound := lookup_of_exact hFinish hExact
    rw [hList] at hFound
    exact resolve_of_found_ne_ambiguous hFound hError
  · intro hOne
    refine ⟨fun items h => resolve_reorder hOne h, ?_⟩
    rintro ⟨a, ha, b, hb, hNe⟩
    exact ⟨_, resolve_ambiguous hOne ha hb hNe⟩

end Order

def dopplerEntry (defindex : UInt32) : CatalogItem :=
  ⟨"★ Karambit | Doppler (Factory New)", some defindex, some 418, none, "knife", some "Karambit",
    some "Doppler", some "Factory New", false, false⟩

/-- One name and finish under two definition indexes. -/
def dopplerCatalog : CatalogArtifact where
  items := [dopplerEntry 507, dopplerEntry 508]
  specialClassification := []

def dopplerItem : InventoryItem sampleFloats :=
  ⟨"★ Karambit | Doppler (Factory New)", some "Factory New", false, false,
    some ⟨some (25000 : UInt64), some 412, some 418, none⟩⟩

/-- The first of the two entries is signed, whichever stands first. -/
theorem not_orderLaw_doppler : ¬OrderLaw sampleFloats dopplerCatalog dopplerItem := by
  rintro ⟨hOrder, _⟩
  have hSame := hOrder [dopplerEntry 508, dopplerEntry 507] (List.Perm.swap _ _ _)
  have hDefindex := congrArg (fun result => result.map (·.defindex)) hSame
  exact absurd hDefindex (by decide +kernel)

end SettlementOracle
