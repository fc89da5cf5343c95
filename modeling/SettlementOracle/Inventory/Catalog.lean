import SettlementOracle.Checked.Words
import SettlementOracle.Inventory.SteamInventory

/-! The attestation catalog and the resolution of an inventory item to one of its
entries. -/
namespace SettlementOracle

open Checked

structure CatalogItem where
  marketHashName : String
  defindex : Option UInt32
  paintindex : Option UInt32
  tintId : Option UInt32
  itemType : String
  weaponType : Option String
  patternName : Option String
  exterior : Option String
  statTrak : Bool
  souvenir : Bool
  deriving DecidableEq, Repr

inductive SpecialCatalogMatcher where
  | exact (value : String)
  | suffix (value : String)
  deriving DecidableEq, Repr

structure SpecialClassificationBucketDefinition where
  key : String
  patternTier : UInt32
  deriving DecidableEq, Repr

structure PaintIndexMapRuleSource where
  bucketKey : String
  paintIndexes : List UInt32
  deriving DecidableEq, Repr

structure SeedRange where
  min : UInt32
  max : UInt32
  deriving DecidableEq, Repr

structure PaintSeedRuleSourceDefinition where
  bucketKey : String
  seeds : List UInt32
  seedRanges : List SeedRange
  deriving DecidableEq, Repr

structure PaintSeedMapItemRuleSource where
  catalogMatchers : List SpecialCatalogMatcher
  defindexes : List UInt32
  paintIndex : Option UInt32
  rules : List PaintSeedRuleSourceDefinition
  deriving DecidableEq, Repr

inductive SpecialClassifierSource where
  | paintIndexMap (rules : List PaintIndexMapRuleSource)
  | paintSeedMap (items : List PaintSeedMapItemRuleSource)
  deriving DecidableEq, Repr

structure SpecialFamilyConfig where
  catalogMatchers : List SpecialCatalogMatcher
  buckets : List SpecialClassificationBucketDefinition
  classifier : SpecialClassifierSource
  deriving DecidableEq, Repr

/-- The versions of the artifact are only logged. -/
structure CatalogArtifact where
  items : List CatalogItem
  specialClassification : List SpecialFamilyConfig
  deriving DecidableEq, Repr

inductive CatalogResolveError where
  | catalogMiss (marketHashName : String)
  | unsupportedFinishCatalog (marketHashName : String) (finishCatalog : UInt32)
  | ambiguousCatalogIdentity (marketHashName : String) (candidateCount : Nat)
  | missingDefindex (marketHashName : String)
  | missingTintId (marketHashName : String)
  | missingFloatvalue (marketHashName : String)
  | missingPaintseed (marketHashName : String)
  | unrepresentableItemDetail (marketHashName : String) (conflictingCount : Nat)
  deriving DecidableEq, Repr

def CatalogResolveError.display : CatalogResolveError → String
  | .catalogMiss name => s!"No catalog identity found for '{name}'"
  | .unsupportedFinishCatalog name finishCatalog =>
      s!"Unsupported finish_catalog {finishCatalog} for '{name}'"
  | .ambiguousCatalogIdentity name count =>
      s!"Catalog identity for '{name}' is ambiguous ({count} candidates)"
  | .missingDefindex name => s!"Catalog item for '{name}' is missing defindex"
  | .missingTintId name => s!"Catalog item for '{name}' is missing tintId"
  | .missingFloatvalue name => s!"Missing floatvalue for painted item '{name}'"
  | .missingPaintseed name => s!"Missing paintseed for painted item '{name}'"
  | .unrepresentableItemDetail name count =>
      s!"Current itemDetail v1 cannot uniquely represent '{name}' " ++
        s!"({count} conflicting catalog items)"

section Names

def stripTrailingExterior (value : List Char) : List Char :=
  if value.getLast? = some ')' then (beforeLast " (".toList value).getD value else value

def stripVariantPrefixes (value : List Char) : List Char :=
  dropWord "Souvenir ".toList (dropWord "StatTrak™ ".toList value)

def collapseSpaces (value : List Char) : List Char :=
  List.intercalate [' '] (splitWhitespace value)

/-- The name without its exterior and its variant. -/
def baseName (marketHashName : String) : List Char :=
  trim isWhitespace (stripVariantPrefixes (stripTrailingExterior marketHashName.toList))

def toCatalogKey (marketHashName : String) : String :=
  String.ofList (collapseSpaces (baseName marketHashName))

def parseFamilyFromMarketHashName (marketHashName : String) : Option (String × String) :=
  match splitWord " | ".toList (baseName marketHashName) with
  | [] | [_] => none
  | weapon :: pattern =>
      let weaponName := trim isWhitespace (dropWords "★ ".toList (trim isWhitespace weapon))
      let patternName := trim isWhitespace (List.intercalate " | ".toList pattern)
      some (String.ofList weaponName, String.ofList patternName)

end Names

section PatternTiers

def matchesCatalogMatcher (catalogKey : String) : SpecialCatalogMatcher → Bool
  | .exact value => decide (catalogKey = value)
  | .suffix value => value.toList.isSuffixOf catalogKey.toList

def matchesSeedRule (rule : PaintSeedRuleSourceDefinition) (paintSeed : UInt32) : Bool :=
  rule.seeds.contains paintSeed ||
    rule.seedRanges.any fun range => decide (range.min ≤ paintSeed ∧ paintSeed ≤ range.max)

def matchesPaintSeedItemRule (rule : PaintSeedMapItemRuleSource) (catalogKey : String)
    (defindex paintIndex : UInt32) : Bool :=
  (rule.catalogMatchers.isEmpty || rule.catalogMatchers.any (matchesCatalogMatcher catalogKey)) &&
    (rule.defindexes.isEmpty || rule.defindexes.contains defindex) &&
    match rule.paintIndex with
    | some expected => decide (expected = paintIndex)
    | none => true

def SpecialFamilyConfig.bucketKey (family : SpecialFamilyConfig) (catalogKey : String)
    (defindex paintIndex paintSeed : UInt32) : Option String :=
  match family.classifier with
  | .paintIndexMap rules =>
      (rules.find? fun rule => rule.paintIndexes.contains paintIndex).map
        PaintIndexMapRuleSource.bucketKey
  | .paintSeedMap items =>
      (items.find? fun rule => matchesPaintSeedItemRule rule catalogKey defindex paintIndex).bind
        fun rule => (rule.rules.find? fun candidate => matchesSeedRule candidate paintSeed).map
          PaintSeedRuleSourceDefinition.bucketKey

def classifySpecialPatternTier (families : List SpecialFamilyConfig) (marketHashName : String)
    (defindex paintIndex paintSeed : UInt32) : UInt32 :=
  let catalogKey := toCatalogKey marketHashName
  let family := families.find? fun family =>
    family.catalogMatchers.any (matchesCatalogMatcher catalogKey)
  let bucket := family.bind fun family =>
    (family.bucketKey catalogKey defindex paintIndex paintSeed).bind fun bucketKey =>
      family.buckets.find? fun bucket => bucket.key = bucketKey
  (bucket.map SpecialClassificationBucketDefinition.patternTier).getD 0

end PatternTiers

structure FamilyKey where
  weaponType : String
  patternName : String
  exterior : String
  statTrak : Bool
  souvenir : Bool
  deriving DecidableEq, Repr

def FamilyKey.fromCatalogItem (item : CatalogItem) : Option FamilyKey := do
  let weaponType ← item.weaponType
  let patternName ← item.patternName
  let exterior ← item.exterior
  return ⟨weaponType, patternName, exterior, item.statTrak, item.souvenir⟩

/-- Steam's quality of an item with these flags. -/
def qualityFromFlags (souvenir statTrak : Bool) : UInt32 :=
  if souvenir then 12
  else if statTrak then 9
  else 4

def qualityFromCatalogItem (item : CatalogItem) : UInt32 :=
  qualityFromFlags item.souvenir item.statTrak

section Resolving

variable (F : FloatFormat)

def FamilyKey.fromInventoryItem (item : InventoryItem F) : Option FamilyKey := do
  let (weaponType, patternName) ← parseFamilyFromMarketHashName item.marketHashName
  let exterior ← item.exterior
  return ⟨weaponType, patternName, exterior, item.isStattrak, item.isSouvenir⟩

def qualityFromInventoryItem (item : InventoryItem F) : UInt32 :=
  qualityFromFlags item.isSouvenir item.isStattrak

/-- The detail that an unpainted entry is counted under. -/
def staticAttestationKeyForCatalogItem (item : CatalogItem) : Option UInt64 :=
  item.defindex.bind fun defindex =>
    let paintindex := item.paintindex.getD 0
    if 0 < paintindex then none
    else some (encodeItemDetailWithFlags F paintindex F.zero defindex 0
      (qualityFromCatalogItem item) (item.tintId.getD 0) 0
      (decide (item.itemType = "sticker_slab")))

/-- The indexes hold the entries themselves in place of their positions. -/
structure CatalogResolver where
  catalog : CatalogArtifact
  exactIndex : String → Option (List CatalogItem)
  familyIndex : FamilyKey → Option (List CatalogItem)
  staticAttestationKeyCounts : UInt64 → Option Nat

/-- One round of the loop of `load`. -/
def CatalogResolver.push (resolver : CatalogResolver) (item : CatalogItem) : CatalogResolver :=
  { resolver with
    exactIndex := pushEntry (fun item => some item.marketHashName) resolver.exactIndex item
    familyIndex := pushEntry FamilyKey.fromCatalogItem resolver.familyIndex item
    staticAttestationKeyCounts := countEntry (staticAttestationKeyForCatalogItem F)
      resolver.staticAttestationKeyCounts item }

def CatalogResolver.load (catalog : CatalogArtifact) : CatalogResolver :=
  catalog.items.foldl (CatalogResolver.push F)
    ⟨catalog, fun _ => none, fun _ => none, fun _ => none⟩

def ensureRepresentableItemDetail (catalogItem : CatalogItem)
    (staticAttestationKeyCounts : UInt64 → Option Nat) : Except CatalogResolveError Unit :=
  match staticAttestationKeyForCatalogItem F catalogItem with
  | none => .ok ()
  | some attestationKey =>
      if usesExtended (catalogItem.defindex.getD 0) (catalogItem.tintId.getD 0) then .ok ()
      else
        let conflictingCount := (staticAttestationKeyCounts attestationKey).getD 0
        if 1 < conflictingCount then
          .error (.unrepresentableItemDetail catalogItem.marketHashName conflictingCount)
        else .ok ()

structure ResolvedCatalogIdentity where
  marketHashName : String
  defindex : UInt32
  paintindex : UInt32
  tintId : UInt32
  itemType : String
  quality : UInt32
  floatvalue : F.Value
  paintseed : UInt32
  patternTier : UInt32
  isSlab : Bool
  finishCatalog : Option UInt32

/-- The match on the candidates of a lookup. `missing` answers an empty one. -/
def oneCandidate (marketHashName : String) (missing : CatalogResolveError) :
    List CatalogItem → Except CatalogResolveError CatalogItem
  | [candidate] => .ok candidate
  | [] => .error missing
  | many => .error (.ambiguousCatalogIdentity marketHashName many.length)

variable {F}

def InventoryItem.finishCatalog (item : InventoryItem F) : Option UInt32 :=
  item.steamEvidence.bind SteamAssetEvidence.finishCatalog

def CatalogResolver.resolveCatalogItem (resolver : CatalogResolver) (item : InventoryItem F)
    (finishCatalog : Option UInt32) : Except CatalogResolveError CatalogItem :=
  let name := item.marketHashName
  let exactCandidates := (resolver.exactIndex name).getD []
  match finishCatalog with
  | some finishCatalog =>
      if exactCandidates ≠ [] then
        match exactCandidates.find? fun candidate => candidate.paintindex = some finishCatalog with
        | some candidate => .ok candidate
        | none => .error (.unsupportedFinishCatalog name finishCatalog)
      else
        match (FamilyKey.fromInventoryItem F item).bind resolver.familyIndex with
        | none => .error (.catalogMiss name)
        | some familyCandidates =>
            oneCandidate name (.unsupportedFinishCatalog name finishCatalog)
              (familyCandidates.filter fun candidate => candidate.paintindex = some finishCatalog)
  | none => oneCandidate name (.catalogMiss name) exactCandidates

/-- `ok_or_else`. -/
def required {ε α : Type} (value : Option α) (error : ε) : Except ε α :=
  match value with
  | some a => .ok a
  | none => .error error

/-- Only graffiti are tinted. -/
def resolvedTintId (name : String) (catalogItem : CatalogItem) :
    Except CatalogResolveError UInt32 :=
  if catalogItem.itemType = "graffiti" then required catalogItem.tintId (.missingTintId name)
  else .ok 0

/-- Evidence that only a painted item has. -/
def paintedOnly {α : Type} (paintindex : UInt32) (value : Option α) (unpainted : α)
    (error : CatalogResolveError) : Except CatalogResolveError α :=
  if 0 < paintindex then required value error else .ok unpainted

def CatalogResolver.resolve (resolver : CatalogResolver) (item : InventoryItem F) :
    Except CatalogResolveError (ResolvedCatalogIdentity F) := do
  let name := item.marketHashName
  let catalogItem ← resolver.resolveCatalogItem item item.finishCatalog
  let defindex ← required catalogItem.defindex (.missingDefindex name)
  let paintindex := catalogItem.paintindex.getD 0
  let tintId ← resolvedTintId name catalogItem
  let floatvalue ← paintedOnly paintindex (item.steamEvidence.bind SteamAssetEvidence.floatvalue)
    F.zero (.missingFloatvalue name)
  let paintseed ← paintedOnly paintindex (item.steamEvidence.bind SteamAssetEvidence.paintseed) 0
    (.missingPaintseed name)
  ensureRepresentableItemDetail F catalogItem resolver.staticAttestationKeyCounts
  return {
    marketHashName := name
    defindex
    paintindex
    tintId
    itemType := catalogItem.itemType
    quality := qualityFromInventoryItem F item
    floatvalue
    paintseed
    patternTier := classifySpecialPatternTier resolver.catalog.specialClassification name defindex
      paintindex paintseed
    isSlab := decide (catalogItem.itemType = "sticker_slab")
    finishCatalog := item.finishCatalog }

def encodeResolvedItemDetail (resolved : ResolvedCatalogIdentity F) : UInt64 :=
  encodeItemDetailWithFlags F resolved.paintindex resolved.floatvalue resolved.defindex
    resolved.paintseed resolved.quality resolved.tintId resolved.patternTier resolved.isSlab

end Resolving

end SettlementOracle
