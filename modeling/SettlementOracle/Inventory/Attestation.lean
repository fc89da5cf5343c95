import SettlementOracle.Checked.Ledger
import SettlementOracle.Checked.Transition
import SettlementOracle.Inventory.Resolution
import SettlementOracle.Server.Messages
import SettlementOracle.Settlement.Signer

/-! The attestation endpoint as a state machine over its cache. A request moves
through its cache lookup, the fetch of the inventory, the resolution, the signature
and the insertion, and any number of requests run at once. -/
namespace SettlementOracle

open Checked

inductive AttestationStatus where
  | badRequest
  | notFound
  | unprocessableEntity
  | internalServerError
  | badGateway
  deriving DecidableEq, Repr

structure AttestationError where
  errorCode : String
  status : AttestationStatus
  message : String
  deriving DecidableEq, Repr

def describeInventoryError : InventoryError → AttestationError
  | .privateInventory => ⟨"PRIVATE_INVENTORY", .badRequest, "Steam inventory is private"⟩
  | .assetNotFound assetId =>
      ⟨"ASSET_NOT_FOUND", .notFound, s!"Asset {assetId} not found in inventory"⟩
  | .steamApiError message =>
      ⟨"INVENTORY_FETCH_FAILED", .badGateway, s!"Steam inventory API error: {message}"⟩
  | .requestFailed message =>
      ⟨"INVENTORY_FETCH_FAILED", .badGateway, s!"Failed to fetch Steam inventory: {message}"⟩

def describeCatalogError (error : CatalogResolveError) : AttestationError :=
  match error with
  | .catalogMiss _ => ⟨"CATALOG_MISS", .badRequest, error.display⟩
  | .unsupportedFinishCatalog _ _ => ⟨"UNSUPPORTED_FINISH_CATALOG", .badRequest, error.display⟩
  | .ambiguousCatalogIdentity _ _ => ⟨"AMBIGUOUS_IDENTITY", .badRequest, error.display⟩
  | .missingDefindex _ | .missingTintId _ | .missingFloatvalue _ | .missingPaintseed _ =>
      ⟨"EVIDENCE_INCOMPLETE", .unprocessableEntity, error.display⟩
  | .unrepresentableItemDetail _ _ =>
      ⟨"UNSUPPORTED_ITEM_DETAIL", .unprocessableEntity, error.display⟩

def signingFailed : AttestationError :=
  ⟨"SIGNING_FAILED", .internalServerError, "Failed to sign item attestation"⟩

/-- The inventory owner and the asset of a request. -/
abbrev Subject := UInt64 × UInt64

def cacheKey (subject : Subject) : String := toString subject.1 ++ ":" ++ toString subject.2

section Responses

variable (F : FloatFormat)

structure EvidenceSummary where
  marketHashName : String
  defindex : UInt32
  paintindex : UInt32
  tintId : Option UInt32
  itemType : String
  quality : UInt32
  floatvalue : Option F.Value
  paintseed : Option UInt32
  finishCatalog : Option UInt32
  patternTier : UInt32
  isSlab : Bool

structure InventoryAttestationSuccess where
  assetId : String
  itemDetail : String
  oracleAttestation : String
  evidenceSummary : EvidenceSummary F

structure CachedInventoryAttestation where
  response : InventoryAttestationSuccess F
  insertedAt : Nat

/-- What the handler is made of. The time to live is in the unit of the clock. -/
structure InventoryAttestationState where
  resolver : CatalogResolver
  keccak256 : List UInt8 → B256
  signer : OracleSigner
  ttl : Nat

variable {F}

def buildAttestationResponse (service : InventoryAttestationState) (assetId : UInt64)
    (resolved : ResolvedCatalogIdentity F) : Except String (InventoryAttestationSuccess F) :=
  let itemDetail := encodeResolvedItemDetail resolved
  (service.signer.signItemAttestation service.keccak256 assetId itemDetail).map fun attestation =>
    { assetId := toString assetId
      itemDetail := toString itemDetail
      oracleAttestation := "0x" ++ hexEncode attestation
      evidenceSummary := {
        marketHashName := resolved.marketHashName
        defindex := resolved.defindex
        paintindex := resolved.paintindex
        tintId := if 0 < resolved.tintId then some resolved.tintId else none
        itemType := resolved.itemType
        quality := resolved.quality
        floatvalue := if 0 < resolved.paintindex then some resolved.floatvalue else none
        paintseed := if 0 < resolved.paintindex then some resolved.paintseed else none
        finishCatalog := resolved.finishCatalog
        patternTier := resolved.patternTier
        isSlab := resolved.isSlab } }

end Responses

section Machine

variable (F : FloatFormat)

/-- A request. Its response comes from the cache when it is `served`, and is its
own when it is `inserted`. The entry is `stamped` before the cache is locked. -/
inductive AttestPhase where
  | arrived
  | served (response : InventoryAttestationSuccess F)
  | fetching
  | fetched (item : InventoryItem F)
  | identified (resolved : ResolvedCatalogIdentity F)
  | signed (response : InventoryAttestationSuccess F)
  | stamped (entry : CachedInventoryAttestation F)
  | inserted (entry : CachedInventoryAttestation F)
  | failed (error : AttestationError)
  | abandoned

inductive AttestEvent where
  | lookUp
  | endFetch (fetch : Nat → String → Except InventoryError InventoryResponse)
  | resolve
  | sign
  | stamp
  | insert
  | disconnect

abbrev CacheEntries := String → Option (CachedInventoryAttestation F)

variable {F}

/-- `InventoryAttestationCache::get`. An entry that is too old is popped. -/
def CacheEntries.get (entries : CacheEntries F) (ttl now : Nat) (key : String) :
    Option (InventoryAttestationSuccess F) × CacheEntries F :=
  match entries key with
  | none => (none, entries)
  | some entry =>
      if ttl < now - entry.insertedAt then (none, Function.update entries key none)
      else (some entry.response, entries)

variable (service : InventoryAttestationState) (now : Nat)

/-- One move of `attest_handler`. A client may leave where the handler waits. -/
def AttestPhase.step (entries : CacheEntries F) (subject : Subject) :
    AttestPhase F → AttestEvent → Option (AttestPhase F × CacheEntries F)
  | .arrived, .lookUp =>
      match entries.get service.ttl now (cacheKey subject) with
      | (some cached, entries') => some (.served cached, entries')
      | (none, entries') => some (.fetching, entries')
  | .fetching, .endFetch fetch =>
      match findAsset F fetch subject.1 subject.2 with
      | .ok item => some (.fetched item, entries)
      | .error error => some (.failed (describeInventoryError error), entries)
  | .fetched item, .resolve =>
      match service.resolver.resolve item with
      | .ok resolved => some (.identified resolved, entries)
      | .error error => some (.failed (describeCatalogError error), entries)
  | .identified resolved, .sign =>
      match buildAttestationResponse service subject.2 resolved with
      | .ok response => some (.signed response, entries)
      | .error _ => some (.failed signingFailed, entries)
  | .signed response, .stamp => some (.stamped ⟨response, now⟩, entries)
  | .stamped entry, .insert =>
      some (.inserted entry, Function.update entries (cacheKey subject) (some entry))
  | .fetching, .disconnect => some (.abandoned, entries)
  | .identified _, .disconnect => some (.abandoned, entries)
  | _, _ => none

end Machine

structure AttestState (F : FloatFormat) where
  now : Nat
  entries : CacheEntries F
  requests : List (Party Subject (AttestPhase F))

def AttestState.start (F : FloatFormat) : AttestState F where
  now := 0
  entries := fun _ => none
  requests := []

/-- The cache is a bounded map, which may drop any entry at any time. -/
inductive AttestAction where
  | tick (elapsed : Nat)
  | evict (key : String)
  | attest (subject : Subject)
  | stepAttest (index : Nat) (event : AttestEvent)

def attestStep {F : FloatFormat} (service : InventoryAttestationState) (s : AttestState F) :
    AttestAction → Option (AttestState F)
  | .tick elapsed => some { s with now := s.now + elapsed }
  | .evict key => some { s with entries := Function.update s.entries key none }
  | .attest subject => some { s with requests := s.requests ++ [⟨subject, .arrived⟩] }
  | .stepAttest index event => do
      let request ← s.requests[index]?
      let (phase, entries) ← request.phase.step service s.now s.entries request.key event
      some { s with requests := s.requests.set index ⟨request.key, phase⟩, entries }

end SettlementOracle
