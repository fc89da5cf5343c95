import SettlementOracle.Checked.Decimal
import SettlementOracle.Checked.Index
import SettlementOracle.Inventory.ItemDetail

/-! The public inventory of a Steam user: the page format, the search for one
asset over the pages, and what is read off the asset's description and
properties. -/
namespace SettlementOracle

open Checked

def cs2AppId : Nat := 730

def cs2ContextId : Nat := 2

def itemsPerPage : Nat := 2000

def maxItemsScanned : Nat := 100000

def maxPages : Nat := (maxItemsScanned + itemsPerPage - 1) / itemsPerPage

inductive InventoryError where
  | privateInventory
  | assetNotFound (assetId : UInt64)
  | steamApiError (message : String)
  | requestFailed (message : String)
  deriving DecidableEq, Repr

structure TagEntry where
  category : String
  localizedTagName : String
  deriving DecidableEq, Repr

structure DescriptionEntry where
  classid : String
  instanceid : String
  marketHashName : Option String
  tags : List TagEntry
  deriving DecidableEq, Repr

structure AssetEntry where
  assetid : String
  classid : String
  instanceid : String
  deriving DecidableEq, Repr

structure AssetPropertyValue where
  propertyid : UInt32
  intValue : Option String
  floatValue : Option String
  stringValue : Option String
  deriving DecidableEq, Repr

structure AssetPropertiesEntry where
  assetid : String
  assetProperties : List AssetPropertyValue
  deriving DecidableEq, Repr

/-- A page of the inventory. The total count is not read. -/
structure InventoryResponse where
  assets : List AssetEntry
  descriptions : List DescriptionEntry
  assetProperties : List AssetPropertiesEntry
  moreItems : Option UInt32
  lastAssetid : Option String
  deriving DecidableEq, Repr

/-- The properties of one asset by their id. -/
abbrev PropertyMap := UInt32 → Option AssetPropertyValue

section Items

variable (F : FloatFormat)

structure SteamAssetEvidence where
  floatvalue : Option F.Value
  paintseed : Option UInt32
  finishCatalog : Option UInt32
  itemCertificate : Option String

structure InventoryItem where
  marketHashName : String
  exterior : Option String
  isStattrak : Bool
  isSouvenir : Bool
  steamEvidence : Option (SteamAssetEvidence F)

/-- `str::parse::<u32>`. -/
def parseU32 (text : String) : Option UInt32 :=
  (parseU64 text).bind fun value =>
    if value.toNat < UInt32.size then some value.toUInt32 else none

def startsWith (text word : String) : Bool := word.toList.isPrefixOf text.toList

def buildDescriptionMap (descriptions : List DescriptionEntry) :
    String × String → Option DescriptionEntry :=
  collect (descriptions.map fun description =>
    ((description.classid, description.instanceid), description))

/-- Assets without properties are skipped. -/
def buildAssetPropertyMap (assets : List AssetPropertiesEntry) : String → Option PropertyMap :=
  collect ((assets.filter fun asset => !asset.assetProperties.isEmpty).map fun asset =>
    (asset.assetid,
      collect (asset.assetProperties.map fun property => (property.propertyid, property))))

def extractExterior (tags : List TagEntry) : Option String :=
  (tags.find? fun tag => tag.category = "Exterior").map TagEntry.localizedTagName

/-- The category of the tag is not looked at. -/
def hasQualityTag (tags : List TagEntry) (localizedTagName : String) : Bool :=
  tags.any fun tag => tag.localizedTagName = localizedTagName

def extractSteamEvidence (properties : Option PropertyMap) : Option (SteamAssetEvidence F) :=
  properties.bind fun properties =>
    let evidence : SteamAssetEvidence F := {
      floatvalue := ((properties 2).bind AssetPropertyValue.floatValue).bind F.parse
      paintseed := ((properties 1).bind AssetPropertyValue.intValue).bind parseU32
      finishCatalog := ((properties 7).bind AssetPropertyValue.intValue).bind parseU32
      itemCertificate := (properties 6).bind AssetPropertyValue.stringValue }
    if evidence.floatvalue.isSome || evidence.paintseed.isSome || evidence.finishCatalog.isSome ||
        evidence.itemCertificate.isSome then
      some evidence
    else none

def buildInventoryItem (desc : DescriptionEntry) (properties : Option PropertyMap) :
    InventoryItem F :=
  let marketHashName := desc.marketHashName.getD ""
  { marketHashName
    exterior := extractExterior desc.tags
    isStattrak := startsWith marketHashName "StatTrak™ " || hasQualityTag desc.tags "StatTrak™"
    isSouvenir := startsWith marketHashName "Souvenir " || hasQualityTag desc.tags "Souvenir"
    steamEvidence := extractSteamEvidence F properties }

def inventoryUrl (steamId : UInt64) (startAssetid : Option String) : String :=
  s!"https://steamcommunity.com/inventory/{steamId}/{cs2AppId}/{cs2ContextId}?l=english&count=" ++
    toString itemsPerPage ++
    match startAssetid with
    | some cursor => "&start_assetid=" ++ cursor
    | none => ""

/-- What the page says about the asset, if it lists the asset. -/
def readAsset (assetId : UInt64) (inv : InventoryResponse) :
    Option (Except InventoryError (InventoryItem F)) :=
  (inv.assets.find? fun asset => asset.assetid = toString assetId).map fun asset =>
    match buildDescriptionMap inv.descriptions (asset.classid, asset.instanceid) with
    | none => .error (.steamApiError "Asset found but no matching description")
    | some desc =>
        .ok (buildInventoryItem F desc (buildAssetPropertyMap inv.assetProperties asset.assetid))

/-- The cursor of the next page. -/
def nextCursor (inv : InventoryResponse) : Option String :=
  if inv.moreItems = some 1 then inv.lastAssetid else none

/-- The loop over the pages. `fetch` is the answer to the given request of the
search, over its retries. -/
def findAssetFrom (fetch : Nat → String → Except InventoryError InventoryResponse)
    (steamId assetId : UInt64) : Nat → Option String → Except InventoryError (InventoryItem F)
  | 0, _ => .error (.steamApiError "Inventory pagination exceeded limit")
  | left + 1, startAssetid => do
      let inv ← fetch (maxPages - left) (inventoryUrl steamId startAssetid)
      match readAsset F assetId inv with
      | some found => found
      | none =>
          match nextCursor inv with
          | some last => findAssetFrom fetch steamId assetId left (some last)
          | none => .error (.assetNotFound assetId)

def findAsset (fetch : Nat → String → Except InventoryError InventoryResponse)
    (steamId assetId : UInt64) : Except InventoryError (InventoryItem F) :=
  findAssetFrom F fetch steamId assetId maxPages none

end Items

end SettlementOracle
