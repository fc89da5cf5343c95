import SettlementOracle.Settlement.Parsing.Response

/-! Steam's JSON documents. The deserializer is outside the program; it is a
pair of arbitrary functions from text to documents or error messages. -/
namespace SettlementOracle

open Checked

structure TradeItem where
  appid : UInt32
  assetid : String
  deriving DecidableEq, Repr

structure TradeOffer where
  tradeofferid : String
  tradeOfferState : UInt32
  accountidOther : UInt64
  itemsToGive : Option (List TradeItem)
  itemsToReceive : Option (List TradeItem)
  isOurOffer : Option Bool
  deriving DecidableEq, Repr

structure GetTradeOfferInner where
  offer : Option TradeOffer
  deriving DecidableEq, Repr

structure GetTradeOfferResponse where
  response : GetTradeOfferInner
  deriving DecidableEq, Repr

structure TradeStatusAsset where
  appid : UInt32
  assetid : String
  deriving DecidableEq, Repr

structure TradeStatusEntry where
  status : UInt32
  steamidOther : Option String
  assetsGiven : Option (List TradeStatusAsset)
  assetsReceived : Option (List TradeStatusAsset)
  timeSettlement : Option UInt64
  deriving DecidableEq, Repr

structure GetTradeStatusInner where
  trades : Option (List TradeStatusEntry)
  deriving DecidableEq, Repr

structure GetTradeStatusResponse where
  response : GetTradeStatusInner
  deriving DecidableEq, Repr

/-- The routines of other crates that the parsers call. -/
structure Externals where
  inflate : List UInt8 → Option (List UInt8)
  tradeOfferFromStr : Text → Except String GetTradeOfferResponse
  tradeStatusFromStr : Text → Except String GetTradeStatusResponse

def fromStr {α : Type} (reader : Text → Except String α) (label : String) (json : Text) :
    Exec ParseError α :=
  match reader json with
  | .ok document => .ok document
  | .error message => fail (.jsonParse (label ++ message))

/-- The first CS2 entry (appid 730) with a numeric asset id. -/
def firstCs2 {α : Type} (appid : α → UInt32) (assetid : α → String) (items : Option (List α)) :
    Option UInt64 :=
  items.bind fun list => list.findSome? fun item =>
    if appid item = 730 then parseU64 (assetid item) else none

def firstCs2Assetid (items : Option (List TradeItem)) : Option UInt64 :=
  firstCs2 TradeItem.appid TradeItem.assetid items

def firstCs2StatusAssetid (items : Option (List TradeStatusAsset)) : Option UInt64 :=
  firstCs2 TradeStatusAsset.appid TradeStatusAsset.assetid items

/-- The data taken from an offer. The partner's Steam64 id is computed in `u64`
and wraps in a release build. -/
def TradeOffer.data (offer : TradeOffer) (tradeOfferId : UInt64) : TradeOfferData where
  state := offer.tradeOfferState
  tradeOfferId := tradeOfferId
  partnerSteamId := offer.accountidOther + steam64Offset
  assetToGive := firstCs2Assetid offer.itemsToGive
  assetToReceive := firstCs2Assetid offer.itemsToReceive
  isOurOffer := offer.isOurOffer.getD false

def TradeStatusEntry.data (trade : TradeStatusEntry) : TradeStatusData where
  status := trade.status
  partnerSteamId := trade.steamidOther.bind parseU64
  assetIdGiven := firstCs2StatusAssetid trade.assetsGiven
  assetId := (firstCs2StatusAssetid trade.assetsReceived).or
    (firstCs2StatusAssetid trade.assetsGiven)
  timeSettlement := trade.timeSettlement

section Externals

variable (ext : Externals)

def parseTradeOffer (json : Text) : Exec ParseError TradeOfferData := do
  let resp ← fromStr ext.tradeOfferFromStr "GetTradeOffer JSON: " json
  let offer ← okOr resp.response.offer .tradeNotFound
  let tradeOfferId ← okOr (parseU64 offer.tradeofferid) .missingTradeOfferId
  .ok (offer.data tradeOfferId)

def parseTradeStatus (json : Text) : Exec ParseError TradeStatusData := do
  let resp ← fromStr ext.tradeStatusFromStr "GetTradeStatus JSON: " json
  let trades ← okOr resp.response.trades .tradeNotFound
  let trade ← okOr trades.head? .tradeNotFound
  .ok trade.data

/-- The text deserializes to a `GetTradeOffer` document that carries the offer. -/
def OfferDocument (json : Text) (offer : TradeOffer) : Prop :=
  ext.tradeOfferFromStr json = .ok ⟨⟨some offer⟩⟩

/-- The text deserializes to a `GetTradeStatus` document whose first trade is given. -/
def StatusDocument (json : Text) (trade : TradeStatusEntry) : Prop :=
  ∃ others, ext.tradeStatusFromStr json = .ok ⟨⟨some (trade :: others)⟩⟩

theorem fromStr_eq_ok_iff {α : Type} {reader : Text → Except String α} {label : String} {json : Text}
    {document : α} : fromStr reader label json = .ok document ↔ reader json = .ok document := by
  unfold fromStr
  cases reader json <;> simp

@[simp] theorem safe_fromStr {α : Type} (reader : Text → Except String α) (label : String)
    (json : Text) : Safe (fromStr reader label json) := by
  unfold fromStr
  cases reader json <;> simp

theorem parseTradeOffer_eq_ok_iff {json : Text} {data : TradeOfferData} :
    parseTradeOffer ext json = .ok data ↔
      ∃ offer id, OfferDocument ext json offer ∧ parseU64 offer.tradeofferid = some id ∧
        data = offer.data id := by
  unfold parseTradeOffer OfferDocument
  simp only [bind_eq_ok, okOr_eq_ok, fromStr_eq_ok_iff, Except.ok.injEq]
  constructor
  · rintro ⟨⟨⟨_⟩⟩, hDocument, offer, rfl, id, hId, rfl⟩
    exact ⟨offer, id, hDocument, hId, rfl⟩
  · rintro ⟨offer, id, hDocument, hId, rfl⟩
    exact ⟨_, hDocument, offer, rfl, id, hId, rfl⟩

theorem parseTradeStatus_eq_ok_iff {json : Text} {data : TradeStatusData} :
    parseTradeStatus ext json = .ok data ↔
      ∃ trade, StatusDocument ext json trade ∧ data = trade.data := by
  unfold parseTradeStatus StatusDocument
  simp only [bind_eq_ok, okOr_eq_ok, fromStr_eq_ok_iff, Except.ok.injEq]
  constructor
  · rintro ⟨⟨⟨_⟩⟩, hDocument, trades, rfl, trade, hHead, rfl⟩
    obtain ⟨others, rfl⟩ := List.head?_eq_some_iff.mp hHead
    exact ⟨trade, ⟨others, hDocument⟩, rfl⟩
  · rintro ⟨trade, ⟨others, hDocument⟩, rfl⟩
    exact ⟨_, hDocument, trade :: others, rfl, trade, rfl, rfl⟩

theorem safe_parseTradeOffer (json : Text) : Safe (parseTradeOffer ext json) := by
  simp [parseTradeOffer, safe_bind_iff]

theorem safe_parseTradeStatus (json : Text) : Safe (parseTradeStatus ext json) := by
  simp [parseTradeStatus, safe_bind_iff]

end Externals

/-- The listed item is a CS2 entry with this asset id. -/
def Cs2Entry {α : Type} (appid : α → UInt32) (assetid : α → String) (item : α) (id : UInt64) : Prop :=
  appid item = 730 ∧ parseU64 (assetid item) = some id

theorem firstCs2_eq_some_iff {α : Type} {appid : α → UInt32} {assetid : α → String}
    {items : Option (List α)} {id : UInt64} :
    firstCs2 appid assetid items = some id ↔
      ∃ before item after, items = some (before ++ item :: after) ∧
        Cs2Entry appid assetid item id ∧ ∀ other ∈ before, ∀ id', ¬Cs2Entry appid assetid other id' := by
  have hEntry : ∀ item id, (if appid item = 730 then parseU64 (assetid item) else none) = some id ↔
      Cs2Entry appid assetid item id := by
    intro item id
    unfold Cs2Entry
    split_ifs with hApp <;> simp [hApp]
  unfold firstCs2
  rw [Option.bind_eq_some_iff]
  simp only [List.findSome?_eq_some_iff, hEntry, Option.eq_none_iff_forall_ne_some, ne_eq]
  constructor
  · rintro ⟨list, hItems, before, item, after, rfl, hItem, hBefore⟩
    exact ⟨before, item, after, hItems, hItem, hBefore⟩
  · rintro ⟨before, item, after, hItems, hItem, hBefore⟩
    exact ⟨_, hItems, before, item, after, rfl, hItem, hBefore⟩

/-- A selected asset is listed. -/
theorem mem_of_firstCs2 {α : Type} {appid : α → UInt32} {assetid : α → String}
    {items : Option (List α)} {id : UInt64} (h : firstCs2 appid assetid items = some id) :
    ∃ list, items = some list ∧ ∃ item ∈ list, Cs2Entry appid assetid item id := by
  obtain ⟨before, item, after, hItems, hItem, _⟩ := firstCs2_eq_some_iff.mp h
  exact ⟨_, hItems, item, by simp, hItem⟩

end SettlementOracle
