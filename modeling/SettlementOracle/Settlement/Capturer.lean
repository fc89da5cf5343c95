import SettlementOracle.Settlement.Soundness

/-! One trade offer seen by its two parties. The parties' views mirror each
other, and the engine decides alike on both. -/
namespace SettlementOracle

open Checked

/-- An offer between two accounts, with the items listed from the seller's side. -/
structure OfferRecord where
  tradeofferid : String
  state : UInt32
  sellerAccount : UInt64
  buyerAccount : UInt64
  sellerCreated : Bool
  sellerItems : Option (List TradeItem)
  buyerItems : Option (List TradeItem)

def OfferRecord.sellerView (offer : OfferRecord) : TradeOffer where
  tradeofferid := offer.tradeofferid
  tradeOfferState := offer.state
  accountidOther := offer.buyerAccount
  itemsToGive := offer.sellerItems
  itemsToReceive := offer.buyerItems
  isOurOffer := some offer.sellerCreated

def OfferRecord.buyerView (offer : OfferRecord) : TradeOffer where
  tradeofferid := offer.tradeofferid
  tradeOfferState := offer.state
  accountidOther := offer.sellerAccount
  itemsToGive := offer.buyerItems
  itemsToReceive := offer.sellerItems
  isOurOffer := some !offer.sellerCreated

/-- The escrow is between the two accounts of the offer. -/
structure EscrowParties (escrow : EscrowSnapshot) (offer : OfferRecord) : Prop where
  seller : escrow.sellerSteamId = offer.sellerAccount + steam64Offset
  buyer : escrow.buyerSteamId = offer.buyerAccount + steam64Offset
  distinct : offer.sellerAccount ≠ offer.buyerAccount

/-- Data read from the seller's view and from the buyer's view of one offer. -/
structure MirroredData (escrow : EscrowSnapshot) (sellerData buyerData : TradeOfferData) : Prop where
  sellerPartner : sellerData.partnerSteamId = escrow.buyerSteamId
  buyerPartner : buyerData.partnerSteamId = escrow.sellerSteamId
  distinct : escrow.sellerSteamId ≠ escrow.buyerSteamId
  tradeOfferId : buyerData.tradeOfferId = sellerData.tradeOfferId
  state : buyerData.state = sellerData.state
  asset : buyerData.assetToReceive = sellerData.assetToGive
  creator : buyerData.isOurOffer = !sellerData.isOurOffer

/-- Whoever captured the offer, the same item list is read and the same party
is found to have created it. -/
theorem offerReason_mirrored {escrow : EscrowSnapshot} {sellerData buyerData : TradeOfferData}
    (h : MirroredData escrow sellerData buyerData) :
    offerReason escrow buyerData = offerReason escrow sellerData := by
  have hSeller : determineSellerCreatedOffer true sellerData.isOurOffer =
      determineSellerCreatedOffer false buyerData.isOurOffer := by
    simp [determineSellerCreatedOffer, h.creator]
  unfold offerReason capturedAsset
  rw [h.sellerPartner, h.buyerPartner, h.state, h.asset, beq_self_eq_true,
    beq_eq_false_iff_ne.mpr h.distinct, hSeller]
  simp [h.distinct]

theorem judgeTradeOffer_mirrored {escrow : EscrowSnapshot} {sellerData buyerData : TradeOfferData}
    (h : MirroredData escrow sellerData buyerData) (requestId : Option UInt64) :
    judgeTradeOffer escrow requestId sellerData = judgeTradeOffer escrow requestId buyerData := by
  rw [judgeTradeOffer_eq, judgeTradeOffer_eq, offerReason_mirrored h, h.tradeOfferId, h.state]

theorem mirroredData_of_views {escrow : EscrowSnapshot} {offer : OfferRecord}
    (hParties : EscrowParties escrow offer) (id : UInt64) :
    MirroredData escrow (offer.sellerView.data id) (offer.buyerView.data id) where
  sellerPartner := hParties.buyer.symm
  buyerPartner := hParties.seller.symm
  distinct := by
    rw [hParties.seller, hParties.buyer]
    exact fun h => hParties.distinct ((UInt64.add_left_inj _).mp h)
  tradeOfferId := rfl
  state := rfl
  asset := rfl
  creator := rfl

section Externals

variable (ext : Externals)

/-- Replies to the two parties that carry the two views. Where the request is for
another document, none of the two is one: neither lists trades for `GetTradeStatus`,
and neither shows a page marker that the other lacks. -/
structure MirroredReplies (serverName : String) (request : List UInt8) (offer : OfferRecord)
    (sellerReply buyerReply : List UInt8) (sellerBody buyerBody : Text) : Prop where
  sellerBody_eq : extractHttpBody ext.inflate sellerReply = .ok sellerBody
  buyerBody_eq : extractHttpBody ext.inflate buyerReply = .ok buyerBody
  sellerDocument : OfferDocument ext sellerBody offer.sellerView
  buyerDocument : OfferDocument ext buyerBody offer.buyerView
  sellerNoTrades : admittedSource serverName request = .ok .tradeStatus →
    ext.tradeStatusFromStr sellerBody = .ok ⟨⟨none⟩⟩
  buyerNoTrades : admittedSource serverName request = .ok .tradeStatus →
    ext.tradeStatusFromStr buyerBody = .ok ⟨⟨none⟩⟩
  markers : admittedSource serverName request = .ok .community → ∀ marker ∈ [errorTitle, notExist, belongsOther, signIn, steamIdMarker],
    marker <:+: sellerBody.bytes ↔ marker <:+: buyerBody.bytes

variable {ext} {serverName : String} {request : List UInt8} {offer : OfferRecord}
  {sellerReply buyerReply : List UInt8} {sellerBody buyerBody : Text}

theorem decideTradeOffer_views {escrow : EscrowSnapshot}
    (hReplies : MirroredReplies ext serverName request offer sellerReply buyerReply sellerBody
      buyerBody)
    (hParties : EscrowParties escrow offer) :
    decideTradeOffer ext request sellerBody escrow = decideTradeOffer ext request buyerBody escrow := by
  have hSeller : ext.tradeOfferFromStr sellerBody = _ := hReplies.sellerDocument
  have hBuyer : ext.tradeOfferFromStr buyerBody = _ := hReplies.buyerDocument
  simp only [decideTradeOffer, parseTradeOffer, fromStr, hSeller, hBuyer, ok_bind, okOr_some,
    extractTradeOfferIdFromRequest_eq]
  -- the identifier is the same text in both views, so both runs fail or go on together
  have hId : offer.buyerView.tradeofferid = offer.sellerView.tradeofferid := rfl
  rw [hId]
  cases parseU64 offer.sellerView.tradeofferid with
  | none => simp only [okOr_none, fail_bind]
  | some id =>
      simp only [okOr_some, ok_bind, mapErr_ok]
      exact judgeTradeOffer_mirrored (mirroredData_of_views hParties id) _

theorem decideTradeStatus_views (escrow : EscrowSnapshot) (proofTimestamp : UInt64)
    (hReplies : MirroredReplies ext serverName request offer sellerReply buyerReply sellerBody
      buyerBody)
    (hSource : admittedSource serverName request = .ok .tradeStatus) :
    decideTradeStatus ext sellerBody escrow proofTimestamp =
      decideTradeStatus ext buyerBody escrow proofTimestamp := by
  simp [decideTradeStatus, parseTradeStatus, fromStr, hReplies.sellerNoTrades hSource,
    hReplies.buyerNoTrades hSource]

theorem decideCommunity_views (escrow : EscrowSnapshot) (proofTimestamp : UInt64)
    (hReplies : MirroredReplies ext serverName request offer sellerReply buyerReply sellerBody
      buyerBody)
    (hSource : admittedSource serverName request = .ok .community) :
    decideCommunity ext request sellerReply escrow proofTimestamp =
      decideCommunity ext request buyerReply escrow proofTimestamp := by
  have hMarkers := hReplies.markers hSource
  simp only [List.forall_mem_cons, List.not_mem_nil, false_implies, implies_true, and_true]
    at hMarkers
  obtain ⟨hTitle, hNotExist, hBelongs, hSignIn, hSteamId⟩ := hMarkers
  simp only [decideCommunity, parseCommunityHtml_eq, hReplies.sellerBody_eq, hReplies.buyerBody_eq,
    ok_bind, hTitle, hNotExist, hBelongs, hSignIn, hSteamId]

/-- The decision does not depend on which party captured the offer. -/
theorem decide_views_eq {escrow : EscrowSnapshot}
    (hParties : EscrowParties escrow offer)
    (hReplies : MirroredReplies ext serverName request offer sellerReply buyerReply sellerBody
      buyerBody)
    (proofTimestamp : UInt64) :
    Oracle.decide ext serverName request sellerReply escrow proofTimestamp =
      Oracle.decide ext serverName request buyerReply escrow proofTimestamp := by
  unfold Oracle.decide
  rw [hReplies.sellerBody_eq, hReplies.buyerBody_eq]
  cases hSource : admittedSource serverName request with
  | error => rfl
  | ok source =>
      simp only [mapErr_ok, ok_bind]
      cases source with
      | tradeOffer => exact decideTradeOffer_views hReplies hParties
      | tradeStatus => exact decideTradeStatus_views escrow proofTimestamp hReplies hSource
      | community => exact decideCommunity_views escrow proofTimestamp hReplies hSource

end Externals

/-- An offer that the seller made and the buyer let expire. -/
def expiredOffer : OfferRecord where
  tradeofferid := "8653813160"
  state := 5
  sellerAccount := 405752552
  buyerAccount := 444017009
  sellerCreated := true
  sellerItems := some [⟨730, "40964044588"⟩]
  buyerItems := none

def sellerJson : Text where
  bytes := ascii "\x7b\"response\":\x7b\"offer\":\x7b\"tradeofferid\":\"8653813160\"," ++
    ascii "\"trade_offer_state\":5,\"accountid_other\":444017009,\"is_our_offer\":true," ++
    ascii "\"items_to_give\":[\x7b\"appid\":730,\"assetid\":\"40964044588\"\x7d]\x7d\x7d\x7d"
  valid := by decide +kernel

def buyerJson : Text where
  bytes := ascii "\x7b\"response\":\x7b\"offer\":\x7b\"tradeofferid\":\"8653813160\"," ++
    ascii "\"trade_offer_state\":5,\"accountid_other\":405752552,\"is_our_offer\":false," ++
    ascii "\"items_to_receive\":[\x7b\"appid\":730,\"assetid\":\"40964044588\"\x7d]\x7d\x7d\x7d"
  valid := by decide +kernel

/-- A deserializer that knows the two documents. -/
def viewExternals : Externals where
  inflate := fun _ => none
  tradeOfferFromStr := fun text =>
    if text = sellerJson then .ok ⟨⟨some expiredOffer.sellerView⟩⟩
    else if text = buyerJson then .ok ⟨⟨some expiredOffer.buyerView⟩⟩
    else .error "expected value at line 1 column 1"
  tradeStatusFromStr := fun text =>
    if text = sellerJson ∨ text = buyerJson then .ok ⟨⟨none⟩⟩
    else .error "expected value at line 1 column 1"

theorem decide_views_eq_expired :
    Oracle.decide viewExternals steamApiHost offerRequest (okResponse sellerJson.bytes) sampleEscrow
        sampleNow =
      Oracle.decide viewExternals steamApiHost offerRequest (okResponse buyerJson.bytes)
        sampleEscrow sampleNow ∧
    Oracle.decide viewExternals steamApiHost offerRequest (okResponse buyerJson.bytes) sampleEscrow
      sampleNow = .ok (sampleEscrow.refund .buyerExpired) := by
  have hParties : EscrowParties sampleEscrow expiredOffer := ⟨by decide, by decide, by decide⟩
  have hSource : admittedSource steamApiHost offerRequest = .ok .tradeOffer := by
    decide +kernel
  have hReplies : MirroredReplies viewExternals steamApiHost offerRequest expiredOffer
      (okResponse sellerJson.bytes) (okResponse buyerJson.bytes) sellerJson buyerJson :=
    { sellerBody_eq := by decide +kernel
      buyerBody_eq := by decide +kernel
      sellerDocument := by unfold OfferDocument; decide +kernel
      buyerDocument := by unfold OfferDocument; decide +kernel
      sellerNoTrades := fun hStatus => by cases hSource.symm.trans hStatus
      buyerNoTrades := fun hStatus => by cases hSource.symm.trans hStatus
      markers := fun hCommunity => by cases hSource.symm.trans hCommunity }
  exact ⟨decide_views_eq hParties hReplies _, by decide +kernel⟩

end SettlementOracle
