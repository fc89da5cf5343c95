import SettlementOracle.Settlement.Soundness

/-! Which asset of a list the engine looks at. The parsers keep the first CS2
asset of each list, so a bundle is judged by the entry that leads it. -/
namespace SettlementOracle

open Checked

section Lists

variable {α : Type} {appid : α → UInt32} {assetid : α → String} {items : Option (List α)}
  {id : UInt64}

/-- The list is present and has an entry for this CS2 asset, at any position. -/
def Lists (appid : α → UInt32) (assetid : α → String) (items : Option (List α)) (id : UInt64) : Prop :=
  ∃ list, items = some list ∧ ∃ item ∈ list, Cs2Entry appid assetid item id

/-- The asset is listed, and no CS2 entry in front of it has another id. -/
def Leads (appid : α → UInt32) (assetid : α → String) (items : Option (List α)) (id : UInt64) : Prop :=
  ∃ before item after, items = some (before ++ item :: after) ∧ Cs2Entry appid assetid item id ∧
    ∀ other ∈ before, ∀ id', Cs2Entry appid assetid other id' → id' = id

theorem firstCs2_eq_some_iff_leads :
    firstCs2 appid assetid items = some id ↔ Leads appid assetid items id := by
  constructor
  · intro h
    obtain ⟨before, item, after, hItems, hItem, hBefore⟩ := firstCs2_eq_some_iff.mp h
    exact ⟨before, item, after, hItems, hItem, fun other hOther id' hId =>
      absurd hId (hBefore other hOther id')⟩
  · rintro ⟨before, item, after, rfl, ⟨hApp, hId⟩, hBefore⟩
    -- an entry in front of the asset is skipped, or it already is the asset
    induction before with
    | nil => simp [firstCs2, hApp, hId]
    | cons head before ih =>
        have hRest := ih fun other hOther => hBefore other (List.mem_cons_of_mem head hOther)
        have hHead := hBefore head List.mem_cons_self
        simp only [firstCs2, Option.bind_some, List.cons_append, List.findSome?_cons] at hRest ⊢
        split
        · rename_i found hFound
          split_ifs at hFound with hHeadApp
          rw [hHead found ⟨hHeadApp, hFound⟩]
        · exact hRest

theorem firstCs2_eq_none_iff :
    firstCs2 appid assetid items = none ↔ ∀ id, ¬Lists appid assetid items id := by
  constructor
  · rintro h id ⟨list, rfl, item, hItem, hApp, hId⟩
    have hNone := List.findSome?_eq_none_iff.mp h item hItem
    simp [hApp, hId] at hNone
  · intro h
    cases hFirst : firstCs2 appid assetid items with
    | none => rfl
    | some found => exact absurd (mem_of_firstCs2 hFirst) (h found)

theorem Leads.lists (h : Leads appid assetid items id) : Lists appid assetid items id :=
  mem_of_firstCs2 (firstCs2_eq_some_iff_leads.mpr h)

end Lists

section Transcripts

variable {ext : Externals} {serverName : String} {request response : List UInt8}
  {escrow : EscrowSnapshot}

theorem gather_of_offerTranscript {offer : TradeOffer}
    (h : OfferTranscript ext serverName request response escrow offer) :
    gather ext serverName request response =
      .ok (.offer (requestTradeOfferId request) (offer.data escrow.tradeOfferId)) := by
  obtain ⟨body, hBody, hDocument⟩ := h.document
  refine (gather_eq_ok_iff ext).mpr ⟨body, hBody, h.host, ?_, rfl, ?_⟩
  · have hSource := h.source
    rwa [detectProofSource_eq, Except.ok.injEq] at hSource
  · exact (parseTradeOffer_eq_ok_iff ext).mpr ⟨offer, _, hDocument, h.responseId, rfl⟩

theorem gather_of_statusTranscript {trade : TradeStatusEntry}
    (h : StatusTranscript ext serverName request response trade) :
    gather ext serverName request response = .ok (.status trade.data) := by
  obtain ⟨body, hBody, hDocument⟩ := h.document
  refine (gather_eq_ok_iff ext).mpr ⟨body, hBody, h.host, ?_, ?_⟩
  · have hSource := h.source
    rwa [detectProofSource_eq, Except.ok.injEq] at hSource
  · exact (parseTradeStatus_eq_ok_iff ext).mpr ⟨trade, hDocument, rfl⟩

/-- The engine refunds the escrow's offer for the reason that its data have. -/
theorem decide_offer_eq_ok_iff {offer : TradeOffer} {proofTimestamp : UInt64}
    {settlement : Settlement}
    (h : OfferTranscript ext serverName request response escrow offer) :
    Oracle.decide ext serverName request response escrow proofTimestamp = .ok settlement ↔
      ∃ reason, OfferReason escrow (offer.data escrow.tradeOfferId) reason ∧
        settlement = escrow.refund reason := by
  rw [decide_eq, gather_of_offerTranscript h, ok_bind]
  refine judgeTradeOffer_eq_ok_iff.trans
    ⟨fun ⟨_, _, hReason⟩ => hReason, fun hReason => ⟨?_, rfl, hReason⟩⟩
  intro id hId
  exact h.requestId id (by rw [extractTradeOfferIdFromRequest_eq, hId])

theorem decide_status_eq {trade : TradeStatusEntry} (proofTimestamp : UInt64)
    (h : StatusTranscript ext serverName request response trade) :
    Oracle.decide ext serverName request response escrow proofTimestamp =
      judgeTradeStatus escrow trade.data proofTimestamp := by
  rw [decide_eq, gather_of_statusTranscript h, ok_bind]
  rfl

end Transcripts

section Offers

variable (ext : Externals) (serverName : String) (request response : List UInt8)
  (escrow : EscrowSnapshot) (proofTimestamp : UInt64)

def ListsItem : Option (List TradeItem) → UInt64 → Prop := Lists TradeItem.appid TradeItem.assetid

def LeadsItems : Option (List TradeItem) → UInt64 → Prop := Leads TradeItem.appid TradeItem.assetid

def TradeOffer.partnerSteamId (offer : TradeOffer) : UInt64 := offer.accountidOther + steam64Offset

/-- The list in which the capturing party's view must show the escrow's asset. -/
def capturedItems (offer : TradeOffer) : Option (List TradeItem) :=
  if offer.partnerSteamId = escrow.buyerSteamId then offer.itemsToGive else offer.itemsToReceive

/-- The seller's view gives the escrow's asset, or the buyer's view receives it,
perhaps together with other items. -/
def BundlesAsset (offer : TradeOffer) : Prop :=
  (offer.partnerSteamId = escrow.buyerSteamId ∧ ListsItem offer.itemsToGive escrow.assetId) ∨
    (offer.partnerSteamId = escrow.sellerSteamId ∧ ListsItem offer.itemsToReceive escrow.assetId)

/-- A `GetTradeOffer` response that carries the offer. -/
def OfferReply (offer : TradeOffer) : Prop :=
  ∃ body, extractHttpBody ext.inflate response = .ok body ∧ OfferDocument ext body offer

/-- No offer of the escrow that moves its asset is refunded for moving another
asset, or none. -/
def BundleLaw : Prop :=
  ∀ offer, OfferReply ext response offer → parseU64 offer.tradeofferid = some escrow.tradeOfferId →
    BundlesAsset escrow offer → ∀ settlement,
      Oracle.decide ext serverName request response escrow proofTimestamp = .ok settlement →
      settlement.refundReason ≠ .wrongAsset ∧ settlement.refundReason ≠ .notCS2Item

variable {ext serverName request response escrow proofTimestamp} {offer : TradeOffer} {id : UInt64}

theorem OfferReply.unique {other : TradeOffer} (h : OfferReply ext response offer)
    (hOther : OfferReply ext response other) : offer = other := by
  obtain ⟨body, hBody, hDocument⟩ := h
  obtain ⟨otherBody, hOtherBody, hOtherDocument⟩ := hOther
  obtain rfl : body = otherBody := by simpa using hBody.symm.trans hOtherBody
  unfold OfferDocument at hDocument hOtherDocument
  simpa using hDocument.symm.trans hOtherDocument

theorem capturedAsset_data :
    capturedAsset escrow (offer.data id) = firstCs2Assetid (capturedItems escrow offer) := by
  unfold capturedAsset capturedItems
  split_ifs <;> first | rfl | contradiction

theorem capturedAsset_eq_some_iff :
    capturedAsset escrow (offer.data id) = some escrow.assetId ↔
      LeadsItems (capturedItems escrow offer) escrow.assetId := by
  rw [capturedAsset_data]
  exact firstCs2_eq_some_iff_leads

theorem BundlesAsset.isParty (h : BundlesAsset escrow offer) :
    escrow.IsParty (offer.data id).partnerSteamId := by
  obtain ⟨hBuyer, _⟩ | ⟨hSeller, _⟩ := h
  · exact Or.inr hBuyer
  · exact Or.inl hSeller

/-- An offer between the parties is refunded for its asset exactly when the
escrow's asset does not lead the list. -/
theorem assetReason_iff_not_leads (hParty : escrow.IsParty (offer.data id).partnerSteamId) :
    (∃ reason, OfferReason escrow (offer.data id) reason ∧
        (reason = .wrongAsset ∨ reason = .notCS2Item)) ↔
      ¬LeadsItems (capturedItems escrow offer) escrow.assetId := by
  rw [← @capturedAsset_eq_some_iff escrow offer id]
  constructor
  · rintro ⟨_, hReason, rfl | rfl⟩ hLeads
    · obtain ⟨_, other, hOther, hNe⟩ := hReason
      exact hNe (Option.some.inj (hOther.symm.trans hLeads))
    · cases hReason.2.symm.trans hLeads
  · intro hLeads
    cases hAsset : capturedAsset escrow (offer.data id) with
    | none => exact ⟨.notCS2Item, ⟨hParty, hAsset⟩, Or.inr rfl⟩
    | some other =>
        refine ⟨.wrongAsset, ⟨hParty, other, hAsset, ?_⟩, Or.inl rfl⟩
        rintro rfl
        exact hLeads hAsset

/-- A settled `GetTradeOffer` transcript is one of the escrow's offer. -/
theorem OfferReply.transcript {settlement : Settlement} {requestId : Option UInt64}
    {data : TradeOfferData} (hReply : OfferReply ext response offer)
    (hGather : gather ext serverName request response = .ok (.offer requestId data))
    (hJudge : judgeTradeOffer escrow requestId data = .ok settlement) :
    OfferTranscript ext serverName request response escrow offer := by
  obtain ⟨hRequest, hResponse, _⟩ := judgeTradeOffer_eq_ok_iff.mp hJudge
  obtain ⟨other, hTranscript, _⟩ := offerTranscript_of_gather hGather hRequest hResponse
  rwa [hReply.unique hTranscript.document]

/-- The offers that are refunded for their asset are read as offers of the escrow. -/
theorem offerTranscript_of_assetReason {settlement : Settlement}
    (hReply : OfferReply ext response offer)
    (h : Oracle.decide ext serverName request response escrow proofTimestamp = .ok settlement)
    (hReason : settlement.refundReason = .wrongAsset ∨ settlement.refundReason = .notCS2Item) :
    OfferTranscript ext serverName request response escrow offer := by
  obtain ⟨evidence, hGather, hJudge⟩ := (decide_eq_ok_iff ext).mp h
  cases evidence with
  | offer requestId data => exact hReply.transcript hGather hJudge
  | status data =>
      obtain ⟨_, _, _, _, ⟨_, rfl⟩ | ⟨_, _, _, _, rfl⟩⟩ | ⟨_, _, rfl⟩ | ⟨_, _, rfl⟩ :=
        judgeTradeStatus_eq_ok_iff.mp hJudge <;>
      simp [EscrowSnapshot.refund, EscrowSnapshot.release] at hReason
  | community data =>
      obtain ⟨_, _, _, _, rfl⟩ := judgeCommunity_eq_ok_iff.mp hJudge
      simp [EscrowSnapshot.refund] at hReason

/-- A bundle is kept exactly when the escrow's asset leads its list, or the
transcript is not read as the escrow's offer at all. -/
theorem bundleLaw_iff :
    BundleLaw ext serverName request response escrow proofTimestamp ↔
      ∀ offer, OfferTranscript ext serverName request response escrow offer →
        BundlesAsset escrow offer → LeadsItems (capturedItems escrow offer) escrow.assetId := by
  constructor
  · intro h offer hTranscript hBundle
    by_contra hLeads
    have hParty : escrow.IsParty (offer.data escrow.tradeOfferId).partnerSteamId := hBundle.isParty
    obtain ⟨reason, hReason, hAsset⟩ := (assetReason_iff_not_leads hParty).mpr hLeads
    have hDecide : Oracle.decide ext serverName request response escrow proofTimestamp =
        .ok (escrow.refund reason) := (decide_offer_eq_ok_iff hTranscript).mpr ⟨reason, hReason, rfl⟩
    obtain ⟨hWrong, hNone⟩ := h offer hTranscript.document hTranscript.responseId hBundle _ hDecide
    exact hAsset.elim hWrong hNone
  · intro h offer hReply _ hBundle settlement hDecide
    by_contra hNot
    have hAsset : settlement.refundReason = .wrongAsset ∨
        settlement.refundReason = .notCS2Item := by
      by_contra hOther
      exact hNot (not_or.mp hOther)
    have hTranscript := offerTranscript_of_assetReason hReply hDecide hAsset
    obtain ⟨reason, hReason, rfl⟩ := (decide_offer_eq_ok_iff hTranscript).mp hDecide
    exact (assetReason_iff_not_leads hBundle.isParty).mp ⟨reason, hReason, hAsset⟩
      (h offer hTranscript hBundle)

end Offers

/-- A deserializer that knows one `GetTradeOffer` document. -/
def offerExternals (json : Text) (offer : TradeOffer) : Externals where
  inflate := fun _ => none
  tradeOfferFromStr := fun text =>
    if text = json then .ok ⟨⟨some offer⟩⟩ else .error "expected value at line 1 column 1"
  tradeStatusFromStr := fun _ => .ok ⟨⟨none⟩⟩

/-- The seller gives the escrow's asset behind another CS2 item, and the buyer
has accepted. -/
def bundleOffer : TradeOffer where
  tradeofferid := "8653813160"
  tradeOfferState := 3
  accountidOther := 444017009
  itemsToGive := some [⟨730, "99999999"⟩, ⟨730, "40964044588"⟩]
  itemsToReceive := none
  isOurOffer := some true

def bundleJson : Text where
  bytes := ascii "\x7b\"response\":\x7b\"offer\":\x7b\"tradeofferid\":\"8653813160\"," ++
    ascii "\"trade_offer_state\":3,\"accountid_other\":444017009,\"is_our_offer\":true," ++
    ascii "\"items_to_give\":[\x7b\"appid\":730,\"assetid\":\"99999999\"\x7d," ++
    ascii "\x7b\"appid\":730,\"assetid\":\"40964044588\"\x7d]\x7d\x7d\x7d"
  valid := by decide +kernel

theorem not_bundleLaw_accepted :
    ¬BundleLaw (offerExternals bundleJson bundleOffer) steamApiHost offerRequest
      (okResponse bundleJson.bytes) sampleEscrow sampleNow := by
  intro h
  have hReply : OfferReply (offerExternals bundleJson bundleOffer) (okResponse bundleJson.bytes)
      bundleOffer := ⟨bundleJson, by decide +kernel, by unfold OfferDocument; decide +kernel⟩
  have hBundle : BundlesAsset sampleEscrow bundleOffer :=
    Or.inl ⟨by decide, _, rfl, ⟨730, "40964044588"⟩, by decide, by decide, by decide +kernel⟩
  have hDecide : Oracle.decide (offerExternals bundleJson bundleOffer) steamApiHost offerRequest
      (okResponse bundleJson.bytes) sampleEscrow sampleNow =
        .ok (sampleEscrow.refund .wrongAsset) := by
    decide +kernel
  exact (h bundleOffer hReply (by decide +kernel) hBundle _ hDecide).1 rfl

section Statuses

variable (ext : Externals) (serverName : String) (request response : List UInt8)
  (escrow : EscrowSnapshot) (proofTimestamp : UInt64)

def LeadsAssets : Option (List TradeStatusAsset) → UInt64 → Prop :=
  Leads TradeStatusAsset.appid TradeStatusAsset.assetid

/-- The rollback statuses with the reason that the refund names. -/
def rollbackReason (status : UInt32) : Option RefundReason :=
  if status ∈ [4, 5, 6, 7, 8, 9, 11] then some .deprecatedRollback
  else if status = 12 then some .tradeRollback
  else none

/-- A completed trade with the buyer, past its settlement time. -/
structure SettledWithBuyer (trade : TradeStatusEntry) : Prop where
  status : trade.status = 3
  partner : trade.steamidOther.bind parseU64 = some escrow.buyerSteamId
  time : ∃ time, trade.timeSettlement = some time ∧ time ≤ proofTimestamp

/-- A trade lists the escrow's asset on one of its sides. -/
def TradesAsset (trade : TradeStatusEntry) : Prop :=
  ListsAsset trade.assetsGiven escrow.assetId ∨ ListsAsset trade.assetsReceived escrow.assetId

/-- A settled trade that gives the asset is released, and a rolled back trade is
refunded exactly when it lists the asset. -/
def MembershipLaw : Prop :=
  ∀ trade, StatusTranscript ext serverName request response trade →
    (SettledWithBuyer escrow proofTimestamp trade → ListsAsset trade.assetsGiven escrow.assetId →
      Oracle.decide ext serverName request response escrow proofTimestamp = .ok escrow.release) ∧
    (∀ reason, rollbackReason trade.status = some reason →
      (Oracle.decide ext serverName request response escrow proofTimestamp =
          .ok (escrow.refund reason) ↔ TradesAsset escrow trade))

/-- The asset leads the received list, or that list has no CS2 asset and the
asset leads the given list. -/
def LeadsTrade (trade : TradeStatusEntry) : Prop :=
  LeadsAssets trade.assetsReceived escrow.assetId ∨
    ((∀ id, ¬ListsAsset trade.assetsReceived id) ∧ LeadsAssets trade.assetsGiven escrow.assetId)

variable {ext serverName request response escrow proofTimestamp} {trade : TradeStatusEntry}

theorem leadsAssets_iff {assets : Option (List TradeStatusAsset)} {id : UInt64} :
    firstCs2StatusAssetid assets = some id ↔ LeadsAssets assets id :=
  firstCs2_eq_some_iff_leads

theorem leadsTrade_iff : trade.data.assetId = some escrow.assetId ↔ LeadsTrade escrow trade := by
  show (firstCs2StatusAssetid trade.assetsReceived).or (firstCs2StatusAssetid trade.assetsGiven) =
    some escrow.assetId ↔ _
  rw [Option.or_eq_some_iff, leadsAssets_iff, leadsAssets_iff]
  exact or_congr_right (and_congr_left fun _ => firstCs2_eq_none_iff)

theorem LeadsTrade.tradesAsset (h : LeadsTrade escrow trade) : TradesAsset escrow trade :=
  listsAsset_of_rollback (leadsTrade_iff.mpr h)

/-- A settled trade is released exactly when the asset leads what was given. -/
theorem judge_settled_iff (h : SettledWithBuyer escrow proofTimestamp trade) :
    judgeTradeStatus escrow trade.data proofTimestamp = .ok escrow.release ↔
      LeadsAssets trade.assetsGiven escrow.assetId := by
  rw [judgeTradeStatus_eq_ok_iff, ← leadsAssets_iff]
  constructor
  · rintro (⟨_, hGiven, _⟩ | ⟨_, _, hRefund⟩ | ⟨_, _, hRefund⟩)
    · exact hGiven
    · exact absurd hRefund.symm (refund_ne_release _)
    · exact absurd hRefund.symm (refund_ne_release _)
  · intro hGiven
    obtain ⟨time, hTime, hPassed⟩ := h.time
    exact Or.inl ⟨h.status, hGiven, _, h.partner, Or.inr ⟨rfl, time, hTime, hPassed, rfl⟩⟩

theorem rollbackReason_cases {status : UInt32} {reason : RefundReason}
    (h : rollbackReason status = some reason) :
    (status ∈ [4, 5, 6, 7, 8, 9, 11] ∧ reason = .deprecatedRollback) ∨
      (status = 12 ∧ reason = .tradeRollback) := by
  unfold rollbackReason at h
  split_ifs at h with hOld hNew
  · exact Or.inl ⟨hOld, (Option.some.inj h).symm⟩
  · exact Or.inr ⟨hNew, (Option.some.inj h).symm⟩

/-- A rolled back trade is refunded exactly when the asset leads the trade. -/
theorem judge_rollback_iff {reason : RefundReason} (h : rollbackReason trade.status = some reason) :
    judgeTradeStatus escrow trade.data proofTimestamp = .ok (escrow.refund reason) ↔
      LeadsTrade escrow trade := by
  rw [judgeTradeStatus_eq_ok_iff, ← leadsTrade_iff]
  have hStatus : trade.data.status = trade.status := rfl
  rw [hStatus]
  obtain ⟨hOld, rfl⟩ | ⟨hNew, rfl⟩ := rollbackReason_cases h
  · have h3 : trade.status ≠ 3 := fun h => by simp [h] at hOld
    simp [h3, hOld]
  · simp [hNew]

/-- Matching is membership exactly when a listed asset also leads its list. -/
theorem membershipLaw_iff :
    MembershipLaw ext serverName request response escrow proofTimestamp ↔
      ∀ trade, StatusTranscript ext serverName request response trade →
        (SettledWithBuyer escrow proofTimestamp trade → ListsAsset trade.assetsGiven escrow.assetId →
          LeadsAssets trade.assetsGiven escrow.assetId) ∧
        ((rollbackReason trade.status).isSome → TradesAsset escrow trade → LeadsTrade escrow trade) := by
  refine forall_congr' fun trade => forall_congr' fun hTranscript => ?_
  rw [decide_status_eq proofTimestamp hTranscript]
  refine and_congr ?_ ?_
  · exact forall_congr' fun hSettled => imp_congr_right fun _ => judge_settled_iff hSettled
  · constructor
    · intro h hSome hTrades
      obtain ⟨reason, hReason⟩ := Option.isSome_iff_exists.mp hSome
      exact (judge_rollback_iff hReason).mp ((h reason hReason).mpr hTrades)
    · intro h reason hReason
      rw [judge_rollback_iff hReason]
      exact ⟨LeadsTrade.tradesAsset, h (by rw [hReason]; rfl)⟩

end Statuses

/-- A settled trade in which the escrow's asset was given behind another item. -/
def bundleTrade : TradeStatusEntry :=
  { completedTrade with assetsGiven := some [⟨730, "99999999"⟩, ⟨730, "40964044588"⟩] }

def bundleTradeJson : List UInt8 :=
  ascii "\x7b\"response\":\x7b\"trades\":[\x7b\"status\":3,\"steamid_other\":\"76561198404282737\"," ++
    ascii "\"assets_given\":[\x7b\"appid\":730,\"assetid\":\"99999999\"\x7d," ++
    ascii "\x7b\"appid\":730,\"assetid\":\"40964044588\"\x7d]," ++
    ascii "\"time_settlement\":1700100000\x7d]\x7d\x7d"

theorem not_membershipLaw_bundle :
    ¬MembershipLaw (statusExternals bundleTradeJson bundleTrade) steamApiHost statusRequest
      (okResponse bundleTradeJson) sampleEscrow sampleNow := by
  intro h
  have hTranscript : StatusTranscript (statusExternals bundleTradeJson bundleTrade) steamApiHost
      statusRequest (okResponse bundleTradeJson) bundleTrade :=
    ⟨rfl, by decide +kernel, ⟨bundleTradeJson, by decide +kernel⟩, by decide +kernel, [],
      by decide +kernel⟩
  have hSettled : SettledWithBuyer sampleEscrow sampleNow bundleTrade :=
    ⟨rfl, by decide +kernel, 1700100000, rfl, by decide⟩
  have hListed : ListsAsset bundleTrade.assetsGiven sampleEscrow.assetId :=
    ⟨_, rfl, ⟨730, "40964044588"⟩, by decide, by decide, by decide +kernel⟩
  have hDecide : Oracle.decide (statusExternals bundleTradeJson bundleTrade) steamApiHost
      statusRequest (okResponse bundleTradeJson) sampleEscrow sampleNow =
      fail (.invalidReleaseProof sampleEscrow.assetId) := by
    decide +kernel
  exact fail_ne_ok _ _ (hDecide.symm.trans ((h bundleTrade hTranscript).1 hSettled hListed))

section NonTerminal

variable (ext : Externals) (serverName : String) (request response : List UInt8)
  (escrow : EscrowSnapshot) (proofTimestamp : UInt64)

/-- The states in which an offer has failed for good. -/
def terminalStates : List UInt32 := [5, 6, 7, 8, 10]

/-- The reply to a `GetTradeOffer` request. -/
structure RequestedOffer (offer : TradeOffer) : Prop where
  source : detectProofSource request = (.ok (some .tradeOffer) : Exec SettlementError _)
  reply : OfferReply ext response offer

/-- An offer that has not failed is not settled. -/
def NonTerminalLaw : Prop :=
  ∀ offer, RequestedOffer ext request response offer → offer.tradeOfferState ∉ terminalStates →
    ∀ settlement,
      Oracle.decide ext serverName request response escrow proofTimestamp ≠ .ok settlement

/-- What is wrong with an offer that cannot fulfil the escrow in any state. -/
inductive Foreign (offer : TradeOffer) : RefundReason → Prop where
  | parties (hParty : ¬escrow.IsParty offer.partnerSteamId) : Foreign offer .wrongParties
  | noAsset (hParty : escrow.IsParty offer.partnerSteamId)
      (hNone : ∀ id, ¬ListsItem (capturedItems escrow offer) id) : Foreign offer .notCS2Item
  | asset {id : UInt64} (hParty : escrow.IsParty offer.partnerSteamId)
      (hListed : ListsItem (capturedItems escrow offer) id)
      (hAbsent : ¬ListsItem (capturedItems escrow offer) escrow.assetId) :
      Foreign offer .wrongAsset

/-- Between the parties, the escrow's asset is not offered behind another CS2
asset. -/
def PlainOffer (offer : TradeOffer) : Prop :=
  escrow.IsParty offer.partnerSteamId →
    ListsItem (capturedItems escrow offer) escrow.assetId →
    LeadsItems (capturedItems escrow offer) escrow.assetId

variable {ext serverName request response escrow proofTimestamp} {offer : TradeOffer} {id : UInt64}

theorem capturedAsset_eq_none_iff :
    capturedAsset escrow (offer.data id) = none ↔
      ∀ listed, ¬ListsItem (capturedItems escrow offer) listed := by
  rw [capturedAsset_data]
  exact firstCs2_eq_none_iff

/-- In a plain offer, the first CS2 asset is another one exactly when the escrow's
asset is not listed. -/
theorem PlainOffer.otherAsset_iff (h : PlainOffer escrow offer)
    (hParty : escrow.IsParty offer.partnerSteamId) :
    (∃ other, capturedAsset escrow (offer.data id) = some other ∧ other ≠ escrow.assetId) ↔
      (∃ listed, ListsItem (capturedItems escrow offer) listed) ∧
        ¬ListsItem (capturedItems escrow offer) escrow.assetId := by
  constructor
  · rintro ⟨other, hOther, hNe⟩
    have hListed : ListsItem (capturedItems escrow offer) other :=
      mem_of_firstCs2 (capturedAsset_data.symm.trans hOther)
    refine ⟨⟨other, hListed⟩, fun hAsset => ?_⟩
    have hFirst : capturedAsset escrow (offer.data id) = some escrow.assetId :=
      capturedAsset_eq_some_iff.mpr (h hParty hAsset)
    exact hNe (Option.some.inj (hOther.symm.trans hFirst))
  · rintro ⟨⟨listed, hListed⟩, hAbsent⟩
    cases hFirst : capturedAsset escrow (offer.data id) with
    | none => exact absurd hListed (capturedAsset_eq_none_iff.mp hFirst listed)
    | some other =>
        refine ⟨other, rfl, ?_⟩
        rintro rfl
        exact hAbsent (mem_of_firstCs2 (capturedAsset_data.symm.trans hFirst))

/-- Outside the terminal states only a foreign offer has a refund reason. -/
theorem offerReason_nonTerminal {reason : RefundReason} (hPlain : PlainOffer escrow offer)
    (hState : offer.tradeOfferState ∉ terminalStates) :
    OfferReason escrow (offer.data id) reason ↔ Foreign escrow offer reason := by
  simp only [terminalStates, List.mem_cons, List.not_mem_nil, or_false, not_or] at hState
  obtain ⟨h5, h6, h7, h8, h10⟩ := hState
  constructor
  · intro h
    cases reason with
    | wrongParties => exact .parties h
    | notCS2Item => exact .noAsset h.1 (capturedAsset_eq_none_iff.mp h.2)
    | wrongAsset =>
        obtain ⟨⟨_, hListed⟩, hAbsent⟩ := (hPlain.otherAsset_iff h.1).mp h.2
        exact .asset h.1 hListed hAbsent
    | buyerExpired | sellerExpired => exact absurd h.2.1 h5
    | sellerCanceled | buyerCanceled => exact absurd h.2.1 h6
    | buyerDeclined | sellerDeclined => exact absurd h.2.1 h7
    | invalidItems => exact absurd h.2 h8
    | canceled2FA => exact absurd h.2 h10
    | _ => exact h.elim
  · intro h
    cases h with
    | parties hParty => exact hParty
    | noAsset hParty hNone => exact ⟨hParty, capturedAsset_eq_none_iff.mpr hNone⟩
    | asset hParty hListed hAbsent =>
        exact ⟨hParty, (hPlain.otherAsset_iff hParty).mpr ⟨⟨_, hListed⟩, hAbsent⟩⟩

/-- An offer that has not failed is settled exactly when it is the escrow's offer
and cannot fulfil the escrow: it is between other parties, or the list of the
capturing party has no CS2 asset, or other ones only. -/
theorem nonTerminal_settled_iff {settlement : Settlement}
    (hOffer : RequestedOffer ext request response offer)
    (hState : offer.tradeOfferState ∉ terminalStates) (hPlain : PlainOffer escrow offer) :
    Oracle.decide ext serverName request response escrow proofTimestamp = .ok settlement ↔
      OfferTranscript ext serverName request response escrow offer ∧
        ∃ reason, Foreign escrow offer reason ∧ settlement = escrow.refund reason := by
  constructor
  · intro h
    obtain ⟨evidence, hGather, hJudge⟩ := (decide_eq_ok_iff ext).mp h
    obtain ⟨body, hBody, hEvidence⟩ := (gather_eq_ok_iff ext).mp hGather
    have hSource := hOffer.source
    rw [detectProofSource_eq, Except.ok.injEq] at hSource
    cases evidence with
    | offer requestId data =>
        have hTranscript := hOffer.reply.transcript hGather hJudge
        obtain ⟨reason, hReason, hRefund⟩ := (decide_offer_eq_ok_iff hTranscript).mp h
        exact ⟨hTranscript, reason, (offerReason_nonTerminal hPlain hState).mp hReason, hRefund⟩
    | status data => cases hSource.symm.trans hEvidence.2.1
    | community data => cases hSource.symm.trans hEvidence.2.1
  · rintro ⟨hTranscript, reason, hForeign, rfl⟩
    exact (decide_offer_eq_ok_iff hTranscript).mpr
      ⟨reason, (offerReason_nonTerminal hPlain hState).mpr hForeign, rfl⟩

end NonTerminal

/-- An offer to a stranger that is still active. -/
def strangerOffer : TradeOffer :=
  { bundleOffer with tradeOfferState := 2, accountidOther := 999 }

def strangerJson : Text where
  bytes := ascii "\x7b\"response\":\x7b\"offer\":\x7b\"tradeofferid\":\"8653813160\"," ++
    ascii "\"trade_offer_state\":2,\"accountid_other\":999,\"is_our_offer\":true," ++
    ascii "\"items_to_give\":[\x7b\"appid\":730,\"assetid\":\"99999999\"\x7d," ++
    ascii "\x7b\"appid\":730,\"assetid\":\"40964044588\"\x7d]\x7d\x7d\x7d"
  valid := by decide +kernel

theorem strangerOffer_requested :
    RequestedOffer (offerExternals strangerJson strangerOffer) offerRequest
      (okResponse strangerJson.bytes) strangerOffer :=
  ⟨by decide +kernel, strangerJson, by decide +kernel, by unfold OfferDocument; decide +kernel⟩

/-- The offer is the escrow's and its partner is neither of the parties. -/
theorem nonTerminal_settled_iff_stranger :
    Foreign sampleEscrow strangerOffer .wrongParties ∧
      Oracle.decide (offerExternals strangerJson strangerOffer) steamApiHost offerRequest
        (okResponse strangerJson.bytes) sampleEscrow sampleNow =
        .ok (sampleEscrow.refund .wrongParties) := by
  have hStranger : ¬sampleEscrow.IsParty strangerOffer.partnerSteamId := by
    rintro (hSeller | hBuyer)
    · exact absurd hSeller (by decide)
    · exact absurd hBuyer (by decide)
  have hTranscript : OfferTranscript (offerExternals strangerJson strangerOffer) steamApiHost
      offerRequest (okResponse strangerJson.bytes) sampleEscrow strangerOffer := by
    refine ⟨rfl, strangerOffer_requested.source, strangerOffer_requested.reply, by decide +kernel,
      fun id hId => ?_⟩
    have hRead : extractTradeOfferIdFromRequest offerRequest =
        (.ok (some 8653813160) : Exec SettlementError _) := by decide +kernel
    exact (Option.some.inj (Except.ok.inj (hRead.symm.trans hId))).symm
  have hPlain : PlainOffer sampleEscrow strangerOffer := fun hParty => absurd hParty hStranger
  exact ⟨.parties hStranger,
    (nonTerminal_settled_iff strangerOffer_requested (by decide) hPlain).mpr
      ⟨hTranscript, .wrongParties, .parties hStranger, rfl⟩⟩

theorem not_nonTerminalLaw_stranger :
    ¬NonTerminalLaw (offerExternals strangerJson strangerOffer) steamApiHost offerRequest
      (okResponse strangerJson.bytes) sampleEscrow sampleNow := by
  intro h
  have hDecide : Oracle.decide (offerExternals strangerJson strangerOffer) steamApiHost offerRequest
      (okResponse strangerJson.bytes) sampleEscrow sampleNow =
      .ok (sampleEscrow.refund .wrongParties) := by
    decide +kernel
  exact h strangerOffer strangerOffer_requested (by decide) _ hDecide

end SettlementOracle
