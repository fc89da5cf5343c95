import SettlementOracle.Settlement.Judgement

/-! Soundness of the decisions: every release and every refund is backed by the
transcript it was computed from. -/
namespace SettlementOracle

open Checked

section Externals

variable (ext : Externals) (serverName : String) (request response : List UInt8)
  (escrow : EscrowSnapshot)

/-- A body read from a `GetTradeStatus` response of the API host, with its first trade. -/
structure StatusTranscript (trade : TradeStatusEntry) : Prop where
  host : serverName = steamApiHost
  source : detectProofSource request = (.ok (some .tradeStatus) : Exec SettlementError _)
  document : ∃ body, extractHttpBody ext.inflate response = .ok body ∧ StatusDocument ext body trade

/-- A body read from a `GetTradeOffer` response of the API host, with its offer.
Both the response and the request name the escrow's trade offer. -/
structure OfferTranscript (offer : TradeOffer) : Prop where
  host : serverName = steamApiHost
  source : detectProofSource request = (.ok (some .tradeOffer) : Exec SettlementError _)
  document : ∃ body, extractHttpBody ext.inflate response = .ok body ∧ OfferDocument ext body offer
  responseId : parseU64 offer.tradeofferid = some escrow.tradeOfferId
  requestId : ∀ id, extractTradeOfferIdFromRequest request =
    (.ok (some id) : Exec SettlementError _) → id = escrow.tradeOfferId

/-- A page of the community host that denies the escrow's trade offer to one of the parties. -/
structure CommunityTranscript : Prop where
  host : serverName = steamCommunityHost
  source : detectProofSource request = (.ok (some .community) : Exec SettlementError _)
  requestId : extractTradeOfferIdFromUrl request =
    (.ok (some escrow.tradeOfferId) : Exec ParseError _)
  prover : ∃ steamId, extractSteamIdFromCookie request = .ok steamId ∧ escrow.IsParty steamId
  page : ∃ html, extractHttpBody ext.inflate response = .ok html ∧ errorTitle <:+: html.bytes ∧
    (notExist <:+: html.bytes ∨ belongsOther <:+: html.bytes)

/-- An entry of the list is the escrow's CS2 asset. -/
def ListsAsset (assets : Option (List TradeStatusAsset)) (assetId : UInt64) : Prop :=
  ∃ list, assets = some list ∧
    ∃ item ∈ list, Cs2Entry TradeStatusAsset.appid TradeStatusAsset.assetid item assetId

/-- What a release rests on. -/
def ReleaseEvidence (proofTimestamp : UInt64) : Prop :=
  ∃ trade, StatusTranscript ext serverName request response trade ∧ trade.status = 3 ∧
    ListsAsset trade.assetsGiven escrow.assetId ∧
    trade.steamidOther.bind parseU64 = some escrow.buyerSteamId ∧
    ∃ time, trade.timeSettlement = some time ∧ time ≤ proofTimestamp

/-- What a refund rests on, by reason. The reasons of the offer route exclude
each other. -/
def RefundEvidence (proofTimestamp : UInt64) : RefundReason → Prop
  | .none | .timeout => False
  | .tradeNotExist => CommunityTranscript ext serverName request response escrow ∧
      escrow.purchaseTime.toNat + escrow.abandonedWindow.toNat ≤ proofTimestamp.toNat
  | .tradeRollback => ∃ trade, StatusTranscript ext serverName request response trade ∧
      trade.status = 12 ∧ (ListsAsset trade.assetsGiven escrow.assetId ∨
        ListsAsset trade.assetsReceived escrow.assetId)
  | .deprecatedRollback => ∃ trade, StatusTranscript ext serverName request response trade ∧
      trade.status ∈ [4, 5, 6, 7, 8, 9, 11] ∧ (ListsAsset trade.assetsGiven escrow.assetId ∨
        ListsAsset trade.assetsReceived escrow.assetId)
  | .wrongRecipient => ∃ trade, StatusTranscript ext serverName request response trade ∧
      trade.status = 3 ∧ firstCs2StatusAssetid trade.assetsGiven = some escrow.assetId ∧
      ∃ partner, trade.steamidOther.bind parseU64 = some partner ∧ partner ≠ escrow.buyerSteamId
  | reason => ∃ offer, OfferTranscript ext serverName request response escrow offer ∧
      ∀ other, OfferReason escrow (offer.data escrow.tradeOfferId) other ↔ other = reason

variable {ext serverName request response escrow} {proofTimestamp : UInt64} {settlement : Settlement}

theorem statusTranscript_of_gather {data : TradeStatusData}
    (h : gather ext serverName request response = .ok (.status data)) :
    ∃ trade, StatusTranscript ext serverName request response trade ∧ data = trade.data := by
  obtain ⟨body, hBody, hHost, hSource, hParse⟩ := (gather_eq_ok_iff ext).mp h
  obtain ⟨trade, hDocument, rfl⟩ := (parseTradeStatus_eq_ok_iff ext).mp hParse
  exact ⟨trade, ⟨hHost, by rw [detectProofSource_eq, hSource], body, hBody, hDocument⟩, rfl⟩

theorem offerTranscript_of_gather {requestId : Option UInt64} {data : TradeOfferData}
    (h : gather ext serverName request response = .ok (.offer requestId data))
    (hRequest : ∀ id, requestId = some id → id = escrow.tradeOfferId)
    (hResponse : data.tradeOfferId = escrow.tradeOfferId) :
    ∃ offer, OfferTranscript ext serverName request response escrow offer ∧
      data = offer.data escrow.tradeOfferId := by
  obtain ⟨body, hBody, hHost, hSource, rfl, hParse⟩ := (gather_eq_ok_iff ext).mp h
  obtain ⟨offer, id, hDocument, hId, rfl⟩ := (parseTradeOffer_eq_ok_iff ext).mp hParse
  obtain rfl : id = escrow.tradeOfferId := hResponse
  refine ⟨offer, ⟨hHost, by rw [detectProofSource_eq, hSource], ⟨body, hBody, hDocument⟩, hId, ?_⟩,
    rfl⟩
  intro id hRead
  rw [extractTradeOfferIdFromRequest_eq, Except.ok.injEq] at hRead
  exact hRequest id hRead

theorem communityTranscript_of_gather {data : CommunityProofData}
    (h : gather ext serverName request response = .ok (.community data))
    (hId : data.tradeOfferId = escrow.tradeOfferId) (hProver : escrow.IsParty data.proverSteamId) :
    CommunityTranscript ext serverName request response escrow := by
  obtain ⟨_, _, hHost, hSource, hParse⟩ := (gather_eq_ok_iff ext).mp h
  obtain ⟨html, steamId, id, hBody, hCookie, hUrl, ⟨hTitle, hMarker, _⟩, rfl⟩ :=
    (parseCommunityHtml_eq_ok_iff ext.inflate).mp hParse
  obtain rfl : id = escrow.tradeOfferId := hId
  exact ⟨hHost, by rw [detectProofSource_eq, hSource], hUrl, ⟨steamId, hCookie, hProver⟩,
    html, hBody, hTitle, hMarker⟩

/-- The asset of a rollback is one of the assets received, or else given. -/
theorem listsAsset_of_rollback {trade : TradeStatusEntry} {assetId : UInt64}
    (h : trade.data.assetId = some assetId) :
    ListsAsset trade.assetsGiven assetId ∨ ListsAsset trade.assetsReceived assetId := by
  cases hReceived : firstCs2StatusAssetid trade.assetsReceived with
  | none =>
      have hGiven : firstCs2StatusAssetid trade.assetsGiven = some assetId := by
        simpa [TradeStatusEntry.data, hReceived] using h
      exact Or.inl (mem_of_firstCs2 hGiven)
  | some id =>
      have hSame : id = assetId := by simpa [TradeStatusEntry.data, hReceived] using h
      exact Or.inr (mem_of_firstCs2 (hSame ▸ hReceived))

/-- A release rests on a completed trade that gave the escrow's asset to the
buyer and has settled. Every settlement names the escrow's asset and offer. -/
theorem decide_release_sound
    (h : Oracle.decide ext serverName request response escrow proofTimestamp = .ok settlement) :
    (settlement.decision = .release →
      ReleaseEvidence ext serverName request response escrow proofTimestamp) ∧
    settlement.assetId = escrow.assetId ∧ settlement.tradeOfferId = escrow.tradeOfferId ∧
    (settlement.refundReason = .none ↔ settlement.decision = .release) := by
  obtain ⟨evidence, hGather, hJudge⟩ := (decide_eq_ok_iff ext).mp h
  refine ⟨?_, ?_⟩
  · intro hRelease
    cases evidence with
    | offer requestId data =>
        obtain ⟨_, _, reason, _, rfl⟩ := judgeTradeOffer_eq_ok_iff.mp hJudge
        cases hRelease
    | community data =>
        obtain ⟨_, _, _, _, rfl⟩ := judgeCommunity_eq_ok_iff.mp hJudge
        cases hRelease
    | status data =>
        obtain ⟨trade, hTranscript, rfl⟩ := statusTranscript_of_gather hGather
        obtain ⟨hStatus, hGiven, _, hPartner, ⟨_, rfl⟩ | ⟨rfl, time, hTime, hPassed, rfl⟩⟩ |
          ⟨_, _, rfl⟩ | ⟨_, _, rfl⟩ := judgeTradeStatus_eq_ok_iff.mp hJudge
        · cases hRelease
        · exact ⟨trade, hTranscript, hStatus, mem_of_firstCs2 hGiven, hPartner, time, hTime, hPassed⟩
        · cases hRelease
        · cases hRelease
  · obtain rfl | ⟨reason, hReason, rfl⟩ := judge_eq_ok hJudge
    · exact ⟨rfl, rfl, iff_of_true rfl rfl⟩
    · exact ⟨rfl, rfl, iff_of_false hReason (by simp [EscrowSnapshot.refund])⟩

/-- The escrow of the source's own fixtures. -/
def sampleEscrow : EscrowSnapshot where
  assetId := 40964044588
  tradeOfferId := 8653813160
  sellerSteamId := 76561198366018280
  buyerSteamId := 76561198404282737
  seller := Vector.replicate 20 0
  buyer := Vector.replicate 20 0
  amount := 1000000
  purchaseTime := 1700000000
  abandonedWindow := 86400

def sampleNow : UInt64 := 1700200000

/-- A completed trade and the JSON text that Steam sends for it. -/
def completedTrade : TradeStatusEntry where
  status := 3
  steamidOther := some "76561198404282737"
  assetsGiven := some [⟨730, "40964044588"⟩]
  assetsReceived := none
  timeSettlement := some 1700100000

def completedJson : List UInt8 :=
  ascii "\x7b\"response\":\x7b\"trades\":[\x7b\"status\":3,\"steamid_other\":\"76561198404282737\"," ++
    ascii "\"assets_given\":[\x7b\"appid\":730,\"assetid\":\"40964044588\"\x7d]," ++
    ascii "\"time_settlement\":1700100000\x7d]\x7d\x7d"

def okResponse (body : List UInt8) : List UInt8 :=
  ascii "HTTP/1.1 200 OK\r\nContent-Type: application/json\r\n\r\n" ++ body

def statusRequest : List UInt8 :=
  ascii "GET /IEconService/GetTradeStatus/v1/?tradeid=123 HTTP/1.1\r\n" ++
    ascii "Host: api.steampowered.com\r\n\r\n"

def offerRequest : List UInt8 :=
  ascii "GET /IEconService/GetTradeOffer/v1/?tradeofferid=8653813160 HTTP/1.1\r\n" ++
    ascii "Host: api.steampowered.com\r\n\r\n"

/-- A deserializer that knows one `GetTradeStatus` document. -/
def statusExternals (json : List UInt8) (trade : TradeStatusEntry) : Externals where
  inflate := fun _ => none
  tradeOfferFromStr := fun _ => .ok ⟨⟨none⟩⟩
  tradeStatusFromStr := fun text =>
    if text.bytes = json then .ok ⟨⟨some [trade]⟩⟩ else .error "expected value at line 1 column 1"

theorem decide_release_sound_completed :
    Oracle.decide (statusExternals completedJson completedTrade) steamApiHost statusRequest
        (okResponse completedJson) sampleEscrow sampleNow = .ok sampleEscrow.release ∧
      ReleaseEvidence (statusExternals completedJson completedTrade) steamApiHost statusRequest
        (okResponse completedJson) sampleEscrow sampleNow := by
  have h : Oracle.decide (statusExternals completedJson completedTrade) steamApiHost statusRequest
      (okResponse completedJson) sampleEscrow sampleNow = .ok sampleEscrow.release := by
    decide +kernel
  exact ⟨h, (decide_release_sound h).1 rfl⟩

/-- A refund rests on the evidence for its reason, provided that the escrow's
deadline fits a `u64`. -/
theorem decide_refund_sound
    (hDeadline : escrow.purchaseTime.toNat + escrow.abandonedWindow.toNat < UInt64.size)
    (h : Oracle.decide ext serverName request response escrow proofTimestamp = .ok settlement)
    (hRefund : settlement.decision = .refund) :
    RefundEvidence ext serverName request response escrow proofTimestamp
      settlement.refundReason := by
  obtain ⟨evidence, hGather, hJudge⟩ := (decide_eq_ok_iff ext).mp h
  cases evidence with
  | offer requestId data =>
      obtain ⟨hRequest, hResponse, reason, hReason, rfl⟩ := judgeTradeOffer_eq_ok_iff.mp hJudge
      obtain ⟨offer, hTranscript, rfl⟩ := offerTranscript_of_gather hGather hRequest hResponse
      have hOnly : ∀ other, OfferReason escrow (offer.data escrow.tradeOfferId) other ↔
          other = reason := by
        intro other
        rw [← offerReason_eq_some_iff, offerReason_eq_some_iff.mpr hReason, Option.some.injEq,
          eq_comm]
      change RefundEvidence ext serverName request response escrow proofTimestamp reason
      cases reason with
      | none | timeout | wrongRecipient | tradeRollback | deprecatedRollback | tradeNotExist =>
          exact False.elim hReason
      | _ => exact ⟨offer, hTranscript, hOnly⟩
  | status data =>
      obtain ⟨trade, hTranscript, rfl⟩ := statusTranscript_of_gather hGather
      obtain ⟨hStatus, hGiven, partner, hPartner, ⟨hOther, rfl⟩ | ⟨_, _, _, _, rfl⟩⟩ |
        ⟨hStatus, hAsset, rfl⟩ | ⟨hStatus, hAsset, rfl⟩ := judgeTradeStatus_eq_ok_iff.mp hJudge
      · exact ⟨trade, hTranscript, hStatus, hGiven, partner, hPartner, hOther⟩
      · cases hRefund
      · exact ⟨trade, hTranscript, hStatus, listsAsset_of_rollback hAsset⟩
      · exact ⟨trade, hTranscript, hStatus, listsAsset_of_rollback hAsset⟩
  | community data =>
      obtain ⟨hId, hProver, _, hTime, rfl⟩ := judgeCommunity_eq_ok_iff.mp hJudge
      refine ⟨communityTranscript_of_gather hGather hId hProver, ?_⟩
      rwa [UInt64.le_iff_toNat_le, UInt64.toNat_add, Nat.mod_eq_of_lt hDeadline] at hTime

def communityRequest : List UInt8 :=
  ascii "GET /tradeoffer/8653813160 HTTP/1.1\r\nHost: steamcommunity.com\r\n" ++
    ascii "Cookie: steamLoginSecure=76561198404282737%7C%7CeyToken\r\n\r\n"

def notFoundPage : List UInt8 :=
  ascii "HTTP/1.1 200 OK\r\nContent-Type: text/html\r\n\r\n" ++
    ascii "<title>Steam Community :: Error</title>" ++
    ascii "The trade offer does not exist, or belongs to another user"

theorem decide_refund_sound_notFound :
    Oracle.decide (statusExternals completedJson completedTrade) steamCommunityHost communityRequest
        notFoundPage sampleEscrow sampleNow = .ok (sampleEscrow.refund .tradeNotExist) ∧
      RefundEvidence (statusExternals completedJson completedTrade) steamCommunityHost
        communityRequest notFoundPage sampleEscrow sampleNow .tradeNotExist := by
  have h : Oracle.decide (statusExternals completedJson completedTrade) steamCommunityHost
      communityRequest notFoundPage sampleEscrow sampleNow =
        .ok (sampleEscrow.refund .tradeNotExist) := by
    decide +kernel
  exact ⟨h, decide_refund_sound (by decide) h rfl⟩

end Externals

end SettlementOracle
