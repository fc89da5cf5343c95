import SettlementOracle.Settlement.Parsing.CommunityPage
import SettlementOracle.Settlement.Parsing.Documents

/-! The decision engine. A transcript is first read into evidence, which is
independent of the escrow and of the time, and the evidence is then judged. -/
namespace SettlementOracle

open Checked

def steamApiHost : String := "api.steampowered.com"

def steamCommunityHost : String := "steamcommunity.com"

def faultForExpired (sellerCreatedOffer : Bool) : RefundReason :=
  if sellerCreatedOffer then .buyerExpired else .sellerExpired

def faultForCanceled (sellerCreatedOffer : Bool) : RefundReason :=
  if sellerCreatedOffer then .sellerCanceled else .buyerCanceled

def faultForDeclined (sellerCreatedOffer : Bool) : RefundReason :=
  if sellerCreatedOffer then .buyerDeclined else .sellerDeclined

def determineSellerCreatedOffer (capturerIsSeller isOurOffer : Bool) : Bool :=
  if capturerIsSeller then isOurOffer else !isOurOffer

def EscrowSnapshot.refund (escrow : EscrowSnapshot) (reason : RefundReason) : Settlement :=
  ⟨escrow.assetId, escrow.tradeOfferId, .refund, reason⟩

def EscrowSnapshot.release (escrow : EscrowSnapshot) : Settlement :=
  ⟨escrow.assetId, escrow.tradeOfferId, .release, .none⟩

/-- The refund reason of a terminal offer state. State 3 is not terminal here. -/
def terminalReason (sellerCreatedOffer : Bool) (state : UInt32) : Option RefundReason :=
  if state = 5 then some (faultForExpired sellerCreatedOffer)
  else if state = 6 then some (faultForCanceled sellerCreatedOffer)
  else if state = 7 then some (faultForDeclined sellerCreatedOffer)
  else if state = 8 then some .invalidItems
  else if state = 10 then some .canceled2FA
  else none

def checkRequestId (escrow : EscrowSnapshot) : Option UInt64 → Exec SettlementError Unit
  | some requestTradeOfferId =>
      failIf (requestTradeOfferId ≠ escrow.tradeOfferId)
        (.tradeOfferIdMismatch escrow.tradeOfferId requestTradeOfferId)
  | none => .ok ()

/-- The checks of `decide_trade_offer` behind the parser. -/
def judgeTradeOffer (escrow : EscrowSnapshot) (requestId : Option UInt64) (data : TradeOfferData) :
    Exec SettlementError Settlement := do
  checkRequestId escrow requestId
  failIf (data.tradeOfferId ≠ escrow.tradeOfferId)
    (.tradeOfferIdMismatch escrow.tradeOfferId data.tradeOfferId)
  if data.partnerSteamId ≠ escrow.sellerSteamId ∧ data.partnerSteamId ≠ escrow.buyerSteamId then
    .ok (escrow.refund .wrongParties)
  else
    let capturerIsSeller := data.partnerSteamId == escrow.buyerSteamId
    match if capturerIsSeller then data.assetToGive else data.assetToReceive with
    | none => .ok (escrow.refund .notCS2Item)
    | some proofAssetId =>
        if proofAssetId ≠ escrow.assetId then .ok (escrow.refund .wrongAsset)
        else do
          let sellerCreatedOffer := determineSellerCreatedOffer capturerIsSeller data.isOurOffer
          let reason ← okOr (terminalReason sellerCreatedOffer data.state)
            (.nonTerminalState data.state)
          .ok (escrow.refund reason)

def judgeRollback (escrow : EscrowSnapshot) (data : TradeStatusData) (reason : RefundReason) :
    Exec SettlementError Settlement := do
  failIf (data.assetId ≠ some escrow.assetId) (.assetIdMismatch escrow.assetId data.assetId)
  .ok (escrow.refund reason)

def judgeCompleted (escrow : EscrowSnapshot) (data : TradeStatusData) (proofTimestamp : UInt64) :
    Exec SettlementError Settlement := do
  failIf (data.assetIdGiven ≠ some escrow.assetId) (.invalidReleaseProof escrow.assetId)
  let partnerSteamId ← okOr data.partnerSteamId
    (.parseFailed (.jsonParse "Missing steamid_other in completed trade"))
  if partnerSteamId ≠ escrow.buyerSteamId then .ok (escrow.refund .wrongRecipient)
  else do
    let timeSettlement ← okOr data.timeSettlement .missingTimeSettlement
    failIf (timeSettlement > proofTimestamp) (.escrowNotPassed timeSettlement proofTimestamp)
    .ok escrow.release

/-- The checks of `decide_trade_status` behind the parser. -/
def judgeTradeStatus (escrow : EscrowSnapshot) (data : TradeStatusData) (proofTimestamp : UInt64) :
    Exec SettlementError Settlement :=
  if data.status = 3 then judgeCompleted escrow data proofTimestamp
  else if data.status ∈ [4, 5, 6, 7, 8, 9, 11] then judgeRollback escrow data .deprecatedRollback
  else if data.status = 12 then judgeRollback escrow data .tradeRollback
  else fail (.nonTerminalState data.status)

/-- The checks of `decide_community` behind the parser. The deadline is a `u64`
sum and wraps in a release build. -/
def judgeCommunity (escrow : EscrowSnapshot) (data : CommunityProofData) (proofTimestamp : UInt64) :
    Exec SettlementError Settlement := do
  failIf (data.tradeOfferId ≠ escrow.tradeOfferId)
    (.tradeOfferIdMismatch escrow.tradeOfferId data.tradeOfferId)
  failIf (data.proverSteamId ≠ escrow.sellerSteamId ∧ data.proverSteamId ≠ escrow.buyerSteamId)
    (.partnerMismatch escrow.buyerSteamId data.proverSteamId)
  failIf (data.tradeNotFound = false) (.parseFailed .communityTradeExists)
  let abandonmentDeadline := escrow.purchaseTime + escrow.abandonedWindow
  failIf (proofTimestamp < abandonmentDeadline)
    (.tooEarlyForAbandonment proofTimestamp abandonmentDeadline)
  .ok (escrow.refund .tradeNotExist)

/-- API sources must come from the API host, community pages from the community host. -/
def checkHost (serverName : String) (source : ProofSource) : Exec SettlementError Unit :=
  match source with
  | .tradeOffer | .tradeStatus =>
      failIf (serverName ≠ steamApiHost) (.invalidServer
        ("API proof source " ++ source.debug ++ " from non-API host: " ++ serverName))
  | .community =>
      failIf (serverName ≠ steamCommunityHost)
        (.invalidServer ("Community proof from non-community host: " ++ serverName))

section Externals

variable (ext : Externals)

def decideTradeOffer (request : List UInt8) (json : Text) (escrow : EscrowSnapshot) :
    Exec SettlementError Settlement := do
  let data ← mapErr .parseFailed (parseTradeOffer ext json)
  let requestId ← extractTradeOfferIdFromRequest request
  judgeTradeOffer escrow requestId data

def decideTradeStatus (json : Text) (escrow : EscrowSnapshot) (proofTimestamp : UInt64) :
    Exec SettlementError Settlement := do
  let data ← mapErr .parseFailed (parseTradeStatus ext json)
  judgeTradeStatus escrow data proofTimestamp

def decideCommunity (request response : List UInt8) (escrow : EscrowSnapshot)
    (proofTimestamp : UInt64) : Exec SettlementError Settlement := do
  let data ← mapErr .parseFailed (parseCommunityHtml ext.inflate request response)
  judgeCommunity escrow data proofTimestamp

/-- The checks on the host, in the source's order, and the source they admit. -/
def admittedSource (serverName : String) (request : List UInt8) :
    Exec SettlementError ProofSource := do
  failIf (serverName ≠ steamApiHost ∧ serverName ≠ steamCommunityHost) (.invalidServer serverName)
  let source ← okOr (← detectProofSource request) .unknownProofSource
  checkHost serverName source
  .ok source

protected def Oracle.decide (serverName : String) (request response : List UInt8)
    (escrow : EscrowSnapshot) (proofTimestamp : UInt64) : Exec SettlementError Settlement := do
  let source ← admittedSource serverName request
  let body ← mapErr .parseFailed (extractHttpBody ext.inflate response)
  match source with
  | .tradeOffer => decideTradeOffer ext request body escrow
  | .tradeStatus => decideTradeStatus ext body escrow proofTimestamp
  | .community => decideCommunity ext request response escrow proofTimestamp

end Externals

/-- What a transcript contributes to a decision. -/
inductive Evidence where
  | offer (requestId : Option UInt64) (data : TradeOfferData)
  | status (data : TradeStatusData)
  | community (data : CommunityProofData)
  deriving DecidableEq, Repr

def Evidence.judge (escrow : EscrowSnapshot) (proofTimestamp : UInt64) :
    Evidence → Exec SettlementError Settlement
  | .offer requestId data => judgeTradeOffer escrow requestId data
  | .status data => judgeTradeStatus escrow data proofTimestamp
  | .community data => judgeCommunity escrow data proofTimestamp

section Externals

variable (ext : Externals)

/-- Read the evidence out of a transcript. -/
def gather (serverName : String) (request response : List UInt8) :
    Exec SettlementError Evidence := do
  let source ← admittedSource serverName request
  let body ← mapErr .parseFailed (extractHttpBody ext.inflate response)
  match source with
  | .tradeOffer => do
      let data ← mapErr .parseFailed (parseTradeOffer ext body)
      .ok (.offer (requestTradeOfferId request) data)
  | .tradeStatus => do
      let data ← mapErr .parseFailed (parseTradeStatus ext body)
      .ok (.status data)
  | .community => do
      let data ← mapErr .parseFailed (parseCommunityHtml ext.inflate request response)
      .ok (.community data)

variable {serverName : String} {request response : List UInt8} {source : ProofSource}
  {escrow : EscrowSnapshot} {proofTimestamp : UInt64} {evidence : Evidence} {settlement : Settlement}

/-- The engine gathers evidence and then judges it. -/
theorem decide_eq (serverName : String) (request response : List UInt8) (escrow : EscrowSnapshot)
    (proofTimestamp : UInt64) :
    Oracle.decide ext serverName request response escrow proofTimestamp =
      (gather ext serverName request response >>= Evidence.judge escrow proofTimestamp) := by
  unfold Oracle.decide gather
  simp only [bind_assoc]
  refine bind_congr fun source => bind_congr fun body => ?_
  cases source with
  | tradeOffer =>
      simp only [decideTradeOffer, extractTradeOfferIdFromRequest_eq, ok_bind, bind_assoc]
      rfl
  | tradeStatus =>
      simp only [decideTradeStatus, ok_bind, bind_assoc]
      rfl
  | community =>
      simp only [decideCommunity, ok_bind, bind_assoc]
      rfl

theorem decide_eq_ok_iff :
    Oracle.decide ext serverName request response escrow proofTimestamp = .ok settlement ↔
      ∃ evidence, gather ext serverName request response = .ok evidence ∧
        evidence.judge escrow proofTimestamp = .ok settlement := by
  rw [decide_eq, bind_eq_ok]

/-- The host that a proof source must come from. -/
def ProofSource.host : ProofSource → String
  | .tradeOffer | .tradeStatus => steamApiHost
  | .community => steamCommunityHost

theorem admittedSource_eq_ok_iff :
    admittedSource serverName request = .ok source ↔
      serverName = source.host ∧ proofSource request = some source := by
  unfold admittedSource
  rw [detectProofSource_eq]
  simp only [bind_eq_ok, failIf_eq_ok, okOr_eq_ok, Except.ok.injEq, exists_const, exists_eq_left']
  constructor
  · rintro ⟨_, found, hSource, _, hHost, rfl⟩
    refine ⟨?_, hSource⟩
    cases found <;> simpa [checkHost, ProofSource.host] using hHost
  · rintro ⟨rfl, hSource⟩
    refine ⟨?_, source, hSource, (), ?_, rfl⟩
    · cases source <;> decide
    · cases source <;> simp [checkHost, ProofSource.host]

/-- Where each kind of evidence comes from. -/
theorem gather_eq_ok_iff :
    gather ext serverName request response = .ok evidence ↔
      ∃ body, extractHttpBody ext.inflate response = .ok body ∧
        match evidence with
        | .offer requestId data =>
            serverName = steamApiHost ∧ proofSource request = some .tradeOffer ∧
              requestId = requestTradeOfferId request ∧ parseTradeOffer ext body = .ok data
        | .status data =>
            serverName = steamApiHost ∧ proofSource request = some .tradeStatus ∧
              parseTradeStatus ext body = .ok data
        | .community data =>
            serverName = steamCommunityHost ∧ proofSource request = some .community ∧
              parseCommunityHtml ext.inflate request response = .ok data := by
  unfold gather
  simp only [bind_eq_ok, admittedSource_eq_ok_iff, mapErr_eq_ok]
  constructor
  · rintro ⟨source, ⟨rfl, hSource⟩, body, hBody, hParse⟩
    refine ⟨body, hBody, ?_⟩
    cases source with
    | tradeOffer =>
        simp only [bind_eq_ok, mapErr_eq_ok, Except.ok.injEq] at hParse
        obtain ⟨data, hData, rfl⟩ := hParse
        exact ⟨rfl, hSource, rfl, hData⟩
    | tradeStatus =>
        simp only [bind_eq_ok, mapErr_eq_ok, Except.ok.injEq] at hParse
        obtain ⟨data, hData, rfl⟩ := hParse
        exact ⟨rfl, hSource, hData⟩
    | community =>
        simp only [bind_eq_ok, mapErr_eq_ok, Except.ok.injEq] at hParse
        obtain ⟨data, hData, rfl⟩ := hParse
        exact ⟨rfl, hSource, hData⟩
  · rintro ⟨body, hBody, hEvidence⟩
    cases evidence with
    | offer requestId data =>
        obtain ⟨rfl, hSource, rfl, hData⟩ := hEvidence
        exact ⟨.tradeOffer, ⟨rfl, hSource⟩, body, hBody, by simp [hData]⟩
    | status data =>
        obtain ⟨rfl, hSource, hData⟩ := hEvidence
        exact ⟨.tradeStatus, ⟨rfl, hSource⟩, body, hBody, by simp [hData]⟩
    | community data =>
        obtain ⟨rfl, hSource, hData⟩ := hEvidence
        exact ⟨.community, ⟨rfl, hSource⟩, body, hBody, by simp [hData]⟩

end Externals

end SettlementOracle
