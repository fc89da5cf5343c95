import SettlementOracle.Settlement.Oracle

/-! What each judgement accepts, stated by refund reason. -/
namespace SettlementOracle

open Checked

variable {escrow : EscrowSnapshot} {proofTimestamp : UInt64} {settlement : Settlement}

@[simp] theorem refund_inj {first second : RefundReason} :
    escrow.refund first = escrow.refund second ↔ first = second := by
  simp [EscrowSnapshot.refund]

@[simp] theorem refund_ne_release (reason : RefundReason) : escrow.refund reason ≠ escrow.release := by
  simp [EscrowSnapshot.refund, EscrowSnapshot.release]

/-- The identifier is that of the seller or of the buyer. -/
def EscrowSnapshot.IsParty (escrow : EscrowSnapshot) (steamId : UInt64) : Prop :=
  steamId = escrow.sellerSteamId ∨ steamId = escrow.buyerSteamId

/-- The asset in the list that the capturing party's view must show. -/
def capturedAsset (escrow : EscrowSnapshot) (data : TradeOfferData) : Option UInt64 :=
  if data.partnerSteamId = escrow.buyerSteamId then data.assetToGive else data.assetToReceive

/-- The seller captured an offer of his own, or the buyer one that is not his own. -/
def SellerCreated (escrow : EscrowSnapshot) (data : TradeOfferData) : Prop :=
  data.partnerSteamId = escrow.buyerSteamId ↔ data.isOurOffer = true

/-- The offer is between the parties and moves the escrow's asset. -/
def MatchesEscrow (escrow : EscrowSnapshot) (data : TradeOfferData) : Prop :=
  escrow.IsParty data.partnerSteamId ∧ capturedAsset escrow data = some escrow.assetId

/-- When an offer is refunded for a reason. -/
def OfferReason (escrow : EscrowSnapshot) (data : TradeOfferData) : RefundReason → Prop
  | .wrongParties => ¬escrow.IsParty data.partnerSteamId
  | .notCS2Item => escrow.IsParty data.partnerSteamId ∧ capturedAsset escrow data = none
  | .wrongAsset => escrow.IsParty data.partnerSteamId ∧
      ∃ id, capturedAsset escrow data = some id ∧ id ≠ escrow.assetId
  | .buyerExpired => MatchesEscrow escrow data ∧ data.state = 5 ∧ SellerCreated escrow data
  | .sellerExpired => MatchesEscrow escrow data ∧ data.state = 5 ∧ ¬SellerCreated escrow data
  | .sellerCanceled => MatchesEscrow escrow data ∧ data.state = 6 ∧ SellerCreated escrow data
  | .buyerCanceled => MatchesEscrow escrow data ∧ data.state = 6 ∧ ¬SellerCreated escrow data
  | .buyerDeclined => MatchesEscrow escrow data ∧ data.state = 7 ∧ SellerCreated escrow data
  | .sellerDeclined => MatchesEscrow escrow data ∧ data.state = 7 ∧ ¬SellerCreated escrow data
  | .invalidItems => MatchesEscrow escrow data ∧ data.state = 8
  | .canceled2FA => MatchesEscrow escrow data ∧ data.state = 10
  | _ => False

theorem determineSellerCreatedOffer_eq_true_iff (escrow : EscrowSnapshot) (data : TradeOfferData) :
    determineSellerCreatedOffer (data.partnerSteamId == escrow.buyerSteamId) data.isOurOffer = true ↔
      SellerCreated escrow data := by
  unfold determineSellerCreatedOffer SellerCreated
  by_cases hBuyer : data.partnerSteamId = escrow.buyerSteamId <;> cases data.isOurOffer <;>
    simp [hBuyer]

/-- A terminal state has the reason that its fault attribution names. -/
theorem terminalReason_eq_some_iff {data : TradeOfferData} {reason : RefundReason}
    (hMatch : MatchesEscrow escrow data) :
    terminalReason (determineSellerCreatedOffer (data.partnerSteamId == escrow.buyerSteamId)
      data.isOurOffer) data.state = some reason ↔ OfferReason escrow data reason := by
  have hCreated := determineSellerCreatedOffer_eq_true_iff escrow data
  generalize determineSellerCreatedOffer _ _ = created at hCreated ⊢
  unfold terminalReason
  constructor
  · intro h
    cases created with
    | true =>
        have hSeller := hCreated.mp rfl
        split_ifs at h with h5 h6 h7 h8 h10 <;> obtain rfl := Option.some.inj h
        exacts [⟨hMatch, h5, hSeller⟩, ⟨hMatch, h6, hSeller⟩, ⟨hMatch, h7, hSeller⟩,
          ⟨hMatch, h8⟩, ⟨hMatch, h10⟩]
    | false =>
        have hBuyer : ¬SellerCreated escrow data := fun h => Bool.false_ne_true (hCreated.mpr h)
        split_ifs at h with h5 h6 h7 h8 h10 <;> obtain rfl := Option.some.inj h
        exacts [⟨hMatch, h5, hBuyer⟩, ⟨hMatch, h6, hBuyer⟩, ⟨hMatch, h7, hBuyer⟩,
          ⟨hMatch, h8⟩, ⟨hMatch, h10⟩]
  · intro h
    obtain ⟨hParty, hAsset⟩ := hMatch
    cases reason with
    | none | timeout | wrongRecipient | tradeRollback | deprecatedRollback | tradeNotExist => cases h
    | wrongParties => exact absurd hParty h
    | notCS2Item =>
        cases h.2.symm.trans hAsset
    | wrongAsset =>
        obtain ⟨_, id, hId, hOther⟩ := h
        exact absurd (Option.some.inj (hId.symm.trans hAsset)) hOther
    | invalidItems | canceled2FA => rw [h.2]; rfl
    | buyerExpired | sellerCanceled | buyerDeclined =>
        rw [hCreated.mpr h.2.2, h.2.1]
        rfl
    | sellerExpired | buyerCanceled | sellerDeclined =>
        rw [Bool.eq_false_iff.mpr fun he => h.2.2 (hCreated.mp he), h.2.1]
        rfl

/-- The refund reason of an offer with the escrow's identifier, if it has one. -/
def offerReason (escrow : EscrowSnapshot) (data : TradeOfferData) : Option RefundReason :=
  if data.partnerSteamId ≠ escrow.sellerSteamId ∧ data.partnerSteamId ≠ escrow.buyerSteamId then
    some .wrongParties
  else
    match capturedAsset escrow data with
    | none => some .notCS2Item
    | some id =>
        if id ≠ escrow.assetId then some .wrongAsset
        else terminalReason (determineSellerCreatedOffer
          (data.partnerSteamId == escrow.buyerSteamId) data.isOurOffer) data.state

theorem judgeTradeOffer_eq (escrow : EscrowSnapshot) (requestId : Option UInt64)
    (data : TradeOfferData) :
    judgeTradeOffer escrow requestId data = (do
      checkRequestId escrow requestId
      failIf (data.tradeOfferId ≠ escrow.tradeOfferId)
        (.tradeOfferIdMismatch escrow.tradeOfferId data.tradeOfferId)
      let reason ← okOr (offerReason escrow data) (.nonTerminalState data.state)
      .ok (escrow.refund reason)) := by
  unfold judgeTradeOffer offerReason capturedAsset
  refine bind_congr fun _ => bind_congr fun _ => ?_
  simp only [beq_iff_eq]
  split_ifs with hParties hBuyer
  · rfl
  · cases data.assetToGive with
    | none => rfl
    | some id =>
        by_cases hAsset : id = escrow.assetId <;> simp [hAsset]
  · cases data.assetToReceive with
    | none => rfl
    | some id =>
        by_cases hAsset : id = escrow.assetId <;> simp [hAsset]

theorem offerReason_eq_some_iff {data : TradeOfferData} {reason : RefundReason} :
    offerReason escrow data = some reason ↔ OfferReason escrow data reason := by
  have hOther : (data.partnerSteamId ≠ escrow.sellerSteamId ∧
      data.partnerSteamId ≠ escrow.buyerSteamId) ↔ ¬escrow.IsParty data.partnerSteamId := by
    simp [EscrowSnapshot.IsParty]
  unfold offerReason
  by_cases hParty : escrow.IsParty data.partnerSteamId
  · rw [if_neg (fun h => hOther.mp h hParty)]
    cases hAsset : capturedAsset escrow data with
    | none =>
        cases reason <;> simp [OfferReason, MatchesEscrow, hParty, hAsset]
    | some id =>
        by_cases hSame : id = escrow.assetId
        · subst hSame
          simp only [ne_eq, not_true_eq_false, if_false]
          exact terminalReason_eq_some_iff ⟨hParty, hAsset⟩
        · cases reason <;> simp [OfferReason, MatchesEscrow, hParty, hAsset, hSame]
  · rw [if_pos (hOther.mpr hParty)]
    cases reason <;> simp [OfferReason, MatchesEscrow, hParty]

/-- The offer route refunds for exactly one reason, and never releases. -/
theorem judgeTradeOffer_eq_ok_iff {requestId : Option UInt64} {data : TradeOfferData} :
    judgeTradeOffer escrow requestId data = .ok settlement ↔
      (∀ id, requestId = some id → id = escrow.tradeOfferId) ∧
        data.tradeOfferId = escrow.tradeOfferId ∧
        ∃ reason, OfferReason escrow data reason ∧ settlement = escrow.refund reason := by
  have hRequest : (∃ u, checkRequestId escrow requestId = .ok u) ↔
      ∀ id, requestId = some id → id = escrow.tradeOfferId := by
    cases requestId <;> simp [checkRequestId]
  rw [judgeTradeOffer_eq]
  simp only [bind_eq_ok, failIf_eq_ok, okOr_eq_ok, exists_const, exists_and_right, hRequest, ne_eq,
    not_not, offerReason_eq_some_iff, Except.ok.injEq, eq_comm (a := settlement)]

/-- The status route releases only for a completed trade. -/
theorem judgeTradeStatus_eq_ok_iff {data : TradeStatusData} :
    judgeTradeStatus escrow data proofTimestamp = .ok settlement ↔
      (data.status = 3 ∧ data.assetIdGiven = some escrow.assetId ∧
        ∃ partner, data.partnerSteamId = some partner ∧
          ((partner ≠ escrow.buyerSteamId ∧ settlement = escrow.refund .wrongRecipient) ∨
            (partner = escrow.buyerSteamId ∧ ∃ time, data.timeSettlement = some time ∧
              time ≤ proofTimestamp ∧ settlement = escrow.release))) ∨
      (data.status ∈ [4, 5, 6, 7, 8, 9, 11] ∧ data.assetId = some escrow.assetId ∧
        settlement = escrow.refund .deprecatedRollback) ∨
      (data.status = 12 ∧ data.assetId = some escrow.assetId ∧
        settlement = escrow.refund .tradeRollback) := by
  have hRollback : ∀ reason, judgeRollback escrow data reason = .ok settlement ↔
      data.assetId = some escrow.assetId ∧ settlement = escrow.refund reason := by
    intro reason
    simp [judgeRollback, bind_eq_ok, eq_comm (a := settlement)]
  have hCompleted : judgeCompleted escrow data proofTimestamp = .ok settlement ↔
      data.assetIdGiven = some escrow.assetId ∧
        ∃ partner, data.partnerSteamId = some partner ∧
          ((partner ≠ escrow.buyerSteamId ∧ settlement = escrow.refund .wrongRecipient) ∨
            (partner = escrow.buyerSteamId ∧ ∃ time, data.timeSettlement = some time ∧
              time ≤ proofTimestamp ∧ settlement = escrow.release)) := by
    unfold judgeCompleted
    simp only [bind_eq_ok, failIf_eq_ok, okOr_eq_ok, exists_const, ne_eq, not_not]
    refine and_congr_right fun _ => exists_congr fun partner => and_congr_right fun _ => ?_
    by_cases hBuyer : partner = escrow.buyerSteamId
    · simp [hBuyer, bind_eq_ok, eq_comm (a := settlement)]
    · simp [hBuyer, eq_comm (a := settlement)]
  unfold judgeTradeStatus
  by_cases h3 : data.status = 3
  · simp [h3, hCompleted]
  · by_cases hOld : data.status ∈ [4, 5, 6, 7, 8, 9, 11]
    · have h12 : data.status ≠ 12 := fun h => by simp [h] at hOld
      rw [if_neg h3, if_pos hOld, hRollback]
      simp [h3, hOld, h12]
    · by_cases h12 : data.status = 12
      · simp [h12, hRollback]
      · simp only [h3, hOld, h12, if_false, fail_ne_ok, false_and, or_self]

theorem judgeCommunity_eq_ok_iff {data : CommunityProofData} :
    judgeCommunity escrow data proofTimestamp = .ok settlement ↔
      data.tradeOfferId = escrow.tradeOfferId ∧ escrow.IsParty data.proverSteamId ∧
        data.tradeNotFound = true ∧
        escrow.purchaseTime + escrow.abandonedWindow ≤ proofTimestamp ∧
        settlement = escrow.refund .tradeNotExist := by
  unfold judgeCommunity EscrowSnapshot.IsParty
  simp only [bind_eq_ok, failIf_eq_ok, exists_const, ne_eq, not_not, not_and_or,
    Bool.not_eq_false, Except.ok.injEq, UInt64.not_lt, eq_comm (a := settlement)]

/-- Every judgement keeps the identifiers of the escrow, and only a release
carries no refund reason. -/
theorem judge_eq_ok {evidence : Evidence}
    (h : evidence.judge escrow proofTimestamp = .ok settlement) :
    settlement = escrow.release ∨ ∃ reason, reason ≠ .none ∧ settlement = escrow.refund reason := by
  cases evidence with
  | offer requestId data =>
      obtain ⟨_, _, reason, hReason, rfl⟩ := judgeTradeOffer_eq_ok_iff.mp h
      refine Or.inr ⟨reason, ?_, rfl⟩
      rintro rfl
      exact hReason
  | status data =>
      obtain ⟨_, _, _, _, ⟨_, rfl⟩ | ⟨_, _, _, _, rfl⟩⟩ | ⟨_, _, rfl⟩ | ⟨_, _, rfl⟩ :=
        judgeTradeStatus_eq_ok_iff.mp h
      · exact Or.inr ⟨_, by decide, rfl⟩
      · exact Or.inl rfl
      · exact Or.inr ⟨_, by decide, rfl⟩
      · exact Or.inr ⟨_, by decide, rfl⟩
  | community data =>
      obtain ⟨_, _, _, _, rfl⟩ := judgeCommunity_eq_ok_iff.mp h
      exact Or.inr ⟨_, by decide, rfl⟩

end SettlementOracle
