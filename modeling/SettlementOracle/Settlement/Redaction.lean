import SettlementOracle.Checked.Masking
import SettlementOracle.Settlement.Soundness

/-! Redacted transcripts. Hidden bytes reach the engine as zeros, so hiding a
byte can change what is read. Evidence read from a redacted transcript is safe
to settle on exactly when the evidence of the full one covers it. -/
namespace SettlementOracle

open Checked

/-- Overwrite the hidden positions with zeros. -/
def redact (hidden : Nat → Bool) (bytes : List UInt8) : List UInt8 := mask 0 hidden bytes

/-- Whatever the redacted transcript settles for the escrow at this time, the full
transcript settles too. -/
def RedactionSafeAt (ext : Externals) (serverName : String) (request response : List UInt8)
    (hiddenRequest hiddenResponse : Nat → Bool) (escrow : EscrowSnapshot)
    (proofTimestamp : UInt64) : Prop :=
  ∀ settlement,
    Oracle.decide ext serverName (redact hiddenRequest request) (redact hiddenResponse response)
      escrow proofTimestamp = .ok settlement →
    Oracle.decide ext serverName request response escrow proofTimestamp = .ok settlement

def RedactionSafe (ext : Externals) (serverName : String) (request response : List UInt8)
    (hiddenRequest hiddenResponse : Nat → Bool) : Prop :=
  ∀ escrow proofTimestamp, RedactionSafeAt ext serverName request response hiddenRequest
    hiddenResponse escrow proofTimestamp

/-- The request names no trade offer, or the one of the response. -/
def NamesOffer (requestId : Option UInt64) (data : TradeOfferData) : Prop :=
  ∀ id, requestId = some id → id = data.tradeOfferId

/-- Two offers with the same parties and first assets, and with the same terminal
state and creator where these decide the refund reason. -/
structure OfferCovers (full seen : TradeOfferData) : Prop where
  tradeOfferId : full.tradeOfferId = seen.tradeOfferId
  partner : full.partnerSteamId = seen.partnerSteamId
  give : full.assetToGive = seen.assetToGive
  receive : full.assetToReceive = seen.assetToReceive
  state : seen.assetToGive.isSome ∨ seen.assetToReceive.isSome →
    seen.state ∈ [5, 6, 7, 8, 10] → full.state = seen.state ∧
      (seen.state ∈ [5, 6, 7] → full.isOurOffer = seen.isOurOffer)

/-- A completed trade that names the asset given and the partner. -/
def CompletedFor (data : TradeStatusData) (assetId partner : UInt64) : Prop :=
  data.status = 3 ∧ data.assetIdGiven = some assetId ∧ data.partnerSteamId = some partner

def deprecatedStatuses : List UInt32 := [4, 5, 6, 7, 8, 9, 11]

/-- Evidence that settles no escrow at any time. -/
def Evidence.Inert : Evidence → Prop
  | .offer requestId data => ¬NamesOffer requestId data
  | .status data => (∀ assetId partner, ¬CompletedFor data assetId partner) ∧
      (data.status ∈ 12 :: deprecatedStatuses → data.assetId = none)
  | .community data => data.tradeNotFound = false

/-- The full evidence is of the same kind as the evidence seen, and agrees with
it in everything that a settlement depends on. -/
def Evidence.Covers : Evidence → Evidence → Prop
  | .offer requestId full, .offer _ seen => NamesOffer requestId full ∧ OfferCovers full seen
  | .status full, .status seen =>
      (∀ assetId partner, CompletedFor seen assetId partner → CompletedFor full assetId partner ∧
        ∀ time, seen.timeSettlement = some time →
          ∃ earlier, full.timeSettlement = some earlier ∧ earlier ≤ time) ∧
      (seen.status ∈ deprecatedStatuses → seen.assetId.isSome →
        full.status ∈ deprecatedStatuses ∧ full.assetId = seen.assetId) ∧
      (seen.status = 12 → seen.assetId.isSome → full.status = 12 ∧ full.assetId = seen.assetId)
  | .community full, .community seen => full = seen
  | _, _ => False

/-- An escrow with chosen identifiers and an expired deadline. -/
def probe (assetId tradeOfferId sellerSteamId buyerSteamId : UInt64) : EscrowSnapshot where
  assetId := assetId
  tradeOfferId := tradeOfferId
  sellerSteamId := sellerSteamId
  buyerSteamId := buyerSteamId
  seller := Vector.replicate 20 0
  buyer := Vector.replicate 20 0
  amount := 0
  purchaseTime := 0
  abandonedWindow := 0

theorem exists_ne (n : UInt64) : ∃ m, m ≠ n :=
  ⟨n + 1, fun h => absurd (UInt64.add_eq_left.mp h) (by decide)⟩

theorem inert_of_judge {escrow : EscrowSnapshot} {proofTimestamp : UInt64} {seen : Evidence}
    (hInert : seen.Inert) (settlement : Settlement) :
    seen.judge escrow proofTimestamp ≠ .ok settlement := by
  intro h
  cases seen with
  | offer requestId data =>
      obtain ⟨hRequest, hId, _⟩ := judgeTradeOffer_eq_ok_iff.mp h
      exact hInert fun id hSome => (hRequest id hSome).trans hId.symm
  | status data =>
      obtain ⟨hCompleted, hRollback⟩ := hInert
      obtain ⟨hStatus, hGiven, partner, hPartner, _⟩ | ⟨hStatus, hAsset, _⟩ | ⟨hStatus, hAsset, _⟩ :=
        judgeTradeStatus_eq_ok_iff.mp h
      · exact hCompleted _ _ ⟨hStatus, hGiven, hPartner⟩
      · rw [hRollback (List.mem_cons_of_mem _ hStatus)] at hAsset
        cases hAsset
      · rw [hRollback (by rw [hStatus]; exact List.mem_cons_self)] at hAsset
        cases hAsset
  | community data =>
      obtain ⟨_, _, hFound, _⟩ := judgeCommunity_eq_ok_iff.mp h
      cases hInert.symm.trans hFound

/-- The terminal state that a reason of the offer route stands for. -/
def RefundReason.offerState : RefundReason → UInt32
  | .buyerExpired | .sellerExpired => 5
  | .sellerCanceled | .buyerCanceled => 6
  | .buyerDeclined | .sellerDeclined => 7
  | .invalidItems => 8
  | .canceled2FA => 10
  | _ => 0

/-- The reason blames the party that an offer created by the seller would blame. -/
def RefundReason.sellerCreated : RefundReason → Bool
  | .buyerExpired | .sellerCanceled | .buyerDeclined => true
  | _ => false

/-- A terminal reason determines the state, and for states 5, 6 and 7 the creator. -/
theorem terminalReason_inv {created : Bool} {state : UInt32} {reason : RefundReason}
    (h : terminalReason created state = some reason) :
    state = reason.offerState ∧ (state ∈ [5, 6, 7] → created = reason.sellerCreated) := by
  unfold terminalReason at h
  split_ifs at h with h5 h6 h7 h8 h10 <;> obtain rfl := Option.some.inj h
  · subst h5
    cases created <;> exact ⟨rfl, fun _ => rfl⟩
  · subst h6
    cases created <;> exact ⟨rfl, fun _ => rfl⟩
  · subst h7
    cases created <;> exact ⟨rfl, fun _ => rfl⟩
  · exact ⟨h8, fun h => absurd h (by rw [h8]; decide)⟩
  · exact ⟨h10, fun h => absurd h (by rw [h10]; decide)⟩

theorem terminalReason_isSome (created : Bool) {state : UInt32} (h : state ∈ [5, 6, 7, 8, 10]) :
    ∃ reason, terminalReason created state = some reason := by
  simp only [List.mem_cons, List.not_mem_nil, or_false] at h
  obtain rfl | rfl | rfl | rfl | rfl := h <;> exact ⟨_, rfl⟩

theorem terminal_of_reason {created : Bool} {state : UInt32} {reason : RefundReason}
    (h : terminalReason created state = some reason) : state ∈ [5, 6, 7, 8, 10] := by
  by_contra hOther
  simp only [List.mem_cons, List.not_mem_nil, or_false, not_or] at hOther
  unfold terminalReason at h
  rw [if_neg hOther.1, if_neg hOther.2.1, if_neg hOther.2.2.1, if_neg hOther.2.2.2.1,
    if_neg hOther.2.2.2.2] at h
  cases h

/-- The terminal reason of one offer, given to another, fixes its state and creator. -/
theorem terminal_eq_of_reasons {created created' : Bool} {full seen : UInt32}
    (hTerminal : seen ∈ [5, 6, 7, 8, 10])
    (h : ∀ reason, terminalReason created' seen = some reason →
      terminalReason created full = some reason) :
    full = seen ∧ (seen ∈ [5, 6, 7] → created = created') := by
  obtain ⟨reason, hReason⟩ := terminalReason_isSome created' hTerminal
  obtain ⟨hSeen, hSeenCreator⟩ := terminalReason_inv hReason
  obtain ⟨hFull, hFullCreator⟩ := terminalReason_inv (h reason hReason)
  have hState : full = seen := hFull.trans hSeen.symm
  refine ⟨hState, ?_⟩
  intro hBlame
  exact (hFullCreator (hState ▸ hBlame)).trans (hSeenCreator hBlame).symm

/-- Offers that agree on state and creator where it matters have the same terminal reason. -/
theorem terminalReason_covers {created created' : Bool} {full seen : UInt32} {reason : RefundReason}
    (hState : full = seen) (hCreated : seen ∈ [5, 6, 7] → created = created')
    (h : terminalReason created' seen = some reason) : terminalReason created full = some reason := by
  subst hState
  by_cases hBlame : full ∈ [5, 6, 7]
  · rw [hCreated hBlame, h]
  · unfold terminalReason at h ⊢
    simp only [List.mem_cons, List.not_mem_nil, or_false, not_or] at hBlame
    rw [if_neg hBlame.1, if_neg hBlame.2.1, if_neg hBlame.2.2] at h ⊢
    exact h

/-- The part of the offer route behind the check of the parties. -/
def assetReason (assetId : UInt64) (captured : Option UInt64) (terminal : Option RefundReason) :
    Option RefundReason :=
  match captured with
  | none => some .notCS2Item
  | some id => if id ≠ assetId then some .wrongAsset else terminal

theorem assetReason_self (assetId : UInt64) (terminal : Option RefundReason) :
    assetReason assetId (some assetId) terminal = terminal := if_neg (not_not.mpr rfl)

theorem assetReason_ne {assetId id : UInt64} (h : id ≠ assetId) (terminal : Option RefundReason) :
    assetReason assetId (some id) terminal = some .wrongAsset := if_pos h

theorem offerReason_of_party {escrow : EscrowSnapshot} {data : TradeOfferData}
    (hParty : escrow.IsParty data.partnerSteamId) :
    offerReason escrow data = assetReason escrow.assetId (capturedAsset escrow data)
      (terminalReason (determineSellerCreatedOffer
        (data.partnerSteamId == escrow.buyerSteamId) data.isOurOffer) data.state) := by
  unfold offerReason
  rw [if_neg (fun h => hParty.elim h.1 h.2)]
  rfl

theorem terminalReason_ne (created : Bool) (state : UInt32) :
    terminalReason created state ≠ some .notCS2Item ∧
      terminalReason created state ≠ some .wrongAsset := by
  refine ⟨fun h => ?_, fun h => ?_⟩
  · obtain ⟨rfl, _⟩ := terminalReason_inv h
    cases h
  · obtain ⟨rfl, _⟩ := terminalReason_inv h
    cases h

/-- Probing with every asset reveals the captured asset and the terminal reason. -/
theorem captured_of_assetReason {full seen : Option UInt64} {created created' : Bool}
    {state state' : UInt32}
    (h : ∀ assetId reason,
      assetReason assetId seen (terminalReason created' state') = some reason →
      assetReason assetId full (terminalReason created state) = some reason) :
    full = seen ∧ (seen.isSome → ∀ reason, terminalReason created' state' = some reason →
      terminalReason created state = some reason) := by
  obtain ⟨hNotNone, hNotWrong⟩ := terminalReason_ne created state
  cases seen with
  | none =>
      cases full with
      | none => exact ⟨rfl, fun hSome => by cases hSome⟩
      | some id =>
          have hSame := h id .notCS2Item rfl
          rw [assetReason_self] at hSame
          exact absurd hSame hNotNone
  | some id =>
      have hOther : ∀ assetId, id ≠ assetId →
          assetReason assetId full (terminalReason created state) = some .wrongAsset :=
        fun assetId hId => h assetId .wrongAsset (assetReason_ne hId _)
      cases full with
      | none =>
          obtain ⟨other, hne⟩ := exists_ne id
          cases hOther other hne.symm
      | some id' =>
          obtain rfl : id' = id := by
            by_contra hne
            have hWrong := hOther id' (Ne.symm hne)
            rw [assetReason_self] at hWrong
            exact hNotWrong hWrong
          refine ⟨rfl, fun _ reason hReason => ?_⟩
          have hSame := h id' reason ((assetReason_self _ _).trans hReason)
          rwa [assetReason_self] at hSame

theorem listed_of_capturedAsset {escrow : EscrowSnapshot} {data : TradeOfferData} {id : UInt64}
    (h : capturedAsset escrow data = some id) :
    data.assetToGive.isSome ∨ data.assetToReceive.isSome := by
  unfold capturedAsset at h
  split_ifs at h
  · exact Or.inl (Option.isSome_of_eq_some h)
  · exact Or.inr (Option.isSome_of_eq_some h)

theorem offerReason_covers {escrow : EscrowSnapshot} {full seen : TradeOfferData}
    (hCovers : OfferCovers full seen) {reason : RefundReason}
    (h : offerReason escrow seen = some reason) : offerReason escrow full = some reason := by
  have hCaptured : capturedAsset escrow full = capturedAsset escrow seen := by
    unfold capturedAsset
    rw [hCovers.partner, hCovers.give, hCovers.receive]
  by_cases hParty : escrow.IsParty seen.partnerSteamId
  · rw [offerReason_of_party (hCovers.partner ▸ hParty), hCovers.partner, hCaptured]
    rw [offerReason_of_party hParty] at h
    cases hAsset : capturedAsset escrow seen with
    | none => rwa [hAsset] at h
    | some id =>
        rw [hAsset] at h
        by_cases hId : id = escrow.assetId
        · subst hId
          rw [assetReason_self] at h ⊢
          have hListed := listed_of_capturedAsset hAsset
          obtain ⟨hState, hCreator⟩ := hCovers.state hListed (terminal_of_reason h)
          exact terminalReason_covers hState (fun hBlame => by rw [hCreator hBlame]) h
        · rwa [assetReason_ne hId] at h ⊢
  · have hOther : ¬escrow.IsParty full.partnerSteamId := hCovers.partner ▸ hParty
    have hSeen := offerReason_eq_some_iff.mpr (show OfferReason escrow seen .wrongParties from hParty)
    rw [← h, hSeen]
    exact offerReason_eq_some_iff.mpr hOther

/-- Offers that settle alike on every escrow cover each other. -/
theorem offerCovers_of_reasons {full seen : TradeOfferData}
    (h : ∀ escrow reason, escrow.tradeOfferId = seen.tradeOfferId →
      offerReason escrow seen = some reason →
      full.tradeOfferId = escrow.tradeOfferId ∧ offerReason escrow full = some reason) :
    OfferCovers full seen := by
  have hStranger : ∀ steamId, seen.partnerSteamId ≠ steamId →
      full.tradeOfferId = seen.tradeOfferId ∧ full.partnerSteamId ≠ steamId := by
    intro steamId hne
    obtain ⟨hId, hReason⟩ := h (probe 0 seen.tradeOfferId steamId steamId) .wrongParties rfl
      (offerReason_eq_some_iff.mpr (not_or.mpr ⟨hne, hne⟩))
    exact ⟨hId, (not_or.mp (offerReason_eq_some_iff.mp hReason)).1⟩
  obtain ⟨other, hOther⟩ := exists_ne seen.partnerSteamId
  have hPartner : full.partnerSteamId = seen.partnerSteamId := by
    by_contra hne
    exact (hStranger _ (Ne.symm hne)).2 rfl
  -- the seller captures when the partner is the buyer, and the buyer otherwise
  have hGive : full.assetToGive = seen.assetToGive ∧ (seen.assetToGive.isSome → ∀ reason,
      terminalReason seen.isOurOffer seen.state = some reason →
      terminalReason full.isOurOffer full.state = some reason) := by
    refine captured_of_assetReason fun assetId reason hReason => ?_
    have hBoth := (h (probe assetId seen.tradeOfferId other seen.partnerSteamId) reason rfl ?_).2
    · rw [offerReason_of_party (Or.inr hPartner)] at hBoth
      simpa [capturedAsset, probe, hPartner, determineSellerCreatedOffer] using hBoth
    · rw [offerReason_of_party (Or.inr rfl)]
      simpa [capturedAsset, probe, determineSellerCreatedOffer] using hReason
  have hReceive : full.assetToReceive = seen.assetToReceive ∧ (seen.assetToReceive.isSome →
      ∀ reason, terminalReason (!seen.isOurOffer) seen.state = some reason →
      terminalReason (!full.isOurOffer) full.state = some reason) := by
    refine captured_of_assetReason fun assetId reason hReason => ?_
    have hBoth := (h (probe assetId seen.tradeOfferId seen.partnerSteamId other) reason rfl ?_).2
    · rw [offerReason_of_party (Or.inl hPartner)] at hBoth
      simpa [capturedAsset, probe, hPartner, hOther.symm, determineSellerCreatedOffer] using hBoth
    · rw [offerReason_of_party (Or.inl rfl)]
      simpa [capturedAsset, probe, hOther.symm, determineSellerCreatedOffer] using hReason
  refine ⟨(hStranger other hOther.symm).1, hPartner, hGive.1, hReceive.1, ?_⟩
  intro hListed hTerminal
  obtain hSome | hSome := hListed
  · exact terminal_eq_of_reasons hTerminal (hGive.2 hSome)
  · obtain ⟨hState, hCreator⟩ := terminal_eq_of_reasons hTerminal (hReceive.2 hSome)
    exact ⟨hState, fun hBlame => Bool.not_inj (hCreator hBlame)⟩

/-- The route that a settlement was decided on can be read off the settlement. -/
def Settlement.source (settlement : Settlement) : ProofSource :=
  match settlement.refundReason with
  | .tradeNotExist => .community
  | .none | .wrongRecipient | .tradeRollback | .deprecatedRollback => .tradeStatus
  | _ => .tradeOffer

def Evidence.source : Evidence → ProofSource
  | .offer _ _ => .tradeOffer
  | .status _ => .tradeStatus
  | .community _ => .community

theorem source_of_judge {escrow : EscrowSnapshot} {proofTimestamp : UInt64} {evidence : Evidence}
    {settlement : Settlement} (h : evidence.judge escrow proofTimestamp = .ok settlement) :
    settlement.source = evidence.source := by
  cases evidence with
  | offer requestId data =>
      obtain ⟨_, _, reason, hReason, rfl⟩ := judgeTradeOffer_eq_ok_iff.mp h
      cases reason with
      | none | timeout | wrongRecipient | tradeRollback | deprecatedRollback | tradeNotExist =>
          exact False.elim hReason
      | _ => rfl
  | status data =>
      obtain ⟨_, _, _, _, ⟨_, rfl⟩ | ⟨_, _, _, _, rfl⟩⟩ | ⟨_, _, rfl⟩ | ⟨_, _, rfl⟩ :=
        judgeTradeStatus_eq_ok_iff.mp h <;> rfl
  | community data =>
      obtain ⟨_, _, _, _, rfl⟩ := judgeCommunity_eq_ok_iff.mp h
      rfl

/-- Evidence that is not inert settles some escrow. -/
theorem exists_judge_of_not_inert {seen : Evidence} (h : ¬seen.Inert) :
    ∃ escrow proofTimestamp settlement, seen.judge escrow proofTimestamp = .ok settlement := by
  cases seen with
  | offer requestId data =>
      obtain ⟨other, hOther⟩ := exists_ne data.partnerSteamId
      refine ⟨probe 0 data.tradeOfferId other other, 0, _,
        judgeTradeOffer_eq_ok_iff.mpr ⟨not_not.mp h, rfl, .wrongParties, ?_, rfl⟩⟩
      exact not_or.mpr ⟨hOther.symm, hOther.symm⟩
  | status data =>
      by_cases hCompleted : ∃ assetId partner, CompletedFor data assetId partner
      · obtain ⟨assetId, partner, hStatus, hGiven, hPartner⟩ := hCompleted
        obtain ⟨other, hOther⟩ := exists_ne partner
        exact ⟨probe assetId 0 other other, 0, _, judgeTradeStatus_eq_ok_iff.mpr
          (Or.inl ⟨hStatus, hGiven, partner, hPartner, Or.inl ⟨hOther.symm, rfl⟩⟩)⟩
      · have hRollback : ¬(data.status ∈ 12 :: deprecatedStatuses → data.assetId = none) :=
          fun hNone => h ⟨fun assetId partner hc => hCompleted ⟨assetId, partner, hc⟩, hNone⟩
        obtain ⟨hStatus, hAsset⟩ := Classical.not_imp.mp hRollback
        obtain ⟨assetId, hAsset⟩ := Option.ne_none_iff_exists'.mp hAsset
        obtain hCurrent | hOld := List.mem_cons.mp hStatus
        · exact ⟨probe assetId 0 0 0, 0, _, judgeTradeStatus_eq_ok_iff.mpr
            (Or.inr (Or.inr ⟨hCurrent, hAsset, rfl⟩))⟩
        · exact ⟨probe assetId 0 0 0, 0, _, judgeTradeStatus_eq_ok_iff.mpr
            (Or.inr (Or.inl ⟨hOld, hAsset, rfl⟩))⟩
  | community data =>
      exact ⟨probe 0 data.tradeOfferId data.proverSteamId 0, 0, _, judgeCommunity_eq_ok_iff.mpr
        ⟨rfl, Or.inl rfl, eq_true_of_ne_false h, (by decide : (0 : UInt64) + 0 ≤ 0), rfl⟩⟩

/-- Covering evidence settles whatever the covered evidence settles. -/
theorem judge_of_covers {escrow : EscrowSnapshot} {proofTimestamp : UInt64} {full seen : Evidence}
    {settlement : Settlement} (hCovers : full.Covers seen)
    (h : seen.judge escrow proofTimestamp = .ok settlement) :
    full.judge escrow proofTimestamp = .ok settlement := by
  match full, seen, hCovers with
  | .offer _ full, .offer _ seen, ⟨hNames, hOffer⟩ =>
      obtain ⟨_, hId, reason, hReason, rfl⟩ := judgeTradeOffer_eq_ok_iff.mp h
      have hFull : full.tradeOfferId = escrow.tradeOfferId := hOffer.tradeOfferId.trans hId
      refine judgeTradeOffer_eq_ok_iff.mpr
        ⟨fun id hSome => (hNames id hSome).trans hFull, hFull, reason, ?_, rfl⟩
      exact offerReason_eq_some_iff.mp
        (offerReason_covers hOffer (offerReason_eq_some_iff.mpr hReason))
  | .status full, .status seen, ⟨hCompleted, hOld, hCurrent⟩ =>
      refine judgeTradeStatus_eq_ok_iff.mpr ?_
      obtain ⟨hStatus, hGiven, partner, hPartner, hOutcome⟩ | ⟨hStatus, hAsset, rfl⟩ |
        ⟨hStatus, hAsset, rfl⟩ := judgeTradeStatus_eq_ok_iff.mp h
      · obtain ⟨⟨hStatus', hGiven', hPartner'⟩, hTime⟩ :=
          hCompleted _ partner ⟨hStatus, hGiven, hPartner⟩
        refine Or.inl ⟨hStatus', hGiven', partner, hPartner', ?_⟩
        obtain hOther | ⟨hBuyer, time, hSettled, hPassed, rfl⟩ := hOutcome
        · exact Or.inl hOther
        · obtain ⟨earlier, hEarlier, hLe⟩ := hTime time hSettled
          exact Or.inr ⟨hBuyer, earlier, hEarlier, UInt64.le_trans hLe hPassed, rfl⟩
      · obtain ⟨hStatus', hAsset'⟩ := hOld hStatus (by rw [hAsset]; rfl)
        exact Or.inr (Or.inl ⟨hStatus', hAsset'.trans hAsset, rfl⟩)
      · obtain ⟨hStatus', hAsset'⟩ := hCurrent hStatus (by rw [hAsset]; rfl)
        exact Or.inr (Or.inr ⟨hStatus', hAsset'.trans hAsset, rfl⟩)
  | .community full, .community seen, hSame =>
      obtain rfl : full = seen := hSame
      exact h

theorem statusCovers_of_judge {full seen : TradeStatusData}
    (h : ∀ escrow proofTimestamp settlement,
      judgeTradeStatus escrow seen proofTimestamp = .ok settlement →
      judgeTradeStatus escrow full proofTimestamp = .ok settlement) :
    (Evidence.status full).Covers (.status seen) := by
  refine ⟨fun assetId partner hSeen => ?_, fun hOld hSome => ?_, fun hCurrent hSome => ?_⟩
  · obtain ⟨hStatus, hGiven, hPartner⟩ := hSeen
    have hOther : ∀ buyer, partner ≠ buyer → full.status = 3 ∧ full.assetIdGiven = some assetId ∧
        ∃ other, full.partnerSteamId = some other ∧ other ≠ buyer := by
      intro buyer hne
      have hFull := judgeTradeStatus_eq_ok_iff.mp (h (probe assetId 0 buyer buyer) 0 _
        (judgeTradeStatus_eq_ok_iff.mpr
          (Or.inl ⟨hStatus, hGiven, partner, hPartner, Or.inl ⟨hne, rfl⟩⟩)))
      simp only [refund_inj, refund_ne_release, reduceCtorEq, and_false, or_false, and_true,
        exists_false] at hFull
      exact hFull
    obtain ⟨stranger, hStranger⟩ := exists_ne partner
    obtain ⟨hStatus', hGiven', other, hPartner', _⟩ := hOther stranger hStranger.symm
    obtain rfl : other = partner := by
      by_contra hne
      obtain ⟨_, _, again, hAgain, hNot⟩ := hOther other (Ne.symm hne)
      exact hNot (Option.some.inj (hAgain.symm.trans hPartner'))
    refine ⟨⟨hStatus', hGiven', hPartner'⟩, fun time hTime => ?_⟩
    have hFull := judgeTradeStatus_eq_ok_iff.mp (h (probe assetId 0 0 other) time _
      (judgeTradeStatus_eq_ok_iff.mpr (Or.inl ⟨hStatus, hGiven, other, hPartner,
        Or.inr ⟨rfl, time, hTime, UInt64.le_refl time, rfl⟩⟩)))
    simp only [Ne.symm (refund_ne_release _), and_false, or_false, false_or, and_true] at hFull
    obtain ⟨_, _, _, _, _, earlier, hEarlier, hLe⟩ := hFull
    exact ⟨earlier, hEarlier, hLe⟩
  · obtain ⟨assetId, hAsset⟩ := Option.isSome_iff_exists.mp hSome
    have hFull := judgeTradeStatus_eq_ok_iff.mp (h (probe assetId 0 0 0) 0 _
      (judgeTradeStatus_eq_ok_iff.mpr (Or.inr (Or.inl ⟨hOld, hAsset, rfl⟩))))
    simp only [refund_inj, refund_ne_release, reduceCtorEq, and_false, or_false, false_or, and_true,
      exists_false] at hFull
    exact ⟨hFull.1, hFull.2.trans hAsset.symm⟩
  · obtain ⟨assetId, hAsset⟩ := Option.isSome_iff_exists.mp hSome
    have hFull := judgeTradeStatus_eq_ok_iff.mp (h (probe assetId 0 0 0) 0 _
      (judgeTradeStatus_eq_ok_iff.mpr (Or.inr (Or.inr ⟨hCurrent, hAsset, rfl⟩))))
    simp only [refund_inj, refund_ne_release, reduceCtorEq, and_false, or_false, false_or, and_true,
      exists_false] at hFull
    exact ⟨hFull.1, hFull.2.trans hAsset.symm⟩

theorem offerCovers_of_judge {requestId seenId : Option UInt64} {full seen : TradeOfferData}
    (hNames : NamesOffer seenId seen)
    (h : ∀ escrow settlement, judgeTradeOffer escrow seenId seen = .ok settlement →
      judgeTradeOffer escrow requestId full = .ok settlement) :
    (Evidence.offer requestId full).Covers (.offer seenId seen) := by
  have hJudge : ∀ escrow reason, escrow.tradeOfferId = seen.tradeOfferId →
      offerReason escrow seen = some reason →
      (∀ id, requestId = some id → id = escrow.tradeOfferId) ∧
        full.tradeOfferId = escrow.tradeOfferId ∧ offerReason escrow full = some reason := by
    intro escrow reason hId hReason
    have hSeen := judgeTradeOffer_eq_ok_iff.mpr ⟨fun id hSome => (hNames id hSome).trans hId.symm,
      hId.symm, reason, offerReason_eq_some_iff.mp hReason, rfl⟩
    obtain ⟨hRequest, hFull, other, hOther, hSame⟩ := judgeTradeOffer_eq_ok_iff.mp (h escrow _ hSeen)
    obtain rfl := refund_inj.mp hSame
    exact ⟨hRequest, hFull, offerReason_eq_some_iff.mpr hOther⟩
  refine ⟨?_, offerCovers_of_reasons fun escrow reason hId hReason => (hJudge _ _ hId hReason).2⟩
  obtain ⟨other, hOther⟩ := exists_ne seen.partnerSteamId
  obtain ⟨hRequest, hFull, _⟩ := hJudge (probe 0 seen.tradeOfferId other other) .wrongParties rfl
    (offerReason_eq_some_iff.mpr (not_or.mpr ⟨hOther.symm, hOther.symm⟩))
  exact fun id hSome => (hRequest id hSome).trans hFull.symm

theorem communityCovers_of_judge {full seen : CommunityProofData} (hFound : seen.tradeNotFound = true)
    (h : ∀ escrow proofTimestamp settlement,
      judgeCommunity escrow seen proofTimestamp = .ok settlement →
      judgeCommunity escrow full proofTimestamp = .ok settlement) : full = seen := by
  let escrow := probe 0 seen.tradeOfferId seen.proverSteamId seen.proverSteamId
  have hSeen : judgeCommunity escrow seen 0 = .ok (escrow.refund .tradeNotExist) :=
    judgeCommunity_eq_ok_iff.mpr
      ⟨rfl, Or.inl rfl, hFound, (by decide : (0 : UInt64) + 0 ≤ 0), rfl⟩
  obtain ⟨hId, hParty, hFound', _⟩ := judgeCommunity_eq_ok_iff.mp (h _ _ _ hSeen)
  have hProver : full.proverSteamId = seen.proverSteamId := hParty.elim (fun he => he) fun he => he
  have hOffer : full.tradeOfferId = seen.tradeOfferId := hId
  cases full
  cases seen
  simp_all

/-- Evidence that settles whatever the evidence seen settles covers it. -/
theorem covers_of_judge {full seen : Evidence} (hInert : ¬seen.Inert)
    (h : ∀ escrow proofTimestamp settlement, seen.judge escrow proofTimestamp = .ok settlement →
      full.judge escrow proofTimestamp = .ok settlement) : full.Covers seen := by
  have hSource : full.source = seen.source := by
    obtain ⟨escrow, proofTimestamp, settlement, hSeen⟩ := exists_judge_of_not_inert hInert
    exact (source_of_judge (h _ _ _ hSeen)).symm.trans (source_of_judge hSeen)
  match full, seen, hSource with
  | .offer _ full, .offer _ seen, _ =>
      exact offerCovers_of_judge (not_not.mp hInert) fun escrow settlement hSeen =>
        h escrow 0 settlement hSeen
  | .status full, .status seen, _ => exact statusCovers_of_judge h
  | .community full, .community seen, _ =>
      exact communityCovers_of_judge (eq_true_of_ne_false hInert) h

/-- What the redacted transcript is read as is inert, or covered by what the
full transcript is read as. -/
def RedactionCovered (ext : Externals) (serverName : String) (request response : List UInt8)
    (hiddenRequest hiddenResponse : Nat → Bool) : Prop :=
  ∀ seen, gather ext serverName (redact hiddenRequest request) (redact hiddenResponse response) =
      .ok seen →
    seen.Inert ∨ ∃ full, gather ext serverName request response = .ok full ∧ full.Covers seen

theorem redactionSafe_iff (ext : Externals) (serverName : String) (request response : List UInt8)
    (hiddenRequest hiddenResponse : Nat → Bool) :
    RedactionSafe ext serverName request response hiddenRequest hiddenResponse ↔
      RedactionCovered ext serverName request response hiddenRequest hiddenResponse := by
  constructor
  · intro h seen hSeen
    by_cases hInert : seen.Inert
    · exact Or.inl hInert
    · have hDecide : ∀ escrow proofTimestamp settlement,
          seen.judge escrow proofTimestamp = .ok settlement →
          ∃ full, gather ext serverName request response = .ok full ∧
            full.judge escrow proofTimestamp = .ok settlement :=
        fun escrow proofTimestamp settlement hJudge => (decide_eq_ok_iff ext).mp
          (h _ _ _ ((decide_eq_ok_iff ext).mpr ⟨seen, hSeen, hJudge⟩))
      obtain ⟨_, _, _, hJudge⟩ := exists_judge_of_not_inert hInert
      obtain ⟨full, hFull, _⟩ := hDecide _ _ _ hJudge
      refine Or.inr ⟨full, hFull, covers_of_judge hInert fun _ _ _ hJudge => ?_⟩
      obtain ⟨again, hAgain, hResult⟩ := hDecide _ _ _ hJudge
      obtain rfl : again = full := Except.ok.inj (hAgain.symm.trans hFull)
      exact hResult
  · intro h escrow proofTimestamp settlement hDecide
    obtain ⟨seen, hSeen, hJudge⟩ := (decide_eq_ok_iff ext).mp hDecide
    obtain hInert | ⟨full, hFull, hCovers⟩ := h seen hSeen
    · exact absurd hJudge (inert_of_judge hInert settlement)
    · exact (decide_eq_ok_iff ext).mpr ⟨full, hFull, judge_of_covers hCovers hJudge⟩

/-- An error page that a visitor without a session sees, up to the sign-in link. -/
def errorPage : List UInt8 :=
  ascii "HTTP/1.1 200 OK\r\n\r\n<title>Steam Community :: Error</title>" ++
    ascii "The trade offer does not exist, or belongs to another user. "

def signInPage : List UInt8 := errorPage ++ signIn

/-- Hides the sign-in link. -/
def hideSignIn (i : Nat) : Bool := 118 ≤ i

theorem hiding_signIn_settles :
    ¬RedactionSafe (statusExternals completedJson completedTrade) steamCommunityHost
      communityRequest signInPage (fun _ => false) hideSignIn := by
  intro h
  have hPage : redact hideSignIn signInPage = errorPage ++ List.replicate 7 0 := by decide +kernel
  have hRequest : redact (fun _ => false) communityRequest = communityRequest := by decide +kernel
  have hRedacted : Oracle.decide (statusExternals completedJson completedTrade) steamCommunityHost
      (redact (fun _ => false) communityRequest) (redact hideSignIn signInPage) sampleEscrow
      sampleNow = .ok (sampleEscrow.refund .tradeNotExist) := by
    rw [hPage, hRequest]
    decide +kernel
  have hFull : Oracle.decide (statusExternals completedJson completedTrade) steamCommunityHost
      communityRequest signInPage sampleEscrow sampleNow =
        fail (.parseFailed .missingCookie) := by
    decide +kernel
  have hBoth := h _ _ _ hRedacted
  rw [hFull] at hBoth
  cases hBoth

end SettlementOracle
