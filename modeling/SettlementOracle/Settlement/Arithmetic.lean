import SettlementOracle.Settlement.ChainReader
import SettlementOracle.Settlement.Soundness

/-! The numbers of a settlement: the words that a snapshot is narrowed from, and the
two sums that are taken in `u64`. -/
namespace SettlementOracle

open Checked

theorem toNat_lowLimb {width : Nat} (word : BitVec width) :
    (lowLimb word).toNat = word.toNat % UInt64.size :=
  UInt64.toNat_ofNat'

theorem lowLimb_eq_zero {width : Nat} {word : BitVec width} :
    lowLimb word = 0 ↔ word.toNat % UInt64.size = 0 := by
  rw [← UInt64.toNat_inj, toNat_lowLimb]
  rfl

section Narrowing

namespace EscrowWords

variable (words : EscrowWords)

def answers : ChainAnswers where
  purchases := .ok words.purchase
  listings := .ok words.listing
  abandonedWindow := .ok words.abandonedWindow
  sellerSteamId := fun _ => .ok words.sellerSteamId
  buyerSteamId := fun _ => .ok words.buyerSteamId

/-- The numbers that a snapshot takes from the words. -/
def numbers : List Nat :=
  [words.purchase.tradeOfferId.toNat, words.sellerSteamId.toNat, words.buyerSteamId.toNat,
    words.listing.price.toNat, words.purchase.purchaseTime.toNat, words.abandonedWindow.toNat]

/-- Every number fits the `u64` field of the snapshot. -/
def Fits : Prop := ∀ number ∈ words.numbers, number < UInt64.size

/-- One of the checks of the read refuses the words. The Steam ids are checked after
they are narrowed. -/
def Refused : Prop :=
  words.purchase.buyer = zeroAddress ∨ words.purchase.status ≠ 0 ∨ words.listing.listed = false ∨
    words.sellerSteamId.toNat % UInt64.size = 0 ∨ words.buyerSteamId.toNat % UInt64.size = 0

/-- The snapshot has the numbers of the chain, for an active purchase between
registered parties. -/
structure Faithful (escrow : EscrowSnapshot) : Prop where
  numbers : [escrow.tradeOfferId.toNat, escrow.sellerSteamId.toNat, escrow.buyerSteamId.toNat,
    escrow.amount.toNat, escrow.purchaseTime.toNat, escrow.abandonedWindow.toNat] = words.numbers
  buyer : words.purchase.buyer ≠ zeroAddress
  status : words.purchase.status = 0
  listed : words.listing.listed = true
  sellerSteamId : words.sellerSteamId.toNat ≠ 0
  buyerSteamId : words.buyerSteamId.toNat ≠ 0

/-- A read gives a faithful snapshot, and fails for a number that does not fit. -/
structure NarrowingLaw (displayAddress : Address → String) (assetId : UInt64) : Prop where
  faithful : ∀ escrow, readEscrow displayAddress assetId words.answers = .ok escrow →
    words.Faithful escrow
  overflow : ∀ number ∈ words.numbers, UInt64.size ≤ number →
    ∃ message, readEscrow displayAddress assetId words.answers = .error message

variable {words} {displayAddress : Address → String} {assetId : UInt64} {escrow : EscrowSnapshot}

theorem readEscrow_answers_ok_iff :
    readEscrow displayAddress assetId words.answers = .ok escrow ↔
      ¬words.Refused ∧ escrow = words.snapshot assetId := by
  simp only [readEscrow, bind_eq_ok, decoded_eq_ok, rejectIf_eq_ok, answers, transportError,
    Except.ok.injEq, exists_const, exists_eq_left', true_and, lowLimb_eq_zero, Refused, not_or,
    ne_eq, not_not, Bool.not_eq_false, and_assoc, eq_comm (a := escrow)]
  rfl

theorem readEscrow_answers_error_iff :
    (∃ message, readEscrow displayAddress assetId words.answers = .error message) ↔
      words.Refused := by
  constructor
  · rintro ⟨message, hError⟩
    by_contra hAccepted
    have hOk : readEscrow displayAddress assetId words.answers = .ok (words.snapshot assetId) :=
      readEscrow_answers_ok_iff.mpr ⟨hAccepted, rfl⟩
    rw [hError] at hOk
    cases hOk
  · intro hRefused
    cases hRead : readEscrow displayAddress assetId words.answers with
    | error message => exact ⟨message, rfl⟩
    | ok escrow => exact absurd hRefused (readEscrow_answers_ok_iff.mp hRead).1

/-- Numbers that fit survive the narrowing. -/
theorem faithful_of_fits (hFits : words.Fits) (hAccepted : ¬words.Refused) :
    words.Faithful (words.snapshot assetId) := by
  simp only [Fits, numbers, List.forall_mem_cons, List.not_mem_nil, false_implies, implies_true,
    and_true] at hFits
  obtain ⟨hOffer, hSeller, hBuyer, hPrice, hTime, hWindow⟩ := hFits
  simp only [Refused, not_or, ne_eq, not_not, Bool.not_eq_false, Nat.mod_eq_of_lt hSeller,
    Nat.mod_eq_of_lt hBuyer] at hAccepted
  obtain ⟨hAddress, hStatus, hListed, hSellerId, hBuyerId⟩ := hAccepted
  refine ⟨?_, hAddress, hStatus, hListed, hSellerId, hBuyerId⟩
  simp only [snapshot, numbers, toNat_lowLimb, Nat.mod_eq_of_lt hOffer, Nat.mod_eq_of_lt hSeller,
    Nat.mod_eq_of_lt hBuyer, Nat.mod_eq_of_lt hPrice, Nat.mod_eq_of_lt hTime,
    Nat.mod_eq_of_lt hWindow]

/-- A read is faithful exactly when every number fits or the words are refused
anyway. -/
theorem narrowingLaw_iff :
    words.NarrowingLaw displayAddress assetId ↔ words.Fits ∨ words.Refused := by
  constructor
  · intro hLaw
    rw [or_iff_not_imp_right]
    intro hAccepted number hNumber
    by_contra hLarge
    have hError := hLaw.overflow number hNumber (Nat.not_lt.mp hLarge)
    exact hAccepted (readEscrow_answers_error_iff.mp hError)
  · intro hCondition
    constructor
    · intro escrow hRead
      obtain ⟨hAccepted, rfl⟩ := readEscrow_answers_ok_iff.mp hRead
      exact faithful_of_fits (hCondition.resolve_right hAccepted) hAccepted
    · intro number hNumber hLarge
      refine readEscrow_answers_error_iff.mpr (hCondition.resolve_left fun hFits => ?_)
      exact absurd (hFits number hNumber) (Nat.not_lt.mpr hLarge)

end EscrowWords

/-- Words of an active purchase whose abandonment window has a second limb. -/
def wideWords : EscrowWords where
  purchase := ⟨Vector.replicate 20 2, 1700000000, 0, 8653813160⟩
  listing := ⟨Vector.replicate 20 1, 1000000, true⟩
  abandonedWindow := 18446744073709551616
  sellerSteamId := 76561198366018280
  buyerSteamId := 76561198404282737

/-- The window of the snapshot is zero. -/
theorem not_narrowingLaw_wide : ¬wideWords.NarrowingLaw (fun _ => "") 40964044588 := by
  intro hLaw
  have hRead : readEscrow (fun _ => "") 40964044588 wideWords.answers =
      .ok (wideWords.snapshot 40964044588) := by rfl
  exact absurd (hLaw.faithful _ hRead).numbers (by decide +kernel)

end Narrowing

section Sums

/-- The deadline as a number, before it is taken in `u64`. -/
def EscrowSnapshot.deadline (escrow : EscrowSnapshot) : Nat :=
  escrow.purchaseTime.toNat + escrow.abandonedWindow.toNat

/-- The Steam64 id of an offer's partner as a number. -/
def TradeOffer.steam64 (offer : TradeOffer) : Nat :=
  offer.accountidOther.toNat + steam64Offset.toNat

variable (ext : Externals) (json : Text) (request response : List UInt8) (escrow : EscrowSnapshot)
  (proofTimestamp : UInt64)

/-- A parsed offer has the partner's Steam64 id, and an abandoned trade is refunded
only behind its deadline. Neither sum wraps where it is used. -/
structure SumLaw : Prop where
  partner : ∀ offer data, OfferDocument ext json offer → parseTradeOffer ext json = .ok data →
    offer.steam64 < UInt64.size ∧ data.partnerSteamId.toNat = offer.steam64
  abandoned : ∀ settlement,
    decideCommunity ext request response escrow proofTimestamp = .ok settlement →
      escrow.deadline < UInt64.size ∧ escrow.deadline ≤ proofTimestamp.toNat

/-- The account of a readable offer is below the offset's complement. -/
def OfferFits : Prop :=
  ∀ offer id, OfferDocument ext json offer → parseU64 offer.tradeofferid = some id →
    offer.steam64 < UInt64.size

/-- The deadline fits, or the proof is older than what is left of it. -/
def DeadlineFits : Prop :=
  escrow.deadline < UInt64.size ∨ proofTimestamp.toNat + UInt64.size < escrow.deadline

/-- The page is not one that shows a party that the trade does not exist. -/
def PageRefused : Prop :=
  ∀ data, parseCommunityHtml ext.inflate request response = .ok data →
    ¬(data.tradeOfferId = escrow.tradeOfferId ∧ escrow.IsParty data.proverSteamId ∧
      data.tradeNotFound = true)

variable {ext json request response escrow proofTimestamp}

theorem toNat_partnerSteamId (offer : TradeOffer) (id : UInt64) :
    (offer.data id).partnerSteamId.toNat = offer.steam64 % UInt64.size :=
  UInt64.toNat_add _ _

/-- The wrapped deadline has passed. -/
theorem deadline_passed_iff :
    escrow.purchaseTime + escrow.abandonedWindow ≤ proofTimestamp ↔
      escrow.deadline % UInt64.size ≤ proofTimestamp.toNat := by
  rw [UInt64.le_iff_toNat_le, UInt64.toNat_add]
  rfl

theorem decideCommunity_eq_ok_iff {settlement : Settlement} :
    decideCommunity ext request response escrow proofTimestamp = .ok settlement ↔
      ∃ data, parseCommunityHtml ext.inflate request response = .ok data ∧
        judgeCommunity escrow data proofTimestamp = .ok settlement := by
  simp only [decideCommunity, bind_eq_ok, mapErr_eq_ok]

theorem offerFits_iff :
    (∀ offer data, OfferDocument ext json offer → parseTradeOffer ext json = .ok data →
      offer.steam64 < UInt64.size ∧ data.partnerSteamId.toNat = offer.steam64) ↔
        OfferFits ext json := by
  constructor
  · intro hPartner offer id hDocument hId
    exact (hPartner offer (offer.data id) hDocument
      ((parseTradeOffer_eq_ok_iff ext).mpr ⟨offer, id, hDocument, hId, rfl⟩)).1
  · intro hFits offer data hDocument hParse
    obtain ⟨other, id, hOther, hId, rfl⟩ := (parseTradeOffer_eq_ok_iff ext).mp hParse
    obtain rfl : other = offer := by
      have hSame := hOther.symm.trans hDocument
      simpa using hSame
    have hLt := hFits other id hDocument hId
    exact ⟨hLt, by rw [toNat_partnerSteamId, Nat.mod_eq_of_lt hLt]⟩

/-- The sums never wrap where they are used exactly when the account of a readable
offer leaves room for the offset, and the deadline fits, is still ahead when wrapped,
or belongs to a page that is refused anyway. -/
theorem sumLaw_iff :
    SumLaw ext json request response escrow proofTimestamp ↔
      OfferFits ext json ∧
        (DeadlineFits escrow proofTimestamp ∨ PageRefused ext request response escrow) := by
  have hDeadline : escrow.deadline < 2 * UInt64.size := by
    have hTime : escrow.purchaseTime.toNat < UInt64.size := escrow.purchaseTime.toNat_lt
    have hWindow : escrow.abandonedWindow.toNat < UInt64.size := escrow.abandonedWindow.toNat_lt
    rw [EscrowSnapshot.deadline]
    omega
  have hNow : proofTimestamp.toNat < UInt64.size := proofTimestamp.toNat_lt
  constructor
  · rintro ⟨hPartner, hAbandoned⟩
    refine ⟨offerFits_iff.mp hPartner, ?_⟩
    by_contra hNeither
    obtain ⟨hLong, hPage⟩ := not_or.mp hNeither
    obtain ⟨hOver, hReached⟩ := not_or.mp hLong
    simp only [PageRefused, not_forall, not_not] at hPage
    obtain ⟨data, hParse, hId, hParty, hMissing⟩ := hPage
    -- what is left of the deadline has passed, so the refund is given
    have hPassed : escrow.purchaseTime + escrow.abandonedWindow ≤ proofTimestamp := by
      rw [deadline_passed_iff, Nat.mod_eq_sub_mod (Nat.not_lt.mp hOver), Nat.mod_eq_of_lt (by omega)]
      omega
    have hRefund := decideCommunity_eq_ok_iff.mpr
      ⟨data, hParse, judgeCommunity_eq_ok_iff.mpr ⟨hId, hParty, hMissing, hPassed, rfl⟩⟩
    exact hOver (hAbandoned _ hRefund).1
  · rintro ⟨hOffer, hCondition⟩
    refine ⟨offerFits_iff.mpr hOffer, fun settlement hDecide => ?_⟩
    obtain ⟨data, hParse, hJudge⟩ := decideCommunity_eq_ok_iff.mp hDecide
    obtain ⟨hId, hParty, hMissing, hPassed, _⟩ := judgeCommunity_eq_ok_iff.mp hJudge
    rw [deadline_passed_iff] at hPassed
    obtain (hFits | hAhead) | hPage := hCondition
    · rw [Nat.mod_eq_of_lt hFits] at hPassed
      exact ⟨hFits, hPassed⟩
    · rw [Nat.mod_eq_sub_mod (by omega), Nat.mod_eq_of_lt (by omega)] at hPassed
      omega
    · exact absurd ⟨hId, hParty, hMissing⟩ (hPage data hParse)

/-- A contract whose window is the largest `u64`. -/
def endlessWords : EscrowWords := { wideWords with abandonedWindow := 18446744073709551615 }

/-- The snapshot of a read is refunded at its own purchase time. -/
theorem not_sumLaw_endless :
    ∃ escrow, readEscrow (fun _ => "") 40964044588 endlessWords.answers = .ok escrow ∧
      ¬SumLaw (statusExternals completedJson completedTrade) ⟨[0x7b, 0x7d], rfl⟩ communityRequest
        notFoundPage escrow 1700000000 := by
  refine ⟨endlessWords.snapshot 40964044588, by rfl, fun hLaw => ?_⟩
  have hRefund : decideCommunity (statusExternals completedJson completedTrade) communityRequest
      notFoundPage (endlessWords.snapshot 40964044588) 1700000000 =
        .ok ((endlessWords.snapshot 40964044588).refund .tradeNotExist) := by
    decide +kernel
  exact absurd (hLaw.abandoned _ hRefund).2 (by decide +kernel)

end Sums

end SettlementOracle
