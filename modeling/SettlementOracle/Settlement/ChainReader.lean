import SettlementOracle.Checked.Execution
import SettlementOracle.Settlement.Types

/-! The on-chain reader. Its five calls are answered by the chain, and the
snapshot is assembled from the answers. -/
namespace SettlementOracle

open Checked

/-- A failed call: the request did not succeed, or the bytes it returned do not
decode. The messages are those of the HTTP client and of the ABI decoder. -/
inductive CallError where
  | transport (message : String)
  | decode (message : String)
  deriving DecidableEq, Repr

abbrev CallResult (α : Type) := Except CallError α

/-- The words returned by `purchases(assetId)`. -/
structure Purchase where
  buyer : Address
  purchaseTime : BitVec 40
  status : UInt8
  tradeOfferId : BitVec 48
  deriving DecidableEq

/-- The words returned by `listings(assetId)`. -/
structure Listing where
  seller : Address
  price : BitVec 56
  listed : Bool
  deriving DecidableEq

/-- The answers to the calls of one read. The calls of the second batch are
made for the wallets that the first batch returned. -/
structure ChainAnswers where
  purchases : CallResult Purchase
  listings : CallResult Listing
  abandonedWindow : CallResult (BitVec 256)
  sellerSteamId : Address → CallResult (BitVec 256)
  buyerSteamId : Address → CallResult (BitVec 256)

def zeroAddress : Address := Vector.replicate 20 0

/-- `as_limbs()[0]`, the lowest 64 bits of a word. -/
def lowLimb {width : Nat} (word : BitVec width) : UInt64 := UInt64.ofNat word.toNat

/-- `?` on the call itself, which happens before any answer is decoded. -/
def transportError {α : Type} : CallResult α → Except String Unit
  | .error (.transport message) => .error message
  | _ => .ok ()

/-- `abi_decode_returns` with the prefix of its error message. -/
def decoded {α : Type} (what : String) : CallResult α → Except String α
  | .ok value => .ok value
  | .error (.decode message) => .error (what ++ ": " ++ message)
  | .error (.transport message) => .error message

/-- An early return guarded by a condition. -/
def rejectIf (condition : Prop) [Decidable condition] (message : String) : Except String Unit :=
  if condition then .error message else .ok ()

def readEscrow (displayAddress : Address → String) (assetId : UInt64) (answers : ChainAnswers) :
    Except String EscrowSnapshot := do
  transportError answers.purchases
  transportError answers.listings
  transportError answers.abandonedWindow
  let purchase ← decoded s!"Failed to decode purchases({assetId})" answers.purchases
  let listing ← decoded s!"Failed to decode listings({assetId})" answers.listings
  let abandonedWindow ← decoded "Failed to decode abandonedWindow()" answers.abandonedWindow
  rejectIf (purchase.buyer = zeroAddress) s!"No purchase exists for asset {assetId}"
  rejectIf (purchase.status ≠ 0)
    s!"Purchase not active for asset {assetId} (status={purchase.status})"
  rejectIf (listing.listed = false) s!"No listing exists for asset {assetId}"
  let sellerAnswer := answers.sellerSteamId listing.seller
  let buyerAnswer := answers.buyerSteamId purchase.buyer
  transportError sellerAnswer
  transportError buyerAnswer
  let sellerSteamId ← decoded "Failed to decode seller steam ID" sellerAnswer
  let buyerSteamId ← decoded "Failed to decode buyer steam ID" buyerAnswer
  rejectIf (lowLimb sellerSteamId = 0)
    ("Seller " ++ displayAddress listing.seller ++ " not registered in SteamAccountFactory")
  rejectIf (lowLimb buyerSteamId = 0)
    ("Buyer " ++ displayAddress purchase.buyer ++ " not registered in SteamAccountFactory")
  .ok {
    assetId
    tradeOfferId := lowLimb purchase.tradeOfferId
    sellerSteamId := lowLimb sellerSteamId
    buyerSteamId := lowLimb buyerSteamId
    seller := listing.seller
    buyer := purchase.buyer
    amount := lowLimb listing.price
    purchaseTime := lowLimb purchase.purchaseTime
    abandonedWindow := lowLimb abandonedWindow }

/-- The return values of the five calls of one read. -/
structure EscrowWords where
  purchase : Purchase
  listing : Listing
  abandonedWindow : BitVec 256
  sellerSteamId : BitVec 256
  buyerSteamId : BitVec 256
  deriving DecidableEq

/-- The snapshot of the narrowed words. -/
def EscrowWords.snapshot (words : EscrowWords) (assetId : UInt64) : EscrowSnapshot where
  assetId
  tradeOfferId := lowLimb words.purchase.tradeOfferId
  sellerSteamId := lowLimb words.sellerSteamId
  buyerSteamId := lowLimb words.buyerSteamId
  seller := words.listing.seller
  buyer := words.purchase.buyer
  amount := lowLimb words.listing.price
  purchaseTime := lowLimb words.purchase.purchaseTime
  abandonedWindow := lowLimb words.abandonedWindow

section Reading

variable {displayAddress : Address → String} {assetId : UInt64} {answers : ChainAnswers}
  {escrow : EscrowSnapshot}

theorem decoded_eq_ok {α : Type} {what : String} {result : CallResult α} {value : α} :
    decoded what result = .ok value ↔ result = .ok value := by
  cases result with
  | ok found => simp [decoded]
  | error error => cases error <;> simp [decoded]

@[simp] theorem rejectIf_eq_ok {condition : Prop} [Decidable condition] {message : String}
    {u : Unit} : rejectIf condition message = .ok u ↔ ¬condition := by
  unfold rejectIf
  split_ifs with h <;> simp [h]

/-- What a successful read was answered, and the snapshot it assembles. -/
theorem readEscrow_eq_ok (h : readEscrow displayAddress assetId answers = .ok escrow) :
    ∃ purchase listing abandonedWindow sellerSteamId buyerSteamId,
      answers.purchases = .ok purchase ∧ answers.listings = .ok listing ∧
      answers.abandonedWindow = .ok abandonedWindow ∧
      answers.sellerSteamId listing.seller = .ok sellerSteamId ∧
      answers.buyerSteamId purchase.buyer = .ok buyerSteamId ∧
      purchase.buyer ≠ zeroAddress ∧ purchase.status = 0 ∧ listing.listed = true ∧
      lowLimb sellerSteamId ≠ 0 ∧ lowLimb buyerSteamId ≠ 0 ∧
      escrow = EscrowWords.snapshot
        ⟨purchase, listing, abandonedWindow, sellerSteamId, buyerSteamId⟩ assetId := by
  simp only [readEscrow, bind_eq_ok, decoded_eq_ok, Except.ok.injEq] at h
  obtain ⟨_, _, _, _, _, _, purchase, hPurchase, listing, hListing, window, hWindow, _, hBuyer, _,
    hStatus, _, hListed, _, _, _, _, sellerId, hSeller, buyerId, hBuyerId, _, hSellerZero, _,
    hBuyerZero, rfl⟩ := h
  refine ⟨purchase, listing, window, sellerId, buyerId, hPurchase, hListing, hWindow, hSeller,
    hBuyerId, rejectIf_eq_ok.mp hBuyer, ?_, ?_, rejectIf_eq_ok.mp hSellerZero,
    rejectIf_eq_ok.mp hBuyerZero, rfl⟩
  · simpa using hStatus
  · simpa using hListed

/-- The snapshot is about the asset that was asked for. -/
theorem readEscrow_assetId (h : readEscrow displayAddress assetId answers = .ok escrow) :
    escrow.assetId = assetId := by
  obtain ⟨_, _, _, _, _, _, _, _, _, _, _, _, _, _, _, rfl⟩ := readEscrow_eq_ok h
  rfl

end Reading

end SettlementOracle
