import SettlementOracle.Checked.Text

/-! Escrow snapshots, decisions and the data extracted from Steam responses.
Identifiers and timestamps are the `u64` values of the source. -/
namespace SettlementOracle

def steam64Offset : UInt64 := 76561197960265728

/-- A wallet address. -/
abbrev Address := Vector UInt8 20

/-- On-chain escrow data read by the chain reader. -/
structure EscrowSnapshot where
  assetId : UInt64
  tradeOfferId : UInt64
  sellerSteamId : UInt64
  buyerSteamId : UInt64
  seller : Address
  buyer : Address
  amount : UInt64
  purchaseTime : UInt64
  abandonedWindow : UInt64
  deriving DecidableEq

inductive Decision where
  | release
  | refund
  deriving DecidableEq, Repr

def Decision.toU8 : Decision → UInt8
  | .release => 0
  | .refund => 1

inductive RefundReason where
  | none
  | timeout
  | notCS2Item
  | wrongAsset
  | wrongParties
  | invalidItems
  | canceled2FA
  | buyerExpired
  | sellerExpired
  | buyerCanceled
  | sellerCanceled
  | buyerDeclined
  | sellerDeclined
  | wrongRecipient
  | tradeRollback
  | deprecatedRollback
  | tradeNotExist
  deriving DecidableEq, Repr

def RefundReason.toU8 : RefundReason → UInt8
  | .none => 0
  | .timeout => 1
  | .notCS2Item => 2
  | .wrongAsset => 3
  | .wrongParties => 4
  | .invalidItems => 5
  | .canceled2FA => 6
  | .buyerExpired => 7
  | .sellerExpired => 8
  | .buyerCanceled => 9
  | .sellerCanceled => 10
  | .buyerDeclined => 11
  | .sellerDeclined => 12
  | .wrongRecipient => 13
  | .tradeRollback => 14
  | .deprecatedRollback => 15
  | .tradeNotExist => 16

structure Settlement where
  assetId : UInt64
  tradeOfferId : UInt64
  decision : Decision
  refundReason : RefundReason
  deriving DecidableEq, Repr

inductive ProofSource where
  | tradeOffer
  | tradeStatus
  | community
  deriving DecidableEq, Repr

/-- The `Debug` spelling of a proof source. -/
def ProofSource.debug : ProofSource → String
  | .tradeOffer => "TradeOffer"
  | .tradeStatus => "TradeStatus"
  | .community => "Community"

structure TradeOfferData where
  state : UInt32
  tradeOfferId : UInt64
  partnerSteamId : UInt64
  assetToGive : Option UInt64
  assetToReceive : Option UInt64
  isOurOffer : Bool
  deriving DecidableEq, Repr

structure TradeStatusData where
  status : UInt32
  partnerSteamId : Option UInt64
  assetIdGiven : Option UInt64
  assetId : Option UInt64
  timeSettlement : Option UInt64
  deriving DecidableEq, Repr

structure CommunityProofData where
  proverSteamId : UInt64
  tradeOfferId : UInt64
  tradeNotFound : Bool
  deriving DecidableEq, Repr

/-- The wire result carried from the verifier to the result endpoint. -/
structure SettlementResult where
  signature : List UInt8
  assetId : UInt64
  decision : UInt8
  refundReason : UInt8
  deriving DecidableEq, Repr

end SettlementOracle
