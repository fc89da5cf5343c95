import SettlementOracle.Settlement.Types

/-! Errors of the parsers and of the decision engine, with their display texts. -/
namespace SettlementOracle

inductive ParseError where
  | noJsonBody
  | invalidGzip
  | unsupportedCompression
  | invalidGzipHeader
  | invalidGzipData
  | decompressionFailed
  | decompressedTooLarge
  | invalidUtf8
  | missingTradeOfferId
  | missingCookie
  | invalidCookieFormat
  | numberOverflow
  | responseTooLarge
  | tradeNotFound
  | communityTradeExists
  | jsonParse (message : String)
  deriving DecidableEq, Repr

def ParseError.asStr : ParseError → String
  | .noJsonBody => "No JSON body found"
  | .invalidGzip => "Not a valid gzip stream"
  | .unsupportedCompression => "Unsupported compression method"
  | .invalidGzipHeader => "Invalid gzip header"
  | .invalidGzipData => "Invalid gzip data"
  | .decompressionFailed => "Failed to decompress"
  | .decompressedTooLarge => "Decompressed data exceeds size limit"
  | .invalidUtf8 => "Invalid UTF-8"
  | .missingTradeOfferId => "Could not find tradeofferid"
  | .missingCookie => "No steamLoginSecure cookie found"
  | .invalidCookieFormat => "Invalid steamLoginSecure cookie format"
  | .numberOverflow => "Number too large to parse"
  | .responseTooLarge => "Response exceeds size limit"
  | .tradeNotFound => "Trade not found - empty response from Steam"
  | .communityTradeExists => "Community proof invalid - trade exists for this user"
  | .jsonParse message => message

inductive SettlementError where
  | invalidServer (name : String)
  | unknownProofSource
  | parseFailed (error : ParseError)
  | tradeOfferIdMismatch (expected got : UInt64)
  | assetIdMismatch (expected : UInt64) (got : Option UInt64)
  | partnerMismatch (expected got : UInt64)
  | nonTerminalState (state : UInt32)
  | tooEarlyForAbandonment (proofTimestamp deadline : UInt64)
  | invalidReleaseProof (assetId : UInt64)
  | missingTimeSettlement
  | escrowNotPassed (timeSettlement proofTimestamp : UInt64)
  deriving DecidableEq, Repr

/-- The `Debug` spelling of an optional identifier. -/
def debugOption : Option UInt64 → String
  | some value => s!"Some({value})"
  | none => "None"

def SettlementError.display : SettlementError → String
  | .invalidServer name => s!"Invalid server: {name}"
  | .unknownProofSource => "Unknown proof source from request URL"
  | .parseFailed error => "Parse error: " ++ error.asStr
  | .tradeOfferIdMismatch expected got =>
      s!"TradeOfferId mismatch: expected {expected}, got {got}"
  | .assetIdMismatch expected got =>
      s!"AssetId mismatch: expected {expected}, got " ++ debugOption got
  | .partnerMismatch expected got =>
      s!"Partner SteamId mismatch: expected {expected}, got {got}"
  | .nonTerminalState state => s!"Non-terminal trade state: {state}"
  | .tooEarlyForAbandonment proofTimestamp deadline =>
      s!"Too early to claim abandonment: proof_time={proofTimestamp}, deadline={deadline}"
  | .invalidReleaseProof assetId =>
      s!"Invalid Release proof: assetId {assetId} not in assets_given"
  | .missingTimeSettlement => "time_settlement missing — cannot verify escrow period"
  | .escrowNotPassed timeSettlement proofTimestamp =>
      s!"Escrow not passed: time_settlement={timeSettlement} > proof_timestamp={proofTimestamp}"

end SettlementOracle
