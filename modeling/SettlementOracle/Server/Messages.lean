import SettlementOracle.Settlement.Verifier

/-! Configuration, requests and replies of the session endpoints. -/
namespace SettlementOracle

def tlsnProtocolVersion : String := "tlsn/0.1.0-alpha.15"

/-- The `notarization` section of the configuration. The timeout is in seconds. -/
structure NotarizationConfig where
  maxPendingSessions : Nat
  maxActiveSessions : Nat
  maxSentData : Nat
  maxRecvData : Nat
  timeout : UInt64
  deriving DecidableEq, Repr

/-- The time to live of a session, in seconds. The addition saturates. -/
def sessionTokenTtl (timeoutSeconds : UInt64) : Nat :=
  max (min (timeoutSeconds.toNat + 30) (UInt64.size - 1)) 30

/-- Times of the model are in milliseconds. -/
def NotarizationConfig.timeoutMs (config : NotarizationConfig) : Nat :=
  1000 * config.timeout.toNat

def NotarizationConfig.sessionTtlMs (config : NotarizationConfig) : Nat :=
  1000 * sessionTokenTtl config.timeout

inductive StatusCode where
  | badRequest
  | notFound
  | conflict
  | unprocessableEntity
  | upgradeRequired
  | tooManyRequests
  | internalServerError
  | gatewayTimeout
  deriving DecidableEq, Repr

def StatusCode.code : StatusCode → Nat
  | .badRequest => 400
  | .notFound => 404
  | .conflict => 409
  | .unprocessableEntity => 422
  | .upgradeRequired => 426
  | .tooManyRequests => 429
  | .internalServerError => 500
  | .gatewayTimeout => 504

structure Rejection where
  status : StatusCode
  message : String
  deriving DecidableEq, Repr

structure SessionRequest where
  assetId : UInt64
  maxSentData : Nat
  maxRecvData : Nat
  protocolVersion : String
  deriving DecidableEq, Repr

structure SessionResponse where
  sessionId : String
  protocolVersion : String
  deriving DecidableEq, Repr

/-- The checks of `session_handler` in front of the session map. -/
def checkSessionRequest (config : NotarizationConfig) (body : SessionRequest) :
    Except Rejection Unit :=
  if body.protocolVersion ≠ tlsnProtocolVersion then
    .error ⟨.upgradeRequired, "TLSNotary protocol mismatch: expected " ++ tlsnProtocolVersion ++
      ", received " ++ body.protocolVersion⟩
  else if body.maxSentData = 0 ∨ body.maxRecvData = 0 ∨ config.maxSentData < body.maxSentData ∨
      config.maxRecvData < body.maxRecvData then
    .error ⟨.badRequest, s!"Invalid transcript limits: sent={body.maxSentData}/" ++
      s!"{config.maxSentData}, recv={body.maxRecvData}/{config.maxRecvData}"⟩
  else .ok ()

structure SettlementResultResponse where
  signature : String
  assetId : String
  decision : UInt8
  refundReason : UInt8
  protocolVersion : String
  deriving DecidableEq, Repr

def hexDigit (value : Nat) : Char :=
  "0123456789abcdef".toList.getD value '0'

/-- Lower-case hexadecimal, two digits for each byte. -/
def hexEncode (bytes : List UInt8) : String :=
  String.ofList (bytes.flatMap fun byte => [hexDigit (byte.toNat / 16), hexDigit (byte.toNat % 16)])

def SettlementResult.toResponse (result : SettlementResult) : SettlementResultResponse where
  signature := "0x" ++ hexEncode result.signature
  assetId := toString result.assetId
  decision := result.decision
  refundReason := result.refundReason
  protocolVersion := tlsnProtocolVersion

/-- What the verifier publishes for a session. -/
abbrev SettlementOutcome := Except String SettlementResult

/-- The reply of the result endpoint. -/
abbrev ResultReply := Except Rejection SettlementResultResponse

/-- How the wait for a published outcome ends. -/
inductive WaitEnd where
  | received (outcome : SettlementOutcome)
  | channelClosed
  | timedOut
  deriving DecidableEq, Repr

/-- The final match of `session_result_handler`. -/
def WaitEnd.reply (config : NotarizationConfig) : WaitEnd → ResultReply
  | .received (.ok result) => .ok result.toResponse
  | .received (.error message) => .error ⟨.unprocessableEntity, message⟩
  | .channelClosed =>
      .error ⟨.internalServerError, "Settlement result channel closed unexpectedly"⟩
  | .timedOut =>
      .error ⟨.gatewayTimeout, s!"Settlement result timed out after {config.timeoutMs}ms"⟩

end SettlementOracle
