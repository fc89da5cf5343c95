import SettlementOracle.Settlement.Signer

/-! Settlement behind an MPC-TLS session: the decision on the revealed
transcript, its signature, and the result that is sent to the client. -/
namespace SettlementOracle

open Checked

/-- The revealed transcript of an MPC-TLS session. -/
structure MpcTlsResult where
  serverName : Option String
  sentBytes : List UInt8
  recvBytes : List UInt8
  deriving DecidableEq, Repr

inductive MpcTlsError where
  | timeout
  | session (message : String)
  deriving DecidableEq, Repr

/-- What the verifier is given: the libraries behind `decide` and behind the digests,
the signer with its key and domain, and the printer of wallet addresses. -/
structure Collaborators where
  externals : Externals
  keccak256 : List UInt8 → B256
  signer : OracleSigner
  displayAddress : Address → String

def Collaborators.signSettlement (world : Collaborators) (settlement : Settlement) :
    Except String (List UInt8) :=
  world.signer.signSettlement world.keccak256 settlement

/-- A settlement with the signature that the oracle made for it. -/
structure SignedSettlement where
  settlement : Settlement
  signature : List UInt8
  deriving DecidableEq, Repr

def SignedSettlement.wireResult (signed : SignedSettlement) : SettlementResult where
  signature := signed.signature
  assetId := signed.settlement.assetId
  decision := signed.settlement.decision.toU8
  refundReason := signed.settlement.refundReason.toU8

section Settling

variable (world : Collaborators)

def decideTranscript (mpc : MpcTlsResult) (escrow : EscrowSnapshot) (proofTimestamp : UInt64) :
    Exec SettlementError Settlement :=
  Oracle.decide world.externals (mpc.serverName.getD "") mpc.sentBytes mpc.recvBytes escrow
    proofTimestamp

def signDecision (settlement : Settlement) : Exec String SignedSettlement :=
  match world.signSettlement settlement with
  | .ok signature => .ok ⟨settlement, signature⟩
  | .error message => fail ("EIP-712 signing failed: " ++ message)

/-- The settlement is kept with its signature. What is sent is its `wireResult`. -/
def createSettlementResult (mpc : MpcTlsResult) (escrow : EscrowSnapshot)
    (proofTimestamp : UInt64) : Exec String SignedSettlement := do
  let settlement ← mapErr (fun error => "Settlement decision failed: " ++ error.display)
    (decideTranscript world mpc escrow proofTimestamp)
  signDecision world settlement

variable {world} {mpc : MpcTlsResult} {escrow : EscrowSnapshot} {proofTimestamp : UInt64}
  {settlement : Settlement} {signed : SignedSettlement}

theorem signDecision_eq_ok_iff :
    signDecision world settlement = .ok signed ↔
      signed.settlement = settlement ∧ world.signSettlement settlement = .ok signed.signature := by
  unfold signDecision
  obtain ⟨decided, signature⟩ := signed
  cases h : world.signSettlement settlement with
  | error message => simp
  | ok bytes =>
      simp only [Except.ok.injEq, SignedSettlement.mk.injEq]
      exact ⟨fun ⟨h₁, h₂⟩ => ⟨h₁.symm, h₂⟩, fun ⟨h₁, h₂⟩ => ⟨h₁.symm, h₂⟩⟩

/-- What is signed is the decision on the transcript. -/
theorem createSettlementResult_eq_ok_iff :
    createSettlementResult world mpc escrow proofTimestamp = .ok signed ↔
      decideTranscript world mpc escrow proofTimestamp = .ok signed.settlement ∧
        world.signSettlement signed.settlement = .ok signed.signature := by
  unfold createSettlementResult
  simp only [bind_eq_ok, mapErr_eq_ok, signDecision_eq_ok_iff]
  constructor
  · rintro ⟨settlement, hDecide, rfl, hSign⟩
    exact ⟨hDecide, hSign⟩
  · rintro ⟨hDecide, hSign⟩
    exact ⟨signed.settlement, hDecide, rfl, hSign⟩

theorem createSettlementResult_assetId
    (h : createSettlementResult world mpc escrow proofTimestamp = .ok signed) :
    signed.settlement.assetId = escrow.assetId := by
  obtain ⟨hDecide, _⟩ := createSettlementResult_eq_ok_iff.mp h
  obtain ⟨evidence, _, hJudge⟩ := (decide_eq_ok_iff _).mp hDecide
  rcases judge_eq_ok hJudge with hRelease | ⟨reason, _, hRefund⟩
  · rw [hRelease]
    rfl
  · rw [hRefund]
    rfl

end Settling

end SettlementOracle
