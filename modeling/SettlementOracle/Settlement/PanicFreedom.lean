import SettlementOracle.Settlement.Soundness

/-! Every slice and index of the engine is in range, apart from one: the gzip
walk compares its offset with the length of the data, but then slices up to the
start of the trailer. -/
namespace SettlementOracle

open Checked

theorem safe_admittedSource (serverName : String) (request : List UInt8) :
    Safe (admittedSource serverName request) := by
  have hHost : ∀ source, Safe (checkHost serverName source) := by
    intro source
    cases source <;> exact safe_failIf _ _
  simp [admittedSource, detectProofSource_eq, safe_bind_iff, hHost]

/-- Evidence is judged without any access to raw data. -/
theorem safe_judge (escrow : EscrowSnapshot) (proofTimestamp : UInt64) (evidence : Evidence) :
    Safe (evidence.judge escrow proofTimestamp) := by
  cases evidence with
  | offer requestId data =>
      have hRequest : Safe (checkRequestId escrow requestId) := by
        cases requestId with
        | none => exact safe_ok _
        | some id => exact safe_failIf _ _
      show Safe (judgeTradeOffer escrow requestId data)
      rw [judgeTradeOffer_eq]
      simp [safe_bind_iff, hRequest]
  | status data =>
      have hCompleted : Safe (judgeCompleted escrow data proofTimestamp) := by
        simp only [judgeCompleted, safe_bind_iff, safe_failIf, safe_okOr, true_and]
        intro _ _ partner _
        split
        · exact safe_ok _
        · simp [safe_bind_iff]
      have hRollback : ∀ reason, Safe (judgeRollback escrow data reason) := by
        simp [judgeRollback, safe_bind_iff]
      show Safe (judgeTradeStatus escrow data proofTimestamp)
      unfold judgeTradeStatus
      split_ifs
      · exact hCompleted
      · exact hRollback _
      · exact hRollback _
      · exact safe_fail _
  | community data =>
      show Safe (judgeCommunity escrow data proofTimestamp)
      simp [judgeCommunity, safe_bind_iff]

section Externals

variable (ext : Externals)

theorem safe_gather_iff (serverName : String) (request response : List UInt8) :
    Safe (gather ext serverName request response) ↔
      ∀ source, admittedSource serverName request = .ok source →
        Safe (extractHttpBody ext.inflate response) := by
  unfold gather
  rw [safe_bind_iff]
  refine ⟨fun h source hSource => ?_, fun h => ⟨safe_admittedSource _ _, fun source hSource => ?_⟩⟩
  · exact safe_mapErr.mp (safe_bind_iff.mp (h.2 source hSource)).1
  · have hBody := h source hSource
    refine safe_bind_iff.mpr ⟨safe_mapErr.mpr hBody, fun body _ => ?_⟩
    cases source with
    | tradeOffer => simp [safe_bind_iff, safe_parseTradeOffer]
    | tradeStatus => simp [safe_bind_iff, safe_parseTradeStatus]
    | community => simp [safe_bind_iff, safe_parseCommunityHtml ext.inflate hBody]

/-- The engine reaches the gzip walk with a member whose header runs into its trailer. -/
def ReachesOverrun (serverName : String) (request response : List UInt8) : Prop :=
  (∃ source, serverName = source.host ∧ proofSource request = some source) ∧
    response.length ≤ maxRawResponseSize ∧
    ∃ body, httpBody response = some body ∧ HeaderOverrun body

/-- The engine returns a result or an error on every input, except where it
inflates a gzip member whose header runs into its trailer. -/
theorem decide_safe_iff (serverName : String) (request response : List UInt8)
    (escrow : EscrowSnapshot) (proofTimestamp : UInt64) :
    Safe (Oracle.decide ext serverName request response escrow proofTimestamp) ↔
      ¬ReachesOverrun serverName request response := by
  rw [decide_eq, safe_bind_iff, safe_gather_iff, safe_extractHttpBody_iff]
  simp only [admittedSource_eq_ok_iff, safe_judge, implies_true, and_true, ReachesOverrun]
  constructor
  · rintro h ⟨⟨source, hSource⟩, hOverrun⟩
    exact h source hSource hOverrun
  · intro h source hSource hOverrun
    exact h ⟨⟨source, hSource⟩, hOverrun⟩

/-- The shortest member that is accepted, with the flag of a header checksum. -/
def checksumFlagMember : List UInt8 := [0x1f, 0x8b, 8, 0x02] ++ List.replicate 14 0

theorem decide_panics_on_checksumFlagMember :
    ¬Safe (Oracle.decide (statusExternals completedJson completedTrade) steamApiHost statusRequest
      (okResponse checksumFlagMember) sampleEscrow sampleNow) := by
  have hPanic : Oracle.decide (statusExternals completedJson completedTrade) steamApiHost
      statusRequest (okResponse checksumFlagMember) sampleEscrow sampleNow = .error .panic := by
    decide +kernel
  exact not_not.mpr hPanic

end Externals

end SettlementOracle
