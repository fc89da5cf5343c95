import SettlementOracle.Settlement.Soundness

/-! Two runs of the engine on one transcript at different times. -/
namespace SettlementOracle

open Checked

variable {escrow : EscrowSnapshot} {early late : UInt64} {evidence : Evidence}
  {settlement : Settlement}

/-- A judgement once reached stays. -/
theorem judge_later (hTime : early ≤ late) (h : evidence.judge escrow early = .ok settlement) :
    evidence.judge escrow late = .ok settlement := by
  cases evidence with
  | offer requestId data => exact h
  | status data =>
      refine judgeTradeStatus_eq_ok_iff.mpr ?_
      obtain ⟨hStatus, hGiven, partner, hPartner, hOther | ⟨hBuyer, time, hSettled, hPassed, rfl⟩⟩ |
        hRollback := judgeTradeStatus_eq_ok_iff.mp h
      · exact Or.inl ⟨hStatus, hGiven, partner, hPartner, Or.inl hOther⟩
      · exact Or.inl ⟨hStatus, hGiven, partner, hPartner,
          Or.inr ⟨hBuyer, time, hSettled, UInt64.le_trans hPassed hTime, rfl⟩⟩
      · exact Or.inr hRollback
  | community data =>
      obtain ⟨hId, hProver, hFound, hPassed, rfl⟩ := judgeCommunity_eq_ok_iff.mp h
      exact judgeCommunity_eq_ok_iff.mpr
        ⟨hId, hProver, hFound, UInt64.le_trans hPassed hTime, rfl⟩

/-- The errors that only say that it is too early. -/
def TooEarly (proofTimestamp : UInt64) (error : SettlementError) : Prop :=
  (∃ timeSettlement, error = .escrowNotPassed timeSettlement proofTimestamp) ∨
    ∃ deadline, error = .tooEarlyForAbandonment proofTimestamp deadline

/-- A judgement reached later was reached before, or it was too early. -/
theorem judge_earlier (early : UInt64) (h : evidence.judge escrow late = .ok settlement) :
    evidence.judge escrow early = .ok settlement ∨
      ∃ error, evidence.judge escrow early = fail error ∧ TooEarly early error := by
  cases evidence with
  | offer requestId data => exact Or.inl h
  | status data =>
      obtain ⟨hStatus, hGiven, partner, hPartner, hOther | ⟨rfl, time, hSettled, _, rfl⟩⟩ |
        hRollback := judgeTradeStatus_eq_ok_iff.mp h
      · exact Or.inl (judgeTradeStatus_eq_ok_iff.mpr
          (Or.inl ⟨hStatus, hGiven, partner, hPartner, Or.inl hOther⟩))
      · -- the settlement time is the only check left that looks at the clock
        have hCheck : judgeTradeStatus escrow data early = (do
            failIf (time > early) (.escrowNotPassed time early)
            .ok escrow.release) := by
          simp [judgeTradeStatus, judgeCompleted, hStatus, hGiven, hPartner, hSettled, failIf_neg]
        by_cases hLate : time > early
        · refine Or.inr ⟨.escrowNotPassed time early, ?_, Or.inl ⟨time, rfl⟩⟩
          exact hCheck.trans (by rw [failIf_pos _ hLate, fail_bind])
        · exact Or.inl (hCheck.trans (by rw [failIf_neg _ hLate, ok_bind]))
      · exact Or.inl (judgeTradeStatus_eq_ok_iff.mpr (Or.inr hRollback))
  | community data =>
      obtain ⟨hId, hProver, hFound, _, rfl⟩ := judgeCommunity_eq_ok_iff.mp h
      have hCheck : judgeCommunity escrow data early = (do
          failIf (early < escrow.purchaseTime + escrow.abandonedWindow)
            (.tooEarlyForAbandonment early (escrow.purchaseTime + escrow.abandonedWindow))
          .ok (escrow.refund .tradeNotExist)) := by
        rw [judgeCommunity, failIf_neg _ (not_not.mpr hId), failIf_neg _ (by
          rw [not_and_or, not_not, not_not]
          exact hProver), failIf_neg _ (by simp [hFound])]
        rfl
      by_cases hEarly : early < escrow.purchaseTime + escrow.abandonedWindow
      · refine Or.inr ⟨.tooEarlyForAbandonment early
          (escrow.purchaseTime + escrow.abandonedWindow), ?_, Or.inr ⟨_, rfl⟩⟩
        exact hCheck.trans (by rw [failIf_pos _ hEarly, fail_bind])
      · exact Or.inl (hCheck.trans (by rw [failIf_neg _ hEarly, ok_bind]))

/-- Waiting never changes a settlement, and a settlement that was not yet
reached failed only because it was too early. -/
theorem decide_mono_time (ext : Externals) (serverName : String) (request response : List UInt8)
    (hTime : early ≤ late) :
    (∀ settlement, Oracle.decide ext serverName request response escrow early = .ok settlement →
      Oracle.decide ext serverName request response escrow late = .ok settlement) ∧
    (∀ settlement, Oracle.decide ext serverName request response escrow late = .ok settlement →
      (∀ other, Oracle.decide ext serverName request response escrow early ≠ .ok other) →
      ∃ error, Oracle.decide ext serverName request response escrow early = fail error ∧
        TooEarly early error) := by
  refine ⟨?_, ?_⟩
  · intro settlement h
    obtain ⟨evidence, hGather, hJudge⟩ := (decide_eq_ok_iff ext).mp h
    exact (decide_eq_ok_iff ext).mpr ⟨evidence, hGather, judge_later hTime hJudge⟩
  · intro settlement h hNot
    obtain ⟨evidence, hGather, hJudge⟩ := (decide_eq_ok_iff ext).mp h
    obtain hSame | ⟨error, hError, hEarly⟩ := judge_earlier early hJudge
    · exact absurd ((decide_eq_ok_iff ext).mpr ⟨evidence, hGather, hSame⟩) (hNot settlement)
    · exact ⟨error, by rw [decide_eq, hGather, ok_bind, hError], hEarly⟩

theorem decide_mono_time_completed :
    (1700100000 : UInt64) ≤ sampleNow ∧
      Oracle.decide (statusExternals completedJson completedTrade) steamApiHost statusRequest
        (okResponse completedJson) sampleEscrow sampleNow = .ok sampleEscrow.release := by
  have hTime : (1700100000 : UInt64) ≤ sampleNow := by decide
  refine ⟨hTime, (decide_mono_time _ _ _ _ hTime).1 _ ?_⟩
  decide +kernel

end SettlementOracle
