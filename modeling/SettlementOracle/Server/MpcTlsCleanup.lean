import SettlementOracle.Server.MpcTls

/-! What a session leaves behind, and when it ends. -/
namespace SettlementOracle.MpcTls

open Checked

def Phase.inProtocol : Phase → Bool
  | .protocol _ => true
  | _ => false

/-- The prover proposed limits that the verifier admits. -/
def Admitted (limits : MpcTlsRuntimeLimits) (actions : List Action) : Prop :=
  ∃ sent recv, .committed (.ok (.mpc sent recv)) ∈ replies actions ∧
    sent ≤ limits.maxSentData ∧ recv ≤ limits.maxRecvData

/-- The stages behind the check of the limits. -/
def Stage.committed : Stage → Bool
  | .accepting | .running | .verifying | .rejectingReveal | .closingRejected | .acceptingOutput
  | .closing _ => true
  | _ => false

/-- The calls that spend work on the prover. -/
def Call.works : Call → Bool
  | .acceptCommit | .run | .verify | .acceptOutput => true
  | _ => false

structure CleanInv (limits : MpcTlsRuntimeLimits) (actions : List Action) (s : State) : Prop where
  handle : s.calls.count .closeHandle + s.phase.inProtocol.toNat = 1
  stages : ∀ stage, s.phase = .protocol stage → stage.committed = true → Admitted limits actions
  works : ∀ call ∈ s.calls, call.works = true → Admitted limits actions

section Cleanup

variable {limits : MpcTlsRuntimeLimits} {deadline now : Nat} {s s' : State} {action : Action}
  {actions : List Action} {stage next : Stage} {reply : Reply}

theorem Admitted.mono (h : Admitted limits actions) (action : Action) :
    Admitted limits (actions ++ [action]) := by
  obtain ⟨sent, recv, hMem, hLimits⟩ := h
  refine ⟨sent, recv, ?_, hLimits⟩
  rw [replies_snoc]
  exact List.mem_append_left _ hMem

/-- A stage behind the check is entered through the check, or from such a stage. -/
theorem Stage.committed_of_advance (h : stage.advance limits reply = some (.next next))
    (hCommitted : next.committed = true) :
    stage.committed = true ∨ ∃ sent recv, reply = .committed (.ok (.mpc sent recv)) ∧
      sent ≤ limits.maxSentData ∧ recv ≤ limits.maxRecvData := by
  unfold Stage.advance at h
  split at h
  case h_4 sent recv =>
    split at h
    · cases h
      cases hCommitted
    · exact Or.inr ⟨sent, recv, rfl, validateMpcLimits_eq_none_iff.mp ‹_›⟩
  all_goals first
    | exact Or.inl rfl
    | (cases h; cases hCommitted)
    | cases h

theorem Stage.call_ne_closeHandle (stage : Stage) : stage.call ≠ .closeHandle := by
  cases stage <;> simp [Stage.call]

theorem Stage.committed_of_works (h : stage.call.works = true) : stage.committed = true := by
  cases stage <;> first | rfl | cases h

theorem CleanInv.step (h : CleanInv limits actions s) (hMove : Move limits deadline s action s') :
    CleanInv limits (actions ++ [action]) s' := by
  have hStages : ∀ stage, s.phase = .protocol stage → stage.committed = true →
      Admitted limits (actions ++ [action]) :=
    fun stage hPhase hCommitted => (h.stages stage hPhase hCommitted).mono action
  have hWorks : ∀ call ∈ s.calls, call.works = true → Admitted limits (actions ++ [action]) :=
    fun call hMem hCall => (h.works call hMem hCall).mono action
  have hPush : ∀ {call}, (call.works = true → Admitted limits (actions ++ [action])) →
      ∀ other ∈ s.calls ++ [call], other.works = true → Admitted limits (actions ++ [action]) := by
    intro call hCall other hMem hOther
    obtain hOld | hNew := List.mem_append.mp hMem
    · exact hWorks other hOld hOther
    · obtain rfl := List.mem_singleton.mp hNew
      exact hCall hOther
  -- the session leaves the protocol and closes its handle
  have hClose : ∀ {stage} (phase : Nat → Phase), s.phase = .protocol stage →
      (∀ graceEnd, (phase graceEnd).inProtocol = false) →
      CleanInv limits (actions ++ [action]) (s.close phase) := by
    intro stage phase hPhase hLeft
    have hHandle := h.handle
    rw [hPhase] at hHandle
    refine ⟨?_, ?_, hPush fun hCall => by cases hCall⟩
    · simp only [State.close, List.count_append, hLeft, Bool.toNat_false, List.count_singleton_self]
      simp only [Phase.inProtocol, Bool.toNat_true] at hHandle
      omega
    · intro other hOther
      have hOut := hLeft (s.now + driverShutdownGrace)
      simp only [State.close] at hOther
      rw [hOther] at hOut
      cases hOut
  have hKeep : ∀ phase driver, s.phase.inProtocol = phase.inProtocol →
      (∀ stage, phase = .protocol stage → s.phase = .protocol stage) →
      CleanInv limits (actions ++ [action]) { s with phase := phase, driver := driver } :=
    fun phase driver hSame hBack =>
      ⟨hSame ▸ h.handle, fun stage hPhase => hStages stage (hBack stage hPhase), hWorks⟩
  have hAbort : ∀ error, s.phase.inProtocol = false →
      CleanInv limits (actions ++ [action]) (s.abort error) := by
    intro error hLeft
    have hHandle := h.handle
    rw [hLeft] at hHandle
    refine ⟨?_, fun _ hPhase => (by cases hPhase), hPush fun hCall => (by cases hCall)⟩
    simpa [State.abort, Phase.inProtocol] using hHandle
  cases hMove with
  | tick => exact ⟨h.handle, hStages, hWorks⟩
  | @reply stage reply progress hPhase hAdvance =>
      cases progress with
      | ended outcome =>
          cases outcome with
          | ok result => exact hClose _ hPhase fun _ => rfl
          | error message => exact hClose _ hPhase fun _ => rfl
      | next stage' =>
          have hNext : stage'.committed = true → Admitted limits (actions ++ [Action.reply reply]) := by
            intro hCommitted
            obtain hBefore | ⟨sent, recv, rfl, hLimits⟩ := Stage.committed_of_advance hAdvance hCommitted
            · exact hStages stage hPhase hBefore
            · exact ⟨sent, recv, by simp [replies_snoc, Action.given], hLimits⟩
          have hHandle := h.handle
          rw [hPhase] at hHandle
          refine ⟨?_, ?_, hPush fun hCall => hNext (Stage.committed_of_works hCall)⟩
          · simpa [State.follow, Phase.inProtocol, List.count_singleton, stage'.call_ne_closeHandle]
              using hHandle
          · rintro _ ⟨⟩
            exact hNext
  | timeOut hPhase => exact hClose _ hPhase fun _ => rfl
  | endDriver driverEnd => exact hKeep s.phase _ rfl fun _ hPhase => hPhase
  | stuck hPhase => exact hAbort _ (by rw [hPhase]; rfl)
  | abandoned hPhase => exact hAbort _ (by rw [hPhase]; rfl)
  | cancelled => exact hKeep s.phase _ rfl fun _ hPhase => hPhase
  | finished hPhase | tornDown hPhase | aborted hPhase =>
      exact hKeep (.returned _) s.driver (by rw [hPhase]; rfl) fun _ hOther => by cases hOther

theorem cleanInv_of_run (hRun : run (MpcTls.step limits deadline) (start now) actions = some s) :
    CleanInv limits actions s := by
  induction actions using List.reverseRecOn generalizing s with
  | nil =>
      obtain rfl : start now = s := Option.some.inj hRun
      refine ⟨rfl, ?_, ?_⟩
      · rintro _ ⟨⟩ hCommitted
        cases hCommitted
      · intro call hMem hWorks
        obtain rfl := List.mem_singleton.mp hMem
        cases hWorks
  | append_singleton actions action ih =>
      obtain ⟨middle, hBefore, hNext⟩ := run_snoc_eq_some.mp hRun
      exact (ih hBefore).step (move_of_step hNext)

/-- The verifier spends no work on a prover whose limits it has not admitted. A
session that has returned has closed its handle once and left no driver behind. -/
theorem runMpcTls_cleanup
    (hRun : run (MpcTls.step limits deadline) (start now) actions = some s) :
    (∀ call ∈ s.calls, call.works = true → Admitted limits actions) ∧
      ∀ returned, s.phase = .returned returned →
        s.calls.count .closeHandle = 1 ∧ s.driver ≠ none := by
  have hClean := cleanInv_of_run hRun
  refine ⟨hClean.works, fun returned hReturned => ⟨?_, ?_⟩⟩
  · have hHandle := hClean.handle
    rw [hReturned] at hHandle
    exact hHandle
  · have hAccount := accounted_of_run hRun
    rw [hReturned] at hAccount
    exact hAccount.1

/-- A prover that asks for more than the verifier allows, and whose driver hangs. -/
def oversizedRun : List Action :=
  [.reply (.created (.ok ())), .reply (.committed (.ok (.mpc 4096 16385))),
    .reply (.rejected (.ok ())), .tick 2000, .graceOver, .cancelDriver "task 7 was cancelled", .join]

theorem runMpcTls_cleanup_oversized :
    ∃ s, run (MpcTls.step sampleLimits 120000) (start 0) oversizedRun = some s ∧
      s.phase = .returned (.error (.session ("Commitment request rejected: " ++
        "max_recv_data is too large (requested 16385, allowed 16384)"))) ∧
      s.calls.count .closeHandle = 1 ∧ s.driver ≠ none := by
  have hPhase : (run (MpcTls.step sampleLimits 120000) (start 0) oversizedRun).map State.phase =
      some (.returned (.error (.session ("Commitment request rejected: " ++
        "max_recv_data is too large (requested 16385, allowed 16384)")))) := by
    decide +kernel
  obtain ⟨s, hRun, hReturned⟩ := Option.map_eq_some_iff.mp hPhase
  exact ⟨s, hRun, hReturned, (runMpcTls_cleanup hRun).2 _ hReturned⟩

end Cleanup

/-- When the timer that the session waits for ends. Nothing waits for the clock
while the driver is being aborted. -/
def State.timer (deadline : Nat) (s : State) : Nat :=
  match s.phase with
  | .protocol _ => deadline
  | .finishing _ graceEnd | .tearingDown _ graceEnd => graceEnd
  | .aborting _ | .returned _ => s.now

/-- The steps of a runtime that wakes the session up on time. -/
def promptStep (limits : MpcTlsRuntimeLimits) (deadline : Nat) (s : State) : Action → Option State
  | .tick elapsed =>
      if s.now + elapsed ≤ s.timer deadline then some { s with now := s.now + elapsed } else none
  | action => step limits deadline s action

/-- The actions that need neither the prover nor the driver. -/
def Action.unattended : Action → Bool
  | .tick _ | .timeOut | .graceOver | .cancelDriver _ | .join => true
  | .reply _ | .endDriver _ => false

/-- The clock has not passed the timer, and no timer ends too late. -/
def Prompt (deadline : Nat) (s : State) : Prop :=
  match s.phase with
  | .protocol _ => s.now ≤ deadline
  | .finishing _ graceEnd | .tearingDown _ graceEnd =>
      s.now ≤ graceEnd ∧ graceEnd ≤ deadline + driverShutdownGrace
  | .aborting _ | .returned _ => s.now ≤ deadline + driverShutdownGrace

section Timing

variable {limits : MpcTlsRuntimeLimits} {deadline now : Nat} {s s' : State} {action : Action}
  {actions : List Action}

theorem promptStep_eq_some (h : promptStep limits deadline s action = some s') :
    step limits deadline s action = some s' ∧
      ∀ elapsed, action = .tick elapsed → s.now + elapsed ≤ s.timer deadline := by
  cases action with
  | tick elapsed =>
      simp only [promptStep] at h
      split at h
      · refine ⟨h, ?_⟩
        rintro _ ⟨⟩
        assumption
      · cases h
  | _ => exact ⟨h, fun _ hTick => by cases hTick⟩

theorem Prompt.now_le (h : Prompt deadline s) : s.now ≤ deadline + driverShutdownGrace := by
  unfold Prompt at h
  split at h <;> omega

theorem Prompt.of_protocol {stage : Stage} (h : Prompt deadline s)
    (hPhase : s.phase = .protocol stage) : s.now ≤ deadline := by
  simpa only [Prompt, hPhase] using h

theorem Prompt.step (h : Prompt deadline s) (hStep : promptStep limits deadline s action = some s') :
    Prompt deadline s' := by
  obtain ⟨hPlain, hTick⟩ := promptStep_eq_some hStep
  cases move_of_step hPlain with
  | tick elapsed =>
      have hTimer := hTick elapsed rfl
      unfold Prompt at h ⊢
      unfold State.timer at hTimer
      cases hPhase : s.phase <;> simp only [hPhase] at h hTimer ⊢ <;> omega
  | @reply stage reply progress hPhase =>
      have hNow := h.of_protocol hPhase
      cases progress with
      | next => exact hNow
      | ended outcome =>
          cases outcome <;> exact ⟨Nat.le_add_right .., Nat.add_le_add_right hNow _⟩
  | timeOut hPhase =>
      exact ⟨Nat.le_add_right .., Nat.add_le_add_right (h.of_protocol hPhase) _⟩
  | endDriver | cancelled => exact h
  | stuck | abandoned | finished | tornDown | aborted => exact h.now_le

/-- The phases that are left, with room for the two moves inside a phase. -/
def Phase.rank : Phase → Nat
  | .protocol _ => 9
  | .finishing _ _ | .tearingDown _ _ => 6
  | .aborting _ => 3
  | .returned _ => 0

/-- How far a session is from its return when nobody helps. -/
def State.remaining (deadline : Nat) (s : State) : Nat :=
  s.phase.rank + s.driver.isNone.toNat + (decide (s.now < s.timer deadline)).toNat

theorem remaining_lt_of_rank (h : s'.phase.rank + 3 ≤ s.phase.rank) :
    s'.remaining deadline < s.remaining deadline := by
  have hDriver := Bool.toNat_le s'.driver.isNone
  have hTimer := Bool.toNat_le (decide (s'.now < s'.timer deadline))
  unfold State.remaining
  omega

/-- The session can take this step on its own and gets closer to its return. -/
def Advances (limits : MpcTlsRuntimeLimits) (deadline : Nat) (s : State) : Prop :=
  ∃ action next, action.unattended = true ∧ promptStep limits deadline s action = some next ∧
    next.remaining deadline < s.remaining deadline

theorem advances_of_rank (action : Action) (hAway : action.unattended = true)
    (hStep : promptStep limits deadline s action = some s') (h : s'.phase.rank + 3 ≤ s.phase.rank) :
    Advances limits deadline s :=
  ⟨action, s', hAway, hStep, remaining_lt_of_rank h⟩

/-- In front of its timer, the session waits for it. -/
theorem advances_of_early (limits : MpcTlsRuntimeLimits) (h : s.now < s.timer deadline) :
    Advances limits deadline s := by
  have hTimer : s.now + (s.timer deadline - s.now) = s.timer deadline := by omega
  refine ⟨.tick (s.timer deadline - s.now), { s with now := s.now + (s.timer deadline - s.now) }, rfl,
    if_pos (Nat.le_of_eq hTimer), ?_⟩
  rw [hTimer]
  unfold State.remaining State.timer at *
  cases hPhase : s.phase <;> simp only [hPhase] at h ⊢ <;>
    first | exact absurd h (Nat.lt_irrefl _) | simp [h]

/-- A session that has not returned gets closer to it without any help. -/
theorem advances (limits : MpcTlsRuntimeLimits) (deadline : Nat)
    (hOpen : ¬∃ returned, s.phase = .returned returned) : Advances limits deadline s := by
  by_cases hEarly : s.now < s.timer deadline
  · exact advances_of_early limits hEarly
  · have hLate := Nat.le_of_not_lt hEarly
    obtain ⟨now, phase, driver, calls⟩ := s
    cases phase with
    | protocol stage => 
        exact advances_of_rank .timeOut rfl (if_pos hLate) (Nat.le_refl 9)
    | finishing result graceEnd =>
        cases driver with
        | none => exact advances_of_rank .graceOver rfl (if_pos hLate) (Nat.le_refl 6)
        | some driverEnd => exact advances_of_rank .join rfl rfl (Nat.le_add_left 3 3)
    | tearingDown error graceEnd =>
        cases driver with
        | none => exact advances_of_rank .graceOver rfl (if_pos hLate) (Nat.le_refl 6)
        | some driverEnd => exact advances_of_rank .join rfl rfl (Nat.le_add_left 3 3)
    | aborting error =>
        cases driver with
        | none =>
            refine ⟨.cancelDriver "task was cancelled", _, rfl, rfl, ?_⟩
            simp [State.remaining, State.timer, Phase.rank]
        | some driverEnd => exact advances_of_rank .join rfl rfl (Nat.le_refl 3)
    | returned returned => exact absurd ⟨returned, rfl⟩ hOpen

theorem Prompt.exists_returned (h : Prompt deadline s) :
    ∃ actions s', (∀ action ∈ actions, action.unattended = true) ∧
      run (promptStep limits deadline) s actions = some s' ∧ Prompt deadline s' ∧
      ∃ returned, s'.phase = .returned returned := by
  refine exists_run_of_progress (State.remaining deadline) ?_ s h
  intro middle hMiddle hOpen
  obtain ⟨action, next, hAway, hStep, hLess⟩ := advances limits deadline hOpen
  exact ⟨action, next, hAway, hStep, hLess, hMiddle.step hStep⟩

/-- On a runtime that wakes it up on time, a session is over one grace period after
its timeout. Without another word from the prover or the driver it still returns. -/
theorem runMpcTls_returns_in_time (timeout : Nat)
    (hRun : run (promptStep limits (now + timeout)) (start now) actions = some s) :
    s.now ≤ now + timeout + driverShutdownGrace ∧
      ∃ rest s' returned, (∀ action ∈ rest, action.unattended = true) ∧
        run (promptStep limits (now + timeout)) s rest = some s' ∧
        s'.phase = .returned returned ∧ s'.now ≤ now + timeout + driverShutdownGrace := by
  have hStart : Prompt (now + timeout) (start now) := Nat.le_add_right now timeout
  have hPrompt : Prompt (now + timeout) s :=
    run_invariant (fun _ _ _ h hStep => h.step hStep) hStart hRun
  obtain ⟨rest, s', hAway, hRest, hEnd, returned, hReturned⟩ := hPrompt.exists_returned
  exact ⟨hPrompt.now_le, rest, s', returned, hAway, hRest, hReturned, hEnd.now_le⟩

/-- The prover proposes and is never heard of again. -/
theorem runMpcTls_returns_in_time_silent :
    ∃ s rest s' returned, run (promptStep sampleLimits (0 + 120000)) (start 0)
        [.reply (.created (.ok ())), .tick 119999] = some s ∧
      run (promptStep sampleLimits (0 + 120000)) s rest = some s' ∧
      s'.phase = .returned returned ∧ s'.now ≤ 122000 := by
  have hSome : (run (promptStep sampleLimits (0 + 120000)) (start 0)
      [.reply (.created (.ok ())), .tick 119999]).isSome = true := by
    decide +kernel
  obtain ⟨s, hRun⟩ := Option.isSome_iff_exists.mp hSome
  obtain ⟨rest, s', returned, _, hRest, hReturned, hNow⟩ := (runMpcTls_returns_in_time 120000 hRun).2
  exact ⟨s, rest, s', returned, hRun, hRest, hReturned, hNow⟩

end Timing

end SettlementOracle.MpcTls
