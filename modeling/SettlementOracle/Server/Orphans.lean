import SettlementOracle.Server.Results

/-! Claimed sessions that nobody will answer. The claim happens in the handler,
the publication at the end of a task that the upgrade spawns, and that task can
be lost in between. -/
namespace SettlementOracle

open Checked

/-- The upgrade or the verifier of the request is still on its way to publish. -/
def NotarizePhase.live : NotarizePhase → Bool
  | .upgrading | .connected | .running _ | .readingChain _ _ | .settling _ _ _ | .ended _
    | .publishing _ => true
  | _ => false

/-- The request claimed the verifier and its task is gone without a publication. -/
def NotarizePhase.lost : NotarizePhase → Bool
  | .upgradeFailed | .panicked => true
  | _ => false

/-- Every claimed session of the map has a live verifier, or its outcome has
been published. -/
def State.NotOrphaned (s : State) : Prop :=
  ∀ sessionId session, s.lookUp sessionId = some session → session.verifierClaimed = true →
    (∃ phase, ⟨sessionId, phase⟩ ∈ s.notarizations ∧ phase.live = true) ∨
      session.resultSender = false

/-- The event ends the task of a claimed request without an outcome: the upgrade
fails before its callback runs, the task panics, or the decision engine does. -/
def LosesVerifier (world : Collaborators) (phase : NotarizePhase) : NotarizeEvent → Prop
  | .failUpgrade | .panic => True
  | .endSettlement (some proofTimestamp) =>
      ∃ deadline mpc escrow, phase = .settling deadline mpc escrow ∧
        ¬Safe (decideTranscript world mpc escrow proofTimestamp)
  | _ => False

/-- The action loses no verifier of a session in the map. -/
def KeepsVerifier (world : Collaborators) (s : State) : Action → Prop
  | .stepNotarize index event =>
      ∀ sessionId phase, s.notarizations[index]? = some ⟨sessionId, phase⟩ →
        sessionId ∈ s.sessions → ¬LosesVerifier world phase event
  | _ => True

/-- A lost request belongs to a session that has left the map. -/
def State.LostUnlisted (s : State) : Prop :=
  ∀ sessionId phase, ⟨sessionId, phase⟩ ∈ s.notarizations → phase.lost = true →
    sessionId ∉ s.sessions

section Losses

variable {config : NotarizationConfig} {world : Collaborators} {now : Nat} {sessionId : String}
  {session session' : Session} {mpc : MpcTlsResult} {escrow : EscrowSnapshot}

theorem safe_createSettlementResult_iff {proofTimestamp : UInt64} :
    Safe (createSettlementResult world mpc escrow proofTimestamp) ↔
      Safe (decideTranscript world mpc escrow proofTimestamp) := by
  have hSign : ∀ settlement, Safe (signDecision world settlement) := by
    intro settlement
    unfold signDecision
    split
    · exact safe_ok _
    · exact safe_fail _
  simp [createSettlementResult, safe_bind_iff, hSign]

theorem afterSettlement_lost_iff {deadline : Nat} {proofTimestamp : Option UInt64}
    {phase : NotarizePhase}
    (h : afterSettlement config world now deadline mpc escrow proofTimestamp = some phase) :
    phase.lost = true ↔
      LosesVerifier world (.settling deadline mpc escrow) (.endSettlement proofTimestamp) := by
  cases proofTimestamp with
  | none =>
      simp only [afterSettlement] at h
      split at h
      · cases h
        simp [NotarizePhase.lost, LosesVerifier]
      · cases h
  | some given =>
      have hLoses : LosesVerifier world (.settling deadline mpc escrow)
          (.endSettlement (some given)) ↔
          ¬Safe (createSettlementResult world mpc escrow given) := by
        rw [safe_createSettlementResult_iff]
        constructor
        · rintro ⟨_, _, _, hPhase, hPanic⟩
          cases hPhase
          exact hPanic
        · exact fun hPanic => ⟨deadline, mpc, escrow, rfl, hPanic⟩
      rw [hLoses]
      simp only [afterSettlement] at h
      split at h
      · rename_i hSigned
        cases h
        simp [NotarizePhase.lost, hSigned]
      · rename_i hFailed
        cases h
        simp [NotarizePhase.lost, hFailed, Safe]
      · rename_i hPanic
        cases h
        simp [NotarizePhase.lost, hPanic, Safe]

/-- A move loses the request exactly when its event does. -/
theorem NotarizePhase.lost_iff_of_step {phase phase' : NotarizePhase} {event : NotarizeEvent}
    (h : phase.step config world now sessionId session event = some (phase', session')) :
    phase'.lost = true ↔ LosesVerifier world phase event := by
  unfold NotarizePhase.step at h
  split at h
  · split at h <;> cases h <;> simp [NotarizePhase.lost, LosesVerifier]
  · cases h
    simp [NotarizePhase.lost, LosesVerifier]
  · cases h
    simp [NotarizePhase.lost, LosesVerifier]
  · cases h
    simp [NotarizePhase.lost, LosesVerifier]
  · obtain ⟨next, hNext, hEq⟩ := Option.map_eq_some_iff.mp h
    cases hEq
    obtain ⟨message, rfl⟩ | ⟨mpc, rfl, _, rfl⟩ := afterMpcTls_cases hNext <;>
      simp [NotarizePhase.lost, LosesVerifier]
  · obtain ⟨next, hNext, hEq⟩ := Option.map_eq_some_iff.mp h
    cases hEq
    obtain ⟨message, rfl⟩ | ⟨answers, escrow, rfl, _, _, rfl⟩ := afterChainRead_cases hNext <;>
      simp [NotarizePhase.lost, LosesVerifier]
  · obtain ⟨next, hNext, hEq⟩ := Option.map_eq_some_iff.mp h
    cases hEq
    exact afterSettlement_lost_iff hNext
  iterate 6
    · cases h
      simp [NotarizePhase.lost, LosesVerifier]
  · cases h

theorem NotarizePhase.claimed_cases {phase : NotarizePhase} (h : phase.claimed = true) :
    phase.live = true ∨ phase.published = true ∨ phase.lost = true := by
  cases phase <;> simp_all [NotarizePhase.claimed, NotarizePhase.live, NotarizePhase.published,
    NotarizePhase.lost]

theorem NotarizePhase.of_lost {phase : NotarizePhase} (h : phase.lost = true) :
    phase.claimed = true ∧ phase.live = false ∧ phase.published = false := by
  cases phase <;> simp_all [NotarizePhase.claimed, NotarizePhase.live, NotarizePhase.published,
    NotarizePhase.lost]

theorem NotarizePhase.claimed_of_live {phase : NotarizePhase} (h : phase.live = true) :
    phase.claimed = true := by
  cases phase <;> simp_all [NotarizePhase.claimed, NotarizePhase.live]

theorem NotarizePhase.claimed_of_published {phase : NotarizePhase} (h : phase.published = true) :
    phase.claimed = true := by
  cases phase <;> simp_all [NotarizePhase.claimed, NotarizePhase.published]

end Losses

section Orphans

variable {config : NotarizationConfig} {world : Collaborators} {s s' : State} {action : Action}
  {sessionId : String} {session : Session} {phase other : NotarizePhase}

theorem State.lookUp_eq_some_iff :
    s.lookUp sessionId = some session ↔
      sessionId ∈ s.sessions ∧ s.heap sessionId = some session := by
  unfold State.lookUp
  split <;> simp_all

/-- All claimed requests of a session are one. -/
theorem ServerInv.claimed_unique (h : ServerInv world s)
    (hMem : ⟨sessionId, phase⟩ ∈ s.notarizations)
    (hOther : ⟨sessionId, other⟩ ∈ s.notarizations) (hClaimed : phase.claimed = true)
    (hClaimed' : other.claimed = true) : phase = other := by
  obtain ⟨i, hi⟩ := List.mem_iff_getElem?.mp hMem
  obtain ⟨j, hj⟩ := List.mem_iff_getElem?.mp hOther
  obtain rfl : i = j := eq_of_countP_le_one (h.claims.le_one sessionId) hi hj
    (Party.on_iff.mpr ⟨rfl, hClaimed⟩) (Party.on_iff.mpr ⟨rfl, hClaimed'⟩)
  cases hi.symm.trans hj
  rfl

/-- Sessions are orphaned by lost requests and by nothing else. -/
theorem ServerInv.notOrphaned_iff (h : ServerInv world s) : s.NotOrphaned ↔ s.LostUnlisted := by
  constructor
  · intro hKept sessionId phase hMem hLost hListed
    obtain ⟨hClaimed, hDead, hSilent⟩ := NotarizePhase.of_lost hLost
    obtain ⟨session, hSession⟩ := h.claims.cell_of_mem hMem hClaimed
    have hFlag := h.claims.flag_of_mem hMem hClaimed hSession
    obtain ⟨other, hOther, hLive⟩ | hSender :=
      hKept sessionId session (State.lookUp_eq_some_iff.mpr ⟨hListed, hSession⟩) hFlag
    · cases h.claimed_unique hMem hOther hClaimed (NotarizePhase.claimed_of_live hLive)
      simp [hDead] at hLive
    · obtain ⟨other, hOther, hPublished⟩ :=
        h.publications.exists_of_flag hSession (by simp [Session.senderGone, hSender])
      cases h.claimed_unique hMem hOther hClaimed (NotarizePhase.claimed_of_published hPublished)
      simp [hSilent] at hPublished
  · intro hUnlisted sessionId session hFound hFlag
    obtain ⟨hListed, hSession⟩ := State.lookUp_eq_some_iff.mp hFound
    obtain ⟨phase, hMem, hClaimed⟩ := h.claims.exists_of_flag hSession hFlag
    obtain hLive | hPublished | hLost := NotarizePhase.claimed_cases hClaimed
    · exact Or.inl ⟨phase, hMem, hLive⟩
    · have hGone := h.publications.flag_of_mem hMem hPublished hSession
      exact Or.inr (by simpa [Session.senderGone] using hGone)
    · exact absurd hListed (hUnlisted sessionId phase hMem hLost)

theorem State.LostUnlisted.mono (h : s.LostUnlisted)
    (hLost : ∀ sessionId phase, ⟨sessionId, phase⟩ ∈ s'.notarizations → phase.lost = true →
      ⟨sessionId, phase⟩ ∈ s.notarizations)
    (hListed : ∀ sessionId phase, ⟨sessionId, phase⟩ ∈ s.notarizations → phase.lost = true →
      sessionId ∈ s'.sessions → sessionId ∈ s.sessions) : s'.LostUnlisted := by
  intro sessionId phase hMem hPhase hSessions
  have hBefore := hLost sessionId phase hMem hPhase
  exact h sessionId phase hBefore hPhase (hListed sessionId phase hBefore hPhase hSessions)

/-- Whoever replaces a request of the list is not lost, so the lost ones are old. -/
theorem mem_of_mem_set_of_lost {index : Nat} {party : Party String NotarizePhase}
    (hMem : ⟨sessionId, phase⟩ ∈ s.notarizations.set index party) (hLost : phase.lost = true)
    (hKept : party.phase.lost = false) : ⟨sessionId, phase⟩ ∈ s.notarizations := by
  obtain hOld | rfl := List.mem_or_eq_of_mem_set hMem
  · exact hOld
  · simp [hLost] at hKept

theorem arriveNotarize_lost (s : State) (sessionId : String) :
    (arriveNotarize s sessionId).lost = false := by
  obtain h | ⟨_, h⟩ := arriveNotarize_cases s sessionId <;> rw [h] <;> rfl

/-- Nobody but the verifier of a session can orphan it. -/
theorem Transition.lostUnlisted (hStep : Transition config world s action s')
    (hInv : ServerInv world s) (h : s.LostUnlisted)
    (hOther : ∀ index event, action ≠ .stepNotarize index event) : s'.LostUnlisted := by
  cases hStep with
  | tick | refused | resultArrived => exact h
  | @created created _ hFresh =>
      refine h.mono (fun _ _ hMem _ => hMem) fun sessionId phase hMem hLost hListed => ?_
      obtain ⟨session, hSession⟩ :=
        hInv.claims.cell_of_mem hMem (NotarizePhase.of_lost hLost).1
      obtain rfl | hBefore := List.mem_cons.mp hListed
      · simp [hFresh] at hSession
      · exact hBefore
  | expired =>
      exact h.mono (fun _ _ hMem _ => hMem) fun _ _ _ _ hListed => List.mem_of_mem_filter hListed
  | resultMoved =>
      refine h.mono (fun _ _ hMem _ => hMem) fun sessionId phase _ _ hListed => ?_
      simp only at hListed
      split at hListed
      · exact List.mem_of_mem_filter hListed
      · exact hListed
  | notarizeBusy | notarizeAdmitted =>
      refine h.mono (fun sessionId phase hMem hLost => ?_) fun _ _ _ _ hListed => hListed
      obtain hOld | hNew := List.mem_append.mp hMem
      · exact hOld
      · obtain ⟨rfl, rfl⟩ := by simpa using hNew
        cases hLost
  | lookedUp =>
      exact h.mono (fun _ _ hMem hLost => mem_of_mem_set_of_lost hMem hLost
        (arriveNotarize_lost s _)) fun _ _ _ _ hListed => hListed
  | left =>
      exact h.mono (fun _ _ hMem hLost => mem_of_mem_set_of_lost hMem hLost rfl)
        fun _ _ _ _ hListed => hListed
  | notarizeMoved => exact absurd rfl (hOther _ _)

/-- A step out of a state without orphans leads to one exactly when it loses no
verifier of a session in the map. -/
theorem lostUnlisted_step_iff (hInv : ServerInv world s) (h : s.LostUnlisted)
    (hStep : step config world s action = some s') :
    s'.LostUnlisted ↔ KeepsVerifier world s action := by
  have hMove := transition_of_step hStep
  cases action with
  | stepNotarize index event =>
      obtain ⟨⟨sessionId, phase⟩, hTask, hStep⟩ := Option.bind_eq_some_iff.mp hStep
      obtain ⟨session, hSession, hStep⟩ := Option.bind_eq_some_iff.mp hStep
      obtain ⟨⟨phase', session'⟩, hPhase, hStep⟩ := Option.bind_eq_some_iff.mp hStep
      have hLost := NotarizePhase.lost_iff_of_step hPhase
      cases hStep
      constructor
      · intro hAfter other otherPhase hOther hListed hLoses
        cases hTask.symm.trans hOther
        have hIndex : index < s.notarizations.length := (List.getElem?_eq_some_iff.mp hTask).1
        exact hAfter sessionId phase' (List.mem_set hIndex _) (hLost.mpr hLoses) hListed
      · intro hKeeps other otherPhase hMem hOtherLost hListed
        obtain hOld | hNew := List.mem_or_eq_of_mem_set hMem
        · exact h other otherPhase hOld hOtherLost hListed
        · cases hNew
          exact hKeeps sessionId phase hTask hListed (hLost.mp hOtherLost)
  | _ => exact iff_of_true (hMove.lostUnlisted hInv h (by simp)) trivial

/-- In every run, no claimed session of the map is ever without a live verifier
and without an outcome, exactly as long as no step loses the verifier of a session
in the map: by a failed upgrade, a panic of the task, or a panic of the decision
engine. -/
theorem notOrphaned_iff_keepsVerifier (config : NotarizationConfig) (world : Collaborators)
    (actions : List Action) :
    (∀ s, Visits (step config world) (State.start config) actions s → s.NotOrphaned) ↔
      ∀ s action s', Takes (step config world) (State.start config) actions s action s' →
        KeepsVerifier world s action := by
  refine visits_iff_takes (fun _ _ _ (hInv : ServerInv world _) hStep => hInv.step hStep) ?_
    (serverInv_start config world) ?_
  · intro s action next hInv hOrphan hStep
    rw [(hInv.step hStep).notOrphaned_iff]
    exact lostUnlisted_step_iff hInv (hInv.notOrphaned_iff.mp hOrphan) hStep
  · exact fun _ _ hFound => by cases hFound

/-- The client claims the session and closes its connection before the upgrade. -/
def failedUpgradeRun : List Action :=
  [.postSession "b3f1" sampleBody, .getNotarize "b3f1", .lookUpSession 0,
    .stepNotarize 0 .claimVerifier, .stepNotarize 0 .failUpgrade]

/-- The session stays in the map, claimed and with its sender in the slot. -/
theorem not_notOrphaned_failedUpgrade :
    ∃ s, run (step sampleConfig sampleWorld) (State.start sampleConfig) failedUpgradeRun = some s ∧
      ¬s.NotOrphaned := by
  have hFinal : (run (step sampleConfig sampleWorld) (State.start sampleConfig)
      failedUpgradeRun).map (fun s => (s.sessions, s.notarizations)) =
      some (["b3f1"], [⟨"b3f1", .upgradeFailed⟩]) := by
    decide +kernel
  obtain ⟨s, hRun, hEq⟩ := Option.map_eq_some_iff.mp hFinal
  obtain ⟨hSessions, hTasks⟩ := Prod.mk.inj hEq
  refine ⟨s, hRun, fun hOrphan => ?_⟩
  have hUnlisted := (serverInv_of_reachable ⟨_, hRun⟩).notOrphaned_iff.mp hOrphan
  exact hUnlisted "b3f1" .upgradeFailed (by simp [hTasks]) rfl (by simp [hSessions])

end Orphans

end SettlementOracle
