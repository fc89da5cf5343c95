import SettlementOracle.Server.Ledgers

/-! The invariant of the session server. Beside the ledgers it ties the session
map to the receivers, and the contents of the result channel to what the
verifier of the session published. -/
namespace SettlementOracle

open Checked

/-- The outcome that the request has received, or has been answered with. -/
def ResultPhase.carried : ResultPhase → Option SettlementOutcome
  | .resolved (.received outcome) | .responded (.received outcome) => some outcome
  | _ => none

/-- The verifier of the session has published this outcome. -/
def State.Published (s : State) (sessionId : String) (outcome : SettlementOutcome) : Prop :=
  ∃ conclusion : Conclusion,
    ⟨sessionId, .finished conclusion⟩ ∈ s.notarizations ∧ conclusion.outcome = outcome

/-- The invariant of the server. -/
structure ServerInv (world : Collaborators) (s : State) : Prop where
  claims : Balanced NotarizePhase.claimed Session.verifierClaimed s.notarizations s.heap
  publications : Balanced NotarizePhase.published Session.senderGone s.notarizations s.heap
  receivers : Balanced ResultPhase.took Session.receiverTaken s.requests s.heap
  waits : Balanced ResultPhase.pending Session.receiverHeld s.requests s.heap
  verifiers : Agrees (NotarizePhase.Bound world) s.notarizations s.heap
  results : Agrees ResultPhase.Bound s.requests s.heap
  listed : ∀ sessionId session, s.heap sessionId = some session → session.expired = false →
    session.resultReceiver ≠ .dropped → sessionId ∈ s.sessions
  unlisted : ∀ sessionId session, s.heap sessionId = some session → session.expired = true →
    sessionId ∉ s.sessions
  kept : ∀ sessionId session outcome, s.heap sessionId = some session →
    session.resultReceiver ≠ .dropped → s.Published sessionId outcome →
    session.message = some outcome
  sent : ∀ sessionId session outcome, s.heap sessionId = some session →
    session.message = some outcome → s.Published sessionId outcome
  carried : ∀ request ∈ s.requests, ∀ outcome, request.phase.carried = some outcome →
    s.Published request.key outcome

section Channel

variable {config : NotarizationConfig} {world : Collaborators} {s s' : State} {action : Action}
  {sessionId : String} {session session' : Session} {outcome : SettlementOutcome}

theorem NotarizeMove.not_published {now : Nat} {phase phase' : NotarizePhase} {event : NotarizeEvent}
    (h : NotarizeMove config world now sessionId session phase event phase' session') :
    phase.published = false := by
  cases h with
  | fail hWorking => exact (NotarizePhase.claimed_of_working (Or.inl hWorking)).2
  | panic hWorking => exact (NotarizePhase.claimed_of_working hWorking).2
  | _ => rfl

/-- A publication is never taken back. -/
theorem Transition.published_mono (hStep : Transition config world s action s')
    (h : s.Published sessionId outcome) : s'.Published sessionId outcome := by
  obtain ⟨conclusion, hMem, hOutcome⟩ := h
  refine ⟨conclusion, ?_, hOutcome⟩
  cases hStep with
  | tick | refused | created | expired | resultArrived | resultMoved => exact hMem
  | notarizeBusy | notarizeAdmitted => exact List.mem_append_left _ hMem
  | lookedUp hTask => exact mem_set_of_ne hTask hMem (by simp)
  | left hTask => exact mem_set_of_ne hTask hMem (by simp)
  | notarizeMoved hTask _ hMoved =>
      refine mem_set_of_ne hTask hMem ?_
      intro hSame
      cases hSame
      cases hMoved.not_published

/-- A published outcome was published before the step, or by it. -/
theorem Transition.published_cases (hStep : Transition config world s action s')
    (h : s'.Published sessionId outcome) :
    s.Published sessionId outcome ∨
      ∃ (index : Nat) (conclusion : Conclusion) (session : Session),
        s.notarizations[index]? = some ⟨sessionId, .publishing conclusion⟩ ∧
        conclusion.outcome = outcome ∧ s.heap sessionId = some session ∧
        s'.heap sessionId = some (session.publishSettlementOutcome outcome) := by
  obtain ⟨conclusion, hMem, hOutcome⟩ := h
  cases hStep with
  | tick | refused | created | expired | resultArrived | resultMoved =>
      exact Or.inl ⟨conclusion, hMem, hOutcome⟩
  | notarizeBusy | notarizeAdmitted =>
      exact Or.inl ⟨conclusion, by simpa using hMem, hOutcome⟩
  | @lookedUp index other hTask =>
      obtain hOld | hNew := List.mem_or_eq_of_mem_set hMem
      · exact Or.inl ⟨conclusion, hOld, hOutcome⟩
      · obtain hPhase | ⟨_, hPhase⟩ := arriveNotarize_cases s other <;> simp [hPhase] at hNew
  | left hTask =>
      obtain hOld | hNew := List.mem_or_eq_of_mem_set hMem
      · exact Or.inl ⟨conclusion, hOld, hOutcome⟩
      · simp at hNew
  | @notarizeMoved index other phase phase' event session session' hTask hSession hMoved =>
      obtain hOld | hNew := List.mem_or_eq_of_mem_set hMem
      · exact Or.inl ⟨conclusion, hOld, hOutcome⟩
      · cases hNew
        cases hMoved with
        | publish =>
            refine Or.inr ⟨index, conclusion, session, hTask, hOutcome, hSession, ?_⟩
            rw [← hOutcome]
            exact Function.update_self ..

theorem ServerInv.sender_gone (h : ServerInv world s) (hSession : s.heap sessionId = some session)
    (hPublished : s.Published sessionId outcome) : session.resultSender = false := by
  obtain ⟨conclusion, hMem, _⟩ := hPublished
  simpa [Session.senderGone] using h.publications.flag_of_mem hMem rfl hSession

theorem ServerInv.session_of_published (h : ServerInv world s)
    (hPublished : s.Published sessionId outcome) : ∃ session, s.heap sessionId = some session := by
  obtain ⟨conclusion, hMem, _⟩ := hPublished
  obtain ⟨session, hSession, _⟩ := h.verifiers _ hMem
  exact ⟨session, hSession⟩

theorem ResultMove.message_kept {now : Nat} {phase phase' : ResultPhase} {event : ResultEvent}
    (h : ResultMove config now sessionId session phase event phase' session')
    (hReceiver : session'.resultReceiver ≠ .dropped) :
    session.resultReceiver ≠ .dropped ∧ session'.message = session.message := by
  cases h with
  | take hStored => simp [hStored]
  | conflict | finish | leaveFound | leaveResolved => exact ⟨hReceiver, rfl⟩
  | receive | close | timeOut | leaveWaiting => exact absurd rfl hReceiver

/-- A message stays in the channel as long as the receiver lives. -/
theorem Transition.message_kept (hStep : Transition config world s action s')
    (hSession : s.heap sessionId = some session) (hSession' : s'.heap sessionId = some session')
    (hReceiver : session'.resultReceiver ≠ .dropped) (hSender : session.resultSender = false) :
    session.resultReceiver ≠ .dropped ∧ session'.message = session.message := by
  have hSame : s'.heap sessionId = s.heap sessionId →
      session.resultReceiver ≠ .dropped ∧ session'.message = session.message := by
    intro hHeap
    obtain rfl : session = session' := by simpa [hHeap, hSession] using hSession'
    exact ⟨hReceiver, rfl⟩
  cases hStep with
  | tick | refused | resultArrived | notarizeBusy | notarizeAdmitted | lookedUp | left =>
      exact hSame rfl
  | created hFresh =>
      obtain ⟨rfl, _⟩ | ⟨hNe, _⟩ := update_eq_some_iff.mp hSession'
      · simp [hFresh] at hSession
      · exact hSame (Function.update_of_ne hNe ..)
  | expired hExpired =>
      obtain ⟨rfl, rfl⟩ | ⟨hNe, _⟩ := update_eq_some_iff.mp hSession'
      · obtain rfl : _ = session := Option.some.inj (hExpired.symm.trans hSession)
        exact ⟨hReceiver, rfl⟩
      · exact hSame (Function.update_of_ne hNe ..)
  | resultMoved _ hMovedSession hMoved =>
      obtain ⟨rfl, rfl⟩ | ⟨hNe, _⟩ := update_eq_some_iff.mp hSession'
      · obtain rfl : _ = session := Option.some.inj (hMovedSession.symm.trans hSession)
        exact hMoved.message_kept hReceiver
      · exact hSame (Function.update_of_ne hNe ..)
  | notarizeMoved _ hMovedSession hMoved =>
      obtain ⟨rfl, rfl⟩ | ⟨hNe, _⟩ := update_eq_some_iff.mp hSession'
      · obtain rfl : _ = session := Option.some.inj (hMovedSession.symm.trans hSession)
        refine ⟨hMoved.frame.2.1 ▸ hReceiver, ?_⟩
        cases hMoved with
        | publish => simp [Session.publishSettlementOutcome, hSender]
        | _ => rfl
      · exact hSame (Function.update_of_ne hNe ..)

theorem kept_step (hInv : ServerInv world s) (hStep : Transition config world s action s')
    (hSession' : s'.heap sessionId = some session') (hReceiver : session'.resultReceiver ≠ .dropped)
    (hPublished : s'.Published sessionId outcome) : session'.message = some outcome := by
  obtain hOld | ⟨index, conclusion, session, hTask, rfl, hSession, hNew⟩ :=
    hStep.published_cases hPublished
  · obtain ⟨session, hSession⟩ := hInv.session_of_published hOld
    obtain ⟨hAlive, hMessage⟩ := hStep.message_kept hSession hSession' hReceiver
      (hInv.sender_gone hSession hOld)
    rw [hMessage]
    exact hInv.kept sessionId session outcome hSession hAlive hOld
  · obtain rfl : _ = session' := Option.some.inj (hNew.symm.trans hSession')
    have hSender := resultSender_of_publishing hInv.claims hInv.publications hTask hSession
    rw [(publishSettlementOutcome_frame session conclusion.outcome).2.2.1] at hReceiver
    simp [Session.publishSettlementOutcome, hSender, hReceiver]

/-- A message in the channel was there before the step, or is being published. -/
theorem sent_step (hInv : ServerInv world s) (hStep : Transition config world s action s')
    (hSession' : s'.heap sessionId = some session') (hMessage : session'.message = some outcome) :
    s'.Published sessionId outcome := by
  have hOld : ∀ session, s.heap sessionId = some session → session.message = some outcome →
      s'.Published sessionId outcome :=
    fun session hSession hBefore =>
      hStep.published_mono (hInv.sent sessionId session outcome hSession hBefore)
  cases hStep with
  | tick | refused | resultArrived | notarizeBusy | notarizeAdmitted | lookedUp | left =>
      exact hOld session' hSession' hMessage
  | created =>
      obtain ⟨rfl, rfl⟩ | ⟨_, hOther⟩ := update_eq_some_iff.mp hSession'
      · cases hMessage
      · exact hOld session' hOther hMessage
  | expired hExpired =>
      obtain ⟨rfl, rfl⟩ | ⟨_, hOther⟩ := update_eq_some_iff.mp hSession'
      · exact hOld _ hExpired hMessage
      · exact hOld session' hOther hMessage
  | resultMoved _ hSession hMoved =>
      obtain ⟨rfl, rfl⟩ | ⟨_, hOther⟩ := update_eq_some_iff.mp hSession'
      · refine hOld _ hSession ?_
        cases hMoved with
        | receive | leaveWaiting => cases hMessage
        | _ => exact hMessage
      · exact hOld session' hOther hMessage
  | @notarizeMoved index _ _ _ _ session _ hTask hSession hMoved =>
      obtain ⟨rfl, rfl⟩ | ⟨_, hOther⟩ := update_eq_some_iff.mp hSession'
      · cases hMoved with
        | @publish conclusion =>
            have hSender := resultSender_of_publishing hInv.claims hInv.publications hTask hSession
            have hIndex : index < s.notarizations.length := (List.getElem?_eq_some_iff.mp hTask).1
            refine ⟨conclusion, List.mem_set hIndex _, ?_⟩
            simp only [Session.publishSettlementOutcome, hSender, if_true] at hMessage
            split at hMessage
            · cases hMessage
            · exact Option.some.inj hMessage
        | _ => exact hOld _ hSession hMessage
      · exact hOld session' hOther hMessage

theorem carried_step (hInv : ServerInv world s) (hStep : Transition config world s action s')
    {request : Party String ResultPhase} (hMem : request ∈ s'.requests)
    (hCarried : request.phase.carried = some outcome) : s'.Published request.key outcome := by
  have hOld : request ∈ s.requests → s'.Published request.key outcome :=
    fun hBefore => hStep.published_mono (hInv.carried request hBefore outcome hCarried)
  cases hStep with
  | tick | refused | created | expired | notarizeBusy | notarizeAdmitted | lookedUp | left
    | notarizeMoved => exact hOld hMem
  | resultArrived sessionId =>
      obtain hBefore | hNew := List.mem_append.mp hMem
      · exact hOld hBefore
      · obtain rfl : request = ⟨sessionId, arriveResult s sessionId⟩ := by simpa using hNew
        obtain ⟨_, _, _, hPhase⟩ | ⟨_, hPhase⟩ := arriveResult_cases s sessionId <;>
          simp [hPhase, ResultPhase.carried] at hCarried
  | resultMoved hRequest hSession hMoved =>
      obtain hBefore | rfl := List.mem_or_eq_of_mem_set hMem
      · exact hOld hBefore
      · cases hMoved with
        | receive hMessage =>
            obtain rfl := Option.some.inj hCarried
            exact hInv.sent _ _ _ hSession hMessage
        | @finish waitEnd =>
            refine hInv.carried _ (List.mem_of_getElem? hRequest) outcome ?_
            cases waitEnd <;> exact hCarried
        | _ => cases hCarried

theorem listed_step (hInv : ServerInv world s) (hStep : Transition config world s action s')
    (hSession' : s'.heap sessionId = some session') (hFresh : session'.expired = false)
    (hReceiver : session'.resultReceiver ≠ .dropped) : sessionId ∈ s'.sessions := by
  have hOther : ∀ {other}, sessionId ≠ other → sessionId ∈ s.sessions →
      sessionId ∈ s.remove other :=
    fun hNe hListed => List.mem_filter.mpr ⟨hListed, by simpa using hNe⟩
  cases hStep with
  | tick | refused | resultArrived | notarizeBusy | notarizeAdmitted | lookedUp | left =>
      exact hInv.listed sessionId session' hSession' hFresh hReceiver
  | created =>
      obtain ⟨rfl, _⟩ | ⟨_, hSession⟩ := update_eq_some_iff.mp hSession'
      · exact List.mem_cons_self
      · exact List.mem_cons_of_mem _ (hInv.listed sessionId session' hSession hFresh hReceiver)
  | expired =>
      obtain ⟨rfl, rfl⟩ | ⟨hNe, hSession⟩ := update_eq_some_iff.mp hSession'
      · cases hFresh
      · exact hOther hNe (hInv.listed sessionId session' hSession hFresh hReceiver)
  | resultMoved hRequest hSession hMoved =>
      obtain ⟨rfl, rfl⟩ | ⟨hNe, hSession⟩ := update_eq_some_iff.mp hSession'
      · have hAlive := fun hDropped => hReceiver (hMoved.dropped hDropped)
        have hListed := hInv.listed _ _ hSession (hMoved.frame.2.2.2.1 ▸ hFresh) hAlive
        cases hMoved with
        | finish =>
            obtain ⟨_, hBound, hDropped⟩ := hInv.results _ (List.mem_of_getElem? hRequest)
            obtain rfl := Option.some.inj (hSession.symm.trans hBound)
            exact absurd hDropped hAlive
        | _ => exact hListed
      · have hListed := hInv.listed sessionId session' hSession hFresh hReceiver
        show sessionId ∈ ite _ _ _
        split
        · exact hOther hNe hListed
        · exact hListed
  | notarizeMoved _ hSession hMoved =>
      obtain ⟨rfl, rfl⟩ | ⟨_, hSession⟩ := update_eq_some_iff.mp hSession'
      · obtain ⟨_, hSame, hExpired, _⟩ := hMoved.frame
        exact hInv.listed _ _ hSession (hExpired ▸ hFresh) (hSame ▸ hReceiver)
      · exact hInv.listed sessionId session' hSession hFresh hReceiver

theorem unlisted_step (hInv : ServerInv world s) (hStep : Transition config world s action s')
    (hSession' : s'.heap sessionId = some session') (hExpired : session'.expired = true) :
    sessionId ∉ s'.sessions := by
  cases hStep with
  | tick | refused | resultArrived | notarizeBusy | notarizeAdmitted | lookedUp | left =>
      exact hInv.unlisted sessionId session' hSession' hExpired
  | created =>
      obtain ⟨rfl, rfl⟩ | ⟨hNe, hSession⟩ := update_eq_some_iff.mp hSession'
      · cases hExpired
      · exact List.not_mem_cons_of_ne_of_not_mem hNe
          (hInv.unlisted sessionId session' hSession hExpired)
  | expired =>
      obtain ⟨rfl, _⟩ | ⟨_, hSession⟩ := update_eq_some_iff.mp hSession'
      · simp [State.remove]
      · exact fun hListed => hInv.unlisted sessionId session' hSession hExpired
          (List.mem_of_mem_filter hListed)
  | resultMoved hRequest hSession hMoved =>
      have hBefore : sessionId ∉ s.sessions := by
        obtain ⟨rfl, rfl⟩ | ⟨_, hOther⟩ := update_eq_some_iff.mp hSession'
        · exact hInv.unlisted _ _ hSession (hMoved.frame.2.2.2.1 ▸ hExpired)
        · exact hInv.unlisted sessionId session' hOther hExpired
      show sessionId ∉ ite _ _ _
      split
      · exact fun hListed => hBefore (List.mem_of_mem_filter hListed)
      · exact hBefore
  | notarizeMoved _ hSession hMoved =>
      obtain ⟨rfl, rfl⟩ | ⟨_, hOther⟩ := update_eq_some_iff.mp hSession'
      · exact hInv.unlisted _ _ hSession (hMoved.frame.2.2.1 ▸ hExpired)
      · exact hInv.unlisted sessionId session' hOther hExpired

end Channel

section Runs

variable {config : NotarizationConfig} {world : Collaborators} {s s' : State} {action : Action}

theorem serverInv_start (config : NotarizationConfig) (world : Collaborators) :
    ServerInv world (State.start config) where
  claims _ := rfl
  publications _ := rfl
  receivers _ := rfl
  waits _ := rfl
  verifiers _ hMem := by cases hMem
  results _ hMem := by cases hMem
  listed _ _ hSession := by cases hSession
  unlisted _ _ hSession := by cases hSession
  kept _ _ _ hSession := by cases hSession
  sent _ _ _ hSession := by cases hSession
  carried _ hMem := by cases hMem

/-- Every action of the server preserves the invariant. -/
theorem ServerInv.step (h : ServerInv world s) (hStep : step config world s action = some s') :
    ServerInv world s' := by
  have hMove := transition_of_step hStep
  exact {
    claims := claims_step hMove h.claims
    publications := publications_step hMove h.claims h.publications
    receivers := receivers_step hMove h.receivers
    waits := waits_step hMove h.waits
    verifiers := verifiers_step hMove h.verifiers
    results := results_step hMove h.results
    listed := fun _ _ hSession => listed_step h hMove hSession
    unlisted := fun _ _ hSession => unlisted_step h hMove hSession
    kept := fun _ _ _ hSession => kept_step h hMove hSession
    sent := fun _ _ _ hSession => sent_step h hMove hSession
    carried := fun _ hMem _ => carried_step h hMove hMem }

theorem ServerInv.run {actions : List Action} (h : ServerInv world s)
    (hRun : Checked.run (SettlementOracle.step config world) s actions = some s') :
    ServerInv world s' :=
  run_invariant (fun _ _ _ hInv hStep => hInv.step hStep) h hRun

/-- The invariant holds in every reachable state. -/
theorem serverInv_of_reachable
    (h : Reachable (SettlementOracle.step config world) (State.start config) s) :
    ServerInv world s := by
  obtain ⟨actions, hRun⟩ := h
  exact (serverInv_start config world).run hRun

end Runs

end SettlementOracle
