import SettlementOracle.Server.Machine

/-! What one action of the server can do. Every invariant is derived from these
case lists, so the step functions are unfolded only here. -/
namespace SettlementOracle

open Checked

/-- The moves of a result request. -/
inductive ResultMove (config : NotarizationConfig) (now : Nat) (sessionId : String)
    (session : Session) : ResultPhase → ResultEvent → ResultPhase → Session → Prop where
  | take (hStored : session.resultReceiver = .stored) :
      ResultMove config now sessionId session .found .takeReceiver
        (.waiting (now + config.timeoutMs)) { session with resultReceiver := .held }
  | conflict (hTaken : session.resultReceiver ≠ .stored) :
      ResultMove config now sessionId session .found .takeReceiver
        (.rejected ⟨.conflict, "Session result already claimed: " ++ sessionId⟩) session
  | receive {deadline : Nat} {outcome : SettlementOutcome}
      (hMessage : session.message = some outcome) :
      ResultMove config now sessionId session (.waiting deadline) .receive
        (.resolved (.received outcome))
        { session with resultReceiver := .dropped, message := none }
  | close {deadline : Nat} (hMessage : session.message = none)
      (hSender : session.resultSender = false) :
      ResultMove config now sessionId session (.waiting deadline) .closeChannel
        (.resolved .channelClosed) { session with resultReceiver := .dropped }
  | timeOut {deadline : Nat} (hTime : deadline ≤ now) (hMessage : session.message = none)
      (hSender : session.resultSender = true) :
      ResultMove config now sessionId session (.waiting deadline) .timeOut
        (.resolved .timedOut) { session with resultReceiver := .dropped }
  | finish {waitEnd : WaitEnd} :
      ResultMove config now sessionId session (.resolved waitEnd) .finish
        (.responded waitEnd) session
  | leaveFound :
      ResultMove config now sessionId session .found .disconnect (.abandoned false) session
  | leaveWaiting {deadline : Nat} :
      ResultMove config now sessionId session (.waiting deadline) .disconnect (.abandoned true)
        { session with resultReceiver := .dropped, message := none }
  | leaveResolved {waitEnd : WaitEnd} :
      ResultMove config now sessionId session (.resolved waitEnd) .disconnect
        (.abandoned true) session

/-- The phases in which the verifier works on its transcript. -/
def NotarizePhase.working : NotarizePhase → Bool
  | .running _ | .readingChain _ _ | .settling _ _ _ => true
  | _ => false

/-- The moves of a notarize request that holds its session data. -/
inductive NotarizeMove (config : NotarizationConfig) (world : Collaborators) (now : Nat)
    (sessionId : String) (session : Session) :
    NotarizePhase → NotarizeEvent → NotarizePhase → Session → Prop where
  | conflict (hClaimed : session.verifierClaimed = true) :
      NotarizeMove config world now sessionId session .found .claimVerifier
        (.rejected ⟨.conflict, "Session verifier already claimed: " ++ sessionId⟩) session
  | claim (hFree : session.verifierClaimed = false) :
      NotarizeMove config world now sessionId session .found .claimVerifier .upgrading
        { session with verifierClaimed := true }
  | failUpgrade :
      NotarizeMove config world now sessionId session .upgrading .failUpgrade .upgradeFailed session
  | connect : NotarizeMove config world now sessionId session .upgrading .connect .connected session
  | start :
      NotarizeMove config world now sessionId session .connected .startVerifier
        (.running (now + config.timeoutMs)) session
  | read {deadline : Nat} {mpc : MpcTlsResult} (hTime : now ≤ deadline) :
      NotarizeMove config world now sessionId session (.running deadline) (.endMpcTls (.ok mpc))
        (.readingChain deadline mpc) session
  | settle {deadline : Nat} {mpc : MpcTlsResult} {answers : ChainAnswers} {escrow : EscrowSnapshot}
      (hEscrow : readEscrow world.displayAddress session.assetId answers = .ok escrow)
      (hTime : now ≤ deadline) :
      NotarizeMove config world now sessionId session (.readingChain deadline mpc)
        (.endChainRead (some answers)) (.settling deadline mpc escrow) session
  | sign {deadline : Nat} {mpc : MpcTlsResult} {escrow : EscrowSnapshot} {proofTimestamp : UInt64}
      {signed : SignedSettlement}
      (hSigned : createSettlementResult world mpc escrow proofTimestamp = .ok signed) :
      NotarizeMove config world now sessionId session (.settling deadline mpc escrow)
        (.endSettlement (some proofTimestamp)) (.ended (.settled signed)) session
  | fail {phase : NotarizePhase} {event : NotarizeEvent} {message : String}
      (hWorking : phase.working = true) (hActive : ∀ active, event.countActive active = active) :
      NotarizeMove config world now sessionId session phase event (.ended (.failed message)) session
  | panic {phase : NotarizePhase} {event : NotarizeEvent}
      (hWorking : phase.working = true ∨ phase = .connected)
      (hActive : ∀ active, event.countActive active = active) :
      NotarizeMove config world now sessionId session phase event .panicked session
  | decrement {conclusion : Conclusion} :
      NotarizeMove config world now sessionId session (.ended conclusion) .decrementActive
        (.publishing conclusion) session
  | publish {conclusion : Conclusion} :
      NotarizeMove config world now sessionId session (.publishing conclusion) .publish
        (.finished conclusion) (session.publishSettlementOutcome conclusion.outcome)

section Moves

variable {config : NotarizationConfig} {world : Collaborators} {now deadline : Nat}
  {sessionId : String} {session session' : Session} {mpc : MpcTlsResult} {escrow : EscrowSnapshot}

theorem ResultPhase.move_of_step {phase phase' : ResultPhase} {event : ResultEvent}
    (h : phase.step config now sessionId session event = some (phase', session')) :
    ResultMove config now sessionId session phase event phase' session' := by
  unfold ResultPhase.step at h
  split at h
  · split at h
    · cases h
      exact .take ‹_›
    · cases h
      exact .conflict ‹_›
  · obtain ⟨outcome, hMessage, hEq⟩ := Option.map_eq_some_iff.mp h
    cases hEq
    exact .receive hMessage
  · split at h
    · rename_i hClosed
      cases h
      exact .close hClosed.1 hClosed.2
    · cases h
  · split at h
    · rename_i hLate
      cases h
      exact .timeOut hLate.1 hLate.2.1 hLate.2.2
    · cases h
  · cases h
    exact .finish
  · cases h
    exact .leaveFound
  · cases h
    exact .leaveWaiting
  · cases h
    exact .leaveResolved
  · cases h

theorem afterMpcTls_cases {result : Except MpcTlsError MpcTlsResult} {phase : NotarizePhase}
    (h : afterMpcTls config now deadline result = some phase) :
    (∃ message, phase = .ended (.failed message)) ∨
      ∃ mpc, result = .ok mpc ∧ now ≤ deadline ∧ phase = .readingChain deadline mpc := by
  unfold afterMpcTls at h
  split at h
  · split at h
    · cases h
      exact Or.inl ⟨_, rfl⟩
    · cases h
  · cases h
    exact Or.inl ⟨_, rfl⟩
  · split at h
    · cases h
      exact Or.inr ⟨_, rfl, ‹_›, rfl⟩
    · cases h
      exact Or.inl ⟨_, rfl⟩

theorem afterChainRead_cases {assetId : UInt64} {answers : Option ChainAnswers}
    {phase : NotarizePhase}
    (h : afterChainRead config world now assetId deadline mpc answers = some phase) :
    (∃ message, phase = .ended (.failed message)) ∨
      ∃ given escrow, answers = some given ∧ now ≤ deadline ∧
        readEscrow world.displayAddress assetId given = .ok escrow ∧
        phase = .settling deadline mpc escrow := by
  unfold afterChainRead at h
  split at h
  · split at h
    · cases h
      exact Or.inl ⟨_, rfl⟩
    · cases h
  · split at h
    · cases h
      exact Or.inl ⟨_, rfl⟩
    · split at h
      · cases h
        exact Or.inr ⟨_, _, rfl, ‹_›, ‹_›, rfl⟩
      · cases h
        exact Or.inl ⟨_, rfl⟩

theorem afterSettlement_cases {proofTimestamp : Option UInt64} {phase : NotarizePhase}
    (h : afterSettlement config world now deadline mpc escrow proofTimestamp = some phase) :
    (∃ message, phase = .ended (.failed message)) ∨ phase = .panicked ∨
      ∃ given signed, proofTimestamp = some given ∧
        createSettlementResult world mpc escrow given = .ok signed ∧
        phase = .ended (.settled signed) := by
  unfold afterSettlement at h
  split at h
  · split at h
    · cases h
      exact Or.inl ⟨_, rfl⟩
    · cases h
  · split at h
    · cases h
      exact Or.inr (Or.inr ⟨_, _, rfl, ‹_›, rfl⟩)
    · cases h
      exact Or.inl ⟨_, rfl⟩
    · cases h
      exact Or.inr (Or.inl rfl)

theorem NotarizePhase.move_of_step {phase phase' : NotarizePhase} {event : NotarizeEvent}
    (h : phase.step config world now sessionId session event = some (phase', session')) :
    NotarizeMove config world now sessionId session phase event phase' session' := by
  unfold NotarizePhase.step at h
  split at h
  · split at h
    · cases h
      exact .conflict ‹_›
    · cases h
      exact .claim (by simpa using ‹¬session.verifierClaimed = true›)
  · cases h
    exact .failUpgrade
  · cases h
    exact .connect
  · cases h
    exact .start
  · obtain ⟨next, hNext, hEq⟩ := Option.map_eq_some_iff.mp h
    cases hEq
    obtain ⟨message, rfl⟩ | ⟨mpc, rfl, hTime, rfl⟩ := afterMpcTls_cases hNext
    · exact .fail rfl fun _ => rfl
    · exact .read hTime
  · obtain ⟨next, hNext, hEq⟩ := Option.map_eq_some_iff.mp h
    cases hEq
    obtain ⟨message, rfl⟩ | ⟨answers, escrow, rfl, hTime, hEscrow, rfl⟩ := afterChainRead_cases hNext
    · exact .fail rfl fun _ => rfl
    · exact .settle hEscrow hTime
  · obtain ⟨next, hNext, hEq⟩ := Option.map_eq_some_iff.mp h
    cases hEq
    obtain ⟨message, rfl⟩ | rfl | ⟨given, signed, rfl, hSigned, rfl⟩ := afterSettlement_cases hNext
    · exact .fail rfl fun _ => rfl
    · exact .panic (Or.inl rfl) fun _ => rfl
    · exact .sign hSigned
  · cases h
    exact .panic (Or.inr rfl) fun _ => rfl
  · cases h
    exact .panic (Or.inl rfl) fun _ => rfl
  · cases h
    exact .panic (Or.inl rfl) fun _ => rfl
  · cases h
    exact .panic (Or.inl rfl) fun _ => rfl
  · cases h
    exact .decrement
  · cases h
    exact .publish
  · cases h

end Moves

/-- The transitions of the server. -/
inductive Transition (config : NotarizationConfig) (world : Collaborators) (s : State) :
    Action → State → Prop where
  | tick (elapsed : Nat) :
      Transition config world s (.tick elapsed) { s with now := s.now + elapsed }
  | refused {sessionId : String} {body : SessionRequest} {rejection : Rejection}
      (hReply : (sessionHandler config s sessionId body).2 = .error rejection) :
      Transition config world s (.postSession sessionId body) s
  | created {sessionId : String} {body : SessionRequest} (hFresh : s.heap sessionId = none)
      (hRoom : s.sessions.length < config.maxPendingSessions)
      (hReply : (sessionHandler config s sessionId body).2 = .ok ⟨sessionId, tlsnProtocolVersion⟩) :
      Transition config world s (.postSession sessionId body) { s with
        heap := Function.update s.heap sessionId
          (some (.create body.assetId (s.now + config.sessionTtlMs)))
        sessions := sessionId :: s.sessions }
  | expired {sessionId : String} {session : Session} (hSession : s.heap sessionId = some session)
      (hTime : session.expiresAt ≤ s.now) (hFirst : session.expired = false) :
      Transition config world s (.expireSession sessionId) { s with
        heap := Function.update s.heap sessionId (some { session with expired := true })
        sessions := s.remove sessionId }
  | resultArrived (sessionId : String) :
      Transition config world s (.getResult sessionId) { s with
        requests := s.requests ++ [⟨sessionId, arriveResult s sessionId⟩] }
  | resultMoved {index : Nat} {sessionId : String} {phase phase' : ResultPhase}
      {event : ResultEvent} {session session' : Session}
      (hRequest : s.requests[index]? = some ⟨sessionId, phase⟩)
      (hSession : s.heap sessionId = some session)
      (hMove : ResultMove config s.now sessionId session phase event phase' session') :
      Transition config world s (.stepResult index event) { s with
        requests := s.requests.set index ⟨sessionId, phase'⟩
        heap := Function.update s.heap sessionId (some session')
        sessions := if event = .finish then s.remove sessionId else s.sessions }
  | notarizeBusy (sessionId : String) (hPermits : s.permits = 0) :
      Transition config world s (.getNotarize sessionId) { s with
        notarizations := s.notarizations ++ [⟨sessionId, .rejected (notarizationBusy config)⟩] }
  | notarizeAdmitted (sessionId : String) (hPermits : s.permits ≠ 0) :
      Transition config world s (.getNotarize sessionId) { s with
        notarizations := s.notarizations ++ [⟨sessionId, .holding⟩]
        permits := s.permits - 1 }
  | lookedUp {index : Nat} {sessionId : String}
      (hTask : s.notarizations[index]? = some ⟨sessionId, .holding⟩) :
      Transition config world s (.lookUpSession index)
        (s.setNotarization index sessionId .holding (arriveNotarize s sessionId))
  | left {index : Nat} {sessionId : String}
      (hTask : s.notarizations[index]? = some ⟨sessionId, .holding⟩) :
      Transition config world s (.leaveNotarize index)
        (s.setNotarization index sessionId .holding .abandoned)
  | notarizeMoved {index : Nat} {sessionId : String} {phase phase' : NotarizePhase}
      {event : NotarizeEvent} {session session' : Session}
      (hTask : s.notarizations[index]? = some ⟨sessionId, phase⟩)
      (hSession : s.heap sessionId = some session)
      (hMove : NotarizeMove config world s.now sessionId session phase event phase' session') :
      Transition config world s (.stepNotarize index event)
        { s.setNotarization index sessionId phase phase' with
          heap := Function.update s.heap sessionId (some session')
          active := event.countActive s.active }

section Steps

variable {config : NotarizationConfig} {world : Collaborators} {s s' : State} {action : Action}

theorem sessionHandler_cases (sessionId : String) (body : SessionRequest) :
    (∃ rejection, sessionHandler config s sessionId body = (s, .error rejection)) ∨
      (s.sessions.length < config.maxPendingSessions ∧
        sessionHandler config s sessionId body =
          ({ s with
              heap := Function.update s.heap sessionId
                (some (.create body.assetId (s.now + config.sessionTtlMs)))
              sessions := sessionId :: s.sessions },
            .ok ⟨sessionId, tlsnProtocolVersion⟩)) := by
  unfold sessionHandler
  split
  · exact Or.inl ⟨_, rfl⟩
  · split
    · exact Or.inl ⟨_, rfl⟩
    · exact Or.inr ⟨by omega, rfl⟩

/-- Every enabled action is one of the transitions. -/
theorem transition_of_step (h : step config world s action = some s') :
    Transition config world s action s' := by
  cases action with
  | tick elapsed =>
      cases h
      exact .tick elapsed
  | postSession sessionId body =>
      simp only [step] at h
      split at h
      · cases h
        obtain ⟨rejection, hRefused⟩ | ⟨hRoom, hCreated⟩ := sessionHandler_cases sessionId body
        · rw [hRefused]
          exact .refused (congrArg Prod.snd hRefused)
        · rw [hCreated]
          exact .created ‹_› hRoom (congrArg Prod.snd hCreated)
      · cases h
  | expireSession sessionId =>
      obtain ⟨session, hSession, h⟩ := Option.bind_eq_some_iff.mp h
      split at h
      · rename_i hDue
        cases h
        exact .expired hSession hDue.1 hDue.2
      · cases h
  | getResult sessionId =>
      cases h
      exact .resultArrived sessionId
  | stepResult index event =>
      obtain ⟨request, hRequest, h⟩ := Option.bind_eq_some_iff.mp h
      obtain ⟨session, hSession, h⟩ := Option.bind_eq_some_iff.mp h
      obtain ⟨⟨phase, session'⟩, hMove, h⟩ := Option.bind_eq_some_iff.mp h
      cases h
      exact .resultMoved hRequest hSession (ResultPhase.move_of_step hMove)
  | getNotarize sessionId =>
      simp only [step] at h
      split at h
      · cases h
        exact .notarizeBusy sessionId ‹_›
      · cases h
        exact .notarizeAdmitted sessionId ‹_›
  | lookUpSession index =>
      obtain ⟨⟨sessionId, phase⟩, hTask, h⟩ := Option.bind_eq_some_iff.mp h
      split at h
      · rename_i hHolding
        obtain rfl : phase = .holding := hHolding
        cases h
        exact .lookedUp hTask
      · cases h
  | leaveNotarize index =>
      obtain ⟨⟨sessionId, phase⟩, hTask, h⟩ := Option.bind_eq_some_iff.mp h
      split at h
      · rename_i hHolding
        obtain rfl : phase = .holding := hHolding
        cases h
        exact .left hTask
      · cases h
  | stepNotarize index event =>
      obtain ⟨task, hTask, h⟩ := Option.bind_eq_some_iff.mp h
      obtain ⟨session, hSession, h⟩ := Option.bind_eq_some_iff.mp h
      obtain ⟨⟨phase, session'⟩, hMove, h⟩ := Option.bind_eq_some_iff.mp h
      cases h
      exact .notarizeMoved hTask hSession (NotarizePhase.move_of_step hMove)

end Steps

end SettlementOracle
