import SettlementOracle.Server.Transitions

/-! Four ledgers tie the flags of a session to the handlers that set them: who
claimed the verifier, who published, who took the receiver and who waits on it.
Beside them, every handler agrees with the session data that it holds. -/
namespace SettlementOracle

open Checked

/-- The request has claimed the verifier of its session. -/
def NotarizePhase.claimed : NotarizePhase → Bool
  | .rejected _ | .holding | .abandoned | .found => false
  | _ => true

/-- The request has published the outcome of its session. -/
def NotarizePhase.published : NotarizePhase → Bool
  | .finished _ => true
  | _ => false

/-- The request has taken the receiver of its session. -/
def ResultPhase.took : ResultPhase → Bool
  | .rejected _ | .found => false
  | .waiting _ | .resolved _ | .responded _ => true
  | .abandoned tookReceiver => tookReceiver

def ResultPhase.pending : ResultPhase → Bool
  | .waiting _ => true
  | _ => false

def Session.senderGone (session : Session) : Bool := !session.resultSender

def Session.receiverTaken (session : Session) : Bool := decide (session.resultReceiver ≠ .stored)

def Session.receiverHeld (session : Session) : Bool := decide (session.resultReceiver = .held)

/-- A conclusion that settles carries the result of a settlement that was
signed, and is about this asset. -/
def Conclusion.Faithful (world : Collaborators) (assetId : UInt64) (conclusion : Conclusion) :
    Prop :=
  (∃ message, conclusion = .failed message) ∨
    ∃ signed : SignedSettlement, conclusion = .settled signed ∧
      world.signSettlement signed.settlement = .ok signed.signature ∧
      signed.settlement.assetId = assetId

/-- What a notarize request knows agrees with its session. -/
def NotarizePhase.Bound (world : Collaborators) (phase : NotarizePhase) (cell : Option Session) :
    Prop :=
  match phase with
  | .settling _ _ escrow => ∃ session, cell = some session ∧ escrow.assetId = session.assetId
  | .ended conclusion | .publishing conclusion | .finished conclusion =>
      ∃ session, cell = some session ∧ conclusion.Faithful world session.assetId
  | _ => True

/-- A request that holds session data has a session, behind the wait its receiver
is gone, and a rejected one met no session or a taken receiver. -/
def ResultPhase.Bound (phase : ResultPhase) (cell : Option Session) : Prop :=
  match phase with
  | .rejected rejection => rejection.status = .notFound ∨ rejection.status = .conflict
  | .abandoned _ => True
  | .found | .waiting _ => ∃ session, cell = some session
  | .resolved _ | .responded _ => ∃ session, cell = some session ∧ session.resultReceiver = .dropped

section Frames

variable {config : NotarizationConfig} {world : Collaborators} {now : Nat} {sessionId : String}
  {session session' : Session}

/-- A result request leaves everything but the receiver and the message alone. -/
theorem ResultMove.frame {phase phase' : ResultPhase} {event : ResultEvent}
    (h : ResultMove config now sessionId session phase event phase' session') :
    session'.assetId = session.assetId ∧ session'.verifierClaimed = session.verifierClaimed ∧
      session'.resultSender = session.resultSender ∧ session'.expired = session.expired ∧
      session'.expiresAt = session.expiresAt := by
  cases h <;> exact ⟨rfl, rfl, rfl, rfl, rfl⟩

theorem ResultMove.dropped {phase phase' : ResultPhase} {event : ResultEvent}
    (h : ResultMove config now sessionId session phase event phase' session')
    (hDropped : session.resultReceiver = .dropped) : session'.resultReceiver = .dropped := by
  cases h with
  | take hStored => simp [hDropped] at hStored
  | conflict | finish | leaveFound | leaveResolved => exact hDropped
  | receive | close | timeOut | leaveWaiting => rfl

/-- Only publication touches the result channel, and only the claim touches the flag. -/
theorem publishSettlementOutcome_frame (session : Session) (outcome : SettlementOutcome) :
    (session.publishSettlementOutcome outcome).assetId = session.assetId ∧
      (session.publishSettlementOutcome outcome).verifierClaimed = session.verifierClaimed ∧
      (session.publishSettlementOutcome outcome).resultReceiver = session.resultReceiver ∧
      (session.publishSettlementOutcome outcome).expired = session.expired ∧
      (session.publishSettlementOutcome outcome).expiresAt = session.expiresAt := by
  unfold Session.publishSettlementOutcome
  split <;> exact ⟨rfl, rfl, rfl, rfl, rfl⟩

theorem NotarizeMove.frame {phase phase' : NotarizePhase} {event : NotarizeEvent}
    (h : NotarizeMove config world now sessionId session phase event phase' session') :
    session'.assetId = session.assetId ∧ session'.resultReceiver = session.resultReceiver ∧
      session'.expired = session.expired ∧ session'.expiresAt = session.expiresAt := by
  cases h with
  | publish =>
      obtain ⟨hAsset, _, hReceiver, hExpired, hExpires⟩ := publishSettlementOutcome_frame session _
      exact ⟨hAsset, hReceiver, hExpired, hExpires⟩
  | _ => exact ⟨rfl, rfl, rfl, rfl⟩

/-- A verifier at work has claimed its session and has not published. -/
theorem NotarizePhase.claimed_of_working {phase : NotarizePhase}
    (h : phase.working = true ∨ phase = .connected) :
    phase.claimed = true ∧ phase.published = false := by
  obtain hWorking | rfl := h
  · cases phase with
    | running | readingChain | settling => exact ⟨rfl, rfl⟩
    | _ => cases hWorking
  · exact ⟨rfl, rfl⟩

theorem arriveNotarize_cases (s : State) (sessionId : String) :
    arriveNotarize s sessionId = .found ∨
      ∃ rejection, arriveNotarize s sessionId = .rejected rejection := by
  unfold arriveNotarize
  split
  · exact Or.inl rfl
  · exact Or.inr ⟨_, rfl⟩

theorem arriveNotarize_claimed (s : State) (sessionId : String) :
    (arriveNotarize s sessionId).claimed = false := by
  obtain h | ⟨_, h⟩ := arriveNotarize_cases s sessionId <;> rw [h] <;> rfl

/-- A request finds its session exactly when the session is listed. -/
theorem arriveResult_cases (s : State) (sessionId : String) :
    (∃ session, sessionId ∈ s.sessions ∧ s.heap sessionId = some session ∧
        arriveResult s sessionId = .found) ∨
      (s.lookUp sessionId = none ∧
        arriveResult s sessionId = .rejected (sessionNotFound sessionId)) := by
  unfold arriveResult
  split
  · rename_i session hFound
    unfold State.lookUp at hFound
    split at hFound
    · exact Or.inl ⟨session, ‹_›, hFound, rfl⟩
    · cases hFound
  · exact Or.inr ⟨‹_›, rfl⟩

theorem arriveResult_took (s : State) (sessionId : String) :
    (arriveResult s sessionId).took = false := by
  obtain ⟨_, _, _, h⟩ | ⟨_, h⟩ := arriveResult_cases s sessionId <;> rw [h] <;> rfl

end Frames

section Ledgers

variable {config : NotarizationConfig} {world : Collaborators} {s s' : State} {action : Action}

/-- A ledger of the notarize requests survives a step when their own moves keep
it and nobody else touches its flag. -/
theorem Transition.balanced_notarizations {q : NotarizePhase → Bool} {f : Session → Bool}
    (hStep : Transition config world s action s') (h : Balanced q f s.notarizations s.heap)
    (hQuiet : ∀ phase, phase.claimed = false → q phase = false)
    (hFresh : ∀ assetId expiresAt, f (.create assetId expiresAt) = false)
    (hExpire : ∀ session : Session, f { session with expired := true } = f session)
    (hResult : ∀ {sessionId session session' phase phase' event},
      ResultMove config s.now sessionId session phase event phase' session' →
      f session' = f session)
    (hMove : ∀ {index : Nat} {sessionId session session' phase phase' event},
      s.notarizations[index]? = some ⟨sessionId, phase⟩ → s.heap sessionId = some session →
      NotarizeMove config world s.now sessionId session phase event phase' session' →
      (q phase').toNat + (f session).toNat = (q phase).toNat + (f session').toNat) :
    Balanced q f s'.notarizations s'.heap := by
  cases hStep with
  | tick | refused | resultArrived => exact h
  | created hNone => exact h.cell (by simp [hNone, hFresh, cellFlag])
  | expired hSession => exact h.cell (by simp [hSession, hExpire, cellFlag])
  | resultMoved _ hSession hMoved =>
      exact h.cell (by simp [hSession, hResult hMoved, cellFlag])
  | notarizeBusy | notarizeAdmitted => exact h.push (hQuiet _ rfl)
  | lookedUp hTask =>
      refine h.phase hTask ?_
      rw [hQuiet _ (arriveNotarize_claimed s _), hQuiet _ rfl]
  | left hTask =>
      refine h.phase hTask ?_
      rw [hQuiet _ rfl, hQuiet _ rfl]
  | notarizeMoved hTask hSession hMoved =>
      exact h.move hTask hSession (hMove hTask hSession hMoved)

/-- The same for a ledger of the result requests. -/
theorem Transition.balanced_requests {q : ResultPhase → Bool} {f : Session → Bool}
    (hStep : Transition config world s action s') (h : Balanced q f s.requests s.heap)
    (hQuiet : ∀ phase, phase.took = false → q phase = false)
    (hFresh : ∀ assetId expiresAt, f (.create assetId expiresAt) = false)
    (hExpire : ∀ session : Session, f { session with expired := true } = f session)
    (hNotarize : ∀ {sessionId session session' phase phase' event},
      NotarizeMove config world s.now sessionId session phase event phase' session' →
      f session' = f session)
    (hMove : ∀ {sessionId session session' phase phase' event},
      s.heap sessionId = some session →
      ResultMove config s.now sessionId session phase event phase' session' →
      (⟨sessionId, phase⟩ : Party String ResultPhase) ∈ s.requests →
      (q phase').toNat + (f session).toNat = (q phase).toNat + (f session').toNat) :
    Balanced q f s'.requests s'.heap := by
  cases hStep with
  | tick | refused | notarizeBusy | notarizeAdmitted | lookedUp | left => exact h
  | created hNone => exact h.cell (by simp [hNone, hFresh, cellFlag])
  | expired hSession => exact h.cell (by simp [hSession, hExpire, cellFlag])
  | resultArrived => exact h.push (hQuiet _ (arriveResult_took s _))
  | resultMoved hRequest hSession hMoved =>
      exact h.move hRequest hSession (hMove hSession hMoved (List.mem_of_getElem? hRequest))
  | notarizeMoved _ hSession hMoved =>
      exact h.cell (by simp [hSession, hNotarize hMoved, cellFlag])

theorem claims_step (hStep : Transition config world s action s')
    (h : Balanced NotarizePhase.claimed Session.verifierClaimed s.notarizations s.heap) :
    Balanced NotarizePhase.claimed Session.verifierClaimed s'.notarizations s'.heap := by
  refine hStep.balanced_notarizations h (fun _ hQuiet => hQuiet) (fun _ _ => rfl) (fun _ => rfl)
    (fun hMoved => hMoved.frame.2.1) ?_
  intro index sessionId session session' phase phase' event _ _ hMoved
  cases hMoved with
  | conflict => rfl
  | claim hFree => simp [hFree, NotarizePhase.claimed]
  | publish =>
      obtain ⟨_, hClaimed, _⟩ := publishSettlementOutcome_frame session _
      rw [hClaimed]
      rfl
  | fail hWorking =>
      rw [(NotarizePhase.claimed_of_working (Or.inl hWorking)).1]
      rfl
  | panic hWorking =>
      rw [(NotarizePhase.claimed_of_working hWorking).1]
      rfl
  | _ => rfl

/-- The claimed request that is about to publish finds the sender in its slot:
whoever took it would have claimed the verifier a second time. -/
theorem resultSender_of_publishing {index : Nat} {sessionId : String} {conclusion : Conclusion}
    {session : Session}
    (hClaims : Balanced NotarizePhase.claimed Session.verifierClaimed s.notarizations s.heap)
    (hPublications : Balanced NotarizePhase.published Session.senderGone s.notarizations s.heap)
    (hTask : s.notarizations[index]? = some ⟨sessionId, .publishing conclusion⟩)
    (hSession : s.heap sessionId = some session) : session.resultSender = true := by
  by_contra hSender
  obtain ⟨phase, hMem, hPublished⟩ :=
    hPublications.exists_of_flag hSession (by simpa [Session.senderGone] using hSender)
  obtain ⟨other, hOther⟩ := List.mem_iff_getElem?.mp hMem
  cases phase with
  | finished earlier =>
      obtain rfl : index = other := eq_of_countP_le_one (hClaims.le_one sessionId) hTask hOther
        (Party.on_iff.mpr ⟨rfl, rfl⟩) (Party.on_iff.mpr ⟨rfl, rfl⟩)
      rw [hTask] at hOther
      cases hOther
  | _ => cases hPublished

theorem publications_step (hStep : Transition config world s action s')
    (hClaims : Balanced NotarizePhase.claimed Session.verifierClaimed s.notarizations s.heap)
    (h : Balanced NotarizePhase.published Session.senderGone s.notarizations s.heap) :
    Balanced NotarizePhase.published Session.senderGone s'.notarizations s'.heap := by
  refine hStep.balanced_notarizations h ?_ (fun _ _ => rfl) (fun _ => rfl) ?_ ?_
  · intro phase hQuiet
    cases phase <;> first | rfl | cases hQuiet
  · intro sessionId session session' phase phase' event hMoved
    rw [Session.senderGone, Session.senderGone, hMoved.frame.2.2.1]
  · intro index sessionId session session' phase phase' event hTask hSession hMoved
    cases hMoved with
    | publish =>
        have hSender := resultSender_of_publishing hClaims h hTask hSession
        simp [Session.publishSettlementOutcome, Session.senderGone, NotarizePhase.published, hSender]
    | fail hWorking =>
        rw [(NotarizePhase.claimed_of_working (Or.inl hWorking)).2]
        rfl
    | panic hWorking =>
        rw [(NotarizePhase.claimed_of_working hWorking).2]
        rfl
    | _ => rfl

theorem receivers_step (hStep : Transition config world s action s')
    (h : Balanced ResultPhase.took Session.receiverTaken s.requests s.heap) :
    Balanced ResultPhase.took Session.receiverTaken s'.requests s'.heap := by
  refine hStep.balanced_requests h (fun _ hQuiet => hQuiet) (fun _ _ => rfl) (fun _ => rfl) ?_ ?_
  · intro sessionId session session' phase phase' event hMoved
    rw [Session.receiverTaken, Session.receiverTaken, hMoved.frame.2.1]
  · intro sessionId session session' phase phase' event hSession hMoved hMem
    cases hMoved with
    | take hStored => simp [Session.receiverTaken, ResultPhase.took, hStored]
    | conflict | finish | leaveFound | leaveResolved => rfl
    | receive | close | timeOut | leaveWaiting =>
        rw [h.flag_of_mem hMem rfl hSession]
        rfl

theorem waits_step (hStep : Transition config world s action s')
    (h : Balanced ResultPhase.pending Session.receiverHeld s.requests s.heap) :
    Balanced ResultPhase.pending Session.receiverHeld s'.requests s'.heap := by
  refine hStep.balanced_requests h ?_ (fun _ _ => rfl) (fun _ => rfl) ?_ ?_
  · intro phase hQuiet
    cases phase <;> first | rfl | cases hQuiet
  · intro sessionId session session' phase phase' event hMoved
    rw [Session.receiverHeld, Session.receiverHeld, hMoved.frame.2.1]
  · intro sessionId session session' phase phase' event hSession hMoved hMem
    cases hMoved with
    | take hStored => simp [Session.receiverHeld, ResultPhase.pending, hStored]
    | conflict | finish | leaveFound | leaveResolved => rfl
    | receive | close | timeOut | leaveWaiting =>
        rw [h.flag_of_mem hMem rfl hSession]
        rfl

end Ledgers

section Agreement

variable {config : NotarizationConfig} {world : Collaborators} {s s' : State} {action : Action}

theorem NotarizePhase.Bound.mono {phase : NotarizePhase} {cell : Option Session} {session' : Session}
    (h : phase.Bound world cell)
    (hCell : ∀ session, cell = some session → session'.assetId = session.assetId) :
    phase.Bound world (some session') := by
  cases phase with
  | settling deadline mpc escrow =>
      obtain ⟨session, hSession, hAsset⟩ := h
      exact ⟨session', rfl, hAsset.trans (hCell session hSession).symm⟩
  | ended conclusion | publishing conclusion | finished conclusion =>
      obtain ⟨session, hSession, hFaithful⟩ := h
      rw [← hCell session hSession] at hFaithful
      exact ⟨session', rfl, hFaithful⟩
  | _ => trivial

theorem ResultPhase.Bound.mono {phase : ResultPhase} {cell : Option Session} {session' : Session}
    (h : phase.Bound cell)
    (hCell : ∀ session, cell = some session → session.resultReceiver = .dropped →
      session'.resultReceiver = .dropped) : phase.Bound (some session') := by
  cases phase with
  | rejected => exact h
  | found | waiting => exact ⟨session', rfl⟩
  | resolved | responded =>
      obtain ⟨session, hSession, hDropped⟩ := h
      exact ⟨session', rfl, hCell session hSession hDropped⟩
  | _ => trivial

/-- A verifier concludes with a settlement only if it signed one for the asset
of its session. -/
theorem NotarizeMove.bound {now : Nat} {sessionId : String} {session session' : Session}
    {phase phase' : NotarizePhase} {event : NotarizeEvent}
    (h : NotarizeMove config world now sessionId session phase event phase' session')
    (hBound : phase.Bound world (some session)) : phase'.Bound world (some session') := by
  cases h with
  | settle hEscrow => exact ⟨session, rfl, readEscrow_assetId hEscrow⟩
  | @sign deadline mpc escrow proofTimestamp signed hSigned =>
      obtain ⟨_, hSession, hAsset⟩ := hBound
      obtain rfl := Option.some.inj hSession
      refine ⟨session, rfl, Or.inr ⟨signed, rfl, ?_, ?_⟩⟩
      · exact (createSettlementResult_eq_ok_iff.mp hSigned).2
      · exact (createSettlementResult_assetId hSigned).trans hAsset
  | fail => exact ⟨session, rfl, Or.inl ⟨_, rfl⟩⟩
  | decrement => exact hBound
  | @publish conclusion =>
      obtain ⟨_, hSession, hFaithful⟩ := hBound
      obtain rfl := Option.some.inj hSession
      rw [← (publishSettlementOutcome_frame session conclusion.outcome).1] at hFaithful
      exact ⟨_, rfl, hFaithful⟩
  | _ => trivial

theorem verifiers_step (hStep : Transition config world s action s')
    (h : Agrees (NotarizePhase.Bound world) s.notarizations s.heap) :
    Agrees (NotarizePhase.Bound world) s'.notarizations s'.heap := by
  cases hStep with
  | tick | refused | resultArrived => exact h
  | created hNone => exact h.cell fun _ hBound => hBound.mono (by simp [hNone])
  | expired hSession => exact h.cell fun _ hBound => hBound.mono (by simp [hSession])
  | resultMoved _ hSession hMoved =>
      refine h.cell fun _ hBound => hBound.mono ?_
      simpa [hSession] using hMoved.frame.1
  | notarizeBusy | notarizeAdmitted => exact h.push trivial
  | lookedUp =>
      refine h.phase ?_
      obtain hPhase | ⟨_, hPhase⟩ := arriveNotarize_cases s _ <;> rw [hPhase] <;> trivial
  | left => exact h.phase trivial
  | notarizeMoved hTask hSession hMoved =>
      have hOld := h _ (List.mem_of_getElem? hTask)
      rw [hSession] at hOld
      refine h.move (fun _ hBound => hBound.mono ?_) (hMoved.bound hOld)
      simpa [hSession] using hMoved.frame.1

theorem ResultMove.bound {now : Nat} {sessionId : String} {session session' : Session}
    {phase phase' : ResultPhase} {event : ResultEvent}
    (h : ResultMove config now sessionId session phase event phase' session')
    (hBound : phase.Bound (some session)) : phase'.Bound (some session') := by
  cases h with
  | take => exact ⟨_, rfl⟩
  | receive | close | timeOut => exact ⟨_, rfl, rfl⟩
  | finish => exact hBound
  | conflict => exact Or.inr rfl
  | leaveFound | leaveWaiting | leaveResolved => trivial

theorem results_step (hStep : Transition config world s action s')
    (h : Agrees ResultPhase.Bound s.requests s.heap) :
    Agrees ResultPhase.Bound s'.requests s'.heap := by
  cases hStep with
  | tick | refused | notarizeBusy | notarizeAdmitted | lookedUp | left => exact h
  | created hNone => exact h.cell fun _ hBound => hBound.mono (by simp [hNone])
  | expired hSession => exact h.cell fun _ hBound => hBound.mono (by simp [hSession])
  | resultArrived =>
      refine h.push ?_
      obtain ⟨session, _, hSession, hPhase⟩ | ⟨_, hPhase⟩ := arriveResult_cases s _
      · rw [hPhase, hSession]
        exact ⟨session, rfl⟩
      · rw [hPhase]
        exact Or.inl rfl
  | resultMoved hRequest hSession hMoved =>
      have hOld := h _ (List.mem_of_getElem? hRequest)
      rw [hSession] at hOld
      refine h.move (fun _ hBound => hBound.mono ?_) (hMoved.bound hOld)
      simpa [hSession] using hMoved.dropped
  | notarizeMoved _ hSession hMoved =>
      refine h.cell fun _ hBound => hBound.mono ?_
      simpa [hSession] using fun hDropped => hMoved.frame.2.1.trans hDropped

end Agreement

end SettlementOracle
