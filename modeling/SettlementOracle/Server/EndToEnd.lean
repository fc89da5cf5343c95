import SettlementOracle.Server.Results

/-! Where a settlement comes from. A run is read backwards from the reply of a
result request to the `POST /session` that created its session. The steps on the
way are a subsequence of the run, so they happened in this order. -/
namespace SettlementOracle

open Checked

/-- The session was created and then claimed by verifier `index`, and `later`
followed. The claim is on the asset that the request named. -/
def Claimed (actions : List Action) (sessionId : String) (index : Nat) (cell : Option Session)
    (later : List Action) : Prop :=
  ∃ (body : SessionRequest) (session : Session), cell = some session ∧
    session.assetId = body.assetId ∧
    (.postSession sessionId body :: .stepNotarize index .claimVerifier :: later).Sublist actions

/-- The steps of a verifier up to its decision. -/
def verifierTrail (sessionId : String) (body : SessionRequest) (index : Nat) (mpc : MpcTlsResult)
    (answers : ChainAnswers) (proofTimestamp : UInt64) : List Action :=
  [.postSession sessionId body, .stepNotarize index .claimVerifier,
    .stepNotarize index (.endMpcTls (.ok mpc)), .stepNotarize index (.endChainRead (some answers)),
    .stepNotarize index (.endSettlement (some proofTimestamp))]

/-- Verifier `index` of the session signed this settlement, and `later` followed. -/
def Settled (world : Collaborators) (actions : List Action) (sessionId : String) (index : Nat)
    (signed : SignedSettlement) (later : List Action) : Prop :=
  ∃ (body : SessionRequest) (mpc : MpcTlsResult) (answers : ChainAnswers)
    (escrow : EscrowSnapshot) (proofTimestamp : UInt64),
    (verifierTrail sessionId body index mpc answers proofTimestamp ++ later).Sublist actions ∧
    readEscrow world.displayAddress body.assetId answers = .ok escrow ∧
    createSettlementResult world mpc escrow proofTimestamp = .ok signed

/-- What has happened to a notarize request that got this far. -/
def NotarizePhase.Trail (world : Collaborators) (actions : List Action) (sessionId : String)
    (index : Nat) (cell : Option Session) : NotarizePhase → Prop
  | .upgrading | .connected | .running _ => Claimed actions sessionId index cell []
  | .readingChain _ mpc =>
      Claimed actions sessionId index cell [.stepNotarize index (.endMpcTls (.ok mpc))]
  | .settling _ mpc escrow =>
      ∃ (body : SessionRequest) (answers : ChainAnswers),
        ([.postSession sessionId body, .stepNotarize index .claimVerifier,
          .stepNotarize index (.endMpcTls (.ok mpc)),
          .stepNotarize index (.endChainRead (some answers))] : List Action).Sublist actions ∧
        readEscrow world.displayAddress body.assetId answers = .ok escrow
  | .ended conclusion | .publishing conclusion =>
      ∀ signed, conclusion.signed = some signed → Settled world actions sessionId index signed []
  | .finished conclusion =>
      ∀ signed, conclusion.signed = some signed →
        Settled world actions sessionId index signed [.stepNotarize index .publish]
  | _ => True

/-- What has happened to a result request that holds a settlement. -/
def ResultPhase.Trail (world : Collaborators) (actions : List Action) (sessionId : String)
    (index : Nat) : ResultPhase → Prop
  | .resolved (.received (.ok result)) =>
      ∃ (verifier : Nat) (signed : SignedSettlement), signed.wireResult = result ∧
        Settled world actions sessionId verifier signed
          [.stepNotarize verifier .publish, .stepResult index .receive]
  | .responded (.received (.ok result)) =>
      ∃ (verifier : Nat) (signed : SignedSettlement), signed.wireResult = result ∧
        Settled world actions sessionId verifier signed
          [.stepNotarize verifier .publish, .stepResult index .receive, .stepResult index .finish]
  | _ => True

structure TrailInv (world : Collaborators) (actions : List Action) (s : State) : Prop where
  notarizations : ∀ (index : Nat) (task : Party String NotarizePhase),
    s.notarizations[index]? = some task →
    task.phase.Trail world actions task.key index (s.heap task.key)
  requests : ∀ (index : Nat) (request : Party String ResultPhase),
    s.requests[index]? = some request → request.phase.Trail world actions request.key index

section Trails

variable {config : NotarizationConfig} {world : Collaborators} {actions later : List Action}
  {action : Action} {sessionId : String} {index now : Nat} {session session' : Session}
  {cell : Option Session} {signed : SignedSettlement}

theorem Claimed.snoc (h : Claimed actions sessionId index cell later) (action : Action) :
    Claimed (actions ++ [action]) sessionId index cell (later ++ [action]) := by
  obtain ⟨body, session, hCell, hAsset, hTrail⟩ := h
  exact ⟨body, session, hCell, hAsset, hTrail.append (List.Sublist.refl [action])⟩

theorem Claimed.mono (h : Claimed actions sessionId index (some session) later)
    (hAsset : session'.assetId = session.assetId) (action : Action) :
    Claimed (actions ++ [action]) sessionId index (some session') later := by
  obtain ⟨body, before, hCell, hBody, hTrail⟩ := h
  obtain rfl := Option.some.inj hCell
  exact ⟨body, session', rfl, hAsset.trans hBody,
    hTrail.trans (List.sublist_append_left actions [action])⟩

theorem Settled.snoc (h : Settled world actions sessionId index signed later) (action : Action) :
    Settled world (actions ++ [action]) sessionId index signed (later ++ [action]) := by
  obtain ⟨body, mpc, answers, escrow, proofTimestamp, hTrail, hEscrow, hSigned⟩ := h
  refine ⟨body, mpc, answers, escrow, proofTimestamp, ?_, hEscrow, hSigned⟩
  rw [← List.append_assoc]
  exact hTrail.append (List.Sublist.refl [action])

theorem Settled.mono (h : Settled world actions sessionId index signed later) (action : Action) :
    Settled world (actions ++ [action]) sessionId index signed later := by
  obtain ⟨body, mpc, answers, escrow, proofTimestamp, hTrail, hFacts⟩ := h
  exact ⟨body, mpc, answers, escrow, proofTimestamp,
    hTrail.trans (List.sublist_append_left actions [action]), hFacts⟩

/-- A trail is not lost by what happens elsewhere. -/
theorem NotarizePhase.Trail.mono {phase : NotarizePhase}
    (h : phase.Trail world actions sessionId index cell) {cell' : Option Session}
    (hCell : ∀ session, cell = some session →
      ∃ session', cell' = some session' ∧ session'.assetId = session.assetId) (action : Action) :
    phase.Trail world (actions ++ [action]) sessionId index cell' := by
  have hClaimed : ∀ {later}, Claimed actions sessionId index cell later →
      Claimed (actions ++ [action]) sessionId index cell' later := by
    rintro later ⟨body, session, rfl, hRest⟩
    obtain ⟨session', rfl, hAsset⟩ := hCell session rfl
    exact Claimed.mono ⟨body, session, rfl, hRest⟩ hAsset action
  cases phase with
  | upgrading | connected | running | readingChain => exact hClaimed h
  | settling deadline mpc escrow =>
      obtain ⟨body, answers, hTrail, hEscrow⟩ := h
      exact ⟨body, answers, hTrail.trans (List.sublist_append_left actions [action]), hEscrow⟩
  | ended | publishing | finished => exact fun signed hSigned => (h signed hSigned).mono action
  | _ => exact trivial

theorem ResultPhase.Trail.mono {phase : ResultPhase} (h : phase.Trail world actions sessionId index)
    (action : Action) : phase.Trail world (actions ++ [action]) sessionId index := by
  cases phase with
  | resolved waitEnd | responded waitEnd =>
      cases waitEnd with
      | received outcome =>
          cases outcome with
          | ok result =>
              obtain ⟨verifier, signed, hResult, hSettled⟩ := h
              exact ⟨verifier, signed, hResult, hSettled.mono action⟩
          | error => exact trivial
      | _ => exact trivial
  | _ => exact trivial

/-- Every move of a verifier leaves its trace. -/
theorem NotarizePhase.Trail.move {phase phase' : NotarizePhase} {event : NotarizeEvent}
    (h : phase.Trail world actions sessionId index (some session))
    (hMove : NotarizeMove config world now sessionId session phase event phase' session')
    (hCreated : ∃ body : SessionRequest, session.assetId = body.assetId ∧
      ([.postSession sessionId body] : List Action).Sublist actions) :
    phase'.Trail world (actions ++ [Action.stepNotarize index event]) sessionId index
      (some session') := by
  cases hMove with
  | claim =>
      obtain ⟨body, hAsset, hPost⟩ := hCreated
      exact ⟨body, _, rfl, hAsset, hPost.append (List.Sublist.refl _)⟩
  | connect | start => exact Claimed.mono h rfl _
  | read => exact Claimed.snoc h _
  | @settle deadline mpc answers escrow hEscrow =>
      obtain ⟨body, before, hCell, hAsset, hTrail⟩ := Claimed.snoc h
        (.stepNotarize index (.endChainRead (some answers)))
      obtain rfl := Option.some.inj hCell
      rw [hAsset] at hEscrow
      exact ⟨body, answers, hTrail, hEscrow⟩
  | @sign deadline mpc escrow proofTimestamp signed hSigned =>
      obtain ⟨body, answers, hTrail, hEscrow⟩ := h
      intro other hOther
      obtain rfl : signed = other := Option.some.inj hOther
      exact ⟨body, mpc, answers, escrow, proofTimestamp,
        hTrail.append (List.Sublist.refl [Action.stepNotarize index (.endSettlement _)]),
        hEscrow, hSigned⟩
  | decrement => exact fun signed hSigned => (h signed hSigned).mono _
  | publish => exact fun signed hSigned => (h signed hSigned).snoc _
  | fail =>
      intro signed hSigned
      cases hSigned
  | conflict | failUpgrade | panic => exact trivial

/-- A request receives what some verifier of its session published. -/
theorem ResultPhase.Trail.move {phase phase' : ResultPhase} {event : ResultEvent}
    (h : phase.Trail world actions sessionId index)
    (hMove : ResultMove config now sessionId session phase event phase' session')
    (hMessage : ∀ result, session.message = some (.ok result) →
      ∃ (verifier : Nat) (signed : SignedSettlement), signed.wireResult = result ∧
        Settled world actions sessionId verifier signed [.stepNotarize verifier .publish]) :
    phase'.Trail world (actions ++ [Action.stepResult index event]) sessionId index := by
  cases hMove with
  | @receive deadline outcome hReceived =>
      cases outcome with
      | ok result =>
          obtain ⟨verifier, signed, hResult, hSettled⟩ := hMessage result hReceived
          exact ⟨verifier, signed, hResult, hSettled.snoc _⟩
      | error => exact trivial
  | @finish waitEnd =>
      cases waitEnd with
      | received outcome =>
          cases outcome with
          | ok result =>
              obtain ⟨verifier, signed, hResult, hSettled⟩ := h
              exact ⟨verifier, signed, hResult, hSettled.snoc _⟩
          | error => exact trivial
      | _ => exact trivial
  | _ => exact trivial

end Trails

section Runs

variable {config : NotarizationConfig} {world : Collaborators} {s s' : State} {action : Action}
  {actions : List Action} {sessionId : String} {session : Session}

/-- A settlement in the channel was published by the verifier that signed it. -/
theorem TrailInv.of_message (h : TrailInv world actions s) (hInv : ServerInv world s)
    (hSession : s.heap sessionId = some session) {result : SettlementResult}
    (hMessage : session.message = some (.ok result)) :
    ∃ (verifier : Nat) (signed : SignedSettlement), signed.wireResult = result ∧
      Settled world actions sessionId verifier signed [.stepNotarize verifier .publish] := by
  obtain ⟨conclusion, hMem, hOutcome⟩ := hInv.sent sessionId session _ hSession hMessage
  obtain ⟨verifier, hTask⟩ := List.mem_iff_getElem?.mp hMem
  obtain ⟨_, _, hFaithful⟩ := hInv.verifiers _ hMem
  obtain ⟨message, rfl⟩ | ⟨signed, rfl, _⟩ := hFaithful
  · cases hOutcome
  · exact ⟨verifier, signed, Except.ok.inj hOutcome, h.notarizations verifier _ hTask signed rfl⟩

theorem exists_post_of_run (hRun : run (step config world) (State.start config) actions = some s)
    (hSession : s.heap sessionId = some session) :
    ∃ body : SessionRequest, session.assetId = body.assetId ∧
      ([.postSession sessionId body] : List Action).Sublist actions := by
  obtain ⟨before, after, body, _, _, rfl, _, _, _, hAsset⟩ := createdWith_of_run hRun hSession
  exact ⟨body, hAsset.symm, List.singleton_sublist.mpr (by simp)⟩

theorem TrailInv.step (h : TrailInv world actions s) (hInv : ServerInv world s)
    (hRun : run (SettlementOracle.step config world) (State.start config) actions = some s)
    (hStep : Transition config world s action s') : TrailInv world (actions ++ [action]) s' := by
  have hTask : ∀ {index : Nat} {task : Party String NotarizePhase},
      s.notarizations[index]? = some task →
      task.phase.Trail world (actions ++ [action]) task.key index (s'.heap task.key) :=
    fun hOld => (h.notarizations _ _ hOld).mono (fun _ hSession => hStep.assetId_kept hSession) _
  have hRequest : ∀ {index : Nat} {request : Party String ResultPhase},
      s.requests[index]? = some request →
      request.phase.Trail world (actions ++ [action]) request.key index :=
    fun hOld => (h.requests _ _ hOld).mono _
  constructor
  · intro index task hAfter
    cases hStep with
    | tick | refused | created | expired | resultArrived | resultMoved => exact hTask hAfter
    | notarizeBusy | notarizeAdmitted =>
        obtain hOld | hNew := getElem?_push_cases hAfter
        · exact hTask hOld
        · obtain rfl := hNew
          exact trivial
    | @lookedUp other sessionId =>
        obtain ⟨rfl, rfl⟩ | hOld := getElem?_set_cases hAfter
        · obtain hPhase | ⟨_, hPhase⟩ := arriveNotarize_cases s sessionId <;> rw [hPhase] <;>
            exact trivial
        · exact hTask hOld
    | left =>
        obtain ⟨rfl, rfl⟩ | hOld := getElem?_set_cases hAfter
        · exact trivial
        · exact hTask hOld
    | notarizeMoved hBefore hSession hMove =>
        obtain ⟨rfl, rfl⟩ | hOld := getElem?_set_cases hAfter
        · have hTrail := h.notarizations _ _ hBefore
          rw [hSession] at hTrail
          change NotarizePhase.Trail _ _ _ _ (Function.update s.heap _ (some _) _) _
          rw [Function.update_self]
          exact hTrail.move hMove (exists_post_of_run hRun hSession)
        · exact hTask hOld
  · intro index request hAfter
    cases hStep with
    | tick | refused | created | expired | notarizeBusy | notarizeAdmitted | lookedUp | left
      | notarizeMoved => exact hRequest hAfter
    | resultArrived sessionId =>
        obtain hOld | hNew := getElem?_push_cases hAfter
        · exact hRequest hOld
        · obtain rfl := hNew
          obtain ⟨_, _, _, hPhase⟩ | ⟨_, hPhase⟩ := arriveResult_cases s sessionId <;>
            rw [hPhase] <;> exact trivial
    | resultMoved hBefore hSession hMove =>
        obtain ⟨rfl, rfl⟩ | hOld := getElem?_set_cases hAfter
        · exact (h.requests _ _ hBefore).move hMove fun result hMessage =>
            h.of_message hInv hSession hMessage
        · exact hRequest hOld

theorem trailInv_of_run (hRun : run (step config world) (State.start config) actions = some s) :
    TrailInv world actions s := by
  induction actions using List.reverseRecOn generalizing s with
  | nil =>
      obtain rfl : State.start config = s := Option.some.inj hRun
      exact ⟨fun _ _ hTask => by simp [State.start] at hTask,
        fun _ _ hRequest => by simp [State.start] at hRequest⟩
  | append_singleton actions action ih =>
      obtain ⟨middle, hBefore, hNext⟩ := run_snoc_eq_some.mp hRun
      exact (ih hBefore).step (serverInv_of_reachable ⟨actions, hBefore⟩) hBefore
        (transition_of_step hNext)

theorem ResultPhase.responded_of_reply {phase : ResultPhase} {response : SettlementResultResponse}
    (h : phase.reply config = some (.ok response)) :
    ∃ result : SettlementResult, phase = .responded (.received (.ok result)) ∧
      response = result.toResponse := by
  cases phase with
  | responded waitEnd =>
      cases waitEnd with
      | received outcome =>
          cases outcome with
          | ok result =>
              cases h
              exact ⟨result, rfl, rfl⟩
          | error => cases h
      | _ => cases h
  | _ => cases h

/-- A settlement that reaches a client goes back, step by step, to the session
that was created for its asset. One verifier claimed the session, revealed the
transcript, read the escrow of the asset, and signed what the engine decides on
this transcript at the time of its decision. -/
theorem settlement_end_to_end
    (hRun : run (step config world) (State.start config) actions = some s)
    {index : Nat} {phase : ResultPhase} {response : SettlementResultResponse}
    (hRequest : s.requests[index]? = some ⟨sessionId, phase⟩)
    (hReply : phase.reply config = some (.ok response)) :
    ∃ (verifier : Nat) (body : SessionRequest) (mpc : MpcTlsResult) (answers : ChainAnswers)
      (proofTimestamp : UInt64) (escrow : EscrowSnapshot) (signed : SignedSettlement),
      ([.postSession sessionId body, .stepNotarize verifier .claimVerifier,
        .stepNotarize verifier (.endMpcTls (.ok mpc)),
        .stepNotarize verifier (.endChainRead (some answers)),
        .stepNotarize verifier (.endSettlement (some proofTimestamp)),
        .stepNotarize verifier .publish, .stepResult index .receive,
        .stepResult index .finish] : List Action).Sublist actions ∧
      readEscrow world.displayAddress body.assetId answers = .ok escrow ∧
      Oracle.decide world.externals (mpc.serverName.getD "") mpc.sentBytes mpc.recvBytes escrow
        proofTimestamp = .ok signed.settlement ∧
      world.signSettlement signed.settlement = .ok signed.signature ∧
      signed.settlement.assetId = body.assetId ∧ response = signed.wireResult.toResponse := by
  have hTrail := (trailInv_of_run hRun).requests index _ hRequest
  obtain ⟨result, rfl, rfl⟩ := ResultPhase.responded_of_reply hReply
  obtain ⟨verifier, signed, rfl, body, mpc, answers, escrow, proofTimestamp, hSteps, hEscrow,
    hSigned⟩ := hTrail
  obtain ⟨hDecide, hSign⟩ := createSettlementResult_eq_ok_iff.mp hSigned
  refine ⟨verifier, body, mpc, answers, proofTimestamp, escrow, signed, hSteps, hEscrow, hDecide,
    hSign, ?_, rfl⟩
  obtain ⟨_, _, _, _, _, _, _, _, _, _, _, _, _, _, _, rfl⟩ := readEscrow_eq_ok hEscrow
  exact createSettlementResult_assetId hSigned

/-- The completed trade of the fixtures, from `POST /session` to the reply. -/
theorem settlement_end_to_end_completed :
    ∃ s, run (step sampleConfig sampleWorld) (State.start sampleConfig) completedRun = some s ∧
      ∃ (verifier : Nat) (body : SessionRequest) (mpc : MpcTlsResult) (escrow : EscrowSnapshot)
        (proofTimestamp : UInt64) (signed : SignedSettlement),
        ([.postSession "b3f1" body, .stepNotarize verifier (.endMpcTls (.ok mpc)),
          .stepResult 0 .finish] : List Action).Sublist completedRun ∧
        Oracle.decide sampleWorld.externals (mpc.serverName.getD "") mpc.sentBytes mpc.recvBytes
          escrow proofTimestamp = .ok signed.settlement ∧
        completedSigned.wireResult.toResponse = signed.wireResult.toResponse := by
  have hRequests :
      (run (step sampleConfig sampleWorld) (State.start sampleConfig) completedRun).map
        (fun s => s.requests[0]?) = some (some ⟨"b3f1", .responded (.received completedOutcome)⟩) := by
    decide +kernel
  obtain ⟨s, hRun, hRequest⟩ := Option.map_eq_some_iff.mp hRequests
  obtain ⟨verifier, body, mpc, answers, proofTimestamp, escrow, signed, hSteps, _, hDecide, _, _,
    hResponse⟩ := settlement_end_to_end hRun hRequest rfl
  refine ⟨s, hRun, verifier, body, mpc, escrow, proofTimestamp, signed, ?_, hDecide, hResponse⟩
  refine List.Sublist.trans ?_ hSteps
  simp

end Runs

end SettlementOracle
