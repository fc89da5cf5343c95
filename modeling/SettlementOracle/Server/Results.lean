import SettlementOracle.Server.Invariants
import SettlementOracle.Settlement.Soundness

/-! Results are delivered at most once and belong to their session. -/
namespace SettlementOracle

open Checked

/-- The reply of an answered request. -/
def ResultPhase.reply (config : NotarizationConfig) : ResultPhase → Option ResultReply
  | .rejected rejection => some (.error rejection)
  | .responded waitEnd => some (waitEnd.reply config)
  | _ => none

/-- A reply carries an outcome when it is a settlement (200) or the error text of
the verifier (422). -/
def carriesOutcome : ResultReply → Bool
  | .ok _ => true
  | .error rejection => decide (rejection.status = .unprocessableEntity)

/-- The request has been answered with an outcome. -/
def ResultPhase.answered (config : NotarizationConfig) (phase : ResultPhase) : Bool :=
  match phase.reply config with
  | some reply => carriesOutcome reply
  | none => false

/-- Some `POST /session` of the run created the session for this asset. -/
def CreatedWith (config : NotarizationConfig) (world : Collaborators) (actions : List Action)
    (sessionId : String) (assetId : UInt64) : Prop :=
  ∃ (before after : List Action) (body : SessionRequest) (s : State) (response : SessionResponse),
    actions = before ++ .postSession sessionId body :: after ∧
    run (step config world) (State.start config) before = some s ∧
    s.heap sessionId = none ∧ (sessionHandler config s sessionId body).2 = .ok response ∧
    body.assetId = assetId

/-- The response is that of the settlement which the verifier of the session
signed, and it is about this asset. -/
def BoundResponse (world : Collaborators) (s : State) (sessionId : String) (assetId : UInt64)
    (response : SettlementResultResponse) : Prop :=
  ∃ signed : SignedSettlement,
    ⟨sessionId, .finished (.settled signed)⟩ ∈ s.notarizations ∧
    world.signSettlement signed.settlement = .ok signed.signature ∧
    signed.settlement.assetId = assetId ∧
    response.assetId = toString assetId ∧
    response.decision = signed.settlement.decision.toU8 ∧
    response.refundReason = signed.settlement.refundReason.toU8 ∧
    response.signature = "0x" ++ hexEncode signed.signature

section Creation

variable {config : NotarizationConfig} {world : Collaborators} {s s' : State} {action : Action}
  {actions : List Action} {sessionId : String} {session session' : Session} {assetId : UInt64}

/-- A session lives on with the asset it was created for. -/
theorem Transition.assetId_kept (hStep : Transition config world s action s')
    (hSession : s.heap sessionId = some session) :
    ∃ session', s'.heap sessionId = some session' ∧ session'.assetId = session.assetId := by
  have hUpdate : ∀ {other : String} {before after : Session}, s.heap other = some before →
      after.assetId = before.assetId → ∃ session',
        Function.update s.heap other (some after) sessionId = some session' ∧
          session'.assetId = session.assetId := by
    intro other before after hBefore hAsset
    rcases eq_or_ne sessionId other with rfl | hNe
    · obtain rfl : before = session := Option.some.inj (hBefore.symm.trans hSession)
      exact ⟨after, Function.update_self .., hAsset⟩
    · exact ⟨session, (Function.update_of_ne hNe ..).trans hSession, rfl⟩
  cases hStep with
  | tick | refused | resultArrived | notarizeBusy | notarizeAdmitted | lookedUp | left =>
      exact ⟨session, hSession, rfl⟩
  | @created other _ hFresh =>
      have hNe : sessionId ≠ other := by
        rintro rfl
        simp [hFresh] at hSession
      exact ⟨session, (Function.update_of_ne hNe ..).trans hSession, rfl⟩
  | expired hBefore => exact hUpdate hBefore rfl
  | resultMoved _ hBefore hMoved => exact hUpdate hBefore hMoved.frame.1
  | notarizeMoved _ hBefore hMoved => exact hUpdate hBefore hMoved.frame.1

/-- A session appears only through an accepted `POST /session`. -/
theorem Transition.created_cases (hStep : Transition config world s action s')
    (hSession' : s'.heap sessionId = some session') (hNone : s.heap sessionId = none) :
    ∃ body response, action = .postSession sessionId body ∧
      (sessionHandler config s sessionId body).2 = .ok response ∧
      session'.assetId = body.assetId := by
  cases hStep with
  | tick | refused | resultArrived | notarizeBusy | notarizeAdmitted | lookedUp | left =>
      cases hNone.symm.trans hSession'
  | created _ _ hReply =>
      obtain ⟨rfl, rfl⟩ | ⟨_, hSession⟩ := update_eq_some_iff.mp hSession'
      · exact ⟨_, _, rfl, hReply, rfl⟩
      · simp [hNone] at hSession
  | expired hBefore | resultMoved _ hBefore | notarizeMoved _ hBefore =>
      obtain ⟨rfl, _⟩ | ⟨_, hSession⟩ := update_eq_some_iff.mp hSession'
      · simp [hNone] at hBefore
      · simp [hNone] at hSession

theorem CreatedWith.append (h : CreatedWith config world actions sessionId assetId)
    (more : List Action) : CreatedWith config world (actions ++ more) sessionId assetId := by
  obtain ⟨before, after, body, s, response, rfl, hRest⟩ := h
  exact ⟨before, after ++ more, body, s, response, by simp, hRest⟩

/-- Every session of a run was created in it, for the asset it still has. -/
theorem createdWith_of_run (hRun : run (step config world) (State.start config) actions = some s)
    (hSession : s.heap sessionId = some session) :
    CreatedWith config world actions sessionId session.assetId := by
  induction actions using List.reverseRecOn generalizing s session with
  | nil =>
      obtain rfl : State.start config = s := Option.some.inj hRun
      cases hSession
  | append_singleton actions action ih =>
      obtain ⟨middle, hBefore, hNext⟩ := run_snoc_eq_some.mp hRun
      have hStep := transition_of_step hNext
      cases hMiddle : middle.heap sessionId with
      | none =>
          obtain ⟨body, response, rfl, hReply, hAsset⟩ := hStep.created_cases hSession hMiddle
          exact ⟨actions, [], body, middle, response, rfl, hBefore, hMiddle, hReply, hAsset.symm⟩
      | some earlier =>
          obtain ⟨_, hKept, hAsset⟩ := hStep.assetId_kept hMiddle
          obtain rfl := Option.some.inj (hSession.symm.trans hKept)
          rw [hAsset]
          exact (ih hBefore hMiddle).append [action]

theorem assetId_kept_of_run (hRun : run (step config world) s actions = some s')
    (hSession : s.heap sessionId = some session) :
    ∃ session', s'.heap sessionId = some session' ∧ session'.assetId = session.assetId := by
  refine run_relation (R := fun a b => ∀ before, a.heap sessionId = some before →
    ∃ after, b.heap sessionId = some after ∧ after.assetId = before.assetId) ?_ ?_ ?_ hRun session
    hSession
  · exact fun _ before hBefore => ⟨before, hBefore, rfl⟩
  · intro a b c hFirst hSecond before hBefore
    obtain ⟨middle, hMiddle, hAsset⟩ := hFirst before hBefore
    obtain ⟨after, hAfter, hSame⟩ := hSecond middle hMiddle
    exact ⟨after, hAfter, hSame.trans hAsset⟩
  · exact fun _ _ _ hNext _ hBefore => (transition_of_step hNext).assetId_kept hBefore

/-- The asset that a session was created for is the one it has. -/
theorem CreatedWith.assetId_eq (h : CreatedWith config world actions sessionId assetId)
    (hRun : run (step config world) (State.start config) actions = some s)
    (hSession : s.heap sessionId = some session) : session.assetId = assetId := by
  obtain ⟨before, after, body, middle, response, rfl, hBefore, hFresh, hReply, rfl⟩ := h
  obtain ⟨_, hMiddle, hLast⟩ := run_append_eq_some.mp hRun
  obtain rfl := Option.some.inj (hBefore.symm.trans hMiddle)
  obtain ⟨next, hNext, hAfter⟩ := run_cons_eq_some.mp hLast
  cases transition_of_step hNext with
  | refused hRefused => cases hReply.symm.trans hRefused
  | created =>
      obtain ⟨_, hKept, hAsset⟩ := assetId_kept_of_run hAfter (Function.update_self sessionId _ _)
      obtain rfl := Option.some.inj (hSession.symm.trans hKept)
      exact hAsset

end Creation

section Answers

variable {config : NotarizationConfig} {world : Collaborators} {s : State} {actions : List Action}
  {sessionId : String} {session : Session} {phase : ResultPhase}
  {response : SettlementResultResponse}

/-- Only a request that took the receiver is answered with an outcome. -/
theorem ResultPhase.took_of_answered {cell : Option Session} (hBound : phase.Bound cell)
    (h : phase.answered config = true) : phase.took = true := by
  cases phase with
  | rejected rejection =>
      have hStatus : rejection.status = .unprocessableEntity := of_decide_eq_true h
      simp [ResultPhase.Bound, hStatus] at hBound
  | responded => rfl
  | _ => cases h

theorem ResultPhase.carried_of_reply (h : phase.reply config = some (.ok response)) :
    ∃ result : SettlementResult,
      phase.carried = some (.ok result) ∧ response = result.toResponse := by
  cases phase with
  | responded waitEnd =>
      cases waitEnd with
      | received outcome =>
          cases outcome with
          | ok result =>
              cases h
              exact ⟨result, rfl, rfl⟩
          | error message => cases h
      | _ => cases h
  | _ => cases h

theorem ServerInv.answered_le_one (h : ServerInv world s) (sessionId : String) :
    s.requests.countP (Party.on (ResultPhase.answered config) sessionId) ≤ 1 := by
  refine Nat.le_trans (List.countP_mono_left fun request hMem hOn => ?_)
    (h.receivers.le_one sessionId)
  obtain ⟨hKey, hAnswered⟩ := Party.on_iff.mp hOn
  exact Party.on_iff.mpr
    ⟨hKey, ResultPhase.took_of_answered (h.results request hMem) hAnswered⟩

/-- A settlement that reaches the client is the one that was signed for the
asset of its session. -/
theorem ServerInv.boundResponse (h : ServerInv world s) (hSession : s.heap sessionId = some session)
    (hMem : ⟨sessionId, phase⟩ ∈ s.requests) (hReply : phase.reply config = some (.ok response)) :
    BoundResponse world s sessionId session.assetId response := by
  obtain ⟨result, hCarried, rfl⟩ := ResultPhase.carried_of_reply hReply
  obtain ⟨conclusion, hTask, hOutcome⟩ := h.carried _ hMem _ hCarried
  obtain ⟨_, hBound, hFaithful⟩ := h.verifiers _ hTask
  obtain rfl := Option.some.inj (hSession.symm.trans hBound)
  obtain ⟨message, rfl⟩ | ⟨signed, rfl, hSign, hAsset⟩ := hFaithful
  · cases hOutcome
  · obtain rfl : signed.wireResult = result := Except.ok.inj hOutcome
    refine ⟨signed, hTask, hSign, hAsset, ?_, rfl, rfl, rfl⟩
    rw [← hAsset]
    rfl

/-- In every run, a session has at most one claim, one publication and one reply
that carries the outcome, and a settlement sent for it is the one that was signed
for the asset it was created with. -/
theorem session_results_once
    (hRun : run (step config world) (State.start config) actions = some s) (sessionId : String) :
    s.notarizations.countP (Party.on NotarizePhase.claimed sessionId) ≤ 1 ∧
      s.notarizations.countP (Party.on NotarizePhase.published sessionId) ≤ 1 ∧
      s.requests.countP (Party.on (ResultPhase.answered config) sessionId) ≤ 1 ∧
      ∀ phase response, ⟨sessionId, phase⟩ ∈ s.requests →
        phase.reply config = some (.ok response) →
        (∃ assetId, CreatedWith config world actions sessionId assetId) ∧
          ∀ assetId, CreatedWith config world actions sessionId assetId →
            BoundResponse world s sessionId assetId response := by
  have hInv : ServerInv world s := serverInv_of_reachable ⟨actions, hRun⟩
  refine ⟨hInv.claims.le_one sessionId, hInv.publications.le_one sessionId,
    hInv.answered_le_one sessionId, fun phase response hMem hReply => ?_⟩
  obtain ⟨result, hCarried, _⟩ := ResultPhase.carried_of_reply hReply
  obtain ⟨session, hSession⟩ := hInv.session_of_published (hInv.carried _ hMem _ hCarried)
  refine ⟨⟨session.assetId, createdWith_of_run hRun hSession⟩, fun assetId hCreated => ?_⟩
  rw [← hCreated.assetId_eq hRun hSession]
  exact hInv.boundResponse hSession hMem hReply

end Answers

/-- The defaults of the configuration file. -/
def sampleConfig : NotarizationConfig where
  maxPendingSessions := 100
  maxActiveSessions := 2
  maxSentData := 4096
  maxRecvData := 16384
  timeout := 120

def sampleWorld : Collaborators where
  externals := statusExternals completedJson completedTrade
  keccak256 := sampleKeccak
  signer := sampleSigner
  displayAddress := fun _ => "0x0101010101010101010101010101010101010101"

def sampleAnswers : ChainAnswers where
  purchases := .ok ⟨Vector.replicate 20 2, 1700000000, 0, 8653813160⟩
  listings := .ok ⟨Vector.replicate 20 1, 1000000, true⟩
  abandonedWindow := .ok 86400
  sellerSteamId := fun _ => .ok 76561198366018280
  buyerSteamId := fun _ => .ok 76561198404282737

def sampleBody : SessionRequest where
  assetId := 40964044588
  maxSentData := 4096
  maxRecvData := 16384
  protocolVersion := tlsnProtocolVersion

/-- The first notarize request admits itself and claims the session. -/
def claimActions (sessionId : String) : List Action :=
  [.getNotarize sessionId, .lookUpSession 0, .stepNotarize 0 .claimVerifier,
    .stepNotarize 0 .connect, .stepNotarize 0 .startVerifier]

/-- It reads the completed trade, settles and publishes. -/
def settleActions : List Action :=
  [.stepNotarize 0 (.endMpcTls (.ok ⟨some steamApiHost, statusRequest, okResponse completedJson⟩)),
    .stepNotarize 0 (.endChainRead (some sampleAnswers)),
    .stepNotarize 0 (.endSettlement (some sampleNow)), .stepNotarize 0 .decrementActive,
    .stepNotarize 0 .publish]

def completedRun : List Action :=
  [.postSession "b3f1" sampleBody, .getResult "b3f1", .stepResult 0 .takeReceiver] ++
    claimActions "b3f1" ++ settleActions ++ [.stepResult 0 .receive, .stepResult 0 .finish]

/-- What the oracle signs for the completed trade. -/
def completedSigned : SignedSettlement where
  settlement := ⟨40964044588, 8653813160, .release, .none⟩
  signature := settlementSignature

def completedOutcome : SettlementOutcome := .ok completedSigned.wireResult

theorem session_results_once_completed :
    ∃ s response, run (step sampleConfig sampleWorld) (State.start sampleConfig) completedRun = some s ∧
      ⟨"b3f1", .responded (.received completedOutcome)⟩ ∈ s.requests ∧
      (WaitEnd.received completedOutcome).reply sampleConfig = .ok response ∧
      BoundResponse sampleWorld s "b3f1" 40964044588 response := by
  have hRequests :
      (run (step sampleConfig sampleWorld) (State.start sampleConfig) completedRun).map
        State.requests = some [⟨"b3f1", .responded (.received completedOutcome)⟩] := by
    decide +kernel
  obtain ⟨s, hRun, hFinal⟩ := Option.map_eq_some_iff.mp hRequests
  have hMem : ⟨"b3f1", .responded (.received completedOutcome)⟩ ∈ s.requests := by
    rw [hFinal]
    exact List.mem_cons_self
  refine ⟨s, _, hRun, hMem, rfl, ?_⟩
  refine ((session_results_once hRun "b3f1").2.2.2 _ _ hMem rfl).2 40964044588 ?_
  exact ⟨[], _, sampleBody, State.start sampleConfig, ⟨"b3f1", tlsnProtocolVersion⟩, rfl, rfl, rfl,
    by decide +kernel, rfl⟩

end SettlementOracle
