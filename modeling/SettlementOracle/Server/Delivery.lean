import SettlementOracle.Server.Results

/-! When a published outcome reaches a result request. The receiver is taken
once, and the expiry task removes the session whether or not its verifier runs. -/
namespace SettlementOracle

open Checked

/-- No request but `index` has taken the receiver of the session. -/
def SoleTaker (s : State) (index : Nat) (sessionId : String) : Prop :=
  ∀ other phase, s.requests[other]? = some ⟨sessionId, phase⟩ → phase.took = true → other = index

/-- The request is on its way to the outcome, has it, or was abandoned. -/
def ResultPhase.OnCourse (outcome : SettlementOutcome) : ResultPhase → Prop
  | .found | .waiting _ | .abandoned _ => True
  | .resolved waitEnd | .responded waitEnd => waitEnd = .received outcome
  | .rejected _ => False

/-- At most `bound` moves of the request itself answer it with the outcome. -/
def Answerable (config : NotarizationConfig) (world : Collaborators) (s : State) (index : Nat)
    (sessionId : String) (outcome : SettlementOutcome) (bound : Nat) : Prop :=
  ∃ (events : List ResultEvent) (s' : State), events.length ≤ bound ∧
    run (step config world) s (events.map fun event => .stepResult index event) = some s' ∧
    s'.requests[index]? = some ⟨sessionId, .responded (.received outcome)⟩

section Requests

variable {config : NotarizationConfig} {world : Collaborators} {s s' : State} {action : Action}
  {actions : List Action} {index : Nat} {sessionId : String} {phase : ResultPhase}
  {session : Session} {outcome : SettlementOutcome}

/-- A request stays where it is, or makes one of its own moves. -/
theorem Transition.request_cases (hStep : Transition config world s action s')
    (hRequest : s.requests[index]? = some ⟨sessionId, phase⟩) :
    s'.requests[index]? = some ⟨sessionId, phase⟩ ∨
      ∃ event session phase' session', s.heap sessionId = some session ∧
        ResultMove config s.now sessionId session phase event phase' session' ∧
        s'.requests[index]? = some ⟨sessionId, phase'⟩ := by
  have hIndex : index < s.requests.length := (List.getElem?_eq_some_iff.mp hRequest).1
  cases hStep with
  | tick | refused | created | expired | notarizeBusy | notarizeAdmitted | lookedUp | left
    | notarizeMoved => exact Or.inl hRequest
  | resultArrived => exact Or.inl ((List.getElem?_append_left hIndex).trans hRequest)
  | @resultMoved other _ _ phase' _ _ session' hOther hSession hMoved =>
      rcases eq_or_ne other index with rfl | hNe
      · cases hRequest.symm.trans hOther
        exact Or.inr ⟨_, _, phase', session', hSession, hMoved, List.getElem?_set_self hIndex⟩
      · exact Or.inl ((List.getElem?_set_ne hNe).trans hRequest)

theorem ResultMove.took_kept {now : Nat} {phase phase' : ResultPhase} {session' : Session}
    {event : ResultEvent} (h : ResultMove config now sessionId session phase event phase' session')
    (hTook : phase.took = true) : phase'.took = true := by
  cases h with
  | take | conflict | leaveFound => cases hTook
  | _ => rfl

theorem Transition.took_kept (hStep : Transition config world s action s')
    (hRequest : s.requests[index]? = some ⟨sessionId, phase⟩) (hTook : phase.took = true) :
    ∃ phase', s'.requests[index]? = some ⟨sessionId, phase'⟩ ∧ phase'.took = true := by
  obtain hSame | ⟨_, _, phase', _, _, hMoved, hNew⟩ := hStep.request_cases hRequest
  · exact ⟨phase, hSame, hTook⟩
  · exact ⟨phase', hNew, hMoved.took_kept hTook⟩

/-- A request that alone took the receiver in the end was never preceded. -/
theorem SoleTaker.of_step (hStep : Transition config world s action s')
    (h : SoleTaker s' index sessionId) : SoleTaker s index sessionId := by
  intro other phase hOther hTook
  obtain ⟨phase', hNew, hTook'⟩ := hStep.took_kept hOther hTook
  exact h other phase' hNew hTook'

theorem SoleTaker.of_run (hRun : run (step config world) s actions = some s')
    (h : SoleTaker s' index sessionId) : SoleTaker s index sessionId :=
  run_relation (R := fun a b => SoleTaker b index sessionId → SoleTaker a index sessionId)
    (fun _ hSole => hSole) (fun hFirst hSecond hSole => hFirst (hSecond hSole))
    (fun _ _ _ hNext hSole => hSole.of_step (transition_of_step hNext)) hRun h

/-- While the sole taker has not taken the receiver, it is in its slot. -/
theorem ServerInv.receiver_stored (hInv : ServerInv world s) (hSole : SoleTaker s index sessionId)
    (hSession : s.heap sessionId = some session)
    (hRequest : ∀ phase, s.requests[index]? = some ⟨sessionId, phase⟩ → phase.took = false) :
    session.resultReceiver = .stored := by
  by_contra hTaken
  obtain ⟨phase, hMem, hTook⟩ :=
    hInv.receivers.exists_of_flag hSession (decide_eq_true hTaken)
  obtain ⟨other, hOther⟩ := List.mem_iff_getElem?.mp hMem
  obtain rfl := hSole other phase hOther hTook
  simp [hRequest phase hOther] at hTook

/-- What a waiting request waits for is already there. -/
theorem ServerInv.message_of_waiting (hInv : ServerInv world s) {deadline : Nat}
    (hRequest : s.requests[index]? = some ⟨sessionId, .waiting deadline⟩)
    (hSession : s.heap sessionId = some session) (hPublished : s.Published sessionId outcome) :
    session.message = some outcome := by
  have hHeld : session.receiverHeld = true :=
    hInv.waits.flag_of_mem (List.mem_of_getElem? hRequest) rfl hSession
  refine hInv.kept sessionId session outcome hSession ?_ hPublished
  rw [of_decide_eq_true hHeld]
  decide

/-- A move of the sole taker keeps it on course. -/
theorem ResultPhase.OnCourse.move (hInv : ServerInv world s) (hSole : SoleTaker s index sessionId)
    (hPublished : s.Published sessionId outcome)
    (hRequest : s.requests[index]? = some ⟨sessionId, phase⟩)
    (hSession : s.heap sessionId = some session) {now : Nat} {event : ResultEvent}
    {phase' : ResultPhase} {session' : Session}
    (hMoved : ResultMove config now sessionId session phase event phase' session')
    (h : phase.OnCourse outcome) : phase'.OnCourse outcome := by
  cases hMoved with
  | conflict hTaken =>
      refine absurd (hInv.receiver_stored hSole hSession fun phase hFound => ?_) hTaken
      cases hRequest.symm.trans hFound
      rfl
  | receive hMessage =>
      have hKept := hInv.message_of_waiting hRequest hSession hPublished
      rw [Option.some.inj (hMessage.symm.trans hKept)]
      rfl
  | close hMessage | timeOut _ hMessage =>
      cases hMessage.symm.trans (hInv.message_of_waiting hRequest hSession hPublished)
  | finish => exact h
  | take | leaveFound | leaveWaiting | leaveResolved => trivial

theorem onCourse_of_run (hInv : ServerInv world s) (hPublished : s.Published sessionId outcome)
    (hRequest : s.requests[index]? = some ⟨sessionId, phase⟩) (hCourse : phase.OnCourse outcome)
    (hRun : run (step config world) s actions = some s') (hSole : SoleTaker s' index sessionId) :
    ∃ phase', s'.requests[index]? = some ⟨sessionId, phase'⟩ ∧ phase'.OnCourse outcome := by
  induction actions generalizing s phase with
  | nil =>
      obtain rfl : s = s' := Option.some.inj hRun
      exact ⟨phase, hRequest, hCourse⟩
  | cons action rest ih =>
      obtain ⟨next, hNext, hRest⟩ := run_cons_eq_some.mp hRun
      have hStep := transition_of_step hNext
      have hBefore : SoleTaker s index sessionId := (hSole.of_run hRest).of_step hStep
      obtain hSame | ⟨_, session, phase', _, hSession, hMoved, hNew⟩ := hStep.request_cases hRequest
      · exact ih (hInv.step hNext) (hStep.published_mono hPublished) hSame hCourse hRest
      · exact ih (hInv.step hNext) (hStep.published_mono hPublished) hNew
          (hCourse.move hInv hBefore hPublished hRequest hSession hMoved) hRest

theorem rejected_of_run {rejection : Rejection}
    (hRequest : s.requests[index]? = some ⟨sessionId, .rejected rejection⟩)
    (hRun : run (step config world) s actions = some s') :
    s'.requests[index]? = some ⟨sessionId, .rejected rejection⟩ := by
  refine run_invariant (P := fun s => s.requests[index]? = some ⟨sessionId, .rejected rejection⟩)
    ?_ hRequest hRun
  intro s action next hBefore hNext
  obtain hSame | ⟨_, _, _, _, _, hMoved, _⟩ := (transition_of_step hNext).request_cases hBefore
  · exact hSame
  · cases hMoved

end Requests

section Progress

variable {config : NotarizationConfig} {world : Collaborators} {s : State} {index bound : Nat}
  {sessionId : String} {phase phase' : ResultPhase} {session session' : Session}
  {outcome : SettlementOutcome}

theorem step_stepResult (world : Collaborators) {event : ResultEvent}
    (hRequest : s.requests[index]? = some ⟨sessionId, phase⟩)
    (hSession : s.heap sessionId = some session)
    (hMove : phase.step config s.now sessionId session event = some (phase', session')) :
    ∃ next, step config world s (.stepResult index event) = some next ∧
      next.requests[index]? = some ⟨sessionId, phase'⟩ ∧
      next.heap sessionId = some session' := by
  have hIndex : index < s.requests.length := (List.getElem?_eq_some_iff.mp hRequest).1
  refine ⟨{ s with
    requests := s.requests.set index ⟨sessionId, phase'⟩
    heap := Function.update s.heap sessionId (some session')
    sessions := if event = .finish then s.remove sessionId else s.sessions }, ?_,
    List.getElem?_set_self hIndex, Function.update_self ..⟩
  simp only [step, hRequest, hSession, hMove, Option.bind_eq_bind, Option.bind_some]

theorem Answerable.step (event : ResultEvent)
    (hRequest : s.requests[index]? = some ⟨sessionId, phase⟩)
    (hSession : s.heap sessionId = some session)
    (hMove : phase.step config s.now sessionId session event = some (phase', session'))
    (hNext : ∀ next : State, next.requests[index]? = some ⟨sessionId, phase'⟩ →
      next.heap sessionId = some session' →
      Answerable config world next index sessionId outcome bound) :
    Answerable config world s index sessionId outcome (bound + 1) := by
  obtain ⟨next, hStep, hAfter, hHeap⟩ := step_stepResult world hRequest hSession hMove
  obtain ⟨events, s', hLength, hRun, hDone⟩ := hNext next hAfter hHeap
  refine ⟨event :: events, s', Nat.succ_le_succ hLength, ?_, hDone⟩
  exact run_cons_eq_some.mpr ⟨next, hStep, hRun⟩

theorem answerable_of_resolved
    (hRequest : s.requests[index]? = some ⟨sessionId, .resolved (.received outcome)⟩)
    (hSession : s.heap sessionId = some session) :
    Answerable config world s index sessionId outcome 1 := by
  refine Answerable.step .finish hRequest hSession rfl fun next hDone _ => ?_
  exact ⟨[], next, Nat.le_refl 0, rfl, hDone⟩

theorem answerable_of_waiting {deadline : Nat}
    (hRequest : s.requests[index]? = some ⟨sessionId, .waiting deadline⟩)
    (hSession : s.heap sessionId = some session) (hMessage : session.message = some outcome) :
    Answerable config world s index sessionId outcome 2 := by
  have hMove : (ResultPhase.waiting deadline).step config s.now sessionId session .receive =
      some (.resolved (.received outcome),
        { session with resultReceiver := .dropped, message := none }) := by
    simp [ResultPhase.step, hMessage]
  exact Answerable.step .receive hRequest hSession hMove fun _ => answerable_of_resolved

theorem answerable_of_found (hRequest : s.requests[index]? = some ⟨sessionId, .found⟩)
    (hSession : s.heap sessionId = some session) (hStored : session.resultReceiver = .stored)
    (hMessage : session.message = some outcome) :
    Answerable config world s index sessionId outcome 3 := by
  refine Answerable.step .takeReceiver hRequest hSession (if_pos hStored)
    fun next hNext hHeap => ?_
  exact answerable_of_waiting hNext hHeap hMessage

/-- A request on course is answered by its own moves, unless it was abandoned. -/
theorem ServerInv.answerable (hInv : ServerInv world s) (hSole : SoleTaker s index sessionId)
    (hPublished : s.Published sessionId outcome)
    (hRequest : s.requests[index]? = some ⟨sessionId, phase⟩) (hCourse : phase.OnCourse outcome) :
    (∃ tookReceiver, phase = .abandoned tookReceiver) ∨
      Answerable config world s index sessionId outcome 3 := by
  obtain ⟨session, hSession⟩ := hInv.session_of_published hPublished
  have hWeaken : ∀ {bound}, bound ≤ 3 → Answerable config world s index sessionId outcome bound →
      Answerable config world s index sessionId outcome 3 := by
    rintro bound hBound ⟨events, s', hLength, hRest⟩
    exact ⟨events, s', Nat.le_trans hLength hBound, hRest⟩
  cases phase with
  | rejected => exact hCourse.elim
  | abandoned tookReceiver => exact Or.inl ⟨tookReceiver, rfl⟩
  | found =>
      have hStored := hInv.receiver_stored hSole hSession fun phase hFound => by
        cases hRequest.symm.trans hFound
        rfl
      have hMessage := hInv.kept sessionId session outcome hSession (by simp [hStored]) hPublished
      exact Or.inr (answerable_of_found hRequest hSession hStored hMessage)
  | waiting =>
      have hMessage := hInv.message_of_waiting hRequest hSession hPublished
      exact Or.inr (hWeaken (by decide) (answerable_of_waiting hRequest hSession hMessage))
  | resolved =>
      obtain rfl := hCourse
      exact Or.inr (hWeaken (by decide) (answerable_of_resolved hRequest hSession))
  | responded =>
      obtain rfl := hCourse
      exact Or.inr ⟨[], s, Nat.zero_le 3, rfl, hRequest⟩

end Progress

section Delivery

variable {config : NotarizationConfig} {world : Collaborators} {s s₁ s₂ : State}
  {actions : List Action} {index : Nat} {sessionId : String} {phase : ResultPhase}
  {session : Session} {outcome : SettlementOutcome} {reply : ResultReply}

theorem ServerInv.arrives_found (hInv : ServerInv world s)
    (hSession : s.heap sessionId = some session) (hFresh : session.expired = false)
    (hSole : SoleTaker s s.requests.length sessionId) : arriveResult s sessionId = .found := by
  have hStored := hInv.receiver_stored hSole hSession fun phase hBeyond => by simp at hBeyond
  have hListed := hInv.listed sessionId session hSession hFresh (by simp [hStored])
  simp [arriveResult, State.lookUp, hListed, hSession]

theorem ServerInv.arrives_rejected (hInv : ServerInv world s)
    (hSession : s.heap sessionId = some session) (hExpired : session.expired = true) :
    arriveResult s sessionId = .rejected (sessionNotFound sessionId) := by
  have hUnlisted := hInv.unlisted sessionId session hSession hExpired
  simp [arriveResult, State.lookUp, hUnlisted]

theorem ResultPhase.OnCourse.reply_eq (h : phase.OnCourse outcome)
    (hReply : phase.reply config = some reply) :
    reply = (WaitEnd.received outcome).reply config := by
  cases phase with
  | rejected => exact h.elim
  | responded waitEnd =>
      obtain rfl := h
      exact (Option.some.inj hReply).symm
  | _ => cases hReply

theorem carriesOutcome_received (config : NotarizationConfig) (outcome : SettlementOutcome) :
    carriesOutcome ((WaitEnd.received outcome).reply config) = true := by
  cases outcome <;> rfl

/-- A request that was answered with an outcome is the only one that took the
receiver. -/
theorem ServerInv.soleTaker (hInv : ServerInv world s)
    (hRequest : s.requests[index]? = some ⟨sessionId, phase⟩)
    (hReply : phase.reply config = some reply) (hCarries : carriesOutcome reply = true) :
    SoleTaker s index sessionId := by
  intro other otherPhase hOther hTook
  have hAnswered : phase.answered config = true := by
    simpa [ResultPhase.answered, hReply] using hCarries
  have hOwn : phase.took = true :=
    ResultPhase.took_of_answered (hInv.results _ (List.mem_of_getElem? hRequest)) hAnswered
  exact eq_of_countP_le_one (hInv.receivers.le_one sessionId) hOther hRequest
    (Party.on_iff.mpr ⟨rfl, hTook⟩) (Party.on_iff.mpr ⟨rfl, hOwn⟩)

theorem arrived_request (hArrive : step config world s (.getResult sessionId) = some s₁) :
    s₁.requests[s.requests.length]? = some ⟨sessionId, arriveResult s sessionId⟩ := by
  cases hArrive
  exact List.getElem?_concat_length

/-- A request that arrives behind the publication, at a session that has not
expired, is answered with nothing but the outcome, as long as no other request
took the receiver. Only its client can keep it from that answer. -/
theorem result_delivered
    (hReach : Reachable (step config world) (State.start config) s)
    (hPublished : s.Published sessionId outcome) (hSession : s.heap sessionId = some session)
    (hFresh : session.expired = false)
    (hArrive : step config world s (.getResult sessionId) = some s₁)
    (hRun : run (step config world) s₁ actions = some s₂)
    (hSole : SoleTaker s₂ s.requests.length sessionId) :
    ∃ phase, s₂.requests[s.requests.length]? = some ⟨sessionId, phase⟩ ∧
      (∀ reply, phase.reply config = some reply →
        reply = (WaitEnd.received outcome).reply config) ∧
      ((∃ tookReceiver, phase = .abandoned tookReceiver) ∨
        Answerable config world s₂ s.requests.length sessionId outcome 3) := by
  have hInv : ServerInv world s := serverInv_of_reachable hReach
  have hInv₁ : ServerInv world s₁ := hInv.step hArrive
  have hStep := transition_of_step hArrive
  have hPublished₁ := hStep.published_mono hPublished
  have hArrived := arrived_request hArrive
  rw [hInv.arrives_found hSession hFresh ((hSole.of_run hRun).of_step hStep)] at hArrived
  obtain ⟨phase, hRequest, hCourse⟩ :=
    onCourse_of_run hInv₁ hPublished₁ hArrived trivial hRun hSole
  refine ⟨phase, hRequest, fun reply hReply => hCourse.reply_eq hReply, ?_⟩
  have hInv₂ : ServerInv world s₂ := hInv₁.run hRun
  have hPublished₂ : s₂.Published sessionId outcome :=
    run_invariant (fun _ _ _ h hNext => (transition_of_step hNext).published_mono h) hPublished₁ hRun
  exact hInv₂.answerable hSole hPublished₂ hRequest hCourse

/-- The conditions are needed: whoever is answered with an outcome arrived at a
session that had not expired, and alone took its receiver. -/
theorem sole_and_fresh_of_answered (hInv : ServerInv world s)
    (hSession : s.heap sessionId = some session)
    (hArrive : step config world s (.getResult sessionId) = some s₁)
    (hRun : run (step config world) s₁ actions = some s₂)
    (hRequest : s₂.requests[s.requests.length]? = some ⟨sessionId, phase⟩)
    (hReply : phase.reply config = some reply) (hCarries : carriesOutcome reply = true) :
    session.expired = false ∧ SoleTaker s₂ s.requests.length sessionId := by
  have hInv₂ : ServerInv world s₂ := (hInv.step hArrive).run hRun
  refine ⟨?_, hInv₂.soleTaker hRequest hReply hCarries⟩
  cases hExpired : session.expired with
  | false => rfl
  | true =>
      have hArrived := arrived_request hArrive
      rw [hInv.arrives_rejected hSession hExpired] at hArrived
      cases hRequest.symm.trans (rejected_of_run hArrived hRun)
      rw [← Option.some.inj hReply] at hCarries
      cases hCarries

end Delivery

/-- A session whose verifier has published a release. -/
def publishedRun : List Action :=
  .postSession "b3f1" sampleBody :: claimActions "b3f1" ++ settleActions

def publishedSession : Session where
  assetId := 40964044588
  verifierClaimed := true
  resultSender := false
  resultReceiver := .stored
  message := some completedOutcome
  expiresAt := 150000
  expired := false

theorem result_delivered_completed :
    ∃ s s₁ s₂ phase,
      Reachable (step sampleConfig sampleWorld) (State.start sampleConfig) s ∧
      s.Published "b3f1" completedOutcome ∧ s.heap "b3f1" = some publishedSession ∧
      step sampleConfig sampleWorld s (.getResult "b3f1") = some s₁ ∧
      run (step sampleConfig sampleWorld) s₁ [.stepResult 0 .takeReceiver] = some s₂ ∧
      s₂.requests[s.requests.length]? = some ⟨"b3f1", phase⟩ ∧
      phase = .waiting 120000 ∧
      ((∃ tookReceiver, phase = .abandoned tookReceiver) ∨
        Answerable sampleConfig sampleWorld s₂ s.requests.length "b3f1" completedOutcome 3) := by
  have hRuns : ((run (step sampleConfig sampleWorld) (State.start sampleConfig)
      publishedRun).bind fun s =>
        (run (step sampleConfig sampleWorld) s
          [.getResult "b3f1", .stepResult 0 .takeReceiver]).map fun s₂ =>
          ((s.heap "b3f1", s.notarizations), s.requests, s₂.requests)) =
      some ((some publishedSession, [⟨"b3f1", .finished (.settled completedSigned)⟩]), [],
        [⟨"b3f1", .waiting 120000⟩]) := by
    decide +kernel
  obtain ⟨s, hRun, hNext⟩ := Option.bind_eq_some_iff.mp hRuns
  obtain ⟨s₂, hRest, hLists⟩ := Option.map_eq_some_iff.mp hNext
  obtain ⟨s₁, hArrive, hMove⟩ := run_cons_eq_some.mp hRest
  obtain ⟨hSession, hTasks, hRequests, hFinal⟩ :
      s.heap "b3f1" = some publishedSession ∧
        s.notarizations = [⟨"b3f1", .finished (.settled completedSigned)⟩] ∧ s.requests = [] ∧
        s₂.requests = [⟨"b3f1", .waiting 120000⟩] := by
    simpa [and_assoc] using hLists
  have hOutcome : s.Published "b3f1" completedOutcome := by
    refine ⟨.settled completedSigned, ?_, rfl⟩
    rw [hTasks]
    exact List.mem_cons_self
  have hReach : Reachable (step sampleConfig sampleWorld) (State.start sampleConfig) s :=
    ⟨publishedRun, hRun⟩
  have hSole : SoleTaker s₂ s.requests.length "b3f1" := by
    intro other phase hOther _
    rw [hFinal] at hOther
    rw [hRequests]
    simpa using (List.getElem?_eq_some_iff.mp hOther).1
  obtain ⟨phase, hRequest, _, hProgress⟩ :=
    result_delivered hReach hOutcome hSession rfl hArrive hMove hSole
  refine ⟨s, s₁, s₂, phase, hReach, hOutcome, hSession, hArrive, hMove, hRequest, ?_, hProgress⟩
  simp only [hFinal, hRequests] at hRequest
  cases hRequest
  rfl

/-- The outcome that request `index` publishes reaches the next result request,
as long as the session does not expire between the two and no reply has carried
the outcome before. -/
def Delivered (config : NotarizationConfig) (world : Collaborators) (earlier : List Action)
    (index : Nat) (between rest : List Action) (sessionId : String) : Prop :=
  ∀ s s' conclusion,
    run (step config world) (State.start config)
      (earlier ++ .stepNotarize index .publish :: between) = some s →
    s.notarizations[index]? = some ⟨sessionId, .finished conclusion⟩ →
    .expireSession sessionId ∉ between →
    (∀ phase, ⟨sessionId, phase⟩ ∈ s.requests → phase.answered config = false) →
    run (step config world) s (.getResult sessionId :: rest) = some s' →
    ∀ phase reply, s'.requests[s.requests.length]? = some ⟨sessionId, phase⟩ →
      phase.reply config = some reply →
      reply = (WaitEnd.received conclusion.outcome).reply config

/-- A run that refutes delivery is read off its states around the last request. -/
theorem not_delivered {config : NotarizationConfig} {world : Collaborators}
    {earlier between rest : List Action} {index : Nat} {sessionId : String}
    {tasks : List (Party String NotarizePhase)} {requests final : List (Party String ResultPhase)}
    {conclusion : Conclusion} {rejection : Rejection}
    (hRuns : ((run (step config world) (State.start config)
      (earlier ++ .stepNotarize index .publish :: between)).bind fun s =>
        (run (step config world) s (.getResult sessionId :: rest)).map fun s' =>
          (s.notarizations, s.requests, s'.requests)) = some (tasks, requests, final))
    (hTask : tasks[index]? = some ⟨sessionId, .finished conclusion⟩)
    (hBetween : .expireSession sessionId ∉ between)
    (hUnanswered : ∀ phase, ⟨sessionId, phase⟩ ∈ requests → phase.answered config = false)
    (hRejected : final[requests.length]? = some ⟨sessionId, .rejected rejection⟩)
    (hStatus : rejection.status ≠ .unprocessableEntity) :
    ¬Delivered config world earlier index between rest sessionId := by
  intro h
  obtain ⟨s, hRun, hNext⟩ := Option.bind_eq_some_iff.mp hRuns
  obtain ⟨s', hRest, hLists⟩ := Option.map_eq_some_iff.mp hNext
  cases hLists
  have hReply := h s s' conclusion hRun hTask hBetween hUnanswered hRest _ _ hRejected rfl
  have hCarries := carriesOutcome_received config conclusion.outcome
  rw [← hReply] at hCarries
  exact hStatus (of_decide_eq_true hCarries)

/-- The verifier concludes, up to its publication. -/
def concludeActions : List Action := settleActions.take 4

/-- The session is claimed late and expires while its verifier still runs. -/
def expiredRun : List Action :=
  [.postSession "b3f1" sampleBody, .tick 100000] ++ claimActions "b3f1" ++
    [.tick 50000, .expireSession "b3f1"] ++ concludeActions

/-- A client takes the receiver and disconnects before the publication. -/
def abandonedRun : List Action :=
  .postSession "b3f1" sampleBody :: claimActions "b3f1" ++
    [.getResult "b3f1", .stepResult 0 .takeReceiver, .stepResult 0 .disconnect] ++ concludeActions

/-- A client waits for the whole timeout, just before the publication. -/
def timedOutRun : List Action :=
  .postSession "b3f1" sampleBody :: claimActions "b3f1" ++
    [.getResult "b3f1", .stepResult 0 .takeReceiver, .tick 120000, .stepResult 0 .timeOut,
      .stepResult 0 .finish] ++ concludeActions

/-- The signed settlement is lost in each of the three runs: the next request is
answered 404, 409 and 404. -/
theorem outcome_lost :
    ¬Delivered sampleConfig sampleWorld expiredRun 0 [] [] "b3f1" ∧
      ¬Delivered sampleConfig sampleWorld abandonedRun 0 [] [.stepResult 1 .takeReceiver] "b3f1" ∧
      ¬Delivered sampleConfig sampleWorld timedOutRun 0 [] [] "b3f1" := by
  refine ⟨?_, ?_, ?_⟩
  · have hRuns : ((run (step sampleConfig sampleWorld) (State.start sampleConfig)
        (expiredRun ++ [.stepNotarize 0 .publish])).bind fun s =>
          (run (step sampleConfig sampleWorld) s [.getResult "b3f1"]).map fun s' =>
            (s.notarizations, s.requests, s'.requests)) =
        some ([⟨"b3f1", .finished (.settled completedSigned)⟩], [],
          [⟨"b3f1", .rejected (sessionNotFound "b3f1")⟩]) := by
      decide +kernel
    exact not_delivered hRuns rfl List.not_mem_nil (by simp) rfl (by decide)
  · have hRuns : ((run (step sampleConfig sampleWorld) (State.start sampleConfig)
        (abandonedRun ++ [.stepNotarize 0 .publish])).bind fun s =>
          (run (step sampleConfig sampleWorld) s
            [.getResult "b3f1", .stepResult 1 .takeReceiver]).map fun s' =>
            (s.notarizations, s.requests, s'.requests)) =
        some ([⟨"b3f1", .finished (.settled completedSigned)⟩], [⟨"b3f1", .abandoned true⟩],
          [⟨"b3f1", .abandoned true⟩,
            ⟨"b3f1", .rejected ⟨.conflict, "Session result already claimed: b3f1"⟩⟩]) := by
      decide +kernel
    exact not_delivered hRuns rfl List.not_mem_nil (by simp [ResultPhase.answered,
      ResultPhase.reply]) rfl (by decide)
  · have hRuns : ((run (step sampleConfig sampleWorld) (State.start sampleConfig)
        (timedOutRun ++ [.stepNotarize 0 .publish])).bind fun s =>
          (run (step sampleConfig sampleWorld) s [.getResult "b3f1"]).map fun s' =>
            (s.notarizations, s.requests, s'.requests)) =
        some ([⟨"b3f1", .finished (.settled completedSigned)⟩], [⟨"b3f1", .responded .timedOut⟩],
          [⟨"b3f1", .responded .timedOut⟩, ⟨"b3f1", .rejected (sessionNotFound "b3f1")⟩]) := by
      decide +kernel
    exact not_delivered hRuns rfl List.not_mem_nil (by simp [ResultPhase.answered,
      ResultPhase.reply, WaitEnd.reply, carriesOutcome]) rfl (by decide)

end SettlementOracle
