import SettlementOracle.Checked.Progress
import SettlementOracle.Server.Capacity

/-! The server left alone. No client, prover or chain node does anything any more,
and no request arrives. The timers of the server end every handler, empty the
session map and give every permit back. -/
namespace SettlementOracle

open Checked

/-- The request has not returned and was not dropped. -/
def ResultPhase.unanswered : ResultPhase → Bool
  | .found | .waiting _ | .resolved _ => true
  | _ => false

/-- The moves that are left to the request at most. -/
def ResultPhase.work : ResultPhase → Nat
  | .found => 3
  | .waiting _ => 2
  | .resolved _ => 1
  | _ => 0

def NotarizePhase.work : NotarizePhase → Nat
  | .holding => 9
  | .found => 8
  | .upgrading => 7
  | .connected => 6
  | .running _ => 5
  | .readingChain _ _ => 4
  | .settling _ _ _ => 3
  | .ended _ => 2
  | .publishing _ => 1
  | _ => 0

def State.work (s : State) : Nat :=
  phaseWork ResultPhase.work s.requests + phaseWork NotarizePhase.work s.notarizations

/-- The phases in front of the timer of a request. -/
def ResultPhase.starting : ResultPhase → Bool
  | .found => true
  | _ => false

def NotarizePhase.starting : NotarizePhase → Bool
  | .holding | .found | .upgrading | .connected => true
  | _ => false

/-- Where the timer of the request stands, `0` without one. -/
def ResultPhase.deadline : ResultPhase → Nat
  | .waiting deadline => deadline
  | _ => 0

def NotarizePhase.deadline : NotarizePhase → Nat
  | .running deadline | .readingChain deadline _ | .settling deadline _ _ => deadline
  | _ => 0

/-- The events that need nobody outside the server. The upgrade fails, and what
the verifier waits for does not come in time. -/
def NotarizeEvent.unattended : NotarizeEvent → Bool
  | .claimVerifier | .failUpgrade | .startVerifier | .endMpcTls (.error .timeout)
  | .endChainRead none | .endSettlement none | .decrementActive | .publish => true
  | _ => false

def Action.unattended : Action → Bool
  | .tick _ | .expireSession _ | .lookUpSession _ => true
  | .stepResult _ event => decide (event ≠ .disconnect)
  | .stepNotarize _ event => event.unattended
  | _ => false

/-- The action is a move of a request that has arrived. -/
def Action.handles : Action → Bool
  | .stepResult _ _ | .lookUpSession _ | .leaveNotarize _ | .stepNotarize _ _ => true
  | _ => false

/-- Every timer is set, and none of them will be set again. -/
structure State.Closing (s : State) : Prop where
  requests : ∀ request ∈ s.requests, request.phase.starting = false
  notarizations : ∀ task ∈ s.notarizations, task.phase.starting = false

structure State.Idle (s : State) : Prop where
  requests : ∀ request ∈ s.requests, request.phase.unanswered = false
  notarizations : ∀ task ∈ s.notarizations, task.phase.holdsPermit = false
  sessions : s.sessions = []

/-- No timer stands beyond `limit`. -/
structure State.Timers (s : State) (limit : Nat) : Prop where
  requests : ∀ request ∈ s.requests, request.phase.deadline ≤ limit
  notarizations : ∀ task ∈ s.notarizations, task.phase.deadline ≤ limit
  sessions : ∀ sessionId session, s.heap sessionId = some session → session.expiresAt ≤ limit

/-- The sessions of the map exist, and those that a notarization works on. -/
structure State.Stored (s : State) : Prop where
  listed : ∀ sessionId ∈ s.sessions, ∃ session, s.heap sessionId = some session
  held : ∀ task ∈ s.notarizations, task.phase.holdsPermit = true →
    task.phase = .holding ∨ ∃ session, s.heap task.key = some session

section Moves

variable {config : NotarizationConfig} {world : Collaborators} {now limit : Nat}
  {sessionId : String} {session session' : Session}

theorem ResultMove.work_lt {phase phase' : ResultPhase} {event : ResultEvent}
    (h : ResultMove config now sessionId session phase event phase' session') :
    phase'.work < phase.work := by
  cases h <;> simp [ResultPhase.work]

theorem ResultMove.not_starting {phase phase' : ResultPhase} {event : ResultEvent}
    (h : ResultMove config now sessionId session phase event phase' session') :
    phase'.starting = false := by
  cases h <;> rfl

theorem ResultMove.deadline_le {phase phase' : ResultPhase} {event : ResultEvent}
    (h : ResultMove config now sessionId session phase event phase' session')
    (hRoom : phase.starting = true → now + config.timeoutMs ≤ limit) :
    phase'.deadline ≤ limit := by
  cases h with
  | take => exact hRoom rfl
  | _ => exact Nat.zero_le _

theorem NotarizePhase.work_of_working {phase : NotarizePhase}
    (h : phase.working = true ∨ phase = .connected) : 3 ≤ phase.work := by
  obtain hWorking | rfl := h
  · cases phase with
    | running => exact Nat.le_of_ble_eq_true rfl
    | readingChain => exact Nat.le_of_ble_eq_true rfl
    | settling => exact Nat.le_refl 3
    | _ => cases hWorking
  · exact Nat.le_of_ble_eq_true rfl

theorem NotarizeMove.work_lt {phase phase' : NotarizePhase} {event : NotarizeEvent}
    (h : NotarizeMove config world now sessionId session phase event phase' session') :
    phase'.work < phase.work := by
  cases h with
  | fail hWorking => exact NotarizePhase.work_of_working (Or.inl hWorking)
  | panic hWorking => exact Nat.lt_of_lt_of_le (Nat.zero_lt_succ 2) (NotarizePhase.work_of_working hWorking)
  | _ => simp [NotarizePhase.work]

theorem NotarizeMove.not_starting {phase phase' : NotarizePhase} {event : NotarizeEvent}
    (h : NotarizeMove config world now sessionId session phase event phase' session')
    (hStarted : phase.starting = false) : phase'.starting = false := by
  cases h with
  | claim | connect => cases hStarted
  | _ => rfl

theorem NotarizeMove.deadline_le {phase phase' : NotarizePhase} {event : NotarizeEvent}
    (h : NotarizeMove config world now sessionId session phase event phase' session')
    (hTimer : phase.deadline ≤ limit)
    (hRoom : phase.starting = true → now + config.timeoutMs ≤ limit) :
    phase'.deadline ≤ limit := by
  cases h with
  | start => exact hRoom rfl
  | read | settle => exact hTimer
  | _ => exact Nat.zero_le _

theorem arriveNotarize_deadline (s : State) (sessionId : String) :
    (arriveNotarize s sessionId).deadline = 0 := by
  obtain h | ⟨_, h⟩ := arriveNotarize_cases s sessionId <;> rw [h] <;> rfl

theorem arriveNotarize_work (s : State) (sessionId : String) :
    (arriveNotarize s sessionId).work ≤ 8 := by
  obtain h | ⟨_, h⟩ := arriveNotarize_cases s sessionId <;> rw [h] <;> simp [NotarizePhase.work]

theorem arriveNotarize_stored (s : State) (sessionId : String)
    (h : (arriveNotarize s sessionId).holdsPermit = true) :
    ∃ session, s.heap sessionId = some session := by
  unfold arriveNotarize at h
  split at h
  · rename_i session hFound
    unfold State.lookUp at hFound
    split at hFound
    · exact ⟨session, hFound⟩
    · cases hFound
  · cases h

theorem arriveResult_deadline (s : State) (sessionId : String) :
    (arriveResult s sessionId).deadline = 0 := by
  obtain ⟨_, _, _, h⟩ | ⟨_, h⟩ := arriveResult_cases s sessionId <;> rw [h] <;> rfl

end Moves

section Steps

variable {config : NotarizationConfig} {world : Collaborators} {s s' : State} {action : Action}
  {limit : Nat}

/-- A session outlives every request that is made for it. -/
theorem NotarizationConfig.timeoutMs_le (config : NotarizationConfig) :
    config.timeoutMs ≤ config.sessionTtlMs := by
  have hWidth : config.timeout.toNat < UInt64.size := config.timeout.toNat_lt_size
  simp only [NotarizationConfig.timeoutMs, NotarizationConfig.sessionTtlMs, sessionTokenTtl]
  omega

theorem Transition.handles (hStep : Transition config world s action s')
    (h : action.handles = true) :
    s'.work < s.work ∧ s'.now = s.now ∧ s'.sessions.length ≤ s.sessions.length := by
  -- a task that looks up its session or leaves has a move less to make
  have hLook : ∀ {index sessionId} (phase : NotarizePhase), phase.work ≤ 8 →
      s.notarizations[index]? = some ⟨sessionId, .holding⟩ →
      (s.setNotarization index sessionId .holding phase).work < s.work := by
    intro index sessionId phase hWork hTask
    have hLess : phaseWork NotarizePhase.work (s.notarizations.set index ⟨sessionId, phase⟩) <
        phaseWork NotarizePhase.work s.notarizations :=
      phaseWork_set_lt hTask (Nat.lt_succ_of_le hWork)
    simp only [State.work, State.setNotarization]
    omega
  cases hStep with
  | tick | refused | created | expired | resultArrived | notarizeBusy | notarizeAdmitted => cases h
  | resultMoved hRequest _ hMove =>
      refine ⟨Nat.add_lt_add_right (phaseWork_set_lt hRequest hMove.work_lt) _, rfl, ?_⟩
      show (ite _ _ _ : List String).length ≤ _
      split
      · exact List.length_filter_le _ _
      · exact Nat.le_refl _
  | lookedUp hTask => exact ⟨hLook _ (arriveNotarize_work s _) hTask, rfl, Nat.le_refl _⟩
  | left hTask => exact ⟨hLook .abandoned (Nat.zero_le _) hTask, rfl, Nat.le_refl _⟩
  | notarizeMoved hTask _ hMove =>
      exact ⟨Nat.add_lt_add_left (phaseWork_set_lt hTask hMove.work_lt) _, rfl, Nat.le_refl _⟩

theorem Transition.expiresAt_kept (hStep : Transition config world s action s')
    {sessionId : String} {session' : Session} (hSession' : s'.heap sessionId = some session') :
    (∃ session, s.heap sessionId = some session ∧ session'.expiresAt = session.expiresAt) ∨
      (∃ body, action = .postSession sessionId body) ∧
        session'.expiresAt = s.now + config.sessionTtlMs := by
  cases hStep with
  | tick | refused | resultArrived | notarizeBusy | notarizeAdmitted | lookedUp | left =>
      exact Or.inl ⟨session', hSession', rfl⟩
  | created =>
      obtain ⟨rfl, rfl⟩ | ⟨_, hSession⟩ := update_eq_some_iff.mp hSession'
      · exact Or.inr ⟨⟨_, rfl⟩, rfl⟩
      · exact Or.inl ⟨session', hSession, rfl⟩
  | expired hExpired =>
      obtain ⟨rfl, rfl⟩ | ⟨_, hSession⟩ := update_eq_some_iff.mp hSession'
      · exact Or.inl ⟨_, hExpired, rfl⟩
      · exact Or.inl ⟨session', hSession, rfl⟩
  | resultMoved _ hMoved hMove =>
      obtain ⟨rfl, rfl⟩ | ⟨_, hSession⟩ := update_eq_some_iff.mp hSession'
      · exact Or.inl ⟨_, hMoved, hMove.frame.2.2.2.2⟩
      · exact Or.inl ⟨session', hSession, rfl⟩
  | notarizeMoved _ hMoved hMove =>
      obtain ⟨rfl, rfl⟩ | ⟨_, hSession⟩ := update_eq_some_iff.mp hSession'
      · exact Or.inl ⟨_, hMoved, hMove.frame.2.2.2⟩
      · exact Or.inl ⟨session', hSession, rfl⟩

/-- A session once created keeps its data. -/
theorem Transition.heap_kept (hStep : Transition config world s action s') {sessionId : String}
    (h : ∃ session, s.heap sessionId = some session) :
    ∃ session, s'.heap sessionId = some session := by
  have hUpdate : ∀ other (content : Session),
      ∃ session, Function.update s.heap other (some content) sessionId = some session := by
    intro other content
    rcases eq_or_ne sessionId other with rfl | hNe
    · exact ⟨content, Function.update_self ..⟩
    · rw [Function.update_of_ne hNe]
      exact h
  cases hStep with
  | tick | refused | resultArrived | notarizeBusy | notarizeAdmitted | lookedUp | left => exact h
  | created | expired | resultMoved | notarizeMoved => exact hUpdate _ _

theorem State.Stored.step (hStored : s.Stored) (hStep : Transition config world s action s') :
    s'.Stored := by
  have hHeld : ∀ task ∈ s.notarizations, task.phase.holdsPermit = true →
      task.phase = .holding ∨ ∃ session, s'.heap task.key = some session :=
    fun task hMem hHolds => (hStored.held task hMem hHolds).imp_right hStep.heap_kept
  have hListed : ∀ sessionId ∈ s.sessions, ∃ session, s'.heap sessionId = some session :=
    fun sessionId hMem => hStep.heap_kept (hStored.listed sessionId hMem)
  constructor
  · intro sessionId hMem
    cases hStep with
    | created =>
        obtain rfl | hOld := List.mem_cons.mp hMem
        · exact ⟨_, Function.update_self ..⟩
        · exact hListed _ hOld
    | expired => exact hListed _ (List.mem_of_mem_filter hMem)
    | resultMoved =>
        change sessionId ∈ ite _ _ _ at hMem
        split at hMem
        · exact hListed _ (List.mem_of_mem_filter hMem)
        · exact hListed _ hMem
    | tick | refused | resultArrived | notarizeBusy | notarizeAdmitted | lookedUp | left
      | notarizeMoved => exact hListed _ hMem
  · intro task hMem hHolds
    cases hStep with
    | tick | refused | created | expired | resultArrived | resultMoved => exact hHeld task hMem hHolds
    | notarizeBusy =>
        obtain hOld | hNew := List.mem_append.mp hMem
        · exact hHeld task hOld hHolds
        · obtain rfl := List.mem_singleton.mp hNew
          cases hHolds
    | notarizeAdmitted =>
        obtain hOld | hNew := List.mem_append.mp hMem
        · exact hHeld task hOld hHolds
        · obtain rfl := List.mem_singleton.mp hNew
          exact Or.inl rfl
    | lookedUp =>
        obtain hOld | rfl := List.mem_or_eq_of_mem_set hMem
        · exact hHeld task hOld hHolds
        · exact Or.inr (arriveNotarize_stored s _ hHolds)
    | left =>
        obtain hOld | rfl := List.mem_or_eq_of_mem_set hMem
        · exact hHeld task hOld hHolds
        · cases hHolds
    | notarizeMoved =>
        obtain hOld | rfl := List.mem_or_eq_of_mem_set hMem
        · exact hHeld task hOld hHolds
        · exact Or.inr ⟨_, Function.update_self ..⟩

/-- A step sets a timer for a request that starts, and for a new session. -/
theorem State.Timers.step (hTimers : s.Timers limit) (hStep : Transition config world s action s')
    (hRoom : s.now + config.sessionTtlMs ≤ limit ∨ action.unattended = true ∧ s.Closing) :
    s'.Timers limit := by
  have hTimeout := config.timeoutMs_le
  constructor
  · intro request hMem
    cases hStep with
    | tick | refused | created | expired | notarizeBusy | notarizeAdmitted | lookedUp | left
      | notarizeMoved => exact hTimers.requests request hMem
    | resultArrived sessionId =>
        obtain hOld | hNew := List.mem_append.mp hMem
        · exact hTimers.requests request hOld
        · obtain rfl := List.mem_singleton.mp hNew
          rw [arriveResult_deadline]
          exact Nat.zero_le _
    | resultMoved hRequest _ hMove =>
        obtain hOld | rfl := List.mem_or_eq_of_mem_set hMem
        · exact hTimers.requests request hOld
        · refine hMove.deadline_le fun hStarting => ?_
          obtain hEnough | ⟨_, hClosing⟩ := hRoom
          · omega
          · rw [hClosing.requests _ (List.mem_of_getElem? hRequest)] at hStarting
            cases hStarting
  · intro task hMem
    cases hStep with
    | tick | refused | created | expired | resultArrived | resultMoved =>
        exact hTimers.notarizations task hMem
    | notarizeBusy | notarizeAdmitted =>
        obtain hOld | hNew := List.mem_append.mp hMem
        · exact hTimers.notarizations task hOld
        · obtain rfl := List.mem_singleton.mp hNew
          exact Nat.zero_le _
    | lookedUp =>
        obtain hOld | rfl := List.mem_or_eq_of_mem_set hMem
        · exact hTimers.notarizations task hOld
        · rw [arriveNotarize_deadline]
          exact Nat.zero_le _
    | left =>
        obtain hOld | rfl := List.mem_or_eq_of_mem_set hMem
        · exact hTimers.notarizations task hOld
        · exact Nat.zero_le _
    | notarizeMoved hTask _ hMove =>
        obtain hOld | rfl := List.mem_or_eq_of_mem_set hMem
        · exact hTimers.notarizations task hOld
        · have hKnown := List.mem_of_getElem? hTask
          refine hMove.deadline_le (hTimers.notarizations _ hKnown) fun hStarting => ?_
          obtain hEnough | ⟨_, hClosing⟩ := hRoom
          · omega
          · rw [hClosing.notarizations _ hKnown] at hStarting
            cases hStarting
  · intro sessionId session hSession
    obtain ⟨before, hBefore, hSame⟩ | ⟨⟨body, rfl⟩, hNew⟩ := hStep.expiresAt_kept hSession
    · rw [hSame]
      exact hTimers.sessions sessionId before hBefore
    · obtain hEnough | ⟨hAway, _⟩ := hRoom
      · rw [hNew]
        exact hEnough
      · cases hAway

/-- Nothing starts again without an arrival. -/
theorem State.Closing.step (hClosing : s.Closing) (hStep : Transition config world s action s')
    (hAway : action.unattended = true) : s'.Closing := by
  constructor
  · intro request hMem
    cases hStep with
    | resultArrived => cases hAway
    | resultMoved _ _ hMove =>
        obtain hOld | rfl := List.mem_or_eq_of_mem_set hMem
        · exact hClosing.requests request hOld
        · exact hMove.not_starting
    | _ => exact hClosing.requests request hMem
  · intro task hMem
    cases hStep with
    | tick | refused | created | expired | resultArrived | resultMoved =>
        exact hClosing.notarizations task hMem
    | notarizeBusy | notarizeAdmitted | left => cases hAway
    | lookedUp hTask => cases hClosing.notarizations _ (List.mem_of_getElem? hTask)
    | notarizeMoved hTask _ hMove =>
        obtain hOld | rfl := List.mem_or_eq_of_mem_set hMem
        · exact hClosing.notarizations task hOld
        · exact hMove.not_starting (hClosing.notarizations _ (List.mem_of_getElem? hTask))

theorem State.Timers.mono {later : Nat} (h : s.Timers limit) (hLater : limit ≤ later) :
    s.Timers later where
  requests request hMem := Nat.le_trans (h.requests request hMem) hLater
  notarizations task hMem := Nat.le_trans (h.notarizations task hMem) hLater
  sessions sessionId session hSession := Nat.le_trans (h.sessions sessionId session hSession) hLater

theorem Transition.now_le (hStep : Transition config world s action s') : s.now ≤ s'.now := by
  cases hStep with
  | tick elapsed => exact Nat.le_add_right s.now elapsed
  | _ => exact Nat.le_refl s.now

/-- The invariant of a server whose timers all end by `limit`. -/
structure DrainInv (config : NotarizationConfig) (world : Collaborators) (limit : Nat) (s : State) :
    Prop where
  server : ServerInv world s
  capacity : CapacityInv config s
  stored : s.Stored
  timers : s.Timers limit

theorem DrainInv.step (h : DrainInv config world limit s)
    (hStep : SettlementOracle.step config world s action = some s')
    (hRoom : s.now + config.sessionTtlMs ≤ limit ∨ action.unattended = true ∧ s.Closing) :
    DrainInv config world limit s' where
  server := h.server.step hStep
  capacity := h.capacity.step hStep
  stored := h.stored.step (transition_of_step hStep)
  timers := h.timers.step (transition_of_step hStep) hRoom

theorem DrainInv.mono {later : Nat} (h : DrainInv config world limit s) (hLater : limit ≤ later) :
    DrainInv config world later s :=
  { h with timers := h.timers.mono hLater }

/-- No timer of a reachable state is further away than the life of a session. -/
theorem drainInv_of_run {actions : List Action}
    (hRun : run (SettlementOracle.step config world) (State.start config) actions = some s) :
    DrainInv config world (s.now + config.sessionTtlMs) s := by
  refine run_invariant (P := fun s => DrainInv config world (s.now + config.sessionTtlMs) s)
    ?_ ?_ hRun
  · intro s action next hInv hNext
    have hLater := (transition_of_step hNext).now_le
    exact (hInv.mono (Nat.add_le_add_right hLater _)).step hNext
      (Or.inl (Nat.add_le_add_right hLater _))
  · exact {
      server := serverInv_start config world
      capacity := capacityInv_start config
      stored := {
        listed := fun _ hMem => absurd hMem List.not_mem_nil
        held := fun _ hMem => absurd hMem List.not_mem_nil }
      timers := {
        requests := fun _ hMem => absurd hMem List.not_mem_nil
        notarizations := fun _ hMem => absurd hMem List.not_mem_nil
        sessions := fun _ _ hSession => absurd hSession (Option.some_ne_none _).symm } }

end Steps

section Progress

variable {config : NotarizationConfig} {world : Collaborators} {s : State} {limit index : Nat}
  {sessionId : String} {session : Session}

/-- The server can take this step on its own. -/
def Enabled (config : NotarizationConfig) (world : Collaborators) (s : State) (action : Action) :
    Prop :=
  action.unattended = true ∧ ∃ next, step config world s action = some next

theorem enabled_stepResult {phase : ResultPhase} (event : ResultEvent)
    (hRequest : s.requests[index]? = some ⟨sessionId, phase⟩)
    (hSession : s.heap sessionId = some session)
    (hMove : (phase.step config s.now sessionId session event).isSome = true)
    (hStays : event ≠ .disconnect) :
    ∃ action, action.handles = true ∧ Enabled config world s action := by
  obtain ⟨⟨phase', session'⟩, hPhase⟩ := Option.isSome_iff_exists.mp hMove
  obtain ⟨next, hStep, _⟩ := step_stepResult world hRequest hSession hPhase
  exact ⟨.stepResult index event, rfl, decide_eq_true hStays, next, hStep⟩

theorem enabled_stepNotarize {phase : NotarizePhase} (event : NotarizeEvent)
    (hTask : s.notarizations[index]? = some ⟨sessionId, phase⟩)
    (hSession : s.heap sessionId = some session)
    (hMove : (phase.step config world s.now sessionId session event).isSome = true)
    (hAway : event.unattended = true) :
    ∃ action, action.handles = true ∧ Enabled config world s action := by
  obtain ⟨⟨phase', session'⟩, hPhase⟩ := Option.isSome_iff_exists.mp hMove
  refine ⟨.stepNotarize index event, rfl, hAway, Option.isSome_iff_exists.mp ?_⟩
  simp only [step, hTask, hSession, hPhase, Option.bind_eq_bind, Option.bind_some,
    Option.isSome_some]

/-- A request in front of its timer moves on its own. -/
theorem DrainInv.enabled_of_starting (hInv : DrainInv config world limit s) (h : ¬s.Closing) :
    ∃ action, action.handles = true ∧ Enabled config world s action := by
  by_cases hRequests : ∀ request ∈ s.requests, request.phase.starting = false
  · have hTasks : ¬∀ task ∈ s.notarizations, task.phase.starting = false :=
      fun hTasks => h ⟨hRequests, hTasks⟩
    simp only [not_forall, Bool.not_eq_false] at hTasks
    obtain ⟨⟨sessionId, phase⟩, hMem, hStarting⟩ := hTasks
    obtain ⟨index, hTask⟩ := List.mem_iff_getElem?.mp hMem
    have hHeld := hInv.stored.held _ hMem
    cases phase with
    | holding =>
        refine ⟨.lookUpSession index, rfl, rfl, Option.isSome_iff_exists.mp ?_⟩
        simp only [SettlementOracle.step, hTask, Option.bind_eq_bind, Option.bind_some, if_true,
          Option.isSome_some]
    | found =>
        obtain hHolding | ⟨session, hSession⟩ := hHeld rfl
        · cases hHolding
        · refine enabled_stepNotarize .claimVerifier hTask hSession ?_ rfl
          rw [NotarizePhase.step]
          split <;> rfl
    | upgrading =>
        obtain hHolding | ⟨session, hSession⟩ := hHeld rfl
        · cases hHolding
        · exact enabled_stepNotarize .failUpgrade hTask hSession rfl rfl
    | connected =>
        obtain hHolding | ⟨session, hSession⟩ := hHeld rfl
        · cases hHolding
        · exact enabled_stepNotarize .startVerifier hTask hSession rfl rfl
    | _ => cases hStarting
  · simp only [not_forall, Bool.not_eq_false] at hRequests
    obtain ⟨⟨sessionId, phase⟩, hMem, hStarting⟩ := hRequests
    obtain ⟨index, hRequest⟩ := List.mem_iff_getElem?.mp hMem
    have hBound := hInv.server.results _ hMem
    cases phase with
    | found =>
        obtain ⟨session, hSession⟩ := hBound
        refine enabled_stepResult .takeReceiver hRequest hSession ?_ (by decide)
        rw [ResultPhase.step]
        split <;> rfl
    | _ => cases hStarting

/-- A waiting request whose time is up is resolved, whatever its channel holds. -/
theorem enabled_of_waiting {deadline : Nat}
    (hRequest : s.requests[index]? = some ⟨sessionId, .waiting deadline⟩)
    (hSession : s.heap sessionId = some session) (hLate : deadline ≤ s.now) :
    ∃ action, action.handles = true ∧ Enabled config world s action := by
  cases hMessage : session.message with
  | some outcome =>
      refine enabled_stepResult .receive hRequest hSession ?_ (by decide)
      rw [ResultPhase.step, hMessage]
      rfl
  | none =>
      cases hSender : session.resultSender with
      | false =>
          refine enabled_stepResult .closeChannel hRequest hSession ?_ (by decide)
          rw [ResultPhase.step, if_pos ⟨hMessage, hSender⟩]
          rfl
      | true =>
          refine enabled_stepResult .timeOut hRequest hSession ?_ (by decide)
          rw [ResultPhase.step, if_pos ⟨hLate, hMessage, hSender⟩]
          rfl

/-- A verifier whose time is up ends by its own timeout. -/
theorem enabled_of_started {phase : NotarizePhase}
    (hTask : s.notarizations[index]? = some ⟨sessionId, phase⟩)
    (hSession : s.heap sessionId = some session) (hHolds : phase.holdsPermit = true)
    (hStarted : phase.starting = false) (hLate : phase.deadline ≤ s.now) :
    ∃ action, action.handles = true ∧ Enabled config world s action := by
  cases phase with
  | running deadline =>
      refine enabled_stepNotarize (.endMpcTls (.error .timeout)) hTask hSession ?_ rfl
      rw [NotarizePhase.step, afterMpcTls, if_pos (show deadline ≤ s.now from hLate)]
      rfl
  | readingChain deadline mpc =>
      refine enabled_stepNotarize (.endChainRead none) hTask hSession ?_ rfl
      rw [NotarizePhase.step, afterChainRead, if_pos (show deadline ≤ s.now from hLate)]
      rfl
  | settling deadline mpc escrow =>
      refine enabled_stepNotarize (.endSettlement none) hTask hSession ?_ rfl
      rw [NotarizePhase.step, afterSettlement, if_pos (show deadline ≤ s.now from hLate)]
      rfl
  | ended conclusion => exact enabled_stepNotarize .decrementActive hTask hSession rfl rfl
  | publishing conclusion => exact enabled_stepNotarize .publish hTask hSession rfl rfl
  | holding | found | upgrading | connected => cases hStarted
  | _ => cases hHolds

/-- When every timer has run out, whoever is left moves on its own. -/
theorem DrainInv.enabled_of_late (hInv : DrainInv config world limit s) (hClosing : s.Closing)
    (hLate : limit ≤ s.now) (h : ¬s.Idle) :
    (∃ action, action.handles = true ∧ Enabled config world s action) ∨
      ∃ sessionId ∈ s.sessions, Enabled config world s (.expireSession sessionId) := by
  by_cases hRequests : ∀ request ∈ s.requests, request.phase.unanswered = false
  · by_cases hTasks : ∀ task ∈ s.notarizations, task.phase.holdsPermit = false
    · obtain ⟨sessionId, hListed⟩ : ∃ sessionId, sessionId ∈ s.sessions :=
        List.exists_mem_of_ne_nil _ fun hEmpty => h ⟨hRequests, hTasks, hEmpty⟩
      obtain ⟨session, hSession⟩ := hInv.stored.listed sessionId hListed
      have hFirst : session.expired = false := by
        by_contra hExpired
        exact hInv.server.unlisted sessionId session hSession (by simpa using hExpired) hListed
      have hTime := Nat.le_trans (hInv.timers.sessions sessionId session hSession) hLate
      refine Or.inr ⟨sessionId, hListed, rfl, Option.isSome_iff_exists.mp ?_⟩
      simp [SettlementOracle.step, hSession, hTime, hFirst]
    · simp only [not_forall, Bool.not_eq_false] at hTasks
      obtain ⟨⟨sessionId, phase⟩, hMem, hHolds⟩ := hTasks
      obtain ⟨index, hTask⟩ := List.mem_iff_getElem?.mp hMem
      have hStarted := hClosing.notarizations _ hMem
      have hTime := Nat.le_trans (hInv.timers.notarizations _ hMem) hLate
      obtain rfl | ⟨session, hSession⟩ := hInv.stored.held _ hMem hHolds
      · cases hStarted
      · exact Or.inl (enabled_of_started hTask hSession hHolds hStarted hTime)
  · simp only [not_forall, Bool.not_eq_false] at hRequests
    obtain ⟨⟨sessionId, phase⟩, hMem, hOpen⟩ := hRequests
    obtain ⟨index, hRequest⟩ := List.mem_iff_getElem?.mp hMem
    have hBound := hInv.server.results _ hMem
    cases phase with
    | found => cases hClosing.requests _ hMem
    | waiting deadline =>
        obtain ⟨session, hSession⟩ := hBound
        exact Or.inl (enabled_of_waiting hRequest hSession
          (Nat.le_trans (hInv.timers.requests _ hMem) hLate))
    | resolved waitEnd =>
        obtain ⟨session, hSession, _⟩ := hBound
        exact Or.inl (enabled_stepResult .finish hRequest hSession rfl (by decide))
    | _ => cases hOpen

end Progress

section Drain

variable {config : NotarizationConfig} {world : Collaborators} {s s' : State} {limit : Nat}

def State.measure (s : State) : Nat := s.work + s.sessions.length

theorem Transition.measure_lt {action : Action} (hStep : Transition config world s action s')
    (h : action.handles = true) : s'.measure < s.measure ∧ s'.now = s.now := by
  obtain ⟨hWork, hNow, hSessions⟩ := hStep.handles h
  exact ⟨Nat.add_lt_add_of_lt_of_le hWork hSessions, hNow⟩

theorem expireSession_measure_lt {sessionId : String}
    (hStep : step config world s (.expireSession sessionId) = some s')
    (hListed : sessionId ∈ s.sessions) : s'.measure < s.measure ∧ s'.now = s.now := by
  cases transition_of_step hStep with
  | expired =>
      have hLess : (s.remove sessionId).length < s.sessions.length :=
        List.length_filter_lt_length_iff_exists.mpr ⟨sessionId, hListed, by simp⟩
      exact ⟨Nat.add_lt_add_left hLess _, rfl⟩

/-- Without any time passing, every timer can be set. -/
theorem DrainInv.exists_closing
    (hInv : DrainInv config world (s.now + config.sessionTtlMs) s) :
    ∃ actions s', (∀ action ∈ actions, action.unattended = true) ∧
      run (SettlementOracle.step config world) s actions = some s' ∧
      (DrainInv config world (s.now + config.sessionTtlMs) s' ∧ s'.now = s.now) ∧ s'.Closing := by
  refine exists_run_of_progress State.measure ?_ s ⟨hInv, rfl⟩
  rintro middle ⟨hMiddle, hNow⟩ hOpen
  obtain ⟨action, hHandles, hAway, next, hStep⟩ := hMiddle.enabled_of_starting hOpen
  obtain ⟨hLess, hSame⟩ := (transition_of_step hStep).measure_lt hHandles
  refine ⟨action, next, hAway, hStep, hLess, hMiddle.step hStep (Or.inl ?_), hSame.trans hNow⟩
  rw [hNow]

/-- At the time of the last timer, everything can end. -/
theorem DrainInv.exists_idle (hInv : DrainInv config world limit s) (hClosing : s.Closing)
    (hNow : s.now = limit) :
    ∃ actions s', (∀ action ∈ actions, action.unattended = true) ∧
      run (SettlementOracle.step config world) s actions = some s' ∧
      (DrainInv config world limit s' ∧ s'.Closing ∧ s'.now = limit) ∧ s'.Idle := by
  refine exists_run_of_progress State.measure ?_ s ⟨hInv, hClosing, hNow⟩
  rintro middle ⟨hMiddle, hClosed, hTime⟩ hBusy
  have hKeeps : ∀ {action next}, action.unattended = true →
      SettlementOracle.step config world middle action = some next →
      DrainInv config world limit next ∧ next.Closing :=
    fun hAway hStep => ⟨hMiddle.step hStep (Or.inr ⟨hAway, hClosed⟩),
      hClosed.step (transition_of_step hStep) hAway⟩
  obtain ⟨action, hHandles, hAway, next, hStep⟩ | ⟨sessionId, hListed, hAway, next, hStep⟩ :=
    hMiddle.enabled_of_late hClosed (Nat.le_of_eq hTime.symm) hBusy
  · obtain ⟨hLess, hSame⟩ := (transition_of_step hStep).measure_lt hHandles
    obtain ⟨hNext, hStill⟩ := hKeeps hAway hStep
    exact ⟨action, next, hAway, hStep, hLess, hNext, hStill, hSame.trans hTime⟩
  · obtain ⟨hLess, hSame⟩ := expireSession_measure_lt hStep hListed
    obtain ⟨hNext, hStill⟩ := hKeeps hAway hStep
    exact ⟨.expireSession sessionId, next, hAway, hStep, hLess, hNext, hStill, hSame.trans hTime⟩

/-- Nobody is at work, every permit is back, and the counter of active
notarizations shows the handlers that panicked. -/
structure State.Drained (config : NotarizationConfig) (s : State) : Prop where
  idle : s.Idle
  permits : s.permits = config.maxActiveSessions
  active : s.active =
    phaseCount (fun phase => decide (phase = .panicked)) s.notarizations % UInt64.size

theorem CapacityInv.drained (h : CapacityInv config s) (hIdle : s.Idle) : s.Drained config where
  idle := hIdle
  permits := by
    have hNone : phaseCount NotarizePhase.holdsPermit s.notarizations = 0 :=
      List.countP_eq_zero.mpr fun task hMem => by simp [hIdle.notarizations task hMem]
    have hPermits := h.permits
    omega
  active := by
    have hPanicked : phaseCount NotarizePhase.incremented s.notarizations =
        phaseCount (fun phase => decide (phase = .panicked)) s.notarizations := by
      refine List.countP_congr fun task hMem => ?_
      have hReleased := hIdle.notarizations task hMem
      cases hPhase : task.phase <;> simp_all [NotarizePhase.holdsPermit, NotarizePhase.incremented,
        NotarizePhase.counted]
    rw [← hPanicked]
    exact h.active

/-- Left alone, the server drains within the life of a session. From every
reachable state its own timers lead to a state without open requests. -/
theorem server_drains {actions : List Action}
    (hRun : run (step config world) (State.start config) actions = some s) :
    ∃ away s', (∀ action ∈ away, action.unattended = true) ∧
      run (step config world) s away = some s' ∧ s'.now = s.now + config.sessionTtlMs ∧
      s'.Drained config := by
  obtain ⟨first, closing, hFirst, hFirstRun, ⟨hInv, hNow⟩, hClosing⟩ :=
    (drainInv_of_run hRun).exists_closing
  have hTick : step config world closing (.tick config.sessionTtlMs) =
      some { closing with now := closing.now + config.sessionTtlMs } := rfl
  have hLate := hInv.step hTick (Or.inr ⟨rfl, hClosing⟩)
  have hClosed := hClosing.step (transition_of_step hTick) rfl
  obtain ⟨last, s', hLast, hLastRun, ⟨hEnd, _, hEndNow⟩, hIdle⟩ :=
    hLate.exists_idle hClosed (congrArg (· + config.sessionTtlMs) hNow)
  refine ⟨first ++ .tick config.sessionTtlMs :: last, s', ?_, ?_, hEndNow,
    hEnd.capacity.drained hIdle⟩
  · intro action hMem
    obtain hMem | hMem := List.mem_append.mp hMem
    · exact hFirst action hMem
    · obtain rfl | hMem := List.mem_cons.mp hMem
      · rfl
      · exact hLast action hMem
  · exact run_append_eq_some.mpr ⟨closing, hFirstRun, run_cons_eq_some.mpr ⟨_, hTick, hLastRun⟩⟩

/-- A result request waits and a verifier runs when everybody goes away. -/
def abandonedVerifierRun : List Action :=
  [Action.postSession "b3f1" sampleBody, .getResult "b3f1", .stepResult 0 .takeReceiver] ++
    claimActions "b3f1"

theorem server_drains_abandoned :
    ∃ s away s', run (step sampleConfig sampleWorld) (State.start sampleConfig)
        abandonedVerifierRun = some s ∧ s.permits = 1 ∧ s.sessions = ["b3f1"] ∧
      run (step sampleConfig sampleWorld) s away = some s' ∧ s'.Drained sampleConfig := by
  have hStart : (run (step sampleConfig sampleWorld) (State.start sampleConfig)
      abandonedVerifierRun).map (fun s => (s.permits, s.sessions)) = some (1, ["b3f1"]) := by
    decide +kernel
  obtain ⟨s, hRun, hState⟩ := Option.map_eq_some_iff.mp hStart
  obtain ⟨away, s', _, hAway, _, hDrained⟩ := server_drains hRun
  exact ⟨s, away, s', hRun, congrArg Prod.fst hState, congrArg Prod.snd hState, hAway, hDrained⟩

end Drain

end SettlementOracle
