import SettlementOracle.Server.Delivery

/-! The limits of the server: entries of the session map, permits, and the
counter of active notarizations. They are taken and given back by different tasks,
so each is compared with the phases of all requests. -/
namespace SettlementOracle

open Checked

/-- The websocket handler of the request runs. -/
def NotarizePhase.verifying : NotarizePhase → Bool
  | .connected | .running _ | .readingChain _ _ | .settling _ _ _ | .ended _ | .publishing _ => true
  | _ => false

/-- The handler is between the increment and the decrement of the counter. -/
def NotarizePhase.counted : NotarizePhase → Bool
  | .connected | .running _ | .readingChain _ _ | .settling _ _ _ | .ended _ => true
  | _ => false

/-- The handler has incremented the counter and never decremented it. A handler
that panics leaves its increment behind. -/
def NotarizePhase.incremented (phase : NotarizePhase) : Bool :=
  phase.counted || decide (phase = .panicked)

/-- No handler has panicked. Nothing follows a panic, so none has panicked before. -/
def State.NoPanic (s : State) : Prop :=
  ∀ task ∈ s.notarizations, task.phase ≠ .panicked

structure CapacityInv (config : NotarizationConfig) (s : State) : Prop where
  sessions : s.sessions.length ≤ config.maxPendingSessions
  permits : s.permits + phaseCount NotarizePhase.holdsPermit s.notarizations =
    config.maxActiveSessions
  active : s.active = phaseCount NotarizePhase.incremented s.notarizations % UInt64.size

section Phases

variable {config : NotarizationConfig} {world : Collaborators} {now : Nat} {sessionId : String}
  {session session' : Session} {phase phase' : NotarizePhase} {event : NotarizeEvent}

theorem NotarizePhase.holdsPermit_of_verifying (h : phase.verifying = true) :
    phase.holdsPermit = true := by
  cases phase <;> first | rfl | cases h

theorem NotarizePhase.holdsPermit_of_counted (h : phase.counted = true) :
    phase.holdsPermit = true := by
  cases phase <;> first | rfl | cases h

theorem NotarizePhase.of_working (h : phase.working = true ∨ phase = .connected) :
    phase.holdsPermit = true ∧ phase.incremented = true := by
  obtain hWorking | rfl := h
  · cases phase with
    | running | readingChain | settling => exact ⟨rfl, rfl⟩
    | _ => cases hWorking
  · exact ⟨rfl, rfl⟩

/-- Only a request that holds a permit moves. -/
theorem NotarizeMove.holdsPermit
    (h : NotarizeMove config world now sessionId session phase event phase' session') :
    phase.holdsPermit = true := by
  cases h with
  | fail hWorking => exact (NotarizePhase.of_working (Or.inl hWorking)).1
  | panic hWorking => exact (NotarizePhase.of_working hWorking).1
  | _ => rfl

/-- A permit is kept or given back, never both and never neither. -/
theorem releasedPermits_add (h : phase.holdsPermit = true) :
    releasedPermits phase phase' + phase'.holdsPermit.toNat = 1 := by
  unfold releasedPermits
  cases hAfter : phase'.holdsPermit <;> simp [h]

/-- The counter follows the phases modulo its width. -/
theorem NotarizeMove.countActive
    (h : NotarizeMove config world now sessionId session phase event phase' session')
    {before after : Nat}
    (hCount : after + phase.incremented.toNat = before + phase'.incremented.toNat) :
    event.countActive (before % UInt64.size) = after % UInt64.size := by
  have hSame : phase'.incremented = phase.incremented → after = before := by
    intro hEq
    rw [hEq] at hCount
    omega
  cases h with
  | connect =>
      obtain rfl : after = before + 1 := hCount
      simp only [NotarizeEvent.countActive, UInt64.size]
      omega
  | decrement =>
      obtain rfl : after + 1 = before := hCount
      simp only [NotarizeEvent.countActive, UInt64.size]
      omega
  | fail hWorking hActive =>
      rw [hActive, hSame (NotarizePhase.of_working (Or.inl hWorking)).2.symm]
  | panic hWorking hActive =>
      rw [hActive, hSame (NotarizePhase.of_working hWorking).2.symm]
  | _ =>
      rw [hSame rfl]
      rfl

theorem arriveNotarize_incremented (s : State) (sessionId : String) :
    (arriveNotarize s sessionId).incremented = false := by
  obtain h | ⟨_, h⟩ := arriveNotarize_cases s sessionId <;> rw [h] <;> rfl

end Phases

section Steps

variable {config : NotarizationConfig} {world : Collaborators} {s s' : State} {action : Action}
  {actions : List Action} {index : Nat} {sessionId : String} {phase phase' : NotarizePhase}

theorem Transition.sessions_length (hStep : Transition config world s action s')
    (h : s.sessions.length ≤ config.maxPendingSessions) :
    s'.sessions.length ≤ config.maxPendingSessions := by
  have hRemove : ∀ sessionId, (s.remove sessionId).length ≤ config.maxPendingSessions :=
    fun sessionId => Nat.le_trans (List.length_filter_le _ _) h
  cases hStep with
  | created _ hRoom => exact hRoom
  | expired => exact hRemove _
  | resultMoved =>
      show (ite _ _ _ : List String).length ≤ _
      split
      · exact hRemove _
      · exact h
  | _ => exact h

/-- Every permit is available or held by one request. -/
theorem Transition.permits_add (hStep : Transition config world s action s') :
    s'.permits + phaseCount NotarizePhase.holdsPermit s'.notarizations =
      s.permits + phaseCount NotarizePhase.holdsPermit s.notarizations := by
  -- a request that holds a permit changes its phase and gives the permit back or not
  have hMove : ∀ {index sessionId phase} phase',
      s.notarizations[index]? = some ⟨sessionId, phase⟩ → phase.holdsPermit = true →
      s.permits + releasedPermits phase phase' +
        phaseCount NotarizePhase.holdsPermit (s.notarizations.set index ⟨sessionId, phase'⟩) =
      s.permits + phaseCount NotarizePhase.holdsPermit s.notarizations := by
    intro index sessionId phase phase' hTask hHolds
    have hCount : phaseCount NotarizePhase.holdsPermit
        (s.notarizations.set index ⟨sessionId, phase'⟩) + phase.holdsPermit.toNat =
        phaseCount NotarizePhase.holdsPermit s.notarizations + phase'.holdsPermit.toNat :=
      phaseCount_set hTask
    have hReleased : releasedPermits phase phase' + phase'.holdsPermit.toNat = 1 :=
      releasedPermits_add hHolds
    rw [hHolds, Bool.toNat_true] at hCount
    omega
  cases hStep with
  | tick | refused | created | expired | resultArrived | resultMoved => rfl
  | notarizeBusy =>
      rw [phaseCount_push]
      rfl
  | notarizeAdmitted _ hPermits =>
      rw [phaseCount_push]
      show s.permits - 1 + (_ + 1) = _
      omega
  | lookedUp hTask => exact hMove _ hTask rfl
  | left hTask => exact hMove _ hTask rfl
  | notarizeMoved hTask _ hMoved => exact hMove _ hTask hMoved.holdsPermit

theorem Transition.active_eq (hStep : Transition config world s action s')
    (h : s.active = phaseCount NotarizePhase.incremented s.notarizations % UInt64.size) :
    s'.active = phaseCount NotarizePhase.incremented s'.notarizations % UInt64.size := by
  have hQuiet : ∀ {index sessionId phase} phase',
      s.notarizations[index]? = some ⟨sessionId, phase⟩ → phase'.incremented = phase.incremented →
      s.active = phaseCount NotarizePhase.incremented
        (s.notarizations.set index ⟨sessionId, phase'⟩) % UInt64.size := by
    intro index sessionId phase phase' hTask hSame
    have hCount : phaseCount NotarizePhase.incremented
        (s.notarizations.set index ⟨sessionId, phase'⟩) + phase.incremented.toNat =
        phaseCount NotarizePhase.incremented s.notarizations + phase'.incremented.toNat :=
      phaseCount_set hTask
    rw [hSame] at hCount
    rw [h, Nat.add_right_cancel hCount]
  cases hStep with
  | tick | refused | created | expired | resultArrived | resultMoved => exact h
  | notarizeBusy | notarizeAdmitted =>
      rw [phaseCount_push]
      exact h
  | lookedUp hTask => exact hQuiet _ hTask (arriveNotarize_incremented s _)
  | left hTask => exact hQuiet _ hTask rfl
  | notarizeMoved hTask _ hMoved =>
      show NotarizeEvent.countActive s.active _ = _
      rw [h]
      exact hMoved.countActive (phaseCount_set hTask)

theorem capacityInv_start (config : NotarizationConfig) :
    CapacityInv config (State.start config) where
  sessions := Nat.zero_le _
  permits := rfl
  active := rfl

theorem CapacityInv.step (h : CapacityInv config s) (hStep : step config world s action = some s') :
    CapacityInv config s' := by
  have hMove := transition_of_step hStep
  exact {
    sessions := hMove.sessions_length h.sessions
    permits := hMove.permits_add.trans h.permits
    active := hMove.active_eq h.active }

theorem capacityInv_of_run (hRun : run (step config world) (State.start config) actions = some s) :
    CapacityInv config s :=
  run_invariant (fun _ _ _ hInv hStep => hInv.step hStep) (capacityInv_start config) hRun

/-- Without panics the counter is the number of handlers that are counted. -/
theorem CapacityInv.active_eq_counted (h : CapacityInv config s)
    (hUsize : config.maxActiveSessions < UInt64.size) (hCalm : s.NoPanic) :
    s.active = phaseCount NotarizePhase.counted s.notarizations ∧
      s.active ≤ config.maxActiveSessions := by
  have hIncremented : phaseCount NotarizePhase.incremented s.notarizations =
      phaseCount NotarizePhase.counted s.notarizations :=
    List.countP_congr fun task hMem => by simp [NotarizePhase.incremented, hCalm task hMem]
  have hHeld : phaseCount NotarizePhase.counted s.notarizations ≤
      phaseCount NotarizePhase.holdsPermit s.notarizations :=
    phaseCount_mono fun _ _ => NotarizePhase.holdsPermit_of_counted
  have hPermits := h.permits
  have hActive := h.active
  rw [hIncremented, Nat.mod_eq_of_lt (by omega)] at hActive
  exact ⟨hActive, by omega⟩

/-- The decrement takes one from a positive counter. -/
theorem CapacityInv.decrement (h : CapacityInv config s)
    (hUsize : config.maxActiveSessions < UInt64.size) (hCalm : s.NoPanic)
    (hStep : SettlementOracle.step config world s (.stepNotarize index .decrementActive) =
      some s') :
    s'.active + 1 = s.active := by
  obtain ⟨hActive, hBound⟩ := h.active_eq_counted hUsize hCalm
  have hPos : ∀ {sessionId conclusion},
      s.notarizations[index]? = some ⟨sessionId, .ended conclusion⟩ → 0 < s.active := by
    intro sessionId conclusion hTask
    rw [hActive]
    exact List.countP_pos_iff.mpr ⟨_, List.mem_of_getElem? hTask, rfl⟩
  have hDown : 0 < s.active →
      NotarizeEvent.countActive s.active .decrementActive + 1 = s.active := by
    intro hPositive
    simp only [NotarizeEvent.countActive, UInt64.size] at hUsize ⊢
    omega
  cases transition_of_step hStep with
  | notarizeMoved hTask _ hMoved =>
      cases hMoved with
      | decrement => exact hDown (hPos hTask)
      | fail _ hSame => exact absurd (hSame 1) (by decide)
      | panic _ hSame => exact absurd (hSame 1) (by decide)

end Steps

/-- A request of the run, named by its place of arrival. -/
inductive Request where
  | notarize (index : Nat)
  | result (index : Nat)
  deriving DecidableEq, Repr

/-- The action is a step of the request, its arrival included. -/
def Request.owns (s : State) : Request → Action → Bool
  | .notarize index, .getNotarize _ => decide (s.notarizations.length = index)
  | .notarize index, .lookUpSession other => decide (other = index)
  | .notarize index, .leaveNotarize other => decide (other = index)
  | .notarize index, .stepNotarize other _ => decide (other = index)
  | .result index, .getResult _ => decide (s.requests.length = index)
  | .result index, .stepResult other _ => decide (other = index)
  | _, _ => false

/-- The request has returned with this rejection. -/
def Request.Rejected (s : State) (rejection : Rejection) : Request → Prop
  | .notarize index => ∃ sessionId, s.notarizations[index]? = some ⟨sessionId, .rejected rejection⟩
  | .result index => ∃ sessionId, s.requests[index]? = some ⟨sessionId, .rejected rejection⟩

/-- What a step of the request does to the available permits. -/
def Request.permitChange (request : Request) (s : State) (action : Action) (s' : State) : Int :=
  if request.owns s action then s'.permits - s.permits else 0

def State.claimFlag (s : State) (sessionId : String) : Option Bool :=
  (s.heap sessionId).map Session.verifierClaimed

/-- The step changes neither the session map nor a claim. -/
def KeepsSessions (s s' : State) : Prop :=
  s'.sessions = s.sessions ∧ ∀ sessionId, s'.claimFlag sessionId = s.claimFlag sessionId

/-- The permits that request `index` holds. -/
def heldAt (tasks : List (Party String NotarizePhase)) (index : Nat) : Nat :=
  match tasks[index]? with
  | some task => task.phase.holdsPermit.toNat
  | none => 0

/-- The permits that the request owes to the server. -/
def Request.debt (s : State) : Request → Nat
  | .notarize index => heldAt s.notarizations index
  | .result _ => 0

/-- The request has taken what it asked for, and will not be rejected. -/
def Request.Committed (s : State) : Request → Prop
  | .notarize index =>
      ∃ sessionId phase, s.notarizations[index]? = some ⟨sessionId, phase⟩ ∧ phase.claimed = true
  | .result index =>
      ∃ sessionId phase, s.requests[index]? = some ⟨sessionId, phase⟩ ∧ phase.took = true

section Requests

variable {config : NotarizationConfig} {world : Collaborators} {s s' : State} {action : Action}
  {actions : List Action} {index other : Nat} {sessionId : String} {phase phase' : NotarizePhase}
  {tasks : List (Party String NotarizePhase)} {request : Request} {rejection : Rejection}

theorem heldAt_eq (h : tasks[index]? = some ⟨sessionId, phase⟩) :
    heldAt tasks index = phase.holdsPermit.toNat := by
  rw [heldAt, h]

theorem heldAt_set_ne (h : other ≠ index) (task : Party String NotarizePhase) :
    heldAt (tasks.set other task) index = heldAt tasks index := by
  rw [heldAt, heldAt, List.getElem?_set_ne h]

theorem heldAt_length : heldAt tasks tasks.length = 0 := by
  rw [heldAt, List.getElem?_eq_none (Nat.le_refl _)]

theorem heldAt_push_ne (h : tasks.length ≠ index) (task : Party String NotarizePhase) :
    heldAt (tasks ++ [task]) index = heldAt tasks index := by
  rw [heldAt, heldAt]
  rcases Nat.lt_or_gt_of_ne h with hBeyond | hInside
  · rw [List.getElem?_eq_none (by simp; omega), List.getElem?_eq_none (by omega)]
  · rw [List.getElem?_append_left hInside]

theorem Request.permitChange_result (hStep : Transition config world s action s') :
    (Request.result index).permitChange s action s' = 0 := by
  unfold Request.permitChange
  cases hStep with
  | resultArrived | resultMoved => simp
  | _ => simp [Request.owns]

/-- A notarize request takes and gives back its own permit only. -/
theorem Request.permitChange_notarize (hStep : Transition config world s action s') :
    (Request.notarize index).permitChange s action s' =
      (heldAt s.notarizations index : Int) - heldAt s'.notarizations index := by
  have hMove : ∀ {other sessionId phase} phase',
      s.notarizations[other]? = some ⟨sessionId, phase⟩ → phase.holdsPermit = true →
      (if other = index then
          ((s.permits + releasedPermits phase phase' : Nat) : Int) - s.permits else 0) =
        (heldAt s.notarizations index : Int) -
          heldAt (s.notarizations.set other ⟨sessionId, phase'⟩) index := by
    intro other sessionId phase phase' hTask hHolds
    rcases eq_or_ne other index with rfl | hNe
    · have hIndex : other < s.notarizations.length := (List.getElem?_eq_some_iff.mp hTask).1
      have hReleased : releasedPermits phase phase' + phase'.holdsPermit.toNat = 1 :=
        releasedPermits_add hHolds
      rw [heldAt_eq hTask, heldAt_eq (List.getElem?_set_self hIndex), hHolds, if_pos rfl]
      simp only [Bool.toNat_true]
      omega
    · rw [if_neg hNe, heldAt_set_ne hNe]
      omega
  unfold Request.permitChange
  cases hStep with
  | tick | refused | created | expired | resultArrived | resultMoved => simp [Request.owns]
  | notarizeBusy =>
      simp only [Request.owns, decide_eq_true_eq]
      split
      · rename_i hOwn
        subst hOwn
        rw [heldAt_length, heldAt_eq List.getElem?_concat_length]
        simp [NotarizePhase.holdsPermit]
      · rename_i hOther
        rw [heldAt_push_ne hOther]
        omega
  | notarizeAdmitted _ hPermits =>
      simp only [Request.owns, decide_eq_true_eq]
      split
      · rename_i hOwn
        subst hOwn
        rw [heldAt_length, heldAt_eq List.getElem?_concat_length]
        simp only [NotarizePhase.holdsPermit, Bool.toNat_true]
        omega
      · rename_i hOther
        rw [heldAt_push_ne hOther]
        omega
  | lookedUp hTask => simpa [Request.owns, State.setNotarization] using hMove _ hTask rfl
  | left hTask => simpa [Request.owns, State.setNotarization] using hMove _ hTask rfl
  | notarizeMoved hTask _ hMoved =>
      simpa [Request.owns, State.setNotarization] using hMove _ hTask hMoved.holdsPermit

/-- In the course of a run, a request has changed the available permits by what
it still owes. -/
theorem Request.netChange_permits
    (hRun : run (step config world) (State.start config) actions = some s) :
    netChange (step config world) request.permitChange (State.start config) actions =
      -(request.debt s : Int) := by
  have hStart : request.debt (State.start config) = 0 := by
    cases request <;> rfl
  have hChange : ∀ s action next, step config world s action = some next →
      request.permitChange s action next = -(request.debt next : Int) - -(request.debt s : Int) := by
    intro s action next hStep
    cases request with
    | notarize index =>
        rw [Request.permitChange_notarize (transition_of_step hStep)]
        simp only [Request.debt]
        omega
    | result index => exact Request.permitChange_result (transition_of_step hStep)
  rw [netChange_eq_sub (fun s => -(request.debt s : Int)) hChange hRun, hStart]
  simp

theorem NotarizeMove.claimed_or_same {now : Nat} {session session' : Session}
    {event : NotarizeEvent}
    (h : NotarizeMove config world now sessionId session phase event phase' session') :
    phase'.claimed = true ∨ session' = session := by
  cases h with
  | conflict => exact Or.inr rfl
  | _ => exact Or.inl rfl

theorem Transition.claimed_kept (hStep : Transition config world s action s')
    (hTask : s.notarizations[index]? = some ⟨sessionId, phase⟩) (hClaimed : phase.claimed = true) :
    ∃ phase', s'.notarizations[index]? = some ⟨sessionId, phase'⟩ ∧ phase'.claimed = true := by
  have hIndex : index < s.notarizations.length := (List.getElem?_eq_some_iff.mp hTask).1
  cases hStep with
  | tick | refused | created | expired | resultArrived | resultMoved =>
      exact ⟨phase, hTask, hClaimed⟩
  | notarizeBusy | notarizeAdmitted =>
      exact ⟨phase, (List.getElem?_append_left hIndex).trans hTask, hClaimed⟩
  | @lookedUp other _ hHolding | @left other _ hHolding =>
      have hNe : other ≠ index := by
        rintro rfl
        cases hTask.symm.trans hHolding
        cases hClaimed
      exact ⟨phase, (List.getElem?_set_ne hNe).trans hTask, hClaimed⟩
  | @notarizeMoved other _ _ phase' _ _ _ hOther _ hMoved =>
      rcases eq_or_ne other index with rfl | hNe
      · cases hTask.symm.trans hOther
        refine ⟨phase', List.getElem?_set_self hIndex, ?_⟩
        cases hMoved with
        | conflict => cases hClaimed
        | _ => rfl
      · exact ⟨phase, (List.getElem?_set_ne hNe).trans hTask, hClaimed⟩

theorem Request.Committed.step (h : request.Committed s)
    (hStep : Transition config world s action s') : request.Committed s' := by
  cases request with
  | notarize index =>
      obtain ⟨sessionId, phase, hTask, hClaimed⟩ := h
      exact ⟨sessionId, hStep.claimed_kept hTask hClaimed⟩
  | result index =>
      obtain ⟨sessionId, phase, hRequest, hTook⟩ := h
      exact ⟨sessionId, hStep.took_kept hRequest hTook⟩

theorem Request.Rejected.not_committed (h : request.Rejected s rejection) :
    ¬request.Committed s := by
  cases request with
  | notarize index =>
      rintro ⟨sessionId, phase, hTask, hClaimed⟩
      obtain ⟨_, hRejected⟩ := h
      cases hTask.symm.trans hRejected
      cases hClaimed
  | result index =>
      rintro ⟨sessionId, phase, hRequest, hTook⟩
      obtain ⟨_, hRejected⟩ := h
      cases hRequest.symm.trans hRejected
      cases hTook

theorem Request.Rejected.debt_eq_zero (h : request.Rejected s rejection) : request.debt s = 0 := by
  cases request with
  | notarize index =>
      obtain ⟨_, hRejected⟩ := h
      exact heldAt_eq hRejected
  | result index => rfl

theorem claimFlag_update {heap : String → Option Session} {session session' : Session}
    (hSession : heap sessionId = some session)
    (hFlag : session'.verifierClaimed = session.verifierClaimed) (other : String) :
    (Function.update heap sessionId (some session') other).map Session.verifierClaimed =
      (heap other).map Session.verifierClaimed := by
  rcases eq_or_ne other sessionId with rfl | hNe
  · simp [hSession, hFlag]
  · rw [Function.update_of_ne hNe]

/-- A step of a request takes hold of its session, or changes nothing of it. -/
theorem Request.committed_or_keepsSessions (hStep : Transition config world s action s')
    (hOwn : request.owns s action = true) : request.Committed s' ∨ KeepsSessions s s' := by
  cases hStep with
  | tick | refused | created | expired => cases request <;> cases hOwn
  | resultArrived | notarizeBusy | notarizeAdmitted | lookedUp | left =>
      exact Or.inr ⟨rfl, fun _ => rfl⟩
  | @resultMoved other sessionId _ _ event session _ hRequest hSession hMoved =>
      have hFlags := claimFlag_update hSession hMoved.frame.2.1
      cases request with
      | notarize index => cases hOwn
      | result index =>
          obtain rfl : other = index := of_decide_eq_true hOwn
          have hIndex : other < s.requests.length := (List.getElem?_eq_some_iff.mp hRequest).1
          rcases eq_or_ne event .finish with rfl | hNe
          · cases hMoved
            exact Or.inl ⟨sessionId, _, List.getElem?_set_self hIndex, rfl⟩
          · exact Or.inr ⟨if_neg hNe, hFlags⟩
  | @notarizeMoved other sessionId _ phase' _ session _ hTask hSession hMoved =>
      cases request with
      | result index => cases hOwn
      | notarize index =>
          obtain rfl : other = index := of_decide_eq_true hOwn
          have hIndex : other < s.notarizations.length := (List.getElem?_eq_some_iff.mp hTask).1
          obtain hClaimed | rfl := hMoved.claimed_or_same
          · exact Or.inl ⟨sessionId, phase', List.getElem?_set_self hIndex, hClaimed⟩
          · exact Or.inr ⟨rfl, claimFlag_update hSession rfl⟩

/-- No step of a rejected request has changed the map or a claim, and its steps
together have left the available permits as they were. -/
theorem Request.Rejected.no_change
    (hRun : run (step config world) (State.start config) actions = some s)
    (h : request.Rejected s rejection) :
    (∀ s₁ action s₂, Takes (step config world) (State.start config) actions s₁ action s₂ →
        request.owns s₁ action = true → KeepsSessions s₁ s₂) ∧
      netChange (step config world) request.permitChange (State.start config) actions = 0 := by
  constructor
  · intro s₁ action s₂ hTakes hOwn
    obtain ⟨rest, hRest⟩ := hTakes.visits.2.run_rest hRun
    obtain ⟨_, _, _, _, hStep⟩ := hTakes
    obtain hCommitted | hKeeps :=
      Request.committed_or_keepsSessions (transition_of_step hStep) hOwn
    · have hLast : request.Committed s :=
        run_invariant (P := fun s => request.Committed s)
          (fun _ _ _ hBefore hNext => hBefore.step (transition_of_step hNext)) hCommitted hRest
      exact absurd hLast h.not_committed
    · exact hKeeps
  · rw [Request.netChange_permits hRun, h.debt_eq_zero]
    rfl

end Requests

section Limits

variable {config : NotarizationConfig} {world : Collaborators} {s : State} {actions : List Action}

/-- A refused `POST /session` leaves the server as it was. -/
theorem sessionHandler_refused {sessionId : String} {body : SessionRequest} {rejection : Rejection}
    (h : (sessionHandler config s sessionId body).2 = .error rejection) :
    (sessionHandler config s sessionId body).1 = s := by
  obtain ⟨_, hRefused⟩ | ⟨_, hCreated⟩ := @sessionHandler_cases config s sessionId body
  · rw [hRefused]
  · rw [hCreated] at h
    cases h

/-- In every run the server stays within its limits: the session map, the permits
and, without panics, the counter of active notarizations, which is a `usize`.
Requests that were rejected have left no trace. -/
theorem server_capacity (hUsize : config.maxActiveSessions < UInt64.size)
    (hRun : run (step config world) (State.start config) actions = some s) :
    s.sessions.length ≤ config.maxPendingSessions ∧
      phaseCount NotarizePhase.verifying s.notarizations ≤
        phaseCount NotarizePhase.holdsPermit s.notarizations ∧
      s.permits + phaseCount NotarizePhase.holdsPermit s.notarizations =
        config.maxActiveSessions ∧
      (s.NoPanic →
        s.active = phaseCount NotarizePhase.counted s.notarizations ∧
          s.active ≤ config.maxActiveSessions ∧
          ∀ index s', step config world s (.stepNotarize index .decrementActive) = some s' →
            s'.active + 1 = s.active) ∧
      (∀ sessionId body rejection,
        (sessionHandler config s sessionId body).2 = .error rejection →
        (sessionHandler config s sessionId body).1 = s) ∧
      ∀ (request : Request) rejection, request.Rejected s rejection →
        (∀ s₁ action s₂, Takes (step config world) (State.start config) actions s₁ action s₂ →
            request.owns s₁ action = true → KeepsSessions s₁ s₂) ∧
          netChange (step config world) request.permitChange (State.start config) actions = 0 := by
  have hInv : CapacityInv config s := capacityInv_of_run hRun
  refine ⟨hInv.sessions, ?_, hInv.permits, fun hCalm => ?_, ?_, ?_⟩
  · exact phaseCount_mono fun _ _ => NotarizePhase.holdsPermit_of_verifying
  · obtain ⟨hActive, hBound⟩ := hInv.active_eq_counted hUsize hCalm
    exact ⟨hActive, hBound, fun _ _ hStep => hInv.decrement hUsize hCalm hStep⟩
  · exact fun _ _ _ hRefused => sessionHandler_refused hRefused
  · exact fun _ _ hRejected => hRejected.no_change hRun

end Limits

/-- A second client claims the session of a running verifier and is refused. -/
def conflictRun : List Action :=
  .postSession "b3f1" sampleBody :: claimActions "b3f1" ++
    [.getNotarize "b3f1", .lookUpSession 1, .stepNotarize 1 .claimVerifier]

theorem server_capacity_conflict :
    ∃ s rejection,
      run (step sampleConfig sampleWorld) (State.start sampleConfig) conflictRun = some s ∧
      s.NoPanic ∧ (Request.notarize 1).Rejected s rejection ∧ rejection.status = .conflict ∧
      s.active = 1 ∧ phaseCount NotarizePhase.counted s.notarizations = 1 ∧ s.permits = 1 ∧
      netChange (step sampleConfig sampleWorld) (Request.notarize 1).permitChange
        (State.start sampleConfig) conflictRun = 0 := by
  have hFinal : (run (step sampleConfig sampleWorld) (State.start sampleConfig) conflictRun).map
      State.notarizations = some [⟨"b3f1", .running 120000⟩,
        ⟨"b3f1", .rejected ⟨.conflict, "Session verifier already claimed: b3f1"⟩⟩] := by
    decide +kernel
  obtain ⟨s, hRun, hTasks⟩ := Option.map_eq_some_iff.mp hFinal
  have hCalm : s.NoPanic := by
    simp [State.NoPanic, hTasks]
  have hRejected : (Request.notarize 1).Rejected s
      ⟨.conflict, "Session verifier already claimed: b3f1"⟩ :=
    ⟨"b3f1", by rw [hTasks]; rfl⟩
  obtain ⟨_, _, hPermits, hCounter, _, hTraceless⟩ := server_capacity (by decide) hRun
  obtain ⟨hActive, _⟩ := hCounter hCalm
  rw [hTasks] at hPermits hActive
  refine ⟨s, _, hRun, hCalm, hRejected, rfl, hActive, by rw [hTasks]; rfl, ?_, ?_⟩
  · exact Nat.add_right_cancel hPermits
  · exact (hTraceless _ _ hRejected).2

end SettlementOracle
