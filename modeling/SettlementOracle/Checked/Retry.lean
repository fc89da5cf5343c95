import SettlementOracle.Checked.Ledger
import SettlementOracle.Checked.Transition

/-! Retry loops over a shared resource. Any number of tasks run at once. Each of them
sends its requests one after the other and waits in between, and every request draws
on the resource. -/
namespace Checked

/-- What a task does behind a reply. -/
inductive Verdict (ω : Type) where
  | again (delay : Nat)
  | done (result : ω)

/-- `draw` takes what a request needs from the resource. `verdict` reads the reply to
an attempt. -/
structure RetryLoop (κ χ μ ρ ω : Type) where
  resource : χ
  draw : χ → κ → Nat → μ × χ
  verdict : Nat → ρ → Verdict ω

/-- Where a task is. It is about to send its attempt when it is `ready`, and waits
behind the attempt when it is `sleeping`. -/
inductive TaskPhase (ω : Type) where
  | ready (attempt : Nat)
  | sent (attempt : Nat)
  | sleeping (attempt wakeAt : Nat)
  | ended (result : ω)
  deriving DecidableEq

/-- A request, with the task that sent it, its attempt and its time. -/
structure SentRequest (κ μ : Type) where
  caller : Nat
  key : κ
  attempt : Nat
  time : Nat
  request : μ
  deriving DecidableEq, Repr

structure Tasks (κ χ μ ω : Type) where
  now : Nat
  resource : χ
  tasks : List (Party κ (TaskPhase ω))
  log : List (SentRequest κ μ)

inductive TaskAction (κ ρ : Type) where
  | tick (elapsed : Nat)
  | spawn (key : κ)
  | send (index : Nat)
  | reply (index : Nat) (reply : ρ)
  | wake (index : Nat)

section Machine

variable {κ χ μ ρ ω : Type}

def Verdict.phase (now attempt : Nat) : Verdict ω → TaskPhase ω
  | .again delay => .sleeping attempt (now + delay)
  | .done result => .ended result

def Tasks.set (s : Tasks κ χ μ ω) (index : Nat) (key : κ) (phase : TaskPhase ω) : Tasks κ χ μ ω :=
  { s with tasks := s.tasks.set index ⟨key, phase⟩ }

/-- A task draws its request and sends it, in one step. The log has the requests in the
order of the draws, in which they need not reach the server. -/
def RetryLoop.sending (loop : RetryLoop κ χ μ ρ ω) (s : Tasks κ χ μ ω) (index : Nat) (key : κ)
    (attempt : Nat) : Tasks κ χ μ ω :=
  let (request, resource) := loop.draw s.resource key attempt
  { s.set index key (.sent attempt) with
    resource
    log := s.log ++ [⟨index, key, attempt, s.now, request⟩] }

def RetryLoop.start (loop : RetryLoop κ χ μ ρ ω) : Tasks κ χ μ ω where
  now := 0
  resource := loop.resource
  tasks := []
  log := []

/-- One step of one of the tasks. -/
def RetryLoop.step (loop : RetryLoop κ χ μ ρ ω) (s : Tasks κ χ μ ω) :
    TaskAction κ ρ → Option (Tasks κ χ μ ω)
  | .tick elapsed => some { s with now := s.now + elapsed }
  | .spawn key => some { s with tasks := s.tasks ++ [⟨key, .ready 0⟩] }
  | .send index =>
      match s.tasks[index]? with
      | some ⟨key, .ready attempt⟩ => some (loop.sending s index key attempt)
      | _ => none
  | .reply index reply =>
      match s.tasks[index]? with
      | some ⟨key, .sent attempt⟩ =>
          some (s.set index key ((loop.verdict attempt reply).phase s.now attempt))
      | _ => none
  | .wake index =>
      match s.tasks[index]? with
      | some ⟨key, .sleeping attempt wakeAt⟩ =>
          if wakeAt ≤ s.now then some (s.set index key (.ready (attempt + 1))) else none
      | _ => none

/-- What one step can do. -/
inductive RetryLoop.Move (loop : RetryLoop κ χ μ ρ ω) (s : Tasks κ χ μ ω) :
    TaskAction κ ρ → Tasks κ χ μ ω → Prop where
  | tick (elapsed : Nat) : loop.Move s (.tick elapsed) { s with now := s.now + elapsed }
  | spawn (key : κ) : loop.Move s (.spawn key) { s with tasks := s.tasks ++ [⟨key, .ready 0⟩] }
  | send {index attempt : Nat} {key : κ} (hTask : s.tasks[index]? = some ⟨key, .ready attempt⟩) :
      loop.Move s (.send index) (loop.sending s index key attempt)
  | reply {index attempt : Nat} {key : κ} {reply : ρ}
      (hTask : s.tasks[index]? = some ⟨key, .sent attempt⟩) :
      loop.Move s (.reply index reply)
        (s.set index key ((loop.verdict attempt reply).phase s.now attempt))
  | wake {index attempt wakeAt : Nat} {key : κ}
      (hTask : s.tasks[index]? = some ⟨key, .sleeping attempt wakeAt⟩) (hTime : wakeAt ≤ s.now) :
      loop.Move s (.wake index) (s.set index key (.ready (attempt + 1)))

variable {loop : RetryLoop κ χ μ ρ ω} {s s' : Tasks κ χ μ ω} {action : TaskAction κ ρ}
  {actions : List (TaskAction κ ρ)} {index : Nat}

theorem RetryLoop.move_of_step (h : loop.step s action = some s') : loop.Move s action s' := by
  unfold RetryLoop.step at h
  split at h
  · cases h
    exact .tick _
  · cases h
    exact .spawn _
  · split at h
    · cases h
      exact .send ‹_›
    · cases h
  · split at h
    · cases h
      exact .reply ‹_›
    · cases h
  · split at h
    · split at h
      · cases h
        exact .wake ‹_› ‹_›
      · cases h
    · cases h

theorem RetryLoop.Move.step (h : loop.Move s action s') : loop.step s action = some s' := by
  cases h with
  | tick | spawn => rfl
  | send hTask | reply hTask => simp [RetryLoop.step, hTask]
  | wake hTask hTime => simp [RetryLoop.step, hTask, hTime]

end Machine

section Replies

variable {κ χ μ ρ ω : Type} {loop : RetryLoop κ χ μ ρ ω} {s s' : Tasks κ χ μ ω}
  {action : TaskAction κ ρ} {actions : List (TaskAction κ ρ)} {index : Nat}
  {R : List ρ → TaskPhase ω → Prop}

/-- The replies that task `index` gets in a run. -/
def repliesTo (index : Nat) (actions : List (TaskAction κ ρ)) : List ρ :=
  actions.filterMap fun
    | .reply other reply => if other = index then some reply else none
    | _ => none

theorem repliesTo_snoc (index : Nat) (actions : List (TaskAction κ ρ)) (action : TaskAction κ ρ) :
    repliesTo index (actions ++ [action]) =
      repliesTo index actions ++ repliesTo index [action] := by
  simp [repliesTo]

section Single

variable (index other : Nat)

@[simp] theorem repliesTo_tick (elapsed : Nat) :
    repliesTo index [(.tick elapsed : TaskAction κ ρ)] = [] := rfl

@[simp] theorem repliesTo_spawn (key : κ) :
    repliesTo index [(.spawn key : TaskAction κ ρ)] = [] := rfl

@[simp] theorem repliesTo_send : repliesTo index [(.send other : TaskAction κ ρ)] = [] := rfl

@[simp] theorem repliesTo_wake : repliesTo index [(.wake other : TaskAction κ ρ)] = [] := rfl

@[simp] theorem repliesTo_reply (reply : ρ) :
    repliesTo index [(.reply other reply : TaskAction κ ρ)] =
      if other = index then [reply] else [] := by
  split <;> simp [repliesTo, *]

end Single

/-- What holds of the replies so far and of the place of a task in its loop. -/
structure RetryLoop.Rule (loop : RetryLoop κ χ μ ρ ω) (R : List ρ → TaskPhase ω → Prop) : Prop where
  start : R [] (.ready 0)
  send : ∀ replies attempt, R replies (.ready attempt) → R replies (.sent attempt)
  reply : ∀ replies now attempt reply, R replies (.sent attempt) →
    R (replies ++ [reply]) ((loop.verdict attempt reply).phase now attempt)
  wake : ∀ replies attempt wakeAt, R replies (.sleeping attempt wakeAt) →
    R replies (.ready (attempt + 1))

/-- A task that has not started has no replies. -/
def Follows (R : List ρ → TaskPhase ω → Prop) (replies : List ρ) :
    Option (Party κ (TaskPhase ω)) → Prop
  | none => replies = []
  | some task => R replies task.phase

theorem RetryLoop.Rule.follows_step (rule : loop.Rule R)
    (h : Follows R (repliesTo index actions) s.tasks[index]?) (hMove : loop.Move s action s') :
    Follows R (repliesTo index (actions ++ [action])) s'.tasks[index]? := by
  -- a step of another task changes neither the replies to this one nor its phase
  have hOther : ∀ {other : Nat} {task : Party κ (TaskPhase ω)}, other ≠ index →
      Follows R (repliesTo index actions) (s.tasks.set other task)[index]? := by
    intro other task hNe
    rw [List.getElem?_set_ne hNe]
    exact h
  have hSelf : ∀ {key : κ} {old new : TaskPhase ω} {replies : List ρ},
      s.tasks[index]? = some ⟨key, old⟩ → (R (repliesTo index actions) old → R replies new) →
      Follows R replies (s.tasks.set index ⟨key, new⟩)[index]? := by
    intro key old new replies hTask hRule
    rw [hTask] at h
    rw [List.getElem?_set_self (List.getElem?_eq_some_iff.mp hTask).1]
    exact hRule h
  rw [repliesTo_snoc]
  cases hMove with
  | tick => simpa using h
  | spawn key =>
      rw [repliesTo_spawn, List.append_nil]
      cases hOld : s.tasks[index]? with
      | some task =>
          rw [List.getElem?_append_left (List.getElem?_eq_some_iff.mp hOld).1, hOld, ← hOld]
          exact h
      | none =>
          rw [hOld] at h
          rw [List.getElem?_append_right (List.getElem?_eq_none_iff.mp hOld)]
          cases index - s.tasks.length with
          | zero =>
              rw [show repliesTo index actions = [] from h]
              exact rule.start
          | succ k => exact h
  | @send other attempt key hTask =>
      rw [repliesTo_send, List.append_nil]
      rcases eq_or_ne other index with rfl | hNe
      · exact hSelf hTask (rule.send _ _)
      · exact hOther hNe
  | @reply other attempt key reply hTask =>
      rw [repliesTo_reply]
      rcases eq_or_ne other index with rfl | hNe
      · rw [if_pos rfl]
        exact hSelf hTask (rule.reply _ _ _ _)
      · rw [if_neg hNe, List.append_nil]
        exact hOther hNe
  | @wake other attempt wakeAt key hTask =>
      rw [repliesTo_wake, List.append_nil]
      rcases eq_or_ne other index with rfl | hNe
      · exact hSelf hTask (rule.wake _ _ _)
      · exact hOther hNe

/-- A rule of the loop holds of every task of every run, whatever the other tasks do. -/
theorem RetryLoop.Rule.of_run (rule : loop.Rule R) {task : Party κ (TaskPhase ω)}
    (hRun : run loop.step loop.start actions = some s) (hTask : s.tasks[index]? = some task) :
    R (repliesTo index actions) task.phase := by
  have hFollows : Follows R (repliesTo index actions) s.tasks[index]? := by
    clear hTask
    induction actions using List.reverseRecOn generalizing s with
    | nil =>
        obtain rfl : loop.start = s := Option.some.inj hRun
        rfl
    | append_singleton actions action ih =>
        obtain ⟨middle, hBefore, hNext⟩ := run_snoc_eq_some.mp hRun
        exact rule.follows_step (ih hBefore) (RetryLoop.move_of_step hNext)
  rw [hTask] at hFollows
  exact hFollows

end Replies

section Requests

variable {κ χ μ ρ ω : Type} {loop : RetryLoop κ χ μ ρ ω} {s s' : Tasks κ χ μ ω}
  {action : TaskAction κ ρ} {actions : List (TaskAction κ ρ)} {index limit now : Nat}
  {wait : Nat → Nat}

/-- The requests of one task. -/
def Tasks.requestsOf (s : Tasks κ χ μ ω) (index : Nat) : List (SentRequest κ μ) :=
  s.log.filter fun sent => sent.caller = index

/-- The loop makes at most `limit` attempts, and waits at least so long behind each. -/
structure RetryLoop.Bounded (loop : RetryLoop κ χ μ ρ ω) (wait : Nat → Nat) (limit : Nat) :
    Prop where
  pos : 0 < limit
  again : ∀ attempt reply delay, loop.verdict attempt reply = .again delay →
    attempt + 1 < limit ∧ wait attempt ≤ delay

/-- Two requests of one task have the wait between them. -/
def Spaced (wait : Nat → Nat) (earlier later : SentRequest κ μ) : Prop :=
  earlier.caller = later.caller → earlier.time + wait earlier.attempt ≤ later.time

/-- What the phase of a task says about the requests it has sent. -/
def TaskPhase.Accounts (wait : Nat → Nat) (limit now : Nat) (own : List (SentRequest κ μ)) :
    TaskPhase ω → Prop
  | .ready attempt => own.map SentRequest.attempt = List.range attempt ∧ attempt < limit ∧
      ∀ sent ∈ own, sent.time + wait sent.attempt ≤ now
  | .sent attempt => own.map SentRequest.attempt = List.range (attempt + 1) ∧ attempt < limit ∧
      ∀ sent ∈ own, (sent.attempt = attempt ∧ sent.time ≤ now) ∨
        sent.time + wait sent.attempt ≤ now
  | .sleeping attempt wakeAt => own.map SentRequest.attempt = List.range (attempt + 1) ∧
      attempt + 1 < limit ∧ ∀ sent ∈ own, sent.time + wait sent.attempt ≤ wakeAt
  | .ended _ => ∃ count ≤ limit, own.map SentRequest.attempt = List.range count

structure LogInv (wait : Nat → Nat) (limit : Nat) (s : Tasks κ χ μ ω) : Prop where
  known : ∀ sent ∈ s.log, ∃ phase, s.tasks[sent.caller]? = some ⟨sent.key, phase⟩
  spaced : s.log.Pairwise (Spaced wait)
  phases : ∀ (index : Nat) (task : Party κ (TaskPhase ω)), s.tasks[index]? = some task →
    task.phase.Accounts wait limit s.now (s.requestsOf index)

theorem TaskPhase.Accounts.later {phase : TaskPhase ω} {own : List (SentRequest κ μ)}
    (h : phase.Accounts wait limit now own) (elapsed : Nat) :
    phase.Accounts wait limit (now + elapsed) own := by
  cases phase with
  | ready attempt =>
      refine ⟨h.1, h.2.1, fun sent hMem => ?_⟩
      have hTime := h.2.2 sent hMem
      omega
  | sent attempt =>
      refine ⟨h.1, h.2.1, fun sent hMem => ?_⟩
      have hTime := h.2.2 sent hMem
      omega
  | sleeping | ended => exact h

theorem TaskPhase.Accounts.verdict {attempt : Nat} {own : List (SentRequest κ μ)} {reply : ρ}
    (hBounded : loop.Bounded wait limit)
    (h : (TaskPhase.sent attempt : TaskPhase ω).Accounts wait limit now own) :
    ((loop.verdict attempt reply).phase now attempt).Accounts wait limit now own := by
  obtain ⟨hAttempts, hLimit, hTimes⟩ := h
  cases hVerdict : loop.verdict attempt reply with
  | again delay =>
      obtain ⟨hMore, hWait⟩ := hBounded.again attempt reply delay hVerdict
      refine ⟨hAttempts, hMore, fun sent hMem => ?_⟩
      obtain ⟨rfl, hTime⟩ | hTime := hTimes sent hMem
      · exact Nat.add_le_add hTime hWait
      · exact Nat.le_trans hTime (Nat.le_add_right now delay)
  | done result => exact ⟨attempt + 1, hLimit, hAttempts⟩

/-- A task changes its phase and nothing is sent. -/
theorem LogInv.set (h : LogInv wait limit s) {key : κ} {old phase : TaskPhase ω}
    (hTask : s.tasks[index]? = some ⟨key, old⟩)
    (hPhase : phase.Accounts wait limit s.now (s.requestsOf index)) :
    LogInv wait limit (s.set index key phase) where
  known sent hMem := by
    obtain ⟨ownPhase, hOwner⟩ := h.known sent hMem
    simp only [Tasks.set]
    rcases eq_or_ne index sent.caller with rfl | hNe
    · cases hTask.symm.trans hOwner
      exact ⟨phase, List.getElem?_set_self (List.getElem?_eq_some_iff.mp hTask).1⟩
    · exact ⟨ownPhase, (List.getElem?_set_ne hNe).trans hOwner⟩
  spaced := h.spaced
  phases other task hOther := by
    obtain ⟨rfl, rfl⟩ | hOld := getElem?_set_cases hOther
    · exact hPhase
    · exact h.phases other task hOld

theorem LogInv.send (h : LogInv wait limit s) {key : κ} {attempt : Nat}
    (hTask : s.tasks[index]? = some ⟨key, .ready attempt⟩) :
    LogInv wait limit (loop.sending s index key attempt) := by
  have hInside := (List.getElem?_eq_some_iff.mp hTask).1
  obtain ⟨hAttempts, hLimit, hTimes⟩ := h.phases index _ hTask
  have hOwn : (s.set index key (.sent attempt)).tasks[index]? = some ⟨key, .sent attempt⟩ :=
    List.getElem?_set_self hInside
  constructor
  · intro sent hMem
    obtain hOld | hNew := List.mem_append.mp hMem
    · obtain ⟨phase, hOwner⟩ := h.known sent hOld
      rcases eq_or_ne index sent.caller with rfl | hNe
      · cases hTask.symm.trans hOwner
        exact ⟨_, hOwn⟩
      · exact ⟨phase, (List.getElem?_set_ne hNe).trans hOwner⟩
    · obtain rfl := List.mem_singleton.mp hNew
      exact ⟨_, hOwn⟩
  · refine List.pairwise_append.mpr ⟨h.spaced, List.pairwise_singleton _ _, ?_⟩
    intro earlier hEarlier later hLater hCaller
    obtain rfl := List.mem_singleton.mp hLater
    exact hTimes earlier (List.mem_filter.mpr ⟨hEarlier, by simpa using hCaller⟩)
  · intro other task hOther
    rcases eq_or_ne index other with rfl | hNe
    · obtain rfl := Option.some.inj (hOwn.symm.trans hOther)
      refine ⟨?_, hLimit, fun sent hMem => ?_⟩
      · simpa [RetryLoop.sending, Tasks.requestsOf, List.range_succ] using hAttempts
      · obtain ⟨hMem, hCaller⟩ := List.mem_filter.mp hMem
        obtain hOld | hNew := List.mem_append.mp hMem
        · exact Or.inr (hTimes sent (List.mem_filter.mpr ⟨hOld, hCaller⟩))
        · obtain rfl := List.mem_singleton.mp hNew
          exact Or.inl ⟨rfl, Nat.le_refl _⟩
    · have hOld : s.tasks[other]? = some task := (List.getElem?_set_ne hNe).symm.trans hOther
      have hSame : (loop.sending s index key attempt).requestsOf other = s.requestsOf other := by
        simp [RetryLoop.sending, Tasks.requestsOf, hNe]
      rw [hSame]
      exact h.phases other task hOld

theorem LogInv.spawn (h : LogInv wait limit s) (hPos : 0 < limit) (key : κ) :
    LogInv wait limit { s with tasks := s.tasks ++ [⟨key, .ready 0⟩] } where
  known sent hMem := by
    obtain ⟨phase, hOwner⟩ := h.known sent hMem
    exact ⟨phase, (List.getElem?_append_left (List.getElem?_eq_some_iff.mp hOwner).1).trans hOwner⟩
  spaced := h.spaced
  phases other task hOther := by
    rcases Nat.lt_or_ge other s.tasks.length with hInside | hBeyond
    · exact h.phases other task ((List.getElem?_append_left hInside).symm.trans hOther)
    · -- a request of a task that does not exist yet would be unknown
      have hNone : s.requestsOf other = [] := by
        refine List.filter_eq_nil_iff.mpr fun sent hMem hCaller => ?_
        obtain ⟨phase, hOwner⟩ := h.known sent hMem
        have hLess := (List.getElem?_eq_some_iff.mp hOwner).1
        simp only [decide_eq_true_eq] at hCaller
        omega
      rw [List.getElem?_append_right hBeyond] at hOther
      obtain rfl := List.mem_singleton.mp (List.mem_of_getElem? hOther)
      refine ⟨?_, hPos, fun sent hMem => ?_⟩
      · exact congrArg (List.map _) hNone
      · exact absurd (hNone ▸ hMem) List.not_mem_nil

theorem LogInv.step (hBounded : loop.Bounded wait limit) (h : LogInv wait limit s)
    (hMove : loop.Move s action s') : LogInv wait limit s' := by
  cases hMove with
  | tick elapsed =>
      exact ⟨h.known, h.spaced, fun index task hTask => (h.phases index task hTask).later elapsed⟩
  | spawn key => exact h.spawn hBounded.pos key
  | send hTask => exact h.send hTask
  | reply hTask => exact h.set hTask ((h.phases _ _ hTask).verdict hBounded)
  | wake hTask hTime =>
      obtain ⟨hAttempts, hLimit, hTimes⟩ := h.phases _ _ hTask
      exact h.set hTask ⟨hAttempts, hLimit, fun sent hMem => Nat.le_trans (hTimes sent hMem) hTime⟩

theorem logInv_of_run (hBounded : loop.Bounded wait limit)
    (hRun : run loop.step loop.start actions = some s) : LogInv wait limit s := by
  refine run_invariant (fun _ _ _ h hStep => h.step hBounded (RetryLoop.move_of_step hStep)) ?_ hRun
  exact ⟨nofun, .nil, nofun⟩

/-- A task sends its attempts one by one, and no more than the limit. -/
theorem LogInv.requestsOf (h : LogInv wait limit s) (index : Nat) :
    ∃ count ≤ limit, (s.requestsOf index).map SentRequest.attempt = List.range count := by
  cases hTask : s.tasks[index]? with
  | none =>
      refine ⟨0, Nat.zero_le limit, ?_⟩
      rw [show s.requestsOf index = [] from List.filter_eq_nil_iff.mpr fun sent hMem hCaller => ?_]
      · rfl
      · obtain ⟨phase, hOwner⟩ := h.known sent hMem
        simp only [decide_eq_true_eq] at hCaller
        rw [hCaller, hTask] at hOwner
        cases hOwner
  | some task =>
      obtain ⟨key, phase⟩ := task
      have hPhase := h.phases index _ hTask
      cases phase with
      | ready attempt => exact ⟨attempt, Nat.le_of_lt hPhase.2.1, hPhase.1⟩
      | sent attempt => exact ⟨attempt + 1, hPhase.2.1, hPhase.1⟩
      | sleeping attempt => exact ⟨attempt + 1, Nat.le_of_lt hPhase.2.1, hPhase.1⟩
      | ended => exact hPhase

/-- All tasks together send no more than the limit for each of them. -/
theorem LogInv.length_log_le (h : LogInv wait limit s) : s.log.length ≤ limit * s.tasks.length := by
  have hFirst : ∀ n, (s.log.countP fun sent => sent.caller < n) ≤ limit * n := by
    intro n
    induction n with
    | zero => simp
    | succ n ih =>
        obtain ⟨count, hCount, hAttempts⟩ := h.requestsOf n
        have hOwn : (s.log.countP fun sent => sent.caller = n) = count := by
          have hLength := congrArg List.length hAttempts
          rwa [List.length_map, List.length_range, Tasks.requestsOf, ← List.countP_eq_length_filter]
            at hLength
        have hSplit : (s.log.countP fun sent => sent.caller < n + 1) =
            (s.log.countP fun sent => sent.caller < n) +
              s.log.countP fun sent => sent.caller = n := by
          clear hOwn hAttempts ih
          induction s.log with
          | nil => rfl
          | cons sent rest ih =>
              simp only [List.countP_cons, ih, decide_eq_true_eq]
              split_ifs <;> omega
        rw [hSplit, hOwn, Nat.mul_succ]
        exact Nat.add_le_add ih hCount
  have hAll : (s.log.countP fun sent => sent.caller < s.tasks.length) = s.log.length := by
    refine List.countP_eq_length.mpr fun sent hMem => ?_
    obtain ⟨phase, hOwner⟩ := h.known sent hMem
    simpa using (List.getElem?_eq_some_iff.mp hOwner).1
  exact hAll ▸ hFirst s.tasks.length

/-- What every draw preserves holds of the requests and the resource of every run. -/
theorem resource_of_run {P : List (SentRequest κ μ) → χ → Prop} (hStart : P [] loop.resource)
    (hDraw : ∀ log resource caller key attempt time, P log resource →
      P (log ++ [SentRequest.mk caller key attempt time (loop.draw resource key attempt).1])
        (loop.draw resource key attempt).2)
    (hRun : run loop.step loop.start actions = some s) : P s.log s.resource := by
  refine run_invariant (P := fun s => P s.log s.resource) ?_ hStart hRun
  intro s action next h hStep
  cases RetryLoop.move_of_step hStep with
  | send => exact hDraw _ _ _ _ _ _ h
  | tick | spawn | reply | wake => exact h

end Requests

end Checked
