import SettlementOracle.Settlement.RpcClient

/-! What a call of the chain reader returns, in terms of the replies it gets. The
retry loop of the client refines the abstract call of the escrow read. -/
namespace SettlementOracle.Rpc

open Checked

/-- Where a call stands in its loop, in terms of the replies it got. -/
def Stands (replies : List Reply) : TaskPhase (Except String (List UInt8)) → Prop
  | .ready attempt | .sent attempt =>
      replies.length = attempt ∧ attempt < maxRetries ∧ ∀ reply ∈ replies, Transient reply
  | .sleeping attempt _ =>
      replies.length = attempt + 1 ∧ attempt + 1 < maxRetries ∧ ∀ reply ∈ replies, Transient reply
  | .ended result => ∃ (retried : List Reply) (last : Reply), replies = retried ++ [last] ∧
      retried.length < maxRetries ∧
      (∀ reply ∈ retried, Transient reply) ∧ (Transient last → retried.length + 1 = maxRetries) ∧
      ∀ bytes, result = .ok bytes ↔ Tells last bytes

section Returns

variable {printer : Printer} {s : Tasks Call UInt64 Request (Except String (List UInt8))}
  {actions : List (TaskAction Call Reply)} {now index attempt : Nat} {replies : List Reply}

theorem stands_reply (printer : Printer) (reply : Reply) (h : Stands replies (.sent attempt)) :
    Stands (replies ++ [reply])
      (((ethCallLoop printer).verdict attempt reply).phase now attempt) := by
  obtain ⟨rfl, hBound, hRetried⟩ := h
  have hTells : ∀ bytes, outcome printer reply = .done bytes ↔ Tells reply bytes :=
    fun _ => outcome_eq_done_iff
  have hRetry : (∃ message, outcome printer reply = .retry message) ↔ Transient reply :=
    exists_retry_iff
  simp only [ethCallLoop]
  cases hOutcome : outcome printer reply with
  | retry message =>
      rw [hOutcome] at hTells hRetry
      dsimp only
      split
      · refine ⟨by simp, ‹_›, fun old hOld => ?_⟩
        obtain hOld | hOld := List.mem_append.mp hOld
        · exact hRetried old hOld
        · rw [List.mem_singleton.mp hOld]
          exact hRetry.mp ⟨message, rfl⟩
      · refine ⟨replies, reply, rfl, hBound, hRetried, fun _ => by omega, fun bytes => ?_⟩
        simpa using hTells bytes
  | fail | done =>
      rw [hOutcome] at hTells hRetry
      have hNot : ¬Transient reply := by simpa using hRetry
      refine ⟨replies, reply, rfl, hBound, hRetried, fun h => absurd h hNot, fun bytes => ?_⟩
      simpa using hTells bytes

theorem stands_rule (printer : Printer) : (ethCallLoop printer).Rule Stands where
  start := ⟨rfl, by decide, fun _ hMem => absurd hMem List.not_mem_nil⟩
  send _ _ h := h
  reply _ _ _ reply h := stands_reply printer reply h
  wake _ _ _ h := h

/-- In every run of the client, a call that has returned got transient replies, two at
most, and one more. It returns bytes exactly if that last reply tells them. A transient
reply is the last one behind two others only. -/
theorem ethCall_returns_iff {call : Call} {result : Except String (List UInt8)}
    (hRun : run (ethCallLoop printer).step (ethCallLoop printer).start actions = some s)
    (hCall : s.tasks[index]? = some ⟨call, .ended result⟩) :
    ∃ (retried : List Reply) (last : Reply), repliesTo index actions = retried ++ [last] ∧
      retried.length ≤ 2 ∧
      (∀ reply ∈ retried, Transient reply) ∧ (Transient last → retried.length = 2) ∧
      ∀ bytes, result = .ok bytes ↔ Tells last bytes := by
  obtain ⟨retried, last, hReplies, hBound, hRetried, hLast, hResult⟩ :=
    (stands_rule printer).of_run hRun hCall
  refine ⟨retried, last, hReplies, Nat.le_of_lt_succ hBound, hRetried, ?_, hResult⟩
  intro hTransient
  exact Nat.succ.inj (hLast hTransient)

theorem interleavedRun_returns : ∃ s call,
    run (ethCallLoop samplePrinter).step (ethCallLoop samplePrinter).start interleavedRun = some s ∧
      s.tasks[0]? = some ⟨call, .ended (.ok windowBytes)⟩ := by
  have hPhase : ((run (ethCallLoop samplePrinter).step (ethCallLoop samplePrinter).start
      interleavedRun).bind fun s => s.tasks[0]?.map Party.phase) =
        some (.ended (.ok windowBytes)) := by
    decide +kernel
  obtain ⟨s, hRun, hEnded⟩ := Option.bind_eq_some_iff.mp hPhase
  obtain ⟨⟨call, phase⟩, hCall, rfl⟩ := Option.map_eq_some_iff.mp hEnded
  exact ⟨s, call, hRun, hCall⟩

theorem ethCall_returns_iff_interleaved :
    ∃ (retried : List Reply) (last : Reply), repliesTo 0 interleavedRun = retried ++ [last] ∧
      retried.length ≤ 2 ∧
      Tells last windowBytes := by
  obtain ⟨s, call, hRun, hCall⟩ := interleavedRun_returns
  obtain ⟨retried, last, hReplies, hLength, _, _, hResult⟩ := ethCall_returns_iff hRun hCall
  exact ⟨retried, last, hReplies, hLength, (hResult windowBytes).mp rfl⟩

end Returns

/-- What the caller makes of the bytes of a call. -/
def callResult {α : Type} (decode : List UInt8 → Except String α) :
    Except String (List UInt8) → CallResult α
  | .error message => .error (.transport message)
  | .ok bytes =>
      match decode bytes with
      | .ok value => .ok value
      | .error message => .error (.decode message)

/-- The attempt of the abstract call that a reply stands for. -/
def attemptOf {α : Type} (printer : Printer) (decode : List UInt8 → Except String α) :
    Reply → Attempt
  | .error e => .sendFailed e
  | .ok response =>
      match outcome printer (.ok response) with
      | .retry _ => .httpStatus response.statusText
      | .fail message => .failed message
      | .done bytes =>
          match decode bytes with
          | .ok _ => .served
          | .error message => .undecodable message

/-- The abstract call stands where the call of the client does. -/
def Refines {α : Type} (decode : List UInt8 → Except String α) (call : EthCall α) :
    TaskPhase (Except String (List UInt8)) → Prop
  | .ready attempt | .sent attempt => call.answer = none ∧ call.attempts = attempt
  | .sleeping attempt _ => call.answer = none ∧ call.attempts = attempt + 1
  | .ended result => call.result = some (callResult decode result)

/-- The abstract call on a list of attempts, each with the value that the chain
has at its time and the position of that time. -/
def attempts {α : Type} : EthCall α → List (Attempt × α × Nat) → Option (EthCall α) :=
  run fun call (attempt, value, servedAt) => call.attempt value servedAt attempt

/-- The replies to a call, as attempts of the abstract call. `view` tells what the
chain has when each of them is served. -/
def attemptsOf {α : Type} (printer : Printer) (decode : List UInt8 → Except String α)
    (view : Nat → α × Nat) (replies : List Reply) : List (Attempt × α × Nat) :=
  replies.mapIdx fun k reply => (attemptOf printer decode reply, view k)

/-- A reply that decodes tells the value that the chain has. -/
def Honest {α : Type} (printer : Printer) (decode : List UInt8 → Except String α) (value : α)
    (reply : Reply) : Prop :=
  ∀ bytes found, outcome printer reply = .done bytes → decode bytes = .ok found → found = value

section Refinement

variable {α : Type} {printer : Printer} {decode : List UInt8 → Except String α}
  {s : Tasks Call UInt64 Request (Except String (List UInt8))}
  {actions : List (TaskAction Call Reply)} {call : EthCall α} {value : α}
  {now servedAt index attempt : Nat} {reply : Reply}

/-- A response is retried for its status only. -/
theorem message_of_retry {response : HttpResponse} {message : String}
    (h : outcome printer (.ok response) = .retry message) :
    message = "RPC HTTP " ++ response.statusText := by
  simp only [outcome] at h
  split at h
  · exact (Outcome.retry.inj h).symm
  · split at h
    · cases h
    · exact absurd h (readDocument_ne_retry printer _ message)

/-- A transient reply is one more attempt, or the last error. -/
theorem refines_retry (hOpen : call.answer = none) {message : String}
    (hOutcome : outcome printer reply = .retry message) :
    Refines decode (call.retry message servedAt)
      (((ethCallLoop printer).verdict call.attempts reply).phase now call.attempts) := by
  simp only [ethCallLoop, hOutcome, EthCall.retry]
  split
  · exact ⟨hOpen, rfl⟩
  · rfl

/-- One round of the retry loop is one attempt of the abstract call. -/
theorem refines_reply (now servedAt : Nat) (h : Refines decode call (.sent attempt))
    (hHonest : Honest printer decode value reply) :
    ∃ call', call.attempt value servedAt (attemptOf printer decode reply) = some call' ∧
      Refines decode call' (((ethCallLoop printer).verdict attempt reply).phase now attempt) := by
  obtain ⟨hOpen, rfl⟩ := h
  cases reply with
  | error e =>
      refine ⟨call.retry ("RPC request failed: " ++ e) servedAt, ?_, refines_retry hOpen rfl⟩
      simp [EthCall.attempt, attemptOf, hOpen]
  | ok response =>
      cases hOutcome : outcome printer (.ok response) with
      | retry message =>
          obtain rfl := message_of_retry hOutcome
          refine ⟨call.retry ("RPC HTTP " ++ response.statusText) servedAt, ?_,
            refines_retry hOpen hOutcome⟩
          simp [EthCall.attempt, attemptOf, hOpen, hOutcome]
      | fail message =>
          refine ⟨call.finish (.error (.transport message)) servedAt, ?_, ?_⟩
          · simp [EthCall.attempt, attemptOf, hOpen, hOutcome]
          · simp only [ethCallLoop, hOutcome]
            rfl
      | done bytes =>
          have hResult : Refines decode (call.finish (callResult decode (.ok bytes)) servedAt)
              (((ethCallLoop printer).verdict call.attempts (.ok response)).phase now
                call.attempts) := by
            simp only [ethCallLoop, hOutcome]
            rfl
          refine ⟨_, ?_, hResult⟩
          cases hDecode : decode bytes with
          | ok found =>
              obtain rfl := hHonest bytes found hOutcome hDecode
              simp [EthCall.attempt, attemptOf, hOpen, hOutcome, hDecode, callResult]
          | error message =>
              simp [EthCall.attempt, attemptOf, hOpen, hOutcome, hDecode, callResult]

/-- Behind honest replies, the abstract call stands where the call does. -/
theorem refinement_rule (printer : Printer) (decode : List UInt8 → Except String α)
    (view : Nat → α × Nat) : (ethCallLoop printer).Rule fun replies phase =>
      (∀ k reply, replies[k]? = some reply → Honest printer decode (view k).1 reply) →
        ∃ call, attempts .start (attemptsOf printer decode view replies) = some call ∧
          Refines decode call phase where
  start _ := ⟨.start, rfl, rfl, rfl⟩
  send replies attempt h hHonest := h hHonest
  reply replies now attempt reply h hHonest := by
    obtain ⟨call, hCall, hPhase⟩ := h fun k old hOld => hHonest k old (by
      rw [List.getElem?_append_left (List.getElem?_eq_some_iff.mp hOld).1, hOld])
    have hReply := hHonest replies.length reply List.getElem?_concat_length
    obtain ⟨call', hAttempt, hNext⟩ := refines_reply now (view replies.length).2 hPhase hReply
    refine ⟨call', ?_, hNext⟩
    rw [attemptsOf, List.mapIdx_concat]
    exact run_snoc_eq_some.mpr ⟨call, hCall, hAttempt⟩
  wake replies attempt wakeAt h hHonest := h hHonest

/-- The retry loop of the client refines the abstract call. In every run of the
client, each call stands where the abstract call stands behind the same replies, and
what it returns is what the abstract call answers. -/
theorem ethCall_refines {task : Party Call (TaskPhase (Except String (List UInt8)))}
    (decode : List UInt8 → Except String α) (view : Nat → α × Nat)
    (hRun : run (ethCallLoop printer).step (ethCallLoop printer).start actions = some s)
    (hTask : s.tasks[index]? = some task)
    (hHonest : ∀ k reply, (repliesTo index actions)[k]? = some reply →
      Honest printer decode (view k).1 reply) :
    ∃ call, attempts .start (attemptsOf printer decode view (repliesTo index actions)) = some call ∧
      Refines decode call task.phase :=
  (refinement_rule printer decode view).of_run hRun hTask hHonest

/-- A `uint256` is the first word of the returned data. -/
def decodeWord (bytes : List UInt8) : Except String (BitVec 256) :=
  if bytes.length < 32 then .error "buffer overrun while deserializing"
  else .ok (BitVec.ofNat 256 ((bytes.take 32).foldl (fun value b => 256 * value + b.toNat) 0))

theorem decodeWord_windowBytes : decodeWord windowBytes = .ok 604800 := by rfl

theorem ethCall_refines_interleaved :
    ∃ call, attempts .start (attemptsOf samplePrinter decodeWord (fun k => (604800, k))
      (repliesTo 0 interleavedRun)) = some call ∧ call.result = some (.ok 604800) := by
  obtain ⟨s, owner, hRun, hCall⟩ := interleavedRun_returns
  have hHonest : ∀ (k : Nat) (reply : Reply), (repliesTo 0 interleavedRun)[k]? = some reply →
      Honest samplePrinter decodeWord (604800, k).1 reply := by
    intro k reply hReply bytes found hOutcome hDecode
    match k, hReply with
    | 0, rfl => cases hOutcome
    | 1, rfl =>
        have hDone : outcome samplePrinter (.ok ⟨200, "200 OK",
            .ok (.object [("result", .string windowResult)])⟩) = .done windowBytes := by
          decide +kernel
        cases hDone.symm.trans hOutcome
        cases decodeWord_windowBytes.symm.trans hDecode
        rfl
    | k + 2, hNone => simp [interleavedRun, repliesTo] at hNone
  obtain ⟨call, hAttempts, hRefines⟩ :=
    ethCall_refines decodeWord (fun k => (604800, k)) hRun hCall hHonest
  refine ⟨call, hAttempts, hRefines.trans ?_⟩
  rw [callResult, decodeWord_windowBytes]

end Refinement

end SettlementOracle.Rpc
