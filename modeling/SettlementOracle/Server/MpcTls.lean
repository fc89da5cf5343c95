import SettlementOracle.Checked.Progress
import SettlementOracle.Server.Machine

/-! One MPC-TLS session of the verifier. The protocol runs under a timeout, the
session driver is a task of its own, and the replies of the protocol library come
in from outside. Every await of `run_mpc_tls` is a stage, and every interleaving of
replies, timers and the driver is a run. -/
namespace SettlementOracle.MpcTls

open Checked

structure MpcTlsRuntimeLimits where
  maxSentData : Nat
  maxRecvData : Nat
  deriving DecidableEq, Repr

def validateMpcLimits (requestedMaxSentData requestedMaxRecvData : Nat)
    (limits : MpcTlsRuntimeLimits) : Option String :=
  if limits.maxSentData < requestedMaxSentData then
    some (s!"max_sent_data is too large (requested {requestedMaxSentData}, " ++
      s!"allowed {limits.maxSentData})")
  else if limits.maxRecvData < requestedMaxRecvData then
    some (s!"max_recv_data is too large (requested {requestedMaxRecvData}, " ++
      s!"allowed {limits.maxRecvData})")
  else none

/-- The protocol that the prover proposes, with the limits of an MPC proposal. -/
inductive CommitStart where
  | mpc (maxSentData maxRecvData : Nat)
  | proxy
  deriving DecidableEq, Repr

/-- What the prover offers to reveal. -/
structure RevealRequest where
  serverIdentity : Bool
  reveal : Bool
  deriving DecidableEq, Repr

/-- A TLS record of the transcript. Only application data is counted. -/
structure Record where
  applicationData : Bool
  ciphertext : List UInt8
  deriving DecidableEq, Repr

structure VerifierOutput where
  serverName : Option String
  transcript : Option (List UInt8 × List UInt8)
  sent : List Record
  recv : List Record
  deriving DecidableEq, Repr

/-- The revealed transcript and the sizes of its ciphertexts. -/
structure SessionResult extends MpcTlsResult where
  ciphertextSentBytes : Nat
  ciphertextRecvBytes : Nat
  deriving DecidableEq, Repr

def ciphertextLength (records : List Record) : Nat :=
  (records.filterMap fun record =>
    if record.applicationData then some record.ciphertext.length else none).sum

def VerifierOutput.result (output : VerifierOutput) : SessionResult where
  serverName := output.serverName
  sentBytes := (output.transcript.map Prod.fst).getD []
  recvBytes := (output.transcript.map Prod.snd).getD []
  ciphertextSentBytes := ciphertextLength output.sent
  ciphertextRecvBytes := ciphertextLength output.recv

/-- The awaits of the protocol. -/
inductive Stage where
  | creating
  | committing
  | rejectingLimits (reason : String)
  | rejectingProxy
  | accepting
  | running
  | verifying
  | rejectingReveal
  | closingRejected
  | acceptingOutput
  | closing (result : SessionResult)
  deriving DecidableEq, Repr

/-- What the protocol library answers at a stage. -/
inductive Reply where
  | created (result : Except String Unit)
  | committed (result : Except String CommitStart)
  | rejected (result : Except String Unit)
  | accepted (result : Except String Unit)
  | ran (result : Except String Unit)
  | verified (result : Except String RevealRequest)
  | acceptedOutput (result : Except String VerifierOutput)
  | closed (result : Except String Unit)
  deriving DecidableEq

inductive Progress where
  | next (stage : Stage)
  | ended (result : Except String SessionResult)
  deriving DecidableEq

/-- The protocol fails here, with the text in front of the library's error. -/
def failed (context error : String) : Option Progress := some (.ended (.error (context ++ error)))

/-- The protocol between two awaits. -/
def Stage.advance (limits : MpcTlsRuntimeLimits) : Stage → Reply → Option Progress
  | .creating, .created (.error e) => failed "Failed to create verifier: " e
  | .creating, .created (.ok ()) => some (.next .committing)
  | .committing, .committed (.error e) => failed "Commitment failed: " e
  | .committing, .committed (.ok (.mpc maxSentData maxRecvData)) =>
      match validateMpcLimits maxSentData maxRecvData limits with
      | some reason => some (.next (.rejectingLimits reason))
      | none => some (.next .accepting)
  | .committing, .committed (.ok .proxy) => some (.next .rejectingProxy)
  | .rejectingLimits _, .rejected (.error e) => failed "Failed to reject commitment request: " e
  | .rejectingLimits reason, .rejected (.ok ()) => failed "Commitment request rejected: " reason
  | .rejectingProxy, .rejected (.error e) => failed "Failed to reject proxy mode: " e
  | .rejectingProxy, .rejected (.ok ()) =>
      failed "Commitment request rejected: " "expecting to use MPC-TLS"
  | .accepting, .accepted (.error e) => failed "Accept failed: " e
  | .accepting, .accepted (.ok ()) => some (.next .running)
  | .running, .ran (.error e) => failed "MPC-TLS run failed: " e
  | .running, .ran (.ok ()) => some (.next .verifying)
  | .verifying, .verified (.error e) => failed "Verification failed: " e
  | .verifying, .verified (.ok request) =>
      if request.serverIdentity = false ∨ request.reveal = false then
        some (.next .rejectingReveal)
      else some (.next .acceptingOutput)
  | .rejectingReveal, .rejected (.error e) => failed "Failed to reject incomplete reveal: " e
  | .rejectingReveal, .rejected (.ok ()) => some (.next .closingRejected)
  | .closingRejected, .closed (.error e) => failed "Failed to close rejected verifier: " e
  | .closingRejected, .closed (.ok ()) =>
      failed "Prover did not reveal server identity and transcript data" ""
  | .acceptingOutput, .acceptedOutput (.error e) => failed "Accept verification failed: " e
  | .acceptingOutput, .acceptedOutput (.ok output) => some (.next (.closing output.result))
  | .closing _, .closed (.error e) => failed "Failed to close verifier: " e
  | .closing result, .closed (.ok ()) => some (.ended (.ok result))
  | _, _ => none

/-- What the verifier asks of the library. -/
inductive Call where
  | newVerifier
  | commit
  | reject (reason : String)
  | acceptCommit
  | run
  | verify
  | acceptOutput
  | closeVerifier
  | closeHandle
  | abortDriver
  deriving DecidableEq, Repr

/-- The call that a stage awaits. -/
def Stage.call : Stage → Call
  | .creating => .newVerifier
  | .committing => .commit
  | .rejectingLimits reason => .reject reason
  | .rejectingProxy => .reject "expecting to use MPC-TLS"
  | .accepting => .acceptCommit
  | .running => .run
  | .verifying => .verify
  | .rejectingReveal => .reject "expected server identity and transcript reveal"
  | .closingRejected | .closing _ => .closeVerifier
  | .acceptingOutput => .acceptOutput

/-- How the driver task ended: with its socket, with an error of the session, or
by a panic or an abort. -/
inductive DriverEnd where
  | stopped
  | failed (error : String)
  | unjoined (error : String)
  deriving DecidableEq, Repr

inductive Phase where
  | protocol (stage : Stage)
  | finishing (result : SessionResult) (graceEnd : Nat)
  | tearingDown (error : MpcTlsError) (graceEnd : Nat)
  | aborting (error : MpcTlsError)
  | returned (result : Except MpcTlsError SessionResult)
  deriving DecidableEq

structure State where
  now : Nat
  phase : Phase
  driver : Option DriverEnd
  calls : List Call
  deriving DecidableEq

inductive Action where
  | tick (elapsed : Nat)
  | reply (reply : Reply)
  | timeOut
  | endDriver (driverEnd : DriverEnd)
  | graceOver
  | cancelDriver (error : String)
  | join
  deriving DecidableEq

def driverShutdownGrace : Nat := 2000

/-- The last lines of `finish_driver_after_close`. -/
def finishDriver (result : SessionResult) : DriverEnd → Except MpcTlsError SessionResult
  | .stopped => .ok result
  | .failed error => .error (.session ("Session driver error: " ++ error))
  | .unjoined error => .error (.session ("Driver task failed: " ++ error))

def driverStuck : MpcTlsError :=
  .session s!"Driver task did not stop after close within {driverShutdownGrace}ms"

section Machine

variable (limits : MpcTlsRuntimeLimits)

def start (now : Nat) : State where
  now
  phase := .protocol .creating
  driver := none
  calls := [.newVerifier]

/-- The handle is closed, and the driver has the grace period to stop. -/
def State.close (s : State) (phase : Nat → Phase) : State :=
  { s with phase := phase (s.now + driverShutdownGrace), calls := s.calls ++ [Call.closeHandle] }

def State.follow (s : State) : Progress → State
  | .next stage => { s with phase := .protocol stage, calls := s.calls ++ [stage.call] }
  | .ended (.ok result) => s.close (.finishing result)
  | .ended (.error message) => s.close (.tearingDown (.session message))

/-- The driver has not stopped in its grace period. -/
def State.abort (s : State) (error : MpcTlsError) : State :=
  { s with phase := .aborting error, calls := s.calls ++ [Call.abortDriver] }

/-- One step of `run_mpc_tls`. A timeout looks at what it guards before it looks at
the clock, so the grace period ends only while the driver runs. The driver may end
by itself at any time, and is cancelled only by an abort. -/
def step (deadline : Nat) (s : State) : Action → Option State
  | .tick elapsed => some { s with now := s.now + elapsed }
  | .reply reply =>
      match s.phase with
      | .protocol stage => (stage.advance limits reply).map s.follow
      | _ => none
  | .timeOut =>
      match s.phase with
      | .protocol _ => if deadline ≤ s.now then some (s.close (.tearingDown .timeout)) else none
      | _ => none
  | .endDriver driverEnd =>
      if s.driver = none then some { s with driver := some driverEnd } else none
  | .graceOver =>
      match s.phase, s.driver with
      | .finishing _ graceEnd, none =>
          if graceEnd ≤ s.now then some (s.abort driverStuck) else none
      | .tearingDown error graceEnd, none =>
          if graceEnd ≤ s.now then some (s.abort error) else none
      | _, _ => none
  | .cancelDriver error =>
      match s.phase, s.driver with
      | .aborting _, none => some { s with driver := some (.unjoined error) }
      | _, _ => none
  | .join =>
      match s.phase, s.driver with
      | .finishing result _, some driverEnd =>
          some { s with phase := .returned (finishDriver result driverEnd) }
      | .tearingDown error _, some _ => some { s with phase := .returned (.error error) }
      | .aborting error, some _ => some { s with phase := .returned (.error error) }
      | _, _ => none

end Machine

/-- What one action can do. -/
inductive Move (limits : MpcTlsRuntimeLimits) (deadline : Nat) (s : State) : Action → State → Prop
    where
  | tick (elapsed : Nat) : Move limits deadline s (.tick elapsed) { s with now := s.now + elapsed }
  | reply {stage : Stage} {reply : Reply} {progress : Progress} (hPhase : s.phase = .protocol stage)
      (hAdvance : stage.advance limits reply = some progress) :
      Move limits deadline s (.reply reply) (s.follow progress)
  | timeOut {stage : Stage} (hPhase : s.phase = .protocol stage) (hLate : deadline ≤ s.now) :
      Move limits deadline s .timeOut (s.close (.tearingDown .timeout))
  | endDriver (driverEnd : DriverEnd) (hDriver : s.driver = none) :
      Move limits deadline s (.endDriver driverEnd) { s with driver := some driverEnd }
  | stuck {result : SessionResult} {graceEnd : Nat} (hPhase : s.phase = .finishing result graceEnd)
      (hDriver : s.driver = none) (hLate : graceEnd ≤ s.now) :
      Move limits deadline s .graceOver (s.abort driverStuck)
  | abandoned {error : MpcTlsError} {graceEnd : Nat} (hPhase : s.phase = .tearingDown error graceEnd)
      (hDriver : s.driver = none) (hLate : graceEnd ≤ s.now) :
      Move limits deadline s .graceOver (s.abort error)
  | cancelled {error : MpcTlsError} (message : String) (hPhase : s.phase = .aborting error)
      (hDriver : s.driver = none) :
      Move limits deadline s (.cancelDriver message)
        { s with driver := some (.unjoined message) }
  | finished {result : SessionResult} {graceEnd : Nat} {driverEnd : DriverEnd}
      (hPhase : s.phase = .finishing result graceEnd) (hDriver : s.driver = some driverEnd) :
      Move limits deadline s .join { s with phase := .returned (finishDriver result driverEnd) }
  | tornDown {error : MpcTlsError} {graceEnd : Nat} {driverEnd : DriverEnd}
      (hPhase : s.phase = .tearingDown error graceEnd) (hDriver : s.driver = some driverEnd) :
      Move limits deadline s .join { s with phase := .returned (.error error) }
  | aborted {error : MpcTlsError} {driverEnd : DriverEnd}
      (hPhase : s.phase = .aborting error) (hDriver : s.driver = some driverEnd) :
      Move limits deadline s .join { s with phase := .returned (.error error) }

section Moves

variable {limits : MpcTlsRuntimeLimits} {deadline : Nat} {s s' : State} {action : Action}

theorem move_of_step (h : step limits deadline s action = some s') :
    Move limits deadline s action s' := by
  unfold step at h
  split at h
  · cases h
    exact .tick _
  · split at h
    · obtain ⟨progress, hAdvance, rfl⟩ := Option.map_eq_some_iff.mp h
      exact .reply ‹_› hAdvance
    · cases h
  · split at h
    · split at h
      · cases h
        exact .timeOut ‹_› ‹_›
      · cases h
    · cases h
  · split at h
    · cases h
      exact .endDriver _ ‹_›
    · cases h
  · split at h
    · split at h
      · cases h
        exact .stuck ‹_› ‹_› ‹_›
      · cases h
    · split at h
      · cases h
        exact .abandoned ‹_› ‹_› ‹_›
      · cases h
    · cases h
  · split at h
    · cases h
      exact .cancelled _ ‹_› ‹_›
    · cases h
  · split at h
    · cases h
      exact .finished ‹_› ‹_›
    · cases h
      exact .tornDown ‹_› ‹_›
    · cases h
      exact .aborted ‹_› ‹_›
    · cases h

end Moves

/-- The protocol on a list of replies, without clock and driver. -/
def Stage.replay (limits : MpcTlsRuntimeLimits) : Stage → List Reply → Option Progress
  | stage, [] => some (.next stage)
  | stage, reply :: rest =>
      match stage.advance limits reply with
      | some (.next next) => next.replay limits rest
      | some (.ended result) => if rest = [] then some (.ended result) else none
      | none => none

def Action.given : Action → Option Reply
  | .reply answer => some answer
  | _ => none

def replies (actions : List Action) : List Reply := actions.filterMap Action.given

/-- What the session returns, as a function of the replies, the two timers and the
end of the driver. -/
def returnValue (limits : MpcTlsRuntimeLimits) (actions : List Action) (driver : Option DriverEnd) :
    Option (Except MpcTlsError SessionResult) :=
  if .timeOut ∈ actions then some (.error .timeout)
  else
    match Stage.creating.replay limits (replies actions) with
    | some (.ended (.error message)) => some (.error (.session message))
    | some (.ended (.ok result)) =>
        if .graceOver ∈ actions then some (.error driverStuck) else driver.map (finishDriver result)
    | _ => none

section Replay

variable {limits : MpcTlsRuntimeLimits} {stage next : Stage} {rest : List Reply} {reply : Reply}
  {progress : Progress} {result given : SessionResult}

theorem Stage.replay_snoc (h : stage.replay limits rest = some (.next next)) (reply : Reply) :
    stage.replay limits (rest ++ [reply]) = next.advance limits reply := by
  induction rest generalizing stage with
  | nil =>
      obtain rfl : stage = next := by simpa [Stage.replay] using h
      simp only [List.nil_append, Stage.replay, if_true]
      cases hAdvance : stage.advance limits reply with
      | none => rfl
      | some progress => cases progress <;> rfl
  | cons first rest ih =>
      simp only [Stage.replay] at h
      simp only [List.cons_append, Stage.replay]
      cases hAdvance : stage.advance limits first with
      | none => simp [hAdvance] at h
      | some progress =>
          cases progress with
          | next middle =>
              simp only [hAdvance] at h
              exact ih h
          | ended outcome =>
              simp only [hAdvance] at h
              split at h <;> cases h

/-- Whether a list of replies ends the protocol with a result, from its first
reply on. -/
theorem Stage.replay_cons_ok :
    stage.replay limits (reply :: rest) = some (.ended (.ok result)) ↔
      (∃ next, stage.advance limits reply = some (.next next) ∧
        next.replay limits rest = some (.ended (.ok result))) ∨
      (stage.advance limits reply = some (.ended (.ok result)) ∧ rest = []) := by
  simp only [Stage.replay]
  cases hAdvance : stage.advance limits reply with
  | none => simp
  | some progress =>
      cases progress with
      | next next => simp
      | ended outcome =>
          by_cases hRest : rest = [] <;> simp [hRest]

/-- A reply to something else than the stage waits for leads nowhere. -/
theorem Stage.replay_of_stuck (h : stage.advance limits reply = none) :
    stage.replay limits (reply :: rest) ≠ some (.ended (.ok result)) := by
  simp [Stage.replay, h]

attribute [local simp] Stage.advance failed

theorem replay_closing :
    (Stage.closing given).replay limits rest = some (.ended (.ok result)) ↔
      rest = [.closed (.ok ())] ∧ result = given := by
  cases rest with
  | nil => simp [Stage.replay]
  | cons reply rest =>
      cases reply with
      | closed outcome =>
          rw [Stage.replay_cons_ok]
          cases outcome <;> simp [and_comm, eq_comm]
      | _ => exact iff_of_false (Stage.replay_of_stuck rfl) (by simp)

theorem replay_acceptingOutput :
    Stage.acceptingOutput.replay limits rest = some (.ended (.ok result)) ↔
      ∃ output : VerifierOutput, rest = [.acceptedOutput (.ok output), .closed (.ok ())] ∧
        result = output.result := by
  cases rest with
  | nil => simp [Stage.replay]
  | cons reply rest =>
      cases reply with
      | acceptedOutput outcome =>
          rw [Stage.replay_cons_ok]
          cases outcome <;> simp [replay_closing]
      | _ => exact iff_of_false (Stage.replay_of_stuck rfl) (by simp)

/-- A protocol that rejects the prover ends without a result. -/
theorem replay_rejecting (h : stage = .rejectingProxy ∨ stage = .rejectingReveal ∨
      stage = .closingRejected ∨ ∃ reason, stage = .rejectingLimits reason) :
    stage.replay limits rest ≠ some (.ended (.ok result)) := by
  have hClosing : ∀ rest,
      Stage.closingRejected.replay limits rest ≠ some (.ended (.ok result)) := by
    intro rest
    cases rest with
    | nil => simp [Stage.replay]
    | cons reply rest =>
        cases reply with
        | closed outcome =>
            rw [Ne, Stage.replay_cons_ok]
            cases outcome <;> simp
        | _ => exact Stage.replay_of_stuck rfl
  cases rest with
  | nil => simp [Stage.replay]
  | cons reply rest =>
      obtain rfl | rfl | rfl | ⟨reason, rfl⟩ := h
      · cases reply with
        | rejected outcome =>
            rw [Ne, Stage.replay_cons_ok]
            cases outcome <;> simp
        | _ => exact Stage.replay_of_stuck rfl
      · cases reply with
        | rejected outcome =>
            rw [Ne, Stage.replay_cons_ok]
            cases outcome <;> simp [hClosing]
        | _ => exact Stage.replay_of_stuck rfl
      · exact hClosing _
      · cases reply with
        | rejected outcome =>
            rw [Ne, Stage.replay_cons_ok]
            cases outcome <;> simp
        | _ => exact Stage.replay_of_stuck rfl

/-- The reveal that the verifier accepts: the server identity, and any part of the
transcript. -/
def RevealRequest.Complete (request : RevealRequest) : Prop :=
  request.serverIdentity = true ∧ request.reveal = true

theorem replay_verifying :
    Stage.verifying.replay limits rest = some (.ended (.ok result)) ↔
      ∃ (request : RevealRequest) (output : VerifierOutput), request.Complete ∧
        rest = [.verified (.ok request), .acceptedOutput (.ok output), .closed (.ok ())] ∧
        result = output.result := by
  cases rest with
  | nil => simp [Stage.replay]
  | cons reply rest =>
      cases reply with
      | verified outcome =>
          rw [Stage.replay_cons_ok]
          cases outcome with
          | error => simp
          | ok request =>
              obtain ⟨serverIdentity, reveal⟩ := request
              cases serverIdentity <;> cases reveal <;>
                simp [RevealRequest.Complete, replay_acceptingOutput, replay_rejecting]
      | _ => exact iff_of_false (Stage.replay_of_stuck rfl) (by simp)

/-- The replies behind an admitted commitment that lead to a result. -/
def revealReplies (request : RevealRequest) (output : VerifierOutput) : List Reply :=
  [.accepted (.ok ()), .ran (.ok ()), .verified (.ok request), .acceptedOutput (.ok output),
    .closed (.ok ())]

theorem replay_running :
    Stage.running.replay limits rest = some (.ended (.ok result)) ↔
      ∃ (request : RevealRequest) (output : VerifierOutput), request.Complete ∧
        rest = .ran (.ok ()) :: .verified (.ok request) :: [.acceptedOutput (.ok output),
          .closed (.ok ())] ∧ result = output.result := by
  cases rest with
  | nil => simp [Stage.replay]
  | cons reply rest =>
      cases reply with
      | ran outcome =>
          rw [Stage.replay_cons_ok]
          cases outcome <;> simp [replay_verifying]
      | _ => exact iff_of_false (Stage.replay_of_stuck rfl) (by simp)

theorem replay_accepting :
    Stage.accepting.replay limits rest = some (.ended (.ok result)) ↔
      ∃ (request : RevealRequest) (output : VerifierOutput), request.Complete ∧
        rest = revealReplies request output ∧ result = output.result := by
  cases rest with
  | nil => simp [Stage.replay, revealReplies]
  | cons reply rest =>
      cases reply with
      | accepted outcome =>
          rw [Stage.replay_cons_ok]
          cases outcome <;> simp [replay_running, revealReplies]
      | _ => exact iff_of_false (Stage.replay_of_stuck rfl) (by simp [revealReplies])

theorem validateMpcLimits_eq_none_iff {sent recv : Nat} :
    validateMpcLimits sent recv limits = none ↔
      sent ≤ limits.maxSentData ∧ recv ≤ limits.maxRecvData := by
  unfold validateMpcLimits
  split
  · simp only [reduceCtorEq, false_iff]
    omega
  · split
    · simp only [reduceCtorEq, false_iff]
      omega
    · simp only [true_iff]
      omega

theorem replay_committing :
    Stage.committing.replay limits rest = some (.ended (.ok result)) ↔
      ∃ (sent recv : Nat) (request : RevealRequest) (output : VerifierOutput),
        sent ≤ limits.maxSentData ∧ recv ≤ limits.maxRecvData ∧ request.Complete ∧
        rest = .committed (.ok (.mpc sent recv)) :: revealReplies request output ∧
        result = output.result := by
  cases rest with
  | nil => simp [Stage.replay]
  | cons reply rest =>
      cases reply with
      | committed outcome =>
          rw [Stage.replay_cons_ok]
          cases outcome with
          | error => simp
          | ok proposal =>
              cases proposal with
              | proxy => simp [replay_rejecting]
              | mpc sent recv =>
                  cases hLimits : validateMpcLimits sent recv limits with
                  | some reason =>
                      have hOver : ¬(sent ≤ limits.maxSentData ∧ recv ≤ limits.maxRecvData) := by
                        rw [← validateMpcLimits_eq_none_iff, hLimits]
                        simp
                      simp only [Stage.advance, hLimits, Option.some.injEq, Progress.next.injEq,
                        exists_eq_left', replay_rejecting (Or.inr (Or.inr (Or.inr ⟨_, rfl⟩))),
                        reduceCtorEq, false_and, or_false, false_iff]
                      rintro ⟨_, _, _, _, hSent, hRecv, _, hReplies, _⟩
                      cases hReplies
                      exact hOver ⟨hSent, hRecv⟩
                  | none =>
                      obtain ⟨hSent, hRecv⟩ := validateMpcLimits_eq_none_iff.mp hLimits
                      simp only [Stage.advance, hLimits, Option.some.injEq, Progress.next.injEq,
                        exists_eq_left', replay_accepting, reduceCtorEq, false_and, or_false]
                      constructor
                      · rintro ⟨request, output, hComplete, rfl, hResult⟩
                        exact ⟨sent, recv, request, output, hSent, hRecv, hComplete, rfl, hResult⟩
                      · rintro ⟨_, _, request, output, _, _, hComplete, hReplies, hResult⟩
                        cases hReplies
                        exact ⟨request, output, hComplete, rfl, hResult⟩
      | _ => exact iff_of_false (Stage.replay_of_stuck rfl) (by simp)

/-- The protocol ends with a result exactly when the prover asks for MPC within
both limits, nothing fails, and the reveal is complete. -/
theorem replay_creating :
    Stage.creating.replay limits rest = some (.ended (.ok result)) ↔
      ∃ (sent recv : Nat) (request : RevealRequest) (output : VerifierOutput),
        sent ≤ limits.maxSentData ∧ recv ≤ limits.maxRecvData ∧ request.Complete ∧
        rest = .created (.ok ()) :: .committed (.ok (.mpc sent recv)) ::
          revealReplies request output ∧ result = output.result := by
  cases rest with
  | nil => simp [Stage.replay]
  | cons reply rest =>
      cases reply with
      | created outcome =>
          rw [Stage.replay_cons_ok]
          cases outcome <;> simp [replay_committing]
      | _ => exact iff_of_false (Stage.replay_of_stuck rfl) (by simp)

end Replay

/-- What the phase says about the actions so far. -/
def Phase.Accounted (limits : MpcTlsRuntimeLimits) (actions : List Action)
    (driver : Option DriverEnd) : Phase → Prop
  | .protocol stage => .timeOut ∉ actions ∧ .graceOver ∉ actions ∧
      Stage.creating.replay limits (replies actions) = some (.next stage)
  | .finishing result _ => .timeOut ∉ actions ∧ .graceOver ∉ actions ∧
      Stage.creating.replay limits (replies actions) = some (.ended (.ok result))
  | .tearingDown error _ | .aborting error =>
      ∀ driver, returnValue limits actions driver = some (.error error)
  | .returned result => driver ≠ none ∧ returnValue limits actions driver = some result

section Accounts

variable {limits : MpcTlsRuntimeLimits} {deadline now : Nat} {s s' : State} {action : Action}
  {actions : List Action} {driver : Option DriverEnd} {error : MpcTlsError}

theorem replies_snoc (actions : List Action) (action : Action) :
    replies (actions ++ [action]) = replies actions ++ action.given.toList := by
  rw [replies, replies, List.filterMap_append]
  cases hGiven : action.given <;> simp [hGiven]

/-- The clock, the driver and the join leave the return value alone. -/
theorem returnValue_quiet (hReply : action.given = none) (hTimeOut : action ≠ .timeOut)
    (hGrace : action ≠ .graceOver) :
    returnValue limits (actions ++ [action]) driver = returnValue limits actions driver := by
  simp [returnValue, replies_snoc, hReply, hTimeOut.symm, hGrace.symm]

theorem returnValue_graceOver (h : ∀ driver, returnValue limits actions driver = some (.error error)) :
    returnValue limits (actions ++ [Action.graceOver]) driver = some (.error error) := by
  have hNone := h none
  unfold returnValue at hNone ⊢
  rw [replies_snoc]
  simp only [Action.given, Option.toList_none, List.append_nil, List.mem_append,
    List.mem_singleton, reduceCtorEq, or_false, or_true, if_true]
  split at hNone
  · rename_i hTimeOut
    rw [if_pos hTimeOut]
    exact hNone
  · rename_i hTimeOut
    rw [if_neg hTimeOut]
    split at hNone
    · exact hNone
    · split at hNone
      · exact hNone
      · cases hNone
    · cases hNone

theorem returnValue_ended {reply : Reply} {message : String} (hTimeOut : .timeOut ∉ actions)
    (h : Stage.creating.replay limits (replies actions ++ [reply]) =
      some (.ended (.error message))) :
    returnValue limits (actions ++ [Action.reply reply]) driver =
      some (.error (.session message)) := by
  simp [returnValue, replies_snoc, Action.given, hTimeOut, h]

/-- While the driver runs, nothing depends on how it will end. -/
theorem Phase.Accounted.of_running {phase : Phase} (h : phase.Accounted limits actions none) :
    phase.Accounted limits actions driver := by
  cases phase with
  | returned => exact absurd rfl h.1
  | _ => exact h

/-- Every step keeps the account. -/
theorem accounted_step (h : s.phase.Accounted limits actions s.driver)
    (hMove : Move limits deadline s action s') :
    s'.phase.Accounted limits (actions ++ [action]) s'.driver := by
  -- an action that is neither a reply nor a timer keeps the account of a phase
  have hQuiet : ∀ (phase : Phase) driver, action.given = none → action ≠ .timeOut → action ≠ .graceOver →
      phase.Accounted limits actions driver →
      phase.Accounted limits (actions ++ [action]) driver := by
    intro phase driver hReply hTimeOut hGrace hPhase
    cases phase with
    | protocol | finishing =>
        obtain ⟨hNoTimeOut, hNoGrace, hReplay⟩ := hPhase
        refine ⟨by simp [hNoTimeOut, hTimeOut.symm], by simp [hNoGrace, hGrace.symm], ?_⟩
        rw [replies_snoc, hReply]
        simpa using hReplay
    | tearingDown | aborting =>
        exact fun driver => (returnValue_quiet hReply hTimeOut hGrace).trans (hPhase driver)
    | returned => exact ⟨hPhase.1, (returnValue_quiet hReply hTimeOut hGrace).trans hPhase.2⟩
  cases hMove with
  | tick => exact hQuiet _ _ rfl (by simp) (by simp) h
  | @reply stage reply progress hPhase hAdvance =>
      rw [hPhase] at h
      obtain ⟨hTimeOut, hGrace, hReplay⟩ := h
      have hNext := (Stage.replay_snoc hReplay reply).trans hAdvance
      have hReplies : replies (actions ++ [Action.reply reply]) = replies actions ++ [reply] :=
        replies_snoc actions (.reply reply)
      cases progress with
      | next stage' => exact ⟨by simp [hTimeOut], by simp [hGrace], hReplies ▸ hNext⟩
      | ended outcome =>
          cases outcome with
          | ok result => exact ⟨by simp [hTimeOut], by simp [hGrace], hReplies ▸ hNext⟩
          | error message => exact fun driver => returnValue_ended hTimeOut hNext
  | timeOut => exact fun driver => by simp [returnValue]
  | endDriver driverEnd hDriver =>
      rw [hDriver] at h
      exact hQuiet _ _ rfl (by simp) (by simp) h.of_running
  | stuck hPhase =>
      rw [hPhase] at h
      obtain ⟨hTimeOut, _, hReplay⟩ := h
      exact fun driver => by simp [returnValue, replies_snoc, Action.given, hTimeOut, hReplay]
  | abandoned hPhase =>
      rw [hPhase] at h
      exact fun driver => returnValue_graceOver h
  | cancelled message _ hDriver =>
      rw [hDriver] at h
      exact hQuiet _ _ rfl (by simp) (by simp) h.of_running
  | finished hPhase hDriver =>
      rw [hPhase] at h
      obtain ⟨hTimeOut, hGrace, hReplay⟩ := h
      refine hQuiet (.returned _) _ rfl (by simp) (by simp) ⟨by simp [hDriver], ?_⟩
      simp [returnValue, hTimeOut, hGrace, hReplay, hDriver]
  | tornDown hPhase hDriver | aborted hPhase hDriver =>
      rw [hPhase] at h
      exact hQuiet (.returned _) _ rfl (by simp) (by simp) ⟨by simp [hDriver], h _⟩

theorem accounted_of_run (hRun : run (step limits deadline) (start now) actions = some s) :
    s.phase.Accounted limits actions s.driver := by
  induction actions using List.reverseRecOn generalizing s with
  | nil =>
      obtain rfl : start now = s := Option.some.inj hRun
      exact ⟨List.not_mem_nil, List.not_mem_nil, rfl⟩
  | append_singleton actions action ih =>
      obtain ⟨middle, hBefore, hNext⟩ := run_snoc_eq_some.mp hRun
      exact accounted_step (ih hBefore) (move_of_step hNext)

/-- The session times out at its deadline or later. -/
theorem deadline_le_of_timeOut (hRun : run (step limits deadline) (start now) actions = some s)
    (h : .timeOut ∈ actions) : deadline ≤ s.now := by
  induction actions using List.reverseRecOn generalizing s with
  | nil => cases h
  | append_singleton actions action ih =>
      obtain ⟨middle, hBefore, hNext⟩ := run_snoc_eq_some.mp hRun
      have hMove := move_of_step hNext
      obtain hOld | hNew := List.mem_append.mp h
      · refine Nat.le_trans (ih hBefore hOld) ?_
        cases hMove with
        | tick => exact Nat.le_add_right ..
        | @reply _ _ progress =>
            cases progress with
            | next => exact Nat.le_refl _
            | ended outcome => cases outcome <;> exact Nat.le_refl _
        | _ => exact Nat.le_refl _
      · obtain rfl := List.mem_singleton.mp hNew
        cases hMove with
        | timeOut _ hLate => exact hLate

theorem timeOut_of_returnValue (h : returnValue limits actions driver = some (.error .timeout)) :
    .timeOut ∈ actions := by
  by_contra hTimeOut
  unfold returnValue at h
  rw [if_neg hTimeOut] at h
  split at h
  · cases h
  · split at h
    · cases h
    · obtain ⟨driverEnd, _, hEnd⟩ := Option.map_eq_some_iff.mp h
      cases driverEnd <;> cases hEnd
  · cases h

/-- What the session server sees of a session. -/
def outcome : Except MpcTlsError SessionResult → Except MpcTlsError MpcTlsResult :=
  Except.map SessionResult.toMpcTlsResult

/-- What `run_mpc_tls` returns depends on the replies, the two timers and the end of
the driver only. It returns a transcript exactly when the prover stays within both
limits and reveals the server identity and some of the transcript, every reply of the
library is a success, no timer runs out and the driver stops. How much of the transcript
is revealed is not checked. The server accepts whatever it returns. -/
theorem runMpcTls_returns_iff {returned : Except MpcTlsError SessionResult}
    (hRun : run (step limits deadline) (start now) actions = some s)
    (hReturned : s.phase = .returned returned) :
    returnValue limits actions s.driver = some returned ∧
      (∀ result, returned = .ok result ↔
        (∃ (sent recv : Nat) (request : RevealRequest) (output : VerifierOutput),
          sent ≤ limits.maxSentData ∧ recv ≤ limits.maxRecvData ∧ request.Complete ∧
          replies actions = .created (.ok ()) :: .committed (.ok (.mpc sent recv)) ::
            revealReplies request output ∧ result = output.result) ∧
        .timeOut ∉ actions ∧ .graceOver ∉ actions ∧ s.driver = some .stopped) ∧
      ∀ (config : NotarizationConfig) (serverDeadline : Nat), serverDeadline ≤ deadline →
        (afterMpcTls config s.now serverDeadline (outcome returned)).isSome = true := by
  have hAccount := accounted_of_run hRun
  rw [hReturned] at hAccount
  obtain ⟨hDriver, hValue⟩ := hAccount
  refine ⟨hValue, fun result => ?_, fun config serverDeadline hServer => ?_⟩
  · rw [← replay_creating]
    constructor
    · rintro rfl
      unfold returnValue at hValue
      split at hValue
      · cases hValue
      · split at hValue
        · cases hValue
        · split at hValue
          · cases hValue
          · obtain ⟨driverEnd, hEnd, hFinish⟩ := Option.map_eq_some_iff.mp hValue
            cases driverEnd with
            | stopped =>
                obtain rfl := Except.ok.inj hFinish
                exact ⟨‹_›, ‹_›, ‹_›, hEnd⟩
            | failed => cases hFinish
            | unjoined => cases hFinish
        · cases hValue
    · rintro ⟨hReplay, hTimeOut, hGrace, hStopped⟩
      simpa [returnValue, hReplay, hTimeOut, hGrace, hStopped, finishDriver, eq_comm] using hValue
  · cases returned with
    | ok result =>
        simp only [outcome, Except.map, afterMpcTls]
        split <;> rfl
    | error error =>
        cases error with
        | session message => rfl
        | timeout =>
            have hLate := deadline_le_of_timeOut hRun (timeOut_of_returnValue hValue)
            simp only [outcome, Except.map, afterMpcTls, if_pos (Nat.le_trans hServer hLate),
              Option.isSome_some]

def sampleLimits : MpcTlsRuntimeLimits := ⟨4096, 16384⟩

def sampleOutput : VerifierOutput where
  serverName := some "api.steampowered.com"
  transcript := some (ascii "GET / HTTP/1.1", ascii "HTTP/1.1 200 OK")
  sent := [⟨false, [22, 3]⟩, ⟨true, [23, 3, 3]⟩]
  recv := [⟨true, [23, 3]⟩]

/-- A session that goes through, with some time between its replies. -/
def revealedRun : List Action :=
  [Action.reply (.created (.ok ())), .tick 40, .reply (.committed (.ok (.mpc 4096 16384)))] ++
    (revealReplies ⟨true, true⟩ sampleOutput).map Action.reply ++
    [Action.tick 3, .endDriver .stopped, .join]

theorem runMpcTls_returns_iff_revealed :
    ∃ s, run (step sampleLimits 120000) (start 0) revealedRun = some s ∧
      s.phase = .returned (.ok sampleOutput.result) ∧ sampleOutput.result.ciphertextSentBytes = 3 ∧
      s.driver = some .stopped ∧ .timeOut ∉ revealedRun := by
  have hPhase : (run (step sampleLimits 120000) (start 0) revealedRun).map State.phase =
      some (.returned (.ok sampleOutput.result)) := by
    decide +kernel
  obtain ⟨s, hRun, hReturned⟩ := Option.map_eq_some_iff.mp hPhase
  obtain ⟨_, hTimeOut, _, hStopped⟩ :=
    ((runMpcTls_returns_iff hRun hReturned).2.1 sampleOutput.result).mp rfl
  exact ⟨s, hRun, hReturned, rfl, hStopped, hTimeOut⟩

end Accounts

end SettlementOracle.MpcTls
