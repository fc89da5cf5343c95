import SettlementOracle.Checked.Ledger
import SettlementOracle.Checked.Transition
import SettlementOracle.Server.Messages

/-! The session server as a state machine. Every handler is a party that moves
through the awaits of its source, and an action is one such move. The mutexes,
the oneshot channel and the compare-exchange are single steps. -/
namespace SettlementOracle

open Checked

/-- Where the receiving half of the result channel is: in the slot of the
session, in a waiting request, or dropped. -/
inductive Receiver where
  | stored
  | held
  | dropped
  deriving DecidableEq, Repr

/-- Session data with the contents of its result channel, and its expiry task. -/
structure Session where
  assetId : UInt64
  verifierClaimed : Bool
  resultSender : Bool
  resultReceiver : Receiver
  message : Option SettlementOutcome
  expiresAt : Nat
  expired : Bool
  deriving DecidableEq, Repr

def Session.create (assetId : UInt64) (expiresAt : Nat) : Session where
  assetId
  verifierClaimed := false
  resultSender := true
  resultReceiver := .stored
  message := none
  expiresAt
  expired := false

/-- `publish_settlement_outcome`. Sending to a dropped receiver fails silently. -/
def Session.publishSettlementOutcome (session : Session) (outcome : SettlementOutcome) : Session :=
  if session.resultSender then
    { session with
      resultSender := false
      message := if session.resultReceiver = .dropped then none else some outcome }
  else session

/-- A result request. `found` holds the session data, `waiting` the receiver as
well, and `resolved` is about to remove the session from the map. -/
inductive ResultPhase where
  | rejected (rejection : Rejection)
  | found
  | waiting (deadline : Nat)
  | resolved (waitEnd : WaitEnd)
  | responded (waitEnd : WaitEnd)
  | abandoned (tookReceiver : Bool)
  deriving DecidableEq, Repr

inductive ResultEvent where
  | takeReceiver
  | receive
  | closeChannel
  | timeOut
  | finish
  | disconnect
  deriving DecidableEq, Repr

/-- One move of `session_result_handler`. The wait polls the channel before its
timer, and dropping the handler drops what it holds. -/
def ResultPhase.step (config : NotarizationConfig) (now : Nat) (sessionId : String)
    (session : Session) : ResultPhase → ResultEvent → Option (ResultPhase × Session)
  | .found, .takeReceiver =>
      if session.resultReceiver = .stored then
        some (.waiting (now + config.timeoutMs), { session with resultReceiver := .held })
      else some (.rejected ⟨.conflict, "Session result already claimed: " ++ sessionId⟩, session)
  | .waiting _, .receive =>
      session.message.map fun outcome =>
        (.resolved (.received outcome), { session with resultReceiver := .dropped, message := none })
  | .waiting _, .closeChannel =>
      if session.message = none ∧ session.resultSender = false then
        some (.resolved .channelClosed, { session with resultReceiver := .dropped })
      else none
  | .waiting deadline, .timeOut =>
      if deadline ≤ now ∧ session.message = none ∧ session.resultSender = true then
        some (.resolved .timedOut, { session with resultReceiver := .dropped })
      else none
  | .resolved waitEnd, .finish => some (.responded waitEnd, session)
  | .found, .disconnect => some (.abandoned false, session)
  | .waiting _, .disconnect =>
      some (.abandoned true, { session with resultReceiver := .dropped, message := none })
  | .resolved _, .disconnect => some (.abandoned true, session)
  | _, _ => none

/-- How the verifier of a session ended: what it will publish, and the
settlement that was signed, if any. -/
structure Conclusion where
  outcome : SettlementOutcome
  signed : Option SignedSettlement
  deriving DecidableEq, Repr

def Conclusion.failed (message : String) : Conclusion := ⟨.error message, none⟩

def Conclusion.settled (signed : SignedSettlement) : Conclusion :=
  ⟨.ok signed.wireResult, some signed⟩

/-- A notarize request. `holding` has a permit, `found` the session data,
`upgrading` the verifier claim. From `connected` to `ended` the request counts as
an active notarization. -/
inductive NotarizePhase where
  | rejected (rejection : Rejection)
  | holding
  | abandoned
  | found
  | upgrading
  | upgradeFailed
  | connected
  | running (deadline : Nat)
  | readingChain (deadline : Nat) (mpc : MpcTlsResult)
  | settling (deadline : Nat) (mpc : MpcTlsResult) (escrow : EscrowSnapshot)
  | ended (conclusion : Conclusion)
  | publishing (conclusion : Conclusion)
  | finished (conclusion : Conclusion)
  | panicked
  deriving DecidableEq

inductive NotarizeEvent where
  | claimVerifier
  | failUpgrade
  | connect
  | startVerifier
  | endMpcTls (result : Except MpcTlsError MpcTlsResult)
  | endChainRead (answers : Option ChainAnswers)
  | endSettlement (proofTimestamp : Option UInt64)
  | panic
  | decrementActive
  | publish

section Verifier

variable (config : NotarizationConfig) (world : Collaborators) (now : Nat)

def afterMpcTls (deadline : Nat) : Except MpcTlsError MpcTlsResult → Option NotarizePhase
  | .error .timeout =>
      if deadline ≤ now then
        some (.ended (.failed s!"MPC-TLS session timed out after {config.timeoutMs}ms"))
      else none
  | .error (.session message) => some (.ended (.failed message))
  | .ok mpc =>
      if now ≤ deadline then some (.readingChain deadline mpc)
      else some (.ended (.failed "Notarization deadline exceeded before chain read"))

/-- The chain read ends with answers, or by its timeout. -/
def afterChainRead (assetId : UInt64) (deadline : Nat) (mpc : MpcTlsResult) :
    Option ChainAnswers → Option NotarizePhase
  | none =>
      if deadline ≤ now then
        some (.ended (.failed
          s!"Notarization timed out during chain read after {config.timeoutMs}ms"))
      else none
  | some answers =>
      match readEscrow world.displayAddress assetId answers with
      | .error message => some (.ended (.failed ("Chain read failed: " ++ message)))
      | .ok escrow =>
          if now ≤ deadline then some (.settling deadline mpc escrow)
          else some (.ended (.failed "Notarization deadline exceeded before settlement"))

/-- The settlement ends at a wall-clock time, or by its timeout. A panic of the
decision engine unwinds the whole task. -/
def afterSettlement (deadline : Nat) (mpc : MpcTlsResult) (escrow : EscrowSnapshot) :
    Option UInt64 → Option NotarizePhase
  | none =>
      if deadline ≤ now then
        some (.ended (.failed
          s!"Notarization timed out during settlement after {config.timeoutMs}ms"))
      else none
  | some proofTimestamp =>
      match createSettlementResult world mpc escrow proofTimestamp with
      | .ok signed => some (.ended (.settled signed))
      | .error (.err message) => some (.ended (.failed message))
      | .error .panic => some .panicked

/-- One move of a notarize request that holds its session data. -/
def NotarizePhase.step (sessionId : String) (session : Session) :
    NotarizePhase → NotarizeEvent → Option (NotarizePhase × Session)
  | .found, .claimVerifier =>
      if session.verifierClaimed then
        some (.rejected ⟨.conflict, "Session verifier already claimed: " ++ sessionId⟩, session)
      else some (.upgrading, { session with verifierClaimed := true })
  | .upgrading, .failUpgrade => some (.upgradeFailed, session)
  | .upgrading, .connect => some (.connected, session)
  | .connected, .startVerifier => some (.running (now + config.timeoutMs), session)
  | .running deadline, .endMpcTls result =>
      (afterMpcTls config now deadline result).map fun phase => (phase, session)
  | .readingChain deadline mpc, .endChainRead answers =>
      (afterChainRead config world now session.assetId deadline mpc answers).map fun phase =>
        (phase, session)
  | .settling deadline mpc escrow, .endSettlement proofTimestamp =>
      (afterSettlement config world now deadline mpc escrow proofTimestamp).map fun phase =>
        (phase, session)
  | .connected, .panic => some (.panicked, session)
  | .running _, .panic => some (.panicked, session)
  | .readingChain _ _, .panic => some (.panicked, session)
  | .settling _ _ _, .panic => some (.panicked, session)
  | .ended conclusion, .decrementActive => some (.publishing conclusion, session)
  | .publishing conclusion, .publish =>
      some (.finished conclusion, session.publishSettlementOutcome conclusion.outcome)
  | _, _ => none

end Verifier

/-- The phases whose future owns a permit. It is released when the future ends. -/
def NotarizePhase.holdsPermit : NotarizePhase → Bool
  | .rejected _ | .abandoned | .upgradeFailed | .finished _ | .panicked => false
  | _ => true

def releasedPermits (before after : NotarizePhase) : Nat :=
  if before.holdsPermit ∧ ¬after.holdsPermit then 1 else 0

/-- The counter of active notarizations is a `usize` and wraps. -/
def NotarizeEvent.countActive (active : Nat) : NotarizeEvent → Nat
  | .connect => (active + 1) % UInt64.size
  | .decrementActive => (active + (UInt64.size - 1)) % UInt64.size
  | _ => active

/-- `sessions` are the keys of the session map. `heap` keeps the data of every
session ever created, since handlers share it beyond its removal from the map. -/
structure State where
  now : Nat
  heap : String → Option Session
  sessions : List String
  requests : List (Party String ResultPhase)
  notarizations : List (Party String NotarizePhase)
  permits : Nat
  active : Nat

def State.start (config : NotarizationConfig) : State where
  now := 0
  heap := fun _ => none
  sessions := []
  requests := []
  notarizations := []
  permits := config.maxActiveSessions
  active := 0

inductive Action where
  | tick (elapsed : Nat)
  | postSession (sessionId : String) (body : SessionRequest)
  | expireSession (sessionId : String)
  | getResult (sessionId : String)
  | stepResult (index : Nat) (event : ResultEvent)
  | getNotarize (sessionId : String)
  | lookUpSession (index : Nat)
  | leaveNotarize (index : Nat)
  | stepNotarize (index : Nat) (event : NotarizeEvent)

def State.lookUp (s : State) (sessionId : String) : Option Session :=
  if sessionId ∈ s.sessions then s.heap sessionId else none

def State.remove (s : State) (sessionId : String) : List String :=
  s.sessions.filter (· ≠ sessionId)

def State.setNotarization (s : State) (index : Nat) (sessionId : String)
    (before after : NotarizePhase) : State :=
  { s with
    notarizations := s.notarizations.set index ⟨sessionId, after⟩
    permits := s.permits + releasedPermits before after }

def sessionNotFound (sessionId : String) : Rejection :=
  ⟨.notFound, "Session not found: " ++ sessionId⟩

def sessionHandler (config : NotarizationConfig) (s : State) (sessionId : String)
    (body : SessionRequest) : State × Except Rejection SessionResponse :=
  match checkSessionRequest config body with
  | .error rejection => (s, .error rejection)
  | .ok () =>
      if config.maxPendingSessions ≤ s.sessions.length then
        (s, .error ⟨.tooManyRequests,
          s!"Server at pending-session capacity ({config.maxPendingSessions})"⟩)
      else
        ({ s with
            heap := Function.update s.heap sessionId
              (some (.create body.assetId (s.now + config.sessionTtlMs)))
            sessions := sessionId :: s.sessions },
          .ok ⟨sessionId, tlsnProtocolVersion⟩)

section Steps

variable (config : NotarizationConfig) (world : Collaborators)

/-- The lookup of `session_result_handler`. -/
def arriveResult (s : State) (sessionId : String) : ResultPhase :=
  match s.lookUp sessionId with
  | some _ => .found
  | none => .rejected (sessionNotFound sessionId)

def notarizationBusy : Rejection :=
  ⟨.tooManyRequests,
    s!"Server busy: active MPC-TLS capacity reached ({config.maxActiveSessions})"⟩

/-- The lookup of `notarize_ws_handler`, behind the permit. -/
def arriveNotarize (s : State) (sessionId : String) : NotarizePhase :=
  match s.lookUp sessionId with
  | some _ => .found
  | none => .rejected (sessionNotFound sessionId)

/-- One action of the server, if it is enabled. Session identifiers are fresh
UUIDs, so a session is never created twice. -/
def step (s : State) : Action → Option State
  | .tick elapsed => some { s with now := s.now + elapsed }
  | .postSession sessionId body =>
      if s.heap sessionId = none then some (sessionHandler config s sessionId body).1 else none
  | .expireSession sessionId => do
      let session ← s.heap sessionId
      if session.expiresAt ≤ s.now ∧ session.expired = false then
        some { s with
          heap := Function.update s.heap sessionId (some { session with expired := true })
          sessions := s.remove sessionId }
      else none
  | .getResult sessionId =>
      some { s with requests := s.requests ++ [⟨sessionId, arriveResult s sessionId⟩] }
  | .stepResult index event => do
      let request ← s.requests[index]?
      let session ← s.heap request.key
      let (phase, session') ← request.phase.step config s.now request.key session event
      some { s with
        requests := s.requests.set index ⟨request.key, phase⟩
        heap := Function.update s.heap request.key (some session')
        sessions := if event = .finish then s.remove request.key else s.sessions }
  | .getNotarize sessionId =>
      if s.permits = 0 then
        some { s with notarizations :=
          s.notarizations ++ [⟨sessionId, .rejected (notarizationBusy config)⟩] }
      else
        some { s with
          notarizations := s.notarizations ++ [⟨sessionId, .holding⟩]
          permits := s.permits - 1 }
  | .lookUpSession index => do
      let task ← s.notarizations[index]?
      if task.phase = .holding then
        some (s.setNotarization index task.key .holding (arriveNotarize s task.key))
      else none
  | .leaveNotarize index => do
      let task ← s.notarizations[index]?
      if task.phase = .holding then
        some (s.setNotarization index task.key .holding .abandoned)
      else none
  | .stepNotarize index event => do
      let task ← s.notarizations[index]?
      let session ← s.heap task.key
      let (phase, session') ← task.phase.step config world s.now task.key session event
      some { s.setNotarization index task.key task.phase phase with
        heap := Function.update s.heap task.key (some session')
        active := event.countActive s.active }

end Steps

end SettlementOracle
