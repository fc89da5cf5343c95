import SettlementOracle.Checked.Hex
import SettlementOracle.Checked.Retry
import SettlementOracle.Server.Messages
import SettlementOracle.Settlement.ChainSnapshot

/-! The JSON-RPC client of the chain reader. Many `eth_call`s run at once over one
client and share its counter of request identifiers. Each of them retries on its own. -/
namespace SettlementOracle.Rpc

open Checked

/-- A parsed JSON document. -/
inductive Json where
  | null
  | bool (value : Bool)
  | number (text : String)
  | string (text : String)
  | array (items : List Json)
  | object (fields : List (String × Json))

def Json.get (name : String) : Json → Option Json
  | .object fields => fields.lookup name
  | _ => none

def Json.asStr : Json → Option String
  | .string text => some text
  | _ => none

/-- An HTTP response, with its status line as it is printed. -/
structure HttpResponse where
  status : Nat
  statusText : String
  body : Except String Json

/-- How one request ends: without a response, or with one. -/
abbrev Reply := Except String HttpResponse

/-- An `eth_call` to the contract at `toAddress`. -/
structure Call where
  toAddress : String
  data : List UInt8
  deriving DecidableEq, Repr

structure Request where
  toAddress : String
  data : String
  block : String
  id : UInt64
  deriving DecidableEq, Repr

def Call.request (call : Call) (rpcId : UInt64) : Request where
  toAddress := call.toAddress
  data := "0x" ++ hexEncode call.data
  block := "latest"
  id := rpcId

/-- `trim_start_matches("0x")` takes off every leading mark. -/
def trimMarks : List Char → List Char
  | '0' :: 'x' :: rest => trimMarks rest
  | chars => chars

def decodeHexResult (text : String) : Except FromHexError (List UInt8) :=
  hexDecode (ascii (String.ofList (trimMarks text.toList)))

/-- What a reply means for the call. -/
inductive Outcome where
  | retry (message : String)
  | fail (message : String)
  | done (bytes : List UInt8)
  deriving DecidableEq, Repr

/-- How errors outside this repository are printed. -/
structure Printer where
  json : Json → String
  hex : FromHexError → String

section Outcomes

variable (printer : Printer)

/-- The document of a response. A field `error` fails the call whatever it holds. -/
def readDocument (document : Json) : Outcome :=
  match document.get "error" with
  | some error => .fail ("RPC error: " ++ printer.json error)
  | none =>
      match (document.get "result").bind Json.asStr with
      | none => .fail "Missing 'result' in RPC response"
      | some result =>
          match decodeHexResult result with
          | .ok bytes => .done bytes
          | .error e => .fail ("Failed to decode hex result: " ++ printer.hex e)

/-- The body of the retry loop behind its request. -/
def outcome : Reply → Outcome
  | .error e => .retry ("RPC request failed: " ++ e)
  | .ok response =>
      if response.status = 429 ∨ 500 ≤ response.status ∧ response.status < 600 then
        .retry ("RPC HTTP " ++ response.statusText)
      else
        match response.body with
        | .error e => .fail ("RPC response parse failed: " ++ e)
        | .ok document => readDocument printer document

end Outcomes

/-- A reply behind which the loop goes on. -/
def Transient : Reply → Prop
  | .error _ => True
  | .ok response => response.status = 429 ∨ 500 ≤ response.status ∧ response.status < 600

/-- The reply is a document without an error, and its result stands for the bytes: any
number of marks, and then the digits of the bytes in either case. -/
def Tells (reply : Reply) (bytes : List UInt8) : Prop :=
  ∃ response document text marks body, reply = .ok response ∧ ¬Transient reply ∧
    response.body = .ok document ∧ document.get "error" = none ∧
    document.get "result" = some (.string text) ∧
    text.toList = (List.replicate marks ['0', 'x']).flatten ++ body ∧
    (ascii (String.ofList body)).map asciiLower = hexText bytes

section Results

variable {printer : Printer} {reply : Reply} {bytes : List UInt8} {text : String}

theorem ascii_ofList (chars : List Char) :
    ascii (String.ofList chars) = chars.flatMap String.utf8EncodeChar := by
  simp [ascii, List.utf8Encode]

theorem ascii_marked (rest : List Char) :
    ascii (String.ofList ('0' :: 'x' :: rest)) = 48 :: 120 :: ascii (String.ofList rest) := by
  rw [ascii_ofList, ascii_ofList]
  rfl

theorem ne_mark_of_mem_hexText {b : UInt8} (h : b ∈ hexText bytes) : b ≠ 120 := by
  have hDigits : ∀ value < 16, hexNibble value ≠ 120 := by decide
  obtain ⟨byte, -, hDigit⟩ := List.mem_flatMap.mp h
  have hBound := byte.toNat_lt
  simp only [List.mem_cons, List.not_mem_nil, or_false] at hDigit
  rcases hDigit with rfl | rfl
  · exact hDigits _ (by omega)
  · exact hDigits _ (by omega)

theorem trimMarks_eq_self {body : List Char}
    (h : (ascii (String.ofList body)).map asciiLower = hexText bytes) : trimMarks body = body := by
  unfold trimMarks
  split
  · next rest =>
      rw [ascii_marked] at h
      have hMem : asciiLower 120 ∈ hexText bytes := by
        rw [← h]
        simp
      exact absurd rfl (ne_mark_of_mem_hexText hMem)
  · rfl

theorem trimMarks_replicate (marks : Nat) (body : List Char) :
    trimMarks ((List.replicate marks ['0', 'x']).flatten ++ body) = trimMarks body := by
  induction marks with
  | zero => rfl
  | succ marks ih => simpa [List.replicate_succ, trimMarks] using ih

theorem exists_marks (chars : List Char) :
    ∃ marks, chars = (List.replicate marks ['0', 'x']).flatten ++ trimMarks chars := by
  fun_induction trimMarks chars with
  | case1 rest ih =>
      obtain ⟨marks, hMarks⟩ := ih
      refine ⟨marks + 1, ?_⟩
      rw [List.replicate_succ, List.flatten_cons, List.append_assoc, ← hMarks]
      rfl
  | case2 chars => exact ⟨0, rfl⟩

theorem decodeHexResult_eq_ok_iff : decodeHexResult text = .ok bytes ↔ ∃ marks body,
    text.toList = (List.replicate marks ['0', 'x']).flatten ++ body ∧
      (ascii (String.ofList body)).map asciiLower = hexText bytes := by
  rw [decodeHexResult, hexDecode_eq_ok_iff]
  constructor
  · intro h
    obtain ⟨marks, hMarks⟩ := exists_marks text.toList
    exact ⟨marks, _, hMarks, h⟩
  · rintro ⟨marks, body, hText, hBody⟩
    rw [hText, trimMarks_replicate, trimMarks_eq_self hBody]
    exact hBody

theorem ascii_hexEncode (bytes : List UInt8) : ascii (hexEncode bytes) = hexText bytes := by
  have hDigits : ∀ value < 16, String.utf8EncodeChar (hexDigit value) = [hexNibble value] := by
    decide +kernel
  have hByte : ∀ b : UInt8, b.toNat / 16 < 16 ∧ b.toNat % 16 < 16 := by
    intro b
    have hBound := b.toNat_lt
    omega
  rw [hexEncode, ascii_ofList, List.flatMap_assoc]
  refine List.flatMap_congr fun b _ => ?_
  simp [hDigits _ (hByte b).1, hDigits _ (hByte b).2]

/-- What `hex::encode` prints behind a mark is read back. -/
theorem decodeHexResult_hexEncode (bytes : List UInt8) :
    decodeHexResult ("0x" ++ hexEncode bytes) = .ok bytes := by
  refine decodeHexResult_eq_ok_iff.mpr ⟨1, (hexEncode bytes).toList, by simp, ?_⟩
  rw [String.ofList_toList, ascii_hexEncode]
  exact hexDecode_eq_ok_iff.mp (hexDecode_hexText bytes)

theorem readDocument_ne_retry (printer : Printer) (document : Json) (message : String) :
    readDocument printer document ≠ .retry message := by
  unfold readDocument
  split
  · simp
  · split
    · simp
    · split <;> simp

/-- The loop goes on behind exactly the transient replies. -/
theorem exists_retry_iff : (∃ message, outcome printer reply = .retry message) ↔
    Transient reply := by
  cases reply with
  | error e => exact ⟨fun _ => trivial, fun _ => ⟨_, rfl⟩⟩
  | ok response =>
      simp only [outcome, Transient]
      split
      · simp [*]
      · simp only [*, iff_false, not_exists]
        intro message
        split
        · simp
        · exact readDocument_ne_retry printer _ message

theorem readDocument_eq_done_iff {document : Json} : readDocument printer document = .done bytes ↔
    document.get "error" = none ∧ ∃ text, document.get "result" = some (.string text) ∧
      decodeHexResult text = .ok bytes := by
  unfold readDocument
  split
  · simp [*]
  · next hError =>
      have hString : ∀ text, (document.get "result").bind Json.asStr = some text ↔
          document.get "result" = some (.string text) := by
        intro text
        cases document.get "result" with
        | none => simp
        | some value => cases value <;> simp [Json.asStr]
      split
      · next hNone => 
          simp only [hError, reduceCtorEq, true_and, false_iff, not_exists, not_and]
          intro text hText
          simp [(hString text).mpr hText] at hNone
      · next text hText =>
          rw [hString] at hText
          split <;> simp [*]

theorem outcome_eq_done_iff : outcome printer reply = .done bytes ↔ Tells reply bytes := by
  cases reply with
  | error e => simp [outcome, Tells]
  | ok response =>
      simp only [outcome, Tells, Transient, Except.ok.injEq, exists_and_left]
      split
      · simp [*]
      · split
        · simp [*]
        · simp [*, readDocument_eq_done_iff, decodeHexResult_eq_ok_iff]

end Results

/-- The delay behind a failed attempt, in milliseconds. -/
def delay (attempt : Nat) : Nat := 200 * 3 ^ attempt

/-- The loop of `eth_call`. The resource is the counter of request identifiers. There
is no delay behind the last attempt. -/
def ethCallLoop (printer : Printer) :
    RetryLoop Call UInt64 Request Reply (Except String (List UInt8)) where
  resource := 1
  draw := fun nextRpcId call _ => (call.request nextRpcId, nextRpcId + 1)
  verdict := fun attempt reply =>
    match outcome printer reply with
    | .retry message =>
        if attempt + 1 < maxRetries then .again (delay attempt) else .done (.error message)
    | .fail message => .done (.error message)
    | .done bytes => .done (.ok bytes)

section Requests

variable {printer : Printer} {s : Tasks Call UInt64 Request (Except String (List UInt8))}
  {actions : List (TaskAction Call Reply)}

theorem ethCallLoop_bounded (printer : Printer) :
    (ethCallLoop printer).Bounded delay maxRetries where
  pos := by decide
  again attempt reply wait h := by
    simp only [ethCallLoop] at h
    split at h
    · split at h
      · cases h
        exact ⟨‹_›, Nat.le_refl _⟩
      · cases h
    · cases h
    · cases h

/-- The requests carry the identifiers 1, 2, 3 and so on. -/
theorem ids_of_run
    (hRun : run (ethCallLoop printer).step (ethCallLoop printer).start actions = some s) :
    ∀ (k : Nat) (sent : SentRequest Call Request), s.log[k]? = some sent →
      sent.request = sent.key.request (UInt64.ofNat (1 + k)) := by
  refine (resource_of_run (P := fun log nextRpcId => nextRpcId = UInt64.ofNat (1 + log.length) ∧
    ∀ (k : Nat) (sent : SentRequest Call Request), log[k]? = some sent →
      sent.request = sent.key.request (UInt64.ofNat (1 + k))) ⟨rfl, nofun⟩ ?_ hRun).2
  rintro log nextRpcId caller call attempt time ⟨rfl, hIds⟩
  refine ⟨?_, fun k sent hSent => ?_⟩
  · rw [List.length_append, List.length_singleton, ← Nat.add_assoc]
    exact (UInt64.ofNat_add ..).symm
  · rcases Nat.lt_or_ge k log.length with hOld | hNew
    · exact hIds k sent ((List.getElem?_append_left hOld).symm.trans hSent)
    · obtain rfl : k = log.length := by
        have hInside := (List.getElem?_eq_some_iff.mp hSent).1
        simp only [List.length_append, List.length_singleton] at hInside
        omega
      obtain rfl := Option.some.inj (List.getElem?_concat_length.symm.trans hSent)
      rfl

/-- In every interleaving of the calls, the requests carry the identifiers 1, 2, 3 and
so on in the order in which they are drawn, and the contents of their own call, which the
node can read back. A call sends three attempts at most, and waits out its delay between
two of them. -/
theorem ethCalls_requests
    (hRun : run (ethCallLoop printer).step (ethCallLoop printer).start actions = some s) :
    (∀ (k : Nat) (sent : SentRequest Call Request), s.log[k]? = some sent →
      (∃ phase, s.tasks[sent.caller]? = some ⟨sent.key, phase⟩) ∧
        sent.request = sent.key.request (UInt64.ofNat (1 + k)) ∧
        decodeHexResult sent.request.data = .ok sent.key.data) ∧
    (∀ index, ∃ count ≤ 3, (s.requestsOf index).map SentRequest.attempt = List.range count) ∧
    s.log.Pairwise (Spaced delay) := by
  have hInv : LogInv delay maxRetries s := logInv_of_run (ethCallLoop_bounded printer) hRun
  refine ⟨fun k sent hSent => ?_, hInv.requestsOf, hInv.spaced⟩
  have hRequest := ids_of_run hRun k sent hSent
  refine ⟨hInv.known sent (List.mem_of_getElem? hSent), hRequest, ?_⟩
  rw [hRequest]
  exact decodeHexResult_hexEncode sent.key.data

def samplePrinter : Printer where
  json := fun _ => "null"
  hex := fun _ => "Odd number of digits"

/-- The word 604800, and how a node prints it. -/
def windowBytes : List UInt8 := List.replicate 29 0 ++ [9, 58, 128]

def windowResult : String := "0x" ++ String.ofList (List.replicate 59 '0') ++ "93A80"

/-- Two calls share the client. `abandonedWindow()` is sent again behind its delay,
and the call of an unknown function goes out in between. -/
def interleavedRun : List (TaskAction Call Reply) :=
  [.spawn ⟨"0x0101", [92, 32, 126, 59]⟩, .send 0, .reply 0 (.error "connection refused"),
    .spawn ⟨"0x0202", []⟩, .send 1, .tick 200, .wake 0, .send 0,
    .reply 0 (.ok ⟨200, "200 OK", .ok (.object [("result", .string windowResult)])⟩)]

theorem ethCalls_requests_interleaved :
    ∃ s, run (ethCallLoop samplePrinter).step (ethCallLoop samplePrinter).start interleavedRun =
        some s ∧
      s.log.map (fun sent => (sent.caller, sent.request.id)) = [(0, 1), (1, 2), (0, 3)] ∧
      s.log.Pairwise (Spaced delay) := by
  have hLog : (run (ethCallLoop samplePrinter).step (ethCallLoop samplePrinter).start
      interleavedRun).map (fun s => s.log.map fun sent => (sent.caller, sent.request.id)) =
        some [(0, 1), (1, 2), (0, 3)] := by
    decide +kernel
  obtain ⟨s, hRun, hIds⟩ := Option.map_eq_some_iff.mp hLog
  exact ⟨s, hRun, hIds, (ethCalls_requests hRun).2.2⟩

end Requests

end SettlementOracle.Rpc
