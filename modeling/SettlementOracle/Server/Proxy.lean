import SettlementOracle.Checked.Decimal
import SettlementOracle.Checked.Search
import SettlementOracle.Checked.Transition

/-! The websocket proxy. It connects browsers to a few Steam hosts only, and hands
bytes on between the websocket and the TCP stream in both directions. -/
namespace SettlementOracle.Proxy

open Checked

def allowedHosts : List String :=
  ["api.steampowered.com", "steamcommunity.com", "community.steam-api.com",
    "login.steampowered.com", "store.steampowered.com"]

/-- `str::parse::<u16>`. -/
def parseU16 (text : String) : Option UInt16 :=
  (parseU64 text).bind fun value =>
    if value.toNat < UInt16.size then some value.toUInt16 else none

structure Target where
  hostname : String
  port : UInt16
  deriving DecidableEq, Repr

/-- Split at the last colon. A port that cannot be read is the default port. -/
def parseHostPort (host : String) : Target :=
  match rsplitOn ':' host.toList with
  | some (hostname, port) => ⟨String.ofList hostname, (parseU16 (String.ofList port)).getD 443⟩
  | none => ⟨host, 443⟩

/-- The replies of the proxy endpoint that are not an upgrade. All are `403`. -/
inductive ProxyError where
  | forbidden (message : String)
  deriving DecidableEq, Repr

/-- What `str::to_lowercase` does to ASCII texts, and that the text keeps a sign of
any other character. The Kelvin sign is the only one that becomes plain ASCII. -/
structure Lowercases (lowercase : String → String) : Prop where
  ascii : ∀ text, (∀ c ∈ text.toList, c.toNat < 128) → lowercase text = text.map Char.toLower
  foreign : ∀ text, (∃ c ∈ text.toList, 128 ≤ c.toNat) →
    ∃ c ∈ (lowercase text).toList, 128 ≤ c.toNat ∨ c = 'k'

section Admission

variable (lowercase : String → String)

def isAllowedHost (hostname : String) : Bool :=
  allowedHosts.any fun allowed => lowercase hostname == allowed

/-- The checks of `proxy_ws_handler` in front of the upgrade. -/
def proxyWsHandler (token : String) : Except ProxyError Target :=
  let target := parseHostPort token
  if ¬isAllowedHost lowercase target.hostname then
    .error (.forbidden ("Host not allowed: " ++ target.hostname ++
      ". Only Steam servers are permitted."))
  else if target.port < 80 then
    .error (.forbidden s!"Port {target.port.toNat} not allowed")
  else .ok target

variable {lowercase} {hostname token : String} {target : Target}

theorem toLower_of_foreign {c : Char} (h : 128 ≤ c.toNat) : c.toLower = c := by
  unfold Char.toLower
  rw [dif_neg]
  rintro ⟨_, hUpper⟩
  have hSmall : c.toNat ≤ 90 := hUpper
  omega

/-- The allow list knows ASCII case only. No other spelling of a host gets through. -/
theorem isAllowedHost_iff (hLower : Lowercases lowercase) :
    isAllowedHost lowercase hostname = true ↔ hostname.map Char.toLower ∈ allowedHosts := by
  have hPlain : ∀ allowed ∈ allowedHosts, ∀ c ∈ allowed.toList, c.toNat < 128 ∧ c ≠ 'k' := by
    have hAll : allowedHosts.all (fun allowed =>
        allowed.toList.all fun c => c.toNat < 128 && c != 'k') = true := by
      decide +kernel
    simpa [List.all_eq_true] using hAll
  have hAscii : lowercase hostname ∈ allowedHosts ∨ hostname.map Char.toLower ∈ allowedHosts →
      lowercase hostname = hostname.map Char.toLower := by
    intro hAllowed
    refine hLower.ascii hostname fun c hMem => ?_
    by_contra hForeign
    have hLarge : 128 ≤ c.toNat := Nat.le_of_not_lt hForeign
    obtain hAllowed | hAllowed := hAllowed
    · obtain ⟨other, hOther, hSign⟩ := hLower.foreign hostname ⟨c, hMem, hLarge⟩
      obtain ⟨hSmall, hNotK⟩ := hPlain _ hAllowed other hOther
      obtain hSign | hSign := hSign
      · omega
      · exact hNotK hSign
    · have hKept : c ∈ (hostname.map Char.toLower).toList := by
        rw [String.toList_map]
        exact List.mem_map.mpr ⟨c, hMem, toLower_of_foreign hLarge⟩
      exact absurd (hPlain _ hAllowed c hKept).1 hForeign
  have hAny : isAllowedHost lowercase hostname = true ↔ lowercase hostname ∈ allowedHosts := by
    simp [isAllowedHost, List.any_eq_true]
  rw [hAny]
  constructor
  · intro h
    rw [← hAscii (Or.inl h)]
    exact h
  · intro h
    rw [hAscii (Or.inr h)]
    exact h

/-- How a target is written: a host alone, or a host and whatever stands behind the
last colon. -/
def Target.SpelledBy (target : Target) (token : String) : Prop :=
  (':' ∉ token.toList ∧ token = target.hostname ∧ target.port = 443) ∨
    ∃ port : String, ':' ∉ port.toList ∧ token = target.hostname ++ ":" ++ port ∧
      target.port = (parseU16 port).getD 443

theorem parseHostPort_eq_iff : parseHostPort token = target ↔ target.SpelledBy token := by
  obtain ⟨hostname, port⟩ := target
  unfold parseHostPort Target.SpelledBy
  cases hSplit : rsplitOn ':' token.toList with
  | none =>
      have hAbsent := rsplitOn_eq_none_iff.mp hSplit
      simp only [Target.mk.injEq]
      constructor
      · rintro ⟨rfl, rfl⟩
        exact Or.inl ⟨hAbsent, rfl, rfl⟩
      · rintro (⟨_, rfl, rfl⟩ | ⟨text, _, rfl, _⟩)
        · exact ⟨rfl, rfl⟩
        · simp at hAbsent
  | some parts =>
      obtain ⟨first, last⟩ := parts
      obtain ⟨hToken, hLast⟩ := rsplitOn_eq_some_iff.mp hSplit
      simp only [Target.mk.injEq]
      constructor
      · rintro ⟨rfl, rfl⟩
        refine Or.inr ⟨String.ofList last, by simpa using hLast, ?_, rfl⟩
        apply String.toList_injective
        simp [hToken]
      · rintro (⟨hAbsent, _⟩ | ⟨text, hText, rfl, rfl⟩)
        · simp [hToken] at hAbsent
        · have hParts : rsplitOn ':' (hostname ++ ":" ++ text).toList =
              some (hostname.toList, text.toList) := by
            refine rsplitOn_eq_some_iff.mpr ⟨?_, hText⟩
            simp
          rw [hParts] at hSplit
          cases hSplit
          simp

/-- The proxy connects to a target exactly when the token spells it, its host is on
the allow list up to ASCII case, and its port is no smaller than 80. -/
theorem proxyWsHandler_eq_ok_iff (hLower : Lowercases lowercase) :
    proxyWsHandler lowercase token = .ok target ↔
      target.SpelledBy token ∧ target.hostname.map Char.toLower ∈ allowedHosts ∧
        80 ≤ target.port := by
  rw [← parseHostPort_eq_iff]
  unfold proxyWsHandler
  constructor
  · intro h
    simp only at h
    split at h
    · cases h
    · split at h
      · cases h
      · rename_i hHost hPort
        obtain rfl := Except.ok.inj h
        refine ⟨rfl, (isAllowedHost_iff hLower).mp (by simpa using hHost), UInt16.not_lt.mp hPort⟩
  · rintro ⟨rfl, hHost, hPort⟩
    have hAllowed := (isAllowedHost_iff hLower).mpr hHost
    simp [hAllowed, UInt16.not_lt.mpr hPort]

/-- A lower-casing that follows `str::to_lowercase` on ASCII and on the Kelvin sign. -/
def sampleLowercase (text : String) : String :=
  text.map fun c => if c.toNat = 0x212A then 'k' else c.toLower

theorem sampleLowercase_lowercases : Lowercases sampleLowercase where
  ascii text hAscii := by
    apply String.toList_injective
    simp only [sampleLowercase, String.toList_map]
    refine List.map_congr_left fun c hMem => ?_
    have hSmall := hAscii c hMem
    rw [if_neg (by omega)]
  foreign text hForeign := by
    obtain ⟨c, hMem, hLarge⟩ := hForeign
    simp only [sampleLowercase, String.toList_map, List.mem_map]
    refine ⟨_, ⟨c, hMem, rfl⟩, ?_⟩
    split
    · exact Or.inr rfl
    · rw [toLower_of_foreign hLarge]
      exact Or.inl hLarge

theorem proxyWsHandler_eq_ok_iff_sample :
    proxyWsHandler sampleLowercase "API.SteamPowered.com:+8080" =
        .ok ⟨"API.SteamPowered.com", 8080⟩ ∧
      proxyWsHandler sampleLowercase "steamcommunity.com:443:evil.com" = .error (.forbidden
        "Host not allowed: steamcommunity.com:443. Only Steam servers are permitted.") := by
  refine ⟨(proxyWsHandler_eq_ok_iff sampleLowercase_lowercases).mpr ⟨?_, ?_, ?_⟩, ?_⟩
  · exact Or.inr ⟨"+8080", by decide, by decide, by decide⟩
  · decide +kernel
  · decide
  · decide +kernel

end Admission

/-- What comes in on a websocket. Text, ping and pong frames are ignored. -/
inductive WsMessage where
  | binary (data : List UInt8)
  | close
  | other
  deriving DecidableEq, Repr

def WsMessage.payload : WsMessage → List UInt8
  | .binary data => data
  | _ => []

def payload (messages : List WsMessage) : List UInt8 := messages.flatMap WsMessage.payload

/-- The task that forwards the websocket to TCP. `writing` has bytes left of the
message it writes, and a failed write gives them up. -/
inductive Upstream where
  | receiving
  | writing (rest : List UInt8)
  | ended
  | failed (unsent : List UInt8)
  deriving DecidableEq, Repr

/-- The task that forwards TCP to the websocket. A failed send gives its chunk up. -/
inductive Downstream where
  | reading
  | sending (chunk : List UInt8)
  | closing
  | ended
  | failed (unsent : List UInt8)
  deriving DecidableEq, Repr

/-- `written` are the bytes on the TCP stream, `sent` the frames on the websocket. -/
structure Bridge where
  upstream : Upstream
  written : List UInt8
  upTotal : Nat
  downstream : Downstream
  sent : List WsMessage
  downTotal : Nat
  deriving DecidableEq

inductive BridgeEvent where
  | receive (message : WsMessage)
  | loseWebSocket
  | write (count : Nat)
  | failWrite
  | readTcp (chunk : List UInt8)
  | endTcp
  | send
  | failSend
  deriving DecidableEq

def Bridge.start : Bridge where
  upstream := .receiving
  written := []
  upTotal := 0
  downstream := .reading
  sent := []
  downTotal := 0

def bufferSize : Nat := 8192

/-- `write_all` is done once nothing is left. -/
def Upstream.afterWrite (rest : List UInt8) : Upstream :=
  if rest = [] then .receiving else .writing rest

/-- One step of one of the two tasks. `loseWebSocket` is an error or the end of the
websocket, `endTcp` the end of the TCP stream or an error on it. -/
def Bridge.step (s : Bridge) : BridgeEvent → Option Bridge
  | .receive message =>
      if s.upstream = .receiving then
        match message with
        | .binary data => some { s with
            upstream := .afterWrite data
            upTotal := (s.upTotal + data.length) % UInt64.size }
        | .close => some { s with upstream := .ended }
        | .other => some s
      else none
  | .loseWebSocket =>
      if s.upstream = .receiving then some { s with upstream := .ended } else none
  | .write count =>
      match s.upstream with
      | .writing rest =>
          if 0 < count then
            some { s with
              upstream := .afterWrite (rest.drop count)
              written := s.written ++ rest.take count }
          else none
      | _ => none
  | .failWrite =>
      match s.upstream with
      | .writing rest => some { s with upstream := .failed rest }
      | _ => none
  | .readTcp chunk =>
      if s.downstream = .reading ∧ chunk ≠ [] ∧ chunk.length ≤ bufferSize then
        some { s with
          downstream := .sending chunk
          downTotal := (s.downTotal + chunk.length) % UInt64.size }
      else none
  | .endTcp => if s.downstream = .reading then some { s with downstream := .closing } else none
  | .send =>
      match s.downstream with
      | .sending chunk =>
          some { s with downstream := .reading, sent := s.sent ++ [WsMessage.binary chunk] }
      | .closing => some { s with downstream := .ended, sent := s.sent ++ [WsMessage.close] }
      | _ => none
  | .failSend =>
      match s.downstream with
      | .sending chunk => some { s with downstream := .failed chunk }
      | .closing => some { s with downstream := .ended }
      | _ => none

/-- `handle_proxy_connection` returns once both tasks have. -/
def Bridge.done (s : Bridge) : Bool :=
  (match s.upstream with
    | .ended | .failed _ => true
    | _ => false) &&
  (match s.downstream with
    | .ended | .failed _ => true
    | _ => false)

/-- The bytes that a task has taken in and not handed on. -/
def Upstream.pending : Upstream → List UInt8
  | .writing rest | .failed rest => rest
  | _ => []

def Downstream.pending : Downstream → List UInt8
  | .sending chunk | .failed chunk => chunk
  | _ => []

/-- The frame is a chunk of the TCP stream. -/
def WsMessage.IsChunk (message : WsMessage) : Prop :=
  ∃ data, message = .binary data ∧ data ≠ [] ∧ data.length ≤ bufferSize

/-- The messages that came in on the websocket. -/
def received (events : List BridgeEvent) : List WsMessage :=
  events.filterMap fun
    | .receive message => some message
    | _ => none

/-- The bytes that came in on the TCP stream. -/
def readBytes (events : List BridgeEvent) : List UInt8 :=
  events.flatMap fun
    | .readTcp chunk => chunk
    | _ => []

/-- What came in on the websocket went out in order, or is in the hands of its task. -/
structure UpInv (events : List BridgeEvent) (s : Bridge) : Prop where
  bytes : s.written ++ s.upstream.pending = payload (received events)
  total : s.upTotal = (payload (received events)).length % UInt64.size
  closed : .close ∈ received events → s.upstream = .ended

/-- What came in on the TCP stream went out in order, or is in the hands of its task.
A close frame is the last one. -/
structure DownInv (events : List BridgeEvent) (s : Bridge) : Prop where
  bytes : payload s.sent ++ s.downstream.pending = readBytes events
  total : s.downTotal = (readBytes events).length % UInt64.size
  chunk : ∀ chunk, s.downstream = .sending chunk → chunk ≠ [] ∧ chunk.length ≤ bufferSize
  frames : (∀ frame ∈ s.sent, frame.IsChunk) ∨
    (s.downstream = .ended ∧ ∃ chunks, s.sent = chunks ++ [WsMessage.close] ∧
      ∀ frame ∈ chunks, frame.IsChunk)

section Bridging

variable {s s' : Bridge} {event : BridgeEvent} {events : List BridgeEvent}

theorem payload_snoc (messages : List WsMessage) (message : WsMessage) :
    payload (messages ++ [message]) = payload messages ++ message.payload := by
  simp [payload]

theorem pending_afterWrite (rest : List UInt8) : (Upstream.afterWrite rest).pending = rest := by
  unfold Upstream.afterWrite
  split
  · simp_all [Upstream.pending]
  · rfl

theorem received_receive (events : List BridgeEvent) (message : WsMessage) :
    received (events ++ [BridgeEvent.receive message]) = received events ++ [message] := by
  simp [received]

theorem readBytes_readTcp (events : List BridgeEvent) (chunk : List UInt8) :
    readBytes (events ++ [BridgeEvent.readTcp chunk]) = readBytes events ++ chunk := by
  simp [readBytes]

/-- Nothing is received behind a close frame. -/
theorem UpInv.not_closed (h : UpInv events s) (hOpen : s.upstream ≠ .ended) :
    .close ∉ received events :=
  fun hClosed => hOpen (h.closed hClosed)

/-- The events that are no message leave what came in alone. -/
theorem UpInv.quiet (h : UpInv events s) (hEvent : ∀ message, event ≠ .receive message)
    (hBytes : s'.written ++ s'.upstream.pending = s.written ++ s.upstream.pending)
    (hTotal : s'.upTotal = s.upTotal) (hEnded : s.upstream = .ended → s'.upstream = .ended) :
    UpInv (events ++ [event]) s' := by
  have hSame : received (events ++ [event]) = received events := by
    cases event with
    | receive message => exact absurd rfl (hEvent message)
    | _ => simp [received]
  exact {
    bytes := by rw [hSame, hBytes, h.bytes]
    total := by rw [hSame, hTotal, h.total]
    closed := fun hClosed => hEnded (h.closed (hSame ▸ hClosed)) }

theorem UpInv.receive {message : WsMessage} (h : UpInv events s)
    (hStep : s.step (.receive message) = some s') :
    UpInv (events ++ [BridgeEvent.receive message]) s' := by
  simp only [Bridge.step] at hStep
  split at hStep
  · rename_i hReceiving
    have hBytes := h.bytes
    have hTotal := h.total
    have hOpen := h.not_closed (by simp [hReceiving])
    simp only [hReceiving, Upstream.pending, List.append_nil] at hBytes
    constructor
    · rw [received_receive, payload_snoc, ← hBytes]
      cases message with
      | binary data =>
          cases hStep
          simp [pending_afterWrite, WsMessage.payload]
      | close =>
          cases hStep
          simp [Upstream.pending, WsMessage.payload]
      | other =>
          cases hStep
          simp [hReceiving, Upstream.pending, WsMessage.payload]
    · rw [received_receive, payload_snoc, List.length_append]
      cases message with
      | binary data =>
          cases hStep
          simp [hTotal, WsMessage.payload]
      | close | other =>
          cases hStep
          simpa [WsMessage.payload] using hTotal
    · intro hClosed
      rw [received_receive] at hClosed
      cases message with
      | binary | other => simp [hOpen] at hClosed
      | close =>
          cases hStep
          rfl
  · cases hStep

theorem UpInv.step (h : UpInv events s) (hStep : s.step event = some s') :
    UpInv (events ++ [event]) s' := by
  cases event with
  | receive message => exact h.receive hStep
  | loseWebSocket =>
      simp only [Bridge.step] at hStep
      split at hStep
      · rename_i hReceiving
        cases hStep
        refine h.quiet (by simp) ?_ rfl fun _ => rfl
        rw [hReceiving]
        rfl
      · cases hStep
  | write count =>
      simp only [Bridge.step] at hStep
      split at hStep
      · rename_i rest hWriting
        split at hStep
        · cases hStep
          refine h.quiet (by simp) ?_ rfl fun hEnded => ?_
          · rw [pending_afterWrite, List.append_assoc, List.take_append_drop, hWriting]
            rfl
          · rw [hWriting] at hEnded
            cases hEnded
        · cases hStep
      · cases hStep
  | failWrite =>
      simp only [Bridge.step] at hStep
      split at hStep
      · rename_i rest hWriting
        cases hStep
        refine h.quiet (by simp) ?_ rfl fun hEnded => ?_
        · rw [hWriting]
          rfl
        · rw [hWriting] at hEnded
          cases hEnded
      · cases hStep
  | readTcp | endTcp =>
      simp only [Bridge.step] at hStep
      split at hStep
      · cases hStep
        exact h.quiet (by simp) rfl rfl id
      · cases hStep
  | send | failSend =>
      simp only [Bridge.step] at hStep
      split at hStep
      · cases hStep
        exact h.quiet (by simp) rfl rfl id
      · cases hStep
        exact h.quiet (by simp) rfl rfl id
      · cases hStep

/-- A task that is at work has sent nothing but chunks. -/
theorem DownInv.chunks (h : DownInv events s) (hOpen : s.downstream ≠ .ended) :
    ∀ frame ∈ s.sent, frame.IsChunk := by
  obtain hChunks | ⟨hEnded, _⟩ := h.frames
  · exact hChunks
  · exact absurd hEnded hOpen

/-- The task hands its bytes on, keeps them, or gives them up. -/
theorem DownInv.quiet (h : DownInv events s) (hEvent : ∀ chunk, event ≠ .readTcp chunk)
    (hBytes : payload s'.sent ++ s'.downstream.pending = payload s.sent ++ s.downstream.pending)
    (hTotal : s'.downTotal = s.downTotal)
    (hChunk : ∀ chunk, s'.downstream = .sending chunk → s.downstream = .sending chunk)
    (hFrames : (∀ frame ∈ s'.sent, frame.IsChunk) ∨
      (s'.downstream = .ended ∧
        ∃ chunks, s'.sent = chunks ++ [WsMessage.close] ∧ ∀ frame ∈ chunks, frame.IsChunk)) :
    DownInv (events ++ [event]) s' := by
  have hSame : readBytes (events ++ [event]) = readBytes events := by
    cases event with
    | readTcp chunk => exact absurd rfl (hEvent chunk)
    | _ => simp [readBytes]
  exact {
    bytes := by rw [hSame, hBytes, h.bytes]
    total := by rw [hSame, hTotal, h.total]
    chunk := fun chunk hSending => h.chunk chunk (hChunk chunk hSending)
    frames := hFrames }

theorem DownInv.step (h : DownInv events s) (hStep : s.step event = some s') :
    DownInv (events ++ [event]) s' := by
  cases event with
  | receive message =>
      simp only [Bridge.step] at hStep
      split at hStep
      · cases message <;> cases hStep <;>
          exact h.quiet (by simp) rfl rfl (fun _ hSending => hSending) h.frames
      · cases hStep
  | loseWebSocket =>
      simp only [Bridge.step] at hStep
      split at hStep
      · cases hStep
        exact h.quiet (by simp) rfl rfl (fun _ hSending => hSending) h.frames
      · cases hStep
  | write count =>
      simp only [Bridge.step] at hStep
      split at hStep
      · split at hStep
        · cases hStep
          exact h.quiet (by simp) rfl rfl (fun _ hSending => hSending) h.frames
        · cases hStep
      · cases hStep
  | failWrite =>
      simp only [Bridge.step] at hStep
      split at hStep
      · cases hStep
        exact h.quiet (by simp) rfl rfl (fun _ hSending => hSending) h.frames
      · cases hStep
  | readTcp chunk =>
      simp only [Bridge.step] at hStep
      split at hStep
      · rename_i hReady
        obtain ⟨hReading, hChunk⟩ := hReady
        cases hStep
        have hBytes := h.bytes
        simp only [hReading, Downstream.pending, List.append_nil] at hBytes
        constructor
        · rw [readBytes_readTcp, ← hBytes]
          rfl
        · rw [readBytes_readTcp, List.length_append, h.total]
          simp
        · rintro _ ⟨⟩
          exact hChunk
        · exact Or.inl (h.chunks (by simp [hReading]))
      · cases hStep
  | endTcp =>
      simp only [Bridge.step] at hStep
      split at hStep
      · rename_i hReading
        cases hStep
        refine h.quiet (by simp) ?_ rfl (fun _ hSending => by cases hSending)
          (Or.inl (h.chunks (by simp [hReading])))
        rw [hReading]
        rfl
      · cases hStep
  | send =>
      simp only [Bridge.step] at hStep
      split at hStep
      · rename_i chunk hSending
        cases hStep
        refine h.quiet (by simp) ?_ rfl (fun _ hOther => by cases hOther) (Or.inl ?_)
        · rw [hSending, payload_snoc, List.append_assoc]
          simp [WsMessage.payload, Downstream.pending]
        · intro frame hMem
          obtain hOld | hNew := List.mem_append.mp hMem
          · exact h.chunks (by simp [hSending]) frame hOld
          · obtain rfl := List.mem_singleton.mp hNew
            exact ⟨chunk, rfl, h.chunk chunk hSending⟩
      · rename_i hClosing
        cases hStep
        refine h.quiet (by simp) ?_ rfl (fun _ hOther => by cases hOther)
          (Or.inr ⟨rfl, s.sent, rfl, h.chunks (by simp [hClosing])⟩)
        rw [hClosing, payload_snoc]
        simp [WsMessage.payload, Downstream.pending]
      · cases hStep
  | failSend =>
      simp only [Bridge.step] at hStep
      split at hStep
      · rename_i chunk hSending
        cases hStep
        refine h.quiet (by simp) ?_ rfl (fun _ hOther => by cases hOther)
          (Or.inl (h.chunks (by simp [hSending])))
        rw [hSending]
        rfl
      · rename_i hClosing
        cases hStep
        refine h.quiet (by simp) ?_ rfl (fun _ hOther => by cases hOther)
          (Or.inl (h.chunks (by simp [hClosing])))
        rw [hClosing]
        rfl
      · cases hStep

theorem bridgeInv_of_run (hRun : run Bridge.step .start events = some s) :
    UpInv events s ∧ DownInv events s := by
  induction events using List.reverseRecOn generalizing s with
  | nil =>
      obtain rfl : Bridge.start = s := Option.some.inj hRun
      refine ⟨⟨rfl, rfl, fun hClosed => by cases hClosed⟩, ⟨rfl, rfl, ?_, Or.inl ?_⟩⟩
      · rintro _ ⟨⟩
      · intro frame hMem
        cases hMem
  | append_singleton events event ih =>
      obtain ⟨middle, hBefore, hNext⟩ := run_snoc_eq_some.mp hRun
      obtain ⟨hUp, hDown⟩ := ih hBefore
      exact ⟨hUp.step hNext, hDown.step hNext⟩

/-- The proxy neither loses, repeats nor reorders a byte in either direction, in
any interleaving of its two tasks. Only a failed write or send leaves bytes behind.
It never forwards a frame larger than its buffer, and nothing follows its close frame. -/
theorem bridge_hands_on (hRun : run Bridge.step .start events = some s) :
    (∃ unsent, s.written ++ unsent = payload (received events) ∧
      (unsent ≠ [] → s.upstream = .writing unsent ∨ s.upstream = .failed unsent)) ∧
    (∃ unsent, payload s.sent ++ unsent = readBytes events ∧
      (unsent ≠ [] → s.downstream = .sending unsent ∨ s.downstream = .failed unsent)) ∧
    (∀ (index : Nat) (frame : WsMessage), s.sent[index]? = some frame → frame.IsChunk ∨
      (frame = .close ∧ index + 1 = s.sent.length ∧ s.downstream = .ended)) ∧
    s.upTotal = (payload (received events)).length % UInt64.size ∧
    s.downTotal = (readBytes events).length % UInt64.size := by
  obtain ⟨hUp, hDown⟩ := bridgeInv_of_run hRun
  refine ⟨⟨_, hUp.bytes, fun hRest => ?_⟩, ⟨_, hDown.bytes, fun hRest => ?_⟩, ?_, hUp.total, hDown.total⟩
  · cases hState : s.upstream with
    | writing rest => exact Or.inl rfl
    | failed rest => exact Or.inr rfl
    | _ => simp [hState, Upstream.pending] at hRest
  · cases hState : s.downstream with
    | sending chunk => exact Or.inl rfl
    | failed chunk => exact Or.inr rfl
    | _ => simp [hState, Downstream.pending] at hRest
  · intro index frame hFrame
    obtain hChunks | ⟨hEnded, chunks, hSent, hChunks⟩ := hDown.frames
    · exact Or.inl (hChunks frame (List.mem_of_getElem? hFrame))
    · rw [hSent] at hFrame ⊢
      rcases Nat.lt_or_ge index chunks.length with hInside | hLast
      · rw [List.getElem?_append_left hInside] at hFrame
        exact Or.inl (hChunks frame (List.mem_of_getElem? hFrame))
      · rw [List.getElem?_append_right hLast] at hFrame
        have hIndex : index - chunks.length = 0 := by
          have hBound := (List.getElem?_eq_some_iff.mp hFrame).1
          simp only [List.length_singleton] at hBound
          omega
        obtain rfl := List.mem_singleton.mp (List.mem_of_getElem? hFrame)
        refine Or.inr ⟨rfl, ?_, hEnded⟩
        simp only [List.length_append, List.length_singleton]
        omega

/-- A request is written in two pieces while its response comes in. -/
def bridgedRun : List BridgeEvent :=
  [.receive (.binary [1, 2, 3]), .write 2, .readTcp [7, 8], .send, .write 4, .receive .other,
    .endTcp, .receive .close, .send]

theorem bridge_hands_on_bridged :
    ∃ s, run Bridge.step .start bridgedRun = some s ∧ s.done = true ∧ s.written = [1, 2, 3] ∧
      s.sent = [.binary [7, 8], .close] ∧
      ∃ unsent, s.written ++ unsent = payload (received bridgedRun) := by
  have hState : (run Bridge.step .start bridgedRun).map (fun s => (s.done, s.written, s.sent)) =
      some (true, [1, 2, 3], [.binary [7, 8], .close]) := by
    decide
  obtain ⟨s, hRun, hFields⟩ := Option.map_eq_some_iff.mp hState
  simp only [Prod.mk.injEq] at hFields
  obtain ⟨unsent, hBytes, _⟩ := (bridge_hands_on hRun).1
  exact ⟨s, hRun, hFields.1, hFields.2.1, hFields.2.2, unsent, hBytes⟩

end Bridging

end SettlementOracle.Proxy
