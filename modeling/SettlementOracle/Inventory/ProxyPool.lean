import SettlementOracle.Checked.Retry
import SettlementOracle.Inventory.AssetSearch

/-! The fetches of inventory pages. Many of them run at once and share a pool of
proxies. The first attempt of a fetch goes to Steam directly, the others go through
the proxies of the pool in turn. -/
namespace SettlementOracle

open Checked

/-- What the process reads at its start. `builds` tells which proxy addresses the
HTTP client takes. -/
structure ProxyEnvironment where
  var : String → Option String
  readToString : String → Except String String
  builds : String → Bool

def trimmed (text : String) : String := String.ofList (trim isWhitespace text.toList)

def splitTrimmed (separator : Char) (text : String) : List String :=
  (text.toList.splitOn separator).map fun part => String.ofList (trim isWhitespace part)

/-- Blank lines and comments are skipped. Line ends are trimmed off with the blanks. -/
def ProxyEnvironment.fileUrls (env : ProxyEnvironment) : List String :=
  match env.var "STEAM_SOCKS_PROXIES_FILE" with
  | none => []
  | some filePath =>
      if trimmed filePath = "" then []
      else
        match env.readToString (trimmed filePath) with
        | .error _ => []
        | .ok contents =>
            (splitTrimmed '\n' contents).filter fun line => line ≠ "" && !startsWith line "#"

def ProxyEnvironment.csvUrls (env : ProxyEnvironment) : List String :=
  match env.var "STEAM_SOCKS_PROXIES" with
  | none => []
  | some proxyCsv => (splitTrimmed ',' proxyCsv).filter fun proxy => proxy ≠ ""

def ProxyEnvironment.singleUrl (env : ProxyEnvironment) : List String :=
  match env.var "STEAM_INVENTORY_PROXY_URL" with
  | none => []
  | some proxyUrl => if trimmed proxyUrl = "" then [] else [trimmed proxyUrl]

def loadProxyUrls (env : ProxyEnvironment) : List String :=
  if env.fileUrls ≠ [] then env.fileUrls
  else if env.csvUrls ≠ [] then env.csvUrls
  else env.singleUrl

/-- The index is always inside, so that `next` never fails. -/
structure InventoryProxyPool where
  clients : List String
  currentIndex : Nat
  inside : currentIndex < clients.length
  deriving DecidableEq

def InventoryProxyPool.fromEnv (env : ProxyEnvironment) : Option InventoryProxyPool :=
  let clients := (loadProxyUrls env).filter env.builds
  if h : 0 < clients.length then some ⟨clients, 0, h⟩ else none

def InventoryProxyPool.next (pool : InventoryProxyPool) : String × InventoryProxyPool :=
  (pool.clients.get ⟨pool.currentIndex, pool.inside⟩,
    { pool with
      currentIndex := (pool.currentIndex + 1) % pool.clients.length
      inside := Nat.mod_lt _ (Nat.zero_lt_of_lt pool.inside) })

inductive Route where
  | direct
  | proxy (client : String)
  deriving DecidableEq, Repr

def Route.client : Route → Option String
  | .direct => none
  | .proxy client => some client

/-- The wait behind an attempt without proxies, in milliseconds. -/
def backoff (attempt : Nat) : Nat := min (1000 * 2 ^ attempt) 5000

def poolSize (pool : Option InventoryProxyPool) : Option Nat := pool.map (·.clients.length)

/-- The loop of `fetch_inventory_response` over the pool. -/
def fetchLoop (parse : String → Except String InventoryResponse)
    (pool : Option InventoryProxyPool) :
    RetryLoop String (Option InventoryProxyPool) Route SteamReply
      (Except InventoryError InventoryResponse) where
  resource := pool
  draw := fun pool _ attempt =>
    match pool with
    | none => (.direct, none)
    | some pool =>
        if 0 < attempt then
          let (client, pool) := pool.next
          (.proxy client, some pool)
        else (.direct, some pool)
  verdict := fun attempt reply =>
    match reply with
    | .error error =>
        if attempt + 1 < maxAttempts (poolSize pool) then
          .again (if pool.isSome then 1000 else backoff attempt)
        else .done (.error (.requestFailed error))
    | .ok response =>
        if response.status = 429 ∧ attempt + 1 < maxAttempts (poolSize pool) then
          .again (if pool.isSome then 500 else backoff attempt)
        else .done (parseInventoryResponse parse response)

section Turns

variable {α : Type} {xs : List α} {count : Nat}

/-- The first `count` entries of a list that is gone through again and again. -/
def inTurn (xs : List α) (count : Nat) : List α :=
  (List.replicate (count / xs.length) xs).flatten ++ xs.take (count % xs.length)

theorem inTurn_succ (h : count % xs.length < xs.length) :
    inTurn xs (count + 1) = inTurn xs count ++ [xs.get ⟨count % xs.length, h⟩] := by
  have hTake : xs.take (count % xs.length) ++ [xs.get ⟨count % xs.length, h⟩] =
      xs.take (count % xs.length + 1) := by
    simp [List.take_append_getElem]
  have hPos : 0 < xs.length := Nat.zero_lt_of_lt h
  have hCount : count + 1 = xs.length * (count / xs.length) + (count % xs.length + 1) := by
    rw [← Nat.add_assoc, Nat.div_add_mod]
  rw [inTurn, inTurn, List.append_assoc, hTake, hCount, Nat.mul_add_div hPos, Nat.mul_add_mod]
  rcases Nat.lt_or_ge (count % xs.length + 1) xs.length with hInside | hFull
  · rw [Nat.div_eq_of_lt hInside, Nat.mod_eq_of_lt hInside, Nat.add_zero]
  · -- the list is complete, and begins again
    have hEnd : count % xs.length + 1 = xs.length := by omega
    rw [hEnd, Nat.div_self hPos, Nat.mod_self, List.take_zero, List.append_nil, List.take_length,
      List.replicate_succ', List.flatten_concat]

end Turns

section Requests

variable {parse : String → Except String InventoryResponse} {pool : Option InventoryProxyPool}
  {env : ProxyEnvironment} {actions : List (TaskAction String SteamReply)}
  {s : Tasks String (Option InventoryProxyPool) Route (Except InventoryError InventoryResponse)}

/-- The shortest wait behind an attempt. -/
def shortestWait (pool : Option InventoryProxyPool) (attempt : Nat) : Nat :=
  if pool.isSome then 500 else backoff attempt

theorem fetchLoop_bounded (parse : String → Except String InventoryResponse)
    (pool : Option InventoryProxyPool) :
    (fetchLoop parse pool).Bounded (shortestWait pool) (maxAttempts (poolSize pool)) where
  pos := by
    cases pool with
    | none => decide
    | some pool => exact Nat.lt_of_lt_of_le Nat.zero_lt_one (Nat.le_add_right 1 _)
  again attempt reply wait h := by
    simp only [fetchLoop] at h
    split at h
    · split at h
      · cases h
        refine ⟨‹_›, ?_⟩
        unfold shortestWait
        split <;> omega
      · cases h
    · split at h
      · next hAgain =>
          cases h
          exact ⟨hAgain.2, Nat.le_refl _⟩
      · cases h

/-- The pool has handed out `count` of its clients in turn. -/
structure HandedOut (start current : InventoryProxyPool) (count : Nat) (handed : List String) :
    Prop where
  clients : current.clients = start.clients
  currentIndex : current.currentIndex = count % start.clients.length
  handed : handed = inTurn start.clients count

theorem HandedOut.next {start current : InventoryProxyPool} {count : Nat} {handed : List String}
    (h : HandedOut start current count handed) :
    HandedOut start current.next.2 (count + 1) (handed ++ [current.next.1]) := by
  obtain ⟨clients, currentIndex, inside⟩ := current
  obtain ⟨hClients, hIndex, hHanded⟩ := h
  dsimp only at hClients hIndex
  subst hClients hIndex hHanded
  exact ⟨rfl, Nat.mod_add_mod .., (inTurn_succ inside).symm⟩

/-- First attempts go out directly, and the others draw on the pool in turn. -/
def InTurn (start : InventoryProxyPool) (log : List (SentRequest String Route))
    (pool : Option InventoryProxyPool) : Prop :=
  (∃ current count, pool = some current ∧
    HandedOut start current count (log.filterMap fun sent => sent.request.client)) ∧
    ∀ sent ∈ log, sent.request = .direct ↔ sent.attempt = 0

theorem InTurn.next {start : InventoryProxyPool} {log : List (SentRequest String Route)}
    {pool : Option InventoryProxyPool} (h : InTurn start log pool) (caller : Nat) (url : String)
    (attempt time : Nat) :
    InTurn start
      (log ++ [SentRequest.mk caller url attempt time ((fetchLoop parse start).draw pool url attempt).1])
      ((fetchLoop parse start).draw pool url attempt).2 := by
  obtain ⟨⟨current, count, rfl, hHanded⟩, hDirect⟩ := h
  have hLog : ∀ route : Route, (route = .direct ↔ attempt = 0) →
      ∀ sent ∈ log ++ [SentRequest.mk caller url attempt time route],
        sent.request = .direct ↔ sent.attempt = 0 := by
    intro route hRoute sent hMem
    obtain hOld | hNew := List.mem_append.mp hMem
    · exact hDirect sent hOld
    · obtain rfl := List.mem_singleton.mp hNew
      exact hRoute
  rcases Nat.eq_zero_or_pos attempt with rfl | hLater
  · refine ⟨⟨current, count, rfl, ?_⟩, hLog .direct (by simp)⟩
    rw [List.filterMap_append]
    simpa [fetchLoop, Route.client] using hHanded
  · have hRoute : (fetchLoop parse start).draw (some current) url attempt =
        (.proxy current.next.1, some current.next.2) := by
      simp [fetchLoop, hLater]
    rw [hRoute]
    refine ⟨⟨current.next.2, count + 1, rfl, ?_⟩, hLog _ ?_⟩
    · rw [List.filterMap_append]
      exact hHanded.next
    · simp only [reduceCtorEq, false_iff]
      omega

theorem inTurn_of_run {start : InventoryProxyPool} (hStart : start.currentIndex = 0)
    (hRun : run (fetchLoop parse start).step (fetchLoop parse start).start actions = some s) :
    InTurn start s.log s.resource := by
  refine resource_of_run (P := InTurn start) ⟨⟨start, 0, rfl, rfl, ?_, ?_⟩, nofun⟩ ?_ hRun
  · rw [hStart, Nat.zero_mod]
  · simp [inTurn]
  · exact fun _ _ caller url attempt time h => h.next caller url attempt time

theorem direct_of_run
    (hRun : run (fetchLoop parse none).step (fetchLoop parse none).start actions = some s) :
    ∀ sent ∈ s.log, sent.request = .direct := by
  refine (resource_of_run (P := fun log pool => pool = none ∧ ∀ sent ∈ log, sent.request = .direct)
    ⟨rfl, nofun⟩ ?_ hRun).2
  rintro log pool caller url attempt time ⟨rfl, hLog⟩
  refine ⟨rfl, fun sent hMem => ?_⟩
  obtain hOld | hNew := List.mem_append.mp hMem
  · exact hLog sent hOld
  · obtain rfl := List.mem_singleton.mp hNew
    rfl

theorem InventoryProxyPool.fromEnv_eq_some {start : InventoryProxyPool}
    (h : InventoryProxyPool.fromEnv env = some start) :
    start.clients = (loadProxyUrls env).filter env.builds ∧ start.currentIndex = 0 := by
  simp only [InventoryProxyPool.fromEnv] at h
  split at h
  · cases h
    exact ⟨rfl, rfl⟩
  · cases h

/-- In every interleaving of the fetches, the attempts of a fetch follow each other
with their waits between them, and there are at most eleven. Without a pool all of them
are direct. With one exactly the first attempts are, and the others go through the
usable proxies over and over, in the order in which the environment lists them. -/
theorem fetches_requests (hPool : InventoryProxyPool.fromEnv env = pool)
    (hRun : run (fetchLoop parse pool).step (fetchLoop parse pool).start actions = some s) :
    (∀ index, ∃ count ≤ maxAttempts (poolSize pool),
      (s.requestsOf index).map SentRequest.attempt = List.range count) ∧
    s.log.Pairwise (Spaced (shortestWait pool)) ∧
    (pool = none → ∀ sent ∈ s.log, sent.request = .direct) ∧
    (pool ≠ none → (∀ sent ∈ s.log, sent.request = .direct ↔ sent.attempt = 0) ∧
      ∃ count, s.log.filterMap (fun sent => sent.request.client) =
        inTurn ((loadProxyUrls env).filter env.builds) count) := by
  have hInv : LogInv _ _ s := logInv_of_run (fetchLoop_bounded parse pool) hRun
  refine ⟨hInv.requestsOf, hInv.spaced, ?_, ?_⟩
  · rintro rfl
    exact direct_of_run hRun
  · intro hSome
    obtain ⟨start, rfl⟩ := Option.ne_none_iff_exists'.mp hSome
    obtain ⟨hClients, hIndex⟩ := InventoryProxyPool.fromEnv_eq_some hPool
    obtain ⟨⟨current, count, _, hHanded⟩, hDirect⟩ := inTurn_of_run hIndex hRun
    refine ⟨hDirect, count, ?_⟩
    rw [hHanded.handed, hClients]

/-- Two proxies and a comment in the file. The list of addresses is not looked at. -/
def twoProxies : ProxyEnvironment where
  var := fun name =>
    if name = "STEAM_SOCKS_PROXIES_FILE" then some "/etc/proxies "
    else if name = "STEAM_SOCKS_PROXIES" then some "socks5://c:1080" else none
  readToString := fun path =>
    if path = "/etc/proxies" then .ok "# pool\nsocks5://a:1080\r\n\nsocks5://b:1080\n"
    else .error "No such file or directory (os error 2)"
  builds := fun _ => true

def twoPool : InventoryProxyPool := ⟨["socks5://a:1080", "socks5://b:1080"], 0, by decide⟩

theorem fromEnv_twoProxies : InventoryProxyPool.fromEnv twoProxies = some twoPool := by
  decide +kernel

/-- Two fetches meet a busy server. -/
def busyRun : List (TaskAction String SteamReply) :=
  let busy : SteamReply := .ok ⟨429, "429 Too Many Requests", .ok ""⟩
  [.spawn "/first", .send 0, .spawn "/second", .send 1, .reply 0 busy, .reply 1 busy, .tick 500,
    .wake 1, .send 1, .wake 0, .send 0, .reply 1 (.error "operation timed out"), .tick 1000,
    .wake 1, .send 1]

/-- The fetches of the two, over pages that do not parse. -/
def twoFetches : RetryLoop String (Option InventoryProxyPool) Route SteamReply
    (Except InventoryError InventoryResponse) :=
  fetchLoop (fun _ => .error "EOF while parsing a value") (some twoPool)

theorem fetches_requests_busy :
    ∃ s, run twoFetches.step twoFetches.start busyRun = some s ∧
      s.log.filterMap (fun sent => sent.request.client) =
        ["socks5://a:1080", "socks5://b:1080", "socks5://a:1080"] ∧
      ∀ sent ∈ s.log, sent.request = .direct ↔ sent.attempt = 0 := by
  have hLog : (run twoFetches.step twoFetches.start busyRun).map
      (fun s => s.log.filterMap fun sent => sent.request.client) =
        some ["socks5://a:1080", "socks5://b:1080", "socks5://a:1080"] := by
    decide +kernel
  obtain ⟨s, hRun, hClients⟩ := Option.map_eq_some_iff.mp hLog
  have hRequests := fetches_requests fromEnv_twoProxies hRun
  exact ⟨s, hRun, hClients, (hRequests.2.2.2 (by simp)).1⟩

end Requests

section Returns

variable {parse : String → Except String InventoryResponse} {pool : Option InventoryProxyPool}
  {actions : List (TaskAction String SteamReply)} {replies : List SteamReply}
  {s : Tasks String (Option InventoryProxyPool) Route (Except InventoryError InventoryResponse)}
  {total attempt now index : Nat} {send : Nat → SteamReply}

/-- The server answers attempt `k` with reply `k`. -/
def Serves (send : Nat → SteamReply) (replies : List SteamReply) : Prop :=
  ∀ (k : Nat) (reply : SteamReply), replies[k]? = some reply → send k = reply

theorem Serves.of_snoc {reply : SteamReply} (h : Serves send (replies ++ [reply])) :
    Serves send replies ∧ send replies.length = reply := by
  refine ⟨fun k old hOld => h k old ?_, h _ _ List.getElem?_concat_length⟩
  rw [List.getElem?_append_left (List.getElem?_eq_some_iff.mp hOld).1, hOld]

/-- Behind `done` attempts, the search for a page is left with the other attempts. -/
def LeftWith (parse : String → Except String InventoryResponse) (total done : Nat)
    (replies : List SteamReply) : Prop :=
  ∀ send, Serves send replies → ∃ lastError,
    fetchAttempts parse total send total none =
      fetchAttempts parse total send (total - done) lastError

def FetchStands (parse : String → Except String InventoryResponse) (total : Nat)
    (replies : List SteamReply) : TaskPhase (Except InventoryError InventoryResponse) → Prop
  | .ready attempt | .sent attempt =>
      replies.length = attempt ∧ attempt < total ∧ LeftWith parse total attempt replies
  | .sleeping attempt _ =>
      replies.length = attempt + 1 ∧ attempt + 1 < total ∧
        LeftWith parse total (attempt + 1) replies
  | .ended result => replies.length ≤ total ∧
      ∀ send, Serves send replies → fetchAttempts parse total send total none = result

/-- What a reply leaves of the attempts. -/
def fetchNext (parse : String → Except String InventoryResponse) (total : Nat)
    (send : Nat → SteamReply) (attempt : Nat) (lastError : Option InventoryError) :
    SteamReply → Except InventoryError InventoryResponse
  | .error error =>
      fetchAttempts parse total send (total - (attempt + 1)) (some (.requestFailed error))
  | .ok response =>
      if response.status = 429 ∧ attempt + 1 < total then
        fetchAttempts parse total send (total - (attempt + 1)) lastError
      else parseInventoryResponse parse response

theorem fetchAttempts_eq_next {lastError : Option InventoryError} (h : attempt < total) :
    fetchAttempts parse total send (total - attempt) lastError =
      fetchNext parse total send attempt lastError (send attempt) := by
  have hLeft : total - attempt = total - (attempt + 1) + 1 := by omega
  have hAttempt : total - (total - (attempt + 1) + 1) = attempt := by omega
  have hMore : total - (attempt + 1) ≠ 0 ↔ attempt + 1 < total := by omega
  rw [hLeft, fetchAttempts, hAttempt]
  cases send attempt with
  | error => rfl
  | ok response => simp only [fetchNext, hMore]

theorem LeftWith.next (hLimit : attempt < total) (h : LeftWith parse total attempt replies)
    (hLength : replies.length = attempt) {reply : SteamReply}
    (hServes : Serves send (replies ++ [reply])) :
    ∃ lastError, fetchAttempts parse total send total none =
      fetchNext parse total send attempt lastError reply := by
  obtain ⟨hOld, rfl⟩ := hServes.of_snoc
  obtain ⟨lastError, hSame⟩ := h send hOld
  rw [fetchAttempts_eq_next hLimit] at hSame
  exact ⟨lastError, hLength ▸ hSame⟩

theorem fetchStands_reply (reply : SteamReply)
    (h : FetchStands parse (maxAttempts (poolSize pool)) replies (.sent attempt)) :
    FetchStands parse (maxAttempts (poolSize pool)) (replies ++ [reply])
      (((fetchLoop parse pool).verdict attempt reply).phase now attempt) := by
  obtain ⟨hLength, hLimit, hLeft⟩ := h
  have hMore : (replies ++ [reply]).length = attempt + 1 := by simp [hLength]
  cases reply with
  | error error =>
      simp only [fetchLoop]
      split
      · refine ⟨hMore, ‹_›, fun send hServes => ?_⟩
        obtain ⟨_, hSame⟩ := hLeft.next hLimit hLength hServes
        exact ⟨some (.requestFailed error), hSame⟩
      · refine ⟨by omega, fun send hServes => ?_⟩
        obtain ⟨_, hSame⟩ := hLeft.next hLimit hLength hServes
        rw [hSame, fetchNext, show maxAttempts (poolSize pool) - (attempt + 1) = 0 by omega]
        rfl
  | ok response =>
      simp only [fetchLoop]
      split
      · next hBusy =>
          refine ⟨hMore, hBusy.2, fun send hServes => ?_⟩
          obtain ⟨lastError, hSame⟩ := hLeft.next hLimit hLength hServes
          exact ⟨lastError, hSame.trans (if_pos hBusy)⟩
      · next hDone =>
          refine ⟨by omega, fun send hServes => ?_⟩
          obtain ⟨_, hSame⟩ := hLeft.next hLimit hLength hServes
          exact hSame.trans (if_neg hDone)

theorem fetchStands_rule (parse : String → Except String InventoryResponse)
    (pool : Option InventoryProxyPool) :
    (fetchLoop parse pool).Rule (FetchStands parse (maxAttempts (poolSize pool))) where
  start := ⟨rfl, (fetchLoop_bounded parse pool).pos, fun _ _ => ⟨none, rfl⟩⟩
  send _ _ h := h
  reply _ _ _ reply h := fetchStands_reply reply h
  wake _ _ _ h := h

/-- What a fetch returns depends on the replies to its own attempts alone, whatever the
other fetches take from the pool. It is what the attempts return one after the other. -/
theorem fetch_refines {url : String} {result : Except InventoryError InventoryResponse}
    (hRun : run (fetchLoop parse pool).step (fetchLoop parse pool).start actions = some s)
    (hFetch : s.tasks[index]? = some ⟨url, .ended result⟩) :
    (repliesTo index actions).length ≤ maxAttempts (poolSize pool) ∧
      ∀ send, (∀ (k : Nat) (reply : SteamReply), (repliesTo index actions)[k]? = some reply →
        send k = reply) → fetchInventoryResponse parse (poolSize pool) send = result :=
  (fetchStands_rule parse pool).of_run hRun hFetch

/-- The second of the two fetches finds the inventory closed. -/
def closedRun : List (TaskAction String SteamReply) :=
  busyRun.append [.reply 1 (.ok ⟨403, "403 Forbidden", .ok ""⟩)]

theorem fetch_refines_closed :
    ∃ s, run twoFetches.step twoFetches.start closedRun = some s ∧
      s.tasks[1]? = some ⟨"/second", .ended (.error .privateInventory)⟩ ∧
      fetchInventoryResponse (fun _ => .error "EOF while parsing a value") (some 2)
        ((repliesTo 1 closedRun).getD · (.error "connection closed")) =
          .error .privateInventory := by
  have hEnd : (run twoFetches.step twoFetches.start closedRun).bind (fun s => s.tasks[1]?) =
      some ⟨"/second", .ended (.error .privateInventory)⟩ := by
    decide +kernel
  obtain ⟨s, hRun, hFetch⟩ := Option.bind_eq_some_iff.mp hEnd
  refine ⟨s, hRun, hFetch, (fetch_refines hRun hFetch).2 _ fun k reply hReply => ?_⟩
  rw [List.getD_eq_getElem?_getD, hReply, Option.getD_some]

end Returns

end SettlementOracle
