import SettlementOracle.Checked.Abi
import SettlementOracle.Settlement.RpcReplies

/-! Many reads of the escrow at once. They share one client, each of them makes its
three calls, and a read whose first answers pass the checks makes two calls more. -/
namespace SettlementOracle.Rpc

open Checked

/-- The view functions that the reader asks for. -/
inductive Query where
  | purchases (assetId : UInt64)
  | listings (assetId : UInt64)
  | abandonedWindow
  | getSteamIdByWallet (wallet : Address)
  deriving DecidableEq

def Query.signature : Query → String
  | .purchases _ => "purchases(uint64)"
  | .listings _ => "listings(uint64)"
  | .abandonedWindow => "abandonedWindow()"
  | .getSteamIdByWallet _ => "getSteamIdByWallet(address)"

/-- The arguments as words of the ABI. -/
def Query.arguments : Query → List UInt8
  | .purchases assetId | .listings assetId => bigEndian 32 assetId.toNat
  | .abandonedWindow => []
  | .getSteamIdByWallet wallet => leftPad 32 wallet.toList

/-- The contracts of the reader, and what it uses of the ABI library: the selector of
a signature, and the decoders of the returned values. -/
structure ChainReader where
  jjskinAddress : Address
  factoryAddress : Address
  displayAddress : Address → String
  selector : String → List UInt8
  decodePurchase : List UInt8 → Except String Purchase
  decodeListing : List UInt8 → Except String Listing
  decodeWord : List UInt8 → Except String (BitVec 256)
  printer : Printer

def ChainReader.target (reader : ChainReader) : Query → Address
  | .purchases _ | .listings _ | .abandonedWindow => reader.jjskinAddress
  | .getSteamIdByWallet _ => reader.factoryAddress

def ChainReader.call (reader : ChainReader) (query : Query) : Call where
  toAddress := reader.displayAddress (reader.target query)
  data := reader.selector query.signature ++ query.arguments

abbrev Client := Tasks Call UInt64 Request (Except String (List UInt8))

/-- The calls of a batch are made together. -/
def Client.join (client : Client) (calls : List Call) : Client :=
  { client with tasks := client.tasks ++ calls.map fun call => ⟨call, .ready 0⟩ }

/-- What a call has returned. -/
def Client.result (client : Client) (index : Nat) : Option (Except String (List UInt8)) :=
  client.tasks[index]?.bind fun task =>
    match task.phase with
    | .ended result => some result
    | _ => none

def Client.answer {α : Type} (client : Client) (decode : List UInt8 → Except String α)
    (index : Nat) : Option (CallResult α) :=
  (client.result index).map (callResult decode)

/-- A `read_escrow` in progress. Its three calls start at `first`, and the two calls for
the wallets at `second`. -/
structure ReadTask where
  assetId : UInt64
  first : Nat
  second : Option Nat
  deriving DecidableEq, Repr

/-- The reads over the client, and the chain that the node looks at. -/
structure ReaderState where
  chain : ChainState
  client : Client
  reads : List ReadTask

inductive ReaderAction where
  | advance (next : ChainState)
  | read (assetId : UInt64)
  | proceed (index : Nat)
  | call (action : TaskAction Call Reply)

section Machine

variable (reader : ChainReader)

/-- The first batch of a read, once it has been answered and has passed its checks. -/
def ReadTask.accepted (client : Client) (task : ReadTask) : Option (Purchase × Listing) :=
  match client.answer reader.decodePurchase task.first,
      client.answer reader.decodeListing (task.first + 1),
      client.answer reader.decodeWord (task.first + 2) with
  | some (.ok purchase), some (.ok listing), some (.ok _) =>
      if purchase.buyer ≠ zeroAddress ∧ purchase.status = 0 ∧ listing.listed = true then
        some (purchase, listing)
      else none
  | _, _, _ => none

/-- The answers of a read whose calls have ended. A first batch that passes its checks
waits for the second one. -/
def ReadTask.answers (client : Client) (task : ReadTask) : Option ChainAnswers := do
  let purchases ← client.answer reader.decodePurchase task.first
  let listings ← client.answer reader.decodeListing (task.first + 1)
  let abandonedWindow ← client.answer reader.decodeWord (task.first + 2)
  match task.second with
  | some second =>
      let seller ← client.answer reader.decodeWord second
      let buyer ← client.answer reader.decodeWord (second + 1)
      some ⟨purchases, listings, abandonedWindow, fun _ => seller, fun _ => buyer⟩
  | none =>
      if (task.accepted reader client).isSome then none
      else
        let unread : CallResult (BitVec 256) := .error (.transport "eth_call failed")
        some ⟨purchases, listings, abandonedWindow, fun _ => unread, fun _ => unread⟩

/-- What `read_escrow` returns, once it does. -/
def ReadTask.outcome (client : Client) (task : ReadTask) :
    Option (Except String EscrowSnapshot) :=
  (task.answers reader client).map (readEscrow reader.displayAddress task.assetId)

def readerStart (chain : ChainState) : ReaderState where
  chain
  client := (ethCallLoop reader.printer).start
  reads := []

def firstBatch (assetId : UInt64) : List Query :=
  [.purchases assetId, .listings assetId, .abandonedWindow]

def secondBatch (purchase : Purchase) (listing : Listing) : List Query :=
  [.getSteamIdByWallet listing.seller, .getSteamIdByWallet purchase.buyer]

/-- One step of the chain, of a read or of the client. -/
def readerStep (s : ReaderState) : ReaderAction → Option ReaderState
  | .advance next => some { s with chain := next }
  | .read assetId => some { s with
      client := s.client.join ((firstBatch assetId).map reader.call)
      reads := s.reads ++ [⟨assetId, s.client.tasks.length, none⟩] }
  | .proceed index =>
      match s.reads[index]? with
      | some ⟨assetId, first, none⟩ =>
          match ReadTask.accepted reader s.client ⟨assetId, first, none⟩ with
          | some (purchase, listing) => some { s with
              client := s.client.join ((secondBatch purchase listing).map reader.call)
              reads := s.reads.set index ⟨assetId, first, some s.client.tasks.length⟩ }
          | none => none
      | _ => none
  | .call (.spawn _) => none
  | .call action => ((ethCallLoop reader.printer).step s.client action).map fun client =>
      { s with client }

/-- What a read asks for, with the calls it does so by. -/
def ReadTask.queries (client : Client) (task : ReadTask) : List (Nat × Query) :=
  [(task.first, .purchases task.assetId), (task.first + 1, .listings task.assetId),
    (task.first + 2, .abandonedWindow)] ++
    match task.second, task.accepted reader client with
    | some second, some (purchase, listing) =>
        [(second, .getSteamIdByWallet listing.seller),
          (second + 1, .getSteamIdByWallet purchase.buyer)]
    | _, _ => []

end Machine

/-- What one step can do. -/
inductive ReaderMove (reader : ChainReader) (s : ReaderState) : ReaderAction → ReaderState → Prop
    where
  | advance (next : ChainState) : ReaderMove reader s (.advance next) { s with chain := next }
  | read (assetId : UInt64) : ReaderMove reader s (.read assetId) { s with
      client := s.client.join ((firstBatch assetId).map reader.call)
      reads := s.reads ++ [⟨assetId, s.client.tasks.length, none⟩] }
  | proceed {index first : Nat} {assetId : UInt64} {purchase : Purchase} {listing : Listing}
      (hRead : s.reads[index]? = some ⟨assetId, first, none⟩)
      (hAccepted : ReadTask.accepted reader s.client ⟨assetId, first, none⟩ =
        some (purchase, listing)) :
      ReaderMove reader s (.proceed index) { s with
        client := s.client.join ((secondBatch purchase listing).map reader.call)
        reads := s.reads.set index ⟨assetId, first, some s.client.tasks.length⟩ }
  | call {action : TaskAction Call Reply} {client : Client}
      (hSpawn : ∀ call, action ≠ .spawn call)
      (hMove : (ethCallLoop reader.printer).Move s.client action client) :
      ReaderMove reader s (.call action) { s with client }

section Moves

variable {reader : ChainReader} {s s' : ReaderState} {action : ReaderAction}

theorem readerMove_of_step (h : readerStep reader s action = some s') :
    ReaderMove reader s action s' := by
  cases action with
  | advance next =>
      cases h
      exact .advance next
  | read assetId =>
      cases h
      exact .read assetId
  | proceed index =>
      simp only [readerStep] at h
      split at h
      · split at h
        · cases h
          exact .proceed ‹_› ‹_›
        · cases h
      · cases h
  | call action =>
      cases action with
      | spawn => cases h
      | tick | send | reply | wake =>
          simp only [readerStep] at h
          obtain ⟨client, hStep, rfl⟩ := Option.map_eq_some_iff.mp h
          exact .call nofun (RetryLoop.move_of_step hStep)

end Moves

/-- The calls of the client keep their contents and their results. -/
def Client.Grows (client later : Client) : Prop :=
  ∀ (index : Nat) (call : Call) (phase : TaskPhase (Except String (List UInt8))),
    client.tasks[index]? = some ⟨call, phase⟩ →
      ∃ phase', later.tasks[index]? = some ⟨call, phase'⟩ ∧
        ∀ result, phase = .ended result → phase' = .ended result

section Growth

variable {reader : ChainReader} {client later : Client} {calls : List Call} {index : Nat}
  {call : Call} {task : ReadTask} {action : TaskAction Call Reply}

theorem Client.result_eq_some_iff {result : Except String (List UInt8)} :
    client.result index = some result ↔
      ∃ call, client.tasks[index]? = some ⟨call, .ended result⟩ := by
  simp only [Client.result, Option.bind_eq_some_iff]
  constructor
  · rintro ⟨⟨call, phase⟩, hTask, hPhase⟩
    cases phase with
    | ended found =>
        cases hPhase
        exact ⟨call, hTask⟩
    | ready | sent | sleeping => cases hPhase
  · rintro ⟨call, hTask⟩
    exact ⟨_, hTask, rfl⟩

theorem Client.grows_join (client : Client) (calls : List Call) :
    client.Grows (client.join calls) := by
  intro index call phase hTask
  refine ⟨phase, ?_, fun _ hPhase => hPhase⟩
  exact (List.getElem?_append_left (List.getElem?_eq_some_iff.mp hTask).1).trans hTask

theorem Client.getElem?_join {offset : Nat} (h : calls[offset]? = some call) :
    (client.join calls).tasks[client.tasks.length + offset]? = some ⟨call, .ready 0⟩ := by
  simp only [Client.join]
  rw [List.getElem?_append_right (Nat.le_add_right _ _), Nat.add_sub_cancel_left,
    List.getElem?_map, h, Option.map_some]

theorem Client.grows_set {key : Call} {old phase : TaskPhase (Except String (List UInt8))}
    (hTask : client.tasks[index]? = some ⟨key, old⟩) (hOpen : ∀ result, old ≠ .ended result) :
    client.Grows (client.set index key phase) := by
  intro other call own hOther
  rcases eq_or_ne index other with rfl | hNe
  · cases hTask.symm.trans hOther
    refine ⟨phase, List.getElem?_set_self (List.getElem?_eq_some_iff.mp hTask).1, ?_⟩
    exact fun result hEnded => absurd hEnded (hOpen result)
  · exact ⟨own, (List.getElem?_set_ne hNe).trans hOther, fun _ hPhase => hPhase⟩

theorem Client.grows_move (hMove : (ethCallLoop reader.printer).Move client action later) :
    client.Grows later := by
  cases hMove with
  | tick => exact fun _ _ phase hTask => ⟨phase, hTask, fun _ hPhase => hPhase⟩
  | spawn call => exact client.grows_join [call]
  | send hTask => exact Client.grows_set hTask nofun
  | reply hTask => exact Client.grows_set hTask nofun
  | wake hTask => exact Client.grows_set hTask nofun

/-- Only a spawn adds a call. -/
theorem Client.length_move (hSpawn : ∀ call, action ≠ .spawn call)
    (hMove : (ethCallLoop reader.printer).Move client action later) :
    later.tasks.length = client.tasks.length := by
  cases hMove with
  | spawn call => exact absurd rfl (hSpawn call)
  | tick => rfl
  | send | reply | wake => exact List.length_set

theorem Client.Grows.result {found : Except String (List UInt8)} (h : client.Grows later)
    (hResult : client.result index = some found) : later.result index = some found := by
  obtain ⟨call, hTask⟩ := Client.result_eq_some_iff.mp hResult
  obtain ⟨phase, hLater, hEnded⟩ := h index call _ hTask
  obtain rfl := hEnded found rfl
  exact Client.result_eq_some_iff.mpr ⟨call, hLater⟩

theorem Client.Grows.answer {α : Type} {decode : List UInt8 → Except String α}
    {found : CallResult α} (h : client.Grows later)
    (hAnswer : client.answer decode index = some found) : later.answer decode index = some found := by
  obtain ⟨result, hResult, rfl⟩ := Option.map_eq_some_iff.mp hAnswer
  exact Option.map_eq_some_iff.mpr ⟨result, h.result hResult, rfl⟩

theorem ReadTask.accepted_eq_some_iff {purchase : Purchase} {listing : Listing} :
    task.accepted reader client = some (purchase, listing) ↔
      client.answer reader.decodePurchase task.first = some (.ok purchase) ∧
      client.answer reader.decodeListing (task.first + 1) = some (.ok listing) ∧
      (∃ window, client.answer reader.decodeWord (task.first + 2) = some (.ok window)) ∧
      purchase.buyer ≠ zeroAddress ∧ purchase.status = 0 ∧ listing.listed = true := by
  unfold ReadTask.accepted
  constructor
  · intro h
    split at h
    · split at h
      · cases h
        exact ⟨‹_›, ‹_›, ⟨_, ‹_›⟩, ‹_›⟩
      · cases h
    · cases h
  · rintro ⟨hPurchase, hListing, ⟨window, hWindow⟩, hChecks⟩
    simp [hPurchase, hListing, hWindow, hChecks]

theorem Client.Grows.accepted {parties : Purchase × Listing} (h : client.Grows later)
    (hAccepted : task.accepted reader client = some parties) :
    task.accepted reader later = some parties := by
  obtain ⟨purchase, listing⟩ := parties
  obtain ⟨hPurchase, hListing, ⟨window, hWindow⟩, hChecks⟩ :=
    ReadTask.accepted_eq_some_iff.mp hAccepted
  exact ReadTask.accepted_eq_some_iff.mpr
    ⟨h.answer hPurchase, h.answer hListing, ⟨window, h.answer hWindow⟩, hChecks⟩

end Growth

/-- Every call belongs to a read, and asks what the read wants to know. A read has its
second batch behind an accepted first one. -/
structure ReadsInv (reader : ChainReader) (s : ReaderState) : Prop where
  asks : ∀ task ∈ s.reads, ∀ (index : Nat) (query : Query),
    (index, query) ∈ task.queries reader s.client →
      ∃ phase, s.client.tasks[index]? = some ⟨reader.call query, phase⟩
  second : ∀ task ∈ s.reads, ∀ second, task.second = some second →
    task.first + 3 ≤ second ∧ ∃ parties, task.accepted reader s.client = some parties
  owned : ∀ index < s.client.tasks.length, ∃ task ∈ s.reads, ∃ query,
    (index, query) ∈ task.queries reader s.client
  count : s.client.tasks.length =
    3 * s.reads.length + 2 * s.reads.countP fun task => task.second.isSome

section Reads

variable {reader : ChainReader} {s s' : ReaderState} {action : ReaderAction}
  {actions : List ReaderAction} {chain : ChainState} {task : ReadTask} {client later : Client}

/-- What a read asks for does not change while its calls go on. -/
theorem ReadTask.queries_grow (h : client.Grows later)
    (hSecond : ∀ second, task.second = some second →
      ∃ parties, task.accepted reader client = some parties) :
    task.queries reader later = task.queries reader client := by
  unfold ReadTask.queries
  cases hTask : task.second with
  | none => rfl
  | some second =>
      obtain ⟨parties, hParties⟩ := hSecond second hTask
      rw [hParties, h.accepted hParties]

theorem ReadsInv.queries (h : ReadsInv reader s) (hTask : task ∈ s.reads)
    (hGrows : s.client.Grows later) :
    task.queries reader later = task.queries reader s.client := by
  apply ReadTask.queries_grow hGrows
  intro second hSecond
  exact (h.second task hTask second hSecond).2

/-- A read keeps its calls while the client goes on. -/
theorem ReadsInv.kept (h : ReadsInv reader s) (hGrows : s.client.Grows later)
    (hTask : task ∈ s.reads) :
    (∀ (index : Nat) (query : Query), (index, query) ∈ task.queries reader later →
      ∃ phase, later.tasks[index]? = some ⟨reader.call query, phase⟩) ∧
    ∀ second, task.second = some second →
      task.first + 3 ≤ second ∧ ∃ parties, task.accepted reader later = some parties := by
  constructor
  · intro index query hMem
    rw [h.queries hTask hGrows] at hMem
    obtain ⟨phase, hCall⟩ := h.asks task hTask index query hMem
    obtain ⟨phase', hLater, _⟩ := hGrows index _ phase hCall
    exact ⟨phase', hLater⟩
  · intro second hSecond
    obtain ⟨hFirst, parties, hParties⟩ := h.second task hTask second hSecond
    exact ⟨hFirst, parties, hGrows.accepted hParties⟩

/-- The first batch of a new read. -/
theorem queries_read (client : Client) (assetId : UInt64) (calls : List Call) :
    ReadTask.queries reader (client.join calls) ⟨assetId, client.tasks.length, none⟩ =
      [(client.tasks.length + 0, .purchases assetId), (client.tasks.length + 1, .listings assetId),
        (client.tasks.length + 2, .abandonedWindow)] := rfl

theorem ReadsInv.read (h : ReadsInv reader s) (assetId : UInt64) : ReadsInv reader { s with
    client := s.client.join ((firstBatch assetId).map reader.call)
    reads := s.reads ++ [⟨assetId, s.client.tasks.length, none⟩] } := by
  have hGrows := s.client.grows_join ((firstBatch assetId).map reader.call)
  constructor
  · intro task hTask index query hMem
    obtain hOld | hNew := List.mem_append.mp hTask
    · exact (h.kept hGrows hOld).1 index query hMem
    · obtain rfl := List.mem_singleton.mp hNew
      rw [queries_read] at hMem
      simp only [List.mem_cons, List.not_mem_nil, or_false, Prod.mk.injEq] at hMem
      obtain ⟨rfl, rfl⟩ | ⟨rfl, rfl⟩ | ⟨rfl, rfl⟩ := hMem <;>
        exact ⟨_, Client.getElem?_join rfl⟩
  · intro task hTask second hSecond
    obtain hOld | hNew := List.mem_append.mp hTask
    · exact (h.kept hGrows hOld).2 second hSecond
    · obtain rfl := List.mem_singleton.mp hNew
      cases hSecond
  · intro index hIndex
    rcases Nat.lt_or_ge index s.client.tasks.length with hOld | hNew
    · obtain ⟨task, hTask, query, hMem⟩ := h.owned index hOld
      refine ⟨task, List.mem_append_left _ hTask, query, ?_⟩
      rwa [h.queries hTask hGrows]
    · refine ⟨_, List.mem_append_right _ (List.mem_singleton.mpr rfl), ?_⟩
      rw [queries_read]
      simp only [Client.join, List.length_append, List.length_map, firstBatch, List.length_cons,
        List.length_nil] at hIndex
      obtain rfl | rfl | rfl : index = s.client.tasks.length + 0 ∨
          index = s.client.tasks.length + 1 ∨ index = s.client.tasks.length + 2 := by omega
      · exact ⟨.purchases assetId, by simp⟩
      · exact ⟨.listings assetId, by simp⟩
      · exact ⟨.abandonedWindow, by simp⟩
  · have hCount := h.count
    simp only [Client.join, List.length_append, List.length_map, firstBatch, List.length_cons,
      List.length_nil, List.countP_append, List.countP_singleton, Option.isSome_none]
    simp only [Bool.false_eq_true, if_false]
    omega

/-- The first batch is where it was, and the second one stands behind all calls. -/
theorem queries_proceed {first : Nat} {assetId : UInt64} {purchase : Purchase} {listing : Listing}
    (hAccepted : ReadTask.accepted reader client ⟨assetId, first, none⟩ = some (purchase, listing))
    (calls : List Call) :
    ReadTask.queries reader (client.join calls) ⟨assetId, first, some client.tasks.length⟩ =
      ReadTask.queries reader client ⟨assetId, first, none⟩ ++
        [(client.tasks.length + 0, .getSteamIdByWallet listing.seller),
          (client.tasks.length + 1, .getSteamIdByWallet purchase.buyer)] := by
  have hSame : ReadTask.accepted reader (client.join calls)
      ⟨assetId, first, some client.tasks.length⟩ = some (purchase, listing) :=
    (client.grows_join calls).accepted hAccepted
  unfold ReadTask.queries
  rw [hSame]
  simp

/-- A read goes on to its second batch. -/
theorem ReadsInv.proceed (h : ReadsInv reader s) {index first : Nat} {assetId : UInt64}
    {purchase : Purchase} {listing : Listing}
    (hRead : s.reads[index]? = some ⟨assetId, first, none⟩)
    (hAccepted : ReadTask.accepted reader s.client ⟨assetId, first, none⟩ =
      some (purchase, listing)) :
    ReadsInv reader { s with
      client := s.client.join ((secondBatch purchase listing).map reader.call)
      reads := s.reads.set index ⟨assetId, first, some s.client.tasks.length⟩ } := by
  have hGrows := s.client.grows_join ((secondBatch purchase listing).map reader.call)
  have hMem := List.mem_of_getElem? hRead
  have hInside := (List.getElem?_eq_some_iff.mp hRead).1
  have hLater := hGrows.accepted hAccepted
  have hQueries := queries_proceed hAccepted ((secondBatch purchase listing).map reader.call)
  constructor
  · intro task hTask other query hQuery
    obtain hOld | rfl := List.mem_or_eq_of_mem_set hTask
    · exact (h.kept hGrows hOld).1 other query hQuery
    · rw [hQueries] at hQuery
      obtain hFirst | hSecond := List.mem_append.mp hQuery
      · obtain ⟨phase, hCall⟩ := h.asks _ hMem other query hFirst
        obtain ⟨phase', hCall', _⟩ := hGrows other _ phase hCall
        exact ⟨phase', hCall'⟩
      · simp only [List.mem_cons, List.not_mem_nil, or_false, Prod.mk.injEq] at hSecond
        obtain ⟨rfl, rfl⟩ | ⟨rfl, rfl⟩ := hSecond <;>
          exact ⟨_, Client.getElem?_join rfl⟩
  · intro task hTask second hSecond
    obtain hOld | rfl := List.mem_or_eq_of_mem_set hTask
    · exact (h.kept hGrows hOld).2 second hSecond
    · obtain rfl := Option.some.inj hSecond
      refine ⟨?_, _, hLater⟩
      obtain ⟨phase, hCall⟩ := h.asks _ hMem (first + 2) .abandonedWindow (by simp [ReadTask.queries])
      exact (List.getElem?_eq_some_iff.mp hCall).1
  · intro other hOther
    have hSet : (⟨assetId, first, some s.client.tasks.length⟩ : ReadTask) ∈
        s.reads.set index ⟨assetId, first, some s.client.tasks.length⟩ :=
      List.mem_set hInside _
    rcases Nat.lt_or_ge other s.client.tasks.length with hOld | hNew
    · obtain ⟨task, hTask, query, hQuery⟩ := h.owned other hOld
      rcases eq_or_ne task ⟨assetId, first, none⟩ with rfl | hNe
      · refine ⟨_, hSet, query, ?_⟩
        rw [hQueries]
        exact List.mem_append_left _ hQuery
      · refine ⟨task, mem_set_of_ne hRead hTask hNe, query, ?_⟩
        rwa [h.queries hTask hGrows]
    · refine ⟨_, hSet, ?_⟩
      rw [hQueries]
      simp only [Client.join, List.length_append, List.length_map, secondBatch, List.length_cons,
        List.length_nil] at hOther
      obtain rfl | rfl : other = s.client.tasks.length + 0 ∨
          other = s.client.tasks.length + 1 := by omega
      · exact ⟨.getSteamIdByWallet listing.seller, by simp⟩
      · exact ⟨.getSteamIdByWallet purchase.buyer, by simp⟩
  · have hCount := h.count
    have hSet : (s.reads.set index ⟨assetId, first, some s.client.tasks.length⟩).countP
          (fun task => task.second.isSome) + (none : Option Nat).isSome.toNat =
        s.reads.countP (fun task => task.second.isSome) +
          (some s.client.tasks.length).isSome.toNat :=
      countP_set_add hRead
    simp only [Option.isSome_none, Option.isSome_some, Bool.toNat_false, Bool.toNat_true] at hSet
    simp only [Client.join, List.length_append, List.length_map, secondBatch, List.length_cons,
      List.length_nil, List.length_set]
    omega

theorem ReadsInv.step (h : ReadsInv reader s) (hMove : ReaderMove reader s action s') :
    ReadsInv reader s' := by
  cases hMove with
  | advance => exact ⟨h.asks, h.second, h.owned, h.count⟩
  | read assetId => exact h.read assetId
  | proceed hRead hAccepted => exact h.proceed hRead hAccepted
  | @call action client hSpawn hMove =>
      have hGrows := Client.grows_move hMove
      have hLength := Client.length_move hSpawn hMove
      constructor
      · exact fun task hTask => (h.kept hGrows hTask).1
      · exact fun task hTask => (h.kept hGrows hTask).2
      · intro index hIndex
        obtain ⟨task, hTask, query, hMem⟩ := h.owned index (hLength ▸ hIndex)
        refine ⟨task, hTask, query, ?_⟩
        rwa [h.queries hTask hGrows]
      · exact hLength.trans h.count

theorem readsInv_of_run (hRun : run (readerStep reader) (readerStart reader chain) actions = some s) :
    ReadsInv reader s := by
  refine run_invariant (fun _ _ _ h hStep => h.step (readerMove_of_step hStep)) ?_ hRun
  exact ⟨nofun, nofun, nofun, rfl⟩

theorem run_join (client : Client) (calls : List Call) :
    run (ethCallLoop reader.printer).step client (calls.map TaskAction.spawn) =
      some (client.join calls) := by
  induction calls generalizing client with
  | nil => simp [Client.join]
  | cons call rest ih =>
      rw [List.map_cons, run_cons_eq_some]
      refine ⟨client.join [call], rfl, ?_⟩
      rw [ih]
      simp [Client.join]

/-- Behind the reads there is a run of the client. -/
theorem exists_client_run
    (hRun : run (readerStep reader) (readerStart reader chain) actions = some s) :
    ∃ calls, run (ethCallLoop reader.printer).step (ethCallLoop reader.printer).start calls =
      some s.client := by
  refine run_invariant (P := fun s => ∃ calls,
    run (ethCallLoop reader.printer).step (ethCallLoop reader.printer).start calls =
      some s.client) ?_ ⟨[], rfl⟩ hRun
  rintro s action next ⟨calls, hCalls⟩ hStep
  cases readerMove_of_step hStep with
  | advance => exact ⟨calls, hCalls⟩
  | read assetId => exact ⟨_, run_append_eq_some.mpr ⟨s.client, hCalls, run_join s.client _⟩⟩
  | proceed => exact ⟨_, run_append_eq_some.mpr ⟨s.client, hCalls, run_join s.client _⟩⟩
  | call _ hMove => exact ⟨_, run_snoc_eq_some.mpr ⟨s.client, hCalls, hMove.step⟩⟩

theorem ReadTask.query_cases {index : Nat} {query : Query}
    (h : (index, query) ∈ task.queries reader client) :
    query ∈ firstBatch task.assetId ∨ ∃ purchase listing,
      task.accepted reader client = some (purchase, listing) ∧
        query ∈ secondBatch purchase listing := by
  obtain hFirst | hSecond := List.mem_append.mp h
  · simp only [List.mem_cons, List.not_mem_nil, or_false, Prod.mk.injEq] at hFirst
    obtain ⟨_, rfl⟩ | ⟨_, rfl⟩ | ⟨_, rfl⟩ := hFirst <;> simp [firstBatch]
  · split at hSecond
    · rename_i purchase listing _ hAccepted
      refine Or.inr ⟨purchase, listing, hAccepted, ?_⟩
      simp only [List.mem_cons, List.not_mem_nil, or_false, Prod.mk.injEq] at hSecond
      obtain ⟨_, rfl⟩ | ⟨_, rfl⟩ := hSecond <;> simp [secondBatch]
    · cases hSecond

/-- In every interleaving of the reads, each request asks one of the two contracts for
something that a read wants to know, and carries the calldata of just this. The requests
stand in the order in which they draw their identifiers. The wallets are those of a first
batch that has passed its checks. A read costs nine requests at most, and six more behind
such a batch. -/
theorem readEscrow_requests
    (hRun : run (readerStep reader) (readerStart reader chain) actions = some s) :
    (∀ (k : Nat) (sent : SentRequest Call Request), s.client.log[k]? = some sent →
      ∃ task ∈ s.reads, ∃ query : Query,
        (query ∈ firstBatch task.assetId ∨ ∃ purchase listing,
          task.accepted reader s.client = some (purchase, listing) ∧
            query ∈ secondBatch purchase listing) ∧
        sent.request.toAddress = reader.displayAddress (reader.target query) ∧
        decodeHexResult sent.request.data =
          .ok (reader.selector query.signature ++ query.arguments) ∧
        sent.request.id = UInt64.ofNat (1 + k)) ∧
    s.client.log.length ≤ 9 * s.reads.length +
      6 * s.reads.countP fun task => (task.accepted reader s.client).isSome := by
  have hInv := readsInv_of_run hRun
  obtain ⟨calls, hClient⟩ := exists_client_run hRun
  have hLog : LogInv delay maxRetries s.client :=
    logInv_of_run (ethCallLoop_bounded reader.printer) hClient
  constructor
  · intro k sent hSent
    obtain ⟨phase, hCaller⟩ := hLog.known sent (List.mem_of_getElem? hSent)
    have hInside := (List.getElem?_eq_some_iff.mp hCaller).1
    obtain ⟨task, hTask, query, hQuery⟩ := hInv.owned sent.caller hInside
    obtain ⟨phase', hAsked⟩ := hInv.asks task hTask sent.caller query hQuery
    have hKey : sent.key = reader.call query := by
      have hSame := hCaller.symm.trans hAsked
      simp only [Option.some.injEq, Party.mk.injEq] at hSame
      exact hSame.1
    have hRequest := ids_of_run hClient k sent hSent
    rw [hKey] at hRequest
    refine ⟨task, hTask, query, ReadTask.query_cases hQuery, ?_, ?_, ?_⟩
    · rw [hRequest]
      rfl
    · rw [hRequest]
      exact decodeHexResult_hexEncode _
    · rw [hRequest]
      rfl
  · have hLength : s.client.log.length ≤ 3 * s.client.tasks.length := hLog.length_log_le
    have hSecond : (s.reads.countP fun task => task.second.isSome) ≤
        s.reads.countP fun task => (task.accepted reader s.client).isSome := by
      refine List.countP_mono_left fun task hTask hSome => ?_
      obtain ⟨second, hEq⟩ := Option.isSome_iff_exists.mp hSome
      exact Option.isSome_iff_exists.mpr (hInv.second task hTask second hEq).2
    have hCount := hInv.count
    omega

end Reads

section Sample

def sampleBuyer : Address := Vector.replicate 20 0x11

def sampleSeller : Address := Vector.replicate 20 0x22

def sampleSelector : String → List UInt8
  | "purchases(uint64)" => [14, 95, 240, 243]
  | "listings(uint64)" => [244, 173, 142, 55]
  | "abandonedWindow()" => [92, 32, 126, 59]
  | "getSteamIdByWallet(address)" => [232, 121, 172, 52]
  | _ => [0, 0, 0, 0]

def wordAt (bytes : List UInt8) (index : Nat) : Nat :=
  ((bytes.drop (32 * index)).take 32).foldl (fun value b => 256 * value + b.toNat) 0

/-- An address is the end of its word. -/
def addressAt (bytes : List UInt8) (index : Nat) : Address :=
  Vector.ofFn fun i => bytes.getD (32 * index + 12 + i) 0

def sampleReader : ChainReader where
  jjskinAddress := Vector.replicate 20 0x01
  factoryAddress := Vector.replicate 20 0x02
  displayAddress := fun address => "0x" ++ hexEncode address.toList
  selector := sampleSelector
  decodePurchase := fun bytes =>
    if bytes.length < 128 then .error "buffer overrun while deserializing"
    else .ok ⟨addressAt bytes 0, BitVec.ofNat 40 (wordAt bytes 1), UInt8.ofNat (wordAt bytes 2),
      BitVec.ofNat 48 (wordAt bytes 3)⟩
  decodeListing := fun bytes =>
    if bytes.length < 128 then .error "buffer overrun while deserializing"
    else .ok ⟨addressAt bytes 0, BitVec.ofNat 56 (wordAt bytes 1), wordAt bytes 2 ≠ 0⟩
  decodeWord := fun bytes =>
    if bytes.length < 32 then .error "buffer overrun while deserializing"
    else .ok (BitVec.ofNat 256 (wordAt bytes 0))
  printer := samplePrinter

def samplePurchase : Purchase := ⟨sampleBuyer, 1700000000, 0, 5823991127⟩

def sampleListing : Listing := ⟨sampleSeller, 25000000, true⟩

/-- The chain before and behind an update of the window. -/
def sampleChain (abandonedWindow : BitVec 256) : ChainState where
  purchases := fun _ => samplePurchase
  listings := fun _ => sampleListing
  abandonedWindow
  getSteamIdByWallet := fun wallet =>
    if wallet = sampleSeller then 76561198000000001 else 76561198000000002

def answered (bytes : List UInt8) : Reply :=
  .ok ⟨200, "200 OK", .ok (.object [("result", .string ("0x" ++ hexEncode bytes))])⟩

def samplePurchaseBytes : List UInt8 :=
  leftPad 32 sampleBuyer.toList ++ bigEndian 32 1700000000 ++ bigEndian 32 0 ++
    bigEndian 32 5823991127

def sampleListingBytes : List UInt8 :=
  leftPad 32 sampleSeller.toList ++ bigEndian 32 25000000 ++ bigEndian 32 1 ++ bigEndian 32 0

/-- Two reads share the client. The first one sends `purchases` again, and asks for the
wallets of its parties behind an accepted first batch. -/
def twoReads : List ReaderAction :=
  [.read 7, .call (.send 0), .call (.send 1), .call (.send 2),
    .call (.reply 0 (.error "connection refused")), .read 8,
    .call (.reply 1 (answered sampleListingBytes)),
    .call (.reply 2 (answered (bigEndian 32 604800))), .call (.send 5), .call (.tick 200),
    .call (.wake 0), .call (.send 0), .call (.reply 0 (answered samplePurchaseBytes)),
    .proceed 0, .call (.send 6), .call (.send 7)]

theorem readEscrow_requests_twoReads :
    ∃ s, run (readerStep sampleReader) (readerStart sampleReader (sampleChain 604800)) twoReads =
        some s ∧
      s.client.log.map (fun sent => (sent.caller, sent.request.id)) =
        [(0, 1), (1, 2), (2, 3), (5, 4), (0, 5), (6, 6), (7, 7)] ∧
      s.reads.map (fun task => (task.accepted sampleReader s.client).isSome) = [true, false] ∧
      s.client.log.length ≤ 9 * s.reads.length +
        6 * s.reads.countP fun task => (task.accepted sampleReader s.client).isSome := by
  have hLog : (run (readerStep sampleReader) (readerStart sampleReader (sampleChain 604800))
      twoReads).map (fun s => (s.client.log.map fun sent => (sent.caller, sent.request.id),
        s.reads.map fun task => (task.accepted sampleReader s.client).isSome)) =
        some ([(0, 1), (1, 2), (2, 3), (5, 4), (0, 5), (6, 6), (7, 7)], [true, false]) := by
    decide +kernel
  obtain ⟨s, hRun, hSeen⟩ := Option.map_eq_some_iff.mp hLog
  obtain ⟨hIds, hAccepted⟩ := Prod.mk.inj hSeen
  exact ⟨s, hRun, hIds, hAccepted, (readEscrow_requests hRun).2⟩

end Sample

end SettlementOracle.Rpc
