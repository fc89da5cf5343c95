import SettlementOracle.Settlement.ReadCalls

/-! The reads over the shared client refine the abstract read. Whatever the other reads
do, what a read sees of the run behind its beginning is a run of the abstract read, and
the read returns what that run returns. -/
namespace SettlementOracle.Rpc

open Checked

/-- A reply that decodes tells what the chain has for the query. -/
def Query.Honest (reader : ChainReader) (chain : ChainState) (reply : Reply) : Query → Prop
  | .purchases assetId =>
      Rpc.Honest reader.printer reader.decodePurchase (chain.purchases assetId) reply
  | .listings assetId =>
      Rpc.Honest reader.printer reader.decodeListing (chain.listings assetId) reply
  | .abandonedWindow => Rpc.Honest reader.printer reader.decodeWord chain.abandonedWindow reply
  | .getSteamIdByWallet wallet =>
      Rpc.Honest reader.printer reader.decodeWord (chain.getSteamIdByWallet wallet) reply

/-- A reply to a call of a read tells what the latest state of the chain has. -/
def ReaderState.Honest (reader : ChainReader) (s : ReaderState) : ReaderAction → Prop
  | .call (.reply index reply) => ∀ task ∈ s.reads, ∀ query : Query,
      (index, query) ∈ task.queries reader s.client → query.Honest reader s.chain reply
  | _ => True

/-- The replies in a run are honest. -/
def HonestNode (reader : ChainReader) : ReaderState → List ReaderAction → Prop
  | _, [] => True
  | s, action :: rest => s.Honest reader action ∧
      ∀ next, readerStep reader s action = some next → HonestNode reader next rest

def ReaderAction.update : ReaderAction → Option ChainState
  | .advance next => some next
  | _ => none

/-- The states of the chain in the course of a run. -/
def chainHistory (chain : ChainState) (actions : List ReaderAction) : List ChainState :=
  chain :: actions.filterMap ReaderAction.update

/-- What a read sees of an action: an update of the chain, or a reply to one of its own
calls as the attempt that it ends. -/
def ReadTask.view (reader : ChainReader) (task : ReadTask) : ReaderAction → Option ReadAction
  | .advance next => some (.advance next)
  | .call (.reply index reply) =>
      let attempt := fun {α : Type} (decode : List UInt8 → Except String α) =>
        attemptOf reader.printer decode reply
      if index = task.first then some (.purchases (attempt reader.decodePurchase))
      else if index = task.first + 1 then some (.listings (attempt reader.decodeListing))
      else if index = task.first + 2 then some (.abandonedWindow (attempt reader.decodeWord))
      else if task.second = some index then some (.sellerSteamId (attempt reader.decodeWord))
      else if task.second.map (· + 1) = some index then
        some (.buyerSteamId (attempt reader.decodeWord))
      else none
  | _ => none

/-- Read `index` began by its own action of the run, when `first` was the state of the
chain. The actions `later` followed. -/
def BegunAt (reader : ChainReader) (chain : ChainState) (actions : List ReaderAction)
    (index : Nat) (assetId : UInt64) (first : ChainState) (later : List ReaderAction) : Prop :=
  ∃ before s, actions = before ++ .read assetId :: later ∧
    run (readerStep reader) (readerStart reader chain) before = some s ∧
    s.reads.length = index ∧ s.chain = first

/-- The call at this place stands where the abstract call does. -/
def RefinesAt {α : Type} (decode : List UInt8 → Except String α) (client : Client) (index : Nat)
    (call : EthCall α) : Prop :=
  ∃ task, client.tasks[index]? = some task ∧ Refines decode call task.phase

/-- The second batch has not started, or stands where the abstract one does. -/
def SecondRefines (reader : ChainReader) (client : Client) (r : EscrowRead) : Option Nat → Prop
  | none => r.sellerSteamId = .start ∧ r.buyerSteamId = .start
  | some second => RefinesAt reader.decodeWord client second r.sellerSteamId ∧
      RefinesAt reader.decodeWord client (second + 1) r.buyerSteamId

structure Simulates (reader : ChainReader) (chain : ChainState) (client : Client)
    (task : ReadTask) (r : EscrowRead) : Prop where
  latest : r.latest = chain
  purchases : RefinesAt reader.decodePurchase client task.first r.purchases
  listings : RefinesAt reader.decodeListing client (task.first + 1) r.listings
  abandonedWindow : RefinesAt reader.decodeWord client (task.first + 2) r.abandonedWindow
  second : SecondRefines reader client r task.second

section Calls

variable {α : Type} {decode : List UInt8 → Except String α} {reader : ChainReader}
  {client : Client} {index slot attempt : Nat} {call : EthCall α} {key : Call}
  {old phase : TaskPhase (Except String (List UInt8))} {value : α}

theorem RefinesAt.answer_eq (h : RefinesAt decode client index call) :
    client.answer decode index = call.result := by
  obtain ⟨⟨key, phase⟩, hTask, hPhase⟩ := h
  unfold Client.answer Client.result
  rw [hTask, Option.bind_some]
  cases phase with
  | ended result => exact hPhase.symm
  | ready | sent | sleeping =>
      have hOpen : call.result = none := congrArg (Option.map Answer.result) hPhase.1
      exact hOpen.symm

theorem RefinesAt.join (h : RefinesAt decode client index call) (calls : List Call) :
    RefinesAt decode (client.join calls) index call := by
  obtain ⟨task, hTask, hPhase⟩ := h
  refine ⟨task, ?_, hPhase⟩
  exact (List.getElem?_append_left (List.getElem?_eq_some_iff.mp hTask).1).trans hTask

/-- A new call has made no attempt. -/
theorem RefinesAt.start {calls : List Call} (offset : Nat) (h : calls[offset]? = some key) :
    RefinesAt decode (client.join calls) (client.tasks.length + offset) .start :=
  ⟨_, Client.getElem?_join h, rfl, rfl⟩

theorem RefinesAt.set (h : RefinesAt decode client slot call)
    (hTask : client.tasks[index]? = some ⟨key, old⟩)
    (hPhase : slot = index → Refines decode call old → Refines decode call phase) :
    RefinesAt decode (client.set index key phase) slot call := by
  obtain ⟨task, hSlot, hCall⟩ := h
  rcases eq_or_ne index slot with rfl | hNe
  · cases hTask.symm.trans hSlot
    exact ⟨_, List.getElem?_set_self (List.getElem?_eq_some_iff.mp hTask).1, hPhase rfl hCall⟩
  · exact ⟨task, (List.getElem?_set_ne hNe).trans hSlot, hCall⟩

/-- The client behind a reply to the call at this place. -/
def Client.reply (reader : ChainReader) (client : Client) (index : Nat) (key : Call)
    (attempt : Nat) (reply : Reply) : Client :=
  client.set index key
    (((ethCallLoop reader.printer).verdict attempt reply).phase client.now attempt)

/-- A reply to the call at another place changes nothing. -/
theorem RefinesAt.elsewhere (h : RefinesAt decode client slot call) {reply : Reply}
    (hTask : client.tasks[index]? = some ⟨key, .sent attempt⟩) (hNe : slot ≠ index) :
    RefinesAt decode (client.reply reader index key attempt reply) slot call :=
  h.set hTask fun hEq => absurd hEq hNe

/-- A reply to the call is one attempt of the abstract call. -/
theorem RefinesAt.reply (h : RefinesAt decode client index call)
    {reply : Reply} (hTask : client.tasks[index]? = some ⟨key, .sent attempt⟩)
    (hHonest : Honest reader.printer decode value reply) (servedAt : Nat) :
    call.answer = none ∧ ∃ call',
      call.attempt value servedAt (attemptOf reader.printer decode reply) = some call' ∧
      RefinesAt decode (client.reply reader index key attempt reply) index call' := by
  obtain ⟨task, hSlot, hCall⟩ := h
  cases hTask.symm.trans hSlot
  obtain ⟨call', hAttempt, hNext⟩ := refines_reply client.now servedAt hCall hHonest
  refine ⟨hCall.1, call', hAttempt, ⟨key, _⟩, ?_, hNext⟩
  exact List.getElem?_set_self (List.getElem?_eq_some_iff.mp hTask).1

end Calls

section Simulation

variable {reader : ChainReader} {chain : ChainState} {client later : Client} {task : ReadTask}
  {r : EscrowRead} {index attempt : Nat} {key : Call}

theorem Simulates.accepted_eq (h : Simulates reader chain client task r) :
    task.accepted reader client = r.accepted := by
  unfold ReadTask.accepted
  rw [h.purchases.answer_eq, h.listings.answer_eq, h.abandonedWindow.answer_eq]
  rfl

/-- Both reads have the same answers. -/
theorem Simulates.answers_eq (h : Simulates reader chain client task r)
    (hSecond : ∀ second, task.second = some second →
      ∃ parties, task.accepted reader client = some parties) :
    task.answers reader client = r.answers := by
  have hCalls := h.second
  have hAccepted := h.accepted_eq
  unfold ReadTask.answers EscrowRead.answers
  rw [h.purchases.answer_eq, h.listings.answer_eq, h.abandonedWindow.answer_eq, ← hAccepted]
  cases hTask : task.second with
  | none =>
      rw [hTask] at hCalls
      obtain ⟨hSeller, hBuyer⟩ := hCalls
      rw [hSeller, hBuyer]
      simp only [EthCall.result, EthCall.start, Option.map_none, Option.bind_eq_bind,
        Option.bind_none]
  | some second =>
      obtain ⟨parties, hParties⟩ := hSecond second hTask
      rw [hTask] at hCalls
      obtain ⟨hSeller, hBuyer⟩ := hCalls
      simp only [hParties, hSeller.answer_eq, hBuyer.answer_eq, Option.isSome_some, if_true]

/-- The calls of the read go on as they were. -/
theorem Simulates.keep (h : Simulates reader chain client task r)
    (hKeep : ∀ {α : Type} {decode : List UInt8 → Except String α} {slot : Nat} {call : EthCall α},
      RefinesAt decode client slot call → RefinesAt decode later slot call) :
    Simulates reader chain later task r where
  latest := h.latest
  purchases := hKeep h.purchases
  listings := hKeep h.listings
  abandonedWindow := hKeep h.abandonedWindow
  second := by
    have hSecond := h.second
    cases hTask : task.second with
    | none => rwa [hTask] at hSecond
    | some second =>
        rw [hTask] at hSecond
        exact ⟨hKeep hSecond.1, hKeep hSecond.2⟩

/-- While one of its calls is open, the first batch has no second one. -/
theorem Simulates.second_eq_none (h : Simulates reader chain client task r)
    (hSecond : ∀ second, task.second = some second →
      ∃ parties, task.accepted reader client = some parties)
    (hOpen : r.purchases.answer = none ∨ r.listings.answer = none ∨
      r.abandonedWindow.answer = none) : task.second = none := by
  cases hTask : task.second with
  | none => rfl
  | some second =>
      obtain ⟨parties, hParties⟩ := hSecond second hTask
      rw [h.accepted_eq, EscrowRead.accepted_eq_none hOpen] at hParties
      cases hParties

/-- The read goes on through these steps of the abstract read, in which the chain stays
as it is. -/
def Continues (reader : ChainReader) (chain : ChainState) (later : Client) (task : ReadTask)
    (r : EscrowRead) (actions : List ReadAction) : Prop :=
  ∃ r' : EscrowRead, run (readStep task.assetId) r actions = some r' ∧ r'.states = r.states ∧
    Simulates reader chain later task r'

theorem ReadTask.view_seller (reader : ChainReader) (task : ReadTask) {second : Nat} {reply : Reply}
    (hSecond : task.second = some second) (hFirst : task.first + 3 ≤ second) :
    task.view reader (.call (.reply second reply)) =
      some (.sellerSteamId (attemptOf reader.printer reader.decodeWord reply)) := by
  simp only [ReadTask.view, if_neg (by omega : ¬second = task.first),
    if_neg (by omega : ¬second = task.first + 1), if_neg (by omega : ¬second = task.first + 2),
    if_pos hSecond]

theorem ReadTask.view_buyer (reader : ChainReader) (task : ReadTask) {second : Nat} {reply : Reply}
    (hSecond : task.second = some second) (hFirst : task.first + 3 ≤ second) :
    task.view reader (.call (.reply (second + 1) reply)) =
      some (.buyerSteamId (attemptOf reader.printer reader.decodeWord reply)) := by
  simp only [ReadTask.view, if_neg (by omega : ¬second + 1 = task.first),
    if_neg (by omega : ¬second + 1 = task.first + 1),
    if_neg (by omega : ¬second + 1 = task.first + 2), hSecond, Option.map_some, if_true]
  exact if_neg (by simp)

/-- A reply to a call of another read is not seen. -/
theorem ReadTask.view_elsewhere (reader : ChainReader) (task : ReadTask) {index : Nat}
    (reply : Reply)
    (hFirst : ¬(index = task.first ∨ index = task.first + 1 ∨ index = task.first + 2))
    (hSecond : ∀ second, task.second = some second → ¬(index = second ∨ index = second + 1)) :
    task.view reader (.call (.reply index reply)) = none := by
  simp only [not_or] at hFirst
  simp only [ReadTask.view, if_neg hFirst.1, if_neg hFirst.2.1, if_neg hFirst.2.2]
  rw [if_neg fun h => hSecond index h (Or.inl rfl), if_neg]
  intro h
  obtain ⟨second, hStarted, rfl⟩ := Option.map_eq_some_iff.mp h
  exact hSecond second hStarted (Or.inr rfl)

/-- The calls of the first batch are at their places. -/
theorem Simulates.reply_first {reply : Reply} (h : Simulates reader chain client task r)
    (hAccepted : ∀ second, task.second = some second →
      ∃ parties, task.accepted reader client = some parties)
    (hTask : client.tasks[index]? = some ⟨key, .sent attempt⟩)
    (hHonest : ∀ query : Query, (index, query) ∈ task.queries reader client →
      query.Honest reader chain reply)
    (hPlace : index = task.first ∨ index = task.first + 1 ∨ index = task.first + 2) :
    Continues reader chain (client.reply reader index key attempt reply) task r
      (task.view reader (.call (.reply index reply))).toList := by
  have hCalls := h.second
  obtain rfl | rfl | rfl := hPlace
  · have hQuery := hHonest (.purchases task.assetId) (by simp [ReadTask.queries])
    obtain ⟨hOpen, call, hAttempt, hCall⟩ := h.purchases.reply hTask hQuery r.past.length
    have hNone := h.second_eq_none hAccepted (Or.inl hOpen)
    refine ⟨{ r with purchases := call }, ?_, rfl, ?_⟩
    · simp [ReadTask.view, run, readStep, h.latest, hAttempt]
    · rw [hNone] at hCalls
      exact ⟨h.latest, hCall, h.listings.elsewhere hTask (by omega),
        h.abandonedWindow.elsewhere hTask (by omega), hNone ▸ hCalls⟩
  · have hQuery := hHonest (.listings task.assetId) (by simp [ReadTask.queries])
    obtain ⟨hOpen, call, hAttempt, hCall⟩ := h.listings.reply hTask hQuery r.past.length
    have hNone := h.second_eq_none hAccepted (Or.inr (Or.inl hOpen))
    refine ⟨{ r with listings := call }, ?_, rfl, ?_⟩
    · simp [ReadTask.view, run, readStep, h.latest, hAttempt]
    · rw [hNone] at hCalls
      exact ⟨h.latest, h.purchases.elsewhere hTask (by omega), hCall,
        h.abandonedWindow.elsewhere hTask (by omega), hNone ▸ hCalls⟩
  · have hQuery := hHonest .abandonedWindow (by simp [ReadTask.queries])
    obtain ⟨hOpen, call, hAttempt, hCall⟩ := h.abandonedWindow.reply hTask hQuery r.past.length
    have hNone := h.second_eq_none hAccepted (Or.inr (Or.inr hOpen))
    refine ⟨{ r with abandonedWindow := call }, ?_, rfl, ?_⟩
    · simp [ReadTask.view, run, readStep, h.latest, hAttempt]
    · rw [hNone] at hCalls
      exact ⟨h.latest, h.purchases.elsewhere hTask (by omega),
        h.listings.elsewhere hTask (by omega), hCall, hNone ▸ hCalls⟩

/-- The calls of the second batch are at their places behind the first one. -/
theorem Simulates.reply_second {reply : Reply} {second : Nat} {purchase : Purchase}
    {listing : Listing} (h : Simulates reader chain client task r)
    (hStarted : task.second = some second) (hFirst : task.first + 3 ≤ second)
    (hParties : task.accepted reader client = some (purchase, listing))
    (hTask : client.tasks[index]? = some ⟨key, .sent attempt⟩)
    (hHonest : ∀ query : Query, (index, query) ∈ task.queries reader client →
      query.Honest reader chain reply)
    (hPlace : index = second ∨ index = second + 1) :
    Continues reader chain (client.reply reader index key attempt reply) task r
      (task.view reader (.call (.reply index reply))).toList := by
  have hCalls := h.second
  rw [hStarted] at hCalls
  obtain ⟨hSeller, hBuyer⟩ := hCalls
  have hAbstract : r.accepted = some (purchase, listing) := h.accepted_eq ▸ hParties
  obtain rfl | rfl := hPlace
  · have hQuery := hHonest (.getSteamIdByWallet listing.seller)
      (by simp [ReadTask.queries, hStarted, hParties])
    obtain ⟨_, call, hAttempt, hCall⟩ := hSeller.reply hTask hQuery r.past.length
    refine ⟨{ r with sellerSteamId := call }, ?_, rfl, h.latest,
      h.purchases.elsewhere hTask (by omega), h.listings.elsewhere hTask (by omega),
      h.abandonedWindow.elsewhere hTask (by omega), ?_⟩
    · rw [task.view_seller reader hStarted hFirst]
      simp [run, readStep, hAbstract, h.latest, hAttempt]
    · rw [hStarted]
      exact ⟨hCall, hBuyer.elsewhere hTask (by omega)⟩
  · have hQuery := hHonest (.getSteamIdByWallet purchase.buyer)
      (by simp [ReadTask.queries, hStarted, hParties])
    obtain ⟨_, call, hAttempt, hCall⟩ := hBuyer.reply hTask hQuery r.past.length
    refine ⟨{ r with buyerSteamId := call }, ?_, rfl, h.latest,
      h.purchases.elsewhere hTask (by omega), h.listings.elsewhere hTask (by omega),
      h.abandonedWindow.elsewhere hTask (by omega), ?_⟩
    · rw [task.view_buyer reader hStarted hFirst]
      simp [run, readStep, hAbstract, h.latest, hAttempt]
    · rw [hStarted]
      exact ⟨hSeller.elsewhere hTask (by omega), hCall⟩

/-- A reply to one of the calls of the read is one attempt of the abstract read, and a
reply to any other call is none of its business. -/
theorem Simulates.reply {reply : Reply} (h : Simulates reader chain client task r)
    (hSecond : ∀ second, task.second = some second →
      task.first + 3 ≤ second ∧ ∃ parties, task.accepted reader client = some parties)
    (hTask : client.tasks[index]? = some ⟨key, .sent attempt⟩)
    (hHonest : ∀ query : Query, (index, query) ∈ task.queries reader client →
      query.Honest reader chain reply) :
    Continues reader chain (client.reply reader index key attempt reply) task r
      (task.view reader (.call (.reply index reply))).toList := by
  by_cases hFirst : index = task.first ∨ index = task.first + 1 ∨ index = task.first + 2
  · exact h.reply_first (fun second hEq => (hSecond second hEq).2) hTask hHonest hFirst
  by_cases hPlace : ∃ second, task.second = some second ∧ (index = second ∨ index = second + 1)
  · obtain ⟨second, hStarted, hPlace⟩ := hPlace
    obtain ⟨hBehind, ⟨purchase, listing⟩, hParties⟩ := hSecond second hStarted
    exact h.reply_second hStarted hBehind hParties hTask hHonest hPlace
  · have hView := task.view_elsewhere reader reply hFirst fun second hStarted hEq =>
      hPlace ⟨second, hStarted, hEq⟩
    refine ⟨r, by rw [hView]; rfl, rfl, h.latest, h.purchases.elsewhere hTask (by omega),
      h.listings.elsewhere hTask (by omega), h.abandonedWindow.elsewhere hTask (by omega), ?_⟩
    have hCalls := h.second
    cases hStarted : task.second with
    | none => rwa [hStarted] at hCalls
    | some second =>
        rw [hStarted] at hCalls
        have hNe : ¬(index = second ∨ index = second + 1) := fun hEq => hPlace ⟨second, hStarted, hEq⟩
        exact ⟨hCalls.1.elsewhere hTask (by omega), hCalls.2.elsewhere hTask (by omega)⟩

end Simulation

/-- What each read has seen of the run since it began is a run of the abstract read. -/
structure RefinementInv (reader : ChainReader) (chain : ChainState) (actions : List ReaderAction)
    (s : ReaderState) : Prop where
  reads : ∀ (index : Nat) (task : ReadTask), s.reads[index]? = some task →
    ∃ (first : ChainState) (later : List ReaderAction) (r : EscrowRead),
      BegunAt reader chain actions index task.assetId first later ∧
      run (readStep task.assetId) (.start first) (later.filterMap (task.view reader)) = some r ∧
      r.states = chainHistory first later ∧ Simulates reader s.chain s.client task r
  replied : ∀ (index : Nat) (reply : Reply), .call (.reply index reply) ∈ actions →
    index < s.client.tasks.length

section Runs

variable {reader : ChainReader} {s s' : ReaderState} {action : ReaderAction}
  {actions later : List ReaderAction} {chain first : ChainState} {task : ReadTask}
  {client : Client} {index : Nat} {assetId : UInt64} {r r' : EscrowRead}

theorem BegunAt.snoc (h : BegunAt reader chain actions index assetId first later)
    (action : ReaderAction) :
    BegunAt reader chain (actions ++ [action]) index assetId first (later ++ [action]) := by
  obtain ⟨before, s, rfl, hBefore⟩ := h
  exact ⟨before, s, by simp, hBefore⟩

theorem chainHistory_snoc (chain : ChainState) (actions : List ReaderAction)
    (action : ReaderAction) :
    chainHistory chain (actions ++ [action]) =
      chainHistory chain actions ++ action.update.toList := by
  cases hUpdate : action.update <;> simp [chainHistory, hUpdate]

/-- One more action of the run is what the read sees of it. -/
theorem run_view_snoc {α : Type} {step : α → ReadAction → Option α} {start now next : α}
    {view : ReaderAction → Option ReadAction}
    (hRun : run step start (later.filterMap view) = some now)
    (hNext : run step now (view action).toList = some next) :
    run step start ((later ++ [action]).filterMap view) = some next := by
  rw [List.filterMap_append]
  refine run_append_eq_some.mpr ⟨now, hRun, ?_⟩
  cases hView : view action with
  | none =>
      rw [hView] at hNext
      rwa [List.filterMap_cons_none hView]
  | some seen =>
      rw [hView] at hNext
      rwa [List.filterMap_cons_some hView]

/-- The reads of one state go on into the next one. -/
theorem RefinementInv.snoc {chain' : ChainState} (h : RefinementInv reader chain actions s)
    (hTask : s.reads[index]? = some task)
    (hNext : ∀ r, Simulates reader s.chain s.client task r →
      ∃ r', run (readStep task.assetId) r (task.view reader action).toList = some r' ∧
        r'.states = r.states ++ action.update.toList ∧
        Simulates reader chain' client task r') :
    ∃ (first : ChainState) (later : List ReaderAction) (r : EscrowRead),
      BegunAt reader chain (actions ++ [action]) index task.assetId first later ∧
      run (readStep task.assetId) (.start first) (later.filterMap (task.view reader)) = some r ∧
      r.states = chainHistory first later ∧ Simulates reader chain' client task r := by
  obtain ⟨first, later, r, hBegun, hRun, hStates, hSim⟩ := h.reads index task hTask
  obtain ⟨r', hStep, hSame, hSim'⟩ := hNext r hSim
  refine ⟨first, later ++ [action], r', hBegun.snoc action, run_view_snoc hRun hStep, ?_, hSim'⟩
  rw [hSame, hStates, chainHistory_snoc]

/-- Replies go to calls that have been made. -/
theorem RefinementInv.replied_snoc (h : RefinementInv reader chain actions s)
    (hMore : s.client.tasks.length ≤ client.tasks.length)
    (hAction : ∀ index reply, action = .call (.reply index reply) → index < client.tasks.length)
    (index : Nat) (reply : Reply) (hMem : .call (.reply index reply) ∈ actions ++ [action]) :
    index < client.tasks.length := by
  obtain hOld | hNew := List.mem_append.mp hMem
  · exact Nat.lt_of_lt_of_le (h.replied index reply hOld) hMore
  · exact hAction index reply (List.mem_singleton.mp hNew).symm

theorem RefinementInv.advance (h : RefinementInv reader chain actions s) (next : ChainState) :
    RefinementInv reader chain (actions ++ [.advance next]) { s with chain := next } where
  reads index task hTask := by
    refine h.snoc hTask fun r hSim => ⟨{ r with past := r.past ++ [r.latest], latest := next },
      rfl, rfl, ?_⟩
    exact ⟨rfl, hSim.purchases, hSim.listings, hSim.abandonedWindow, hSim.second⟩
  replied := h.replied_snoc (Nat.le_refl _) nofun

/-- An action of the client that a read does not see leaves its calls as they are. -/
theorem RefinementInv.keep (h : RefinementInv reader chain actions s) (action : ReaderAction)
    (hTask : s.reads[index]? = some task) (hUnseen : task.view reader action = none)
    (hUpdate : action.update = none)
    (hKeep : ∀ {α : Type} {decode : List UInt8 → Except String α} {slot : Nat} {call : EthCall α},
      RefinesAt decode s.client slot call → RefinesAt decode client slot call) :
    ∃ (first : ChainState) (later : List ReaderAction) (r : EscrowRead),
      BegunAt reader chain (actions ++ [action]) index task.assetId first later ∧
      run (readStep task.assetId) (.start first) (later.filterMap (task.view reader)) = some r ∧
      r.states = chainHistory first later ∧ Simulates reader s.chain client task r := by
  refine h.snoc hTask fun r hSim => ⟨r, ?_, ?_, hSim.keep hKeep⟩
  · rw [hUnseen]
    rfl
  · rw [hUpdate]
    exact (List.append_nil _).symm

theorem RefinementInv.read (h : RefinementInv reader chain actions s)
    (hRun : run (readerStep reader) (readerStart reader chain) actions = some s)
    (assetId : UInt64) :
    RefinementInv reader chain (actions ++ [.read assetId]) { s with
      client := s.client.join ((firstBatch assetId).map reader.call)
      reads := s.reads ++ [⟨assetId, s.client.tasks.length, none⟩] } where
  reads index task hTask := by
    by_cases hOld : index < s.reads.length
    · rw [List.getElem?_append_left hOld] at hTask
      exact h.keep _ hTask rfl rfl fun hCall => hCall.join ((firstBatch assetId).map reader.call)
    · rw [List.getElem?_append_right (by omega)] at hTask
      have hIndex : index = s.reads.length := by
        have hInside := (List.getElem?_eq_some_iff.mp hTask).1
        simp only [List.length_singleton] at hInside
        omega
      subst hIndex
      rw [Nat.sub_self] at hTask
      obtain rfl := Option.some.inj hTask
      refine ⟨s.chain, [], .start s.chain, ⟨actions, s, rfl, hRun, rfl, rfl⟩, rfl, rfl, rfl,
        RefinesAt.start 0 rfl, RefinesAt.start 1 rfl, RefinesAt.start 2 rfl, rfl, rfl⟩
  replied := h.replied_snoc (by simp [Client.join]) nofun

/-- A second batch starts behind all the replies so far, so that a read has seen none of
them as replies to it. -/
theorem view_proceed {first second : Nat} (hLater : ∀ (index : Nat) (reply : Reply),
      .call (.reply index reply) ∈ later → index < second) :
    later.filterMap (ReadTask.view reader ⟨assetId, first, some second⟩) =
      later.filterMap (ReadTask.view reader ⟨assetId, first, none⟩) := by
  refine List.filterMap_congr fun action hMem => ?_
  match action, hMem with
  | .call (.reply index reply), hMem =>
      have hEarly := hLater index reply hMem
      simp [ReadTask.view, show second ≠ index by omega, show second + 1 ≠ index by omega]
  | .advance next, _ | .read assetId, _ | .proceed index, _ | .call (.tick elapsed), _
  | .call (.spawn call), _ | .call (.send index), _ | .call (.wake index), _ => rfl

theorem RefinementInv.proceed (h : RefinementInv reader chain actions s) {place first : Nat}
    {purchase : Purchase} {listing : Listing}
    (hRead : s.reads[place]? = some ⟨assetId, first, none⟩) :
    RefinementInv reader chain (actions ++ [.proceed place]) { s with
      client := s.client.join ((secondBatch purchase listing).map reader.call)
      reads := s.reads.set place ⟨assetId, first, some s.client.tasks.length⟩ } where
  reads index task hTask := by
    have hJoin : ∀ {α : Type} {decode : List UInt8 → Except String α} {slot : Nat}
        {call : EthCall α}, RefinesAt decode s.client slot call →
          RefinesAt decode (s.client.join ((secondBatch purchase listing).map reader.call))
            slot call :=
      fun hCall => hCall.join _
    obtain ⟨rfl, rfl⟩ | hOther := getElem?_set_cases hTask
    · obtain ⟨start, later, r, ⟨before, s₀, hActions, hBefore⟩, hRun, hStates, hSim⟩ :=
        h.keep (.proceed place) hRead rfl rfl hJoin
      obtain ⟨hSeller, hBuyer⟩ := hSim.second
      refine ⟨start, later, r, ⟨before, s₀, hActions, hBefore⟩, ?_, hStates, hSim.latest,
        hSim.purchases, hSim.listings, hSim.abandonedWindow, ?_⟩
      · rw [view_proceed]
        · exact hRun
        · intro index reply hMem
          have hAll : .call (.reply index reply) ∈ actions ++ [.proceed place] := by
            rw [hActions]
            exact List.mem_append_right _ (List.mem_cons_of_mem _ hMem)
          exact h.replied_snoc (Nat.le_refl _) (by simp) index reply hAll
      · simp only [SecondRefines, hSeller, hBuyer]
        exact ⟨RefinesAt.start 0 rfl, RefinesAt.start 1 rfl⟩
    · exact h.keep _ hOther rfl rfl hJoin
  replied := h.replied_snoc (by simp [Client.join]) nofun

theorem RefinementInv.step (h : RefinementInv reader chain actions s)
    (hRun : run (readerStep reader) (readerStart reader chain) actions = some s)
    (hMove : ReaderMove reader s action s') (hHonest : s.Honest reader action) :
    RefinementInv reader chain (actions ++ [action]) s' := by
  have hInv := readsInv_of_run hRun
  cases hMove with
  | advance next => exact h.advance next
  | read assetId => exact h.read hRun assetId
  | proceed hRead => exact h.proceed hRead
  | call hSpawn hMove =>
      have hLength := Client.length_move hSpawn hMove
      constructor
      · intro place task hTask
        cases hMove with
        | tick => exact h.keep _ hTask rfl rfl id
        | spawn call => exact absurd rfl (hSpawn call)
        | send hCall => exact h.keep _ hTask rfl rfl fun hOwn => hOwn.set hCall fun _ hPhase => hPhase
        | wake hCall => exact h.keep _ hTask rfl rfl fun hOwn => hOwn.set hCall fun _ hPhase => hPhase
        | reply hCall =>
            have hMem := List.mem_of_getElem? hTask
            refine h.snoc hTask fun r hSim => ?_
            obtain ⟨r', hNext, hSame, hSim'⟩ :=
              hSim.reply (hInv.second task hMem) hCall (hHonest task hMem)
            exact ⟨r', hNext, hSame.trans (List.append_nil _).symm, hSim'⟩
      · refine h.replied_snoc hLength.ge fun index reply hEq => ?_
        cases hEq
        cases hMove with
        | reply hCall =>
            exact Nat.lt_of_lt_of_eq (List.getElem?_eq_some_iff.mp hCall).1 hLength.symm

theorem honestNode_snoc : HonestNode reader s (actions ++ [action]) ↔
    HonestNode reader s actions ∧
      ∀ last, run (readerStep reader) s actions = some last → last.Honest reader action := by
  induction actions generalizing s with
  | nil => simp [HonestNode]
  | cons first rest ih =>
      simp only [List.cons_append, HonestNode, ih, run_cons_eq_some]
      constructor
      · rintro ⟨hFirst, hRest⟩
        refine ⟨⟨hFirst, fun next hNext => (hRest next hNext).1⟩, ?_⟩
        rintro last ⟨next, hNext, hLast⟩
        exact (hRest next hNext).2 last hLast
      · rintro ⟨⟨hFirst, hRest⟩, hLast⟩
        exact ⟨hFirst, fun next hNext => ⟨hRest next hNext, fun last hRun =>
          hLast last ⟨next, hNext, hRun⟩⟩⟩

theorem refinementInv_of_run
    (hRun : run (readerStep reader) (readerStart reader chain) actions = some s)
    (hHonest : HonestNode reader (readerStart reader chain) actions) :
    RefinementInv reader chain actions s := by
  induction actions using List.reverseRecOn generalizing s with
  | nil =>
      obtain rfl : readerStart reader chain = s := Option.some.inj hRun
      exact ⟨nofun, nofun⟩
  | append_singleton actions action ih =>
      obtain ⟨middle, hBefore, hNext⟩ := run_snoc_eq_some.mp hRun
      obtain ⟨hPrefix, hLast⟩ := honestNode_snoc.mp hHonest
      exact (ih hBefore hPrefix).step hBefore (readerMove_of_step hNext) (hLast middle hBefore)

/-- With an honest node, every read over the shared client is a run of the abstract
read. It starts with the state that the chain has when the read begins, goes through the
updates of the chain and the replies to the read's own calls as they follow, and has the
outcome that the read returns. Other reads, retries and the ids of the requests do not
show. -/
theorem readEscrow_refines
    (hRun : run (readerStep reader) (readerStart reader chain) actions = some s)
    (hHonest : HonestNode reader (readerStart reader chain) actions)
    (hTask : s.reads[index]? = some task) :
    ∃ (first : ChainState) (later : List ReaderAction) (r : EscrowRead),
      BegunAt reader chain actions index task.assetId first later ∧
        run (readStep task.assetId) (.start first) (later.filterMap (task.view reader)) = some r ∧
        r.states = chainHistory first later ∧
        task.outcome reader s.client = r.outcome reader.displayAddress task.assetId := by
  obtain ⟨first, later, r, hBegun, hRead, hStates, hSim⟩ :=
    (refinementInv_of_run hRun hHonest).reads index task hTask
  refine ⟨first, later, r, hBegun, hRead, hStates, ?_⟩
  have hMem := List.mem_of_getElem? hTask
  unfold ReadTask.outcome EscrowRead.outcome
  rw [hSim.answers_eq fun second hSecond => ((readsInv_of_run hRun).second task hMem second hSecond).2]

/-- While only calls go on, the reads and the chain stay as they are. -/
theorem honestNode_calls {calls : List (TaskAction Call Reply)}
    (h : ∀ index reply, .reply index reply ∈ calls → ∀ task ∈ s.reads, ∀ (client : Client)
      (query : Query), (index, query) ∈ task.queries reader client →
        query.Honest reader s.chain reply) :
    HonestNode reader s (calls.map ReaderAction.call) := by
  induction calls generalizing s with
  | nil => trivial
  | cons call rest ih =>
      constructor
      · cases call with
        | reply index reply =>
            exact fun task hTask => h index reply List.mem_cons_self task hTask s.client
        | tick | spawn | send | wake => trivial
      · intro next hNext
        cases readerMove_of_step hNext with
        | call => exact ih fun index reply hMem => h index reply (List.mem_cons_of_mem call hMem)

end Runs

section Sample

/-- A reply without bytes tells nothing about the chain. -/
theorem Query.honest_of_no_bytes {reader : ChainReader} {chain : ChainState} {reply : Reply}
    (h : ∀ bytes, outcome reader.printer reply ≠ .done bytes) (query : Query) :
    query.Honest reader chain reply := by
  cases query <;> exact fun bytes _ hDone => absurd hDone (h bytes)

def reverted : Reply := .ok ⟨200, "200 OK", .ok (.object [("error", .string "execution reverted")])⟩

/-- The node knows the window only. -/
def revertedCalls : List (TaskAction Call Reply) :=
  [.send 0, .send 1, .send 2, .reply 0 (.error "connection refused"),
    .reply 2 (.ok ⟨200, "200 OK", .ok (.object [("result", .string windowResult)])⟩),
    .reply 1 reverted, .tick 200, .wake 0, .send 0, .reply 0 reverted]

theorem revertedCalls_honest : HonestNode sampleReader
    (readerStart sampleReader (sampleChain 604800)) (.read 7 :: revertedCalls.map .call) := by
  refine ⟨trivial, ?_⟩
  rintro _ ⟨⟩
  refine honestNode_calls fun index reply hMem task hTask client query hQuery => ?_
  obtain rfl := List.mem_singleton.mp hTask
  simp only [revertedCalls, List.mem_cons, List.not_mem_nil, or_false, reduceCtorEq, false_or,
    TaskAction.reply.injEq] at hMem
  obtain ⟨_, rfl⟩ | ⟨rfl, rfl⟩ | ⟨_, rfl⟩ | ⟨_, rfl⟩ := hMem
  · exact query.honest_of_no_bytes fun _ hDone => by cases hDone
  · obtain rfl : query = .abandonedWindow := by
      simpa [ReadTask.queries, readerStart, RetryLoop.start] using hQuery
    intro bytes found hDone hFound
    have hWindow : outcome samplePrinter (.ok ⟨200, "200 OK",
        .ok (.object [("result", .string windowResult)])⟩) = .done windowBytes := by
      decide +kernel
    cases hWindow.symm.trans hDone
    have hDecoded : sampleReader.decodeWord windowBytes = .ok 604800 := by rfl
    cases hDecoded.symm.trans hFound
    rfl
  · exact query.honest_of_no_bytes fun _ hDone => by cases hDone
  · exact query.honest_of_no_bytes fun _ hDone => by cases hDone

theorem readEscrow_refines_reverted :
    ∃ (first : ChainState) (later : List ReaderAction) (r : EscrowRead),
      BegunAt sampleReader (sampleChain 604800) (.read 7 :: revertedCalls.map .call) 0 7 first
          later ∧
        run (readStep 7) (.start first)
          (later.filterMap (ReadTask.view sampleReader ⟨7, 0, none⟩)) = some r ∧
        r.states = chainHistory first later ∧
        r.outcome sampleReader.displayAddress 7 = some (.error "RPC error: null") := by
  have hReads : (run (readerStep sampleReader) (readerStart sampleReader (sampleChain 604800))
      (.read 7 :: revertedCalls.map .call)).map (fun s => s.reads.map fun task =>
        (task, task.outcome sampleReader s.client)) =
      some [(⟨7, 0, none⟩, some (.error "RPC error: null"))] := by
    decide +kernel
  obtain ⟨s, hRun, hOutcomes⟩ := Option.map_eq_some_iff.mp hReads
  obtain ⟨task, hTask, hOutcome⟩ := List.map_eq_singleton_iff.mp hOutcomes
  obtain ⟨rfl, hError⟩ := Prod.mk.inj hOutcome
  have hRead : s.reads[0]? = some ⟨7, 0, none⟩ := by
    rw [hTask]
    rfl
  obtain ⟨first, later, r, hBegun, hRuns, hStates, hSame⟩ :=
    readEscrow_refines hRun revertedCalls_honest hRead
  exact ⟨first, later, r, hBegun, hRuns, hStates, hSame.symm.trans hError⟩

end Sample

end SettlementOracle.Rpc
