import SettlementOracle.Checked.Transition
import SettlementOracle.Settlement.ChainReader

/-! One read of the escrow while the chain moves on. Each call is retried on its
own and answered from the state that is latest when it is served. -/
namespace SettlementOracle

open Checked

/-- What the view functions of the two contracts return in one state of the chain. -/
structure ChainState where
  purchases : UInt64 → Purchase
  listings : UInt64 → Listing
  abandonedWindow : BitVec 256
  getSteamIdByWallet : Address → BitVec 256

/-- How one attempt of `eth_call` ends. Only `sendFailed` and `httpStatus` (429
or 5xx) are retried. -/
inductive Attempt where
  | sendFailed (message : String)
  | httpStatus (status : String)
  | failed (message : String)
  | undecodable (message : String)
  | served

def maxRetries : Nat := 3

/-- The end of a call, with the index of the state that was latest then. -/
structure Answer (α : Type) where
  result : CallResult α
  servedAt : Nat

structure EthCall (α : Type) where
  attempts : Nat
  answer : Option (Answer α)

def EthCall.start {α : Type} : EthCall α := ⟨0, none⟩

section Calls

variable {α : Type}

def EthCall.result (call : EthCall α) : Option (CallResult α) := call.answer.map Answer.result

def EthCall.finish (call : EthCall α) (result : CallResult α) (servedAt : Nat) : EthCall α :=
  { call with answer := some ⟨result, servedAt⟩ }

/-- The last error is returned behind the last attempt. -/
def EthCall.retry (call : EthCall α) (message : String) (servedAt : Nat) : EthCall α :=
  if call.attempts + 1 < maxRetries then { call with attempts := call.attempts + 1 }
  else call.finish (.error (.transport message)) servedAt

def EthCall.attempt (call : EthCall α) (value : α) (servedAt : Nat) (attempt : Attempt) :
    Option (EthCall α) :=
  if call.answer.isSome then none
  else match attempt with
    | .sendFailed message => some (call.retry ("RPC request failed: " ++ message) servedAt)
    | .httpStatus status => some (call.retry ("RPC HTTP " ++ status) servedAt)
    | .failed message => some (call.finish (.error (.transport message)) servedAt)
    | .undecodable message => some (call.finish (.error (.decode message)) servedAt)
    | .served => some (call.finish (.ok value) servedAt)

end Calls

/-- A read in progress, with the states of the chain so far. -/
structure EscrowRead where
  past : List ChainState
  latest : ChainState
  purchases : EthCall Purchase
  listings : EthCall Listing
  abandonedWindow : EthCall (BitVec 256)
  sellerSteamId : EthCall (BitVec 256)
  buyerSteamId : EthCall (BitVec 256)

def EscrowRead.start (chain : ChainState) : EscrowRead :=
  ⟨[], chain, .start, .start, .start, .start, .start⟩

def EscrowRead.states (r : EscrowRead) : List ChainState := r.past ++ [r.latest]

/-- The first batch, once it has been answered and has passed its checks. -/
def EscrowRead.accepted (r : EscrowRead) : Option (Purchase × Listing) :=
  match r.purchases.result, r.listings.result, r.abandonedWindow.result with
  | some (.ok purchase), some (.ok listing), some (.ok _) =>
      if purchase.buyer ≠ zeroAddress ∧ purchase.status = 0 ∧ listing.listed = true then
        some (purchase, listing)
      else none
  | _, _, _ => none

inductive ReadAction where
  | advance (next : ChainState)
  | purchases (attempt : Attempt)
  | listings (attempt : Attempt)
  | abandonedWindow (attempt : Attempt)
  | sellerSteamId (attempt : Attempt)
  | buyerSteamId (attempt : Attempt)

/-- One step of the chain, or one attempt of a call. The calls of a batch run in
parallel, and the second batch starts behind the checks of the first. -/
def readStep (assetId : UInt64) (r : EscrowRead) : ReadAction → Option EscrowRead
  | .advance next => some { r with past := r.past ++ [r.latest], latest := next }
  | .purchases attempt => do
      let call ← r.purchases.attempt (r.latest.purchases assetId) r.past.length attempt
      some { r with purchases := call }
  | .listings attempt => do
      let call ← r.listings.attempt (r.latest.listings assetId) r.past.length attempt
      some { r with listings := call }
  | .abandonedWindow attempt => do
      let call ← r.abandonedWindow.attempt r.latest.abandonedWindow r.past.length attempt
      some { r with abandonedWindow := call }
  | .sellerSteamId attempt => do
      let (_, listing) ← r.accepted
      let call ← r.sellerSteamId.attempt (r.latest.getSteamIdByWallet listing.seller)
        r.past.length attempt
      some { r with sellerSteamId := call }
  | .buyerSteamId attempt => do
      let (purchase, _) ← r.accepted
      let call ← r.buyerSteamId.attempt (r.latest.getSteamIdByWallet purchase.buyer)
        r.past.length attempt
      some { r with buyerSteamId := call }

/-- The answers of a read whose calls have ended. The second batch is not looked
at unless the first one was accepted. -/
def EscrowRead.answers (r : EscrowRead) : Option ChainAnswers := do
  let purchases ← r.purchases.result
  let listings ← r.listings.result
  let abandonedWindow ← r.abandonedWindow.result
  if r.accepted.isSome then
    let seller ← r.sellerSteamId.result
    let buyer ← r.buyerSteamId.result
    some ⟨purchases, listings, abandonedWindow, fun _ => seller, fun _ => buyer⟩
  else
    let unread : CallResult (BitVec 256) := .error (.transport "eth_call failed")
    some ⟨purchases, listings, abandonedWindow, fun _ => unread, fun _ => unread⟩

/-- What `read_escrow` returns, once it does. -/
def EscrowRead.outcome (displayAddress : Address → String) (assetId : UInt64) (r : EscrowRead) :
    Option (Except String EscrowSnapshot) :=
  r.answers.map (readEscrow displayAddress assetId)

/-- The states of the chain during a run. -/
def chainStates (chain : ChainState) : List ReadAction → List ChainState
  | [] => [chain]
  | .advance next :: rest => chain :: chainStates next rest
  | _ :: rest => chainStates chain rest

/-- The purchase has the values of the snapshot. -/
def PurchaseShown (escrow : EscrowSnapshot) (chain : ChainState) : Prop :=
  (chain.purchases escrow.assetId).buyer = escrow.buyer ∧
    lowLimb (chain.purchases escrow.assetId).purchaseTime = escrow.purchaseTime ∧
    lowLimb (chain.purchases escrow.assetId).tradeOfferId = escrow.tradeOfferId

def ListingShown (escrow : EscrowSnapshot) (chain : ChainState) : Prop :=
  (chain.listings escrow.assetId).seller = escrow.seller ∧
    lowLimb (chain.listings escrow.assetId).price = escrow.amount

def WindowShown (escrow : EscrowSnapshot) (chain : ChainState) : Prop :=
  lowLimb chain.abandonedWindow = escrow.abandonedWindow

def SellerShown (escrow : EscrowSnapshot) (chain : ChainState) : Prop :=
  lowLimb (chain.getSteamIdByWallet escrow.seller) = escrow.sellerSteamId

def BuyerShown (escrow : EscrowSnapshot) (chain : ChainState) : Prop :=
  lowLimb (chain.getSteamIdByWallet escrow.buyer) = escrow.buyerSteamId

/-- One state of the chain has all the values of the snapshot. -/
def EscrowShown (escrow : EscrowSnapshot) (chain : ChainState) : Prop :=
  PurchaseShown escrow chain ∧ ListingShown escrow chain ∧ WindowShown escrow chain ∧
    SellerShown escrow chain ∧ BuyerShown escrow chain

/-- The values that the read looks at are the same in both states. -/
def SameEscrow (escrow : EscrowSnapshot) (chain other : ChainState) : Prop :=
  chain.purchases escrow.assetId = other.purchases escrow.assetId ∧
    chain.listings escrow.assetId = other.listings escrow.assetId ∧
    chain.abandonedWindow = other.abandonedWindow ∧
    chain.getSteamIdByWallet escrow.seller = other.getSteamIdByWallet escrow.seller ∧
    chain.getSteamIdByWallet escrow.buyer = other.getSteamIdByWallet escrow.buyer

/-- Some state between two positions of the sequence has the property. -/
def ShownWithin (states : List ChainState) (low high : Nat) (P : ChainState → Prop) : Prop :=
  ∃ i chain, low ≤ i ∧ i ≤ high ∧ states[i]? = some chain ∧ P chain

section Calls

variable {α : Type} {call call' : EthCall α} {states : List ChainState} {f : ChainState → α}
  {low high servedAt : Nat} {value : α} {attempt : Attempt}

/-- A successful answer is the value at a state between two positions. -/
def EthCall.Tells (call : EthCall α) (states : List ChainState) (low high : Nat)
    (f : ChainState → α) : Prop :=
  ∀ value i, call.answer = some ⟨.ok value, i⟩ →
    low ≤ i ∧ i ≤ high ∧ ∃ chain, states[i]? = some chain ∧ f chain = value

/-- An attempt is made only at an open call, and answers it with the present
value, if at all. -/
theorem EthCall.attempt_eq_some (h : call.attempt value servedAt attempt = some call') :
    call.answer = none ∧
      ∀ found i, call'.answer = some ⟨.ok found, i⟩ → found = value ∧ i = servedAt := by
  unfold EthCall.attempt at h
  split_ifs at h with hOpen
  have hNone : call.answer = none := by simpa using hOpen
  have hRetry : ∀ message found i,
      (call.retry message servedAt).answer = some ⟨.ok found, i⟩ → found = value ∧ i = servedAt := by
    intro message found i
    unfold EthCall.retry
    split_ifs <;> simp [EthCall.finish, hNone]
  refine ⟨hNone, fun found i hFound => ?_⟩
  cases attempt with
  | sendFailed message | httpStatus message =>
      obtain rfl := Option.some.inj h
      exact hRetry _ found i hFound
  | failed message | undecodable message =>
      obtain rfl := Option.some.inj h
      simp [EthCall.finish] at hFound
  | served =>
      obtain rfl := Option.some.inj h
      simp only [EthCall.finish, Option.some.injEq, Answer.mk.injEq, Except.ok.injEq] at hFound
      exact ⟨hFound.1.symm, hFound.2.symm⟩

theorem EthCall.tells_of_answer_none (h : call.answer = none) : call.Tells states low high f := by
  intro value i hAnswer
  simp [h] at hAnswer

theorem EthCall.Tells.advance (h : call.Tells states low high f) {high' : Nat}
    (hHigh : high ≤ high') (more : List ChainState) : call.Tells (states ++ more) low high' f := by
  intro value i hAnswer
  obtain ⟨hLow, hi, chain, hChain, hValue⟩ := h value i hAnswer
  refine ⟨hLow, by omega, chain, ?_, hValue⟩
  rw [List.getElem?_append_left (List.getElem?_eq_some_iff.mp hChain).1, hChain]

end Calls

section Reads

variable {assetId : UInt64} {r r' : EscrowRead} {middle : Nat} {action : ReadAction}
  {purchase : Purchase} {listing : Listing}

theorem EscrowRead.states_latest (r : EscrowRead) : r.states[r.past.length]? = some r.latest := by
  simp [EscrowRead.states]

/-- A call that is attempted now tells the value of the latest state. -/
theorem EthCall.tells_of_attempt {α : Type} {call call' : EthCall α} {f : ChainState → α}
    {low : Nat} {attempt : Attempt} (hLow : low ≤ r.past.length)
    (h : call.attempt (f r.latest) r.past.length attempt = some call') :
    call'.Tells r.states low r.past.length f := by
  intro value i hAnswer
  obtain ⟨rfl, rfl⟩ := (EthCall.attempt_eq_some h).2 value i hAnswer
  exact ⟨hLow, Nat.le_refl _, r.latest, r.states_latest, rfl⟩

/-- An accepted first batch has been answered. -/
theorem EscrowRead.answered_of_accepted (h : r.accepted = some (purchase, listing)) :
    r.purchases.result = some (.ok purchase) ∧ r.listings.result = some (.ok listing) ∧
      ∃ abandonedWindow, r.abandonedWindow.result = some (.ok abandonedWindow) := by
  unfold EscrowRead.accepted at h
  split at h
  · split_ifs at h
    cases h
    exact ⟨‹_›, ‹_›, _, ‹_›⟩
  · cases h

/-- The first batch is answered from states up to `middle`, the second one from
states behind it. -/
structure ReadInv (assetId : UInt64) (r : EscrowRead) (middle : Nat) : Prop where
  bound : middle ≤ r.past.length
  purchases : r.purchases.Tells r.states 0 middle (·.purchases assetId)
  listings : r.listings.Tells r.states 0 middle (·.listings assetId)
  abandonedWindow : r.abandonedWindow.Tells r.states 0 middle (·.abandonedWindow)
  second : (r.sellerSteamId.answer = none ∧ r.buyerSteamId.answer = none) ∨
    ∃ purchase listing, r.accepted = some (purchase, listing) ∧
      r.sellerSteamId.Tells r.states middle r.past.length (·.getSteamIdByWallet listing.seller) ∧
      r.buyerSteamId.Tells r.states middle r.past.length (·.getSteamIdByWallet purchase.buyer)

theorem readInv_start (assetId : UInt64) (chain : ChainState) :
    ReadInv assetId (EscrowRead.start chain) 0 where
  bound := Nat.le_refl 0
  purchases := EthCall.tells_of_answer_none rfl
  listings := EthCall.tells_of_answer_none rfl
  abandonedWindow := EthCall.tells_of_answer_none rfl
  second := Or.inl ⟨rfl, rfl⟩

theorem ReadInv.advance (h : ReadInv assetId r middle) (next : ChainState) :
    ReadInv assetId { r with past := r.past ++ [r.latest], latest := next } middle where
  bound := by
    have hBound := h.bound
    simp only [List.length_append]
    omega
  purchases := h.purchases.advance (Nat.le_refl _) [next]
  listings := h.listings.advance (Nat.le_refl _) [next]
  abandonedWindow := h.abandonedWindow.advance (Nat.le_refl _) [next]
  second := by
    refine h.second.imp_right ?_
    rintro ⟨purchase, listing, hAccepted, hSeller, hBuyer⟩
    have hLonger : r.past.length ≤ (r.past ++ [r.latest]).length := by simp
    exact ⟨purchase, listing, hAccepted, hSeller.advance hLonger [next],
      hBuyer.advance hLonger [next]⟩

/-- While a call of the first batch is open, the second one has not started. -/
theorem ReadInv.second_open (h : ReadInv assetId r middle) (hOpen : r.accepted = none) :
    r.sellerSteamId.answer = none ∧ r.buyerSteamId.answer = none := by
  obtain hNone | ⟨purchase, listing, hAccepted, _⟩ := h.second
  · exact hNone
  · cases hOpen.symm.trans hAccepted

theorem EscrowRead.accepted_eq_none (h : r.purchases.answer = none ∨ r.listings.answer = none ∨
    r.abandonedWindow.answer = none) : r.accepted = none := by
  cases hAccepted : r.accepted with
  | none => rfl
  | some parties =>
      obtain ⟨hPurchase, hListing, _, hWindow⟩ := EscrowRead.answered_of_accepted hAccepted
      unfold EthCall.result at hPurchase hListing hWindow
      obtain hNone | hNone | hNone := h <;> simp_all

/-- The first batch may still be told up to the latest state while the second
one has not started. -/
theorem ReadInv.raise (h : ReadInv assetId r middle) (hOpen : r.accepted = none) :
    ReadInv assetId r r.past.length := by
  have hGrow : ∀ {α : Type} {call : EthCall α} {f : ChainState → α},
      call.Tells r.states 0 middle f → call.Tells r.states 0 r.past.length f := by
    intro α call f hTells
    simpa using hTells.advance h.bound []
  exact ⟨Nat.le_refl _, hGrow h.purchases, hGrow h.listings, hGrow h.abandonedWindow,
    Or.inl (h.second_open hOpen)⟩

/-- Every step keeps the order of the two batches. -/
theorem ReadInv.step (h : ReadInv assetId r middle) (hStep : readStep assetId r action = some r') :
    ∃ middle', ReadInv assetId r' middle' := by
  cases action with
  | advance next =>
      cases hStep
      exact ⟨middle, h.advance next⟩
  | purchases attempt =>
      obtain ⟨call, hCall, hEq⟩ := Option.bind_eq_some_iff.mp hStep
      cases hEq
      have hOpen := EscrowRead.accepted_eq_none (Or.inl (EthCall.attempt_eq_some hCall).1)
      have hInv := h.raise hOpen
      exact ⟨r.past.length, { hInv with
        purchases := EthCall.tells_of_attempt (Nat.zero_le _) hCall
        second := Or.inl (h.second_open hOpen) }⟩
  | listings attempt =>
      obtain ⟨call, hCall, hEq⟩ := Option.bind_eq_some_iff.mp hStep
      cases hEq
      have hOpen := EscrowRead.accepted_eq_none (Or.inr (Or.inl (EthCall.attempt_eq_some hCall).1))
      have hInv := h.raise hOpen
      exact ⟨r.past.length, { hInv with
        listings := EthCall.tells_of_attempt (Nat.zero_le _) hCall
        second := Or.inl (h.second_open hOpen) }⟩
  | abandonedWindow attempt =>
      obtain ⟨call, hCall, hEq⟩ := Option.bind_eq_some_iff.mp hStep
      cases hEq
      have hOpen := EscrowRead.accepted_eq_none (Or.inr (Or.inr (EthCall.attempt_eq_some hCall).1))
      have hInv := h.raise hOpen
      exact ⟨r.past.length, { hInv with
        abandonedWindow := EthCall.tells_of_attempt (Nat.zero_le _) hCall
        second := Or.inl (h.second_open hOpen) }⟩
  | sellerSteamId attempt =>
      obtain ⟨⟨purchase, listing⟩, hAccepted, hRest⟩ := Option.bind_eq_some_iff.mp hStep
      obtain ⟨call, hCall, hEq⟩ := Option.bind_eq_some_iff.mp hRest
      cases hEq
      refine ⟨middle, { h with second := Or.inr ⟨purchase, listing, hAccepted, ?_, ?_⟩ }⟩
      · exact EthCall.tells_of_attempt h.bound hCall
      · obtain ⟨_, hBuyer⟩ | ⟨_, _, hSame, _, hBuyer⟩ := h.second
        · exact EthCall.tells_of_answer_none hBuyer
        · cases hAccepted.symm.trans hSame
          exact hBuyer
  | buyerSteamId attempt =>
      obtain ⟨⟨purchase, listing⟩, hAccepted, hRest⟩ := Option.bind_eq_some_iff.mp hStep
      obtain ⟨call, hCall, hEq⟩ := Option.bind_eq_some_iff.mp hRest
      cases hEq
      refine ⟨middle, { h with second := Or.inr ⟨purchase, listing, hAccepted, ?_, ?_⟩ }⟩
      · obtain ⟨hSeller, _⟩ | ⟨_, _, hSame, hSeller, _⟩ := h.second
        · exact EthCall.tells_of_answer_none hSeller
        · cases hAccepted.symm.trans hSame
          exact hSeller
      · exact EthCall.tells_of_attempt h.bound hCall

theorem states_of_step {rest : List ReadAction} (hStep : readStep assetId r action = some r') :
    r'.past ++ chainStates r'.latest rest = r.past ++ chainStates r.latest (action :: rest) := by
  cases action with
  | advance next =>
      cases hStep
      simp [chainStates]
  | purchases | listings | abandonedWindow =>
      obtain ⟨call, _, hEq⟩ := Option.bind_eq_some_iff.mp hStep
      cases hEq
      rfl
  | sellerSteamId | buyerSteamId =>
      obtain ⟨_, _, hRest⟩ := Option.bind_eq_some_iff.mp hStep
      obtain ⟨call, _, hEq⟩ := Option.bind_eq_some_iff.mp hRest
      cases hEq
      rfl

theorem states_of_run {actions : List ReadAction} (h : run (readStep assetId) r actions = some r') :
    r'.states = r.past ++ chainStates r.latest actions := by
  induction actions generalizing r with
  | nil =>
      obtain rfl := Option.some.inj h
      rfl
  | cons action rest ih =>
      obtain ⟨next, hStep, hRest⟩ := run_cons_eq_some.mp h
      rw [ih hRest, states_of_step hStep]

theorem readInv_of_run {chain : ChainState} {actions : List ReadAction}
    (h : run (readStep assetId) (EscrowRead.start chain) actions = some r) :
    ∃ middle, ReadInv assetId r middle := by
  refine run_invariant (P := fun r => ∃ middle, ReadInv assetId r middle) ?_ ?_ h
  · rintro r action next ⟨middle, hInv⟩ hStep
    exact hInv.step hStep
  · exact ⟨0, readInv_start assetId chain⟩

/-- The read returns what its calls were answered. A snapshot needs both batches. -/
theorem answered_of_outcome {displayAddress : Address → String} {escrow : EscrowSnapshot}
    (h : r.outcome displayAddress assetId = some (.ok escrow)) :
    ∃ purchase listing abandonedWindow sellerSteamId buyerSteamId,
      r.purchases.result = some (.ok purchase) ∧ r.listings.result = some (.ok listing) ∧
      r.abandonedWindow.result = some (.ok abandonedWindow) ∧
      r.accepted = some (purchase, listing) ∧
      r.sellerSteamId.result = some (.ok sellerSteamId) ∧
      r.buyerSteamId.result = some (.ok buyerSteamId) ∧
      escrow = EscrowWords.snapshot
        ⟨purchase, listing, abandonedWindow, sellerSteamId, buyerSteamId⟩ assetId := by
  obtain ⟨answers, hAnswers, hRead⟩ := Option.map_eq_some_iff.mp h
  obtain ⟨purchase, listing, window, sellerId, buyerId, hPurchase, hListing, hWindow, hSeller, hBuyer,
    hZero, hStatus, hListed, _, _, rfl⟩ := readEscrow_eq_ok hRead
  obtain ⟨first, hFirst, hAnswers⟩ := Option.bind_eq_some_iff.mp hAnswers
  obtain ⟨second, hSecond, hAnswers⟩ := Option.bind_eq_some_iff.mp hAnswers
  obtain ⟨third, hThird, hAnswers⟩ := Option.bind_eq_some_iff.mp hAnswers
  split_ifs at hAnswers with hBatch
  · obtain ⟨fourth, hFourth, hAnswers⟩ := Option.bind_eq_some_iff.mp hAnswers
    obtain ⟨fifth, hFifth, hAnswers⟩ := Option.bind_eq_some_iff.mp hAnswers
    cases hAnswers
    cases hPurchase
    cases hListing
    cases hWindow
    cases hSeller
    cases hBuyer
    refine ⟨purchase, listing, window, sellerId, buyerId, hFirst, hSecond, hThird, ?_, hFourth,
      hFifth, rfl⟩
    simp [EscrowRead.accepted, hFirst, hSecond, hThird, hZero, hStatus, hListed]
  · cases hAnswers
    cases hSeller

theorem EthCall.Tells.of_result {α : Type} {call : EthCall α} {states : List ChainState}
    {low high : Nat} {f : ChainState → α} {value : α} (h : call.Tells states low high f)
    (hResult : call.result = some (.ok value)) : ShownWithin states low high (f · = value) := by
  obtain ⟨⟨result, i⟩, hAnswer, rfl⟩ := Option.map_eq_some_iff.mp hResult
  obtain ⟨hLow, hHigh, chain, hChain, hValue⟩ := h value i hAnswer
  exact ⟨i, chain, hLow, hHigh, hChain, hValue⟩

theorem ShownWithin.imp {states : List ChainState} {low high : Nat} {P Q : ChainState → Prop}
    (h : ShownWithin states low high P) (hImp : ∀ chain, P chain → Q chain) :
    ShownWithin states low high Q := by
  obtain ⟨i, chain, hLow, hHigh, hChain, hP⟩ := h
  exact ⟨i, chain, hLow, hHigh, hChain, hImp chain hP⟩

/-- A property of the values that the read looks at holds at every state once it
holds at one, as long as these values do not change. -/
theorem ShownWithin.everywhere {states : List ChainState} {low high : Nat} {P : ChainState → Prop}
    {escrow : EscrowSnapshot} (h : ShownWithin states low high P)
    (hSame : ∀ chain ∈ states, ∀ other ∈ states, SameEscrow escrow chain other)
    (hP : ∀ chain other, SameEscrow escrow chain other → P chain → P other) :
    ∀ chain ∈ states, P chain := by
  obtain ⟨i, found, _, _, hFound, hShown⟩ := h
  intro chain hChain
  exact hP found chain (hSame found (List.mem_of_getElem? hFound) chain hChain) hShown

/-- The values of a snapshot, batch by batch. -/
structure ShownInOrder (states : List ChainState) (escrow : EscrowSnapshot) (middle : Nat) : Prop where
  purchase : ShownWithin states 0 middle (PurchaseShown escrow)
  listing : ShownWithin states 0 middle (ListingShown escrow)
  window : ShownWithin states 0 middle (WindowShown escrow)
  seller : ShownWithin states middle states.length (SellerShown escrow)
  buyer : ShownWithin states middle states.length (BuyerShown escrow)

theorem ReadInv.shownInOrder {displayAddress : Address → String} {escrow : EscrowSnapshot}
    (h : ReadInv assetId r middle) (hOutcome : r.outcome displayAddress assetId = some (.ok escrow)) :
    ShownInOrder r.states escrow middle := by
  obtain ⟨purchase, listing, window, sellerId, buyerId, hPurchase, hListing, hWindow, hAccepted,
    hSeller, hBuyer, rfl⟩ := answered_of_outcome hOutcome
  have hLast : r.past.length ≤ r.states.length := by simp [EscrowRead.states]
  obtain ⟨hNone, _⟩ | ⟨_, _, hSame, hSellerTold, hBuyerTold⟩ := h.second
  · simp [EthCall.result, hNone] at hSeller
  cases hAccepted.symm.trans hSame
  have hWiden : ∀ {P : ChainState → Prop}, ShownWithin r.states middle r.past.length P →
      ShownWithin r.states middle r.states.length P := by
    rintro P ⟨i, chain, hLow, hHigh, hChain⟩
    exact ⟨i, chain, hLow, Nat.le_trans hHigh hLast, hChain⟩
  refine ⟨(h.purchases.of_result hPurchase).imp ?_, (h.listings.of_result hListing).imp ?_,
    (h.abandonedWindow.of_result hWindow).imp ?_, hWiden ((hSellerTold.of_result hSeller).imp ?_),
    hWiden ((hBuyerTold.of_result hBuyer).imp ?_)⟩
  · rintro chain rfl
    exact ⟨rfl, rfl, rfl⟩
  · rintro chain rfl
    exact ⟨rfl, rfl⟩
  · rintro chain rfl
    rfl
  · rintro chain rfl
    rfl
  · rintro chain rfl
    rfl

/-- If none of the values changes, every state has all of them. -/
theorem ShownInOrder.everywhere {states : List ChainState} {escrow : EscrowSnapshot}
    (h : ShownInOrder states escrow middle)
    (hSame : ∀ first ∈ states, ∀ second ∈ states, SameEscrow escrow first second) :
    ∀ chain ∈ states, EscrowShown escrow chain := by
  intro chain hChain
  refine ⟨h.purchase.everywhere hSame ?_ chain hChain, h.listing.everywhere hSame ?_ chain hChain,
    h.window.everywhere hSame ?_ chain hChain, h.seller.everywhere hSame ?_ chain hChain,
    h.buyer.everywhere hSame ?_ chain hChain⟩
  · rintro first second ⟨hEq, _⟩ hShown
    unfold PurchaseShown at hShown ⊢
    rwa [← hEq]
  · rintro first second ⟨_, hEq, _⟩ hShown
    unfold ListingShown at hShown ⊢
    rwa [← hEq]
  · rintro first second ⟨_, _, hEq, _⟩ hShown
    unfold WindowShown at hShown ⊢
    rwa [← hEq]
  · rintro first second ⟨_, _, _, hEq, _⟩ hShown
    unfold SellerShown at hShown ⊢
    rwa [← hEq]
  · rintro first second ⟨_, _, _, _, hEq⟩ hShown
    unfold BuyerShown at hShown ⊢
    rwa [← hEq]

/-- Every value of a returned snapshot is that of a state of the chain during the
read, and the Steam ids are not older than the rest. If none of the values
changes during the read, every state of it is the snapshot. -/
theorem readEscrow_shown {displayAddress : Address → String} {chain : ChainState}
    {actions : List ReadAction} {escrow : EscrowSnapshot}
    (hRun : run (readStep assetId) (EscrowRead.start chain) actions = some r)
    (hOutcome : r.outcome displayAddress assetId = some (.ok escrow)) :
    (∃ middle, ShownInOrder (chainStates chain actions) escrow middle) ∧
    ((∀ first ∈ chainStates chain actions, ∀ second ∈ chainStates chain actions,
        SameEscrow escrow first second) →
      ∀ state ∈ chainStates chain actions, EscrowShown escrow state) := by
  obtain ⟨middle, hInv⟩ := readInv_of_run hRun
  have hStates : r.states = chainStates chain actions := states_of_run hRun
  have hShown := hInv.shownInOrder hOutcome
  rw [hStates] at hShown
  exact ⟨⟨middle, hShown⟩, hShown.everywhere⟩

end Reads

/-- The chain before and after the asset was bought again: another buyer,
another trade offer and another price. -/
def resaleChain (buyer : UInt8) (tradeOfferId : BitVec 48) (price : BitVec 56) : ChainState where
  purchases := fun _ => ⟨Vector.replicate 20 buyer, 1700000000, 0, tradeOfferId⟩
  listings := fun _ => ⟨Vector.replicate 20 1, price, true⟩
  abandonedWindow := 86400
  getSteamIdByWallet := fun wallet =>
    if wallet = Vector.replicate 20 1 then 76561198366018280 else 76561198404282737

def earlierChain : ChainState := resaleChain 2 8653813160 1000000

def laterChain : ChainState := resaleChain 3 8653813999 2000000

/-- The purchase is served before the resale, everything else behind it. -/
def tornRead : List ReadAction :=
  [.purchases .served, .advance laterChain, .listings (.httpStatus "503 Service Unavailable"),
    .listings .served, .abandonedWindow .served, .sellerSteamId .served, .buyerSteamId .served]

def printAddress (_ : Address) : String := "0x0101010101010101010101010101010101010101"

/-- The buyer and the offer of the first sale with the price of the second. -/
def tornSnapshot : EscrowSnapshot where
  assetId := 40964044588
  tradeOfferId := 8653813160
  sellerSteamId := 76561198366018280
  buyerSteamId := 76561198404282737
  seller := Vector.replicate 20 1
  buyer := Vector.replicate 20 2
  amount := 2000000
  purchaseTime := 1700000000
  abandonedWindow := 86400

/-- The read returns the snapshot of a single state. -/
def SnapshotLaw (displayAddress : Address → String) (assetId : UInt64) (chain : ChainState)
    (actions : List ReadAction) : Prop :=
  ∀ r escrow, run (readStep assetId) (EscrowRead.start chain) actions = some r →
    r.outcome displayAddress assetId = some (.ok escrow) →
    ∃ state ∈ chainStates chain actions, EscrowShown escrow state

theorem tornRead_outcome :
    ∃ r, run (readStep 40964044588) (EscrowRead.start earlierChain) tornRead = some r ∧
      r.outcome printAddress 40964044588 = some (.ok tornSnapshot) := by
  have hOutcome : (run (readStep 40964044588) (EscrowRead.start earlierChain) tornRead).bind
      (EscrowRead.outcome printAddress 40964044588) = some (.ok tornSnapshot) := by
    decide +kernel
  exact Option.bind_eq_some_iff.mp hOutcome

theorem readEscrow_shown_torn :
    ∃ r middle, run (readStep 40964044588) (EscrowRead.start earlierChain) tornRead = some r ∧
      r.outcome printAddress 40964044588 = some (.ok tornSnapshot) ∧
      ShownInOrder (chainStates earlierChain tornRead) tornSnapshot middle := by
  obtain ⟨r, hRun, hOutcome⟩ := tornRead_outcome
  obtain ⟨⟨middle, hShown⟩, _⟩ := readEscrow_shown hRun hOutcome
  exact ⟨r, middle, hRun, hOutcome, hShown⟩

theorem not_snapshotLaw_torn : ¬SnapshotLaw printAddress 40964044588 earlierChain tornRead := by
  intro h
  obtain ⟨r, hRun, hOutcome⟩ := tornRead_outcome
  obtain ⟨state, hState, hPurchase, hListing, _⟩ := h r tornSnapshot hRun hOutcome
  have hStates : chainStates earlierChain tornRead = [earlierChain, laterChain] := rfl
  rw [hStates, List.mem_cons, List.mem_singleton] at hState
  obtain rfl | rfl := hState
  · exact absurd hListing.2 (by decide)
  · exact absurd hPurchase.2.2 (by decide)

end SettlementOracle
