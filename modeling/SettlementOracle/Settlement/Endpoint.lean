import SettlementOracle.Settlement.Capturer

/-! Attribution of a proof to an endpoint. The classification searches the whole
request, so it is the host and the first occurrence of a name that bind a proof,
and the path only where it holds that occurrence. -/
namespace SettlementOracle

open Checked

def isQuery (b : UInt8) : Bool := b == byte '?'

/-- The first word of the request line. -/
def requestMethod (request : List UInt8) : List UInt8 :=
  (lineOf request).takeWhile fun b => !isSpace b

/-- The second word of the request line. -/
def requestTarget (request : List UInt8) : List UInt8 :=
  (((lineOf request).dropWhile fun b => !isSpace b).drop 1).takeWhile fun b => !isSpace b

/-- The request target without its query. -/
def requestPath (request : List UInt8) : List UInt8 :=
  (requestTarget request).takeWhile fun b => !isQuery b

/-- A path that is not empty stands behind the method, and ends at a query, a
space, a line break or the end of the request. -/
theorem request_eq_of_path {request : List UInt8} (h : requestPath request ≠ []) :
    ∃ rest, request = requestMethod request ++ byte ' ' :: (requestPath request ++ rest) ∧
      ∀ b ∈ rest.head?, b = byte '?' ∨ b = byte ' ' ∨ b = byte '\r' := by
  obtain ⟨tail, hTail, hEnd⟩ := exists_eq_lineOf_append request
  unfold requestPath requestTarget at h ⊢
  unfold requestMethod
  rw [List.takeWhile_takeWhile] at h ⊢
  have hMethod := maximalRun_takeWhile (fun b => !isSpace b) (lineOf request)
  generalize (lineOf request).dropWhile (fun b => !isSpace b) = after at h hMethod ⊢
  cases after with
  | nil => exact absurd rfl h
  | cons space after =>
      have hSpace : space = byte ' ' := by simpa [isSpace] using hMethod.maximal space rfl
      subst hSpace
      rw [List.drop_succ_cons, List.drop_zero] at h ⊢
      generalize hp : (fun a => decide ((!isQuery a) = true ∧ (!isSpace a) = true)) = p at h ⊢
      have hPath := maximalRun_takeWhile p after
      refine ⟨after.dropWhile p ++ tail, ?_, ?_⟩
      · conv_lhs => rw [hTail, hMethod.split]
        rw [← List.append_assoc (after.takeWhile p), ← hPath.split]
        simp
      · intro b hb
        generalize after.dropWhile p = rest at hPath hb
        cases rest with
        | nil => exact Or.inr (Or.inr (hEnd b hb))
        | cons c rest =>
            obtain rfl : c = b := Option.some.inj hb
            have hStop := hPath.maximal c rfl
            rw [← hp] at hStop
            simp only [isQuery, isSpace, decide_eq_false_iff_not, not_and_or, Bool.not_eq_true',
              Bool.not_eq_false, beq_iff_eq] at hStop
            exact hStop.imp_right Or.inl

/-- A first occurrence in the path is the first occurrence in the request,
unless the method holds one. -/
theorem cut_request_of_path {request pattern before after : List UInt8} (hPattern : pattern ≠ [])
    (hSpace : byte ' ' ∉ pattern) (hMethod : ¬pattern <:+: requestMethod request)
    (h : cut pattern (requestPath request) = some (before, after)) :
    ∃ front rest, cut pattern request = some (front, after ++ rest) ∧
      ∀ b ∈ rest.head?, b = byte '?' ∨ b = byte ' ' ∨ b = byte '\r' := by
  obtain ⟨hPath, hFirst⟩ := cut_eq_some h
  have hNonempty : requestPath request ≠ [] := by
    rw [hPath]
    simp [hPattern]
  obtain ⟨rest, hRequest, hEnd⟩ := request_eq_of_path hNonempty
  have hMatch : firstMatch pattern request = some (before.length +
      ((requestMethod request).length + 1)) := by
    conv_lhs => rw [hRequest]
    rw [firstMatch_append_separator hPattern hSpace hMethod, firstMatch_append hFirst,
      Option.map_some]
  have hSplit : request = (requestMethod request ++ byte ' ' :: before) ++ pattern ++
      (after ++ rest) := by
    conv_lhs => rw [hRequest, hPath]
    simp
  refine ⟨requestMethod request ++ byte ' ' :: before, rest, ?_, hEnd⟩
  refine cut_of_firstMatch hSplit (hMatch.trans ?_)
  simp only [List.length_append, List.length_cons, Option.some.injEq]
  omega

/-- The name behind the first `GetTrade` in a text. -/
def namesEndpoint (letter : Char) (text : List UInt8) : Prop :=
  ∃ before after, cut getTrade text = some (before, byte letter :: after)

/-- The first name in the request is that of the source. -/
def ProofSource.NamedIn (request : List UInt8) : ProofSource → Prop
  | .tradeOffer => namesEndpoint 'O' request
  | .tradeStatus => namesEndpoint 'S' request
  | .community => ¬getTrade <:+: request ∧ communityName <:+: request

/-- What binds an accepted proof to its endpoint. -/
structure Attribution (serverName : String) (request : List UInt8) (escrow : EscrowSnapshot)
    (source : ProofSource) : Prop where
  classified : detectProofSource request = (.ok (some source) : Exec SettlementError _)
  host : serverName = source.host
  named : source.NamedIn request
  /-- A name in the path takes precedence over any text behind it. -/
  path : ¬getTrade <:+: requestMethod request → getTrade <:+: requestPath request →
    (source = .tradeOffer ∧ namesEndpoint 'O' (requestPath request)) ∨
      (source = .tradeStatus ∧ namesEndpoint 'S' (requestPath request))
  /-- So does a trade offer id in the path of a community request. -/
  offerId : source = .community → ¬tradeOfferPath <:+: requestMethod request →
    tradeOfferPath <+: requestPath request →
    digitRun ((requestPath request).drop tradeOfferPath.length) = some escrow.tradeOfferId

theorem proofSource_named {request : List UInt8} {source : ProofSource}
    (h : proofSource request = some source) : source.NamedIn request := by
  unfold proofSource at h
  cases hCut : cut getTrade request with
  | none =>
      rw [hCut] at h
      dsimp only at h
      split_ifs at h with hName
      obtain rfl := Option.some.inj h
      exact ⟨cut_eq_none_iff.mp hCut, hName⟩
  | some parts =>
      obtain ⟨before, after⟩ := parts
      rw [hCut] at h
      cases after with
      | nil => cases h
      | cons next after =>
          dsimp only at h
          split_ifs at h with hOffer hStatus
          · obtain rfl := Option.some.inj h
            exact ⟨before, after, by rw [hCut, hOffer]⟩
          · obtain rfl := Option.some.inj h
            exact ⟨before, after, by rw [hCut, hStatus]⟩

theorem namesEndpoint_of_path {request : List UInt8} {letter : Char}
    (hLetter : byte letter ∉ [byte '?', byte ' ', byte '\r'])
    (hMethod : ¬getTrade <:+: requestMethod request) (hPath : getTrade <:+: requestPath request)
    (h : namesEndpoint letter request) : namesEndpoint letter (requestPath request) := by
  obtain ⟨front, back, hRequest⟩ := h
  cases hCut : cut getTrade (requestPath request) with
  | none => exact absurd hPath (cut_eq_none_iff.mp hCut)
  | some parts =>
      obtain ⟨before, after⟩ := parts
      obtain ⟨_, rest, hSame, hEnd⟩ := cut_request_of_path (by decide) (by decide) hMethod hCut
      have hNext : byte letter :: back = after ++ rest :=
        (Prod.mk.inj (Option.some.inj (hRequest.symm.trans hSame))).2
      cases after with
      | nil =>
          have hHead : byte letter ∈ rest.head? := by
            rw [← List.nil_append rest, ← hNext]
            rfl
          exact absurd (by simpa using hEnd _ hHead) hLetter
      | cons next after =>
          obtain rfl : byte letter = next := (List.cons.inj hNext).1
          exact ⟨before, after, hCut⟩

theorem digitRun_append {text rest : List UInt8} (h : ∀ b ∈ rest.head?, isAsciiDigit b = false) :
    digitRun (text ++ rest) = digitRun text := by
  have hDigits : leadingDigits (text ++ rest) = leadingDigits text := by
    unfold leadingDigits
    induction text with
    | nil =>
        cases rest with
        | nil => rfl
        | cons b rest => simp [h b rfl]
    | cons b text ih => by_cases hb : isAsciiDigit b <;> simp [hb, ih]
  unfold digitRun
  rw [hDigits]

theorem offerId_of_path {request : List UInt8} {id : UInt64}
    (hUrl : extractTradeOfferIdFromUrl request = (.ok (some id) : Exec ParseError _))
    (hMethod : ¬tradeOfferPath <:+: requestMethod request)
    (hPath : tradeOfferPath <+: requestPath request) :
    digitRun ((requestPath request).drop tradeOfferPath.length) = some id := by
  obtain ⟨after, hAfter⟩ := hPath
  have hCut : cut tradeOfferPath (requestPath request) = some ([], after) := by
    refine cut_of_firstMatch hAfter.symm (firstMatch_eq_some_iff.mpr ⟨by simp, ?_, by simp⟩)
    rw [← hAfter]
    exact List.prefix_append _ _
  obtain ⟨_, rest, hRequest, hEnd⟩ := cut_request_of_path (by decide) (by decide) hMethod hCut
  rw [extractTradeOfferIdFromUrl_eq, hRequest, Option.bind_some, Except.ok.injEq,
    digitRun_append] at hUrl
  · rw [← hAfter, List.drop_left]
    exact hUrl
  · intro b hb
    obtain rfl | rfl | rfl := hEnd b hb <;> decide

theorem attribution_of_source {serverName : String} {request : List UInt8}
    {escrow : EscrowSnapshot} {source : ProofSource} (hHost : serverName = source.host)
    (hSource : proofSource request = some source)
    (hUrl : source = .community →
      extractTradeOfferIdFromUrl request = (.ok (some escrow.tradeOfferId) : Exec ParseError _)) :
    Attribution serverName request escrow source := by
  have hNamed := proofSource_named hSource
  refine ⟨by rw [detectProofSource_eq, hSource], hHost, hNamed, fun hMethod hPath => ?_,
    fun hCommunity hMethod hPath => offerId_of_path (hUrl hCommunity) hMethod hPath⟩
  cases source with
  | tradeOffer => exact Or.inl ⟨rfl, namesEndpoint_of_path (by decide) hMethod hPath hNamed⟩
  | tradeStatus => exact Or.inr ⟨rfl, namesEndpoint_of_path (by decide) hMethod hPath hNamed⟩
  | community =>
      -- the path is part of the request, which holds no `GetTrade` at all
      have hNonempty : requestPath request ≠ [] := fun h => by
        rw [h] at hPath
        exact absurd hPath (by decide)
      obtain ⟨rest, hRequest, _⟩ := request_eq_of_path hNonempty
      refine absurd (hPath.trans ?_) hNamed.1
      refine ⟨requestMethod request ++ [byte ' '], rest, Eq.trans ?_ hRequest.symm⟩
      simp

/-- An accepted proof comes from the host of its source, and is classified by the
first name in the request. -/
theorem decide_attribution {ext : Externals} {serverName : String} {request response : List UInt8}
    {escrow : EscrowSnapshot} {proofTimestamp : UInt64} {settlement : Settlement}
    (h : Oracle.decide ext serverName request response escrow proofTimestamp = .ok settlement) :
    ∃ source, Attribution serverName request escrow source := by
  obtain ⟨evidence, hGather, hJudge⟩ := (decide_eq_ok_iff ext).mp h
  cases evidence with
  | offer requestId data =>
      obtain ⟨_, _, hHost, hSource, _⟩ := (gather_eq_ok_iff ext).mp hGather
      exact ⟨.tradeOffer, attribution_of_source hHost hSource fun h => by cases h⟩
  | status data =>
      obtain ⟨_, _, hHost, hSource, _⟩ := (gather_eq_ok_iff ext).mp hGather
      exact ⟨.tradeStatus, attribution_of_source hHost hSource fun h => by cases h⟩
  | community data =>
      obtain ⟨hId, hProver, _⟩ := judgeCommunity_eq_ok_iff.mp hJudge
      have hTranscript := communityTranscript_of_gather hGather hId hProver
      obtain ⟨_, _, hHost, hSource, _⟩ := (gather_eq_ok_iff ext).mp hGather
      exact ⟨.community, attribution_of_source hHost hSource fun _ => hTranscript.requestId⟩

theorem decide_attribution_completed :
    Oracle.decide (statusExternals completedJson completedTrade) steamApiHost statusRequest
        (okResponse completedJson) sampleEscrow sampleNow = .ok sampleEscrow.release ∧
      ∃ source, Attribution steamApiHost statusRequest sampleEscrow source := by
  have h : Oracle.decide (statusExternals completedJson completedTrade) steamApiHost statusRequest
      (okResponse completedJson) sampleEscrow sampleNow = .ok sampleEscrow.release := by
    decide +kernel
  exact ⟨h, decide_attribution h⟩

/-- The request path is that of the endpoint that the source names. -/
def EndpointInPath (request : List UInt8) (escrow : EscrowSnapshot) : ProofSource → Prop
  | .tradeOffer => ascii "/GetTradeOffer/" <:+: requestPath request
  | .tradeStatus => ascii "/GetTradeStatus/" <:+: requestPath request
  | .community => tradeOfferPath <+: requestPath request ∧
      digitRun ((requestPath request).drop tradeOfferPath.length) = some escrow.tradeOfferId

def queryStatusRequest : List UInt8 :=
  ascii "GET /IPublishedFileService/v1/?x=GetTradeStatus HTTP/1.1\r\n" ++
    ascii "Host: api.steampowered.com\r\n\r\n"

def headerOfferRequest : List UInt8 :=
  ascii "GET /IPublishedFileService/v1/ HTTP/1.1\r\n" ++
    ascii "Host: api.steampowered.com\r\nX-Ref: GetTradeOffer\r\n\r\n"

def refererRequest : List UInt8 :=
  ascii "GET /id/other/ HTTP/1.1\r\nHost: steamcommunity.com\r\n" ++
    ascii "Referer: /tradeoffer/8653813160\r\n" ++
    ascii "Cookie: steamLoginSecure=76561198404282737%7C%7CeyToken\r\n\r\n"

theorem endpoint_outside_path :
    (Oracle.decide (statusExternals completedJson completedTrade) steamApiHost queryStatusRequest
        (okResponse completedJson) sampleEscrow sampleNow = .ok sampleEscrow.release ∧
      ¬EndpointInPath queryStatusRequest sampleEscrow .tradeStatus) ∧
    (Oracle.decide viewExternals steamApiHost headerOfferRequest (okResponse sellerJson.bytes)
        sampleEscrow sampleNow = .ok (sampleEscrow.refund .buyerExpired) ∧
      ¬EndpointInPath headerOfferRequest sampleEscrow .tradeOffer) ∧
    (Oracle.decide viewExternals steamCommunityHost refererRequest notFoundPage sampleEscrow
        sampleNow = .ok (sampleEscrow.refund .tradeNotExist) ∧
      ¬EndpointInPath refererRequest sampleEscrow .community) := by
  refine ⟨⟨by decide +kernel, ?_⟩, ⟨by decide +kernel, ?_⟩, ⟨by decide +kernel, ?_⟩⟩ <;>
    unfold EndpointInPath <;> decide +kernel

end SettlementOracle
