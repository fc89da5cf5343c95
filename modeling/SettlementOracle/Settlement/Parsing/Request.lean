import SettlementOracle.Checked.Search
import SettlementOracle.Checked.Decimal
import SettlementOracle.Settlement.Errors

/-! Byte-level scanners over the HTTP request. Each scanner is written with the
source's slices and indices; its specification lemma removes them. -/
namespace SettlementOracle

open Checked

variable {ε : Type}

def crlf : List UInt8 := ascii "\r\n"

def cookieHeader : List UInt8 := ascii "\r\nCookie:"

def steamLoginSecure : List UInt8 := ascii "steamLoginSecure="

def tradeOfferPath : List UInt8 := ascii "/tradeoffer/"

def getTrade : List UInt8 := ascii "GetTrade"

def communityName : List UInt8 := ascii "steamcommunity.com"

def maxDigits : Nat := 20

def findPattern (data pattern : List UInt8) : Exec ε (Option Nat) :=
  if pattern = [] ∨ data.length < pattern.length then .ok none
  else scanWindows data pattern (data.length - pattern.length + 1) 0

/-- Classify the request by the byte after the first `GetTrade`, wherever in
the request it stands. -/
def detectProofSource (request : List UInt8) : Exec ε (Option ProofSource) := do
  match ← findPattern request getTrade with
  | some pos =>
      let nextPos := pos + 8
      if nextPos < request.length then
        let next ← index request nextPos
        if next = byte 'O' then .ok (some .tradeOffer)
        else if next = byte 'S' then .ok (some .tradeStatus)
        else .ok none
      else .ok none
  | none =>
      match ← findPattern request communityName with
      | some _ => .ok (some .community)
      | none => .ok none

/-- The part of the cookie scanner that works inside one header line. -/
def steamIdInLine (cookieLine : List UInt8) : Exec ParseError UInt64 := do
  let cookieStart ← okOr (← findPattern cookieLine steamLoginSecure) .missingCookie
  let valueStart := cookieStart + steamLoginSecure.length
  let scanned ← scanDecimal maxDigits cookieLine (cookieLine.length - valueStart) valueStart 0 0
  let (steamId, digitCount, i) ← okOr scanned .numberOverflow
  failIf (¬(15 ≤ digitCount ∧ digitCount ≤ 18)) .invalidCookieFormat
  let escaped ← matchesAt cookieLine (ascii "%7C%7C") i
  let plain ← matchesAt cookieLine (ascii "||") i
  failIf (¬(escaped || plain)) .invalidCookieFormat
  .ok steamId

/-- The Steam identifier in the `steamLoginSecure` cookie. -/
def extractSteamIdFromCookie (request : List UInt8) : Exec ParseError UInt64 := do
  let cookieHeaderPos ← okOr (← findPattern request cookieHeader) .missingCookie
  let headerStart := cookieHeaderPos + 2
  let tail ← slice request headerStart request.length
  let headerEnd := match ← findPattern tail crlf with
    | some pos => headerStart + pos
    | none => request.length
  let cookieLine ← slice request headerStart headerEnd
  steamIdInLine cookieLine

/-- A digit run of length one to twenty, as the two scanners below read it. -/
def numberAt (data : List UInt8) (start : Nat) : Exec ε (Option UInt64) := do
  match ← scanDecimal maxDigits data (data.length - start) start 0 0 with
  | none => .ok none
  | some (value, digitCount, _) => .ok (if digitCount > 0 then some value else none)

def extractTradeOfferIdFromUrl (request : List UInt8) : Exec ε (Option UInt64) := do
  match ← findPattern request tradeOfferPath with
  | none => .ok none
  | some patternPos => numberAt request (patternPos + tradeOfferPath.length)

def isSpace (b : UInt8) : Bool := b == byte ' '

def isSpaceOrQuote (b : UInt8) : Bool := isSpace b || b == byte '"'

def extractNumberAfterPattern (data pattern : List UInt8) : Exec ε (Option UInt64) := do
  match ← findPattern data pattern with
  | none => .ok none
  | some pos =>
      let start := pos + pattern.length
      let i ← skipWhile isSpaceOrQuote data (data.length - start) start
      numberAt data i

def extractTradeOfferIdFromRequest (request : List UInt8) : Exec ε (Option UInt64) := do
  match ← extractNumberAfterPattern request (ascii "tradeofferid=") with
  | some id => .ok (some id)
  | none =>
      match ← extractNumberAfterPattern request (ascii "tradeOfferid=") with
      | some id => .ok (some id)
      | none => extractNumberAfterPattern request (ascii "TradeOfferId=")

theorem findPattern_eq {pattern : List UInt8} (hPattern : pattern ≠ []) (data : List UInt8) :
    (findPattern data pattern : Exec ε (Option Nat)) = .ok (firstMatch pattern data) := by
  unfold findPattern
  by_cases hShort : data.length < pattern.length
  · rw [if_pos (Or.inr hShort)]
    have hNone : ¬pattern <:+: data := by
      intro h
      have := h.length_le
      omega
    rw [firstMatch_eq_none_iff.mpr hNone]
  · rw [if_neg (by simp only [hPattern, hShort, or_self, not_false_eq_true]),
      scanWindows_eq hPattern _ _ (by omega)]
    simp

/-- The source a request is classified as, stated without indices. -/
def proofSource (request : List UInt8) : Option ProofSource :=
  match cut getTrade request with
  | some (_, next :: _) =>
      if next = byte 'O' then some .tradeOffer
      else if next = byte 'S' then some .tradeStatus
      else none
  | some (_, []) => none
  | none => if communityName <:+: request then some .community else none

theorem detectProofSource_eq (request : List UInt8) :
    (detectProofSource request : Exec ε (Option ProofSource)) = .ok (proofSource request) := by
  unfold detectProofSource proofSource
  rw [findPattern_eq (by decide), ok_bind]
  cases hFirst : firstMatch getTrade request with
  | none =>
      have hCut : cut getTrade request = none := by simp [cut, hFirst]
      simp only [hCut]
      rw [findPattern_eq (by decide), ok_bind]
      cases hName : firstMatch communityName request with
      | none => simp [firstMatch_eq_none_iff.mp hName]
      | some pos => simp [firstMatch_isSome_iff.mp (by rw [hName]; rfl)]
  | some pos =>
      have hCut : cut getTrade request = some (request.take pos, request.drop (pos + 8)) := by
        rw [cut, hFirst]
        rfl
      by_cases hNext : pos + 8 < request.length
      · rw [List.drop_eq_getElem_cons hNext] at hCut
        simp only [hCut, if_pos hNext, index_of_lt hNext, ok_bind]
        split_ifs <;> rfl
      · rw [List.drop_eq_nil_of_le (by omega)] at hCut
        simp only [hCut, if_neg hNext]

/-- The value of the leading digits, when there are one to twenty of them and
they fit a `u64`. -/
def digitRun (text : List UInt8) : Option UInt64 :=
  if 0 < (leadingDigits text).length ∧ (leadingDigits text).length ≤ maxDigits ∧
      decimalValue (leadingDigits text) < UInt64.size then
    some (UInt64.ofNat (decimalValue (leadingDigits text)))
  else none

theorem numberAt_eq (data : List UInt8) (start : Nat) :
    (numberAt data start : Exec ε (Option UInt64)) = .ok (digitRun (data.drop start)) := by
  unfold numberAt digitRun
  rw [scanDecimal_eq _ _ _ _ _ (Nat.zero_le _), ok_bind, pushDigits_bytes]
  simp only [Nat.zero_add]
  by_cases hCount : (leadingDigits (data.drop start)).length ≤ maxDigits
  · by_cases hFit : decimalValue (leadingDigits (data.drop start)) < UInt64.size
    · simp [hCount, hFit]
    · simp [hCount, hFit]
  · simp [hCount]

theorem extractTradeOfferIdFromUrl_eq (request : List UInt8) :
    (extractTradeOfferIdFromUrl request : Exec ε (Option UInt64)) =
      .ok ((cut tradeOfferPath request).bind fun parts => digitRun parts.2) := by
  unfold extractTradeOfferIdFromUrl
  rw [findPattern_eq (by decide), ok_bind, cut]
  cases hFirst : firstMatch tradeOfferPath request with
  | none => rfl
  | some pos => simp [numberAt_eq]

theorem extractNumberAfterPattern_eq {pattern : List UInt8} (hPattern : pattern ≠ [])
    (data : List UInt8) :
    (extractNumberAfterPattern data pattern : Exec ε (Option UInt64)) =
      .ok ((cut pattern data).bind fun parts => digitRun (parts.2.dropWhile isSpaceOrQuote)) := by
  unfold extractNumberAfterPattern
  rw [findPattern_eq hPattern, ok_bind, cut]
  cases hFirst : firstMatch pattern data with
  | none => rfl
  | some pos =>
      simp only [skipWhile_eq, ok_bind, numberAt_eq, Option.map_some, Option.bind_some]
      rw [← List.drop_drop, drop_takeWhile_length]

/-- The identifier a `GetTradeOffer` request names, under any of its spellings. -/
def requestTradeOfferId (request : List UInt8) : Option UInt64 :=
  let after := fun pattern : List UInt8 =>
    (cut pattern request).bind fun parts => digitRun (parts.2.dropWhile isSpaceOrQuote)
  (after (ascii "tradeofferid=")).or
    ((after (ascii "tradeOfferid=")).or (after (ascii "TradeOfferId=")))

theorem extractTradeOfferIdFromRequest_eq (request : List UInt8) :
    (extractTradeOfferIdFromRequest request : Exec ε (Option UInt64)) =
      .ok (requestTradeOfferId request) := by
  unfold extractTradeOfferIdFromRequest requestTradeOfferId
  rw [extractNumberAfterPattern_eq (by decide), extractNumberAfterPattern_eq (by decide),
    extractNumberAfterPattern_eq (by decide)]
  simp only [ok_bind]
  split
  · rename_i id hFirst
    simp [hFirst]
  · rename_i hFirst
    rw [hFirst, Option.none_or]
    split
    · rename_i id hSecond
      simp [hSecond]
    · rename_i hSecond
      rw [hSecond, Option.none_or]

/-- The text up to the next line break. -/
def lineOf (data : List UInt8) : List UInt8 :=
  match cut crlf data with
  | some (line, _) => line
  | none => data

/-- Behind its first line a request is empty or starts with a line break. -/
theorem exists_eq_lineOf_append (request : List UInt8) :
    ∃ tail, request = lineOf request ++ tail ∧ ∀ b ∈ tail.head?, b = byte '\r' := by
  unfold lineOf
  cases hCut : cut crlf request with
  | none => exact ⟨[], by simp, by simp⟩
  | some parts =>
      obtain ⟨hSplit, _⟩ := cut_eq_some hCut
      refine ⟨crlf ++ parts.2, by rw [hSplit, List.append_assoc], ?_⟩
      intro b hb
      exact (Option.some.inj hb).symm

/-- The first line that starts with `Cookie:`, wherever in the request it stands. -/
def cookieLine (request : List UInt8) : Option (List UInt8) :=
  (cut cookieHeader request).map fun parts => lineOf (ascii "Cookie:" ++ parts.2)

/-- The checks made on the text behind the cookie name. -/
def steamIdOf (value : List UInt8) : Exec ParseError UInt64 := do
  let steamId ← okOr (if (leadingDigits value).length ≤ maxDigits then
    pushDigits 0 ((leadingDigits value).map byteDigit) else none) .numberOverflow
  failIf (¬(15 ≤ (leadingDigits value).length ∧ (leadingDigits value).length ≤ 18))
    .invalidCookieFormat
  failIf (¬(ascii "%7C%7C" <+: value.drop (leadingDigits value).length ∨
    ascii "||" <+: value.drop (leadingDigits value).length)) .invalidCookieFormat
  .ok steamId

theorem steamIdInLine_eq (line : List UInt8) :
    steamIdInLine line =
      (okOr (cut steamLoginSecure line) .missingCookie >>= fun parts => steamIdOf parts.2) := by
  unfold steamIdInLine
  rw [findPattern_eq (by decide), ok_bind, cut]
  cases hName : firstMatch steamLoginSecure line with
  | none => rfl
  | some start =>
      simp only [okOr_some, ok_bind, Option.map_some, scanDecimal_eq _ _ _ _ _ (Nat.zero_le _),
        steamIdOf, Nat.zero_add]
      have hDrop : ∀ k, line.drop (start + steamLoginSecure.length + k) =
          (line.drop (start + steamLoginSecure.length)).drop k := fun k => by rw [List.drop_drop]
      generalize hValue : line.drop (start + steamLoginSecure.length) = value at hDrop
      have hEscaped : ∀ k, (matchesAt line (ascii "%7C%7C") k : Exec ParseError Bool) =
          .ok (ascii "%7C%7C" <+: line.drop k) := matchesAt_eq (by decide)
      have hPlain : ∀ k, (matchesAt line (ascii "||") k : Exec ParseError Bool) =
          .ok (ascii "||" <+: line.drop k) := matchesAt_eq (by decide)
      simp only [hEscaped, hPlain, ok_bind]
      by_cases hCount : (leadingDigits value).length ≤ maxDigits
      · simp only [if_pos hCount]
        cases pushDigits 0 ((leadingDigits value).map byteDigit) with
        | none => rfl
        | some steamId => simp [hDrop]
      · simp only [if_neg hCount]
        rfl

theorem extractSteamIdFromCookie_eq (request : List UInt8) :
    extractSteamIdFromCookie request =
      (okOr (cookieLine request) .missingCookie >>= steamIdInLine) := by
  unfold extractSteamIdFromCookie cookieLine
  rw [findPattern_eq (by decide), ok_bind, cut]
  cases hHeader : firstMatch cookieHeader request with
  | none => rfl
  | some pos =>
      obtain ⟨back, hBack⟩ := (firstMatch_eq_some_iff.mp hHeader).2.1
      have hTail : request.drop (pos + 2) = ascii "Cookie:" ++ back := by
        rw [← List.drop_drop, ← hBack]
        rfl
      have hRest : request.drop (pos + cookieHeader.length) = back := by
        rw [← List.drop_drop, ← hBack, List.drop_left]
      have hStart : pos + 2 ≤ request.length := by
        have hLength := congrArg List.length hTail
        have hSeven : (ascii "Cookie:").length = 7 := by decide
        simp only [List.length_drop, List.length_append] at hLength
        omega
      simp only [okOr_some, ok_bind, Option.map_some, hRest]
      rw [slice_to_end hStart, ok_bind, findPattern_eq (by decide), ok_bind, hTail, lineOf, cut]
      cases hEnd : firstMatch crlf (ascii "Cookie:" ++ back) with
      | none =>
          simp only [Option.map_none]
          rw [slice_to_end hStart, hTail, ok_bind]
      | some pos' =>
          have hBound := (firstMatch_eq_some_iff.mp hEnd).1
          rw [← hTail, List.length_drop] at hBound
          simp only [Option.map_some]
          rw [slice_of_le (by omega) (by omega), Nat.add_sub_cancel_left, hTail, ok_bind]

/-- The text behind a cookie name that the scanner accepts as identifier `n`. -/
def SteamIdValue (value : List UInt8) (n : UInt64) : Prop :=
  15 ≤ (leadingDigits value).length ∧ (leadingDigits value).length ≤ 18 ∧
    n = UInt64.ofNat (decimalValue (leadingDigits value)) ∧
    (ascii "%7C%7C" <+: value.drop (leadingDigits value).length ∨
      ascii "||" <+: value.drop (leadingDigits value).length)

/-- Eighteen digits fit a `u64`. -/
theorem decimalValue_leadingDigits_lt {value : List UInt8}
    (h : (leadingDigits value).length ≤ 18) : decimalValue (leadingDigits value) < UInt64.size := by
  calc decimalValue (leadingDigits value) < Nat.pow 10 (leadingDigits value).length :=
        decimalValue_lt fun b hb => List.mem_takeWhile_imp hb
    _ ≤ Nat.pow 10 18 := Nat.pow_le_pow_right (by omega) h
    _ < UInt64.size := by decide

theorem steamIdOf_eq_ok_iff {value : List UInt8} {n : UInt64} :
    steamIdOf value = .ok n ↔ SteamIdValue value n := by
  unfold steamIdOf SteamIdValue
  simp only [bind_eq_ok, okOr_eq_ok, failIf_eq_ok, not_not, exists_and_left, exists_const,
    pushDigits_bytes, Except.ok.injEq]
  constructor
  · rintro ⟨steamId, hId, ⟨hLow, hHigh⟩, hDelimiter, rfl⟩
    refine ⟨hLow, hHigh, ?_, hDelimiter⟩
    split_ifs at hId
    exact (Option.some.inj hId).symm
  · rintro ⟨hLow, hHigh, rfl, hDelimiter⟩
    have hFit := decimalValue_leadingDigits_lt hHigh
    have hCount : (leadingDigits value).length ≤ maxDigits := by unfold maxDigits; omega
    exact ⟨_, by rw [if_pos hCount, if_pos hFit], ⟨hLow, hHigh⟩, hDelimiter, rfl⟩

/-- Exactly what the cookie scanner accepts. -/
theorem extractSteamIdFromCookie_eq_ok_iff {request : List UInt8} {n : UInt64} :
    extractSteamIdFromCookie request = .ok n ↔
      ∃ line before value, cookieLine request = some line ∧
        cut steamLoginSecure line = some (before, value) ∧ SteamIdValue value n := by
  rw [extractSteamIdFromCookie_eq]
  simp only [bind_eq_ok, okOr_eq_ok, steamIdInLine_eq, steamIdOf_eq_ok_iff, Prod.exists]
  constructor
  · rintro ⟨line, hLine, before, value, hCut, hValue⟩
    exact ⟨line, before, value, hLine, hCut, hValue⟩
  · rintro ⟨line, before, value, hLine, hCut, hValue⟩
    exact ⟨line, hLine, before, value, hCut, hValue⟩

/-- The cookie scanner never indexes out of range. -/
theorem safe_extractSteamIdFromCookie (request : List UInt8) :
    Safe (extractSteamIdFromCookie request) := by
  rw [extractSteamIdFromCookie_eq]
  simp [steamIdInLine_eq, steamIdOf, safe_bind_iff]

end SettlementOracle
