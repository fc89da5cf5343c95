import SettlementOracle.Settlement.CookieIdentity
import SettlementOracle.Settlement.Parsing.GzipFormat
import SettlementOracle.Settlement.Redaction

/-! Which bytes may be hidden. A search goes wrong when an occurrence is hidden in
front of one that is shown, a number when its last digits are hidden, and a check for
absent text when the text is hidden. Where none of this happens, a redacted transcript
settles only what the full one does. -/
namespace SettlementOracle

open Checked

/-- The request shows its first cookie header, and behind it the first login name, and
hides no line break between them. Otherwise it shows no header, or no name behind it. -/
structure CookieKept (hidden : Nat → Bool) (request : List UInt8) : Prop where
  header : KeepsFirst hidden cookieHeader request
  login : ∀ front back, cut cookieHeader request = some (front, back) →
    KeepsFirst (hiddenFrom (front.length + cookieHeader.length) hidden) steamLoginSecure back
  line : ∀ front back before after, cut cookieHeader request = some (front, back) →
    cut steamLoginSecure back = some (before, after) →
    KeepsBefore (hiddenFrom (front.length + cookieHeader.length) hidden) crlf back before.length

/-- The request shows its first offer path with all the digits behind it, or shows none. -/
structure UrlKept (hidden : Nat → Bool) (request : List UInt8) : Prop where
  path : KeepsFirst hidden tradeOfferPath request
  digits : ∀ front back, cut tradeOfferPath request = some (front, back) →
    RunShown isAsciiDigit (hiddenFrom (front.length + tradeOfferPath.length) hidden) back

/-- The first occurrence of the pattern, the blanks and the digits behind it are shown. -/
def NumberKept (hidden : Nat → Bool) (request pattern : List UInt8) : Prop :=
  ∀ front back, cut pattern request = some (front, back) →
    (∀ j < pattern.length, hidden (front.length + j) = false) ∧
    RunShown isSpaceOrQuote (hiddenFrom (front.length + pattern.length) hidden) back ∧
    RunShown isAsciiDigit (hiddenFrom (front.length + pattern.length +
      (back.takeWhile isSpaceOrQuote).length) hidden) (back.dropWhile isSpaceOrQuote)

/-- Of a gzip member, only the bytes that nothing reads are hidden: the time and the
flags of the compressor, and the trailer. -/
def GzipKept (hidden : Nat → Bool) (body : List UInt8) : Prop :=
  gzipMagic <+: body → ∀ i, hidden i = true →
    (4 ≤ i ∧ i < 10) ∨ (headerLength body ≤ i ∧ body.length ≤ i + 8)

/-- The response shows its first blank line, or shows none. -/
structure BodyKept (hidden : Nat → Bool) (response : List UInt8) : Prop where
  separator : KeepsFirst hidden bodySeparator response
  gzip : ∀ front body, cut bodySeparator response = some (front, body) →
    GzipKept (hiddenFrom (front.length + bodySeparator.length) hidden) body

/-- Hiding does not turn the page into UTF-8, and it leaves a sign-in link, if there is
one, or the page has the marker of a signed-in viewer. -/
structure PageKept (hidden : Nat → Bool) (page : List UInt8) : Prop where
  utf8 : validUtf8 (redact hidden page) = true → validUtf8 page = true
  signIn : signIn <:+: page → signIn <:+: redact hidden page ∨ steamIdMarker <:+: page

section Request

variable {hidden : Nat → Bool} {request : List UInt8} {n : UInt64} {source : ProofSource}

theorem proofSource_of_redact (hKeeps : KeepsFirst hidden getTrade request)
    (h : proofSource (redact hidden request) = some source) (hSource : source ≠ .community) :
    proofSource request = some source := by
  unfold proofSource at h ⊢
  cases hCut : cut getTrade (redact hidden request) with
  | none =>
      rw [hCut] at h
      simp only at h
      split_ifs at h
      exact absurd (Option.some.inj h).symm hSource
  | some parts =>
      obtain ⟨before, after⟩ := parts
      obtain ⟨first, second, hFull, -, hAfter⟩ := cut_of_mask (by decide) hKeeps hCut
      rw [hCut] at h
      rw [hFull]
      cases second with
      | nil =>
          rw [mask_nil] at hAfter
          subst hAfter
          cases h
      | cons next rest =>
          rw [mask_cons] at hAfter
          subst hAfter
          by_cases hHidden : hiddenFrom (first.length + getTrade.length) hidden 0 = true
          · -- a hidden letter reads as zero, which names no source
            rw [if_pos hHidden] at h
            simp [byte] at h
          · rw [if_neg hHidden] at h
            simpa using h

theorem not_getTrade_of_community (h : proofSource request = some .community) :
    ¬getTrade <:+: request := by
  intro hNamed
  unfold proofSource at h
  cases hCut : cut getTrade request with
  | none => exact cut_eq_none_iff.mp hCut hNamed
  | some parts =>
      obtain ⟨before, after⟩ := parts
      rw [hCut] at h
      cases after with
      | nil => cases h
      | cons next rest =>
          simp only at h
          split_ifs at h <;> cases h

theorem community_of_redact
    (hKeeps : getTrade <:+: request → getTrade <:+: redact hidden request)
    (h : proofSource (redact hidden request) = some .community) :
    proofSource request = some .community := by
  have hNone : ¬getTrade <:+: request := fun hNamed => not_getTrade_of_community h (hKeeps hNamed)
  have hSeen : ¬getTrade <:+: redact hidden request := fun hNamed =>
    hNone (infix_of_mask (by decide) hNamed)
  unfold proofSource at h ⊢
  rw [cut_eq_none_iff.mpr hSeen] at h
  rw [cut_eq_none_iff.mpr hNone]
  simp only at h
  split_ifs at h with hName
  exact if_pos (infix_of_mask (by decide) hName)

theorem extractTradeOfferIdFromUrl_of_redact (hKept : UrlKept hidden request)
    (h : extractTradeOfferIdFromUrl (redact hidden request) =
      (.ok (some n) : Exec ParseError (Option UInt64))) :
    extractTradeOfferIdFromUrl request = (.ok (some n) : Exec ParseError (Option UInt64)) := by
  rw [extractTradeOfferIdFromUrl_eq, Except.ok.injEq, Option.bind_eq_some_iff] at h ⊢
  obtain ⟨⟨before, after⟩, hCut, hRun⟩ := h
  obtain ⟨first, second, hFull, -, rfl⟩ := cut_of_mask (by decide) hKept.path hCut
  refine ⟨(first, second), hFull, ?_⟩
  simp only [digitRun, leadingDigits] at hRun ⊢
  rwa [takeWhile_mask (by decide) (hKept.digits first second hFull)] at hRun

/-- The numbers that a request names, one for each spelling of the parameter. -/
def requestIdPatterns : List (List UInt8) :=
  [ascii "tradeofferid=", ascii "tradeOfferid=", ascii "TradeOfferId="]

theorem number_redact {pattern : List UInt8} (hPattern : (0 : UInt8) ∉ pattern)
    (hKept : NumberKept hidden request pattern) :
    ((cut pattern (redact hidden request)).bind fun parts =>
        digitRun (parts.2.dropWhile isSpaceOrQuote)) =
      (cut pattern request).bind fun parts => digitRun (parts.2.dropWhile isSpaceOrQuote) := by
  cases hCut : cut pattern request with
  | none => rw [redact, cut_mask_eq_none hPattern hCut]
  | some parts =>
      obtain ⟨front, back⟩ := parts
      obtain ⟨hShown, hBlanks, hDigits⟩ := hKept front back hCut
      rw [redact, cut_mask hPattern hCut hShown, Option.bind_some, Option.bind_some,
        dropWhile_mask (by decide) hBlanks, hiddenFrom_hiddenFrom]
      simp only [digitRun, leadingDigits]
      rw [takeWhile_mask (by decide) hDigits]

theorem requestTradeOfferId_redact
    (hKept : ∀ pattern ∈ requestIdPatterns, NumberKept hidden request pattern) :
    requestTradeOfferId (redact hidden request) = requestTradeOfferId request := by
  simp only [requestTradeOfferId]
  rw [number_redact (by decide) (hKept _ (by simp [requestIdPatterns])),
    number_redact (by decide) (hKept _ (by simp [requestIdPatterns])),
    number_redact (by decide) (hKept _ (by simp [requestIdPatterns]))]

theorem prefix_lineOf (text : List UInt8) : lineOf text <+: text := by
  obtain ⟨tail, hTail, _⟩ := exists_eq_lineOf_append text
  exact ⟨tail, hTail.symm⟩

/-- A line holds no line break. -/
theorem not_occursAt_lineOf {text : List UInt8} {j : Nat} (h : j < (lineOf text).length) :
    ¬OccursAt crlf text j := by
  intro hOccurs
  unfold lineOf at h
  cases hCut : cut crlf text with
  | none => exact cut_eq_none_iff.mp hCut (infix_iff_occursAt.mpr ⟨j, hOccurs⟩)
  | some parts =>
      rw [hCut] at h
      have hFirst := firstMatch_eq_some_iff_isLeast.mp (cut_eq_some hCut).2
      exact absurd (hFirst.2 hOccurs) (Nat.not_le_of_lt h)

theorem lineOf_front {front back : List UInt8}
    (h : ∀ j < front.length, ¬OccursAt crlf (front ++ back) j) :
    lineOf (front ++ back) = front ++ lineOf back := by
  rw [lineOf, lineOf, cut_append h]
  cases cut crlf back <;> rfl

/-- The digits and the delimiter decide, whatever follows them. -/
theorem SteamIdValue.extend {value delimiter rest : List UInt8} (h : SteamIdValue value n)
    (hDelimiter : delimiter ∈ delimiters) :
    SteamIdValue (leadingDigits value ++ (delimiter ++ rest)) n := by
  obtain ⟨hLow, hHigh, hId, _⟩ := h
  have hDigits : leadingDigits (leadingDigits value ++ (delimiter ++ rest)) = leadingDigits value :=
    leadingDigits_delimited hDelimiter (fun b hb => List.mem_takeWhile_imp hb) rest
  unfold SteamIdValue
  rw [hDigits, List.drop_left]
  refine ⟨hLow, hHigh, hId, ?_⟩
  simp only [delimiters, List.mem_cons, List.not_mem_nil, or_false] at hDelimiter
  obtain rfl | rfl := hDelimiter
  · exact Or.inr (List.prefix_append _ _)
  · exact Or.inl (List.prefix_append _ _)

/-- Login names, digits and delimiters are text without zeros and line breaks. -/
theorem not_mem_login {value delimiter : List UInt8} {b : UInt8} (hName : b ∉ steamLoginSecure)
    (hDigit : isAsciiDigit b = false) (hDelimiters : ∀ delimiter ∈ delimiters, b ∉ delimiter)
    (hDelimiter : delimiter ∈ delimiters) :
    b ∉ steamLoginSecure ++ leadingDigits value ++ delimiter := by
  simp only [List.mem_append, not_or]
  refine ⟨⟨hName, fun hMem => ?_⟩, hDelimiters delimiter hDelimiter⟩
  rw [List.mem_takeWhile_imp hMem] at hDigit
  cases hDigit

/-- What the scanner reads of a masked line is shown, and stands in the line itself. -/
theorem login_of_mask {back inner value : List UInt8} {hidden : Nat → Bool}
    (hLine : lineOf (mask 0 hidden back) = inner ++ steamLoginSecure ++ value)
    (hFirst : firstMatch steamLoginSecure (lineOf (mask 0 hidden back)) = some inner.length)
    (hValue : SteamIdValue value n) (hLogin : KeepsFirst hidden steamLoginSecure back)
    (hBreaks : ∀ before after, cut steamLoginSecure back = some (before, after) →
      KeepsBefore hidden crlf back before.length) :
    ∃ before value', firstMatch steamLoginSecure (lineOf back) = some before.length ∧
      lineOf back = before ++ steamLoginSecure ++ value' ∧ SteamIdValue value' n := by
  obtain ⟨delimiter, hDelimiter, rest, hRest⟩ := hValue.delimited
  obtain ⟨tail, hTail⟩ := prefix_lineOf (mask 0 hidden back)
  have hMask : mask 0 hidden back = inner ++
      (steamLoginSecure ++ leadingDigits value ++ delimiter ++ (rest ++ tail)) := by
    rw [← hTail, hLine]
    conv_lhs => rw [← hRest]
    simp
  have hInside : inner.length < (lineOf (mask 0 hidden back)).length := by
    have hName : 0 < steamLoginSecure.length := by decide
    simp only [hLine, List.length_append]
    omega
  -- the name that the scanner finds is shown, and it is the first one
  have hSeen : firstMatch steamLoginSecure (mask 0 hidden back) = some inner.length := by
    rw [← hTail]
    exact firstMatch_append hFirst tail
  have hWhole := firstMatch_of_mask (by decide) hLogin hSeen
  have hNoZero : (0 : UInt8) ∉ steamLoginSecure ++ leadingDigits value ++ delimiter :=
    not_mem_login (by decide) (by decide) (by decide) hDelimiter
  have hNoReturn : byte '\r' ∉ steamLoginSecure ++ leadingDigits value ++ delimiter :=
    not_mem_login (by decide) (by decide) (by decide) hDelimiter
  obtain ⟨before, behind, rfl, hBefore, hBehind, hLength⟩ := mask_split hMask
  obtain ⟨word, after, rfl, hWord, -, -⟩ := mask_split hBehind.symm
  rw [eq_of_not_mem (hWord ▸ hNoZero)] at hWord
  subst hWord
  rw [← hLength] at hWhole hInside
  have hCut := cut_of_firstMatch
    (by simp : _ = before ++ steamLoginSecure ++ (leadingDigits value ++ delimiter ++ after)) hWhole
  -- a line break in front of the name would be shown, and would end the masked line
  have hFront : lineOf (before ++ (steamLoginSecure ++ leadingDigits value ++ delimiter ++ after)) =
      before ++ (steamLoginSecure ++ leadingDigits value ++ delimiter ++ lineOf after) := by
    rw [lineOf_front, lineOf_word hNoReturn]
    intro j hj hBreak
    have hZero : (0 : UInt8) ∉ crlf := by decide
    have hShown := (occursAt_mask_iff hZero).mpr (hBreaks _ _ hCut j hj hBreak)
    exact not_occursAt_lineOf (by omega) hShown
  refine ⟨before, leadingDigits value ++ (delimiter ++ lineOf after), ?_, ?_,
    hValue.extend hDelimiter⟩
  · refine firstMatch_of_prefix hWhole (prefix_lineOf _) ?_
    rw [hFront]
    simp
  · rw [hFront]
    simp

theorem extractSteamIdFromCookie_of_redact (hKept : CookieKept hidden request)
    (h : extractSteamIdFromCookie (redact hidden request) = .ok n) :
    extractSteamIdFromCookie request = .ok n := by
  obtain ⟨line, before, value, hLine, hName, hValue⟩ := extractSteamIdFromCookie_eq_ok_iff.mp h
  obtain ⟨⟨front', back'⟩, hHeader, rfl⟩ := Option.map_eq_some_iff.mp hLine
  obtain ⟨front, back, hFull, -, rfl⟩ := cut_of_mask (by decide) hKept.header hHeader
  have hReturn : byte '\r' ∉ cookieName := by decide
  change cut steamLoginSecure (lineOf (cookieName ++ _)) = _ at hName
  rw [lineOf_word hReturn] at hName
  obtain ⟨inner, rfl, hCookies, hFirst⟩ := cut_cookieLine hName
  obtain ⟨before, value', hFirst', hCookies', hValue'⟩ :=
    login_of_mask hCookies hFirst hValue (hKept.login front back hFull)
      fun before after => hKept.line front back before after hFull
  refine extractSteamIdFromCookie_eq_ok_iff.mpr
    ⟨cookieName ++ lineOf back, cookieName ++ before, value', ?_, ?_, hValue'⟩
  · rw [cookieLine, hFull, ← lineOf_word hReturn]
    rfl
  · refine cut_of_firstMatch (by rw [hCookies']; simp) ?_
    rw [firstMatch_cookieLine, hFirst', List.length_append, Nat.add_comm]
    rfl

end Request

section Response

variable {hidden : Nat → Bool} {response body : List UInt8} {text : Text}
  {inflate : List UInt8 → Option (List UInt8)}

theorem getD_mask {i : Nat} (h : hidden i = false) :
    (mask 0 hidden body).getD i 0 = body.getD i 0 := by
  rw [List.getD_eq_getElem?_getD, List.getD_eq_getElem?_getD, getElem?_mask]
  cases body[i]? <;> simp [h]

theorem fieldEnd_mask {flags flag : UInt8} {offset : Nat}
    (h : ∀ i, offset ≤ i → i < fieldEnd flags body flag offset → hidden i = false) :
    fieldEnd flags (mask 0 hidden body) flag offset = fieldEnd flags body flag offset := by
  unfold fieldEnd at h ⊢
  split_ifs at h ⊢ with hFlag
  · rw [drop_mask, takeWhile_mask (by decide)]
    exact fun j hj => h (offset + j) (by omega) (by omega)
  · rfl

theorem extraEnd_mask {flags : UInt8}
    (h : ∀ i, 10 ≤ i → i < extraEnd flags body → hidden i = false) :
    extraEnd flags (mask 0 hidden body) = extraEnd flags body := by
  unfold extraEnd at h ⊢
  split_ifs at h ⊢ with hFlag
  · rw [getD_mask (h 10 (by omega) (by omega)), getD_mask (h 11 (by omega) (by omega))]
  · rfl

/-- The walk over the header reads the same when nothing of it is hidden that it reads. -/
theorem headerLength_mask
    (h : ∀ i, hidden i = true → (4 ≤ i ∧ i < 10) ∨ headerLength body ≤ i) :
    headerLength (mask 0 hidden body) = headerLength body := by
  obtain ⟨hComment, hName, hExtra, hFixed⟩ := walk_le_headerLength body
  have hShown : ∀ i, i < 4 ∨ 10 ≤ i → i < headerLength body → hidden i = false := by
    intro i hi hInside
    by_contra hHidden
    have hRead := h i (by simpa using hHidden)
    omega
  have hFlags : (mask 0 hidden body).getD 3 0 = body.getD 3 0 :=
    getD_mask (hShown 3 (by omega) (by omega))
  have hStart := le_extraEnd (body.getD 3 0) body
  have hBehind := le_fieldEnd (body.getD 3 0) 0x08 body (extraEnd (body.getD 3 0) body)
  have hExtraSame : extraEnd (body.getD 3 0) (mask 0 hidden body) = extraEnd (body.getD 3 0) body :=
    extraEnd_mask fun i hi hInside => hShown i (by omega) (by omega)
  have hNameSame : fieldEnd (body.getD 3 0) (mask 0 hidden body) 0x08
      (extraEnd (body.getD 3 0) body) =
        fieldEnd (body.getD 3 0) body 0x08 (extraEnd (body.getD 3 0) body) :=
    fieldEnd_mask fun i hi hInside => hShown i (by omega) (by omega)
  have hCommentSame : fieldEnd (body.getD 3 0) (mask 0 hidden body) 0x10
      (fieldEnd (body.getD 3 0) body 0x08 (extraEnd (body.getD 3 0) body)) =
        fieldEnd (body.getD 3 0) body 0x10
          (fieldEnd (body.getD 3 0) body 0x08 (extraEnd (body.getD 3 0) body)) :=
    fieldEnd_mask fun i hi hInside => hShown i (by omega) (by omega)
  rw [headerLength_eq, headerLength_eq, hFlags, hExtraSame, hNameSame, hCommentSame]

theorem GzipKept.shown (h : GzipKept hidden body) (hMagic : gzipMagic <+: body) {i : Nat}
    (hRead : i < 4 ∨ 10 ≤ i) (hInside : i < headerLength body ∨ i + 8 < body.length) :
    hidden i = false := by
  by_contra hHidden
  have hUnread := h hMagic i (by simpa using hHidden)
  omega

theorem GzipKept.magic_iff (h : GzipKept hidden body) :
    gzipMagic <+: mask 0 hidden body ↔ gzipMagic <+: body := by
  rw [prefix_mask_iff (by decide)]
  refine ⟨fun hBoth => hBoth.1, fun hMagic => ⟨hMagic, fun j hj => ?_⟩⟩
  have hTwo : gzipMagic.length = 2 := by decide
  have hTen := (walk_le_headerLength body).2.2.2
  exact h.shown hMagic (by omega) (by omega)

theorem deflateStream_mask (h : GzipKept hidden body) (hMagic : gzipMagic <+: body) :
    deflateStream (mask 0 hidden body) = deflateStream body := by
  have hTen := (walk_le_headerLength body).2.2.2
  have hHeader : headerLength (mask 0 hidden body) = headerLength body :=
    headerLength_mask fun i hi => (h hMagic i hi).imp_right And.left
  have hMethod : (mask 0 hidden body).getD 2 0 = body.getD 2 0 :=
    getD_mask (h.shown hMagic (by omega) (by omega))
  have hStream : ((mask 0 hidden body).drop (headerLength body)).take
      (body.length - 8 - headerLength body) =
        (body.drop (headerLength body)).take (body.length - 8 - headerLength body) := by
    rw [drop_mask, take_mask]
    refine mask_eq_self fun i hi => ?_
    rw [List.length_take] at hi
    exact h.shown hMagic (by omega) (by omega)
  unfold deflateStream
  rw [length_mask, hMethod, hHeader, hStream]

/-- A redacted response carries the stream of the full one, or its own text. -/
theorem payload_of_redact {carried : Payload} (hKept : BodyKept hidden response)
    (h : payload (redact hidden response) = some carried) :
    response.length ≤ maxRawResponseSize ∧ ∃ front body,
      cut bodySeparator response = some (front, body) ∧
      ((gzipMagic <+: body ∧ payload response = some carried) ∨
        (¬gzipMagic <+: body ∧ ∃ text : Text, carried = .plain text ∧
          text.bytes = redact (hiddenFrom (front.length + bodySeparator.length) hidden) body)) := by
  unfold payload at h ⊢
  rw [redact, length_mask] at h
  split_ifs at h ⊢ with hSize
  refine ⟨hSize, ?_⟩
  obtain ⟨body', hBody, hCarried⟩ := Option.bind_eq_some_iff.mp h
  obtain ⟨⟨front', _⟩, hCut, rfl⟩ := Option.map_eq_some_iff.mp hBody
  obtain ⟨front, body, hFull, -, rfl⟩ := cut_of_mask (by decide) hKept.separator hCut
  have hGzip := hKept.gzip front body hFull
  refine ⟨front, body, hFull, ?_⟩
  simp only [httpBody, hFull, Option.map_some, Option.bind_some]
  simp only [hGzip.magic_iff] at hCarried
  split_ifs at hCarried ⊢ with hMagic
  · rw [deflateStream_mask hGzip hMagic] at hCarried
    exact Or.inl ⟨hMagic, hCarried⟩
  · obtain ⟨text, hText, rfl⟩ := Option.map_eq_some_iff.mp hCarried
    exact Or.inr ⟨hMagic, text, rfl, Text.fromUtf8_eq_some.mp hText⟩

/-- A redacted body is the full one, or an uncompressed page with the bytes hidden. -/
theorem extractHttpBody_of_redact (hKept : BodyKept hidden response)
    (h : extractHttpBody inflate (redact hidden response) = .ok text) :
    extractHttpBody inflate response = .ok text ∨ ∃ front body,
      cut bodySeparator response = some (front, body) ∧ ¬gzipMagic <+: body ∧
      text.bytes = redact (hiddenFrom (front.length + bodySeparator.length) hidden) body ∧
      ∀ full : Text, full.bytes = body → extractHttpBody inflate response = .ok full := by
  obtain ⟨carried, hPayload, hRead⟩ := (extractHttpBody_eq_ok_iff inflate).mp h
  obtain ⟨hSize, front, body, hCut, ⟨_, hSame⟩ | ⟨hPlain, found, rfl, hFound⟩⟩ :=
    payload_of_redact hKept hPayload
  · exact Or.inl ((extractHttpBody_eq_ok_iff inflate).mpr ⟨carried, hSame, hRead⟩)
  · obtain rfl : found = text := Option.some.inj hRead
    refine Or.inr ⟨front, body, hCut, hPlain, hFound, fun full hFull => ?_⟩
    refine (extractHttpBody_eq_ok_iff inflate).mpr ⟨.plain full, ?_, rfl⟩
    simp only [payload, if_pos hSize, httpBody, hCut, Option.map_some, Option.bind_some,
      if_neg hPlain, Text.fromUtf8_eq_some.mpr hFull]

theorem bytes_of_plain {front : List UInt8} (h : extractHttpBody inflate response = .ok text)
    (hCut : cut bodySeparator response = some (front, body)) (hPlain : ¬gzipMagic <+: body) :
    text.bytes = body := by
  obtain ⟨carried, hPayload, hRead⟩ := (extractHttpBody_eq_ok_iff inflate).mp h
  unfold payload at hPayload
  split_ifs at hPayload
  simp only [httpBody, hCut, Option.map_some, Option.bind_some, if_neg hPlain] at hPayload
  obtain ⟨found, hFound, rfl⟩ := Option.map_eq_some_iff.mp hPayload
  obtain rfl : found = text := Option.some.inj hRead
  exact Text.fromUtf8_eq_some.mp hFound

/-- A body without zeros is the full one. -/
theorem extractHttpBody_of_no_zero (hKept : BodyKept hidden response)
    (h : extractHttpBody inflate (redact hidden response) = .ok text)
    (hZero : (0 : UInt8) ∉ text.bytes) : extractHttpBody inflate response = .ok text := by
  obtain hSame | ⟨front, body, _, _, hText, hFull⟩ := extractHttpBody_of_redact hKept h
  · exact hSame
  · rw [hText] at hZero
    exact hFull text (hText.trans (eq_of_not_mem hZero))

theorem notFoundPage_of_redact {page : List UInt8} (hKept : PageKept hidden page)
    (h : NotFoundPage (redact hidden page)) : NotFoundPage page := by
  obtain ⟨hTitle, hMarker, hSignIn⟩ := h
  refine ⟨infix_of_mask (by decide) hTitle,
    hMarker.imp (infix_of_mask (by decide)) (infix_of_mask (by decide)), fun hLink => ?_⟩
  obtain hShown | hViewer := hKept.signIn hLink
  · exact infix_of_mask (by decide) (hSignIn hShown)
  · exact hViewer

end Response

section Transcripts

variable {ext : Externals} {serverName : String} {request response : List UInt8}
  {hiddenRequest hiddenResponse : Nat → Bool} {escrow : EscrowSnapshot} {proofTimestamp : UInt64}
  {settlement : Settlement}

/-- JSON has no zero byte, neither inside a string nor elsewhere, and a deserializer
reads its text to the end. -/
def RejectsZeros (ext : Externals) : Prop :=
  ∀ text : Text, (0 : UInt8) ∈ text.bytes →
    (∀ document, ext.tradeOfferFromStr text ≠ .ok document) ∧
      ∀ document, ext.tradeStatusFromStr text ≠ .ok document

/-- The request asks for a trade, or for the escrow's offer. -/
def AsksFor (escrow : EscrowSnapshot) (visible : List UInt8) : Prop :=
  proofSource visible = some .tradeStatus ∨ (proofSource visible = some .tradeOffer ∧
    ∀ id, requestTradeOfferId visible = some id → id = escrow.tradeOfferId)

/-- The hidden bytes of an API transcript change nothing that is read. A request for an
offer may hide its number if that is the number of the escrow. -/
structure ApiKept (request response : List UInt8) (hiddenRequest hiddenResponse : Nat → Bool)
    (escrow : EscrowSnapshot) : Prop where
  source : KeepsFirst hiddenRequest getTrade request
  requestId : proofSource request = some .tradeOffer →
    (∀ id, requestTradeOfferId request = some id → id = escrow.tradeOfferId) ∨
      ∀ pattern ∈ requestIdPatterns, NumberKept hiddenRequest request pattern
  body : BodyKept hiddenResponse response

/-- A party of the escrow asks for the page of its offer, and the deadline has passed. -/
def Claims (escrow : EscrowSnapshot) (proofTimestamp : UInt64) (visible : List UInt8) : Prop :=
  proofSource visible = some .community ∧
    escrow.purchaseTime + escrow.abandonedWindow ≤ proofTimestamp ∧
    extractTradeOfferIdFromUrl visible =
      (.ok (some escrow.tradeOfferId) : Exec ParseError (Option UInt64)) ∧
    ∃ steamId, extractSteamIdFromCookie visible = .ok steamId ∧ escrow.IsParty steamId

/-- The hidden bytes of a community transcript change nothing that is read, and nothing
is hidden that must be absent. -/
structure CommunityKept (request response : List UInt8)
    (hiddenRequest hiddenResponse : Nat → Bool) : Prop where
  source : getTrade <:+: request → getTrade <:+: redact hiddenRequest request
  cookie : CookieKept hiddenRequest request
  url : UrlKept hiddenRequest request
  body : BodyKept hiddenResponse response
  page : ∀ front page, cut bodySeparator response = some (front, page) → ¬gzipMagic <+: page →
    NotFoundPage (redact (hiddenFrom (front.length + bodySeparator.length) hiddenResponse) page) →
    PageKept (hiddenFrom (front.length + bodySeparator.length) hiddenResponse) page

/-- Nothing is hidden that decides, if the request that is seen can settle the escrow. -/
def HarmlesslyHidden (serverName : String) (request response : List UInt8)
    (hiddenRequest hiddenResponse : Nat → Bool) (escrow : EscrowSnapshot)
    (proofTimestamp : UInt64) : Prop :=
  (serverName = steamApiHost → AsksFor escrow (redact hiddenRequest request) →
    ApiKept request response hiddenRequest hiddenResponse escrow) ∧
  (serverName = steamCommunityHost → Claims escrow proofTimestamp (redact hiddenRequest request) →
    CommunityKept request response hiddenRequest hiddenResponse)

theorem no_zero_of_parseTradeOffer {json : Text} {data : TradeOfferData}
    (hJson : RejectsZeros ext) (h : parseTradeOffer ext json = .ok data) :
    (0 : UInt8) ∉ json.bytes := by
  intro hZero
  obtain ⟨offer, _, hDocument, _⟩ := (parseTradeOffer_eq_ok_iff ext).mp h
  exact (hJson json hZero).1 _ hDocument

theorem no_zero_of_parseTradeStatus {json : Text} {data : TradeStatusData}
    (hJson : RejectsZeros ext) (h : parseTradeStatus ext json = .ok data) :
    (0 : UInt8) ∉ json.bytes := by
  intro hZero
  obtain ⟨trade, ⟨_, hDocument⟩, _⟩ := (parseTradeStatus_eq_ok_iff ext).mp h
  exact (hJson json hZero).2 _ hDocument

/-- What is read from an API transcript with harmless redactions is read from the full
one, apart from the number of the request. -/
theorem gather_api_of_redact (hJson : RejectsZeros ext) {seen : Evidence}
    (hKept : AsksFor escrow (redact hiddenRequest request) →
      ApiKept request response hiddenRequest hiddenResponse escrow)
    (hSeen : gather ext steamApiHost (redact hiddenRequest request)
      (redact hiddenResponse response) = .ok seen)
    (hJudge : seen.judge escrow proofTimestamp = .ok settlement) :
    ∃ full, gather ext steamApiHost request response = .ok full ∧ full.Covers seen := by
  obtain ⟨body, hBody, hEvidence⟩ := (gather_eq_ok_iff ext).mp hSeen
  cases seen with
  | offer requestId data =>
      obtain ⟨hHost, hSource, rfl, hParse⟩ := hEvidence
      obtain ⟨hRequest, hId, _⟩ := judgeTradeOffer_eq_ok_iff.mp hJudge
      have hKept := hKept (Or.inr ⟨hSource, hRequest⟩)
      have hFullSource := proofSource_of_redact hKept.source hSource (by decide)
      refine ⟨.offer (requestTradeOfferId request) data, (gather_eq_ok_iff ext).mpr ⟨body,
        extractHttpBody_of_no_zero hKept.body hBody (no_zero_of_parseTradeOffer hJson hParse),
        hHost, hFullSource, rfl, hParse⟩, ?_, ⟨rfl, rfl, rfl, rfl, fun _ _ => ⟨rfl, fun _ => rfl⟩⟩⟩
      intro id hNamed
      obtain hOwn | hNumbers := hKept.requestId hFullSource
      · exact (hOwn id hNamed).trans hId.symm
      · rw [← requestTradeOfferId_redact hNumbers] at hNamed
        exact (hRequest id hNamed).trans hId.symm
  | status data =>
      obtain ⟨hHost, hSource, hParse⟩ := hEvidence
      have hKept := hKept (Or.inl hSource)
      refine ⟨.status data, (gather_eq_ok_iff ext).mpr ⟨body,
        extractHttpBody_of_no_zero hKept.body hBody (no_zero_of_parseTradeStatus hJson hParse),
        hHost, proofSource_of_redact hKept.source hSource (by decide), hParse⟩, ?_⟩
      exact ⟨fun _ _ hCompleted => ⟨hCompleted, fun time hTime => ⟨time, hTime, UInt64.le_refl _⟩⟩,
        fun hStatus _ => ⟨hStatus, rfl⟩, fun hStatus _ => ⟨hStatus, rfl⟩⟩
  | community data => exact absurd hEvidence.1 (by decide)

theorem gather_community_of_redact {seen : Evidence}
    (hKept : Claims escrow proofTimestamp (redact hiddenRequest request) →
      CommunityKept request response hiddenRequest hiddenResponse)
    (hSeen : gather ext steamCommunityHost (redact hiddenRequest request)
      (redact hiddenResponse response) = .ok seen)
    (hJudge : seen.judge escrow proofTimestamp = .ok settlement) :
    gather ext steamCommunityHost request response = .ok seen := by
  obtain ⟨_, _, hEvidence⟩ := (gather_eq_ok_iff ext).mp hSeen
  cases seen with
  | offer requestId data => exact absurd hEvidence.1 (by decide)
  | status data => exact absurd hEvidence.1 (by decide)
  | community data =>
      obtain ⟨hHost, hSource, hParse⟩ := hEvidence
      obtain ⟨html, steamId, id, hBody, hCookie, hUrl, hPage, rfl⟩ :=
        (parseCommunityHtml_eq_ok_iff ext.inflate).mp hParse
      obtain ⟨hId, hParty, _, hTime, _⟩ := judgeCommunity_eq_ok_iff.mp hJudge
      obtain rfl : id = escrow.tradeOfferId := hId
      have hKept := hKept ⟨hSource, hTime, hUrl, steamId, hCookie, hParty⟩
      have hFullCookie := extractSteamIdFromCookie_of_redact hKept.cookie hCookie
      have hFullUrl := extractTradeOfferIdFromUrl_of_redact hKept.url hUrl
      have hFullPage : ∃ full, extractHttpBody ext.inflate response = .ok full ∧
          NotFoundPage full.bytes := by
        obtain hSame | ⟨front, page, hCut, hPlain, hText, hFull⟩ :=
          extractHttpBody_of_redact hKept.body hBody
        · exact ⟨html, hSame, hPage⟩
        · rw [hText] at hPage
          have hPageKept := hKept.page front page hCut hPlain hPage
          have hValid := hPageKept.utf8 (hText ▸ html.valid)
          exact ⟨⟨page, hValid⟩, hFull _ rfl, notFoundPage_of_redact hPageKept hPage⟩
      obtain ⟨full, hFullBody, hFound⟩ := hFullPage
      refine (gather_eq_ok_iff ext).mpr ⟨full, hFullBody, hHost,
        community_of_redact hKept.source hSource, ?_⟩
      exact (parseCommunityHtml_eq_ok_iff ext.inflate).mpr
        ⟨full, steamId, _, hFullBody, hFullCookie, hFullUrl, hFound, rfl⟩

theorem redactionSafeAt_of_harmless (hJson : RejectsZeros ext)
    (hHidden : HarmlesslyHidden serverName request response hiddenRequest hiddenResponse escrow
      proofTimestamp) :
    RedactionSafeAt ext serverName request response hiddenRequest hiddenResponse escrow
      proofTimestamp := by
  intro settlement hDecide
  obtain ⟨seen, hSeen, hJudge⟩ := (decide_eq_ok_iff ext).mp hDecide
  obtain ⟨body, _, hEvidence⟩ := (gather_eq_ok_iff ext).mp hSeen
  have hHost : serverName = steamApiHost ∨ serverName = steamCommunityHost := by
    cases seen with
    | offer | status => exact Or.inl hEvidence.1
    | community => exact Or.inr hEvidence.1
  obtain rfl | rfl := hHost
  · obtain ⟨full, hFull, hCovers⟩ := gather_api_of_redact hJson (hHidden.1 rfl) hSeen hJudge
    exact (decide_eq_ok_iff ext).mpr ⟨full, hFull, judge_of_covers hCovers hJudge⟩
  · have hFull := gather_community_of_redact (hHidden.2 rfl) hSeen hJudge
    exact (decide_eq_ok_iff ext).mpr ⟨seen, hFull, hJudge⟩

/-- What holds of every transcript that settles, whatever is hidden of it. -/
structure KeptWhereSettled (serverName : String) (request response : List UInt8)
    (hiddenRequest hiddenResponse : Nat → Bool) (escrow : EscrowSnapshot) : Prop where
  requestId : proofSource request = some .tradeOffer →
    ∀ id, requestTradeOfferId request = some id → id = escrow.tradeOfferId
  source : serverName = steamCommunityHost →
    getTrade <:+: request → getTrade <:+: redact hiddenRequest request
  page : serverName = steamCommunityHost → ∀ front page,
    cut bodySeparator response = some (front, page) → ¬gzipMagic <+: page →
      PageKept (hiddenFrom (front.length + bodySeparator.length) hiddenResponse) page

theorem keptWhereSettled_of_decide
    (h : Oracle.decide ext serverName request response escrow proofTimestamp = .ok settlement) :
    KeptWhereSettled serverName request response hiddenRequest hiddenResponse escrow := by
  obtain ⟨full, hFull, hJudge⟩ := (decide_eq_ok_iff ext).mp h
  obtain ⟨body, hBody, hEvidence⟩ := (gather_eq_ok_iff ext).mp hFull
  cases full with
  | offer requestId data =>
      obtain ⟨rfl, _, rfl, _⟩ := hEvidence
      exact ⟨fun _ => (judgeTradeOffer_eq_ok_iff.mp hJudge).1, fun hHost => absurd hHost (by decide),
        fun hHost => absurd hHost (by decide)⟩
  | status data =>
      obtain ⟨rfl, hSource, _⟩ := hEvidence
      exact ⟨fun hOffer => (by cases hSource.symm.trans hOffer),
        fun hHost => absurd hHost (by decide), fun hHost => absurd hHost (by decide)⟩
  | community data =>
      obtain ⟨_, hSource, hParse⟩ := hEvidence
      obtain ⟨html, _, _, hHtml, _, _, ⟨_, _, hSignIn⟩, _⟩ :=
        (parseCommunityHtml_eq_ok_iff ext.inflate).mp hParse
      refine ⟨fun hOffer => (by cases hSource.symm.trans hOffer),
        fun _ hNamed => absurd hNamed (not_getTrade_of_community hSource),
        fun _ front page hCut hPlain => ?_⟩
      have hPage := bytes_of_plain hHtml hCut hPlain
      exact ⟨fun _ => hPage ▸ html.valid, fun hLink => Or.inr (hPage ▸ hSignIn (hPage ▸ hLink))⟩

/-- Only bytes of an uncompressed page are hidden. -/
structure PageHidden (response : List UInt8) (hiddenRequest hiddenResponse : Nat → Bool)
    (front page : List UInt8) : Prop where
  request : ∀ i, hiddenRequest i = false
  split : cut bodySeparator response = some (front, page)
  plain : ¬gzipMagic <+: page
  front : ∀ i < front.length + bodySeparator.length, hiddenResponse i = false

theorem communityKept_of_page {front page : List UInt8}
    (h : PageHidden response hiddenRequest hiddenResponse front page)
    (hPage : PageKept (hiddenFrom (front.length + bodySeparator.length) hiddenResponse) page) :
    CommunityKept request response hiddenRequest hiddenResponse where
  source hNamed := by
    rw [redact, mask_eq_self fun i _ => h.request i]
    exact hNamed
  cookie :=
    { header := keepsFirst_of_none h.request
      login := fun _ _ _ => keepsFirst_of_none fun i => h.request _
      line := fun _ _ _ _ _ _ _ _ hBreak => ⟨hBreak, fun _ _ => h.request _⟩ }
  url :=
    { path := keepsFirst_of_none h.request
      digits := fun _ _ _ _ _ => h.request _ }
  body := by
    refine ⟨keepsFirst_of_shown (cut_eq_some h.split).2 fun j hj => h.front _ (by omega), ?_⟩
    intro front' body hCut hMagic
    cases h.split.symm.trans hCut
    exact absurd hMagic h.plain
  page front' page' hCut _ _ := by
    cases h.split.symm.trans hCut
    exact hPage

/-- With harmless redactions, a transcript settles only what the full one settles. Where
it settles and the full one does too, a request for an offer names no other, a request
for a community page hides no name of an API method, and the page hides no sign-in link
and no malformed text. Where only bytes of the page are hidden, nothing else is needed. -/
theorem redaction_safe (hJson : RejectsZeros ext) :
    (HarmlesslyHidden serverName request response hiddenRequest hiddenResponse escrow
        proofTimestamp →
      RedactionSafeAt ext serverName request response hiddenRequest hiddenResponse escrow
        proofTimestamp) ∧
    ∀ settlement, Oracle.decide ext serverName (redact hiddenRequest request)
        (redact hiddenResponse response) escrow proofTimestamp = .ok settlement →
      (RedactionSafeAt ext serverName request response hiddenRequest hiddenResponse escrow
          proofTimestamp →
        KeptWhereSettled serverName request response hiddenRequest hiddenResponse escrow) ∧
      ∀ front page, serverName = steamCommunityHost →
        PageHidden response hiddenRequest hiddenResponse front page →
          (RedactionSafeAt ext serverName request response hiddenRequest hiddenResponse escrow
              proofTimestamp ↔
            PageKept (hiddenFrom (front.length + bodySeparator.length) hiddenResponse) page) := by
  refine ⟨redactionSafeAt_of_harmless hJson, fun settlement hSeen => ?_⟩
  have hKept : RedactionSafeAt ext serverName request response hiddenRequest hiddenResponse escrow
      proofTimestamp →
        KeptWhereSettled serverName request response hiddenRequest hiddenResponse escrow :=
    fun hSafe => keptWhereSettled_of_decide (hSafe settlement hSeen)
  refine ⟨hKept, fun front page hHost hHidden => ⟨fun hSafe => ?_, fun hPage => ?_⟩⟩
  · exact (hKept hSafe).page hHost front page hHidden.split hHidden.plain
  · refine redactionSafeAt_of_harmless hJson ⟨fun hApi => ?_, fun _ _ => ?_⟩
    · exact absurd (hHost.symm.trans hApi) (by decide)
    · exact communityKept_of_page hHidden hPage

end Transcripts

section Sample

/-- Hides the session token. -/
def hideToken (i : Nat) : Bool := 111 ≤ i && i < 118

/-- Hides one of the two sentences that deny the offer. -/
def hideSentence (i : Nat) : Bool := 118 ≤ i

theorem cookieKept_token : CookieKept hideToken communityRequest := by
  have hHeader : cut cookieHeader communityRequest =
      some (communityRequest.take 61, communityRequest.drop 70) := by decide +kernel
  have hLogin : cut steamLoginSecure (communityRequest.drop 70) =
      some ([byte ' '], communityRequest.drop 88) := by decide +kernel
  constructor
  · exact keepsFirst_of_shown (cut_eq_some hHeader).2 (by decide +kernel)
  · intro front back hCut
    cases hHeader.symm.trans hCut
    exact keepsFirst_of_shown (cut_eq_some hLogin).2 (by decide +kernel)
  · intro front back before after hCut hName
    cases hHeader.symm.trans hCut
    cases hLogin.symm.trans hName
    have hBreaks : ∀ j < [byte ' '].length, ∀ k < crlf.length,
        hiddenFrom ((communityRequest.take 61).length + cookieHeader.length) hideToken (j + k) =
          false := by decide +kernel
    exact fun j hj hBreak => ⟨hBreak, hBreaks j hj⟩

theorem communityKept_token :
    CommunityKept communityRequest notFoundPage hideToken hideSentence := by
  have hPath : cut tradeOfferPath communityRequest =
      some (communityRequest.take 4, communityRequest.drop 16) := by decide +kernel
  have hBody : cut bodySeparator notFoundPage =
      some (notFoundPage.take 40, notFoundPage.drop 44) := by decide +kernel
  constructor
  · exact fun hNamed => absurd hNamed (by decide +kernel)
  · exact cookieKept_token
  · constructor
    · exact keepsFirst_of_shown (cut_eq_some hPath).2 (by decide +kernel)
    · intro front back hCut
      cases hPath.symm.trans hCut
      unfold RunShown
      decide +kernel
  · constructor
    · exact keepsFirst_of_shown (cut_eq_some hBody).2 (by decide +kernel)
    · intro front body hCut hMagic
      cases hBody.symm.trans hCut
      exact absurd hMagic (by decide +kernel)
  · intro front page hCut _ _
    cases hBody.symm.trans hCut
    exact ⟨fun _ => by decide +kernel, fun hLink => absurd hLink (by decide +kernel)⟩

/-- Hides the query and the headers of an API request. -/
def hideQuery (i : Nat) : Bool := 32 ≤ i

/-- Hides the status line and the header of a response. -/
def hideHeader (i : Nat) : Bool := i < 47

theorem apiKept_header :
    ApiKept statusRequest (okResponse completedJson) hideQuery hideHeader sampleEscrow := by
  have hName : firstMatch getTrade statusRequest = some 18 := by decide +kernel
  have hBody : cut bodySeparator (okResponse completedJson) =
      some ((okResponse completedJson).take 47, completedJson) := by decide +kernel
  constructor
  · exact keepsFirst_of_shown hName (by decide +kernel)
  · exact fun hOffer => absurd hOffer (by decide +kernel)
  · constructor
    · exact keepsFirst_of_shown (cut_eq_some hBody).2 (by decide +kernel)
    · intro front body hCut hMagic
      cases hBody.symm.trans hCut
      exact absurd hMagic (by decide +kernel)

/-- A deserializer that knows one `GetTradeStatus` document, and no other. -/
def oneDocument : Externals where
  inflate := fun _ => none
  tradeOfferFromStr := fun _ => .error "expected value at line 1 column 1"
  tradeStatusFromStr := (statusExternals completedJson completedTrade).tradeStatusFromStr

theorem rejectsZeros_oneDocument : RejectsZeros oneDocument := by
  intro text hZero
  have hOther : text.bytes ≠ completedJson := fun hSame => absurd (hSame ▸ hZero) (by decide +kernel)
  exact ⟨nofun, fun document => by simp [oneDocument, statusExternals, hOther]⟩

theorem pageHidden_signIn : PageHidden signInPage (fun _ => false) hideSignIn
    (signInPage.take 15) (signInPage.drop 19) where
  request _ := rfl
  split := by decide +kernel
  plain := by decide +kernel
  front := by decide +kernel

/-- The page has a sign-in link and no marker of a viewer, and the link is hidden. -/
theorem not_pageKept_signIn : ¬PageKept (hiddenFrom 19 hideSignIn) (signInPage.drop 19) := by
  intro hKept
  obtain hShown | hViewer := hKept.signIn (by decide +kernel)
  · exact absurd hShown (by decide +kernel)
  · exact absurd hViewer (by decide +kernel)

/-- A page settles without the session token and one of its sentences, and a trade without
the query and the headers. The error page of a visitor is not safe without its link. -/
theorem redaction_safe_token :
    Oracle.decide oneDocument steamCommunityHost (redact hideToken communityRequest)
        (redact hideSentence notFoundPage) sampleEscrow sampleNow =
      .ok (sampleEscrow.refund .tradeNotExist) ∧
    Oracle.decide oneDocument steamCommunityHost communityRequest notFoundPage sampleEscrow
        sampleNow = .ok (sampleEscrow.refund .tradeNotExist) ∧
    KeptWhereSettled steamCommunityHost communityRequest notFoundPage hideToken hideSentence
      sampleEscrow ∧
    Oracle.decide oneDocument steamApiHost (redact hideQuery statusRequest)
        (redact hideHeader (okResponse completedJson)) sampleEscrow sampleNow =
      .ok sampleEscrow.release ∧
    Oracle.decide oneDocument steamApiHost statusRequest (okResponse completedJson) sampleEscrow
        sampleNow = .ok sampleEscrow.release ∧
    ¬RedactionSafeAt oneDocument steamCommunityHost communityRequest signInPage (fun _ => false)
      hideSignIn sampleEscrow sampleNow := by
  have hPage : Oracle.decide oneDocument steamCommunityHost (redact hideToken communityRequest)
      (redact hideSentence notFoundPage) sampleEscrow sampleNow =
        .ok (sampleEscrow.refund .tradeNotExist) := by
    decide +kernel
  have hTrade : Oracle.decide oneDocument steamApiHost (redact hideQuery statusRequest)
      (redact hideHeader (okResponse completedJson)) sampleEscrow sampleNow =
        .ok sampleEscrow.release := by
    decide +kernel
  have hVisitor : Oracle.decide oneDocument steamCommunityHost
      (redact (fun _ => false) communityRequest) (redact hideSignIn signInPage) sampleEscrow
      sampleNow = .ok (sampleEscrow.refund .tradeNotExist) := by
    decide +kernel
  have hHiddenPage : HarmlesslyHidden steamCommunityHost communityRequest notFoundPage hideToken
      hideSentence sampleEscrow sampleNow :=
    ⟨fun hHost => absurd hHost (by decide), fun _ _ => communityKept_token⟩
  have hHiddenTrade : HarmlesslyHidden steamApiHost statusRequest (okResponse completedJson)
      hideQuery hideHeader sampleEscrow sampleNow :=
    ⟨fun _ _ => apiKept_header, fun hHost => absurd hHost (by decide)⟩
  have hSafe := (redaction_safe rejectsZeros_oneDocument).1 hHiddenPage
  refine ⟨hPage, hSafe _ hPage, ((redaction_safe rejectsZeros_oneDocument).2 _ hPage).1 hSafe,
    hTrade, (redaction_safe rejectsZeros_oneDocument).1 hHiddenTrade _ hTrade, fun hUnsafe => ?_⟩
  exact not_pageKept_signIn ((((redaction_safe rejectsZeros_oneDocument).2 _ hVisitor).2 _ _ rfl
    pageHidden_signIn).mp hUnsafe)

end Sample

end SettlementOracle
