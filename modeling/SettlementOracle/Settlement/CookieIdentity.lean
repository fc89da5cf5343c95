import SettlementOracle.Checked.Fields
import SettlementOracle.Settlement.Soundness

/-! The session cookie behind a community proof. A genuine cookie is a pair named
`steamLoginSecure` in a `Cookie` line of the header section. The scanner takes
the first text of that shape that it finds. -/
namespace SettlementOracle

open Checked

/-- Everything before the first blank line. -/
def headerSection (request : List UInt8) : List UInt8 :=
  match cut bodySeparator request with
  | some (front, _) => front
  | none => request

/-- The lines of a text, apart from its first. -/
def laterLines : List UInt8 → List (List UInt8)
  | [] => []
  | b :: rest =>
      if crlf <+: b :: rest then lineOf (rest.drop 1) :: laterLines rest else laterLines rest

def cookieName : List UInt8 := ascii "Cookie:"

def pairsOf (cookies : List UInt8) : List (List UInt8) :=
  (cookies.splitOn (byte ';')).map (trim isSpace)

/-- The cookie pairs of a line, if it is a `Cookie` line. -/
def cookiePairs (line : List UInt8) : List (List UInt8) :=
  if cookieName <+: line then pairsOf (line.drop cookieName.length) else []

def cookiePairsIn (text : List UInt8) : List (List UInt8) := (laterLines text).flatMap cookiePairs

def delimiters : List (List UInt8) := [ascii "||", ascii "%7C%7C"]

/-- A pair named `steamLoginSecure` whose value starts with the identifier and a delimiter. -/
def SessionPair (n : UInt64) (pair : List UInt8) : Prop :=
  ∃ delimiter ∈ delimiters, steamLoginSecure ++ (decimalDigits n.toNat ++ delimiter) <+: pair

instance (n : UInt64) (pair : List UInt8) : Decidable (SessionPair n pair) :=
  inferInstanceAs (Decidable (∃ delimiter ∈ delimiters, _))

/-- The header section carries the identifier in a session cookie. -/
def GenuineCookie (request : List UInt8) (n : UInt64) : Prop :=
  ∃ pair ∈ cookiePairsIn (headerSection request), SessionPair n pair

instance (request : List UInt8) (n : UInt64) : Decidable (GenuineCookie request n) :=
  inferInstanceAs (Decidable (∃ pair ∈ cookiePairsIn (headerSection request), _))

/-- Only spaces stand between the name and the start of its pair. -/
def PairStart (before : List UInt8) : Prop := ∀ b ∈ lastField (byte ';') before, isSpace b = true

/-- The cookie pairs behind a scanned value: those of the same line, and those of
the lines that follow. -/
def laterPairs (value rest : List UInt8) : List (List UInt8) :=
  pairsOf (laterFields (byte ';') value) ++ cookiePairsIn rest

theorem request_eq_headerSection (request : List UInt8) :
    ∃ tail, request = headerSection request ++ tail ∧ (tail = [] ∨ crlf <+: tail) := by
  unfold headerSection
  cases hCut : cut bodySeparator request with
  | none => exact ⟨[], by simp, Or.inl rfl⟩
  | some parts =>
      obtain ⟨hSplit, _⟩ := cut_eq_some hCut
      refine ⟨bodySeparator ++ parts.2, by rw [hSplit, List.append_assoc], Or.inr ?_⟩
      exact List.IsPrefix.trans (by decide : crlf <+: bodySeparator) (List.prefix_append _ _)

/-- A line ends at the next line break, whatever follows it. -/
theorem lineOf_append {text tail : List UInt8} (h : tail = [] ∨ crlf <+: tail) :
    lineOf (text ++ tail) = lineOf text := by
  obtain rfl | ⟨rest, rfl⟩ := h
  · rw [List.append_nil]
  cases hCut : cut crlf text with
  | some parts =>
      obtain ⟨hSplit, hFirst⟩ := cut_eq_some hCut
      have hData : text ++ (crlf ++ rest) = parts.1 ++ crlf ++ (parts.2 ++ (crlf ++ rest)) := by
        rw [hSplit, List.append_assoc _ parts.2]
      unfold lineOf
      rw [cut_of_firstMatch hData (firstMatch_append hFirst _), hCut]
  | none =>
      have hNone := cut_eq_none_iff.mp hCut
      have hFirst : firstMatch crlf (text ++ (crlf ++ rest)) = some text.length := by
        refine firstMatch_eq_some_iff.mpr ⟨by simp, by simp, fun j hj hAt => ?_⟩
        rw [List.drop_append_of_le_length (Nat.le_of_lt hj)] at hAt
        match hText : text.drop j with
        | [] => simp at hText; omega
        | [b] =>
            rw [hText] at hAt
            exact absurd (List.cons_prefix_cons.mp (List.cons_prefix_cons.mp hAt).2).1 (by decide)
        | b :: c :: more =>
            rw [hText] at hAt
            have hInside : crlf <+: text.drop j := by
              rw [hText]
              refine List.prefix_of_prefix_length_le hAt (List.prefix_append _ _) ?_
              have hTwo : crlf.length = 2 := by decide
              simp [hTwo]
            exact hNone (hInside.isInfix.trans (List.drop_suffix j text).isInfix)
      unfold lineOf
      rw [cut_of_firstMatch (List.append_assoc _ _ _).symm hFirst, hCut]

/-- A scanned line of the header section is a line of the request. -/
theorem cookieLine_of_headerSection {request front rest : List UInt8}
    (h : cut cookieHeader (headerSection request) = some (front, rest)) :
    cookieLine request = some (lineOf (cookieName ++ rest)) := by
  obtain ⟨tail, hTail, hEnd⟩ := request_eq_headerSection request
  obtain ⟨hSplit, hFirst⟩ := cut_eq_some h
  have hData : request = front ++ cookieHeader ++ (rest ++ tail) := by
    conv_lhs => rw [hTail, hSplit, List.append_assoc]
  have hMatch : firstMatch cookieHeader request = some front.length := by
    rw [hTail]
    exact firstMatch_append hFirst tail
  unfold cookieLine
  rw [cut_of_firstMatch hData hMatch, Option.map_some, ← List.append_assoc, lineOf_append hEnd]
  rfl

theorem cookiePairsIn_cons (b : UInt8) (rest : List UInt8) :
    cookiePairsIn (b :: rest) =
      (if crlf <+: b :: rest then cookiePairs (lineOf (rest.drop 1)) else []) ++
        cookiePairsIn rest := by
  unfold cookiePairsIn
  rw [laterLines]
  split_ifs
  · exact List.flatMap_cons
  · rfl

/-- A line break followed by a `Cookie` line is what the scanner searches for. -/
theorem cookiePairs_eq_nil {b : UInt8} {rest : List UInt8} (hCrlf : crlf <+: b :: rest)
    (h : ¬cookieHeader <+: b :: rest) : cookiePairs (lineOf (rest.drop 1)) = [] := by
  refine if_neg fun hName => h ?_
  obtain ⟨text, hText⟩ := hCrlf
  have hRest : rest.drop 1 = text := by
    have hDrop : (b :: rest).drop 2 = rest.drop 1 := List.drop_succ_cons
    rw [← hDrop, ← hText]
    rfl
  have hLine : lineOf text <+: text := by
    unfold lineOf
    cases hCut : cut crlf text with
    | none => exact List.prefix_rfl
    | some parts =>
        obtain ⟨hSplit, _⟩ := cut_eq_some hCut
        exact ⟨crlf ++ parts.2, by rw [hSplit, List.append_assoc]⟩
  rw [hRest] at hName
  rw [← hText]
  exact (List.prefix_append_right_inj crlf).mpr (hName.trans hLine)

theorem cookiePairsIn_eq_nil {text : List UInt8} (h : ¬cookieHeader <:+: text) :
    cookiePairsIn text = [] := by
  induction text with
  | nil => rfl
  | cons b rest ih =>
      rw [List.infix_cons_iff, not_or] at h
      rw [cookiePairsIn_cons, ih h.2, List.append_nil]
      split_ifs with hCrlf
      · exact cookiePairs_eq_nil hCrlf h.1
      · rfl

/-- No line ends in front of a word without a carriage return. -/
theorem not_crlf_of_not_mem {b : UInt8} {word : List UInt8} (h : byte '\r' ∉ b :: word)
    (rest : List UInt8) : ¬crlf <+: b :: (word ++ rest) := by
  intro hPrefix
  rw [← (List.cons_prefix_cons.mp hPrefix).1] at h
  exact h List.mem_cons_self

theorem cookiePairsIn_append {word : List UInt8} (h : byte '\r' ∉ word) (rest : List UInt8) :
    cookiePairsIn (word ++ rest) = cookiePairsIn rest := by
  induction word with
  | nil => rfl
  | cons b word ih =>
      rw [List.cons_append, cookiePairsIn_cons, if_neg (not_crlf_of_not_mem h _), List.nil_append]
      exact ih fun hMem => h (List.mem_cons_of_mem b hMem)

/-- The pairs of a text are those of its first `Cookie` line and those behind it. -/
theorem cookiePairsIn_cut {text front rest : List UInt8}
    (h : cut cookieHeader text = some (front, rest)) :
    cookiePairsIn text = cookiePairs (lineOf (cookieName ++ rest)) ++ cookiePairsIn rest := by
  obtain ⟨hSplit, hFirst⟩ := cut_eq_some h
  clear h
  induction text generalizing front with
  | nil =>
      rw [eq_comm, List.append_eq_nil_iff, List.append_eq_nil_iff] at hSplit
      exact absurd hSplit.1.2 (by decide)
  | cons b text ih =>
      cases front with
      | nil =>
          have hText : text = (byte '\n' :: cookieName) ++ rest :=
            (List.cons.inj (hSplit.trans (List.append_assoc _ _ _))).2
          have hCrlf : crlf <+: b :: text := by
            rw [hSplit]
            exact List.IsPrefix.trans (by decide : crlf <+: cookieHeader) (List.prefix_append _ _)
          rw [cookiePairsIn_cons, if_pos hCrlf, hText, cookiePairsIn_append (by decide)]
          rfl
      | cons c front =>
          obtain ⟨rfl, hText⟩ := List.cons.inj hSplit
          have hAt : ¬cookieHeader <+: b :: text := by
            have hLeast := (firstMatch_eq_some_iff.mp hFirst).2.2 0 (by simp)
            simpa using hLeast
          have hNext : firstMatch cookieHeader text = some front.length := by
            rw [firstMatch, if_neg hAt] at hFirst
            simpa using hFirst
          rw [cookiePairsIn_cons, ih hText hNext]
          split_ifs with hCrlf
          · rw [cookiePairs_eq_nil hCrlf hAt, List.nil_append]
          · rfl

theorem sessionPair_trim_iff {n : UInt64} {field : List UInt8} :
    SessionPair n (trim isSpace field) ↔
      ∃ delimiter ∈ delimiters, ∃ front rest,
        field = front ++ (steamLoginSecure ++ (decimalDigits n.toNat ++ delimiter)) ++ rest ∧
          ∀ b ∈ front, isSpace b = true := by
  refine exists_congr fun delimiter => and_congr_right fun hDelimiter => ?_
  have hEnd : ∃ init last, delimiter = init ++ [last] ∧ isSpace last = false := by
    simp only [delimiters, List.mem_cons, List.not_mem_nil, or_false] at hDelimiter
    obtain rfl | rfl := hDelimiter
    · exact ⟨ascii "|", byte '|', by decide, by decide⟩
    · exact ⟨ascii "%7C%7", byte 'C', by decide, by decide⟩
  obtain ⟨init, last, rfl, hLast⟩ := hEnd
  have hWord : steamLoginSecure ++ (decimalDigits n.toNat ++ (init ++ [last])) =
      byte 's' :: (ascii "teamLoginSecure=" ++ decimalDigits n.toNat ++ init) ++ [last] := by
    have hName : steamLoginSecure = byte 's' :: ascii "teamLoginSecure=" := by decide
    rw [hName]
    simp
  rw [hWord]
  exact prefix_trim_iff (by decide) hLast

theorem not_sessionPair_nil (n : UInt64) : ¬SessionPair n [] := by
  rintro ⟨delimiter, _, hPrefix⟩
  rw [List.prefix_nil, List.append_eq_nil_iff] at hPrefix
  exact absurd hPrefix.1 (by decide)

/-- The decimal digits of an accepted identifier are those that were scanned,
unless these have a leading zero. -/
theorem decimalDigits_eq_iff {value : List UInt8} {n : UInt64} (h : SteamIdValue value n) :
    decimalDigits n.toNat = leadingDigits value ↔ (leadingDigits value).head? ≠ some (byte '0') := by
  obtain ⟨hLow, hHigh, rfl, _⟩ := h
  rw [UInt64.toNat_ofNat_of_lt' (decimalValue_leadingDigits_lt hHigh)]
  exact decimalDigits_eq_self_iff (by omega) fun b hb => List.mem_takeWhile_imp hb

/-- Some pair of the text is a session pair for the identifier. -/
def HasSession (n : UInt64) (cookies : List UInt8) : Prop := ∃ pair ∈ pairsOf cookies, SessionPair n pair

theorem hasSession_append {n : UInt64} {front rest : List UInt8} :
    HasSession n (front ++ byte ';' :: rest) ↔ HasSession n front ∨ HasSession n rest := by
  simp only [HasSession, pairsOf, List.splitOn_append_cons_self, List.map_append, List.mem_append,
    or_and_right, exists_or]

theorem hasSession_single {n : UInt64} {field : List UInt8} (h : byte ';' ∉ field) :
    HasSession n field ↔ SessionPair n (trim isSpace field) := by
  simp [HasSession, pairsOf, List.splitOn_eq_singleton h]

theorem name_infix_of_hasSession {n : UInt64} {cookies : List UInt8} (h : HasSession n cookies) :
    steamLoginSecure <:+: cookies := by
  obtain ⟨pair, hPair, hSession⟩ := h
  obtain ⟨field, hField, rfl⟩ := List.mem_map.mp hPair
  obtain ⟨delimiter, _, front, rest, hEq, _⟩ := sessionPair_trim_iff.mp hSession
  refine List.IsInfix.trans ?_ (infix_of_mem_splitOn hField)
  exact ⟨front, decimalDigits n.toNat ++ delimiter ++ rest, by rw [hEq]; simp⟩

/-- The digits in front of a delimiter are all that is scanned. -/
theorem leadingDigits_delimited {digits delimiter : List UInt8} (h : delimiter ∈ delimiters)
    (hDigits : ∀ b ∈ digits, isAsciiDigit b = true) (rest : List UInt8) :
    leadingDigits (digits ++ (delimiter ++ rest)) = digits := by
  rw [leadingDigits, List.takeWhile_append_of_pos hDigits]
  simp only [delimiters, List.mem_cons, List.not_mem_nil, or_false] at h
  obtain rfl | rfl := h
  · exact List.append_nil _
  · exact List.append_nil _

/-- An accepted value starts with the digits that were scanned and a delimiter. -/
theorem SteamIdValue.delimited {value : List UInt8} {n : UInt64} (h : SteamIdValue value n) :
    ∃ delimiter ∈ delimiters, leadingDigits value ++ delimiter <+: value := by
  have hExtend : ∀ delimiter, delimiter <+: value.drop (leadingDigits value).length →
      leadingDigits value ++ delimiter <+: value := by
    rintro delimiter ⟨rest, hRest⟩
    refine ⟨rest, ?_⟩
    rw [List.append_assoc, hRest, leadingDigits, drop_takeWhile_length,
      List.takeWhile_append_dropWhile]
  obtain ⟨_, _, _, hEncoded | hPlain⟩ := h
  · exact ⟨ascii "%7C%7C", by decide, hExtend _ hEncoded⟩
  · exact ⟨ascii "||", by decide, hExtend _ hPlain⟩

theorem semicolon_not_mem_identifier {n : Nat} {delimiter : List UInt8}
    (h : delimiter ∈ delimiters) : byte ';' ∉ decimalDigits n ++ delimiter := by
  intro hMem
  obtain hDigit | hDelimiter := List.mem_append.mp hMem
  · exact absurd (isAsciiDigit_of_mem_decimalDigits hDigit) (by decide)
  · have hNone : ∀ delimiter ∈ delimiters, byte ';' ∉ delimiter := by decide
    exact hNone delimiter h hDelimiter

/-- A pair of the field that holds the first occurrence starts at that occurrence. -/
theorem first_pair_start {front last first tail spaces rest : List UInt8}
    (hFirst : firstMatch steamLoginSecure
      (front ++ last ++ steamLoginSecure ++ (first ++ tail)) = some (front ++ last).length)
    (hField : last ++ steamLoginSecure ++ first = spaces ++ steamLoginSecure ++ rest)
    (hSpaces : ∀ b ∈ spaces, isSpace b = true) : spaces = last ∧ first = rest := by
  have hText : front ++ last ++ steamLoginSecure ++ (first ++ tail) =
      (front ++ spaces) ++ steamLoginSecure ++ (rest ++ tail) := by
    calc front ++ last ++ steamLoginSecure ++ (first ++ tail)
        = front ++ (last ++ steamLoginSecure ++ first) ++ tail := by simp
      _ = _ := by rw [hField]; simp
  rw [hText] at hFirst
  -- an earlier start would be an earlier occurrence
  have hLe := firstMatch_le hFirst
  simp only [List.length_append, Nat.add_le_add_iff_left] at hLe
  have hLast : last <+: last ++ steamLoginSecure ++ first :=
    ⟨steamLoginSecure ++ first, by rw [List.append_assoc]⟩
  have hFront : spaces <+: last ++ steamLoginSecure ++ first :=
    ⟨steamLoginSecure ++ rest, by rw [hField, List.append_assoc]⟩
  obtain ⟨skipped, rfl⟩ := List.prefix_of_prefix_length_le hLast hFront hLe
  simp only [List.append_assoc, List.append_cancel_left_eq] at hField
  cases skipped with
  | nil => exact ⟨List.append_nil last, List.append_cancel_left hField⟩
  | cons b skipped =>
      -- a later start would count the name's first letter among the spaces
      have hHead : byte 's' = b := (List.cons.inj hField).1
      exact absurd (hSpaces b (by simp)) (by rw [← hHead]; decide)

/-- The field of the first occurrence is a session pair exactly when the
occurrence starts the pair and no leading zero was skipped. -/
theorem sessionPair_scanned {n : UInt64} {front last first tail : List UInt8}
    (hFirst : firstMatch steamLoginSecure
      (front ++ last ++ steamLoginSecure ++ (first ++ tail)) = some (front ++ last).length)
    (hValue : SteamIdValue (first ++ tail) n)
    (hTail : tail = [] ∨ byte ';' ∈ tail.head?) :
    SessionPair n (trim isSpace (last ++ steamLoginSecure ++ first)) ↔
      (∀ b ∈ last, isSpace b = true) ∧
        (leadingDigits (first ++ tail)).head? ≠ some (byte '0') := by
  rw [sessionPair_trim_iff, ← decimalDigits_eq_iff hValue]
  constructor
  · rintro ⟨delimiter, hDelimiter, spaces, rest, hField, hSpaces⟩
    have hSplit : last ++ steamLoginSecure ++ first =
        spaces ++ steamLoginSecure ++ (decimalDigits n.toNat ++ (delimiter ++ rest)) := by
      rw [hField]
      simp only [List.append_assoc]
    obtain ⟨rfl, rfl⟩ := first_pair_start hFirst hSplit hSpaces
    refine ⟨hSpaces, ?_⟩
    rw [List.append_assoc, List.append_assoc, leadingDigits_delimited hDelimiter fun b hb =>
      isAsciiDigit_of_mem_decimalDigits hb]
  · rintro ⟨hSpaces, hDigits⟩
    obtain ⟨delimiter, hDelimiter, hWord⟩ := hValue.delimited
    rw [← hDigits] at hWord
    obtain ⟨rest, rfl⟩ := prefix_field (semicolon_not_mem_identifier hDelimiter) hTail hWord
    exact ⟨delimiter, hDelimiter, last, rest, by simp, hSpaces⟩

/-- The pairs of a scanned line that carry the identifier. -/
theorem hasSession_scanned {n : UInt64} {before value : List UInt8}
    (hFirst : firstMatch steamLoginSecure (before ++ steamLoginSecure ++ value) = some before.length)
    (hValue : SteamIdValue value n) :
    HasSession n (before ++ steamLoginSecure ++ value) ↔
      (PairStart before ∧ (leadingDigits value).head? ≠ some (byte '0')) ∨
        HasSession n (laterFields (byte ';') value) := by
  have hName : byte ';' ∉ steamLoginSecure := by decide
  obtain ⟨hLast, hBefore⟩ := lastField_cases (byte ';') before
  unfold PairStart
  generalize lastField (byte ';') before = last at hLast hBefore ⊢
  have hFront : ∃ front, before = front ++ last ∧
      (HasSession n (before ++ steamLoginSecure ++ value) ↔
        HasSession n (last ++ steamLoginSecure ++ value)) := by
    obtain rfl | ⟨init, rfl⟩ := hBefore
    · exact ⟨[], rfl, Iff.rfl⟩
    · refine ⟨init ++ [byte ';'], by simp, ?_⟩
      rw [List.append_assoc, List.append_assoc, List.cons_append, hasSession_append,
        List.append_assoc, or_iff_right]
      intro hEarly
      rw [List.append_assoc] at hFirst
      have hNot := not_infix_of_firstMatch (by decide : steamLoginSecure ≠ []) hFirst
      exact hNot ((name_infix_of_hasSession hEarly).trans (List.prefix_append _ _).isInfix)
  obtain ⟨front, rfl, hAll⟩ := hFront
  rw [hAll]
  obtain ⟨hNone, hLater⟩ | ⟨first, hNone, hSplit⟩ := laterFields_cases (byte ';') value
  · rw [hLater, hasSession_single (by simp [hLast, hName, hNone]), hasSession_single (by simp)]
    rw [← List.append_nil value] at hFirst hValue
    have hScanned := sessionPair_scanned hFirst hValue (Or.inl rfl)
    rw [List.append_nil] at hScanned
    rw [hScanned]
    exact (or_iff_left (not_sessionPair_nil n)).symm
  · generalize laterFields (byte ';') value = later at hSplit ⊢
    subst hSplit
    rw [← List.append_assoc, hasSession_append, hasSession_single (by simp [hLast, hName, hNone]),
      sessionPair_scanned hFirst hValue (Or.inr rfl)]

theorem lineOf_word {word : List UInt8} (h : byte '\r' ∉ word) (rest : List UInt8) :
    lineOf (word ++ rest) = word ++ lineOf rest := by
  induction word with
  | nil => rfl
  | cons b word ih =>
      have hRest := ih fun hMem => h (List.mem_cons_of_mem b hMem)
      unfold lineOf cut at hRest ⊢
      rw [List.cons_append, firstMatch, if_neg (not_crlf_of_not_mem h _)]
      cases hFirst : firstMatch crlf (word ++ rest) with
      | none => simpa [hFirst] using hRest
      | some i => simpa [hFirst] using hRest

/-- The name is found behind the `Cookie:` of its line. -/
theorem firstMatch_cookieLine (cookies : List UInt8) :
    firstMatch steamLoginSecure (cookieName ++ cookies) =
      (firstMatch steamLoginSecure cookies).map (· + 7) := by
  have hName : cookieName = ascii "Cookie" ++ [byte ':'] := by decide
  have hBehind : firstMatch steamLoginSecure (ascii "Cookie" ++ byte ':' :: cookies) = _ :=
    firstMatch_append_separator (by decide) (by decide) (by decide) cookies
  rw [hName, List.append_assoc, List.singleton_append, hBehind]
  rfl

theorem cut_cookieLine {cookies before value : List UInt8}
    (h : cut steamLoginSecure (cookieName ++ cookies) = some (before, value)) :
    ∃ inner, before = cookieName ++ inner ∧ cookies = inner ++ steamLoginSecure ++ value ∧
      firstMatch steamLoginSecure cookies = some inner.length := by
  obtain ⟨hSplit, hFirst⟩ := cut_eq_some h
  rw [firstMatch_cookieLine] at hFirst
  obtain ⟨i, hi, hLength⟩ := Option.map_eq_some_iff.mp hFirst
  have hBefore : before <+: cookieName ++ cookies :=
    ⟨steamLoginSecure ++ value, by rw [hSplit, List.append_assoc]⟩
  have hSeven : cookieName.length = 7 := by decide
  obtain ⟨inner, rfl⟩ := List.prefix_of_prefix_length_le (List.prefix_append cookieName cookies)
    hBefore (by omega)
  refine ⟨inner, rfl, ?_, ?_⟩
  · simpa using hSplit
  · rw [hi]
    simp only [List.length_append] at hLength
    congr 1
    omega

/-- Where the header section holds a session cookie for the scanned identifier. -/
theorem genuineCookie_iff {request line before value : List UInt8} {n : UInt64}
    (hLine : cookieLine request = some line) (hCut : cut steamLoginSecure line = some (before, value))
    (hValue : SteamIdValue value n) :
    GenuineCookie request n ↔
      ∃ front rest, cut cookieHeader (headerSection request) = some (front, rest) ∧
        ((PairStart (before.drop cookieName.length) ∧
            (leadingDigits value).head? ≠ some (byte '0')) ∨
          ∃ pair ∈ laterPairs value rest, SessionPair n pair) := by
  cases hSection : cut cookieHeader (headerSection request) with
  | none =>
      unfold GenuineCookie
      rw [cookiePairsIn_eq_nil (cut_eq_none_iff.mp hSection)]
      simp
  | some parts =>
      obtain ⟨front, rest⟩ := parts
      have hSame := cookieLine_of_headerSection hSection
      rw [lineOf_word (by decide), hLine] at hSame
      obtain rfl := Option.some.inj hSame
      obtain ⟨inner, rfl, hCookies, hFirst⟩ := cut_cookieLine hCut
      rw [hCookies] at hFirst
      have hPairs : cookiePairs (cookieName ++ lineOf rest) = pairsOf (lineOf rest) := by
        unfold cookiePairs
        rw [if_pos (List.prefix_append _ _), List.drop_left]
      have hScanned := hasSession_scanned hFirst hValue
      rw [← hCookies] at hScanned
      unfold GenuineCookie laterPairs
      rw [cookiePairsIn_cut hSection, lineOf_word (by decide), hPairs, List.drop_left]
      simp only [List.mem_append, or_and_right, exists_or, Option.some.injEq, Prod.mk.injEq,
        and_assoc, exists_and_left, exists_eq_left']
      exact (or_congr hScanned Iff.rfl).trans or_assoc

/-- Identifiers come from session cookies, and so does the identity behind every
refund for an absent trade. -/
def CookieIdentity (request : List UInt8) : Prop :=
  (∀ n, extractSteamIdFromCookie request = .ok n → GenuineCookie request n) ∧
    ∀ ext serverName response escrow proofTimestamp settlement,
      Oracle.decide ext serverName request response escrow proofTimestamp = .ok settlement →
      settlement.refundReason = .tradeNotExist →
      ∃ n, escrow.IsParty n ∧ GenuineCookie request n

/-- The first `Cookie` line of the request lies in the header section, and the
first name in it starts a pair without a leading zero, or a later pair carries
the same identifier. Nothing is asked of a request that the scanner rejects. -/
def ScansSessionCookie (request : List UInt8) : Prop :=
  ∀ line before value n, cookieLine request = some line →
    cut steamLoginSecure line = some (before, value) → SteamIdValue value n →
    ∃ front rest, cut cookieHeader (headerSection request) = some (front, rest) ∧
      ((PairStart (before.drop cookieName.length) ∧
          (leadingDigits value).head? ≠ some (byte '0')) ∨
        ∃ pair ∈ laterPairs value rest, SessionPair n pair)

/-- A refund for an absent trade was proved by the holder of the scanned identifier. -/
theorem prover_of_tradeNotExist {ext : Externals} {serverName : String}
    {request response : List UInt8} {escrow : EscrowSnapshot} {proofTimestamp : UInt64}
    {settlement : Settlement}
    (h : Oracle.decide ext serverName request response escrow proofTimestamp = .ok settlement)
    (hReason : settlement.refundReason = .tradeNotExist) :
    ∃ steamId, extractSteamIdFromCookie request = .ok steamId ∧ escrow.IsParty steamId := by
  obtain ⟨evidence, hGather, hJudge⟩ := (decide_eq_ok_iff ext).mp h
  cases evidence with
  | offer requestId data =>
      obtain ⟨_, _, reason, hOffer, rfl⟩ := judgeTradeOffer_eq_ok_iff.mp hJudge
      obtain rfl : reason = .tradeNotExist := hReason
      exact False.elim hOffer
  | status data =>
      obtain ⟨_, _, _, _, ⟨_, rfl⟩ | ⟨_, _, _, _, rfl⟩⟩ | ⟨_, _, rfl⟩ | ⟨_, _, rfl⟩ :=
        judgeTradeStatus_eq_ok_iff.mp hJudge <;> cases hReason
  | community data =>
      obtain ⟨hId, hProver, _⟩ := judgeCommunity_eq_ok_iff.mp hJudge
      exact (communityTranscript_of_gather hGather hId hProver).prover

theorem cookieIdentity_iff (request : List UInt8) :
    CookieIdentity request ↔ ScansSessionCookie request := by
  constructor
  · intro h line before value n hLine hCut hValue
    refine (genuineCookie_iff hLine hCut hValue).mp (h.1 n ?_)
    exact extractSteamIdFromCookie_eq_ok_iff.mpr ⟨line, before, value, hLine, hCut, hValue⟩
  · intro h
    have hGenuine : ∀ n, extractSteamIdFromCookie request = .ok n → GenuineCookie request n := by
      intro n hScan
      obtain ⟨line, before, value, hLine, hCut, hValue⟩ := extractSteamIdFromCookie_eq_ok_iff.mp hScan
      exact (genuineCookie_iff hLine hCut hValue).mpr (h line before value n hLine hCut hValue)
    refine ⟨hGenuine, fun ext serverName response escrow proofTimestamp settlement hDecide hReason => ?_⟩
    obtain ⟨steamId, hCookie, hParty⟩ := prover_of_tradeNotExist hDecide hReason
    exact ⟨steamId, hParty, hGenuine steamId hCookie⟩

/-- A community request with the given header lines and body. -/
def requestWith (headers body : List UInt8) : List UInt8 :=
  ascii "GET /tradeoffer/8653813160 HTTP/1.1\r\nHost: steamcommunity.com\r\n" ++ headers ++ crlf ++ body

def lookAlikeRequest : List UInt8 :=
  requestWith (ascii "Cookie: xsteamLoginSecure=76561198404282737%7C%7CeyToken\r\n") []

def cookieValueRequest : List UInt8 :=
  requestWith (ascii "Cookie: a=steamLoginSecure=76561198404282737%7C%7CeyToken\r\n") []

def bodyRequest : List UInt8 :=
  requestWith [] (ascii "Cookie: steamLoginSecure=76561198404282737%7C%7CeyToken")

theorem not_cookieIdentity_lookAlike :
    ¬CookieIdentity lookAlikeRequest ∧ ¬CookieIdentity cookieValueRequest ∧
      ¬CookieIdentity bodyRequest := by
  refine ⟨fun h => ?_, fun h => ?_, fun h => ?_⟩
  · exact absurd (h.1 76561198404282737 (by decide +kernel)) (by decide +kernel)
  · exact absurd (h.1 76561198404282737 (by decide +kernel)) (by decide +kernel)
  · exact absurd (h.1 76561198404282737 (by decide +kernel)) (by decide +kernel)

end SettlementOracle
