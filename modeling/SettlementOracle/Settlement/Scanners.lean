import SettlementOracle.Settlement.Soundness

/-! The byte scanners against plain readings of what they look for: substrings at
any position, and maximal runs of digits as decimal numerals. -/
namespace SettlementOracle

open Checked

variable {ε : Type}

section Pages

variable {inflate : List UInt8 → Option (List UInt8)} {request response : List UInt8} {html : Text}
  {n id : UInt64}

/-- A page that asks the visitor to sign in. -/
def SignInPage (html : List UInt8) : Prop := signIn <:+: html ∧ ¬steamIdMarker <:+: html

/-- An error page about a trade offer that is missing or not the visitor's. -/
def MissingOfferPage (html : List UInt8) : Prop :=
  errorTitle <:+: html ∧ (notExist <:+: html ∨ belongsOther <:+: html)

instance (html : List UInt8) : Decidable (SignInPage html) := inferInstanceAs (Decidable (_ ∧ _))

instance (html : List UInt8) : Decidable (MissingOfferPage html) :=
  inferInstanceAs (Decidable (_ ∧ _))

theorem parseCommunityHtml_of_inputs (hBody : extractHttpBody inflate response = .ok html)
    (hCookie : extractSteamIdFromCookie request = .ok n)
    (hUrl : extractTradeOfferIdFromUrl request = (.ok (some id) : Exec ParseError (Option UInt64))) :
    parseCommunityHtml inflate request response =
      if SignInPage html.bytes then fail .missingCookie
      else if MissingOfferPage html.bytes then .ok ⟨n, id, true⟩
      else fail .communityTradeExists := by
  rw [parseCommunityHtml_eq, hBody, hCookie, hUrl]
  simp only [ok_bind, okOr_some]
  change (failIf (SignInPage html.bytes) _ >>= fun _ => failIf (¬MissingOfferPage html.bytes) _ >>=
    fun _ => _) = _
  by_cases hSignIn : SignInPage html.bytes
  · rw [if_pos hSignIn, failIf_pos _ hSignIn, fail_bind]
  · rw [if_neg hSignIn, failIf_neg _ hSignIn, ok_bind]
    by_cases hMissing : MissingOfferPage html.bytes
    · rw [if_pos hMissing, failIf_neg _ (not_not.mpr hMissing), ok_bind]
    · rw [if_neg hMissing, failIf_pos _ hMissing, fail_bind]

/-- The one-pass scan decides by independent substring searches. -/
theorem parseCommunityHtml_searches (hBody : extractHttpBody inflate response = .ok html)
    (hCookie : extractSteamIdFromCookie request = .ok n)
    (hUrl : extractTradeOfferIdFromUrl request = (.ok (some id) : Exec ParseError (Option UInt64))) :
    (parseCommunityHtml inflate request response = fail .missingCookie ↔ SignInPage html.bytes) ∧
    (¬SignInPage html.bytes →
      (parseCommunityHtml inflate request response = .ok ⟨n, id, true⟩ ↔
        MissingOfferPage html.bytes)) ∧
    (¬SignInPage html.bytes → ¬MissingOfferPage html.bytes →
      parseCommunityHtml inflate request response = fail .communityTradeExists) := by
  rw [parseCommunityHtml_of_inputs hBody hCookie hUrl]
  by_cases hSignIn : SignInPage html.bytes
  · rw [if_pos hSignIn]
    exact ⟨iff_of_true rfl hSignIn, fun h => absurd hSignIn h, fun h => absurd hSignIn h⟩
  · rw [if_neg hSignIn]
    by_cases hMissing : MissingOfferPage html.bytes
    · rw [if_pos hMissing]
      refine ⟨iff_of_false ?_ hSignIn, fun _ => iff_of_true rfl hMissing,
        fun _ h => absurd hMissing h⟩
      intro h
      cases h
    · rw [if_neg hMissing]
      refine ⟨iff_of_false ?_ hSignIn, fun _ => iff_of_false ?_ hMissing, fun _ _ => rfl⟩
      · intro h
        cases h
      · intro h
        cases h

/-- A body that starts with one marker and ends with another. -/
def bareErrorPage : Text := ⟨errorTitle ++ belongsOther, by decide +kernel⟩

theorem parseCommunityHtml_searches_bare :
    MissingOfferPage bareErrorPage.bytes ∧
      parseCommunityHtml (fun _ => none) communityRequest (okResponse bareErrorPage.bytes) =
        .ok ⟨76561198404282737, 8653813160, true⟩ := by
  have hMissing : MissingOfferPage bareErrorPage.bytes :=
    ⟨List.infix_append' [] _ _, Or.inr (List.suffix_append _ _).isInfix⟩
  have hSignIn : ¬SignInPage bareErrorPage.bytes := fun h => absurd h.1 (by decide +kernel)
  obtain ⟨_, hFound, _⟩ := @parseCommunityHtml_searches (fun _ => none) communityRequest
    (okResponse bareErrorPage.bytes) bareErrorPage 76561198404282737 8653813160
    (by decide +kernel) (by decide +kernel) (by decide +kernel)
  exact ⟨hMissing, (hFound hSignIn).mpr hMissing⟩

end Pages

section Numbers

/-- The empty pattern is not searched for. -/
theorem findPattern_nil (data : List UInt8) :
    (findPattern data [] : Exec ε (Option Nat)) = .ok none := if_pos (Or.inl rfl)

theorem findPattern_eq_some_iff {data pattern : List UInt8} {i : Nat} :
    findPattern data pattern = (.ok (some i) : Exec ε (Option Nat)) ↔
      pattern ≠ [] ∧ IsLeast {j | OccursAt pattern data j} i := by
  by_cases hPattern : pattern = []
  · subst hPattern
    simp [findPattern_nil]
  · rw [findPattern_eq hPattern, Except.ok.injEq, firstMatch_eq_some_iff_isLeast]
    simp [hPattern]

theorem findPattern_eq_none_iff {data pattern : List UInt8} :
    findPattern data pattern = (.ok none : Exec ε (Option Nat)) ↔
      pattern = [] ∨ ∀ i, ¬OccursAt pattern data i := by
  by_cases hPattern : pattern = []
  · subst hPattern
    simp [findPattern_nil]
  · rw [findPattern_eq hPattern, Except.ok.injEq, firstMatch_eq_none_iff, infix_iff_occursAt,
      not_exists]
    simp [hPattern]

theorem digitRun_eq_some_iff {text : List UInt8} {v : UInt64} :
    digitRun text = some v ↔ ∃ run rest, DecimalRun 1 20 text run rest v.toNat := by
  simp only [decimalRun_iff, exists_and_left, exists_eq_left]
  unfold digitRun
  constructor
  · intro h
    split_ifs at h with hRun
    obtain ⟨hLong, hShort, hFit⟩ := hRun
    exact ⟨hLong, hShort, (ofNat_eq_iff hFit v).mp (Option.some.inj h)⟩
  · rintro ⟨hLong, hShort, hValue⟩
    -- A run of twenty digits may overflow, but not when it spells a `u64`.
    have hFit : decimalValue (leadingDigits text) < UInt64.size := hValue ▸ v.toNat_lt
    rw [if_pos ⟨hLong, hShort, hFit⟩, (ofNat_eq_iff hFit v).mpr hValue]

example : digitRun (ascii "18446744073709551615/") = some 18446744073709551615 ∧
    digitRun (ascii "18446744073709551616/") = none := by decide +kernel

theorem steamIdValue_iff {value : List UInt8} {n : UInt64} :
    SteamIdValue value n ↔ ∃ run rest, DecimalRun 15 18 value run rest n.toNat ∧
      (ascii "||" <+: rest ∨ ascii "%7C%7C" <+: rest) := by
  simp only [decimalRun_iff]
  unfold SteamIdValue
  rw [drop_takeWhile_length]
  constructor
  · rintro ⟨hLong, hShort, rfl, hDelimiter⟩
    have hFit := decimalValue_leadingDigits_lt hShort
    exact ⟨_, _, ⟨rfl, rfl, hLong, hShort, (ofNat_eq_iff hFit _).mp rfl⟩, hDelimiter.symm⟩
  · rintro ⟨_, _, ⟨rfl, rfl, hLong, hShort, hValue⟩, hDelimiter⟩
    have hFit := decimalValue_leadingDigits_lt hShort
    exact ⟨hLong, hShort, ((ofNat_eq_iff hFit n).mpr hValue).symm, hDelimiter.symm⟩

/-- The text up to its first line break, or all of a text without one. -/
def IsLine (text line : List UInt8) : Prop :=
  (∃ after, FirstOccurrence crlf text line after) ∨ line = text ∧ ¬crlf <:+: text

theorem lineOf_eq_iff {text line : List UInt8} : lineOf text = line ↔ IsLine text line := by
  unfold lineOf IsLine
  simp only [← cut_eq_some_iff, ← cut_eq_none_iff]
  cases hCut : cut crlf text with
  | none => simp [eq_comm]
  | some parts => simp [Prod.ext_iff]

theorem extractTradeOfferIdFromUrl_eq_some_iff {request : List UInt8} {v : UInt64} :
    extractTradeOfferIdFromUrl request = (.ok (some v) : Exec ε (Option UInt64)) ↔
      ∃ before after, FirstOccurrence tradeOfferPath request before after ∧
        ∃ run rest, DecimalRun 1 20 after run rest v.toNat := by
  rw [extractTradeOfferIdFromUrl_eq, Except.ok.injEq, Option.bind_eq_some_iff, Prod.exists]
  simp only [cut_eq_some_iff, digitRun_eq_some_iff]

theorem extractNumberAfterPattern_eq_some_iff {data pattern : List UInt8} {v : UInt64} :
    extractNumberAfterPattern data pattern = (.ok (some v) : Exec ε (Option UInt64)) ↔
      pattern ≠ [] ∧ ∃ before after, FirstOccurrence pattern data before after ∧
        ∃ skipped text, MaximalRun isSpaceOrQuote after skipped text ∧
          ∃ run rest, DecimalRun 1 20 text run rest v.toNat := by
  by_cases hPattern : pattern = []
  · subst hPattern
    unfold extractNumberAfterPattern
    rw [findPattern_nil, ok_bind]
    simp
  · rw [extractNumberAfterPattern_eq hPattern, Except.ok.injEq, Option.bind_eq_some_iff,
      Prod.exists]
    simp only [cut_eq_some_iff, digitRun_eq_some_iff, maximalRun_iff, ne_eq, hPattern,
      not_false_eq_true, true_and]
    simp

/-- The line starts behind the line break that the header pattern begins with. -/
theorem cookieLine_eq_some_iff {request line : List UInt8} :
    cookieLine request = some line ↔
      ∃ before after, FirstOccurrence cookieHeader request before after ∧
        IsLine (ascii "Cookie:" ++ after) line := by
  unfold cookieLine
  simp only [Option.map_eq_some_iff, Prod.exists, cut_eq_some_iff, lineOf_eq_iff]

/-- Every scanner finds the first occurrence of its pattern and reads the number
behind it, and accepts nothing else. -/
theorem scanners_exact (data : List UInt8) :
    (∀ pattern,
      (∀ i, findPattern data pattern = (.ok (some i) : Exec ε (Option Nat)) ↔
        pattern ≠ [] ∧ IsLeast {j | OccursAt pattern data j} i) ∧
      (findPattern data pattern = (.ok none : Exec ε (Option Nat)) ↔
        pattern = [] ∨ ∀ i, ¬OccursAt pattern data i)) ∧
    (∀ v, extractTradeOfferIdFromUrl data = (.ok (some v) : Exec ε (Option UInt64)) ↔
      ∃ before after, FirstOccurrence tradeOfferPath data before after ∧
        ∃ run rest, DecimalRun 1 20 after run rest v.toNat) ∧
    (∀ pattern v, extractNumberAfterPattern data pattern =
        (.ok (some v) : Exec ε (Option UInt64)) ↔
      pattern ≠ [] ∧ ∃ before after, FirstOccurrence pattern data before after ∧
        ∃ skipped text, MaximalRun isSpaceOrQuote after skipped text ∧
          ∃ run rest, DecimalRun 1 20 text run rest v.toNat) ∧
    ∀ v, extractSteamIdFromCookie data = .ok v ↔
      ∃ before after line, FirstOccurrence cookieHeader data before after ∧
        IsLine (ascii "Cookie:" ++ after) line ∧
        ∃ front value, FirstOccurrence steamLoginSecure line front value ∧
          ∃ run rest, DecimalRun 15 18 value run rest v.toNat ∧
            (ascii "||" <+: rest ∨ ascii "%7C%7C" <+: rest) := by
  refine ⟨fun pattern => ⟨fun i => findPattern_eq_some_iff, findPattern_eq_none_iff⟩,
    fun v => extractTradeOfferIdFromUrl_eq_some_iff,
    fun pattern v => extractNumberAfterPattern_eq_some_iff, ?_⟩
  intro v
  -- The two sides differ only in the order of their witnesses.
  rw [extractSteamIdFromCookie_eq_ok_iff]
  simp only [cookieLine_eq_some_iff, cut_eq_some_iff, steamIdValue_iff]
  constructor
  · rintro ⟨line, front, value, ⟨before, after, hHeader, hLine⟩, hName, hValue⟩
    exact ⟨before, after, line, hHeader, hLine, front, value, hName, hValue⟩
  · rintro ⟨before, after, line, hHeader, hLine, front, value, hName, hValue⟩
    exact ⟨line, front, value, ⟨before, after, hHeader, hLine⟩, hName, hValue⟩

end Numbers

end SettlementOracle
