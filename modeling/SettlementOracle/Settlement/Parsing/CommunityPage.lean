import SettlementOracle.Settlement.Parsing.Response

/-! The one-pass scan of a Steam Community page. Its four flags are the results
of plain substring searches. -/
namespace SettlementOracle

open Checked

variable {ε : Type}

def errorTitle : List UInt8 := ascii "Steam Community :: Error"

def notExist : List UInt8 := ascii "trade offer does not exist"

def belongsOther : List UInt8 := ascii "belongs to another user"

def signIn : List UInt8 := ascii "Sign In"

def steamIdMarker : List UInt8 := ascii "g_steamID"

structure PageFlags where
  isErrorPage : Bool
  hasNotFound : Bool
  hasSignIn : Bool
  hasSteamId : Bool
  deriving DecidableEq, Repr

/-- A marker is compared only while its flag is still clear. -/
def marker (seen : Bool) (html pattern : List UInt8) (i : Nat) : Exec ε Bool :=
  if seen then .ok false else matchesAt html pattern i

def scanByte (html : List UInt8) (i : Nat) (flags : PageFlags) : Exec ε PageFlags := do
  let c ← index html i
  if c = byte 'S' then
    if ← marker flags.isErrorPage html errorTitle i then .ok { flags with isErrorPage := true }
    else if ← marker flags.hasSignIn html signIn i then .ok { flags with hasSignIn := true }
    else .ok flags
  else if c = byte 't' then
    if ← marker flags.hasNotFound html notExist i then .ok { flags with hasNotFound := true }
    else .ok flags
  else if c = byte 'b' then
    if ← marker flags.hasNotFound html belongsOther i then .ok { flags with hasNotFound := true }
    else .ok flags
  else if c = byte 'g' then
    if ← marker flags.hasSteamId html steamIdMarker i then .ok { flags with hasSteamId := true }
    else .ok flags
  else .ok flags

def scanPage (html : List UInt8) : Nat → Nat → PageFlags → Exec ε PageFlags
  | 0, _, flags => .ok flags
  | left + 1, i, flags => do
      let flags ← scanByte html i flags
      scanPage html left (i + 1) flags

def parseCommunityHtml (inflate : List UInt8 → Option (List UInt8)) (request response : List UInt8) :
    Exec ParseError CommunityProofData := do
  let html ← extractHttpBody inflate response
  let proverSteamId ← extractSteamIdFromCookie request
  let tradeOfferId ← okOr (← extractTradeOfferIdFromUrl request) .missingTradeOfferId
  let flags ← scanPage html.bytes html.bytes.length 0 ⟨false, false, false, false⟩
  let isSignInPage := flags.hasSignIn && !flags.hasSteamId
  failIf isSignInPage .missingCookie
  let tradeNotFound := flags.isErrorPage && flags.hasNotFound
  failIf (¬tradeNotFound) .communityTradeExists
  .ok ⟨proverSteamId, tradeOfferId, tradeNotFound⟩

/-- The flags found in a stretch of text, joined to those already set. -/
def PageFlags.join (flags : PageFlags) (found : List UInt8 → Bool) : PageFlags where
  isErrorPage := flags.isErrorPage || found errorTitle
  hasNotFound := flags.hasNotFound || (found notExist || found belongsOther)
  hasSignIn := flags.hasSignIn || found signIn
  hasSteamId := flags.hasSteamId || found steamIdMarker

theorem marker_eq {pattern : List UInt8} (hPattern : pattern ≠ []) (seen : Bool)
    (html : List UInt8) (i : Nat) :
    (marker seen html pattern i : Exec ε Bool) = .ok (!seen && pattern <+: html.drop i) := by
  unfold marker
  cases seen with
  | true => rfl
  | false => simp [matchesAt_eq hPattern]

theorem not_prefix_of_head {pattern rest : List UInt8} {c : UInt8}
    (h : pattern.head? ≠ some c) (hPattern : pattern ≠ []) : ¬pattern <+: c :: rest := by
  intro hPrefix
  cases pattern with
  | nil => exact hPattern rfl
  | cons p ps =>
      obtain ⟨rfl, _⟩ := List.cons_prefix_cons.mp hPrefix
      exact h rfl

/-- The two markers that start with `S` differ in their second byte. -/
theorem not_errorTitle_and_signIn (text : List UInt8) :
    ¬(errorTitle <+: text ∧ signIn <+: text) := by
  rintro ⟨hTitle, hSignIn⟩
  have hShorter := List.prefix_of_prefix_length_le hSignIn hTitle (by decide)
  exact absurd hShorter (by decide)

/-- A branch that compares one marker sets its flag where the marker starts. -/
theorem marker_set {pattern : List UInt8} (hPattern : pattern ≠ []) (seen : Bool)
    (set : Bool → PageFlags) (html : List UInt8) (i : Nat) :
    (do if ← marker seen html pattern i then .ok (set true) else .ok (set seen) :
        Exec ε PageFlags) = .ok (set (seen || pattern <+: html.drop i)) := by
  rw [marker_eq hPattern, ok_bind]
  cases seen with
  | true => rfl
  | false => by_cases hMarker : pattern <+: html.drop i <;> simp [hMarker]

/-- The branch of the two markers that start with `S`. The second one is compared
only where the first one is not found, but they never start together. -/
theorem markers_set (flags : PageFlags) (html : List UInt8) (i : Nat) :
    (do
      if ← marker flags.isErrorPage html errorTitle i then .ok { flags with isErrorPage := true }
      else if ← marker flags.hasSignIn html signIn i then .ok { flags with hasSignIn := true }
      else .ok flags : Exec ε PageFlags) =
      .ok { flags with
        isErrorPage := flags.isErrorPage || errorTitle <+: html.drop i
        hasSignIn := flags.hasSignIn || signIn <+: html.drop i } := by
  have hBoth := not_errorTitle_and_signIn (html.drop i)
  rw [marker_eq (by decide), ok_bind, marker_eq (by decide), ok_bind]
  obtain ⟨isErrorPage, hasNotFound, hasSignIn, hasSteamId⟩ := flags
  by_cases hTitle : errorTitle <+: html.drop i
  · have hSignIn : ¬signIn <+: html.drop i := fun h => hBoth ⟨hTitle, h⟩
    cases isErrorPage <;> simp [hTitle, hSignIn]
  · by_cases hSignIn : signIn <+: html.drop i <;> cases hasSignIn <;> simp [hTitle, hSignIn]

/-- One position of the scan sets exactly the markers that start there. -/
theorem scanByte_eq {html : List UInt8} {i : Nat} (hi : i < html.length) (flags : PageFlags) :
    (scanByte html i flags : Exec ε PageFlags) =
      .ok (flags.join fun pattern => pattern <+: html.drop i) := by
  -- A marker that starts with another byte is not here, so its flag stays.
  have hOther : ∀ (first : UInt8) (pattern : List UInt8), pattern.head? = some first →
      html[i] ≠ first → decide (pattern <+: html.drop i) = false := by
    intro first pattern hFirst hne
    apply decide_eq_false
    rw [List.drop_eq_getElem_cons hi]
    apply not_prefix_of_head
    · rw [hFirst]
      exact fun h => hne (Option.some.inj h).symm
    · rintro rfl
      cases hFirst
  simp only [scanByte, PageFlags.join, index_of_lt hi, ok_bind]
  by_cases hS : html[i] = byte 'S'
  · rw [if_pos hS, markers_set, hOther _ notExist rfl (by rw [hS]; decide),
      hOther _ belongsOther rfl (by rw [hS]; decide), hOther _ steamIdMarker rfl (by rw [hS]; decide)]
    simp only [Bool.or_false]
  · rw [if_neg hS, hOther _ errorTitle rfl hS, hOther _ signIn rfl hS]
    simp only [Bool.or_false]
    by_cases hT : html[i] = byte 't'
    · rw [if_pos hT, hOther _ belongsOther rfl (by rw [hT]; decide),
        hOther _ steamIdMarker rfl (by rw [hT]; decide)]
      simp only [Bool.or_false]
      exact marker_set (by decide) _ (fun found => { flags with hasNotFound := found }) html i
    · rw [if_neg hT, hOther _ notExist rfl hT]
      simp only [Bool.false_or]
      by_cases hB : html[i] = byte 'b'
      · rw [if_pos hB, hOther _ steamIdMarker rfl (by rw [hB]; decide)]
        simp only [Bool.or_false]
        exact marker_set (by decide) _ (fun found => { flags with hasNotFound := found }) html i
      · rw [if_neg hB, hOther _ belongsOther rfl hB]
        simp only [Bool.or_false]
        by_cases hG : html[i] = byte 'g'
        · rw [if_pos hG]
          exact marker_set (by decide) _ (fun found => { flags with hasSteamId := found }) html i
        · rw [if_neg hG, hOther _ steamIdMarker rfl hG, Bool.or_false]

/-- The loop collects the markers of the text that is left to scan. -/
theorem scanPage_eq (html : List UInt8) (i : Nat) (flags : PageFlags) :
    (scanPage html (html.length - i) i flags : Exec ε PageFlags) =
      .ok (flags.join fun pattern => pattern <:+: html.drop i) := by
  generalize hLeft : html.length - i = left
  induction left generalizing i flags with
  | zero =>
      rw [scanPage, List.drop_eq_nil_of_le (by omega)]
      have hNone : ∀ pattern : List UInt8, pattern ≠ [] →
          decide (pattern <:+: ([] : List UInt8)) = false := by
        intro pattern hPattern
        simp [hPattern]
      simp only [PageFlags.join, hNone _ (by decide : errorTitle ≠ []),
        hNone _ (by decide : notExist ≠ []), hNone _ (by decide : belongsOther ≠ []),
        hNone _ (by decide : signIn ≠ []), hNone _ (by decide : steamIdMarker ≠ []),
        Bool.or_false]
  | succ left ih =>
      have hi : i < html.length := by omega
      rw [scanPage, scanByte_eq hi, ok_bind, ih (i + 1) _ (by omega)]
      have hSplit : ∀ pattern : List UInt8, decide (pattern <:+: html.drop i) =
          (decide (pattern <+: html.drop i) || decide (pattern <:+: html.drop (i + 1))) := by
        intro pattern
        rw [← Bool.decide_or, decide_eq_decide, List.drop_eq_getElem_cons hi, List.infix_cons_iff]
      simp only [PageFlags.join, hSplit, Bool.or_assoc]
      congr 2
      rw [Bool.or_left_comm (decide (notExist <:+: _))]

/-- A page that says the trade offer does not exist, shown to a signed-in user. -/
def NotFoundPage (html : List UInt8) : Prop :=
  errorTitle <:+: html ∧ (notExist <:+: html ∨ belongsOther <:+: html) ∧
    (signIn <:+: html → steamIdMarker <:+: html)

instance (html : List UInt8) : Decidable (NotFoundPage html) := inferInstanceAs (Decidable (_ ∧ _))

section Inflate

variable (inflate : List UInt8 → Option (List UInt8))

/-- The scan replaced by substring searches. -/
theorem parseCommunityHtml_eq (request response : List UInt8) :
    parseCommunityHtml inflate request response = (do
      let html ← extractHttpBody inflate response
      let proverSteamId ← extractSteamIdFromCookie request
      let tradeOfferId ← okOr (← extractTradeOfferIdFromUrl request) .missingTradeOfferId
      failIf (signIn <:+: html.bytes ∧ ¬steamIdMarker <:+: html.bytes) .missingCookie
      failIf (¬(errorTitle <:+: html.bytes ∧
        (notExist <:+: html.bytes ∨ belongsOther <:+: html.bytes))) .communityTradeExists
      .ok ⟨proverSteamId, tradeOfferId, true⟩) := by
  unfold parseCommunityHtml
  refine bind_congr fun html => bind_congr fun n => bind_congr fun found => bind_congr fun id => ?_
  have hScan := scanPage_eq (ε := ParseError) html.bytes 0 ⟨false, false, false, false⟩
  rw [Nat.sub_zero, List.drop_zero] at hScan
  rw [hScan, ok_bind]
  simp only [PageFlags.join, Bool.false_or, Bool.and_eq_true, Bool.or_eq_true, Bool.not_eq_true',
    decide_eq_true_eq, decide_eq_false_iff_not]
  refine bind_congr fun _ => ?_
  by_cases hFound : errorTitle <:+: html.bytes ∧
      (notExist <:+: html.bytes ∨ belongsOther <:+: html.bytes)
  · rw [failIf_neg _ (not_not.mpr hFound), ok_bind, ok_bind]
    obtain ⟨hTitle, hMarker⟩ := hFound
    simpa [hTitle] using hMarker
  · rw [failIf_pos _ hFound, fail_bind, fail_bind]

theorem parseCommunityHtml_eq_ok_iff {request response : List UInt8} {data : CommunityProofData} :
    parseCommunityHtml inflate request response = .ok data ↔
      ∃ html n id, extractHttpBody inflate response = .ok html ∧
        extractSteamIdFromCookie request = .ok n ∧
        extractTradeOfferIdFromUrl request = (.ok (some id) : Exec ParseError (Option UInt64)) ∧
        NotFoundPage html.bytes ∧ data = ⟨n, id, true⟩ := by
  rw [parseCommunityHtml_eq]
  constructor
  · intro h
    simp only [bind_eq_ok, okOr_eq_ok, failIf_eq_ok, exists_const, Except.ok.injEq] at h
    obtain ⟨html, hBody, n, hCookie, _, hUrl, id, rfl, hSignIn, hFound, rfl⟩ := h
    rw [not_and, not_not] at hSignIn
    rw [not_not] at hFound
    exact ⟨html, n, id, hBody, hCookie, hUrl, ⟨hFound.1, hFound.2, hSignIn⟩, rfl⟩
  · rintro ⟨html, n, id, hBody, hCookie, hUrl, ⟨hTitle, hMarker, hSignIn⟩, rfl⟩
    rw [hBody, hCookie, hUrl]
    simp only [ok_bind, okOr_some]
    rw [failIf_neg _ (fun h => h.2 (hSignIn h.1)), failIf_neg _ (not_not.mpr ⟨hTitle, hMarker⟩),
      ok_bind, ok_bind]

/-- Only the body extraction can leave its data. -/
theorem safe_parseCommunityHtml {request response : List UInt8}
    (hBody : Safe (extractHttpBody inflate response)) :
    Safe (parseCommunityHtml inflate request response) := by
  rw [parseCommunityHtml_eq, safe_bind_iff]
  refine ⟨hBody, fun html _ => ?_⟩
  simp [safe_bind_iff, safe_extractSteamIdFromCookie, extractTradeOfferIdFromUrl_eq]

end Inflate

end SettlementOracle
