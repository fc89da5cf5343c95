import SettlementOracle.Checked.Search
import SettlementOracle.Checked.Decimal
import SettlementOracle.Settlement.Parsing.Request

/-! The HTTP response body: plain text, or one gzip member whose header is
walked by hand. The inflate routine is a parameter. -/
namespace SettlementOracle

open Checked

variable {ε : Type}

def maxDecompressedSize : Nat := 10 * 1024 * 1024

def maxRawResponseSize : Nat := 50 * 1024 * 1024

def bodySeparator : List UInt8 := [0x0d, 0x0a, 0x0d, 0x0a]

def gzipMagic : List UInt8 := [0x1f, 0x8b]

def findJsonStart (data : List UInt8) : Exec ε (Option Nat) := do
  match ← scanWindows data bodySeparator (data.length - 3) 0 with
  | some i => .ok (some (i + 4))
  | none => .ok none

/-- FEXTRA: a two-byte little-endian length and that many bytes. -/
def skipExtra (gzipBytes : List UInt8) (flags : UInt8) (offset : Nat) : Exec ParseError Nat :=
  if flags &&& 0x04 ≠ 0 then do
    failIf (offset + 2 > gzipBytes.length) .invalidGzipHeader
    let low ← index gzipBytes offset
    let high ← index gzipBytes (offset + 1)
    let xlen := low.toNat + 256 * high.toNat
    .ok (offset + (2 + xlen))
  else .ok offset

/-- FNAME and FCOMMENT: everything up to and including the next zero byte. An
unterminated field ends one position behind the data. -/
def skipZeroTerminated (gzipBytes : List UInt8) (flags mask : UInt8) (offset : Nat) : Exec ε Nat :=
  if flags &&& mask ≠ 0 then do
    let stop ← skipWhile (· != 0) gzipBytes (gzipBytes.length - offset) offset
    .ok (stop + 1)
  else .ok offset

/-- The offset at which the header walk stops. -/
def dataOffset (gzipBytes : List UInt8) : Exec ParseError Nat := do
  let flags ← index gzipBytes 3
  let offset ← skipExtra gzipBytes flags 10
  let offset ← skipZeroTerminated gzipBytes flags 0x08 offset
  let offset ← skipZeroTerminated gzipBytes flags 0x10 offset
  .ok (if flags &&& 0x02 ≠ 0 then offset + 2 else offset)

section Inflate

variable (inflate : List UInt8 → Option (List UInt8))

def decompressGzip (gzipBytes : List UInt8) : Exec ParseError (List UInt8) := do
  failIf (gzipBytes.length < 18) .invalidGzip
  failIf ((← index gzipBytes 0) ≠ 0x1f) .invalidGzip
  failIf ((← index gzipBytes 1) ≠ 0x8b) .invalidGzip
  failIf ((← index gzipBytes 2) ≠ 8) .unsupportedCompression
  let offset ← dataOffset gzipBytes
  failIf (offset ≥ gzipBytes.length) .invalidGzipData
  let compressedEnd := gzipBytes.length - 8
  let compressedData ← slice gzipBytes offset compressedEnd
  let decompressed ← okOr (inflate compressedData) .decompressionFailed
  failIf (decompressed.length > maxDecompressedSize) .decompressedTooLarge
  .ok decompressed

def startsWithMagic (jsonBytes : List UInt8) : Exec ε Bool :=
  if jsonBytes.length ≥ 2 then do
    let first ← index jsonBytes 0
    let second ← index jsonBytes 1
    .ok (first == 0x1f && second == 0x8b)
  else .ok false

def extractHttpBody (response : List UInt8) : Exec ParseError Text := do
  failIf (response.length > maxRawResponseSize) .responseTooLarge
  let bodyStart ← okOr (← findJsonStart response) .noJsonBody
  let jsonBytes ← slice response bodyStart response.length
  if ← startsWithMagic jsonBytes then
    let decompressed ← decompressGzip inflate jsonBytes
    okOr (Text.fromUtf8 decompressed) .invalidUtf8
  else okOr (Text.fromUtf8 jsonBytes) .invalidUtf8

end Inflate

/-- The length of the gzip header that the flags announce, whether or not the
data is that long. -/
def headerLength (gzipBytes : List UInt8) : Nat :=
  let flags := gzipBytes.getD 3 0
  let extra := if flags &&& 0x04 ≠ 0 then
    12 + ((gzipBytes.getD 10 0).toNat + 256 * (gzipBytes.getD 11 0).toNat) else 10
  let field := fun (mask : UInt8) (offset : Nat) => if flags &&& mask ≠ 0 then
    offset + ((gzipBytes.drop offset).takeWhile (· != 0)).length + 1 else offset
  let named := field 0x10 (field 0x08 extra)
  if flags &&& 0x02 ≠ 0 then named + 2 else named

theorem findJsonStart_eq (data : List UInt8) :
    (findJsonStart data : Exec ε (Option Nat)) =
      .ok ((firstMatch bodySeparator data).map (· + 4)) := by
  unfold findJsonStart
  by_cases hShort : data.length < 3
  · have hNone : ¬bodySeparator <:+: data := by
      intro h
      have := h.length_le
      simp only [bodySeparator, List.length_cons, List.length_nil] at this
      omega
    rw [firstMatch_eq_none_iff.mpr hNone, Nat.sub_eq_zero_of_le (by omega), scanWindows, ok_bind]
    rfl
  · rw [scanWindows_eq (by decide) _ _ (by simp [bodySeparator]; omega), ok_bind, List.drop_zero]
    cases firstMatch bodySeparator data <;> rfl

theorem skipZeroTerminated_eq (gzipBytes : List UInt8) (flags mask : UInt8) (offset : Nat) :
    (skipZeroTerminated gzipBytes flags mask offset : Exec ε Nat) =
      .ok (if flags &&& mask ≠ 0 then
        offset + ((gzipBytes.drop offset).takeWhile (· != 0)).length + 1 else offset) := by
  unfold skipZeroTerminated
  by_cases hFlag : flags &&& mask ≠ 0
  · rw [if_pos hFlag, if_pos hFlag, skipWhile_eq, ok_bind]
  · rw [if_neg hFlag, if_neg hFlag]

theorem getD_eq_getElem {data : List UInt8} {i : Nat} (h : i < data.length) :
    data.getD i 0 = data[i] := by
  simp [h]

/-- With the fixed part of the header present, the walk always returns. -/
theorem dataOffset_eq {gzipBytes : List UInt8} (h : 18 ≤ gzipBytes.length) :
    dataOffset gzipBytes = .ok (headerLength gzipBytes) := by
  have hExtra : skipExtra gzipBytes (gzipBytes.getD 3 0) 10 =
      .ok (if gzipBytes.getD 3 0 &&& 0x04 ≠ 0 then
        12 + ((gzipBytes.getD 10 0).toNat + 256 * (gzipBytes.getD 11 0).toNat) else 10) := by
    unfold skipExtra
    by_cases hFlag : gzipBytes.getD 3 0 &&& 0x04 ≠ 0
    · rw [if_pos hFlag, if_pos hFlag, failIf_neg _ (by omega), ok_bind, index_of_lt (by omega),
        ok_bind, index_of_lt (by omega), ok_bind, getD_eq_getElem (by omega),
        getD_eq_getElem (by omega)]
      simp only [Except.ok.injEq, Nat.reduceAdd]
      omega
    · rw [if_neg hFlag, if_neg hFlag]
  unfold dataOffset headerLength
  rw [index_of_lt (by omega), ← getD_eq_getElem (by omega), ok_bind, hExtra]
  simp only [ok_bind, skipZeroTerminated_eq]

theorem startsWithMagic_eq (jsonBytes : List UInt8) :
    (startsWithMagic jsonBytes : Exec ε Bool) = .ok (gzipMagic <+: jsonBytes) := by
  unfold startsWithMagic gzipMagic
  rcases jsonBytes with _ | ⟨first, _ | ⟨second, rest⟩⟩
  · rfl
  · simp
  · simp only [List.length_cons, ge_iff_le, Nat.le_add_left, if_true, index, List.getElem?_cons_zero,
      List.getElem?_cons_succ, ok_bind]
    congr 1
    rw [Bool.eq_iff_iff, Bool.and_eq_true, beq_iff_eq, beq_iff_eq, decide_eq_true_eq,
      List.cons_prefix_cons, List.cons_prefix_cons]
    constructor
    · rintro ⟨rfl, rfl⟩
      exact ⟨rfl, rfl, List.nil_prefix⟩
    · rintro ⟨rfl, rfl, _⟩
      exact ⟨rfl, rfl⟩

/-- The bytes behind the first blank line. -/
def httpBody (response : List UInt8) : Option (List UInt8) :=
  (cut bodySeparator response).map Prod.snd

/-- A gzip member whose header ends inside the eight trailer bytes. The walk
accepts it, since the header does end before the data does. -/
def HeaderOverrun (body : List UInt8) : Prop :=
  gzipMagic <+: body ∧ 18 ≤ body.length ∧ body.getD 2 0 = 8 ∧
    body.length < headerLength body + 8 ∧ headerLength body < body.length

instance (body : List UInt8) : Decidable (HeaderOverrun body) :=
  inferInstanceAs (Decidable (_ ∧ _))

/-- What the response carries before inflation: text as it stands, or a
deflate stream cut out of a gzip member. -/
inductive Payload where
  | plain (text : Text)
  | deflate (stream : List UInt8)
  deriving DecidableEq

def deflateStream (body : List UInt8) : Option (List UInt8) :=
  if 18 ≤ body.length ∧ body.getD 2 0 = 8 ∧ headerLength body + 8 ≤ body.length then
    some ((body.drop (headerLength body)).take (body.length - 8 - headerLength body))
  else none

def payload (response : List UInt8) : Option Payload :=
  if response.length ≤ maxRawResponseSize then
    (httpBody response).bind fun body =>
      if gzipMagic <+: body then (deflateStream body).map .deflate
      else (Text.fromUtf8 body).map .plain
  else none

def Payload.read (inflate : List UInt8 → Option (List UInt8)) : Payload → Option Text
  | .plain text => some text
  | .deflate stream => (inflate stream).bind fun decompressed =>
      if decompressed.length ≤ maxDecompressedSize then Text.fromUtf8 decompressed else none

section Inflate

variable (inflate : List UInt8 → Option (List UInt8))

/-- Past the magic bytes, only the length, the method and the header decide
which stream is inflated. -/
theorem decompressGzip_eq {body : List UInt8} (hMagic : gzipMagic <+: body) :
    decompressGzip inflate body = (do
      failIf (body.length < 18) .invalidGzip
      failIf (body.getD 2 0 ≠ 8) .unsupportedCompression
      failIf (headerLength body ≥ body.length) .invalidGzipData
      let compressedData ← slice body (headerLength body) (body.length - 8)
      let decompressed ← okOr (inflate compressedData) .decompressionFailed
      failIf (decompressed.length > maxDecompressedSize) .decompressedTooLarge
      .ok decompressed) := by
  obtain ⟨rest, rfl⟩ := hMagic
  unfold decompressGzip
  by_cases hShort : (gzipMagic ++ rest).length < 18
  · rw [failIf_pos _ hShort, fail_bind, fail_bind]
  · have hLength : 18 ≤ (gzipMagic ++ rest).length := by omega
    rw [failIf_neg _ hShort, ok_bind, ok_bind, dataOffset_eq hLength, index_of_lt (by omega),
      index_of_lt (by omega), index_of_lt (by omega), ok_bind, ok_bind, ok_bind, ok_bind,
      getD_eq_getElem (by omega)]
    rw [failIf_neg _ (by simp [gzipMagic]), failIf_neg _ (by simp [gzipMagic]), ok_bind, ok_bind]

theorem decompressGzip_eq_ok_iff {body decompressed : List UInt8} (hMagic : gzipMagic <+: body) :
    decompressGzip inflate body = .ok decompressed ↔
      ∃ stream, deflateStream body = some stream ∧ inflate stream = some decompressed ∧
        decompressed.length ≤ maxDecompressedSize := by
  rw [decompressGzip_eq inflate hMagic]
  simp only [bind_eq_ok, failIf_eq_ok, okOr_eq_ok, exists_and_left, exists_const, not_lt, not_not,
    Except.ok.injEq, ge_iff_le, gt_iff_lt, not_le, ne_eq]
  unfold deflateStream
  constructor
  · rintro ⟨hLength, hMethod, hOffset, stream, hSlice, output, hInflate, hSize, rfl⟩
    unfold slice at hSlice
    split_ifs at hSlice with hRange
    refine ⟨stream, ?_, hInflate, hSize⟩
    rw [if_pos ⟨hLength, hMethod, by omega⟩]
    exact congrArg some (Except.ok.inj hSlice)
  · rintro ⟨stream, hStream, hInflate, hSize⟩
    split_ifs at hStream with hFits
    obtain ⟨hLength, hMethod, hRange⟩ := hFits
    refine ⟨hLength, hMethod, by omega, stream, ?_, decompressed, hInflate, hSize, rfl⟩
    rw [slice_of_le (by omega) (by omega)]
    exact congrArg Except.ok (Option.some.inj hStream)

/-- The body extraction with the split at the blank line made explicit. -/
theorem extractHttpBody_eq (response : List UInt8) :
    extractHttpBody inflate response = (do
      failIf (response.length > maxRawResponseSize) .responseTooLarge
      let body ← okOr (httpBody response) .noJsonBody
      if gzipMagic <+: body then
        let decompressed ← decompressGzip inflate body
        okOr (Text.fromUtf8 decompressed) .invalidUtf8
      else okOr (Text.fromUtf8 body) .invalidUtf8) := by
  unfold extractHttpBody httpBody
  rw [findJsonStart_eq, ok_bind, cut]
  cases hFirst : firstMatch bodySeparator response with
  | none => rfl
  | some pos =>
      have hEnd : pos + 4 ≤ response.length := by
        obtain ⟨hPos, hAt, _⟩ := firstMatch_eq_some_iff.mp hFirst
        have hFit := hAt.length_le
        simp only [bodySeparator, List.length_cons, List.length_nil, List.length_drop] at hFit
        omega
      simp only [Option.map_some, okOr_some, ok_bind, slice_to_end hEnd, startsWithMagic_eq,
        decide_eq_true_eq]
      rfl

/-- The extracted body is what the payload reads as. -/
theorem extractHttpBody_eq_ok_iff {response : List UInt8} {text : Text} :
    extractHttpBody inflate response = .ok text ↔
      ∃ carried, payload response = some carried ∧ carried.read inflate = some text := by
  rw [extractHttpBody_eq]
  simp only [bind_eq_ok, failIf_eq_ok, okOr_eq_ok, exists_and_left, exists_const, gt_iff_lt, not_lt]
  unfold payload
  constructor
  · rintro ⟨hSize, body, hBody, hText⟩
    rw [if_pos hSize, hBody, Option.bind_some]
    split_ifs at hText ⊢ with hMagic
    · simp only [bind_eq_ok, decompressGzip_eq_ok_iff inflate hMagic, okOr_eq_ok] at hText
      obtain ⟨output, ⟨stream, hStream, hInflate, hLimit⟩, hUtf8⟩ := hText
      refine ⟨.deflate stream, by rw [hStream]; rfl, ?_⟩
      rw [Payload.read, hInflate, Option.bind_some, if_pos hLimit, hUtf8]
    · rw [okOr_eq_ok] at hText
      exact ⟨.plain text, by rw [hText]; rfl, rfl⟩
  · rintro ⟨carried, hPayload, hRead⟩
    split_ifs at hPayload with hSize
    obtain ⟨body, hBody, hPayload⟩ := Option.bind_eq_some_iff.mp hPayload
    refine ⟨hSize, body, hBody, ?_⟩
    split_ifs at hPayload ⊢ with hMagic
    · obtain ⟨stream, hStream, rfl⟩ := Option.map_eq_some_iff.mp hPayload
      obtain ⟨output, hInflate, hText⟩ := Option.bind_eq_some_iff.mp hRead
      split_ifs at hText with hLimit
      simp only [bind_eq_ok, decompressGzip_eq_ok_iff inflate hMagic, okOr_eq_ok]
      exact ⟨output, ⟨stream, hStream, hInflate, hLimit⟩, hText⟩
    · obtain ⟨plain, hText, rfl⟩ := Option.map_eq_some_iff.mp hPayload
      rw [okOr_eq_ok, hText]
      exact hRead

/-- The final slice is the only access of the gzip walk that can be out of range. -/
theorem safe_decompressGzip_iff {body : List UInt8} (hMagic : gzipMagic <+: body) :
    Safe (decompressGzip inflate body) ↔ ¬HeaderOverrun body := by
  have hSlice : ∀ start stop, Safe (slice body start stop : Exec ParseError (List UInt8)) ↔
      start ≤ stop ∧ stop ≤ body.length := by
    intro start stop
    unfold slice
    split_ifs with hRange <;> simp [Safe, hRange]
  rw [decompressGzip_eq inflate hMagic]
  simp only [safe_bind_iff, safe_failIf, safe_okOr, safe_ok, hSlice, failIf_eq_ok, true_and,
    implies_true, and_true, forall_const, HeaderOverrun, hMagic]
  by_cases hMethod : body.getD 2 0 = 8
  · simp only [hMethod, ne_eq, not_true_eq_false, not_false_eq_true, true_and, forall_const]
    omega
  · simp only [hMethod, ne_eq, not_false_eq_true, not_true_eq_false, false_implies, implies_true,
      false_and, and_false]

theorem safe_extractHttpBody_iff (response : List UInt8) :
    Safe (extractHttpBody inflate response) ↔
      ¬(response.length ≤ maxRawResponseSize ∧
        ∃ body, httpBody response = some body ∧ HeaderOverrun body) := by
  rw [extractHttpBody_eq]
  simp only [safe_bind_iff, safe_failIf, safe_okOr, failIf_eq_ok, true_and, forall_const,
    okOr_eq_ok, gt_iff_lt, not_lt, not_and, not_exists]
  refine forall_congr' fun _ => forall_congr' fun body => forall_congr' fun _ => ?_
  by_cases hMagic : gzipMagic <+: body
  · rw [if_pos hMagic, safe_bind_iff, safe_decompressGzip_iff inflate hMagic]
    simp
  · rw [if_neg hMagic]
    simp [HeaderOverrun, hMagic]

end Inflate

end SettlementOracle
