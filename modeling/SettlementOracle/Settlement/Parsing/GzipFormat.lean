import Mathlib.Data.List.GetD
import SettlementOracle.Settlement.Parsing.Response

/-! The gzip member format: which header the walk undoes, and what it makes of the
trailer. -/
namespace SettlementOracle

open Checked

/-- The low bytes of a number, the lowest first. -/
def littleEndian : Nat → Nat → List UInt8
  | 0, _ => []
  | width + 1, n => UInt8.ofNat n :: littleEndian width (n / 256)

@[simp] theorem littleEndian_length (width n : Nat) : (littleEndian width n).length = width := by
  induction width generalizing n with
  | zero => rfl
  | succ width ih => simp [littleEndian, ih]

/-- Where the walk is behind the extra field. -/
def extraEnd (flags : UInt8) (body : List UInt8) : Nat :=
  if flags &&& 0x04 ≠ 0 then 12 + ((body.getD 10 0).toNat + 256 * (body.getD 11 0).toNat) else 10

/-- Where the walk is behind a zero-terminated field. -/
def fieldEnd (flags : UInt8) (body : List UInt8) (mask : UInt8) (offset : Nat) : Nat :=
  if flags &&& mask ≠ 0 then offset + ((body.drop offset).takeWhile (· != 0)).length + 1 else offset

def checksumEnd (flags : UInt8) (offset : Nat) : Nat :=
  if flags &&& 0x02 ≠ 0 then offset + 2 else offset

theorem headerLength_eq (body : List UInt8) :
    headerLength body = checksumEnd (body.getD 3 0) (fieldEnd (body.getD 3 0) body 0x10
      (fieldEnd (body.getD 3 0) body 0x08 (extraEnd (body.getD 3 0) body))) :=
  rfl

/-- The optional fields of a member's header. `stamp` is the modification time, the
extra flags and the operating system. -/
structure GzipHeader where
  text : Bool
  stamp : List UInt8
  extra : Option (List UInt8)
  name : Option (List UInt8)
  comment : Option (List UInt8)
  checksum : Option (UInt8 × UInt8)
  stamp_length : stamp.length = 6
  extra_length : ∀ content ∈ extra, content.length < 65536
  name_zeroFree : ∀ content ∈ name, 0 ∉ content
  comment_zeroFree : ∀ content ∈ comment, 0 ∉ content

namespace GzipHeader

def flagsOf (text checksum extra name comment : Bool) : UInt8 :=
  (if text then 0x01 else 0) ||| (if checksum then 0x02 else 0) ||| (if extra then 0x04 else 0) |||
    (if name then 0x08 else 0) ||| (if comment then 0x10 else 0)

def flags (header : GzipHeader) : UInt8 :=
  flagsOf header.text header.checksum.isSome header.extra.isSome header.name.isSome
    header.comment.isSome

def fixedPart (header : GzipHeader) : List UInt8 := gzipMagic ++ [8, header.flags] ++ header.stamp

def extraField (header : GzipHeader) : List UInt8 :=
  match header.extra with
  | some content => littleEndian 2 content.length ++ content
  | none => []

/-- A field that ends with a zero byte. -/
def zeroTerminated : Option (List UInt8) → List UInt8
  | some content => content ++ [0]
  | none => []

def checksumField (header : GzipHeader) : List UInt8 :=
  match header.checksum with
  | some (low, high) => [low, high]
  | none => []

def bytes (header : GzipHeader) : List UInt8 :=
  header.fixedPart ++ header.extraField ++ zeroTerminated header.name ++
    zeroTerminated header.comment ++ header.checksumField

variable {header : GzipHeader}

theorem fixedPart_length : header.fixedPart.length = 10 := by
  simp [fixedPart, gzipMagic, header.stamp_length]

/-- Each flag announces its field. -/
theorem flagsOf_bits : ∀ text checksum extra name comment : Bool,
    (flagsOf text checksum extra name comment &&& 0x02 ≠ 0 ↔ checksum = true) ∧
      (flagsOf text checksum extra name comment &&& 0x04 ≠ 0 ↔ extra = true) ∧
      (flagsOf text checksum extra name comment &&& 0x08 ≠ 0 ↔ name = true) ∧
      (flagsOf text checksum extra name comment &&& 0x10 ≠ 0 ↔ comment = true) := by
  decide

theorem extraEnd_eq {body rest : List UInt8}
    (hBody : body = header.fixedPart ++ header.extraField ++ rest) :
    extraEnd header.flags body = (header.fixedPart ++ header.extraField).length := by
  obtain ⟨_, hFlag, _, _⟩ := flagsOf_bits header.text header.checksum.isSome header.extra.isSome
    header.name.isSome header.comment.isSome
  have hFixed := @fixedPart_length header
  have hBytes : ∀ i, body.getD (10 + i) 0 = (header.extraField ++ rest).getD i 0 := by
    intro i
    rw [hBody, List.append_assoc, List.getD_append_right _ _ _ _ (by omega), hFixed,
      Nat.add_sub_cancel_left]
  rw [extraEnd, flags, List.length_append, hFixed]
  simp only [hFlag, extraField]
  cases hExtra : header.extra with
  | none => rfl
  | some content =>
      have hLength : content.length < 65536 := header.extra_length content hExtra
      have hLow : body.getD 10 0 = UInt8.ofNat content.length := by
        simpa [extraField, hExtra, littleEndian] using hBytes 0
      have hHigh : body.getD 11 0 = UInt8.ofNat (content.length / 256) := by
        simpa [extraField, hExtra, littleEndian] using hBytes 1
      rw [hLow, hHigh, UInt8.toNat_ofNat', UInt8.toNat_ofNat', List.length_append,
        littleEndian_length]
      simp only [Option.isSome_some, if_true, Nat.reducePow]
      omega

/-- A zero-terminated field is skipped up to its end. -/
theorem fieldEnd_eq {content : Option (List UInt8)} (hZero : ∀ text ∈ content, 0 ∉ text)
    {flags mask : UInt8} (hFlag : flags &&& mask ≠ 0 ↔ content.isSome = true)
    {body front rest : List UInt8} (hBody : body = front ++ zeroTerminated content ++ rest) :
    fieldEnd flags body mask front.length = (front ++ zeroTerminated content).length := by
  simp only [fieldEnd, hFlag]
  cases content with
  | none => simp [zeroTerminated]
  | some text =>
      have hText : ∀ b ∈ text, (b != 0) = true := fun b hb => by
        simpa using fun hNull : b = 0 => hZero text rfl (hNull ▸ hb)
      rw [Option.isSome_some, if_pos rfl, hBody, List.append_assoc, List.drop_left, zeroTerminated,
        List.append_assoc, List.takeWhile_append_of_pos hText]
      simp [Nat.add_assoc]

/-- The walk stops at the end of the header. -/
theorem headerLength_bytes (header : GzipHeader) (rest : List UInt8) :
    headerLength (header.bytes ++ rest) = header.bytes.length := by
  obtain ⟨hChecksum, _, hName, hComment⟩ := flagsOf_bits header.text header.checksum.isSome
    header.extra.isSome header.name.isSome header.comment.isSome
  have hFlags : (header.bytes ++ rest).getD 3 0 = header.flags := rfl
  have hExtraEnd := @extraEnd_eq header (header.bytes ++ rest) _ (by simp [bytes]; rfl)
  have hNameEnd := @fieldEnd_eq _ header.name_zeroFree _ _ hName (header.bytes ++ rest)
    (header.fixedPart ++ header.extraField) _ (by simp [bytes]; rfl)
  have hCommentEnd := @fieldEnd_eq _ header.comment_zeroFree _ _ hComment (header.bytes ++ rest)
    (header.fixedPart ++ header.extraField ++ zeroTerminated header.name) _ (by simp [bytes]; rfl)
  have hChecksumEnd : header.bytes.length =
      (header.fixedPart ++ header.extraField ++ zeroTerminated header.name ++
        zeroTerminated header.comment).length + header.checksumField.length := by
    rw [bytes, List.length_append]
  rw [headerLength_eq, hFlags, hExtraEnd, flags, hNameEnd, hCommentEnd, hChecksumEnd]
  simp only [checksumEnd, hChecksum, checksumField]
  cases header.checksum <;> simp

end GzipHeader

section Member

variable {inflate : List UInt8 → Option (List UInt8)} {header : GzipHeader}
  {stream trailer data : List UInt8}

/-- One member: its header, the compressed data and the eight bytes of the trailer. -/
def gzipMember (header : GzipHeader) (stream trailer : List UInt8) : List UInt8 :=
  header.bytes ++ stream ++ trailer

theorem gzipMagic_prefix : gzipMagic <+: gzipMember header stream trailer :=
  ⟨8 :: header.flags :: header.stamp ++ header.extraField ++ GzipHeader.zeroTerminated header.name ++
    GzipHeader.zeroTerminated header.comment ++ header.checksumField ++ stream ++ trailer, by
      simp [gzipMember, GzipHeader.bytes, GzipHeader.fixedPart]⟩

/-- The walk cuts the compressed data out of the member. -/
theorem deflateStream_member (hTrailer : trailer.length = 8) :
    deflateStream (gzipMember header stream trailer) = some stream := by
  have hFixed : 10 ≤ header.bytes.length := by
    simp only [GzipHeader.bytes, List.length_append, GzipHeader.fixedPart_length]
    omega
  have hHeader : headerLength (gzipMember header stream trailer) = header.bytes.length := by
    rw [gzipMember, List.append_assoc]
    exact header.headerLength_bytes (stream ++ trailer)
  have hLength : (gzipMember header stream trailer).length =
      header.bytes.length + stream.length + 8 := by
    simp [gzipMember, hTrailer, Nat.add_assoc]
  have hFits : 18 ≤ (gzipMember header stream trailer).length ∧
      (gzipMember header stream trailer).getD 2 0 = 8 ∧
      headerLength (gzipMember header stream trailer) + 8 ≤
        (gzipMember header stream trailer).length :=
    ⟨by omega, rfl, by omega⟩
  have hStream : (gzipMember header stream trailer).length - 8 - header.bytes.length =
      stream.length := by omega
  rw [deflateStream, if_pos hFits, hHeader, hStream, gzipMember, List.append_assoc, List.drop_left,
    List.take_left]

theorem decompressGzip_member (hTrailer : trailer.length = 8) (hInflate : inflate stream = some data)
    (hSize : data.length ≤ maxDecompressedSize) :
    decompressGzip inflate (gzipMember header stream trailer) = .ok data :=
  (decompressGzip_eq_ok_iff inflate gzipMagic_prefix).mpr
    ⟨stream, deflateStream_member hTrailer, hInflate, hSize⟩

/-- The body starts behind the first blank line. -/
theorem httpBody_append {block : List UInt8} (body : List UInt8)
    (hBlock : ∀ before after, block ++ bodySeparator = before ++ bodySeparator ++ after →
      after = []) :
    httpBody (block ++ bodySeparator ++ body) = some body := by
  have hFirst : firstMatch bodySeparator (block ++ bodySeparator) = some block.length := by
    cases hMatch : firstMatch bodySeparator (block ++ bodySeparator) with
    | none => exact absurd (List.suffix_append _ _).isInfix (firstMatch_eq_none_iff.mp hMatch)
    | some i =>
        obtain ⟨hLength, ⟨after, hAfter⟩, _⟩ := firstMatch_eq_some_iff.mp hMatch
        have hSplit : block ++ bodySeparator =
            (block ++ bodySeparator).take i ++ bodySeparator ++ after := by
          rw [List.append_assoc, hAfter, List.take_append_drop]
        obtain rfl := hBlock _ _ hSplit
        have hCount := congrArg List.length hSplit
        simp only [List.length_append, List.length_take_of_le hLength, List.length_nil] at hCount
        exact congrArg some (by omega)
  rw [httpBody, cut_of_firstMatch rfl (firstMatch_append hFirst body)]
  rfl

theorem extractHttpBody_member {block : List UInt8} {text : Text}
    (hBlock : ∀ before after, block ++ bodySeparator = before ++ bodySeparator ++ after →
      after = [])
    (hDecompress : decompressGzip inflate (gzipMember header stream trailer) = .ok data)
    (hTotal : (block ++ bodySeparator ++ gzipMember header stream trailer).length ≤
      maxRawResponseSize)
    (hText : Text.fromUtf8 data = some text) :
    extractHttpBody inflate (block ++ bodySeparator ++ gzipMember header stream trailer) =
      .ok text := by
  rw [extractHttpBody_eq, failIf_neg _ (Nat.not_lt.mpr hTotal), ok_bind,
    httpBody_append _ hBlock, okOr_some, ok_bind, if_pos gzipMagic_prefix, hDecompress, ok_bind,
    hText, okOr_some]

/-- A member of any header is decoded to the data it was made from, alone and behind
the header block of a response. -/
theorem gzip_decodes {deflates : List UInt8 → List UInt8 → Prop}
    (hInflates : ∀ stream data, deflates stream data → inflate stream = some data)
    (hStream : deflates stream data) (hSize : data.length ≤ 10 * 1024 * 1024)
    (header : GzipHeader) (hTrailer : trailer.length = 8) :
    decompressGzip inflate (gzipMember header stream trailer) = .ok data ∧
      ∀ block text,
        (∀ before after, block ++ bodySeparator = before ++ bodySeparator ++ after → after = []) →
        (block ++ bodySeparator ++ gzipMember header stream trailer).length ≤ 50 * 1024 * 1024 →
        Text.fromUtf8 data = some text →
          extractHttpBody inflate (block ++ bodySeparator ++ gzipMember header stream trailer) =
            .ok text := by
  have hDecompress : decompressGzip inflate (gzipMember header stream trailer) = .ok data :=
    decompressGzip_member hTrailer (hInflates stream data hStream) hSize
  exact ⟨hDecompress, fun block text hBlock hTotal hText =>
    extractHttpBody_member hBlock hDecompress hTotal hText⟩

end Member

section Trailer

variable {inflate : List UInt8 → Option (List UInt8)} {bytes front trailer data : List UInt8}

theorem gzipMagic_of_ok (h : decompressGzip inflate bytes = .ok data) : gzipMagic <+: bytes := by
  unfold decompressGzip at h
  simp only [bind_eq_ok, failIf_eq_ok, exists_and_left, exists_const, not_not, ne_eq] at h
  obtain ⟨hLength, first, hFirst, rfl, second, hSecond, rfl, _⟩ := h
  rcases bytes with _ | ⟨first, _ | ⟨second, rest⟩⟩
  · cases hFirst
  · cases hSecond
  · obtain rfl : first = 0x1f := Except.ok.inj hFirst
    obtain rfl : second = 0x8b := Except.ok.inj hSecond
    exact ⟨rest, rfl⟩

/-- A scan that ends inside the front does not see what is behind it. -/
theorem fieldEnd_front {flags mask : UInt8} {offset : Nat}
    (h : fieldEnd flags (front ++ trailer) mask offset ≤ front.length ∨
      fieldEnd flags front mask offset ≤ front.length) :
    fieldEnd flags (front ++ trailer) mask offset = fieldEnd flags front mask offset := by
  unfold fieldEnd at h ⊢
  split_ifs at h ⊢
  · have hOffset : offset ≤ front.length := by omega
    rw [List.drop_append_of_le_length hOffset, List.takeWhile_append] at h ⊢
    split_ifs at h ⊢ with hAll
    · simp only [List.length_append, List.length_drop] at h hAll
      omega
    · rfl
  · rfl

theorem le_fieldEnd (flags mask : UInt8) (body : List UInt8) (offset : Nat) :
    offset ≤ fieldEnd flags body mask offset := by
  unfold fieldEnd
  split_ifs <;> omega

theorem extraEnd_front {flags : UInt8}
    (h : extraEnd flags (front ++ trailer) ≤ front.length ∨ extraEnd flags front ≤ front.length) :
    extraEnd flags (front ++ trailer) = extraEnd flags front := by
  unfold extraEnd at h ⊢
  split_ifs at h ⊢
  · rw [List.getD_append _ _ _ _ (by omega), List.getD_append _ _ _ _ (by omega)]
  · rfl

theorem le_extraEnd (flags : UInt8) (body : List UInt8) : 10 ≤ extraEnd flags body := by
  unfold extraEnd
  split_ifs <;> omega

theorem le_checksumEnd (flags : UInt8) (offset : Nat) : offset ≤ checksumEnd flags offset := by
  unfold checksumEnd
  split_ifs <;> omega

/-- The positions of the walk are ordered. -/
theorem walk_le_headerLength (body : List UInt8) :
    fieldEnd (body.getD 3 0) body 0x10
        (fieldEnd (body.getD 3 0) body 0x08 (extraEnd (body.getD 3 0) body)) ≤ headerLength body ∧
      fieldEnd (body.getD 3 0) body 0x08 (extraEnd (body.getD 3 0) body) ≤ headerLength body ∧
      extraEnd (body.getD 3 0) body ≤ headerLength body ∧ 10 ≤ headerLength body := by
  have hComment := le_checksumEnd (body.getD 3 0) (fieldEnd (body.getD 3 0) body 0x10
    (fieldEnd (body.getD 3 0) body 0x08 (extraEnd (body.getD 3 0) body)))
  have hName := le_fieldEnd (body.getD 3 0) 0x10 body
    (fieldEnd (body.getD 3 0) body 0x08 (extraEnd (body.getD 3 0) body))
  have hExtra := le_fieldEnd (body.getD 3 0) 0x08 body (extraEnd (body.getD 3 0) body)
  have hFixed := le_extraEnd (body.getD 3 0) body
  rw [headerLength_eq]
  omega

/-- A header that ends inside the front is read from the front alone. -/
theorem headerLength_front
    (h : headerLength (front ++ trailer) ≤ front.length ∨ headerLength front ≤ front.length) :
    headerLength (front ++ trailer) = headerLength front := by
  obtain ⟨hComment, hName, hExtra, hFixed⟩ := walk_le_headerLength (front ++ trailer)
  obtain ⟨hComment', hName', hExtra', hFixed'⟩ := walk_le_headerLength front
  have hFlags : (front ++ trailer).getD 3 0 = front.getD 3 0 :=
    List.getD_append _ _ _ _ (by omega)
  rw [hFlags] at hComment hName hExtra
  have hExtraSame : extraEnd (front.getD 3 0) (front ++ trailer) = extraEnd (front.getD 3 0) front :=
    extraEnd_front (by omega)
  rw [hExtraSame] at hComment hName
  have hNameSame : fieldEnd (front.getD 3 0) (front ++ trailer) 0x08
      (extraEnd (front.getD 3 0) front) =
        fieldEnd (front.getD 3 0) front 0x08 (extraEnd (front.getD 3 0) front) :=
    fieldEnd_front (by omega)
  rw [hNameSame] at hComment
  rw [headerLength_eq, headerLength_eq, hFlags, hExtraSame, hNameSame, fieldEnd_front (by omega)]

/-- Which stream is inflated does not depend on the last eight bytes. -/
theorem deflateStream_front (hTrailer : trailer.length = 8) :
    deflateStream (front ++ trailer) =
      if 10 ≤ front.length ∧ front.getD 2 0 = 8 ∧ headerLength front ≤ front.length then
        some (front.drop (headerLength front)) else none := by
  have hLength : (front ++ trailer).length = front.length + 8 := by
    rw [List.length_append, hTrailer]
  unfold deflateStream
  rw [hLength]
  split_ifs with hFits hFront hFront
  · obtain ⟨_, _, hEnd⟩ := hFront
    rw [headerLength_front (Or.inr hEnd), List.drop_append_of_le_length hEnd,
      List.take_append_of_le_length (by simp), List.take_of_length_le (by simp)]
  · obtain ⟨hLong, hMethod, hEnd⟩ := hFits
    have hSame : headerLength (front ++ trailer) = headerLength front :=
      headerLength_front (Or.inl (by omega))
    rw [List.getD_append _ _ _ _ (by omega)] at hMethod
    exact absurd ⟨by omega, hMethod, by omega⟩ hFront
  · obtain ⟨hLong, hMethod, hEnd⟩ := hFront
    have hSame : headerLength (front ++ trailer) = headerLength front :=
      headerLength_front (Or.inr hEnd)
    rw [List.getD_append _ _ _ _ (by omega)] at hFits
    exact absurd ⟨by omega, hMethod, by omega⟩ hFits
  · rfl

/-- Accepted data is what the bytes between header and trailer inflate to. The
trailer is not looked at. -/
theorem decompressGzip_trailer_ignored (h : decompressGzip inflate bytes = .ok data) :
    ∃ front trailer, bytes = front ++ trailer ∧ trailer.length = 8 ∧
      headerLength front ≤ front.length ∧ inflate (front.drop (headerLength front)) = some data ∧
      data.length ≤ 10 * 1024 * 1024 ∧
      ∀ other, other.length = 8 → decompressGzip inflate (front ++ other) = .ok data := by
  have hMagic := gzipMagic_of_ok h
  obtain ⟨stream, hStream, hInflate, hSize⟩ := (decompressGzip_eq_ok_iff inflate hMagic).mp h
  have hLong : 18 ≤ bytes.length := by
    unfold deflateStream at hStream
    split_ifs at hStream with hFits
    exact hFits.1
  obtain ⟨front, trailer, rfl, hTrailer⟩ : ∃ front trailer, bytes = front ++ trailer ∧
      trailer.length = 8 :=
    ⟨bytes.take (bytes.length - 8), bytes.drop (bytes.length - 8),
      (List.take_append_drop _ _).symm, by rw [List.length_drop]; omega⟩
  have hFrontMagic : gzipMagic <+: front := by
    refine List.prefix_of_prefix_length_le hMagic (List.prefix_append _ _) ?_
    rw [List.length_append] at hLong
    exact Nat.le_trans (by decide : gzipMagic.length ≤ 10) (by omega)
  have hOthers : ∀ other, other.length = 8 → decompressGzip inflate (front ++ other) = .ok data := by
    intro other hOther
    refine (decompressGzip_eq_ok_iff inflate (hFrontMagic.trans (List.prefix_append _ _))).mpr
      ⟨stream, ?_, hInflate, hSize⟩
    rw [deflateStream_front hOther, ← deflateStream_front hTrailer, hStream]
  rw [deflateStream_front hTrailer] at hStream
  split_ifs at hStream with hFits
  obtain rfl := Option.some.inj hStream
  exact ⟨front, trailer, rfl, hTrailer, hFits.2.2, hInflate, hSize, hOthers⟩

/-- One round of the checksum's shift register. -/
def crcStep (register : UInt32) : UInt32 :=
  if register &&& 1 ≠ 0 then (register >>> 1) ^^^ 0xEDB88320 else register >>> 1

def crcByte (register : UInt32) (byte : UInt8) : UInt32 :=
  Nat.iterate crcStep 8 (register ^^^ byte.toUInt32)

def crc32 (data : List UInt8) : UInt32 := data.foldl crcByte 0xFFFFFFFF ^^^ 0xFFFFFFFF

/-- The trailer that the format asks for. -/
def gzipTrailer (data : List UInt8) : List UInt8 :=
  littleEndian 4 (crc32 data).toNat ++ littleEndian 4 data.length

/-- Only data that its trailer vouches for is accepted. -/
def IntegrityLaw (inflate : List UInt8 → Option (List UInt8)) (bytes : List UInt8) : Prop :=
  ∀ data, decompressGzip inflate bytes = .ok data →
    bytes.drop (bytes.length - 8) = gzipTrailer data

end Trailer

section Stored

/-- Data in one stored block, which deflate copies as it stands. -/
def stored (data : List UInt8) : List UInt8 :=
  1 :: littleEndian 2 data.length ++ (littleEndian 2 data.length).map (~~~·) ++ data

def inflateStored : List UInt8 → Option (List UInt8)
  | final :: low :: high :: low' :: high' :: data =>
      if final = 1 ∧ low' = ~~~low ∧ high' = ~~~high ∧
          data.length = low.toNat + 256 * high.toNat then
        some data
      else none
  | _ => none

theorem inflateStored_stored {data : List UInt8} (h : data.length < 65536) :
    inflateStored (stored data) = some data := by
  refine if_pos ⟨rfl, rfl, rfl, ?_⟩
  change data.length = _
  rw [UInt8.toNat_ofNat', UInt8.toNat_ofNat']
  omega

/-- A header with every field. -/
def fullHeader : GzipHeader where
  text := true
  stamp := [0, 0, 0, 0, 0, 3]
  extra := some [0x41, 0x70, 0, 0]
  name := some [0x61]
  comment := some []
  checksum := some (0x12, 0x34)
  stamp_length := rfl
  extra_length := by simp
  name_zeroFree := by simp
  comment_zeroFree := by simp

/-- The word "hi" in a member with the given trailer. -/
def greetingMember (trailer : List UInt8) : List UInt8 :=
  gzipMember fullHeader (stored [0x68, 0x69]) trailer

theorem gzip_decodes_stored :
    decompressGzip inflateStored (greetingMember (gzipTrailer [0x68, 0x69])) = .ok [0x68, 0x69] ∧
      extractHttpBody inflateStored
          ([0x4f, 0x4b] ++ bodySeparator ++ greetingMember (gzipTrailer [0x68, 0x69])) =
        .ok ⟨[0x68, 0x69], rfl⟩ := by
  obtain ⟨hMember, hResponse⟩ := @gzip_decodes inflateStored (stored [0x68, 0x69])
    (gzipTrailer [0x68, 0x69]) [0x68, 0x69]
    (fun stream data => data.length < 65536 ∧ stream = stored data)
    (fun stream data hStored => hStored.2 ▸ inflateStored_stored hStored.1)
    ⟨by decide, rfl⟩ (by decide) fullHeader (by simp [gzipTrailer])
  refine ⟨hMember, hResponse [0x4f, 0x4b] _ ?_ (by decide) rfl⟩
  intro before after hSplit
  rcases before with _ | ⟨first, _ | ⟨second, rest⟩⟩
  · exact absurd (List.cons.inj hSplit).1 (by decide)
  · exact absurd (List.cons.inj (List.cons.inj hSplit).2).1 (by decide)
  · have hLength := congrArg List.length hSplit
    simp only [List.length_append, List.length_cons, List.length_nil] at hLength
    exact List.eq_nil_of_length_eq_zero (by omega)

theorem decompressGzip_greetingMember {trailer : List UInt8} (hTrailer : trailer.length = 8) :
    decompressGzip inflateStored (greetingMember trailer) = .ok [0x68, 0x69] :=
  decompressGzip_member hTrailer (inflateStored_stored (by decide)) (by decide)

theorem trailer_ignored_greeting :
    ∃ front trailer, greetingMember (gzipTrailer [0x68, 0x69]) = front ++ trailer ∧
      trailer.length = 8 ∧ inflateStored (front.drop (headerLength front)) = some [0x68, 0x69] ∧
      ∀ other, other.length = 8 →
        decompressGzip inflateStored (front ++ other) = .ok [0x68, 0x69] := by
  obtain ⟨front, trailer, hBytes, hTrailer, _, hInflate, _, hOthers⟩ :=
    decompressGzip_trailer_ignored
      (@decompressGzip_greetingMember (gzipTrailer [0x68, 0x69]) (by simp [gzipTrailer]))
  exact ⟨front, trailer, hBytes, hTrailer, hInflate, hOthers⟩

/-- Zero bytes in place of the trailer are accepted as well. -/
theorem not_integrityLaw_blanked :
    ¬IntegrityLaw inflateStored (greetingMember (List.replicate 8 0)) := by
  intro hLaw
  have hTrailer := hLaw [0x68, 0x69] (decompressGzip_greetingMember (by decide))
  exact absurd hTrailer (by decide +kernel)

end Stored

end SettlementOracle
