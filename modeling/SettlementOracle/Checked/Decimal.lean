import SettlementOracle.Checked.Execution
import Mathlib.Data.List.TakeWhile
import Mathlib.Data.List.Infix
import Mathlib.Data.Nat.Digits.Defs

/-! Decimal digits in byte strings. Accumulation in a `u64` is checked after
each digit; the lemmas replace the running check by one bound on the value. -/
namespace Checked

variable {ε α : Type}

def isAsciiDigit (b : UInt8) : Bool := 48 ≤ b && b ≤ 57

def checkedMul (a b : UInt64) : Option UInt64 :=
  if a.toNat * b.toNat < UInt64.size then some (a * b) else none

def checkedAdd (a b : UInt64) : Option UInt64 :=
  if a.toNat + b.toNat < UInt64.size then some (a + b) else none

def pushDigit (acc digit : UInt64) : Option UInt64 :=
  (checkedMul acc 10).bind fun n => checkedAdd n digit

def pushDigits (acc : UInt64) : List UInt64 → Option UInt64
  | [] => some acc
  | digit :: rest => (pushDigit acc digit).bind fun next => pushDigits next rest

def byteDigit (b : UInt8) : UInt64 := (b - 48).toUInt64

/-- The value of a run of digits, continued from a value already read. -/
def decimalFrom (acc : Nat) (run : List UInt8) : Nat :=
  run.foldl (fun value b => 10 * value + (byteDigit b).toNat) acc

abbrev decimalValue (run : List UInt8) : Nat := decimalFrom 0 run

/-- The maximal run of digits at the start of the text. -/
abbrev leadingDigits (text : List UInt8) : List UInt8 := text.takeWhile isAsciiDigit

/-- The positional value of a run of digits. The last digit counts the units. -/
def numeral (run : List UInt8) : Nat := Nat.ofDigits 10 (run.reverse.map fun b => b.toNat - 48)

/-- The text starts with a run of elements that satisfy the predicate, and the
element behind the run does not. -/
structure MaximalRun (p : α → Bool) (text run rest : List α) : Prop where
  split : text = run ++ rest
  holds : ∀ a ∈ run, p a = true
  maximal : ∀ a ∈ rest.head?, p a = false

/-- The text starts with a maximal run of `low` to `high` digits that spells `value`. -/
structure DecimalRun (low high : Nat) (text run rest : List UInt8) (value : Nat) : Prop
    extends MaximalRun isAsciiDigit text run rest where
  long : low ≤ run.length
  short : run.length ≤ high
  spells : numeral run = value

/-- The canonical decimal spelling, with no leading zero. -/
def decimalDigits (n : Nat) : List UInt8 := (Nat.toDigits 10 n).map fun c => c.toNat.toUInt8

/-- Advance while the byte satisfies the predicate. The first argument counts
the positions left before the end of the data. -/
def skipWhile (p : UInt8 → Bool) (data : List UInt8) : Nat → Nat → Exec ε Nat
  | 0, i => .ok i
  | left + 1, i => do
      let b ← index data i
      if p b then skipWhile p data left (i + 1) else .ok i

/-- Read a maximal run of digits. The result is the value, the number of
digits and the next position, or nothing once a digit overflows or exceeds the
allowed count. -/
def scanDecimal (maxDigits : Nat) (data : List UInt8) :
    Nat → Nat → UInt64 → Nat → Exec ε (Option (UInt64 × Nat × Nat))
  | 0, i, acc, count => .ok (some (acc, count, i))
  | left + 1, i, acc, count => do
      let b ← index data i
      if isAsciiDigit b then
        if count + 1 > maxDigits then .ok none
        else match pushDigit acc (byteDigit b) with
          | none => .ok none
          | some next => scanDecimal maxDigits data left (i + 1) next (count + 1)
      else .ok (some (acc, count, i))

/-- `str::parse::<u64>`: an optional plus sign, then at least one digit. -/
def parseU64 (text : String) : Option UInt64 :=
  let digits := match text.toList with
    | '+' :: rest => rest
    | chars => chars
  if digits ≠ [] ∧ digits.all Char.isDigit = true then
    pushDigits 0 (digits.map fun c => UInt64.ofNat (c.toNat - 48))
  else none

theorem ofNat_eq_iff {value : Nat} (h : value < UInt64.size) (n : UInt64) :
    UInt64.ofNat value = n ↔ value = n.toNat := by
  rw [← UInt64.toNat_inj, UInt64.toNat_ofNat_of_lt' h]

theorem pushDigit_eq (acc digit : UInt64) :
    pushDigit acc digit =
      if 10 * acc.toNat + digit.toNat < UInt64.size then
        some (UInt64.ofNat (10 * acc.toNat + digit.toNat))
      else none := by
  have hTen : (10 : UInt64).toNat = 10 := rfl
  unfold pushDigit checkedMul
  by_cases hMul : acc.toNat * (10 : UInt64).toNat < UInt64.size
  · have hProduct : (acc * 10).toNat = 10 * acc.toNat := by
      rw [UInt64.toNat_mul, Nat.mod_eq_of_lt hMul, hTen, Nat.mul_comm]
    rw [if_pos hMul, Option.bind_some, checkedAdd, hProduct]
    refine if_congr Iff.rfl (congrArg some ?_) rfl
    rw [← hProduct, ← UInt64.toNat_inj, UInt64.toNat_add]
    simp
  · rw [hTen] at hMul
    rw [if_neg (by rwa [hTen]), Option.bind_none, if_neg (by omega)]

theorem pushDigits_eq (acc : UInt64) (digits : List UInt64) :
    pushDigits acc digits =
      if digits.foldl (fun value d => 10 * value + d.toNat) acc.toNat < UInt64.size then
        some (UInt64.ofNat (digits.foldl (fun value d => 10 * value + d.toNat) acc.toNat))
      else none := by
  induction digits generalizing acc with
  | nil => simp [pushDigits, acc.toNat_lt]
  | cons digit rest ih =>
      rw [pushDigits, pushDigit_eq, List.foldl_cons]
      by_cases hFit : 10 * acc.toNat + digit.toNat < UInt64.size
      · rw [if_pos hFit, Option.bind_some, ih, UInt64.toNat_ofNat_of_lt' hFit]
      · have hGrow : ∀ (ds : List UInt64) (value : Nat),
            value ≤ ds.foldl (fun value d => 10 * value + d.toNat) value := by
          intro ds
          induction ds with
          | nil => simp
          | cons d ds ihDigits =>
              intro value
              exact le_trans (by omega) (ihDigits (10 * value + d.toNat))
        have hLarge := hGrow rest (10 * acc.toNat + digit.toNat)
        rw [if_neg hFit, Option.bind_none, if_neg (by omega)]

theorem pushDigits_bytes (run : List UInt8) :
    pushDigits 0 (run.map byteDigit) =
      if decimalValue run < UInt64.size then some (UInt64.ofNat (decimalValue run)) else none := by
  rw [pushDigits_eq, List.foldl_map]
  rfl

theorem skipWhile_eq (p : UInt8 → Bool) (data : List UInt8) (i : Nat) :
    (skipWhile p data (data.length - i) i : Exec ε Nat) =
      .ok (i + ((data.drop i).takeWhile p).length) := by
  generalize hLeft : data.length - i = left
  induction left generalizing i with
  | zero => simp [skipWhile, List.drop_eq_nil_of_le (by omega : data.length ≤ i)]
  | succ left ih =>
      have hi : i < data.length := by omega
      rw [skipWhile, index_of_lt hi, ok_bind, List.drop_eq_getElem_cons hi, ih (i + 1) (by omega)]
      by_cases hp : p data[i]
      · rw [if_pos hp, List.takeWhile_cons_of_pos hp, List.length_cons]
        congr 1
        omega
      · rw [if_neg hp, List.takeWhile_cons_of_neg hp]
        rfl

theorem scanDecimal_eq (maxDigits : Nat) (data : List UInt8) (i : Nat) (acc : UInt64) (count : Nat)
    (hCount : count ≤ maxDigits) :
    (scanDecimal maxDigits data (data.length - i) i acc count :
        Exec ε (Option (UInt64 × Nat × Nat))) =
      .ok (if count + (leadingDigits (data.drop i)).length ≤ maxDigits then
          (pushDigits acc ((leadingDigits (data.drop i)).map byteDigit)).map fun value =>
            (value, count + (leadingDigits (data.drop i)).length,
              i + (leadingDigits (data.drop i)).length)
        else none) := by
  unfold leadingDigits
  generalize hLeft : data.length - i = left
  induction left generalizing i acc count with
  | zero => simp [scanDecimal, List.drop_eq_nil_of_le (by omega : data.length ≤ i), hCount, pushDigits]
  | succ left ih =>
      have hi : i < data.length := by omega
      rw [scanDecimal, index_of_lt hi, ok_bind, List.drop_eq_getElem_cons hi]
      by_cases hDigit : isAsciiDigit data[i]
      · rw [if_pos hDigit, List.takeWhile_cons_of_pos hDigit]
        simp only [List.length_cons, List.map_cons, pushDigits]
        by_cases hMore : count + 1 > maxDigits
        · rw [if_pos hMore, if_neg (by omega)]
        · rw [if_neg hMore]
          cases hPush : pushDigit acc (byteDigit data[i]) with
          | none => simp
          | some next =>
              simp only [Option.bind_some]
              rw [ih (i + 1) next (count + 1) (by omega) (by omega)]
              simp only [Nat.add_assoc, Nat.add_comm 1]
      · rw [if_neg hDigit, List.takeWhile_cons_of_neg hDigit]
        simp [hCount, pushDigits]

theorem byteDigit_toNat {b : UInt8} (h : isAsciiDigit b = true) :
    (byteDigit b).toNat = b.toNat - 48 ∧ (byteDigit b).toNat < 10 := by
  simp only [isAsciiDigit, Bool.and_eq_true, decide_eq_true_eq, UInt8.le_iff_toNat_le] at h
  have hLow : (48 : UInt8).toNat = 48 := rfl
  have hHigh : (57 : UInt8).toNat = 57 := rfl
  have hSub : (b - 48).toNat = b.toNat - 48 :=
    UInt8.toNat_sub_of_le _ _ (UInt8.le_iff_toNat_le.mpr h.1)
  rw [byteDigit, UInt8.toNat_toUInt64, hSub]
  omega

theorem decimalFrom_append_digit (acc : Nat) (run : List UInt8) (b : UInt8) :
    decimalFrom acc (run ++ [b]) = 10 * decimalFrom acc run + (byteDigit b).toNat := by
  simp [decimalFrom, List.foldl_append]

theorem decimalValue_lt {run : List UInt8} (h : ∀ b ∈ run, isAsciiDigit b = true) :
    decimalValue run < Nat.pow 10 run.length := by
  induction run using List.reverseRecOn with
  | nil => simp [decimalFrom]
  | append_singleton run d ih =>
      have hDigit := (byteDigit_toNat (h d (by simp))).2
      have hRun := ih fun b hb => h b (by simp [hb])
      unfold decimalValue at hRun ⊢
      rw [decimalFrom_append_digit, List.length_append, List.length_singleton]
      show _ < Nat.pow 10 run.length * 10
      omega

/-- Accumulation from the left gives the positional value. -/
theorem decimalValue_eq_numeral {run : List UInt8} (h : ∀ b ∈ run, isAsciiDigit b = true) :
    decimalValue run = numeral run := by
  induction run using List.reverseRecOn with
  | nil => rfl
  | append_singleton run d ih =>
      have hRun := ih fun b hb => h b (by simp [hb])
      have hDigit := (byteDigit_toNat (h d (by simp))).1
      unfold decimalValue numeral at hRun ⊢
      rw [decimalFrom_append_digit, hRun, hDigit, List.reverse_append, List.reverse_singleton,
        List.singleton_append, List.map_cons, Nat.ofDigits_cons, Nat.add_comm]

theorem maximalRun_takeWhile (p : α → Bool) (text : List α) :
    MaximalRun p text (text.takeWhile p) (text.dropWhile p) := by
  refine ⟨List.takeWhile_append_dropWhile.symm, fun a => List.mem_takeWhile_imp, ?_⟩
  intro a ha
  have hStop := List.head?_dropWhile_not p text
  rw [Option.mem_def.mp ha] at hStop
  exact hStop

theorem maximalRun_iff {p : α → Bool} {text run rest : List α} :
    MaximalRun p text run rest ↔ run = text.takeWhile p ∧ rest = text.dropWhile p := by
  constructor
  · rintro ⟨rfl, hRun, hRest⟩
    rw [List.takeWhile_append_of_pos hRun, List.dropWhile_append_of_pos hRun]
    cases rest with
    | nil => simp
    | cons a rest =>
        have hStop : ¬p a = true := by simpa using hRest a rfl
        rw [List.takeWhile_cons_of_neg hStop, List.dropWhile_cons_of_neg hStop, List.append_nil]
        exact ⟨rfl, rfl⟩
  · rintro ⟨rfl, rfl⟩
    exact maximalRun_takeWhile p text

theorem decimalRun_iff {low high value : Nat} {text run rest : List UInt8} :
    DecimalRun low high text run rest value ↔
      run = leadingDigits text ∧ rest = text.dropWhile isAsciiDigit ∧ low ≤ run.length ∧
        run.length ≤ high ∧ decimalValue run = value := by
  constructor
  · rintro ⟨hRun, hLong, hShort, hSpells⟩
    obtain ⟨hLead, hRest⟩ := maximalRun_iff.mp hRun
    exact ⟨hLead, hRest, hLong, hShort, (decimalValue_eq_numeral hRun.holds).trans hSpells⟩
  · rintro ⟨hLead, hRest, hLong, hShort, hValue⟩
    have hRun := maximalRun_iff.mpr ⟨hLead, hRest⟩
    exact ⟨hRun, hLong, hShort, (decimalValue_eq_numeral hRun.holds).symm.trans hValue⟩

/-- The byte spelled by the character of a digit's own value. -/
theorem digitChar_byteDigit {b : UInt8} (h : isAsciiDigit b = true) :
    (Nat.digitChar (byteDigit b).toNat).toNat.toUInt8 = b := by
  obtain ⟨hValue, hSmall⟩ := byteDigit_toNat h
  have hLow : 48 ≤ b.toNat := by
    simp only [isAsciiDigit, Bool.and_eq_true, decide_eq_true_eq, UInt8.le_iff_toNat_le] at h
    exact h.1
  rw [Nat.toNat_digitChar_of_lt_ten hSmall, hValue, ← UInt8.toNat_inj]
  have := b.toNat_lt
  simp only [Nat.toUInt8_eq, UInt8.toNat_ofNat']
  omega

theorem decimalValue_pos {run : List UInt8} {b : UInt8} (h : isAsciiDigit b = true) (hZero : b ≠ 48) :
    0 < decimalValue (b :: run) := by
  have hPositive : 0 < (byteDigit b).toNat := by
    obtain ⟨hValue, _⟩ := byteDigit_toNat h
    have hne : b.toNat ≠ 48 := fun he => hZero (UInt8.toNat_inj.mp he)
    simp only [isAsciiDigit, Bool.and_eq_true, decide_eq_true_eq, UInt8.le_iff_toNat_le] at h
    have := h.1
    have hLow : (48 : UInt8).toNat = 48 := rfl
    omega
  induction run using List.reverseRecOn with
  | nil => simpa [decimalFrom] using hPositive
  | append_singleton run d ih =>
      unfold decimalValue at ih ⊢
      rw [← List.cons_append, decimalFrom_append_digit]
      omega

/-- A run of digits without a leading zero is the canonical spelling of its value. -/
theorem decimalDigits_decimalValue {run : List UInt8} (hRun : run ≠ [])
    (hDigits : ∀ b ∈ run, isAsciiDigit b = true) (hZero : run.head? ≠ some 48) :
    decimalDigits (decimalValue run) = run := by
  induction run using List.reverseRecOn with
  | nil => exact absurd rfl hRun
  | append_singleton run d ih =>
      have hd : isAsciiDigit d = true := hDigits d (by simp)
      obtain ⟨_, hSmall⟩ := byteDigit_toNat hd
      cases run with
      | nil =>
          have hValue : decimalValue [d] = (byteDigit d).toNat := by simp [decimalFrom]
          rw [List.nil_append, decimalDigits, hValue, Nat.toDigits_of_lt_base hSmall]
          simp only [List.map_cons, List.map_nil, digitChar_byteDigit hd]
      | cons b run =>
          have hb : isAsciiDigit b = true := hDigits b (by simp)
          have hPositive : 0 < decimalFrom 0 (b :: run) := decimalValue_pos hb (by simpa using hZero)
          rw [decimalDigits, decimalValue, decimalFrom_append_digit,
            Nat.toDigits_of_base_le (by omega) (by omega)]
          rw [Nat.mul_add_div (by omega), Nat.div_eq_of_lt hSmall, Nat.add_zero, Nat.mul_add_mod,
            Nat.mod_eq_of_lt hSmall, List.map_append]
          congr 1
          · exact ih (by simp) (fun c hc => hDigits c (by simp at hc ⊢; tauto)) (by simpa using hZero)
          · simp only [List.map_cons, List.map_nil, digitChar_byteDigit hd]

theorem isAsciiDigit_of_mem_decimalDigits {n : Nat} {b : UInt8} (h : b ∈ decimalDigits n) :
    isAsciiDigit b = true := by
  obtain ⟨c, hc, rfl⟩ := List.mem_map.mp h
  have hDigit := Nat.isDigit_of_mem_toDigits (by decide) (by decide) hc
  simp only [Char.isDigit, Bool.and_eq_true, decide_eq_true_eq, UInt32.le_iff_toNat_le] at hDigit
  have hLow : 48 ≤ c.toNat := hDigit.1
  have hHigh : c.toNat ≤ 57 := hDigit.2
  simp only [isAsciiDigit, Bool.and_eq_true, decide_eq_true_eq, UInt8.le_iff_toNat_le,
    Nat.toUInt8_eq, UInt8.toNat_ofNat', UInt8.toNat_ofNat]
  omega

theorem length_decimalDigits_le {run : List UInt8} (hRun : run ≠ [])
    (hDigits : ∀ b ∈ run, isAsciiDigit b = true) :
    (decimalDigits (decimalValue run)).length ≤ run.length := by
  induction run with
  | nil => exact absurd rfl hRun
  | cons b rest ih =>
      by_cases hb : b = 48
      · subst hb
        have hValue : decimalValue (48 :: rest) = decimalValue rest := rfl
        by_cases hRest : rest = []
        · subst hRest
          decide
        · have hLess := ih hRest fun b hb => hDigits b (List.mem_cons_of_mem _ hb)
          rw [hValue, List.length_cons]
          omega
      · rw [decimalDigits_decimalValue hRun hDigits (by simpa using hb)]

/-- A run of several digits is the decimal notation of its value exactly when it
has no leading zero. -/
theorem decimalDigits_eq_self_iff {run : List UInt8} (hLong : 2 ≤ run.length)
    (hDigits : ∀ b ∈ run, isAsciiDigit b = true) :
    decimalDigits (decimalValue run) = run ↔ run.head? ≠ some 48 := by
  have hRun : run ≠ [] := by
    rintro rfl
    simp at hLong
  refine ⟨fun h hZero => ?_, decimalDigits_decimalValue hRun hDigits⟩
  obtain ⟨rest, rfl⟩ := List.head?_eq_some_iff.mp hZero
  have hRest : rest ≠ [] := by
    rintro rfl
    simp at hLong
  have hValue : decimalValue (48 :: rest) = decimalValue rest := rfl
  have hLess := length_decimalDigits_le hRest fun b hb => hDigits b (List.mem_cons_of_mem _ hb)
  rw [← hValue, h, List.length_cons] at hLess
  omega

end Checked
