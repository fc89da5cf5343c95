import SettlementOracle.Checked.Execution
import Mathlib.Data.List.Infix
import Mathlib.Order.Bounds.Defs

/-! First occurrences of a pattern in a list. `firstMatch` is the specification;
`scanWindows` is the checked loop that compares one slice per position. -/
namespace Checked

variable {ε α : Type} [DecidableEq α]

/-- The least index at which the pattern stands. -/
def firstMatch (pattern : List α) : List α → Option Nat
  | [] => if pattern = [] then some 0 else none
  | x :: rest =>
      if pattern <+: x :: rest then some 0 else (firstMatch pattern rest).map (· + 1)

/-- The text before and after the first occurrence. -/
def cut (pattern data : List α) : Option (List α × List α) :=
  (firstMatch pattern data).map fun i => (data.take i, data.drop (i + pattern.length))

/-- The text before and after the last occurrence of one element. -/
def rsplitOn (separator : α) : List α → Option (List α × List α)
  | [] => none
  | x :: rest =>
      match rsplitOn separator rest with
      | some (before, after) => some (x :: before, after)
      | none => if x = separator then some ([], rest) else none

/-- The pattern stands behind the first `i` elements. -/
def OccursAt (pattern data : List α) (i : Nat) : Prop :=
  ∃ before after, data = before ++ pattern ++ after ∧ before.length = i

/-- The first occurrence of the pattern stands between `before` and `after`. -/
structure FirstOccurrence (pattern data before after : List α) : Prop where
  split : data = before ++ pattern ++ after
  least : IsLeast {i | OccursAt pattern data i} before.length

/-- Compare one window with the pattern, if the window fits. -/
def matchesAt (data pattern : List α) (i : Nat) : Exec ε Bool :=
  if i + pattern.length ≤ data.length then do
    let window ← slice data i (i + pattern.length)
    .ok (window == pattern)
  else .ok false

/-- Compare the pattern with `count` consecutive windows from position `i` on. -/
def scanWindows (data pattern : List α) : Nat → Nat → Exec ε (Option Nat)
  | 0, _ => .ok none
  | count + 1, i => do
      let window ← slice data i (i + pattern.length)
      if window = pattern then .ok (some i) else scanWindows data pattern count (i + 1)

omit [DecidableEq α] in
theorem drop_takeWhile_length (p : α → Bool) (data : List α) :
    data.drop (data.takeWhile p).length = data.dropWhile p := by
  induction data with
  | nil => rfl
  | cons x rest ih => by_cases hx : p x <;> simp [hx, ih]

section LastOccurrence

variable {separator : α} {data before after : List α}

theorem rsplitOn_eq_none_iff : rsplitOn separator data = none ↔ separator ∉ data := by
  induction data with
  | nil => simp [rsplitOn]
  | cons x rest ih =>
      rw [rsplitOn]
      cases hRest : rsplitOn separator rest with
      | some found =>
          have hMem : separator ∈ rest := by
            by_contra hAbsent
            simp [ih.mpr hAbsent] at hRest
          simp [hMem]
      | none =>
          have hAbsent := ih.mp hRest
          by_cases hHead : separator = x <;> simp [hHead, hAbsent, eq_comm]

theorem rsplitOn_append (h : separator ∉ after) :
    rsplitOn separator (before ++ separator :: after) = some (before, after) := by
  induction before with
  | nil => simp [rsplitOn, rsplitOn_eq_none_iff.mpr h]
  | cons x before ih => rw [List.cons_append, rsplitOn, ih]

theorem rsplitOn_eq_some_iff :
    rsplitOn separator data = some (before, after) ↔
      data = before ++ separator :: after ∧ separator ∉ after := by
  constructor
  · intro h
    induction data generalizing before with
    | nil => cases h
    | cons x rest ih =>
        rw [rsplitOn] at h
        cases hRest : rsplitOn separator rest with
        | some found =>
            rw [hRest] at h
            cases h
            obtain ⟨hSplit, hLast⟩ := ih hRest
            exact ⟨by rw [hSplit, List.cons_append], hLast⟩
        | none =>
            simp only [hRest] at h
            split at h
            · rename_i hHead
              cases h
              exact ⟨by rw [hHead, List.nil_append], rsplitOn_eq_none_iff.mp hRest⟩
            · cases h
  · rintro ⟨rfl, hLast⟩
    exact rsplitOn_append hLast

end LastOccurrence

theorem firstMatch_eq_some_iff {pattern data : List α} {i : Nat} :
    firstMatch pattern data = some i ↔
      i ≤ data.length ∧ pattern <+: data.drop i ∧ ∀ j < i, ¬pattern <+: data.drop j := by
  induction data generalizing i with
  | nil =>
      by_cases hp : pattern = []
      · subst hp
        simp only [firstMatch, if_pos, Option.some.injEq, List.length_nil, Nat.le_zero]
        constructor
        · rintro rfl
          simp
        · rintro ⟨rfl, _⟩
          rfl
      · simp [firstMatch, hp]
  | cons x rest ih =>
      by_cases hp : pattern <+: x :: rest
      · rw [firstMatch, if_pos hp, Option.some.injEq]
        constructor
        · rintro rfl
          simpa using hp
        · rintro ⟨_, _, hLeast⟩
          by_contra hne
          exact hLeast 0 (by omega) hp
      · rw [firstMatch, if_neg hp]
        cases i with
        | zero =>
            constructor
            · intro h
              simp at h
            · rintro ⟨_, h, _⟩
              exact absurd h hp
        | succ i =>
            rw [Option.map_eq_some_iff]
            constructor
            · rintro ⟨k, hk, he⟩
              obtain rfl : k = i := by omega
              obtain ⟨hLength, hAt, hLeast⟩ := ih.mp hk
              refine ⟨by simpa using hLength, by simpa using hAt, ?_⟩
              intro j hj
              cases j with
              | zero => simpa using hp
              | succ j => simpa using hLeast j (by omega)
            · rintro ⟨hLength, hAt, hLeast⟩
              refine ⟨i, ih.mpr ⟨by simpa using hLength, by simpa using hAt, ?_⟩, rfl⟩
              intro j hj
              simpa using hLeast (j + 1) (by omega)

theorem firstMatch_eq_none_iff {pattern data : List α} :
    firstMatch pattern data = none ↔ ¬pattern <:+: data := by
  induction data with
  | nil => by_cases hp : pattern = [] <;> simp [firstMatch, hp]
  | cons x rest ih =>
      rw [List.infix_cons_iff, firstMatch]
      by_cases hp : pattern <+: x :: rest
      · simp [hp]
      · simp [hp, ih]

theorem firstMatch_isSome_iff {pattern data : List α} :
    (firstMatch pattern data).isSome ↔ pattern <:+: data := by
  rw [← not_iff_not, ← firstMatch_eq_none_iff]
  simp

/-- The first occurrence splits the data around the pattern. -/
theorem cut_eq_some {pattern data before after : List α}
    (h : cut pattern data = some (before, after)) :
    data = before ++ pattern ++ after ∧ firstMatch pattern data = some before.length := by
  obtain ⟨i, hi, he⟩ := Option.map_eq_some_iff.mp h
  obtain ⟨hLength, ⟨rest, hRest⟩, _⟩ := firstMatch_eq_some_iff.mp hi
  obtain ⟨rfl, rfl⟩ := Prod.mk.inj he
  have hBefore : (data.take i).length = i := List.length_take_of_le hLength
  refine ⟨?_, by rw [hi, hBefore]⟩
  have hAfter : data.drop (i + pattern.length) = rest := by
    rw [← List.drop_drop, ← hRest, List.drop_left]
  rw [hAfter, List.append_assoc, hRest, List.take_append_drop]

theorem cut_of_firstMatch {pattern data before after : List α}
    (hData : data = before ++ pattern ++ after) (h : firstMatch pattern data = some before.length) :
    cut pattern data = some (before, after) := by
  rw [cut, h, Option.map_some, hData, List.append_assoc, List.take_left, ← List.drop_drop,
    List.drop_left, List.drop_left]

theorem cut_eq_none_iff {pattern data : List α} : cut pattern data = none ↔ ¬pattern <:+: data := by
  rw [cut, Option.map_eq_none_iff, firstMatch_eq_none_iff]

omit [DecidableEq α] in
theorem occursAt_iff {pattern data : List α} {i : Nat} :
    OccursAt pattern data i ↔ i ≤ data.length ∧ pattern <+: data.drop i := by
  constructor
  · rintro ⟨before, after, rfl, rfl⟩
    refine ⟨by simp, ?_⟩
    rw [List.append_assoc, List.drop_left]
    exact List.prefix_append _ _
  · rintro ⟨hLength, after, hAfter⟩
    refine ⟨data.take i, after, ?_, List.length_take_of_le hLength⟩
    rw [List.append_assoc, hAfter, List.take_append_drop]

omit [DecidableEq α] in
theorem OccursAt.of_prefix {pattern front data : List α} {i : Nat} (h : OccursAt pattern front i)
    (hFront : front <+: data) : OccursAt pattern data i := by
  obtain ⟨before, after, rfl, rfl⟩ := h
  obtain ⟨rest, rfl⟩ := hFront
  exact ⟨before, after ++ rest, by simp, rfl⟩

omit [DecidableEq α] in
/-- An occurrence that ends inside the front of the data is one of the front. -/
theorem OccursAt.of_length {pattern front data : List α} {i : Nat} (h : OccursAt pattern data i)
    (hFront : front <+: data) (hEnd : i + pattern.length ≤ front.length) :
    OccursAt pattern front i := by
  obtain ⟨before, after, rfl, rfl⟩ := h
  obtain ⟨rest, rfl⟩ := List.prefix_of_prefix_length_le (List.prefix_append _ _) hFront
    (by simpa using hEnd)
  exact ⟨before, rest, rfl, rfl⟩

omit [DecidableEq α] in
theorem infix_iff_occursAt {pattern data : List α} :
    pattern <:+: data ↔ ∃ i, OccursAt pattern data i := by
  constructor
  · rintro ⟨before, after, hData⟩
    exact ⟨before.length, before, after, hData.symm, rfl⟩
  · rintro ⟨_, before, after, hData, _⟩
    exact ⟨before, after, hData.symm⟩

theorem firstMatch_eq_some_iff_isLeast {pattern data : List α} {i : Nat} :
    firstMatch pattern data = some i ↔ IsLeast {j | OccursAt pattern data j} i := by
  rw [firstMatch_eq_some_iff]
  constructor
  · rintro ⟨hLength, hAt, hLeast⟩
    refine ⟨occursAt_iff.mpr ⟨hLength, hAt⟩, ?_⟩
    intro j hj
    by_contra hEarlier
    exact hLeast j (by omega) (occursAt_iff.mp hj).2
  · rintro ⟨hAt, hLeast⟩
    obtain ⟨hLength, hPrefix⟩ := occursAt_iff.mp hAt
    refine ⟨hLength, hPrefix, ?_⟩
    intro j hj hEarlier
    have hBound := hLeast (occursAt_iff.mpr ⟨by omega, hEarlier⟩)
    omega

/-- A first occurrence that ends inside the front of the data is the first one there. -/
theorem firstMatch_of_prefix {pattern front data : List α} {i : Nat}
    (h : firstMatch pattern data = some i) (hFront : front <+: data)
    (hEnd : i + pattern.length ≤ front.length) : firstMatch pattern front = some i := by
  obtain ⟨hOccurs, hLeast⟩ := firstMatch_eq_some_iff_isLeast.mp h
  exact firstMatch_eq_some_iff_isLeast.mpr
    ⟨hOccurs.of_length hFront hEnd, fun j hj => hLeast (hj.of_prefix hFront)⟩

theorem cut_eq_some_iff {pattern data before after : List α} :
    cut pattern data = some (before, after) ↔ FirstOccurrence pattern data before after := by
  constructor
  · intro h
    obtain ⟨hSplit, hFirst⟩ := cut_eq_some h
    exact ⟨hSplit, firstMatch_eq_some_iff_isLeast.mp hFirst⟩
  · intro h
    exact cut_of_firstMatch h.split (firstMatch_eq_some_iff_isLeast.mpr h.least)

omit [DecidableEq α] in
theorem occursAt_append {pattern front back : List α} {i : Nat} :
    OccursAt pattern (front ++ back) (front.length + i) ↔ OccursAt pattern back i := by
  rw [occursAt_iff, occursAt_iff, List.drop_append, List.drop_eq_nil_of_le (Nat.le_add_right _ _),
    List.nil_append, Nat.add_sub_cancel_left, List.length_append, Nat.add_le_add_iff_left]

/-- Where no occurrence starts in the front, the cut is that of the rest. -/
theorem cut_append {pattern front back : List α}
    (h : ∀ j < front.length, ¬OccursAt pattern (front ++ back) j) :
    cut pattern (front ++ back) =
      (cut pattern back).map fun parts => (front ++ parts.1, parts.2) := by
  have hBehind : ∀ j, OccursAt pattern (front ++ back) j →
      ∃ i, j = front.length + i ∧ OccursAt pattern back i := by
    intro j hj
    obtain ⟨i, rfl⟩ := Nat.exists_eq_add_of_le (Nat.le_of_not_lt fun hFront => h j hFront hj)
    exact ⟨i, rfl, occursAt_append.mp hj⟩
  cases hCut : cut pattern back with
  | none =>
      refine cut_eq_none_iff.mpr fun hInfix => cut_eq_none_iff.mp hCut ?_
      obtain ⟨j, hj⟩ := infix_iff_occursAt.mp hInfix
      obtain ⟨i, -, hi⟩ := hBehind j hj
      exact infix_iff_occursAt.mpr ⟨i, hi⟩
  | some parts =>
      obtain ⟨hSplit, hLeast⟩ := cut_eq_some_iff.mp hCut
      refine cut_eq_some_iff.mpr ⟨by rw [hSplit]; simp, ?_, fun j hj => ?_⟩
      · rw [List.length_append]
        exact occursAt_append.mpr hLeast.1
      · obtain ⟨i, rfl, hi⟩ := hBehind j hj
        rw [List.length_append]
        exact Nat.add_le_add_left (hLeast.2 hi) _

/-- An occurrence is the first one when none stands in the text in front of its last
element. -/
theorem firstMatch_append_iff {pattern : List α} (hPattern : pattern ≠ []) (before after : List α) :
    firstMatch pattern (before ++ pattern ++ after) = some before.length ↔
      ¬pattern <:+: before ++ pattern.dropLast := by
  have hPos : 0 < pattern.length := List.length_pos_of_ne_nil hPattern
  have hFront : before ++ pattern.dropLast <+: before ++ pattern ++ after := by
    rw [List.append_assoc]
    exact (List.prefix_append_right_inj before).mpr
      ((List.dropLast_prefix _).trans (List.prefix_append _ _))
  rw [firstMatch_eq_some_iff]
  constructor
  · rintro ⟨_, _, hLeast⟩ ⟨front, back, hSplit⟩
    have hLength := congrArg List.length hSplit
    simp only [List.length_append, List.length_dropLast] at hLength
    refine hLeast front.length (by omega) ?_
    obtain ⟨rest, hRest⟩ := hFront
    rw [← hRest, ← hSplit, List.append_assoc, List.append_assoc, List.drop_left]
    exact List.prefix_append _ _
  · intro hNone
    refine ⟨by simp, ?_, fun j hj hEarlier => hNone ?_⟩
    · rw [List.append_assoc, List.drop_left]
      exact List.prefix_append _ _
    · have hWindow : (before ++ pattern.dropLast).drop j <+: (before ++ pattern ++ after).drop j :=
        hFront.drop j
      refine (List.prefix_of_prefix_length_le hEarlier hWindow ?_).isInfix.trans
        (List.drop_suffix j _).isInfix
      simp only [List.length_drop, List.length_append, List.length_dropLast]
      omega

/-- Appending text behind an occurrence does not move the first one. -/
theorem firstMatch_append {pattern front : List α} {i : Nat}
    (h : firstMatch pattern front = some i) (back : List α) :
    firstMatch pattern (front ++ back) = some i := by
  obtain ⟨hLength, hAt, hLeast⟩ := firstMatch_eq_some_iff.mp h
  refine firstMatch_eq_some_iff.mpr ⟨by simp; omega, ?_, ?_⟩
  · rw [List.drop_append_of_le_length hLength]
    exact hAt.trans (List.prefix_append _ _)
  · intro j hj hOther
    apply hLeast j hj
    rw [List.drop_append_of_le_length (by omega)] at hOther
    -- An earlier window of the longer text ends before `i + pattern.length`.
    refine List.prefix_of_prefix_length_le hOther (List.prefix_append _ _) ?_
    have hFit := hAt.length_le
    simp only [List.length_drop] at hFit ⊢
    omega

/-- No occurrence lies in front of the first one. -/
theorem firstMatch_le {pattern before after : List α} {i : Nat}
    (h : firstMatch pattern (before ++ pattern ++ after) = some i) : i ≤ before.length := by
  by_contra hLate
  refine (firstMatch_eq_some_iff.mp h).2.2 before.length (by omega) ?_
  rw [List.append_assoc, List.drop_left]
  exact List.prefix_append _ _

theorem not_infix_of_firstMatch {pattern front back : List α} (hPattern : pattern ≠ [])
    (h : firstMatch pattern (front ++ back) = some front.length) : ¬pattern <:+: front := by
  rintro ⟨before, after, rfl⟩
  rw [List.append_assoc _ after back] at h
  have hEarly := firstMatch_le h
  have hPositive := List.length_pos_iff.mpr hPattern
  simp only [List.length_append] at hEarly
  omega

/-- A pattern without the separator cannot straddle it. If it does not occur
in front of the separator, the search continues behind it. -/
theorem firstMatch_append_separator {pattern front : List α} {separator : α}
    (hPattern : pattern ≠ []) (hSeparator : separator ∉ pattern) (hFront : ¬pattern <:+: front)
    (back : List α) :
    firstMatch pattern (front ++ separator :: back) =
      (firstMatch pattern back).map (· + (front.length + 1)) := by
  induction front with
  | nil =>
      have hHere : ¬pattern <+: separator :: back := by
        intro h
        cases pattern with
        | nil => exact hPattern rfl
        | cons p ps =>
            obtain ⟨rfl, _⟩ := List.cons_prefix_cons.mp h
            simp at hSeparator
      simp [firstMatch, hHere]
  | cons x rest ih =>
      have hHere : ¬pattern <+: x :: (rest ++ separator :: back) := by
        intro h
        -- The window lies inside `x :: rest`, or else it contains the separator.
        by_cases hFit : pattern.length ≤ (x :: rest).length
        · apply hFront
          exact (List.prefix_of_prefix_length_le h
            (by simp) hFit).isInfix
        · apply hSeparator
          have hLong : (x :: rest) ++ [separator] <+: pattern :=
            List.prefix_of_prefix_length_le
              (by simp) h
              (by simp at hFit ⊢; omega)
          exact hLong.subset (by simp)
      have hRest : ¬pattern <:+: rest := fun h =>
        hFront (List.infix_cons_iff.mpr (Or.inr h))
      rw [List.cons_append, firstMatch, if_neg hHere, ih hRest, Option.map_map]
      rfl

theorem matchesAt_eq {data pattern : List α} (hPattern : pattern ≠ []) (i : Nat) :
    (matchesAt data pattern i : Exec ε Bool) = .ok (pattern <+: data.drop i) := by
  unfold matchesAt
  split
  · rename_i hFit
    rw [slice_of_le (by omega) hFit, ok_bind, Nat.add_sub_cancel_left]
    congr 1
    rw [Bool.eq_iff_iff, beq_iff_eq, decide_eq_true_eq, List.prefix_iff_eq_take, eq_comm]
  · rename_i hFit
    have hShort : ¬pattern <+: data.drop i := by
      intro h
      have := h.length_le
      have := List.length_pos_iff.mpr hPattern
      simp only [List.length_drop] at *
      omega
    simp [hShort]

/-- The window loop finds the first occurrence and never leaves the data. -/
theorem scanWindows_eq {data pattern : List α} (hPattern : pattern ≠ []) (count i : Nat)
    (h : i + count + pattern.length = data.length + 1) :
    (scanWindows data pattern count i : Exec ε (Option Nat)) =
      .ok ((firstMatch pattern (data.drop i)).map (· + i)) := by
  have hPositive := List.length_pos_iff.mpr hPattern
  induction count generalizing i with
  | zero =>
      have hShort : ¬pattern <:+: data.drop i := by
        intro hInfix
        have := hInfix.length_le
        simp only [List.length_drop] at this
        omega
      rw [firstMatch_eq_none_iff.mpr hShort]
      rfl
  | succ count ih =>
      have hi : i < data.length := by omega
      rw [scanWindows, slice_of_le (by omega) (by omega), ok_bind, Nat.add_sub_cancel_left,
        List.drop_eq_getElem_cons hi, firstMatch, ih (i + 1) (by omega)]
      by_cases hp : pattern <+: data[i] :: data.drop (i + 1)
      · rw [if_pos (List.prefix_iff_eq_take.mp hp).symm, if_pos hp]
        simp
      · rw [if_neg (fun he => hp (List.prefix_iff_eq_take.mpr he.symm)), if_neg hp,
          Option.map_map]
        congr 2
        funext k
        simp only [Function.comp_apply]
        omega

end Checked
