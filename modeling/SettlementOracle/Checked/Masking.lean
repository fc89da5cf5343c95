import SettlementOracle.Checked.Search
import Mathlib.Data.List.TakeWhile

/-! Lists with some positions overwritten by one filler. A pattern without the filler
stands in the masked list exactly where it stands in the list and nothing of it is
hidden, so masking can remove occurrences but never add one. -/
namespace Checked

variable {α : Type}

/-- Overwrite the hidden positions with the filler. -/
def mask (filler : α) (hidden : Nat → Bool) (data : List α) : List α :=
  data.mapIdx fun i x => if hidden i then filler else x

/-- The hidden positions of the data behind the first `offset` elements. -/
def hiddenFrom (offset : Nat) (hidden : Nat → Bool) : Nat → Bool := fun i => hidden (offset + i)

/-- The pattern stands behind the first `i` elements, and nothing of it is hidden. -/
def Shown (hidden : Nat → Bool) (pattern data : List α) (i : Nat) : Prop :=
  OccursAt pattern data i ∧ ∀ j < pattern.length, hidden (i + j) = false

/-- Nothing is hidden of the occurrences that start in front of position `i`. -/
def KeepsBefore (hidden : Nat → Bool) (pattern data : List α) (i : Nat) : Prop :=
  ∀ j < i, OccursAt pattern data j → Shown hidden pattern data j

/-- The first occurrence is shown, or none is. -/
def KeepsFirst (hidden : Nat → Bool) (pattern data : List α) : Prop :=
  ∀ i, Shown hidden pattern data i →
    ∃ first, Shown hidden pattern data first ∧ IsLeast {j | OccursAt pattern data j} first

/-- Nothing is hidden of the maximal run at the start. -/
def RunShown (p : α → Bool) (hidden : Nat → Bool) (data : List α) : Prop :=
  ∀ j < (data.takeWhile p).length, hidden j = false

section Masking

variable {filler : α} {hidden : Nat → Bool} {data pattern front back : List α} {i : Nat}

@[simp] theorem length_mask : (mask filler hidden data).length = data.length := List.length_mapIdx

@[simp] theorem mask_nil : mask filler hidden [] = [] := rfl

@[simp] theorem mask_cons (x : α) (rest : List α) :
    mask filler hidden (x :: rest) =
      (if hidden 0 then filler else x) :: mask filler (hiddenFrom 1 hidden) rest := by
  simp only [mask, List.mapIdx_cons, hiddenFrom, Nat.add_comm 1]

theorem hiddenFrom_hiddenFrom (offset more : Nat) :
    hiddenFrom more (hiddenFrom offset hidden) = hiddenFrom (offset + more) hidden := by
  funext i
  simp only [hiddenFrom, Nat.add_assoc]

theorem mask_append (front back : List α) :
    mask filler hidden (front ++ back) =
      mask filler hidden front ++ mask filler (hiddenFrom front.length hidden) back := by
  simp only [mask, List.mapIdx_append, hiddenFrom, Nat.add_comm]

theorem drop_mask (n : Nat) (data : List α) :
    (mask filler hidden data).drop n = mask filler (hiddenFrom n hidden) (data.drop n) := by
  by_cases hn : n ≤ data.length
  · conv_lhs => rw [← List.take_append_drop n data, mask_append]
    rw [List.drop_left' (by simp [hn]), List.length_take_of_le hn]
  · rw [List.drop_eq_nil_of_le (by simp; omega), List.drop_eq_nil_of_le (by omega), mask_nil]

theorem getElem?_mask (i : Nat) :
    (mask filler hidden data)[i]? = data[i]?.map fun x => if hidden i then filler else x := by
  simp [mask]

theorem mask_eq_self (h : ∀ i < data.length, hidden i = false) : mask filler hidden data = data := by
  apply List.ext_getElem?
  intro i
  rw [getElem?_mask]
  by_cases hi : i < data.length
  · simp [h i hi]
  · simp [List.getElem?_eq_none (Nat.le_of_not_lt hi)]

theorem take_mask (n : Nat) (data : List α) :
    (mask filler hidden data).take n = mask filler hidden (data.take n) := by
  apply List.ext_getElem?
  intro i
  simp only [List.getElem?_take, getElem?_mask]
  split_ifs <;> simp

/-- A masked list without the filler has nothing hidden. -/
theorem shown_of_not_mem (h : filler ∉ mask filler hidden data) :
    ∀ i < data.length, hidden i = false := by
  intro i hi
  by_contra hHidden
  have hFiller : (mask filler hidden data)[i]? = some filler := by
    rw [getElem?_mask, List.getElem?_eq_getElem hi]
    simp [hHidden]
  exact h (List.mem_of_getElem? hFiller)

theorem eq_of_not_mem (h : filler ∉ mask filler hidden data) : mask filler hidden data = data :=
  mask_eq_self (shown_of_not_mem h)

theorem mask_split (h : mask filler hidden data = front ++ back) :
    ∃ first second, data = first ++ second ∧ front = mask filler hidden first ∧
      back = mask filler (hiddenFrom front.length hidden) second ∧ first.length = front.length := by
  have hLength := congrArg List.length h
  simp only [length_mask, List.length_append] at hLength
  have hFirst : (data.take front.length).length = front.length := List.length_take_of_le (by omega)
  refine ⟨data.take front.length, data.drop front.length, (List.take_append_drop _ _).symm, ?_, ?_,
    hFirst⟩
  · have hSplit := h
    rw [← List.take_append_drop front.length data, mask_append] at hSplit
    exact (List.append_inj hSplit (by simp [hFirst])).1.symm
  · rw [← drop_mask, h, List.drop_left]

theorem prefix_mask_iff (hFiller : filler ∉ pattern) :
    pattern <+: mask filler hidden data ↔
      pattern <+: data ∧ ∀ j < pattern.length, hidden j = false := by
  constructor
  · rintro ⟨back, hBack⟩
    obtain ⟨first, second, rfl, hPattern, _, hLength⟩ := mask_split hBack.symm
    have hShown := shown_of_not_mem (hPattern ▸ hFiller)
    rw [hPattern, mask_eq_self hShown]
    exact ⟨List.prefix_append _ _, hShown⟩
  · rintro ⟨⟨back, rfl⟩, hShown⟩
    rw [mask_append, mask_eq_self hShown]
    exact List.prefix_append _ _

theorem occursAt_mask_iff (hFiller : filler ∉ pattern) :
    OccursAt pattern (mask filler hidden data) i ↔ Shown hidden pattern data i := by
  rw [Shown, occursAt_iff, occursAt_iff, length_mask, drop_mask, prefix_mask_iff hFiller, and_assoc]
  rfl

theorem infix_of_mask (hFiller : filler ∉ pattern) (h : pattern <:+: mask filler hidden data) :
    pattern <:+: data := by
  obtain ⟨i, hOccurs⟩ := infix_iff_occursAt.mp h
  exact infix_iff_occursAt.mpr ⟨i, ((occursAt_mask_iff hFiller).mp hOccurs).1⟩

/-- A maximal run of which nothing is hidden stays as it is. -/
theorem takeWhile_mask {p : α → Bool} (hFiller : p filler = false) (h : RunShown p hidden data) :
    (mask filler hidden data).takeWhile p = data.takeWhile p := by
  induction data generalizing hidden with
  | nil => rfl
  | cons x rest ih =>
      rw [mask_cons]
      cases hx : p x with
      | true =>
          rw [RunShown, List.takeWhile_cons_of_pos hx, List.length_cons] at h
          have hHere : hidden 0 = false := h 0 (by omega)
          have hRest : RunShown p (hiddenFrom 1 hidden) rest := fun j hj => h (1 + j) (by omega)
          rw [hHere, if_neg Bool.false_ne_true, List.takeWhile_cons_of_pos hx,
            List.takeWhile_cons_of_pos hx, ih hRest]
      | false =>
          have hStop : p (if hidden 0 then filler else x) = false := by
            split_ifs
            · exact hFiller
            · exact hx
          rw [List.takeWhile_cons_of_neg (by simp [hStop]),
            List.takeWhile_cons_of_neg (by simp [hx])]

theorem dropWhile_mask {p : α → Bool} (hFiller : p filler = false) (h : RunShown p hidden data) :
    (mask filler hidden data).dropWhile p =
      mask filler (hiddenFrom (data.takeWhile p).length hidden) (data.dropWhile p) := by
  rw [← drop_takeWhile_length, takeWhile_mask hFiller h, drop_mask, drop_takeWhile_length]

end Masking

section FirstMatches

variable [DecidableEq α] {filler : α} {hidden : Nat → Bool} {data pattern before after : List α}
  {i : Nat}

/-- The first occurrence that is shown is the first one, when none is hidden in front. -/
theorem firstMatch_of_mask (hFiller : filler ∉ pattern) (hKeeps : KeepsFirst hidden pattern data)
    (h : firstMatch pattern (mask filler hidden data) = some i) :
    firstMatch pattern data = some i := by
  obtain ⟨hOccurs, hLeast⟩ := firstMatch_eq_some_iff_isLeast.mp h
  have hShown := (occursAt_mask_iff hFiller).mp hOccurs
  obtain ⟨first, hFirst, hFull⟩ := hKeeps i hShown
  have hBehind : i ≤ first := hLeast ((occursAt_mask_iff hFiller).mpr hFirst)
  have hFront : first ≤ i := hFull.2 hShown.1
  obtain rfl : first = i := by omega
  exact firstMatch_eq_some_iff_isLeast.mpr hFull

theorem keepsFirst_of_shown (h : firstMatch pattern data = some i)
    (hShown : ∀ j < pattern.length, hidden (i + j) = false) : KeepsFirst hidden pattern data := by
  have hLeast := firstMatch_eq_some_iff_isLeast.mp h
  exact fun _ _ => ⟨i, ⟨hLeast.1, hShown⟩, hLeast⟩

theorem keepsFirst_of_none (h : ∀ i, hidden i = false) : KeepsFirst hidden pattern data := by
  intro i hShown
  cases hFirst : firstMatch pattern data with
  | none =>
      exact absurd (infix_iff_occursAt.mpr ⟨i, hShown.1⟩) (firstMatch_eq_none_iff.mp hFirst)
  | some first => exact keepsFirst_of_shown hFirst (fun j _ => h (first + j)) i hShown

theorem cut_of_mask (hFiller : filler ∉ pattern) (hKeeps : KeepsFirst hidden pattern data)
    (h : cut pattern (mask filler hidden data) = some (before, after)) :
    ∃ first second, cut pattern data = some (first, second) ∧
      before = mask filler hidden first ∧
      after = mask filler (hiddenFrom (first.length + pattern.length) hidden) second := by
  obtain ⟨i, hi, hParts⟩ := Option.map_eq_some_iff.mp h
  obtain ⟨rfl, rfl⟩ := Prod.mk.inj hParts
  have hFirst := firstMatch_of_mask hFiller hKeeps hi
  have hLength := (firstMatch_eq_some_iff.mp hFirst).1
  refine ⟨data.take i, data.drop (i + pattern.length), by rw [cut, hFirst]; rfl, take_mask i data, ?_⟩
  rw [List.length_take_of_le hLength, drop_mask]

/-- A first occurrence of which nothing is hidden stays the first one. -/
theorem cut_mask (hFiller : filler ∉ pattern) (h : cut pattern data = some (before, after))
    (hShown : ∀ j < pattern.length, hidden (before.length + j) = false) :
    cut pattern (mask filler hidden data) = some (mask filler hidden before,
      mask filler (hiddenFrom (before.length + pattern.length) hidden) after) := by
  obtain ⟨rfl, hFirst⟩ := cut_eq_some h
  have hMiddle : mask filler (hiddenFrom before.length hidden) pattern = pattern :=
    mask_eq_self hShown
  apply cut_of_firstMatch
  · rw [mask_append, mask_append, hMiddle, List.length_append]
  · obtain ⟨hOccurs, hLeast⟩ := firstMatch_eq_some_iff_isLeast.mp hFirst
    rw [length_mask]
    refine firstMatch_eq_some_iff_isLeast.mpr ⟨(occursAt_mask_iff hFiller).mpr ⟨hOccurs, hShown⟩, ?_⟩
    exact fun j hj => hLeast ((occursAt_mask_iff hFiller).mp hj).1

theorem cut_mask_eq_none (hFiller : filler ∉ pattern) (h : cut pattern data = none) :
    cut pattern (mask filler hidden data) = none :=
  cut_eq_none_iff.mpr fun hInfix => cut_eq_none_iff.mp h (infix_of_mask hFiller hInfix)

end FirstMatches

end Checked
