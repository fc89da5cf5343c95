import Mathlib.Data.List.DropRight
import Mathlib.Tactic.Common

/-! Text split into fields at a separator, with the padding of each field removed. -/
namespace Checked

variable {α : Type}

/-- Remove the padding at both ends. -/
def trim (padding : α → Bool) (text : List α) : List α :=
  (text.dropWhile padding).rdropWhile padding

/-- The text behind the last separator. -/
def lastField [DecidableEq α] (separator : α) (text : List α) : List α := text.rtakeWhile (· != separator)

/-- The text behind the first separator. -/
def laterFields [DecidableEq α] (separator : α) (text : List α) : List α :=
  (text.dropWhile (· != separator)).drop 1

theorem infix_intercalate (separator : α) {field : List α} {fields : List (List α)}
    (h : field ∈ fields) : field <:+: [separator].intercalate fields := by
  induction fields with
  | nil => cases h
  | cons first rest ih =>
      by_cases hRest : rest = []
      · subst hRest
        obtain rfl := List.mem_singleton.mp h
        simp
      · rw [List.intercalate_cons_of_ne_nil hRest]
        obtain rfl | hLater := List.mem_cons.mp h
        · exact ⟨[], [separator] ++ [separator].intercalate rest, by simp⟩
        · exact (ih hLater).trans (List.suffix_append _ _).isInfix

/-- A word without the separator that starts a text starts its first field. -/
theorem prefix_field {separator : α} {word first tail : List α} (hWord : separator ∉ word)
    (hTail : tail = [] ∨ separator ∈ tail.head?) (h : word <+: first ++ tail) : word <+: first := by
  by_cases hFit : word.length ≤ first.length
  · exact List.prefix_of_prefix_length_le h (List.prefix_append _ _) hFit
  · obtain rfl | hTail := hTail
    · simpa using h
    · obtain ⟨rest, rfl⟩ := List.head?_eq_some_iff.mp hTail
      have hLong : first ++ [separator] <+: word := by
        refine List.prefix_of_prefix_length_le ⟨rest, by simp⟩ h ?_
        simp only [List.length_append, List.length_singleton]
        omega
      exact absurd (hLong.subset (by simp)) hWord

section Separator

variable [DecidableEq α]

theorem infix_of_mem_splitOn {separator : α} {field text : List α}
    (h : field ∈ text.splitOn separator) : field <:+: text := by
  have hInfix := infix_intercalate separator h
  rwa [List.intercalate_splitOn] at hInfix

/-- A text without separators, or one that ends in its last field. -/
theorem lastField_cases (separator : α) (text : List α) :
    separator ∉ lastField separator text ∧
      (text = lastField separator text ∨
        ∃ init, text = init ++ separator :: lastField separator text) := by
  unfold lastField
  refine ⟨fun h => by simpa using List.mem_rtakeWhile_imp h, ?_⟩
  induction text using List.reverseRecOn with
  | nil => exact Or.inl rfl
  | append_singleton text b ih =>
      by_cases hb : b = separator
      · subst hb
        rw [List.rtakeWhile_concat_neg _ _ _ (by simp)]
        exact Or.inr ⟨text, rfl⟩
      · rw [List.rtakeWhile_concat_pos _ _ _ (by simp [hb])]
        obtain hAll | ⟨init, hInit⟩ := ih
        · exact Or.inl (by rw [← hAll])
        · exact Or.inr ⟨init, by rw [← List.cons_append, ← List.append_assoc, ← hInit]⟩

/-- A text without separators, or one that continues behind its first field. -/
theorem laterFields_cases (separator : α) (text : List α) :
    (separator ∉ text ∧ laterFields separator text = []) ∨
      ∃ first, separator ∉ first ∧ text = first ++ separator :: laterFields separator text := by
  unfold laterFields
  have hFirst : separator ∉ text.takeWhile (· != separator) := fun h => by
    simpa using List.mem_takeWhile_imp h
  have hSplit := List.takeWhile_append_dropWhile (p := (· != separator)) (l := text)
  cases hRest : text.dropWhile (· != separator) with
  | nil =>
      rw [hRest, List.append_nil] at hSplit
      exact Or.inl ⟨hSplit ▸ hFirst, rfl⟩
  | cons b rest =>
      have hHead := List.head?_dropWhile_not (· != separator) text
      rw [hRest] at hHead
      obtain rfl : b = separator := by simpa using hHead
      rw [hRest] at hSplit
      exact Or.inr ⟨_, hFirst, hSplit.symm⟩

end Separator

theorem prefix_rdropWhile {padding : α → Bool} (word : List α) {last : α}
    (hLast : padding last = false) (rest : List α) :
    word ++ [last] <+: (word ++ [last] ++ rest).rdropWhile padding := by
  rw [List.rdropWhile, List.reverse_append, List.dropWhile_append]
  split
  · rewrite [List.reverse_concat, List.dropWhile_cons_of_neg (by simp [hLast]),
      ← List.reverse_concat, List.reverse_reverse]
    exact List.prefix_rfl
  · rw [List.reverse_append, List.reverse_reverse]
    exact List.prefix_append _ _

/-- A word that neither starts nor ends with padding is found at the start of a
trimmed field exactly when the field holds it behind padding alone. -/
theorem prefix_trim_iff {padding : α → Bool} {first last : α} {middle field : List α}
    (hFirst : padding first = false) (hLast : padding last = false) :
    first :: middle ++ [last] <+: trim padding field ↔
      ∃ front rest, field = front ++ (first :: middle ++ [last]) ++ rest ∧
        ∀ b ∈ front, padding b = true := by
  unfold trim
  constructor
  · intro h
    obtain ⟨rest, hRest⟩ := h.trans (List.rdropWhile_prefix _ _)
    refine ⟨field.takeWhile padding, rest, ?_, fun b hb => List.mem_takeWhile_imp hb⟩
    rw [List.append_assoc, hRest, List.takeWhile_append_dropWhile]
  · rintro ⟨front, rest, rfl, hFront⟩
    rw [List.append_assoc, List.dropWhile_append_of_pos hFront, List.cons_append, List.cons_append,
      List.dropWhile_cons_of_neg (by simp [hFirst])]
    exact prefix_rdropWhile (first :: middle) hLast rest

section Trimmed

variable {padding : α → Bool} {text : List α}

theorem trim_length_le : (trim padding text).length ≤ text.length :=
  (List.rdropWhile_prefix _ _).length_le.trans (List.dropWhile_suffix _).length_le

/-- A text is trimmed when there is no padding at its ends. -/
theorem trim_eq_self_iff :
    trim padding text = text ↔
      (∀ a ∈ text.head?, padding a = false) ∧ ∀ a ∈ text.getLast?, padding a = false := by
  constructor
  · intro h
    have hShort : (text.dropWhile padding).length ≤ text.length :=
      (List.dropWhile_suffix _).length_le
    have hLong : text.length ≤ (text.dropWhile padding).length := by
      conv_lhs => rw [← h]
      exact (List.rdropWhile_prefix _ _).length_le
    have hFront : text.dropWhile padding = text :=
      (List.dropWhile_suffix _).eq_of_length (hShort.antisymm hLong)
    have hBack : text.rdropWhile padding = text := by
      rwa [trim, hFront] at h
    cases text with
    | nil => simp
    | cons b rest =>
        refine ⟨?_, ?_⟩
        · simpa using List.dropWhile_eq_self_iff.mp hFront
        · simpa [List.getLast?_eq_some_getLast] using List.rdropWhile_eq_self_iff.mp hBack
  · rintro ⟨hFront, hBack⟩
    cases text with
    | nil => rfl
    | cons b rest =>
        rw [trim, List.dropWhile_cons_of_neg (by simpa using hFront b rfl)]
        refine List.rdropWhile_eq_self_iff.mpr fun hNe => ?_
        simpa using hBack _ (List.getLast?_eq_some_getLast hNe)

/-- Only the ends of a text matter. -/
theorem trim_append {first last : List α} (middle : List α) (hFirst : trim padding first = first)
    (hLast : trim padding last = last) (hFirstNe : first ≠ []) (hLastNe : last ≠ []) :
    trim padding (first ++ middle ++ last) = first ++ middle ++ last := by
  rw [trim_eq_self_iff] at hFirst hLast ⊢
  rw [List.append_assoc, List.head?_append_of_ne_nil _ hFirstNe, ← List.append_assoc,
    List.getLast?_append_of_ne_nil _ hLastNe]
  exact ⟨hFirst.1, hLast.2⟩

theorem head?_trim_cons {a : α} (h : padding a = false) (rest : List α) :
    (trim padding (a :: rest)).head? = some a := by
  obtain ⟨back, hBack⟩ := @prefix_rdropWhile α padding [] a h rest
  rw [trim, List.dropWhile_cons_of_neg (by simp [h])]
  change (([] ++ [a] ++ rest).rdropWhile padding).head? = some a
  rw [← hBack]
  rfl

end Trimmed

end Checked
