import SettlementOracle.Checked.Fields
import SettlementOracle.Checked.Search

/-! Words in a text: a word in front of it, its last occurrence, and the parts
between its occurrences. -/
namespace Checked

variable {α : Type} [DecidableEq α]

/-- The text behind a word that it starts with, if it does. -/
def dropWord (word text : List α) : List α :=
  if word.isPrefixOf text then text.drop word.length else text

/-- The text in front of the last occurrence of a word. -/
def beforeLast (word text : List α) : Option (List α) :=
  (cut word.reverse text.reverse).map fun parts => parts.2.reverse

/-- The parts between the occurrences of a word, from the left. `skip` counts what
is left of an occurrence, and `part` is the part so far, reversed. -/
def splitWordFrom (word : List α) : Nat → List α → List α → List (List α)
  | _, part, [] => [part.reverse]
  | skip + 1, part, _ :: rest => splitWordFrom word skip part rest
  | 0, part, a :: rest =>
      if word.isPrefixOf (a :: rest) then
        part.reverse :: splitWordFrom word (word.length - 1) [] rest
      else splitWordFrom word 0 (a :: part) rest

def splitWord (word text : List α) : List (List α) := splitWordFrom word 0 [] text

/-- Remove a word from the front as often as it stands there. -/
def dropWordsFrom (word : List α) : Nat → List α → List α
  | _, [] => []
  | skip + 1, _ :: rest => dropWordsFrom word skip rest
  | 0, a :: rest =>
      if word.isPrefixOf (a :: rest) then dropWordsFrom word (word.length - 1) rest else a :: rest

def dropWords (word text : List α) : List α := dropWordsFrom word 0 text

/-- The characters of Unicode's `White_Space`. -/
def isWhitespace (c : Char) : Bool :=
  let n := c.toNat
  (9 ≤ n && n ≤ 13) || n == 0x20 || n == 0x85 || n == 0xA0 || n == 0x1680 ||
    (0x2000 ≤ n && n ≤ 0x200A) || n == 0x2028 || n == 0x2029 || n == 0x202F || n == 0x205F ||
    n == 0x3000

/-- The words between white space. -/
def splitWhitespace (text : List Char) : List (List Char) :=
  (text.splitOnP isWhitespace).filter fun word => !word.isEmpty

section Prefixes

variable {first second text : List α}

theorem isPrefixOf_append :
    (first ++ second).isPrefixOf text =
      (first.isPrefixOf text && second.isPrefixOf (text.drop first.length)) := by
  induction first generalizing text with
  | nil => simp
  | cons a rest ih =>
      cases text with
      | nil => simp
      | cons b tail => simp [List.isPrefixOf_cons_cons, ih, Bool.and_assoc]

/-- Two words in front of one text begin alike. -/
theorem head_eq_of_isPrefixOf {a b : α} (hFirst : (a :: first).isPrefixOf text = true)
    (hSecond : (b :: second).isPrefixOf text = true) : a = b := by
  obtain ⟨tail, rfl⟩ := List.isPrefixOf_iff_prefix.mp hFirst
  simp only [List.cons_append, List.isPrefixOf_cons_cons, Bool.and_eq_true, beq_iff_eq] at hSecond
  exact hSecond.1.symm

end Prefixes

section Parts

variable {word text before after : List α}

theorem splitWordFrom_skip (skip : Nat) (part : List α) :
    splitWordFrom word skip part text = splitWordFrom word 0 part (text.drop skip) := by
  induction text generalizing skip with
  | nil => cases skip <;> simp [splitWordFrom]
  | cons a rest ih =>
      cases skip with
      | zero => rfl
      | succ skip => exact ih skip

/-- A text is split at the first occurrence of the word, and behind it. -/
theorem splitWordFrom_eq_cut (hWord : word ≠ []) (part : List α) :
    splitWordFrom word 0 part text =
      match cut word text with
      | none => [part.reverse ++ text]
      | some (before, after) => (part.reverse ++ before) :: splitWord word after := by
  induction text generalizing part with
  | nil => simp [splitWordFrom, cut, firstMatch, hWord]
  | cons a rest ih =>
      by_cases hHere : word <+: a :: rest
      · have hLength : 0 < word.length := List.length_pos_of_ne_nil hWord
        have hRest : (a :: rest).drop word.length = rest.drop (word.length - 1) := by
          rw [← Nat.sub_add_cancel hLength, List.drop_succ_cons, Nat.add_sub_cancel]
        rw [splitWordFrom, if_pos (List.isPrefixOf_iff_prefix.mpr hHere), splitWordFrom_skip]
        simp only [cut, firstMatch, if_pos hHere, Option.map_some, List.take_zero, Nat.zero_add,
          List.append_nil, hRest]
        rfl
      · rw [splitWordFrom, if_neg (mt List.isPrefixOf_iff_prefix.mp hHere), ih]
        simp only [cut, firstMatch, if_neg hHere]
        cases firstMatch word rest with
        | none => simp
        | some i => simp [Nat.add_right_comm]

theorem splitWord_of_cut (hWord : word ≠ []) (h : cut word text = some (before, after)) :
    splitWord word text = before :: splitWord word after := by
  rw [splitWord, splitWordFrom_eq_cut hWord, h]
  rfl

theorem splitWord_of_cut_none (hWord : word ≠ []) (h : cut word text = none) :
    splitWord word text = [text] := by
  rw [splitWord, splitWordFrom_eq_cut hWord, h]
  rfl

theorem splitWord_ne_nil (hWord : word ≠ []) : splitWord word text ≠ [] := by
  cases h : cut word text with
  | none => simp [splitWord_of_cut_none hWord h]
  | some parts => simp [splitWord_of_cut hWord h]

/-- Joining the parts with the word gives the text back. -/
theorem intercalate_splitWord (hWord : word ≠ []) (text : List α) :
    word.intercalate (splitWord word text) = text := by
  cases h : cut word text with
  | none => simp [splitWord_of_cut_none hWord h]
  | some parts =>
      obtain ⟨before, after⟩ := parts
      obtain ⟨hText, _⟩ := cut_eq_some h
      have hShorter : after.length < text.length := by
        have hLength := congrArg List.length hText
        have hPos := List.length_pos_of_ne_nil hWord
        simp only [List.length_append] at hLength
        omega
      rw [splitWord_of_cut hWord h,
        List.intercalate_cons_of_ne_nil (splitWord_ne_nil hWord),
        intercalate_splitWord hWord after, ← hText]
termination_by text.length

end Parts

section Fronts

variable {word text : List α}

theorem dropWordsFrom_skip (skip : Nat) :
    dropWordsFrom word skip text = dropWords word (text.drop skip) := by
  induction text generalizing skip with
  | nil => cases skip <;> rfl
  | cons a rest ih =>
      cases skip with
      | zero => rfl
      | succ skip => exact ih skip

theorem dropWords_of_not_prefix (h : ¬word <+: text) : dropWords word text = text := by
  cases text with
  | nil => rfl
  | cons a rest => exact if_neg (mt List.isPrefixOf_iff_prefix.mp h)

theorem dropWords_append (hWord : word ≠ []) :
    dropWords word (word ++ text) = dropWords word text := by
  obtain ⟨a, rest, rfl⟩ := List.exists_cons_of_ne_nil hWord
  have hHere : (a :: rest).isPrefixOf (a :: (rest ++ text)) = true :=
    List.isPrefixOf_iff_prefix.mpr (List.prefix_append (a :: rest) text)
  rw [List.cons_append, dropWords, dropWordsFrom, if_pos hHere, dropWordsFrom_skip,
    List.length_cons, Nat.add_sub_cancel, List.drop_left]

theorem dropWords_length_le : (dropWords word text).length ≤ text.length := by
  suffices h : ∀ skip, (dropWordsFrom word skip text).length ≤ text.length from h 0
  induction text with
  | nil => intro skip; cases skip <;> simp [dropWordsFrom]
  | cons a rest ih =>
      intro skip
      cases skip with
      | zero =>
          rw [dropWordsFrom]
          split
          · exact (ih _).trans (Nat.le_succ _)
          · exact le_rfl
      | succ skip => exact (ih skip).trans (Nat.le_succ _)

/-- A word that ends in a blank and has no other, in front of a text that goes on
behind a first blank. -/
theorem dropWord_separated {blank : α} {name first rest : List α} (hName : blank ∉ name)
    (hFirst : ¬name ++ [blank] <+: first) :
    dropWord (name ++ [blank]) (first ++ blank :: rest) =
      if first = name then rest else first ++ blank :: rest := by
  unfold dropWord
  split_ifs with hPrefix hSame hSame
  · subst hSame
    rw [List.append_cons first blank rest, List.drop_left]
  · refine absurd ?_ hSame
    have hWord := List.isPrefixOf_iff_prefix.mp hPrefix
    have hField : name <+: first :=
      prefix_field hName (Or.inr rfl) ((List.prefix_append _ _).trans hWord)
    by_contra hNe
    have hShorter : name.length < first.length :=
      lt_of_le_of_ne hField.length_le fun hLength => hNe (hField.eq_of_length hLength).symm
    exact hFirst (List.prefix_of_prefix_length_le hWord (List.prefix_append _ _) (by simpa))
  · subst hSame
    refine absurd (List.isPrefixOf_iff_prefix.mpr ?_) hPrefix
    exact ⟨rest, by simp⟩
  · rfl

end Fronts

/-- The last occurrence, with no other behind its first element. -/
theorem beforeLast_append {word : List α} (hWord : word ≠ []) (text : List α) {rest : List α}
    (h : ¬word <:+: word.tail ++ rest) : beforeLast word (text ++ word ++ rest) = some text := by
  have hFirst : firstMatch word.reverse (rest.reverse ++ word.reverse ++ text.reverse) =
      some rest.reverse.length := by
    rw [firstMatch_append_iff (by simpa using hWord), List.dropLast_reverse, ← List.reverse_append,
      List.reverse_infix]
    exact h
  have hCut := cut_of_firstMatch rfl hFirst
  rw [beforeLast, List.reverse_append, List.reverse_append, ← List.append_assoc, hCut,
    Option.map_some, List.reverse_reverse]

end Checked
