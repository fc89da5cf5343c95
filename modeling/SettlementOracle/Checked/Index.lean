import Mathlib.Data.List.Induction
import Mathlib.Logic.Function.Basic
import Mathlib.Tactic.Common

/-! Hash maps as lookup functions, with the three ways in which a loop fills
them: a later entry replaces an earlier one, entries are grouped by their key, or
they are counted. -/
namespace Checked

variable {κ υ : Type} [DecidableEq κ]

/-- Collect pairs. The last pair of a key is the one that is found. -/
def collect (pairs : List (κ × υ)) : κ → Option υ :=
  pairs.foldl (fun map pair => Function.update map pair.1 (some pair.2)) fun _ => none

/-- `map.entry(key).or_default().push(value)`, for a value that has a key. -/
def pushEntry (keyOf : υ → Option κ) (map : κ → Option (List υ)) (value : υ) :
    κ → Option (List υ) :=
  match keyOf value with
  | some key => Function.update map key (some ((map key).getD [] ++ [value]))
  | none => map

/-- `*map.entry(key).or_insert(0) += 1`, for a value that has a key. -/
def countEntry (keyOf : υ → Option κ) (map : κ → Option Nat) (value : υ) : κ → Option Nat :=
  match keyOf value with
  | some key => Function.update map key (some ((map key).getD 0 + 1))
  | none => map

section Loops

variable {keyOf : υ → Option κ} {groups : κ → Option (List υ)} {counts : κ → Option Nat}
  {value : υ} {values : List υ} {key : κ}

theorem pushEntry_getD :
    (pushEntry keyOf groups value key).getD [] =
      (groups key).getD [] ++ [value].filter (fun v => keyOf v = some key) := by
  unfold pushEntry
  cases hKey : keyOf value with
  | none => simp [hKey]
  | some other =>
      rcases eq_or_ne key other with rfl | hNe
      · simp [hKey]
      · simp [hKey, hNe, hNe.symm]

/-- A group holds the values with its key, in the order of the loop. -/
theorem foldl_pushEntry_getD :
    (values.foldl (pushEntry keyOf) groups key).getD [] =
      (groups key).getD [] ++ values.filter fun v => keyOf v = some key := by
  induction values generalizing groups with
  | nil => simp
  | cons head tail ih =>
      rw [List.foldl_cons, ih, pushEntry_getD, List.append_assoc, ← List.filter_append]
      rfl

/-- A group is there as soon as one value has its key. -/
theorem foldl_pushEntry_eq_none :
    values.foldl (pushEntry keyOf) groups key = none ↔
      groups key = none ∧ ∀ v ∈ values, keyOf v ≠ some key := by
  induction values generalizing groups with
  | nil => simp
  | cons head tail ih =>
      have hHead : pushEntry keyOf groups head key = none ↔
          groups key = none ∧ keyOf head ≠ some key := by
        unfold pushEntry
        cases hKey : keyOf head with
        | none => simp
        | some other =>
            rcases eq_or_ne key other with rfl | hNe
            · simp
            · simp [hNe, hNe.symm]
      rw [List.foldl_cons, ih, hHead, List.forall_mem_cons, and_assoc]

theorem countEntry_getD :
    (countEntry keyOf counts value key).getD 0 =
      (counts key).getD 0 + [value].countP (fun v => keyOf v = some key) := by
  unfold countEntry
  cases hKey : keyOf value with
  | none => simp [hKey]
  | some other =>
      rcases eq_or_ne key other with rfl | hNe
      · simp [hKey]
      · simp [hKey, hNe, hNe.symm]

/-- A counter holds the number of values with its key. -/
theorem foldl_countEntry_getD :
    (values.foldl (countEntry keyOf) counts key).getD 0 =
      (counts key).getD 0 + values.countP fun v => keyOf v = some key := by
  induction values generalizing counts with
  | nil => simp
  | cons head tail ih =>
      rw [List.foldl_cons, ih, countEntry_getD, Nat.add_assoc, ← List.countP_append]
      rfl

end Loops

/-- The last pair of a key is found. -/
theorem collect_eq_getLast? (pairs : List (κ × υ)) (key : κ) :
    collect pairs key = (pairs.filter fun pair => pair.1 = key).getLast?.map Prod.snd := by
  induction pairs using List.reverseRecOn with
  | nil => rfl
  | append_singleton pairs pair ih =>
      rw [collect, List.foldl_append, List.filter_append]
      rcases eq_or_ne pair.1 key with rfl | hNe
      · simp
      · simpa [hNe, hNe.symm, collect] using ih

/-- The last value of a key is found, for values that carry their key. -/
theorem collect_map {ω : Type} (keyOf : ω → κ) (f : ω → υ) (values : List ω) (key : κ) :
    collect (values.map fun value => (keyOf value, f value)) key =
      (values.filter fun value => keyOf value = key).getLast?.map f := by
  rw [collect_eq_getLast?, List.filter_map, List.getLast?_map, Option.map_map]
  rfl

theorem eq_nil_iff_of_perm {values values' : List υ} (h : values.Perm values') :
    values = [] ↔ values' = [] := by
  rw [← List.length_eq_zero_iff, h.length_eq, List.length_eq_zero_iff]

/-- Two different values are counted twice. -/
theorem two_le_countP {p : υ → Bool} {values : List υ} {a b : υ} (ha : a ∈ values)
    (hb : b ∈ values) (hNe : a ≠ b) (hpa : p a = true) (hpb : p b = true) :
    2 ≤ values.countP p := by
  have hFirst := List.mem_filter.mpr ⟨ha, hpa⟩
  have hSecond := List.mem_filter.mpr ⟨hb, hpb⟩
  rw [List.countP_eq_length_filter]
  match values.filter p, hFirst, hSecond with
  | [c], hFirst, hSecond =>
      exact absurd ((List.mem_singleton.mp hFirst).trans (List.mem_singleton.mp hSecond).symm) hNe
  | _ :: _ :: _, _, _ => exact Nat.le_add_left 2 _

end Checked
