import Mathlib.Tactic.Common

/-! Executions of total code that may still panic. A stopped computation has
either returned an error of its own type or indexed a slice out of range. The
two are kept apart, so that absence of panics is a statement about results. -/
namespace Checked

variable {ε δ α β : Type}

inductive Stop (ε : Type) where
  | err (error : ε)
  | panic
  deriving DecidableEq, Repr

/-- A result, a returned error, or a panic. -/
abbrev Exec (ε α : Type) := Except (Stop ε) α

def fail (error : ε) : Exec ε α := .error (.err error)

/-- An early return guarded by a condition. -/
def failIf (condition : Prop) [Decidable condition] (error : ε) : Exec ε Unit :=
  if condition then fail error else .ok ()

def okOr (value : Option α) (error : ε) : Exec ε α :=
  match value with
  | some a => .ok a
  | none => fail error

/-- Convert the returned error. A panic is not an error and passes through. -/
def mapErr (f : ε → δ) : Exec ε α → Exec δ α
  | .ok a => .ok a
  | .error (.err error) => fail (f error)
  | .error .panic => .error .panic

def index (data : List α) (i : Nat) : Exec ε α :=
  match data[i]? with
  | some a => .ok a
  | none => .error .panic

/-- The half-open range `start..stop` of a slice. It panics unless
`start ≤ stop` and `stop` is at most the length. -/
def slice (data : List α) (start stop : Nat) : Exec ε (List α) :=
  if start ≤ stop ∧ stop ≤ data.length then .ok ((data.drop start).take (stop - start))
  else .error .panic

@[simp] theorem ok_bind (a : α) (f : α → Exec ε β) : (Except.ok a >>= f) = f a := rfl

@[simp] theorem error_bind (stop : Stop ε) (f : α → Exec ε β) :
    ((Except.error stop : Exec ε α) >>= f) = .error stop := rfl

@[simp] theorem fail_bind (error : ε) (f : α → Exec ε β) :
    ((fail error : Exec ε α) >>= f) = fail error := rfl

theorem bind_eq_ok {x : Except ε α} {f : α → Except ε β} {b : β} :
    (x >>= f) = .ok b ↔ ∃ a, x = .ok a ∧ f a = .ok b := by
  rcases x with stopped | a <;> simp [Bind.bind, Except.bind]

theorem bind_eq_error {x : Except ε α} {f : α → Except ε β} {error : ε} :
    (x >>= f) = .error error ↔ x = .error error ∨ ∃ a, x = .ok a ∧ f a = .error error := by
  rcases x with stopped | a <;> simp [Bind.bind, Except.bind]

theorem bind_of_ok {x : Except ε α} {f : α → Except ε β} {a : α} (h : x = .ok a) :
    (x >>= f) = f a := by
  rw [h]
  rfl

theorem map_eq_ok {x : Except ε α} {f : α → β} {b : β} :
    x.map f = .ok b ↔ ∃ a, x = .ok a ∧ f a = b := by
  rcases x with stopped | a <;> simp [Except.map]

theorem mapError_eq_ok {x : Except ε α} {f : ε → δ} {a : α} : x.mapError f = .ok a ↔ x = .ok a := by
  rcases x with stopped | b <;> simp [Except.mapError]

theorem toOption_eq_some {x : Except ε α} {a : α} : x.toOption = some a ↔ x = .ok a := by
  rcases x with stopped | b <;> simp [Except.toOption]

theorem toOption_eq_none {x : Except ε α} : x.toOption = none ↔ ∃ error, x = .error error := by
  rcases x with stopped | b <;> simp [Except.toOption]

@[simp] theorem fail_ne_ok (error : ε) (a : α) : (fail error : Exec ε α) ≠ .ok a := by
  simp [fail]

@[simp] theorem failIf_eq_ok {condition : Prop} [Decidable condition] {error : ε} {u : Unit} :
    failIf condition error = .ok u ↔ ¬condition := by
  unfold failIf
  split <;> simp_all

theorem failIf_pos {condition : Prop} [Decidable condition] (error : ε) (h : condition) :
    failIf condition error = fail error := if_pos h

theorem failIf_neg {condition : Prop} [Decidable condition] (error : ε) (h : ¬condition) :
    failIf condition error = .ok () := if_neg h

@[simp] theorem okOr_eq_ok {value : Option α} {error : ε} {a : α} :
    okOr value error = .ok a ↔ value = some a := by
  cases value <;> simp [okOr]

@[simp] theorem okOr_some (a : α) (error : ε) : okOr (some a) error = .ok a := rfl

@[simp] theorem okOr_none (error : ε) : okOr (none : Option α) error = fail error := rfl

@[simp] theorem mapErr_ok (f : ε → δ) (a : α) : mapErr f (.ok a) = .ok a := rfl

@[simp] theorem mapErr_eq_ok {f : ε → δ} {x : Exec ε α} {a : α} :
    mapErr f x = .ok a ↔ x = .ok a := by
  rcases x with (error | _) | b <;> simp [mapErr]

theorem index_of_lt {data : List α} {i : Nat} (h : i < data.length) :
    (index data i : Exec ε α) = .ok data[i] := by
  simp [index, h]

theorem slice_of_le {data : List α} {start stop : Nat} (hStart : start ≤ stop)
    (hStop : stop ≤ data.length) :
    (slice data start stop : Exec ε (List α)) = .ok ((data.drop start).take (stop - start)) :=
  if_pos ⟨hStart, hStop⟩

/-- A slice to the end of the data is the dropped list. -/
theorem slice_to_end {data : List α} {start : Nat} (h : start ≤ data.length) :
    (slice data start data.length : Exec ε (List α)) = .ok (data.drop start) := by
  rw [slice_of_le h (Nat.le_refl _), List.take_of_length_le (by simp)]

/-- The computation does not end in a panic. -/
def Safe (x : Exec ε α) : Prop := x ≠ .error .panic

@[simp] theorem safe_ok (a : α) : Safe (.ok a : Exec ε α) := by simp [Safe]

@[simp] theorem safe_fail (error : ε) : Safe (fail error : Exec ε α) := by simp [Safe, fail]

@[simp] theorem safe_failIf (condition : Prop) [Decidable condition] (error : ε) :
    Safe (failIf condition error) := by
  unfold failIf
  split <;> simp

@[simp] theorem safe_okOr (value : Option α) (error : ε) : Safe (okOr value error) := by
  cases value <;> simp

@[simp] theorem safe_mapErr {f : ε → δ} {x : Exec ε α} : Safe (mapErr f x) ↔ Safe x := by
  rcases x with (error | _) | a <;> simp [Safe, mapErr, fail]

/-- A sequence is free of panics exactly when its first part is, and so is
every continuation that the first part can reach. -/
theorem safe_bind_iff {x : Exec ε α} {f : α → Exec ε β} :
    Safe (x >>= f) ↔ Safe x ∧ ∀ a, x = .ok a → Safe (f a) := by
  rcases x with (error | _) | a <;> simp [Safe]

end Checked
