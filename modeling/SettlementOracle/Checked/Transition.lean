import Mathlib.Data.List.Induction
import Mathlib.Tactic.Common

/-! Runs of a guarded step function. A disabled action ends the run with `none`,
so a successful run is one possible interleaving of the actions. -/
namespace Checked

variable {σ α : Type} {step : σ → α → Option σ}

def run (step : σ → α → Option σ) : σ → List α → Option σ
  | s, [] => some s
  | s, action :: rest => (step s action).bind fun next => run step next rest

/-- The states that some run from `start` ends in. -/
def Reachable (step : σ → α → Option σ) (start s : σ) : Prop :=
  ∃ actions, run step start actions = some s

/-- The states that the run passes through, its start and its end included. -/
def Visits (step : σ → α → Option σ) (start : σ) (actions : List α) (s : σ) : Prop :=
  ∃ before after, actions = before ++ after ∧ run step start before = some s

/-- The steps that the run makes. -/
def Takes (step : σ → α → Option σ) (start : σ) (actions : List α) (s : σ) (action : α) (s' : σ) :
    Prop :=
  ∃ before after, actions = before ++ action :: after ∧ run step start before = some s ∧
    step s action = some s'

@[simp] theorem run_nil (s : σ) : run step s [] = some s := rfl

theorem run_cons_eq_some {s s' : σ} {action : α} {rest : List α} :
    run step s (action :: rest) = some s' ↔
      ∃ next, step s action = some next ∧ run step next rest = some s' := by
  simp [run, Option.bind_eq_some_iff]

theorem run_append_eq_some {s s' : σ} {first second : List α} :
    run step s (first ++ second) = some s' ↔
      ∃ middle, run step s first = some middle ∧ run step middle second = some s' := by
  induction first generalizing s with
  | nil => simp
  | cons action rest ih =>
      simp only [List.cons_append, run_cons_eq_some, ih]
      constructor
      · rintro ⟨next, hStep, middle, hFirst, hSecond⟩
        exact ⟨middle, ⟨next, hStep, hFirst⟩, hSecond⟩
      · rintro ⟨middle, ⟨next, hStep, hFirst⟩, hSecond⟩
        exact ⟨next, hStep, middle, hFirst, hSecond⟩

/-- The last step of a run starts where the steps before it end. -/
theorem run_snoc_eq_some {s s' : σ} {actions : List α} {action : α} :
    run step s (actions ++ [action]) = some s' ↔
      ∃ middle, run step s actions = some middle ∧ step middle action = some s' := by
  simp only [run_append_eq_some, run_cons_eq_some, run_nil, Option.some.injEq, exists_eq_right]

/-- A relation between states that every step respects relates the two ends of
a run. -/
theorem run_relation {R : σ → σ → Prop} (hRefl : ∀ s, R s s)
    (hTrans : ∀ {a b c}, R a b → R b c → R a c)
    (hStep : ∀ s action next, step s action = some next → R s next)
    {actions : List α} {s s' : σ} (h : run step s actions = some s') : R s s' := by
  induction actions generalizing s with
  | nil =>
      obtain rfl : s = s' := Option.some.inj h
      exact hRefl s
  | cons action rest ih =>
      obtain ⟨next, hNext, hRest⟩ := run_cons_eq_some.mp h
      exact hTrans (hStep s action next hNext) (ih hRest)

/-- A property that every step preserves holds at the end of a run whenever it
holds at its start. -/
theorem run_invariant {P : σ → Prop}
    (hStep : ∀ s action next, P s → step s action = some next → P next)
    {actions : List α} {s s' : σ} (hStart : P s) (h : run step s actions = some s') : P s' := by
  refine run_relation (R := fun a b => P a → P b) (fun _ hP => hP) ?_ ?_ h hStart
  · exact fun hFirst hSecond hP => hSecond (hFirst hP)
  · exact fun s action next hNext hP => hStep s action next hP hNext

section Visits

variable {actions : List α} {start s s' : σ} {action : α}

theorem Takes.visits (h : Takes step start actions s action s') :
    Visits step start actions s ∧ Visits step start actions s' := by
  obtain ⟨before, after, rfl, hRun, hStep⟩ := h
  refine ⟨⟨before, action :: after, rfl, hRun⟩, before ++ [action], after, by simp, ?_⟩
  exact run_snoc_eq_some.mpr ⟨s, hRun, hStep⟩

/-- The states of a completed run lead on to its end. -/
theorem Visits.run_rest {finish : σ} (h : Visits step start actions s)
    (hRun : run step start actions = some finish) : ∃ rest, run step s rest = some finish := by
  obtain ⟨before, after, rfl, hBefore⟩ := h
  obtain ⟨middle, hMiddle, hRest⟩ := run_append_eq_some.mp hRun
  obtain rfl : s = middle := Option.some.inj (hBefore.symm.trans hMiddle)
  exact ⟨after, hRest⟩

theorem Visits.invariant {P : σ → Prop}
    (hStep : ∀ s action next, P s → step s action = some next → P next) (hStart : P start)
    (h : Visits step start actions s) : P s := by
  obtain ⟨before, after, _, hRun⟩ := h
  exact run_invariant hStep hStart hRun

/-- What a run brings about, one of its steps brings about. -/
theorem exists_takes {P : σ → Prop} (hRun : run step start actions = some s) (hStart : ¬P start)
    (h : P s) : ∃ s₁ action s₂, Takes step start actions s₁ action s₂ ∧ ¬P s₁ ∧ P s₂ := by
  induction actions using List.reverseRecOn generalizing s with
  | nil =>
      obtain rfl : start = s := Option.some.inj hRun
      exact absurd h hStart
  | append_singleton actions action ih =>
      obtain ⟨middle, hBefore, hNext⟩ := run_snoc_eq_some.mp hRun
      by_cases hMiddle : P middle
      · obtain ⟨s₁, first, s₂, ⟨before, after, rfl, hTaken⟩, hTurn⟩ := ih hBefore hMiddle
        exact ⟨s₁, first, s₂, ⟨before, after ++ [action], by simp, hTaken⟩, hTurn⟩
      · exact ⟨middle, action, s, ⟨actions, [], rfl, hBefore, hNext⟩, hMiddle, h⟩

/-- Every state of a run is good exactly when every step of it is, provided that
a step out of a good state leads to a good state exactly when it is good itself. -/
theorem visits_iff_takes {Inv P : σ → Prop} {Good : σ → α → Prop}
    (hInv : ∀ s action next, Inv s → step s action = some next → Inv next)
    (hStep : ∀ s action next, Inv s → P s → step s action = some next → (P next ↔ Good s action))
    (hStart : Inv start) (hP : P start) :
    (∀ s, Visits step start actions s → P s) ↔
      ∀ s action s', Takes step start actions s action s' → Good s action := by
  constructor
  · intro h s action s' hTakes
    obtain ⟨hBefore, hAfter⟩ := hTakes.visits
    obtain ⟨_, _, _, _, hNext⟩ := hTakes
    exact (hStep s action s' (hBefore.invariant hInv hStart) (h s hBefore) hNext).mp (h s' hAfter)
  · rintro h s ⟨before, after, rfl, hRun⟩
    -- the good steps in front of `s` carry the property up to it
    induction before using List.reverseRecOn generalizing s after with
    | nil =>
        obtain rfl : start = s := Option.some.inj hRun
        exact hP
    | append_singleton before action ih =>
        obtain ⟨middle, hBefore, hNext⟩ := run_snoc_eq_some.mp hRun
        rw [List.append_assoc] at h
        have hMiddle := ih middle (action :: after) hBefore h
        refine (hStep middle action s (run_invariant hInv hStart hBefore) hMiddle hNext).mpr ?_
        exact h middle action s ⟨before, after, by simp, hBefore, hNext⟩

end Visits

section Change

/-- What the steps of a run change in total. -/
def netChange (step : σ → α → Option σ) (change : σ → α → σ → Int) : σ → List α → Int
  | _, [] => 0
  | s, action :: rest =>
      match step s action with
      | some next => change s action next + netChange step change next rest
      | none => 0

/-- Changes that telescope leave only the difference between the ends of a run. -/
theorem netChange_eq_sub {change : σ → α → σ → Int} (potential : σ → Int)
    (hStep : ∀ s action next, step s action = some next →
      change s action next = potential next - potential s)
    {actions : List α} {s s' : σ} (h : run step s actions = some s') :
    netChange step change s actions = potential s' - potential s := by
  induction actions generalizing s with
  | nil =>
      obtain rfl : s = s' := Option.some.inj h
      simp [netChange]
  | cons action rest ih =>
      obtain ⟨next, hNext, hRest⟩ := run_cons_eq_some.mp h
      simp only [netChange, hNext, hStep s action next hNext, ih hRest]
      omega

end Change

end Checked
