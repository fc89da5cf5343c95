import Mathlib.Algebra.BigOperators.Group.List.Basic
import Mathlib.Algebra.Ring.Nat
import SettlementOracle.Checked.Ledger
import SettlementOracle.Checked.Transition

/-! Termination of guarded systems. Every phase of a party has a weight, a bound on
the moves that are left to it, and a step that moves a party lowers the total. -/
namespace Checked

section Weights

variable {ι φ : Type} {weight : φ → Nat} {parties : List (Party ι φ)} {key : ι} {old new : φ}
  {i : Nat}

/-- The moves that are left to all parties together. -/
def phaseWork (weight : φ → Nat) (parties : List (Party ι φ)) : Nat :=
  (parties.map fun party => weight party.phase).sum

theorem phaseWork_set (h : parties[i]? = some ⟨key, old⟩) :
    phaseWork weight (parties.set i ⟨key, new⟩) + weight old =
      phaseWork weight parties + weight new := by
  induction parties generalizing i with
  | nil => simp at h
  | cons head tail ih =>
      cases i with
      | zero =>
          obtain rfl : head = ⟨key, old⟩ := by simpa using h
          simp only [phaseWork, List.set_cons_zero, List.map_cons, List.sum_cons]
          omega
      | succ i =>
          have hTail := ih (by simpa using h)
          simp only [phaseWork, List.set_cons_succ, List.map_cons, List.sum_cons] at hTail ⊢
          omega

theorem phaseWork_set_lt (h : parties[i]? = some ⟨key, old⟩) (hLess : weight new < weight old) :
    phaseWork weight (parties.set i ⟨key, new⟩) < phaseWork weight parties := by
  have hSum : phaseWork weight (parties.set i ⟨key, new⟩) + weight old =
      phaseWork weight parties + weight new := phaseWork_set h
  omega

end Weights

section Runs

variable {σ α : Type} {step : σ → α → Option σ}

/-- Where every state that is not done has a step towards it, a run leads there. -/
theorem exists_run_of_progress {Inv Done : σ → Prop} {Allowed : α → Prop} (measure : σ → Nat)
    (hProgress : ∀ s, Inv s → ¬Done s → ∃ action next, Allowed action ∧
      step s action = some next ∧ measure next < measure s ∧ Inv next)
    (s : σ) (hInv : Inv s) :
    ∃ actions s', (∀ action ∈ actions, Allowed action) ∧ run step s actions = some s' ∧
      Inv s' ∧ Done s' := by
  induction hMeasure : measure s using Nat.strongRecOn generalizing s with
  | ind bound ih =>
      by_cases hDone : Done s
      · exact ⟨[], s, by simp, rfl, hInv, hDone⟩
      · obtain ⟨action, next, hAllowed, hStep, hLess, hNext⟩ := hProgress s hInv hDone
        obtain ⟨actions, s', hActions, hRun, hEnd⟩ := ih (measure next) (hMeasure ▸ hLess) next hNext rfl
        exact ⟨action :: actions, s', by simpa using ⟨hAllowed, hActions⟩,
          run_cons_eq_some.mpr ⟨next, hStep, hRun⟩, hEnd⟩

end Runs

end Checked
