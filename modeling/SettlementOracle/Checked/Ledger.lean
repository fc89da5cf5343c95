import Mathlib.Data.List.Basic
import Mathlib.Logic.Function.Basic

/-! Parties that share cells. Each party belongs to one cell for life and moves
through phases. A ledger relates the phases of a cell's parties to its contents,
and each rule says how it survives one move. -/
namespace Checked

variable {ι φ χ : Type} [DecidableEq ι]

structure Party (ι φ : Type) where
  key : ι
  phase : φ
  deriving DecidableEq, Repr

section Lists

variable {α : Type} {xs : List α} {i j : Nat} {old new x y : α} {p : α → Bool}

theorem countP_set_add (h : xs[i]? = some old) :
    (xs.set i new).countP p + (p old).toNat = xs.countP p + (p new).toNat := by
  induction xs generalizing i with
  | nil => simp at h
  | cons head tail ih =>
      cases i with
      | zero =>
          obtain rfl : head = old := by simpa using h
          cases hOld : p head <;> cases hNew : p new <;> simp [hOld, hNew]
      | succ i =>
          have hTail := ih (by simpa using h)
          cases hHead : p head <;> simp [hHead] <;> omega

theorem eq_of_countP_le_one (h : xs.countP p ≤ 1) (hi : xs[i]? = some x) (hj : xs[j]? = some y)
    (hx : p x = true) (hy : p y = true) : i = j := by
  induction xs generalizing i j with
  | nil => simp at hi
  | cons head tail ih =>
      have hNone : ∀ {k : Nat} {z : α}, p head = true → tail[k]? = some z → p z ≠ true := by
        intro k z hHead hz hpz
        have hPos : 0 < tail.countP p := List.countP_pos_iff.mpr ⟨z, List.mem_of_getElem? hz, hpz⟩
        rw [List.countP_cons_of_pos hHead] at h
        omega
      cases i with
      | zero =>
          obtain rfl : head = x := by simpa using hi
          cases j with
          | zero => rfl
          | succ j => exact absurd hy (hNone hx (by simpa using hj))
      | succ i =>
          cases j with
          | zero =>
              obtain rfl : head = y := by simpa using hj
              exact absurd hx (hNone hy (by simpa using hi))
          | succ j =>
              have hTail : tail.countP p ≤ 1 :=
                Nat.le_trans (List.sublist_cons_self head tail).countP_le h
              exact congrArg Nat.succ (ih hTail (by simpa using hi) (by simpa using hj))

/-- Every entry but the replaced one is still there. -/
theorem mem_set_of_ne (h : xs[i]? = some old) (hx : x ∈ xs) (hNe : x ≠ old) : x ∈ xs.set i new := by
  obtain ⟨k, hk⟩ := List.mem_iff_getElem?.mp hx
  have hik : i ≠ k := by
    rintro rfl
    exact hNe (Option.some.inj (hk.symm.trans h))
  exact List.mem_of_getElem? ((List.getElem?_set_ne hik).trans hk)

/-- An entry behind a replacement is the new one or an old one. -/
theorem getElem?_set_cases (h : (xs.set i new)[j]? = some x) :
    (i = j ∧ new = x) ∨ xs[j]? = some x := by
  rcases eq_or_ne i j with rfl | hNe
  · rw [List.getElem?_set, if_pos rfl] at h
    split at h
    · exact Or.inl ⟨rfl, Option.some.inj h⟩
    · cases h
  · exact Or.inr ((List.getElem?_set_ne hNe).symm.trans h)

theorem getElem?_push_cases (h : (xs ++ [new])[j]? = some x) : xs[j]? = some x ∨ x = new := by
  rcases Nat.lt_or_ge j xs.length with hInside | hBeyond
  · exact Or.inl ((List.getElem?_append_left hInside).symm.trans h)
  · rw [List.getElem?_append_right hBeyond] at h
    exact Or.inr (List.mem_singleton.mp (List.mem_of_getElem? h))

end Lists

/-- Reading a cell behind an update. -/
theorem update_eq_some_iff {cells : ι → Option χ} {key other : ι} {content found : χ} :
    Function.update cells key (some content) other = some found ↔
      (other = key ∧ content = found) ∨ (other ≠ key ∧ cells other = some found) := by
  rcases eq_or_ne other key with rfl | hNe
  · simp
  · simp [hNe]

/-- The party belongs to cell `key` and is in one of the phases `q`. -/
def Party.on (q : φ → Bool) (key : ι) (party : Party ι φ) : Bool :=
  decide (party.key = key) && q party.phase

theorem Party.on_iff {q : φ → Bool} {key : ι} {party : Party ι φ} :
    party.on q key = true ↔ party.key = key ∧ q party.phase = true := by
  simp [Party.on]

/-- How many parties are in one of the phases `q`, over all cells. -/
def phaseCount (q : φ → Bool) (parties : List (Party ι φ)) : Nat :=
  parties.countP fun party => q party.phase

section Counts

variable {q r : φ → Bool} {parties : List (Party ι φ)} {key : ι} {old new : φ} {i : Nat}

omit [DecidableEq ι] in
theorem phaseCount_push :
    phaseCount q (parties ++ [⟨key, new⟩]) = phaseCount q parties + (q new).toNat := by
  rw [phaseCount, List.countP_append, phaseCount]
  cases h : q new <;> simp [h]

omit [DecidableEq ι] in
theorem phaseCount_set (h : parties[i]? = some ⟨key, old⟩) :
    phaseCount q (parties.set i ⟨key, new⟩) + (q old).toNat =
      phaseCount q parties + (q new).toNat :=
  countP_set_add h

omit [DecidableEq ι] in
theorem phaseCount_mono (h : ∀ party ∈ parties, q party.phase = true → r party.phase = true) :
    phaseCount q parties ≤ phaseCount r parties :=
  List.countP_mono_left h

end Counts

/-- Whether the cell is present and has the flag, as a number. -/
def cellFlag (f : χ → Bool) : Option χ → Nat
  | some cell => (f cell).toNat
  | none => 0

theorem cellFlag_le_one (f : χ → Bool) (cell : Option χ) : cellFlag f cell ≤ 1 := by
  cases cell with
  | none => simp [cellFlag]
  | some cell => exact Bool.toNat_le (f cell)

/-- In every cell, exactly as many parties are in the phases `q` as the flag says. -/
def Balanced (q : φ → Bool) (f : χ → Bool) (parties : List (Party ι φ)) (cells : ι → Option χ) :
    Prop :=
  ∀ key, parties.countP (Party.on q key) = cellFlag f (cells key)

/-- Every party is in a phase that its cell admits. -/
def Agrees (R : φ → Option χ → Prop) (parties : List (Party ι φ)) (cells : ι → Option χ) : Prop :=
  ∀ party ∈ parties, R party.phase (cells party.key)

section Rules

variable {q : φ → Bool} {f : χ → Bool} {R : φ → Option χ → Prop} {parties : List (Party ι φ)}
  {cells : ι → Option χ} {key : ι} {before after : χ} {old new : φ} {i : Nat}

theorem Party.countP_on_pos (hParty : ⟨key, old⟩ ∈ parties) (hPhase : q old = true) :
    0 < parties.countP (Party.on q key) :=
  List.countP_pos_iff.mpr ⟨⟨key, old⟩, hParty, Party.on_iff.mpr ⟨rfl, hPhase⟩⟩

theorem Balanced.le_one (h : Balanced q f parties cells) (key : ι) :
    parties.countP (Party.on q key) ≤ 1 := by
  rw [h key]
  exact cellFlag_le_one f _

/-- A party in one of the phases proves that the flag is set. -/
theorem Balanced.flag_of_mem (h : Balanced q f parties cells) (hParty : ⟨key, old⟩ ∈ parties)
    (hPhase : q old = true) (hCell : cells key = some before) : f before = true := by
  have hPos := Party.countP_on_pos hParty hPhase
  rw [h key, hCell, cellFlag] at hPos
  cases hFlag : f before with
  | true => rfl
  | false => simp [hFlag] at hPos

theorem Balanced.cell_of_mem (h : Balanced q f parties cells) (hParty : ⟨key, old⟩ ∈ parties)
    (hPhase : q old = true) : ∃ content, cells key = some content := by
  have hPos := Party.countP_on_pos hParty hPhase
  rw [h key] at hPos
  cases hCell : cells key with
  | none => simp [hCell, cellFlag] at hPos
  | some content => exact ⟨content, rfl⟩

/-- A set flag proves that some party is in one of the phases. -/
theorem Balanced.exists_of_flag (h : Balanced q f parties cells) (hCell : cells key = some before)
    (hFlag : f before = true) : ∃ phase, ⟨key, phase⟩ ∈ parties ∧ q phase = true := by
  have hPos : 0 < parties.countP (Party.on q key) := by
    rw [h key, hCell, cellFlag, hFlag]
    decide
  obtain ⟨⟨other, phase⟩, hMem, hOn⟩ := List.countP_pos_iff.mp hPos
  obtain ⟨rfl, hPhase⟩ := Party.on_iff.mp hOn
  exact ⟨phase, hMem, hPhase⟩

theorem Balanced.push (h : Balanced q f parties cells) (hPhase : q new = false) :
    Balanced q f (parties ++ [⟨key, new⟩]) cells := by
  intro other
  simpa [Party.on, hPhase] using h other

/-- A cell may be created or changed as long as its flag stays the same. -/
theorem Balanced.cell (h : Balanced q f parties cells)
    (hFlag : cellFlag f (cells key) = (f after).toNat) :
    Balanced q f parties (Function.update cells key (some after)) := by
  intro other
  rcases eq_or_ne other key with rfl | hNe
  · rw [h other, Function.update_self]
    exact hFlag
  · simpa [Function.update_of_ne hNe] using h other

/-- A move that changes the phase and the flag together. -/
theorem Balanced.move (h : Balanced q f parties cells) (hParty : parties[i]? = some ⟨key, old⟩)
    (hCell : cells key = some before)
    (hFlag : (q new).toNat + (f before).toNat = (q old).toNat + (f after).toNat) :
    Balanced q f (parties.set i ⟨key, new⟩) (Function.update cells key (some after)) := by
  intro other
  have hCount : (parties.set i ⟨key, new⟩).countP (Party.on q other) + _ = _ :=
    countP_set_add hParty
  have hOther := h other
  rcases eq_or_ne other key with rfl | hNe
  · simp only [Party.on, decide_true, Bool.true_and, hCell, cellFlag, Function.update_self] at *
    omega
  · simp only [Party.on, hNe.symm, decide_false, Bool.false_and, Bool.toNat_false,
      Function.update_of_ne hNe] at *
    omega

/-- A move that leaves the cell alone. -/
theorem Balanced.phase (h : Balanced q f parties cells) (hParty : parties[i]? = some ⟨key, old⟩)
    (hPhase : q new = q old) : Balanced q f (parties.set i ⟨key, new⟩) cells := by
  intro other
  have hCount : (parties.set i ⟨key, new⟩).countP (Party.on q other) + _ = _ :=
    countP_set_add hParty
  rw [← h other]
  simp only [Party.on, hPhase] at *
  omega

omit [DecidableEq ι] in
theorem Agrees.push (h : Agrees R parties cells) (hPhase : R new (cells key)) :
    Agrees R (parties ++ [⟨key, new⟩]) cells := by
  intro party hParty
  rcases List.mem_append.mp hParty with hOld | hNew
  · exact h party hOld
  · obtain rfl : party = ⟨key, new⟩ := by simpa using hNew
    exact hPhase

/-- A cell may change in any way that every phase tolerates. -/
theorem Agrees.cell (h : Agrees R parties cells)
    (hCell : ∀ phase, R phase (cells key) → R phase (some after)) :
    Agrees R parties (Function.update cells key (some after)) := by
  intro party hParty
  rcases eq_or_ne party.key key with hKey | hNe
  · have hOld := h party hParty
    rw [hKey] at hOld
    simpa [hKey] using hCell party.phase hOld
  · simpa [Function.update_of_ne hNe] using h party hParty

omit [DecidableEq ι] in
theorem Agrees.phase (h : Agrees R parties cells) (hPhase : R new (cells key)) :
    Agrees R (parties.set i ⟨key, new⟩) cells := by
  intro party hParty
  rcases List.mem_or_eq_of_mem_set hParty with hOld | rfl
  · exact h party hOld
  · exact hPhase

theorem Agrees.move (h : Agrees R parties cells)
    (hCell : ∀ phase, R phase (cells key) → R phase (some after)) (hPhase : R new (some after)) :
    Agrees R (parties.set i ⟨key, new⟩) (Function.update cells key (some after)) :=
  (h.cell hCell).phase (by simpa using hPhase)

end Rules

end Checked
