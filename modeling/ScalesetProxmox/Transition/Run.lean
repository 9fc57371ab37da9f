import Mathlib.Data.List.Basic

/-!
# Runs of a partial transition function

A system is a function `step : σ → α → Option σ`: the label `a` is enabled in `s` when `step s a`
is a state. A run is a list of labels. `Along step P s labels` says that every step the run takes
satisfies `P`, a predicate of the state before, the label and the state after; it is decidable
whenever `P` is, so a run over concrete labels can be evaluated.

The one rule used everywhere is `along_of_invariant`: to show that a property holds along every run
whose steps meet a condition, find an invariant that each such step keeps and from which the
property of that step follows.
-/

namespace ScalesetProxmox.Transition

variable {σ α : Type*} {step : σ → α → Option σ} {s s' : σ} {labels : List α} {P Q C : σ → α → σ → Prop}
  {f : σ → α → σ → ℕ}

/-- The state after the labels, if each of them is enabled in turn. -/
def run (step : σ → α → Option σ) : σ → List α → Option σ
  | s, [] => some s
  | s, a :: labels => (step s a).bind fun s' ↦ run step s' labels

/-- `P` holds of every step taken from `s`. A label that is not enabled ends the run. -/
def Along (step : σ → α → Option σ) (P : σ → α → σ → Prop) : σ → List α → Prop
  | _, [] => True
  | s, a :: labels =>
    match step s a with
    | none => True
    | some s' => P s a s' ∧ Along step P s' labels

instance decidableAlong (P : σ → α → σ → Prop) [∀ s a s', Decidable (P s a s')] :
    (s : σ) → (labels : List α) → Decidable (Along step P s labels)
  | _, [] => .isTrue trivial
  | s, a :: labels =>
    match h : step s a with
    | none => .isTrue (by simp [Along, h])
    | some s' =>
      haveI := decidableAlong P s' labels
      decidable_of_iff (P s a s' ∧ Along step P s' labels) (by simp [Along, h])

@[simp]
theorem run_nil (s : σ) : run step s [] = some s := rfl

theorem run_cons_eq_some {a : α} :
    run step s (a :: labels) = some s' ↔ ∃ t, step s a = some t ∧ run step t labels = some s' :=
  Option.bind_eq_some_iff

theorem along_cons {a : α} : Along step P s (a :: labels) ↔
      ∀ t, step s a = some t → P s a t ∧ Along step P t labels := by
  cases h : step s a <;> simp [Along, h]

/-- Two properties hold along a run when both hold of each of its steps. -/
theorem along_and : Along step (fun s a t ↦ P s a t ∧ Q s a t) s labels ↔
      Along step P s labels ∧ Along step Q s labels := by
  induction labels generalizing s with
  | nil => exact ⟨fun _ ↦ ⟨trivial, trivial⟩, fun _ ↦ trivial⟩
  | cons a labels ih =>
    simp only [along_cons, ih]
    grind

/-- A run that satisfies `P` throughout satisfies it after any part of it. -/
theorem along_of_along_append {first second : List α} (h : Along step P s (first ++ second))
    (hrun : run step s first = some s') :
    Along step P s' second := by
  induction first generalizing s with
  | nil =>
    rw [run_nil, Option.some.injEq] at hrun
    exact hrun ▸ h
  | cons a first ih =>
    obtain ⟨t, ht, hrest⟩ := run_cons_eq_some.mp hrun
    rw [List.cons_append, along_cons] at h
    exact ih (h t ht).2 hrest

theorem along_left_of_append {first second : List α} (h : Along step P s (first ++ second)) :
    Along step P s first := by
  induction first generalizing s with
  | nil => trivial
  | cons a first ih =>
    rw [List.cons_append, along_cons] at h
    rw [along_cons]
    exact fun t ht ↦ ⟨(h t ht).1, ih (h t ht).2⟩

/-- An invariant kept by every step that meets `C` carries `C` over to any property `P` of steps
that the invariant yields. -/
theorem along_of_invariant (Inv : σ → Prop)
    (hstep : ∀ s a t, Inv s → C s a t → step s a = some t → P s a t ∧ Inv t) (hinv : Inv s)
    (hC : Along step C s labels) : Along step P s labels := by
  induction labels generalizing s with
  | nil => trivial
  | cons a labels ih =>
    rw [along_cons] at hC ⊢
    intro t ht
    obtain ⟨hP, hInv⟩ := hstep s a t hinv (hC t ht).1 ht
    exact ⟨hP, ih hInv (hC t ht).2⟩

/-- Two properties of steps that agree wherever an invariant holds agree along every run, if the
steps that have them keep the invariant. -/
theorem along_congr_of_invariant (Inv : σ → Prop)
    (hstep : ∀ s a t, Inv s → step s a = some t → (P s a t ↔ Q s a t) ∧ (P s a t → Inv t)) (hinv : Inv s) :
    Along step P s labels ↔ Along step Q s labels := by
  constructor
  · refine along_of_invariant Inv (fun s a t hs hP ht ↦ ?_) hinv
    obtain ⟨hiff, hkeep⟩ := hstep s a t hs ht
    exact ⟨hiff.mp hP, hkeep hP⟩
  · refine along_of_invariant Inv (fun s a t hs hQ ht ↦ ?_) hinv
    obtain ⟨hiff, hkeep⟩ := hstep s a t hs ht
    exact ⟨hiff.mpr hQ, hkeep (hiff.mpr hQ)⟩

/-- The invariant of `along_of_invariant` also holds in the state that a run ends in. -/
theorem invariant_of_along (Inv : σ → Prop) (hstep : ∀ s a t, Inv s → C s a t → step s a = some t → Inv t)
    (hinv : Inv s) (hC : Along step C s labels) (hrun : run step s labels = some s') : Inv s' := by
  induction labels generalizing s with
  | nil =>
    rw [run_nil, Option.some.injEq] at hrun
    exact hrun ▸ hinv
  | cons a labels ih =>
    obtain ⟨t, ht, hrest⟩ := run_cons_eq_some.mp hrun
    rw [along_cons] at hC
    exact ih (hstep s a t hinv (hC t ht).1 ht) (hC t ht).2 hrest

theorem along_of_step (hstep : ∀ s a t, step s a = some t → P s a t) : Along step P s labels := by
  induction labels generalizing s with
  | nil => trivial
  | cons a labels ih => exact along_cons.mpr fun t ht ↦ ⟨hstep s a t ht, ih⟩

/-- A run that loses a property loses it in one of its steps. -/
theorem exists_step_of_lost {P : σ → Prop} (hs : P s) (hs' : ¬P s') (hrun : run step s labels = some s') :
    ∃ before a after t u, labels = before ++ a :: after ∧ run step s before = some t ∧
      step t a = some u ∧ P t ∧ ¬P u := by
  induction labels generalizing s with
  | nil =>
    rw [run_nil, Option.some.injEq] at hrun
    exact absurd (hrun ▸ hs) hs'
  | cons a labels ih =>
    obtain ⟨t, ht, hrest⟩ := run_cons_eq_some.mp hrun
    by_cases hP : P t
    · obtain ⟨before, b, after, x, y, rfl, hbefore, hstep⟩ := ih hP hrest
      exact ⟨a :: before, b, after, x, y, rfl, run_cons_eq_some.mpr ⟨t, ht, hbefore⟩, hstep⟩
    · exact ⟨[], a, labels, s, t, rfl, rfl, ht, hs, hP⟩

/-! ## Counting along a run -/

/-- The sum of `f` over the steps of the run. -/
def tally (step : σ → α → Option σ) (f : σ → α → σ → ℕ) : σ → List α → ℕ
  | _, [] => 0
  | s, a :: labels =>
    match step s a with
    | none => 0
    | some t => f s a t + tally step f t labels

theorem tally_cons_eq {a : α} : tally step f s (a :: labels) =
    (step s a).elim 0 fun t ↦ f s a t + tally step f t labels := by
  cases h : step s a <;> simp [tally, h]

theorem tally_cons {a : α} {t : σ} (h : step s a = some t) :
    tally step f s (a :: labels) = f s a t + tally step f t labels := by
  rw [tally_cons_eq, h, Option.elim_some]

theorem tally_conserved {g : σ → α → σ → ℕ} (potential : σ → ℕ) (Inv : σ → Prop)
    (hstep : ∀ s a t, Inv s → C s a t → step s a = some t →
      f s a t + potential t = potential s + g s a t ∧ Inv t) (hinv : Inv s) (hC : Along step C s labels)
    (hrun : run step s labels = some s') :
    tally step f s labels + potential s' = potential s + tally step g s labels := by
  induction labels generalizing s with
  | nil =>
    rw [run_nil, Option.some.injEq] at hrun
    rw [hrun]
    exact (Nat.zero_add _).trans (Nat.add_zero _).symm
  | cons a labels ih =>
    obtain ⟨t, ht, hrest⟩ := run_cons_eq_some.mp hrun
    rw [along_cons] at hC
    obtain ⟨hbalance, hInv⟩ := hstep s a t hinv (hC t ht).1 ht
    have := ih hInv (hC t ht).2 hrest
    rw [tally_cons ht, tally_cons ht]
    omega

/-- A count that every step takes out of a potential is bounded by it. -/
theorem tally_le (potential : σ → ℕ) (Inv : σ → Prop) (hstep : ∀ s a t, Inv s → C s a t → step s a = some t →
      f s a t + potential t ≤ potential s ∧ Inv t) (hinv : Inv s) (hC : Along step C s labels) :
    tally step f s labels ≤ potential s := by
  induction labels generalizing s with
  | nil => exact Nat.zero_le _
  | cons a labels ih =>
    cases ht : step s a with
    | none =>
      rw [tally_cons_eq, ht]
      exact Nat.zero_le _
    | some t =>
      rw [along_cons] at hC
      obtain ⟨hpaid, hInv⟩ := hstep s a t hinv (hC t ht).1 ht
      have := ih hInv (hC t ht).2
      rw [tally_cons ht]
      omega

end ScalesetProxmox.Transition
