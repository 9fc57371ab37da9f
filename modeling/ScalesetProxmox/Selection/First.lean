import Mathlib.Data.List.MinMax

/-!
# The first of the best

A loop that goes through a list and keeps the best candidate so far: a later candidate replaces it only
when its score is strictly lower. The result is Mathlib's `argmin` over the candidates, and
`leader_eq_some_iff` says where in the list it stands.
-/

namespace ScalesetProxmox.Selection

variable {α β : Type*} [LinearOrder β] {p : α → Bool} {score : α → β} {l : List α} {a m : α}

/-- One turn of the loop. -/
def keepBetter (p : α → Bool) (score : α → β) (best : Option α) (a : α) : Option α :=
  if p a then
    match best with
    | none => some a
    | some b => if score a < score b then some a else some b
  else
    best

/-- The candidate that the loop ends with. -/
def leader (p : α → Bool) (score : α → β) (l : List α) : Option α := l.foldl (keepBetter p score) none

theorem leader_eq_argmin : leader p score l = (l.filter p).argmin score := by
  have hturn (best : Option α) (a : α) : keepBetter p score best a =
      if p a then List.argAux (fun b c ↦ score b < score c) best a else best := by
    cases best <;> rfl
  rw [leader, List.argmin, List.foldl_filter]
  congr 1
  funext best a
  exact hturn best a

theorem leader_eq_none_iff : leader p score l = none ↔ ∀ a ∈ l, p a = false := by
  rw [leader_eq_argmin, List.argmin_eq_none, List.filter_eq_nil_iff]
  simp only [Bool.not_eq_true]

/-- The first of the least elements stands before elements that are not less and after elements that are
greater. -/
theorem argmin_eq_some_iff_append :
    l.argmin score = some m ↔ ∃ before after, l = before ++ m :: after ∧
      (∀ a ∈ before, score m < score a) ∧ ∀ a ∈ after, score m ≤ score a := by
  constructor
  · intro h
    induction l generalizing m with
    | nil => cases h
    | cons a l ih =>
      rw [List.argmin_cons] at h
      cases hl : l.argmin score with
      | none =>
        rw [hl] at h
        cases h
        rw [List.argmin_eq_none.mp hl]
        exact ⟨[], [], rfl, by simp, by simp⟩
      | some c =>
        simp only [hl] at h
        split_ifs at h with hlt
        · cases h
          obtain ⟨before, after, rfl, hbefore, hafter⟩ := ih hl
          exact ⟨a :: before, after, rfl, List.forall_mem_cons.mpr ⟨hlt, hbefore⟩, hafter⟩
        · cases h
          refine ⟨[], l, rfl, by simp, fun b hb ↦ ?_⟩
          exact (not_lt.mp hlt).trans (List.le_of_mem_argmin hb hl)
  · rintro ⟨before, after, rfl, hbefore, hafter⟩
    induction before with
    | nil =>
      rw [List.nil_append, List.argmin_cons]
      cases hl : after.argmin score with
      | none => rfl
      | some c => exact if_neg (not_lt.mpr (hafter c (List.argmin_mem hl)))
    | cons a before ih =>
      obtain ⟨hlt, hbefore⟩ := List.forall_mem_cons.mp hbefore
      rw [List.cons_append, List.argmin_cons, ih hbefore]
      exact if_pos hlt

theorem leader_eq_some_iff :
    leader p score l = some m ↔ ∃ before after, l = before ++ m :: after ∧ p m ∧
      (∀ a ∈ before, p a → score m < score a) ∧ ∀ a ∈ after, p a → score m ≤ score a := by
  rw [leader_eq_argmin, argmin_eq_some_iff_append]
  constructor
  · rintro ⟨before, after, hsplit, hbefore, hafter⟩
    obtain ⟨first, rest, rfl, rfl, hrest⟩ := List.filter_eq_append_iff.mp hsplit
    obtain ⟨skipped, last, rfl, hskipped, hm, rfl⟩ := List.filter_eq_cons_iff.mp hrest
    refine ⟨first ++ skipped, last, by simp, hm, fun a ha hp ↦ ?_, fun a ha hp ↦ ?_⟩
    · rcases List.mem_append.mp ha with hfirst | hskip
      · exact hbefore a (List.mem_filter.mpr ⟨hfirst, hp⟩)
      · exact absurd hp (hskipped a hskip)
    · exact hafter a (List.mem_filter.mpr ⟨ha, hp⟩)
  · rintro ⟨before, after, rfl, hm, hbefore, hafter⟩
    refine ⟨before.filter p, after.filter p, ?_, fun a ha ↦ ?_, fun a ha ↦ ?_⟩
    · rw [List.filter_append, List.filter_cons_of_pos hm]
    · obtain ⟨hmem, hp⟩ := List.mem_filter.mp ha
      exact hbefore a hmem hp
    · obtain ⟨hmem, hp⟩ := List.mem_filter.mp ha
      exact hafter a hmem hp

theorem leader_mem (h : leader p score l = some m) : m ∈ l ∧ p m = true := by
  rw [leader_eq_argmin] at h
  exact List.mem_filter.mp (List.argmin_mem h)

theorem leader_le (h : leader p score l = some m) (ha : a ∈ l) (hp : p a) : score m ≤ score a := by
  rw [leader_eq_argmin] at h
  exact List.le_of_mem_argmin (List.mem_filter.mpr ⟨ha, hp⟩) h

/-- What is no candidate does not matter, wherever it stands. -/
theorem leader_append_cons_of_not (before after : List α) (h : p a = false) :
    leader p score (before ++ a :: after) = leader p score (before ++ after) := by
  rw [leader_eq_argmin, leader_eq_argmin, List.filter_append, List.filter_append,
    List.filter_cons_of_neg (by simp [h])]

theorem leader_map {γ : Type*} (g : γ → α) (l : List γ) :
    leader p score (l.map g) = (leader (p ∘ g) (score ∘ g) l).map g := by
  have hturn (best : Option γ) (a : γ) : keepBetter p score (best.map g) (g a) =
      (keepBetter (p ∘ g) (score ∘ g) best a).map g := by
    simp only [keepBetter, Function.comp_apply]
    cases best with
    | none => split_ifs <;> rfl
    | some b =>
      simp only [Option.map_some]
      split_ifs <;> rfl
  have hloop (best : Option γ) : (l.map g).foldl (keepBetter p score) (best.map g) =
      (l.foldl (keepBetter (p ∘ g) (score ∘ g)) best).map g := by
    induction l generalizing best with
    | nil => rfl
    | cons a l ih => rw [List.map_cons, List.foldl_cons, List.foldl_cons, hturn, ih]
  exact hloop none

end ScalesetProxmox.Selection
