import Mathlib.Data.PEquiv

/-!
# Matchings that change by one pair

A partial equivalence pairs some elements of two types one to one, and can be read in both directions.
`join` adds a pair of two elements that are free and `part` takes out the pair of one element.
-/

namespace ScalesetProxmox.Matching

variable {α β : Type*} [DecidableEq α] [DecidableEq β] {f : α ≃. β} {a x : α} {b : β}

/-- Pair two free elements. -/
def join (f : α ≃. β) (a : α) (b : β) (ha : f a = none) (hb : f.symm b = none) : α ≃. β where
  toFun := Function.update f a (some b)
  invFun := Function.update f.symm b (some a)
  inv x y := by
    have hfree : f.symm b ≠ some x := by simp [hb]
    have hfree' : f a ≠ some y := by simp [ha]
    rw [Ne, PEquiv.eq_some_iff] at hfree
    by_cases hx : x = a
    · subst hx
      by_cases hy : y = b
      · simp [hy]
      · rw [Function.update_of_ne hy, Function.update_self, PEquiv.eq_some_iff]
        simp [hfree', Ne.symm hy]
    · by_cases hy : y = b
      · subst hy
        simp [hx, hfree, Ne.symm hx]
      · rw [Function.update_of_ne hy, Function.update_of_ne hx, PEquiv.eq_some_iff]

/-- Take out the pair of `a`, if it has one. -/
def part (f : α ≃. β) (a : α) : α ≃. β where
  toFun := Function.update f a none
  invFun y := if f a = some y then none else f.symm y
  inv x y := by
    by_cases hx : x = a
    · subst hx
      rw [Function.update_self]
      split_ifs with h
      · simp
      · simpa [PEquiv.eq_some_iff] using h
    · rw [Function.update_of_ne hx]
      split_ifs with h
      · simpa using fun hother ↦ hx (f.inj hother h)
      · exact f.eq_some_iff

theorem coe_part : (part f a : α → Option β) = Function.update f a none := rfl

theorem coe_symm_part (h : f a = some b) :
    ((part f a).symm : β → Option α) = Function.update f.symm b none := by
  funext y
  change (if f a = some y then none else f.symm y) = _
  by_cases hy : y = b
  · rw [hy, if_pos h, Function.update_self]
  · have hne : f a ≠ some y := fun hsame ↦ hy (Option.some.inj (hsame.symm.trans h))
    rw [if_neg hne, Function.update_of_ne hy]

/-- A free element has no pair to take out. -/
theorem part_eq_self (h : f a = none) : part f a = f := by
  ext x y
  rw [coe_part, ← h, Function.update_eq_self]

@[simp]
theorem join_self (ha : f a = none) (hb : f.symm b = none) : join f a b ha hb a = some b := by
  rw [join, PEquiv.coe_mk, Function.update_self]

theorem join_of_ne (ha : f a = none) (hb : f.symm b = none) (h : x ≠ a) :
    join f a b ha hb x = f x := by
  rw [join, PEquiv.coe_mk, Function.update_of_ne h]

@[simp]
theorem part_self : part f a a = none := by
  rw [part, PEquiv.coe_mk, Function.update_self]

theorem part_of_ne (h : x ≠ a) : part f a x = f x := by
  rw [part, PEquiv.coe_mk, Function.update_of_ne h]

end ScalesetProxmox.Matching
