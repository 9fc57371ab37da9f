import Mathlib.Data.List.Nodup

/-!
# Lists of named items

A loop that takes over the items of a list one by one and stops at the first that has no name or a name
that was seen before.
-/

namespace ScalesetProxmox.Selection

variable {α β ε : Type*} {name : α → String} {missing : ℕ → ε} {duplicate : String → ε} {make : α → β}

/-- Take over the items from index `i` on. -/
def takeNamed (name : α → String) (missing : ℕ → ε) (duplicate : String → ε) (make : α → β) :
    ℕ → List String → List β → List α → Except ε (List β)
  | _, _, out, [] => .ok out
  | i, seen, out, a :: rest =>
    if name a = "" then
      .error (missing i)
    else if name a ∈ seen then
      .error (duplicate (name a))
    else
      takeNamed name missing duplicate make (i + 1) (name a :: seen) (out ++ [make a]) rest

theorem takeNamed_eq_ok {i : ℕ} {seen : List String} {out made : List β} {l : List α}
    (h : takeNamed name missing duplicate make i seen out l = .ok made) :
    made = out ++ l.map make ∧ (∀ a ∈ l, name a ∉ seen) ∧ (l.map name).Nodup := by
  induction l generalizing i seen out with
  | nil =>
    cases h
    exact ⟨(List.append_nil _).symm, by simp, List.nodup_nil⟩
  | cons a rest ih =>
    unfold takeNamed at h
    split_ifs at h with hname hseen
    obtain ⟨rfl, hfresh, hnodup⟩ := ih h
    refine ⟨?_, List.forall_mem_cons.mpr ⟨hseen, fun b hb ↦ ?_⟩, ?_⟩
    · rw [List.append_assoc, List.singleton_append, List.map_cons]
    · exact fun hmem ↦ hfresh b hb (List.mem_cons_of_mem _ hmem)
    · rw [List.map_cons, List.nodup_cons]
      refine ⟨fun hmem ↦ ?_, hnodup⟩
      obtain ⟨b, hb, hsame⟩ := List.mem_map.mp hmem
      exact hfresh b hb (hsame ▸ List.mem_cons_self)

end ScalesetProxmox.Selection
