import ScalesetProxmox.Pool.Effects

/-!
# Calls that go with a change of state

Most writes of the pool come with a call: whoever moves a row to Draining calls `destroyAsync`,
whoever moves it to Recycling calls `rollbackAsync`. `Action.Accounts` says this of an action: a count
over its successors stays where it was in every outcome, except that it goes up by one in the outcome
that takes the row to the target state. `Action.Accounts.exec` turns it into an equation about the
step.
-/

namespace ScalesetProxmox.Pool

open Store (VMID State)

variable {cfg : Config} {s s' : Shared} {action : Action} {next : List Task} {v : VMID}
  {during : ℕ → Bool} {target : State} {count : List Task → ℕ} {base : ℕ}

def enters (target : State) (store store' : Store) (v : VMID) : Bool :=
  !(store.get v).any (·.state = target) && (store'.get v).any (·.state = target)

theorem enters_of_eq {store store' : Store} (h : store'.get v = store.get v) :
    enters target store store' v = false := by
  simp [enters, h]

/-- Every outcome of the action leaves `count` at `base`, plus one if it takes the row of `v` to
`target` in a generation that matters. -/
def Action.Accounts (v : VMID) (during : ℕ → Bool) (target : State) (count : List Task → ℕ)
    (base : ℕ) : Action → Prop
  | .skip next | .delete _ next | .settle _ next => count next = base
  | .clock k => ∀ now, count (k now) = base
  | .flags k => ∀ draining cancelled, count (k draining cancelled) = base
  | .read k => ∀ store, count (k store) = base
  | .insert row _ k =>
      (∀ gen, count (k gen true) =
        base + if row.vmid = v ∧ during gen = true ∧ row.state = target then 1 else 0) ∧
      ∀ gen, count (k gen false) = base
  | .update u mutate k =>
      (∀ gen result, count (k gen result) = base) ∧
      (u = v → ∀ now row, (mutate now row).state = target → row.state = target)
  | .cas u allowed state mutate k =>
      (∀ gen row, row.vmid = u → count (k gen (some row)) =
        base + if u = v ∧ during gen = true ∧ state = target then 1 else 0) ∧
      (∀ gen, count (k gen none) = base) ∧
      (∀ now row, (mutate now row).state = row.state) ∧ (state = target → target ∉ allowed)
  | .acquire _ _ _ k => (∀ row, count (k row) = base) ∧ target ≠ .assigned
  | .enqueue _ => count [] = base
  | .allocate k => ∀ allocated, count (k allocated) = base
  | .observe _ k => ∀ evidence, count (k evidence) = base
  | .listOwned _ k => ∀ owned, count (k owned) = base
  | .listRunners k => ∀ runners, count (k runners) = base
  | .create _ k | .touch _ _ _ k | .remove _ _ k => ∀ found, count (k found) = base

theorem enters_put {store : Store} {row : Store.VM} (h : row.vmid = v) :
    enters target store (store.put row) v =
      (!(store.get v).any (·.state = target) && decide (row.state = target)) := by
  rw [enters, Table.get_put, if_pos h.symm]
  rfl

theorem enters_put_ne {store : Store} {row : Store.VM} (h : v ≠ row.vmid) :
    enters target store (store.put row) v = false :=
  enters_of_eq (by rw [Table.get_put, if_neg h])

theorem Action.Accounts.not_enters (haccounts : action.Accounts v during target count base)
    (hcas : ∀ u allowed state mutate k, action ≠ .cas u allowed state mutate k)
    (hinsert : ∀ row adopted k, action ≠ .insert row adopted k)
    (h : action.exec cfg s = some (s', next)) : enters target s.store s'.store v = false := by
  rcases exec_row h v with hsame | hrow
  · exact enters_of_eq hsame
  · cases action with
    | update u mutate k =>
      obtain ⟨rfl, row, hold, hnew⟩ := hrow
      have hkept := haccounts.2 rfl s.now row
      by_cases hstate : row.state = target
      · simp [enters, hold, hstate]
      · have hstate' : (mutate s.now row).state ≠ target := fun heq ↦ hstate (hkept heq)
        simp [enters, hnew, hstate']
    | acquire profile jobID maxBusy k =>
      obtain ⟨row, _, _, hnew⟩ := hrow
      simp [enters, hnew, Store.VM.assignedTo, haccounts.2.symm]
    | delete u k => simp [enters, hrow.2]
    | cas u allowed state mutate k => exact absurd rfl (hcas u allowed state mutate k)
    | insert row adopted k => exact absurd rfl (hinsert row adopted k)
    | _ => exact hrow.elim

/-- Nor does it change the count. -/
theorem Action.Accounts.count_eq (haccounts : action.Accounts v during target count base)
    (hcas : ∀ u allowed state mutate k, action ≠ .cas u allowed state mutate k)
    (hinsert : ∀ row adopted k, action ≠ .insert row adopted k)
    (h : action.exec cfg s = some (s', next)) : count next = base := by
  cases outcome_of_exec h with
  | inserted | notInserted => exact absurd rfl (hinsert _ _ _)
  | swapped | notSwapped => exact absurd rfl (hcas _ _ _ _ _)
  | updated | notUpdated => exact haccounts.1 _ _
  | acquired | notAcquired => exact haccounts.1 _
  | skip | deleted | settle | enqueued | notEnqueued => exact haccounts
  | flags => exact haccounts _ _
  | _ => exact haccounts _

theorem Action.Accounts.exec (haccounts : action.Accounts v during target count base)
    (h : action.exec cfg s = some (s', next)) :
    count next = base +
      (if during (s'.gens v) ∧ enters target s.store s'.store v = true then 1 else 0) := by
  have hplain : enters target s.store s'.store v = false → count next = base →
      count next = base +
        (if during (s'.gens v) = true ∧ enters target s.store s'.store v = true then 1 else 0) := by
    intro henters hcount
    simp [henters, hcount]
  cases outcome_of_exec h with
  | @inserted row adopted k hnew =>
    obtain ⟨hstore, hgens, _⟩ := afterInsert_eq
      (s.commit row.vmid (s.store.put (row.stampInsert s.now))) row.vmid adopted
    rw [haccounts.1, hstore, hgens, commit_store]
    by_cases hv : row.vmid = v
    · subst hv
      rw [enters_put (show (row.stampInsert s.now).vmid = row.vmid from rfl), hnew]
      simp only [true_and, Option.any_none, Bool.not_false, Bool.true_and, decide_eq_true_eq]
      rfl
    · rw [enters_put_ne (Ne.symm hv : v ≠ (row.stampInsert s.now).vmid)]
      simp [hv]
  | notInserted =>
    refine hplain (enters_of_eq ?_) (haccounts.2 _)
    split <;> rfl
  | @swapped u allowed state mutate k row hrow hstate hvmid =>
    obtain ⟨hpaid, _, hmutate, hallowed⟩ := haccounts
    have hgens := exec_gens h u
    have hmoved : (row.moved s.now state (mutate s.now)).state = state := hmutate _ _
    rw [hpaid _ _ hvmid, commit_store]
    by_cases hv : u = v
    · subst hv
      rw [hrow] at hgens
      rw [hgens, enters_put hvmid, hmoved, hrow]
      by_cases htarget : state = target
      · have hne : row.state ≠ target := fun heq ↦ hallowed htarget (heq ▸ hstate)
        simp [htarget, hne]
      · simp [htarget]
    · rw [enters_put_ne fun heq ↦ hv (hvmid.symm.trans heq.symm)]
      simp [hv]
  | notSwapped => exact hplain (enters_of_eq rfl) (haccounts.2.1 _)
  | _ =>
    exact hplain (haccounts.not_enters (by simp) (by simp) h)
      (haccounts.count_eq (by simp) (by simp) h)

end ScalesetProxmox.Pool
