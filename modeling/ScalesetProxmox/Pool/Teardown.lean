import ScalesetProxmox.Pool.Lifecycle

/-!
# Teardown is absorbing, up to the workers' blind writes

Once a row is Draining or Destroying its destroy is committed. The lifecycle has no move out of
these states, so a generation can only leave them by being deleted, unless a clone or boot worker
that outlived the row's live states makes its blind write: `teardown_absorbs` shows that this is the
only way, for every interleaving, and `boot_revives_draining_row` is a run on which it happens.
-/

namespace ScalesetProxmox.Pool

open Store (VMID)
open Transition

variable {cfg : Config} {start sys sys' : Sys} {act : Act} {v : VMID}

/-- The store has a row for the VMID whose destroy is committed. -/
def tornDown (store : Store) (v : VMID) : Bool := (store.get v).any (·.state.teardown)

/-- A worker about to write a state blindly finds its row outside teardown. -/
def SparesTeardown (sys : Sys) (act : Act) (_ : Sys) : Prop :=
  ∀ write ∈ (moving sys act).bind Task.blindWrite, tornDown sys.shared.store write.1 = false

instance (sys : Sys) (act : Act) (sys' : Sys) : Decidable (SparesTeardown sys act sys') :=
  inferInstanceAs (Decidable (∀ _ ∈ _, _))

/-- Rows in teardown at the first state are, while their generation lasts, in teardown at the
second. -/
def TeardownAbsorbs (sys sys' : Sys) : Prop :=
  ∀ v, tornDown sys.shared.store v = true → sys'.shared.gens v = sys.shared.gens v →
    ∀ row, sys'.shared.store.get v = some row → row.state.teardown = true

theorem step_teardown (h : step cfg sys act = some sys') (hspares : SparesTeardown sys act sys')
    {old new : Store.VM} (hold : sys.shared.store.get v = some old)
    (hteardown : old.state.teardown) (hnew : sys'.shared.store.get v = some new) :
    new.state.teardown = true := by
  rcases step_row_some h hnew with
    hsame | ⟨reply, task, hmoving, ⟨row, hsome, hrow⟩ | ⟨hnone, _⟩⟩
  · rw [hold, Option.some.injEq] at hsame
    rw [← hsame, hteardown]
  · rw [hold, Option.some.injEq] at hsome
    subst hsome
    rcases rowStep_move hrow with hmove | hblind
    · exact hmove.teardown hteardown
    · have htorn : tornDown sys.shared.store v := by simp [tornDown, hold, hteardown]
      have hspared := hspares (v, new.state) (by simp [hmoving, hblind])
      rw [htorn] at hspared
      cases hspared
  · cases hold.symm.trans hnone

/-- What the run keeps of a row that was in teardown in generation `gen`: the generation is over, or
the row is still in teardown. -/
def TornDownUntil (v : VMID) (gen : ℕ) (sys : Sys) : Prop :=
  gen < sys.shared.gens v ∨ (sys.shared.gens v = gen ∧
    ∀ row, sys.shared.store.get v = some row → row.state.teardown = true)

theorem TornDownUntil.step {gen : ℕ} (hinv : TornDownUntil v gen sys)
    (hspares : SparesTeardown sys act sys') (h : step cfg sys act = some sys') :
    TornDownUntil v gen sys' := by
  have hgens := step_gens h v
  rcases hinv with hlater | ⟨hgen, htorn⟩
  · left
    split_ifs at hgens <;> omega
  · cases hold : sys.shared.store.get v with
    | some old =>
      right
      refine ⟨by simpa [hold, hgen] using hgens, fun new hnew ↦ ?_⟩
      exact step_teardown h hspares hold (htorn old hold) hnew
    | none =>
      cases hnew : sys'.shared.store.get v with
      | none =>
        refine .inr ⟨by simpa [hold, hnew, hgen] using hgens, fun row hrow ↦ ?_⟩
        cases hnew.symm.trans hrow
      | some new =>
        left
        rw [hgens, hold, hnew, hgen]
        exact Nat.lt_succ_self gen

/-- Along a run whose blind writes spare teardown, teardown is absorbing between any two states, and
no Acquire touches a row whose destroy was committed earlier in its generation. -/
theorem teardown_absorbs {before after : List Act}
    (hspares : Along (step cfg) SparesTeardown start (before ++ after))
    (hbefore : run (step cfg) start before = some sys) (hafter : run (step cfg) sys after = some sys') :
    TeardownAbsorbs sys sys' ∧
    ∀ v i reply profile jobID maxBusy sys'', tornDown sys.shared.store v = true →
      sys'.shared.gens v = sys.shared.gens v →
      sys'.threads[i]? = some (.acquire profile jobID maxBusy) →
      step cfg sys' (.fire i reply) = some sys'' →
      sys''.shared.store.get v = sys'.shared.store.get v := by
  have hrest := along_of_along_append hspares hbefore
  have habsorbs : TeardownAbsorbs sys sys' := by
    intro v htorn hgen row hrow
    have hstart : TornDownUntil v (sys.shared.gens v) sys := by
      refine .inr ⟨rfl, fun old hold ↦ ?_⟩
      simpa [tornDown, hold] using htorn
    have hend : TornDownUntil v (sys.shared.gens v) sys' := by
      refine invariant_of_along _ (fun _ _ _ hinv hmeets hstep ↦ ?_) hstart hrest hafter
      exact hinv.step hmeets hstep
    rcases hend with hlater | ⟨_, hkept⟩
    · omega
    · exact hkept row hrow
  refine ⟨habsorbs, fun v i reply profile jobID maxBusy sys'' htorn hgen hthread hstep ↦ ?_⟩
  rcases step_row hstep v with hsame | ⟨hcrash, _⟩ | ⟨reply', task, hmoving, hrow⟩
  · exact hsame
  · cases hcrash
  · -- an Acquire that touches the row finds it Hot
    cases hthread.symm.trans hmoving
    exfalso
    obtain ⟨row, hrow', hhot⟩ : ∃ row, sys'.shared.store.get v = some row ∧ row.state = .hot := by
      dsimp at hrow
      split at hrow
      · exact hrow.elim
      · obtain ⟨row, hrow', hhot, _⟩ := hrow
        exact ⟨row, hrow', hhot⟩
    have := habsorbs v htorn hgen row hrow'
    rw [hhot] at this
    cases this

/-- A warm clone is force-destroyed and its destroy reaches a worker. -/
theorem teardown_absorbs_forceDestroy :
    ∃ sys ∈ run (step smallPool) freshPool
        (adoptNothing ++ cloneOne .warm false ++ [.call (.forceDestroy 10000), .fire 0 .ok]),
      ∃ sys' ∈ run (step smallPool) sys [.fire 0 .ok, .fire 0 .ok, .dispatch],
        tornDown sys.shared.store 10000 = true ∧
        sys'.shared.gens 10000 = sys.shared.gens 10000 ∧ TeardownAbsorbs sys sys' := by
  obtain ⟨sys, hsys, sys', hsys', htorn, hgen⟩ :
      ∃ sys ∈ run (step smallPool) freshPool
          (adoptNothing ++ cloneOne .warm false ++ [.call (.forceDestroy 10000), .fire 0 .ok]),
        ∃ sys' ∈ run (step smallPool) sys [.fire 0 .ok, .fire 0 .ok, .dispatch],
          tornDown sys.shared.store 10000 = true ∧
          sys'.shared.gens 10000 = sys.shared.gens 10000 := by decide
  exact ⟨sys, hsys, sys', hsys', htorn, hgen, (teardown_absorbs (by decide) hsys hsys').1⟩

/-- A boot worker has seen its guest come up when the row is force-destroyed: its write makes the
row Hot again, and an Acquire hands it out while the destroy is on its way. -/
theorem boot_revives_draining_row :
    ∃ sys ∈ run (step smallPool) freshPool (adoptNothing ++ cloneOne .hot true ++
        [.fire 0 .ok, .call (.forceDestroy 10000), .fire 1 .ok]),
      ∃ sys' ∈ run (step smallPool) sys [.fire 0 .ok, .call (.acquire "" 7 4)],
        ∃ sys'' ∈ step smallPool sys' (.fire 1 .ok),
          (sys.shared.store.get 10000).map (·.state) = some .draining ∧
          (sys'.shared.store.get 10000).map (·.state) = some .hot ∧
          (sys''.shared.store.get 10000).map (·.state) = some .assigned ∧
          sys'.shared.gens 10000 = sys.shared.gens 10000 := by
  decide

end ScalesetProxmox.Pool
