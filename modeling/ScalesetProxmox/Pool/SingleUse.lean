import ScalesetProxmox.Pool.Preparation

/-!
# One job per VM in destroy mode

Within one process a VM is handed out at most once: a worker prepares it while its row cannot be
acquired, and once a runner configuration is on its way the row is in a state that leads only to
teardown (`State.handed`). What a later process makes of the VM is decided when
it inserts the row. `assigned_guests_unused` says what insertion has to get right, over any number of
crashes; `used_guest_assigned_again` is a run on which adoption takes a stopped VM, whose job has
already run, for a warm one.
-/

namespace ScalesetProxmox.Store

/-- The states a row can be in once its guest has been handed to a job. -/
def State.handed : State → Bool
  | .assigned | .running | .draining | .destroying => true
  | _ => false

theorem State.handed_of_busy {state : State} (h : state.busy) : state.handed = true := by
  cases state <;> first | rfl | cases h

end ScalesetProxmox.Store

namespace ScalesetProxmox.Pool

open Store (VMID Time State)
open Transition

variable {cfg : Config} {s s' : Shared} {sys sys' : Sys} {act : Act} {labels : List Act}
  {task : Task} {reply : Reply} {v : VMID}

/-! ## Who prepares and who hands out -/

/-- The VMID that a runner configuration is on its way to. -/
def Task.provisions : Task → Option VMID
  | .provisionJit vm | .provisionSetRunner vm _ | .provisionInject vm => some vm.vmid
  | _ => none

def Task.recycles : Task → Bool
  | .markCompletedCas _ recycle _ => recycle
  | .adoptInsert row _ _ _ => row.state = .recycling
  | _ => false

/-- The guest of the VMID is a clone whose disk is no longer clean. -/
def soiled (s : Shared) (v : VMID) : Bool :=
  (s.cluster.get v).any fun guest ↦ guest.cloned && guest.disk ≠ .clean

/-- The guest of the VMID is a clone on which a job has run. -/
def usedUp (s : Shared) (v : VMID) : Bool :=
  (s.cluster.get v).any fun guest ↦ guest.cloned && guest.disk = .used

/-- A new row's VMID has no worker and no delivery left over. A clone that has had a delivery gets
its row as Assigned or Running, and as Assigned only if no job has run on it. -/
def InsertsUnused (sys : Sys) (act : Act) (_ : Sys) : Prop :=
  ∀ inserted ∈ (moving sys act).bind Task.insertsAs, sys.shared.store.get inserted.1 = none →
    (∀ task ∈ sys.threads, task.prepares ≠ some inserted.1 ∧ task.provisions ≠ some inserted.1) ∧
    (soiled sys.shared inserted.1 = true → inserted.2.busy = true) ∧
    (usedUp sys.shared inserted.1 = true → inserted.2 ≠ .assigned)

instance (sys : Sys) (act : Act) (sys' : Sys) : Decidable (InsertsUnused sys act sys') :=
  inferInstanceAs (Decidable (∀ _ ∈ _, _))

/-- A row that comes to be Assigned in the step has no guest on which a job has run. -/
def AssignsUnused (sys : Sys) (_ : Act) (sys' : Sys) : Prop :=
  ∀ v row, sys'.shared.store.get v = some row → row.state = .assigned →
    (∀ old, sys.shared.store.get v = some old → old.state ≠ .assigned) →
    usedUp sys.shared v = false

theorem Move.handed {source target : State} (h : Move source target)
    (hsource : source.handed) (htarget : target ≠ .recycling) : target.handed = true := by
  cases h <;> first | exact hsource | rfl | exact absurd rfl htarget

theorem action_recycles (cfg : Config) (reply : Reply) (task : Task) :
    (task.action cfg reply).Moves fun _ source target ↦
      target = .recycling → source = .recycling ∨ task.recycles = true := by
  cases task <;> dsimp <;> (repeat' split) <;> simp_all [Action.Moves, Task.recycles]

theorem InsertsUnused.unprepared (h : InsertsUnused sys act sys') : InsertsUnprepared sys act sys' :=
  fun inserted hinserted hnew task hmem ↦ ((h inserted hinserted hnew).1 task hmem).1

/-! ## What a task hands on -/

/-- A delivery carries on, or starts on a row that was Hot and has become Assigned. -/
@[irreducible]
def ProvisionsFrom (s s' : Shared) (task other : Task) : Prop :=
  ∀ v, other.provisions = some v → task.provisions = some v ∨
    ((∃ row, s.store.get v = some row ∧ row.state = .hot) ∧
      ∃ row, s'.store.get v = some row ∧ row.state = .assigned)

theorem provisionsFrom_of_none {other : Task} (h : other.provisions = none) :
    ProvisionsFrom s s' task other := by
  unfold ProvisionsFrom
  simp [h]

theorem provisionsFrom_next :
    (task.action cfg reply).Next cfg s s' (List.Forall (ProvisionsFrom s s' task)) := by
  refine next_of_parts [.provision] (fun other hother ↦ provisionsFrom_of_none ?_) fun hpart ↦ ?_
  · cases other <;> first | rfl | cases hother
  cases task with
  | acquire profile jobID maxBusy =>
    dsimp
    split
    · trivial
    · refine ⟨fun row hold hhot hrow ↦ ?_, trivial⟩
      simp only [List.Forall, ProvisionsFrom, Task.provisions, Option.some.injEq]
      rintro _ rfl
      exact .inr ⟨⟨row, hold, hhot⟩, _, hrow, rfl⟩
  | _ =>
    first
    | cases hpart; done
    | dsimp
      (repeat' split) <;> dsimp [Action.Next] <;>
        (repeat' first | split | apply And.intro | intro _) <;>
        first
        | trivial
        | exact provisionsFrom_of_none rfl
        | simp [ProvisionsFrom, Task.provisions]

theorem classifyAdoption_ne_recycling (power : Option (Option Provisioner.Power))
    (runner : Option Gh.RunnerInfo) : (classifyAdoption power runner).1 ≠ .recycling := by
  intro hrecycling
  have hlive := classifyAdoption_live power runner
  rw [hrecycling] at hlive
  revert hlive
  decide

/-- In destroy mode nothing is recycled. -/
theorem recycles_next (hmode : cfg.snapshotRecycle = false) :
    (task.action cfg reply).Next cfg s s' (List.Forall (Task.recycles · = false)) := by
  refine next_of_parts [.callback, .adopt] (fun other hother ↦ ?_) fun hpart ↦ ?_
  · cases other <;> first | rfl | cases hother
  cases task with
  | _ =>
    first
    | cases hpart; done
    | dsimp
      (repeat' split) <;> dsimp [Action.Next] <;>
        (repeat' first | split | apply And.intro | intro _) <;>
        first
        | trivial
        | simp [Task.recycles, shouldRecycle, adoptedRow, hmode, classifyAdoption_ne_recycling]

theorem not_provisions_of_callable (h : callable s task) : task.provisions = none := by
  cases task <;> first | rfl | cases h

theorem not_recycles_of_callable (h : callable s task) : task.recycles = false := by
  cases task <;> first | rfl | cases h

/-! ## The invariant -/

/-- The guest of the VMID has been handed to a job, or a delivery to it is on its way. -/
def handedOut (sys : Sys) (v : VMID) : Prop :=
  soiled sys.shared v = true ∨ ∃ task ∈ sys.threads, task.provisions = some v

structure PreparedOnce (sys : Sys) : Prop extends Prepared sys where
  handed : ∀ v, handedOut sys v → (∀ task ∈ sys.threads, task.prepares ≠ some v) ∧
    ∀ row, sys.shared.store.get v = some row → row.state.handed = true
  rows : ∀ v row, sys.shared.store.get v = some row → row.state ≠ .recycling
  tasks : ∀ task ∈ sys.threads, task.recycles = false

theorem soiled_of_usedUp (h : usedUp s v) : soiled s v = true := by
  simp only [usedUp, soiled, Option.any_eq_true, Bool.and_eq_true, decide_eq_true_eq] at h ⊢
  obtain ⟨guest, hguest, hcloned, hdisk⟩ := h
  exact ⟨guest, hguest, hcloned, by rw [hdisk]; decide⟩

/-- A guest is soiled by a delivery, and by nothing else the pool or others do. -/
theorem soiled_before (hstep : step cfg sys act = some sys') (h : soiled sys'.shared v) :
    handedOut sys v := by
  simp only [soiled, Option.any_eq_true, Bool.and_eq_true, decide_eq_true_eq] at h
  obtain ⟨guest', hguest', hcloned, hdisk⟩ := h
  have hsoiled : ∀ guest, sys.shared.cluster.get v = some guest → guest.cloned = true →
      guest.disk ≠ .clean → handedOut sys v := fun guest hguest hcloned hdisk ↦
    .inl (by simp [soiled, hguest, hcloned, hdisk])
  rcases step_guest hstep v with hsame | ⟨task, hmoving, hmove⟩ | hevent
  · exact hsoiled guest' (by rw [← hsame, hguest']) hcloned hdisk
  · rw [hguest'] at hmove
    generalize hold : sys.shared.cluster.get v = old at hmove
    cases hmove with
    | inject hvm => exact .inr ⟨_, mem_threads_of_moving hmoving, congrArg some hvm⟩
    | clone | rollBack => exact absurd rfl hdisk
    | adopt | tag | start | look => exact hsoiled _ hold hcloned hdisk
  · rw [hguest'] at hevent
    generalize hold : sys.shared.cluster.get v = old at hevent
    cases hevent with
    | create => cases hcloned
    | setPower => exact hsoiled _ hold hcloned hdisk
    | runJob hwas => exact hsoiled _ hold hcloned hwas

theorem handedOut_before (hstep : step cfg sys act = some sys') (h : handedOut sys' v) :
    handedOut sys v ∨ ((∃ row, sys.shared.store.get v = some row ∧ row.state = .hot) ∧
      ∃ row, sys'.shared.store.get v = some row ∧ row.state = .assigned) := by
  rcases h with hsoiled | ⟨delivery, hmem, hprovisions⟩
  · exact .inl (soiled_before hstep hsoiled)
  · have hold : ∀ task ∈ sys.threads, task.provisions = some v → handedOut sys v :=
      fun task hmem hprovisions ↦ .inr ⟨task, hmem, hprovisions⟩
    have hnew : ∀ task ∈ sys'.threads, task.provisions = some v → handedOut sys v ∨
        ((∃ row, sys.shared.store.get v = some row ∧ row.state = .hot) ∧
          ∃ row, sys'.shared.store.get v = some row ∧ row.state = .assigned) := by
      refine step_threads hstep hold (fun reply task _ hold ↦ ?_)
        (fun _ _ hold h ↦ .inl (hold h)) (fun task hcallable hprovisions ↦ ?_)
        (fun _ _ h ↦ by cases h) (fun h ↦ by cases h)
      · refine provisionsFrom_next.mono fun other hother hprovisions ↦ ?_
        unfold ProvisionsFrom at hother
        exact (hother v hprovisions).imp_left hold
      · rw [not_provisions_of_callable hcallable] at hprovisions
        cases hprovisions
    exact hnew delivery hmem hprovisions

section Step

variable (hinv : PreparedOnce sys) (hstep : step cfg sys act = some sys')
  (hunused : InsertsUnused sys act sys')

include hinv hstep hunused

/-- A row whose guest has been handed out stays in the states that lead to teardown. -/
theorem handed_step {row : Store.VM} (hhanded : handedOut sys v)
    (hrow : sys'.shared.store.get v = some row) (hrecycling : row.state ≠ .recycling) :
    row.state.handed = true := by
  obtain ⟨hworkers, hstates⟩ := hinv.handed v hhanded
  rcases step_row_some hstep hrow with
    hsame | ⟨reply, task, hmoving, ⟨old, hold, hrowStep⟩ | ⟨hold, hrowStep⟩⟩
  · exact hstates row hsame
  · rcases rowStep_move hrowStep with hmove | hblind
    · exact hmove.handed (hstates old hold) hrecycling
    · exact absurd (prepares_of_blindWrite hblind) (hworkers task (mem_threads_of_moving hmoving))
  · obtain ⟨hfree, hbusy, _⟩ :=
      hunused (v, row.state) (by simp [hmoving, insertsAs_of_rowStep hrowStep]) hold
    rcases hhanded with hsoiled | ⟨delivery, hmem, hprovisions⟩
    · exact State.handed_of_busy (hbusy hsoiled)
    · exact absurd hprovisions (hfree delivery hmem).2

omit hunused in
theorem not_recycling_step {row : Store.VM} (hrow : sys'.shared.store.get v = some row) :
    row.state ≠ .recycling := by
  intro hrecycling
  rcases step_row_some hstep hrow with
    hsame | ⟨reply, task, hmoving, ⟨old, hold, hrowStep⟩ | ⟨_, hrowStep⟩⟩
  · exact hinv.rows v row hsame hrecycling
  · rcases (action_recycles cfg reply task).rowStep hrowStep hrecycling with hwas | hrecycles
    · exact hinv.rows v old hold hwas
    · rw [hinv.tasks task (mem_threads_of_moving hmoving)] at hrecycles
      cases hrecycles
  · have htask := hinv.tasks task (mem_threads_of_moving hmoving)
    have hinserts := insertsAs_of_rowStep hrowStep
    rw [hrecycling] at hinserts
    cases task with
    | adoptInsert adopted recycle rest runners =>
      simp only [Task.insertsAs, Option.some.injEq, Prod.mk.injEq] at hinserts
      simp [Task.recycles, hinserts.2] at htask
    | _ => cases hinserts

theorem preparedOnce_step (hmode : cfg.snapshotRecycle = false) : PreparedOnce sys' where
  toPrepared := hinv.toPrepared.step hstep hunused.unprepared
  rows v row hrow := not_recycling_step hinv hstep hrow
  tasks := step_threads hstep hinv.tasks (fun _ _ _ _ ↦ recycles_next hmode)
    (fun _ _ h ↦ h) (fun _ ↦ not_recycles_of_callable) (fun _ _ ↦ rfl) rfl
  handed v hhanded := by
    rcases handedOut_before hstep hhanded with hwas | ⟨⟨old, hold, hhot⟩, new, hnew, hassigned⟩
    · obtain ⟨hworkers, hstates⟩ := hinv.handed v hwas
      refine ⟨not_prepared_step hstep hworkers (fun row hrow hwarm ↦ ?_) ?_, fun row hrow ↦
        handed_step hinv hstep hunused hwas hrow (not_recycling_step hinv hstep hrow)⟩
      · have := hstates row hrow
        rw [hwarm] at this
        cases this
      · -- nothing is allocated over a guest that was handed out
        intro task hmoving hnone _ hinserts
        obtain ⟨hfree, hbusy, _⟩ := hunused (v, .provisioning) (by simp [hmoving, hinserts]) hnone
        rcases hwas with hsoiled | ⟨delivery, hmem, hprovisions⟩
        · cases hbusy hsoiled
        · exact (hfree delivery hmem).2 hprovisions
    · refine ⟨not_prepared_step hstep (fun task hmem hprepares ↦ ?_) (fun row hrow hwarm ↦ ?_) ?_,
        fun row hrow ↦ ?_⟩
      · have := hinv.preparing task hmem v hprepares old hold
        rw [hhot] at this
        cases this
      · rw [hold, Option.some.injEq] at hrow
        rw [← hrow, hhot] at hwarm
        cases hwarm
      · intro _ _ hnone
        rw [hold] at hnone
        cases hnone
      · rw [hnew, Option.some.injEq] at hrow
        rw [← hrow, hassigned]
        rfl

/-- No step assigns a VM on which a job has run. -/
theorem assignsUnused_of_preparedOnce : AssignsUnused sys act sys' := by
  intro v row hrow hassigned hbefore
  by_contra hused
  rw [Bool.not_eq_false] at hused
  obtain ⟨hworkers, hstates⟩ := hinv.handed v (.inl (soiled_of_usedUp hused))
  rcases step_row_some hstep hrow with
    hsame | ⟨reply, task, hmoving, ⟨old, hold, hrowStep⟩ | ⟨hold, hrowStep⟩⟩
  · exact hbefore row hsame hassigned
  · have hhanded := hstates old hold
    have hother := hbefore old hold
    rcases rowStep_move hrowStep with hmove | hblind
    · rw [hassigned] at hmove
      generalize old.state = source at hmove hhanded hother
      cases hmove with
      | stay => exact hother rfl
      | acquire => cases hhanded
    · exact hworkers task (mem_threads_of_moving hmoving) (prepares_of_blindWrite hblind)
  · have hinserted := (hunused (v, row.state)
      (by simp [hmoving, insertsAs_of_rowStep hrowStep]) hold).2.2
    exact hinserted hused hassigned

end Step

/-- In destroy mode, on every run of any number of process lifetimes whose rows are inserted for
unused VMs, or for used ones in the state that their use calls for, no VM on which a job has run is
assigned again. -/
theorem assigned_guests_unused (hmode : cfg.snapshotRecycle = false) {cluster : Provisioner.Cluster}
    {runners : Gh.Runners} {now : Time}
    (h : Along (step cfg) InsertsUnused (init cluster runners now) labels) :
    Along (step cfg) AssignsUnused (init cluster runners now) labels := by
  refine along_of_invariant PreparedOnce (fun sys act sys' hinv hunused hstep ↦
    ⟨assignsUnused_of_preparedOnce hinv hstep hunused, preparedOnce_step hinv hstep hunused hmode⟩) ?_ h
  refine ⟨⟨?_, ?_⟩, ?_, ?_, ?_⟩ <;> simp [init, Task.prepares, Task.recycles]

/-- A VM gets its runner configuration and runs a job. -/
def runOneJob : List Act := adoptNothing ++ deliverOne ++ [.runJob 10000]

/-- The process dies and its successor adopts what is on `pve1`, given the power state and the runner
listing that Proxmox and GitHub answer with. -/
def crashAndAdopt (power runners : Reply) : List Act :=
  [.crash, .fire 0 .ok, .fire 0 .ok, .fire 0 .ok, .fire 0 runners, .fire 0 power, .fire 0 .ok,
    .fire 0 .ok]

/-- Adoption sees the VM running and its runner busy, and takes the job up where it was. -/
theorem assigned_guests_unused_adopted_running :
    Along (step smallPool) AssignsUnused (init .empty ∅ Store.second)
        (runOneJob ++ crashAndAdopt (.power (some .running))
          (.runners (AList.singleton "gh-runner-ci-10000" ⟨5, true, true⟩))) ∧
      ∃ sys ∈ run (step smallPool) freshPool (runOneJob ++ crashAndAdopt (.power (some .running))
          (.runners (AList.singleton "gh-runner-ci-10000" ⟨5, true, true⟩))),
        usedUp sys.shared 10000 = true ∧
        (sys.shared.store.get 10000).map (·.state) = some .running :=
  ⟨assigned_guests_unused rfl (by decide +kernel), by decide +kernel⟩

/-- The VM has shut down after its job when the process dies. Adoption takes it for a warm one; it is
promoted, booted and handed to a second job. -/
theorem used_guest_assigned_again :
    ∃ sys ∈ run (step smallPool) freshPool (runOneJob ++ [.setPower 10000 .stopped] ++
        crashAndAdopt (.power (some .stopped)) .fail ++
        [.call (.promoteN "" 1), .fire 0 .ok, .fire 0 .ok, .fire 1 .ok, .fire 0 .ok, .fire 0 .ok,
          .fire 0 .ok, .call (.acquire "" 8 4)]),
      ∃ sys' ∈ step smallPool sys (.fire 0 .ok),
        usedUp sys.shared 10000 = true ∧
        (sys.shared.store.get 10000).map (·.state) = some .hot ∧
        (sys'.shared.store.get 10000).map (·.state) = some .assigned := by
  decide +kernel

end ScalesetProxmox.Pool
