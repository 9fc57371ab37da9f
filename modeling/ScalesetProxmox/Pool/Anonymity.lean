import ScalesetProxmox.Pool.Recycling

/-!
# Rows that await a job are anonymous

A rollback clears the runner and job data of its row in one transaction and makes the row Warm in a later
one. Three writers record such data by VMID without looking at the row's state (`Task.stamps`): a
provisioning step of the scaler, `SetRunnerID` and `StampJobMetadata`. `Exposed` says from when on a write
of theirs would show: the row has been cleared by the rollback that is under way, or it has returned from
one and awaits its next job. As long as none of them writes to an exposed row and new rows find no worker
left over, the rows that returned from a rollback are anonymous while they are Warm or Hot
(`idle_rows_anonymous`).
-/

namespace ScalesetProxmox.Store

/-- The states from the end of a clone or a rollback to the next job. -/
def State.ready : State → Bool
  | .warm | .booting | .hot => true
  | _ => false

/-- The row carries nothing of a runner or a job. -/
def VM.Anonymous (row : VM) : Prop :=
  row.runnerID = 0 ∧ row.jobID = 0 ∧ row.org = "" ∧ row.repo = "" ∧ row.priorityClass = ""

instance (row : VM) : Decidable row.Anonymous := inferInstanceAs (Decidable (_ ∧ _))

end ScalesetProxmox.Store

namespace ScalesetProxmox.Pool

open Store (VMID Time State)
open Transition

variable {cfg : Config} {s s' : Shared} {sys sys' : Sys} {act : Act} {labels : List Act}
  {task : Task} {reply : Reply} {now : Time} {v : VMID} {old new row : Store.VM}

/-! ## Writers -/

/-- The VMID whose row the task is about to give a runner or job data, whatever state it is in. -/
def Task.stamps : Task → Option VMID
  | .provisionSetRunner vm _ => some vm.vmid
  | .setRunnerID v runnerID => if runnerID ≤ 0 then none else some v
  | .stampJobMetadata v org repo priorityClass =>
    if org = "" ∧ repo = "" ∧ priorityClass = "" then none else some v
  | _ => none

/-- The VMID whose row a rollback worker has cleared. -/
def Task.cleared : Task → Option VMID
  | .rollbackSnapshot vm | .rollbackWarm vm => some vm.vmid
  | _ => none

theorem rollsBack_of_cleared (h : task.cleared = some v) : task.rollsBack = some v := by
  cases task <;> first | exact h | cases h

theorem cleared_of_rolledBack (h : task.rolledBack = some v) : task.cleared = some v := by
  cases task <;> first | exact h | cases h

/-- Data is written to a row by the three writers and by the steps that take the row for a job. -/
theorem rowStep_anonymous (h : (task.action cfg reply).RowStep now v (some old) (some new))
    (hold : old.Anonymous) : new.Anonymous ∨ task.stamps = some v ∨ new.state.busy = true := by
  revert h hold
  cases task <;> dsimp <;> (repeat' split) <;>
    simp +contextual [Action.RowStep, Store.VM.moved, Store.VM.assignedTo, Store.VM.Anonymous,
      Task.stamps, State.busy, *]

theorem rowStep_recycleCount (h : (task.action cfg reply).RowStep now v (some old) (some new)) :
    new.recycleCount = old.recycleCount ∨ task.rolledBack = some v := by
  revert h
  cases task <;> dsimp <;> (repeat' split) <;>
    simp +contextual [Action.RowStep, Store.VM.moved, Store.VM.assignedTo, Task.rolledBack]

def Task.InsertsNew : Task → Prop
  | .adoptInsert row _ _ _ => row.recycleCount = 0
  | _ => True

theorem insertsNew_next : (task.action cfg reply).Next cfg s s' (List.Forall Task.InsertsNew) := by
  refine next_of_parts [.adopt] (fun other hother ↦ ?_) fun hpart ↦ ?_
  · cases other <;> trivial
  cases task with
  | adopt | adoptScan | adoptRunners | adoptLoop | adoptInsert =>
    dsimp
    (repeat' split) <;> dsimp [Action.Next] <;>
      (repeat' first | split | apply And.intro | intro _) <;>
      trivial
  | _ => cases hpart

theorem insertsNew_of_callable (h : callable s task) : task.InsertsNew := by
  cases task <;> trivial

theorem insertsNew_step (hstep : step cfg sys act = some sys')
    (h : ∀ task ∈ sys.threads, task.InsertsNew) : ∀ task ∈ sys'.threads, task.InsertsNew :=
  step_threads hstep h (fun _ _ _ _ ↦ insertsNew_next) (fun _ _ hnew ↦ hnew)
    (fun _ ↦ insertsNew_of_callable) (fun _ _ ↦ trivial) trivial

theorem recycleCount_of_inserted (hnew : task.InsertsNew)
    (h : (task.action cfg reply).RowStep now v none (some row)) : row.recycleCount = 0 := by
  obtain ⟨adopted, hinserts⟩ := inserts_of_rowStep h
  cases task with
  | cloneInsert | adoptInsert =>
    obtain ⟨rfl, _, hstamped⟩ := h
    cases hstamped
    first | rfl | exact hnew
  | _ => cases hinserts

/-- A worker has cleared a row as the one it carries on from had, or has just done so. -/
@[irreducible]
def ClearedFrom (s' : Shared) (task other : Task) : Prop :=
  ∀ v, other.cleared = some v →
    task.cleared = some v ∨ ∀ row, s'.store.get v = some row → row.Anonymous

theorem clearedFrom_of_none {other : Task} (h : other.cleared = none) : ClearedFrom s' task other := by
  unfold ClearedFrom
  simp [h]

theorem clearedFrom_next : (task.action cfg reply).Next cfg s s' (List.Forall (ClearedFrom s' task)) := by
  refine next_of_parts [.rollback] (fun other hother ↦ clearedFrom_of_none ?_) fun hpart ↦ ?_
  · cases other <;> first | rfl | cases hother
  cases task with
  | rollbackClear vm =>
    cases reply with
    | fail => trivial
    | _ =>
      refine ⟨fun row _ hrow _ ↦ ?_, fun err ↦ trivial⟩
      simp [ClearedFrom, Task.cleared, hrow, Store.VM.Anonymous, Except.isOk, Except.toBool]
  | _ =>
    first
    | cases hpart; done
    | dsimp
      (repeat' split) <;> dsimp [Action.Next] <;>
        (repeat' first | split | apply And.intro | intro _) <;>
        first
        | trivial
        | exact clearedFrom_of_none rfl
        | simp [ClearedFrom, Task.cleared]

theorem not_cleared_of_callable (h : callable s task) : task.cleared = none := by
  cases task <;> first | rfl | cases h

theorem cleared_step (hstep : step cfg sys act = some sys')
    (h : ∃ task ∈ sys'.threads, task.cleared = some v) :
    (∃ task ∈ sys.threads, task.cleared = some v) ∨
      ∀ row, sys'.shared.store.get v = some row → row.Anonymous := by
  by_contra hnot
  simp only [not_or, not_exists, not_and] at hnot
  obtain ⟨worker, hworker, hcleared⟩ := h
  refine step_threads hstep hnot.1 (fun reply task hmoving htask ↦ ?_) (fun _ _ hother ↦ hother)
    (fun task hcallable ↦ ?_) (fun _ _ h ↦ by cases h) (fun h ↦ by cases h) worker hworker hcleared
  · refine clearedFrom_next.mono fun other hother hcleared' ↦ ?_
    unfold ClearedFrom at hother
    exact (hother v hcleared').elim htask hnot.2
  · simp [not_cleared_of_callable hcallable]

/-! ## The invariant -/

/-- What is written to the row now would still be there when it awaits a job after its rollback: it
returned from one and is ready or being prepared, or it has been cleared by the one under way. -/
def Exposed (sys : Sys) (v : VMID) (row : Store.VM) : Prop :=
  (0 < row.recycleCount ∧ (row.state.ready = true ∨ ∃ task ∈ sys.threads, task.prepares = some v)) ∨
    ∃ task ∈ sys.threads, task.cleared = some v

instance (sys : Sys) (v : VMID) (row : Store.VM) : Decidable (Exposed sys v row) :=
  inferInstanceAs (Decidable ((_ ∧ _) ∨ ∃ _ ∈ _, _))

/-- Runner and job data is not written to an exposed row. -/
def StampsHidden (sys : Sys) (act : Act) (_ : Sys) : Prop :=
  ∀ v ∈ (moving sys act).bind Task.stamps, ∀ row ∈ sys.shared.store.get v, ¬Exposed sys v row

instance (sys : Sys) (act : Act) (sys' : Sys) : Decidable (StampsHidden sys act sys') :=
  inferInstanceAs (Decidable (∀ _ ∈ _, ∀ _ ∈ _, _))

structure Faceless (sys : Sys) : Prop extends Attended sys where
  insertsNew : ∀ task ∈ sys.threads, task.InsertsNew
  anonymous : ∀ v row, sys.shared.store.get v = some row → Exposed sys v row → row.Anonymous

/-- A move to a ready state leaves another one, or ends a rollback. -/
theorem Move.ready {source target : State} (h : Move source target) (htarget : target.ready) :
    source.ready ∨ (source = .recycling ∧ target = .warm) := by
  cases h <;> first | exact .inl htarget | exact .inl rfl | exact .inr ⟨rfl, rfl⟩ | cases htarget

theorem Attended.not_exposed_of_busy (hinv : Attended sys) (hrow : sys.shared.store.get v = some row)
    (hbusy : row.state.busy) : ¬Exposed sys v row := by
  rintro (⟨_, hready | ⟨task, hmem, hprepares⟩⟩ | ⟨task, hmem, hcleared⟩)
  · revert hbusy hready
    cases row.state <;> decide
  · have hpreparing := hinv.preparing task hmem v hprepares row hrow
    revert hbusy hpreparing
    cases row.state <;> decide
  · have hrolling := (hinv.rolling task hmem v (rollsBack_of_cleared hcleared)).2 row hrow
    revert hbusy hrolling
    cases row.state <;> decide

/-- A preparation is under way already, or its row is Warm. -/
theorem prepares_step (hstep : step cfg sys act = some sys') (hold : sys.shared.store.get v = some old)
    (h : ∃ task ∈ sys'.threads, task.prepares = some v) :
    old.state = .warm ∨ ∃ task ∈ sys.threads, task.prepares = some v := by
  by_contra hnot
  simp only [not_or, not_exists, not_and] at hnot
  obtain ⟨worker, hworker, hprepares⟩ := h
  refine not_prepared_step hstep hnot.2 (fun row hrow ↦ ?_) (fun _ _ hnone ↦ ?_) worker hworker hprepares
  · cases hold.symm.trans hrow
    exact hnot.1
  · cases hold.symm.trans hnone

/-- A row that is exposed after a step that did not end its rollback was exposed before, or has just been
cleared. -/
theorem exposed_step (hstep : step cfg sys act = some sys') (hold : sys.shared.store.get v = some old)
    (hnew : sys'.shared.store.get v = some new) (hcount : new.recycleCount = old.recycleCount)
    (hready : new.state.ready →
      old.state.ready ∨ ∃ task ∈ sys.threads, task.prepares = some v)
    (h : Exposed sys' v new) : Exposed sys v old ∨ new.Anonymous := by
  rcases h with ⟨hpos, hidle⟩ | hcleared
  · rw [hcount] at hpos
    refine .inl (.inl ⟨hpos, ?_⟩)
    rcases hidle with hready' | hprepares
    · exact hready hready'
    · rcases prepares_step hstep hold hprepares with hwarm | hprepares
      · exact .inl (by rw [hwarm]; rfl)
      · exact .inr hprepares
  · rcases cleared_step hstep hcleared with hbefore | hanonymous
    · exact .inl (.inr hbefore)
    · exact .inr (hanonymous new hnew)

theorem exposed_rowStep (hstep : step cfg sys act = some sys') (hold : sys.shared.store.get v = some old)
    (hnew : sys'.shared.store.get v = some new) (hmoving : moving sys act = some task)
    (hrowStep : (task.action cfg reply).RowStep sys.shared.now v (some old) (some new))
    (h : Exposed sys' v new) : Exposed sys v old ∨ new.Anonymous := by
  have hmem := mem_threads_of_moving hmoving
  by_cases hrolledBack : task.rolledBack = some v
  · exact .inl (.inr ⟨task, hmem, cleared_of_rolledBack hrolledBack⟩)
  have hcount := (rowStep_recycleCount hrowStep).resolve_right hrolledBack
  refine exposed_step hstep hold hnew hcount (fun hready ↦ ?_) h
  rcases rowStep_move hrowStep with hmove | hblind
  · rcases hmove.ready hready with hready' | ⟨hrecycling, hwarm⟩
    · exact .inl hready'
    · have hends := (action_rolledBack cfg reply task).rowStep hrowStep hrecycling hwarm
      exact .inr ⟨task, hmem, hends.resolve_left hrolledBack⟩
  · exact .inr ⟨task, hmem, prepares_of_blindWrite hblind⟩

section Step

variable (hinv : Faceless sys) (hstep : step cfg sys act = some sys')
  (hfree : InsertsFree sys act sys') (hhidden : StampsHidden sys act sys')

include hinv hstep hfree

/-- Nothing that a worker of an earlier row has done shows in a new one. -/
theorem anonymous_of_inserted (hmoving : moving sys act = some task)
    (hold : sys.shared.store.get v = none)
    (hrowStep : (task.action cfg reply).RowStep sys.shared.now v none (some row))
    (hrow : sys'.shared.store.get v = some row) (h : Exposed sys' v row) : row.Anonymous := by
  have hmem := mem_threads_of_moving hmoving
  rcases h with ⟨hpos, _⟩ | hcleared
  · have hzero := recycleCount_of_inserted (hinv.insertsNew task hmem) hrowStep
    omega
  · rcases cleared_step hstep hcleared with ⟨worker, hworker, hbefore⟩ | hanonymous
    · have hinserted := hfree (v, row.state) (by simp [hmoving, insertsAs_of_rowStep hrowStep]) hold
      exact absurd (rollsBack_of_cleared hbefore) (hinserted worker hworker).2
    · exact hanonymous row hrow

include hhidden

theorem Faceless.step : Faceless sys' := by
  have hattended := hinv.toAttended.step hstep hfree
  refine ⟨hattended, insertsNew_step hstep hinv.insertsNew, fun v row hrow hexposed ↦ ?_⟩
  rcases step_row_some hstep hrow with
    hsame | ⟨reply, task, hmoving, ⟨old, hold, hrowStep⟩ | ⟨hold, hrowStep⟩⟩
  · rcases exposed_step hstep hsame hrow rfl .inl hexposed with hbefore | hanonymous
    · exact hinv.anonymous v row hsame hbefore
    · exact hanonymous
  · rcases exposed_rowStep hstep hold hrow hmoving hrowStep hexposed with hbefore | hanonymous
    swap
    · exact hanonymous
    rcases rowStep_anonymous hrowStep (hinv.anonymous v old hold hbefore) with h | hstamps | hbusy
    · exact h
    · exact absurd hbefore (hhidden v (by simp [hmoving, hstamps]) old hold)
    · exact absurd hexposed (hattended.not_exposed_of_busy hrow hbusy)
  · exact anonymous_of_inserted hinv hstep hfree hmoving hold hrowStep hrow hexposed

end Step

theorem faceless_init (cluster : Provisioner.Cluster) (runners : Gh.Runners) (now : Time) :
    Faceless (init cluster runners now) := by
  refine ⟨attended_init cluster runners now, ?_, ?_⟩
  · simp [init, Task.InsertsNew]
  · simp [init]

/-- On every run in which runner and job data is not written to exposed rows and new rows find no worker
left over for their VMIDs, a Warm or Hot row that returned from a rollback is anonymous. -/
theorem idle_rows_anonymous {cluster : Provisioner.Cluster} {runners : Gh.Runners} {now : Time}
    (hmeets : Along (step cfg) (fun sys act sys' ↦ InsertsFree sys act sys' ∧ StampsHidden sys act sys')
      (init cluster runners now) labels)
    (hrun : run (step cfg) (init cluster runners now) labels = some sys)
    (hrow : sys.shared.store.get v = some row) (hidle : row.state = .warm ∨ row.state = .hot)
    (hreturned : 0 < row.recycleCount) : row.Anonymous := by
  have hinv := invariant_of_along Faceless
    (fun _ _ _ hinv hmeets hstep ↦ hinv.step hstep hmeets.1 hmeets.2) (faceless_init cluster runners now)
    hmeets hrun
  refine hinv.anonymous v row hrow (.inl ⟨hreturned, .inl ?_⟩)
  rcases hidle with h | h <;> rw [h] <;> rfl

theorem idle_rows_anonymous_recycleOne :
    ∃ sys ∈ run (step recyclePool) freshPool (bootOne ++ .fire 0 .ok :: recycleOne),
      ∃ row ∈ sys.shared.store.get 10000, row.state = .hot ∧ row.recycleCount = 1 ∧ row.Anonymous := by
  obtain ⟨sys, hrun, row, hrow, hhot, hcount⟩ :
      ∃ sys ∈ run (step recyclePool) freshPool (bootOne ++ .fire 0 .ok :: recycleOne),
        ∃ row ∈ sys.shared.store.get 10000, row.state = .hot ∧ row.recycleCount = 1 := by
    decide +kernel
  have hmeets : Along (step recyclePool)
      (fun sys act sys' ↦ InsertsFree sys act sys' ∧ StampsHidden sys act sys') freshPool
      (bootOne ++ .fire 0 .ok :: recycleOne) := by
    decide +kernel
  have hanonymous := idle_rows_anonymous hmeets hrun hrow (.inr hhot) (by rw [hcount]; decide)
  exact ⟨sys, hrun, row, hrow, hhot, hcount, hanonymous⟩

/-- The job's callbacks are under way when it completes, and reach the row after its rollback. -/
def lateCallbacks : List Act :=
  [.fire 0 (.jit 5), .fire 0 .ok, .fire 0 .ok, .call (.setRunnerID 10000 5),
    .call (.stampJobMetadata 10000 "acme" "web" ""), .call (.markCompleted 10000 none)] ++
    List.replicate 7 (.fire 2 .ok) ++ [.fire 0 .ok, .fire 0 .ok]

/-- The row is Warm again and carries the runner and the repository of the job before. -/
theorem late_callbacks_name_warm_row :
    ∃ sys ∈ run (step recyclePool) freshPool (bootOne ++ .fire 0 .ok :: lateCallbacks),
      Along (step recyclePool) InsertsFree freshPool (bootOne ++ .fire 0 .ok :: lateCallbacks) ∧
      ∃ row ∈ sys.shared.store.get 10000, row.state = .warm ∧ row.recycleCount = 1 ∧
        row.runnerID = 5 ∧ row.org = "acme" ∧ row.repo = "web" := by
  decide +kernel

end ScalesetProxmox.Pool
