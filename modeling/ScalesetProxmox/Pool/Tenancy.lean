import ScalesetProxmox.Pool.Lifecycle
import ScalesetProxmox.Pool.Outcomes

/-!
# Completions and the tenancy they are evidence of

A tenancy lasts from the moment a row becomes Assigned or Running to its next exit from these states.
A JobCompleted callback belongs to the tenancy its job ran in, a power-poll observation to the
tenancy it was made in, but `MarkCompleted` is keyed by VMID alone. `completions_end_own_tenancy`
says what delivery has to guarantee for a completion to end no other tenancy; a callback that comes
late enough ends the next job's: `late_callback_ends_next_tenancy`.
-/

namespace ScalesetProxmox.Pool

open Store (VMID Time State)
open Transition

variable {cfg : Config} {s s' : Shared} {sys sys' : Sys} {act : Act} {labels : List Act}
  {task : Task} {reply : Reply} {v : VMID}

/-- The VMID and the tenancy of a completion that is about to look at the row. -/
def Task.delivers : Task → Option (VMID × ℕ)
  | .markCompleted v evidence => evidence.map (v, ·)
  | _ => none

/-- The VMID and the tenancy of a completion that has seen the row busy and not yet moved it. -/
def Task.completes : Task → Option (VMID × ℕ)
  | .markCompletedDecide target evidence | .markCompletedCas target _ evidence =>
    evidence.map (target.vmid, ·)
  | _ => none

/-- The task's next step takes the row of `v` into a tenancy if it is Hot. -/
def Task.takesHot (v : VMID) : Task → Bool
  | .acquire _ _ _ => true
  | .promoteToRunning u _ _ => u = v
  | .tickApply _ _ (listed :: _) => listed.vmid = v
  | _ => false

/-- The task's next step adopts a busy guest under the VMID. -/
def Task.adoptsBusy (v : VMID) : Task → Bool
  | .adoptInsert row _ _ _ => row.vmid = v ∧ row.state.busy
  | _ => false

/-- The task's next step may start a tenancy of `v`, whose row is `row`. -/
def Task.startsTenancy (v : VMID) (row : Option Store.VM) (task : Task) : Bool :=
  match row with
  | some row => row.state = .hot && task.takesHot v
  | none => task.adoptsBusy v

/-- Completions look at the row in their own tenancy or in none, and no tenancy starts between the
look and the move. -/
def CompletionsPrompt (sys : Sys) (act : Act) (_ : Sys) : Prop :=
  ∀ task ∈ moving sys act,
    (∀ named ∈ task.delivers, busyAt sys.shared.store named.1 = true →
      sys.shared.tenancies named.1 = named.2) ∧
    ∀ other ∈ bystanders sys act, ∀ named ∈ other.completes,
      task.startsTenancy named.1 (sys.shared.store.get named.1) = false

instance (sys : Sys) (act : Act) (sys' : Sys) : Decidable (CompletionsPrompt sys act sys') :=
  inferInstanceAs (Decidable (∀ _ ∈ _, _))

/-- A completion that is about to move a row out of a tenancy is evidence of that tenancy. -/
def CompletionsEndOwnTenancy (sys : Sys) (act : Act) (_ : Sys) : Prop :=
  ∀ target recycle tenancy, moving sys act = some (.markCompletedCas target recycle (some tenancy)) →
    busyAt sys.shared.store target.vmid = true → sys.shared.tenancies target.vmid = tenancy

/-- The row a pending completion has seen is in the tenancy of its evidence, or in none. -/
def SeenInTenancy (s : Shared) (task : Task) : Prop :=
  ∀ v tenancy, task.completes = some (v, tenancy) → busyAt s.store v = true →
    s.tenancies v = tenancy

theorem action_takesHot (cfg : Config) (reply : Reply) (task : Task) :
    (task.action cfg reply).Moves fun v source target ↦
      target.busy → source.busy ∨ (source = .hot ∧ task.takesHot v) := by
  cases task with
  | tickApply now runners rows =>
    cases rows with
    | nil => trivial
    | cons listed rest =>
      dsimp only [Task.action, tickAction]
      split
      · next v runnerID jobID hcall =>
        have hv : v = listed.vmid := Gh.vmid_of_rowAction hcall
        simp [Action.Moves, State.busy, Task.takesHot, hv]
      · simp [Action.Moves, State.busy]
      · trivial
  | _ =>
    dsimp
    (repeat' split) <;> simp +contextual [Action.Moves, State.busy, Task.takesHot]

/-- Rows become busy by Acquire, by promotion and by adoption. -/
theorem startsTenancy_of_rowStep {now : Time} {old new : Option Store.VM}
    (h : (task.action cfg reply).RowStep now v old new) (hold : old.any (·.state.busy) = false)
    (hnew : new.any (·.state.busy)) : task.startsTenancy v old = true := by
  cases new with
  | none => cases hnew
  | some row =>
    cases old with
    | some oldRow =>
      rcases (action_takesHot cfg reply task).rowStep h hnew with hbusy | ⟨hhot, htakes⟩
      · exact absurd (hold.symm.trans hbusy) Bool.false_ne_true
      · simp [Task.startsTenancy, hhot, htakes]
    | none =>
      obtain ⟨adopted, hinserts⟩ := inserts_of_rowStep h
      cases task with
      | adoptInsert adoptedRow recycle rest runners =>
        obtain ⟨hvmid, _, hstamped⟩ := h
        cases hstamped
        simpa [Task.startsTenancy, Task.adoptsBusy, hvmid] using hnew
      | cloneInsert =>
        obtain ⟨_, _, hstamped⟩ := h
        cases hstamped
        cases hnew
      | _ => cases hinserts

/-- A completion goes on in the tenancy it was delivered for. -/
@[irreducible]
def CompletesFor (task other : Task) : Prop :=
  ∀ named, other.completes = some named → task.completes = some named ∨ task.delivers = some named

theorem completesFor_of_none {other : Task} (h : other.completes = none) : CompletesFor task other := by
  unfold CompletesFor
  simp [h]

theorem completesFor_next : (task.action cfg reply).Next cfg s s' (List.Forall (CompletesFor task)) := by
  refine next_of_parts [.callback] (fun other hother ↦ completesFor_of_none ?_) fun hpart ↦ ?_
  · cases other <;> first | rfl | cases hother
  cases task with
  | markCompleted v evidence =>
    dsimp [Action.Next]
    split
    · next target htarget =>
      have hvmid : target.vmid = v := Table.key_of_get htarget
      split
      · simp [CompletesFor, Task.completes, Task.delivers, hvmid]
      · trivial
    · trivial
  | _ =>
    first
    | cases hpart; done
    | dsimp
      (repeat' split) <;> dsimp [Action.Next] <;>
        (repeat' first | split | apply And.intro | intro _) <;>
        first
        | trivial
        | exact completesFor_of_none rfl
        | simp [CompletesFor, Task.completes, Task.delivers]

theorem completes_of_callable (h : callable s task) : task.completes = none := by
  cases task <;> first | rfl | cases h

theorem not_startsTenancy_of_completion {named : VMID × ℕ}
    (h : task.completes = some named ∨ task.delivers = some named) (v : VMID)
    (row : Option Store.VM) : task.startsTenancy v row = false := by
  cases task with
  | markCompleted | markCompletedDecide | markCompletedCas =>
    cases row <;> simp [Task.startsTenancy, Task.takesHot, Task.adoptsBusy]
  | _ => rcases h with h | h <;> cases h

/-- A row that is in tenancy `tenancy` or in none stays so over a step that starts none. -/
theorem tenancy_step (hstep : step cfg sys act = some sys') {tenancy : ℕ}
    (hstarts : ∀ task, moving sys act = some task →
      task.startsTenancy v (sys.shared.store.get v) = false)
    (hseen : busyAt sys.shared.store v → sys.shared.tenancies v = tenancy)
    (hbusy : busyAt sys'.shared.store v) : sys'.shared.tenancies v = tenancy := by
  have hwas : busyAt sys.shared.store v := by
    by_contra hidle
    rw [Bool.not_eq_true] at hidle
    rcases step_row hstep v with hsame | ⟨_, hnone⟩ | ⟨reply, task, hmoving, hrow⟩
    · rw [busyAt, hsame] at hbusy
      exact absurd (hidle.symm.trans hbusy) Bool.false_ne_true
    · simp [busyAt, hnone] at hbusy
    · have := startsTenancy_of_rowStep hrow hidle hbusy
      rw [hstarts task hmoving] at this
      cases this
  have htenancies := step_tenancies hstep v
  rw [hwas] at htenancies
  exact htenancies.trans (hseen hwas)

theorem seenInTenancy_step (hstep : step cfg sys act = some sys')
    (hprompt : CompletionsPrompt sys act sys')
    (hinv : ∀ task ∈ sys.threads, SeenInTenancy sys.shared task) :
    ∀ task ∈ sys'.threads, SeenInTenancy sys'.shared task := by
  refine step_threads hstep hinv (fun reply task hmoving hseen ↦ ?_)
    (fun task hmem hseen v tenancy hcompletes ↦ ?_) (fun task hcallable v tenancy hcompletes ↦ ?_)
    (fun _ _ _ _ h ↦ by cases h) (fun _ _ h ↦ by cases h)
  · refine completesFor_next.mono fun other hother v tenancy hcompletes ↦ ?_
    unfold CompletesFor at hother
    refine tenancy_step hstep (fun acting hacting ↦ ?_) ?_
    · cases hmoving.symm.trans hacting
      exact not_startsTenancy_of_completion (hother _ hcompletes) v _
    · rcases hother _ hcompletes with hold | hold
      · exact hseen v tenancy hold
      · exact (hprompt task hmoving).1 _ hold
  · refine tenancy_step hstep (fun acting hacting ↦ ?_) (hseen v tenancy hcompletes)
    exact (hprompt acting hacting).2 task hmem _ hcompletes
  · rw [completes_of_callable hcallable] at hcompletes
    cases hcompletes

/-- On every run with prompt completions, each completion ends the tenancy it is evidence of or
none, in either recycle mode. -/
theorem completions_end_own_tenancy {cluster : Provisioner.Cluster} {runners : Gh.Runners}
    {now : Time} (h : Along (step cfg) CompletionsPrompt (init cluster runners now) labels) :
    Along (step cfg) CompletionsEndOwnTenancy (init cluster runners now) labels := by
  refine along_of_invariant (fun sys ↦ ∀ task ∈ sys.threads, SeenInTenancy sys.shared task)
    (fun sys act sys' hinv hprompt hstep ↦ ⟨?_, seenInTenancy_step hstep hprompt hinv⟩)
    (by simp [init, SeenInTenancy, Task.completes]) h
  intro target recycle tenancy hmoving
  exact hinv _ (mem_threads_of_moving hmoving) target.vmid tenancy rfl

/-- A VM gets its runner configuration and its job starts. -/
def startJob : List Act :=
  deliverOne ++ [.call (.markRunning 10000 5), .fire 0 .ok, .runJob 10000]

/-- The VM has shut down, and the power poll completes and destroys it. -/
def endJob : List Act :=
  [.setPower 10000 .stopped, .call .powerPollOnce, .fire 0 .ok, .fire 0 (.power (some .stopped)),
    .fire 1 .ok, .fire 0 .ok, .fire 0 .ok, .fire 0 .ok, .fire 0 .ok, .fire 0 .ok, .dispatch,
    .fire 0 .ok, .fire 0 .ok, .fire 0 .ok, .fire 0 .ok, .elapse (1 * Store.minute).toNat]

/-- The callback of the first job arrives after its row is gone and before the VMID is used again. -/
theorem completions_end_own_tenancy_startJob :
    Along (step smallPool) CompletionsEndOwnTenancy (init .empty ∅ Store.second)
        (adoptNothing ++ startJob ++ endJob ++ [.call (.markCompleted 10000 (some 1)), .fire 0 .ok] ++
          startJob) ∧
      ∃ sys ∈ run (step smallPool) freshPool (adoptNothing ++ startJob ++ endJob ++
          [.call (.markCompleted 10000 (some 1)), .fire 0 .ok] ++ startJob),
        sys.shared.tenancies 10000 = 2 ∧ busyAt sys.shared.store 10000 = true :=
  ⟨completions_end_own_tenancy (by decide +kernel), by decide +kernel⟩

/-- The callback of the first job arrives while the second one runs on a VM with the same VMID: it
drains the second VM. -/
theorem late_callback_ends_next_tenancy :
    ∃ sys ∈ run (step smallPool) freshPool (adoptNothing ++ startJob ++ endJob ++ startJob ++
        [.call (.markCompleted 10000 (some 1)), .fire 0 .ok, .fire 0 .ok]),
      ∃ sys' ∈ step smallPool sys (.fire 0 .ok),
        sys.threads.map Task.completes = [some (10000, 1)] ∧
        sys.shared.tenancies 10000 = 2 ∧
        (sys.shared.store.get 10000).map (·.state) = some .running ∧
        (sys'.shared.store.get 10000).map (·.state) = some .draining := by
  decide

end ScalesetProxmox.Pool
