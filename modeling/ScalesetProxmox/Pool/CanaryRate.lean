import ScalesetProxmox.Pool.Quarantine
import ScalesetProxmox.Pool.Recycling
import ScalesetProxmox.Canary.Revert

/-!
# The failure rate of a candidate template

The pool together with the canary controller. A clone worker reports its clone after `Clone` has
returned and before it goes on; a worker whose VM did not boot reports the failure when it has raised
`BootAttempts` from zero to one. Between the two a VM can wait in the pool for any time, and nothing but
the class stamped on its row ties the failure to the clone. A promotion resets the counters and leaves
the rows alone: `promotion_leaves_failure` is a profile with one failure and no clone.

`failures_le_clones` is what holds otherwise. The VMs whose failure is still to come are counted by
`live`: rows of the candidate without a failed boot whose clone has been reported since the last promotion
of the profile. Those reported before it are `outdated`; none of them may fail afterwards, and a VMID is
issued again only when no worker and no promotion pass names it. What `Pick` returns is left to the run.
-/

namespace ScalesetProxmox.Pool

open Store (VMID Time State)
open Transition
open Canary (Controller ProfileState Op)

/-! ## Pool and controller -/

/-- A call to the controller that a worker has come to. -/
inductive CanaryCall
  | recordClone (prep : ClonePrep)
  | recordFailure (boot : Boot)
  deriving DecidableEq, Repr

/-- `canary.Template(…)`. The controller tells apart the candidate and anything else. -/
def templateOf (templateClass : String) : Canary.Template :=
  if templateClass = Tags.templateCandidate then .candidate else .stable

def CanaryCall.op : CanaryCall → Op
  | .recordClone prep => .recordClone prep.profileName (templateOf prep.templateClass)
  | .recordFailure boot => .recordFailure boot.row.profile (templateOf boot.row.template)

structure CanaryConfig where
  pool : Config
  profiles : List Canary.ProfileConfig
  controller : Controller
  new_eq : Canary.new profiles = .ok controller

structure CanarySys where
  sys : Sys
  controller : Controller
  /-- The workers that have come to a call and not made it. -/
  calls : List CanaryCall
  /-- The VMs that a promotion of their profile has found unfailed and reported. No step reads it. -/
  outdated : List VMID := []

/-- A step of the pool, a worker's call, or an operator's promotion. -/
inductive CanaryAct
  | pool (act : Act)
  | call (i : ℕ)
  | promote (profile : String)

def CanaryAct.poolAct : CanaryAct → Option Act
  | .pool act => some act
  | _ => none

def CanaryAct.promoted : CanaryAct → Option String
  | .promote profile => some profile
  | _ => none

/-- The call that comes before the task. -/
def Task.afterCall : Task → Option CanaryCall
  | .cloneSnapshot prep _ | .cloneUpdate prep _ _ => some (.recordClone prep)
  | .poisonMark boot | .poisonDestroying boot _ => some (.recordFailure boot)
  | _ => none

/-- The calls that a task's step leads to, given whether what it asks of Proxmox succeeds. -/
def callsOf (cfg : Config) (s : Shared) (succeeds : Bool) : Task → List CanaryCall
  | .clonePower prep node =>
    if succeeds ∧ (cloneStartsVM cfg prep → (s.cluster.find prep.vmid node).isSome) then
      [.recordClone prep]
    else
      []
  | .poisonInc boot =>
    match s.store.get boot.row.vmid with
    | some row => if boot.row.template ≠ "" ∧ row.bootAttempts + 1 = 1 then [.recordFailure boot] else []
    | none => []
  | _ => []

/-- The VMID of a worker that is past the clone. -/
def Task.recorded : Task → Option VMID
  | .cloneSnapshot prep _ | .cloneUpdate prep _ _ => some prep.vmid
  | .bootStart boot | .bootWait boot | .bootHot boot | .poisonInc boot | .poisonMark boot =>
    some boot.row.vmid
  | _ => none

/-- The VMID of a worker that is about to count a failed boot. -/
def Task.failsBoot : Task → Option VMID
  | .poisonInc boot => some boot.row.vmid
  | _ => none

def CanaryCall.clones : CanaryCall → Bool
  | .recordClone _ => true
  | .recordFailure _ => false

namespace CanarySys

/-- A worker past the clone and its report is busy with the VM. -/
def Reported (w : CanarySys) (v : VMID) : Prop :=
  ∃ task ∈ w.sys.threads, task.recorded = some v ∧
    ∀ call ∈ task.afterCall, call.clones = true → call ∉ w.calls

instance (w : CanarySys) (v : VMID) : Decidable (w.Reported v) :=
  inferInstanceAs (Decidable (∃ _ ∈ _, _))

/-- The row of a candidate's clone that has been reported since the last promotion and whose boot can be
the first to fail. In the states left out a VM has not been cloned, or is destroyed unless a worker still
writes its row. -/
def Live (w : CanarySys) (profile : String) (v : VMID) : Prop :=
  v ∉ w.outdated ∧ ∃ row ∈ w.sys.shared.store.get v, row.profile = profile ∧
    row.template = Tags.templateCandidate ∧ row.bootAttempts = 0 ∧
    ((row.state ≠ .provisioning ∧ row.state.teardown = false) ∨ w.Reported v)

instance (w : CanarySys) (profile : String) (v : VMID) : Decidable (w.Live profile v) :=
  inferInstanceAs (Decidable (_ ∧ _))

def live (w : CanarySys) (profile : String) : Finset VMID :=
  (w.sys.shared.store.rows.map (·.vmid)).toFinset.filter (w.Live profile)

/-- The worker of this step has a call to make first. -/
def Waits (w : CanarySys) (act : Act) : Prop :=
  ∃ call ∈ (moving w.sys act).bind Task.afterCall, call ∈ w.calls

instance (w : CanarySys) (act : Act) : Decidable (w.Waits act) :=
  inferInstanceAs (Decidable (∃ _ ∈ _, _))

/-- A new process builds its controller anew. -/
def afterPool (cfg : CanaryConfig) (w : CanarySys) (act : Act) (sys : Sys) : CanarySys :=
  match act with
  | .crash => { sys := sys, controller := cfg.controller, calls := [] }
  | _ =>
    { w with
      sys := sys
      calls := w.calls ++ ((moving w.sys act).map (callsOf cfg.pool w.sys.shared act.succeeds)).getD []
      outdated := w.outdated.filter fun v ↦ (sys.shared.store.get v).isSome }

/-- A worker has made its call. -/
def called (w : CanarySys) (i : ℕ) (call : CanaryCall) : CanarySys :=
  { w with controller := w.controller.apply call.op, calls := w.calls.eraseIdx i }

/-- An operator has promoted the profile. -/
def promoted (w : CanarySys) (profile : String) : CanarySys :=
  { w with
    controller := w.controller.apply (.promote profile)
    outdated := w.outdated ++ (w.sys.shared.store.rows.map (·.vmid)).filter (w.Live profile) }

def step (cfg : CanaryConfig) (w : CanarySys) : CanaryAct → Option CanarySys
  | .pool act =>
    if w.Waits act then none else (Pool.step cfg.pool w.sys act).map (w.afterPool cfg act)
  | .call i =>
    match w.calls[i]? with
    | none => none
    | some call => some (w.called i call)
  | .promote profile => some (w.promoted profile)

def init (cfg : CanaryConfig) (cluster : Provisioner.Cluster) (runners : Gh.Runners) (now : Time) :
    CanarySys where
  sys := Pool.init cluster runners now
  controller := cfg.controller
  calls := []

end CanarySys

/-! ## What workers know of their row -/

section Tasks

variable {cfg : Config} {s s' : Shared} {sys sys' : Sys} {act : Act} {task other : Task} {reply : Reply}
  {v : VMID}

/-- VMID, profile and template class of a clone. -/
abbrev Origin := VMID × String × String

def originOf (row : Store.VM) : Origin := (row.vmid, row.profile, row.template)

def ClonePrep.origin (prep : ClonePrep) : Origin := (prep.vmid, prep.profileName, prep.templateClass)

/-- The clones that a worker is making or booting, or that a promotion pass has listed. -/
def Task.origins : Task → List Origin
  | .cloneIpam prep | .cloneIssue prep | .cloneAwait prep _ | .cloneConfigure prep _
  | .clonePower prep _ | .cloneSnapshot prep _ | .cloneUpdate prep _ _ => [prep.origin]
  | .bootStart boot | .bootWait boot | .bootHot boot | .poisonInc boot | .poisonMark boot =>
    [originOf boot.row]
  | .promoteLoop rows => rows.map originOf
  | _ => []

/-- What the task takes its VMs for is what their rows say. -/
def Task.Agrees (s : Shared) (task : Task) : Prop :=
  ∀ origin ∈ task.origins, ∀ row, s.store.get origin.1 = some row → originOf row = origin

/-- A new row's VMID is not named by any worker or promotion pass. -/
def InsertsUnnamed (sys : Sys) (act : Act) : Prop :=
  ∀ inserted ∈ (moving sys act).bind Task.insertsAs, sys.shared.store.get inserted.1 = none →
    ∀ task ∈ sys.threads, ∀ origin ∈ task.origins, origin.1 ≠ inserted.1

instance (sys : Sys) (act : Act) : Decidable (InsertsUnnamed sys act) :=
  inferInstanceAs (Decidable (∀ _ ∈ _, _))

/-- What `other` takes a VM for it has from `task`, or from the row itself. -/
@[irreducible]
def OriginsFrom (s s' : Shared) (task other : Task) : Prop :=
  ∀ origin ∈ other.origins, origin ∈ task.origins ∨
    ∃ row, (s.store.get origin.1 = some row ∨ s'.store.get origin.1 = some row) ∧ originOf row = origin

theorem originsFrom_of_subset (h : other.origins ⊆ task.origins) : OriginsFrom s s' task other := by
  unfold OriginsFrom
  exact fun origin horigin ↦ .inl (h horigin)

theorem originsFrom_next (hnamed : cfg.Named) (h : ClonesConfigured cfg task) :
    (task.action cfg reply).Next cfg s s' (List.Forall (OriginsFrom s s' task)) := by
  refine next_of_parts [.promote, .clone, .boot] (fun other hother ↦ originsFrom_of_subset ?_)
    fun hpart ↦ ?_
  · cases other <;> first | exact List.nil_subset _ | cases hother
  cases task with
  | cloneInsert settings kind poweredOn node v =>
    refine ⟨fun _ hrow _ ↦ ?_, trivial⟩
    simp only [if_true, List.Forall, OriginsFrom, Task.origins, List.mem_singleton]
    rintro _ rfl
    have hname : settings.name ≠ "" := hnamed settings (h settings rfl)
    refine .inr ⟨_, .inr hrow, ?_⟩
    simp [originOf, ClonePrep.origin, provisioningRow, Store.VM.stampInsert, hname]
  | promoteN profile n =>
    dsimp [Action.Next]
    unfold OriginsFrom
    intro origin horigin
    obtain ⟨row, hrow, rfl⟩ := List.mem_map.mp horigin
    have hlisted := (List.mem_insertionSort _).mp (List.mem_of_mem_take hrow)
    refine .inr ⟨row, .inl ?_, rfl⟩
    split at hlisted
    · exact (Store.mem_listByState.mp hlisted).1
    · exact (Store.mem_listByProfileAndStates.mp hlisted).1
  | promoteLoop rows =>
    cases rows with
    | nil => trivial
    | cons row rest =>
      have hrest : OriginsFrom s s' (.promoteLoop (row :: rest)) (.promoteLoop rest) :=
        originsFrom_of_subset (by simp [Task.origins])
      cases reply with
      | ok =>
        have hboot (gen : ℕ) : OriginsFrom s s' (.promoteLoop (row :: rest))
            (.bootStart { row := row, node := row.node, gen := gen }) :=
          originsFrom_of_subset (by simp [Task.origins])
        exact ⟨fun _ _ _ _ _ ↦ ⟨hboot _, hrest⟩, hrest⟩
      | _ => exact hrest
  | cloneUpdate prep node hasSnapshot =>
    refine ⟨fun row hold hrow _ ↦ ?_, fun err ↦ ?_⟩
    · -- the VM is booted with the row as it was just written
      have hvmid : row.vmid = prep.vmid := Table.key_of_get hold
      have hboot (other : Task) (hother : other.origins = [(prep.vmid, row.profile, row.template)]) :
          OriginsFrom s s' (.cloneUpdate prep node hasSnapshot) other := by
        unfold OriginsFrom
        rw [hother]
        intro origin horigin
        rw [List.mem_singleton.mp horigin]
        exact .inr ⟨_, .inr hrow, by simp [originOf, forceState, hvmid]⟩
      dsimp only
      split_ifs
      · exact hboot _ (by simp [Task.origins, originOf, forceState, hvmid])
      · exact hboot _ (by simp [Task.origins, originOf, forceState, hvmid])
      · trivial
    · cases err with
      | notFound => exact originsFrom_of_subset (List.nil_subset _)
      | _ => trivial
  | _ =>
    first
    | cases hpart; done
    | dsimp
      (repeat' split) <;> dsimp [Action.Next] <;>
        (repeat' first | split | apply And.intro | intro _) <;>
        first
        | trivial
        | exact originsFrom_of_subset (by simp [Task.origins])

theorem step_originOf (hstep : step cfg sys act = some sys') {row' : Store.VM}
    (hrow' : sys'.shared.store.get v = some row') :
    (∃ row, sys.shared.store.get v = some row ∧ originOf row = originOf row') ∨
      ∃ state, ∃ task, moving sys act = some task ∧ task.insertsAs = some (v, state) ∧
        sys.shared.store.get v = none := by
  have hvmid : row'.vmid = v := Table.key_of_get hrow'
  rcases step_row_some hstep hrow' with
    hsame | ⟨reply, task, hmoving, ⟨old, hold, hrowStep⟩ | ⟨hnone, hinserted⟩⟩
  · exact .inl ⟨row', hsame, rfl⟩
  · obtain ⟨_, _, hprofile, htemplate⟩ := sameVM_of_rowStep hrowStep
    have hold' : old.vmid = v := Table.key_of_get hold
    exact .inl ⟨old, hold, by simp [originOf, hvmid, hold', hprofile, htemplate]⟩
  · exact .inr ⟨_, task, hmoving, insertsAs_of_rowStep hinserted, hnone⟩

theorem agrees_step (hnamed : cfg.Named) (hstep : step cfg sys act = some sys')
    (hunnamed : InsertsUnnamed sys act) (hconfigured : ∀ task ∈ sys.threads, ClonesConfigured cfg task)
    (h : ∀ task ∈ sys.threads, task.Agrees sys.shared) :
    ∀ task ∈ sys'.threads, task.Agrees sys'.shared := by
  -- a row that is there after the step is the one the task knows, unless it is new
  have hkept : ∀ task ∈ sys.threads, task.Agrees sys.shared → task.Agrees sys'.shared := by
    intro task hmem hagrees origin horigin row' hrow'
    rcases step_originOf hstep hrow' with ⟨row, hrow, hsame⟩ | ⟨state, inserting, hmoving, hinserts, hnone⟩
    · rw [← hsame]
      exact hagrees origin horigin row hrow
    · have hinserting : (origin.1, state) ∈ (moving sys act).bind Task.insertsAs := by
        simp [hmoving, hinserts]
      exact absurd rfl (hunnamed _ hinserting hnone task hmem origin horigin)
  refine step_threads hstep h (fun reply task hmoving hagrees ↦ ?_)
    (fun task hmem ↦ hkept task (mem_threads_of_bystander hmem)) (fun task hcallable ↦ ?_)
    (fun _ _ _ horigin ↦ by cases horigin) (fun _ horigin ↦ by cases horigin)
  · have hmem := mem_threads_of_moving hmoving
    refine (originsFrom_next hnamed (hconfigured task hmem)).mono fun other hother ↦ ?_
    unfold OriginsFrom at hother
    intro origin horigin row' hrow'
    rcases hother origin horigin with hold | ⟨row, hrow | hrow, hsame⟩
    · exact hkept task hmem hagrees origin hold row' hrow'
    · rcases step_originOf hstep hrow' with ⟨old, hold, hkept⟩ | ⟨_, _, _, _, hnone⟩
      · cases hrow.symm.trans hold
        exact hkept.symm.trans hsame
      · cases hnone.symm.trans hrow
    · cases hrow.symm.trans hrow'
      exact hsame
  · have hnil : task.origins = [] := by
      cases task <;> first | rfl | cases hcallable
    intro origin horigin
    rw [hnil] at horigin
    cases horigin

/-! ## Workers whose clone is made -/

theorem origin_of_recorded (h : task.recorded = some v) : ∃ origin ∈ task.origins, origin.1 = v := by
  cases task <;> cases h <;> exact ⟨_, List.mem_singleton_self _, rfl⟩

theorem origin_of_afterCall {prep : ClonePrep} (h : task.afterCall = some (.recordClone prep)) :
    prep.origin ∈ task.origins ∧ task.recorded = some prep.vmid := by
  cases task <;> cases h <;> exact ⟨List.mem_singleton_self _, rfl⟩

theorem recorded_of_blindWrite {target : State} (h : task.blindWrite = some (v, target)) :
    task.recorded = some v := by
  cases task <;> simp_all [Task.blindWrite, Task.recorded]

/-- A row that has left Provisioning and is not torn down was so before, whatever move it has made. -/
theorem Move.inUse {source target : State} (h : Move source target)
    (htarget : target ≠ .provisioning ∧ target.teardown = false) :
    source ≠ .provisioning ∧ source.teardown = false := by
  cases h with
  | stay => exact htarget
  | drain | destroy => cases htarget.2
  | _ => exact ⟨by simp, rfl⟩

/-- A worker past the clone was so before, has just cloned and comes to its call, or boots a row that was
Warm. -/
@[irreducible]
def RecordedFrom (cfg : Config) (s : Shared) (act : Act) (task other : Task) : Prop :=
  ∀ v, other.recorded = some v → task.recorded = some v ∨
    (∃ prep, other.afterCall = some (.recordClone prep) ∧
      .recordClone prep ∈ callsOf cfg s act.succeeds task) ∨
    ∃ row, s.store.get v = some row ∧ row.state = .warm

theorem recordedFrom_of_none (h : other.recorded = none) : RecordedFrom cfg s act task other := by
  unfold RecordedFrom
  simp [h]

theorem recordedFrom_next (i : ℕ) :
    (task.action cfg reply).Next cfg s s' (List.Forall (RecordedFrom cfg s (.fire i reply) task)) := by
  refine next_of_parts [.clone, .boot] (fun other hother ↦ recordedFrom_of_none ?_) fun hpart ↦ ?_
  · cases other <;> first | rfl | cases hother
  cases task with
  | clonePower prep node =>
    cases reply with
    | ok =>
      have hcloned (hstarts : cloneStartsVM cfg prep → (s.cluster.find prep.vmid node).isSome) :
          RecordedFrom cfg s (.fire i .ok) (.clonePower prep node)
            (if cfg.snapshotRecycle then .cloneSnapshot prep node else .cloneUpdate prep node false) := by
        unfold RecordedFrom
        intro v _
        refine .inr (.inl ⟨prep, by split <;> rfl, ?_⟩)
        rw [callsOf, if_pos ⟨rfl, hstarts⟩]
        exact List.mem_singleton_self _
      dsimp only [Task.action, cloneAction]
      split
      · exact ⟨fun guest hguest ↦ hcloned fun _ ↦ by rw [hguest]; rfl, fun _ ↦ recordedFrom_of_none rfl⟩
      · exact hcloned fun hstarts ↦ absurd hstarts ‹_›
    | _ => exact recordedFrom_of_none rfl
  | promoteLoop rows =>
    cases rows with
    | nil => trivial
    | cons row rest =>
      cases reply with
      | ok =>
        refine ⟨fun old hold hstate _ _ ↦ ?_, by simp [RecordedFrom, Task.recorded]⟩
        simp only [Option.isSome_some, if_true, List.Forall]
        refine ⟨?_, recordedFrom_of_none rfl⟩
        unfold RecordedFrom
        intro v hv
        cases hv
        exact .inr (.inr ⟨old, hold, List.mem_singleton.mp hstate⟩)
      | _ => exact recordedFrom_of_none rfl
  | cloneUpdate prep node hasSnapshot =>
    refine ⟨fun row hold _ _ ↦ ?_, fun err ↦ ?_⟩
    · have hvmid : row.vmid = prep.vmid := Table.key_of_get hold
      dsimp
      (repeat' split) <;> simp_all [RecordedFrom, Task.recorded]
    · cases err <;> simp [RecordedFrom, Task.recorded]
  | _ =>
    first
    | cases hpart; done
    | dsimp
      (repeat' split) <;> dsimp [Action.Next] <;>
        (repeat' first | split | apply And.intro | intro _) <;>
        first
        | trivial
        | exact recordedFrom_of_none rfl
        | simp [RecordedFrom, Task.recorded]

theorem not_recorded_of_callable (h : callable s task) : task.recorded = none := by
  cases task <;> first | rfl | cases h

theorem recorded_step (hstep : step cfg sys act = some sys') (hother : other ∈ sys'.threads)
    (h : other.recorded = some v) :
    (act ≠ .crash ∧ other ∈ sys.threads) ∨ (∃ task, moving sys act = some task ∧ (task.recorded = some v ∨
      ∃ prep, other.afterCall = some (.recordClone prep) ∧
        .recordClone prep ∈ callsOf cfg sys.shared act.succeeds task)) ∨
      ∃ row, sys.shared.store.get v = some row ∧ row.state = .warm := by
  rcases tagged_step hstep hother h (fun _ ↦ not_recorded_of_callable) (fun _ ↦ rfl) rfl with
    ⟨hcrash, hold⟩ | ⟨i, reply, task, next, rfl, hthread, hexec, hnew⟩
  · exact .inl ⟨hcrash, mem_threads_of_bystander hold⟩
  · have hfrom := exec_forall hexec (recordedFrom_next i) hnew
    unfold RecordedFrom at hfrom
    rcases hfrom v h with hsame | ⟨prep, hcall, hmem⟩ | hwarm
    · exact .inr (.inl ⟨task, hthread, .inl hsame⟩)
    · exact .inr (.inl ⟨task, hthread, .inr ⟨prep, hcall, hmem⟩⟩)
    · exact .inr (.inr hwarm)

end Tasks

def CanaryCall.fails (profile : String) : CanaryCall → Bool
  | .recordFailure boot => boot.row.profile = profile ∧ boot.row.template = Tags.templateCandidate
  | .recordClone _ => false

namespace CanarySys

variable {cfg : CanaryConfig} {w w' : CanarySys} {a : CanaryAct} {act : Act} {profile : String} {v : VMID}
  {labels : List CanaryAct}

/-! ## Failures that are still to come -/

theorem Live.mem_vmids (h : w.Live profile v) : v ∈ w.sys.shared.store.rows.map (·.vmid) := by
  obtain ⟨-, row, hrow, -⟩ := h
  have hvmid : row.vmid = v := Table.key_of_get hrow
  exact List.mem_map.mpr ⟨row, Table.mem_rows.mpr (hvmid ▸ hrow), hvmid⟩

theorem mem_live : v ∈ w.live profile ↔ w.Live profile v := by
  simp only [live, Finset.mem_filter, List.mem_toFinset, and_iff_right_iff_imp]
  exact Live.mem_vmids

/-! ## Steps of the pool -/

theorem afterPool_of_ne_crash (hcrash : act ≠ .crash) (sys : Sys) :
    w.afterPool cfg act sys =
      { w with
        sys := sys
        calls := w.calls ++
          ((moving w.sys act).map (callsOf cfg.pool w.sys.shared act.succeeds)).getD []
        outdated := w.outdated.filter fun v ↦ (sys.shared.store.get v).isSome } := by
  cases act with
  | crash => exact absurd rfl hcrash
  | _ => rfl

theorem reported_of_moving (hwaits : ¬w.Waits act) {task : Task} (hmoving : moving w.sys act = some task)
    (h : task.recorded = some v) : w.Reported v := by
  refine ⟨task, mem_threads_of_moving hmoving, h, fun call hafter _ hcall ↦ hwaits ?_⟩
  exact ⟨call, by simpa [hmoving] using hafter, hcall⟩

section Pool

variable {sys : Sys} (hsys : Pool.step cfg.pool w.sys act = some sys) (hcrash : act ≠ .crash)
  (hwaits : ¬w.Waits act)

include hsys hcrash hwaits

theorem reported_before (h : (w.afterPool cfg act sys).Reported v) :
    w.Reported v ∨ ∃ row, w.sys.shared.store.get v = some row ∧ row.state = .warm := by
  rw [afterPool_of_ne_crash hcrash] at h
  obtain ⟨task', hmem, hrecorded, hcalls⟩ := h
  rcases recorded_step hsys hmem hrecorded with
    ⟨_, hold⟩ | ⟨task, hmoving, hsame | ⟨prep, hprep, hcall⟩⟩ | hwarm
  · exact .inl ⟨task', hold, hrecorded, fun call hafter hclones hcall ↦
      hcalls call hafter hclones (List.mem_append_left _ hcall)⟩
  · exact .inl (reported_of_moving hwaits hmoving hsame)
  · -- the worker that has just cloned has its call to make
    exact absurd (List.mem_append_right _ (by simpa [hmoving] using hcall)) (hcalls _ hprep rfl)
  · exact .inr hwarm

/-- No step of the pool adds to the failures still to come: they begin with a worker's call. -/
theorem live_before (hunnamed : InsertsUnnamed w.sys act)
    (hadopts : ∀ task ∈ w.sys.threads, task.AdoptsUnbooted)
    (h : (w.afterPool cfg act sys).Live profile v) : w.Live profile v := by
  have hreported := reported_before hsys hcrash hwaits (v := v)
  obtain ⟨houtdated, row', hrow', hprofile, htemplate, hattempts, hready⟩ := h
  rw [afterPool_of_ne_crash hcrash] at hrow' houtdated
  -- a VM that keeps its row stays outdated
  have hfresh : v ∉ w.outdated := fun hv ↦
    houtdated (List.mem_filter.mpr ⟨hv, Option.isSome_of_mem hrow'⟩)
  refine ⟨hfresh, ?_⟩
  rcases step_row_some hsys hrow' with
    hsame | ⟨reply, task, hmoving, ⟨old, hold, hrowStep⟩ | ⟨hnone, hinserted⟩⟩
  · refine ⟨row', hsame, hprofile, htemplate, hattempts, ?_⟩
    rcases hready with hstate | hnow
    · exact .inl hstate
    · rcases hreported hnow with hbefore | ⟨row, hrow, hwarm⟩
      · exact .inr hbefore
      · cases hsame.symm.trans hrow
        exact .inl (by simp [hwarm, State.teardown])
  · obtain ⟨_, _, hprofile', htemplate'⟩ := sameVM_of_rowStep hrowStep
    have hattempts' : old.bootAttempts = 0 := by
      rcases rowStep_bootAttempts hrowStep with ⟨_, hkept⟩ | ⟨_, _, _, hcounted⟩
      · exact hkept.symm.trans hattempts
      · omega
    refine ⟨old, hold, hprofile'.symm.trans hprofile, htemplate'.symm.trans htemplate, hattempts', ?_⟩
    rcases hready with hstate | hnow
    · rcases rowStep_move hrowStep with hmove | hblind
      · exact .inl (hmove.inUse hstate)
      · exact .inr (reported_of_moving hwaits hmoving (recorded_of_blindWrite hblind))
    · rcases hreported hnow with hbefore | ⟨row, hrow, hwarm⟩
      · exact .inr hbefore
      · cases hold.symm.trans hrow
        exact .inl (by simp [hwarm, State.teardown])
  · -- a new row is Provisioning and nobody's, or adopted and of no template
    have hinserts := insertsAs_of_rowStep hinserted
    have hprovisioning : row'.state = .provisioning := by
      cases task with
      | cloneInsert => exact (Prod.mk.inj (Option.some.inj hinserts)).2.symm
      | adoptInsert row =>
        obtain ⟨_, _, hstamped⟩ := hinserted
        cases hstamped
        have hempty := (hadopts _ (mem_threads_of_moving hmoving)).2
        exact absurd (hempty.symm.trans htemplate) (by decide)
      | _ => cases hinserts
    rcases hready with hstate | hnow
    · exact absurd hprovisioning hstate.1
    · rcases hreported hnow with ⟨other, hmem, hrecorded, _⟩ | ⟨row, hrow, _⟩
      · obtain ⟨origin, horigin, hvmid⟩ := origin_of_recorded hrecorded
        have hinserting : (v, row'.state) ∈ (moving w.sys act).bind Task.insertsAs := by
          simp [hmoving, hinserts]
        exact absurd hvmid (hunnamed _ hinserting hnone other hmem origin horigin)
      · cases hnone.symm.trans hrow

end Pool

/-! ## The counters -/

/-- The failures of the profile that workers are about to report. -/
def failing (w : CanarySys) (profile : String) : ℕ := w.calls.countP (·.fails profile)

/-- Reported and coming failures of a profile are at most its reported clones. -/
def Bounded (w : CanarySys) : Prop :=
  ∀ profile ps, w.controller.profiles.lookup profile = some ps →
    ps.canaryFailures + w.failing profile + (w.live profile).card ≤ ps.canaryClones

structure Inv (cfg : CanaryConfig) (w : CanarySys) : Prop where
  configured : ∀ task ∈ w.sys.threads, ClonesConfigured cfg.pool task
  adopts : ∀ task ∈ w.sys.threads, task.AdoptsUnbooted
  agrees : ∀ task ∈ w.sys.threads, task.Agrees w.sys.shared
  bounded : w.Bounded

/-- A VMID is issued again only when no worker and no promotion pass names it, no VM fails that was cloned
before a promotion of its profile, and a profile is promoted only when no failure of it is still to be
reported. -/
def Settles (w : CanarySys) (a : CanaryAct) (_ : CanarySys) : Prop :=
  (∀ act ∈ a.poolAct, InsertsUnnamed w.sys act ∧
      ∀ v ∈ (moving w.sys act).bind Task.failsBoot, v ∉ w.outdated) ∧
    ∀ profile ∈ a.promoted, w.failing profile = 0

instance (w : CanarySys) (a : CanaryAct) (w' : CanarySys) : Decidable (w.Settles a w') :=
  inferInstanceAs (Decidable (_ ∧ _))

theorem templateOf_eq_candidate {templateClass : String} :
    templateOf templateClass = .candidate ↔ templateClass = Tags.templateCandidate := by
  unfold templateOf
  split_ifs with h <;> simp [h]

theorem effect_recordClone (minSamples : ℕ) (profile : String) (prep : ClonePrep) (ps : ProfileState) :
    let ps' := (CanaryCall.recordClone prep).op.effect minSamples profile ps
    ps'.canaryFailures = ps.canaryFailures ∧ ps'.canaryClones = ps.canaryClones +
      if profile = prep.profileName ∧ prep.templateClass = Tags.templateCandidate then 1 else 0 := by
  simp only [CanaryCall.op, Op.effect, templateOf_eq_candidate]
  split_ifs
  · exact ⟨rfl, rfl⟩
  · exact ⟨rfl, rfl⟩

theorem effect_recordFailure (minSamples : ℕ) (profile : String) (boot : Boot) (ps : ProfileState) :
    let ps' := (CanaryCall.recordFailure boot).op.effect minSamples profile ps
    ps'.canaryClones = ps.canaryClones ∧ ps'.canaryFailures = ps.canaryFailures +
      if CanaryCall.fails profile (.recordFailure boot) then 1 else 0 := by
  simp only [CanaryCall.op, Op.effect, templateOf_eq_candidate, CanaryCall.fails, decide_eq_true_eq,
    eq_comm (a := profile)]
  split_ifs
  · unfold ProfileState.recordFailure
    dsimp only
    split_ifs <;> exact ⟨rfl, rfl⟩
  · exact ⟨rfl, rfl⟩

theorem countP_callsOf (cfg : Config) (s : Shared) (succeeds : Bool) (profile : String) (task : Task) :
    (callsOf cfg s succeeds task).countP (·.fails profile) = 0 ∨
      (callsOf cfg s succeeds task).countP (·.fails profile) = 1 ∧
        ∃ boot row, task = .poisonInc boot ∧ s.store.get boot.row.vmid = some row ∧ row.bootAttempts = 0 ∧
          boot.row.profile = profile ∧ boot.row.template = Tags.templateCandidate := by
  cases task with
  | clonePower =>
    refine .inl ?_
    rw [callsOf]
    split_ifs <;> rfl
  | poisonInc boot =>
    rw [callsOf]
    split
    next row hrow =>
      split_ifs with hfirst
      · by_cases hfails : CanaryCall.fails profile (.recordFailure boot) = true
        · obtain ⟨hprofile, htemplate⟩ := of_decide_eq_true hfails
          refine .inr ⟨by simp [hfails], boot, row, rfl, hrow, by omega, hprofile, htemplate⟩
        · exact .inl (by simp [hfails])
      · exact .inl rfl
    next => exact .inl rfl
  | _ => exact .inl rfl

/-- The failure that a step of the pool leads to is one of those that were to come. -/
theorem bounded_pool {sys : Sys} (hsys : Pool.step cfg.pool w.sys act = some sys) (hcrash : act ≠ .crash)
    (hwaits : ¬w.Waits act) (hunnamed : InsertsUnnamed w.sys act)
    (hfresh : ∀ v ∈ (moving w.sys act).bind Task.failsBoot, v ∉ w.outdated) (hinv : Inv cfg w) :
    (w.afterPool cfg act sys).Bounded := by
  intro profile ps hps
  have hlive : (w.afterPool cfg act sys).live profile ⊆ w.live profile := fun v hv ↦
    mem_live.mpr (live_before hsys hcrash hwaits hunnamed hinv.adopts (mem_live.mp hv))
  have hbound := hinv.bounded profile ps (by rwa [afterPool_of_ne_crash hcrash] at hps)
  have hfailing : (w.afterPool cfg act sys).failing profile = w.failing profile +
      (((moving w.sys act).map (callsOf cfg.pool w.sys.shared act.succeeds)).getD []).countP
        (·.fails profile) := by
    rw [afterPool_of_ne_crash hcrash]
    exact List.countP_append
  cases hmoving : moving w.sys act with
  | none =>
    have hcard := Finset.card_le_card hlive
    rw [hmoving, Option.map_none, Option.getD_none, List.countP_nil] at hfailing
    omega
  | some task =>
    rw [hmoving, Option.map_some, Option.getD_some] at hfailing
    rcases countP_callsOf cfg.pool w.sys.shared act.succeeds profile task with
      hzero | ⟨hone, boot, row, rfl, hrow, hattempts, hprofile, htemplate⟩
    · have hcard := Finset.card_le_card hlive
      omega
    · -- the row has its first failed boot now, and was one of those that could
      have hmem := mem_threads_of_moving hmoving
      have horigin := hinv.agrees _ hmem (originOf boot.row) (List.mem_singleton_self _) row hrow
      simp only [originOf, Prod.mk.injEq] at horigin
      have hbefore : boot.row.vmid ∈ w.live profile := mem_live.mpr
        ⟨hfresh _ (by simp [hmoving, Task.failsBoot]), row, hrow, horigin.2.1.trans hprofile,
          horigin.2.2.trans htemplate, hattempts, .inr (reported_of_moving hwaits hmoving rfl)⟩
      have hafter : boot.row.vmid ∉ (w.afterPool cfg act sys).live profile := by
        intro hv
        obtain ⟨-, row', hrow', _, _, hattempts', _⟩ := mem_live.mp hv
        rw [afterPool_of_ne_crash hcrash] at hrow'
        have hcounted := hrow'.symm.trans (step_poisonInc hsys hmoving hrow).1
        cases hcounted
        cases hattempts'
      have hcard := Finset.card_lt_card
        (Finset.ssubset_iff_of_subset hlive |>.mpr ⟨_, hbefore, hafter⟩)
      omega

section Calls

variable {i : ℕ} {call : CanaryCall} (hcall : w.calls[i]? = some call)

include hcall

/-- A call adds at most the VM whose clone it reports. -/
theorem live_of_call (hagrees : ∀ task ∈ w.sys.threads, task.Agrees w.sys.shared)
    (h : (w.called i call).Live profile v) :
    w.Live profile v ∨ ∃ prep, call = .recordClone prep ∧ v = prep.vmid ∧ prep.profileName = profile ∧
      prep.templateClass = Tags.templateCandidate := by
  obtain ⟨hfresh, row, hrow, hprofile, htemplate, hattempts, hstate | ⟨task, hmem, hrecorded, hmade⟩⟩ := h
  · exact .inl ⟨hfresh, row, hrow, hprofile, htemplate, hattempts, .inl hstate⟩
  · by_cases hbefore : ∀ call ∈ task.afterCall, call.clones = true → call ∉ w.calls
    · exact .inl ⟨hfresh, row, hrow, hprofile, htemplate, hattempts, .inr ⟨task, hmem, hrecorded, hbefore⟩⟩
    · push Not at hbefore
      obtain ⟨pending, hprep, hclones, hpending⟩ := hbefore
      have hthis : pending = call := by
        rcases List.mem_cons.mp ((cons_eraseIdx_perm hcall).mem_iff.mpr hpending) with hthis | hother
        · exact hthis
        · exact absurd hother (hmade pending hprep hclones)
      obtain ⟨prep, rfl⟩ : ∃ prep, pending = .recordClone prep := by
        cases pending with
        | recordClone prep => exact ⟨prep, rfl⟩
        | recordFailure => cases hclones
      obtain ⟨horigin, hrecorded'⟩ := origin_of_afterCall hprep
      have hv : v = prep.vmid := Option.some.inj (hrecorded.symm.trans hrecorded')
      subst hv
      have hsame := hagrees task hmem prep.origin horigin row hrow
      simp only [originOf, ClonePrep.origin, Prod.mk.injEq] at hsame
      exact .inr ⟨prep, hthis.symm, rfl, hsame.2.1.symm.trans hprofile, hsame.2.2.symm.trans htemplate⟩

theorem failing_of_call (profile : String) :
    w.failing profile = (w.called i call).failing profile + if call.fails profile then 1 else 0 := by
  rw [failing, ← (cons_eraseIdx_perm hcall).countP_eq, List.countP_cons]
  rfl

theorem bounded_call (hinv : Inv cfg w) : (w.called i call).Bounded := by
  intro profile ps' hps'
  rw [called, Controller.lookup_apply, Option.map_eq_some_iff] at hps'
  obtain ⟨ps, hps, rfl⟩ := hps'
  have hbound := hinv.bounded profile ps hps
  have hfailing := failing_of_call hcall profile
  have hlive : ∀ v ∈ (w.called i call).live profile, w.Live profile v ∨ _ :=
    fun v hv ↦ live_of_call hcall hinv.agrees (mem_live.mp hv)
  cases call with
  | recordClone prep =>
    obtain ⟨hfailures, hclones⟩ := effect_recordClone w.controller.minFailureSamples profile prep ps
    rw [if_neg (by simp [CanaryCall.fails])] at hfailing
    split_ifs at hclones with hcounts
    · have hsubset : (w.called i (.recordClone prep)).live profile ⊆ insert prep.vmid (w.live profile) := by
        intro v hv
        rcases hlive v hv with hold | ⟨other, hother, hv, _⟩
        · exact Finset.mem_insert_of_mem (mem_live.mpr hold)
        · cases hother
          exact hv ▸ Finset.mem_insert_self _ _
      have hcard := (Finset.card_le_card hsubset).trans (Finset.card_insert_le _ _)
      omega
    · have hsubset : (w.called i (.recordClone prep)).live profile ⊆ w.live profile := by
        intro v hv
        rcases hlive v hv with hold | ⟨other, hother, _, hprofile, htemplate⟩
        · exact mem_live.mpr hold
        · cases hother
          exact absurd ⟨hprofile.symm, htemplate⟩ hcounts
      have hcard := Finset.card_le_card hsubset
      omega
  | recordFailure boot =>
    obtain ⟨hclones, hfailures⟩ := effect_recordFailure w.controller.minFailureSamples profile boot ps
    have hsubset : (w.called i (.recordFailure boot)).live profile ⊆ w.live profile := by
      intro v hv
      rcases hlive v hv with hold | ⟨other, hother, _⟩
      · exact mem_live.mpr hold
      · cases hother
    have hcard := Finset.card_le_card hsubset
    omega

end Calls

theorem Live.of_promoted {promoted : String} (h : (w.promoted promoted).Live profile v) :
    w.Live profile v ∧ profile ≠ promoted := by
  obtain ⟨hfresh, hrow⟩ := h
  obtain ⟨hbefore, hnew⟩ := not_or.mp (mt List.mem_append.mpr hfresh)
  have hlive : w.Live profile v := ⟨hbefore, hrow⟩
  refine ⟨hlive, ?_⟩
  rintro rfl
  exact hnew (List.mem_filter.mpr ⟨hlive.mem_vmids, decide_eq_true hlive⟩)

/-- A promotion starts the counters of its profile anew, and the VMs that could fail are outdated. -/
theorem bounded_promote {promoted : String} (hinv : Inv cfg w)
    (hsettles : w.Settles (.promote promoted) w') : (w.promoted promoted).Bounded := by
  have hfailing := hsettles.2 promoted rfl
  intro profile ps' hps'
  rw [CanarySys.promoted, Controller.lookup_apply, Option.map_eq_some_iff] at hps'
  obtain ⟨ps, hps, rfl⟩ := hps'
  have hbound := hinv.bounded profile ps hps
  have hlive : (w.promoted promoted).live profile ⊆ w.live profile := fun v hv ↦
    mem_live.mpr (mem_live.mp hv).of_promoted.1
  have hcard := Finset.card_le_card hlive
  have hsame : (w.promoted promoted).failing profile = w.failing profile := rfl
  rw [hsame, Op.effect]
  split_ifs with hprofile
  · subst hprofile
    have hnone : (w.promoted profile).live profile = ∅ :=
      Finset.eq_empty_of_forall_notMem fun v hv ↦ (mem_live.mp hv).of_promoted.2 rfl
    unfold ProfileState.promote
    split_ifs
    · exact (Nat.add_le_add_left hcard _).trans hbound
    · change 0 + w.failing profile + _ ≤ 0
      rw [hfailing, hnone, Finset.card_empty]
  · exact (Nat.add_le_add_left hcard _).trans hbound

theorem controller_fresh (cfg : CanaryConfig) :
    cfg.controller.Each fun ps ↦ ps.canaryFailures = 0 ∧ ps.canaryClones = 0 :=
  Canary.each_new (fun _ _ ↦ ⟨rfl, rfl⟩) cfg.new_eq

theorem bounded_fresh {sys : Sys} (hstore : ∀ v, sys.shared.store.get v = none) :
    Bounded { sys := sys, controller := cfg.controller, calls := [] } := by
  intro profile ps hps
  obtain ⟨hfailures, -⟩ := controller_fresh cfg profile ps hps
  have hnone : live { sys := sys, controller := cfg.controller, calls := [] } profile = ∅ := by
    refine Finset.eq_empty_of_forall_notMem fun v hv ↦ ?_
    obtain ⟨-, row, hrow, _⟩ := mem_live.mp hv
    cases (hstore v).symm.trans hrow
  rw [hfailures, hnone]
  exact Nat.zero_le _

theorem Inv.step (hnamed : cfg.pool.Named) (hinv : Inv cfg w) (hstep : step cfg w a = some w')
    (hsettles : w.Settles a w') : Inv cfg w' := by
  cases a with
  | pool act =>
    rw [CanarySys.step] at hstep
    split_ifs at hstep with hwaits
    obtain ⟨sys, hsys, rfl⟩ := Option.map_eq_some_iff.mp hstep
    have hthreads : (w.afterPool cfg act sys).sys = sys := by
      cases act <;> rfl
    refine ⟨?_, ?_, ?_, ?_⟩
    · rw [hthreads]
      exact clonesConfigured_step hsys hinv.configured
    · rw [hthreads]
      exact adoptsUnbooted_step hsys hinv.adopts
    · rw [hthreads]
      exact agrees_step hnamed hsys (hsettles.1 act rfl).1 hinv.configured hinv.agrees
    · by_cases hcrash : act = .crash
      · subst hcrash
        cases stepped_of_step hsys with
        | crash => exact bounded_fresh fun v ↦ Table.get_empty v
        | outside houtside => cases houtside
      · exact bounded_pool hsys hcrash hwaits (hsettles.1 act rfl).1 (hsettles.1 act rfl).2 hinv
  | call i =>
    simp only [CanarySys.step] at hstep
    split at hstep
    · cases hstep
    next call hcall =>
      cases hstep
      exact ⟨hinv.configured, hinv.adopts, hinv.agrees, bounded_call hcall hinv⟩
  | promote promoted =>
    cases hstep
    exact ⟨hinv.configured, hinv.adopts, hinv.agrees, bounded_promote hinv hsettles⟩

theorem inv_init (cfg : CanaryConfig) (cluster : Provisioner.Cluster) (runners : Gh.Runners) (now : Time) :
    Inv cfg (init cfg cluster runners now) where
  configured task hmem := by
    rw [List.mem_singleton.mp hmem]
    exact clonesConfigured_of_none rfl
  adopts task hmem := by
    rw [List.mem_singleton.mp hmem]
    trivial
  agrees task hmem := by
    rw [List.mem_singleton.mp hmem]
    exact fun _ horigin ↦ by cases horigin
  bounded := bounded_fresh fun v ↦ Table.get_empty v

/-- On every run that reissues VMIDs only when they are settled and in which no VM fails across a promotion
of its profile, the failures that are recorded of a candidate never exceed its recorded clones. -/
theorem failures_le_clones {cluster : Provisioner.Cluster} {runners : Gh.Runners} {now : Time}
    (hnamed : cfg.pool.Named) (hsettles : Along (step cfg) Settles (init cfg cluster runners now) labels)
    (hrun : run (step cfg) (init cfg cluster runners now) labels = some w) :
    ∀ profile ps, w.controller.profiles.lookup profile = some ps →
      ps.canaryFailures ≤ ps.canaryClones := by
  have hinv := invariant_of_along (Inv cfg) (fun _ _ _ hinv hmeets hstep ↦ hinv.step hnamed hstep hmeets)
    (inv_init cfg cluster runners now) hsettles hrun
  intro profile ps hps
  have hbound := hinv.bounded profile ps hps
  omega

end CanarySys

/-! ### One candidate -/

/-- The scale set `ci` with a candidate template for its profile `gpu`. -/
def gpuCanary : CanaryConfig where
  pool := { gpuPool with locateTemplate := fun _ ↦ some "pve1" }
  profiles := [Canary.gpuProfile]
  controller := Canary.gpuController
  new_eq := Canary.new_gpuProfile

def gpuStart : CanarySys := .init gpuCanary .empty ∅ Store.second

/-- A candidate is cloned for `gpu`, up to the wait for its guest agent. -/
def cloneCandidate : List CanaryAct :=
  (adoptNothing ++ ([.call (.kickClone "gpu" .hot true), .fire 0 (.node "pve1"), .fire 0 .ok,
    .fire 0 (.template 9001 "candidate"), .fire 0 .ok, .fire 0 .ok, .fire 0 .ok, .fire 0 .ok, .fire 0 .ok] :
      List Act)).map .pool ++ [.call 0, .pool (.fire 0 .ok)]

/-- The boot fails, and the failure is reported. -/
def failBoot : List CanaryAct := [.pool (.fire 0 .fail), .pool (.fire 0 .ok), .call 0]

/-- The candidate fails and is promoted when it has. -/
theorem failures_le_clones_failBoot :
    ∃ w ∈ run (CanarySys.step gpuCanary) gpuStart (cloneCandidate ++ failBoot),
      (∃ ps ∈ w.controller.profiles.lookup "gpu", ps.canaryFailures = 1) ∧
        Along (CanarySys.step gpuCanary) CanarySys.Settles w [.promote "gpu"] ∧
        ∀ ps, w.controller.profiles.lookup "gpu" = some ps → ps.canaryFailures ≤ ps.canaryClones := by
  obtain ⟨w, hrun, hfailed, hpromote⟩ :
      ∃ w ∈ run (CanarySys.step gpuCanary) gpuStart (cloneCandidate ++ failBoot),
        (∃ ps ∈ w.controller.profiles.lookup "gpu", ps.canaryFailures = 1) ∧
          Along (CanarySys.step gpuCanary) CanarySys.Settles w [.promote "gpu"] := by
    decide +kernel
  have hsettles :
      Along (CanarySys.step gpuCanary) CanarySys.Settles gpuStart (cloneCandidate ++ failBoot) := by
    decide +kernel
  exact ⟨w, hrun, hfailed, hpromote, CanarySys.failures_le_clones (by decide) hsettles hrun "gpu"⟩

/-- A VM that boots may wait for it while its profile is promoted. -/
example : Along (CanarySys.step gpuCanary) CanarySys.Settles gpuStart
    (cloneCandidate ++ [.promote "gpu", .pool (.fire 0 .ok), .pool (.fire 0 .ok)]) := by
  decide +kernel

/-- The candidate is promoted between its clone and its boot. The controller picks the candidate for the
VMID, as the clone has it, and is left with a failure of no clone. -/
theorem promotion_leaves_failure :
    Canary.gpuController.pick "gpu" 10000 = some { templateVMID := 9001, template := .candidate } ∧
      ∃ w ∈ run (CanarySys.step gpuCanary) gpuStart (cloneCandidate ++ [.promote "gpu"] ++ failBoot),
        ∃ ps ∈ w.controller.profiles.lookup "gpu", ps.canaryFailures = 1 ∧ ps.canaryClones = 0 := by
  decide +kernel

end ScalesetProxmox.Pool
