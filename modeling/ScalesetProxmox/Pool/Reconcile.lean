import ScalesetProxmox.Pool.Outcomes

/-!
# The reconciler's listing and the runners it acts on

A tick lists the runners, then the rows, and then makes its calls one by one. Each call rests on the
runner listing taken at the start. `reconciler_spares_busy` holds the tick to its purpose: it
destroys no Running row whose runner is executing a job, provided that no runner picks up a job
behind the back of a tick in progress, and that adopted VMs are named like clones. A runner that
registers and starts its job right after the listing is the case the proviso excludes, and the
matrix gives that case no grace: `reconciler_destroys_busy_runner`.
-/

namespace ScalesetProxmox.Gh

def RunnerInfo.executing (runner : RunnerInfo) : Bool := runner.online && runner.busy

/-- GitHub knows a runner of this name and it is executing a job. -/
def executing (runners : Runners) (name : String) : Bool :=
  (runners.lookup name).any RunnerInfo.executing

theorem executing_iff {runners : Runners} {name : String} :
    executing runners name ↔ ghStateLabel (runners.lookup name) = .busy := by
  unfold executing ghStateLabel RunnerInfo.executing
  cases runners.lookup name with
  | none => simp
  | some runner =>
    cases honline : runner.online <;> cases hbusy : runner.busy <;> simp [honline, hbusy]

theorem not_executing_of_forceDestroy {graces : Graces} {now : Store.Time} {runners : Runners}
    {row : RowSnapshot} {v : Store.VMID} {reason : String}
    (h : rowAction graces now runners row = some (.forceDestroy v reason)) :
    executing runners row.name = false := by
  obtain ⟨action, hcell, hop, _⟩ := rowAction_eq_forceDestroy.mp h
  rw [← Bool.not_eq_true, executing_iff]
  intro hbusy
  rw [hbusy] at hcell
  generalize row.state = state at hcell
  cases state <;> cases hcell <;> cases hop

end ScalesetProxmox.Gh

namespace ScalesetProxmox.Pool

open Store (VMID Time)
open Transition

variable {cfg : Config} {s s' : Shared} {sys sys' : Sys} {act : Act} {labels : List Act}
  {task : Task} {reply : Reply} {v : VMID}

def cloneName (cfg : Config) (v : VMID) : String := cfg.pmox.vmNamePrefix ++ toString v

def Task.listing : Task → Option Gh.Runners
  | .tickRows runners | .tickMatrix runners _ | .tickApply _ runners _ => some runners
  | _ => none

def Task.listedRows : Task → List Gh.RowSnapshot
  | .tickMatrix _ rows | .tickApply _ _ rows => rows
  | _ => []

def Task.reconcilerDestroys (cfg : Config) : Task → Option VMID
  | .tickApply now runners (row :: _) =>
    match Gh.rowAction cfg.graces now runners row with
    | some (.forceDestroy v _) => some v
    | _ => none
  | _ => none

def Task.adoptsAs : Task → Option (VMID × String)
  | .adoptInsert row _ _ _ => some (row.vmid, row.name)
  | _ => none

/-- The runner whose state changes on GitHub. -/
def Act.setsRunner : Act → Option (String × Gh.RunnerInfo)
  | .setRunner name runner => some (name, runner)
  | _ => none

/-- A runner of the scale set that picks up a job is known to do so by every tick in progress, and
adopted VMs are named like clones. -/
def ListingsCurrent (cfg : Config) (sys : Sys) (act : Act) (_ : Sys) : Prop :=
  (∀ changed ∈ act.setsRunner, Text.hasPrefix changed.1 cfg.pmox.vmNamePrefix = true →
    changed.2.executing = true → ∀ task ∈ sys.threads,
      ∀ runners ∈ task.listing, Gh.executing runners changed.1 = true) ∧
  ∀ adopted ∈ (moving sys act).bind Task.adoptsAs, adopted.2 = cloneName cfg adopted.1

instance (sys : Sys) (act : Act) (sys' : Sys) : Decidable (ListingsCurrent cfg sys act sys') :=
  inferInstanceAs (Decidable (_ ∧ _))

/-- A row that the reconciler is about to force-destroy is not Running with its runner executing a
job. -/
def ReconcilerSparesBusy (cfg : Config) (sys : Sys) (act : Act) (_ : Sys) : Prop :=
  ∀ v ∈ (moving sys act).bind (Task.reconcilerDestroys cfg),
    ∀ row ∈ sys.shared.store.get v, row.state = .running →
      Gh.executing sys.shared.runners row.name = false

/-- What a tick in progress knows: the runners that are executing a job now were seen to, and its
rows are named like clones. -/
@[mk_iff]
structure TickKnows (cfg : Config) (runners : Gh.Runners) (task : Task) : Prop where
  seen : ∀ listing, task.listing = some listing → ∀ v,
    Gh.executing runners (cloneName cfg v) = true → Gh.executing listing (cloneName cfg v) = true
  names : ∀ row ∈ task.listedRows, row.name = cloneName cfg row.vmid

theorem hasPrefix_cloneName (cfg : Config) (v : VMID) :
    Text.hasPrefix (cloneName cfg v) cfg.pmox.vmNamePrefix = true := by
  exact Text.hasPrefix_append _ _

theorem tickKnows_of_no_listing {runners : Gh.Runners} (hlisting : task.listing = none)
    (hrows : task.listedRows = []) : TickKnows cfg runners task := by
  simp [tickKnows_iff, hlisting, hrows]

theorem TickKnows.drop {now : Time} {runners listing : Gh.Runners} {row : Gh.RowSnapshot}
    {rest : List Gh.RowSnapshot} (h : TickKnows cfg runners (.tickApply now listing (row :: rest))) :
    TickKnows cfg runners (.tickApply now listing rest) :=
  ⟨h.seen, fun other hother ↦ h.names other (List.mem_cons_of_mem row hother)⟩

/-- A tick takes its listings from what is there, and passes them on. -/
theorem tickKnows_next (h : TickKnows cfg s.runners task)
    (hrows : ∀ v row, s.store.get v = some row → row.name = cloneName cfg v) :
    (task.action cfg reply).Next cfg s s' (List.Forall (TickKnows cfg s.runners)) := by
  refine next_of_parts [.tick] (fun other hother ↦ ?_) fun hpart ↦ ?_
  · cases other <;> first | exact tickKnows_of_no_listing rfl rfl | cases hother
  cases task with
  | tick =>
    dsimp
    split
    · refine ⟨?_, fun row hrow ↦ absurd hrow List.not_mem_nil⟩
      rintro _ ⟨⟩ v hexecuting
      rwa [Gh.executing, Gh.lookup_listRunnersByPrefix, if_pos (hasPrefix_cloneName cfg v)]
    · trivial
  | tickRows listing =>
    refine ⟨h.seen, fun row hrow ↦ ?_⟩
    obtain ⟨listed, hlisted, rfl⟩ := List.mem_map.mp hrow
    exact hrows _ listed (Store.mem_listExcludingStates.mp hlisted).1
  | tickMatrix listing rows => exact ⟨h.seen, h.names⟩
  | tickApply now listing rows =>
    cases rows with
    | nil => trivial
    | cons row rest =>
      dsimp only [Task.action, tickAction]
      split
      · exact ⟨fun _ _ _ _ _ ↦ h.drop, h.drop⟩
      · exact ⟨fun _ _ _ _ _ ↦ ⟨tickKnows_of_no_listing rfl rfl, h.drop⟩, h.drop⟩
      · exact h.drop
  | _ => cases hpart

theorem tickKnows_of_callable {runners : Gh.Runners} (h : callable s task) :
    TickKnows cfg runners task := by
  cases task with
  | tickRows | tickMatrix | tickApply => cases h
  | _ => exact tickKnows_of_no_listing rfl rfl

/-- Rows are named like clones. -/
theorem row_name_step (hstep : step cfg sys act = some sys')
    (hcurrent : ListingsCurrent cfg sys act sys')
    (hrows : ∀ v row, sys.shared.store.get v = some row → row.name = cloneName cfg v)
    {row : Store.VM} (hrow : sys'.shared.store.get v = some row) : row.name = cloneName cfg v := by
  rcases step_row_some hstep hrow with
    hsame | ⟨reply, task, hmoving, ⟨old, hold, hrowStep⟩ | ⟨_, hrowStep⟩⟩
  · exact hrows v row hsame
  · rw [(sameVM_of_rowStep hrowStep).name, hrows v old hold]
  · obtain ⟨adopted, hinserts⟩ := inserts_of_rowStep hrowStep
    cases task with
    | cloneInsert =>
      obtain ⟨rfl, _, hstamped⟩ := hrowStep
      cases hstamped
      rfl
    | adoptInsert adoptedRow recycle rest runners =>
      obtain ⟨rfl, _, hstamped⟩ := hrowStep
      cases hstamped
      exact hcurrent.2 (adoptedRow.vmid, adoptedRow.name) (by simp [hmoving, Task.adoptsAs])
    | _ => cases hinserts

/-- A bystander keeps its knowledge: runners come to execute jobs only if it has seen it. -/
theorem tickKnows_step (hstep : step cfg sys act = some sys')
    (hcurrent : ListingsCurrent cfg sys act sys') (hmem : task ∈ sys.threads)
    (h : TickKnows cfg sys.shared.runners task) : TickKnows cfg sys'.shared.runners task := by
  refine ⟨fun listing hlisting v hexecuting ↦ ?_, h.names⟩
  cases stepped_of_step hstep with
  | fire _ hexec =>
    rw [(exec_frame hexec).2] at hexecuting
    exact h.seen listing hlisting v hexecuting
  | call | dispatch | crash => exact h.seen listing hlisting v hexecuting
  | outside houtside =>
    cases houtside with
    | setRunner name runner =>
      by_cases hname : cloneName cfg v = name
      · rw [hname] at hexecuting ⊢
        rw [Gh.executing, AList.lookup_insert] at hexecuting
        exact hcurrent.1 _ rfl (hname ▸ hasPrefix_cloneName cfg v) hexecuting task hmem listing hlisting
      · rw [Gh.executing, AList.lookup_insert_ne hname] at hexecuting
        exact h.seen listing hlisting v hexecuting
    | removeRunner name =>
      by_cases hname : cloneName cfg v = name
      · rw [hname, Gh.executing, AList.lookup_erase] at hexecuting
        cases hexecuting
      · rw [Gh.executing, AList.lookup_erase_ne hname] at hexecuting
        exact h.seen listing hlisting v hexecuting
    | _ => exact h.seen listing hlisting v hexecuting

/-- All ticks in progress know what they need to, and all rows are named like clones. -/
structure TicksKnow (cfg : Config) (sys : Sys) : Prop where
  ticks : ∀ task ∈ sys.threads, TickKnows cfg sys.shared.runners task
  names : ∀ v row, sys.shared.store.get v = some row → row.name = cloneName cfg v

theorem TicksKnow.step (hinv : TicksKnow cfg sys) (hcurrent : ListingsCurrent cfg sys act sys')
    (hstep : step cfg sys act = some sys') : TicksKnow cfg sys' := by
  refine ⟨?_, fun v row hrow ↦ row_name_step hstep hcurrent hinv.names hrow⟩
  refine step_threads hstep hinv.ticks (fun reply task hmoving hknows ↦ ?_)
    (fun task hmem hknows ↦ ?_) (fun _ ↦ tickKnows_of_callable)
    (fun _ _ ↦ tickKnows_of_no_listing rfl rfl) (tickKnows_of_no_listing rfl rfl)
  · have hrunners : sys'.shared.runners = sys.shared.runners := by
      cases stepped_of_step hstep with
      | fire _ hexec => exact (exec_frame hexec).2
      | outside houtside => cases houtside <;> cases hmoving
      | _ => rfl
    rw [hrunners]
    exact tickKnows_next hknows hinv.names
  · exact tickKnows_step hstep hcurrent (mem_threads_of_bystander hmem) hknows

/-- On every run whose listings stay current, the reconciler force-destroys no Running row whose
runner is executing a job at that instant. -/
theorem reconciler_spares_busy {cluster : Provisioner.Cluster} {runners : Gh.Runners} {now : Time}
    (h : Along (step cfg) (ListingsCurrent cfg) (init cluster runners now) labels) :
    Along (step cfg) (ReconcilerSparesBusy cfg) (init cluster runners now) labels := by
  refine along_of_invariant (TicksKnow cfg)
    (fun sys act sys' hinv hcurrent hstep ↦ ⟨?_, hinv.step hcurrent hstep⟩)
    ⟨by simp [init, tickKnows_iff, Task.listing, Task.listedRows], by simp [init]⟩ h
  intro v hv row hrow _
  obtain ⟨task, hmoving, hdestroys⟩ := Option.bind_eq_some_iff.mp hv
  have hknows := hinv.ticks task (mem_threads_of_moving hmoving)
  rw [hinv.names v row hrow, ← Bool.not_eq_true]
  intro hexecuting
  cases task with
  | tickApply now listing rows =>
    cases rows with
    | nil => cases hdestroys
    | cons listed rest =>
      simp only [Task.reconcilerDestroys] at hdestroys
      split at hdestroys
      · next u reason hcall =>
        cases hdestroys
        -- the listing has the runner as not executing, under the name the row has now
        have hvmid : v = listed.vmid := Gh.vmid_of_rowAction hcall
        have hnot := Gh.not_executing_of_forceDestroy hcall
        rw [hknows.names listed List.mem_cons_self, ← hvmid,
          hknows.seen listing rfl v hexecuting] at hnot
        cases hnot
      · cases hdestroys
  | _ => cases hdestroys

/-- The runner starts its job before the tick lists the runners, and is spared. -/
theorem reconciler_spares_busy_listed :
    Along (step smallPool) (ReconcilerSparesBusy smallPool) (init .empty ∅ Store.second)
        (adoptNothing ++ deliverOne ++ [.setRunner "gh-runner-ci-10000" ⟨5, true, true⟩,
          .call (.markRunning 10000 5), .fire 0 .ok, .call .tick, .fire 0 .ok, .fire 0 .ok,
          .fire 0 .ok, .fire 0 .ok]) ∧
      ∃ sys ∈ run (step smallPool) freshPool (adoptNothing ++ deliverOne ++
          [.setRunner "gh-runner-ci-10000" ⟨5, true, true⟩, .call (.markRunning 10000 5),
            .fire 0 .ok, .call .tick, .fire 0 .ok, .fire 0 .ok, .fire 0 .ok, .fire 0 .ok]),
        (sys.shared.store.get 10000).map (·.state) = some .running :=
  ⟨reconciler_spares_busy (by decide +kernel), by decide +kernel⟩

/-- The runner registers and starts its job between the tick's two listings. The tick finds the row
Running and its runner missing, and destroys it. -/
theorem reconciler_destroys_busy_runner :
    ∃ sys ∈ run (step smallPool) freshPool (adoptNothing ++ deliverOne ++ [.call .tick, .fire 0 .ok,
        .setRunner "gh-runner-ci-10000" ⟨5, true, true⟩, .call (.markRunning 10000 5),
        .fire 1 .ok, .fire 0 .ok, .fire 0 .ok]),
      ∃ sys' ∈ step smallPool sys (.fire 0 .ok),
        sys.threads[0]?.bind (Task.reconcilerDestroys smallPool) = some 10000 ∧
        (sys.shared.store.get 10000).map (·.state) = some .running ∧
        (sys.shared.store.get 10000).map (·.name) = some "gh-runner-ci-10000" ∧
        Gh.executing sys.shared.runners "gh-runner-ci-10000" = true ∧
        (sys'.shared.store.get 10000).map (·.state) = some .draining := by
  decide +kernel

end ScalesetProxmox.Pool
