import ScalesetProxmox.Pool.Accounting
import ScalesetProxmox.Pool.StuckSweep
import ScalesetProxmox.Pool.Teardown
import ScalesetProxmox.Pool.Workers

/-!
# One owner for every teardown

Nine operations can take a row out of the pool, and they race. Each goes through a compare-and-swap
that no row in teardown passes, so whoever moves the row to Draining owns its teardown, and it is the
owner that calls `destroyAsync`. `startEviction` makes its calls after its last write; until then it
owes them. `one_teardown_owner` counts entries into Draining, calls made and calls owed along every
run from a live row on, as long as no clone or boot worker and no stuck sweep writes the row.
-/

namespace ScalesetProxmox.Pool

open Store (VMID Time State)
open Transition

variable {cfg : Config} {s s' : Shared} {start sys sys' : Sys} {act : Act} {labels : List Act}
  {task : Task} {reply : Reply} {v : VMID} {gen : ℕ}

/-! ## Calls made and calls owed -/

def DestroyRequest.isFor (v : VMID) (gen : ℕ) (request : DestroyRequest) : Bool :=
  decide (request.vmid = v) && decide (request.gen = gen)

def Task.destroyCall : Task → List DestroyRequest
  | .destroyAsync request => [request]
  | _ => []

def Task.callsRollback (v : VMID) : Task → Bool
  | .rollbackAsync vm => vm.vmid = v
  | _ => false

/-- The victims an eviction has moved to Draining and not yet called `destroyAsync` for. -/
def Task.committed : Task → List DestroyRequest
  | .evictLoop _ committed => committed
  | _ => []

def destroyCalls (v : VMID) (gen : ℕ) (tasks : List Task) : ℕ :=
  (tasks.flatMap Task.destroyCall).countP (DestroyRequest.isFor v gen)

def rollbackCalls (v : VMID) (tasks : List Task) : ℕ := tasks.countP (Task.callsRollback v)

def owedCalls (v : VMID) (gen : ℕ) (tasks : List Task) : ℕ :=
  (tasks.flatMap Task.committed).countP (DestroyRequest.isFor v gen)

/-- The tasks that a step puts in the place of the one that moves. -/
def successors (cfg : Config) (sys : Sys) : Act → List Task
  | .fire i reply =>
    ((sys.threads[i]?).bind fun task ↦ (task.action cfg reply).exec cfg sys.shared).elim [] (·.2)
  | _ => []

/-- The calls of `destroyAsync` that a step makes for this generation of the VMID. -/
def destroysStarted (cfg : Config) (v : VMID) (gen : ℕ) (sys : Sys) (act : Act) (_ : Sys) : ℕ :=
  destroyCalls v gen (successors cfg sys act)

/-- One if the step takes the row of `v`, in this generation, to Draining. -/
def drainings (v : VMID) (gen : ℕ) (sys : Sys) (_ : Act) (sys' : Sys) : ℕ :=
  if sys'.shared.gens v = gen ∧ enters .draining sys.shared.store sys'.shared.store v = true then 1
  else 0

/-- The step starts one rollback of `v` if it takes its row to Recycling, and none otherwise. -/
def RollbackPerRecycling (cfg : Config) (v : VMID) (sys : Sys) (act : Act) (sys' : Sys) : Prop :=
  rollbackCalls v (successors cfg sys act) =
    if enters .recycling sys.shared.store sys'.shared.store v = true then 1 else 0

/-- `Preempt` leaves a row that is Running at the instant of its write as it is. -/
def PreemptSparesRunning (v : VMID) (sys : Sys) (act : Act) (sys' : Sys) : Prop :=
  ∀ target row, moving sys act = some (.preemptCas target) →
    sys.shared.store.get v = some row → row.state = .running → sys'.shared.store.get v = some row

def Act.isCrash : Act → Bool
  | .crash => true
  | _ => false

/-- No clone or boot worker for `v` moves, nor the stuck sweep on it, and the process lives on. -/
def WorkersRest (v : VMID) (sys : Sys) (act : Act) (_ : Sys) : Prop :=
  act.isCrash = false ∧ ∀ task ∈ moving sys act,
    task.worksOn v = false ∧ ∀ row ∈ task.sweepTarget, row.vmid ≠ v

instance (v : VMID) (sys : Sys) (act : Act) (sys' : Sys) : Decidable (WorkersRest v sys act sys') :=
  inferInstanceAs (Decidable (_ ∧ ∀ _ ∈ _, _))

/-! ## What the tasks in flight know -/

/-- Idle rows are taken from idle states, a failed boot's request is for its own VMID, and adoption
takes a row for Recycling exactly when it queues its rollback. -/
def Task.Proper : Task → Prop
  | .shrinkPool _ state _ | .shrinkList _ state _ | .shrinkLoop _ state _ _ => state.teardown = false
  | .recycleLoop _ rows | .evictLoop rows _ => ∀ row ∈ rows, row.state.teardown = false
  | .poisonDestroying boot request => request.vmid = boot.row.vmid
  | .adoptInsert row recycle _ _ =>
    row.state.teardown = false ∧ (row.state = .recycling ↔ recycle = true)
  | _ => True

theorem adoptedRow_proper (cfg : Config) (vm : Provisioner.VM)
    (power : Option (Option Provisioner.Power)) (runners : Gh.Runners) :
    (adoptedRow cfg vm power runners).1.state.teardown = false ∧
      ((adoptedRow cfg vm power runners).1.state = .recycling ↔
        (adoptedRow cfg vm power runners).2) := by
  have hlive := classifyAdoption_live power (runners.lookup vm.name)
  simp only [List.mem_cons, List.not_mem_nil, or_false] at hlive
  cases hmode : cfg.snapshotRecycle <;>
    rcases hlive with hstate | hstate | hstate | hstate <;> simp [adoptedRow, hmode, hstate, State.teardown]

theorem proper_next (h : task.Proper) :
    (task.action cfg reply).Next cfg s s' (List.Forall Task.Proper) := by
  cases task with
  | recycleList profile cutoff =>
    intro row hrow
    simp only [List.mem_filter, Store.mem_listByProfileAndStates] at hrow
    grind [State.teardown]
  | evictForDemand victims =>
    intro row hrow
    obtain ⟨v, _, hfind⟩ := List.mem_filterMap.mp hrow
    have hidle := (Store.mem_listByState.mp (List.mem_of_find?_eq_some hfind)).2
    grind only [State.teardown, = List.mem_cons, List.not_mem_nil]
  | poisonInc boot =>
    refine ⟨fun row hold _ _ ↦ ?_, fun err ↦ trivial⟩
    have hvmid : row.vmid = boot.row.vmid := Table.key_of_get hold
    dsimp
    split <;> simp [Task.Proper, rowRequest, hvmid]
  | adoptLoop found runners =>
    cases found with
    | nil => trivial
    | cons vm rest => exact adoptedRow_proper cfg vm reply.powerResult runners
  | recycleLoop profile rows =>
    cases rows <;> simp_all [Action.Next, Task.Proper]
  | evictLoop rows committed =>
    have hcommitted : (committed.map Task.destroyAsync).Forall Task.Proper := by
      simp [List.forall_iff_forall_mem, Task.Proper]
    cases rows with
    | nil => exact hcommitted
    | cons row rest =>
      have hrest : (Task.evictLoop rest (committed ++ [rowRequest row row.profile (s.gens row.vmid)])).Proper :=
        fun other hother ↦ h other (List.mem_cons_of_mem row hother)
      exact ⟨fun _ _ _ _ _ ↦ hrest, hcommitted⟩
  | _ =>
    dsimp
    (repeat' split) <;> dsimp [Action.Next] <;>
      (repeat' first | split | apply And.intro | intro _) <;>
      trivial

theorem proper_of_callable (h : callable s task) : task.Proper := by
  cases task with
  | shrinkPool profile state target =>
    rcases of_decide_eq_true h with rfl | rfl <;> rfl
  | _ => trivial

theorem proper_step (hstep : step cfg sys act = some sys') (h : ∀ task ∈ sys.threads, task.Proper) :
    ∀ task ∈ sys'.threads, task.Proper :=
  step_threads hstep h (fun _ _ _ ↦ proper_next)
    (fun _ _ hproper ↦ hproper) (fun _ ↦ proper_of_callable) (fun _ _ ↦ trivial) trivial

/-! ## One call per move -/

/-- The destroys a task is about to make or owes. -/
def Task.dues : Task → List DestroyRequest
  | .destroyAsync request => [request]
  | .evictLoop _ committed => committed
  | _ => []

def dues (v : VMID) (gen : ℕ) (tasks : List Task) : ℕ :=
  (tasks.flatMap Task.dues).countP (DestroyRequest.isFor v gen)

@[simp]
theorem dues_nil : dues v gen [] = 0 := rfl

@[simp]
theorem dues_cons (rest : List Task) :
    dues v gen (task :: rest) = task.dues.countP (DestroyRequest.isFor v gen) + dues v gen rest := by
  rw [dues, List.flatMap_cons, List.countP_append, dues]

theorem dues_eq (tasks : List Task) :
    dues v gen tasks = destroyCalls v gen tasks + owedCalls v gen tasks := by
  induction tasks with
  | nil => rfl
  | cons task rest ih =>
    rw [dues_cons, ih]
    simp only [destroyCalls, owedCalls, List.flatMap_cons, List.countP_append]
    cases task <;> simp [Task.dues, Task.destroyCall, Task.committed] <;> omega

theorem dues_map_destroyAsync (requests : List DestroyRequest) :
    dues v gen (requests.map Task.destroyAsync) = requests.countP (DestroyRequest.isFor v gen) := by
  rw [dues, List.flatMap_map]
  simp [Task.dues]

/-- Calls made and calls owed go up by one exactly where the task moves the row to Draining. -/
theorem action_destroys (cfg : Config) (reply : Reply) (hproper : task.Proper)
    (hworker : task.worksOn v = false) (hsweep : ∀ row ∈ task.sweepTarget, row.vmid ≠ v) :
    (task.action cfg reply).Accounts v (fun g ↦ decide (g = gen)) .draining (dues v gen)
      (owedCalls v gen [task]) := by
  cases task with
  | evictLoop rows committed =>
    have hcommitted : owedCalls v gen [.evictLoop rows committed] =
        committed.countP (DestroyRequest.isFor v gen) := by
      simp [owedCalls, Task.committed]
    rw [hcommitted]
    cases rows with
    | nil => exact dues_map_destroyAsync committed
    | cons row rest =>
      refine ⟨fun g moved _ ↦ ?_, fun _ ↦ dues_map_destroyAsync committed, fun _ _ ↦ rfl, fun _ ↦ ?_⟩
      · simp [Task.dues, DestroyRequest.isFor, rowRequest, List.countP_cons]
      · have hlive := hproper row List.mem_cons_self
        rintro hstate
        rw [← List.mem_singleton.mp hstate] at hlive
        cases hlive
  | _ =>
    dsimp
    (repeat' split) <;> dsimp [Action.Accounts] <;>
      (repeat' first | exact rfl | split | apply And.intro | intro _) <;>
      simp_all [owedCalls, Task.dues, Task.committed, DestroyRequest.isFor, rowRequest, Handle.request,
        forceDestroyFrom, provisioningRow, Task.worksOn, Task.worker, Task.Proper, Task.sweepTarget,
        State.teardown_eq_false]

/-- Rollbacks are started exactly where the task moves the row to Recycling. -/
theorem action_rollbacks (cfg : Config) (reply : Reply) (hproper : task.Proper) {during : ℕ → Bool}
    (hduring : ∀ g, during g) :
    (task.action cfg reply).Accounts v during .recycling (rollbackCalls v) 0 := by
  cases task with
  | evictLoop rows committed =>
    have hcommitted : rollbackCalls v (committed.map Task.destroyAsync) = 0 := by
      simp [rollbackCalls, Task.callsRollback]
    cases rows with
    | nil => exact hcommitted
    | cons row rest =>
      refine ⟨fun _ _ _ ↦ ?_, fun _ ↦ hcommitted, fun _ _ ↦ rfl, fun h ↦ by cases h⟩
      simp [rollbackCalls, Task.callsRollback]
  | _ =>
    dsimp
    (repeat' split) <;> dsimp [Action.Accounts] <;>
      (repeat' first | exact rfl | split | apply And.intro | intro _) <;>
      simp_all [rollbackCalls, Task.callsRollback, Handle.ofRow, provisioningRow, Task.Proper]

/-! ## Along a run -/

theorem owedCalls_append (tasks others : List Task) :
    owedCalls v gen (tasks ++ others) = owedCalls v gen tasks + owedCalls v gen others := by
  rw [owedCalls, List.flatMap_append, List.countP_append, owedCalls, owedCalls]

theorem owedCalls_of_moving {i : ℕ} (h : sys.threads[i]? = some task) :
    owedCalls v gen sys.threads =
      owedCalls v gen [task] + owedCalls v gen (sys.threads.eraseIdx i) := by
  rw [← owedCalls_append, List.singleton_append]
  exact ((cons_eraseIdx_perm h).symm.flatMap_right Task.committed).countP_eq _

theorem owedCalls_of_callable (h : callable s task) : owedCalls v gen [task] = 0 := by
  cases task <;> first | rfl | cases h

theorem successors_fire {i : ℕ} {shared : Shared} {next : List Task}
    (hthread : sys.threads[i]? = some task)
    (hexec : (task.action cfg reply).exec cfg sys.shared = some (shared, next)) :
    successors cfg sys (.fire i reply) = next := by
  rw [successors, hthread, Option.bind_some, hexec]
  rfl

/-- Each step makes the calls that were owed or whose move it makes. -/
theorem destroysStarted_step (hproper : ∀ task ∈ sys.threads, task.Proper)
    (hrest : WorkersRest v sys act sys') (hstep : step cfg sys act = some sys') :
    destroysStarted cfg v gen sys act sys' + owedCalls v gen sys'.threads =
      owedCalls v gen sys.threads + drainings v gen sys act sys' := by
  cases stepped_of_step hstep with
  | @fire i reply task shared next hthread hexec =>
    obtain ⟨hworker, hsweep⟩ := hrest.2 task hthread
    have haccounts : (task.action cfg reply).Accounts v (fun g ↦ decide (g = gen)) .draining
        (dues v gen) (owedCalls v gen [task]) :=
      action_destroys cfg reply (hproper task (List.mem_of_getElem? hthread)) hworker hsweep
    have hpaid : destroyCalls v gen next + owedCalls v gen next = owedCalls v gen [task] +
        drainings v gen sys (.fire i reply) ⟨shared, sys.threads.eraseIdx i ++ next⟩ := by
      rw [← dues_eq, haccounts.exec hexec, drainings]
      simp
    rw [destroysStarted, successors_fire hthread hexec, owedCalls_append,
      owedCalls_of_moving hthread]
    omega
  | call hcallable =>
    rw [owedCalls_append, owedCalls_of_callable hcallable, drainings, enters_of_eq rfl]
    simp [destroysStarted, successors, destroyCalls]
  | dispatch =>
    rw [owedCalls_append, drainings, enters_of_eq rfl]
    simp [destroysStarted, successors, destroyCalls, owedCalls, Task.committed]
  | crash => cases hrest.1
  | outside houtside =>
    rw [drainings, enters_of_eq (by rw [houtside.store_eq.1])]
    cases houtside <;> simp [destroysStarted, successors, destroyCalls]

/-- Each step starts the rollbacks whose moves it makes. -/
theorem rollbackPerRecycling_step (hproper : ∀ task ∈ sys.threads, task.Proper)
    (hstep : step cfg sys act = some sys') : RollbackPerRecycling cfg v sys act sys' := by
  unfold RollbackPerRecycling
  cases stepped_of_step hstep with
  | @fire i reply task shared next hthread hexec =>
    have hproper' := hproper task (List.mem_of_getElem? hthread)
    have hpaid := (action_rollbacks (v := v) cfg reply hproper' fun _ ↦ rfl).exec hexec
    rw [successors_fire hthread hexec, hpaid]
    simp
  | call | dispatch =>
    rw [enters_of_eq rfl]
    rfl
  | crash => simp [successors, rollbackCalls, enters, Shared.restart]
  | outside houtside =>
    rw [enters_of_eq (by rw [houtside.store_eq.1])]
    cases houtside <;> rfl

theorem preemptSparesRunning_step (hstep : step cfg sys act = some sys') : PreemptSparesRunning v sys act sys' := by
  intro target row hmoving hrow hrunning
  rcases step_row hstep v with hsame | ⟨rfl, _⟩ | ⟨reply, task, hmoving', hrowStep⟩
  · rw [hsame, hrow]
  · cases hmoving
  · cases hmoving.symm.trans hmoving'
    obtain ⟨_, old, hold, hassigned, _⟩ := hrowStep
    rw [hrow, Option.some.injEq] at hold
    rw [← hold, hrunning] at hassigned
    cases List.mem_singleton.mp hassigned

theorem action_spares_teardown (cfg : Config) (reply : Reply) (hproper : task.Proper)
    (hworker : task.worksOn v = false) (hsweep : ∀ row ∈ task.sweepTarget, row.vmid ≠ v) :
    (task.action cfg reply).Moves fun u source target ↦
      u = v → source.teardown → target = source := by
  cases task <;> dsimp <;> (repeat' split) <;>
    simp_all [Action.Moves, Task.worksOn, Task.worker, Task.Proper, Task.sweepTarget, State.teardown,
      forceDestroyFrom]

/-- One as long as the generation can still enter Draining. -/
def teardownsLeft (v : VMID) (gen : ℕ) (sys : Sys) : ℕ :=
  if sys.shared.gens v < gen ∨ (sys.shared.gens v = gen ∧
    (sys.shared.store.get v).any (!·.state.teardown)) then 1 else 0

theorem not_teardown_of_insert (hproper : task.Proper) {now : Time} {row : Store.VM}
    (h : (task.action cfg reply).RowStep now v none (some row)) : row.state.teardown = false := by
  obtain ⟨adopted, hinserts⟩ := inserts_of_rowStep h
  cases task with
  | cloneInsert =>
    obtain ⟨rfl, _, hstamped⟩ := h
    cases hstamped
    rfl
  | adoptInsert =>
    obtain ⟨rfl, _, hstamped⟩ := h
    cases hstamped
    exact hproper.1
  | _ => cases hinserts

/-- A generation enters Draining at most once. -/
theorem drainings_step (hproper : ∀ task ∈ sys.threads, task.Proper)
    (hrest : WorkersRest v sys act sys') (hstep : step cfg sys act = some sys') :
    drainings v gen sys act sys' + teardownsLeft v gen sys' ≤ teardownsLeft v gen sys := by
  have hgens := step_gens hstep v
  unfold drainings teardownsLeft enters
  cases hnew : sys'.shared.store.get v with
  | none =>
    rw [hnew, Option.isSome_none, Bool.and_false] at hgens
    rw [if_neg Bool.false_ne_true] at hgens
    rw [hgens]
    split_ifs <;> simp_all
  | some new =>
    rcases step_row_some hstep hnew with
      hsame | ⟨reply, task, hmoving, ⟨old, hold, hrow⟩ | ⟨hnone, hrow⟩⟩
    · simp [hgens, hnew, hsame]
    · have htask := hproper task (mem_threads_of_moving hmoving)
      obtain ⟨hworker, hsweep⟩ := hrest.2 task hmoving
      have hspared := (action_spares_teardown cfg reply htask hworker hsweep).rowStep hrow rfl
      rw [hold, hnew] at hgens
      rw [hold, show sys'.shared.gens v = sys.shared.gens v from hgens]
      cases hteardown : old.state.teardown with
      | true => simp [hspared hteardown, hteardown]
      | false =>
        by_cases hdraining : new.state = .draining
        · have hdrained : State.draining.teardown := rfl
          simp [hdraining, hteardown, hdrained]
          split_ifs <;> omega
        · simp [hdraining, hteardown]
          split_ifs <;> omega
    · have hlive := not_teardown_of_insert (hproper task (mem_threads_of_moving hmoving)) hrow
      rw [hnone, hnew] at hgens
      rw [hnone, show sys'.shared.gens v = sys.shared.gens v + 1 from hgens]
      have hne := (State.teardown_eq_false.mp hlive).1
      simp [hlive, hne]
      split_ifs <;> omega

/-- At most one call of `destroyAsync` for the generation, and exactly one if and only if it has
entered Draining, once no eviction in progress still owes its calls; one rollback for each entry into
Recycling; and no `Preempt` of a Running row. -/
structure OneTeardownOwner (cfg : Config) (v : VMID) (gen : ℕ) (start : Sys) (labels : List Act)
    (sys : Sys) : Prop where
  atMostOne : tally (step cfg) (destroysStarted cfg v gen) start labels ≤ 1
  exactlyOne : owedCalls v gen sys.threads = 0 →
    (tally (step cfg) (destroysStarted cfg v gen) start labels = 1 ↔
      0 < tally (step cfg) (drainings v gen) start labels)
  rollbacks : Along (step cfg) (RollbackPerRecycling cfg v) start labels
  preempt : Along (step cfg) (PreemptSparesRunning v) start labels

/-- From any reachable state in which no eviction has already moved the row, every run whose steps
leave the row to others than workers and the sweep has one owner for its teardown. -/
theorem one_teardown_owner {cluster : Provisioner.Cluster} {runners : Gh.Runners} {now : Time}
    {before : List Act} (hstart : run (step cfg) (init cluster runners now) before = some start)
    (howed : owedCalls v gen start.threads = 0)
    (hrest : Along (step cfg) (WorkersRest v) start labels)
    (hrun : run (step cfg) start labels = some sys) :
    OneTeardownOwner cfg v gen start labels sys := by
  have hproper : ∀ task ∈ start.threads, task.Proper := by
    refine invariant_of_along (fun sys ↦ ∀ task ∈ sys.threads, task.Proper)
      (fun _ _ _ hinv _ hstep ↦ proper_step hstep hinv) (by simp [init, Task.Proper])
      (along_of_step fun _ _ _ _ ↦ trivial) hstart
  have hcalls : tally (step cfg) (destroysStarted cfg v gen) start labels +
      owedCalls v gen sys.threads = owedCalls v gen start.threads +
        tally (step cfg) (drainings v gen) start labels := by
    refine tally_conserved (fun sys ↦ owedCalls v gen sys.threads)
      (fun sys ↦ ∀ task ∈ sys.threads, task.Proper) (fun _ _ _ hinv hmeets hstep ↦ ?_)
      hproper hrest hrun
    exact ⟨destroysStarted_step hinv hmeets hstep, proper_step hstep hinv⟩
  have honce : tally (step cfg) (drainings v gen) start labels ≤ teardownsLeft v gen start := by
    refine tally_le (teardownsLeft v gen) (fun sys ↦ ∀ task ∈ sys.threads, task.Proper)
      (fun _ _ _ hinv hmeets hstep ↦ ?_) hproper hrest
    exact ⟨drainings_step hinv hmeets hstep, proper_step hstep hinv⟩
  have hbound : teardownsLeft v gen start ≤ 1 := by
    unfold teardownsLeft
    split_ifs <;> simp
  constructor
  · omega
  · omega
  · exact along_of_invariant _ (fun _ _ _ hinv _ hstep ↦
      ⟨rollbackPerRecycling_step hinv hstep, proper_step hstep hinv⟩) hproper hrest
  · exact along_of_step fun _ _ _ ↦ preemptSparesRunning_step

/-- An eviction and a `ForceDestroy` race for a warm row. The eviction wins; it makes its call after
its last write. -/
def evictionRace : List Act :=
  [.call (.evictForDemand [10000]), .call (.forceDestroy 10000), .fire 0 .ok, .fire 1 .ok,
    .fire 0 .ok, .fire 0 .ok]

theorem one_teardown_owner_evictionRace :
    ∃ start ∈ run (step smallPool) freshPool (adoptNothing ++ cloneOne .warm false),
      ∃ sys ∈ run (step smallPool) start evictionRace,
        OneTeardownOwner smallPool 10000 1 start evictionRace sys ∧
        owedCalls 10000 1 sys.threads = 0 ∧
        tally (step smallPool) (drainings 10000 1) start evictionRace = 1 := by
  obtain ⟨start, hstart, sys, hsys, howed, hrest, hend⟩ :
      ∃ start ∈ run (step smallPool) freshPool (adoptNothing ++ cloneOne .warm false),
        ∃ sys ∈ run (step smallPool) start evictionRace,
          owedCalls 10000 1 start.threads = 0 ∧
          Along (step smallPool) (WorkersRest 10000) start evictionRace ∧
          owedCalls 10000 1 sys.threads = 0 ∧
          tally (step smallPool) (drainings 10000 1) start evictionRace = 1 := by decide +kernel
  exact ⟨start, hstart, sys, hsys, one_teardown_owner hstart howed hrest hsys, hend⟩

end ScalesetProxmox.Pool
