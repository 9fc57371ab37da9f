import ScalesetProxmox.Pool.Outcomes

/-!
# Clone and boot workers and the generation they work for

A clone worker holds its VMID from the insert of the Provisioning row until `runClone` returns, a
boot worker from the promotion of its row until it has written the result. Both write by VMID only.
They stay on the generation they were started for as long as no destroy deletes the row under them
(`workers_keep_generation`). Nothing in the destroy path waits for a worker, though, and a destroy
that finds no VM yet leaves no cooldown, so the VMID can be handed to a second worker while the first
is still cloning: `vmid_reissued_in_flight`.
-/

namespace ScalesetProxmox.Pool

open Store (VMID Time)
open Transition

variable {cfg : Config} {s s' : Shared} {sys sys' : Sys} {act : Act} {labels : List Act}
  {task : Task} {reply : Reply} {v : VMID}

def Task.worker : Task → Option (VMID × ℕ)
  | .cloneIpam prep | .cloneIssue prep | .cloneAwait prep _ | .cloneConfigure prep _
  | .clonePower prep _ | .cloneSnapshot prep _ | .cloneUpdate prep _ _ | .cloneFailure prep =>
    some (prep.vmid, prep.gen)
  | .bootStart boot | .bootWait boot | .bootHot boot | .poisonInc boot | .poisonMark boot
  | .poisonDestroying boot _ => some (boot.row.vmid, boot.gen)
  -- the clone worker's own destroy of a VM whose row is gone or has failed
  | .destroyOrSyncFallback request => some (request.vmid, request.gen)
  | .destroyGet request sync | .destroyDelete request sync | .destroyAwait request sync
  | .destroyRow request sync => if sync then some (request.vmid, request.gen) else none
  | _ => none

def Task.worksOn (task : Task) (v : VMID) : Bool := task.worker.any (·.1 = v)

/-- A destroy that is about to delete a row finds no worker, other than itself, on the VMID. -/
def SparesWorkers (sys : Sys) (act : Act) (_ : Sys) : Prop :=
  ∀ v ∈ (moving sys act).bind Task.deletes, ∀ task ∈ bystanders sys act, task.worksOn v = false

instance (sys : Sys) (act : Act) (sys' : Sys) : Decidable (SparesWorkers sys act sys') :=
  inferInstanceAs (Decidable (∀ _ ∈ _, _))

/-- The allocator would return no VMID that a worker holds, and a worker that moves changes no row
but that of its own generation. -/
def WorkersKeepGeneration (cfg : Config) (sys : Sys) (act : Act) (sys' : Sys) : Prop :=
  (∀ v, allocateVMID cfg sys.shared = some v → ∀ task ∈ sys.threads, task.worksOn v = false) ∧
  ∀ task v gen, moving sys act = some task → task.worker = some (v, gen) →
    ∀ u, sys'.shared.store.get u ≠ sys.shared.store.get u →
      u = v ∧ (sys.shared.store.get v).isSome = true ∧ sys.shared.gens v = gen

/-- The row a worker works for is there, and of its generation. -/
def HoldsRow (s : Shared) (task : Task) : Prop :=
  ∀ v gen, task.worker = some (v, gen) → (s.store.get v).isSome = true ∧ s.gens v = gen

/-- The work of `other` is the work of `task`, or new work on a row that is there. -/
@[irreducible]
def Continues (s' : Shared) (task other : Task) : Prop :=
  ∀ v gen, other.worker = some (v, gen) →
    (task.worker = some (v, gen) ∧ task.deletes = none) ∨
    ((s'.store.get v).isSome = true ∧ s'.gens v = gen)

theorem continues_of_none {other : Task} (h : other.worker = none) : Continues s' task other := by
  unfold Continues
  simp [h]

/-- A worker's successors carry on with its work, and new workers start on a row that is there. -/
theorem continues_next : (task.action cfg reply).Next cfg s s' (List.Forall (Continues s' task)) := by
  cases task with
  | cloneInsert settings kind poweredOn node v =>
    refine ⟨fun _ hrow hgens ↦ ?_, trivial⟩
    simp_all [Continues, Task.worker, provisioningRow]
  | promoteLoop rows =>
    cases rows with
    | nil => trivial
    | cons row rest =>
      cases reply with
      | ok =>
        refine ⟨fun _ _ _ hrow hgens ↦ ?_, ?_⟩
        · simp [Continues, Task.worker, hrow, hgens]
        · simp [Continues, Task.worker]
      | _ => simp [Action.Next, Continues, Task.worker]
  | cloneUpdate prep node hasSnapshot =>
    refine ⟨fun row hold _ _ ↦ ?_, fun err ↦ ?_⟩
    · have hvmid : row.vmid = prep.vmid := Table.key_of_get hold
      dsimp
      (repeat' split) <;> simp [Continues, Task.worker, Task.deletes, hvmid]
    · cases err <;> simp [Continues, Task.worker, Task.deletes, ClonePrep.request]
  | _ =>
    dsimp
    (repeat' split) <;> dsimp [Action.Next] <;>
      (repeat' first | split | apply And.intro | intro _) <;>
      first
      | trivial
      | exact continues_of_none rfl
      | simp +contextual [Continues, Task.worker, Task.deletes, List.forall_iff_forall_mem,
          ClonePrep.request]

theorem rowStep_of_worker {gen : ℕ} (hworker : task.worker = some (v, gen)) {now : Time} {u : VMID}
    {old new : Option Store.VM} (h : (task.action cfg reply).RowStep now u old new) : u = v := by
  revert h
  cases task with
  | destroyGet request sync | destroyDelete request sync | destroyAwait request sync
  | destroyRow request sync =>
    cases sync <;> cases hworker
    dsimp
    (repeat' split) <;> simp +contextual [Action.RowStep, eq_comm]
  | _ => cases hworker <;> dsimp <;> (repeat' split) <;> simp +contextual [Action.RowStep, eq_comm]

theorem worksOn_of_worker {gen : ℕ} (h : task.worker = some (v, gen)) : task.worksOn v = true := by
  simp [Task.worksOn, h]

theorem worker_of_worksOn (h : task.worksOn v) : ∃ gen, task.worker = some (v, gen) := by
  obtain ⟨⟨u, gen⟩, hworker, hu⟩ := (Option.any_eq_true _ _).mp h
  obtain rfl : u = v := of_decide_eq_true hu
  exact ⟨gen, hworker⟩

/-- Workers start inside the pool. -/
theorem worker_of_callable (h : callable s task) : task.worker = none := by
  cases task <;> first | rfl | cases h

/-- A row that a worker holds is there after a step, of the same generation, unless it is deleted. -/
theorem HoldsRow.step (hstep : step cfg sys act = some sys') {gen : ℕ} (hcrash : act ≠ .crash)
    (hdelete : ∀ task, moving sys act = some task → task.deletes ≠ some v)
    (h : (sys.shared.store.get v).isSome ∧ sys.shared.gens v = gen) :
    (sys'.shared.store.get v).isSome ∧ sys'.shared.gens v = gen := by
  refine ⟨step_row_isSome hstep hcrash hdelete h.1, ?_⟩
  have hgens := step_gens hstep v
  rw [Option.isSome_iff_exists] at h
  obtain ⟨⟨row, hrow⟩, hgen⟩ := h
  rwa [hrow, hgen] at hgens

theorem holdsRow_step (hstep : step cfg sys act = some sys') (hspares : SparesWorkers sys act sys')
    (hinv : ∀ task ∈ sys.threads, HoldsRow sys.shared task) :
    ∀ task ∈ sys'.threads, HoldsRow sys'.shared task := by
  refine step_threads hstep hinv (fun reply task hmoving hholds ↦ ?_)
    (fun task hmem hholds v gen hworker ↦ ?_) (fun task hcallable v gen hworker ↦ ?_)
    (fun request _ v gen hworker ↦ by cases hworker) (fun v gen hworker ↦ by cases hworker)
  · -- a worker that goes on has not deleted its row
    refine continues_next.mono fun other hother v gen hworker ↦ ?_
    unfold Continues at hother
    rcases hother v gen hworker with ⟨hsame, hdelete⟩ | hnew
    · refine HoldsRow.step hstep ?_ (fun other hother ↦ ?_) (hholds v gen hsame)
      · rintro rfl
        cases hmoving
      · cases hmoving.symm.trans hother
        simp [hdelete]
    · exact hnew
  · -- the row of a bystander is spared
    have hcrash : act ≠ .crash := by
      rintro rfl
      cases hmem
    refine HoldsRow.step hstep hcrash ?_ (hholds v gen hworker)
    intro acting hmoving hdelete
    have hfree := hspares v (by simp [hmoving, hdelete]) task hmem
    rw [worksOn_of_worker hworker] at hfree
    cases hfree
  · rw [worker_of_callable hcallable] at hworker
    cases hworker

/-- On every run whose destroys delete no row under a worker, a VMID that a worker holds is not
issued again and the workers' writes stay in their own generations. -/
theorem workers_keep_generation {cluster : Provisioner.Cluster} {runners : Gh.Runners} {now : Time}
    (h : Along (step cfg) SparesWorkers (init cluster runners now) labels) :
    Along (step cfg) (WorkersKeepGeneration cfg) (init cluster runners now) labels := by
  refine along_of_invariant (fun sys ↦ ∀ task ∈ sys.threads, HoldsRow sys.shared task)
    (fun sys act sys' hinv hspares hstep ↦ ⟨⟨?_, ?_⟩, holdsRow_step hstep hspares hinv⟩)
    (by simp [init, HoldsRow, Task.worker]) h
  · intro v hallocated task hmem
    by_contra hworks
    obtain ⟨gen, hworker⟩ := worker_of_worksOn (Bool.not_eq_false _ ▸ hworks)
    have hrow := (hinv task hmem v gen hworker).1
    rw [get_of_allocateVMID hallocated] at hrow
    cases hrow
  · intro task v gen hmoving hworker u hchanged
    obtain ⟨hrow, hgen⟩ := hinv task (mem_threads_of_moving hmoving) v gen hworker
    rcases step_row hstep u with hsame | ⟨rfl, _⟩ | ⟨reply, task', hmoving', hstep'⟩
    · exact absurd hsame hchanged
    · cases hmoving
    · cases hmoving.symm.trans hmoving'
      exact ⟨rowStep_of_worker hworker hstep', hrow, hgen⟩

/-- `ForceDestroy` on VMID 10000 beside one other task, up to the deletion of the row; `probes` are
the answers of Proxmox. -/
def forceDestroyBeside (i : ℕ) (probes : List Reply) : List Act :=
  [.call (.forceDestroy 10000), .fire i .ok, .fire i .ok, .fire i .ok, .dispatch] ++
    probes.map (.fire i)

/-- A clone that has finished is destroyed; then the VMID is issued again. -/
theorem workers_keep_generation_after_clone :
    Along (step smallPool) (WorkersKeepGeneration smallPool) (init .empty ∅ Store.second)
        (adoptNothing ++ cloneOne .warm false ++ forceDestroyBeside 0 [.ok, .ok, .ok, .ok] ++
          [.elapse (1 * Store.minute).toNat] ++ cloneOne .warm false) ∧
      ∃ sys ∈ run (step smallPool) freshPool (adoptNothing ++ cloneOne .warm false ++
          forceDestroyBeside 0 [.ok, .ok, .ok, .ok] ++ [.elapse (1 * Store.minute).toNat] ++
          cloneOne .warm false),
        sys.shared.gens 10000 = 2 :=
  ⟨workers_keep_generation (by decide), by decide⟩

/-- A clone worker has inserted its row and not yet asked Proxmox for the clone when the row is
force-destroyed. The destroy finds no VM, deletes the row and starts no cooldown: the allocator
returns the VMID again, and the first worker's final write lands on the second worker's row. -/
theorem vmid_reissued_in_flight :
    ∃ sys ∈ run (step smallPool) freshPool
        (adoptNothing ++ (cloneOne .warm false).take 5 ++ forceDestroyBeside 1 [.ok, .ok]),
      ∃ sys' ∈ run (step smallPool) sys
          [.call (.kickClone "" .warm false), .fire 1 (.node "pve1"), .fire 1 .ok, .fire 1 .ok,
            .fire 0 .ok, .fire 1 .ok, .fire 1 .ok, .fire 1 .ok],
        ∃ sys'' ∈ step smallPool sys' (.fire 1 .ok),
          allocateVMID smallPool sys.shared = some 10000 ∧
          sys.threads.map Task.worker = [some (10000, 1)] ∧
          sys'.threads.map Task.worker = [some (10000, 2), some (10000, 1)] ∧
          sys'.shared.gens 10000 = 2 ∧
          (sys'.shared.store.get 10000).map (·.state) = some .provisioning ∧
          (sys''.shared.store.get 10000).map (·.state) = some .warm := by
  decide

end ScalesetProxmox.Pool
