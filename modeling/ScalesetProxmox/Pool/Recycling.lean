import ScalesetProxmox.Pool.Preparation
import ScalesetProxmox.Pool.TeardownOwner

/-!
# A rollback between any two jobs

In `snapshot_rollback` mode a row goes round: Warm, Booting, Hot, handed to a job, Recycling, and
Warm again. The only way back from a job is the compare-and-swap that a rollback worker makes after
`SnapshotRollback` has succeeded, provided every worker stays with the row it was started for.
`rolled_back_between_jobs` is the result for every run in which no row is inserted for a VMID that a
worker is still busy with, over any number of process lifetimes. A boot worker that outlives an
adopted row writes Hot over the row of the clone that gets the VMID next, and the clone worker writes
Hot over the job that was then started: `leftover_boot_skips_rollback`.
-/

namespace ScalesetProxmox.Store

/-- The states a row can be in while a rollback worker is busy with its guest. -/
def State.rolling : State → Bool
  | .recycling | .draining | .destroying => true
  | _ => false

/-- The states a row can be in from the start of a job to the end of the rollback after it. -/
def State.spent : State → Bool
  | .assigned | .running | .recycling | .draining | .destroying => true
  | _ => false

end ScalesetProxmox.Store

namespace ScalesetProxmox.Pool

open Store (VMID Time State)
open Transition

variable {cfg : Config} {s s' : Shared} {sys sys' : Sys} {act : Act} {labels : List Act}
  {task : Task} {reply : Reply} {v : VMID} {gen : ℕ}

/-! ## Rollback workers -/

def Task.rolledBack : Task → Option VMID
  | .rollbackWarm vm => some vm.vmid
  | _ => none

/-- The VM that a `SnapshotRollback` call is about to be made for. -/
def Task.snapshotRollback : Task → Option Handle
  | .rollbackSnapshot vm => some vm
  | _ => none

/-- The task is about to take a VMID from the allocator. -/
def Task.allocates : Task → Bool
  | .cloneAllocate _ _ _ _ => true
  | _ => false

/-- Proxmox answers the step's call with success. -/
def Act.succeeds : Act → Bool
  | .fire _ .ok => true
  | _ => false

/-- The step is a `SnapshotRollback` call on the VM of `v` that returns success. -/
def RollsBack (v : VMID) (sys : Sys) (act : Act) : Prop :=
  act.succeeds = true ∧ ∃ vm ∈ (moving sys act).bind Task.snapshotRollback,
    vm.vmid = v ∧ (sys.shared.cluster.find v vm.node).isSome = true

instance (v : VMID) (sys : Sys) (act : Act) : Decidable (RollsBack v sys act) :=
  inferInstanceAs (Decidable (_ ∧ ∃ _ ∈ _, _))

/-- The step takes the row of `v` from Hot to Assigned or Running. -/
def handsOut (v : VMID) (sys sys' : Sys) : Bool :=
  (sys.shared.store.get v).any (·.state = .hot) && busyAt sys'.shared.store v

/-- A new row's VMID has no clone, boot or rollback worker left over. -/
def InsertsFree (sys : Sys) (act : Act) (_ : Sys) : Prop :=
  ∀ inserted ∈ (moving sys act).bind Task.insertsAs, sys.shared.store.get inserted.1 = none →
    ∀ task ∈ sys.threads, task.prepares ≠ some inserted.1 ∧ task.rollsBack ≠ some inserted.1

instance (sys : Sys) (act : Act) (sys' : Sys) : Decidable (InsertsFree sys act sys') :=
  inferInstanceAs (Decidable (∀ _ ∈ _, _))

theorem InsertsFree.unprepared (h : InsertsFree sys act sys') : InsertsUnprepared sys act sys' :=
  fun inserted hinserted hnew task hmem ↦ (h inserted hinserted hnew task hmem).1

theorem rollsBack_of_rolledBack (h : task.rolledBack = some v) : task.rollsBack = some v := by
  cases task <;> first | exact h | cases h

theorem action_rolledBack (cfg : Config) (reply : Reply) (task : Task) :
    (task.action cfg reply).Moves fun u source target ↦ source = .recycling → target = .warm →
      task.rolledBack = some u ∨ task.prepares = some u := by
  cases task <;> dsimp <;> (repeat' split) <;>
    simp_all [Action.Moves, Task.rolledBack, Task.prepares]

theorem Move.rolling {source target : State} (h : Move source target)
    (hsource : source.rolling) :
    target.rolling ∨ (source = .recycling ∧ target = .warm) := by
  cases h <;> first | exact .inl hsource | exact .inl rfl | exact .inr ⟨rfl, rfl⟩

theorem Move.spent {source target : State} (h : Move source target)
    (hsource : source.spent) :
    target.spent ∨ (source = .recycling ∧ target = .warm) := by
  cases h <;> first | exact .inl hsource | exact .inl rfl | exact .inr ⟨rfl, rfl⟩

/-- States that the lifecycle leaves only by a finished rollback are kept while nobody prepares the
guest, nobody has rolled it back and no row is inserted. -/
theorem state_kept {P : State → Bool}
    (hmove : ∀ {source target : State}, Move source target → P source →
      P target ∨ (source = .recycling ∧ target = .warm))
    (hstep : step cfg sys act = some sys')
    (hidle : ∀ task, moving sys act = some task →
      task.prepares ≠ some v ∧ task.rolledBack ≠ some v)
    (hnew : ∀ task, moving sys act = some task → sys.shared.store.get v = none →
      sys'.shared.store.get v ≠ none → ∀ state, task.insertsAs ≠ some (v, state))
    (hrows : ∀ row, sys.shared.store.get v = some row → P row.state) :
    ∀ row, sys'.shared.store.get v = some row → P row.state = true := by
  intro row hrow
  rcases step_row_some hstep hrow with
    hsame | ⟨reply, task, hmoving, ⟨old, hold, hrowStep⟩ | ⟨hold, hrowStep⟩⟩
  · exact hrows row hsame
  · obtain ⟨hprepares, hrolledBack⟩ := hidle task hmoving
    rcases rowStep_move hrowStep with hmoved | hblind
    · rcases hmove hmoved (hrows old hold) with hkept | ⟨hrecycling, hwarm⟩
      · exact hkept
      · rcases (action_rolledBack cfg reply task).rowStep hrowStep hrecycling hwarm with h | h
        · exact absurd h hrolledBack
        · exact absurd h hprepares
    · exact absurd (prepares_of_blindWrite hblind) hprepares
  · exact absurd (insertsAs_of_rowStep hrowStep) (hnew task hmoving hold (by simp [hrow]) row.state)

/-! ## What a task hands on -/

/-- A rollback carries on, or starts where its row enters Recycling. -/
@[irreducible]
def RollsFrom (s s' : Shared) (task other : Task) : Prop :=
  ∀ v, other.rollsBack = some v →
    (task.rollsBack = some v ∧ task.rolledBack = none) ∨
    ((∃ row, s'.store.get v = some row ∧ row.state = .recycling) ∧
      ((s.store.get v = none ∧ task.insertsAs = some (v, .recycling)) ∨
        ∃ row, s.store.get v = some row ∧ row.state.busy = true))

variable {other : Task}

theorem rollsFrom_of_none (h : other.rollsBack = none) : RollsFrom s s' task other := by
  unfold RollsFrom
  simp [h]

theorem rollsFrom_next (hproper : task.Proper) :
    (task.action cfg reply).Next cfg s s' (List.Forall (RollsFrom s s' task)) := by
  refine next_of_parts [.rollback] (fun other hother ↦ rollsFrom_of_none ?_) fun hpart ↦ ?_
  · cases other <;> first | rfl | cases hother
  cases task with
  | markCompletedCas target recycle evidence =>
    cases recycle with
    | false => simp [Action.Next, RollsFrom, Task.rollsBack]
    | true =>
      refine ⟨fun row hold hstate hrow _ ↦ ?_, trivial⟩
      have hbusy : row.state.busy := by
        rcases List.mem_pair.mp hstate with h | h <;> rw [h] <;> rfl
      simp only [Option.isSome_some, if_true, List.Forall, RollsFrom, Task.rollsBack, Handle.ofRow,
        Option.some.injEq]
      rintro _ rfl
      exact .inr ⟨⟨_, hrow, rfl⟩, .inr ⟨row, hold, hbusy⟩⟩
  | adoptInsert row recycle rest runners =>
    cases recycle with
    | false => simp [Action.Next, RollsFrom, Task.rollsBack]
    | true =>
      have hrecycling : row.state = .recycling := hproper.2.mpr rfl
      refine ⟨fun hnew hrow _ ↦ ?_, by simp [RollsFrom, Task.rollsBack]⟩
      simp only [Bool.and_self, if_true, List.Forall, RollsFrom, Task.rollsBack, Handle.ofRow,
        Option.some.injEq, reduceCtorEq, false_imp_iff, implies_true, and_true]
      rintro _ rfl
      exact .inr ⟨⟨_, hrow, hrecycling⟩, .inl ⟨hnew, by rw [Task.insertsAs, hrecycling]⟩⟩
  | _ =>
    first
    | cases hpart; done
    | dsimp
      (repeat' split) <;> dsimp [Action.Next] <;>
        (repeat' first | split | apply And.intro | intro _) <;>
        first
        | trivial
        | exact rollsFrom_of_none rfl
        | simp [RollsFrom, Task.rollsBack, Task.rolledBack]

/-- The two tasks roll different guests back. -/
def RollApart (task other : Task) : Prop :=
  ∀ v, task.rollsBack = some v → other.rollsBack ≠ some v

/-- A task starts at most one rollback at a time. -/
theorem rollApart_next : (task.action cfg reply).Next cfg s s' (List.Pairwise RollApart) := by
  refine attendApart_next.imp fun next hapart ↦ hapart.imp ?_
  intro first second h v hfirst hsecond
  exact h v (attends_of_rollsBack hfirst) (attends_of_rollsBack hsecond)

theorem RollApart.symm (h : RollApart task other) : RollApart other task :=
  fun v hother htask ↦ h v htask hother

theorem not_rollsBack_of_callable (h : callable s task) : task.rollsBack = none := by
  cases task <;> first | rfl | cases h

/-! ## The invariant -/

/-- What a rollback worker relies on: nobody prepares the guest, and its row is Recycling or in
teardown. -/
def RollingAlone (sys : Sys) (v : VMID) : Prop :=
  (∀ other ∈ sys.threads, other.prepares ≠ some v) ∧
    ∀ row, sys.shared.store.get v = some row → row.state.rolling = true

/-- Every guest has at most one worker, and its row is in a state that fits the worker. -/
structure Attended (sys : Sys) : Prop extends Prepared sys where
  proper : ∀ task ∈ sys.threads, task.Proper
  rolling : ∀ task ∈ sys.threads, ∀ v, task.rollsBack = some v → RollingAlone sys v
  rollApart : sys.threads.Pairwise RollApart

theorem Attended.apart_rollbacks (hinv : Attended sys) (hmoving : moving sys act = some task) :
    ∀ other ∈ bystanders sys act, RollApart task other := by
  cases act with
  | fire i reply => exact forall_rel_eraseIdx RollApart.symm hmoving hinv.rollApart
  | _ => cases hmoving

section Step

variable (hinv : Attended sys) (hstep : step cfg sys act = some sys')
  (hfree : InsertsFree sys act sys')

include hinv hstep hfree

theorem rollingAlone_step (hrolls : ∃ task ∈ sys.threads, task.rollsBack = some v)
    (hacting : ∀ task, moving sys act = some task → task.rolledBack ≠ some v) :
    RollingAlone sys' v := by
  obtain ⟨worker, hmem, hworker⟩ := hrolls
  obtain ⟨hnone, hrows⟩ := hinv.rolling worker hmem v hworker
  have hnew : ∀ task, moving sys act = some task → sys.shared.store.get v = none →
      sys'.shared.store.get v ≠ none → ∀ state, task.insertsAs ≠ some (v, state) := by
    intro task hmoving hget _ state hinserts
    exact (hfree (v, state) (by simp [hmoving, hinserts]) hget worker hmem).2 hworker
  refine ⟨not_prepared_step hstep hnone (fun row hrow hwarm ↦ ?_)
    (fun task hmoving hget hget' ↦ hnew task hmoving hget hget' .provisioning), ?_⟩
  · have hrolling := hrows row hrow
    rw [hwarm] at hrolling
    cases hrolling
  · exact state_kept Move.rolling hstep
      (fun task hmoving ↦ ⟨hnone task (mem_threads_of_moving hmoving), hacting task hmoving⟩) hnew hrows

/-- A rollback that starts has the guest to itself. -/
theorem rollingAlone_of_started (hmoving : moving sys act = some task)
    (hafter : ∃ row, sys'.shared.store.get v = some row ∧ row.state = .recycling)
    (hbefore : (sys.shared.store.get v = none ∧ task.insertsAs = some (v, .recycling)) ∨
      ∃ row, sys.shared.store.get v = some row ∧ row.state.busy) :
    RollingAlone sys' v := by
  refine ⟨?_, fun row hrow ↦ ?_⟩
  · rcases hbefore with ⟨hnew, hinserts⟩ | ⟨row, hrow, hbusy⟩
    · refine not_prepared_step hstep (fun other hmem ↦ ?_) (fun row hrow ↦ ?_)
        (fun acting hacting _ _ ↦ ?_)
      · exact (hfree (v, .recycling) (by simp [hmoving, hinserts]) hnew other hmem).1
      · cases hnew.symm.trans hrow
      · cases hmoving.symm.trans hacting
        simp [hinserts]
    · refine not_prepared_step hstep (fun other hmem hprepares ↦ ?_) (fun row' hrow' hwarm ↦ ?_)
        (fun _ _ hnone ↦ ?_)
      · have hpreparing := hinv.preparing other hmem v hprepares row hrow
        revert hbusy hpreparing
        cases row.state <;> decide
      · cases hrow.symm.trans hrow'
        rw [hwarm] at hbusy
        cases hbusy
      · cases hrow.symm.trans hnone
  · obtain ⟨row', hrow', hrecycling⟩ := hafter
    cases hrow.symm.trans hrow'
    rw [hrecycling]
    rfl

theorem rolling_step : ∀ task ∈ sys'.threads, ∀ v, task.rollsBack = some v → RollingAlone sys' v := by
  refine step_threads hstep hinv.proper (fun reply task hmoving hproper ↦ ?_)
    (fun task hmem _ v hrolls ↦ ?_) (fun task hcallable v hrolls ↦ ?_) (fun _ _ _ h ↦ by cases h)
    (fun _ h ↦ by cases h)
  · refine (rollsFrom_next hproper).mono fun other hother v hrolls ↦ ?_
    unfold RollsFrom at hother
    rcases hother v hrolls with ⟨hsame, hnot⟩ | ⟨hafter, hbefore⟩
    · refine rollingAlone_step hinv hstep hfree ⟨task, mem_threads_of_moving hmoving, hsame⟩ ?_
      intro acting hacting
      cases hmoving.symm.trans hacting
      simp [hnot]
    · exact rollingAlone_of_started hinv hstep hfree hmoving hafter hbefore
  · -- a bystander's guest is not rolled back by another worker
    refine rollingAlone_step hinv hstep hfree ⟨task, mem_threads_of_bystander hmem, hrolls⟩
      fun acting hacting hrolledBack ↦ ?_
    exact hinv.apart_rollbacks hacting task hmem v (rollsBack_of_rolledBack hrolledBack) hrolls
  · rw [not_rollsBack_of_callable hcallable] at hrolls
    cases hrolls

/-- Two rollbacks are never on one guest. -/
theorem rollApart_step : sys'.threads.Pairwise RollApart := by
  refine pairwise_step hstep hinv.rollApart (fun i reply task next hact hthread hexec ↦ ?_)
    (fun task other hcallable v _ ↦ ?_) (fun _ _ _ _ h ↦ by cases h)
  · subst hact
    refine ⟨exec_next hexec rollApart_next,
      fun other hother bystander hmem v hv hrolls ↦ ?_⟩
    have hproper := hinv.proper task (List.mem_of_getElem? hthread)
    have hfrom := exec_forall hexec (rollsFrom_next hproper) hother
    unfold RollsFrom at hfrom
    have hmem' := mem_threads_of_bystander hmem
    have hmoving : moving sys (.fire i reply) = some task := hthread
    rcases hfrom v hrolls with ⟨hsame, _⟩ | ⟨_, ⟨hrow, hinserts⟩ | ⟨row, hrow, hbusy⟩⟩
    · exact hinv.apart_rollbacks hmoving bystander hmem v hsame hv
    · have hunrolled := hfree (v, .recycling) (by simp [hthread, hinserts]) hrow bystander hmem'
      exact hunrolled.2 hv
    · have hrolling := (hinv.rolling bystander hmem' v hv).2 row hrow
      revert hbusy hrolling
      cases row.state <;> decide
  · simp [not_rollsBack_of_callable hcallable]

theorem Attended.step : Attended sys' where
  toPrepared := hinv.toPrepared.step hstep hfree.unprepared
  proper := proper_step hstep hinv.proper
  rolling := rolling_step hinv hstep hfree
  rollApart := rollApart_step hinv hstep hfree

end Step

theorem attended_init (cluster : Provisioner.Cluster) (runners : Gh.Runners) (now : Time) :
    Attended (init cluster runners now) := by
  refine ⟨⟨?_, ?_⟩, ?_, ?_, ?_⟩ <;> simp [init, Task.prepares, Task.rollsBack, Task.Proper]

/-! ## From one job to the next -/

/-- The row has not been rolled back since its last job: it is in one of the states up to the end of
the rollback, nobody prepares the guest and nobody has rolled it back; or its generation is over. -/
def Unrolled (v : VMID) (gen : ℕ) (sys : Sys) : Prop :=
  gen < sys.shared.gens v ∨ (sys.shared.gens v = gen ∧
    (∀ row, sys.shared.store.get v = some row → row.state.spent = true) ∧
    ∀ task ∈ sys.threads, task.prepares ≠ some v ∧ task.rolledBack ≠ some v)

/-- A worker has rolled a guest back only by a `SnapshotRollback` call that succeeded. -/
@[irreducible]
def RolledFrom (s : Shared) (reply : Reply) (task other : Task) : Prop :=
  ∀ v, other.rolledBack = some v → reply = .ok ∧ ∃ vm ∈ task.snapshotRollback,
    vm.vmid = v ∧ (s.cluster.find v vm.node).isSome = true

theorem rolledFrom_of_none (h : other.rolledBack = none) : RolledFrom s reply task other := by
  unfold RolledFrom
  simp [h]

theorem rolledFrom_next :
    (task.action cfg reply).Next cfg s s' (List.Forall (RolledFrom s reply task)) := by
  refine next_of_parts [.rollback] (fun other hother ↦ rolledFrom_of_none ?_) fun hpart ↦ ?_
  · cases other <;> first | rfl | cases hother
  cases task with
  | rollbackSnapshot vm =>
    cases reply with
    | ok =>
      refine ⟨fun guest hguest ↦ ?_, by simp [RolledFrom, Task.rolledBack]⟩
      simp [RolledFrom, Task.rolledBack, Task.snapshotRollback, hguest]
    | _ => simp [Action.Next, RolledFrom, Task.rolledBack]
  | _ =>
    first
    | cases hpart; done
    | dsimp
      (repeat' split) <;> dsimp [Action.Next] <;>
        (repeat' first | split | apply And.intro | intro _) <;>
        first
        | trivial
        | exact rolledFrom_of_none rfl

theorem rolledBack_step (hstep : step cfg sys act = some sys')
    (hnone : ∀ task ∈ sys.threads, task.rolledBack ≠ some v) (hnot : ¬RollsBack v sys act) :
    ∀ task ∈ sys'.threads, task.rolledBack ≠ some v := by
  intro other hother hrolledBack
  have hcall (task : Task) (hcallable : callable sys.shared task) : task.rolledBack = none := by
    cases task <;> first | rfl | cases hcallable
  rcases tagged_step hstep hother hrolledBack hcall (fun _ ↦ rfl) rfl with
    ⟨_, hold⟩ | ⟨i, reply, task, next, rfl, hthread, hexec, hnew⟩
  · exact hnone other (mem_threads_of_bystander hold) hrolledBack
  · have hfrom := exec_forall hexec rolledFrom_next hnew
    unfold RolledFrom at hfrom
    obtain ⟨rfl, vm, hvm, hv, hfound⟩ := hfrom v hrolledBack
    exact hnot ⟨rfl, vm, by simpa [hthread] using hvm, hv, hfound⟩

/-- A row that has not been rolled back stays so, unless the step is the rollback. -/
theorem Unrolled.step (h : Unrolled v gen sys) (hstep : step cfg sys act = some sys')
    (hnot : ¬RollsBack v sys act) : Unrolled v gen sys' := by
  have hgens := step_gens hstep v
  rcases h with hlater | ⟨hgen, hrows, hidle⟩
  · left
    split_ifs at hgens <;> omega
  · by_cases hnew : sys.shared.store.get v = none ∧ sys'.shared.store.get v ≠ none
    · left
      rw [hnew.1, if_pos (by simp [Option.isSome_iff_ne_none, hnew.2])] at hgens
      omega
    · right
      have hold : ∀ task, moving sys act = some task → sys.shared.store.get v = none →
          sys'.shared.store.get v ≠ none → ∀ state, task.insertsAs ≠ some (v, state) :=
        fun _ _ hnone hsome ↦ absurd ⟨hnone, hsome⟩ hnew
      refine ⟨?_, ?_, fun task hmem ↦ ⟨?_, ?_⟩⟩
      · rw [hgens, hgen, if_neg]
        simpa [Option.isSome_iff_ne_none] using hnew
      · exact state_kept Move.spent hstep
          (fun task hmoving ↦ hidle task (mem_threads_of_moving hmoving)) hold hrows
      · refine not_prepared_step hstep (fun task hmem ↦ (hidle task hmem).1) (fun row hrow hwarm ↦ ?_)
          (fun task hmoving hnone hsome ↦ hold task hmoving hnone hsome .provisioning) task hmem
        have hspent := hrows row hrow
        rw [hwarm] at hspent
        cases hspent
      · exact rolledBack_step hstep (fun task hmem ↦ (hidle task hmem).2) hnot task hmem

/-- Once handed out, a row has yet to be rolled back. -/
theorem unrolled_of_handsOut (hinv : Attended sys') (h : handsOut v sys sys') :
    Unrolled v (sys'.shared.gens v) sys' := by
  obtain ⟨row, hrow, hbusy⟩ : ∃ row, sys'.shared.store.get v = some row ∧ row.state.busy = true := by
    simp only [handsOut, Bool.and_eq_true, busyAt] at h
    exact (Option.any_eq_true _ _).mp h.2
  refine .inr ⟨rfl, fun other hother ↦ ?_, fun task hmem ↦ ⟨fun hprepares ↦ ?_, fun hrolledBack ↦ ?_⟩⟩
  · cases hrow.symm.trans hother
    revert hbusy
    cases row.state <;> decide
  · have hpreparing := hinv.preparing task hmem v hprepares row hrow
    revert hbusy hpreparing
    cases row.state <;> decide
  · have hrolling := (hinv.rolling task hmem v (rollsBack_of_rolledBack hrolledBack)).2 row hrow
    revert hbusy hrolling
    cases row.state <;> decide

/-- A rollback finds the job of its row over. -/
theorem not_busy_of_rollsBack (hinv : Attended sys) (h : RollsBack v sys act) :
    busyAt sys.shared.store v = false := by
  obtain ⟨_, vm, hvm, rfl, _⟩ := h
  obtain ⟨task, hmoving, hsnapshot⟩ := Option.bind_eq_some_iff.mp hvm
  have hrolls : task.rollsBack = some vm.vmid := by
    cases task <;> cases hsnapshot
    rfl
  have hrows := (hinv.rolling task (mem_threads_of_moving hmoving) vm.vmid hrolls).2
  cases hrow : sys.shared.store.get vm.vmid with
  | none => simp [busyAt, hrow]
  | some row =>
    have hrolling := hrows row hrow
    simp only [busyAt, hrow, Option.any_some]
    revert hrolling
    cases row.state <;> decide

/-- Between the two hand-outs of a row, a rollback of its VM that started after the first job was over
succeeded. -/
def RolledBackBetween (cfg : Config) (v : VMID) (sys : Sys) (labels : List Act) : Prop :=
  ∃ earlier act later before after, labels = earlier ++ act :: later ∧
    run (step cfg) sys earlier = some before ∧ step cfg before act = some after ∧
    busyAt before.shared.store v = false ∧ RollsBack v before act

/-- On every run whose new rows find no worker left over for their VMIDs, between any two hand-outs of
the same row its VM is rolled back. -/
theorem rolled_back_between_jobs {cluster : Provisioner.Cluster} {runners : Gh.Runners} {now : Time}
    {before between : List Act} {first second : Act} {sys₀ sys₁ sys₂ sys₃ : Sys}
    (hfree : Along (step cfg) InsertsFree (init cluster runners now) (before ++ first :: between))
    (hbefore : run (step cfg) (init cluster runners now) before = some sys₀)
    (hfirst : step cfg sys₀ first = some sys₁ ∧ handsOut v sys₀ sys₁ = true)
    (hbetween : run (step cfg) sys₁ between = some sys₂)
    (hsecond : step cfg sys₂ second = some sys₃ ∧ handsOut v sys₂ sys₃ = true)
    (hsame : sys₂.shared.gens v = sys₁.shared.gens v) :
    RolledBackBetween cfg v sys₁ between := by
  have hattended : ∀ {start sys labels}, Attended start → Along (step cfg) InsertsFree start labels →
      run (step cfg) start labels = some sys → Attended sys := by
    intro start sys labels hinv
    exact invariant_of_along Attended (fun _ _ _ hinv hmeets hstep ↦ hinv.step hstep hmeets) hinv
  have hinv₀ := hattended (attended_init cluster runners now) (along_left_of_append hfree) hbefore
  obtain ⟨hmeets, hfree₁⟩ := along_cons.mp (along_of_along_append hfree hbefore) sys₁ hfirst.1
  have hinv₁ := hinv₀.step hfirst.1 hmeets
  -- the row is Hot again at the end, so its spent states were left on the way
  have hhot : ¬Unrolled v (sys₁.shared.gens v) sys₂ := by
    rintro (hlater | ⟨_, hrows, _⟩)
    · omega
    · have hhanded := hsecond.2
      simp only [handsOut, Bool.and_eq_true, Option.any_eq_true] at hhanded
      obtain ⟨⟨row, hrow, hstate⟩, _⟩ := hhanded
      have hspent := hrows row hrow
      rw [of_decide_eq_true hstate] at hspent
      cases hspent
  obtain ⟨earlier, act, later, t, u, rfl, hearlier, hstep, hkept, hlost⟩ :=
    exists_step_of_lost (unrolled_of_handsOut hinv₁ hfirst.2) hhot hbetween
  have hrolls : RollsBack v t act := by
    by_contra hnot
    exact hlost (hkept.step hstep hnot)
  have hinv := hattended hinv₁ (along_left_of_append hfree₁) hearlier
  exact ⟨earlier, act, later, t, u, rfl, hearlier, hstep, not_busy_of_rollsBack hinv hrolls, hrolls⟩

/-- The scale set `ci` in `snapshot_rollback` mode. -/
def recyclePool : Config := { smallPool with snapshotRecycle := true }

/-- A VM is cloned, snapshotted and booted, and an `Acquire` arrives for it. -/
def bootOne : List Act :=
  adoptNothing ++ [.call (.kickClone "" .hot true), .fire 0 (.node "pve1")] ++
    List.replicate 12 (.fire 0 .ok) ++ [.call (.acquire "" 7 4)]

/-- Its job is delivered and completes; the VM is rolled back, promoted and booted again, and the next
`Acquire` arrives. -/
def recycleOne : List Act :=
  [.fire 0 (.jit 5), .fire 0 .ok, .fire 0 .ok, .call (.markCompleted 10000 none)] ++
    List.replicate 7 (.fire 0 .ok) ++ [.call (.promoteN "" 1), .fire 0 .ok, .fire 0 .ok, .fire 1 .ok] ++
    List.replicate 3 (.fire 0 .ok) ++ [.call (.acquire "" 8 4)]

theorem rolled_back_between_jobs_recycleOne :
    ∃ sys₀ ∈ run (step recyclePool) freshPool bootOne,
      ∃ sys₁ ∈ step recyclePool sys₀ (.fire 0 .ok),
        ∃ sys₂ ∈ run (step recyclePool) sys₁ recycleOne,
          ∃ sys₃ ∈ step recyclePool sys₂ (.fire 0 .ok),
            handsOut 10000 sys₀ sys₁ = true ∧ handsOut 10000 sys₂ sys₃ = true ∧
            RolledBackBetween recyclePool 10000 sys₁ recycleOne := by
  obtain ⟨sys₀, hbefore, sys₁, hfirst, sys₂, hbetween, sys₃, hsecond, hhanded, hhanded', hsame⟩ :
      ∃ sys₀ ∈ run (step recyclePool) freshPool bootOne,
        ∃ sys₁ ∈ step recyclePool sys₀ (.fire 0 .ok),
          ∃ sys₂ ∈ run (step recyclePool) sys₁ recycleOne,
            ∃ sys₃ ∈ step recyclePool sys₂ (.fire 0 .ok),
              handsOut 10000 sys₀ sys₁ = true ∧ handsOut 10000 sys₂ sys₃ = true ∧
              sys₂.shared.gens 10000 = sys₁.shared.gens 10000 := by
    decide +kernel
  have hfree : Along (step recyclePool) InsertsFree freshPool
      (bootOne ++ .fire 0 .ok :: recycleOne) := by
    decide +kernel
  exact ⟨sys₀, hbefore, sys₁, hfirst, sys₂, hbetween, sys₃, hsecond, hhanded, hhanded',
    rolled_back_between_jobs hfree hbefore ⟨hfirst, hhanded⟩ hbetween ⟨hsecond, hhanded'⟩ hsame⟩

/-- One if the step takes a VMID from the allocator. -/
def allocations (sys : Sys) (act : Act) (_ : Sys) : ℕ :=
  if (moving sys act).any Task.allocates then 1 else 0

/-- A stopped VM of an earlier process. -/
def leftoverVM : Provisioner.Cluster :=
  Table.empty.put { vmid := 10000, node := "pve1", name := "gh-runner-ci-10000" }

/-- The VM is adopted, rolled back and promoted; its boot worker has started it and waits for the
guest agent. -/
def adoptAndBoot : List Act :=
  List.replicate 4 (.fire 0 .ok) ++ [.fire 0 (.power (some .stopped)), .fire 0 .ok, .fire 1 .ok] ++
    List.replicate 4 (.fire 0 .ok) ++ [.call (.promoteN "" 1), .fire 0 .ok, .fire 0 .ok, .fire 1 .ok,
      .fire 0 .ok]

/-- The VM is force-destroyed and its VMID goes to a clone, which is started in turn. The first boot
worker sees the guest of the clone come up and writes Hot. -/
def replaceUnderBoot : List Act :=
  forceDestroyBeside 1 [.ok, .ok, .ok, .ok] ++ [.elapse (1 * Store.minute).toNat,
    .call (.kickClone "" .hot true), .fire 1 (.node "pve1")] ++ List.replicate 10 (.fire 1 .ok) ++
    [.fire 0 .ok, .fire 1 .ok, .call (.acquire "" 7 4)]

/-- The clone's own boot worker sees the guest come up too, and the next `Acquire` arrives. -/
def secondJob : List Act := [.fire 0 .ok, .fire 1 .ok, .call (.acquire "" 8 4)]

/-- One process lifetime that takes a single VMID from the allocator. The boot worker of the adopted
VM outlives it and makes the clone's row Hot while the clone's own boot is under way. The row is
handed to a job; then the clone's boot worker writes Hot over it, and it is handed to a second job
without a rollback. -/
theorem leftover_boot_skips_rollback :
    ∃ sys₀ ∈ run (step recyclePool) (init leftoverVM ∅ Store.second) (adoptAndBoot ++ replaceUnderBoot),
      ∃ sys₁ ∈ step recyclePool sys₀ (.fire 1 .ok),
        ∃ sys₂ ∈ run (step recyclePool) sys₁ secondJob,
          ∃ sys₃ ∈ step recyclePool sys₂ (.fire 1 .ok),
            handsOut 10000 sys₀ sys₁ = true ∧ handsOut 10000 sys₂ sys₃ = true ∧
            sys₂.shared.gens 10000 = sys₁.shared.gens 10000 ∧
            tally (step recyclePool) allocations (init leftoverVM ∅ Store.second)
              (adoptAndBoot ++ replaceUnderBoot ++ .fire 1 .ok :: secondJob ++ [.fire 1 .ok]) = 1 ∧
            Along (step recyclePool) (fun sys act _ ↦ ¬RollsBack 10000 sys act) sys₁ secondJob := by
  decide +kernel

end ScalesetProxmox.Pool
