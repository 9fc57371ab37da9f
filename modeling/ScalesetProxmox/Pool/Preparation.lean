import ScalesetProxmox.Pool.Guests
import ScalesetProxmox.Pool.Lifecycle

/-!
# Guests in preparation

A clone or boot worker prepares a guest while its row cannot be acquired (`State.preparing`), and no
two workers prepare the same guest. Both facts last as long as no row is inserted for a VMID that a
worker is still busy with (`InsertsUnprepared`): workers write by VMID, so a worker left over from an
earlier row would prepare the new one too.
-/

namespace ScalesetProxmox.Store

/-- The states a row can be in while a worker prepares its guest. -/
def State.preparing : State → Bool
  | .provisioning | .booting | .draining | .destroying => true
  | _ => false

end ScalesetProxmox.Store

namespace ScalesetProxmox.Pool

open Store (VMID Time State)
open Transition

variable {cfg : Config} {s s' : Shared} {sys sys' : Sys} {act : Act} {task : Task} {reply : Reply}
  {v : VMID}

/-! ## The profiles that are cloned for -/

/-- `NewManager` refuses a profile without a name. -/
def Config.Named (cfg : Config) : Prop := ∀ settings ∈ cfg.profiles, settings.name ≠ ""

instance (cfg : Config) : Decidable cfg.Named := inferInstanceAs (Decidable (∀ _ ∈ _, _))

/-- The scale set `ci` with a second profile, `gpu`. -/
def gpuPool : Config := { smallPool with otherProfiles := [{ smallPool.defaultProfile with name := "gpu" }] }

/-- The profile that a clone worker has looked up. -/
def Task.cloneSettings : Task → Option ProfileSettings
  | .cloneAllocate settings _ _ _ | .cloneInsert settings _ _ _ _ => some settings
  | _ => none

/-- The worker clones for a profile of the configuration. -/
def ClonesConfigured (cfg : Config) (task : Task) : Prop :=
  ∀ settings, task.cloneSettings = some settings → settings ∈ cfg.profiles

theorem clonesConfigured_of_none (h : task.cloneSettings = none) : ClonesConfigured cfg task :=
  fun _ hsettings ↦ Option.some_ne_none _ (hsettings.symm.trans h) |>.elim

theorem mem_profiles_of_profileOf {name : String} {settings : ProfileSettings}
    (h : cfg.profileOf name = some settings) : settings ∈ cfg.profiles := by
  unfold Config.profileOf at h
  split at h
  · cases h
    exact List.mem_cons_self
  · exact List.mem_of_find?_eq_some h

theorem clonesConfigured_next (h : ClonesConfigured cfg task) :
    (task.action cfg reply).Next cfg s s' (List.Forall (ClonesConfigured cfg)) := by
  refine next_of_parts [.clone] (fun other hother ↦ clonesConfigured_of_none ?_) fun hpart ↦ ?_
  · cases other <;> first | rfl | cases hother
  cases task with
  | kickClone profile kind poweredOn =>
    dsimp
    split
    next settings node hprofile =>
      intro other hother
      cases hother
      exact mem_profiles_of_profileOf hprofile
    next => trivial
  | cloneAllocate settings kind poweredOn node =>
    refine ⟨fun v _ other hother ↦ ?_, trivial⟩
    cases hother
    exact h settings rfl
  | _ =>
    first
    | cases hpart; done
    | dsimp
      (repeat' split) <;> dsimp [Action.Next] <;>
        (repeat' first | split | apply And.intro | intro _) <;>
        trivial

theorem clonesConfigured_step (hstep : step cfg sys act = some sys')
    (h : ∀ task ∈ sys.threads, ClonesConfigured cfg task) :
    ∀ task ∈ sys'.threads, ClonesConfigured cfg task := by
  refine step_threads hstep h (fun _ _ _ ↦ clonesConfigured_next) (fun _ _ h ↦ h)
    (fun task hcallable ↦ ?_) (fun _ _ ↦ clonesConfigured_of_none rfl) (clonesConfigured_of_none rfl)
  cases task <;> first | exact clonesConfigured_of_none rfl | cases hcallable

/-! ## Workers -/

def Task.prepares : Task → Option VMID
  | .cloneIpam prep | .cloneIssue prep | .cloneAwait prep _ | .cloneConfigure prep _
  | .clonePower prep _ | .cloneSnapshot prep _ | .cloneUpdate prep _ _ => some prep.vmid
  | .bootStart boot | .bootWait boot | .bootHot boot | .poisonInc boot | .poisonMark boot =>
    some boot.row.vmid
  | _ => none

/-- The VMID whose guest a rollback worker is busy with. -/
def Task.rollsBack : Task → Option VMID
  | .rollbackAsync vm | .rollbackClear vm | .rollbackSnapshot vm | .rollbackWarm vm => some vm.vmid
  | _ => none

/-- The VMID whose guest a clone, boot or rollback worker attends to. -/
def Task.attends (task : Task) : Option VMID := task.prepares.or task.rollsBack

def Task.insertsAs : Task → Option (VMID × State)
  | .cloneInsert _ _ _ _ v => some (v, .provisioning)
  | .adoptInsert row _ _ _ => some (row.vmid, row.state)
  | _ => none

/-- A new row's VMID has no worker left over. -/
def InsertsUnprepared (sys : Sys) (act : Act) (_ : Sys) : Prop :=
  ∀ inserted ∈ (moving sys act).bind Task.insertsAs, sys.shared.store.get inserted.1 = none →
    ∀ task ∈ sys.threads, task.prepares ≠ some inserted.1

theorem prepares_of_blindWrite {target : State} (h : task.blindWrite = some (v, target)) :
    task.prepares = some v := by
  cases task <;> simp_all [Task.blindWrite, Task.prepares]

theorem Move.preparing {source target : State} (h : Move source target)
    (hsource : source.preparing) : target.preparing = true := by
  cases h <;> first | exact hsource | rfl

theorem insertsAs_of_rowStep {now : Time} {row : Store.VM}
    (h : (task.action cfg reply).RowStep now v none (some row)) :
    task.insertsAs = some (v, row.state) := by
  obtain ⟨adopted, hinserts⟩ := inserts_of_rowStep h
  cases task with
  | cloneInsert | adoptInsert =>
    obtain ⟨rfl, _, hstamped⟩ := h
    cases hstamped
    rfl
  | _ => cases hinserts

/-- The preparation that `other` does is that of `task`, which has not ended, or starts on a row that
was just inserted or promoted. -/
@[irreducible]
def PreparesFrom (s s' : Shared) (task other : Task) : Prop :=
  ∀ v, other.prepares = some v →
    (task.prepares = some v ∧ ∀ target, task.blindWrite = some (v, target) → target = .booting) ∨
    ((∃ row, s'.store.get v = some row ∧ row.state.preparing = true) ∧
      ((s.store.get v = none ∧ task.insertsAs = some (v, .provisioning)) ∨
        ∃ row, s.store.get v = some row ∧ row.state = .warm))

variable {other : Task}

theorem preparesFrom_of_none (h : other.prepares = none) : PreparesFrom s s' task other := by
  unfold PreparesFrom
  simp [h]

theorem preparesFrom_next :
    (task.action cfg reply).Next cfg s s' (List.Forall (PreparesFrom s s' task)) := by
  refine next_of_parts [.clone, .boot] (fun other hother ↦ preparesFrom_of_none ?_) fun hpart ↦ ?_
  · cases other <;> first | rfl | cases hother
  cases task with
  | cloneInsert settings kind poweredOn node v =>
    refine ⟨fun hnew hrow _ ↦ ?_, trivial⟩
    simp only [if_true, List.Forall, PreparesFrom, Task.prepares, Option.some.injEq]
    rintro _ rfl
    exact .inr ⟨⟨_, hrow, rfl⟩, .inl ⟨hnew, rfl⟩⟩
  | promoteLoop rows =>
    cases rows with
    | nil => trivial
    | cons row rest =>
      cases reply with
      | ok =>
        refine ⟨fun old hold hstate hrow _ ↦ ?_, by simp [PreparesFrom, Task.prepares]⟩
        simp only [Option.isSome_some, if_true, List.Forall, PreparesFrom, Task.prepares,
          Option.some.injEq, reduceCtorEq, false_imp_iff, implies_true, and_true]
        rintro _ rfl
        exact .inr ⟨⟨_, hrow, rfl⟩, .inr ⟨old, hold, List.mem_singleton.mp hstate⟩⟩
      | _ => simp [Action.Next, PreparesFrom, Task.prepares]
  | cloneUpdate prep node hasSnapshot =>
    refine ⟨fun row hold _ _ ↦ ?_, fun err ↦ ?_⟩
    · have hvmid : row.vmid = prep.vmid := Table.key_of_get hold
      dsimp
      (repeat' split) <;> simp_all [PreparesFrom, Task.prepares, Task.blindWrite]
    · cases err <;> simp [PreparesFrom, Task.prepares]
  | _ =>
    first
    | cases hpart; done
    | dsimp
      (repeat' split) <;> dsimp [Action.Next] <;>
        (repeat' first | split | apply And.intro | intro _) <;>
        first
        | trivial
        | exact preparesFrom_of_none rfl
        | simp [PreparesFrom, Task.prepares, Task.blindWrite]

/-- The two tasks prepare different guests. -/
def PrepareApart (task other : Task) : Prop := ∀ v, task.prepares = some v → other.prepares ≠ some v

theorem attends_of_prepares (h : task.prepares = some v) : task.attends = some v := by
  simp [Task.attends, h]

theorem attends_of_rollsBack (h : task.rollsBack = some v) : task.attends = some v := by
  cases task <;> first | exact h | cases h

/-- The two tasks are not workers for one guest. -/
def AttendApart (task other : Task) : Prop := ∀ v, task.attends = some v → other.attends ≠ some v

theorem attendApart_pair (h : task.attends = none ∨ other.attends = none) :
    [task, other].Pairwise AttendApart := by
  refine List.pairwise_pair.mpr fun v htask hother ↦ ?_
  rcases h with h | h <;> simp [h] at htask hother

/-- A task starts at most one worker at a time. -/
theorem attendApart_next : (task.action cfg reply).Next cfg s s' (List.Pairwise AttendApart) := by
  cases task with
  | evictLoop rows committed =>
    have hcommitted : (committed.map Task.destroyAsync).Pairwise AttendApart := by
      rw [List.pairwise_map]
      exact List.pairwise_of_forall fun _ _ _ h ↦ by cases h
    cases rows with
    | nil => exact hcommitted
    | cons row rest => exact ⟨fun _ _ _ _ _ ↦ List.pairwise_singleton _ _, hcommitted⟩
  | _ =>
    dsimp
    (repeat' split) <;> dsimp [Action.Next] <;>
      (repeat' first | split | apply And.intro | intro _) <;>
      first
      | exact .nil
      | exact List.pairwise_singleton _ _
      | exact attendApart_pair (.inl rfl)
      | exact attendApart_pair (.inr rfl)

theorem prepareApart_next : (task.action cfg reply).Next cfg s s' (List.Pairwise PrepareApart) := by
  refine attendApart_next.imp fun next hapart ↦ hapart.imp ?_
  intro first second h v hfirst hsecond
  exact h v (attends_of_prepares hfirst) (attends_of_prepares hsecond)

theorem PrepareApart.symm (h : PrepareApart task other) : PrepareApart other task :=
  fun v hother htask ↦ h v htask hother

theorem not_prepares_of_callable (h : callable s task) : task.prepares = none := by
  cases task <;> first | rfl | cases h

/-- Nobody starts to prepare a guest unless its row is Warm or new. -/
theorem not_prepared_step (hstep : step cfg sys act = some sys')
    (hnone : ∀ task ∈ sys.threads, task.prepares ≠ some v)
    (hwarm : ∀ row, sys.shared.store.get v = some row → row.state ≠ .warm)
    (hnew : ∀ task, moving sys act = some task → sys.shared.store.get v = none →
      sys'.shared.store.get v ≠ none → task.insertsAs ≠ some (v, .provisioning)) :
    ∀ task ∈ sys'.threads, task.prepares ≠ some v := by
  refine step_threads hstep hnone (fun reply task hmoving hold ↦ ?_) (fun _ _ hold ↦ hold)
    (fun task hcallable ↦ ?_) (fun _ _ ↦ by simp [Task.prepares]) (by simp [Task.prepares])
  · refine preparesFrom_next.mono fun other hother hprepares ↦ ?_
    unfold PreparesFrom at hother
    rcases hother v hprepares with
      ⟨hsame, _⟩ | ⟨⟨new, hnew', _⟩, ⟨hrow, hinserts⟩ | ⟨row, hrow, hstate⟩⟩
    · exact hold hsame
    · exact hnew task hmoving hrow (by simp [hnew']) hinserts
    · exact hwarm row hrow hstate
  · simp [not_prepares_of_callable hcallable]

/-! ## The invariant -/

structure Prepared (sys : Sys) : Prop where
  preparing : ∀ task ∈ sys.threads, ∀ v, task.prepares = some v →
    ∀ row, sys.shared.store.get v = some row → row.state.preparing = true
  apart : sys.threads.Pairwise PrepareApart

theorem Prepared.apart_bystanders (hinv : Prepared sys)
    (hmoving : moving sys act = some task) :
    ∀ other ∈ bystanders sys act, PrepareApart task other := by
  cases act with
  | fire i reply => exact forall_rel_eraseIdx PrepareApart.symm hmoving hinv.apart
  | _ => cases hmoving

section Step

variable (hinv : Prepared sys) (hstep : step cfg sys act = some sys')
  (hunprepared : InsertsUnprepared sys act sys')

include hinv hstep hunprepared

/-- A row whose guest is being prepared stays in a preparing state, unless its worker ends. -/
theorem preparing_step {row : Store.VM}
    (hprepared : ∃ task ∈ sys.threads, task.prepares = some v)
    (hacting : ∀ task, moving sys act = some task →
      ∀ target, task.blindWrite = some (v, target) → target = .booting)
    (hrow : sys'.shared.store.get v = some row) : row.state.preparing = true := by
  obtain ⟨worker, hmem, hworker⟩ := hprepared
  rcases step_row_some hstep hrow with
    hsame | ⟨reply, task, hmoving, ⟨old, hold, hrowStep⟩ | ⟨hold, hrowStep⟩⟩
  · exact hinv.preparing worker hmem v hworker row hsame
  · rcases rowStep_move hrowStep with hmove | hblind
    · exact hmove.preparing (hinv.preparing worker hmem v hworker old hold)
    · rw [hacting task hmoving _ hblind]
      rfl
  · have hfree := hunprepared (v, row.state)
      (by simp [hmoving, insertsAs_of_rowStep hrowStep]) hold
    exact absurd hworker (hfree worker hmem)

/-- Two workers are never on one guest. -/
theorem apart_step : sys'.threads.Pairwise PrepareApart := by
  refine pairwise_step hstep hinv.apart (fun i reply task next hact hthread hexec ↦ ?_)
    (fun task other hcallable v _ ↦ ?_) (fun _ _ _ _ h ↦ by cases h)
  · subst hact
    refine ⟨exec_next hexec prepareApart_next,
      fun other hother bystander hmem v hv hprepares ↦ ?_⟩
    have hfrom := exec_forall hexec preparesFrom_next hother
    unfold PreparesFrom at hfrom
    have hmem' := mem_threads_of_bystander hmem
    have hmoving : moving sys (.fire i reply) = some task := hthread
    rcases hfrom v hprepares with ⟨hsame, _⟩ | ⟨_, ⟨hrow, hinserts⟩ | ⟨row, hrow, hstate⟩⟩
    · exact hinv.apart_bystanders hmoving bystander hmem v hsame hv
    · have hfree := hunprepared (v, .provisioning) (by simp [hthread, hinserts]) hrow
      exact absurd hv (hfree bystander hmem')
    · have hpreparing := hinv.preparing bystander hmem' v hv row hrow
      rw [hstate] at hpreparing
      cases hpreparing
  · simp [not_prepares_of_callable hcallable]

theorem preparing_threads_step : ∀ task ∈ sys'.threads, ∀ v, task.prepares = some v →
    ∀ row, sys'.shared.store.get v = some row → row.state.preparing = true := by
  refine step_threads hstep hinv.preparing (fun reply task hmoving _ ↦ ?_)
    (fun task hmem _ v hprepares row hrow ↦ ?_) (fun task hcallable v hprepares ↦ ?_)
    (fun _ _ _ h ↦ by cases h) (fun _ h ↦ by cases h)
  · refine preparesFrom_next.mono fun other hother v hprepares row hrow ↦ ?_
    unfold PreparesFrom at hother
    rcases hother v hprepares with ⟨hsame, hblind⟩ | ⟨⟨new, hnew, hstate⟩, _⟩
    · refine preparing_step hinv hstep hunprepared ⟨task, mem_threads_of_moving hmoving, hsame⟩
        (fun acting hacting ↦ ?_) hrow
      cases hmoving.symm.trans hacting
      exact hblind
    · rw [hnew, Option.some.injEq] at hrow
      rw [← hrow, hstate]
  · refine preparing_step hinv hstep hunprepared ⟨task, mem_threads_of_bystander hmem, hprepares⟩
      (fun acting hacting target hblind ↦ ?_) hrow
    exact absurd hprepares
      (hinv.apart_bystanders hacting task hmem v (prepares_of_blindWrite hblind))
  · rw [not_prepares_of_callable hcallable] at hprepares
    cases hprepares

theorem Prepared.step : Prepared sys' where
  preparing := preparing_threads_step hinv hstep hunprepared
  apart := apart_step hinv hstep hunprepared

end Step

end ScalesetProxmox.Pool
