import ScalesetProxmox.Pool.Addresses
import ScalesetProxmox.Pool.Requests

/-!
# Leases whose VM is gone

A destroy releases the lease of the profile that it reads from the row it deletes. `leases_not_leaked`
is that this is enough when every row is still there at its own clone worker's allocation and is deleted
by a destroy worker. Neither is ensured. A row that is force-destroyed between its insert and the
allocation is gone when the address is taken; the clone worker notices at its end and asks for a second
destroy, which finds no row and releases in the profile `default`: `force_destroy_leaks_lease`. The
synchronous destroy of a cancelled worker deletes the row and releases nothing.
-/

namespace ScalesetProxmox.Pool

open Store (VMID Time)
open Transition
open Ipam (Allocator)

/-! ## Clone workers before their allocation -/

section Tasks

variable {cfg : Config} {s s' : Shared} {sys sys' : Sys} {act : Act} {task other : Task} {reply : Reply}
  {v : VMID}

/-- The clone for which a worker is about to take an address. -/
def Task.leases : Task → Option ClonePrep
  | .cloneIpam prep => some prep
  | _ => none

def Config.knows (cfg : Config) (name : String) : Prop := ∃ settings ∈ cfg.profiles, settings.name = name

/-- Up to the allocation of its address a clone worker's row is there, in a profile of the
configuration. -/
def LeasesForRow (cfg : Config) (s : Shared) (task : Task) : Prop :=
  ∀ prep, task.leases = some prep → cfg.knows prep.profileName ∧
    ∃ row, s.store.get prep.vmid = some row ∧ row.profile = prep.profileName

theorem leasesForRow_of_none (h : task.leases = none) : LeasesForRow cfg s task := by
  intro prep hprep
  cases h.symm.trans hprep

/-- A name that is configured is looked up under itself. -/
theorem profileOf_of_knows {name : String} (h : cfg.knows name) (hne : name ≠ "") :
    ∃ settings, cfg.profileOf name = some settings ∧ settings.name = name := by
  obtain ⟨settings, hmem, hname⟩ := h
  unfold Config.profileOf
  rw [if_neg hne]
  cases hfind : cfg.profiles.find? (·.name = name) with
  | none => exact absurd (decide_eq_true hname) (List.find?_eq_none.mp hfind settings hmem)
  | some found => exact ⟨found, rfl, by simpa using List.find?_some hfind⟩

theorem leasesForRow_next (hnamed : cfg.Named) (h : ClonesConfigured cfg task) :
    (task.action cfg reply).Next cfg s s' (List.Forall (LeasesForRow cfg s')) := by
  refine next_of_parts [.clone] (fun other hother ↦ leasesForRow_of_none ?_) fun hpart ↦ ?_
  · cases other <;> first | rfl | cases hother
  cases task with
  | cloneInsert settings kind poweredOn node v =>
    refine ⟨fun _ hrow _ ↦ ?_, trivial⟩
    simp only [if_true, List.Forall]
    intro prep hprep
    cases hprep
    have hmem := h settings rfl
    exact ⟨⟨settings, hmem, rfl⟩, _, hrow, if_neg (hnamed settings hmem)⟩
  | _ =>
    first
    | cases hpart; done
    | dsimp
      (repeat' split) <;> dsimp [Action.Next] <;>
        (repeat' first | split | apply And.intro | intro _) <;>
        trivial

theorem row_kept (hstep : step cfg sys act = some sys') (hcrash : act ≠ .crash)
    (hdelete : ∀ task, moving sys act = some task → task.deletes ≠ some v) {row : Store.VM}
    (hrow : sys.shared.store.get v = some row) :
    ∃ row', sys'.shared.store.get v = some row' ∧ row'.profile = row.profile := by
  obtain ⟨row', hrow'⟩ :=
    Option.isSome_iff_exists.mp (step_row_isSome hstep hcrash hdelete (by rw [hrow]; rfl))
  refine ⟨row', hrow', ?_⟩
  rcases step_row_some hstep hrow' with hsame | ⟨reply, task, _, ⟨old, hold, hrowStep⟩ | ⟨hnone, _⟩⟩
  · cases hrow.symm.trans hsame
    rfl
  · cases hrow.symm.trans hold
    exact (sameVM_of_rowStep hrowStep).profile
  · cases hrow.symm.trans hnone

end Tasks

namespace LeasedSys

variable {cfg : LeasedConfig} {w w' : LeasedSys} {a : LeasedAct} {act : Act} {applied : Bool} {v : VMID}
  {profile : String} {labels : List LeasedAct}

/-! ## The invariant -/

def deleting (w : LeasedSys) : LeasedAct → Option (DestroyRequest × Bool)
  | .pool act _ =>
    match moving w.sys act with
    | some (.destroyRow request sync) => some (request, sync)
    | _ => none
  | .release _ => none

/-- A row is deleted only by a destroy worker, and not before its clone worker has taken its address. -/
def DeletesLeased (w : LeasedSys) (a : LeasedAct) (_ : LeasedSys) : Prop :=
  ∀ destroy ∈ w.deleting a, (w.sys.shared.store.get destroy.1.vmid).isSome = true →
    destroy.2 = false ∧ ∀ task ∈ w.sys.threads, ∀ prep ∈ task.leases, prep.vmid ≠ destroy.1.vmid

instance (w : LeasedSys) (a : LeasedAct) (w' : LeasedSys) : Decidable (w.DeletesLeased a w') :=
  inferInstanceAs (Decidable (∀ _ ∈ _, _))

/-- Every lease belongs to a row, or a destroy is about to release it. -/
structure Covered (cfg : LeasedConfig) (w : LeasedSys) : Prop where
  configured : ∀ task ∈ w.sys.threads, ClonesConfigured cfg.pool task
  tasks : ∀ task ∈ w.sys.threads, LeasesForRow cfg.pool w.sys.shared task
  leases : ∀ profile v ip, (w.allocators profile).lease v = some ip → cfg.pool.knows profile ∧
    ((∃ row, w.sys.shared.store.get v = some row ∧ row.profile = profile) ∨ (profile, v) ∈ w.releasing)

/-- The releases that are due are not forgotten, and the end of a destroy adds its own. -/
theorem releasing_of_after (h : w.after cfg act applied = some w') (hcrash : act ≠ .crash) :
    (∀ lease ∈ w.releasing, lease ∈ w'.releasing) ∧
      ∀ request, moving w.sys act = some (.destroyRow request false) →
        ∀ lease ∈ released cfg.pool w.sys.shared.store request.vmid, lease ∈ w'.releasing := by
  unfold after at h
  split at h
  next task hmoving =>
    have hkept (hsame : w'.releasing = w.releasing) (htask : ∀ request, task ≠ .destroyRow request false) :
        (∀ lease ∈ w.releasing, lease ∈ w'.releasing) ∧
          ∀ request, moving w.sys act = some (.destroyRow request false) →
            ∀ lease ∈ released cfg.pool w.sys.shared.store request.vmid, lease ∈ w'.releasing := by
      refine ⟨fun lease hlease ↦ hsame ▸ hlease, fun request hmoving' ↦ ?_⟩
      exact absurd (Option.some.inj (hmoving.symm.trans hmoving')) (htask request)
    cases task with
    | destroyRow request sync =>
      cases sync with
      | false =>
        cases h
        refine ⟨fun lease hlease ↦ List.mem_append_left _ hlease, fun other hother lease hlease ↦ ?_⟩
        cases hmoving.symm.trans hother
        exact List.mem_append_right _ hlease
      | true =>
        cases h
        exact hkept rfl (by simp)
    | cloneIpam | cloneConfigure =>
      simp only [afterTask] at h
      repeat' split at h
      all_goals first
        | cases h
          done
        | cases h
          exact hkept rfl (by simp)
    | _ =>
      cases h
      exact hkept rfl (by simp)
  next hmoving =>
    split at h
    · exact absurd rfl hcrash
    · cases h
      refine ⟨fun lease hlease ↦ hlease, fun request hmoving' ↦ ?_⟩
      cases hmoving.symm.trans hmoving'

/-- A new lease is that of the worker that has just allocated. -/
theorem Changed.leased_before (h : Changed cfg w act w') {ip : String}
    (hlease : (w'.allocators profile).lease v = some ip) :
    (w.allocators profile).lease v = some ip ∨
      ∃ prep, moving w.sys act = some (.cloneIpam prep) ∧ prep.profileName = profile ∧ prep.vmid = v := by
  cases h with
  | @allocated prep _ allocator hmoving hallocate =>
    dsimp only at hlease
    by_cases hprofile : profile = prep.profileName
    · subst hprofile
      rw [Function.update_self] at hlease
      by_cases hv : v = prep.vmid
      · exact .inr ⟨prep, hmoving, rfl, hv.symm⟩
      · exact .inl (Allocator.lease_of_allocate hallocate hv hlease)
    · rw [Function.update_of_ne hprofile] at hlease
      exact .inl hlease
  | configured => exact .inl hlease
  | restarted =>
    rw [show _ = none from Ipam.lease_ipamFromProfileNetwork _ _] at hlease
    cases hlease
  | kept => exact .inl hlease

theorem mem_released {row : Store.VM} {store : Store} (hnamed : cfg.pool.Named)
    (hknows : cfg.pool.knows row.profile) (hrow : store.get v = some row) :
    (row.profile, v) ∈ released cfg.pool store v := by
  have hne : row.profile ≠ "" := by
    obtain ⟨settings, hmem, hname⟩ := hknows
    exact hname ▸ hnamed settings hmem
  obtain ⟨settings, hsettings, hname⟩ := profileOf_of_knows hknows hne
  simp [released, hrow, hne, hsettings, hname]

theorem cover_kept (hnamed : cfg.pool.Named) {sys : Sys} {after : LeasedSys}
    (hsys : Pool.step cfg.pool w.sys act = some sys) (hafter : w.after cfg act applied = some after)
    (hcrash : act ≠ .crash) (hdeletes : w.DeletesLeased (.pool act applied) w')
    (hknows : cfg.pool.knows profile)
    (h : (∃ row, w.sys.shared.store.get v = some row ∧ row.profile = profile) ∨
      (profile, v) ∈ w.releasing) :
    (∃ row, sys.shared.store.get v = some row ∧ row.profile = profile) ∨
      (profile, v) ∈ after.releasing := by
  obtain ⟨hkept, hreleased⟩ := releasing_of_after hafter hcrash
  rcases h with ⟨row, hrow, rfl⟩ | hreleasing
  · by_cases hdelete : ∃ task, moving w.sys act = some task ∧ task.deletes = some v
    · obtain ⟨task, hmoving, htask⟩ := hdelete
      cases task <;> cases htask
      rename_i request sync
      obtain ⟨rfl, _⟩ : sync = false ∧ _ :=
        hdeletes (request, sync) (by simp [deleting, hmoving]) (by rw [hrow]; rfl)
      exact .inr (hreleased request hmoving _ (mem_released hnamed hknows hrow))
    · refine .inl (row_kept hsys hcrash (fun task hmoving htask ↦ ?_) hrow)
      exact hdelete ⟨task, hmoving, htask⟩
  · exact .inr (hkept _ hreleasing)

theorem leasesForRow_step (hnamed : cfg.pool.Named) {sys : Sys}
    (hsys : Pool.step cfg.pool w.sys act = some sys)
    (hdeletes : w.DeletesLeased (.pool act applied) w') (hcovered : Covered cfg w) :
    ∀ task ∈ sys.threads, LeasesForRow cfg.pool sys.shared task := by
  refine step_threads hsys hcovered.tasks
    (fun reply task hmoving _ ↦ leasesForRow_next hnamed
      (hcovered.configured task (mem_threads_of_moving hmoving)))
    (fun task hmem htask prep hprep ↦ ?_) (fun task hcallable ↦ ?_) (fun _ _ ↦ leasesForRow_of_none rfl)
    (leasesForRow_of_none rfl)
  · -- the row of a worker that waits to allocate is not deleted
    obtain ⟨hknows, row, hrow, hprofile⟩ := htask prep hprep
    have hcrash : act ≠ .crash := by
      rintro rfl
      cases hmem
    have hkept : ∀ other, moving w.sys act = some other → other.deletes ≠ some prep.vmid := by
      intro other hmoving hother
      cases other with
      | destroyRow request sync =>
        have hvmid : request.vmid = prep.vmid := Option.some.inj hother
        exact (hdeletes (request, sync) (by simp [deleting, hmoving]) (by simp [hvmid, hrow])).2 task
          (mem_threads_of_bystander hmem) prep hprep hvmid.symm
      | _ => cases hother
    obtain ⟨row', hrow', hprofile'⟩ := row_kept hsys hcrash hkept hrow
    exact ⟨hknows, row', hrow', hprofile'.trans hprofile⟩
  · cases task <;> first | exact leasesForRow_of_none rfl | cases hcallable

theorem Covered.step (hnamed : cfg.pool.Named) (hcovered : Covered cfg w) (hstep : step cfg w a = some w')
    (hdeletes : DeletesLeased w a w') : Covered cfg w' := by
  cases a with
  | pool act applied =>
    obtain ⟨sys, hsys, hmapped⟩ := Option.bind_eq_some_iff.mp hstep
    obtain ⟨after, hafter, rfl⟩ := Option.map_eq_some_iff.mp hmapped
    refine ⟨clonesConfigured_step hsys hcovered.configured,
      leasesForRow_step hnamed hsys hdeletes hcovered, fun profile v ip hlease ↦ ?_⟩
    by_cases hcrash : act = .crash
    · -- a new process has no leases
      subst hcrash
      cases hafter
      cases (Ipam.lease_ipamFromProfileNetwork _ _).symm.trans hlease
    · have hbefore : cfg.pool.knows profile ∧
          ((∃ row, w.sys.shared.store.get v = some row ∧ row.profile = profile) ∨
            (profile, v) ∈ w.releasing) := by
        rcases (changed_of_after hafter).leased_before hlease with hold | ⟨prep, hmoving, rfl, rfl⟩
        · exact hcovered.leases profile v ip hold
        · obtain ⟨hknows, hrow⟩ := hcovered.tasks _ (mem_threads_of_moving hmoving) prep rfl
          exact ⟨hknows, .inl hrow⟩
      have hcover := cover_kept hnamed hsys hafter hcrash hdeletes hbefore.1 hbefore.2
      exact ⟨hbefore.1, hcover⟩
  | release i =>
    simp only [LeasedSys.step] at hstep
    split at hstep
    · cases hstep
    next profile v hreleasing =>
      cases hstep
      refine ⟨hcovered.configured, hcovered.tasks, fun other u ip hlease ↦ ?_⟩
      dsimp only at hlease ⊢
      have hne : (other, u) ≠ (profile, v) := by
        intro hsame
        cases hsame
        rw [Function.update_self, Allocator.lease_release_self] at hlease
        cases hlease
      have hold : (w.allocators other).lease u = some ip := by
        by_cases hother : other = profile
        · subst hother
          rw [Function.update_self, Allocator.lease_release_of_ne (fun hu ↦ hne (by rw [hu]))] at hlease
          exact hlease
        · rwa [Function.update_of_ne hother] at hlease
      obtain ⟨hknows, hrow | hmem⟩ := hcovered.leases other u ip hold
      · exact ⟨hknows, .inl hrow⟩
      · refine ⟨hknows, .inr ?_⟩
        rcases List.mem_cons.mp ((cons_eraseIdx_perm hreleasing).mem_iff.mpr hmem) with hsame | hmem
        · exact absurd hsame hne
        · exact hmem

theorem covered_init (cfg : LeasedConfig) (cluster : Provisioner.Cluster) (runners : Gh.Runners)
    (now : Time) : Covered cfg (init cfg cluster runners now) := by
  refine ⟨fun task hmem ↦ ?_, fun task hmem ↦ ?_, fun profile v ip hlease ↦ ?_⟩
  · rw [List.mem_singleton.mp hmem]
    exact clonesConfigured_of_none rfl
  · rw [List.mem_singleton.mp hmem]
    exact leasesForRow_of_none rfl
  · cases (Ipam.lease_ipamFromProfileNetwork _ _).symm.trans hlease

/-- The VMID has no row, no clone worker and no destroy, neither queued nor running. -/
def Gone (w : LeasedSys) (v : VMID) : Prop :=
  w.sys.shared.store.get v = none ∧ (∀ key ∈ mentioned w.sys, key.1 ≠ v) ∧
    ∀ lease ∈ w.releasing, lease.2 ≠ v

instance (w : LeasedSys) (v : VMID) : Decidable (w.Gone v) := inferInstanceAs (Decidable (_ ∧ _))

/-- On every run whose rows are deleted by destroy workers and after their clone worker's allocation, a
VMID that is gone holds no lease in any profile. -/
theorem leases_not_leaked {cluster : Provisioner.Cluster} {runners : Gh.Runners} {now : Time}
    (hnamed : cfg.pool.Named)
    (hdeletes : Along (step cfg) DeletesLeased (init cfg cluster runners now) labels)
    (hrun : run (step cfg) (init cfg cluster runners now) labels = some w) (hgone : w.Gone v)
    (profile : String) : (w.allocators profile).lease v = none := by
  have hcovered := invariant_of_along (Covered cfg)
    (fun _ _ _ hinv hmeets hstep ↦ hinv.step hnamed hstep hmeets) (covered_init cfg cluster runners now)
    hdeletes hrun
  obtain ⟨hrow, _, hreleasing⟩ := hgone
  cases hlease : (w.allocators profile).lease v with
  | none => rfl
  | some ip =>
    rcases (hcovered.leases profile v ip hlease).2 with ⟨row, hget, _⟩ | hmem
    · cases hrow.symm.trans hget
    · exact absurd rfl (hreleasing _ hmem)

end LeasedSys

/-! ### A force-destroy before the allocation -/

def gpuAddress : LeasedConfig where
  pool := gpuPool
  ipam profile :=
    if profile = "gpu" then some { backend := "static", pool := ["10.0.0.10/24"] } else none

def gpuInsert : List Act :=
  adoptNothing ++ ([.call (.kickClone "gpu" .warm false), .fire 0 (.node "pve1"), .fire 0 .ok, .fire 0 .ok] :
    List Act)

/-- The clone runs to its end, is destroyed and gives its lease back. -/
def gpuDestroy : List LeasedAct :=
  plainly (gpuInsert ++ (List.replicate 6 (.fire 0 .ok) : List Act) ++
    forceDestroyBeside 0 (List.replicate 4 .ok)) ++ ([.release 0] : List LeasedAct)

theorem leases_not_leaked_gpuDestroy :
    ∃ w ∈ run (LeasedSys.step gpuAddress) (LeasedSys.init gpuAddress .empty ∅ Store.second) gpuDestroy,
      w.Gone 10000 ∧ (w.allocators "gpu").lease 10000 = none := by
  obtain ⟨w, hrun, hgone⟩ :
      ∃ w ∈ run (LeasedSys.step gpuAddress) (LeasedSys.init gpuAddress .empty ∅ Store.second) gpuDestroy,
        w.Gone 10000 := by
    decide +kernel
  have hdeletes : Along (LeasedSys.step gpuAddress) LeasedSys.DeletesLeased
      (LeasedSys.init gpuAddress .empty ∅ Store.second) gpuDestroy := by
    decide +kernel
  exact ⟨w, hrun, hgone, LeasedSys.leases_not_leaked (by decide) hdeletes hrun hgone "gpu"⟩

/-- The row of the clone is force-destroyed before the clone worker has taken its address. The worker
takes it nevertheless, clones, finds no row and has the VM destroyed. -/
def gpuForceDestroyed : List LeasedAct :=
  plainly (gpuInsert ++ forceDestroyBeside 1 [.ok, .ok]) ++ ([.release 0] : List LeasedAct) ++
    plainly ((List.replicate 9 (.fire 0 .ok) : List Act) ++ ([.dispatch] : List Act) ++
      (List.replicate 4 (.fire 0 .ok) : List Act)) ++ ([.release 0] : List LeasedAct)

/-- Row, VM, worker and destroys are gone, and the only address of `gpu` is still taken. -/
theorem force_destroy_leaks_lease :
    ∃ w ∈ run (LeasedSys.step gpuAddress) (LeasedSys.init gpuAddress .empty ∅ Store.second)
        gpuForceDestroyed,
      w.Gone 10000 ∧ w.sys.threads = [] ∧ (w.sys.shared.cluster.get 10000).isNone = true ∧
        (w.allocators "gpu").lease 10000 = some "10.0.0.10/24" := by
  decide +kernel

end ScalesetProxmox.Pool
