import ScalesetProxmox.Pool.Recycling
import ScalesetProxmox.Ipam.Static

/-!
# The static addresses of the VMs

The pool together with the allocators of its profiles and the addresses that Proxmox keeps of the VMs. A
clone worker takes an address before it clones and writes it into the VM's `ipconfig0`; the end of a destroy
gives the lease of the VMID back, after its row has been deleted. The leases are in the memory of the process.
Adoption does not restore them, so that a new process gives the addresses of the VMs it adopts away a second
time: `adopted_address_given_again`. Within a process a lease outlives its VM and its clone worker only if
the destroy has waited for both. `addresses_distinct` is the result for the runs in which it does and no
process ends while a VM carries an address.
-/

namespace ScalesetProxmox.Pool

open Store (VMID Time)
open Transition
open Ipam (Allocator ProfileIPAMConfig ipamFromProfileNetwork)

/-! ## Pool and leases -/

structure LeasedConfig where
  pool : Config
  /-- The `ipam` block of each profile. -/
  ipam : String → Option ProfileIPAMConfig

/-- An address in the `ipconfig0` of a VM, and the profile it was taken for. -/
structure Assignment where
  profile : String
  ip : String
  deriving DecidableEq, Repr

structure LeasedSys where
  sys : Sys
  allocators : String → Allocator
  /-- The address that `prepareClone` has taken for a clone, empty for none. -/
  ipConfig : ClonePrep → String
  ipconfig0 : VMID → Option Assignment
  /-- The destroys that have deleted their row and are about to release its lease. -/
  releasing : List (String × VMID)

/-- A step of the pool, or the release at the end of a destroy. A `Config` call that fails may have been
applied. -/
inductive LeasedAct
  | pool (act : Act) (applied : Bool)
  | release (i : ℕ)

/-- The process ends in this step. -/
def LeasedAct.crashes : LeasedAct → Bool
  | .pool .crash _ => true
  | _ => false

def released (cfg : Config) (store : Store) (v : VMID) : List (String × VMID) :=
  let destroyedProfile :=
    match store.get v with
    | some deleted => if deleted.profile = "" then "default" else deleted.profile
    | none => "default"
  match cfg.profileOf destroyedProfile with
  | some settings => [(settings.name, v)]
  | none => []

namespace LeasedSys

/-- What becomes of leases and addresses in a task's step. -/
def afterTask (cfg : LeasedConfig) (w : LeasedSys) (act : Act) (applied : Bool) : Task → Option LeasedSys
  | .cloneIpam prep =>
    match (w.allocators prep.profileName).allocate prep.vmid with
    | .ok (ip, allocator) =>
      if act.succeeds then
        some { w with
          allocators := Function.update w.allocators prep.profileName allocator
          ipConfig := Function.update w.ipConfig prep ip }
      else
        none
    | .error _ => if act.succeeds then none else some w
  | .cloneConfigure prep node =>
    if (act.succeeds || applied) ∧ (w.sys.shared.cluster.find prep.vmid node).isSome ∧
        (Tags.initial cfg.pool.pmox.scaleSetName prep.profileName prep.templateClass).isSome ∧
        w.ipConfig prep ≠ "" then
      some { w with
        ipconfig0 := Function.update w.ipconfig0 prep.vmid
          (some { profile := prep.profileName, ip := w.ipConfig prep }) }
    else
      some w
  -- the clone worker's own synchronous destroy keeps the lease
  | .destroyRow request false =>
    some { w with releasing := w.releasing ++ released cfg.pool w.sys.shared.store request.vmid }
  | _ => some w

/-- The same for any step of the pool. A new process starts with new allocators. -/
def after (cfg : LeasedConfig) (w : LeasedSys) (act : Act) (applied : Bool) : Option LeasedSys :=
  match moving w.sys act with
  | some task => w.afterTask cfg act applied task
  | none =>
    match act with
    | .crash =>
      some { w with
        allocators := fun profile ↦ ipamFromProfileNetwork (cfg.ipam profile)
        ipConfig := fun _ ↦ ""
        releasing := [] }
    | _ => some w

/-- The pool has moved on; a VM that is gone carries nothing. -/
def settle (w : LeasedSys) (sys : Sys) : LeasedSys :=
  { w with
    sys := sys
    ipconfig0 := fun v ↦ if (sys.shared.cluster.get v).isSome then w.ipconfig0 v else none }

def step (cfg : LeasedConfig) (w : LeasedSys) : LeasedAct → Option LeasedSys
  | .pool act applied =>
    (Pool.step cfg.pool w.sys act).bind fun sys ↦ (w.after cfg act applied).map (·.settle sys)
  | .release i =>
    match w.releasing[i]? with
    | none => none
    | some (profile, v) =>
      some { w with
        allocators := Function.update w.allocators profile ((w.allocators profile).release v)
        releasing := w.releasing.eraseIdx i }

/-- A first process; the VMs it finds have no address from an allocator. -/
def init (cfg : LeasedConfig) (cluster : Provisioner.Cluster) (runners : Gh.Runners) (now : Time) :
    LeasedSys where
  sys := Pool.init cluster runners now
  allocators := fun profile ↦ ipamFromProfileNetwork (cfg.ipam profile)
  ipConfig := fun _ ↦ ""
  ipconfig0 := fun _ ↦ none
  releasing := []

end LeasedSys

variable {cfg : LeasedConfig} {w w' : LeasedSys} {act : Act} {applied : Bool} {task : Task} {v : VMID}
  {prep : ClonePrep} {a : LeasedAct} {labels : List LeasedAct}

/-! ## Clone workers -/

/-- The clone that a worker is making, with the address it has taken for it. -/
def Task.cloning : Task → Option ClonePrep
  | .cloneIssue prep | .cloneAwait prep _ | .cloneConfigure prep _ => some prep
  | _ => none

/-- A worker clones with the address of the step before, or has just taken one. -/
@[irreducible]
def ClonesFrom (reply : Reply) (task other : Task) : Prop :=
  ∀ prep, other.cloning = some prep →
    task.cloning = some prep ∨ (task = .cloneIpam prep ∧ reply = .ok)

theorem clonesFrom_of_none {reply : Reply} {other : Task} (h : other.cloning = none) :
    ClonesFrom reply task other := by
  unfold ClonesFrom
  simp [h]

theorem clonesFrom_next {cfg : Config} {s s' : Shared} {reply : Reply} :
    (task.action cfg reply).Next cfg s s' (List.Forall (ClonesFrom reply task)) := by
  refine next_of_parts [.clone] (fun other hother ↦ clonesFrom_of_none ?_) fun hpart ↦ ?_
  · cases other <;> first | rfl | cases hother
  cases task with
  | cloneIpam prep => cases reply <;> simp [Action.Next, ClonesFrom, Task.cloning]
  | _ =>
    first
    | cases hpart; done
    | dsimp
      (repeat' split) <;> dsimp [Action.Next] <;>
        (repeat' first | split | apply And.intro | intro _) <;>
        first
        | trivial
        | exact clonesFrom_of_none rfl
        | simp [ClonesFrom, Task.cloning]

theorem not_cloning_of_callable {s : Shared} (h : callable s task) : task.cloning = none := by
  cases task <;> first | rfl | cases h

/-- A worker that clones after a step did so before it, or has just taken its address. -/
theorem cloning_step {cfg : Config} {sys sys' : Sys} (hstep : step cfg sys act = some sys')
    (h : ∃ task ∈ sys'.threads, task.cloning = some prep) :
    (act ≠ .crash ∧ ∃ task ∈ sys.threads, task.cloning = some prep) ∨
      (moving sys act = some (.cloneIpam prep) ∧ act.succeeds) := by
  obtain ⟨other, hother, hcloning⟩ := h
  rcases tagged_step hstep hother hcloning (fun _ ↦ not_cloning_of_callable) (fun _ ↦ rfl) rfl with
    ⟨hcrash, hold⟩ | ⟨i, reply, task, next, rfl, hthread, hexec, hnew⟩
  · exact .inl ⟨hcrash, other, mem_threads_of_bystander hold, hcloning⟩
  · have hfrom := exec_forall hexec clonesFrom_next hnew
    unfold ClonesFrom at hfrom
    rcases hfrom prep hcloning with hsame | ⟨rfl, rfl⟩
    · exact .inl ⟨by simp, task, List.mem_of_getElem? hthread, hsame⟩
    · exact .inr ⟨hthread, rfl⟩

/-! ## What a step does to leases and addresses -/

namespace LeasedSys

/-- The four ways in which the pool's steps change leases and addresses. -/
inductive Changed (cfg : LeasedConfig) (w : LeasedSys) (act : Act) : LeasedSys → Prop
  | allocated {prep : ClonePrep} {ip : String} {allocator : Allocator}
      (hmoving : moving w.sys act = some (.cloneIpam prep))
      (hallocate : (w.allocators prep.profileName).allocate prep.vmid = .ok (ip, allocator)) :
      Changed cfg w act
        { w with
          allocators := Function.update w.allocators prep.profileName allocator
          ipConfig := Function.update w.ipConfig prep ip }
  | configured {prep : ClonePrep} {node : String}
      (hmoving : moving w.sys act = some (.cloneConfigure prep node)) (hip : w.ipConfig prep ≠ "") :
      Changed cfg w act
        { w with
          ipconfig0 := Function.update w.ipconfig0 prep.vmid
            (some { profile := prep.profileName, ip := w.ipConfig prep }) }
  | restarted (hcrash : act = .crash) :
      Changed cfg w act
        { w with
          allocators := fun profile ↦ ipamFromProfileNetwork (cfg.ipam profile)
          ipConfig := fun _ ↦ ""
          releasing := [] }
  /-- Nothing but a destroy that comes to its release. -/
  | kept {releasing : List (String × VMID)} (hcrash : act ≠ .crash)
      (hipam : ∀ prep, moving w.sys act = some (.cloneIpam prep) → act.succeeds = false) :
      Changed cfg w act { w with releasing := releasing }

theorem changed_of_after (h : w.after cfg act applied = some w') : Changed cfg w act w' := by
  unfold after at h
  split at h
  next task hmoving =>
    have hcrash : act ≠ .crash := by
      rintro rfl
      cases hmoving
    have hkept (htask : ∀ prep, task = .cloneIpam prep → act.succeeds = false) : Changed cfg w act w :=
      .kept hcrash fun prep hmoving' ↦ htask prep (Option.some.inj (hmoving.symm.trans hmoving'))
    cases task with
    | cloneIpam prep =>
      simp only [afterTask] at h
      split at h
      next ip allocator hallocate =>
        split_ifs at h
        cases h
        exact .allocated hmoving hallocate
      next =>
        split_ifs at h with hsucceeds
        cases h
        exact hkept fun _ _ ↦ eq_false_of_ne_true hsucceeds
    | cloneConfigure prep node =>
      simp only [afterTask] at h
      split_ifs at h with hreaches
      · cases h
        exact .configured hmoving hreaches.2.2.2
      · cases h
        exact hkept fun _ htask ↦ by cases htask
    | destroyRow request sync =>
      cases sync <;> cases h
      · exact .kept hcrash fun prep hmoving' ↦ by cases hmoving.symm.trans hmoving'
      · exact hkept fun _ htask ↦ by cases htask
    | _ =>
      cases h
      exact hkept fun _ htask ↦ by cases htask
  next hmoving =>
    split at h
    · cases h
      exact .restarted rfl
    next hcrash =>
      cases h
      exact .kept hcrash fun prep hmoving' ↦ by cases hmoving.symm.trans hmoving'

/-! ## The invariant -/

/-- The address of every VM and of every clone under way is leased to its VMID. -/
structure Leased (w : LeasedSys) : Prop where
  cloning : ∀ prep, (∃ task ∈ w.sys.threads, task.cloning = some prep) → w.ipConfig prep ≠ "" →
    (w.allocators prep.profileName).lease prep.vmid = some (w.ipConfig prep)
  carried : ∀ v assigned, w.ipconfig0 v = some assigned →
    (w.allocators assigned.profile).lease v = some assigned.ip
  there : ∀ v assigned, w.ipconfig0 v = some assigned → (w.sys.shared.cluster.get v).isSome = true

/-- No VM carries the address that is leased to the VMID, and no worker clones with it. -/
def Unheld (w : LeasedSys) (profile : String) (v : VMID) : Prop :=
  (∀ assigned ∈ w.ipconfig0 v, assigned.profile ≠ profile) ∧
    ∀ task ∈ w.sys.threads, ∀ prep ∈ task.cloning, prep.profileName = profile → prep.vmid ≠ v

instance (w : LeasedSys) (profile : String) (v : VMID) : Decidable (w.Unheld profile v) :=
  inferInstanceAs (Decidable (_ ∧ _))

/-- The lease that is released in this step. -/
def due (w : LeasedSys) : LeasedAct → Option (String × VMID)
  | .release i => w.releasing[i]?
  | _ => none

/-- A process ends only when no VM carries an address, and a lease is released only when nobody holds its
address. -/
def KeepsLeases (w : LeasedSys) (a : LeasedAct) (_ : LeasedSys) : Prop :=
  (a.crashes = true → ∀ guest ∈ w.sys.shared.cluster.rows, w.ipconfig0 guest.vmid = none) ∧
    ∀ lease ∈ w.due a, w.Unheld lease.1 lease.2

instance (w : LeasedSys) (a : LeasedAct) (w' : LeasedSys) : Decidable (w.KeepsLeases a w') :=
  inferInstanceAs (Decidable (_ ∧ _))

/-- No two VMs of one profile carry the same address. -/
def Distinct (w : LeasedSys) : Prop :=
  ∀ v u assigned, (w.sys.shared.cluster.get v).isSome = true → (w.sys.shared.cluster.get u).isSome = true →
    w.ipconfig0 v = some assigned → w.ipconfig0 u = some assigned → v = u

theorem Leased.distinct (hinv : Leased w) : w.Distinct := by
  intro v u assigned _ _ hv hu
  exact Allocator.lease_injective (hinv.carried v assigned hv) (hinv.carried u assigned hu)

theorem Leased.released (hinv : Leased w) {profile : String} {v : VMID} {releasing : List (String × VMID)}
    (hunheld : w.Unheld profile v) :
    Leased { w with
      allocators := Function.update w.allocators profile ((w.allocators profile).release v)
      releasing := releasing } := by
  have hkept (other : String) (u : VMID) (h : other = profile → u ≠ v) :
      (Function.update w.allocators profile ((w.allocators profile).release v) other).lease u =
        (w.allocators other).lease u := by
    by_cases hother : other = profile
    · subst hother
      rw [Function.update_self, Allocator.lease_release_of_ne (h rfl)]
    · rw [Function.update_of_ne hother]
  refine ⟨fun prep hcloning hip ↦ ?_, fun u assigned hu ↦ ?_, hinv.there⟩
  · obtain ⟨task, hmem, htask⟩ := hcloning
    exact (hkept _ _ (hunheld.2 task hmem prep htask)).trans (hinv.cloning prep ⟨task, hmem, htask⟩ hip)
  · refine (hkept _ _ fun hprofile huv ↦ ?_).trans (hinv.carried u assigned hu)
    subst huv
    exact hunheld.1 assigned hu hprofile

/-- What is leased stays so in every step that is not the end of the process. -/
theorem Changed.lease (h : Changed cfg w act w') (hcrash : act ≠ .crash) {profile ip : String}
    (hlease : (w.allocators profile).lease v = some ip) : (w'.allocators profile).lease v = some ip := by
  cases h with
  | @allocated prep _ allocator hmoving hallocate =>
    dsimp only
    by_cases hprofile : profile = prep.profileName
    · subst hprofile
      rw [Function.update_self]
      exact (Allocator.allocate_eq_ok hallocate).2 v ip hlease
    · rw [Function.update_of_ne hprofile]
      exact hlease
  | configured => exact hlease
  | restarted hcrash' => exact absurd hcrash' hcrash
  | kept => exact hlease

/-- A worker that has just taken its address, or clones on, has it leased. -/
theorem Changed.cloning (h : Changed cfg w act w') (hinv : Leased w)
    (hfrom : (act ≠ .crash ∧ ∃ task ∈ w.sys.threads, task.cloning = some prep) ∨
      (moving w.sys act = some (.cloneIpam prep) ∧ act.succeeds))
    (hip : w'.ipConfig prep ≠ "") :
    (w'.allocators prep.profileName).lease prep.vmid = some (w'.ipConfig prep) := by
  have hkept (hsame : w'.ipConfig prep = w.ipConfig prep)
      (hmoving : moving w.sys act ≠ some (.cloneIpam prep) ∨ act.succeeds = false) :
      (w'.allocators prep.profileName).lease prep.vmid = some (w'.ipConfig prep) := by
    rw [hsame] at hip ⊢
    rcases hfrom with ⟨hcrash, hold⟩ | ⟨hipam, hsucceeds⟩
    · exact h.lease hcrash (hinv.cloning prep hold hip)
    · simp [hipam, hsucceeds] at hmoving
  cases h with
  | @allocated other ip allocator hmoving hallocate =>
    by_cases hprep : prep = other
    · subst hprep
      dsimp only at hip ⊢
      rw [Function.update_self] at hip
      rw [Function.update_self, Function.update_self]
      exact (Allocator.allocate_eq_ok hallocate).1 hip
    · refine hkept (Function.update_of_ne hprep _ _) (.inl fun hmoving' ↦ hprep ?_)
      cases hmoving.symm.trans hmoving'
      rfl
  | configured hmoving => exact hkept rfl (.inl fun hmoving' ↦ by cases hmoving.symm.trans hmoving')
  | restarted => exact absurd rfl hip
  | kept _ hipam =>
    by_cases hmoving : moving w.sys act = some (.cloneIpam prep)
    · exact hkept rfl (.inr (hipam prep hmoving))
    · exact hkept rfl (.inl hmoving)

/-- An address that a VM carries was leased already, or is the one of the worker that has just written it. -/
theorem Changed.carried (h : Changed cfg w act w') (hinv : Leased w)
    (hcrash : act = .crash → ∀ guest ∈ w.sys.shared.cluster.rows, w.ipconfig0 guest.vmid = none)
    {assigned : Assignment} (hv : w'.ipconfig0 v = some assigned) :
    (w'.allocators assigned.profile).lease v = some assigned.ip := by
  by_cases hsame : w.ipconfig0 v = some assigned
  · by_cases hends : act = .crash
    · obtain ⟨guest, hguest⟩ := Option.isSome_iff_exists.mp (hinv.there v assigned hsame)
      have hvmid : guest.vmid = v := Table.key_of_get hguest
      subst hvmid
      have hnone := hcrash hends guest (Table.mem_rows.mpr hguest)
      cases hnone.symm.trans hsame
    · exact h.lease hends (hinv.carried v assigned hsame)
  · cases h with
    | @configured prep node hmoving hip =>
      dsimp only at hv ⊢
      by_cases hvmid : v = prep.vmid
      · subst hvmid
        rw [Function.update_self, Option.some.injEq] at hv
        subst hv
        exact hinv.cloning prep ⟨_, mem_threads_of_moving hmoving, rfl⟩ hip
      · rw [Function.update_of_ne hvmid] at hv
        exact absurd hv hsame
    | _ => exact absurd hv hsame

theorem Leased.step (hinv : Leased w) (hstep : step cfg w a = some w') (hkeeps : KeepsLeases w a w') :
    Leased w' := by
  cases a with
  | pool act applied =>
    obtain ⟨sys, hsys, hmapped⟩ := Option.bind_eq_some_iff.mp hstep
    obtain ⟨after, hafter, rfl⟩ := Option.map_eq_some_iff.mp hmapped
    have hchanged := changed_of_after hafter
    have hcrash : act = .crash → ∀ guest ∈ w.sys.shared.cluster.rows, w.ipconfig0 guest.vmid = none := by
      rintro rfl
      exact hkeeps.1 rfl
    have hthere (v : VMID) (assigned : Assignment) (hv : (after.settle sys).ipconfig0 v = some assigned) :
        after.ipconfig0 v = some assigned ∧ (sys.shared.cluster.get v).isSome = true := by
      simp only [settle] at hv
      split_ifs at hv with hguest
      exact ⟨hv, hguest⟩
    refine ⟨fun prep hcloning hip ↦ ?_, fun v assigned hv ↦ ?_, fun v assigned hv ↦ (hthere v assigned hv).2⟩
    · exact hchanged.cloning hinv (cloning_step hsys hcloning) hip
    · exact hchanged.carried hinv hcrash (hthere v assigned hv).1
  | release i =>
    simp only [LeasedSys.step] at hstep
    split at hstep
    · cases hstep
    next profile v hreleasing =>
      cases hstep
      exact hinv.released (hkeeps.2 (profile, v) hreleasing)

theorem leased_init (cfg : LeasedConfig) (cluster : Provisioner.Cluster) (runners : Gh.Runners)
    (now : Time) : Leased (init cfg cluster runners now) := by
  refine ⟨fun prep _ hip ↦ absurd rfl hip, fun _ _ h ↦ ?_, fun _ _ h ↦ ?_⟩ <;> cases h

/-- On every run, over any number of processes, in which no process ends while a VM carries an address and
no lease is released that a VM or a clone worker still holds, no two VMs of a profile carry the same
address. -/
theorem addresses_distinct {cluster : Provisioner.Cluster} {runners : Gh.Runners} {now : Time}
    (hkeeps : Along (step cfg) KeepsLeases (init cfg cluster runners now) labels)
    (hrun : run (step cfg) (init cfg cluster runners now) labels = some w) : w.Distinct := by
  have hinv := invariant_of_along Leased (fun _ _ _ hinv hmeets hstep ↦ hinv.step hstep hmeets)
    (leased_init cfg cluster runners now) hkeeps hrun
  exact hinv.distinct

end LeasedSys

/-! ### Two clones -/

/-- The scale set `ci` whose default profile has two addresses. -/
def twoAddresses : LeasedConfig where
  pool := smallPool
  ipam profile :=
    if profile = "default" then some { backend := "static", pool := ["10.0.0.10/24", "10.0.0.11/24"] }
    else none

/-- Steps of the pool in which every call does what it reports. -/
def plainly (acts : List Act) : List LeasedAct := acts.map (.pool · false)

/-- Two VMs are cloned; the first is force-destroyed, and its lease goes back. -/
def cloneTwice : List LeasedAct :=
  plainly (adoptNothing ++ cloneOne .warm false ++ cloneOne .warm false ++
    [.call (.forceDestroy 10000), .fire 0 .ok, .fire 0 .ok, .fire 0 .ok, .dispatch] ++
    List.replicate 4 (.fire 0 .ok)) ++ [.release 0] ++ plainly (cloneOne .warm false)

theorem addresses_distinct_cloneTwice :
    ∃ w ∈ run (LeasedSys.step twoAddresses) (LeasedSys.init twoAddresses .empty ∅ Store.second) cloneTwice,
      w.ipconfig0 10001 = some ⟨"default", "10.0.0.11/24"⟩ ∧
      w.ipconfig0 10002 = some ⟨"default", "10.0.0.10/24"⟩ ∧ w.Distinct := by
  obtain ⟨w, hrun, hfirst, hsecond⟩ :
      ∃ w ∈ run (LeasedSys.step twoAddresses) (LeasedSys.init twoAddresses .empty ∅ Store.second)
        cloneTwice, w.ipconfig0 10001 = some ⟨"default", "10.0.0.11/24"⟩ ∧
          w.ipconfig0 10002 = some ⟨"default", "10.0.0.10/24"⟩ := by
    decide +kernel
  have hkeeps : Along (LeasedSys.step twoAddresses) LeasedSys.KeepsLeases
      (LeasedSys.init twoAddresses .empty ∅ Store.second) cloneTwice := by
    decide +kernel
  exact ⟨w, hrun, hfirst, hsecond, LeasedSys.addresses_distinct hkeeps hrun⟩

/-- A VM is cloned, the process ends, the next one adopts the VM and clones another. -/
def cloneRestartClone : List LeasedAct :=
  plainly (adoptNothing ++ cloneOne .warm false ++ [.crash] ++ List.replicate 4 (.fire 0 .ok) ++
    [.fire 0 (.power (some .stopped)), .fire 0 .ok, .fire 0 .ok] ++ cloneOne .warm false)

/-- The VM that was adopted as Warm and the clone made after it have the same address. -/
theorem adopted_address_given_again :
    ∃ w ∈ run (LeasedSys.step twoAddresses) (LeasedSys.init twoAddresses .empty ∅ Store.second)
      cloneRestartClone,
      (∃ row ∈ w.sys.shared.store.get 10000, row.state = .warm) ∧
      (w.sys.shared.cluster.get 10000).isSome = true ∧ (w.sys.shared.cluster.get 10001).isSome = true ∧
      w.ipconfig0 10000 = some ⟨"default", "10.0.0.10/24"⟩ ∧
      w.ipconfig0 10001 = some ⟨"default", "10.0.0.10/24"⟩ := by
  decide +kernel

end ScalesetProxmox.Pool
