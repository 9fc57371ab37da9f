import ScalesetProxmox.Pool.Recycling
import ScalesetProxmox.Provisioner.Firewall

/-!
# The sandbox of the VMs that are handed out

The pool together with what Proxmox keeps of its VMs' firewalls. `Clone` and `Start` are the scripts of
the provisioner, run on the VM that the worker names with calls that end in any way; a rollback brings
back the NICs of the snapshot; a VM that others create can be in any state, and so can those that an
earlier process has left.

Every row becomes Hot by a boot worker, whose VM has been through one of the two scripts, or by adoption,
which looks at the power state and the runner only. A VM that was running before the firewall was turned
on is handed out as it is: `adopted_outside_sandbox`. `hands_out_sandboxed` is the result for the runs in
which adoption finds no such VM and every VM stays with the row and the worker it was made for.
-/

namespace ScalesetProxmox.Pool

open Store (VMID Time)
open Transition
open Provisioner (Api Machine Nets Fault CloneConfig CloneOptions configureClone proxmox)

/-! ## Pool and firewalls -/

/-- A pool whose provisioner has the firewall on. `options` is what a profile asks of its clones. -/
structure FencedConfig where
  pool : Config
  provisioner : CloneConfig
  firewall_on : provisioner.firewall.enabled = true
  options : ClonePrep → CloneOptions
  located : VMID → String

structure FencedSys where
  sys : Sys
  machines : VMID → Machine
  /-- The NICs as they were when the VM was snapshotted. -/
  snapshots : VMID → Nets

/-- A step of the pool, with what is open about the Proxmox calls in it: how they end, the NICs of a new
clone, a VM that others create, and whether a failed snapshot or rollback call has taken effect. -/
structure FencedAct where
  act : Act
  outcomes : List (Calls.Outcome Fault) := []
  nets : Nets := .empty
  machine : Machine := {}
  applied : Bool := false

/-- A call on the VM of `v` takes effect. -/
def FencedAct.reaches (a : FencedAct) (sys : Sys) (v : VMID) (node : String) : Bool :=
  (a.act.succeeds || a.applied) && (sys.shared.cluster.find v node).isSome

namespace FencedSys

def setMachine (w : FencedSys) (v : VMID) (machine : Machine) : FencedSys :=
  { w with machines := Function.update w.machines v machine }

/-- A script of the provisioner runs on the VM of `v`, if it is on `node`. It succeeds if and only if the
pool is told so. -/
def runScript (cfg : FencedConfig) (w : FencedSys) (a : FencedAct) (script : Api Unit) (v : VMID)
    (node : String) : Option FencedSys :=
  if (w.sys.shared.cluster.find v node).isNone then
    some w
  else
    let ended := script.exec (proxmox a.nets cfg.located) (w.machines v) a.outcomes
    match ended.2 with
    | none => none
    | some (.ok _) => if a.act.succeeds then some (w.setMachine v ended.1) else none
    | some (.error _) => if a.act.succeeds then none else some (w.setMachine v ended.1)

/-- What the firewalls are after a task's step. -/
def afterTask (cfg : FencedConfig) (w : FencedSys) (a : FencedAct) : Task → Option FencedSys
  | .cloneIssue prep =>
    if a.act.succeeds && (w.sys.shared.cluster.get prep.vmid).isNone then
      some (w.setMachine prep.vmid { w.machines prep.vmid with nets := a.nets, running := false })
    else
      some w
  | .cloneConfigure prep node =>
    w.runScript cfg a
      (configureClone cfg.provisioner (cfg.options prep) node (w.machines prep.vmid).nets) prep.vmid node
  | .bootStart boot =>
    w.runScript cfg a
      (Provisioner.start cfg.provisioner
        { vmid := boot.row.vmid, node := boot.node, name := boot.row.name, profile := boot.row.profile })
      boot.row.vmid boot.node
  | .cloneSnapshot prep node =>
    if a.reaches w.sys prep.vmid node then
      some { w with snapshots := Function.update w.snapshots prep.vmid (w.machines prep.vmid).nets }
    else
      some w
  | .rollbackSnapshot vm =>
    if a.reaches w.sys vm.vmid vm.node then
      some (w.setMachine vm.vmid { w.machines vm.vmid with nets := w.snapshots vm.vmid })
    else
      some w
  | _ => some w

/-- The same for any step of the pool. -/
def after (cfg : FencedConfig) (w : FencedSys) (a : FencedAct) : Option FencedSys :=
  match moving w.sys a.act with
  | some task => w.afterTask cfg a task
  | none =>
    match a.act.creates with
    | some guest =>
      some { w.setMachine guest.vmid a.machine with
        snapshots := Function.update w.snapshots guest.vmid a.nets }
    | none => some w

def step (cfg : FencedConfig) (w : FencedSys) (a : FencedAct) : Option FencedSys :=
  (Pool.step cfg.pool w.sys a.act).bind fun sys ↦ (w.after cfg a).map fun after ↦ { after with sys := sys }

/-- A first process, and VMs in any state. -/
def init (cluster : Provisioner.Cluster) (runners : Gh.Runners) (now : Time) (machines : VMID → Machine)
    (snapshots : VMID → Nets) : FencedSys where
  sys := Pool.init cluster runners now
  machines := machines
  snapshots := snapshots

end FencedSys

/-! ## What a step does to the VMs -/

variable {cfg : FencedConfig} {w w' : FencedSys} {a : FencedAct} {task : Task} {reply : Reply} {v : VMID}
  {node : String}

/-- The VM that the task's step can change for better or worse. -/
def Task.alters : Task → Option VMID
  | .cloneIssue prep | .cloneConfigure prep _ => some prep.vmid
  | .bootStart boot => some boot.row.vmid
  | .rollbackSnapshot vm => some vm.vmid
  | _ => none

/-- The VM, and its node, that the task's step sandboxes if it succeeds. -/
def Task.sandboxes : Task → Option (VMID × String)
  | .cloneConfigure prep node => some (prep.vmid, node)
  | .bootStart boot => some (boot.row.vmid, boot.node)
  | _ => none

/-- The VM that the task's worker has sandboxed. -/
def Task.sandboxed : Task → Option VMID
  | .clonePower prep _ | .cloneSnapshot prep _ | .cloneUpdate prep _ _ => some prep.vmid
  | .bootWait boot | .bootHot boot => some boot.row.vmid
  | _ => none

theorem prepares_of_sandboxed (h : task.sandboxed = some v) : task.prepares = some v := by
  cases task <;> first | exact h | cases h

theorem alters_eq_none_of_sandboxed (h : task.sandboxed = some v) : task.alters = none := by
  cases task <;> first | rfl | cases h

theorem attends_of_alters (h : task.alters = some v) :
    task.prepares = some v ∨ task.rollsBack = some v := by
  cases task <;> first | exact .inl h | exact .inr h

theorem creates_eq_none_of_moving {sys : Sys} {act : Act} (h : moving sys act = some task) :
    act.creates = none := by
  cases act <;> first | rfl | cases h

namespace FencedSys

theorem step_eq_some (h : step cfg w a = some w') :
    Pool.step cfg.pool w.sys a.act = some w'.sys ∧
      ∃ after, w.after cfg a = some after ∧ w'.machines = after.machines := by
  obtain ⟨sys, hsys, hmapped⟩ := Option.bind_eq_some_iff.mp h
  obtain ⟨after, hafter, rfl⟩ := Option.map_eq_some_iff.mp hmapped
  exact ⟨hsys, after, hafter, rfl⟩

theorem machines_setMachine_ne {machine : Machine} {u : VMID} (h : v ≠ u) :
    (w.setMachine u machine).machines v = w.machines v := Function.update_of_ne h _ _

theorem machines_setMachine_self {machine : Machine} : (w.setMachine v machine).machines v = machine :=
  Function.update_self _ _ _

/-- A script changes no VM but its own. -/
theorem runScript_machines {script : Api Unit} {u : VMID} {after : FencedSys}
    (h : w.runScript cfg a script u node = some after) (hv : v ≠ u) :
    after.machines v = w.machines v := by
  unfold runScript at h
  split at h
  · cases h
    rfl
  · dsimp only at h
    split at h
    · cases h
    · split at h
      · cases h
        exact machines_setMachine_ne hv
      · cases h
    · split at h
      · cases h
      · cases h
        exact machines_setMachine_ne hv

theorem runScript_succeeds {script : Api Unit} {after : FencedSys}
    (h : w.runScript cfg a script v node = some after) (hfound : (w.sys.shared.cluster.find v node).isSome)
    (hok : a.act.succeeds) :
    script.exec (proxmox a.nets cfg.located) (w.machines v) a.outcomes =
      (after.machines v, some (.ok ())) := by
  have hthere : ¬(w.sys.shared.cluster.find v node).isNone := by
    rw [Option.isNone_iff_eq_none]
    exact Option.isSome_iff_ne_none.mp hfound
  unfold runScript at h
  rw [if_neg hthere] at h
  dsimp only at h
  split at h
  · cases h
  · next result hresult =>
    rw [if_pos hok] at h
    cases h
    exact Prod.ext machines_setMachine_self.symm hresult
  · rw [if_pos hok] at h
    cases h

/-- A VM changes only by the step of a worker that is on it, or by other hands. -/
theorem machines_step (h : step cfg w a = some w') (v : VMID)
    (htask : ∀ task, moving w.sys a.act = some task → task.alters ≠ some v)
    (hothers : ∀ guest, a.act.creates = some guest → guest.vmid ≠ v) :
    w'.machines v = w.machines v := by
  obtain ⟨-, after, hafter, hmachines⟩ := step_eq_some h
  rw [hmachines]
  unfold FencedSys.after at hafter
  split at hafter
  · next task hmoving =>
    have halters := htask task hmoving
    cases task with
    | cloneIssue | rollbackSnapshot =>
      simp only [afterTask] at hafter
      split at hafter
      · cases hafter
        exact machines_setMachine_ne fun hv ↦ halters (congrArg some hv.symm)
      · cases hafter
        rfl
    | cloneConfigure prep node =>
      exact runScript_machines hafter fun hv ↦ halters (congrArg some hv.symm)
    | bootStart boot => exact runScript_machines hafter fun hv ↦ halters (congrArg some hv.symm)
    | cloneSnapshot prep node =>
      simp only [afterTask] at hafter
      split at hafter <;> (cases hafter; rfl)
    | _ =>
      cases hafter
      rfl
  · split at hafter
    · next guest hcreates =>
      cases hafter
      exact machines_setMachine_ne (hothers guest hcreates).symm
    · cases hafter
      rfl

/-- A worker that has configured or started a VM has sandboxed it. -/
theorem sandboxed_step (h : step cfg w a = some w') (hmoving : moving w.sys a.act = some task)
    (hsandboxes : task.sandboxes = some (v, node)) (hok : a.act.succeeds)
    (hfound : (w.sys.shared.cluster.find v node).isSome) :
    (w'.machines v).Sandboxed cfg.provisioner.firewall := by
  obtain ⟨-, after, hafter, hmachines⟩ := step_eq_some h
  rw [hmachines]
  unfold FencedSys.after at hafter
  rw [hmoving] at hafter
  cases task with
  | cloneConfigure prep node =>
    cases hsandboxes
    have hexec := runScript_succeeds hafter hfound hok
    exact Provisioner.sandboxed_of_configureClone cfg.firewall_on hexec
  | bootStart boot =>
    cases hsandboxes
    have hexec := runScript_succeeds hafter hfound hok
    exact Provisioner.sandboxed_of_start cfg.firewall_on hexec
  | _ => cases hsandboxes

end FencedSys

/-- A worker has sandboxed its VM by one of its steps. -/
@[irreducible]
def SandboxedFrom (s : Shared) (reply : Reply) (task other : Task) : Prop :=
  ∀ v, other.sandboxed = some v → task.sandboxed = some v ∨
    (reply = .ok ∧ ∃ node, task.sandboxes = some (v, node) ∧ (s.cluster.find v node).isSome = true)

theorem sandboxedFrom_of_none {s : Shared} {other : Task} (h : other.sandboxed = none) :
    SandboxedFrom s reply task other := by
  unfold SandboxedFrom
  simp [h]

theorem sandboxedFrom_next {cfg : Config} {s s' : Shared} :
    (task.action cfg reply).Next cfg s s' (List.Forall (SandboxedFrom s reply task)) := by
  refine next_of_parts [.clone, .boot] (fun other hother ↦ sandboxedFrom_of_none ?_) fun hpart ↦ ?_
  · cases other <;> first | rfl | cases hother
  cases task with
  | cloneConfigure prep node =>
    dsimp
    split
    · refine ⟨fun guest hguest ↦ ?_, by simp [SandboxedFrom, Task.sandboxed]⟩
      simp [SandboxedFrom, Task.sandboxed, Task.sandboxes, hguest]
    · simp [Action.Next, SandboxedFrom, Task.sandboxed]
  | bootStart boot =>
    cases reply with
    | ok =>
      refine ⟨fun guest hguest ↦ ?_, by simp [SandboxedFrom, Task.sandboxed]⟩
      simp [SandboxedFrom, Task.sandboxed, Task.sandboxes, hguest]
    | _ => simp [Action.Next, startAction, SandboxedFrom, Task.sandboxed]
  | cloneUpdate prep node hasSnapshot =>
    refine ⟨fun row hold _ _ ↦ ?_, fun err ↦ ?_⟩
    · have hvmid : row.vmid = prep.vmid := Table.key_of_get hold
      dsimp
      (repeat' split) <;> simp_all [SandboxedFrom, Task.sandboxed]
    · cases err <;> simp [SandboxedFrom, Task.sandboxed]
  | _ =>
    first
    | cases hpart; done
    | dsimp
      (repeat' split) <;> dsimp [Action.Next] <;>
        (repeat' first | split | apply And.intro | intro _) <;>
        first
        | trivial
        | exact sandboxedFrom_of_none rfl
        | simp [SandboxedFrom, Task.sandboxed]

namespace FencedSys

/-! ## The invariant -/

def Contained (cfg : FencedConfig) (w : FencedSys) (v : VMID) : Prop :=
  (w.sys.shared.cluster.get v).isSome = true → (w.machines v).Sandboxed cfg.provisioner.firewall

instance (cfg : FencedConfig) (w : FencedSys) (v : VMID) : Decidable (Contained cfg w v) :=
  inferInstanceAs (Decidable (_ → _))

/-- A VM that is adopted as Hot is sandboxed, a new row's VMID has no worker left over, and nobody else
creates a VM under the VMID of a row. -/
def KeepsFence (cfg : FencedConfig) (w : FencedSys) (a : FencedAct) (w' : FencedSys) : Prop :=
  (∀ inserted ∈ (moving w.sys a.act).bind Task.insertsAs, inserted.2 = .hot →
    Contained cfg w inserted.1) ∧
  InsertsFree w.sys a.act w'.sys ∧
  ∀ guest ∈ a.act.creates, w.sys.shared.store.get guest.vmid = none

instance (cfg : FencedConfig) (w : FencedSys) (a : FencedAct) (w' : FencedSys) :
    Decidable (KeepsFence cfg w a w') :=
  inferInstanceAs (Decidable ((∀ _ ∈ _, _ → _) ∧ _ ∧ ∀ _ ∈ _, _))

/-- The VM of every row that leaves Hot for a job is sandboxed. -/
def HandsOutContained (cfg : FencedConfig) (w : FencedSys) (_ : FencedAct) (w' : FencedSys) : Prop :=
  ∀ row ∈ w.sys.shared.store.rows, handsOut row.vmid w.sys w'.sys = true → Contained cfg w row.vmid

instance (cfg : FencedConfig) (w : FencedSys) (a : FencedAct) (w' : FencedSys) :
    Decidable (HandsOutContained cfg w a w') :=
  inferInstanceAs (Decidable (∀ _ ∈ _, _ → _))

/-- Every guest has at most one worker, and the VMs of Hot rows and those that a worker has sandboxed for
a row are. -/
structure Secured (cfg : FencedConfig) (w : FencedSys) : Prop extends Attended w.sys where
  hot : ∀ (v : VMID) (row : Store.VM), w.sys.shared.store.get v = some row → row.state = .hot →
    Contained cfg w v
  worker : ∀ task ∈ w.sys.threads, ∀ v, task.sandboxed = some v →
    (w.sys.shared.store.get v).isSome = true → Contained cfg w v

theorem secured_init (cluster : Provisioner.Cluster) (runners : Gh.Runners) (now : Time)
    (machines : VMID → Machine) (snapshots : VMID → Nets) :
    Secured cfg (init cluster runners now machines snapshots) :=
  ⟨attended_init cluster runners now, by simp [init, Pool.init], by simp [init, Pool.init, Task.sandboxed]⟩

/-- A VM stays sandboxed unless a worker or others are on it. -/
theorem contained_step (h : step cfg w a = some w') (hcontained : Contained cfg w v)
    (htask : ∀ task, moving w.sys a.act = some task → task.alters ≠ some v)
    (hothers : ∀ guest, a.act.creates = some guest → guest.vmid ≠ v) : Contained cfg w' v := by
  intro hguest
  rw [machines_step h v htask hothers]
  apply hcontained
  obtain ⟨hstep, -⟩ := step_eq_some h
  rcases step_guest hstep v with hsame | ⟨task, hmoving, hmove⟩ | hevent
  · rwa [hsame] at hguest
  · have halters := htask task hmoving
    generalize w.sys.shared.cluster.get v = old at hmove
    generalize w'.sys.shared.cluster.get v = new at hmove
    cases hmove with
    | clone hprep => exact absurd (congrArg some hprep) halters
    | _ => rfl
  · generalize w.sys.shared.cluster.get v = old at hevent
    generalize w'.sys.shared.cluster.get v = new at hevent hguest
    generalize hact : a.act = act at hevent
    cases hevent with
    | create => exact absurd rfl (hothers _ (by rw [hact]; rfl))
    | remove => cases hguest
    | _ => rfl

section Step

variable (hinv : Secured cfg w) (h : step cfg w a = some w') (hkeeps : KeepsFence cfg w a w')

include hinv h hkeeps

theorem worker_kept (htask : task ∈ w.sys.threads) (hv : task.sandboxed = some v)
    (hapart : ∀ acting, moving w.sys a.act = some acting → acting.alters ≠ some v)
    (hrow : (w'.sys.shared.store.get v).isSome) : Contained cfg w' v := by
  obtain ⟨hstep, -⟩ := step_eq_some h
  have hold : (w.sys.shared.store.get v).isSome := by
    obtain ⟨row, hrow⟩ := Option.isSome_iff_exists.mp hrow
    rcases step_row_some hstep hrow with
      hsame | ⟨reply, acting, hmoving, ⟨old, hold, -⟩ | ⟨hnone, hrowStep⟩⟩
    · rw [hsame, Option.isSome_some]
    · rw [hold, Option.isSome_some]
    · -- a row is inserted only when no worker is left over
      have hinserts := insertsAs_of_rowStep hrowStep
      have hfree := hkeeps.2.1 (v, row.state) (by simp [hmoving, hinserts]) hnone task htask
      exact absurd (prepares_of_sandboxed hv) hfree.1
  refine contained_step h (hinv.worker task htask v hv hold) hapart fun guest hguest hvmid ↦ ?_
  have hnone := hkeeps.2.2 guest hguest
  rw [hvmid] at hnone
  rw [hnone] at hold
  cases hold

theorem hot_kept {row : Store.VM} (hrow : w.sys.shared.store.get v = some row) (hhot : row.state = .hot) :
    Contained cfg w' v := by
  refine contained_step h (hinv.hot v row hrow hhot) ?_ ?_
  · intro acting hmoving halters
    have hmem := mem_threads_of_moving hmoving
    rcases attends_of_alters halters with hprepares | hrolls
    · have hpreparing := hinv.preparing acting hmem v hprepares row hrow
      rw [hhot] at hpreparing
      cases hpreparing
    · have hrolling := (hinv.rolling acting hmem v hrolls).2 row hrow
      rw [hhot] at hrolling
      cases hrolling
  · intro guest hguest hvmid
    have hnone := hkeeps.2.2 guest hguest
    rw [hvmid, hrow] at hnone
    cases hnone

/-- A row becomes Hot by a boot worker or by adoption. -/
theorem hot_step {row : Store.VM} (hrow : w'.sys.shared.store.get v = some row)
    (hhot : row.state = .hot) : Contained cfg w' v := by
  obtain ⟨hstep, -⟩ := step_eq_some h
  rcases step_row_some hstep hrow with
    hsame | ⟨reply, acting, hmoving, ⟨old, hold, hrowStep⟩ | ⟨hnone, hrowStep⟩⟩
  · exact hot_kept hinv h hkeeps hsame hhot
  · rcases rowStep_move hrowStep with hmove | hblind
    · rw [hhot] at hmove
      generalize hstate : old.state = source at hmove
      cases hmove
      exact hot_kept hinv h hkeeps hold hstate
    · have hsandboxed : acting.sandboxed = some v := by
        rw [hhot] at hblind
        cases acting with
        | bootHot boot =>
          cases hblind
          rfl
        | cloneUpdate prep node hasSnapshot =>
          simp only [Task.blindWrite, Option.some.injEq, Prod.mk.injEq] at hblind
          split at hblind <;> cases hblind.2
        | _ => cases hblind
      refine worker_kept hinv h hkeeps (mem_threads_of_moving hmoving) hsandboxed ?_ (by simp [hrow])
      intro other hother
      cases hmoving.symm.trans hother
      rw [alters_eq_none_of_sandboxed hsandboxed]
      exact (Option.some_ne_none v).symm
  · have hinserts := insertsAs_of_rowStep hrowStep
    have hcontained := hkeeps.1 (v, row.state) (by simp [hmoving, hinserts]) hhot
    refine contained_step h hcontained ?_ ?_
    · intro other hother
      cases hmoving.symm.trans hother
      cases acting <;> first | cases hinserts | simp [Task.alters]
    · intro guest hguest
      rw [creates_eq_none_of_moving hmoving] at hguest
      cases hguest

theorem worker_step : ∀ task ∈ w'.sys.threads, ∀ v, task.sandboxed = some v →
    (w'.sys.shared.store.get v).isSome → Contained cfg w' v := by
  intro task hmem v hv hrow
  have hbystander : task ∈ bystanders w.sys a.act → Contained cfg w' v := by
    intro hmem
    refine worker_kept hinv h hkeeps (mem_threads_of_bystander hmem) hv ?_ hrow
    intro acting hmoving halters
    rcases attends_of_alters halters with hprepares | hrolls
    · exact hinv.apart_bystanders hmoving task hmem v hprepares (prepares_of_sandboxed hv)
    · have halone := (hinv.rolling acting (mem_threads_of_moving hmoving) v hrolls).1
      exact halone task (mem_threads_of_bystander hmem) (prepares_of_sandboxed hv)
  obtain ⟨hstep, -⟩ := step_eq_some h
  have hcall (other : Task) (hcallable : callable w.sys.shared other) : other.sandboxed = none := by
    cases other <;> first | rfl | cases hcallable
  rcases tagged_step hstep hmem hv hcall (fun _ ↦ rfl) rfl with
    ⟨_, hold⟩ | ⟨i, reply, acting, next, hact, hthread, hexec, hnext⟩
  · exact hbystander hold
  · have hmoving : moving w.sys a.act = some acting := by
      rw [hact]
      exact hthread
    have hfrom := exec_forall hexec sandboxedFrom_next hnext
    unfold SandboxedFrom at hfrom
    rcases hfrom v hv with hsame | ⟨rfl, node, hsandboxes, hfound⟩
    · refine worker_kept hinv h hkeeps (mem_threads_of_moving hmoving) hsame ?_ hrow
      intro other hother
      cases hmoving.symm.trans hother
      rw [alters_eq_none_of_sandboxed hsame]
      exact (Option.some_ne_none v).symm
    · intro _
      exact sandboxed_step h hmoving hsandboxes (by rw [hact]; rfl) hfound

theorem Secured.step : Secured cfg w' where
  toAttended := hinv.toAttended.step (step_eq_some h).1 hkeeps.2.1
  hot := fun _ _ hrow hhot ↦ hot_step hinv h hkeeps hrow hhot
  worker := worker_step hinv h hkeeps

end Step

theorem Secured.handsOutContained (hinv : Secured cfg w) : HandsOutContained cfg w a w' := by
  intro row hmem hhanded
  have hrow := Table.get_of_mem_rows hmem
  have hhot : row.state = .hot := by
    simp only [handsOut, hrow, Option.any_some, Bool.and_eq_true] at hhanded
    exact of_decide_eq_true hhanded.1
  exact hinv.hot row.vmid row hrow hhot

/-- With the firewall on, in every run of the pool in which only sandboxed VMs are adopted as Hot, no row
is inserted for a VMID that a worker is still busy with and nobody else creates a VM under the VMID of a
row, every VM that is handed to a job is sandboxed at that moment, whatever VMs earlier processes have
left and whichever Proxmox calls fail. -/
theorem hands_out_sandboxed (cfg : FencedConfig) (cluster : Provisioner.Cluster) (runners : Gh.Runners)
    (now : Time) (machines : VMID → Machine) (snapshots : VMID → Nets) (labels : List FencedAct)
    (hkeeps : Along (FencedSys.step cfg) (KeepsFence cfg) (init cluster runners now machines snapshots)
      labels) :
    Along (FencedSys.step cfg) (HandsOutContained cfg) (init cluster runners now machines snapshots)
      labels := by
  refine along_of_invariant (Secured cfg) ?_ (secured_init cluster runners now machines snapshots) hkeeps
  intro w a w' hinv hkeeps hstep
  exact ⟨hinv.handsOutContained, hinv.step hstep hkeeps⟩

/-! ## VMs of an earlier process without a firewall -/

def fencedPool : FencedConfig where
  pool := smallPool
  provisioner := Provisioner.fencedCI
  firewall_on := rfl
  options prep :=
    { newVMID := prep.vmid, node := prep.node, name := prep.name, poweredOn := prep.poweredOn
      profile := prep.profileName, templateVMID := prep.templateVMID, templateClass := prep.templateClass }
  located _ := "pve1"

def leftBehind (power : Provisioner.Power) : FencedSys :=
  init (Table.empty.put { vmid := 10000, node := "pve1", name := "gh-runner-ci-10000", power := power }) ∅
    Store.second (fun _ ↦ { nets := Provisioner.twoNICs, running := power = .running })
    fun _ ↦ Provisioner.twoNICs

/-- The VM is adopted; Proxmox reports its power state. -/
def adoptLeft (power : Provisioner.Power) : List FencedAct :=
  List.replicate 4 { act := .fire 0 .ok } ++ [{ act := .fire 0 (.power (some power)) }] ++
    List.replicate 2 { act := .fire 0 .ok }

/-- An `Acquire` arrives and takes a Hot row. -/
def acquireHot : List FencedAct := [{ act := .call (.acquire "" 7 4) }, { act := .fire 0 .ok }]

/-- The VM was stopped: it is promoted, and started by a boot worker. -/
def promoteLeft : List FencedAct :=
  [{ act := .call (.promoteN "" 1) }, { act := .fire 0 .ok }, { act := .fire 0 .ok },
    { act := .fire 0 .ok, outcomes := List.replicate 8 .ok }] ++
    List.replicate 3 { act := .fire 0 .ok }

theorem hands_out_sandboxed_promoteLeft :
    (run (FencedSys.step fencedPool) (leftBehind .stopped) (adoptLeft .stopped ++ promoteLeft ++ acquireHot)).any
        (fun w ↦ busyAt w.sys.shared.store 10000) = true ∧
      Along (FencedSys.step fencedPool) (HandsOutContained fencedPool) (leftBehind .stopped)
        (adoptLeft .stopped ++ promoteLeft ++ acquireHot) :=
  ⟨by decide +kernel, hands_out_sandboxed fencedPool _ _ _ _ _ _ (by decide +kernel)⟩

/-- The VM was running: it is adopted as Hot and handed out with no rule, its firewall off and no flag on
its NICs. -/
theorem adopted_outside_sandbox :
    (run (FencedSys.step fencedPool) (leftBehind .running) (adoptLeft .running ++ acquireHot)).any (fun w ↦
        busyAt w.sys.shared.store 10000 &&
          (w.sys.shared.cluster.get 10000).isSome &&
          !decide ((w.machines 10000).Sandboxed Provisioner.fencedCI.firewall)) = true ∧
      ¬Along (FencedSys.step fencedPool) (HandsOutContained fencedPool) (leftBehind .running)
        (adoptLeft .running ++ acquireHot) := by
  decide +kernel

end FencedSys

end ScalesetProxmox.Pool
