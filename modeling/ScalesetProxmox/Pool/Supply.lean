import ScalesetProxmox.Pool.Placement
import ScalesetProxmox.Pool.Preparation

/-!
# What a pass counts as supply

A pass adds up the profile's Hot and Booting rows, its hot Provisioning rows, the clones that are inside
`Clone` and the dispatches in `pendingClones`. A clone worker is in `pendingClones` until it has a row and
in the rows from then on. While it is inside `Clone` it is counted once more, for every profile, and the
places in `pendingClones` are those of the warm clones as well.

`Booked` says who holds the places, `Attended` which worker a Provisioning row belongs to. The supply is
the number of hot VMs and hot clones when no clone is inside `Clone`, every place is held by a hot clone
without a row and no worker has lost its row.
-/

namespace ScalesetProxmox.Pool.Demand

open Store (VMID Time PoolKind)
open Transition

variable {cfg : Config} {c c' : Core} {answer : Answer} {agent : Agent} {agents : List Agent}
  {threads : List Thread} {sys sys' : Sys} {act : Act} {labels : List Act} {profile : String}
  {key : VMID × ℕ} {v : VMID} {row : Store.VM} {task : Task} {reply : Reply} {s s' : Shared}
  {next : List Task} {stage : PassStage} {sizing : Sizing} {t : Thread}

/-! ## Places in `pendingClones` -/

def Agent.clones (profile : String) (kind : PoolKind) : Agent → Bool
  | .admitClone settings cloned | .selectNode settings cloned | .select settings cloned _
  | .reserve settings cloned _ _ | .recordDeferral settings cloned =>
    settings.name = profile ∧ cloned = kind
  | .claimParked settings _ _ | .claimProbe settings _ _ _ _ _ => settings.name = profile ∧ kind = .hot
  | _ => false

/-- The places that the agent has yet to give up. -/
def Agent.places (profile : String) : Agent → ℕ
  | .finish other _ todo => if other = profile then todo.count .releasePending else 0
  | agent => if agent.clones profile .hot || agent.clones profile .warm then 1 else 0

def Thread.places (profile : String) (t : Thread) : ℕ :=
  match t.worker with
  | none => 0
  | some w =>
    if w.profile = profile then (if beforeRow t.task then 1 else 0) + t.todo.count .releasePending else 0

/-- `pendingClones` is the number of places that workers have yet to give up. -/
def Booked (sys : Sys) : Prop :=
  ∀ profile, (sys.core.profiles profile).pendingClones =
    (sys.agents.map (Agent.places profile)).sum + (sys.threads.map (Thread.places profile)).sum

theorem pendingClones_onProfile (ps : ProfileState) (effect : Effect) :
    (effect.onProfile ps).pendingClones = ps.pendingClones - if effect == .releasePending then 1 else 0 := by
  cases effect <;> rfl

/-- A worker takes its place with it, and a dispatch makes a new one. -/
theorem places_advanced (h : Advanced cfg c answer agent c' agents threads)
    (hheld : agent.places profile ≤ (c.profiles profile).pendingClones) :
    (c'.profiles profile).pendingClones + agent.places profile =
      (c.profiles profile).pendingClones + (agents.map (Agent.places profile)).sum +
        (threads.map (Thread.places profile)).sum := by
  cases h with
  | @read settings stage sizing => cases stage <;> simp [readStage, Agent.places, Agent.clones]
  | @kicked settings _ _ _ _ _ hrest =>
    rcases hrest with ⟨rfl, more, rfl, rfl⟩ | ⟨rfl, more, rfl, rfl, rfl⟩ <;>
      by_cases hname : settings.name = profile <;>
      simp [profiles_setProfile, Agent.places, Agent.clones, hname]
  | @performed other claim effect todo =>
    rw [profiles_perform]
    by_cases hname : other = profile
    · simp only [Agent.places, if_pos hname, List.count_cons, pendingClones_onProfile,
        List.map_cons, List.map_nil, List.sum_cons, List.sum_nil] at hheld ⊢
      omega
    · simp [Agent.places, hname]
  | @evictUnreserved settings | @parked settings =>
    by_cases hname : settings.name = profile <;>
      simp [profiles_endPass, Core.swept, Agent.places, Agent.clones, Thread.places, hname, Function.comp_def]
  | @recorded settings kind =>
    by_cases hname : settings.name = profile <;> cases kind <;>
      simp [profiles_setProfile, Agent.places, Agent.clones, hname]
  | @swapEnd settings | @swapEvict settings | @evictNoSnapshot settings | @planNone settings | @planAbandoned settings =>
    by_cases hname : settings.name = profile <;>
      simp [profiles_setProfile, profiles_endPass, Agent.places, Agent.clones, hname]
  | @selectFailed settings kind | @selectDeferred settings kind | @selected settings kind | @reserved settings kind | @notReserved settings kind =>
    by_cases hname : settings.name = profile <;> cases kind <;>
      simp [Core.swept, Agent.places, Agent.clones, Thread.places, cloneThread, beforeRow, hname]
  | _ =>
    simp [Core.drainEvicted, Core.releaseAll, Core.swept, Agent.places, Agent.clones, Thread.places,
      cloneThread, beforeRow]

/-- The places of a worker that goes on from `task` with `other`. -/
def placesAfter (cfg : Pool.Config) (task other : Task) : ℕ :=
  (if beforeRow other then 1 else 0) + (todoBetween cfg task other).count .releasePending

theorem placesAfter_of_not_cloning {cfg : Pool.Config} {other : Task} (h : cloning other = false) :
    placesAfter cfg task other = 0 := by
  have hrow : beforeRow other = false :=
    Bool.eq_false_iff.mpr fun hrow ↦ Bool.eq_false_iff.mp h (cloning_of_beforeRow hrow)
  simp only [placesAfter, hrow, Bool.false_eq_true, if_false, Nat.zero_add]
  unfold todoBetween
  split <;> first | rfl | cases h

/-- A worker without a row keeps its place, hands it over to its bookkeeping or leaves it to be given up. -/
theorem placesAfter_next {cfg : Pool.Config} (hcloning : cloning task) :
    (task.action cfg reply).Next cfg s s' fun next ↦
      (next.map (placesAfter cfg task)).sum + (if beforeRow task ∧ next = [] then 1 else 0) =
        if beforeRow task then 1 else 0 := by
  refine Action.Next.imp (cloneNext_of_cloning hcloning) fun next hnext ↦ ?_
  cases hnext with
  | @updated prep node hasSnapshot _ hnext =>
    have hnone : (next.map (placesAfter cfg (.cloneUpdate prep node hasSnapshot))).sum = 0 := by
      refine List.sum_eq_zero fun n hn ↦ ?_
      obtain ⟨other, hother, rfl⟩ := List.mem_map.mp hn
      exact placesAfter_of_not_cloning (hnext other hother)
    simp [hnone, beforeRow]
  | _ => simp [placesAfter, beforeRow, todoBetween, apply_ite (List.count Effect.releasePending)]

theorem places_after {w : Worker} {todo : List Effect} (next : List Task) :
    ((Thread.after cfg.toConfig ⟨task, some w, todo⟩ next).map (Thread.places profile)).sum =
      if w.profile = profile then (next.map (placesAfter cfg.toConfig task)).sum else 0 := by
  induction next with
  | nil => simp [Thread.after]
  | cons other next ih =>
    simp only [Thread.after, List.map_cons, List.sum_cons] at ih ⊢
    rw [ih]
    by_cases hname : w.profile = profile
    · cases hcloning : cloning other with
      | true => simp [Thread.places, placesAfter, hname]
      | false => simp [Thread.places, hname, placesAfter_of_not_cloning hcloning]
    · cases hcloning : cloning other <;> simp [Thread.places, hname]

theorem places_leftover {w : Worker} {todo : List Effect} (next : List Task) :
    ((Thread.leftover ⟨task, some w, todo⟩ next).map (Agent.places profile)).sum =
      if w.profile = profile then (if beforeRow task ∧ next = [] then 1 else 0) else 0 := by
  cases next with
  | nil =>
    cases task <;> by_cases hname : w.profile = profile <;>
      simp [Thread.leftover, Agent.places, beforeRow, hname]
  | cons other next => cases task <;> simp [Thread.leftover]

theorem places_fire (hstaffed : t.Staffed) (htodo : t.todo = [])
    (hexec : (t.task.action cfg.toConfig reply).exec cfg.toConfig s = some (s', next)) :
    ((t.after cfg.toConfig next).map (Thread.places profile)).sum +
      ((t.leftover next).map (Agent.places profile)).sum = t.places profile := by
  obtain ⟨task, worker, todo⟩ := t
  obtain rfl : todo = [] := htodo
  cases worker with
  | none => simp [Thread.after, Thread.leftover, Thread.places, Function.comp_def]
  | some w =>
    have hnext := exec_next hexec (placesAfter_next hstaffed.cloning)
    rw [places_after, places_leftover]
    by_cases hname : w.profile = profile
    · simpa [Thread.places, hname] using hnext
    · simp [Thread.places, hname]

theorem Booked.step (h : Booked sys) (hstaffed : ∀ t ∈ sys.threads, t.Staffed)
    (hstep : step cfg sys act = some sys') : Booked sys' := by
  intro profile
  have hbooked := h profile
  cases moved_of_step hstep with
  | @fire i reply t pool next hthread htodo hexec =>
    have hfire := @places_fire cfg profile reply _ pool next t (hstaffed t (List.mem_of_getElem? hthread)) htodo
      hexec
    have hsum := sum_map_fire (Thread.places profile) hthread (t.after cfg.toConfig next)
    simp only [List.map_append, List.sum_append] at hsum ⊢
    omega
  | @settle i task w effect todo hthread =>
    have hsum := sum_map_fire (Thread.places profile) hthread [⟨task, some w, todo⟩]
    dsimp only
    rw [profiles_perform]
    by_cases hname : w.profile = profile
    · simp only [Thread.places, if_pos hname, List.count_cons, List.map_cons, List.map_nil, List.sum_cons,
        List.sum_nil, pendingClones_onProfile] at hsum ⊢
      omega
    · simp only [Thread.places, if_neg hname, List.map_cons, List.map_nil, List.sum_cons,
        List.sum_nil] at hsum ⊢
      omega
  | @advance k answer agent core agents threads hagent hadvanced =>
    have hsum := sum_map_fire (Agent.places profile) hagent agents
    have hheld : agent.places profile ≤ (sys.core.profiles profile).pendingClones := by
      have hle := List.single_le_sum (l := sys.agents.map (Agent.places profile)) (fun _ _ ↦ Nat.zero_le _) _
        (List.mem_map_of_mem (List.mem_of_getElem? hagent))
      omega
    have hadvance := places_advanced hadvanced hheld
    simp only [List.map_append, List.sum_append] at hsum hadvance ⊢
    omega
  | @outside act pool tasks hfrom hpool =>
    have hnone : ((tasks.map fun task ↦ ({ task := task } : Thread)).map (Thread.places profile)).sum = 0 := by
      simp [Thread.places, Function.comp_def]
    simp only [List.map_append, List.sum_append]
    omega
  | reconcile hfind hidle =>
    dsimp only
    rw [profiles_setProfile]
    simp only [startPass, List.map_append, List.map_cons, List.map_nil, List.sum_append, List.sum_cons,
      List.sum_nil, Agent.places, Agent.clones, apply_ite ProfileState.pendingClones, ite_self]
    simpa using hbooked
  | retarget hchange =>
    dsimp only
    rw [profiles_setProfile, apply_ite ProfileState.pendingClones, (hchange _).1, ite_self]
    exact hbooked
  | crash => rfl
  | _ => exact hbooked

/-! ## The worker of a Provisioning row -/

/-- The row that the clone worker has inserted, by VMID and generation. -/
def ownRow : Task → Option (VMID × ℕ)
  | .cloneIpam prep | .cloneIssue prep | .cloneAwait prep _ | .cloneConfigure prep _ | .clonePower prep _
  | .cloneSnapshot prep _ | .cloneUpdate prep _ _ | .cloneFailure prep => some (prep.vmid, prep.gen)
  | _ => none

theorem cloning_eq (task : Task) : cloning task = (beforeRow task || (ownRow task).isSome) := by
  cases task <;> rfl

theorem ownRow_of_not_cloning (h : cloning task = false) : ownRow task = none := by
  rw [cloning_eq, Bool.or_eq_false_iff] at h
  exact Option.not_isSome_iff_eq_none.mp (Bool.eq_false_iff.mp h.2)

theorem cloning_of_ownRow (task : Task) (h : decide (ownRow task = some key)) : cloning task = true := by
  rw [cloning_eq, of_decide_eq_true h]
  exact Bool.or_true _

/-- How many workers have inserted the row. -/
def owners (sys : Sys) (key : VMID × ℕ) : ℕ := sys.threads.countP fun t ↦ ownRow t.task = some key

/-- A worker keeps to its row, and has just inserted it if it had none. -/
theorem ownRow_next {cfg : Pool.Config} (hcloning : cloning task) :
    (task.action cfg reply).Next cfg s s' fun next ↦ ∀ other ∈ next, ∀ key, ownRow other = some key →
      ownRow task = some key ∨ key.2 = s.gens key.1 + 1 ∧ s'.gens key.1 = key.2 := by
  refine Action.Next.imp (cloneNext_of_cloning hcloning) fun next hnext other hother key hown ↦ ?_
  cases hnext with
  | inserted hvmid hnew hgens =>
    subst hvmid
    cases List.mem_singleton.mp hother
    cases hown
    exact .inr ⟨hnew, hgens⟩
  | updated hnext => cases (ownRow_of_not_cloning (hnext other hother)).symm.trans hown
  | notAllocated | notInserted => cases hother
  | allocated | failed =>
    cases List.mem_singleton.mp hother
    cases hown
  | _ =>
    cases List.mem_singleton.mp hother
    exact .inl hown

theorem owners_fire (hstaffed : t.Staffed)
    (hexec : (t.task.action cfg.toConfig reply).exec cfg.toConfig s = some (s', next)) (key : VMID × ℕ) :
    (t.after cfg.toConfig next).countP (fun t ↦ ownRow t.task = some key) ≤
      (if ownRow t.task = some key then 1 else 0) +
        if key.2 = s.gens key.1 + 1 ∧ s'.gens key.1 = key.2 then 1 else 0 := by
  have hafter := @countP_after cfg (fun other ↦ decide (ownRow other = some key)) t next
  have hclones := (exec_next hexec clones_next).1
  have hle : next.countP (fun other ↦ ownRow other = some key) ≤ next.countP cloning := by
    exact List.countP_mono_left fun other _ hown ↦ cloning_of_ownRow other hown
  rw [hafter]
  by_cases hnone : ∃ other ∈ next, ownRow other = some key
  · obtain ⟨other, hother, hown⟩ := hnone
    have hcloning : cloning t.task := by
      by_contra hnot
      rw [Bool.not_eq_true] at hnot
      rw [hnot, hstaffed.kicks] at hclones
      have hzero := List.countP_eq_zero.mp (Nat.le_zero.mp hclones) other hother
      rw [cloning_eq, hown] at hzero
      exact hzero (Bool.or_true _)
    rw [hcloning, Bool.true_or, if_pos rfl] at hclones
    rcases exec_next hexec (ownRow_next hcloning) other hother key hown with hsame | hnew
    · rw [if_pos hsame]
      omega
    · rw [if_pos hnew]
      omega
  · refine (List.countP_eq_zero.mpr fun other hother ↦ ?_).le.trans (Nat.zero_le _)
    exact fun hown ↦ hnone ⟨other, hother, of_decide_eq_true hown⟩

/-- A row's worker is there from the insertion on, and there is one. -/
theorem owners_of_step (hstaffed : ∀ t ∈ sys.threads, t.Staffed) (hstep : step cfg sys act = some sys')
    (key : VMID × ℕ) :
    owners sys' key ≤ owners sys key +
      if key.2 = sys.core.pool.gens key.1 + 1 ∧ sys'.core.pool.gens key.1 = key.2 then 1 else 0 := by
  have hsame (h : owners sys' key ≤ owners sys key) := h.trans (Nat.le_add_right _
    (if key.2 = sys.core.pool.gens key.1 + 1 ∧ sys'.core.pool.gens key.1 = key.2 then 1 else 0))
  cases moved_of_step hstep with
  | @fire i reply t pool next hthread htodo hexec =>
    have hfire := owners_fire (hstaffed t (List.mem_of_getElem? hthread)) hexec key
    have hcount := countP_fire (fun t ↦ decide (ownRow t.task = some key)) hthread (t.after cfg.toConfig next)
    simp only [decide_eq_true_eq] at hcount
    simp only [owners] at hfire ⊢
    omega
  | @settle i task w effect todo hthread =>
    have hcount := countP_fire (fun t ↦ decide (ownRow t.task = some key)) hthread [⟨task, some w, todo⟩]
    refine hsame ?_
    simp only [owners, List.countP_singleton] at hcount ⊢
    omega
  | advance hagent hadvanced =>
    refine hsame (le_of_eq ?_)
    have hnone := @countP_advanced _ _ _ _ _ _ _ (fun task ↦ decide (ownRow task = some key)) hadvanced
      (fun _ _ _ _ _ _ ↦ rfl) (fun _ ↦ rfl)
    rw [owners, List.countP_append, hnone, owners, Nat.add_zero]
  | outside hfrom hpool =>
    refine hsame (le_of_eq ?_)
    have hnone := countP_outside (@cloning_of_ownRow key) hfrom hpool
    rw [owners, List.countP_append, hnone, owners, Nat.add_zero]
  | crash => exact hsame (Nat.zero_le _)
  | _ => exact hsame le_rfl

/-- The profile and the kind that a worker without a row will insert it with. -/
def brief : Task → Option (String × PoolKind)
  | .cloneAllocate settings kind _ _ | .cloneInsert settings kind _ _ _ => some (settings.name, kind)
  | _ => none

theorem brief_next {cfg : Pool.Config} (hcloning : cloning task) :
    (task.action cfg reply).Next cfg s s' fun next ↦ ∀ other ∈ next, ∀ named, brief other = some named →
      brief task = some named := by
  refine Action.Next.imp (cloneNext_of_cloning hcloning) fun next hnext other hother named hnamed ↦ ?_
  cases hnext with
  | updated hnext =>
    have hno := hnext other hother
    cases other <;> first | (cases hnamed; done) | cases hno
  | notAllocated | notInserted => cases hother
  | allocated =>
    cases List.mem_singleton.mp hother
    exact hnamed
  | _ =>
    cases List.mem_singleton.mp hother
    cases hnamed

def adoptsProvisioning : Task → Bool
  | .adoptInsert row _ _ _ => row.state = .provisioning
  | _ => false

theorem adoptedRow_ne_provisioning (cfg : Pool.Config) (vm : Provisioner.VM)
    (power : Option (Option Provisioner.Power)) (runners : Gh.Runners) :
    (adoptedRow cfg vm power runners).1.state ≠ .provisioning := by
  have hlive := classifyAdoption_live power (runners.lookup vm.name)
  simp only [adoptedRow]
  split_ifs
  · simp
  · intro hstate
    rw [hstate] at hlive
    simp at hlive

/-- Adoption takes no VM for one that is being cloned. -/
theorem adoptsProvisioning_next {cfg : Pool.Config} :
    (task.action cfg reply).Next cfg s s' (List.Forall (adoptsProvisioning · = false)) := by
  refine next_of_parts [.adopt] (fun other hother ↦ ?_) fun hpart ↦ ?_
  · cases other <;> first | rfl | cases hother
  cases task with
  | adopt | adoptScan | adoptRunners | adoptLoop | adoptInsert =>
    dsimp
    (repeat' split) <;> dsimp [Action.Next] <;>
      (repeat' first | split | apply And.intro | intro _) <;>
      simp [adoptsProvisioning, adoptedRow_ne_provisioning]
  | _ => cases hpart

theorem provisioning_of_rowStep {now : Time} {old : Store.VM}
    (h : (task.action cfg.toConfig reply).RowStep now v (some old) (some row))
    (hstate : row.state = .provisioning) :
    old.state = .provisioning ∧ row.poolKind = old.poolKind ∧ row.profile = old.profile := by
  revert h hstate
  cases task <;> dsimp <;> (repeat' split) <;>
    simp +contextual [Action.RowStep, Store.VM.moved, Store.VM.assignedTo]

theorem row_of_update {mutate : Time → Store.VM → Store.VM} {k : ℕ → Except Store.Err Store.VM → List Task}
    (himm : ∀ now old, Store.enforceImmutable old (mutate now old))
    (h : (Action.update v mutate k).exec cfg.toConfig s = some (s', next))
    (hrow : s'.store.get v = some row) : ∃ now old, row = { mutate now old with updatedAt := now } := by
  simp only [Action.exec] at h
  split at h
  · next store after hok =>
    obtain ⟨old, hold, himm, rfl, rfl⟩ := Store.update_eq_ok.mp hok
    cases h
    have hvmid : (mutate s.now old).vmid = v := (enforceImmutable_vmid himm).trans (Table.key_of_get hold)
    rw [commit_store, Table.get_put, if_pos hvmid.symm] at hrow
    exact ⟨s.now, old, (Option.some.inj hrow).symm⟩
  · next err herr =>
    cases h
    rw [Store.update_eq_ok.mpr ⟨row, hrow, himm s.now row, rfl, rfl⟩] at herr
    cases herr

theorem ownRow_kept (hown : ownRow task = some key)
    (hexec : (task.action cfg.toConfig reply).exec cfg.toConfig s = some (s', next)) :
    (∃ other ∈ next, ownRow other = some key) ∨
      ∀ row, s'.store.get key.1 = some row → row.state ≠ .provisioning := by
  cases task with
  | cloneIpam | cloneIssue | cloneAwait | cloneConfigure | clonePower | cloneSnapshot =>
    cases exec_next hexec (cloneNext_of_cloning rfl) with
    | _ => exact .inl ⟨_, List.mem_cons_self, hown⟩
  | cloneUpdate prep node hasSnapshot =>
    cases hown
    refine .inr fun row hrow ↦ ?_
    obtain ⟨now, old, rfl⟩ := row_of_update (fun now old ↦ by simp [Store.enforceImmutable]) hexec hrow
    dsimp
    split <;> simp
  | cloneFailure prep =>
    cases hown
    refine .inr fun row hrow ↦ ?_
    obtain ⟨now, old, rfl⟩ := row_of_update (fun now old ↦ by simp [Store.enforceImmutable]) hexec hrow
    simp
  | _ => cases hown

def Thread.Owns (t : Thread) (gens : VMID → ℕ) (v : VMID) (row : Store.VM) : Prop :=
  ∃ w, t.worker = some w ∧ ownRow t.task = some (v, gens v) ∧ row.poolKind = w.kind ∧
    row.profile = filedUnder w.profile

/-- What a thread says of itself is true. -/
structure Thread.Sound (t : Thread) : Prop where
  staffed : t.Staffed
  briefed : ∀ w, t.worker = some w → ∀ named, brief t.task = some named → named = (w.profile, w.kind)
  adopts : adoptsProvisioning t.task = false

/-- Every Provisioning row has its worker, and every worker at most one row. -/
structure Attended (sys : Sys) : Prop where
  sound : ∀ t ∈ sys.threads, t.Sound
  once : ∀ key, owners sys key ≤ 1
  issued : ∀ key, 0 < owners sys key → key.2 ≤ sys.core.pool.gens key.1
  rows : ∀ v row, sys.core.pool.store.get v = some row → row.state = .provisioning →
    ∃ t ∈ sys.threads, t.Owns sys.core.pool.gens v row

theorem sound_after (h : t.Sound)
    (hexec : (t.task.action cfg.toConfig reply).exec cfg.toConfig s = some (s', next)) :
    ∀ t' ∈ t.after cfg.toConfig next, t'.Sound := by
  intro t' ht'
  have hclones := exec_next hexec clones_next
  have hadopts := List.forall_iff_forall_mem.mp
    (exec_next hexec adoptsProvisioning_next)
  have htask : t'.task ∈ next := by
    rw [← @map_task_after cfg t next]
    exact List.mem_map_of_mem ht'
  refine ⟨staffed_after h.staffed hclones.1 hclones.2 t' ht', fun w hw named hnamed ↦ ?_,
    hadopts t'.task htask⟩
  unfold Thread.after at ht'
  cases hworker : t.worker with
  | none =>
    rw [hworker] at ht'
    obtain ⟨task, -, rfl⟩ := List.mem_map.mp ht'
    cases hw
  | some w' =>
    have hcloning : cloning t.task := by rw [h.staffed.cloning, hworker]; rfl
    have hbrief := exec_next hexec (brief_next hcloning) t'.task htask named hnamed
    rw [hworker] at ht'
    obtain ⟨task, -, rfl⟩ := List.mem_map.mp ht'
    split at hw
    · cases hw
      exact h.briefed _ hworker named hbrief
    · cases hw

theorem sound_outside {act : Pool.Act} {pool pool' : Shared} {tasks : List Task}
    (hfrom : fromOutside act)
    (hstep : Pool.step cfg.toConfig ⟨pool, []⟩ act = some ⟨pool', tasks⟩) :
    ∀ task ∈ tasks, ({ task := task } : Thread).Sound := by
  intro task htask
  obtain ⟨hcloning, hkicks⟩ := staffed_outside hfrom hstep task htask
  refine ⟨⟨hcloning, hkicks⟩, fun _ hw ↦ (by cases hw), ?_⟩
  cases stepped_of_step hstep with
  | fire | crash => cases hfrom
  | call hcallable =>
    cases List.mem_singleton.mp htask
    cases task <;> first | rfl | cases hcallable
  | dispatch =>
    cases List.mem_singleton.mp htask
    rfl
  | outside => cases htask

theorem sound_step (h : ∀ t ∈ sys.threads, t.Sound) (hstep : step cfg sys act = some sys') :
    ∀ t ∈ sys'.threads, t.Sound := by
  refine forall_threads_step (fun t reply s s' next ht hexec ↦ sound_after ht hexec)
    (fun _ _ _ _ ht ↦ ⟨⟨ht.staffed.cloning, ht.staffed.kicks⟩, ht.briefed, ht.adopts⟩)
    (fun settings kind node res parked existing ↦ ⟨⟨rfl, rfl⟩, fun w hw named hnamed ↦ ?_, rfl⟩)
    (fun _ ↦ ⟨⟨rfl, rfl⟩, fun _ hw ↦ (by cases hw), rfl⟩)
    (fun _ _ _ _ hfrom hpool ↦ sound_outside hfrom hpool) ⟨⟨rfl, rfl⟩, fun _ hw ↦ (by cases hw), rfl⟩ h hstep
  cases hw
  cases hnamed
  rfl

theorem mem_after {w : Worker} {other : Task} (hworker : t.worker = some w) (hother : other ∈ next)
    (hcloning : cloning other) :
    ⟨other, some w, todoBetween cfg.toConfig t.task other⟩ ∈ t.after cfg.toConfig next := by
  unfold Thread.after
  rw [hworker]
  exact List.mem_map.mpr ⟨other, hother, if_pos hcloning⟩

theorem owns_of_insert (h : t.Sound)
    (hexec : (t.task.action cfg.toConfig reply).exec cfg.toConfig s = some (s', next))
    (hnew : s.store.get v = none) (hrow : s'.store.get v = some row) (hstate : row.state = .provisioning) :
    ∃ t' ∈ t.after cfg.toConfig next, t'.Owns s'.gens v row := by
  obtain ⟨task, worker, todo⟩ := t
  rcases exec_row hexec v with hsame | hmoved
  · rw [hsame, hnew] at hrow
    cases hrow
  rw [hnew, hrow] at hmoved
  obtain ⟨adopted, hinserts⟩ := inserts_of_rowStep hmoved
  cases task with
  | cloneInsert settings kind poweredOn node u =>
    obtain ⟨hv, -, hstamped⟩ := hmoved
    obtain rfl : u = v := hv
    cases hstamped
    obtain ⟨w, hworker⟩ := Option.isSome_iff_exists.mp h.staffed.cloning.symm
    obtain rfl : worker = some w := hworker
    have hbrief : (settings.name, kind) = (w.profile, w.kind) := h.briefed w rfl _ rfl
    obtain ⟨hname, hkind⟩ := Prod.mk.inj hbrief
    cases outcome_of_exec hexec with
    | inserted =>
      refine ⟨_, mem_after rfl List.mem_cons_self rfl, w, rfl, ?_, hkind, congrArg filedUnder hname⟩
      rw [(afterInsert_eq _ _ _).2.1]
      rfl
    | notInserted => cases hnew.symm.trans hrow
  | adoptInsert found recycle rest runners =>
    obtain ⟨rfl, -, hstamped⟩ := hmoved
    cases hstamped
    exact absurd hstate (of_decide_eq_false h.adopts)
  | _ => cases hinserts

theorem Thread.Owns.congr {gens gens' : VMID → ℕ} {old : Store.VM} (h : t.Owns gens v old)
    (hgens : gens' v = gens v) (hkind : row.poolKind = old.poolKind) (hprofile : row.profile = old.profile) :
    t.Owns gens' v row := by
  obtain ⟨w, hworker, hown, hw⟩ := h
  exact ⟨w, hworker, by rw [hgens, hown], by rw [hkind, hprofile]; exact hw⟩

theorem Attended.rows_fire (h : Attended sys) {i : ℕ} {pool : Shared} (hthread : sys.threads[i]? = some t)
    (hexec : (t.task.action cfg.toConfig reply).exec cfg.toConfig sys.core.pool = some (pool, next))
    (hrow : pool.store.get v = some row) (hstate : row.state = .provisioning) :
    ∃ t' ∈ sys.threads.eraseIdx i ++ t.after cfg.toConfig next, t'.Owns pool.gens v row := by
  have hsound := h.sound t (List.mem_of_getElem? hthread)
  cases hold : sys.core.pool.store.get v with
  | none =>
    obtain ⟨t', ht', howns⟩ := owns_of_insert hsound hexec hold hrow hstate
    exact ⟨t', List.mem_append_right _ ht', howns⟩
  | some old =>
    have hkept : old.state = .provisioning ∧ row.poolKind = old.poolKind ∧ row.profile = old.profile := by
      rcases exec_row hexec v with hsame | hmoved
      · cases (hold.symm.trans hsame.symm).trans hrow
        exact ⟨hstate, rfl, rfl⟩
      · rw [hold, hrow] at hmoved
        exact provisioning_of_rowStep hmoved hstate
    have hgens : pool.gens v = sys.core.pool.gens v := by simpa [hold] using exec_gens hexec v
    obtain ⟨t₀, ht₀, howns⟩ := h.rows v old hold hkept.1
    rcases List.mem_cons.mp ((cons_eraseIdx_perm hthread).mem_iff.mpr ht₀) with rfl | hother
    · -- the row's own worker moves
      obtain ⟨w, hworker, hown, hw⟩ := howns
      rcases ownRow_kept hown hexec with ⟨other, hother, hsame⟩ | hgone
      · have hcloning : cloning other := by rw [cloning_eq, hsame]; exact Bool.or_true _
        refine ⟨_, List.mem_append_right _ (mem_after hworker hother hcloning), ?_⟩
        exact Thread.Owns.congr ⟨w, rfl, hsame, hw⟩ hgens hkept.2.1 hkept.2.2
      · exact absurd hstate (hgone row hrow)
    · exact ⟨t₀, List.mem_append_left _ hother, howns.congr hgens hkept.2.1 hkept.2.2⟩

theorem Attended.rows_step (h : Attended sys) (hstep : step cfg sys act = some sys')
    (hrow : sys'.core.pool.store.get v = some row) (hstate : row.state = .provisioning) :
    ∃ t ∈ sys'.threads, t.Owns sys'.core.pool.gens v row := by
  -- where the row and the generations stay, more threads do no harm
  have hmore {gens : VMID → ℕ} (hgens : gens = sys.core.pool.gens)
      (hold : sys.core.pool.store.get v = some row) (more : List Thread) :
      ∃ t ∈ sys.threads ++ more, t.Owns gens v row := by
    obtain ⟨t, ht, howns⟩ := h.rows v row hold hstate
    exact ⟨t, List.mem_append_left _ ht, hgens ▸ howns⟩
  cases moved_of_step hstep with
  | fire hthread htodo hexec => exact h.rows_fire hthread hexec hrow hstate
  | settle hthread =>
    obtain ⟨t₀, ht₀, howns⟩ := h.rows v row hrow hstate
    rcases List.mem_cons.mp ((cons_eraseIdx_perm hthread).mem_iff.mpr ht₀) with rfl | hother
    · exact ⟨_, List.mem_append_right _ (List.mem_singleton_self _), howns⟩
    · exact ⟨t₀, List.mem_append_left _ hother, howns⟩
  | advance hagent hadvanced =>
    have hgens := (pool_advanced hadvanced).2
    cases hadvanced with
    | committed hexec =>
      rcases exec_row hexec v with hsame | ⟨-, old, hold, -, hnew⟩
      · exact hmore hgens (hsame ▸ hrow) []
      · -- a victim is on its way out
        cases hnew.symm.trans hrow
        cases hstate
    | _ => exact hmore rfl hrow _
  | outside hfrom hpool =>
    cases stepped_of_step hpool with
    | fire | crash => cases hfrom
    | call | dispatch => exact hmore rfl hrow _
    | outside houtside => exact hmore houtside.store_eq.2.1 (houtside.store_eq.1 ▸ hrow) _
  | crash =>
    rw [show (startCore cfg sys.core.pool.restart).pool.store = .empty from rfl, Table.get_empty] at hrow
    cases hrow
  | _ =>
    obtain ⟨t, ht, howns⟩ := h.rows v row hrow hstate
    exact ⟨t, ht, howns⟩

theorem Attended.step (h : Attended sys) (hstep : step cfg sys act = some sys') : Attended sys' where
  sound := sound_step h.sound hstep
  once key := by
    have hle := owners_of_step (fun t ht ↦ (h.sound t ht).staffed) hstep key
    have honce := h.once key
    have hissued := h.issued key
    split_ifs at hle <;> omega
  issued key hpos := by
    have hle := owners_of_step (fun t ht ↦ (h.sound t ht).staffed) hstep key
    have hgens := (evolved_of_step hstep).gens_le key.1
    have hissued := h.issued key
    split_ifs at hle <;> omega
  rows v row hrow hstate := h.rows_step hstep hrow hstate

/-! ## Hot VMs and hot clones -/

def Thread.clones (profile : String) (kind : PoolKind) (t : Thread) : Bool :=
  t.worker.any fun w ↦ w.profile = profile ∧ w.kind = kind

/-- The row that a hot clone worker of the profile has inserted. -/
def Thread.hotRow (profile : String) (t : Thread) : Option (VMID × ℕ) :=
  if t.clones profile .hot then ownRow t.task else none

def hotVMs (sys : Sys) (profile : String) : ℕ :=
  sys.core.pool.store.rows.countP fun row ↦
    row.profile = profile ∧ (row.state = .hot ∨ row.state = .booting)

/-- The profile's hot clones that are dispatched and not yet finished. -/
def hotClones (sys : Sys) (profile : String) : ℕ :=
  sys.agents.countP (Agent.clones profile .hot) + sys.threads.countP (Thread.clones profile .hot)

theorem available_eq (sys : Sys) (profile : String) :
    (statsForProfile sys.core.pool.store profile).available = hotVMs sys profile := by
  let rows := sys.core.pool.store.rows
  calc (statsForProfile sys.core.pool.store profile).available
      = rows.countP (fun row ↦ row.profile = profile ∧ row.state = .hot) +
          rows.countP (fun row ↦ row.profile = profile ∧ row.state = .booting) := by
        simp only [List.countP_eq_length_filter]
        rfl
    _ = hotVMs sys profile := by
        have hsplit := List.countP_eq_countP_filter_add rows (fun row ↦ decide (row.profile = profile ∧
          (row.state = .hot ∨ row.state = .booting))) fun row ↦ decide (row.state = .hot)
        rw [List.countP_filter, List.countP_filter] at hsplit
        refine Eq.trans ?_ hsplit.symm
        congr 1 <;>
        · refine List.countP_congr fun row _ ↦ ?_
          cases hstate : row.state <;> simp

theorem clones_eq_true {kind : PoolKind} : t.clones profile kind ↔
    ∃ w, t.worker = some w ∧ w.profile = profile ∧ w.kind = kind := by
  simp [Thread.clones, Option.any_eq_true]

theorem hotRow_eq_some : t.hotRow profile = some key ↔
    t.clones profile .hot ∧ ownRow t.task = some key := by
  simp [Thread.hotRow]

/-- Every worker's profile has a name, and no hot worker of this one has lost its Provisioning row. -/
def RowsKept (sys : Sys) (profile : String) : Prop :=
  (∀ t ∈ sys.threads, ∀ w ∈ t.worker, w.profile ≠ "") ∧
    ∀ t ∈ sys.threads, ∀ key ∈ t.hotRow profile, sys.core.pool.gens key.1 = key.2 ∧
      (sys.core.pool.store.get key.1).any (·.state = .provisioning) = true

def hotRows (sys : Sys) (profile : String) : List (VMID × ℕ) :=
  (sys.core.pool.store.rows.filter fun row ↦
    row.profile = profile ∧ row.state = .provisioning ∧ row.poolKind = .hot).map fun row ↦
      (row.vmid, sys.core.pool.gens row.vmid)

theorem mem_hotRows : key ∈ hotRows sys profile ↔ sys.core.pool.gens key.1 = key.2 ∧
    ∃ row, sys.core.pool.store.get key.1 = some row ∧ row.profile = profile ∧ row.state = .provisioning ∧
      row.poolKind = .hot := by
  simp only [hotRows, List.mem_map, List.mem_filter, Table.mem_rows, decide_eq_true_eq]
  constructor
  · rintro ⟨row, ⟨hrow, hhot⟩, rfl⟩
    exact ⟨rfl, row, hrow, hhot⟩
  · rintro ⟨hgen, row, hrow, hhot⟩
    have hv : row.vmid = key.1 := Table.key_of_get hrow
    exact ⟨row, ⟨by rwa [hv], hhot⟩, Prod.ext hv (by rw [hv, hgen])⟩

theorem nodup_hotRows : (hotRows sys profile).Nodup := by
  apply List.Nodup.of_map Prod.fst
  rw [hotRows, List.map_map]
  exact (Table.nodup_map_key_rows sys.core.pool.store).sublist (List.filter_sublist.map _)

theorem nodup_filterMap_hotRow (h : Attended sys) : (sys.threads.filterMap (Thread.hotRow profile)).Nodup := by
  rw [List.nodup_iff_count_le_one]
  intro key
  rw [List.count, List.countP_filterMap]
  refine (List.countP_mono_left fun t _ ht ↦ ?_).trans (h.once key)
  cases hrow : t.hotRow profile with
  | none =>
    rw [hrow] at ht
    cases ht
  | some other =>
    rw [hrow] at ht
    obtain rfl : other = key := by simpa using ht
    exact decide_eq_true (hotRow_eq_some.mp hrow).2

/-- While no worker has lost its row, the hot Provisioning rows are those of the hot workers. -/
theorem mem_hotRows_iff (h : Attended sys) (hkept : RowsKept sys profile) :
    key ∈ hotRows sys profile ↔ key ∈ sys.threads.filterMap (Thread.hotRow profile) := by
  rw [mem_hotRows, List.mem_filterMap]
  constructor
  · rintro ⟨hgen, row, hrow, hprofile, hstate, hkind⟩
    obtain ⟨t, ht, w, hworker, hown, hwkind, hwprofile⟩ := h.rows key.1 row hrow hstate
    have hname : w.profile = profile := by
      rw [← hprofile, hwprofile, filedUnder, if_neg (hkept.1 t ht w hworker)]
    refine ⟨t, ht, hotRow_eq_some.mpr ⟨clones_eq_true.mpr ⟨w, hworker, hname, hwkind ▸ hkind⟩, ?_⟩⟩
    rw [hown, hgen]
  · rintro ⟨t, ht, hrow⟩
    obtain ⟨hgen, hprovisioning⟩ := hkept.2 t ht key hrow
    obtain ⟨hclones, hown⟩ := hotRow_eq_some.mp hrow
    obtain ⟨w, hworker, hname, hkind⟩ := clones_eq_true.mp hclones
    obtain ⟨row, hget, hstate⟩ : ∃ row, sys.core.pool.store.get key.1 = some row ∧ row.state = .provisioning := by
      simpa [Option.any_eq_true] using hprovisioning
    obtain ⟨t', ht', w', hworker', hown', hwkind, hwprofile⟩ := h.rows key.1 row hget hstate
    -- the row has one worker
    obtain rfl : t = t' := eq_of_countP_le_one (h.once key) ht (decide_eq_true hown) ht'
      (decide_eq_true (by rw [hown', hgen]))
    obtain rfl : w = w' := Option.some.inj (hworker.symm.trans hworker')
    refine ⟨hgen, row, hget, ?_, hstate, hwkind.trans hkind⟩
    rw [hwprofile, filedUnder, if_neg (hkept.1 t ht w hworker), hname]

theorem provisioningOf_eq (h : Attended sys) (hkept : RowsKept sys profile) :
    provisioningOf sys.core.pool.store profile .hot =
      sys.threads.countP fun t ↦ (t.hotRow profile).isSome := by
  have hperm : (hotRows sys profile).Perm (sys.threads.filterMap (Thread.hotRow profile)) :=
    (List.perm_ext_iff_of_nodup nodup_hotRows (nodup_filterMap_hotRow h)).mpr fun _ ↦ mem_hotRows_iff h hkept
  calc provisioningOf sys.core.pool.store profile .hot
      = (hotRows sys profile).length := by rw [hotRows, List.length_map]; rfl
    _ = (sys.threads.filterMap (Thread.hotRow profile)).length := hperm.length_eq
    _ = sys.threads.countP fun t ↦ (t.hotRow profile).isSome := List.length_filterMap_eq_countP

/-- Every place in `pendingClones` is that of a hot clone without a row. -/
def PlacesHot (sys : Sys) (profile : String) : Prop :=
  (∀ agent ∈ sys.agents, agent.places profile ≤ if agent.clones profile .hot then 1 else 0) ∧
    ∀ t ∈ sys.threads, t.places profile ≤ if t.clones profile .hot && beforeRow t.task then 1 else 0

theorem Agent.places_pos (h : agent.clones profile .hot) : 1 ≤ agent.places profile := by
  cases agent <;> first | cases h | simp [Agent.places, h]

theorem Thread.places_pos (h : (t.clones profile .hot && beforeRow t.task)) :
    1 ≤ t.places profile := by
  obtain ⟨hclones, hrow⟩ := Bool.and_eq_true_iff.mp h
  obtain ⟨w, hworker, hname, -⟩ := clones_eq_true.mp hclones
  simp [Thread.places, hworker, hname, hrow]

theorem pendingClones_eq (h : Booked sys) (hplaces : PlacesHot sys profile) :
    (sys.core.profiles profile).pendingClones = sys.agents.countP (Agent.clones profile .hot) +
      sys.threads.countP fun t ↦ t.clones profile .hot && beforeRow t.task := by
  rw [h profile]
  congr 1
  · refine sum_map_eq_countP fun agent hagent ↦ (hplaces.1 agent hagent).antisymm ?_
    split_ifs with hclones
    · exact Agent.places_pos hclones
    · exact Nat.zero_le _
  · refine sum_map_eq_countP fun t ht ↦ (hplaces.2 t ht).antisymm ?_
    split_ifs with hrow
    · exact Thread.places_pos hrow
    · exact Nat.zero_le _

theorem countP_clones (h : Attended sys) : sys.threads.countP (Thread.clones profile .hot) =
    sys.threads.countP (fun t ↦ t.clones profile .hot && beforeRow t.task) +
      sys.threads.countP fun t ↦ (t.hotRow profile).isSome := by
  rw [List.countP_eq_countP_filter_add sys.threads (Thread.clones profile .hot) fun t ↦ beforeRow t.task,
    List.countP_filter, List.countP_filter]
  congr 1
  refine List.countP_congr fun t ht ↦ ?_
  cases hclones : t.clones profile .hot with
  | false => simp [Thread.hotRow, hclones]
  | true =>
    obtain ⟨w, hworker, -⟩ := clones_eq_true.mp hclones
    have hcloning := (h.sound t ht).staffed.cloning
    rw [hworker, cloning_eq] at hcloning
    have hexclusive : beforeRow t.task → ownRow t.task = none := by
      cases t.task <;> first | exact fun _ ↦ rfl | exact fun hrow ↦ by cases hrow
    cases hrow : beforeRow t.task with
    | true => simp [Thread.hotRow, hclones, hexclusive hrow]
    | false => simpa [Thread.hotRow, hclones, hrow] using hcloning

/-! ## The reads of a pass -/

/-- What a pass that has come this far has read is still what it would read. -/
structure ReadsHold (c : Core) (profile : String) (stage : PassStage) (sizing : Sizing) : Prop where
  available : stage ≠ .stats → sizing.stats.available = (statsForProfile c.pool.store profile).available
  hotProv : stage ≠ .stats → stage ≠ .provisioning → sizing.hotProv = provisioningOf c.pool.store profile .hot
  inFlight : stage = .pending ∨ stage = .credit → sizing.inFlightClones = c.inFlightCloneCount
  pending : stage = .credit → sizing.pendingClones = (c.profiles profile).pendingClones

/-- The counts that make up the profile's supply are the same in both states. -/
def Still (c c' : Core) (profile : String) : Prop :=
  (statsForProfile c'.pool.store profile).available = (statsForProfile c.pool.store profile).available ∧
    provisioningOf c'.pool.store profile .hot = provisioningOf c.pool.store profile .hot ∧
    c'.inFlightCloneCount = c.inFlightCloneCount ∧
    (c'.profiles profile).pendingClones = (c.profiles profile).pendingClones

/-- The profile whose pass the agent is, between its first read and its computation. -/
def Agent.reading : Agent → Option String
  | .pass settings stage _ => if stage = .stats then none else some settings.name
  | _ => none

theorem ReadsHold.still (h : ReadsHold c profile stage sizing)
    (hstill : stage ≠ .stats → Still c c' profile) : ReadsHold c' profile stage sizing where
  available hstage := (h.available hstage).trans (hstill hstage).1.symm
  hotProv hstage hlater := (h.hotProv hstage hlater).trans (hstill hstage).2.1.symm
  inFlight hstage := by
    refine (h.inFlight hstage).trans (hstill ?_).2.2.1.symm
    rintro rfl
    simp at hstage
  pending hstage := by
    subst hstage
    exact (h.pending rfl).trans (hstill (by simp)).2.2.2.symm

/-- Each read adds what is true when it is made. -/
theorem ReadsHold.read {settings settings' : ProfileSettings} {stage' : PassStage} {sizing' : Sizing}
    (h : ReadsHold c settings.name stage sizing)
    (hread : readStage cfg c settings sizing stage = .pass settings' stage' sizing') :
    ReadsHold c settings'.name stage' sizing' := by
  cases stage <;> cases hread <;>
    exact
      { available := fun _ ↦ by first | rfl | exact h.available (by simp)
        hotProv := fun _ hlater ↦ by
          first | rfl | exact absurd rfl hlater | exact h.hotProv (by simp) (by simp)
        inFlight := fun hstage ↦ by first | rfl | (simp at hstage; done) | exact h.inFlight (.inl rfl)
        pending := fun hstage ↦ by first | rfl | cases hstage }

/-- An agent is a pass because it was one before, at the read before this. -/
theorem pass_of_advanced (h : Advanced cfg c answer agent c' agents threads) {settings : ProfileSettings}
    (hmem : .pass settings stage sizing ∈ agents) :
    c' = c ∧ ∃ settings₀ stage₀ sizing₀, agent = .pass settings₀ stage₀ sizing₀ ∧
      readStage cfg c settings₀ sizing₀ stage₀ = .pass settings stage sizing := by
  cases h with
  | @read settings₀ stage₀ sizing₀ =>
    exact ⟨rfl, settings₀, stage₀, sizing₀, rfl, (List.mem_singleton.mp hmem).symm⟩
  | kicked hrest =>
    rcases hrest with ⟨rfl, more, rfl, rfl⟩ | ⟨rfl, more, rfl, rfl, rfl⟩ <;> simp at hmem
  | _ => simp at hmem

/-- Every pass under way has read what is true now. -/
def Current (sys : Sys) : Prop :=
  ∀ settings stage sizing, .pass settings stage sizing ∈ sys.agents →
    ReadsHold sys.core settings.name stage sizing

/-- No pass is disturbed between its first read and its computation. -/
def Quiet (sys : Sys) (sys' : Sys) : Prop :=
  ∀ agent ∈ sys.agents, ∀ profile ∈ agent.reading, Still sys.core sys'.core profile

theorem Current.step (h : Current sys) (hquiet : Quiet sys sys') (hstep : step cfg sys act = some sys') :
    Current sys' := by
  intro settings stage sizing hmem
  have hkept (hold : .pass settings stage sizing ∈ sys.agents) :
      ReadsHold sys'.core settings.name stage sizing :=
    (h settings stage sizing hold).still fun hstage ↦
      hquiet _ hold settings.name (by simp [Agent.reading, hstage])
  cases moved_of_step hstep with
  | fire hthread htodo hexec =>
    rcases List.mem_append.mp hmem with hold | hnew
    · exact hkept hold
    · unfold Thread.leftover at hnew
      split at hnew <;> simp at hnew
  | advance hagent hadvanced =>
    rcases List.mem_append.mp hmem with hold | hnew
    · exact hkept (List.mem_of_mem_eraseIdx hold)
    · obtain ⟨rfl, settings₀, stage₀, sizing₀, rfl, hread⟩ := pass_of_advanced hadvanced hnew
      exact (h settings₀ stage₀ sizing₀ (List.mem_of_getElem? hagent)).read hread
  | reconcile hfind hidle =>
    rcases List.mem_append.mp hmem with hold | hnew
    · exact hkept hold
    · cases List.mem_singleton.mp hnew
      exact ⟨fun hstage ↦ absurd rfl hstage, fun hstage ↦ absurd rfl hstage, by simp, by simp⟩
  | crash => cases hmem
  | _ => exact hkept hmem

/-! ## The supply -/

/-- The profile and the reads of the pass that computes its needs in this step. -/
def computes (sys : Sys) : Act → Option (String × Sizing)
  | .advance k _ =>
    match sys.agents[k]? with
    | some (.pass settings .credit sizing) => some (settings.name, sizing)
    | _ => none
  | _ => none

/-- The supply of a pass counts every hot VM and every hot clone of the profile once. -/
def CountsOnce (sys : Sys) (act : Act) (_ : Sys) : Prop :=
  ∀ pass ∈ computes sys act, pass.2.supply = hotVMs sys pass.1 + hotClones sys pass.1

/-- No clone is inside `Clone`. -/
def NoneInside (sys : Sys) : Prop := ∀ entry ∈ sys.core.inFlight, entry.2 < sys.core.pool.now

/-- No pass is disturbed; and when one computes its needs, no clone is inside `Clone`, every place in
`pendingClones` is that of a hot clone without a row and no hot clone has lost its row. -/
def Settled (sys : Sys) (act : Act) (sys' : Sys) : Prop :=
  Quiet sys sys' ∧ ∀ pass ∈ computes sys act, NoneInside sys ∧ PlacesHot sys pass.1 ∧ RowsKept sys pass.1

instance decidableCountsOnce (sys : Sys) (act : Act) (sys' : Sys) : Decidable (CountsOnce sys act sys') :=
  inferInstanceAs (Decidable (∀ pass ∈ computes sys act, _))

instance decidableStill (c c' : Core) (profile : String) : Decidable (Still c c' profile) :=
  inferInstanceAs (Decidable (_ ∧ _))

instance decidableQuiet (sys sys' : Sys) : Decidable (Quiet sys sys') :=
  inferInstanceAs (Decidable (∀ agent ∈ sys.agents, _))

instance decidableNoneInside (sys : Sys) : Decidable (NoneInside sys) :=
  inferInstanceAs (Decidable (∀ entry ∈ sys.core.inFlight, _))

instance decidablePlacesHot (sys : Sys) (profile : String) : Decidable (PlacesHot sys profile) :=
  inferInstanceAs (Decidable (_ ∧ _))

instance decidableRowsKept (sys : Sys) (profile : String) : Decidable (RowsKept sys profile) :=
  inferInstanceAs (Decidable (_ ∧ _))

instance decidableSettled (sys : Sys) (act : Act) (sys' : Sys) : Decidable (Settled sys act sys') :=
  inferInstanceAs (Decidable (_ ∧ ∀ pass ∈ computes sys act, _))

theorem computes_eq_some {pass : String × Sizing} (h : computes sys act = some pass) :
    ∃ settings : ProfileSettings, settings.name = pass.1 ∧ .pass settings .credit pass.2 ∈ sys.agents := by
  cases act with
  | advance k answer =>
    simp only [computes] at h
    split at h
    · next settings sizing hagent =>
      cases h
      exact ⟨settings, rfl, List.mem_of_getElem? hagent⟩
    · cases h
  | _ => cases h

theorem NoneInside.inFlightCloneCount_eq (h : NoneInside sys) : sys.core.inFlightCloneCount = 0 := by
  rw [Core.inFlightCloneCount, List.length_eq_zero_iff, List.filter_eq_nil_iff]
  intro entry hentry
  simpa using h entry hentry

theorem countsOnce_of_settled (hattended : Attended sys) (hbooked : Booked sys) (hcurrent : Current sys)
    (hsettled : Settled sys act sys') : CountsOnce sys act sys' := by
  intro pass hpass
  obtain ⟨settings, hname, hmem⟩ := computes_eq_some hpass
  obtain ⟨hinside, hplaces, hkept⟩ := hsettled.2 pass hpass
  have hreads := hcurrent settings .credit pass.2 hmem
  rw [hname] at hreads
  calc pass.2.supply
      = (statsForProfile sys.core.pool.store pass.1).available + provisioningOf sys.core.pool.store pass.1 .hot +
          (sys.core.inFlightCloneCount + (sys.core.profiles pass.1).pendingClones) := by
        rw [Sizing.supply, Sizing.inflight, hreads.available (by simp), hreads.hotProv (by simp) (by simp),
          hreads.inFlight (by simp), hreads.pending rfl]
    _ = hotVMs sys pass.1 + (sys.threads.countP (fun t ↦ (t.hotRow pass.1).isSome)) +
          (0 + (sys.agents.countP (Agent.clones pass.1 .hot) +
            sys.threads.countP fun t ↦ t.clones pass.1 .hot && beforeRow t.task)) := by
        rw [available_eq, provisioningOf_eq hattended hkept, hinside.inFlightCloneCount_eq,
          pendingClones_eq hbooked hplaces]
    _ = hotVMs sys pass.1 + hotClones sys pass.1 := by
        rw [hotClones, countP_clones hattended]
        omega

/-- The second profile's pass runs through its reads, up to its computation. -/
def readAgain : List Act := .reconcile "burst" :: List.replicate 5 (.advance 0 {})

/-- It is counted while its only clone has chosen a node, and again when the clone has inserted its row. -/
def countedOutside : List Act :=
  apartStart ++ chooseNode "burst" ++ readAgain ++ List.replicate 3 (.advance 0 {}) ++
    [.fire 0 .ok, .fire 0 .ok, .settle 0, .settle 0] ++ readAgain

/-- It is counted while its only clone is inside `Clone`. -/
def countedInside : List Act := apartStart ++ chooseNode "burst" ++ createVM 0 ++ readAgain

def computedSupply (sys : Sys) : Option (String × ℕ) :=
  (computes sys (.advance 0 {})).map fun pass ↦ (pass.1, pass.2.supply)

/-- In every run in which no pass is disturbed and none computes its needs while a clone is inside
`Clone`, a warm or ended clone holds a place or a hot clone has lost its row, the supply counts every hot
VM and every hot clone once. -/
theorem supply_counts_once (cfg : Config) (cluster : Provisioner.Cluster) (runners : Gh.Runners) (now : Time)
    (labels : List Act) (hsettled : Along (step cfg) Settled (init cfg cluster runners now) labels) :
    Along (step cfg) CountsOnce (init cfg cluster runners now) labels := by
  refine along_of_invariant (fun sys ↦ Attended sys ∧ Booked sys ∧ Current sys) ?_ ?_ hsettled
  · rintro sys act sys' ⟨hattended, hbooked, hcurrent⟩ hsettled hstep
    have hstaffed (t : Thread) (ht : t ∈ sys.threads) : t.Staffed := (hattended.sound t ht).staffed
    exact ⟨countsOnce_of_settled hattended hbooked hcurrent hsettled, hattended.step hstep,
      hbooked.step hstaffed hstep, hcurrent.step hsettled.1 hstep⟩
  · refine ⟨⟨fun t ht ↦ ?_, fun _ ↦ Nat.zero_le _, fun _ hpos ↦ absurd hpos (lt_irrefl 0),
      fun v row hrow ↦ ?_⟩, fun _ ↦ rfl, fun _ _ _ hmem ↦ by cases hmem⟩
    · cases List.mem_singleton.mp ht
      exact ⟨⟨rfl, rfl⟩, fun _ hw ↦ (by cases hw), rfl⟩
    · cases (Table.get_empty v).symm.trans hrow

/-- A clone counts as one before it has its row and after. -/
theorem clone_counted_once_outside :
    (run (step apartPool) (init apartPool .empty ∅ Store.second) countedOutside).map
      (fun sys ↦ (computedSupply sys, hotVMs sys "burst", hotClones sys "burst")) =
      some (some ("burst", 1), 0, 1) ∧
    Along (step apartPool) CountsOnce (init apartPool .empty ∅ Store.second)
      (countedOutside ++ [.advance 0 {}]) :=
  ⟨by decide +kernel, supply_counts_once apartPool .empty ∅ Store.second _ (by decide +kernel)⟩

/-- Inside `Clone` it counts as two. -/
theorem clone_counted_twice_inside :
    (run (step apartPool) (init apartPool .empty ∅ Store.second) countedInside).map
      (fun sys ↦ (computedSupply sys, hotVMs sys "burst", hotClones sys "burst")) =
      some (some ("burst", 2), 0, 1) ∧
    ¬ Along (step apartPool) CountsOnce (init apartPool .empty ∅ Store.second)
      (countedInside ++ [.advance 0 {}]) :=
  ⟨by decide +kernel, by decide +kernel⟩

end ScalesetProxmox.Pool.Demand
