import ScalesetProxmox.Pool.System

/-!
# What one step can do

What `Action.exec` and `step` can do to the rows and to the counters that follow them, said once.
`Action.RowStep` is what an action may do to the row of one VMID, `Stepped` lists the ways in which
the system moves.
-/

namespace ScalesetProxmox.Pool

open Store (VMID Time)
open Provisioner (Guest Power)

variable {cfg : Config} {s s' : Shared} {action : Action} {next : List Task} {sys sys' : Sys}
  {act : Act} {row old : Store.VM} {mutate : Time → Store.VM → Store.VM} {reply : Reply}

/-! ## Committing a transaction -/

section Commit

variable (s) (v : VMID) (store : Store)

@[simp] theorem commit_store : (s.commit v store).store = store := rfl

theorem afterInsert_eq (adopted : Bool) :
    (s.afterInsert v adopted).store = s.store ∧ (s.afterInsert v adopted).gens = s.gens ∧
      (s.afterInsert v adopted).tenancies = s.tenancies ∧ (s.afterInsert v adopted).now = s.now ∧
      (s.afterInsert v adopted).runners = s.runners ∧
      (s.afterInsert v adopted).destroyQueue = s.destroyQueue := by
  unfold Shared.afterInsert
  split
  · split <;> simp
  · simp

end Commit

/-- Two stores agree on every VMID but `v`. -/
def AgreeOff (v : VMID) (store store' : Store) : Prop := ∀ u, u ≠ v → store'.get u = store.get u

theorem agreeOff_put {store : Store} {v : VMID} (h : row.vmid = v) : AgreeOff v store (store.put row) := by
  intro u hu
  exact Table.get_put_ne row (by rw [h]; exact hu)

theorem agreeOff_erase (store : Store) (v : VMID) : AgreeOff v store (store.erase v) :=
  fun _ hu ↦ Table.get_erase_ne hu

/-- A generation begins where a row appears. -/
theorem commit_gens {v : VMID} {store : Store} (h : AgreeOff v s.store store) (u : VMID) :
    (s.commit v store).gens u =
      if (s.store.get u).isNone && (store.get u).isSome then s.gens u + 1 else s.gens u := by
  unfold Shared.commit
  dsimp only
  by_cases hu : u = v
  · subst hu
    split <;> simp
  · rw [h u hu]
    have hnot : ((s.store.get u).isNone && (s.store.get u).isSome) = false := by
      cases s.store.get u <;> rfl
    rw [hnot]
    split <;> simp [Function.update_of_ne hu]

/-- A tenancy begins where a row becomes busy. -/
theorem commit_tenancies {v : VMID} {store : Store} (h : AgreeOff v s.store store) (u : VMID) :
    (s.commit v store).tenancies u =
      if !busyAt s.store u && busyAt store u then s.tenancies u + 1 else s.tenancies u := by
  unfold Shared.commit
  dsimp only
  by_cases hu : u = v
  · subst hu
    split <;> simp
  · have hnot : (!busyAt s.store u && busyAt store u) = false := by
      have : busyAt store u = busyAt s.store u := by rw [busyAt, busyAt, h u hu]
      rw [this]
      cases busyAt s.store u <;> rfl
    rw [hnot]
    split <;> simp [Function.update_of_ne hu]

theorem get_of_allocateVMID {v : VMID} (h : allocateVMID cfg s = some v) : s.store.get v = none := by
  have hfound := List.find?_some h
  have hrange := List.mem_of_find?_eq_some h
  simp only [decide_eq_true_eq, Store.mem_usedVMIDs, List.mem_range'_1] at hfound hrange
  by_contra hrow
  refine hfound.1 ⟨Option.isSome_iff_ne_none.mpr hrow, hrange.1, ?_⟩
  grind

theorem enforceImmutable_vmid {before after : Store.VM}
    (h : Store.enforceImmutable before after) : after.vmid = before.vmid := by
  simp only [Store.enforceImmutable, decide_eq_true_eq] at h
  exact h.1.symm

/-! ## Outcomes of an action -/

inductive Outcome (cfg : Config) (s : Shared) : Action → Shared → List Task → Prop
  | skip {tasks : List Task} : Outcome cfg s (.skip tasks) s tasks
  | clock {k} : Outcome cfg s (.clock k) s (k s.now)
  | flags {k} : Outcome cfg s (.flags k) s (k s.draining s.cancelled)
  | read {k} : Outcome cfg s (.read k) s (k s.store)
  | inserted {row adopted k} (hnew : s.store.get row.vmid = none) :
      Outcome cfg s (.insert row adopted k)
        ((s.commit row.vmid (s.store.put (row.stampInsert s.now))).afterInsert row.vmid adopted)
        (k ((s.commit row.vmid (s.store.put (row.stampInsert s.now))).gens row.vmid) true)
  | notInserted {row adopted k} : Outcome cfg s (.insert row adopted k)
      (if adopted then s else { s with allocMu := false }) (k (s.gens row.vmid) false)
  | updated {v mutate k row} (hrow : s.store.get v = some row)
      (hvmid : (mutate s.now row).vmid = v) :
      Outcome cfg s (.update v mutate k)
        (s.commit v (s.store.put { mutate s.now row with updatedAt := s.now }))
        (k (s.gens v) (.ok { mutate s.now row with updatedAt := s.now }))
  | notUpdated {v mutate k err} : Outcome cfg s (.update v mutate k) s (k (s.gens v) (.error err))
  | swapped {v allowed target mutate k row} (hrow : s.store.get v = some row)
      (hstate : row.state ∈ allowed) (hvmid : (row.moved s.now target (mutate s.now)).vmid = v) :
      Outcome cfg s (.cas v allowed target mutate k)
        (s.commit v (s.store.put (row.moved s.now target (mutate s.now))))
        (k (s.gens v) (some (row.moved s.now target (mutate s.now))))
  | notSwapped {v allowed target mutate k} :
      Outcome cfg s (.cas v allowed target mutate k) s (k (s.gens v) none)
  | acquired {profile jobID maxBusy k} (row) (hrow : s.store.get row.vmid = some row)
      (hstate : row.state = .hot) :
      Outcome cfg s (.acquire profile jobID maxBusy k)
        (s.commit row.vmid (s.store.put (row.assignedTo s.now jobID)))
        (k (some (row.assignedTo s.now jobID)))
  | notAcquired {profile jobID maxBusy k} :
      Outcome cfg s (.acquire profile jobID maxBusy k) s (k none)
  | deleted {v} {tasks : List Task} :
      Outcome cfg s (.delete v tasks) (s.commit v (s.store.erase v)) tasks
  | enqueued {request} :
      Outcome cfg s (.enqueue request) { s with destroyQueue := s.destroyQueue ++ [request] } []
  | notEnqueued {request} : Outcome cfg s (.enqueue request) s []
  | allocated {k v} (hv : allocateVMID cfg s = some v) :
      Outcome cfg s (.allocate k) { s with allocMu := true } (k (some v))
  | notAllocated {k} : Outcome cfg s (.allocate k) s (k none)
  | observe {v k} :
      Outcome cfg s (.observe v k) s (k (if busyAt s.store v then some (s.tenancies v) else none))
  | listOwned {node k} :
      Outcome cfg s (.listOwned node k) s (k (Provisioner.listOwnedOn cfg.pmox s.cluster node))
  | listRunners {k} :
      Outcome cfg s (.listRunners k) s (k (Gh.listRunnersByPrefix s.runners cfg.pmox.vmNamePrefix))
  | created {guest k} (hfree : s.cluster.get guest.vmid = none) :
      Outcome cfg s (.create guest k) { s with cluster := s.cluster.put guest } (k true)
  | notCreated {guest k} : Outcome cfg s (.create guest k) s (k false)
  | touch {v node change k} : Outcome cfg s (.touch v node change k)
      { s with cluster := s.cluster.modify v node change } (k (s.cluster.find v node).isSome)
  | removed {v node k guest} (hfind : s.cluster.find v node = some guest) :
      Outcome cfg s (.remove v node k) { s with cluster := s.cluster.erase v } (k true)
  | notRemoved {v node k} (hfind : s.cluster.find v node = none) :
      Outcome cfg s (.remove v node k) s (k false)
  | settle {v} {tasks : List Task} : Outcome cfg s (.settle v tasks)
      { s with recentlyDestroyed := Function.update s.recentlyDestroyed v (some s.now) } tasks

theorem outcome_of_exec (h : action.exec cfg s = some (s', next)) : Outcome cfg s action s' next := by
  cases action with
  | insert row adopted k =>
    simp only [Action.exec] at h
    split at h
    · next store hok =>
      obtain ⟨_, hnew, rfl⟩ := Store.insert_eq_ok.mp hok
      cases h
      exact .inserted hnew
    · cases h
      exact .notInserted
  | update v mutate k =>
    simp only [Action.exec] at h
    split at h
    · next store after hok =>
      obtain ⟨row, hrow, himm, rfl, rfl⟩ := Store.update_eq_ok.mp hok
      cases h
      exact .updated hrow ((enforceImmutable_vmid himm).trans (Table.key_of_get hrow))
    · cases h
      exact .notUpdated
  | cas v allowed target mutate k =>
    simp only [Action.exec] at h
    split at h
    · next store hok =>
      obtain ⟨row, hrow, hstate, himm, rfl⟩ := Store.updateStateIn_eq_ok_true.mp hok
      have hvmid := (enforceImmutable_vmid himm).trans (Table.key_of_get hrow)
      rw [Table.get_put, if_pos hvmid.symm] at h
      cases h
      exact .swapped hrow hstate hvmid
    · cases h
      exact .notSwapped
  | acquire profile jobID maxBusy k =>
    simp only [Action.exec] at h
    split at h
    · next store after hok =>
      obtain ⟨row, hrow, hstate, rfl, rfl⟩ := Store.acquireHotInProfile_eq_ok hok
      cases h
      exact .acquired row hrow hstate
    · cases h
      exact .notAcquired
  | delete v k =>
    cases h
    exact .deleted
  | enqueue request =>
    simp only [Action.exec] at h
    split at h
    · cases h
      exact .enqueued
    · cases h
      exact .notEnqueued
  | allocate k =>
    simp only [Action.exec] at h
    split_ifs at h
    · cases h
      exact .notAllocated
    · split at h
      · next v hv =>
        cases h
        exact .allocated hv
      · cases h
        exact .notAllocated
  | create guest k =>
    simp only [Action.exec] at h
    split at h
    · cases h
      exact .notCreated
    · next hfree =>
      cases h
      exact .created hfree
  | remove v node k =>
    simp only [Action.exec] at h
    split at h
    · next guest hfind =>
      cases h
      exact .removed hfind
    · next hfind =>
      cases h
      exact .notRemoved hfind
  | _ =>
    cases h
    constructor

/-! ## Rows -/

variable {k : ℕ → Except Store.Err Store.VM → List Task}

/-- A write of a row that is there succeeds. -/
theorem exec_update {v : VMID} (hget : s.store.get v = some old)
    (himm : Store.enforceImmutable old (mutate s.now old)) :
    Action.exec cfg s (.update v mutate k) =
      some (s.commit v (s.store.put { mutate s.now old with updatedAt := s.now }),
        k (s.gens v) (.ok { mutate s.now old with updatedAt := s.now })) := by
  have hupdate : s.store.update s.now v (mutate s.now) =
      .ok (s.store.put { mutate s.now old with updatedAt := s.now },
        { mutate s.now old with updatedAt := s.now }) :=
    Store.update_eq_ok.mpr ⟨old, hget, himm, rfl, rfl⟩
  simp only [Action.exec, hupdate]

/-- What an action may do to the row of `v`, from `old` to `new`, when it changes it. -/
def Action.RowStep (now : Time) (v : VMID) (old new : Option Store.VM) : Action → Prop
  | .insert row _ _ => row.vmid = v ∧ old = none ∧ new = some (row.stampInsert now)
  | .update u mutate _ => u = v ∧
      ∃ row, old = some row ∧ new = some { mutate now row with updatedAt := now }
  | .cas u allowed target mutate _ => u = v ∧
      ∃ row, old = some row ∧ row.state ∈ allowed ∧ new = some (row.moved now target (mutate now))
  | .acquire _ jobID _ _ =>
      ∃ row, old = some row ∧ row.state = .hot ∧ new = some (row.assignedTo now jobID)
  | .delete u _ => u = v ∧ new = none
  | _ => False

/-- The transaction an action commits, if it commits one. -/
inductive Committed (s : Shared) : Action → VMID → Store → Prop
  | insert {row adopted k} (hnew : s.store.get row.vmid = none) :
      Committed s (.insert row adopted k) row.vmid (s.store.put (row.stampInsert s.now))
  | update {v mutate k row} (hrow : s.store.get v = some row)
      (hvmid : (mutate s.now row).vmid = v) :
      Committed s (.update v mutate k) v (s.store.put { mutate s.now row with updatedAt := s.now })
  | cas {v allowed target mutate k row} (hrow : s.store.get v = some row)
      (hstate : row.state ∈ allowed) (hvmid : (row.moved s.now target (mutate s.now)).vmid = v) :
      Committed s (.cas v allowed target mutate k) v
        (s.store.put (row.moved s.now target (mutate s.now)))
  | acquire {profile jobID maxBusy k row} (hrow : s.store.get row.vmid = some row)
      (hstate : row.state = .hot) :
      Committed s (.acquire profile jobID maxBusy k) row.vmid
        (s.store.put (row.assignedTo s.now jobID))
  | delete {v k} : Committed s (.delete v k) v (s.store.erase v)

theorem Committed.agreeOff {v : VMID} {store : Store} (h : Committed s action v store) :
    AgreeOff v s.store store := by
  cases h with
  | insert | acquire => exact agreeOff_put rfl
  | update _ hvmid | cas _ _ hvmid => exact agreeOff_put hvmid
  | delete => exact agreeOff_erase _ _

theorem Committed.rowStep {v : VMID} {store : Store} (h : Committed s action v store) :
    action.RowStep s.now v (s.store.get v) (store.get v) := by
  cases h with
  | insert hnew => exact ⟨rfl, hnew, Table.get_put_self _ _⟩
  | update hrow hvmid =>
    refine ⟨rfl, _, hrow, ?_⟩
    rw [Table.get_put, if_pos hvmid.symm]
  | cas hrow hstate hvmid =>
    refine ⟨rfl, _, hrow, hstate, ?_⟩
    rw [Table.get_put, if_pos hvmid.symm]
  | @acquire _ jobID _ _ row hrow hstate =>
    exact ⟨row, hrow, hstate, Table.get_put_self s.store (row.assignedTo s.now jobID)⟩
  | delete => exact ⟨rfl, Table.get_erase_self _ _⟩

/-- An action leaves the rows alone or commits one transaction. -/
theorem exec_committed (h : action.exec cfg s = some (s', next)) :
    (s'.store = s.store ∧ s'.gens = s.gens ∧ s'.tenancies = s.tenancies) ∨
    ∃ v store, Committed s action v store ∧ s'.store = store ∧
      s'.gens = (s.commit v store).gens ∧ s'.tenancies = (s.commit v store).tenancies := by
  cases outcome_of_exec h with
  | @inserted row adopted k hnew =>
    obtain ⟨hstore, hgens, htenancies, _⟩ := afterInsert_eq
      (s.commit row.vmid (s.store.put (row.stampInsert s.now))) row.vmid adopted
    exact .inr ⟨_, _, .insert hnew, hstore, hgens, htenancies⟩
  | notInserted => split <;> exact .inl ⟨rfl, rfl, rfl⟩
  | updated hrow hvmid => exact .inr ⟨_, _, .update hrow hvmid, rfl, rfl, rfl⟩
  | swapped hrow hstate hvmid => exact .inr ⟨_, _, .cas hrow hstate hvmid, rfl, rfl, rfl⟩
  | acquired row hrow hstate => exact .inr ⟨_, _, .acquire hrow hstate, rfl, rfl, rfl⟩
  | deleted => exact .inr ⟨_, _, .delete, rfl, rfl, rfl⟩
  | _ => exact .inl ⟨rfl, rfl, rfl⟩

theorem exec_row (h : action.exec cfg s = some (s', next)) (v : VMID) :
    s'.store.get v = s.store.get v ∨ action.RowStep s.now v (s.store.get v) (s'.store.get v) := by
  rcases exec_committed h with ⟨hstore, _⟩ | ⟨u, store, hcommitted, rfl, _⟩
  · exact .inl (by rw [hstore])
  · by_cases hv : v = u
    · subst hv
      exact .inr hcommitted.rowStep
    · exact .inl (hcommitted.agreeOff v hv)

theorem exec_gens (h : action.exec cfg s = some (s', next)) (v : VMID) :
    s'.gens v =
      if (s.store.get v).isNone && (s'.store.get v).isSome then s.gens v + 1 else s.gens v := by
  rcases exec_committed h with ⟨hstore, hgens, _⟩ | ⟨u, store, hcommitted, rfl, hgens, _⟩
  · rw [hstore, hgens]
    cases s.store.get v <;> rfl
  · rw [hgens]
    exact commit_gens hcommitted.agreeOff v

theorem exec_tenancies (h : action.exec cfg s = some (s', next)) (v : VMID) :
    s'.tenancies v =
      if !busyAt s.store v && busyAt s'.store v then s.tenancies v + 1 else s.tenancies v := by
  rcases exec_committed h with ⟨hstore, _, htenancies⟩ | ⟨u, store, hcommitted, rfl, _, htenancies⟩
  · rw [hstore, htenancies]
    cases busyAt s.store v <;> rfl
  · rw [htenancies]
    exact commit_tenancies hcommitted.agreeOff v

/-- The clock and GitHub's runners change by no step of a task. -/
theorem exec_frame (h : action.exec cfg s = some (s', next)) :
    s'.now = s.now ∧ s'.runners = s.runners := by
  cases outcome_of_exec h with
  | @inserted row adopted k hnew =>
    obtain ⟨_, _, _, hnow, hrunners, _⟩ := afterInsert_eq (s.commit row.vmid _) row.vmid adopted
    exact ⟨hnow, hrunners⟩
  | notInserted => split <;> exact ⟨rfl, rfl⟩
  | _ => exact ⟨rfl, rfl⟩

/-! ## Steps of the system -/

/-- What happens outside the pool's tasks, the arrival of calls apart. -/
inductive Outside (s : Shared) : Act → Shared → Prop
  | dropQueue : Outside s .dropQueue { s with destroyQueue := [] }
  | elapse (d : ℕ) : Outside s (.elapse d) { s with now := s.now + d }
  | drain : Outside s .drain { s with draining := true }
  | cancel : Outside s .cancel { s with cancelled := true }
  | createGuest {v : VMID} {node name tags : String} (hfree : s.cluster.get v = none) :
      Outside s (.createGuest v node name tags)
        { s with cluster := s.cluster.put { vmid := v, node := node, name := name, tags := tags } }
  | removeGuest (v : VMID) : Outside s (.removeGuest v) { s with cluster := s.cluster.erase v }
  | setPower {v : VMID} {power : Power} {guest : Guest} (hguest : s.cluster.get v = some guest) :
      Outside s (.setPower v power)
        { s with cluster := s.cluster.put { guest with power := power } }
  | runJob {v : VMID} {guest : Guest} (hguest : s.cluster.get v = some guest)
      (hdisk : guest.disk ≠ .clean) :
      Outside s (.runJob v) { s with cluster := s.cluster.put { guest with disk := .used } }
  | setRunner (name : String) (runner : Gh.RunnerInfo) :
      Outside s (.setRunner name runner) { s with runners := s.runners.insert name runner }
  | removeRunner (name : String) :
      Outside s (.removeRunner name) { s with runners := s.runners.erase name }

/-- The five ways the system moves. -/
inductive Stepped (cfg : Config) (sys : Sys) : Act → Sys → Prop
  | fire {i reply task shared next} (hthread : sys.threads[i]? = some task)
      (hexec : (task.action cfg reply).exec cfg sys.shared = some (shared, next)) :
      Stepped cfg sys (.fire i reply) ⟨shared, sys.threads.eraseIdx i ++ next⟩
  | call {task} (hcallable : callable sys.shared task = true) :
      Stepped cfg sys (.call task) ⟨sys.shared, sys.threads ++ [task]⟩
  | dispatch {request rest} (hqueue : sys.shared.destroyQueue = request :: rest) :
      Stepped cfg sys .dispatch
        ⟨{ sys.shared with destroyQueue := rest }, sys.threads ++ [.destroyGet request false]⟩
  | crash : Stepped cfg sys .crash ⟨sys.shared.restart, [.adopt]⟩
  | outside {act shared} (houtside : Outside sys.shared act shared) :
      Stepped cfg sys act ⟨shared, sys.threads⟩

theorem stepped_of_step (h : step cfg sys act = some sys') : Stepped cfg sys act sys' := by
  cases act with
  | fire i reply =>
    rw [step] at h
    obtain ⟨task, shared, next, hthread, hexec, rfl⟩ := Transition.fire_eq_some.mp h
    exact .fire hthread hexec
  | call task =>
    simp only [step] at h
    split_ifs at h with hcallable
    cases h
    exact .call hcallable
  | dispatch =>
    simp only [step] at h
    split at h
    · cases h
    · next request rest hqueue =>
      cases h
      exact .dispatch hqueue
  | crash =>
    cases h
    exact .crash
  | dropQueue =>
    simp only [step] at h
    split_ifs at h
    cases h
    exact .outside .dropQueue
  | elapse | drain | cancel | removeGuest | setRunner | removeRunner =>
    cases h
    refine .outside ?_
    constructor
  | createGuest v node name tags =>
    simp only [step] at h
    split at h
    · cases h
    · next hfree =>
      cases h
      exact .outside (.createGuest hfree)
  | setPower v power =>
    simp only [step] at h
    split at h
    · cases h
    · next guest hguest =>
      cases h
      exact .outside (.setPower hguest)
  | runJob v =>
    simp only [step] at h
    split at h
    · cases h
    · next guest hguest =>
      split_ifs at h with hdisk
      cases h
      exact .outside (.runJob hguest hdisk)

theorem Outside.store_eq (h : Outside s act s') :
    s'.store = s.store ∧ s'.gens = s.gens ∧ s'.tenancies = s.tenancies ∧ s.now ≤ s'.now := by
  cases h <;> simp

/-- The task that takes the step. -/
def moving (sys : Sys) : Act → Option Task
  | .fire i _ => sys.threads[i]?
  | _ => none

@[simp]
theorem moving_fire (i : ℕ) (reply : Reply) : moving sys (.fire i reply) = sys.threads[i]? := rfl

variable {task : Task}

theorem mem_threads_of_moving (h : moving sys act = some task) : task ∈ sys.threads := by
  cases act with
  | fire i reply => exact List.mem_of_getElem? h
  | _ => cases h

/-- A task whose step is to write a row that is there writes it and goes on. -/
theorem step_update {v : VMID} (hstep : step cfg sys act = some sys') (hmoving : moving sys act = some task)
    (haction : ∀ reply, task.action cfg reply = .update v mutate k)
    (hold : sys.shared.store.get v = some old)
    (himm : Store.enforceImmutable old (mutate sys.shared.now old)) :
    sys'.shared.store.get v = some { mutate sys.shared.now old with updatedAt := sys.shared.now } ∧
      ∀ other ∈ k (sys.shared.gens v)
        (.ok { mutate sys.shared.now old with updatedAt := sys.shared.now }), other ∈ sys'.threads := by
  have hvmid : (mutate sys.shared.now old).vmid = v :=
    (enforceImmutable_vmid himm).trans (Table.key_of_get hold)
  cases stepped_of_step hstep with
  | fire hthread hexec =>
    rw [moving_fire, hthread, Option.some.injEq] at hmoving
    rw [hmoving, haction, exec_update hold himm] at hexec
    cases hexec
    refine ⟨?_, fun other hother ↦ List.mem_append_right _ hother⟩
    rw [commit_store, Table.get_put, if_pos hvmid.symm]
  | call | dispatch | crash => cases hmoving
  | outside houtside => cases houtside <;> cases hmoving

theorem step_row (h : step cfg sys act = some sys') (v : VMID) :
    sys'.shared.store.get v = sys.shared.store.get v ∨
    (act = .crash ∧ sys'.shared.store.get v = none) ∨
    ∃ reply task, moving sys act = some task ∧
      (task.action cfg reply).RowStep sys.shared.now v (sys.shared.store.get v)
        (sys'.shared.store.get v) := by
  cases stepped_of_step h with
  | fire hthread hexec =>
    rcases exec_row hexec v with hsame | hrow
    · exact .inl hsame
    · exact .inr (.inr ⟨_, _, hthread, hrow⟩)
  | call => exact .inl rfl
  | dispatch => exact .inl rfl
  | crash => exact .inr (.inl ⟨rfl, Table.get_empty v⟩)
  | outside houtside => exact .inl (by rw [houtside.store_eq.1])

/-- A row that is there after a step was there before, or a task has moved it there from what it was,
or inserted it. -/
theorem step_row_some (h : step cfg sys act = some sys') {v : VMID}
    (hrow : sys'.shared.store.get v = some row) :
    sys.shared.store.get v = some row ∨
    ∃ reply task, moving sys act = some task ∧
      ((∃ old, sys.shared.store.get v = some old ∧
          (task.action cfg reply).RowStep sys.shared.now v (some old) (some row)) ∨
        (sys.shared.store.get v = none ∧
          (task.action cfg reply).RowStep sys.shared.now v none (some row))) := by
  rcases step_row h v with hsame | ⟨_, hnone⟩ | ⟨reply, task, hmoving, hstep⟩
  · exact .inl (hsame.symm.trans hrow)
  · rw [hrow] at hnone
    cases hnone
  · rw [hrow] at hstep
    refine .inr ⟨reply, task, hmoving, ?_⟩
    cases hold : sys.shared.store.get v with
    | some old => exact .inl ⟨old, rfl, hold ▸ hstep⟩
    | none => exact .inr ⟨rfl, hold ▸ hstep⟩

/-- The VMID whose row the task is about to delete. -/
def Task.deletes : Task → Option VMID
  | .destroyRow request _ => some request.vmid
  | _ => none

theorem deletes_of_rowStep {now : Time} {v : VMID} {old : Option Store.VM}
    (h : (task.action cfg reply).RowStep now v old none) : task.deletes = some v := by
  revert h
  cases task <;> dsimp <;> (repeat' split) <;> simp [Action.RowStep, Task.deletes]

/-- A row outlives every step that is neither a crash nor the end of its destroy. -/
theorem step_row_isSome (h : step cfg sys act = some sys') {v : VMID} (hcrash : act ≠ .crash)
    (hdelete : ∀ task, moving sys act = some task → task.deletes ≠ some v)
    (hrow : (sys.shared.store.get v).isSome) : (sys'.shared.store.get v).isSome = true := by
  rcases step_row h v with hsame | ⟨rfl, _⟩ | ⟨reply, task, hmoving, hstep⟩
  · rw [hsame]
    exact hrow
  · exact absurd rfl hcrash
  · cases hnew : sys'.shared.store.get v with
    | some row => rfl
    | none =>
      rw [hnew] at hstep
      exact absurd (deletes_of_rowStep hstep) (hdelete task hmoving)

/-- The VMID that a task is about to insert a row for, and whether it adopts a guest. -/
def Task.inserts : Task → Option (VMID × Bool)
  | .cloneInsert _ _ _ _ v => some (v, false)
  | .adoptInsert row _ _ _ => some (row.vmid, true)
  | _ => none

theorem inserts_of_rowStep {now : Time} {v : VMID}
    (h : (task.action cfg reply).RowStep now v none (some row)) :
    ∃ adopted, task.inserts = some (v, adopted) := by
  revert h
  cases task <;> dsimp <;> (repeat' split) <;> simp [Action.RowStep, Task.inserts]
  all_goals exact fun hvmid _ ↦ hvmid

/-- The two rows are of one VM: they agree on its node and name, and on what it was cloned for. -/
@[mk_iff]
structure SameVM (old new : Store.VM) : Prop where
  node : new.node = old.node
  name : new.name = old.name
  profile : new.profile = old.profile
  template : new.template = old.template

theorem sameVM_of_rowStep {now : Time} {v : VMID} {new : Store.VM}
    (h : (task.action cfg reply).RowStep now v (some old) (some new)) : SameVM old new := by
  rw [sameVM_iff]
  revert h
  cases task <;> dsimp <;> (repeat' split) <;>
    simp +contextual [Action.RowStep, Store.VM.moved, Store.VM.assignedTo]

theorem step_inserts (h : step cfg sys act = some sys') {v : VMID} (hold : sys.shared.store.get v = none)
    (hnew : sys'.shared.store.get v = some row) :
    ∃ task adopted, moving sys act = some task ∧ task.inserts = some (v, adopted) := by
  rcases step_row_some h hnew with
    hsame | ⟨reply, task, hmoving, ⟨old, hsome, _⟩ | ⟨_, hrow⟩⟩
  · cases hold.symm.trans hsame
  · cases hold.symm.trans hsome
  · obtain ⟨adopted, hinserts⟩ := inserts_of_rowStep hrow
    exact ⟨task, adopted, hmoving, hinserts⟩

/-- Time does not go back. -/
theorem step_now (h : step cfg sys act = some sys') : sys.shared.now ≤ sys'.shared.now := by
  cases stepped_of_step h with
  | fire _ hexec => exact (exec_frame hexec).1.ge
  | call | dispatch | crash => exact le_rfl
  | outside houtside => exact houtside.store_eq.2.2.2

theorem step_gens (h : step cfg sys act = some sys') (v : VMID) :
    sys'.shared.gens v =
      if (sys.shared.store.get v).isNone && (sys'.shared.store.get v).isSome then
        sys.shared.gens v + 1
      else sys.shared.gens v := by
  have hsame : ((sys.shared.store.get v).isNone && (sys.shared.store.get v).isSome) = false := by
    cases sys.shared.store.get v <;> rfl
  cases stepped_of_step h with
  | fire _ hexec => exact exec_gens hexec v
  | call => simp [hsame]
  | dispatch => simp [hsame]
  | crash =>
    simp [Shared.restart]
  | outside houtside =>
    obtain ⟨hstore, hgens, _⟩ := houtside.store_eq
    simp [hstore, hgens, hsame]

theorem step_tenancies (h : step cfg sys act = some sys') (v : VMID) :
    sys'.shared.tenancies v =
      if !busyAt sys.shared.store v && busyAt sys'.shared.store v then sys.shared.tenancies v + 1
      else sys.shared.tenancies v := by
  cases stepped_of_step h with
  | fire _ hexec => exact exec_tenancies hexec v
  | call => simp
  | dispatch => simp
  | crash => simp [Shared.restart, busyAt]
  | outside houtside =>
    obtain ⟨hstore, _, htenancies, _⟩ := houtside.store_eq
    simp [hstore, htenancies]

end ScalesetProxmox.Pool
