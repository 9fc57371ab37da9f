import ScalesetProxmox.Pool.Effects

/-!
# What a step leaves behind

`Action.Next` spells out, for each action, the outcomes its continuation can be called with and what
is known of the shared state before and after each of them. `exec_next` is the rule every invariant
of the tasks uses: what holds of the successors in all outcomes holds of the successors of the step.
`Action.GuestStep` is the same for the guest of one VMID.
-/

namespace ScalesetProxmox.Pool

open Store (VMID)
open Provisioner (Guest Cluster)

variable {cfg : Config} {s s' : Shared} {action : Action} {next : List Task} {sys sys' : Sys}
  {act : Act}

/-! ## Successors -/

/-- `P` holds of the successors in every outcome the action can have between `s` and `s'`. -/
def Action.Next (cfg : Config) (s s' : Shared) (P : List Task → Prop) : Action → Prop
  | .skip next => P next
  | .clock k => P (k s.now)
  | .flags k => P (k s.draining s.cancelled)
  | .read k => P (k s.store)
  | .insert row _ k =>
      (s.store.get row.vmid = none → s'.store.get row.vmid = some (row.stampInsert s.now) →
        s'.gens row.vmid = s.gens row.vmid + 1 → P (k (s.gens row.vmid + 1) true)) ∧
      P (k (s.gens row.vmid) false)
  | .update v mutate k =>
      (∀ row, s.store.get v = some row →
        s'.store.get v = some { mutate s.now row with updatedAt := s.now } →
        s'.gens v = s.gens v →
        P (k (s.gens v) (.ok { mutate s.now row with updatedAt := s.now }))) ∧
      ∀ err, P (k (s.gens v) (.error err))
  | .cas v allowed target mutate k =>
      (∀ row, s.store.get v = some row → row.state ∈ allowed →
        s'.store.get v = some (row.moved s.now target (mutate s.now)) →
        s'.gens v = s.gens v →
        P (k (s.gens v) (some (row.moved s.now target (mutate s.now))))) ∧
      P (k (s.gens v) none)
  | .acquire _ jobID _ k =>
      (∀ row, s.store.get row.vmid = some row → row.state = .hot →
        s'.store.get row.vmid = some (row.assignedTo s.now jobID) →
        P (k (some (row.assignedTo s.now jobID)))) ∧
      P (k none)
  | .delete _ next => P next
  | .enqueue _ => P []
  | .allocate k => (∀ v, allocateVMID cfg s = some v → P (k (some v))) ∧ P (k none)
  | .observe v k => P (k (if busyAt s.store v then some (s.tenancies v) else none))
  | .listOwned node k => P (k (Provisioner.listOwnedOn cfg.pmox s.cluster node))
  | .listRunners k => P (k (Gh.listRunnersByPrefix s.runners cfg.pmox.vmNamePrefix))
  | .create guest k =>
      (s.cluster.get guest.vmid = none → s'.cluster.get guest.vmid = some guest → P (k true)) ∧
      P (k false)
  | .touch v node _ k =>
      (∀ guest, s.cluster.find v node = some guest → P (k true)) ∧
      (s.cluster.find v node = none → P (k false))
  | .remove v node k =>
      (∀ guest, s.cluster.find v node = some guest → P (k true)) ∧
      (s.cluster.find v node = none → P (k false))
  | .settle _ next => P next

theorem exec_next {P : List Task → Prop} (h : action.exec cfg s = some (s', next))
    (hnext : action.Next cfg s s' P) : P next := by
  cases outcome_of_exec h with
  | @inserted row adopted k hnew =>
    have hgens := exec_gens h row.vmid
    obtain ⟨hstore, hgens', _⟩ := afterInsert_eq
      (s.commit row.vmid (s.store.put (row.stampInsert s.now))) row.vmid adopted
    have hrow : (s.store.put (row.stampInsert s.now)).get row.vmid =
        some (row.stampInsert s.now) := Table.get_put_self s.store (row.stampInsert s.now)
    rw [hstore, commit_store, hrow, hnew, hgens'] at hgens
    rw [show (s.commit row.vmid (s.store.put (row.stampInsert s.now))).gens row.vmid =
      s.gens row.vmid + 1 from hgens]
    exact hnext.1 hnew (by rw [hstore]; exact hrow) (by rw [hgens']; exact hgens)
  | @updated v mutate k row hrow hvmid =>
    have hgens := exec_gens h v
    rw [hrow] at hgens
    refine hnext.1 row hrow ?_ hgens
    rw [commit_store, Table.get_put, if_pos hvmid.symm]
  | @swapped v allowed target mutate k row hrow hstate hvmid =>
    have hgens := exec_gens h v
    rw [hrow] at hgens
    refine hnext.1 row hrow hstate ?_ hgens
    rw [commit_store, Table.get_put, if_pos hvmid.symm]
  | @acquired profile jobID maxBusy k row hrow hstate =>
    exact hnext.1 row hrow hstate (Table.get_put_self s.store (row.assignedTo s.now jobID))
  | allocated hv => exact hnext.1 _ hv
  | created hfree => exact hnext.1 hfree (Table.get_put_self _ _)
  | @touch v node change k =>
    cases hfind : s.cluster.find v node with
    | none => exact hnext.2 hfind
    | some guest => exact hnext.1 guest hfind
  | removed hfind => exact hnext.1 _ hfind
  | notRemoved hfind => exact hnext.2 hfind
  | notUpdated => exact hnext.2 _
  | notInserted | notSwapped | notAcquired | notAllocated | notCreated => exact hnext.2
  | _ => exact hnext

variable {P : Task → Prop}

theorem exec_forall {other : Task} (h : action.exec cfg s = some (s', next))
    (hnext : action.Next cfg s s' (List.Forall P)) (hother : other ∈ next) : P other :=
  List.forall_iff_forall_mem.mp (exec_next h hnext) other hother

theorem Action.Next.imp {P Q : List Task → Prop} (h : action.Next cfg s s' P)
    (hPQ : ∀ next, P next → Q next) : action.Next cfg s s' Q := by
  cases action with
  | insert => exact ⟨fun hnew hrow hgens ↦ hPQ _ (h.1 hnew hrow hgens), hPQ _ h.2⟩
  | update => exact ⟨fun row hold hrow hgens ↦ hPQ _ (h.1 row hold hrow hgens), fun err ↦ hPQ _ (h.2 err)⟩
  | cas => exact ⟨fun row hold hstate hrow hgens ↦ hPQ _ (h.1 row hold hstate hrow hgens), hPQ _ h.2⟩
  | acquire => exact ⟨fun row hold hstate hrow ↦ hPQ _ (h.1 row hold hstate hrow), hPQ _ h.2⟩
  | allocate => exact ⟨fun v hv ↦ hPQ _ (h.1 v hv), hPQ _ h.2⟩
  | create => exact ⟨fun hfree hguest ↦ hPQ _ (h.1 hfree hguest), hPQ _ h.2⟩
  | touch | remove =>
    exact ⟨fun guest hguest ↦ hPQ _ (h.1 guest hguest), fun hnone ↦ hPQ _ (h.2 hnone)⟩
  | _ => exact hPQ _ h

theorem Action.Next.mono {Q : Task → Prop} (h : action.Next cfg s s' (List.Forall P))
    (hPQ : ∀ task, P task → Q task) : action.Next cfg s s' (List.Forall Q) :=
  h.imp fun _ ↦ List.Forall.imp hPQ

/-! ## Parts of the pool -/

/-- The part of the pool that a task belongs to. -/
inductive Part
  | provision | callback | rollback | destroy | idle | sweep | promote | clone | boot | powerPoll | adopt
  | tick
  deriving DecidableEq

def Task.part : Task → Part
  | .provisionJit _ | .provisionSetRunner _ _ | .provisionInject _ => .provision
  | .acquire _ _ _ | .setRunnerID _ _ | .stampJobMetadata _ _ _ _ | .markRunning _ _
  | .promoteToRunning _ _ _ | .forceDestroy _ | .preempt _ | .preemptCas _ | .markCompleted _ _
  | .markCompletedDecide _ _ | .markCompletedCas _ _ _ => .callback
  | .rollbackAsync _ | .rollbackClear _ | .rollbackSnapshot _ | .rollbackWarm _
  | .fallbackDestroy _ => .rollback
  | .destroyAsync _ | .destroyEnqueue _ | .destroyOrSyncFallback _ | .destroyGet _ _
  | .destroyDelete _ _ | .destroyAwait _ _ | .destroyRow _ _ => .destroy
  | .shrinkPool _ _ _ | .shrinkList _ _ _ | .shrinkLoop _ _ _ _ | .recycleOldVMs _ _
  | .recycleList _ _ | .recycleLoop _ _ | .evictForDemand _ | .evictLoop _ _ => .idle
  | .sweepStuckRows | .sweepList _ | .sweepLoop _ => .sweep
  | .promoteN _ _ | .promoteLoop _ => .promote
  | .kickClone _ _ _ | .cloneAllocate _ _ _ _ | .cloneInsert _ _ _ _ _ | .cloneIpam _
  | .cloneIssue _ | .cloneAwait _ _ | .cloneConfigure _ _ | .clonePower _ _ | .cloneSnapshot _ _
  | .cloneUpdate _ _ _ | .cloneFailure _ => .clone
  | .bootStart _ | .bootWait _ | .bootHot _ | .poisonInc _ | .poisonMark _
  | .poisonDestroying _ _ => .boot
  | .powerPollOnce | .powerPollLoop _ => .powerPoll
  | .adopt | .adoptScan _ _ | .adoptRunners _ | .adoptLoop _ _ | .adoptInsert _ _ _ _ => .adopt
  | .tick | .tickRows _ | .tickMatrix _ _ | .tickApply _ _ _ => .tick

/-- The parts that a step can lead to. -/
def Part.successors : Part → List Part
  | .provision => [.provision, .callback]
  | .callback => [.provision, .callback, .rollback, .destroy]
  | .rollback => [.rollback, .destroy]
  | .destroy => [.destroy]
  | .idle => [.idle, .destroy]
  | .sweep => [.sweep, .destroy]
  | .promote => [.promote, .boot]
  | .clone => [.clone, .boot, .destroy]
  | .boot => [.boot, .destroy]
  | .powerPoll => [.powerPoll, .callback]
  | .adopt => [.adopt, .rollback]
  | .tick => [.tick, .destroy]

theorem part_next {task : Task} {reply : Reply} :
    (task.action cfg reply).Next cfg s s' (List.Forall fun other ↦ other.part ∈ task.part.successors) := by
  cases task <;> dsimp <;> (repeat' split) <;> dsimp [Action.Next] <;>
    (repeat' first | split | apply And.intro | intro _) <;>
    first | trivial | simp [Task.part, Part.successors, List.forall_iff_forall_mem]

/-- Whether a step of the part can lead to one of the others. -/
def Part.leadsTo (part : Part) (others : List Part) : Bool := part.successors.any others.contains

/-- The rule for what only concerns some parts: it is only to be shown of the tasks that lead to one of
them. -/
theorem next_of_parts {task : Task} {reply : Reply} (parts : List Part)
    (hP : ∀ other, parts.contains other.part = false → P other)
    (h : task.part.leadsTo parts → (task.action cfg reply).Next cfg s s' (List.Forall P)) :
    (task.action cfg reply).Next cfg s s' (List.Forall P) := by
  by_cases hparts : task.part.leadsTo parts = true
  · exact h hparts
  · refine part_next.mono fun other hother ↦ hP other ?_
    exact Bool.eq_false_iff.mpr fun hmem ↦ hparts (List.any_eq_true.mpr ⟨other.part, hother, hmem⟩)

/-- The tasks that a step leaves where they are. -/
def bystanders (sys : Sys) : Act → List Task
  | .fire i _ => sys.threads.eraseIdx i
  | .crash => []
  | _ => sys.threads

theorem mem_threads_of_bystander {task : Task} (h : task ∈ bystanders sys act) :
    task ∈ sys.threads := by
  cases act with
  | fire => exact List.mem_of_mem_eraseIdx h
  | crash => cases h
  | _ => exact h

/-- The rule for invariants of the tasks: the one that moves hands `J` on, the bystanders keep it,
and calls, dispatched requests and a new process have it. -/
theorem step_threads {I J : Task → Prop} (h : step cfg sys act = some sys')
    (hinv : ∀ task ∈ sys.threads, I task)
    (hnext : ∀ reply task, moving sys act = some task → I task →
      (task.action cfg reply).Next cfg sys.shared sys'.shared (List.Forall J))
    (hkeep : ∀ task ∈ bystanders sys act, I task → J task)
    (hcall : ∀ task, callable sys.shared task → J task)
    (hdispatch : ∀ request ∈ sys.shared.destroyQueue, J (.destroyGet request false))
    (hadopt : J .adopt) : ∀ task ∈ sys'.threads, J task := by
  cases stepped_of_step h with
  | fire hthread hexec =>
    have hsucc := exec_next hexec
      (hnext _ _ hthread (hinv _ (List.mem_of_getElem? hthread)))
    exact Transition.forall_threads_fire _ hinv (List.forall_iff_forall_mem.mp hsucc) hkeep
  | call hcallable =>
    refine List.forall_mem_append.mpr ⟨fun task hold ↦ hkeep task hold (hinv task hold), ?_⟩
    exact List.forall_mem_singleton.mpr (hcall _ hcallable)
  | dispatch hqueue =>
    refine List.forall_mem_append.mpr ⟨fun task hold ↦ hkeep task hold (hinv task hold), ?_⟩
    exact List.forall_mem_singleton.mpr (hdispatch _ (by rw [hqueue]; exact List.mem_cons_self))
  | crash => exact List.forall_mem_singleton.mpr hadopt
  | outside houtside =>
    have hkeep' : ∀ task ∈ sys.threads, I task → J task := by
      cases houtside <;> exact hkeep
    exact fun task hmem ↦ hkeep' task hmem (hinv task hmem)

/-- The rule for what no call, no dispatched request and no new process has: the task stood by or goes on
from the one that moved. -/
theorem tagged_step {α : Type} {tag : Task → Option α} {x : α} {other : Task}
    (h : step cfg sys act = some sys') (hmem : other ∈ sys'.threads) (htag : tag other = some x)
    (hcall : ∀ task, callable sys.shared task → tag task = none)
    (hget : ∀ request, tag (.destroyGet request false) = none) (hadopt : tag .adopt = none) :
    (act ≠ .crash ∧ other ∈ bystanders sys act) ∨
      ∃ i reply task next, act = .fire i reply ∧ sys.threads[i]? = some task ∧
        (task.action cfg reply).exec cfg sys.shared = some (sys'.shared, next) ∧ other ∈ next := by
  -- a task that has just arrived has no tag
  have hnew {task : Task} (hnone : tag task = none) (hother : other ∈ [task]) : False := by
    rw [List.mem_singleton.mp hother, hnone] at htag
    cases htag
  cases stepped_of_step h with
  | fire hthread hexec =>
    exact (List.mem_append.mp hmem).imp (fun hold ↦ ⟨by simp, hold⟩)
      fun hnext ↦ ⟨_, _, _, _, rfl, hthread, hexec, hnext⟩
  | call hcallable =>
    exact .inl ⟨by simp, (List.mem_append.mp hmem).resolve_right (hnew (hcall _ hcallable))⟩
  | dispatch => exact .inl ⟨by simp, (List.mem_append.mp hmem).resolve_right (hnew (hget _))⟩
  | crash => exact (hnew hadopt hmem).elim
  | outside houtside => exact .inl (by cases houtside <;> exact ⟨by simp, hmem⟩)

/-- The rule for what holds of any two tasks, and of any task and one that has just arrived. -/
theorem pairwise_step {R : Task → Task → Prop} (h : step cfg sys act = some sys')
    (hinv : sys.threads.Pairwise R)
    (hfire : ∀ i reply task next, act = .fire i reply → sys.threads[i]? = some task →
      (task.action cfg reply).exec cfg sys.shared = some (sys'.shared, next) →
      next.Pairwise R ∧ ∀ other ∈ next, ∀ bystander ∈ bystanders sys act, R bystander other)
    (hcall : ∀ task other, callable sys.shared other → R task other)
    (hget : ∀ task request, R task (.destroyGet request false)) : sys'.threads.Pairwise R := by
  have hnew {other : Task} (hother : ∀ task, R task other) : (sys.threads ++ [other]).Pairwise R := by
    refine List.pairwise_append.mpr ⟨hinv, List.pairwise_singleton _ _, fun task _ last hlast ↦ ?_⟩
    rw [List.mem_singleton.mp hlast]
    exact hother task
  cases stepped_of_step h with
  | fire hthread hexec =>
    obtain ⟨hnext, hapart⟩ := hfire _ _ _ _ rfl hthread hexec
    exact List.pairwise_append.mpr ⟨hinv.sublist (List.eraseIdx_sublist _ _), hnext,
      fun bystander hmem other hother ↦ hapart other hother bystander hmem⟩
  | call hcallable => exact hnew fun task ↦ hcall task _ hcallable
  | dispatch => exact hnew fun task ↦ hget task _
  | crash => exact List.pairwise_singleton _ _
  | outside => exact hinv

theorem exec_destroyQueue (h : action.exec cfg s = some (s', next)) {request : DestroyRequest}
    (hmem : request ∈ s'.destroyQueue) :
    request ∈ s.destroyQueue ∨ action = .enqueue request := by
  cases outcome_of_exec h with
  | inserted =>
    rw [(afterInsert_eq _ _ _).2.2.2.2.2] at hmem
    exact .inl hmem
  | notInserted => split at hmem <;> exact .inl hmem
  | enqueued =>
    rcases List.mem_append.mp hmem with hold | hnew
    · exact .inl hold
    · rw [List.mem_singleton.mp hnew]
      exact .inr rfl
  | _ => exact .inl hmem

/-! ## Guests -/

def Action.GuestStep (s s' : Shared) (v : VMID) (old new : Option Guest) : Action → Prop
  | .insert row adopted _ => row.vmid = v ∧ adopted = true ∧ s.store.get v = none ∧
      ∃ guest, old = some guest ∧ new = some { guest with gen := s'.gens v }
  | .create guest _ => guest.vmid = v ∧ old = none ∧ new = some guest
  | .touch u node change _ => u = v ∧ ∃ guest, old = some guest ∧ guest.node = node ∧
      new = some { change guest with vmid := guest.vmid, node := guest.node }
  | .remove u node _ => u = v ∧ new = none ∧ ∃ guest, old = some guest ∧ guest.node = node
  | _ => False

theorem modify_get (cluster : Cluster) (u v : VMID) (node : String) (change : Guest → Guest) :
    (cluster.modify u node change).get v = cluster.get v ∨
    (u = v ∧ ∃ guest, cluster.get v = some guest ∧ guest.node = node ∧
      (cluster.modify u node change).get v =
        some { change guest with vmid := guest.vmid, node := guest.node }) := by
  unfold Cluster.modify
  split
  · next guest hfind =>
    obtain ⟨hguest, hnode⟩ := Cluster.find_eq_some.mp hfind
    have hvmid : guest.vmid = u := Table.key_of_get hguest
    rw [Table.get_put]
    split
    · next hv =>
      have hv : v = u := hv.trans hvmid
      subst hv
      exact .inr ⟨rfl, guest, hguest, hnode, rfl⟩
    · exact .inl rfl
  · exact .inl rfl

theorem afterInsert_guest (s : Shared) (u v : VMID) (adopted : Bool) :
    (s.afterInsert u adopted).cluster.get v = s.cluster.get v ∨
    (u = v ∧ adopted ∧ ∃ guest, s.cluster.get v = some guest ∧
      (s.afterInsert u adopted).cluster.get v = some { guest with gen := s.gens v }) := by
  unfold Shared.afterInsert
  split
  · next hadopted =>
    split
    · next guest hguest =>
      have hvmid : guest.vmid = u := Table.key_of_get hguest
      rw [Table.get_put]
      split
      · next hv =>
        have hv : v = u := hv.trans hvmid
        subst hv
        exact .inr ⟨rfl, hadopted, guest, hguest, rfl⟩
      · exact .inl rfl
    · exact .inl rfl
  · exact .inl rfl

theorem exec_guest (h : action.exec cfg s = some (s', next)) (v : VMID) :
    s'.cluster.get v = s.cluster.get v ∨
      action.GuestStep s s' v (s.cluster.get v) (s'.cluster.get v) := by
  cases outcome_of_exec h with
  | @inserted row adopted k hnew =>
    obtain ⟨_, hgens, _⟩ := afterInsert_eq
      (s.commit row.vmid (s.store.put (row.stampInsert s.now))) row.vmid adopted
    rcases afterInsert_guest (s.commit row.vmid (s.store.put (row.stampInsert s.now))) row.vmid v
      adopted with hsame | ⟨rfl, hadopted, guest, hguest, hafter⟩
    · exact .inl hsame
    · exact .inr ⟨rfl, hadopted, hnew, guest, hguest, by rw [hafter, hgens]⟩
  | notInserted => split <;> exact .inl rfl
  | created hfree =>
    rw [Table.get_put]
    split
    · next hv => exact .inr ⟨hv.symm, hv ▸ hfree, rfl⟩
    · exact .inl rfl
  | @touch u node change k => exact modify_get s.cluster u v node change
  | @removed u node k guest hfind =>
    obtain ⟨hguest, hnode⟩ := Cluster.find_eq_some.mp hfind
    rw [Table.get_erase]
    split
    · next hv =>
      subst hv
      exact .inr ⟨rfl, rfl, guest, hguest, hnode⟩
    · exact .inl rfl
  | _ => exact .inl rfl

theorem exec_adopt {row : Store.VM} {k : ℕ → Bool → List Task}
    (h : (Action.insert row true k).exec cfg s = some (s', next))
    (hnew : s.store.get row.vmid = none) (hrow : (s'.store.get row.vmid).isSome)
    {guest : Guest} (hguest : s'.cluster.get row.vmid = some guest) :
    guest.gen = s'.gens row.vmid := by
  cases outcome_of_exec h with
  | inserted =>
    rw [(afterInsert_eq _ _ _).2.1]
    unfold Shared.afterInsert at hguest
    simp only [if_true] at hguest
    split at hguest
    · next old hold =>
      have hvmid : old.vmid = row.vmid := Table.key_of_get hold
      rw [Table.get_put, if_pos hvmid.symm] at hguest
      cases hguest
      rfl
    · next hnone =>
      rw [hnone] at hguest
      cases hguest
  | notInserted =>
    rw [if_pos rfl, hnew] at hrow
    cases hrow

theorem step_destroyQueue (h : step cfg sys act = some sys') {request : DestroyRequest}
    (hmem : request ∈ sys'.shared.destroyQueue) :
    request ∈ sys.shared.destroyQueue ∨
      ∃ reply task, moving sys act = some task ∧ task.action cfg reply = .enqueue request := by
  cases stepped_of_step h with
  | fire hthread hexec =>
    rcases exec_destroyQueue hexec hmem with hold | haction
    · exact .inl hold
    · exact .inr ⟨_, _, hthread, haction⟩
  | call => exact .inl hmem
  | dispatch hqueue =>
    rw [hqueue]
    exact .inl (List.mem_cons_of_mem _ hmem)
  | crash => cases hmem
  | outside houtside =>
    cases houtside <;> first | exact .inl hmem | cases hmem

end ScalesetProxmox.Pool
