import ScalesetProxmox.Pool.Guests

/-!
# Guests the pool did not create

A guest is foreign when the scale set neither cloned it nor would list it as its own. The pool finds
the guests it destroys by VMID and node, which it takes from its rows; the rows get them from the
allocator, which looks at the rows and not at Proxmox. `foreign_guests_survive` shows that this is the
only gap: as long as no row is inserted for the VMID and node of a foreign guest, and no foreign guest
is created under the VMID and node of something the pool keeps track of, no step of the pool touches
a foreign guest's existence. A clone onto a VMID that is taken fails, and the cleanup after the
failure deletes the guest that holds it: `failed_clone_deletes_foreign_guest`.
-/

namespace ScalesetProxmox.Pool

open Store (VMID Time)
open Provisioner (Guest classifyVM)
open Transition

variable {cfg : Config} {s s' : Shared} {sys sys' : Sys} {act : Act} {labels : List Act}
  {task : Task} {reply : Reply} {v : VMID} {node : String} {row : Store.VM}

/-! ## What the pool aims at -/

/-- Neither cloned by this scale set nor classified as its own. -/
def foreign (cfg : Config) (guest : Guest) : Bool :=
  !guest.cloned && (classifyVM cfg.pmox guest).isNone

@[simp]
def rowTarget (row : Store.VM) : VMID × String := (row.vmid, row.node)

@[simp]
def DestroyRequest.target (request : DestroyRequest) : VMID × String := (request.vmid, request.node)

@[simp]
def foundTarget (vm : Provisioner.VM) : VMID × String := (vm.vmid, vm.node)

/-- The VMIDs and nodes that a task may aim a destroy or a configuration at. -/
def Task.targets : Task → List (VMID × String)
  | .preemptCas target | .markCompletedDecide target _ | .markCompletedCas target _ _ =>
    [rowTarget target]
  | .rollbackAsync vm | .rollbackClear vm | .rollbackSnapshot vm | .rollbackWarm vm
  | .fallbackDestroy vm => [(vm.vmid, vm.node)]
  | .destroyAsync request | .destroyEnqueue request | .destroyOrSyncFallback request
  | .destroyGet request _ | .destroyDelete request _ | .destroyAwait request _
  | .destroyRow request _ | .poisonDestroying _ request => [request.target]
  | .shrinkLoop _ _ _ rows | .recycleLoop _ rows | .sweepLoop rows => rows.map rowTarget
  | .evictLoop rows committed => rows.map rowTarget ++ committed.map DestroyRequest.target
  | .cloneIpam prep | .cloneIssue prep | .cloneFailure prep => [(prep.vmid, prep.node)]
  | .cloneAwait prep node | .cloneConfigure prep node | .clonePower prep node
  | .cloneSnapshot prep node | .cloneUpdate prep node _ =>
    [(prep.vmid, prep.node), (prep.vmid, node)]
  | .adoptScan _ found | .adoptRunners found | .adoptLoop found _ => found.map foundTarget
  | .adoptInsert row _ rest _ => rowTarget row :: rest.map foundTarget
  | _ => []

/-- The pool has a row, a task or a request for the VMID on the node. -/
def targeted (sys : Sys) (v : VMID) (node : String) : Bool :=
  (sys.shared.store.get v).any (·.node = node) ||
    sys.threads.any (fun task ↦ (v, node) ∈ task.targets) ||
    sys.shared.destroyQueue.any (·.target = (v, node))

def Task.clonesOnto : Task → Option (VMID × String)
  | .cloneInsert _ _ _ node v => some (v, node)
  | _ => none

/-- No row is inserted for a clone on the node where a foreign guest has its VMID, and no foreign
guest is created where the pool has something. -/
def KeepsApart (cfg : Config) (sys : Sys) (act : Act) (_ : Sys) : Prop :=
  (∀ target ∈ (moving sys act).bind Task.clonesOnto,
    ∀ guest ∈ sys.shared.cluster.find target.1 target.2, foreign cfg guest = false) ∧
  ∀ guest ∈ act.creates, foreign cfg guest = true → targeted sys guest.vmid guest.node = false

instance (sys : Sys) (act : Act) (sys' : Sys) : Decidable (KeepsApart cfg sys act sys') :=
  inferInstanceAs (Decidable (_ ∧ _))

/-- A foreign guest that nobody else removes is still there, and foreign, after the step. -/
def ForeignGuestsSurvive (cfg : Config) (sys : Sys) (act : Act) (sys' : Sys) : Prop :=
  ∀ v guest, act ≠ .removeGuest v → sys.shared.cluster.get v = some guest →
    foreign cfg guest = true →
    ∃ guest', sys'.shared.cluster.get v = some guest' ∧ foreign cfg guest' = true

/-- A reason for aiming at a VMID and node: a row with them, before or after the step, or no guest
there but one of the scale set's own. -/
def Justified (cfg : Config) (s s' : Shared) (target : VMID × String) : Prop :=
  (∃ row, s.store.get target.1 = some row ∧ row.node = target.2) ∨
  (∃ row, s'.store.get target.1 = some row ∧ row.node = target.2) ∨
  ∀ guest, s.cluster.get target.1 = some guest → guest.node = target.2 →
    (classifyVM cfg.pmox guest).isSome = true

@[irreducible]
def AimsFrom (cfg : Config) (s s' : Shared) (task other : Task) : Prop :=
  ∀ target ∈ other.targets, target ∈ task.targets ∨ Justified cfg s s' target

theorem justified_of_get (h : s.store.get v = some row) : Justified cfg s s' (row.vmid, row.node) := by
  have hvmid : row.vmid = v := Table.key_of_get h
  exact .inl ⟨row, by rw [hvmid, h], rfl⟩

variable {other : Task}

theorem aimsFrom_of_subset (h : other.targets ⊆ task.targets) : AimsFrom cfg s s' task other := by
  unfold AimsFrom
  exact fun target htarget ↦ .inl (h htarget)

theorem aimsFrom_row (htargets : other.targets = [(row.vmid, row.node)]) (hget : s.store.get v = some row) :
    AimsFrom cfg s s' task other := by
  unfold AimsFrom
  rw [htargets]
  simp only [List.mem_singleton, forall_eq]
  exact .inr (justified_of_get hget)

theorem aimsFrom_rows {rows : List Store.VM} (htargets : other.targets = rows.map rowTarget)
    (hrows : ∀ row ∈ rows, s.store.get row.vmid = some row) : AimsFrom cfg s s' task other := by
  unfold AimsFrom
  rw [htargets]
  simp only [List.forall_mem_map]
  exact fun row hrow ↦ .inr (justified_of_get (hrows row hrow))

theorem aimsFrom_forceDestroy {rest : List Task} (hrest : List.Forall (AimsFrom cfg s s' task) rest) :
    (forceDestroyAction v rest).Next cfg s s' (List.Forall (AimsFrom cfg s s' task)) := by
  refine ⟨fun row hold _ _ _ ↦ ?_, hrest⟩
  rw [List.forall_cons]
  exact ⟨aimsFrom_row (show Task.targets _ = [(row.vmid, row.node)] from rfl) hold, hrest⟩

theorem justified_of_listed {vm : Provisioner.VM}
    (h : vm ∈ Provisioner.listOwnedOn cfg.pmox s.cluster node) :
    Justified cfg s s' (vm.vmid, vm.node) := by
  simp only [Provisioner.listOwnedOn, List.mem_filterMap, List.mem_filter] at h
  obtain ⟨listed, ⟨hmem, _⟩, hclass⟩ := h
  refine .inr (.inr fun guest hguest _ ↦ ?_)
  have hlisted : s.cluster.get listed.vmid = some listed := Table.get_of_mem_rows hmem
  rw [(Provisioner.vmid_of_classifyVM hclass).1, hlisted, Option.some.injEq] at hguest
  rw [← hguest, hclass]
  rfl

/-- A task aims where the one before it did, or has a reason. -/
theorem aimsFrom_next : (task.action cfg reply).Next cfg s s' (List.Forall (AimsFrom cfg s s' task)) := by
  cases task with
  | forceDestroy v => exact aimsFrom_forceDestroy trivial
  | tickApply now runners rows =>
    have hrest : ∀ rest, AimsFrom cfg s s' (.tickApply now runners rows) (.tickApply now runners rest) := by
      exact fun _ ↦ aimsFrom_of_subset (List.Subset.refl [])
    dsimp only [Task.action, tickAction]
    repeat' split
    · exact ⟨fun _ _ _ _ _ ↦ hrest _, hrest _⟩
    · exact aimsFrom_forceDestroy (hrest _)
    · exact hrest _
    · trivial
  | preempt v | markCompleted v =>
    dsimp [Action.Next]
    split
    · next target htarget =>
      split
      · exact aimsFrom_row rfl htarget
      · trivial
    · trivial
  | shrinkList profile state excess =>
    refine aimsFrom_rows rfl fun row hrow ↦ ?_
    rw [byCreation, List.mem_insertionSort, Store.mem_listByProfileAndStates] at hrow
    exact hrow.1
  | recycleList profile cutoff =>
    refine aimsFrom_rows rfl fun row hrow ↦ ?_
    rw [List.mem_filter, Store.mem_listByProfileAndStates] at hrow
    exact hrow.1.1
  | sweepList cutoff =>
    refine aimsFrom_rows rfl fun row hrow ↦ ?_
    rw [List.mem_filter, Store.mem_listByState] at hrow
    exact hrow.1.1
  | evictForDemand victims =>
    refine aimsFrom_rows (List.append_nil _) fun row hrow ↦ ?_
    obtain ⟨v, _, hfound⟩ := List.mem_filterMap.mp hrow
    exact (Store.mem_listByState.mp (List.mem_of_find?_eq_some hfound)).1
  | evictLoop rows committed =>
    have hcommitted : List.Forall (AimsFrom cfg s s' (.evictLoop rows committed))
        (committed.map Task.destroyAsync) := by
      simp only [List.forall_iff_forall_mem, List.forall_mem_map, AimsFrom, Task.targets,
        List.mem_singleton, forall_eq]
      exact fun request hmem ↦ .inl (List.mem_append_right _ (List.mem_map_of_mem hmem))
    cases rows with
    | nil => exact hcommitted
    | cons row rest =>
      refine ⟨fun _ _ _ _ _ ↦ ?_, hcommitted⟩
      simp only [Option.isSome_some, if_true, List.forall_cons, List.Forall, and_true, AimsFrom,
        Task.targets, List.map_append, List.map_cons, List.map_nil]
      intro target htarget
      left
      rw [List.cons_append, List.mem_cons]
      rcases List.mem_append.mp htarget with hrest | hnew
      · exact .inr (List.mem_append_left _ hrest)
      · rcases List.mem_append.mp hnew with hold | hrow
        · exact .inr (List.mem_append_right _ hold)
        · exact .inl (List.mem_singleton.mp hrow)
  | cloneInsert settings kind poweredOn node v =>
    refine ⟨fun _ hrow _ ↦ ?_, trivial⟩
    simp only [if_true, List.Forall, AimsFrom, Task.targets, List.mem_singleton, forall_eq]
    exact .inr (.inr (.inl ⟨_, hrow, rfl⟩))
  | cloneIssue prep =>
    dsimp
    repeat' split
    · simp [Action.Next, AimsFrom, Task.targets]
    · -- the clone has just been created where there was no guest
      refine ⟨fun hfree _ ↦ ?_, ?_⟩
      · simp only [if_true, List.Forall, AimsFrom, Task.targets, List.mem_cons, List.not_mem_nil,
          or_false]
        rintro target (rfl | rfl)
        · exact .inl rfl
        · refine .inr (.inr (.inr fun guest hguest _ ↦ ?_))
          rw [hfree] at hguest
          cases hguest
      · simp [AimsFrom, Task.targets]
    · simp [Action.Next, AimsFrom, Task.targets]
  | poisonInc boot =>
    refine ⟨fun row hold _ _ ↦ ?_, fun _ ↦ trivial⟩
    dsimp only
    split
    · exact aimsFrom_of_subset (List.Subset.refl [])
    · exact aimsFrom_row rfl hold
  | adoptScan nodes found =>
    dsimp
    split
    · simp only [Action.Next, List.Forall, AimsFrom, Task.targets, List.map_append, List.mem_append]
      rintro target (hold | hnew)
      · exact .inl hold
      · obtain ⟨vm, hvm, rfl⟩ := List.mem_map.mp hnew
        exact .inr (justified_of_listed hvm)
    · exact aimsFrom_of_subset (List.Subset.refl _)
    · exact aimsFrom_of_subset (List.Subset.refl _)
  | adoptLoop found runners =>
    cases found with
    | nil => trivial
    | cons vm rest =>
      exact aimsFrom_of_subset (List.Subset.refl _)
  | _ =>
    dsimp
    (repeat' split) <;> dsimp [Action.Next] <;>
      (repeat' first | split | apply And.intro | intro _) <;>
      simp +contextual [AimsFrom, Task.targets, ClonePrep.request, rowRequest, Handle.request,
        Handle.ofRow]

theorem targets_of_enqueue {request : DestroyRequest}
    (h : task.action cfg reply = .enqueue request) : request.target ∈ task.targets := by
  revert h
  cases task <;> dsimp <;> (repeat' split) <;> simp +contextual [Task.targets]

theorem targets_of_callable (h : callable s task) : task.targets = [] := by
  cases task <;> first | rfl | cases h

/-! ## Foreign guests stay foreign -/

theorem foreign_iff {guest : Guest} :
    foreign cfg guest ↔ guest.cloned = false ∧ classifyVM cfg.pmox guest = none := by
  simp [foreign]

theorem foreign_congr {guest guest' : Guest} (hcloned : guest'.cloned = guest.cloned)
    (hvmid : guest'.vmid = guest.vmid) (hname : guest'.name = guest.name)
    (htags : guest'.tags = guest.tags) : foreign cfg guest' = foreign cfg guest := by
  have hclass : (classifyVM cfg.pmox guest').isSome = (classifyVM cfg.pmox guest).isSome := by
    rw [Bool.eq_iff_iff, Provisioner.classifyVM_isSome, Provisioner.classifyVM_isSome, hvmid, hname,
      htags]
  simp only [foreign, hcloned, ← Option.not_isSome, hclass]

theorem not_foreign_of_tagged {guest : Guest} {profileName templateClass : String}
    {tags : List String}
    (htags : Tags.initial cfg.pmox.scaleSetName profileName templateClass = some tags)
    (hguest : guest.tags = Tags.encode tags) : foreign cfg guest = false := by
  have hsome : (classifyVM cfg.pmox guest).isSome :=
    Provisioner.classifyVM_isSome.mpr (.inl (by rw [hguest, Tags.isOwnedBy_encode_initial htags]))
  simp [foreign, Option.isNone_eq_false_iff.mpr hsome]

/-- A guest that is foreign after a step was so before, on the same node, or somebody else has just
created it. -/
theorem foreign_before (hstep : step cfg sys act = some sys') {guest' : Guest}
    (hguest' : sys'.shared.cluster.get v = some guest') (hforeign : foreign cfg guest') :
    (∃ guest, sys.shared.cluster.get v = some guest ∧ foreign cfg guest ∧
      guest.node = guest'.node) ∨
    ∃ node name tags, act = .createGuest v node name tags ∧
      guest' = { vmid := v, node := node, name := name, tags := tags } := by
  rcases step_guest hstep v with hsame | ⟨task, _, hmove⟩ | hevent
  · exact .inl ⟨guest', by rw [← hsame, hguest'], hforeign, rfl⟩
  · left
    rw [hguest'] at hmove
    generalize hold : sys.shared.cluster.get v = old at hmove
    cases hmove with
    | clone => simp [foreign] at hforeign
    | tag _ _ htags =>
      rw [not_foreign_of_tagged htags rfl] at hforeign
      cases hforeign
    | adopt | start | inject | rollBack | look =>
      exact ⟨_, rfl, (foreign_congr rfl rfl rfl rfl).symm.trans hforeign, rfl⟩
  · rw [hguest'] at hevent
    generalize hold : sys.shared.cluster.get v = old at hevent
    cases hevent with
    | create => exact .inr ⟨_, _, _, rfl, rfl⟩
    | setPower | runJob =>
      exact .inl ⟨_, rfl, (foreign_congr rfl rfl rfl rfl).symm.trans hforeign, rfl⟩

/-! ## The invariant -/

theorem targeted_iff : targeted sys v node ↔
    (∃ row, sys.shared.store.get v = some row ∧ row.node = node) ∨
    (∃ task ∈ sys.threads, (v, node) ∈ task.targets) ∨
    ∃ request ∈ sys.shared.destroyQueue, request.target = (v, node) := by
  simp [targeted, Option.any_eq_true, or_assoc]

def AimsApart (cfg : Config) (sys : Sys) : Prop :=
  ∀ v guest, sys.shared.cluster.get v = some guest → foreign cfg guest = true →
    targeted sys v guest.node = false

section Untargeted

variable {guest : Guest} (hstep : step cfg sys act = some sys') (hapart : KeepsApart cfg sys act sys')
  (hguest : sys.shared.cluster.get v = some guest) (hforeign : foreign cfg guest = true)
  (huntargeted : ¬ targeted sys v guest.node = true)

include hstep hapart hguest hforeign huntargeted

/-- No row comes to be on the node of a foreign guest with its VMID. -/
theorem row_node_ne_step (hrow : sys'.shared.store.get v = some row) : row.node ≠ guest.node := by
  intro hnode
  rw [targeted_iff, not_or, not_or] at huntargeted
  obtain ⟨hrows, hthreads, _⟩ := huntargeted
  rcases step_row_some hstep hrow with
    hsame | ⟨reply, task, hmoving, ⟨old, hold, hrowStep⟩ | ⟨_, hrowStep⟩⟩
  · exact hrows ⟨row, hsame, hnode⟩
  · exact hrows ⟨old, hold, by rw [← (sameVM_of_rowStep hrowStep).node, hnode]⟩
  · obtain ⟨adopted, hinserts⟩ := inserts_of_rowStep hrowStep
    cases task with
    | cloneInsert settings kind poweredOn node u =>
      cases hinserts
      obtain ⟨_, _, hstamped⟩ := hrowStep
      cases hstamped
      have hfind : sys.shared.cluster.find v node = some guest :=
        Provisioner.Cluster.find_eq_some.mpr ⟨hguest, hnode.symm⟩
      have hown := hapart.1 (v, node) (by simp [hmoving, Task.clonesOnto]) guest hfind
      rw [hforeign] at hown
      cases hown
    | adoptInsert adoptedRow recycle rest runners =>
      cases hinserts
      obtain ⟨_, _, hstamped⟩ := hrowStep
      cases hstamped
      refine hthreads ⟨_, mem_threads_of_moving hmoving, ?_⟩
      rw [← hnode]
      exact List.mem_cons_self
    | _ => cases hinserts

/-- Nothing the pool does makes it aim at a foreign guest. -/
theorem untargeted_step : ¬ targeted sys' v guest.node = true := by
  have hrows' : ∀ row, sys'.shared.store.get v = some row → row.node ≠ guest.node := fun row hrow ↦
    row_node_ne_step hstep hapart hguest hforeign huntargeted hrow
  rw [targeted_iff, not_or, not_or] at huntargeted ⊢
  obtain ⟨hrows, hthreads, hqueue⟩ := huntargeted
  have hreason : ¬ Justified cfg sys.shared sys'.shared (v, guest.node) := by
    rintro (hrow | ⟨row, hrow, hnode⟩ | howned)
    · exact hrows hrow
    · exact hrows' row hrow hnode
    · have hsome := howned guest hguest rfl
      rw [(foreign_iff.mp hforeign).2] at hsome
      cases hsome
  refine ⟨fun ⟨row, hrow, hnode⟩ ↦ hrows' row hrow hnode, ?_, ?_⟩
  · have hkept : ∀ task ∈ sys'.threads, (v, guest.node) ∉ task.targets := by
      have hinv : ∀ task ∈ sys.threads, (v, guest.node) ∉ task.targets := fun task hmem htarget ↦
        hthreads ⟨task, hmem, htarget⟩
      refine step_threads hstep hinv (fun reply task _ hold ↦ ?_) (fun _ _ hold ↦ hold)
        (fun task hcallable ↦ ?_) (fun request hmem htarget ↦ ?_) List.not_mem_nil
      · refine aimsFrom_next.mono fun other hother htarget ↦ ?_
        unfold AimsFrom at hother
        exact (hother _ htarget).elim hold hreason
      · rw [targets_of_callable hcallable]
        exact List.not_mem_nil
      · exact hqueue ⟨request, hmem, (List.mem_singleton.mp htarget).symm⟩
    exact fun ⟨task, hmem, htarget⟩ ↦ hkept task hmem htarget
  · rintro ⟨request, hmem, htarget⟩
    rcases step_destroyQueue hstep hmem with hold | ⟨reply, task, hmoving, haction⟩
    · exact hqueue ⟨request, hold, htarget⟩
    · exact hthreads ⟨task, mem_threads_of_moving hmoving, htarget ▸ targets_of_enqueue haction⟩

end Untargeted

theorem AimsApart.step (hinv : AimsApart cfg sys) (hapart : KeepsApart cfg sys act sys')
    (hstep : step cfg sys act = some sys') : AimsApart cfg sys' := by
  intro v guest' hguest' hforeign'
  rcases foreign_before hstep hguest' hforeign' with
    ⟨guest, hguest, hforeign, hnode⟩ | ⟨node, name, tags, rfl, rfl⟩
  · rw [← Bool.not_eq_true, ← hnode]
    have huntargeted := hinv v guest hguest hforeign
    rw [← Bool.not_eq_true] at huntargeted
    exact untargeted_step hstep hapart hguest hforeign huntargeted
  · -- the new guest is where the pool has nothing, and its creation changes nothing of the pool's
    have hfree := hapart.2 _ rfl hforeign'
    cases stepped_of_step hstep with
    | outside houtside =>
      cases houtside
      exact hfree

/-- On every run that keeps rows and foreign guests apart, no step of the pool removes a foreign
guest or makes it its own. -/
theorem foreign_guests_survive {cluster : Provisioner.Cluster} {runners : Gh.Runners} {now : Time}
    (h : Along (step cfg) (KeepsApart cfg) (init cluster runners now) labels) :
    Along (step cfg) (ForeignGuestsSurvive cfg) (init cluster runners now) labels := by
  refine along_of_invariant (AimsApart cfg)
    (fun sys act sys' hinv hapart hstep ↦ ⟨?_, hinv.step hapart hstep⟩) ?_ h
  · intro v guest hremoved hguest hforeign
    have huntargeted := hinv v guest hguest hforeign
    have hthreads : ∀ task, moving sys act = some task → (v, guest.node) ∉ task.targets := by
      intro task hmoving htarget
      have htargeted := targeted_iff.mpr (.inr (.inl ⟨task, mem_threads_of_moving hmoving, htarget⟩))
      rw [huntargeted] at htargeted
      cases htargeted
    rcases step_guest hstep v with hsame | ⟨task, hmoving, hmove⟩ | hevent
    · exact ⟨guest, by rw [hsame, hguest], hforeign⟩
    · rw [hguest] at hmove
      generalize hnew : sys'.shared.cluster.get v = new at hmove
      cases hmove with
      | destroy hrequest hnode =>
        refine absurd ?_ (hthreads _ hmoving)
        rw [← hrequest, hnode]
        exact List.mem_singleton.mpr rfl
      | tag hprep hnode =>
        refine absurd ?_ (hthreads _ hmoving)
        rw [← hprep, hnode]
        exact List.mem_cons_of_mem _ (List.mem_singleton.mpr rfl)
      | adopt | start | inject | rollBack | look =>
        exact ⟨_, rfl, (foreign_congr rfl rfl rfl rfl).trans hforeign⟩
    · rw [hguest] at hevent
      generalize hnew : sys'.shared.cluster.get v = new at hevent
      cases hevent with
      | remove => exact absurd rfl hremoved
      | setPower | runJob => exact ⟨_, rfl, (foreign_congr rfl rfl rfl rfl).trans hforeign⟩
  · intro v guest _ _
    simp [targeted, init, Task.targets]

/-- A database server that happens to have a VMID of the pool's range. -/
def squatter (node : String) : Guest := { vmid := 10000, node := node, name := "db-primary" }

/-- A clone worker that fails, up to the removal of the guest on its node. -/
def failedClone : List Act :=
  adoptNothing ++ cloneOne .warm false ++ [.dispatch, .fire 0 .ok, .fire 0 .ok]

/-- On another node than the clone's, the server survives the cleanup. -/
theorem foreign_guests_survive_other_node :
    foreign smallPool (squatter "pve2") = true ∧
    Along (step smallPool) (ForeignGuestsSurvive smallPool)
      (init (Table.empty.put (squatter "pve2")) ∅ Store.second) failedClone ∧
    ∃ sys ∈ run (step smallPool) (init (Table.empty.put (squatter "pve2")) ∅ Store.second) failedClone,
      (sys.shared.cluster.get 10000).isSome = true :=
  ⟨by decide, foreign_guests_survive (by decide), by decide⟩

/-- On the clone's own node it is deleted: the allocator returns its VMID, Proxmox refuses the clone,
and the cleanup destroys whatever has that VMID. -/
theorem failed_clone_deletes_foreign_guest :
    foreign smallPool (squatter "pve1") = true ∧
    ∃ sys ∈ run (step smallPool) (init (Table.empty.put (squatter "pve1")) ∅ Store.second) failedClone,
      sys.shared.cluster.get 10000 = none := by
  decide

end ScalesetProxmox.Pool
