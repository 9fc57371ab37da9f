import ScalesetProxmox.Pool.Outcomes
import ScalesetProxmox.Pool.Pass
import Mathlib.Algebra.Order.Group.Multiset
import Mathlib.Tactic.Abel

/-!
# Operations and the rows they hold

Clones, boots and destroys that go well each hold one row of their profile: a clone its Provisioning row, a
boot its Booting row, a destroy its Draining row. A mark is a row reduced to its VMID and its state. What one
step of such an operation does to the marks of the profile is one of six things, and every account of the
pool that is kept in marks follows from these.
-/

namespace ScalesetProxmox.Pool

open Store (VMID State)

/-! ## Marks -/

abbrev Mark := VMID × State

def marks (profile : String) (store : Store) : Multiset Mark :=
  ((store.rows.filter (·.profile = profile)).map fun row ↦ (row.vmid, row.state) : List Mark)

variable {profile : String} {store : Store} {v : VMID} {row old new : Store.VM} {state : State}

theorem mem_marks :
    (v, state) ∈ marks profile store ↔
      ∃ row, store.get v = some row ∧ row.profile = profile ∧ row.state = state := by
  simp only [marks, Multiset.mem_coe, List.mem_map, List.mem_filter, decide_eq_true_eq]
  constructor
  · rintro ⟨row, ⟨hrow, hprofile⟩, hmark⟩
    cases hmark
    exact ⟨row, Table.get_of_mem_rows hrow, hprofile, rfl⟩
  · rintro ⟨row, hget, hprofile, rfl⟩
    obtain rfl : row.vmid = v := Table.key_of_get hget
    exact ⟨row, ⟨Table.mem_rows.mpr hget, hprofile⟩, rfl⟩

theorem countByProfileState_eq (profile : String) (store : Store) (state : State) :
    store.countByProfileState profile state = (marks profile store).countP (·.2 = state) := by
  rw [marks, Multiset.coe_countP, List.countP_map, Store.countByProfileState, ← List.countP_eq_length_filter,
    List.countP_filter]
  refine List.countP_congr fun row _ ↦ ?_
  simp [and_comm]

theorem marks_of_perm {first second : Store} {row : Store.VM} (h : first.rows.Perm (row :: second.rows))
    (hprofile : row.profile = profile) :
    marks profile first = (row.vmid, row.state) ::ₘ marks profile second := by
  have hrows := (h.filter fun row ↦ decide (row.profile = profile)).map fun row ↦ (row.vmid, row.state)
  rw [List.filter_cons_of_pos (by simpa using hprofile), List.map_cons] at hrows
  exact Multiset.coe_eq_coe.mpr hrows

theorem marks_of_get (h : store.get v = some row) (hprofile : row.profile = profile) :
    marks profile store = (v, row.state) ::ₘ marks profile (store.erase v) := by
  obtain rfl : row.vmid = v := Table.key_of_get h
  exact marks_of_perm (Table.rows_perm_of_get h) hprofile

theorem marks_put (store : Store) (hprofile : row.profile = profile) :
    marks profile (store.put row) = (row.vmid, row.state) ::ₘ marks profile (store.erase row.vmid) :=
  marks_of_perm (Table.rows_put_perm store row) hprofile

theorem marks_insert (h : store.get row.vmid = none) (hprofile : row.profile = profile) :
    marks profile (store.put row) = (row.vmid, row.state) ::ₘ marks profile store := by
  rw [marks_put store hprofile, marks, marks, Table.rows_erase_of_get h]

/-! ## Operations -/

def idleState (hot : Bool) : State := if hot then .hot else .warm

def Task.holds : Task → Option Mark
  | .cloneIpam prep | .cloneIssue prep | .cloneAwait prep _ | .cloneConfigure prep _ | .clonePower prep _
  | .cloneSnapshot prep _ | .cloneUpdate prep _ _ => some (prep.vmid, .provisioning)
  | .bootStart boot | .bootWait boot | .bootHot boot => some (boot.row.vmid, .booting)
  | .destroyAsync request | .destroyEnqueue request | .destroyGet request _ | .destroyDelete request _
  | .destroyAwait request _ | .destroyRow request _ => some (request.vmid, .draining)
  | _ => none

/-- The Hot rows, or the Warm rows, that the operation will add. -/
def Task.due (hot : Bool) : Task → ℕ
  | .kickClone _ _ poweredOn | .cloneAllocate _ _ poweredOn _ | .cloneInsert _ _ poweredOn _ _ =>
    if poweredOn = hot then 1 else 0
  | .cloneIpam prep | .cloneIssue prep | .cloneAwait prep _ | .cloneConfigure prep _ | .clonePower prep _
  | .cloneSnapshot prep _ | .cloneUpdate prep _ _ => if prep.poweredOn = hot then 1 else 0
  | .bootStart _ | .bootWait _ | .bootHot _ => if hot then 1 else 0
  | _ => 0

def Task.operates (settings : ProfileSettings) : Task → Prop
  | .kickClone profile _ _ => profile = settings.name
  | .cloneAllocate other _ _ _ | .cloneInsert other _ _ _ _ => other.name = settings.name
  | .cloneIpam _ | .cloneIssue _ | .cloneAwait _ _ | .cloneConfigure _ _ | .clonePower _ _
  | .cloneSnapshot _ _ | .cloneUpdate _ _ _ | .bootStart _ | .bootWait _ | .bootHot _ | .destroyAsync _
  | .destroyEnqueue _ | .destroyGet _ _ | .destroyDelete _ _ | .destroyAwait _ _ | .destroyRow _ _ => True
  | _ => False

inductive OperationStep (settings : ProfileSettings) (s s' : Shared) (task : Task) : List Task → Prop
  | continues (next : Task) (hstore : s'.store = s.store) (hqueue : s'.destroyQueue = s.destroyQueue)
      (hholds : next.holds = task.holds) (hdue : ∀ hot, next.due hot = task.due hot)
      (hnext : next.operates settings) : OperationStep settings s s' task [next]
  | inserts (next : Task) (row : Store.VM) (hnew : s.store.get row.vmid = none)
      (hprofile : row.profile = settings.name) (hstore : s'.store = s.store.put row)
      (hqueue : s'.destroyQueue = s.destroyQueue) (hnone : task.holds = none)
      (hholds : next.holds = some (row.vmid, row.state)) (hdue : ∀ hot, next.due hot = task.due hot)
      (hnext : next.operates settings) : OperationStep settings s s' task [next]
  | moves (next : Task) (old row : Store.VM) (hold : s.store.get row.vmid = some old)
      (holdProfile : old.profile = settings.name) (hprofile : row.profile = settings.name)
      (hstore : s'.store = s.store.put row) (hqueue : s'.destroyQueue = s.destroyQueue)
      (hheld : task.holds = some (row.vmid, old.state)) (hholds : next.holds = some (row.vmid, row.state))
      (hdue : ∀ hot, next.due hot = task.due hot) (hnext : next.operates settings) :
      OperationStep settings s s' task [next]
  | settles (hot : Bool) (old row : Store.VM) (hold : s.store.get row.vmid = some old)
      (holdProfile : old.profile = settings.name) (hprofile : row.profile = settings.name)
      (hstate : row.state = idleState hot)
      (hstore : s'.store = s.store.put row) (hqueue : s'.destroyQueue = s.destroyQueue)
      (hheld : task.holds = some (row.vmid, old.state))
      (hdue : ∀ other, task.due other = if hot = other then 1 else 0) : OperationStep settings s s' task []
  | queues (request : DestroyRequest) (hstore : s'.store = s.store)
      (hqueue : s'.destroyQueue = s.destroyQueue ++ [request])
      (hheld : task.holds = some (request.vmid, .draining)) (hdue : ∀ hot, task.due hot = 0) :
      OperationStep settings s s' task []
  | deletes (old : Store.VM) (hold : s.store.get old.vmid = some old)
      (holdProfile : old.profile = settings.name) (hstore : s'.store = s.store.erase old.vmid)
      (hqueue : s'.destroyQueue = s.destroyQueue) (hheld : task.holds = some (old.vmid, old.state))
      (hdue : ∀ hot, task.due hot = 0) : OperationStep settings s s' task []

/-! ## The steps of an operation that goes well -/

section

variable {cfg : Config} {settings : ProfileSettings} {s s' : Shared} {task : Task} {next : List Task}
  {reply : Reply}

/-- What it means for a step to succeed, beside its outcome. -/
theorem succeeds_iff (hexec : (task.action cfg reply).exec cfg s = some (s', next)) :
    task.succeeds cfg s reply ↔
      (task.hasSlot s reply ∧ (task.last ∨ next ≠ [])) ∧
        ∀ other ∈ next, other.failed = false := by
  rw [Task.succeeds, hexec]
  simp

/-- The action touches neither the rows nor the destroy queue. -/
def Action.quiet : Action → Bool
  | .insert _ _ _ | .update _ _ _ | .cas _ _ _ _ _ | .acquire _ _ _ _ | .delete _ _ | .enqueue _ => false
  | _ => true

theorem exec_quiet {action : Action} (hquiet : action.quiet)
    (h : action.exec cfg s = some (s', next)) :
    s'.store = s.store ∧ s'.destroyQueue = s.destroyQueue := by
  cases outcome_of_exec h with
  | inserted | notInserted | updated | notUpdated | swapped | notSwapped | acquired | notAcquired | deleted
  | enqueued | notEnqueued => cases hquiet
  | _ => exact ⟨rfl, rfl⟩

/-- The operation goes on with the same row and the same prospect, or it does not go on. -/
def GoesOn (settings : ProfileSettings) (task : Task) (next : List Task) : Prop :=
  (∃ other, next = [other] ∧ other.holds = task.holds ∧ (∀ hot, other.due hot = task.due hot) ∧
    other.operates settings) ∨ (next = [] ∧ task.last = false) ∨ ∃ other ∈ next, other.failed = true

theorem goesOn_failed {other : Task} (h : other.failed) : GoesOn settings task [other] :=
  .inr (.inr ⟨other, List.mem_singleton_self _, h⟩)

theorem goesOn_next {other : Task} (hholds : other.holds = task.holds)
    (hdue : ∀ hot, other.due hot = task.due hot) (hother : other.operates settings) :
    GoesOn settings task [other] :=
  .inl ⟨other, rfl, hholds, hdue, hother⟩

/-- A point of an operation before it writes. -/
def Task.writes : Task → Bool
  | .cloneInsert _ _ _ _ _ | .cloneUpdate _ _ _ | .bootHot _ | .destroyEnqueue _ | .destroyRow _ _ => true
  | _ => false

/-- Between its writes an operation goes on, fails or gives up. -/
theorem quiet_goesOn (hsettings : cfg.profileOf settings.name = some settings)
    (htask : task.operates settings) (hwrites : task.writes = false) :
    (task.action cfg reply).quiet ∧
      (task.action cfg reply).Next cfg s s' (GoesOn settings task) := by
  have hgivesUp {task : Task} (h : task.last = false) : GoesOn settings task [] := .inr (.inl ⟨rfl, h⟩)
  cases task with
  | kickClone profile kind poweredOn =>
    obtain rfl : profile = settings.name := htask
    simp only [Task.action, cloneAction, hsettings]
    cases reply with
    | node name => exact ⟨rfl, goesOn_next rfl (fun _ ↦ rfl) rfl⟩
    | _ => exact ⟨rfl, hgivesUp rfl⟩
  | cloneAllocate other kind poweredOn node =>
    exact ⟨rfl, fun _ _ ↦ goesOn_next rfl (fun _ ↦ rfl) htask, hgivesUp rfl⟩
  | cloneIpam | cloneAwait =>
    cases reply with
    | ok => exact ⟨rfl, goesOn_next rfl (fun _ ↦ rfl) trivial⟩
    | _ => exact ⟨rfl, goesOn_failed rfl⟩
  | cloneIssue prep =>
    simp only [Task.action, cloneAction]
    split_ifs
    · exact ⟨rfl, goesOn_failed rfl⟩
    · split
      · exact ⟨rfl, fun _ _ ↦ goesOn_next rfl (fun _ ↦ rfl) trivial, goesOn_failed rfl⟩
      · exact ⟨rfl, goesOn_failed rfl⟩
  | cloneConfigure prep node =>
    simp only [Task.action, cloneAction]
    split
    · exact ⟨rfl, fun _ _ ↦ goesOn_next rfl (fun _ ↦ rfl) trivial, fun _ ↦ goesOn_failed rfl⟩
    · exact ⟨rfl, goesOn_failed rfl⟩
  | clonePower prep node =>
    have hcloned : GoesOn settings (.clonePower prep node)
        [if cfg.snapshotRecycle then .cloneSnapshot prep node else .cloneUpdate prep node false] := by
      split_ifs <;> exact goesOn_next rfl (fun _ ↦ rfl) trivial
    simp only [Task.action, cloneAction]
    generalize (if cfg.snapshotRecycle = true then Task.cloneSnapshot prep node
      else Task.cloneUpdate prep node false) = cloned at hcloned ⊢
    split
    · split_ifs
      · exact ⟨rfl, fun _ _ ↦ hcloned, fun _ ↦ goesOn_failed rfl⟩
      · exact ⟨rfl, hcloned⟩
    · exact ⟨rfl, goesOn_failed rfl⟩
  | cloneSnapshot prep node =>
    cases reply with
    | ok => exact ⟨rfl, fun _ _ ↦ goesOn_next rfl (fun _ ↦ rfl) trivial,
        fun _ ↦ goesOn_next rfl (fun _ ↦ rfl) trivial⟩
    | _ => exact ⟨rfl, goesOn_next rfl (fun _ ↦ rfl) trivial⟩
  | bootStart boot | bootWait boot =>
    cases reply with
    | ok => exact ⟨rfl, fun _ _ ↦ goesOn_next rfl (fun _ ↦ rfl) trivial, fun _ ↦ goesOn_failed rfl⟩
    | _ => exact ⟨rfl, goesOn_failed rfl⟩
  | destroyAsync request =>
    refine ⟨rfl, ?_⟩
    change GoesOn settings (.destroyAsync request) (if s.draining then [] else [.destroyEnqueue request])
    split_ifs
    · exact hgivesUp rfl
    · exact goesOn_next rfl (fun _ ↦ rfl) trivial
  | destroyGet request sync | destroyDelete request sync =>
    cases reply with
    | ok => exact ⟨rfl, fun _ _ ↦ goesOn_next rfl (fun _ ↦ rfl) trivial,
        fun _ ↦ goesOn_next rfl (fun _ ↦ rfl) trivial⟩
    | _ => exact ⟨rfl, hgivesUp rfl⟩
  | destroyAwait request sync =>
    cases reply with
    | ok => exact ⟨rfl, goesOn_next rfl (fun _ ↦ rfl) trivial⟩
    | _ => exact ⟨rfl, hgivesUp rfl⟩
  | cloneInsert | cloneUpdate | bootHot | destroyEnqueue | destroyRow => cases hwrites
  | _ => exact htask.elim

theorem operationStep_of_exec (hsettings : cfg.profileOf settings.name = some settings)
    (hname : settings.name ≠ "") (htask : task.operates settings)
    (hheld : ∀ mark ∈ task.holds, mark ∈ marks settings.name s.store)
    (hsucceeds : task.succeeds cfg s reply)
    (hexec : (task.action cfg reply).exec cfg s = some (s', next)) :
    OperationStep settings s s' task next := by
  obtain ⟨⟨hslot, hlast⟩, hgood⟩ := (succeeds_iff hexec).mp hsucceeds
  cases hwrites : task.writes with
  | false =>
    obtain ⟨hquiet, hgoesOn⟩ := @quiet_goesOn cfg settings s s' task reply hsettings htask hwrites
    obtain ⟨hstore, hqueue⟩ := exec_quiet hquiet hexec
    rcases exec_next hexec hgoesOn with
      ⟨other, rfl, hholds, hdue, hother⟩ | ⟨rfl, hends⟩ | ⟨other, hin, hfailed⟩
    · exact .continues other hstore hqueue hholds hdue hother
    · simp [hends] at hlast
    · rw [hgood other hin] at hfailed
      cases hfailed
  | true =>
    cases task with
    | cloneInsert other kind poweredOn node u =>
      simp only [Task.action, cloneAction] at hexec
      cases outcome_of_exec hexec with
      | inserted hnew =>
        have hprofile : other.name = settings.name := htask
        refine .inserts _
          ((provisioningRow cfg other kind node u (reply.templateFor other).2).stampInsert s.now) hnew
          ?_ rfl rfl rfl rfl (fun _ ↦ rfl) trivial
        simp [Store.VM.stampInsert, provisioningRow, hprofile, hname]
      | notInserted => simp [Task.last, Task.inPass] at hlast
    | cloneUpdate prep node hasSnapshot =>
      obtain ⟨old, hget, hprofile, hstate⟩ := mem_marks.mp (hheld _ rfl)
      have hvmid : old.vmid = prep.vmid := Table.key_of_get hget
      simp only [Task.action, cloneAction] at hexec
      rw [exec_update hget (by simp [Store.enforceImmutable])] at hexec
      cases hexec
      have hdue (hot : Bool) : (Task.cloneUpdate prep node hasSnapshot).due hot =
          if prep.poweredOn = hot then 1 else 0 := rfl
      have hold : s.store.get old.vmid = some old := hvmid ▸ hget
      have hholds : (Task.cloneUpdate prep node hasSnapshot).holds = some (old.vmid, old.state) := by
        rw [hvmid, hstate]
        rfl
      cases hpower : prep.poweredOn with
      | true =>
        have hboots (hot : Bool) :
            (if hot then 1 else 0) = (Task.cloneUpdate prep node hasSnapshot).due hot := by
          rw [hdue, hpower]
          cases hot <;> rfl
        simp only [if_true]
        split_ifs
        · exact .moves _ old { forceState .booting s.now old with
            hasRecycleSnapshot := hasSnapshot, updatedAt := s.now } hold hprofile hprofile rfl rfl hholds rfl
            hboots trivial
        · exact .moves _ old { forceState .booting s.now old with
            hasRecycleSnapshot := hasSnapshot, updatedAt := s.now } hold hprofile hprofile rfl rfl hholds rfl
            hboots trivial
      | false =>
        simp only [Bool.false_eq_true, if_false]
        refine .settles false old { forceState .warm s.now old with
          hasRecycleSnapshot := hasSnapshot, updatedAt := s.now } hold hprofile hprofile rfl rfl rfl hholds ?_
        intro hot
        rw [hdue, hpower]
    | bootHot boot =>
      obtain ⟨old, hget, hprofile, hstate⟩ := mem_marks.mp (hheld _ rfl)
      have hvmid : old.vmid = boot.row.vmid := Table.key_of_get hget
      simp only [Task.action, bootAction] at hexec
      rw [exec_update hget (by simp [Store.enforceImmutable])] at hexec
      cases hexec
      refine .settles true old { forceState .hot s.now old with updatedAt := s.now } ?_ hprofile hprofile
        rfl rfl rfl ?_ (fun other ↦ by cases other <;> rfl)
      · rwa [← hvmid] at hget
      · simp [Task.holds, hvmid, hstate]
    | destroyEnqueue request =>
      simp only [Task.action, destroyAction, Action.exec] at hexec
      rw [if_pos (by simpa [Task.hasSlot] using hslot)] at hexec
      cases hexec
      exact .queues request rfl rfl rfl (fun _ ↦ rfl)
    | destroyRow request sync =>
      obtain ⟨old, hget, hprofile, hstate⟩ := mem_marks.mp (hheld _ rfl)
      have hvmid : old.vmid = request.vmid := Table.key_of_get hget
      cases hexec
      refine .deletes old (hvmid ▸ hget) hprofile ?_ rfl ?_ (fun _ ↦ rfl)
      · rw [hvmid]
        rfl
      · rw [hvmid, hstate]
        rfl
    | _ => cases hwrites

end

/-! ## Idle rows and rows in flight -/

def inFlight (sys : Sys) : Multiset Mark :=
  (sys.threads.filterMap Task.holds : List Mark) +
    (sys.shared.destroyQueue.map fun request ↦ (request.vmid, State.draining) : List Mark)

/-- The rows of one kind that the operations will add. -/
def dueIn (hot : Bool) (threads : List Task) : ℕ := (threads.map (Task.due hot)).sum

/-- Nothing is in flight outside of the profile. -/
def OthersAtRest (profile : String) (store : Store) : Prop :=
  ∀ v row, store.get v = some row → row.profile ≠ profile → row.state ∉ stuckStates

theorem OthersAtRest.put (h : OthersAtRest profile store) (hprofile : row.profile = profile) :
    OthersAtRest profile (store.put row) := by
  intro v other hget hother
  rw [Table.get_put] at hget
  split_ifs at hget
  · cases hget
    exact absurd hprofile hother
  · exact h v other hget hother

theorem OthersAtRest.erase (h : OthersAtRest profile store) (v : VMID) :
    OthersAtRest profile (store.erase v) := by
  intro u other hget
  rw [Table.get_erase] at hget
  split_ifs at hget
  exact h u other hget

/-- The rows of the profile are idle or held by an operation, each by one. -/
structure Accounted (settings : ProfileSettings) (sys : Sys) (idle : Multiset Mark) : Prop where
  operations : ∀ task ∈ sys.threads, task.operates settings
  marks_eq : marks settings.name sys.shared.store = idle + inFlight sys
  idle_states : ∀ mark ∈ idle, mark.2 = .hot ∨ mark.2 = .warm
  others : OthersAtRest settings.name sys.shared.store

variable {settings : ProfileSettings} {sys : Sys} {idle : Multiset Mark} {task : Task} {next : List Task}
  {s' : Shared} {i : ℕ}

theorem holds_state {mark : Mark} (h : task.holds = some mark) (hot : Bool) : mark.2 ≠ idleState hot := by
  intro hidle
  cases task <;> cases h <;> cases hot <;> cases hidle

theorem inFlight_state {mark : Mark} (h : mark ∈ inFlight sys) (hot : Bool) : mark.2 ≠ idleState hot := by
  rw [inFlight, Multiset.mem_add, Multiset.mem_coe, Multiset.mem_coe] at h
  rcases h with hthread | hqueued
  · obtain ⟨task, _, hholds⟩ := List.mem_filterMap.mp hthread
    exact holds_state hholds hot
  · obtain ⟨request, _, rfl⟩ := List.mem_map.mp hqueued
    intro hidle
    cases hot <;> cases hidle

theorem Accounted.count (h : Accounted settings sys idle) (hot : Bool) :
    sys.shared.store.countByProfileState settings.name (idleState hot) =
      idle.countP (·.2 = idleState hot) := by
  have hnone : (inFlight sys).countP (·.2 = idleState hot) = 0 :=
    Multiset.countP_eq_zero.mpr fun mark hmark ↦ inFlight_state hmark hot
  rw [countByProfileState_eq, h.marks_eq, Multiset.countP_add, hnone, add_zero]

theorem inFlight_of_thread (hthread : sys.threads[i]? = some task) :
    inFlight sys = (task.holds.toList : Multiset Mark) + inFlight ⟨sys.shared, sys.threads.eraseIdx i⟩ := by
  have hperm := ((Transition.cons_eraseIdx_perm hthread).filterMap Task.holds).symm
  have hthreads : (sys.threads.filterMap Task.holds : Multiset Mark) =
      (task.holds.toList : Multiset Mark) + ((sys.threads.eraseIdx i).filterMap Task.holds : List Mark) := by
    rw [Multiset.coe_add, Multiset.coe_eq_coe]
    refine hperm.trans (List.Perm.of_eq ?_)
    rw [List.filterMap_cons]
    cases task.holds <;> rfl
  unfold inFlight
  rw [hthreads, add_assoc]

theorem inFlight_append {s : Shared} {threads : List Task}
    (hqueue : s'.destroyQueue = s.destroyQueue) :
    inFlight ⟨s', threads ++ next⟩ = inFlight ⟨s, threads⟩ + (next.filterMap Task.holds : List Mark) := by
  unfold inFlight
  simp only [hqueue, List.filterMap_append, ← Multiset.coe_add]
  exact add_right_comm _ _ _

theorem dueIn_fire (hot : Bool) (hthread : sys.threads[i]? = some task) (next : List Task) :
    dueIn hot (sys.threads.eraseIdx i ++ next) + task.due hot = dueIn hot sys.threads + dueIn hot next :=
  Transition.sum_map_fire (Task.due hot) hthread next

theorem dueIn_append (hot : Bool) (threads next : List Task) :
    dueIn hot (threads ++ next) = dueIn hot threads + dueIn hot next := by
  simp [dueIn]

theorem dueIn_singleton (hot : Bool) (task : Task) : dueIn hot [task] = task.due hot := by
  simp [dueIn]

theorem heldBy_singleton (task : Task) :
    ([task].filterMap Task.holds : Multiset Mark) = (task.holds.toList : Multiset Mark) := by
  rw [List.filterMap_cons]
  cases task.holds <;> rfl

/-- Without the row that an operation holds, the rest of the rows is accounted for by the others. -/
theorem marks_erase_of_held {rest : Multiset Mark} (hget : store.get v = some old)
    (hprofile : old.profile = profile)
    (hmarks : marks profile store = idle + ((some (v, old.state)).toList + rest)) :
    marks profile (store.erase v) = idle + rest := by
  rw [marks_of_get hget hprofile, ← Multiset.singleton_add] at hmarks
  refine add_left_cancel (hmarks.trans ?_)
  change idle + ({(v, old.state)} + rest) = _
  abel

theorem countP_idle (v : VMID) (hot other : Bool) :
    ({(v, idleState hot)} : Multiset Mark).countP (·.2 = idleState other) = if hot = other then 1 else 0 := by
  cases hot <;> cases other <;> rfl

/-- Steps that write no row and queue no destroy keep the account. -/
theorem Accounted.of_store (h : Accounted settings sys idle) (hstore : s'.store = sys.shared.store)
    (hqueue : s'.destroyQueue = sys.shared.destroyQueue) : Accounted settings ⟨s', sys.threads⟩ idle := by
  refine ⟨h.operations, ?_, h.idle_states, ?_⟩
  · rw [inFlight, hstore, hqueue]
    exact h.marks_eq
  · rw [hstore]
    exact h.others

/-- One step of an operation keeps the account. Its row stays in flight, or it is idle from now on and no
longer due. -/
theorem accounted_of_operationStep (h : Accounted settings sys idle) (hthread : sys.threads[i]? = some task)
    (hstep : OperationStep settings sys.shared s' task next) :
    ∃ gained : Multiset Mark,
      Accounted settings ⟨s', sys.threads.eraseIdx i ++ next⟩ (gained + idle) ∧
      ∀ hot, gained.countP (·.2 = idleState hot) + dueIn hot (sys.threads.eraseIdx i ++ next) =
        dueIn hot sys.threads := by
  have hmarks := h.marks_eq
  rw [inFlight_of_thread hthread] at hmarks
  have hsum (hot : Bool) := dueIn_fire hot hthread next
  have hthreads (hnext : ∀ other ∈ next, other.operates settings) :
      ∀ other ∈ sys.threads.eraseIdx i ++ next, other.operates settings :=
    Transition.forall_threads_fire i h.operations hnext fun _ _ hother ↦ hother
  -- unless the row becomes idle, the idle rows are the same and as many are due
  have hkeep (hnext : ∀ other ∈ next, other.operates settings) (hothers : OthersAtRest settings.name s'.store)
      (hdue : ∀ hot, dueIn hot next = task.due hot)
      (hmarks' : marks settings.name s'.store = idle + inFlight ⟨s', sys.threads.eraseIdx i ++ next⟩) :
      ∃ gained : Multiset Mark, Accounted settings ⟨s', sys.threads.eraseIdx i ++ next⟩ (gained + idle) ∧
        ∀ hot, gained.countP (·.2 = idleState hot) + dueIn hot (sys.threads.eraseIdx i ++ next) =
          dueIn hot sys.threads := by
    refine ⟨0, ⟨hthreads hnext, by rwa [zero_add], by simpa using h.idle_states, hothers⟩, fun hot ↦ ?_⟩
    have := hsum hot
    rw [hdue] at this
    rw [Multiset.countP_zero]
    omega
  cases hstep with
  | continues other hstore hqueue hholds hdue hother =>
    refine hkeep (by simpa using hother) (hstore ▸ h.others) (by simpa [dueIn] using hdue) ?_
    rw [hstore, hmarks, inFlight_append hqueue, heldBy_singleton, hholds]
    abel
  | inserts other row hnew hprofile hstore hqueue hnone hholds hdue hother =>
    refine hkeep (by simpa using hother) (hstore ▸ h.others.put hprofile) (by simpa [dueIn] using hdue) ?_
    rw [hstore, marks_insert hnew hprofile, hmarks, inFlight_append hqueue, heldBy_singleton, hholds, hnone,
      ← Multiset.singleton_add]
    change {(row.vmid, row.state)} + (idle + (0 + _)) = idle + (_ + {(row.vmid, row.state)})
    abel
  | moves other old row hold holdProfile hprofile hstore hqueue hheld hholds hdue hother =>
    rw [hheld] at hmarks
    refine hkeep (by simpa using hother) (hstore ▸ h.others.put hprofile) (by simpa [dueIn] using hdue) ?_
    rw [hstore, marks_put _ hprofile, marks_erase_of_held hold holdProfile hmarks, inFlight_append hqueue,
      heldBy_singleton, hholds, ← Multiset.singleton_add]
    change {(row.vmid, row.state)} + (idle + _) = idle + (_ + {(row.vmid, row.state)})
    abel
  | settles hot old row hold holdProfile hprofile hstate hstore hqueue hheld hdue =>
    rw [hheld] at hmarks
    refine ⟨{(row.vmid, idleState hot)}, ⟨hthreads (by simp), ?_, ?_, hstore ▸ h.others.put hprofile⟩,
      fun other ↦ ?_⟩
    · rw [hstore, marks_put _ hprofile, marks_erase_of_held hold holdProfile hmarks, inFlight_append hqueue,
        hstate, ← Multiset.singleton_add]
      change {(row.vmid, idleState hot)} + (idle + _) = {(row.vmid, idleState hot)} + idle + (_ + 0)
      abel
    · intro mark hmark
      rcases Multiset.mem_add.mp hmark with hnew | hidle
      · rw [Multiset.mem_singleton.mp hnew]
        cases hot <;> simp [idleState]
      · exact h.idle_states mark hidle
    · have := hsum other
      rw [hdue] at this
      rw [countP_idle]
      simpa [dueIn, add_comm] using this
  | queues request hstore hqueue hheld hdue =>
    rw [hheld] at hmarks
    refine hkeep (by simp) (hstore ▸ h.others) (fun hot ↦ (hdue hot).symm) ?_
    rw [hstore, hmarks]
    simp only [inFlight, hqueue, List.append_nil, List.map_append, ← Multiset.coe_add]
    change idle + ({(request.vmid, State.draining)} + _) = idle + (_ + (_ + {(request.vmid, State.draining)}))
    abel
  | deletes old hold holdProfile hstore hqueue hheld hdue =>
    rw [hheld] at hmarks
    refine hkeep (by simp) (hstore ▸ h.others.erase _) (fun hot ↦ (hdue hot).symm) ?_
    rw [hstore, marks_erase_of_held hold holdProfile hmarks, inFlight_append hqueue]
    change idle + _ = idle + (_ + 0)
    abel

theorem accounted_of_dispatch (h : Accounted settings sys idle) {request : DestroyRequest}
    {rest : List DestroyRequest} (hqueue : sys.shared.destroyQueue = request :: rest) :
    Accounted settings ⟨{ sys.shared with destroyQueue := rest }, sys.threads ++ [.destroyGet request false]⟩
      idle := by
  refine ⟨?_, ?_, h.idle_states, h.others⟩
  · exact List.forall_mem_append.mpr ⟨h.operations, List.forall_mem_singleton.mpr trivial⟩
  · refine h.marks_eq.trans (congrArg (idle + ·) ?_)
    simp only [inFlight, hqueue, List.filterMap_append, ← Multiset.coe_add, heldBy_singleton, List.map_cons,
      ← Multiset.cons_coe, ← Multiset.singleton_add]
    change _ + ({(request.vmid, State.draining)} + _) = _ + {(request.vmid, State.draining)} + _
    abel

/-- The pass starts an operation that has no row yet. -/
theorem accounted_of_spawn (h : Accounted settings sys idle) (htask : task.operates settings)
    (hholds : task.holds = none) : Accounted settings { sys with threads := sys.threads ++ [task] } idle := by
  refine ⟨?_, ?_, h.idle_states, h.others⟩
  · exact List.forall_mem_append.mpr ⟨h.operations, List.forall_mem_singleton.mpr htask⟩
  · rw [inFlight_append rfl, heldBy_singleton, hholds]
    exact h.marks_eq.trans (congrArg (idle + ·) (add_zero _).symm)

/-- The pass takes an idle row and starts an operation on it. -/
theorem accounted_of_take (h : Accounted settings sys idle) {hot : Bool}
    (hmark : (new.vmid, idleState hot) ∈ idle) (hprofile : new.profile = settings.name)
    (hstore : s'.store = sys.shared.store.put new) (hqueue : s'.destroyQueue = sys.shared.destroyQueue)
    (htask : task.operates settings) (hholds : task.holds = some (new.vmid, new.state)) :
    ∃ left, idle = {(new.vmid, idleState hot)} + left ∧
      Accounted settings ⟨s', sys.threads ++ [task]⟩ left := by
  obtain ⟨left, rfl⟩ := Multiset.exists_cons_of_mem hmark
  rw [← Multiset.singleton_add] at h ⊢
  have hin : (new.vmid, idleState hot) ∈ marks settings.name sys.shared.store := by
    rw [h.marks_eq]
    exact Multiset.mem_add.mpr (.inl (Multiset.mem_add.mpr (.inl (Multiset.mem_singleton_self _))))
  obtain ⟨old, hget, holdProfile, hstate⟩ := mem_marks.mp hin
  refine ⟨left, rfl, ⟨?_, ?_, fun mark hmark ↦ h.idle_states mark (Multiset.mem_add.mpr (.inr hmark)), ?_⟩⟩
  · exact List.forall_mem_append.mpr ⟨h.operations, List.forall_mem_singleton.mpr htask⟩
  · have hmarks := h.marks_eq
    rw [← hstate, marks_of_get hget holdProfile, ← Multiset.singleton_add, add_assoc] at hmarks
    rw [hstore, marks_put _ hprofile, add_left_cancel hmarks, inFlight_append hqueue, heldBy_singleton, hholds,
      ← Multiset.singleton_add]
    change {(new.vmid, new.state)} + (left + _) = left + (_ + {(new.vmid, new.state)})
    abel
  · rw [hstore]
    exact h.others.put hprofile

end ScalesetProxmox.Pool
