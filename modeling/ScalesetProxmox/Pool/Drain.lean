import ScalesetProxmox.Pool.Outcomes

/-!
# Draining, and the clean-up of failed clones

When `Run` ends, `drain` marks the manager as draining, waits for the workers that the wait group
counts, cancels them when `DrainTimeout` is over, and returns cleanly once none is left. A clone
worker whose clone failed, or whose row was gone when the clone was done, leaves a VM behind that no
one else will look for; it hands it to `destroyOrSyncFallback`.

`Books` keeps, beside the pool, the requests of failed clones for whose VMID this process has not
called `prov.Destroy` since the failure.

`failed_clones_destroyed`: when drain returns cleanly nothing is owed, provided that no such request
is skipped because the manager is draining, dropped at a full queue, or dropped from the queue. The
fallback looks at the cancelled flag and `destroyAsync` at the draining flag, so a clone that fails
between the two is skipped: `failed_clone_leaks`.
-/

namespace ScalesetProxmox.Pool

open Store (VMID Time)
open Transition

variable {cfg : Config} {s s' : Shared} {sys sys' : Sys} {act : Act} {task : Task} {reply : Reply}
  {request : DestroyRequest} {next : List Task}

/-- The goroutines that the wait group counts. A request in the destroy queue is counted as well. -/
def Task.counted : Task → Bool
  | .kickClone _ _ _ | .cloneAllocate _ _ _ _ | .cloneInsert _ _ _ _ _ | .cloneIpam _
  | .cloneIssue _ | .cloneAwait _ _ | .cloneConfigure _ _ | .clonePower _ _ | .cloneSnapshot _ _
  | .cloneUpdate _ _ _ | .cloneFailure _ | .destroyOrSyncFallback _ => true
  | .bootStart _ | .bootWait _ | .bootHot _ | .poisonInc _ | .poisonMark _
  | .poisonDestroying _ _ => true
  | .rollbackClear _ | .rollbackSnapshot _ | .rollbackWarm _ | .fallbackDestroy _ => true
  | .destroyEnqueue _ | .destroyGet _ _ | .destroyDelete _ _ | .destroyAwait _ _
  | .destroyRow _ _ => true
  | _ => false

/-- The wait group is at zero. -/
def idle (sys : Sys) : Bool :=
  sys.threads.all (fun task ↦ !task.counted) && sys.shared.destroyQueue.isEmpty

/-- A step of a task leaves the two shutdown flags alone. -/
theorem exec_shutdown {action : Action} (h : action.exec cfg s = some (s', next)) :
    s'.draining = s.draining ∧ s'.cancelled = s.cancelled := by
  cases outcome_of_exec h with
  | inserted hnew =>
    unfold Shared.afterInsert
    (repeat' split) <;> exact ⟨rfl, rfl⟩
  | notInserted => split <;> exact ⟨rfl, rfl⟩
  | _ => exact ⟨rfl, rfl⟩

/-! ## Requests of failed clones -/

/-- The request of a clone worker that has seen its clone fail or its row gone. -/
def Task.failure : Task → Option DestroyRequest
  | .cloneFailure prep => some prep.request
  | .destroyOrSyncFallback request => some request
  | _ => none

def Task.carries : Task → Option DestroyRequest
  | .cloneFailure prep => some prep.request
  | .destroyOrSyncFallback request | .destroyAsync request | .destroyEnqueue request
  | .destroyGet request _ => some request
  | _ => none

def Task.destroys : Task → Option VMID
  | .destroyGet request _ => some request.vmid
  | _ => none

/-- The request that a task is in `destroyAsync` with, before the look at the draining flag. -/
def Task.queues : Task → Option DestroyRequest
  | .destroyAsync request => some request
  | _ => none

/-- The request that a task is about to put into the queue. -/
def Task.enqueues : Task → Option DestroyRequest
  | .destroyEnqueue request => some request
  | _ => none

theorem carries_of_failure (h : task.failure = some request) : task.carries = some request := by
  cases task <;> first | exact h | cases h

/-- The pool with the failed clones that have yet to be destroyed. -/
structure Books where
  sys : Sys
  owed : List DestroyRequest := []

inductive BooksAct
  | pool (act : Act)
  /-- `drain` returns cleanly. -/
  | finish

/-- The end of the process. -/
def Act.crashes : Act → Bool
  | .crash => true
  | _ => false

def started (sys : Sys) (act : Act) (sys' : Sys) : List Task :=
  match act with
  | .fire _ _ => sys'.threads.drop (sys.threads.length - 1)
  | _ => []

/-- What is owed after a step: a new failure is entered, a call of `prov.Destroy` settles every
failure of its VMID. -/
def Books.owedAfter (books : Books) (act : Act) (sys' : Sys) : List DestroyRequest :=
  match moving books.sys act with
  | none => books.owed
  | some task =>
    books.owed.filter (fun request ↦ task.destroys ≠ some request.vmid) ++
      if task.failure.isSome then [] else (started books.sys act sys').filterMap Task.failure

/-- Drain can return: the wait group is at zero. A clone worker is counted until its call of
`destroyAsync` is over. -/
def Books.drained (books : Books) : Bool :=
  books.sys.shared.draining && idle books.sys &&
    books.sys.threads.all fun task ↦ task.queues.all (· ∉ books.owed)

/-- The process and its drain; on the way out of `drain` the workers are cancelled. -/
def booksStep (cfg : Config) (books : Books) : BooksAct → Option Books
  | .pool act =>
    if act.crashes then none
    else (step cfg books.sys act).map fun sys' ↦ ⟨sys', books.owedAfter act sys'⟩
  | .finish =>
    if books.drained then
      some { books with
        sys := { books.sys with shared := { books.sys.shared with cancelled := true } } }
    else none

/-! ## Nothing is owed when drain returns -/

def CarriedBy (request : DestroyRequest) (tasks : List Task) : Prop :=
  ∃ task ∈ tasks, task.carries = some request

/-- The request is on its way to `prov.Destroy`. -/
def Carried (sys : Sys) (request : DestroyRequest) : Prop :=
  request ∈ sys.shared.destroyQueue ∨ CarriedBy request sys.threads

def Act.drops : Act → Bool
  | .dropQueue => true
  | _ => false

def BooksAct.poolAct : BooksAct → Option Act
  | .pool act => some act
  | .finish => none

/-- The step does not lose a request of a failed clone: it is not skipped because the manager is
draining, not dropped at a full queue, and not dropped from the queue. -/
def KeepsRequests (books : Books) (a : BooksAct) (_ : Books) : Prop :=
  ∀ act ∈ a.poolAct,
    (∀ request ∈ (moving books.sys act).bind Task.queues,
      request ∈ books.owed → books.sys.shared.draining = false) ∧
    (∀ request ∈ (moving books.sys act).bind Task.enqueues,
      request ∈ books.owed → books.sys.shared.destroyQueue.length < destroyQueueCap) ∧
    (act.drops = true → ∀ request ∈ books.owed, request ∉ books.sys.shared.destroyQueue)

instance (books : Books) (a : BooksAct) (books' : Books) :
    Decidable (KeepsRequests books a books') :=
  inferInstanceAs (Decidable (∀ act ∈ a.poolAct,
    (∀ request ∈ (moving books.sys act).bind Task.queues,
      request ∈ books.owed → books.sys.shared.draining = false) ∧
    (∀ request ∈ (moving books.sys act).bind Task.enqueues,
      request ∈ books.owed → books.sys.shared.destroyQueue.length < destroyQueueCap) ∧
    (act.drops = true → ∀ request ∈ books.owed, request ∉ books.sys.shared.destroyQueue)))

/-- Drain returns cleanly only when nothing is owed. -/
def ReturnsSettled (books : Books) (a : BooksAct) (_ : Books) : Prop :=
  a.poolAct.isNone = true → books.owed = []

instance (books : Books) (a : BooksAct) (books' : Books) :
    Decidable (ReturnsSettled books a books') :=
  inferInstanceAs (Decidable (a.poolAct.isNone = true → books.owed = []))

/-- What becomes of a request when the task that carries it takes a step: it is carried on, queued,
lost to one of the two flags, or `prov.Destroy` is called. -/
theorem carried_exec (hcarries : task.carries = some request)
    (hexec : (task.action cfg reply).exec cfg s = some (s', next)) :
    CarriedBy request next ∨ request ∈ s'.destroyQueue ∨
      (task.queues = some request ∧ s.draining) ∨
      (task.enqueues = some request ∧ ¬s.destroyQueue.length < destroyQueueCap) ∨
      task.destroys = some request.vmid := by
  cases task with
  | cloneFailure prep =>
    refine .inl (exec_next (P := CarriedBy request) hexec ?_)
    simp_all [Action.Next, CarriedBy, Task.carries]
  | destroyOrSyncFallback r =>
    refine .inl (exec_next (P := CarriedBy request) hexec ?_)
    dsimp [Action.Next]
    split <;> simp_all [CarriedBy, Task.carries]
  | destroyAsync r =>
    cases hdraining : s.draining with
    | true => exact .inr (.inr (.inl ⟨hcarries, rfl⟩))
    | false =>
      refine .inl (exec_next (P := CarriedBy request) hexec ?_)
      simp_all [Action.Next, CarriedBy, Task.carries]
  | destroyEnqueue r =>
    by_cases hfull : s.destroyQueue.length < destroyQueueCap
    · refine .inr (.inl ?_)
      simp only [Task.action, destroyAction, Action.exec, hfull, if_true, Option.some.injEq,
        Prod.mk.injEq] at hexec
      obtain ⟨rfl, -⟩ := hexec
      simp_all [Task.carries]
    · exact .inr (.inr (.inr (.inl ⟨hcarries, hfull⟩)))
  | destroyGet r sync =>
    cases hcarries
    exact .inr (.inr (.inr (.inr rfl)))
  | _ => cases hcarries

/-- The queue keeps what a task's step finds in it. -/
theorem mem_destroyQueue_exec {action : Action} (h : action.exec cfg s = some (s', next))
    (hmem : request ∈ s.destroyQueue) : request ∈ s'.destroyQueue := by
  cases outcome_of_exec h with
  | inserted hnew =>
    unfold Shared.afterInsert
    (repeat' split) <;> exact hmem
  | notInserted => split <;> exact hmem
  | enqueued => exact List.mem_append_left _ hmem
  | _ => exact hmem

/-- A request that is owed stays on its way, unless `prov.Destroy` is called for its VMID. -/
theorem carried_fire {i : ℕ} (hthread : sys.threads[i]? = some task)
    (hexec : (task.action cfg reply).exec cfg sys.shared = some (s', next))
    (hqueues : task.queues = some request → sys.shared.draining = false)
    (henqueues : task.enqueues = some request → sys.shared.destroyQueue.length < destroyQueueCap)
    (hdestroys : task.destroys ≠ some request.vmid) (hcarried : Carried sys request) :
    Carried ⟨s', sys.threads.eraseIdx i ++ next⟩ request := by
  rcases hcarried with hqueue | ⟨other, hother, hcarries⟩
  · exact .inl (mem_destroyQueue_exec hexec hqueue)
  · rcases List.mem_cons.mp ((cons_eraseIdx_perm hthread).mem_iff.mpr hother) with rfl | hother
    · rcases carried_exec hcarries hexec with ⟨x, hx, hxr⟩ | hqueue | ⟨h, hdraining⟩ | ⟨h, hfull⟩ | h
      · exact .inr ⟨x, List.mem_append_right _ hx, hxr⟩
      · exact .inl hqueue
      · simp [hqueues h] at hdraining
      · exact absurd (henqueues h) hfull
      · exact absurd h hdestroys
    · exact .inr ⟨other, List.mem_append_left _ hother, hcarries⟩

theorem mem_owedAfter {books : Books} (h : request ∈ books.owedAfter act sys') :
    (request ∈ books.owed ∧
      ∀ task, moving books.sys act = some task → task.destroys ≠ some request.vmid) ∨
    ∃ task ∈ started books.sys act sys', task.failure = some request := by
  unfold Books.owedAfter at h
  split at h
  · next hmoving => exact .inl ⟨h, by simp [hmoving]⟩
  · next task hmoving =>
    rcases List.mem_append.mp h with h | h
    · obtain ⟨hmem, hne⟩ := List.mem_filter.mp h
      refine .inl ⟨hmem, fun other hother ↦ ?_⟩
      obtain rfl : task = other := Option.some.inj (hmoving.symm.trans hother)
      exact of_decide_eq_true hne
    · split at h
      · cases h
      · exact .inr (List.mem_filterMap.mp h)

theorem mem_threads_of_started (h : task ∈ started sys act sys') : task ∈ sys'.threads := by
  cases act with
  | fire => exact List.mem_of_mem_drop h
  | _ => cases h

theorem carried_step {books books' : Books} (hstep : step cfg books.sys act = some sys')
    (hcrash : ¬act.crashes) (hkeeps : KeepsRequests books (.pool act) books')
    (howed : request ∈ books.owed)
    (hdestroys : ∀ task, moving books.sys act = some task → task.destroys ≠ some request.vmid)
    (hcarried : Carried books.sys request) : Carried sys' request := by
  obtain ⟨hqueues, henqueues, hdrops⟩ := hkeeps act rfl
  cases stepped_of_step hstep with
  | @fire i reply task shared next hthread hexec =>
    refine carried_fire hthread hexec (fun h ↦ ?_) (fun h ↦ ?_) (hdestroys task hthread) hcarried
    · exact hqueues request (by simp [hthread, h]) howed
    · exact henqueues request (by simp [hthread, h]) howed
  | call =>
    rcases hcarried with hqueue | ⟨other, hother, hcarries⟩
    · exact .inl hqueue
    · exact .inr ⟨other, List.mem_append_left _ hother, hcarries⟩
  | dispatch hqueue =>
    rcases hcarried with hmem | ⟨other, hother, hcarries⟩
    · rw [hqueue] at hmem
      rcases List.mem_cons.mp hmem with rfl | hmem
      · exact .inr ⟨.destroyGet request false, by simp, rfl⟩
      · exact .inl hmem
    · exact .inr ⟨other, List.mem_append_left _ hother, hcarries⟩
  | crash => exact absurd rfl hcrash
  | outside houtside =>
    refine hcarried.imp_left fun hqueue ↦ ?_
    cases houtside with
    | dropQueue => exact absurd hqueue (hdrops rfl request howed)
    | _ => exact hqueue

/-- Every failed clone that is owed a destroy is on its way to one. -/
def OwedCarried (books : Books) : Prop := ∀ request ∈ books.owed, Carried books.sys request

theorem owedCarried_step {books books' : Books} {a : BooksAct} (hinv : OwedCarried books)
    (hkeeps : KeepsRequests books a books') (hstep : booksStep cfg books a = some books') :
    OwedCarried books' := by
  cases a with
  | finish =>
    obtain ⟨-, ⟨⟩⟩ := Option.ite_none_right_eq_some.mp hstep
    exact hinv
  | pool act =>
    obtain ⟨hcrash, hstep⟩ := Option.ite_none_left_eq_some.mp hstep
    obtain ⟨sys', hsys, rfl⟩ := Option.map_eq_some_iff.mp hstep
    intro request hrequest
    rcases mem_owedAfter hrequest with ⟨howed, hdestroys⟩ | ⟨task, htask, hfailure⟩
    · exact carried_step hsys hcrash hkeeps howed hdestroys (hinv request howed)
    · exact .inr ⟨task, mem_threads_of_started htask, carries_of_failure hfailure⟩

/-- A carrier of a request is counted by the wait group, or in `destroyAsync` with it. -/
theorem counted_of_carries (h : task.carries = some request) :
    task.counted ∨ task.queues = some request := by
  cases task <;> first | exact .inl rfl | exact .inr h

theorem owed_eq_nil_of_drained {books : Books} (hinv : OwedCarried books)
    (h : books.drained) : books.owed = [] := by
  rw [List.eq_nil_iff_forall_not_mem]
  intro request howed
  simp only [Books.drained, idle, Bool.and_eq_true, List.all_eq_true, List.isEmpty_iff,
    Bool.not_eq_true'] at h
  obtain ⟨⟨-, hcounted, hqueue⟩, hasync⟩ := h
  rcases hinv request howed with hmem | ⟨task, htask, hcarries⟩
  · simp [hqueue] at hmem
  · rcases counted_of_carries hcarries with h | h
    · simp [hcounted task htask] at h
    · have := hasync task htask
      simp [h, howed] at this

/-- In every run of one process, with drain and its worker cancellation at any point, in which no
step loses a request of a failed clone: when drain returns cleanly, `prov.Destroy` has been called
for the VMID of every failed clone since it failed. -/
theorem failed_clones_destroyed (cfg : Config) (cluster : Provisioner.Cluster)
    (runners : Gh.Runners) (now : Time) (labels : List BooksAct)
    (hkeeps : Along (booksStep cfg) KeepsRequests { sys := init cluster runners now } labels) :
    Along (booksStep cfg) ReturnsSettled { sys := init cluster runners now } labels := by
  refine along_of_invariant OwedCarried ?_ (by simp [OwedCarried]) hkeeps
  intro books a books' hinv hkeeps hstep
  refine ⟨fun hfinish ↦ ?_, owedCarried_step hinv hkeeps hstep⟩
  cases a with
  | pool act => cases hfinish
  | finish => exact owed_eq_nil_of_drained hinv (Option.ite_none_right_eq_some.mp hstep).1

/-! ### A clone that fails before and after drain begins -/

/-- A clone worker that has inserted its row and is about to clone. -/
def cloneInserted : List Act :=
  adoptNothing ++ [.call (.kickClone "" .hot true), .fire 0 (.node "pve1")] ++
    List.replicate 3 (.fire 0 .ok)

/-- The clone fails, and its VM is destroyed before the manager drains. -/
def failThenDrain : List BooksAct :=
  cloneInserted.map .pool ++ .pool (.fire 0 .fail) :: List.replicate 4 (.pool (.fire 0 .ok)) ++
    [.pool .dispatch, .pool (.fire 0 .ok), .pool (.fire 0 .ok), .pool .drain, .finish]

/-- The manager drains while the clone is in flight; the workers are not cancelled yet. -/
def drainThenFail : List BooksAct :=
  cloneInserted.map .pool ++ [.pool .drain, .pool (.fire 0 .fail)] ++
    List.replicate 3 (.pool (.fire 0 .ok)) ++ [.finish]

theorem failed_clones_destroyed_before_drain :
    (∃ books, run (booksStep smallPool) { sys := freshPool } failThenDrain = some books) ∧
      Along (booksStep smallPool) ReturnsSettled { sys := freshPool } failThenDrain := by
  refine ⟨Option.isSome_iff_exists.mp (by decide +kernel), ?_⟩
  exact failed_clones_destroyed smallPool .empty ∅ Store.second failThenDrain (by decide +kernel)

/-- The clone fails after the draining flag is set and before the workers are cancelled: the
fallback takes the asynchronous path, which is closed, and drain returns cleanly with the clone's
VMID never passed to `prov.Destroy`. -/
theorem failed_clone_leaks :
    (run (booksStep smallPool) { sys := freshPool } drainThenFail).any
        (fun books ↦ books.owed.map (·.vmid) = [10000]) = true ∧
      ¬Along (booksStep smallPool) ReturnsSettled { sys := freshPool } drainThenFail := by
  decide +kernel

end ScalesetProxmox.Pool
