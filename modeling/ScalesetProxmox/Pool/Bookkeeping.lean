import ScalesetProxmox.Pool.System

/-!
# What the pool's workers take and give back

The manager counts its workers three times over: in the wait group that `drain` waits for, in one
semaphore per kind of worker, and in each profile's `pendingClones`, which reserves headroom until
the clone's row exists. The functions that start workers take from these counters and the workers'
deferred calls give back, some of it on the other side of a queue.

The counters are integers here, so that a release too many would show as a negative value.
`Goroutine.held` says which counters a goroutine still has to give back at each of its points, and
`Goroutine.next_balanced` that every step takes and gives back exactly the difference. Hence the
counters are at all times what the goroutines and the queue hold together, which is
`worker_bookkeeping_balances`. What the workers do besides is left open: a body goes on, inserts its
row, asks for destroys, returns or panics whenever it likes.
-/

namespace ScalesetProxmox.Pool.Bookkeeping

open Transition

/-! ## The counters -/

inductive Semaphore where
  | cloneSem | bootSem | destroySem
  deriving DecidableEq, Repr

/-- The weights `maxConcurrentClones`, `maxConcurrentBoots` and `maxConcurrentDestroys`. -/
def Semaphore.weight : Semaphore → ℤ
  | .cloneSem => 8
  | .bootSem => 16
  | .destroySem => 8

inductive Counter where
  | wg
  | sem (semaphore : Semaphore)
  | pendingClones (profile : String)
  deriving DecidableEq, Repr

/-- The manager's counters, by how much of each is taken, and the queue of the dispatcher. -/
structure Ledger where
  taken : Counter → ℤ := fun _ ↦ 0
  destroyQueue : List DestroyRequest := []
  draining : Bool := false

namespace Ledger

variable {ledger : Ledger} {counter other : Counter}

def available (ledger : Ledger) (semaphore : Semaphore) : ℤ :=
  semaphore.weight - ledger.taken (.sem semaphore)

/-- `wg.Add(1)`, `pendingClones.Add(1)`, and what a successful acquire does. -/
def take (ledger : Ledger) (counter : Counter) : Ledger :=
  { ledger with taken := Function.update ledger.taken counter (ledger.taken counter + 1) }

/-- `wg.Done()`, `pendingClones.Add(-1)` and `Release(1)`. Nothing here keeps the value from
becoming negative. -/
def give (ledger : Ledger) (counter : Counter) : Ledger :=
  { ledger with taken := Function.update ledger.taken counter (ledger.taken counter - 1) }

/-- The first call of a `sync.OnceFunc` around `pendingClones.Add(-1)`; an unknown profile has
reserved nothing. -/
def givePending (ledger : Ledger) : Option String → Ledger
  | none => ledger
  | some profile => ledger.give (.pendingClones profile)

@[simp] theorem taken_take :
    (ledger.take counter).taken other = ledger.taken other + ([counter].count other : ℕ) := by
  by_cases h : other = counter
  · subst h
    simp [take]
  · simp [take, h, Ne.symm h]

@[simp] theorem taken_give :
    (ledger.give counter).taken other = ledger.taken other - ([counter].count other : ℕ) := by
  by_cases h : other = counter
  · subst h
    simp [give]
  · simp [give, h, Ne.symm h]

@[simp] theorem taken_givePending (reserved : Option String) :
    (ledger.givePending reserved).taken other =
      ledger.taken other - ((reserved.toList.map Counter.pendingClones).count other : ℕ) := by
  cases reserved with
  | none => simp [givePending]
  | some profile => simp only [givePending, taken_give, Option.toList_some, List.map_cons, List.map_nil]

theorem taken_give_le : (ledger.give counter).taken other ≤ ledger.taken other := by
  rw [taken_give]
  omega

theorem taken_givePending_le (reserved : Option String) :
    (ledger.givePending reserved).taken other ≤ ledger.taken other := by
  rw [taken_givePending]
  omega

@[simp] theorem destroyQueue_givePending (reserved : Option String) :
    (ledger.givePending reserved).destroyQueue = ledger.destroyQueue := by
  cases reserved <;> rfl

end Ledger

/-! ## Goroutines -/

/-- The calls a worker goroutine has deferred. -/
inductive Deferred where
  /-- `logRecoveredPanic(…, recover())`. -/
  | logRecoveredPanic
  | give (counter : Counter)
  /-- `releasePending`, with the profile it still has to release. -/
  | releasePending (reserved : Option String)
  deriving DecidableEq, Repr

def Deferred.call (ledger : Ledger) : Deferred → Ledger
  | .logRecoveredPanic => ledger
  | .give counter => ledger.give counter
  | .releasePending reserved => ledger.givePending reserved

inductive Worker where
  | clone (reserved : Option String)
  | boot
  | destroy
  | rollback
  deriving DecidableEq, Repr

/-- The deferred calls of a worker in the order in which they run, the last deferred first. -/
def Worker.deferred : Worker → List Deferred
  | .clone reserved =>
    [.give (.sem .cloneSem), .logRecoveredPanic, .releasePending reserved, .give .wg]
  | .boot => [.give (.sem .bootSem), .logRecoveredPanic, .give .wg]
  | .destroy => [.logRecoveredPanic, .give (.sem .destroySem), .give .wg]
  | .rollback => [.give (.sem .destroySem), .logRecoveredPanic, .give .wg]

/-- A goroutine, by what it does next. -/
inductive Goroutine where
  | kickClone (profile : String)
  | kickCloneAdd (profile : String)
  | kickCloneReserve (profile : String)
  | kickCloneGo (reserved : Option String)
  /-- The loop of `promoteN` with this many rows left. -/
  | promoteN (warms : ℕ)
  | promoteUpdate (warms : ℕ)
  | promoteLost (warms : ℕ)
  | promoteAdd (warms : ℕ)
  | promoteGo (warms : ℕ)
  | destroyAsync (request : DestroyRequest)
  | destroySend (request : DestroyRequest)
  | destroyFull
  | destroyDispatcher
  | dispatchAcquire (request : DestroyRequest)
  | dispatchGo (request : DestroyRequest)
  | rollbackAsync
  | rollbackGo
  /-- The rollback goroutine before it has its slot. -/
  | rollbackAcquire
  | working (worker : Worker)
  /-- The body of a worker has returned or panicked, and these calls are left. -/
  | unwinding (deferred : List Deferred)
  deriving DecidableEq, Repr

/-- What the environment decides at a step. -/
inductive Choice where
  | proceed
  /-- The acquire's context is done, or the compare-and-swap is lost. -/
  | refuse
  /-- `runClone` calls `rowInserted`. -/
  | rowInserted
  /-- The body asks for a destroy. -/
  | destroy (request : DestroyRequest)
  | finish
  | panicked
  deriving DecidableEq, Repr

/-- An acquire waits while the semaphore is exhausted. -/
def acquire (ledger : Ledger) (semaphore : Semaphore) (successors : List Goroutine) :
    Option (Ledger × List Goroutine) :=
  if ledger.available semaphore ≤ 0 then none else some (ledger.take (.sem semaphore), successors)

/-- One step inside a worker's body. A destroy that the body asks for is a goroutine of its own
here: the runs in which the body waits for the call are among these. -/
def Worker.body (choice : Choice) (ledger : Ledger) (worker : Worker) :
    Option (Ledger × List Goroutine) :=
  match choice with
  | .proceed | .refuse => some (ledger, [.working worker])
  | .rowInserted =>
    match worker with
    | .clone reserved => some (ledger.givePending reserved, [.working (.clone none)])
    | .boot | .destroy | .rollback => none
  | .destroy request => some (ledger, [.working worker, .destroyAsync request])
  | .finish | .panicked => some (ledger, [.unwinding worker.deferred])

def Goroutine.next (cfg : Config) (choice : Choice) (ledger : Ledger) :
    Goroutine → Option (Ledger × List Goroutine)
  | .kickClone profile =>
    match choice with
    | .refuse => some (ledger, [])
    | _ => acquire ledger .cloneSem [.kickCloneAdd profile]
  | .kickCloneAdd profile => some (ledger.take .wg, [.kickCloneReserve profile])
  | .kickCloneReserve profile =>
    match cfg.profileOf profile with
    | none => some (ledger, [.kickCloneGo none])
    | some settings =>
      some (ledger.take (.pendingClones settings.name), [.kickCloneGo (some settings.name)])
  | .kickCloneGo reserved => some (ledger, [.working (.clone reserved)])
  | .promoteN 0 => some (ledger, [])
  | .promoteN (warms + 1) =>
    -- TryAcquire does not wait: a row without a slot is left for the next tick
    if ledger.available .bootSem ≤ 0 then some (ledger, [.promoteN warms])
    else some (ledger.take (.sem .bootSem), [.promoteUpdate warms])
  | .promoteUpdate warms =>
    match choice with
    | .refuse => some (ledger, [.promoteLost warms])
    | _ => some (ledger, [.promoteAdd warms])
  | .promoteLost warms => some (ledger.give (.sem .bootSem), [.promoteN warms])
  | .promoteAdd warms => some (ledger.take .wg, [.promoteGo warms])
  | .promoteGo warms => some (ledger, [.promoteN warms, .working .boot])
  -- the gate and `wg.Add` are under one lock
  | .destroyAsync request =>
    if ledger.draining then some (ledger, []) else some (ledger.take .wg, [.destroySend request])
  | .destroySend request =>
    if ledger.destroyQueue.length < destroyQueueCap then
      some ({ ledger with destroyQueue := ledger.destroyQueue ++ [request] }, [])
    else some (ledger, [.destroyFull])
  | .destroyFull => some (ledger.give .wg, [])
  | .destroyDispatcher =>
    match ledger.destroyQueue with
    | [] => none
    | request :: rest => some ({ ledger with destroyQueue := rest }, [.dispatchAcquire request])
  | .dispatchAcquire request => acquire ledger .destroySem [.dispatchGo request]
  | .dispatchGo _ => some (ledger, [.destroyDispatcher, .working .destroy])
  | .rollbackAsync =>
    if ledger.draining then some (ledger, []) else some (ledger.take .wg, [.rollbackGo])
  | .rollbackGo => some (ledger, [.rollbackAcquire])
  | .rollbackAcquire =>
    match choice with
    | .panicked => some (ledger, [.unwinding [.logRecoveredPanic, .give .wg]])
    | _ => acquire ledger .destroySem [.working .rollback]
  | .working worker => worker.body choice ledger
  | .unwinding [] => some (ledger, [])
  | .unwinding (deferred :: rest) => some (deferred.call ledger, [.unwinding rest])

/-- The calls that start from outside the workers. -/
def Goroutine.callable : Goroutine → Bool
  | .kickClone _ | .promoteN _ | .destroyAsync _ | .rollbackAsync => true
  | _ => false

abbrev Workers := Concurrent Ledger Goroutine

inductive Move where
  | fire (i : ℕ) (choice : Choice)
  | call (goroutine : Goroutine)
  | drain
  deriving DecidableEq, Repr

def step (cfg : Config) (workers : Workers) : Move → Option Workers
  | .fire i choice => workers.fire (Goroutine.next cfg choice) i
  | .call goroutine =>
    if goroutine.callable then some { workers with threads := workers.threads ++ [goroutine] } else none
  | .drain => some { workers with shared := { workers.shared with draining := true } }

def init : Workers := { shared := {}, threads := [.destroyDispatcher] }

/-! ## Who has to give back what -/

def Deferred.gives : Deferred → List Counter
  | .logRecoveredPanic => []
  | .give counter => [counter]
  | .releasePending reserved => reserved.toList.map .pendingClones

/-- The counters that a goroutine has taken, or was handed, and has not given back. -/
def Goroutine.held : Goroutine → List Counter
  | .kickClone _ | .promoteN _ | .destroyAsync _ | .destroyDispatcher | .rollbackAsync => []
  | .kickCloneAdd _ => [.sem .cloneSem]
  | .kickCloneReserve _ => [.sem .cloneSem, .wg]
  | .kickCloneGo reserved => (Worker.clone reserved).deferred.flatMap Deferred.gives
  | .promoteUpdate _ | .promoteLost _ | .promoteAdd _ => [.sem .bootSem]
  | .promoteGo _ => [.sem .bootSem, .wg]
  | .destroySend _ | .destroyFull | .dispatchAcquire _ | .rollbackGo | .rollbackAcquire => [.wg]
  | .dispatchGo _ => [.sem .destroySem, .wg]
  | .working worker => worker.deferred.flatMap Deferred.gives
  | .unwinding deferred => deferred.flatMap Deferred.gives

/-- A queued request stands for the `wg.Add(1)` of the call that queued it. -/
def Ledger.queued (ledger : Ledger) : List Counter := ledger.destroyQueue.map fun _ ↦ .wg

variable {cfg : Config} {choice : Choice} {ledger ledger' : Ledger} {goroutine : Goroutine}
  {successors : List Goroutine} {workers workers' : Workers}

@[simp] theorem Ledger.queued_take (counter : Counter) : (ledger.take counter).queued = ledger.queued := rfl

@[simp] theorem Ledger.queued_give (counter : Counter) : (ledger.give counter).queued = ledger.queued := rfl

@[simp] theorem Ledger.queued_givePending (reserved : Option String) :
    (ledger.givePending reserved).queued = ledger.queued := by
  simp [queued]

/-- What the successors and the queue hold more than before is what the step has taken. -/
def Exchange (ledger ledger' : Ledger) (goroutine : Goroutine) (successors : List Goroutine) : Prop :=
  ∀ counter, ledger'.taken counter + (goroutine.held ++ ledger.queued).count counter =
    ledger.taken counter + ((successors.flatMap Goroutine.held) ++ ledger'.queued).count counter

theorem acquire_eq_some {semaphore : Semaphore} {after : List Goroutine}
    (h : acquire ledger semaphore after = some (ledger', successors)) :
    ledger.taken (.sem semaphore) < semaphore.weight ∧ ledger' = ledger.take (.sem semaphore) ∧
      successors = after := by
  unfold acquire Ledger.available at h
  split at h
  · cases h
  · cases h
    exact ⟨by omega, rfl, rfl⟩

theorem Deferred.exchange_call (deferred : Deferred) (rest : List Deferred) :
    Exchange ledger (deferred.call ledger) (.unwinding (deferred :: rest)) [.unwinding rest] := by
  intro counter
  cases deferred with
  | logRecoveredPanic => simp [Deferred.call, Deferred.gives, Goroutine.held]
  | give | releasePending =>
    simp [Deferred.call, Deferred.gives, Goroutine.held, List.count_cons] <;> omega

theorem Worker.exchange_body {worker : Worker}
    (h : worker.body choice ledger = some (ledger', successors)) :
    Exchange ledger ledger' (.working worker) successors := by
  intro counter
  cases choice with
  | rowInserted =>
    cases worker with
    | clone reserved =>
      cases h
      simp [Goroutine.held, Worker.deferred, Deferred.gives, List.count_cons]
      omega
    | boot | destroy | rollback => cases h
  | proceed | refuse | destroy | finish | panicked =>
    cases h
    simp [Goroutine.held]

/-- Every step takes and gives back what its goroutine holds more or less afterwards. -/
theorem Goroutine.next_balanced (h : goroutine.next cfg choice ledger = some (ledger', successors)) :
    Exchange ledger ledger' goroutine successors := by
  cases goroutine with
  | working worker => exact Worker.exchange_body h
  | unwinding deferred =>
    cases deferred with
    | nil =>
      cases h
      intro counter
      simp [held]
    | cons deferred rest =>
      cases h
      exact deferred.exchange_call rest
  | kickClone profile =>
    intro counter
    dsimp only [Goroutine.next] at h
    split at h
    · cases h
      simp [held]
    · obtain ⟨_, rfl, rfl⟩ := acquire_eq_some h
      simp [held, List.count_cons]
      omega
  | dispatchAcquire request =>
    intro counter
    obtain ⟨_, rfl, rfl⟩ := acquire_eq_some h
    simp [held, List.count_cons]
    omega
  | rollbackAcquire =>
    intro counter
    dsimp only [Goroutine.next] at h
    split at h
    · cases h
      simp [held, Deferred.gives]
    · obtain ⟨_, rfl, rfl⟩ := acquire_eq_some h
      simp [held, Worker.deferred, Deferred.gives, List.count_cons]
      omega
  -- the two ends of the queue, where a request keeps the `wg.Add(1)` of its call
  | destroySend request =>
    intro counter
    dsimp only [Goroutine.next] at h
    split at h <;> cases h <;> simp [held, Ledger.queued, List.count_cons]
  | destroyDispatcher =>
    intro counter
    dsimp only [Goroutine.next] at h
    split at h <;> cases h
    simp [held, Ledger.queued, *]
  | promoteN warms =>
    intro counter
    cases warms with
    | zero =>
      cases h
      simp [held]
    | succ warms =>
      dsimp only [Goroutine.next] at h
      split at h <;> cases h <;> simp [held, List.count_cons]
      omega
  | kickCloneReserve | promoteUpdate | destroyAsync | rollbackAsync =>
    intro counter
    dsimp only [Goroutine.next] at h
    split at h <;> cases h <;> simp [held, Worker.deferred, Deferred.gives, List.count_cons] <;> omega
  | kickCloneAdd | kickCloneGo | promoteLost | promoteAdd | promoteGo | destroyFull | dispatchGo |
      rollbackGo =>
    intro counter
    cases h
    simp [held, Worker.deferred, Deferred.gives, List.count_cons] <;> omega

theorem Ledger.within_acquired {semaphore acquired : Semaphore}
    (hfree : ledger.taken (.sem acquired) < acquired.weight)
    (hwithin : ledger.taken (.sem semaphore) ≤ semaphore.weight) :
    (ledger.take (.sem acquired)).taken (.sem semaphore) ≤ semaphore.weight := by
  by_cases hsame : acquired = semaphore
  · subst hsame
    simp
    omega
  · simpa [hsame] using hwithin

/-- A semaphore is acquired only below its weight. -/
theorem Goroutine.next_within {semaphore : Semaphore}
    (h : goroutine.next cfg choice ledger = some (ledger', successors))
    (hwithin : ledger.taken (.sem semaphore) ≤ semaphore.weight) :
    ledger'.taken (.sem semaphore) ≤ semaphore.weight := by
  cases goroutine with
  | kickClone | dispatchAcquire | rollbackAcquire =>
    dsimp only [Goroutine.next] at h
    try split at h
    all_goals first
      | (obtain ⟨hfree, rfl, -⟩ := acquire_eq_some h
         exact Ledger.within_acquired hfree hwithin)
      | (cases h
         exact hwithin)
  | promoteN warms =>
    cases warms with
    | zero =>
      cases h
      exact hwithin
    | succ warms =>
      dsimp only [Goroutine.next] at h
      split at h
      · cases h
        exact hwithin
      · cases h
        refine Ledger.within_acquired ?_ hwithin
        unfold Ledger.available at *
        omega
  | working worker =>
    cases choice with
    | rowInserted =>
      cases worker <;> cases h
      exact (Ledger.taken_givePending_le _).trans hwithin
    | proceed | refuse | destroy | finish | panicked =>
      cases h
      exact hwithin
  | unwinding deferred =>
    cases deferred with
    | nil =>
      cases h
      exact hwithin
    | cons deferred rest =>
      cases h
      cases deferred with
      | logRecoveredPanic => exact hwithin
      | give counter => exact Ledger.taken_give_le.trans hwithin
      | releasePending reserved => exact (Ledger.taken_givePending_le reserved).trans hwithin
  | destroyDispatcher =>
    dsimp only [Goroutine.next] at h
    split at h <;> cases h
    exact hwithin
  | _ =>
    -- the rest only counts in the wait group and `pendingClones`, or gives back
    dsimp only [Goroutine.next] at h
    repeat' split at h
    all_goals
      cases h
      first
      | exact hwithin
      | exact Ledger.taken_give_le.trans hwithin

/-! ## The counters over whole runs -/

/-- The counters are what the goroutines and the queued requests hold together, and a semaphore never
hands out more than its weight. -/
structure Balanced (workers : Workers) : Prop where
  taken : ∀ counter, workers.shared.taken counter =
    ((workers.threads.map fun goroutine ↦ goroutine.held.count counter).sum +
      workers.shared.queued.count counter : ℕ)
  within : ∀ semaphore : Semaphore, workers.shared.taken (.sem semaphore) ≤ semaphore.weight

theorem balanced_init : Balanced init := by
  refine ⟨fun counter ↦ ?_, fun semaphore ↦ ?_⟩
  · simp [init, Goroutine.held, Ledger.queued]
  · cases semaphore <;> decide

theorem Balanced.fire {i : ℕ} (hbalanced : Balanced workers)
    (h : workers.fire (Goroutine.next cfg choice) i = some workers') : Balanced workers' := by
  obtain ⟨goroutine, ledger', successors, hgoroutine, hnext, rfl⟩ := fire_eq_some.mp h
  refine ⟨fun counter ↦ ?_, fun semaphore ↦ Goroutine.next_within hnext (hbalanced.within semaphore)⟩
  have hexchange := Goroutine.next_balanced hnext counter
  have hsum := sum_map_fire (fun goroutine ↦ goroutine.held.count counter) hgoroutine successors
  have htaken := hbalanced.taken counter
  simp only [List.count_append, List.count_flatMap, Function.comp_def] at hexchange
  dsimp only
  omega

theorem Balanced.step {move : Move} (hbalanced : Balanced workers)
    (h : step cfg workers move = some workers') : Balanced workers' := by
  cases move with
  | fire i choice => exact hbalanced.fire h
  | call goroutine =>
    dsimp only [Bookkeeping.step] at h
    split at h
    · rename_i hcallable
      cases h
      -- a call that has not begun holds nothing
      have hnone : goroutine.held = [] := by
        cases goroutine <;> first | rfl | cases hcallable
      refine ⟨fun counter ↦ ?_, hbalanced.within⟩
      simp [hnone, hbalanced.taken counter]
    · cases h
  | drain =>
    cases h
    exact ⟨hbalanced.taken, hbalanced.within⟩

/-- No goroutine but the idle dispatcher is left, and nothing is queued. -/
def Idle (workers : Workers) : Prop :=
  workers.shared.destroyQueue = [] ∧ ∀ goroutine ∈ workers.threads, goroutine = .destroyDispatcher

instance : Decidable (Idle workers) := inferInstanceAs (Decidable (_ ∧ _))

theorem Balanced.taken_eq_zero (hbalanced : Balanced workers) (hidle : Idle workers)
    (counter : Counter) : workers.shared.taken counter = 0 := by
  have hthreads : (workers.threads.map fun goroutine ↦ goroutine.held.count counter).sum = 0 := by
    refine List.sum_eq_zero fun held hheld ↦ ?_
    obtain ⟨goroutine, hmem, rfl⟩ := List.mem_map.mp hheld
    rw [hidle.2 goroutine hmem]
    rfl
  simp [hbalanced.taken counter, hthreads, Ledger.queued, hidle.1]

/-- Every counter is at all times at least 0 and no semaphore exceeds its weight, and once every
goroutine and every request is gone all counters are back where they started. -/
theorem worker_bookkeeping_balances (cfg : Config) (moves : List Move)
    (hrun : run (step cfg) init moves = some workers) :
    (0 ≤ workers.shared.taken .wg ∧ (∀ profile, 0 ≤ workers.shared.taken (.pendingClones profile)) ∧
      ∀ semaphore : Semaphore, 0 ≤ workers.shared.available semaphore ∧
        workers.shared.available semaphore ≤ semaphore.weight) ∧
    (Idle workers → workers.shared.taken .wg = 0 ∧
      (∀ profile, workers.shared.taken (.pendingClones profile) = 0) ∧
      ∀ semaphore : Semaphore, workers.shared.available semaphore = semaphore.weight) := by
  have hbalanced : Balanced workers :=
    invariant_of_along (C := fun _ _ _ ↦ True) Balanced (fun _ _ _ hinv _ ht ↦ hinv.step ht)
      balanced_init (along_of_step fun _ _ _ _ ↦ trivial) hrun
  have hnonneg : ∀ counter, 0 ≤ workers.shared.taken counter := by
    intro counter
    rw [hbalanced.taken counter]
    exact Int.natCast_nonneg _
  refine ⟨⟨hnonneg _, fun profile ↦ hnonneg _, fun semaphore ↦ ?_⟩, fun hidle ↦ ?_⟩
  · have hfree := hbalanced.within semaphore
    have htaken := hnonneg (.sem semaphore)
    unfold Ledger.available
    omega
  · have hzero := hbalanced.taken_eq_zero hidle
    refine ⟨hzero _, fun profile ↦ hzero _, fun semaphore ↦ ?_⟩
    rw [Ledger.available, hzero, sub_zero]

/-- A clone panics before its row exists, and a boot worker asks for a destroy that is then carried
out. -/
def panickingClone : List Move :=
  ([.call (.kickClone "default"), .fire 1 .proceed, .fire 1 .proceed, .fire 1 .proceed, .fire 1 .proceed,
    .call (.promoteN 1), .fire 2 .proceed, .fire 2 .proceed, .fire 2 .proceed, .fire 2 .proceed,
    .fire 1 .panicked, .fire 1 .proceed, .fire 1 (.destroy ⟨10000, "pve1", "default", 0⟩),
    .fire 3 .proceed, .fire 3 .proceed, .fire 0 .proceed, .fire 2 .proceed, .fire 2 .proceed,
    .fire 1 .finish, .fire 2 .finish, .fire 0 .proceed] : List Move) ++
    (List.replicate 12 (.fire 1 .proceed) : List Move)

theorem worker_bookkeeping_balances_panickingClone :
    ∃ workers ∈ run (step smallPool) init panickingClone, Idle workers ∧
      workers.shared.taken .wg = 0 ∧ (∀ profile, workers.shared.taken (.pendingClones profile) = 0) ∧
      ∀ semaphore : Semaphore, workers.shared.available semaphore = semaphore.weight := by
  obtain ⟨workers, hrun, hidle⟩ :
      ∃ workers ∈ run (step smallPool) init panickingClone, Idle workers := by decide
  exact ⟨workers, hrun, hidle, (worker_bookkeeping_balances smallPool panickingClone hrun).2 hidle⟩

end ScalesetProxmox.Pool.Bookkeeping
