import ScalesetProxmox.Pool.Program
import ScalesetProxmox.Transition.Run
import ScalesetProxmox.Transition.Threads

/-!
# The pool as a system of interleaved tasks

`Shared` is everything more than one goroutine can see: the store, the Proxmox cluster, GitHub's
runners, the destroy queue, the two shutdown flags, the allocation lock and the clock. `Action.exec`
gives the atomic steps their meaning on it and `step` adds what happens outside the tasks: calls
arrive, the destroy dispatcher takes a request, time passes, the manager drains, guests and runners
change by other hands, the process dies and starts again with an empty store.

`gens v` counts how often a row with VMID `v` was inserted and `tenancies v` how often such a row
became busy. Both survive a crash, like the guests; no step of the program reads them.
-/

namespace ScalesetProxmox.Pool

open Store (VMID Time)
open Provisioner (Guest Power Cluster Tracker)
open Transition (Concurrent)

structure Shared where
  store : Store := .empty
  cluster : Cluster := .empty
  recentlyDestroyed : Tracker := fun _ ↦ none
  destroyQueue : List DestroyRequest := []
  draining : Bool := false
  cancelled : Bool := false
  allocMu : Bool := false
  now : Time := 0
  runners : Gh.Runners := ∅
  gens : VMID → ℕ := fun _ ↦ 0
  tenancies : VMID → ℕ := fun _ ↦ 0

/-- The store has a row for the VMID that holds a job slot. -/
def busyAt (store : Store) (v : VMID) : Bool := (store.get v).any (·.state.busy)

namespace Shared

/-- Commit a transaction on the row of `v`. -/
def commit (s : Shared) (v : VMID) (store : Store) : Shared :=
  { s with
    store := store
    gens := if (s.store.get v).isNone && (store.get v).isSome then
        Function.update s.gens v (s.gens v + 1)
      else s.gens
    tenancies := if !busyAt s.store v && busyAt store v then
        Function.update s.tenancies v (s.tenancies v + 1)
      else s.tenancies }

/-- After an insert: an adopted guest belongs to the row's generation, an allocation gives up the
lock. -/
def afterInsert (s : Shared) (v : VMID) (adopted : Bool) : Shared :=
  if adopted then
    match s.cluster.get v with
    | some guest => { s with cluster := s.cluster.put { guest with gen := s.gens v } }
    | none => s
  else
    { s with allocMu := false }

end Shared

def destroyQueueCap : ℕ := 16

/-- The lowest VMID of the range that has no row and was not destroyed recently. -/
def allocateVMID (cfg : Config) (s : Shared) : Option VMID :=
  let used := s.store.usedVMIDs cfg.vmidRange.min cfg.vmidRange.max
  (List.range' cfg.vmidRange.min (cfg.vmidRange.max + 1 - cfg.vmidRange.min)).find? fun v ↦
    v ∉ used ∧ Provisioner.isRecentlyDestroyed s.recentlyDestroyed cfg.recentlyDestroyedTTL
      cfg.vmidReuseCooldown s.now v = false

/-- The effect of an atomic step; `none` while the allocation lock is held by another task. -/
def Action.exec (cfg : Config) (s : Shared) : Action → Option (Shared × List Task)
  | .skip next => some (s, next)
  | .clock next => some (s, next s.now)
  | .flags next => some (s, next s.draining s.cancelled)
  | .read next => some (s, next s.store)
  | .insert row adopted next =>
    match s.store.insert s.now row with
    | .ok store =>
      let after := s.commit row.vmid store
      some (after.afterInsert row.vmid adopted, next (after.gens row.vmid) true)
    | .error _ =>
      some (if adopted then s else { s with allocMu := false }, next (s.gens row.vmid) false)
  | .update v mutate next =>
    match s.store.update s.now v (mutate s.now) with
    | .ok (store, row) => some (s.commit v store, next (s.gens v) (.ok row))
    | .error err => some (s, next (s.gens v) (.error err))
  | .cas v allowed target mutate next =>
    match s.store.updateStateIn s.now v allowed target (mutate s.now) with
    | .ok (store, true) => some (s.commit v store, next (s.gens v) (store.get v))
    | _ => some (s, next (s.gens v) none)
  | .acquire profile jobID maxBusy next =>
    match s.store.acquireHotInProfile s.now profile jobID cfg.maxConcurrentRunners maxBusy with
    | .ok (store, row) => some (s.commit row.vmid store, next (some row))
    | .error _ => some (s, next none)
  | .delete v next => some (s.commit v (s.store.deleteAndReturn v).1, next)
  | .enqueue request =>
    if s.destroyQueue.length < destroyQueueCap then
      some ({ s with destroyQueue := s.destroyQueue ++ [request] }, [])
    else
      some (s, [])
  | .allocate next =>
    if s.allocMu then none
    else if s.cancelled then some (s, next none)
    else
      match allocateVMID cfg s with
      | some v => some ({ s with allocMu := true }, next (some v))
      | none => some (s, next none)
  | .observe v next =>
    some (s, next (if busyAt s.store v then some (s.tenancies v) else none))
  | .listOwned node next => some (s, next (Provisioner.listOwnedOn cfg.pmox s.cluster node))
  | .listRunners next =>
    some (s, next (Gh.listRunnersByPrefix s.runners cfg.pmox.vmNamePrefix))
  | .create guest next =>
    match s.cluster.get guest.vmid with
    | some _ => some (s, next false)
    | none => some ({ s with cluster := s.cluster.put guest }, next true)
  | .touch v node change next =>
    some ({ s with cluster := s.cluster.modify v node change }, next (s.cluster.find v node).isSome)
  | .remove v node next =>
    match s.cluster.find v node with
    | some _ => some ({ s with cluster := s.cluster.erase v }, next true)
    | none => some (s, next false)
  | .settle v next =>
    some ({ s with recentlyDestroyed := Function.update s.recentlyDestroyed v (some s.now) }, next)

/-- The pool with all its goroutines. -/
abbrev Sys := Concurrent Shared Task

inductive Act
  /-- Task `i` takes its next step; the outside world answers `reply`. -/
  | fire (i : ℕ) (reply : Reply)
  /-- A call arrives from the listener, the admin API, a timer or the reconcile loop. -/
  | call (task : Task)
  /-- The destroy dispatcher takes the next request. -/
  | dispatch
  /-- The dispatcher drops its queue after the workers were cancelled. -/
  | dropQueue
  | elapse (d : ℕ)
  | drain
  | cancel
  /-- The process dies and a new one adopts what it finds. -/
  | crash
  /-- Somebody else creates a guest. -/
  | createGuest (v : VMID) (node name tags : String)
  | removeGuest (v : VMID)
  | setPower (v : VMID) (power : Power)
  /-- The runner on a guest that has its configuration takes a job. -/
  | runJob (v : VMID)
  | setRunner (name : String) (runner : Gh.RunnerInfo)
  | removeRunner (name : String)

/-- The calls that can arrive at any time. A completion callback is for a job that ran in some
tenancy of the VMID. -/
def callable (s : Shared) : Task → Bool
  | .acquire _ _ _ | .setRunnerID _ _ | .stampJobMetadata _ _ _ _ | .markRunning _ _
  | .promoteToRunning _ _ _ | .forceDestroy _ | .preempt _ | .markCompleted _ none
  | .recycleOldVMs _ _ | .evictForDemand _ | .sweepStuckRows | .promoteN _ _
  | .kickClone _ _ _ | .powerPollOnce | .tick => true
  -- `shrinkHotPool` and `shrinkWarmPool`
  | .shrinkPool _ state _ => state = .hot ∨ state = .warm
  | .markCompleted v (some tenancy) => 1 ≤ tenancy ∧ tenancy ≤ s.tenancies v
  | _ => false

/-- What a new process starts with. -/
def Shared.restart (s : Shared) : Shared :=
  { cluster := s.cluster, now := s.now, runners := s.runners, gens := s.gens
    tenancies := s.tenancies }

def step (cfg : Config) (sys : Sys) : Act → Option Sys
  | .fire i reply => sys.fire (fun s task ↦ (task.action cfg reply).exec cfg s) i
  | .call task =>
    if callable sys.shared task then some { sys with threads := sys.threads ++ [task] } else none
  | .dispatch =>
    match sys.shared.destroyQueue with
    | [] => none
    | request :: rest =>
      some { shared := { sys.shared with destroyQueue := rest }
             threads := sys.threads ++ [.destroyGet request false] }
  | .dropQueue =>
    if sys.shared.cancelled then some { sys with shared := { sys.shared with destroyQueue := [] } }
    else none
  | .elapse d => some { sys with shared := { sys.shared with now := sys.shared.now + d } }
  | .drain => some { sys with shared := { sys.shared with draining := true } }
  | .cancel => some { sys with shared := { sys.shared with cancelled := true } }
  | .crash => some { shared := sys.shared.restart, threads := [.adopt] }
  | .createGuest v node name tags =>
    match sys.shared.cluster.get v with
    | some _ => none
    | none =>
      let guest : Guest := { vmid := v, node := node, name := name, tags := tags }
      some { sys with shared := { sys.shared with cluster := sys.shared.cluster.put guest } }
  | .removeGuest v =>
    some { sys with shared := { sys.shared with cluster := sys.shared.cluster.erase v } }
  | .setPower v power =>
    match sys.shared.cluster.get v with
    | none => none
    | some guest =>
      some { sys with
        shared := { sys.shared with
          cluster := sys.shared.cluster.put { guest with power := power } } }
  | .runJob v =>
    match sys.shared.cluster.get v with
    | none => none
    | some guest =>
      if guest.disk ≠ .clean then
        some { sys with
          shared := { sys.shared with cluster := sys.shared.cluster.put { guest with disk := .used } } }
      else none
  | .setRunner name runner =>
    some { sys with shared := { sys.shared with runners := sys.shared.runners.insert name runner } }
  | .removeRunner name =>
    some { sys with shared := { sys.shared with runners := sys.shared.runners.erase name } }

/-- A first process facing a cluster and a set of runners. -/
def init (cluster : Cluster) (runners : Gh.Runners) (now : Time) : Sys where
  shared := { cluster := cluster, runners := runners, now := now }
  threads := [.adopt]

/-- A scale set `ci` with ten VMIDs on one node, in destroy mode. -/
def smallPool : Config where
  pmox := { scaleSetName := "ci", vmNamePrefix := "gh-runner-ci-", vmidRange := ⟨10000, 10009⟩ }
  vmidRange := ⟨10000, 10009⟩
  maxConcurrentRunners := 4
  templateVMID := 9000
  templateNode := "pve1"
  vmidReuseCooldown := 30 * Store.second
  recentlyDestroyedTTL := 120 * Store.second
  defaultProfile := { name := "default", bootMaxAttempts := 3, vmMaxAge := 0 }
  nodes := ["pve1"]
  graces :=
    { assignedGrace := 5 * Store.minute, assignedOfflineGrace := 2 * Store.minute
      runningIdleGrace := 5 * Store.minute }

/-- The first process of a pool whose cluster is empty. -/
def freshPool : Sys := init .empty ∅ Store.second

/-- Adoption on an empty cluster of one node. -/
def adoptNothing : List Act := List.replicate 5 (.fire 0 .ok)

/-- A clone worker runs on its own, from the call to the transition of its row. -/
def cloneOne (kind : Store.PoolKind) (poweredOn : Bool) : List Act :=
  [.call (.kickClone "" kind poweredOn), .fire 0 (.node "pve1")] ++ List.replicate 8 (.fire 0 .ok)

/-- A VM is cloned, booted and acquired, and its runner configuration is delivered. -/
def deliverOne : List Act :=
  cloneOne .hot true ++ [.fire 0 .ok, .fire 0 .ok, .call (.acquire "" 7 4), .fire 0 .ok,
    .fire 0 (.jit 5), .fire 0 .ok, .fire 0 .ok]

end ScalesetProxmox.Pool
