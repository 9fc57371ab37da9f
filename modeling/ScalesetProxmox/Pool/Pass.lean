import ScalesetProxmox.Pool.Sizing
import ScalesetProxmox.Pool.System

/-!
# A whole reconcile pass

`reconcileProfileOnce` counts, promotes, dispatches clones, shrinks both pools, sweeps and ages out, in this
order. The counts are read once, the steps after them read the store again, and the clone, boot and destroy
workers that the pass has started run beside it from the moment they are started.

A `World` is the pool's system with the rest of the pass under way. The pass is one goroutine: what it calls
synchronously stays with it, and what it starts becomes a thread. Passes of one profile follow one another,
each after the operations of the one before it have completed, so that none reads a clone in flight. The
eviction for demand is not part of these passes; without capacity admission no deferral is ever recorded.
-/

namespace ScalesetProxmox.Pool

open Transition (run Along)

/-- The sizing knobs of a profile. -/
structure PassTargets where
  hotSize : ℕ
  warmSize : ℕ
  desired : ℤ
  maxConcurrentRunners : ℤ
  deriving DecidableEq, Repr

/-- What the pass reads before it decides, with nothing in flight. -/
def readSizing (cfg : Config) (settings : ProfileSettings) (targets : PassTargets) (s : Shared) : Sizing where
  stats := statsForProfile s.store settings.name
  hotProv := (provisioningCounts s.store settings.name).1
  warmProv := (provisioningCounts s.store settings.name).2
  hotSize := targets.hotSize
  warmSize := targets.warmSize
  desired := targets.desired
  profileMax := targets.maxConcurrentRunners
  credit := profileReturningCredit cfg s.store settings.name s.now settings.vmMaxAge

/-- `shrinkHotPool` keeps what the demand wants beyond the hot size. -/
def hotTarget (targets : PassTargets) (busy : ℕ) : ℤ :=
  if (targets.hotSize : ℤ) < targets.desired - busy then targets.desired - busy else targets.hotSize

/-- The steps of the pass after the clones. -/
def shrinkCalls (cfg : Config) (settings : ProfileSettings) (targets : PassTargets) (busy : ℕ) : List Task :=
  .shrinkPool settings.name .hot (hotTarget targets busy) ::
    .shrinkPool settings.name .warm targets.warmSize ::
    (if settings.name = cfg.defaultProfile.name then [.sweepStuckRows] else []) ++
    [.recycleOldVMs settings.name settings.vmMaxAge]

def cloneCalls (settings : ProfileSettings) (hot warm : ℕ) : List Task :=
  List.replicate hot (.kickClone settings.name .hot true) ++
    List.replicate warm (.kickClone settings.name .warm false)

def reconcileProfileOnce (cfg : Config) (settings : ProfileSettings) (targets : PassTargets) (s : Shared) :
    List Task :=
  let sizing := readSizing cfg settings targets s
  let dispatch := sizing.dispatch
  (if 0 < dispatch.promote then [.promoteN settings.name dispatch.promote] else []) ++
    cloneCalls settings dispatch.hot dispatch.warm ++
    shrinkCalls cfg settings targets sizing.stats.busy

structure World where
  sys : Sys
  /-- What the pass under way has still to do. -/
  script : List Task := []

/-- The point is one of the pass itself. -/
def Task.inPass : Task → Bool
  | .promoteN _ _ | .promoteLoop _ | .shrinkPool _ _ _ | .shrinkList _ _ _ | .shrinkLoop _ _ _ _
  | .sweepStuckRows | .sweepList _ | .sweepLoop _ | .recycleOldVMs _ _ | .recycleList _ _
  | .recycleLoop _ _ => true
  | _ => false

inductive PassAct
  /-- The pass takes its next step. -/
  | pass (reply : Reply)
  | fire (i : ℕ) (reply : Reply)
  | dispatch
  | elapse (d : ℕ)

/-- A worker is started, every other step of the pass is its own. -/
def World.advance (cfg : Config) (w : World) (reply : Reply) : Task → List Task → Option World
  | .kickClone profile kind poweredOn, rest =>
    some { sys := { w.sys with threads := w.sys.threads ++ [.kickClone profile kind poweredOn] }
           script := rest }
  | task, rest =>
    ((task.action cfg reply).exec cfg w.sys.shared).map fun after ↦
      { sys := { shared := after.1, threads := w.sys.threads ++ after.2.filter fun next ↦ !next.inPass }
        script := after.2.filter Task.inPass ++ rest }

def passStep (cfg : Config) (w : World) : PassAct → Option World
  | .pass reply =>
    match w.script with
    | [] => none
    | task :: rest => w.advance cfg reply task rest
  | .fire i reply => (step cfg w.sys (.fire i reply)).map fun sys ↦ { w with sys := sys }
  | .dispatch => (step cfg w.sys .dispatch).map fun sys ↦ { w with sys := sys }
  | .elapse d => (step cfg w.sys (.elapse d)).map fun sys ↦ { w with sys := sys }

/-! ## Operations that complete -/

/-- What a failed clone, a failed boot or a lost row leads to. -/
def Task.failed : Task → Bool
  | .cloneFailure _ | .poisonInc _ | .destroyOrSyncFallback _ => true
  -- a row is taken for stuck
  | .sweepLoop (_ :: _) => true
  | _ => false

/-- An operation may end here. -/
def Task.last : Task → Bool
  | .cloneUpdate _ _ _ | .bootHot _ | .destroyEnqueue _ | .destroyRow _ _ => true
  | task => task.inPass

/-- There is a boot slot for a promotion, and a place in the queue for a destroy. -/
def Task.hasSlot (s : Shared) : Task → Reply → Bool
  | .promoteLoop (_ :: _), .ok => true
  | .promoteLoop (_ :: _), _ => false
  | .destroyEnqueue _, _ => s.destroyQueue.length < destroyQueueCap
  | _, _ => true

/-- The step neither fails nor gives up. -/
def Task.succeeds (cfg : Config) (s : Shared) (task : Task) (reply : Reply) : Bool :=
  match (task.action cfg reply).exec cfg s with
  | none => true
  | some after =>
    task.hasSlot s reply && (task.last || !after.2.isEmpty) && !after.2.any Task.failed

/-- The operation that takes this step goes well. -/
def World.succeeds (cfg : Config) (w : World) : PassAct → Bool
  | .pass reply => (w.script.head?).all fun task ↦ !task.inPass || task.succeeds cfg w.sys.shared reply
  | .fire i reply => (w.sys.threads[i]?).all fun task ↦ task.succeeds cfg w.sys.shared reply
  | .dispatch | .elapse _ => true

/-- No pass is under way and nothing that one has dispatched. -/
def World.idle (w : World) : Bool :=
  w.script.isEmpty && w.sys.threads.isEmpty && w.sys.shared.destroyQueue.isEmpty

def World.beginPass (cfg : Config) (settings : ProfileSettings) (targets : PassTargets) (w : World) : World :=
  { w with script := reconcileProfileOnce cfg settings targets w.sys.shared }

/-- One pass, after which every operation that it dispatched has completed successfully. -/
def Pass (cfg : Config) (settings : ProfileSettings) (targets : PassTargets) (w w' : World) : Prop :=
  w.idle = true ∧ ∃ acts, run (passStep cfg) (w.beginPass cfg settings targets) acts = some w' ∧
    Along (passStep cfg) (fun w act _ ↦ w.succeeds cfg act = true) (w.beginPass cfg settings targets) acts ∧
    w'.idle = true

end ScalesetProxmox.Pool
