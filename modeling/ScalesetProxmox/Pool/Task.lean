import ScalesetProxmox.Store.Transactions
import ScalesetProxmox.Provisioner.Ownership
import ScalesetProxmox.Gh.Matrix

/-!
# The pool manager's goroutines

Every goroutine of the pool manager and of its callers is a `Task`: the point of the source it has
reached, with the local variables that are live there. A task takes one store transaction, one call
to Proxmox or GitHub, or one look at a flag at a time; between any two such steps other tasks run.
A helper that the source calls synchronously and whose result it does not read (`destroyAsync`,
`rollbackAsync`, a `MarkCompleted` inside a loop) is started as a task of its own, which only adds
interleavings. Semaphores are not modelled for the same reason.

Three kinds of local data have no counterpart in the source. They name what a statement is about:
`gen` is the generation of the VMID's row that a worker or a destroy request belongs to, and the
`evidence` of a completion is the tenancy that the observation behind it was made in.
-/

namespace ScalesetProxmox.Pool

open Store (VMID Time State PoolKind)
open ScalesetProxmox.Configuration (VMIDRange)

structure ProfileSettings where
  name : String
  bootMaxAttempts : ℕ
  vmMaxAge : Time
  templateVMID : VMID := 0
  deriving DecidableEq, Repr

/-- The configuration a pool manager and its provisioner run with. -/
structure Config where
  pmox : Provisioner.Pmox
  vmidRange : VMIDRange
  maxConcurrentRunners : ℤ
  linkedClones : Bool := false
  templateVMID : VMID := 0
  templateNode : String := ""
  /-- Nodes of the templates that differ from the global one. -/
  locateTemplate : VMID → Option String := fun _ ↦ none
  /-- `recycle_mode: snapshot_rollback`. -/
  snapshotRecycle : Bool := false
  vmMaxAge : Time := 0
  bootMaxAttempts : ℕ := 3
  vmidReuseCooldown : Time
  recentlyDestroyedTTL : Time
  defaultProfile : ProfileSettings
  otherProfiles : List ProfileSettings := []
  nodes : List String
  graces : Gh.Graces

namespace Config

def profiles (cfg : Config) : List ProfileSettings := cfg.defaultProfile :: cfg.otherProfiles

/-- The empty name means the default profile; an unknown name has none. -/
def profileOf (cfg : Config) (name : String) : Option ProfileSettings :=
  if name = "" then some cfg.defaultProfile else cfg.profiles.find? (·.name = name)

end Config

/-- A VM handed around between the pool and its workers. -/
structure Handle where
  vmid : VMID
  node : String
  name : String
  profile : String
  deriving DecidableEq, Repr

def Handle.ofRow (row : Store.VM) : Handle where
  vmid := row.vmid
  node := row.node
  name := row.name
  profile := row.profile

structure DestroyRequest where
  vmid : VMID
  node : String
  profile : String
  gen : ℕ
  deriving DecidableEq, Repr

/-- What `prepareClone` hands to the rest of `runClone`. -/
structure ClonePrep where
  profileName : String
  node : String
  vmid : VMID
  name : String
  templateVMID : VMID
  templateClass : String
  kind : PoolKind
  poweredOn : Bool
  gen : ℕ
  deriving DecidableEq, Repr

def ClonePrep.request (prep : ClonePrep) : DestroyRequest where
  vmid := prep.vmid
  node := prep.node
  profile := prep.profileName
  gen := prep.gen

/-- A boot in progress: the row as the worker was given it and the node the guest was started on. -/
structure Boot where
  row : Store.VM
  node : String
  gen : ℕ
  deriving DecidableEq, Repr

inductive Task
  -- the scaler's path from an acquired VM to a delivered runner configuration
  | acquire (profile : String) (jobID maxBusy : ℤ)
  | provisionJit (vm : Handle)
  | provisionSetRunner (vm : Handle) (runnerID : ℤ)
  | provisionInject (vm : Handle)
  -- callbacks and admin calls
  | setRunnerID (v : VMID) (runnerID : ℤ)
  | stampJobMetadata (v : VMID) (org repo priorityClass : String)
  | markRunning (v : VMID) (runnerID : ℤ)
  | promoteToRunning (v : VMID) (runnerID jobID : ℤ)
  | forceDestroy (v : VMID)
  | preempt (v : VMID)
  | preemptCas (target : Store.VM)
  | markCompleted (v : VMID) (evidence : Option ℕ)
  | markCompletedDecide (target : Store.VM) (evidence : Option ℕ)
  | markCompletedCas (target : Store.VM) (recycle : Bool) (evidence : Option ℕ)
  -- snapshot rollback
  | rollbackAsync (vm : Handle)
  | rollbackClear (vm : Handle)
  | rollbackSnapshot (vm : Handle)
  | rollbackWarm (vm : Handle)
  | fallbackDestroy (vm : Handle)
  -- destroy path; `sync` is the clone worker's own synchronous destroy
  | destroyAsync (request : DestroyRequest)
  | destroyEnqueue (request : DestroyRequest)
  | destroyOrSyncFallback (request : DestroyRequest)
  | destroyGet (request : DestroyRequest) (sync : Bool)
  | destroyDelete (request : DestroyRequest) (sync : Bool)
  | destroyAwait (request : DestroyRequest) (sync : Bool)
  | destroyRow (request : DestroyRequest) (sync : Bool)
  -- reconcile passes
  | shrinkPool (profile : String) (state : State) (target : ℤ)
  | shrinkList (profile : String) (state : State) (excess : ℕ)
  | shrinkLoop (profile : String) (state : State) (excess : ℕ) (rows : List Store.VM)
  | recycleOldVMs (profile : String) (maxAge : Time)
  | recycleList (profile : String) (cutoff : Time)
  | recycleLoop (profile : String) (rows : List Store.VM)
  | evictForDemand (victims : List VMID)
  | evictLoop (rows : List Store.VM) (committed : List DestroyRequest)
  | sweepStuckRows
  | sweepList (cutoff : Time)
  | sweepLoop (rows : List Store.VM)
  | promoteN (profile : String) (n : ℕ)
  | promoteLoop (rows : List Store.VM)
  -- clone worker
  | kickClone (profile : String) (kind : PoolKind) (poweredOn : Bool)
  | cloneAllocate (profile : ProfileSettings) (kind : PoolKind) (poweredOn : Bool) (node : String)
  | cloneInsert (profile : ProfileSettings) (kind : PoolKind) (poweredOn : Bool) (node : String)
      (v : VMID)
  | cloneIpam (prep : ClonePrep)
  | cloneIssue (prep : ClonePrep)
  | cloneAwait (prep : ClonePrep) (node : String)
  | cloneConfigure (prep : ClonePrep) (node : String)
  | clonePower (prep : ClonePrep) (node : String)
  | cloneSnapshot (prep : ClonePrep) (node : String)
  | cloneUpdate (prep : ClonePrep) (node : String) (hasSnapshot : Bool)
  | cloneFailure (prep : ClonePrep)
  -- boot worker
  | bootStart (boot : Boot)
  | bootWait (boot : Boot)
  | bootHot (boot : Boot)
  | poisonInc (boot : Boot)
  | poisonMark (boot : Boot)
  | poisonDestroying (boot : Boot) (request : DestroyRequest)
  -- power poll
  | powerPollOnce
  | powerPollLoop (rows : List Store.VM)
  -- adoption
  | adopt
  | adoptScan (nodes : List String) (found : List Provisioner.VM)
  | adoptRunners (found : List Provisioner.VM)
  | adoptLoop (found : List Provisioner.VM) (runners : Gh.Runners)
  | adoptInsert (row : Store.VM) (recycleOnAdopt : Bool) (rest : List Provisioner.VM)
      (runners : Gh.Runners)
  -- the GitHub reconciler's pass
  | tick
  | tickRows (runners : Gh.Runners)
  | tickMatrix (runners : Gh.Runners) (rows : List Gh.RowSnapshot)
  | tickApply (now : Time) (runners : Gh.Runners) (rows : List Gh.RowSnapshot)

/-- What the world outside the process answers to a step. -/
inductive Reply
  | ok
  | fail
  /-- The node that `admitClone` chose. -/
  | node (name : String)
  /-- The template that the canary controller chose. -/
  | template (v : VMID) (templateClass : String)
  /-- The result of a power query, empty for a VM that Proxmox does not know. -/
  | power (status : Option Provisioner.Power)
  /-- The runner listing that adoption was given. -/
  | runners (runners : Gh.Runners)
  /-- The runner id of a new registration. -/
  | jit (runnerID : ℤ)

/-- A power query's result; `none` when it failed. -/
def Reply.powerResult : Reply → Option (Option Provisioner.Power)
  | .power status => some status
  | _ => none

/-- The template a clone is made from, with its class. -/
def Reply.templateFor (settings : ProfileSettings) : Reply → VMID × String
  | .template v templateClass => (if 0 < v then v else settings.templateVMID, templateClass)
  | _ => (settings.templateVMID, Tags.templateStable)

end ScalesetProxmox.Pool
