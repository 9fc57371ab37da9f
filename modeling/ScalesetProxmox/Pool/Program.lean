import ScalesetProxmox.Pool.Task

/-!
# The program of each goroutine

`Task.action` gives, for every point a goroutine can be at, the atomic step it takes there and the
points it goes on to for each outcome. It is read against `internal/pool/manager.go`, with
`internal/pool/capacity.go` for the eviction, `internal/provisioner/provisioner.go` for the calls to
Proxmox, `internal/scaler/scaler.go` for the delivery of runner configurations and
`internal/gh/reconciler.go` for the reconciler's pass.

A continuation whose first argument is a number is handed the generation of the VMID's row, so that
the requests and workers it starts can be named after it.
-/

namespace ScalesetProxmox.Pool

open Store (VMID Time State PoolKind Err)
open Provisioner (Guest Power)

/-- One atomic step, with what comes after each of its outcomes. -/
inductive Action
  /-- Nothing shared is read or written. -/
  | skip (next : List Task)
  | clock (next : Time → List Task)
  /-- Whether the manager is draining, and whether its workers are cancelled. -/
  | flags (next : Bool → Bool → List Task)
  /-- A read transaction. -/
  | read (next : Store → List Task)
  /-- Insert a row, for an adopted guest or under the allocation lock. -/
  | insert (row : Store.VM) (adopted : Bool) (next : ℕ → Bool → List Task)
  | update (v : VMID) (mutate : Time → Store.VM → Store.VM)
      (next : ℕ → Except Err Store.VM → List Task)
  /-- Compare-and-swap; the continuation gets the row it wrote. -/
  | cas (v : VMID) (allowed : List State) (target : State) (mutate : Time → Store.VM → Store.VM)
      (next : ℕ → Option Store.VM → List Task)
  | acquire (profile : String) (jobID maxBusy : ℤ) (next : Option Store.VM → List Task)
  | delete (v : VMID) (next : List Task)
  | enqueue (request : DestroyRequest)
  /-- Take the allocation lock and pick a VMID. -/
  | allocate (next : Option VMID → List Task)
  /-- A power query made now, with the tenancy it is evidence of. -/
  | observe (v : VMID) (next : Option ℕ → List Task)
  | listOwned (node : String) (next : List Provisioner.VM → List Task)
  | listRunners (next : Gh.Runners → List Task)
  /-- Create a guest unless its VMID is taken. -/
  | create (guest : Guest) (next : Bool → List Task)
  /-- Change the guest on this node, if it is there. -/
  | touch (v : VMID) (node : String) (change : Guest → Guest) (next : Bool → List Task)
  /-- Delete the guest on this node, if it is there. -/
  | remove (v : VMID) (node : String) (next : Bool → List Task)
  /-- Record that the destroy task of the VMID has completed. -/
  | settle (v : VMID) (next : List Task)

/-! ## Row mutators -/

/-- `v.StateSince = time.Now()`, which the transaction has already written. -/
@[simp]
def restamp (now : Time) (row : Store.VM) : Store.VM := { row with stateSince := now }

/-- The unconditional `v.State = state; v.StateSince = time.Now()`. -/
@[simp]
def forceState (state : State) (now : Time) (row : Store.VM) : Store.VM :=
  { row with state := state, stateSince := now }

@[simp]
def keepRow (_ : Time) (row : Store.VM) : Store.VM := row

/-! ## Pure decisions -/

/-- `m.shouldRecycle`. -/
def shouldRecycle (cfg : Config) (row : Store.VM) (now : Time) : Bool :=
  if !cfg.snapshotRecycle then
    false
  else if !row.hasRecycleSnapshot then
    false
  else
    let maxAge := ((cfg.profileOf row.profile).map (·.vmMaxAge)).getD cfg.vmMaxAge
    maxAge ≤ 0 ∨ now - row.createdAt < maxAge

def bootThreshold (cfg : Config) (profile : String) : ℕ :=
  ((cfg.profileOf profile).map (·.bootMaxAttempts)).getD cfg.bootMaxAttempts

def stuckGrace : Time := 5 * Store.minute

/-- The states whose rows the stuck sweep looks at. -/
def stuckStates : List State := [.provisioning, .booting, .recycling, .draining, .destroying]

/-- The states that `ForceDestroy` takes a row out of. -/
def forceDestroyFrom : List State :=
  [.provisioning, .warm, .booting, .hot, .assigned, .running, .recycling, .poison]

def byCreation (rows : List Store.VM) : List Store.VM :=
  rows.insertionSort fun a b ↦ a.createdAt ≤ b.createdAt

/-- `resolveTemplateNode`. -/
def resolveTemplateNode (cfg : Config) (templateVMID : VMID) : Option String :=
  if 0 < templateVMID ∧ templateVMID ≠ cfg.templateVMID then
    cfg.locateTemplate templateVMID
  else
    some cfg.templateNode

/-- The node a clone ends up on. -/
def cloneNode (cfg : Config) (prep : ClonePrep) (templateNode : String) : String :=
  if cfg.linkedClones ∨ prep.node = "" then templateNode else prep.node

/-- Clones that are snapshotted first are not started by the clone call. -/
def cloneStartsVM (cfg : Config) (prep : ClonePrep) : Bool := prep.poweredOn && !cfg.snapshotRecycle

/-- `adoptionMatrix`: state, pool kind and whether the runner's id is kept. -/
def adoptionMatrix (powerRunning runnerPresent runnerBusy : Bool) : State × PoolKind × Bool :=
  match powerRunning, runnerPresent, runnerBusy with
  | false, _, _ => (.warm, .warm, false)
  | true, false, _ => (.hot, .hot, false)
  | true, true, false => (.assigned, .hot, true)
  | true, true, true => (.running, .hot, true)

/-- `classifyAdoption`; `none` is a failed power query. -/
def classifyAdoption (power : Option (Option Power)) (runner : Option Gh.RunnerInfo) :
    State × PoolKind × ℤ :=
  match power with
  | none => (.hot, .hot, 0)
  | some power =>
    let cell := adoptionMatrix (power = some .running) runner.isSome (runner.any (·.busy))
    (cell.1, cell.2.1, if cell.2.2 then Gh.runnerIDOf runner else 0)

/-- The row `adoptOne` inserts, and whether a rollback is queued for it. -/
def adoptedRow (cfg : Config) (vm : Provisioner.VM) (power : Option (Option Power))
    (runners : Gh.Runners) : Store.VM × Bool :=
  let runner := runners.lookup vm.name
  let (state, kind, runnerID) := classifyAdoption power runner
  let recycleOnAdopt := cfg.snapshotRecycle && state = .warm
  ({ vmid := vm.vmid
     node := vm.node
     name := vm.name
     profile := if vm.profile = "" ∨ cfg.profileOf vm.profile = none then cfg.defaultProfile.name
       else vm.profile
     poolKind := kind
     state := if recycleOnAdopt then .recycling else state
     runnerID := if recycleOnAdopt ∧ runner.isSome then Gh.runnerIDOf runner else runnerID
     hasRecycleSnapshot := cfg.snapshotRecycle },
   recycleOnAdopt)

def rowSnapshot (row : Store.VM) : Gh.RowSnapshot where
  vmid := row.vmid
  node := row.node
  name := row.name
  profile := row.profile
  state := row.state
  jobID := row.jobID
  runnerID := row.runnerID
  recycleCount := row.recycleCount
  stateSince := row.stateSince
  createdAt := row.createdAt

def provisioningRow (cfg : Config) (profile : ProfileSettings) (kind : PoolKind) (node : String)
    (v : VMID) (templateClass : String) : Store.VM where
  vmid := v
  node := node
  name := cfg.pmox.vmNamePrefix ++ toString v
  profile := profile.name
  template := templateClass
  poolKind := kind
  state := .provisioning

/-! ## The steps -/

/-- The destroy a row's owner queues after moving it to Draining. -/
def rowRequest (row : Store.VM) (profile : String) (gen : ℕ) : DestroyRequest where
  vmid := row.vmid
  node := row.node
  profile := profile
  gen := gen

def Handle.request (vm : Handle) (gen : ℕ) : DestroyRequest where
  vmid := vm.vmid
  node := vm.node
  profile := vm.profile
  gen := gen

/-- `PromoteToRunning`, shared by the callback and the reconciler's matrix. -/
@[simp]
def promoteAction (v : VMID) (runnerID jobID : ℤ) (rest : List Task) : Action :=
  .cas v [.assigned, .hot] .running
    (fun _ row ↦ { row with runnerID := runnerID, jobID := if jobID ≠ 0 then jobID else row.jobID })
    fun _ _ ↦ rest

/-- `ForceDestroy`, shared by the admin call and the reconciler's matrix. -/
@[simp]
def forceDestroyAction (v : VMID) (rest : List Task) : Action :=
  .cas v forceDestroyFrom .draining keepRow fun gen moved ↦
    match moved with
    | some row => .destroyAsync (rowRequest row row.profile gen) :: rest
    | none => rest

/-- `prov.Start`, then the wait for the guest agent. -/
@[simp]
def startAction (reply : Reply) (boot : Boot) : Action :=
  match reply with
  | .ok => .touch boot.row.vmid boot.node (fun guest ↦ { guest with power := .running }) fun found ↦
      if found then [.bootWait boot] else [.poisonInc boot]
  | _ => .skip [.poisonInc boot]

/-- The scaler's delivery of a runner configuration to an acquired VM. -/
@[simp]
def provisionAction (reply : Reply) : Task → Action
  | .provisionJit vm =>
    match reply with
    | .jit runnerID =>
      .skip (if 0 < runnerID then [.provisionSetRunner vm runnerID] else [.provisionInject vm])
    | _ => .skip [.markCompleted vm.vmid none]
  | .provisionSetRunner vm runnerID =>
    .update vm.vmid (fun _ row ↦ { row with runnerID := runnerID }) fun _ _ ↦ [.provisionInject vm]
  | .provisionInject vm =>
    match reply with
    | .ok => .touch vm.vmid vm.node (fun guest ↦ { guest with disk := guest.disk.configure }) fun found ↦
        if found then [] else [.markCompleted vm.vmid none]
    | _ => .skip [.markCompleted vm.vmid none]
  | _ => .skip []

/-- Callbacks and admin calls on one row. -/
@[simp]
def callbackAction (cfg : Config) : Task → Action
  | .acquire profile jobID maxBusy =>
    match if profile = "" then some "" else (cfg.profileOf profile).map (·.name) with
    | none => .skip []
    | some resolved => .acquire resolved jobID maxBusy fun acquired ↦
        match acquired with
        | some row => [.provisionJit (Handle.ofRow row)]
        | none => []
  | .setRunnerID v runnerID =>
    if runnerID ≤ 0 then .skip []
    else .update v (fun _ row ↦ { row with runnerID := runnerID }) fun _ _ ↦ []
  | .stampJobMetadata v org repo priorityClass =>
    if org = "" ∧ repo = "" ∧ priorityClass = "" then .skip []
    else .update v (fun _ row ↦
      { row with
        org := if org ≠ "" then org else row.org
        repo := if repo ≠ "" then repo else row.repo
        priorityClass := if priorityClass ≠ "" then priorityClass else row.priorityClass })
      fun _ _ ↦ []
  | .markRunning v runnerID =>
    .cas v [.assigned] .running (fun _ row ↦ { row with runnerID := runnerID }) fun _ _ ↦ []
  | .promoteToRunning v runnerID jobID => promoteAction v runnerID jobID []
  | .forceDestroy v => forceDestroyAction v []
  | .preempt v => .read fun store ↦
      match store.get v with
      | some target => if target.state = .assigned then [.preemptCas target] else []
      | none => []
  | .preemptCas target => .cas target.vmid [.assigned] .draining restamp fun gen moved ↦
      if moved.isSome then [.destroyAsync (rowRequest target target.profile gen)] else []
  | .markCompleted v evidence => .read fun store ↦
      match store.get v with
      | some target => if target.state.busy then [.markCompletedDecide target evidence] else []
      | none => []
  | .markCompletedDecide target evidence => .clock fun now ↦
      [.markCompletedCas target (shouldRecycle cfg target now) evidence]
  | .markCompletedCas target recycle _ =>
    if recycle then
      .cas target.vmid [.assigned, .running] .recycling restamp fun _ moved ↦
        if moved.isSome then [.rollbackAsync (Handle.ofRow target)] else []
    else
      .cas target.vmid [.assigned, .running] .draining restamp fun gen moved ↦
        if moved.isSome then [.destroyAsync (rowRequest target target.profile gen)] else []
  | _ => .skip []

@[simp]
def rollbackAction (reply : Reply) : Task → Action
  | .rollbackAsync vm => .flags fun draining _ ↦ if draining then [] else [.rollbackClear vm]
  | .rollbackClear vm =>
    match reply with
    -- cancelled before a worker slot was free
    | .fail => .skip []
    | _ => .update vm.vmid (fun _ row ↦
        { row with runnerID := 0, jobID := 0, org := "", repo := "", priorityClass := "" })
        fun _ cleared ↦ if cleared.isOk then [.rollbackSnapshot vm] else []
  | .rollbackSnapshot vm =>
    match reply with
    | .ok => .touch vm.vmid vm.node
        (fun guest ↦ { guest with power := .stopped, disk := .clean }) fun found ↦
        if found then [.rollbackWarm vm] else [.fallbackDestroy vm]
    | _ => .skip [.fallbackDestroy vm]
  | .rollbackWarm vm => .cas vm.vmid [.recycling] .warm (fun now row ↦
      { row with poolKind := .warm, recycleCount := row.recycleCount + 1, stateSince := now
                 hasRecycleSnapshot := true }) fun _ _ ↦ []
  | .fallbackDestroy vm => .cas vm.vmid [.recycling] .draining restamp fun gen moved ↦
      if moved.isSome then [.destroyAsync (vm.request gen)] else []
  | _ => .skip []

/-- Queueing a destroy, `prov.Destroy` and the removal of the row. -/
@[simp]
def destroyAction (reply : Reply) : Task → Action
  | .destroyAsync request =>
    .flags fun draining _ ↦ if draining then [] else [.destroyEnqueue request]
  | .destroyEnqueue request => .enqueue request
  | .destroyOrSyncFallback request => .flags fun _ cancelled ↦
      if cancelled then [.destroyGet request true] else [.destroyAsync request]
  | .destroyGet request sync =>
    match reply with
    | .ok => .touch request.vmid request.node id fun found ↦
        -- a VM that is not there counts as destroyed, and starts no cooldown
        if found then [.destroyDelete request sync] else [.destroyRow request sync]
    | _ => .skip []
  | .destroyDelete request sync =>
    match reply with
    | .ok => .remove request.vmid request.node fun found ↦
        if found then [.destroyAwait request sync] else [.destroyRow request sync]
    | _ => .skip []
  | .destroyAwait request sync =>
    match reply with
    | .ok => .settle request.vmid [.destroyRow request sync]
    | _ => .skip []
  | .destroyRow request _ => .delete request.vmid []
  | _ => .skip []

@[simp]
def idleAction : Task → Action
  | .shrinkPool profile state target => .read fun store ↦
      let current := store.countByProfileState profile state
      if (current : ℤ) ≤ target then []
      else [.shrinkList profile state (current - target).toNat]
  | .shrinkList profile state excess => .read fun store ↦
      [.shrinkLoop profile state excess (byCreation (store.listByProfileAndStates profile [state]))]
  | .shrinkLoop profile state excess rows =>
    match excess, rows with
    | excess + 1, row :: rest => .cas row.vmid [state] .draining restamp fun gen moved ↦
        if moved.isSome then
          [.destroyAsync (rowRequest row profile gen), .shrinkLoop profile state excess rest]
        else
          [.shrinkLoop profile state (excess + 1) rest]
    | _, _ => .skip []
  | .recycleOldVMs profile maxAge =>
    if maxAge ≤ 0 then .skip [] else .clock fun now ↦ [.recycleList profile (now - maxAge)]
  | .recycleList profile cutoff => .read fun store ↦
      [.recycleLoop profile
        ((store.listByProfileAndStates profile [.hot, .warm]).filter (·.createdAt < cutoff))]
  | .recycleLoop profile rows =>
    match rows with
    | row :: rest => .cas row.vmid [row.state] .draining keepRow fun gen moved ↦
        if moved.isSome then
          [.destroyAsync (rowRequest row profile gen), .recycleLoop profile rest]
        else
          [.recycleLoop profile rest]
    | [] => .skip []
  | .evictForDemand victims => .read fun store ↦
      let candidates := store.listByState [.hot, .warm]
      [.evictLoop (victims.filterMap fun v ↦ candidates.find? (·.vmid = v)) []]
  | .evictLoop rows committed =>
    match rows with
    | row :: rest => .cas row.vmid [row.state] .draining restamp fun gen moved ↦
        if moved.isSome then
          [.evictLoop rest (committed ++ [rowRequest row row.profile gen])]
        else
          committed.map Task.destroyAsync
    | [] => .skip (committed.map Task.destroyAsync)
  | _ => .skip []

/-- The stuck sweep: rows are listed in one transaction and moved in later ones. -/
@[simp]
def sweepAction : Task → Action
  | .sweepStuckRows => .clock fun now ↦ [.sweepList (now - stuckGrace)]
  | .sweepList cutoff => .read fun store ↦
      [.sweepLoop ((store.listByState stuckStates).filter (·.updatedAt < cutoff))]
  | .sweepLoop rows =>
    match rows with
    | row :: rest => .update row.vmid (forceState .draining) fun gen moved ↦
        if moved.isOk then
          [.destroyAsync (rowRequest row row.profile gen), .sweepLoop rest]
        else
          [.sweepLoop rest]
    | [] => .skip []
  | _ => .skip []

@[simp]
def promoteNAction (reply : Reply) : Task → Action
  | .promoteN profile n => .read fun store ↦
      let warms := if profile = "" then store.listByState [.warm]
        else store.listByProfileAndStates profile [.warm]
      [.promoteLoop ((byCreation warms).take n)]
  | .promoteLoop rows =>
    match rows, reply with
    | row :: rest, .ok =>
      .cas row.vmid [.warm] .booting (fun _ row ↦ { row with poolKind := .hot }) fun gen moved ↦
        if moved.isSome then
          [.bootStart { row := row, node := row.node, gen := gen }, .promoteLoop rest]
        else
          [.promoteLoop rest]
    -- no boot slot: the row stays warm
    | _ :: rest, _ => .skip [.promoteLoop rest]
    | [], _ => .skip []
  | _ => .skip []

/-- A clone worker, from admission to the transition of its row. -/
@[simp]
def cloneAction (cfg : Config) (reply : Reply) : Task → Action
  | .kickClone profile kind poweredOn =>
    match cfg.profileOf profile, reply with
    | some settings, .node node => .skip [.cloneAllocate settings kind poweredOn node]
    | _, _ => .skip []
  | .cloneAllocate settings kind poweredOn node => .allocate fun allocated ↦
      match allocated with
      | some v => [.cloneInsert settings kind poweredOn node v]
      | none => []
  | .cloneInsert settings kind poweredOn node v =>
    let picked := reply.templateFor settings
    .insert (provisioningRow cfg settings kind node v picked.2) false fun gen inserted ↦
      if inserted then
        [.cloneIpam { profileName := settings.name, node := node, vmid := v
                      name := cfg.pmox.vmNamePrefix ++ toString v
                      templateVMID := picked.1, templateClass := picked.2
                      kind := kind, poweredOn := poweredOn, gen := gen }]
      else
        []
  | .cloneIpam prep =>
    match reply with
    | .ok => .skip [.cloneIssue prep]
    | _ => .skip [.cloneFailure prep]
  | .cloneIssue prep =>
    if cfg.linkedClones ∧ prep.node ≠ cfg.templateNode then .skip [.cloneFailure prep]
    else
      match resolveTemplateNode cfg prep.templateVMID, reply with
      | some templateNode, .ok =>
        let node := cloneNode cfg prep templateNode
        .create { vmid := prep.vmid, node := node, name := prep.name, cloned := true
                  gen := prep.gen } fun created ↦
          if created then [.cloneAwait prep node] else [.cloneFailure prep]
      | _, _ => .skip [.cloneFailure prep]
  | .cloneAwait prep node =>
    match reply with
    | .ok => .skip [.cloneConfigure prep node]
    | _ => .skip [.cloneFailure prep]
  | .cloneConfigure prep node =>
    match Tags.initial cfg.pmox.scaleSetName prep.profileName prep.templateClass, reply with
    | some tags, .ok =>
      .touch prep.vmid node (fun guest ↦ { guest with tags := Tags.encode tags }) fun found ↦
        if found then [.clonePower prep node] else [.cloneFailure prep]
    | _, _ => .skip [.cloneFailure prep]
  | .clonePower prep node =>
    let cloned : Task :=
      if cfg.snapshotRecycle then .cloneSnapshot prep node else .cloneUpdate prep node false
    match reply with
    | .ok =>
      if cloneStartsVM cfg prep then
        .touch prep.vmid node (fun guest ↦ { guest with power := .running }) fun found ↦
          if found then [cloned] else [.cloneFailure prep]
      else
        .skip [cloned]
    | _ => .skip [.cloneFailure prep]
  | .cloneSnapshot prep node =>
    match reply with
    | .ok => .touch prep.vmid node id fun found ↦ [.cloneUpdate prep node found]
    | _ => .skip [.cloneUpdate prep node false]
  | .cloneUpdate prep node hasSnapshot =>
    .update prep.vmid (fun now row ↦
      { forceState (if prep.poweredOn then .booting else .warm) now row with
        hasRecycleSnapshot := hasSnapshot }) fun _ updated ↦
      match updated with
      | .ok row =>
        if prep.poweredOn then
          let boot : Boot := { row := row, node := node, gen := prep.gen }
          if cloneStartsVM cfg prep then [.bootWait boot] else [.bootStart boot]
        else
          []
      | .error .notFound => [.destroyOrSyncFallback prep.request]
      | .error _ => []
  | .cloneFailure prep =>
    .update prep.vmid (forceState .destroying) fun _ _ ↦ [.destroyOrSyncFallback prep.request]
  | _ => .skip []

/-- A boot worker, and what becomes of a row that fails to boot. -/
@[simp]
def bootAction (cfg : Config) (reply : Reply) : Task → Action
  | .bootStart boot => startAction reply boot
  | .bootWait boot =>
    match reply with
    | .ok => .touch boot.row.vmid boot.node id fun found ↦
        if found then [.bootHot boot] else [.poisonInc boot]
    | _ => .skip [.poisonInc boot]
  | .bootHot boot => .update boot.row.vmid (forceState .hot) fun _ _ ↦ []
  | .poisonInc boot =>
    .update boot.row.vmid (fun _ row ↦ { row with bootAttempts := row.bootAttempts + 1 })
      fun gen updated ↦
        match updated with
        | .ok row =>
          if bootThreshold cfg boot.row.profile ≤ row.bootAttempts then [.poisonMark boot]
          else [.poisonDestroying boot (rowRequest row row.profile gen)]
        | .error _ => []
  | .poisonMark boot => .update boot.row.vmid (forceState .poison) fun _ _ ↦ []
  | .poisonDestroying boot request =>
    .update boot.row.vmid (forceState .destroying) fun _ _ ↦ [.destroyAsync request]
  | _ => .skip []

/-- The power poll: a VM seen not running completes its row. -/
@[simp]
def powerPollAction (reply : Reply) : Task → Action
  | .powerPollOnce => .read fun store ↦ [.powerPollLoop (store.listByState [.assigned, .running])]
  | .powerPollLoop rows =>
    match rows, reply with
    | row :: rest, .power (some power) =>
      if power = .running then .skip [.powerPollLoop rest]
      else .observe row.vmid fun evidence ↦
        [.markCompleted row.vmid evidence, .powerPollLoop rest]
    | _ :: rest, _ => .skip [.powerPollLoop rest]
    | [], _ => .skip []
  | _ => .skip []

/-- Adoption of what an earlier process left behind. -/
@[simp]
def adoptAction (cfg : Config) (reply : Reply) : Task → Action
  | .adopt =>
    match reply with
    | .ok => .skip [.adoptScan cfg.nodes []]
    | _ => .skip []
  | .adoptScan nodes found =>
    match nodes, reply with
    | node :: rest, .ok => .listOwned node fun owned ↦ [.adoptScan rest (found ++ owned)]
    -- a node that does not answer is left out
    | _ :: rest, _ => .skip [.adoptScan rest found]
    | [], _ => .skip [.adoptRunners found]
  | .adoptRunners found =>
    match reply with
    | .runners runners => .skip [.adoptLoop found runners]
    | _ => .skip [.adoptLoop found ∅]
  | .adoptLoop found runners =>
    match found with
    | vm :: rest =>
      let adopted := adoptedRow cfg vm reply.powerResult runners
      .skip [.adoptInsert adopted.1 adopted.2 rest runners]
    | [] => .skip []
  | .adoptInsert row recycleOnAdopt rest runners => .insert row true fun _ inserted ↦
      if inserted && recycleOnAdopt then
        [.rollbackAsync (Handle.ofRow row), .adoptLoop rest runners]
      else
        [.adoptLoop rest runners]
  | _ => .skip []

/-- One pass of the GitHub reconciler, up to the end of its matrix. -/
@[simp]
def tickAction (cfg : Config) (reply : Reply) : Task → Action
  | .tick =>
    match reply with
    | .ok => .listRunners fun runners ↦ [.tickRows runners]
    | _ => .skip []
  | .tickRows runners => .read fun store ↦
      [.tickMatrix runners ((store.listExcludingStates [.draining, .destroying]).map rowSnapshot)]
  | .tickMatrix runners rows => .clock fun now ↦ [.tickApply now runners rows]
  | .tickApply now runners rows =>
    match rows with
    | row :: rest =>
      match Gh.rowAction cfg.graces now runners row with
      | some (.promoteToRunning v runnerID jobID) =>
        promoteAction v runnerID jobID [.tickApply now runners rest]
      | some (.forceDestroy v _) => forceDestroyAction v [.tickApply now runners rest]
      | none => .skip [.tickApply now runners rest]
    | [] => .skip []
  | _ => .skip []

/-- The atomic step a task takes next, given what the outside world answers. -/
@[simp]
def Task.action (cfg : Config) (reply : Reply) (task : Task) : Action :=
  match task with
  | .provisionJit _ | .provisionSetRunner _ _ | .provisionInject _ => provisionAction reply task
  | .acquire _ _ _ | .setRunnerID _ _ | .stampJobMetadata _ _ _ _ | .markRunning _ _
  | .promoteToRunning _ _ _ | .forceDestroy _ | .preempt _ | .preemptCas _ | .markCompleted _ _
  | .markCompletedDecide _ _ | .markCompletedCas _ _ _ => callbackAction cfg task
  | .rollbackAsync _ | .rollbackClear _ | .rollbackSnapshot _ | .rollbackWarm _
  | .fallbackDestroy _ => rollbackAction reply task
  | .destroyAsync _ | .destroyEnqueue _ | .destroyOrSyncFallback _ | .destroyGet _ _
  | .destroyDelete _ _ | .destroyAwait _ _ | .destroyRow _ _ => destroyAction reply task
  | .shrinkPool _ _ _ | .shrinkList _ _ _ | .shrinkLoop _ _ _ _ | .recycleOldVMs _ _
  | .recycleList _ _ | .recycleLoop _ _ | .evictForDemand _ | .evictLoop _ _ => idleAction task
  | .sweepStuckRows | .sweepList _ | .sweepLoop _ => sweepAction task
  | .promoteN _ _ | .promoteLoop _ => promoteNAction reply task
  | .kickClone _ _ _ | .cloneAllocate _ _ _ _ | .cloneInsert _ _ _ _ _ | .cloneIpam _
  | .cloneIssue _ | .cloneAwait _ _ | .cloneConfigure _ _ | .clonePower _ _ | .cloneSnapshot _ _
  | .cloneUpdate _ _ _ | .cloneFailure _ => cloneAction cfg reply task
  | .bootStart _ | .bootWait _ | .bootHot _ | .poisonInc _ | .poisonMark _
  | .poisonDestroying _ _ => bootAction cfg reply task
  | .powerPollOnce | .powerPollLoop _ => powerPollAction reply task
  | .adopt | .adoptScan _ _ | .adoptRunners _ | .adoptLoop _ _ | .adoptInsert _ _ _ _ =>
    adoptAction cfg reply task
  | .tick | .tickRows _ | .tickMatrix _ _ | .tickApply _ _ _ => tickAction cfg reply task

end ScalesetProxmox.Pool
