import ScalesetProxmox.Pool.Admission
import ScalesetProxmox.Pool.Effects

/-!
# Demand, admission and eviction as a system

The tasks of the pool together with what decides when they start: reconcile passes read their counts
one after the other and dispatch clones, clone workers claim a reservation before they take a VMID,
and an eviction destroys idle VMs and parks the capacity for a later worker. All of them run
interleaved, with one another and with everything that can happen to the pool.

A `Thread` is a task of the pool. If it is a clone worker it carries its claim, and the bookkeeping
that the source does between two steps of the task. An `Agent` is a goroutine, or a stretch of one,
that has no task of the pool yet. A pass starts the promotions, shrinks and sweeps that it makes
besides as calls of their own, as in the pool's own system.

`Core.parkedEver`, `Core.consumed`, `Core.released` and `Core.owned` record what has become of the
reservations, `Parked.granted` and `Parked.victims` when one was taken and what was destroyed for it,
and `Worker.existing` what a node was chosen by. No step reads them.
-/

namespace ScalesetProxmox.Pool.Demand

open Store (VMID Time PoolKind)
open Nodecap (Shape NodeState Accountant Snapshot)
open NodeSelector (Memory ExistingVM)

def parkedReservationTTL : Time := 90 * Store.second

/-- A capacity claim taken for a profile before the clone that will use it is dispatched. -/
structure Parked where
  profile : String
  node : String
  res : ℕ
  expires : Time
  /-- When the accountant granted the reservation. -/
  granted : Time := 0
  /-- The guests that were destroyed for it, by VMID and generation. -/
  victims : List (VMID × ℕ) := []
  deriving DecidableEq, Repr

structure Targets where
  hotSize : ℤ := 0
  warmSize : ℤ := 0
  maxConcurrentRunners : ℤ := 1
  deriving DecidableEq, Repr

/-- The reservations of the accountant live for `clone_inflight_grace`, as the entries of the
provisioner's tracker do. -/
structure Config extends CapacityConfig where
  targets : String → Targets

structure ProfileState where
  desiredCount : ℤ := 0
  hotSize : ℤ := 0
  warmSize : ℤ := 0
  pendingClones : ℕ := 0
  capacityDeferredHot : Bool := false
  /-- A pass is under way; the loop of a profile starts one at a time. -/
  reconciling : Bool := false
  deriving DecidableEq, Repr

structure Core where
  pool : Shared := {}
  ledger : Accountant := .new
  /-- The parked reservations of all profiles. -/
  evicted : List Parked := []
  profiles : String → ProfileState
  /-- The VMIDs inside `Clone` with the times at which the tracker forgets them. -/
  inFlight : List (VMID × Time) := []
  memory : Memory := {}
  parkedEver : List ℕ := []
  consumed : List ℕ := []
  released : List ℕ := []
  owned : List ℕ := []

/-- What a clone worker carries from its admission on. -/
structure Worker where
  profile : String
  kind : PoolKind
  claim : ℕ
  /-- The parked handle, if the claim comes from one. -/
  parked : Option Parked := none
  /-- The rows that the node was chosen by. -/
  existing : List ExistingVM := []
  deriving DecidableEq, Repr

/-- Bookkeeping between two steps of a clone worker. -/
inductive Effect
  /-- The worker gives up its place in `pendingClones`. -/
  | releasePending
  | bind (v : VMID)
  | releaseClaim
  | enterClone (v : VMID)
  | leaveClone (v : VMID)
  deriving DecidableEq, Repr

namespace Effect

def onProfile (ps : ProfileState) : Effect → ProfileState
  | .releasePending => { ps with pendingClones := ps.pendingClones - 1 }
  | _ => ps

def onLedger (ledger : Accountant) (claim : ℕ) : Effect → Accountant
  | .bind v => ledger.bind claim v
  | .releaseClaim => ledger.release claim
  | _ => ledger

def onInFlight (expires : Time) (inFlight : List (VMID × Time)) : Effect → List (VMID × Time)
  | .enterClone v => (v, expires) :: inFlight.filter (·.1 ≠ v)
  | .leaveClone v => inFlight.filter (·.1 ≠ v)
  | _ => inFlight

end Effect

structure Thread where
  task : Task
  worker : Option Worker := none
  /-- What is done before the task's next step. -/
  todo : List Effect := []

/-- The reads of a pass, in their order. -/
inductive PassStage
  | stats
  | provisioning
  | targets
  | inFlight
  | pending
  | credit
  deriving DecidableEq, Repr

inductive Agent
  -- a clone worker up to its claim; `since` is when it drained the parked handles
  | admitClone (settings : ProfileSettings) (kind : PoolKind)
  | claimParked (settings : ProfileSettings) (since : Time) (parked : List Parked)
  | claimProbe (settings : ProfileSettings) (since : Time) (existing : List ExistingVM)
      (todo : List Parked) (chosen : Option Parked) (keep : List Parked)
  | selectNode (settings : ProfileSettings) (kind : PoolKind)
  | select (settings : ProfileSettings) (kind : PoolKind) (existing : List ExistingVM)
  | reserve (settings : ProfileSettings) (kind : PoolKind) (existing : List ExistingVM) (node : String)
  | recordDeferral (settings : ProfileSettings) (kind : PoolKind)
  -- the deferred calls of a worker that has ended
  | finish (profile : String) (claim : Option ℕ) (todo : List Effect)
  -- a pass
  | pass (settings : ProfileSettings) (stage : PassStage) (sizing : Sizing)
  | kick (settings : ProfileSettings) (hot warm : ℕ) (deficit : ℤ)
  | swap (settings : ProfileSettings) (deficit : ℤ)
  -- its eviction; `since` is when the capacity was reserved
  | evictSnapshot (settings : ProfileSettings) (deficit : ℤ)
  | evictExisting (settings : ProfileSettings) (deficit : ℤ) (states : List (String × NodeState))
  | evictEligible (settings : ProfileSettings) (deficit : ℤ) (states : List (String × NodeState))
      (existing : List ExistingVM)
  | evictPlan (settings : ProfileSettings) (deficit : ℤ) (eligible : List (String × NodeState))
  | evictVictims (settings : ProfileSettings) (deficit : ℤ) (node : String)
      (todo : List EvictionCandidate) (committed : List DestroyRequest) (victims : List (VMID × ℕ))
      (plans : List (String × EvictionPlan))
  | evictReserve (settings : ProfileSettings) (node : String) (committed : List DestroyRequest)
      (victims : List (VMID × ℕ))
  | evictPark (settings : ProfileSettings) (node : String) (res : ℕ) (since : Time)
      (committed : List DestroyRequest) (victims : List (VMID × ℕ))

/-- What the world outside answers to an agent: a snapshot for the accountant, if it has one, the load
scores that the selector would use, and whether a worker slot is free. -/
structure Answer where
  snap : Option Snapshot := none
  scores : Option (List (String × ℚ)) := none
  slot : Bool := true

namespace Core

variable (c : Core)

def setProfile (profile : String) (change : ProfileState → ProfileState) : Core :=
  { c with profiles := Function.update c.profiles profile (change (c.profiles profile)) }

/-- A call of the accountant that sweeps with the snapshot it is given, if there is one. -/
def swept (snap : Option Snapshot) : Core :=
  { c with ledger := snap.elim c.ledger fun snap ↦ c.ledger.sweepLocked snap c.pool.now }

def releaseAll (handles : List Parked) : Core :=
  { c with
    ledger := handles.foldl (fun ledger p ↦ ledger.release p.res) c.ledger
    released := c.released ++ handles.map Parked.res }

def endPass (profile : String) : Core :=
  c.setProfile profile fun ps ↦ { ps with reconciling := false }

/-- The handles of the profile, without and with the expired ones. -/
def unexpired (profile : String) : List Parked :=
  c.evicted.filter fun p ↦ p.profile = profile ∧ ¬ p.expires < c.pool.now

def expired (profile : String) : List Parked :=
  c.evicted.filter fun p ↦ p.profile = profile ∧ p.expires < c.pool.now

/-- `drainEvicted` -/
def drainEvicted (profile : String) : Core :=
  ({ c with evicted := c.evicted.filter (·.profile ≠ profile) } : Core).releaseAll (c.expired profile)

def inFlightCloneCount : ℕ := (c.inFlight.filter fun entry ↦ ¬ entry.2 < c.pool.now).length

/-- One piece of a worker's bookkeeping. -/
def perform (grace : Time) (profile : String) (claim : Option ℕ) (effect : Effect) : Core :=
  { c.setProfile profile fun ps ↦ effect.onProfile ps with
    ledger := claim.elim c.ledger fun id ↦ effect.onLedger c.ledger id
    inFlight := effect.onInFlight (c.pool.now + grace) c.inFlight }

end Core

/-! ## Clone workers -/

/-- The task is a clone worker's, from the allocation of its VMID on. -/
def cloning : Task → Bool
  | .cloneAllocate _ _ _ _ | .cloneInsert _ _ _ _ _ | .cloneIpam _ | .cloneIssue _ | .cloneAwait _ _
  | .cloneConfigure _ _ | .clonePower _ _ | .cloneSnapshot _ _ | .cloneUpdate _ _ _
  | .cloneFailure _ => true
  | _ => false

/-- `Clone` refuses a linked clone on another node before it registers the VMID. -/
def entersClone (cfg : Pool.Config) (prep : ClonePrep) : Bool :=
  ¬ (cfg.linkedClones ∧ prep.node ≠ cfg.templateNode)

/-- What a worker does between two of its tasks. -/
def todoBetween (cfg : Pool.Config) : Task → Task → List Effect
  | .cloneInsert _ _ _ _ _, .cloneIpam prep => [.releasePending, .bind prep.vmid]
  | .cloneIpam prep, .cloneIssue _ => if entersClone cfg prep then [.enterClone prep.vmid] else []
  | .cloneIpam _, .cloneFailure _ => [.releaseClaim]
  | .cloneIssue prep, .cloneFailure _ =>
    if entersClone cfg prep then [.leaveClone prep.vmid, .releaseClaim] else [.releaseClaim]
  | .cloneAwait prep _, .cloneFailure _ | .cloneConfigure prep _, .cloneFailure _
  | .clonePower prep _, .cloneFailure _ => [.leaveClone prep.vmid, .releaseClaim]
  | .clonePower prep _, .cloneSnapshot _ _ | .clonePower prep _, .cloneUpdate _ _ _ =>
    [.leaveClone prep.vmid]
  | _, _ => []

/-- The successors of a task; those that clone on are the same worker. -/
def Thread.after (cfg : Pool.Config) (t : Thread) (next : List Task) : List Thread :=
  match t.worker with
  | none => next.map fun task ↦ { task := task }
  | some w => next.map fun task ↦
      if cloning task then { task := task, worker := some w, todo := todoBetween cfg t.task task }
      else { task := task }

/-- A worker that ends without a row gives everything back. -/
def Thread.leftover (t : Thread) (next : List Task) : List Agent :=
  match t.worker, t.task, next with
  | some w, .cloneAllocate _ _ _ _, [] | some w, .cloneInsert _ _ _ _ _, [] =>
    [.finish w.profile (some w.claim) [.releaseClaim, .releasePending]]
  | _, _, _ => []

/-- A claimed clone goes on with the allocation of its VMID. -/
def cloneThread (settings : ProfileSettings) (kind : PoolKind) (node : String) (claim : ℕ)
    (parked : Option Parked) (existing : List ExistingVM) : Thread where
  task := .cloneAllocate settings kind (kind = .hot) node
  worker := some { profile := settings.name, kind := kind, claim := claim, parked := parked
                   existing := existing }

/-! ## The agents -/

abbrev Successors := Core × List Agent × List Thread

/-- The destroys of the committed victims, after which the pass is over. -/
def endEviction (c : Core) (settings : ProfileSettings) (committed : List DestroyRequest) : Successors :=
  (c.endPass settings.name, [], committed.map fun request ↦ { task := .destroyAsync request })

/-- The next plan, if there is one. -/
def tryPlans (c : Core) (settings : ProfileSettings) (deficit : ℤ) :
    List (String × EvictionPlan) → Successors
  | [] => (c.endPass settings.name, [], [])
  | (node, plan) :: plans => (c, [.evictVictims settings deficit node plan.victims [] [] plans], [])

/-- The compare-and-swap that commits a victim. -/
def evictCas (victim : EvictionCandidate) : Action :=
  .cas victim.row.vmid [if victim.preferred then .warm else .hot] .draining restamp fun gen moved ↦
    if moved.isSome then [.destroyAsync (rowRequest victim.row victim.row.profile gen)] else []

/-- The VM of the pool that the victim's VMID names; a guest without a generation is not the pool's. -/
def guestKey (c : Core) (v : VMID) : List (VMID × ℕ) :=
  (((c.pool.cluster.get v).filter (·.gen ≠ 0)).map fun guest ↦ (v, guest.gen)).toList

def readStage (cfg : Config) (c : Core) (settings : ProfileSettings) (sizing : Sizing) : PassStage → Agent
  | .stats => .pass settings .provisioning
      { sizing with stats := statsForProfile c.pool.store settings.name }
  | .provisioning =>
    let counts := provisioningCounts c.pool.store settings.name
    .pass settings .targets { sizing with hotProv := counts.1, warmProv := counts.2 }
  | .targets =>
    let ps := c.profiles settings.name
    .pass settings .inFlight
      { sizing with hotSize := ps.hotSize, warmSize := ps.warmSize, desired := ps.desiredCount }
  | .inFlight => .pass settings .pending { sizing with inFlightClones := c.inFlightCloneCount }
  | .pending => .pass settings .credit
      { sizing with pendingClones := (c.profiles settings.name).pendingClones }
  | .credit =>
    let sizing := { sizing with
      credit := profileReturningCredit cfg.toConfig c.pool.store settings.name c.pool.now settings.vmMaxAge }
    .kick settings sizing.dispatch.hot sizing.dispatch.warm sizing.deficit

/-- `kickClone`: the dispatch is counted before its goroutine starts. -/
def kickClone (c : Core) (settings : ProfileSettings) (kind : PoolKind) (slot : Bool) (rest : Agent) :
    Successors :=
  if slot then
    (c.setProfile settings.name fun ps ↦ { ps with pendingClones := ps.pendingClones + 1 },
      [.admitClone settings kind, rest], [])
  else
    (c, [rest], [])

/-- The handle is chosen, handed back for good, or kept for a later worker. -/
def claimNext (cfg : Config) (c : Core) (settings : ProfileSettings) (since : Time)
    (existing : List ExistingVM) (p : Parked) (todo : List Parked) (chosen : Option Parked)
    (keep : List Parked) : Successors :=
  match chosen with
  | some q => (c, [.claimProbe settings since existing todo (some q) (keep ++ [p])], [])
  | none =>
    let probed := nodeEligible cfg.toCapacityConfig c.memory settings.name p.node existing
    let c := { c with memory := probed.2 }
    match probed.1 with
    | (true, _) => (c, [.claimProbe settings since existing todo (some p) keep], [])
    | (false, true) => (c.releaseAll [p], [.claimProbe settings since existing todo none keep], [])
    | (false, false) => (c, [.claimProbe settings since existing todo none (keep ++ [p])], [])

/-- The rest of the handles is parked again, and the chosen one belongs to the clone. -/
def claimDone (c : Core) (settings : ProfileSettings) (existing : List ExistingVM)
    (chosen : Option Parked) (keep : List Parked) : Successors :=
  let c := { c with evicted := c.evicted ++ keep }
  match chosen with
  | some p => ({ c with consumed := c.consumed ++ [p.res] }, [],
      [cloneThread settings .hot p.node p.res (some p) existing])
  | none => (c, [.selectNode settings .hot], [])

/-- A worker that is not admitted ends. -/
def notAdmitted (c : Core) (settings : ProfileSettings) : Successors :=
  (c, [.finish settings.name none [.releasePending]], [])

/-- The next atomic step of an agent; `none` when it cannot move. -/
def Agent.step (cfg : Config) (c : Core) (answer : Answer) : Agent → Option Successors
  | .admitClone settings kind =>
    if kind = .hot then
      match c.unexpired settings.name with
      | [] => some (c.drainEvicted settings.name, [.selectNode settings kind], [])
      | parked => some (c.drainEvicted settings.name, [.claimParked settings c.pool.now parked], [])
    else
      some (c, [.selectNode settings kind], [])
  | .claimParked settings since parked => some (c, [.claimProbe settings since
      (snapshotExistingVMsForAffinity c.pool.store) parked none []], [])
  | .claimProbe settings since existing (p :: todo) chosen keep =>
    some (claimNext cfg { c with memory := { c.memory with scores := answer.scores } } settings since
      existing p todo chosen keep)
  | .claimProbe settings _ existing [] chosen keep => some (claimDone c settings existing chosen keep)
  | .selectNode settings kind =>
    some (c, [.select settings kind (snapshotExistingVMsForAffinity c.pool.store)], [])
  | .select settings kind existing =>
    let selected := Pool.selectNode cfg.toCapacityConfig answer.snap c.pool.now c.ledger
      { c.memory with scores := answer.scores } settings.name existing
    let c := { c.swept answer.snap with memory := selected.2 }
    match selected.1 with
    | .failed => some (notAdmitted c settings)
    | .deferred => some (c, [.recordDeferral settings kind], [])
    | .node node => some (c, [.reserve settings kind existing node], [])
  | .reserve settings kind existing node =>
    let reserved := reserveCapacity cfg.toCapacityConfig answer.snap c.pool.now c.ledger settings.name node
    match reserved.2 with
    | some id => some ({ c with ledger := reserved.1, owned := c.owned ++ [id] }, [],
        [cloneThread settings kind node id none existing])
    | none => some ({ c with ledger := reserved.1 }, [.recordDeferral settings kind], [])
  | .recordDeferral settings kind =>
    some (notAdmitted (c.setProfile settings.name fun ps ↦
      { ps with capacityDeferredHot := recordCapacityDeferral kind ps.capacityDeferredHot }) settings)
  | .finish _ _ [] => some (c, [], [])
  | .finish profile claim (effect :: todo) =>
    some (c.perform cfg.accountant.reservationTTL profile claim effect, [.finish profile claim todo], [])
  | .pass settings stage sizing => some (c, [readStage cfg c settings sizing stage], [])
  | .kick settings (hot + 1) warm deficit =>
    some (kickClone c settings .hot answer.slot (.kick settings hot warm deficit))
  | .kick settings 0 (warm + 1) deficit =>
    some (kickClone c settings .warm answer.slot (.kick settings 0 warm deficit))
  | .kick settings 0 0 deficit => some (c, [.swap settings deficit], [])
  | .swap settings deficit =>
    let ps := c.profiles settings.name
    let c := c.setProfile settings.name fun ps ↦ { ps with capacityDeferredHot := false }
    if ps.capacityDeferredHot ∧ 0 < deficit ∧ cfg.evictIdleForDemand then
      some (c, [.evictSnapshot settings deficit], [])
    else
      some (c.endPass settings.name, [], [])
  | .evictSnapshot settings deficit =>
    match answer.snap with
    | none => some (c.endPass settings.name, [], [])
    | some snap => some (c.swept (some snap),
        [.evictExisting settings deficit (c.ledger.snapshot cfg.accountant snap c.pool.now).2], [])
  | .evictExisting settings deficit states =>
    some (c, [.evictEligible settings deficit states (snapshotExistingVMsForAffinity c.pool.store)], [])
  | .evictEligible settings deficit states existing =>
    let probed := eligibleNodes cfg.toCapacityConfig { c.memory with scores := answer.scores }
      settings.name existing states
    some ({ c with memory := probed.2 }, [.evictPlan settings deficit probed.1], [])
  | .evictPlan settings deficit eligible =>
    some (tryPlans c settings deficit
      (evictionPlans cfg.toCapacityConfig c.pool.store settings.name eligible))
  | .evictVictims settings deficit node (victim :: todo) committed victims plans =>
    match (evictCas victim).exec cfg.toConfig c.pool with
    | some (pool, [.destroyAsync request]) =>
      some ({ c with pool := pool }, [.evictVictims settings deficit node todo (committed ++ [request])
        (victims ++ guestKey c victim.row.vmid) plans], [])
    | some _ =>
      -- the plan is abandoned, and with nothing committed the next one is tried
      if committed = [] then some (tryPlans c settings deficit plans)
      else some (c, [.evictReserve settings node committed victims], [])
    | none => none
  | .evictVictims settings _ node [] committed victims _ =>
    some (c, [.evictReserve settings node committed victims], [])
  | .evictReserve settings node committed victims =>
    match answer.snap with
    | none => some (endEviction c settings committed)
    | some snap =>
      let reserved := c.ledger.reserveFreeing cfg.accountant snap c.pool.now node
        (cfg.shape settings.name) (committed.map DestroyRequest.vmid)
      match reserved.2 with
      | some id => some ({ c with ledger := reserved.1, owned := c.owned ++ [id] },
          [.evictPark settings node id c.pool.now committed victims], [])
      | none => some (endEviction { c with ledger := reserved.1 } settings committed)
  | .evictPark settings node res since committed victims =>
    let parked : Parked := { profile := settings.name, node := node, res := res
                             expires := c.pool.now + parkedReservationTTL, granted := since
                             victims := victims }
    some (endEviction { c with evicted := c.evicted ++ [parked], parkedEver := c.parkedEver ++ [res] }
      settings committed)

theorem step_swap (cfg : Config) (c : Core) (answer : Answer) (settings : ProfileSettings) (deficit : ℤ) :
    (Agent.swap settings deficit).step cfg c answer =
      let cleared := c.setProfile settings.name fun ps ↦ { ps with capacityDeferredHot := false }
      if (c.profiles settings.name).capacityDeferredHot ∧ 0 < deficit ∧ cfg.evictIdleForDemand then
        some (cleared, [.evictSnapshot settings deficit], [])
      else some (cleared.endPass settings.name, [], []) := by
  rw [Agent.step]

/-! ## The system -/

structure Sys where
  core : Core
  threads : List Thread
  agents : List Agent

/-- What other holders of the shared accountant do with it. -/
inductive LedgerOp
  | sweep (snap : Snapshot)
  | reserveFreeing (snap : Snapshot) (node : String) (shape : Shape) (freeing : List VMID)
  | bind (id : ℕ) (v : VMID)
  | release (id : ℕ)

/-- Nobody has a handle on another's reservation. -/
def LedgerOp.mayApply (owned : List ℕ) : LedgerOp → Bool
  | .bind id _ | .release id => id ∉ owned
  | _ => true

def LedgerOp.apply (cfg : Config) (now : Time) (ledger : Accountant) : LedgerOp → Accountant
  | .sweep snap => ledger.sweepLocked snap now
  | .reserveFreeing snap node shape freeing =>
    (ledger.reserveFreeing cfg.accountant snap now node shape freeing).1
  | .bind id v => ledger.bind id v
  | .release id => ledger.release id

inductive Act
  /-- Thread `i` takes its task's next step. -/
  | fire (i : ℕ) (reply : Reply)
  /-- Thread `i` does the next piece of its bookkeeping. -/
  | settle (i : ℕ)
  | advance (k : ℕ) (answer : Answer)
  /-- Something happens to the pool, or calls it. -/
  | outside (act : Pool.Act)
  /-- The loop of a profile starts a pass, by its ticker or by a refill signal. -/
  | reconcile (profile : String)
  | setDesiredCount (profile : String) (n : ℤ)
  | setTargetSizes (profile : String) (hot warm : ℤ)
  /-- `releaseParkedReservations` on one profile. -/
  | releaseParked (profile : String)
  | elsewhere (op : LedgerOp)
  /-- The process dies and a new one starts. -/
  | crash

/-- Clones and evictions start in a pass only, and a crash ends more than the pool's tasks. -/
def fromOutside : Pool.Act → Bool
  | .fire _ _ | .crash | .call (.kickClone _ _ _) | .call (.evictForDemand _) => false
  | _ => true

/-- What a process starts with. -/
def startCore (cfg : Config) (pool : Shared) : Core where
  pool := pool
  profiles profile := { hotSize := (cfg.targets profile).hotSize, warmSize := (cfg.targets profile).warmSize }

/-- A new pass has read nothing yet. -/
def startPass (cfg : Config) (settings : ProfileSettings) : Agent :=
  .pass settings .stats
    { stats := {}, hotSize := 0, warmSize := 0
      profileMax := (cfg.targets settings.name).maxConcurrentRunners }

def step (cfg : Config) (sys : Sys) : Act → Option Sys
  | .fire i reply =>
    match sys.threads[i]? with
    | none => none
    | some t =>
      if t.todo = [] then
        ((t.task.action cfg.toConfig reply).exec cfg.toConfig sys.core.pool).map fun after ↦
          { core := { sys.core with pool := after.1 }
            threads := sys.threads.eraseIdx i ++ t.after cfg.toConfig after.2
            agents := sys.agents ++ t.leftover after.2 }
      else
        none
  | .settle i =>
    match sys.threads[i]? with
    | some ⟨task, some w, effect :: todo⟩ =>
      some { sys with
        core := sys.core.perform cfg.accountant.reservationTTL w.profile (some w.claim) effect
        threads := sys.threads.eraseIdx i ++ [⟨task, some w, todo⟩] }
    | _ => none
  | .advance k answer =>
    match sys.agents[k]? with
    | none => none
    | some agent => (agent.step cfg sys.core answer).map fun after ↦
        { core := after.1
          threads := sys.threads ++ after.2.2
          agents := sys.agents.eraseIdx k ++ after.2.1 }
  | .outside act =>
    if fromOutside act then
      (Pool.step cfg.toConfig ⟨sys.core.pool, []⟩ act).map fun after ↦
        { sys with
          core := { sys.core with pool := after.shared }
          threads := sys.threads ++ after.threads.map fun task ↦ { task := task } }
    else
      none
  | .reconcile profile =>
    match cfg.profiles.find? (·.name = profile) with
    | none => none
    | some settings =>
      if (sys.core.profiles profile).reconciling then none
      else
        some { sys with
          core := sys.core.setProfile profile fun ps ↦ { ps with reconciling := true }
          agents := sys.agents ++ [startPass cfg settings] }
  | .setDesiredCount profile n =>
    some { sys with core := sys.core.setProfile profile fun ps ↦ { ps with desiredCount := n } }
  | .setTargetSizes profile hot warm =>
    let sizes := Pool.setTargetSizes (cfg.targets profile).maxConcurrentRunners hot warm
    some { sys with core := sys.core.setProfile profile fun ps ↦
      { ps with hotSize := sizes.1, warmSize := sizes.2 } }
  | .releaseParked profile =>
    if sys.core.pool.draining then
      let kept : Core := { sys.core with evicted := sys.core.evicted.filter (·.profile ≠ profile) }
      some { sys with core := kept.releaseAll (sys.core.evicted.filter (·.profile = profile)) }
    else
      none
  | .elsewhere op =>
    if op.mayApply sys.core.owned then
      some { sys with core := { sys.core with
        ledger := op.apply cfg sys.core.pool.now sys.core.ledger } }
    else
      none
  | .crash => some { core := startCore cfg sys.core.pool.restart, threads := [{ task := .adopt }], agents := [] }

/-- Before the first process no guest belongs to a generation of rows. -/
def unstamped (cluster : Provisioner.Cluster) : Provisioner.Cluster :=
  cluster.filterMap (fun guest ↦ some { guest with gen := 0 }) fun _ _ h ↦ by cases h; rfl

/-- A first process facing a cluster. -/
def init (cfg : Config) (cluster : Provisioner.Cluster) (runners : Gh.Runners) (now : Time) : Sys where
  core := startCore cfg { cluster := unstamped cluster, runners := runners, now := now }
  threads := [{ task := .adopt }]
  agents := []

/-! ## A small system -/

/-- The small pool with a second profile, whose reservations live for `grace`. -/
def burstPool (grace : Time) : Config where
  toCapacityConfig :=
    { demandingPool with
      otherProfiles := [{ name := "burst", bootMaxAttempts := 3, vmMaxAge := 0 }]
      accountant := { reservationTTL := grace } }
  targets := fun _ ↦ {}

/-- A runner that an earlier process has left behind. -/
def idleGuest : Provisioner.Cluster :=
  Table.put .empty { vmid := 10000, node := "pve1", name := "gh-runner-ci-10000", power := .running }

def idleStart (grace : Time) : Sys := init (burstPool grace) idleGuest ∅ Store.second

/-- The runner is adopted for the default profile. -/
def adoptIdle : List Act :=
  List.replicate 4 (.fire 0 .ok) ++ [.fire 0 (.power (some .running)), .fire 0 .ok, .fire 0 .ok]

/-- A pass of the second profile runs through its reads, while agent `k` would be the first of them. -/
def readCounts (k : ℕ) : List Act := .reconcile "burst" :: List.replicate 6 (.advance k {})

/-- The pass dispatches one worker, and no node has room for it. -/
def deferOne : List Act :=
  [.advance 0 {}, .advance 0 {}, .advance 1 {}, .advance 1 { snap := some crowdedSnapshot }] ++
    List.replicate 3 (.advance 1 {})

/-- The pass evicts the idle runner and parks the capacity. -/
def evictOne : List Act :=
  [.advance 0 {}, .advance 0 {}, .advance 0 { snap := some crowdedSnapshot }] ++
    List.replicate 5 (.advance 0 {}) ++ [.advance 0 { snap := some crowdedSnapshot }, .advance 0 {}]

/-- The pass dispatches one worker, and it consumes the parked handle. -/
def claimOne : List Act := [.advance 0 {}, .advance 0 {}] ++ List.replicate 3 (.advance 1 {})

/-- One job for the second profile: its first pass is refused a clone and evicts. -/
def evictForBurst : List Act :=
  adoptIdle ++ [.setDesiredCount "burst" 1] ++ readCounts 0 ++ deferOne ++ evictOne

end ScalesetProxmox.Pool.Demand
