import ScalesetProxmox.Pool.Demand
import ScalesetProxmox.Pool.Outcomes

/-!
# What a step of the demand system can do

`Advanced` lists the steps of the agents, each with the state it leaves and the facts it was taken
under, and `Moved` the steps of the system. Every invariant is proved from these two.
-/

namespace ScalesetProxmox.Pool.Demand

open Store (VMID Time PoolKind)
open Nodecap (Shape NodeState Accountant Snapshot)
open NodeSelector (Memory ExistingVM)
open Transition

variable {cfg : Config} {c c' : Core} {answer : Answer} {agent : Agent} {agents : List Agent}
  {threads : List Thread} {sys sys' : Sys} {act : Act} {node : String} {task : Task}

/-! ## The profiles after a change -/

theorem profiles_setProfile (profile other : String) (change : ProfileState → ProfileState) :
    (c.setProfile profile change).profiles other =
      if profile = other then change (c.profiles other) else c.profiles other := by
  simp only [Core.setProfile, Function.update_apply, eq_comm]
  split_ifs with hother
  · rw [hother]
  · rfl

theorem profiles_endPass (profile other : String) :
    (c.endPass profile).profiles other =
      if profile = other then { c.profiles other with reconciling := false } else c.profiles other :=
  profiles_setProfile profile other _

theorem profiles_perform (grace : Time) (profile other : String) (claim : Option ℕ) (effect : Effect) :
    (c.perform grace profile claim effect).profiles other =
      if profile = other then effect.onProfile (c.profiles other) else c.profiles other :=
  profiles_setProfile profile other fun ps ↦ effect.onProfile ps

@[simp]
theorem reconciling_onProfile (ps : ProfileState) (effect : Effect) :
    (effect.onProfile ps).reconciling = ps.reconciling := by
  cases effect <;> rfl

@[simp]
theorem capacityDeferredHot_onProfile (ps : ProfileState) (effect : Effect) :
    (effect.onProfile ps).capacityDeferredHot = ps.capacityDeferredHot := by
  cases effect <;> rfl

/-! ## Steps of an agent -/

/-- The steps of an agent: the core after it, the agents that take its place and the threads it
starts. -/
inductive Advanced (cfg : Config) (c : Core) (answer : Answer) :
    Agent → Core → List Agent → List Thread → Prop
  | drainNone {settings} (hnone : c.unexpired settings.name = []) :
      Advanced cfg c answer (.admitClone settings .hot) (c.drainEvicted settings.name)
        [.selectNode settings .hot] []
  | drain {settings} (hsome : c.unexpired settings.name ≠ []) :
      Advanced cfg c answer (.admitClone settings .hot) (c.drainEvicted settings.name)
        [.claimParked settings c.pool.now (c.unexpired settings.name)] []
  | admitWarm {settings} :
      Advanced cfg c answer (.admitClone settings .warm) c [.selectNode settings .warm] []
  | claimRead {settings since parked} : Advanced cfg c answer (.claimParked settings since parked) c
      [.claimProbe settings since (snapshotExistingVMsForAffinity c.pool.store) parked none []] []
  | probeNext {settings since existing p todo q keep} {memory : Memory} :
      Advanced cfg c answer (.claimProbe settings since existing (p :: todo) (some q) keep)
        { c with memory := memory } [.claimProbe settings since existing todo (some q) (keep ++ [p])] []
  | probeChoose {settings since existing p todo keep} {before after : Memory} {known : Bool}
      (hprobe : nodeEligible cfg.toCapacityConfig before settings.name p.node existing =
        ((true, known), after)) :
      Advanced cfg c answer (.claimProbe settings since existing (p :: todo) none keep)
        { c with memory := after } [.claimProbe settings since existing todo (some p) keep] []
  | probeRelease {settings since existing p todo keep} {memory : Memory} :
      Advanced cfg c answer (.claimProbe settings since existing (p :: todo) none keep)
        (({ c with memory := memory } : Core).releaseAll [p])
        [.claimProbe settings since existing todo none keep] []
  | probeKeep {settings since existing p todo keep} {memory : Memory} :
      Advanced cfg c answer (.claimProbe settings since existing (p :: todo) none keep)
        { c with memory := memory } [.claimProbe settings since existing todo none (keep ++ [p])] []
  | consume {settings since existing p keep} :
      Advanced cfg c answer (.claimProbe settings since existing [] (some p) keep)
        { c with evicted := c.evicted ++ keep, consumed := c.consumed ++ [p.res] } []
        [cloneThread settings .hot p.node p.res (some p) existing]
  | claimNone {settings since existing keep} :
      Advanced cfg c answer (.claimProbe settings since existing [] none keep)
        { c with evicted := c.evicted ++ keep } [.selectNode settings .hot] []
  | selectRead {settings kind} : Advanced cfg c answer (.selectNode settings kind) c
      [.select settings kind (snapshotExistingVMsForAffinity c.pool.store)] []
  | selectFailed {settings kind existing} {memory : Memory} :
      Advanced cfg c answer (.select settings kind existing)
        { c.swept answer.snap with memory := memory } [.finish settings.name none [.releasePending]] []
  | selectDeferred {settings kind existing} {memory : Memory} :
      Advanced cfg c answer (.select settings kind existing)
        { c.swept answer.snap with memory := memory } [.recordDeferral settings kind] []
  | selected {settings kind existing node} {before after : Memory}
      (hnode : (Pool.selectNode cfg.toCapacityConfig answer.snap c.pool.now c.ledger before settings.name
        existing).1 = .node node) :
      Advanced cfg c answer (.select settings kind existing)
        { c.swept answer.snap with memory := after } [.reserve settings kind existing node] []
  | reserved {settings kind existing node ledger id}
      (hreserve : reserveCapacity cfg.toCapacityConfig answer.snap c.pool.now c.ledger settings.name node =
        (ledger, some id)) :
      Advanced cfg c answer (.reserve settings kind existing node)
        { c with ledger := ledger, owned := c.owned ++ [id] } []
        [cloneThread settings kind node id none existing]
  | notReserved {settings kind existing node} :
      Advanced cfg c answer (.reserve settings kind existing node) (c.swept answer.snap)
        [.recordDeferral settings kind] []
  | recorded {settings kind} :
      Advanced cfg c answer (.recordDeferral settings kind)
        (c.setProfile settings.name fun ps ↦
          { ps with capacityDeferredHot := recordCapacityDeferral kind ps.capacityDeferredHot })
        [.finish settings.name none [.releasePending]] []
  | finished {profile claim} : Advanced cfg c answer (.finish profile claim []) c [] []
  | performed {profile claim effect todo} :
      Advanced cfg c answer (.finish profile claim (effect :: todo))
        (c.perform cfg.accountant.reservationTTL profile claim effect) [.finish profile claim todo] []
  | read {settings stage sizing} : Advanced cfg c answer (.pass settings stage sizing) c
      [readStage cfg c settings sizing stage] []
  | kicked {settings hot warm deficit rest kind}
      (hrest : (kind = .hot ∧ ∃ more, hot = more + 1 ∧ rest = .kick settings more warm deficit) ∨
        (kind = .warm ∧ ∃ more, hot = 0 ∧ warm = more + 1 ∧ rest = .kick settings 0 more deficit)) :
      Advanced cfg c answer (.kick settings hot warm deficit)
        (c.setProfile settings.name fun ps ↦ { ps with pendingClones := ps.pendingClones + 1 })
        [.admitClone settings kind, rest] []
  | notKicked {settings hot warm deficit hot' warm'} :
      Advanced cfg c answer (.kick settings hot warm deficit) c [.kick settings hot' warm' deficit] []
  | kicksDone {settings deficit} :
      Advanced cfg c answer (.kick settings 0 0 deficit) c [.swap settings deficit] []
  | swapEvict {settings deficit} (hflag : (c.profiles settings.name).capacityDeferredHot = true)
      (hdeficit : 0 < deficit) :
      Advanced cfg c answer (.swap settings deficit)
        (c.setProfile settings.name fun ps ↦ { ps with capacityDeferredHot := false })
        [.evictSnapshot settings deficit] []
  | swapEnd {settings deficit} :
      Advanced cfg c answer (.swap settings deficit)
        ((c.setProfile settings.name fun ps ↦ { ps with capacityDeferredHot := false }).endPass
          settings.name) [] []
  | evictNoSnapshot {settings deficit} :
      Advanced cfg c answer (.evictSnapshot settings deficit) (c.endPass settings.name) [] []
  | evictSnapshot {settings deficit states} : Advanced cfg c answer (.evictSnapshot settings deficit)
      (c.swept answer.snap) [.evictExisting settings deficit states] []
  | evictExisting {settings deficit states existing} :
      Advanced cfg c answer (.evictExisting settings deficit states) c
        [.evictEligible settings deficit states existing] []
  | evictEligible {settings deficit states existing eligible} {memory : Memory} :
      Advanced cfg c answer (.evictEligible settings deficit states existing)
        { c with memory := memory } [.evictPlan settings deficit eligible] []
  | planNone {settings deficit eligible} :
      Advanced cfg c answer (.evictPlan settings deficit eligible) (c.endPass settings.name) [] []
  | planFirst {settings deficit eligible node plan plans} :
      Advanced cfg c answer (.evictPlan settings deficit eligible) c
        [.evictVictims settings deficit node plan [] [] plans] []
  | committed {settings deficit node victim todo committed victims plans pool request}
      (hexec : (evictCas victim).exec cfg.toConfig c.pool = some (pool, [.destroyAsync request])) :
      Advanced cfg c answer
        (.evictVictims settings deficit node (victim :: todo) committed victims plans)
        { c with pool := pool }
        [.evictVictims settings deficit node todo (committed ++ [request])
          (victims ++ guestKey c victim.row.vmid) plans] []
  | planAbandoned {settings deficit node victim todo victims plans} :
      Advanced cfg c answer (.evictVictims settings deficit node (victim :: todo) [] victims plans)
        (c.endPass settings.name) [] []
  | planNext {settings deficit node victim todo victims plans node' plan' plans'} :
      Advanced cfg c answer (.evictVictims settings deficit node (victim :: todo) [] victims plans) c
        [.evictVictims settings deficit node' plan' [] [] plans'] []
  | planCut {settings deficit node victim todo committed victims plans} :
      Advanced cfg c answer (.evictVictims settings deficit node (victim :: todo) committed victims plans) c
        [.evictReserve settings node committed victims] []
  | planDone {settings deficit node committed victims plans} :
      Advanced cfg c answer (.evictVictims settings deficit node [] committed victims plans) c
        [.evictReserve settings node committed victims] []
  | evictUnreserved {settings node committed victims} :
      Advanced cfg c answer (.evictReserve settings node committed victims)
        ((c.swept answer.snap).endPass settings.name) []
        (committed.map fun request ↦ { task := .destroyAsync request })
  | evictReserved {settings node committed victims snap ledger id}
      (hreserve : c.ledger.reserveFreeing cfg.accountant snap c.pool.now node (cfg.shape settings.name)
        (committed.map DestroyRequest.vmid) = (ledger, some id)) :
      Advanced cfg c answer (.evictReserve settings node committed victims)
        { c with ledger := ledger, owned := c.owned ++ [id] }
        [.evictPark settings node id c.pool.now committed victims] []
  | parked {settings node res since committed victims} :
      Advanced cfg c answer (.evictPark settings node res since committed victims)
        (({ c with
          evicted := c.evicted ++ [{ profile := settings.name, node := node, res := res
                                     expires := c.pool.now + parkedReservationTTL, granted := since
                                     victims := victims }]
          parkedEver := c.parkedEver ++ [res] } : Core).endPass settings.name) []
        (committed.map fun request ↦ { task := .destroyAsync request })

theorem reserveFreeing_cases {opts : Nodecap.Options} {snap : Snapshot} {now : Time} {a : Accountant}
    {shape : Shape} {freeing : List VMID} (h : (a.reserveFreeing opts snap now node shape freeing).2 = none) :
    (a.reserveFreeing opts snap now node shape freeing).1 = a.sweepLocked snap now := by
  by_cases hfits : (a.sweepLocked snap now).fitsLocked opts snap node shape freeing = true
  · rw [Accountant.reserveFreeing_of_fits hfits] at h
    cases h
  · rw [Accountant.reserveFreeing_of_not_fits hfits]

theorem reserveCapacity_eq_none {profile : String}
    (h : (reserveCapacity cfg.toCapacityConfig answer.snap c.pool.now c.ledger profile node).2 = none) :
    ({ c with ledger :=
        (reserveCapacity cfg.toCapacityConfig answer.snap c.pool.now c.ledger profile node).1 } : Core) =
      c.swept answer.snap := by
  unfold reserveCapacity at h ⊢
  unfold Core.swept
  cases hsnap : answer.snap with
  | none => rfl
  | some snap =>
    rw [hsnap] at h
    dsimp only at h ⊢
    rw [Accountant.reserve, reserveFreeing_cases h]
    rfl

section Agents

variable {settings : ProfileSettings} {kind : PoolKind} {since : Time} {existing : List ExistingVM}
  {deficit : ℤ}

theorem advanced_admitClone (h : Agent.step cfg c answer (.admitClone settings kind) = some (c', agents, threads)) :
    Advanced cfg c answer (.admitClone settings kind) c' agents threads := by
  cases kind with
  | hot =>
    simp only [Agent.step, if_true] at h
    split at h
    · next hnone =>
      cases h
      exact .drainNone hnone
    · next parked hsome =>
      cases h
      exact .drain hsome
  | warm =>
    cases h
    exact .admitWarm

theorem advanced_claimProbe {todo : List Parked} {chosen : Option Parked} {keep : List Parked}
    (h : Agent.step cfg c answer (.claimProbe settings since existing todo chosen keep) =
      some (c', agents, threads)) :
    Advanced cfg c answer (.claimProbe settings since existing todo chosen keep) c' agents threads := by
  cases todo with
  | nil =>
    cases chosen <;> cases h
    · exact .claimNone
    · exact .consume
  | cons p todo =>
    cases chosen with
    | some q =>
      cases h
      exact .probeNext
    | none =>
      simp only [Agent.step, claimNext, Option.some.injEq] at h
      split at h
      · next known hprobe =>
        cases h
        exact .probeChoose (Prod.ext hprobe rfl)
      · cases h
        exact .probeRelease
      · cases h
        exact .probeKeep

theorem advanced_select (h : Agent.step cfg c answer (.select settings kind existing) =
      some (c', agents, threads)) :
    Advanced cfg c answer (.select settings kind existing) c' agents threads := by
  simp only [Agent.step, notAdmitted] at h
  split at h
  · cases h
    exact .selectFailed
  · cases h
    exact .selectDeferred
  · next node hnode =>
    cases h
    exact .selected hnode

theorem advanced_reserve
    (h : Agent.step cfg c answer (.reserve settings kind existing node) = some (c', agents, threads)) :
    Advanced cfg c answer (.reserve settings kind existing node) c' agents threads := by
  simp only [Agent.step] at h
  split at h
  · next id hid =>
    cases h
    exact .reserved (Prod.ext rfl hid)
  · next hnone =>
    rw [reserveCapacity_eq_none hnone] at h
    cases h
    exact .notReserved

theorem advanced_kick {hot warm : ℕ}
    (h : Agent.step cfg c answer (.kick settings hot warm deficit) = some (c', agents, threads)) :
    Advanced cfg c answer (.kick settings hot warm deficit) c' agents threads := by
  rcases hot with _ | hot
  · rcases warm with _ | warm
    · cases h
      exact .kicksDone
    · simp only [Agent.step, kickClone, Option.some.injEq] at h
      split at h
      · cases h
        exact .kicked (.inr ⟨rfl, warm, rfl, rfl, rfl⟩)
      · cases h
        exact .notKicked
  · simp only [Agent.step, kickClone, Option.some.injEq] at h
    split at h
    · cases h
      exact .kicked (.inl ⟨rfl, hot, rfl, rfl⟩)
    · cases h
      exact .notKicked

theorem advanced_swap (h : Agent.step cfg c answer (.swap settings deficit) = some (c', agents, threads)) :
    Advanced cfg c answer (.swap settings deficit) c' agents threads := by
  rw [step_swap] at h
  split_ifs at h with hevict
  · cases h
    exact .swapEvict hevict.1 hevict.2.1
  · cases h
    exact .swapEnd

variable {committed : List DestroyRequest} {victims : List (VMID × ℕ)}

theorem advanced_evictVictims {todo : List EvictionCandidate} {plans : List (String × EvictionPlan)}
    (h : Agent.step cfg c answer (.evictVictims settings deficit node todo committed victims plans) =
      some (c', agents, threads)) :
    Advanced cfg c answer (.evictVictims settings deficit node todo committed victims plans) c' agents
      threads := by
  cases todo with
  | nil =>
    cases h
    exact .planDone
  | cons victim todo =>
    simp only [Agent.step] at h
    split at h
    · next pool request hexec =>
      cases h
      exact .committed hexec
    · split_ifs at h with hnone
      · subst hnone
        cases plans <;> cases h
        · exact .planAbandoned
        · exact .planNext
      · cases h
        exact .planCut
    · cases h

theorem advanced_evictReserve (h : Agent.step cfg c answer (.evictReserve settings node committed victims) =
      some (c', agents, threads)) :
    Advanced cfg c answer (.evictReserve settings node committed victims) c' agents threads := by
  simp only [Agent.step] at h
  have hend : Advanced cfg c answer (.evictReserve settings node committed victims)
      ((c.swept answer.snap).endPass settings.name) []
      (committed.map fun request ↦ { task := .destroyAsync request }) := .evictUnreserved
  split at h
  · next hsnap =>
    cases h
    rwa [hsnap] at hend
  · next snap hsnap =>
    split at h
    · next id hid =>
      cases h
      exact .evictReserved (Prod.ext rfl hid)
    · next hnone =>
      rw [reserveFreeing_cases hnone] at h
      cases h
      rwa [hsnap] at hend

end Agents

theorem advanced_of_step (h : agent.step cfg c answer = some (c', agents, threads)) :
    Advanced cfg c answer agent c' agents threads := by
  cases agent with
  | admitClone settings kind => exact advanced_admitClone h
  | claimProbe settings since existing todo chosen keep => exact advanced_claimProbe h
  | select settings kind existing => exact advanced_select h
  | reserve settings kind existing node => exact advanced_reserve h
  | finish profile claim todo =>
    cases todo <;> cases h
    · exact .finished
    · exact .performed
  | kick settings hot warm deficit => exact advanced_kick h
  | swap settings deficit => exact advanced_swap h
  | evictSnapshot settings deficit =>
    have hsweep {states : List (String × NodeState)} :
        Advanced cfg c answer (.evictSnapshot settings deficit) (c.swept answer.snap)
          [.evictExisting settings deficit states] [] := .evictSnapshot
    simp only [Agent.step] at h
    split at h
    · cases h
      exact .evictNoSnapshot
    · next snap hsnap =>
      cases h
      rw [hsnap] at hsweep
      exact hsweep
  | evictPlan settings deficit eligible =>
    simp only [Agent.step, Option.some.injEq] at h
    cases hplans : evictionPlans cfg.toCapacityConfig c.pool.store settings.name eligible with
    | nil =>
      rw [hplans] at h
      cases h
      exact .planNone
    | cons first plans =>
      rw [hplans] at h
      cases h
      exact .planFirst
  | evictVictims settings deficit node todo committed victims plans => exact advanced_evictVictims h
  | evictReserve settings node committed victims => exact advanced_evictReserve h
  | _ =>
    cases h
    constructor

/-! ## The worker of a clone -/

/-- The task starts a clone by itself. -/
def kicks : Task → Bool
  | .kickClone _ _ _ => true
  | _ => false

/-- Only a clone goes on as a clone, and as one. -/
theorem clones_next {cfg : Pool.Config} {s s' : Shared} {reply : Reply} :
    (task.action cfg reply).Next cfg s s' fun next ↦
      next.countP cloning ≤ (if cloning task || kicks task then 1 else 0) ∧ next.countP kicks = 0 := by
  by_cases hpart : task.part.leadsTo [.clone] = true
  · have hclone : (cloning task || kicks task) := by
      cases task <;> first | rfl | cases hpart
    rw [if_pos hclone]
    cases task with
    | _ =>
      first
      | cases hpart; done
      | dsimp
        (repeat' split) <;> dsimp [Action.Next] <;>
          (repeat' first
            | exact ⟨Nat.le_refl _, rfl⟩
            | exact ⟨Nat.zero_le _, rfl⟩
            | split
            | apply And.intro
            | intro _)
  · have hnone : (task.action cfg reply).Next cfg s s'
        (List.Forall fun other ↦ cloning other = false ∧ kicks other = false) := by
      refine next_of_parts [.clone] (fun other hother ↦ ?_) fun h ↦ absurd h hpart
      cases other <;> first | exact ⟨rfl, rfl⟩ | cases hother
    refine hnone.imp fun next hnext ↦ ?_
    rw [List.forall_iff_forall_mem] at hnext
    rw [List.countP_eq_zero.mpr fun other hother ↦ Bool.eq_false_iff.mp (hnext other hother).1]
    exact ⟨Nat.zero_le _, List.countP_eq_zero.mpr fun other hother ↦
      Bool.eq_false_iff.mp (hnext other hother).2⟩

/-- How a clone worker goes on. -/
inductive CloneNext (s s' : Shared) : Task → List Task → Prop
  | allocated {settings kind poweredOn node v} :
      CloneNext s s' (.cloneAllocate settings kind poweredOn node)
        [.cloneInsert settings kind poweredOn node v]
  | notAllocated {settings kind poweredOn node} :
      CloneNext s s' (.cloneAllocate settings kind poweredOn node) []
  | inserted {settings kind poweredOn node v prep} (hvmid : prep.vmid = v)
      (hnew : prep.gen = s.gens v + 1) (hgens : s'.gens v = prep.gen) :
      CloneNext s s' (.cloneInsert settings kind poweredOn node v) [.cloneIpam prep]
  | notInserted {settings kind poweredOn node v} :
      CloneNext s s' (.cloneInsert settings kind poweredOn node v) []
  | addressed {prep} : CloneNext s s' (.cloneIpam prep) [.cloneIssue prep]
  | notAddressed {prep} : CloneNext s s' (.cloneIpam prep) [.cloneFailure prep]
  | issued {prep node} : CloneNext s s' (.cloneIssue prep) [.cloneAwait prep node]
  | notIssued {prep} : CloneNext s s' (.cloneIssue prep) [.cloneFailure prep]
  | cloned {prep node} : CloneNext s s' (.cloneAwait prep node) [.cloneConfigure prep node]
  | notCloned {prep node} : CloneNext s s' (.cloneAwait prep node) [.cloneFailure prep]
  | configured {prep node} : CloneNext s s' (.cloneConfigure prep node) [.clonePower prep node]
  | notConfigured {prep node} : CloneNext s s' (.cloneConfigure prep node) [.cloneFailure prep]
  | snapshots {prep node} : CloneNext s s' (.clonePower prep node) [.cloneSnapshot prep node]
  | powered {prep node} : CloneNext s s' (.clonePower prep node) [.cloneUpdate prep node false]
  | notPowered {prep node} : CloneNext s s' (.clonePower prep node) [.cloneFailure prep]
  | snapshotted {prep node hasSnapshot} :
      CloneNext s s' (.cloneSnapshot prep node) [.cloneUpdate prep node hasSnapshot]
  | updated {prep node hasSnapshot next} (hnext : ∀ other ∈ next, cloning other = false) :
      CloneNext s s' (.cloneUpdate prep node hasSnapshot) next
  | failed {prep} : CloneNext s s' (.cloneFailure prep) [.destroyOrSyncFallback prep.request]

theorem cloneNext_of_cloning {cfg : Pool.Config} {s s' : Shared} (h : cloning task) {reply : Reply} :
    (task.action cfg reply).Next cfg s s' (CloneNext s s' task) := by
  cases task with
  | cloneAllocate => exact ⟨fun _ _ ↦ .allocated, .notAllocated⟩
  | cloneInsert => exact ⟨fun _ _ hgens ↦ .inserted rfl rfl hgens, .notInserted⟩
  | cloneIpam prep =>
    cases reply with
    | ok => exact .addressed
    | _ => exact .notAddressed
  | cloneIssue prep =>
    dsimp
    split_ifs
    · exact .notIssued
    · split
      · exact ⟨fun _ _ ↦ .issued, .notIssued⟩
      · exact .notIssued
  | cloneAwait prep node =>
    cases reply with
    | ok => exact .cloned
    | _ => exact .notCloned
  | cloneConfigure prep node =>
    dsimp
    split
    · exact ⟨fun _ _ ↦ .configured, fun _ ↦ .notConfigured⟩
    · exact .notConfigured
  | clonePower prep node =>
    dsimp
    split
    · split_ifs
      · exact ⟨fun _ _ ↦ .snapshots, fun _ ↦ .notPowered⟩
      · exact ⟨fun _ _ ↦ .powered, fun _ ↦ .notPowered⟩
      · exact .snapshots
      · exact .powered
    · exact .notPowered
  | cloneSnapshot prep node =>
    cases reply with
    | ok => exact ⟨fun _ _ ↦ .snapshotted, fun _ ↦ .snapshotted⟩
    | _ => exact .snapshotted
  | cloneUpdate prep node hasSnapshot =>
    refine ⟨fun row _ _ _ ↦ .updated ?_, fun err ↦ .updated ?_⟩
    · dsimp
      split_ifs <;> simp [cloning]
    · cases err <;> simp [cloning]
  | cloneFailure => exact ⟨fun _ _ _ _ ↦ .failed, fun _ ↦ .failed⟩
  | _ => cases h

/-- The worker has not inserted its row yet. -/
def beforeRow : Task → Bool
  | .cloneAllocate _ _ _ _ | .cloneInsert _ _ _ _ _ => true
  | _ => false

theorem cloning_of_beforeRow (h : beforeRow task) : cloning task = true := by
  cases task <;> first | rfl | cases h

theorem beforeRow_next {cfg : Pool.Config} {s s' : Shared} (hcloning : cloning task) {reply : Reply} :
    (task.action cfg reply).Next cfg s s' fun next ↦
      next.countP beforeRow ≤ if beforeRow task then 1 else 0 := by
  refine Action.Next.imp (cloneNext_of_cloning hcloning) fun next hnext ↦ ?_
  cases hnext with
  | updated hnext =>
    refine (List.countP_eq_zero.mpr fun other hother hrow ↦ ?_).le
    exact Bool.eq_false_iff.mp (hnext other hother) (cloning_of_beforeRow hrow)
  | _ => simp [beforeRow]

theorem countP_cloning_le_one {reply : Reply} {s s' : Shared} {next : List Task}
    (h : (task.action cfg.toConfig reply).exec cfg.toConfig s = some (s', next)) :
    next.countP cloning ≤ 1 := by
  refine (exec_next h clones_next).1.trans ?_
  split <;> simp

/-- What is counted of a worker goes on with those of its successors that are selected. -/
theorem sum_map_after {g : Thread → ℕ} {selected : Task → Bool} {m : ℕ} {w : Worker} {todo : List Effect}
    (hselected : ∀ task, selected task → cloning task)
    (hnone : ∀ task, g { task := task } = 0)
    (hsome : ∀ task todo, cloning task = true → g ⟨task, some w, todo⟩ = if selected task then m else 0)
    (next : List Task) :
    ((Thread.after cfg.toConfig ⟨task, some w, todo⟩ next).map g).sum = next.countP selected * m := by
  induction next with
  | nil => simp [Thread.after]
  | cons other next ih =>
    simp only [Thread.after, List.map_cons, List.sum_cons, List.countP_cons] at ih ⊢
    rw [ih]
    cases hcloning : cloning other with
    | true => cases hother : selected other <;> simp [hsome, hcloning, hother, Nat.add_mul, Nat.add_comm]
    | false =>
      have hother : selected other = false :=
        Bool.eq_false_iff.mpr fun h ↦ Bool.false_ne_true (hcloning ▸ hselected other h)
      simp [hnone, hother]

/-! ## Steps of the system -/

/-- A change of targets leaves the counters and flags of a profile alone. -/
def Retargets (change : ProfileState → ProfileState) : Prop :=
  ∀ ps, (change ps).pendingClones = ps.pendingClones ∧
    (change ps).capacityDeferredHot = ps.capacityDeferredHot ∧ (change ps).reconciling = ps.reconciling

/-- The steps of the system. -/
inductive Moved (cfg : Config) (sys : Sys) : Act → Sys → Prop
  | fire {i reply t pool next} (hthread : sys.threads[i]? = some t) (htodo : t.todo = [])
      (hexec : (t.task.action cfg.toConfig reply).exec cfg.toConfig sys.core.pool = some (pool, next)) :
      Moved cfg sys (.fire i reply)
        ⟨{ sys.core with pool := pool }, sys.threads.eraseIdx i ++ t.after cfg.toConfig next,
          sys.agents ++ t.leftover next⟩
  | settle {i task w effect todo} (hthread : sys.threads[i]? = some ⟨task, some w, effect :: todo⟩) :
      Moved cfg sys (.settle i)
        ⟨sys.core.perform cfg.accountant.reservationTTL w.profile (some w.claim) effect,
          sys.threads.eraseIdx i ++ [⟨task, some w, todo⟩], sys.agents⟩
  | advance {k answer agent core agents threads} (hagent : sys.agents[k]? = some agent)
      (hadvanced : Advanced cfg sys.core answer agent core agents threads) :
      Moved cfg sys (.advance k answer)
        ⟨core, sys.threads ++ threads, sys.agents.eraseIdx k ++ agents⟩
  | outside {act pool tasks} (hfrom : fromOutside act = true)
      (hstep : Pool.step cfg.toConfig ⟨sys.core.pool, []⟩ act = some ⟨pool, tasks⟩) :
      Moved cfg sys (.outside act)
        ⟨{ sys.core with pool := pool }, sys.threads ++ tasks.map fun task ↦ { task := task }, sys.agents⟩
  | reconcile {profile settings} (hfind : cfg.profiles.find? (·.name = profile) = some settings)
      (hidle : (sys.core.profiles profile).reconciling = false) :
      Moved cfg sys (.reconcile profile)
        ⟨sys.core.setProfile profile fun ps ↦ { ps with reconciling := true }, sys.threads,
          sys.agents ++ [startPass cfg settings]⟩
  | retarget {act profile change} (hchange : Retargets change)
      (hact : (∃ n, act = .setDesiredCount profile n) ∨ ∃ hot warm, act = .setTargetSizes profile hot warm) :
      Moved cfg sys act ⟨sys.core.setProfile profile change, sys.threads, sys.agents⟩
  | releaseParked {profile} :
      Moved cfg sys (.releaseParked profile)
        ⟨({ sys.core with evicted := sys.core.evicted.filter (·.profile ≠ profile) } : Core).releaseAll
          (sys.core.evicted.filter (·.profile = profile)), sys.threads, sys.agents⟩
  | elsewhere {op} (hmay : op.mayApply sys.core.owned = true) :
      Moved cfg sys (.elsewhere op)
        ⟨{ sys.core with ledger := op.apply cfg sys.core.pool.now sys.core.ledger }, sys.threads,
          sys.agents⟩
  | crash : Moved cfg sys .crash
      ⟨startCore cfg sys.core.pool.restart, [{ task := .adopt }], []⟩

theorem moved_of_step (h : step cfg sys act = some sys') : Moved cfg sys act sys' := by
  cases act with
  | fire i reply =>
    simp only [step] at h
    split at h
    · cases h
    · next t hthread =>
      split_ifs at h with htodo
      obtain ⟨⟨pool, next⟩, hexec, rfl⟩ := Option.map_eq_some_iff.mp h
      exact .fire hthread htodo hexec
  | settle i =>
    simp only [step] at h
    split at h
    · next task w effect todo hthread =>
      cases h
      exact .settle hthread
    · cases h
  | advance k answer =>
    simp only [step] at h
    split at h
    · cases h
    · next agent hagent =>
      obtain ⟨⟨core, agents, threads⟩, hstep, rfl⟩ := Option.map_eq_some_iff.mp h
      exact .advance hagent (advanced_of_step hstep)
  | outside act =>
    simp only [step] at h
    split_ifs at h with hfrom
    obtain ⟨⟨pool, tasks⟩, hstep, rfl⟩ := Option.map_eq_some_iff.mp h
    exact .outside hfrom hstep
  | reconcile profile =>
    simp only [step] at h
    split at h
    · cases h
    · next settings hfind =>
      split_ifs at h with hbusy
      cases h
      exact .reconcile hfind (Bool.not_eq_true _ ▸ hbusy)
  | setDesiredCount profile n =>
    cases h
    exact .retarget (fun _ ↦ ⟨rfl, rfl, rfl⟩) (.inl ⟨n, rfl⟩)
  | setTargetSizes profile hot warm =>
    cases h
    exact .retarget (fun _ ↦ ⟨rfl, rfl, rfl⟩) (.inr ⟨hot, warm, rfl⟩)
  | releaseParked profile =>
    simp only [step] at h
    split_ifs at h
    cases h
    exact .releaseParked
  | elsewhere op =>
    simp only [step] at h
    split_ifs at h with hmay
    cases h
    exact .elsewhere hmay
  | crash =>
    cases h
    exact .crash

/-! ## Who is a clone worker -/

/-- Clone workers are the threads that clone, and clones start with an agent. -/
structure Thread.Staffed (t : Thread) : Prop where
  cloning : cloning t.task = t.worker.isSome
  kicks : kicks t.task = false

theorem staffed_after {t : Thread} (h : t.Staffed) {next : List Task}
    (hcloning : next.countP Demand.cloning ≤ if Demand.cloning t.task || Demand.kicks t.task then 1 else 0)
    (hkicks : next.countP Demand.kicks = 0) : ∀ t' ∈ t.after cfg.toConfig next, t'.Staffed := by
  intro t' ht'
  have hkicks (task : Task) (htask : task ∈ next) : Demand.kicks task = false :=
    Bool.eq_false_iff.mpr (List.countP_eq_zero.mp hkicks task htask)
  unfold Thread.after at ht'
  cases hworker : t.worker with
  | none =>
    rw [hworker] at ht'
    obtain ⟨task, htask, rfl⟩ := List.mem_map.mp ht'
    rw [h.cloning, h.kicks, hworker] at hcloning
    refine ⟨?_, hkicks task htask⟩
    exact Bool.eq_false_iff.mpr (List.countP_eq_zero.mp (Nat.le_zero.mp hcloning) task htask)
  | some w =>
    rw [hworker] at ht'
    obtain ⟨task, htask, rfl⟩ := List.mem_map.mp ht'
    cases hclone : Demand.cloning task <;> exact ⟨hclone, hkicks task htask⟩

theorem staffed_outside {act : Pool.Act} {pool pool' : Shared} {tasks : List Task}
    (hfrom : fromOutside act)
    (hstep : Pool.step cfg.toConfig ⟨pool, []⟩ act = some ⟨pool', tasks⟩) :
    ∀ task ∈ tasks, cloning task = false ∧ kicks task = false := by
  intro task htask
  cases stepped_of_step hstep with
  | fire | crash => cases hfrom
  | call hcallable =>
    cases List.mem_singleton.mp htask
    cases task <;>
      first
      | exact ⟨rfl, rfl⟩
      | (cases hfrom; done)
      | cases hcallable
  | dispatch =>
    cases List.mem_singleton.mp htask
    exact ⟨rfl, rfl⟩
  | outside => cases htask

theorem threads_advanced (h : Advanced cfg c answer agent c' agents threads) {t : Thread} (ht : t ∈ threads) :
    (∃ settings kind node res parked existing, t = cloneThread settings kind node res parked existing) ∨
      ∃ request, t = { task := .destroyAsync request } := by
  cases h with
  | consume | reserved => exact .inl ⟨_, _, _, _, _, _, List.mem_singleton.mp ht⟩
  | evictUnreserved | parked =>
    obtain ⟨request, -, rfl⟩ := List.mem_map.mp ht
    exact .inr ⟨request, rfl⟩
  | _ => cases ht

/-- What every thread starts with and hands on to its successors holds of all threads. -/
theorem forall_threads_step {P : Thread → Prop}
    (hafter : ∀ (t : Thread) (reply : Reply) (s s' : Shared) (next : List Task), P t →
      (t.task.action cfg.toConfig reply).exec cfg.toConfig s = some (s', next) →
        ∀ t' ∈ t.after cfg.toConfig next, P t')
    (hsettle : ∀ task w effect todo, P ⟨task, some w, effect :: todo⟩ → P ⟨task, some w, todo⟩)
    (hclone : ∀ settings kind node res parked existing,
      P (cloneThread settings kind node res parked existing))
    (hdestroy : ∀ request, P { task := .destroyAsync request })
    (houtside : ∀ (act : Pool.Act) (pool pool' : Shared) (tasks : List Task), fromOutside act = true →
      Pool.step cfg.toConfig ⟨pool, []⟩ act = some ⟨pool', tasks⟩ → ∀ task ∈ tasks, P { task := task })
    (hadopt : P { task := .adopt }) (h : ∀ t ∈ sys.threads, P t) (hstep : step cfg sys act = some sys') :
    ∀ t ∈ sys'.threads, P t := by
  cases moved_of_step hstep with
  | @fire i reply t pool next hthread htodo hexec =>
    refine forall_threads_fire i h (fun t' ht' ↦ ?_) fun _ _ hold ↦ hold
    exact hafter t reply _ pool next (h t (List.mem_of_getElem? hthread)) hexec t' ht'
  | @settle i task w effect todo hthread =>
    refine forall_threads_fire i h (fun t' ht' ↦ ?_) fun _ _ hold ↦ hold
    rw [List.mem_singleton.mp ht']
    exact hsettle task w effect todo (h _ (List.mem_of_getElem? hthread))
  | advance hagent hadvanced =>
    intro t ht
    rcases List.mem_append.mp ht with ht | ht
    · exact h t ht
    · rcases threads_advanced hadvanced ht with ⟨settings, kind, node, res, parked, existing, rfl⟩ | ⟨request, rfl⟩
      · exact hclone settings kind node res parked existing
      · exact hdestroy request
  | @outside act pool tasks hfrom hpool =>
    intro t ht
    rcases List.mem_append.mp ht with ht | ht
    · exact h t ht
    · obtain ⟨task, htask, rfl⟩ := List.mem_map.mp ht
      exact houtside act _ pool tasks hfrom hpool task htask
  | crash =>
    intro t ht
    rw [List.mem_singleton.mp ht]
    exact hadopt
  | _ => exact h

theorem staffed_step (h : ∀ t ∈ sys.threads, t.Staffed) (hstep : step cfg sys act = some sys') :
    ∀ t ∈ sys'.threads, t.Staffed := by
  refine forall_threads_step (fun t reply s s' next ht hexec ↦ ?_) (fun _ _ _ _ ht ↦ ⟨ht.cloning, ht.kicks⟩)
    (fun _ _ _ _ _ _ ↦ ⟨rfl, rfl⟩) (fun _ ↦ ⟨rfl, rfl⟩) (fun act pool pool' tasks hfrom hpool task htask ↦ ?_)
    ⟨rfl, rfl⟩ h hstep
  · obtain ⟨hcloning, hkicks⟩ := exec_next hexec clones_next
    exact staffed_after ht hcloning hkicks
  · obtain ⟨hcloning, hkicks⟩ := staffed_outside hfrom hpool task htask
    exact ⟨hcloning, hkicks⟩

/-! ## Counting workers by their tasks -/

theorem map_task_after (t : Thread) (next : List Task) :
    (t.after cfg.toConfig next).map Thread.task = next := by
  unfold Thread.after
  split
  · simp [Function.comp_def]
  · simp only [List.map_map]
    refine (List.map_congr_left fun task _ ↦ ?_).trans (List.map_id _)
    simp only [Function.comp_apply, apply_ite Thread.task, ite_self, id]

theorem countP_after (p : Task → Bool) (t : Thread) (next : List Task) :
    (t.after cfg.toConfig next).countP (fun t ↦ p t.task) = next.countP p := by
  conv_rhs => rw [← @map_task_after cfg t next, List.countP_map]
  rfl

/-- The threads that an agent starts count for nothing if a new clone and a destroy do not. -/
theorem countP_advanced {p : Task → Bool} (h : Advanced cfg c answer agent c' agents threads)
    (hclone : ∀ settings kind node res parked existing,
      p (cloneThread settings kind node res parked existing).task = false)
    (hdestroy : ∀ request, p (.destroyAsync request) = false) :
    threads.countP (fun t ↦ p t.task) = 0 := by
  refine List.countP_eq_zero.mpr fun t ht ↦ Bool.eq_false_iff.mp ?_
  rcases threads_advanced h ht with ⟨settings, kind, node, res, parked, existing, rfl⟩ | ⟨request, rfl⟩
  · exact hclone settings kind node res parked existing
  · exact hdestroy request

theorem countP_outside {p : Task → Bool} (hp : ∀ task, p task → cloning task)
    {act : Pool.Act} {pool pool' : Shared} {tasks : List Task} (hfrom : fromOutside act)
    (hstep : Pool.step cfg.toConfig ⟨pool, []⟩ act = some ⟨pool', tasks⟩) :
    (tasks.map fun task ↦ ({ task := task } : Thread)).countP (fun t ↦ p t.task) = 0 := by
  rw [List.countP_map]
  refine List.countP_eq_zero.mpr fun task htask hselected ↦ ?_
  exact Bool.eq_false_iff.mp (staffed_outside hfrom hstep task htask).1 (hp task hselected)

end ScalesetProxmox.Pool.Demand
