import ScalesetProxmox.Pool.PassBooks

/-!
# Two passes reach the targets

From a pool at rest the first pass settles the hot rows and, in promoting, may take warm rows that its own
warm clones were counted against. The second pass finds no hot row missing, so it promotes nothing and makes
up for the warm rows. From then on the plan of every pass is empty.
-/

namespace ScalesetProxmox.Pool

open Store (VMID State)
open Transition (run Along)

/-! ## A pool at rest -/

structure AtRest (profile : String) (store : Store) : Prop where
  idle_rows : ∀ v row, store.get v = some row → row.profile = profile → row.state = .hot ∨ row.state = .warm
  others : OthersAtRest profile store

/-- The idle rows of each kind. -/
def idleCount (settings : ProfileSettings) (store : Store) (hot : Bool) : ℕ :=
  store.countByProfileState settings.name (idleState hot)

variable {cfg : Config} {settings : ProfileSettings} {targets : PassTargets} {store : Store} {w w' : World}
  {start : Bool → ℕ} {profile : String} {state : State} {sys : Sys} {idle : Multiset Mark}

theorem AtRest.count_eq_zero (h : AtRest profile store) (hhot : state ≠ .hot) (hwarm : state ≠ .warm) :
    store.countByProfileState profile state = 0 := by
  rw [countByProfileState_eq, Multiset.countP_eq_zero]
  intro mark hmark hstate
  obtain ⟨row, hget, hprofile, hrow⟩ := mem_marks.mp hmark
  rcases h.idle_rows mark.1 row hget hprofile with hidle | hidle
  · exact hhot (hstate.symm.trans (hrow.symm.trans hidle))
  · exact hwarm (hstate.symm.trans (hrow.symm.trans hidle))

theorem AtRest.list_eq_nil (h : AtRest profile store) {states : List State}
    (hstates : ∀ state ∈ states, state ≠ .hot ∧ state ≠ .warm) :
    store.listByProfileAndStates profile states = [] := by
  refine List.eq_nil_iff_forall_not_mem.mpr fun row hrow ↦ ?_
  obtain ⟨hget, hprofile, hstate⟩ := Store.mem_listByProfileAndStates.mp hrow
  rcases h.idle_rows row.vmid row hget hprofile with hidle | hidle
  · exact (hstates _ hstate).1 hidle
  · exact (hstates _ hstate).2 hidle

theorem AtRest.none_stuck (h : AtRest profile store) : store.listByState stuckStates = [] := by
  refine List.eq_nil_iff_forall_not_mem.mpr fun row hrow ↦ ?_
  obtain ⟨hget, hstate⟩ := Store.mem_listByState.mp hrow
  by_cases hprofile : row.profile = profile
  · rcases h.idle_rows row.vmid row hget hprofile with hidle | hidle <;> rw [hidle] at hstate <;>
      exact absurd hstate (by decide)
  · exact h.others row.vmid row hget hprofile hstate

theorem inFlight_of_idle (hthreads : sys.threads = []) (hqueue : sys.shared.destroyQueue = []) :
    inFlight sys = 0 := by
  rw [inFlight, hthreads, hqueue]
  rfl

/-- Nothing runs and nothing is queued. -/
theorem idle_iff : w.idle ↔
    w.script = [] ∧ w.sys.threads = [] ∧ w.sys.shared.destroyQueue = [] := by
  simp [World.idle, and_assoc]

theorem AtRest.accounted (h : AtRest settings.name sys.shared.store) (hthreads : sys.threads = [])
    (hqueue : sys.shared.destroyQueue = []) :
    Accounted settings sys (marks settings.name sys.shared.store) := by
  refine ⟨?_, ?_, fun mark hmark ↦ ?_, h.others⟩
  · rw [hthreads]
    exact fun task htask ↦ absurd htask List.not_mem_nil
  · rw [inFlight_of_idle hthreads hqueue, add_zero]
  · obtain ⟨row, hget, hprofile, hrow⟩ := mem_marks.mp hmark
    rw [← hrow]
    exact h.idle_rows mark.1 row hget hprofile

theorem Accounted.atRest (h : Accounted settings sys idle) (hthreads : sys.threads = [])
    (hqueue : sys.shared.destroyQueue = []) : AtRest settings.name sys.shared.store := by
  refine ⟨fun v row hget hprofile ↦ ?_, h.others⟩
  have hmark : (v, row.state) ∈ marks settings.name sys.shared.store :=
    mem_marks.mpr ⟨row, hget, hprofile, rfl⟩
  rw [h.marks_eq, inFlight_of_idle hthreads hqueue, add_zero] at hmark
  exact h.idle_states _ hmark

/-! ## The plan at rest -/

namespace PassTargets

/-- The hot rows that are wanted, before the cap. -/
def hotGoal (targets : PassTargets) : ℤ := max targets.hotSize targets.desired

def goal (targets : PassTargets) (hot : Bool) : ℤ := if hot then targets.hotGoal else targets.warmSize

/-- The hot rows that a pass adds to the ones there are. -/
def needHot (targets : PassTargets) (hot : ℕ) : ℕ :=
  (min targets.hotGoal targets.maxConcurrentRunners - hot).toNat

/-- What a pass reads that starts with these idle rows and no others. -/
def sizing (targets : PassTargets) (start : Bool → ℕ) : Sizing where
  stats := { hot := start true, warm := start false }
  hotSize := targets.hotSize
  warmSize := targets.warmSize
  desired := targets.desired
  profileMax := targets.maxConcurrentRunners

/-- What it does then. -/
def plan (targets : PassTargets) (start : Bool → ℕ) : PassPlan where
  promote := min (targets.needHot (start true)) (start false)
  hot := targets.needHot (start true) - start false
  warm := targets.warmSize - start false
  hotExcess := (start true - targets.hotGoal).toNat
  warmExcess := start false - min (targets.needHot (start true)) (start false) - targets.warmSize

end PassTargets

theorem plan_fits (targets : PassTargets) (start : Bool → ℕ) :
    (targets.plan start).Fits start targets.goal := by
  refine ⟨fun hot ↦ ?_, fun hot ↦ ?_⟩
  · cases hot <;>
      simp only [PassPlan.excess, PassPlan.gains, PassPlan.taken, PassTargets.plan, PassTargets.goal,
        PassTargets.hotGoal, PassTargets.needHot, Bool.false_eq_true, if_true, if_false] <;> omega
  · cases hot
    · exact Int.natCast_nonneg _
    · exact le_trans (Int.natCast_nonneg _) (le_max_left _ _)

theorem readSizing_atRest (h : AtRest settings.name store) (cfg : Config) (targets : PassTargets) {s : Shared}
    (hstore : s.store = store) :
    readSizing cfg settings targets s = targets.sizing (idleCount settings store) := by
  have hzero {state : State} (hhot : state ≠ .hot) (hwarm : state ≠ .warm) := h.count_eq_zero hhot hwarm
  have hstats : statsForProfile store settings.name =
      { hot := idleCount settings store true, warm := idleCount settings store false } := by
    unfold statsForProfile
    congr 1 <;> exact hzero (by decide) (by decide)
  have hprovisioning := provisioning_eq store settings.name
  rw [hstats] at hprovisioning
  have hcredit : profileReturningCredit cfg store settings.name s.now settings.vmMaxAge = {} := by
    unfold profileReturningCredit
    rw [h.list_eq_nil (by decide), h.list_eq_nil (by decide)]
    split_ifs <;> rfl
  have hhotProv : provisioningOf store settings.name .hot = 0 := by
    dsimp only at hprovisioning
    omega
  have hwarmProv : provisioningOf store settings.name .warm = 0 := by
    dsimp only at hprovisioning
    omega
  simp only [readSizing, provisioningCounts, hstore, hstats, hhotProv, hwarmProv, hcredit,
    PassTargets.sizing]

/-- The needs of a profile whose rows are all idle. -/
theorem needs_sizing (targets : PassTargets) (start : Bool → ℕ) :
    (targets.sizing start).needs =
      ((targets.needHot (start true) : ℤ), ((targets.warmSize - start false : ℕ) : ℤ)) := by
  have hcredit : (targets.sizing start).hotCredit = 0 := max_eq_left (min_le_left _ _)
  have hwarmCredit : (targets.sizing start).warmCredit = 0 := by
    rw [Sizing.warmCredit, hcredit]
    rfl
  have hshort : (targets.sizing start).hotShort = targets.hotGoal - start true := by
    rw [Sizing.hotShort, hcredit]
    simp only [PassTargets.sizing, PassTargets.hotGoal, Sizing.supply, Sizing.deficit, burstDeficit,
      Sizing.inflight, Stats.available, Stats.busy]
    omega
  have hroom : (targets.sizing start).room = targets.maxConcurrentRunners - start true := by
    simp [PassTargets.sizing, Sizing.room, Sizing.supply, Sizing.inflight, Stats.available, Stats.busy]
  have hwarmShort : (targets.sizing start).warmShort = targets.warmSize - start false := by
    rw [Sizing.warmShort, hwarmCredit]
    simp [PassTargets.sizing, Stats.liveWarm]
  rw [Sizing.needs_eq, hroom, hshort, hwarmShort, PassTargets.needHot]
  refine Prod.ext ?_ ?_
  · dsimp only
    omega
  · dsimp only
    omega

theorem dispatch_atRest (h : AtRest settings.name store) (cfg : Config) (targets : PassTargets) {s : Shared}
    (hstore : s.store = store) :
    (readSizing cfg settings targets s).dispatch =
      { promote := (targets.plan (idleCount settings store)).promote
        hot := (targets.plan (idleCount settings store)).hot
        warm := (targets.plan (idleCount settings store)).warm } := by
  rw [readSizing_atRest h cfg targets hstore, Sizing.dispatch_eq, needs_sizing]
  rfl

/-! ## One pass -/

/-- The end of a pass, after the shrink steps. -/
def closingCalls (cfg : Config) (settings : ProfileSettings) : List Task :=
  (if settings.name = cfg.defaultProfile.name then [.sweepStuckRows] else []) ++
    [.recycleOldVMs settings.name settings.vmMaxAge]

theorem closingCalls_closes (hage : settings.vmMaxAge ≤ 0) :
    ∀ task ∈ closingCalls cfg settings, task.closes := by
  intro task htask
  rcases List.mem_append.mp htask with hsweep | hrecycle
  · split_ifs at hsweep
    · rw [List.mem_singleton.mp hsweep]
      trivial
    · exact absurd hsweep List.not_mem_nil
  · rw [List.mem_singleton.mp hrecycle]
    exact hage

/-- Where a pass begins. -/
def PassPlan.firstPhase (plan : PassPlan) : Phase :=
  if 0 < plan.promote then .listing plan.promote plan.hot plan.warm else .cloning plan.hot plan.warm

theorem script_atRest (h : AtRest settings.name w.sys.shared.store) (cfg : Config) (targets : PassTargets) :
    (w.beginPass cfg settings targets).script =
      (targets.plan (idleCount settings w.sys.shared.store)).firstPhase.script settings targets.goal
        (closingCalls cfg settings) := by
  have hbusy : (readSizing cfg settings targets w.sys.shared).stats.busy = 0 := by
    rw [readSizing_atRest h cfg targets rfl]
    rfl
  have htarget : hotTarget targets 0 = targets.hotGoal := by
    unfold hotTarget PassTargets.hotGoal
    split_ifs <;> omega
  have hshrink : shrinkCalls cfg settings targets 0 =
      Phase.afterClones settings targets.goal (closingCalls cfg settings) := by
    rw [shrinkCalls, htarget]
    rfl
  simp only [World.beginPass, reconcileProfileOnce, dispatch_atRest h cfg targets rfl, hbusy, hshrink,
    PassPlan.firstPhase]
  split_ifs
  · exact List.append_assoc _ _ _
  · rfl

theorem books_begin (h : AtRest settings.name w.sys.shared.store) (hidle : w.idle) (cfg : Config)
    (targets : PassTargets) :
    PassBooks settings (targets.plan (idleCount settings w.sys.shared.store))
      (idleCount settings w.sys.shared.store) targets.goal (closingCalls cfg settings)
      (targets.plan (idleCount settings w.sys.shared.store)).firstPhase (w.beginPass cfg settings targets)
      (marks settings.name w.sys.shared.store) := by
  obtain ⟨_, hthreads, hqueue⟩ := idle_iff.mp hidle
  have hcount (hot : Bool) : (marks settings.name w.sys.shared.store).countP (·.2 = idleState hot) =
      idleCount settings w.sys.shared.store hot := (countByProfileState_eq _ _ _).symm
  have hdueIn (hot : Bool) : dueIn hot (w.beginPass cfg settings targets).sys.threads = 0 := by
    rw [World.beginPass, hthreads]
    rfl
  generalize hplan : targets.plan (idleCount settings w.sys.shared.store) = plan
  have hdue (hot : Bool) : plan.firstPhase.due hot = plan.gains hot := by
    unfold PassPlan.firstPhase
    split_ifs with hpromote
    · cases hot <;> rfl
    · cases hot
      · rfl
      · change plan.hot = plan.promote + plan.hot
        omega
  have htaken (hot : Bool) : plan.firstPhase.taken hot + plan.firstPhase.cut plan hot =
      plan.taken hot + plan.excess hot := by
    unfold PassPlan.firstPhase
    split_ifs with hpromote
    · cases hot <;> rfl
    · cases hot
      · change 0 + plan.excess false = plan.promote + plan.excess false
        omega
      · rfl
  refine ⟨h.accounted hthreads hqueue, ?_, fun hot ↦ ?_, fun hot ↦ ?_, ?_⟩
  · rw [script_atRest h, hplan]
  · rw [hcount, hdueIn, hdue, htaken]
    omega
  · rw [hdueIn, hdue, Nat.zero_add]
  · unfold PassPlan.firstPhase
    split_ifs
    · refine le_of_le_of_eq ?_ (hcount false).symm
      rw [← hplan]
      exact Nat.min_le_right _ _
    · trivial

theorem script_ne_nil {settings : ProfileSettings} {goal : Bool → ℤ} {fin : List Task} {phase : Phase}
    (h : phase.script settings goal fin = []) : phase = .closing [] := by
  cases phase with
  | shrinking hot excess rows => cases rows <;> cases h
  | cloning a b => simp [Phase.script, Phase.afterClones] at h
  | closing tasks => exact congrArg _ h
  | _ => cases h

section Counts

variable (hsettings : cfg.profileOf settings.name = some settings) (hname : settings.name ≠ "")
  (hage : settings.vmMaxAge ≤ 0) (h : AtRest settings.name w.sys.shared.store)
  (hpass : Pass cfg settings targets w w')

include hsettings hname hage h hpass

/-- A pass leaves the pool at rest and has done what was planned. -/
theorem pass_counts :
    AtRest settings.name w'.sys.shared.store ∧ ∀ hot, idleCount settings w'.sys.shared.store hot +
      ((targets.plan (idleCount settings w.sys.shared.store)).taken hot +
        (targets.plan (idleCount settings w.sys.shared.store)).excess hot) =
      idleCount settings w.sys.shared.store hot +
        (targets.plan (idleCount settings w.sys.shared.store)).gains hot := by
  obtain ⟨hidle, acts, hrun, hgood, hidle'⟩ := hpass
  obtain ⟨phase, idle, hbooks⟩ := books_of_run hsettings hname (plan_fits targets _) (closingCalls_closes hage)
    (books_begin h hidle cfg targets) hrun hgood
  obtain ⟨hscript, hthreads, hqueue⟩ := idle_iff.mp hidle'
  obtain rfl : phase = .closing [] := script_ne_nil (hbooks.script_eq.symm.trans hscript)
  refine ⟨hbooks.accounted.atRest hthreads hqueue, fun hot ↦ ?_⟩
  have hbalance := hbooks.balance hot
  rw [hthreads] at hbalance
  rw [idleCount, hbooks.accounted.count hot]
  exact hbalance

theorem pass_hot : (idleCount settings w'.sys.shared.store true : ℤ) =
    min targets.hotGoal (max (idleCount settings w.sys.shared.store true) targets.maxConcurrentRunners) := by
  have hcounts := (pass_counts hsettings hname hage h hpass).2 true
  simp only [PassPlan.excess, PassPlan.gains, PassPlan.taken, PassTargets.plan, PassTargets.needHot,
    PassTargets.hotGoal, if_true] at hcounts ⊢
  omega

/-- A pass that promotes nothing settles the warm rows. -/
theorem pass_warm (hnone : targets.needHot (idleCount settings w.sys.shared.store true) = 0) :
    idleCount settings w'.sys.shared.store false = targets.warmSize := by
  have hcounts := (pass_counts hsettings hname hage h hpass).2 false
  simp only [PassPlan.excess, PassPlan.gains, PassPlan.taken, PassTargets.plan, hnone, Bool.false_eq_true,
    if_false] at hcounts
  omega

end Counts

/-! ## A settled pool -/

/-- The hot rows are within the goal and short of it only for the cap, the warm rows are at their size. -/
structure OnTarget (settings : ProfileSettings) (targets : PassTargets) (store : Store) : Prop where
  atRest : AtRest settings.name store
  hot_le : (idleCount settings store true : ℤ) ≤ targets.hotGoal
  needHot : targets.needHot (idleCount settings store true) = 0
  warm_eq : idleCount settings store false = targets.warmSize

theorem OnTarget.count_le (h : OnTarget settings targets store) (hot : Bool) :
    (store.countByProfileState settings.name (idleState hot) : ℤ) ≤ targets.goal hot := by
  cases hot
  · exact le_of_eq (congrArg Nat.cast h.warm_eq)
  · exact h.hot_le

theorem OnTarget.plan_eq (h : OnTarget settings targets store) :
    targets.plan (idleCount settings store) = ⟨0, 0, 0, 0, 0⟩ := by
  have hhot := h.hot_le
  rw [PassTargets.plan, h.needHot, h.warm_eq]
  simp [hhot]

def Task.checks (settings : ProfileSettings) (targets : PassTargets) (task : Task) : Prop :=
  task.closes ∨ ∃ hot, task = .shrinkPool settings.name (idleState hot) (targets.goal hot)

/-- Nothing is started, and the store stays as it is. -/
structure Unchanged (settings : ProfileSettings) (targets : PassTargets) (store : Store) (w : World) :
    Prop where
  threads_eq : w.sys.threads = []
  queue_eq : w.sys.shared.destroyQueue = []
  store_eq : w.sys.shared.store = store
  script : ∀ task ∈ w.script, task.checks settings targets

/-- A step of a pass over a settled pool finds nothing to do. -/
theorem checks_exec (h : OnTarget settings targets store) {s s' : Shared} {task : Task} {next : List Task}
    {reply : Reply} (hstore : s.store = store) (htask : task.checks settings targets)
    (hexec : (task.action cfg reply).exec cfg s = some (s', next)) :
    s' = s ∧ ∀ other ∈ next, other.closes ∧ other.inPass = true := by
  rcases htask with hcloses | ⟨hot, rfl⟩
  · exact closes_exec hcloses (.inr (hstore ▸ h.atRest.none_stuck)) hexec
  · simp only [Task.action, idleAction, Action.exec, hstore, if_pos (h.count_le hot)] at hexec
    cases hexec
    exact ⟨rfl, fun other hother ↦ absurd hother List.not_mem_nil⟩

theorem checks_inPass {task : Task} (h : task.checks settings targets) : task.inPass = true := by
  rcases h with hcloses | ⟨hot, rfl⟩
  · exact closes_inPass hcloses
  · rfl

theorem unchanged_of_step (h : OnTarget settings targets store) {act : PassAct}
    (hw : Unchanged settings targets store w) (hstep : passStep cfg w act = some w') :
    Unchanged settings targets store w' := by
  obtain ⟨hthreads, hqueue, hstore, hscript⟩ := hw
  cases act with
  | pass reply =>
    cases hrest : w.script with
    | nil =>
      rw [passStep, hrest] at hstep
      cases hstep
    | cons task rest =>
      have htask : task.checks settings targets := hscript task (hrest ▸ List.mem_cons_self)
      simp only [passStep, hrest, advance_inPass (checks_inPass htask), Option.map_eq_some_iff] at hstep
      obtain ⟨⟨s', next⟩, hexec, rfl⟩ := hstep
      obtain ⟨rfl, hnext⟩ := checks_exec h hstore htask hexec
      obtain ⟨hstays, hnone⟩ := filter_closes hnext
      rw [hstays, hnone, hthreads]
      refine ⟨rfl, hqueue, hstore, fun other hother ↦ ?_⟩
      rcases List.mem_append.mp hother with hnew | hold
      · exact .inl (hnext other hnew).1
      · exact hscript other (hrest ▸ List.mem_cons_of_mem _ hold)
  | fire i reply =>
    obtain ⟨sys, hsys, rfl⟩ := Option.map_eq_some_iff.mp hstep
    cases stepped_of_step hsys with
    | fire hthread hexec =>
      rw [hthreads] at hthread
      cases hthread
    | outside houtside => cases houtside
  | dispatch =>
    obtain ⟨sys, hsys, rfl⟩ := Option.map_eq_some_iff.mp hstep
    cases stepped_of_step hsys with
    | dispatch hrequest =>
      rw [hqueue] at hrequest
      cases hrequest
    | outside houtside => cases houtside
  | elapse d =>
    cases hstep
    exact ⟨hthreads, hqueue, hstore, hscript⟩

/-- Whatever a pass over a settled pool does, it starts nothing and changes no row. -/
theorem unchanged_of_run (h : OnTarget settings targets w.sys.shared.store) (hage : settings.vmMaxAge ≤ 0)
    (hidle : w.idle) {acts : List PassAct}
    (hrun : run (passStep cfg) (w.beginPass cfg settings targets) acts = some w') :
    Unchanged settings targets w.sys.shared.store w' := by
  obtain ⟨_, hthreads, hqueue⟩ := idle_iff.mp hidle
  have hbegin : Unchanged settings targets w.sys.shared.store (w.beginPass cfg settings targets) := by
    refine ⟨hthreads, hqueue, rfl, fun task htask ↦ ?_⟩
    rw [script_atRest h.atRest, h.plan_eq] at htask
    rcases List.mem_cons.mp htask with rfl | htask
    · exact .inr ⟨true, rfl⟩
    rcases List.mem_cons.mp htask with rfl | htask
    · exact .inr ⟨false, rfl⟩
    · exact .inl (closingCalls_closes hage task htask)
  refine Transition.invariant_of_along (C := fun _ _ _ ↦ True) _ ?_ hbegin
    (Transition.along_of_step fun _ _ _ _ ↦ trivial) hrun
  exact fun _ _ _ hw _ hstep ↦ unchanged_of_step h hw hstep

theorem onTarget_of_passes (hage : settings.vmMaxAge ≤ 0) (h : OnTarget settings targets w.sys.shared.store)
    (hidle : w.idle) (hpasses : Relation.ReflTransGen (Pass cfg settings targets) w w') :
    w'.idle ∧ w'.sys.shared.store = w.sys.shared.store := by
  induction hpasses with
  | refl => exact ⟨hidle, rfl⟩
  | tail _ hpass ih =>
    obtain ⟨hidle', acts, hrun, _, hidle''⟩ := hpass
    rw [← ih.2] at h
    exact ⟨hidle'', (unchanged_of_run h hage hidle' hrun).store_eq.trans ih.2⟩

theorem onTarget_of_two_passes (hsettings : cfg.profileOf settings.name = some settings)
    (hname : settings.name ≠ "") (hage : settings.vmMaxAge ≤ 0) {w₀ w₁ w₂ : World}
    (h : AtRest settings.name w₀.sys.shared.store) (hfirst : Pass cfg settings targets w₀ w₁)
    (hsecond : Pass cfg settings targets w₁ w₂) :
    OnTarget settings targets w₂.sys.shared.store ∧ (idleCount settings w₂.sys.shared.store true : ℤ) =
      min targets.hotGoal (max (idleCount settings w₀.sys.shared.store true) targets.maxConcurrentRunners) := by
  have hrest := (pass_counts hsettings hname hage h hfirst).1
  have hhot := pass_hot hsettings hname hage h hfirst
  have hhot' := pass_hot hsettings hname hage hrest hsecond
  have hkept : (idleCount settings w₂.sys.shared.store true : ℤ) =
      min targets.hotGoal (max (idleCount settings w₀.sys.shared.store true) targets.maxConcurrentRunners) := by
    omega
  have hnone (store : Store) (hcount : (idleCount settings store true : ℤ) = min targets.hotGoal
      (max (idleCount settings w₀.sys.shared.store true) targets.maxConcurrentRunners)) :
      targets.needHot (idleCount settings store true) = 0 := by
    unfold PassTargets.needHot
    omega
  refine ⟨⟨(pass_counts hsettings hname hage hrest hsecond).1, ?_, hnone _ hkept, ?_⟩, hkept⟩
  · rw [hkept]
    exact min_le_left _ _
  · exact pass_warm hsettings hname hage hrest hsecond (hnone _ hhot)

/-- The pool converges in two passes: there are as many Hot rows as the targets want, within the cap and the
rows there were, and as many Warm rows as their size, and every later pass dispatches, promotes and destroys
nothing. -/
theorem pool_converges_in_two_passes (cfg : Config) (settings : ProfileSettings) (targets : PassTargets)
    (hsettings : cfg.profileOf settings.name = some settings) (hname : settings.name ≠ "")
    (hage : settings.vmMaxAge ≤ 0) (w₀ w₁ w₂ : World) (hrest : AtRest settings.name w₀.sys.shared.store)
    (hfirst : Pass cfg settings targets w₀ w₁) (hsecond : Pass cfg settings targets w₁ w₂) :
    (w₂.sys.shared.store.countByProfileState settings.name .hot : ℤ) =
        min (max (targets.hotSize : ℤ) targets.desired)
          (max (w₀.sys.shared.store.countByProfileState settings.name .hot : ℤ) targets.maxConcurrentRunners) ∧
      w₂.sys.shared.store.countByProfileState settings.name .warm = targets.warmSize ∧
      AtRest settings.name w₂.sys.shared.store ∧
      ∀ w₃, Relation.ReflTransGen (Pass cfg settings targets) w₂ w₃ →
        (readSizing cfg settings targets w₃.sys.shared).dispatch = { promote := 0, hot := 0, warm := 0 } ∧
        ∀ acts w, run (passStep cfg) (w₃.beginPass cfg settings targets) acts = some w →
          w.sys.threads = [] ∧ w.sys.shared.destroyQueue = [] ∧
            w.sys.shared.store = w₂.sys.shared.store := by
  obtain ⟨honTarget, hhot⟩ := onTarget_of_two_passes hsettings hname hage hrest hfirst hsecond
  obtain ⟨_, _, _, _, hidle⟩ := hsecond
  refine ⟨hhot, honTarget.warm_eq, honTarget.atRest, fun w₃ hpasses ↦ ?_⟩
  obtain ⟨hidle₃, hstore⟩ := onTarget_of_passes hage honTarget hidle hpasses
  rw [← hstore] at honTarget
  refine ⟨?_, fun acts w hrun ↦ ?_⟩
  · rw [dispatch_atRest honTarget.atRest cfg targets rfl, honTarget.plan_eq]
  · have hsame := unchanged_of_run honTarget hage hidle₃ hrun
    exact ⟨hsame.threads_eq, hsame.queue_eq, hsame.store_eq.trans hstore⟩

/-- The pool of `smallPool` with one Warm row. -/
def oneWarm : World where
  sys := (run (step smallPool) freshPool (adoptNothing ++ cloneOne .warm false)).getD freshPool

/-- One hot VM and one warm VM are wanted. -/
def oneOfEach : PassTargets where
  hotSize := 1
  warmSize := 1
  desired := 0
  maxConcurrentRunners := 4

/-- The pass promotes the Warm row and counts the hot pool while the VM boots. -/
def promotingPass : List PassAct :=
  [.pass .ok, .pass .ok, .fire 0 .ok, .pass .ok, .pass .ok, .fire 0 .ok, .pass .ok, .fire 0 .ok] ++
    List.replicate 4 (.pass .ok)

/-- The pass clones a warm VM. -/
def cloningPass : List PassAct :=
  [.pass .ok, .fire 0 (.node "pve1")] ++ List.replicate 8 (.fire 0 .ok) ++ List.replicate 6 (.pass .ok)

theorem pool_converges_oneWarm :
    ∃ w₁ w₂, Pass smallPool smallPool.defaultProfile oneOfEach oneWarm w₁ ∧
      Pass smallPool smallPool.defaultProfile oneOfEach w₁ w₂ ∧
      (w₂.sys.shared.store.countByProfileState "default" .hot : ℤ) =
        min (max 1 0) (max (oneWarm.sys.shared.store.countByProfileState "default" .hot : ℤ) 4) ∧
      w₂.sys.shared.store.countByProfileState "default" .warm = 1 := by
  obtain ⟨w₁, hrun₁, hidle₁, w₂, hrun₂, hidle₂, hgood₁, hgood₂⟩ :
      ∃ w₁ ∈ run (passStep smallPool) (oneWarm.beginPass smallPool smallPool.defaultProfile oneOfEach)
          promotingPass, w₁.idle = true ∧
        ∃ w₂ ∈ run (passStep smallPool) (w₁.beginPass smallPool smallPool.defaultProfile oneOfEach) cloningPass,
          w₂.idle = true ∧
          Along (passStep smallPool) (fun w act _ ↦ w.succeeds smallPool act = true)
            (oneWarm.beginPass smallPool smallPool.defaultProfile oneOfEach) promotingPass ∧
          Along (passStep smallPool) (fun w act _ ↦ w.succeeds smallPool act = true)
            (w₁.beginPass smallPool smallPool.defaultProfile oneOfEach) cloningPass := by
    decide +kernel
  have hrows : ∀ row ∈ oneWarm.sys.shared.store.rows, row.state = .warm := by decide +kernel
  have hwarm {v : VMID} {row : Store.VM} (hget : oneWarm.sys.shared.store.get v = some row) :
      row.state = .warm := by
    obtain rfl : row.vmid = v := Table.key_of_get hget
    exact hrows row (Table.mem_rows.mpr hget)
  have hrest : AtRest "default" oneWarm.sys.shared.store := by
    refine ⟨fun v row hget _ ↦ .inr (hwarm hget), fun v row hget _ ↦ ?_⟩
    rw [hwarm hget]
    decide
  have hfirst : Pass smallPool smallPool.defaultProfile oneOfEach oneWarm w₁ :=
    ⟨by decide +kernel, promotingPass, hrun₁, hgood₁, hidle₁⟩
  have hsecond : Pass smallPool smallPool.defaultProfile oneOfEach w₁ w₂ :=
    ⟨hidle₁, cloningPass, hrun₂, hgood₂, hidle₂⟩
  obtain ⟨hhotRows, hwarmRows, _⟩ := pool_converges_in_two_passes smallPool smallPool.defaultProfile oneOfEach
    rfl (by decide) (by decide) oneWarm w₁ w₂ hrest hfirst hsecond
  exact ⟨w₁, w₂, hfirst, hsecond, hhotRows, hwarmRows⟩

end ScalesetProxmox.Pool
