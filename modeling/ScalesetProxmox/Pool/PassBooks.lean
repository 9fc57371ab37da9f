import ScalesetProxmox.Pool.InFlight

/-!
# The books of a pass

A pass that starts with nothing in flight has a plan: how many warm VMs it promotes, how many clones of each
kind it starts, and how many idle rows of each kind it destroys. The plan is made from one count, but the
shrink steps count again while the clones and boots of the same pass are running. The books of the pass relate
the idle rows, what the running operations will add and what the rest of the pass will take, and they show
that each of these later counts comes out as planned, whatever has landed until then.
-/

namespace ScalesetProxmox.Pool

open Store (VMID Time State)
open Transition (run Along)

/-! ## The plan of a pass -/

structure PassPlan where
  promote : ℕ
  hot : ℕ
  warm : ℕ
  hotExcess : ℕ
  warmExcess : ℕ

namespace PassPlan

variable (plan : PassPlan)

/-- The idle rows of a kind that the operations of the pass add. -/
def gains (hot : Bool) : ℕ := if hot then plan.promote + plan.hot else plan.warm

/-- The idle rows of a kind that the pass promotes. -/
def taken (hot : Bool) : ℕ := if hot then 0 else plan.promote

/-- The idle rows of a kind that the pass destroys. -/
def excess (hot : Bool) : ℕ := if hot then plan.hotExcess else plan.warmExcess

/-- With nothing to destroy the gains stay within the goal; with something to destroy there are none. -/
structure Fits (start : Bool → ℕ) (goal : Bool → ℤ) : Prop where
  shrinks : ∀ hot, plan.excess hot = 0 ∧ (start hot + plan.gains hot : ℤ) ≤ goal hot + plan.taken hot ∨
    plan.gains hot = 0 ∧ (start hot : ℤ) = goal hot + plan.taken hot + plan.excess hot
  goal_nonneg : ∀ hot, 0 ≤ goal hot

end PassPlan

/-! ## Where the pass is -/

inductive Phase
  /-- The warm rows to promote are still to be listed. -/
  | listing (promote hot warm : ℕ)
  | promoting (rows : List Store.VM) (hot warm : ℕ)
  | cloning (hot warm : ℕ)
  | counting (hot : Bool)
  /-- The idle rows of the kind are over the goal; they are listed before they are taken. -/
  | shrinking (hot : Bool) (excess : ℕ) (rows : Option (List Store.VM))
  | closing (tasks : List Task)

/-- Tasks of the end of a pass, which find nothing to do. -/
def Task.closes : Task → Prop
  | .sweepStuckRows | .sweepList _ | .sweepLoop [] => True
  | .recycleOldVMs _ maxAge => maxAge ≤ 0
  | _ => False

def Listed (idle : Multiset Mark) (rows : List Store.VM) (hot : Bool) : Prop :=
  (rows.map Store.VM.vmid).Nodup ∧ ∀ row ∈ rows, (row.vmid, idleState hot) ∈ idle

namespace Phase

/-- What follows the shrink step of a kind. -/
def afterShrink (settings : ProfileSettings) (goal : Bool → ℤ) (fin : List Task) : Bool → List Task
  | true => .shrinkPool settings.name .warm (goal false) :: fin
  | false => fin

/-- What follows the clones. -/
def afterClones (settings : ProfileSettings) (goal : Bool → ℤ) (fin : List Task) : List Task :=
  .shrinkPool settings.name .hot (goal true) :: afterShrink settings goal fin true

/-- The rest of the pass, which ends with `fin`. -/
def script (settings : ProfileSettings) (goal : Bool → ℤ) (fin : List Task) : Phase → List Task
  | listing promote hot warm =>
    .promoteN settings.name promote :: (cloneCalls settings hot warm ++ afterClones settings goal fin)
  | promoting rows hot warm =>
    .promoteLoop rows :: (cloneCalls settings hot warm ++ afterClones settings goal fin)
  | cloning hot warm => cloneCalls settings hot warm ++ afterClones settings goal fin
  | counting hot =>
    .shrinkPool settings.name (idleState hot) (goal hot) :: afterShrink settings goal fin hot
  | shrinking hot excess none =>
    .shrinkList settings.name (idleState hot) excess :: afterShrink settings goal fin hot
  | shrinking hot excess (some rows) =>
    .shrinkLoop settings.name (idleState hot) excess rows :: afterShrink settings goal fin hot
  | closing tasks => tasks

/-- The idle rows of a kind that clones and boots of the rest of the pass will add. -/
def due : Phase → Bool → ℕ
  | listing promote hot _, true => promote + hot
  | promoting rows hot _, true => rows.length + hot
  | cloning hot _, true => hot
  | listing _ _ warm, false | promoting _ _ warm, false | cloning _ warm, false => warm
  | _, _ => 0

/-- The idle rows of a kind that the rest of the pass will promote. -/
def taken : Phase → Bool → ℕ
  | listing promote _ _, false => promote
  | promoting rows _ _, false => rows.length
  | _, _ => 0

/-- The idle rows of a kind that the rest of the pass will destroy. -/
def cut (plan : PassPlan) : Phase → Bool → ℕ
  | listing _ _ _, hot | promoting _ _ _, hot | cloning _ _, hot | counting true, hot => plan.excess hot
  | shrinking true excess _, true | shrinking false excess _, false => excess
  | shrinking true _ _, false | counting false, false => plan.excess false
  | _, _ => 0

def Valid (plan : PassPlan) (start : Bool → ℕ) (idle : Multiset Mark) : Phase → Prop
  | listing promote _ _ => promote ≤ idle.countP (·.2 = .warm)
  | promoting rows _ _ => Listed idle rows false
  | shrinking hot _ none => plan.gains hot = 0 ∧ plan.taken hot + plan.excess hot ≤ start hot
  | shrinking hot excess (some rows) => Listed idle rows hot ∧ excess ≤ rows.length
  | closing tasks => ∀ task ∈ tasks, task.closes
  | _ => True

end Phase

structure PassBooks (settings : ProfileSettings) (plan : PassPlan) (start : Bool → ℕ) (goal : Bool → ℤ)
    (fin : List Task) (phase : Phase) (w : World) (idle : Multiset Mark) : Prop where
  accounted : Accounted settings w.sys idle
  script_eq : w.script = phase.script settings goal fin
  balance : ∀ hot, idle.countP (·.2 = idleState hot) + dueIn hot w.sys.threads + phase.due hot +
    (plan.taken hot + plan.excess hot) =
      start hot + plan.gains hot + (phase.taken hot + phase.cut plan hot)
  bound : ∀ hot, dueIn hot w.sys.threads + phase.due hot ≤ plan.gains hot
  valid : phase.Valid plan start idle

variable {cfg : Config} {settings : ProfileSettings} {plan : PassPlan} {start : Bool → ℕ} {goal : Bool → ℤ}
  {fin : List Task} {phase : Phase} {w w' : World} {idle : Multiset Mark} {act : PassAct} {hot : Bool}
  {rows : List Store.VM} {reply : Reply}

theorem Listed.mono (h : Listed idle rows hot) (gained : Multiset Mark) : Listed (gained + idle) rows hot :=
  ⟨h.1, fun row hrow ↦ Multiset.mem_add.mpr (.inr (h.2 row hrow))⟩

theorem Phase.Valid.mono (h : phase.Valid plan start idle) (gained : Multiset Mark) :
    phase.Valid plan start (gained + idle) := by
  cases phase with
  | listing promote hot warm =>
    refine le_trans h ?_
    rw [Multiset.countP_add]
    exact Nat.le_add_left _ _
  | promoting rows hot warm => exact Listed.mono h gained
  | shrinking hot excess rows =>
    cases rows with
    | none => exact h
    | some rows => exact ⟨h.1.mono gained, h.2⟩
  | _ => exact h

/-! ## The operations beside the pass -/

/-- Steps of the operations, of the dispatcher and of the clock leave the pass where it is. -/
theorem PassBooks.of_operation (h : PassBooks settings plan start goal fin phase w idle)
    (hsettings : cfg.profileOf settings.name = some settings) (hname : settings.name ≠ "")
    (hact : ∀ reply, act ≠ .pass reply) (hsucceeds : w.succeeds cfg act)
    (hstep : passStep cfg w act = some w') :
    ∃ idle', PassBooks settings plan start goal fin phase w' idle' := by
  cases act with
  | pass reply => exact absurd rfl (hact reply)
  | fire i reply =>
    obtain ⟨sys, hsys, rfl⟩ := Option.map_eq_some_iff.mp hstep
    cases stepped_of_step hsys with
    | @fire _ _ task s' next hthread hexec =>
      have htask := h.accounted.operations task (List.mem_of_getElem? hthread)
      have hgood : task.succeeds cfg w.sys.shared reply := by
        simpa [World.succeeds, hthread] using hsucceeds
      have hheld : ∀ mark ∈ task.holds, mark ∈ marks settings.name w.sys.shared.store := by
        intro mark hmark
        rw [h.accounted.marks_eq, inFlight_of_thread hthread]
        simp [Option.mem_def.mp hmark]
      have hoperation := operationStep_of_exec hsettings hname htask hheld hgood hexec
      obtain ⟨gained, haccounted, hdue⟩ := accounted_of_operationStep h.accounted hthread hoperation
      refine ⟨gained + idle, haccounted, h.script_eq, fun hot ↦ ?_, fun hot ↦ ?_, h.valid.mono gained⟩
      · have hbalance := h.balance hot
        have hdueHot := hdue hot
        rw [Multiset.countP_add]
        dsimp only
        omega
      · have hbound := h.bound hot
        have hdueHot := hdue hot
        dsimp only
        omega
    | outside houtside => cases houtside
  | dispatch =>
    obtain ⟨sys, hsys, rfl⟩ := Option.map_eq_some_iff.mp hstep
    cases stepped_of_step hsys with
    | @dispatch request rest hqueue =>
      have hdue (hot : Bool) : dueIn hot (w.sys.threads ++ [.destroyGet request false]) =
          dueIn hot w.sys.threads := by
        rw [dueIn_append, dueIn_singleton]
        rfl
      refine ⟨idle, accounted_of_dispatch h.accounted hqueue, h.script_eq, fun hot ↦ ?_, fun hot ↦ ?_, h.valid⟩
      · rw [hdue]
        exact h.balance hot
      · rw [hdue]
        exact h.bound hot
    | outside houtside => cases houtside
  | elapse d =>
    cases hstep
    exact ⟨idle, h.accounted.of_store rfl rfl, h.script_eq, h.balance, h.bound, h.valid⟩

/-! ## The steps of the pass -/

/-- The swap of a row that is in one of the states. -/
theorem exec_cas {s : Shared} {v : VMID} {old : Store.VM} {allowed : List State} {target : State}
    {mutate : Time → Store.VM → Store.VM} {k : ℕ → Option Store.VM → List Task}
    (hget : s.store.get v = some old) (hstate : old.state ∈ allowed)
    (himm : Store.enforceImmutable old (old.moved s.now target (mutate s.now))) :
    Action.exec cfg s (.cas v allowed target mutate k) =
      some (s.commit v (s.store.put (old.moved s.now target (mutate s.now))),
        k (s.gens v) (some (old.moved s.now target (mutate s.now)))) := by
  have hswap : s.store.updateStateIn s.now v allowed target (mutate s.now) =
      .ok (s.store.put (old.moved s.now target (mutate s.now)), true) :=
    Store.updateStateIn_eq_ok_true.mpr ⟨old, hget, hstate, himm, rfl⟩
  have hvmid : v = (old.moved s.now target (mutate s.now)).vmid :=
    (Table.key_of_get hget).symm.trans (enforceImmutable_vmid himm).symm
  simp only [Action.exec, hswap]
  rw [Table.get_put, if_pos hvmid]

theorem advance_inPass {task : Task} {rest : List Task} (h : task.inPass) :
    w.advance cfg reply task rest = ((task.action cfg reply).exec cfg w.sys.shared).map fun after ↦
      { sys := { shared := after.1, threads := w.sys.threads ++ after.2.filter fun next ↦ !next.inPass }
        script := after.2.filter Task.inPass ++ rest } := by
  cases task <;> first | rfl | cases h

theorem passStep_inPass {task : Task} {rest : List Task} (hscript : w.script = task :: rest)
    (htask : task.inPass) (hsucceeds : w.succeeds cfg (.pass reply))
    (hstep : passStep cfg w (.pass reply) = some w') :
    task.succeeds cfg w.sys.shared reply ∧ ∃ s' next,
      (task.action cfg reply).exec cfg w.sys.shared = some (s', next) ∧
      w' = { sys := { shared := s', threads := w.sys.threads ++ next.filter fun next ↦ !next.inPass }
             script := next.filter Task.inPass ++ rest } := by
  simp only [passStep, hscript, advance_inPass htask, Option.map_eq_some_iff] at hstep
  obtain ⟨⟨s', next⟩, hexec, rfl⟩ := hstep
  refine ⟨?_, s', next, hexec, rfl⟩
  simpa [World.succeeds, hscript, htask] using hsucceeds

/-- The mutator of a swap changes neither the identity of the row nor its new state. -/
def KeepsState (mutate : Time → Store.VM → Store.VM) : Prop :=
  ∀ now row, ((mutate now row).vmid = row.vmid ∧ (mutate now row).profile = row.profile ∧
    (mutate now row).createdAt = row.createdAt) ∧ (mutate now row).state = row.state

/-- The pass takes an idle row out of its state, and whatever it starts on it holds the row. -/
theorem exec_take {sys : Sys} {row : Store.VM} {target : State} {mutate : Time → Store.VM → Store.VM}
    (h : Accounted settings sys idle) (hmark : (row.vmid, idleState hot) ∈ idle) (hmutate : KeepsState mutate)
    (k : ℕ → Option Store.VM → List Task) :
    ∃ s' new left, Action.exec cfg sys.shared (.cas row.vmid [idleState hot] target mutate k) =
        some (s', k (sys.shared.gens row.vmid) (some new)) ∧
      idle = {(row.vmid, idleState hot)} + left ∧
      ∀ task : Task, task.operates settings → task.holds = some (row.vmid, target) →
        Accounted settings ⟨s', sys.threads ++ [task]⟩ left := by
  have hin : (row.vmid, idleState hot) ∈ marks settings.name sys.shared.store := by
    rw [h.marks_eq]
    exact Multiset.mem_add.mpr (.inl hmark)
  obtain ⟨old, hget, hprofile, hstate⟩ := mem_marks.mp hin
  have hvmid : old.vmid = row.vmid := Table.key_of_get hget
  let new := old.moved sys.shared.now target (mutate sys.shared.now)
  obtain ⟨⟨hnew, hnewProfile, hcreated⟩, hnewState⟩ := hmutate sys.shared.now
    { old with state := target, stateSince := sys.shared.now, updatedAt := sys.shared.now }
  have himm : Store.enforceImmutable old new :=
    decide_eq_true ⟨hnew.symm, hnewProfile.symm, hcreated.symm⟩
  have hnewVmid : new.vmid = row.vmid := hnew.trans hvmid
  obtain ⟨left, hleft⟩ := Multiset.exists_cons_of_mem hmark
  refine ⟨_, new, left, exec_cas hget (by simp [hstate]) himm, ?_, fun task htask hholds ↦ ?_⟩
  · rw [hleft, Multiset.singleton_add]
  · have hholdsNew : task.holds = some (new.vmid, new.state) := by
      rw [hholds, hnewVmid, show new.state = target from hnewState]
    obtain ⟨left', hleft', haccounted⟩ := @accounted_of_take new settings sys idle task
      (sys.shared.commit row.vmid (sys.shared.store.put new)) h hot (by rwa [hnewVmid])
      (hnewProfile.trans hprofile) rfl rfl htask hholdsNew
    rw [hleft, hnewVmid, Multiset.singleton_add, Multiset.cons_inj_right] at hleft'
    rwa [hleft']

theorem Listed.of_cons {row : Store.VM} {left : Multiset Mark}
    (h : Listed ({(row.vmid, idleState hot)} + left) (row :: rows) hot) : Listed left rows hot := by
  obtain ⟨hnodup, hidle⟩ := h
  rw [List.map_cons, List.nodup_cons] at hnodup
  refine ⟨hnodup.2, fun other hother ↦ ?_⟩
  rcases Multiset.mem_add.mp (hidle other (List.mem_cons_of_mem _ hother)) with hsame | hleft
  · have hvmid : other.vmid = row.vmid := congrArg Prod.fst (Multiset.mem_singleton.mp hsame)
    exact absurd (List.mem_map.mpr ⟨other, hother, hvmid⟩) hnodup.1
  · exact hleft

theorem listed_byCreation {sys : Sys} (h : Accounted settings sys idle) (hot : Bool) :
    Listed idle (byCreation (sys.shared.store.listByProfileAndStates settings.name [idleState hot])) hot ∧
      (byCreation (sys.shared.store.listByProfileAndStates settings.name [idleState hot])).length =
        idle.countP (·.2 = idleState hot) := by
  have hperm : (byCreation (sys.shared.store.listByProfileAndStates settings.name [idleState hot])).Perm
      (sys.shared.store.rows.filter fun row ↦ row.profile = settings.name ∧ row.state = idleState hot) := by
    refine (List.perm_insertionSort _ _).trans (List.Perm.of_eq ?_)
    simp [Store.listByProfileAndStates]
  refine ⟨⟨?_, fun row hrow ↦ ?_⟩, hperm.length_eq.trans (h.count hot)⟩
  · rw [(hperm.map Store.VM.vmid).nodup_iff]
    exact (Table.nodup_map_key_rows _).sublist (List.filter_sublist.map _)
  · obtain ⟨hin, hprofile, hstate⟩ : row ∈ sys.shared.store.rows ∧ row.profile = settings.name ∧
        row.state = idleState hot := by
      simpa using hperm.mem_iff.mp hrow
    have hmark : (row.vmid, idleState hot) ∈ marks settings.name sys.shared.store :=
      mem_marks.mpr ⟨row, Table.mem_rows.mp hin, hprofile, hstate⟩
    rw [h.marks_eq, Multiset.mem_add] at hmark
    exact hmark.resolve_right fun hflight ↦ inFlight_state hflight hot rfl

theorem Listed.take (h : Listed idle rows hot) (n : ℕ) : Listed idle (rows.take n) hot :=
  ⟨h.1.sublist ((List.take_sublist n rows).map _), fun row hrow ↦ h.2 row (List.mem_of_mem_take hrow)⟩

theorem PassBooks.launch {phase' : Phase} {s' : Shared} {task : Task} {takes left : Multiset Mark}
    (h : PassBooks settings plan start goal fin phase w (takes + left))
    (haccounted : Accounted settings ⟨s', w.sys.threads ++ [task]⟩ left)
    (hdue : ∀ hot, task.due hot + phase'.due hot = phase.due hot)
    (hcut : ∀ hot, takes.countP (·.2 = idleState hot) + (phase'.taken hot + phase'.cut plan hot) =
      phase.taken hot + phase.cut plan hot)
    (hvalid : phase'.Valid plan start left) :
    PassBooks settings plan start goal fin phase'
      ⟨⟨s', w.sys.threads ++ [task]⟩, phase'.script settings goal fin⟩ left := by
  have hthreads (hot : Bool) :
      dueIn hot (w.sys.threads ++ [task]) = dueIn hot w.sys.threads + task.due hot := by
    rw [dueIn_append, dueIn_singleton]
  refine ⟨haccounted, rfl, fun hot ↦ ?_, fun hot ↦ ?_, hvalid⟩
  · have hbalance := h.balance hot
    have hdueHot := hdue hot
    have hcutHot := hcut hot
    rw [Multiset.countP_add] at hbalance
    rw [hthreads]
    omega
  · have hbound := h.bound hot
    have hdueHot := hdue hot
    rw [hthreads]
    omega

/-- The pass goes on and has changed no row. -/
theorem PassBooks.pass {phase' : Phase} {s' : Shared}
    (h : PassBooks settings plan start goal fin phase w idle)
    (hstore : s'.store = w.sys.shared.store) (hqueue : s'.destroyQueue = w.sys.shared.destroyQueue)
    (hdue : ∀ hot, phase'.due hot = phase.due hot)
    (hcut : ∀ hot, phase'.taken hot + phase'.cut plan hot = phase.taken hot + phase.cut plan hot)
    (hvalid : phase'.Valid plan start idle) :
    PassBooks settings plan start goal fin phase' ⟨⟨s', w.sys.threads ++ []⟩, phase'.script settings goal fin⟩
      idle := by
  rw [List.append_nil]
  refine ⟨h.accounted.of_store hstore hqueue, rfl, fun hot ↦ ?_, fun hot ↦ ?_, hvalid⟩
  · rw [hdue, hcut]
    exact h.balance hot
  · rw [hdue]
    exact h.bound hot

theorem PassBooks.spawn {phase' : Phase} {kind : Store.PoolKind} {poweredOn : Bool}
    (h : PassBooks settings plan start goal fin phase w idle)
    (hscript : w.script = .kickClone settings.name kind poweredOn :: phase'.script settings goal fin)
    (hstep : passStep cfg w (.pass reply) = some w')
    (hdue : ∀ hot, (if poweredOn = hot then 1 else 0) + phase'.due hot = phase.due hot)
    (hcut : ∀ hot, phase'.taken hot + phase'.cut plan hot = phase.taken hot + phase.cut plan hot)
    (hvalid : phase'.Valid plan start idle) : PassBooks settings plan start goal fin phase' w' idle := by
  simp only [passStep, hscript, World.advance, Option.some.injEq] at hstep
  subst hstep
  rw [← zero_add idle] at h
  refine h.launch ?_ hdue (fun hot ↦ ?_) hvalid
  · have haccounted := h.accounted
    rw [zero_add] at haccounted
    exact accounted_of_spawn haccounted rfl rfl
  · rw [Multiset.countP_zero, Nat.zero_add]
    exact hcut hot

/-- The pass starts its clones, the hot ones first. -/
theorem PassBooks.clone {a b : ℕ} (h : PassBooks settings plan start goal fin (.cloning a b) w idle)
    (hstep : passStep cfg w (.pass reply) = some w') (hsome : a + b ≠ 0) :
    ∃ a' b', PassBooks settings plan start goal fin (.cloning a' b') w' idle := by
  cases a with
  | succ a =>
    refine ⟨a, b, h.spawn h.script_eq hstep (fun hot ↦ ?_) (fun hot ↦ ?_) trivial⟩
    · cases hot
      · exact Nat.zero_add b
      · exact Nat.add_comm 1 a
    · cases hot <;> rfl
  | zero =>
    cases b with
    | zero => exact absurd rfl hsome
    | succ b =>
      refine ⟨0, b, h.spawn h.script_eq hstep (fun hot ↦ ?_) (fun hot ↦ ?_) trivial⟩
      · cases hot
        · exact Nat.add_comm 1 b
        · rfl
      · cases hot <;> rfl

theorem PassBooks.cloned (h : PassBooks settings plan start goal fin (.cloning 0 0) w idle) :
    PassBooks settings plan start goal fin (.counting true) w idle :=
  ⟨h.accounted, h.script_eq, fun hot ↦ by cases hot <;> exact h.balance _,
    fun hot ↦ by cases hot <;> exact h.bound _, trivial⟩

/-- What a shrink step counts is over the goal by the planned excess. -/
theorem PassBooks.excess (h : PassBooks settings plan start goal fin (.counting hot) w idle)
    (hfits : plan.Fits start goal) :
    (idle.countP (·.2 = idleState hot) : ℤ) ≤ goal hot ∧ plan.excess hot = 0 ∨
      goal hot < idle.countP (·.2 = idleState hot) ∧
        (idle.countP (·.2 = idleState hot) - goal hot).toNat = plan.excess hot ∧ plan.gains hot = 0 ∧
        plan.taken hot + plan.excess hot ≤ start hot := by
  have hbalance := h.balance hot
  have hbound := h.bound hot
  have hgoal := hfits.goal_nonneg hot
  have hdue : (Phase.counting hot).due hot = 0 := by cases hot <;> rfl
  have htaken : (Phase.counting hot).taken hot = 0 := by cases hot <;> rfl
  have hcut : (Phase.counting hot).cut plan hot = plan.excess hot := by cases hot <;> rfl
  rw [hdue, htaken, hcut] at hbalance
  rw [hdue] at hbound
  rcases hfits.shrinks hot with ⟨hnone, hroom⟩ | ⟨hgains, hstart⟩ <;> omega

/-- The shrink step of a kind ends, with nothing left to destroy. -/
theorem PassBooks.shrunk (h : PassBooks settings plan start goal fin phase w idle)
    (hfin : ∀ task ∈ fin, task.closes) (hdue : ∀ other, phase.due other = 0)
    (hcut : ∀ other, phase.taken other + phase.cut plan other =
      if hot ∧ other = false then plan.excess false else 0) :
    ∃ phase', PassBooks settings plan start goal fin phase'
      ⟨⟨w.sys.shared, w.sys.threads ++ []⟩, Phase.afterShrink settings goal fin hot⟩ idle := by
  cases hot with
  | true =>
    refine ⟨.counting false, h.pass rfl rfl (fun other ↦ (hdue other).symm) (fun other ↦ ?_) trivial⟩
    rw [hcut]
    cases other
    · exact Nat.zero_add _
    · rfl
  | false =>
    refine ⟨.closing fin, h.pass rfl rfl (fun other ↦ (hdue other).symm) (fun other ↦ ?_) hfin⟩
    rw [hcut]
    rfl

theorem sweepLoop_closes (h : (Task.sweepLoop rows).failed = false) : (Task.sweepLoop rows).closes := by
  cases rows with
  | nil => trivial
  | cons row rows => cases h

/-- A task of the end of a pass goes on as one, unless it has found a stuck row. -/
theorem closes_exec {s s' : Shared} {task : Task} {next : List Task} (htask : task.closes)
    (hsweep : (∀ other ∈ next, other.failed = false) ∨ s.store.listByState stuckStates = [])
    (hexec : (task.action cfg reply).exec cfg s = some (s', next)) :
    s' = s ∧ ∀ other ∈ next, other.closes ∧ other.inPass = true := by
  cases task with
  | sweepStuckRows =>
    cases hexec
    refine ⟨rfl, fun other hother ↦ ?_⟩
    rw [List.mem_singleton.mp hother]
    exact ⟨trivial, rfl⟩
  | sweepList cutoff =>
    cases hexec
    refine ⟨rfl, fun other hother ↦ ?_⟩
    rw [List.mem_singleton.mp hother]
    rcases hsweep with hgood | hnone
    · exact ⟨sweepLoop_closes (hgood _ List.mem_cons_self), rfl⟩
    · rw [hnone]
      exact ⟨trivial, rfl⟩
  | sweepLoop rows =>
    cases rows with
    | nil =>
      cases hexec
      exact ⟨rfl, fun other hother ↦ absurd hother List.not_mem_nil⟩
    | cons row rows => exact htask.elim
  | recycleOldVMs profile maxAge =>
    have hage : maxAge ≤ 0 := htask
    simp only [Task.action, idleAction, if_pos hage] at hexec
    cases hexec
    exact ⟨rfl, fun other hother ↦ absurd hother List.not_mem_nil⟩
  | _ => exact htask.elim

theorem closes_inPass {task : Task} (h : task.closes) : task.inPass = true := by
  cases task with
  | sweepStuckRows | sweepList | sweepLoop | recycleOldVMs => rfl
  | _ => exact h.elim

theorem filter_closes {next : List Task} (h : ∀ other ∈ next, other.closes ∧ other.inPass) :
    next.filter Task.inPass = next ∧ (next.filter fun other ↦ !other.inPass) = [] := by
  refine ⟨List.filter_eq_self.mpr fun other hother ↦ (h other hother).2, List.filter_eq_nil_iff.mpr ?_⟩
  intro other hother
  simp [(h other hother).2]

section Pass

variable (hsucceeds : w.succeeds cfg (.pass reply) = true)
  (hstep : passStep cfg w (.pass reply) = some w')

include hsucceeds hstep

theorem PassBooks.promote {row : Store.VM} {a b : ℕ}
    (h : PassBooks settings plan start goal fin (.promoting (row :: rows) a b) w idle) :
    ∃ idle', PassBooks settings plan start goal fin (.promoting rows a b) w' idle' := by
  obtain ⟨hgood, s', next, hexec, rfl⟩ := passStep_inPass h.script_eq rfl hsucceeds hstep
  obtain ⟨⟨hslot, _⟩, _⟩ := (succeeds_iff hexec).mp hgood
  cases reply with
  | ok =>
    have hmutate : KeepsState fun _ row ↦ { row with poolKind := .hot } := fun _ _ ↦ ⟨⟨rfl, rfl, rfl⟩, rfl⟩
    obtain ⟨s'', new, left, htaken, rfl, haccounted⟩ := @exec_take cfg settings idle false w.sys row .booting _
      h.accounted (h.valid.2 row List.mem_cons_self) hmutate fun gen moved ↦
        if moved.isSome then [.bootStart { row := row, node := row.node, gen := gen }, .promoteLoop rows]
        else [.promoteLoop rows]
    cases htaken.symm.trans hexec
    refine ⟨left, h.launch (haccounted _ trivial rfl) (fun hot ↦ ?_) (fun hot ↦ ?_) h.valid.of_cons⟩
    · cases hot
      · exact Nat.zero_add _
      · change 1 + (rows.length + a) = rows.length + 1 + a
        omega
    · rw [countP_idle]
      cases hot
      · change 1 + (rows.length + plan.excess false) = rows.length + 1 + plan.excess false
        omega
      · exact Nat.zero_add _
  | _ => cases hslot

theorem PassBooks.list {promote a b : ℕ}
    (h : PassBooks settings plan start goal fin (.listing promote a b) w idle)
    (hname : settings.name ≠ "") :
    ∃ rows, PassBooks settings plan start goal fin (.promoting rows a b) w' idle := by
  obtain ⟨_, s', next, hexec, rfl⟩ := passStep_inPass h.script_eq rfl hsucceeds hstep
  obtain ⟨hlisted, hlength⟩ := listed_byCreation h.accounted false
  simp only [Task.action, promoteNAction, if_neg hname] at hexec
  cases hexec
  have hrows : ((byCreation (w.sys.shared.store.listByProfileAndStates settings.name [.warm])).take
      promote).length = promote := by
    rw [List.length_take]
    exact Nat.min_eq_left (le_of_le_of_eq h.valid hlength.symm)
  refine ⟨_, h.pass rfl rfl (fun hot ↦ ?_) (fun hot ↦ ?_) (hlisted.take promote)⟩
  · cases hot
    · rfl
    · exact congrArg (· + a) hrows
  · cases hot
    · exact congrArg (· + plan.excess false) hrows
    · rfl

theorem PassBooks.promoted {a b : ℕ} (h : PassBooks settings plan start goal fin (.promoting [] a b) w idle) :
    PassBooks settings plan start goal fin (.cloning a b) w' idle := by
  obtain ⟨_, s', next, hexec, rfl⟩ := passStep_inPass h.script_eq rfl hsucceeds hstep
  cases hexec
  refine h.pass rfl rfl (fun hot ↦ ?_) (fun hot ↦ ?_) trivial
  · cases hot
    · rfl
    · exact (Nat.zero_add a).symm
  · cases hot <;> rfl

theorem PassBooks.count (h : PassBooks settings plan start goal fin (.counting hot) w idle)
    (hfits : plan.Fits start goal) (hfin : ∀ task ∈ fin, task.closes) :
    ∃ phase', PassBooks settings plan start goal fin phase' w' idle := by
  obtain ⟨_, s', next, hexec, rfl⟩ := passStep_inPass h.script_eq rfl hsucceeds hstep
  simp only [Task.action, idleAction, Action.exec, h.accounted.count] at hexec
  rcases h.excess hfits with ⟨hle, hnone⟩ | ⟨hlt, hexcess, hgains, hstart⟩
  · rw [if_pos hle] at hexec
    cases hexec
    refine h.shrunk hfin (fun other ↦ ?_) (fun other ↦ ?_)
    · cases other <;> rfl
    · cases hot <;> cases other <;> simp [Phase.taken, Phase.cut, hnone]
  · rw [if_neg (not_le.mpr hlt), hexcess] at hexec
    cases hexec
    refine ⟨.shrinking hot (plan.excess hot) none, h.pass rfl rfl (fun other ↦ ?_) (fun other ↦ ?_)
      ⟨hgains, hstart⟩⟩
    · cases other <;> rfl
    · cases hot <;> cases other <;> rfl

theorem PassBooks.listExcess {excess : ℕ}
    (h : PassBooks settings plan start goal fin (.shrinking hot excess none) w idle) :
    ∃ rows, PassBooks settings plan start goal fin (.shrinking hot excess (some rows)) w' idle := by
  obtain ⟨_, s', next, hexec, rfl⟩ := passStep_inPass h.script_eq rfl hsucceeds hstep
  obtain ⟨hlisted, hlength⟩ := listed_byCreation h.accounted hot
  cases hexec
  refine ⟨_, h.pass rfl rfl (fun other ↦ ?_) (fun other ↦ ?_) ⟨hlisted, ?_⟩⟩
  · cases other <;> rfl
  · cases hot <;> cases other <;> rfl
  · obtain ⟨hgains, hstart⟩ := h.valid
    have hbalance := h.balance hot
    have hbound := h.bound hot
    have htaken : (Phase.shrinking hot excess none).taken hot = 0 := by cases hot <;> rfl
    have hcut : (Phase.shrinking hot excess none).cut plan hot = excess := by cases hot <;> rfl
    rw [htaken, hcut] at hbalance
    rw [hlength]
    omega

theorem PassBooks.shrink {excess : ℕ} {row : Store.VM}
    (h : PassBooks settings plan start goal fin (.shrinking hot (excess + 1) (some (row :: rows))) w idle) :
    ∃ idle', PassBooks settings plan start goal fin (.shrinking hot excess (some rows)) w' idle' := by
  obtain ⟨_, s', next, hexec, rfl⟩ := passStep_inPass h.script_eq rfl hsucceeds hstep
  obtain ⟨hlisted, hlength⟩ := h.valid
  have hmutate : KeepsState restamp := fun _ _ ↦ ⟨⟨rfl, rfl, rfl⟩, rfl⟩
  obtain ⟨s'', new, left, htaken, rfl, haccounted⟩ := @exec_take cfg settings idle hot w.sys row .draining _
    h.accounted (hlisted.2 row List.mem_cons_self) hmutate fun gen moved ↦
      if moved.isSome then
        [.destroyAsync (rowRequest row settings.name gen),
          .shrinkLoop settings.name (idleState hot) excess rows]
      else [.shrinkLoop settings.name (idleState hot) (excess + 1) rows]
  cases htaken.symm.trans hexec
  refine ⟨left, h.launch (haccounted _ trivial rfl) (fun other ↦ ?_) (fun other ↦ ?_)
    ⟨hlisted.of_cons, Nat.le_of_succ_le_succ hlength⟩⟩
  · cases other <;> rfl
  · rw [countP_idle]
    cases hot <;> cases other <;> simp [Phase.taken, Phase.cut, Nat.add_comm]

theorem PassBooks.shrinkEnd (h : PassBooks settings plan start goal fin (.shrinking hot 0 (some rows)) w idle)
    (hfin : ∀ task ∈ fin, task.closes) :
    ∃ phase', PassBooks settings plan start goal fin phase' w' idle := by
  obtain ⟨_, s', next, hexec, rfl⟩ := passStep_inPass h.script_eq rfl hsucceeds hstep
  cases hexec
  refine h.shrunk hfin (fun other ↦ ?_) (fun other ↦ ?_)
  · cases other <;> rfl
  · cases hot <;> cases other <;> simp [Phase.taken, Phase.cut]

/-- The pass sweeps and ages out, and finds nothing. -/
theorem PassBooks.close {task : Task} {tasks : List Task}
    (h : PassBooks settings plan start goal fin (.closing (task :: tasks)) w idle) :
    ∃ phase', PassBooks settings plan start goal fin phase' w' idle := by
  have hcloses : task.closes := h.valid task List.mem_cons_self
  obtain ⟨hgood, s', next, hexec, rfl⟩ := passStep_inPass h.script_eq (closes_inPass hcloses) hsucceeds hstep
  obtain ⟨rfl, hnext⟩ := closes_exec hcloses (.inl ((succeeds_iff hexec).mp hgood).2) hexec
  obtain ⟨hstays, hnone⟩ := filter_closes hnext
  rw [hstays, hnone]
  refine ⟨.closing (next ++ tasks), h.pass rfl rfl (fun _ ↦ rfl) (fun _ ↦ rfl) fun other hother ↦ ?_⟩
  rcases List.mem_append.mp hother with hnew | hold
  · exact (hnext other hnew).1
  · exact h.valid other (List.mem_cons_of_mem _ hold)

theorem PassBooks.of_pass (h : PassBooks settings plan start goal fin phase w idle)
    (hname : settings.name ≠ "") (hfits : plan.Fits start goal) (hfin : ∀ task ∈ fin, task.closes) :
    ∃ phase' idle', PassBooks settings plan start goal fin phase' w' idle' := by
  cases phase with
  | listing promote a b =>
    obtain ⟨rows, hbooks⟩ := h.list hsucceeds hstep hname
    exact ⟨_, _, hbooks⟩
  | promoting rows a b =>
    cases rows with
    | nil => exact ⟨_, _, h.promoted hsucceeds hstep⟩
    | cons row rows => exact ⟨_, h.promote hsucceeds hstep⟩
  | cloning a b =>
    by_cases hnone : a + b = 0
    · obtain ⟨rfl, rfl⟩ : a = 0 ∧ b = 0 := by omega
      obtain ⟨phase', hbooks⟩ := h.cloned.count hsucceeds hstep hfits hfin
      exact ⟨_, _, hbooks⟩
    · obtain ⟨a', b', hbooks⟩ := h.clone hstep hnone
      exact ⟨_, _, hbooks⟩
  | counting hot =>
    obtain ⟨phase', hbooks⟩ := h.count hsucceeds hstep hfits hfin
    exact ⟨_, _, hbooks⟩
  | shrinking hot excess rows =>
    cases rows with
    | none =>
      obtain ⟨rows, hbooks⟩ := h.listExcess hsucceeds hstep
      exact ⟨_, _, hbooks⟩
    | some rows =>
      cases excess with
      | zero =>
        obtain ⟨phase', hbooks⟩ := h.shrinkEnd hsucceeds hstep hfin
        exact ⟨_, _, hbooks⟩
      | succ excess =>
        cases rows with
        | nil => exact absurd h.valid.2 (Nat.not_succ_le_zero _)
        | cons row rows => exact ⟨_, h.shrink hsucceeds hstep⟩
  | closing tasks =>
    cases tasks with
    | nil =>
      rw [passStep, h.script_eq] at hstep
      cases hstep
    | cons task tasks =>
      obtain ⟨phase', hbooks⟩ := h.close hsucceeds hstep
      exact ⟨_, _, hbooks⟩

end Pass

/-! ## The books along a pass -/

theorem PassBooks.of_step (h : PassBooks settings plan start goal fin phase w idle)
    (hsettings : cfg.profileOf settings.name = some settings) (hname : settings.name ≠ "")
    (hfits : plan.Fits start goal) (hfin : ∀ task ∈ fin, task.closes) (hsucceeds : w.succeeds cfg act)
    (hstep : passStep cfg w act = some w') :
    ∃ phase' idle', PassBooks settings plan start goal fin phase' w' idle' := by
  by_cases hact : ∃ reply, act = .pass reply
  · obtain ⟨reply, rfl⟩ := hact
    exact h.of_pass hsucceeds hstep hname hfits hfin
  · exact ⟨phase, h.of_operation hsettings hname (fun reply hreply ↦ hact ⟨reply, hreply⟩) hsucceeds hstep⟩

theorem books_of_run (hsettings : cfg.profileOf settings.name = some settings) (hname : settings.name ≠ "")
    (hfits : plan.Fits start goal) (hfin : ∀ task ∈ fin, task.closes) {acts : List PassAct}
    (h : PassBooks settings plan start goal fin phase w idle) (hrun : run (passStep cfg) w acts = some w')
    (hgood : Along (passStep cfg) (fun w act _ ↦ w.succeeds cfg act) w acts) :
    ∃ phase' idle', PassBooks settings plan start goal fin phase' w' idle' := by
  refine Transition.invariant_of_along
    (fun w ↦ ∃ phase idle, PassBooks settings plan start goal fin phase w idle)
    (fun w act w' hbooks hsucceeds hstep ↦ ?_) ⟨phase, idle, h⟩ hgood hrun
  obtain ⟨phase, idle, hbooks⟩ := hbooks
  exact hbooks.of_step hsettings hname hfits hfin hsucceeds hstep

end ScalesetProxmox.Pool
