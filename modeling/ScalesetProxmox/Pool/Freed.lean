import ScalesetProxmox.Pool.Deferral
import ScalesetProxmox.Pool.Guests

/-!
# Freed capacity and the VMs that held it

A parked handle stands for memory that its victims give back when their destroys have landed. Nothing
ties the one to the other: the handle can be consumed as soon as it is parked. It is consumed over gone
victims in the runs in which every destroy lands within some time `d` of the parking and no clone worker
looks for a handle that is younger.

A VM is a VMID with the generation of the row it was cloned or adopted for. The proof rests on a VM that
is gone staying gone, since no worker is left that could create it.
-/

namespace ScalesetProxmox.Pool.Demand

open Store (VMID Time)
open Transition

variable {cfg : Config} {c c' : Core} {answer : Answer} {agent : Agent} {agents : List Agent}
  {threads : List Thread} {sys sys' : Sys} {act : Act} {labels : List Act} {key : VMID × ℕ} {reply : Reply}
  {pool : Shared} {next : List Task} {d : ℕ} {p : Parked}

/-! ## The VM that a clone worker will create -/

/-- The VM that the worker has yet to create. -/
def creates : Task → Option (VMID × ℕ)
  | .cloneIpam prep | .cloneIssue prep => some (prep.vmid, prep.gen)
  | _ => none

/-- The VM that the worker will create after one more step at least. -/
def createsLater : Task → Option (VMID × ℕ)
  | .cloneIpam prep => some (prep.vmid, prep.gen)
  | _ => none

/-- The worker is about to insert its row. -/
def insertsRow : Task → Bool
  | .cloneInsert _ _ _ _ _ => true
  | _ => false

theorem creates_of_createsLater {task : Task} (h : createsLater task = some key) :
    creates task = some key := by
  cases task <;> first | exact h | cases h

theorem creates_of_not_cloning {task : Task} (h : cloning task = false) : creates task = none := by
  cases task <;> first | rfl | cases h

/-- A worker that will create a VM comes from one that would, or has just inserted its row. -/
theorem creates_next {cfg : Pool.Config} {s s' : Shared} {task : Task} (key : VMID × ℕ) :
    (task.action cfg reply).Next cfg s s' fun next ↦
      next.countP (fun other ↦ creates other = some key) ≤
        (if createsLater task = some key then 1 else 0) +
          if insertsRow task ∧ key.2 = s.gens key.1 + 1 ∧ s'.gens key.1 = key.2 then 1 else 0 := by
  cases hcloning : cloning task || kicks task with
  | false =>
    -- what is no clone starts none
    refine Action.Next.imp clones_next fun next hnext ↦ ?_
    rw [hcloning] at hnext
    refine (List.countP_eq_zero.mpr fun other hother ↦ ?_).le.trans (Nat.zero_le _)
    have hno := Bool.eq_false_iff.mpr (List.countP_eq_zero.mp (Nat.le_zero.mp hnext.1) other hother)
    simp [creates_of_not_cloning hno]
  | true =>
    cases hkicks : kicks task with
    | true =>
      cases task with
      | kickClone profile kind poweredOn =>
        refine Action.Next.imp (P := fun next ↦ next.countP (fun other ↦ creates other = some key) = 0) ?_
          fun _ hnone ↦ hnone.le.trans (Nat.zero_le _)
        dsimp
        split <;> rfl
      | _ => cases hkicks
    | false =>
      rw [hkicks, Bool.or_false] at hcloning
      refine Action.Next.imp (cloneNext_of_cloning hcloning) fun next hnext ↦ ?_
      cases hnext with
      | @inserted _ _ _ _ v prep hvmid hnew hgens =>
        subst hvmid
        by_cases hkey : key = (prep.vmid, prep.gen)
        · subst hkey
          simp [creates, createsLater, insertsRow, hnew, hgens]
        · simp [creates, createsLater, Ne.symm hkey]
      | updated hnext =>
        refine (List.countP_eq_zero.mpr fun other hother ↦ ?_).le.trans (Nat.zero_le _)
        simp [creates_of_not_cloning (hnext other hother)]
      | _ => simp [creates, createsLater]

/-- How many workers have yet to create the VM. -/
def creators (sys : Sys) (key : VMID × ℕ) : ℕ := sys.threads.countP fun t ↦ creates t.task = some key

/-! ## What a step does to the guests and to those that create them -/

/-- The generations, the workers and the guests before and after a step. -/
structure Evolved (sys sys' : Sys) : Prop where
  gens_le : ∀ v, sys.core.pool.gens v ≤ sys'.core.pool.gens v
  creators_le : ∀ key : VMID × ℕ, creators sys' key ≤ creators sys key +
    if key.2 = sys.core.pool.gens key.1 + 1 ∧ sys'.core.pool.gens key.1 = key.2 then 1 else 0
  guests : ∀ v guest, sys'.core.pool.cluster.get v = some guest → guest.gen ≠ 0 →
    -- it was there, it has been adopted, or its worker has created it
    (∃ before, sys.core.pool.cluster.get v = some before ∧ before.gen = guest.gen) ∨
    (guest.gen = sys.core.pool.gens v + 1 ∧ sys'.core.pool.gens v = guest.gen ∧
      creators sys' (v, guest.gen) ≤ creators sys (v, guest.gen)) ∨
    creators sys' (v, guest.gen) + 1 ≤ creators sys (v, guest.gen)

theorem creators_fire {i : ℕ} {t : Thread} {agents : List Agent} (hthread : sys.threads[i]? = some t)
    (hexec : (t.task.action cfg.toConfig reply).exec cfg.toConfig sys.core.pool = some (pool, next))
    (key : VMID × ℕ) :
    creators ⟨{ sys.core with pool := pool }, sys.threads.eraseIdx i ++ t.after cfg.toConfig next, agents⟩ key +
        (if creates t.task = some key then 1 else 0) ≤
      creators sys key + (if createsLater t.task = some key then 1 else 0) +
        if insertsRow t.task = true ∧ key.2 = sys.core.pool.gens key.1 + 1 ∧ pool.gens key.1 = key.2
          then 1 else 0 := by
  have hnext := exec_next hexec (creates_next key)
  have hcount := countP_fire (fun t ↦ decide (creates t.task = some key)) hthread (t.after cfg.toConfig next)
  have hafter := @countP_after cfg (fun other ↦ decide (creates other = some key)) t next
  simp only [decide_eq_true_eq] at hcount
  simp only [creators]
  omega

theorem gens_le_of_exec {action : Action} {s s' : Shared} (h : action.exec cfg.toConfig s = some (s', next))
    (v : VMID) : s.gens v ≤ s'.gens v := by
  rw [exec_gens h v]
  split <;> omega

/-- An adoption that succeeds starts a generation. -/
theorem gens_of_adoptInsert {row : Store.VM} {recycle : Bool} {rest : List Provisioner.VM}
    {runners : Gh.Runners} {s s' : Shared}
    (h : ((Task.adoptInsert row recycle rest runners).action cfg.toConfig reply).exec cfg.toConfig s =
      some (s', next)) : s'.cluster = s.cluster ∨ s'.gens row.vmid = s.gens row.vmid + 1 := by
  have hgens := exec_gens h row.vmid
  cases outcome_of_exec h with
  | inserted hnew =>
    have hrow : ((s.commit row.vmid (s.store.put (row.stampInsert s.now))).afterInsert row.vmid
        true).store.get row.vmid = some (row.stampInsert s.now) := by
      rw [(afterInsert_eq _ _ _).1]
      exact Table.get_put_self s.store (row.stampInsert s.now)
    rw [hnew, hrow] at hgens
    exact .inr hgens
  | notInserted => exact .inl rfl

theorem evolved_fire {i : ℕ} {t : Thread} {agents : List Agent} (hthread : sys.threads[i]? = some t)
    (hexec : (t.task.action cfg.toConfig reply).exec cfg.toConfig sys.core.pool = some (pool, next)) :
    Evolved sys ⟨{ sys.core with pool := pool }, sys.threads.eraseIdx i ++ t.after cfg.toConfig next, agents⟩ := by
  have hcreators := @creators_fire cfg sys reply pool next i t agents hthread hexec
  refine ⟨gens_le_of_exec hexec, fun key ↦ ?_, fun v guest hguest hgen ↦ ?_⟩
  · have hle := hcreators key
    have hnew : (if insertsRow t.task = true ∧ key.2 = sys.core.pool.gens key.1 + 1 ∧ pool.gens key.1 = key.2
        then 1 else 0) ≤ if key.2 = sys.core.pool.gens key.1 + 1 ∧ pool.gens key.1 = key.2 then 1 else 0 := by
      split_ifs with hinserts hkey hkey
      · exact le_rfl
      · exact absurd hinserts.2 hkey
      all_goals exact Nat.zero_le _
    by_cases hlater : createsLater t.task = some key
    · rw [if_pos hlater, if_pos (creates_of_createsLater hlater)] at hle
      dsimp only at hle ⊢
      omega
    · rw [if_neg hlater] at hle
      dsimp only at hle ⊢
      omega
  · rcases exec_guest hexec v with hsame | hmoved
    · exact .inl ⟨guest, hsame ▸ hguest, rfl⟩
    · have hmove := guestMove_of_guestStep hmoved
      dsimp only at hguest
      rw [hguest] at hmove
      have hle := hcreators (v, guest.gen)
      generalize hbefore : sys.core.pool.cluster.get v = before at hmove
      generalize htask : t.task = task at hmove hle hexec
      cases hmove with
      | @adopt row recycle rest runners old hrow hnew =>
        subst hrow
        rcases gens_of_adoptInsert hexec with hsame | hgens
        · have heq := hguest.symm.trans ((congrArg (fun cluster ↦ cluster.get row.vmid) hsame).trans hbefore)
          exact .inl ⟨old, rfl, (congrArg Provisioner.Guest.gen (Option.some.inj heq)).symm⟩
        · refine .inr (.inl ⟨hgens, rfl, ?_⟩)
          simpa [creates, createsLater, insertsRow] using hle
      | clone hprep =>
        subst hprep
        refine .inr (.inr ?_)
        simpa [creates, createsLater, insertsRow] using hle
      | _ => exact .inl ⟨_, rfl, rfl⟩

theorem evolved_of_eq (hcluster : sys'.core.pool.cluster = sys.core.pool.cluster)
    (hgens : sys'.core.pool.gens = sys.core.pool.gens)
    (hcreators : ∀ key, creators sys' key ≤ creators sys key) : Evolved sys sys' where
  gens_le v := by rw [hgens]
  creators_le key := (hcreators key).trans (Nat.le_add_right _ _)
  guests v guest hguest _ := .inl ⟨guest, hcluster ▸ hguest, rfl⟩

/-- A victim's row moves; its guest stays where it is for now. -/
theorem pool_advanced (h : Advanced cfg c answer agent c' agents threads) :
    c'.pool.cluster = c.pool.cluster ∧ c'.pool.gens = c.pool.gens := by
  cases h with
  | committed hexec =>
    refine ⟨by cases outcome_of_exec hexec; all_goals rfl, funext fun u ↦ ?_⟩
    rw [exec_gens hexec u]
    rcases exec_row hexec u with hsame | ⟨-, row, hold, -⟩
    · rw [hsame]
      cases c.pool.store.get u <;> rfl
    · rw [hold]
      rfl
  | _ => exact ⟨rfl, rfl⟩

theorem cloning_of_creates (task : Task) (h : decide (creates task = some key)) :
    cloning task = true := by
  by_contra hnot
  rw [creates_of_not_cloning (Bool.not_eq_true _ ▸ hnot)] at h
  cases h

theorem evolved_outside {act : Pool.Act} {tasks : List Task} (hfrom : fromOutside act)
    (hpool : Pool.step cfg.toConfig ⟨sys.core.pool, []⟩ act = some ⟨pool, tasks⟩) :
    Evolved sys ⟨{ sys.core with pool := pool }, sys.threads ++ tasks.map fun task ↦ { task := task },
      sys.agents⟩ := by
  have hgens : pool.gens = sys.core.pool.gens := by
    cases stepped_of_step hpool with
    | fire | crash => cases hfrom
    | call => rfl
    | dispatch => rfl
    | outside houtside => exact houtside.store_eq.2.1
  refine ⟨fun v ↦ (congrFun hgens v).ge, fun key ↦ ?_, fun v guest hguest hgen ↦ .inl ?_⟩
  · have hnone := countP_outside (@cloning_of_creates key) hfrom hpool
    rw [creators, List.countP_append, hnone]
    exact Nat.le_add_right _ _
  · rcases step_guest hpool v with hsame | ⟨task, hmoving, -⟩ | hevent
    · exact ⟨guest, hsame ▸ hguest, rfl⟩
    · cases act with
      | fire => cases hfrom
      | _ => cases hmoving
    · dsimp only at hguest hevent
      rw [hguest] at hevent
      generalize sys.core.pool.cluster.get v = before at hevent
      cases hevent with
      | create => exact absurd rfl hgen
      | setPower | runJob => exact ⟨_, rfl, rfl⟩

theorem evolved_of_step (hstep : step cfg sys act = some sys') : Evolved sys sys' := by
  cases moved_of_step hstep with
  | fire hthread _ hexec => exact evolved_fire hthread hexec
  | @settle i task w effect todo hthread =>
    refine evolved_of_eq rfl rfl fun key ↦ ?_
    have hcount := countP_fire (fun t ↦ decide (creates t.task = some key)) hthread [⟨task, some w, todo⟩]
    simp only [creators, List.countP_singleton] at hcount ⊢
    omega
  | advance hagent hadvanced =>
    obtain ⟨hcluster, hgens⟩ := pool_advanced hadvanced
    refine evolved_of_eq hcluster hgens fun key ↦ ?_
    -- a new clone worker has no row yet, and so no VM to create
    have hnone := @countP_advanced _ _ _ _ _ _ _ (fun task ↦ decide (creates task = some key)) hadvanced
      (fun _ _ _ _ _ _ ↦ rfl) (fun _ ↦ rfl)
    rw [creators, List.countP_append, hnone]
    exact le_rfl
  | outside hfrom hpool => exact evolved_outside hfrom hpool
  | crash => exact evolved_of_eq rfl rfl fun key ↦ Nat.zero_le _
  | _ => exact evolved_of_eq rfl rfl fun key ↦ le_rfl

/-! ## A VM that is gone stays gone -/

/-- The VM exists. -/
def standing (pool : Shared) (key : VMID × ℕ) : Bool := (pool.cluster.get key.1).any (·.gen = key.2)

/-- Nobody will create the VM again. -/
structure Spent (sys : Sys) (key : VMID × ℕ) : Prop where
  gen_ne : key.2 ≠ 0
  gen_le : key.2 ≤ sys.core.pool.gens key.1
  uncreated : creators sys key = 0

/-- Every VM has one worker that creates it, and none once it is there. -/
structure Stamped (sys : Sys) : Prop where
  once : ∀ key, creators sys key ≤ 1
  issued : ∀ key, 0 < creators sys key → key.2 ≤ sys.core.pool.gens key.1
  guests : ∀ v guest, sys.core.pool.cluster.get v = some guest → guest.gen ≠ 0 → Spent sys (v, guest.gen)

theorem Evolved.uncreated (h : Evolved sys sys') (hkey : key.2 ≤ sys.core.pool.gens key.1) :
    creators sys' key ≤ creators sys key := by
  have hle := h.creators_le key
  rwa [if_neg (by omega), Nat.add_zero] at hle

theorem Spent.step (hspent : Spent sys key) (h : Evolved sys sys') : Spent sys' key where
  gen_ne := hspent.gen_ne
  gen_le := hspent.gen_le.trans (h.gens_le key.1)
  uncreated := Nat.le_zero.mp ((h.uncreated hspent.gen_le).trans hspent.uncreated.le)

theorem Stamped.step (hstamped : Stamped sys) (h : Evolved sys sys') : Stamped sys' where
  once key := by
    have hle := h.creators_le key
    have honce := hstamped.once key
    have hissued := hstamped.issued key
    split_ifs at hle <;> omega
  issued key hpos := by
    have hle := h.creators_le key
    have hgens := h.gens_le key.1
    have hissued := hstamped.issued key
    split_ifs at hle <;> omega
  guests v guest hguest hgen := by
    have hgens := h.gens_le v
    have hissued := hstamped.issued (v, guest.gen)
    have honce := hstamped.once (v, guest.gen)
    rcases h.guests v guest hguest hgen with ⟨before, hbefore, heq⟩ | ⟨hadopted, hnew, hcreators⟩ | hcreated
    · have hspent := hstamped.guests v before hbefore (heq ▸ hgen)
      rw [heq] at hspent
      exact hspent.step h
    · exact ⟨hgen, hnew.ge, by dsimp only at hissued; omega⟩
    · exact ⟨hgen, (hissued (by omega)).trans hgens, by omega⟩

theorem standing_eq_true : standing pool key ↔
    ∃ guest, pool.cluster.get key.1 = some guest ∧ guest.gen = key.2 := by
  simp [standing, Option.any_eq_true]

theorem Spent.not_standing (hspent : Spent sys key) (h : Evolved sys sys')
    (hgone : standing sys.core.pool key = false) : standing sys'.core.pool key = false := by
  refine Bool.eq_false_iff.mpr fun hstanding ↦ Bool.eq_false_iff.mp hgone ?_
  obtain ⟨guest, hguest, hgen⟩ := standing_eq_true.mp hstanding
  have hle := hspent.gen_le
  have hnone := hspent.uncreated
  rcases h.guests key.1 guest hguest (hgen ▸ hspent.gen_ne) with ⟨before, hbefore, heq⟩ | ⟨hadopted, -, -⟩ |
    hcreated
  · exact standing_eq_true.mpr ⟨before, hbefore, heq.trans hgen⟩
  · omega
  · have hkey : (key.1, guest.gen) = key := by rw [hgen]
    rw [hkey] at hcreated
    omega

/-! ## The victims of the handles -/

def Agent.victims : Agent → List (VMID × ℕ)
  | .evictVictims _ _ _ _ _ victims _ | .evictReserve _ _ _ victims | .evictPark _ _ _ _ _ victims =>
    victims
  | agent => agent.held.flatMap Parked.victims

/-- What was destroyed for the handles that are parked, held or to be parked. -/
def Sys.victims (sys : Sys) : List (VMID × ℕ) :=
  sys.core.evicted.flatMap Parked.victims ++ sys.agents.flatMap Agent.victims

def Sys.handles (sys : Sys) : List Parked := sys.core.evicted ++ sys.agents.flatMap Agent.held

theorem victims_of_handle (hp : p ∈ sys.handles) (hkey : key ∈ p.victims) : key ∈ sys.victims := by
  rcases List.mem_append.mp hp with hp | hp
  · exact List.mem_append_left _ (List.mem_flatMap.mpr ⟨p, hp, hkey⟩)
  · obtain ⟨agent, hagent, hheld⟩ := List.mem_flatMap.mp hp
    refine List.mem_append_right _ (List.mem_flatMap.mpr ⟨agent, hagent, ?_⟩)
    cases agent with
    | claimParked | claimProbe => exact List.mem_flatMap.mpr ⟨p, hheld, hkey⟩
    | _ => cases hheld

theorem victims_of_mem {now : Time} (hp : p ∈ agent.held ++ agent.parks now) (hkey : key ∈ p.victims) :
    key ∈ agent.victims := by
  rcases List.mem_append.mp hp with hheld | hparks
  · cases agent with
    | claimParked | claimProbe => exact List.mem_flatMap.mpr ⟨p, hheld, hkey⟩
    | _ => cases hheld
  · cases agent with
    | evictPark =>
      cases List.mem_singleton.mp hparks
      exact hkey
    | _ => cases hparks

/-- A victim is handed on with its handle, and a new one is a VM that exists. -/
theorem victims_advanced (h : Advanced cfg c answer agent c' agents threads)
    (hkey : key ∈ c'.evicted.flatMap Parked.victims ++ agents.flatMap Agent.victims) :
    key ∈ c.evicted.flatMap Parked.victims ++ agent.victims ∨
      ∃ v guest, c.pool.cluster.get v = some guest ∧ guest.gen ≠ 0 ∧ key = (v, guest.gen) := by
  have hkept (p : Parked) (hp : p ∈ c'.evicted ++ agents.flatMap Agent.held) (hvictim : key ∈ p.victims) :
      key ∈ c.evicted.flatMap Parked.victims ++ agent.victims :=
    (mem_handles_advanced h hp).elim
      (fun hparked ↦ List.mem_append_left _ (List.mem_flatMap.mpr ⟨p, hparked, hvictim⟩))
      fun hheld ↦ List.mem_append_right _ (victims_of_mem hheld hvictim)
  rcases List.mem_append.mp hkey with hparked | hnew
  · obtain ⟨p, hp, hvictim⟩ := List.mem_flatMap.mp hparked
    exact .inl (hkept p (List.mem_append_left _ hp) hvictim)
  · obtain ⟨other, hother, hmem⟩ := List.mem_flatMap.mp hnew
    have hheld (hclaimer : other.victims = other.held.flatMap Parked.victims) :
        key ∈ c.evicted.flatMap Parked.victims ++ agent.victims := by
      rw [hclaimer] at hmem
      obtain ⟨p, hp, hvictim⟩ := List.mem_flatMap.mp hmem
      exact hkept p (List.mem_append_right _ (List.mem_flatMap.mpr ⟨other, hother, hp⟩)) hvictim
    cases h with
    | committed =>
      cases List.mem_singleton.mp hother
      rcases List.mem_append.mp hmem with hold | hnew
      · exact .inl (List.mem_append_right _ hold)
      · simp only [guestKey, Option.mem_toList, Option.map_eq_some_iff, Option.filter_eq_some_iff,
          decide_eq_true_eq] at hnew
        obtain ⟨guest, ⟨hguest, hgen⟩, rfl⟩ := hnew
        exact .inr ⟨_, guest, hguest, hgen, rfl⟩
    | planCut | planDone | evictReserved =>
      cases List.mem_singleton.mp hother
      exact .inl (List.mem_append_right _ hmem)
    | @read settings stage sizing =>
      cases List.mem_singleton.mp hother
      cases stage <;> cases hmem
    | kicked hrest =>
      rcases hrest with ⟨rfl, more, rfl, rfl⟩ | ⟨rfl, more, rfl, rfl, rfl⟩ <;>
        simp only [List.mem_cons, List.not_mem_nil, or_false] at hother <;>
        rcases hother with rfl | rfl <;> cases hmem
    | _ =>
      first
      | cases hother; done
      | cases List.mem_singleton.mp hother
        exact .inl (hheld rfl)

theorem handles_advanced (h : Advanced cfg c answer agent c' agents threads)
    (hp : p ∈ c'.evicted ++ agents.flatMap Agent.held) :
    p ∈ c.evicted ++ agent.held ∨ p.expires = c.pool.now + parkedReservationTTL := by
  rcases mem_handles_advanced h hp with hparked | hagent
  · exact .inl (List.mem_append_left _ hparked)
  · rcases List.mem_append.mp hagent with hheld | hparks
    · exact .inl (List.mem_append_right _ hheld)
    · cases agent with
      | evictPark =>
        cases List.mem_singleton.mp hparks
        exact .inr rfl
      | _ => cases hparks

/-! ## Destroys that land in time -/

/-- The handle was parked at least `d` ago. -/
def Parked.aged (d : ℕ) (now : Time) (p : Parked) : Bool := p.expires + d ≤ now + parkedReservationTTL

/-- The handles that a clone worker drains in this step. -/
def drains (sys : Sys) : Act → List Parked
  | .advance k _ =>
    match sys.agents[k]? with
    | some (.admitClone settings .hot) => sys.core.unexpired settings.name
    | _ => []
  | _ => []

def elapses : Act → Option ℕ
  | .outside (.elapse d) => some d
  | _ => none

/-- No handle is drained within `d` of its parking, and none reaches that age while one of its victims
exists. -/
def LandsWithin (d : ℕ) (sys : Sys) (act : Act) (_ : Sys) : Prop :=
  (∀ p ∈ drains sys act, p.aged d sys.core.pool.now = true) ∧
    ∀ e ∈ elapses act, ∀ p ∈ sys.handles, p.aged d sys.core.pool.now = false →
      p.aged d (sys.core.pool.now + e) = true → ∀ key ∈ p.victims, standing sys.core.pool key = false

/-- A handle is consumed when its victims are gone. -/
def ConsumesFreed (sys : Sys) (act : Act) (_ : Sys) : Prop :=
  ∀ p ∈ consumes sys act, ∀ key ∈ p.victims, standing sys.core.pool key = false

instance decidableLandsWithin (d : ℕ) (sys : Sys) (act : Act) (sys' : Sys) :
    Decidable (LandsWithin d sys act sys') :=
  inferInstanceAs (Decidable (_ ∧ _))

instance decidableConsumesFreed (sys : Sys) (act : Act) (sys' : Sys) :
    Decidable (ConsumesFreed sys act sys') :=
  inferInstanceAs (Decidable (∀ p ∈ consumes sys act, _))

theorem aged_mono {now now' : Time} (hnow : now ≤ now') (h : p.aged d now) :
    p.aged d now' = true := by
  simp only [Parked.aged, decide_eq_true_eq] at h ⊢
  linarith

/-- The victims of every handle that is old enough are gone, and what a claimer holds is old enough. -/
structure Landed (d : ℕ) (sys : Sys) : Prop where
  stamped : Stamped sys
  spent : ∀ key ∈ sys.victims, Spent sys key
  gone : ∀ p ∈ sys.handles, p.aged d sys.core.pool.now = true →
    ∀ key ∈ p.victims, standing sys.core.pool key = false
  aged : ∀ p ∈ sys.agents.flatMap Agent.held, p.aged d sys.core.pool.now = true

/-- A step between whose states no handle comes of age keeps the invariant, if it adds no handle and no
victim. -/
theorem Landed.of_subset (h : Landed d sys) (hevolved : Evolved sys sys')
    (hnow : sys.core.pool.now ≤ sys'.core.pool.now)
    (hage : ∀ p ∈ sys.handles, p.aged d sys.core.pool.now = false → p.aged d sys'.core.pool.now →
      ∀ key ∈ p.victims, standing sys.core.pool key = false) (hvictims : sys'.victims ⊆ sys.victims)
    (hhandles : sys'.handles ⊆ sys.handles)
    (hheld : sys'.agents.flatMap Agent.held ⊆ sys.agents.flatMap Agent.held) : Landed d sys' where
  stamped := h.stamped.step hevolved
  spent key hkey := (h.spent key (hvictims hkey)).step hevolved
  gone p hp haged key hkey := by
    have hbefore := hhandles hp
    refine (h.spent key (victims_of_handle hbefore hkey)).not_standing hevolved ?_
    cases hyoung : p.aged d sys.core.pool.now with
    | true => exact h.gone p hbefore hyoung key hkey
    | false => exact hage p hbefore hyoung haged key hkey
  aged p hp := aged_mono hnow (h.aged p (hheld hp))

theorem flatMap_subset_of_getElem? {α : Type} (f : Agent → List α) {k : ℕ}
    (hagent : sys.agents[k]? = some agent) : f agent ⊆ sys.agents.flatMap f := fun _ hx ↦
  List.mem_flatMap.mpr ⟨agent, List.mem_of_getElem? hagent, hx⟩

theorem flatMap_eraseIdx_subset {α : Type} (f : Agent → List α) (k : ℕ) :
    (sys.agents.eraseIdx k).flatMap f ⊆ sys.agents.flatMap f := fun _ hx ↦ by
  obtain ⟨agent, hagent, hmem⟩ := List.mem_flatMap.mp hx
  exact List.mem_flatMap.mpr ⟨agent, List.mem_of_mem_eraseIdx hagent, hmem⟩

theorem Landed.advance (hd : 0 < d) (h : Landed d sys) {k : ℕ}
    (hlands : LandsWithin d sys (.advance k answer) sys') (hagent : sys.agents[k]? = some agent)
    (hadvanced : Advanced cfg sys.core answer agent c' agents threads)
    (hevolved : Evolved sys ⟨c', sys.threads ++ threads, sys.agents.eraseIdx k ++ agents⟩) :
    Landed d ⟨c', sys.threads ++ threads, sys.agents.eraseIdx k ++ agents⟩ := by
  have hnow := now_advanced hadvanced
  have hbefore {p : Parked} (hp : p ∈ sys.core.evicted ++ agent.held) : p ∈ sys.handles :=
    (List.mem_append.mp hp).elim (List.mem_append_left _) fun hheld ↦
      List.mem_append_right _ (flatMap_subset_of_getElem? Agent.held hagent hheld)
  refine ⟨h.stamped.step hevolved, fun key hkey ↦ ?_, fun p hp haged key hkey ↦ ?_, fun p hp ↦ ?_⟩
  · -- a new victim exists, so its worker is past creating it
    refine Spent.step ?_ hevolved
    simp only [Sys.victims, List.flatMap_append, List.mem_append] at hkey
    have hold : key ∈ sys.core.evicted.flatMap Parked.victims ++ agent.victims → key ∈ sys.victims := by
      refine fun hmem ↦ (List.mem_append.mp hmem).elim (List.mem_append_left _) fun hheld ↦ ?_
      exact List.mem_append_right _ (flatMap_subset_of_getElem? Agent.victims hagent hheld)
    have hadvance (hmem : key ∈ c'.evicted.flatMap Parked.victims ++ agents.flatMap Agent.victims) :
        Spent sys key := by
      rcases victims_advanced hadvanced hmem with hkey | ⟨v, guest, hguest, hgen, rfl⟩
      · exact h.spent key (hold hkey)
      · exact h.stamped.guests v guest hguest hgen
    rcases hkey with hparked | hother | hnew
    · exact hadvance (List.mem_append_left _ hparked)
    · exact h.spent key (List.mem_append_right _ (flatMap_eraseIdx_subset Agent.victims k hother))
    · exact hadvance (List.mem_append_right _ hnew)
  · -- a handle that is parked now has its age before it
    have hhandle : p ∈ sys.handles := by
      have hadvance (hmem : p ∈ c'.evicted ++ agents.flatMap Agent.held) : p ∈ sys.handles := by
        rcases handles_advanced hadvanced hmem with hp | hexpires
        · exact hbefore hp
        · simp only [Parked.aged, hnow, hexpires, decide_eq_true_eq] at haged
          exact absurd haged (by linarith [Int.natCast_pos.mpr hd])
      simp only [Sys.handles, List.flatMap_append, List.mem_append] at hp
      rcases hp with hparked | hother | hnew
      · exact hadvance (List.mem_append_left _ hparked)
      · exact List.mem_append_right _ (flatMap_eraseIdx_subset Agent.held k hother)
      · exact hadvance (List.mem_append_right _ hnew)
    simp only [hnow] at haged
    exact (h.spent key (victims_of_handle hhandle hkey)).not_standing hevolved (h.gone p hhandle haged key hkey)
  · simp only [hnow]
    rcases List.mem_append.mp (List.flatMap_append (f := Agent.held) ▸ hp) with hother | hnew
    · exact h.aged p (flatMap_eraseIdx_subset Agent.held k hother)
    · obtain ⟨other, hother, hp⟩ := List.mem_flatMap.mp hnew
      rcases held_advanced hadvanced hother hp with ⟨hheld, -⟩ | ⟨settings, rfl, hdrained, -⟩
      · exact h.aged p (flatMap_subset_of_getElem? Agent.held hagent hheld)
      · exact hlands.1 p (by simpa [drains, hagent] using hdrained)

/-- Without a change of the clock no handle comes of age. -/
theorem Landed.of_now_eq (h : Landed d sys) (hevolved : Evolved sys sys')
    (hnow : sys'.core.pool.now = sys.core.pool.now) (hvictims : sys'.victims ⊆ sys.victims)
    (hhandles : sys'.handles ⊆ sys.handles)
    (hheld : sys'.agents.flatMap Agent.held ⊆ sys.agents.flatMap Agent.held) : Landed d sys' := by
  refine h.of_subset hevolved hnow.ge (fun p _ hyoung haged ↦ ?_) hvictims hhandles hheld
  rw [hnow, hyoung] at haged
  cases haged

/-- Agents that hold nothing change nothing. -/
theorem Landed.of_agents (h : Landed d sys) (hevolved : Evolved sys sys')
    (hnow : sys'.core.pool.now = sys.core.pool.now) (hevicted : sys'.core.evicted ⊆ sys.core.evicted)
    (more : List Agent) (hagents : sys'.agents = sys.agents ++ more)
    (hmore : ∀ agent ∈ more, agent.victims = [] ∧ agent.held = []) : Landed d sys' := by
  have hheld : sys'.agents.flatMap Agent.held = sys.agents.flatMap Agent.held := by
    rw [hagents, List.flatMap_append, List.flatMap_eq_nil_iff.mpr fun agent hagent ↦ (hmore agent hagent).2,
      List.append_nil]
  have hvictims : sys'.agents.flatMap Agent.victims = sys.agents.flatMap Agent.victims := by
    rw [hagents, List.flatMap_append, List.flatMap_eq_nil_iff.mpr fun agent hagent ↦ (hmore agent hagent).1,
      List.append_nil]
  have hparked (key : VMID × ℕ) (hkey : key ∈ sys'.core.evicted.flatMap Parked.victims) :
      key ∈ sys.core.evicted.flatMap Parked.victims := by
    obtain ⟨p, hp, hmem⟩ := List.mem_flatMap.mp hkey
    exact List.mem_flatMap.mpr ⟨p, hevicted hp, hmem⟩
  refine h.of_now_eq hevolved hnow ?_ ?_ (by rw [hheld]; exact List.Subset.refl _)
  · rw [Sys.victims, Sys.victims, hvictims]
    exact List.append_subset.mpr ⟨fun key hkey ↦ List.mem_append_left _ (hparked key hkey),
      List.subset_append_right _ _⟩
  · rw [Sys.handles, Sys.handles, hheld]
    exact List.append_subset.mpr ⟨fun p hp ↦ List.mem_append_left _ (hevicted hp),
      List.subset_append_right _ _⟩

theorem now_outside {act : Pool.Act} {pool' : Shared} {tasks : List Task} (hfrom : fromOutside act)
    (hpool : Pool.step cfg.toConfig ⟨pool, []⟩ act = some ⟨pool', tasks⟩) :
    pool'.now = pool.now ∨ ∃ e : ℕ, act = .elapse e ∧ pool'.now = pool.now + e := by
  cases stepped_of_step hpool with
  | fire | crash => cases hfrom
  | outside houtside =>
    cases houtside with
    | elapse e => exact .inr ⟨e, rfl, rfl⟩
    | _ => exact .inl rfl
  | _ => exact .inl rfl

theorem Landed.step (hd : 0 < d) (h : Landed d sys) (hlands : LandsWithin d sys act sys')
    (hstep : step cfg sys act = some sys') : Landed d sys' := by
  have hevolved := evolved_of_step hstep
  cases moved_of_step hstep with
  | @fire i reply t pool next hthread htodo hexec =>
    refine h.of_agents hevolved (exec_frame hexec).1 (List.Subset.refl _) (t.leftover next) rfl ?_
    unfold Thread.leftover
    split <;> simp [Agent.victims, Agent.held]
  | advance hagent hadvanced => exact h.advance hd hlands hagent hadvanced hevolved
  | outside hfrom hpool =>
    rcases now_outside hfrom hpool with hnow | ⟨e, rfl, hnow⟩
    · exact h.of_agents hevolved hnow (List.Subset.refl _) [] (List.append_nil _).symm (by simp)
    · refine h.of_subset hevolved (step_now hpool) (fun p hp hyoung haged ↦ ?_) (List.Subset.refl _)
        (List.Subset.refl _) (List.Subset.refl _)
      exact hlands.2 e rfl p hp hyoung (by simpa only [hnow] using haged)
  | reconcile =>
    exact h.of_agents hevolved rfl (List.Subset.refl _) _ rfl (by simp [startPass, Agent.victims, Agent.held])
  | releaseParked =>
    exact h.of_agents hevolved rfl List.filter_sublist.subset [] (List.append_nil _).symm (by simp)
  | crash =>
    exact ⟨h.stamped.step hevolved, fun _ hkey ↦ (List.not_mem_nil hkey).elim,
      fun _ hp ↦ (List.not_mem_nil hp).elim, fun _ hp ↦ (List.not_mem_nil hp).elim⟩
  | _ => exact h.of_agents hevolved rfl (List.Subset.refl _) [] (List.append_nil _).symm (by simp)

theorem landed_init (d : ℕ) (cluster : Provisioner.Cluster) (runners : Gh.Runners) (now : Time) :
    Landed d (init cfg cluster runners now) where
  stamped :=
    { once := fun _ ↦ Nat.zero_le _
      issued := fun _ hpos ↦ absurd hpos (lt_irrefl 0)
      guests := fun v guest hguest hgen ↦ by
        have hunstamped : (unstamped cluster).get v = some guest := hguest
        rw [unstamped, Table.get_filterMap, Option.bind_eq_some_iff] at hunstamped
        obtain ⟨before, -, hnew⟩ := hunstamped
        cases hnew
        exact absurd rfl hgen }
  spent _ hkey := (List.not_mem_nil hkey).elim
  gone _ hp := (List.not_mem_nil hp).elim
  aged _ hp := (List.not_mem_nil hp).elim

/-- In every run in which the destroys land within `d` of the parking and no worker drains a younger
handle, a clone takes over a handle whose victims are gone. -/
theorem freed_capacity_is_free {d : ℕ} (hd : 0 < d) (cfg : Config) (cluster : Provisioner.Cluster)
    (runners : Gh.Runners) (now : Time) (labels : List Act)
    (hlands : Along (step cfg) (LandsWithin d) (init cfg cluster runners now) labels) :
    Along (step cfg) ConsumesFreed (init cfg cluster runners now) labels := by
  refine along_of_invariant (Landed d) ?_ (landed_init d cluster runners now) hlands
  intro sys act sys' hlanded hlands hstep
  refine ⟨fun p hp ↦ ?_, hlanded.step hd hlands hstep⟩
  obtain ⟨k, answer, settings, since, existing, keep, rfl, hagent⟩ := consumes_eq_some hp
  have hheld : p ∈ sys.agents.flatMap Agent.held :=
    flatMap_subset_of_getElem? Agent.held hagent (by simp [Agent.held])
  exact hlanded.gone p (List.mem_append_right _ hheld) (hlanded.aged p hheld)

/-- The victim's destroy runs through, and ten seconds pass before the next pass. -/
theorem capacity_is_free_after_destroy :
    (run (step (burstPool Store.minute)) (idleStart Store.minute)
      (evictForBurst ++ [.fire 0 .ok, .fire 0 .ok, .outside .dispatch] ++ List.replicate 4 (.fire 0 .ok) ++
        [.outside (.elapse 10000000000)] ++ readCounts 0 ++ claimOne)).map
      (fun sys ↦ (sys.core.consumed, sys.core.pool.cluster.rows)) = some ([1], []) ∧
    Along (step (burstPool Store.minute)) ConsumesFreed (idleStart Store.minute)
      (evictForBurst ++ [.fire 0 .ok, .fire 0 .ok, .outside .dispatch] ++ List.replicate 4 (.fire 0 .ok) ++
        [.outside (.elapse 10000000000)] ++ readCounts 0 ++ claimOne) :=
  ⟨by decide +kernel, @freed_capacity_is_free 10000000000 (by decide) (burstPool Store.minute) idleGuest ∅
    Store.second _ (by decide +kernel)⟩

/-- A pass right after the eviction consumes the handle while the victim exists. -/
theorem capacity_spent_before_destroy :
    (run (step (burstPool Store.minute)) (idleStart Store.minute)
      (evictForBurst ++ readCounts 0 ++ claimOne)).map (fun sys ↦ (sys.core.consumed,
        sys.core.pool.cluster.rows.map fun guest ↦ (guest.vmid, guest.gen))) = some ([1], [(10000, 1)]) ∧
    ¬ Along (step (burstPool Store.minute)) ConsumesFreed (idleStart Store.minute)
      (evictForBurst ++ readCounts 0 ++ claimOne) :=
  ⟨by decide +kernel, by decide +kernel⟩

end ScalesetProxmox.Pool.Demand
