import ScalesetProxmox.Pool.Parking

/-!
# One eviction for one unit of unmet demand

A pass evicts when it finds `capacityDeferredHot` set and a deficit. The flag is set by a clone worker
that no node has room for, at any time after the pass that dispatched it. A worker that was refused
before an eviction and says so after it arms the next pass again, although the capacity is parked by
then.

What is outstanding for a profile is counted from its unexpired handles and the evictions in progress.
An eviction starts with no more outstanding than when the deferral behind it was recorded.
-/

namespace ScalesetProxmox.Pool.Demand

open Store (Time)
open Transition

variable {cfg : Config} {c c' : Core} {answer : Answer} {agent : Agent} {agents : List Agent}
  {threads : List Thread} {sys sys' : Sys} {act : Act} {labels : List Act} {profile : String}

/-! ## Outstanding handles -/

/-- The handles with a property: parked, drained by a claimer, or with a worker that has no row. -/
def countHandles (f : Parked → Bool) (sys : Sys) : ℕ :=
  sys.core.evicted.countP f + (sys.agents.map fun agent ↦ agent.held.countP f).sum +
    (sys.threads.map fun t ↦ t.claimed.countP f).sum

/-- The handle is the profile's, and it has not expired. -/
def Parked.live (profile : String) (now : Time) (p : Parked) : Bool := p.profile = profile ∧ ¬ p.expires < now

/-- The profile's unexpired handles. -/
def outstanding (sys : Sys) (profile : String) : ℕ := countHandles (Parked.live profile sys.core.pool.now) sys

/-- Handles are handed on; a new one comes from an eviction. -/
theorem countHandles_advanced (h : Advanced cfg c answer agent c' agents threads) (f : Parked → Bool) :
    c'.evicted.countP f + (agents.map fun agent ↦ agent.held.countP f).sum +
        (threads.map fun t ↦ t.claimed.countP f).sum ≤
      c.evicted.countP f + agent.held.countP f + (agent.parks c.pool.now).countP f := by
  obtain ⟨taken, gone, hhanded⟩ := handed_of_advanced h
  have hcount := hhanded.perm.countP_eq f
  rw [← hhanded.claimed] at hcount
  simp only [List.countP_append, List.countP_flatMap, Function.comp_def] at hcount
  omega

theorem claimed_after {t : Thread} {next : List Task}
    (hnext : t.worker.isSome → next.countP beforeRow ≤ if beforeRow t.task then 1 else 0)
    (f : Parked → Bool) :
    ((t.after cfg.toConfig next).map fun t ↦ t.claimed.countP f).sum ≤ t.claimed.countP f := by
  obtain ⟨task, worker, todo⟩ := t
  cases worker with
  | none => simp [Thread.after, Thread.claimed, Function.comp_def]
  | some w =>
    have hclaims := @sum_map_after cfg task (fun t ↦ t.claimed.countP f) beforeRow (w.parked.toList.countP f)
      w todo (fun _ h ↦ cloning_of_beforeRow h) (fun _ ↦ by simp [Thread.claimed])
      (fun task _ _ ↦ by cases hbefore : beforeRow task <;> simp [Thread.claimed, hbefore])
    rw [hclaims]
    refine (Nat.mul_le_mul_right _ (hnext rfl)).trans ?_
    cases hbefore : beforeRow task <;> simp [Thread.claimed, hbefore]

theorem countHandles_fire {i : ℕ} {reply : Reply} {t : Thread} {pool : Shared} {next : List Task}
    (hstaffed : t.Staffed) (hthread : sys.threads[i]? = some t)
    (hexec : (t.task.action cfg.toConfig reply).exec cfg.toConfig sys.core.pool = some (pool, next))
    (f : Parked → Bool) :
    countHandles f ⟨{ sys.core with pool := pool }, sys.threads.eraseIdx i ++ t.after cfg.toConfig next,
      sys.agents ++ t.leftover next⟩ ≤ countHandles f sys := by
  have hafter := @claimed_after cfg t next (fun hworker ↦
    exec_next hexec (beforeRow_next (hstaffed.cloning.trans hworker))) f
  have hthreads := sum_map_fire (fun t ↦ t.claimed.countP f) hthread (t.after cfg.toConfig next)
  have hleft : ((t.leftover next).map fun agent ↦ agent.held.countP f).sum = 0 := by
    unfold Thread.leftover
    split <;> rfl
  simp only [countHandles, List.map_append, List.sum_append] at hthreads ⊢
  omega

/-- A handle that has not expired had not before. -/
theorem outstanding_anti {now now' : Time} (hnow : now ≤ now') :
    countHandles (Parked.live profile now') sys ≤ countHandles (Parked.live profile now) sys := by
  have hlive (handles : List Parked) :
      handles.countP (Parked.live profile now') ≤ handles.countP (Parked.live profile now) := by
    refine List.countP_mono_left fun p _ hp ↦ ?_
    simp only [Parked.live, decide_eq_true_eq, not_lt] at hp ⊢
    exact ⟨hp.1, hnow.trans hp.2⟩
  exact Nat.add_le_add (Nat.add_le_add (hlive _) (List.sum_le_sum fun agent _ ↦ hlive agent.held))
    (List.sum_le_sum fun t _ ↦ hlive t.claimed)

/-! ## Passes and their evictions -/

/-- The profile whose eviction the agent is. -/
def Agent.evictsFor : Agent → Option String
  | .evictSnapshot settings _ | .evictExisting settings _ _ | .evictEligible settings _ _ _
  | .evictPlan settings _ _ | .evictVictims settings _ _ _ _ _ _ | .evictReserve settings _ _ _
  | .evictPark settings _ _ _ _ _ => some settings.name
  | _ => none

/-- The profile whose pass the agent is. -/
def Agent.passesFor : Agent → Option String
  | .pass settings _ _ | .kick settings _ _ _ | .swap settings _ => some settings.name
  | agent => agent.evictsFor

/-- The profile and the deficit of an eviction that has destroyed nothing yet. -/
def Agent.wants : Agent → Option (String × ℤ)
  | .evictSnapshot settings deficit | .evictExisting settings deficit _
  | .evictEligible settings deficit _ _ | .evictPlan settings deficit _
  | .evictVictims settings deficit _ _ _ _ _ => some (settings.name, deficit)
  | _ => none

def Agent.evicting (profile : String) (agent : Agent) : ℕ := if agent.evictsFor = some profile then 1 else 0

def Agent.passing (profile : String) (agent : Agent) : ℕ := if agent.passesFor = some profile then 1 else 0

def evictions (sys : Sys) (profile : String) : ℕ := (sys.agents.map (Agent.evicting profile)).sum

def passes (sys : Sys) (profile : String) : ℕ := (sys.agents.map (Agent.passing profile)).sum

theorem evicting_le_passing (agent : Agent) : agent.evicting profile ≤ agent.passing profile := by
  cases agent <;> simp [Agent.evicting, Agent.passing, Agent.evictsFor, Agent.passesFor]

theorem evictions_le_passes : evictions sys profile ≤ passes sys profile :=
  List.sum_le_sum fun agent _ ↦ evicting_le_passing agent

/-- A pass goes on as one agent, and where it ends the next may start. -/
theorem passing_advanced (h : Advanced cfg c answer agent c' agents threads) (profile : String) :
    (agents.map (Agent.passing profile)).sum + (c.profiles profile).reconciling.toNat ≤
      agent.passing profile + (c'.profiles profile).reconciling.toNat := by
  cases h with
  | @read settings stage sizing => cases stage <;> simp [readStage, Agent.passing, Agent.passesFor]
  | kicked hrest =>
    rcases hrest with ⟨rfl, more, rfl, rfl⟩ | ⟨rfl, more, rfl, rfl, rfl⟩ <;>
      simp [profiles_setProfile, Agent.passing, Agent.passesFor, Agent.evictsFor, apply_ite]
  | performed => simp [profiles_perform, Agent.passing, Agent.passesFor, Agent.evictsFor, apply_ite]
  | swapEnd | evictNoSnapshot | planNone | planAbandoned | evictUnreserved | parked =>
    simp only [profiles_endPass, profiles_setProfile, Agent.passing, Agent.passesFor, Agent.evictsFor,
      List.map_nil, List.sum_nil, Option.some.injEq]
    split_ifs
    · simpa using Bool.toNat_le _
    · simp [Core.swept]
  | _ =>
    simp [profiles_setProfile, Core.swept, Core.drainEvicted, Core.releaseAll, Agent.passing,
      Agent.passesFor, Agent.evictsFor, apply_ite]

/-- An eviction goes on as one agent, and what it parks at its end is one handle. -/
theorem evicting_advanced (h : Advanced cfg c answer agent c' agents threads) (profile : String)
    (hswap : ∀ settings deficit, agent = .swap settings deficit → settings.name ≠ profile) :
    (agents.map (Agent.evicting profile)).sum +
        (agent.parks c.pool.now).countP (Parked.live profile c.pool.now) ≤ agent.evicting profile := by
  cases h with
  | @read settings stage sizing =>
    cases stage <;> simp [readStage, Agent.evicting, Agent.evictsFor, Agent.parks]
  | kicked hrest =>
    rcases hrest with ⟨rfl, more, rfl, rfl⟩ | ⟨rfl, more, rfl, rfl, rfl⟩ <;>
      simp [Agent.evicting, Agent.evictsFor, Agent.parks]
  | swapEvict => simp [Agent.evicting, Agent.evictsFor, Agent.parks, hswap _ _ rfl]
  | @parked settings =>
    by_cases hprofile : settings.name = profile
    · subst hprofile
      rw [Agent.evicting, Agent.evictsFor, if_pos rfl, List.map_nil, List.sum_nil, Nat.zero_add]
      exact List.countP_le_length
    · simp [Agent.parks, Parked.live, hprofile]
  | _ => simp [Agent.evicting, Agent.evictsFor, Agent.parks]

theorem flag_advanced (h : Advanced cfg c answer agent c' agents threads)
    (hflag : (c'.profiles profile).capacityDeferredHot) :
    (c.profiles profile).capacityDeferredHot ∨
      ∃ settings, agent = .recordDeferral settings .hot ∧ settings.name = profile := by
  cases h with
  | kicked | swapEvict =>
    rw [profiles_setProfile] at hflag
    split_ifs at hflag <;> exact .inl hflag
  | @recorded settings kind =>
    rw [profiles_setProfile] at hflag
    split_ifs at hflag with hprofile
    · cases kind with
      | hot => exact .inr ⟨settings, rfl, hprofile⟩
      | warm => exact .inl hflag
    · exact .inl hflag
  | performed =>
    rw [profiles_perform] at hflag
    split_ifs at hflag
    · exact .inl (capacityDeferredHot_onProfile _ _ ▸ hflag)
    · exact .inl hflag
  | swapEnd =>
    rw [profiles_endPass, profiles_setProfile] at hflag
    split_ifs at hflag
    exact .inl hflag
  | evictNoSnapshot | planNone | planAbandoned | evictUnreserved | parked =>
    rw [profiles_endPass] at hflag
    split_ifs at hflag <;> exact .inl hflag
  | _ => exact .inl hflag

/-- A pass takes the flag, and evicts only if it was up. -/
theorem swap_advanced {settings : ProfileSettings} {deficit : ℤ}
    (h : Advanced cfg c answer (.swap settings deficit) c' agents threads) :
    (c'.profiles settings.name).capacityDeferredHot = false ∧ c'.evicted = c.evicted ∧ threads = [] ∧
      (agents = [] ∨ (agents = [.evictSnapshot settings deficit] ∧ 0 < deficit ∧
        (c.profiles settings.name).capacityDeferredHot)) := by
  cases h with
  | swapEvict hflag hdeficit =>
    refine ⟨?_, rfl, rfl, .inr ⟨rfl, hdeficit, hflag⟩⟩
    rw [profiles_setProfile, if_pos rfl]
  | swapEnd =>
    refine ⟨?_, rfl, rfl, .inl rfl⟩
    rw [profiles_endPass, profiles_setProfile, if_pos rfl, if_pos rfl]

/-- An eviction keeps its deficit, which is that of the pass. -/
theorem wants_advanced (h : Advanced cfg c answer agent c' agents threads) {deficit : ℤ} :
    ∀ other ∈ agents, other.wants = some (profile, deficit) →
      agent.wants = some (profile, deficit) ∨
        ∃ settings, agent = .swap settings deficit ∧ settings.name = profile ∧ 0 < deficit ∧
          (c.profiles profile).capacityDeferredHot = true := by
  intro other hother hwants
  cases h with
  | @read settings stage sizing =>
    cases List.mem_singleton.mp hother
    cases stage <;> cases hwants
  | kicked hrest =>
    rcases hrest with ⟨rfl, more, rfl, rfl⟩ | ⟨rfl, more, rfl, rfl, rfl⟩ <;>
      simp only [List.mem_cons, List.not_mem_nil, or_false] at hother <;>
      rcases hother with rfl | rfl <;> cases hwants
  | @swapEvict settings _ hflag hdeficit =>
    cases List.mem_singleton.mp hother
    cases hwants
    exact .inr ⟨settings, rfl, rfl, hdeficit, hflag⟩
  | _ =>
    first
    | cases hother; done
    | cases List.mem_singleton.mp hother
      first
      | exact .inl hwants
      | cases hwants

/-! ## The invariant -/

/-- No deferral and no eviction of the profile faces more than `n` outstanding handles. -/
structure Sparing (n : ℕ) (profile : String) (sys : Sys) : Prop where
  single : passes sys profile ≤ (sys.core.profiles profile).reconciling.toNat
  flagged : (sys.core.profiles profile).capacityDeferredHot = true →
    outstanding sys profile + evictions sys profile ≤ n
  evicting : 0 < evictions sys profile → outstanding sys profile ≤ n
  wants : ∀ agent ∈ sys.agents, ∀ deficit, agent.wants = some (profile, deficit) → (n : ℤ) < deficit

/-- The profile whose hot deferral is recorded in this step. -/
def defers (sys : Sys) : Act → Option String
  | .advance k _ =>
    match sys.agents[k]? with
    | some (.recordDeferral settings .hot) => some settings.name
    | _ => none
  | _ => none

/-- The profile and the deficit of a pass that takes the flag in this step. -/
def swaps (sys : Sys) : Act → Option (String × ℤ)
  | .advance k _ =>
    match sys.agents[k]? with
    | some (.swap settings deficit) => some (settings.name, deficit)
    | _ => none
  | _ => none

/-- A hot deferral is recorded with at most `n` handles outstanding, an eviction in progress counted as
one, and a pass that finds the flag set and has a deficit has one above `n`. -/
def DefersWithin (n : String → ℕ) (sys : Sys) (act : Act) (_ : Sys) : Prop :=
  (∀ profile ∈ defers sys act, outstanding sys profile + evictions sys profile ≤ n profile) ∧
    ∀ pass ∈ swaps sys act, (sys.core.profiles pass.1).capacityDeferredHot = true → 0 < pass.2 →
      (n pass.1 : ℤ) < pass.2

instance decidableDefersWithin (n : String → ℕ) (sys : Sys) (act : Act) (sys' : Sys) :
    Decidable (DefersWithin n sys act sys') :=
  inferInstanceAs (Decidable (_ ∧ _))

theorem sparing_start (n : ℕ) (profile : String) (pool : Shared) (task : Task) :
    Sparing n profile ⟨startCore cfg pool, [{ task := task }], []⟩ where
  single := Nat.zero_le _
  flagged h := by cases h
  evicting h := absurd h (lt_irrefl 0)
  wants agent hagent := by cases hagent

theorem passesFor_of_wants {deficit : ℤ} (h : agent.wants = some (profile, deficit)) :
    agent.passesFor = some profile := by
  cases agent <;> cases h <;> rfl

/-- A step that adds no handle, raises no flag and concerns no pass. -/
theorem Sparing.of_le {n : ℕ} (h : Sparing n profile sys)
    (hprofile : (sys'.core.profiles profile).reconciling = (sys.core.profiles profile).reconciling ∧
      (sys'.core.profiles profile).capacityDeferredHot = (sys.core.profiles profile).capacityDeferredHot)
    (hle : outstanding sys' profile ≤ outstanding sys profile) (more : List Agent)
    (hagents : sys'.agents = sys.agents ++ more) (hmore : ∀ agent ∈ more, agent.passesFor = none) :
    Sparing n profile sys' := by
  have hnone : (more.map (Agent.passing profile)).sum = 0 := by
    refine List.sum_eq_zero fun x hx ↦ ?_
    obtain ⟨agent, hagent, rfl⟩ := List.mem_map.mp hx
    rw [Agent.passing, hmore agent hagent, if_neg (by simp)]
  have hpasses : passes sys' profile = passes sys profile := by
    rw [passes, passes, hagents, List.map_append, List.sum_append, hnone, Nat.add_zero]
  have hevictions : evictions sys' profile = evictions sys profile := by
    have hle : (more.map (Agent.evicting profile)).sum ≤ (more.map (Agent.passing profile)).sum :=
      List.sum_le_sum fun agent _ ↦ evicting_le_passing agent
    rw [evictions, evictions, hagents, List.map_append, List.sum_append]
    omega
  refine ⟨?_, fun hflag ↦ ?_, fun hpos ↦ ?_, fun agent hagent deficit hwants ↦ ?_⟩
  · rw [hpasses, hprofile.1]
    exact h.single
  · rw [hevictions]
    exact (Nat.add_le_add_right hle _).trans (h.flagged (hprofile.2 ▸ hflag))
  · exact hle.trans (h.evicting (hevictions ▸ hpos))
  · rw [hagents] at hagent
    rcases List.mem_append.mp hagent with hagent | hagent
    · exact h.wants agent hagent deficit hwants
    · exact absurd ((hmore agent hagent).symm.trans (passesFor_of_wants hwants)) (by simp)

theorem Sparing.advance {n : String → ℕ} (h : Sparing (n profile) profile sys) {k : ℕ}
    (hdefers : DefersWithin n sys (.advance k answer) sys') (hagent : sys.agents[k]? = some agent)
    (hadvanced : Advanced cfg sys.core answer agent c' agents threads) :
    Sparing (n profile) profile ⟨c', sys.threads ++ threads, sys.agents.eraseIdx k ++ agents⟩ := by
  have hpassing := passing_advanced hadvanced profile
  have hpasses := sum_map_fire (Agent.passing profile) hagent agents
  have hevictions := sum_map_fire (Agent.evicting profile) hagent agents
  have hsingle := h.single
  have hfew := @evictions_le_passes sys profile
  have houtstanding : outstanding ⟨c', sys.threads ++ threads, sys.agents.eraseIdx k ++ agents⟩ profile ≤
      outstanding sys profile +
        (agent.parks sys.core.pool.now).countP (Parked.live profile sys.core.pool.now) := by
    have hmoved := countHandles_advanced hadvanced (Parked.live profile sys.core.pool.now)
    have hheld := sum_map_fire (fun agent ↦ agent.held.countP (Parked.live profile sys.core.pool.now))
      hagent agents
    simp only [outstanding, countHandles, now_advanced hadvanced, List.map_append, List.sum_append] at hheld ⊢
    omega
  have htoNat := Bool.toNat_le (sys.core.profiles profile).reconciling
  have hflagged := h.flagged
  have hevicting := h.evicting
  simp only [passes, evictions] at hsingle hfew hflagged hevicting
  refine ⟨?_, fun hflag ↦ ?_, fun hpos ↦ ?_, fun other hother deficit hwants ↦ ?_⟩
  · simp only [passes]
    omega
  · -- the flag is not up after a swap, and any other step keeps what was counted at the deferral
    have hswap (settings : ProfileSettings) (deficit : ℤ) (hswap : agent = .swap settings deficit) :
        settings.name ≠ profile := by
      rintro rfl
      subst hswap
      exact Bool.false_ne_true ((swap_advanced hadvanced).1.symm.trans hflag)
    have hkept := evicting_advanced hadvanced profile hswap
    have hbefore : outstanding sys profile + (sys.agents.map (Agent.evicting profile)).sum ≤ n profile := by
      rcases flag_advanced hadvanced hflag with hflag | ⟨settings, rfl, rfl⟩
      · exact hflagged hflag
      · exact hdefers.1 settings.name (by simp [defers, hagent])
    simp only [evictions]
    omega
  · by_cases hswap : ∃ settings deficit, agent = .swap settings deficit ∧ settings.name = profile
    · obtain ⟨settings, deficit, rfl, rfl⟩ := hswap
      have hparks : (Agent.parks sys.core.pool.now (.swap settings deficit)).countP
        (Parked.live settings.name sys.core.pool.now) = 0 := rfl
      rcases (swap_advanced hadvanced).2.2.2 with rfl | ⟨rfl, -, hflag⟩
      · simp only [evictions] at hpos
        simp only [List.map_nil, List.sum_nil] at hevictions
        have hbefore := hevicting (by omega)
        omega
      · have hbefore := hflagged hflag
        omega
    · -- one pass at a time: an eviction that goes on parks nothing
      have hkept := evicting_advanced hadvanced profile fun settings deficit hagent hname ↦
        hswap ⟨settings, deficit, hagent, hname⟩
      simp only [evictions] at hpos
      have hbefore := hevicting (by omega)
      omega
  · rcases List.mem_append.mp hother with hother | hother
    · exact h.wants other (List.mem_of_mem_eraseIdx hother) deficit hwants
    · rcases wants_advanced hadvanced other hother hwants with hbefore | ⟨settings, rfl, rfl, hdeficit, hflag⟩
      · exact h.wants agent (List.mem_of_getElem? hagent) deficit hbefore
      · exact hdefers.2 (settings.name, deficit) (by simp [swaps, hagent]) hflag hdeficit

/-- A pass starts where none is under way. -/
theorem Sparing.reconcile {n : ℕ} (h : Sparing n profile sys) {other : String} {settings : ProfileSettings}
    (hfind : cfg.profiles.find? (·.name = other) = some settings)
    (hidle : (sys.core.profiles other).reconciling = false) :
    Sparing n profile ⟨sys.core.setProfile other fun ps ↦ { ps with reconciling := true }, sys.threads,
      sys.agents ++ [startPass cfg settings]⟩ := by
  have hname : settings.name = other := by simpa using List.find?_some hfind
  have hevictions : evictions ⟨sys.core.setProfile other fun ps ↦ { ps with reconciling := true },
      sys.threads, sys.agents ++ [startPass cfg settings]⟩ profile = evictions sys profile := by
    simp [evictions, Agent.evicting, startPass, Agent.evictsFor]
  have houtstanding : outstanding ⟨sys.core.setProfile other fun ps ↦ { ps with reconciling := true },
      sys.threads, sys.agents ++ [startPass cfg settings]⟩ profile = outstanding sys profile := by
    simp [outstanding, countHandles, Core.setProfile, startPass, Agent.held]
  refine ⟨?_, fun hflag ↦ ?_, fun hpos ↦ ?_, fun agent hagent deficit hwants ↦ ?_⟩
  · have hsingle := h.single
    simp only [passes, profiles_setProfile, List.map_append, List.map_cons, List.map_nil,
      List.sum_append, List.sum_cons, List.sum_nil] at hsingle ⊢
    split_ifs with hother
    · subst hother
      rw [hidle, Bool.toNat_false] at hsingle
      rw [Bool.toNat_true, Agent.passing]
      split_ifs <;> omega
    · have hnot : Agent.passing profile (startPass cfg settings) = 0 :=
        if_neg fun heq ↦ hother (hname.symm.trans (Option.some.inj heq))
      omega
  · rw [hevictions, houtstanding]
    refine h.flagged ?_
    rw [profiles_setProfile] at hflag
    split_ifs at hflag <;> exact hflag
  · rw [houtstanding]
    exact h.evicting (hevictions ▸ hpos)
  · rcases List.mem_append.mp hagent with hagent | hagent
    · exact h.wants agent hagent deficit hwants
    · cases List.mem_singleton.mp hagent
      cases hwants

theorem Sparing.step {n : String → ℕ} (h : Sparing (n profile) profile sys)
    (hstaffed : ∀ t ∈ sys.threads, t.Staffed) (hdefers : DefersWithin n sys act sys')
    (hstep : step cfg sys act = some sys') : Sparing (n profile) profile sys' := by
  cases moved_of_step hstep with
  | @fire i reply t pool next hthread htodo hexec =>
    have hleft : ∀ agent ∈ t.leftover next, agent.passesFor = none := by
      unfold Thread.leftover
      split <;> simp [Agent.passesFor, Agent.evictsFor]
    refine h.of_le ⟨rfl, rfl⟩ ?_ _ rfl hleft
    have hhandles := countHandles_fire (hstaffed t (List.mem_of_getElem? hthread)) hthread hexec
      (Parked.live profile sys.core.pool.now)
    rwa [outstanding, (exec_frame hexec).1]
  | @settle i task w effect todo hthread =>
    refine h.of_le ?_ ?_ [] (List.append_nil _).symm (by simp)
    · rw [profiles_perform]
      split_ifs <;> simp
    · have hthreads := sum_map_fire (fun t ↦ t.claimed.countP (Parked.live profile sys.core.pool.now)) hthread
        [⟨task, some w, todo⟩]
      have hsame : Thread.claimed ⟨task, some w, effect :: todo⟩ = Thread.claimed ⟨task, some w, todo⟩ := rfl
      rw [hsame] at hthreads
      simp only [List.map_cons, List.map_nil, List.sum_cons, List.sum_nil, Nat.add_zero,
        Nat.add_right_cancel_iff] at hthreads
      simp only [outstanding, countHandles, Core.perform, Core.setProfile]
      exact (congrArg _ hthreads).le
  | advance hagent hadvanced => exact h.advance hdefers hagent hadvanced
  | outside hfrom hpool =>
    refine h.of_le ⟨rfl, rfl⟩ ?_ [] (List.append_nil _).symm (by simp)
    refine le_trans (le_of_eq ?_) (outstanding_anti (step_now hpool))
    simp [outstanding, countHandles, Thread.claimed, Function.comp_def]
  | reconcile hfind hidle => exact h.reconcile hfind hidle
  | retarget hchange =>
    refine h.of_le ?_ le_rfl [] (List.append_nil _).symm (by simp)
    rw [profiles_setProfile]
    split_ifs
    · exact ⟨(hchange _).2.2, (hchange _).2.1⟩
    · exact ⟨rfl, rfl⟩
  | @releaseParked other =>
    refine h.of_le ⟨rfl, rfl⟩ ?_ [] (List.append_nil _).symm (by simp)
    have hkept := (List.filter_sublist (p := fun p ↦ decide (p.profile ≠ other))
      (l := sys.core.evicted)).countP_le (p := Parked.live profile sys.core.pool.now)
    simp only [outstanding, countHandles, Core.releaseAll]
    omega
  | elsewhere => exact h.of_le ⟨rfl, rfl⟩ le_rfl [] (List.append_nil _).symm (by simp)
  | crash => exact sparing_start _ _ _ _

/-! ## The start of an eviction -/

/-- The profile and the deficit of an eviction that commits its first victim in this step. -/
def startsEviction (cfg : Config) (sys : Sys) : Act → Option (String × ℤ)
  | .advance k _ =>
    match sys.agents[k]? with
    | some (.evictVictims settings deficit _ (victim :: _) [] _ _) =>
      match (evictCas victim).exec cfg.toConfig sys.core.pool with
      | some (_, _ :: _) => some (settings.name, deficit)
      | _ => none
    | _ => none
  | _ => none

/-- An eviction starts with fewer handles outstanding than the deficit of its pass. -/
def StartsInDeficit (cfg : Config) (sys : Sys) (act : Act) (_ : Sys) : Prop :=
  ∀ start ∈ startsEviction cfg sys act, (outstanding sys start.1 : ℤ) < start.2

instance decidableStartsInDeficit (cfg : Config) (sys : Sys) (act : Act) (sys' : Sys) :
    Decidable (StartsInDeficit cfg sys act sys') :=
  inferInstanceAs (Decidable (∀ start ∈ startsEviction cfg sys act, _))

theorem wants_of_startsEviction {start : String × ℤ} (h : startsEviction cfg sys act = some start) :
    ∃ agent ∈ sys.agents, agent.wants = some start ∧ agent.evictsFor = some start.1 := by
  cases act with
  | advance k answer =>
    simp only [startsEviction] at h
    split at h
    · next settings deficit node victim todo victims plans hagent =>
      split at h
      · cases h
        exact ⟨_, List.mem_of_getElem? hagent, rfl, rfl⟩
      · cases h
    · cases h
  | _ => cases h

/-- In every run whose deferrals are recorded with few enough handles outstanding, an eviction starts
with fewer than its pass is short of. -/
theorem eviction_starts_in_deficit (cfg : Config) (cluster : Provisioner.Cluster) (runners : Gh.Runners)
    (now : Time) (labels : List Act) (n : String → ℕ)
    (hdefers : Along (step cfg) (DefersWithin n) (init cfg cluster runners now) labels) :
    Along (step cfg) (StartsInDeficit cfg) (init cfg cluster runners now) labels := by
  refine along_of_invariant
    (fun sys ↦ (∀ t ∈ sys.threads, t.Staffed) ∧ ∀ profile, Sparing (n profile) profile sys) ?_
    ⟨?_, fun profile ↦ sparing_start _ _ _ _⟩ hdefers
  · intro sys act sys' ⟨hstaffed, hsparing⟩ hdefers hstep
    refine ⟨fun start hstart ↦ ?_, staffed_step hstaffed hstep,
      fun profile ↦ (hsparing profile).step hstaffed hdefers hstep⟩
    obtain ⟨agent, hagent, hwants, hevicts⟩ := wants_of_startsEviction hstart
    have hpos : 0 < evictions sys start.1 := by
      refine lt_of_lt_of_le ?_ (List.single_le_sum (by simp) _ (List.mem_map_of_mem hagent))
      rw [Agent.evicting, if_pos hevicts]
      exact Nat.one_pos
    have hfew := (hsparing start.1).evicting hpos
    have hmore := (hsparing start.1).wants agent hagent start.2 hwants
    omega
  · intro t ht
    cases List.mem_singleton.mp ht
    exact ⟨rfl, rfl⟩

/-- One job, one refusal, one eviction. -/
theorem first_eviction_starts_in_deficit :
    (run (step (burstPool Store.minute)) (idleStart Store.minute) evictForBurst).map
      (·.core.parkedEver) = some [1] ∧
    Along (step (burstPool Store.minute)) (StartsInDeficit (burstPool Store.minute))
      (idleStart Store.minute) evictForBurst :=
  ⟨by decide +kernel, eviction_starts_in_deficit (burstPool Store.minute) idleGuest ∅ Store.second
    evictForBurst (fun _ ↦ 0) (by decide +kernel)⟩

def idleGuests : Provisioner.Cluster :=
  idleGuest.put { vmid := 10001, node := "pve1", name := "gh-runner-ci-10001", power := .running }

def fullSnapshot : Nodecap.Snapshot :=
  Nodecap.fetch {}
    [{ type := .node, node := "pve1", status := "online", maxMem := 8 * 2 ^ 30, maxCPU := 8 },
      { type := .qemu, node := "pve1", status := "running", vmid := 10000, maxMem := 4 * 2 ^ 30, maxCPU := 2 },
      { type := .qemu, node := "pve1", status := "running", vmid := 10001, maxMem := 4 * 2 ^ 30,
        maxCPU := 2 }] 0

/-- Two workers are refused for the one job, the second before the eviction that the first has armed.
It records its refusal when the capacity is parked, and the next pass evicts once more. -/
def staleDeferral : List Act :=
  adoptIdle.dropLast ++ [.fire 0 (.power (some .running)), .fire 0 .ok, .fire 0 .ok,
    .setDesiredCount "burst" 1] ++
  -- the first pass ends before its worker is refused
  readCounts 0 ++ [.advance 0 {}, .advance 1 {}, .advance 1 {}, .advance 0 {}, .advance 0 {},
    .advance 0 { snap := some fullSnapshot }, .advance 0 {}, .advance 0 {}, .advance 0 {}] ++
  -- the second pass evicts while its worker is about to record
  readCounts 0 ++ [.advance 0 {}, .advance 0 {}, .advance 1 {}, .advance 1 { snap := some fullSnapshot },
    .advance 0 {}, .advance 1 {}, .advance 1 { snap := some fullSnapshot }] ++
    List.replicate 5 (.advance 1 {}) ++ [.advance 1 { snap := some fullSnapshot }, .advance 1 {}] ++
    List.replicate 3 (.advance 0 {}) ++
  -- the third finds the flag set and the handle parked
  readCounts 0 ++ [.advance 0 {}, .advance 1 {}, .advance 1 {}, .advance 1 { snap := some fullSnapshot }] ++
    List.replicate 4 (.advance 1 {})

theorem stale_deferral_evicts_again :
    (run (step (burstPool Store.minute)) (init (burstPool Store.minute) idleGuests ∅ Store.second)
      staleDeferral).map (fun sys ↦ (outstanding sys "burst",
        sys.core.pool.store.rows.map fun row ↦ (row.vmid, row.state))) =
      some (1, [(10000, .draining), (10001, .draining)]) ∧
    ¬ Along (step (burstPool Store.minute)) (StartsInDeficit (burstPool Store.minute))
      (init (burstPool Store.minute) idleGuests ∅ Store.second) staleDeferral :=
  ⟨by decide +kernel, by decide +kernel⟩

end ScalesetProxmox.Pool.Demand
