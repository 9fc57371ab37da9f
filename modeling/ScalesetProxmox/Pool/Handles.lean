import ScalesetProxmox.Pool.DemandSteps

/-!
# What a step does to the handles

A handle is parked, drained by a claimer, taken over by a clone worker, or released. `Handed` says for a
step of an agent which handles are taken over and which are released, and that all others stay parked or
held. What is known of single handles and of their numbers follows from it.
-/

namespace ScalesetProxmox.Pool.Demand

open Store (Time)

variable {cfg : Config} {c c' : Core} {answer : Answer} {agent : Agent} {agents : List Agent}
  {threads : List Thread}

/-- The handles that a claimer has drained. -/
def Agent.held : Agent → List Parked
  | .claimParked _ _ parked => parked
  | .claimProbe _ _ _ todo chosen keep => todo ++ chosen.toList ++ keep
  | _ => []

/-- When a claimer drained what it holds. -/
def Agent.drainedAt : Agent → Time
  | .claimParked _ since _ | .claimProbe _ since _ _ _ _ => since
  | _ => 0

/-- The handle that an agent is about to park. -/
def Agent.parks (now : Time) : Agent → List Parked
  | .evictPark settings node res since _ victims =>
    [{ profile := settings.name, node := node, res := res, expires := now + parkedReservationTTL
       granted := since, victims := victims }]
  | _ => []

/-- The handle that a clone worker without a row has taken over. -/
def Thread.claimed (t : Thread) : List Parked :=
  if beforeRow t.task then (t.worker.bind Worker.parked).toList else []

/-- The handles before a step, and the one it parks, are those after it, with those taken over and those
released by it. -/
structure Handed (c c' : Core) (agent : Agent) (agents : List Agent) (threads : List Thread)
    (taken gone : List Parked) : Prop where
  perm : (c'.evicted ++ agents.flatMap Agent.held ++ (taken ++ gone)).Perm
    (c.evicted ++ agent.held ++ agent.parks c.pool.now)
  claimed : threads.flatMap Thread.claimed = taken
  consumed : c'.consumed = c.consumed ++ taken.map Parked.res
  released : c'.released = c.released ++ gone.map Parked.res
  parkedEver : c'.parkedEver = c.parkedEver ++ (agent.parks c.pool.now).map Parked.res

/-- A drain splits the parked handles into those of other profiles, the unexpired and the expired. -/
theorem drain_perm (profile : String) :
    (c.evicted.filter (·.profile ≠ profile) ++ (c.unexpired profile ++ c.expired profile)).Perm c.evicted := by
  have hown : (c.expired profile ++ c.unexpired profile).Perm (c.evicted.filter (·.profile = profile)) := by
    have hsplit := List.filter_append_perm (fun p ↦ decide (p.expires < c.pool.now))
      (c.evicted.filter (·.profile = profile))
    rw [List.filter_filter, List.filter_filter] at hsplit
    simpa only [Core.expired, Core.unexpired, Bool.and_comm, Bool.decide_and, decide_not] using hsplit
  have hothers := List.filter_append_perm (fun p ↦ decide (p.profile = profile)) c.evicted
  simp only [ne_eq, decide_not] at hothers ⊢
  exact ((List.perm_append_comm.trans hown).append_left _).trans (List.perm_append_comm.trans hothers)

/-- A step that takes over, releases and parks no handle. -/
theorem handed_of_perm
    (hperm : (c'.evicted ++ agents.flatMap Agent.held).Perm (c.evicted ++ agent.held))
    (hclaimed : threads.flatMap Thread.claimed = []) (hparks : agent.parks c.pool.now = [])
    (hconsumed : c'.consumed = c.consumed) (hreleased : c'.released = c.released)
    (hever : c'.parkedEver = c.parkedEver) : ∃ taken gone, Handed c c' agent agents threads taken gone := by
  refine ⟨[], [], ?_, hclaimed, ?_, ?_, ?_⟩
  · simpa only [hparks, List.append_nil] using hperm
  · rw [hconsumed, List.map_nil, List.append_nil]
  · rw [hreleased, List.map_nil, List.append_nil]
  · rw [hever, hparks, List.map_nil, List.append_nil]

theorem claimed_destroys (requests : List DestroyRequest) :
    (requests.map fun request ↦ ({ task := .destroyAsync request } : Thread)).flatMap Thread.claimed = [] := by
  simp [Thread.claimed, beforeRow]

theorem handed_of_advanced (h : Advanced cfg c answer agent c' agents threads) :
    ∃ taken gone, Handed c c' agent agents threads taken gone := by
  cases h with
  | @drainNone settings hnone =>
    refine ⟨[], c.expired settings.name, ?_, rfl, (List.append_nil _).symm, rfl, (List.append_nil _).symm⟩
    have hdrain := @drain_perm c settings.name
    rw [hnone] at hdrain
    simpa [Core.drainEvicted, Core.releaseAll, Agent.held, Agent.parks] using hdrain
  | @drain settings hsome =>
    refine ⟨[], c.expired settings.name, ?_, rfl, (List.append_nil _).symm, rfl, (List.append_nil _).symm⟩
    simpa [Core.drainEvicted, Core.releaseAll, Agent.held, Agent.parks] using @drain_perm c settings.name
  | claimRead | claimNone => exact handed_of_perm (by simp [Agent.held]) rfl rfl rfl rfl rfl
  | probeNext | probeChoose | probeKeep =>
    refine handed_of_perm ?_ rfl rfl rfl rfl rfl
    simp only [Agent.held, List.flatMap_cons, List.flatMap_nil]
    grind
  | @probeRelease settings since existing p todo keep =>
    refine ⟨[], [p], ?_, rfl, (List.append_nil _).symm, rfl, (List.append_nil _).symm⟩
    simp only [Core.releaseAll, Agent.held, Agent.parks, List.flatMap_cons, List.flatMap_nil]
    grind
  | @consume settings since existing p keep =>
    refine ⟨[p], [], ?_, rfl, rfl, (List.append_nil _).symm, (List.append_nil _).symm⟩
    simp only [Agent.held, Agent.parks, List.flatMap_nil]
    grind
  | @read settings stage sizing => cases stage <;> exact handed_of_perm (.refl _) rfl rfl rfl rfl rfl
  | kicked hrest =>
    rcases hrest with ⟨rfl, more, rfl, rfl⟩ | ⟨rfl, more, rfl, rfl, rfl⟩ <;>
      exact handed_of_perm (.refl _) rfl rfl rfl rfl rfl
  | evictUnreserved => exact handed_of_perm (.refl _) (claimed_destroys _) rfl rfl rfl rfl
  | parked =>
    exact ⟨[], [], by simp [Agent.held, Agent.parks, Core.endPass, Core.setProfile], claimed_destroys _,
      (List.append_nil _).symm, (List.append_nil _).symm, rfl⟩
  | _ => exact handed_of_perm (.refl _) rfl rfl rfl rfl rfl

/-- A handle was there before the step, or is the one that the step parks. -/
theorem mem_handles_advanced (h : Advanced cfg c answer agent c' agents threads) {p : Parked}
    (hp : p ∈ c'.evicted ++ agents.flatMap Agent.held) :
    p ∈ c.evicted ∨ p ∈ agent.held ++ agent.parks c.pool.now := by
  obtain ⟨taken, gone, hhanded⟩ := handed_of_advanced h
  have hbefore := hhanded.perm.subset (List.mem_append_left _ hp)
  rwa [List.append_assoc, List.mem_append] at hbefore

theorem held_advanced (h : Advanced cfg c answer agent c' agents threads) {other : Agent}
    (hother : other ∈ agents) {p : Parked} (hp : p ∈ other.held) :
    (p ∈ agent.held ∧ other.drainedAt = agent.drainedAt) ∨
      ∃ settings, agent = .admitClone settings .hot ∧ p ∈ c.unexpired settings.name ∧
        other.drainedAt = c.pool.now := by
  cases h with
  | @drain settings hsome =>
    cases List.mem_singleton.mp hother
    exact .inr ⟨settings, rfl, hp, rfl⟩
  | claimRead | probeNext | probeChoose | probeRelease | probeKeep =>
    cases List.mem_singleton.mp hother
    refine .inl ⟨?_, rfl⟩
    simp only [Agent.held, Option.toList_none, Option.toList_some, List.mem_append, List.mem_cons,
      List.not_mem_nil] at hp ⊢
    tauto
  | @read settings stage sizing =>
    cases List.mem_singleton.mp hother
    cases stage <;> cases hp
  | kicked hrest =>
    rcases hrest with ⟨rfl, more, rfl, rfl⟩ | ⟨rfl, more, rfl, rfl, rfl⟩ <;>
      simp only [List.mem_cons, List.not_mem_nil, or_false] at hother <;>
      rcases hother with rfl | rfl <;> cases hp
  | _ =>
    first
    | cases hother; done
    | cases List.mem_singleton.mp hother
      cases hp

end ScalesetProxmox.Pool.Demand
