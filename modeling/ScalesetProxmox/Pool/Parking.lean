import ScalesetProxmox.Pool.Handles

/-!
# Parked reservations

A handle that an eviction has parked is drained by clone workers, put back, consumed or released. It is
in one place at any time, on every run. Whether the reservation behind it still exists when a clone
consumes it is a matter of two clocks: the handle is good for `parkedReservationTTL`, the reservation
for `clone_inflight_grace`, and nothing makes the second the longer one.
-/

namespace ScalesetProxmox.Pool.Demand

open Store (VMID Time)
open Nodecap (Accountant Snapshot)
open Transition

variable {cfg : Config} {c c' : Core} {answer : Answer} {agent : Agent} {agents : List Agent}
  {threads : List Thread} {sys sys' : Sys} {act : Act} {labels : List Act} {id : ℕ}

/-! ## Where the handles are -/

/-- How many of the handles are for this reservation. -/
def handlesOn (id : ℕ) (handles : List Parked) : ℕ := (handles.map Parked.res).count id

/-- The places where the handle is: parked, held by claimers, consumed, released. -/
def located (sys : Sys) (id : ℕ) : ℕ :=
  handlesOn id sys.core.evicted + (sys.agents.map fun agent ↦ handlesOn id agent.held).sum +
    sys.core.consumed.count id + sys.core.released.count id

/-- The reservation is about to be parked. -/
def Agent.parking (id : ℕ) : Agent → ℕ
  | .evictPark _ _ res _ _ _ => if res = id then 1 else 0
  | _ => 0

@[simp]
theorem handlesOn_nil : handlesOn id [] = 0 := rfl

@[simp]
theorem handlesOn_append (handles others : List Parked) :
    handlesOn id (handles ++ others) = handlesOn id handles + handlesOn id others := by
  simp [handlesOn]

@[simp]
theorem handlesOn_cons (p : Parked) (handles : List Parked) :
    handlesOn id (p :: handles) = handlesOn id handles + if p.res = id then 1 else 0 := by
  simp [handlesOn, List.count_cons]

theorem count_map_res (handles : List Parked) :
    (handles.map Parked.res).count id = handlesOn id handles := rfl

theorem handlesOn_perm {handles others : List Parked} (h : handles.Perm others) :
    handlesOn id handles = handlesOn id others :=
  (h.map Parked.res).count_eq id

theorem handlesOn_flatMap (agents : List Agent) :
    handlesOn id (agents.flatMap Agent.held) = (agents.map fun agent ↦ handlesOn id agent.held).sum := by
  simp only [handlesOn, List.map_flatMap, List.count_flatMap, Function.comp_def]

theorem handlesOn_filter (p : Parked → Bool) (handles : List Parked) :
    handlesOn id (handles.filter p) + handlesOn id (handles.filter fun handle ↦ !p handle) =
      handlesOn id handles := by
  rw [← handlesOn_append]
  exact handlesOn_perm (List.filter_append_perm p handles)

theorem handlesOn_drain (profile : String) :
    handlesOn id (c.evicted.filter (·.profile ≠ profile)) + handlesOn id (c.unexpired profile) +
      handlesOn id (c.expired profile) = handlesOn id c.evicted := by
  have hdrain := @handlesOn_perm id _ _ (@drain_perm c profile)
  rwa [handlesOn_append, handlesOn_append, ← Nat.add_assoc] at hdrain

/-- What leaves one place enters another; only an eviction adds to the handles. -/
theorem located_advanced (h : Advanced cfg c answer agent c' agents threads) (id : ℕ) :
    handlesOn id c'.evicted + (agents.map fun agent ↦ handlesOn id agent.held).sum +
        c'.consumed.count id + c'.released.count id + c.parkedEver.count id =
      handlesOn id c.evicted + handlesOn id agent.held + c.consumed.count id + c.released.count id +
        c'.parkedEver.count id := by
  obtain ⟨taken, gone, hhanded⟩ := handed_of_advanced h
  have hcount := @handlesOn_perm id _ _ hhanded.perm
  simp only [handlesOn_append, handlesOn_flatMap] at hcount
  simp only [hhanded.consumed, hhanded.released, hhanded.parkedEver, List.count_append, count_map_res]
  omega

/-! ## Ids are given out once -/

theorem nextRes_releases (handles : List Parked) (ledger : Accountant) :
    (handles.foldl (fun ledger p ↦ ledger.release p.res) ledger).nextRes = ledger.nextRes := by
  induction handles generalizing ledger with
  | nil => rfl
  | cons p handles ih => exact ih (ledger.release p.res)

theorem nextRes_swept (snap : Option Snapshot) : (c.swept snap).ledger.nextRes = c.ledger.nextRes := by
  cases snap <;> rfl

theorem nextRes_perform {grace : Time} {profile : String} {claim : Option ℕ} {effect : Effect} :
    (c.perform grace profile claim effect).ledger.nextRes = c.ledger.nextRes := by
  cases claim <;> cases effect <;> rfl

theorem reserveCapacity_eq_some {snap : Option Snapshot} {now : Time} {a ledger : Accountant}
    {profile node : String}
    (h : reserveCapacity cfg.toCapacityConfig snap now a profile node = (ledger, some id)) :
    ∃ snap, ledger = (a.sweepLocked snap now).add node (cfg.shape profile) []
      (now + cfg.accountant.reservationTTL) ∧ id = a.nextRes + 1 := by
  unfold reserveCapacity at h
  cases snap with
  | none => cases h
  | some snap => exact ⟨snap, (Accountant.reserveFreeing_eq_some.mp h).2⟩

theorem nextRes_advanced (h : Advanced cfg c answer agent c' agents threads) :
    c.ledger.nextRes ≤ c'.ledger.nextRes := by
  cases h with
  | drainNone | drain | probeRelease => exact (nextRes_releases _ _).ge
  | selectFailed | selectDeferred | selected | notReserved | evictSnapshot | evictUnreserved =>
    exact (nextRes_swept _).ge
  | performed => exact nextRes_perform.ge
  | reserved hreserve =>
    obtain ⟨snap, rfl, rfl⟩ := reserveCapacity_eq_some hreserve
    exact Nat.le_succ _
  | evictReserved hreserve =>
    obtain ⟨-, rfl, rfl⟩ := Accountant.reserveFreeing_eq_some.mp hreserve
    exact Nat.le_succ _
  | _ => exact le_rfl

/-- A new reservation to be parked has an id that was not given out before. -/
theorem parking_advanced (h : Advanced cfg c answer agent c' agents threads) (id : ℕ) :
    c'.parkedEver.count id + (agents.map (Agent.parking id)).sum ≤
      c.parkedEver.count id + agent.parking id +
        if id = c.ledger.nextRes + 1 ∧ id ≤ c'.ledger.nextRes then 1 else 0 := by
  cases h with
  | @read settings stage sizing => cases stage <;> simp [readStage, Agent.parking]
  | kicked hrest =>
    rcases hrest with ⟨rfl, more, rfl, rfl⟩ | ⟨rfl, more, rfl, rfl, rfl⟩ <;>
      simp [Core.setProfile, Agent.parking]
  | evictReserved hreserve =>
    obtain ⟨-, rfl, rfl⟩ := Accountant.reserveFreeing_eq_some.mp hreserve
    by_cases hid : c.ledger.nextRes + 1 = id
    · subst hid
      simp [Agent.parking, Accountant.add, Accountant.sweepLocked]
    · simp [Agent.parking, hid]
  | parked =>
    simp [Core.setProfile, Core.endPass, Agent.parking, List.count_singleton]
  | _ =>
    simp [Core.setProfile, Core.swept, Core.perform, Core.endPass, Core.releaseAll, Core.drainEvicted,
      Agent.parking]

/-! ## Conservation -/

/-- Every handle that was parked is in one place, and was parked once. -/
structure Conserved (sys : Sys) : Prop where
  located : ∀ id, located sys id = sys.core.parkedEver.count id
  once : ∀ id, sys.core.parkedEver.count id + (sys.agents.map (Agent.parking id)).sum ≤ 1
  issued : ∀ id, 0 < sys.core.parkedEver.count id + (sys.agents.map (Agent.parking id)).sum →
    id ≤ sys.core.ledger.nextRes

theorem conserved_start (pool : Shared) (threads : List Thread) :
    Conserved ⟨startCore cfg pool, threads, []⟩ where
  located _ := rfl
  once _ := Nat.zero_le _
  issued _ h := absurd h (lt_irrefl 0)

def SameHandles (before after : List Agent) : Prop :=
  ∀ id, (after.map fun agent ↦ handlesOn id agent.held).sum =
      (before.map fun agent ↦ handlesOn id agent.held).sum ∧
    (after.map (Agent.parking id)).sum = (before.map (Agent.parking id)).sum

theorem sameHandles_refl (agents : List Agent) : SameHandles agents agents := fun _ ↦ ⟨rfl, rfl⟩

/-- A worker that has ended holds no handle and parks none. -/
theorem sameHandles_leftover (agents : List Agent) (t : Thread) (next : List Task) :
    SameHandles agents (agents ++ t.leftover next) := by
  intro id
  unfold Thread.leftover
  split <;> simp [Agent.held, Agent.parking]

theorem sameHandles_startPass (agents : List Agent) (settings : ProfileSettings) :
    SameHandles agents (agents ++ [startPass cfg settings]) := by
  intro id
  simp [startPass, Agent.held, Agent.parking]

theorem nextRes_apply (op : LedgerOp) (now : Time) (ledger : Accountant) :
    ledger.nextRes ≤ (op.apply cfg now ledger).nextRes := by
  cases op with
  | reserveFreeing snap node shape freeing =>
    simp only [LedgerOp.apply, Accountant.reserveFreeing]
    split_ifs
    · exact Nat.le_succ _
    · exact le_rfl
  | _ => exact le_rfl

/-- A step that leaves the records and the handles alone. -/
theorem Conserved.of_eq (h : Conserved sys) {core : Core} {threads : List Thread} {agents : List Agent}
    (hevicted : core.evicted = sys.core.evicted) (hconsumed : core.consumed = sys.core.consumed)
    (hreleased : core.released = sys.core.released) (hever : core.parkedEver = sys.core.parkedEver)
    (hledger : sys.core.ledger.nextRes ≤ core.ledger.nextRes) (hsame : SameHandles sys.agents agents) :
    Conserved ⟨core, threads, agents⟩ where
  located id := by
    have := h.located id
    simp only [Demand.located, hevicted, hconsumed, hreleased, hever, (hsame id).1] at this ⊢
    exact this
  once id := by
    simp only [hever, (hsame id).2]
    exact h.once id
  issued id hpos := by
    simp only [hever, (hsame id).2] at hpos
    exact (h.issued id hpos).trans hledger

theorem Conserved.advance (h : Conserved sys) {k : ℕ} (hagent : sys.agents[k]? = some agent)
    (hadvanced : Advanced cfg sys.core answer agent c' agents threads) :
    Conserved ⟨c', sys.threads ++ threads, sys.agents.eraseIdx k ++ agents⟩ where
  located id := by
    have hbefore := h.located id
    have hheld := sum_map_fire (fun agent ↦ handlesOn id agent.held) hagent agents
    have hmoved := located_advanced hadvanced id
    simp only [Demand.located] at hbefore ⊢
    omega
  once id := by
    have hbefore := h.once id
    have hissued := h.issued id
    have hparking := sum_map_fire (Agent.parking id) hagent agents
    have hmoved := parking_advanced hadvanced id
    split_ifs at hmoved <;> dsimp only <;> omega
  issued id hpos := by
    have hissued := h.issued id
    have hparking := sum_map_fire (Agent.parking id) hagent agents
    have hmoved := parking_advanced hadvanced id
    have hledger := nextRes_advanced hadvanced
    split_ifs at hmoved <;> dsimp only at hpos ⊢ <;> omega

theorem Conserved.releaseParked (h : Conserved sys) (profile : String) :
    Conserved ⟨({ sys.core with evicted := sys.core.evicted.filter (·.profile ≠ profile) } : Core).releaseAll
      (sys.core.evicted.filter (·.profile = profile)), sys.threads, sys.agents⟩ where
  located id := by
    have hbefore := h.located id
    have hsplit := @handlesOn_filter id (fun p ↦ decide (p.profile = profile)) sys.core.evicted
    simp only [Demand.located, Core.releaseAll, List.count_append, count_map_res, ne_eq,
      decide_not] at hbefore ⊢
    omega
  once := h.once
  issued id hpos := (h.issued id hpos).trans (nextRes_releases _ _).ge

theorem Conserved.step (h : Conserved sys) (hstep : step cfg sys act = some sys') : Conserved sys' := by
  cases moved_of_step hstep with
  | fire => exact h.of_eq rfl rfl rfl rfl le_rfl (sameHandles_leftover _ _ _)
  | settle => exact h.of_eq rfl rfl rfl rfl nextRes_perform.ge (sameHandles_refl _)
  | advance hagent hadvanced => exact h.advance hagent hadvanced
  | outside | retarget => exact h.of_eq rfl rfl rfl rfl le_rfl (sameHandles_refl _)
  | reconcile => exact h.of_eq rfl rfl rfl rfl le_rfl (sameHandles_startPass _ _)
  | releaseParked => exact h.releaseParked _
  | elsewhere => exact h.of_eq rfl rfl rfl rfl (nextRes_apply _ _ _) (sameHandles_refl _)
  | crash => exact conserved_start _ _

/-! ## Who may touch a reservation -/

/-- How often an agent holds the reservation, to release it, to bind it or to hand it on. -/
def Agent.holds (id : ℕ) : Agent → ℕ
  | .claimParked _ _ parked => handlesOn id parked
  | .claimProbe _ _ _ todo chosen keep => handlesOn id (todo ++ chosen.toList ++ keep)
  | .finish _ claim _ => claim.toList.count id
  | .evictPark _ _ res _ _ _ => if res = id then 1 else 0
  | _ => 0

def Thread.holds (id : ℕ) (t : Thread) : ℕ := (t.worker.map Worker.claim).toList.count id

/-- How many hands the reservation is in. -/
def inHand (sys : Sys) (id : ℕ) : ℕ :=
  handlesOn id sys.core.evicted + (sys.agents.map (Agent.holds id)).sum +
    (sys.threads.map (Thread.holds id)).sum

/-- No two hands hold one reservation, and nobody else's. -/
structure Unshared (sys : Sys) : Prop where
  once : ∀ id, inHand sys id ≤ 1
  owned : ∀ id, 0 < inHand sys id → id ∈ sys.core.owned
  issued : ∀ id ∈ sys.core.owned, id ≤ sys.core.ledger.nextRes

theorem unshared_start (pool : Shared) (task : Task) :
    Unshared ⟨startCore cfg pool, [{ task := task }], []⟩ where
  once id := Nat.zero_le _
  owned id h := absurd h (lt_irrefl 0)
  issued id h := by cases h

/-- The claim goes on with the worker, or with what is left of it. -/
theorem holds_after (t : Thread) {next : List Task} (hnext : next.countP cloning ≤ 1) (id : ℕ) :
    ((t.after cfg.toConfig next).map (Thread.holds id)).sum +
      ((t.leftover next).map (Agent.holds id)).sum ≤ t.holds id := by
  obtain ⟨task, worker, todo⟩ := t
  cases worker with
  | none =>
    simp [Thread.after, Thread.leftover, Thread.holds, Function.comp_def]
  | some w =>
    have hclaims := @sum_map_after cfg task (Thread.holds id) cloning ([w.claim].count id) w todo
      (fun _ h ↦ h) (fun _ ↦ rfl) (fun _ _ h ↦ (if_pos h).symm)
    have hleft : ((Thread.leftover ⟨task, some w, todo⟩ next).map (Agent.holds id)).sum ≤
        if next = [] then [w.claim].count id else 0 := by
      unfold Thread.leftover
      split <;> simp_all [Agent.holds]
    rw [hclaims]
    cases next with
    | nil => simpa [Thread.holds] using hleft
    | cons other next =>
      simp only [reduceCtorEq, if_false, Nat.le_zero] at hleft
      rw [hleft]
      exact (Nat.mul_le_mul_right _ hnext).trans_eq (Nat.one_mul _)

/-- A hand passes the reservation on at most, and a new one has the next id. -/
theorem holds_advanced (h : Advanced cfg c answer agent c' agents threads) (id : ℕ) :
    handlesOn id c'.evicted + (agents.map (Agent.holds id)).sum + (threads.map (Thread.holds id)).sum ≤
      handlesOn id c.evicted + agent.holds id +
        if id = c.ledger.nextRes + 1 ∧ id ≤ c'.ledger.nextRes ∧ id ∈ c'.owned then 1 else 0 := by
  cases h with
  | @drainNone settings hnone =>
    have hdrain := @handlesOn_drain c id settings.name
    rw [hnone] at hdrain
    simp [Core.drainEvicted, Core.releaseAll, Agent.holds] at hdrain ⊢
    omega
  | @drain settings hsome =>
    have hdrain := @handlesOn_drain c id settings.name
    simp [Core.drainEvicted, Core.releaseAll, Agent.holds] at hdrain ⊢
    omega
  | @read settings stage sizing => cases stage <;> simp [readStage, Agent.holds]
  | kicked hrest =>
    rcases hrest with ⟨rfl, more, rfl, rfl⟩ | ⟨rfl, more, rfl, rfl, rfl⟩ <;>
      simp [Core.setProfile, Agent.holds]
  | reserved hreserve =>
    obtain ⟨snap, rfl, rfl⟩ := reserveCapacity_eq_some hreserve
    by_cases hid : c.ledger.nextRes + 1 = id
    · subst hid
      simp [Agent.holds, Thread.holds, cloneThread, Accountant.add, Accountant.sweepLocked]
    · simp [Agent.holds, Thread.holds, cloneThread, hid]
  | evictReserved hreserve =>
    obtain ⟨-, rfl, rfl⟩ := Accountant.reserveFreeing_eq_some.mp hreserve
    by_cases hid : c.ledger.nextRes + 1 = id
    · subst hid
      simp [Agent.holds, Accountant.add, Accountant.sweepLocked]
    · simp [Agent.holds, hid]
  | _ =>
    simp [Core.setProfile, Core.swept, Core.perform, Core.endPass, Core.releaseAll, Agent.holds,
      Thread.holds, cloneThread, Function.comp_def, List.count_singleton] <;> omega

/-- The ids of this process; a new one is the next. -/
theorem owned_advanced (h : Advanced cfg c answer agent c' agents threads) :
    c'.owned = c.owned ∨
      (c'.owned = c.owned ++ [c.ledger.nextRes + 1] ∧ c.ledger.nextRes + 1 ≤ c'.ledger.nextRes) := by
  cases h with
  | reserved hreserve =>
    obtain ⟨snap, rfl, rfl⟩ := reserveCapacity_eq_some hreserve
    exact .inr ⟨rfl, le_rfl⟩
  | evictReserved hreserve =>
    obtain ⟨-, rfl, rfl⟩ := Accountant.reserveFreeing_eq_some.mp hreserve
    exact .inr ⟨rfl, le_rfl⟩
  | _ => exact .inl rfl

theorem Unshared.of_le (h : Unshared sys) (hle : ∀ id, inHand sys' id ≤ inHand sys id)
    (howned : sys'.core.owned = sys.core.owned)
    (hledger : sys.core.ledger.nextRes ≤ sys'.core.ledger.nextRes) : Unshared sys' where
  once id := (hle id).trans (h.once id)
  owned id hpos := howned ▸ h.owned id (hpos.trans_le (hle id))
  issued id hid := (h.issued id (howned ▸ hid)).trans hledger

theorem Unshared.advance (h : Unshared sys) {k : ℕ} (hagent : sys.agents[k]? = some agent)
    (hadvanced : Advanced cfg sys.core answer agent c' agents threads) :
    Unshared ⟨c', sys.threads ++ threads, sys.agents.eraseIdx k ++ agents⟩ := by
  have hledger := nextRes_advanced hadvanced
  have howned := owned_advanced hadvanced
  have hbefore (id : ℕ) : inHand ⟨c', sys.threads ++ threads, sys.agents.eraseIdx k ++ agents⟩ id ≤
      inHand sys id + if id = sys.core.ledger.nextRes + 1 ∧ id ≤ c'.ledger.nextRes ∧ id ∈ c'.owned
        then 1 else 0 := by
    have hmoved := holds_advanced hadvanced id
    have hagents := sum_map_fire (Agent.holds id) hagent agents
    simp only [inHand, List.map_append, List.sum_append] at hagents ⊢
    omega
  refine ⟨fun id ↦ ?_, fun id hpos ↦ ?_, fun id hid ↦ ?_⟩
  · have honce := h.once id
    have hmoved := hbefore id
    by_cases hnew : id = sys.core.ledger.nextRes + 1
    · -- nobody has a hand on an id that was not given out
      have hfree : ¬ 0 < inHand sys id := fun hpos ↦ by
        have := h.issued id (h.owned id hpos)
        omega
      split_ifs at hmoved <;> omega
    · rw [if_neg fun hall ↦ hnew hall.1] at hmoved
      omega
  · have hmoved := hbefore id
    by_cases hnew : id = sys.core.ledger.nextRes + 1 ∧ id ≤ c'.ledger.nextRes ∧ id ∈ c'.owned
    · exact hnew.2.2
    · rw [if_neg hnew] at hmoved
      have hold := h.owned id (hpos.trans_le hmoved)
      rcases howned with heq | ⟨heq, -⟩ <;> simp [heq, hold]
  · rcases howned with heq | ⟨heq, hnext⟩ <;> simp only [heq] at hid
    · exact (h.issued id hid).trans hledger
    · rcases List.mem_append.mp hid with hid | hid
      · exact (h.issued id hid).trans hledger
      · exact (List.mem_singleton.mp hid).trans_le hnext

theorem Unshared.step (h : Unshared sys) (hstep : step cfg sys act = some sys') : Unshared sys' := by
  cases moved_of_step hstep with
  | @fire i reply t pool next hthread htodo hexec =>
    refine h.of_le (fun id ↦ ?_) rfl le_rfl
    have hmoved := @holds_after cfg t next (countP_cloning_le_one hexec) id
    have hthreads := sum_map_fire (Thread.holds id) hthread (t.after cfg.toConfig next)
    simp only [inHand, List.map_append, List.sum_append] at hthreads ⊢
    omega
  | @settle i task w effect todo hthread =>
    refine h.of_le (fun id ↦ ?_) rfl nextRes_perform.ge
    have hthreads := sum_map_fire (Thread.holds id) hthread [⟨task, some w, todo⟩]
    simp only [inHand, List.map_cons, List.map_nil, List.sum_cons, List.sum_nil] at hthreads ⊢
    have hsame : Thread.holds id ⟨task, some w, todo⟩ = Thread.holds id ⟨task, some w, effect :: todo⟩ := rfl
    simp only [Core.perform, Core.setProfile]
    omega
  | advance hagent hadvanced => exact h.advance hagent hadvanced
  | outside =>
    exact h.of_le (fun id ↦ by simp [inHand, Thread.holds, Function.comp_def]) rfl le_rfl
  | reconcile => exact h.of_le (fun id ↦ by simp [inHand, startPass, Agent.holds, Core.setProfile]) rfl le_rfl
  | retarget => exact h.of_le (fun id ↦ le_rfl) rfl le_rfl
  | @releaseParked profile =>
    refine h.of_le (fun id ↦ ?_) rfl (nextRes_releases _ _).ge
    have hsplit := @handlesOn_filter id (fun p ↦ decide (p.profile = profile)) sys.core.evicted
    simp only [inHand, Core.releaseAll, ne_eq, decide_not]
    omega
  | elsewhere => exact h.of_le (fun id ↦ le_rfl) rfl (nextRes_apply _ _ _)
  | crash => exact unshared_start _ _

/-! ## The reservation behind a handle -/

/-- The ledger has the reservation as it was granted, or its time is up. -/
def Backed (cfg : Config) (now : Time) (ledger : Accountant) (stake : ℕ × Time) : Prop :=
  (∃ r, ledger.res.get stake.1 = some r ∧ r.vmid = 0 ∧
    r.expires = stake.2 + cfg.accountant.reservationTTL) ∨
  stake.2 + cfg.accountant.reservationTTL < now

/-- Of the reservation, whatever is backed stays backed. -/
def Keeps (cfg : Config) (now : Time) (before after : Accountant) (id : ℕ) : Prop :=
  ∀ granted, Backed cfg now before (id, granted) → Backed cfg now after (id, granted)

section Ledger

variable {now : Time} {ledger : Accountant}

theorem Backed.mono {now' : Time} {stake : ℕ × Time} (h : Backed cfg now ledger stake) (hnow : now ≤ now') :
    Backed cfg now' ledger stake :=
  h.imp_right fun hlate ↦ hlate.trans_le hnow

theorem keeps_refl : Keeps cfg now ledger ledger id := fun _ h ↦ h

theorem Keeps.trans {middle after : Accountant} (h : Keeps cfg now ledger middle id)
    (h' : Keeps cfg now middle after id) : Keeps cfg now ledger after id :=
  fun granted hbacked ↦ h' granted (h granted hbacked)

/-- A sweep takes what has expired, and nothing else that is not bound. -/
theorem keeps_sweepLocked (snap : Snapshot) : Keeps cfg now ledger (ledger.sweepLocked snap now) id := by
  intro granted hbacked
  rcases hbacked with ⟨r, hr, hvmid, hexpires⟩ | hlate
  · by_cases hlate : r.expires < now
    · exact .inr (hexpires ▸ hlate)
    · refine .inl ⟨{ r with freeing := r.freeing.filter fun v ↦ (snap.guests.lookup v).isSome }, ?_, hvmid,
        hexpires⟩
      rw [Accountant.get_sweepLocked, hr]
      exact Accountant.sweepOne_eq_some.mpr ⟨hlate, fun hbound ↦ hbound.1 hvmid, rfl⟩
  · exact .inr hlate

theorem keeps_bind {other : ℕ} {v : VMID} (hother : id ≠ other) :
    Keeps cfg now ledger (ledger.bind other v) id := by
  intro granted hbacked
  refine hbacked.imp_left fun ⟨r, hr, hvmid, hexpires⟩ ↦ ⟨r, ?_, hvmid, hexpires⟩
  rw [Accountant.get_bind, hr, Option.map_some, Accountant.bindOne,
    if_neg (Table.key_of_get hr ▸ hother)]

theorem keeps_release {other : ℕ} (hother : id ≠ other) :
    Keeps cfg now ledger (ledger.release other) id := by
  intro granted hbacked
  refine hbacked.imp_left fun ⟨r, hr, hvmid, hexpires⟩ ↦ ⟨r, ?_, hvmid, hexpires⟩
  rw [Accountant.get_release, if_neg hother, hr]

theorem keeps_releases {handles : List Parked} (hfree : id ∉ handles.map Parked.res) :
    Keeps cfg now ledger (handles.foldl (fun ledger p ↦ ledger.release p.res) ledger) id := by
  induction handles generalizing ledger with
  | nil => exact keeps_refl
  | cons p handles ih =>
    rw [List.map_cons, List.mem_cons, not_or] at hfree
    exact (keeps_release hfree.1).trans (ih hfree.2)

theorem keeps_add {node : String} {shape : Nodecap.Shape} {freeing : List VMID} {expires : Time} :
    Keeps cfg now ledger (ledger.add node shape freeing expires) id := by
  intro granted hbacked
  refine hbacked.imp_left fun ⟨r, hr, hvmid, hexpires⟩ ↦ ⟨r, ?_, hvmid, hexpires⟩
  have hissued := ledger.issued id r hr
  rw [Accountant.add, Table.get_put, if_neg (by dsimp only; omega), hr]

theorem keeps_swept (snap : Option Snapshot) : Keeps cfg c.pool.now c.ledger (c.swept snap).ledger id := by
  cases snap with
  | none => exact keeps_refl
  | some snap => exact keeps_sweepLocked snap

theorem keeps_perform {grace : Time} {profile : String} {claim : Option ℕ} {effect : Effect}
    (hclaim : claim ≠ some id) :
    Keeps cfg now c.ledger (c.perform grace profile claim effect).ledger id := by
  cases claim with
  | none => exact keeps_refl
  | some other =>
    have hother : id ≠ other := fun heq ↦ hclaim (heq ▸ rfl)
    cases effect with
    | bind v => exact keeps_bind hother
    | releaseClaim => exact keeps_release hother
    | _ => exact keeps_refl

/-- Other holders of the accountant keep to their own reservations. -/
theorem keeps_apply {op : LedgerOp} {owned : List ℕ} (hmay : op.mayApply owned) (hid : id ∈ owned) :
    Keeps cfg now ledger (op.apply cfg now ledger) id := by
  cases op with
  | sweep snap => exact keeps_sweepLocked snap
  | reserveFreeing snap node shape freeing =>
    simp only [LedgerOp.apply, Accountant.reserveFreeing]
    split_ifs
    · exact (keeps_sweepLocked snap).trans keeps_add
    · exact keeps_sweepLocked snap
  | bind other v => exact keeps_bind fun heq ↦ of_decide_eq_true hmay (heq ▸ hid)
  | release other => exact keeps_release fun heq ↦ of_decide_eq_true hmay (heq ▸ hid)

end Ledger

/-- A handle's reservation and when it was granted. -/
def Parked.stake (p : Parked) : ℕ × Time := (p.res, p.granted)

def Agent.stakes : Agent → List (ℕ × Time)
  | .claimParked _ _ parked => parked.map Parked.stake
  | .claimProbe _ _ _ todo chosen keep => (todo ++ chosen.toList ++ keep).map Parked.stake
  | .evictPark _ _ res since _ _ => [(res, since)]
  | _ => []

/-- The reservations that are parked, drained by claimers or about to be parked. -/
def Sys.stakes (sys : Sys) : List (ℕ × Time) :=
  sys.core.evicted.map Parked.stake ++ sys.agents.flatMap Agent.stakes

theorem map_fst_stake (handles : List Parked) :
    ((handles.map Parked.stake).map Prod.fst).count id = handlesOn id handles := by
  rw [List.map_map]
  rfl

theorem stakes_le_holds (agent : Agent) : (agent.stakes.map Prod.fst).count id ≤ agent.holds id := by
  cases agent with
  | claimParked | claimProbe => exact (map_fst_stake _).le
  | _ => simp [Agent.stakes, Agent.holds, List.count_singleton]

theorem stakes_le_inHand (agents : List Agent) :
    ((agents.flatMap Agent.stakes).map Prod.fst).count id ≤ (agents.map (Agent.holds id)).sum := by
  induction agents with
  | nil => exact le_rfl
  | cons agent agents ih =>
    rw [List.flatMap_cons, List.map_append, List.count_append, List.map_cons, List.sum_cons]
    exact Nat.add_le_add (stakes_le_holds agent) ih

/-- The ledger keeps a reservation through a step, or the step takes it out of play. -/
theorem keeps_advanced (h : Advanced cfg c answer agent c' agents threads) (id : ℕ) :
    Keeps cfg c.pool.now c.ledger c'.ledger id ∨
      handlesOn id c'.evicted + ((agents.flatMap Agent.stakes).map Prod.fst).count id + 1 ≤
        handlesOn id c.evicted + agent.holds id := by
  -- a handle that is released is in no hand any more
  have hrelease (handles : List Parked) :
      Keeps cfg c.pool.now c.ledger (handles.foldl (fun ledger p ↦ ledger.release p.res) c.ledger) id ∨
        1 ≤ handlesOn id handles := by
    by_cases hmem : id ∈ handles.map Parked.res
    · exact .inr (List.count_pos_iff.mpr hmem)
    · exact .inl (keeps_releases hmem)
  cases h with
  | @drainNone settings hnone =>
    refine (hrelease (c.expired settings.name)).imp_right fun hexpired ↦ ?_
    have hdrain := @handlesOn_drain c id settings.name
    simp only [Core.drainEvicted, Core.releaseAll, Agent.stakes, Agent.holds, List.flatMap_cons,
      List.flatMap_nil, List.append_nil, List.map_nil, List.count_nil] at hdrain ⊢
    omega
  | @drain settings hsome =>
    refine (hrelease (c.expired settings.name)).imp_right fun hexpired ↦ ?_
    have hdrain := @handlesOn_drain c id settings.name
    simp only [Core.drainEvicted, Core.releaseAll, Agent.stakes, Agent.holds, List.flatMap_cons,
      List.flatMap_nil, List.append_nil, map_fst_stake] at hdrain ⊢
    omega
  | @probeRelease settings since existing p todo keep memory =>
    refine (hrelease [p]).imp_right fun hreleased ↦ ?_
    simp only [Core.releaseAll, Agent.stakes, Agent.holds, List.flatMap_cons, List.flatMap_nil,
      List.append_nil, map_fst_stake, handlesOn_append, handlesOn_cons, handlesOn_nil,
      Option.toList_none] at hreleased ⊢
    omega
  | @performed profile claim effect todo =>
    by_cases hclaim : claim = some id
    · refine .inr ?_
      subst hclaim
      simp [Agent.stakes, Agent.holds, Core.perform, Core.setProfile]
    · exact .inl (keeps_perform hclaim)
  | selectFailed | selectDeferred | selected | notReserved | evictSnapshot | evictUnreserved =>
    exact .inl (keeps_swept _)
  | reserved hreserve =>
    obtain ⟨snap, rfl, -⟩ := reserveCapacity_eq_some hreserve
    exact .inl ((keeps_sweepLocked snap).trans keeps_add)
  | evictReserved hreserve =>
    obtain ⟨-, rfl, -⟩ := Accountant.reserveFreeing_eq_some.mp hreserve
    exact .inl ((keeps_sweepLocked _).trans keeps_add)
  | _ => exact .inl keeps_refl

theorem stakes_eq (agent : Agent) (now : Time) :
    agent.stakes = (agent.held ++ agent.parks now).map Parked.stake := by
  cases agent with
  | claimParked | claimProbe => simp [Agent.stakes, Agent.held, Agent.parks]
  | _ => rfl

/-- A reservation that is to be parked has just been granted. -/
theorem parks_advanced (h : Advanced cfg c answer agent c' agents threads) {other : Agent}
    (hother : other ∈ agents) {p : Parked} (hp : p ∈ other.parks c.pool.now) :
    Backed cfg c.pool.now c'.ledger p.stake := by
  cases h with
  | evictReserved hreserve =>
    obtain ⟨-, rfl, rfl⟩ := Accountant.reserveFreeing_eq_some.mp hreserve
    cases List.mem_singleton.mp hother
    cases List.mem_singleton.mp hp
    exact .inl ⟨_, Table.get_put_self _ _, rfl, rfl⟩
  | @read settings stage sizing =>
    cases List.mem_singleton.mp hother
    cases stage <;> cases hp
  | kicked hrest =>
    rcases hrest with ⟨rfl, more, rfl, rfl⟩ | ⟨rfl, more, rfl, rfl, rfl⟩ <;>
      simp only [List.mem_cons, List.not_mem_nil, or_false] at hother <;>
      rcases hother with rfl | rfl <;> cases hp
  | _ =>
    first
    | cases hother; done
    | cases List.mem_singleton.mp hother
      cases hp

/-- What is at stake after a step was so before it, or was granted by it. -/
theorem stakes_advanced (h : Advanced cfg c answer agent c' agents threads) {stake : ℕ × Time}
    (hstake : stake ∈ c'.evicted.map Parked.stake ++ agents.flatMap Agent.stakes) :
    stake ∈ c.evicted.map Parked.stake ++ agent.stakes ∨ Backed cfg c.pool.now c'.ledger stake := by
  have hkept (p : Parked) (hp : p ∈ c'.evicted ++ agents.flatMap Agent.held) :
      p.stake ∈ c.evicted.map Parked.stake ++ agent.stakes := by
    rw [stakes_eq agent c.pool.now]
    exact (mem_handles_advanced h hp).elim (fun hparked ↦ List.mem_append_left _ (List.mem_map_of_mem hparked))
      fun hheld ↦ List.mem_append_right _ (List.mem_map_of_mem hheld)
  rcases List.mem_append.mp hstake with hparked | hnew
  · obtain ⟨p, hp, rfl⟩ := List.mem_map.mp hparked
    exact .inl (hkept p (List.mem_append_left _ hp))
  · obtain ⟨other, hother, hmem⟩ := List.mem_flatMap.mp hnew
    rw [stakes_eq other c.pool.now] at hmem
    obtain ⟨p, hp, rfl⟩ := List.mem_map.mp hmem
    rcases List.mem_append.mp hp with hheld | hparks
    · exact .inl (hkept p (List.mem_append_right _ (List.mem_flatMap.mpr ⟨other, hother, hheld⟩)))
    · exact .inr (parks_advanced h hother hparks)

def AllBacked (cfg : Config) (sys : Sys) : Prop :=
  ∀ stake ∈ sys.stakes, Backed cfg sys.core.pool.now sys.core.ledger stake

/-- The reservations at stake are among those in hand. -/
theorem count_stakes_le (sys : Sys) (id : ℕ) :
    (sys.stakes.map Prod.fst).count id ≤
      handlesOn id sys.core.evicted + (sys.agents.map (Agent.holds id)).sum := by
  rw [Sys.stakes, List.map_append, List.count_append, map_fst_stake]
  exact Nat.add_le_add_left (stakes_le_inHand sys.agents) _

theorem count_pos_of_mem_stakes {stake : ℕ × Time} (h : stake ∈ sys.stakes) :
    0 < (sys.stakes.map Prod.fst).count stake.1 :=
  List.count_pos_iff.mpr (List.mem_map_of_mem h)

/-- Time passes, and what is at stake stays so, while the ledger keeps it. -/
theorem AllBacked.of_keeps (h : AllBacked cfg sys) (hnow : sys.core.pool.now ≤ sys'.core.pool.now)
    (hstakes : ∀ stake ∈ sys'.stakes, stake ∈ sys.stakes ∧
      Keeps cfg sys.core.pool.now sys.core.ledger sys'.core.ledger stake.1) : AllBacked cfg sys' := by
  intro stake hstake
  obtain ⟨hbefore, hkeeps⟩ := hstakes stake hstake
  exact (hkeeps stake.2 (h stake hbefore)).mono hnow

theorem now_advanced (h : Advanced cfg c answer agent c' agents threads) : c'.pool.now = c.pool.now := by
  cases h with
  | committed hexec => exact (exec_frame hexec).1
  | _ => rfl

theorem AllBacked.advance (h : AllBacked cfg sys) (hunshared : Unshared sys) {k : ℕ}
    (hagent : sys.agents[k]? = some agent)
    (hadvanced : Advanced cfg sys.core answer agent c' agents threads) :
    AllBacked cfg ⟨c', sys.threads ++ threads, sys.agents.eraseIdx k ++ agents⟩ := by
  intro stake hstake
  refine Backed.mono ?_ (now_advanced hadvanced).ge
  have hpos := count_pos_of_mem_stakes hstake
  have hmem : stake ∈ sys.stakes ∨ Backed cfg sys.core.pool.now c'.ledger stake := by
    simp only [Sys.stakes, List.flatMap_append, List.mem_append] at hstake ⊢
    rcases hstake with hparked | hother | hnew
    · refine (stakes_advanced hadvanced (List.mem_append_left _ hparked)).imp_left fun hbefore ↦ ?_
      refine (List.mem_append.mp hbefore).imp_right fun hheld ↦ ?_
      exact List.mem_flatMap.mpr ⟨agent, List.mem_of_getElem? hagent, hheld⟩
    · refine .inl (.inr ?_)
      obtain ⟨other, hother, hheld⟩ := List.mem_flatMap.mp hother
      exact List.mem_flatMap.mpr ⟨other, List.mem_of_mem_eraseIdx hother, hheld⟩
    · refine (stakes_advanced hadvanced (List.mem_append_right _ hnew)).imp_left fun hbefore ↦ ?_
      refine (List.mem_append.mp hbefore).imp_right fun hheld ↦ ?_
      exact List.mem_flatMap.mpr ⟨agent, List.mem_of_getElem? hagent, hheld⟩
  rcases hmem with hbefore | hbacked
  · rcases keeps_advanced hadvanced stake.1 with hkeeps | hout
    · exact hkeeps stake.2 (h stake hbefore)
    · -- the step took the only hand off the reservation
      exfalso
      have honce := hunshared.once stake.1
      have hothers := @stakes_le_inHand stake.1 (sys.agents.eraseIdx k)
      have hsum := sum_map_fire (Agent.holds stake.1) hagent []
      simp only [Sys.stakes, List.flatMap_append, List.map_append, List.count_append,
        map_fst_stake] at hpos
      simp only [inHand, List.append_nil, List.map_nil, List.sum_nil] at honce hsum
      omega
  · exact hbacked

theorem AllBacked.step (h : AllBacked cfg sys) (hunshared : Unshared sys)
    (hstep : step cfg sys act = some sys') : AllBacked cfg sys' := by
  cases moved_of_step hstep with
  | @fire i reply t pool next hthread htodo hexec =>
    refine h.of_keeps (exec_frame hexec).1.ge fun stake hstake ↦ ⟨?_, keeps_refl⟩
    have hleft : (t.leftover next).flatMap Agent.stakes = [] := by
      unfold Thread.leftover
      split <;> rfl
    rwa [Sys.stakes, List.flatMap_append, hleft, List.append_nil] at hstake
  | @settle i task w effect todo hthread =>
    refine h.of_keeps le_rfl fun stake hstake ↦ ⟨hstake, keeps_perform fun hclaim ↦ ?_⟩
    -- the worker has its hand on its claim
    have honce := hunshared.once stake.1
    have hcount := (count_pos_of_mem_stakes hstake).trans_le (count_stakes_le sys stake.1)
    have hsum := sum_map_fire (Thread.holds stake.1) hthread []
    have hheld : Thread.holds stake.1 ⟨task, some w, effect :: todo⟩ = 1 := by
      simp [Thread.holds, Option.some.inj hclaim]
    simp only [inHand, List.append_nil, List.map_nil, List.sum_nil] at honce hsum
    omega
  | advance hagent hadvanced => exact h.advance hunshared hagent hadvanced
  | outside hfrom hpool => exact h.of_keeps (step_now hpool) fun stake hstake ↦ ⟨hstake, keeps_refl⟩
  | reconcile =>
    refine h.of_keeps le_rfl fun stake hstake ↦ ⟨?_, keeps_refl⟩
    rw [Sys.stakes, List.flatMap_append] at hstake
    simpa [Sys.stakes, startPass, Agent.stakes, Core.setProfile] using hstake
  | retarget => exact h.of_keeps le_rfl fun stake hstake ↦ ⟨hstake, keeps_refl⟩
  | @releaseParked profile =>
    refine h.of_keeps le_rfl fun stake hstake ↦ ⟨?_, keeps_releases fun hreleased ↦ ?_⟩
    · refine (List.mem_append.mp hstake).elim (fun hparked ↦ List.mem_append_left _ ?_)
        (List.mem_append_right _)
      obtain ⟨p, hp, rfl⟩ := List.mem_map.mp hparked
      exact List.mem_map_of_mem (List.mem_of_mem_filter hp)
    · have honce := hunshared.once stake.1
      have hcount := (count_pos_of_mem_stakes hstake).trans_le (count_stakes_le _ stake.1)
      have hsplit := @handlesOn_filter stake.1 (fun p ↦ decide (p.profile = profile)) sys.core.evicted
      have hgone : 0 < handlesOn stake.1 (sys.core.evicted.filter (·.profile = profile)) :=
        List.count_pos_iff.mpr hreleased
      simp only [inHand, Core.releaseAll, ne_eq, decide_not] at honce hcount
      omega
  | elsewhere hmay =>
    refine h.of_keeps le_rfl fun stake hstake ↦ ⟨hstake, keeps_apply hmay (hunshared.owned _ ?_)⟩
    have hcount := (count_pos_of_mem_stakes hstake).trans_le (count_stakes_le _ stake.1)
    exact hcount.trans_le (Nat.le_add_right _ _)
  | crash => exact fun stake hstake ↦ absurd hstake (List.not_mem_nil)

/-! ## Consumption -/

/-- The handle that a clone takes over in this step. -/
def consumes (sys : Sys) : Act → Option Parked
  | .advance k _ =>
    match sys.agents[k]? with
    | some (.claimProbe _ _ _ [] chosen _) => chosen
    | _ => none
  | _ => none

/-- The reservation of a handle that is consumed was granted no longer ago than it lives. -/
def InTime (cfg : Config) (sys : Sys) (act : Act) (_ : Sys) : Prop :=
  ∀ p ∈ consumes sys act, sys.core.pool.now ≤ p.granted + cfg.accountant.reservationTTL

/-- The ledger has the reservation of a handle that is consumed. -/
def ConsumesLive (sys : Sys) (act : Act) (_ : Sys) : Prop :=
  ∀ p ∈ consumes sys act, (sys.core.ledger.res.get p.res).isSome

instance decidableInTime (cfg : Config) (sys : Sys) (act : Act) (sys' : Sys) :
    Decidable (InTime cfg sys act sys') :=
  inferInstanceAs (Decidable (∀ p ∈ consumes sys act, _))

instance decidableConsumesLive (sys : Sys) (act : Act) (sys' : Sys) :
    Decidable (ConsumesLive sys act sys') :=
  inferInstanceAs (Decidable (∀ p ∈ consumes sys act, _))

theorem consumes_eq_some {p : Parked} (h : consumes sys act = some p) :
    ∃ k answer settings since existing keep, act = .advance k answer ∧
      sys.agents[k]? = some (.claimProbe settings since existing [] (some p) keep) := by
  cases act with
  | advance k answer =>
    simp only [consumes] at h
    split at h
    · next settings since existing chosen keep hagent =>
      subst h
      exact ⟨k, answer, settings, since, existing, keep, rfl, hagent⟩
    · cases h
  | _ => cases h

theorem stake_of_consumes {p : Parked} (h : consumes sys act = some p) : p.stake ∈ sys.stakes := by
  obtain ⟨k, answer, settings, since, existing, keep, rfl, hagent⟩ := consumes_eq_some h
  refine List.mem_append_right _ (List.mem_flatMap.mpr ⟨_, List.mem_of_getElem? hagent, ?_⟩)
  simp [Agent.stakes]

theorem conserved_run (cluster : Provisioner.Cluster) (runners : Gh.Runners) (now : Time)
    (hrun : run (step cfg) (init cfg cluster runners now) labels = some sys) : Conserved sys := by
  refine invariant_of_along (C := fun _ _ _ ↦ True) Conserved ?_ (conserved_start _ _)
    (along_of_step fun _ _ _ _ ↦ trivial) hrun
  exact fun s a t hinv _ hstep ↦ hinv.step hstep

/-- A parked handle is in exactly one place on every run, and a clone that consumes it while the
reservation can live finds the reservation. -/
theorem parked_handles_conserved_and_live (cfg : Config) (cluster : Provisioner.Cluster)
    (runners : Gh.Runners) (now : Time) (labels : List Act) :
    (∀ sys, run (step cfg) (init cfg cluster runners now) labels = some sys →
      ∀ id ∈ sys.core.parkedEver, located sys id = 1) ∧
    (Along (step cfg) (InTime cfg) (init cfg cluster runners now) labels →
      Along (step cfg) ConsumesLive (init cfg cluster runners now) labels) := by
  constructor
  · intro sys hrun id hid
    have hconserved := conserved_run cluster runners now hrun
    have honce := hconserved.once id
    have hpos := List.count_pos_iff.mpr hid
    rw [hconserved.located]
    omega
  · refine along_of_invariant (fun sys ↦ Unshared sys ∧ AllBacked cfg sys) ?_
      ⟨unshared_start _ _, fun stake hstake ↦ absurd hstake List.not_mem_nil⟩
    intro sys act sys' ⟨hunshared, hbacked⟩ hintime hstep
    refine ⟨fun p hp ↦ ?_, hunshared.step hstep, hbacked.step hunshared hstep⟩
    rcases hbacked _ (stake_of_consumes hp) with ⟨r, hr, -⟩ | hlate
    · exact Option.isSome_iff_exists.mpr ⟨r, hr⟩
    · exact absurd (hintime p hp) (not_le.mpr hlate)

/-- The next pass consumes what the eviction has parked. -/
theorem parked_handle_live_at_once :
    (run (step (burstPool Store.minute)) (idleStart Store.minute)
      (evictForBurst ++ readCounts 0 ++ claimOne)).map (·.core.consumed) = some [1] ∧
    Along (step (burstPool Store.minute)) ConsumesLive (idleStart Store.minute)
      (evictForBurst ++ readCounts 0 ++ claimOne) :=
  ⟨by decide +kernel, (parked_handles_conserved_and_live (burstPool Store.minute) idleGuest ∅ Store.second
    (evictForBurst ++ readCounts 0 ++ claimOne)).2 (by decide +kernel)⟩

/-- With a grace of one minute, the handle outlives its reservation by half a minute. -/
theorem consumed_handle_without_reservation :
    (run (step (burstPool Store.minute)) (idleStart Store.minute)
      (evictForBurst ++ [.outside (.elapse 61000000000), .elsewhere (.sweep crowdedSnapshot)] ++
        readCounts 0 ++ claimOne)).map (fun sys ↦ (sys.core.consumed, sys.core.ledger.res.get 1)) =
      some ([1], none) ∧
    ¬ Along (step (burstPool Store.minute)) ConsumesLive (idleStart Store.minute)
      (evictForBurst ++ [.outside (.elapse 61000000000), .elsewhere (.sweep crowdedSnapshot)] ++
        readCounts 0 ++ claimOne) :=
  ⟨by decide +kernel, by decide +kernel⟩

/-! ## A grace that is long enough -/

/-- An eviction parks, and a claimer consumes, within `d` of the time it began with. -/
def Prompt (d : ℕ) (sys : Sys) (act : Act) (_ : Sys) : Prop :=
  match act with
  | .advance k _ =>
    match sys.agents[k]? with
    | some (.evictPark _ _ _ since _ _) | some (.claimProbe _ since _ [] (some _) _) =>
      sys.core.pool.now ≤ since + d
    | _ => True
  | _ => True

def Parked.Fresh (d : ℕ) (p : Parked) : Prop := p.expires ≤ p.granted + d + parkedReservationTTL

/-- Handles are parked promptly, and none was drained after its time. -/
structure Dated (d : ℕ) (sys : Sys) : Prop where
  parked : ∀ p ∈ sys.core.evicted, p.Fresh d
  held : ∀ agent ∈ sys.agents, ∀ p ∈ agent.held, p.Fresh d ∧ agent.drainedAt ≤ p.expires

theorem dated_advanced {d : ℕ} (h : Advanced cfg c answer agent c' agents threads)
    (hprompt : ∀ settings node res since committed victims,
      agent = .evictPark settings node res since committed victims → c.pool.now ≤ since + d)
    (hparked : ∀ p ∈ c.evicted, p.Fresh d)
    (hheld : ∀ p ∈ agent.held, p.Fresh d ∧ agent.drainedAt ≤ p.expires) :
    (∀ p ∈ c'.evicted, p.Fresh d) ∧
      ∀ agent ∈ agents, ∀ p ∈ agent.held, p.Fresh d ∧ agent.drainedAt ≤ p.expires := by
  have hparks (p : Parked) (hp : p ∈ agent.parks c.pool.now) : p.Fresh d := by
    cases agent with
    | evictPark =>
      cases List.mem_singleton.mp hp
      exact add_le_add_left (hprompt _ _ _ _ _ _ rfl) _
    | _ => cases hp
  refine ⟨fun p hp ↦ ?_, fun other hother p hp ↦ ?_⟩
  · rcases mem_handles_advanced h (List.mem_append_left _ hp) with hbefore | hbefore
    · exact hparked p hbefore
    · exact (List.mem_append.mp hbefore).elim (fun hmem ↦ (hheld p hmem).1) (hparks p)
  · rcases held_advanced h hother hp with ⟨hbefore, hsince⟩ | ⟨settings, rfl, hdrained, hsince⟩
    · exact hsince ▸ hheld p hbefore
    · obtain ⟨hmem, hown⟩ := List.mem_filter.mp hdrained
      exact ⟨hparked p hmem, hsince ▸ not_lt.mp (of_decide_eq_true hown).2⟩

theorem Dated.step {d : ℕ} (h : Dated d sys) (hprompt : Prompt d sys act sys')
    (hstep : step cfg sys act = some sys') : Dated d sys' := by
  cases moved_of_step hstep with
  | fire hthread htodo hexec =>
    refine ⟨h.parked, fun agent hagent p hp ↦ ?_⟩
    rcases List.mem_append.mp hagent with hagent | hagent
    · exact h.held agent hagent p hp
    · unfold Thread.leftover at hagent
      split at hagent <;> simp at hagent
      all_goals
        subst hagent
        simp [Agent.held] at hp
  | @advance k answer agent core agents threads hagent hadvanced =>
    have hmem := List.mem_of_getElem? hagent
    have hafter := dated_advanced hadvanced ?_ h.parked (h.held agent hmem)
    · refine ⟨hafter.1, fun other hother ↦ ?_⟩
      exact (List.mem_append.mp hother).elim (fun hold ↦ h.held other (List.mem_of_mem_eraseIdx hold))
        (hafter.2 other)
    · rintro settings node res since committed victims rfl
      simpa only [Prompt, hagent] using hprompt
  | reconcile =>
    refine ⟨h.parked, fun agent hagent p hp ↦ ?_⟩
    rcases List.mem_append.mp hagent with hagent | hagent
    · exact h.held agent hagent p hp
    · cases List.mem_singleton.mp hagent
      cases hp
  | releaseParked => exact ⟨fun p hp ↦ h.parked p (List.mem_of_mem_filter hp), h.held⟩
  | crash => exact ⟨fun p hp ↦ (List.not_mem_nil hp).elim, fun agent hagent ↦ (List.not_mem_nil hagent).elim⟩
  | _ => exact ⟨h.parked, h.held⟩

/-- A grace that covers the time of a handle and the delays around it makes every consumption timely. -/
theorem inTime_of_prompt {d : ℕ}
    (hgrace : parkedReservationTTL + 2 * d ≤ cfg.accountant.reservationTTL) (cluster : Provisioner.Cluster)
    (runners : Gh.Runners) (now : Time)
    (hprompt : Along (step cfg) (Prompt d) (init cfg cluster runners now) labels) :
    Along (step cfg) (InTime cfg) (init cfg cluster runners now) labels := by
  refine along_of_invariant (Dated d) ?_ ⟨fun p hp ↦ (List.not_mem_nil hp).elim,
    fun agent hagent ↦ (List.not_mem_nil hagent).elim⟩ hprompt
  intro sys act sys' hdated hprompt hstep
  refine ⟨fun p hp ↦ ?_, hdated.step hprompt hstep⟩
  obtain ⟨k, answer, settings, since, existing, keep, rfl, hagent⟩ := consumes_eq_some hp
  obtain ⟨hfresh, hdrained⟩ := hdated.held _ (List.mem_of_getElem? hagent) p (by simp [Agent.held])
  have hsoon : sys.core.pool.now ≤ since + d := by simpa only [Prompt, hagent] using hprompt
  calc sys.core.pool.now ≤ since + d := hsoon
    _ ≤ p.expires + d := by exact add_le_add_left hdrained _
    _ ≤ p.granted + d + parkedReservationTTL + d := by exact add_le_add_left hfresh _
    _ ≤ p.granted + cfg.accountant.reservationTTL := by linarith

instance decidablePrompt (d : ℕ) (sys : Sys) (act : Act) (sys' : Sys) :
    Decidable (Prompt d sys act sys') := by
  unfold Prompt
  split
  · split <;> infer_instance
  · infer_instance

/-- A minute passes between the eviction and the claim. -/
def claimLate : List Act :=
  evictForBurst ++ [.outside (.elapse 61000000000)] ++ readCounts 0 ++ claimOne

theorem inTime_of_prompt_late : Along (step (burstPool (2 * Store.minute)))
    (InTime (burstPool (2 * Store.minute))) (idleStart (2 * Store.minute)) claimLate :=
  inTime_of_prompt (d := 15000000000) (by decide) idleGuest ∅ Store.second (by decide +kernel)

end ScalesetProxmox.Pool.Demand
