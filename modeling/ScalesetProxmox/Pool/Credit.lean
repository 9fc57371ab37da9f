import ScalesetProxmox.Pool.Sizing
import ScalesetProxmox.Pool.System
import ScalesetProxmox.Table.Sum

/-!
# What the credit for returning VMs is worth

In snapshot-rollback mode a pass counts the VMs that will be back in the pool shortly. The credit is
shared out between the hot and the warm target so that one VM covers one slot. The demand term counts the
Recycling part of it a second time: when demand and not the hot target decides the hot need, a VM on its
way back spares a hot clone there and a warm clone besides.

Which rows are counted, which are rolled back after their job and which idle rows are aged out is decided
by three comparisons of a row's age with `vm_max_age`. They differ at that age and nowhere else.
-/

namespace ScalesetProxmox.Pool

open Store (Time State)

namespace Sizing

/-- The same pass without any credit. -/
def uncredited (s : Sizing) : Sizing := { s with credit := {} }

/-- The hot clones that the credit spares. -/
def hotSpared (s : Sizing) : ℤ := s.uncredited.needs.1 - s.needs.1

def warmSpared (s : Sizing) : ℤ := s.uncredited.needs.2 - s.needs.2

theorem hotCredit_uncredited (s : Sizing) : s.uncredited.hotCredit = 0 := by
  have hnone : s.uncredited.returning = 0 := rfl
  rw [hotCredit, hnone]
  omega

theorem hotShort_uncredited (s : Sizing) :
    s.uncredited.hotShort = max (s.hotSize - s.supply) s.uncredited.deficit := by
  rw [hotShort, hotCredit_uncredited, sub_zero]
  rfl

theorem warmCredit_uncredited (s : Sizing) : s.uncredited.warmCredit = 0 := by
  rw [warmCredit, hotCredit_uncredited]
  rfl

theorem warmShort_uncredited (s : Sizing) : s.uncredited.warmShort = s.warmShort + s.warmCredit := by
  rw [warmShort, warmCredit_uncredited]
  simp only [warmShort, uncredited]
  omega

theorem deficit_uncredited (s : Sizing) : s.uncredited.deficit = s.deficit + s.credit.recycling := by
  simp only [deficit, burstDeficit, uncredited, inflight]
  omega

/-- The warm side spends what the hot target leaves, up to its own need. -/
theorem warmSpared_eq (s : Sizing) : s.warmSpared = min s.warmCredit s.uncredited.needs.2 := by
  have hcredit : 0 ≤ s.warmCredit := by
    unfold warmCredit hotCredit
    omega
  have hshort := s.warmShort_uncredited
  rw [warmSpared, needs_eq, needs_eq]
  dsimp only
  omega

/-- The hot clones that the demand term alone spares. -/
def demandSpared (s : Sizing) : ℤ := min s.room s.uncredited.deficit - max 0 s.deficit

theorem hotSpared_eq (s : Sizing) :
    s.hotSpared = max 0 (min s.room (max 0 (max (s.hotSize - s.supply) s.uncredited.deficit))) -
      max 0 (min s.room (max 0 s.hotShort)) := by
  have hroom : s.uncredited.room = s.room := rfl
  rw [hotSpared, needs_eq, needs_eq, hotShort_uncredited, hroom]

/-- While the demand spares no more than the hot target lacks, the hot side keeps to its share. -/
theorem hotSpared_le_hotCredit (s : Sizing) (h : s.demandSpared ≤ max 0 (s.hotSize - s.supply)) :
    s.hotSpared ≤ s.hotCredit := by
  have hdeficit := s.deficit_uncredited
  unfold demandSpared at h
  rw [hotSpared_eq]
  unfold hotShort hotCredit returning
  omega

/-- Beyond that the demand decides the hot need, with the credit and without it. -/
theorem hotSpared_eq_demandSpared (s : Sizing) (h : max 0 (s.hotSize - s.supply) < s.demandSpared) :
    s.hotSpared = s.demandSpared := by
  have hdeficit := s.deficit_uncredited
  unfold demandSpared at h ⊢
  rw [hotSpared_eq]
  unfold hotShort hotCredit returning
  omega

theorem spared_le_returning_iff (s : Sizing) :
    s.hotSpared + s.warmSpared ≤ s.returning ↔ s.demandSpared ≤ max 0 (s.hotSize - s.supply) ∨
      s.demandSpared + s.uncredited.needs.2 ≤ s.returning := by
  have hcredit : s.hotCredit ≤ max 0 (s.hotSize - s.supply) := by
    unfold hotCredit
    omega
  rw [warmSpared_eq, warmCredit]
  by_cases hwithin : s.demandSpared ≤ max 0 (s.hotSize - s.supply)
  · have hshare := s.hotSpared_le_hotCredit hwithin
    omega
  · rw [s.hotSpared_eq_demandSpared (not_le.mp hwithin)]
    omega

end Sizing

/-- The credit takes at most one clone for each VM off the needs if and only if the hot clones that the
recycling VMs spare on the demand side are no more than the hot target lacks, or these and all that the
warm target lacks are no more than the VMs credited. -/
theorem credit_spares_one_clone_each_iff (stats : Stats) (inflight hotProv warmProv : ℕ)
    (hotSize warmSize desired profileMax : ℤ) (credit : ReturningCredit) :
    let needs (credit : ReturningCredit) : ℤ × ℤ :=
      computeCloneNeeds stats inflight hotProv warmProv hotSize warmSize desired profileMax credit
    let total (credit : ReturningCredit) : ℤ := (needs credit).1 + (needs credit).2
    let base : ℤ := stats.available + hotProv + inflight
    let returning : ℤ := credit.busy + credit.recycling
    let room : ℤ := profileMax - (base + stats.recycling + stats.busy)
    let burst : ℤ := desired - (base + stats.busy)
    let spared : ℤ := min room burst - max 0 (burst - credit.recycling)
    total {} - total credit ≤ returning ↔
      spared ≤ max 0 (hotSize - base) ∨
      spared + max 0 (warmSize - (stats.liveWarm + warmProv)) ≤ returning := by
  intro needs total base returning room burst spared
  let s : Sizing := ⟨stats, hotProv, warmProv, inflight, 0, hotSize, warmSize, desired, profileMax, credit⟩
  have hsupply : (s.supply : ℤ) = base := by
    simp only [Sizing.supply, Sizing.inflight, s, base]
    omega
  have hreturning : (s.returning : ℤ) = returning := by
    simp [Sizing.returning, s, returning]
  have hroom : s.room = room := by
    simp only [Sizing.room, hsupply, s, room]
    omega
  have hburst : s.uncredited.deficit = burst := by
    simp [Sizing.deficit, burstDeficit, Sizing.uncredited, Sizing.inflight, s, burst, base]
  have hspared : s.demandSpared = spared := by
    have hdeficit : s.deficit = burst - credit.recycling := by
      rw [← hburst, s.deficit_uncredited]
      exact (add_sub_cancel_right _ _).symm
    rw [Sizing.demandSpared, hroom, hburst, hdeficit]
  have hwarm : s.uncredited.needs.2 = max 0 (warmSize - (stats.liveWarm + warmProv)) := by
    rw [Sizing.needs_eq, Sizing.warmShort, s.warmCredit_uncredited, add_zero]
    rfl
  have hsum : total {} - total credit = s.hotSpared + s.warmSpared := by
    simp only [total]
    exact add_sub_add_comm _ _ _ _
  rw [hsum, ← hreturning, s.spared_le_returning_iff, hspared, hwarm, hsupply]

/-- One VM is being rolled back, one job is queued, and the profile keeps one warm VM and no hot ones. The
VM spares the job's clone and the warm one. -/
theorem recycling_vm_spares_two_clones :
    computeCloneNeeds { recycling := 1 } 0 0 0 0 1 1 4 {} = (1, 1) ∧
      computeCloneNeeds { recycling := 1 } 0 0 0 0 1 1 4 ⟨0, 1⟩ = (0, 0) ∧
      ¬ ((1 + 1 : ℤ) - (0 + 0) ≤ (0 : ℕ) + (1 : ℕ)) :=
  ⟨rfl, rfl, by decide⟩

/-! ## The credit and the fate of a row -/

theorem length_filter_listByProfileAndStates (store : Store) (profile : String) (states : List State)
    (p : Store.VM → Bool) :
    ((store.listByProfileAndStates profile states).filter p).length =
      store.sum fun row ↦ if row.profile = profile ∧ p row = true then states.count row.state else 0 := by
  unfold Store.listByProfileAndStates Table.sum
  induction states with
  | nil => simp
  | cons state states ih =>
    rw [List.flatMap_cons, List.filter_append, List.length_append, ih, List.filter_filter,
      ← List.countP_eq_length_filter]
    clear ih
    induction store.rows with
    | nil => rfl
    | cons row rows ih =>
      simp only [List.countP_cons, List.map_cons, List.sum_cons, List.count_cons] at ih ⊢
      by_cases hlisted : row.profile = profile ∧ p row = true
      · by_cases hstate : row.state = state
        · simp only [hlisted, hstate, and_self, decide_true, Bool.and_self, beq_self_eq_true, if_true]
          omega
        · have hne : (state == row.state) = false := beq_false_of_ne (Ne.symm hstate)
          simp only [hlisted, hstate, hne, and_false, decide_false, Bool.and_false, Bool.false_eq_true,
            and_self, if_true, if_false]
          omega
      · have hnot : (p row && decide (row.profile = profile ∧ row.state = state)) = false := by
          refine Bool.eq_false_iff.mpr fun h ↦ hlisted ?_
          rw [Bool.and_eq_true, decide_eq_true_eq] at h
          exact ⟨h.2.1, h.1⟩
        simp only [hlisted, hnot, Bool.false_eq_true, if_false]
        omega

/-- The VMs of the profile that a pass credits. -/
def credited (cfg : Config) (store : Store) (settings : ProfileSettings) (now : Time) : ℕ :=
  let credit := profileReturningCredit cfg store settings.name now settings.vmMaxAge
  credit.busy + credit.recycling

/-- The row is counted: with it the credit is one more than without it. -/
def Credited (cfg : Config) (store : Store) (settings : ProfileSettings) (now : Time)
    (row : Store.VM) : Prop :=
  credited cfg store settings now = credited cfg (store.erase row.vmid) settings now + 1

instance (cfg : Config) (store : Store) (settings : ProfileSettings) (now : Time) (row : Store.VM) :
    Decidable (Credited cfg store settings now row) :=
  inferInstanceAs (Decidable (_ = _))

/-- The tasks that follow a step that the task takes now. -/
def Task.next (cfg : Config) (s : Shared) (task : Task) : List Task :=
  (((task.action cfg .ok).exec cfg s).map Prod.snd).getD []

/-- The rows that an ageing sweep has before it. -/
def Task.agedRows : Task → List Store.VM
  | .recycleLoop _ rows => rows
  | _ => []

/-- The idle rows that `recycleOldVMs` goes over when it reads the clock and lists them at one instant. -/
def agedOut (cfg : Config) (s : Shared) (settings : ProfileSettings) : List Store.VM :=
  ((Task.recycleOldVMs settings.name settings.vmMaxAge).next cfg s).flatMap fun list ↦
    (list.next cfg s).flatMap Task.agedRows

/-- The sweep goes over the row and takes it out of the pool. -/
def Reaped (cfg : Config) (s : Shared) (settings : ProfileSettings) (row : Store.VM) : Prop :=
  row ∈ agedOut cfg s settings ∧
    ∃ after ∈ ((Task.recycleLoop settings.name [row]).action cfg .ok).exec cfg s,
      (after.1.store.get row.vmid).map (·.state) = some .draining

section Fate

variable {cfg : Config} {settings : ProfileSettings} {s : Shared} {store : Store} {row idle : Store.VM}
  {now : Time}

theorem credited_eq (hrecycle : cfg.snapshotRecycle) :
    credited cfg store settings now =
      store.sum (fun row ↦ if row.profile = settings.name ∧ returns now settings.vmMaxAge row = true then
        [State.assigned, State.running].count row.state else 0) +
      store.sum (fun row ↦ if row.profile = settings.name ∧ returns now settings.vmMaxAge row = true then
        [State.recycling].count row.state else 0) := by
  rw [credited, profileReturningCredit, if_pos hrecycle]
  dsimp only
  rw [length_filter_listByProfileAndStates, length_filter_listByProfileAndStates]

/-- A row that has or had a job is counted if it has its snapshot and is not over age. -/
theorem credited_iff (hrecycle : cfg.snapshotRecycle) (hrow : store.get row.vmid = some row)
    (hprofile : row.profile = settings.name)
    (hstate : row.state = .assigned ∨ row.state = .running ∨ row.state = .recycling) :
    Credited cfg store settings now row ↔ returns now settings.vmMaxAge row = true := by
  rw [Credited, credited_eq hrecycle, credited_eq hrecycle, Table.sum_of_get _ hrow, Table.sum_of_get _ hrow]
  by_cases hreturns : returns now settings.vmMaxAge row = true
  · simp only [hprofile, hreturns, and_self, if_true, iff_true]
    rcases hstate with hstate | hstate | hstate <;> simp [hstate] <;> omega
  · simp only [hreturns, and_false, Bool.false_eq_true, if_false, iff_false]
    omega

theorem agedOut_eq (hage : 0 < settings.vmMaxAge) :
    agedOut cfg s settings = (s.store.listByProfileAndStates settings.name [.hot, .warm]).filter
      (·.createdAt < s.now - settings.vmMaxAge) := by
  have hclock : (Task.recycleOldVMs settings.name settings.vmMaxAge).next cfg s =
      [.recycleList settings.name (s.now - settings.vmMaxAge)] := by
    rw [Task.next, Task.action, idleAction, if_neg (not_le.mpr hage)]
    rfl
  rw [agedOut, hclock]
  exact (List.append_nil _).trans (List.append_nil _)

theorem mem_agedOut : row ∈ agedOut cfg s settings ↔
    0 < settings.vmMaxAge ∧ s.store.get row.vmid = some row ∧ row.profile = settings.name ∧
      (row.state = .hot ∨ row.state = .warm) ∧ row.createdAt < s.now - settings.vmMaxAge := by
  by_cases hage : 0 < settings.vmMaxAge
  · rw [agedOut_eq hage]
    simp [hage, Store.mem_listByProfileAndStates, and_assoc]
  · have hnone : (Task.recycleOldVMs settings.name settings.vmMaxAge).next cfg s = [] := by
      rw [Task.next, Task.action, idleAction, if_pos (not_lt.mp hage)]
      rfl
    rw [agedOut, hnone]
    simp [hage]

theorem reaped_iff (hidle : s.store.get idle.vmid = some idle) (hprofile : idle.profile = settings.name)
    (hstate : idle.state = .hot ∨ idle.state = .warm) :
    Reaped cfg s settings idle ↔
      0 < settings.vmMaxAge ∧ idle.createdAt < s.now - settings.vmMaxAge := by
  have hmoved : s.store.updateStateIn s.now idle.vmid [idle.state] .draining (keepRow s.now) =
      .ok (s.store.put (idle.moved s.now .draining (keepRow s.now)), true) :=
    Store.updateStateIn_eq_ok_true.mpr
      ⟨idle, hidle, by simp, by simp [Store.VM.moved, Store.enforceImmutable], rfl⟩
  have hdrained : ∃ after ∈ ((Task.recycleLoop settings.name [idle]).action cfg .ok).exec cfg s,
      (after.1.store.get idle.vmid).map (·.state) = some .draining := by
    simp only [Task.action, idleAction, Action.exec, hmoved, Option.mem_def, Option.some.injEq,
      exists_eq_left', Shared.commit]
    exact congrArg (Option.map _) (Table.get_put_self _ _)
  simp only [Reaped, mem_agedOut, hidle, hprofile, hstate, hdrained, true_and, and_true]

theorem shouldRecycle_iff (hrecycle : cfg.snapshotRecycle)
    (hprofile : cfg.profileOf row.profile = some settings) :
    shouldRecycle cfg row now ↔
      row.hasRecycleSnapshot ∧ (settings.vmMaxAge ≤ 0 ∨ now - row.createdAt < settings.vmMaxAge) := by
  cases hsnapshot : row.hasRecycleSnapshot <;> simp [shouldRecycle, hrecycle, hsnapshot, hprofile]

/-- The two ways to compare an age with the limit differ at the limit only. -/
theorem overAge_iff_not_young_iff (now created maxAge : ℤ) :
    (0 < maxAge ∧ created < now - maxAge ↔ ¬ (maxAge ≤ 0 ∨ now - created < maxAge)) ↔
      ¬ (0 < maxAge ∧ now - created = maxAge) := by
  omega

/-- The credit, the rollback after a job and the sweep of idle rows agree on a creation time if and only
if the age is not exactly `vm_max_age`. -/
theorem credit_matches_fate_iff (hrecycle : cfg.snapshotRecycle = true)
    (hsettings : cfg.profileOf settings.name = some settings)
    (hrow : s.store.get row.vmid = some row) (hprofile : row.profile = settings.name)
    (hstate : row.state = .assigned ∨ row.state = .running ∨ row.state = .recycling)
    (hidle : s.store.get idle.vmid = some idle) (hidleProfile : idle.profile = settings.name)
    (hidleState : idle.state = .hot ∨ idle.state = .warm) (hcreated : idle.createdAt = row.createdAt) :
    ((Credited cfg s.store settings s.now row ↔ shouldRecycle cfg row s.now = true) ∧
      (Reaped cfg s settings idle ↔
        shouldRecycle cfg { row with hasRecycleSnapshot := true } s.now = false)) ↔
      ¬ (0 < settings.vmMaxAge ∧ s.now - row.createdAt = settings.vmMaxAge) := by
  have hfound : cfg.profileOf row.profile = some settings := hprofile ▸ hsettings
  have hrolled := @shouldRecycle_iff cfg settings { row with hasRecycleSnapshot := true } s.now
    hrecycle hfound
  rw [credited_iff hrecycle hrow hprofile hstate, reaped_iff hidle hidleProfile hidleState, hcreated,
    shouldRecycle_iff hrecycle hfound, ← Bool.not_eq_true, hrolled]
  have hage := overAge_iff_not_young_iff s.now row.createdAt settings.vmMaxAge
  have hcounted : returns s.now settings.vmMaxAge row = true ↔ row.hasRecycleSnapshot = true ∧
      ¬ (0 < settings.vmMaxAge ∧ row.createdAt < s.now - settings.vmMaxAge) := by
    rw [returns, Bool.and_eq_true, Bool.not_eq_true', ← Bool.not_eq_true, Bool.and_eq_true,
      decide_eq_true_eq, decide_eq_true_eq]
  simp only [hcounted, true_and, hage, and_iff_right_iff_imp]
  intro hlimit
  rw [hage.mpr hlimit, not_not]

end Fate

/-- The small pool in snapshot mode, with VMs that may become an hour old. -/
def hourlyPool : Config :=
  { smallPool with
    snapshotRecycle := true
    defaultProfile := { name := "default", bootMaxAttempts := 3, vmMaxAge := 60 * Store.minute } }

def runningRow : Store.VM where
  vmid := 10000
  node := "pve1"
  profile := "default"
  poolKind := .hot
  state := .running
  hasRecycleSnapshot := true
  createdAt := Store.second

def warmRow : Store.VM := { runningRow with vmid := 10001, poolKind := .warm, state := .warm }

/-- The two rows, which are of one creation time, and the clock at some age of theirs. -/
def twins (age : Time) : Shared where
  store := (Table.empty.put runningRow).put warmRow
  now := Store.second + age

theorem credit_matches_fate_young :
    (Credited hourlyPool (twins Store.minute).store hourlyPool.defaultProfile (twins Store.minute).now
          runningRow ↔
        shouldRecycle hourlyPool runningRow (twins Store.minute).now = true) ∧
      (Reaped hourlyPool (twins Store.minute) hourlyPool.defaultProfile warmRow ↔
        shouldRecycle hourlyPool { runningRow with hasRecycleSnapshot := true } (twins Store.minute).now =
          false) :=
  (@credit_matches_fate_iff hourlyPool hourlyPool.defaultProfile (twins Store.minute) runningRow warmRow rfl rfl
    rfl rfl (.inr (.inl rfl)) rfl rfl (.inr rfl) rfl).mpr (by decide)

/-- At exactly one hour the running VM is counted as returning although it would be destroyed, and the
warm one is not reaped although a VM of its age would not be recycled. -/
theorem hour_old_twins_disagree :
    (twins (60 * Store.minute)).store.get 10000 = some runningRow ∧
      (twins (60 * Store.minute)).store.get 10001 = some warmRow ∧
      Credited hourlyPool (twins (60 * Store.minute)).store hourlyPool.defaultProfile
        (twins (60 * Store.minute)).now runningRow ∧
      shouldRecycle hourlyPool runningRow (twins (60 * Store.minute)).now = false ∧
      ¬ Reaped hourlyPool (twins (60 * Store.minute)) hourlyPool.defaultProfile warmRow := by
  refine ⟨rfl, rfl, by decide +kernel, by decide, fun hreaped ↦ ?_⟩
  have hage := (mem_agedOut.mp hreaped.1).2.2.2.2
  exact absurd hage (by decide)

end ScalesetProxmox.Pool
