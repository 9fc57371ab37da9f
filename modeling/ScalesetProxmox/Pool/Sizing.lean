import ScalesetProxmox.Pool.Task

/-!
# Sizing a profile's pool

What `reconcileProfileOnce` counts and what it dispatches. The counts come from the profile's rows,
from the clones that have no row yet and from the rows that a rollback will give back;
`computeCloneNeeds` turns them and the targets into numbers of hot and warm VMs, and the pass
promotes warm VMs before it clones.

The hot need is cut to the room under the profile's cap. The warm need is not: it sees neither the cap
nor the clones that are still before their row.
-/

namespace ScalesetProxmox.Pool

open Store (Time PoolKind)

/-! ## The counts -/

/-- The population of one profile by state. -/
structure Stats where
  provisioning : ℕ := 0
  warm : ℕ := 0
  booting : ℕ := 0
  hot : ℕ := 0
  assigned : ℕ := 0
  running : ℕ := 0
  recycling : ℕ := 0
  draining : ℕ := 0
  destroying : ℕ := 0
  poison : ℕ := 0
  deriving DecidableEq, Repr

namespace Stats

/-- The VMs that are or will be acquirable from the hot pool. -/
def available (stats : Stats) : ℕ := stats.hot + stats.booting

def busy (stats : Stats) : ℕ := stats.assigned + stats.running

def liveWarm (stats : Stats) : ℕ := stats.warm

end Stats

def statsForProfile (store : Store) (profile : String) : Stats where
  provisioning := store.countByProfileState profile .provisioning
  warm := store.countByProfileState profile .warm
  booting := store.countByProfileState profile .booting
  hot := store.countByProfileState profile .hot
  assigned := store.countByProfileState profile .assigned
  running := store.countByProfileState profile .running
  recycling := store.countByProfileState profile .recycling
  draining := store.countByProfileState profile .draining
  destroying := store.countByProfileState profile .destroying
  poison := store.countByProfileState profile .poison

/-- The Provisioning rows of the profile that are bound for one budget. -/
def provisioningOf (store : Store) (profile : String) (kind : PoolKind) : ℕ :=
  (store.rows.filter fun row ↦
    row.profile = profile ∧ row.state = .provisioning ∧ row.poolKind = kind).length

def provisioningCounts (store : Store) (profile : String) : ℕ × ℕ :=
  (provisioningOf store profile .hot, provisioningOf store profile .warm)

/-- The rows that will be back in the pool shortly. -/
structure ReturningCredit where
  busy : ℕ := 0
  recycling : ℕ := 0
  deriving DecidableEq, Repr

def returns (now maxAge : Time) (row : Store.VM) : Bool :=
  row.hasRecycleSnapshot && !(0 < maxAge && row.createdAt < now - maxAge)

def profileReturningCredit (cfg : Config) (store : Store) (profile : String) (now maxAge : Time) :
    ReturningCredit :=
  if cfg.snapshotRecycle then
    { busy := ((store.listByProfileAndStates profile [.assigned, .running]).filter
        (returns now maxAge)).length
      recycling := ((store.listByProfileAndStates profile [.recycling]).filter
        (returns now maxAge)).length }
  else
    {}

/-- Every Provisioning row is bound for one of the two budgets. -/
theorem provisioning_eq (store : Store) (profile : String) :
    (statsForProfile store profile).provisioning =
      provisioningOf store profile .hot + provisioningOf store profile .warm := by
  change (store.rows.filter fun row ↦ row.profile = profile ∧ row.state = .provisioning).length = _
  unfold provisioningOf
  induction store.rows with
  | nil => rfl
  | cons row rows ih =>
    by_cases hrow : row.profile = profile ∧ row.state = .provisioning
    · cases hkind : row.poolKind with
      | hot | warm =>
        simp only [List.filter_cons, hrow, hkind, and_self, reduceCtorEq, and_false, decide_true,
          decide_false, if_true, Bool.false_eq_true, if_false, List.length_cons]
        omega
    · have hneither (kind : PoolKind) :
          ¬ (row.profile = profile ∧ row.state = .provisioning ∧ row.poolKind = kind) :=
        fun h ↦ hrow ⟨h.1, h.2.1⟩
      simp only [List.filter_cons, hrow, hneither, decide_false, Bool.false_eq_true, if_false]
      exact ih

/-! ## The needs -/

/-- What the demand signal wants beyond what the profile has or has coming. -/
def burstDeficit (stats : Stats) (inflight hotProv : ℕ) (desired : ℤ) (credit : ReturningCredit) : ℤ :=
  let base : ℤ := stats.available + hotProv + inflight
  desired - (base + credit.recycling + stats.busy)

def computeCloneNeeds (stats : Stats) (inflight hotProv warmProv : ℕ)
    (hotSize warmSize desired profileMax : ℤ) (credit : ReturningCredit) : ℤ × ℤ :=
  let base : ℤ := stats.available + hotProv + inflight
  -- every returning VM covers one slot, hot deficits first
  let returning : ℤ := credit.busy + credit.recycling
  let hotCredit := hotSize - base
  let hotCredit := if returning < hotCredit then returning else hotCredit
  let hotCredit := if hotCredit < 0 then 0 else hotCredit
  let warmCredit := returning - hotCredit
  let needIdle := hotSize - base - hotCredit
  let needBurst := burstDeficit stats inflight hotProv desired credit
  let needHot := if needIdle < needBurst then needBurst else needIdle
  let needHot := if needHot < 0 then 0 else needHot
  let occupied : ℤ := stats.available + stats.recycling + hotProv + inflight + stats.busy
  let room := profileMax - occupied
  let needHot := if room < needHot then room else needHot
  let needHot := if needHot < 0 then 0 else needHot
  let warmInflight := stats.liveWarm + warmProv + warmCredit
  let needWarm := warmSize - warmInflight
  let needWarm := if needWarm < 0 then 0 else needWarm
  (needHot, needWarm)

/-- Everything one pass reads before it decides. `inFlightClones` counts the fleet's `Clone` calls,
`pendingClones` the profile's dispatches that have no row yet. -/
structure Sizing where
  stats : Stats
  hotProv : ℕ := 0
  warmProv : ℕ := 0
  inFlightClones : ℕ := 0
  pendingClones : ℕ := 0
  hotSize : ℤ
  warmSize : ℤ
  desired : ℤ := 0
  profileMax : ℤ
  credit : ReturningCredit := {}
  deriving DecidableEq, Repr

/-- What a pass starts: promotions of warm VMs, hot clones and warm clones. -/
structure Dispatch where
  promote : ℕ
  hot : ℕ
  warm : ℕ
  deriving DecidableEq, Repr

namespace Sizing

def inflight (s : Sizing) : ℕ := s.inFlightClones + s.pendingClones

/-- The supply that the needs are measured against. -/
def supply (s : Sizing) : ℕ := s.stats.available + s.hotProv + s.inflight

def needs (s : Sizing) : ℤ × ℤ :=
  computeCloneNeeds s.stats s.inflight s.hotProv s.warmProv s.hotSize s.warmSize s.desired s.profileMax
    s.credit

def deficit (s : Sizing) : ℤ := burstDeficit s.stats s.inflight s.hotProv s.desired s.credit

/-- Promote first, clone the rest. -/
def dispatch (s : Sizing) : Dispatch :=
  let needHot := s.needs.1
  let promoteCount := if needHot > s.stats.warm then (s.stats.warm : ℤ) else needHot
  let needHot := if promoteCount > 0 then needHot - promoteCount else needHot
  { promote := promoteCount.toNat, hot := needHot.toNat, warm := s.needs.2.toNat }

/-! ### Closed forms -/

def returning (s : Sizing) : ℕ := s.credit.busy + s.credit.recycling

/-- The part of the credit that stands in for hot VMs. -/
def hotCredit (s : Sizing) : ℤ := max 0 (min s.returning (s.hotSize - s.supply))

def warmCredit (s : Sizing) : ℤ := s.returning - s.hotCredit

/-- The hot VMs that the targets call for, before the cap. -/
def hotShort (s : Sizing) : ℤ := max (s.hotSize - s.supply - s.hotCredit) s.deficit

/-- What the cap leaves for hot clones. Warm rows and warm clones do not count. -/
def room (s : Sizing) : ℤ :=
  s.profileMax - (s.stats.recycling + s.supply + s.stats.busy)

/-- The hot VMs that the targets and the room call for and that no warm VM can be promoted to. -/
def hotBeyondWarm (s : Sizing) : ℤ := min s.room s.hotShort - s.stats.warm

/-- The warm VMs that the target calls for. -/
def warmShort (s : Sizing) : ℤ := s.warmSize - (s.stats.liveWarm + s.warmProv + s.warmCredit)

theorem needs_eq (s : Sizing) :
    s.needs = (max 0 (min s.room (max 0 s.hotShort)), max 0 s.warmShort) := by
  have hsupply : (s.stats.available + s.hotProv + s.inflight : ℤ) = s.supply := rfl
  have hreturning : (s.credit.busy + s.credit.recycling : ℤ) = s.returning := rfl
  have hcredit : max (min (s.returning : ℤ) (s.hotSize - s.supply)) 0 = s.hotCredit := max_comm _ _
  have hroom : s.profileMax - (s.stats.available + s.stats.recycling + s.hotProv + s.inflight +
      s.stats.busy) = s.room := by
    rw [room, ← hsupply]
    omega
  unfold needs computeCloneNeeds
  -- each comparison of the source is a minimum or a maximum
  simp only [← max_def_lt, ← min_def_lt, hsupply, hreturning, hcredit, hroom]
  refine Prod.ext ?_ (max_comm _ _)
  rw [max_comm, max_comm (max _ _)]
  rfl

theorem dispatch_eq (s : Sizing) : s.dispatch =
    { promote := min s.needs.1.toNat s.stats.warm
      hot := s.needs.1.toNat - s.stats.warm
      warm := s.needs.2.toNat } := by
  unfold dispatch
  dsimp only
  congr 1
  · split_ifs <;> omega
  · split_ifs <;> omega

theorem dispatch_hot (s : Sizing) : (s.dispatch.hot : ℤ) = max 0 s.hotBeyondWarm := by
  rw [dispatch_eq, needs_eq]
  dsimp only
  unfold hotBeyondWarm
  omega

theorem dispatch_warm (s : Sizing) : (s.dispatch.warm : ℤ) = max 0 s.warmShort := by
  rw [dispatch_eq, needs_eq]
  dsimp only
  omega

theorem isLeast_shortfall (short : ℤ) : IsLeast {n : ℤ | 0 ≤ n ∧ short ≤ n} (max 0 short) :=
  ⟨⟨le_max_left _ _, le_max_right _ _⟩, fun _ hn ↦ max_le hn.1 hn.2⟩

theorem hotShort_le_iff (s : Sizing) (n : ℤ) :
    s.hotShort ≤ n ↔ s.hotSize ≤ s.supply + s.hotCredit + n ∧
      s.desired ≤ s.supply + s.credit.recycling + s.stats.busy + n := by
  unfold hotShort deficit burstDeficit supply
  dsimp only
  omega

theorem warmShort_le_iff (s : Sizing) (n : ℤ) :
    s.warmShort ≤ n ↔ s.warmSize ≤ s.stats.warm + s.warmProv + s.warmCredit + n := by
  unfold warmShort Stats.liveWarm
  omega

/-! ### One busy row more in the credit -/

def withBusyCredit (s : Sizing) (busy : ℕ) : Sizing := { s with credit := { s.credit with busy := busy } }

/-- The row more covers a slot on one side only: a hot one while the hot target is not reached. -/
theorem credit_succ (s : Sizing) (busy : ℕ) :
    (s.withBusyCredit (busy + 1)).hotCredit = (s.withBusyCredit busy).hotCredit + 1 ∧
        (s.withBusyCredit (busy + 1)).warmCredit = (s.withBusyCredit busy).warmCredit ∨
      (s.withBusyCredit (busy + 1)).hotCredit = (s.withBusyCredit busy).hotCredit ∧
        (s.withBusyCredit (busy + 1)).warmCredit = (s.withBusyCredit busy).warmCredit + 1 := by
  have hreturning : (s.withBusyCredit (busy + 1)).returning = (s.withBusyCredit busy).returning + 1 := by
    simp only [returning, withBusyCredit]
    omega
  have hsame : (s.withBusyCredit (busy + 1)).supply = (s.withBusyCredit busy).supply ∧
      (s.withBusyCredit (busy + 1)).hotSize = (s.withBusyCredit busy).hotSize := ⟨rfl, rfl⟩
  unfold warmCredit hotCredit
  rw [hreturning, hsame.1, hsame.2]
  omega

/-- It takes at most one clone off the needs. -/
theorem total_succ (s : Sizing) (busy : ℕ) :
    let more := (s.withBusyCredit (busy + 1)).needs
    let less := (s.withBusyCredit busy).needs
    more.1 + more.2 ≤ less.1 + less.2 ∧ less.1 + less.2 ≤ more.1 + more.2 + 1 := by
  have hroom : (s.withBusyCredit (busy + 1)).room = (s.withBusyCredit busy).room := rfl
  have hsupply : (s.withBusyCredit (busy + 1)).supply = (s.withBusyCredit busy).supply := rfl
  have hdeficit : (s.withBusyCredit (busy + 1)).deficit = (s.withBusyCredit busy).deficit := rfl
  have hsize : (s.withBusyCredit (busy + 1)).hotSize = (s.withBusyCredit busy).hotSize := rfl
  have hwarm : (s.withBusyCredit (busy + 1)).warmShort + (s.withBusyCredit (busy + 1)).warmCredit =
      (s.withBusyCredit busy).warmShort + (s.withBusyCredit busy).warmCredit := by
    simp only [warmShort, withBusyCredit]
    omega
  rw [needs_eq, needs_eq]
  unfold hotShort
  rw [hroom, hsupply, hdeficit, hsize]
  dsimp only
  rcases s.credit_succ busy with ⟨hhot, hcredit⟩ | ⟨hhot, hcredit⟩
  · have hshort : (s.withBusyCredit (busy + 1)).warmShort = (s.withBusyCredit busy).warmShort := by
      omega
    rw [hshort, hhot]
    omega
  · have hshort : (s.withBusyCredit busy).warmShort = (s.withBusyCredit (busy + 1)).warmShort + 1 := by
      omega
    rw [hshort, hhot]
    omega

/-! ## Two passes -/

/-- The profile's VMs that exist or are being cloned. -/
def population (s : Sizing) : ℕ :=
  s.stats.warm + s.stats.available + s.stats.busy + s.stats.recycling + (s.hotProv + s.warmProv) +
    s.pendingClones

/-- What the cap leaves beside all of them. -/
def headroom (s : Sizing) : ℤ := s.profileMax - s.population

/-- The warm deficit fits beside the hot clones, and the hot clones fit beside the Provisioning rows
bound for warm, which `room` does not count. -/
def FitsCap (s : Sizing) : Prop :=
  (s.warmShort ≤ 0 ∨ s.warmShort + max 0 s.hotBeyondWarm ≤ s.headroom) ∧
  (s.hotBeyondWarm ≤ 0 ∨ s.hotBeyondWarm + s.warmProv ≤ s.room - s.stats.warm + s.inFlightClones)

/-- A pass takes the profile over its cap, or further over it, unless its clones fit. -/
theorem pass_within_cap_iff (s : Sizing) :
    ((s.population + s.dispatch.hot + s.dispatch.warm : ℕ) : ℤ) ≤ max s.profileMax s.population ↔
      s.FitsCap := by
  have hroom : s.headroom = s.room + s.inFlightClones - s.stats.warm - s.warmProv := by
    simp only [headroom, room, population, supply, inflight]
    omega
  have hprofileMax : s.profileMax = s.headroom + s.population := by
    simp only [headroom]
    omega
  have hhot := s.dispatch_hot
  have hwarm := s.dispatch_warm
  unfold FitsCap
  omega

end Sizing

/-! ## What the needs are -/

/-- `computeCloneNeeds` in terms of what the numbers are for. The hot need is the least number of VMs
that reaches the hot target with the credit and the demand without its busy part, cut to the room under
the cap; the warm need is the least number that reaches the warm target with the rest of the credit. -/
theorem computeCloneNeeds_least (stats : Stats) (inflight hotProv warmProv : ℕ)
    (hotSize warmSize desired profileMax : ℤ) (credit : ReturningCredit) :
    let needs := computeCloneNeeds stats inflight hotProv warmProv hotSize warmSize desired profileMax
      credit
    let base : ℤ := stats.hot + stats.booting + hotProv + inflight
    let returning : ℤ := credit.busy + credit.recycling
    let hotCredit := min returning (max 0 (hotSize - base))
    let warmCredit := returning - hotCredit
    (∃ n, IsLeast {n : ℤ | 0 ≤ n ∧ hotSize ≤ base + hotCredit + n ∧
          desired ≤ base + credit.recycling + stats.busy + n} n ∧
        needs.1 = min (max 0 (profileMax - (base + stats.recycling + stats.busy))) n) ∧
      IsLeast {n : ℤ | 0 ≤ n ∧ warmSize ≤ stats.warm + warmProv + warmCredit + n} needs.2 := by
  intro needs base returning hotCredit warmCredit
  let s : Sizing := ⟨stats, hotProv, warmProv, inflight, 0, hotSize, warmSize, desired, profileMax, credit⟩
  have hneeds : needs = (max 0 (min s.room (max 0 s.hotShort)), max 0 s.warmShort) := s.needs_eq
  have hsupply : (s.supply : ℤ) = base := by
    simp only [Sizing.supply, Sizing.inflight, Stats.available, s, base]
    omega
  have hreturning : (s.returning : ℤ) = returning := by
    simp [Sizing.returning, s, returning]
  have hhotCredit : s.hotCredit = hotCredit := by
    simp only [Sizing.hotCredit, hreturning, hsupply, s, hotCredit]
    omega
  have hwarmCredit : s.warmCredit = warmCredit := by
    rw [Sizing.warmCredit, hreturning, hhotCredit]
  have hhot (n : ℤ) : hotSize ≤ base + hotCredit + n ∧
      desired ≤ base + credit.recycling + stats.busy + n ↔ s.hotShort ≤ n := by
    rw [s.hotShort_le_iff, hsupply, hhotCredit]
  have hwarm (n : ℤ) : warmSize ≤ stats.warm + warmProv + warmCredit + n ↔ s.warmShort ≤ n := by
    rw [s.warmShort_le_iff, hwarmCredit]
  simp only [hhot, hwarm, hneeds]
  refine ⟨⟨_, Sizing.isLeast_shortfall s.hotShort, ?_⟩, Sizing.isLeast_shortfall s.warmShort⟩
  simp only [Sizing.room, hsupply, s]
  omega

/-- A busy VM that will come back spares at most one clone, hot or warm, and never adds one. -/
theorem busy_credit_spares_one_clone_each (stats : Stats) (inflight hotProv warmProv : ℕ)
    (hotSize warmSize desired profileMax : ℤ) (recycling b₁ b₂ : ℕ) (hle : b₁ ≤ b₂) :
    let total (busy : ℕ) : ℤ :=
      let needs := computeCloneNeeds stats inflight hotProv warmProv hotSize warmSize desired profileMax
        ⟨busy, recycling⟩
      needs.1 + needs.2
    0 ≤ total b₁ - total b₂ ∧ total b₁ - total b₂ ≤ b₂ - b₁ := by
  intro total
  have hstep (b : ℕ) : total (b + 1) ≤ total b ∧ total b ≤ total (b + 1) + 1 :=
    Sizing.total_succ ⟨stats, hotProv, warmProv, inflight, 0, hotSize, warmSize, desired, profileMax,
      ⟨0, recycling⟩⟩ b
  induction b₂, hle using Nat.le_induction with
  | base => simp
  | succ b _ ih =>
    have := hstep b
    push_cast
    omega

/-- Three running VMs of a profile that keeps two hot and one warm. Each of the two credited in the
second call and not in the first spares a clone. -/
theorem three_running_spare_two :
    computeCloneNeeds { running := 3 } 0 0 0 2 1 0 8 ⟨1, 0⟩ = (1, 1) ∧
      computeCloneNeeds { running := 3 } 0 0 0 2 1 0 8 ⟨3, 0⟩ = (0, 0) ∧ (0 : ℤ) ≤ 1 + 1 - (0 + 0) ∧
      (1 + 1 - (0 + 0) : ℤ) ≤ 3 - 1 :=
  ⟨rfl, rfl, busy_credit_spares_one_clone_each { running := 3 } 0 0 0 2 1 0 8 0 1 3 (by decide)⟩

/-! ## Targets -/

def validateConfig (hotSize warmSize maxConcurrent : ℤ) : Except String Unit :=
  if hotSize < 0 ∨ warmSize < 0 then
    .error s!"pool: hot/warm sizes must be non-negative (hot={hotSize} warm={warmSize})"
  else if maxConcurrent ≤ 0 then
    .error s!"pool: max_concurrent_runners must be > 0 (got {maxConcurrent})"
  else if maxConcurrent < hotSize + warmSize then
    .error s!"pool: hot+warm ({hotSize + warmSize}) exceeds max_concurrent ({maxConcurrent})"
  else
    .ok ()

/-- The targets that `SetTargetSizes` stores: not negative, and together within the cap, warm cut
first. -/
def setTargetSizes (maxConcurrent hot warm : ℤ) : ℤ × ℤ :=
  let hot := if hot < 0 then 0 else hot
  let warm := if warm < 0 then 0 else warm
  if maxConcurrent < hot + warm then
    if maxConcurrent < hot then (maxConcurrent, 0) else (hot, maxConcurrent - hot)
  else
    (hot, warm)

theorem validateConfig_eq_ok {hotSize warmSize maxConcurrent : ℤ} :
    validateConfig hotSize warmSize maxConcurrent = .ok () ↔
      0 ≤ hotSize ∧ 0 ≤ warmSize ∧ 0 < maxConcurrent ∧ hotSize + warmSize ≤ maxConcurrent := by
  unfold validateConfig
  split_ifs
  · simp only [false_iff]
    omega
  · simp only [false_iff]
    omega
  · simp only [false_iff]
    omega
  · simp only [true_iff]
    omega

/-- All four runners that the cap allows are busy, and the targets are accepted. -/
def busyPool : Sizing where
  stats := { running := 4 }
  hotSize := 1
  warmSize := 3
  desired := 4
  profileMax := 4

/-- The room clamp stops the hot clone, but three warm clones take the profile to seven VMs. -/
theorem busyPool_exceeds_cap :
    validateConfig busyPool.hotSize busyPool.warmSize busyPool.profileMax = .ok () ∧
      busyPool.dispatch = { promote := 0, hot := 0, warm := 3 } ∧
      ¬ ((busyPool.population + busyPool.dispatch.hot + busyPool.dispatch.warm : ℕ) : ℤ) ≤
        max busyPool.profileMax busyPool.population := by
  refine ⟨rfl, rfl, ?_⟩
  decide

end ScalesetProxmox.Pool
