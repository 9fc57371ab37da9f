import ScalesetProxmox.Pool.DemandSteps

/-!
# A burst over all profiles

`SetDesiredCount` splits the demand of the fleet evenly over the profiles, whatever they already have,
and the pass of each profile clones for its own share. A job is served by a VM of any profile, so a
profile can hold more than its share of the demand while another is short of its own: the pass of the
second clones although the fleet as a whole has enough.

Without targets, the passes together stay within what the fleet lacks when no profile is above its
share, or none below (`burst_within_demand`). Where nothing holds the passes back this is also
necessary (`exceeds_of_uneven`).
-/

namespace ScalesetProxmox.Pool.Demand

open Store (Time State)

variable {cfg : Config} {c : Core} {n : ℕ} {settings : ProfileSettings} {profiles : List ProfileSettings}

/-! ## The shares -/

/-- A Go `int` stored as an `int32`. -/
def int32 (n : ℤ) : ℤ := n.bmod (2 ^ 32)

/-- The share of the profile at position `i`. The earliest profiles get the remainder. -/
def shareAt (share remainder : ℤ) (i : ℕ) : ℤ := if (i : ℤ) < remainder then share + 1 else share

/-- The loop of `SetDesiredCount` from position `i` on. -/
def storeShares (share remainder : ℤ) : ℕ → List ProfileSettings → Core → Core
  | _, [], c => c
  | i, settings :: rest, c =>
    storeShares share remainder (i + 1) rest
      (c.setProfile settings.name fun ps ↦ { ps with desiredCount := int32 (shareAt share remainder i) })

def setDesiredCount (cfg : Config) (n : ℤ) (c : Core) : Core :=
  let n := if n < 0 then 0 else n
  storeShares (n / cfg.profiles.length) (n % cfg.profiles.length) 0 cfg.profiles c

theorem pool_storeShares (share remainder : ℤ) (i : ℕ) (profiles : List ProfileSettings) (c : Core) :
    (storeShares share remainder i profiles c).pool = c.pool := by
  induction profiles generalizing i c with
  | nil => rfl
  | cons settings rest ih => exact ih (i + 1) _

/-- Only `desiredCount` is written. -/
theorem hotSize_storeShares (share remainder : ℤ) (i : ℕ) (profiles : List ProfileSettings) (c : Core)
    (name : String) :
    ((storeShares share remainder i profiles c).profiles name).hotSize = (c.profiles name).hotSize := by
  induction profiles generalizing i c with
  | nil => rfl
  | cons settings rest ih =>
    rw [storeShares, ih, profiles_setProfile]
    split_ifs <;> rfl

theorem profiles_storeShares_of_notMem (share remainder : ℤ) (i : ℕ) (c : Core) {name : String}
    (hname : name ∉ profiles.map (·.name)) :
    (storeShares share remainder i profiles c).profiles name = c.profiles name := by
  induction profiles generalizing i c with
  | nil => rfl
  | cons settings rest ih =>
    rw [List.map_cons, List.mem_cons, not_or] at hname
    rw [storeShares, ih _ _ hname.2, profiles_setProfile, if_neg (Ne.symm hname.1)]

theorem map_desiredCount_storeShares (share remainder : ℤ) (i : ℕ) (c : Core)
    (hnames : (profiles.map (·.name)).Nodup) :
    (profiles.map fun settings ↦
        ((storeShares share remainder i profiles c).profiles settings.name).desiredCount) =
      (List.range' i profiles.length).map fun k ↦ int32 (shareAt share remainder k) := by
  induction profiles generalizing i c with
  | nil => rfl
  | cons settings rest ih =>
    rw [List.map_cons, List.nodup_cons] at hnames
    have hhead : (storeShares share remainder i (settings :: rest) c).profiles settings.name =
        { c.profiles settings.name with desiredCount := int32 (shareAt share remainder i) } := by
      rw [storeShares, profiles_storeShares_of_notMem _ _ _ _ hnames.1, profiles_setProfile, if_pos rfl]
    rw [List.map_cons, List.length_cons, List.range'_succ, List.map_cons, hhead]
    exact congrArg _ (ih (i + 1) _ hnames.2)

theorem sum_shareAt (share remainder : ℤ) (hremainder : 0 ≤ remainder) (count : ℕ) :
    ((List.range count).map (shareAt share remainder)).sum = count * share + min (count : ℤ) remainder := by
  induction count with
  | zero => simp [hremainder]
  | succ count ih =>
    rw [List.range_succ, List.map_append, List.sum_append, ih]
    simp only [List.map_cons, List.map_nil, List.sum_singleton, shareAt, Nat.cast_succ, add_mul, one_mul]
    split_ifs <;> omega

/-- Before they are stored, the shares add up. -/
theorem sum_shares (n : ℤ) {count : ℕ} (hcount : 0 < count) :
    ((List.range count).map (shareAt (n / count) (n % count))).sum = n := by
  have hpos : (0 : ℤ) < count := by exact_mod_cast hcount
  have hlt := Int.emod_lt_of_pos n hpos
  calc
    _ = count * (n / count) + min (count : ℤ) (n % count) := sum_shareAt _ _ (Int.emod_nonneg n hpos.ne') count
    _ = count * (n / count) + n % count := by rw [min_eq_right hlt.le]
    _ = n := Int.mul_ediv_add_emod n count

theorem int32_of_lt {x : ℤ} (hx : 0 ≤ x) (hlt : x < 2 ^ 31) : int32 x = x := by
  unfold int32 Int.bmod
  dsimp only
  split_ifs <;> omega

theorem int32_lt {x : ℤ} (hx : 2 ^ 31 ≤ x) : int32 x < x := by
  unfold int32 Int.bmod
  dsimp only
  split_ifs <;> omega

theorem int32_le {x : ℤ} (hx : 0 ≤ x) : int32 x ≤ x := by
  rcases lt_or_ge x (2 ^ 31) with hlt | hge
  · exact (int32_of_lt hx hlt).le
  · exact (int32_lt hge).le

theorem shareAt_nonneg (n count i : ℕ) : 0 ≤ shareAt (n / count) (n % count) i := by
  have hshare : 0 ≤ (n : ℤ) / count := Int.ediv_nonneg (Int.natCast_nonneg _) (Int.natCast_nonneg _)
  unfold shareAt
  split_ifs
  · omega
  · exact hshare

theorem shareAt_lt {count : ℕ} (hcount : 0 < count) (hfits : (n : ℤ) ≤ count * (2 ^ 31 - 1)) (i : ℕ) :
    shareAt (n / count) (n % count) i < 2 ^ 31 := by
  have hpos : (0 : ℤ) < count := by exact_mod_cast hcount
  have hshare : (n : ℤ) / count ≤ 2 ^ 31 - 1 := Int.ediv_le_of_le_mul hpos (by linarith)
  have hsplit := Int.mul_ediv_add_emod n count
  unfold shareAt
  split_ifs with hi
  · have hne : (n : ℤ) / count ≠ 2 ^ 31 - 1 := by
      intro heq
      rw [heq] at hsplit
      omega
    omega
  · omega

/-- The first share is the largest. -/
theorem le_shareAt_zero {count : ℕ} (hcount : 0 < count) (hlarge : (count * (2 ^ 31 - 1) : ℤ) < n) :
    2 ^ 31 ≤ shareAt (n / count) (n % count) 0 := by
  have hpos : (0 : ℤ) < count := by exact_mod_cast hcount
  have hsplit := Int.mul_ediv_add_emod n count
  have hlt := Int.emod_lt_of_pos (n : ℤ) hpos
  unfold shareAt
  split_ifs with hremainder
  · have : 2 ^ 31 - 1 ≤ (n : ℤ) / count := (Int.le_ediv_iff_mul_le hpos).mpr (by linarith)
    omega
  · by_contra hsmall
    have : (n : ℤ) / count ≤ 2 ^ 31 - 1 := by omega
    have := mul_le_mul_of_nonneg_left this hpos.le
    omega

/-! ## The passes -/

/-- The demand that is stored for a profile. -/
def desired (c : Core) (settings : ProfileSettings) : ℤ := (c.profiles settings.name).desiredCount

/-- A profile's VMs that serve a job, can be acquired or are on their way to the hot pool. -/
def held (c : Core) (settings : ProfileSettings) : ℤ :=
  let stats := statsForProfile c.pool.store settings.name
  stats.available + (provisioningCounts c.pool.store settings.name).1 + stats.busy

/-- What a pass has read at its end, when `inFlight` clones were inside `Clone`. -/
def passSizing (cfg : Config) (c : Core) (settings : ProfileSettings) (inFlight : ℕ) : Sizing where
  stats := statsForProfile c.pool.store settings.name
  hotProv := (provisioningCounts c.pool.store settings.name).1
  warmProv := (provisioningCounts c.pool.store settings.name).2
  inFlightClones := inFlight
  pendingClones := (c.profiles settings.name).pendingClones
  hotSize := (c.profiles settings.name).hotSize
  warmSize := (c.profiles settings.name).warmSize
  desired := (c.profiles settings.name).desiredCount
  profileMax := (cfg.targets settings.name).maxConcurrentRunners
  credit := profileReturningCredit cfg.toConfig c.pool.store settings.name c.pool.now settings.vmMaxAge

def Agent.read (cfg : Config) (c : Core) : Agent → Agent
  | .pass settings stage sizing => readStage cfg c settings sizing stage
  | agent => agent

-- the six readings of a pass, when nothing else happens in between
example (cfg : Config) (c : Core) (settings : ProfileSettings) :
    (Agent.read cfg c)^[6] (startPass cfg settings) =
      let sizing := passSizing cfg c settings c.inFlightCloneCount
      .kick settings sizing.dispatch.hot sizing.dispatch.warm sizing.deficit := rfl

/-- The hot clones that the pass of a profile asks for. The number of clones inside `Clone` is the one it
finds: those of the other profiles' passes may be among them. -/
def requested (cfg : Config) (c : Core) (inFlight : String → ℕ) (settings : ProfileSettings) : ℤ :=
  (passSizing cfg c settings (inFlight settings.name)).dispatch.hot

/-- Summed over the profiles. -/
def total (cfg : Config) (count : ProfileSettings → ℤ) : ℤ := (cfg.profiles.map count).sum

theorem total_sub (cfg : Config) (f g : ProfileSettings → ℤ) :
    (total cfg fun settings ↦ f settings - g settings) = total cfg f - total cfg g := by
  apply eq_sub_of_add_eq
  rw [total, total, ← List.sum_map_add]
  simp [total]

/-- A pass without a hot target asks for no more than its profile lacks. -/
theorem requested_le (cfg : Config) (inFlight : String → ℕ) (htarget : (c.profiles settings.name).hotSize = 0) :
    requested cfg c inFlight settings ≤ max 0 (desired c settings - held c settings) := by
  rw [requested, Sizing.dispatch_hot]
  unfold Sizing.hotBeyondWarm Sizing.hotShort Sizing.hotCredit Sizing.deficit burstDeficit Sizing.supply
    Sizing.inflight desired held
  dsimp only [passSizing]
  rw [htarget]
  omega

theorem requested_nonneg (inFlight : String → ℕ) : 0 ≤ requested cfg c inFlight settings :=
  Int.natCast_nonneg _

/-- No profile is above its share, or none is below. -/
def EvenlyHeld (cfg : Config) (c : Core) : Prop :=
  (∀ settings ∈ cfg.profiles, held c settings ≤ desired c settings) ∨
    ∀ settings ∈ cfg.profiles, desired c settings ≤ held c settings

theorem total_requested_le (inFlight : String → ℕ)
    (htargets : ∀ settings ∈ cfg.profiles, (c.profiles settings.name).hotSize = 0) (heven : EvenlyHeld cfg c) :
    total cfg (requested cfg c inFlight) ≤ max 0 (total cfg (desired c) - total cfg (held c)) := by
  rcases heven with hbelow | habove
  · refine le_max_of_le_right ?_
    calc
      _ ≤ total cfg fun settings ↦ desired c settings - held c settings := by
        apply List.sum_le_sum
        intro settings hmem
        have hrequested := requested_le cfg inFlight (htargets settings hmem)
        have := hbelow settings hmem
        omega
      _ = _ := total_sub cfg _ _
  · refine le_max_of_le_left ?_
    calc
      _ ≤ total cfg fun _ ↦ 0 := by
        apply List.sum_le_sum
        intro settings hmem
        have hrequested := requested_le cfg inFlight (htargets settings hmem)
        have := habove settings hmem
        omega
      _ = 0 := by simp [total]

/-- What is stored adds up to `n` if and only if no share overflows. -/
theorem total_desired_setDesiredCount (hnames : (cfg.profiles.map (·.name)).Nodup) :
    total cfg (desired (setDesiredCount cfg n c)) = n ↔ (n : ℤ) ≤ cfg.profiles.length * (2 ^ 31 - 1) := by
  have hcount : 0 < cfg.profiles.length := Nat.succ_pos _
  have hstored : total cfg (desired (setDesiredCount cfg n c)) =
      ((List.range cfg.profiles.length).map fun i ↦
        int32 (shareAt (n / cfg.profiles.length) (n % cfg.profiles.length) i)).sum := by
    unfold setDesiredCount
    rw [if_neg (by omega), List.range_eq_range']
    exact congrArg List.sum (map_desiredCount_storeShares _ _ _ _ hnames)
  rw [hstored]
  constructor
  · intro hsum
    by_contra hlarge
    refine hsum.not_lt (lt_of_lt_of_eq (List.sum_lt_sum _ _ ?_ ?_) (sum_shares n hcount))
    · exact fun i _ ↦ int32_le (shareAt_nonneg n _ i)
    · exact ⟨0, List.mem_range.mpr hcount, int32_lt (le_shareAt_zero hcount (not_le.mp hlarge))⟩
  · intro hfits
    refine Eq.trans (congrArg List.sum (List.map_congr_left fun i _ ↦ ?_)) (sum_shares n hcount)
    exact int32_of_lt (shareAt_nonneg n _ i) (shareAt_lt hcount hfits i)

theorem held_setDesiredCount (cfg : Config) (n : ℤ) (c : Core) :
    held (setDesiredCount cfg n c) = held c := by
  funext settings
  unfold held setDesiredCount
  rw [pool_storeShares]

/-- With hot targets of zero and `n` small enough for the stored counts, the shares add up to `n`, and if
no profile is above its share, or none below, the passes together ask for no more hot clones than the
fleet lacks. -/
theorem burst_within_demand (cfg : Config) (hnames : (cfg.profiles.map (·.name)).Nodup) (c : Core)
    (htargets : ∀ settings ∈ cfg.profiles, (c.profiles settings.name).hotSize = 0) (n : ℕ)
    (hfits : (n : ℤ) ≤ cfg.profiles.length * (2 ^ 31 - 1))
    (heven : EvenlyHeld cfg (setDesiredCount cfg n c)) (inFlight : String → ℕ) :
    total cfg (desired (setDesiredCount cfg n c)) = n ∧
      total cfg (requested cfg (setDesiredCount cfg n c) inFlight) ≤ max 0 (n - total cfg (held c)) := by
  have hdesired := (total_desired_setDesiredCount (c := c) hnames).mpr hfits
  have htargets' : ∀ settings ∈ cfg.profiles,
      ((setDesiredCount cfg n c).profiles settings.name).hotSize = 0 := by
    intro settings hmem
    rw [setDesiredCount, hotSize_storeShares, htargets settings hmem]
  refine ⟨hdesired, ?_⟩
  calc
    _ ≤ max 0 (total cfg (desired (setDesiredCount cfg n c)) -
          total cfg (held (setDesiredCount cfg n c))) := total_requested_le inFlight htargets' heven
    _ = _ := by rw [hdesired, held_setDesiredCount]

/-! ## Uneven fleets -/

/-- Nothing keeps the pass from cloning for all that its profile lacks: no clone is under way, there are
no warm or recycling rows and the cap is not below the share. -/
structure Unhindered (cfg : Config) (c : Core) (inFlight : String → ℕ) (settings : ProfileSettings) :
    Prop where
  inFlight : inFlight settings.name = 0
  pending : (c.profiles settings.name).pendingClones = 0
  warm : (statsForProfile c.pool.store settings.name).warm = 0
  recycling : (statsForProfile c.pool.store settings.name).recycling = 0
  cap : desired c settings ≤ (cfg.targets settings.name).maxConcurrentRunners

theorem recycling_credit_le (cfg : Pool.Config) (store : Store) (profile : String) (now maxAge : Time) :
    (profileReturningCredit cfg store profile now maxAge).recycling ≤
      (statsForProfile store profile).recycling := by
  unfold profileReturningCredit
  split
  · refine (List.length_filter_le _ _).trans_eq ?_
    simp [Store.listByProfileAndStates, statsForProfile, Store.countByProfileState]
  · exact Nat.zero_le _

theorem requested_eq {inFlight : String → ℕ} (h : Unhindered cfg c inFlight settings)
    (htarget : (c.profiles settings.name).hotSize = 0) :
    requested cfg c inFlight settings = max 0 (desired c settings - held c settings) := by
  have hcredit := recycling_credit_le cfg.toConfig c.pool.store settings.name c.pool.now settings.vmMaxAge
  have hcap := h.cap
  rw [requested, Sizing.dispatch_hot]
  unfold Sizing.hotBeyondWarm Sizing.hotShort Sizing.hotCredit Sizing.deficit burstDeficit Sizing.room
    Sizing.supply Sizing.inflight held
  unfold desired at hcap ⊢
  dsimp only [passSizing]
  rw [htarget, h.warm, h.recycling, h.inFlight, h.pending]
  rw [h.recycling] at hcredit
  omega

/-- If nothing hinders the passes, they ask for more than the fleet lacks as soon as one profile is above
its share and another below. -/
theorem exceeds_of_uneven {inFlight : String → ℕ}
    (htargets : ∀ settings ∈ cfg.profiles, (c.profiles settings.name).hotSize = 0)
    (hfree : ∀ settings ∈ cfg.profiles, Unhindered cfg c inFlight settings) (huneven : ¬EvenlyHeld cfg c) :
    max 0 (total cfg (desired c) - total cfg (held c)) < total cfg (requested cfg c inFlight) := by
  simp only [EvenlyHeld, not_or, not_forall, not_le] at huneven
  obtain ⟨⟨above, habove, hsurplus⟩, below, hbelow, hshort⟩ := huneven
  have hrequested : ∀ settings ∈ cfg.profiles,
      requested cfg c inFlight settings = max 0 (desired c settings - held c settings) :=
    fun settings hmem ↦ requested_eq (hfree settings hmem) (htargets settings hmem)
  refine max_lt ?_ ?_
  · calc
      0 = total cfg fun _ ↦ 0 := by simp [total]
      _ < _ := by
        refine List.sum_lt_sum _ _ (fun settings _ ↦ requested_nonneg inFlight) ⟨below, hbelow, ?_⟩
        rw [hrequested below hbelow]
        omega
  · calc
      _ = total cfg fun settings ↦ desired c settings - held c settings := (total_sub cfg _ _).symm
      _ < _ := by
        refine List.sum_lt_sum _ _ (fun settings hmem ↦ ?_) ⟨above, habove, ?_⟩
        · rw [hrequested settings hmem]
          exact le_max_right _ _
        · rw [hrequested above habove]
          omega

/-- Two profiles with room for four runners each and without targets. -/
def twoProfiles : Config where
  toCapacityConfig := (burstPool Store.minute).toCapacityConfig
  targets := fun _ ↦ { maxConcurrentRunners := 4 }

def defaultHolds (states : List State) : Core :=
  startCore twoProfiles
    { store := (states.zipIdx 10000).foldl (fun store entry ↦
        store.put { vmid := entry.2, profile := "default", poolKind := .hot, state := entry.1 }) .empty }

instance (cfg : Config) (c : Core) : Decidable (EvenlyHeld cfg c) :=
  inferInstanceAs (Decidable (_ ∨ _))

/-- One VM is busy and the other profile has none; three jobs call for two more. -/
theorem burst_within_demand_three :
    total twoProfiles (desired (setDesiredCount twoProfiles 3 (defaultHolds [.running]))) = 3 ∧
      total twoProfiles (requested twoProfiles (setDesiredCount twoProfiles 3 (defaultHolds [.running]))
        fun _ ↦ 0) ≤ max 0 (3 - total twoProfiles (held (defaultHolds [.running]))) :=
  burst_within_demand twoProfiles (by decide) (defaultHolds [.running]) (by decide) 3 (by decide)
    (by decide +kernel) fun _ ↦ 0

/-- The default profile has a busy VM and a hot one, as many as are wanted. The second profile is given
one as its share, has none, and its pass asks for a clone. -/
theorem uneven_fleet_overclones :
    total twoProfiles (desired (setDesiredCount twoProfiles 2 (defaultHolds [.running, .hot]))) = 2 ∧
      total twoProfiles (held (defaultHolds [.running, .hot])) = 2 ∧
      total twoProfiles (requested twoProfiles
        (setDesiredCount twoProfiles 2 (defaultHolds [.running, .hot])) fun _ ↦ 0) = 1 := by
  decide +kernel

end ScalesetProxmox.Pool.Demand
