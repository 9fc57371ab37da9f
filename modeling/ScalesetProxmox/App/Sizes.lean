import ScalesetProxmox.Config.Profiles
import ScalesetProxmox.NodeSelector.Select
import ScalesetProxmox.Pool.Sizing

/-!
# From the configured sizes to the live ones

A profile's sizes pass through three steps: `normalizeScalesets` fills in what the file leaves out,
`profileSettingsForScaleset` projects the profile for the pool, and `NewManager` inherits once more and
stores the targets in 32 bits. The file tells an absent size from an explicit zero. The last step does not:
a zero is taken for absent, and the profile gets the pool's size.

`configured_sizes_live_iff` says for which profiles of an accepted configuration the manager starts with the
sizes that they declare.
-/

namespace ScalesetProxmox.App

open Store (Time)
open ScalesetProxmox.Configuration
open NodeSelector (NodesConfig)
open Pool (validateConfig validateConfig_eq_ok)
open Text (quote)

variable {entry : ScaleSetEntry} {pool : PoolConfig} {p : ProfileConfig}

/-! ## The pool's view of a profile -/

/-- `math.MaxInt32`, the cap of a profile without a static one. -/
def unlimited : ℤ := 2 ^ 31 - 1

def effectiveMaxConcurrent (resolved : ℤ) : ℤ := if resolved ≤ 0 then unlimited else resolved

/-- The settings of a profile that the manager may inherit. -/
structure SizeSettings where
  name : String
  hotSize : ℤ
  warmSize : ℤ
  maxConcurrentRunners : ℤ
  bootMaxAttempts : ℤ
  vmMaxAge : Time
  deriving DecidableEq, Repr

/-- What `NewManager` reads of its configuration before it builds the profiles. -/
structure ManagerConfig where
  hotSize : ℤ
  warmSize : ℤ
  maxConcurrentRunners : ℤ
  bootMaxAttempts : ℤ
  vmMaxAge : Time
  profiles : List SizeSettings
  /-- A capacity accountant is attached. -/
  capacity : Bool
  evictIdleForDemand : Bool
  nodes : List String
  deriving DecidableEq, Repr

def profileSettingsForScaleset (entry : ScaleSetEntry) (cfg : Config) : List SizeSettings :=
  entry.profiles.map fun p ↦
    { name := p.name
      hotSize := p.hotSize.getD cfg.pool.hotSize
      warmSize := p.warmSize.getD cfg.pool.warmSize
      maxConcurrentRunners :=
        effectiveMaxConcurrent (p.maxConcurrentRunners.getD entry.maxConcurrentRunners)
      bootMaxAttempts := p.bootMaxAttempts.getD cfg.pool.bootMaxAttempts
      vmMaxAge := p.vmMaxAge.D }

/-- The configuration that `runOneScaleset` hands to the manager of an entry. -/
def managerConfig (cfg : Config) (nodes : NodesConfig) (evictIdleForDemand : Bool) (entry : ScaleSetEntry) :
    ManagerConfig where
  hotSize := cfg.pool.hotSize
  warmSize := cfg.pool.warmSize
  maxConcurrentRunners := effectiveMaxConcurrent entry.maxConcurrentRunners
  bootMaxAttempts := cfg.pool.bootMaxAttempts
  vmMaxAge := cfg.pool.vmMaxAge.D
  profiles := profileSettingsForScaleset entry cfg
  capacity := cfg.pool.capacityEnabled
  evictIdleForDemand := evictIdleForDemand
  nodes := nodes.universe

/-! ## The manager -/

/-- A setting that is zero counts as unset. -/
def orInherit (setting inherited : ℤ) : ℤ := if setting = 0 then inherited else setting

def normaliseProfiles (cfg : ManagerConfig) : List SizeSettings :=
  if cfg.profiles = [] then
    [{ name := defaultProfileName
       hotSize := cfg.hotSize
       warmSize := cfg.warmSize
       maxConcurrentRunners := cfg.maxConcurrentRunners
       bootMaxAttempts := cfg.bootMaxAttempts
       vmMaxAge := cfg.vmMaxAge }]
  else
    cfg.profiles.map fun p ↦
      { p with
        hotSize := orInherit p.hotSize cfg.hotSize
        warmSize := orInherit p.warmSize cfg.warmSize
        maxConcurrentRunners := orInherit p.maxConcurrentRunners cfg.maxConcurrentRunners
        bootMaxAttempts := orInherit p.bootMaxAttempts cfg.bootMaxAttempts
        vmMaxAge := orInherit p.vmMaxAge cfg.vmMaxAge }

/-- A conversion to `int32`. -/
def int32 (n : ℤ) : ℤ := n.bmod (2 ^ 32)

/-- The runtime state of a profile: its settings and its live targets. -/
structure ProfileState where
  settings : SizeSettings
  hotSize : ℤ
  warmSize : ℤ
  deriving DecidableEq, Repr

def ProfileState.ofSettings (settings : SizeSettings) : ProfileState where
  settings := settings
  hotSize := int32 settings.hotSize
  warmSize := int32 settings.warmSize

abbrev Profiles := Table String ProfileState fun ps ↦ ps.settings.name

structure Manager where
  profiles : Profiles
  profileOrder : List String

def checkSettings : List SizeSettings → Except String Unit
  | [] => .ok ()
  | p :: rest =>
    if p.name = "" then
      .error "pool: profile name must be non-empty"
    else
      match validateConfig p.hotSize p.warmSize p.maxConcurrentRunners with
      | .error message => .error s!"pool: profile {quote p.name}: {message}"
      | .ok () => checkSettings rest

def newManager (cfg : ManagerConfig) : Except String Manager := do
  let profiles := normaliseProfiles cfg
  checkSettings profiles
  validateConfig cfg.hotSize cfg.warmSize cfg.maxConcurrentRunners
  if cfg.evictIdleForDemand ∧ cfg.capacity ∧ cfg.nodes = [] then
    .error "pool: EvictIdleForDemand requires Nodes (the operator-declared node universe)"
  .ok
    { profiles := (profiles.map ProfileState.ofSettings).foldl Table.put Table.empty
      profileOrder := profiles.map (·.name) }

/-- What `resolveNodeSelector` requires of the node block. -/
def resolveNodeSelector (nodes : NodesConfig) : Except String Unit :=
  match nodes.strategy with
  | .single =>
    if nodes.singleNode = "" then .error "nodes.single_node is required when strategy=single" else .ok ()
  | .roundRobin =>
    if nodes.members = [] then .error "nodes.members is required when strategy=round_robin" else .ok ()
  | .leastLoaded =>
    if nodes.members = [] then .error "nodes.members is required when strategy=least_loaded" else .ok ()

/-! ## What a profile declares -/

/-- The two targets and the cap of a profile. -/
structure Sizes where
  hot : ℤ
  warm : ℤ
  cap : ℤ
  deriving DecidableEq, Repr

/-- The profiles of an entry as the file has it. A scale set without profiles has the default one, which
declares nothing. -/
def declaredProfiles (entry : ScaleSetEntry) : List ProfileConfig :=
  if entry.profiles = [] then [{ name := defaultProfileName }] else entry.profiles

/-- What a profile declares, or inherits from the pool and the scale set. No static cap is a cap of
`unlimited`. -/
def declaredSizes (pool : PoolConfig) (entry : ScaleSetEntry) (p : ProfileConfig) : Sizes where
  hot := p.hotSize.getD pool.hotSize
  warm := p.warmSize.getD pool.warmSize
  cap := effectiveMaxConcurrent (p.maxConcurrentRunners.getD entry.maxConcurrentRunners)

/-- The live targets and the cap that a manager starts with. -/
def Manager.sizes (m : Manager) (name : String) : Option Sizes :=
  (m.profiles.get name).map fun ps ↦ ⟨ps.hotSize, ps.warmSize, ps.settings.maxConcurrentRunners⟩

/-- The settings of a declared profile, before the manager inherits. -/
def declaredSettings (pool : PoolConfig) (entry : ScaleSetEntry) (p : ProfileConfig) : SizeSettings where
  name := p.name
  hotSize := (declaredSizes pool entry p).hot
  warmSize := (declaredSizes pool entry p).warm
  maxConcurrentRunners := (declaredSizes pool entry p).cap
  bootMaxAttempts := p.bootMaxAttempts.getD pool.bootMaxAttempts
  vmMaxAge := Duration.D (p.vmMaxAge.or pool.vmMaxAge)

/-- The sizes of a profile survive the way to the manager: they are not negative and fit in 32 bits, a zero
is the pool's own size, and without a static cap they fit under `unlimited`. -/
structure Carried (pool : PoolConfig) (entry : ScaleSetEntry) (p : ProfileConfig) : Prop where
  hot_nonneg : 0 ≤ p.hotSize.getD pool.hotSize
  warm_nonneg : 0 ≤ p.warmSize.getD pool.warmSize
  hot_lt : p.hotSize.getD pool.hotSize < 2 ^ 31
  warm_lt : p.warmSize.getD pool.warmSize < 2 ^ 31
  hot_zero : p.hotSize.getD pool.hotSize = 0 → pool.hotSize = 0
  warm_zero : p.warmSize.getD pool.warmSize = 0 → pool.warmSize = 0
  uncapped : p.maxConcurrentRunners.getD entry.maxConcurrentRunners ≤ 0 →
    p.hotSize.getD pool.hotSize + p.warmSize.getD pool.warmSize ≤ unlimited

theorem profileSettings_normalize (cfg : Config) (entry : ScaleSetEntry) :
    profileSettingsForScaleset (entry.normalize cfg.pool) cfg =
      (declaredProfiles entry).map (declaredSettings cfg.pool entry) := by
  unfold profileSettingsForScaleset ScaleSetEntry.normalize declaredProfiles
  dsimp only
  split_ifs
  · rfl
  · rw [List.map_map]
    rfl

/-! ## One size -/

theorem effectiveMaxConcurrent_pos (resolved : ℤ) : 0 < effectiveMaxConcurrent resolved := by
  unfold effectiveMaxConcurrent unlimited
  split_ifs <;> omega

theorem int32_eq_self_iff {n : ℤ} : int32 n = n ↔ -2 ^ 31 ≤ n ∧ n < 2 ^ 31 := by
  constructor
  · intro h
    have hle : -2 ^ 31 ≤ n.bmod (2 ^ 32) := Int.le_bmod (by decide)
    have hlt : n.bmod (2 ^ 32) < 2 ^ 31 := Int.bmod_lt (by decide)
    unfold int32 at h
    omega
  · intro h
    exact Int.bmod_eq_of_le h.1 h.2

theorem orInherit_eq {declared inherited : ℤ} (h : declared = 0 → inherited = 0) :
    orInherit declared inherited = declared := by
  unfold orInherit
  split_ifs with hzero
  · rw [h hzero, hzero]
  · rfl

/-- A target is live as declared when it fits and is not a zero in place of something else. -/
theorem int32_orInherit_iff {declared inherited : ℤ} (hinherited : 0 ≤ inherited ∧ inherited ≤ 1000000) :
    0 ≤ orInherit declared inherited ∧ int32 (orInherit declared inherited) = declared ↔
      0 ≤ declared ∧ declared < 2 ^ 31 ∧ (declared = 0 → inherited = 0) := by
  unfold orInherit
  split_ifs with hzero
  · have hfits : int32 inherited = inherited := int32_eq_self_iff.mpr (by omega)
    rw [hfits]
    omega
  · rw [int32_eq_self_iff]
    omega

/-! ## All profiles of a manager -/

/-- The settings that the manager runs a declared profile with. -/
def inheritedSettings (pool : PoolConfig) (entry : ScaleSetEntry) (p : ProfileConfig) : SizeSettings where
  name := p.name
  hotSize := orInherit (declaredSizes pool entry p).hot pool.hotSize
  warmSize := orInherit (declaredSizes pool entry p).warm pool.warmSize
  maxConcurrentRunners := (declaredSizes pool entry p).cap
  bootMaxAttempts := orInherit (p.bootMaxAttempts.getD pool.bootMaxAttempts) pool.bootMaxAttempts
  vmMaxAge := orInherit (Duration.D (p.vmMaxAge.or pool.vmMaxAge)) pool.vmMaxAge.D

theorem declaredProfiles_ne_nil (entry : ScaleSetEntry) : declaredProfiles entry ≠ [] := by
  unfold declaredProfiles
  split_ifs with hempty
  · simp
  · exact hempty

theorem normaliseProfiles_managerConfig (cfg : Config) (nodes : NodesConfig) (evict : Bool)
    (entry : ScaleSetEntry) :
    normaliseProfiles (managerConfig cfg nodes evict (entry.normalize cfg.pool)) =
      (declaredProfiles entry).map (inheritedSettings cfg.pool entry) := by
  have hcap (p : ProfileConfig) : (declaredSizes cfg.pool entry p).cap ≠ 0 :=
    (effectiveMaxConcurrent_pos _).ne'
  have hne : (declaredProfiles entry).map (declaredSettings cfg.pool entry) ≠ [] := by
    simpa using declaredProfiles_ne_nil entry
  unfold normaliseProfiles managerConfig
  dsimp only
  rw [profileSettings_normalize, if_neg hne, List.map_map]
  apply List.map_congr_left
  intro p _
  simp only [Function.comp_apply, declaredSettings, inheritedSettings, SizeSettings.mk.injEq, true_and,
    and_true]
  exact if_neg (hcap p)

theorem checkSettings_eq_ok {settings : List SizeSettings} :
    checkSettings settings = .ok () ↔ ∀ p ∈ settings, p.name ≠ "" ∧
      validateConfig p.hotSize p.warmSize p.maxConcurrentRunners = .ok () := by
  induction settings with
  | nil => simp [checkSettings]
  | cons p rest ih =>
    unfold checkSettings
    rw [List.forall_mem_cons, ← ih]
    split_ifs with hname
    · simp [hname]
    · cases hvalid : validateConfig p.hotSize p.warmSize p.maxConcurrentRunners with
      | error message => simp
      | ok _ => simp [hname]

theorem newManager_eq_ok {cfg : ManagerConfig} {m : Manager} :
    newManager cfg = .ok m ↔
      checkSettings (normaliseProfiles cfg) = .ok () ∧
      validateConfig cfg.hotSize cfg.warmSize cfg.maxConcurrentRunners = .ok () ∧
      ¬(cfg.evictIdleForDemand ∧ cfg.capacity ∧ cfg.nodes = []) ∧
      { profiles := ((normaliseProfiles cfg).map ProfileState.ofSettings).foldl Table.put Table.empty
        profileOrder := (normaliseProfiles cfg).map (·.name) } = m := by
  simp only [newManager, andThen_eq_ok, stopIf_eq_ok, Except.ok.injEq]

theorem universe_ne_nil {nodes : NodesConfig} (h : resolveNodeSelector nodes = .ok ()) :
    nodes.universe ≠ [] := by
  unfold resolveNodeSelector at h
  unfold NodesConfig.universe
  cases hstrategy : nodes.strategy with
  | single => simp
  | roundRobin | leastLoaded =>
    simp only [hstrategy] at h
    split_ifs at h with hmembers
    simpa using hmembers

/-- The pool's own sizes pass the manager's check in every accepted configuration. -/
theorem validateConfig_pool {cfg : Config} (hvalid : validate cfg = .ok ()) (hentry : entry ∈ cfg.scalesets) :
    validateConfig cfg.pool.hotSize cfg.pool.warmSize
      (effectiveMaxConcurrent entry.maxConcurrentRunners) = .ok () := by
  obtain ⟨hhot, hwarm⟩ := poolSizes_of_validate hvalid
  have hcap := poolSizes_le_cap_of_validate hvalid hentry
  rw [validateConfig_eq_ok]
  unfold effectiveMaxConcurrent unlimited
  split_ifs <;> omega

/-- The profile passes the manager's check and starts with what it declares. -/
theorem carried_iff (hhot : 0 ≤ pool.hotSize ∧ pool.hotSize ≤ 1000000)
    (hwarm : 0 ≤ pool.warmSize ∧ pool.warmSize ≤ 1000000)
    (hcapped : p.maxConcurrentRunners.getD entry.maxConcurrentRunners ≤ 0 ∨
      p.hotSize.getD pool.hotSize + p.warmSize.getD pool.warmSize ≤
        p.maxConcurrentRunners.getD entry.maxConcurrentRunners) :
    validateConfig (inheritedSettings pool entry p).hotSize (inheritedSettings pool entry p).warmSize
          (inheritedSettings pool entry p).maxConcurrentRunners = .ok () ∧
        int32 (inheritedSettings pool entry p).hotSize = (declaredSizes pool entry p).hot ∧
        int32 (inheritedSettings pool entry p).warmSize = (declaredSizes pool entry p).warm ↔
      Carried pool entry p := by
  have hotLive := @int32_orInherit_iff (p.hotSize.getD pool.hotSize) _ hhot
  have warmLive := @int32_orInherit_iff (p.warmSize.getD pool.warmSize) _ hwarm
  rw [validateConfig_eq_ok]
  simp only [inheritedSettings, declaredSizes]
  constructor
  · rintro ⟨⟨hnonneg, hnonneg', _, htotal⟩, hlive, hlive'⟩
    obtain ⟨h0, hlt, hzero⟩ := hotLive.mp ⟨hnonneg, hlive⟩
    obtain ⟨h0', hlt', hzero'⟩ := warmLive.mp ⟨hnonneg', hlive'⟩
    refine ⟨h0, h0', hlt, hlt', hzero, hzero', fun huncapped ↦ ?_⟩
    rwa [orInherit_eq hzero, orInherit_eq hzero', effectiveMaxConcurrent, if_pos huncapped] at htotal
  · intro h
    obtain ⟨hnonneg, hlive⟩ := hotLive.mpr ⟨h.hot_nonneg, h.hot_lt, h.hot_zero⟩
    obtain ⟨hnonneg', hlive'⟩ := warmLive.mpr ⟨h.warm_nonneg, h.warm_lt, h.warm_zero⟩
    refine ⟨⟨hnonneg, hnonneg', effectiveMaxConcurrent_pos _, ?_⟩, hlive, hlive'⟩
    rw [orInherit_eq h.hot_zero, orInherit_eq h.warm_zero, effectiveMaxConcurrent]
    split_ifs with huncapped
    · exact h.uncapped huncapped
    · exact hcapped.resolve_left huncapped

theorem carried_applyPoolDefaults : Carried (applyPoolDefaults pool) entry p ↔ Carried pool entry p :=
  ⟨fun h ↦ ⟨h.hot_nonneg, h.warm_nonneg, h.hot_lt, h.warm_lt, h.hot_zero, h.warm_zero, h.uncapped⟩,
    fun h ↦ ⟨h.hot_nonneg, h.warm_nonneg, h.hot_lt, h.warm_lt, h.hot_zero, h.warm_zero, h.uncapped⟩⟩

/-! ## The manager of an entry -/

/-- Names and caps of the declared profiles, from the checks on the normalised ones. -/
theorem declared_of_validateProfiles {cfg : Config} (h : validateProfiles cfg = .ok ())
    (hentry : entry.normalize cfg.pool ∈ cfg.scalesets) :
    ((declaredProfiles entry).map (·.name)).Nodup ∧ ∀ p ∈ declaredProfiles entry, p.name ≠ "" ∧
      (p.maxConcurrentRunners.getD entry.maxConcurrentRunners ≤ 0 ∨
        p.hotSize.getD cfg.pool.hotSize + p.warmSize.getD cfg.pool.warmSize ≤
          p.maxConcurrentRunners.getD entry.maxConcurrentRunners) := by
  obtain ⟨hnodup, hall⟩ := profiles_of_validateProfiles h hentry
  unfold ScaleSetEntry.normalize at hnodup hall
  unfold declaredProfiles
  dsimp only at hnodup hall
  split_ifs at hnodup hall ⊢ with hempty
  · refine ⟨List.nodup_singleton _, ?_⟩
    intro p hp
    cases List.mem_singleton.mp hp
    exact hall (defaultProfile cfg.pool entry) (List.mem_singleton_self _)
  · rw [List.map_map] at hnodup
    refine ⟨hnodup, fun p hp ↦ ?_⟩
    exact hall (p.inherit cfg.pool entry) (List.mem_map_of_mem hp)

theorem get_profiles (hnodup : ((declaredProfiles entry).map (·.name)).Nodup)
    (hp : p ∈ declaredProfiles entry) :
    ((((declaredProfiles entry).map (inheritedSettings pool entry)).map ProfileState.ofSettings).foldl
      Table.put (Table.empty : Profiles)).get p.name =
        some (ProfileState.ofSettings (inheritedSettings pool entry p)) := by
  have hkeys : ((((declaredProfiles entry).map (inheritedSettings pool entry)).map
      ProfileState.ofSettings).map fun ps ↦ ps.settings.name).Nodup := by
    rw [List.map_map, List.map_map]
    exact hnodup
  have hfound := @Table.get_foldl_put _ _ _ _ (Table.empty : Profiles) _ _ hkeys
    (List.mem_map_of_mem (List.mem_map_of_mem hp))
  exact hfound

/-- A configuration that `load` accepts, an entry of it and an accepted node block: the manager of the
entry can be built and starts every profile with the sizes and the cap that it declares or inherits, if and
only if the sizes of every profile are `Carried`. -/
theorem configured_sizes_live_iff {raw : RawConfig} {cfg : Config} (hload : load raw = .ok cfg)
    {nodes : NodesConfig} (hnodes : resolveNodeSelector nodes = .ok ()) (evictIdleForDemand : Bool)
    {i : ℕ} {declared : ScaleSetEntry} (hdeclared : raw.entries[i]? = some declared) :
    (∃ entry m, cfg.scalesets[i]? = some entry ∧
      newManager (managerConfig cfg nodes evictIdleForDemand entry) = .ok m ∧
      ∀ p ∈ declaredProfiles declared, m.sizes p.name = some (declaredSizes raw.pool declared p)) ↔
    ∀ p ∈ declaredProfiles declared, Carried raw.pool declared p := by
  obtain ⟨rfl, hvalid, hprofiles, _⟩ := load_eq_ok hload
  have hget : (normalizeScalesets raw).scalesets[i]? =
      some (declared.normalize (normalizeScalesets raw).pool) := by
    simp [normalizeScalesets, hdeclared]
  have hmem := List.mem_of_getElem? hget
  obtain ⟨hnodup, hall⟩ := declared_of_validateProfiles hprofiles hmem
  obtain ⟨hhot, hwarm⟩ := poolSizes_of_validate hvalid
  have hcarried (p : ProfileConfig) (hp : p ∈ declaredProfiles declared) :=
    (carried_iff hhot hwarm (hall p hp).2).trans carried_applyPoolDefaults
  constructor
  · rintro ⟨entry, m, hentry, hm, hlive⟩ p hp
    cases hget.symm.trans hentry
    rw [newManager_eq_ok, normaliseProfiles_managerConfig] at hm
    obtain ⟨hcheck, _, _, rfl⟩ := hm
    have hsettings := checkSettings_eq_ok.mp hcheck _ (List.mem_map_of_mem hp)
    have hsizes := hlive p hp
    rw [Manager.sizes, get_profiles hnodup hp, Option.map_some, Option.some.injEq, Sizes.mk.injEq] at hsizes
    exact (hcarried p hp).mp ⟨hsettings.2, hsizes.1, hsizes.2.1⟩
  · intro hall'
    refine ⟨_, _, hget, newManager_eq_ok.mpr ⟨?_, validateConfig_pool hvalid hmem, ?_, rfl⟩, ?_⟩
    · rw [normaliseProfiles_managerConfig, checkSettings_eq_ok, List.forall_mem_map]
      intro p hp
      exact ⟨(hall p hp).1, ((hcarried p hp).mpr (hall' p hp)).1⟩
    · exact fun hstops ↦ universe_ne_nil hnodes hstops.2.2
    · intro p hp
      obtain ⟨_, hlive, hlive'⟩ := (hcarried p hp).mpr (hall' p hp)
      rw [Manager.sizes, normaliseProfiles_managerConfig, get_profiles hnodup hp, Option.map_some,
        Option.some.injEq]
      exact congrArg₂ (Sizes.mk · · _) hlive hlive'

/-! ### A profile without a hot pool -/

/-- A scale set with one profile that keeps `hot` VMs hot and two warm, in a pool of one and one. -/
def gpuProfile (hot : ℤ) : RawConfig where
  scalesets := [{ name := "ci", maxConcurrentRunners := 4, scope := { org := "acme" }
                  profiles := [{ name := "gpu", hotSize := some hot, warmSize := some 2 }] }]
  proxmox := { templateVMID := 9000, vmidRange := { min := 10000, max := 19999 } }
  pool := { hotSize := 1, warmSize := 1 }

def pve1 : NodesConfig where
  strategy := .single
  singleNode := "pve1"

theorem configured_sizes_live_gpu :
    ∃ cfg, load (gpuProfile 2) = .ok cfg ∧
      ∃ entry m, cfg.scalesets[0]? = some entry ∧ newManager (managerConfig cfg pve1 false entry) = .ok m ∧
        m.sizes "gpu" = some ⟨2, 2, 4⟩ := by
  refine ⟨normalizeScalesets (gpuProfile 2), by decide, ?_⟩
  obtain ⟨entry, m, hentry, hm, hlive⟩ := (configured_sizes_live_iff (i := 0)
    (show load (gpuProfile 2) = .ok (normalizeScalesets (gpuProfile 2)) by decide)
    (show resolveNodeSelector pve1 = .ok () by decide) false rfl).mpr (by
      intro p hp
      cases List.mem_singleton.mp hp
      exact ⟨by decide, by decide, by decide, by decide, by decide, by decide, by decide⟩)
  exact ⟨entry, m, hentry, hm, hlive _ (List.mem_singleton_self _)⟩

/-- The profile declares no hot pool, and the manager starts it with the pool's hot size. -/
theorem explicit_zero_inherits :
    ∃ cfg, load (gpuProfile 0) = .ok cfg ∧ resolveNodeSelector pve1 = .ok () ∧
      ∃ entry m, cfg.scalesets[0]? = some entry ∧ newManager (managerConfig cfg pve1 false entry) = .ok m ∧
        ∃ declared p, (gpuProfile 0).entries[0]? = some declared ∧ p ∈ declaredProfiles declared ∧
          p.hotSize = some 0 ∧ (m.sizes p.name).map (·.hot) = some 1 := by
  refine ⟨normalizeScalesets (gpuProfile 0), by decide, by decide, _, _, rfl, rfl, _,
    { name := "gpu", hotSize := some 0, warmSize := some 2 }, rfl, by decide, rfl, ?_⟩
  decide

end ScalesetProxmox.App
