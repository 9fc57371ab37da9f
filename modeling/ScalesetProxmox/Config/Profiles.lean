import ScalesetProxmox.Config.Scalesets

/-!
# Loading a configuration with profiles

The rest of `internal/config/config.go` that decides which profiles a scale set runs with: the
singular form is folded into a list of one scale set, a scale set without profiles gets a default one,
absent sizes are inherited, and then `Validate` checks names, labels, sizes and canaries.

`load` is the whole path from the parsed file to an accepted configuration, over the modelled fields.
-/

namespace ScalesetProxmox.Configuration

open Store (minute)
open Text (quote)

variable {cfg : Config} {pool : PoolConfig} {seen : List (String × ℕ)}

/-! ## Normalisation -/

/-- The singular `scaleset` block. -/
structure ScaleSetConfig where
  name : String := ""
  labels : List String := []
  maxConcurrentRunners : ℤ := 0
  deriving DecidableEq, Repr

/-- A configuration as parsed, in either form. -/
structure RawConfig where
  scaleSet : ScaleSetConfig := {}
  profiles : List ProfileConfig := []
  scope : Scope := {}
  scalesets : List ScaleSetEntry := []
  proxmox : ProxmoxConfig
  pool : PoolConfig
  deriving DecidableEq, Repr

def defaultProfileName : String := "default"

def defaultProfile (pool : PoolConfig) (entry : ScaleSetEntry) : ProfileConfig where
  name := defaultProfileName
  labels := entry.labels
  hotSize := some pool.hotSize
  warmSize := some pool.warmSize
  maxConcurrentRunners := some entry.maxConcurrentRunners
  bootMaxAttempts := some pool.bootMaxAttempts
  vmMaxAge := pool.vmMaxAge
  schedules := pool.schedules

/-- Inherit the sizes a profile leaves out. -/
def ProfileConfig.inherit (pool : PoolConfig) (entry : ScaleSetEntry) (p : ProfileConfig) :
    ProfileConfig :=
  { p with
    hotSize := some (p.hotSize.getD pool.hotSize)
    warmSize := some (p.warmSize.getD pool.warmSize)
    maxConcurrentRunners := some (p.maxConcurrentRunners.getD entry.maxConcurrentRunners)
    bootMaxAttempts := some (p.bootMaxAttempts.getD pool.bootMaxAttempts)
    vmMaxAge := p.vmMaxAge.or pool.vmMaxAge }

def ScaleSetEntry.normalize (pool : PoolConfig) (entry : ScaleSetEntry) : ScaleSetEntry :=
  { entry with
    profiles :=
      if entry.profiles = [] then
        [defaultProfile pool entry]
      else
        entry.profiles.map (·.inherit pool entry) }

def applyPoolDefaults (pool : PoolConfig) : PoolConfig :=
  { pool with
    bootMaxAttempts := if pool.bootMaxAttempts = 0 then 3 else pool.bootMaxAttempts
    vmMaxAge := some (pool.vmMaxAge.getD (24 * 60 * minute)) }

/-- Fold the singular form into a list of one scale set. It never declares a range of its own. -/
def RawConfig.entries (raw : RawConfig) : List ScaleSetEntry :=
  if raw.scalesets = [] ∧ (raw.scaleSet.name ≠ "" ∨ raw.scaleSet.maxConcurrentRunners ≠ 0) then
    [{ name := raw.scaleSet.name
       labels := raw.scaleSet.labels
       maxConcurrentRunners := raw.scaleSet.maxConcurrentRunners
       scope := raw.scope
       profiles := raw.profiles }]
  else
    raw.scalesets

def normalizeScalesets (raw : RawConfig) : Config :=
  let pool := applyPoolDefaults raw.pool
  { scalesets := raw.entries.map (·.normalize pool)
    proxmox := raw.proxmox
    pool := pool }

/-! ## Profiles -/

def profileChar (c : Char) : Bool := ('a' ≤ c ∧ c ≤ 'z') ∨ ('0' ≤ c ∧ c ≤ '9')

/-- `^[a-z0-9][a-z0-9-]{0,62}$` -/
def profileName (name : String) : Bool :=
  match name.toList with
  | [] => false
  | c :: rest => profileChar c && rest.all (fun c ↦ profileChar c || c = '-') && rest.length ≤ 62

/-- The labels of `want` that `have` lacks, in order. -/
def labelsNotIn (want other : List String) : List String := want.filter (· ∉ other)

/-- A list of names as `%v` prints it. -/
def printNames (names : List String) : String := "[" ++ " ".intercalate names ++ "]"

/-- `scalesets[i] "name".profiles[j] "profile"`, the start of messages about one profile. -/
def profilePath (si : ℕ) (entry : ScaleSetEntry) (i : ℕ) (p : ProfileConfig) : String :=
  s!"{entryPath si entry}.profiles[{i}] {quote p.name}"

def validateProfileLabels (si : ℕ) (entry : ScaleSetEntry) (i : ℕ) (p : ProfileConfig) :
    Except String Unit :=
  let extra := labelsNotIn p.labels entry.labels
  let missing := labelsNotIn entry.labels p.labels
  if extra ≠ [] then
    .error s!"{profilePath si entry i p}: declares labels {printNames extra} that scalesets[{si}].labels does not advertise — runners inside one scale set are indistinguishable to GitHub, so a per-profile label cannot route anything. Give each label set its own scale set (see docs/multi-scaleset.md)"
  else if missing ≠ [] then
    .error s!"{profilePath si entry i p}: does not advertise labels {printNames missing} that scalesets[{si}].labels does — every profile in a scale set serves every job the set accepts, so all profiles must carry the same labels. Give each label set its own scale set (see docs/multi-scaleset.md)"
  else
    .ok ()

def validateProfileFootprint (pool : PoolConfig) (si : ℕ) (entry : ScaleSetEntry) (i : ℕ)
    (p : ProfileConfig) : Except String Unit :=
  if !pool.capacityEnabled then
    .ok ()
  else if p.memoryMB ≤ 0 then
    .error s!"{profilePath si entry i p}: memory_mb must be > 0 when pool.capacity.enabled (admission cannot size a clone that inherits the template's memory)"
  else if 0 < pool.cpuOvercommitRatio ∧ p.cpuCores ≤ 0 then
    .error s!"{profilePath si entry i p}: cpu must be > 0 when pool.capacity.cpu_overcommit_ratio is set (admission cannot size a clone that inherits the template's cpu count)"
  else
    .ok ()

/-- What the loop over the profiles has added up. -/
structure Totals where
  sumMax : ℤ := 0
  anyUnlimited : Bool := false
  deriving DecidableEq, Repr

def checkSchedules (path : String) (maxConc : ℤ) : ℕ → List ScheduleConfig → Except String Unit
  | _, [] => .ok ()
  | j, schedule :: rest =>
    if maxConc < schedule.hotSize + schedule.warmSize then
      .error s!"{path}.schedules[{j}] {quote schedule.name}: hot_size+warm_size ({schedule.hotSize + schedule.warmSize}) must not exceed max_concurrent_runners ({maxConc})"
    else
      checkSchedules path maxConc (j + 1) rest

/-- The checks against a profile's own cap. Without a cap there is nothing to check. -/
def checkCapped (pool : PoolConfig) (path : String) (maxConc : ℤ) (p : ProfileConfig) (totals : Totals) :
    Except String Totals :=
  let total := p.hotSize.getD pool.hotSize + p.warmSize.getD pool.warmSize
  if maxConc ≤ 0 then
    .ok { totals with anyUnlimited := true }
  else if maxConc < total then
    .error s!"{path}: hot_size+warm_size ({total}) must not exceed max_concurrent_runners ({maxConc})"
  else
    (checkSchedules path maxConc 0 p.schedules).map fun _ ↦
      { totals with sumMax := totals.sumMax + maxConc }

def checkProfile (pool : PoolConfig) (si : ℕ) (entry : ScaleSetEntry) (i : ℕ) (p : ProfileConfig)
    (seen : List (String × ℕ)) (totals : Totals) : Except String Totals := do
  let path := profilePath si entry i p
  let maxConc := p.maxConcurrentRunners.getD entry.maxConcurrentRunners
  if !profileName p.name then
    .error s!"{entryPath si entry}.profiles[{i}].name {quote p.name} must match ^[a-z0-9][a-z0-9-]\x7b0,62\x7d$"
  match seen.lookup p.name with
  | some prev =>
    .error s!"{entryPath si entry}.profiles: duplicate name {quote p.name} at indexes {prev} and {i}"
  | none => pure ()
  validateProfileLabels si entry i p
  validateProfileFootprint pool si entry i p
  if maxConc ≤ 0 ∧ !pool.capacityEnabled then
    .error s!"{path}: max_concurrent_runners must be > 0 (inherited from scaleset when omitted)"
  if p.bootMaxAttempts.any (· < 1) then
    .error s!"{path}: boot_max_attempts ({p.bootMaxAttempts.getD 0}) must be >= 1"
  checkCapped pool path maxConc p totals

def checkProfiles (pool : PoolConfig) (si : ℕ) (entry : ScaleSetEntry) :
    ℕ → List ProfileConfig → List (String × ℕ) → Totals → Except String Totals
  | _, [], _, totals => .ok totals
  | i, p :: rest, seen, totals =>
    match checkProfile pool si entry i p seen totals with
    | .error message => .error message
    | .ok totals => checkProfiles pool si entry (i + 1) rest ((p.name, i) :: seen) totals

def checkProfileLists (pool : PoolConfig) : ℕ → List ScaleSetEntry → Totals → Except String Totals
  | _, [], totals => .ok totals
  | si, entry :: rest, totals =>
    if entry.profiles = [] then
      .error s!"{entryPath si entry}.profiles: at least one profile is required"
    else
      match checkProfiles pool si entry 0 entry.profiles [] totals with
      | .error message => .error message
      | .ok totals => checkProfileLists pool (si + 1) rest totals

def validateProfiles (cfg : Config) : Except String Unit :=
  match checkProfileLists cfg.pool 0 cfg.scalesets {} with
  | .error message => .error message
  | .ok totals =>
    if 0 < cfg.pool.globalMax ∧ !totals.anyUnlimited ∧ cfg.pool.globalMax < totals.sumMax then
      .error s!"pool.global_max ({cfg.pool.globalMax}) is below the sum of profile.max_concurrent_runners across all scalesets ({totals.sumMax})"
    else
      .ok ()

/-! ## Canaries -/

def checkCanary (si : ℕ) (entry : ScaleSetEntry) (i : ℕ) (p : ProfileConfig) : Except String Unit :=
  if p.canaryTemplateVMID = 0 then
    if 0 < p.canaryPercent then
      .error s!"{profilePath si entry i p}: canary_percent > 0 requires canary_template_vmid"
    else if 0 < p.canaryMaxFailureRate then
      .error s!"{profilePath si entry i p}: canary_max_failure_rate > 0 requires canary_template_vmid"
    else
      .ok ()
  else
    .ok ()

def checkCanaries (si : ℕ) (entry : ScaleSetEntry) : ℕ → List ProfileConfig → Except String Unit
  | _, [] => .ok ()
  | i, p :: rest =>
    match checkCanary si entry i p with
    | .error message => .error message
    | .ok () => checkCanaries si entry (i + 1) rest

def checkCanaryLists : ℕ → List ScaleSetEntry → Except String Unit
  | _, [] => .ok ()
  | si, entry :: rest =>
    match checkCanaries si entry 0 entry.profiles with
    | .error message => .error message
    | .ok () => checkCanaryLists (si + 1) rest

def validateProfileCanaries (cfg : Config) : Except String Unit := checkCanaryLists 0 cfg.scalesets

/-! ## The whole path -/

/-- The legacy fields that a file with a scale set list also sets. -/
def RawConfig.mixed (raw : RawConfig) : List String :=
  (if raw.scaleSet.name ≠ "" ∨ raw.scaleSet.maxConcurrentRunners ≠ 0 then ["scaleset:"] else []) ++
  (if raw.profiles ≠ [] then ["profiles:"] else []) ++
  (if raw.scope.org ≠ "" ∨ raw.scope.repo ≠ "" then ["github.scope:"] else [])

/-- All of `Validate` that reads the modelled fields, in its order. -/
def validateAll (cfg : Config) : Except String Unit := do
  validate cfg
  validateProfiles cfg
  validateProfileCanaries cfg

def load (raw : RawConfig) : Except String Config :=
  if raw.scalesets ≠ [] ∧ raw.mixed ≠ [] then
    .error s!"config: scalesets: declared alongside legacy {printNames raw.mixed} — remove the legacy fields or remove scalesets: (mixing is ambiguous)"
  else
    let cfg := normalizeScalesets raw
    match validateAll cfg with
    | .error message => .error s!"config: validate: {message}"
    | .ok () => .ok cfg

/-! ## What acceptance means -/

theorem load_eq_ok {raw : RawConfig} (h : load raw = .ok cfg) :
    cfg = normalizeScalesets raw ∧ validate cfg = .ok () ∧ validateProfiles cfg = .ok () ∧
      validateProfileCanaries cfg = .ok () := by
  unfold load at h
  split at h
  · cases h
  · dsimp only at h
    split at h
    · cases h
    next hvalid =>
      cases h
      exact ⟨rfl, by simpa only [validateAll, andThen_eq_ok] using hvalid⟩

variable {totals totals' : Totals}

theorem checkCapped_eq_ok {path : String} {maxConc : ℤ} {p : ProfileConfig}
    (h : checkCapped pool path maxConc p totals = .ok totals') :
    maxConc ≤ 0 ∨ p.hotSize.getD pool.hotSize + p.warmSize.getD pool.warmSize ≤ maxConc := by
  unfold checkCapped at h
  dsimp only at h
  split_ifs at h with huncapped hover
  · exact .inl huncapped
  · exact .inr (not_lt.mp hover)

variable {entry : ScaleSetEntry}

/-- A profile that passes has a name that was not seen before, and sizes under its cap if it has one. -/
theorem checkProfile_eq_ok {si i : ℕ} {p : ProfileConfig}
    (h : checkProfile pool si entry i p seen totals = .ok totals') :
    profileName p.name ∧ seen.lookup p.name = none ∧
      (p.maxConcurrentRunners.getD entry.maxConcurrentRunners ≤ 0 ∨
        p.hotSize.getD pool.hotSize + p.warmSize.getD pool.warmSize ≤
          p.maxConcurrentRunners.getD entry.maxConcurrentRunners) := by
  simp only [checkProfile, stopIf_eq_ok] at h
  obtain ⟨hname, h⟩ := h
  cases hseen : seen.lookup p.name with
  | some prev =>
    simp only [hseen, andThen_eq_ok] at h
    cases h.1
  | none =>
    simp only [hseen, andThen_eq_ok, stopIf_eq_ok] at h
    exact ⟨by simpa using hname, rfl, checkCapped_eq_ok h.2.2.2.2⟩

theorem profiles_of_checkProfiles {si i : ℕ} {profiles : List ProfileConfig}
    (h : checkProfiles pool si entry i profiles seen totals = .ok totals') :
    (profiles.map (·.name)).Nodup ∧ ∀ p ∈ profiles, profileName p.name ∧
      seen.lookup p.name = none ∧
      (p.maxConcurrentRunners.getD entry.maxConcurrentRunners ≤ 0 ∨
        p.hotSize.getD pool.hotSize + p.warmSize.getD pool.warmSize ≤
          p.maxConcurrentRunners.getD entry.maxConcurrentRunners) := by
  induction profiles generalizing i seen totals with
  | nil => simp
  | cons first rest ih =>
    unfold checkProfiles at h
    split at h
    · cases h
    next totals₁ hfirst =>
    obtain ⟨hname, hseen, hcapped⟩ := checkProfile_eq_ok hfirst
    obtain ⟨hnodup, hrest⟩ := ih h
    -- a later name is not found in the list that already holds this one
    have hlater (p : ProfileConfig) (hp : p ∈ rest) : p.name ≠ first.name ∧ seen.lookup p.name = none := by
      have hlookup := (hrest p hp).2.1
      rw [List.lookup_cons] at hlookup
      split at hlookup
      · cases hlookup
      next hne => exact ⟨by simpa using hne, hlookup⟩
    constructor
    · rw [List.map_cons, List.nodup_cons]
      refine ⟨fun hmem ↦ ?_, hnodup⟩
      obtain ⟨p, hp, heq⟩ := List.mem_map.mp hmem
      exact (hlater p hp).1 heq
    · intro p hp
      rcases List.mem_cons.mp hp with rfl | hp
      · exact ⟨hname, hseen, hcapped⟩
      · exact ⟨(hrest p hp).1, (hlater p hp).2, (hrest p hp).2.2⟩

theorem exists_checkProfiles {si : ℕ} {entries : List ScaleSetEntry}
    (h : checkProfileLists pool si entries totals = .ok totals') (hentry : entry ∈ entries) :
    ∃ j before after, checkProfiles pool j entry 0 entry.profiles [] before = .ok after := by
  induction entries generalizing si totals with
  | nil => cases hentry
  | cons first rest ih =>
    unfold checkProfileLists at h
    split_ifs at h
    split at h
    · cases h
    next totals₁ hfirst =>
    rcases List.mem_cons.mp hentry with rfl | hrest
    · exact ⟨si, totals, totals₁, hfirst⟩
    · exact ih h hrest

/-- The profiles of an accepted scale set have distinct names, none of them empty, and sizes under their
caps. -/
theorem profiles_of_validateProfiles (h : validateProfiles cfg = .ok ()) (hentry : entry ∈ cfg.scalesets) :
    (entry.profiles.map (·.name)).Nodup ∧ ∀ p ∈ entry.profiles, p.name ≠ "" ∧
      (p.maxConcurrentRunners.getD entry.maxConcurrentRunners ≤ 0 ∨
        p.hotSize.getD cfg.pool.hotSize + p.warmSize.getD cfg.pool.warmSize ≤
          p.maxConcurrentRunners.getD entry.maxConcurrentRunners) := by
  unfold validateProfiles at h
  split at h
  · cases h
  next totals htotals =>
  obtain ⟨j, before, after, hprofiles⟩ := exists_checkProfiles htotals hentry
  obtain ⟨hnodup, hall⟩ := profiles_of_checkProfiles hprofiles
  refine ⟨hnodup, fun p hp ↦ ⟨fun hempty ↦ ?_, (hall p hp).2.2⟩⟩
  have hname := (hall p hp).1
  rw [hempty] at hname
  exact absurd hname (by decide)

theorem template_outside_of_validate (h : validate cfg = .ok ()) :
    cfg.proxmox.vmidRange.contains cfg.proxmox.templateVMID = false := by
  obtain ⟨_, hsizing, _⟩ := validate_eq_ok.mp h
  have houtside : validateSizing.templateOutside cfg.proxmox = .ok () := by
    unfold validateSizing at hsizing
    dsimp only at hsizing
    split at hsizing
    · split at hsizing
      · cases hsizing
      · exact hsizing
    · exact hsizing
  unfold validateSizing.templateOutside at houtside
  split at houtside
  · cases houtside
  next hnot => exact Bool.eq_false_iff.mpr hnot

end ScalesetProxmox.Configuration
