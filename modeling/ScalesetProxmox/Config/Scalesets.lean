import ScalesetProxmox.Tags.Schema
import ScalesetProxmox.Store.Schema
import Mathlib.Data.Rat.Defs

/-!
# Validation of the scale set list

The cross-field checks of `internal/config/config.go` that decide which scale sets may live side by
side: names, owner tags and scopes are pairwise distinct, and with more than one entry every entry
declares its own VMID range and the ranges do not overlap. Messages are those of the source; a
check that fails stops validation.

The struct-tag rules of the modelled fields are `validateStruct`. The validator visits the elements of
a list only where a tag asks for it, and none does here: the tags on a scale set entry or a profile
are never looked at. The blocks that no check reads (quotas, priority, network, TLS) are left out; the
checks of the profiles are in `Config.Profiles`.
-/

namespace ScalesetProxmox.Configuration

open Store (VMID Time)
open Text (quote)

variable {i : ℕ}

structure VMIDRange where
  min : VMID
  max : VMID
  deriving DecidableEq, Repr

structure Scope where
  org : String := ""
  repo : String := ""
  deriving DecidableEq, Repr

/-- A duration that the file may leave out. -/
abbrev Duration := Option Time

/-- The value of a duration, zero when it is left out. -/
def Duration.D (d : Duration) : Time := d.getD 0

/-- A cron-driven override of a profile's sizes. -/
structure ScheduleConfig where
  name : String
  cron : String := ""
  duration : Duration := none
  timezone : String := ""
  hotSize : ℤ
  warmSize : ℤ
  deriving DecidableEq, Repr

/-- A runner profile; sizes that are absent are inherited, and a zero template too. -/
structure ProfileConfig where
  name : String
  labels : List String := []
  templateVMID : ℤ := 0
  cpuCores : ℤ := 0
  memoryMB : ℤ := 0
  hotSize : Option ℤ := none
  warmSize : Option ℤ := none
  maxConcurrentRunners : Option ℤ := none
  bootMaxAttempts : Option ℤ := none
  vmMaxAge : Duration := none
  canaryTemplateVMID : ℤ := 0
  canaryPercent : ℤ := 0
  canaryMaxFailureRate : ℚ := 0
  schedules : List ScheduleConfig := []
  deriving DecidableEq, Repr

structure ScaleSetEntry where
  name : String
  labels : List String := []
  maxConcurrentRunners : ℤ
  scope : Scope
  profiles : List ProfileConfig := []
  vmidRange : Option VMIDRange := none
  deriving DecidableEq, Repr

structure ProxmoxConfig where
  templateVMID : VMID
  vmidRange : VMIDRange
  deriving DecidableEq, Repr

structure PoolConfig where
  hotSize : ℤ
  warmSize : ℤ
  globalMax : ℤ := 0
  bootMaxAttempts : ℤ := 3
  vmMaxAge : Duration := none
  capacityEnabled : Bool := false
  cpuOvercommitRatio : ℚ := 0
  schedules : List ScheduleConfig := []
  deriving DecidableEq, Repr

structure Config where
  scalesets : List ScaleSetEntry
  proxmox : ProxmoxConfig
  pool : PoolConfig
  deriving DecidableEq, Repr

def VMIDRange.contains (range : VMIDRange) (v : VMID) : Bool := range.min ≤ v ∧ v ≤ range.max

/-- `scalesets[i] "name"`, the path that messages about one entry start with. -/
def entryPath (i : ℕ) (entry : ScaleSetEntry) : String := s!"scalesets[{i}] {quote entry.name}"

/-! ## Struct tags -/

/-- The validator's text for one field. -/
def fieldError (key field tag : String) : String :=
  s!"Key: '{key}' Error:Field validation for '{field}' failed on the '{tag}' tag"

/-- `validate:"required,gt=0"` on the lower end, `validate:"required,gtfield=Min"` on the upper. -/
def validateRange (key : String) (range : VMIDRange) : Except String Unit :=
  if range.min = 0 then
    .error (fieldError (key ++ ".Min") "Min" "required")
  else if range.max ≤ range.min then
    .error (fieldError (key ++ ".Max") "Max" "gtfield")
  else
    .ok ()

/-- `validate:"gte=0,lte=1000000"`, the bounds of every size and cap. -/
def validateSize (key field : String) (n : ℤ) : Except String Unit :=
  if n < 0 then
    .error (fieldError (key ++ "." ++ field) field "gte")
  else if 1000000 < n then
    .error (fieldError (key ++ "." ++ field) field "lte")
  else
    .ok ()

/-- The singular `scaleset` block, which holds a copy of the entry when there is exactly one. -/
def validateScaleSet : List ScaleSetEntry → Except String Unit
  | [entry] => validateSize "Config.ScaleSet" "MaxConcurrentRunners" entry.maxConcurrentRunners
  | _ => .ok ()

def validatePool (pool : PoolConfig) : Except String Unit := do
  validateSize "Config.Pool" "HotSize" pool.hotSize
  validateSize "Config.Pool" "WarmSize" pool.warmSize
  validateSize "Config.Pool" "GlobalMax" pool.globalMax
  if pool.bootMaxAttempts < 1 then
    .error (fieldError "Config.Pool.BootMaxAttempts" "BootMaxAttempts" "gte")

/-- The struct tags of the modelled fields; the first field that fails is reported. -/
def validateStruct (cfg : Config) : Except String Unit := do
  validateScaleSet cfg.scalesets
  if cfg.proxmox.templateVMID = 0 then
    .error (fieldError "Config.Proxmox.TemplateVMID" "TemplateVMID" "required")
  validateRange "Config.Proxmox.VMIDRange" cfg.proxmox.vmidRange
  validatePool cfg.pool

/-! ## Sizing -/

def validateSizing (cfg : Config) : Except String Unit :=
  let total := cfg.pool.hotSize + cfg.pool.warmSize
  match cfg.scalesets with
  | [entry] =>
    if 0 < entry.maxConcurrentRunners ∧ entry.maxConcurrentRunners < total then
      .error s!"pool.hot_size+pool.warm_size ({total}) must not exceed scaleset.max_concurrent_runners ({entry.maxConcurrentRunners})"
    else
      templateOutside cfg.proxmox
  | _ => templateOutside cfg.proxmox
where
  templateOutside (proxmox : ProxmoxConfig) : Except String Unit :=
    if proxmox.vmidRange.contains proxmox.templateVMID then
      .error s!"proxmox.template_vmid ({proxmox.templateVMID}) must be outside vmid_range [{proxmox.vmidRange.min}, {proxmox.vmidRange.max}]"
    else
      .ok ()

/-! ## Scale sets -/

/-- What `validateScalesets` has seen so far, each with the index it was seen at. -/
structure Seen where
  names : List (String × ℕ) := []
  ownerTags : List (String × ℕ) := []
  scopes : List (String × ℕ) := []

def scopeKey (scope : Scope) : String := "org:" ++ scope.org ++ "|repo:" ++ scope.repo

/-- The name of the entry at an index, for messages. -/
def nameAt (cfg : Config) (i : ℕ) : String := ((cfg.scalesets[i]?).map (·.name)).getD ""

def checkScope (i : ℕ) (entry : ScaleSetEntry) : Except String Unit :=
  if entry.scope.org ≠ "" ∧ entry.scope.repo ≠ "" then
    .error s!"{entryPath i entry}.scope: exactly one of org or repo must be set (both are present)"
  else if entry.scope.org = "" ∧ entry.scope.repo = "" then
    .error s!"{entryPath i entry}.scope: exactly one of org or repo must be set (both are empty)"
  else
    .ok ()

def checkCap (cfg : Config) (i : ℕ) (entry : ScaleSetEntry) : Except String Unit :=
  let total := cfg.pool.hotSize + cfg.pool.warmSize
  if entry.maxConcurrentRunners ≤ 0 ∧ !cfg.pool.capacityEnabled then
    .error s!"{entryPath i entry}: max_concurrent_runners is required and must be > 0 (omit it only when pool.capacity.enabled)"
  else if 0 < entry.maxConcurrentRunners ∧ entry.maxConcurrentRunners < total then
    .error s!"{entryPath i entry}: pool.hot_size+pool.warm_size ({total}) must not exceed max_concurrent_runners ({entry.maxConcurrentRunners})"
  else
    .ok ()

/-- One iteration of the loop over the entries. -/
def checkEntry (cfg : Config) (i : ℕ) (entry : ScaleSetEntry) (seen : Seen) : Except String Seen :=
  match seen.names.lookup entry.name with
  | some prev =>
    .error s!"scalesets: duplicate name {quote entry.name} at indexes {prev} and {i}"
  | none =>
    match Tags.ownerTag entry.name with
    | none =>
      .error s!"{entryPath i entry}: tags: scale set name {quote entry.name} must match ^[a-zA-Z0-9][a-zA-Z0-9_.-]\x7b0,62\x7d$"
    | some ownerTag =>
      match seen.ownerTags.lookup ownerTag with
      | some prev =>
        .error s!"scalesets: {quote (nameAt cfg prev)} and {quote entry.name} sanitize to the same owner tag {quote ownerTag} — distinct names that differ only in case or punctuation collide and would let the scale sets claim each other's VMs; rename one"
      | none =>
        match checkScope i entry with
        | .error message => .error message
        | .ok () =>
          match seen.scopes.lookup (scopeKey entry.scope) with
          | some prev =>
            .error s!"scalesets: {quote (nameAt cfg prev)} and {quote entry.name} share the same scope (org={quote entry.scope.org} repo={quote entry.scope.repo}) — two scale sets cannot register against the same GitHub target"
          | none =>
            (checkCap cfg i entry).map fun _ ↦
              { names := (entry.name, i) :: seen.names
                ownerTags := (ownerTag, i) :: seen.ownerTags
                scopes := (scopeKey entry.scope, i) :: seen.scopes }

def checkEntries (cfg : Config) : ℕ → List ScaleSetEntry → Seen → Except String Unit
  | _, [], _ => .ok ()
  | i, entry :: rest, seen =>
    match checkEntry cfg i entry seen with
    | .error message => .error message
    | .ok seen => checkEntries cfg (i + 1) rest seen

/-- An entry's own range is present where needed and well formed. -/
def checkRange (cfg : Config) (i : ℕ) (entry : ScaleSetEntry) : Except String Unit :=
  match entry.vmidRange with
  | none =>
    if 1 < cfg.scalesets.length then
      .error s!"{entryPath i entry}: vmid_range is required with multi-scaleset ({cfg.scalesets.length} scalesets declared) — every scaleset's pool.Manager runs an independent VMID allocator, so inheriting one shared cfg.proxmox.vmid_range across all of them produces clone collisions on Proxmox (issue #222)"
    else
      .ok ()
  | some range =>
    if range.min = 0 then
      .error s!"{entryPath i entry}.vmid_range: min must be > 0 (got {range.min})"
    else if range.max ≤ range.min then
      .error s!"{entryPath i entry}.vmid_range: max ({range.max}) must be greater than min ({range.min})"
    else
      .ok ()

def checkRanges (cfg : Config) : ℕ → List ScaleSetEntry → Except String Unit
  | _, [] => .ok ()
  | i, entry :: rest =>
    match checkRange cfg i entry with
    | .error message => .error message
    | .ok () => checkRanges cfg (i + 1) rest

def declaredRanges (entries : List ScaleSetEntry) : List (String × VMIDRange) :=
  entries.filterMap fun entry ↦ entry.vmidRange.map fun range ↦ (entry.name, range)

def firstOverlap (a : VMIDRange) (later : List (String × VMIDRange)) : Option (String × VMIDRange) :=
  later.find? fun b ↦ !(a.max < b.2.min ∨ b.2.max < a.min)

def checkOverlaps : List (String × VMIDRange) → Except String Unit
  | [] => .ok ()
  | (name, a) :: later =>
    match firstOverlap a later with
    | some (other, b) =>
      .error s!"scalesets: {quote name} vmid_range [{a.min}, {a.max}] overlaps {quote other} [{b.min}, {b.max}] — overlapping ranges race on Proxmox clone (issue #222); declare disjoint ranges"
    | none => checkOverlaps later

def validateScalesetVMIDRanges (cfg : Config) : Except String Unit :=
  match checkRanges cfg 0 cfg.scalesets with
  | .error message => .error message
  | .ok () => checkOverlaps (declaredRanges cfg.scalesets)

def validateScalesets (cfg : Config) : Except String Unit :=
  if cfg.scalesets = [] then
    .error "scalesets: at least one scale set must be declared (or use the legacy singular `scaleset:` form)"
  else
    match checkEntries cfg 0 cfg.scalesets {} with
    | .error message => .error message
    | .ok () => validateScalesetVMIDRanges cfg

/-- The modelled part of `Validate`, in its order. -/
def validate (cfg : Config) : Except String Unit := do
  validateStruct cfg
  validateSizing cfg
  validateScalesets cfg

/-! ## What acceptance means -/

theorem map_eq_ok {α β : Type} {f : α → β} {result : Except String α} {b : β} :
    result.map f = .ok b ↔ ∃ a, result = .ok a ∧ f a = b := by
  cases result with
  | error message => simp [Except.map]
  | ok a => simp [Except.map]

variable {cfg : Config} {entry : ScaleSetEntry} {seen : Seen}

/-- Entries the loop lets pass have a cap that passes and owner tags, none of them seen before. -/
theorem checkEntry_eq_ok {seen' : Seen} (h : checkEntry cfg i entry seen = .ok seen') :
    checkCap cfg i entry = .ok () ∧ ∃ owner, Tags.ownerTag entry.name = some owner ∧
      seen.ownerTags.lookup owner = none ∧ seen'.ownerTags = (owner, i) :: seen.ownerTags := by
  unfold checkEntry at h
  split at h
  · cases h
  split at h
  · cases h
  next owner howner =>
  split at h
  · cases h
  next hnew =>
  split at h
  · cases h
  split at h
  · cases h
  obtain ⟨_, hcap, rfl⟩ := map_eq_ok.mp h
  exact ⟨hcap, owner, howner, hnew, rfl⟩

variable {entries : List ScaleSetEntry}

theorem ownerTag_of_checkEntries (h : checkEntries cfg i entries seen = .ok ()) :
    (∀ entry ∈ entries, ∃ owner, Tags.ownerTag entry.name = some owner ∧
      seen.ownerTags.lookup owner = none) ∧
    entries.Pairwise fun a b ↦ Tags.ownerTag a.name ≠ Tags.ownerTag b.name := by
  induction entries generalizing i seen with
  | nil => simp
  | cons entry rest ih =>
    unfold checkEntries at h
    split at h
    · cases h
    next seen' hentry =>
    obtain ⟨_, owner, howner, hnew, hseen⟩ := checkEntry_eq_ok hentry
    obtain ⟨hrest, hpairs⟩ := ih h
    -- a later owner tag is not found in the list that already holds this entry's
    have hlater : ∀ other ∈ rest, ∃ tag, Tags.ownerTag other.name = some tag ∧ tag ≠ owner ∧
        seen.ownerTags.lookup tag = none := by
      intro other hother
      obtain ⟨tag, htag, hlookup⟩ := hrest other hother
      rw [hseen, List.lookup_cons] at hlookup
      split at hlookup
      · cases hlookup
      next hne => exact ⟨tag, htag, by simpa using hne, hlookup⟩
    constructor
    · intro other hother
      rcases List.mem_cons.mp hother with rfl | hother
      · exact ⟨owner, howner, hnew⟩
      · obtain ⟨tag, htag, _, hlookup⟩ := hlater other hother
        exact ⟨tag, htag, hlookup⟩
    · refine List.pairwise_cons.mpr ⟨fun other hother heq ↦ ?_, hpairs⟩
      obtain ⟨tag, htag, hne, _⟩ := hlater other hother
      rw [howner, htag, Option.some.injEq] at heq
      exact hne heq.symm

/-- A check followed by others passes when all of them do. -/
theorem andThen_eq_ok {α : Type} {check : Except String Unit} {rest : Except String α} {a : α} :
    (do check; rest) = .ok a ↔ check = .ok () ∧ rest = .ok a := by
  cases check with
  | error message => simp [bind, Except.bind]
  | ok _ => simp [bind, Except.bind]

/-- An error that stops on a condition lets pass when the condition does not hold. -/
theorem stopIf_eq_ok {α : Type} {c : Prop} [Decidable c] {message : String} {rest : Except String α}
    {a : α} : (if c then (do (.error message : Except String Unit); rest) else rest) = .ok a ↔
      ¬c ∧ rest = .ok a := by
  split_ifs with hc
  · simp [hc, bind, Except.bind]
  · simp [hc]

theorem validate_eq_ok : validate cfg = .ok () ↔
      validateStruct cfg = .ok () ∧ validateSizing cfg = .ok () ∧ validateScalesets cfg = .ok () := by
  simp only [validate, andThen_eq_ok]

theorem checkEntries_of_validate (h : validate cfg = .ok ()) :
    checkEntries cfg 0 cfg.scalesets {} = .ok () := by
  obtain ⟨_, _, hscalesets⟩ := validate_eq_ok.mp h
  unfold validateScalesets at hscalesets
  split at hscalesets
  · cases hscalesets
  · split at hscalesets
    · cases hscalesets
    next hentries => exact hentries

/-- Two entries of an accepted configuration have different owner tags. -/
theorem ownerTag_ne_of_validate (h : validate cfg = .ok ()) {j : ℕ} {a b : ScaleSetEntry}
    (ha : cfg.scalesets[i]? = some a) (hb : cfg.scalesets[j]? = some b) (hij : i ≠ j) :
    Tags.ownerTag a.name ≠ Tags.ownerTag b.name := by
  have hpairs := (ownerTag_of_checkEntries (checkEntries_of_validate h)).2
  obtain ⟨hi, rfl⟩ := List.getElem?_eq_some_iff.mp ha
  obtain ⟨hj, rfl⟩ := List.getElem?_eq_some_iff.mp hb
  rw [List.pairwise_iff_getElem] at hpairs
  rcases Nat.lt_or_gt_of_ne hij with hlt | hgt
  · exact hpairs i j hi hj hlt
  · exact (hpairs j i hj hi hgt).symm

theorem ownerTag_isSome_of_validate (h : validate cfg = .ok ()) (hentry : cfg.scalesets[i]? = some entry) :
    ∃ owner, Tags.ownerTag entry.name = some owner := by
  obtain ⟨owner, howner, _⟩ :=
    (ownerTag_of_checkEntries (checkEntries_of_validate h)).1 entry (List.mem_of_getElem? hentry)
  exact ⟨owner, howner⟩

theorem validateSize_eq_ok {key field : String} {n : ℤ} :
    validateSize key field n = .ok () ↔ 0 ≤ n ∧ n ≤ 1000000 := by
  unfold validateSize
  split_ifs
  · simp only [false_iff]
    omega
  · simp only [false_iff]
    omega
  · simp only [true_iff]
    omega

theorem poolSizes_of_validate (h : validate cfg = .ok ()) :
    (0 ≤ cfg.pool.hotSize ∧ cfg.pool.hotSize ≤ 1000000) ∧
      (0 ≤ cfg.pool.warmSize ∧ cfg.pool.warmSize ≤ 1000000) := by
  obtain ⟨hstruct, _⟩ := validate_eq_ok.mp h
  simp only [validateStruct, validatePool, andThen_eq_ok, stopIf_eq_ok, validateSize_eq_ok] at hstruct
  exact ⟨hstruct.2.2.2.1, hstruct.2.2.2.2.1⟩

theorem checkCap_of_checkEntries (h : checkEntries cfg i entries seen = .ok ()) (hentry : entry ∈ entries) :
    ∃ j, checkCap cfg j entry = .ok () := by
  induction entries generalizing i seen with
  | nil => cases hentry
  | cons first rest ih =>
    unfold checkEntries at h
    split at h
    · cases h
    next seen' hfirst =>
    rcases List.mem_cons.mp hentry with rfl | hrest
    · exact ⟨i, (checkEntry_eq_ok hfirst).1⟩
    · exact ih h hrest

/-- The pool's own sizes fit under the cap of every scale set that has one. -/
theorem poolSizes_le_cap_of_validate (h : validate cfg = .ok ()) (hentry : entry ∈ cfg.scalesets) :
    entry.maxConcurrentRunners ≤ 0 ∨ cfg.pool.hotSize + cfg.pool.warmSize ≤ entry.maxConcurrentRunners := by
  obtain ⟨i, hcap⟩ := checkCap_of_checkEntries (checkEntries_of_validate h) hentry
  unfold checkCap at hcap
  dsimp only at hcap
  split_ifs at hcap
  omega

end ScalesetProxmox.Configuration
