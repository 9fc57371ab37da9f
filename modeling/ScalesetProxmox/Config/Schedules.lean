import ScalesetProxmox.Config.Profiles
import ScalesetProxmox.Schedule.Runner

/-!
# Resolving the schedules of a configuration

`Resolve` parses every schedule's expression and time zone and leaves the results in the configuration, for
the runners to take. It goes through `c.Profiles`, the profile list of the singular form, which
`resolveProfiles` has just set to a copy of the first scale set's list. The copies share the slices of
schedules with the originals, so that the first scale set's schedules are resolved in place. The schedules
of the other scale sets are not reached: they stay as they were read.
-/

namespace ScalesetProxmox.Configuration

open Text (quote)

/-- What the texts of a schedule are read with: the cron parser, the time zone database, and the expression
with a time zone bound to it. -/
structure Calendar (Spec Location : Type) where
  parse : String → Except String Spec
  loadLocation : String → Except String Location
  utc : Location
  inLocation : Spec → Location → Schedule.Cron

variable {Spec Location : Type}

/-- A schedule of the loaded configuration: the block of the file, and what `Resolve` has filled in. -/
structure LoadedSchedule (Location : Type) where
  config : ScheduleConfig
  location : Option Location := none
  cronSchedule : Option Schedule.Cron := none

structure LoadedProfile (Location : Type) where
  config : ProfileConfig
  schedules : List (LoadedSchedule Location)

structure LoadedEntry (Location : Type) where
  entry : ScaleSetEntry
  profiles : List (LoadedProfile Location)

/-- A profile as it was read, nothing resolved. -/
def LoadedProfile.read (p : ProfileConfig) : LoadedProfile Location where
  config := p
  schedules := p.schedules.map fun s ↦ { config := s }

def LoadedEntry.read (entry : ScaleSetEntry) : LoadedEntry Location where
  entry := entry
  profiles := entry.profiles.map LoadedProfile.read

/-! ## Resolve -/

/-- An empty time zone is UTC. -/
def Calendar.locate (calendar : Calendar Spec Location) (timezone : String) : Except String Location :=
  if timezone = "" then .ok calendar.utc else calendar.loadLocation timezone

/-- One schedule; `path` is the start of messages about it. -/
def resolveSchedule (calendar : Calendar Spec Location) (path : String) (s : ScheduleConfig) :
    Except String (LoadedSchedule Location) :=
  if s.duration.D ≤ 0 then
    .error s!"{path}.duration must be positive"
  else
    match calendar.locate s.timezone with
    | .error message => .error s!"{path}.timezone: {message}"
    | .ok location =>
      match calendar.parse s.cron with
      | .error message => .error s!"{path}.cron: {message}"
      | .ok spec =>
        .ok { config := s, location := some location
              cronSchedule := some (calendar.inLocation spec location) }

def resolveSchedules (calendar : Calendar Spec Location) (path : String) :
    ℕ → List ScheduleConfig → List (String × ℕ) → Except String (List (LoadedSchedule Location))
  | _, [], _ => .ok []
  | i, s :: rest, seen =>
    match seen.lookup s.name with
    | some prev =>
      .error s!"{path}.schedules: duplicate name {quote s.name} at indexes {prev} and {i}"
    | none =>
      match resolveSchedule calendar s!"{path}.schedules[{i}] {quote s.name}" s with
      | .error message => .error message
      | .ok loaded =>
        (resolveSchedules calendar path (i + 1) rest ((s.name, i) :: seen)).map (loaded :: ·)

/-- The loop over `c.Profiles`. -/
def resolveProfileSchedules (calendar : Calendar Spec Location) :
    ℕ → List ProfileConfig → Except String (List (LoadedProfile Location))
  | _, [] => .ok []
  | i, p :: rest =>
    match resolveSchedules calendar s!"profiles[{i}] {quote p.name}" 0 p.schedules [] with
    | .error message => .error message
    | .ok schedules =>
      (resolveProfileSchedules calendar (i + 1) rest).map ({ config := p, schedules := schedules } :: ·)

def checkAges (si : ℕ) (entry : ScaleSetEntry) : ℕ → List ProfileConfig → Except String Unit
  | _, [] => .ok ()
  | i, p :: rest =>
    if p.vmMaxAge.isSome ∧ p.vmMaxAge.D ≤ 0 then
      .error s!"{profilePath si entry i p}: vm_max_age must be positive"
    else
      checkAges si entry (i + 1) rest

def checkAgeLists : ℕ → List ScaleSetEntry → Except String Unit
  | _, [] => .ok ()
  | si, entry :: rest =>
    match checkAges si entry 0 entry.profiles with
    | .error message => .error message
    | .ok () => checkAgeLists (si + 1) rest

/-- The ages of all profiles are checked, the schedules of the first scale set are resolved. Without a scale
set `c.Profiles` is still the list of the file, `singular`. -/
def resolveProfiles (calendar : Calendar Spec Location) (singular : List ProfileConfig)
    (scalesets : List ScaleSetEntry) : Except String (List (LoadedEntry Location)) :=
  match checkAgeLists 0 scalesets with
  | .error message => .error message
  | .ok () =>
    match scalesets with
    | [] => (resolveProfileSchedules calendar 0 singular).map fun _ ↦ []
    | first :: rest =>
      (resolveProfileSchedules calendar 0 first.profiles).map fun profiles ↦
        { entry := first, profiles := profiles } :: rest.map LoadedEntry.read

/-- A loaded configuration with its schedules. -/
structure Loaded (Location : Type) where
  config : Config
  scalesets : List (LoadedEntry Location)

/-- The path of `load` with the part of `Resolve` that reads the modelled fields, which comes before
`Validate`. -/
def loadResolved (calendar : Calendar Spec Location) (raw : RawConfig) : Except String (Loaded Location) :=
  if raw.scalesets ≠ [] ∧ raw.mixed ≠ [] then
    .error s!"config: scalesets: declared alongside legacy {printNames raw.mixed} — remove the legacy fields or remove scalesets: (mixing is ambiguous)"
  else
    let cfg := normalizeScalesets raw
    match resolveProfiles calendar raw.profiles cfg.scalesets with
    | .error message => .error s!"config: resolve: {message}"
    | .ok scalesets =>
      match validateAll cfg with
      | .error message => .error s!"config: validate: {message}"
      | .ok () => .ok { config := cfg, scalesets := scalesets }

/-! ## What resolution leaves -/

variable {calendar : Calendar Spec Location} {path : String}

/-- The duration is positive, the time zone is known and the expression parses. -/
structure ScheduleConfig.Valid (calendar : Calendar Spec Location) (s : ScheduleConfig) : Prop where
  duration_pos : 0 < s.duration.D
  timezone : ∃ location, calendar.locate s.timezone = .ok location
  cron : ∃ spec, calendar.parse s.cron = .ok spec

/-- Everything that a runner needs of the schedule is there. -/
structure LoadedSchedule.Runnable (s : LoadedSchedule Location) : Prop where
  cronSchedule : s.cronSchedule.isSome = true
  duration_pos : 0 < s.config.duration.D
  location : s.location.isSome = true

def FirstOnly (scalesets : List ScaleSetEntry) : Prop :=
  ∀ entry ∈ scalesets.tail, ∀ p ∈ entry.profiles, p.schedules = []

theorem resolveSchedule_eq_ok {s : ScheduleConfig} {loaded : LoadedSchedule Location}
    (h : resolveSchedule calendar path s = .ok loaded) :
    s.Valid calendar ∧ loaded.Runnable ∧ loaded.config = s := by
  unfold resolveSchedule at h
  split_ifs at h with hduration
  have hpos : 0 < s.duration.D := not_le.mp hduration
  split at h
  · cases h
  next location hlocation =>
    split at h
    · cases h
    next spec hspec =>
      cases h
      exact ⟨⟨hpos, ⟨location, hlocation⟩, ⟨spec, hspec⟩⟩, ⟨rfl, hpos, rfl⟩, rfl⟩

theorem resolveSchedules_eq_ok {i : ℕ} {schedules : List ScheduleConfig} {seen : List (String × ℕ)}
    {loaded : List (LoadedSchedule Location)}
    (h : resolveSchedules calendar path i schedules seen = .ok loaded) :
    (∀ s ∈ schedules, s.Valid calendar) ∧ (∀ s ∈ loaded, s.Runnable) ∧
      loaded.map LoadedSchedule.config = schedules := by
  induction schedules generalizing i seen loaded with
  | nil =>
    cases h
    simp
  | cons s rest ih =>
    unfold resolveSchedules at h
    split at h
    · cases h
    split at h
    · cases h
    next first hfirst =>
      obtain ⟨others, hrest, rfl⟩ := map_eq_ok.mp h
      obtain ⟨hvalid, hrunnable, hconfig⟩ := resolveSchedule_eq_ok hfirst
      obtain ⟨hvalids, hrunnables, hconfigs⟩ := ih hrest
      simp only [List.forall_mem_cons, List.map_cons, hconfig, hconfigs, and_true]
      exact ⟨⟨hvalid, hvalids⟩, hrunnable, hrunnables⟩

theorem resolveProfileSchedules_eq_ok {i : ℕ} {profiles : List ProfileConfig}
    {loaded : List (LoadedProfile Location)}
    (h : resolveProfileSchedules calendar i profiles = .ok loaded) :
    (∀ p ∈ profiles, ∀ s ∈ p.schedules, s.Valid calendar) ∧ (∀ p ∈ loaded, ∀ s ∈ p.schedules, s.Runnable) ∧
      loaded.map LoadedProfile.config = profiles := by
  induction profiles generalizing i loaded with
  | nil =>
    cases h
    simp
  | cons p rest ih =>
    unfold resolveProfileSchedules at h
    split at h
    · cases h
    next schedules hschedules =>
      obtain ⟨others, hrest, rfl⟩ := map_eq_ok.mp h
      obtain ⟨hvalid, hrunnable, _⟩ := resolveSchedules_eq_ok hschedules
      obtain ⟨hvalids, hrunnables, hconfigs⟩ := ih hrest
      simp only [List.forall_mem_cons, List.map_cons, hconfigs, and_true]
      exact ⟨⟨hvalid, hvalids⟩, hrunnable, hrunnables⟩

theorem resolveProfiles_eq_ok {singular : List ProfileConfig} {scalesets : List ScaleSetEntry}
    {loaded : List (LoadedEntry Location)} (h : resolveProfiles calendar singular scalesets = .ok loaded) :
    (scalesets = [] ∧ loaded = []) ∨ ∃ first rest profiles, scalesets = first :: rest ∧
      resolveProfileSchedules calendar 0 first.profiles = .ok profiles ∧
      loaded = { entry := first, profiles := profiles } :: rest.map LoadedEntry.read := by
  unfold resolveProfiles at h
  split at h
  · cases h
  split at h
  · obtain ⟨_, _, rfl⟩ := map_eq_ok.mp h
    exact .inl ⟨rfl, rfl⟩
  next first rest _ =>
    obtain ⟨profiles, hprofiles, rfl⟩ := map_eq_ok.mp h
    exact .inr ⟨first, rest, profiles, rfl, hprofiles, rfl⟩

theorem loadResolved_eq_ok {raw : RawConfig} {loaded : Loaded Location}
    (h : loadResolved calendar raw = .ok loaded) :
    loaded.config = normalizeScalesets raw ∧ validateProfiles loaded.config = .ok () ∧
      resolveProfiles calendar raw.profiles loaded.config.scalesets = .ok loaded.scalesets := by
  unfold loadResolved at h
  split_ifs at h
  dsimp only at h
  split at h
  · cases h
  next scalesets hresolve =>
    split at h
    · cases h
    next hvalid =>
      cases h
      simp only [validateAll, andThen_eq_ok] at hvalid
      exact ⟨rfl, hvalid.2.1, hresolve⟩

end ScalesetProxmox.Configuration
