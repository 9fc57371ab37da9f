import ScalesetProxmox.Config.Schedules

/-!
# The schedule runners of the scale sets

`scheduleRunnerForScaleset` collects the schedules of a scale set for `schedule.NewRunner`, which refuses an
entry without a profile, without a parsed expression or without a duration. An accepted configuration gives
it all of that for the first scale set only: every schedule of an accepted configuration can be run if and
only if the other scale sets have none (`schedules_runnable_iff`).
-/

namespace ScalesetProxmox.App

open Store (Time minute)
open ScalesetProxmox.Configuration
open Text (quote)

variable {Spec Location : Type} {calendar : Calendar Spec Location} {entry : LoadedEntry Location}
  {raw : RawConfig}

/-- An entry as it is handed to `NewRunner`. The location has been bound to the expression when that was
parsed; `NewRunner` only reports it. -/
structure RunnerEntry (Location : Type) where
  name : String
  profile : String
  spec : String
  cron : Option Schedule.Cron
  duration : Time
  location : Option Location
  hotSize : ℤ
  warmSize : ℤ
  baselineHot : ℤ
  baselineWarm : ℤ

/-- `schedule: entries[i] "name"`, the start of messages about one entry. -/
def runnerPath (i : ℕ) (e : RunnerEntry Location) : String := s!"schedule: entries[{i}] {quote e.name}"

def newEntry (i : ℕ) (e : RunnerEntry Location) : Except String Schedule.Entry :=
  if hprofile : e.profile = "" then
    .error s!"{runnerPath i e}: profile is required"
  else
    match e.cron with
    | none => .error s!"{runnerPath i e}: cron is required"
    | some cron =>
      if hduration : e.duration ≤ 0 then
        .error s!"{runnerPath i e}: duration must be > 0"
      else
        .ok
          { name := e.name
            profile := e.profile
            cron := cron
            duration := e.duration
            hotSize := e.hotSize
            warmSize := e.warmSize
            baselineHot := e.baselineHot
            baselineWarm := e.baselineWarm
            profile_ne := hprofile
            duration_pos := not_le.mp hduration }

/-- The entries that a runner is built with. -/
def newRunner : ℕ → List (RunnerEntry Location) → Except String (List Schedule.Entry)
  | _, [] => .ok []
  | i, e :: rest =>
    match newEntry i e with
    | .error message => .error message
    | .ok entry => (newRunner (i + 1) rest).map (entry :: ·)

/-- The schedules of one profile, with the sizes to go back to. -/
def runnerEntries (pool : PoolConfig) (p : LoadedProfile Location) : List (RunnerEntry Location) :=
  p.schedules.map fun s ↦
    { name := s.config.name
      profile := p.config.name
      spec := s.config.cron
      cron := s.cronSchedule
      duration := s.config.duration.D
      location := s.location
      hotSize := s.config.hotSize
      warmSize := s.config.warmSize
      baselineHot := p.config.hotSize.getD pool.hotSize
      baselineWarm := p.config.warmSize.getD pool.warmSize }

/-- No runner without schedules. -/
def scheduleRunnerForScaleset (entry : LoadedEntry Location) (pool : PoolConfig) :
    Except String (Option (List Schedule.Entry)) :=
  match entry.profiles.flatMap (runnerEntries pool) with
  | [] => .ok none
  | e :: rest => (newRunner 0 (e :: rest)).map some

/-! ## Which entries are refused -/

theorem newEntry_isOk_iff {i : ℕ} {e : RunnerEntry Location} :
    (∃ entry, newEntry i e = .ok entry) ↔ e.profile ≠ "" ∧ e.cron.isSome ∧ 0 < e.duration := by
  unfold newEntry
  by_cases hprofile : e.profile = ""
  · simp [hprofile]
  · cases e.cron with
    | none => simp [hprofile]
    | some cron =>
      by_cases hduration : e.duration ≤ 0
      · simp [hprofile, hduration]
      · simp [hprofile, hduration, not_le.mp hduration]

theorem newRunner_isOk_iff {i : ℕ} {entries : List (RunnerEntry Location)} :
    (∃ runner, newRunner i entries = .ok runner) ↔
      ∀ e ∈ entries, e.profile ≠ "" ∧ e.cron.isSome ∧ 0 < e.duration := by
  induction entries generalizing i with
  | nil => simp [newRunner]
  | cons e rest ih =>
    rw [List.forall_mem_cons, ← @newEntry_isOk_iff _ i e, ← @ih (i + 1), newRunner]
    cases newEntry i e with
    | error message => simp
    | ok entry => cases newRunner (i + 1) rest <;> simp [Except.map]

/-- A scale set with named profiles and runnable schedules gets its runner. -/
theorem exists_runner (pool : PoolConfig) (hname : ∀ p ∈ entry.profiles, p.config.name ≠ "")
    (hrunnable : ∀ p ∈ entry.profiles, ∀ s ∈ p.schedules, s.Runnable)
    (hsome : ∃ p ∈ entry.profiles, p.schedules ≠ []) :
    ∃ runner, scheduleRunnerForScaleset entry pool = .ok (some runner) := by
  have haccepted : ∀ e ∈ entry.profiles.flatMap (runnerEntries pool),
      e.profile ≠ "" ∧ e.cron.isSome = true ∧ 0 < e.duration := by
    intro e he
    obtain ⟨p, hp, he⟩ := List.mem_flatMap.mp he
    obtain ⟨s, hs, rfl⟩ := List.mem_map.mp he
    have hrun := hrunnable p hp s hs
    exact ⟨hname p hp, hrun.cronSchedule, hrun.duration_pos⟩
  obtain ⟨runner, hrunner⟩ := (newRunner_isOk_iff (i := 0)).mpr haccepted
  unfold scheduleRunnerForScaleset
  split
  next hnil =>
    obtain ⟨p, hp, hschedules⟩ := hsome
    have hmapped : runnerEntries pool p = [] := List.flatMap_eq_nil_iff.mp hnil p hp
    exact absurd (List.map_eq_nil_iff.mp hmapped) hschedules
  next e rest hcons =>
    rw [hcons] at hrunner
    exact ⟨runner, by rw [hrunner, Except.map]⟩

/-! ## Scale sets after the first -/

/-- A schedule that was only read cannot be run. -/
theorem schedules_nil_of_runnable {p : ProfileConfig}
    (h : ∀ s ∈ (LoadedProfile.read p : LoadedProfile Location).schedules, s.Runnable) :
    p.schedules = [] := by
  cases hschedules : p.schedules with
  | nil => rfl
  | cons s rest =>
    have hmem : ({ config := s } : LoadedSchedule Location) ∈
        (LoadedProfile.read p : LoadedProfile Location).schedules := by
      simp [LoadedProfile.read, hschedules]
    simpa using (h _ hmem).cronSchedule

theorem schedules_read_of_firstOnly {first : ScaleSetEntry} {rest : List ScaleSetEntry}
    (h : FirstOnly (first :: rest)) (hentry : entry ∈ rest.map LoadedEntry.read)
    {p : LoadedProfile Location} (hp : p ∈ entry.profiles) : p.schedules = [] := by
  obtain ⟨declared, hdeclared, rfl⟩ := List.mem_map.mp hentry
  obtain ⟨profile, hprofile, rfl⟩ := List.mem_map.mp hp
  exact List.map_eq_nil_iff.mpr (h declared hdeclared profile hprofile)

theorem runnable_iff_firstOnly {loaded : Loaded Location} (hload : loadResolved calendar raw = .ok loaded) :
    (∀ entry ∈ loaded.scalesets,
      (∀ p ∈ entry.profiles, ∀ s ∈ p.schedules, s.Runnable) ∧
      ((∃ p ∈ entry.profiles, p.schedules ≠ []) →
        ∃ runner, scheduleRunnerForScaleset entry loaded.config.pool = .ok (some runner))) ↔
    FirstOnly loaded.config.scalesets := by
  obtain ⟨hconfig, hvalid, hresolve⟩ := loadResolved_eq_ok hload
  rcases resolveProfiles_eq_ok hresolve with ⟨hnone, hloaded⟩ | ⟨first, rest, profiles, hsome, hfirst, hloaded⟩
  · simp [hnone, hloaded, FirstOnly]
  obtain ⟨_, hrunnable, hprofiles⟩ := resolveProfileSchedules_eq_ok hfirst
  have hname : ∀ p ∈ profiles, p.config.name ≠ "" := by
    intro p hp
    have hmem : first ∈ loaded.config.scalesets := hsome ▸ List.mem_cons_self
    exact ((profiles_of_validateProfiles hvalid hmem).2 p.config (hprofiles ▸ List.mem_map_of_mem hp)).1
  rw [hsome, hloaded]
  constructor
  · intro hall entry hentry p hp
    have hentry' := hall _ (List.mem_cons_of_mem _ (List.mem_map_of_mem hentry))
    exact schedules_nil_of_runnable (hentry'.1 _ (List.mem_map_of_mem hp))
  · intro honly entry hentry
    rcases List.mem_cons.mp hentry with rfl | hentry
    · exact ⟨hrunnable, exists_runner _ hname hrunnable⟩
    · have hread (p) (hp : p ∈ entry.profiles) := schedules_read_of_firstOnly honly hentry hp
      refine ⟨fun p hp s hs ↦ ?_, fun ⟨p, hp, hschedules⟩ ↦ absurd (hread p hp) hschedules⟩
      simp [hread p hp] at hs

theorem valid_of_firstOnly {loaded : Loaded Location} (hload : loadResolved calendar raw = .ok loaded)
    (honly : FirstOnly (normalizeScalesets raw).scalesets) :
    ∀ entry ∈ (normalizeScalesets raw).scalesets, ∀ p ∈ entry.profiles, ∀ s ∈ p.schedules,
      s.Valid calendar := by
  intro entry hentry p hp s hs
  obtain ⟨hconfig, _, hresolve⟩ := loadResolved_eq_ok hload
  rw [← hconfig] at hentry honly
  rcases resolveProfiles_eq_ok hresolve with ⟨hnone, _⟩ | ⟨first, rest, profiles, hsome, hfirst, _⟩
  · simp [hnone] at hentry
  rw [hsome] at hentry honly
  rcases List.mem_cons.mp hentry with rfl | hentry
  · exact (resolveProfileSchedules_eq_ok hfirst).1 p hp s hs
  · simp [honly entry hentry p hp] at hs

/-- The schedules of a loaded configuration are resolved and the scale sets that have some get their
runners, if and only if the schedules are all in the first scale set. There a schedule that is not valid
stops the loading. -/
theorem schedules_runnable_iff (calendar : Calendar Spec Location) (raw : RawConfig) :
    (∀ loaded, loadResolved calendar raw = .ok loaded →
      ((∀ entry ∈ loaded.scalesets,
          (∀ p ∈ entry.profiles, ∀ s ∈ p.schedules, s.Runnable) ∧
          ((∃ p ∈ entry.profiles, p.schedules ≠ []) →
            ∃ runner, scheduleRunnerForScaleset entry loaded.config.pool = .ok (some runner))) ↔
        FirstOnly loaded.config.scalesets)) ∧
    (FirstOnly (normalizeScalesets raw).scalesets →
      (∃ entry ∈ (normalizeScalesets raw).scalesets, ∃ p ∈ entry.profiles, ∃ s ∈ p.schedules,
        ¬ s.Valid calendar) →
      ∃ message, loadResolved calendar raw = .error message) := by
  constructor
  · intro loaded hload
    exact runnable_iff_firstOnly hload
  · rintro honly ⟨entry, hentry, p, hp, s, hs, hinvalid⟩
    cases hload : loadResolved calendar raw with
    | error message => exact ⟨message, rfl⟩
    | ok loaded => exact absurd (valid_of_firstOnly hload honly entry hentry p hp s hs) hinvalid

/-! ### Two scale sets -/

/-- A parser that knows one expression. -/
def eights : Calendar Unit Unit where
  parse text := if text = "0 8 * * *" then .ok () else .error "expected exactly 5 fields"
  loadLocation _ := .error "unknown time zone"
  utc := ()
  inLocation _ _ := Schedule.everyTenth

def morning (cron : String) : ScheduleConfig where
  name := "morning"
  cron := cron
  duration := some (60 * minute)
  hotSize := 1
  warmSize := 1

/-- Two scale sets, `ci` with a schedule and `gpu` with the given ones. -/
def ciAndGpu (schedules : List ScheduleConfig) : RawConfig where
  scalesets :=
    [ { name := "ci", maxConcurrentRunners := 4, scope := { org := "acme" }
        profiles := [{ name := "cpu", schedules := [morning "0 8 * * *"] }]
        vmidRange := some { min := 10000, max := 19999 } },
      { name := "gpu", maxConcurrentRunners := 4, scope := { org := "acme-labs" }
        profiles := [{ name := "gpu", schedules := schedules }]
        vmidRange := some { min := 20000, max := 29999 } } ]
  proxmox := { templateVMID := 9000, vmidRange := { min := 10000, max := 19999 } }
  pool := { hotSize := 1, warmSize := 1 }

theorem exists_loaded {calendar : Calendar Spec Location} (hok : (loadResolved calendar raw).isOk) :
    ∃ loaded profiles, loadResolved calendar raw = .ok loaded ∧ loaded.config = normalizeScalesets raw ∧
      loaded.scalesets = (loaded.config.scalesets.take 1).map ({ entry := ·, profiles := profiles }) ++
        (loaded.config.scalesets.drop 1).map LoadedEntry.read := by
  cases hload : loadResolved calendar raw with
  | error message => simp [hload, Except.isOk, Except.toBool] at hok
  | ok loaded =>
    obtain ⟨hconfig, _, hresolve⟩ := loadResolved_eq_ok hload
    rcases resolveProfiles_eq_ok hresolve with ⟨hnone, hloaded⟩ | ⟨first, rest, profiles, hsome, _, hloaded⟩
    · exact ⟨loaded, [], rfl, hconfig, by simp [hnone, hloaded]⟩
    · exact ⟨loaded, profiles, rfl, hconfig, by simp [hsome, hloaded]⟩

theorem schedules_runnable_ci :
    FirstOnly (normalizeScalesets (ciAndGpu [])).scalesets ∧
    (∃ loaded, loadResolved eights (ciAndGpu []) = .ok loaded ∧ loaded.scalesets.length = 2 ∧
      ∀ entry ∈ loaded.scalesets, ∀ p ∈ entry.profiles, ∀ s ∈ p.schedules, s.Runnable) := by
  have honly : FirstOnly (normalizeScalesets (ciAndGpu [])).scalesets := by
    simp [FirstOnly, normalizeScalesets, RawConfig.entries, ciAndGpu, ScaleSetEntry.normalize,
      ProfileConfig.inherit]
  obtain ⟨loaded, profiles, hload, hconfig, hloaded⟩ :=
    exists_loaded (show (loadResolved eights (ciAndGpu [])).isOk = true by decide)
  have hrun := ((schedules_runnable_iff eights (ciAndGpu [])).1 loaded hload).mpr (hconfig ▸ honly)
  refine ⟨honly, loaded, hload, ?_, fun entry hentry ↦ (hrun entry hentry).1⟩
  rw [hloaded, hconfig]
  rfl

/-- The schedule of the second scale set is accepted, also with an expression that does not parse, and the
scale set gets no runner. -/
theorem second_schedule_unresolved :
    (∃ loaded, loadResolved eights (ciAndGpu [morning "0 8 * * *"]) = .ok loaded ∧
      ∃ entry ∈ loaded.scalesets, ∃ p ∈ entry.profiles, ∃ s ∈ p.schedules, s.cronSchedule = none ∧
        scheduleRunnerForScaleset entry loaded.config.pool =
          .error "schedule: entries[0] \"morning\": cron is required") ∧
    (∃ loaded, loadResolved eights (ciAndGpu [morning "8h"]) = .ok loaded) ∧
      ¬ (morning "8h").Valid eights := by
  obtain ⟨loaded, profiles, hload, hconfig, hloaded⟩ :=
    exists_loaded (show (loadResolved eights (ciAndGpu [morning "0 8 * * *"])).isOk = true by decide)
  obtain ⟨loaded', _, hload', _⟩ :=
    exists_loaded (show (loadResolved eights (ciAndGpu [morning "8h"])).isOk = true by decide)
  refine ⟨⟨loaded, hload, ?_⟩, ⟨loaded', hload'⟩, ?_⟩
  · rw [hloaded, hconfig]
    exact ⟨_, List.mem_append_right _ List.mem_cons_self, _, List.mem_cons_self, _,
      List.mem_cons_self, rfl, rfl⟩
  · rintro ⟨_, _, spec, hspec⟩
    simp [eights, morning] at hspec

end ScalesetProxmox.App
