import ScalesetProxmox.Schedule.Runner

/-!
# The windows that are open at a restart

`replayActiveAtStartup` steps each entry's expression from two durations back until it passes the clock,
and keeps for each profile the window that opened last among those still open.

The walk has to get from one fire to the next. `Next` answers the zero time when an expression has no
match within five years; the zero time is not after the clock, so the loop takes it for a past fire and
goes round from there. The replay ends if and only if every step of the walk has a next time, and it then
selects what it is meant to select unless it misses the window of an entry whose walk starts in the future
(`replay_selects_latest_iff`).
-/

namespace ScalesetProxmox.Schedule

open Store ScalesetProxmox.Transition

variable {cron : Cron} {e : Entry} {entries : List Entry} {now start last t r : Time} {profile : String}

/-! ## What is to be selected -/

/-- The entry fired at `t` and the window that this opened has not closed. -/
structure Entry.OpenAt (e : Entry) (now t : Time) : Prop where
  fires : e.cron.fires t = true
  fired : t ≤ now
  opened : now < t + e.duration

/-- The window of the profile that opened last, or none when none is open. -/
def LatestOpen (entries : List Entry) (now : Time) (profile : String) : Option Activation → Prop
  | none => ∀ e ∈ entries, e.profile = profile → ∀ t, ¬e.OpenAt now t
  | some a => a.entry ∈ entries ∧ a.entry.profile = profile ∧ a.entry.OpenAt now a.firedAt ∧
      a.activeUntil = a.firedAt + a.entry.duration ∧
      ∀ e ∈ entries, e.profile = profile → ∀ t, e.OpenAt now t → t ≤ a.firedAt

/-- Of the open windows that no walk comes by, none opened later than all those that a walk of the same
profile comes by. -/
def NoneMissed (entries : List Entry) (now : Time) : Prop :=
  ∀ e ∈ entries, now < e.walkFrom now → ∀ t, e.OpenAt now t →
    ∃ other ∈ entries, other.profile = e.profile ∧ other.walkFrom now ≤ now ∧
      ∃ t', t ≤ t' ∧ other.OpenAt now t'

/-- The replay ends, whatever fuel it has beyond some bound, and selects for each profile the open window
with the latest fire among those of `candidates`. -/
def ReplaySelects (entries candidates : List Entry) (now : Time) : Prop :=
  ∃ active : Active, ∃ fuel, (∀ more ≥ fuel, replayActiveAtStartup entries now more = some active) ∧
    ∀ profile, LatestOpen candidates now profile (active.get profile)

/-! ## The walk over one expression -/

/-- A walk that comes to a point without a next time goes round for ever: the zero time takes it back
below that point, and the fire there keeps it from passing by. -/
theorem replayFrom_eq_none {x : Time} (hx : x = zeroTime ∨ cron.fires x = true) (hnow : x ≤ now)
    (hnext : cron.next x = zeroTime) (hzero : zeroTime ≤ t) (ht : t ≤ x) (fuel : ℕ) :
    replayFrom cron now fuel t last = none := by
  induction fuel generalizing t last with
  | zero => rfl
  | succ fuel ih =>
    rw [replayFrom, if_neg (not_lt.mpr (ht.trans hnow))]
    by_cases hback : cron.next t = zeroTime
    · rw [hback]
      exact ih le_rfl (hzero.trans ht)
    · have hne : t ≠ x := fun heq ↦ hback (heq ▸ hnext)
      have hlt : t < x := lt_of_le_of_ne ht hne
      have hfires : cron.fires x = true := hx.resolve_left (hzero.trans_lt hlt).ne'
      exact ih (hzero.trans (Cron.lt_next hback).le) (Cron.next_le hback hfires hlt)

/-- The entry's loop ends if and only if `Next` has an answer at every point of its walk. -/
theorem lastFire_ends_iff : (∃ fuel r, lastFire e now fuel = some r) ↔ e.Walkable now := by
  constructor
  · rintro ⟨fuel, r, hends⟩ x hfrom hnow hx hnext
    have hnone : lastFire e now fuel = none := by
      unfold Entry.walkFrom at hfrom hx
      unfold lastFire
      split_ifs at hfrom hx with hstart
      · rw [hstart]
        exact replayFrom_eq_none hx hnow hnext le_rfl hfrom fuel
      · have hne : replayStart e now ≠ x := fun heq ↦ hstart (heq ▸ hnext)
        have hfires : e.cron.fires x = true := hx.resolve_left hne.symm
        refine replayFrom_eq_none (.inr hfires) hnow hnext ?_ ?_ fuel
        · exact (e.cron.fires_pos _ (Cron.fires_next hstart)).le
        · exact Cron.next_le hstart hfires (lt_of_le_of_ne hfrom hne)
    rw [hnone] at hends
    cases hends
  · intro h
    obtain ⟨r, fuel, hr, -⟩ := exists_lastFire h
    exact ⟨fuel, r, hr fuel le_rfl⟩

theorem walkable_of_replay {fuel : ℕ} {active after : Active}
    (h : entries.foldlM (fun active e ↦ (lastFire e now fuel).map (active.replay e now)) active =
      some after) : ∀ e ∈ entries, e.Walkable now := by
  induction entries generalizing active with
  | nil => simp
  | cons e entries ih =>
    rw [List.foldlM_cons, Option.bind_eq_bind, Option.bind_eq_some_iff] at h
    obtain ⟨next, hnext, hrest⟩ := h
    obtain ⟨r, hr, -⟩ := Option.map_eq_some_iff.mp hnext
    refine List.forall_mem_cons.mpr ⟨lastFire_ends_iff.mp ⟨fuel, r, hr⟩, ih hrest⟩

/-! ### Where the walk starts -/

theorem replayStart_eq (hfits : 2 * e.duration ≤ 2 ^ 63) (now : Time) :
    replayStart e now = now - 2 * e.duration := by
  have hpos := e.duration_pos
  have hwrap : wrapDuration (-2 * e.duration) = -2 * e.duration := by
    unfold wrapDuration
    apply Int.bmod_eq_of_le
    · push_cast
      linarith
    · push_cast
      linarith
  rw [replayStart, hwrap]
  linarith

/-- Beyond that, twice the duration wraps round. -/
theorem lt_replayStart (hwraps : 2 ^ 63 < 2 * e.duration) (hfits : e.duration < 2 ^ 63) (now : Time) :
    now < replayStart e now := by
  have hwrap : wrapDuration (-2 * e.duration) = -2 * e.duration + 2 ^ 64 := by
    unfold wrapDuration
    rw [← Int.add_bmod_right]
    apply Int.bmod_eq_of_le
    · push_cast
      linarith
    · push_cast
      linarith
  rw [replayStart, hwrap]
  linarith

/-- A walk that does not start in the future starts before every open window of its entry. -/
theorem Entry.OpenAt.walkFrom_lt (hopen : e.OpenAt now t) (hfits : e.duration < 2 ^ 63)
    (hseen : e.walkFrom now ≤ now) : e.walkFrom now < t := by
  unfold Entry.walkFrom at hseen ⊢
  split_ifs at hseen ⊢ with hzero
  · exact e.cron.fires_pos t hopen.fires
  · have hstart : replayStart e now = now - 2 * e.duration :=
      replayStart_eq (not_lt.mp fun hwraps ↦ not_lt.mpr hseen (lt_replayStart hwraps hfits now)) now
    have hpos := e.duration_pos
    have hopened := hopen.opened
    linarith

/-- Whether a window of the entry is open, and since when, can be read off its latest fire. -/
theorem IsLastFire.openAt (h : IsLastFire e.cron start now r)
    (hskip : ¬(r = zeroTime ∨ e.duration ≤ now - r)) : e.OpenAt now r := by
  rw [not_or, not_le] at hskip
  rcases h with ⟨hzero, _⟩ | ⟨_, hnow, hfires, _⟩
  · exact absurd hzero hskip.1
  · exact ⟨hfires, hnow, by linarith [hskip.2]⟩

theorem IsLastFire.le (h : IsLastFire e.cron start now r) (hopen : e.OpenAt now t) (hstart : start < t) :
    ¬(r = zeroTime ∨ e.duration ≤ now - r) ∧ t ≤ r := by
  have hopened := hopen.opened
  rcases h with ⟨_, hnone⟩ | ⟨_, hnow, hfires, hnone⟩
  · have := hnone t hstart hopen.fired
    simp [hopen.fires] at this
  · have hle : t ≤ r := by
      by_contra hlt
      have := hnone t (not_le.mp hlt) hopen.fired
      simp [hopen.fires] at this
    refine ⟨?_, hle⟩
    rintro (rfl | hclosed)
    · exact absurd (e.cron.fires_pos _ hfires) (lt_irrefl _)
    · linarith

/-! ## The selection -/

variable {active : Active}

/-- The selection stands when the next entry has no window of the profile that opened later. -/
theorem LatestOpen.append {selected : Option Activation} (h : LatestOpen entries now profile selected)
    (he : ∀ t, e.profile = profile → e.OpenAt now t → ∃ a ∈ selected, t ≤ a.firedAt) :
    LatestOpen (entries ++ [e]) now profile selected := by
  cases selected with
  | none =>
    intro other hother hprofile t hopen
    rcases List.mem_append.mp hother with hother | hother
    · exact h other hother hprofile t hopen
    · cases List.mem_singleton.mp hother
      obtain ⟨a, ha, _⟩ := he t hprofile hopen
      cases ha
  | some a =>
    obtain ⟨hmem, hprofile, hopen, huntil, hlatest⟩ := h
    refine ⟨List.mem_append_left _ hmem, hprofile, hopen, huntil, ?_⟩
    intro other hother hsame t hopen
    rcases List.mem_append.mp hother with hother | hother
    · exact hlatest other hother hsame t hopen
    · cases List.mem_singleton.mp hother
      obtain ⟨b, hb, hle⟩ := he t hsame hopen
      cases hb
      exact hle

/-- The next entry's window is selected when no selected window opened later. -/
theorem LatestOpen.replace {selected : Option Activation} (h : LatestOpen entries now e.profile selected)
    (hopen : e.OpenAt now r) (hlatest : ∀ t, e.OpenAt now t → t ≤ r) (hold : ∀ a ∈ selected, a.firedAt ≤ r) :
    LatestOpen (entries ++ [e]) now e.profile (some ⟨e, r, r + e.duration⟩) := by
  refine ⟨List.mem_append_right _ (List.mem_singleton_self e), rfl, hopen, rfl, ?_⟩
  intro other hother hprofile t hother_open
  rcases List.mem_append.mp hother with hother | hother
  · cases selected with
    | none => exact absurd hother_open (h other hother hprofile t)
    | some a =>
      obtain ⟨_, _, _, _, hbefore⟩ := h
      exact (hbefore other hother hprofile t hother_open).trans (hold a rfl)
  · cases List.mem_singleton.mp hother
    exact hlatest t hother_open

/-- One entry more, whose walk has come by all its open windows. -/
theorem latestOpen_replay (hlast : IsLastFire e.cron start now r)
    (hstart : ∀ t, e.OpenAt now t → start < t)
    (h : ∀ profile, LatestOpen entries now profile (active.get profile)) (profile : String) :
    LatestOpen (entries ++ [e]) now profile ((active.replay e now r).get profile) := by
  unfold Active.replay
  split
  · next hskip => exact (h profile).append fun t _ hopen ↦ absurd hskip (hlast.le hopen (hstart t hopen)).1
  · next hskip =>
    have hlatest (t : Time) (hopen : e.OpenAt now t) : t ≤ r :=
      (hlast.le hopen (hstart t hopen)).2
    have hother (hne : profile ≠ e.profile) : LatestOpen (entries ++ [e]) now profile (active.get profile) :=
      (h profile).append fun t hprofile _ ↦ absurd hprofile.symm hne
    have hput (hold : ∀ a ∈ active.get e.profile, a.firedAt ≤ r) :
        LatestOpen (entries ++ [e]) now profile
          ((active.put ⟨e, r, r + e.duration⟩).get profile) := by
      by_cases hprofile : profile = e.profile
      · subst hprofile
        rw [Table.get_put_self]
        exact (h e.profile).replace (hlast.openAt hskip) hlatest hold
      · rw [Table.get_put_ne (⟨e, r, r + e.duration⟩ : Activation) hprofile]
        exact hother hprofile
    dsimp only
    split
    · next hnone => exact hput (by simp [hnone])
    · next cur hcur =>
      split
      · next hlt => exact hput (by simpa [hcur] using hlt.le)
      · next hge =>
        by_cases hprofile : profile = e.profile
        · subst hprofile
          exact (h e.profile).append fun t _ hopen ↦
            ⟨cur, hcur, (hlatest t hopen).trans (not_lt.mp hge)⟩
        · exact hother hprofile

/-- The entries whose walk comes by the past. -/
def seen (entries : List Entry) (now : Time) : List Entry := entries.filter (·.walkFrom now ≤ now)

theorem mem_seen : e ∈ seen entries now ↔ e ∈ entries ∧ e.walkFrom now ≤ now := by
  simp [seen]

/-- The replay of expressions that can be walked ends, and selects among the entries that are seen. -/
theorem exists_latestOpen_seen (hfits : ∀ e ∈ entries, e.duration < 2 ^ 63)
    (hentries : ∀ e ∈ entries, e.Walkable now) : ReplaySelects entries (seen entries now) now := by
  refine @exists_replay _ _ (fun done active ↦ ∀ profile, LatestOpen (seen done now) now profile
    (active.get profile)) hentries ?_ ?_
  · intro done e active r he hlast h
    rw [seen, List.filter_append]
    by_cases hseen : e.walkFrom now ≤ now
    · rw [List.filter_singleton, decide_eq_true hseen, cond_true]
      exact latestOpen_replay hlast (fun t hopen ↦ hopen.walkFrom_lt (hfits e he) hseen) h
    · -- nothing lies between where the walk starts and the clock
      have hzero : r = zeroTime := by
        rcases hlast with ⟨hzero, -⟩ | ⟨hlt, hle, -⟩
        · exact hzero
        · exact absurd (hlt.le.trans hle) hseen
      rw [List.filter_singleton, decide_eq_false hseen, cond_false, List.append_nil, Active.replay,
        if_pos (.inl hzero)]
      exact h
  · intro profile
    rw [Table.get_empty]
    exact fun e he ↦ absurd he List.not_mem_nil

/-- What is selected among the entries seen is selected among all of them if none is missed. -/
theorem latestOpen_iff_noneMissed
    (h : ∀ profile, LatestOpen (seen entries now) now profile (active.get profile)) :
    (∀ profile, LatestOpen entries now profile (active.get profile)) ↔ NoneMissed entries now := by
  constructor
  · intro hall e he _ t hopen
    have hseen := h e.profile
    have hlatest := hall e.profile
    cases hselected : active.get e.profile with
    | none =>
      rw [hselected] at hlatest
      exact absurd hopen (hlatest e he rfl t)
    | some a =>
      rw [hselected] at hseen hlatest
      obtain ⟨ha, hprofile, hopenA, -⟩ := hseen
      obtain ⟨hmem, hwalk⟩ := mem_seen.mp ha
      exact ⟨a.entry, hmem, hprofile, hwalk, a.firedAt, hlatest.2.2.2.2 e he rfl t hopen, hopenA⟩
  · intro hmissed profile
    -- every open window is matched by one that is seen
    have hmatched (e : Entry) (he : e ∈ entries) (hprofile : e.profile = profile) (t : Time)
        (hopen : e.OpenAt now t) : ∃ other ∈ seen entries now, other.profile = profile ∧
          ∃ t', t ≤ t' ∧ other.OpenAt now t' := by
      by_cases hseen : e.walkFrom now ≤ now
      · exact ⟨e, mem_seen.mpr ⟨he, hseen⟩, hprofile, t, le_rfl, hopen⟩
      · obtain ⟨other, hother, hsame, hwalk, t', hle, hopen'⟩ :=
          hmissed e he (not_le.mp hseen) t hopen
        exact ⟨other, mem_seen.mpr ⟨hother, hwalk⟩, hsame.trans hprofile, t', hle, hopen'⟩
    have hseen := h profile
    cases hselected : active.get profile with
    | none =>
      rw [hselected] at hseen
      intro e he hprofile t hopen
      obtain ⟨other, hother, hsame, t', -, hopen'⟩ := hmatched e he hprofile t hopen
      exact hseen other hother hsame t' hopen'
    | some a =>
      rw [hselected] at hseen
      obtain ⟨ha, hprofileA, hopenA, huntil, hlatest⟩ := hseen
      refine ⟨(mem_seen.mp ha).1, hprofileA, hopenA, huntil, fun e he hprofile t hopen ↦ ?_⟩
      obtain ⟨other, hother, hsame, t', hle, hopen'⟩ := hmatched e he hprofile t hopen
      exact hle.trans (hlatest other hother hsame t' hopen')

/-- With durations that fit a `time.Duration`, the replay ends and selects for each profile the open window
with the latest fire, if and only if every entry can be walked and no open window is missed. -/
theorem replay_selects_latest_iff (entries : List Entry) (now : Time)
    (hfits : ∀ e ∈ entries, e.duration < 2 ^ 63) :
    ReplaySelects entries entries now ↔ (∀ e ∈ entries, e.Walkable now) ∧ NoneMissed entries now := by
  constructor
  · rintro ⟨active, fuel, hactive, hlatest⟩
    have hentries := walkable_of_replay (hactive fuel le_rfl)
    obtain ⟨other, bound, hother, hseen⟩ := exists_latestOpen_seen hfits hentries
    have hsame : other = active := Option.some.inj
      ((hother _ (le_max_right fuel bound)).symm.trans (hactive _ (le_max_left fuel bound)))
    subst hsame
    exact ⟨hentries, (latestOpen_iff_noneMissed hseen).mp hlatest⟩
  · rintro ⟨hentries, hmissed⟩
    obtain ⟨active, fuel, hactive, hseen⟩ := exists_latestOpen_seen hfits hentries
    exact ⟨active, fuel, hactive, (latestOpen_iff_noneMissed hseen).mpr hmissed⟩

/-! ### Walks of two durations -/

/-- Twice the duration fits a `time.Duration`, and the expression has a next time from where the walk
starts and from every fire that it passes. -/
structure Entry.Replayable (e : Entry) (now : Time) : Prop where
  fits : 2 * e.duration ≤ 2 ^ 63
  next : ∀ x, now - 2 * e.duration ≤ x → x ≤ now → x = now - 2 * e.duration ∨ e.cron.fires x = true →
    e.cron.next x ≠ zeroTime

theorem Entry.Replayable.walkFrom_eq (h : e.Replayable now) : e.walkFrom now = now - 2 * e.duration := by
  have hpos := e.duration_pos
  have hstart := replayStart_eq h.fits now
  have hne := h.next _ le_rfl (by linarith) (.inl rfl)
  rw [Entry.walkFrom, hstart, if_neg hne]

theorem Entry.Replayable.walkable (h : e.Replayable now) : e.Walkable now := by
  unfold Entry.Walkable
  rw [h.walkFrom_eq]
  exact h.next

theorem noneMissed_of_replayable (hentries : ∀ e ∈ entries, e.Replayable now) : NoneMissed entries now := by
  intro e he hlt
  have hpos := e.duration_pos
  rw [(hentries e he).walkFrom_eq] at hlt
  linarith

theorem replaySelects_of_replayable (hentries : ∀ e ∈ entries, e.Replayable now) :
    ReplaySelects entries entries now := by
  have hfits (e : Entry) (he : e ∈ entries) : e.duration < 2 ^ 63 := by
    have hpos := e.duration_pos
    linarith [(hentries e he).fits]
  obtain ⟨active, fuel, hactive, hseen⟩ :=
    exists_latestOpen_seen hfits fun e he ↦ (hentries e he).walkable
  exact ⟨active, fuel, hactive, (latestOpen_iff_noneMissed hseen).mpr (noneMissed_of_replayable hentries)⟩

theorem shifted_replayable (offset : Fin 10) (now : Time) : ∀ e ∈ shifted offset, e.Replayable now := by
  intro e he
  simp only [shifted, List.mem_cons, List.not_mem_nil, or_false] at he
  rcases he with rfl | rfl
  · exact ⟨by decide, fun x _ _ _ ↦ everyTen_next_ne _ x⟩
  · exact ⟨by norm_num, fun x _ _ _ ↦ everyTen_next_ne _ x⟩

/-- At 12 the window of the first profile is open since 10. -/
theorem replay_selects_latest_shifted :
    ∃ active : Active, ∃ fuel, (∀ more ≥ fuel, replayActiveAtStartup (shifted 5) 12 more = some active) ∧
      LatestOpen (shifted 5) 12 "small" (active.get "small") ∧ active.get "small" ≠ none := by
  have hentries := shifted_replayable 5 12
  obtain ⟨active, fuel, hfuel, hlatest⟩ := (replay_selects_latest_iff (shifted 5) 12 (by decide)).mpr
    ⟨fun e he ↦ (hentries e he).walkable, noneMissed_of_replayable hentries⟩
  refine ⟨active, fuel, hfuel, hlatest "small", fun hnone ↦ ?_⟩
  have hsmall := hlatest "small"
  rw [hnone] at hsmall
  exact hsmall _ List.mem_cons_self rfl 10 ⟨rfl, by decide, by decide⟩

/-! ### Expressions that do not fire, and windows of centuries -/

/-- The 30th of February. The parser takes it. -/
def february30 : Cron where
  fires _ := false
  next _ := zeroTime
  fires_pos _ h := by cases h
  next_spec _ := .inl ⟨rfl, fun _ _ _ ↦ rfl⟩

def february30Peak : Entry :=
  { peak with cron := february30, duration := 60 * minute, duration_pos := by decide }

/-- The loop steps from the zero time to the zero time and never passes the clock. -/
theorem february30_replay_hangs :
    february30Peak.cron.next zeroTime = zeroTime ∧
      ∀ fuel, replayActiveAtStartup [february30Peak] (60 * minute) fuel = none := by
  refine ⟨rfl, fun fuel ↦ ?_⟩
  have hloop : lastFire february30Peak (60 * minute) fuel = none :=
    @replayFrom_eq_none february30 _ _ _ _ (.inl rfl) (by decide) rfl le_rfl le_rfl fuel
  simp [replayActiveAtStartup, hloop]

/-- A window of some 219 years. -/
def centuries : Entry :=
  { peak with cron := everyTenth, duration := 3 * 2 ^ 61, duration_pos := by decide }

/-- Minus twice the duration wraps to a positive number: the walk starts in the future, and a window that
has just opened is not found. -/
theorem centuries_window_lost :
    centuries.OpenAt 15 10 ∧ replayActiveAtStartup [centuries] 15 2 = some Table.empty := by
  refine ⟨⟨rfl, by decide, by decide⟩, ?_⟩
  have hloop : lastFire centuries 15 2 = some zeroTime := by decide +kernel
  simp [replayActiveAtStartup, hloop, Active.replay]

end ScalesetProxmox.Schedule
