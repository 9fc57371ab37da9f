import Mathlib.Data.List.Induction
import ScalesetProxmox.Schedule.Replay

/-!
# The sizes in force

What the loop has applied to a profile last, against the windows that are open. The loop keeps one window
for each profile: a fire replaces it, and when it closes the profile goes back to its baseline. A restart
looks at all entries. The two agree at every instant between two events as long as no open window outlasts
the one that opened last (`sizes_follow_latest_window`): a short window inside a long one ends both in the
loop, and a restart then finds the long one open (`inner_window_ends_outer`).
-/

namespace ScalesetProxmox.Schedule

open Store ScalesetProxmox.Transition

variable {entries : List Entry} {e : Entry} {st st' : State} {round : Round} {now x : Time}
  {profile : String} {active : Active} {baseline : String → ℤ × ℤ} {t : Time}

/-! ## What is in force -/

def lastSizes (profile : String) (sizes : ℤ × ℤ) (applied : List Applied) : ℤ × ℤ :=
  applied.foldl (fun sizes a ↦ if a.profile = profile then (a.hotSize, a.warmSize) else sizes) sizes

def State.sizes (baseline : String → ℤ × ℤ) (st : State) (profile : String) : ℤ × ℤ :=
  lastSizes profile (baseline profile) st.applied

/-- The sizes that the selection of a window calls for. -/
def selectedSizes (baseline : String → ℤ × ℤ) (profile : String) (selected : Option Activation) : ℤ × ℤ :=
  selected.elim (baseline profile) fun a ↦ (a.entry.hotSize, a.entry.warmSize)

theorem lastSizes_append (sizes : ℤ × ℤ) (applied : List Applied) (a : Applied) :
    lastSizes profile sizes (applied ++ [a]) =
      if a.profile = profile then (a.hotSize, a.warmSize) else lastSizes profile sizes applied := by
  simp [lastSizes]

theorem lastSizes_of_forall_ne {sizes : ℤ × ℤ} {applied : List Applied}
    (h : ∀ a ∈ applied, a.profile ≠ profile) : lastSizes profile sizes applied = sizes := by
  induction applied using List.reverseRecOn with
  | nil => rfl
  | append_singleton applied a ih =>
    rw [lastSizes_append, if_neg (h a (by simp))]
    exact ih fun b hb ↦ h b (List.mem_append_left _ hb)

theorem lastSizes_of_mem {sizes last : ℤ × ℤ} {applied : List Applied}
    (h : ∀ a ∈ applied, a.profile = profile → (a.hotSize, a.warmSize) = last)
    (hmem : ∃ a ∈ applied, a.profile = profile) : lastSizes profile sizes applied = last := by
  induction applied using List.reverseRecOn with
  | nil => simp at hmem
  | append_singleton applied a ih =>
    rw [lastSizes_append]
    split
    · next ha => exact h a (by simp) ha
    · next ha =>
      apply ih fun b hb ↦ h b (List.mem_append_left _ hb)
      obtain ⟨b, hb, hprofile⟩ := hmem
      rcases List.mem_append.mp hb with hb | hb
      · exact ⟨b, hb, hprofile⟩
      · cases List.mem_singleton.mp hb
        exact absurd hprofile ha

/-! ## What a round does to the windows -/

variable {a : Activation}

theorem profile_of_get (h : active.get profile = some a) : a.entry.profile = profile :=
  active.keyed profile a h

theorem mem_rows_of_get (h : active.get profile = some a) : a ∈ active.rows := by
  rw [Table.mem_rows, profile_of_get h]
  exact h

/-- The effect of a round on the windows and the calls of the apply function. -/
inductive Windowed (entries : List Entry) (st : State) (round : Round) (st' : State) : Prop
  | fire (due : Time) (index : ℕ) (e : Entry)
      (hplan : plan entries round.read st.active = some ⟨due, .fire index e⟩)
      (hactive : st'.active = (handleFire e round.woken st).active)
      (happlied : st'.applied = (handleFire e round.woken st).applied)
  | expire (due : Time) (profile : String)
      (hplan : plan entries round.read st.active = some ⟨due, .expire profile⟩)
      (hactive : st'.active = (handleExpire profile round.woken st).active)
      (happlied : st'.applied = (handleExpire profile round.woken st).applied)

theorem windowed_of_step (h : step entries st round = some st') : Windowed entries st round st' := by
  unfold step at h
  split at h
  · obtain ⟨⟨due, event⟩, hplan, rfl⟩ := Option.map_eq_some_iff.mp h
    cases event with
    | fire index e => exact .fire due index e hplan rfl rfl
    | expire profile => exact .expire due profile hplan rfl rfl
  · cases h

theorem nextExpiry_spec (h : nextExpiry active = some a) : active.get a.entry.profile = some a ∧
      ∀ profile b, active.get profile = some b → a.activeUntil ≤ b.activeUntil := by
  obtain ⟨hmem, hle, -⟩ := foldl_sooner_spec h
  exact ⟨Table.get_of_mem_rows (hmem.resolve_left (by simp)), fun profile b hb ↦ hle b (mem_rows_of_get hb)⟩

/-- No window closes before the planned event. -/
theorem plan_le_activeUntil {p : Plan} (h : plan entries now active = some p)
    (ha : active.get profile = some a) : p.due ≤ a.activeUntil := by
  have hsome : nextExpiry active ≠ none := by
    intro hnone
    have hrows := (foldl_sooner_eq_none hnone).2
    have hmem := mem_rows_of_get ha
    simp [hrows] at hmem
  obtain ⟨first, hfirst⟩ := Option.ne_none_iff_exists'.mp hsome
  have hle := (nextExpiry_spec hfirst).2 profile a ha
  unfold plan at h
  rw [hfirst] at h
  split at h
  · next hnone => cases hnone
  · next hsame =>
    cases hsame
    cases h
    exact hle
  · next hnone => cases hnone
  · next hsame =>
    cases hsame
    split at h
    · cases h
      exact hle
    · next hlt =>
      cases h
      exact (not_lt.mp hlt).trans hle

theorem plan_expire_window {due : Time} (h : plan entries now active = some ⟨due, .expire profile⟩) :
    ∃ a, active.get profile = some a ∧ a.activeUntil = due := by
  unfold plan at h
  split at h
  · cases h
  · next a _ hnext =>
    cases h
    exact ⟨a, (nextExpiry_spec hnext).1, rfl⟩
  · cases h
  · next a _ hnext =>
    split at h
    · cases h
      exact ⟨a, (nextExpiry_spec hnext).1, rfl⟩
    · cases h

/-! ## The window that leads -/

/-- The window opened last, has not been left behind by the clock, and outlasts every other open one of its
profile. -/
structure Activation.Leads (entries : List Entry) (now : Time) (a : Activation) : Prop where
  mem : a.entry ∈ entries
  fires : a.entry.cron.fires a.firedAt = true
  fired : a.firedAt ≤ now
  activeUntil_eq : a.activeUntil = a.firedAt + a.entry.duration
  now_le : now ≤ a.activeUntil
  latest : ∀ e ∈ entries, e.profile = a.entry.profile → ∀ t, e.OpenAt now t →
    t ≤ a.firedAt ∧ t + e.duration ≤ a.activeUntil

/-- The loop's window of a profile leads; without one, none is open. -/
def Tracked (entries : List Entry) (now : Time) (active : Active) (profile : String) : Prop :=
  match active.get profile with
  | none => ∀ e ∈ entries, e.profile = profile → ∀ t, ¬e.OpenAt now t
  | some a => a.Leads entries now

theorem Tracked.leads (h : Tracked entries now active profile) (ha : active.get profile = some a) :
    a.Leads entries now := by
  unfold Tracked at h
  rwa [ha] at h

/-- No entry of the profile fires after `now` and up to `x`. -/
def Quiet (entries : List Entry) (profile : String) (now x : Time) : Prop :=
  ∀ e ∈ entries, e.profile = profile → ∀ t, now < t → t ≤ x → e.cron.fires t = false

theorem Quiet.openAt (hquiet : Quiet entries profile now x) (hle : now ≤ x) (he : e ∈ entries)
    (hprofile : e.profile = profile) (h : e.OpenAt x t) : e.OpenAt now t := by
  refine ⟨h.fires, ?_, hle.trans_lt h.opened⟩
  by_contra hlt
  have := hquiet e he hprofile t (not_le.mp hlt) h.fired
  simp [h.fires] at this

/-- Time passes without a fire, up to the end of the window at most. -/
theorem Tracked.later (h : Tracked entries now active profile) (hle : now ≤ x)
    (hquiet : Quiet entries profile now x) (hend : ∀ a ∈ active.get profile, x ≤ a.activeUntil) :
    Tracked entries x active profile := by
  unfold Tracked at h ⊢
  split at h
  · next hnone =>
    intro e he hprofile t hopen
    exact h e he hprofile t (hquiet.openAt hle he hprofile hopen)
  · next a ha =>
    refine ⟨h.mem, h.fires, h.fired.trans hle, h.activeUntil_eq, hend a ha, ?_⟩
    intro e he hprofile t hopen
    have hkey : a.entry.profile = profile := profile_of_get ha
    exact h.latest e he hprofile t (hquiet.openAt hle he (hprofile.trans hkey) hopen)

/-- Before its end, the window that leads is the one to be selected. -/
theorem Tracked.latestOpen (h : Tracked entries now active profile)
    (hend : ∀ a ∈ active.get profile, now < a.activeUntil) :
    LatestOpen entries now profile (active.get profile) := by
  unfold Tracked at h
  split at h
  · next hnone => exact hnone ▸ h
  · next a ha =>
    have hkey : a.entry.profile = profile := profile_of_get ha
    have hlt := hend a ha
    rw [ha]
    refine ⟨h.mem, hkey, ⟨h.fires, h.fired, h.activeUntil_eq ▸ hlt⟩, h.activeUntil_eq, ?_⟩
    intro e he hprofile t hopen
    exact (h.latest e he (hprofile.trans hkey.symm) t hopen).1

/-- No open window of a profile outlasts the one that the loop keeps. -/
def InOrder (entries : List Entry) (st : State) : Prop :=
  ∀ a ∈ st.active.rows, ∀ e ∈ entries, e.profile = a.entry.profile →
    ∀ t, st.now - e.duration < t → t ≤ st.now → e.cron.fires t = true → t + e.duration ≤ a.activeUntil

instance (st : State) : Decidable (InOrder entries st) :=
  inferInstanceAs (Decidable (∀ a ∈ st.active.rows, ∀ e ∈ entries, e.profile = a.entry.profile →
    ∀ t : ℤ, st.now - e.duration < t → t ≤ st.now → e.cron.fires t = true →
      t + e.duration ≤ a.activeUntil))

theorem InOrder.le (h : InOrder entries st) (ha : st.active.get profile = some a) (he : e ∈ entries)
    (hprofile : e.profile = profile) (hopen : e.OpenAt st.now t) : t + e.duration ≤ a.activeUntil := by
  have hkey : a.entry.profile = profile := profile_of_get ha
  have hopened := hopen.opened
  exact h a (mem_rows_of_get ha) e he (hprofile.trans hkey.symm) t (by linarith) hopen.fired hopen.fires

/-- What a restart selects leads, when the windows are in order. -/
theorem tracked_of_latestOpen (h : LatestOpen entries st.now profile (st.active.get profile))
    (horder : InOrder entries st) : Tracked entries st.now st.active profile := by
  unfold Tracked
  split
  · next hnone =>
    rw [hnone] at h
    exact h
  · next a ha =>
    rw [ha] at h
    obtain ⟨hmem, hprofile, hopen, huntil, hlatest⟩ := h
    refine ⟨hmem, hopen.fires, hopen.fired, huntil, huntil ▸ hopen.opened.le, ?_⟩
    intro e he hsame t hother
    exact ⟨hlatest e he (hsame.trans hprofile) t hother,
      horder.le ha he (hsame.trans hprofile) hother⟩

/-! ## A round on time -/

/-- No two entries fire at the same time. -/
def DistinctFires (entries : List Entry) : Prop :=
  entries.Pairwise fun a b ↦ ∀ t, ¬(a.cron.fires t = true ∧ b.cron.fires t = true)

/-- No fire time passes before the clock is read, every entry has a next time, and the round is woken at
the time that it asks for. -/
def OnTime (entries : List Entry) (st : State) (round : Round) (_ : State) : Prop :=
  (∀ e ∈ entries, ∀ t, st.now < t → t ≤ round.read → e.cron.fires t = false) ∧
    (∀ e ∈ entries, e.cron.next round.read ≠ zeroTime) ∧
    ∀ p ∈ plan entries round.read st.active, round.woken = p.due

instance (st : State) (round : Round) (st' : State) : Decidable (OnTime entries st round st') :=
  inferInstanceAs (Decidable (
    (∀ e ∈ entries, ∀ t : ℤ, st.now < t → t ≤ round.read → e.cron.fires t = false) ∧
      (∀ e ∈ entries, e.cron.next round.read ≠ zeroTime) ∧
      ∀ p ∈ plan entries round.read st.active, round.woken = p.due))

theorem DistinctFires.eq (h : DistinctFires entries) {a b : Entry} (ha : a ∈ entries) (hb : b ∈ entries)
    (hfa : a.cron.fires t) (hfb : b.cron.fires t) : a = b := by
  have hsymm : Std.Symm fun a b : Entry ↦ ∀ t, ¬(a.cron.fires t ∧ b.cron.fires t) :=
    ⟨fun a b h t hboth ↦ h t hboth.symm⟩
  by_contra hne
  exact List.Pairwise.forall h ha hb hne t ⟨hfa, hfb⟩

/-- The state agrees with the windows: each profile's window leads, and its sizes are in force. -/
structure Agrees (entries : List Entry) (baseline : String → ℤ × ℤ) (st : State) : Prop where
  tracked : ∀ profile, Tracked entries st.now st.active profile
  sizes : ∀ profile, st.sizes baseline profile = selectedSizes baseline profile (st.active.get profile)

section Round

variable {due : Time} {index : ℕ}

/-- A fire in the course of a round on time is not before the entry's next time. -/
theorem OnTime.next_le (hon : OnTime entries st round st') (he : e ∈ entries)
    (hfires : e.cron.fires t) (hnow : st.now < t) : e.cron.next round.read ≤ t := by
  have hread : round.read < t := by
    by_contra hle
    simp [hon.1 e he t hnow (not_lt.mp hle)] at hfires
  exact Cron.next_le (hon.2.1 e he) hfires hread

theorem handleExpire_of_le (ha : st.active.get profile = some a) (hend : a.activeUntil ≤ now) :
    handleExpire profile now st =
      { st with
        active := st.active.erase profile
        applied := st.applied ++ [⟨profile, a.entry.baselineHot, a.entry.baselineWarm⟩] } := by
  simp only [handleExpire, ha, if_neg (not_lt.mpr hend)]

/-- A fire applies its sizes unless those of the window that it replaces are the same. -/
theorem applied_handleFire (e : Entry) (woken : Time) (st : State) :
    (handleFire e woken st).applied = st.applied ++ [⟨e.profile, e.hotSize, e.warmSize⟩] ∨
      (handleFire e woken st).applied = st.applied ∧ ∃ cur, st.active.get e.profile = some cur ∧
        (cur.entry.hotSize, cur.entry.warmSize) = (e.hotSize, e.warmSize) := by
  unfold handleFire
  cases hcur : st.active.get e.profile with
  | none => exact .inl rfl
  | some cur =>
    dsimp only
    split
    · exact .inl rfl
    · next hsame => exact .inr ⟨rfl, cur, rfl, by simpa using hsame⟩

theorem sizes_handleFire (woken : Time)
    (h : ∀ profile, st.sizes baseline profile = selectedSizes baseline profile (st.active.get profile))
    (profile : String) :
    lastSizes profile (baseline profile) (handleFire e woken st).applied =
      selectedSizes baseline profile ((handleFire e woken st).active.get profile) := by
  have hold : lastSizes profile (baseline profile) st.applied =
      selectedSizes baseline profile (st.active.get profile) := h profile
  by_cases hprofile : profile = e.profile
  · subst hprofile
    have hnew : (handleFire e woken st).active.get e.profile = some ⟨e, woken, woken + e.duration⟩ :=
      Table.get_put_self _ _
    rw [hnew]
    rcases applied_handleFire e woken st with happlied | ⟨happlied, cur, hcur, hsame⟩
    · rw [happlied, lastSizes_append, if_pos rfl]
      rfl
    · rw [happlied, hold, hcur]
      exact hsame
  · have hkept : (handleFire e woken st).active.get profile = st.active.get profile :=
      Table.get_put_ne (⟨e, woken, woken + e.duration⟩ : Activation) hprofile
    rw [hkept, ← hold]
    rcases applied_handleFire e woken st with happlied | ⟨happlied, _⟩
    · rw [happlied, lastSizes_append, if_neg (Ne.symm hprofile)]
    · rw [happlied]

theorem agrees_fire (h : Agrees entries baseline st) (hdistinct : DistinctFires entries)
    (hon : OnTime entries st round st') (horder : InOrder entries st') (hread : st.now ≤ round.read)
    (hnow : st'.now = round.woken) (hplan : plan entries round.read st.active = some ⟨due, .fire index e⟩)
    (hactive : st'.active = (handleFire e round.woken st).active)
    (happlied : st'.applied = (handleFire e round.woken st).applied) : Agrees entries baseline st' := by
  obtain ⟨hindex, hdue, hsoonest⟩ := plan_fire hplan
  have he : e ∈ entries := List.mem_of_getElem? hindex
  have hwoken : round.woken = due := hon.2.2 _ hplan
  have hfires : e.cron.fires due := hdue ▸ Cron.fires_next (hon.2.1 e he)
  have hlt : round.read < due := hdue ▸ Cron.lt_next (hon.2.1 e he)
  have hput : st'.active = st.active.put ⟨e, due, due + e.duration⟩ := by
    rw [hactive, hwoken]
    rfl
  rw [hwoken] at hnow
  refine ⟨fun profile ↦ ?_, fun profile ↦ ?_⟩
  · by_cases hprofile : profile = e.profile
    · subst hprofile
      have hget : st'.active.get e.profile = some ⟨e, due, due + e.duration⟩ := by
        rw [hput]
        exact Table.get_put_self _ _
      have hpos := e.duration_pos
      unfold Tracked
      rw [hget, hnow]
      refine ⟨he, hfires, le_rfl, rfl, by linarith, ?_⟩
      intro other hother hsame t hopen
      exact ⟨hopen.fired, horder.le hget hother hsame (hnow ▸ hopen)⟩
    · have hget : st'.active.get profile = st.active.get profile := by
        rw [hput]
        exact Table.get_put_ne (⟨e, due, due + e.duration⟩ : Activation) hprofile
      have hlater : Tracked entries due st.active profile := by
        apply (h.tracked profile).later (hread.trans hlt.le)
        · intro other hother hsame t hst htd
          by_contra hfired
          have hfired := Bool.eq_true_of_not_eq_false hfired
          have hnext := hon.next_le hother hfired hst
          cases le_antisymm htd ((hsoonest other hother).trans hnext)
          -- only this entry fires at the end of the round
          cases hdistinct.eq he hother hfires hfired
          exact hprofile hsame.symm
        · exact fun a ha ↦ plan_le_activeUntil hplan ha
      unfold Tracked at hlater ⊢
      rw [hget, hnow]
      exact hlater
  · rw [State.sizes, happlied, hactive]
    exact sizes_handleFire round.woken h.sizes profile

theorem agrees_expire (h : Agrees entries baseline st)
    (hbaseline : ∀ e ∈ entries, baseline e.profile = (e.baselineHot, e.baselineWarm))
    (hon : OnTime entries st round st') (hread : st.now ≤ round.read)
    (hwakes : round.read ≤ round.woken)
    (hnow : st'.now = round.woken) (hplan : plan entries round.read st.active = some ⟨due, .expire profile⟩)
    (hactive : st'.active = (handleExpire profile round.woken st).active)
    (happlied : st'.applied = (handleExpire profile round.woken st).applied) :
    Agrees entries baseline st' := by
  have hwoken : round.woken = due := hon.2.2 _ hplan
  obtain ⟨a, ha, huntil⟩ := plan_expire_window hplan
  have hsoonest := plan_expire hplan
  have hleads := (h.tracked profile).leads ha
  have herase := handleExpire_of_le ha (huntil.trans hwoken.symm).le
  have hquiet (other : String) : Quiet entries other st.now due := by
    intro e he _ t hst htd
    by_contra hfired
    have hnext := hon.next_le he (Bool.eq_true_of_not_eq_false hfired) hst
    exact absurd (hsoonest e he) (not_lt.mpr (hnext.trans htd))
  have hle : st.now ≤ due := hwoken ▸ hread.trans hwakes
  rw [herase] at hactive happlied
  rw [hwoken] at hnow
  refine ⟨fun other ↦ ?_, fun other ↦ ?_⟩
  · by_cases hother : other = profile
    · subst hother
      have hnone : st'.active.get other = none := by
        rw [hactive]
        exact Table.get_erase_self _ _
      unfold Tracked
      rw [hnone, hnow]
      intro e he hprofile t hopen
      -- it would have been open before and outlast the window that closes
      have hbefore := (hquiet other).openAt hle he hprofile hopen
      have hends := (hleads.latest e he (hprofile.trans (profile_of_get ha).symm) t hbefore).2
      have hopened := hopen.opened
      linarith
    · have hget : st'.active.get other = st.active.get other := by
        rw [hactive]
        exact Table.get_erase_ne hother
      have hlater : Tracked entries due st.active other :=
        (h.tracked other).later hle (hquiet other) fun b hb ↦ plan_le_activeUntil hplan hb
      unfold Tracked at hlater ⊢
      rw [hget, hnow]
      exact hlater
  · have hold := h.sizes other
    rw [State.sizes, happlied, lastSizes_append]
    rw [State.sizes] at hold
    by_cases hother : other = profile
    · subst hother
      rw [if_pos rfl, hactive, Table.get_erase_self]
      rw [← profile_of_get ha, selectedSizes, Option.elim_none, hbaseline _ hleads.mem]
    · rw [if_neg (Ne.symm hother), hactive, Table.get_erase_ne hother, hold]

end Round

theorem agrees_step (hbaseline : ∀ e ∈ entries, baseline e.profile = (e.baselineHot, e.baselineWarm))
    (hdistinct : DistinctFires entries) (h : Agrees entries baseline st)
    (hon : OnTime entries st round st') (horder : InOrder entries st')
    (hstep : step entries st round = some st') : Agrees entries baseline st' := by
  obtain ⟨hread, hwakes, hnow, -⟩ := stepped_of_step hstep
  cases windowed_of_step hstep with
  | fire due index e hplan hactive happlied =>
    exact agrees_fire h hdistinct hon horder hread hnow hplan hactive happlied
  | expire due profile hplan hactive happlied =>
    exact agrees_expire h hbaseline hon hread hwakes hnow hplan hactive happlied

/-! ## From the start on -/

theorem replayActiveAtStartup_mono {fuel more : ℕ} (hle : fuel ≤ more)
    (h : replayActiveAtStartup entries now fuel = some active) :
    replayActiveAtStartup entries now more = some active := by
  suffices hfold : ∀ before : Active,
      entries.foldlM (fun active e ↦ (lastFire e now fuel).map (active.replay e now)) before = some active →
      entries.foldlM (fun active e ↦ (lastFire e now more).map (active.replay e now)) before = some active
    from hfold _ h
  clear h
  induction entries with
  | nil => exact fun before h ↦ h
  | cons e entries ih =>
    intro before h
    rw [List.foldlM_cons] at h ⊢
    cases hlast : lastFire e now fuel with
    | none => simp [hlast] at h
    | some last =>
      rw [hlast] at h
      rw [show lastFire e now more = some last from replayFrom_mono hle hlast]
      exact ih _ h

theorem latestOpen_of_replay {fuel : ℕ} (hentries : ∀ e ∈ entries, e.Replayable now)
    (h : replayActiveAtStartup entries now fuel = some active) (profile : String) :
    LatestOpen entries now profile (active.get profile) := by
  obtain ⟨after, bound, hafter, hlatest⟩ := replaySelects_of_replayable hentries
  have hsame := (replayActiveAtStartup_mono (le_max_left fuel bound) h).symm.trans
    (hafter (max fuel bound) (le_max_right _ _))
  cases hsame
  exact hlatest profile

theorem agrees_start {s : Time} {fuel : ℕ} (hentries : ∀ e ∈ entries, e.Replayable s)
    (h : start entries s fuel = some st) (horder : InOrder entries st) :
    Agrees entries baseline st := by
  obtain ⟨active, hactive, rfl⟩ := Option.map_eq_some_iff.mp h
  refine ⟨fun profile ↦ tracked_of_latestOpen (latestOpen_of_replay hentries hactive profile) horder, ?_⟩
  intro profile
  unfold State.sizes
  dsimp only
  cases hget : active.get profile with
  | none =>
    apply lastSizes_of_forall_ne
    intro a ha hprofile
    obtain ⟨b, hb, rfl⟩ := List.mem_map.mp ha
    have hrow := Table.get_of_mem_rows hb
    rw [show b.entry.profile = profile from hprofile, hget] at hrow
    cases hrow
  | some a =>
    apply lastSizes_of_mem
    · intro c hc hprofile
      obtain ⟨b, hb, rfl⟩ := List.mem_map.mp hc
      have hrow := Table.get_of_mem_rows hb
      rw [show b.entry.profile = profile from hprofile, hget] at hrow
      cases hrow
      rfl
    · exact ⟨_, List.mem_map_of_mem (mem_rows_of_get hget), profile_of_get hget⟩

/-! ## Between two events -/

theorem plan_le_next {p : Plan} (h : plan entries now active = some p) (he : e ∈ entries) :
    p.due ≤ e.cron.next now := by
  obtain ⟨due, event⟩ := p
  cases event with
  | fire index first => exact (plan_fire h).2.2 e he
  | expire profile => exact (plan_expire h e he).le

theorem plan_eq_none (h : plan entries now active = none) : entries = [] := by
  unfold plan at h
  split at h
  · next hnone _ => exact nextFireAfter_eq_none hnone
  · cases h
  · cases h
  · split at h
    · cases h
    · cases h

theorem exists_plan (he : e ∈ entries) : ∃ p, plan entries now active = some p := by
  rw [← Option.ne_none_iff_exists']
  intro hnone
  simp [plan_eq_none hnone] at he

/-- Nothing fires before the next event. -/
theorem quiet_of_lt_due (h : ∀ p ∈ plan entries now active, x < p.due) :
    Quiet entries profile now x := by
  intro e he _ t hnow hx
  obtain ⟨p, hp⟩ := @exists_plan entries e now active he
  have hnext : x < e.cron.next now := (h p hp).trans_le (plan_le_next hp he)
  by_contra hfires
  have hfires := Bool.eq_true_of_not_eq_false hfires
  by_cases hzero : e.cron.next now = zeroTime
  · have hpos := e.cron.fires_pos t hfires
    linarith
  · exact absurd (hnext.trans_le (Cron.next_le hzero hfires hnow)) (not_lt.mpr hx)

theorem LatestOpen.selectedSizes_eq {first second : Option Activation} (hdistinct : DistinctFires entries)
    (h : LatestOpen entries now profile first) (h' : LatestOpen entries now profile second) :
    selectedSizes baseline profile first = selectedSizes baseline profile second := by
  cases first with
  | none =>
    cases second with
    | none => rfl
    | some b => exact absurd h'.2.2.1 (h _ h'.1 h'.2.1 _)
  | some a =>
    cases second with
    | none => exact absurd h.2.2.1 (h' _ h.1 h.2.1 _)
    | some b =>
      obtain ⟨hmem, hprofile, hopen, _, hlatest⟩ := h
      obtain ⟨hmem', hprofile', hopen', _, hlatest'⟩ := h'
      have hfired : a.firedAt = b.firedAt :=
        le_antisymm (hlatest' _ hmem hprofile _ hopen) (hlatest _ hmem' hprofile' _ hopen')
      have hentry : a.entry = b.entry :=
        hdistinct.eq hmem hmem' hopen.fires (hfired ▸ hopen'.fires)
      simp only [selectedSizes, Option.elim_some, hentry]

/-- From any start at which the replay works, in every run whose rounds are on time and leave the windows
in order, the sizes last applied to a profile are, at every instant before the next event, those of the
open window that fired last, or the baseline when none is open; and they are the ones that a restart at
that instant would select. -/
theorem sizes_follow_latest_window (entries : List Entry) (baseline : String → ℤ × ℤ) (s : Time)
    (hbaseline : ∀ e ∈ entries, baseline e.profile = (e.baselineHot, e.baselineWarm))
    (hdistinct : DistinctFires entries) (hentries : ∀ e ∈ entries, e.Replayable s) :
    (∃ fuel st, start entries s fuel = some st) ∧
      ∀ fuel st rounds st', start entries s fuel = some st → InOrder entries st →
        Along (step entries) (OnTime entries) st rounds →
        Along (step entries) (fun _ _ st' ↦ InOrder entries st') st rounds →
        run (step entries) st rounds = some st' →
        ∀ x, st'.now ≤ x → (∀ p ∈ plan entries st'.now st'.active, x < p.due) → ∀ profile,
          (∃ selected, LatestOpen entries x profile selected ∧
            st'.sizes baseline profile = selectedSizes baseline profile selected) ∧
          ((∀ e ∈ entries, e.Replayable x) →
            ∃ active fuel, (∀ more ≥ fuel, replayActiveAtStartup entries x more = some active) ∧
              st'.sizes baseline profile = selectedSizes baseline profile (active.get profile)) := by
  constructor
  · obtain ⟨active, fuel, hactive, -⟩ := replaySelects_of_replayable hentries
    exact ⟨fuel, _, by rw [start, hactive fuel le_rfl]; rfl⟩
  intro fuel st rounds st' hstart hfirst hon horder hrun x hnow hdue profile
  have hagrees : Agrees entries baseline st' :=
    invariant_of_along (Agrees entries baseline)
      (fun _ _ _ h hC hstep ↦ agrees_step hbaseline hdistinct h hC.1 hC.2 hstep)
      (agrees_start hentries hstart hfirst) (along_and.mpr ⟨hon, horder⟩) hrun
  have hbefore (a : Activation) (ha : a ∈ st'.active.get profile) : x < a.activeUntil := by
    have hmem := ((hagrees.tracked profile).leads ha).mem
    obtain ⟨p, hp⟩ := @exists_plan entries a.entry st'.now st'.active hmem
    exact (hdue p hp).trans_le (plan_le_activeUntil hp ha)
  have hlatest : LatestOpen entries x profile (st'.active.get profile) :=
    ((hagrees.tracked profile).later hnow (quiet_of_lt_due hdue) fun a ha ↦ (hbefore a ha).le).latestOpen
      hbefore
  refine ⟨⟨_, hlatest, hagrees.sizes profile⟩, fun hreplay ↦ ?_⟩
  obtain ⟨active, bound, hactive, hselected⟩ := replaySelects_of_replayable hreplay
  refine ⟨active, bound, hactive, ?_⟩
  rw [hagrees.sizes profile]
  exact hlatest.selectedSizes_eq hdistinct (hselected profile)

/-! ### Two windows of one profile -/

/-- A window of eight from every tenth on, and a second one of the same profile. -/
def overlapping (offset : Fin 10) (duration : Time) (hpos : 0 < duration) : List Entry :=
  [ { peak with name := "day", cron := everyTenth, duration := 8, duration_pos := by decide },
    { peak with
      name := "lunch"
      cron := everyTen offset
      duration := duration
      hotSize := 2
      warmSize := 1
      duration_pos := hpos } ]

section Overlapping

variable {offset : Fin 10} {duration : Time} {hpos : 0 < duration}

theorem overlapping_distinct (hoffset : offset ≠ 0) : DistinctFires (overlapping offset duration hpos) := by
  refine List.pairwise_pair.mpr fun t hfires ↦ hoffset ?_
  have hday : 0 < t ∧ t % 10 = ((0 : Fin 10) : ℤ) := of_decide_eq_true hfires.1
  have hlunch : 0 < t ∧ t % 10 = (offset : ℤ) := of_decide_eq_true hfires.2
  have hsame := hday.2.symm.trans hlunch.2
  exact Fin.ext (by exact_mod_cast hsame.symm)

theorem overlapping_replayable (hfits : 2 * duration ≤ 2 ^ 63) (now : Time) :
    ∀ e ∈ overlapping offset duration hpos, e.Replayable now := by
  intro e he
  simp only [overlapping, List.mem_cons, List.not_mem_nil, or_false] at he
  rcases he with rfl | rfl
  · exact ⟨by norm_num, fun x _ _ _ ↦ everyTen_next_ne _ x⟩
  · exact ⟨hfits, fun x _ _ _ ↦ everyTen_next_ne _ x⟩

theorem overlapping_baseline :
    ∀ e ∈ overlapping offset duration hpos, (1, 1) = (e.baselineHot, e.baselineWarm) := by
  intro e he
  simp only [overlapping, List.mem_cons, List.not_mem_nil, or_false] at he
  rcases he with rfl | rfl <;> rfl

end Overlapping

/-- The second window opens before the first one closes and closes after it. -/
def staggered : List Entry := overlapping ⟨5, by decide⟩ 4 (by decide)

/-- The second window opens and closes while the first is open. -/
def nested : List Entry := overlapping ⟨2, by decide⟩ 3 peak.duration_pos

/-- At 19 both windows are closed and the baseline is in force. -/
theorem sizes_follow_latest_window_staggered :
    ∃ st st', start staggered 9 20 = some st ∧
      run (step staggered) st [⟨9, 10⟩, ⟨10, 15⟩, ⟨15, 19⟩] = some st' ∧
      ∃ selected, LatestOpen staggered 19 "small" selected ∧
        st'.sizes (fun _ ↦ (1, 1)) "small" = selectedSizes (fun _ ↦ (1, 1)) "small" selected := by
  refine ⟨_, _, rfl, rfl, ?_⟩
  have hruns := (sizes_follow_latest_window staggered (fun _ ↦ (1, 1)) 9
    overlapping_baseline (overlapping_distinct (by decide)) (overlapping_replayable (by decide) 9)).2
  exact (hruns 20 _ [⟨9, 10⟩, ⟨10, 15⟩, ⟨15, 19⟩] _ rfl (by decide +kernel) (by decide +kernel)
    (by decide +kernel) rfl 19 le_rfl (by decide +kernel) "small").1

/-- When the inner window closes, the loop goes back to the baseline; the outer one has three more units to
go, and a restart puts its sizes in force. -/
theorem inner_window_ends_outer :
    DistinctFires nested ∧
    (∀ e ∈ nested, (1, 1) = (e.baselineHot, e.baselineWarm)) ∧
    (∀ now, ∀ e ∈ nested, e.Replayable now) ∧
    ∃ st st' active, start nested 9 20 = some st ∧
      Along (step nested) (OnTime nested) st [⟨9, 10⟩, ⟨10, 12⟩, ⟨12, 15⟩] ∧
      run (step nested) st [⟨9, 10⟩, ⟨10, 12⟩, ⟨12, 15⟩] = some st' ∧
      st'.now ≤ 16 ∧ (∀ p ∈ plan nested st'.now st'.active, 16 < p.due) ∧
      replayActiveAtStartup nested 16 20 = some active ∧
      LatestOpen nested 16 "small" (active.get "small") ∧
      selectedSizes (fun _ ↦ (1, 1)) "small" (active.get "small") = (4, 2) ∧
      st'.sizes (fun _ ↦ (1, 1)) "small" = (1, 1) := by
  refine ⟨overlapping_distinct (by decide), overlapping_baseline, overlapping_replayable (by decide), _, _,
    _, rfl, by decide +kernel, rfl, by decide +kernel, by decide +kernel, rfl, ?_, rfl, rfl⟩
  exact latestOpen_of_replay (overlapping_replayable (by decide) 16)
    (show replayActiveAtStartup nested 16 20 = some _ from rfl) "small"

end ScalesetProxmox.Schedule
