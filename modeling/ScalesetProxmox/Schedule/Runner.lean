import Mathlib.Data.Int.Range
import Mathlib.Data.String.Basic
import Mathlib.Tactic.Linarith
import ScalesetProxmox.Store.Schema
import ScalesetProxmox.Transition.Run

/-!
# The schedule runner

A `Runner` drives cron-keyed overrides of the pool's hot and warm sizes. One goroutine replays the
windows that are open at startup and then loops: it reads the clock, picks the single soonest event
(the next fire over all entries, or the next expiry over the open windows), sleeps until then,
reads the clock again and handles that event.

A cron expression is its set of fire times together with a `next` that meets the contract of
`cron.Schedule`: the least fire time strictly after the argument, or the zero time when there is
none within five years. A round of the loop is one step; its label is the pair of clock readings.
The calls of `handleFire` are recorded with the time the round had asked to be woken at.

Every fire is handled once as long as no two entries are due at the same soonest time, every entry
has a next time, and no fire time passes between a wake-up and the next clock reading
(`every_fire_handled_once`). Two entries that share a fire time lose one of the fires
(`shared_fire_lost`).
-/

namespace ScalesetProxmox.Schedule

open Store ScalesetProxmox.Transition

variable {index : ℕ} {due : Time}

/-- The zero value of `time.Time`, which comes before every clock reading. -/
def zeroTime : Time := 0

/-- Five years without their leap days. -/
def fiveYears : Time := 5 * 365 * 24 * 60 * minute

/-- A parsed cron expression in its time zone. -/
structure Cron where
  fires : Time → Bool
  next : Time → Time
  fires_pos : ∀ t, fires t = true → zeroTime < t
  next_spec : ∀ x,
    (next x = zeroTime ∧ ∀ t, x < t → t ≤ x + fiveYears → fires t = false) ∨
      (x < next x ∧ fires (next x) = true ∧ ∀ t, x < t → t < next x → fires t = false)

namespace Cron

variable {cron : Cron} {x t : Time}

theorem fires_next (h : cron.next x ≠ zeroTime) : cron.fires (cron.next x) = true := by
  rcases cron.next_spec x with ⟨hzero, -⟩ | ⟨-, hfires, -⟩
  · exact absurd hzero h
  · exact hfires

theorem lt_next (h : cron.next x ≠ zeroTime) : x < cron.next x := by
  rcases cron.next_spec x with ⟨hzero, -⟩ | ⟨hlt, -⟩
  · exact absurd hzero h
  · exact hlt

/-- No fire time is skipped. -/
theorem next_le (h : cron.next x ≠ zeroTime) (hfires : cron.fires t) (hlt : x < t) :
    cron.next x ≤ t := by
  rcases cron.next_spec x with ⟨hzero, -⟩ | ⟨-, -, hleast⟩
  · exact absurd hzero h
  · by_contra hgt
    simp [hleast t hlt (not_le.mp hgt)] at hfires

end Cron

/-- One resolved schedule, as `NewRunner` accepts it. -/
structure Entry where
  name : String
  profile : String
  cron : Cron
  duration : Time
  hotSize : ℤ
  warmSize : ℤ
  baselineHot : ℤ
  baselineWarm : ℤ
  profile_ne : profile ≠ ""
  duration_pos : 0 < duration

/-- The open window of a profile. -/
structure Activation where
  entry : Entry
  firedAt : Time
  activeUntil : Time

/-- The open windows, one for each profile at most. -/
abbrev Active := Table String Activation fun a ↦ a.entry.profile

/-- A call of the apply function. -/
structure Applied where
  profile : String
  hotSize : ℤ
  warmSize : ℤ
  deriving DecidableEq, Repr

/-- A call of `handleFire` for the entry at `index`, at the wake-up asked for at `due`. -/
structure Call where
  index : ℕ
  due : Time
  woken : Time
  deriving DecidableEq, Repr

structure State where
  now : Time
  active : Active
  applied : List Applied := []
  calls : List Call := []

/-! ## Startup replay -/

/-- The loop that steps `Next` until it passes `now`; `lastFire` is the latest time it has seen. -/
def replayFrom (cron : Cron) (now : Time) : ℕ → Time → Time → Option Time
  | 0, _, _ => none
  | fuel + 1, t, lastFire =>
    if now < t then some lastFire else replayFrom cron now fuel (cron.next t) t

/-- What a product of a `time.Duration` is in its 64 bits. -/
def wrapDuration (d : ℤ) : Time := d.bmod (2 ^ 64)

/-- The point from which the past fires of an entry are looked for. Beyond some 146 years, twice the
duration wraps around and the point lies in the future. -/
def replayStart (e : Entry) (now : Time) : Time := now + wrapDuration (-2 * e.duration)

/-- The most recent fire of the last two durations, or the zero time. -/
def lastFire (e : Entry) (now : Time) (fuel : ℕ) : Option Time :=
  replayFrom e.cron now fuel (e.cron.next (replayStart e now)) zeroTime

/-- The open windows once the entry's last fire is taken into account: a window that is still open
replaces one of the same profile that opened earlier. -/
def Active.replay (active : Active) (e : Entry) (now lastFire : Time) : Active :=
  if lastFire = zeroTime ∨ e.duration ≤ now - lastFire then active
  else
    let a : Activation := { entry := e, firedAt := lastFire, activeUntil := lastFire + e.duration }
    match active.get e.profile with
    | none => active.put a
    | some cur => if cur.firedAt < lastFire then active.put a else active

def replayActiveAtStartup (entries : List Entry) (now : Time) (fuel : ℕ) : Option Active :=
  entries.foldlM (fun active e ↦ (lastFire e now fuel).map (active.replay e now)) Table.empty

/-- The state in which the loop is entered. The source applies the open windows in map order, here
they are applied in profile order. -/
def start (entries : List Entry) (now : Time) (fuel : ℕ) : Option State :=
  (replayActiveAtStartup entries now fuel).map fun active ↦
    { now := now
      active := active
      applied := active.rows.map fun a ↦
        { profile := a.entry.profile, hotSize := a.entry.hotSize, warmSize := a.entry.warmSize } }

/-! ## The loop -/

/-- One turn of the loops that look for the soonest time: a later element has to be strictly before
the one found so far. -/
def sooner {α : Type} (key : α → Time) (which : Option α) (a : α) : Option α :=
  match which with
  | none => some a
  | some b => if key a < key b then some a else some b

/-- The entry with the soonest next cron time and its index, the first of them on a tie. -/
def nextFireAfter (entries : List Entry) (now : Time) : Option (Entry × ℕ) :=
  entries.zipIdx.foldl (sooner fun p ↦ p.1.cron.next now) none

/-- The window that closes the soonest, the first in profile order on a tie. -/
def nextExpiry (active : Active) : Option Activation :=
  active.rows.foldl (sooner fun a ↦ a.activeUntil) none

inductive Event where
  | fire (index : ℕ) (e : Entry)
  | expire (profile : String)

/-- What a round waits for and until when. -/
structure Plan where
  due : Time
  event : Event

/-- The event that a round decides on; a fire goes before an expiry at the same time. -/
def plan (entries : List Entry) (now : Time) (active : Active) : Option Plan :=
  match nextFireAfter entries now, nextExpiry active with
  | none, none => none
  | none, some a => some ⟨a.activeUntil, .expire a.entry.profile⟩
  | some (e, index), none => some ⟨e.cron.next now, .fire index e⟩
  | some (e, index), some a =>
    if a.activeUntil < e.cron.next now then some ⟨a.activeUntil, .expire a.entry.profile⟩
    else some ⟨e.cron.next now, .fire index e⟩

/-- Open the entry's window; apply its sizes unless the window it replaces had the same. -/
def handleFire (e : Entry) (now : Time) (st : State) : State :=
  let changed := match st.active.get e.profile with
    | none => true
    | some cur => cur.entry.hotSize != e.hotSize || cur.entry.warmSize != e.warmSize
  { st with
    active := st.active.put { entry := e, firedAt := now, activeUntil := now + e.duration }
    applied := if changed then st.applied ++ [⟨e.profile, e.hotSize, e.warmSize⟩] else st.applied }

/-- Close the profile's window, unless the wake-up came early, and go back to the baseline. -/
def handleExpire (profile : String) (now : Time) (st : State) : State :=
  match st.active.get profile with
  | none => st
  | some cur =>
    if now < cur.activeUntil then st
    else
      { st with
        active := st.active.erase profile
        applied := st.applied ++ [⟨profile, cur.entry.baselineHot, cur.entry.baselineWarm⟩] }

/-- The two clock readings of a round: before the event is chosen and after the sleep. -/
structure Round where
  read : Time
  woken : Time

/-- One round of the loop. The clock never runs backwards. -/
def step (entries : List Entry) (st : State) (round : Round) : Option State :=
  if st.now ≤ round.read ∧ round.read ≤ round.woken then
    (plan entries round.read st.active).map fun p ↦
      match p.event with
      | .fire index e =>
        { handleFire e round.woken st with
          now := round.woken
          calls := st.calls ++ [⟨index, p.due, round.woken⟩] }
      | .expire profile => { handleExpire profile round.woken st with now := round.woken }
  else none

/-! ## What a round can do -/

variable {entries : List Entry} {st st' : State} {round : Round} {s now : Time} {active : Active}

/-- The effect of a round on the clock and the calls. -/
inductive Stepped (entries : List Entry) (st : State) (round : Round) (st' : State) : Prop
  | fire (due : Time) (index : ℕ) (e : Entry)
      (hplan : plan entries round.read st.active = some ⟨due, .fire index e⟩)
      (hcalls : st'.calls = st.calls ++ [⟨index, due, round.woken⟩])
  | expire (due : Time) (profile : String)
      (hplan : plan entries round.read st.active = some ⟨due, .expire profile⟩)
      (hcalls : st'.calls = st.calls)

@[simp]
theorem handleExpire_calls (profile : String) (now : Time) (st : State) :
    (handleExpire profile now st).calls = st.calls := by
  unfold handleExpire
  split
  · rfl
  · split <;> rfl

theorem stepped_of_step (h : step entries st round = some st') :
    st.now ≤ round.read ∧ round.read ≤ round.woken ∧ st'.now = round.woken ∧
      Stepped entries st round st' := by
  unfold step at h
  split at h
  · next hclock =>
    obtain ⟨⟨due, event⟩, hplan, rfl⟩ := Option.map_eq_some_iff.mp h
    refine ⟨hclock.1, hclock.2, ?_⟩
    cases event with
    | fire index e => exact ⟨rfl, .fire due index e hplan rfl⟩
    | expire profile => exact ⟨rfl, .expire due profile hplan (handleExpire_calls _ _ _)⟩
  · cases h

section Sooner

variable {α : Type} {key : α → Time} {which : Option α} {a b : α}

theorem sooner_ne_none : sooner key which a ≠ none := by
  unfold sooner
  split
  · simp
  · split <;> simp

theorem sooner_spec (h : sooner key which a = some b) :
    (which = some b ∨ a = b) ∧ key b ≤ key a ∧ ∀ c ∈ which, key b ≤ key c := by
  unfold sooner at h
  split at h
  · cases h
    simp
  · split at h
    · next hlt =>
      cases h
      simpa using hlt.le
    · next hge =>
      cases h
      simpa using not_lt.mp hge

/-- The loop ends with one of the elements, and with none that another is before. -/
theorem foldl_sooner_spec {l : List α} (h : l.foldl (sooner key) which = some b) :
    (which = some b ∨ b ∈ l) ∧ (∀ a ∈ l, key b ≤ key a) ∧ ∀ c ∈ which, key b ≤ key c := by
  induction l generalizing which with
  | nil =>
    cases h
    simp
  | cons a l ih =>
    obtain ⟨hmem, hle, hkept⟩ := ih h
    obtain ⟨d, hd⟩ := Option.ne_none_iff_exists'.mp (@sooner_ne_none α key which a)
    obtain ⟨hfrom, hda, hdc⟩ := sooner_spec hd
    have hbd := hkept d hd
    refine ⟨?_, List.forall_mem_cons.mpr ⟨hbd.trans hda, hle⟩, fun c hc ↦ hbd.trans (hdc c hc)⟩
    rcases hmem with hb | hb
    · exact (sooner_spec hb).1.imp_right fun hab ↦ List.mem_cons.mpr (.inl hab.symm)
    · exact .inr (List.mem_cons_of_mem a hb)

theorem foldl_sooner_eq_none {l : List α} (h : l.foldl (sooner key) which = none) :
    which = none ∧ l = [] := by
  induction l generalizing which with
  | nil => exact ⟨h, rfl⟩
  | cons a l ih => exact absurd (ih h).1 sooner_ne_none

end Sooner

variable {e : Entry}

/-- The chosen entry is due no later than any other. -/
theorem nextFireAfter_spec (h : nextFireAfter entries now = some (e, index)) :
    entries[index]? = some e ∧ ∀ other ∈ entries, e.cron.next now ≤ other.cron.next now := by
  obtain ⟨hmem, hle, -⟩ := foldl_sooner_spec h
  refine ⟨List.mem_zipIdx_iff_getElem?.mp (hmem.resolve_left (by simp)), ?_⟩
  intro other hother
  obtain ⟨i, hi⟩ := List.mem_iff_getElem?.mp hother
  exact hle (other, i) (List.mem_zipIdx_iff_getElem?.mpr hi)

theorem nextFireAfter_eq_none (h : nextFireAfter entries now = none) : entries = [] := by
  simpa using (foldl_sooner_eq_none h).2

/-- A planned fire is the next time of its entry, and no entry is due before it. -/
theorem plan_fire (h : plan entries now active = some ⟨due, .fire index e⟩) :
    entries[index]? = some e ∧ due = e.cron.next now ∧
      ∀ other ∈ entries, due ≤ other.cron.next now := by
  unfold plan at h
  split at h
  · cases h
  · cases h
  · next hnext _ =>
    cases h
    exact ⟨(nextFireAfter_spec hnext).1, rfl, (nextFireAfter_spec hnext).2⟩
  · next hnext _ =>
    split at h
    · cases h
    · cases h
      exact ⟨(nextFireAfter_spec hnext).1, rfl, (nextFireAfter_spec hnext).2⟩

/-- A planned expiry comes before the next time of every entry. -/
theorem plan_expire {profile : String} (h : plan entries now active = some ⟨due, .expire profile⟩) :
    ∀ other ∈ entries, due < other.cron.next now := by
  unfold plan at h
  split at h
  · cases h
  · next hnext _ => simp [nextFireAfter_eq_none hnext]
  · cases h
  · next hnext _ =>
    split at h
    · next hlt =>
      cases h
      exact fun other hother ↦ hlt.trans_le ((nextFireAfter_spec hnext).2 other hother)
    · cases h

/-! ## Startup ends -/

section Startup

variable {cron : Cron} {start last t : Time}

/-- The latest fire after `start` and up to `now`, or the zero time. -/
def IsLastFire (cron : Cron) (start now last : Time) : Prop :=
  last = zeroTime ∧ (∀ t, start < t → t ≤ now → cron.fires t = false) ∨
    start < last ∧ last ≤ now ∧ cron.fires last = true ∧ ∀ t, last < t → t ≤ now → cron.fires t = false

theorem replayFrom_succ {fuel : ℕ} (h : replayFrom cron now fuel t last = some start) :
    replayFrom cron now (fuel + 1) t last = some start := by
  induction fuel generalizing t last with
  | zero => cases h
  | succ fuel ih =>
    unfold replayFrom at h ⊢
    split at h
    · next hlt => rw [if_pos hlt, h]
    · next hle => rw [if_neg hle, ih h]

theorem replayFrom_mono {fuel more : ℕ} (hle : fuel ≤ more)
    (h : replayFrom cron now fuel t last = some start) :
    replayFrom cron now more t last = some start := by
  induction more, hle using Nat.le_induction with
  | base => exact h
  | succ more _ ih => exact replayFrom_succ ih

/-- Where the walk stands between two calls of `Next`: `x` is the point of the last call, the start or the
latest fire seen. -/
def Walked (cron : Cron) (start x last : Time) : Prop :=
  x = start ∧ last = zeroTime ∨ start < x ∧ cron.fires x = true ∧ last = x

/-- The walk has passed the clock: no fire lies between `x` and its next time. -/
theorem Walked.isLastFire {x : Time} (h : Walked cron start x last) (hnow : x ≤ now)
    (hne : cron.next x ≠ zeroTime) (hpast : now < cron.next x) : IsLastFire cron start now last := by
  have hnone (t : Time) (hxt : x < t) (htn : t ≤ now) : cron.fires t = false := by
    by_contra hfires
    have hle := Cron.next_le hne (Bool.eq_true_of_not_eq_false hfires) hxt
    exact absurd (hpast.trans_le hle) (not_lt.mpr htn)
  rcases h with ⟨rfl, rfl⟩ | ⟨hstart, hfires, rfl⟩
  · exact .inl ⟨rfl, hnone⟩
  · exact .inr ⟨hstart, hnow, hfires, hnone⟩

theorem exists_replayFrom
    (hnext : ∀ x, start ≤ x → x ≤ now → x = start ∨ cron.fires x = true → cron.next x ≠ zeroTime)
    {fuel : ℕ} {x : Time} (hwalked : Walked cron start x last) (hstart : start ≤ x) (hnow : x ≤ now)
    (hfuel : now - x ≤ fuel) :
    ∃ r, replayFrom cron now (fuel + 1) (cron.next x) last = some r ∧ IsLastFire cron start now r := by
  -- every fire takes the walk at least one unit of time on
  induction fuel generalizing x last with
  | zero =>
    have hne : cron.next x ≠ zeroTime := hnext x hstart hnow (hwalked.imp (·.1) (·.2.1))
    have hpast : now < cron.next x := by
      have hlt := Cron.lt_next hne
      push_cast at hfuel
      linarith
    exact ⟨last, by rw [replayFrom, if_pos hpast], hwalked.isLastFire hnow hne hpast⟩
  | succ fuel ih =>
    have hne : cron.next x ≠ zeroTime := hnext x hstart hnow (hwalked.imp (·.1) (·.2.1))
    have hlt : x + 1 ≤ cron.next x := Cron.lt_next hne
    rw [replayFrom]
    split
    · next hpast => exact ⟨last, rfl, hwalked.isLastFire hnow hne hpast⟩
    · next hle =>
      push_cast at hfuel
      apply ih
      · exact .inr ⟨by linarith, Cron.fires_next hne, rfl⟩
      · linarith
      · exact not_lt.mp hle
      · linarith

/-- The point that the walk sets out from. Where `Next` has no answer at the start, it answers the zero
time, which the loop takes for a fire that has passed. -/
def Entry.walkFrom (e : Entry) (now : Time) : Time :=
  if e.cron.next (replayStart e now) = zeroTime then zeroTime else replayStart e now

/-- `Next` has an answer at every point of the walk: where it sets out and at each fire on the way. -/
def Entry.Walkable (e : Entry) (now : Time) : Prop :=
  ∀ x, e.walkFrom now ≤ x → x ≤ now → x = e.walkFrom now ∨ e.cron.fires x = true →
    e.cron.next x ≠ zeroTime

/-- An entry whose walk sets out after the clock has nothing to look at. -/
theorem lastFire_of_lt (h : now < e.walkFrom now) (fuel : ℕ) :
    lastFire e now (fuel + 1) = some zeroTime := by
  have hpast : now < e.cron.next (replayStart e now) := by
    unfold Entry.walkFrom at h
    split at h
    · next hzero => rwa [hzero]
    · next hne => exact h.trans (Cron.lt_next hne)
  rw [lastFire, replayFrom, if_pos hpast]

theorem lastFire_of_replayFrom {r : Time} {fuel : ℕ} (hseen : e.walkFrom now ≤ now)
    (h : replayFrom e.cron now fuel (e.cron.next (e.walkFrom now)) zeroTime = some r) :
    lastFire e now (fuel + 1) = some r := by
  unfold lastFire
  by_cases hzero : e.cron.next (replayStart e now) = zeroTime
  · rw [Entry.walkFrom, if_pos hzero] at hseen h
    rwa [hzero, replayFrom, if_neg (not_lt.mpr hseen)]
  · rw [Entry.walkFrom, if_neg hzero] at h
    exact replayFrom_succ h

/-- The entry's loop ends, at the latest fire of the walk. -/
theorem exists_lastFire (h : e.Walkable now) :
    ∃ r fuel, (∀ more ≥ fuel, lastFire e now more = some r) ∧
      IsLastFire e.cron (e.walkFrom now) now r := by
  by_cases hseen : e.walkFrom now ≤ now
  · obtain ⟨r, hr, hlast⟩ := exists_replayFrom h (.inl ⟨rfl, rfl⟩) le_rfl hseen (Int.self_le_toNat _)
    exact ⟨r, _, fun more hmore ↦ replayFrom_mono hmore (lastFire_of_replayFrom hseen hr), hlast⟩
  · have hlt := not_le.mp hseen
    refine ⟨zeroTime, 1, fun more hmore ↦ replayFrom_mono hmore (lastFire_of_lt hlt 0), .inl ⟨rfl, ?_⟩⟩
    exact fun t ht hnow ↦ absurd (ht.trans_le hnow) (not_lt.mpr hlt.le)

/-- The replay ends, and what holds of the open windows before and is kept by each entry's last fire
holds of them at the end. -/
theorem exists_replay {P : List Entry → Active → Prop} (hentries : ∀ e ∈ entries, e.Walkable now)
    (hstep : ∀ done e active r, e ∈ entries → IsLastFire e.cron (e.walkFrom now) now r →
      P done active → P (done ++ [e]) (active.replay e now r))
    (hnil : P [] Table.empty) :
    ∃ active : Active, ∃ fuel, (∀ more ≥ fuel, replayActiveAtStartup entries now more = some active) ∧
      P entries active := by
  suffices h : ∀ rest ⊆ entries, ∀ done active, P done active → ∃ after : Active, ∃ fuel,
      (∀ more ≥ fuel, rest.foldlM (fun active e ↦ (lastFire e now more).map (active.replay e now)) active =
        some after) ∧ P (done ++ rest) after by
    exact h entries (List.Subset.refl _) [] Table.empty hnil
  intro rest hrest
  induction rest with
  | nil => exact fun done active h ↦ ⟨active, 0, fun _ _ ↦ rfl, by simpa using h⟩
  | cons e rest ih =>
    intro done active h
    obtain ⟨he, hrest⟩ := List.cons_subset.mp hrest
    obtain ⟨r, fuel, hr, hlast⟩ := exists_lastFire (hentries e he)
    obtain ⟨after, bound, hafter, hP⟩ := ih hrest _ _ (hstep done e active r he hlast h)
    refine ⟨after, max fuel bound, fun more hmore ↦ ?_, by simpa using hP⟩
    rw [List.foldlM_cons, hr more (le_of_max_le_left hmore)]
    exact hafter more (le_of_max_le_right hmore)

/-- When every entry has a next time from every point up to now, the replay ends. -/
theorem start_terminates (hnext : ∀ e ∈ entries, ∀ x ≤ now, e.cron.next x ≠ zeroTime) :
    ∃ fuel st, Schedule.start entries now fuel = some st := by
  have hentries (e : Entry) (he : e ∈ entries) : e.Walkable now := fun x _ hx _ ↦ hnext e he x hx
  obtain ⟨active, fuel, hactive, -⟩ :=
    @exists_replay _ _ (fun _ _ ↦ True) hentries (fun _ _ _ _ _ _ _ ↦ trivial) trivial
  exact ⟨fuel, _, by rw [Schedule.start, hactive fuel le_rfl]; rfl⟩

end Startup

/-! ## Every fire is handled once -/

/-- The clock wakes the round no earlier than asked, and before any other fire time. -/
def Punctual (entries : List Entry) (st : State) (round : Round) (_ : State) : Prop :=
  ∀ p ∈ plan entries round.read st.active, p.due ≤ round.woken ∧
    ∀ e ∈ entries, ∀ t, round.read < t → t ≤ round.woken → e.cron.fires t = true → t = p.due

instance (st : State) (round : Round) (st' : State) : Decidable (Punctual entries st round st') :=
  inferInstanceAs (Decidable (∀ p ∈ plan entries round.read st.active, p.due ≤ round.woken ∧
    ∀ e ∈ entries, ∀ t : ℤ, round.read < t → t ≤ round.woken → e.cron.fires t = true → t = p.due))

/-- No fire time passes before the clock is read, every entry has a next time, and no two entries
are due together at the time that the round waits for. -/
def Undisturbed (entries : List Entry) (st : State) (round : Round) (_ : State) : Prop :=
  (∀ e ∈ entries, ∀ t, st.now < t → t ≤ round.read → e.cron.fires t = false) ∧
    (∀ e ∈ entries, e.cron.next round.read ≠ zeroTime) ∧
    ∀ p ∈ plan entries round.read st.active,
      entries.Pairwise fun a b ↦ a.cron.next round.read = p.due → b.cron.next round.read ≠ p.due

instance (st : State) (round : Round) (st' : State) : Decidable (Undisturbed entries st round st') :=
  inferInstanceAs (Decidable (
    (∀ e ∈ entries, ∀ t : ℤ, st.now < t → t ≤ round.read → e.cron.fires t = false) ∧
      (∀ e ∈ entries, e.cron.next round.read ≠ zeroTime) ∧
      ∀ p ∈ plan entries round.read st.active,
        entries.Pairwise fun a b ↦
          a.cron.next round.read = p.due → b.cron.next round.read ≠ p.due))

/-- The number of times `handleFire` has been called for the entry at `index` and its time `t`. -/
def State.fired (st : State) (index : ℕ) (t : Time) : ℕ :=
  st.calls.countP fun c ↦ c.index = index ∧ c.due = t

/-- Every fire time after the start has been handled once, and nothing else has been handled. -/
structure Handled (entries : List Entry) (s : Time) (st : State) : Prop where
  once : ∀ index e, entries[index]? = some e → ∀ t, e.cron.fires t = true → s < t → t ≤ st.now →
    st.fired index t = 1
  genuine : ∀ c ∈ st.calls, ∃ e, entries[c.index]? = some e ∧ e.cron.fires c.due = true ∧
    s < c.due ∧ c.due ≤ c.woken ∧ c.woken ≤ st.now

theorem handled_start {fuel : ℕ} (h : start entries s fuel = some st) : Handled entries s st := by
  obtain ⟨active, -, rfl⟩ := Option.map_eq_some_iff.mp h
  refine ⟨fun index e _ t _ hs hnow ↦ ?_, by simp⟩
  exact absurd (hs.trans_le hnow) (lt_irrefl s)

theorem Handled.fired_eq_zero (h : Handled entries s st) {t : Time} (ht : st.now < t) (index : ℕ) :
    st.fired index t = 0 := by
  rw [State.fired, List.countP_eq_zero]
  intro c hc hmatch
  obtain ⟨e, -, -, -, hdue, hwoken⟩ := h.genuine c hc
  have hc : c.due = t := (of_decide_eq_true hmatch).2
  linarith

/-- A fire time that the round runs over is the one that it has waited for. -/
theorem eq_due_of_fires {event : Event} (hpunctual : Punctual entries st round st')
    (hundisturbed : Undisturbed entries st round st')
    (hplan : plan entries round.read st.active = some ⟨due, event⟩) (he : e ∈ entries) {t : Time}
    (hfires : e.cron.fires t) (hnow : st.now < t) (hwoken : t ≤ round.woken) :
    t = due ∧ round.read < t ∧ e.cron.next round.read ≤ due := by
  have hread : round.read < t := by
    by_contra hle
    simp [hundisturbed.1 e he t hnow (not_lt.mp hle)] at hfires
  have hdue : t = due := (hpunctual _ hplan).2 e he t hread hwoken hfires
  exact ⟨hdue, hread, hdue ▸ Cron.next_le (hundisturbed.2.1 e he) hfires hread⟩

/-- Two entries with the soonest time are one. -/
theorem index_unique {event : Event} (hundisturbed : Undisturbed entries st round st')
    (hplan : plan entries round.read st.active = some ⟨due, event⟩) {i j : ℕ} {a b : Entry}
    (hi : entries[i]? = some a) (hj : entries[j]? = some b) (ha : a.cron.next round.read = due)
    (hb : b.cron.next round.read = due) : i = j := by
  have hpairwise := List.pairwise_iff_getElem.mp (hundisturbed.2.2 _ hplan)
  obtain ⟨hilt, rfl⟩ := List.getElem?_eq_some_iff.mp hi
  obtain ⟨hjlt, rfl⟩ := List.getElem?_eq_some_iff.mp hj
  rcases lt_trichotomy i j with h | h | h
  · exact absurd hb (hpairwise i j hilt hjlt h ha)
  · exact h
  · exact absurd ha (hpairwise j i hjlt hilt h hb)

theorem handled_fire (h : Handled entries s st) (hs : s ≤ st.now)
    (hpunctual : Punctual entries st round st') (hundisturbed : Undisturbed entries st round st')
    (hread : st.now ≤ round.read) (hwoken : round.read ≤ round.woken) (hnow : st'.now = round.woken)
    (hplan : plan entries round.read st.active = some ⟨due, .fire index e⟩)
    (hcalls : st'.calls = st.calls ++ [⟨index, due, round.woken⟩]) : Handled entries s st' := by
  obtain ⟨hindex, hdue, hsoonest⟩ := plan_fire hplan
  have he : e ∈ entries := List.mem_of_getElem? hindex
  have hlt : round.read < due := hdue ▸ Cron.lt_next (hundisturbed.2.1 e he)
  have hfired : ∀ i t, st'.fired i t = st.fired i t + if index = i ∧ due = t then 1 else 0 := by
    intro i t
    simp [State.fired, hcalls, List.countP_append, List.countP_singleton]
  refine ⟨?_, ?_⟩
  · intro i other hi t hfires hst ht
    rw [hfired]
    by_cases hold : t ≤ st.now
    · have hne : due ≠ t := by
        rintro rfl
        linarith
      simp [h.once i other hi t hfires hst hold, hne]
    · -- the time lies in the round, so it is the requested one and only this entry is due then
      have hother : other ∈ entries := List.mem_of_getElem? hi
      obtain ⟨rfl, -, hle⟩ := eq_due_of_fires hpunctual hundisturbed hplan hother hfires
        (not_le.mp hold) (hnow ▸ ht)
      have hsame : index = i := index_unique hundisturbed hplan hindex hi hdue.symm
        (le_antisymm hle (hsoonest other hother))
      simp [h.fired_eq_zero (not_le.mp hold), hsame]
  · intro c hc
    rw [hcalls, List.mem_append, List.mem_singleton] at hc
    rcases hc with hc | rfl
    · obtain ⟨other, hother, hfires, hst, hle, hw⟩ := h.genuine c hc
      exact ⟨other, hother, hfires, hst, hle, by linarith⟩
    · refine ⟨e, hindex, hdue ▸ Cron.fires_next (hundisturbed.2.1 e he), ?_, ?_, hnow.ge⟩
      · exact hs.trans_lt (hread.trans_lt hlt)
      · exact (hpunctual _ hplan).1

theorem handled_expire (h : Handled entries s st) (hpunctual : Punctual entries st round st')
    (hundisturbed : Undisturbed entries st round st') (hread : st.now ≤ round.read)
    (hwoken : round.read ≤ round.woken) (hnow : st'.now = round.woken) {profile : String}
    (hplan : plan entries round.read st.active = some ⟨due, .expire profile⟩)
    (hcalls : st'.calls = st.calls) : Handled entries s st' := by
  refine ⟨?_, ?_⟩
  · intro i other hi t hfires hst ht
    rw [State.fired, hcalls]
    by_cases hold : t ≤ st.now
    · exact h.once i other hi t hfires hst hold
    · have hother : other ∈ entries := List.mem_of_getElem? hi
      have hle := (eq_due_of_fires hpunctual hundisturbed hplan hother hfires
        (not_le.mp hold) (hnow ▸ ht)).2.2
      exact absurd (plan_expire hplan other hother) (not_lt.mpr hle)
  · intro c hc
    obtain ⟨other, hother, hfires, hst, hle, hw⟩ := h.genuine c (hcalls ▸ hc)
    exact ⟨other, hother, hfires, hst, hle, by linarith⟩

theorem handled_step (h : Handled entries s st) (hs : s ≤ st.now)
    (hpunctual : Punctual entries st round st') (hundisturbed : Undisturbed entries st round st')
    (hstep : step entries st round = some st') : Handled entries s st' ∧ s ≤ st'.now := by
  obtain ⟨hread, hwoken, hnow, hstepped⟩ := stepped_of_step hstep
  refine ⟨?_, by linarith⟩
  cases hstepped with
  | fire due index e hplan hcalls =>
    exact handled_fire h hs hpunctual hundisturbed hread hwoken hnow hplan hcalls
  | expire due profile hplan hcalls =>
    exact handled_expire h hpunctual hundisturbed hread hwoken hnow hplan hcalls

/-- From any start at which every entry has had next times so far, the runner gets to its loop; and
in every run with a punctual clock whose rounds are undisturbed, every fire time since the start
has been handled exactly once, and nothing else has been handled. -/
theorem every_fire_handled_once (entries : List Entry) (s : Time)
    (hnext : ∀ e ∈ entries, ∀ x ≤ s, e.cron.next x ≠ zeroTime) :
    (∃ fuel st, start entries s fuel = some st) ∧
      ∀ fuel st rounds st', start entries s fuel = some st →
        Along (step entries) (Punctual entries) st rounds →
        Along (step entries) (Undisturbed entries) st rounds →
        run (step entries) st rounds = some st' → Handled entries s st' := by
  refine ⟨start_terminates hnext, ?_⟩
  intro fuel st rounds st' hstart hpunctual hundisturbed hrun
  have hboth := along_and.mpr ⟨hpunctual, hundisturbed⟩
  have hnow : s ≤ st.now := by
    obtain ⟨active, -, rfl⟩ := Option.map_eq_some_iff.mp hstart
    exact le_rfl
  exact (invariant_of_along (fun st ↦ Handled entries s st ∧ s ≤ st.now)
    (fun _ _ _ h hC hstep ↦ handled_step h.1 h.2 hC.1 hC.2 hstep)
    ⟨handled_start hstart, hnow⟩ hboth hrun).1

/-! ### Two small schedules -/

/-- The least positive time after `x` that is `offset` modulo ten. -/
def nextTen (offset : Fin 10) (x : ℤ) : ℤ := max x 0 + 1 + (offset - (max x 0 + 1)) % 10

theorem nextTen_spec (offset : Fin 10) (x : ℤ) :
    x < nextTen offset x ∧ 0 < nextTen offset x ∧ nextTen offset x % 10 = offset ∧
      ∀ t, x < t → t < nextTen offset x → ¬(0 < t ∧ t % 10 = offset) := by
  have hoffset := offset.isLt
  unfold nextTen
  refine ⟨by omega, by omega, by omega, ?_⟩
  intro t ht hlt hfires
  omega

/-- An expression that fires whenever the time is `offset` modulo ten. -/
def everyTen (offset : Fin 10) : Cron where
  fires t := decide (0 < t ∧ t % 10 = offset)
  next := nextTen offset
  fires_pos _ ht := (of_decide_eq_true ht).1
  next_spec x := by
    obtain ⟨hlt, hpos, hmod, hleast⟩ := nextTen_spec offset x
    exact .inr ⟨hlt, decide_eq_true ⟨hpos, hmod⟩, fun t ht h ↦ decide_eq_false (hleast t ht h)⟩

/-- The expression of the multiples of ten. -/
def everyTenth : Cron := everyTen 0

theorem everyTen_next_ne (offset : Fin 10) (x : Time) : (everyTen offset).next x ≠ zeroTime :=
  (nextTen_spec offset x).2.1.ne'

def peak : Entry where
  name := "peak"
  profile := "small"
  cron := everyTen 0
  duration := 3
  hotSize := 4
  warmSize := 2
  baselineHot := 1
  baselineWarm := 1
  profile_ne := by decide
  duration_pos := by decide

/-- The entries of two profiles; the second one fires `offset` after the first. -/
def shifted (offset : Fin 10) : List Entry :=
  [ peak,
    { name := "peak", profile := "large", cron := everyTen offset, duration := 3,
      hotSize := 2, warmSize := 1, baselineHot := 0, baselineWarm := 0,
      profile_ne := by decide, duration_pos := by decide } ]

/-- With fire times five apart the loop goes through both fires and both expiries. -/
theorem every_fire_handled_once_shifted :
    ∃ st st', start (shifted 5) 2 10 = some st ∧
      run (step (shifted 5)) st [⟨2, 5⟩, ⟨5, 8⟩, ⟨8, 11⟩, ⟨11, 14⟩] = some st' ∧
      st'.fired 0 10 = 1 ∧ st'.fired 1 5 = 1 ∧
      Handled (shifted 5) 2 st' := by
  have hnext : ∀ e ∈ shifted 5, ∀ x ≤ 2, e.cron.next x ≠ zeroTime := by
    intro e he x _
    simp only [shifted, List.mem_cons, List.not_mem_nil, or_false] at he
    rcases he with rfl | rfl <;> exact everyTen_next_ne _ _
  refine ⟨_, _, rfl, rfl, by decide +kernel, by decide +kernel, ?_⟩
  exact (every_fire_handled_once _ 2 hnext).2 10 _ [⟨2, 5⟩, ⟨5, 8⟩, ⟨8, 11⟩, ⟨11, 14⟩] _ rfl
    (by decide +kernel) (by decide +kernel) rfl

/-- Two profiles whose entries fire at the same time: the round handles the first entry's fire and
the next one looks strictly after it, so the second entry's fire is never handled. -/
theorem shared_fire_lost :
    ∃ st st', start (shifted 0) 2 10 = some st ∧
      Along (step (shifted 0)) (Punctual (shifted 0)) st
        [⟨2, 10⟩, ⟨10, 13⟩, ⟨13, 20⟩] ∧
      run (step (shifted 0)) st [⟨2, 10⟩, ⟨10, 13⟩, ⟨13, 20⟩] = some st' ∧
      st'.fired 0 10 = 1 ∧ st'.fired 1 10 = 0 ∧ ¬Handled (shifted 0) 2 st' := by
  refine ⟨_, _, rfl, by decide +kernel, rfl, by decide +kernel, by decide +kernel, ?_⟩
  intro h
  have honce := h.once 1 _ rfl 10 (by decide +kernel) (by decide +kernel) (by decide +kernel)
  exact absurd honce (by decide +kernel)

end ScalesetProxmox.Schedule
