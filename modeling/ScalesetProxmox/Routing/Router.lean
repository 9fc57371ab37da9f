import ScalesetProxmox.Config.Scalesets
import ScalesetProxmox.Selection.First
import ScalesetProxmox.Selection.Named
import Mathlib.Data.Finset.Card

/-!
# Routing jobs to profiles

`internal/router/router.go`: a job goes to the profile that has all of its labels and the fewest others,
the earlier one of two that are equal. `Route` does not count the other labels but compares the number
of the profile's labels with the length of the job's list, and clamps the difference at zero. When the
list repeats a label the difference can be clamped for two profiles of different size, and the earlier
one is taken for as tight as the other. `route_tightest_iff` says that this is the only way to miss the
tightest profile.
-/

namespace ScalesetProxmox.Routing

open ScalesetProxmox.Configuration (map_eq_ok)
open Selection
open Text (quote)

structure Profile where
  name : String
  labels : List String
  deriving DecidableEq, Repr

structure NormalisedProfile where
  name : String
  labels : Finset String
  labelsRaw : List String
  deriving DecidableEq

structure Router where
  profiles : List NormalisedProfile
  deriving DecidableEq

def Profile.normalise (p : Profile) : NormalisedProfile where
  name := p.name
  labels := p.labels.toFinset
  labelsRaw := p.labels

def new (profiles : List Profile) : Except String Router :=
  (takeNamed Profile.name (fun i ↦ s!"router: profiles[{i}].name is required")
    (fun name ↦ s!"router: duplicate profile name {quote name}") Profile.normalise 0 [] [] profiles).map
    Router.mk

def errNoMatchingProfile : String := "router: no matching profile"

def containsAll (haveSet : Finset String) (want : List String) : Bool := want.all (· ∈ haveSet)

/-- The count that `Route` compares. -/
def clampedExtra (jobLabels : List String) (p : NormalisedProfile) : ℤ :=
  max ((p.labels.card : ℤ) - jobLabels.length) 0

/-- There is no profile to choose from without a router. -/
def route (r : Option Router) (jobLabels : List String) : Except String String :=
  match r with
  | none => .error errNoMatchingProfile
  | some r =>
    match leader (fun p ↦ containsAll p.labels jobLabels) (clampedExtra jobLabels) r.profiles with
    | none => .error errNoMatchingProfile
    | some best => .ok best.name

/-! ## Construction -/

/-- A router has the declared profiles, under different names. -/
theorem new_eq_ok {profiles : List Profile} {r : Router} (h : new profiles = .ok r) :
    r.profiles = profiles.map Profile.normalise ∧ (profiles.map Profile.name).Nodup := by
  obtain ⟨made, hmade, rfl⟩ := map_eq_ok.mp h
  obtain ⟨rfl, _, hnodup⟩ := takeNamed_eq_ok hmade
  exact ⟨rfl, hnodup⟩

/-! ## The tightest profile -/

variable {profiles : List Profile} {r : Router} {jobLabels : List String} {p q : Profile}

def Profile.Covers (jobLabels : List String) (p : Profile) : Prop := ∀ label ∈ jobLabels, label ∈ p.labels

instance decidableCovers : Decidable (p.Covers jobLabels) :=
  inferInstanceAs (Decidable (∀ label ∈ jobLabels, label ∈ p.labels))

/-- The number of labels that the job did not ask for. -/
def Profile.extra (jobLabels : List String) (p : Profile) : ℕ :=
  (p.labels.toFinset \ jobLabels.toFinset).card

def Profile.size (p : Profile) : ℕ := p.labels.toFinset.card

/-- The name is that of the earliest of the profiles that cover the job with the fewest extra labels. -/
def Tightest (profiles : List Profile) (jobLabels : List String) (name : String) : Prop :=
  ∃ before p after, profiles = before ++ p :: after ∧ p.name = name ∧ p.Covers jobLabels ∧
    (∀ q ∈ before, q.Covers jobLabels → p.extra jobLabels < q.extra jobLabels) ∧
    ∀ q ∈ after, q.Covers jobLabels → p.extra jobLabels ≤ q.extra jobLabels

/-- The first of the covering profiles that have no more labels than the job's list has entries is larger
than a later one. -/
def Blurred (profiles : List Profile) (jobLabels : List String) : Prop :=
  ∃ before p after, profiles = before ++ p :: after ∧ p.Covers jobLabels ∧ p.size ≤ jobLabels.length ∧
    (∀ q ∈ before, q.Covers jobLabels → jobLabels.length < q.size) ∧
    ∃ q ∈ after, q.Covers jobLabels ∧ q.size < p.size

theorem size_eq_extra_add (h : p.Covers jobLabels) :
    p.size = p.extra jobLabels + jobLabels.toFinset.card := by
  have hsubset : jobLabels.toFinset ⊆ p.labels.toFinset := by
    intro label hlabel
    exact List.mem_toFinset.mpr (h label (List.mem_toFinset.mp hlabel))
  exact (Finset.card_sdiff_add_card_eq_card hsubset).symm

/-- Without repetitions every covering profile has at least as many labels as the list has entries. -/
theorem not_blurred_of_nodup (h : jobLabels.Nodup) : ¬Blurred profiles jobLabels := by
  rintro ⟨before, p, after, rfl, _, hle, _, q, _, hq, hlt⟩
  have hsize := size_eq_extra_add hq
  rw [List.toFinset_card_of_nodup h] at hsize
  omega

theorem clampedExtra_normalise (jobLabels : List String) (p : Profile) :
    clampedExtra jobLabels p.normalise = max ((p.size : ℤ) - jobLabels.length) 0 := rfl

theorem containsAll_normalise (jobLabels : List String) (p : Profile) :
    containsAll p.normalise.labels jobLabels = decide (p.Covers jobLabels) := by
  rw [Bool.eq_iff_iff, decide_eq_true_eq, containsAll, List.all_eq_true]
  simp only [decide_eq_true_eq, Profile.normalise, List.mem_toFinset, Profile.Covers]

/-- The profile that `Route` chooses. -/
def chosen (profiles : List Profile) (jobLabels : List String) : Option Profile :=
  leader (fun p ↦ p.Covers jobLabels) (fun p ↦ clampedExtra jobLabels p.normalise) profiles

/-- The profile that it should choose. -/
def tightest (profiles : List Profile) (jobLabels : List String) : Option Profile :=
  leader (fun p ↦ p.Covers jobLabels) (Profile.extra jobLabels) profiles

theorem route_eq (h : new profiles = .ok r) :
    route (some r) jobLabels = match chosen profiles jobLabels with
      | none => .error errNoMatchingProfile
      | some best => .ok best.name := by
  have hchosen : leader (fun p ↦ containsAll p.labels jobLabels) (clampedExtra jobLabels) r.profiles =
      (chosen profiles jobLabels).map Profile.normalise := by
    rw [(new_eq_ok h).1, leader_map, chosen]
    congr 2
    funext p
    exact containsAll_normalise jobLabels p
  rw [route, hchosen]
  cases chosen profiles jobLabels <;> rfl

theorem tightest_iff {name : String} :
    Tightest profiles jobLabels name ↔ ∃ p, tightest profiles jobLabels = some p ∧ p.name = name := by
  simp only [tightest, leader_eq_some_iff, decide_eq_true_eq]
  constructor
  · rintro ⟨before, p, after, hsplit, hname, hbest⟩
    exact ⟨p, ⟨before, after, hsplit, hbest⟩, hname⟩
  · rintro ⟨p, ⟨before, after, hsplit, hbest⟩, hname⟩
    exact ⟨before, p, after, hsplit, hname, hbest⟩

theorem extra_le_iff (hp : p.Covers jobLabels) (hq : q.Covers jobLabels) :
    p.extra jobLabels ≤ q.extra jobLabels ↔ p.size ≤ q.size := by
  rw [size_eq_extra_add hp, size_eq_extra_add hq, Nat.add_le_add_iff_right]

/-- The clamped count tells a larger profile from a smaller one when it is not zero for both. -/
theorem tightest_eq_of_not_blurred (hclear : ¬Blurred profiles jobLabels)
    (h : chosen profiles jobLabels = some p) : tightest profiles jobLabels = some p := by
  obtain ⟨before, after, hsplit, hp, hbefore, hafter⟩ := leader_eq_some_iff.mp h
  simp only [decide_eq_true_eq, clampedExtra_normalise] at hp hbefore hafter
  apply leader_eq_some_iff.mpr
  simp only [decide_eq_true_eq]
  refine ⟨before, after, hsplit, hp, fun q hmem hq ↦ ?_, fun q hmem hq ↦ ?_⟩
  · have hlt := hbefore q hmem hq
    rw [← not_le, extra_le_iff hq hp]
    omega
  · rw [extra_le_iff hp hq]
    by_contra hlt
    have hle := hafter q hmem hq
    -- both counts are zero, and `p` is the first profile of which that is so
    refine hclear ⟨before, p, after, hsplit, hp, by omega, fun other hother hcovers ↦ ?_, q, hmem, hq,
      not_le.mp hlt⟩
    have hother := hbefore other hother hcovers
    omega

theorem chosen_eq_tightest_iff :
    chosen profiles jobLabels = tightest profiles jobLabels ↔ ¬Blurred profiles jobLabels := by
  constructor
  · rintro heq ⟨before, p, after, hsplit, hp, hle, hbefore, q, hmem, hq, hlt⟩
    have hchosen : chosen profiles jobLabels = some p := by
      apply leader_eq_some_iff.mpr
      simp only [decide_eq_true_eq, clampedExtra_normalise]
      refine ⟨before, after, hsplit, hp, fun other hother hcovers ↦ ?_, fun other _ _ ↦ ?_⟩
      · have hlarge := hbefore other hother hcovers
        omega
      · omega
    have hq' : q ∈ profiles := by
      rw [hsplit]
      exact List.mem_append_right _ (List.mem_cons_of_mem _ hmem)
    have hextra := leader_le (heq.symm.trans hchosen) hq' (decide_eq_true hq)
    exact not_le.mpr hlt ((extra_le_iff hp hq).mp hextra)
  · intro hclear
    cases hchosen : chosen profiles jobLabels with
    | none => exact (leader_eq_none_iff.mpr (leader_eq_none_iff.mp hchosen)).symm
    | some p => exact (tightest_eq_of_not_blurred hclear hchosen).symm

theorem route_eq_ok_iff (h : new profiles = .ok r) {name : String} :
    route (some r) jobLabels = .ok name ↔ ∃ p, chosen profiles jobLabels = some p ∧ p.name = name := by
  rw [route_eq h]
  cases chosen profiles jobLabels with
  | none => simp
  | some best => simp

theorem route_fails_iff (h : new profiles = .ok r) :
    (∃ err, route (some r) jobLabels = .error err) ↔ ∀ p ∈ profiles, ¬p.Covers jobLabels := by
  have hnone : (∀ p ∈ profiles, ¬p.Covers jobLabels) ↔ chosen profiles jobLabels = none := by
    rw [chosen, leader_eq_none_iff]
    simp only [decide_eq_false_iff_not]
  rw [hnone, route_eq h]
  cases chosen profiles jobLabels with
  | none => simp
  | some best => simp

/-- `Route` gives every job the tightest profile, and fails for one that no profile covers, unless
repeated labels blur the difference between two profiles. -/
theorem route_tightest_iff (h : new profiles = .ok r) (jobLabels : List String) :
    ((∀ name, route (some r) jobLabels = .ok name ↔ Tightest profiles jobLabels name) ∧
      ((∃ err, route (some r) jobLabels = .error err) ↔ ∀ p ∈ profiles, ¬p.Covers jobLabels)) ↔
      ¬Blurred profiles jobLabels := by
  rw [and_iff_left (route_fails_iff h), ← chosen_eq_tightest_iff]
  simp only [route_eq_ok_iff h, tightest_iff]
  constructor
  · intro hsame
    cases hchosen : chosen profiles jobLabels with
    | none => exact (leader_eq_none_iff.mpr (leader_eq_none_iff.mp hchosen)).symm
    | some p =>
      obtain ⟨q, htightest, hname⟩ := (hsame p.name).mp ⟨p, hchosen, rfl⟩
      -- profiles have different names
      rw [htightest, List.inj_on_of_nodup_map (new_eq_ok h).2 (leader_mem htightest).1
        (leader_mem hchosen).1 hname]
  · intro heq name
    rw [heq]

def gpuFirst : List Profile :=
  [{ name := "gpu", labels := ["self-hosted", "linux", "gpu"] },
    { name := "plain", labels := ["self-hosted", "linux"] }]

theorem route_tightest_gpuFirst :
    new gpuFirst = .ok { profiles := gpuFirst.map Profile.normalise } ∧
      ∀ name,
        route (some { profiles := gpuFirst.map Profile.normalise }) ["self-hosted", "linux"] = .ok name ↔
        Tightest gpuFirst ["self-hosted", "linux"] name :=
  ⟨rfl, ((route_tightest_iff rfl ["self-hosted", "linux"]).mpr (not_blurred_of_nodup (by decide))).1⟩

/-- With a repeated label the difference is zero for both profiles. -/
theorem repeated_label_routes_to_larger :
    (new gpuFirst).bind (fun r ↦ route (some r) ["self-hosted", "linux", "linux"]) = .ok "gpu" ∧
      Tightest gpuFirst ["self-hosted", "linux", "linux"] "plain" ∧
      ¬Tightest gpuFirst ["self-hosted", "linux", "linux"] "gpu" := by
  have hplain : tightest gpuFirst ["self-hosted", "linux", "linux"] =
      some { name := "plain", labels := ["self-hosted", "linux"] } := by decide +kernel
  refine ⟨rfl, tightest_iff.mpr ⟨_, hplain, rfl⟩, fun hgpu ↦ ?_⟩
  obtain ⟨p, hp, hname⟩ := tightest_iff.mp hgpu
  rw [hplain] at hp
  cases hp
  exact absurd hname (by decide)

end ScalesetProxmox.Routing
