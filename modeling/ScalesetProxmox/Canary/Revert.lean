import ScalesetProxmox.Canary.Controller
import ScalesetProxmox.Transition.Run
import Mathlib.Tactic.NormNum
import Mathlib.Tactic.Positivity

/-!
# Automatic revert

When a candidate that fails too often loses its traffic. Only `recordFailure` looks at the rate, and
only once the minimum number of candidate clones has been made. Failures reported before that are
therefore not looked at again when the clone arrives that completes the sample: `LateSample` is that
clone, and it is the one step that leaves an exceeded rate with traffic.
-/

namespace ScalesetProxmox.Canary

open Transition

variable {minSamples : ℕ} {profile : String}

/-! ## One profile at a time -/

def Op.effect (minSamples : ℕ) (profile : String) : Op → ProfileState → ProfileState
  | .recordClone name template, ps =>
    if profile = name ∧ template = .candidate then ps.recordClone else ps
  | .recordFailure name template, ps =>
    if profile = name ∧ template = .candidate then (ps.recordFailure minSamples).1 else ps
  | .promote name, ps => if profile = name then ps.promote.getD ps else ps

theorem Controller.minFailureSamples_modify (c : Controller) (profile : String)
    (change : ProfileState → ProfileState) :
    (c.modify profile change).minFailureSamples = c.minFailureSamples := by
  unfold Controller.modify
  split
  · rfl
  · rfl

theorem Controller.minFailureSamples_apply (c : Controller) (op : Op) :
    (c.apply op).minFailureSamples = c.minFailureSamples := by
  cases op with
  | recordClone name template | recordFailure name template =>
    rw [Controller.apply]
    split_ifs
    · exact c.minFailureSamples_modify _ _
    · rfl
  | promote name => exact c.minFailureSamples_modify _ _

theorem Controller.lookup_apply (c : Controller) (op : Op) (profile : String) :
    (c.apply op).profiles.lookup profile =
      (c.profiles.lookup profile).map (op.effect c.minFailureSamples profile) := by
  cases op with
  | recordClone name template | recordFailure name template =>
    cases template with
    | stable =>
      change c.profiles.lookup profile = _
      cases c.profiles.lookup profile <;> simp [Op.effect]
    | candidate =>
      rw [Controller.apply, if_pos rfl, Controller.lookup_modify]
      congr 1
      funext ps
      simp [Op.effect]
  | promote name => exact c.lookup_modify name profile _

/-! ## The rate -/

/-- The candidate has been tried often enough, and fails more often than it may. -/
def ProfileState.Exceeded (minSamples : ℕ) (ps : ProfileState) : Prop :=
  0 < ps.maxFailureRate ∧ minSamples ≤ ps.canaryClones ∧
    ps.maxFailureRate < ps.canaryFailures / ps.canaryClones

instance (minSamples : ℕ) (ps : ProfileState) : Decidable (ps.Exceeded minSamples) :=
  inferInstanceAs (Decidable (_ ∧ _ ∧ _))

/-- The clone that completes the sample when too many of the clones before it have failed. -/
def ProfileState.LateSample (minSamples : ℕ) (ps : ProfileState) : Prop :=
  ps.percent ≠ 0 ∧ ps.canaryClones < minSamples ∧ ps.recordClone.Exceeded minSamples

instance (minSamples : ℕ) (ps : ProfileState) : Decidable (ps.LateSample minSamples) :=
  inferInstanceAs (Decidable (_ ∧ _ ∧ _))

variable {ps : ProfileState}

/-- A further clone only lowers the rate. -/
theorem ProfileState.exceeded_of_recordClone (hmin : 0 < minSamples)
    (hclones : minSamples ≤ ps.canaryClones) (h : ps.recordClone.Exceeded minSamples) :
    ps.Exceeded minSamples := by
  obtain ⟨hrate, -, hexceeded⟩ := h
  have hpos : (0 : ℚ) < ps.canaryClones := by exact_mod_cast hmin.trans_le hclones
  have hmore : (ps.canaryClones : ℚ) ≤ (ps.canaryClones + 1 : ℕ) := by exact_mod_cast Nat.le_succ _
  have hlower : (ps.canaryFailures : ℚ) / (ps.canaryClones + 1 : ℕ) ≤ ps.canaryFailures / ps.canaryClones := by
    gcongr
  exact ⟨hrate, hclones, hexceeded.trans_le hlower⟩

/-- A reverted profile has no candidate traffic. -/
def ProfileState.Reverts (ps : ProfileState) : Prop := ps.reverted = true → ps.percent = 0

/-- Traffic has stopped if the rate is exceeded. -/
def ProfileState.Stopped (minSamples : ℕ) (ps : ProfileState) : Prop :=
  ps.Exceeded minSamples → ps.percent = 0

theorem ProfileState.reverts_effect (op : Op) (h : ps.Reverts) :
    (op.effect minSamples profile ps).Reverts := by
  cases op with
  | recordClone name template =>
    rw [Op.effect]
    split_ifs
    · exact h
    · exact h
  | recordFailure name template =>
    rw [Op.effect]
    split_ifs
    · unfold ProfileState.recordFailure
      dsimp only
      split_ifs
      · exact h
      · exact fun _ ↦ rfl
      · exact h
    · exact h
  | promote name =>
    rw [Op.effect]
    split_ifs
    · unfold ProfileState.promote
      split_ifs
      · exact h
      · exact fun hreverted ↦ absurd hreverted Bool.false_ne_true
    · exact h

theorem ProfileState.stopped_recordFailure (h : ps.Reverts) :
    (ps.recordFailure minSamples).1.Stopped minSamples := by
  unfold ProfileState.recordFailure
  dsimp only
  split_ifs with hskip hrevert
  · intro hexceeded
    rcases hskip with hrate | hclones
    · exact absurd hexceeded.1 hrate.not_gt
    · exact absurd hexceeded.2.1 hclones.not_ge
  · exact fun _ ↦ rfl
  · intro hexceeded
    apply h
    by_contra hreverted
    exact hrevert ⟨hexceeded.2.2, by simpa using hreverted⟩

theorem ProfileState.stopped_promote (hmin : 0 < minSamples) (h : ps.Stopped minSamples) :
    (ps.promote.getD ps).Stopped minSamples := by
  unfold ProfileState.promote
  split_ifs
  · exact h
  · exact fun hexceeded ↦ absurd hexceeded.2.1 hmin.not_ge

theorem ProfileState.stopped_recordClone (hmin : 0 < minSamples) (h : ps.Stopped minSamples) :
    ps.recordClone.Stopped minSamples ↔ ¬ps.LateSample minSamples := by
  constructor
  · rintro hstopped ⟨hpercent, -, hexceeded⟩
    exact hpercent (hstopped hexceeded)
  · intro hlate hexceeded
    by_contra hpercent
    rcases Nat.lt_or_ge ps.canaryClones minSamples with hclones | hclones
    · exact hlate ⟨hpercent, hclones, hexceeded⟩
    · exact hpercent (h (ProfileState.exceeded_of_recordClone hmin hclones hexceeded))

/-! ## Runs -/

/-- The calls are atomic, so a run of the controller is a list of them; `pick` changes nothing. -/
def call (c : Controller) (op : Op) : Option Controller := some (c.apply op)

/-- While the rate of `profile` is exceeded, every clone is made of the stable template. -/
def Controller.StopsTraffic (profile : String) (c : Controller) : Prop :=
  ∀ ps, c.profiles.lookup profile = some ps → ps.Exceeded c.minFailureSamples →
    ps.percent = 0 ∧ ∀ v, c.pick profile v = some { templateVMID := ps.stable, template := .stable }

/-- The call records the clone that completes the sample of `profile` with too many failures. -/
def CompletesLate (profile : String) (c : Controller) (op : Op) : Prop :=
  op = .recordClone profile .candidate ∧
    ∃ ps ∈ c.profiles.lookup profile, ps.LateSample c.minFailureSamples

instance (profile : String) (c : Controller) (op : Op) : Decidable (CompletesLate profile c op) :=
  inferInstanceAs (Decidable (_ ∧ _))

variable {c : Controller}

theorem Controller.stopsTraffic_iff : c.StopsTraffic profile ↔
      ∀ ps, c.profiles.lookup profile = some ps → ps.Stopped c.minFailureSamples := by
  constructor
  · intro h ps hps hexceeded
    exact (h ps hps hexceeded).1
  · intro h ps hps hexceeded
    have hpercent := h ps hps hexceeded
    refine ⟨hpercent, fun v ↦ ?_⟩
    rw [Controller.pick, hps, Option.map_some, ProfileState.pick, if_pos (.inr hpercent)]

/-- What every run keeps besides the traffic being stopped. -/
structure Controller.Sampling (c : Controller) : Prop where
  positive : 0 < c.minFailureSamples
  reverts : c.Each ProfileState.Reverts

theorem Controller.Sampling.apply (h : c.Sampling) (op : Op) : (c.apply op).Sampling where
  positive := c.minFailureSamples_apply op ▸ h.positive
  reverts name ps hps := by
    rw [Controller.lookup_apply] at hps
    obtain ⟨old, hold, rfl⟩ := Option.map_eq_some_iff.mp hps
    exact ProfileState.reverts_effect op (h.reverts name old hold)

theorem stopped_effect_iff (op : Op) (hmin : 0 < minSamples) (hreverts : ps.Reverts)
    (h : ps.Stopped minSamples) :
    (op.effect minSamples profile ps).Stopped minSamples ↔
      ¬(op = .recordClone profile .candidate ∧ ps.LateSample minSamples) := by
  cases op with
  | recordClone name template =>
    by_cases hown : profile = name ∧ template = .candidate
    · rw [Op.effect, if_pos hown, ProfileState.stopped_recordClone hmin h, hown.1, hown.2]
      simp
    · rw [Op.effect, if_neg hown]
      refine iff_of_true h fun hlate ↦ hown ?_
      cases hlate.1
      exact ⟨rfl, rfl⟩
  | recordFailure name template =>
    refine iff_of_true ?_ fun hlate ↦ Op.noConfusion hlate.1
    rw [Op.effect]
    split_ifs
    · exact ProfileState.stopped_recordFailure hreverts
    · exact h
  | promote name =>
    refine iff_of_true ?_ fun hlate ↦ Op.noConfusion hlate.1
    rw [Op.effect]
    split_ifs
    · exact ProfileState.stopped_promote hmin h
    · exact h

theorem stopsTraffic_apply_iff (op : Op) (hc : c.Sampling) (h : c.StopsTraffic profile) :
    (c.apply op).StopsTraffic profile ↔ ¬CompletesLate profile c op := by
  rw [Controller.stopsTraffic_iff] at h ⊢
  rw [Controller.lookup_apply, Controller.minFailureSamples_apply, CompletesLate]
  cases hlookup : c.profiles.lookup profile with
  | none => simp
  | some ps =>
    have heffect : (op.effect c.minFailureSamples profile ps).Stopped c.minFailureSamples ↔ _ :=
      stopped_effect_iff op hc.positive (hc.reverts profile ps hlookup) (h ps hlookup)
    simpa using heffect

theorem sampling_setMinFailureSamples {cfgs : List ProfileConfig} (hnew : new cfgs = .ok c) (n : ℤ) :
    (c.setMinFailureSamples n).Sampling where
  positive := by
    unfold Controller.setMinFailureSamples
    dsimp only
    split_ifs
    · exact Nat.one_pos
    · omega
  reverts := by
    have hreverts : c.Each ProfileState.Reverts :=
      each_new (fun _ _ hreverted ↦ absurd hreverted Bool.false_ne_true) hnew
    exact hreverts

theorem stopsTraffic_setMinFailureSamples {cfgs : List ProfileConfig} (hnew : new cfgs = .ok c) (n : ℤ)
    (profile : String) :
    (c.setMinFailureSamples n).StopsTraffic profile := by
  have hfresh : c.Each fun ps ↦ ps.canaryClones = 0 := each_new (fun _ _ ↦ rfl) hnew
  intro ps hps hexceeded
  have hclones := hexceeded.2.1
  rw [hfresh profile ps hps] at hclones
  exact absurd hclones (sampling_setMinFailureSamples hnew n).positive.not_ge

/-- Traffic to the candidate is stopped at every moment at which its rate is exceeded, exactly as
long as no clone completes the sample when the failures reported before it are already too many. -/
theorem traffic_stops_iff {cfgs : List ProfileConfig} {c : Controller} (hnew : new cfgs = .ok c) (n : ℤ)
    (profile : String) (ops : List Op) :
    Along call (fun _ _ after ↦ after.StopsTraffic profile) (c.setMinFailureSamples n) ops ↔
      Along call (fun before op _ ↦ ¬CompletesLate profile before op) (c.setMinFailureSamples n) ops := by
  refine along_congr_of_invariant (fun c ↦ c.Sampling ∧ c.StopsTraffic profile) ?_
    ⟨sampling_setMinFailureSamples hnew n, stopsTraffic_setMinFailureSamples hnew n profile⟩
  rintro c op t ⟨hc, hstops⟩ hcall
  cases hcall
  exact ⟨stopsTraffic_apply_iff op hc hstops, fun hafter ↦ ⟨hc.apply op, hafter⟩⟩

/-- A profile half of whose candidate clones may fail. -/
def gpuProfile : ProfileConfig :=
  { name := "gpu"
    stableTemplateVMID := 9000
    candidateTemplateVMID := 9001
    percent := 50
    maxFailureRate := 1 / 2 }

def gpuController : Controller := { profiles := AList.insert "gpu" gpuProfile.state ∅ }

theorem new_gpuProfile : new [gpuProfile] = .ok gpuController := by
  have hrate : ¬(gpuProfile.maxFailureRate < 0 ∨ 1 < gpuProfile.maxFailureRate) := by
    norm_num [gpuProfile]
  rw [new, addProfiles, if_neg (by decide), if_neg (by decide), if_neg (by decide), if_neg hrate]
  rfl

def gpuClones (n : ℕ) : List Op := List.replicate n (.recordClone "gpu" .candidate)

def gpuFailures (n : ℕ) : List Op := List.replicate n (.recordFailure "gpu" .candidate)

/-- The third of five clones that fails reverts the profile. -/
theorem traffic_stops_gpu :
    Along call (fun _ _ after ↦ after.StopsTraffic "gpu") (gpuController.setMinFailureSamples 5)
      (gpuClones 5 ++ gpuFailures 3) :=
  (traffic_stops_iff new_gpuProfile 5 "gpu" _).mpr (by decide +kernel)

/-- Four clones fail before the fifth completes the sample: the candidate has failed in four of five
clones, and VMs are still cloned of it. -/
theorem late_sample_keeps_traffic :
    ∃ c ∈ run call (gpuController.setMinFailureSamples 5) (gpuClones 4 ++ gpuFailures 4 ++ gpuClones 1),
      ∃ ps ∈ c.profiles.lookup "gpu", ps.Exceeded c.minFailureSamples ∧ ps.percent = 50 ∧
        c.pick "gpu" 101 = some { templateVMID := 9001, template := .candidate } := by
  decide +kernel

end ScalesetProxmox.Canary
