import ScalesetProxmox.Store.Schema
import ScalesetProxmox.Text.Separated
import Mathlib.Algebra.Order.Ring.Rat

/-!
# The canary controller

`internal/canary/canary.go`: for each profile a stable template and perhaps a candidate, of which a
percentage of the new clones is made. The choice is a function of the VMID. A failure rate above the
bound sends the percentage to zero; a promotion makes the candidate the stable template.

Template VMIDs are the configuration's integers, and a failure rate is an exact quotient.
-/

namespace ScalesetProxmox.Canary

open Store (VMID)
open Text (quote)

variable {P : ℤ → Prop} {profile : String}

structure ProfileConfig where
  name : String
  stableTemplateVMID : ℤ
  candidateTemplateVMID : ℤ
  percent : ℤ
  maxFailureRate : ℚ
  deriving DecidableEq, Repr

inductive Template
  | stable
  | candidate
  deriving DecidableEq, Repr

structure PickResult where
  templateVMID : ℤ
  template : Template
  deriving DecidableEq, Repr

structure ProfileState where
  stable : ℤ
  candidate : ℤ
  percent : ℤ
  originalPercent : ℤ
  maxFailureRate : ℚ
  canaryClones : ℕ := 0
  canaryFailures : ℕ := 0
  reverted : Bool := false
  deriving DecidableEq, Repr

def defaultMinFailureSamples : ℕ := 5

structure Controller where
  profiles : AList (fun _ : String ↦ ProfileState) := ∅
  minFailureSamples : ℕ := defaultMinFailureSamples

def ProfileConfig.state (p : ProfileConfig) : ProfileState where
  stable := p.stableTemplateVMID
  candidate := p.candidateTemplateVMID
  percent := p.percent
  originalPercent := p.percent
  maxFailureRate := p.maxFailureRate

/-- Add the profiles from index `i` on; the first one that is not acceptable stops. -/
def addProfiles : ℕ → List ProfileConfig → Controller → Except String Controller
  | _, [], c => .ok c
  | i, p :: rest, c =>
    if p.name = "" then
      .error s!"canary: profiles[{i}].name is required"
    else if (c.profiles.lookup p.name).isSome then
      .error s!"canary: duplicate profile name {quote p.name}"
    else if p.percent < 0 ∨ 100 < p.percent then
      .error s!"canary: profiles[{i}] {quote p.name}: percent must be in [0, 100]"
    else if p.maxFailureRate < 0 ∨ 1 < p.maxFailureRate then
      .error s!"canary: profiles[{i}] {quote p.name}: max_failure_rate must be in [0, 1]"
    else
      addProfiles (i + 1) rest { c with profiles := c.profiles.insert p.name p.state }

def new (cfgs : List ProfileConfig) : Except String Controller := addProfiles 0 cfgs {}

/-- Values below one count as one. -/
def Controller.setMinFailureSamples (c : Controller) (n : ℤ) : Controller :=
  { c with minFailureSamples := if n < 1 then 1 else n.toNat }

/-- One byte of 64-bit FNV-1a. -/
def fnv1a (hash byte : ℕ) : ℕ := (Nat.xor hash byte * 1099511628211) % 2 ^ 64

/-- The eight bytes of the VMID, highest first, through FNV-1a, modulo a hundred. -/
def hashMod100 (v : VMID) : ℕ :=
  ([7, 6, 5, 4, 3, 2, 1, 0].map fun i ↦ v / 256 ^ i % 256).foldl fnv1a 14695981039346656037 % 100

def ProfileState.pick (ps : ProfileState) (v : VMID) : PickResult :=
  if ps.candidate = 0 ∨ ps.percent = 0 then
    { templateVMID := ps.stable, template := .stable }
  else if (hashMod100 v : ℤ) < ps.percent then
    { templateVMID := ps.candidate, template := .candidate }
  else
    { templateVMID := ps.stable, template := .stable }

/-- The template for a clone; an unknown profile has none. -/
def Controller.pick (c : Controller) (profile : String) (v : VMID) : Option PickResult :=
  (c.profiles.lookup profile).map (·.pick v)

def ProfileState.recordClone (ps : ProfileState) : ProfileState :=
  { ps with canaryClones := ps.canaryClones + 1 }

/-- Count a failure, and say whether it reverts the profile. -/
def ProfileState.recordFailure (minSamples : ℕ) (ps : ProfileState) : ProfileState × Bool :=
  let ps := { ps with canaryFailures := ps.canaryFailures + 1 }
  if ps.maxFailureRate ≤ 0 ∨ ps.canaryClones < minSamples then
    (ps, false)
  else if ps.maxFailureRate < ps.canaryFailures / ps.canaryClones ∧ !ps.reverted then
    ({ ps with reverted := true, percent := 0 }, true)
  else
    (ps, false)

/-- The candidate becomes the stable template; without one there is nothing to promote. -/
def ProfileState.promote (ps : ProfileState) : Option ProfileState :=
  if ps.candidate = 0 then
    none
  else
    some
      { stable := ps.candidate
        candidate := 0
        percent := 0
        originalPercent := 0
        maxFailureRate := ps.maxFailureRate }

/-- A call that changes the controller. -/
inductive Op
  | recordClone (profile : String) (template : Template)
  | recordFailure (profile : String) (template : Template)
  | promote (profile : String)
  deriving DecidableEq, Repr

/-- Change the state of one profile; an unknown one is ignored. -/
def Controller.modify (c : Controller) (profile : String) (change : ProfileState → ProfileState) :
    Controller :=
  match c.profiles.lookup profile with
  | none => c
  | some ps => { c with profiles := c.profiles.insert profile (change ps) }

def Controller.apply (c : Controller) : Op → Controller
  | .recordClone profile template =>
    if template = .candidate then c.modify profile (·.recordClone) else c
  | .recordFailure profile template =>
    if template = .candidate then
      c.modify profile fun ps ↦ (ps.recordFailure c.minFailureSamples).1
    else
      c
  | .promote profile => c.modify profile fun ps ↦ ps.promote.getD ps

theorem Controller.lookup_modify (c : Controller) (profile name : String)
    (change : ProfileState → ProfileState) :
    (c.modify profile change).profiles.lookup name =
      (c.profiles.lookup name).map fun ps ↦ if name = profile then change ps else ps := by
  unfold Controller.modify
  cases hlookup : c.profiles.lookup profile with
  | none =>
    by_cases hname : name = profile
    · rw [hname, hlookup, Option.map_none]
    · simp only [hname, if_false, Option.map_id']
  | some ps =>
    by_cases hname : name = profile
    · rw [hname, hlookup, AList.lookup_insert, Option.map_some, if_pos rfl]
    · simp only [AList.lookup_insert_ne hname, hname, if_false, Option.map_id']

/-! ## What holds of every profile -/

def Controller.Each (P : ProfileState → Prop) (c : Controller) : Prop :=
  ∀ name ps, c.profiles.lookup name = some ps → P ps

variable {c : Controller} {change : ProfileState → ProfileState}

theorem Controller.Each.modify {P : ProfileState → Prop} (h : c.Each P)
    (hchange : ∀ ps, P ps → P (change ps)) :
    (c.modify profile change).Each P := by
  intro name ps hps
  rw [Controller.lookup_modify] at hps
  obtain ⟨old, hold, rfl⟩ := Option.map_eq_some_iff.mp hps
  split_ifs
  · exact hchange old (h name old hold)
  · exact h name old hold

variable {cfgs : List ProfileConfig}

theorem each_addProfiles {P : ProfileState → Prop} {i : ℕ} {c' : Controller} (hcfgs : ∀ p ∈ cfgs, P p.state)
    (h : c.Each P) (hadd : addProfiles i cfgs c = .ok c') : c'.Each P := by
  induction cfgs generalizing i c with
  | nil =>
    cases hadd
    exact h
  | cons p rest ih =>
    unfold addProfiles at hadd
    repeat'
      split at hadd
      · cases hadd
    refine ih (fun q hq ↦ hcfgs q (List.mem_cons_of_mem _ hq)) ?_ hadd
    intro name ps hps
    by_cases hname : name = p.name
    · subst hname
      rw [AList.lookup_insert, Option.some.injEq] at hps
      rw [← hps]
      exact hcfgs p List.mem_cons_self
    · rw [AList.lookup_insert_ne hname] at hps
      exact h name ps hps

theorem each_new {P : ProfileState → Prop} (hcfgs : ∀ p ∈ cfgs, P p.state) (hnew : new cfgs = .ok c) :
    c.Each P :=
  each_addProfiles hcfgs (fun name ps hps ↦ by simp at hps) hnew

/-! ## Where templates come from -/

def Controller.Knows (P : ℤ → Prop) (c : Controller) : Prop :=
  ∀ name ps, c.profiles.lookup name = some ps → P ps.stable ∧ P ps.candidate

theorem Controller.Knows.pick (h : c.Knows P) {v : VMID} {result : PickResult}
    (hpick : c.pick profile v = some result) :
    P result.templateVMID := by
  obtain ⟨ps, hps, rfl⟩ := Option.map_eq_some_iff.mp hpick
  unfold ProfileState.pick
  split_ifs
  · exact (h profile ps hps).1
  · exact (h profile ps hps).2
  · exact (h profile ps hps).1

theorem Controller.Knows.modify (h : c.Knows P)
    (hchange : ∀ ps, P ps.stable → P ps.candidate → P (change ps).stable ∧ P (change ps).candidate) :
    (c.modify profile change).Knows P :=
  Controller.Each.modify h fun ps hps ↦ hchange ps hps.1 hps.2

/-- A call brings in no template but, for a candidate that is promoted, the absent one. -/
theorem Controller.Knows.apply (hzero : P 0) (h : c.Knows P) (op : Op) : (c.apply op).Knows P := by
  cases op with
  | recordClone profile template =>
    rw [Controller.apply]
    split
    · exact h.modify fun _ hstable hcandidate ↦ ⟨hstable, hcandidate⟩
    · exact h
  | recordFailure profile template =>
    rw [Controller.apply]
    split
    · refine h.modify fun ps hstable hcandidate ↦ ?_
      unfold ProfileState.recordFailure
      dsimp only
      split_ifs <;> exact ⟨hstable, hcandidate⟩
    · exact h
  | promote profile =>
    refine h.modify fun ps hstable hcandidate ↦ ?_
    unfold ProfileState.promote
    split_ifs
    · exact ⟨hstable, hcandidate⟩
    · exact ⟨hcandidate, hzero⟩

theorem Controller.Knows.run (hzero : P 0) (h : c.Knows P) (ops : List Op) :
    (ops.foldl Controller.apply c).Knows P := by
  induction ops generalizing c with
  | nil => exact h
  | cons op rest ih => exact ih (h.apply hzero op)

theorem knows_new (hcfgs : ∀ p ∈ cfgs, P p.stableTemplateVMID ∧ P p.candidateTemplateVMID)
    (hnew : new cfgs = .ok c) : c.Knows P :=
  each_new hcfgs hnew

end ScalesetProxmox.Canary
