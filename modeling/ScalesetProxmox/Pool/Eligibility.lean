import ScalesetProxmox.App.SoftPins
import ScalesetProxmox.Pool.Victims

/-!
# What the eligibility probe can tell

`nodeEligible` asks the selector itself whether a profile could be placed on a node, with all other nodes
of the universe on the avoid list. Under `round_robin` the cursor cannot change the answer, since there is
one node left to return. The answer is exact unless a soft rule prefers a node that is not in the universe.
The probe does not avoid this node, so the rule never falls back to the one asked about, while a call that
avoids both places there.
-/

namespace ScalesetProxmox.Pool

open NodeSelector

variable {allNodes : List String} {rules : List AffinityRule} {rule : AffinityRule} {memory : Memory}
  {hint : Hint} {node profile : String} {existing : List ExistingVM}

/-! ## One node left -/

/-- When every other node is avoided, the cursor makes no difference. -/
theorem roundRobin_of_others_avoided (hnode : node ∈ allNodes)
    (hothers : ∀ other ∈ allNodes, other ≠ node → other ∈ hint.avoid) (memory : Memory) :
    ((Strategy.roundRobin allNodes).select memory hint).1 =
      if node ∈ hint.avoid then .error .allNodesAvoided else .ok node := by
  have hover : (Strategy.roundRobin allNodes).Over allNodes := rfl
  cases hselect : ((Strategy.roundRobin allNodes).select memory hint).1 with
  | ok picked =>
    obtain ⟨hmem, hfree⟩ := hover.select_eq_ok (List.ne_nil_of_mem hnode) hselect
    obtain rfl : picked = node := by
      by_contra hne
      exact hfree (hothers picked hmem hne)
    rw [if_neg hfree]
  | error err =>
    have havoid : node ∈ hint.avoid := by
      by_contra hfree
      obtain ⟨picked, hpicked⟩ :=
        ((Strategy.roundRobin allNodes).select_ok_iff memory hint).mpr ⟨node, hnode, hfree⟩
      rw [hselect] at hpicked
      cases hpicked
    rw [if_pos havoid, rotate_eq_error hselect]

/-- The nodes that a rule leaves include one that is not avoided if it is preferred, or if there is no
preferred node to choose before it. -/
theorem exists_eligible_iff (hnode : node ∈ allNodes) (hfree : node ∉ hint.avoid) :
    (∃ eligible, rule.eligible allNodes hint = .ok eligible ∧ node ∈ eligible) ↔
      node ∉ rule.excluded hint.existingVMs ∧
        (node ∈ rule.candidates allNodes ∨ rule.require = false ∧
          ∀ other ∈ rule.candidates allNodes,
            other ∈ rule.excluded hint.existingVMs ∨ other ∈ hint.avoid) := by
  by_cases hpreferred :
      eligibleFrom (rule.candidates allNodes) (rule.excluded hint.existingVMs) hint.avoid = []
  · have hnone : ∀ other ∈ rule.candidates allNodes,
        other ∈ rule.excluded hint.existingVMs ∨ other ∈ hint.avoid := by
      intro other hother
      by_contra hneither
      exact List.ne_nil_of_mem (mem_eligibleFrom.mpr ⟨hother, not_or.mp hneither⟩) hpreferred
    constructor
    · rintro ⟨eligible, heligible, hin⟩
      obtain ⟨hexcluded, _⟩ := AffinityRule.eligible_eq_ok heligible hin
      refine ⟨hexcluded, .inr ⟨?_, hnone⟩⟩
      by_contra hrequire
      rw [AffinityRule.eligible, if_pos hpreferred, if_pos (Bool.eq_true_of_not_eq_false hrequire)]
        at heligible
      cases heligible
    · rintro ⟨hexcluded, hcandidate | ⟨hsoft, _⟩⟩
      · exact absurd ((hnone node hcandidate).resolve_left hexcluded) hfree
      · have hin : node ∈ eligibleFrom allNodes (rule.excluded hint.existingVMs) hint.avoid :=
          mem_eligibleFrom.mpr ⟨hnode, hexcluded, hfree⟩
        exact ⟨_, AffinityRule.eligible_of_fallback hsoft hpreferred (List.ne_nil_of_mem hin), hin⟩
  · rw [AffinityRule.eligible_of_preferred hpreferred]
    obtain ⟨found, hfound⟩ := List.exists_mem_of_ne_nil _ hpreferred
    obtain ⟨hcandidate, hneither⟩ := mem_eligibleFrom.mp hfound
    constructor
    · rintro ⟨eligible, heligible, hin⟩
      cases heligible
      obtain ⟨hpick, hexcluded, _⟩ := mem_eligibleFrom.mp hin
      exact ⟨hexcluded, .inl hpick⟩
    · rintro ⟨hexcluded, hpick | ⟨_, hall⟩⟩
      · exact ⟨_, rfl, mem_eligibleFrom.mpr ⟨hpick, hexcluded, hfree⟩⟩
      · exact absurd (hall found hcandidate) (not_or.mpr hneither)

/-- So the affinity wrapper returns the one node that is left if the rule leaves it, from every cursor
position. -/
theorem withAffinity_of_others_avoided (hnode : node ∈ allNodes)
    (hothers : ∀ other ∈ allNodes, other ≠ node → other ∈ hint.avoid)
    (hrule : matchingRule rules hint.profile = some rule) {eligible : List String}
    (heligible : rule.eligible allNodes hint = .ok eligible) (hfree : node ∉ hint.avoid) :
    (withAffinity rules allNodes (Strategy.roundRobin allNodes).select memory hint).1 =
      if node ∈ eligible then .ok node else .error .allNodesAvoided := by
  simp only [withAffinity, hrule, heligible]
  rw [roundRobin_of_others_avoided hnode]
  · have hrestrict : node ∈ (hint.restrict allNodes eligible).avoid ↔ node ∉ eligible := by
      rw [← not_iff_not, not_mem_restrict, not_not]
      exact ⟨fun h ↦ h.2 hnode, fun h ↦ ⟨hfree, fun _ ↦ h⟩⟩
    rw [if_congr hrestrict rfl rfl, ite_not]
  · exact fun other hother hne ↦ List.mem_append_left _ (hothers other hother hne)

/-! ## The probe and the calls it stands for -/

/-- The selectors that `buildNodeSelector` may put around the strategy. -/
inductive Wraps (cfg : NodesConfig) : Selector → Prop
  | capacity (fits : Option (String → Bool)) : Wraps cfg (selectCapacity cfg fits)
  | affinity : Wraps cfg (selectAffinity cfg)
  | strategy (hrules : cfg.affinity = []) : Wraps cfg (selectUnderlying cfg)

/-- Without a shape they all select alike. -/
theorem Wraps.select_eq {cfg : NodesConfig} {select : Selector} (h : Wraps cfg select)
    (hshape : hint.shape = ⟨0, 0⟩) : select memory hint = selectAffinity cfg memory hint := by
  cases h with
  | capacity fits => simp only [selectCapacity, withCapacity, capacityCandidates, hshape, if_true]
  | affinity => rfl
  | strategy hrules => simp only [selectAffinity, withAffinity, hrules, matchingRule, List.find?_nil]

def probeHint (allNodes : List String) (profile : String) (existing : List ExistingVM) (node : String) :
    Hint :=
  { profile := profile, existingVMs := existing, avoid := allNodes.filter (· ≠ node) }

/-- The answer of the probe, by the rules alone. -/
def verdict (rules : List AffinityRule) (allNodes : List String) (profile : String)
    (existing : List ExistingVM) (node : String) : Bool × Bool :=
  match matchingRule rules profile with
  | none => (true, true)
  | some rule =>
    match rule.eligible allNodes (probeHint allNodes profile existing node) with
    | .error err => (false, err.isRequireUnsatisfiable)
    | .ok eligible => (node ∈ eligible, node ∈ eligible)

theorem not_mem_probeHint : node ∉ (probeHint allNodes profile existing node).avoid := by
  simp [probeHint]

theorem others_mem_probeHint :
    ∀ other ∈ allNodes, other ≠ node → other ∈ (probeHint allNodes profile existing node).avoid := by
  intro other hother hne
  exact List.mem_filter.mpr ⟨hother, decide_eq_true hne⟩

/-- How the manager reads what the selector returned. -/
def answer (node : String) : Except Err String → Bool × Bool
  | .ok got => (got = node, true)
  | .error err => (false, err.isRequireUnsatisfiable)

theorem answer_eq_verdict (hnode : node ∈ allNodes) (memory : Memory) :
    answer node (withAffinity rules allNodes (Strategy.roundRobin allNodes).select memory
      (probeHint allNodes profile existing node)).1 = verdict rules allNodes profile existing node := by
  have hprofile : (probeHint allNodes profile existing node).profile = profile := rfl
  unfold verdict
  cases hrule : matchingRule rules profile with
  | none =>
    simp only [withAffinity, hprofile, hrule]
    rw [roundRobin_of_others_avoided hnode others_mem_probeHint, if_neg not_mem_probeHint]
    simp [answer]
  | some rule =>
    cases heligible : rule.eligible allNodes (probeHint allNodes profile existing node) with
    | error err => simp only [withAffinity, hprofile, hrule, heligible, answer]
    | ok eligible =>
      rw [withAffinity_of_others_avoided hnode others_mem_probeHint hrule heligible not_mem_probeHint]
      by_cases hin : node ∈ eligible
      · simp [hin, answer, heligible]
      · simp [hin, answer, heligible, Err.isRequireUnsatisfiable]

variable {cfg : CapacityConfig}

theorem nodeEligible_fst (hfull : cfg.linkedClones = false) (memory : Memory) :
    (nodeEligible cfg memory profile node existing).1 =
      answer node (selectAffinity cfg.placement memory
        (probeHint cfg.placement.universe profile existing node)).1 := by
  rw [← (Wraps.capacity none).select_eq rfl]
  simp only [nodeEligible, hfull, Bool.false_eq_true, if_false, if_neg cfg.universe_ne_nil]
  unfold probeHint
  generalize selectCapacity cfg.placement none memory _ = picked
  obtain ⟨result, moved⟩ := picked
  cases result with
  | ok got => rfl
  | error err => rfl

theorem selectAffinity_roundRobin {cfg : NodesConfig} (hstrategy : cfg.strategy = .roundRobin) :
    selectAffinity cfg =
      withAffinity cfg.affinity cfg.universe (Strategy.roundRobin cfg.universe).select := by
  have hunderlying : cfg.underlying = .roundRobin cfg.universe := by
    simp [NodesConfig.underlying, NodesConfig.universe, hstrategy]
  rw [selectAffinity, selectUnderlying, hunderlying]

theorem verdict_eq_true_iff :
    verdict rules allNodes profile existing node = (true, true) ↔
      ∀ rule ∈ matchingRule rules profile, ∃ eligible,
        rule.eligible allNodes (probeHint allNodes profile existing node) = .ok eligible ∧
          node ∈ eligible := by
  unfold verdict
  cases matchingRule rules profile with
  | none => simp
  | some rule =>
    cases heligible : rule.eligible allNodes (probeHint allNodes profile existing node) with
    | error err => simp [heligible]
    | ok eligible => simp [heligible]

/-- Some call places the profile on the node if and only if its rule allows it. -/
theorem exists_select_iff_allowed (hnode : node ∈ allNodes) :
    (∃ avoid memory, (withAffinity rules allNodes (Strategy.roundRobin allNodes).select memory
        { avoid := avoid, profile := profile, existingVMs := existing }).1 = .ok node) ↔
      Allowed rules { profile := profile, existingVMs := existing } node := by
  constructor
  · rintro ⟨avoid, memory, h⟩
    have hover : (Strategy.roundRobin allNodes).Over allNodes := rfl
    exact (withAffinity_eq_ok hover (List.ne_nil_of_mem hnode) h).2.2
  · intro hallowed
    unfold Allowed at hallowed
    cases hrule : matchingRule rules profile with
    | none =>
      refine ⟨allNodes.filter (· ≠ node), {}, ?_⟩
      simp only [withAffinity, hrule]
      have honly := @roundRobin_of_others_avoided allNodes (probeHint allNodes profile existing node) node
        hnode others_mem_probeHint {}
      rwa [if_neg not_mem_probeHint] at honly
    | some rule =>
      -- the avoid list also names what the rule would prefer to the node
      let avoid := (allNodes ++ rule.preferNodes).filter (· ≠ node)
      let hint : Hint := { avoid := avoid, profile := profile, existingVMs := existing }
      have hfree : node ∉ hint.avoid := by simp [hint, avoid]
      have hothers : ∀ other ∈ allNodes ++ rule.preferNodes, other ≠ node → other ∈ hint.avoid :=
        fun other hother hne ↦ List.mem_filter.mpr ⟨hother, decide_eq_true hne⟩
      obtain ⟨hexcluded, hpinned⟩ := hallowed rule hrule
      obtain ⟨eligible, heligible, hin⟩ :
          ∃ eligible, rule.eligible allNodes hint = .ok eligible ∧ node ∈ eligible := by
        refine (exists_eligible_iff hnode hfree).mpr ⟨hexcluded, ?_⟩
        unfold AffinityRule.candidates
        split_ifs with hprefer
        · exact .inl hnode
        · by_cases hmem : node ∈ rule.preferNodes
          · exact .inl hmem
          · refine .inr ⟨Bool.eq_false_iff.mpr fun hrequire ↦ hmem (hpinned hrequire hprefer), ?_⟩
            intro other hother
            exact .inr (hothers other (List.mem_append_right _ hother) fun heq ↦ hmem (heq ▸ hother))
      refine ⟨avoid, {}, ?_⟩
      have honly := @withAffinity_of_others_avoided allNodes rules rule {} hint node hnode
        (fun other hother ↦ hothers other (List.mem_append_left _ hother)) hrule eligible heligible hfree
      rwa [if_pos hin] at honly

/-- The profile's rule is soft and lets it onto the node, but prefers a node outside of the universe. -/
def StrayPin (cfg : NodesConfig) (profile : String) (existing : List ExistingVM) (node : String) : Prop :=
  ∃ rule ∈ matchingRule cfg.affinity profile,
    (rule.require = false ∧ node ∉ rule.excluded existing ∧ node ∉ rule.preferNodes) ∧
      ∃ other ∈ rule.preferNodes, other ∉ cfg.universe ∧ other ∉ rule.excluded existing

theorem StrayPin.allowed {cfg : NodesConfig} (h : StrayPin cfg profile existing node) :
    Allowed cfg.affinity { profile := profile, existingVMs := existing } node := by
  obtain ⟨rule, hrule, ⟨hsoft, hexcluded, _⟩, _⟩ := h
  intro other hother
  obtain rfl : rule = other := Option.some.inj (hrule.symm.trans hother)
  refine ⟨hexcluded, fun hrequire ↦ ?_⟩
  rw [hsoft] at hrequire
  cases hrequire

/-- What the probe asks of the rule, beyond that it allows the node. -/
theorem verdict_iff_allowed_and (hnode : node ∈ cfg.placement.universe) :
    verdict cfg.placement.affinity cfg.placement.universe profile existing node = (true, true) ↔
      Allowed cfg.placement.affinity { profile := profile, existingVMs := existing } node ∧
        ¬ StrayPin cfg.placement profile existing node := by
  rw [verdict_eq_true_iff]
  unfold Allowed StrayPin
  cases matchingRule cfg.placement.affinity profile with
  | none => simp
  | some rule =>
    simp only [Option.mem_some_iff, forall_eq', exists_eq_left']
    rw [exists_eligible_iff hnode not_mem_probeHint]
    have havoid : ∀ other, other ∈ (probeHint cfg.placement.universe profile existing node).avoid ↔
        other ∈ cfg.placement.universe ∧ other ≠ node := by
      simp [probeHint]
    have hexisting : (probeHint cfg.placement.universe profile existing node).existingVMs = existing := rfl
    simp only [havoid, hexisting]
    by_cases hprefer : rule.preferNodes = []
    · simp [AffinityRule.candidates, hprefer, hnode]
    · rw [AffinityRule.candidates, if_neg hprefer]
      by_cases hmem : node ∈ rule.preferNodes
      · simp [hmem]
      · have hne : ∀ other ∈ rule.preferNodes, other ≠ node := fun other hother heq ↦ hmem (heq ▸ hother)
        grind

/-- In full-clone mode under `round_robin` the probe does not depend on the cursor, and it says of a node
whether some call without a shape can return it, if and only if no soft rule prefers a node outside of the
universe to it. -/
theorem nodeEligible_exact_iff (hfull : cfg.linkedClones = false)
    (hstrategy : cfg.placement.strategy = .roundRobin) (hnode : node ∈ cfg.placement.universe)
    (profile : String) (existing : List ExistingVM) :
    (∀ memory memory', (nodeEligible cfg memory profile node existing).1 =
      (nodeEligible cfg memory' profile node existing).1) ∧
    ∀ select, Wraps cfg.placement select →
      ((∀ memory, (nodeEligible cfg memory profile node existing).1 = (true, true) ↔
          ∃ avoid memory', (select memory'
            { avoid := avoid, profile := profile, existingVMs := existing }).1 = .ok node) ↔
        ¬ StrayPin cfg.placement profile existing node) := by
  have hverdict : ∀ memory, (nodeEligible cfg memory profile node existing).1 =
      verdict cfg.placement.affinity cfg.placement.universe profile existing node := by
    intro memory
    rw [nodeEligible_fst hfull, selectAffinity_roundRobin hstrategy, answer_eq_verdict hnode]
  refine ⟨fun memory memory' ↦ (hverdict memory).trans (hverdict memory').symm, fun select hselect ↦ ?_⟩
  have hplaced : (∃ avoid memory', (select memory'
      { avoid := avoid, profile := profile, existingVMs := existing }).1 = .ok node) ↔
      Allowed cfg.placement.affinity { profile := profile, existingVMs := existing } node := by
    rw [← exists_select_iff_allowed hnode, ← selectAffinity_roundRobin hstrategy]
    refine exists_congr fun avoid ↦ exists_congr fun memory' ↦ ?_
    rw [hselect.select_eq rfl]
  simp only [hverdict, hplaced, verdict_iff_allowed_and hnode]
  exact ⟨fun h hstray ↦ ((h {}).mpr hstray.allowed).2 hstray, fun h _ ↦ and_iff_left h⟩

/-- Two nodes in rotation; the node that the profile prefers is declared by `single_node` only. -/
def strayPin : NodesConfig where
  strategy := .roundRobin
  members := ["pve1", "pve2"]
  singleNode := "pve9"
  affinity := [{ matchProfile := "gpu", preferNodes := ["pve9"] }]

def strayPool : CapacityConfig :=
  { demandingPool with placement := strayPin, universe_ne_nil := by decide }

/-- A profile that no rule matches. -/
theorem nodeEligible_exact_unpinned :
    (nodeEligible strayPool { next := 1 } "default" "pve1" []).1 = (true, true) ↔
      ∃ avoid memory, (selectAffinity strayPin memory { avoid := avoid, profile := "default" }).1 =
        .ok "pve1" := by
  have hstray : ¬ StrayPin strayPool.placement "default" [] "pve1" := by
    rintro ⟨rule, hrule, _⟩
    cases hrule
  have hnode : "pve1" ∈ strayPool.placement.universe := by decide
  exact ((nodeEligible_exact_iff rfl rfl hnode "default" []).2 _ .affinity).mpr hstray { next := 1 }

/-- The probe cannot say whether the profile may be placed on the first node, while a call that avoids the
second and the preferred one returns it. -/
theorem stray_pin_hides_node :
    Configuration.load (App.gpuProfile 2) = .ok (Configuration.normalizeScalesets (App.gpuProfile 2)) ∧
    App.validateNodeAffinity (Configuration.normalizeScalesets (App.gpuProfile 2)) strayPin = .ok () ∧
    (nodeEligible strayPool {} "gpu" "pve1" []).1 = (false, false) ∧
    (selectCapacity strayPin none {} { avoid := ["pve2", "pve9"], profile := "gpu" }).1 = .ok "pve1" := by
  decide

end ScalesetProxmox.Pool
