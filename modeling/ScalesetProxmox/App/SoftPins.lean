import ScalesetProxmox.App.Sizes
import ScalesetProxmox.NodeSelector.Stack

/-!
# Soft pins

A rule without `require` is a preference: when no preferred node is eligible, the affinity wrapper falls
back to all of them. Eligible means declared and neither avoided nor excluded. The wrapper does not know
whether the strategy can return the node, and once a preferred node is eligible it avoids all the others.
A preferred node without a load score, or one that only `single_node` declares, then makes the selection
fail.
-/

namespace ScalesetProxmox.App

open ScalesetProxmox.Configuration
open NodeSelector
open Text (quote)

/-! ## Accepted rules -/

def knownProfiles (cfg : Config) : List String :=
  cfg.scalesets.flatMap fun entry ↦ entry.profiles.map ProfileConfig.name

/-- The members and the single node, whatever the strategy. -/
def knownNodes (nodes : NodesConfig) : List String :=
  nodes.members ++ if nodes.singleNode ≠ "" then [nodes.singleNode] else []

def checkPreferNodes (nodes : NodesConfig) (i : ℕ) : ℕ → List String → Except String Unit
  | _, [] => .ok ()
  | j, node :: rest =>
    if node ∈ knownNodes nodes then checkPreferNodes nodes i (j + 1) rest
    else .error s!"nodes.affinity[{i}].prefer_nodes[{j}] {quote node} is not a declared node"

def checkRule (cfg : Config) (nodes : NodesConfig) (i : ℕ) (rule : AffinityRule) : Except String Unit := do
  if rule.matchProfile ≠ "" ∧ rule.matchProfile ∉ knownProfiles cfg then
    .error s!"nodes.affinity[{i}].match.profile {quote rule.matchProfile} is not a declared profile"
  if rule.antiAffinityWith ≠ "" ∧ rule.antiAffinityWith ∉ knownProfiles cfg then
    .error s!"nodes.affinity[{i}].anti_affinity_with.profile {quote rule.antiAffinityWith} is not a declared profile"
  checkPreferNodes nodes i 0 rule.preferNodes
  if rule.require ∧ rule.preferNodes = [] then
    .error s!"nodes.affinity[{i}]: require=true is only meaningful with prefer_nodes (otherwise there is nothing to require)"

def checkRules (cfg : Config) (nodes : NodesConfig) : ℕ → List AffinityRule → Except String Unit
  | _, [] => .ok ()
  | i, rule :: rest =>
    match checkRule cfg nodes i rule with
    | .error message => .error message
    | .ok () => checkRules cfg nodes (i + 1) rest

def validateNodeAffinity (cfg : Config) (nodes : NodesConfig) : Except String Unit :=
  checkRules cfg nodes 0 nodes.affinity

theorem checkPreferNodes_eq_ok {nodes : NodesConfig} {i j : ℕ} {preferred : List String} :
    checkPreferNodes nodes i j preferred = .ok () ↔ preferred ⊆ knownNodes nodes := by
  induction preferred generalizing j with
  | nil => simp [checkPreferNodes]
  | cons node rest ih =>
    rw [checkPreferNodes, List.cons_subset, ← @ih (j + 1)]
    split_ifs with hknown
    · simp [hknown]
    · simp [hknown]

/-- Preferred nodes are declared somewhere. -/
theorem preferNodes_subset {cfg : Config} {nodes : NodesConfig} {rules : List AffinityRule} {i : ℕ}
    (h : checkRules cfg nodes i rules = .ok ()) :
    ∀ rule ∈ rules, rule.preferNodes ⊆ knownNodes nodes := by
  induction rules generalizing i with
  | nil => exact List.forall_mem_nil _
  | cons rule rest ih =>
    rw [checkRules] at h
    split at h
    · cases h
    · next hrule =>
      simp only [checkRule, andThen_eq_ok, stopIf_eq_ok] at hrule
      exact List.forall_mem_cons.mpr ⟨checkPreferNodes_eq_ok.mp hrule.2.2.1, ih h⟩

/-! ## When a preference costs the placement -/

/-- Neither avoided by the caller nor excluded by the rule. -/
def Usable (rule : AffinityRule) (hint : Hint) (node : String) : Prop :=
  node ∉ rule.excluded hint.existingVMs ∧ node ∉ hint.avoid

/-- When the strategy can reach a usable node, it can reach a preferred one, if any of them is usable. -/
def PinReachable (nodes : NodesConfig) (memory : Memory) (hint : Hint) (rule : AffinityRule) : Prop :=
  (∃ node ∈ nodes.underlying.reachable memory, Usable rule hint node) →
    (∃ node ∈ rule.preferNodes, Usable rule hint node) →
      ∃ node ∈ rule.preferNodes, Usable rule hint node ∧ node ∈ nodes.underlying.reachable memory

variable {cfg : Config} {nodes : NodesConfig} {memory : Memory} {hint : Hint} {rule : AffinityRule}

theorem usable_iff_mem_eligibleFrom {candidates : List String} {node : String} :
    node ∈ eligibleFrom candidates (rule.excluded hint.existingVMs) hint.avoid ↔
      node ∈ candidates ∧ Usable rule hint node :=
  mem_eligibleFrom

/-- The strategy alone, told to avoid what the rule excludes. -/
theorem selectUnderlying_ok_iff : (∃ node, (selectUnderlying nodes memory
      { hint with avoid := hint.avoid ++ rule.excluded hint.existingVMs }).1 = .ok node) ↔
    ∃ node ∈ nodes.underlying.reachable memory, Usable rule hint node := by
  rw [selectUnderlying, Strategy.select_ok_iff]
  refine exists_congr fun node ↦ and_congr_right fun _ ↦ ?_
  rw [List.mem_append, not_or, Usable, and_comm]

/-- A rule whose own nodes are eligible leaves the strategy these and no others. -/
theorem selectAffinity_ok_iff_of_preferred (hne : nodes.universe ≠ [])
    (hrule : matchingRule nodes.affinity hint.profile = some rule)
    (hpreferred : ∃ node ∈ rule.candidates nodes.universe, Usable rule hint node) :
    (∃ node, (selectAffinity nodes memory hint).1 = .ok node) ↔
      ∃ node ∈ rule.candidates nodes.universe,
        Usable rule hint node ∧ node ∈ nodes.underlying.reachable memory := by
  obtain ⟨found, hfound⟩ := hpreferred
  have hmem := usable_iff_mem_eligibleFrom.mpr hfound
  have heligible := AffinityRule.eligible_of_preferred (List.ne_nil_of_mem hmem)
  rw [selectAffinity, selectUnderlying, withAffinity_ok_iff nodes.underlying_over hne hrule heligible]
  refine exists_congr fun node ↦ ?_
  rw [usable_iff_mem_eligibleFrom, Usable]
  tauto

theorem selectAffinity_ok_of_fallback (hne : nodes.universe ≠ [])
    (hrule : matchingRule nodes.affinity hint.profile = some rule) (hsoft : rule.require = false)
    (hnone : ¬ ∃ node ∈ rule.candidates nodes.universe, Usable rule hint node)
    (hreach : ∃ node ∈ nodes.underlying.reachable memory, Usable rule hint node) :
    ∃ node, (selectAffinity nodes memory hint).1 = .ok node := by
  obtain ⟨found, hfound, husable⟩ := hreach
  have huniverse := nodes.underlying_over.reachable_subset hne hfound
  have hempty :
      eligibleFrom (rule.candidates nodes.universe) (rule.excluded hint.existingVMs) hint.avoid = [] := by
    refine List.eq_nil_iff_forall_not_mem.mpr fun node hnode ↦ hnone ⟨node, ?_⟩
    exact usable_iff_mem_eligibleFrom.mp hnode
  have hfallback := usable_iff_mem_eligibleFrom.mpr ⟨huniverse, husable⟩
  have heligible := AffinityRule.eligible_of_fallback hsoft hempty (List.ne_nil_of_mem hfallback)
  rw [selectAffinity, selectUnderlying, withAffinity_ok_iff nodes.underlying_over hne hrule heligible]
  exact ⟨found, hfound, hfallback, husable.2⟩

/-- In an accepted configuration a soft rule costs no placement if and only if the strategy can reach one
of the preferred nodes whenever one of them is usable. -/
theorem soft_pin_never_fails_iff (hnodes : resolveNodeSelector nodes = .ok ())
    (hrule : matchingRule nodes.affinity hint.profile = some rule) (hsoft : rule.require = false)
    (memory : Memory) :
    ((∃ node, (selectUnderlying nodes memory
        { hint with avoid := hint.avoid ++ rule.excluded hint.existingVMs }).1 = .ok node) →
      ∃ node, (selectAffinity nodes memory hint).1 = .ok node) ↔
    PinReachable nodes memory hint rule := by
  have hne := universe_ne_nil hnodes
  unfold PinReachable
  rw [selectUnderlying_ok_iff]
  refine forall_congr' fun hreach ↦ ?_
  by_cases hpreferred : ∃ node ∈ rule.candidates nodes.universe, Usable rule hint node
  · rw [selectAffinity_ok_iff_of_preferred hne hrule hpreferred]
    by_cases hprefers : rule.preferNodes = []
    · -- every node is preferred, and the one that the strategy reaches is one of them
      obtain ⟨found, hfound, husable⟩ := hreach
      have huniverse := nodes.underlying_over.reachable_subset hne hfound
      rw [AffinityRule.candidates, if_pos hprefers, hprefers]
      exact ⟨fun _ h ↦ by simp at h, fun _ ↦ ⟨found, huniverse, husable, hfound⟩⟩
    · rw [AffinityRule.candidates, if_neg hprefers] at hpreferred ⊢
      exact ⟨fun h _ ↦ h, fun h ↦ h hpreferred⟩
  · have hnone : ¬ ∃ node ∈ rule.preferNodes, Usable rule hint node := by
      rintro ⟨node, hnode, husable⟩
      refine hpreferred ⟨node, ?_, husable⟩
      rwa [AffinityRule.candidates, if_neg (List.ne_nil_of_mem hnode)]
    exact ⟨fun _ h ↦ absurd h hnone,
      fun _ ↦ selectAffinity_ok_of_fallback hne hrule hsoft hpreferred hreach⟩

/-- Under `round_robin` it is enough that the members are the only nodes declared. -/
theorem pinReachable_of_members (hvalid : validateNodeAffinity cfg nodes = .ok ())
    (hstrategy : nodes.strategy = .roundRobin) (hsingle : nodes.singleNode = "")
    (hrule : matchingRule nodes.affinity hint.profile = some rule) :
    PinReachable nodes memory hint rule := by
  rintro - ⟨node, hnode, husable⟩
  refine ⟨node, hnode, husable, ?_⟩
  have hknown := preferNodes_subset hvalid rule (List.mem_of_find?_eq_some hrule) hnode
  simpa [NodesConfig.underlying, hstrategy, Strategy.reachable, knownNodes, hsingle] using hknown

/-- Two nodes, of which the only profile of `gpuProfile` prefers the second. -/
def softPin (strategy : StrategyName) : NodesConfig where
  strategy := strategy
  members := ["pve1", "pve2"]
  affinity := [{ matchProfile := "gpu", preferNodes := ["pve2"] }]

theorem soft_pin_never_fails_roundRobin :
    ∃ node, (selectAffinity (softPin .roundRobin) {} { profile := "gpu", avoid := ["pve2"] }).1 = .ok node :=
  (soft_pin_never_fails_iff (show resolveNodeSelector (softPin .roundRobin) = .ok () by decide) rfl rfl {}).mpr
    (pinReachable_of_members
      (show validateNodeAffinity (normalizeScalesets (gpuProfile 2)) (softPin .roundRobin) = .ok () by decide)
      rfl rfl rfl)
    ⟨"pve1", by decide⟩

/-- The preferred node has no score, and the one that has is not eligible any more. -/
theorem soft_pin_without_score_fails :
    load (gpuProfile 2) = .ok (normalizeScalesets (gpuProfile 2)) ∧
    resolveNodeSelector (softPin .leastLoaded) = .ok () ∧
    validateNodeAffinity (normalizeScalesets (gpuProfile 2)) (softPin .leastLoaded) = .ok () ∧
    (selectUnderlying (softPin .leastLoaded) { scores := some [("pve1", 1 / 2)] } { profile := "gpu" }).1 =
      .ok "pve1" ∧
    (selectAffinity (softPin .leastLoaded) { scores := some [("pve1", 1 / 2)] } { profile := "gpu" }).1 =
      .error .allCandidatesAvoided := by
  decide

end ScalesetProxmox.App
