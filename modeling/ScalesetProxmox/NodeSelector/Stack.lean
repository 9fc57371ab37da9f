import ScalesetProxmox.NodeSelector.Select

/-!
# The wrappers over any strategy

`NewAffinity` and `NewCapacity` take a selector and return one, and `buildNodeSelector` stacks them on a
strategy. Each wrapper narrows what the selector inside may return, and says so through the avoid list
alone.

A strategy returns a node exactly when it can reach one that is not avoided. What it can reach is the
node universe for `single` and `round_robin`; for `least_loaded` it is the part of it that has a score.
-/

namespace ScalesetProxmox.NodeSelector

variable {nodes avoid : List String} {rule : AffinityRule}

/-! ## What a strategy can reach -/

def Strategy.reachable (memory : Memory) : Strategy → List String
  | .single node => [node]
  | .roundRobin nodes => nodes
  | .leastLoaded nodes => ((memory.scores.map (wantedScores nodes)).getD []).map Prod.fst

/-- A search that finds nothing has passed over avoided nodes only. -/
theorem avoided_of_rotate {tries next : ℕ} {err : Err} (h : (rotate nodes avoid tries next).1 = .error err) :
    ∀ i < tries, nodes.getD ((next + i) % nodes.length) "" ∈ avoid := by
  induction tries generalizing next with
  | zero => exact fun i hi ↦ absurd hi (Nat.not_lt_zero i)
  | succ tries ih =>
    simp only [rotate] at h
    split_ifs at h with havoid
    intro i hi
    cases i with
    | zero => exact havoid
    | succ i =>
      have hlater := ih h i (Nat.lt_of_succ_lt_succ hi)
      rwa [Nat.mod_add_mod, add_assoc, add_comm 1 i] at hlater

/-- Every index is some number of steps away from the cursor. -/
theorem exists_steps_to {length j : ℕ} (hj : j < length) (next : ℕ) :
    ∃ i < length, (next + i) % length = j := by
  have hlength : 0 < length := Nat.zero_lt_of_lt hj
  have hnext := Nat.mod_lt next hlength
  refine ⟨(j + (length - next % length)) % length, Nat.mod_lt _ hlength, ?_⟩
  rw [Nat.add_mod_mod, ← Nat.mod_add_mod]
  have hsteps : next % length + (j + (length - next % length)) = j + length := by omega
  rw [hsteps, Nat.add_mod_right, Nat.mod_eq_of_lt hj]

theorem rotate_complete {node : String} (hnode : node ∈ nodes) (havoid : node ∉ avoid) (next : ℕ) :
    ∃ picked, (rotate nodes avoid nodes.length next).1 = .ok picked := by
  cases hrotate : (rotate nodes avoid nodes.length next).1 with
  | ok picked => exact ⟨picked, rfl⟩
  | error err =>
    obtain ⟨j, hj, rfl⟩ := List.getElem_of_mem hnode
    obtain ⟨i, hi, hindex⟩ := exists_steps_to hj next
    have hpassed := avoided_of_rotate hrotate i hi
    rw [hindex, List.getD_eq_getElem?_getD, List.getElem?_eq_getElem hj, Option.getD_some] at hpassed
    exact absurd hpassed havoid

/-- The ranking finds a best node unless all are avoided. -/
theorem leastScore_isSome {scores : List (String × ℚ)} {best : Option (String × ℚ)}
    (h : best.isSome ∨ ∃ entry ∈ scores, entry.1 ∉ avoid) :
    (leastScore avoid best scores).isSome = true := by
  induction scores generalizing best with
  | nil => simpa [leastScore] using h
  | cons entry rest ih =>
    obtain ⟨node, score⟩ := entry
    simp only [leastScore]
    split_ifs with havoid
    · apply ih
      rcases h with hbest | ⟨other, hother, hfree⟩
      · exact .inl hbest
      · rcases List.mem_cons.mp hother with rfl | hrest
        · exact absurd havoid hfree
        · exact .inr ⟨other, hrest, hfree⟩
    · cases best with
      | none => exact ih (.inl rfl)
      | some kept =>
        dsimp only
        split_ifs <;> exact ih (.inl rfl)

theorem selectLeastLoaded_ok_iff {scores : Option (List (String × ℚ))} {hint : Hint} :
    (∃ node, selectLeastLoaded nodes scores hint = .ok node) ↔
      ∃ entry ∈ (scores.map (wantedScores nodes)).getD [], entry.1 ∉ hint.avoid := by
  unfold selectLeastLoaded
  split
  · next hnone => simp [hnone]
  · next hempty => simp [hempty]
  · next kept _ hkept =>
    rw [hkept, Option.getD_some]
    constructor
    · rintro ⟨node, h⟩
      split at h
      · cases h
      · next picked score hpicked =>
        rcases leastScore_mem hpicked with ⟨hmem, havoid⟩ | hbest
        · exact ⟨_, hmem, havoid⟩
        · cases hbest
    · intro hfree
      have hsome := @leastScore_isSome hint.avoid kept none (.inr hfree)
      split
      · next hnone =>
        rw [hnone] at hsome
        cases hsome
      · next picked _ _ => exact ⟨picked, rfl⟩

theorem Strategy.select_ok_iff (strategy : Strategy) (memory : Memory) (hint : Hint) :
    (∃ node, (strategy.select memory hint).1 = .ok node) ↔
      ∃ node ∈ strategy.reachable memory, node ∉ hint.avoid := by
  cases strategy with
  | single node =>
    by_cases havoid : node ∈ hint.avoid <;>
      simp [Strategy.select, Strategy.reachable, selectSingle, havoid]
  | roundRobin nodes =>
    constructor
    · rintro ⟨node, h⟩
      have hne : nodes ≠ [] := by
        rintro rfl
        cases h
      exact ⟨node, rotate_eq_ok hne h⟩
    · rintro ⟨node, hnode, havoid⟩
      exact rotate_complete hnode havoid memory.next
  | leastLoaded nodes =>
    refine selectLeastLoaded_ok_iff.trans ?_
    simp [Strategy.reachable]

/-! ## What the wrappers leave -/

variable {allNodes : List String} {rules : List AffinityRule} {strategy : Strategy} {memory : Memory}
  {hint : Hint} {node : String} {fits : Option (String → Bool)}

/-- A strategy over the universe reaches nothing outside of it. -/
theorem Strategy.Over.reachable_subset (hover : strategy.Over allNodes) (hne : allNodes ≠ []) :
    strategy.reachable memory ⊆ allNodes := by
  intro node hnode
  cases strategy with
  | single only =>
    cases List.mem_singleton.mp hnode
    exact hover
  | roundRobin nodes => exact hover ▸ hnode
  | leastLoaded nodes =>
    obtain rfl : nodes = allNodes := hover
    obtain ⟨entry, hentry, rfl⟩ := List.mem_map.mp hnode
    cases hscores : memory.scores with
    | none => simp [hscores] at hentry
    | some scores =>
      rw [hscores, Option.map_some, Option.getD_some] at hentry
      have hwanted := (List.mem_filter.mp hentry).2
      simpa [List.isEmpty_eq_false_iff.mpr hne] using hwanted

theorem AffinityRule.eligible_of_preferred
    (h : eligibleFrom (rule.candidates allNodes) (rule.excluded hint.existingVMs) hint.avoid ≠ []) :
    rule.eligible allNodes hint =
      .ok (eligibleFrom (rule.candidates allNodes) (rule.excluded hint.existingVMs) hint.avoid) :=
  if_neg h

/-- A soft rule without an eligible node of its own falls back to the universe. -/
theorem AffinityRule.eligible_of_fallback (hsoft : rule.require = false)
    (hnone : eligibleFrom (rule.candidates allNodes) (rule.excluded hint.existingVMs) hint.avoid = [])
    (h : eligibleFrom allNodes (rule.excluded hint.existingVMs) hint.avoid ≠ []) :
    rule.eligible allNodes hint =
      .ok (eligibleFrom allNodes (rule.excluded hint.existingVMs) hint.avoid) := by
  simp only [AffinityRule.eligible]
  rw [if_pos hnone, hsoft, if_neg Bool.false_ne_true, if_neg h]

/-- When the rule lets some node through, it finds it or one that it prefers. -/
theorem AffinityRule.eligible_complete (hprefer : rule.preferNodes ⊆ allNodes) (hmem : node ∈ allNodes)
    (havoid : node ∉ hint.avoid) (hexcluded : node ∉ rule.excluded hint.existingVMs)
    (hpinned : rule.require → rule.preferNodes ≠ [] → node ∈ rule.preferNodes) :
    ∃ eligible, rule.eligible allNodes hint = .ok eligible ∧
      ∃ found ∈ eligible, found ∈ allNodes ∧ found ∉ hint.avoid := by
  by_cases hpreferred : eligibleFrom (rule.candidates allNodes) (rule.excluded hint.existingVMs)
      hint.avoid = []
  · have hnot : node ∉ rule.candidates allNodes := fun hcandidate ↦
      List.ne_nil_of_mem (mem_eligibleFrom.mpr ⟨hcandidate, hexcluded, havoid⟩) hpreferred
    have hne : rule.preferNodes ≠ [] := fun hnil ↦ hnot (by rwa [AffinityRule.candidates, if_pos hnil])
    have hsoft : rule.require = false := by
      refine Bool.eq_false_iff.mpr fun hrequire ↦ hnot ?_
      rw [AffinityRule.candidates, if_neg hne]
      exact hpinned hrequire hne
    have hfallback : node ∈ eligibleFrom allNodes (rule.excluded hint.existingVMs) hint.avoid :=
      mem_eligibleFrom.mpr ⟨hmem, hexcluded, havoid⟩
    exact ⟨_, AffinityRule.eligible_of_fallback hsoft hpreferred (List.ne_nil_of_mem hfallback), node,
      hfallback, hmem, havoid⟩
  · obtain ⟨found, hfound⟩ := List.exists_mem_of_ne_nil _ hpreferred
    obtain ⟨hcandidate, _, hfree⟩ := mem_eligibleFrom.mp hfound
    refine ⟨_, AffinityRule.eligible_of_preferred hpreferred, found, hfound, ?_, hfree⟩
    unfold AffinityRule.candidates at hcandidate
    split_ifs at hcandidate
    · exact hcandidate
    · exact hprefer hcandidate

theorem withAffinity_complete (hprefer : ∀ rule ∈ rules, rule.preferNodes ⊆ allNodes)
    (hmem : node ∈ allNodes) (havoid : node ∉ hint.avoid) (hallowed : Allowed rules hint node) :
    ∃ picked, (withAffinity rules allNodes (Strategy.roundRobin allNodes).select memory hint).1 =
      .ok picked := by
  unfold withAffinity
  cases hrule : matchingRule rules hint.profile with
  | none => exact (Strategy.select_ok_iff _ memory hint).mpr ⟨node, hmem, havoid⟩
  | some rule =>
    obtain ⟨hexcluded, hpinned⟩ := hallowed rule hrule
    obtain ⟨eligible, heligible, found, hfound, huniverse, hfree⟩ :=
      AffinityRule.eligible_complete (hprefer rule (List.mem_of_find?_eq_some hrule)) hmem havoid hexcluded
        hpinned
    dsimp only
    rw [heligible]
    refine (Strategy.select_ok_iff _ memory _).mpr ⟨found, huniverse, ?_⟩
    exact not_mem_restrict.mpr ⟨hfree, fun _ ↦ hfound⟩

/-- Under a rule that leaves some nodes, the selection succeeds if the strategy can reach one of them. -/
theorem withAffinity_ok_iff {eligible : List String} (hover : strategy.Over allNodes) (hne : allNodes ≠ [])
    (hrule : matchingRule rules hint.profile = some rule)
    (heligible : rule.eligible allNodes hint = .ok eligible) :
    (∃ node, (withAffinity rules allNodes strategy.select memory hint).1 = .ok node) ↔
      ∃ node ∈ strategy.reachable memory, node ∈ eligible ∧ node ∉ hint.avoid := by
  have hselect : withAffinity rules allNodes strategy.select memory hint =
      strategy.select memory (hint.restrict allNodes eligible) := by
    simp only [withAffinity, hrule, heligible]
  rw [hselect, Strategy.select_ok_iff]
  refine exists_congr fun node ↦ and_congr_right fun hnode ↦ ?_
  rw [not_mem_restrict, and_comm]
  exact and_congr_left' ⟨fun h ↦ h (hover.reachable_subset hne hnode), fun h _ ↦ h⟩

theorem mem_capacityCandidates (hshape : hint.shape ≠ ⟨0, 0⟩) :
    node ∈ capacityCandidates allNodes hint ↔ node ∈ allNodes ∧ node ∉ hint.avoid := by
  simp [capacityCandidates, hshape]

/-- The node may be returned: it is declared, not avoided, allowed by the rules and reported to have
room. -/
def Admissible (fits : Option (String → Bool)) (allNodes : List String) (rules : List AffinityRule)
    (hint : Hint) (node : String) : Prop :=
  node ∈ allNodes ∧ node ∉ hint.avoid ∧ Allowed rules hint node ∧ ∃ report ∈ fits, report node = true

theorem stack_eq_ok (hover : strategy.Over allNodes) (hne : allNodes ≠ []) (hshape : hint.shape ≠ ⟨0, 0⟩)
    (h : (withCapacity fits allNodes (withAffinity rules allNodes strategy.select) memory hint).1 =
      .ok node) : Admissible fits allNodes rules hint node := by
  by_cases hcandidates : capacityCandidates allNodes hint = []
  · -- the selector inside is asked although every node is avoided, and does not find one
    rw [withCapacity, hcandidates] at h
    obtain ⟨hmem, havoid, _⟩ := withAffinity_eq_ok hover hne h
    have hcandidate := (mem_capacityCandidates hshape).mpr ⟨hmem, havoid⟩
    rw [hcandidates] at hcandidate
    cases hcandidate
  · cases fits with
    | none =>
      obtain ⟨first, rest, hcons⟩ := List.exists_cons_of_ne_nil hcandidates
      rw [withCapacity, hcons] at h
      cases h
    | some report =>
      rw [withCapacity_of_candidates hcandidates] at h
      split_ifs at h
      obtain ⟨hmem, hrestrict, hallowed⟩ := withAffinity_eq_ok hover hne h
      rw [List.mem_append, not_or] at hrestrict
      refine ⟨hmem, hrestrict.1, hallowed, report, rfl, ?_⟩
      have hcandidate := (mem_capacityCandidates hshape).mpr ⟨hmem, hrestrict.1⟩
      by_contra hfull
      exact hrestrict.2 (List.mem_filter.mpr ⟨hcandidate, by simpa using hfull⟩)

theorem stack_complete (hprefer : ∀ rule ∈ rules, rule.preferNodes ⊆ allNodes)
    (hshape : hint.shape ≠ ⟨0, 0⟩) (h : Admissible fits allNodes rules hint node) :
    ∃ picked, (withCapacity fits allNodes (withAffinity rules allNodes (Strategy.roundRobin allNodes).select)
      memory hint).1 = .ok picked := by
  obtain ⟨hmem, havoid, hallowed, report, hreport, hfits⟩ := h
  obtain rfl : fits = some report := hreport
  have hcandidate := (mem_capacityCandidates hshape).mpr ⟨hmem, havoid⟩
  rw [withCapacity_of_candidates (List.ne_nil_of_mem hcandidate),
    if_pos (List.any_eq_true.mpr ⟨node, hcandidate, hfits⟩)]
  refine withAffinity_complete hprefer hmem ?_ hallowed
  rw [List.mem_append, not_or]
  exact ⟨havoid, fun hfull ↦ by simp [hfits] at hfull⟩

/-- Over any universe, whatever the stack returns is admissible; over `round_robin` it returns a node
whenever there is one to return. -/
theorem selector_stack_sound_complete (hover : strategy.Over allNodes) (hne : allNodes ≠ [])
    (hshape : hint.shape ≠ ⟨0, 0⟩) (rules : List AffinityRule) (fits : Option (String → Bool))
    (memory : Memory) :
    (∀ node, (withCapacity fits allNodes (withAffinity rules allNodes strategy.select) memory hint).1 =
      .ok node → Admissible fits allNodes rules hint node) ∧
    (strategy = .roundRobin allNodes → (∀ rule ∈ rules, rule.preferNodes ⊆ allNodes) →
      (∃ node, Admissible fits allNodes rules hint node) →
      ∃ node, (withCapacity fits allNodes (withAffinity rules allNodes strategy.select) memory hint).1 =
        .ok node) := by
  refine ⟨fun node h ↦ stack_eq_ok hover hne hshape h, ?_⟩
  rintro rfl hprefer ⟨node, hadmissible⟩
  exact stack_complete hprefer hshape hadmissible

/-- Three nodes, of which the rule pins the profile to two and keeps it away from where the prod profile
runs. -/
def gpuRule : AffinityRule where
  matchProfile := "gpu"
  preferNodes := ["pve1", "pve2"]
  require := true
  antiAffinityWith := "prod"

def gpuHint : Hint where
  profile := "gpu"
  existingVMs := [⟨"pve1", "prod"⟩]
  shape := ⟨4 * 2 ^ 30, 2⟩

/-- The only node that is left is returned. -/
theorem selector_stack_sound_complete_gpu :
    Admissible (some fun _ ↦ true) ["pve1", "pve2", "pve3"] [gpuRule] gpuHint "pve2" ∧
      ∃ node, (withCapacity (some fun _ ↦ true) ["pve1", "pve2", "pve3"]
        (withAffinity [gpuRule] ["pve1", "pve2", "pve3"] (Strategy.roundRobin ["pve1", "pve2", "pve3"]).select)
        { next := 2 } gpuHint).1 = .ok node := by
  have hadmissible : Admissible (some fun _ ↦ true) ["pve1", "pve2", "pve3"] [gpuRule] gpuHint "pve2" := by
    refine ⟨by decide, by decide, fun rule hrule ↦ ?_, _, rfl, rfl⟩
    obtain rfl : gpuRule = rule := Option.some.inj hrule
    decide
  have hover : (Strategy.roundRobin ["pve1", "pve2", "pve3"]).Over ["pve1", "pve2", "pve3"] := rfl
  refine ⟨hadmissible, (selector_stack_sound_complete hover (by decide) (by decide) [gpuRule] _ _).2 rfl ?_
    ⟨_, hadmissible⟩⟩
  decide

end ScalesetProxmox.NodeSelector
