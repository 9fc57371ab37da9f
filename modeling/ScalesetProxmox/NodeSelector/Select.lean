import ScalesetProxmox.Nodecap.Ledger
import Mathlib.Data.Rat.Defs

/-!
# Choosing a node

`internal/nodeselector/nodeselector.go`: three strategies, and two wrappers that narrow the nodes a
strategy may return. The affinity wrapper turns a profile's rule into entries of the hint's avoid
list, the capacity wrapper does the same for nodes without room, and `buildNodeSelector` puts capacity
outside affinity.

Load scores are rational numbers here and floating-point numbers in the source. The scores are an
association list; the source ranges over a map, whose order is any order of that list.
-/

namespace ScalesetProxmox.NodeSelector

open Nodecap (Shape)

variable {nodes avoid allNodes : List String}

/-- What the affinity rules see of a tracked VM. -/
structure ExistingVM where
  node : String
  profile : String
  deriving DecidableEq, Repr

structure Hint where
  avoid : List String := []
  profile : String := ""
  existingVMs : List ExistingVM := []
  shape : Shape := ⟨0, 0⟩

inductive Err
  /-- `single`: the only node is in the avoid list. -/
  | onlyNodeAvoided (node : String)
  /-- `round_robin`: all nodes are in the avoid list. -/
  | allNodesAvoided
  /-- `least_loaded`: no scores, fresh or stale. -/
  | scoresUnknown
  | noEligibleNodes
  | allCandidatesAvoided
  /-- `ErrAffinityRequireUnsatisfiable` -/
  | affinityRequireUnsatisfiable (profile antiAffinityWith : String)
  | affinityLeftNoNode
  /-- `ErrNoCapacity` -/
  | noCapacity (profile : String) (shape : Shape) (candidates : ℕ)
  /-- `ErrNoCapacity`, around the accountant's error. -/
  | capacityUnknown
  deriving DecidableEq, Repr

/-- `errors.Is(err, ErrNoCapacity)` -/
def Err.isNoCapacity : Err → Bool
  | .noCapacity _ _ _ | .capacityUnknown => true
  | _ => false

/-- `errors.Is(err, ErrAffinityRequireUnsatisfiable)` -/
def Err.isRequireUnsatisfiable : Err → Bool
  | .affinityRequireUnsatisfiable _ _ => true
  | _ => false

/-- A rule pins or excludes nodes for the profile it matches; an empty profile matches every one. -/
structure AffinityRule where
  matchProfile : String := ""
  preferNodes : List String := []
  require : Bool := false
  antiAffinityWith : String := ""
  deriving DecidableEq, Repr

inductive StrategyName
  | single
  | roundRobin
  | leastLoaded
  deriving DecidableEq, Repr

structure NodesConfig where
  strategy : StrategyName
  members : List String := []
  singleNode : String := ""
  affinity : List AffinityRule := []
  deriving DecidableEq, Repr

/-- `affinityNodeUniverse` -/
def NodesConfig.universe (cfg : NodesConfig) : List String :=
  if cfg.strategy = .single then [cfg.singleNode] else cfg.members

/-- What the strategies remember between calls: the cursor of `round_robin` and the scores that
`least_loaded` would use now, fresh or stale. -/
structure Memory where
  next : ℕ := 0
  scores : Option (List (String × ℚ)) := none

/-! ## Strategies -/

def selectSingle (node : String) (hint : Hint) : Except Err String :=
  if node ∈ hint.avoid then .error (.onlyNodeAvoided node) else .ok node

/-- At most `tries` nodes from the cursor on, which is always an index of the list. -/
def rotate (nodes avoid : List String) : ℕ → ℕ → Except Err String × ℕ
  | 0, next => (.error .allNodesAvoided, next)
  | tries + 1, next =>
    let node := nodes.getD (next % nodes.length) ""
    let next := (next + 1) % nodes.length
    if node ∈ avoid then rotate nodes avoid tries next else (.ok node, next)

def selectRoundRobin (nodes : List String) (next : ℕ) (hint : Hint) : Except Err String × ℕ :=
  rotate nodes hint.avoid nodes.length next

/-- The first of the best scores among the nodes that are not avoided. -/
def leastScore (avoid : List String) : Option (String × ℚ) → List (String × ℚ) → Option (String × ℚ)
  | best, [] => best
  | best, (node, score) :: rest =>
    if node ∈ avoid then leastScore avoid best rest
    else
      match best with
      | none => leastScore avoid (some (node, score)) rest
      | some (bestNode, bestScore) =>
        if score < bestScore then leastScore avoid (some (node, score)) rest
        else leastScore avoid (some (bestNode, bestScore)) rest

/-- `Fetch` keeps the nodes that are wanted; no list means all of them. -/
def wantedScores (nodes : List String) (scores : List (String × ℚ)) : List (String × ℚ) :=
  scores.filter fun entry ↦ nodes.isEmpty || nodes.contains entry.1

def selectLeastLoaded (nodes : List String) (scores : Option (List (String × ℚ))) (hint : Hint) :
    Except Err String :=
  match scores.map (wantedScores nodes) with
  | none => .error .scoresUnknown
  | some [] => .error .noEligibleNodes
  | some scores =>
    match leastScore hint.avoid none scores with
    | none => .error .allCandidatesAvoided
    | some (node, _) => .ok node

/-- The `Selector` interface, with the state of the strategy inside. -/
abbrev Selector := Memory → Hint → Except Err String × Memory

inductive Strategy
  | single (node : String)
  | roundRobin (nodes : List String)
  | leastLoaded (nodes : List String)
  deriving DecidableEq, Repr

def Strategy.select : Strategy → Selector
  | .single node => fun memory hint ↦ (selectSingle node hint, memory)
  | .roundRobin nodes => fun memory hint ↦
    let picked := selectRoundRobin nodes memory.next hint
    (picked.1, { memory with next := picked.2 })
  | .leastLoaded nodes => fun memory hint ↦ (selectLeastLoaded nodes memory.scores hint, memory)

/-- `buildUnderlyingSelector` -/
def NodesConfig.underlying (cfg : NodesConfig) : Strategy :=
  match cfg.strategy with
  | .single => .single cfg.singleNode
  | .roundRobin => .roundRobin cfg.members
  | .leastLoaded => .leastLoaded cfg.members

def selectUnderlying (cfg : NodesConfig) : Selector := cfg.underlying.select

/-! ## The affinity wrapper -/

def matchingRule (rules : List AffinityRule) (profile : String) : Option AffinityRule :=
  rules.find? fun rule ↦ rule.matchProfile = "" ∨ rule.matchProfile = profile

/-- The nodes that host a VM of the profile that the rule keeps away from. -/
def AffinityRule.excluded (rule : AffinityRule) (existing : List ExistingVM) : List String :=
  if rule.antiAffinityWith = "" then []
  else (existing.filter (·.profile = rule.antiAffinityWith)).map ExistingVM.node

def eligibleFrom (candidates excluded avoid : List String) : List String :=
  candidates.filter fun node ↦ node ∉ excluded ∧ node ∉ avoid

/-- A rule without preferred nodes prefers all. -/
def AffinityRule.candidates (rule : AffinityRule) (allNodes : List String) : List String :=
  if rule.preferNodes = [] then allNodes else rule.preferNodes

def AffinityRule.eligible (rule : AffinityRule) (allNodes : List String) (hint : Hint) :
    Except Err (List String) :=
  let excluded := rule.excluded hint.existingVMs
  let eligible := eligibleFrom (rule.candidates allNodes) excluded hint.avoid
  if eligible = [] then
    if rule.require then
      .error (.affinityRequireUnsatisfiable hint.profile rule.antiAffinityWith)
    else
      let eligible := eligibleFrom allNodes excluded hint.avoid
      if eligible = [] then .error .affinityLeftNoNode else .ok eligible
  else
    .ok eligible

/-- Everything that is not eligible goes on the avoid list. -/
def Hint.restrict (hint : Hint) (allNodes eligible : List String) : Hint :=
  { hint with avoid := hint.avoid ++ allNodes.filter (· ∉ eligible) }

/-- `NewAffinity`. Without a matching rule the hint passes through. -/
def withAffinity (rules : List AffinityRule) (allNodes : List String) (underlying : Selector) : Selector :=
  fun memory hint ↦
    match matchingRule rules hint.profile with
    | none => underlying memory hint
    | some rule =>
      match rule.eligible allNodes hint with
      | .error err => (.error err, memory)
      | .ok eligible => underlying memory (hint.restrict allNodes eligible)

def selectAffinity (cfg : NodesConfig) : Selector :=
  withAffinity cfg.affinity cfg.universe (selectUnderlying cfg)

/-! ## The capacity wrapper -/

/-- The nodes that the accountant is asked about. -/
def capacityCandidates (allNodes : List String) (hint : Hint) : List String :=
  if hint.shape = ⟨0, 0⟩ then [] else allNodes.filter (· ∉ hint.avoid)

/-- `NewCapacity`. `fits` is the accountant's answer, `none` when it has no snapshot. A hint without a
shape, or without a node to ask about, passes through. -/
def withCapacity (fits : Option (String → Bool)) (allNodes : List String) (underlying : Selector) :
    Selector :=
  fun memory hint ↦
    match capacityCandidates allNodes hint with
    | [] => underlying memory hint
    | candidates =>
      match fits with
      | none => (.error .capacityUnknown, memory)
      | some fits =>
        if candidates.any fits then
          underlying memory
            { hint with avoid := hint.avoid ++ candidates.filter fun node ↦ !fits node }
        else
          (.error (.noCapacity hint.profile hint.shape candidates.length), memory)

/-- The selector that `buildNodeSelector` makes. -/
def selectCapacity (cfg : NodesConfig) (fits : Option (String → Bool)) : Selector :=
  withCapacity fits cfg.universe (selectAffinity cfg)

/-! ## What a selection returns -/

variable {cfg : NodesConfig} {memory : Memory} {hint : Hint} {node : String} {err : Err}
  {rules : List AffinityRule} {strategy : Strategy}

/-- No rule keeps the hint's profile away from the node, and a hard pin names it. -/
def Allowed (rules : List AffinityRule) (hint : Hint) (node : String) : Prop :=
  ∀ rule ∈ matchingRule rules hint.profile, node ∉ rule.excluded hint.existingVMs ∧
    (rule.require = true → rule.preferNodes ≠ [] → node ∈ rule.preferNodes)

instance (rules : List AffinityRule) (hint : Hint) (node : String) : Decidable (Allowed rules hint node) :=
  inferInstanceAs (Decidable (∀ rule ∈ matchingRule rules hint.profile, _))

/-- The node may host a VM of the profile: it is declared and allowed. -/
def legal (cfg : NodesConfig) (profile : String) (existing : List ExistingVM) (node : String) : Prop :=
  node ∈ cfg.universe ∧ Allowed cfg.affinity { profile := profile, existingVMs := existing } node

instance (cfg : NodesConfig) (profile : String) (existing : List ExistingVM) (node : String) :
    Decidable (legal cfg profile existing node) :=
  inferInstanceAs (Decidable (_ ∧ _))

theorem rotate_eq_ok {tries next : ℕ} (hne : nodes ≠ []) (h : (rotate nodes avoid tries next).1 = .ok node) :
    node ∈ nodes ∧ node ∉ avoid := by
  induction tries generalizing next with
  | zero => cases h
  | succ tries ih =>
    simp only [rotate] at h
    split_ifs at h with hin
    · exact ih h
    · cases h
      have hlt : next % nodes.length < nodes.length := Nat.mod_lt _ (List.length_pos_iff.mpr hne)
      rw [List.getD_eq_getElem?_getD, List.getElem?_eq_getElem hlt, Option.getD_some] at hin ⊢
      exact ⟨List.getElem_mem hlt, hin⟩

theorem rotate_eq_error {tries next : ℕ} (h : (rotate nodes avoid tries next).1 = .error err) :
    err = .allNodesAvoided := by
  induction tries generalizing next with
  | zero =>
    cases h
    rfl
  | succ tries ih =>
    simp only [rotate] at h
    split_ifs at h
    exact ih h

/-- The best node is one of those ranked, or the one that was best before. -/
theorem leastScore_mem {scores : List (String × ℚ)} {best : Option (String × ℚ)} {picked : String × ℚ}
    (h : leastScore avoid best scores = some picked) :
    (picked ∈ scores ∧ picked.1 ∉ avoid) ∨ best = some picked := by
  induction scores generalizing best with
  | nil => exact .inr h
  | cons entry rest ih =>
    obtain ⟨node, score⟩ := entry
    -- the search goes on with the old best or with this entry
    have hnext {best' : Option (String × ℚ)} (hrest : leastScore avoid best' rest = some picked)
        (hbest : best' = best ∨ best' = some (node, score) ∧ node ∉ avoid) :
        (picked ∈ (node, score) :: rest ∧ picked.1 ∉ avoid) ∨ best = some picked := by
      rcases ih hrest with ⟨hmem, havoid⟩ | hpicked
      · exact .inl ⟨List.mem_cons_of_mem _ hmem, havoid⟩
      · rcases hbest with rfl | ⟨rfl, havoid⟩
        · exact .inr hpicked
        · cases hpicked
          exact .inl ⟨List.mem_cons_self, havoid⟩
    simp only [leastScore] at h
    split_ifs at h with hin
    · exact hnext h (.inl rfl)
    · split at h
      · exact hnext h (.inr ⟨rfl, hin⟩)
      · split_ifs at h
        · exact hnext h (.inr ⟨rfl, hin⟩)
        · exact hnext h (.inl rfl)

theorem selectLeastLoaded_eq_ok {scores : Option (List (String × ℚ))} (hne : nodes ≠ [])
    (h : selectLeastLoaded nodes scores hint = .ok node) :
    node ∈ nodes ∧ node ∉ hint.avoid := by
  unfold selectLeastLoaded at h
  split at h
  · cases h
  · cases h
  · next kept hkept =>
    split at h
    · cases h
    · next picked score hpicked =>
      cases h
      rcases leastScore_mem hpicked with ⟨hmem, havoid⟩ | hnone
      · obtain ⟨all, _, rfl⟩ := Option.map_eq_some_iff.mp hkept
        have hwanted := (List.mem_filter.mp hmem).2
        simp only [List.isEmpty_eq_false_iff.mpr hne, Bool.false_or, List.contains_iff_mem] at hwanted
        exact ⟨hwanted, havoid⟩
      · cases hnone

/-- The strategy is restricted to the universe. -/
def Strategy.Over (allNodes : List String) : Strategy → Prop
  | .single node => node ∈ allNodes
  | .roundRobin nodes => nodes = allNodes
  | .leastLoaded nodes => nodes = allNodes

theorem NodesConfig.underlying_over (cfg : NodesConfig) : cfg.underlying.Over cfg.universe := by
  unfold NodesConfig.underlying NodesConfig.universe
  cases cfg.strategy with
  | single => exact List.mem_singleton_self _
  | roundRobin | leastLoaded => rfl

theorem Strategy.Over.select_eq_ok (hover : strategy.Over allNodes) (hne : allNodes ≠ [])
    (h : (strategy.select memory hint).1 = .ok node) : node ∈ allNodes ∧ node ∉ hint.avoid := by
  cases strategy with
  | single only =>
    simp only [Strategy.select, selectSingle] at h
    split_ifs at h with havoid
    cases h
    exact ⟨hover, havoid⟩
  | roundRobin nodes =>
    obtain rfl : nodes = allNodes := hover
    exact rotate_eq_ok hne h
  | leastLoaded nodes =>
    obtain rfl : nodes = allNodes := hover
    exact selectLeastLoaded_eq_ok hne h

theorem Strategy.select_eq_error (h : (strategy.select memory hint).1 = .error err) :
    err.isNoCapacity = false := by
  cases strategy with
  | single node =>
    simp only [Strategy.select, selectSingle] at h
    split_ifs at h
    cases h
    rfl
  | roundRobin nodes =>
    rw [rotate_eq_error h]
    rfl
  | leastLoaded nodes =>
    simp only [Strategy.select, selectLeastLoaded] at h
    split at h
    · cases h
      rfl
    · cases h
      rfl
    · split at h
      · cases h
        rfl
      · cases h

theorem mem_eligibleFrom {candidates excluded : List String} :
    node ∈ eligibleFrom candidates excluded avoid ↔
      node ∈ candidates ∧ node ∉ excluded ∧ node ∉ avoid := by
  simp [eligibleFrom]

/-- What the rule leaves is clear of its exclusions and, under a hard pin, preferred. -/
theorem AffinityRule.eligible_eq_ok {rule : AffinityRule} {eligible : List String}
    (h : rule.eligible allNodes hint = .ok eligible) (hnode : node ∈ eligible) :
    node ∉ rule.excluded hint.existingVMs ∧
      (rule.require → rule.preferNodes ≠ [] → node ∈ rule.preferNodes) := by
  simp only [AffinityRule.eligible] at h
  split_ifs at h with hnone hrequire hleft
  · cases h
    exact ⟨(mem_eligibleFrom.mp hnode).2.1, fun htrue ↦ absurd htrue hrequire⟩
  · cases h
    obtain ⟨hmem, hexcluded, _⟩ := mem_eligibleFrom.mp hnode
    refine ⟨hexcluded, fun _ hne ↦ ?_⟩
    rwa [AffinityRule.candidates, if_neg hne] at hmem

theorem AffinityRule.eligible_eq_error {rule : AffinityRule} (h : rule.eligible allNodes hint = .error err) :
    err.isNoCapacity = false := by
  simp only [AffinityRule.eligible] at h
  split_ifs at h <;> cases h <;> rfl

theorem not_mem_restrict {eligible : List String} : node ∉ (hint.restrict allNodes eligible).avoid ↔
      node ∉ hint.avoid ∧ (node ∈ allNodes → node ∈ eligible) := by
  simp [Hint.restrict]

theorem withAffinity_eq_ok (hover : strategy.Over allNodes) (hne : allNodes ≠ [])
    (h : (withAffinity rules allNodes strategy.select memory hint).1 = .ok node) :
    node ∈ allNodes ∧ node ∉ hint.avoid ∧ Allowed rules hint node := by
  unfold withAffinity at h
  unfold Allowed
  split at h
  · next hrule =>
    obtain ⟨hmem, havoid⟩ := hover.select_eq_ok hne h
    exact ⟨hmem, havoid, by simp [hrule]⟩
  · next rule hrule =>
    split at h
    · cases h
    · next eligible heligible =>
      obtain ⟨hmem, hrestrict⟩ := hover.select_eq_ok hne h
      obtain ⟨havoid, hin⟩ := not_mem_restrict.mp hrestrict
      refine ⟨hmem, havoid, fun other hother ↦ ?_⟩
      cases hrule.symm.trans hother
      exact AffinityRule.eligible_eq_ok heligible (hin hmem)

theorem selectAffinity_eq_ok (hne : cfg.universe ≠ [])
    (h : (selectAffinity cfg memory hint).1 = .ok node) :
    legal cfg hint.profile hint.existingVMs node ∧ node ∉ hint.avoid := by
  obtain ⟨hmem, havoid, hallowed⟩ := withAffinity_eq_ok cfg.underlying_over hne h
  exact ⟨⟨hmem, hallowed⟩, havoid⟩

theorem selectAffinity_eq_error (h : (selectAffinity cfg memory hint).1 = .error err) :
    err.isNoCapacity = false := by
  unfold selectAffinity withAffinity at h
  split at h
  · exact Strategy.select_eq_error h
  · split at h
    · next other herr =>
      cases h
      exact AffinityRule.eligible_eq_error herr
    · exact Strategy.select_eq_error h

/-- With nodes to ask about and an answer, the selection goes on among those with room. -/
theorem withCapacity_of_candidates {report : String → Bool} {underlying : Selector}
    (hne : capacityCandidates allNodes hint ≠ []) :
    withCapacity (some report) allNodes underlying memory hint =
      if (capacityCandidates allNodes hint).any report then
        underlying memory
          { hint with
            avoid := hint.avoid ++ (capacityCandidates allNodes hint).filter fun node ↦ !report node }
      else
        (.error (.noCapacity hint.profile hint.shape (capacityCandidates allNodes hint).length), memory) := by
  obtain ⟨first, rest, hcandidates⟩ := List.exists_cons_of_ne_nil hne
  unfold withCapacity
  rw [hcandidates]

end ScalesetProxmox.NodeSelector
