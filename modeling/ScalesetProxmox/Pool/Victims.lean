import ScalesetProxmox.Pool.Eviction
import ScalesetProxmox.Pool.System

/-!
# Where an eviction takes place and whom it takes

`evictForDemand` scans the nodes that the profile could be placed on, as the node selector answers
when every other node is in the avoid list. If none of them has room it commits to the first whose
idle VMs can close the gaps. The candidates are all idle VMs of the scale set on that node: the
profile that the eviction serves is not left out.
-/

namespace ScalesetProxmox.Pool

open Nodecap (Shape NodeState Accountant Options)
open NodeSelector (NodesConfig Memory ExistingVM)

/-- The configuration of a pool manager with capacity admission. The source hands the selector's node
universe to the accountant and to the manager as well. -/
structure CapacityConfig extends Config where
  placement : NodesConfig
  accountant : Options := {}
  evictIdleForDemand : Bool := true
  /-- The hardware of a profile, by its name. -/
  footprint : String → Footprint
  /-- `NewCapacity` -/
  universe_ne_nil : placement.universe ≠ []
  /-- `validateProfileFootprint` -/
  memory_pos : ∀ profile, 0 < (footprint profile).memoryMB

def CapacityConfig.shape (cfg : CapacityConfig) (profile : String) : Shape :=
  shapeOf (cfg.footprint profile)

/-! ## Eligible nodes -/

def snapshotExistingVMsForAffinity (store : Store) : List ExistingVM :=
  (store.listExcludingStates [.draining, .destroying]).map fun row ↦ ⟨row.node, row.profile⟩

/-- Whether the node is a legal placement, and whether the selector could say. The hint has no shape, so
the capacity wrapper asks nothing. -/
def nodeEligible (cfg : CapacityConfig) (memory : Memory) (profile node : String)
    (existing : List ExistingVM) : (Bool × Bool) × Memory :=
  if cfg.linkedClones then
    ((node = cfg.templateNode, true), memory)
  else if cfg.placement.universe = [] then
    ((false, false), memory)
  else
    let picked := NodeSelector.selectCapacity cfg.placement none memory
      { profile := profile, existingVMs := existing, avoid := cfg.placement.universe.filter (· ≠ node) }
    match picked.1 with
    | .ok got => ((got = node, true), picked.2)
    | .error err => ((false, err.isRequireUnsatisfiable), picked.2)

/-- The nodes are probed in turn, and every probe moves the selector's cursor. -/
def probeNodes (cfg : CapacityConfig) (profile : String) (existing : List ExistingVM) :
    Memory → List (String × NodeState) → List (String × NodeState) × Memory
  | memory, [] => ([], memory)
  | memory, entry :: rest =>
    let probed := nodeEligible cfg memory profile entry.1 existing
    let later := probeNodes cfg profile existing probed.2 rest
    (if probed.1 = (true, true) then entry :: later.1 else later.1, later.2)

def eligibleNodes (cfg : CapacityConfig) (memory : Memory) (profile : String)
    (existing : List ExistingVM) (states : List (String × NodeState)) :
    List (String × NodeState) × Memory :=
  probeNodes cfg profile existing memory (states.insertionSort fun a b ↦ a.1 ≤ b.1)

/-! ## Victims -/

/-- A row whose profile is unknown or has no declared memory is no candidate. -/
def CapacityConfig.candidate (cfg : CapacityConfig) (row : Store.VM) : Option EvictionCandidate :=
  match cfg.profiles.find? (·.name = row.profile) with
  | none => none
  | some settings =>
    if (cfg.footprint settings.name).memoryMB ≤ 0 then none
    else
      some { row := row
             memBytes := (cfg.shape settings.name).memoryBytes
             vcpus := (cfg.shape settings.name).vcpus
             preferred := row.state = .warm }

def idleCandidatesByNode (cfg : CapacityConfig) (store : Store) (node : String) :
    List EvictionCandidate :=
  ((store.listByState [.hot, .warm]).filter (·.node = node)).filterMap cfg.candidate

def planOn (cfg : CapacityConfig) (store : Store) (profile : String) (entry : String × NodeState) :
    EvictionPlan :=
  planEviction (idleCandidatesByNode cfg store entry.1) (cfg.shape profile) entry.2

/-- The plans that `evictForDemand` would try, best first. -/
def evictionPlans (cfg : CapacityConfig) (store : Store) (profile : String)
    (eligible : List (String × NodeState)) : List (String × EvictionPlan) :=
  if eligible.any fun entry ↦ fitsNode entry.2 (cfg.shape profile) then []
  else
    (eligible.filter fun entry ↦ (planOn cfg store profile entry).victims ≠ []).map fun entry ↦
      (entry.1, planOn cfg store profile entry)

def evictForDemand (cfg : CapacityConfig) (store : Store) (states : List (String × NodeState))
    (memory : Memory) (profile : String) : Option (String × EvictionPlan) :=
  if cfg.evictIdleForDemand then
    (evictionPlans cfg store profile
      (eligibleNodes cfg memory profile (snapshotExistingVMsForAffinity store) states).1).head?
  else
    none

/-! ## The profile's own VMs -/

section OwnHot

variable {cfg : CapacityConfig} {store : Store} {states : List (String × NodeState)} {memory : Memory}
  {profile node : String}

/-- The nodes that the scan sees as eligible. -/
def CapacityConfig.eligible (cfg : CapacityConfig) (store : Store) (states : List (String × NodeState))
    (memory : Memory) (profile : String) : List (String × NodeState) :=
  (eligibleNodes cfg memory profile (snapshotExistingVMsForAffinity store) states).1

/-- The idle VMs on the node, as they would be taken. -/
def CapacityConfig.idle (cfg : CapacityConfig) (store : Store) (entry : String × NodeState) :
    List EvictionCandidate :=
  evictionOrder (idleCandidatesByNode cfg store entry.1)

/-- These VMs can close the profile's gaps on the node. -/
def CapacityConfig.closable (cfg : CapacityConfig) (profile : String) (entry : String × NodeState)
    (ordered : List EvictionCandidate) : Prop :=
  Closable (memGap (cfg.shape profile) entry.2) (vcpuGap (cfg.shape profile) entry.2) ordered

def ownHot (profile : String) (c : EvictionCandidate) : Bool :=
  c.row.profile = profile ∧ c.row.state = .hot

/-- When no eligible node has room, then on the first whose idle VMs can close the gaps those before the
first hot VM of the profile can close them. -/
def ClosedByOthers (cfg : CapacityConfig) (store : Store) (states : List (String × NodeState))
    (memory : Memory) (profile : String) : Prop :=
  cfg.evictIdleForDemand = true →
    (∀ entry ∈ cfg.eligible store states memory profile, fitsNode entry.2 (cfg.shape profile) = false) →
    ∀ before entry after, cfg.eligible store states memory profile = before ++ entry :: after →
      (∀ earlier ∈ before, ¬ cfg.closable profile earlier (cfg.idle store earlier)) →
      cfg.closable profile entry (cfg.idle store entry) →
      cfg.closable profile entry ((cfg.idle store entry).takeWhile fun c ↦ !ownHot profile c)

/-- The shortest cover keeps to the candidates before the first that fails `p` exactly when these can
close the gaps. -/
theorem ShortestCover.forall_iff_closable {memGap : ℕ} {vcpuGap : ℤ}
    {ordered victims : List EvictionCandidate} (h : ShortestCover memGap vcpuGap ordered victims)
    (p : EvictionCandidate → Bool) :
    (∀ c ∈ victims, p c) ↔ Closable memGap vcpuGap (ordered.takeWhile p) := by
  constructor
  · intro hall
    obtain ⟨rest, hrest⟩ := h.initial
    refine ⟨victims, ⟨rest.takeWhile p, ?_⟩, h.ne_nil, h.covers⟩
    rw [← hrest, List.takeWhile_append_of_pos hall]
  · rintro ⟨segment, hsegment, hne, hcovers⟩ c hc
    have hinitial : segment <+: ordered := hsegment.trans (List.takeWhile_prefix p)
    have hvictims := (h.least segment hinitial hne hcovers).trans hsegment
    exact List.mem_takeWhile_imp (hvictims.subset hc)

theorem any_fits_eq_false : ((cfg.eligible store states memory profile).any fun entry ↦
      fitsNode entry.2 (cfg.shape profile)) = false ↔
    ∀ entry ∈ cfg.eligible store states memory profile, fitsNode entry.2 (cfg.shape profile) = false := by
  simp only [List.any_eq_false, Bool.not_eq_true]

/-- An eviction starts on the first closable of the eligible nodes, none of which has room. -/
theorem evictForDemand_eq_some {plan : EvictionPlan}
    (hnone : ∀ entry ∈ cfg.eligible store states memory profile,
      fitsNode entry.2 (cfg.shape profile) = false) (henabled : cfg.evictIdleForDemand) :
    evictForDemand cfg store states memory profile = some (node, plan) ↔
      ∃ before st after, cfg.eligible store states memory profile = before ++ (node, st) :: after ∧
        (∀ earlier ∈ before, ¬ cfg.closable profile earlier (cfg.idle store earlier)) ∧
        cfg.closable profile (node, st) (cfg.idle store (node, st)) ∧
        plan = planOn cfg store profile (node, st) := by
  have hviable {entry : String × NodeState} (hentry : entry ∈ cfg.eligible store states memory profile) :
      decide ((planOn cfg store profile entry).victims ≠ []) = true ↔
        cfg.closable profile entry (cfg.idle store entry) := by
    unfold planOn
    rw [decide_eq_true_eq, planEviction_ne_nil]
    exact ⟨fun h ↦ h.2, fun h ↦ ⟨hnone entry hentry, h⟩⟩
  have hchosen : evictForDemand cfg store states memory profile =
      ((cfg.eligible store states memory profile).find? fun entry ↦
        (planOn cfg store profile entry).victims ≠ []).map fun entry ↦
          (entry.1, planOn cfg store profile entry) := by
    unfold evictForDemand evictionPlans
    rw [if_pos henabled, ← CapacityConfig.eligible, any_fits_eq_false.mpr hnone,
      if_neg Bool.false_ne_true, List.head?_map, List.head?_filter]
  rw [hchosen, Option.map_eq_some_iff]
  constructor
  · rintro ⟨⟨found, st⟩, hfound, heq⟩
    cases heq
    obtain ⟨hplan, before, after, hsplit, hbefore⟩ := List.find?_eq_some_iff_append.mp hfound
    refine ⟨before, st, after, hsplit, fun earlier hearlier hclosable ↦ ?_, ?_, rfl⟩
    · have hplans := (hviable (hsplit ▸ List.mem_append_left _ hearlier)).mpr hclosable
      simpa [hplans] using hbefore earlier hearlier
    · exact (hviable (hsplit ▸ List.mem_append_right _ List.mem_cons_self)).mp hplan
  · rintro ⟨before, st, after, hsplit, hbefore, hclosable, rfl⟩
    refine ⟨(node, st), List.find?_eq_some_iff_append.mpr ⟨?_, before, after, hsplit, ?_⟩, rfl⟩
    · exact (hviable (hsplit ▸ List.mem_append_right _ List.mem_cons_self)).mpr hclosable
    · intro earlier hearlier
      have hplans := mt (hviable (hsplit ▸ List.mem_append_left _ hearlier)).mp (hbefore earlier hearlier)
      exact Bool.not_eq_true' _ ▸ Bool.eq_false_iff.mpr hplans

theorem evictForDemand_eq_none (h : ¬ (cfg.evictIdleForDemand ∧
    ∀ entry ∈ cfg.eligible store states memory profile, fitsNode entry.2 (cfg.shape profile) = false)) :
    evictForDemand cfg store states memory profile = none := by
  unfold evictForDemand
  split_ifs with henabled
  · rw [← any_fits_eq_false] at h
    have hroom := Bool.eq_true_of_not_eq_false fun hfull ↦ h ⟨henabled, hfull⟩
    rw [← CapacityConfig.eligible, evictionPlans, if_pos hroom]
    rfl
  · rfl

/-- An eviction takes no hot VM of the profile that it serves, exactly when the idle VMs before these
close the gaps. -/
theorem eviction_spares_own_hot_iff :
    (∀ node plan, evictForDemand cfg store states memory profile = some (node, plan) →
      ∀ c ∈ plan.victims, ¬ (c.row.profile = profile ∧ c.row.state = .hot)) ↔
      ClosedByOthers cfg store states memory profile := by
  -- on the node of the eviction, the plan's victims are the shortest cover
  have hshortest {node : String} {st : NodeState} (hfits : fitsNode st (cfg.shape profile) = false)
      (hclosable : cfg.closable profile (node, st) (cfg.idle store (node, st))) :
      (∀ c ∈ (planOn cfg store profile (node, st)).victims,
        ¬ (c.row.profile = profile ∧ c.row.state = .hot)) ↔
      cfg.closable profile (node, st)
        ((cfg.idle store (node, st)).takeWhile fun c ↦ !ownHot profile c) := by
    have hplan := (planEviction_shortest (planEviction_ne_nil.mpr ⟨hfits, hclosable⟩)).2
    refine Iff.trans ?_ (hplan.forall_iff_closable fun c ↦ !ownHot profile c)
    refine forall₂_congr fun c _ ↦ ?_
    simp [ownHot, imp_iff_not_or]
  constructor
  · intro hspares henabled hnone before ⟨node, st⟩ after hsplit hbefore hclosable
    have hentry : (node, st) ∈ cfg.eligible store states memory profile := by
      rw [hsplit]
      exact List.mem_append_right _ List.mem_cons_self
    apply (hshortest (hnone _ hentry) hclosable).mp
    apply hspares node
    exact (evictForDemand_eq_some hnone henabled).mpr
      ⟨before, st, after, hsplit, hbefore, hclosable, rfl⟩
  · intro hclosed node plan hevict
    by_cases hruns : cfg.evictIdleForDemand = true ∧
        ∀ entry ∈ cfg.eligible store states memory profile, fitsNode entry.2 (cfg.shape profile) = false
    · obtain ⟨henabled, hnone⟩ := hruns
      obtain ⟨before, st, after, hsplit, hbefore, hclosable, rfl⟩ :=
        (evictForDemand_eq_some hnone henabled).mp hevict
      have hentry : (node, st) ∈ cfg.eligible store states memory profile := by
        rw [hsplit]
        exact List.mem_append_right _ List.mem_cons_self
      apply (hshortest (hnone _ hentry) hclosable).mpr
      exact hclosed henabled hnone before (node, st) after hsplit hbefore hclosable
    · rw [evictForDemand_eq_none hruns] at hevict
      cases hevict

end OwnHot

/-- The small pool with runners of 4 GiB. -/
def demandingPool : CapacityConfig where
  toConfig := smallPool
  placement := { strategy := .roundRobin, members := ["pve1"] }
  footprint := fun _ ↦ { memoryMB := 4096, cpuCores := 2 }
  universe_ne_nil := by decide
  memory_pos := fun _ ↦ by decide

/-- One idle runner. -/
def oneHot : Store :=
  Table.put .empty { vmid := 10000, node := "pve1", profile := "default", poolKind := .hot, state := .hot }

/-- The runner and an operator's guest of 2 GiB on a node of 8 GiB. -/
def crowdedSnapshot : Nodecap.Snapshot :=
  Nodecap.fetch {}
    [{ type := .node, node := "pve1", status := "online", maxMem := 8 * 2 ^ 30, maxCPU := 8 },
      { type := .qemu, node := "pve1", status := "running", vmid := 10000, maxMem := 4 * 2 ^ 30, maxCPU := 2 },
      { type := .qemu, node := "pve1", status := "running", vmid := 900, maxMem := 2 * 2 ^ 30,
        maxCPU := 2 }] 0

def crowdedStates : List (String × NodeState) := (Accountant.new.snapshot {} crowdedSnapshot 0).2

/-- Two jobs, one idle runner: to make room for a second runner the first is destroyed. -/
theorem demandingPool_evicts_own_hot :
    0 < burstDeficit (statsForProfile oneHot "default") 0 0 2 {} ∧
    (evictForDemand demandingPool oneHot crowdedStates {} "default").map (fun chosen ↦
      (chosen.1, chosen.2.victims.map fun c ↦ (c.row.vmid, c.row.profile, c.row.state))) =
      some ("pve1", [(10000, "default", .hot)]) :=
  ⟨by decide +kernel, by decide +kernel⟩

end ScalesetProxmox.Pool
