import ScalesetProxmox.Pool.Victims

/-!
# Admitting a clone

`admitClone` of `internal/pool/capacity.go` once no parked reservation can be used: a node is selected
among those with room, then the clone's capacity is reserved there. A refusal of either step for want
of capacity is a deferral, and a deferred hot clone arms the idle eviction.

The refusal is recognised by the selector's error. The capacity wrapper gives its own error when no
node has room; when some node has, the affinity wrapper decides, and its errors are not capacity
errors.
-/

namespace ScalesetProxmox.Pool

open Store (Time PoolKind)
open Nodecap (Shape Accountant Snapshot)
open NodeSelector (Memory ExistingVM legal)

/-- The answer of `Fits` for the profile's shape; `none` while the accountant has no snapshot. -/
def fitsAnswer (cfg : CapacityConfig) (snap : Option Snapshot) (now : Time) (a : Accountant)
    (profile : String) : Option (String → Bool) :=
  snap.map fun snap node ↦
    (a.sweepLocked snap now).fitsLocked cfg.accountant snap node (cfg.shape profile) []

inductive Selection
  | node (name : String)
  /-- No node has capacity. -/
  | deferred
  | failed
  deriving DecidableEq, Repr

/-- A linked clone stays on the template's node, whatever the selector says. -/
def selectNode (cfg : CapacityConfig) (snap : Option Snapshot) (now : Time) (a : Accountant)
    (memory : Memory) (profile : String) (existing : List ExistingVM) : Selection × Memory :=
  let picked := NodeSelector.selectCapacity cfg.placement (fitsAnswer cfg snap now a profile) memory
    { profile := profile, existingVMs := existing, shape := cfg.shape profile }
  match picked.1 with
  | .error err => (if err.isNoCapacity then .deferred else .failed, picked.2)
  | .ok node => (.node (if cfg.linkedClones then cfg.templateNode else node), picked.2)

def reserveCapacity (cfg : CapacityConfig) (snap : Option Snapshot) (now : Time) (a : Accountant)
    (profile node : String) : Accountant × Option ℕ :=
  match snap with
  | none => (a, none)
  | some snap => a.reserve cfg.accountant snap now node (cfg.shape profile)

/-- Only a hot clone arms the eviction. -/
def recordCapacityDeferral (kind : PoolKind) (capacityDeferredHot : Bool) : Bool :=
  kind = .hot || capacityDeferredHot

/-- The claim that an attempt without a parked reservation gets, and the profile's flag after it. -/
def admitClone (cfg : CapacityConfig) (snap : Option Snapshot) (now : Time) (a : Accountant)
    (memory : Memory) (profile : String) (kind : PoolKind) (existing : List ExistingVM)
    (capacityDeferredHot : Bool) : Option (String × ℕ) × Bool :=
  match (selectNode cfg snap now a memory profile existing).1 with
  | .failed => (none, capacityDeferredHot)
  | .deferred => (none, recordCapacityDeferral kind capacityDeferredHot)
  | .node node =>
    match (reserveCapacity cfg snap now a profile node).2 with
    | some id => (some (node, id), capacityDeferredHot)
    | none => (none, recordCapacityDeferral kind capacityDeferredHot)

variable {cfg : CapacityConfig} {snap : Snapshot} {now : Time} {a : Accountant} {memory : Memory}
  {profile : String} {existing : List ExistingVM}

def Refused (cfg : CapacityConfig) (snap : Snapshot) (now : Time) (a : Accountant) (profile node : String) :
    Prop :=
  (a.sweepLocked snap now).fitsLocked cfg.accountant snap node (cfg.shape profile) [] = false

theorem shape_ne_zero : cfg.shape profile ≠ ⟨0, 0⟩ := by
  have hpos := cfg.memory_pos profile
  simp only [CapacityConfig.shape, shapeOf, ne_eq, Shape.mk.injEq, not_and]
  omega

/-- With nothing to avoid, the accountant is asked about every declared node. -/
theorem capacityCandidates_shape :
    NodeSelector.capacityCandidates cfg.placement.universe
      { profile := profile, existingVMs := existing, shape := cfg.shape profile } =
      cfg.placement.universe := by
  rw [NodeSelector.capacityCandidates, if_neg shape_ne_zero]
  simp

/-- The nodes that the affinity rules choose among. -/
def roomy (cfg : CapacityConfig) (snap : Snapshot) (now : Time) (a : Accountant) (profile : String)
    (existing : List ExistingVM) : NodeSelector.Hint where
  profile := profile
  existingVMs := existing
  shape := cfg.shape profile
  avoid := cfg.placement.universe.filter fun node ↦
    !(a.sweepLocked snap now).fitsLocked cfg.accountant snap node (cfg.shape profile) []

theorem selectNode_of_refused (h : ∀ node ∈ cfg.placement.universe, Refused cfg snap now a profile node) :
    (selectNode cfg (some snap) now a memory profile existing).1 = .deferred := by
  have hnone : ¬ (cfg.placement.universe.any fun node ↦
      (a.sweepLocked snap now).fitsLocked cfg.accountant snap node (cfg.shape profile) []) = true := by
    rw [List.any_eq_true]
    rintro ⟨node, hnode, hfits⟩
    cases (h node hnode).symm.trans hfits
  simp only [selectNode, fitsAnswer, Option.map_some]
  rw [NodeSelector.selectCapacity, NodeSelector.withCapacity_of_candidates (by
    rw [capacityCandidates_shape]
    exact cfg.universe_ne_nil), capacityCandidates_shape, if_neg hnone]
  rfl

/-- Once a node has room, the affinity rules decide, and whatever they say is no capacity refusal. -/
theorem selectNode_of_fits (memory : Memory) (existing : List ExistingVM) {node : String}
    (hnode : node ∈ cfg.placement.universe) (hfits : ¬ Refused cfg snap now a profile node) :
    (selectNode cfg (some snap) now a memory profile existing).1 = .failed ∨
      ∃ picked, legal cfg.placement profile existing picked ∧ ¬ Refused cfg snap now a profile picked ∧
        (selectNode cfg (some snap) now a memory profile existing).1 =
          .node (if cfg.linkedClones then cfg.templateNode else picked) := by
  have hsome : cfg.placement.universe.any fun node ↦
      (a.sweepLocked snap now).fitsLocked cfg.accountant snap node (cfg.shape profile) [] := by
    rw [List.any_eq_true]
    exact ⟨node, hnode, Bool.not_eq_false _ ▸ hfits⟩
  have hselect : NodeSelector.selectCapacity cfg.placement (fitsAnswer cfg (some snap) now a profile) memory
      { profile := profile, existingVMs := existing, shape := cfg.shape profile } =
        NodeSelector.selectAffinity cfg.placement memory (roomy cfg snap now a profile existing) := by
    rw [fitsAnswer, Option.map_some, NodeSelector.selectCapacity, NodeSelector.withCapacity_of_candidates (by
      rw [capacityCandidates_shape]
      exact cfg.universe_ne_nil), capacityCandidates_shape, if_pos hsome]
    rfl
  simp only [selectNode, hselect]
  cases hpicked : (NodeSelector.selectAffinity cfg.placement memory
      (roomy cfg snap now a profile existing)).1 with
  | error err =>
    left
    simp only [NodeSelector.selectAffinity_eq_error hpicked]
    rfl
  | ok picked =>
    obtain ⟨hlegal, havoid⟩ := NodeSelector.selectAffinity_eq_ok cfg.universe_ne_nil hpicked
    refine .inr ⟨picked, hlegal, fun hrefused ↦ havoid ?_, rfl⟩
    rw [Refused] at hrefused
    simp [roomy, hlegal.1, hrefused]

/-- A selected node is legal and has room; in linked mode it is the template's node instead. -/
theorem selectNode_eq_node {node : String}
    (h : (selectNode cfg (some snap) now a memory profile existing).1 = .node node) :
    ∃ picked, legal cfg.placement profile existing picked ∧ ¬ Refused cfg snap now a profile picked ∧
      node = if cfg.linkedClones then cfg.templateNode else picked := by
  by_cases hall : ∀ node ∈ cfg.placement.universe, Refused cfg snap now a profile node
  · rw [selectNode_of_refused hall] at h
    cases h
  · obtain ⟨free, hmem, hfits⟩ : ∃ node ∈ cfg.placement.universe, ¬ Refused cfg snap now a profile node := by
      simpa using hall
    rcases selectNode_of_fits memory existing hmem hfits with hfailed | ⟨picked, hlegal, hroom, hnode⟩
    · rw [hfailed] at h
      cases h
    · rw [hnode] at h
      cases h
      exact ⟨picked, hlegal, hroom, rfl⟩

/-- When every legal node is refused, a deferral is recorded exactly if every declared node is: a node
with room that the profile may not use hides the refusal. -/
theorem refusal_arms_eviction_iff
    (hrefused : ∀ node, legal cfg.placement profile existing node → Refused cfg snap now a profile node) :
    (admitClone cfg (some snap) now a memory profile .hot existing false).2 = true ↔
      ∀ node ∈ cfg.placement.universe, Refused cfg snap now a profile node := by
  constructor
  · intro harmed
    by_contra hall
    obtain ⟨node, hmem, hfits⟩ : ∃ node ∈ cfg.placement.universe, ¬ Refused cfg snap now a profile node := by
      simpa using hall
    rcases selectNode_of_fits memory existing hmem hfits with hfailed | ⟨picked, hlegal, hroom, _⟩
    · simp only [admitClone, hfailed] at harmed
      cases harmed
    · exact hroom (hrefused picked hlegal)
  · intro hall
    simp only [admitClone, selectNode_of_refused hall]
    rfl

/-- The only node is legal and full, and the refusal is recorded. -/
theorem refusal_arms_eviction_crowded :
    legal demandingPool.placement "default" [] "pve1" ∧
      (admitClone demandingPool (some crowdedSnapshot) 0 .new {} "default" .hot [] false).2 = true := by
  have hfull : ∀ node ∈ demandingPool.placement.universe,
      Refused demandingPool crowdedSnapshot 0 .new "default" node :=
    List.forall_mem_singleton.mpr (show _ = false by decide +kernel)
  refine ⟨by decide +kernel, ?_⟩
  exact (refusal_arms_eviction_iff fun node hnode ↦ hfull node hnode.1).mpr hfull

/-- A second node, from which a hard pin keeps the profile away. -/
def pinnedPool : CapacityConfig where
  toConfig := smallPool
  placement :=
    { strategy := .roundRobin, members := ["pve1", "pve2"]
      affinity := [{ matchProfile := "default", preferNodes := ["pve1"], require := true }] }
  footprint := fun _ ↦ { memoryMB := 4096, cpuCores := 2 }
  universe_ne_nil := by decide
  memory_pos := demandingPool.memory_pos

/-- The pinned node is held by the idle runner and an operator's guest, the other node is empty. -/
def pinnedSnapshot : Snapshot :=
  Nodecap.fetch {}
    [{ type := .node, node := "pve1", status := "online", maxMem := 8 * 2 ^ 30, maxCPU := 8 },
      { type := .node, node := "pve2", status := "online", maxMem := 8 * 2 ^ 30, maxCPU := 8 },
      { type := .qemu, node := "pve1", status := "running", vmid := 10000, maxMem := 4 * 2 ^ 30, maxCPU := 2 },
      { type := .qemu, node := "pve1", status := "running", vmid := 900, maxMem := 2 * 2 ^ 30,
        maxCPU := 2 }] 0

/-- The profile's one legal node is full, and no deferral is recorded. -/
theorem pinnedPool_refusal_unrecorded :
    legal pinnedPool.placement "default" [] "pve1" ∧
    (∀ node ∈ pinnedPool.placement.universe, legal pinnedPool.placement "default" [] node →
      (Accountant.new.fits {} pinnedSnapshot 0 (pinnedPool.shape "default") [node]).2 = [(node, false)]) ∧
    admitClone pinnedPool (some pinnedSnapshot) 0 .new {} "default" .hot [] false = (none, false) :=
  ⟨by decide +kernel, by decide +kernel, by decide +kernel⟩

end ScalesetProxmox.Pool
