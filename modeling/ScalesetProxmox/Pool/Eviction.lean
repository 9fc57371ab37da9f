import ScalesetProxmox.Pool.Sizing
import ScalesetProxmox.NodeSelector.Select
import ScalesetProxmox.Nodecap.Fetch

/-!
# Evicting idle VMs for queued demand

The idle eviction of `internal/pool/capacity.go`. `evictForDemand` looks at the nodes that a profile
could be placed on; unless one of them has room, it plans on each in turn which idle VMs to destroy,
warm before hot and old before young, until both of the node's gaps are closed.

The gaps are taken from what the node has available, which is never below zero. The accountant's own
test on vCPUs compares the committed sum with the ceiling, so on a node above its ceiling the two
disagree.
-/

namespace ScalesetProxmox.Pool

open Store (VMID Time)
open Nodecap (Shape NodeState Accountant Snapshot Options)

/-- A profile's hardware. -/
structure Footprint where
  memoryMB : ℤ := 0
  cpuCores : ℤ := 0
  deriving DecidableEq, Repr

def shapeOf (settings : Footprint) : Shape where
  memoryBytes := (max settings.memoryMB 0).toNat * 1024 * 1024
  vcpus := settings.cpuCores

/-! ## Planning on one node -/

structure EvictionCandidate where
  row : Store.VM
  memBytes : ℕ
  vcpus : ℤ
  /-- Warm: cheaper to lose than a booted VM. -/
  preferred : Bool
  deriving DecidableEq, Repr

structure EvictionPlan where
  victims : List EvictionCandidate := []
  memGap : ℕ := 0
  vcpuGap : ℤ := 0
  freedMem : ℕ := 0
  freedVCPU : ℤ := 0
  deriving DecidableEq, Repr

def fitsNode (st : NodeState) (shape : Shape) : Bool :=
  if st.availableBytes < shape.memoryBytes then false
  else !st.cpuGated || decide (shape.vcpus ≤ st.availableVCPU)

def memGap (shape : Shape) (st : NodeState) : ℕ :=
  if st.availableBytes < shape.memoryBytes then shape.memoryBytes - st.availableBytes else 0

def vcpuGap (shape : Shape) (st : NodeState) : ℤ :=
  if st.cpuGated ∧ st.availableVCPU < shape.vcpus then shape.vcpus - st.availableVCPU else 0

/-- Warm before hot, then old before young; the sort is stable. -/
def EvictionCandidate.before (a b : EvictionCandidate) : Bool :=
  if a.preferred ≠ b.preferred then a.preferred else decide (a.row.createdAt ≤ b.row.createdAt)

def evictionOrder (candidates : List EvictionCandidate) : List EvictionCandidate :=
  candidates.insertionSort fun a b ↦ a.before b = true

/-- Take candidates until the gaps are closed; `none` when they cannot close them. -/
def takeVictims (plan : EvictionPlan) : List EvictionCandidate → Option EvictionPlan
  | [] => none
  | c :: rest =>
    let plan := { plan with
      victims := plan.victims ++ [c]
      freedMem := plan.freedMem + c.memBytes
      freedVCPU := plan.freedVCPU + c.vcpus }
    if plan.memGap ≤ plan.freedMem ∧ plan.vcpuGap ≤ plan.freedVCPU then some plan
    else takeVictims plan rest

def planEviction (candidates : List EvictionCandidate) (shape : Shape) (st : NodeState) : EvictionPlan :=
  if fitsNode st shape then
    {}
  else
    let plan : EvictionPlan := { memGap := memGap shape st, vcpuGap := vcpuGap shape st }
    (takeVictims plan (evictionOrder candidates)).getD plan

/-! ## What a plan is -/

def freedMem (victims : List EvictionCandidate) : ℕ := (victims.map EvictionCandidate.memBytes).sum

def freedVCPU (victims : List EvictionCandidate) : ℤ := (victims.map EvictionCandidate.vcpus).sum

def Covers (memGap : ℕ) (vcpuGap : ℤ) (victims : List EvictionCandidate) : Prop :=
  memGap ≤ freedMem victims ∧ vcpuGap ≤ freedVCPU victims

instance (memGap : ℕ) (vcpuGap : ℤ) (victims : List EvictionCandidate) :
    Decidable (Covers memGap vcpuGap victims) :=
  inferInstanceAs (Decidable (_ ∧ _))

/-- The shortest non-empty initial segment that closes both gaps. -/
structure ShortestCover (memGap : ℕ) (vcpuGap : ℤ) (ordered victims : List EvictionCandidate) : Prop where
  ne_nil : victims ≠ []
  initial : victims <+: ordered
  covers : Covers memGap vcpuGap victims
  least : ∀ other, other <+: ordered → other ≠ [] → Covers memGap vcpuGap other → victims <+: other

theorem ShortestCover.unique {memGap : ℕ} {vcpuGap : ℤ} {ordered victims other : List EvictionCandidate}
    (h : ShortestCover memGap vcpuGap ordered victims)
    (hother : ShortestCover memGap vcpuGap ordered other) : victims = other := by
  have hle := h.least other hother.initial hother.ne_nil hother.covers
  have hge := hother.least victims h.initial h.ne_nil h.covers
  exact hle.eq_of_length_le hge.length_le

/-- A plan in progress, with what its victims free. -/
def EvictionPlan.gathered (memGap : ℕ) (vcpuGap : ℤ) (victims : List EvictionCandidate) : EvictionPlan where
  victims := victims
  memGap := memGap
  vcpuGap := vcpuGap
  freedMem := Pool.freedMem victims
  freedVCPU := Pool.freedVCPU victims

section TakeVictims

variable {memGap : ℕ} {vcpuGap : ℤ} (victims : List EvictionCandidate) {rest : List EvictionCandidate}

theorem takeVictims_cons (c : EvictionCandidate) :
    takeVictims (.gathered memGap vcpuGap victims) (c :: rest) =
      if Covers memGap vcpuGap (victims ++ [c]) then some (.gathered memGap vcpuGap (victims ++ [c]))
      else takeVictims (.gathered memGap vcpuGap (victims ++ [c])) rest := by
  rw [takeVictims]
  by_cases hcovers : Covers memGap vcpuGap (victims ++ [c])
  · rw [if_pos hcovers, if_pos (by simpa [EvictionPlan.gathered, Covers, freedMem, freedVCPU] using hcovers)]
    simp [EvictionPlan.gathered, freedMem, freedVCPU]
  · rw [if_neg hcovers, if_neg (by simpa [EvictionPlan.gathered, Covers, freedMem, freedVCPU] using hcovers)]
    simp [EvictionPlan.gathered, freedMem, freedVCPU]

/-- The loop stops at the first segment that closes the gaps, counted on from the victims it has. -/
theorem takeVictims_eq_some {plan : EvictionPlan}
    (h : takeVictims (.gathered memGap vcpuGap victims) rest = some plan) :
    ∃ more, plan = .gathered memGap vcpuGap (victims ++ more) ∧ more ≠ [] ∧ more <+: rest ∧
      Covers memGap vcpuGap (victims ++ more) ∧
      ∀ other, other <+: rest → other ≠ [] → Covers memGap vcpuGap (victims ++ other) →
        more <+: other := by
  induction rest generalizing victims with
  | nil => cases h
  | cons c rest ih =>
    rw [takeVictims_cons] at h
    split_ifs at h with hcovers
    · cases h
      refine ⟨[c], rfl, by simp, ⟨rest, rfl⟩, hcovers, fun other hother hne _ ↦ ?_⟩
      obtain ⟨d, tail, rfl⟩ := List.exists_cons_of_ne_nil hne
      obtain ⟨rfl, -⟩ := List.cons_prefix_cons.mp hother
      exact ⟨tail, rfl⟩
    · obtain ⟨more, rfl, -, hinitial, hmore, hleast⟩ := ih _ h
      rw [List.append_assoc, List.singleton_append] at hmore
      refine ⟨c :: more, by simp, by simp, List.cons_prefix_cons.mpr ⟨rfl, hinitial⟩, hmore,
        fun other hother hne hclosed ↦ ?_⟩
      obtain ⟨d, tail, rfl⟩ := List.exists_cons_of_ne_nil hne
      obtain ⟨rfl, htail⟩ := List.cons_prefix_cons.mp hother
      -- the segment of one candidate did not close the gaps, so there is a second one
      have htail_ne : tail ≠ [] := by
        rintro rfl
        exact hcovers hclosed
      have hshort := hleast tail htail htail_ne (by simpa using hclosed)
      exact List.cons_prefix_cons.mpr ⟨rfl, hshort⟩

theorem takeVictims_eq_none (h : takeVictims (.gathered memGap vcpuGap victims) rest = none) :
    ∀ other, other <+: rest → other ≠ [] → ¬ Covers memGap vcpuGap (victims ++ other) := by
  induction rest generalizing victims with
  | nil => exact fun other hother hne ↦ absurd (List.prefix_nil.mp hother) hne
  | cons c rest ih =>
    rw [takeVictims_cons] at h
    split_ifs at h with hcovers
    intro other hother hne hclosed
    obtain ⟨d, tail, rfl⟩ := List.exists_cons_of_ne_nil hne
    obtain ⟨rfl, htail⟩ := List.cons_prefix_cons.mp hother
    by_cases htail_nil : tail = []
    · subst htail_nil
      exact hcovers hclosed
    · exact ih _ h tail htail htail_nil (by simpa using hclosed)

end TakeVictims

section Plan

variable {candidates : List EvictionCandidate} {shape : Shape} {st : NodeState}

theorem planEviction_shortest (h : (planEviction candidates shape st).victims ≠ []) :
    fitsNode st shape = false ∧ ShortestCover (memGap shape st) (vcpuGap shape st)
      (evictionOrder candidates) (planEviction candidates shape st).victims := by
  unfold planEviction at h ⊢
  split_ifs at h ⊢ with hfits
  · exact absurd rfl h
  · dsimp only at h ⊢
    cases htake : takeVictims { memGap := memGap shape st, vcpuGap := vcpuGap shape st }
        (evictionOrder candidates) with
    | none =>
      rw [htake] at h
      exact absurd rfl h
    | some plan =>
      obtain ⟨more, rfl, hne, hinitial, hcovers, hleast⟩ := takeVictims_eq_some [] htake
      exact ⟨Bool.not_eq_true _ ▸ hfits, hne, hinitial, hcovers, hleast⟩

/-- The idle VMs can close the gaps. -/
def Closable (memGap : ℕ) (vcpuGap : ℤ) (ordered : List EvictionCandidate) : Prop :=
  ∃ segment, segment <+: ordered ∧ segment ≠ [] ∧ Covers memGap vcpuGap segment

theorem ShortestCover.closable {memGap : ℕ} {vcpuGap : ℤ} {ordered victims : List EvictionCandidate}
    (h : ShortestCover memGap vcpuGap ordered victims) : Closable memGap vcpuGap ordered :=
  ⟨victims, h.initial, h.ne_nil, h.covers⟩

theorem planEviction_ne_nil :
    (planEviction candidates shape st).victims ≠ [] ↔ fitsNode st shape = false ∧
      Closable (memGap shape st) (vcpuGap shape st) (evictionOrder candidates) := by
  refine ⟨fun h ↦ ⟨(planEviction_shortest h).1, (planEviction_shortest h).2.closable⟩, ?_⟩
  rintro ⟨hfits, segment, hinitial, hne, hcovers⟩
  unfold planEviction
  rw [if_neg (by simp [hfits])]
  dsimp only
  cases htake : takeVictims { memGap := memGap shape st, vcpuGap := vcpuGap shape st }
      (evictionOrder candidates) with
  | none => exact absurd hcovers (takeVictims_eq_none [] htake segment hinitial hne)
  | some plan =>
    obtain ⟨more, rfl, hmore, -⟩ := takeVictims_eq_some [] htake
    exact hmore

theorem planEviction_victims {victims : List EvictionCandidate} (hfits : fitsNode st shape = false)
    (h : ShortestCover (memGap shape st) (vcpuGap shape st) (evictionOrder candidates) victims) :
    (planEviction candidates shape st).victims = victims :=
  (planEviction_shortest (planEviction_ne_nil.mpr ⟨hfits, h.closable⟩)).2.unique h

theorem mem_evictionOrder {c : EvictionCandidate} :
    c ∈ evictionOrder candidates ↔ c ∈ candidates :=
  List.mem_insertionSort _

end Plan

/-! ## The plan and the accountant -/

section MakingRoom

variable {opts : Options} {snap : Snapshot} {now : Time} {a : Accountant} {node : String}
  {st : NodeState} {shape : Shape} {candidates victims : List EvictionCandidate}

def vmids (victims : List EvictionCandidate) : List VMID := victims.map (·.row.vmid)

/-- The snapshot shows every candidate at its declared size. -/
def Visible (snap : Snapshot) (candidates : List EvictionCandidate) : Prop :=
  ∀ c ∈ candidates, snap.guests.lookup c.row.vmid = some ⟨c.memBytes, c.vcpus⟩

theorem Visible.credit (h : Visible snap victims) :
    Nodecap.Reservation.credit snap (vmids victims) = freedMem victims := by
  unfold Nodecap.Reservation.credit vmids freedMem
  rw [List.map_map]
  refine congrArg List.sum (List.map_congr_left fun c hc ↦ ?_)
  simp [Snapshot.guestMem, h c hc]

theorem Visible.creditVCPU (h : Visible snap victims) :
    Nodecap.Reservation.creditVCPU snap (vmids victims) = freedVCPU victims := by
  unfold Nodecap.Reservation.creditVCPU vmids freedVCPU
  rw [List.map_map]
  refine congrArg List.sum (List.map_congr_left fun c hc ↦ ?_)
  simp [Snapshot.guestVCPU, h c hc]

theorem Visible.of_initial (h : Visible snap candidates) (hinitial : victims <+: evictionOrder candidates) :
    Visible snap victims :=
  fun c hc ↦ h c (mem_evictionOrder.mp (hinitial.subset hc))

/-- The accountant's test, in the fields of the node's state. -/
theorem reserveFreeing_isSome (hst : (node, st) ∈ (a.snapshot opts snap now).2)
    (hvisible : Visible snap victims) :
    (a.reserveFreeing opts snap now node shape (vmids victims)).2.isSome ↔
      shape.memoryBytes ≤ st.availableBytes + freedMem victims ∧
      (st.cpuGated → st.committedVCPU + shape.vcpus ≤ st.limitVCPU + freedVCPU victims) := by
  obtain ⟨known, hknown, heq⟩ := List.mem_map.mp hst
  cases heq
  have hlookup : (snap.nodes.lookup node).isSome := AList.lookup_isSome.mpr hknown
  have hanswer : (a.reserveFreeing opts snap now node shape (vmids victims)).2.isSome = true ↔
      (a.sweepLocked snap now).fitsLocked opts snap node shape (vmids victims) = true := by
    unfold Accountant.reserveFreeing
    dsimp only
    split_ifs with hfits <;> simp [hfits]
  have hgated : ((a.sweepLocked snap now).stateLocked opts snap node).cpuGated = opts.cpuGated := rfl
  have hlimit : ((a.sweepLocked snap now).stateLocked opts snap node).limitVCPU =
      if opts.cpuGated then opts.vcpuLimit (snap.totals node).vcpus else 0 := rfl
  rw [hanswer, Accountant.fitsLocked_eq_true, hvisible.credit, hvisible.creditVCPU, hgated, hlimit]
  constructor
  · rintro ⟨_, hmem, hcpu⟩
    refine ⟨by omega, fun htrue ↦ ?_⟩
    have := hcpu htrue
    rw [if_pos htrue]
    omega
  · rintro ⟨hmem, hcpu⟩
    refine ⟨hlookup, by omega, fun htrue ↦ ?_⟩
    have := hcpu htrue
    rw [if_pos htrue] at this
    omega

theorem availableVCPU_of_mem (hst : (node, st) ∈ (a.snapshot opts snap now).2) :
    st.availableVCPU =
      if st.cpuGated ∧ st.committedVCPU < st.limitVCPU then st.limitVCPU - st.committedVCPU else 0 := by
  obtain ⟨known, _, heq⟩ := List.mem_map.mp hst
  cases heq
  by_cases hgated : opts.cpuGated
  · simp [Accountant.stateLocked, hgated]
  · simp [Accountant.stateLocked, hgated]

/-- On a node above its vCPU ceiling, the idle VMs that free the missing memory and the shape's vCPUs
also free the vCPUs by which the node is above. -/
def ClearsOvercommit (candidates : List EvictionCandidate) (shape : Shape) (st : NodeState) : Prop :=
  st.cpuGated = true → st.limitVCPU < st.committedVCPU → ∀ victims,
    ShortestCover (shape.memoryBytes - st.availableBytes) shape.vcpus (evictionOrder candidates) victims →
      st.committedVCPU - st.limitVCPU + shape.vcpus ≤ freedVCPU victims

theorem memGap_eq : memGap shape st = shape.memoryBytes - st.availableBytes := by
  unfold memGap
  split_ifs <;> omega

/-- Above the ceiling nothing is available, and the gap is the whole shape. -/
theorem vcpuGap_of_limit_le (hst : (node, st) ∈ (a.snapshot opts snap now).2) (hvcpus : 0 < shape.vcpus)
    (hgated : st.cpuGated) (habove : st.limitVCPU ≤ st.committedVCPU) :
    st.availableVCPU = 0 ∧ vcpuGap shape st = shape.vcpus := by
  have hzero : st.availableVCPU = 0 := by
    rw [availableVCPU_of_mem hst, if_neg (by omega)]
  refine ⟨hzero, ?_⟩
  rw [vcpuGap, hzero, if_pos ⟨hgated, hvcpus⟩, sub_zero]

/-- Where the plan and the accountant agree: the victims of a plan free what the reservation needs
exactly when they also bring the node back to its vCPU ceiling. -/
theorem planned_eviction_reserves_iff (hst : (node, st) ∈ (a.snapshot opts snap now).2)
    (hvcpus : 0 < shape.vcpus) (hvisible : Visible snap candidates) :
    ((planEviction candidates shape st).victims ≠ [] →
      (a.reserveFreeing opts snap now node shape
        (vmids (planEviction candidates shape st).victims)).2.isSome = true) ↔
      ClearsOvercommit candidates shape st := by
  constructor
  · intro hreserves hgated habove victims hcover
    obtain ⟨hzero, hgap⟩ := vcpuGap_of_limit_le hst hvcpus hgated habove.le
    have hfits : fitsNode st shape = false := by
      simp [fitsNode, hgated, hzero, hvcpus]
    rw [← memGap_eq, ← hgap] at hcover
    have hplan := planEviction_victims hfits hcover
    rw [hplan] at hreserves
    have hcpu := ((reserveFreeing_isSome hst (hvisible.of_initial hcover.initial)).mp
      (hreserves hcover.ne_nil)).2 hgated
    omega
  · intro hclears hplanned
    obtain ⟨_, hcover⟩ := planEviction_shortest hplanned
    obtain ⟨hmem, hcpu⟩ := hcover.covers
    rw [memGap_eq] at hmem
    refine (reserveFreeing_isSome hst (hvisible.of_initial hcover.initial)).mpr
      ⟨by omega, fun hgated ↦ ?_⟩
    rcases lt_or_ge st.limitVCPU st.committedVCPU with habove | hbelow
    · rw [memGap_eq, (vcpuGap_of_limit_le hst hvcpus hgated habove.le).2] at hcover
      have := hclears hgated habove _ hcover
      omega
    · have havailable : st.availableVCPU = st.limitVCPU - st.committedVCPU := by
        rw [availableVCPU_of_mem hst]
        simp only [hgated, true_and]
        split_ifs <;> omega
      have hgap : shape.vcpus - st.availableVCPU ≤ vcpuGap shape st := by
        simp only [vcpuGap, hgated, true_and]
        split_ifs <;> omega
      omega

end MakingRoom

/-- An eight-core node that may commit as many vCPUs as it has cores. -/
def coreForCore : Options where
  cpuGated := true
  overcommit := id

/-- The idle runner 100 with four vCPUs beside an operator's guest with `foreign` of them. -/
def sharedNode (foreign : ℕ) : Snapshot :=
  Nodecap.fetch coreForCore
    [{ type := .node, node := "pve1", status := "online", maxMem := 64 * 2 ^ 30, maxCPU := 8 },
      { type := .qemu, node := "pve1", status := "running", vmid := 100, maxMem := 4 * 2 ^ 30, maxCPU := 4 },
      { type := .qemu, node := "pve1", status := "running", vmid := 900, maxMem := 8 * 2 ^ 30,
        maxCPU := foreign }] 0

def idleRunner : EvictionCandidate where
  row := { vmid := 100, node := "pve1", profile := "linux", poolKind := .hot, state := .hot }
  memBytes := 4 * 2 ^ 30
  vcpus := 4
  preferred := false

def sharedNodeState (foreign : ℕ) : NodeState :=
  Accountant.new.stateLocked coreForCore (sharedNode foreign) "pve1"

theorem sharedNodeState_mem (foreign : ℕ) :
    ("pve1", sharedNodeState foreign) ∈
      (Accountant.new.snapshot coreForCore (sharedNode foreign) 0).2 :=
  List.mem_singleton.mpr rfl

/-- At its ceiling, the node gives the runner's vCPUs to the clone. -/
theorem planned_eviction_reserves_at_ceiling :
    (planEviction [idleRunner] ⟨4 * 2 ^ 30, 4⟩ (sharedNodeState 4)).victims = [idleRunner] ∧
    (Accountant.new.reserveFreeing coreForCore (sharedNode 4) 0 "pve1" ⟨4 * 2 ^ 30, 4⟩
      (vmids (planEviction [idleRunner] ⟨4 * 2 ^ 30, 4⟩ (sharedNodeState 4)).victims)).2.isSome = true := by
  have hplan : (planEviction [idleRunner] ⟨4 * 2 ^ 30, 4⟩ (sharedNodeState 4)).victims = [idleRunner] := by
    decide +kernel
  have hvisible : Visible (sharedNode 4) [idleRunner] :=
    List.forall_mem_singleton.mpr (by decide +kernel)
  have hceiling : ¬ (sharedNodeState 4).limitVCPU < (sharedNodeState 4).committedVCPU := by
    decide +kernel
  refine ⟨hplan, (planned_eviction_reserves_iff (sharedNodeState_mem 4) (by decide) hvisible).mpr
    (fun _ habove ↦ absurd habove hceiling) ?_⟩
  rw [hplan]
  simp

/-- Four vCPUs above its ceiling, the node has the same gap on paper; the runner is destroyed and the
reservation refused. -/
theorem overcommitted_node_refuses_reservation :
    ("pve1", sharedNodeState 8) ∈ (Accountant.new.snapshot coreForCore (sharedNode 8) 0).2 ∧
    Visible (sharedNode 8) [idleRunner] ∧
    (planEviction [idleRunner] ⟨4 * 2 ^ 30, 4⟩ (sharedNodeState 8)).victims = [idleRunner] ∧
    (Accountant.new.reserveFreeing coreForCore (sharedNode 8) 0 "pve1" ⟨4 * 2 ^ 30, 4⟩ [100]).2 = none :=
  ⟨sharedNodeState_mem 8, List.forall_mem_singleton.mpr (by decide +kernel), by decide +kernel,
    by decide +kernel⟩

end ScalesetProxmox.Pool
