import ScalesetProxmox.Ipam.Static
import ScalesetProxmox.Transition.Run

/-!
# The two maps of the static allocator

`ipam.Static` as it is stored: one map from VMIDs to addresses and one from addresses to VMIDs, changed
together under the allocator's mutex. The two stay the two directions of one matching, which is the
allocator of `Ipam/Static.lean`, so what holds of a matching holds of the maps after any calls.
-/

namespace ScalesetProxmox.Ipam

open Store (VMID)
open Transition

/-- `assigned` is the field `in`. -/
structure Maps where
  pool : List String
  assigned : VMID → Option String
  used : String → Option VMID

namespace Maps

def newStatic (pool : List String) : Except String Maps :=
  (checkPool pool).map fun _ ↦ { pool := pool, assigned := fun _ ↦ none, used := fun _ ↦ none }

/-- Both maps are written. -/
def grant (m : Maps) (v : VMID) (ip : String) : Maps :=
  { m with assigned := Function.update m.assigned v (some ip), used := Function.update m.used ip (some v) }

def allocate (m : Maps) (v : VMID) : Except String String × Maps :=
  match m.assigned v with
  | some existing => (.ok existing, m)
  | none =>
    match m.pool.find? fun ip ↦ (m.used ip).isNone with
    | some ip => (.ok ip, m.grant v ip)
    | none => (.error s!"ipam: static pool exhausted ({m.pool.length} IPs)", m)

def release (m : Maps) (v : VMID) : Maps :=
  match m.assigned v with
  | some ip =>
    { m with used := Function.update m.used ip none, assigned := Function.update m.assigned v none }
  | none => m

/-- The maps are the two directions of the matching. -/
structure Represents (m : Maps) (s : Static) : Prop where
  pool : m.pool = s.pool
  assigned : m.assigned = s.leases
  used : m.used = s.leases.symm

variable {m m' : Maps} {s : Static} {pool : List String} {v u : VMID} {ip : String}

/-- The allocator that a call of `Allocate` leaves, with or without success. -/
def afterAllocate (s : Static) (v : VMID) : Static :=
  match s.allocate v with
  | .ok granted => granted.2
  | .error _ => s

theorem Represents.allocate (h : m.Represents s) (v : VMID) :
    (m.allocate v).1 = (s.allocate v).map Prod.fst ∧ (m.allocate v).2.Represents (afterAllocate s v) := by
  unfold Maps.allocate afterAllocate
  cases hv : s.leases v with
  | some existing =>
    rw [h.assigned, Static.allocate_of_lease hv]
    simp only [hv]
    exact ⟨rfl, h⟩
  | none =>
    rw [h.assigned, h.used, h.pool]
    simp only [hv]
    cases hip : s.pool.find? fun ip ↦ (s.leases.symm ip).isNone with
    | none =>
      rw [Static.allocate_of_exhausted hv hip]
      exact ⟨rfl, h⟩
    | some ip =>
      have hfree : s.leases.symm ip = none := by simpa using List.find?_some hip
      rw [Static.allocate_of_free hv hip hfree]
      refine ⟨rfl, h.pool, ?_, ?_⟩
      · exact congrArg (Function.update · v (some ip)) h.assigned
      · exact congrArg (Function.update · ip (some v)) h.used

theorem Represents.release (h : m.Represents s) (v : VMID) : (m.release v).Represents (s.release v) := by
  unfold Maps.release Static.release
  rw [h.assigned]
  cases hv : s.leases v with
  | none =>
    rw [Matching.part_eq_self hv]
    exact h
  | some ip =>
    refine ⟨h.pool, rfl, ?_⟩
    rw [Matching.coe_symm_part hv, h.used]

/-! ## Calls -/

inductive Call
  | allocate (v : VMID)
  | release (v : VMID)
  deriving DecidableEq, Repr

/-- Each call has the mutex from its start to its end. -/
def step (m : Maps) : Call → Option Maps
  | .allocate v => some (m.allocate v).2
  | .release v => some (m.release v)

@[simp]
theorem assigned_grant_self : (m.grant v ip).assigned v = some ip := Function.update_self ..

theorem assigned_grant_of_ne (h : u ≠ v) : (m.grant v ip).assigned u = m.assigned u :=
  Function.update_of_ne h ..

/-- What `Allocate` can do: a VMID that has an address keeps it, any other gets a free one, and there may
be none. -/
theorem allocate_cases (m : Maps) (v : VMID) :
    (∃ ip, m.assigned v = some ip ∧ m.allocate v = (.ok ip, m)) ∨
    (∃ ip, m.assigned v = none ∧ ip ∈ m.pool ∧ m.used ip = none ∧
      m.allocate v = (.ok ip, m.grant v ip)) ∨
    (m.assigned v = none ∧ (∀ ip ∈ m.pool, m.used ip ≠ none) ∧
      m.allocate v = (.error s!"ipam: static pool exhausted ({m.pool.length} IPs)", m)) := by
  unfold allocate
  cases hv : m.assigned v with
  | some ip => exact .inl ⟨ip, rfl, rfl⟩
  | none =>
    cases hip : m.pool.find? fun ip ↦ (m.used ip).isNone with
    | some ip =>
      have hfree : m.used ip = none := by simpa using List.find?_some hip
      exact .inr (.inl ⟨ip, rfl, List.mem_of_find?_eq_some hip, hfree, rfl⟩)
    | none =>
      refine .inr (.inr ⟨rfl, fun ip hmem hfree ↦ ?_, rfl⟩)
      simpa [hfree] using List.find?_eq_none.mp hip ip hmem

/-- The maps of a matching of VMIDs and addresses of the pool. -/
structure Sound (pool : List String) (m : Maps) : Prop where
  matching : ∃ s, m.Represents s
  samePool : m.pool = pool
  drawn : ∀ v ip, m.assigned v = some ip → ip ∈ pool

theorem Sound.allocate (h : m.Sound pool) (v : VMID) : (m.allocate v).2.Sound pool := by
  obtain ⟨s, hrep⟩ := h.matching
  have hmatching : (m.allocate v).2.Represents (afterAllocate s v) := (hrep.allocate v).2
  rcases m.allocate_cases v with ⟨ip, _, heq⟩ | ⟨ip, _, hmem, _, heq⟩ | ⟨_, _, heq⟩
  · rw [heq]
    exact h
  · rw [heq] at hmatching ⊢
    refine ⟨⟨_, hmatching⟩, h.samePool, fun u other hu ↦ ?_⟩
    by_cases huv : u = v
    · rw [huv, assigned_grant_self] at hu
      exact Option.some.inj hu ▸ h.samePool ▸ hmem
    · rw [assigned_grant_of_ne huv] at hu
      exact h.drawn u other hu
  · rw [heq]
    exact h

@[simp]
theorem assigned_release (m : Maps) (v : VMID) :
    (m.release v).assigned = Function.update m.assigned v none := by
  unfold release
  split
  · rfl
  next hnone => rw [← hnone, Function.update_eq_self]

theorem Sound.release (h : m.Sound pool) (v : VMID) : (m.release v).Sound pool := by
  obtain ⟨s, hrep⟩ := h.matching
  have hrep' := hrep.release v
  refine ⟨⟨_, hrep'⟩, hrep'.pool.trans (hrep.pool.symm.trans h.samePool), fun u ip hu ↦ ?_⟩
  rw [assigned_release] at hu
  by_cases huv : u = v
  · rw [huv, Function.update_self] at hu
    cases hu
  · rw [Function.update_of_ne huv] at hu
    exact h.drawn u ip hu

/-! ## Every run -/

theorem step_sound {c : Call} (h : m.Sound pool) (hstep : step m c = some m') : m'.Sound pool := by
  cases c with
  | allocate v =>
    cases hstep
    exact h.allocate v
  | release v =>
    cases hstep
    exact h.release v

theorem run_sound {calls : List Call} (h : m.Sound pool) (hrun : run step m calls = some m') :
    m'.Sound pool :=
  invariant_of_along (Sound pool) (fun _ _ _ hs _ hstep ↦ step_sound hs hstep) h
    (along_of_step fun _ _ _ _ ↦ trivial) hrun

end Maps

end ScalesetProxmox.Ipam
