import ScalesetProxmox.Table.Matching
import ScalesetProxmox.Config.Scalesets

/-!
# Static addresses

`ipam.Static` hands out the addresses of a fixed list, one to a VMID. Its two maps are the two directions of
one matching of VMIDs and addresses, so that no address is leased twice. The leases live in the process:
a new allocator has none.
-/

namespace ScalesetProxmox.Ipam

open Store (VMID)
open Text (quote)

/-- `in` and `used` are the matching and its inverse. -/
structure Static where
  pool : List String
  leases : VMID ≃. String

/-- The first element of the list that has occurred before. -/
def duplicate (seen : List String) : List String → Option String
  | [] => none
  | ip :: rest => if ip ∈ seen then some ip else duplicate (ip :: seen) rest

/-- What `NewStatic` asks of its list. -/
def checkPool (pool : List String) : Except String Unit :=
  if pool = [] then
    .error "ipam: static pool must be non-empty"
  else
    match duplicate [] pool with
    | some ip => .error s!"ipam: static pool contains duplicate IP {quote ip}"
    | none => .ok ()

def newStatic (pool : List String) : Except String Static :=
  (checkPool pool).map fun _ ↦ { pool := pool, leases := ⊥ }

theorem newStatic_eq_ok {pool : List String} {s : Static} :
    newStatic pool = .ok s ↔ checkPool pool = .ok () ∧ s = { pool := pool, leases := ⊥ } := by
  unfold newStatic
  cases checkPool pool <;> simp [Except.map, eq_comm]

namespace Static

/-- A VMID that has an address keeps it; any other gets the first one that is free. -/
def allocate (s : Static) (v : VMID) : Except String (String × Static) :=
  match hv : s.leases v with
  | some existing => .ok (existing, s)
  | none =>
    match hip : s.pool.find? fun ip ↦ (s.leases.symm ip).isNone with
    | some ip =>
      have hfree : s.leases.symm ip = none := by simpa using List.find?_some hip
      .ok (ip, { s with leases := Matching.join s.leases v ip hv hfree })
    | none => .error s!"ipam: static pool exhausted ({s.pool.length} IPs)"

def release (s : Static) (v : VMID) : Static := { s with leases := Matching.part s.leases v }

theorem allocate_of_lease {s : Static} {v : VMID} {ip : String} (h : s.leases v = some ip) :
    s.allocate v = .ok (ip, s) := by
  unfold allocate
  split
  next existing hv => rw [Option.some.inj (hv.symm.trans h)]
  next hv => cases hv.symm.trans h

theorem allocate_of_free {s : Static} {v : VMID} {ip : String} (hv : s.leases v = none)
    (hip : (s.pool.find? fun ip ↦ (s.leases.symm ip).isNone) = some ip) (hfree : s.leases.symm ip = none) :
    s.allocate v = .ok (ip, { s with leases := Matching.join s.leases v ip hv hfree }) := by
  unfold allocate
  split
  next existing hlease => cases hlease.symm.trans hv
  next =>
    split
    next other hother =>
      obtain rfl : other = ip := Option.some.inj (hother.symm.trans hip)
      rfl
    next hnone => cases hnone.symm.trans hip

theorem allocate_of_exhausted {s : Static} {v : VMID} (hv : s.leases v = none)
    (hpool : (s.pool.find? fun ip ↦ (s.leases.symm ip).isNone) = none) :
    s.allocate v = .error s!"ipam: static pool exhausted ({s.pool.length} IPs)" := by
  unfold allocate
  split
  next existing hlease => cases hlease.symm.trans hv
  next =>
    split
    next other hother => cases hother.symm.trans hpool
    next => rfl

theorem allocate_eq_ok {s s' : Static} {v : VMID} {ip : String} (h : s.allocate v = .ok (ip, s')) :
    s'.leases v = some ip ∧ ∀ u other, s.leases u = some other → s'.leases u = some other := by
  unfold allocate at h
  split at h
  next existing hv =>
    cases h
    exact ⟨hv, fun u other hother ↦ hother⟩
  next hv =>
    split at h
    next ip hip =>
      have hfree : s.leases.symm ip = none := by simpa using List.find?_some hip
      cases h
      refine ⟨Matching.join_self hv hfree, fun u other hother ↦ ?_⟩
      have hu : u ≠ v := by
        rintro rfl
        cases hv.symm.trans hother
      exact (Matching.join_of_ne hv hfree hu).trans hother
    next => cases h

/-- Only the VMID that asked can have a new lease. -/
theorem leases_of_allocate {s s' : Static} {v u : VMID} {ip other : String}
    (h : s.allocate v = .ok (ip, s')) (hu : u ≠ v) (hlease : s'.leases u = some other) :
    s.leases u = some other := by
  unfold allocate at h
  split at h
  next =>
    cases h
    exact hlease
  next hv =>
    split at h
    next ip hip =>
      have hfree : s.leases.symm ip = none := by simpa using List.find?_some hip
      cases h
      exact (Matching.join_of_ne hv hfree hu).symm.trans hlease
    next => cases h

end Static

/-! ## The allocator of a profile -/

inductive Allocator
  | noop
  | static (s : Static)

namespace Allocator

/-- The empty address is no assignment. -/
def allocate : Allocator → VMID → Except String (String × Allocator)
  | .noop, _ => .ok ("", .noop)
  | .static s, v => (s.allocate v).map fun granted ↦ (granted.1, .static granted.2)

def release : Allocator → VMID → Allocator
  | .noop, _ => .noop
  | .static s, v => .static (s.release v)

def lease : Allocator → VMID → Option String
  | .noop, _ => none
  | .static s, v => s.leases v

variable {a a' : Allocator} {v u : VMID} {ip : String}

/-- An address that is handed out is leased, and the leases there were are kept. -/
theorem allocate_eq_ok (h : a.allocate v = .ok (ip, a')) :
    (ip ≠ "" → a'.lease v = some ip) ∧ ∀ u other, a.lease u = some other → a'.lease u = some other := by
  cases a with
  | noop =>
    cases h
    exact ⟨fun hne ↦ absurd rfl hne, fun _ _ hother ↦ hother⟩
  | static s =>
    obtain ⟨granted, hgranted, hmapped⟩ := Configuration.map_eq_ok.mp h
    cases hmapped
    obtain ⟨hleased, hkept⟩ := Static.allocate_eq_ok hgranted
    exact ⟨fun _ ↦ hleased, hkept⟩

theorem lease_of_allocate {other : String} (h : a.allocate v = .ok (ip, a')) (hu : u ≠ v)
    (hlease : a'.lease u = some other) : a.lease u = some other := by
  cases a with
  | noop =>
    cases h
    exact hlease
  | static s =>
    obtain ⟨granted, hgranted, hmapped⟩ := Configuration.map_eq_ok.mp h
    cases hmapped
    exact Static.leases_of_allocate hgranted hu hlease

theorem lease_release_self : (a.release v).lease v = none := by
  cases a with
  | noop => rfl
  | static s => exact Matching.part_self

theorem lease_release_of_ne (h : u ≠ v) : (a.release v).lease u = a.lease u := by
  cases a with
  | noop => rfl
  | static s => exact Matching.part_of_ne h

/-- No address is leased twice. -/
theorem lease_injective (hv : a.lease v = some ip) (hu : a.lease u = some ip) : v = u := by
  cases a with
  | noop => cases hv
  | static s => exact s.leases.inj hv hu

end Allocator

/-! ## Configuration -/

structure ProfileIPAMConfig where
  backend : String
  pool : List String := []
  deriving DecidableEq, Repr

/-- A static allocator that cannot be built, and a backend that is not known, give no addresses. -/
def ipamFromProfileNetwork (ipam : Option ProfileIPAMConfig) : Allocator :=
  match ipam with
  | none => .noop
  | some block =>
    if block.backend = "static" then
      match newStatic block.pool with
      | .ok s => .static s
      | .error _ => .noop
    else
      .noop

/-- A new allocator has leased nothing. -/
theorem lease_ipamFromProfileNetwork (ipam : Option ProfileIPAMConfig) (v : VMID) :
    (ipamFromProfileNetwork ipam).lease v = none := by
  unfold ipamFromProfileNetwork
  split
  · rfl
  · split
    · split
      next s hnew =>
        rw [(newStatic_eq_ok.mp hnew).2]
        rfl
      · rfl
    · rfl

end ScalesetProxmox.Ipam
