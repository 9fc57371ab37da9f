import ScalesetProxmox.Table.Sum
import ScalesetProxmox.Store.Schema

/-!
# The capacity accountant

`internal/nodecap/nodecap.go`: a snapshot of the cluster says what each node has and what its guests
hold, reservations stand for clones that a snapshot does not show yet, and a shape is admitted on a
node when what is left covers it. Every operation takes the snapshot its caller has read, since the
source reads it before it takes the lock.

Byte and vCPU counts are unbounded here; the source notes that they are bounded by physical memory,
far below the range of its machine integers. Two values come out of floating-point products in the
source, the fractional reserve and the vCPU ceiling, and are functions of their integer argument here.
-/

namespace ScalesetProxmox.Nodecap

open Store (VMID Time)

/-- The footprint of one VM. -/
structure Shape where
  memoryBytes : ℕ
  vcpus : ℤ
  deriving DecidableEq, Repr

structure VMIDRange where
  min : VMID
  max : VMID
  deriving DecidableEq, Repr

structure Options where
  /-- The declared nodes; none means all of them. -/
  nodes : List String := []
  refresh : Time := 15 * Store.second
  reserveBytes : ℕ := 0
  /-- `uint64(float64(total) * ReserveFraction)` -/
  fraction : ℕ → ℕ := fun _ ↦ 0
  /-- `CPUOvercommit > 0` -/
  cpuGated : Bool := false
  /-- `int(float64(cores) * CPUOvercommit)` -/
  overcommit : ℤ → ℤ := fun _ ↦ 0
  reservationTTL : Time := 5 * Store.minute
  ownedVMIDs : List VMIDRange := []
  ownerScaleSets : List String := []

/-- A node's physical totals and the sums over its guests. -/
structure NodeTotals where
  memBytes : ℕ := 0
  vcpus : ℤ := 0
  guestMem : ℕ := 0
  guestVCPU : ℤ := 0
  deriving DecidableEq, Repr

/-- A guest's configured footprint. -/
structure GuestSize where
  mem : ℕ
  vcpu : ℤ
  deriving DecidableEq, Repr

/-- One read of the cluster. The source fills two maps from VMIDs, always together. -/
structure Snapshot where
  nodes : AList fun _ : String ↦ NodeTotals
  guests : AList fun _ : VMID ↦ GuestSize
  takenAt : Time

namespace Snapshot

def totals (snap : Snapshot) (node : String) : NodeTotals := (snap.nodes.lookup node).getD {}

def guestMem (snap : Snapshot) (v : VMID) : ℕ := ((snap.guests.lookup v).map GuestSize.mem).getD 0

def guestVCPU (snap : Snapshot) (v : VMID) : ℤ := ((snap.guests.lookup v).map GuestSize.vcpu).getD 0

end Snapshot

/-- One outstanding claim; `vmid` is zero until it is bound. -/
structure Reservation where
  id : ℕ
  node : String
  shape : Shape
  vmid : VMID := 0
  freeing : List VMID := []
  expires : Time
  deriving DecidableEq, Repr

/-- The outstanding reservations and the last id given out. A reservation that is released, retired or
expired is one that is no longer there. -/
structure Accountant where
  res : Table ℕ Reservation Reservation.id
  nextRes : ℕ
  issued : ∀ id r, res.get id = some r → id ≤ nextRes

/-- The observable capacity of one node. -/
structure NodeState where
  totalBytes : ℕ
  reserveBytes : ℕ
  committedBytes : ℕ
  availableBytes : ℕ
  cpuGated : Bool
  limitVCPU : ℤ
  committedVCPU : ℤ
  availableVCPU : ℤ
  deriving DecidableEq, Repr

/-! ## Evaluating the ledger -/

def saturatingSub (a b : ℕ) : ℕ := if a < b then 0 else a - b

/-- Add a signed amount, but not below zero. -/
def addClamped (base : ℕ) (delta : ℤ) : ℕ :=
  if 0 ≤ delta then base + delta.toNat else saturatingSub base (-delta).toNat

/-- The host's headroom: the larger of the absolute and the fractional setting. -/
def Options.reserveFor (opts : Options) (total : ℕ) : ℕ :=
  if opts.reserveBytes < opts.fraction total then opts.fraction total else opts.reserveBytes

def Options.vcpuLimit (opts : Options) (cores : ℤ) : ℤ := opts.overcommit cores

namespace Reservation

/-- What the snapshot shows of the VM that the reservation is bound to. -/
def observed (r : Reservation) (snap : Snapshot) : ℕ := if r.vmid = 0 then 0 else snap.guestMem r.vmid

def observedVCPU (r : Reservation) (snap : Snapshot) : ℤ :=
  if r.vmid = 0 then 0 else snap.guestVCPU r.vmid

/-- The memory credited for the VMs that are being freed. -/
def credit (snap : Snapshot) (freeing : List VMID) : ℕ := (freeing.map snap.guestMem).sum

def creditVCPU (snap : Snapshot) (freeing : List VMID) : ℤ := (freeing.map snap.guestVCPU).sum

/-- What the reservation adds to its node's committed memory. -/
def delta (r : Reservation) (snap : Snapshot) : ℤ :=
  (if r.observed snap < r.shape.memoryBytes then (r.shape.memoryBytes - r.observed snap : ℕ) else 0) -
    credit snap r.freeing

def deltaVCPU (r : Reservation) (snap : Snapshot) : ℤ :=
  (if r.observedVCPU snap < r.shape.vcpus then r.shape.vcpus - r.observedVCPU snap else 0) -
    creditVCPU snap r.freeing

end Reservation

namespace Accountant

def sumOn (a : Accountant) (node : String) (term : Reservation → ℤ) : ℤ :=
  a.res.sum fun r ↦ if r.node = node then term r else 0

def stateLocked (opts : Options) (snap : Snapshot) (a : Accountant) (node : String) : NodeState :=
  let totals := snap.totals node
  let committed := addClamped totals.guestMem (a.sumOn node (·.delta snap))
  let committedVCPU := totals.guestVCPU + a.sumOn node (·.deltaVCPU snap)
  let committedVCPU := if committedVCPU < 0 then 0 else committedVCPU
  let reserve := opts.reserveFor totals.memBytes
  let usable := saturatingSub totals.memBytes reserve
  let limit := if opts.cpuGated then opts.vcpuLimit totals.vcpus else 0
  { totalBytes := totals.memBytes
    reserveBytes := reserve
    committedBytes := committed
    availableBytes := if committed < usable then usable - committed else 0
    cpuGated := opts.cpuGated
    limitVCPU := limit
    committedVCPU := committedVCPU
    availableVCPU := if opts.cpuGated ∧ committedVCPU < limit then limit - committedVCPU else 0 }

/-- Whether the shape is admitted on the node with the VMs of `extraFreeing` counted as gone. -/
def fitsLocked (opts : Options) (snap : Snapshot) (a : Accountant) (node : String) (shape : Shape)
    (extraFreeing : List VMID) : Bool :=
  match snap.nodes.lookup node with
  | none => false
  | some totals =>
    let state := a.stateLocked opts snap node
    let avail := state.availableBytes + Reservation.credit snap extraFreeing
    let vcpus := state.committedVCPU - Reservation.creditVCPU snap extraFreeing + shape.vcpus
    shape.memoryBytes ≤ avail ∧ (opts.cpuGated → vcpus ≤ opts.vcpuLimit totals.vcpus)

/-- What a sweep leaves of one reservation: nothing once it is expired or its VM is seen at full size,
and otherwise the credits of VMs that are still seen. -/
def sweepOne (snap : Snapshot) (now : Time) (r : Reservation) : Option Reservation :=
  if r.expires < now then
    none
  else if r.vmid ≠ 0 ∧ r.shape.memoryBytes ≤ snap.guestMem r.vmid then
    none
  else
    some { r with freeing := r.freeing.filter fun v ↦ (snap.guests.lookup v).isSome }

theorem sweepOne_eq_some {snap : Snapshot} {now : Time} {r r' : Reservation} :
    sweepOne snap now r = some r' ↔
      ¬ r.expires < now ∧ ¬ (r.vmid ≠ 0 ∧ r.shape.memoryBytes ≤ snap.guestMem r.vmid) ∧
      r' = { r with freeing := r.freeing.filter fun v ↦ (snap.guests.lookup v).isSome } := by
  unfold sweepOne
  split_ifs with hexpired hfull
  · simp [hexpired]
  · simp [hfull]
  · simp [hexpired, hfull, eq_comm]

theorem sweepOne_id {snap : Snapshot} {now : Time} (r r' : Reservation)
    (h : sweepOne snap now r = some r') : r'.id = r.id := by
  rw [(sweepOne_eq_some.mp h).2.2]

theorem sweepOne_node {snap : Snapshot} {now : Time} (r r' : Reservation)
    (h : sweepOne snap now r = some r') : r'.node = r.node := by
  rw [(sweepOne_eq_some.mp h).2.2]

def sweepLocked (snap : Snapshot) (now : Time) (a : Accountant) : Accountant where
  res := a.res.filterMap (sweepOne snap now) sweepOne_id
  nextRes := a.nextRes
  issued := by
    intro id r h
    rw [Table.get_filterMap, Option.bind_eq_some_iff] at h
    obtain ⟨old, hold, _⟩ := h
    exact a.issued id old hold

/-! ## The calls -/

def new : Accountant where
  res := .empty
  nextRes := 0
  issued := by simp

def snapshot (opts : Options) (snap : Snapshot) (now : Time) (a : Accountant) :
    Accountant × List (String × NodeState) :=
  let a := a.sweepLocked snap now
  (a, snap.nodes.keys.map fun node ↦ (node, a.stateLocked opts snap node))

def fits (opts : Options) (snap : Snapshot) (now : Time) (a : Accountant) (shape : Shape)
    (candidates : List String) : Accountant × List (String × Bool) :=
  let a := a.sweepLocked snap now
  (a, candidates.map fun node ↦ (node, a.fitsLocked opts snap node shape []))

/-- Record a reservation under the next id. -/
def add (a : Accountant) (node : String) (shape : Shape) (freeing : List VMID) (expires : Time) :
    Accountant where
  res := a.res.put
    { id := a.nextRes + 1, node := node, shape := shape, freeing := freeing, expires := expires }
  nextRes := a.nextRes + 1
  issued := by
    intro id r h
    rw [Table.get_put] at h
    split at h
    next hid => exact hid.le
    next => exact (a.issued id r h).trans (Nat.le_succ _)

/-- Reserve if the shape fits; the handle is the reservation's id. -/
def reserveFreeing (opts : Options) (snap : Snapshot) (now : Time) (a : Accountant) (node : String)
    (shape : Shape) (freeing : List VMID) : Accountant × Option ℕ :=
  let a := a.sweepLocked snap now
  if a.fitsLocked opts snap node shape freeing then
    (a.add node shape freeing (now + opts.reservationTTL), some (a.nextRes + 1))
  else
    (a, none)

def reserve (opts : Options) (snap : Snapshot) (now : Time) (a : Accountant) (node : String)
    (shape : Shape) : Accountant × Option ℕ :=
  a.reserveFreeing opts snap now node shape []

def bindOne (id : ℕ) (v : VMID) (r : Reservation) : Reservation :=
  if r.id = id then { r with vmid := v } else r

theorem bindOne_id {id : ℕ} {v : VMID} (r r' : Reservation) (h : some (bindOne id v r) = some r') :
    r'.id = r.id := by
  cases h
  unfold bindOne
  split_ifs <;> rfl

theorem bindOne_node (id : ℕ) (v : VMID) (r : Reservation) : (bindOne id v r).node = r.node := by
  unfold bindOne
  split_ifs <;> rfl

theorem bindOne_shape (id : ℕ) (v : VMID) (r : Reservation) : (bindOne id v r).shape = r.shape := by
  unfold bindOne
  split_ifs <;> rfl

/-- Binding a reservation that is no longer outstanding has no effect on the ledger. -/
def bind (a : Accountant) (id : ℕ) (v : VMID) : Accountant where
  res := a.res.filterMap (fun r ↦ some (bindOne id v r)) bindOne_id
  nextRes := a.nextRes
  issued := by
    intro other r h
    rw [Table.get_filterMap, Option.bind_eq_some_iff] at h
    obtain ⟨old, hold, _⟩ := h
    exact a.issued other old hold

/-- Releasing twice is releasing once. -/
def release (a : Accountant) (id : ℕ) : Accountant where
  res := a.res.erase id
  nextRes := a.nextRes
  issued := by
    intro other r h
    rw [Table.get_erase] at h
    split_ifs at h
    exact a.issued other r h

/-! ## The ledger as a sum -/

/-- Observed guest memory, plus what the reservations still wait for, minus the credits. -/
def ledgerBytes (snap : Snapshot) (a : Accountant) (node : String) : ℤ :=
  (snap.totals node).guestMem +
    a.sumOn node (fun r ↦ max 0 ((r.shape.memoryBytes : ℤ) - r.observed snap)) -
    a.sumOn node (fun r ↦ Reservation.credit snap r.freeing)

def ledgerVCPU (snap : Snapshot) (a : Accountant) (node : String) : ℤ :=
  (snap.totals node).guestVCPU +
    a.sumOn node (fun r ↦ max 0 (r.shape.vcpus - r.observedVCPU snap)) -
    a.sumOn node (fun r ↦ Reservation.creditVCPU snap r.freeing)

end Accountant

theorem addClamped_eq (base : ℕ) (delta : ℤ) : addClamped base delta = (base + delta).toNat := by
  unfold addClamped saturatingSub
  split_ifs <;> omega

theorem Reservation.delta_eq (r : Reservation) (snap : Snapshot) :
    r.delta snap = max 0 ((r.shape.memoryBytes : ℤ) - r.observed snap) - credit snap r.freeing := by
  unfold delta
  split_ifs <;> omega

theorem Reservation.deltaVCPU_eq (r : Reservation) (snap : Snapshot) :
    r.deltaVCPU snap = max 0 (r.shape.vcpus - r.observedVCPU snap) - creditVCPU snap r.freeing := by
  unfold deltaVCPU
  split_ifs <;> omega

namespace Accountant

variable {opts : Options} {snap : Snapshot} {a : Accountant} {node : String} {now : Time}

/-! ### The outstanding reservations after each call -/

variable {id : ℕ}

theorem get_sweepLocked :
    (a.sweepLocked snap now).res.get id = (a.res.get id).bind (sweepOne snap now) := by
  rw [sweepLocked, Table.get_filterMap]

theorem get_bind {other : ℕ} {v : VMID} :
    (a.bind id v).res.get other = (a.res.get other).map (bindOne id v) := by
  rw [bind, Table.get_filterMap]
  cases a.res.get other <;> rfl

theorem get_release {other : ℕ} :
    (a.release id).res.get other = if other = id then none else a.res.get other := by
  rw [release, Table.get_erase]

theorem mem_of_mem_sweepLocked {r' : Reservation} (h : r' ∈ (a.sweepLocked snap now).res.rows) :
    ∃ r ∈ a.res.rows, sweepOne snap now r = some r' := by
  have hget := Table.get_of_mem_rows h
  rw [get_sweepLocked, Option.bind_eq_some_iff] at hget
  obtain ⟨r, hr, hswept⟩ := hget
  rw [sweepOne_id r r' hswept] at hr
  exact ⟨r, Table.mem_rows.mpr hr, hswept⟩

theorem mem_of_mem_bind {v : VMID} {r' : Reservation} (h : r' ∈ (a.bind id v).res.rows) :
    ∃ r ∈ a.res.rows, bindOne id v r = r' := by
  have hget := Table.get_of_mem_rows h
  rw [get_bind, Option.map_eq_some_iff] at hget
  obtain ⟨r, hr, hbound⟩ := hget
  rw [bindOne_id r r' (congrArg some hbound)] at hr
  exact ⟨r, Table.mem_rows.mpr hr, hbound⟩

variable {r : Reservation}

theorem mem_of_mem_release (h : r ∈ (a.release id).res.rows) : r ∈ a.res.rows := by
  have hget := Table.get_of_mem_rows h
  rw [get_release] at hget
  split_ifs at hget
  exact Table.mem_rows.mpr hget

/-! ### Sums over the reservations of a node -/

theorem sumOn_sub (f g : Reservation → ℤ) :
    a.sumOn node (fun r ↦ f r - g r) = a.sumOn node f - a.sumOn node g := by
  unfold sumOn Table.sum
  induction a.res.rows with
  | nil => rfl
  | cons r rest ih =>
    simp only [List.map_cons, List.sum_cons, ih]
    split_ifs <;> omega

theorem sumOn_congr {f g : Reservation → ℤ}
    (h : ∀ r ∈ a.res.rows, r.node = node → f r = g r) : a.sumOn node f = a.sumOn node g := by
  refine Table.sum_congr _ fun r hr ↦ ?_
  split_ifs with hnode
  · exact h r (Table.mem_rows.mpr hr) hnode
  · rfl

theorem sumOn_le_sumOn {f g : Reservation → ℤ}
    (h : ∀ r ∈ a.res.rows, r.node = node → f r ≤ g r) : a.sumOn node f ≤ a.sumOn node g := by
  refine Table.sum_le_sum fun r hr ↦ ?_
  split_ifs with hnode
  · exact h r (Table.mem_rows.mpr hr) hnode
  · exact le_rfl

variable {term : Reservation → ℤ}

theorem sumOn_nonneg (h : ∀ r ∈ a.res.rows, 0 ≤ term r) : 0 ≤ a.sumOn node term := by
  refine Table.sum_nonneg fun r hr ↦ ?_
  split_ifs
  · exact h r (Table.mem_rows.mpr hr)
  · exact le_rfl

theorem sumOn_of_mem (hr : r ∈ a.res.rows) (hnode : r.node = node) (term : Reservation → ℤ) :
    a.sumOn node term = term r + (a.release r.id).sumOn node term := by
  rw [sumOn, Table.sum_of_get _ (Table.get_of_mem_rows hr), if_pos hnode]
  rfl

theorem le_sumOn_of_mem (hr : r ∈ a.res.rows) (hnode : r.node = node) (h : ∀ r ∈ a.res.rows, 0 ≤ term r) :
    term r ≤ a.sumOn node term := by
  rw [sumOn_of_mem hr hnode]
  exact le_add_of_nonneg_right (sumOn_nonneg fun r hr ↦ h r (mem_of_mem_release hr))

theorem sumOn_release_le (hterm : ∀ r ∈ a.res.rows, 0 ≤ term r) (id : ℕ) :
    (a.release id).sumOn node term ≤ a.sumOn node term := by
  unfold sumOn release
  cases hget : a.res.get id with
  | none => rw [Table.sum, Table.rows_erase_of_get hget, Table.sum]
  | some r =>
    have hid : r.id = id := Table.key_of_get hget
    have hnonneg := hterm r (Table.mem_rows.mpr (hid ▸ hget))
    rw [Table.sum_of_get _ hget]
    refine le_add_of_nonneg_left ?_
    split_ifs
    · exact hnonneg
    · exact le_rfl

theorem sumOn_bind {v : VMID} (term : Reservation → ℤ) :
    (a.bind id v).sumOn node term = a.sumOn node fun r ↦ term (bindOne id v r) := by
  rw [sumOn, bind, Table.sum_filterMap]
  refine Table.sum_congr _ fun r _ ↦ ?_
  simp [bindOne_node]

theorem sumOn_sweepLocked (term : Reservation → ℤ) : (a.sweepLocked snap now).sumOn node term =
    a.sumOn node fun r ↦ ((sweepOne snap now r).map term).getD 0 := by
  rw [sumOn, sweepLocked, Table.sum_filterMap]
  refine Table.sum_congr _ fun r _ ↦ ?_
  cases hswept : sweepOne snap now r with
  | none => simp [hswept]
  | some r' => simp [hswept, sweepOne_node r r' hswept]

/-- The committed memory that the accountant reports is the ledger, cut off at zero. -/
theorem committedBytes_eq :
    (a.stateLocked opts snap node).committedBytes = (a.ledgerBytes snap node).toNat := by
  have hdelta : a.sumOn node (·.delta snap) = a.sumOn node (fun r ↦
      max 0 ((r.shape.memoryBytes : ℤ) - r.observed snap) - Reservation.credit snap r.freeing) := by
    simp only [Reservation.delta_eq]
  simp only [stateLocked, addClamped_eq, hdelta, sumOn_sub, ledgerBytes]
  congr 1
  omega

theorem committedVCPU_eq :
    (a.stateLocked opts snap node).committedVCPU = max 0 (a.ledgerVCPU snap node) := by
  have hdelta : a.sumOn node (·.deltaVCPU snap) = a.sumOn node (fun r ↦
      max 0 (r.shape.vcpus - r.observedVCPU snap) - Reservation.creditVCPU snap r.freeing) := by
    simp only [Reservation.deltaVCPU_eq]
  simp only [stateLocked, hdelta, sumOn_sub, ledgerVCPU]
  split_ifs <;> omega

/-- What the ledger leaves of the memory that may be planned. -/
theorem availableBytes_eq :
    ((a.stateLocked opts snap node).availableBytes : ℤ) =
      max 0 ((snap.totals node).memBytes - opts.reserveFor (snap.totals node).memBytes -
        max 0 (a.ledgerBytes snap node)) := by
  have hcommitted : (a.stateLocked opts snap node).availableBytes =
      if (a.stateLocked opts snap node).committedBytes <
          saturatingSub (snap.totals node).memBytes (opts.reserveFor (snap.totals node).memBytes) then
        saturatingSub (snap.totals node).memBytes (opts.reserveFor (snap.totals node).memBytes) -
          (a.stateLocked opts snap node).committedBytes
      else 0 := rfl
  rw [hcommitted, committedBytes_eq]
  unfold saturatingSub
  split_ifs <;> omega

theorem fitsLocked_eq_true {shape : Shape} {freeing : List VMID} :
    a.fitsLocked opts snap node shape freeing ↔
      (snap.nodes.lookup node).isSome ∧
      (shape.memoryBytes : ℤ) ≤
        (a.stateLocked opts snap node).availableBytes + Reservation.credit snap freeing ∧
      (opts.cpuGated → (a.stateLocked opts snap node).committedVCPU -
        Reservation.creditVCPU snap freeing + shape.vcpus ≤ opts.vcpuLimit (snap.totals node).vcpus) := by
  unfold fitsLocked Snapshot.totals
  cases snap.nodes.lookup node with
  | none => simp
  | some totals =>
    simp only [decide_eq_true_eq, Option.isSome_some, Option.getD_some, true_and]
    refine and_congr_left' ?_
    norm_cast

theorem get_nextRes_succ : a.res.get (a.nextRes + 1) = none := by
  cases h : a.res.get (a.nextRes + 1) with
  | none => rfl
  | some r => exact absurd (a.issued _ r h) (Nat.not_succ_le_self _)

/-! ## What a new reservation adds -/

variable {shape : Shape} {freeing : List VMID} {expires : Time}

theorem get_add : (a.add node shape freeing expires).res.get id =
    if id = a.nextRes + 1 then some { id := a.nextRes + 1, node, shape, freeing, expires }
    else a.res.get id := by
  rw [add, Table.get_put]

theorem mem_of_mem_add (h : r ∈ (a.add node shape freeing expires).res.rows) :
    r = { id := a.nextRes + 1, node, shape, freeing, expires } ∨ r ∈ a.res.rows :=
  (Table.mem_rows_put.mp h).imp id And.right

theorem sumOn_put_fresh (other : String) (term : Reservation → ℤ) :
    (a.add node shape freeing expires).sumOn other term =
      (if node = other then term { id := a.nextRes + 1, node, shape, freeing, expires } else 0) +
        a.sumOn other term := by
  have hfresh : a.res.get (Reservation.id { id := a.nextRes + 1, node, shape, freeing, expires }) =
      none := a.get_nextRes_succ
  exact Table.sum_put_of_get_none (fun r ↦ if r.node = other then term r else 0) hfresh

theorem sumOn_add (term : Reservation → ℤ) :
    (a.add node shape freeing expires).sumOn node term = a.sumOn node term +
      term { id := a.nextRes + 1, node, shape, freeing, expires } := by
  rw [sumOn_put_fresh, if_pos rfl, add_comm]

theorem sumOn_add_of_ne {other : String} (hne : other ≠ node) (term : Reservation → ℤ) :
    (a.add node shape freeing expires).sumOn other term = a.sumOn other term := by
  rw [sumOn_put_fresh, if_neg hne.symm, zero_add]

theorem ledgerBytes_add : (a.add node shape freeing expires).ledgerBytes snap node =
    a.ledgerBytes snap node + shape.memoryBytes - Reservation.credit snap freeing := by
  simp only [ledgerBytes, sumOn_add, Reservation.observed, if_true]
  omega

theorem ledgerVCPU_add : (a.add node shape freeing expires).ledgerVCPU snap node =
    a.ledgerVCPU snap node + max 0 shape.vcpus - Reservation.creditVCPU snap freeing := by
  simp only [ledgerVCPU, sumOn_add, Reservation.observedVCPU, if_true]
  omega

/-! ## What is admitted -/

/-- The node's ledger stays inside what may be planned. -/
def WithinLimits (opts : Options) (snap : Snapshot) (a : Accountant) (node : String) : Prop :=
  a.ledgerBytes snap node ≤
    (snap.totals node).memBytes - opts.reserveFor (snap.totals node).memBytes ∧
  (opts.cpuGated → a.ledgerVCPU snap node ≤ opts.vcpuLimit (snap.totals node).vcpus)

/-- On a node whose ledger is over its limit the fit test starts from nothing available, not from the
deficit; then the credits have to exceed the shape by what the node is over. A shape with a negative
vCPU count passes the test with a value that its reservation does not keep. -/
def CreditsCover (opts : Options) (snap : Snapshot) (a : Accountant) (node : String) (shape : Shape)
    (freeing : List VMID) : Prop :=
  let excess := a.ledgerBytes snap node -
    ((snap.totals node).memBytes - opts.reserveFor (snap.totals node).memBytes)
  (excess ≤ 0 ∨ excess ≤ Reservation.credit snap freeing - shape.memoryBytes) ∧
  (opts.cpuGated → 0 ≤ shape.vcpus ∨ a.ledgerVCPU snap node ≤
    opts.vcpuLimit (snap.totals node).vcpus + Reservation.creditVCPU snap freeing)

instance : Decidable (WithinLimits opts snap a node) :=
  inferInstanceAs (Decidable (_ ∧ (_ → _)))

theorem withinLimits_add_iff (hfits : a.fitsLocked opts snap node shape freeing) :
    (a.add node shape freeing expires).WithinLimits opts snap node ↔
      a.CreditsCover opts snap node shape freeing := by
  obtain ⟨_, hmem, hcpu⟩ := fitsLocked_eq_true.mp hfits
  rw [availableBytes_eq] at hmem
  rw [committedVCPU_eq] at hcpu
  unfold WithinLimits CreditsCover
  rw [ledgerBytes_add, ledgerVCPU_add]
  refine and_congr ?_ (forall_congr' fun hgated ↦ ?_)
  · omega
  · have hcpu := hcpu hgated
    omega

theorem reserveFreeing_of_fits
    (hfits : (a.sweepLocked snap now).fitsLocked opts snap node shape freeing) :
    a.reserveFreeing opts snap now node shape freeing =
      ((a.sweepLocked snap now).add node shape freeing (now + opts.reservationTTL),
        some (a.nextRes + 1)) :=
  if_pos hfits

theorem reserveFreeing_of_not_fits
    (hfits : ¬ (a.sweepLocked snap now).fitsLocked opts snap node shape freeing) :
    a.reserveFreeing opts snap now node shape freeing = (a.sweepLocked snap now, none) :=
  if_neg hfits

theorem reserveFreeing_eq_some {a' : Accountant} :
    a.reserveFreeing opts snap now node shape freeing = (a', some id) ↔
      (a.sweepLocked snap now).fitsLocked opts snap node shape freeing ∧
      a' = (a.sweepLocked snap now).add node shape freeing (now + opts.reservationTTL) ∧
      id = a.nextRes + 1 := by
  by_cases hfits : (a.sweepLocked snap now).fitsLocked opts snap node shape freeing = true
  · rw [reserveFreeing_of_fits hfits]
    simp [hfits, eq_comm]
  · rw [reserveFreeing_of_not_fits hfits]
    simp [hfits]

/-- An admitted reservation leaves its node inside the limits in exactly the states where a shape that
fits is covered by its credits. -/
theorem admitted_withinLimits_iff :
    (∀ a' id, a.reserveFreeing opts snap now node shape freeing = (a', some id) →
      a'.WithinLimits opts snap node) ↔
    ((a.sweepLocked snap now).fitsLocked opts snap node shape freeing = true →
      (a.sweepLocked snap now).CreditsCover opts snap node shape freeing) := by
  constructor
  · intro h hfits
    have hadd := h _ _ (reserveFreeing_eq_some.mpr ⟨hfits, rfl, rfl⟩)
    exact (withinLimits_add_iff hfits).mp hadd
  · intro h a' id hreserve
    obtain ⟨hfits, rfl, -⟩ := reserveFreeing_eq_some.mp hreserve
    exact (withinLimits_add_iff hfits).mpr (h hfits)

/-- 16 GiB with 5 GiB of them held by the runner 100 and 10 GiB by the operator's guest 900. -/
def crowdedNode : Snapshot where
  nodes := [⟨"pve1", ⟨16 * 2 ^ 30, 8, 15 * 2 ^ 30, 6⟩⟩].toAList
  guests := [⟨100, ⟨5 * 2 ^ 30, 2⟩⟩, ⟨900, ⟨10 * 2 ^ 30, 4⟩⟩].toAList
  takenAt := 0

/-- With 4 GiB withheld the node is 3 GiB over; evicting 100 for a shape of the same size is admitted
and leaves it 3 GiB over. -/
theorem crowdedNode_admits_over_limit :
    ∃ a' id, new.reserveFreeing { reserveBytes := 4 * 2 ^ 30 } crowdedNode 0 "pve1"
        ⟨5 * 2 ^ 30, 2⟩ [100] = (a', some id) ∧
      ¬ a'.WithinLimits { reserveBytes := 4 * 2 ^ 30 } crowdedNode "pve1" :=
  ⟨_, _, reserveFreeing_eq_some.mpr ⟨by decide +kernel, rfl, rfl⟩, by decide +kernel⟩

end Accountant

end ScalesetProxmox.Nodecap
