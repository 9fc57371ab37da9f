import ScalesetProxmox.Nodecap.Sweep

/-!
# From reservation to guest row

A clone is first carried by its reservation and later by the guest row that the cluster publishes.
Here one row appears between two snapshots, and the committed memory is compared on both sides of
it: while the row is no larger than the reservation the residual shrinks by what the row adds, and a
sweep that retires reservations takes away only terms that are zero by then.
-/

namespace ScalesetProxmox.Nodecap

open Store (VMID Time)

/-- The second snapshot is the first one with the guest `v` added on `node`. -/
structure Snapshot.Appears (before after : Snapshot) (node : String) (v : VMID) (size : GuestSize) :
    Prop where
  absent : before.guests.lookup v = none
  present : after.guests.lookup v = some size
  others : ∀ other, other ≠ v → after.guests.lookup other = before.guests.lookup other
  known : (before.nodes.lookup node).isSome
  totals : after.nodes.lookup node = (before.nodes.lookup node).map fun t ↦
    { t with guestMem := t.guestMem + size.mem, guestVCPU := t.guestVCPU + size.vcpu }
  elsewhere : ∀ other, other ≠ node → after.nodes.lookup other = before.nodes.lookup other

def Snapshot.withGuest (snap : Snapshot) (node : String) (v : VMID) (size : GuestSize) : Snapshot where
  nodes := snap.nodes.insert node { snap.totals node with
    guestMem := (snap.totals node).guestMem + size.mem
    guestVCPU := (snap.totals node).guestVCPU + size.vcpu }
  guests := snap.guests.insert v size
  takenAt := snap.takenAt

theorem Snapshot.appears_withGuest {snap : Snapshot} {node : String} {v : VMID} {size : GuestSize}
    (habsent : snap.guests.lookup v = none) (hknown : (snap.nodes.lookup node).isSome) :
    snap.Appears (snap.withGuest node v size) node v size where
  absent := habsent
  present := AList.lookup_insert _
  others _ hne := AList.lookup_insert_ne hne
  known := hknown
  totals := by
    obtain ⟨t, ht⟩ := Option.isSome_iff_exists.mp hknown
    simp [withGuest, Snapshot.totals, ht]
  elsewhere _ hne := AList.lookup_insert_ne hne

namespace Snapshot.Appears

variable {before after : Snapshot} {node : String} {v : VMID} {size : GuestSize}
  (h : before.Appears after node v size)

include h

theorem guestMem_before : before.guestMem v = 0 := by
  simp [guestMem, h.absent]

theorem guestMem_after : after.guestMem v = size.mem := by
  simp [guestMem, h.present]

theorem guestMem_of_ne {other : VMID} (hne : other ≠ v) :
    after.guestMem other = before.guestMem other := by
  rw [guestMem, guestMem, h.others other hne]

theorem totals_guestMem :
    (after.totals node).guestMem = (before.totals node).guestMem + size.mem := by
  obtain ⟨t, ht⟩ := Option.isSome_iff_exists.mp h.known
  simp [Snapshot.totals, h.totals, ht]

theorem totals_of_ne {other : String} (hne : other ≠ node) :
    after.totals other = before.totals other := by
  rw [Snapshot.totals, Snapshot.totals, h.elsewhere other hne]

theorem credit_eq {freeing : List VMID} (hv : v ∉ freeing) :
    Reservation.credit after freeing = Reservation.credit before freeing := by
  unfold Reservation.credit
  refine congrArg List.sum (List.map_congr_left fun u hu ↦ ?_)
  apply h.guestMem_of_ne
  rintro rfl
  exact hv hu

/-- A reservation that does not mention the guest keeps its term. -/
theorem delta_eq {r : Reservation} (hbound : r.vmid ≠ v)
    (hfreeing : v ∉ r.freeing) : r.delta after = r.delta before := by
  unfold Reservation.delta Reservation.observed
  rw [h.guestMem_of_ne hbound, h.credit_eq hfreeing]

/-- The reservation's own guest takes over what it shows, as long as it shows no more. -/
theorem delta_add_size {r : Reservation} (hbound : r.vmid = v)
    (hv : v ≠ 0) (hfreeing : v ∉ r.freeing) (hsize : size.mem ≤ r.shape.memoryBytes) :
    r.delta after + size.mem = r.delta before := by
  have hbefore : r.observed before = 0 := by
    rw [Reservation.observed, hbound, if_neg hv, h.guestMem_before]
  have hafter : r.observed after = size.mem := by
    rw [Reservation.observed, hbound, if_neg hv, h.guestMem_after]
  rw [Reservation.delta_eq, Reservation.delta_eq, hbefore, hafter, h.credit_eq hfreeing]
  omega

end Snapshot.Appears

namespace Accountant

variable {opts : Options} {before after : Snapshot} {a : Accountant} {node : String} {v : VMID}
  {size : GuestSize} {r : Reservation} {now : Time}

theorem committedBytes_eq_addClamped (snap : Snapshot) : (a.stateLocked opts snap node).committedBytes =
    addClamped (snap.totals node).guestMem (a.sumOn node (·.delta snap)) := rfl

/-- No reservation but `r` is bound to `v` or frees it. -/
def OnlyMention (a : Accountant) (r : Reservation) (v : VMID) : Prop :=
  ∀ other ∈ a.res.rows, other.id ≠ r.id → other.vmid ≠ v ∧ v ∉ other.freeing

instance : Decidable (a.OnlyMention r v) :=
  inferInstanceAs (Decidable (∀ other ∈ a.res.rows, _))

/-- Off the reservation's node no term changes. -/
theorem sumOn_delta_of_ne (h : before.Appears after node v size) (hr : r ∈ a.res.rows)
    (hnode : r.node = node) (honly : a.OnlyMention r v) {other : String} (hne : other ≠ node) :
    a.sumOn other (·.delta after) = a.sumOn other (·.delta before) := by
  apply sumOn_congr
  intro row hrow hon
  have hid : row.id ≠ r.id := by
    intro hid
    have hrow := Table.get_of_mem_rows hrow
    rw [hid, Table.get_of_mem_rows hr] at hrow
    cases hrow
    exact hne (hon.symm.trans hnode)
  obtain ⟨hbound, hfreeing⟩ := honly row hrow hid
  exact h.delta_eq hbound hfreeing

/-- On its node the terms lose together what the guest row adds. -/
theorem sumOn_delta_add_size (h : before.Appears after node v size) (hr : r ∈ a.res.rows)
    (hnode : r.node = node) (hbound : r.vmid = v) (hv : v ≠ 0) (honly : a.OnlyMention r v)
    (hfreeing : v ∉ r.freeing) (hsize : size.mem ≤ r.shape.memoryBytes) :
    a.sumOn node (·.delta after) + size.mem = a.sumOn node (·.delta before) := by
  have hrest : (a.release r.id).sumOn node (·.delta after) =
      (a.release r.id).sumOn node (·.delta before) := by
    apply sumOn_congr
    intro row hrow _
    have hrow := Table.get_of_mem_rows hrow
    rw [release, Table.get_erase] at hrow
    split_ifs at hrow with hid
    obtain ⟨hother, hlist⟩ := honly row (Table.mem_rows.mpr hrow) hid
    exact h.delta_eq hother hlist
  calc a.sumOn node (·.delta after) + size.mem
      = r.delta after + (a.release r.id).sumOn node (·.delta after) + size.mem := by
        rw [sumOn_of_mem hr hnode]
    _ = (r.delta after + size.mem) + (a.release r.id).sumOn node (·.delta before) := by
        rw [hrest, add_right_comm]
    _ = r.delta before + (a.release r.id).sumOn node (·.delta before) := by
        rw [h.delta_add_size hbound hv hfreeing hsize]
    _ = a.sumOn node (·.delta before) := by
        rw [sumOn_of_mem hr hnode (·.delta before)]

/-- What a sweep leaves of a term: all of it, when the reservation has not expired and one that is
bound lists nothing as being freed. -/
theorem delta_sweepOne {snap : Snapshot} (hexpires : ¬ r.expires < now)
    (hfreeing : r.vmid ≠ 0 → r.freeing = []) :
    ((sweepOne snap now r).map (·.delta snap)).getD 0 = r.delta snap := by
  rw [Reservation.sweepOne_of_live hexpires]
  split_ifs with hretires
  · -- the guest row carries the reservation in full
    have hobserved : r.observed snap = snap.guestMem r.vmid := if_neg hretires.1
    rw [Reservation.delta_eq, hobserved, hfreeing hretires.1]
    simp [Reservation.credit, hretires.2]
  · simp only [Option.map_some, Option.getD_some, Reservation.delta, Reservation.observed,
      Reservation.credit_filter]
    rfl

theorem committedBytes_sweepLocked {snap : Snapshot}
    (hexpires : ∀ r ∈ a.res.rows, ¬ r.expires < now)
    (hfreeing : ∀ r ∈ a.res.rows, r.vmid ≠ 0 → r.freeing = []) :
    ((a.sweepLocked snap now).stateLocked opts snap node).committedBytes =
      (a.stateLocked opts snap node).committedBytes := by
  have hsum : (a.sweepLocked snap now).sumOn node (·.delta snap) = a.sumOn node (·.delta snap) := by
    rw [sumOn_sweepLocked]
    apply sumOn_congr
    intro row hrow _
    exact delta_sweepOne (hexpires row hrow) (hfreeing row hrow)
  rw [committedBytes_eq_addClamped, committedBytes_eq_addClamped, hsum]

/-- A reservation hands over to the guest row: nothing is lost while the row is smaller and the
reservation does not free its own guest, nothing is counted twice once a sweep sees the row in full,
and no other node notices. -/
theorem handoff_keeps_committed (h : before.Appears after node v size) (hr : r ∈ a.res.rows)
    (hnode : r.node = node) (hbound : r.vmid = v) (hv : v ≠ 0) (honly : a.OnlyMention r v) :
    (v ∉ r.freeing → size.mem ≤ r.shape.memoryBytes →
      (a.stateLocked opts after node).committedBytes =
        (a.stateLocked opts before node).committedBytes) ∧
    (r.shape.memoryBytes ≤ size.mem → (∀ other ∈ a.res.rows, ¬ other.expires < now) →
      (∀ other ∈ a.res.rows, other.vmid ≠ 0 → other.freeing = []) →
      (a.sweepLocked after now).res.get r.id = none ∧
      ∀ any, ((a.sweepLocked after now).stateLocked opts after any).committedBytes =
        (a.stateLocked opts after any).committedBytes) ∧
    (∀ other, other ≠ node → (a.stateLocked opts after other).committedBytes =
      (a.stateLocked opts before other).committedBytes) := by
  refine ⟨fun hfreeing hsize ↦ ?_, fun hsize hexpires hnone ↦ ⟨?_, fun any ↦ ?_⟩, fun other hne ↦ ?_⟩
  · have hsum := sumOn_delta_add_size h hr hnode hbound hv honly hfreeing hsize
    rw [committedBytes_eq_addClamped, committedBytes_eq_addClamped, addClamped_eq, addClamped_eq,
      h.totals_guestMem, ← hsum]
    push_cast
    congr 1
    omega
  · have hfull : r.vmid ≠ 0 ∧ r.shape.memoryBytes ≤ after.guestMem r.vmid := by
      rw [hbound, h.guestMem_after]
      exact ⟨hv, hsize⟩
    rw [get_sweepLocked, Table.get_of_mem_rows hr, Option.bind_some, sweepOne,
      if_neg (hexpires r hr), if_pos hfull]
  · exact committedBytes_sweepLocked hexpires hnone
  · rw [committedBytes_eq_addClamped, committedBytes_eq_addClamped, h.totals_of_ne hne,
      sumOn_delta_of_ne h hr hnode honly hne]

/-- The runner 101 of 5 GiB is reserved and bound on the node while the cluster does not show it. -/
def cloning (freeing : List VMID) : Accountant :=
  (new.add "pve1" ⟨5 * 2 ^ 30, 2⟩ freeing (5 * Store.minute)).bind 1 101

def cloningReservation (freeing : List VMID) : Reservation where
  id := 1
  node := "pve1"
  shape := ⟨5 * 2 ^ 30, 2⟩
  vmid := 101
  freeing := freeing
  expires := 5 * Store.minute

theorem crowdedNode_appears : crowdedNode.Appears (crowdedNode.withGuest "pve1" 101 ⟨2 * 2 ^ 30, 2⟩)
    "pve1" 101 ⟨2 * 2 ^ 30, 2⟩ :=
  Snapshot.appears_withGuest (by decide) (by decide)

/-- The row first shows the 2 GiB of the template; the residual of 3 GiB keeps the sum. -/
theorem handoff_keeps_committed_template :
    ((cloning []).stateLocked {} (crowdedNode.withGuest "pve1" 101 ⟨2 * 2 ^ 30, 2⟩)
      "pve1").committedBytes = ((cloning []).stateLocked {} crowdedNode "pve1").committedBytes := by
  have hmem : cloningReservation [] ∈ (cloning []).res.rows := by decide +kernel
  have hhandoff := @handoff_keeps_committed {} _ _ _ _ _ _ _ 0 crowdedNode_appears hmem rfl rfl
    (by decide) (by decide +kernel)
  exact hhandoff.1 (by decide) (by decide)

/-- A reservation that frees the guest it is bound to is credited for it as soon as it shows. -/
theorem own_guest_credited :
    ∃ (before after : Snapshot) (a : Accountant) (r : Reservation) (size : GuestSize),
      before.Appears after r.node r.vmid size ∧ r ∈ a.res.rows ∧ r.vmid ≠ 0 ∧
      a.OnlyMention r r.vmid ∧ size.mem ≤ r.shape.memoryBytes ∧
      (a.stateLocked {} after r.node).committedBytes ≠
        (a.stateLocked {} before r.node).committedBytes := by
  refine ⟨crowdedNode, crowdedNode.withGuest "pve1" 101 ⟨2 * 2 ^ 30, 2⟩, cloning [101],
    cloningReservation [101], ⟨2 * 2 ^ 30, 2⟩, crowdedNode_appears, ?_, ?_, ?_, ?_, ?_⟩ <;>
    decide +kernel

end Accountant

end ScalesetProxmox.Nodecap
