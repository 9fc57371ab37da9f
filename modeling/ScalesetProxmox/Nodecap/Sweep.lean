import ScalesetProxmox.Nodecap.Fetch

/-!
# What a sweep does to the commitments

A sweep drops a reservation once its VM shows with all of its memory, and drops the credits of VMs that
no longer show. Neither changes what the snapshot says of a node, so the node's commitment changes by what
the retired reservations still stood for. In memory that is nothing, or a credit that ends. In vCPUs it is
whatever the VM does not show yet: the sweep looks at memory alone, and a clone of a template with as much
memory and fewer cores shows its cores only after its configuration is written.
-/

namespace ScalesetProxmox.Nodecap

open Store (VMID Time)

namespace Reservation

variable {snap : Snapshot} {now : Time} {r : Reservation}

/-- The VM that the reservation is bound to shows with all of its memory. -/
def Retires (snap : Snapshot) (r : Reservation) : Prop :=
  r.vmid ≠ 0 ∧ r.shape.memoryBytes ≤ snap.guestMem r.vmid

instance (snap : Snapshot) (r : Reservation) : Decidable (r.Retires snap) :=
  inferInstanceAs (Decidable (_ ∧ _))

/-- VMs that do not show add nothing to a sum of what shows of them. -/
theorem sum_filter_shown {M : Type} [AddCommMonoid M] (shown : VMID → M)
    (hnone : ∀ v, snap.guests.lookup v = none → shown v = 0) (freeing : List VMID) :
    ((freeing.filter fun v ↦ (snap.guests.lookup v).isSome).map shown).sum = (freeing.map shown).sum := by
  induction freeing with
  | nil => rfl
  | cons v freeing ih =>
    cases hv : snap.guests.lookup v with
    | none => simpa [hv, hnone v hv] using ih
    | some size => simpa [hv] using congrArg (shown v + ·) ih

theorem credit_filter (freeing : List VMID) :
    credit snap (freeing.filter fun v ↦ (snap.guests.lookup v).isSome) = credit snap freeing :=
  sum_filter_shown snap.guestMem (fun v hv ↦ by simp [Snapshot.guestMem, hv]) freeing

theorem creditVCPU_filter (freeing : List VMID) :
    creditVCPU snap (freeing.filter fun v ↦ (snap.guests.lookup v).isSome) = creditVCPU snap freeing :=
  sum_filter_shown snap.guestVCPU (fun v hv ↦ by simp [Snapshot.guestVCPU, hv]) freeing

theorem sweepOne_of_live (hlive : ¬ r.expires < now) : Accountant.sweepOne snap now r =
    if r.Retires snap then none
    else some { r with freeing := r.freeing.filter fun v ↦ (snap.guests.lookup v).isSome } :=
  if_neg hlive

/-- What is left of a reservation after a sweep adds no less memory than it did. -/
theorem delta_le_swept (hlive : ¬ r.expires < now) :
    r.delta snap ≤ ((Accountant.sweepOne snap now r).map (·.delta snap)).getD 0 := by
  rw [sweepOne_of_live hlive]
  split_ifs with hretires
  · have hobserved : r.observed snap = snap.guestMem r.vmid := if_neg hretires.1
    have hfull := hretires.2
    simp only [Option.map_none, Option.getD_none, delta_eq, hobserved]
    omega
  · simp only [Option.map_some, Option.getD_some, delta, observed, credit_filter]
    exact le_rfl

/-- In vCPUs a retired reservation takes all that it added with it. -/
theorem deltaVCPU_swept (hlive : ¬ r.expires < now) :
    ((Accountant.sweepOne snap now r).map (·.deltaVCPU snap)).getD 0 =
      r.deltaVCPU snap - if r.Retires snap then r.deltaVCPU snap else 0 := by
  rw [sweepOne_of_live hlive]
  by_cases hretires : r.Retires snap
  · rw [if_pos hretires, if_pos hretires]
    exact (sub_self _).symm
  · rw [if_neg hretires, if_neg hretires, sub_zero]
    simp only [Option.map_some, Option.getD_some, deltaVCPU, observedVCPU, creditVCPU_filter]
    rfl

end Reservation

namespace Accountant

variable {opts : Options} {snap : Snapshot} {a : Accountant} {node : String} {now : Time}

theorem ledgerBytes_eq_sum :
    a.ledgerBytes snap node = (snap.totals node).guestMem + a.sumOn node (·.delta snap) := by
  simp only [ledgerBytes, Reservation.delta_eq, sumOn_sub]
  omega

theorem ledgerVCPU_eq_sum :
    a.ledgerVCPU snap node = (snap.totals node).guestVCPU + a.sumOn node (·.deltaVCPU snap) := by
  simp only [ledgerVCPU, Reservation.deltaVCPU_eq, sumOn_sub]
  omega

/-- The vCPUs that the reservations about to retire still stand for on the node, less their credits. -/
def retiringVCPU (snap : Snapshot) (a : Accountant) (node : String) : ℤ :=
  a.sumOn node fun r ↦ if r.Retires snap then r.deltaVCPU snap else 0

theorem ledgerBytes_le_sweepLocked (hlive : ∀ r ∈ a.res.rows, ¬ r.expires < now) :
    a.ledgerBytes snap node ≤ (a.sweepLocked snap now).ledgerBytes snap node := by
  have hsum : a.sumOn node (·.delta snap) ≤ (a.sweepLocked snap now).sumOn node (·.delta snap) := by
    rw [sumOn_sweepLocked]
    exact sumOn_le_sumOn fun r hr _ ↦ Reservation.delta_le_swept (hlive r hr)
  rw [ledgerBytes_eq_sum, ledgerBytes_eq_sum]
  omega

theorem ledgerVCPU_sweepLocked (hlive : ∀ r ∈ a.res.rows, ¬ r.expires < now) :
    (a.sweepLocked snap now).ledgerVCPU snap node =
      a.ledgerVCPU snap node - a.retiringVCPU snap node := by
  have hsum : (a.sweepLocked snap now).sumOn node (·.deltaVCPU snap) =
      a.sumOn node (·.deltaVCPU snap) - a.retiringVCPU snap node := by
    rw [sumOn_sweepLocked, retiringVCPU, ← sumOn_sub]
    exact sumOn_congr fun r hr _ ↦ Reservation.deltaVCPU_swept (hlive r hr)
  rw [ledgerVCPU_eq_sum, ledgerVCPU_eq_sum, hsum]
  omega

/-- A sweep without expired reservations lowers neither commitment of a node if and only if the
reservations that it retires there have no vCPUs left to stand for, or nothing is committed anyway. -/
theorem sweep_keeps_commitments_iff (hlive : ∀ r ∈ a.res.rows, ¬ r.expires < now) :
    ((a.stateLocked opts snap node).committedBytes ≤
        ((a.sweepLocked snap now).stateLocked opts snap node).committedBytes ∧
      (a.stateLocked opts snap node).committedVCPU ≤
        ((a.sweepLocked snap now).stateLocked opts snap node).committedVCPU) ↔
      a.retiringVCPU snap node ≤ 0 ∨ a.ledgerVCPU snap node ≤ 0 := by
  have hbytes := @ledgerBytes_le_sweepLocked snap a node now hlive
  rw [committedBytes_eq, committedBytes_eq, committedVCPU_eq, committedVCPU_eq,
    ledgerVCPU_sweepLocked hlive]
  omega

/-- A reservation for a clone with eight vCPUs and 8 GiB that has got the VMID 101. -/
def boundEight : Accountant := (new.add "pve1" ⟨8 * 2 ^ 30, 8⟩ [] Store.minute).bind 1 101

/-- The clone shows with 8 GiB and some number of vCPUs. -/
def halfConfigured (vcpus : ℕ) : Snapshot :=
  fetch {} [{ type := .node, node := "pve1", maxMem := 32 * 2 ^ 30, maxCPU := 8 },
    { type := .qemu, node := "pve1", status := "running", vmid := 101, maxMem := 8 * 2 ^ 30,
      maxCPU := vcpus }] 0

/-- It shows with all eight, and the sweep hands the commitment over to the guest. -/
theorem sweep_keeps_commitments_configured :
    (boundEight.stateLocked {} (halfConfigured 8) "pve1").committedBytes ≤
        ((boundEight.sweepLocked (halfConfigured 8) 0).stateLocked {} (halfConfigured 8) "pve1").committedBytes ∧
      (boundEight.stateLocked {} (halfConfigured 8) "pve1").committedVCPU ≤
        ((boundEight.sweepLocked (halfConfigured 8) 0).stateLocked {} (halfConfigured 8) "pve1").committedVCPU :=
  (sweep_keeps_commitments_iff (by decide +kernel)).mpr (.inl (by decide +kernel))

/-- It shows with the two vCPUs of its template, and the sweep lowers the commitment from eight to two. -/
theorem sweep_forgets_vcpus_of_template :
    (∀ r ∈ boundEight.res.rows, ¬ r.expires < 0) ∧
      (boundEight.stateLocked {} (halfConfigured 2) "pve1").committedVCPU = 8 ∧
      ((boundEight.sweepLocked (halfConfigured 2) 0).stateLocked {} (halfConfigured 2) "pve1").committedVCPU =
        2 := by
  decide +kernel

end Accountant

end ScalesetProxmox.Nodecap
