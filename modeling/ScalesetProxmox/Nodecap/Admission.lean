import ScalesetProxmox.Nodecap.Ledger
import ScalesetProxmox.Transition.Run

/-!
# Concurrent dispatches on one snapshot

Any number of callers work on the accountant while one snapshot stays current. Each call runs under
the lock, so that a run is a list of calls. The clones that the reservations stand for are not in the
snapshot; then the ledger of a node is the observed memory plus all that is reserved there, and the
fit test keeps this total inside the limits whenever it hands out a reservation.
-/

namespace ScalesetProxmox.Nodecap

open Store (VMID Time)
open Transition

/-- The calls, with the clock reading of those that sweep. -/
inductive Op
  | reserve (now : Time) (node : String) (shape : Shape)
  | bind (id : ℕ) (v : VMID)
  | release (id : ℕ)
  | fits (now : Time) (shape : Shape) (candidates : List String)
  | snapshot (now : Time)

/-- The accountant and the handles it has given out. -/
structure Session where
  acct : Accountant := .new
  handles : List ℕ := []

namespace Session

def reserve (opts : Options) (snap : Snapshot) (now : Time) (node : String) (shape : Shape)
    (s : Session) : Session where
  acct := (s.acct.reserve opts snap now node shape).1
  handles := (s.acct.reserve opts snap now node shape).2.toList ++ s.handles

def step (opts : Options) (snap : Snapshot) (s : Session) : Op → Option Session
  | .reserve now node shape => some (s.reserve opts snap now node shape)
  | .bind id v => some { s with acct := s.acct.bind id v }
  | .release id => some { s with acct := s.acct.release id }
  | .fits now shape candidates => some { s with acct := (s.acct.fits opts snap now shape candidates).1 }
  | .snapshot now => some { s with acct := (s.acct.snapshot opts snap now).1 }

end Session

def Op.asks : Op → Option Shape
  | .reserve _ _ shape => some shape
  | _ => none

def Op.binds : Op → Option VMID
  | .bind _ v => some v
  | _ => none

/-- Shapes are positive in what is gated, and the clones are not in the snapshot. -/
def Op.Allowed (opts : Options) (snap : Snapshot) (op : Op) : Prop :=
  (∀ shape ∈ op.asks, 0 < shape.memoryBytes ∧ (opts.cpuGated → 0 < shape.vcpus)) ∧
  ∀ v ∈ op.binds, snap.guests.lookup v = none

instance (opts : Options) (snap : Snapshot) (op : Op) : Decidable (op.Allowed opts snap) :=
  inferInstanceAs (Decidable ((∀ shape ∈ op.asks, _ ∧ (_ → _)) ∧ ∀ v ∈ op.binds, _))

/-- A reservation that a sweep on the snapshot can only expire. -/
structure Reservation.Pending (opts : Options) (snap : Snapshot) (r : Reservation) : Prop where
  memory : 0 < r.shape.memoryBytes
  vcpus : opts.cpuGated → 0 < r.shape.vcpus
  freeing : r.freeing = []
  hidden : r.vmid = 0 ∨ snap.guests.lookup r.vmid = none

namespace Reservation.Pending

variable {opts : Options} {snap : Snapshot} {r : Reservation}

theorem observed_eq_zero (h : r.Pending opts snap) : r.observed snap = 0 := by
  unfold observed
  rcases h.hidden with hzero | hnone
  · rw [if_pos hzero]
  · simp [Snapshot.guestMem, hnone]

theorem observedVCPU_eq_zero (h : r.Pending opts snap) : r.observedVCPU snap = 0 := by
  unfold observedVCPU
  rcases h.hidden with hzero | hnone
  · rw [if_pos hzero]
  · simp [Snapshot.guestVCPU, hnone]

theorem sweepOne_eq (h : r.Pending opts snap) (now : Time) :
    Accountant.sweepOne snap now r = if r.expires < now then none else some r := by
  have hshown : ¬ (r.vmid ≠ 0 ∧ r.shape.memoryBytes ≤ snap.guestMem r.vmid) := by
    rintro ⟨hbound, hfull⟩
    have hobserved := h.observed_eq_zero
    rw [observed, if_neg hbound] at hobserved
    rw [hobserved] at hfull
    exact absurd h.memory (Nat.not_lt.mpr hfull)
  have hkept : r.freeing.filter (fun v ↦ (snap.guests.lookup v).isSome) = r.freeing := by
    rw [h.freeing]
    rfl
  rw [Accountant.sweepOne, if_neg hshown, hkept]

theorem bindOne (h : r.Pending opts snap) {id : ℕ} {v : VMID} (hv : snap.guests.lookup v = none) :
    (Accountant.bindOne id v r).Pending opts snap := by
  unfold Accountant.bindOne
  split_ifs
  · exact ⟨h.memory, h.vcpus, h.freeing, .inr hv⟩
  · exact h

end Reservation.Pending

namespace Accountant

/-- All that is reserved on the node fits beside its guests. -/
def Covered (opts : Options) (snap : Snapshot) (a : Accountant) (node : String) : Prop :=
  (snap.totals node).guestMem + a.sumOn node (fun r ↦ r.shape.memoryBytes) ≤
    (snap.totals node).memBytes - opts.reserveFor (snap.totals node).memBytes ∧
  (opts.cpuGated → (snap.totals node).guestVCPU + a.sumOn node (fun r ↦ r.shape.vcpus) ≤
    opts.vcpuLimit (snap.totals node).vcpus)

/-- What every call keeps: no reservation is visible yet, and each one is covered on its node. -/
structure Backed (opts : Options) (snap : Snapshot) (a : Accountant) : Prop where
  pending : ∀ r ∈ a.res.rows, r.Pending opts snap
  covered : ∀ r ∈ a.res.rows, a.Covered opts snap r.node

variable {opts : Options} {snap : Snapshot} {a b : Accountant} {node : String} {now : Time}
  {shape : Shape} {expires : Time}

/-- With nothing visible the ledger is the guests and all that is reserved. -/
theorem covered_iff_withinLimits (h : ∀ r ∈ a.res.rows, r.Pending opts snap) :
    a.Covered opts snap node ↔ a.WithinLimits opts snap node := by
  have hmem : a.sumOn node (fun r ↦ max 0 ((r.shape.memoryBytes : ℤ) - r.observed snap)) =
      a.sumOn node (fun r ↦ r.shape.memoryBytes) := by
    apply sumOn_congr
    intro r hr _
    rw [(h r hr).observed_eq_zero]
    omega
  have hvcpus : opts.cpuGated → a.sumOn node (fun r ↦ max 0 (r.shape.vcpus - r.observedVCPU snap)) =
      a.sumOn node (fun r ↦ r.shape.vcpus) := by
    intro hgated
    apply sumOn_congr
    intro r hr _
    have hpos := (h r hr).vcpus hgated
    rw [(h r hr).observedVCPU_eq_zero]
    omega
  have hcredit : a.sumOn node (fun r ↦ Reservation.credit snap r.freeing) = a.sumOn node fun _ ↦ 0 := by
    apply sumOn_congr
    intro r hr _
    rw [(h r hr).freeing]
    rfl
  have hcreditVCPU : a.sumOn node (fun r ↦ Reservation.creditVCPU snap r.freeing) =
      a.sumOn node fun _ ↦ 0 := by
    apply sumOn_congr
    intro r hr _
    rw [(h r hr).freeing]
    rfl
  have hzero : a.sumOn node (fun _ ↦ 0) = 0 := by simp [sumOn, Table.sum]
  unfold Covered WithinLimits ledgerBytes ledgerVCPU
  rw [hmem, hcredit, hcreditVCPU, hzero, sub_zero, sub_zero]
  refine and_congr_right' (forall_congr' fun hgated ↦ ?_)
  rw [hvcpus hgated]

/-- Reserving less on every node keeps the coverage. -/
theorem Covered.mono (h : a.Covered opts snap node)
    (hmem : b.sumOn node (fun r ↦ r.shape.memoryBytes) ≤ a.sumOn node (fun r ↦ r.shape.memoryBytes))
    (hvcpus : opts.cpuGated →
      b.sumOn node (fun r ↦ r.shape.vcpus) ≤ a.sumOn node (fun r ↦ r.shape.vcpus)) :
    b.Covered opts snap node := by
  refine ⟨?_, fun hgated ↦ ?_⟩
  · have hcovered := h.1
    omega
  · have hcovered := h.2 hgated
    have hless := hvcpus hgated
    omega

theorem Backed.sweepLocked (h : a.Backed opts snap) : (a.sweepLocked snap now).Backed opts snap := by
  have hold : ∀ r ∈ (a.sweepLocked snap now).res.rows, r ∈ a.res.rows := by
    intro r' hr'
    obtain ⟨r, hr, hswept⟩ := mem_of_mem_sweepLocked hr'
    rw [(h.pending r hr).sweepOne_eq] at hswept
    split_ifs at hswept
    exact Option.some.inj hswept ▸ hr
  have hless : ∀ (term : Reservation → ℤ) (node : String), (∀ r ∈ a.res.rows, 0 ≤ term r) →
      (a.sweepLocked snap now).sumOn node term ≤ a.sumOn node term := by
    intro term node hterm
    rw [sumOn_sweepLocked]
    apply sumOn_le_sumOn
    intro r hr _
    rw [(h.pending r hr).sweepOne_eq]
    split_ifs
    · exact hterm r hr
    · exact le_rfl
  refine ⟨fun r hr ↦ h.pending r (hold r hr), fun r hr ↦ ?_⟩
  apply (h.covered r (hold r hr)).mono
  · exact hless _ _ fun r _ ↦ Int.natCast_nonneg _
  · intro hgated
    exact hless _ _ fun r hr ↦ ((h.pending r hr).vcpus hgated).le

theorem Backed.release (h : a.Backed opts snap) (id : ℕ) : (a.release id).Backed opts snap := by
  refine ⟨fun r hr ↦ h.pending r (mem_of_mem_release hr), fun r hr ↦ ?_⟩
  apply (h.covered r (mem_of_mem_release hr)).mono
  · exact sumOn_release_le (fun r _ ↦ Int.natCast_nonneg _) id
  · intro hgated
    exact sumOn_release_le (fun r hr ↦ ((h.pending r hr).vcpus hgated).le) id

theorem Backed.bind (h : a.Backed opts snap) (id : ℕ) {v : VMID}
    (hv : snap.guests.lookup v = none) : (a.bind id v).Backed opts snap := by
  have hsum : ∀ (term : Reservation → ℤ) (node : String),
      (∀ r, term (bindOne id v r) = term r) →
      (a.bind id v).sumOn node term = a.sumOn node term := by
    intro term node hterm
    rw [sumOn_bind]
    exact sumOn_congr fun r _ _ ↦ hterm r
  refine ⟨fun r' hr' ↦ ?_, fun r' hr' ↦ ?_⟩
  · obtain ⟨r, hr, rfl⟩ := mem_of_mem_bind hr'
    exact (h.pending r hr).bindOne hv
  · obtain ⟨r, hr, rfl⟩ := mem_of_mem_bind hr'
    rw [bindOne_node]
    apply (h.covered r hr).mono
    · exact (hsum (fun r ↦ r.shape.memoryBytes) _ fun r ↦ by rw [bindOne_shape]).le
    · exact fun _ ↦ (hsum (fun r ↦ r.shape.vcpus) _ fun r ↦ by rw [bindOne_shape]).le

theorem Backed.add (h : a.Backed opts snap) (hmem : 0 < shape.memoryBytes)
    (hvcpus : opts.cpuGated → 0 < shape.vcpus)
    (hfits : a.fitsLocked opts snap node shape []) :
    (a.add node shape [] expires).Backed opts snap := by
  have hpending : ∀ r ∈ (a.add node shape [] expires).res.rows, r.Pending opts snap := by
    intro r hr
    rcases mem_of_mem_add hr with rfl | hold
    · exact ⟨hmem, hvcpus, rfl, .inl rfl⟩
    · exact h.pending r hold
  have hnode : (a.add node shape [] expires).Covered opts snap node := by
    -- a positive shape fits only where something is left, so the node is not over its limit
    rw [covered_iff_withinLimits hpending, withinLimits_add_iff hfits]
    have havail := (fitsLocked_eq_true.mp hfits).2.1
    rw [availableBytes_eq, Reservation.credit] at havail
    refine ⟨.inl ?_, fun hgated ↦ .inl (hvcpus hgated).le⟩
    simp only [List.map_nil, List.sum_nil] at havail
    omega
  refine ⟨hpending, fun r hr ↦ ?_⟩
  rcases mem_of_mem_add hr with rfl | hold
  · exact hnode
  · by_cases hsame : r.node = node
    · rw [hsame]
      exact hnode
    · apply (h.covered r hold).mono
      · exact (sumOn_add_of_ne hsame _).le
      · exact fun _ ↦ (sumOn_add_of_ne hsame _).le

theorem Backed.reserve (h : a.Backed opts snap) (hmem : 0 < shape.memoryBytes)
    (hvcpus : opts.cpuGated → 0 < shape.vcpus) :
    (a.reserve opts snap now node shape).1.Backed opts snap := by
  simp only [Accountant.reserve, reserveFreeing]
  split_ifs with hfits
  · exact h.sweepLocked.add hmem hvcpus hfits
  · exact h.sweepLocked

end Accountant

/-! ## Runs -/

namespace Session

structure Sound (opts : Options) (snap : Snapshot) (s : Session) : Prop where
  backed : s.acct.Backed opts snap
  distinct : s.handles.Nodup
  issued : ∀ id ∈ s.handles, id ≤ s.acct.nextRes

variable {opts : Options} {snap : Snapshot} {s t : Session} {op : Op}

theorem Sound.reserve (h : s.Sound opts snap) {now : Time} {node : String} {shape : Shape}
    (hshape : 0 < shape.memoryBytes ∧ (opts.cpuGated → 0 < shape.vcpus)) :
    (s.reserve opts snap now node shape).Sound opts snap := by
  have hbacked : (s.reserve opts snap now node shape).acct.Backed opts snap :=
    h.backed.reserve hshape.1 hshape.2
  by_cases hfits : (s.acct.sweepLocked snap now).fitsLocked opts snap node shape [] = true
  · have hreserve := Accountant.reserveFreeing_of_fits hfits
    refine ⟨hbacked, ?_, ?_⟩
    · rw [Session.reserve, Accountant.reserve, hreserve]
      refine List.nodup_cons.mpr ⟨fun hmem ↦ ?_, h.distinct⟩
      exact absurd (h.issued _ hmem) (Nat.not_succ_le_self _)
    · rw [Session.reserve, Accountant.reserve, hreserve]
      refine List.forall_mem_cons.mpr ⟨le_rfl, fun id hid ↦ ?_⟩
      exact (h.issued id hid).trans (Nat.le_succ _)
  · have hreserve := Accountant.reserveFreeing_of_not_fits hfits
    refine ⟨hbacked, ?_, ?_⟩
    · rw [Session.reserve, Accountant.reserve, hreserve]
      exact h.distinct
    · rw [Session.reserve, Accountant.reserve, hreserve]
      exact h.issued

theorem Sound.step (h : s.Sound opts snap) (hallowed : op.Allowed opts snap)
    (hstep : s.step opts snap op = some t) : t.Sound opts snap := by
  cases op with
  | reserve now node shape =>
    cases hstep
    exact h.reserve (hallowed.1 shape rfl)
  | bind id v =>
    cases hstep
    exact ⟨h.backed.bind id (hallowed.2 v rfl), h.distinct, h.issued⟩
  | release id =>
    cases hstep
    exact ⟨h.backed.release id, h.distinct, h.issued⟩
  | fits | snapshot =>
    cases hstep
    exact ⟨h.backed.sweepLocked, h.distinct, h.issued⟩

end Session

end ScalesetProxmox.Nodecap
