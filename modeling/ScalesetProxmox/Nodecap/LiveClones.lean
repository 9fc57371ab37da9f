import ScalesetProxmox.Nodecap.Timeline

/-!
# A live clone stays in the ledger

Until its guest row shows in full, a clone is carried by its reservation; from then on by the row. A
caller that decides on a snapshot older than one by which a reservation was already retired sees
neither. When callers take the lock in the order of their snapshots, and nobody releases a reservation
whose VM exists, every decision counts every live clone.
-/

namespace ScalesetProxmox.Nodecap.World

open Store (VMID Time)
open Transition

variable {id : ℕ} {v : VMID}

/-- The VM that was cloned under the handle exists. -/
def Live (w : World) (handle : Handle) : Prop := handle.vm.isSome ∧ w.alive handle.vmid

/-- The reading shows the handle's VM at its reserved size. -/
def Full (opts : Options) (reading : Reading) (handle : Handle) : Prop :=
  handle.shape.memoryBytes ≤ (reading.snapshot opts).guestMem handle.vmid

/-- What the reservation still adds to the ledger. -/
def residual (snap : Snapshot) (acct : Accountant) (id : ℕ) : ℕ :=
  ((acct.res.get id).map fun r ↦ r.shape.memoryBytes - r.observed snap).getD 0

/-- The VM's share of its node's guest memory, and what its reservation adds to it. -/
def contribution (opts : Options) (reading : Reading) (acct : Accountant) (handle : Handle) : ℕ :=
  shownOn opts reading.rows handle.node handle.vmid + residual (reading.snapshot opts) acct handle.id

/-- At a decision about a node, each live clone on it counts with its reserved memory, as a part of
the committed memory; only credits for VMs that are being destroyed are taken off again. -/
def CountsLive (opts : Options) (w : World) (e : Event) (_ : World) : Prop :=
  ∀ caller ∈ w.entering e, ∀ handle ∈ w.handles.rows, w.Live handle →
    handle.node ∈ caller.call.decides →
    ((caller.reading.snapshot opts).nodes.lookup handle.node).isSome →
    handle.shape.memoryBytes ≤ contribution opts caller.reading (w.swept opts caller) handle ∧
    (contribution opts caller.reading (w.swept opts caller) handle : ℤ) ≤
      (w.swept opts caller).ledgerBytes (caller.reading.snapshot opts) handle.node +
        (w.swept opts caller).sumOn handle.node
          (fun r ↦ Reservation.credit (caller.reading.snapshot opts) r.freeing)

/-- A fetch lists VMs that have existed, each on its own node, and a VM that was once listed at its
reserved size is listed so until it is destroyed. -/
def ListsVMs (opts : Options) (w : World) (e : Event) : Prop :=
  ∀ rows ∈ w.fetching e,
    (∀ row ∈ rows, opts.countsGuest row = true → w.gens row.vmid ≠ 0 ∧
      ∀ handle ∈ w.handles.rows, handle.vm.isSome → row.vmid = handle.vmid → row.node = handle.node) ∧
    ∀ handle ∈ w.handles.rows, w.Live handle →
      (∃ reading ∈ w.fetched, Full opts reading handle) → Full opts (w.read rows) handle

/-- No VMID is used twice. -/
def NoReuse (w : World) (e : Event) : Prop := ∀ v ∈ w.creating e, w.gens v = 0

/-- No reservation has expired when a caller sweeps. -/
def NoExpiry (w : World) (e : Event) : Prop :=
  ∀ _caller ∈ w.entering e, ∀ r ∈ w.acct.res.rows, ¬ r.expires < w.now

/-- A reservation is released only while its VM does not exist. -/
def ReleasesUnused (w : World) (e : Event) : Prop := ∀ handle ∈ w.releasing e, ¬ w.Live handle

section Decidable

variable (opts : Options) (w w' : World) (e : Event) (reading : Reading) (handle : Handle)

instance : Decidable (w.Live handle) := inferInstanceAs (Decidable (_ ∧ _))

instance : Decidable (Full opts reading handle) := inferInstanceAs (Decidable (_ ≤ _))

instance : Decidable (CountsLive opts w e w') :=
  inferInstanceAs (Decidable (∀ caller ∈ w.entering e, ∀ handle ∈ w.handles.rows,
    w.Live handle → _ → _ → _ ∧ _))

instance : Decidable (ListsVMs opts w e) :=
  inferInstanceAs (Decidable (∀ rows ∈ w.fetching e,
    (∀ row ∈ rows, _ → _ ∧ ∀ handle ∈ w.handles.rows, _ → _ → _) ∧
    ∀ handle ∈ w.handles.rows, w.Live handle → (∃ reading ∈ w.fetched, Full opts reading handle) → _))

instance : Decidable (w.NoReuse e) := inferInstanceAs (Decidable (∀ v ∈ w.creating e, _))

instance : Decidable (w.NoExpiry e) :=
  inferInstanceAs (Decidable (∀ _caller ∈ w.entering e, ∀ r ∈ w.acct.res.rows, _))

instance : Decidable (w.ReleasesUnused e) :=
  inferInstanceAs (Decidable (∀ handle ∈ w.releasing e, ¬ w.Live handle))

end Decidable

/-! ## What a clone contributes -/

variable {opts : Options} {w w' : World} {e : Event} {caller : Caller} {handle : Handle}
  {reading : Reading} {acct : Accountant} {r : Reservation}

/-- The handle's VM shows on its node, if at all. -/
def Placed (opts : Options) (reading : Reading) (handle : Handle) : Prop :=
  ∀ row ∈ reading.rows, opts.countsGuest row = true → row.vmid = handle.vmid → row.node = handle.node

theorem le_contribution_of_full (hplaced : Placed opts reading handle)
    (hfull : Full opts reading handle) :
    handle.shape.memoryBytes ≤ contribution opts reading acct handle :=
  hfull.trans ((guestMem_le_shownOn hplaced).trans (Nat.le_add_right _ _))

theorem le_contribution_of_get (hplaced : Placed opts reading handle)
    (hget : acct.res.get handle.id = some r) (hdescribes : Describes handle r) :
    handle.shape.memoryBytes ≤ contribution opts reading acct handle := by
  obtain ⟨-, hshape, hvmid⟩ := hdescribes
  have hobserved : r.observed (reading.snapshot opts) ≤
      (reading.snapshot opts).guestMem handle.vmid := by
    unfold Reservation.observed
    split_ifs
    · exact Nat.zero_le _
    · rw [hvmid]
  have hshown := hobserved.trans (guestMem_le_shownOn hplaced)
  unfold contribution residual
  rw [hget, Option.map_some, Option.getD_some, hshape]
  omega

theorem contribution_le_ledger (hknown : ((reading.snapshot opts).nodes.lookup handle.node).isSome)
    (hnode : ∀ r, acct.res.get handle.id = some r → r.node = handle.node) :
    (contribution opts reading acct handle : ℤ) ≤
      acct.ledgerBytes (reading.snapshot opts) handle.node +
        acct.sumOn handle.node (fun r ↦ Reservation.credit (reading.snapshot opts) r.freeing) := by
  have hshown : shownOn opts reading.rows handle.node handle.vmid ≤
      ((reading.snapshot opts).totals handle.node).guestMem := shownOn_le_guestMem hknown
  have hresidual : (residual (reading.snapshot opts) acct handle.id : ℤ) ≤ acct.sumOn handle.node
      (fun r ↦ max 0 ((r.shape.memoryBytes : ℤ) - r.observed (reading.snapshot opts))) := by
    unfold residual
    cases hget : acct.res.get handle.id with
    | none => exact Accountant.sumOn_nonneg fun r _ ↦ le_max_left _ _
    | some r =>
      have hkey : r.id = handle.id := Table.key_of_get hget
      have hmem : r ∈ acct.res.rows := Table.mem_rows.mpr (hkey ▸ hget)
      refine le_trans ?_ (Accountant.le_sumOn_of_mem hmem (hnode r hget) fun r _ ↦ le_max_left _ _)
      simp only [Option.map_some, Option.getD_some]
      omega
  unfold contribution Accountant.ledgerBytes
  push_cast
  omega

/-- A reservation that has not expired outlives the sweep, or its VM shows in full. -/
theorem swept_cases (hget : w.acct.res.get id = some r) (hdescribes : Describes handle r)
    (hexpires : ¬ r.expires < w.now) :
    (∃ r', (w.swept opts caller).res.get id = some r' ∧ Describes handle r') ∨
      handle.vmid ≠ 0 ∧ Full opts caller.reading handle := by
  have hswept : (w.swept opts caller).res.get id =
      Accountant.sweepOne (caller.reading.snapshot opts) w.now r := by
    rw [swept, Accountant.get_sweepLocked, hget, Option.bind_some]
  cases hone : Accountant.sweepOne (caller.reading.snapshot opts) w.now r with
  | some r' => exact .inl ⟨r', hswept.trans hone, describes_sweepOne hdescribes hone⟩
  | none =>
    right
    obtain ⟨-, hshape, hvmid⟩ := hdescribes
    unfold Accountant.sweepOne at hone
    split_ifs at hone with hfull
    rw [Full, hshape, hvmid]
    exact hfull

/-! ## What a run keeps -/

/-- A clone is backed by its reservation until a reading in use has shown it in full, and from that
reading on every later one does. -/
structure Kept (opts : Options) (w : World) (handle : Handle) : Prop where
  placed : handle.vm.isSome → ∀ reading ∈ w.fetched, Placed opts reading handle
  lasting : w.Live handle → ∀ first ∈ w.fetched, ∀ later ∈ w.fetched, first.seq ≤ later.seq →
    Full opts first handle → Full opts later handle
  backed : handle.released = false → (w.acct.res.get handle.id).isSome ∨
    handle.vmid ≠ 0 ∧ ∃ reading ∈ w.fetched, reading.seq ≤ w.used ∧ Full opts reading handle
  held : w.Live handle → handle.released = false
  born : handle.vm.isSome → handle.vmid ≠ 0 ∧ w.gens handle.vmid ≠ 0

/-- Besides, readings are in order and list VMs that have existed. -/
structure Remembered (opts : Options) (w : World) : Prop where
  linked : w.Linked
  read : ∀ caller ∈ w.callers, caller.reading ∈ w.fetched
  order : ∀ reading ∈ w.fetched, reading.seq < w.fetched.length
  listed : ∀ reading ∈ w.fetched, ∀ row ∈ reading.rows, opts.countsGuest row = true →
    w.gens row.vmid ≠ 0
  kept : ∀ handle ∈ w.handles.rows, Kept opts w handle

theorem mem_rows_of_get (hget : w.handles.get id = some handle) : handle ∈ w.handles.rows :=
  Table.mem_rows.mpr (Table.key_of_get hget ▸ hget)

theorem remembered_start : Remembered opts {} where
  linked _ _ h := by cases h
  read := List.forall_mem_nil _
  order := List.forall_mem_nil _
  listed := List.forall_mem_nil _
  kept := List.forall_mem_nil _

theorem Kept.of_vm_none (hvm : handle.vm = none)
    (hbacked : handle.released = false → (w.acct.res.get handle.id).isSome) : Kept opts w handle := by
  have hnone : ¬ handle.vm.isSome := by simp [hvm]
  exact ⟨fun h ↦ absurd h hnone, fun h ↦ absurd h.1 hnone, fun h ↦ .inl (hbacked h),
    fun h ↦ absurd h.1 hnone, fun h ↦ absurd h hnone⟩

/-- A first VM of its VMID changes nothing for the VMs there are. -/
theorem Kept.born_other (h : Kept opts w handle) (hfresh : w.gens v = 0) : Kept opts (w.born v) handle := by
  have hother : handle.vm.isSome → handle.vmid ≠ v := by
    rintro hvm rfl
    exact (h.born hvm).2 hfresh
  have hlive : (w.born v).Live handle → w.Live handle := by
    rintro ⟨hvm, halive⟩
    rw [alive_born_of_ne w (hother hvm)] at halive
    exact ⟨hvm, halive⟩
  refine ⟨h.placed, fun hl ↦ h.lasting (hlive hl), h.backed, fun hl ↦ h.held (hlive hl), fun hvm ↦ ?_⟩
  rw [gens_born_of_ne w (hother hvm)]
  exact h.born hvm

section Events

variable (h : w.Remembered opts)

include h

theorem Remembered.countsLive (hexpiry : w.NoExpiry e) (horder : w.InOrder e) :
    CountsLive opts w e w' := by
  intro caller hcaller handle hhandle hlive hdecides hknown
  have hread : caller.reading ∈ w.fetched := h.read caller (mem_callers_of_entering hcaller)
  have hget := Table.get_of_mem_rows hhandle
  have hkept := h.kept handle hhandle
  have hplaced := hkept.placed hlive.1 caller.reading hread
  refine ⟨?_, contribution_le_ledger hknown fun r hr ↦ ?_⟩
  · rcases hkept.backed (hkept.held hlive) with hsome | ⟨-, first, hfirst, hseq, hfull⟩
    · obtain ⟨r, hr⟩ := Option.isSome_iff_exists.mp hsome
      have hdescribes := h.linked.describes hget hr
      have hexpires := hexpiry caller hcaller r (Table.mem_rows.mpr (Table.key_of_get hr ▸ hr))
      rcases swept_cases hr hdescribes hexpires with ⟨r', hr', hdescribes'⟩ | ⟨-, hfull⟩
      · exact le_contribution_of_get hplaced hr' hdescribes'
      · exact le_contribution_of_full hplaced hfull
    · have hlater := hkept.lasting hlive first hfirst caller.reading hread
        (hseq.trans (horder caller hcaller)) hfull
      exact le_contribution_of_full hplaced hlater
  · obtain ⟨found, hfound, hdescribes⟩ := h.linked.swept hr
    rw [hget, Option.some.injEq] at hfound
    subst hfound
    exact hdescribes.1.symm

/-! ### Each event in turn -/

theorem Remembered.fetch {call : Call} {rows : List ClusterResource}
    (hrows : rows ∈ w.fetching (.call call (some rows)))
    (hlists : ListsVMs opts w (.call call (some rows))) :
    Remembered opts
      { w.fetchNow opts rows with callers := w.waiting call (w.read rows) :: w.callers } where
  linked := h.linked
  read := by
    refine List.forall_mem_cons.mpr ⟨List.mem_cons_self, fun caller hcaller ↦ ?_⟩
    exact List.mem_cons_of_mem _ (h.read caller hcaller)
  order := by
    refine List.forall_mem_cons.mpr ⟨Nat.lt_succ_self _, fun reading hreading ↦ ?_⟩
    exact (h.order reading hreading).trans (Nat.lt_succ_self _)
  listed := by
    refine List.forall_mem_cons.mpr ⟨fun row hrow hcounts ↦ ?_, h.listed⟩
    exact ((hlists rows hrows).1 row hrow hcounts).1
  kept handle hhandle := by
    have hkept := h.kept handle hhandle
    refine ⟨fun hvm ↦ ?_, fun hlive ↦ ?_, fun hheld ↦ ?_, hkept.held, hkept.born⟩
    · refine List.forall_mem_cons.mpr ⟨fun row hrow hcounts ↦ ?_, hkept.placed hvm⟩
      exact ((hlists rows hrows).1 row hrow hcounts).2 handle hhandle hvm
    · intro first hfirst later hlater hseq hfull
      rcases List.mem_cons.mp hfirst with rfl | hfirst <;>
        rcases List.mem_cons.mp hlater with rfl | hlater
      · exact hfull
      · exact absurd (h.order later hlater) (Nat.not_lt.mpr hseq)
      · exact (hlists rows hrows).2 handle hhandle hlive ⟨first, hfirst, hfull⟩
      · exact hkept.lasting hlive first hfirst later hlater hseq hfull
    · rcases hkept.backed hheld with hsome | ⟨hbound, reading, hreading, hseq⟩
      · exact .inl hsome
      · exact .inr ⟨hbound, reading, List.mem_cons_of_mem _ hreading, hseq⟩

theorem Remembered.sweep {k : ℕ} (hcaller : w.callers[k]? = some caller)
    (hexpiry : w.NoExpiry (.enter k)) :
    Remembered opts ({ w with acct := w.swept opts caller }.leave k caller) where
  linked id r hget := h.linked.swept hget
  read other hother := h.read other (List.mem_of_mem_eraseIdx hother)
  order := h.order
  listed := h.listed
  kept handle hhandle := by
    have hkept := h.kept handle hhandle
    refine ⟨hkept.placed, hkept.lasting, fun hheld ↦ ?_, hkept.held, hkept.born⟩
    rcases hkept.backed hheld with hsome | ⟨hbound, reading, hreading, hseq, hfull⟩
    · obtain ⟨r, hr⟩ := Option.isSome_iff_exists.mp hsome
      have hdescribes := h.linked.describes (Table.get_of_mem_rows hhandle) hr
      have hexpires := hexpiry caller hcaller r (Table.mem_rows.mpr (Table.key_of_get hr ▸ hr))
      rcases swept_cases hr hdescribes hexpires with ⟨r', hr', -⟩ | ⟨hbound, hfull⟩
      · exact .inl (Option.isSome_of_eq_some hr')
      · refine .inr ⟨hbound, caller.reading, ?_, le_max_right _ _, hfull⟩
        exact h.read caller (List.mem_of_getElem? hcaller)
    · exact .inr ⟨hbound, reading, hreading, hseq.trans (le_max_left _ _), hfull⟩

/-- Writing one handle and the reservation under its id leaves all other handles as they are. -/
theorem Remembered.put {acct : Accountant} {new : Handle}
    (hlinked : Linked { w with acct, handles := w.handles.put new })
    (hothers : ∀ id, id ≠ new.id → (w.acct.res.get id).isSome → (acct.res.get id).isSome)
    (hnew : Kept opts { w with acct, handles := w.handles.put new } new) :
    Remembered opts { w with acct, handles := w.handles.put new } where
  linked := hlinked
  read := h.read
  order := h.order
  listed := h.listed
  kept handle hhandle := by
    rcases Table.mem_rows_put.mp hhandle with rfl | ⟨hne, hold⟩
    · exact hnew
    · have hkept := h.kept handle hold
      exact ⟨hkept.placed, hkept.lasting, fun hheld ↦ (hkept.backed hheld).imp_left (hothers _ hne),
        hkept.held, hkept.born⟩

theorem Remembered.add {node : String} {shape : Shape} {freeing : List VMID}
    {expires : Time} {victims : List (VMID × ℕ)}
    (hlinked : Linked { w with
      acct := w.acct.add node shape freeing expires
      handles := w.handles.put { id := w.acct.nextRes + 1, node, shape, victims } }) :
    Remembered opts { w with
      acct := w.acct.add node shape freeing expires
      handles := w.handles.put { id := w.acct.nextRes + 1, node, shape, victims } } := by
  refine h.put hlinked (fun id hne hsome ↦ ?_) (.of_vm_none rfl fun _ ↦ ?_)
  · rw [Accountant.get_add, if_neg hne]
    exact hsome
  · simp [Accountant.get_add]

theorem Remembered.bind (hget : w.handles.get id = some handle)
    (hunbound : handle.vmid = 0) (hlinked : Linked
      { w with acct := w.acct.bind id v, handles := w.handles.put { handle with vmid := v } }) :
    Remembered opts
      { w with acct := w.acct.bind id v, handles := w.handles.put { handle with vmid := v } } := by
  have hkept := h.kept handle (mem_rows_of_get hget)
  have hkeep : ∀ other, (w.acct.res.get other).isSome → ((w.acct.bind id v).res.get other).isSome := by
    intro other hother
    rw [Accountant.get_bind, Option.isSome_map]
    exact hother
  have hvm : handle.vm = none := by
    rw [← Option.not_isSome_iff_eq_none]
    exact fun hvm ↦ (hkept.born hvm).1 hunbound
  refine h.put hlinked (fun other _ ↦ hkeep other) (.of_vm_none hvm fun hheld ↦ hkeep _ ?_)
  rcases hkept.backed hheld with hsome | ⟨hbound, -⟩
  · exact hsome
  · exact absurd hunbound hbound

theorem Remembered.release (hget : w.handles.get id = some handle)
    (hunused : ¬ w.Live handle) (hlinked : Linked
      { w with acct := w.acct.release id, handles := w.handles.put { handle with released := true } }) :
    Remembered opts
      { w with acct := w.acct.release id, handles := w.handles.put { handle with released := true } } := by
  have hkept := h.kept handle (mem_rows_of_get hget)
  have hkey : handle.id = id := Table.key_of_get hget
  refine h.put hlinked (fun other hne hsome ↦ ?_) ⟨hkept.placed, fun hlive ↦ absurd hlive hunused,
    fun hheld ↦ absurd hheld (by simp), fun hlive ↦ absurd hlive hunused, hkept.born⟩
  rw [Accountant.get_release, if_neg (hkey ▸ hne)]
  exact hsome

/-- A VMID that no VM has had yet is in no reading. -/
theorem Remembered.unlisted (hfresh : w.gens v = 0) (hreading : reading ∈ w.fetched) :
    (reading.snapshot opts).guests.lookup v = none := by
  rw [← Option.not_isSome_iff_eq_none, Option.isSome_iff_exists]
  rintro ⟨size, hsize⟩
  obtain ⟨row, hrow, hcounts, rfl, -⟩ := exists_row_of_listed hsize
  exact h.listed reading hreading row hrow hcounts hfresh

theorem Remembered.create (hfresh : w.gens v = 0) : Remembered opts (w.born v) where
  linked := h.linked
  read := h.read
  order := h.order
  listed reading hreading row hrow hcounts := by
    have hne : row.vmid ≠ v := by
      rintro rfl
      exact h.listed reading hreading row hrow hcounts hfresh
    rw [gens_born_of_ne w hne]
    exact h.listed reading hreading row hrow hcounts
  kept handle hhandle := (h.kept handle hhandle).born_other hfresh

theorem Remembered.clone (hget : w.handles.get id = some handle)
    (hbound : handle.vmid ≠ 0) (hheld : handle.released = false) (hfresh : w.gens handle.vmid = 0)
    (hlinked : Linked { w.born handle.vmid with
      handles := w.handles.put { handle with vm := some (w.gens handle.vmid + 1) } }) :
    Remembered opts { w.born handle.vmid with
      handles := w.handles.put { handle with vm := some (w.gens handle.vmid + 1) } } := by
  have hkept := h.kept handle (mem_rows_of_get hget)
  refine (h.create hfresh).put hlinked (fun _ _ hsome ↦ hsome)
    ⟨fun _ reading hreading row hrow hcounts hvmid ↦ ?_, fun _ first hfirst later hlater _ hfull ↦ ?_,
      hkept.backed, fun _ ↦ hheld, fun _ ↦ ⟨hbound, ?_⟩⟩
  · -- no reading lists the VMID before its first VM
    refine absurd hfresh ?_
    rw [← hvmid]
    exact h.listed reading hreading row hrow hcounts
  · have hzero : (first.snapshot opts).guestMem handle.vmid = 0 := by
      simp [Snapshot.guestMem, h.unlisted hfresh hfirst]
    rw [Full, hzero] at hfull
    exact hfull.trans (Nat.zero_le _)
  · rw [gens_born_self]
    exact Nat.succ_ne_zero _

theorem Remembered.destroy (v : VMID) : Remembered opts (w.died v) where
  linked := h.linked
  read := h.read
  order := h.order
  listed := h.listed
  kept handle hhandle := by
    have hkept := h.kept handle hhandle
    have hlive : (w.died v).Live handle → w.Live handle :=
      fun hlive ↦ ⟨hlive.1, alive_of_alive_died hlive.2⟩
    exact ⟨hkept.placed, fun hl ↦ hkept.lasting (hlive hl), hkept.backed,
      fun hl ↦ hkept.held (hlive hl), hkept.born⟩

theorem Remembered.step (hlists : ListsVMs opts w e) (hreuse : w.NoReuse e)
    (hexpiry : w.NoExpiry e) (hreleases : w.ReleasesUnused e) (hstep : StepTo opts w e w') :
    w'.Remembered opts := by
  have hlinked := h.linked.step hstep
  cases hstep with
  | tick elapsed => exact ⟨hlinked, h.read, h.order, h.listed, fun handle hhandle ↦
      have hkept := h.kept handle hhandle
      ⟨hkept.placed, hkept.lasting, hkept.backed, hkept.held, hkept.born⟩⟩
  | refuse call => exact h
  | reuse call outcome reading hreading =>
    refine ⟨hlinked, List.forall_mem_cons.mpr ⟨hreading, h.read⟩, h.order, h.listed, ?_⟩
    intro handle hhandle
    have hkept := h.kept handle hhandle
    exact ⟨hkept.placed, hkept.lasting, hkept.backed, hkept.held, hkept.born⟩
  | fetch call rows hrows => exact h.fetch hrows hlists
  | sweep k caller hcaller => exact h.sweep hcaller hexpiry
  | grant k caller hcaller node shape freeing hcall => exact (h.sweep hcaller hexpiry).add hlinked
  | bind id v handle hget hunbound hv => exact h.bind hget hunbound hlinked
  | release id handle hget => exact h.release hget (hreleases handle hget) hlinked
  | clone id handle hget hbound hheld hvm hfree =>
    have hfresh : w.gens handle.vmid = 0 := hreuse handle.vmid (by simp [creating, hget])
    exact h.clone hget hbound hheld hfresh hlinked
  | create v hfree => exact h.create (hreuse v rfl)
  | destroy v => exact h.destroy v

end Events

/-- Every decision counts every live clone, if callers enter in the order of their snapshots and no
reservation is released while its VM exists. -/
theorem decisions_count_live {events : List Event}
    (h : Along (step opts) (fun w e _ ↦ (ListsVMs opts w e ∧ w.NoReuse e ∧ w.NoExpiry e) ∧
      w.InOrder e ∧ w.ReleasesUnused e) {} events) :
    Along (step opts) (CountsLive opts) {} events := by
  refine along_of_invariant (Remembered opts) (fun w e w' hinv hcond hstep ↦ ?_) remembered_start h
  obtain ⟨⟨hlists, hreuse, hexpiry⟩, horder, hreleases⟩ := hcond
  exact ⟨hinv.countsLive hexpiry horder,
    hinv.step hlists hreuse hexpiry hreleases (stepTo_of_step hstep)⟩

/-- The node row of `pve1` and, once it exists, the row of the runner 101. -/
def nodeRow : ClusterResource where
  type := .node
  node := "pve1"
  maxMem := 16 * 2 ^ 30
  maxCPU := 8

def runnerRow (mem : ℕ) : ClusterResource where
  type := .qemu
  node := "pve1"
  status := "running"
  vmid := 101
  maxMem := mem
  maxCPU := 2

def runnerShape : Shape := ⟨8 * 2 ^ 30, 2⟩

/-- The runner 101 is cloned under a reservation. A second caller picks up the snapshot without it;
a third one fetches the runner's row and retires the reservation; then the second decides. -/
def overtaken : List Event :=
  [.call (.reserveFreeing "pve1" runnerShape []) (some [nodeRow]), .enter 0, .bind 1 101, .clone 1,
    .call (.reserveFreeing "pve1" runnerShape []) none, .tick (20 * 10 ^ 9),
    .call .snapshot (some [nodeRow, runnerRow (8 * 2 ^ 30)]), .enter 0, .enter 0]

/-- The same run with the second caller going first. -/
def inTurn : List Event :=
  [.call (.reserveFreeing "pve1" runnerShape []) (some [nodeRow]), .enter 0, .bind 1 101, .clone 1,
    .call (.reserveFreeing "pve1" runnerShape []) none, .tick (20 * 10 ^ 9),
    .call .snapshot (some [nodeRow, runnerRow (8 * 2 ^ 30)]), .enter 1, .enter 0]

theorem decisions_count_live_inTurn : Along (step {}) (CountsLive {}) {} inTurn :=
  decisions_count_live (by decide +kernel)

/-- A caller that is overtaken admits 8 GiB on top of a runner that it does not see. -/
theorem overtaken_caller_forgets_clone :
    Along (step {}) (fun w e _ ↦ (ListsVMs {} w e ∧ w.NoReuse e ∧ w.NoExpiry e) ∧ w.ReleasesUnused e) {}
      overtaken ∧
    ¬ Along (step {}) (CountsLive {}) {} overtaken := by
  decide +kernel

end ScalesetProxmox.Nodecap.World
