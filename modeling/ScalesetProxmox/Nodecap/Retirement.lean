import ScalesetProxmox.Nodecap.Timeline

/-!
# Whose observation retires a reservation

The ledger knows VMs by VMID alone. A reservation is retired by any guest that shows under the VMID it
is bound to, and a freeing credit is applied to whatever shows under the victim's VMID. Both mean the
right VM as long as a VMID is bound only when no snapshot that may still be used lists it, and is not
taken up by another VM while a reservation mentions it.
-/

namespace ScalesetProxmox.Nodecap.World

open Store (VMID Time)
open Transition

variable {handles : Table ℕ Handle Handle.id} {id : ℕ} {v : VMID}

/-- A bound reservation that the sweep removes before it expires has seen its own clone. -/
def RetiresOwn (opts : Options) (w : World) (e : Event) : Prop :=
  ∀ caller ∈ w.entering e, ∀ r ∈ w.acct.res.rows, ¬ r.expires < w.now → r.vmid ≠ 0 →
    (w.swept opts caller).res.get r.id = none →
    ∃ handle ∈ w.handles.get r.id, ∃ gen ∈ handle.vm, caller.reading.gens r.vmid = gen

/-- A VMID that is credited still belongs to the VM that was promised to be destroyed. -/
def CreditsVictims (opts : Options) (w : World) (e : Event) : Prop :=
  ∀ caller ∈ w.entering e,
    (∀ victim ∈ caller.victims, w.gens victim.1 = victim.2) ∧
    ∀ handle ∈ w.handles.rows, ∀ r ∈ (w.swept opts caller).res.get handle.id,
      ∀ victim ∈ handle.victims, victim.1 ∈ r.freeing → w.gens victim.1 = victim.2

/-- A fetch lists VMs that exist. -/
def ListsAlive (opts : Options) (w : World) (e : Event) : Prop :=
  ∀ rows ∈ w.fetching e, ∀ row ∈ rows, opts.countsGuest row = true → w.alive row.vmid = true

/-- A VMID is bound only after its cooldown has passed. -/
def CoolsDown (cooldown : Time) (w : World) (e : Event) : Prop :=
  ∀ v ∈ binding e, ∀ destroyed ∈ w.destroyedAt v, destroyed + cooldown ≤ w.now

/-- A VMID is bound only when no VM has it and no snapshot that may still be used lists it. -/
def BindsUnseen (opts : Options) (w : World) (e : Event) : Prop :=
  ∀ v ∈ binding e, w.alive v = false ∧
    ∀ reading ∈ w.fetched, w.used ≤ reading.seq → (reading.snapshot opts).guests.lookup v = none

/-- A VM takes up a VMID only when no reservation or waiting caller frees it, and none but its own
reservation is bound to it. -/
def TakesUnclaimed (w : World) (e : Event) : Prop :=
  ∀ v ∈ w.creating e,
    (∀ r ∈ w.acct.res.rows, v ∉ r.freeing ∧ (r.vmid = v → some r.id = cloning e)) ∧
    ∀ caller ∈ w.callers, ∀ victim ∈ caller.victims, victim.1 ≠ v

/-- Reservations are made for shapes with memory. -/
def AsksMemory (e : Event) : Prop := ∀ shape ∈ asking e, 0 < shape.memoryBytes

section Decidable

variable (opts : Options) (w : World) (e : Event) (cooldown : Time)

instance : Decidable (RetiresOwn opts w e) :=
  inferInstanceAs (Decidable (∀ caller ∈ w.entering e, ∀ r ∈ w.acct.res.rows, _ → _ → _ →
    ∃ handle ∈ w.handles.get r.id, ∃ gen ∈ handle.vm, _))

instance : Decidable (CreditsVictims opts w e) :=
  inferInstanceAs (Decidable (∀ caller ∈ w.entering e, (∀ victim ∈ caller.victims, _) ∧
    ∀ handle ∈ w.handles.rows, ∀ r ∈ (w.swept opts caller).res.get handle.id,
      ∀ victim ∈ handle.victims, _ → _))

instance : Decidable (ListsAlive opts w e) :=
  inferInstanceAs (Decidable (∀ rows ∈ w.fetching e, ∀ row ∈ rows, _ → _))

instance : Decidable (CoolsDown cooldown w e) :=
  inferInstanceAs (Decidable (∀ v ∈ binding e, ∀ destroyed ∈ w.destroyedAt v, _))

instance : Decidable (BindsUnseen opts w e) :=
  inferInstanceAs (Decidable (∀ v ∈ binding e, _ ∧ ∀ reading ∈ w.fetched, _ → _))

instance : Decidable (TakesUnclaimed w e) :=
  inferInstanceAs (Decidable (∀ v ∈ w.creating e, (∀ r ∈ w.acct.res.rows, _ ∧ (_ → _)) ∧
    ∀ caller ∈ w.callers, ∀ victim ∈ caller.victims, _))

instance : Decidable (AsksMemory e) := inferInstanceAs (Decidable (∀ shape ∈ asking e, _))

end Decidable

/-! ## What a run keeps -/

variable {opts : Options} {w w' : World} {e : Event} {caller : Caller} {handle : Handle}
  {reading : Reading} {r : Reservation}

/-- What holds of an outstanding reservation and its handle: whatever lives or can still be seen under
its VMID is its own clone, and the victims it is credited for are the ones it was promised. -/
structure Attributed (opts : Options) (w : World) (handle : Handle) (r : Reservation) : Prop where
  memory : 0 < r.shape.memoryBytes
  own : handle.vmid ≠ 0 → w.alive handle.vmid = true → handle.vm = some (w.gens handle.vmid)
  seen : handle.vmid ≠ 0 → ∀ reading ∈ w.fetched, w.used ≤ reading.seq →
    ((reading.snapshot opts).guests.lookup handle.vmid).isSome →
    handle.vm = some (reading.gens handle.vmid)
  victims : ∀ victim ∈ handle.victims, victim.1 ∈ r.freeing → w.gens victim.1 = victim.2

/-- What holds of a caller that waits for the lock. -/
structure Promised (w : World) (caller : Caller) : Prop where
  read : caller.reading ∈ w.fetched
  memory : ∀ shape ∈ caller.call.asks, 0 < shape.memoryBytes
  victims : ∀ victim ∈ caller.victims, w.gens victim.1 = victim.2

structure Attributes (opts : Options) (w : World) : Prop where
  linked : w.Linked
  promised : ∀ caller ∈ w.callers, Promised w caller
  attributed : ∀ id handle r, w.handles.get id = some handle → w.acct.res.get id = some r →
    Attributed opts w handle r

theorem attributes_start : Attributes opts {} where
  linked _ _ h := by cases h
  promised := List.forall_mem_nil _
  attributed _ _ _ h := by cases h

/-- A reservation that loses credits, while later snapshots come into use, stays attributed. -/
theorem Attributed.mono {r' : Reservation} {acct : Accountant} {callers : List Caller} {used : ℕ}
    (h : Attributed opts w handle r) (hshape : r'.shape = r.shape) (hfreeing : r'.freeing ⊆ r.freeing)
    (hused : w.used ≤ used) :
    Attributed opts { w with acct, callers, used, handles } handle r' where
  memory := hshape ▸ h.memory
  own := h.own
  seen hbound reading hreading hseq := h.seen hbound reading hreading (hused.trans hseq)
  victims victim hvictim hcredit := h.victims victim hvictim (hfreeing hcredit)

/-- A VM under a VMID that the reservation does not mention is none of its concern. -/
theorem Attributed.born (h : Attributed opts w handle r) (hfreeing : v ∉ r.freeing)
    (hbound : handle.vmid ≠ v) :
    Attributed opts { w.born v with handles } handle r where
  memory := h.memory
  own hne halive := by
    change (w.born v).alive handle.vmid = true at halive
    change handle.vm = some ((w.born v).gens handle.vmid)
    rw [alive_born_of_ne w hbound] at halive
    rw [gens_born_of_ne w hbound]
    exact h.own hne halive
  seen := h.seen
  victims victim hvictim hcredit := by
    have hne : victim.1 ≠ v := by
      rintro rfl
      exact hfreeing hcredit
    exact (gens_born_of_ne w hne).trans (h.victims victim hvictim hcredit)

theorem Promised.congr (h : Promised w caller) (hfetched : w'.fetched = w.fetched)
    (hgens : w'.gens = w.gens) : Promised w' caller :=
  ⟨hfetched ▸ h.read, h.memory, hgens ▸ h.victims⟩

section Events

variable (h : w.Attributes opts)

include h

theorem Attributes.swept (hhandle : w.handles.get id = some handle)
    (hget : (w.swept opts caller).res.get id = some r) :
    ∃ old, Attributed opts w handle old ∧ r.shape = old.shape ∧ r.freeing ⊆ old.freeing := by
  rw [World.swept, Accountant.get_sweepLocked, Option.bind_eq_some_iff] at hget
  obtain ⟨old, hold, hone⟩ := hget
  obtain ⟨-, -, rfl⟩ := Accountant.sweepOne_eq_some.mp hone
  exact ⟨old, h.attributed id handle old hhandle hold, rfl, List.filter_sublist.subset⟩

/-- The sweep retires by the reservation's own clone. -/
theorem Attributes.retiresOwn (horder : w.InOrder e) : RetiresOwn opts w e := by
  intro caller hcaller r hr hexpires hbound hswept
  have hget := Table.get_of_mem_rows hr
  obtain ⟨handle, hhandle, hdescribes⟩ := h.linked r.id r hget
  have hattributed := h.attributed r.id handle r hhandle hget
  rw [World.swept, Accountant.get_sweepLocked, hget, Option.bind_some, Accountant.sweepOne,
    if_neg hexpires] at hswept
  split_ifs at hswept with hfull
  have hvmid : handle.vmid = r.vmid := hdescribes.2.2
  have hlisted : ((caller.reading.snapshot opts).guests.lookup handle.vmid).isSome := by
    rw [hvmid, ← Option.ne_none_iff_isSome]
    intro hnone
    have hmem := hattributed.memory.trans_le hfull.2
    simp [Snapshot.guestMem, hnone] at hmem
  have hread := (h.promised caller (mem_callers_of_entering hcaller)).read
  refine ⟨handle, hhandle, caller.reading.gens r.vmid, ?_, rfl⟩
  rw [← hvmid]
  exact hattributed.seen (hvmid ▸ hbound) caller.reading hread (horder caller hcaller) hlisted

theorem Attributes.creditsVictims : CreditsVictims opts w e := by
  intro caller hcaller
  refine ⟨(h.promised caller (mem_callers_of_entering hcaller)).victims, ?_⟩
  intro handle hhandle r hr victim hvictim hcredit
  obtain ⟨old, hattributed, -, hfreeing⟩ := h.swept (Table.get_of_mem_rows hhandle) hr
  exact hattributed.victims victim hvictim (hfreeing hcredit)

/-! ### Each event in turn -/

theorem Attributes.fetch {call : Call} {rows : List ClusterResource}
    (hrows : rows ∈ w.fetching (.call call (some rows)))
    (hlists : ListsAlive opts w (.call call (some rows))) (hasks : AsksMemory (.call call (some rows))) :
    Attributes opts
      { w.fetchNow opts rows with callers := w.waiting call (w.read rows) :: w.callers } where
  linked := h.linked
  promised := by
    refine List.forall_mem_cons.mpr ⟨⟨List.mem_cons_self, hasks, ?_⟩, fun caller hcaller ↦ ?_⟩
    · exact List.forall_mem_map.mpr fun _ _ ↦ rfl
    · have hpromised := h.promised caller hcaller
      exact ⟨List.mem_cons_of_mem _ hpromised.read, hpromised.memory, hpromised.victims⟩
  attributed id handle r hhandle hget := by
    have hattributed := h.attributed id handle r hhandle hget
    refine ⟨hattributed.memory, hattributed.own, fun hbound ↦ ?_, hattributed.victims⟩
    refine List.forall_mem_cons.mpr ⟨fun _ hlisted ↦ ?_, hattributed.seen hbound⟩
    -- what the new snapshot lists under the VMID is alive, so it is the clone
    obtain ⟨size, hsize⟩ := Option.isSome_iff_exists.mp hlisted
    obtain ⟨row, hrow, hcounts, hvmid, -⟩ := exists_row_of_listed hsize
    exact hattributed.own hbound (hvmid ▸ hlists rows hrows row hrow hcounts)

theorem Attributes.reuse {call : Call}
    (hreading : reading ∈ w.fetched) (hasks : ∀ shape ∈ call.asks, 0 < shape.memoryBytes) :
    Attributes opts { w with callers := w.waiting call reading :: w.callers } where
  linked := h.linked
  promised := by
    refine List.forall_mem_cons.mpr ⟨⟨hreading, hasks, ?_⟩, fun caller hcaller ↦ ?_⟩
    · exact List.forall_mem_map.mpr fun _ _ ↦ rfl
    · exact (h.promised caller hcaller).congr rfl rfl
  attributed id handle r hhandle hget :=
    (h.attributed id handle r hhandle hget).mono rfl (List.Subset.refl _) le_rfl

theorem Attributes.promised_leave {k : ℕ} {acct : Accountant} {used : ℕ} :
    ∀ other ∈ w.callers.eraseIdx k,
      Promised { w with acct, callers := w.callers.eraseIdx k, used, handles } other := by
  intro other hother
  exact (h.promised other (List.mem_of_mem_eraseIdx hother)).congr rfl rfl

theorem Attributes.sweep {k : ℕ} :
    Attributes opts ({ w with acct := w.swept opts caller }.leave k caller) where
  linked id r hget := h.linked.swept hget
  promised := h.promised_leave
  attributed id handle r hhandle hget := by
    obtain ⟨old, hattributed, hshape, hfreeing⟩ := h.swept hhandle hget
    exact hattributed.mono hshape hfreeing (le_max_left _ _)

theorem Attributes.grant {k : ℕ} {node : String} {shape : Shape}
    {freeing : List VMID} (hcaller : caller ∈ w.callers)
    (hcall : caller.call = .reserveFreeing node shape freeing)
    (hlinked : Linked ((w.grant opts caller node shape freeing).leave k caller)) :
    Attributes opts ((w.grant opts caller node shape freeing).leave k caller) where
  linked := hlinked
  promised := h.promised_leave
  attributed id handle r hhandle hget := by
    have hpromised := h.promised caller hcaller
    have hnext : (w.swept opts caller).nextRes = w.acct.nextRes := rfl
    simp only [World.grant, leave, Accountant.get_add, Table.get_put, hnext] at hhandle hget
    split_ifs at hhandle hget with hid
    · cases hhandle
      cases hget
      refine ⟨hpromised.memory shape (by rw [hcall]; rfl), fun hbound ↦ absurd rfl hbound,
        fun hbound ↦ absurd rfl hbound, fun victim hvictim _ ↦ hpromised.victims victim hvictim⟩
    · obtain ⟨old, hattributed, hshape, hfreeing⟩ := h.swept hhandle hget
      exact hattributed.mono hshape hfreeing (le_max_left _ _)

theorem Attributes.bind (hget : w.handles.get id = some handle)
    (hunseen : BindsUnseen opts w (.bind id v)) (hlinked : Linked
      { w with acct := w.acct.bind id v, handles := w.handles.put { handle with vmid := v } }) :
    Attributes opts
      { w with acct := w.acct.bind id v, handles := w.handles.put { handle with vmid := v } } where
  linked := hlinked
  promised caller hcaller := (h.promised caller hcaller).congr rfl rfl
  attributed other found r hfound hr := by
    have hkey : handle.id = id := Table.key_of_get hget
    simp only [Accountant.get_bind, Option.map_eq_some_iff, Table.get_put, hkey] at hfound hr
    obtain ⟨old, hold, rfl⟩ := hr
    have hfreeing : (Accountant.bindOne id v old).freeing ⊆ old.freeing := by
      unfold Accountant.bindOne
      split_ifs <;> exact List.Subset.refl _
    split_ifs at hfound with hid
    · cases hfound
      have hattributed := h.attributed id handle old hget (hid ▸ hold)
      obtain ⟨hfree, hnone⟩ := hunseen v rfl
      refine ⟨Accountant.bindOne_shape id v old ▸ hattributed.memory, fun _ halive ↦ ?_,
        fun _ reading hreading hseq hlisted ↦ ?_,
        fun victim hvictim hcredit ↦ hattributed.victims victim hvictim (hfreeing hcredit)⟩
      · rw [hfree] at halive
        cases halive
      · rw [hnone reading hreading hseq] at hlisted
        cases hlisted
    · have hattributed := h.attributed other found old hfound hold
      exact hattributed.mono (Accountant.bindOne_shape id v old) hfreeing le_rfl

theorem Attributes.release (hget : w.handles.get id = some handle) (hlinked : Linked
      { w with acct := w.acct.release id, handles := w.handles.put { handle with released := true } }) :
    Attributes opts
      { w with acct := w.acct.release id, handles := w.handles.put { handle with released := true } } where
  linked := hlinked
  promised caller hcaller := (h.promised caller hcaller).congr rfl rfl
  attributed other found r hfound hr := by
    have hkey : handle.id = id := Table.key_of_get hget
    simp only [Accountant.get_release, Table.get_put, hkey] at hfound hr
    split_ifs at hfound hr with hid
    exact (h.attributed other found r hfound hr).mono rfl (List.Subset.refl _) le_rfl

theorem Attributes.promised_born (htakes : TakesUnclaimed w e)
    (hv : v ∈ w.creating e) :
    ∀ caller ∈ w.callers, Promised { w.born v with handles } caller := by
  intro caller hcaller
  have hpromised := h.promised caller hcaller
  refine ⟨hpromised.read, hpromised.memory, fun victim hvictim ↦ ?_⟩
  have hne := (htakes v hv).2 caller hcaller victim hvictim
  exact (gens_born_of_ne w hne).trans (hpromised.victims victim hvictim)

theorem Attributes.create (htakes : TakesUnclaimed w (.create v)) :
    Attributes opts (w.born v) where
  linked := h.linked
  promised := h.promised_born htakes rfl
  attributed id handle r hhandle hget := by
    obtain ⟨hfreeing, hbound⟩ := (htakes v rfl).1 r (Table.mem_rows.mpr (Table.key_of_get hget ▸ hget))
    refine (h.attributed id handle r hhandle hget).born hfreeing ?_
    rw [(h.linked.describes hhandle hget).2.2]
    exact fun hv ↦ Option.some_ne_none _ (hbound hv)

theorem Attributes.clone (hget : w.handles.get id = some handle)
    (hvm : handle.vm = none) (htakes : TakesUnclaimed w (.clone id))
    (hlinked : Linked { w.born handle.vmid with
      handles := w.handles.put { handle with vm := some (w.gens handle.vmid + 1) } }) :
    Attributes opts { w.born handle.vmid with
      handles := w.handles.put { handle with vm := some (w.gens handle.vmid + 1) } } := by
  have hcreating : handle.vmid ∈ w.creating (.clone id) := by simp [creating, hget]
  refine ⟨hlinked, h.promised_born htakes hcreating, fun other found r hfound hr ↦ ?_⟩
  have hkey : handle.id = id := Table.key_of_get hget
  change w.acct.res.get other = some r at hr
  have hrow : r ∈ w.acct.res.rows := Table.mem_rows.mpr (Table.key_of_get hr ▸ hr)
  obtain ⟨hfreeing, hbound⟩ := (htakes handle.vmid hcreating).1 r hrow
  simp only [Table.get_put, hkey] at hfound
  split_ifs at hfound with hid
  · cases hfound
    have hattributed := h.attributed id handle r hget (hid ▸ hr)
    refine ⟨hattributed.memory, fun _ _ ↦ ?_, fun hne reading hreading hseq hlisted ↦ ?_,
      fun victim hvictim hcredit ↦ ?_⟩
    · exact congrArg some (gens_born_self w handle.vmid).symm
    · -- a snapshot that lists the VMID would have to show a clone that does not exist yet
      have hseen := hattributed.seen hne reading hreading hseq hlisted
      rw [hvm] at hseen
      cases hseen
    · have hne : victim.1 ≠ handle.vmid := by
        rintro hvictim
        exact hfreeing (hvictim ▸ hcredit)
      exact (gens_born_of_ne w hne).trans (hattributed.victims victim hvictim hcredit)
  · refine (h.attributed other found r hfound hr).born hfreeing ?_
    rw [(h.linked.describes hfound hr).2.2]
    intro hv
    have howner : r.id = id := Option.some.inj (hbound hv)
    have hother : r.id = other := Table.key_of_get hr
    exact hid (hother.symm.trans howner)

theorem Attributes.destroy (v : VMID) : Attributes opts (w.died v) where
  linked := h.linked
  promised caller hcaller := (h.promised caller hcaller).congr rfl rfl
  attributed id handle r hhandle hget :=
    have hattributed := h.attributed id handle r hhandle hget
    ⟨hattributed.memory, fun hne halive ↦ hattributed.own hne (alive_of_alive_died halive),
      hattributed.seen, hattributed.victims⟩

theorem Attributes.tick (elapsed : ℕ) :
    Attributes opts { w with now := w.now + elapsed } where
  linked := h.linked
  promised caller hcaller := (h.promised caller hcaller).congr rfl rfl
  attributed id handle r hhandle hget :=
    have hattributed := h.attributed id handle r hhandle hget
    ⟨hattributed.memory, hattributed.own, hattributed.seen, hattributed.victims⟩

theorem Attributes.step (hlists : ListsAlive opts w e)
    (hunseen : BindsUnseen opts w e) (htakes : TakesUnclaimed w e) (hasks : AsksMemory e)
    (hstep : StepTo opts w e w') : w'.Attributes opts := by
  have hlinked := h.linked.step hstep
  cases hstep with
  | tick elapsed => exact h.tick elapsed
  | refuse call => exact h
  | reuse call outcome reading hreading => exact h.reuse hreading hasks
  | fetch call rows hrows => exact h.fetch hrows hlists hasks
  | sweep k caller hcaller => exact h.sweep
  | grant k caller hcaller node shape freeing hcall =>
    exact h.grant (List.mem_of_getElem? hcaller) hcall hlinked
  | bind id v handle hget hunbound hv => exact h.bind hget hunseen hlinked
  | release id handle hget => exact h.release hget hlinked
  | clone id handle hget hbound hheld hvm hfree => exact h.clone hget hvm htakes hlinked
  | create v hfree => exact h.create htakes
  | destroy v => exact h.destroy v

end Events

/-- In a run that binds and takes up VMIDs with care, each reservation is retired by its own clone and
each credit is for its own victim. -/
theorem observations_are_own {events : List Event}
    (h : Along (step opts) (fun w e _ ↦ (w.InOrder e ∧ ListsAlive opts w e) ∧
      BindsUnseen opts w e ∧ TakesUnclaimed w e ∧ AsksMemory e) {} events) :
    Along (step opts) (fun w e _ ↦ RetiresOwn opts w e ∧ CreditsVictims opts w e) {} events := by
  refine along_of_invariant (Attributes opts) (fun w e w' hinv hcond hstep ↦ ?_) attributes_start h
  obtain ⟨⟨horder, hlists⟩, hunseen, htakes, hasks⟩ := hcond
  exact ⟨⟨hinv.retiresOwn horder, hinv.creditsVictims⟩,
    hinv.step hlists hunseen htakes hasks (stepTo_of_step hstep)⟩

def listing (runner : List VMID) : List ClusterResource :=
  { type := .node, node := "pve1", maxMem := 32 * 2 ^ 30, maxCPU := 8 } ::
    runner.map fun v ↦
      { type := .qemu, node := "pve1", status := "running", vmid := v, maxMem := 8 * 2 ^ 30, maxCPU := 2 }

def oneRunner : Call := .reserveFreeing "pve1" ⟨8 * 2 ^ 30, 2⟩ []

/-- The runner 101 is listed and then destroyed. From then on every fetch fails. After the cooldown
its VMID is minted again for a new reservation, whose clone has not started when a caller sweeps. -/
def staleListing : List Event :=
  [.create 101, .call .snapshot (some (listing [101])), .enter 0, .destroy 101, .tick (31 * 10 ^ 9),
    .call oneRunner none, .enter 0, .bind 1 101, .call .snapshot none, .enter 0]

/-- The same run with a fetch before the VMID is minted, which then is listed again as the clone. -/
def freshListing : List Event :=
  [.create 101, .call .snapshot (some (listing [101])), .enter 0, .destroy 101, .tick (31 * 10 ^ 9),
    .call oneRunner (some (listing [])), .enter 0, .bind 1 101, .clone 1, .tick (31 * 10 ^ 9),
    .call .snapshot (some (listing [101])), .enter 0]

theorem observations_are_own_freshListing :
    Along (step {}) (fun w e _ ↦ RetiresOwn {} w e ∧ CreditsVictims {} w e) {} freshListing :=
  observations_are_own (by decide +kernel)

/-- The last good snapshot still lists the VMID's former VM, which retires the reservation of a clone
that does not exist. -/
theorem stale_listing_retires_reservation :
    Along (step {}) (fun w e _ ↦
      (w.InOrder e ∧ ListsAlive {} w e ∧ CoolsDown (30 * Store.second) w e) ∧ AsksMemory e) {}
      staleListing ∧
    ¬ Along (step {}) (fun w e _ ↦ RetiresOwn {} w e) {} staleListing := by
  decide +kernel

end ScalesetProxmox.Nodecap.World
