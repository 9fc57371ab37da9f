import ScalesetProxmox.Nodecap.Fetch
import ScalesetProxmox.Transition.Run

/-!
# Callers, snapshots and VMs over time

The accountant as its callers use it. A call first obtains a snapshot, from the cache, by a fetch or
from the last good one, and takes the lock later; in between other calls come and go, clones create
the VMs that reservations stand for, and VMs are destroyed. Each VM counts as one generation of its
VMID, and every snapshot and every promise to free a VM is kept together with the generations that
were current when it was made, so that one can say which VM an observation is about.
-/

namespace ScalesetProxmox.Nodecap

open Store (VMID Time)
open Transition

/-- A successful fetch: the rows, its place among all fetches, and the generations at that time. -/
structure Reading where
  rows : List ClusterResource
  takenAt : Time
  seq : ℕ
  gens : VMID → ℕ

def Reading.snapshot (opts : Options) (reading : Reading) : Snapshot :=
  fetch opts reading.rows reading.takenAt

/-- What a caller asks for; `Reserve` is `ReserveFreeing` without victims. -/
inductive Call
  | snapshot
  | fits (shape : Shape) (candidates : List String)
  | reserveFreeing (node : String) (shape : Shape) (freeing : List VMID)

/-- The VMs that the call has committed to destroying. -/
def Call.freeing : Call → List VMID
  | .reserveFreeing _ _ freeing => freeing
  | _ => []

def Call.asks : Call → Option Shape
  | .reserveFreeing _ shape _ => some shape
  | _ => none

/-- The nodes that the call decides about. -/
def Call.decides : Call → List String
  | .snapshot => []
  | .fits _ candidates => candidates
  | .reserveFreeing node _ _ => [node]

/-- A caller that holds its snapshot and waits for the lock. -/
structure Caller where
  call : Call
  reading : Reading
  victims : List (VMID × ℕ)

/-- What the owner of a reservation knows: it stays with the owner after the accountant has dropped
the reservation. `vm` is the generation of the VM that was cloned under it. -/
structure Handle where
  id : ℕ
  node : String
  shape : Shape
  vmid : VMID := 0
  released : Bool := false
  vm : Option ℕ := none
  victims : List (VMID × ℕ)

structure World where
  now : Time := 0
  acct : Accountant := .new
  /-- all fetches, the last one first -/
  fetched : List Reading := []
  freshUntil : Time := 0
  callers : List Caller := []
  /-- no call has used a snapshot after this one -/
  used : ℕ := 0
  handles : Table ℕ Handle Handle.id := .empty
  gens : VMID → ℕ := fun _ ↦ 0
  alive : VMID → Bool := fun _ ↦ false
  destroyedAt : VMID → Option Time := fun _ ↦ none

inductive Event
  | tick (elapsed : ℕ)
  /-- a call obtains its snapshot; the rows are what a fetch would return, if it succeeds -/
  | call (call : Call) (outcome : Option (List ClusterResource))
  /-- a caller gets the lock -/
  | enter (caller : ℕ)
  | bind (id : ℕ) (v : VMID)
  | release (id : ℕ)
  /-- the clone for a reservation creates its VM -/
  | clone (id : ℕ)
  /-- anything else creates a VM -/
  | create (v : VMID)
  | destroy (v : VMID)

namespace World

/-- The snapshot that is still in the cache. -/
def cached (w : World) : Option Reading := if w.now ≤ w.freshUntil then w.fetched.head? else none

def read (w : World) (rows : List ClusterResource) : Reading where
  rows := rows
  takenAt := w.now
  seq := w.fetched.length
  gens := w.gens

def fetchNow (opts : Options) (w : World) (rows : List ClusterResource) : World :=
  { w with fetched := w.read rows :: w.fetched, freshUntil := w.now + opts.refresh }

/-- The cached snapshot, else a fetch, else the last good one. -/
def resources (opts : Options) (w : World) (outcome : Option (List ClusterResource)) :
    World × Option Reading :=
  match w.cached with
  | some reading => (w, some reading)
  | none =>
    match outcome with
    | some rows => (w.fetchNow opts rows, some (w.read rows))
    | none => (w, w.fetched.head?)

/-- A call that finds no snapshot fails; any other waits for the lock. -/
def await (w : World) (call : Call) (reading : Option Reading) : World :=
  match reading with
  | none => w
  | some reading =>
    { w with callers := { call, reading, victims := call.freeing.map fun v ↦ (v, w.gens v) } :: w.callers }

/-- The locked section. -/
def serve (opts : Options) (w : World) (caller : Caller) : World :=
  let snap := caller.reading.snapshot opts
  match caller.call with
  | .snapshot => { w with acct := (w.acct.snapshot opts snap w.now).1 }
  | .fits shape candidates => { w with acct := (w.acct.fits opts snap w.now shape candidates).1 }
  | .reserveFreeing node shape freeing =>
    let (acct, handle) := w.acct.reserveFreeing opts snap w.now node shape freeing
    match handle with
    | none => { w with acct }
    | some id => { w with acct, handles := w.handles.put { id, node, shape, victims := caller.victims } }

/-- A VM comes to life as the next generation of its VMID. -/
def born (w : World) (v : VMID) : World :=
  { w with
    gens := Function.update w.gens v (w.gens v + 1)
    alive := Function.update w.alive v true }

def died (w : World) (v : VMID) : World :=
  { w with
    alive := Function.update w.alive v false
    destroyedAt := Function.update w.destroyedAt v (some w.now) }

def step (opts : Options) (w : World) : Event → Option World
  | .tick elapsed => some { w with now := w.now + elapsed }
  | .call call outcome =>
    let (w, reading) := w.resources opts outcome
    some (w.await call reading)
  | .enter k =>
    (w.callers[k]?).map fun caller ↦
      { w.serve opts caller with
        callers := w.callers.eraseIdx k
        used := max w.used caller.reading.seq }
  | .bind id v =>
    -- the owner binds once, right after it has minted the VMID
    match w.handles.get id with
    | none => none
    | some handle =>
      if handle.vmid = 0 ∧ v ≠ 0 then
        some { w with acct := w.acct.bind id v, handles := w.handles.put { handle with vmid := v } }
      else none
  | .release id =>
    (w.handles.get id).map fun handle ↦
      { w with acct := w.acct.release id, handles := w.handles.put { handle with released := true } }
  | .clone id =>
    match w.handles.get id with
    | none => none
    | some handle =>
      if handle.vmid ≠ 0 ∧ ¬handle.released ∧ handle.vm = none ∧ ¬w.alive handle.vmid then
        some { w.born handle.vmid with
          handles := w.handles.put { handle with vm := some (w.gens handle.vmid + 1) } }
      else none
  | .create v => if w.alive v then none else some (w.born v)
  | .destroy v => if w.alive v then some (w.died v) else none

theorem gens_born_self (w : World) (v : VMID) : (w.born v).gens v = w.gens v + 1 :=
  Function.update_self ..

theorem gens_born_of_ne (w : World) {u v : VMID} (h : u ≠ v) : (w.born v).gens u = w.gens u :=
  Function.update_of_ne h ..

theorem alive_born_of_ne (w : World) {u v : VMID} (h : u ≠ v) : (w.born v).alive u = w.alive u :=
  Function.update_of_ne h ..

theorem alive_of_alive_died {w : World} {u v : VMID} (h : (w.died v).alive u) :
    w.alive u = true := by
  by_cases huv : u = v
  · simp [died, huv] at h
  · simpa [died, huv] using h

/-! ## What an event is about -/

/-- The caller that gets the lock. -/
def entering (w : World) : Event → Option Caller
  | .enter k => w.callers[k]?
  | _ => none

/-- The rows that a fetch returns. -/
def fetching (w : World) : Event → Option (List ClusterResource)
  | .call _ outcome => if w.cached.isNone then outcome else none
  | _ => none

/-- The VMID under which a VM comes to life. -/
def creating (w : World) : Event → Option VMID
  | .clone id => (w.handles.get id).map Handle.vmid
  | .create v => some v
  | _ => none

/-- The handle whose owner releases it. -/
def releasing (w : World) : Event → Option Handle
  | .release id => w.handles.get id
  | _ => none

/-- The VMID that is bound. -/
def binding : Event → Option VMID
  | .bind _ v => some v
  | _ => none

def asking : Event → Option Shape
  | .call call _ => call.asks
  | _ => none

/-- The reservation for which a clone creates its VM. -/
def cloning : Event → Option ℕ
  | .clone id => some id
  | _ => none

/-- No caller goes back behind a snapshot that was used before it. -/
def InOrder (w : World) (e : Event) : Prop := ∀ caller ∈ w.entering e, w.used ≤ caller.reading.seq

instance (w : World) (e : Event) : Decidable (w.InOrder e) :=
  inferInstanceAs (Decidable (∀ caller ∈ w.entering e, _))

/-! ## What a step does -/

variable {opts : Options} {w w' : World} {caller : Caller}

theorem mem_callers_of_entering {e : Event} (h : caller ∈ w.entering e) : caller ∈ w.callers := by
  cases e with
  | enter k => exact List.mem_of_getElem? h
  | _ => cases h

/-- The accountant after the sweep that every locked section begins with. -/
def swept (opts : Options) (w : World) (caller : Caller) : Accountant :=
  w.acct.sweepLocked (caller.reading.snapshot opts) w.now

/-- The caller that a call becomes once it has its snapshot. -/
def waiting (w : World) (call : Call) (reading : Reading) : Caller where
  call := call
  reading := reading
  victims := call.freeing.map fun v ↦ (v, w.gens v)

/-- The lock is free again. -/
def leave (w : World) (k : ℕ) (caller : Caller) : World :=
  { w with callers := w.callers.eraseIdx k, used := max w.used caller.reading.seq }

/-- The reservation that a call adds, and its handle. -/
def grant (opts : Options) (w : World) (caller : Caller) (node : String) (shape : Shape)
    (freeing : List VMID) : World :=
  { w with
    acct := (w.swept opts caller).add node shape freeing (w.now + opts.reservationTTL)
    handles := w.handles.put { id := w.acct.nextRes + 1, node, shape, victims := caller.victims } }

/-- Everything a step can do. -/
inductive StepTo (opts : Options) (w : World) : Event → World → Prop
  | tick (elapsed : ℕ) : StepTo opts w (.tick elapsed) { w with now := w.now + elapsed }
  | refuse (call : Call) : StepTo opts w (.call call none) w
  | reuse (call : Call) (outcome : Option (List ClusterResource)) (reading : Reading)
      (hreading : reading ∈ w.fetched) :
      StepTo opts w (.call call outcome) { w with callers := w.waiting call reading :: w.callers }
  | fetch (call : Call) (rows : List ClusterResource)
      (hrows : rows ∈ w.fetching (.call call (some rows))) :
      StepTo opts w (.call call (some rows))
        { w.fetchNow opts rows with callers := w.waiting call (w.read rows) :: w.callers }
  | sweep (k : ℕ) (caller : Caller) (hcaller : w.callers[k]? = some caller) :
      StepTo opts w (.enter k) ({ w with acct := w.swept opts caller }.leave k caller)
  | grant (k : ℕ) (caller : Caller) (hcaller : w.callers[k]? = some caller) (node : String)
      (shape : Shape) (freeing : List VMID) (hcall : caller.call = .reserveFreeing node shape freeing) :
      StepTo opts w (.enter k) ((w.grant opts caller node shape freeing).leave k caller)
  | bind (id : ℕ) (v : VMID) (handle : Handle) (hget : w.handles.get id = some handle)
      (hunbound : handle.vmid = 0) (hv : v ≠ 0) :
      StepTo opts w (.bind id v)
        { w with acct := w.acct.bind id v, handles := w.handles.put { handle with vmid := v } }
  | release (id : ℕ) (handle : Handle) (hget : w.handles.get id = some handle) :
      StepTo opts w (.release id)
        { w with acct := w.acct.release id, handles := w.handles.put { handle with released := true } }
  | clone (id : ℕ) (handle : Handle) (hget : w.handles.get id = some handle) (hbound : handle.vmid ≠ 0)
      (hheld : handle.released = false) (hvm : handle.vm = none) (hfree : w.alive handle.vmid = false) :
      StepTo opts w (.clone id) { w.born handle.vmid with
        handles := w.handles.put { handle with vm := some (w.gens handle.vmid + 1) } }
  | create (v : VMID) (hfree : w.alive v = false) : StepTo opts w (.create v) (w.born v)
  | destroy (v : VMID) : StepTo opts w (.destroy v) (w.died v)

/-- The locked section sweeps, and at most adds one reservation with its handle. -/
theorem serve_cases (opts : Options) (w : World) (caller : Caller) :
    w.serve opts caller = { w with acct := w.swept opts caller } ∨
    ∃ node shape freeing, caller.call = .reserveFreeing node shape freeing ∧
      w.serve opts caller = w.grant opts caller node shape freeing := by
  unfold serve
  cases caller.call with
  | snapshot => exact .inl rfl
  | fits shape candidates => exact .inl rfl
  | reserveFreeing node shape freeing =>
    by_cases hfits : (w.swept opts caller).fitsLocked opts (caller.reading.snapshot opts) node shape
        freeing = true
    · refine .inr ⟨node, shape, freeing, rfl, ?_⟩
      simp only [Accountant.reserveFreeing_of_fits hfits]
      rfl
    · refine .inl ?_
      simp only [Accountant.reserveFreeing_of_not_fits hfits]
      rfl

theorem stepTo_call (opts : Options) (w : World) (call : Call) (outcome : Option (List ClusterResource)) :
    StepTo opts w (.call call outcome)
      ((w.resources opts outcome).1.await call (w.resources opts outcome).2) := by
  unfold resources
  cases hcached : w.cached with
  | some reading =>
    refine .reuse call outcome reading ?_
    unfold cached at hcached
    split_ifs at hcached
    exact List.mem_of_mem_head? hcached
  | none =>
    cases outcome with
    | some rows => exact .fetch call rows (by simp [fetching, hcached])
    | none =>
      dsimp only
      cases hlast : w.fetched.head? with
      | none => exact .refuse call
      | some reading => exact .reuse call none reading (List.mem_of_mem_head? hlast)

theorem stepTo_of_step {e : Event} (h : w.step opts e = some w') : StepTo opts w e w' := by
  cases e with
  | tick elapsed =>
    cases h
    exact .tick elapsed
  | call call outcome =>
    cases h
    exact stepTo_call opts w call outcome
  | enter k =>
    obtain ⟨caller, hcaller, rfl⟩ := Option.map_eq_some_iff.mp h
    rcases serve_cases opts w caller with hserve | ⟨node, shape, freeing, hcall, hserve⟩
    · rw [hserve]
      exact .sweep k caller hcaller
    · rw [hserve]
      exact .grant k caller hcaller node shape freeing hcall
  | bind id v =>
    cases hget : w.handles.get id with
    | none => simp [step, hget] at h
    | some handle =>
      simp only [step, hget, Option.ite_none_right_eq_some, Option.some.injEq] at h
      obtain ⟨⟨hunbound, hv⟩, rfl⟩ := h
      exact .bind id v handle hget hunbound hv
  | release id =>
    obtain ⟨handle, hget, rfl⟩ := Option.map_eq_some_iff.mp h
    exact .release id handle hget
  | clone id =>
    cases hget : w.handles.get id with
    | none => simp [step, hget] at h
    | some handle =>
      simp only [step, hget, Option.ite_none_right_eq_some, Option.some.injEq, Bool.not_eq_true] at h
      obtain ⟨⟨hbound, hheld, hvm, hfree⟩, rfl⟩ := h
      exact .clone id handle hget hbound hheld hvm hfree
  | create v =>
    simp only [step, Option.ite_none_left_eq_some, Option.some.injEq, Bool.not_eq_true] at h
    obtain ⟨hfree, rfl⟩ := h
    exact .create v hfree
  | destroy v =>
    simp only [step, Option.ite_none_right_eq_some, Option.some.injEq] at h
    obtain ⟨-, rfl⟩ := h
    exact .destroy v

/-! ## Reservations and their handles -/

def Describes (handle : Handle) (r : Reservation) : Prop :=
  handle.node = r.node ∧ handle.shape = r.shape ∧ handle.vmid = r.vmid

/-- Every outstanding reservation has an owner who knows it. -/
def Linked (w : World) : Prop :=
  ∀ id r, w.acct.res.get id = some r → ∃ handle, w.handles.get id = some handle ∧ Describes handle r

theorem Linked.describes (h : w.Linked) {id : ℕ} {handle : Handle} {r : Reservation}
    (hhandle : w.handles.get id = some handle) (hget : w.acct.res.get id = some r) :
    Describes handle r := by
  obtain ⟨found, hfound, hdescribes⟩ := h id r hget
  rw [hhandle, Option.some.injEq] at hfound
  exact hfound ▸ hdescribes

/-- A sweep leaves of a reservation all but freeing credits. -/
theorem describes_sweepOne {handle : Handle} {snap : Snapshot} {now : Time} {r r' : Reservation}
    (h : Describes handle r) (hswept : Accountant.sweepOne snap now r = some r') :
    Describes handle r' := by
  obtain ⟨-, -, rfl⟩ := Accountant.sweepOne_eq_some.mp hswept
  exact h

theorem Linked.swept (h : w.Linked) {id : ℕ} {r : Reservation}
    (hget : (w.swept opts caller).res.get id = some r) :
    ∃ handle, w.handles.get id = some handle ∧ Describes handle r := by
  rw [World.swept, Accountant.get_sweepLocked, Option.bind_eq_some_iff] at hget
  obtain ⟨old, hold, hswept⟩ := hget
  obtain ⟨handle, hhandle, hdescribes⟩ := h id old hold
  exact ⟨handle, hhandle, describes_sweepOne hdescribes hswept⟩

theorem Linked.step {e : Event} (h : w.Linked) (hstep : StepTo opts w e w') : w'.Linked := by
  cases hstep with
  | sweep k caller _ => exact fun id r hget ↦ h.swept hget
  | grant k caller _ node shape freeing _ =>
    intro id r hget
    have hnext : (w.swept opts caller).nextRes = w.acct.nextRes := rfl
    simp only [World.grant, leave, Accountant.add, Table.get_put, hnext] at hget ⊢
    split_ifs at hget ⊢ with hid
    · cases hget
      exact ⟨_, rfl, rfl, rfl, rfl⟩
    · exact h.swept hget
  | bind id v handle hhandle _ _ =>
    intro other r hget
    have hkey : handle.id = id := Table.key_of_get hhandle
    simp only [Accountant.get_bind, Option.map_eq_some_iff] at hget
    obtain ⟨old, hold, rfl⟩ := hget
    obtain ⟨found, hfound, hnode, hshape, hvmid⟩ := h other old hold
    have hother : old.id = other := Table.key_of_get hold
    simp only [Table.get_put, hkey, Accountant.bindOne, hother]
    split_ifs with hid
    · rw [hid, hhandle, Option.some.injEq] at hfound
      subst hfound
      exact ⟨_, rfl, hnode, hshape, rfl⟩
    · exact ⟨found, hfound, hnode, hshape, hvmid⟩
  | release id handle hhandle =>
    intro other r hget
    have hkey : handle.id = id := Table.key_of_get hhandle
    simp only [Accountant.get_release, Table.get_put, hkey] at hget ⊢
    split_ifs at hget ⊢ with hid
    exact h other r hget
  | clone id handle hhandle _ _ _ _ =>
    intro other r hget
    have hkey : handle.id = id := Table.key_of_get hhandle
    obtain ⟨found, hfound, hdescribes⟩ := h other r hget
    simp only [Table.get_put, hkey]
    split_ifs with hid
    · rw [hid, hhandle, Option.some.injEq] at hfound
      subst hfound
      exact ⟨_, rfl, hdescribes⟩
    · exact ⟨found, hfound, hdescribes⟩
  | _ => exact h

end World

end ScalesetProxmox.Nodecap
