import ScalesetProxmox.Pool.System
import ScalesetProxmox.Scaler.RunnerNames
import ScalesetProxmox.Store.Memory

/-!
# Allocating VMIDs

`allocateVMIDAndInsertRow` step by step, by any number of clone dispatches at once. The lock `allocMu` is
shared by allocations only: rows are inserted, changed and deleted, and destroys complete, between any two of
its steps. The scan of the table is taken once, before the loop over the range, so a VMID that the loop takes
for free can have got a row since; the insert finds out.

An allocation carries two things that the program does not have: the table that it scanned and, for each VMID
it asked the provisioner about, the entries it read and the clock before and after.
-/

namespace ScalesetProxmox.Pool.Allocation

open Provisioner (Tracker isRecentlyDestroyed)
open Store (VMID Time PoolKind)
open Transition

variable {tracker : Tracker} {destroyed : Time}

structure Request where
  profile : ProfileSettings
  kind : PoolKind
  node : String

/-- A call of `IsRecentlyDestroyed`: the entries when it looked, the time then, and the time when it took
the age. -/
structure Examination where
  id : VMID
  tracker : Tracker
  lookedAt : Time
  judgedAt : Time

structure Scan where
  scanned : Store
  examined : List Examination := []

structure Allocated where
  vmid : VMID
  name : String
  templateVMID : VMID
  templateClass : String
  deriving DecidableEq, Repr

/-- Where an allocation is. -/
inductive Point
  | lock
  | scan
  | loop (seen : Scan) (id : VMID)
  | look (seen : Scan) (id : VMID)
  | judge (seen : Scan) (id : VMID) (destroyed : Time) (tracker : Tracker) (lookedAt : Time)
  | evict (seen : Scan) (id : VMID)
  | insert (seen : Scan) (id : VMID)
  | unlock (result : Except String Allocated)

structure Thread where
  request : Request
  point : Point

/-- What the context, the database and the canary controller answer. -/
structure Input where
  ctxErr : Option String := none
  listErr : Option String := none
  insertErr : Option String := none
  pick : Reply := .ok

variable (cfg : Config)

def Scan.used (seen : Scan) : List VMID := seen.scanned.usedVMIDs cfg.vmidRange.min cfg.vmidRange.max

def Scan.record (seen : Scan) (e : Examination) : Scan := { seen with examined := e :: seen.examined }

/-- `recentlyDestroyed.Get`, which does not return an entry that is past its lifetime. -/
def trackerGet (tracker : Tracker) (now : Time) (v : VMID) : Option Time :=
  (tracker v).filter fun destroyed ↦ now - destroyed < cfg.recentlyDestroyedTTL

def provisioned (request : Request) (id : VMID) (input : Input) : Store.VM :=
  provisioningRow cfg request.profile request.kind request.node id (input.pick.templateFor request.profile).2

/-- What `allocateVMIDAndInsertRow` returns. -/
def allocated (request : Request) (id : VMID) (input : Input) : Allocated where
  vmid := id
  name := Scaler.runnerName cfg.pmox.vmNamePrefix id
  templateVMID := (input.pick.templateFor request.profile).1
  templateClass := (input.pick.templateFor request.profile).2

def insertText (id : VMID) : Store.Err → String
  | .vmidNotPositive => (Store.Memory.errVMIDNotPositive id).text
  | _ => (Store.Memory.errVMIDExists id).text

/-- The next step of an allocation; `none` while another one has the lock. -/
def advance (request : Request) (input : Input) (s : Shared) : Point → Option (Shared × Option Point)
  | .lock => if s.allocMu then none else some ({ s with allocMu := true }, some .scan)
  | .scan =>
    match input.ctxErr, input.listErr with
    | some cause, _ => some (s, some (.unlock (.error s!"allocate vmid: {cause}")))
    | none, some cause => some (s, some (.unlock (.error s!"allocate vmid: store: list: {cause}")))
    | none, none => some (s, some (.loop { scanned := s.store } cfg.vmidRange.min))
  | .loop seen id =>
    if id ≤ cfg.vmidRange.max then
      match input.ctxErr with
      | some cause => some (s, some (.unlock (.error s!"allocate vmid: {cause}")))
      | none =>
        if id ∈ seen.used cfg then some (s, some (.loop seen (id + 1))) else some (s, some (.look seen id))
    else
      some (s, some (.unlock (.error "allocate vmid: vmid range exhausted")))
  | .look seen id =>
    match trackerGet cfg s.recentlyDestroyed s.now id with
    | none =>
      let e : Examination :=
        { id := id, tracker := s.recentlyDestroyed, lookedAt := s.now, judgedAt := s.now }
      some (s, some (.insert (seen.record e) id))
    | some destroyed => some (s, some (.judge seen id destroyed s.recentlyDestroyed s.now))
  | .judge seen id destroyed tracker lookedAt =>
    let e : Examination := { id := id, tracker := tracker, lookedAt := lookedAt, judgedAt := s.now }
    if cfg.vmidReuseCooldown ≤ s.now - destroyed then some (s, some (.evict (seen.record e) id))
    else some (s, some (.loop (seen.record e) (id + 1)))
  | .evict seen id =>
    some ({ s with recentlyDestroyed := Function.update s.recentlyDestroyed id none }, some (.insert seen id))
  | .insert _ id =>
    match input.insertErr with
    | some cause => some (s, some (.unlock (.error s!"create row: {cause}")))
    | none =>
      match s.store.insert s.now (provisioned cfg request id input) with
      | .ok store => some (s.commit id store, some (.unlock (.ok (allocated cfg request id input))))
      | .error err => some (s, some (.unlock (.error s!"create row: {insertText id err}")))
  | .unlock _ => some ({ s with allocMu := false }, none)

abbrev Sys := Concurrent Shared Thread

inductive Act
  /-- A clone is dispatched. -/
  | dispatch (request : Request)
  | fire (i : ℕ) (input : Input)
  /-- Somebody else calls the store. -/
  | write (op : Store.Op)
  /-- A destroy completes. -/
  | settle (v : VMID)
  /-- An entry that is past its lifetime is dropped. -/
  | expire (v : VMID)
  | elapse (d : ℕ)

def next (input : Input) (s : Shared) (thread : Thread) : Option (Shared × List Thread) :=
  (advance cfg thread.request input s thread.point).map fun after ↦
    (after.1, after.2.toList.map fun point ↦ { thread with point := point })

def step (sys : Sys) : Act → Option Sys
  | .dispatch request => some { sys with threads := sys.threads ++ [{ request := request, point := .lock }] }
  | .fire i input => sys.fire (next cfg input) i
  | .write op =>
    (Store.step sys.shared.store op).map fun store ↦ { sys with shared := { sys.shared with store := store } }
  | .settle v =>
    some { sys with shared := { sys.shared with
      recentlyDestroyed := Function.update sys.shared.recentlyDestroyed v (some sys.shared.now) } }
  | .expire v =>
    match trackerGet cfg sys.shared.recentlyDestroyed sys.shared.now v with
    | some _ => none
    | none => some { sys with shared := { sys.shared with
        recentlyDestroyed := Function.update sys.shared.recentlyDestroyed v none } }
  | .elapse d => some { sys with shared := { sys.shared with now := sys.shared.now + d } }

/-! ## What an allocation has seen -/

variable {cfg : Config} {s s' : Shared} {seen : Scan} {id : VMID} {e : Examination} {now : Time}

/-- The VMID was in its cooldown when the entries were read. -/
def Examination.Cooling (cfg : Config) (e : Examination) : Prop :=
  isRecentlyDestroyed e.tracker cfg.recentlyDestroyedTTL cfg.vmidReuseCooldown e.lookedAt e.id = true

/-- By the entries that were read the VMID was not in its cooldown when the age was taken. -/
def Examination.Free (cfg : Config) (e : Examination) : Prop :=
  isRecentlyDestroyed e.tracker cfg.recentlyDestroyedTTL cfg.vmidReuseCooldown e.judgedAt e.id = false

theorem trackerGet_eq_some : trackerGet cfg tracker now id = some destroyed ↔
      tracker id = some destroyed ∧ now - destroyed < cfg.recentlyDestroyedTTL := by
  simp [trackerGet, Option.filter_eq_some_iff]

theorem free_of_none (h : trackerGet cfg tracker now id = none) :
    Examination.Free cfg { id := id, tracker := tracker, lookedAt := now, judgedAt := now } := by
  simp only [Examination.Free, isRecentlyDestroyed]
  cases hentry : tracker id with
  | none => rfl
  | some destroyed =>
    have hold : ¬now - destroyed < cfg.recentlyDestroyedTTL := fun hlive ↦ by
      cases h.symm.trans (trackerGet_eq_some.mpr ⟨hentry, hlive⟩)
    simp [hold]

theorem free_of_old {lookedAt : Time} (h : trackerGet cfg tracker lookedAt id = some destroyed)
    (hold : cfg.vmidReuseCooldown ≤ now - destroyed) :
    Examination.Free cfg { id := id, tracker := tracker, lookedAt := lookedAt, judgedAt := now } := by
  simp only [Examination.Free, isRecentlyDestroyed, (trackerGet_eq_some.mp h).1]
  simp [not_lt.mpr hold]

theorem cooling_of_young {lookedAt : Time} (h : trackerGet cfg tracker lookedAt id = some destroyed)
    (hlater : lookedAt ≤ now) (hyoung : now - destroyed < cfg.vmidReuseCooldown) :
    Examination.Cooling cfg { id := id, tracker := tracker, lookedAt := lookedAt, judgedAt := now } := by
  obtain ⟨hentry, hlive⟩ := trackerGet_eq_some.mp h
  have hyoung' : lookedAt - destroyed < cfg.vmidReuseCooldown :=
    (sub_le_sub_right hlater destroyed).trans_lt hyoung
  simp [Examination.Cooling, isRecentlyDestroyed, hentry, hlive, hyoung']

def InRange (cfg : Config) (id : VMID) : Prop := cfg.vmidRange.min ≤ id ∧ id ≤ cfg.vmidRange.max

/-- The VMID had a row in the scan or was in its cooldown. -/
def Passed (cfg : Config) (seen : Scan) (id : VMID) : Prop :=
  (seen.scanned.get id).isSome ∨ ∃ e ∈ seen.examined, e.id = id ∧ e.Cooling cfg

def Lowest (cfg : Config) (seen : Scan) (id : VMID) : Prop :=
  ∀ u, cfg.vmidRange.min ≤ u → u < id → Passed cfg seen u

theorem Lowest.record (h : Lowest cfg seen id) (e : Examination) : Lowest cfg (seen.record e) id := by
  intro u hmin hlt
  rcases h u hmin hlt with hrow | ⟨other, hmem, hother⟩
  · exact .inl hrow
  · exact .inr ⟨other, List.mem_cons_of_mem e hmem, hother⟩

theorem Lowest.succ (h : Lowest cfg seen id) (hid : Passed cfg seen id) : Lowest cfg seen (id + 1) := by
  intro u hmin hlt
  rcases Nat.lt_succ_iff_lt_or_eq.mp hlt with hlt | rfl
  · exact h u hmin hlt
  · exact hid

/-- What an allocation knows at each point. -/
def Point.Sound (cfg : Config) (now : Time) : Point → Prop
  | .loop seen id => cfg.vmidRange.min ≤ id ∧ Lowest cfg seen id
  | .look seen id => InRange cfg id ∧ Lowest cfg seen id
  | .judge seen id destroyed tracker lookedAt =>
    InRange cfg id ∧ Lowest cfg seen id ∧ trackerGet cfg tracker lookedAt id = some destroyed ∧ lookedAt ≤ now
  | .evict seen id | .insert seen id =>
    InRange cfg id ∧ Lowest cfg seen id ∧ ∃ e ∈ seen.examined, e.id = id ∧ e.Free cfg
  | _ => True

theorem Point.Sound.mono {p : Point} {later : Time} (h : p.Sound cfg now) (hle : now ≤ later) :
    p.Sound cfg later := by
  cases p with
  | judge seen id destroyed tracker lookedAt => exact ⟨h.1, h.2.1, h.2.2.1, h.2.2.2.trans hle⟩
  | _ => exact h

variable {input : Input}

theorem advance_sound {request : Request} {p q : Point} (h : p.Sound cfg s.now)
    (hadvance : advance cfg request input s p = some (s', some q)) : q.Sound cfg s.now := by
  cases p with
  | lock =>
    simp only [advance] at hadvance
    split_ifs at hadvance
    cases hadvance
    trivial
  | scan =>
    simp only [advance] at hadvance
    split at hadvance
    · cases hadvance
      trivial
    · cases hadvance
      trivial
    · cases hadvance
      exact ⟨le_rfl, fun u hmin hlt ↦ absurd hmin (not_le.mpr hlt)⟩
  | loop seen id =>
    obtain ⟨hmin, hlowest⟩ := h
    simp only [advance] at hadvance
    split at hadvance
    next hmax =>
      split at hadvance
      · cases hadvance
        trivial
      · split_ifs at hadvance with hused
        · cases hadvance
          have hrow := (Store.mem_usedVMIDs.mp hused).1
          exact ⟨hmin.trans (Nat.le_succ id), hlowest.succ (.inl hrow)⟩
        · cases hadvance
          exact ⟨⟨hmin, hmax⟩, hlowest⟩
    next =>
      cases hadvance
      trivial
  | look seen id =>
    obtain ⟨hrange, hlowest⟩ := h
    simp only [advance] at hadvance
    split at hadvance
    next hnone =>
      cases hadvance
      exact ⟨hrange, hlowest.record _, _, List.mem_cons_self, rfl, free_of_none hnone⟩
    next destroyed hsome =>
      cases hadvance
      exact ⟨hrange, hlowest, hsome, le_rfl⟩
  | judge seen id destroyed tracker lookedAt =>
    obtain ⟨hrange, hlowest, hget, hlater⟩ := h
    simp only [advance] at hadvance
    split_ifs at hadvance with hold
    · cases hadvance
      exact ⟨hrange, hlowest.record _, _, List.mem_cons_self, rfl, free_of_old hget hold⟩
    · cases hadvance
      have hcooling := cooling_of_young hget hlater (not_le.mp hold)
      refine ⟨hrange.1.trans (Nat.le_succ id), (hlowest.record _).succ (.inr ?_)⟩
      exact ⟨_, List.mem_cons_self, rfl, hcooling⟩
  | evict seen id =>
    cases hadvance
    exact h
  | insert seen id =>
    simp only [advance] at hadvance
    split at hadvance
    · cases hadvance
      trivial
    · split at hadvance
      · cases hadvance
        trivial
      · cases hadvance
        trivial
  | unlock result => cases hadvance

/-- What a step does to the shared state. Only the insert writes to the table. -/
theorem advance_shared {request : Request} {p : Point} {after : Option Point}
    (hadvance : advance cfg request input s p = some (s', after)) :
    (s'.now = s.now ∧ s'.store = s.store ∧ ∀ a, after ≠ some (.unlock (.ok a))) ∨
    ∃ seen id store, p = .insert seen id ∧
      s.store.insert s.now (provisioned cfg request id input) = .ok store ∧
      s' = s.commit id store ∧ after = some (.unlock (.ok (allocated cfg request id input))) := by
  cases p with
  | insert seen id =>
    simp only [advance] at hadvance
    split at hadvance
    · cases hadvance
      simp
    · split at hadvance
      next store hstore =>
        cases hadvance
        exact .inr ⟨seen, id, store, rfl, hstore, rfl, rfl⟩
      next =>
        cases hadvance
        simp
  | _ =>
    simp only [advance] at hadvance
    (repeat' split at hadvance) <;> cases hadvance <;> simp

/-! ## The system -/

variable {sys sys' : Sys} {act : Act}

theorem next_eq_some {thread : Thread} {successors : List Thread} :
    next cfg input s thread = some (s', successors) ↔ ∃ after,
      advance cfg thread.request input s thread.point = some (s', after) ∧
      successors = after.toList.map fun point ↦ { thread with point := point } := by
  simp only [next, Option.map_eq_some_iff, Prod.exists, Prod.mk.injEq]
  constructor
  · rintro ⟨_, after, hadvance, rfl, rfl⟩
    exact ⟨after, hadvance, rfl⟩
  · rintro ⟨after, hadvance, rfl⟩
    exact ⟨s', after, hadvance, rfl, rfl⟩

inductive Stepped (cfg : Config) (sys : Sys) : Act → Sys → Prop
  | dispatched (request : Request) :
    Stepped cfg sys (.dispatch request)
      { sys with threads := sys.threads ++ [{ request := request, point := .lock }] }
  | fired (i : ℕ) (input : Input) (thread : Thread) (shared : Shared) (after : Option Point)
    (hthread : sys.threads[i]? = some thread)
    (hadvance : advance cfg thread.request input sys.shared thread.point = some (shared, after)) :
    Stepped cfg sys (.fire i input)
      ⟨shared, sys.threads.eraseIdx i ++ after.toList.map fun point ↦ { thread with point := point }⟩
  | wrote (op : Store.Op) (store : Store) (hstore : Store.step sys.shared.store op = some store) :
    Stepped cfg sys (.write op) { sys with shared := { sys.shared with store := store } }
  | passed (act : Act) (shared : Shared) (hact : ∀ i input, act ≠ .fire i input)
    (hstore : shared.store = sys.shared.store) (hnow : sys.shared.now ≤ shared.now) :
    Stepped cfg sys act { sys with shared := shared }

theorem stepped (hstep : step cfg sys act = some sys') : Stepped cfg sys act sys' := by
  cases act with
  | dispatch request =>
    cases hstep
    exact .dispatched request
  | fire i input =>
    obtain ⟨thread, shared, successors, hthread, hnext, rfl⟩ := fire_eq_some.mp hstep
    obtain ⟨after, hadvance, rfl⟩ := next_eq_some.mp hnext
    exact .fired i input thread shared after hthread hadvance
  | write op =>
    obtain ⟨store, hstore, rfl⟩ := Option.map_eq_some_iff.mp hstep
    exact .wrote op store hstore
  | settle v =>
    cases hstep
    exact .passed (.settle v) _ (by simp) rfl le_rfl
  | expire v =>
    simp only [step] at hstep
    split at hstep
    · cases hstep
    · cases hstep
      exact .passed (.expire v) _ (by simp) rfl le_rfl
  | elapse d =>
    cases hstep
    exact .passed (.elapse d) _ (by simp) rfl (Int.le_add_of_nonneg_right (Int.natCast_nonneg d))

theorem now_of_advance {request : Request} {p : Point} {after : Option Point}
    (hadvance : advance cfg request input s p = some (s', after)) : s'.now = s.now := by
  rcases advance_shared hadvance with ⟨hnow, _⟩ | ⟨_, _, _, _, _, rfl, _⟩
  · exact hnow
  · rfl

/-- What every allocation knows is right. -/
def Sound (cfg : Config) (sys : Sys) : Prop := ∀ thread ∈ sys.threads, thread.point.Sound cfg sys.shared.now

theorem step_sound (h : Sound cfg sys) (hstep : step cfg sys act = some sys') : Sound cfg sys' := by
  cases stepped hstep with
  | dispatched request => exact List.forall_mem_append.mpr ⟨h, List.forall_mem_singleton.mpr trivial⟩
  | fired i input thread shared after hthread hadvance =>
    have hnow : shared.now = sys.shared.now := now_of_advance hadvance
    refine forall_threads_fire i h (fun other hother ↦ ?_) fun other _ hsound ↦ hsound.mono hnow.ge
    obtain ⟨q, hq, rfl⟩ := List.mem_map.mp hother
    rw [Option.mem_toList] at hq
    subst hq
    exact (advance_sound (h thread (List.mem_of_getElem? hthread)) hadvance).mono hnow.ge
  | wrote op store hstore => exact h
  | passed _ shared _ hstore hnow => exact fun thread hmem ↦ (h thread hmem).mono hnow

/-! ## An allocation by itself -/

section

variable {request : Request} {p q r : Point} {s'' : Shared}

/-- An allocation that nothing interrupts gets from one point to the other. -/
def Reaches (cfg : Config) (request : Request) (s : Shared) (p : Point) (s' : Shared) (q : Point) : Prop :=
  ∃ k, run (step cfg) ⟨s, [{ request := request, point := p }]⟩ (List.replicate k (.fire 0 {})) =
    some ⟨s', [{ request := request, point := q }]⟩

theorem reaches_refl (s : Shared) (p : Point) : Reaches cfg request s p s p := ⟨0, rfl⟩

theorem reaches_of_advance (hadvance : advance cfg request {} s p = some (s', some q))
    (hrest : Reaches cfg request s' q s'' r) : Reaches cfg request s p s'' r := by
  obtain ⟨k, hrun⟩ := hrest
  have hnext : next cfg {} s { request := request, point := p } =
      some (s', [{ request := request, point := q }]) := next_eq_some.mpr ⟨some q, hadvance, rfl⟩
  have hfire : Concurrent.fire (next cfg {}) ⟨s, [{ request := request, point := p }]⟩ 0 =
      some ⟨s', [{ request := request, point := q }]⟩ := fire_eq_some.mpr ⟨_, s', _, rfl, hnext, rfl⟩
  exact ⟨k + 1, run_cons_eq_some.mpr ⟨_, hfire, hrun⟩⟩

/-- The point that the loop comes to when it ends with the VMID, or without one. -/
def outcome (seen : Scan) : Option VMID → Point
  | some v => .insert seen v
  | none => .unlock (.error "allocate vmid: vmid range exhausted")

/-- The VMIDs that the loop takes for free. -/
def unclaimed (cfg : Config) (s : Shared) (v : VMID) : Bool :=
  v ∉ s.store.usedVMIDs cfg.vmidRange.min cfg.vmidRange.max ∧
    isRecentlyDestroyed s.recentlyDestroyed cfg.recentlyDestroyedTTL cfg.vmidReuseCooldown s.now v = false

theorem turn_alone (hscanned : seen.scanned = s.store) (hmax : id ≤ cfg.vmidRange.max) :
    (unclaimed cfg s id ∧ ∃ tracker seen', Reaches cfg request s (.loop seen id)
        { s with recentlyDestroyed := tracker } (.insert seen' id)) ∨
    unclaimed cfg s id = false ∧ ∃ seen', seen'.scanned = s.store ∧
      ∀ s'' r, Reaches cfg request s (.loop seen' (id + 1)) s'' r →
        Reaches cfg request s (.loop seen id) s'' r := by
  by_cases hused : id ∈ seen.used cfg
  · have hadvance : advance cfg request {} s (.loop seen id) = some (s, some (.loop seen (id + 1))) := by
      simp [advance, hmax, hused]
    rw [Scan.used, hscanned] at hused
    refine .inr ⟨decide_eq_false fun hfree ↦ hfree.1 hused, seen, hscanned, fun s'' r hrest ↦ ?_⟩
    exact reaches_of_advance hadvance hrest
  have hloop : advance cfg request {} s (.loop seen id) = some (s, some (.look seen id)) := by
    simp [advance, hmax, hused]
  rw [Scan.used, hscanned] at hused
  let e : Examination := { id := id, tracker := s.recentlyDestroyed, lookedAt := s.now, judgedAt := s.now }
  cases hget : trackerGet cfg s.recentlyDestroyed s.now id with
  | none =>
    have hlook : advance cfg request {} s (.look seen id) = some (s, some (.insert (seen.record e) id)) := by
      simp only [advance, hget, e]
    exact .inl ⟨decide_eq_true ⟨hused, free_of_none hget⟩, s.recentlyDestroyed, _,
      reaches_of_advance hloop (reaches_of_advance hlook (reaches_refl _ _))⟩
  | some destroyed =>
    have hlook : advance cfg request {} s (.look seen id) =
        some (s, some (.judge seen id destroyed s.recentlyDestroyed s.now)) := by simp only [advance, hget]
    by_cases hold : cfg.vmidReuseCooldown ≤ s.now - destroyed
    · have hjudge : advance cfg request {} s (.judge seen id destroyed s.recentlyDestroyed s.now) =
          some (s, some (.evict (seen.record e) id)) := by simp only [advance, if_pos hold, e]
      have hevict : Reaches cfg request s (.evict (seen.record e) id)
          { s with recentlyDestroyed := Function.update s.recentlyDestroyed id none }
          (.insert (seen.record e) id) := reaches_of_advance rfl (reaches_refl _ _)
      exact .inl ⟨decide_eq_true ⟨hused, free_of_old hget hold⟩, _, _,
        reaches_of_advance hloop (reaches_of_advance hlook (reaches_of_advance hjudge hevict))⟩
    · have hjudge : advance cfg request {} s (.judge seen id destroyed s.recentlyDestroyed s.now) =
          some (s, some (.loop (seen.record e) (id + 1))) := by simp only [advance, if_neg hold, e]
      have hcooling : e.Cooling cfg := cooling_of_young hget le_rfl (not_le.mp hold)
      refine .inr ⟨decide_eq_false fun hfree ↦ Bool.false_ne_true (hfree.2.symm.trans hcooling),
        seen.record e, hscanned, fun s'' r hrest ↦ ?_⟩
      exact reaches_of_advance hloop (reaches_of_advance hlook (reaches_of_advance hjudge hrest))

theorem loop_alone (request : Request) {n : ℕ} (hscanned : seen.scanned = s.store)
    (hn : cfg.vmidRange.max + 1 - id = n) :
    ∃ tracker seen', Reaches cfg request s (.loop seen id) { s with recentlyDestroyed := tracker }
      (outcome seen' ((List.range' id n).find? (unclaimed cfg s))) := by
  induction n generalizing id seen with
  | zero =>
    have hmax : ¬id ≤ cfg.vmidRange.max := not_le.mpr (Nat.sub_eq_zero_iff_le.mp hn)
    refine ⟨s.recentlyDestroyed, seen, reaches_of_advance ?_ (reaches_refl _ _)⟩
    simp [advance, hmax, outcome]
  | succ n ih =>
    have hmax : id ≤ cfg.vmidRange.max := Nat.lt_succ_iff.mp (Nat.lt_of_sub_eq_succ hn)
    have hn' : cfg.vmidRange.max + 1 - (id + 1) = n := by rw [Nat.sub_add_eq, hn, Nat.add_sub_cancel]
    rw [List.range'_succ, List.find?_cons]
    rcases turn_alone hscanned hmax with
      ⟨hfree, tracker, seen', hreaches⟩ | ⟨hclaimed, seen', hscanned', hturn⟩
    · rw [hfree]
      exact ⟨tracker, seen', hreaches⟩
    · rw [hclaimed]
      obtain ⟨tracker, seen'', hreaches⟩ := ih hscanned' hn'
      exact ⟨tracker, seen'', hturn _ _ hreaches⟩

/-- An allocation that nothing interrupts takes the VMID that the pool's `allocateVMID` gives. -/
theorem scan_alone (cfg : Config) (request : Request) (s : Shared) :
    ∃ tracker seen, Reaches cfg request s .scan { s with recentlyDestroyed := tracker }
      (outcome seen (allocateVMID cfg s)) := by
  have hscanned : ({ scanned := s.store } : Scan).scanned = s.store := rfl
  obtain ⟨tracker, seen, hreaches⟩ := loop_alone request hscanned rfl
  exact ⟨tracker, seen, reaches_of_advance rfl hreaches⟩

end

/-! ## Rows -/

/-- A row goes only when somebody deletes it. -/
theorem deletes_of_step (hstep : step cfg sys act = some sys') (hrow : (sys.shared.store.get id).isSome)
    (hnone : sys'.shared.store.get id = none) : ∃ op, act = .write op ∧ op.deletes = some id := by
  obtain ⟨row, hrow⟩ := Option.isSome_iff_exists.mp hrow
  cases stepped hstep with
  | dispatched request => cases hnone.symm.trans hrow
  | fired i input thread shared after hthread hadvance =>
    rcases advance_shared hadvance with ⟨_, hstore, _⟩ | ⟨seen, v, store, _, hinsert, rfl, _⟩
    · rw [hstore, hrow] at hnone
      cases hnone
    · obtain ⟨_, hfree, rfl⟩ := Store.insert_eq_ok.mp hinsert
      have hne : id ≠ v := by
        rintro rfl
        cases hrow.symm.trans hfree
      cases hnone.symm.trans ((Table.get_put_ne _ hne).trans hrow)
  | wrote op store hstore =>
    refine ⟨op, rfl, ?_⟩
    rcases (Store.effect_of_step hstore).get_of_some hrow with ⟨row', hrow', _⟩ | ⟨hdeletes, _⟩
    · cases hnone.symm.trans hrow'
    · exact hdeletes
  | passed _ shared _ hstore hnow =>
    rw [hstore, hrow] at hnone
    cases hnone

/-- The act is the insert of an allocation that returns `a`, after what it saw. -/
def Succeeds (cfg : Config) (sys : Sys) (act : Act) (seen : Scan) (a : Allocated) : Prop :=
  ∃ i input thread shared, act = .fire i input ∧ sys.threads[i]? = some thread ∧
    thread.point = .insert seen a.vmid ∧
    advance cfg thread.request input sys.shared thread.point = some (shared, some (.unlock (.ok a)))

/-- What a success means: the VMID is in the range, had no row, was out of its cooldown when it was examined,
every smaller one had a row in the scan or was in its cooldown, and it has one row now. -/
def Granted (cfg : Config) (sys : Sys) (seen : Scan) (a : Allocated) (sys' : Sys) : Prop :=
  InRange cfg a.vmid ∧ sys.shared.store.get a.vmid = none ∧
    (∃ e ∈ seen.examined, e.id = a.vmid ∧ e.Free cfg) ∧ Lowest cfg seen a.vmid ∧
    ∃ row, sys'.shared.store.rows.filter (·.vmid = a.vmid) = [row] ∧ row.name = a.name

/-- A success writes the row over nothing. -/
theorem store_of_succeeds {a : Allocated} (hsucceeds : Succeeds cfg sys act seen a) :
    sys.shared.store.get a.vmid = none ∧ ∀ sys', step cfg sys act = some sys' →
      ∃ row, row.vmid = a.vmid ∧ row.name = a.name ∧ sys'.shared.store = sys.shared.store.put row := by
  obtain ⟨i, input, thread, shared, rfl, hthread, _, hadvance⟩ := hsucceeds
  rcases advance_shared hadvance with ⟨_, _, hne⟩ | ⟨_, id, store, _, hinsert, rfl, hafter⟩
  · exact absurd rfl (hne a)
  · cases hafter
    obtain ⟨_, hnone, rfl⟩ := Store.insert_eq_ok.mp hinsert
    refine ⟨hnone, fun sys' hstep ↦ ?_⟩
    cases stepped hstep with
    | passed _ shared hact => exact absurd rfl (hact i input)
    | fired _ _ other shared' after hother hadvance' =>
      obtain rfl : thread = other := Option.some.inj (hthread.symm.trans hother)
      cases hadvance.symm.trans hadvance'
      exact ⟨_, rfl, rfl, rfl⟩

theorem granted_of_succeeds {a : Allocated} (h : Sound cfg sys) (hstep : step cfg sys act = some sys')
    (hsucceeds : Succeeds cfg sys act seen a) : Granted cfg sys seen a sys' := by
  obtain ⟨hnone, hwritten⟩ := store_of_succeeds hsucceeds
  obtain ⟨row, hvmid, hname, hstore⟩ := hwritten sys' hstep
  obtain ⟨i, input, thread, shared, rfl, hthread, hpoint, _⟩ := hsucceeds
  have hsound := h thread (List.mem_of_getElem? hthread)
  rw [hpoint] at hsound
  obtain ⟨hrange, hlowest, hfree⟩ := hsound
  refine ⟨hrange, hnone, hfree, hlowest, row, ?_, hname⟩
  rw [hstore, ← hvmid]
  exact Table.filter_key_rows (Table.get_put_self _ _)

/-- For any number of clone dispatches, interleaved in any way with each other, with calls of the store by
anybody else, with destroys that complete and with time: each allocation that succeeds is granted, and one
VMID is granted twice only if its row was deleted in between. -/
theorem allocation_distinct_lowest (cfg : Config) (shared : Shared) (acts : List Act) :
    Along (step cfg) (fun sys act sys' ↦ ∀ seen a, Succeeds cfg sys act seen a → Granted cfg sys seen a sys')
      ⟨shared, []⟩ acts ∧
    ∀ before first between second rest, acts = before ++ first :: (between ++ second :: rest) →
      ∀ sys sys' last seen seen' a b, run (step cfg) ⟨shared, []⟩ before = some sys →
        Succeeds cfg sys first seen a → step cfg sys first = some sys' →
        run (step cfg) sys' between = some last → Succeeds cfg last second seen' b → b.vmid = a.vmid →
        ∃ earlier op later t u, between = earlier ++ .write op :: later ∧ op.deletes = some a.vmid ∧
          run (step cfg) sys' earlier = some t ∧ step cfg t (.write op) = some u ∧
          (t.shared.store.get a.vmid).isSome ∧ u.shared.store.get a.vmid = none := by
  refine ⟨?_, ?_⟩
  · refine along_of_invariant (Sound cfg) (fun sys act sys' hsound _ hstep ↦ ?_) (fun _ hmem ↦ by cases hmem)
      (along_of_step fun _ _ _ _ ↦ trivial)
    exact ⟨fun seen a hsucceeds ↦ granted_of_succeeds hsound hstep hsucceeds, step_sound hsound hstep⟩
  · intro before first between second rest _ sys sys' last seen seen' a b _
      hfirst hstep hbetween hsecond hvmid
    -- the VMID has a row after the first success and none before the second
    have hrow : (sys'.shared.store.get a.vmid).isSome := by
      obtain ⟨row, hrowID, _, hstore⟩ := (store_of_succeeds hfirst).2 sys' hstep
      rw [hstore, ← hrowID, Table.get_put_self]
      rfl
    have hnone : ¬(last.shared.store.get a.vmid).isSome := by
      rw [← hvmid, (store_of_succeeds hsecond).1]
      simp
    obtain ⟨earlier, act, later, t, u, rfl, hearlier, hlost, ht, hu⟩ := exists_step_of_lost
      (P := fun sys : Sys ↦ (sys.shared.store.get a.vmid).isSome = true) hrow hnone hbetween
    have hu' : u.shared.store.get a.vmid = none := Option.not_isSome_iff_eq_none.mp hu
    obtain ⟨op, rfl, hdeletes⟩ := deletes_of_step hlost ht hu'
    exact ⟨earlier, op, later, t, u, rfl, hdeletes, hearlier, hlost, ht, hu'⟩

/-! ## The lock -/

section Lock

variable {request : Request} {p : Point} {after : Option Point}

/-- The allocation has the lock. -/
def Point.inside : Point → Bool
  | .lock => false
  | _ => true

/-- The steps that an allocation still takes at most: three for each VMID that is left, and the insert. -/
def Point.stepsLeft (cfg : Config) : Point → ℕ
  | .lock => 3 * (cfg.vmidRange.max + 1 - cfg.vmidRange.min) + 5
  | .scan => 3 * (cfg.vmidRange.max + 1 - cfg.vmidRange.min) + 4
  | .loop _ id => 3 * (cfg.vmidRange.max + 1 - id) + 3
  | .look _ id => 3 * (cfg.vmidRange.max - id) + 5
  | .judge _ id .. => 3 * (cfg.vmidRange.max - id) + 4
  | .evict .. => 3
  | .insert .. => 2
  | .unlock _ => 1

theorem advance_isSome (h : p.inside ∨ s.allocMu = false) : (advance cfg request input s p).isSome := by
  cases p with
  | lock => simpa [advance, Point.inside] using h
  | _ =>
    simp only [advance]
    (repeat' split) <;> rfl

/-- The lock goes with the allocation that takes it, on every way to its end. -/
theorem advance_lock (hheld : p.inside → s.allocMu) (h : advance cfg request input s p = some (s', after)) :
    (if s'.allocMu then 1 else 0) + (if p.inside then 1 else 0) =
      (if s.allocMu then 1 else 0) + after.toList.countP Point.inside := by
  cases p with
  | lock =>
    simp only [advance] at h
    split_ifs at h with hfree
    cases h
    simp [Point.inside, hfree]
  | unlock result =>
    cases h
    simp [Point.inside, hheld rfl]
  | _ =>
    simp only [advance] at h
    (repeat' split at h) <;> cases h <;> simp [Point.inside, Shared.commit]

theorem advance_stepsLeft (h : advance cfg request input s p = some (s', after)) :
    1 + (after.toList.map (Point.stepsLeft cfg)).sum ≤ p.stepsLeft cfg := by
  cases p with
  | loop seen id =>
    by_cases hmax : id ≤ cfg.vmidRange.max
    · have hwidth : cfg.vmidRange.max + 1 - id = cfg.vmidRange.max - id + 1 := Nat.succ_sub hmax
      simp only [advance, if_pos hmax] at h
      (repeat' split at h) <;> cases h <;> simp [Point.stepsLeft, hwidth] <;> omega
    · simp only [advance, if_neg hmax] at h
      cases h
      simp [Point.stepsLeft]
  | _ =>
    simp only [advance] at h
    (repeat' split at h) <;> cases h <;> simp [Point.stepsLeft] <;> omega

def Exclusive (sys : Sys) : Prop :=
  sys.threads.countP (fun thread ↦ thread.point.inside) = if sys.shared.allocMu then 1 else 0

def stepsLeft (cfg : Config) (sys : Sys) : ℕ := (sys.threads.map fun thread ↦ thread.point.stepsLeft cfg).sum

def Act.fires : Act → Bool
  | .fire .. => true
  | _ => false

def Act.dispatches : Act → Bool
  | .dispatch _ => true
  | _ => false

theorem Exclusive.step (h : Exclusive sys) (hstep : step cfg sys act = some sys') :
    Exclusive sys' ∧ (if act.fires then 1 else 0) + stepsLeft cfg sys' ≤
      stepsLeft cfg sys + if act.dispatches then Point.lock.stepsLeft cfg else 0 := by
  cases act with
  | dispatch request =>
    cases hstep
    simpa [Exclusive, Point.inside, stepsLeft, Act.fires, Act.dispatches] using h
  | fire i input =>
    obtain ⟨thread, shared, _, hthread, hnext, rfl⟩ := fire_eq_some.mp hstep
    obtain ⟨after, hadvance, rfl⟩ := next_eq_some.mp hnext
    have hheld (hinside : thread.point.inside) : sys.shared.allocMu := by
      by_contra hfree
      exact List.countP_eq_zero.mp (h.trans (if_neg hfree)) thread (List.mem_of_getElem? hthread) hinside
    have hlock := advance_lock hheld hadvance
    have hleft := advance_stepsLeft hadvance
    have hcount := countP_fire (fun thread ↦ thread.point.inside) hthread
      (after.toList.map fun point ↦ { thread with point := point })
    have hsum := sum_map_fire (fun thread ↦ thread.point.stepsLeft cfg) hthread
      (after.toList.map fun point ↦ { thread with point := point })
    rw [List.countP_map, h] at hcount
    rw [List.map_map] at hsum
    change _ = _ + (after.toList.map (Point.stepsLeft cfg)).sum at hsum
    refine ⟨Nat.add_right_cancel (hcount.trans hlock.symm), ?_⟩
    simp only [stepsLeft, Act.fires, Act.dispatches, if_true, Bool.false_eq_true, if_false]
    omega
  | write op =>
    obtain ⟨store, -, rfl⟩ := Option.map_eq_some_iff.mp hstep
    exact ⟨h, (Nat.zero_add _).le⟩
  | expire v =>
    simp only [Allocation.step] at hstep
    split at hstep <;> cases hstep
    exact ⟨h, (Nat.zero_add _).le⟩
  | settle | elapse =>
    cases hstep
    exact ⟨h, (Nat.zero_add _).le⟩

theorem Exclusive.run {acts : List Act} (h : Exclusive sys) (hrun : run (Allocation.step cfg) sys acts = some sys') :
    Exclusive sys' ∧ acts.countP Act.fires + stepsLeft cfg sys' ≤
      stepsLeft cfg sys + acts.countP Act.dispatches * Point.lock.stepsLeft cfg := by
  induction acts generalizing sys with
  | nil =>
    cases hrun
    simpa using h
  | cons act acts ih =>
    obtain ⟨t, ht, hrest⟩ := run_cons_eq_some.mp hrun
    obtain ⟨hexclusive, hact⟩ := h.step ht
    obtain ⟨hexclusive', hacts⟩ := ih hexclusive hrest
    rw [List.countP_cons, List.countP_cons, Nat.add_mul, ite_mul, Nat.one_mul, Nat.zero_mul]
    exact ⟨hexclusive', by omega⟩

theorem Exclusive.enabled (h : Exclusive sys) (hleft : sys.threads ≠ []) :
    ∃ i, ∀ input, (Allocation.step cfg sys (.fire i input)).isSome := by
  have hready : ∃ thread ∈ sys.threads, thread.point.inside ∨ sys.shared.allocMu = false := by
    by_cases hlock : sys.shared.allocMu = true
    · obtain ⟨thread, hmem, hinside⟩ := List.countP_pos_iff.mp (h.trans (if_pos hlock)).ge
      exact ⟨thread, hmem, .inl hinside⟩
    · exact ⟨_, List.head_mem hleft, .inr (Bool.eq_false_iff.mpr hlock)⟩
  obtain ⟨thread, hmem, hready⟩ := hready
  obtain ⟨i, hi⟩ := List.getElem?_of_mem hmem
  refine ⟨i, fun input ↦ ?_⟩
  simp only [Allocation.step, Concurrent.fire, hi, next, Option.isSome_map]
  exact advance_isSome hready

/-- For any number of clone dispatches, interleaved in any way with each other and with what goes on beside
them, from a lock that is free: the lock is held exactly while one allocation is between taking it and giving
it up; as long as allocations are left one of them can go on, whatever it is answered; and together they take
at most three steps for each VMID of the range, and five, for each dispatch. -/
theorem allocation_never_stuck (cfg : Config) (shared : Shared) (hfree : shared.allocMu = false)
    (acts : List Act) (sys : Sys) (hrun : run (step cfg) ⟨shared, []⟩ acts = some sys) :
    Exclusive sys ∧ (sys.threads ≠ [] → ∃ i, ∀ input, (step cfg sys (.fire i input)).isSome) ∧
      acts.countP Act.fires ≤ acts.countP Act.dispatches * Point.lock.stepsLeft cfg := by
  have hstart : Exclusive ⟨shared, []⟩ := by simp [Exclusive, hfree]
  obtain ⟨hexclusive, hfires⟩ := hstart.run hrun
  refine ⟨hexclusive, hexclusive.enabled, (Nat.le_add_right _ _).trans (hfires.trans ?_)⟩
  exact (Nat.zero_add _).le

/-- A clone of the default profile is dispatched. -/
def dispatchHot : Act := .dispatch ⟨smallPool.defaultProfile, .hot, "pve1"⟩

/-- Of two dispatches the first has the lock and has scanned the table. -/
theorem allocation_never_stuck_two :
    ∃ sys ∈ run (step smallPool) ⟨freshPool.shared, []⟩ [dispatchHot, dispatchHot, .fire 0 {}, .fire 1 {}],
      sys.shared.allocMu ∧ sys.threads.length = 2 ∧ Exclusive sys ∧
        ∃ i, ∀ input, (step smallPool sys (.fire i input)).isSome := by
  refine ⟨_, rfl, rfl, rfl, ?_⟩
  obtain ⟨hexclusive, henabled, _⟩ := allocation_never_stuck smallPool freshPool.shared rfl
    [dispatchHot, dispatchHot, .fire 0 {}, .fire 1 {}] _ rfl
  exact ⟨hexclusive, henabled (by simp)⟩

end Lock

end ScalesetProxmox.Pool.Allocation
