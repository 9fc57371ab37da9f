import ScalesetProxmox.Store.Schema
import ScalesetProxmox.Transition.Run

/-!
# Leadership coordinators

A coordinator turns leadership into callbacks: `OnElected` runs on its own goroutine with a context
that is cancelled when leadership is lost, `OnDeposed` is called once leadership is over. There are
two of them. `standalone` is leader from the start of `Run` to its end. The raft coordinator listens
to a channel of observations, takes each one as a wake-up and compares raft's current state with
the state it saw last.

A state holds what `Run` keeps in its variables, the goroutines it has started (one `Plane` for each
call of `OnElected`), and what raft does beside it: whether the replica is raft leader, in which of
its leaderships, and how many observations wait in the channel. The callbacks that have been made
are recorded in order.

* `terms_end_planes`: a context never outlives its leadership past a handled event, as long as each
  loss of leadership is handled before the replica is elected again. A loss and a re-election between
  two handled events go unnoticed (`flap_unnoticed`).
* `callbacks_alternate`: the callbacks alternate and are balanced when `Run` returns, unless the raft
  coordinator is shut down while it is leader (`shutdown_skips_deposed`).
* `Sole.move`: one plane at a time, as long as no wait for `OnElected` is cut short.
-/

namespace ScalesetProxmox.Cluster

open Store (Time)
open Transition

variable {i : ℕ}

/-- How far a goroutine that calls `OnElected` has got. -/
inductive Stage where
  | spawned
  | running
  | returned
  deriving DecidableEq, Repr

/-- An invocation of `OnElected`: the leadership of this replica it was spawned in, and whether its
own context has been cancelled. -/
structure Plane where
  term : ℕ
  stage : Stage := .spawned
  cancelled : Bool := false
  deriving DecidableEq, Repr

def Plane.cancel (p : Plane) : Plane := { p with cancelled := true }

def Plane.moveTo (stage : Stage) (p : Plane) : Plane := { p with stage := stage }

inductive Callback where
  | elected
  | deposed
  deriving DecidableEq, Repr

/-- Where `Run` is: at its select, waiting for `OnElected` after a loss, waiting for it at shutdown,
or back. -/
inductive Phase where
  | watching
  | deposing
  | reaping
  | stopped
  deriving DecidableEq, Repr

structure State where
  /-- The replica is raft leader, for the `term`-th time. -/
  raftLeader : Bool := false
  term : ℕ := 0
  /-- Observations waiting in the channel. -/
  pending : ℕ := 0
  /-- The context of `Run` is cancelled. -/
  ctxDone : Bool := false
  /-- The flag behind `IsLeader`. -/
  leader : Bool := false
  wasLeader : Bool := false
  /-- The plane whose context `leaderCancel` cancels. -/
  leaderCancel : Option ℕ := none
  phase : Phase := .watching
  planes : List Plane := []
  log : List Callback := []
  deriving DecidableEq, Repr

inductive Act where
  /-- Raft changes its state; the observation reaches the channel or is dropped. -/
  | raft (leader delivered : Bool)
  /-- Another observation arrives, of a leader elsewhere. -/
  | observe
  /-- `Run` takes an observation and handles it. -/
  | handle
  /-- The wait for `OnElected` ends because every plane has returned. -/
  | waited
  /-- The wait for `OnElected` ends because `onDeposeWait` is over. -/
  | timedOut
  /-- The goroutine of plane `i` calls `OnElected`. -/
  | enter (i : ℕ)
  /-- `OnElected` returns. -/
  | leave (i : ℕ)
  | cancelRun
  /-- `Run` sees that its context is done. -/
  | shutdown
  /-- `Run` returns. -/
  | stop
  deriving DecidableEq, Repr

namespace State

/-- The capacity of the observer channel. -/
def obsCap : ℕ := 16

/-- The observer does not block: with a full channel the observation is lost. -/
def observe (s : State) : State := { s with pending := min (s.pending + 1) obsCap }

/-- `leaderWG` has nothing to wait for. -/
def reaped (s : State) : Bool := s.planes.all (·.stage = .returned)

def cancelPlane (s : State) : State :=
  match s.leaderCancel with
  | some i => { s with planes := s.planes.modify i Plane.cancel }
  | none => s

/-- The body of `handle`, up to the wait for `OnElected`. -/
def handle (s : State) : State :=
  if s.raftLeader = s.wasLeader then s
  else if s.raftLeader then
    { s with
      wasLeader := true
      leader := true
      leaderCancel := some s.planes.length
      planes := s.planes ++ [{ term := s.term }] }
  else
    let lost := { s with wasLeader := false, leader := false }
    match s.leaderCancel with
    | some _ => { lost.cancelPlane with phase := .deposing }
    | none => { lost with log := s.log ++ [.deposed] }

/-- The end of `handle` after a loss. -/
def depose (s : State) : State :=
  { s with leaderCancel := none, phase := .watching, log := s.log ++ [.deposed] }

def enter (s : State) (i : ℕ) : State :=
  { s with planes := s.planes.modify i (Plane.moveTo .running), log := s.log ++ [.elected] }

def leave (s : State) (i : ℕ) : State :=
  { s with planes := s.planes.modify i (Plane.moveTo .returned) }

def stage (s : State) (i : ℕ) : Option Stage := s.planes[i]?.map (·.stage)

end State

/-- `raftCoord.Run` and the raft library beside it. -/
def raftStep (onDeposeWait : Time) (s : State) : Act → Option State
  | .raft leader delivered =>
    if leader = s.raftLeader then none
    else
      let changed := { s with raftLeader := leader, term := if leader then s.term + 1 else s.term }
      some (if delivered then changed.observe else changed)
  | .observe => some s.observe
  | .handle =>
    if s.phase = .watching ∧ 0 < s.pending then
      some { s with pending := s.pending - 1 }.handle
    else none
  | .waited => if s.phase = .deposing ∧ s.reaped then some s.depose else none
  | .timedOut => if s.phase = .deposing ∧ 0 < onDeposeWait then some s.depose else none
  | .enter i => if s.stage i = some .spawned then some (s.enter i) else none
  | .leave i => if s.stage i = some .running then some (s.leave i) else none
  | .cancelRun => some { s with ctxDone := true }
  | .shutdown =>
    if s.phase = .watching ∧ s.ctxDone then some { s.cancelPlane with phase := .reaping } else none
  | .stop => if s.phase = .reaping ∧ s.reaped then some { s with phase := .stopped } else none

/-- `standalone.Run`: after the context is done it waits for `OnElected` without a cap, calls
`OnDeposed`, and clears the flag on the way out. -/
def standaloneStep (s : State) : Act → Option State
  | .enter i => if s.stage i = some .spawned then some (s.enter i) else none
  | .leave i => if s.stage i = some .running then some (s.leave i) else none
  | .cancelRun => some { s with ctxDone := true }
  | .shutdown =>
    if s.phase = .watching ∧ s.ctxDone then some { s.cancelPlane with phase := .deposing } else none
  | .waited =>
    if s.phase = .deposing ∧ s.reaped then
      some { s with leaderCancel := none, phase := .reaping, log := s.log ++ [.deposed] }
    else none
  | .stop => if s.phase = .reaping then some { s with phase := .stopped, leader := false } else none
  | _ => none

inductive Coordinator where
  | standalone
  | raft (onDeposeWait : Time)

namespace Coordinator

def isRaft : Coordinator → Bool
  | .standalone => false
  | .raft _ => true

def step : Coordinator → State → Act → Option State
  | .standalone => standaloneStep
  | .raft onDeposeWait => raftStep onDeposeWait

/-- The state at the select of `Run`. Raft may have elected the replica before. -/
def start : Coordinator → Bool → State
  | .standalone, _ => { leader := true, leaderCancel := some 0, planes := [{ term := 0 }] }
  | .raft _, raftLeader => { raftLeader := raftLeader }

end Coordinator

/-! ## What a step of the raft coordinator can do -/

variable {wait : Time} {s s' : State} {a : Act}

inductive RaftMove (wait : Time) (s : State) : Act → State → Prop
  | raft (leader delivered : Bool) (pending : ℕ) (hne : leader ≠ s.raftLeader) :
    RaftMove wait s (.raft leader delivered)
      { s with
        raftLeader := leader, term := if leader then s.term + 1 else s.term, pending := pending }
  | observe (pending : ℕ) : RaftMove wait s .observe { s with pending := pending }
  | same (pending : ℕ) (hphase : s.phase = .watching) (heq : s.raftLeader = s.wasLeader) :
    RaftMove wait s .handle { s with pending := pending }
  | gained (pending : ℕ) (hphase : s.phase = .watching) (hraft : s.raftLeader = true)
      (hwas : s.wasLeader = false) :
    RaftMove wait s .handle
      { s with
        pending := pending
        wasLeader := true
        leader := true
        leaderCancel := some s.planes.length
        planes := s.planes ++ [{ term := s.term }] }
  | lost (pending i : ℕ) (hphase : s.phase = .watching) (hraft : s.raftLeader = false)
      (hwas : s.wasLeader = true) (hcancel : s.leaderCancel = some i) :
    RaftMove wait s .handle
      { s with
        pending := pending
        wasLeader := false
        leader := false
        planes := s.planes.modify i Plane.cancel
        phase := .deposing }
  | lostUnspawned (pending : ℕ) (hphase : s.phase = .watching) (hraft : s.raftLeader = false)
      (hwas : s.wasLeader = true) (hcancel : s.leaderCancel = none) :
    RaftMove wait s .handle
      { s with
        pending := pending, wasLeader := false, leader := false, log := s.log ++ [.deposed] }
  | waited (hphase : s.phase = .deposing) (hreaped : s.reaped = true) :
    RaftMove wait s .waited s.depose
  | timedOut (hphase : s.phase = .deposing) (hwait : 0 < wait) : RaftMove wait s .timedOut s.depose
  | enter (i : ℕ) (hstage : s.stage i = some .spawned) : RaftMove wait s (.enter i) (s.enter i)
  | leave (i : ℕ) (hstage : s.stage i = some .running) : RaftMove wait s (.leave i) (s.leave i)
  | cancelRun : RaftMove wait s .cancelRun { s with ctxDone := true }
  | shutdown (hphase : s.phase = .watching) (hdone : s.ctxDone = true) :
    RaftMove wait s .shutdown { s.cancelPlane with phase := .reaping }
  | stop (hphase : s.phase = .reaping) (hreaped : s.reaped = true) :
    RaftMove wait s .stop { s with phase := .stopped }

theorem raftMove_of_handle (h : raftStep wait s .handle = some s') : RaftMove wait s .handle s' := by
  obtain ⟨⟨hphase, -⟩, rfl⟩ : (s.phase = .watching ∧ 0 < s.pending) ∧
      { s with pending := s.pending - 1 }.handle = s' := by
    simpa [raftStep, Option.ite_none_right_eq_some] using h
  by_cases hsame : s.raftLeader = s.wasLeader
  · simpa [State.handle, hsame] using RaftMove.same (s.pending - 1) hphase hsame
  cases hraft : s.raftLeader with
  | true =>
    have hwas : s.wasLeader = false := by simpa [hraft] using Ne.symm hsame
    simpa [State.handle, hraft, hwas] using RaftMove.gained (s.pending - 1) hphase hraft hwas
  | false =>
    have hwas : s.wasLeader := by simpa [hraft] using Ne.symm hsame
    cases hcancel : s.leaderCancel with
    | some i =>
      simpa [State.handle, State.cancelPlane, hraft, hwas, hcancel] using
        RaftMove.lost (s.pending - 1) i hphase hraft hwas hcancel
    | none =>
      simpa [State.handle, hraft, hwas, hcancel] using
        RaftMove.lostUnspawned (s.pending - 1) hphase hraft hwas hcancel

theorem raftMove_of_step (h : raftStep wait s a = some s') : RaftMove wait s a s' := by
  cases a with
  | raft leader delivered =>
    obtain ⟨hne, rfl⟩ : leader ≠ s.raftLeader ∧ _ := by
      simpa [raftStep, Option.ite_none_left_eq_some] using h
    cases delivered
    · exact .raft leader false s.pending hne
    · exact .raft leader true _ hne
  | observe =>
    obtain rfl : s.observe = s' := by simpa [raftStep] using h
    exact .observe _
  | handle => exact raftMove_of_handle h
  | waited | timedOut | shutdown | stop =>
    obtain ⟨⟨hphase, hguard⟩, ⟨⟩⟩ := Option.ite_none_right_eq_some.mp h
    constructor
    · exact hphase
    · exact hguard
  | enter i | leave i =>
    obtain ⟨hstage, ⟨⟩⟩ := Option.ite_none_right_eq_some.mp h
    constructor
    exact hstage
  | cancelRun =>
    obtain rfl : { s with ctxDone := true } = s' := by simpa [raftStep] using h
    exact .cancelRun

/-! ## Every loss of leadership ends the plane -/

/-- The replica is elected only after its last loss has been handled. -/
def ElectionsHandled (s : State) (a : Act) (_ : State) : Prop :=
  ∀ delivered, a = .raft true delivered → s.wasLeader = false

instance (s : State) (a : Act) (s' : State) : Decidable (ElectionsHandled s a s') :=
  inferInstanceAs (Decidable (∀ delivered, a = .raft true delivered → s.wasLeader = false))

/-- Once an event has been handled, a context that is still alive belongs to the leadership that
the replica holds. -/
def ServesOwnTerm (_ : State) (a : Act) (s' : State) : Prop :=
  a = .handle → ∀ p ∈ s'.planes, p.cancelled = false → s'.ctxDone = false →
    s'.raftLeader = true ∧ p.term = s'.term

instance (s : State) (a : Act) (s' : State) : Decidable (ServesOwnTerm s a s') :=
  inferInstanceAs (Decidable (a = .handle → ∀ p ∈ s'.planes, p.cancelled = false →
    s'.ctxDone = false → s'.raftLeader = true ∧ p.term = s'.term))

/-- The one context that may be alive is that of the leadership the coordinator knows of. -/
structure Current (s : State) : Prop where
  live : ∀ i p, s.planes[i]? = some p → p.cancelled = false →
    s.leaderCancel = some i ∧ s.wasLeader = true ∧ p.term = s.term
  deposing : s.phase = .deposing → s.wasLeader = false

variable {p : Plane}

theorem getElem?_modify_eq_some {planes : List Plane} {f : Plane → Plane} {j : ℕ} :
    (planes.modify i f)[j]? = some p ↔
      ∃ old, planes[j]? = some old ∧ (if i = j then f old else old) = p := by
  rw [List.getElem?_modify]
  exact Option.map_eq_some_iff

theorem getElem?_modify_moveTo {planes : List Plane} {j : ℕ} {stage : Stage}
    (h : (planes.modify i (Plane.moveTo stage))[j]? = some p) :
    ∃ old, planes[j]? = some old ∧ p.cancelled = old.cancelled ∧ p.term = old.term := by
  obtain ⟨old, hold, rfl⟩ := getElem?_modify_eq_some.mp h
  refine ⟨old, hold, ?_⟩
  split <;> exact ⟨rfl, rfl⟩

theorem Current.modify_moveTo (h : Current s) (i : ℕ) (stage : Stage) (log : List Callback) :
    Current { s with planes := s.planes.modify i (Plane.moveTo stage), log := log } := by
  refine ⟨fun j p hp hlive ↦ ?_, h.deposing⟩
  obtain ⟨old, hold, hcancelled, hterm⟩ := getElem?_modify_moveTo hp
  obtain ⟨hi, hwas, hsame⟩ := h.live j old hold (hcancelled ▸ hlive)
  exact ⟨hi, hwas, hterm.trans hsame⟩

theorem Current.cancelled (h : Current s) (hcancel : s.leaderCancel = some i)
    (hp : p ∈ s.planes.modify i Plane.cancel) : p.cancelled = true := by
  obtain ⟨j, hj⟩ := List.mem_iff_getElem?.mp hp
  obtain ⟨old, hold, rfl⟩ := getElem?_modify_eq_some.mp hj
  split
  · rfl
  · next hne =>
    by_contra hlive
    have hcurrent := (h.live j old hold (Bool.eq_false_iff.mpr hlive)).1
    exact hne (Option.some.inj (hcancel.symm.trans hcurrent))

/-- A coordinator that knows of no leadership has cancelled every context. -/
theorem Current.cancelled_of_not_wasLeader (h : Current s) (hwas : s.wasLeader = false)
    (hp : s.planes[i]? = some p) : p.cancelled = true := by
  by_contra hlive
  have := (h.live i p hp (Bool.eq_false_iff.mpr hlive)).2.1
  simp [hwas] at this

theorem Current.cancelPlane (h : Current s) : Current { s.cancelPlane with phase := .reaping } := by
  unfold State.cancelPlane
  cases hcancel : s.leaderCancel with
  | none => exact ⟨h.live, fun hphase ↦ by cases hphase⟩
  | some i =>
    refine ⟨fun j p hp hlive ↦ ?_, fun hphase ↦ by cases hphase⟩
    simp [h.cancelled hcancel (List.mem_of_getElem? hp)] at hlive

theorem Current.depose (h : Current s) (hphase : s.phase = .deposing) : Current s.depose := by
  refine ⟨fun i p hp hlive ↦ ?_, fun h ↦ by cases h⟩
  simp [h.cancelled_of_not_wasLeader (h.deposing hphase) hp] at hlive

/-- The planes after a gain: the earlier ones are all cancelled, so the new one alone is alive. -/
theorem Current.gained (h : Current s) (hwas : s.wasLeader = false)
    (hp : (s.planes ++ [{ term := s.term }])[i]? = some p) (hlive : p.cancelled = false) :
    i = s.planes.length ∧ p.term = s.term := by
  rw [List.getElem?_append] at hp
  split at hp
  · simp [h.cancelled_of_not_wasLeader hwas hp] at hlive
  · next hge =>
    rw [List.getElem?_singleton] at hp
    split at hp
    · cases hp
      exact ⟨by omega, rfl⟩
    · cases hp

theorem Current.move (h : Current s) (hhandled : ElectionsHandled s a s')
    (hmove : RaftMove wait s a s') : Current s' := by
  cases hmove with
  | raft leader delivered pending hne =>
    refine ⟨fun i p hp hlive ↦ ?_, h.deposing⟩
    obtain ⟨hi, hwas, hterm⟩ := h.live i p hp hlive
    cases leader with
    | true => exact absurd hwas (by simp [hhandled delivered rfl])
    | false => exact ⟨hi, hwas, hterm⟩
  | observe | same | cancelRun => exact ⟨h.live, h.deposing⟩
  | gained pending hphase hraft hwas =>
    refine ⟨fun i p hp hlive ↦ ?_, fun hdeposing ↦ by simp [hphase] at hdeposing⟩
    obtain ⟨rfl, hterm⟩ := h.gained hwas hp hlive
    exact ⟨rfl, rfl, hterm⟩
  | lost pending i hphase hraft hwas hcancel =>
    refine ⟨fun j p hp hlive ↦ ?_, fun _ ↦ rfl⟩
    simp [h.cancelled hcancel (List.mem_of_getElem? hp)] at hlive
  | lostUnspawned pending hphase hraft hwas hcancel =>
    refine ⟨fun i p hp hlive ↦ ?_, fun _ ↦ rfl⟩
    have := (h.live i p hp hlive).1
    simp [hcancel] at this
  | waited hphase | timedOut hphase => exact h.depose hphase
  | enter i | leave i => exact h.modify_moveTo i _ _
  | shutdown => exact h.cancelPlane
  | stop => exact ⟨h.live, fun hphase ↦ by cases hphase⟩

theorem Current.servesOwnTerm (h : Current s') (hmove : RaftMove wait s a s') :
    ServesOwnTerm s a s' := by
  rintro rfl p hp hlive -
  obtain ⟨i, hi⟩ := List.mem_iff_getElem?.mp hp
  obtain ⟨-, hwas, hterm⟩ := h.live i p hi hlive
  refine ⟨?_, hterm⟩
  cases hmove with
  | same pending hphase heq => exact heq.trans hwas
  | gained pending hphase hraft => exact hraft
  | lost | lostUnspawned => cases hwas

/-- As long as every loss of leadership is handled before the replica is elected again, a context
that is alive after a handled event belongs to the leadership the replica holds. -/
theorem terms_end_planes (wait : Time) (raftLeader : Bool) (labels : List Act)
    (hhandled : Along (raftStep wait) ElectionsHandled ((Coordinator.raft wait).start raftLeader)
      labels) :
    Along (raftStep wait) ServesOwnTerm ((Coordinator.raft wait).start raftLeader) labels := by
  refine along_of_invariant Current ?_ ⟨by simp [Coordinator.start], fun h ↦ by cases h⟩ hhandled
  intro s a s' hcurrent hhandled hstep
  have hmove := raftMove_of_step hstep
  have hafter := hcurrent.move hhandled hmove
  exact ⟨hafter.servesOwnTerm hmove, hafter⟩

/-- Two leaderships with a handled loss between them. -/
theorem terms_end_planes_twice :
    Along (raftStep 1) ServesOwnTerm ((Coordinator.raft 1).start false)
      [.raft true true, .handle, .enter 0, .raft false true, .handle, .leave 0, .waited,
        .raft true true, .handle, .enter 1] :=
  terms_end_planes 1 false _ (by decide)

/-- The replica is elected, loses leadership to another replica and is elected again before the
coordinator gets to the next observation: each handled event finds the state it knows, and the
context of the first leadership stays alive in the second. -/
theorem flap_unnoticed :
    ∃ s, run (raftStep 1) ((Coordinator.raft 1).start false)
        [.raft true true, .handle, .enter 0, .raft false true, .observe, .raft true true,
          .handle, .handle, .handle] = some s ∧
      s.raftLeader = true ∧ s.term = 2 ∧ s.pending = 0 ∧ s.ctxDone = false ∧
      s.planes = [{ term := 1, stage := .running, cancelled := false }] ∧
      ¬Along (raftStep 1) ServesOwnTerm ((Coordinator.raft 1).start false)
        [.raft true true, .handle, .enter 0, .raft false true, .observe, .raft true true, .handle] := by
  exact ⟨_, rfl, by decide⟩

/-! ## The callbacks alternate -/

/-- One more callback on a log that has alternated so far; the value says whether an `OnElected` is
without its `OnDeposed`. -/
def Callback.follow : Option Bool → Callback → Option Bool
  | some false, .elected => some true
  | some true, .deposed => some false
  | _, _ => none

/-- Whether the log ends within a leadership, if it alternates beginning with `OnElected`. -/
def follows (log : List Callback) : Option Bool := log.foldl Callback.follow (some false)

theorem follows_concat (log : List Callback) (c : Callback) :
    follows (log ++ [c]) = Callback.follow (follows log) c := by
  simp [follows]

/-- `OnElected` starts and `OnDeposed` calls alternate; when `Run` is back they are balanced and the
replica does not claim to be leader. -/
structure Alternates (s : State) : Prop where
  alternate : (follows s.log).isSome
  balanced : s.phase = .stopped → follows s.log = some false ∧ s.leader = false

/-- The raft coordinator is not shut down while it is leader, and where its wait for `OnElected` is
cut short, `OnElected` has at least been called. -/
def Orderly (coordinator : Coordinator) (s : State) (a : Act) (_ : State) : Prop :=
  coordinator.isRaft = true → (a = .shutdown → s.wasLeader = false) ∧
    (a = .timedOut → ∀ p ∈ s.planes, p.stage ≠ .spawned)

instance (coordinator : Coordinator) (s : State) (a : Act) (s' : State) :
    Decidable (Orderly coordinator s a s') :=
  inferInstanceAs (Decidable (coordinator.isRaft = true → (a = .shutdown → s.wasLeader = false) ∧
    (a = .timedOut → ∀ p ∈ s.planes, p.stage ≠ .spawned)))

/-- The current plane has called `OnElected`. -/
def State.started (s : State) : Bool :=
  (s.leaderCancel.bind s.stage).any (· ≠ .spawned)

/-- Only the current plane can have yet to call `OnElected`, and the log says what it has done. -/
structure Tracked (s : State) : Prop where
  current : ∀ i, s.leaderCancel = some i → (s.stage i).isSome
  spawned : ∀ i, s.stage i = some .spawned → s.leaderCancel = some i
  log : follows s.log = some s.started

theorem State.stage_enter (s : State) (i j : ℕ) :
    (s.enter i).stage j = if i = j then (s.stage j).map fun _ ↦ .running else s.stage j := by
  simp only [State.enter, State.stage, List.getElem?_modify]
  cases s.planes[j]? with
  | none => simp
  | some p => split <;> simp [*, Plane.moveTo]

theorem State.stage_leave (s : State) (i j : ℕ) :
    (s.leave i).stage j = if i = j then (s.stage j).map fun _ ↦ .returned else s.stage j := by
  simp only [State.leave, State.stage, List.getElem?_modify]
  cases s.planes[j]? with
  | none => simp
  | some p => split <;> simp [*, Plane.moveTo]

theorem State.stage_modify_cancel (s : State) (i j : ℕ) :
    (s.planes.modify i Plane.cancel)[j]?.map (·.stage) = s.stage j := by
  rw [List.getElem?_modify, State.stage]
  cases s.planes[j]? with
  | none => rfl
  | some p => by_cases h : i = j <;> simp [h, Plane.cancel]

@[simp]
theorem State.stage_cancelPlane (s : State) (j : ℕ) : s.cancelPlane.stage j = s.stage j := by
  unfold State.cancelPlane
  split
  · exact s.stage_modify_cancel _ j
  · rfl

theorem State.cancelPlane_eq (s : State) : ∃ planes, s.cancelPlane = { s with planes := planes } := by
  unfold State.cancelPlane
  split
  · exact ⟨_, rfl⟩
  · exact ⟨s.planes, rfl⟩

theorem State.not_spawned_of_reaped (h : s.reaped) (i : ℕ) : s.stage i ≠ some .spawned := by
  intro hstage
  obtain ⟨p, hp, hspawned⟩ := Option.map_eq_some_iff.mp hstage
  have := List.all_eq_true.mp h p (List.mem_of_getElem? hp)
  simp [hspawned] at this

namespace Tracked

/-- The parts of a state that matter. -/
theorem congr (h : Tracked s) (hcancel : s'.leaderCancel = s.leaderCancel)
    (hstage : ∀ i, s'.stage i = s.stage i) (hlog : s'.log = s.log) : Tracked s' where
  current i hi := hstage i ▸ h.current i (hcancel ▸ hi)
  spawned i hi := hcancel ▸ h.spawned i (hstage i ▸ hi)
  log := by
    have hsame : s'.stage = s.stage := funext hstage
    rw [hlog, h.log, State.started, State.started, hcancel, hsame]

theorem enter (h : Tracked s) (hstage : s.stage i = some .spawned) : Tracked (s.enter i) := by
  have hcurrent : s.leaderCancel = some i := h.spawned i hstage
  have hstarted : s.started = false := by simp [State.started, hcurrent, hstage]
  refine ⟨fun j hj ↦ ?_, fun j hj ↦ ?_, ?_⟩
  · rw [State.stage_enter]
    have := h.current j hj
    split <;> simpa using this
  · rw [State.stage_enter] at hj
    split at hj
    · next heq => exact heq ▸ hcurrent
    · exact h.spawned j hj
  · have hafter : (s.enter i).started := by
      show (s.leaderCancel.bind (s.enter i).stage).any _ = true
      simp [hcurrent, State.stage_enter, hstage]
    rw [hafter]
    show follows (s.log ++ [.elected]) = some true
    rw [follows_concat, h.log, hstarted]
    rfl

theorem leave (h : Tracked s) (hstage : s.stage i = some .running) : Tracked (s.leave i) := by
  refine ⟨fun j hj ↦ ?_, fun j hj ↦ ?_, ?_⟩
  · rw [State.stage_leave]
    have := h.current j hj
    split <;> simpa using this
  · rw [State.stage_leave] at hj
    split at hj
    · simp at hj
    · exact h.spawned j hj
  · have hafter : (s.leave i).started = s.started := by
      show (s.leaderCancel.bind (s.leave i).stage).any _ = (s.leaderCancel.bind s.stage).any _
      cases s.leaderCancel with
      | none => rfl
      | some j =>
        simp only [Option.bind_some, State.stage_leave]
        split
        · next heq => simp [← heq, hstage]
        · rfl
    rw [hafter]
    exact h.log

/-- A current plane that has called `OnElected` can be deposed. -/
theorem depose (h : Tracked s) (hcurrent : s.leaderCancel.isSome)
    (hnone : ∀ i, s.stage i ≠ some .spawned) (hcancel : s'.leaderCancel = none)
    (hplanes : s'.planes = s.planes) (hlog : s'.log = s.log ++ [.deposed]) : Tracked s' := by
  have hstarted : s.started := by
    obtain ⟨i, hi⟩ := Option.isSome_iff_exists.mp hcurrent
    obtain ⟨stage, hstage⟩ := Option.isSome_iff_exists.mp (h.current i hi)
    have hne : stage ≠ .spawned := fun heq ↦ hnone i (heq ▸ hstage)
    simp [State.started, hi, hstage, hne]
  refine ⟨fun i hi ↦ ?_, fun i hi ↦ ?_, ?_⟩
  · simp [hcancel] at hi
  · rw [State.stage, hplanes] at hi
    exact absurd hi (hnone i)
  · rw [hlog, follows_concat, h.log, hstarted, State.started, hcancel]
    rfl

/-- Without a leadership nothing is left to start, and the next plane can be spawned. -/
theorem gained (h : Tracked s) (hcurrent : s.leaderCancel = none)
    (hcancel : s'.leaderCancel = some s.planes.length)
    (hplanes : s'.planes = s.planes ++ [{ term := s.term }]) (hlog : s'.log = s.log) :
    Tracked s' := by
  have hnew : s'.stage s.planes.length = some .spawned := by simp [State.stage, hplanes]
  refine ⟨fun i hi ↦ ?_, fun i hi ↦ ?_, ?_⟩
  · obtain rfl : s.planes.length = i := by simpa [hcancel] using hi
    simp [hnew]
  · rw [State.stage, hplanes, List.getElem?_append] at hi
    split at hi
    · have := h.spawned i hi
      simp [hcurrent] at this
    · next hge =>
      rw [List.getElem?_singleton] at hi
      split at hi
      · rw [hcancel, show i = s.planes.length by omega]
      · simp at hi
  · rw [hlog, h.log]
    simp [State.started, hcancel, hcurrent, hnew]

end Tracked

/-- The raft coordinator's variables beside its callbacks. -/
structure RaftBalanced (s : State) : Prop extends Tracked s where
  flag : s.leader = s.wasLeader
  inTerm : s.leaderCancel.isSome ↔ s.wasLeader = true ∨ s.phase = .deposing
  known : s.wasLeader = true → s.phase = .watching

namespace RaftBalanced

theorem not_wasLeader (h : RaftBalanced s) (hphase : s.phase ≠ .watching) : s.wasLeader = false :=
  Bool.eq_false_iff.mpr fun hwas ↦ hphase (h.known hwas)

theorem depose (h : RaftBalanced s) (hphase : s.phase = .deposing)
    (hnone : ∀ i, s.stage i ≠ some .spawned) : RaftBalanced s.depose where
  toTracked := h.toTracked.depose (h.inTerm.mpr (.inr hphase)) hnone rfl rfl rfl
  flag := h.flag
  inTerm := by simp [State.depose, h.not_wasLeader (by simp [hphase])]
  known _ := rfl

theorem move (h : RaftBalanced s) (horderly : Orderly (.raft wait) s a s')
    (hmove : RaftMove wait s a s') : RaftBalanced s' := by
  cases hmove with
  | raft | observe | same | cancelRun =>
    exact ⟨h.toTracked.congr rfl (fun _ ↦ rfl) rfl, h.flag, h.inTerm, h.known⟩
  | gained pending hphase hraft hwas =>
    have hcancel : s.leaderCancel = none := by simpa [hphase, hwas] using h.inTerm
    exact ⟨h.toTracked.gained hcancel rfl rfl rfl, rfl, by simp, fun _ ↦ hphase⟩
  | lost pending i hphase hraft hwas hcancel =>
    have hstage := fun j ↦ s.stage_modify_cancel i j
    exact ⟨h.toTracked.congr rfl hstage rfl, rfl, by simp [hcancel], fun h ↦ by cases h⟩
  | lostUnspawned pending hphase hraft hwas hcancel =>
    have := h.inTerm.mpr (.inl hwas)
    simp [hcancel] at this
  | waited hphase hreaped => exact h.depose hphase (State.not_spawned_of_reaped hreaped)
  | timedOut hphase hwait =>
    refine h.depose hphase fun i hi ↦ ?_
    obtain ⟨p, hp, hspawned⟩ := Option.map_eq_some_iff.mp hi
    exact (horderly rfl).2 rfl p (List.mem_of_getElem? hp) hspawned
  | enter i hstage => exact ⟨h.toTracked.enter hstage, h.flag, h.inTerm, h.known⟩
  | leave i hstage => exact ⟨h.toTracked.leave hstage, h.flag, h.inTerm, h.known⟩
  | shutdown hphase hdone =>
    have hwas : s.wasLeader = false := (horderly rfl).1 rfl
    have hcancel : s.leaderCancel = none := by simpa [hphase, hwas] using h.inTerm
    have hsame : s.cancelPlane = s := by simp [State.cancelPlane, hcancel]
    rw [hsame]
    exact ⟨h.toTracked.congr rfl (fun _ ↦ rfl) rfl, h.flag, by simp [hcancel, hwas], by simp [hwas]⟩
  | stop hphase hreaped =>
    have hwas : s.wasLeader = false := h.not_wasLeader (by simp [hphase])
    have hcancel : s.leaderCancel = none := by simpa [hphase, hwas] using h.inTerm
    exact ⟨h.toTracked.congr rfl (fun _ ↦ rfl) rfl, h.flag, by simp [hcancel, hwas], by simp [hwas]⟩

theorem alternates (h : RaftBalanced s) : Alternates s := by
  refine ⟨by simp [h.log], fun hphase ↦ ?_⟩
  have hwas : s.wasLeader = false := h.not_wasLeader (by simp [hphase])
  have hcancel : s.leaderCancel = none := by simpa [hphase, hwas] using h.inTerm
  exact ⟨by simp [h.log, State.started, hcancel], h.flag.trans hwas⟩

end RaftBalanced

/-- The standalone coordinator: `OnDeposed` comes between the wait and the return. -/
structure StandaloneBalanced (s : State) : Prop extends Tracked s where
  inTerm : s.leaderCancel.isSome ↔ s.phase = .watching ∨ s.phase = .deposing
  flag : s.phase = .stopped → s.leader = false

namespace StandaloneBalanced

theorem step (h : StandaloneBalanced s) (hstep : standaloneStep s a = some s') :
    StandaloneBalanced s' := by
  cases a with
  | raft | observe | handle | timedOut => cases hstep
  | enter i =>
    obtain ⟨hstage, ⟨⟩⟩ := Option.ite_none_right_eq_some.mp hstep
    exact ⟨h.toTracked.enter hstage, h.inTerm, h.flag⟩
  | leave i =>
    obtain ⟨hstage, ⟨⟩⟩ := Option.ite_none_right_eq_some.mp hstep
    exact ⟨h.toTracked.leave hstage, h.inTerm, h.flag⟩
  | cancelRun =>
    cases hstep
    exact ⟨h.toTracked.congr rfl (fun _ ↦ rfl) rfl, h.inTerm, h.flag⟩
  | shutdown =>
    obtain ⟨⟨hphase, -⟩, ⟨⟩⟩ := Option.ite_none_right_eq_some.mp hstep
    have hcurrent : s.leaderCancel.isSome := h.inTerm.mpr (.inl hphase)
    have hstage := s.stage_cancelPlane
    obtain ⟨planes, hplanes⟩ := s.cancelPlane_eq
    rw [hplanes] at hstage ⊢
    exact ⟨h.toTracked.congr rfl hstage rfl, by simpa using hcurrent, by simp⟩
  | waited =>
    obtain ⟨⟨hphase, hreaped⟩, ⟨⟩⟩ := Option.ite_none_right_eq_some.mp hstep
    have hnone := State.not_spawned_of_reaped hreaped
    exact ⟨h.toTracked.depose (h.inTerm.mpr (.inr hphase)) hnone rfl rfl rfl, by simp, by simp⟩
  | stop =>
    obtain ⟨hphase, ⟨⟩⟩ := Option.ite_none_right_eq_some.mp hstep
    have hcancel : s.leaderCancel = none := by simpa [hphase] using h.inTerm
    exact ⟨h.toTracked.congr rfl (fun _ ↦ rfl) rfl, by simp [hcancel], by simp⟩

theorem alternates (h : StandaloneBalanced s) : Alternates s := by
  refine ⟨by simp [h.log], fun hphase ↦ ⟨?_, h.flag hphase⟩⟩
  have hcancel : s.leaderCancel = none := by simpa [hphase] using h.inTerm
  simp [h.log, State.started, hcancel]

end StandaloneBalanced

/-- In every run of either coordinator whose steps are all orderly, the callbacks alternate
beginning with `OnElected`, and when `Run` is back each `OnElected` has had its `OnDeposed` and
`IsLeader` is false. The standalone coordinator has no other runs. -/
theorem callbacks_alternate (coordinator : Coordinator) (raftLeader : Bool) (labels : List Act)
    (s : State)
    (horderly : Along coordinator.step (Orderly coordinator) (coordinator.start raftLeader) labels)
    (hrun : run coordinator.step (coordinator.start raftLeader) labels = some s) : Alternates s := by
  cases coordinator with
  | standalone =>
    refine StandaloneBalanced.alternates (invariant_of_along StandaloneBalanced
      (fun _ _ _ h _ hstep ↦ h.step hstep) ?_ horderly hrun)
    refine ⟨⟨?_, ?_, rfl⟩, by simp [Coordinator.start], by simp [Coordinator.start]⟩
    · simp [Coordinator.start, State.stage]
    · intro i hi
      have hlt := (List.getElem?_eq_some_iff.mp (Option.map_eq_some_iff.mp hi).choose_spec.1).1
      simp [Coordinator.start] at hlt ⊢
      exact hlt.symm
  | raft wait =>
    have hstep : ∀ s a t, RaftBalanced s → Orderly (.raft wait) s a t →
        raftStep wait s a = some t → RaftBalanced t :=
      fun _ _ _ h horderly hstep ↦ h.move horderly (raftMove_of_step hstep)
    refine RaftBalanced.alternates (invariant_of_along RaftBalanced hstep ?_ horderly hrun)
    exact ⟨⟨by simp [Coordinator.start], by simp [Coordinator.start, State.stage], rfl⟩, rfl,
      by simp [Coordinator.start], by simp [Coordinator.start]⟩

/-- Two leaderships, the first with a wait that is cut short, and a shutdown after them. -/
theorem callbacks_alternate_twice :
    ∃ s, run (Coordinator.raft 1).step ((Coordinator.raft 1).start false)
        [.raft true true, .handle, .enter 0, .raft false true, .handle, .timedOut, .raft true true,
          .handle, .enter 1, .leave 0, .raft false true, .handle, .leave 1, .waited, .cancelRun,
          .shutdown, .stop] = some s ∧
      s.phase = .stopped ∧ s.log = [.elected, .deposed, .elected, .deposed] ∧ Alternates s := by
  refine ⟨_, rfl, rfl, rfl, ?_⟩
  exact callbacks_alternate (.raft 1) false
    [.raft true true, .handle, .enter 0, .raft false true, .handle, .timedOut, .raft true true,
      .handle, .enter 1, .leave 0, .raft false true, .handle, .leave 1, .waited, .cancelRun,
      .shutdown, .stop] _ (by decide) rfl

/-- A raft coordinator whose context is cancelled while it is leader waits for `OnElected` and
returns: `OnDeposed` is not called and `IsLeader` stays true. -/
theorem shutdown_skips_deposed :
    ∃ s, run (Coordinator.raft 1).step ((Coordinator.raft 1).start false)
        [.raft true true, .handle, .enter 0, .cancelRun, .shutdown, .leave 0, .stop] = some s ∧
      s.phase = .stopped ∧ s.log = [.elected] ∧ s.leader = true ∧ ¬Alternates s :=
  ⟨_, rfl, rfl, rfl, rfl, fun h ↦ absurd (h.balanced rfl).2 (by decide)⟩

/-! ## One plane at a time -/

/-- A plane that has not returned is the current one. -/
structure Sole (s : State) : Prop where
  unreturned : ∀ i stage, s.stage i = some stage → stage ≠ .returned → s.leaderCancel = some i
  inTerm : s.leaderCancel.isSome → s.wasLeader = true ∨ s.phase ≠ .watching
  current : s.wasLeader = true → s.leaderCancel.isSome
  known : s.phase = .deposing → s.wasLeader = false

namespace Sole

theorem start (wait : Time) (raftLeader : Bool) : Sole ((Coordinator.raft wait).start raftLeader) :=
  ⟨by simp [Coordinator.start, State.stage], by simp [Coordinator.start], by simp [Coordinator.start],
    by simp [Coordinator.start]⟩

theorem unique (h : Sole s) {j : ℕ} {a b : Stage} (hi : s.stage i = some a) (ha : a ≠ .returned)
    (hj : s.stage j = some b) (hb : b ≠ .returned) : i = j :=
  Option.some.inj ((h.unreturned i a hi ha).symm.trans (h.unreturned j b hj hb))

/-- With no leadership known, every plane has returned. -/
theorem returned (h : Sole s) (hphase : s.phase = .watching) (hwas : s.wasLeader = false) {stage : Stage}
    (hi : s.stage i = some stage) : stage = .returned := by
  by_contra hne
  have hcancel := h.inTerm (by simp [h.unreturned i stage hi hne])
  simp [hphase, hwas] at hcancel

theorem returned_of_reaped (h : s.reaped) {stage : Stage} (hi : s.stage i = some stage) :
    stage = .returned := by
  obtain ⟨p, hp, rfl⟩ := Option.map_eq_some_iff.mp hi
  exact of_decide_eq_true (List.all_eq_true.mp h p (List.mem_of_getElem? hp))

/-- Unless the wait for `OnElected` is cut short, at most one plane has yet to return. -/
theorem move (h : Sole s) (hmove : RaftMove wait s a s') (hwaits : a ≠ .timedOut) : Sole s' := by
  cases hmove with
  | raft | observe | same | cancelRun => exact ⟨h.unreturned, h.inTerm, h.current, h.known⟩
  | gained pending hphase hraft hwas =>
    refine ⟨fun i stage hi hne ↦ ?_, fun _ ↦ .inl rfl, fun _ ↦ rfl, by simp [hphase]⟩
    rw [State.stage, List.getElem?_append] at hi
    split at hi
    · exact absurd (h.returned hphase hwas hi) hne
    · next hge =>
      rw [List.getElem?_singleton] at hi
      split at hi
      · next hzero => rw [show i = s.planes.length by omega]
      · simp at hi
  | lost pending i hphase hraft hwas hcancel =>
    refine ⟨fun j stage hj hne ↦ h.unreturned j stage ?_ hne, by simp, by simp, by simp⟩
    rw [← hj]
    exact (s.stage_modify_cancel i j).symm
  | lostUnspawned pending hphase hraft hwas hcancel =>
    have := h.current hwas
    simp [hcancel] at this
  | waited hphase hreaped =>
    refine ⟨fun i stage hi hne ↦ absurd (returned_of_reaped hreaped hi) hne, by simp [State.depose], ?_,
      by simp [State.depose]⟩
    exact fun hwas ↦ absurd hwas (by simp [State.depose, h.known hphase])
  | timedOut => exact absurd rfl hwaits
  | enter i hstage =>
    refine ⟨fun j stage hj hne ↦ ?_, h.inTerm, h.current, h.known⟩
    rw [State.stage_enter] at hj
    split at hj
    · next heq => exact h.unreturned j .spawned (heq ▸ hstage) (by decide)
    · exact h.unreturned j stage hj hne
  | leave i hstage =>
    refine ⟨fun j stage hj hne ↦ ?_, h.inTerm, h.current, h.known⟩
    rw [State.stage_leave] at hj
    split at hj
    · obtain ⟨-, -, rfl⟩ := Option.map_eq_some_iff.mp hj
      exact absurd rfl hne
    · exact h.unreturned j stage hj hne
  | shutdown hphase hdone =>
    have hstage := s.stage_cancelPlane
    obtain ⟨planes, hplanes⟩ := s.cancelPlane_eq
    rw [hplanes] at hstage ⊢
    exact ⟨fun j stage hj hne ↦ h.unreturned j stage (hstage j ▸ hj) hne, by simp, h.current, by simp⟩
  | stop hphase hreaped => exact ⟨h.unreturned, by simp, h.current, by simp⟩

end Sole

/-- A plane moves on only by its own steps. -/
theorem RaftMove.stage (hmove : RaftMove wait s a s') (henter : a ≠ .enter i) (hleave : a ≠ .leave i)
    (hi : i < s.planes.length) : s'.stage i = s.stage i := by
  cases hmove with
  | gained => rw [State.stage, List.getElem?_append_left hi, State.stage]
  | lost => exact State.stage_modify_cancel _ _ _
  | enter j =>
    have hne : j ≠ i := fun heq ↦ henter (by rw [heq])
    rw [State.stage_enter, if_neg hne]
  | leave j =>
    have hne : j ≠ i := fun heq ↦ hleave (by rw [heq])
    rw [State.stage_leave, if_neg hne]
  | shutdown => exact s.stage_cancelPlane i
  | _ => rfl

theorem State.lt_length_of_stage {stage : Stage} (h : s.stage i = some stage) : i < s.planes.length := by
  obtain ⟨p, hp, -⟩ := Option.map_eq_some_iff.mp h
  exact (List.getElem?_eq_some_iff.mp hp).1

theorem RaftMove.returned (hmove : RaftMove wait s a s') (h : s.stage i = some .returned) :
    s'.stage i = some .returned := by
  rw [hmove.stage ?_ ?_ (State.lt_length_of_stage h), h]
  · rintro rfl
    cases hmove with
    | enter _ hstage => simp [h] at hstage
  · rintro rfl
    cases hmove with
    | leave _ hstage => simp [h] at hstage

/-- A plane stays in `OnElected` until it leaves. -/
theorem RaftMove.running (hmove : RaftMove wait s a s') (h : s.stage i = some .running)
    (hleave : a ≠ .leave i) : s'.stage i = some .running := by
  rw [hmove.stage ?_ hleave (State.lt_length_of_stage h), h]
  rintro rfl
  cases hmove with
  | enter _ hstage => simp [h] at hstage

end ScalesetProxmox.Cluster
