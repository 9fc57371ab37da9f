import ScalesetProxmox.Cluster.Coordinator
import ScalesetProxmox.Pool.Drain

/-!
# The leader plane

`OnElected` runs the leader plane: for each scale set a supervisor that calls `runOneScaleset` and
calls it again when it fails. One call builds a pool manager, lets it adopt, publishes it through the
scale set's pool pointer, runs it together with the listener and the reconciler, and takes all of it
down again. `OnElected` returns once every scale set's call has returned.

`Attempt` is one such call with its manager, whose goroutines are those of `Pool.System`. Its workers
run under a context of their own, which `drain` and `Close` cancel; a worker whose context is
cancelled gets an error for every call to Proxmox, except for the synchronous destroy of a failed
clone, which has a fresh context. `World` puts the attempts of all planes beside the coordinator.
Each manager has its own copy of what it can see of Proxmox; what others do there reaches it through
the steps by other hands.

`one_plane_at_a_time`: as long as no wait for `OnElected` is cut short, at most one plane runs, and a
plane with its pool built finds it published. When a wait is cut short the next plane overlaps the
last one, whose deferred clear takes down the new pool's pointer: `stale_plane_clears_pool`.
-/

namespace ScalesetProxmox.App

open Store (Time)
open Transition
open Cluster (Coordinator RaftMove Sole raftStep raftMove_of_step)
open Pool (Sys Task)

/-! ## One attempt -/

def callsProxmox : Task → Bool
  | .cloneIssue _ | .cloneConfigure _ _ | .clonePower _ _ | .cloneSnapshot _ _ | .bootStart _
  | .rollbackSnapshot _ | .destroyGet _ _ | .destroyDelete _ _ => true
  | _ => false

/-- The call is made with a context of its own. -/
def detached : Task → Bool
  | .destroyGet _ sync | .destroyDelete _ sync => sync
  | _ => false

/-- How far `runOneScaleset` has got. -/
inductive Progress where
  /-- The manager is built and adopts. -/
  | building
  /-- The pool pointer is stored. -/
  | published
  /-- The manager, the listener and the reconciler run. -/
  | running
  | draining
  /-- `drain` has returned. -/
  | drained
  /-- The pool pointer is cleared. -/
  | cleared
  /-- The manager is closed. -/
  | ended
  deriving DecidableEq, Repr

/-- A call of `runOneScaleset` for a plane. -/
structure Attempt where
  plane : ℕ
  scaleset : String
  sys : Sys
  progress : Progress := .building

/-- What happens to an attempt. -/
inductive Op where
  | publish
  | serve
  | drain
  /-- `DrainTimeout` is over. -/
  | cancelWorkers
  /-- `drain` returns because the wait group is at zero. -/
  | finish
  /-- `drain` gives up on its workers. -/
  | abandon
  | clear
  | close
  | pool (act : Pool.Act)

def adopting : Task → Bool
  | .adopt | .adoptScan _ _ | .adoptRunners _ | .adoptLoop _ _ | .adoptInsert _ _ _ _ => true
  | _ => false

def startsClone : Task → Bool
  | .kickClone _ _ _ => true
  | _ => false

def failed : Pool.Reply → Bool
  | .fail => true
  | _ => false

def cancelWorkers (sys : Sys) : Sys := { sys with shared := { sys.shared with cancelled := true } }

def beginDrain (sys : Sys) : Sys := { sys with shared := { sys.shared with draining := true } }

/-- The steps of the pool that this attempt can see. Clones are started by the reconcile loops only,
other calls arrive as long as the pool is published; with the workers cancelled, a call to Proxmox
under their context fails. -/
def Attempt.allows (a : Attempt) : Pool.Act → Bool
  | .drain | .cancel | .crash => false
  | .call task =>
    match a.progress with
    | .running | .draining => true
    | .published | .drained => !startsClone task
    | _ => false
  | .fire i reply =>
    (a.sys.threads[i]?).all fun task ↦
      !(a.sys.shared.cancelled && callsProxmox task && !detached task) || failed reply
  | _ => true

def Attempt.step (cfg : Pool.Config) (a : Attempt) : Op → Option Attempt
  | .publish =>
    if a.progress = .building ∧ a.sys.threads.all (fun task ↦ !adopting task) then
      some { a with progress := .published }
    else none
  | .serve => if a.progress = .published then some { a with progress := .running } else none
  | .drain =>
    if a.progress = .running then some { a with progress := .draining, sys := beginDrain a.sys }
    else none
  | .cancelWorkers =>
    if a.progress = .draining then some { a with sys := cancelWorkers a.sys } else none
  | .finish =>
    if a.progress = .draining ∧ Pool.idle a.sys then
      some { a with progress := .drained, sys := cancelWorkers a.sys }
    else none
  | .abandon =>
    if a.progress = .draining ∧ a.sys.shared.cancelled then some { a with progress := .drained }
    else none
  | .clear =>
    if a.progress = .published ∨ a.progress = .drained then some { a with progress := .cleared }
    else none
  | .close =>
    if a.progress = .building ∨ a.progress = .cleared then
      some { a with progress := .ended, sys := cancelWorkers a.sys }
    else none
  | .pool act =>
    if a.allows act then (Pool.step cfg a.sys act).map fun sys ↦ { a with sys := sys } else none

/-- The pool is built and not yet taken down. -/
def Attempt.holdsPool (a : Attempt) : Bool :=
  match a.progress with
  | .published | .running | .draining | .drained => true
  | _ => false

/-! ## The replica -/

/-- A new manager. Its store is empty, but the scale set's provisioner lives as long as the process, and
with it the tracker of the VMIDs destroyed of late. -/
def freshManager (cluster : Provisioner.Cluster) (recent : Provisioner.Tracker) (runners : Gh.Runners)
    (now : Time) : Sys where
  shared := { cluster := cluster, recentlyDestroyed := recent, runners := runners, now := now }
  threads := [.adopt]

structure World where
  coord : Cluster.State
  attempts : List Attempt := []
  /-- The pool that each scale set has published, by its attempt. -/
  poolPtr : String → Option ℕ := fun _ ↦ none
  /-- The planes below this number have been deposed. -/
  deposed : ℕ := 0

inductive Act where
  | coord (a : Cluster.Act)
  /-- A supervisor of the plane calls `runOneScaleset`, which builds a manager over what is there. -/
  | build (plane : ℕ) (scaleset : String) (cluster : Provisioner.Cluster)
      (recent : Provisioner.Tracker) (runners : Gh.Runners) (now : Time)
  | attempt (k : ℕ) (op : Op)

/-- The pool pointers after an attempt has taken a step. -/
def World.pointerAfter (w : World) (k : ℕ) (scaleset : String) : Op → String → Option ℕ
  | .publish => Function.update w.poolPtr scaleset (some k)
  | .clear => Function.update w.poolPtr scaleset none
  | _ => w.poolPtr

/-- `OnElected` can return: the calls of its supervisors have. -/
def World.canLeave (w : World) (a : Cluster.Act) : Bool :=
  w.attempts.all fun x ↦ x.progress = .ended ∨ a ≠ .leave x.plane

/-- A supervisor runs one attempt at a time. -/
def World.canBuild (w : World) (plane : ℕ) (scaleset : String) : Bool :=
  w.coord.stage plane = some .running ∧
    w.attempts.all fun x ↦ x.progress = .ended ∨ x.plane ≠ plane ∨ x.scaleset ≠ scaleset

/-- The deposed planes after a step of the coordinator: an `OnDeposed` is for all planes so far. -/
def World.deposedAfter (w : World) (coord : Cluster.State) : ℕ :=
  if coord.log.count .deposed = w.coord.log.count .deposed then w.deposed else coord.planes.length

def step (cfg : String → Pool.Config) (onDeposeWait : Time) (w : World) : Act → Option World
  | .coord a =>
    if w.canLeave a then
      (raftStep onDeposeWait w.coord a).map fun coord ↦
        { w with coord := coord, deposed := w.deposedAfter coord }
    else none
  | .build plane scaleset cluster recent runners now =>
    if w.canBuild plane scaleset then
      some { w with
        attempts := w.attempts ++
          [{ plane := plane, scaleset := scaleset, sys := freshManager cluster recent runners now }] }
    else none
  | .attempt k op =>
    (w.attempts[k]?).bind fun a ↦ (a.step (cfg a.scaleset) op).map fun a' ↦
      { w with
        attempts := w.attempts.set k a'
        poolPtr := w.pointerAfter k a.scaleset op }

/-- A replica at the start of the raft coordinator's `Run`. -/
def World.start (raftLeader : Bool) : World := { coord := (Coordinator.raft 0).start raftLeader }

/-! ## What a step can do -/

variable {cfg : String → Pool.Config} {wait : Time} {w w' : World} {a a' : Attempt} {op : Op}
  {pool : Pool.Config} {k : ℕ}

/-- The guard of every step of an attempt, and where it leads. -/
inductive Attempt.Moved (pool : Pool.Config) (a : Attempt) : Op → Attempt → Prop
  | publish (hprogress : a.progress = .building)
      (hadopted : a.sys.threads.all (fun task ↦ !adopting task) = true) :
    Moved pool a .publish { a with progress := .published }
  | serve (hprogress : a.progress = .published) :
    Moved pool a .serve { a with progress := .running }
  | drain (hprogress : a.progress = .running) :
    Moved pool a .drain { a with progress := .draining, sys := beginDrain a.sys }
  | cancelWorkers (hprogress : a.progress = .draining) :
    Moved pool a .cancelWorkers { a with sys := App.cancelWorkers a.sys }
  | finish (hprogress : a.progress = .draining) (hidle : Pool.idle a.sys = true) :
    Moved pool a .finish { a with progress := .drained, sys := App.cancelWorkers a.sys }
  | abandon (hprogress : a.progress = .draining) (hcancelled : a.sys.shared.cancelled = true) :
    Moved pool a .abandon { a with progress := .drained }
  | clear (hprogress : a.progress = .published ∨ a.progress = .drained) :
    Moved pool a .clear { a with progress := .cleared }
  | close (hprogress : a.progress = .building ∨ a.progress = .cleared) :
    Moved pool a .close { a with progress := .ended, sys := App.cancelWorkers a.sys }
  | pool {act : Pool.Act} {sys : Sys} (hallows : a.allows act = true)
      (hstep : Pool.step pool a.sys act = some sys) :
    Moved pool a (.pool act) { a with sys := sys }

theorem Attempt.moved_of_step (h : a.step pool op = some a') : a.Moved pool op a' := by
  cases op with
  | publish | finish | abandon =>
    obtain ⟨⟨hprogress, hguard⟩, ⟨⟩⟩ := Option.ite_none_right_eq_some.mp h
    constructor
    · exact hprogress
    · exact hguard
  | serve | drain | cancelWorkers | clear | close =>
    obtain ⟨hprogress, ⟨⟩⟩ := Option.ite_none_right_eq_some.mp h
    constructor
    exact hprogress
  | pool act =>
    obtain ⟨hallows, h⟩ := Option.ite_none_right_eq_some.mp h
    obtain ⟨sys, hstep, rfl⟩ := Option.map_eq_some_iff.mp h
    exact .pool hallows hstep

namespace Attempt.Moved

theorem plane_eq (h : a.Moved pool op a') : a'.plane = a.plane := by cases h <;> rfl

theorem scaleset_eq (h : a.Moved pool op a') : a'.scaleset = a.scaleset := by cases h <;> rfl

/-- An attempt that has ended goes nowhere. -/
theorem ended (h : a.Moved pool op a') (hended : a.progress = .ended) : a'.progress = .ended := by
  cases h with
  | pool | cancelWorkers => exact hended
  | close => rfl
  | clear hprogress => simp [hended] at hprogress
  | publish hprogress | serve hprogress | drain hprogress | finish hprogress | abandon hprogress =>
    simp [hended] at hprogress

/-- A pool that is up after a step has just been published, or was up and is not being cleared; the
pointers change accordingly. -/
theorem holdsPool (h : a.Moved pool op a') (hholds : a'.holdsPool) :
    w.pointerAfter k a.scaleset op a.scaleset = some k ∨
      (a.holdsPool ∧ w.pointerAfter k a.scaleset op = w.poolPtr) := by
  cases h with
  | publish => exact .inl (Function.update_self ..)
  | clear | close => cases hholds
  | serve hprogress | drain hprogress | cancelWorkers hprogress | finish hprogress
  | abandon hprogress => exact .inr ⟨by simp [Attempt.holdsPool, hprogress], rfl⟩
  | pool => exact .inr ⟨hholds, rfl⟩

/-- The pointers change for the attempt's own scale set only, and only while it has not ended. -/
theorem pointerAfter (h : a.Moved pool op a') :
    w.pointerAfter k a.scaleset op = w.poolPtr ∨ (a.progress ≠ .ended ∧
      ∀ scaleset, scaleset ≠ a.scaleset →
        w.pointerAfter k a.scaleset op scaleset = w.poolPtr scaleset) := by
  cases h with
  | publish hprogress =>
    exact .inr ⟨by simp [hprogress], fun _ hne ↦ Function.update_of_ne hne ..⟩
  | clear hprogress =>
    refine .inr ⟨?_, fun _ hne ↦ Function.update_of_ne hne ..⟩
    rcases hprogress with h | h <;> simp [h]
  | _ => exact .inl rfl

end Attempt.Moved

theorem Attempt.not_ended_of_holdsPool (h : a.holdsPool) : a.progress ≠ .ended := by
  intro hended
  simp [Attempt.holdsPool, hended] at h

/-- The three ways the replica moves. -/
inductive Moved (cfg : String → Pool.Config) (wait : Time) (w : World) : Act → World → Prop
  | coord {act : Cluster.Act} {coord : Cluster.State} (hmove : RaftMove wait w.coord act coord)
      (hleave : ∀ x ∈ w.attempts, x.progress = .ended ∨ act ≠ .leave x.plane) :
    Moved cfg wait w (.coord act) { w with coord := coord, deposed := w.deposedAfter coord }
  | build {plane : ℕ} {scaleset : String} {cluster : Provisioner.Cluster}
      {recent : Provisioner.Tracker} {runners : Gh.Runners} {now : Time}
      (hrunning : w.coord.stage plane = some .running)
      (hfree : ∀ x ∈ w.attempts, x.progress = .ended ∨ x.plane ≠ plane ∨ x.scaleset ≠ scaleset) :
    Moved cfg wait w (.build plane scaleset cluster recent runners now)
      { w with
        attempts := w.attempts ++
          [{ plane := plane, scaleset := scaleset, sys := freshManager cluster recent runners now }] }
  | attempt {k : ℕ} {op : Op} {a a' : Attempt} (hattempt : w.attempts[k]? = some a)
      (hmoved : a.Moved (cfg a.scaleset) op a') :
    Moved cfg wait w (.attempt k op)
      { w with
        attempts := w.attempts.set k a'
        poolPtr := w.pointerAfter k a.scaleset op }

theorem moved_of_step {act : Act} (h : step cfg wait w act = some w') : Moved cfg wait w act w' := by
  cases act with
  | coord act =>
    obtain ⟨hleave, h⟩ := Option.ite_none_right_eq_some.mp h
    obtain ⟨coord, hstep, rfl⟩ := Option.map_eq_some_iff.mp h
    refine .coord (raftMove_of_step hstep) fun x hx ↦ ?_
    simpa using List.all_eq_true.mp hleave x hx
  | build plane scaleset cluster recent runners now =>
    obtain ⟨hbuild, ⟨⟩⟩ := Option.ite_none_right_eq_some.mp h
    obtain ⟨hrunning, hfree⟩ := of_decide_eq_true hbuild
    refine .build hrunning fun x hx ↦ ?_
    simpa using List.all_eq_true.mp hfree x hx
  | attempt k op =>
    obtain ⟨a, hattempt, h⟩ := Option.bind_eq_some_iff.mp h
    obtain ⟨a', hstep, rfl⟩ := Option.map_eq_some_iff.mp h
    exact .attempt hattempt (Attempt.moved_of_step hstep)

/-- An attempt after a change is the changed one or another one. -/
theorem getElem?_set_attempt {l : ℕ} {x : Attempt} (hattempt : w.attempts[k]? = some a)
    (h : (w.attempts.set k a')[l]? = some x) :
    (l = k ∧ x = a') ∨ (l ≠ k ∧ w.attempts[l]? = some x) := by
  have hlt := (List.getElem?_eq_some_iff.mp hattempt).1
  by_cases hl : k = l
  · subst hl
    rw [List.getElem?_set_self hlt] at h
    exact .inl ⟨rfl, (Option.some.inj h).symm⟩
  · rw [List.getElem?_set_ne hl] at h
    exact .inr ⟨Ne.symm hl, h⟩

theorem getElem?_append_attempt {l : ℕ} {x new : Attempt}
    (h : (w.attempts ++ [new])[l]? = some x) :
    w.attempts[l]? = some x ∨ (l = w.attempts.length ∧ x = new) := by
  rw [List.getElem?_append] at h
  split at h
  · exact .inl h
  · next hge =>
    rw [List.getElem?_singleton] at h
    split at h
    · exact .inr ⟨by omega, (Option.some.inj h).symm⟩
    · cases h

/-! ## One plane, with its own pool published -/

/-- The wait for `OnElected` runs into its cap. -/
def Act.cutsShort : Act → Bool
  | .coord .timedOut => true
  | _ => false

/-- No wait for `OnElected` is cut short. -/
def WaitsOut (_ : World) (act : Act) (_ : World) : Prop := act.cutsShort = false

instance (w : World) (act : Act) (w' : World) : Decidable (WaitsOut w act w') :=
  inferInstanceAs (Decidable (act.cutsShort = false))

/-- At most one `OnElected` runs, and a pool that is built is the one its scale set publishes. -/
structure OnePlane (w : World) : Prop where
  sole : ∀ i j, w.coord.stage i = some .running → w.coord.stage j = some .running → i = j
  published : ∀ (k : ℕ) (a : Attempt), w.attempts[k]? = some a → a.holdsPool = true →
    w.poolPtr a.scaleset = some k

/-- What makes `OnePlane` inductive: attempts that have not ended belong to a running plane, and
there is one of them at most for each scale set. -/
structure Planes (w : World) : Prop where
  sole : Sole w.coord
  live : ∀ (k : ℕ) (a : Attempt), w.attempts[k]? = some a → a.progress ≠ .ended →
    w.coord.stage a.plane = some .running
  unique : ∀ (k l : ℕ) (a b : Attempt), w.attempts[k]? = some a → w.attempts[l]? = some b → a.progress ≠ .ended →
    b.progress ≠ .ended → a.scaleset = b.scaleset → k = l
  published : ∀ (k : ℕ) (a : Attempt), w.attempts[k]? = some a → a.holdsPool = true →
    w.poolPtr a.scaleset = some k

namespace Planes

theorem start (raftLeader : Bool) : Planes (.start raftLeader) :=
  ⟨Sole.start 0 raftLeader, by simp [World.start], by simp [World.start], by simp [World.start]⟩

theorem onePlane (h : Planes w) : OnePlane w :=
  ⟨fun _ _ hi hj ↦ h.sole.unique hi (by decide) hj (by decide), h.published⟩

/-- No attempt that has not ended stands in the way of a new one. -/
theorem build_free (h : Planes w) {plane : ℕ} {scaleset : String}
    (hrunning : w.coord.stage plane = some .running)
    (hfree : ∀ x ∈ w.attempts, x.progress = .ended ∨ x.plane ≠ plane ∨ x.scaleset ≠ scaleset)
    {k : ℕ} {a : Attempt} (ha : w.attempts[k]? = some a) (hlive : a.progress ≠ .ended) :
    a.scaleset ≠ scaleset := by
  have hplane : a.plane = plane :=
    h.sole.unique (h.live k a ha hlive) (by decide) hrunning (by decide)
  rcases hfree a (List.mem_of_getElem? ha) with hended | hother | hother
  · exact absurd hended hlive
  · exact absurd hplane hother
  · exact hother

theorem build (h : Planes w) {plane : ℕ} {scaleset : String} {sys : Sys}
    (hrunning : w.coord.stage plane = some .running)
    (hfree : ∀ x ∈ w.attempts, x.progress = .ended ∨ x.plane ≠ plane ∨ x.scaleset ≠ scaleset) :
    Planes { w with attempts := w.attempts ++ [{ plane := plane, scaleset := scaleset, sys := sys }] } := by
  have hother := fun k a ↦ h.build_free (k := k) (a := a) hrunning hfree
  refine ⟨h.sole, fun k a ha hlive ↦ ?_, fun k l a b ha hb hla hlb hsame ↦ ?_, fun k a ha hholds ↦ ?_⟩
  · rcases getElem?_append_attempt ha with ha | ⟨-, rfl⟩
    · exact h.live k a ha hlive
    · exact hrunning
  · rcases getElem?_append_attempt ha with ha | ⟨rfl, rfl⟩ <;>
      rcases getElem?_append_attempt hb with hb | ⟨rfl, rfl⟩
    · exact h.unique k l a b ha hb hla hlb hsame
    · exact absurd hsame (hother k a ha hla)
    · exact absurd hsame.symm (hother l b hb hlb)
    · rfl
  · rcases getElem?_append_attempt ha with ha | ⟨-, rfl⟩
    · exact h.published k a ha hholds
    · cases hholds

theorem attempt (h : Planes w) (hattempt : w.attempts[k]? = some a) (hmoved : a.Moved pool op a') :
    Planes { w with
      attempts := w.attempts.set k a', poolPtr := w.pointerAfter k a.scaleset op } := by
  -- the changed attempt stands where it stood, unless it has ended
  have hback : ∀ (l : ℕ) (x : Attempt), (w.attempts.set k a')[l]? = some x → x.progress ≠ .ended →
      ∃ old : Attempt, w.attempts[l]? = some old ∧ old.progress ≠ .ended ∧ old.plane = x.plane ∧
        old.scaleset = x.scaleset := by
    intro l x hx hlive
    rcases getElem?_set_attempt hattempt hx with ⟨rfl, rfl⟩ | ⟨-, hx⟩
    · exact ⟨a, hattempt, fun hended ↦ hlive (hmoved.ended hended), hmoved.plane_eq.symm,
        hmoved.scaleset_eq.symm⟩
    · exact ⟨x, hx, hlive, rfl, rfl⟩
  refine ⟨h.sole, fun l x hx hlive ↦ ?_, fun l m x y hx hy hlx hly hsame ↦ ?_, fun l x hx hholds ↦ ?_⟩
  · obtain ⟨old, hold, holdlive, hplane, -⟩ := hback l x hx hlive
    exact hplane ▸ h.live l old hold holdlive
  · obtain ⟨old, hold, holdlive, -, hscaleset⟩ := hback l x hx hlx
    obtain ⟨old', hold', holdlive', -, hscaleset'⟩ := hback m y hy hly
    exact h.unique l m old old' hold hold' holdlive holdlive'
      (hscaleset.trans (hsame.trans hscaleset'.symm))
  · rcases getElem?_set_attempt hattempt hx with ⟨rfl, rfl⟩ | ⟨hne, hx⟩
    · rw [hmoved.scaleset_eq]
      rcases hmoved.holdsPool (w := w) hholds with hpointer | ⟨hholds, hpointer⟩
      · exact hpointer
      · exact hpointer ▸ h.published l a hattempt hholds
    · -- another attempt of the scale set would have ended
      have hlive := Attempt.not_ended_of_holdsPool hholds
      rcases hmoved.pointerAfter (w := w) (k := k) with hpointer | ⟨halive, hpointer⟩
      · exact hpointer ▸ h.published l x hx hholds
      · have hother : x.scaleset ≠ a.scaleset := fun hsame ↦
          hne (h.unique l k x a hx hattempt hlive halive hsame)
        exact (hpointer _ hother).trans (h.published l x hx hholds)

theorem step (h : Planes w) {act : Act} (hwaits : WaitsOut w act w')
    (hstep : step cfg wait w act = some w') : Planes w' := by
  cases moved_of_step hstep with
  | @coord act coord hmove hleave =>
    have hcut : act ≠ .timedOut := by
      rintro rfl
      cases hwaits
    refine ⟨h.sole.move hmove hcut, fun k a ha hlive ↦ ?_, h.unique, h.published⟩
    refine hmove.running (h.live k a ha hlive) ?_
    exact (hleave a (List.mem_of_getElem? ha)).resolve_left hlive
  | build hrunning hfree => exact h.build hrunning hfree
  | attempt hattempt hmoved => exact h.attempt hattempt hmoved

end Planes

/-- In every run of a replica in which no wait for `OnElected` is cut short, at most one `OnElected`
runs at a time, and a plane with its pool built finds it published. -/
theorem one_plane_at_a_time (cfg : String → Pool.Config) (wait : Time) (raftLeader : Bool)
    (labels : List Act) (w : World)
    (hwaits : Along (step cfg wait) WaitsOut (.start raftLeader) labels)
    (hrun : run (step cfg wait) (.start raftLeader) labels = some w) : OnePlane w := by
  have hstep : ∀ w act w', Planes w → WaitsOut w act w' → step cfg wait w act = some w' → Planes w' :=
    fun _ _ _ h hwaits hstep ↦ h.step hwaits hstep
  exact (invariant_of_along Planes hstep (.start raftLeader) hwaits hrun).onePlane

/-! ### Two leaderships in a row -/

/-- The replica is elected and plane `i` starts. -/
def elected (i : ℕ) : List Act := [.coord (.raft true true), .coord .handle, .coord (.enter i)]

/-- Plane `i` builds its pool for the scale set over an empty cluster and publishes it. -/
def poolUp (i k : ℕ) : List Act :=
  .build i "ci" .empty (fun _ ↦ none) ∅ Store.second :: List.replicate 5 (.attempt k (.pool (.fire 0 .ok))) ++
    [.attempt k .publish, .attempt k .serve]

def poolDown (k : ℕ) : List Act :=
  [.attempt k .drain, .attempt k .finish, .attempt k .clear, .attempt k .close]

/-- The first plane is taken down before the second one starts. -/
def inTurn : List Act :=
  elected 0 ++ poolUp 0 0 ++ [.coord (.raft false true), .coord .handle] ++ poolDown 0 ++
    [.coord (.leave 0), .coord .waited] ++ elected 1 ++ poolUp 1 1

/-- The wait for the first plane is cut short, the replica is elected again, and the first plane
unwinds when the second one has its pool up. -/
def overlapping : List Act :=
  elected 0 ++ poolUp 0 0 ++ [.coord (.raft false true), .coord .handle, .coord .timedOut] ++
    elected 1 ++ poolUp 1 1 ++ poolDown 0

theorem one_plane_at_a_time_inTurn :
    ∃ w, run (step (fun _ ↦ Pool.smallPool) 1) (.start false) inTurn = some w ∧
      w.poolPtr "ci" = some 1 ∧ OnePlane w := by
  obtain ⟨w, hrun⟩ : ∃ w, run (step (fun _ ↦ Pool.smallPool) 1) (.start false) inTurn = some w :=
    Option.isSome_iff_exists.mp (by decide +kernel)
  have hpointer : (run (step (fun _ ↦ Pool.smallPool) 1) (.start false) inTurn).all
      (fun w ↦ w.poolPtr "ci" = some 1) = true := by decide +kernel
  refine ⟨w, hrun, by simpa [hrun] using hpointer, ?_⟩
  exact one_plane_at_a_time (fun _ ↦ Pool.smallPool) 1 false inTurn w (by decide +kernel) hrun

/-- Two planes run at once, and the older one's deferred clear leaves the new plane's pool without a
pointer. -/
theorem stale_plane_clears_pool :
    ∃ w, run (step (fun _ ↦ Pool.smallPool) 1) (.start false) overlapping = some w ∧
      w.coord.stage 0 = some .running ∧ w.coord.stage 1 = some .running ∧
      (w.attempts[1]?.any fun a ↦ a.plane = 1 ∧ a.progress = .running) = true ∧
      w.poolPtr "ci" = none ∧ ¬OnePlane w := by
  have hend : (run (step (fun _ ↦ Pool.smallPool) 1) (.start false) overlapping).any (fun w ↦
      w.coord.stage 0 = some .running ∧ w.coord.stage 1 = some .running ∧
        (w.attempts[1]?.any fun a ↦ a.plane = 1 ∧ a.progress = .running) = true ∧
        w.poolPtr "ci" = none) = true := by decide +kernel
  obtain ⟨w, hrun, hw⟩ := (Option.any_eq_true _ _).mp hend
  obtain ⟨hfirst, hsecond, hup, hpointer⟩ := of_decide_eq_true hw
  exact ⟨w, hrun, hfirst, hsecond, hup, hpointer,
    fun h ↦ absurd (h.sole 0 1 hfirst hsecond) (by decide)⟩

end ScalesetProxmox.App
