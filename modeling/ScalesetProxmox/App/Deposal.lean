import ScalesetProxmox.App.LeaderPlane

/-!
# Proxmox after a deposal

Once `OnDeposed` has been called, the pool managers of the planes so far should have stopped calling
Proxmox. The workers of a manager do not end with the leader context: `drain` waits for them, cancels
them when its time is over and gives up on those that do not unwind.

Cancelled workers make no more calls, with one exception. A clone worker that fails destroys its VM
synchronously under a context of its own (`outlives`). Such a worker is counted by the wait group, so
a clean `drain` leaves none behind.

`deposed_planes_are_silent`: when no wait for `OnElected` is cut short and no `drain` gives up on a
clone worker, a manager of a deposed plane makes no clone, start, rollback or destroy call. When the
wait is cut short the manager's workers go on cloning after `OnDeposed`: `deposed_plane_clones`.
-/

namespace ScalesetProxmox.App

open Store (Time)
open Transition
open Cluster (RaftMove Sole)
open Pool (Sys Shared Task)

variable {cfg : String → Pool.Config} {wait : Time} {w w' : World} {a a' : Attempt} {op : Op}
  {pool : Pool.Config} {k : ℕ} {task : Task}

/-! ## Workers that outlive their context -/

/-- A clone worker, up to and including its own destroy of what it has left behind. -/
def outlives : Task → Bool
  | .kickClone _ _ _ | .cloneAllocate _ _ _ _ | .cloneInsert _ _ _ _ _ | .cloneIpam _
  | .cloneIssue _ | .cloneAwait _ _ | .cloneConfigure _ _ | .clonePower _ _ | .cloneSnapshot _ _
  | .cloneUpdate _ _ _ | .cloneFailure _ | .destroyOrSyncFallback _ => true
  | .destroyGet _ sync | .destroyDelete _ sync | .destroyAwait _ sync | .destroyRow _ sync => sync
  | _ => false

/-- Clone workers start as calls, not from other workers. -/
theorem outlives_next (s s' : Shared) (h : outlives task = false) (reply : Pool.Reply) :
    (task.action pool reply).Next pool s s' (List.Forall (outlives · = false)) := by
  cases task with
  | destroyGet request sync | destroyDelete request sync | destroyAwait request sync =>
    obtain rfl : sync = false := h
    dsimp
    split <;> simp [Pool.Action.Next, outlives]
  | kickClone | cloneAllocate | cloneInsert | cloneIpam | cloneIssue | cloneAwait | cloneConfigure
  | clonePower | cloneSnapshot | cloneUpdate | cloneFailure | destroyOrSyncFallback => cases h
  | _ =>
    dsimp
    (repeat' split) <;> dsimp [Pool.Action.Next] <;>
      (repeat' first | split | apply And.intro | intro _) <;>
      simp [outlives, List.forall_iff_forall_mem]

theorem counted_of_outlives (h : outlives task) : task.counted = true := by
  cases task <;> first | rfl | cases h

theorem outlives_of_detached (h : detached task) : outlives task = true := by
  cases task <;> first | exact h | cases h

theorem not_outlives_of_callable {shared : Shared} (h : Pool.callable shared task)
    (hclone : startsClone task = false) :
    outlives task = false := by
  cases task with
  | kickClone => cases hclone
  | _ => first | rfl | cases h

/-! ## Attempts -/

/-- The manager's clone workers may be at work. -/
def Progress.clones : Progress → Bool
  | .running | .draining => true
  | _ => false

/-- Outside `Run` there are no clone workers, and when the manager is closed its workers are
cancelled. -/
structure Quiet (a : Attempt) : Prop where
  workers : a.progress.clones = false → ∀ task ∈ a.sys.threads, outlives task = false
  cancelled : a.progress = .ended → a.sys.shared.cancelled = true

namespace Quiet

theorem build (plane : ℕ) (scaleset : String) (cluster : Provisioner.Cluster)
    (recent : Provisioner.Tracker) (runners : Gh.Runners) (now : Time) :
    Quiet { plane := plane, scaleset := scaleset, sys := freshManager cluster recent runners now } :=
  ⟨fun _ ↦ by simp [freshManager, outlives], fun h ↦ by cases h⟩

theorem threads_pool (h : Quiet a) {act : Pool.Act} {sys : Sys} (hallows : a.allows act)
    (hstep : Pool.step pool a.sys act = some sys) (hclones : a.progress.clones = false) :
    ∀ task ∈ sys.threads, outlives task = false := by
  have hworkers := h.workers hclones
  cases Pool.stepped_of_step hstep with
  | fire hthread hexec =>
    have htask := hworkers _ (List.mem_of_getElem? hthread)
    have hnext := Pool.exec_next hexec (outlives_next _ _ htask _)
    exact forall_threads_fire _ hworkers (List.forall_iff_forall_mem.mp hnext) fun _ _ h ↦ h
  | @call task hcallable =>
    have hclone : startsClone task = false := by
      revert hallows hclones
      cases hprogress : a.progress <;> simp [Attempt.allows, Progress.clones, hprogress]
    exact List.forall_mem_append.mpr ⟨hworkers,
      List.forall_mem_singleton.mpr (not_outlives_of_callable hcallable hclone)⟩
  | dispatch hqueue => exact List.forall_mem_append.mpr ⟨hworkers, List.forall_mem_singleton.mpr rfl⟩
  | crash => cases hallows
  | outside => exact hworkers

theorem cancelled_pool (h : Quiet a) {act : Pool.Act} {sys : Sys} (hallows : a.allows act)
    (hstep : Pool.step pool a.sys act = some sys) (hended : a.progress = .ended) :
    sys.shared.cancelled = true := by
  have hcancelled := h.cancelled hended
  cases Pool.stepped_of_step hstep with
  | fire hthread hexec => exact (Pool.exec_shutdown hexec).2.trans hcancelled
  | crash => cases hallows
  | outside houtside =>
    cases houtside with
    | cancel => rfl
    | _ => exact hcancelled
  | _ => exact hcancelled

/-- An attempt stays quiet, as long as `drain` does not give up on a clone worker. -/
theorem moved (h : Quiet a) (hmoved : a.Moved pool op a')
    (habandon : op = .abandon → ∀ task ∈ a.sys.threads, outlives task = false) : Quiet a' := by
  cases hmoved with
  | publish hprogress =>
    exact ⟨fun _ ↦ h.workers (by rw [hprogress]; rfl), fun hended ↦ by cases hended⟩
  | serve | drain => exact ⟨fun hclones ↦ (by cases hclones), fun hended ↦ by cases hended⟩
  | cancelWorkers hprogress => exact ⟨fun hclones ↦ h.workers hclones, fun _ ↦ rfl⟩
  | finish hprogress hidle =>
    refine ⟨fun _ task htask ↦ ?_, fun hended ↦ by cases hended⟩
    have hcounted := List.all_eq_true.mp (Bool.and_eq_true_iff.mp hidle).1 task htask
    by_contra hlives
    simp [counted_of_outlives (Bool.eq_true_of_not_eq_false hlives)] at hcounted
  | abandon => exact ⟨fun _ ↦ habandon rfl, fun hended ↦ by cases hended⟩
  | clear hprogress =>
    refine ⟨fun _ ↦ h.workers ?_, fun hended ↦ by cases hended⟩
    rcases hprogress with hprogress | hprogress <;> rw [hprogress] <;> rfl
  | close hprogress =>
    refine ⟨fun _ ↦ h.workers ?_, fun _ ↦ rfl⟩
    rcases hprogress with hprogress | hprogress <;> rw [hprogress] <;> rfl
  | pool hallows hstep =>
    exact ⟨h.threads_pool hallows hstep, h.cancelled_pool hallows hstep⟩

end Quiet

/-! ## Deposed planes are silent -/

/-- The step sends a clone, start, rollback or destroy call to Proxmox. -/
def Attempt.issues (a : Attempt) : Pool.Act → Bool
  | .fire i _ =>
    (a.sys.threads[i]?).any fun task ↦
      callsProxmox task && (!a.sys.shared.cancelled || detached task)
  | _ => false

/-- The step is such a call by a manager of a deposed plane. -/
def World.lateCall (w : World) : Act → Bool
  | .attempt k (.pool act) => (w.attempts[k]?).any fun a ↦ a.plane < w.deposed && a.issues act
  | _ => false

/-- `drain` gives up on a clone worker. -/
def World.abandonsClone (w : World) : Act → Bool
  | .attempt k .abandon => (w.attempts[k]?).any fun a ↦ a.sys.threads.any outlives
  | _ => false

/-- No wait for `OnElected` is cut short and no `drain` gives up on a clone worker. -/
def NoneLeftBehind (w : World) (act : Act) (_ : World) : Prop :=
  act.cutsShort = false ∧ w.abandonsClone act = false

instance (w : World) (act : Act) (w' : World) : Decidable (NoneLeftBehind w act w') :=
  inferInstanceAs (Decidable (act.cutsShort = false ∧ w.abandonsClone act = false))

/-- No manager of a deposed plane calls Proxmox. -/
def DeposedSilent (w : World) (act : Act) (_ : World) : Prop := w.lateCall act = false

instance (w : World) (act : Act) (w' : World) : Decidable (DeposedSilent w act w') :=
  inferInstanceAs (Decidable (w.lateCall act = false))

theorem Quiet.not_issues (h : Quiet a) (hended : a.progress = .ended) (act : Pool.Act) :
    a.issues act = false := by
  cases act with
  | fire i reply =>
    rw [Attempt.issues, Option.any_eq_false]
    intro task htask
    have hworker := h.workers (by rw [hended]; rfl) task (List.mem_of_getElem? htask)
    have hdetached : detached task = false := by
      by_contra hdetached
      simp [outlives_of_detached (Bool.eq_true_of_not_eq_false hdetached)] at hworker
    simp [h.cancelled hended, hdetached]
  | _ => rfl

structure Silenced (w : World) : Prop extends Planes w where
  returned : ∀ i < w.deposed, w.coord.stage i = some .returned
  quiet : ∀ (k : ℕ) (a : Attempt), w.attempts[k]? = some a → Quiet a

namespace Silenced

theorem start (raftLeader : Bool) : Silenced (.start raftLeader) :=
  ⟨.start raftLeader, by simp [World.start], by simp [World.start]⟩

/-- `OnDeposed` finds every plane back. -/
theorem returned_coord (h : Silenced w) {act : Cluster.Act} {coord : Cluster.State}
    (hmove : RaftMove wait w.coord act coord) (hcut : act ≠ .timedOut) :
    ∀ i < w.deposedAfter coord, coord.stage i = some .returned := by
  intro i hi
  unfold World.deposedAfter at hi
  split at hi
  · exact hmove.returned (h.returned i hi)
  · next hdeposed =>
    cases hmove with
    | waited hphase hreaped =>
      have hstage : w.coord.depose.stage i = some w.coord.depose.planes[i].stage := by
        simp [Cluster.State.stage, hi]
      rw [hstage, Sole.returned_of_reaped hreaped hstage]
    | timedOut => exact absurd rfl hcut
    | lostUnspawned pending hphase hraft hwas hcancel =>
      have := h.sole.current hwas
      simp [hcancel] at this
    | enter => simp [Cluster.State.enter] at hdeposed
    | shutdown =>
      obtain ⟨planes, hplanes⟩ := w.coord.cancelPlane_eq
      simp [hplanes] at hdeposed
    | _ => exact absurd rfl hdeposed

theorem step (h : Silenced w) {act : Act} (hnone : NoneLeftBehind w act w')
    (hstep : step cfg wait w act = some w') : Silenced w' := by
  refine ⟨h.toPlanes.step hnone.1 hstep, ?_, ?_⟩
  · cases moved_of_step hstep with
    | coord hmove hleave =>
      refine h.returned_coord hmove ?_
      rintro rfl
      cases hnone.1
    | _ => exact h.returned
  · cases moved_of_step hstep with
    | coord => exact h.quiet
    | build =>
      intro k a ha
      rcases getElem?_append_attempt ha with ha | ⟨-, rfl⟩
      · exact h.quiet k a ha
      · exact Quiet.build ..
    | @attempt k op a a' hattempt hmoved =>
      intro l x hx
      rcases getElem?_set_attempt hattempt hx with ⟨rfl, rfl⟩ | ⟨-, hx⟩
      · refine (h.quiet l a hattempt).moved hmoved ?_
        rintro rfl
        have hkept := hnone.2
        simpa [World.abandonsClone, hattempt] using hkept
      · exact h.quiet l x hx

theorem deposedSilent (h : Silenced w) (act : Act) : DeposedSilent w act w' := by
  unfold DeposedSilent World.lateCall
  split
  · next k act =>
    rw [Option.any_eq_false]
    intro a ha
    by_cases hplane : a.plane < w.deposed
    · have hreturned := h.returned a.plane hplane
      have hended : a.progress = .ended := by
        by_contra hlive
        simp [h.live k a ha hlive] at hreturned
      rw [(h.quiet k a ha).not_issues hended act, Bool.and_false]
    · simp [hplane]
  · rfl

end Silenced

/-- In every run of a replica in which no wait for `OnElected` is cut short and no `drain` gives up
on a clone worker, no manager of a deposed plane makes a clone, start, rollback or destroy call. -/
theorem deposed_planes_are_silent (cfg : String → Pool.Config) (wait : Time) (raftLeader : Bool)
    (labels : List Act)
    (hnone : Along (App.step cfg wait) NoneLeftBehind (.start raftLeader) labels) :
    Along (App.step cfg wait) DeposedSilent (.start raftLeader) labels :=
  along_of_invariant Silenced
    (fun _ act _ h hnone hstep ↦ ⟨h.deposedSilent act, h.step hnone hstep⟩)
    (.start raftLeader) hnone

/-! ### A clone in flight at the loss of leadership -/

/-- The pool of plane 0 has a clone worker that is about to call Proxmox. -/
def cloneUnderWay : List Act :=
  elected 0 ++ poolUp 0 0 ++
    [.attempt 0 (.pool (.call (.kickClone "" .hot false))),
      .attempt 0 (.pool (.fire 0 (.node "pve1")))] ++
    List.replicate 3 (.attempt 0 (.pool (.fire 0 .ok))) ++
    [.coord (.raft false true), .coord .handle, .attempt 0 .drain]

/-- The clone is finished while drain waits for it, and the plane is back before `OnDeposed`. -/
def drainedThenDeposed : List Act :=
  cloneUnderWay ++ List.replicate 5 (.attempt 0 (.pool (.fire 0 .ok))) ++
    [.attempt 0 .finish, .attempt 0 .clear, .attempt 0 .close, .coord (.leave 0), .coord .waited,
      .attempt 0 (.pool (.elapse 1))]

/-- `OnDeposed` is called at the end of the wait, then the clone worker issues its call. -/
def deposedThenCloned : List Act :=
  cloneUnderWay ++ [.coord .timedOut, .attempt 0 (.pool (.fire 0 .ok))]

theorem deposed_planes_are_silent_drained :
    (∃ w, run (step (fun _ ↦ Pool.smallPool) 1) (.start false) drainedThenDeposed = some w) ∧
      Along (step (fun _ ↦ Pool.smallPool) 1) DeposedSilent (.start false) drainedThenDeposed :=
  ⟨Option.isSome_iff_exists.mp (by decide +kernel),
    deposed_planes_are_silent (fun _ ↦ Pool.smallPool) 1 false drainedThenDeposed (by decide +kernel)⟩

/-- With the wait cut short, a VM is cloned by the old plane's pool after `OnDeposed`. -/
theorem deposed_plane_clones :
    (run (step (fun _ ↦ Pool.smallPool) 1) (.start false) deposedThenCloned).any (fun w ↦
        w.deposed = 1 ∧ (w.attempts[0]?.any fun a ↦ (a.sys.shared.cluster.get 10000).isSome)) = true ∧
      ¬Along (step (fun _ ↦ Pool.smallPool) 1) DeposedSilent (.start false) deposedThenCloned := by
  decide +kernel

end ScalesetProxmox.App
