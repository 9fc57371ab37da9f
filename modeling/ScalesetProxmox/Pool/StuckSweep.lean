import ScalesetProxmox.Pool.Outcomes

/-!
# The stuck sweep acts on what it listed

`sweepStuckRows` lists transient rows older than its grace in one transaction and moves each of them
to Draining in a later one, without looking at the row again. What it listed stays true of the
snapshot (`SweepFresh`), so the sweep only ever moves stuck rows as long as nobody wrote the row in
between: `sweep_moves_stuck`. A row that left its transient state in between is moved all the same:
`sweep_drains_running_row`.
-/

namespace ScalesetProxmox.Pool

open Store (Time)
open Transition

variable {cfg : Config} {s s' : Shared} {start : Sys} {labels : List Act}

/-- The row, as listed, that the sweep moves next. -/
def Task.sweepTarget : Task → Option Store.VM
  | .sweepLoop (row :: _) => some row
  | _ => none

/-- Transient, and last written before the grace that ends now. -/
def Stuck (now : Time) (row : Store.VM) : Prop :=
  row.state ∈ stuckStates ∧ row.updatedAt < now - stuckGrace

instance (now : Time) (row : Store.VM) : Decidable (Stuck now row) :=
  inferInstanceAs (Decidable (_ ∧ _))

/-- Every row that the sweep is about to move is unchanged since it was listed, or gone. -/
def SweepsUnchanged (sys : Sys) (act : Act) (_ : Sys) : Prop :=
  ∀ row ∈ (moving sys act).bind Task.sweepTarget,
    ∀ current ∈ sys.shared.store.get row.vmid, current = row

/-- Every row that the sweep moves is stuck at the instant of the write. -/
def SweepsStuck (sys : Sys) (act : Act) (_ : Sys) : Prop :=
  ∀ row ∈ (moving sys act).bind Task.sweepTarget,
    ∀ current ∈ sys.shared.store.get row.vmid, Stuck sys.shared.now current

instance (sys : Sys) (act : Act) (sys' : Sys) : Decidable (SweepsUnchanged sys act sys') :=
  inferInstanceAs (Decidable (∀ _ ∈ _, _))

/-- What a sweep in progress knows: its cutoff has passed, and its rows were stuck when listed. -/
def SweepFresh (now : Time) : Task → Prop
  | .sweepList cutoff => cutoff ≤ now - stuckGrace
  | .sweepLoop rows => ∀ row ∈ rows, Stuck now row
  | _ => True

theorem SweepFresh.mono {now now' : Time} {task : Task} (h : SweepFresh now task)
    (hnow : now ≤ now') : SweepFresh now' task := by
  have hgrace : now - stuckGrace ≤ now' - stuckGrace := Int.sub_le_sub_right hnow _
  cases task with
  | sweepList cutoff => exact Int.le_trans h hgrace
  | sweepLoop rows => exact fun row hrow ↦ ⟨(h row hrow).1, Int.lt_of_lt_of_le (h row hrow).2 hgrace⟩
  | _ => trivial

theorem sweepFresh_next {reply : Reply} {task : Task} {now : Time} (hnow : s.now ≤ now)
    (h : SweepFresh now task) :
    (task.action cfg reply).Next cfg s s' (List.Forall (SweepFresh now)) := by
  refine next_of_parts [.sweep] (fun other hother ↦ ?_) fun hpart ↦ ?_
  · cases other <;> trivial
  cases task with
  | sweepStuckRows => exact Int.sub_le_sub_right hnow _
  | sweepList cutoff =>
    intro row hrow
    simp only [List.mem_filter, Store.mem_listByState, decide_eq_true_eq] at hrow
    exact ⟨hrow.1.2, Int.lt_of_lt_of_le hrow.2 h⟩
  | sweepLoop rows =>
    cases rows with
    | nil => trivial
    | cons row rest =>
      have hrest : SweepFresh now (.sweepLoop rest) := fun other hother ↦
        h other (List.mem_cons_of_mem row hother)
      exact ⟨fun _ _ _ _ ↦ ⟨trivial, hrest⟩, fun _ ↦ hrest⟩
  | _ => cases hpart

/-- No call starts in the middle of a sweep. -/
theorem sweepFresh_of_callable {now : Time} {task : Task} (h : callable s task) :
    SweepFresh now task := by
  cases task <;> trivial

/-- On every run whose sweeps find the rows they listed unchanged, each row they move is stuck at
the instant of the write. -/
theorem sweep_moves_stuck {cluster : Provisioner.Cluster} {runners : Gh.Runners} {now : Time}
    (h : Along (step cfg) SweepsUnchanged (init cluster runners now) labels) :
    Along (step cfg) SweepsStuck (init cluster runners now) labels := by
  refine along_of_invariant (fun sys ↦ ∀ task ∈ sys.threads, SweepFresh sys.shared.now task)
    (fun sys act sys' hinv hunchanged hstep ↦ ⟨?_, ?_⟩) (by simp [init, SweepFresh]) h
  · intro row hrow current hcurrent
    obtain ⟨task, hmoving, htarget⟩ := Option.bind_eq_some_iff.mp hrow
    have hfresh := hinv task (mem_threads_of_moving hmoving)
    rw [hunchanged row hrow current hcurrent]
    cases task with
    | sweepLoop rows =>
      cases rows with
      | nil => cases htarget
      | cons first rest =>
        cases htarget
        exact hfresh row List.mem_cons_self
    | _ => cases htarget
  · have hnow := step_now hstep
    exact step_threads hstep hinv
      (fun reply _ _ hfresh ↦ sweepFresh_next hnow (hfresh.mono hnow))
      (fun _ _ hfresh ↦ hfresh.mono hnow) (fun _ ↦ sweepFresh_of_callable) (fun _ _ ↦ trivial) trivial

/-- A sweep that drains a row still Provisioning: its clone worker never came back. -/
theorem sweep_moves_stuck_provisioning :
    Along (step smallPool) SweepsStuck (init .empty ∅ Store.second)
        (adoptNothing ++ (cloneOne .warm false).take 5 ++
          [.elapse (6 * Store.minute).toNat, .call .sweepStuckRows, .fire 1 .ok, .fire 1 .ok,
            .fire 1 .ok]) ∧
      ∃ sys ∈ run (step smallPool) freshPool (adoptNothing ++ (cloneOne .warm false).take 5 ++
          [.elapse (6 * Store.minute).toNat, .call .sweepStuckRows, .fire 1 .ok, .fire 1 .ok,
            .fire 1 .ok]),
        (sys.shared.store.get 10000).map (·.state) = some .draining :=
  ⟨sweep_moves_stuck (by decide +kernel), by decide +kernel⟩

/-- Between the sweep's listing and its write the guest of a slow boot comes up, its row is acquired
and its job starts: the sweep then moves a Running row to Draining. -/
theorem sweep_drains_running_row :
    ∃ sys ∈ run (step smallPool) freshPool (adoptNothing ++ cloneOne .hot true ++
        [.elapse (6 * Store.minute).toNat, .call .sweepStuckRows, .fire 1 .ok, .fire 1 .ok,
          .fire 0 .ok, .fire 1 .ok, .call (.acquire "" 7 4), .fire 1 .ok,
          .call (.markRunning 10000 3), .fire 2 .ok]),
      ∃ sys' ∈ step smallPool sys (.fire 0 .ok),
        (sys.threads[0]?.bind Task.sweepTarget).map (·.vmid) = some 10000 ∧
        (sys.shared.store.get 10000).map (·.state) = some .running ∧
        (sys'.shared.store.get 10000).map (·.state) = some .draining := by
  decide +kernel

end ScalesetProxmox.Pool
