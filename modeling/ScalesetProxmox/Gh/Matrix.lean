import ScalesetProxmox.Store.Schema
import ScalesetProxmox.Text.Separated

/-!
# The reconciler's transition matrix

`stateTransitionTable` and `applyMatrix` of `internal/gh/reconciler.go`: for each listed row, the
row's state and what GitHub says of its runner pick a cell, and the cell says whether to promote the
row, destroy it, or leave it. Most destroying cells wait until the row is older than a grace, counted
from the row's last state change.

The grace of a Running row is therefore not counted from the observation that started it.
`graceWindow_respected_iff` says exactly when a sequence of ticks gives every running job the full
window all the same.
-/

namespace ScalesetProxmox.Gh

open Store (VMID Time State second minute)

/-- What GitHub reports of a registered runner. -/
structure RunnerInfo where
  id : ℤ
  online : Bool
  busy : Bool
  deriving DecidableEq, Repr

/-- Registered runners by name, which is also the VM's name. -/
abbrev Runners := AList fun _ : String ↦ RunnerInfo

/-- The registered runners whose name has the prefix. -/
def listRunnersByPrefix (runners : Runners) (start : String) : Runners where
  entries := runners.entries.filter fun entry ↦ Text.hasPrefix entry.1 start
  nodupKeys := runners.nodupKeys.sublist List.filter_sublist

theorem lookup_listRunnersByPrefix (runners : Runners) (start name : String) :
    (listRunnersByPrefix runners start).lookup name =
      if Text.hasPrefix name start then runners.lookup name else none := by
  ext info
  rw [← Option.mem_def, AList.mem_lookup_iff]
  by_cases hpre : Text.hasPrefix name start = true
  · rw [if_pos hpre, ← Option.mem_def, AList.mem_lookup_iff]
    simp [listRunnersByPrefix, hpre]
  · simp [listRunnersByPrefix, hpre]

/-- The row fields the reconciler is shown. -/
structure RowSnapshot where
  vmid : VMID
  node : String := ""
  name : String
  profile : String := ""
  state : State
  jobID : ℤ := 0
  runnerID : ℤ := 0
  recycleCount : ℕ := 0
  stateSince : Time
  createdAt : Time := 0
  deriving DecidableEq, Repr

inductive Label
  | missing
  | offline
  | busy
  | idle
  deriving DecidableEq, Repr

def ghStateLabel : Option RunnerInfo → Label
  | none => .missing
  | some runner => if !runner.online then .offline else if runner.busy then .busy else .idle

/-- The grace periods of the reconciler's configuration. -/
structure Graces where
  assignedGrace : Time
  assignedOfflineGrace : Time
  runningIdleGrace : Time
  deriving DecidableEq, Repr

inductive TransitionOp
  | noop
  | promote
  | destroy
  deriving DecidableEq, Repr

/-- One cell of the table; `grace` is absent where the action does not wait. -/
structure TransitionAction where
  op : TransitionOp
  destroyMsg : String := ""
  mismatchKind : String := ""
  promoteMsg : String := ""
  promoteWarn : Bool := false
  grace : Option (Graces → Time) := none

def TransitionAction.noop : TransitionAction := { op := .noop }

/-- The row is still younger than the cell's grace. -/
def TransitionAction.waits (action : TransitionAction) (graces : Graces) (age : Time) : Bool :=
  match action.grace with
  | none => false
  | some grace => age < grace graces

variable {graces : Graces}

theorem TransitionAction.waits_eq_false {action : TransitionAction} {age : Time} :
    action.waits graces age = false ↔ ∀ grace ∈ action.grace, grace graces ≤ age := by
  unfold waits
  cases action.grace <;> simp

/-- The cells the source enumerates; every other combination is absent. -/
def stateTransitionTable : State → Label → Option TransitionAction
  | .assigned, .busy => some
      { op := .promote
        promoteMsg := "reconcile: promoting assigned->running (missed JobStarted)"
        mismatchKind := "promote_running" }
  | .assigned, .offline => some
      { op := .destroy
        destroyMsg := "assigned: runner registered then went offline"
        grace := some Graces.assignedOfflineGrace }
  | .assigned, .idle => some
      { op := .destroy
        destroyMsg := "assigned: runner online but never picked up a job"
        grace := some Graces.assignedGrace }
  | .assigned, .missing => some
      { op := .destroy
        destroyMsg := "assigned: runner never registered on GitHub"
        grace := some Graces.assignedGrace }
  | .running, .busy => some .noop
  | .running, .idle => some
      { op := .destroy
        destroyMsg := "running: runner went idle (missed JobCompleted)"
        grace := some Graces.runningIdleGrace }
  | .running, .offline => some
      { op := .destroy
        destroyMsg := "running: runner went offline"
        grace := some Graces.runningIdleGrace }
  -- the one destroying cell without a grace
  | .running, .missing => some
      { op := .destroy
        destroyMsg := "running: runner missing from GitHub" }
  | .recycling, _ => some .noop
  | .hot, .busy => some
      { op := .promote
        promoteMsg := "reconcile: hot row observed as busy on GitHub; promoting"
        promoteWarn := true
        mismatchKind := "promote_running" }
  | .hot, _ => some .noop
  | _, _ => none

/-- A call the reconciler makes on the pool. -/
inductive Call
  | promoteToRunning (vmid : VMID) (runnerID jobID : ℤ)
  | forceDestroy (vmid : VMID) (reason : String)
  deriving DecidableEq, Repr

def Call.destroys : Call → Bool
  | .forceDestroy _ _ => true
  | .promoteToRunning _ _ _ => false

/-- The runner id a promotion passes on, zero for a runner that is not registered. -/
def runnerIDOf (runner : Option RunnerInfo) : ℤ := (runner.map RunnerInfo.id).getD 0

/-- What one listed row makes the reconciler do. -/
def rowAction (graces : Graces) (now : Time) (runners : Runners) (row : RowSnapshot) : Option Call :=
  let runner := runners.lookup row.name
  let age := now - row.stateSince
  match stateTransitionTable row.state (ghStateLabel runner) with
  | none => none
  | some action =>
    if action.waits graces age then
      none
    else
      match action.op with
      | .noop => none
      | .promote => some (.promoteToRunning row.vmid (runnerIDOf runner) row.jobID)
      | .destroy => some (.forceDestroy row.vmid action.destroyMsg)

def Call.vmid : Call → VMID
  | .promoteToRunning v _ _ | .forceDestroy v _ => v

variable {runners : Runners} {row : RowSnapshot}

theorem vmid_of_rowAction {now : Time} {call : Call} (h : rowAction graces now runners row = some call) :
    call.vmid = row.vmid := by
  unfold rowAction at h
  dsimp only at h
  repeat' split at h
  all_goals cases h <;> rfl

/-- One pass of the reconciler: its clock reading and the two listings it acts on. -/
structure Tick where
  now : Time
  rows : List RowSnapshot
  runners : Runners

/-- The calls one pass makes, each with the row it is for. -/
def applyMatrix (graces : Graces) (tick : Tick) : List (RowSnapshot × Call) :=
  tick.rows.filterMap fun row ↦ (rowAction graces tick.now tick.runners row).map (row, ·)

/-- What the pass saw of the row's runner. -/
def Tick.label (tick : Tick) (row : RowSnapshot) : Label := ghStateLabel (tick.runners.lookup row.name)

theorem mem_applyMatrix {tick : Tick} {call : Call} : (row, call) ∈ applyMatrix graces tick ↔
      row ∈ tick.rows ∧ rowAction graces tick.now tick.runners row = some call := by
  simp only [applyMatrix, List.mem_filterMap, Option.map_eq_some_iff, Prod.mk.injEq]
  constructor
  · rintro ⟨listed, hmem, _, hcall, rfl, rfl⟩
    exact ⟨hmem, hcall⟩
  · rintro ⟨hmem, hcall⟩
    exact ⟨row, hmem, call, hcall, rfl, rfl⟩

/-- A row that is destroyed was destroyable in its cell, and old enough for it. -/
theorem rowAction_eq_forceDestroy {now : Time} {v : VMID} {reason : String} :
    rowAction graces now runners row = some (.forceDestroy v reason) ↔
      ∃ action, stateTransitionTable row.state (ghStateLabel (runners.lookup row.name)) = some action ∧
        action.op = .destroy ∧ v = row.vmid ∧ reason = action.destroyMsg ∧
        ∀ grace ∈ action.grace, grace graces ≤ now - row.stateSince := by
  unfold rowAction
  dsimp only
  cases hcell : stateTransitionTable row.state (ghStateLabel (runners.lookup row.name)) with
  | none => simp
  | some action =>
    simp only [Option.some.injEq, exists_eq_left']
    rw [← TransitionAction.waits_eq_false]
    cases action.waits graces (now - row.stateSince) <;> cases action.op <;> simp [eq_comm]

theorem destroyed_iff {now : Time} :
    (∃ call, rowAction graces now runners row = some call ∧ call.destroys) ↔
      ∃ action, stateTransitionTable row.state (ghStateLabel (runners.lookup row.name)) = some action ∧
        action.op = .destroy ∧ ∀ grace ∈ action.grace, grace graces ≤ now - row.stateSince := by
  constructor
  · rintro ⟨call, hcall, hdestroys⟩
    cases call with
    | promoteToRunning => cases hdestroys
    | forceDestroy v reason =>
      obtain ⟨action, hcell, hop, -, -, hold⟩ := rowAction_eq_forceDestroy.mp hcall
      exact ⟨action, hcell, hop, hold⟩
  · rintro ⟨action, hcell, hop, hold⟩
    exact ⟨_, rowAction_eq_forceDestroy.mpr ⟨action, hcell, hop, rfl, rfl, hold⟩, rfl⟩

theorem running_blip_destroyed_iff {now : Time} (hstate : row.state = .running)
    (hlabel : ghStateLabel (runners.lookup row.name) = .offline ∨
      ghStateLabel (runners.lookup row.name) = .idle) :
    (∃ call, rowAction graces now runners row = some call ∧ call.destroys) ↔
      graces.runningIdleGrace ≤ now - row.stateSince := by
  rw [destroyed_iff, hstate]
  rcases hlabel with hlabel | hlabel <;> simp [hlabel, stateTransitionTable]

/-! ## The grace window over a sequence of ticks -/

/-- Some pass saw the row's runner busy within the grace before `now`. -/
def BusyWithinGrace (graces : Graces) (ticks : List Tick) (now : Time) (row : RowSnapshot) : Prop :=
  ∃ seen ∈ ticks, now - graces.runningIdleGrace ≤ seen.now ∧ seen.now ≤ now ∧ seen.label row = .busy

instance (graces : Graces) (ticks : List Tick) (now : Time) (row : RowSnapshot) :
    Decidable (BusyWithinGrace graces ticks now row) :=
  inferInstanceAs (Decidable (∃ seen ∈ ticks, _))

/-- No pass destroys a Running row on an offline or idle observation while its runner was seen busy
within the grace. -/
def GraceWindowRespected (graces : Graces) (ticks : List Tick) : Prop :=
  ∀ tick ∈ ticks, ∀ made ∈ applyMatrix graces tick, made.1.state = .running →
    (tick.label made.1 = .offline ∨ tick.label made.1 = .idle) → made.2.destroys = true →
    ¬BusyWithinGrace graces ticks tick.now made.1

instance (graces : Graces) (ticks : List Tick) : Decidable (GraceWindowRespected graces ticks) :=
  inferInstanceAs (Decidable (∀ tick ∈ ticks, ∀ made ∈ applyMatrix graces tick, _))

/-- The window is respected exactly when every Running row that is seen offline or idle within the
grace of a busy observation became Running less than a grace ago. -/
theorem graceWindow_respected_iff (graces : Graces) (ticks : List Tick) :
    GraceWindowRespected graces ticks ↔
      ∀ tick ∈ ticks, ∀ row ∈ tick.rows, row.state = .running →
        (tick.label row = .offline ∨ tick.label row = .idle) →
        BusyWithinGrace graces ticks tick.now row →
        tick.now - row.stateSince < graces.runningIdleGrace := by
  constructor
  · intro hrespected tick htick row hrow hstate hlabel hbusy
    by_contra hold
    obtain ⟨call, hcall, hdestroys⟩ :=
      (running_blip_destroyed_iff hstate hlabel).mpr (not_lt.mp hold)
    exact hrespected tick htick (row, call) (mem_applyMatrix.mpr ⟨hrow, hcall⟩) hstate hlabel
      hdestroys hbusy
  · intro hyoung tick htick made hmade hstate hlabel hdestroys hbusy
    obtain ⟨hrow, hcall⟩ := mem_applyMatrix.mp hmade
    have hold := (running_blip_destroyed_iff hstate hlabel).mp ⟨made.2, hcall, hdestroys⟩
    exact absurd (hyoung tick htick made.1 hrow hstate hlabel hbusy) (not_lt.mpr hold)

/-- A job that has run for an hour, seen busy at one pass and offline fifteen seconds later, is
destroyed at once under a grace of five minutes. -/
theorem offline_blip_kills_running_job :
    ¬GraceWindowRespected
      { assignedGrace := 5 * minute, assignedOfflineGrace := 2 * minute, runningIdleGrace := 5 * minute }
      [{ now := 60 * minute
         rows := [{ vmid := 10000, name := "gh-runner-ci-10000", state := .running, stateSince := 1 }]
         runners := AList.singleton "gh-runner-ci-10000" { id := 7, online := true, busy := true } },
       { now := 60 * minute + 15 * second
         rows := [{ vmid := 10000, name := "gh-runner-ci-10000", state := .running, stateSince := 1 }]
         runners :=
           AList.singleton "gh-runner-ci-10000" { id := 7, online := false, busy := false } }] := by
  decide

end ScalesetProxmox.Gh
