import ScalesetProxmox.Gh.Listing

/-!
# One pass of the reconciler

`Tick` of `internal/gh/reconciler.go`: page through the runners, list the rows, apply the matrix,
and then remove what has been an orphan for the whole grace, first the registered runners without a
row and then the VMs without one. Both removals remember when a candidate was first seen.

The page cap matters to every step that reads a runner's absence. The orphan tracking is told of a
truncated listing and the matrix is not: `noDecisionFromAbsence_iff` says which rows it must not
find for a truncated pass to be harmless.
-/

namespace ScalesetProxmox.Gh

open Store (VMID Time minute)

variable {runners : Runners}

/-! ## Orphans and their grace -/

section Orphans

variable {κ α : Type}

abbrev FirstSeen (κ : Type) := AList fun _ : κ ↦ Time

/-- Drop the candidates that do not satisfy `keep`. -/
def FirstSeen.prune (keep : κ → Bool) (firstSeen : FirstSeen κ) : FirstSeen κ where
  entries := firstSeen.entries.filter fun entry ↦ keep entry.1
  nodupKeys := firstSeen.nodupKeys.sublist List.filter_sublist

theorem mem_prune {keep : κ → Bool} {firstSeen : FirstSeen κ} {k : κ} :
    k ∈ firstSeen.prune keep ↔ k ∈ firstSeen ∧ keep k = true := by
  simp only [AList.mem_keys, AList.keys, List.keys, FirstSeen.prune, List.mem_map, List.mem_filter]
  constructor
  · rintro ⟨entry, ⟨hmem, hkeep⟩, rfl⟩
    exact ⟨⟨entry, hmem, rfl⟩, hkeep⟩
  · rintro ⟨⟨entry, hmem, rfl⟩, hkeep⟩
    exact ⟨entry, ⟨hmem, hkeep⟩, rfl⟩

/-- Where a sweep stands: the candidates' first-seen times, and whose removal it asked for. -/
structure Sweep (κ α : Type) where
  firstSeen : FirstSeen κ
  asked : List α := []

variable [DecidableEq κ]

/-- One candidate. `gone` is whether its removal succeeds; a candidate that stays is tried again. -/
def sweepOrphan (key : α → κ) (known : κ → Bool) (gone : α → Bool) (grace now : Time)
    (sweep : Sweep κ α) (candidate : α) : Sweep κ α :=
  if known (key candidate) then
    sweep
  else
    match sweep.firstSeen.lookup (key candidate) with
    | none => { sweep with firstSeen := sweep.firstSeen.insert (key candidate) now }
    | some first =>
      if now - first < grace then
        sweep
      else
        { firstSeen :=
            if gone candidate then sweep.firstSeen.erase (key candidate) else sweep.firstSeen
          asked := sweep.asked ++ [candidate] }

def sweepOrphans (key : α → κ) (known : κ → Bool) (gone : α → Bool) (grace now : Time)
    (firstSeen : FirstSeen κ) (candidates : List α) : Sweep κ α :=
  candidates.foldl (sweepOrphan key known gone grace now) { firstSeen := firstSeen }

/-- A step of the sweep drops no candidate but the one it looks at. -/
theorem mem_sweepOrphan {key : α → κ} {known : κ → Bool} {gone : α → Bool} {grace now : Time}
    {sweep : Sweep κ α} {candidate : α} {k : κ} (hk : k ∈ sweep.firstSeen)
    (hne : k ≠ key candidate) :
    k ∈ (sweepOrphan key known gone grace now sweep candidate).firstSeen := by
  unfold sweepOrphan
  repeat' split
  all_goals simp_all [AList.mem_insert, AList.mem_erase]

theorem exists_candidate_of_dropped {key : α → κ} {known : κ → Bool} {gone : α → Bool}
    {grace now : Time} {candidates : List α} {sweep : Sweep κ α} {k : κ}
    (hk : k ∈ sweep.firstSeen)
    (hdropped : k ∉ (candidates.foldl (sweepOrphan key known gone grace now) sweep).firstSeen) :
    ∃ candidate ∈ candidates, key candidate = k := by
  induction candidates generalizing sweep with
  | nil => exact absurd hk hdropped
  | cons candidate rest ih =>
    by_cases hkey : k = key candidate
    · exact ⟨candidate, List.mem_cons_self, hkey.symm⟩
    · obtain ⟨other, hother, hk⟩ := ih (mem_sweepOrphan hk hkey) hdropped
      exact ⟨other, List.mem_cons_of_mem _ hother, hk⟩

end Orphans

/-! ## The pass -/

/-- The configuration a pass reads. -/
structure Config where
  graces : Graces
  orphanGrace : Time
  runnerNamePrefix : String
  deriving DecidableEq, Repr

/-- What the reconciler keeps from one pass to the next. -/
structure Reconciler where
  orphanFirstSeen : FirstSeen String := ∅
  orphanProxmoxFirstSeen : FirstSeen VMID := ∅

/-- An owned VM as the provisioner lists it. -/
structure OwnedVM where
  vmid : VMID
  node : String
  deriving DecidableEq, Repr

/-- What GitHub answers to the removal of a runner. -/
inductive Removal
  | done
  | failed (status : Option ℕ)
  deriving DecidableEq, Repr

/-- A runner that is already gone counts as removed. -/
def removeRunner : Removal → Bool
  | .done => true
  | .failed status => status = some 404

/-- All that a pass reads from outside. The clock is read once for each of its three steps. -/
structure Pass where
  api : Api
  rows : Option (List RowSnapshot)
  matrixNow : Time
  runnersNow : Time
  vmsNow : Time
  removal : ℤ → Removal := fun _ ↦ .done
  ownedVMs : Option (List OwnedVM) := some []
  destroyed : OwnedVM → Bool := fun _ ↦ true

def knownName (rows : List RowSnapshot) (name : String) : Bool := rows.any fun row ↦ row.name = name

def knownVMID (rows : List RowSnapshot) (v : VMID) : Bool := rows.any fun row ↦ row.vmid = v

/-- Candidates that got a row are dropped; those that a complete, non-empty listing does not show
are dropped too. -/
def pruneOrphanTracking (known : String → Bool) (runners : Runners) (truncated : Bool)
    (firstSeen : FirstSeen String) : FirstSeen String :=
  firstSeen.prune fun name ↦
    !known name && ((runners.entries.isEmpty || truncated) || (runners.lookup name).isSome)

abbrev RunnerEntry := Sigma fun _ : String ↦ RunnerInfo

def cleanupOrphanRunners (cfg : Config) (pass : Pass) (rows : List RowSnapshot) (runners : Runners)
    (truncated : Bool) (firstSeen : FirstSeen String) : Sweep String RunnerEntry :=
  sweepOrphans Sigma.fst (knownName rows) (fun entry ↦ removeRunner (pass.removal entry.2.id))
    cfg.orphanGrace pass.runnersNow
    (pruneOrphanTracking (knownName rows) runners truncated firstSeen) runners.entries

/-- The same for VMs; when they cannot be listed, nothing is dropped either. -/
def sweepProxmoxOrphans (cfg : Config) (pass : Pass) (rows : List RowSnapshot)
    (firstSeen : FirstSeen VMID) : Sweep VMID OwnedVM :=
  match pass.ownedVMs with
  | none => { firstSeen := firstSeen }
  | some vms =>
    sweepOrphans OwnedVM.vmid (knownVMID rows) pass.destroyed cfg.orphanGrace pass.vmsNow
      (firstSeen.prune fun v ↦ !knownVMID rows v) vms

inductive TickError
  | listRunners (status : Option ℕ)
  | listRows
  deriving DecidableEq, Repr

/-- What a pass saw, what it did, and what it remembers. -/
structure TickResult where
  rows : List RowSnapshot
  runners : Runners
  truncated : Bool
  calls : List (RowSnapshot × Call)
  removals : List RunnerEntry
  destroys : List OwnedVM
  reconciler : Reconciler

/-- The matrix is not told whether the listing is truncated. -/
def tick (cfg : Config) (reconciler : Reconciler) (pass : Pass) : Except TickError TickResult :=
  match Listing.listRunnersByPrefix pass.api cfg.runnerNamePrefix with
  | .error status => .error (.listRunners status)
  | .ok (runners, truncated) =>
    match pass.rows with
    | none => .error .listRows
    | some rows =>
      let calls := applyMatrix cfg.graces { now := pass.matrixNow, rows := rows, runners := runners }
      let runnerSweep :=
        cleanupOrphanRunners cfg pass rows runners truncated reconciler.orphanFirstSeen
      let vmSweep := sweepProxmoxOrphans cfg pass rows reconciler.orphanProxmoxFirstSeen
      .ok
        { rows := rows
          runners := runners
          truncated := truncated
          calls := calls
          removals := runnerSweep.asked
          destroys := vmSweep.asked
          reconciler :=
            { orphanFirstSeen := runnerSweep.firstSeen
              orphanProxmoxFirstSeen := vmSweep.firstSeen } }

variable {cfg : Config} {pass : Pass}

theorem tick_eq_ok {reconciler : Reconciler} {result : TickResult}
    (h : tick cfg reconciler pass = .ok result) :
    Listing.listRunnersByPrefix pass.api cfg.runnerNamePrefix = .ok (result.runners, result.truncated) ∧
    pass.rows = some result.rows ∧
    result.calls = applyMatrix cfg.graces
      { now := pass.matrixNow, rows := result.rows, runners := result.runners } ∧
    result.reconciler.orphanFirstSeen = (cleanupOrphanRunners cfg pass result.rows result.runners
      result.truncated reconciler.orphanFirstSeen).firstSeen := by
  unfold tick at h
  split at h
  · cases h
  next runners truncated hlisting =>
    split at h
    · cases h
    next rows hrows =>
      cases h
      exact ⟨hlisting, hrows, rfl, rfl⟩

/-! ## Decisions from absence -/

/-- The cap cuts the listing of this pass short. -/
def Truncated (cfg : Config) (pass : Pass) : Prop :=
  ∃ runners, Listing.listRunnersByPrefix pass.api cfg.runnerNamePrefix = .ok (runners, true)

/-- A pass with a truncated listing destroys no row for the lack of its runner, and it drops a
tracked candidate only for having a row or for being listed. -/
def NoDecisionFromAbsence (cfg : Config) (reconciler : Reconciler) (pass : Pass) : Prop :=
  ∀ result, tick cfg reconciler pass = .ok result → result.truncated = true →
    (∀ made ∈ result.calls, made.2.destroys = true →
      ghStateLabel (result.runners.lookup made.1.name) ≠ .missing) ∧
    ∀ name ∈ reconciler.orphanFirstSeen, name ∉ result.reconciler.orphanFirstSeen →
      knownName result.rows name = true ∨ (result.runners.lookup name).isSome

theorem ghStateLabel_eq_missing {runner : Option RunnerInfo} :
    ghStateLabel runner = .missing ↔ runner = none := by
  cases runner with
  | none => simp [ghStateLabel]
  | some runner =>
    simp only [ghStateLabel]
    split_ifs <;> simp

theorem missing_destroyed_iff {graces : Graces} {now : Time} {row : RowSnapshot}
    (hmissing : ghStateLabel (runners.lookup row.name) = .missing) :
    (∃ call, rowAction graces now runners row = some call ∧ call.destroys) ↔
      row.state = .running ∨ row.state = .assigned ∧ graces.assignedGrace ≤ now - row.stateSince := by
  rw [destroyed_iff, hmissing]
  -- only the cells of Running and Assigned rows destroy
  cases row.state <;> simp [stateTransitionTable, TransitionAction.noop]

/-- With a truncated listing, the orphan tracking drops nothing for being absent. -/
theorem known_or_listed_of_dropped {rows : List RowSnapshot} {firstSeen : FirstSeen String} {name : String}
    (hname : name ∈ firstSeen)
    (hdropped : name ∉ (cleanupOrphanRunners cfg pass rows runners true firstSeen).firstSeen) :
    knownName rows name ∨ (runners.lookup name).isSome := by
  by_cases hknown : knownName rows name = true
  · exact .inl hknown
  right
  have hkept : name ∈ pruneOrphanTracking (knownName rows) runners true firstSeen := by
    simpa [pruneOrphanTracking, mem_prune, hname] using hknown
  obtain ⟨entry, hentry, rfl⟩ := exists_candidate_of_dropped hkept hdropped
  rw [AList.lookup_isSome]
  exact List.mem_keys_of_mem hentry

/-- A row without a runner that survives the matrix of a truncated pass is in neither of the two
cells that destroy it. -/
theorem spared_of_noDecisionFromAbsence {reconciler : Reconciler} {rows : List RowSnapshot}
    {row : RowSnapshot} (hnone : NoDecisionFromAbsence cfg reconciler pass)
    (hlisting : Listing.listRunnersByPrefix pass.api cfg.runnerNamePrefix = .ok (runners, true))
    (hrows : pass.rows = some rows) (hrow : row ∈ rows) (habsent : runners.lookup row.name = none) :
    row.state ≠ .running ∧
      (row.state = .assigned → pass.matrixNow - row.stateSince < cfg.graces.assignedGrace) := by
  obtain ⟨result, hresult⟩ : ∃ result, tick cfg reconciler pass = .ok result := by
    simp [tick, hlisting, hrows]
  obtain ⟨hlisting', hrows', hcalls, _⟩ := tick_eq_ok hresult
  rw [hlisting, Except.ok.injEq, Prod.mk.injEq] at hlisting'
  rw [hrows, Option.some.injEq] at hrows'
  have hmissing : ghStateLabel (result.runners.lookup row.name) = .missing := by
    rw [ghStateLabel_eq_missing, ← hlisting'.1, habsent]
  have hspared : ¬∃ call, rowAction cfg.graces pass.matrixNow result.runners row = some call ∧
      call.destroys = true := by
    rintro ⟨call, hcall, hdestroys⟩
    refine (hnone result hresult hlisting'.2.symm).1 (row, call) ?_ hdestroys hmissing
    rw [hcalls]
    exact mem_applyMatrix.mpr ⟨hrows' ▸ hrow, hcall⟩
  rw [missing_destroyed_iff hmissing, not_or, not_and, not_le] at hspared
  exact hspared

/-- A truncated pass decides nothing from absence exactly when every listed row whose runner is on
none of the fetched pages is neither Running, nor Assigned for as long as the grace. -/
theorem noDecisionFromAbsence_iff (cfg : Config) (reconciler : Reconciler) (pass : Pass) :
    NoDecisionFromAbsence cfg reconciler pass ↔
      (Truncated cfg pass → ∀ rows ∈ pass.rows, ∀ row ∈ rows,
        ¬(Text.hasPrefix row.name cfg.runnerNamePrefix = true ∧ OnFetchedPage pass.api row.name) →
        row.state ≠ .running ∧
          (row.state = .assigned → pass.matrixNow - row.stateSince < cfg.graces.assignedGrace)) := by
  constructor
  · rintro hnone ⟨runners, hlisting⟩ rows hrows row hrow habsent
    rw [← lookup_listRunnersByPrefix_isSome hlisting, Option.not_isSome_iff_eq_none] at habsent
    exact spared_of_noDecisionFromAbsence hnone hlisting hrows hrow habsent
  · intro hharmless result hresult htruncated
    obtain ⟨hlisting, hrows, hcalls, htracking⟩ := tick_eq_ok hresult
    rw [htruncated] at hlisting htracking
    constructor
    · intro made hmade hdestroys hmissing
      rw [hcalls] at hmade
      obtain ⟨hrow, hcall⟩ := mem_applyMatrix.mp hmade
      obtain ⟨hrunning, hassigned⟩ := hharmless ⟨_, hlisting⟩ _ hrows made.1 hrow (by
        rw [← lookup_listRunnersByPrefix_isSome hlisting, Option.not_isSome_iff_eq_none]
        exact ghStateLabel_eq_missing.mp hmissing)
      rcases (missing_destroyed_iff hmissing).mp ⟨made.2, hcall, hdestroys⟩ with hstate | hold
      · exact hrunning hstate
      · exact absurd (hassigned hold.1) (not_lt.mpr hold.2)
    · intro name hname hdropped
      rw [htracking] at hdropped
      exact known_or_listed_of_dropped hname hdropped

/-- An organisation with five thousand other runners, and ours on the page after them. -/
def crowdedScope : List ListedRunner :=
  (List.range 5000).map (fun i ↦
    { id := i, name := "build-agent-" ++ toString i, status := "online", busy := true }) ++
  [{ id := 5000, name := "gh-runner-ci-10000", status := "online", busy := true }]

def ciConfig : Config where
  graces :=
    { assignedGrace := 5 * minute, assignedOfflineGrace := 2 * minute, runningIdleGrace := 5 * minute }
  orphanGrace := minute
  runnerNamePrefix := "gh-runner-ci-"

/-- One minute into a job, its runner online and busy. -/
def crowdedPass : Pass where
  api := serve crowdedScope
  rows := some
    [{ vmid := 10000, name := "gh-runner-ci-10000", state := .running, stateSince := 0 }]
  matrixNow := minute
  runnersNow := minute
  vmsNow := minute

theorem lookup_crowdedScope :
    (addPage "gh-runner-ci-" ∅ (crowdedScope.take (maxListPages * perPage))).lookup
      "gh-runner-ci-10000" = none := by
  rw [← Option.not_isSome_iff_eq_none, lookup_addPage_isSome]
  rintro (hempty | ⟨_, runner, hrunner, hname⟩)
  · simp at hempty
  · have htake : crowdedScope.take (maxListPages * perPage) = (List.range 5000).map fun i ↦
        { id := i, name := "build-agent-" ++ toString i, status := "online", busy := true } :=
      List.take_left' (by simp [maxListPages, perPage])
    rw [htake] at hrunner
    obtain ⟨i, _, rfl⟩ := List.mem_map.mp hrunner
    have hchars := congrArg (fun name ↦ name.toList.head?) hname
    simp [String.toList_append] at hchars

/-- A busy runner beyond the page cap looks deregistered, and its running job is destroyed. -/
theorem truncated_listing_kills_running_job :
    Truncated ciConfig crowdedPass ∧ ¬NoDecisionFromAbsence ciConfig {} crowdedPass := by
  have hlisting := listRunnersByPrefix_serve crowdedScope "gh-runner-ci-"
  have hmore : decide (maxListPages * perPage < crowdedScope.length) := by
    simp [crowdedScope, maxListPages, perPage]
  rw [hmore] at hlisting
  refine ⟨⟨_, hlisting⟩, fun hnone ↦ ?_⟩
  exact (spared_of_noDecisionFromAbsence hnone hlisting rfl List.mem_cons_self
    lookup_crowdedScope).1 rfl

end ScalesetProxmox.Gh
