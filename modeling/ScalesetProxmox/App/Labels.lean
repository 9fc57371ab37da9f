import ScalesetProxmox.Text.Separated
import ScalesetProxmox.Transition.Run
import Mathlib.Data.List.Sort
import Mathlib.Data.String.Basic

/-!
# The labels of a scale set

`ensureScaleSetForEntry` looks the scale set up on GitHub and creates it if it is missing. When its
labels differ from the configured ones it is deleted and created again with the configured labels and
those that GitHub had assigned itself, the ones of type System. A process does this at most once.

When the delete succeeds and the create fails, the next attempt finds no scale set and takes the path
of a new one, which knows of no System labels. `system_labels_kept_iff` says that they are lost in no
other way.

A call that fails changes nothing. What GitHub stores is what it was sent.
-/

namespace ScalesetProxmox.App.Labels

open Text (quote)
open Transition

structure Label where
  name : String
  type : String
  deriving DecidableEq, Repr

/-- What an entry of the configuration says about its scale set on GitHub. -/
structure Identity where
  name : String
  labels : List String
  runnerGroup : String := ""
  deriving DecidableEq, Repr

/-- `RunnerScaleSetStatistic`, the fields that are read. -/
structure Statistics where
  totalAvailableJobs : ℤ := 0
  totalAcquiredJobs : ℤ := 0
  totalAssignedJobs : ℤ := 0
  totalRunningJobs : ℤ := 0
  totalRegisteredRunners : ℤ := 0
  deriving DecidableEq, Repr

structure RunnerScaleSet where
  id : ℕ
  labels : List Label
  deriving DecidableEq, Repr

/-! ## Label names -/

/-- The characters that `strings.EqualFold` takes for one another, as far as an ASCII text can tell: the
long s and the Kelvin sign fold to ASCII letters. -/
def foldChar (c : Char) : Char :=
  if c.toNat = 0x17f then 's' else if c.toNat = 0x212a then 'k' else c.toLower

/-- `strings.EqualFold` with an ASCII text. -/
def equalFold (text ascii : String) : Bool := text.toList.map foldChar = ascii.toList.map foldChar

def Label.isSystem (label : Label) : Bool := equalFold label.type "System"

/-- `slices.Compact`. -/
def compact : List String → List String
  | [] => []
  | [name] => [name]
  | first :: second :: rest =>
    if first = second then compact (second :: rest) else first :: compact (second :: rest)

def sortedUnique (names : List String) : List String := compact (names.insertionSort (· ≤ ·))

def labelNames (labels : List Label) : List String := sortedUnique (labels.map (·.name))

/-- The configured names and those of the System labels that GitHub holds. -/
def desiredLabelNames (entry : Identity) (existing : List Label) : List String :=
  sortedUnique (entry.labels ++ (existing.filter (·.isSystem)).map (·.name))

/-- The type of the last label of that name, empty if there is none. -/
def typeOf (existing : List Label) (name : String) : String :=
  ((existing.reverse.find? (·.name = name)).map (·.type)).getD ""

def labelsWithTypes (want : List String) (existing : List Label) : List Label :=
  want.map fun name ↦
    { name := name, type := if typeOf existing name = "" then "User" else typeOf existing name }

/-- The work that GitHub reports for the scale set, empty for none. -/
def scaleSetWorkInFlight (s : Statistics) : String :=
  " ".intercalate
    (([("available_jobs", s.totalAvailableJobs), ("acquired_jobs", s.totalAcquiredJobs),
      ("assigned_jobs", s.totalAssignedJobs), ("running_jobs", s.totalRunningJobs),
      ("registered_runners", s.totalRegisteredRunners)].filter (0 < ·.2)).map
        fun counter ↦ counter.1 ++ "=" ++ toString counter.2)

/-! ## Calls to GitHub -/

/-- What GitHub holds for the name, and whether this process has recreated it. -/
structure World where
  scaleSet : Option RunnerScaleSet
  nextID : ℕ
  recreated : Bool := false
  deriving DecidableEq, Repr

/-- How the calls of one attempt fare: the fault of those that fail, and the statistics that the lookup
returns. -/
structure Answers where
  group : Option String := none
  lookup : Option String := none
  statistics : Option Statistics := some {}
  delete : Option String := none
  create : Option String := none
  deriving DecidableEq, Repr

def createRunnerScaleSet (w : World) (fault : Option String) (labels : List Label) :
    World × Except String RunnerScaleSet :=
  match fault with
  | none =>
    let set : RunnerScaleSet := { id := w.nextID, labels := labels }
    ({ w with scaleSet := some set, nextID := w.nextID + 1 }, .ok set)
  | some fault => (w, .error fault)

def deleteRunnerScaleSet (w : World) (fault : Option String) : World × Except String Unit :=
  match fault with
  | none => ({ w with scaleSet := none }, .ok ())
  | some fault => (w, .error fault)

def recreateScaleSetForLabels (entry : Identity) (answers : Answers) (w : World)
    (existing : RunnerScaleSet) (want : List String) : World × Except String RunnerScaleSet :=
  match answers.statistics with
  | none => (w, .ok existing)
  | some statistics =>
    if scaleSetWorkInFlight statistics ≠ "" then (w, .ok existing)
    else if w.recreated then (w, .ok existing)
    else
      match deleteRunnerScaleSet w answers.delete with
      | (w, .error _) => (w, .ok existing)
      | (w, .ok _) =>
        let w := { w with recreated := true }
        match createRunnerScaleSet w answers.create (labelsWithTypes want existing.labels) with
        | (w, .error fault) => (w, .error
            s!"recreate runner scale set {quote entry.name}: deleted id {existing.id} but create failed: {fault}")
        | (w, .ok created) => (w, .ok created)

def reconcileScaleSetLabels (entry : Identity) (answers : Answers) (w : World)
    (existing : RunnerScaleSet) : World × Except String RunnerScaleSet :=
  if entry.labels = [] then (w, .ok existing)
  else if desiredLabelNames entry existing.labels = labelNames existing.labels then (w, .ok existing)
  else
    recreateScaleSetForLabels entry answers w existing (desiredLabelNames entry existing.labels)

/-- The labels of a scale set that is created because there is none. -/
def userLabels (entry : Identity) : List Label :=
  entry.labels.map fun name ↦ { name := name, type := "User" }

def ensureScaleSetForEntry (entry : Identity) (answers : Answers) (w : World) :
    World × Except String RunnerScaleSet :=
  match if entry.runnerGroup = "" then none else answers.group with
  | some fault => (w, .error s!"get runner group {quote entry.runnerGroup}: {fault}")
  | none =>
    match answers.lookup with
    | some fault => (w, .error s!"lookup runner scale set {quote entry.name}: {fault}")
    | none =>
      match w.scaleSet with
      | some existing =>
        match reconcileScaleSetLabels entry answers w existing with
        | (w, .error err) => (w, .error s!"reconcile runner scale set labels: {err}")
        | (w, .ok set) => (w, .ok set)
      | none =>
        match createRunnerScaleSet w answers.create (userLabels entry) with
        | (w, .error fault) => (w, .error s!"create runner scale set: {fault}")
        | (w, .ok created) => (w, .ok created)

/-! ## What happens to label names and types -/

theorem mem_compact {name : String} {names : List String} : name ∈ compact names ↔ name ∈ names := by
  fun_induction compact names with
  | case1 => rfl
  | case2 => rfl
  | case3 second rest ih => simp [ih]
  | case4 first second rest hne ih => simp [ih]

theorem mem_sortedUnique {name : String} {names : List String} :
    name ∈ sortedUnique names ↔ name ∈ names := by
  rw [sortedUnique, mem_compact, List.mem_insertionSort]

/-- Equal names stand next to each other in a sorted list. -/
theorem nodup_compact {names : List String} (hsorted : names.Pairwise (· ≤ ·)) : (compact names).Nodup := by
  fun_induction compact names with
  | case1 => exact List.nodup_nil
  | case2 => exact List.nodup_singleton _
  | case3 second rest ih => exact ih hsorted.of_cons
  | case4 first second rest hne ih =>
    refine List.nodup_cons.mpr ⟨fun hmem ↦ hne ?_, ih hsorted.of_cons⟩
    rw [mem_compact] at hmem
    obtain ⟨hfirst, hrest⟩ := List.pairwise_cons.mp hsorted
    rcases List.mem_cons.mp hmem with heq | hmem
    · exact heq
    · exact le_antisymm (hfirst second List.mem_cons_self) ((List.pairwise_cons.mp hrest).1 first hmem)

theorem nodup_sortedUnique (names : List String) : (sortedUnique names).Nodup :=
  nodup_compact (List.pairwise_insertionSort (· ≤ ·) names)

variable {label : Label} {existing original : List Label} {want : List String}

theorem Label.type_ne_of_isSystem (h : label.isSystem) : label.type ≠ "" := by
  intro hempty
  rw [Label.isSystem, hempty] at h
  exact absurd h (by decide)

theorem typeOf_of_mem (hnames : (existing.map (·.name)).Nodup) (hmem : label ∈ existing) :
    typeOf existing label.name = label.type := by
  have hfind : existing.reverse.find? (fun other ↦ decide (other.name = label.name)) = some label := by
    cases hsearch : existing.reverse.find? (fun other ↦ decide (other.name = label.name)) with
    | none =>
      have hnone := List.find?_eq_none.mp hsearch label (List.mem_reverse.mpr hmem)
      exact absurd (decide_eq_true rfl) hnone
    | some other =>
      have hother : other ∈ existing := List.mem_reverse.mp (List.mem_of_find?_eq_some hsearch)
      have hname : other.name = label.name := by simpa using List.find?_some hsearch
      rw [List.inj_on_of_nodup_map hnames hother hmem hname]
  rw [typeOf, hfind, Option.map_some, Option.getD_some]

/-- A label whose type GitHub has set goes up again as it is. -/
theorem mem_labelsWithTypes (hnames : (existing.map (·.name)).Nodup) (hmem : label ∈ existing)
    (htype : label.type ≠ "") (hwant : label.name ∈ want) : label ∈ labelsWithTypes want existing := by
  refine List.mem_map.mpr ⟨label.name, hwant, ?_⟩
  rw [typeOf_of_mem hnames hmem, if_neg htype]

theorem map_name_labelsWithTypes (want : List String) (existing : List Label) :
    (labelsWithTypes want existing).map (·.name) = want := by
  rw [labelsWithTypes, List.map_map]
  exact List.map_id'' (fun _ ↦ rfl) want

theorem name_mem_desiredLabelNames {entry : Identity} (hmem : label ∈ existing)
    (hsystem : label.isSystem) : label.name ∈ desiredLabelNames entry existing := by
  rw [desiredLabelNames, mem_sortedUnique]
  refine List.mem_append_right _ (List.mem_map_of_mem ?_)
  exact List.mem_filter.mpr ⟨hmem, hsystem⟩

/-! ## Attempts -/

def Keeps (original labels : List Label) : Prop :=
  ∀ label ∈ original, label.isSystem = true → label ∈ labels

instance (original labels : List Label) : Decidable (Keeps original labels) :=
  inferInstanceAs (Decidable (∀ _ ∈ _, _))

/-- A recreated scale set keeps what the deleted one had, and has no name twice. -/
theorem keeps_recreated {entry : Identity} (hnames : (existing.map (·.name)).Nodup)
    (hkeeps : Keeps original existing) :
    Keeps original (labelsWithTypes (desiredLabelNames entry existing) existing) := by
  intro label hmem hsystem
  have hexisting := hkeeps label hmem hsystem
  exact mem_labelsWithTypes hnames hexisting (Label.type_ne_of_isSystem hsystem)
    (name_mem_desiredLabelNames hexisting hsystem)

theorem not_keeps_userLabels {entry : Identity} (hmem : label ∈ original)
    (hsystem : label.isSystem) : ¬Keeps original (userLabels entry) := by
  intro hkeeps
  have huser : equalFold "User" "System" = false := by decide
  obtain ⟨name, -, rfl⟩ := List.mem_map.mp (hkeeps label hmem hsystem)
  exact Bool.false_ne_true (huser.symm.trans hsystem)

/-- How an attempt ends, and what GitHub holds then. -/
inductive Ensured (entry : Identity) (w : World) : World → Except String RunnerScaleSet → Prop
  | failed {err : String} : Ensured entry w w (.error err)
  /-- The scale set is left as it is. -/
  | kept {existing : RunnerScaleSet} (hset : w.scaleSet = some existing) : Ensured entry w w (.ok existing)
  /-- It is deleted and created again. -/
  | recreated {existing created : RunnerScaleSet} {w' : World} (hset : w.scaleSet = some existing)
      (hlabels : created.labels =
        labelsWithTypes (desiredLabelNames entry existing.labels) existing.labels)
      (hcreated : w'.scaleSet = some created) : Ensured entry w w' (.ok created)
  /-- It is deleted, and not created again. -/
  | lost {err : String} {w' : World} (hgone : w'.scaleSet = none) : Ensured entry w w' (.error err)
  /-- There was none, and a new one is created. -/
  | registered {created : RunnerScaleSet} {w' : World} (hnone : w.scaleSet = none)
      (hlabels : created.labels = userLabels entry) (hcreated : w'.scaleSet = some created) :
      Ensured entry w w' (.ok created)

variable {entry : Identity} {answers : Answers} {w w' : World} {result : Except String RunnerScaleSet}

theorem ensured_recreate {existing : RunnerScaleSet} (hset : w.scaleSet = some existing)
    (h : recreateScaleSetForLabels entry answers w existing (desiredLabelNames entry existing.labels) =
      (w', result)) : Ensured entry w w' result := by
  unfold recreateScaleSetForLabels at h
  cases hstatistics : answers.statistics with
  | none =>
    rw [hstatistics] at h
    cases h
    exact .kept hset
  | some statistics =>
    simp only [hstatistics] at h
    split_ifs at h
    · cases h
      exact .kept hset
    · cases h
      exact .kept hset
    · cases hdelete : answers.delete with
      | some fault =>
        rw [hdelete] at h
        cases h
        exact .kept hset
      | none =>
        rw [hdelete] at h
        cases hcreate : answers.create with
        | some fault =>
          rw [hcreate] at h
          cases h
          exact .lost rfl
        | none =>
          rw [hcreate] at h
          cases h
          exact .recreated hset rfl rfl

theorem ensured_reconcile {existing : RunnerScaleSet} (hset : w.scaleSet = some existing)
    (h : reconcileScaleSetLabels entry answers w existing = (w', result)) :
    Ensured entry w w' result := by
  unfold reconcileScaleSetLabels at h
  split_ifs at h
  · cases h
    exact .kept hset
  · cases h
    exact .kept hset
  · exact ensured_recreate hset h

theorem ensured_of_eq (h : ensureScaleSetForEntry entry answers w = (w', result)) :
    Ensured entry w w' result := by
  unfold ensureScaleSetForEntry at h
  split at h
  · cases h
    exact .failed
  · split at h
    · cases h
      exact .failed
    · cases hset : w.scaleSet with
      | some existing =>
        simp only [hset] at h
        cases hreconcile : reconcileScaleSetLabels entry answers w existing with
        | mk after outcome =>
          have hensured := ensured_reconcile hset hreconcile
          rw [hreconcile] at h
          cases outcome with
          | error err =>
            cases h
            cases hensured with
            | failed => exact .failed
            | lost hgone => exact .lost hgone
          | ok set =>
            cases h
            exact hensured
      | none =>
        simp only [hset] at h
        cases hcreate : answers.create with
        | some fault =>
          rw [hcreate] at h
          cases h
          exact .failed
        | none =>
          rw [hcreate] at h
          cases h
          exact .registered hset rfl rfl

/-- One attempt of the supervised worker, as far as the scale set is concerned. -/
def attempt (entry : Identity) (w : World) (answers : Answers) : Option World :=
  some (ensureScaleSetForEntry entry answers w).1

def ReturnsSystem (original : List Label) (entry : Identity) (w : World) (answers : Answers) (_ : World) :
    Prop :=
  ∀ set, (ensureScaleSetForEntry entry answers w).2 = .ok set → Keeps original set.labels

/-- There is no scale set, and the calls of the attempt that lead to a new one all succeed. -/
def reregisters (entry : Identity) (w : World) (answers : Answers) : Bool :=
  w.scaleSet.isNone && (entry.runnerGroup = "" || answers.group.isNone) && answers.lookup.isNone &&
    answers.create.isNone

/-- The attempt then finds no scale set and creates one. -/
theorem reregisters_eq (entry : Identity) (w : World) (answers : Answers) :
    reregisters entry w answers = (w.scaleSet.isNone && (ensureScaleSetForEntry entry answers w).2.isOk) := by
  unfold reregisters ensureScaleSetForEntry createRunnerScaleSet
  cases w.scaleSet with
  | some existing => rfl
  | none =>
    by_cases hgroup : entry.runnerGroup = "" <;> cases answers.group <;> cases answers.lookup <;>
      cases answers.create <;> simp [hgroup, Except.isOk, Except.toBool]

/-- What GitHub holds has the System labels of `original`, and no name twice. -/
def Holds (original : List Label) (w : World) : Prop :=
  ∀ set, w.scaleSet = some set → Keeps original set.labels ∧ (set.labels.map (·.name)).Nodup

theorem attempt_keeps (hinv : Holds original w) (hnot : reregisters entry w answers = false) :
    ReturnsSystem original entry w answers w' ∧ Holds original (ensureScaleSetForEntry entry answers w).1 := by
  unfold ReturnsSystem
  rw [reregisters_eq] at hnot
  cases hensure : ensureScaleSetForEntry entry answers w with
  | mk after outcome =>
    rw [hensure] at hnot
    cases ensured_of_eq hensure with
    | failed =>
      refine ⟨fun set hok ↦ ?_, hinv⟩
      cases hok
    | kept hset =>
      refine ⟨fun set hok ↦ ?_, hinv⟩
      cases hok
      exact (hinv _ hset).1
    | recreated hset hlabels hcreated =>
      obtain ⟨hkeeps, hnames⟩ := hinv _ hset
      have hrecreated := hlabels ▸ keeps_recreated hnames hkeeps
      refine ⟨fun set hok ↦ ?_, fun set hheld ↦ ?_⟩
      · cases hok
        exact hrecreated
      · rw [hcreated, Option.some.injEq] at hheld
        subst hheld
        refine ⟨hrecreated, ?_⟩
        rw [hlabels, map_name_labelsWithTypes]
        exact nodup_sortedUnique _
    | lost hgone =>
      refine ⟨fun set hok ↦ ?_, fun set hheld ↦ ?_⟩
      · cases hok
      · rw [hgone] at hheld
        cases hheld
    | registered hnone hlabels hcreated =>
      rw [hnone] at hnot
      cases hnot

theorem not_reregisters (hmem : label ∈ original) (hsystem : label.isSystem)
    (h : ReturnsSystem original entry w answers w') : reregisters entry w answers = false := by
  unfold ReturnsSystem at h
  rw [reregisters_eq]
  cases hensure : ensureScaleSetForEntry entry answers w with
  | mk after outcome =>
    rw [hensure] at h
    cases ensured_of_eq hensure with
    | failed | lost => exact Bool.and_false _
    | kept hset | recreated hset =>
      rw [hset]
      rfl
    | registered hnone hlabels hcreated =>
      exact absurd (hlabels ▸ h _ rfl) (not_keeps_userLabels hmem hsystem)

/-- Every scale set that an attempt returns has the System labels of the original one, exactly if there
are none or no attempt has to register the scale set anew. -/
theorem system_labels_kept_iff (entry : Identity) {original : List Label}
    (hnames : (original.map (·.name)).Nodup) (id : ℕ) (attempts : List Answers) :
    Along (attempt entry) (ReturnsSystem original entry)
        { scaleSet := some { id := id, labels := original }, nextID := id + 1 } attempts ↔
      (∀ label ∈ original, label.isSystem = false) ∨
        Along (attempt entry) (fun w answers _ ↦ reregisters entry w answers = false)
          { scaleSet := some { id := id, labels := original }, nextID := id + 1 } attempts := by
  constructor
  · intro hreturns
    by_cases hsystem : ∃ label ∈ original, label.isSystem = true
    · obtain ⟨label, hmem, hsystem⟩ := hsystem
      right
      refine along_of_invariant (fun _ ↦ True) ?_ trivial hreturns
      intro w answers w' _ hreturn _
      exact ⟨not_reregisters hmem hsystem hreturn, trivial⟩
    · left
      intro label hmem
      rw [Bool.eq_false_iff]
      exact fun h ↦ hsystem ⟨label, hmem, h⟩
  · rintro (hnone | hnot)
    · refine along_of_step fun w answers w' _ set _ label hmem hsystem ↦ ?_
      rw [hnone label hmem] at hsystem
      cases hsystem
    · refine along_of_invariant (Holds original) ?_ ?_ hnot
      · intro w answers w' hinv hnot hstep
        cases hstep
        exact attempt_keeps hinv hnot
      · intro set hset
        cases hset
        exact ⟨fun label hmem _ ↦ hmem, hnames⟩

/-- A scale set registered without labels, which GitHub has given a System label of its own name, and a
configuration that has since been given a label. -/
def linuxEntry : Identity := { name := "linux", labels := ["x64"] }

def linuxLabels : List Label := [{ name := "linux", type := "system" }]

/-- The delete is refused once, then the scale set is recreated. -/
theorem system_labels_kept_linux :
    Along (attempt linuxEntry) (ReturnsSystem linuxLabels linuxEntry)
      { scaleSet := some { id := 7, labels := linuxLabels }, nextID := 8 }
      [{ delete := some "502" }, {}, {}] :=
  (system_labels_kept_iff linuxEntry (by decide) 7 _).mpr (.inr (by decide))

/-- The create fails after the delete, and the attempt after it registers the scale set without the
label that jobs are routed by. -/
theorem system_label_lost :
    ∃ w ∈ run (attempt linuxEntry) { scaleSet := some { id := 7, labels := linuxLabels }, nextID := 8 }
        [{ create := some "502" }],
      (ensureScaleSetForEntry linuxEntry {} w).2 =
          .ok { id := 8, labels := [{ name := "x64", type := "User" }] } ∧
        ¬Keeps linuxLabels [{ name := "x64", type := "User" }] := by
  decide

end ScalesetProxmox.App.Labels
