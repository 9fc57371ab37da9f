import ScalesetProxmox.Config.Scalesets
import ScalesetProxmox.Selection.First
import ScalesetProxmox.Selection.Named

/-!
# Priority classes of jobs

`internal/priority/priority.go`: a job gets the class with the most selector fields of those that it
satisfies, the earlier one of two that are equal, and the zero class when it satisfies none. Nothing keeps
an operator from declaring a class that is the zero class, so that a job can also have it from the list.
-/

namespace ScalesetProxmox.Priority

open Text (quote)
open Selection

structure JobInfo where
  org : String
  repo : String
  workflowLabels : List String
  deriving DecidableEq, Repr

/-- An empty field is a wildcard. -/
structure Match where
  workflowLabel : String := ""
  repo : String := ""
  org : String := ""
  deriving DecidableEq, Repr

structure Class where
  name : String
  selector : Match := {}
  weight : ℤ
  preempt : Bool
  deriving DecidableEq, Repr

def zeroClass : Class where
  name := "default"
  weight := 0
  preempt := false

structure Matcher where
  classes : List Class
  deriving DecidableEq, Repr

def errDuplicateClass : String := "priority: duplicate class name"

def errEmptyClassName : String := "priority: class name is required"

def new (classes : List Class) : Except String Matcher :=
  (takeNamed Class.name (fun i ↦ s!"{errEmptyClassName} (index {i})")
    (fun name ↦ s!"{errDuplicateClass}: {quote name}") id 0 [] [] classes).map Matcher.mk

def Match.satisfies (s : Match) (info : JobInfo) : Bool :=
  if s.org ≠ "" ∧ s.org ≠ info.org then
    false
  else if s.repo ≠ "" ∧ s.repo ≠ info.repo then
    false
  else if s.workflowLabel ≠ "" ∧ s.workflowLabel ∉ info.workflowLabels then
    false
  else
    true

def Match.specificity (s : Match) : ℕ :=
  (if s.org ≠ "" then 1 else 0) + (if s.repo ≠ "" then 1 else 0) + if s.workflowLabel ≠ "" then 1 else 0

/-- The class that the loop ends with. A later one needs more selector fields to replace it. -/
def best (classes : List Class) (info : JobInfo) : Option Class :=
  leader (fun c ↦ c.selector.satisfies info) (fun c ↦ OrderDual.toDual c.selector.specificity) classes

def classify (m : Option Matcher) (info : JobInfo) : Class :=
  match m with
  | none => zeroClass
  | some m => (best m.classes info).getD zeroClass

/-! ## The most specific class -/

variable {classes : List Class} {info : JobInfo} {c : Class}

/-- The earliest of the satisfied classes with the most selector fields. -/
def MostSpecific (classes : List Class) (info : JobInfo) (c : Class) : Prop :=
  ∃ before after, classes = before ++ c :: after ∧ c.selector.satisfies info = true ∧
    (∀ d ∈ before, d.selector.satisfies info = true → d.selector.specificity < c.selector.specificity) ∧
    ∀ d ∈ after, d.selector.satisfies info = true → d.selector.specificity ≤ c.selector.specificity

theorem best_eq_some_iff : best classes info = some c ↔ MostSpecific classes info c := leader_eq_some_iff

theorem best_eq_none_iff :
    best classes info = none ↔ ∀ c ∈ classes, c.selector.satisfies info = false := leader_eq_none_iff

theorem classify_eq_iff :
    classify (some { classes := classes }) info = c ↔
      MostSpecific classes info c ∨
        (∀ d ∈ classes, d.selector.satisfies info = false) ∧ c = zeroClass := by
  rw [← best_eq_some_iff, ← best_eq_none_iff]
  change (best classes info).getD zeroClass = c ↔ _
  cases best classes info with
  | none => simp [eq_comm]
  | some d => simp

/-- A job gets the most specific of the classes it satisfies. It gets the zero class when it satisfies none,
or when that is the most specific one. A class that it does not satisfy makes no difference. -/
theorem classify_most_specific_first (classes : List Class) (info : JobInfo) :
    ((∃ d ∈ classes, d.selector.satisfies info = true) →
      ∀ c, classify (some { classes := classes }) info = c ↔ MostSpecific classes info c) ∧
    (classify (some { classes := classes }) info = zeroClass ↔
      (∀ d ∈ classes, d.selector.satisfies info = false) ∨ MostSpecific classes info zeroClass) ∧
    ∀ before after c, classes = before ++ after → c.selector.satisfies info = false →
      classify (some { classes := before ++ c :: after }) info =
        classify (some { classes := classes }) info := by
  refine ⟨?_, ?_, ?_⟩
  · rintro ⟨d, hd, hsat⟩ c
    rw [classify_eq_iff]
    apply or_iff_left
    rintro ⟨hnone, _⟩
    cases hsat.symm.trans (hnone d hd)
  · rw [classify_eq_iff, and_iff_left rfl, or_comm]
  · rintro before after c rfl hunsat
    exact congrArg (Option.getD · zeroClass) (leader_append_cons_of_not before after hunsat)

/-- A declared class that is the zero class is satisfied by every job. -/
theorem zeroClass_declared :
    new [zeroClass] = .ok { classes := [zeroClass] } ∧
      zeroClass.selector.satisfies { org := "acme", repo := "platform", workflowLabels := [] } = true ∧
      classify (some { classes := [zeroClass] })
        { org := "acme", repo := "platform", workflowLabels := [] } = zeroClass := by
  exact ⟨rfl, by decide, by decide⟩

end ScalesetProxmox.Priority
