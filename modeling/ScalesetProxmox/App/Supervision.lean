import ScalesetProxmox.Store.Schema
import ScalesetProxmox.Transition.Run
import Mathlib.Tactic.Ring
import Mathlib.Tactic.Linarith

/-!
# The supervisor of a scale set

`superviseScaleset` runs the worker of one scale set again and again, with a capped exponential
backoff between the attempts. It is a state machine: an attempt is running, or the supervisor waits
for its timer, or it has returned. The context may be cancelled at any moment.

An attempt that returns nil, or an error that wraps `context.Canceled`, ends the supervisor whether or
not its own context has been cancelled. `supervised_iff` says that nothing else ends it early.
-/

namespace ScalesetProxmox.App.Supervision

open Store (Time second)
open Transition

def scalesetRetryInitialBackoff : Time := 1 * second
def scalesetRetryMaxBackoff : Time := 30 * second

/-- What an error is to `errors.Is(err, context.Canceled)`. -/
inductive Err
  | canceled
  | other
  deriving DecidableEq, Repr

/-- How the supervised function ends. -/
inductive RunResult
  | ok
  | error (err : Err)
  | panicked
  deriving DecidableEq, Repr

/-- The panic is printed into the new error, not wrapped by it. -/
def runScalesetAttempt : RunResult → Option Err
  | .ok => none
  | .error err => some err
  | .panicked => some .other

inductive Phase
  | running
  | waiting
  | returned
  deriving DecidableEq, Repr

structure Supervisor where
  phase : Phase := .running
  attempt : ℕ := 1
  backoff : Time
  /-- `ctx.Err() != nil`. -/
  cancelled : Bool := false
  deriving DecidableEq, Repr

inductive Event
  | cancel
  /-- The attempt ends, and its error is looked at. -/
  | finish (result : RunResult)
  /-- The timer of the wait fires. -/
  | elapsed
  /-- The wait sees that the context is done. -/
  | done
  deriving DecidableEq, Repr

/-- The value of a `time.Duration`. -/
def int64 (n : ℤ) : ℤ := n.bmod (2 ^ 64)

/-- The doubled backoff, at most the maximum. -/
def nextBackoff (maxBackoff backoff : Time) : Time :=
  let doubled := int64 (backoff * 2)
  if maxBackoff < doubled then maxBackoff else doubled

def superviseScaleset (maxBackoff : Time) (s : Supervisor) : Event → Option Supervisor
  | .cancel => some { s with cancelled := true }
  | .finish result =>
    if s.phase = .running then
      match runScalesetAttempt result with
      | none => some { s with phase := .returned }
      | some err =>
        if s.cancelled ∨ err = .canceled then some { s with phase := .returned }
        else some { s with phase := .waiting }
    else
      none
  | .elapsed =>
    if s.phase = .waiting then
      some { s with
        phase := .running
        attempt := s.attempt + 1
        backoff := nextBackoff maxBackoff s.backoff }
    else
      none
  | .done => if s.phase = .waiting ∧ s.cancelled then some { s with phase := .returned } else none

def start (initialBackoff : Time) : Supervisor := { backoff := initialBackoff }

/-! ## The backoff -/

variable {initialBackoff maxBackoff : Time}

/-- The wait after the `k`-th failed attempt. -/
def schedule (initialBackoff maxBackoff : Time) (k : ℕ) : Time :=
  min (initialBackoff * 2 ^ (k - 1)) maxBackoff

theorem int64_eq_self {n : ℤ} (hlow : -2 ^ 63 ≤ n) (hhigh : n < 2 ^ 63) : int64 n = n := by
  unfold int64
  rw [Int.bmod_eq_of_le]
  · exact hlow
  · exact hhigh

/-- The next wait, as long as doubling the longest one does not overflow. -/
theorem nextBackoff_schedule (hinitial : 0 ≤ initialBackoff) (hle : initialBackoff ≤ maxBackoff)
    (hfits : 2 * maxBackoff < 2 ^ 63) {k : ℕ} (hk : 1 ≤ k) :
    nextBackoff maxBackoff (schedule initialBackoff maxBackoff k) =
      schedule initialBackoff maxBackoff (k + 1) := by
  obtain ⟨j, rfl⟩ := Nat.exists_eq_add_of_le' hk
  have hmax : 0 ≤ maxBackoff := hinitial.trans hle
  have hpow : 0 ≤ initialBackoff * 2 ^ j := mul_nonneg hinitial (pow_nonneg (by decide) j)
  have hdoubled : int64 (min (initialBackoff * 2 ^ j) maxBackoff * 2) =
      min (initialBackoff * 2 ^ j) maxBackoff * 2 := by
    have hlow : 0 ≤ min (initialBackoff * 2 ^ j) maxBackoff := le_min hpow hmax
    have hhigh : min (initialBackoff * 2 ^ j) maxBackoff ≤ maxBackoff := min_le_right _ _
    apply int64_eq_self
    · linarith
    · linarith
  have hnext : initialBackoff * 2 ^ (j + 1) = initialBackoff * 2 ^ j * 2 := by rw [pow_succ, mul_assoc]
  unfold nextBackoff schedule
  rw [Nat.add_sub_cancel, Nat.add_sub_cancel, hdoubled, hnext]
  dsimp only
  rw [← min_def_lt, min_comm]
  rcases le_total (initialBackoff * 2 ^ j) maxBackoff with h | h
  · rw [min_eq_left h]
  · rw [min_eq_right h, min_eq_right (by linarith), min_eq_right (by linarith)]

/-! ## Runs -/

variable {s t : Supervisor} {e : Event}

/-- The supervisor has returned only if its context is cancelled, and a further attempt starts when the
timer of the wait after the attempt before has fired. -/
structure Supervised (initialBackoff maxBackoff : Time) (s : Supervisor) (e : Event) (t : Supervisor) :
    Prop where
  returns : t.phase = .returned → t.cancelled = true
  waits : s.phase ≠ .running → t.phase = .running → s.phase = .waiting ∧ e = .elapsed ∧
    s.backoff = schedule initialBackoff maxBackoff s.attempt ∧ t.attempt = s.attempt + 1

/-- An attempt ends with nil, or with an error that wraps `context.Canceled`, under a live context. -/
def endsEarly (s : Supervisor) : Event → Bool
  | .finish result => !s.cancelled && runScalesetAttempt result ≠ some .other
  | _ => false

/-- What every state of a run knows of the backoff. -/
structure OnSchedule (initialBackoff maxBackoff : Time) (s : Supervisor) : Prop where
  positive : 1 ≤ s.attempt
  backoff : s.backoff = schedule initialBackoff maxBackoff s.attempt

theorem onSchedule_start (hle : initialBackoff ≤ maxBackoff) :
    OnSchedule initialBackoff maxBackoff (start initialBackoff) where
  positive := le_rfl
  backoff := by simp [start, schedule, hle]

inductive Moved (maxBackoff : Time) (s : Supervisor) : Event → Supervisor → Prop
  | cancel : Moved maxBackoff s .cancel { s with cancelled := true }
  | ended {result : RunResult} (hphase : s.phase = .running)
      (hends : s.cancelled = true ∨ runScalesetAttempt result ≠ some .other) :
      Moved maxBackoff s (.finish result) { s with phase := .returned }
  | failed {result : RunResult} (hphase : s.phase = .running) (hlive : s.cancelled = false)
      (hfails : runScalesetAttempt result = some .other) :
      Moved maxBackoff s (.finish result) { s with phase := .waiting }
  | elapsed (hphase : s.phase = .waiting) :
      Moved maxBackoff s .elapsed
        { s with
          phase := .running
          attempt := s.attempt + 1
          backoff := nextBackoff maxBackoff s.backoff }
  | done (hphase : s.phase = .waiting) (hcancelled : s.cancelled = true) :
      Moved maxBackoff s .done { s with phase := .returned }

theorem moved_of_step (h : superviseScaleset maxBackoff s e = some t) : Moved maxBackoff s e t := by
  cases e with
  | cancel =>
    cases h
    exact .cancel
  | finish result =>
    simp only [superviseScaleset] at h
    split_ifs at h with hphase
    cases herr : runScalesetAttempt result with
    | none =>
      rw [herr] at h
      cases h
      exact .ended hphase (.inr (by simp [herr]))
    | some err =>
      simp only [herr] at h
      split_ifs at h with hends
      · cases h
        exact .ended hphase (hends.imp_right fun hcanceled ↦ by simp [herr, hcanceled])
      · cases h
        obtain ⟨hlive, herror⟩ := not_or.mp hends
        cases err with
        | canceled => exact absurd rfl herror
        | other => exact .failed hphase (by simpa using hlive) herr
  | elapsed =>
    simp only [superviseScaleset] at h
    split_ifs at h with hphase
    cases h
    exact .elapsed hphase
  | done =>
    simp only [superviseScaleset] at h
    split_ifs at h with hdone
    cases h
    exact .done hdone.1 hdone.2

theorem OnSchedule.step (hinv : OnSchedule initialBackoff maxBackoff s) (hinitial : 0 ≤ initialBackoff)
    (hle : initialBackoff ≤ maxBackoff) (hfits : 2 * maxBackoff < 2 ^ 63)
    (h : superviseScaleset maxBackoff s e = some t) : OnSchedule initialBackoff maxBackoff t := by
  cases moved_of_step h with
  | elapsed hphase =>
    refine ⟨Nat.le_succ_of_le hinv.positive, ?_⟩
    dsimp only
    rw [hinv.backoff, nextBackoff_schedule hinitial hle hfits hinv.positive]
  | _ => exact ⟨hinv.positive, hinv.backoff⟩

theorem supervised_step_iff (hinv : OnSchedule initialBackoff maxBackoff s)
    (h : superviseScaleset maxBackoff s e = some t) :
    Supervised initialBackoff maxBackoff s e t ↔ endsEarly s e = false := by
  cases moved_of_step h with
  | cancel =>
    refine iff_of_true ⟨fun _ ↦ rfl, fun hnot hrunning ↦ absurd hrunning hnot⟩ rfl
  | ended hphase hends =>
    constructor
    · intro hsupervised
      have hcancelled : s.cancelled := hsupervised.returns rfl
      simp [endsEarly, hcancelled]
    · intro hnot
      refine ⟨fun _ ↦ ?_, fun hrunning ↦ absurd hphase hrunning⟩
      rcases hends with hcancelled | hother
      · exact hcancelled
      · simpa [endsEarly, hother] using hnot
  | failed hphase hlive hfails =>
    refine iff_of_true ⟨fun hreturns ↦ ?_, fun hrunning ↦ absurd hphase hrunning⟩ (by simp [endsEarly, hfails])
    cases hreturns
  | elapsed hphase =>
    refine iff_of_true ⟨fun hreturns ↦ ?_, fun _ _ ↦ ⟨hphase, rfl, hinv.backoff, rfl⟩⟩ rfl
    cases hreturns
  | done hphase hcancelled =>
    refine iff_of_true ⟨fun _ ↦ hcancelled, fun _ hrunning ↦ ?_⟩ rfl
    cases hrunning

/-- The supervisor retries on its schedule until its context is cancelled, exactly as long as no attempt
ends with nil or with an error that wraps `context.Canceled` before. -/
theorem supervised_iff (hinitial : 0 ≤ initialBackoff) (hle : initialBackoff ≤ maxBackoff)
    (hfits : 2 * maxBackoff < 2 ^ 63) (events : List Event) :
    Along (superviseScaleset maxBackoff) (Supervised initialBackoff maxBackoff) (start initialBackoff)
        events ↔
      Along (superviseScaleset maxBackoff) (fun s e _ ↦ endsEarly s e = false) (start initialBackoff)
        events := by
  refine along_congr_of_invariant (OnSchedule initialBackoff maxBackoff) ?_ (onSchedule_start hle)
  intro s e t hinv h
  exact ⟨supervised_step_iff hinv h, fun _ ↦ hinv.step hinitial hle hfits h⟩

/-- Two attempts fail and the third is cancelled, on the production schedule. -/
theorem supervised_until_cancel :
    Along (superviseScaleset scalesetRetryMaxBackoff)
      (Supervised scalesetRetryInitialBackoff scalesetRetryMaxBackoff) (start scalesetRetryInitialBackoff)
      [.finish (.error .other), .elapsed, .finish .panicked, .elapsed, .cancel, .finish .ok] :=
  (supervised_iff (by decide) (by decide) (by decide) _).mpr (by decide)

/-- A worker that returns nil, or an error that wraps `context.Canceled`, is not run again: the
supervisor returns although nobody has cancelled its context. -/
theorem returns_under_live_context :
    (∃ s ∈ run (superviseScaleset scalesetRetryMaxBackoff) (start scalesetRetryInitialBackoff)
        [.finish .ok], s.phase = .returned ∧ s.cancelled = false) ∧
      ∃ s ∈ run (superviseScaleset scalesetRetryMaxBackoff) (start scalesetRetryInitialBackoff)
        [.finish (.error .other), .elapsed, .finish (.error .canceled)],
        s.phase = .returned ∧ s.cancelled = false := by
  decide

end ScalesetProxmox.App.Supervision
