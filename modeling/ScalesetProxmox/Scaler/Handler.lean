import ScalesetProxmox.Pool.Task
import ScalesetProxmox.Transition.Run
import ScalesetProxmox.Transition.Threads

/-!
# Delivering runners to a desired count

One call of `HandleDesiredRunnerCount` of `internal/scaler/scaler.go`, from the look at the pool's
statistics to the number it returns. It claims Hot VMs one after the other, then provisions them with at
most eight workers at a time. What the pool, GitHub and Proxmox answer comes in as events, in any order
and with any outcome, and the listener's context may be cancelled at any moment.

A call keeps a record of the VMs it has acquired, of those whose configuration was delivered and of those
it has passed to `MarkCompleted`. `each_acquired_settled_once` compares the three when it returns.
-/

namespace ScalesetProxmox.Scaler

open Pool (Handle)
open Transition

def maxConcurrentProvisions : ℕ := 8

/-! ## One VM -/

/-- The point that `provisionOne` has reached. -/
inductive Point
  /-- `cleanupStaleRunnerByName`, before a configuration is asked for. -/
  | cleanup
  | generate
  | stamp (runnerID : ℤ)
  /-- An injection, after that many attempts. -/
  | inject (attempts : ℕ)
  /-- The wait before the next attempt. -/
  | backoff (attempts : ℕ)
  /-- `cleanupStaleRunnerByName`, after the injection has failed. -/
  | deregister
  /-- `MarkCompleted`. -/
  | release
  deriving DecidableEq, Repr

/-- What a step of `provisionOne` is answered. -/
inductive Answer
  | ok
  | fail
  /-- A configuration, with the id of its runner or zero. -/
  | jit (runnerID : ℤ)
  /-- `ErrGuestAgentNotReady`. -/
  | notReady
  deriving DecidableEq, Repr

inductive Progress
  | goesOn (point : Point)
  | delivered
  | released
  deriving DecidableEq, Repr

/-- One step of `provisionOne`. A `maxAttempts` of zero sets no limit; the wait of `injectWithRetry`
also ends when the context is cancelled or the time for all attempts is used up. -/
def provisionOne (maxAttempts : ℕ) : Point → Answer → Progress
  | .cleanup, _ => .goesOn .generate
  | .generate, .jit runnerID => .goesOn (if 0 < runnerID then .stamp runnerID else .inject 0)
  | .generate, _ => .goesOn .release
  | .stamp _, _ => .goesOn (.inject 0)
  | .inject _, .ok => .delivered
  | .inject attempts, .notReady =>
    .goesOn (if 0 < maxAttempts ∧ maxAttempts ≤ attempts + 1 then .deregister else .backoff (attempts + 1))
  | .inject _, _ => .goesOn .deregister
  | .backoff attempts, .ok => .goesOn (.inject attempts)
  | .backoff _, _ => .goesOn .deregister
  | .deregister, _ => .goesOn .release
  | .release, _ => .released

/-- A goroutine of `provisionAcquired`. -/
structure Worker where
  vm : Handle
  point : Point := .cleanup
  deriving DecidableEq, Repr

/-! ## One call -/

inductive Stage
  | stats
  /-- `preAcquireVMs`, with that many claims to go. -/
  | acquiring (need : ℕ)
  /-- `provisionAcquired`. -/
  | provisioning
  | returned (delivered : ℕ)
  deriving DecidableEq, Repr

structure Call where
  count : ℤ
  stage : Stage
  cancelled : Bool := false
  /-- The VMs that no worker has been started for. -/
  vms : List Handle := []
  workers : List Worker := []
  delivered : ℕ := 0
  acquired : List Handle := []
  injected : List Handle := []
  completed : List Handle := []
  deriving DecidableEq, Repr

inductive Event
  | cancel
  /-- The busy VMs that `Stats` counts, unless it fails. -/
  | readStats (busy : Option ℕ)
  /-- What `Acquire` returns, if it returns a VM. -/
  | acquire (vm : Option Handle)
  /-- A worker is started for the next VM. -/
  | start
  /-- The context is done before there is a slot for the next VM. -/
  | giveBack
  | work (i : ℕ) (answer : Answer)
  /-- `wg.Wait` returns. -/
  | wait
  deriving DecidableEq, Repr

def handleDesiredRunnerCount (count : ℤ) : Call :=
  { count := count, stage := if count ≤ 0 then .returned 0 else .stats }

/-- After the last claim. -/
def Call.afterAcquiring (c : Call) : Call :=
  { c with stage := if c.vms = [] then .returned 0 else .provisioning }

def Call.step (maxAttempts : ℕ) (c : Call) : Event → Option Call
  | .cancel => some { c with cancelled := true }
  | .readStats busy =>
    if c.stage = .stats then
      let need := c.count - busy.getD 0
      some { c with stage := if need ≤ 0 then .returned 0 else .acquiring need.toNat }
    else
      none
  | .acquire vm =>
    match c.stage, vm with
    | .acquiring (need + 1), some vm =>
      let c := { c with
        stage := .acquiring need, vms := c.vms ++ [vm], acquired := c.acquired ++ [vm] }
      some (if need = 0 then c.afterAcquiring else c)
    | .acquiring (_ + 1), none => some c.afterAcquiring
    | _, _ => none
  | .start =>
    match c.vms with
    | vm :: rest =>
      if c.stage = .provisioning ∧ c.workers.length < maxConcurrentProvisions ∧ c.cancelled = false then
        some { c with vms := rest, workers := c.workers ++ [{ vm := vm }] }
      else
        none
    | [] => none
  | .giveBack =>
    match c.vms with
    | vm :: rest =>
      if c.stage = .provisioning ∧ c.cancelled then
        some { c with vms := rest, completed := c.completed ++ [vm] }
      else
        none
    | [] => none
  | .work i answer =>
    match c.workers[i]? with
    | some worker =>
      match provisionOne maxAttempts worker.point answer with
      | .goesOn point => some { c with workers := c.workers.set i { worker with point := point } }
      | .delivered =>
        some { c with
          workers := c.workers.eraseIdx i
          delivered := c.delivered + 1
          injected := c.injected ++ [worker.vm] }
      | .released =>
        some { c with workers := c.workers.eraseIdx i, completed := c.completed ++ [worker.vm] }
    | none => none
  | .wait =>
    if c.stage = .provisioning ∧ c.vms = [] ∧ c.workers = [] then
      some { c with stage := .returned c.delivered }
    else
      none

/-! ## What has become of the acquired VMs -/

/-- What the stage says about the VMs that are still to be settled. -/
def Stage.Fits (c : Call) : Stage → Prop
  | .stats => c.vms = [] ∧ c.workers = [] ∧ c.injected = []
  | .acquiring _ => c.workers = [] ∧ c.injected = []
  | .provisioning => True
  | .returned n => c.vms = [] ∧ c.workers = [] ∧ n = c.injected.length

/-- Every acquired VM waits for its worker, has one, or has been settled. -/
structure Balanced (c : Call) : Prop where
  balance : ∀ vm, c.acquired.count vm = c.vms.count vm + (c.workers.map (·.vm)).count vm +
    (c.injected.count vm + c.completed.count vm)
  counted : c.delivered = c.injected.length
  fits : c.stage.Fits c

variable {maxAttempts : ℕ} {c c' : Call} {event : Event}

theorem balanced_start (count : ℤ) : Balanced (handleDesiredRunnerCount count) where
  balance _ := rfl
  counted := rfl
  fits := by
    unfold handleDesiredRunnerCount
    dsimp only
    split_ifs
    · exact ⟨rfl, rfl, rfl⟩
    · exact ⟨rfl, rfl, rfl⟩

theorem Balanced.afterAcquiring (hinv : Balanced c) (hworkers : c.workers = []) (hinjected : c.injected = []) :
    Balanced c.afterAcquiring where
  balance := hinv.balance
  counted := hinv.counted
  fits := by
    unfold Call.afterAcquiring
    dsimp only
    split_ifs with hvms
    · exact ⟨hvms, hworkers, by rw [hinjected, List.length_nil]⟩
    · trivial

theorem Balanced.provisioning (hinv : Balanced c) {i : ℕ} {worker : Worker}
    (hworker : c.workers[i]? = some worker) : c.stage = .provisioning := by
  have hne : c.workers ≠ [] := List.ne_nil_of_mem (List.mem_of_getElem? hworker)
  have hfits := hinv.fits
  cases hstage : c.stage with
  | provisioning => rfl
  | stats | returned =>
    rw [hstage] at hfits
    exact absurd hfits.2.1 hne
  | acquiring =>
    rw [hstage] at hfits
    exact absurd hfits.1 hne

theorem count_workers_eraseIdx {workers : List Worker} {i : ℕ} {worker : Worker}
    (hworker : workers[i]? = some worker) (vm : Handle) :
    (workers.map (·.vm)).count vm =
      ((workers.eraseIdx i).map (·.vm)).count vm + if worker.vm = vm then 1 else 0 := by
  have hperm := ((cons_eraseIdx_perm hworker).map (·.vm)).count_eq vm
  rw [List.map_cons, List.count_cons] at hperm
  simpa using hperm.symm

theorem Balanced.work (hinv : Balanced c) {i : ℕ} {worker : Worker} {answer : Answer}
    (hworker : c.workers[i]? = some worker) (hstep : c.step maxAttempts (.work i answer) = some c') :
    Balanced c' := by
  have hstage := hinv.provisioning hworker
  simp only [Call.step, hworker] at hstep
  cases hprogress : provisionOne maxAttempts worker.point answer with
  | goesOn point =>
    simp only [hprogress, Option.some.injEq] at hstep
    subst hstep
    refine ⟨fun vm ↦ ?_, hinv.counted, by rw [hstage]; trivial⟩
    have hsame : (c.workers.set i { worker with point := point }).map (·.vm) = c.workers.map (·.vm) := by
      obtain ⟨hi, rfl⟩ := List.getElem?_eq_some_iff.mp hworker
      have hi' : i < (c.workers.map (·.vm)).length := by simpa using hi
      have hset := List.set_getElem_self hi'
      rw [List.getElem_map] at hset
      rw [List.map_set, hset]
    rw [hsame]
    exact hinv.balance vm
  | delivered =>
    simp only [hprogress, Option.some.injEq] at hstep
    subst hstep
    refine ⟨fun vm ↦ ?_, by simp [hinv.counted], by rw [hstage]; trivial⟩
    have hbalance := hinv.balance vm
    have hended := count_workers_eraseIdx hworker vm
    simp only [List.count_append, List.count_singleton, beq_iff_eq]
    omega
  | released =>
    simp only [hprogress, Option.some.injEq] at hstep
    subst hstep
    refine ⟨fun vm ↦ ?_, hinv.counted, by rw [hstage]; trivial⟩
    have hbalance := hinv.balance vm
    have hended := count_workers_eraseIdx hworker vm
    simp only [List.count_append, List.count_singleton, beq_iff_eq]
    omega

theorem Balanced.acquire (hinv : Balanced c) {vm : Option Handle}
    (hstep : c.step maxAttempts (.acquire vm) = some c') : Balanced c' := by
  have hfits := hinv.fits
  simp only [Call.step] at hstep
  split at hstep
  · next need vm hstage =>
    rw [hstage] at hfits
    have hclaimed : Balanced { c with
        stage := .acquiring need, vms := c.vms ++ [vm], acquired := c.acquired ++ [vm] } := by
      refine ⟨fun other ↦ ?_, hinv.counted, hfits⟩
      have hbalance := hinv.balance other
      simp only [List.count_append]
      omega
    split_ifs at hstep
    · cases hstep
      exact hclaimed.afterAcquiring hfits.1 hfits.2
    · cases hstep
      exact hclaimed
  · next need hstage =>
    rw [hstage] at hfits
    cases hstep
    exact hinv.afterAcquiring hfits.1 hfits.2
  · cases hstep

theorem Balanced.step (hinv : Balanced c) (hstep : c.step maxAttempts event = some c') : Balanced c' := by
  have hfits := hinv.fits
  cases event with
  | cancel =>
    cases hstep
    refine ⟨hinv.balance, hinv.counted, ?_⟩
    cases hstage : c.stage <;> rw [hstage] at hfits <;> exact hfits
  | readStats busy =>
    simp only [Call.step] at hstep
    split_ifs at hstep with hstage
    · cases hstep
      rw [hstage] at hfits
      exact ⟨hinv.balance, hinv.counted, hfits.1, hfits.2.1, by rw [hfits.2.2, List.length_nil]⟩
    · cases hstep
      rw [hstage] at hfits
      exact ⟨hinv.balance, hinv.counted, hfits.2⟩
  | acquire vm => exact hinv.acquire hstep
  | start =>
    simp only [Call.step] at hstep
    split at hstep
    · next vm rest hvms =>
      split_ifs at hstep with hready
      cases hstep
      refine ⟨fun other ↦ ?_, hinv.counted, by rw [hready.1]; trivial⟩
      have hbalance := hinv.balance other
      simp only [hvms, List.count_cons] at hbalance
      simp only [List.map_append, List.map_cons, List.map_nil, List.count_append, List.count_cons,
        List.count_nil]
      omega
    · cases hstep
  | giveBack =>
    simp only [Call.step] at hstep
    split at hstep
    · next vm rest hvms =>
      split_ifs at hstep with hready
      cases hstep
      refine ⟨fun other ↦ ?_, hinv.counted, by rw [hready.1]; trivial⟩
      have hbalance := hinv.balance other
      simp only [hvms, List.count_cons] at hbalance
      simp only [List.count_append, List.count_cons, List.count_nil]
      omega
    · cases hstep
  | work i answer =>
    cases hworker : c.workers[i]? with
    | some worker => exact hinv.work hworker hstep
    | none => simp [Call.step, hworker] at hstep
  | wait =>
    simp only [Call.step] at hstep
    split_ifs at hstep with hdone
    cases hstep
    exact ⟨hinv.balance, hinv.counted, hdone.2.1, hdone.2.2, hinv.counted⟩

/-- When the call returns, the VMs it has acquired are, each once, those that were delivered and those
that were passed to `MarkCompleted`, and it returns the number of the former. -/
theorem each_acquired_settled_once {count : ℤ} {events : List Event} {n : ℕ}
    (hrun : run (Call.step maxAttempts) (handleDesiredRunnerCount count) events = some c)
    (hreturned : c.stage = .returned n) :
    c.acquired.Perm (c.injected ++ c.completed) ∧ n = c.injected.length := by
  have hinv : Balanced c :=
    invariant_of_along Balanced (fun _ _ _ hinv _ hstep ↦ hinv.step hstep) (balanced_start count)
      (along_of_step fun _ _ _ _ ↦ trivial) hrun
  have hfits := hinv.fits
  rw [hreturned] at hfits
  obtain ⟨hvms, hworkers, hn⟩ := hfits
  refine ⟨List.perm_iff_count.mpr fun vm ↦ ?_, hn⟩
  rw [hinv.balance, hvms, hworkers, List.count_append]
  simp

def fourVMs : List Handle := [10000, 10001, 10002, 10003].map fun v ↦
  { vmid := v, node := "pve1", name := s!"gh-runner-ci-{v}", profile := "default" }

/-- One VM is delivered at the second injection, one gets no configuration, the injection of one fails,
and the context is cancelled before the last is started. -/
def settleFour : List Event :=
  ([.readStats (some 1)] : List Event) ++ fourVMs.map (fun vm ↦ .acquire (some vm)) ++
    ([.start, .start, .start, .cancel, .giveBack, .work 0 .ok, .work 0 (.jit 5), .work 0 .ok,
      .work 0 .notReady, .work 0 .ok, .work 0 .ok, .work 0 .ok, .work 0 .fail, .work 1 .ok,
      .work 1 (.jit 0), .work 1 .fail, .work 1 .ok, .work 0 .ok, .work 0 .fail, .wait] : List Event)

theorem each_acquired_settled_once_four :
    ∃ c ∈ run (Call.step 6) (handleDesiredRunnerCount 5) settleFour, c.stage = .returned 1 ∧
      c.acquired = fourVMs ∧ c.acquired.Perm (c.injected ++ c.completed) := by
  obtain ⟨c, hrun, hreturned, hacquired⟩ : ∃ c ∈ run (Call.step 6) (handleDesiredRunnerCount 5) settleFour,
      c.stage = .returned 1 ∧ c.acquired = fourVMs := by decide
  exact ⟨c, hrun, hreturned, hacquired, (each_acquired_settled_once hrun hreturned).1⟩

end ScalesetProxmox.Scaler
