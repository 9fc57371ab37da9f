import ScalesetProxmox.Pool.Effects
import ScalesetProxmox.Scaler.Handler
import ScalesetProxmox.Store.Acquire

/-!
# Desired counts are absolute

The pool together with any number of `HandleDesiredRunnerCount` calls. A call reads the statistics once
and then claims VMs one at a time; each claim compares the busy rows with the desired count in the
transaction that takes the row, so that what the pool and other calls do in between does not matter.

`desired_counts_absolute` says so for every run, and bounds what repeated calls with the same count
acquire together.
-/

namespace ScalesetProxmox.Scaler

open Pool (Config Sys Shared Task Act Handle busyAt)
open Store (VMID State)
open Transition

structure World where
  sys : Sys
  calls : List Call := []

inductive WorldAct
  | pool (act : Act)
  /-- A desired-count message arrives. -/
  | handle (count : ℤ)
  | call (i : ℕ) (event : Event)

/-- The pool's state after it has answered a call as the event says; `none` if it does not answer so. -/
def answered (cfg : Config) (s : Shared) (c : Call) : Event → Option Shared
  | .readStats (some busy) => if busy = s.store.countBusy "" then some s else none
  | .acquire vm =>
    -- the job is not known yet
    match s.store.acquireHot s.now 0 cfg.maxConcurrentRunners c.count, vm with
    | .ok (store, row), some vm =>
      if vm = Handle.ofRow row then some (s.commit row.vmid store) else none
    | .error _, none => some s
    | _, _ => none
  | .work i .ok =>
    match c.workers[i]? with
    | some { vm := vm, point := .inject _ } =>
      if (s.cluster.find vm.vmid vm.node).isSome then
        some { s with
          cluster := s.cluster.modify vm.vmid vm.node fun guest ↦ { guest with disk := guest.disk.configure } }
      else
        none
    | _ => some s
  | _ => some s

/-- The calls to the pool that the event makes. -/
def started (c : Call) : Event → List Task
  | .giveBack => c.vms.head?.toList.map fun vm ↦ .markCompleted vm.vmid none
  | .work i _ =>
    match c.workers[i]? with
    | some { vm := vm, point := .stamp runnerID } => [.setRunnerID vm.vmid runnerID]
    | some { vm := vm, point := .release } => [.markCompleted vm.vmid none]
    | _ => []
  | _ => []

/-- The calls end with their process. -/
def World.step (cfg : Config) (maxAttempts : ℕ) (w : World) : WorldAct → Option World
  | .pool act => (Pool.step cfg w.sys act).map fun sys ↦
      { sys := sys, calls := match act with | .crash => [] | _ => w.calls }
  | .handle count => some { w with calls := w.calls ++ [handleDesiredRunnerCount count] }
  | .call i event =>
    match w.calls[i]? with
    | some c =>
      match c.step maxAttempts event, answered cfg w.sys.shared c event with
      | some c', some shared =>
        some
          { sys := { shared := shared, threads := w.sys.threads ++ started c event }
            calls := w.calls.set i c' }
      | _, _ => none
    | none => none

/-! ## One step -/

variable {cfg : Config} {maxAttempts : ℕ} {w w' : World} {a : WorldAct} {s s' : Shared} {c c' : Call}
  {event : Event}

/-- The call has claims to make. -/
def Stage.claims : Stage → Bool
  | .stats | .acquiring _ => true
  | _ => false

/-- A call keeps its count, and has claims to make only if it had before. -/
theorem Call.step_count (h : c.step maxAttempts event = some c') :
    c'.count = c.count ∧ (c'.stage.claims → c.stage.claims) := by
  cases event with
  | cancel =>
    cases h
    exact ⟨rfl, id⟩
  | readStats busy =>
    simp only [Call.step] at h
    split_ifs at h with hstage
    · cases h
      exact ⟨rfl, fun _ ↦ hstage ▸ rfl⟩
    · cases h
      exact ⟨rfl, fun _ ↦ hstage ▸ rfl⟩
  | acquire vm =>
    simp only [Call.step] at h
    split at h
    · next hstage =>
      split_ifs at h <;> cases h <;> exact ⟨rfl, fun _ ↦ hstage ▸ rfl⟩
    · next hstage =>
      cases h
      exact ⟨rfl, fun _ ↦ hstage ▸ rfl⟩
    · cases h
  | start | giveBack =>
    simp only [Call.step] at h
    split at h
    · split_ifs at h
      cases h
      exact ⟨rfl, id⟩
    · cases h
  | work i answer =>
    simp only [Call.step] at h
    split at h
    · split at h <;> cases h <;> exact ⟨rfl, id⟩
    · cases h
  | wait =>
    simp only [Call.step] at h
    split_ifs at h
    cases h
    exact ⟨rfl, fun hclaims ↦ Bool.noConfusion hclaims⟩

/-- Calls with claims to make have a positive count. -/
def Proper (w : World) : Prop := ∀ c ∈ w.calls, c.stage.claims = true → 0 < c.count

theorem answered_store (h : answered cfg s c event = some s') :
    s'.store = s.store ∧ (∀ vm, event ≠ .acquire (some vm)) ∨
      ∃ vm old, event = .acquire (some vm) ∧ s.store.get old.vmid = some old ∧ old.state = .hot ∧
        (0 < c.count → (s.store.countBusy "" : ℤ) < c.count) ∧
        s'.store = s.store.put (old.assignedTo s.now 0) := by
  cases event with
  | readStats busy =>
    cases busy with
    | none =>
      cases h
      exact .inl ⟨rfl, fun _ hevent ↦ by cases hevent⟩
    | some busy =>
      simp only [answered] at h
      split_ifs at h
      cases h
      exact .inl ⟨rfl, fun _ hevent ↦ by cases hevent⟩
  | acquire vm =>
    simp only [answered] at h
    split at h
    · next store row vm hacquire =>
      split_ifs at h
      cases h
      obtain ⟨old, hget, hhot, -, -, hscope, rfl, rfl⟩ := Store.acquireHotInProfile_spec hacquire
      exact .inr ⟨vm, old, rfl, hget, hhot.1, hscope, rfl⟩
    · cases h
      exact .inl ⟨rfl, fun _ hevent ↦ by cases hevent⟩
    · cases h
  | work i answer =>
    refine .inl ⟨?_, fun _ hevent ↦ by cases hevent⟩
    cases answer with
    | ok =>
      simp only [answered] at h
      split at h
      · split_ifs at h
        cases h
        rfl
      · cases h
        rfl
    | _ =>
      cases h
      rfl
  | _ =>
    cases h
    exact .inl ⟨rfl, fun _ hevent ↦ by cases hevent⟩

theorem step_call {i : ℕ} (h : w.step cfg maxAttempts (.call i event) = some w') :
    ∃ c c' shared, w.calls[i]? = some c ∧ c.step maxAttempts event = some c' ∧
      answered cfg w.sys.shared c event = some shared ∧
      w' = { sys := { shared := shared, threads := w.sys.threads ++ started c event }
             calls := w.calls.set i c' } := by
  simp only [World.step] at h
  split at h
  · next c hc =>
    split at h
    · next c' shared hstep hanswered =>
      cases h
      exact ⟨c, c', shared, hc, hstep, hanswered, rfl⟩
    · cases h
  · cases h

theorem Proper.step (hinv : Proper w) (h : w.step cfg maxAttempts a = some w') : Proper w' := by
  cases a with
  | pool act =>
    obtain ⟨sys, -, rfl⟩ := Option.map_eq_some_iff.mp h
    intro c hc
    cases act with
    | crash => cases hc
    | _ => exact hinv c hc
  | handle count =>
    cases h
    intro c hc hclaims
    rcases List.mem_append.mp hc with hc | hc
    · exact hinv c hc hclaims
    · rw [List.mem_singleton.mp hc] at hclaims ⊢
      unfold handleDesiredRunnerCount at hclaims ⊢
      dsimp only at hclaims ⊢
      split_ifs at hclaims with hcount
      · cases hclaims
      · exact not_le.mp hcount
  | call i event =>
    obtain ⟨c, c', shared, hc, hstep, -, rfl⟩ := step_call h
    obtain ⟨hcount, hkeeps⟩ := Call.step_count hstep
    intro other hother hclaims
    rcases List.mem_or_eq_of_mem_set hother with hother | rfl
    · exact hinv other hother hclaims
    · rw [hcount]
      exact hinv c (List.mem_of_getElem? hc) (hkeeps hclaims)

/-! ## Claims -/

def World.busy (w : World) : ℕ := w.sys.shared.store.countBusy ""

def World.stateOf (w : World) (v : VMID) : Option State := (w.sys.shared.store.get v).map (·.state)

/-- A row that a call takes from Hot to Assigned is taken while fewer rows are busy than it asks for. -/
def TakesBelow (w : World) (a : WorldAct) (w' : World) : Prop :=
  ∀ i event c, a = .call i event → w.calls[i]? = some c →
    ∀ v, w.stateOf v = some .hot → w'.stateOf v = some .assigned → (w.busy : ℤ) < c.count

/-- The VMs that the step acquires for a call. -/
def acquisitions (_ : World) (a : WorldAct) (_ : World) : ℕ :=
  match a with
  | .call _ (.acquire (some _)) => 1
  | _ => 0

/-- The count of a message that arrives. -/
def WorldAct.asks : WorldAct → Option ℤ
  | .handle count => some count
  | _ => none

/-- Every message asks for `count` runners, and no busy VM is completed or otherwise taken away. -/
def Repeats (count : ℤ) (w : World) (a : WorldAct) (w' : World) : Prop :=
  (∀ n ∈ a.asks, n = count) ∧ ∀ row ∈ w.sys.shared.store.rows, row.state.busy = true →
    busyAt w'.sys.shared.store row.vmid = true

instance (count : ℤ) (w : World) (a : WorldAct) (w' : World) : Decidable (Repeats count w a w') :=
  inferInstanceAs (Decidable (_ ∧ _))

theorem Call.claims_of_acquire {vm : Option Handle} (h : c.step maxAttempts (.acquire vm) = some c') :
    c.stage.claims = true := by
  simp only [Call.step] at h
  split at h
  · next hstage => rw [hstage]; rfl
  · next hstage => rw [hstage]; rfl
  · cases h

/-- A claim that succeeds finds fewer busy rows than the count, and adds one. -/
theorem busy_of_acquire {i : ℕ} {vm : Handle} (hinv : Proper w) (hc : w.calls[i]? = some c)
    (h : w.step cfg maxAttempts (.call i (.acquire (some vm))) = some w') :
    (w.busy : ℤ) < c.count ∧ w'.busy = w.busy + 1 := by
  obtain ⟨other, c', shared, hother, hstep, hanswered, rfl⟩ := step_call h
  rw [hc, Option.some.injEq] at hother
  subst hother
  have hpositive := hinv c (List.mem_of_getElem? hc) (Call.claims_of_acquire hstep)
  rcases answered_store hanswered with ⟨-, hnot⟩ | ⟨-, old, -, hget, hhot, hbelow, hstore⟩
  · exact absurd rfl (hnot vm)
  · refine ⟨hbelow hpositive, ?_⟩
    unfold World.busy
    rw [hstore]
    exact Store.countBusy_put_assigned _ _ hget ⟨hhot, .inl rfl⟩

theorem takesBelow_step (hinv : Proper w) (h : w.step cfg maxAttempts a = some w') : TakesBelow w a w' := by
  rintro i event c rfl hc v hhot hassigned
  obtain ⟨other, c', shared, hother, -, hanswered, rfl⟩ := step_call h
  rcases answered_store hanswered with ⟨hstore, -⟩ | ⟨vm, old, rfl, -⟩
  · unfold World.stateOf at hhot hassigned
    rw [hstore, hhot] at hassigned
    cases hassigned
  · exact (busy_of_acquire hinv hc h).1

theorem busy_le {store store' : Store} (h : ∀ row ∈ store.rows, row.state.busy →
    busyAt store' row.vmid) : store.countBusy "" ≤ store'.countBusy "" := by
  have hnodup : ((store.rows.filter (·.state.busy)).map (·.vmid)).Nodup :=
    (Table.nodup_map_key_rows store).sublist ((List.filter_sublist).map _)
  have hsubset : (store.rows.filter (·.state.busy)).map (·.vmid) ⊆
      (store'.rows.filter (·.state.busy)).map (·.vmid) := by
    intro v hv
    obtain ⟨row, hrow, rfl⟩ := List.mem_map.mp hv
    obtain ⟨hmem, hbusy⟩ := List.mem_filter.mp hrow
    have hstays := h row hmem hbusy
    unfold busyAt at hstays
    obtain ⟨after, hafter⟩ : ∃ after, store'.get row.vmid = some after := by
      cases hget : store'.get row.vmid with
      | none => simp [hget] at hstays
      | some after => exact ⟨after, rfl⟩
    rw [hafter, Option.any_some] at hstays
    refine List.mem_map.mpr ⟨after, List.mem_filter.mpr ⟨?_, hstays⟩, Table.key_of_get hafter⟩
    exact Table.mem_rows.mpr (Table.key_of_get hafter ▸ hafter)
  have hlength := (List.subperm_of_subset hnodup hsubset).length_le
  simpa [Store.countBusy] using hlength

def SameCount (count : ℤ) (w : World) : Prop := ∀ c ∈ w.calls, c.count = count

theorem SameCount.step {count : ℤ} (hinv : SameCount count w) (hrepeats : Repeats count w a w')
    (h : w.step cfg maxAttempts a = some w') : SameCount count w' := by
  cases a with
  | pool act =>
    obtain ⟨sys, -, rfl⟩ := Option.map_eq_some_iff.mp h
    intro c hc
    cases act with
    | crash => cases hc
    | _ => exact hinv c hc
  | handle n =>
    cases h
    intro c hc
    rcases List.mem_append.mp hc with hc | hc
    · exact hinv c hc
    · rw [List.mem_singleton.mp hc]
      exact hrepeats.1 n rfl
  | call i event =>
    obtain ⟨c, c', shared, hc, hstep, -, rfl⟩ := step_call h
    intro other hother
    rcases List.mem_or_eq_of_mem_set hother with hother | rfl
    · exact hinv other hother
    · rw [(Call.step_count hstep).1]
      exact hinv c (List.mem_of_getElem? hc)

/-- What a step acquires is taken out of what is missing to the count. -/
theorem acquisitions_le {count : ℤ} (hproper : Proper w) (hsame : SameCount count w)
    (hrepeats : Repeats count w a w') (h : w.step cfg maxAttempts a = some w') :
    acquisitions w a w' + (count - w'.busy).toNat ≤ (count - w.busy).toNat := by
  have hbusy : w.busy ≤ w'.busy := busy_le hrepeats.2
  unfold acquisitions
  split
  · next i vm =>
    obtain ⟨c, c', shared, hc, -⟩ := step_call h
    obtain ⟨hbelow, hadded⟩ := busy_of_acquire hproper hc h
    rw [hsame c (List.mem_of_getElem? hc)] at hbelow
    omega
  · omega

/-- Every row that a call takes from Hot to Assigned is taken while fewer rows are busy than the call asks
for. So calls that all ask for the same count acquire, as long as no busy VM is completed, no more than
is missing to it in the beginning. -/
theorem desired_counts_absolute {w : World} (hcalls : w.calls = []) (acts : List WorldAct) :
    Along (World.step cfg maxAttempts) TakesBelow w acts ∧
      ∀ count, Along (World.step cfg maxAttempts) (Repeats count) w acts →
        (tally (World.step cfg maxAttempts) acquisitions w acts : ℤ) ≤ max 0 (count - w.busy) := by
  have hproper : Proper w := by
    intro c hc
    rw [hcalls] at hc
    cases hc
  refine ⟨?_, fun count hrepeats ↦ ?_⟩
  · refine along_of_invariant Proper ?_ hproper (along_of_step fun _ _ _ _ ↦ trivial)
    intro w a w' hinv _ h
    exact ⟨takesBelow_step hinv h, hinv.step h⟩
  · have hsame : SameCount count w := by
      intro c hc
      rw [hcalls] at hc
      cases hc
    have hbound : tally (World.step cfg maxAttempts) acquisitions w acts ≤ (count - w.busy).toNat := by
      refine tally_le (fun w ↦ (count - w.busy).toNat) (fun w ↦ Proper w ∧ SameCount count w) ?_
        ⟨hproper, hsame⟩ hrepeats
      rintro w a w' ⟨hproper, hsame⟩ hrepeats h
      exact ⟨acquisitions_le hproper hsame hrepeats h, hproper.step h, hsame.step hrepeats h⟩
    omega

/-- Two messages ask for one runner while one VM is Hot. -/
def askTwice : List WorldAct :=
  [.handle 1, .call 0 (.readStats (some 0)),
    .call 0 (.acquire (some
      { vmid := 10000, node := "pve1", name := "gh-runner-ci-10000", profile := "default" })),
    .handle 1, .call 1 (.readStats (some 1)), .call 0 .start]

theorem desired_counts_absolute_askTwice :
    ∃ sys ∈ run (Pool.step Pool.smallPool) Pool.freshPool (Pool.adoptNothing ++
        Pool.cloneOne .hot true ++ ([.fire 0 .ok, .fire 0 .ok] : List Act)),
      tally (World.step Pool.smallPool 6) acquisitions { sys := sys } askTwice = 1 ∧
        Along (World.step Pool.smallPool 6) TakesBelow { sys := sys } askTwice ∧
        (tally (World.step Pool.smallPool 6) acquisitions { sys := sys } askTwice : ℤ) ≤
          max 0 (1 - (World.busy { sys := sys } : ℤ)) := by
  obtain ⟨sys, hrun, htally, hrepeats⟩ : ∃ sys ∈ run (Pool.step Pool.smallPool) Pool.freshPool
      (Pool.adoptNothing ++ Pool.cloneOne .hot true ++ ([.fire 0 .ok, .fire 0 .ok] : List Act)),
      tally (World.step Pool.smallPool 6) acquisitions { sys := sys } askTwice = 1 ∧
        Along (World.step Pool.smallPool 6) (Repeats 1) { sys := sys } askTwice := by decide
  have habsolute : Along (World.step Pool.smallPool 6) TakesBelow { sys := sys } askTwice ∧
      ∀ count, Along (World.step Pool.smallPool 6) (Repeats count) { sys := sys } askTwice → _ :=
    desired_counts_absolute rfl askTwice
  exact ⟨sys, hrun, htally, habsolute.1, habsolute.2 1 hrepeats⟩

end ScalesetProxmox.Scaler
