import ScalesetProxmox.Store.Transactions
import ScalesetProxmox.Transition.Run

/-!
# Acquiring under the caps

The store's callers as a transition system: any number of them, each of whose calls is one
transaction, so that a run is a list of calls. A claim counts the busy rows and takes the oldest Hot
row in one transaction; `acquire_never_overcommits` is what this buys over every run, whatever the
other calls write in between.
-/

namespace ScalesetProxmox.Store

open Transition

/-- A claim on the whole fleet. -/
def acquireHot (store : Store) (now : Time) (jobID maxConcurrent maxBusy : ℤ) :
    Except Err (Store × VM) :=
  store.acquireHotInProfile now "" jobID maxConcurrent maxBusy

/-- The writing calls, with the clock reading each of them stamps. -/
inductive Op
  | insert (now : Time) (row : VM)
  | delete (v : VMID)
  | deleteAndReturn (v : VMID)
  | update (now : Time) (v : VMID) (mutate : VM → VM)
  | updateState (now : Time) (v : VMID) (source target : State) (mutate : VM → VM)
  | updateStateIn (now : Time) (v : VMID) (allowed : List State) (target : State) (mutate : VM → VM)
  | acquireHot (now : Time) (jobID maxConcurrent maxBusy : ℤ)
  | acquireHotInProfile (now : Time) (profile : String) (jobID maxConcurrent maxBusy : ℤ)

/-- What a claim asks for: its scope and the two caps. -/
structure Claim where
  profile : String
  maxConcurrent : ℤ
  maxBusy : ℤ

/-- The claim that a call makes. -/
def Op.claim : Op → Option Claim
  | .acquireHot _ _ maxConcurrent maxBusy =>
    some { profile := "", maxConcurrent := maxConcurrent, maxBusy := maxBusy }
  | .acquireHotInProfile _ profile _ maxConcurrent maxBusy =>
    some { profile := profile, maxConcurrent := maxConcurrent, maxBusy := maxBusy }
  | _ => none

/-- A call fails, or leaves a store and perhaps hands out a row. -/
def Op.exec (store : Store) : Op → Except Err (Store × Option VM)
  | .insert now row => (store.insert now row).map (·, none)
  | .delete v => .ok (store.delete v, none)
  | .deleteAndReturn v => .ok (store.deleteAndReturn v)
  | .update now v mutate => (store.update now v mutate).map fun after ↦ (after.1, some after.2)
  | .updateState now v source target mutate =>
    (store.updateState now v source target mutate).map fun after ↦ (after.1, none)
  | .updateStateIn now v allowed target mutate =>
    (store.updateStateIn now v allowed target mutate).map fun after ↦ (after.1, none)
  | .acquireHot now jobID maxConcurrent maxBusy =>
    (store.acquireHot now jobID maxConcurrent maxBusy).map fun after ↦ (after.1, some after.2)
  | .acquireHotInProfile now profile jobID maxConcurrent maxBusy =>
    (store.acquireHotInProfile now profile jobID maxConcurrent maxBusy).map fun after ↦
      (after.1, some after.2)

/-- One call; a transaction that fails is aborted. -/
def step (store : Store) (op : Op) : Option Store :=
  match op.exec store with
  | .ok (after, _) => some after
  | .error _ => some store

def Op.acquired (store : Store) (op : Op) : Option VM :=
  match op.claim, op.exec store with
  | some _, .ok (_, row) => row
  | _, _ => none

/-! ## What a claim does -/

theorem countBusy_eq_countP (store : Store) (profile : String) :
    store.countBusy profile =
      store.rows.countP fun row ↦ (profile = "" ∨ row.profile = profile) ∧ row.state.busy := by
  rw [countBusy, List.countP_eq_length_filter]

theorem countBusy_put_assigned {store : Store} {row : VM} {profile : String} (now : Time) (jobID : ℤ)
    (hget : store.get row.vmid = some row) (hhot : hotIn profile row) :
    countBusy (store.put (row.assignedTo now jobID)) profile = store.countBusy profile + 1 := by
  have hcount := Table.countP_rows_put
    (fun row : VM ↦ decide ((profile = "" ∨ row.profile = profile) ∧ row.state.busy))
    (show store.get (VM.vmid (row.assignedTo now jobID)) = some row from hget)
  rw [countBusy_eq_countP, countBusy_eq_countP]
  simpa [VM.assignedTo, hhot.1, hhot.2, State.busy] using hcount

def assignedAt (v : VMID) (store : Store) : Prop := ∃ row, store.get v = some row ∧ row.state = .assigned

/-- Some call of the run takes the row of `v` out of Assigned. -/
def LeavesAssigned (store : Store) (ops : List Op) (v : VMID) : Prop :=
  ∃ before op after t u, ops = before ++ op :: after ∧ run step store before = some t ∧
    step t op = some u ∧ assignedAt v t ∧ ¬assignedAt v u

/-- A claim that succeeds stays within both caps and changes one row, the oldest Hot one in its scope;
a claim that fails changes nothing. -/
def ClaimKept (store : Store) (op : Op) (after : Store) : Prop :=
  ∀ claim ∈ op.claim,
    (∀ row ∈ op.acquired store,
      after.countBusy "" ≤ claim.maxConcurrent ∧
      (0 < claim.maxBusy → after.countBusy claim.profile ≤ claim.maxBusy) ∧
      (∃ old, store.get row.vmid = some old ∧ hotIn claim.profile old ∧
        ∀ other, store.get other.vmid = some other → hotIn claim.profile other →
          old.createdAt ≤ other.createdAt) ∧
      (after.get row.vmid = some row ∧ row.state = .assigned) ∧
      ∀ v, v ≠ row.vmid → after.get v = store.get v) ∧
    (op.acquired store = none → after = store)

theorem exec_of_claim {op : Op} {claim : Claim} (h : claim ∈ op.claim) :
    ∃ now jobID, ∀ store, op.exec store =
      (store.acquireHotInProfile now claim.profile jobID claim.maxConcurrent claim.maxBusy).map
        fun after ↦ (after.1, some after.2) := by
  cases op with
  | acquireHot now jobID maxConcurrent maxBusy =>
    cases h
    exact ⟨now, jobID, fun store ↦ rfl⟩
  | acquireHotInProfile now profile jobID maxConcurrent maxBusy =>
    cases h
    exact ⟨now, jobID, fun store ↦ rfl⟩
  | _ => cases h

/-- A claim either fails and leaves the store alone, or returns what `acquireHotInProfile` does. -/
theorem claim_cases {op : Op} {claim : Claim} (h : claim ∈ op.claim) {store after : Store}
    (hstep : step store op = some after) :
    (op.acquired store = none ∧ after = store) ∨
    ∃ now jobID row, op.acquired store = some row ∧
      store.acquireHotInProfile now claim.profile jobID claim.maxConcurrent claim.maxBusy =
        .ok (after, row) := by
  obtain ⟨now, jobID, hexec⟩ := exec_of_claim h
  cases hresult : store.acquireHotInProfile now claim.profile jobID claim.maxConcurrent claim.maxBusy with
  | error err =>
    left
    simp only [step, Op.acquired, hexec, hresult, Except.map, Option.some.injEq] at hstep ⊢
    exact ⟨by cases op.claim <;> rfl, hstep.symm⟩
  | ok outcome =>
    obtain ⟨written, row⟩ := outcome
    simp only [step, hexec, hresult, Except.map, Option.some.injEq] at hstep
    subst hstep
    refine .inr ⟨now, jobID, row, ?_, hresult⟩
    simp [Op.acquired, hexec, hresult, Except.map, Option.mem_def.mp h]

theorem exists_claim_of_acquired {op : Op} {store : Store} {row : VM} (h : row ∈ op.acquired store) :
    ∃ claim, claim ∈ op.claim := by
  cases hclaim : op.claim with
  | none => simp [Op.acquired, hclaim] at h
  | some claim => exact ⟨claim, rfl⟩

theorem exists_step (store : Store) (op : Op) : ∃ after, step store op = some after := by
  unfold step
  split
  · exact ⟨_, rfl⟩
  · exact ⟨_, rfl⟩

theorem claimKept_of_step {store after : Store} {op : Op} (hstep : step store op = some after) :
    ClaimKept store op after := by
  intro claim hclaim
  rcases claim_cases hclaim hstep with ⟨hnone, rfl⟩ | ⟨now, jobID, row, hrow, hok⟩
  · simp [hnone]
  refine ⟨fun other hother ↦ ?_, fun hnone ↦ by simp [hrow] at hnone⟩
  rw [Option.mem_def, hrow, Option.some.injEq] at hother
  subst hother
  obtain ⟨old, hget, hhot, holdest, hfleet, hscope, hassigned, rfl⟩ := acquireHotInProfile_spec hok
  have hfleetHot : hotIn "" old := ⟨hhot.1, .inl rfl⟩
  rw [hassigned] at *
  refine ⟨?_, fun hpos ↦ ?_, ⟨old, hget, hhot, holdest⟩, ⟨?_, rfl⟩, fun v hv ↦ ?_⟩
  · rw [countBusy_put_assigned now jobID hget hfleetHot]
    exact_mod_cast hfleet
  · rw [countBusy_put_assigned now jobID hget hhot]
    exact_mod_cast hscope hpos
  · exact Table.get_put_self store _
  · exact Table.get_put_ne _ hv

/-- Over every run of any number of callers, claims keep to their caps, take the oldest Hot row of
their scope and nothing else, and fail without effect; and a row that is handed out twice has left
Assigned in between. -/
theorem acquire_never_overcommits (store : Store) (ops : List Op) :
    Along step ClaimKept store ops ∧
    ∀ before first between second rest, ops = before ++ first :: (between ++ second :: rest) →
      ∀ s t u row again, run step store before = some s → row ∈ first.acquired s →
        step s first = some t → run step t between = some u → again ∈ second.acquired u →
        again.vmid = row.vmid → LeavesAssigned t between row.vmid := by
  refine ⟨along_of_step fun _ _ _ hstep ↦ claimKept_of_step hstep, ?_⟩
  intro before first between second rest _ s t u row again _ hrow hfirst hbetween hagain hvmid
  -- the row is Assigned after the first claim and Hot before the second
  have hassigned : assignedAt row.vmid t := by
    obtain ⟨claim, hclaim⟩ := exists_claim_of_acquired hrow
    obtain ⟨_, _, _, hwritten, _⟩ := (claimKept_of_step hfirst claim hclaim).1 row hrow
    exact ⟨row, hwritten⟩
  have hhot : ¬assignedAt row.vmid u := by
    rintro ⟨held, hheld, hstate⟩
    obtain ⟨claim, hclaim⟩ := exists_claim_of_acquired hagain
    obtain ⟨after, hsecond⟩ := exists_step u second
    obtain ⟨_, _, ⟨old, hold, hin, _⟩, _⟩ := (claimKept_of_step hsecond claim hclaim).1 again hagain
    rw [hvmid, hheld, Option.some.injEq] at hold
    rw [hold, hin.1] at hstate
    cases hstate
  exact exists_step_of_lost hassigned hhot hbetween

end ScalesetProxmox.Store
