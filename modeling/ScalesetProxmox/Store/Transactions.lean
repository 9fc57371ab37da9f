import ScalesetProxmox.Store.Schema

/-!
# Transactions of the VM table

The operations of `internal/store/store.go`. Each is one memdb transaction and so one atomic step:
reads see one snapshot, and a failed write leaves the table as it was. The clock reading a write
stamps is its argument `now`. An index lists the rows with one value in VMID order.

Every write is a `put` of a row over itself (`update`, `updateState`, `updateStateIn`,
`acquireHotInProfile`), a `put` over nothing (`insert`) or an `erase`; the lemmas beside each
operation say which, and nothing below this module unfolds them.
-/

namespace ScalesetProxmox

/-- The VM table: at most one row per VMID. -/
abbrev Store := Table Store.VMID Store.VM Store.VM.vmid

namespace Store

/-- Errors a transaction can return. -/
inductive Err
  | notFound
  | atCapacity
  | noneAvailable
  | immutableFieldChanged
  | vmidNotPositive
  | vmidExists
  deriving DecidableEq, Repr

def defaultProfileName : String := "default"

/-! ## Reads -/

/-- Rows in any of the states, grouped by state in the order given. -/
def listByState (store : Store) (states : List State) : List VM :=
  states.flatMap fun state ↦ store.rows.filter (·.state = state)

def listExcludingStates (store : Store) (excluded : List State) : List VM :=
  store.rows.filter (·.state ∉ excluded)

def listByProfileAndStates (store : Store) (profile : String) (states : List State) : List VM :=
  states.flatMap fun state ↦ store.rows.filter fun row ↦ row.profile = profile ∧ row.state = state

def countByProfileState (store : Store) (profile : String) (state : State) : ℕ :=
  (store.rows.filter fun row ↦ row.profile = profile ∧ row.state = state).length

def usedVMIDs (store : Store) (minID maxID : VMID) : List VMID :=
  (store.rows.map VM.vmid).filter fun v ↦ minID ≤ v ∧ v ≤ maxID

variable {store : Store} {row : VM}

theorem mem_listByState {states : List State} :
    row ∈ store.listByState states ↔ store.get row.vmid = some row ∧ row.state ∈ states := by
  simp [listByState, Table.mem_rows, and_comm]

theorem mem_listExcludingStates {excluded : List State} : row ∈ store.listExcludingStates excluded ↔
      store.get row.vmid = some row ∧ row.state ∉ excluded := by
  simp [listExcludingStates, Table.mem_rows]

variable {profile : String}

theorem mem_listByProfileAndStates {states : List State} :
    row ∈ store.listByProfileAndStates profile states ↔
      store.get row.vmid = some row ∧ row.profile = profile ∧ row.state ∈ states := by
  simp only [listByProfileAndStates, List.mem_flatMap, List.mem_filter, Table.mem_rows,
    decide_eq_true_eq]
  constructor
  · rintro ⟨state, hstate, hget, hprofile, rfl⟩
    exact ⟨hget, hprofile, hstate⟩
  · rintro ⟨hget, hprofile, hstate⟩
    exact ⟨row.state, hstate, hget, hprofile, rfl⟩

theorem mem_usedVMIDs {minID maxID v : VMID} :
    v ∈ store.usedVMIDs minID maxID ↔ (store.get v).isSome ∧ minID ≤ v ∧ v ≤ maxID := by
  simp only [usedVMIDs, List.mem_filter, List.mem_map, Table.mem_rows, decide_eq_true_eq]
  constructor
  · rintro ⟨⟨row, hget, rfl⟩, hrange⟩
    exact ⟨by rw [hget]; rfl, hrange⟩
  · rintro ⟨hget, hrange⟩
    obtain ⟨row, hrow⟩ := Option.isSome_iff_exists.mp hget
    have hkey : row.vmid = v := Table.key_of_get hrow
    exact ⟨⟨row, by rw [hkey, hrow], hkey⟩, hrange⟩

/-! ## Writes -/

/-- Unset times become `now` and an empty profile the default one. -/
def VM.stampInsert (row : VM) (now : Time) : VM :=
  { row with
    createdAt := if row.createdAt = 0 then now else row.createdAt
    updatedAt := if row.updatedAt = 0 then now else row.updatedAt
    stateSince := if row.stateSince = 0 then now else row.stateSince
    profile := if row.profile = "" then defaultProfileName else row.profile }

@[simp]
theorem VM.stampInsert_state (row : VM) (now : Time) :
    (row.stampInsert now).state = row.state := rfl

def insert (store : Store) (now : Time) (row : VM) : Except Err Store :=
  if row.vmid = 0 then
    .error .vmidNotPositive
  else if (store.get row.vmid).isSome then
    .error .vmidExists
  else
    .ok (store.put (row.stampInsert now))

/-- Removing a row that is not there is a no-op. -/
def delete (store : Store) (v : VMID) : Store := store.erase v

def deleteAndReturn (store : Store) (v : VMID) : Store × Option VM :=
  (store.erase v, store.get v)

/-- A mutator may not change the VMID, the profile or the creation time. -/
def enforceImmutable (before after : VM) : Bool :=
  before.vmid = after.vmid ∧ before.profile = after.profile ∧ before.createdAt = after.createdAt

/-- Unconditional read-modify-write. -/
def update (store : Store) (now : Time) (v : VMID) (mutate : VM → VM) : Except Err (Store × VM) :=
  match store.get v with
  | none => .error .notFound
  | some row =>
    if enforceImmutable row (mutate row) then
      let after := { mutate row with updatedAt := now }
      .ok (store.put after, after)
    else
      .error .immutableFieldChanged

/-- The row a compare-and-swap writes. -/
def VM.moved (row : VM) (now : Time) (target : State) (mutate : VM → VM) : VM :=
  mutate { row with state := target, stateSince := now, updatedAt := now }

/-- Compare-and-swap on the state: `false` when the row is gone or in none of the states. -/
def updateStateIn (store : Store) (now : Time) (v : VMID) (allowed : List State) (target : State)
    (mutate : VM → VM) : Except Err (Store × Bool) :=
  match store.get v with
  | none => .ok (store, false)
  | some row =>
    if row.state ∈ allowed then
      if enforceImmutable row (row.moved now target mutate) then
        .ok (store.put (row.moved now target mutate), true)
      else
        .error .immutableFieldChanged
    else
      .ok (store, false)

def updateState (store : Store) (now : Time) (v : VMID) (source target : State)
    (mutate : VM → VM) : Except Err (Store × Bool) :=
  store.updateStateIn now v [source] target mutate

/-- Rows in Assigned or Running, in one profile or (empty name) in all of them. -/
def countBusy (store : Store) (profile : String) : ℕ :=
  (store.rows.filter fun row ↦ (profile = "" ∨ row.profile = profile) ∧ row.state.busy).length

/-- The first row with the least creation time. -/
def oldest : List VM → Option VM
  | [] => none
  | row :: rows =>
    some (rows.foldl (fun best cand ↦ if cand.createdAt < best.createdAt then cand else best) row)

def VM.assignedTo (row : VM) (now : Time) (jobID : ℤ) : VM :=
  { row with state := .assigned, jobID := jobID, stateSince := now, updatedAt := now }

/-- Hand the oldest Hot row to a job unless a cap is reached. -/
def acquireHotInProfile (store : Store) (now : Time) (profile : String) (jobID : ℤ)
    (maxConcurrent maxBusy : ℤ) : Except Err (Store × VM) :=
  if maxConcurrent ≤ store.countBusy "" then
    .error .atCapacity
  else if 0 < maxBusy ∧ maxBusy ≤ store.countBusy profile then
    .error .atCapacity
  else
    match oldest (store.rows.filter fun row ↦
        (profile = "" ∨ row.profile = profile) ∧ row.state = .hot) with
    | none => .error .noneAvailable
    | some row => .ok (store.put (row.assignedTo now jobID), row.assignedTo now jobID)

/-! ## What the writes do -/

variable {store' : Store} {now : Time}

theorem insert_eq_ok : store.insert now row = .ok store' ↔
      row.vmid ≠ 0 ∧ store.get row.vmid = none ∧ store' = store.put (row.stampInsert now) := by
  unfold insert
  split_ifs with hzero hexists
  · simp [hzero]
  · have hne : store.get row.vmid ≠ none := Option.isSome_iff_ne_none.mp hexists
    simp [hne]
  · have hnone : store.get row.vmid = none := Option.not_isSome_iff_eq_none.mp hexists
    simp only [Except.ok.injEq, ne_eq, hzero, not_false_eq_true, hnone, true_and]
    exact eq_comm

theorem update_eq_ok {v : VMID} {mutate : VM → VM} {after : VM} :
    store.update now v mutate = .ok (store', after) ↔
      ∃ row, store.get v = some row ∧ enforceImmutable row (mutate row) ∧
        after = { mutate row with updatedAt := now } ∧ store' = store.put after := by
  unfold update
  cases hget : store.get v with
  | none => simp
  | some row =>
    simp only [Option.some.injEq, exists_eq_left']
    split_ifs with himm
    · constructor
      · intro h
        cases h
        exact ⟨himm, rfl, rfl⟩
      · rintro ⟨_, rfl, rfl⟩
        rfl
    · simp [himm]

theorem updateStateIn_eq_ok_true {v : VMID} {allowed : List State} {target : State} {mutate : VM → VM} :
    store.updateStateIn now v allowed target mutate = .ok (store', true) ↔
      ∃ row, store.get v = some row ∧ row.state ∈ allowed ∧
        enforceImmutable row (row.moved now target mutate) ∧
        store' = store.put (row.moved now target mutate) := by
  unfold updateStateIn
  cases hget : store.get v with
  | none => simp
  | some row =>
    simp only [Option.some.injEq, exists_eq_left']
    split_ifs with hstate himm
    · constructor
      · intro h
        cases h
        exact ⟨hstate, himm, rfl⟩
      · rintro ⟨_, _, rfl⟩
        rfl
    · simp [himm]
    · simp [hstate]

theorem oldest_mem {rows : List VM} (h : oldest rows = some row) : row ∈ rows := by
  cases rows with
  | nil => simp [oldest] at h
  | cons first rest =>
    simp only [oldest, Option.some.injEq] at h
    subst h
    induction rest generalizing first with
    | nil => simp
    | cons cand rest ih =>
      simp only [List.foldl_cons]
      split_ifs
      · exact List.mem_cons_of_mem _ (ih cand)
      · rcases List.mem_cons.mp (ih first) with h | h
        · rw [h]
          exact List.mem_cons_self
        · exact List.mem_cons_of_mem _ (List.mem_cons_of_mem _ h)

theorem oldest_le {rows : List VM} (h : oldest rows = some row) :
    ∀ other ∈ rows, row.createdAt ≤ other.createdAt := by
  cases rows with
  | nil => simp [oldest] at h
  | cons first rest =>
    simp only [oldest, Option.some.injEq] at h
    subst h
    induction rest generalizing first with
    | nil => simp
    | cons cand rest ih =>
      simp only [List.foldl_cons, List.forall_mem_cons] at ih ⊢
      -- the fold goes on with the older of the two
      split_ifs with holder
      · obtain ⟨hcand, hrest⟩ := ih cand
        exact ⟨hcand.trans holder.le, hcand, hrest⟩
      · obtain ⟨hfirst, hrest⟩ := ih first
        exact ⟨hfirst, hfirst.trans (not_lt.mp holder), hrest⟩

/-- The row is Hot and in the scope of the profile, or of the fleet if it is empty. -/
def hotIn (profile : String) (row : VM) : Prop :=
  row.state = .hot ∧ (profile = "" ∨ row.profile = profile)

/-- What a successful claim saw and did. -/
theorem acquireHotInProfile_spec {after : Store} {jobID : ℤ} {maxConcurrent maxBusy : ℤ}
    (h : store.acquireHotInProfile now profile jobID maxConcurrent maxBusy = .ok (after, row)) :
    ∃ old, store.get old.vmid = some old ∧ hotIn profile old ∧
      (∀ other, store.get other.vmid = some other → hotIn profile other →
        old.createdAt ≤ other.createdAt) ∧
      store.countBusy "" < maxConcurrent ∧ (0 < maxBusy → store.countBusy profile < maxBusy) ∧
      row = old.assignedTo now jobID ∧ after = store.put row := by
  unfold acquireHotInProfile at h
  split_ifs at h with hfleet hscope
  split at h
  · cases h
  next old holdest =>
    cases h
    have hcand : ∀ other, other ∈ store.rows.filter (fun row ↦
        (profile = "" ∨ row.profile = profile) ∧ row.state = .hot) ↔
        store.get other.vmid = some other ∧ hotIn profile other := by
      intro other
      simp only [List.mem_filter, Table.mem_rows, decide_eq_true_eq, hotIn, and_comm]
    obtain ⟨hget, hhot⟩ := (hcand old).mp (oldest_mem holdest)
    refine ⟨old, hget, hhot, fun other hother hin ↦ ?_, not_le.mp hfleet, fun hpos ↦ ?_, rfl, rfl⟩
    · exact oldest_le holdest other ((hcand other).mpr ⟨hother, hin⟩)
    · exact not_le.mp fun hle ↦ hscope ⟨hpos, hle⟩

theorem acquireHotInProfile_eq_ok {jobID : ℤ} {maxConcurrent maxBusy : ℤ} {after : VM}
    (h : store.acquireHotInProfile now profile jobID maxConcurrent maxBusy = .ok (store', after)) :
    ∃ row, store.get row.vmid = some row ∧ row.state = .hot ∧
      after = row.assignedTo now jobID ∧ store' = store.put after := by
  obtain ⟨row, hget, hhot, _, _, _, hafter, hstore⟩ := acquireHotInProfile_spec h
  exact ⟨row, hget, hhot.1, hafter, hstore⟩

end Store

end ScalesetProxmox
