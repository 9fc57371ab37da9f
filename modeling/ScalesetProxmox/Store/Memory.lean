import ScalesetProxmox.Config.Scalesets
import ScalesetProxmox.Memdb.Transaction
import ScalesetProxmox.Store.Identity

/-!
# The store's calls as programs

The functions of `internal/store/store.go` statement by statement, over a database that stores its rows by
pointer: what they look up, copy, write in place, insert and commit, and what they return when a call of the
database fails. The functions of `Store/Transactions.lean` say what comes of them. A mutator is any function
of the row that it is given to change, which is always a copy.
-/

namespace ScalesetProxmox.Store.Memory

open Text (quote)
open Memdb hiding insert delete
open Transition

/-- An error with its text; `err` is `none` for an error of the database. -/
structure Failure where
  err : Option Err
  text : String
  deriving DecidableEq, Repr

abbrev Script := Tx VMID VM Failure

def fault (text : String) : Failure := { err := none, text := text }

def errNotFound : Failure := { err := some .notFound, text := "store: vm not found" }

def errAtCapacity : Failure := { err := some .atCapacity, text := "store: at capacity" }

def errNoneAvailable : Failure := { err := some .noneAvailable, text := "store: no hot vm available" }

def errImmutableFieldChanged (detail : String) : Failure where
  err := some .immutableFieldChanged
  text := s!"store: mutator changed immutable field: {detail}"

def errVMIDNotPositive (v : VMID) : Failure where
  err := some .vmidNotPositive
  text := s!"store: insert: vmid must be positive (got {v})"

def errVMIDExists (v : VMID) : Failure where
  err := some .vmidExists
  text := s!"store: insert: vmid {v} already exists"

/-! ## The functions of the source -/

def insert (now : Time) (v : VM) : Script Unit := do
  if v.vmid = 0 then
    throw (errVMIDNotPositive v.vmid)
  else
    match ← first fault s!"store: insert: lookup {v.vmid}" v.vmid with
    | some _ => throw (errVMIDExists v.vmid)
    | none =>
      let row ← fresh v
      write row (·.stampInsert now)
      Memdb.insert VM.vmid fault s!"store: insert {v.vmid}" row
      commit
      return ()

def delete (v : VMID) : Script Unit := do
  match ← first fault s!"store: delete: lookup {v}" v with
  | none => return ()
  | some existing =>
    Memdb.delete VM.vmid fault s!"store: delete {v}" existing
    commit
    return ()

def deleteAndReturn (v : VMID) : Script (Option Addr) := do
  match ← first fault s!"store: delete-and-return: lookup {v}" v with
  | none => return none
  | some existing =>
    Memdb.delete VM.vmid fault s!"store: delete-and-return {v}" existing
    commit
    let row ← handOut existing
    return some row

def enforceImmutable (before after : VM) : Script Unit := do
  if before.vmid ≠ after.vmid then
    throw (errImmutableFieldChanged s!"VMID {before.vmid} -> {after.vmid}")
  else if before.profile ≠ after.profile then
    throw (errImmutableFieldChanged
      s!"Profile {quote before.profile} -> {quote after.profile} (vmid {before.vmid})")
  else if before.createdAt ≠ after.createdAt then
    throw (errImmutableFieldChanged s!"CreatedAt (vmid {before.vmid})")
  else
    return ()

def updateInTxn (now : Time) (v : VMID) (mutate : VM → VM) : Script Addr := do
  match ← first fault s!"store: update: lookup {v}" v with
  | none => throw errNotFound
  | some before =>
    let cur ← clone before
    write cur mutate
    enforceImmutable (← load before) (← load cur)
    write cur ({ · with updatedAt := now })
    Memdb.insert VM.vmid fault s!"store: update {v}" cur
    return cur

def update (now : Time) (v : VMID) (mutate : VM → VM) : Script Addr := do
  let row ← updateInTxn now v mutate
  commit
  handOut row

/-- `UpdateState` and `UpdateStateIn`, which differ in how they test the state. -/
def cas (now : Time) (v : VMID) (allowed : State → Bool) (target : State) (mutate : VM → VM) :
    Script Bool := do
  match ← first fault s!"store: cas: lookup {v}" v with
  | none => return false
  | some cur =>
    if allowed (← load cur).state then
      let cp ← clone cur
      write cp ({ · with state := target, stateSince := now, updatedAt := now })
      write cp mutate
      enforceImmutable (← load cur) (← load cp)
      Memdb.insert VM.vmid fault s!"store: cas: write {v}" cp
      commit
      return true
    else
      return false

def updateState (now : Time) (v : VMID) (source target : State) (mutate : VM → VM) : Script Bool :=
  cas now v (· = source) target mutate

def updateStateIn (now : Time) (v : VMID) (allowed : List State) (target : State) (mutate : VM → VM) :
    Script Bool :=
  cas now v (· ∈ allowed) target mutate

/-- The rows of one state, in one profile or (empty name) in all of them. -/
def inState (profile : String) (state : State) (row : VM) : Bool :=
  (profile = "" ∨ row.profile = profile) ∧ row.state = state

def countBusy (profile : String) : Script ℕ := do
  let scope := if profile = "" then "" else profile ++ "/"
  let assigned ← list fault s!"store: acquire: count {scope}assigned" (inState profile .assigned)
  let running ← list fault s!"store: acquire: count {scope}running" (inState profile .running)
  return assigned.length + running.length

/-- The first of the rows with the least creation time. -/
def oldestOf (object : Addr → VM) : List Addr → Option Addr
  | [] => none
  | a :: rest =>
    some (rest.foldl (fun oldest cand ↦
      if (object cand).createdAt < (object oldest).createdAt then cand else oldest) a)

/-- The last part of `AcquireHotInProfile`, when no cap is reached. -/
def claimOldest (now : Time) (profile : String) (jobID : ℤ) : Script Addr := do
  let hot ← list fault "store: acquire: list hot" (inState profile .hot)
  match oldestOf (← objects) hot with
  | none => throw errNoneAvailable
  | some oldest =>
    let cp ← clone oldest
    write cp (·.assignedTo now jobID)
    let row ← load cp
    Memdb.insert VM.vmid fault s!"store: acquire: write {row.vmid}" cp
    commit
    handOut cp

def acquireHotInProfile (now : Time) (profile : String) (jobID maxConcurrent maxBusy : ℤ) :
    Script Addr := do
  let globalBusy ← countBusy ""
  if maxConcurrent ≤ globalBusy then
    throw errAtCapacity
  else
    let busy ← if 0 < maxBusy ∧ profile ≠ "" then countBusy profile else pure globalBusy
    if 0 < maxBusy ∧ maxBusy ≤ busy then
      throw errAtCapacity
    else
      claimOldest now profile jobID

/-! ## What comes of them -/

variable {α β : Type} {db : Db VMID VM} {table : Store} {fails : String → Option String}

/-- A program returns what the operation on the table returns and leaves its table. An error leaves the table
as it was. -/
def Outcome (table : Store) (result : Except Err (Store × β)) (agree : Db VMID VM → α → β → Prop) :
    Except Failure α → Db VMID VM → Prop
  | .ok a, db => ∃ table' b, result = .ok (table', b) ∧ db.Represents table' ∧ agree db a b
  | .error e, db => db.Represents table ∧ ∀ err ∈ e.err, result = .error err

theorem outcome_fault {result : Except Err (Store × β)} {agree : Db VMID VM → α → β → Prop}
    (h : db.Represents table) (text : String) : Outcome table result agree (.error (fault text)) db :=
  ⟨h, fun _ herr ↦ by cases herr⟩

theorem outcome_error {result : Except Err (Store × β)} {agree : Db VMID VM → α → β → Prop} {e : Failure}
    {err : Err} (h : db.Represents table) (he : e.err = some err) (hresult : result = .error err) :
    Outcome table result agree (.error e) db :=
  ⟨h, fun err' herr ↦ by rwa [← Option.some.inj (he.symm.trans herr)]⟩

section

variable {result : Except Err (Store × β)} {agree : Db VMID VM → α → β → Prop} {site : String} {v : VMID}

theorem ends_lookup {c : Option Addr → Script α} (h : db.Represents table)
    (hnone : table.get v = none → Ends (c none) (Outcome table result agree) (db.begin fails))
    (hsome : ∀ a, table.get v = some (db.heap.object a) → a < db.heap.next →
      Ends (c (some a)) (Outcome table result agree) (db.begin fails)) :
    Ends (first fault site v >>= c) (Outcome table result agree) (db.begin fails) := by
  refine ends_first (outcome_fault h) ?_
  have hget : table.get v = (db.root.get v).map fun e ↦ db.heap.object e.addr := h.get v
  cases hroot : db.root.get v with
  | none =>
    rw [hroot] at hget
    simp only [Db.begin, hroot, Option.map_none]
    exact hnone hget
  | some e =>
    rw [hroot] at hget
    simp only [Db.begin, hroot, Option.map_some]
    exact hsome e.addr hget (h.allocated v e hroot)

theorem ends_enforceImmutable {Q : Except Failure α → Db VMID VM → Prop} {t : Txn VMID VM}
    {before after : VM} {c : Unit → Script α}
    (hdiff : ¬SameIdentity before after → ∀ detail, Q (.error (errImmutableFieldChanged detail)) t.finish)
    (hsame : SameIdentity before after → Ends (c ()) Q t) :
    Ends (enforceImmutable before after >>= c) Q t := by
  unfold enforceImmutable
  split_ifs with hvmid hprofile hcreated
  · exact hdiff (fun h ↦ hvmid h.vmid.symm) _
  · exact hdiff (fun h ↦ hprofile h.profile.symm) _
  · exact hdiff (fun h ↦ hcreated h.createdAt.symm) _
  · rw [not_not] at hvmid hprofile hcreated
    exact hsame ⟨hvmid.symm, hprofile.symm, hcreated.symm⟩

end

theorem insert_ends (h : db.Represents table) (now : Time) (v : VM) :
    Ends (insert now v) (Outcome table ((table.insert now v).map (·, ())) fun _ _ _ ↦ True)
      (db.begin fails) := by
  unfold insert
  split_ifs with hzero
  · exact outcome_error h rfl (by simp [Store.insert, hzero, Except.map])
  · refine ends_lookup h (fun hnone ↦ ?_) (fun a hsome _ ↦ ?_)
    · simp only [ends_fresh, ends_write, Db.begin, Heap.write_alloc_next]
      refine ends_insert (outcome_fault (h.alloc _)) ?_
      simp only [ends_commit, ends_pure, Heap.object_alloc_next]
      refine ⟨table.put (v.stampInsert now), (), ?_, h.put _, trivial⟩
      simp [Store.insert, hzero, hnone, Except.map]
    · exact outcome_error h rfl (by simp [Store.insert, hzero, hsome, Except.map])

theorem get_erase_of_none {v : VMID} (h : table.get v = none) (u : VMID) :
    (table.erase v).get u = table.get u := by
  rw [Table.get_erase]
  split_ifs with hu
  · rw [hu, h]
  · rfl

theorem delete_ends (h : db.Represents table) (v : VMID) :
    Ends (delete v) (Outcome table (.ok (table.delete v, ())) fun _ _ _ ↦ True) (db.begin fails) := by
  unfold delete
  refine ends_lookup h (fun hnone ↦ ?_) (fun a hsome _ ↦ ?_)
  · exact ⟨table.erase v, (), rfl, h.of_get_eq (get_erase_of_none hnone), trivial⟩
  · have hkey : (db.heap.object a).vmid = v := Table.key_of_get hsome
    refine ends_delete (outcome_fault h) ?_
    exact ⟨table.erase v, (), rfl, hkey ▸ h.erase _, trivial⟩

/-- The caller has an object with this content. -/
def Given (db : Db VMID VM) (a : Addr) (row : VM) : Prop := a ∈ db.handed ∧ db.heap.object a = row

theorem deleteAndReturn_ends (h : db.Represents table) (v : VMID) :
    Ends (deleteAndReturn v) (Outcome table (.ok (table.deleteAndReturn v)) fun db a row ↦
      Option.Rel (Given db) a row) (db.begin fails) := by
  unfold deleteAndReturn
  refine ends_lookup h (fun hnone ↦ ?_) (fun a hsome hlt ↦ ?_)
  · refine ⟨table.erase v, none, ?_, h.of_get_eq (get_erase_of_none hnone), .none⟩
    rw [Store.deleteAndReturn, hnone]
  · have hkey : (db.heap.object a).vmid = v := Table.key_of_get hsome
    refine ends_delete (outcome_fault h) ?_
    refine ⟨table.erase v, some (db.heap.object a), ?_, hkey ▸ (h.erase _).handOut _, .some ?_⟩
    · rw [Store.deleteAndReturn, hsome]
    · exact ⟨List.mem_cons_self, Heap.object_alloc_next⟩

theorem update_ends (h : db.Represents table) (now : Time) (v : VMID) (mutate : VM → VM) :
    Ends (update now v mutate) (Outcome table (table.update now v mutate) Given) (db.begin fails) := by
  unfold update updateInTxn
  rw [bind_assoc]
  refine ends_lookup h (fun hnone ↦ ?_) (fun a hsome hlt ↦ ?_)
  · exact outcome_error h rfl (by rw [Store.update, hnone])
  · simp only [bind_assoc, ends_clone, ends_write, ends_load, Db.begin,
      Heap.write_alloc_next, Heap.object_alloc_next, Heap.object_alloc_of_lt hlt]
    refine ends_enforceImmutable (fun hdiff detail ↦ ?_) (fun hsame ↦ ?_)
    · have himm : Store.enforceImmutable (db.heap.object a) (mutate (db.heap.object a)) ≠ true :=
        mt enforceImmutable_iff.mp hdiff
      exact outcome_error (h.alloc _) rfl (by simp only [Store.update, hsome, if_neg himm])
    · simp only [ends_write, Heap.write_alloc_next]
      refine ends_insert (outcome_fault (h.alloc _)) ?_
      simp only [pure_bind, ends_commit, ends_handOut_last, Heap.object_alloc_next]
      refine ⟨_, _, update_eq_ok.mpr ⟨_, hsome, enforceImmutable_iff.mpr hsame, rfl, rfl⟩,
        (h.put _).handOut _, List.mem_cons_self, Heap.object_alloc_next⟩

theorem cas_ends (h : db.Represents table) (now : Time) (v : VMID) {allowed : State → Bool}
    {states : List State} (hallowed : ∀ state, allowed state ↔ state ∈ states) (target : State)
    (mutate : VM → VM) :
    Ends (cas now v allowed target mutate)
      (Outcome table (table.updateStateIn now v states target mutate) fun _ won b ↦ won = b)
      (db.begin fails) := by
  unfold cas
  refine ends_lookup h (fun hnone ↦ ?_) (fun a hsome hlt ↦ ?_)
  · exact ⟨table, false, by rw [Store.updateStateIn, hnone], h, rfl⟩
  · simp only [ends_load, Db.begin]
    split_ifs with hstate
    · have hmem := (hallowed _).mp hstate
      simp only [ends_clone, ends_write, ends_load, Heap.write_alloc_next,
        Heap.object_alloc_next, Heap.object_alloc_of_lt hlt]
      refine ends_enforceImmutable (fun hdiff detail ↦ ?_) (fun hsame ↦ ?_)
      · have himm : Store.enforceImmutable _ ((db.heap.object a).moved now target mutate) ≠ true :=
          mt enforceImmutable_iff.mp hdiff
        exact outcome_error (h.alloc _) rfl
          (by simp only [Store.updateStateIn, hsome, if_pos hmem, if_neg himm])
      · refine ends_insert (outcome_fault (h.alloc _)) ?_
        simp only [ends_commit, ends_pure, Heap.object_alloc_next]
        refine ⟨_, true, updateStateIn_eq_ok_true.mpr ⟨_, hsome, hmem, enforceImmutable_iff.mpr hsame, rfl⟩,
          h.put _, rfl⟩
    · have hmem := mt (hallowed _).mpr hstate
      exact ⟨table, false, by simp only [Store.updateStateIn, hsome, if_neg hmem], h, rfl⟩

/-! ### Claims -/

theorem map_object_filter (h : db.Represents table) (p : VM → Bool) :
    ((db.root.rows.map Entry.addr).filter fun a ↦ p (db.heap.object a)).map db.heap.object =
      table.rows.filter p := by
  rw [h.rows, Db.rows, List.filter_map (f := db.heap.object)]
  rfl

/-- The two states are counted one after the other. -/
theorem countBusy_eq_add (table : Store) (profile : String) :
    table.countBusy profile = (table.rows.filter (inState profile .assigned)).length +
      (table.rows.filter (inState profile .running)).length := by
  rw [countBusy_eq_countP, ← List.countP_eq_length_filter, ← List.countP_eq_length_filter]
  induction table.rows with
  | nil => rfl
  | cons row rows ih =>
    have hrow : (if (profile = "" ∨ row.profile = profile) ∧ row.state.busy = true then 1 else 0) =
        (if inState profile .assigned row = true then 1 else 0) +
          if inState profile .running row = true then 1 else 0 := by
      simp only [inState, decide_eq_true_eq]
      cases row.state <;> simp [State.busy]
    simp only [List.countP_cons, decide_eq_true_eq, ih, hrow]
    omega

theorem ends_countBusy {result : Except Err (Store × β)} {agree : Db VMID VM → α → β → Prop}
    {profile : String} {c : ℕ → Script α} (h : db.Represents table)
    (hnext : Ends (c (table.countBusy profile)) (Outcome table result agree) (db.begin fails)) :
    Ends (countBusy profile >>= c) (Outcome table result agree) (db.begin fails) := by
  unfold countBusy
  simp only [bind_assoc]
  refine ends_list (outcome_fault h) ?_
  refine ends_list (outcome_fault h) ?_
  have hcount (p : VM → Bool) : ((db.root.rows.map Entry.addr).filter fun a ↦ p (db.heap.object a)).length =
      (table.rows.filter p).length := by
    rw [← map_object_filter h p, List.length_map]
  simp only [pure_bind, Db.begin, hcount, ← countBusy_eq_add]
  exact hnext

theorem oldestOf_map (object : Addr → VM) (l : List Addr) :
    (oldestOf object l).map object = oldest (l.map object) := by
  cases l with
  | nil => rfl
  | cons a rest =>
    rw [oldestOf, Option.map_some, List.map_cons, oldest, List.foldl_map]
    refine congrArg some (List.foldl_hom object fun oldest cand ↦ ?_).symm
    split_ifs <;> rfl

theorem claimOldest_ends (h : db.Represents table) {now : Time} {profile : String}
    {jobID maxConcurrent maxBusy : ℤ} (hfleet : ¬maxConcurrent ≤ table.countBusy "")
    (hscope : ¬(0 < maxBusy ∧ maxBusy ≤ table.countBusy profile)) :
    Ends (claimOldest now profile jobID)
      (Outcome table (table.acquireHotInProfile now profile jobID maxConcurrent maxBusy) Given)
      (db.begin fails) := by
  have holdest : oldest (table.rows.filter fun row ↦
        (profile = "" ∨ row.profile = profile) ∧ row.state = .hot) =
      (oldestOf db.heap.object
        ((db.root.rows.map Entry.addr).filter fun a ↦ inState profile .hot (db.heap.object a))).map
          db.heap.object := by
    rw [oldestOf_map, map_object_filter h]
    rfl
  unfold claimOldest
  refine ends_list (outcome_fault h) ?_
  simp only [ends_objects, Db.begin]
  cases hpick : oldestOf db.heap.object
      ((db.root.rows.map Entry.addr).filter fun a ↦ inState profile .hot (db.heap.object a)) with
  | none =>
    rw [hpick] at holdest
    refine outcome_error h rfl ?_
    rw [Store.acquireHotInProfile, if_neg hfleet, if_neg hscope, holdest]
    rfl
  | some a =>
    rw [hpick] at holdest
    simp only [ends_clone, ends_write, ends_load, Heap.write_alloc_next]
    refine ends_insert (outcome_fault (h.alloc _)) ?_
    simp only [ends_commit, ends_handOut_last, Heap.object_alloc_next]
    refine ⟨_, _, ?_, (h.put _).handOut _, List.mem_cons_self, Heap.object_alloc_next⟩
    rw [Store.acquireHotInProfile, if_neg hfleet, if_neg hscope, holdest]
    rfl

theorem acquireHotInProfile_ends (h : db.Represents table) (now : Time) (profile : String)
    (jobID maxConcurrent maxBusy : ℤ) :
    Ends (acquireHotInProfile now profile jobID maxConcurrent maxBusy)
      (Outcome table (table.acquireHotInProfile now profile jobID maxConcurrent maxBusy) Given)
      (db.begin fails) := by
  unfold acquireHotInProfile
  refine ends_countBusy h ?_
  by_cases hfleet : maxConcurrent ≤ table.countBusy ""
  · rw [if_pos hfleet]
    exact outcome_error h rfl (by rw [Store.acquireHotInProfile, if_pos hfleet])
  rw [if_neg hfleet]
  -- the count that the second cap is compared with
  have hcapped : ∀ busy : ℕ, (0 < maxBusy → busy = table.countBusy profile) →
      Ends (if 0 < maxBusy ∧ maxBusy ≤ busy then throw errAtCapacity else claimOldest now profile jobID)
        (Outcome table (table.acquireHotInProfile now profile jobID maxConcurrent maxBusy) Given)
        (db.begin fails) := by
    intro busy hbusy
    split_ifs with hscope
    · rw [hbusy hscope.1] at hscope
      exact outcome_error h rfl (by rw [Store.acquireHotInProfile, if_neg hfleet, if_pos hscope])
    · refine claimOldest_ends h hfleet fun hfull ↦ hscope ?_
      rwa [hbusy hfull.1]
  split_ifs with hscoped
  · exact ends_countBusy h (hcapped _ fun _ ↦ rfl)
  · rw [pure_bind]
    refine hcapped _ fun hpos ↦ ?_
    have hprofile : profile = "" := not_not.mp fun hne ↦ hscoped ⟨hpos, hne⟩
    rw [hprofile]

end ScalesetProxmox.Store.Memory
