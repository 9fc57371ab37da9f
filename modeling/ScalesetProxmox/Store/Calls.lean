import ScalesetProxmox.Store.Memory

/-!
# Runs of the store's calls

The store as its callers see it: any calls in any order, with any calls of the database failing, and between
them the callers change the rows they were given as they like. Each call does to the table what the function
of `Store/Transactions.lean` does, so that a row keeps its identity from its insert to its deletion, and a
call that fails or loses its compare-and-swap changes nothing.
-/

namespace ScalesetProxmox.Store.Memory

open Memdb (Addr Db)
open Transition

inductive Reply
  | done
  | swapped (won : Bool)
  | row (a : Option Addr)
  deriving DecidableEq, Repr

def script : Op → Script Reply
  | .insert now row => (fun _ ↦ .done) <$> insert now row
  | .delete v => (fun _ ↦ .done) <$> delete v
  | .deleteAndReturn v => .row <$> deleteAndReturn v
  | .update now v mutate => (.row ∘ some) <$> update now v mutate
  | .updateState now v source target mutate => .swapped <$> updateState now v source target mutate
  | .updateStateIn now v allowed target mutate => .swapped <$> updateStateIn now v allowed target mutate
  | .acquireHot now jobID maxConcurrent maxBusy =>
    (.row ∘ some) <$> acquireHotInProfile now "" jobID maxConcurrent maxBusy
  | .acquireHotInProfile now profile jobID maxConcurrent maxBusy =>
    (.row ∘ some) <$> acquireHotInProfile now profile jobID maxConcurrent maxBusy

/-- `fails` says which calls of the database fail. -/
inductive Act
  | call (op : Op) (fails : String → Option String)
  | scribble (a : Addr) (f : VM → VM)

/-- A caller can write to a row only if it was given its address. -/
def step (db : Db VMID VM) : Act → Option (Db VMID VM)
  | .call op fails => some (db.transact fails (script op)).2
  | .scribble a f => if a ∈ db.handed then some { db with heap := db.heap.write a f } else none

/-- The VMID whose row the act may take out. -/
def Act.deletes : Act → Option VMID
  | .call op _ => op.deletes
  | .scribble _ _ => none

def Act.reply (db : Db VMID VM) : Act → Option (Except Failure Reply)
  | .call op fails => some (db.transact fails (script op)).1
  | .scribble _ _ => none

/-! ## One call -/

variable {db db' : Db VMID VM} {table : Store} {fails : String → Option String} {op : Op}

/-- The reply is about what the operation on the table returns. -/
def Answers (table : Store) (op : Op) (db : Db VMID VM) : Reply → Option VM → Prop
  | .done, out => out = none
  | .swapped won, out => op.swapped table = some won ∧ out = none
  | .row a, out => Option.Rel (Given db) a out

theorem Outcome.map {α β γ : Type} {result : Except Err (Store × β)} {agree : Db VMID VM → α → β → Prop}
    {agree' : Db VMID VM → Reply → γ → Prop} {f : α → Reply} {g : β → γ}
    (hagree : ∀ db a table' b, result = .ok (table', b) → agree db a b → agree' db (f a) (g b))
    (r : Except Failure α) (db : Db VMID VM) (h : Outcome table result agree r db) :
    Outcome table (result.map fun after ↦ (after.1, g after.2)) agree' (r.map f) db := by
  cases r with
  | error e =>
    refine ⟨h.1, fun err herr ↦ ?_⟩
    rw [h.2 err herr]
    rfl
  | ok a =>
    obtain ⟨table', b, hresult, hrep, hab⟩ := h
    exact ⟨table', g b, by rw [hresult]; rfl, hrep, hagree db a table' b hresult hab⟩

theorem script_ends (h : db.Represents table) (op : Op) :
    Memdb.Ends (script op) (Outcome table (op.exec table) (Answers table op)) (db.begin fails) := by
  cases op with
  | insert now row =>
    have hexec : (Op.insert now row).exec table =
        ((table.insert now row).map (·, ())).map fun after ↦ (after.1, none) := by
      rw [Op.exec]
      cases table.insert now row <;> rfl
    rw [hexec]
    exact Memdb.ends_map (insert_ends h now row) (Outcome.map (g := fun _ ↦ none) fun _ _ _ _ _ _ ↦ rfl)
  | delete v =>
    exact Memdb.ends_map (delete_ends h v) (Outcome.map (g := fun _ ↦ none) fun _ _ _ _ _ _ ↦ rfl)
  | deleteAndReturn v =>
    exact Memdb.ends_map (deleteAndReturn_ends h v) (Outcome.map (g := id) fun _ _ _ _ _ hrel ↦ hrel)
  | update now v mutate =>
    refine Memdb.ends_map (update_ends h now v mutate) (Outcome.map fun _ _ _ _ _ hgiven ↦ ?_)
    exact .some hgiven
  | updateState now v source target mutate =>
    have hallowed (state : State) : decide (state = source) ↔ state ∈ [source] := by simp
    refine Memdb.ends_map (cas_ends h now v hallowed target mutate)
      (Outcome.map (g := fun _ ↦ none) fun _ _ _ _ hok hwon ↦ ?_)
    exact ⟨by rw [Op.swapped, Store.updateState, hok, hwon]; rfl, rfl⟩
  | updateStateIn now v allowed target mutate =>
    have hallowed (state : State) : decide (state ∈ allowed) ↔ state ∈ allowed := decide_eq_true_iff
    refine Memdb.ends_map (cas_ends h now v hallowed target mutate)
      (Outcome.map (g := fun _ ↦ none) fun _ _ _ _ hok hwon ↦ ?_)
    exact ⟨by rw [Op.swapped, hok, hwon]; rfl, rfl⟩
  | acquireHot now jobID maxConcurrent maxBusy =>
    refine Memdb.ends_map (acquireHotInProfile_ends h now "" jobID maxConcurrent maxBusy)
      (Outcome.map fun _ _ _ _ _ hgiven ↦ ?_)
    exact .some hgiven
  | acquireHotInProfile now profile jobID maxConcurrent maxBusy =>
    refine Memdb.ends_map (acquireHotInProfile_ends h now profile jobID maxConcurrent maxBusy)
      (Outcome.map fun _ _ _ _ _ hgiven ↦ ?_)
    exact .some hgiven

/-- A call keeps the table or does what the operation on tables does, and an error keeps it. -/
theorem call_cases (h : db.Represents table) (op : Op) (fails : String → Option String) :
    (∃ e, (db.transact fails (script op)).1 = .error e ∧ (db.transact fails (script op)).2.Represents table) ∨
    ∃ reply table' out, (db.transact fails (script op)).1 = .ok reply ∧ op.exec table = .ok (table', out) ∧
      (db.transact fails (script op)).2.Represents table' ∧
      Answers table op (db.transact fails (script op)).2 reply out := by
  have hends : Memdb.Ends (script op) (Outcome table (op.exec table) (Answers table op))
      (db.begin fails) := script_ends h op
  have houtcome := Memdb.transact_of_ends hends
  cases hreply : (db.transact fails (script op)).1 with
  | error e =>
    rw [hreply] at houtcome
    exact .inl ⟨e, rfl, houtcome.1⟩
  | ok reply =>
    rw [hreply] at houtcome
    obtain ⟨table', out, hexec, hrep, hanswers⟩ := houtcome
    exact .inr ⟨reply, table', out, rfl, hexec, hrep, hanswers⟩

/-- What holds of every act, for the rows before and after it. -/
structure Kept (db : Db VMID VM) (act : Act) (db' : Db VMID VM) : Prop where
  identity : ∀ v row, db.get v = some row →
    (∃ row', db'.get v = some row' ∧ SameIdentity row row') ∨ act.deletes = some v ∧ db'.get v = none
  failed : ∀ e, act.reply db = some (.error e) → db'.rows = db.rows
  lost : act.reply db = some (.ok (.swapped false)) → db'.rows = db.rows
  won : act.reply db = some (.ok (.swapped true)) → ∃ op fails v allowed row, act = .call op fails ∧
    op.sources = some (v, allowed) ∧ db.get v = some row ∧ row.state ∈ allowed
  inserted : ∀ now row fails, act = .call (.insert now row) fails → act.reply db = some (.ok .done) →
    db.get row.vmid = none ∧ db'.get row.vmid = some (row.stampInsert now)

theorem kept_scribble (h : db.Represents table) {a : Addr} {f : VM → VM} (ha : a ∈ db.handed) :
    Kept db (.scribble a f) { db with heap := db.heap.write a f } where
  identity v row hrow := by
    rw [← h.get, (h.write ha f).get] at hrow
    exact .inl ⟨row, hrow, .refl row⟩
  failed e he := by cases he
  lost hlost := by cases hlost
  won hwon := by cases hwon
  inserted now row fails hact := by cases hact

theorem kept_call (h : db.Represents table) (op : Op) (fails : String → Option String) :
    Kept db (.call op fails) (db.transact fails (script op)).2 := by
  rcases call_cases h op fails with ⟨e, hreply, hrep⟩ | ⟨reply, table', out, hreply, hexec, hrep, hanswers⟩
  · have hrows : (db.transact fails (script op)).2.rows = db.rows := hrep.rows.symm.trans h.rows
    refine ⟨fun v row hrow ↦ .inl ⟨row, ?_, .refl row⟩, fun _ _ ↦ hrows, fun _ ↦ hrows, fun hwon ↦ ?_,
      fun now row fails' hact hdone ↦ ?_⟩
    · rw [← hrep.get, h.get, hrow]
    · rw [Act.reply, hreply] at hwon
      cases hwon
    · rw [Act.reply, hreply] at hdone
      cases hdone
  · have hswapped {won : Bool} (hwon : Act.reply db (.call op fails) = some (.ok (.swapped won))) :
        op.swapped table = some won := by
      rw [Act.reply, hreply] at hwon
      cases hwon
      exact hanswers.1
    refine ⟨fun v row hrow ↦ ?_, fun e he ↦ ?_, fun hlost ↦ ?_, fun hwon ↦ ?_,
      fun now row fails' hact hdone ↦ ?_⟩
    · rw [← h.get] at hrow
      rw [← hrep.get]
      exact (effect_of_exec hexec).get_of_some hrow
    · rw [Act.reply, hreply] at he
      cases he
    · rcases swapped_cases (hswapped hlost) hexec with ⟨_, rfl⟩ | ⟨hwon, _⟩
      · exact hrep.rows.symm.trans h.rows
      · cases hwon
    · rcases swapped_cases (hswapped hwon) hexec with
        ⟨hlost, _⟩ | ⟨_, v, allowed, row, hsources, hget, hstate⟩
      · cases hlost
      · exact ⟨op, fails, v, allowed, row, rfl, hsources, (h.get v).symm.trans hget, hstate⟩
    · cases hact
      obtain ⟨stored, hstored, heq⟩ := exists_ok_of_map_eq_ok hexec
      cases heq
      obtain ⟨_, hnone, rfl⟩ := insert_eq_ok.mp hstored
      refine ⟨(h.get _).symm.trans hnone, (hrep.get _).symm.trans ?_⟩
      exact Table.get_put_self table (row.stampInsert now)

/-- The objects of the published entries are the rows of a table. -/
def Sound (db : Db VMID VM) : Prop := ∃ table : Store, db.Represents table

theorem step_kept {act : Act} (h : Sound db) (hstep : step db act = some db') :
    Kept db act db' ∧ Sound db' := by
  obtain ⟨table, h⟩ := h
  cases act with
  | call op fails =>
    cases hstep
    refine ⟨kept_call h op fails, ?_⟩
    rcases call_cases h op fails with ⟨_, _, hrep⟩ | ⟨_, table', _, _, _, hrep, _⟩
    · exact ⟨table, hrep⟩
    · exact ⟨table', hrep⟩
  | scribble a f =>
    rw [step] at hstep
    split_ifs at hstep with ha
    cases hstep
    exact ⟨kept_scribble h ha, table, h.write ha f⟩

/-! ## Runs -/

theorem run_sound {acts : List Act} (h : Sound db) (hrun : run step db acts = some db') : Sound db' :=
  invariant_of_along Sound (fun _ _ _ hsound _ hstep ↦ (step_kept hsound hstep).2) h
    (along_of_step fun _ _ _ _ ↦ trivial) hrun

theorem run_identity {acts : List Act} {v : VMID} {row : VM} (h : Sound db)
    (hrow : db.get v = some row) (hacts : ∀ act ∈ acts, act.deletes ≠ some v)
    (hrun : run step db acts = some db') : ∃ row', db'.get v = some row' ∧ SameIdentity row row' := by
  induction acts generalizing db row with
  | nil =>
    cases hrun
    exact ⟨row, hrow, .refl row⟩
  | cons act acts ih =>
    obtain ⟨t, hstep, hrest⟩ := run_cons_eq_some.mp hrun
    obtain ⟨hact, hacts⟩ := List.forall_mem_cons.mp hacts
    obtain ⟨hkept, hsound⟩ := step_kept h hstep
    rcases hkept.identity v row hrow with ⟨row', hrow', hsame⟩ | ⟨hdeletes, _⟩
    · obtain ⟨last, hlast, hsame'⟩ := ih hsound hrow' hacts hrest
      exact ⟨last, hlast, hsame.trans hsame'⟩
    · exact absurd hdeletes hact

/-- Over every run of calls on a new store, with any mutators, any calls of the database failing and callers
writing to the rows they were given: no VMID has two rows; a row keeps its VMID, profile and creation time
until a call deletes it; a call that fails or loses a compare-and-swap leaves the table as it was; and
one that is won found the row in one of the states it allows. -/
theorem store_rows_keep_identity (object : Addr → VM) (acts : List Act) :
    Along step Kept (Db.empty object) acts ∧
    ∀ db, run step (Db.empty object) acts = some db →
      (db.rows.map VM.vmid).Nodup ∧
      ∀ v row more db', db.get v = some row → (∀ act ∈ more, act.deletes ≠ some v) →
        run step db more = some db' → ∃ row', db'.get v = some row' ∧ SameIdentity row row' := by
  have hempty : Sound (Db.empty object) := ⟨_, Db.Represents.empty object⟩
  refine ⟨?_, fun db hrun ↦ ?_⟩
  · exact along_of_invariant Sound (fun _ _ _ hsound _ hstep ↦ step_kept hsound hstep) hempty
      (along_of_step fun _ _ _ _ ↦ trivial)
  · have hsound : Sound db := run_sound hempty hrun
    refine ⟨?_, fun v row more db' hrow hmore hrun' ↦ run_identity hsound hrow hmore hrun'⟩
    obtain ⟨table, hrep⟩ := hsound
    rw [← hrep.rows]
    exact table.nodup_map_key_rows

/-! ## The table behind a run -/

/-- The operation of a call that succeeds. -/
def Act.granted (db : Db VMID VM) : Act → Option Op
  | .call op fails => if (db.transact fails (script op)).1.isOk then some op else none
  | .scribble _ _ => none

def succeeded (db : Db VMID VM) : List Act → List Op
  | [] => []
  | act :: acts => (act.granted db).toList ++ ((step db act).map (succeeded · acts)).getD []

theorem run_represents {acts : List Act} (h : db.Represents table) (hrun : run step db acts = some db') :
    ∃ table', run Store.step table (succeeded db acts) = some table' ∧ db'.Represents table' := by
  induction acts generalizing db table with
  | nil =>
    cases hrun
    exact ⟨table, rfl, h⟩
  | cons act acts ih =>
    obtain ⟨t, hstep, hrest⟩ := run_cons_eq_some.mp hrun
    rw [succeeded, hstep]
    cases act with
    | scribble a f =>
      rw [step] at hstep
      split_ifs at hstep with ha
      cases hstep
      exact ih (h.write ha f) hrest
    | call op fails =>
      cases hstep
      rcases call_cases h op fails with ⟨e, hreply, hrep⟩ | ⟨reply, table', out, hreply, hexec, hrep, -⟩
      · rw [Act.granted, hreply]
        exact ih hrep hrest
      · obtain ⟨last, hlast, hends⟩ := ih hrep hrest
        have hop : Store.step table op = some table' := by rw [Store.step, hexec]
        rw [Act.granted, hreply]
        exact ⟨last, run_cons_eq_some.mpr ⟨table', hop, hlast⟩, hends⟩

/-- Over every run of calls on a new store, with any calls of the database failing and callers writing to the
rows they were given, the store holds the rows of the table that the calls which succeed leave, taken one
after the other. -/
theorem store_refines_table (object : Addr → VM) (acts : List Act)
    (hrun : run step (Db.empty object) acts = some db) :
    ∃ table, run Store.step Table.empty (succeeded (Db.empty object) acts) = some table ∧
      (∀ v, db.get v = table.get v) ∧ db.rows = table.rows := by
  obtain ⟨table, htable, hrep⟩ := run_represents (Db.Represents.empty object) hrun
  exact ⟨table, htable, fun v ↦ (hrep.get v).symm, hrep.rows.symm⟩

/-- An insert, and a deletion that the database does not commit. -/
def insertAlone : List Act :=
  [.call (.insert 1 { vmid := 10000, state := .hot }) fun _ ↦ none, .call (.delete 10000) fun call ↦ some call]

theorem store_refines_insert : ∃ table, run Store.step Table.empty
    (succeeded (Db.empty fun _ ↦ { vmid := 0, state := .hot }) insertAlone) = some table ∧
      (table.get 10000).isSome := by
  obtain ⟨table, htable, hget, -⟩ :=
    store_refines_table (fun _ ↦ { vmid := 0, state := .hot }) insertAlone rfl
  exact ⟨table, htable, hget 10000 ▸ by decide⟩

end ScalesetProxmox.Store.Memory
