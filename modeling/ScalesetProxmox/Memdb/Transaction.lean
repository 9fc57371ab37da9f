import ScalesetProxmox.Table.Keyed

/-!
# Transactions over shared objects

An in-memory database that stores its rows by pointer. The heap has the objects; the root says at which
address the object of a key is. A transaction works on a root of its own, which is published when it
commits and dropped when it does not, but the heap is shared: writing to an object that the published root
points at changes the table at once, whether the transaction commits or not. Only a copy can be written
safely.

`Db.Represents` says that the objects of the published root are the rows of a table and that nobody outside
has the address of one. The lemmas below it say what keeps it: copying, publishing a copy, erasing an entry
and writing to an object that was handed out.
-/

namespace ScalesetProxmox.Memdb

abbrev Addr := ℕ

variable {κ ρ ε α β : Type} [DecidableEq κ] {key : ρ → κ}

/-! ## Objects -/

structure Heap (ρ : Type) where
  object : Addr → ρ
  next : Addr

namespace Heap

variable {heap : Heap ρ} {row : ρ} {a : Addr}

def alloc (heap : Heap ρ) (row : ρ) : Heap ρ where
  object := Function.update heap.object heap.next row
  next := heap.next + 1

/-- Change the object in place. -/
def write (heap : Heap ρ) (a : Addr) (f : ρ → ρ) : Heap ρ :=
  { heap with object := Function.update heap.object a (f (heap.object a)) }

@[simp]
theorem object_alloc_next : (heap.alloc row).object heap.next = row := Function.update_self ..

theorem object_alloc_of_lt (h : a < heap.next) : (heap.alloc row).object a = heap.object a :=
  Function.update_of_ne h.ne ..

@[simp]
theorem write_alloc_next (f : ρ → ρ) : (heap.alloc row).write heap.next f = heap.alloc (f row) := by
  rw [write, object_alloc_next]
  simp only [alloc, Function.update_idem]

theorem object_write_of_ne {b : Addr} (h : a ≠ b) (f : ρ → ρ) : (heap.write b f).object a = heap.object a :=
  Function.update_of_ne h ..

end Heap

/-! ## Programs -/

structure Entry (κ : Type) where
  key : κ
  addr : Addr

abbrev Root (κ : Type) [DecidableEq κ] := Table κ (Entry κ) Entry.key

/-- `handed` are the addresses that callers have. -/
structure Db (κ ρ : Type) [DecidableEq κ] where
  heap : Heap ρ
  root : Root κ
  handed : List Addr

/-- `fails` gives the calls of the database that fail, by the place they are made at, and with what. -/
structure Txn (κ ρ : Type) [DecidableEq κ] where
  heap : Heap ρ
  published : Root κ
  working : Root κ
  handed : List Addr
  fails : String → Option String

abbrev Tx (κ ρ ε : Type) [DecidableEq κ] := ExceptT ε (StateM (Txn κ ρ))

def exec (c : Tx κ ρ ε α) (t : Txn κ ρ) : Except ε α × Txn κ ρ := (c.run t).run

/-- A call of the database, which may fail. -/
def attempt (fault : String → ε) (site : String) : Tx κ ρ ε Unit := do
  match (← get).fails site with
  | some cause => throw (fault s!"{site}: {cause}")
  | none => return ()

def first (fault : String → ε) (site : String) (k : κ) : Tx κ ρ ε (Option Addr) := do
  attempt fault site
  return ((← get).working.get k).map Entry.addr

/-- The objects with a property, in key order. -/
def list [LE κ] [DecidableLE κ] (fault : String → ε) (site : String) (p : ρ → Bool) :
    Tx κ ρ ε (List Addr) := do
  attempt fault site
  let t ← get
  return (t.working.rows.map Entry.addr).filter fun a ↦ p (t.heap.object a)

def load (a : Addr) : Tx κ ρ ε ρ := return (← get).heap.object a

/-- The objects as they are now. -/
def objects : Tx κ ρ ε (Addr → ρ) := return (← get).heap.object

/-- An object with this content that nobody else has. -/
def fresh (row : ρ) : Tx κ ρ ε Addr := do
  let t ← get
  set { t with heap := t.heap.alloc row }
  return t.heap.next

def clone (a : Addr) : Tx κ ρ ε Addr := do
  fresh (← load a)

def write (a : Addr) (f : ρ → ρ) : Tx κ ρ ε Unit := modify fun t ↦ { t with heap := t.heap.write a f }

/-- File the object under the key that it has now. -/
def insert (key : ρ → κ) (fault : String → ε) (site : String) (a : Addr) : Tx κ ρ ε Unit := do
  attempt fault site
  modify fun t ↦ { t with working := t.working.put { key := key (t.heap.object a), addr := a } }

def delete (key : ρ → κ) (fault : String → ε) (site : String) (a : Addr) : Tx κ ρ ε Unit := do
  attempt fault site
  modify fun t ↦ { t with working := t.working.erase (key (t.heap.object a)) }

def commit : Tx κ ρ ε Unit := modify fun t ↦ { t with published := t.working }

/-- Give a copy of the object to the caller. -/
def handOut (a : Addr) : Tx κ ρ ε Addr := do
  let copy ← clone a
  modify fun t ↦ { t with handed := copy :: t.handed }
  return copy

def Db.begin (db : Db κ ρ) (fails : String → Option String) : Txn κ ρ where
  heap := db.heap
  published := db.root
  working := db.root
  handed := db.handed
  fails := fails

def Txn.finish (t : Txn κ ρ) : Db κ ρ where
  heap := t.heap
  root := t.published
  handed := t.handed

/-- Run a transaction. What it has not committed is dropped. -/
def Db.transact (db : Db κ ρ) (fails : String → Option String) (c : Tx κ ρ ε α) : Except ε α × Db κ ρ :=
  let outcome := exec c (db.begin fails)
  (outcome.1, outcome.2.finish)

/-! ### Postconditions

`Ends c Q t` says that `Q` holds of what the program returns from `t` and of the database that it leaves.
Each call has a rule for what the rest of the program has to do; a call that may fail also asks for `Q` of
its failure. -/

section

variable {t : Txn κ ρ} {fault : String → ε} {site : String} {Q : Except ε α → Db κ ρ → Prop}

def Ends (c : Tx κ ρ ε α) (Q : Except ε α → Db κ ρ → Prop) (t : Txn κ ρ) : Prop :=
  Q (exec c t).1 (exec c t).2.finish

theorem transact_of_ends {db : Db κ ρ} {fails : String → Option String} {c : Tx κ ρ ε α}
    (h : Ends c Q (db.begin fails)) : Q (db.transact fails c).1 (db.transact fails c).2 := h

@[simp]
theorem ends_pure (a : α) : Ends (pure a) Q t ↔ Q (.ok a) t.finish := Iff.rfl

@[simp]
theorem ends_load (a : Addr) (c : ρ → Tx κ ρ ε α) :
    Ends (load a >>= c) Q t ↔ Ends (c (t.heap.object a)) Q t := Iff.rfl

@[simp]
theorem ends_objects (c : (Addr → ρ) → Tx κ ρ ε α) :
    Ends (objects >>= c) Q t ↔ Ends (c t.heap.object) Q t := Iff.rfl

@[simp]
theorem ends_fresh (row : ρ) (c : Addr → Tx κ ρ ε α) :
    Ends (fresh row >>= c) Q t ↔ Ends (c t.heap.next) Q { t with heap := t.heap.alloc row } := Iff.rfl

@[simp]
theorem ends_clone (a : Addr) (c : Addr → Tx κ ρ ε α) :
    Ends (clone a >>= c) Q t ↔
      Ends (c t.heap.next) Q { t with heap := t.heap.alloc (t.heap.object a) } := Iff.rfl

@[simp]
theorem ends_write (a : Addr) (f : ρ → ρ) (c : Unit → Tx κ ρ ε α) :
    Ends (write a f >>= c) Q t ↔ Ends (c ()) Q { t with heap := t.heap.write a f } := Iff.rfl

@[simp]
theorem ends_commit (c : Unit → Tx κ ρ ε α) :
    Ends (commit >>= c) Q t ↔ Ends (c ()) Q { t with published := t.working } := Iff.rfl

@[simp]
theorem ends_handOut_last {Q : Except ε Addr → Db κ ρ → Prop} (a : Addr) :
    Ends (handOut a) Q t ↔ Q (.ok t.heap.next)
      { heap := t.heap.alloc (t.heap.object a), root := t.published, handed := t.heap.next :: t.handed } :=
  Iff.rfl

theorem ends_map {c : Tx κ ρ ε β} {f : β → α} {P : Except ε β → Db κ ρ → Prop} (h : Ends c P t)
    (hQ : ∀ r db, P r db → Q (r.map f) db) : Ends (f <$> c) Q t := by
  have hexec : exec (f <$> c) t = ((exec c t).1.map f, (exec c t).2) := by
    rw [map_eq_pure_bind]
    change ExceptT.bindCont (fun a ↦ (pure (f a) : Tx κ ρ ε α)) (exec c t).1 (exec c t).2 = _
    cases (exec c t).1 <;> rfl
  rw [Ends, hexec]
  exact hQ _ _ h

theorem ends_attempt {c : Unit → Tx κ ρ ε α} (hfault : ∀ text, Q (.error (fault text)) t.finish)
    (h : Ends (c ()) Q t) : Ends (attempt fault site >>= c) Q t := by
  change Ends ((match t.fails site with
    | some cause => throw (fault s!"{site}: {cause}")
    | none => pure ()) >>= c) Q t
  cases t.fails site with
  | some cause => exact hfault _
  | none => exact h

theorem ends_first {k : κ} {c : Option Addr → Tx κ ρ ε α} (hfault : ∀ text, Q (.error (fault text)) t.finish)
    (h : Ends (c ((t.working.get k).map Entry.addr)) Q t) : Ends (first fault site k >>= c) Q t := by
  rw [first, bind_assoc]
  exact ends_attempt hfault h

theorem ends_list [LE κ] [DecidableLE κ] {p : ρ → Bool} {c : List Addr → Tx κ ρ ε α}
    (hfault : ∀ text, Q (.error (fault text)) t.finish)
    (h : Ends (c ((t.working.rows.map Entry.addr).filter fun a ↦ p (t.heap.object a))) Q t) :
    Ends (list fault site p >>= c) Q t := by
  rw [list, bind_assoc]
  exact ends_attempt hfault h

theorem ends_insert {a : Addr} {c : Unit → Tx κ ρ ε α} (hfault : ∀ text, Q (.error (fault text)) t.finish)
    (h : Ends (c ()) Q { t with working := t.working.put { key := key (t.heap.object a), addr := a } }) :
    Ends (insert key fault site a >>= c) Q t := by
  rw [insert, bind_assoc]
  exact ends_attempt hfault h

theorem ends_delete {a : Addr} {c : Unit → Tx κ ρ ε α} (hfault : ∀ text, Q (.error (fault text)) t.finish)
    (h : Ends (c ()) Q { t with working := t.working.erase (key (t.heap.object a)) }) :
    Ends (delete key fault site a >>= c) Q t := by
  rw [delete, bind_assoc]
  exact ends_attempt hfault h

end

/-! ## Tables -/

/-- A database without rows, whatever the memory has in it. -/
def Db.empty (object : Addr → ρ) : Db κ ρ where
  heap := { object := object, next := 0 }
  root := .empty
  handed := []

def Db.get (db : Db κ ρ) (k : κ) : Option ρ := (db.root.get k).map fun e ↦ db.heap.object e.addr

def Db.rows [LE κ] [DecidableLE κ] (db : Db κ ρ) : List ρ :=
  (db.root.rows.map Entry.addr).map db.heap.object

/-- The table that the objects of the published root are. -/
structure Db.Represents (db : Db κ ρ) (table : Table κ ρ key) : Prop where
  get : ∀ k, table.get k = db.get k
  allocated : ∀ k e, db.root.get k = some e → e.addr < db.heap.next
  handed : ∀ a ∈ db.handed, a < db.heap.next
  isolated : ∀ a ∈ db.handed, ∀ k e, db.root.get k = some e → e.addr ≠ a

namespace Db.Represents

variable {db : Db κ ρ} {table : Table κ ρ key} {row : ρ} {k : κ} {a : Addr}

theorem empty (object : Addr → ρ) : Db.Represents (Db.empty object) (Table.empty : Table κ ρ key) where
  get k := by simp [Db.get, Db.empty]
  allocated k e he := by simp [Db.empty] at he
  handed a ha := by cases ha
  isolated a ha := by cases ha

theorem of_get_eq {other : Table κ ρ key} (h : db.Represents table) (heq : ∀ k, other.get k = table.get k) :
    db.Represents other where
  get k := (heq k).trans (h.get k)
  allocated := h.allocated
  handed := h.handed
  isolated := h.isolated

theorem alloc (h : db.Represents table) (row : ρ) :
    Db.Represents { db with heap := db.heap.alloc row } table where
  get k := by
    rw [h.get k]
    refine Option.map_congr fun e he ↦ ?_
    exact (Heap.object_alloc_of_lt (h.allocated k e he)).symm
  allocated k e he := (h.allocated k e he).trans (Nat.lt_succ_self _)
  handed a ha := (h.handed a ha).trans (Nat.lt_succ_self _)
  isolated := h.isolated

/-- The copy that was allocated last is published. -/
theorem put (h : db.Represents table) (row : ρ) :
    Db.Represents
      { db with heap := db.heap.alloc row, root := db.root.put { key := key row, addr := db.heap.next } }
      (table.put row) where
  get k := by
    rw [Table.get_put, Db.get, Table.get_put]
    split_ifs
    · simp
    · exact (h.alloc row).get k
  allocated k e he := by
    rw [Table.get_put] at he
    split_ifs at he
    · cases he
      exact Nat.lt_succ_self _
    · exact (h.alloc row).allocated k e he
  handed := (h.alloc row).handed
  isolated a ha k e he := by
    rw [Table.get_put] at he
    split_ifs at he
    · cases he
      exact (h.handed a ha).ne'
    · exact h.isolated a ha k e he

theorem erase (h : db.Represents table) (k : κ) :
    Db.Represents { db with root := db.root.erase k } (table.erase k) where
  get l := by
    rw [Table.get_erase, Db.get, Table.get_erase]
    split_ifs
    · rfl
    · exact h.get l
  allocated l e he := by
    rw [Table.get_erase] at he
    split_ifs at he
    exact h.allocated l e he
  handed := h.handed
  isolated a ha l e he := by
    rw [Table.get_erase] at he
    split_ifs at he
    exact h.isolated a ha l e he

/-- The object that was allocated last goes to the caller. -/
theorem handOut (h : db.Represents table) (row : ρ) :
    Db.Represents { db with heap := db.heap.alloc row, handed := db.heap.next :: db.handed } table where
  get := (h.alloc row).get
  allocated := (h.alloc row).allocated
  handed := List.forall_mem_cons.mpr ⟨Nat.lt_succ_self _, (h.alloc row).handed⟩
  isolated := List.forall_mem_cons.mpr ⟨fun k e he ↦ (h.allocated k e he).ne, h.isolated⟩

/-- A caller may do what it likes to an object it was given. -/
theorem write (h : db.Represents table) (ha : a ∈ db.handed) (f : ρ → ρ) :
    Db.Represents { db with heap := db.heap.write a f } table where
  get k := by
    rw [h.get k]
    refine Option.map_congr fun e he ↦ ?_
    exact (Heap.object_write_of_ne (h.isolated a ha k e he) f).symm
  allocated := h.allocated
  handed := h.handed
  isolated := h.isolated

end Db.Represents

/-- Listing the entries and looking at their objects lists the rows. -/
theorem Db.Represents.rows {κ ρ : Type} [LinearOrder κ] {key : ρ → κ} {db : Db κ ρ} {table : Table κ ρ key}
    (h : db.Represents table) : table.rows = db.rows := by
  rw [Db.rows, List.map_map]
  exact Table.rows_eq_map _ h.get

end ScalesetProxmox.Memdb
