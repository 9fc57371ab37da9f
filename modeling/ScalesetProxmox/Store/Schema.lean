import ScalesetProxmox.Table.Keyed

/-!
# The VM table's schema

Rows of the in-memory VM table, after `internal/store/schema.go`. A VMID is a positive integer in
the source and a natural number here, with `0` the value that inserts reject. Times are
nanoseconds, with `0` the zero `time.Time`.
-/

namespace ScalesetProxmox.Store

abbrev VMID := ℕ

abbrev Time := ℤ

def second : Time := 1000000000

def minute : Time := 60 * second

/-- Lifecycle state of a managed VM. -/
inductive State
  | provisioning
  | warm
  | booting
  | hot
  | assigned
  | running
  | recycling
  | draining
  | destroying
  | poison
  deriving DecidableEq, Repr

/-- The pool budget a VM counts toward. -/
inductive PoolKind
  | hot
  | warm
  deriving DecidableEq, Repr

/-- One managed VM. Job and runner ids use `0` for "unset". -/
structure VM where
  vmid : VMID
  node : String := ""
  name : String := ""
  profile : String := ""
  org : String := ""
  repo : String := ""
  priorityClass : String := ""
  template : String := ""
  poolKind : PoolKind := .warm
  state : State
  jobID : ℤ := 0
  runnerID : ℤ := 0
  bootAttempts : ℕ := 0
  recycleCount : ℕ := 0
  hasRecycleSnapshot : Bool := false
  createdAt : Time := 0
  updatedAt : Time := 0
  stateSince : Time := 0
  deriving DecidableEq, Repr

namespace State

/-- The row holds a job slot: the two states that the capacity checks count. -/
def busy : State → Bool
  | .assigned | .running => true
  | _ => false

/-- The row's destroy is committed. -/
def teardown : State → Bool
  | .draining | .destroying => true
  | _ => false

theorem teardown_eq_false {state : State} :
    state.teardown = false ↔ state ≠ .draining ∧ state ≠ .destroying := by
  cases state <;> decide

end State

end ScalesetProxmox.Store
