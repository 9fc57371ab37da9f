import ScalesetProxmox.Pool.Effects

/-!
# The lifecycle of a row

The abstract state machine behind the store: `Move` lists the transitions that the pool's
compare-and-swaps and its teardown writes make. `rowStep_move` connects it to the code: a step of any
task either makes one of these moves or is one of the three state writes that a clone or boot worker
makes without looking at the state it overwrites (`Task.blindWrite`).
-/

namespace ScalesetProxmox.Pool

open Store (VMID Time State)

variable {cfg : Config} {reply : Reply} {task : Task} {now : Time} {v : VMID} {old new : Store.VM}
  {action : Action}

/-- The transitions of a row's state that look at the state they leave, or commit to teardown. -/
inductive Move : State → State → Prop
  | stay (state : State) : Move state state
  | drain (state : State) : Move state .draining
  | destroy (state : State) : Move state .destroying
  | boot : Move .warm .booting
  | acquire : Move .hot .assigned
  | start : Move .assigned .running
  | startUnassigned : Move .hot .running
  | recycleAssigned : Move .assigned .recycling
  | recycleRunning : Move .running .recycling
  | rollBack : Move .recycling .warm

/-- The worker writes that overwrite whatever state the row is in, with the state they write. -/
def Task.blindWrite : Task → Option (VMID × State)
  | .cloneUpdate prep _ _ => some (prep.vmid, if prep.poweredOn then .booting else .warm)
  | .bootHot boot => some (boot.row.vmid, .hot)
  | .poisonMark boot => some (boot.row.vmid, .poison)
  | _ => none

attribute [simp] Move.stay Move.drain Move.destroy Move.boot Move.acquire Move.start
  Move.startUnassigned Move.recycleAssigned Move.recycleRunning Move.rollBack

/-- Every state change the action can make on a row satisfies `P`. -/
def Action.Moves (P : VMID → State → State → Prop) : Action → Prop
  | .update u mutate _ => ∀ now row, P u row.state (mutate now row).state
  | .cas u allowed target mutate _ =>
      (∀ now row, (mutate now row).state = row.state) ∧ ∀ state ∈ allowed, P u state target
  | .acquire _ _ _ _ => ∀ u, P u .hot .assigned
  | _ => True

theorem Action.Moves.rowStep {P : VMID → State → State → Prop} (hmoves : action.Moves P)
    (h : action.RowStep now v (some old) (some new)) : P v old.state new.state := by
  cases action with
  | update u mutate k =>
    obtain ⟨rfl, row, hrow, hnew⟩ := h
    cases hrow
    cases hnew
    exact hmoves now old
  | cas u allowed target mutate k =>
    obtain ⟨rfl, row, hrow, hstate, hnew⟩ := h
    cases hrow
    cases hnew
    rw [Store.VM.moved, hmoves.1]
    exact hmoves.2 _ hstate
  | acquire =>
    obtain ⟨row, hrow, hstate, hnew⟩ := h
    cases hrow
    cases hnew
    rw [hstate]
    exact hmoves v
  | insert => exact absurd h.2.1 (by simp)
  | delete => exact absurd h.2 (by simp)
  | _ => exact h.elim

/-- Every task's state changes are moves of the lifecycle or its blind write. -/
theorem action_moves (cfg : Config) (reply : Reply) (task : Task) :
    (task.action cfg reply).Moves fun v source target ↦
      Move source target ∨ task.blindWrite = some (v, target) := by
  cases task <;> dsimp <;> (repeat' split) <;> simp [Action.Moves, Task.blindWrite, *]

/-- A step that changes a row makes a move of the lifecycle or is a worker's blind write. -/
theorem rowStep_move (h : (task.action cfg reply).RowStep now v (some old) (some new)) :
    Move old.state new.state ∨ task.blindWrite = some (v, new.state) :=
  (action_moves cfg reply task).rowStep h

theorem Move.teardown {source target : State} (h : Move source target)
    (hsource : source.teardown) : target.teardown = true := by
  cases h <;> first | exact hsource | rfl

/-- Adoption takes a VM for a live one, whatever it is told about it. -/
theorem classifyAdoption_live (power : Option (Option Provisioner.Power))
    (runner : Option Gh.RunnerInfo) :
    (classifyAdoption power runner).1 ∈ [State.warm, .hot, .assigned, .running] := by
  unfold classifyAdoption
  split
  · decide
  · dsimp only
    unfold adoptionMatrix
    split <;> decide

end ScalesetProxmox.Pool
