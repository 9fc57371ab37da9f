import ScalesetProxmox.Table.Keyed
import Mathlib.Algebra.Order.BigOperators.Group.List
import Mathlib.Algebra.Order.Ring.Int

/-!
# Sums over a table

The sum of a quantity over all rows, and how writes change it: a row that is added brings its own
term, and rewriting every row sums what the rows become. The order in which rows are listed plays no
part.
-/

namespace ScalesetProxmox.Table

variable {κ ρ : Type*} [DecidableEq κ] [LE κ] [DecidableLE κ] {key : ρ → κ} {table : Table κ ρ key}
  {k : κ} {row : ρ}

section Monoid

variable {M : Type*} [AddCommMonoid M] (g : ρ → M)

def sum (g : ρ → M) (table : Table κ ρ key) : M := (table.rows.map g).sum

theorem sum_put_of_get_none (h : table.get (key row) = none) :
    (table.put row).sum g = g row + table.sum g := by
  rw [sum, ((rows_put_perm table row).map g).sum_eq, List.map_cons, List.sum_cons,
    rows_erase_of_get h, sum]

theorem sum_of_get (h : table.get k = some row) : table.sum g = g row + (table.erase k).sum g := by
  rw [sum, ((rows_perm_of_get h).map g).sum_eq, List.map_cons, List.sum_cons, sum]

theorem sum_filterMap {f : ρ → Option ρ} {hf : ∀ old row, f old = some row → key row = key old} :
    (table.filterMap f hf).sum g = table.sum fun row ↦ ((f row).map g).getD 0 := by
  rw [sum, (rows_filterMap_perm.map g).sum_eq, sum]
  induction table.rows with
  | nil => rfl
  | cons row rest ih => cases hrow : f row <;> simp [hrow, ih]

theorem sum_congr {h : ρ → M} (hterms : ∀ row, table.get (key row) = some row → g row = h row) :
    table.sum g = table.sum h := by
  rw [sum, sum]
  exact congrArg List.sum (List.map_congr_left fun row hrow ↦ hterms row (get_of_mem_rows hrow))

end Monoid

section Order

variable {g h : ρ → ℤ}

theorem sum_le_sum (hterms : ∀ row, table.get (key row) = some row → g row ≤ h row) :
    table.sum g ≤ table.sum h :=
  List.sum_le_sum fun row hrow ↦ hterms row (get_of_mem_rows hrow)

theorem sum_nonneg (hterms : ∀ row, table.get (key row) = some row → 0 ≤ g row) :
    0 ≤ table.sum g := by
  refine List.sum_nonneg fun term hterm ↦ ?_
  obtain ⟨row, hrow, rfl⟩ := List.mem_map.mp hterm
  exact hterms row (get_of_mem_rows hrow)

end Order

end ScalesetProxmox.Table
