import Mathlib.Data.List.AList
import Mathlib.Data.List.Sort

/-!
# Tables whose rows carry their own key

A table is a finite map from keys to rows in which every row is stored under the key that the row
itself names. Writing a row replaces the one with its key; the key of a stored row can therefore
never disagree with the place it is found at. Rows are listed in key order.
-/

namespace ScalesetProxmox

/-- Rows of type `ρ` filed under the key that `key` reads off them. -/
structure Table (κ ρ : Type*) [DecidableEq κ] (key : ρ → κ) where
  entries : AList fun _ : κ ↦ ρ
  keyed : ∀ k row, entries.lookup k = some row → key row = k

namespace Table

variable {κ ρ : Type*} [DecidableEq κ] {key : ρ → κ} {table : Table κ ρ key} {k l : κ} {row : ρ}

def empty : Table κ ρ key where
  entries := ∅
  keyed := by simp

/-- The row filed under `k`. -/
def get (table : Table κ ρ key) (k : κ) : Option ρ := table.entries.lookup k

/-- File `row` under its own key, replacing the row that was there. -/
def put (table : Table κ ρ key) (row : ρ) : Table κ ρ key where
  entries := table.entries.insert (key row) row
  keyed := by
    intro k other h
    by_cases hk : k = key row
    · subst hk
      rw [AList.lookup_insert, Option.some.injEq] at h
      rw [h]
    · rw [AList.lookup_insert_ne hk] at h
      exact table.keyed k other h

def erase (table : Table κ ρ key) (k : κ) : Table κ ρ key where
  entries := table.entries.erase k
  keyed := by
    intro l row h
    by_cases hl : l = k
    · subst hl
      simp at h
    · rw [AList.lookup_erase_ne hl] at h
      exact table.keyed l row h

theorem key_of_get (h : table.get k = some row) : key row = k := table.keyed k row h

@[simp]
theorem get_empty (k : κ) : (empty : Table κ ρ key).get k = none := AList.lookup_empty k

@[simp]
theorem get_put_self (table : Table κ ρ key) (row : ρ) : (table.put row).get (key row) = some row :=
  AList.lookup_insert _

theorem get_put_ne (row : ρ) (h : k ≠ key row) : (table.put row).get k = table.get k :=
  AList.lookup_insert_ne h

@[grind =]
theorem get_put (table : Table κ ρ key) (row : ρ) (k : κ) :
    (table.put row).get k = if k = key row then some row else table.get k := by
  split
  · next h => rw [h, get_put_self]
  · next h => exact get_put_ne row h

@[simp]
theorem get_erase_self (table : Table κ ρ key) (k : κ) : (table.erase k).get k = none :=
  AList.lookup_erase _ _

theorem get_erase_ne (h : l ≠ k) : (table.erase k).get l = table.get l :=
  AList.lookup_erase_ne h

@[grind =]
theorem get_erase (table : Table κ ρ key) (k l : κ) :
    (table.erase k).get l = if l = k then none else table.get l := by
  split
  · next h => rw [h, get_erase_self]
  · next h => exact get_erase_ne h

/-! ### Filing a list of rows -/

theorem get_foldl_put_of_notMem {rows : List ρ} (h : k ∉ rows.map key) :
    (rows.foldl put table).get k = table.get k := by
  induction rows generalizing table with
  | nil => rfl
  | cons first rest ih =>
    rw [List.map_cons, List.mem_cons, not_or] at h
    rw [List.foldl_cons, ih h.2, get_put_ne first h.1]

theorem get_foldl_put {rows : List ρ} (hnodup : (rows.map key).Nodup) (h : row ∈ rows) :
    (rows.foldl put table).get (key row) = some row := by
  induction rows generalizing table with
  | nil => cases h
  | cons first rest ih =>
    rw [List.map_cons, List.nodup_cons] at hnodup
    rw [List.foldl_cons]
    rcases List.mem_cons.mp h with rfl | h
    · rw [get_foldl_put_of_notMem hnodup.1, get_put_self]
    · exact ih hnodup.2 h

/-- Nothing else is found than what was filed. -/
theorem mem_of_get_foldl_put {rows : List ρ} (h : (rows.foldl put table).get k = some row) :
    row ∈ rows ∨ table.get k = some row := by
  induction rows generalizing table with
  | nil => exact .inr h
  | cons first rest ih =>
    rcases ih h with hrest | hput
    · exact .inl (List.mem_cons_of_mem _ hrest)
    · rw [get_put] at hput
      split_ifs at hput
      · cases hput
        exact .inl List.mem_cons_self
      · exact .inr hput

/-! ### Rewriting every row -/

section

variable {κ ρ : Type*} {f : ρ → Option ρ} {entries : List (Sigma fun _ : κ ↦ ρ)} {k : κ} {row : ρ}

def mapEntry (f : ρ → Option ρ) (entry : Sigma fun _ : κ ↦ ρ) : Option (Sigma fun _ : κ ↦ ρ) :=
  (f entry.2).map fun row ↦ ⟨entry.1, row⟩

theorem keys_filterMap_sublist (f : ρ → Option ρ) (entries : List (Sigma fun _ : κ ↦ ρ)) :
    (entries.filterMap (mapEntry f)).keys.Sublist entries.keys := by
  induction entries with
  | nil => simp
  | cons entry rest ih =>
    cases hf : f entry.2 with
    | none => simpa [mapEntry, hf] using ih.cons entry.1
    | some row => simpa [mapEntry, hf] using ih

theorem mem_filterMap_mapEntry :
    ⟨k, row⟩ ∈ entries.filterMap (mapEntry f) ↔ ∃ old, ⟨k, old⟩ ∈ entries ∧ f old = some row := by
  simp only [List.mem_filterMap, mapEntry, Option.map_eq_some_iff]
  constructor
  · rintro ⟨⟨l, old⟩, hmem, _, hrow, heq⟩
    cases heq
    exact ⟨old, hmem, hrow⟩
  · rintro ⟨old, hmem, hrow⟩
    exact ⟨⟨k, old⟩, hmem, row, hrow, rfl⟩

end

/-- Apply `f` to every row and drop those it maps to nothing. -/
def filterMap (f : ρ → Option ρ) (hf : ∀ old row, f old = some row → key row = key old)
    (table : Table κ ρ key) : Table κ ρ key where
  entries :=
    { entries := table.entries.entries.filterMap (mapEntry f)
      nodupKeys := List.Nodup.sublist (keys_filterMap_sublist f _) table.entries.nodupKeys }
  keyed := by
    intro k row h
    obtain ⟨old, hmem, hrow⟩ := mem_filterMap_mapEntry.mp (AList.mem_lookup_iff.mp h)
    rw [hf old row hrow]
    exact table.keyed k old (AList.mem_lookup_iff.mpr hmem)

theorem get_filterMap {f : ρ → Option ρ} {hf : ∀ old row, f old = some row → key row = key old} :
    (table.filterMap f hf).get k = (table.get k).bind f := by
  ext row
  rw [Option.bind_eq_some_iff, get, ← Option.mem_def, AList.mem_lookup_iff]
  refine mem_filterMap_mapEntry.trans (exists_congr fun old ↦ and_congr_left' ?_)
  exact AList.mem_lookup_iff.symm

variable [LE κ] [DecidableLE κ]

def rows (table : Table κ ρ key) : List ρ :=
  (table.entries.entries.map Sigma.snd).insertionSort fun a b ↦ key a ≤ key b

theorem mem_rows : row ∈ table.rows ↔ table.get (key row) = some row := by
  have hentries : ∀ k r, table.get k = some r ↔ (⟨k, r⟩ : Sigma fun _ : κ ↦ ρ) ∈ table.entries.entries :=
    fun k r ↦ AList.mem_lookup_iff
  rw [rows, List.mem_insertionSort, List.mem_map, hentries]
  constructor
  · rintro ⟨⟨k, r⟩, hmem, rfl⟩
    have hkey : key r = k := key_of_get ((hentries k r).mpr hmem)
    rwa [← hkey] at hmem
  · intro hmem
    exact ⟨_, hmem, rfl⟩

theorem get_of_mem_rows (h : row ∈ table.rows) : table.get (key row) = some row := mem_rows.mp h

theorem mem_rows_put {new : ρ} :
    row ∈ (table.put new).rows ↔ row = new ∨ key row ≠ key new ∧ row ∈ table.rows := by
  rw [mem_rows, get_put, mem_rows]
  split_ifs with hkey
  · constructor
    · exact fun h ↦ .inl (Option.some.inj h).symm
    · rintro (rfl | ⟨hne, -⟩)
      · rfl
      · exact absurd hkey hne
  · constructor
    · exact fun h ↦ .inr ⟨hkey, h⟩
    · rintro (rfl | ⟨-, h⟩)
      · exact absurd rfl hkey
      · exact h

/-! ### Counting rows -/

theorem rows_perm (table : Table κ ρ key) :
    table.rows.Perm (table.entries.entries.map Sigma.snd) :=
  List.perm_insertionSort _ _

theorem nodup_map_key_rows (table : Table κ ρ key) : (table.rows.map key).Nodup := by
  have hkeys : (table.entries.entries.map Sigma.snd).map key = table.entries.entries.keys := by
    rw [List.map_map]
    exact List.map_congr_left fun entry hentry ↦
      table.keyed entry.1 entry.2 (AList.mem_lookup_iff.mpr hentry)
  refine ((rows_perm table).map key).nodup_iff.mpr ?_
  rw [hkeys]
  exact table.entries.nodupKeys

theorem rows_put_perm (table : Table κ ρ key) (row : ρ) :
    (table.put row).rows.Perm (row :: (table.erase (key row)).rows) := by
  refine (rows_perm _).trans ?_
  change (row :: (table.erase (key row)).entries.entries.map Sigma.snd).Perm _
  exact (rows_perm _).symm.cons row

theorem rows_perm_of_get (h : table.get k = some row) :
    table.rows.Perm (row :: (table.erase k).rows) := by
  have hmem : k ∈ table.entries.entries.keys := by
    rw [← AList.keys, ← AList.mem_keys, ← AList.lookup_isSome, ← get, h]
    rfl
  obtain ⟨other, before, after, _, hentries, herase⟩ := List.exists_of_kerase hmem
  have hother : table.get k = some other := AList.mem_lookup_iff.mpr (by simp [hentries])
  rw [h, Option.some.injEq] at hother
  have hrest : (table.erase k).rows.Perm (before.map Sigma.snd ++ after.map Sigma.snd) := by
    refine (rows_perm _).trans ?_
    change ((table.entries.entries.kerase k).map Sigma.snd).Perm _
    rw [herase, List.map_append]
  calc table.rows.Perm (table.entries.entries.map Sigma.snd) := rows_perm _
    _ = before.map Sigma.snd ++ row :: after.map Sigma.snd := by
      rw [hentries, List.map_append, List.map_cons, hother]
    List.Perm _ (row :: (before.map Sigma.snd ++ after.map Sigma.snd)) := List.perm_middle
    List.Perm _ (row :: (table.erase k).rows) := hrest.symm.cons row

theorem filter_key_rows (h : table.get k = some row) : (table.rows.filter fun r ↦ key r = k) = [row] := by
  have herased : ∀ r ∈ (table.erase k).rows, key r ≠ k := by
    rintro r hr rfl
    have hget := get_of_mem_rows hr
    rw [get_erase_self] at hget
    cases hget
  have hrest : ((table.erase k).rows.filter fun r ↦ key r = k) = [] := by
    simpa [List.filter_eq_nil_iff] using herased
  have hperm := (rows_perm_of_get h).filter fun r ↦ decide (key r = k)
  rw [List.filter_cons_of_pos (by simp [key_of_get h]), hrest] at hperm
  exact List.perm_singleton.mp hperm

theorem rows_filterMap_perm {f : ρ → Option ρ}
    {hf : ∀ old row, f old = some row → key row = key old} :
    (table.filterMap f hf).rows.Perm (table.rows.filterMap f) := by
  have hentries : (table.entries.entries.filterMap (mapEntry f)).map Sigma.snd =
      (table.entries.entries.map Sigma.snd).filterMap f := by
    rw [List.map_filterMap, List.filterMap_map]
    refine List.filterMap_congr fun entry _ ↦ ?_
    cases hrow : f entry.2 <;> simp [mapEntry, hrow]
  calc (table.filterMap f hf).rows.Perm
        ((table.entries.entries.filterMap (mapEntry f)).map Sigma.snd) := rows_perm _
    _ = (table.entries.entries.map Sigma.snd).filterMap f := hentries
    List.Perm _ (table.rows.filterMap f) := (rows_perm table).symm.filterMap f

theorem rows_erase_of_get (h : table.get k = none) : (table.erase k).rows = table.rows := by
  have hmem : k ∉ table.entries.entries.keys := by
    rw [← AList.keys, ← AList.mem_keys, ← AList.lookup_eq_none]
    exact h
  have herase : (table.erase k).entries.entries = table.entries.entries :=
    List.kerase_of_notMem_keys hmem
  rw [rows, rows, herase]

/-- Writing over a row changes a count by the new row minus the old one. -/
theorem countP_rows_put {old : ρ} (p : ρ → Bool) (h : table.get (key row) = some old) :
    (table.put row).rows.countP p + (if p old then 1 else 0) =
      table.rows.countP p + (if p row then 1 else 0) := by
  rw [(rows_put_perm table row).countP_eq, (rows_perm_of_get h).countP_eq, List.countP_cons,
    List.countP_cons]
  omega

/-! ### Rows in key order -/

section Sorted

variable {κ ρ σ : Type*} [LinearOrder κ] {key : ρ → κ} {key' : σ → κ}

theorem rows_sorted (table : Table κ ρ key) : table.rows.Pairwise fun a b ↦ key a < key b := by
  have hle : table.rows.Pairwise fun a b ↦ key a ≤ key b := by
    have : Std.Total fun a b : ρ ↦ key a ≤ key b := ⟨fun a b ↦ le_total (key a) (key b)⟩
    have : IsTrans ρ fun a b ↦ key a ≤ key b := ⟨fun a b c hab hbc ↦ le_trans hab hbc⟩
    exact List.pairwise_insertionSort _ _
  have hne : table.rows.Pairwise fun a b ↦ key a ≠ key b := List.pairwise_map.mp table.nodup_map_key_rows
  exact hle.imp₂ (fun a b hle hne ↦ lt_of_le_of_ne hle hne) hne

/-- Tables that find related rows list related rows. -/
theorem rows_eq_map {table : Table κ ρ key} {other : Table κ σ key'} (f : ρ → σ)
    (h : ∀ k, other.get k = (table.get k).map f) : other.rows = table.rows.map f := by
  have hkey : ∀ row ∈ table.rows, key' (f row) = key row := by
    intro row hrow
    have hget : other.get (key row) = some (f row) := by rw [h, get_of_mem_rows hrow, Option.map_some]
    exact key_of_get hget
  have hsorted : (table.rows.map f).Pairwise fun a b ↦ key' a < key' b := by
    rw [List.pairwise_map]
    refine List.Pairwise.imp_of_mem ?_ table.rows_sorted
    intro a b ha hb hlt
    rwa [hkey a ha, hkey b hb]
  have : Std.Irrefl fun a b : σ ↦ key' a < key' b := ⟨fun a ↦ lt_irrefl (key' a)⟩
  have : Std.Antisymm fun a b : σ ↦ key' a < key' b := ⟨fun a b hab hba ↦ absurd hab hba.asymm⟩
  refine List.Pairwise.eq_of_mem_iff other.rows_sorted hsorted fun row ↦ ?_
  rw [mem_rows, h, Option.map_eq_some_iff, List.mem_map]
  constructor
  · rintro ⟨old, hold, rfl⟩
    have hkeyOld : key old = key' (f old) := key_of_get hold
    exact ⟨old, mem_rows.mpr (hkeyOld ▸ hold), rfl⟩
  · rintro ⟨old, hold, rfl⟩
    exact ⟨old, by rw [hkey old hold, get_of_mem_rows hold], rfl⟩

end Sorted

end Table

end ScalesetProxmox
