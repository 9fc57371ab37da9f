import ScalesetProxmox.Store.Acquire

/-!
# What a call can do to a row

A call of the store leaves the table as it is, adds a row under a VMID that has none, writes a row over one
with the same VMID, profile and creation time, or takes one out. `effect_of_exec` says so once for all calls;
that rows keep their identity and go only by deletion follows by induction on the calls.
-/

namespace ScalesetProxmox.Store

open Transition

variable {store after : Store} {op : Op} {v : VMID} {old new row : VM}

/-- The fields that no mutator may change. -/
structure SameIdentity (old new : VM) : Prop where
  vmid : new.vmid = old.vmid
  profile : new.profile = old.profile
  createdAt : new.createdAt = old.createdAt

theorem SameIdentity.refl (row : VM) : SameIdentity row row := ⟨rfl, rfl, rfl⟩

theorem SameIdentity.trans (h : SameIdentity old new) (h' : SameIdentity new row) : SameIdentity old row :=
  ⟨h'.vmid.trans h.vmid, h'.profile.trans h.profile, h'.createdAt.trans h.createdAt⟩

theorem enforceImmutable_iff : enforceImmutable old new ↔ SameIdentity old new := by
  rw [enforceImmutable, decide_eq_true_eq]
  constructor
  · rintro ⟨hvmid, hprofile, hcreated⟩
    exact ⟨hvmid.symm, hprofile.symm, hcreated.symm⟩
  · intro h
    exact ⟨h.vmid.symm, h.profile.symm, h.createdAt.symm⟩

/-- The VMID whose row the call takes out. -/
def Op.deletes : Op → Option VMID
  | .delete v => some v
  | .deleteAndReturn v => some v
  | _ => none

/-- The row that the call adds. -/
def Op.inserts : Op → Option VM
  | .insert now row => some (row.stampInsert now)
  | _ => none

/-- The states that a compare-and-swap moves the row out of. -/
def Op.sources : Op → Option (VMID × List State)
  | .updateState _ v source _ _ => some (v, [source])
  | .updateStateIn _ v allowed _ _ => some (v, allowed)
  | _ => none

/-- Whether a compare-and-swap is won. -/
def Op.swapped (store : Store) : Op → Option Bool
  | .updateState now v source target mutate =>
    (store.updateState now v source target mutate).toOption.map Prod.snd
  | .updateStateIn now v allowed target mutate =>
    (store.updateStateIn now v allowed target mutate).toOption.map Prod.snd
  | _ => none

/-! ## One call -/

theorem updateStateIn_cases {now : Time} {allowed : List State} {target : State} {mutate : VM → VM}
    {won : Bool} (h : store.updateStateIn now v allowed target mutate = .ok (after, won)) :
    (won = false ∧ after = store) ∨
    won ∧ ∃ row, store.get v = some row ∧ row.state ∈ allowed ∧
      SameIdentity row (row.moved now target mutate) ∧ after = store.put (row.moved now target mutate) := by
  cases won with
  | true =>
    obtain ⟨row, hget, hstate, himm, hafter⟩ := updateStateIn_eq_ok_true.mp h
    exact .inr ⟨rfl, row, hget, hstate, enforceImmutable_iff.mp himm, hafter⟩
  | false =>
    left
    refine ⟨rfl, ?_⟩
    unfold updateStateIn at h
    split at h
    · cases h
      rfl
    · split_ifs at h
      · cases h
      · cases h
        rfl

theorem exists_ok_of_map_eq_ok {α β : Type} {f : α → β} {result : Except Err α} {b : β}
    (h : result.map f = .ok b) : ∃ a, result = .ok a ∧ f a = b := by
  cases result with
  | error err => cases h
  | ok a =>
    cases h
    exact ⟨a, rfl, rfl⟩

/-- What a call that returns no error does. -/
inductive Effect (store : Store) (op : Op) : Store → Prop
  | unchanged : Effect store op store
  | added (row : VM) (hop : op.inserts = some row) (hget : store.get row.vmid = none) :
    Effect store op (store.put row)
  | written (old new : VM) (hget : store.get old.vmid = some old) (hsame : SameIdentity old new) :
    Effect store op (store.put new)
  | removed (v : VMID) (hop : op.deletes = some v) : Effect store op (store.erase v)

theorem effect_of_written (hget : store.get v = some old) (hsame : SameIdentity old new) :
    Effect store op (store.put new) := by
  obtain rfl : old.vmid = v := Table.key_of_get hget
  exact .written old new hget hsame

theorem effect_of_updateStateIn {now : Time} {allowed : List State} {target : State} {mutate : VM → VM}
    {won : Bool} (h : store.updateStateIn now v allowed target mutate = .ok (after, won)) :
    Effect store op after := by
  rcases updateStateIn_cases h with ⟨_, rfl⟩ | ⟨_, row, hget, _, hsame, rfl⟩
  · exact .unchanged
  · exact effect_of_written hget hsame

theorem effect_of_acquire {now : Time} {profile : String} {jobID maxConcurrent maxBusy : ℤ}
    (h : store.acquireHotInProfile now profile jobID maxConcurrent maxBusy = .ok (after, row)) :
    Effect store op after := by
  obtain ⟨old, hget, _, rfl, rfl⟩ := acquireHotInProfile_eq_ok h
  exact effect_of_written hget ⟨rfl, rfl, rfl⟩

theorem effect_of_exec {out : Option VM} (h : op.exec store = .ok (after, out)) : Effect store op after := by
  cases op with
  | insert now row =>
    obtain ⟨stored, hstored, heq⟩ := exists_ok_of_map_eq_ok h
    cases heq
    obtain ⟨_, hget, rfl⟩ := insert_eq_ok.mp hstored
    exact .added (row.stampInsert now) rfl hget
  | delete v | deleteAndReturn v =>
    cases h
    exact .removed v rfl
  | update now v mutate =>
    obtain ⟨⟨stored, new⟩, hstored, heq⟩ := exists_ok_of_map_eq_ok h
    cases heq
    obtain ⟨old, hget, himm, rfl, rfl⟩ := update_eq_ok.mp hstored
    have hsame := enforceImmutable_iff.mp himm
    exact effect_of_written hget ⟨hsame.vmid, hsame.profile, hsame.createdAt⟩
  | updateState | updateStateIn =>
    obtain ⟨⟨stored, won⟩, hstored, heq⟩ := exists_ok_of_map_eq_ok h
    cases heq
    exact effect_of_updateStateIn hstored
  | acquireHot | acquireHotInProfile =>
    obtain ⟨⟨stored, row⟩, hstored, heq⟩ := exists_ok_of_map_eq_ok h
    cases heq
    exact effect_of_acquire hstored

/-- A compare-and-swap that is lost changes nothing; one that is won found the row in one of the states. -/
theorem swapped_cases {won : Bool} {out : Option VM} (hswapped : op.swapped store = some won)
    (hexec : op.exec store = .ok (after, out)) :
    (won = false ∧ after = store) ∨
    won ∧ ∃ v allowed row, op.sources = some (v, allowed) ∧ store.get v = some row ∧
      row.state ∈ allowed := by
  have hcases : ∀ v allowed now target mutate, op.sources = some (v, allowed) →
      store.updateStateIn now v allowed target mutate = .ok (after, won) →
      (won = false ∧ after = store) ∨
      won = true ∧ ∃ v allowed row, op.sources = some (v, allowed) ∧ store.get v = some row ∧
        row.state ∈ allowed := by
    intro v allowed now target mutate hsources hok
    rcases updateStateIn_cases hok with hlost | ⟨hwon, row, hget, hstate, _⟩
    · exact .inl hlost
    · exact .inr ⟨hwon, v, allowed, row, hsources, hget, hstate⟩
  cases op with
  | updateState now v source target mutate =>
    obtain ⟨⟨stored, _⟩, hstored, heq⟩ := exists_ok_of_map_eq_ok hexec
    rw [Op.swapped, hstored] at hswapped
    cases heq
    cases hswapped
    exact hcases v [source] now target mutate rfl hstored
  | updateStateIn now v allowed target mutate =>
    obtain ⟨⟨stored, _⟩, hstored, heq⟩ := exists_ok_of_map_eq_ok hexec
    rw [Op.swapped, hstored] at hswapped
    cases heq
    cases hswapped
    exact hcases v allowed now target mutate rfl hstored
  | _ => cases hswapped

theorem effect_of_step (h : step store op = some after) : Effect store op after := by
  unfold step at h
  split at h
  next hexec =>
    cases h
    exact effect_of_exec hexec
  next =>
    cases h
    exact .unchanged

theorem Effect.get_of_some (h : Effect store op after) (hrow : store.get v = some row) :
    (∃ row', after.get v = some row' ∧ SameIdentity row row') ∨
      op.deletes = some v ∧ after.get v = none := by
  cases h with
  | unchanged => exact .inl ⟨row, hrow, .refl row⟩
  | added inserted hop hget =>
    have hne : v ≠ inserted.vmid := by
      rintro rfl
      cases hget.symm.trans hrow
    exact .inl ⟨row, (Table.get_put_ne inserted hne).trans hrow, .refl row⟩
  | written old new hget hsame =>
    left
    by_cases hv : v = new.vmid
    · have hold : store.get v = some old := by rw [hv, hsame.vmid, hget]
      obtain rfl : old = row := Option.some.inj (hold.symm.trans hrow)
      exact ⟨new, hv ▸ Table.get_put_self store new, hsame⟩
    · exact ⟨row, (Table.get_put_ne new hv).trans hrow, .refl row⟩
  | removed u hop =>
    by_cases hv : v = u
    · exact .inr ⟨hv ▸ hop, hv ▸ Table.get_erase_self store u⟩
    · exact .inl ⟨row, (Table.get_erase_ne hv).trans hrow, .refl row⟩

end ScalesetProxmox.Store
