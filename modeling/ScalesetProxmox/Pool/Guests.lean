import ScalesetProxmox.Pool.Outcomes

/-!
# The lifecycle of a guest

`GuestMove` lists what the tasks do to the guest of one VMID and which task does it; `GuestEvent` what
happens to it by other hands. `step_guest` connects the two to the system: between two states a guest
stays as it is, or makes one of these moves.
-/

namespace ScalesetProxmox.Pool

open Store (VMID)
open Provisioner (Guest)

variable {cfg : Config} {s s' : Shared} {sys sys' : Sys} {act : Act} {task : Task} {reply : Reply}
  {v : VMID} {old new : Option Guest}

inductive GuestMove (cfg : Config) (s s' : Shared) (v : VMID) :
    Task → Option Guest → Option Guest → Prop
  | adopt {row recycle rest runners guest} (hrow : row.vmid = v) (hnew : s.store.get v = none) :
      GuestMove cfg s s' v (.adoptInsert row recycle rest runners) (some guest)
        (some { guest with gen := s'.gens v })
  | clone {prep : ClonePrep} {node} (hprep : prep.vmid = v) :
      GuestMove cfg s s' v (.cloneIssue prep) none
        (some { vmid := prep.vmid, node := node, name := prep.name, cloned := true, gen := prep.gen })
  | tag {prep : ClonePrep} {node guest tags} (hprep : prep.vmid = v) (hnode : guest.node = node)
      (htags : Tags.initial cfg.pmox.scaleSetName prep.profileName prep.templateClass = some tags) :
      GuestMove cfg s s' v (.cloneConfigure prep node) (some guest)
        (some { guest with tags := Tags.encode tags })
  | start {task guest} :
      GuestMove cfg s s' v task (some guest) (some { guest with power := .running })
  | inject {vm : Handle} {guest} (hvm : vm.vmid = v) :
      GuestMove cfg s s' v (.provisionInject vm) (some guest)
        (some { guest with disk := guest.disk.configure })
  | rollBack {vm : Handle} {guest} (hvm : vm.vmid = v) :
      GuestMove cfg s s' v (.rollbackSnapshot vm) (some guest)
        (some { guest with power := .stopped, disk := .clean })
  | look {task guest} : GuestMove cfg s s' v task (some guest) (some guest)
  | destroy {request : DestroyRequest} {sync guest} (hrequest : request.vmid = v)
      (hnode : guest.node = request.node) :
      GuestMove cfg s s' v (.destroyDelete request sync) (some guest) none

/-- What happens to the guest of `v` by other hands. -/
inductive GuestEvent (v : VMID) : Act → Option Guest → Option Guest → Prop
  | create {node name tags} : GuestEvent v (.createGuest v node name tags) none
      (some { vmid := v, node := node, name := name, tags := tags })
  | remove {guest : Option Guest} : GuestEvent v (.removeGuest v) guest none
  | setPower {power guest} :
      GuestEvent v (.setPower v power) (some guest) (some { guest with power := power })
  | runJob {guest} (hdisk : guest.disk ≠ .clean) :
      GuestEvent v (.runJob v) (some guest) (some { guest with disk := .used })

/-- Every task touches guests in one of these ways. -/
theorem guestMove_of_guestStep (h : (task.action cfg reply).GuestStep s s' v old new) :
    GuestMove cfg s s' v task old new := by
  cases task with
  | adoptInsert row recycle rest runners =>
    obtain ⟨hrow, _, hnew, guest, rfl, rfl⟩ := h
    exact .adopt hrow hnew
  | cloneIssue prep =>
    dsimp at h
    split at h
    · exact h.elim
    · split at h
      · obtain ⟨hprep, rfl, rfl⟩ := h
        exact .clone hprep
      · exact h.elim
  | cloneConfigure prep node =>
    dsimp at h
    split at h
    · next tags htags =>
      obtain ⟨hprep, guest, rfl, hnode, rfl⟩ := h
      exact .tag hprep hnode htags
    · exact h.elim
  | provisionInject vm =>
    dsimp at h
    split at h
    · obtain ⟨hvm, guest, rfl, _, rfl⟩ := h
      exact .inject hvm
    · exact h.elim
  | rollbackSnapshot vm =>
    dsimp at h
    split at h
    · obtain ⟨hvm, guest, rfl, _, rfl⟩ := h
      exact .rollBack hvm
    · exact h.elim
  | destroyDelete request sync =>
    dsimp at h
    split at h
    · obtain ⟨hrequest, rfl, guest, rfl, hnode⟩ := h
      exact .destroy hrequest hnode
    · exact h.elim
  | bootStart | clonePower =>
    dsimp at h
    repeat' split at h
    all_goals first
      | exact h.elim
      | (obtain ⟨_, guest, rfl, _, rfl⟩ := h; exact .start)
  | destroyGet | cloneSnapshot | bootWait =>
    dsimp at h
    split at h
    · obtain ⟨_, guest, rfl, _, rfl⟩ := h
      exact .look
    · exact h.elim
  -- an allocation inserts its row before there is a guest
  | cloneInsert => cases h.2.1
  | _ =>
    dsimp at h
    repeat' split at h
    all_goals exact h.elim

/-- The guest that somebody else creates. -/
def Act.creates : Act → Option Guest
  | .createGuest v node name tags => some { vmid := v, node := node, name := name, tags := tags }
  | _ => none

/-- A guest stays as it is, is moved by a task, or changes by other hands. -/
theorem step_guest (h : step cfg sys act = some sys') (v : VMID) :
    sys'.shared.cluster.get v = sys.shared.cluster.get v ∨
    (∃ task, moving sys act = some task ∧
      GuestMove cfg sys.shared sys'.shared v task (sys.shared.cluster.get v) (sys'.shared.cluster.get v)) ∨
    GuestEvent v act (sys.shared.cluster.get v) (sys'.shared.cluster.get v) := by
  cases stepped_of_step h with
  | fire hthread hexec =>
    rcases exec_guest hexec v with hsame | hguest
    · exact .inl hsame
    · exact .inr (.inl ⟨_, hthread, guestMove_of_guestStep hguest⟩)
  | call | dispatch | crash => exact .inl rfl
  | outside houtside =>
    cases houtside with
    | @createGuest u node name tags hfree =>
      dsimp only
      rw [Table.get_put]
      split
      · next hv =>
        obtain rfl : v = u := hv
        rw [hfree]
        exact .inr (.inr .create)
      · exact .inl rfl
    | removeGuest u =>
      dsimp only
      rw [Table.get_erase]
      split
      · next hv =>
        subst hv
        exact .inr (.inr .remove)
      · exact .inl rfl
    | @setPower u power guest hguest =>
      dsimp only
      rw [Table.get_put]
      split
      · next hv =>
        have hu : guest.vmid = u := Table.key_of_get hguest
        obtain rfl : v = u := hv.trans hu
        rw [hguest]
        exact .inr (.inr .setPower)
      · exact .inl rfl
    | @runJob u guest hguest hdisk =>
      dsimp only
      rw [Table.get_put]
      split
      · next hv =>
        have hu : guest.vmid = u := Table.key_of_get hguest
        obtain rfl : v = u := hv.trans hu
        rw [hguest]
        exact .inr (.inr (.runJob hdisk))
      · exact .inl rfl
    | _ => exact .inl rfl

end ScalesetProxmox.Pool
