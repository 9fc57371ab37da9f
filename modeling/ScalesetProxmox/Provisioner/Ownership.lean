import ScalesetProxmox.Provisioner.Cluster
import ScalesetProxmox.Config.Scalesets
import Mathlib.Data.Nat.Digits.Defs

/-!
# Which guests a scale set owns

`classifyVM` of `internal/provisioner/provisioner.go` and the way `internal/app/app.go` wires one
provisioner per scale set. A guest is owned when it carries the scale set's owner tag, or when its
name has the scale set's prefix and its VMID lies in the range of the *global* Proxmox block, which
every provisioner is given unchanged.

Two scale sets of an accepted configuration can therefore claim the same guest: `classifyVM` of one
takes a clone of the other exactly when the other's name continues the first one's with a dash and
the VMID lies in the global range (`classifyVM_sibling_clone`).
-/

namespace ScalesetProxmox.Provisioner

open ScalesetProxmox.Configuration ScalesetProxmox.Text
open Store (VMID)

variable {v : Guest} {a b : ScaleSetEntry} {cfg : Config}

/-- What a provisioner knows of its scale set. -/
structure Pmox where
  scaleSetName : String
  vmNamePrefix : String
  vmidRange : VMIDRange
  deriving DecidableEq, Repr

/-- A guest that the scale set considers its own. -/
structure VM where
  vmid : VMID
  node : String
  name : String
  profile : String
  deriving DecidableEq, Repr

def classifyVM (p : Pmox) (v : Guest) : Option VM :=
  let owned := Tags.isOwnedBy v.tags p.scaleSetName
  let untaggedOrphan := !owned && p.vmNamePrefix ≠ "" && hasPrefix v.name p.vmNamePrefix &&
    p.vmidRange.contains v.vmid
  if !owned && !untaggedOrphan then
    none
  else
    some { vmid := v.vmid, node := v.node, name := v.name
           profile := if owned then Tags.profileOf v.tags else "" }

def listOwnedOn (p : Pmox) (cluster : Cluster) (node : String) : List VM :=
  (cluster.rows.filter (·.node = node)).filterMap (classifyVM p)

/-- The owned guests of the nodes that answered. -/
def listOwnedVMs (p : Pmox) (cluster : Cluster) (nodes : List String) : List VM :=
  nodes.flatMap (listOwnedOn p cluster)

theorem classifyVM_isSome {p : Pmox} :
    (classifyVM p v).isSome ↔ Tags.isOwnedBy v.tags p.scaleSetName ∨
      (p.vmNamePrefix ≠ "" ∧ hasPrefix v.name p.vmNamePrefix ∧
        p.vmidRange.contains v.vmid) := by
  unfold classifyVM
  cases Tags.isOwnedBy v.tags p.scaleSetName <;> simp [and_assoc]

theorem vmid_of_classifyVM {p : Pmox} {vm : VM} (h : classifyVM p v = some vm) :
    vm.vmid = v.vmid ∧ vm.node = v.node := by
  unfold classifyVM at h
  dsimp only at h
  split_ifs at h
  all_goals
    cases h
    exact ⟨rfl, rfl⟩

/-- A guest on a scanned node is listed exactly when it is classified as owned. -/
theorem exists_mem_listOwnedVMs {p : Pmox} {cluster : Cluster} {nodes : List String}
    (hget : cluster.get v.vmid = some v) (hnode : v.node ∈ nodes) :
    (∃ vm ∈ listOwnedVMs p cluster nodes, vm.vmid = v.vmid) ↔ (classifyVM p v).isSome := by
  simp only [listOwnedVMs, listOwnedOn, List.mem_flatMap, List.mem_filterMap, List.mem_filter,
    decide_eq_true_eq]
  constructor
  · rintro ⟨vm, ⟨node, _, guest, ⟨hmem, _⟩, hclass⟩, hvmid⟩
    have hkey : guest.vmid = v.vmid := (vmid_of_classifyVM hclass).1.symm.trans hvmid
    have hguest : cluster.get guest.vmid = some guest := Table.get_of_mem_rows hmem
    rw [hkey, hget, Option.some.injEq] at hguest
    rw [hguest, hclass]
    rfl
  · intro hsome
    obtain ⟨vm, hvm⟩ := Option.isSome_iff_exists.mp hsome
    exact ⟨vm, ⟨v.node, hnode, v, ⟨Table.mem_rows.mpr hget, rfl⟩, hvm⟩, (vmid_of_classifyVM hvm).1⟩

/-! ## One provisioner per scale set -/

def vmPrefix (entry : ScaleSetEntry) : String := "gh-runner-" ++ entry.name ++ "-"

/-- The provisioner that `initScalesetStates` builds for an entry. -/
def initScalesetState (cfg : Config) (entry : ScaleSetEntry) : Pmox where
  scaleSetName := entry.name
  vmNamePrefix := vmPrefix entry
  vmidRange := cfg.proxmox.vmidRange

/-- The range an entry's allocator draws from. -/
def entryVMIDRange (entry : ScaleSetEntry) (fallback : VMIDRange) : VMIDRange :=
  entry.vmidRange.getD fallback

/-- A guest cloned for the entry: named after its VMID, drawn from the entry's range, and carrying
the entry's tags unless the clone has not been tagged yet. -/
structure ClonedFor (cfg : Config) (entry : ScaleSetEntry) (v : Guest) : Prop where
  name : v.name = vmPrefix entry ++ toString v.vmid
  range : (entryVMIDRange entry cfg.proxmox.vmidRange).contains v.vmid = true
  tags : v.tags = "" ∨ ∃ profile templateClass tags,
    Tags.initial entry.name profile templateClass = some tags ∧ v.tags = Tags.encode tags

/-! ## Names -/

theorem dash_notMem_toString (n : ℕ) : '-' ∉ (toString n).toList := by
  intro hmem
  have hdigits : '-' ∈ Nat.toDigits 10 n := by
    simpa [toString, Nat.repr, String.toList_ofList] using hmem
  exact absurd (Nat.isDigit_of_mem_toDigits (by decide) (by decide) hdigits) (by decide)

/-- A dash-terminated prefix of `name-digits` ends inside the name or at its end. -/
theorem prefix_name_digits {name start digits : List Char} (hdigits : '-' ∉ digits)
    (hne : start ≠ name) : start ++ ['-'] <+: name ++ ['-'] ++ digits ↔ start ++ ['-'] <+: name := by
  constructor
  · intro hprefix
    by_cases hlength : (start ++ ['-']).length ≤ name.length
    · rw [List.append_assoc] at hprefix
      exact List.prefix_of_prefix_length_le hprefix (List.prefix_append _ _) hlength
    · -- the dash that ends `start` would have to be the one after `name`, or a digit
      exfalso
      have hlong : name.length ≤ start.length := by
        simp only [List.length_append, List.length_singleton] at hlength
        omega
      obtain ⟨rest, hrest⟩ := hprefix
      have hname : name <+: name ++ ['-'] ++ digits := by
        rw [List.append_assoc]
        exact List.prefix_append _ _
      have hstart : start <+: name ++ ['-'] ++ digits := by
        rw [← hrest, List.append_assoc]
        exact List.prefix_append _ _
      obtain ⟨middle, rfl⟩ := List.prefix_of_prefix_length_le hname hstart hlong
      have htail : middle ++ ['-'] ++ rest = ['-'] ++ digits := by
        simpa [List.append_assoc] using hrest
      cases middle with
      | nil => exact hne (List.append_nil _)
      | cons c middle =>
        have hcons : middle ++ ['-'] ++ rest = digits := by
          simpa using (List.cons.inj htail).2
        apply hdigits
        rw [← hcons]
        simp
  · intro hprefix
    rw [List.append_assoc]
    exact hprefix.trans (List.prefix_append _ _)

theorem hasPrefix_clone_name (hne : b.name ≠ a.name) (n : ℕ) :
    hasPrefix (vmPrefix a ++ toString n) (vmPrefix b) = hasPrefix a.name (b.name ++ "-") := by
  have hchars : b.name.toList ≠ a.name.toList := fun h ↦ hne (String.toList_inj.mp h)
  have hdash : "-".toList = ['-'] := by decide
  rw [Bool.eq_iff_iff, hasPrefix_iff, hasPrefix_iff]
  simp only [vmPrefix, String.toList_append, hdash, List.append_assoc]
  rw [List.prefix_append_right_inj]
  simpa [List.append_assoc] using prefix_name_digits (dash_notMem_toString n) hchars

theorem vmPrefix_ne_empty (entry : ScaleSetEntry) : vmPrefix entry ≠ "" := by
  intro hempty
  have hlength := congrArg (fun s ↦ s.toList.length) hempty
  simp [vmPrefix, String.toList_append] at hlength

/-! ## Ownership between siblings -/

theorem isOwnedBy_sibling_eq_false (hvalid : validate cfg = .ok ()) {i j : ℕ}
    (ha : cfg.scalesets[i]? = some a) (hb : cfg.scalesets[j]? = some b) (hij : i ≠ j)
    (hclone : ClonedFor cfg a v) : Tags.isOwnedBy v.tags b.name = false := by
  obtain ⟨owner, howner⟩ := ownerTag_isSome_of_validate hvalid hb
  have hnot : owner ∉ Tags.decode v.tags := by
    rcases hclone.tags with hempty | ⟨profile, templateClass, tags, hinitial, hwire⟩
    · rw [hempty]
      simp [Tags.decode]
    · rw [hwire, Tags.mem_decode_encode (Tags.plain_of_mem_initial hinitial),
        Tags.ownerTag_mem_initial hinitial howner, ← howner]
      exact ownerTag_ne_of_validate hvalid ha hb hij
  simp [Tags.isOwnedBy, howner, hnot]

theorem classifyVM_sibling_isSome (hvalid : validate cfg = .ok ()) {i j : ℕ}
    (ha : cfg.scalesets[i]? = some a) (hb : cfg.scalesets[j]? = some b) (hij : i ≠ j)
    (hclone : ClonedFor cfg a v) :
    (classifyVM (initScalesetState cfg b) v).isSome ↔
      hasPrefix a.name (b.name ++ "-") ∧ cfg.proxmox.vmidRange.contains v.vmid = true := by
  have hne : b.name ≠ a.name := fun h ↦ ownerTag_ne_of_validate hvalid ha hb hij (by rw [h])
  rw [classifyVM_isSome]
  simp only [initScalesetState, isOwnedBy_sibling_eq_false hvalid ha hb hij hclone,
    Bool.false_eq_true, false_or, ne_eq, vmPrefix_ne_empty, not_false_eq_true, true_and,
    hclone.name, hasPrefix_clone_name hne]

/-- A sibling's `classifyVM` rejects a clone, and its listing leaves the clone out, exactly when the
clone's scale set is not named like the sibling followed by a dash, or the VMID is outside the global
range. -/
theorem classifyVM_sibling_clone {cfg : Config} (hvalid : validate cfg = .ok ()) {i j : ℕ}
    {a b : ScaleSetEntry} (ha : cfg.scalesets[i]? = some a) (hb : cfg.scalesets[j]? = some b)
    (hij : i ≠ j) {v : Guest} (hclone : ClonedFor cfg a v) :
    (classifyVM (initScalesetState cfg b) v = none ↔
      ¬(hasPrefix a.name (b.name ++ "-") = true ∧ cfg.proxmox.vmidRange.contains v.vmid = true)) ∧
    ∀ (cluster : Cluster) (nodes : List String), cluster.get v.vmid = some v → v.node ∈ nodes →
      ((∀ vm ∈ listOwnedVMs (initScalesetState cfg b) cluster nodes, vm.vmid ≠ v.vmid) ↔
        ¬(hasPrefix a.name (b.name ++ "-") = true ∧
          cfg.proxmox.vmidRange.contains v.vmid = true)) := by
  have hclass := classifyVM_sibling_isSome hvalid ha hb hij hclone
  refine ⟨?_, fun cluster nodes hget hnode ↦ ?_⟩
  · rw [← hclass, Option.not_isSome_iff_eq_none]
  · rw [← hclass, ← exists_mem_listOwnedVMs hget hnode]
    simp only [not_exists, not_and, ne_eq]

/-- Two scale sets `ci` and `gpu` that split one global range. -/
def disjointNames : Config where
  scalesets :=
    [{ name := "gpu", maxConcurrentRunners := 4, scope := { org := "acme" }
       vmidRange := some { min := 10000, max := 10999 } },
     { name := "ci", maxConcurrentRunners := 4, scope := { org := "globex" }
       vmidRange := some { min := 11000, max := 11999 } }]
  proxmox := { templateVMID := 9000, vmidRange := { min := 10000, max := 19999 } }
  pool := { hotSize := 1, warmSize := 1 }

/-- The same ranges with the first scale set named `ci-gpu`. -/
def nestedNames : Config :=
  { disjointNames with
    scalesets :=
      [{ name := "ci-gpu", maxConcurrentRunners := 4, scope := { org := "acme" }
         vmidRange := some { min := 10000, max := 10999 } },
       { name := "ci", maxConcurrentRunners := 4, scope := { org := "globex" }
         vmidRange := some { min := 11000, max := 11999 } }] }

theorem classifyVM_gpu_clone :
    classifyVM (initScalesetState disjointNames
      { name := "ci", maxConcurrentRunners := 4, scope := { org := "globex" }
        vmidRange := some { min := 11000, max := 11999 } })
      { vmid := 10000, node := "pve1", name := "gh-runner-gpu-10000" } = none :=
  (classifyVM_sibling_clone (i := 0) (j := 1) (show validate disjointNames = .ok () by decide) rfl rfl
    (by decide) ⟨by decide, by decide, .inl rfl⟩).1.mpr (by decide)

/-- `ci` takes a clone of `ci-gpu`, tagged or not. -/
theorem ci_claims_ciGpu_clone :
    validate nestedNames = .ok () ∧
    ∃ a b v, nestedNames.scalesets[0]? = some a ∧ nestedNames.scalesets[1]? = some b ∧
      ClonedFor nestedNames a v ∧ (classifyVM (initScalesetState nestedNames b) v).isSome := by
  refine ⟨by decide, _, _, { vmid := 10000, node := "pve1", name := "gh-runner-ci-gpu-10000"
                             tags := Tags.encode ["gh-scaleset", "gh-scaleset-owner-ci-gpu",
                               "gh-scaleset-profile-default", "gh-scaleset-template-stable"] },
    rfl, rfl, ⟨by decide, by decide, .inr ⟨"default", "stable", _, by decide, rfl⟩⟩, by decide⟩

/-! ## Leftovers of a crash -/

theorem isOwnedBy_clone (hvalid : validate cfg = .ok ()) {i : ℕ} {entry : ScaleSetEntry}
    (hentry : cfg.scalesets[i]? = some entry) (hclone : ClonedFor cfg entry v) :
    Tags.isOwnedBy v.tags entry.name ↔ v.tags ≠ "" := by
  obtain ⟨owner, howner⟩ := ownerTag_isSome_of_validate hvalid hentry
  have hempty : Tags.isOwnedBy "" entry.name = false := by
    simp [Tags.isOwnedBy, howner, Tags.decode]
  constructor
  · intro howned hnone
    rw [hnone, hempty] at howned
    cases howned
  · intro htagged
    obtain ⟨profile, templateClass, tags, hinitial, hwire⟩ := hclone.tags.resolve_left htagged
    have hdecode (tag : String) : tag ∈ Tags.decode v.tags ↔ tag ∈ tags := by
      rw [hwire, Tags.mem_decode_encode (Tags.plain_of_mem_initial hinitial)]
    have howned : owner ∈ Tags.decode v.tags :=
      (hdecode owner).mpr ((Tags.ownerTag_mem_initial hinitial howner).mpr howner)
    have hmarked : Tags.marker ∈ Tags.decode v.tags :=
      (hdecode Tags.marker).mpr (Tags.marker_mem_initial hinitial)
    simp [Tags.isOwnedBy, howner, howned, hmarked]

theorem hasPrefix_vmPrefix (entry : ScaleSetEntry) (n : ℕ) :
    hasPrefix (vmPrefix entry ++ toString n) (vmPrefix entry) = true := by
  rw [hasPrefix_iff, String.toList_append]
  exact List.prefix_append _ _

/-- A clone of an entry that is on a node that answers is listed by the entry's provisioner if and only if
its tags have been applied or its VMID lies in the range of the Proxmox block. The entry's own range does
not matter. -/
theorem leftover_listed_iff {cfg : Config} (hvalid : validate cfg = .ok ()) {i : ℕ} {entry : ScaleSetEntry}
    (hentry : cfg.scalesets[i]? = some entry) {v : Guest} (hclone : ClonedFor cfg entry v)
    {cluster : Cluster} {nodes : List String} (hget : cluster.get v.vmid = some v) (hnode : v.node ∈ nodes) :
    (∃ vm ∈ listOwnedVMs (initScalesetState cfg entry) cluster nodes, vm.vmid = v.vmid) ↔
      v.tags ≠ "" ∨ cfg.proxmox.vmidRange.contains v.vmid = true := by
  rw [exists_mem_listOwnedVMs hget hnode, classifyVM_isSome]
  simp only [initScalesetState, isOwnedBy_clone hvalid hentry hclone, ne_eq, vmPrefix_ne_empty,
    not_false_eq_true, true_and, hclone.name, hasPrefix_vmPrefix]

/-- The ranges of `gpu` and `ci` with a Proxmox block that covers the first one only. -/
def outsideRange : Config :=
  { disjointNames with
    proxmox := { templateVMID := 9000, vmidRange := { min := 10000, max := 10999 } } }

/-- A clone of `gpu` that was not tagged before the crash. -/
def gpuLeftover : Guest := { vmid := 10000, node := "pve1", name := "gh-runner-gpu-10000" }

def ciLeftover : Guest := { vmid := 11000, node := "pve1", name := "gh-runner-ci-11000" }

theorem leftover_listed_iff_gpu :
    ∃ entry, outsideRange.scalesets[0]? = some entry ∧
      ∃ vm ∈ listOwnedVMs (initScalesetState outsideRange entry) (Table.empty.put gpuLeftover) ["pve1"],
        vm.vmid = 10000 := by
  refine ⟨_, rfl, ?_⟩
  exact (leftover_listed_iff (i := 0) (show validate outsideRange = .ok () by decide) rfl
    ⟨by decide, by decide, .inl rfl⟩ (Table.get_put_self _ gpuLeftover) (by decide)).mpr
    (.inr (by decide))

/-- `ci` draws its VMIDs from its own range and looks for untagged leftovers in the other one. -/
theorem ci_misses_leftover :
    validate outsideRange = .ok () ∧
    ∃ entry, outsideRange.scalesets[1]? = some entry ∧ ClonedFor outsideRange entry ciLeftover ∧
      ∀ vm ∈ listOwnedVMs (initScalesetState outsideRange entry) (Table.empty.put ciLeftover) ["pve1"],
        vm.vmid ≠ 11000 := by
  refine ⟨by decide, _, rfl, ⟨by decide, by decide, .inl rfl⟩, ?_⟩
  decide

end ScalesetProxmox.Provisioner
