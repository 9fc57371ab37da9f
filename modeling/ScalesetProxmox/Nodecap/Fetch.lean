import ScalesetProxmox.Nodecap.Ledger
import ScalesetProxmox.Tags.Schema

/-!
# Reading the cluster

`fetch` projects the rows of `/cluster/resources` into a snapshot: which nodes may be planned on,
which guests hold memory there, and how much. A guest's own entry and its share of the node's sum come
from the same rows, which is what lets a reservation be netted against them.
-/

namespace ScalesetProxmox.Nodecap

open Store (VMID Time)

inductive ResourceType
  | node
  | qemu
  | lxc
  /-- storage, pools and networks -/
  | other
  deriving DecidableEq, Repr

/-- One row of `/cluster/resources`. -/
structure ClusterResource where
  type : ResourceType
  node : String
  status : String := ""
  vmid : VMID := 0
  maxMem : ℕ := 0
  maxCPU : ℕ := 0
  template : ℕ := 0
  tags : String := ""
  deriving DecidableEq, Repr

def guestStopped : String := "stopped"

namespace Options

/-- The node is one of the declared ones. -/
def want (opts : Options) (name : String) : Bool := opts.nodes.isEmpty || opts.nodes.contains name

def owns (opts : Options) (guestTags : String) (v : VMID) : Bool :=
  opts.ownerScaleSets.any (fun name ↦ Tags.isOwnedBy guestTags name) ||
    opts.ownedVMIDs.any fun range ↦ decide (range.min ≤ v ∧ v ≤ range.max)

/-- A guest that is powered off holds memory only if it is the orchestrator's own. -/
def holdsMemory (opts : Options) (status guestTags : String) (v : VMID) : Bool :=
  status != guestStopped || opts.owns guestTags v

def plansNode (opts : Options) (row : ClusterResource) : Bool :=
  row.type = .node && opts.want row.node && (row.status = "" || row.status = "online")

def countsGuest (opts : Options) (row : ClusterResource) : Bool :=
  (row.type = .qemu || row.type = .lxc) && opts.want row.node && row.template = 0 &&
    opts.holdsMemory row.status row.tags row.vmid

end Options

/-- Fill a map from the rows that are kept; a later row of the same key writes over an earlier one. -/
def collect {κ β : Type} [DecidableEq κ] (keep : ClusterResource → Bool) (key : ClusterResource → κ)
    (value : ClusterResource → β) (rows : List ClusterResource) : AList fun _ : κ ↦ β :=
  rows.foldl (fun map row ↦ if keep row then map.insert (key row) (value row) else map) ∅

def guestsOn (opts : Options) (rows : List ClusterResource) (node : String) : List ClusterResource :=
  rows.filter fun row ↦ opts.countsGuest row && row.node = node

def nodeTotals (opts : Options) (rows : List ClusterResource) (row : ClusterResource) : NodeTotals where
  memBytes := row.maxMem
  vcpus := row.maxCPU
  guestMem := ((guestsOn opts rows row.node).map ClusterResource.maxMem).sum
  guestVCPU := ((guestsOn opts rows row.node).map fun row ↦ (row.maxCPU : ℤ)).sum

def fetch (opts : Options) (rows : List ClusterResource) (takenAt : Time) : Snapshot where
  nodes := collect opts.plansNode ClusterResource.node (nodeTotals opts rows) rows
  guests := collect opts.countsGuest ClusterResource.vmid (fun row ↦ ⟨row.maxMem, row.maxCPU⟩) rows
  takenAt := takenAt

/-- What the snapshot's sum for a node holds of one VMID. -/
def shownOn (opts : Options) (rows : List ClusterResource) (node : String) (v : VMID) : ℕ :=
  (((guestsOn opts rows node).filter fun row ↦ row.vmid = v).map ClusterResource.maxMem).sum

variable {opts : Options} {rows : List ClusterResource} {node : String} {v : VMID} {takenAt : Time}

/-- An entry comes from one of the rows that are kept. -/
theorem exists_row_of_lookup_collect {κ β : Type} [DecidableEq κ] {keep : ClusterResource → Bool}
    {key : ClusterResource → κ} {value : ClusterResource → β} {k : κ} {b : β}
    (h : (collect keep key value rows).lookup k = some b) :
    ∃ row ∈ rows, keep row ∧ key row = k ∧ value row = b := by
  induction rows using List.reverseRecOn with
  | nil => cases h
  | append_singleton rows row ih =>
    rw [collect, List.foldl_append, ← collect, List.foldl_cons, List.foldl_nil] at h
    have hearlier (h : (collect keep key value rows).lookup k = some b) :
        ∃ found ∈ rows ++ [row], keep found = true ∧ key found = k ∧ value found = b := by
      obtain ⟨found, hfound, hrest⟩ := ih h
      exact ⟨found, List.mem_append_left _ hfound, hrest⟩
    split_ifs at h with hkeep
    · by_cases hk : k = key row
      · rw [hk, AList.lookup_insert, Option.some.injEq] at h
        exact ⟨row, by simp, hkeep, hk.symm, h⟩
      · rw [AList.lookup_insert_ne hk] at h
        exact hearlier h
    · exact hearlier h

theorem exists_row_of_listed {size : GuestSize}
    (h : (fetch opts rows takenAt).guests.lookup v = some size) :
    ∃ row ∈ rows, opts.countsGuest row ∧ row.vmid = v ∧ row.maxMem = size.mem := by
  obtain ⟨row, hrow, hcounts, hvmid, hsize⟩ := exists_row_of_lookup_collect h
  exact ⟨row, hrow, hcounts, hvmid, congrArg GuestSize.mem hsize⟩

/-- A guest whose rows are all on one node is in that node's sum with at least its own entry. -/
theorem guestMem_le_shownOn
    (hplaced : ∀ row ∈ rows, opts.countsGuest row → row.vmid = v → row.node = node) :
    (fetch opts rows takenAt).guestMem v ≤ shownOn opts rows node v := by
  unfold Snapshot.guestMem
  cases hlookup : (fetch opts rows takenAt).guests.lookup v with
  | none => exact Nat.zero_le _
  | some size =>
    obtain ⟨row, hrow, hcounts, hvmid, hmem⟩ := exists_row_of_listed hlookup
    have hcounted : row ∈ (guestsOn opts rows node).filter fun row ↦ row.vmid = v := by
      simp [guestsOn, hrow, hcounts, hvmid, hplaced row hrow hcounts hvmid]
    change size.mem ≤ _
    rw [← hmem]
    exact List.single_le_sum (by simp) _ (List.mem_map_of_mem hcounted)

/-- What one VMID has in a node's sum is part of it. -/
theorem shownOn_le_guestMem (hknown : ((fetch opts rows takenAt).nodes.lookup node).isSome) :
    shownOn opts rows node v ≤ ((fetch opts rows takenAt).totals node).guestMem := by
  obtain ⟨totals, htotals⟩ := Option.isSome_iff_exists.mp hknown
  obtain ⟨row, -, -, hnode, rfl⟩ := exists_row_of_lookup_collect htotals
  rw [Snapshot.totals, htotals, Option.getD_some, nodeTotals, hnode]
  exact List.Sublist.sum_le_sum (List.filter_sublist.map _) (by simp)

end ScalesetProxmox.Nodecap
