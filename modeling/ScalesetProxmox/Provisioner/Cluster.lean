import ScalesetProxmox.Store.Schema

/-!
# The Proxmox cluster

What the provisioner sees of Proxmox. A VMID is unique in the whole cluster, so the guests are a
table keyed by VMID; a call that names a node reaches a guest only if it is on that node.

The last three fields of a guest are not known to Proxmox or to the program. They record the guest's
history for the statements about it: whether this scale set cloned it, for which generation of its
VMID's row it was cloned or adopted, and how far its disk has been used.
-/

namespace ScalesetProxmox.Provisioner

open Store (VMID Time)

/-- The status Proxmox reports, `paused` standing for everything that is neither. -/
inductive Power
  | running
  | stopped
  | paused
  deriving DecidableEq, Repr

/-- What has happened to a guest since its disk was last clean. -/
inductive Disk
  | clean
  /-- A runner configuration was delivered. -/
  | configured
  /-- A job ran on it. -/
  | used
  deriving DecidableEq, Repr

/-- The disk after a runner configuration is delivered. -/
def Disk.configure : Disk → Disk
  | .used => .used
  | _ => .configured

structure Guest where
  vmid : VMID
  node : String
  name : String := ""
  tags : String := ""
  power : Power := .stopped
  cloned : Bool := false
  gen : ℕ := 0
  disk : Disk := .clean
  deriving DecidableEq, Repr

abbrev Cluster := Table VMID Guest Guest.vmid

namespace Cluster

/-- The guest that a call naming this VMID and node reaches. -/
def find (cluster : Cluster) (v : VMID) (node : String) : Option Guest :=
  (cluster.get v).filter (·.node = node)

theorem find_eq_some {cluster : Cluster} {v : VMID} {node : String} {guest : Guest} :
    cluster.find v node = some guest ↔ cluster.get v = some guest ∧ guest.node = node := by
  simp [find, Option.filter_eq_some_iff]

/-- Rewrite the guest that a call reaches, if there is one. -/
def modify (cluster : Cluster) (v : VMID) (node : String) (change : Guest → Guest) : Cluster :=
  match cluster.find v node with
  | some guest => cluster.put { change guest with vmid := guest.vmid, node := guest.node }
  | none => cluster

end Cluster

/-- VMIDs whose destroy task has completed, with the time it did. -/
abbrev Tracker := VMID → Option Time

/-- The VMID was destroyed less than `cooldown` ago; an entry is forgotten after `ttl`. -/
def isRecentlyDestroyed (tracker : Tracker) (ttl cooldown now : Time) (v : VMID) : Bool :=
  match tracker v with
  | none => false
  | some destroyed => now - destroyed < ttl ∧ now - destroyed < cooldown

end ScalesetProxmox.Provisioner
