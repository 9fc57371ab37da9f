import ScalesetProxmox.Calls.Script
import ScalesetProxmox.Provisioner.Nics
import ScalesetProxmox.Provisioner.Ownership

/-!
# Cloning and starting with the firewall

`Clone` and `Start` of `internal/provisioner/provisioner.go` as sequences of Proxmox calls on one VM, any
of which can fail. With `proxmox.firewall` on, the clone's NICs are put on the firewall in the call that
sets its tags, then the security-group rule is attached, then the firewall is enabled, and only then can
the VM be powered on. `Start` goes through the same three steps for whatever is missing.

`power_on_only_sandboxed` says this of every run of the two, whichever calls fail.
-/

namespace ScalesetProxmox.Provisioner

open Calls ScalesetProxmox.Calls.Script
open Text (quote)
open Store (VMID)

/-! ## Proxmox -/

structure FirewallConfig where
  enabled : Bool := false
  securityGroup : String := ""
  dhcp : Option Bool := none
  deriving DecidableEq, Repr

def FirewallConfig.dhcpOrDefault (fw : FirewallConfig) : Bool := fw.dhcp.getD true

inductive RuleType
  | group
  | inbound
  | outbound
  | forward
  deriving DecidableEq, Repr

structure FirewallRule where
  type : RuleType
  action : String
  enable : ℤ
  deriving DecidableEq, Repr

def FirewallConfig.groupRule (fw : FirewallConfig) : FirewallRule :=
  { type := .group, action := fw.securityGroup, enable := 1 }

def FirewallConfig.hasGroup (fw : FirewallConfig) (rules : List FirewallRule) : Bool :=
  rules.any fun r ↦ r.type = .group ∧ r.action = fw.securityGroup ∧ r.enable = 1

/-- What Proxmox keeps of one VM. -/
structure Machine where
  nets : Nets := .empty
  rules : List FirewallRule := []
  firewallEnabled : Bool := false
  dhcp : Bool := false
  running : Bool := false

/-- The options of the library's clone call. -/
structure LibCloneOptions where
  newID : VMID
  name : String
  full : Bool
  target : String := ""
  storage : String := ""
  deriving DecidableEq, Repr

/-- The calls, those without a VMID on the VM in question. -/
inductive Request
  | locateTemplate (vmid : VMID)
  | node (name : String)
  | virtualMachine (node : String) (vmid : VMID)
  | clone (template : VMID) (options : LibCloneOptions)
  | awaitTask (seconds : ℕ)
  | config (options : List VMOption)
  | resizeDisk (disk size : String)
  | firewallRules
  | newFirewallRule (rule : FirewallRule)
  | firewallOptionSet (enable dhcp : Bool)
  | start
  deriving DecidableEq, Repr

/-- What a call gives back: a node, the VM's configuration or its rules. -/
structure Reply where
  node : String := ""
  nets : Nets := .empty
  rules : List FirewallRule := []

structure Fault where
  text : String := ""
  /-- Proxmox refuses to start a VM that is running. -/
  alreadyRunning : Bool := false
  deriving DecidableEq, Repr

/-- Proxmox, where a clone comes with the NICs `template` and a profile's template is on the node
`located`. The firewall's file is not cloned; one that an earlier VM left behind stays. -/
def proxmox (template : Nets) (located : VMID → String) : Service Machine Request Reply where
  apply s
    | .clone _ _ => { s with nets := template, running := false }
    | .config options => { s with nets := applyOptions s.nets options }
    | .newFirewallRule rule => { s with rules := rule :: s.rules }
    | .firewallOptionSet enable dhcp => { s with firewallEnabled := enable, dhcp := dhcp }
    | .start => { s with running := true }
    | _ => s
  answer s
    | .locateTemplate vmid => { node := located vmid }
    | .virtualMachine _ _ => { nets := s.nets }
    | .firewallRules => { rules := s.rules }
    | _ => {}

/-! ## The calls of the provisioner -/

abbrev Api := Script Request Fault Reply String

/-- What `Clone` and `Start` read of the provisioner's configuration. -/
structure CloneConfig where
  scaleSetName : String
  templateVMID : VMID
  templateNode : String
  firewall : FirewallConfig
  deriving DecidableEq, Repr

structure CloneOptions where
  newVMID : VMID
  node : String
  name : String
  linked : Bool := false
  poweredOn : Bool := false
  profile : String := ""
  templateVMID : VMID := 0
  cpuCores : ℤ := 0
  memoryMB : ℤ := 0
  diskGB : ℤ := 0
  storage : String := ""
  templateClass : String := ""
  nics : List CloneNIC := []
  ipConfig : String := ""
  deriving DecidableEq, Repr

def wrap (context : String) (fault : Fault) : String := s!"{context}: {fault.text}"

def resolveTemplateVMID (optOverride defaultTemplateVMID : VMID) : VMID :=
  if 0 < optOverride then optOverride else defaultTemplateVMID

def resolveTemplateNode (p : CloneConfig) (opts : CloneOptions) : Api String :=
  if 0 < opts.templateVMID ∧ opts.templateVMID ≠ p.templateVMID then do
    let found ← ask (.locateTemplate opts.templateVMID)
      (wrap s!"locate profile template {opts.templateVMID}")
    return found.node
  else
    return p.templateNode

def buildLibCloneOptions (opts : CloneOptions) (templateNode : String) : LibCloneOptions :=
  if opts.linked then
    { newID := opts.newVMID, name := opts.name, full := false }
  else
    { newID := opts.newVMID, name := opts.name, full := true
      target := if opts.node ≠ "" ∧ opts.node ≠ templateNode then opts.node else ""
      storage := opts.storage }

def buildCloneConfig (scaleSetName : String) (opts : CloneOptions) (firewallOn : Bool) :
    Except String (List VMOption) :=
  match Tags.initial scaleSetName opts.profile opts.templateClass with
  | none =>
    .error s!"compute initial tags: tags: scale set name {quote scaleSetName} must match ^[a-zA-Z0-9][a-zA-Z0-9_.-]\x7b0,62\x7d$"
  | some initial =>
    .ok ([.tags (Tags.encode initial)] ++
      (if 0 < opts.cpuCores then [.cores opts.cpuCores] else []) ++
      (if 0 < opts.memoryMB then [.memory opts.memoryMB] else []) ++
      nicOverrides opts.nics firewallOn ++
      (if opts.ipConfig ≠ "" then [.ipconfig0 opts.ipConfig] else []))

def attachGroup (p : CloneConfig) (vmid : VMID) (node : String) : Api Unit := do
  let _ ← ask (.newFirewallRule p.firewall.groupRule)
    (wrap s!"attach security group {quote p.firewall.securityGroup} to vm {vmid} (node {node})")
  return ()

def enableFirewall (p : CloneConfig) (vmid : VMID) (node : String) : Api Unit := do
  let _ ← ask (.firewallOptionSet true p.firewall.dhcpOrDefault)
    (wrap s!"enable firewall on vm {vmid} (node {node})")
  return ()

def applyFirewall (p : CloneConfig) (vmid : VMID) (node : String) : Api Unit := do
  attachGroup p vmid node
  enableFirewall p vmid node

def attachMissingGroup (p : CloneConfig) (vmid : VMID) (node : String) (rules : List FirewallRule) :
    Api Unit :=
  if p.firewall.hasGroup rules then return () else attachGroup p vmid node

/-- Set the flag on the NICs that lack it, if there are any. -/
def patchNICs (vmid : VMID) (node : String) (nets : Nets) : Api Unit :=
  let patches := nicFirewallPatches nets 0
  if patches.isEmpty then
    return ()
  else do
    let _ ← ask (.config patches) (wrap s!"force firewall=1 on NICs of vm {vmid} (node {node})")
    return ()

def ensureFirewall (p : CloneConfig) (vmid : VMID) (node : String) (nets : Nets) : Api Unit := do
  let listed ← ask .firewallRules (wrap s!"list firewall rules on vm {vmid} (node {node})")
  attachMissingGroup p vmid node listed.rules
  enableFirewall p vmid node
  patchNICs vmid node nets

def startInternal : Api Unit :=
  .call .start fun reply ↦
    match reply with
    | .ok _ => do
      let _ ← ask (.awaitTask 300) (wrap "await start")
      return ()
    | .error fault => if fault.alreadyRunning then return () else .fail (wrap "start vm" fault)

/-- `Clone` up to the new VM's configuration: the node it is on and its NICs. -/
def createClone (p : CloneConfig) (opts : CloneOptions) : Api (String × Nets) := do
  let templateNode ← resolveTemplateNode p opts
  let templateVMID := resolveTemplateVMID opts.templateVMID p.templateVMID
  let _ ← ask (.node templateNode) (wrap "get template node")
  let _ ← ask (.virtualMachine templateNode templateVMID) (wrap "get template vm")
  let _ ← ask (.clone templateVMID (buildLibCloneOptions opts templateNode)) (wrap "issue clone")
  let _ ← ask (.awaitTask 600) (wrap "await clone task")
  let resultNode := if opts.linked ∨ opts.node = "" then templateNode else opts.node
  let _ ← ask (.node resultNode) (wrap "get new node")
  let newVM ← ask (.virtualMachine resultNode opts.newVMID) (wrap "fetch cloned vm")
  return (resultNode, newVM.nets)

def resizeDisk (opts : CloneOptions) : Api Unit :=
  if 0 < opts.diskGB then do
    let _ ← ask (.resizeDisk "scsi0" s!"{opts.diskGB}G") (wrap "resize disk")
    let _ ← ask (.awaitTask 120) (wrap "await resize disk")
    return ()
  else
    return ()

def sandboxClone (p : CloneConfig) (opts : CloneOptions) (node : String) : Api Unit :=
  if p.firewall.enabled then
    (applyFirewall p opts.newVMID node).mapError fun text ↦ s!"apply firewall: {text}"
  else
    return ()

/-- `Clone` from there to the power-on: tags and overrides, the disk, the firewall. -/
def configureClone (p : CloneConfig) (opts : CloneOptions) (node : String) (nets : Nets) : Api Unit := do
  let configOpts ← .done (buildCloneConfig p.scaleSetName opts p.firewall.enabled)
  let patches := if p.firewall.enabled then nicFirewallPatches nets opts.nics.length else []
  let _ ← ask (.config (configOpts ++ patches)) (wrap "set owner tags / overrides")
  resizeDisk opts
  sandboxClone p opts node

def startClone (opts : CloneOptions) : Api Unit := if opts.poweredOn then startInternal else return ()

def clone (p : CloneConfig) (opts : CloneOptions) : Api VM :=
  if opts.linked ∧ opts.node ≠ p.templateNode then
    .fail s!"provisioner: linked clones must target the template's node: requested node={opts.node} template_node={p.templateNode}"
  else do
    let created ← createClone p opts
    configureClone p opts created.1 created.2
    startClone opts
    return { vmid := opts.newVMID, node := created.1, name := opts.name, profile := "" }

def verifySandbox (p : CloneConfig) (vm : VM) (nets : Nets) : Api Unit :=
  if p.firewall.enabled then
    (ensureFirewall p vm.vmid vm.node nets).mapError fun text ↦ s!"ensure firewall before start: {text}"
  else
    return ()

def start (p : CloneConfig) (vm : VM) : Api Unit := do
  let _ ← ask (.node vm.node) (wrap s!"get node {vm.node}")
  let pVM ← ask (.virtualMachine vm.node vm.vmid) (wrap s!"get vm {vm.vmid} on {vm.node}")
  verifySandbox p vm pVM.nets
  startInternal

/-! ## The sandbox -/

structure Machine.Sandboxed (fw : FirewallConfig) (s : Machine) : Prop where
  group : fw.hasGroup s.rules = true
  enabled : s.firewallEnabled = true
  nics : ∀ nic ∈ s.nets.rows, nic.value ≠ "" → Flagged nic.value

instance (fw : FirewallConfig) (s : Machine) : Decidable (s.Sandboxed fw) :=
  decidable_of_iff (fw.hasGroup s.rules = true ∧ s.firewallEnabled = true ∧
      ∀ nic ∈ s.nets.rows, nic.value ≠ "" → Flagged nic.value)
    ⟨fun h ↦ ⟨h.1, h.2.1, h.2.2⟩, fun h ↦ ⟨h.group, h.enabled, h.nics⟩⟩

abbrev Log := List (Moment Machine Request)

/-- The call has attached the security group, or has found it attached. -/
def attaches (fw : FirewallConfig) (m : Moment Machine Request) : Bool :=
  m.ok && match m.request with
    | .newFirewallRule rule => rule = fw.groupRule
    | .firewallRules => fw.hasGroup m.state.rules
    | _ => false

def enables (m : Moment Machine Request) : Bool :=
  m.ok && match m.request with
    | .firewallOptionSet enable _ => enable
    | _ => false

/-- The VM may be powered on: the group has been attached and after that the firewall enabled, both are
still so, and the NICs are on the firewall. Their other attributes are unchanged, where no string has two
`firewall` attributes. -/
structure Ready (fw : FirewallConfig) (origin : Nets) (overrides : List CloneNIC) (log : Log)
    (s : Machine) : Prop where
  preceded : ∃ attach enable, [attach, enable].Sublist log ∧ attaches fw attach = true ∧
    enables enable = true
  sandboxed : s.Sandboxed fw
  fenced : FlaggedOnce origin overrides → Fenced origin overrides s.nets

/-- A VM is powered on only if it is ready, and its firewall is enabled only if the group is attached. -/
def Permitted (fw : FirewallConfig) (origin : Nets) (overrides : List CloneNIC) (log : Log) (s : Machine) :
    Request → Prop
  | .start => Ready fw origin overrides log s
  | .firewallOptionSet enable _ => enable = true → fw.hasGroup s.rules = true
  | _ => True

structure Attached (fw : FirewallConfig) (nets : Nets) (log : Log) (s : Machine) : Prop where
  call : ∃ attach ∈ log, attaches fw attach = true
  group : fw.hasGroup s.rules = true
  nets : s.nets = nets

structure Enabled (fw : FirewallConfig) (nets : Nets) (log : Log) (s : Machine) : Prop where
  preceded : ∃ attach enable, [attach, enable].Sublist log ∧ attaches fw attach = true ∧
    enables enable = true
  group : fw.hasGroup s.rules = true
  enabled : s.firewallEnabled = true
  nets : s.nets = nets

section Specs

variable {template : Nets} {located : VMID → String} {p : CloneConfig} {origin nets : Nets}
  {overrides : List CloneNIC} {log : Log} {s : Machine} {vmid : VMID} {node : String}

theorem Enabled.ready {fw : FirewallConfig} {options : List VMOption}
    (h : Enabled fw (applyOptions origin options) log s) (hrewrites : Rewrites origin overrides options) :
    Ready fw origin overrides log s := by
  refine ⟨h.preceded, ⟨h.group, h.enabled, fun nic hmem hvalue ↦ ?_⟩, fun honce ↦ ?_⟩
  · rw [h.nets] at hmem
    exact hrewrites.flagged hmem hvalue
  · rw [h.nets]
    exact hrewrites.fenced honce

theorem safe_attachGroup : Safe (proxmox template located) (Permitted p.firewall origin overrides)
    (fun _ ↦ Attached p.firewall s.nets) (attachGroup p vmid node) log s := by
  rw [attachGroup, safe_bind, safe_ask]
  refine ⟨True.intro, ⟨_, List.mem_append_right _ (List.mem_singleton_self _), ?_⟩, ?_, rfl⟩
  · simp [attaches]
  · simp [proxmox, FirewallConfig.hasGroup, FirewallConfig.groupRule]

theorem safe_enableFirewall (h : Attached p.firewall nets log s) :
    Safe (proxmox template located) (Permitted p.firewall origin overrides)
      (fun _ ↦ Enabled p.firewall nets) (enableFirewall p vmid node) log s := by
  obtain ⟨attach, hattach, hattaches⟩ := h.call
  rw [enableFirewall, safe_bind, safe_ask]
  refine ⟨fun _ ↦ h.group,
    ⟨attach, ⟨s, .firewallOptionSet true p.firewall.dhcpOrDefault, true⟩, ?_, hattaches, rfl⟩, h.group, rfl,
    h.nets⟩
  exact (List.singleton_sublist.mpr hattach).append (List.Sublist.refl _)

theorem safe_applyFirewall : Safe (proxmox template located) (Permitted p.firewall origin overrides)
    (fun _ ↦ Enabled p.firewall s.nets) (applyFirewall p vmid node) log s := by
  rw [applyFirewall]
  apply safe_attachGroup.bind
  intro _ log s hattached
  exact safe_enableFirewall hattached

theorem safe_startInternal (h : Ready p.firewall origin overrides log s) :
    Safe (proxmox template located) (Permitted p.firewall origin overrides)
      (fun _ _ s ↦ s.Sandboxed p.firewall) startInternal log s := by
  have hstarted : ∀ started : Machine, started.rules = s.rules →
      started.firewallEnabled = s.firewallEnabled → started.nets = s.nets →
      started.Sandboxed p.firewall := by
    intro started hrules henabled hnets
    refine ⟨?_, ?_, ?_⟩
    · rw [hrules, h.sandboxed.group]
    · rw [henabled, h.sandboxed.enabled]
    · rw [hnets]
      exact h.sandboxed.nics
  refine ⟨h, ?_, ?_⟩
  · rw [safe_bind, safe_ask]
    exact ⟨True.intro, hstarted _ rfl rfl rfl⟩
  · intro fault applied
    dsimp only
    split
    · refine hstarted _ ?_ ?_ ?_ <;> split <;> rfl
    · exact safe_fail

theorem safe_ensureFirewall :
    Safe (proxmox template located) (Permitted p.firewall s.nets [])
      (fun _ ↦ Ready p.firewall s.nets []) (ensureFirewall p vmid node s.nets) log s := by
  rw [ensureFirewall, safe_bind, safe_ask]
  refine ⟨True.intro, ?_⟩
  have hattach : Safe (proxmox template located) (Permitted p.firewall s.nets [])
      (fun _ ↦ Attached p.firewall s.nets) (attachMissingGroup p vmid node s.rules)
      (log ++ [⟨s, .firewallRules, true⟩]) s := by
    unfold attachMissingGroup
    split_ifs with hgroup
    · exact ⟨⟨_, List.mem_append_right _ (List.mem_singleton_self _), hgroup⟩, hgroup, rfl⟩
    · exact safe_attachGroup
  apply hattach.bind
  intro _ log s' hattached
  apply (safe_enableFirewall hattached).bind
  intro _ log s' henabled
  -- the NICs were read before the calls, none of which has touched them
  have hrewrites : Rewrites s.nets [] (nicFirewallPatches s.nets 0) := by
    intro nic
    simp [nicOverrides]
  unfold patchNICs
  dsimp only
  split_ifs with hnone
  · rw [List.isEmpty_iff] at hnone
    rw [hnone] at hrewrites
    exact henabled.ready hrewrites
  · rw [safe_bind, safe_ask]
    obtain ⟨attach, enable, hsublist, hcalls⟩ := henabled.preceded
    have hpatched : Enabled p.firewall (applyOptions s.nets (nicFirewallPatches s.nets 0))
        (log ++ [⟨s', .config (nicFirewallPatches s.nets 0), true⟩])
        { s' with nets := applyOptions s'.nets (nicFirewallPatches s.nets 0) } :=
      ⟨⟨attach, enable, hsublist.trans (List.sublist_append_left _ _), hcalls⟩, henabled.group,
        henabled.enabled, by rw [henabled.nets]⟩
    exact ⟨True.intro, hpatched.ready hrewrites⟩

variable {opts : CloneOptions}

theorem safe_createClone : Safe (proxmox template located) (Permitted p.firewall origin overrides)
      (fun created _ s ↦ s.nets = template ∧ created.2 = template) (createClone p opts) log s := by
  have hnode : Safe (proxmox template located) (Permitted p.firewall origin overrides)
      (fun _ _ _ ↦ True) (resolveTemplateNode p opts) log s := by
    unfold resolveTemplateNode
    split_ifs
    · rw [safe_bind, safe_ask]
      exact ⟨True.intro, True.intro⟩
    · exact True.intro
  rw [createClone]
  apply hnode.bind
  intro templateNode log s _
  simp only [safe_bind, safe_ask, safe_pure]
  exact ⟨True.intro, True.intro, True.intro, True.intro, True.intro, True.intro, rfl, rfl⟩

theorem mem_buildCloneConfig {scaleSetName : String} {firewallOn : Bool} {options : List VMOption}
    (h : buildCloneConfig scaleSetName opts firewallOn = .ok options) (nic : Nic) :
    .net nic ∈ options ↔ .net nic ∈ nicOverrides opts.nics firewallOn := by
  unfold buildCloneConfig at h
  split at h
  · cases h
  · cases h
    simp only [List.mem_append, List.mem_singleton, reduceCtorEq, false_or]
    split_ifs <;> simp

theorem safe_resizeDisk : Safe (proxmox template located) (Permitted p.firewall origin overrides)
      (fun _ _ s' ↦ s'.nets = s.nets) (resizeDisk opts) log s := by
  unfold resizeDisk
  split_ifs
  · simp only [safe_bind, safe_ask, safe_pure]
    exact ⟨True.intro, True.intro, rfl⟩
  · exact rfl

theorem safe_configureClone (hfirewall : p.firewall.enabled) (hnets : s.nets = nets) :
    Safe (proxmox template located) (Permitted p.firewall nets opts.nics)
      (fun _ ↦ Ready p.firewall nets opts.nics) (configureClone p opts node nets) log s := by
  subst hnets
  rw [configureClone, safe_bind, hfirewall]
  cases hconfig : buildCloneConfig p.scaleSetName opts true with
  | error text => exact True.intro
  | ok options =>
    have hrewrites : Rewrites s.nets opts.nics (options ++ nicFirewallPatches s.nets opts.nics.length) := by
      intro nic
      rw [List.mem_append, mem_buildCloneConfig hconfig]
    change Safe _ _ _ (ask _ _ >>= _) _ _
    rw [safe_bind, safe_ask]
    refine ⟨True.intro, ?_⟩
    apply safe_resizeDisk.bind
    intro _ log resized hresized
    have hresized : resized.nets =
        applyOptions s.nets (options ++ nicFirewallPatches s.nets opts.nics.length) := hresized
    rw [sandboxClone, if_pos hfirewall, safe_mapError]
    apply safe_applyFirewall.mono
    intro _ log s henabled
    rw [hresized] at henabled
    exact henabled.ready hrewrites

theorem safe_clone (hfirewall : p.firewall.enabled) :
    Safe (proxmox template located) (Permitted p.firewall template opts.nics)
      (fun _ _ s ↦ s.Sandboxed p.firewall) (clone p opts) log s := by
  unfold clone
  split_ifs
  · exact safe_fail
  · apply safe_createClone.bind
    intro created log s hcreated
    rw [hcreated.2]
    apply (safe_configureClone hfirewall hcreated.1).bind
    intro _ log s hready
    have hstart : Safe (proxmox template located) (Permitted p.firewall template opts.nics)
        (fun _ _ s ↦ s.Sandboxed p.firewall) (startClone opts) log s := by
      unfold startClone
      split_ifs
      · exact safe_startInternal hready
      · exact hready.sandboxed
    apply hstart.bind
    intro _ log s hsandboxed
    exact hsandboxed

theorem safe_start {vm : VM} (hfirewall : p.firewall.enabled) :
    Safe (proxmox template located) (Permitted p.firewall s.nets [])
      (fun _ _ s ↦ s.Sandboxed p.firewall) (start p vm) log s := by
  simp only [start, safe_bind, safe_ask]
  refine ⟨True.intro, True.intro, ?_⟩
  rw [verifySandbox, if_pos hfirewall, safe_mapError]
  apply safe_ensureFirewall.mono
  intro _ log s' hready
  exact safe_startInternal hready

variable {outcomes : List (Outcome Fault)}

theorem sandboxed_of_configureClone {s' : Machine} (hfirewall : p.firewall.enabled)
    (h : (configureClone p opts node s.nets).exec (proxmox template located) s outcomes =
      (s', some (.ok ()))) :
    s'.Sandboxed p.firewall := by
  have hsafe : Safe (proxmox template located) (Permitted p.firewall s.nets opts.nics)
      (fun _ ↦ Ready p.firewall s.nets opts.nics) (configureClone p opts node s.nets) [] s :=
    safe_configureClone hfirewall rfl
  obtain ⟨log, hready⟩ := hsafe.post_of_exec h
  exact hready.sandboxed

theorem sandboxed_of_start {vm : VM} {s' : Machine} (hfirewall : p.firewall.enabled)
    (h : (start p vm).exec (proxmox template located) s outcomes = (s', some (.ok ()))) :
    s'.Sandboxed p.firewall := by
  have hsafe : Safe (proxmox template located) (Permitted p.firewall s.nets [])
      (fun _ _ s ↦ s.Sandboxed p.firewall) (start p vm) [] s := safe_start hfirewall
  obtain ⟨log, hsandboxed⟩ := hsafe.post_of_exec h
  exact hsandboxed

end Specs

/-! ## Power-on -/

/-- The two calls of the provisioner that power a VM on. -/
inductive Operation
  | clone (opts : CloneOptions)
  | start (vm : VM)

namespace Operation

def script (p : CloneConfig) : Operation → Api Unit
  | .clone opts => do
    let _ ← Provisioner.clone p opts
    return ()
  | .start vm => Provisioner.start p vm

/-- The NICs that the VM has before the call changes them. -/
def origin (template : Nets) (s : Machine) : Operation → Nets
  | .clone _ => template
  | .start _ => s.nets

def overrides : Operation → List CloneNIC
  | .clone opts => opts.nics
  | .start _ => []

end Operation

/-- With the firewall on, whichever calls fail: when `Clone` or `Start` powers a VM on, it has attached
the security group or found it attached, has enabled the firewall after that, and every NIC is on the
firewall with its other attributes as they were or as the override says (`Ready`); and neither enables
the firewall before the group is attached. -/
theorem power_on_only_sandboxed (p : CloneConfig) (hfirewall : p.firewall.enabled = true) (template : Nets)
    (located : VMID → String) (op : Operation) (s : Machine) (outcomes : List (Outcome Fault))
    (before after : Log) (m : Moment Machine Request)
    (htrace : (op.script p).trace (proxmox template located) s outcomes = before ++ m :: after) :
    Permitted p.firewall (op.origin template s) op.overrides before m.state m.request := by
  cases op with
  | clone opts =>
    have hsafe : Safe (proxmox template located) (Permitted p.firewall template opts.nics)
        (fun _ _ _ ↦ True) ((Operation.clone opts).script p) [] s :=
      (safe_clone hfirewall).bind fun _ _ _ _ ↦ True.intro
    exact hsafe.permitted_of_trace htrace
  | start vm =>
    have hsafe : Safe (proxmox template located) (Permitted p.firewall s.nets [])
        (fun _ _ s ↦ s.Sandboxed p.firewall) (start p vm) [] s := safe_start hfirewall
    exact hsafe.permitted_of_trace htrace

/-- A provisioner with the firewall on. -/
def fencedCI : CloneConfig where
  scaleSetName := "ci"
  templateVMID := 9000
  templateNode := "pve1"
  firewall := { enabled := true, securityGroup := "runners" }

/-- Two NICs, one with the flag off. -/
def twoNICs : Nets :=
  Table.put (Table.put .empty { index := 0, value := "virtio=BC:24:11:00:00:01,bridge=vmbr0" })
    { index := 1, value := "virtio=BC:24:11:00:00:02,bridge=vmbr1,firewall=0,mtu=1400" }

/-- A clone whose first NIC is overridden and which is powered on. -/
def poweredClone : Operation :=
  .clone { newVMID := 10000, node := "pve1", name := "gh-runner-ci-10000", poweredOn := true
           nics := [{ bridge := "vmbr2", vlanTag := 42 }] }

/-- The clone is powered on with both NICs on the firewall. -/
theorem power_on_only_sandboxed_poweredClone :
    ∃ m ∈ (poweredClone.script fencedCI).trace (proxmox twoNICs fun _ ↦ "pve1") {}
        (List.replicate 11 .ok),
      m.request = .start ∧ m.state.Sandboxed fencedCI.firewall := by
  have hstart : ((poweredClone.script fencedCI).trace (proxmox twoNICs fun _ ↦ "pve1") {}
      (List.replicate 11 .ok)).any (·.request = .start) = true := by decide +kernel
  obtain ⟨m, hm, hrequest⟩ := List.any_eq_true.mp hstart
  obtain ⟨before, after, htrace⟩ := List.append_of_mem hm
  have hpermitted := power_on_only_sandboxed fencedCI rfl twoNICs (fun _ ↦ "pve1") poweredClone {}
    (List.replicate 11 .ok) before after m htrace
  rw [of_decide_eq_true hrequest] at hpermitted
  exact ⟨m, hm, of_decide_eq_true hrequest, hpermitted.sandboxed⟩

end ScalesetProxmox.Provisioner
