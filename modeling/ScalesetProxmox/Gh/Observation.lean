import ScalesetProxmox.Gh.Reconciler

/-!
# What the orphan sweep has seen before it destroys

`sweepProxmoxOrphans` destroys a VM without a row once the grace has passed since it was first seen. Its
memory is a map of first-seen times that lives as long as the process, so the decision of one call rests
on the whole sequence of calls before it.

A tracked VM is forgotten when it gets a row and when its removal succeeds. It is not forgotten when it is
no longer listed: a VM that disappears and comes back under the same VMID is met with the old time.
`destroys_after_observation` is what holds for a VM that the listings do not lose sight of.
-/

namespace ScalesetProxmox.Gh

open Store (VMID Time minute)

/-! ## One sweep -/

section Sweep

variable {κ α : Type} [DecidableEq κ] {key : α → κ} {known : κ → Bool} {gone : α → Bool}
  {grace now : Time}

variable {sweep : Sweep κ α} {first : Time}

theorem lookup_sweepOrphan {candidate : α} {k : κ}
    (h : (sweepOrphan key known gone grace now sweep candidate).firstSeen.lookup k = some first) :
    sweep.firstSeen.lookup k = some first ∨ first = now ∧ key candidate = k ∧ known k = false := by
  unfold sweepOrphan at h
  by_cases hkey : k = key candidate
  · subst hkey
    repeat' split at h
    all_goals simp_all
  · repeat' split at h
    all_goals simp_all [AList.lookup_insert_ne, AList.lookup_erase_ne]

theorem mem_asked_sweepOrphan {candidate other : α}
    (h : other ∈ (sweepOrphan key known gone grace now sweep candidate).asked) :
    other ∈ sweep.asked ∨ other = candidate ∧ known (key candidate) = false ∧
      ∃ first, sweep.firstSeen.lookup (key candidate) = some first ∧ grace ≤ now - first := by
  unfold sweepOrphan at h
  repeat' split at h
  all_goals grind

/-- A time that a sweep leaves was there before it, or is its own and from a candidate without a row. -/
theorem lookup_sweepOrphans {candidates : List α} {k : κ}
    (h : (candidates.foldl (sweepOrphan key known gone grace now) sweep).firstSeen.lookup k = some first) :
    sweep.firstSeen.lookup k = some first ∨
      first = now ∧ (∃ candidate ∈ candidates, key candidate = k) ∧ known k = false := by
  induction candidates generalizing sweep with
  | nil => exact .inl h
  | cons candidate rest ih =>
    rcases ih h with hlater | ⟨hnow, ⟨other, hother, hkey⟩, hunknown⟩
    · rcases lookup_sweepOrphan hlater with hbefore | ⟨hnow, hkey, hunknown⟩
      · exact .inl hbefore
      · exact .inr ⟨hnow, ⟨candidate, List.mem_cons_self, hkey⟩, hunknown⟩
    · exact .inr ⟨hnow, ⟨other, List.mem_cons_of_mem _ hother, hkey⟩, hunknown⟩

/-- What a sweep with a positive grace removes was tracked before it, for the whole grace. -/
theorem mem_asked_sweepOrphans (hgrace : 0 < grace) {candidates : List α} {asked : α}
    (h : asked ∈ (candidates.foldl (sweepOrphan key known gone grace now) sweep).asked) :
    asked ∈ sweep.asked ∨ asked ∈ candidates ∧ known (key asked) = false ∧
      ∃ first, sweep.firstSeen.lookup (key asked) = some first ∧ grace ≤ now - first := by
  induction candidates generalizing sweep with
  | nil => exact .inl h
  | cons candidate rest ih =>
    rcases ih h with hlater | ⟨hmem, hunknown, first, hfirst, hold⟩
    · rcases mem_asked_sweepOrphan hlater with hbefore | ⟨rfl, hunknown, hold⟩
      · exact .inl hbefore
      · exact .inr ⟨List.mem_cons_self, hunknown, hold⟩
    · rcases lookup_sweepOrphan hfirst with hbefore | ⟨hnow, _⟩
      · exact .inr ⟨List.mem_cons_of_mem _ hmem, hunknown, first, hbefore, hold⟩
      · -- a candidate that this sweep began to track has no age yet
        subst hnow
        rw [Int.sub_self] at hold
        exact absurd hgrace (not_lt.mpr hold)

theorem lookup_prune {keep : κ → Bool} {firstSeen : FirstSeen κ} {k : κ}
    (h : (firstSeen.prune keep).lookup k = some first) :
    firstSeen.lookup k = some first ∧ keep k = true := by
  have hentry : Sigma.mk k first ∈ firstSeen.entries.filter fun entry ↦ keep entry.1 :=
    AList.mem_lookup_iff.mp h
  rw [List.mem_filter] at hentry
  exact ⟨AList.mem_lookup_iff.mpr hentry.1, hentry.2⟩

end Sweep

/-! ## Sequences of calls -/

/-- One call of `sweepProxmoxOrphans`: the rows it is handed and what it reads from outside. -/
structure SweepCall where
  rows : List RowSnapshot
  pass : Pass

namespace SweepCall

def now (call : SweepCall) : Time := call.pass.vmsNow

/-- `ListOwnedVMs` answered. A call without an answer does nothing. -/
def Successful (call : SweepCall) : Prop := call.pass.ownedVMs.isSome = true

def Lists (call : SweepCall) (v : VMID) : Prop :=
  ∃ vm ∈ call.pass.ownedVMs.getD [], vm.vmid = v

/-- Proxmox lists the VM and the store has no row for it. -/
def Orphaned (call : SweepCall) (v : VMID) : Prop := call.Lists v ∧ knownVMID call.rows v = false

def sweep (cfg : Config) (firstSeen : FirstSeen VMID) (call : SweepCall) : Sweep VMID OwnedVM :=
  sweepProxmoxOrphans cfg call.pass call.rows firstSeen

instance (call : SweepCall) : Decidable call.Successful := inferInstanceAs (Decidable (_ = true))

instance (call : SweepCall) (v : VMID) : Decidable (call.Lists v) :=
  inferInstanceAs (Decidable (∃ vm ∈ call.pass.ownedVMs.getD [], vm.vmid = v))

instance (call : SweepCall) (v : VMID) : Decidable (call.Orphaned v) := inferInstanceAs (Decidable (_ ∧ _))

/-- What a call leaves tracked was tracked before, or is its own; after an answer, it has no row. -/
theorem lookup_sweep {cfg : Config} {firstSeen : FirstSeen VMID} {call : SweepCall} {v : VMID}
    {first : Time} (h : (call.sweep cfg firstSeen).firstSeen.lookup v = some first) :
    (firstSeen.lookup v = some first ∨ first = call.now ∧ call.Lists v) ∧
      (call.Successful → knownVMID call.rows v = false) := by
  unfold sweep sweepProxmoxOrphans at h
  split at h
  next hvms => exact ⟨.inl h, fun hsuccessful ↦ absurd hsuccessful (by simp [Successful, hvms])⟩
  next vms hvms =>
    rcases lookup_sweepOrphans h with hbefore | ⟨hnow, ⟨vm, hvm, hkey⟩, hunknown⟩
    · obtain ⟨hbefore, hunknown⟩ := lookup_prune hbefore
      exact ⟨.inl hbefore, fun _ ↦ by simpa using hunknown⟩
    · refine ⟨.inr ⟨hnow, vm, ?_, hkey⟩, fun _ ↦ hunknown⟩
      rw [hvms]
      exact hvm

/-- What a call destroys is listed without a row, and tracked for the whole grace. -/
theorem mem_asked_sweep {cfg : Config} (hgrace : 0 < cfg.orphanGrace) {firstSeen : FirstSeen VMID}
    {call : SweepCall} {vm : OwnedVM} (h : vm ∈ (call.sweep cfg firstSeen).asked) :
    call.Orphaned vm.vmid ∧
      ∃ first, firstSeen.lookup vm.vmid = some first ∧ cfg.orphanGrace ≤ call.now - first := by
  unfold sweep sweepProxmoxOrphans at h
  split at h
  next => simp at h
  next vms hvms =>
    rcases mem_asked_sweepOrphans hgrace h with hnone | ⟨hmem, hunknown, first, hfirst, hold⟩
    · simp at hnone
    · refine ⟨⟨⟨vm, ?_, rfl⟩, hunknown⟩, first, (lookup_prune hfirst).1, hold⟩
      rw [hvms]
      exact hmem

end SweepCall

/-- The first-seen times after the calls, from a new process on. -/
def tracking (cfg : Config) (calls : List SweepCall) : FirstSeen VMID :=
  calls.foldl (fun firstSeen call ↦ (call.sweep cfg firstSeen).firstSeen) ∅

/-- The VMs that the call destroys after the calls before it. -/
def destroys (cfg : Config) (earlier : List SweepCall) (call : SweepCall) : List OwnedVM :=
  (call.sweep cfg (tracking cfg earlier)).asked

/-- An earlier call lies the whole grace back, and from it to this one every call that could list the VMs
listed this one and had no row for it. -/
def Observed (cfg : Config) (earlier : List SweepCall) (call : SweepCall) (v : VMID) : Prop :=
  ∃ before first since, earlier = before ++ first :: since ∧
    cfg.orphanGrace ≤ call.now - first.now ∧ first.Successful ∧
    ∀ seen ∈ first :: since ++ [call], seen.Successful → seen.Orphaned v

/-- No call that could list the VMs finds this one tracked and neither lists it nor has a row for it. -/
def InSight (cfg : Config) (calls : List SweepCall) (v : VMID) : Prop :=
  ∀ earlier call later, calls = earlier ++ call :: later → call.Successful → v ∈ tracking cfg earlier →
    call.Lists v ∨ knownVMID call.rows v = true

theorem tracking_append (cfg : Config) (calls : List SweepCall) (call : SweepCall) :
    tracking cfg (calls ++ [call]) = (call.sweep cfg (tracking cfg calls)).firstSeen := by
  unfold tracking
  rw [List.foldl_append]
  rfl

theorem InSight.left {cfg : Config} {first second : List SweepCall} {v : VMID}
    (h : InSight cfg (first ++ second) v) : InSight cfg first v := by
  intro earlier call later heq
  apply h earlier call (later ++ second)
  rw [heq, List.append_assoc, List.cons_append]

theorem orphaned_since {cfg : Config} {calls : List SweepCall} {v : VMID} {time : Time}
    (hsight : InSight cfg calls v) (h : (tracking cfg calls).lookup v = some time) :
    ∃ before first since, calls = before ++ first :: since ∧ first.now = time ∧ first.Successful ∧
      ∀ seen ∈ first :: since, seen.Successful → seen.Orphaned v := by
  -- by the last call: it goes on with an older time, or it is the one that the time is from
  induction calls using List.reverseRecOn with
  | nil => simp [tracking] at h
  | append_singleton calls call ih =>
    rw [tracking_append] at h
    obtain ⟨hold | ⟨rfl, hlists⟩, hunknown⟩ := SweepCall.lookup_sweep h
    · obtain ⟨before, first, since, rfl, hnow, hfirst, hall⟩ := ih hsight.left hold
      refine ⟨before, first, since ++ [call], by simp, hnow, hfirst, ?_⟩
      intro seen hseen hsuccessful
      rw [← List.cons_append, List.mem_append, List.mem_singleton] at hseen
      rcases hseen with hseen | rfl
      · exact hall seen hseen hsuccessful
      · have htracked : v ∈ tracking cfg (before ++ first :: since) := by
          rw [← AList.lookup_isSome, hold]
          rfl
        have hknown := hunknown hsuccessful
        rcases hsight _ _ [] rfl hsuccessful htracked with hlists | hrow
        · exact ⟨hlists, hknown⟩
        · rw [hknown] at hrow
          cases hrow
    · have hsuccessful : call.Successful := by
        obtain ⟨vm, hvm, _⟩ := hlists
        unfold SweepCall.Successful
        cases hvms : call.pass.ownedVMs with
        | none => simp [hvms] at hvm
        | some vms => rfl
      refine ⟨calls, call, [], rfl, rfl, hsuccessful, ?_⟩
      intro seen hseen _
      rw [List.mem_singleton] at hseen
      subst hseen
      exact ⟨hlists, hunknown hsuccessful⟩

/-- A VM that the listings do not lose sight of while it is tracked is destroyed only after it was
listed without a row at every answer for the whole grace. -/
theorem destroys_after_observation {cfg : Config} (hgrace : 0 < cfg.orphanGrace)
    {earlier : List SweepCall} {call : SweepCall} {vm : OwnedVM} (hsight : InSight cfg earlier vm.vmid)
    (h : vm ∈ destroys cfg earlier call) : Observed cfg earlier call vm.vmid := by
  obtain ⟨horphaned, time, htime, hold⟩ := SweepCall.mem_asked_sweep hgrace h
  obtain ⟨before, first, since, rfl, rfl, hfirst, hall⟩ := orphaned_since hsight htime
  refine ⟨before, first, since, rfl, hold, hfirst, ?_⟩
  intro seen hseen hsuccessful
  rw [List.mem_append, List.mem_singleton] at hseen
  rcases hseen with hseen | rfl
  · exact hall seen hseen hsuccessful
  · exact horphaned

/-! ### A VM seen twice -/

def sweepAt (now : Time) (ownedVMs : Option (List OwnedVM)) : SweepCall where
  rows := []
  pass := { crowdedPass with vmsNow := now, ownedVMs := ownedVMs }

/-- The VM is listed, then a listing fails, then it is still there. -/
def steadyCalls : List SweepCall := [sweepAt 0 (some [⟨10000, "pve1"⟩]), sweepAt (minute / 2) none]

theorem destroys_after_observation_steady :
    ⟨10000, "pve1"⟩ ∈ destroys ciConfig steadyCalls (sweepAt minute (some [⟨10000, "pve1"⟩])) ∧
      Observed ciConfig steadyCalls (sweepAt minute (some [⟨10000, "pve1"⟩])) 10000 := by
  have hdestroys :
      ⟨10000, "pve1"⟩ ∈ destroys ciConfig steadyCalls (sweepAt minute (some [⟨10000, "pve1"⟩])) := by
    decide
  have hlists : ∀ call ∈ steadyCalls, call.Successful → call.Lists 10000 := by decide
  refine ⟨hdestroys, destroys_after_observation (by decide) ?_ hdestroys⟩
  intro earlier call later heq hsuccessful _
  exact .inl (hlists call (heq ▸ by simp) hsuccessful)

/-- The VM is listed, and half a minute later it is not. -/
def flickeringCalls : List SweepCall :=
  [sweepAt 0 (some [⟨10000, "pve1"⟩]), sweepAt (minute / 2) (some [])]

/-- A VM that is listed under the same VMID again is destroyed at once, for the time of the one before. -/
theorem flickering_destroyed_unobserved :
    ⟨10000, "pve1"⟩ ∈ destroys ciConfig flickeringCalls (sweepAt minute (some [⟨10000, "pve1"⟩])) ∧
      ¬Observed ciConfig flickeringCalls (sweepAt minute (some [⟨10000, "pve1"⟩])) 10000 := by
  refine ⟨by decide, ?_⟩
  rintro ⟨before, first, since, heq, hold, _, hall⟩
  -- the middle call answered without the VM, whichever call the observation starts from
  have hmiddle : sweepAt (minute / 2) (some []) ∈ first :: since := by
    have hlast : flickeringCalls.getLast? = some (sweepAt (minute / 2) (some [])) := rfl
    rw [heq, List.getLast?_append_cons] at hlast
    exact List.mem_of_getLast? hlast
  have horphaned := hall _ (List.mem_append_left _ hmiddle) (by decide)
  revert horphaned
  decide

end ScalesetProxmox.Gh
