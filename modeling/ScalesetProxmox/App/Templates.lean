import ScalesetProxmox.Config.Profiles
import ScalesetProxmox.Canary.Controller
import ScalesetProxmox.Pool.System

/-!
# Templates and the allocators

Which template a clone is made from, from the configuration to the provisioner's call, and which
VMIDs the allocators draw from. The loader compares one template with one range: the global template
with the global range. A scale set may declare a range of its own, and a profile may name a template
and a candidate; `templates_unallocatable_iff` is what an operator has to see to for these.
-/

namespace ScalesetProxmox.App

open Store (VMID)
open ScalesetProxmox.Configuration
open Provisioner (entryVMIDRange)

/-- A positive override wins over the global template. -/
def resolveTemplateVMID (override : ℤ) (default : VMID) : VMID :=
  if 0 < override then override.toNat else default

/-- The controller of a scale set's profiles; a profile without a template starts from the global
one. -/
def canaryControllerForScaleset (entry : ScaleSetEntry) (defaultTemplateVMID : VMID) :
    Except String Canary.Controller :=
  Canary.new (entry.profiles.map fun p : ProfileConfig ↦
    { name := p.name
      stableTemplateVMID := if p.templateVMID = 0 then (defaultTemplateVMID : ℤ) else p.templateVMID
      candidateTemplateVMID := p.canaryTemplateVMID
      percent := p.canaryPercent
      maxFailureRate := p.canaryMaxFailureRate })

/-- The override that `allocateVMIDAndInsertRow` chooses for a clone of profile `p`. -/
def pickTemplate (p : ProfileConfig) (canary : Option Canary.Controller) (v : VMID) : ℤ :=
  match canary.bind (·.pick p.name v) with
  | some result => if 0 < result.templateVMID then result.templateVMID else p.templateVMID
  | none => p.templateVMID

def cloneTemplate (cfg : Config) (p : ProfileConfig) (canary : Option Canary.Controller) (v : VMID) :
    VMID :=
  resolveTemplateVMID (pickTemplate p canary v) cfg.proxmox.templateVMID

/-- The templates of a configuration: the global one, the overrides and the candidates. -/
def templates (cfg : Config) : List VMID :=
  cfg.proxmox.templateVMID :: cfg.scalesets.flatMap fun entry ↦ entry.profiles.flatMap fun p ↦
    [resolveTemplateVMID p.templateVMID cfg.proxmox.templateVMID,
     resolveTemplateVMID p.canaryTemplateVMID cfg.proxmox.templateVMID]

@[simp]
theorem resolveTemplateVMID_self (default : VMID) : resolveTemplateVMID default default = default := by
  unfold resolveTemplateVMID
  split_ifs
  · exact Int.toNat_natCast default
  · rfl

theorem global_mem_templates (cfg : Config) : cfg.proxmox.templateVMID ∈ templates cfg :=
  List.mem_cons_self

theorem profile_mem_templates {cfg : Config} {entry : ScaleSetEntry} {p : ProfileConfig}
    (hentry : entry ∈ cfg.scalesets) (hp : p ∈ entry.profiles) :
    resolveTemplateVMID p.templateVMID cfg.proxmox.templateVMID ∈ templates cfg ∧
      resolveTemplateVMID p.canaryTemplateVMID cfg.proxmox.templateVMID ∈ templates cfg := by
  constructor <;>
    · refine List.mem_cons_of_mem _ (List.mem_flatMap.mpr ⟨entry, hentry, ?_⟩)
      exact List.mem_flatMap.mpr ⟨p, hp, by simp⟩

/-- A template is the global one, or a positive override or candidate of some profile. -/
theorem mem_templates {cfg : Config} {t : VMID} (h : t ∈ templates cfg) :
    t = cfg.proxmox.templateVMID ∨ ∃ entry ∈ cfg.scalesets, ∃ p ∈ entry.profiles,
      ∃ override ∈ [p.templateVMID, p.canaryTemplateVMID], 0 < override ∧ t = override.toNat := by
  rcases List.mem_cons.mp h with hglobal | hprofile
  · exact .inl hglobal
  obtain ⟨entry, hentry, hprofile⟩ := List.mem_flatMap.mp hprofile
  obtain ⟨p, hp, ht⟩ := List.mem_flatMap.mp hprofile
  have hresolved : ∃ override ∈ [p.templateVMID, p.canaryTemplateVMID],
      t = resolveTemplateVMID override cfg.proxmox.templateVMID := by
    simpa using ht
  obtain ⟨override, hmem, rfl⟩ := hresolved
  by_cases hpos : 0 < override
  · exact .inr ⟨entry, hentry, p, hp, override, hmem, hpos, if_pos hpos⟩
  · exact .inl (if_neg hpos)

/-- Whatever the controller has recorded and promoted, a clone is made from one of the templates. -/
theorem cloneTemplate_mem {cfg : Config} {entry : ScaleSetEntry} {p : ProfileConfig}
    {canary : Option Canary.Controller} (hentry : entry ∈ cfg.scalesets) (hp : p ∈ entry.profiles)
    (hcanary : ∀ c ∈ canary, ∃ new ops,
      canaryControllerForScaleset entry cfg.proxmox.templateVMID = .ok new ∧
        c = List.foldl Canary.Controller.apply new ops)
    (v : VMID) : cloneTemplate cfg p canary v ∈ templates cfg := by
  have hown := (profile_mem_templates hentry hp).1
  unfold cloneTemplate pickTemplate
  cases hpick : canary.bind (·.pick p.name v) with
  | none => exact hown
  | some result =>
    dsimp only
    split_ifs
    · obtain ⟨c, hc, hpick⟩ := Option.bind_eq_some_iff.mp hpick
      obtain ⟨new, ops, hnew, rfl⟩ := hcanary c hc
      -- all that a controller of this scale set knows resolves to a template of the configuration
      have hknows : new.Knows fun override ↦
          resolveTemplateVMID override cfg.proxmox.templateVMID ∈ templates cfg := by
        refine Canary.knows_new ?_ hnew
        intro _ hmapped
        obtain ⟨q, hq, rfl⟩ := List.mem_map.mp hmapped
        refine ⟨?_, (profile_mem_templates hentry hq).2⟩
        dsimp only
        split_ifs
        · rw [resolveTemplateVMID_self]
          exact global_mem_templates cfg
        · exact (profile_mem_templates hentry hq).1
      exact (hknows.run (global_mem_templates cfg) ops).pick hpick
    · exact hown

/-! ## The allocators -/

theorem contains_of_allocateVMID {cfg : Pool.Config} {s : Pool.Shared} {v : VMID}
    (h : Pool.allocateVMID cfg s = some v) : cfg.vmidRange.contains v = true := by
  have hrange := List.mem_of_find?_eq_some h
  rw [List.mem_range'_1] at hrange
  simp only [VMIDRange.contains, decide_eq_true_eq]
  grind

/-- No template lies in the range of a scale set, so that no manager of the scale set allocates it,
whatever its store holds. -/
def TemplatesUnallocatable (cfg : Config) : Prop :=
  ∀ entry ∈ cfg.scalesets, ∀ t ∈ templates cfg,
    (entryVMIDRange entry cfg.proxmox.vmidRange).contains t = false ∧
    ∀ (pool : Pool.Config) (s : Pool.Shared),
      pool.vmidRange = entryVMIDRange entry cfg.proxmox.vmidRange → Pool.allocateVMID pool s ≠ some t

theorem templatesUnallocatable_iff_outside {cfg : Config} :
    TemplatesUnallocatable cfg ↔ ∀ entry ∈ cfg.scalesets, ∀ t ∈ templates cfg,
      (entryVMIDRange entry cfg.proxmox.vmidRange).contains t = false := by
  refine ⟨fun h entry hentry t ht ↦ (h entry hentry t ht).1, fun h entry hentry t ht ↦ ?_⟩
  refine ⟨h entry hentry t ht, fun pool s hpool hallocated ↦ ?_⟩
  have hin := contains_of_allocateVMID hallocated
  rw [hpool, h entry hentry t ht] at hin
  exact Bool.false_ne_true hin

/-- The templates of an accepted configuration cannot be allocated exactly when no range that a scale
set declares holds the global template, and no range that a scale set draws from holds an override or
a candidate. -/
theorem templates_unallocatable_iff {raw : RawConfig} {cfg : Config} (hload : load raw = .ok cfg) :
    TemplatesUnallocatable cfg ↔
      (∀ entry ∈ cfg.scalesets, ∀ range ∈ entry.vmidRange,
        range.contains cfg.proxmox.templateVMID = false) ∧
      ∀ owner ∈ cfg.scalesets, ∀ p ∈ owner.profiles,
        ∀ override ∈ [p.templateVMID, p.canaryTemplateVMID], 0 < override →
          ∀ entry ∈ cfg.scalesets,
            (entryVMIDRange entry cfg.proxmox.vmidRange).contains override.toNat = false := by
  obtain ⟨_, hvalid, _⟩ := load_eq_ok hload
  rw [templatesUnallocatable_iff_outside]
  constructor
  · intro h
    constructor
    · intro entry hentry range hrange
      have houtside := h entry hentry _ (global_mem_templates cfg)
      rwa [entryVMIDRange, Option.mem_def.mp hrange, Option.getD_some] at houtside
    · intro owner howner p hp override hoverride hpos entry hentry
      have hresolved : override.toNat = resolveTemplateVMID override cfg.proxmox.templateVMID :=
        (if_pos hpos).symm
      rw [hresolved]
      refine h entry hentry _ ?_
      obtain ⟨hstable, hcandidate⟩ := profile_mem_templates howner hp
      rcases List.mem_pair.mp hoverride with rfl | rfl
      · exact hstable
      · exact hcandidate
  · rintro ⟨hglobal, hprofiles⟩ entry hentry t ht
    rcases mem_templates ht with rfl | ⟨owner, howner, p, hp, override, hoverride, hpos, rfl⟩
    · -- the loader has checked the range that an entry inherits
      cases hrange : entry.vmidRange with
      | none =>
        rw [entryVMIDRange, hrange, Option.getD_none]
        exact template_outside_of_validate hvalid
      | some range =>
        rw [entryVMIDRange, hrange, Option.getD_some]
        exact hglobal entry hentry range hrange
    · exact hprofiles owner howner p hp override hoverride hpos entry hentry

/-- One scale set that inherits the global range, with a profile of its own template. -/
def profileTemplate (template : ℤ) : RawConfig where
  scalesets :=
    [{ name := "ci", maxConcurrentRunners := 4, scope := { org := "acme" }
       profiles := [{ name := "gpu", templateVMID := template }] }]
  proxmox := { templateVMID := 9000, vmidRange := { min := 10000, max := 10009 } }
  pool := { hotSize := 1, warmSize := 1 }

theorem templates_unallocatable_gpu :
    load (profileTemplate 9100) = .ok (normalizeScalesets (profileTemplate 9100)) ∧
      TemplatesUnallocatable (normalizeScalesets (profileTemplate 9100)) := by
  have hload : load (profileTemplate 9100) = .ok (normalizeScalesets (profileTemplate 9100)) := by
    decide
  exact ⟨hload, (templates_unallocatable_iff hload).mpr (by decide)⟩

/-- A profile template inside the range is accepted, and the first VMID that the allocator hands out
is the template's. -/
theorem profile_template_allocated :
    load (profileTemplate 10000) = .ok (normalizeScalesets (profileTemplate 10000)) ∧
      ¬TemplatesUnallocatable (normalizeScalesets (profileTemplate 10000)) ∧
      10000 ∈ templates (normalizeScalesets (profileTemplate 10000)) ∧
      Pool.allocateVMID Pool.smallPool Pool.freshPool.shared = some 10000 := by
  refine ⟨by decide, ?_, by decide, by decide⟩
  rw [templatesUnallocatable_iff_outside]
  decide

def canaryEntry : ScaleSetEntry where
  name := "ci"
  maxConcurrentRunners := 4
  scope := { org := "acme" }
  profiles := [{ name := "gpu", canaryTemplateVMID := 9200, canaryPercent := 50 }]

def canaryConfig : Config := { normalizeScalesets (profileTemplate 0) with scalesets := [canaryEntry] }

/-- The candidate is promoted and takes over from the global template. -/
theorem cloneTemplate_mem_promoted : ∃ new, canaryControllerForScaleset canaryEntry 9000 = .ok new ∧
    ∃ p ∈ canaryEntry.profiles, cloneTemplate canaryConfig p
      (some ([.promote "gpu"].foldl Canary.Controller.apply new)) 10000 ∈ templates canaryConfig := by
  refine ⟨_, rfl, _, List.mem_cons_self, ?_⟩
  refine cloneTemplate_mem (List.mem_singleton_self canaryEntry) List.mem_cons_self (fun c hc ↦ ?_) 10000
  exact ⟨_, [.promote "gpu"], rfl, (Option.mem_some.mp hc).symm⟩

end ScalesetProxmox.App
