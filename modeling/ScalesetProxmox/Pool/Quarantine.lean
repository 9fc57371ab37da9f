import ScalesetProxmox.Pool.Outcomes

/-!
# Quarantine of VMs that do not boot

`markPoisonOrDestroy` counts the failed boots of a row in `BootAttempts` and compares the count with
the profile's threshold. A row that has reached it becomes Poison and is kept for the operator. A row
that has not is not given another boot: it becomes Destroying, and its guest is destroyed. A new clone
starts at zero, so a threshold of two or more is never reached: `quarantine_iff`.

`Watched` is the pool with a count, kept beside it, of the failed boots of every VMID's current row.
-/

namespace ScalesetProxmox.Pool

open Store (VMID Time)
open Transition

variable {cfg : Config} {s s' : Shared} {sys sys' : Sys} {act : Act} {task : Task} {reply : Reply}
  {v : VMID} {now : Time} {old new row : Store.VM}

/-! ## What counts boots -/

def Task.countsBoot : Task → Option Boot
  | .poisonInc boot => some boot
  | _ => none

theorem rowStep_bootAttempts (h : (task.action cfg reply).RowStep now v (some old) (some new)) :
    (task.countsBoot = none ∧ new.bootAttempts = old.bootAttempts) ∨
      ∃ boot, task = .poisonInc boot ∧ boot.row.vmid = v ∧ new.bootAttempts = old.bootAttempts + 1 := by
  cases task with
  | poisonInc boot =>
    obtain ⟨hvmid, row, hrow, hnew⟩ := h
    cases hrow
    cases hnew
    exact .inr ⟨boot, rfl, hvmid, rfl⟩
  | _ =>
    refine .inl ⟨rfl, ?_⟩
    revert h
    dsimp
    (repeat' split) <;> simp +contextual [Action.RowStep, Store.VM.moved, Store.VM.assignedTo]

def Task.AdoptsUnbooted : Task → Prop
  | .adoptInsert row _ _ _ => row.bootAttempts = 0 ∧ row.template = ""
  | _ => True

theorem adoptsUnbooted_next : (task.action cfg reply).Next cfg s s' (List.Forall Task.AdoptsUnbooted) := by
  refine next_of_parts [.adopt] (fun other hother ↦ ?_) fun hpart ↦ ?_
  · cases other <;> trivial
  cases task with
  | adopt | adoptScan | adoptRunners | adoptLoop | adoptInsert =>
    dsimp
    (repeat' split) <;> dsimp [Action.Next] <;>
      (repeat' first | split | apply And.intro | intro _) <;>
      trivial
  | _ => cases hpart

theorem adoptsUnbooted_of_callable (h : callable s task) : task.AdoptsUnbooted := by
  cases task <;> trivial

theorem adoptsUnbooted_step (hstep : step cfg sys act = some sys')
    (h : ∀ task ∈ sys.threads, task.AdoptsUnbooted) : ∀ task ∈ sys'.threads, task.AdoptsUnbooted :=
  step_threads hstep h (fun _ _ _ _ ↦ adoptsUnbooted_next) (fun _ _ h ↦ h)
    (fun _ ↦ adoptsUnbooted_of_callable) (fun _ _ ↦ trivial) trivial

theorem bootAttempts_of_inserted (hadopts : task.AdoptsUnbooted)
    (h : (task.action cfg reply).RowStep now v none (some row)) : row.bootAttempts = 0 := by
  obtain ⟨adopted, hinserts⟩ := inserts_of_rowStep h
  cases task with
  | cloneInsert =>
    obtain ⟨rfl, _, hstamped⟩ := h
    cases hstamped
    rfl
  | adoptInsert =>
    obtain ⟨rfl, _, hstamped⟩ := h
    cases hstamped
    exact hadopts.1
  | _ => cases hinserts

/-! ## The pool with its failed boots counted -/

def failedBoot (v : VMID) (sys : Sys) (act : Act) : Option Boot :=
  ((moving sys act).bind Task.countsBoot).filter fun boot ↦
    boot.row.vmid = v ∧ (sys.shared.store.get v).isSome = true

structure Watched where
  sys : Sys
  /-- How many boots of the VM of each VMID's row have failed. -/
  failed : VMID → ℕ := fun _ ↦ 0

def watch (cfg : Config) (w : Watched) (act : Act) : Option Watched :=
  (step cfg w.sys act).map fun sys ↦
    { sys := sys
      failed := fun v ↦
        if (w.sys.shared.store.get v).isNone && (sys.shared.store.get v).isSome then 0
        else if (failedBoot v w.sys act).isSome then w.failed v + 1
        else w.failed v }

theorem failedBoot_eq_some {boot : Boot} :
    failedBoot v sys act = some boot ↔ moving sys act = some (.poisonInc boot) ∧ boot.row.vmid = v ∧
      (sys.shared.store.get v).isSome = true := by
  rw [failedBoot, Option.filter_eq_some_iff, Option.bind_eq_some_iff]
  constructor
  · rintro ⟨⟨task, hmoving, hcounts⟩, hfilter⟩
    cases task with
    | poisonInc other =>
      cases hcounts
      exact ⟨hmoving, of_decide_eq_true hfilter⟩
    | _ => cases hcounts
  · rintro ⟨hmoving, hfilter⟩
    exact ⟨⟨_, hmoving, rfl⟩, decide_eq_true hfilter⟩

theorem failedBoot_eq_none_of_countsBoot (hmoving : moving sys act = some task)
    (h : task.countsBoot = none) : failedBoot v sys act = none := by
  rw [failedBoot, hmoving, Option.bind_some, h, Option.filter_none]

/-- The row's own count agrees with the one kept beside the pool. -/
structure Counted (w : Watched) : Prop where
  adopts : ∀ task ∈ w.sys.threads, task.AdoptsUnbooted
  rows : ∀ v row, w.sys.shared.store.get v = some row → row.bootAttempts = w.failed v

theorem counted_init (cluster : Provisioner.Cluster) (runners : Gh.Runners) (now : Time) :
    Counted { sys := init cluster runners now } where
  adopts := by simp [init, Task.AdoptsUnbooted]
  rows v row hrow := by cases (Table.get_empty v).symm.trans hrow

variable {w w' : Watched}

theorem watch_eq_some (h : watch cfg w act = some w') :
    step cfg w.sys act = some w'.sys ∧ ∀ v, w'.failed v =
      if (w.sys.shared.store.get v).isNone && (w'.sys.shared.store.get v).isSome then 0
      else if (failedBoot v w.sys act).isSome then w.failed v + 1
      else w.failed v := by
  obtain ⟨sys, hstep, rfl⟩ := Option.map_eq_some_iff.mp h
  exact ⟨hstep, fun _ ↦ rfl⟩

/-- The count of a failed boot goes through, and the worker goes on to quarantine or to destroy. -/
theorem step_poisonInc {boot : Boot} (hstep : step cfg sys act = some sys')
    (hmoving : moving sys act = some (.poisonInc boot))
    (hold : sys.shared.store.get boot.row.vmid = some old) :
    sys'.shared.store.get boot.row.vmid =
        some { old with bootAttempts := old.bootAttempts + 1, updatedAt := sys.shared.now } ∧
      if bootThreshold cfg boot.row.profile ≤ old.bootAttempts + 1 then .poisonMark boot ∈ sys'.threads
      else ∃ request, .poisonDestroying boot request ∈ sys'.threads := by
  obtain ⟨hrow, hnext⟩ := step_update hstep hmoving (fun _ ↦ rfl) hold (by simp [Store.enforceImmutable])
  refine ⟨hrow, ?_⟩
  dsimp only at hnext
  split_ifs at hnext ⊢
  · exact hnext _ List.mem_cons_self
  · exact ⟨_, hnext _ List.mem_cons_self⟩

theorem Counted.step (hinv : Counted w) (h : watch cfg w act = some w') : Counted w' := by
  obtain ⟨hstep, hfailed⟩ := watch_eq_some h
  refine ⟨adoptsUnbooted_step hstep hinv.adopts, fun v row hrow ↦ ?_⟩
  rw [hfailed]
  rcases step_row_some hstep hrow with hsame | ⟨reply, task, hmoving, ⟨old, hold, hmoved⟩ | ⟨hnone, hinserted⟩⟩
  · -- the row is untouched, so the step has not counted one of its boots
    have hnot : failedBoot v w.sys act = none := by
      rw [Option.eq_none_iff_forall_not_mem]
      intro boot hboot
      obtain ⟨hmoving, rfl, -⟩ := failedBoot_eq_some.mp hboot
      have hcounted := (step_poisonInc hstep hmoving hsame).1
      rw [hrow, Option.some.injEq] at hcounted
      have hattempts := congrArg Store.VM.bootAttempts hcounted
      dsimp only at hattempts
      omega
    simp [hsame, hnot, hinv.rows v row hsame]
  · rcases rowStep_bootAttempts hmoved with ⟨hcounts, hattempts⟩ | ⟨boot, rfl, hvmid, hattempts⟩
    · rw [failedBoot_eq_none_of_countsBoot hmoving hcounts, hattempts, hinv.rows v old hold]
      simp [hold]
    · rw [failedBoot_eq_some.mpr ⟨hmoving, hvmid, by simp [hold]⟩, hattempts, hinv.rows v old hold]
      simp [hold]
  · rw [bootAttempts_of_inserted (hinv.adopts task (mem_threads_of_moving hmoving)) hinserted]
    simp [hnone, hrow]

/-! ## Where a failed boot leads -/

/-- The step does with a failed boot of the VM of `v` what the threshold asks for: the VM is not
destroyed for it before the threshold, goes into quarantine at it, and quarantine makes it Poison. -/
structure Quarantines (cfg : Config) (v : VMID) (w : Watched) (act : Act) (w' : Watched) : Prop where
  spared : ∀ boot ∈ failedBoot v w.sys act, w.failed v + 1 < bootThreshold cfg boot.row.profile →
    ∀ request, .poisonDestroying boot request ∉ w'.sys.threads
  poisoned : ∀ boot ∈ failedBoot v w.sys act, w.failed v + 1 = bootThreshold cfg boot.row.profile →
    .poisonMark boot ∈ w'.sys.threads
  marked : ∀ boot, moving w.sys act = some (.poisonMark boot) → boot.row.vmid = v →
    ∀ row, w'.sys.shared.store.get v = some row → row.state = .poison

theorem poison_of_poisonMark {boot : Boot} (hstep : step cfg sys act = some sys')
    (hmoving : moving sys act = some (.poisonMark boot))
    (hrow : sys'.shared.store.get boot.row.vmid = some row) : row.state = .poison := by
  cases hold : sys.shared.store.get boot.row.vmid with
  | some old =>
    have hwritten := (step_update hstep hmoving (fun _ ↦ rfl) hold (by simp [Store.enforceImmutable])).1
    rw [hrow, Option.some.injEq] at hwritten
    rw [hwritten]
    rfl
  | none =>
    obtain ⟨task, adopted, hinserting, hinserts⟩ := step_inserts hstep hold hrow
    rw [hmoving, Option.some.injEq] at hinserting
    subst hinserting
    cases hinserts

theorem quarantines_iff (hinv : Counted w) (h : watch cfg w act = some w') :
    Quarantines cfg v w act w' ↔
      ∀ boot ∈ failedBoot v w.sys act, bootThreshold cfg boot.row.profile ≤ w.failed v + 1 := by
  obtain ⟨hstep, -⟩ := watch_eq_some h
  have hleads : ∀ boot ∈ failedBoot v w.sys act,
      if bootThreshold cfg boot.row.profile ≤ w.failed v + 1 then .poisonMark boot ∈ w'.sys.threads
      else ∃ request, .poisonDestroying boot request ∈ w'.sys.threads := by
    intro boot hboot
    obtain ⟨hmoving, rfl, hsome⟩ := failedBoot_eq_some.mp hboot
    obtain ⟨old, hold⟩ := Option.isSome_iff_exists.mp hsome
    have hnext := (step_poisonInc hstep hmoving hold).2
    rwa [hinv.rows _ old hold] at hnext
  constructor
  · intro hquarantines boot hboot
    by_contra hbelow
    have hdestroys := hleads boot hboot
    rw [if_neg hbelow] at hdestroys
    obtain ⟨request, hmem⟩ := hdestroys
    exact hquarantines.spared boot hboot (not_le.mp hbelow) request hmem
  · intro hreached
    refine ⟨fun boot hboot hbelow ↦ ?_, fun boot hboot _ ↦ ?_, fun boot hmoving hvmid row hrow ↦ ?_⟩
    · exact absurd hbelow (hreached boot hboot).not_gt
    · have hmarks := hleads boot hboot
      rwa [if_pos (hreached boot hboot)] at hmarks
    · subst hvmid
      exact poison_of_poisonMark hstep hmoving hrow

/-- A VM whose threshold is `threshold` is destroyed for none of its earlier failed boots and goes into
quarantine at that one exactly if the threshold is one, or none of its boots fails. -/
theorem quarantine_iff {cluster : Provisioner.Cluster} {runners : Gh.Runners} {now : Time}
    {threshold : ℕ} {acts : List Act} (hpositive : 1 ≤ threshold)
    (hthreshold : Along (watch cfg) (fun w act _ ↦
      ∀ boot ∈ failedBoot v w.sys act, bootThreshold cfg boot.row.profile = threshold)
      { sys := init cluster runners now } acts) :
    Along (watch cfg) (Quarantines cfg v) { sys := init cluster runners now } acts ↔
      threshold = 1 ∨ Along (watch cfg) (fun w act _ ↦ failedBoot v w.sys act = none)
        { sys := init cluster runners now } acts := by
  have hcounted := counted_init cluster runners now
  constructor
  · intro hquarantines
    by_cases hone : threshold = 1
    · exact .inl hone
    · -- the first boot to fail finds a count of zero
      refine .inr (along_of_invariant (fun w ↦ Counted w ∧ w.failed v = 0) ?_ ⟨hcounted, rfl⟩
        (along_and.mpr ⟨hthreshold, hquarantines⟩))
      rintro w act w' ⟨hinv, hzero⟩ ⟨hsame, hquarantine⟩ h
      have hnone : failedBoot v w.sys act = none := by
        rw [Option.eq_none_iff_forall_not_mem]
        intro boot hboot
        have hreached := (quarantines_iff hinv h).mp hquarantine boot hboot
        rw [hsame boot hboot, hzero] at hreached
        omega
      refine ⟨hnone, hinv.step h, ?_⟩
      rw [(watch_eq_some h).2, hnone]
      simp [hzero]
  · rintro (rfl | hnone)
    · refine along_of_invariant Counted ?_ hcounted hthreshold
      intro w act w' hinv hsame h
      refine ⟨(quarantines_iff hinv h).mpr fun boot hboot ↦ ?_, hinv.step h⟩
      rw [hsame boot hboot]
      exact Nat.le_add_left _ _
    · refine along_of_invariant Counted ?_ hcounted hnone
      intro w act w' hinv hno h
      refine ⟨(quarantines_iff hinv h).mpr fun boot hboot ↦ ?_, hinv.step h⟩
      rw [hno] at hboot
      cases hboot

/-- The scale set `ci` with a threshold of one. -/
def strictPool : Config :=
  { smallPool with defaultProfile := { name := "default", bootMaxAttempts := 1, vmMaxAge := 0 } }

def failFirstBoot : List Act :=
  ([.call (.kickClone "" .hot true), .fire 0 (.node "pve1")] : List Act) ++
    List.replicate 8 (.fire 0 .ok) ++ ([.fire 0 .fail, .fire 0 .ok, .fire 0 .ok] : List Act)

theorem quarantine_failFirstBoot :
    Along (watch strictPool) (Quarantines strictPool 10000) { sys := freshPool }
        (adoptNothing ++ failFirstBoot) ∧
      ∃ sys ∈ run (step strictPool) freshPool (adoptNothing ++ failFirstBoot),
        (sys.shared.store.get 10000).map (·.state) = some .poison := by
  have hthreshold : Along (watch strictPool) (fun w act _ ↦
      ∀ boot ∈ failedBoot 10000 w.sys act, bootThreshold strictPool boot.row.profile = 1)
      { sys := init .empty ∅ Store.second } (adoptNothing ++ failFirstBoot) := by decide
  exact ⟨(quarantine_iff le_rfl hthreshold).mpr (.inl rfl), by decide⟩

/-- The threshold is three, and the VM and its row are gone after one failed boot. -/
theorem first_failed_boot_destroys :
    bootThreshold smallPool "default" = 3 ∧
      ∃ w ∈ run (watch smallPool) { sys := freshPool } (adoptNothing ++ failFirstBoot ++
          ([.fire 0 .ok, .fire 0 .ok, .dispatch] : List Act) ++ List.replicate 4 (.fire 0 .ok)),
        w.failed 10000 = 1 ∧ w.sys.shared.store.get 10000 = none ∧
          w.sys.shared.cluster.get 10000 = none := by
  decide

end ScalesetProxmox.Pool
