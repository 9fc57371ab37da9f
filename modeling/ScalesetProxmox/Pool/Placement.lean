import ScalesetProxmox.Pool.Freed

/-!
# Anti-affinity between concurrent clones

A clone worker reads the rows, chooses a node that its profile's rule allows beside them, and inserts a
row of its own some steps later. No lock is held in between, so the rule holds for the rows that were
read and not for those that are there at the insertion. It holds for both when nothing comes between:
the VMs of the rows that the read leaves out are gone, and no row of the avoided profile is inserted on
a node that a worker has chosen, or may still choose.
-/

namespace ScalesetProxmox.Pool.Demand

open Store (VMID Time State)
open NodeSelector (Memory ExistingVM legal matchingRule)
open Transition

variable {cfg : Config} {c c' : Core} {answer : Answer} {agent : Agent} {agents : List Agent}
  {threads : List Thread} {sys sys' : Sys} {act : Act} {labels : List Act} {v : VMID} {row : Store.VM}
  {task : Task} {reply : Reply}

/-! ## Legal choices -/

section Legal

variable {cfg : CapacityConfig} {profile node : String} {existing : List ExistingVM}

/-- The profile that the rule of another keeps away from, if there is one. -/
def antiAffinity (cfg : CapacityConfig) (profile : String) : Option String :=
  ((matchingRule cfg.placement.affinity profile).map (·.antiAffinityWith)).filter (· ≠ "")

theorem legal_avoids {other : String} (hlegal : legal cfg.placement profile existing node)
    (hother : antiAffinity cfg profile = some other) : ⟨node, other⟩ ∉ existing := by
  obtain ⟨hmap, hne⟩ := Option.filter_eq_some_iff.mp hother
  obtain ⟨rule, hrule, rfl⟩ := Option.map_eq_some_iff.mp hmap
  intro hmem
  apply (hlegal.2 rule hrule).1
  rw [NodeSelector.AffinityRule.excluded, if_neg (by simpa using hne)]
  exact List.mem_map.mpr ⟨_, List.mem_filter.mpr ⟨hmem, by simp⟩, rfl⟩

/-- In full-clone mode the node of a parked handle is legal when the selector returns it. -/
theorem legal_of_nodeEligible {before after : Memory} {known : Bool} (hfull : cfg.linkedClones = false)
    (h : nodeEligible cfg before profile node existing = ((true, known), after)) :
    legal cfg.placement profile existing node := by
  rw [nodeEligible, hfull, if_neg Bool.false_ne_true, if_neg cfg.universe_ne_nil] at h
  dsimp only [NodeSelector.selectCapacity, NodeSelector.withCapacity, NodeSelector.capacityCandidates] at h
  rw [if_pos rfl] at h
  dsimp only at h
  split at h
  · next got hgot =>
    obtain rfl : got = node := by simpa using congrArg (·.1.1) h
    exact (NodeSelector.selectAffinity_eq_ok cfg.universe_ne_nil hgot).1
  · cases h

theorem legal_of_selectNode {snap : Option Nodecap.Snapshot} {now : Time} {a : Nodecap.Accountant}
    {memory : Memory} (hfull : cfg.linkedClones = false)
    (h : (Pool.selectNode cfg snap now a memory profile existing).1 = .node node) :
    legal cfg.placement profile existing node := by
  cases snap with
  | some snap =>
    obtain ⟨picked, hlegal, -, rfl⟩ := selectNode_eq_node h
    rwa [hfull]
  | none =>
    -- without a snapshot every selection is deferred
    obtain ⟨first, rest, hnodes⟩ := List.exists_cons_of_ne_nil cfg.universe_ne_nil
    simp only [Pool.selectNode, fitsAnswer, NodeSelector.selectCapacity, NodeSelector.withCapacity,
      capacityCandidates_shape] at h
    simp [hnodes, NodeSelector.Err.isNoCapacity] at h

end Legal

/-! ## Rows as the affinity rules see them -/

def seen (row : Store.VM) : ExistingVM := ⟨row.node, row.profile⟩

/-- The store files a row without a profile under the default one. -/
def filedUnder (profile : String) : String := if profile = "" then Store.defaultProfileName else profile

def insertsSeen : Task → Option (VMID × ExistingVM)
  | .cloneInsert settings _ _ node v => some (v, ⟨node, filedUnder settings.name⟩)
  | .adoptInsert row _ _ _ => some (row.vmid, ⟨row.node, filedUnder row.profile⟩)
  | _ => none

theorem insertsSeen_of_rowStep {now : Time}
    (h : (task.action cfg.toConfig reply).RowStep now v none (some row)) :
    insertsSeen task = some (v, seen row) := by
  obtain ⟨adopted, hinserts⟩ := inserts_of_rowStep h
  cases task with
  | cloneInsert | adoptInsert =>
    obtain ⟨rfl, -, hstamped⟩ := h
    cases hstamped
    rfl
  | _ => cases hinserts

/-- A row keeps its node and its profile for life. -/
theorem seen_of_rowStep {now : Time} {old : Store.VM}
    (h : (task.action cfg.toConfig reply).RowStep now v (some old) (some row)) : seen row = seen old := by
  obtain ⟨hnode, _, hprofile, _⟩ := sameVM_of_rowStep h
  rw [seen, seen, hnode, hprofile]

def insertion (sys : Sys) : Act → Option (VMID × ExistingVM)
  | .fire i _ => (sys.threads[i]?).bind fun t ↦ insertsSeen t.task
  | _ => none

theorem row_of_step (hstep : step cfg sys act = some sys') (hrow : sys'.core.pool.store.get v = some row) :
    (∃ old, sys.core.pool.store.get v = some old ∧ seen row = seen old ∧
      sys'.core.pool.gens v = sys.core.pool.gens v) ∨
    (sys.core.pool.store.get v = none ∧ sys'.core.pool.gens v = sys.core.pool.gens v + 1 ∧
      insertion sys act = some (v, seen row)) := by
  have hsame {pool : Shared} (hpool : pool.store = sys.core.pool.store ∧ pool.gens = sys.core.pool.gens)
      (hrow : pool.store.get v = some row) : ∃ old, sys.core.pool.store.get v = some old ∧
        seen row = seen old ∧ pool.gens v = sys.core.pool.gens v :=
    ⟨row, hpool.1 ▸ hrow, rfl, congrFun hpool.2 v⟩
  cases moved_of_step hstep with
  | fire hthread htodo hexec =>
    have hgens := exec_gens hexec v
    dsimp only at hrow ⊢
    cases hold : sys.core.pool.store.get v with
    | some old =>
      rw [hold] at hgens
      refine .inl ⟨old, rfl, ?_, by simpa using hgens⟩
      rcases exec_row hexec v with hrows | hmoved
      · rw [hrows, hold] at hrow
        cases hrow
        rfl
      · rw [hold, hrow] at hmoved
        exact seen_of_rowStep hmoved
    | none =>
      rw [hold, hrow] at hgens
      refine .inr ⟨rfl, by simpa using hgens, ?_⟩
      rcases exec_row hexec v with hrows | hmoved
      · rw [hrows, hold] at hrow
        cases hrow
      · rw [hold, hrow] at hmoved
        simp [insertion, hthread, insertsSeen_of_rowStep hmoved]
  | advance hagent hadvanced =>
    left
    have hgens := congrFun (pool_advanced hadvanced).2 v
    dsimp only at hrow ⊢
    cases hadvanced with
    | committed hexec =>
      rcases exec_row hexec v with hrows | ⟨-, old, hold, -, hnew⟩
      · exact ⟨row, hrows ▸ hrow, rfl, hgens⟩
      · rw [hrow] at hnew
        cases hnew
        exact ⟨old, hold, rfl, hgens⟩
    | _ => exact ⟨row, hrow, rfl, rfl⟩
  | outside hfrom hpool =>
    left
    cases stepped_of_step hpool with
    | fire | crash => cases hfrom
    | call | dispatch => exact hsame ⟨rfl, rfl⟩ hrow
    | outside houtside => exact hsame ⟨houtside.store_eq.1, houtside.store_eq.2.1⟩ hrow
  | crash =>
    rw [show (startCore cfg sys.core.pool.restart).pool.store = .empty from rfl, Table.get_empty] at hrow
    cases hrow
  | _ => exact .inl (hsame ⟨rfl, rfl⟩ hrow)

/-! ## Workers that have read the rows -/

/-- What a clone worker goes by between its read of the rows and the insertion of its own: the rows that
it has read, and the node once it is chosen. -/
structure Sighting where
  profile : String
  existing : List ExistingVM
  node : Option String
  deriving DecidableEq

def Agent.sighting : Agent → Option Sighting
  | .claimProbe settings _ existing _ chosen _ => some ⟨settings.name, existing, chosen.map Parked.node⟩
  | .select settings _ existing => some ⟨settings.name, existing, none⟩
  | .reserve settings _ existing node => some ⟨settings.name, existing, some node⟩
  | _ => none

/-- The profile and the node that the task will insert a row for. -/
def placing : Task → Option (String × String)
  | .cloneAllocate settings _ _ node | .cloneInsert settings _ _ node _ => some (settings.name, node)
  | _ => none

def Thread.sighting (t : Thread) : Option Sighting :=
  t.worker.bind fun w ↦ (placing t.task).map fun placed ↦ ⟨placed.1, w.existing, some placed.2⟩

def Sys.sightings (sys : Sys) : List Sighting :=
  sys.agents.filterMap Agent.sighting ++ sys.threads.filterMap Thread.sighting

/-- The workers that are not the one that moves. -/
def bystanders (sys : Sys) : Act → List Sighting
  | .fire i _ => ({ sys with threads := sys.threads.eraseIdx i } : Sys).sightings
  | _ => sys.sightings

/-- The profile of the worker that reads the rows in this step. -/
def readsRows (sys : Sys) : Act → Option String
  | .advance k _ =>
    match sys.agents[k]? with
    | some (.claimParked settings _ _) | some (.selectNode settings _) => some settings.name
    | _ => none
  | _ => none

/-- `later` is the same worker, which may have chosen a legal node in between. -/
structure Sighting.Continues (cfg : Config) (later sighting : Sighting) : Prop where
  profile : later.profile = sighting.profile
  existing : later.existing = sighting.existing
  node : sighting.node = none ∨ later.node = sighting.node
  chosen : ∀ node ∈ later.node,
    sighting.node = some node ∨ legal cfg.placement later.profile later.existing node

theorem Sighting.Continues.refl (sighting : Sighting) : sighting.Continues cfg sighting :=
  ⟨rfl, rfl, .inr rfl, fun _ hnode ↦ .inl hnode⟩

variable {later : Sighting}

theorem sighting_advanced (hfull : cfg.linkedClones = false)
    (h : Advanced cfg c answer agent c' agents threads)
    (hlater : later ∈ agents.filterMap Agent.sighting ++ threads.filterMap Thread.sighting) :
    (∃ sighting, agent.sighting = some sighting ∧ later.Continues cfg sighting) ∨
      ∃ settings : ProfileSettings, ((∃ since parked, agent = .claimParked settings since parked) ∨
          ∃ kind, agent = .selectNode settings kind) ∧
        later = ⟨settings.name, snapshotExistingVMsForAffinity c.pool.store, none⟩ := by
  have hone {sighting : Sighting} (hmem : later ∈ [sighting]) (hagent : agent.sighting = some sighting) :
      ∃ sighting, agent.sighting = some sighting ∧ later.Continues cfg sighting :=
    ⟨sighting, hagent, List.mem_singleton.mp hmem ▸ .refl _⟩
  cases h with
  | @claimRead settings since parked =>
    exact .inr ⟨settings, .inl ⟨since, parked, rfl⟩, List.mem_singleton.mp hlater⟩
  | @selectRead settings kind =>
    exact .inr ⟨settings, .inr ⟨kind, rfl⟩, List.mem_singleton.mp hlater⟩
  | probeNext | probeRelease | probeKeep | consume | reserved => exact .inl (hone hlater rfl)
  | probeChoose hprobe =>
    refine .inl ⟨_, rfl, ?_⟩
    rw [List.mem_singleton.mp hlater]
    exact ⟨rfl, rfl, .inl rfl, fun _ hnode ↦ .inr (Option.some.inj hnode ▸ legal_of_nodeEligible hfull hprobe)⟩
  | selected hnode =>
    refine .inl ⟨_, rfl, ?_⟩
    rw [List.mem_singleton.mp hlater]
    exact ⟨rfl, rfl, .inl rfl, fun _ hmem ↦ .inr (Option.some.inj hmem ▸ legal_of_selectNode hfull hnode)⟩
  | @read settings stage sizing => cases stage <;> cases hlater
  | kicked hrest =>
    rcases hrest with ⟨rfl, more, rfl, rfl⟩ | ⟨rfl, more, rfl, rfl, rfl⟩ <;> cases hlater
  | evictUnreserved | parked =>
    obtain ⟨t, ht, hsighting⟩ := List.mem_filterMap.mp hlater
    obtain ⟨request, -, rfl⟩ := List.mem_map.mp ht
    cases hsighting
  | _ => cases hlater

/-- A worker without a row goes on with what it had. -/
theorem placing_next {cfg : Pool.Config} {s s' : Shared} (hcloning : cloning task) :
    (task.action cfg reply).Next cfg s s' fun next ↦ ∀ other ∈ next, ∀ placed,
      placing other = some placed → placing task = some placed ∧ insertsSeen task = none := by
  refine Action.Next.imp (cloneNext_of_cloning hcloning) fun next hnext other hother placed hplaced ↦ ?_
  cases hnext with
  | updated hnext =>
    have hno := hnext other hother
    cases other <;> first | (cases hplaced; done) | cases hno
  | notAllocated | notInserted => cases hother
  | allocated =>
    cases List.mem_singleton.mp hother
    exact ⟨hplaced, rfl⟩
  | _ =>
    cases List.mem_singleton.mp hother
    cases hplaced

theorem sighting_fire {t t' : Thread} {s s' : Shared} {next : List Task} (hstaffed : t.Staffed)
    (hexec : (t.task.action cfg.toConfig reply).exec cfg.toConfig s = some (s', next))
    (ht' : t' ∈ t.after cfg.toConfig next) (hlater : t'.sighting = some later) :
    t.sighting = some later ∧ insertsSeen t.task = none := by
  unfold Thread.after at ht'
  cases hworker : t.worker with
  | none =>
    rw [hworker] at ht'
    obtain ⟨task, -, rfl⟩ := List.mem_map.mp ht'
    cases hlater
  | some w =>
    have hcloning : cloning t.task := by rw [hstaffed.cloning, hworker]; rfl
    rw [hworker] at ht'
    obtain ⟨task, htask, rfl⟩ := List.mem_map.mp ht'
    split at hlater
    · obtain ⟨placed, hplaced, rfl⟩ := Option.map_eq_some_iff.mp hlater
      obtain ⟨hsame, hinserts⟩ :=
        exec_next hexec (placing_next hcloning) task htask placed hplaced
      exact ⟨by simp [Thread.sighting, hworker, hsame], hinserts⟩
    · cases hlater

theorem mem_sightings {sighting : Sighting} : sighting ∈ sys.sightings ↔
    (∃ agent ∈ sys.agents, agent.sighting = some sighting) ∨ ∃ t ∈ sys.threads, t.sighting = some sighting := by
  simp [Sys.sightings]

theorem sighting_leftover {t : Thread} {next : List Task} : ∀ agent ∈ t.leftover next, agent.sighting = none := by
  unfold Thread.leftover
  split <;> simp [Agent.sighting]

theorem sighting_of_step (hfull : cfg.linkedClones = false) (hstaffed : ∀ t ∈ sys.threads, t.Staffed)
    (hstep : step cfg sys act = some sys') (hlater : later ∈ sys'.sightings) :
    (∃ sighting ∈ sys.sightings, later.Continues cfg sighting ∧
      (insertion sys act = none ∨ sighting ∈ bystanders sys act)) ∨
    ∃ profile, readsRows sys act = some profile ∧
      later = ⟨profile, snapshotExistingVMsForAffinity sys.core.pool.store, none⟩ := by
  have hsame (hmem : later ∈ sys.sightings) (hquiet : insertion sys act = none) :
      ∃ sighting ∈ sys.sightings, later.Continues cfg sighting ∧
        (insertion sys act = none ∨ sighting ∈ bystanders sys act) :=
    ⟨later, hmem, .refl _, .inl hquiet⟩
  cases moved_of_step hstep with
  | @fire i reply t pool next hthread htodo hexec =>
    left
    rcases mem_sightings.mp hlater with ⟨agent, hagent, hsighting⟩ | ⟨t', ht', hsighting⟩
    · rcases List.mem_append.mp hagent with hagent | hnew
      · exact ⟨later, mem_sightings.mpr (.inl ⟨agent, hagent, hsighting⟩), .refl _,
          .inr (mem_sightings.mpr (.inl ⟨agent, hagent, hsighting⟩))⟩
      · rw [sighting_leftover agent hnew] at hsighting
        cases hsighting
    · rcases List.mem_append.mp ht' with hother | hnew
      · exact ⟨later, mem_sightings.mpr (.inr ⟨t', List.mem_of_mem_eraseIdx hother, hsighting⟩), .refl _,
          .inr (mem_sightings.mpr (.inr ⟨t', hother, hsighting⟩))⟩
      · have hmem := List.mem_of_getElem? hthread
        obtain ⟨hsame, hinserts⟩ := sighting_fire (hstaffed t hmem) hexec hnew hsighting
        exact ⟨later, mem_sightings.mpr (.inr ⟨t, hmem, hsame⟩), .refl _,
          .inl (by simp [insertion, hthread, hinserts])⟩
  | settle hthread =>
    refine .inl (hsame ?_ rfl)
    rcases mem_sightings.mp hlater with hagent | ⟨t', ht', hsighting⟩
    · exact mem_sightings.mpr (.inl hagent)
    · refine mem_sightings.mpr (.inr ?_)
      rcases List.mem_append.mp ht' with hother | hnew
      · exact ⟨t', List.mem_of_mem_eraseIdx hother, hsighting⟩
      · cases List.mem_singleton.mp hnew
        exact ⟨_, List.mem_of_getElem? hthread, hsighting⟩
  | @advance k answer agent core agents threads hagent hadvanced =>
    have hmem := List.mem_of_getElem? hagent
    have hcases : later ∈ sys.sightings ∨
        later ∈ agents.filterMap Agent.sighting ++ threads.filterMap Thread.sighting := by
      simp only [Sys.sightings, List.filterMap_append, List.mem_append] at hlater ⊢
      rcases hlater with (hother | hnew) | hother | hnew
      · obtain ⟨other, hmem, hsighting⟩ := List.mem_filterMap.mp hother
        exact .inl (.inl (List.mem_filterMap.mpr ⟨other, List.mem_of_mem_eraseIdx hmem, hsighting⟩))
      · exact .inr (.inl hnew)
      · exact .inl (.inr hother)
      · exact .inr (.inr hnew)
    rcases hcases with hother | hnew
    · exact .inl (hsame hother rfl)
    · rcases sighting_advanced hfull hadvanced hnew with ⟨sighting, hsighting, hcontinues⟩ |
        ⟨settings, hreads, hnew⟩
      · exact .inl ⟨sighting, mem_sightings.mpr (.inl ⟨agent, hmem, hsighting⟩), hcontinues, .inl rfl⟩
      · refine .inr ⟨settings.name, ?_, hnew⟩
        rcases hreads with ⟨since, parked, rfl⟩ | ⟨kind, rfl⟩ <;> simp [readsRows, hagent]
  | outside hfrom hpool =>
    refine .inl (hsame ?_ rfl)
    rcases mem_sightings.mp hlater with hagent | ⟨t, ht, hsighting⟩
    · exact mem_sightings.mpr (.inl hagent)
    · rcases List.mem_append.mp ht with hother | hnew
      · exact mem_sightings.mpr (.inr ⟨t, hother, hsighting⟩)
      · obtain ⟨task, -, rfl⟩ := List.mem_map.mp hnew
        cases hsighting
  | reconcile =>
    refine .inl (hsame ?_ rfl)
    simpa [Sys.sightings, startPass, Agent.sighting] using hlater
  | retarget _ hact => rcases hact with ⟨n, rfl⟩ | ⟨hot, warm, rfl⟩ <;> exact .inl (hsame hlater rfl)
  | crash => cases hlater
  | _ => exact .inl (hsame hlater rfl)

/-! ## What the rows that were read say about the rows that are there -/

/-- Every row of a profile that the worker avoids was read, is on another node than the one chosen, or
has lost its VM. -/
structure Sighting.Valid (cfg : Config) (sys : Sys) (sighting : Sighting) : Prop where
  legal : ∀ node ∈ sighting.node, legal cfg.placement sighting.profile sighting.existing node
  rows : ∀ profile ∈ antiAffinity cfg.toCapacityConfig sighting.profile, ∀ v row,
    sys.core.pool.store.get v = some row → row.profile = profile →
      seen row ∈ sighting.existing ∨ (∃ node, sighting.node = some node ∧ node ≠ row.node) ∨
        Spent sys (v, sys.core.pool.gens v) ∧ standing sys.core.pool (v, sys.core.pool.gens v) = false

/-- A worker keeps a valid sighting through a step that inserts no row in its way. -/
theorem Sighting.Valid.step {sighting : Sighting} (h : sighting.Valid cfg sys)
    (hcontinues : later.Continues cfg sighting) (hstep : Demand.step cfg sys act = some sys')
    (hclear : ∀ v vm, insertion sys act = some (v, vm) → sys.core.pool.store.get v = none →
      antiAffinity cfg.toCapacityConfig sighting.profile = some vm.profile →
        sighting.node ≠ none ∧ sighting.node ≠ some vm.node) : later.Valid cfg sys' where
  legal node hnode := by
    rcases hcontinues.chosen node hnode with hold | hlegal
    · rw [hcontinues.profile, hcontinues.existing]
      exact h.legal node hold
    · exact hlegal
  rows profile hprofile v row hrow hrowProfile := by
    rw [hcontinues.profile] at hprofile
    rw [hcontinues.existing]
    have hnode {node : String} (hold : sighting.node = some node) : later.node = some node :=
      hcontinues.node.elim (fun hnone ↦ by rw [hold] at hnone; cases hnone) fun hsame ↦ hsame.trans hold
    rcases row_of_step hstep hrow with ⟨old, hold, hseen, hgens⟩ | ⟨hnew, -, hinserted⟩
    · have hprofiles : row.profile = old.profile := congrArg ExistingVM.profile hseen
      have hnodes : row.node = old.node := congrArg ExistingVM.node hseen
      rw [hseen, hnodes, hgens]
      rcases h.rows profile hprofile v old hold (hprofiles.symm.trans hrowProfile) with
        hread | ⟨node, hchosen, hne⟩ | ⟨hspent, hgone⟩
      · exact .inl hread
      · exact .inr (.inl ⟨node, hnode hchosen, hne⟩)
      · have hevolved := evolved_of_step hstep
        exact .inr (.inr ⟨hspent.step hevolved, hspent.not_standing hevolved hgone⟩)
    · obtain ⟨hsome, hne⟩ := hclear v (seen row) hinserted hnew
        ((Option.mem_def.mp hprofile).trans (congrArg some hrowProfile.symm))
      obtain ⟨node, hchosen⟩ := Option.ne_none_iff_exists'.mp hsome
      exact .inr (.inl ⟨node, hnode hchosen, fun heq ↦ hne (hchosen.trans (congrArg some heq))⟩)

/-- A fresh read misses the rows on their way out only. -/
theorem valid_of_read {profile : String} (hnumbered : ∀ v row, sys.core.pool.store.get v = some row →
      sys.core.pool.gens v ≠ 0)
    (hleaving : ∀ other ∈ antiAffinity cfg.toCapacityConfig profile, ∀ row ∈ sys.core.pool.store.rows,
      row.profile = other → row.state ∈ [State.draining, .destroying] →
        standing sys.core.pool (row.vmid, sys.core.pool.gens row.vmid) = false ∧
          creators sys (row.vmid, sys.core.pool.gens row.vmid) = 0) :
    (⟨profile, snapshotExistingVMsForAffinity sys.core.pool.store, none⟩ : Sighting).Valid cfg sys where
  legal _ hnode := by cases hnode
  rows other hother v row hrow hprofile := by
    obtain rfl := Table.key_of_get hrow
    by_cases hstate : row.state ∈ [State.draining, .destroying]
    · obtain ⟨hgone, hcreators⟩ := hleaving other hother row (Table.mem_rows.mpr hrow) hprofile hstate
      exact .inr (.inr ⟨⟨hnumbered row.vmid row hrow, le_rfl, hcreators⟩, hgone⟩)
    · exact .inl (List.mem_map.mpr ⟨row, Store.mem_listExcludingStates.mpr ⟨hrow, hstate⟩, rfl⟩)

/-! ## Placements that nothing disturbs -/

/-- The profile and the node of the clone whose row is inserted in this step. -/
def placement (sys : Sys) : Act → Option (String × String)
  | .fire i _ =>
    match sys.threads[i]? with
    | some ⟨.cloneInsert settings _ _ node v, _, _⟩ =>
      if (sys.core.pool.store.get v).isNone then some (settings.name, node) else none
    | _ => none
  | _ => none

/-- The VM of the row of `v` exists, on this node. -/
def standsOn (pool : Shared) (v : VMID) (node : String) : Bool :=
  (pool.cluster.get v).any fun guest ↦ guest.gen = pool.gens v ∧ guest.node = node

/-- A clone's row is inserted on a node without a VM of the profile that its rule keeps away from. -/
def PlacesApart (cfg : Config) (sys : Sys) (act : Act) (_ : Sys) : Prop :=
  ∀ placed ∈ placement sys act, ∀ other ∈ antiAffinity cfg.toCapacityConfig placed.1,
    ∀ row ∈ sys.core.pool.store.rows, row.profile = other → standsOn sys.core.pool row.vmid placed.2 = false

/-- The rows of an avoided profile that a read leaves out have no VM, and nobody creates it. -/
def LeaversGone (cfg : Config) (sys : Sys) (act : Act) : Prop :=
  ∀ profile ∈ readsRows sys act, ∀ other ∈ antiAffinity cfg.toCapacityConfig profile,
    ∀ row ∈ sys.core.pool.store.rows, row.profile = other → row.state ∈ [State.draining, .destroying] →
      standing sys.core.pool (row.vmid, sys.core.pool.gens row.vmid) = false ∧
        creators sys (row.vmid, sys.core.pool.gens row.vmid) = 0

/-- A row is inserted only where no other worker that avoids its profile has chosen to go, or may still
choose to. -/
def InsertsClear (cfg : Config) (sys : Sys) (act : Act) : Prop :=
  ∀ inserted ∈ insertion sys act, sys.core.pool.store.get inserted.1 = none →
    ∀ sighting ∈ bystanders sys act,
      antiAffinity cfg.toCapacityConfig sighting.profile = some inserted.2.profile →
        sighting.node ≠ none ∧ sighting.node ≠ some inserted.2.node

/-- The VMs of an avoided profile are where their rows say. -/
def StandsAsFiled (cfg : Config) (sys : Sys) (act : Act) : Prop :=
  ∀ placed ∈ placement sys act, ∀ other ∈ antiAffinity cfg.toCapacityConfig placed.1,
    ∀ row ∈ sys.core.pool.store.rows, row.profile = other →
      ∀ guest ∈ sys.core.pool.cluster.get row.vmid, guest.gen = sys.core.pool.gens row.vmid →
        guest.node = row.node

def Undisturbed (cfg : Config) (sys : Sys) (act : Act) (_ : Sys) : Prop :=
  LeaversGone cfg sys act ∧ InsertsClear cfg sys act ∧ StandsAsFiled cfg sys act

instance decidablePlacesApart (cfg : Config) (sys : Sys) (act : Act) (sys' : Sys) :
    Decidable (PlacesApart cfg sys act sys') :=
  inferInstanceAs (Decidable (∀ placed ∈ placement sys act, _))

instance decidableLeaversGone (cfg : Config) (sys : Sys) (act : Act) : Decidable (LeaversGone cfg sys act) :=
  inferInstanceAs (Decidable (∀ profile ∈ readsRows sys act, _))

instance decidableInsertsClear (cfg : Config) (sys : Sys) (act : Act) : Decidable (InsertsClear cfg sys act) :=
  inferInstanceAs (Decidable (∀ inserted ∈ insertion sys act, _))

instance decidableStandsAsFiled (cfg : Config) (sys : Sys) (act : Act) :
    Decidable (StandsAsFiled cfg sys act) :=
  inferInstanceAs (Decidable (∀ placed ∈ placement sys act, _))

instance decidableUndisturbed (cfg : Config) (sys : Sys) (act : Act) (sys' : Sys) :
    Decidable (Undisturbed cfg sys act sys') :=
  inferInstanceAs (Decidable (_ ∧ _))

/-- Every worker that has read the rows is right about them. -/
structure Watched (cfg : Config) (sys : Sys) : Prop where
  staffed : ∀ t ∈ sys.threads, t.Staffed
  numbered : ∀ v row, sys.core.pool.store.get v = some row → sys.core.pool.gens v ≠ 0
  valid : ∀ sighting ∈ sys.sightings, sighting.Valid cfg sys

theorem Watched.step (hfull : cfg.linkedClones = false) (h : Watched cfg sys)
    (hclear : Undisturbed cfg sys act sys') (hstep : step cfg sys act = some sys') : Watched cfg sys' where
  staffed := staffed_step h.staffed hstep
  numbered v row hrow := by
    rcases row_of_step hstep hrow with ⟨old, hold, -, hgens⟩ | ⟨-, hgens, -⟩
    · rw [hgens]
      exact h.numbered v old hold
    · omega
  valid later hlater := by
    rcases sighting_of_step hfull h.staffed hstep hlater with
      ⟨sighting, hmem, hcontinues, hothers⟩ | ⟨profile, hreads, rfl⟩
    · refine (h.valid sighting hmem).step hcontinues hstep fun v vm hinserted hnew hother ↦ ?_
      rcases hothers with hnone | hbystander
      · rw [hnone] at hinserted
        cases hinserted
      · exact hclear.2.1 _ hinserted hnew sighting hbystander hother
    · -- the read leaves the state as it is, so what it says holds after the step as well
      refine (valid_of_read h.numbered (hclear.1 profile hreads)).step (.refl _) hstep ?_
      intro v vm hinserted
      cases act with
      | fire => cases hreads
      | _ => cases hinserted

theorem placement_eq_some {placed : String × String} (h : placement sys act = some placed) :
    ∃ i reply t, act = .fire i reply ∧ sys.threads[i]? = some t ∧ placing t.task = some placed ∧
      cloning t.task = true := by
  cases act with
  | fire i reply =>
    simp only [placement] at h
    split at h
    · next settings _ _ node v _ _ hthread =>
      split_ifs at h
      cases h
      exact ⟨i, reply, _, rfl, hthread, rfl, rfl⟩
    · cases h
  | _ => cases h

theorem Watched.placesApart (h : Watched cfg sys) (hfiled : StandsAsFiled cfg sys act) :
    PlacesApart cfg sys act sys' := by
  intro placed hplaced other hother row hrow hprofile
  obtain ⟨i, reply, t, rfl, hthread, hplacing, hcloning⟩ := placement_eq_some hplaced
  have hmem := List.mem_of_getElem? hthread
  obtain ⟨w, hworker⟩ := Option.isSome_iff_exists.mp ((h.staffed t hmem).cloning ▸ hcloning)
  have hsighting : t.sighting = some ⟨placed.1, w.existing, some placed.2⟩ := by
    simp [Thread.sighting, hworker, hplacing]
  have hvalid := h.valid _ (mem_sightings.mpr (.inr ⟨t, hmem, hsighting⟩))
  refine Bool.eq_false_iff.mpr fun hstands ↦ ?_
  obtain ⟨guest, hguest, hgen, hnode⟩ : ∃ guest, sys.core.pool.cluster.get row.vmid = some guest ∧
      guest.gen = sys.core.pool.gens row.vmid ∧ guest.node = placed.2 := by
    simpa [standsOn, Option.any_eq_true] using hstands
  have hrowNode : row.node = placed.2 :=
    (hfiled placed hplaced other hother row hrow hprofile guest hguest hgen).symm.trans hnode
  rcases hvalid.rows other hother row.vmid row (Table.mem_rows.mp hrow) hprofile with
    hread | ⟨node, hchosen, hne⟩ | ⟨-, hgone⟩
  · refine legal_avoids (hvalid.legal placed.2 rfl) hother ?_
    rwa [seen, hprofile, hrowNode] at hread
  · exact hne ((Option.some.inj hchosen).symm.trans hrowNode.symm)
  · exact Bool.eq_false_iff.mp hgone (standing_eq_true.mpr ⟨guest, hguest, hgen⟩)

/-! ## Two profiles on two nodes -/

/-- Two nodes, the first less loaded, and a second profile that stays away from the first one's VMs. -/
def apartPool : Config where
  toCapacityConfig :=
    { demandingPool with
      nodes := ["pve1", "pve2"]
      otherProfiles := [{ name := "burst", bootMaxAttempts := 3, vmMaxAge := 0 }]
      placement :=
        { strategy := .leastLoaded, members := ["pve1", "pve2"]
          affinity := [{ matchProfile := "burst", antiAffinityWith := "default" }] }
      accountant := { reservationTTL := Store.minute }
      universe_ne_nil := by decide }
  targets := fun _ ↦ {}

def emptyNodes : Answer where
  snap := some (Nodecap.fetch {}
    [{ type := .node, node := "pve1", status := "online", maxMem := 16 * 2 ^ 30, maxCPU := 16 },
      { type := .node, node := "pve2", status := "online", maxMem := 16 * 2 ^ 30, maxCPU := 16 }] 0)
  scores := some [("pve1", 1), ("pve2", 2)]

/-- One job for the profile: its pass dispatches a worker, which chooses a node and reserves capacity. -/
def chooseNode (profile : String) : List Act :=
  [.setDesiredCount profile 1, .reconcile profile] ++ List.replicate 7 (.advance 0 {}) ++
    [.advance 1 {}, .advance 1 {}, .advance 0 {}, .advance 0 {}, .advance 0 emptyNodes, .advance 0 emptyNodes]

/-- Thread `i` is a worker that inserts its row and creates its VM. -/
def createVM (i : ℕ) : List Act :=
  [.fire i .ok, .fire i .ok, .settle i, .settle i, .fire i .ok, .settle i, .fire i .ok]

/-- Adoption finds nothing on the two nodes. -/
def apartStart : List Act := List.replicate 6 (.fire 0 .ok)

/-- The first profile's VM stands on the first node when the second profile's worker reads the rows. -/
def oneAfterTheOther : List Act :=
  apartStart ++ chooseNode "default" ++ createVM 0 ++ List.replicate 3 (.fire 0 .ok) ++ [.settle 0] ++
    chooseNode "burst" ++ [.fire 1 .ok, .fire 1 .ok]

/-- The first profile's worker chooses a node, inserts its row and creates its VM while the second
profile's is between its choice and its insertion. -/
def oneInsideTheOther : List Act :=
  apartStart ++ chooseNode "burst" ++ chooseNode "default" ++ createVM 1 ++ [.fire 0 .ok, .fire 1 .ok]

/-- In full-clone mode, in every run whose placements nothing disturbs, a clone's row is inserted on a
node without a VM of the profile that its rule keeps away from. -/
theorem anti_affinity_holds_undisturbed (cfg : Config) (hfull : cfg.linkedClones = false)
    (cluster : Provisioner.Cluster) (runners : Gh.Runners) (now : Time) (labels : List Act)
    (hclear : Along (step cfg) (Undisturbed cfg) (init cfg cluster runners now) labels) :
    Along (step cfg) (PlacesApart cfg) (init cfg cluster runners now) labels := by
  refine along_of_invariant (Watched cfg) ?_ ?_ hclear
  · intro sys act sys' hwatched hclear hstep
    exact ⟨hwatched.placesApart hclear.2.2, hwatched.step hfull hclear hstep⟩
  · exact
      { staffed := fun t ht ↦ by
          cases List.mem_singleton.mp ht
          exact ⟨rfl, rfl⟩
        numbered := fun v row hrow ↦ by cases (Table.get_empty v).symm.trans hrow
        valid := fun _ hmem ↦ (List.not_mem_nil hmem).elim }

/-- The second profile's clone goes to the other node. -/
theorem second_clone_placed_apart :
    (run (step apartPool) (init apartPool .empty ∅ Store.second) oneAfterTheOther).map
      (fun sys ↦ sys.core.pool.store.rows.map seen) = some [⟨"pve1", "default"⟩, ⟨"pve2", "burst"⟩] ∧
    Along (step apartPool) (PlacesApart apartPool) (init apartPool .empty ∅ Store.second) oneAfterTheOther :=
  ⟨by decide +kernel, anti_affinity_holds_undisturbed apartPool rfl .empty ∅ Store.second oneAfterTheOther
    (by decide +kernel)⟩

/-- Both clones go to the first node, the second profile's although the other's VM stands there. -/
theorem clone_placed_beside_avoided_profile :
    (run (step apartPool) (init apartPool .empty ∅ Store.second) oneInsideTheOther).map
      (fun sys ↦ (sys.core.pool.store.rows.map seen,
        sys.core.pool.cluster.rows.map fun guest ↦ (guest.vmid, guest.node))) =
      some ([⟨"pve1", "default"⟩, ⟨"pve1", "burst"⟩], [(10000, "pve1")]) ∧
    ¬ Along (step apartPool) (PlacesApart apartPool) (init apartPool .empty ∅ Store.second)
      oneInsideTheOther :=
  ⟨by decide +kernel, by decide +kernel⟩

end ScalesetProxmox.Pool.Demand
