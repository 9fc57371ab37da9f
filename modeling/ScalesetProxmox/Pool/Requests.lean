import ScalesetProxmox.Pool.Guests

/-!
# Destroy requests and the generation they were made for

A destroy request names a VMID and a node, and is carried out whenever a worker gets to it. Requests
for one row can be made more than once, and nothing withdraws the later ones when the first has
deleted the row. `requests_hit_own_generation` gives the discipline under which a request only ever
meets its own generation: a VMID gets a new row only when no request for it and no clone worker of
it is left. The allocator does not keep to it: `stale_request_destroys_successor`.
-/

namespace ScalesetProxmox.Pool

open Store (VMID Time)
open Provisioner (Guest)
open Transition

variable {cfg : Config} {s s' : Shared} {sys sys' : Sys} {act : Act} {labels : List Act}
  {task : Task} {reply : Reply} {v : VMID}

/-! ## What names a generation -/

/-- The VMID and the generation that a request was made for. -/
@[simp]
def DestroyRequest.key (request : DestroyRequest) : VMID × ℕ := (request.vmid, request.gen)

/-- The generations that a task will destroy, or may ask to be destroyed. -/
def Task.mentions : Task → List (VMID × ℕ)
  | .destroyAsync request | .destroyEnqueue request | .destroyOrSyncFallback request
  | .destroyGet request _ | .destroyDelete request _ | .destroyAwait request _
  | .destroyRow request _ | .poisonDestroying _ request => [request.key]
  | .evictLoop _ committed => committed.map DestroyRequest.key
  | .cloneIpam prep | .cloneIssue prep | .cloneAwait prep _ | .cloneConfigure prep _
  | .clonePower prep _ | .cloneSnapshot prep _ | .cloneUpdate prep _ _ | .cloneFailure prep =>
    [prep.request.key]
  | _ => []

/-- The generations named by tasks and by waiting requests. -/
def mentioned (sys : Sys) : List (VMID × ℕ) :=
  sys.threads.flatMap Task.mentions ++ sys.shared.destroyQueue.map DestroyRequest.key

/-- The VMID has a row, or its generation is named somewhere. -/
def tracked (sys : Sys) (v : VMID) : Bool :=
  (sys.shared.store.get v).isSome || (mentioned sys).any (·.1 = v)

/-- The VMID of a new row is named by no task or request; if the row is not an adopted guest's, no
guest has the VMID. Other people create no guests under VMIDs the pool keeps track of. -/
def ReissuesSettled (sys : Sys) (act : Act) (_ : Sys) : Prop :=
  (∀ inserted ∈ (moving sys act).bind Task.inserts, sys.shared.store.get inserted.1 = none →
    (mentioned sys).all (·.1 ≠ inserted.1) = true ∧
    (inserted.2 = false → sys.shared.cluster.get inserted.1 = none)) ∧
  ∀ guest ∈ act.creates, tracked sys guest.vmid = false

instance (sys : Sys) (act : Act) (sys' : Sys) : Decidable (ReissuesSettled sys act sys') :=
  inferInstanceAs (Decidable (_ ∧ _))

/-- The guest that a destroy is about to remove, and the row it is about to delete, are of the
generation it was requested for, or gone. -/
def Task.HitsOwnGeneration (s : Shared) : Task → Prop
  | .destroyDelete request _ =>
      ∀ guest ∈ s.cluster.find request.vmid request.node, guest.gen = request.gen
  | .destroyRow request _ =>
      (s.store.get request.vmid).isSome = true → s.gens request.vmid = request.gen
  | _ => True

def RequestsHitOwnGeneration (sys : Sys) (act : Act) (_ : Sys) : Prop :=
  ∀ task ∈ moving sys act, task.HitsOwnGeneration sys.shared

/-! ## Where the names come from -/

/-- What `other` names was named by `task`, or is the current generation of a row that is there. -/
@[irreducible]
def NamesFrom (s' : Shared) (task other : Task) : Prop :=
  ∀ named ∈ other.mentions, named ∈ task.mentions ∨
    ((s'.store.get named.1).isSome = true ∧ s'.gens named.1 = named.2)

theorem namesFrom_forceDestroy {rest : List Task} (hrest : List.Forall (NamesFrom s' task) rest) :
    (forceDestroyAction v rest).Next cfg s s' (List.Forall (NamesFrom s' task)) := by
  refine ⟨fun row hold _ hrow hgens ↦ ?_, hrest⟩
  have hvmid : row.vmid = v := Table.key_of_get hold
  rw [List.forall_cons]
  exact ⟨by simp [NamesFrom, Task.mentions, rowRequest, Store.VM.moved, hvmid, hrow, hgens], hrest⟩

/-- A new name is that of a row which the step has just moved, or inserted. -/
theorem namesFrom_next : (task.action cfg reply).Next cfg s s' (List.Forall (NamesFrom s' task)) := by
  cases task with
  | forceDestroy v => exact namesFrom_forceDestroy trivial
  | tickApply now runners rows =>
    have hrest : ∀ rest, NamesFrom s' (.tickApply now runners rows) (.tickApply now runners rest) := by
      simp [NamesFrom, Task.mentions]
    dsimp only [Task.action, tickAction]
    repeat' split
    · exact ⟨fun _ _ _ _ _ ↦ hrest _, hrest _⟩
    · exact namesFrom_forceDestroy (hrest _)
    · exact hrest _
    · trivial
  | evictLoop rows committed =>
    have hcommitted : List.Forall (NamesFrom s' (.evictLoop rows committed))
        (committed.map Task.destroyAsync) := by
      simp only [List.forall_iff_forall_mem, List.forall_mem_map, NamesFrom, Task.mentions,
        List.mem_singleton, forall_eq]
      exact fun request hmem ↦ .inl (List.mem_map_of_mem hmem)
    cases rows with
    | nil => exact hcommitted
    | cons row rest =>
      refine ⟨fun old _ _ hrow hgens ↦ ?_, hcommitted⟩
      simp only [Option.isSome_some, if_true, List.forall_cons, List.Forall, and_true, NamesFrom,
        Task.mentions, List.map_append, List.mem_append, List.map_cons, List.map_nil,
        List.mem_singleton]
      rintro named (hold | rfl)
      · exact .inl hold
      · exact .inr ⟨by simp [rowRequest, hrow], hgens⟩
  | cloneInsert settings kind poweredOn node v =>
    refine ⟨fun _ hrow hgens ↦ ?_, trivial⟩
    simp_all [NamesFrom, Task.mentions, provisioningRow, ClonePrep.request]
  | poisonInc boot =>
    refine ⟨fun row hold hrow hgens ↦ ?_, fun _ ↦ trivial⟩
    have hvmid : row.vmid = boot.row.vmid := Table.key_of_get hold
    dsimp only
    split <;> simp [NamesFrom, Task.mentions, rowRequest, hvmid, hrow, hgens]
  | sweepLoop rows =>
    cases rows with
    | nil => trivial
    | cons row rest =>
      refine ⟨fun old _ hrow hgens ↦ ?_, fun _ ↦ ?_⟩ <;>
        simp_all [Except.isOk, Except.toBool, NamesFrom, Task.mentions, rowRequest]
  | _ =>
    dsimp
    (repeat' split) <;> dsimp [Action.Next] <;>
      (repeat' first | split | apply And.intro | intro _) <;>
      simp [NamesFrom, Task.mentions, ClonePrep.request, rowRequest, Handle.request, *]

theorem mentions_of_enqueue {request : DestroyRequest}
    (h : task.action cfg reply = .enqueue request) : request.key ∈ task.mentions := by
  revert h
  cases task <;> dsimp <;> (repeat' split) <;> simp +contextual [Task.mentions]

theorem mentions_of_callable (h : callable s task) : task.mentions = [] := by
  cases task <;> first | rfl | cases h

theorem mem_mentioned {named : VMID × ℕ} : named ∈ mentioned sys ↔
    (∃ task ∈ sys.threads, named ∈ task.mentions) ∨
    ∃ request ∈ sys.shared.destroyQueue, request.key = named := by
  simp [mentioned]

/-- Between two states nothing is named that was not, apart from the current generations of rows
that are there. -/
theorem mentioned_step (hstep : step cfg sys act = some sys') {named : VMID × ℕ}
    (hnamed : named ∈ mentioned sys') :
    named ∈ mentioned sys ∨
      ((sys'.shared.store.get named.1).isSome ∧ sys'.shared.gens named.1 = named.2) := by
  have hthreads : ∀ task ∈ sys'.threads, ∀ named ∈ task.mentions, named ∈ mentioned sys ∨
      ((sys'.shared.store.get named.1).isSome = true ∧ sys'.shared.gens named.1 = named.2) := by
    have hmentions : ∀ task ∈ sys.threads, ∀ named ∈ task.mentions, named ∈ mentioned sys :=
      fun task hmem named hnamed ↦ mem_mentioned.mpr (.inl ⟨task, hmem, hnamed⟩)
    refine step_threads hstep hmentions
      (fun reply task _ hold ↦ ?_) (fun task _ hold named hnamed ↦ .inl (hold named hnamed))
      (fun task hcallable named hnamed ↦ ?_) (fun request hmem named hnamed ↦ ?_)
      (fun named hnamed ↦ absurd hnamed List.not_mem_nil)
    · refine namesFrom_next.mono fun other hother named hnamed ↦ ?_
      unfold NamesFrom at hother
      exact (hother named hnamed).imp_left (hold named)
    · rw [mentions_of_callable hcallable] at hnamed
      cases hnamed
    · rw [List.mem_singleton.mp hnamed]
      exact .inl (mem_mentioned.mpr (.inr ⟨request, hmem, rfl⟩))
  rcases mem_mentioned.mp hnamed with ⟨task, hmem, hnamed⟩ | ⟨request, hmem, rfl⟩
  · exact hthreads task hmem named hnamed
  · left
    rcases step_destroyQueue hstep hmem with hold | ⟨reply, task, hmoving, haction⟩
    · exact mem_mentioned.mpr (.inr ⟨request, hold, rfl⟩)
    · exact mem_mentioned.mpr
        (.inl ⟨task, mem_threads_of_moving hmoving, mentions_of_enqueue haction⟩)

/-! ## The invariant -/

/-- Everything named is current, and a guest under a VMID that the pool keeps track of is of the
current generation. -/
structure Settled (sys : Sys) : Prop where
  current : ∀ named ∈ mentioned sys, sys.shared.gens named.1 = named.2
  guests : ∀ v guest, tracked sys v = true → sys.shared.cluster.get v = some guest →
    guest.gen = sys.shared.gens v

theorem tracked_iff : tracked sys v ↔
    (sys.shared.store.get v).isSome ∨ ∃ gen, (v, gen) ∈ mentioned sys := by
  simp [tracked]

/-- A step that inserts no row of `v` keeps its generation and tracks it only if it was tracked. -/
theorem tracked_of_step (hstep : step cfg sys act = some sys')
    (hkept : (sys'.shared.store.get v).isSome → (sys.shared.store.get v).isSome) :
    sys'.shared.gens v = sys.shared.gens v ∧ (tracked sys' v → tracked sys v) := by
  constructor
  · have hgens := step_gens hstep v
    cases hold : sys.shared.store.get v with
    | some row => simpa [hold] using hgens
    | none =>
      have hnone : sys'.shared.store.get v = none := by
        cases hnew : sys'.shared.store.get v with
        | none => rfl
        | some row => simp [hold, hnew] at hkept
      simpa [hold, hnone] using hgens
  · rw [tracked_iff, tracked_iff]
    rintro (hrow | ⟨gen, hnamed⟩)
    · exact .inl (hkept hrow)
    · rcases mentioned_step hstep hnamed with hold | ⟨hrow, _⟩
      · exact .inr ⟨gen, hold⟩
      · exact .inl (hkept hrow)

theorem guest_gen_step (hinv : Settled sys) (hsettled : ReissuesSettled sys act sys')
    (hstep : step cfg sys act = some sys') (htracked : tracked sys v)
    (hgens : sys'.shared.gens v = sys.shared.gens v) {guest : Guest}
    (hguest : sys'.shared.cluster.get v = some guest) : guest.gen = sys'.shared.gens v := by
  rw [hgens]
  rcases step_guest hstep v with hsame | ⟨task, hmoving, hmove⟩ | hevent
  · exact hinv.guests v guest htracked (hsame ▸ hguest)
  · rw [hguest] at hmove
    generalize hold : sys.shared.cluster.get v = old at hmove
    cases hmove with
    | adopt => exact hgens
    | @clone prep node hprep =>
      have hnamed : prep.request.key ∈ mentioned sys :=
        mem_mentioned.mpr (.inl ⟨_, mem_threads_of_moving hmoving, List.mem_singleton.mpr rfl⟩)
      have hcurrent := hinv.current _ hnamed
      rw [← hprep]
      exact hcurrent.symm
    | tag | start | inject | rollBack | look =>
      have hgen := hinv.guests v _ htracked hold
      exact hgen
  · rw [hguest] at hevent
    generalize hold : sys.shared.cluster.get v = old at hevent
    cases hevent with
    | create =>
      rw [hsettled.2 _ rfl] at htracked
      cases htracked
    | setPower | runJob =>
      have hgen := hinv.guests v _ htracked hold
      exact hgen

theorem guest_gen_insert (hsettled : ReissuesSettled sys act sys')
    (hstep : step cfg sys act = some sys') (hold : sys.shared.store.get v = none)
    {row : Store.VM} (hnew : sys'.shared.store.get v = some row) {guest : Guest}
    (hguest : sys'.shared.cluster.get v = some guest) : guest.gen = sys'.shared.gens v := by
  obtain ⟨task, adopted, hmoving, hinserts⟩ := step_inserts hstep hold hnew
  cases adopted with
  | true =>
    cases stepped_of_step hstep with
    | fire hthread hexec =>
      cases hthread.symm.trans hmoving
      cases task with
      | adoptInsert adoptedRow recycle rest runners =>
        cases hinserts
        exact exec_adopt hexec hold (by rw [hnew]; rfl) hguest
      | _ => cases hinserts
    | outside houtside => cases houtside <;> cases hmoving
    | _ => cases hmoving
  | false =>
    have hfree := (hsettled.1 (v, false) (by simp [hmoving, hinserts]) hold).2 rfl
    rcases step_guest hstep v with hsame | ⟨task', hmoving', hmove⟩ | hevent
    · rw [hsame, hfree] at hguest
      cases hguest
    · cases hmoving.symm.trans hmoving'
      rw [hfree, hguest] at hmove
      cases hmove
      cases hinserts
    · rw [hfree, hguest] at hevent
      cases hevent
      cases hmoving

theorem Settled.step (hinv : Settled sys) (hsettled : ReissuesSettled sys act sys')
    (hstep : step cfg sys act = some sys') : Settled sys' := by
  constructor
  · intro named hnamed
    rcases mentioned_step hstep hnamed with hold | ⟨_, hcurrent⟩
    · -- nothing inserts a row under a VMID that is named
      rw [← hinv.current named hold]
      refine (tracked_of_step hstep fun hrow ↦ ?_).1
      by_contra hnone
      rw [Option.not_isSome_iff_eq_none] at hnone
      obtain ⟨row, hrow⟩ := Option.isSome_iff_exists.mp hrow
      obtain ⟨task, adopted, hmoving, hinserts⟩ := step_inserts hstep hnone hrow
      have hfree := (hsettled.1 (named.1, adopted) (by simp [hmoving, hinserts]) hnone).1
      exact absurd (List.all_eq_true.mp hfree named hold) (by simp)
    · exact hcurrent
  · intro v guest htracked hguest
    by_cases hkept : (sys'.shared.store.get v).isSome = true → (sys.shared.store.get v).isSome = true
    · obtain ⟨hgens, hwas⟩ := tracked_of_step hstep hkept
      exact guest_gen_step hinv hsettled hstep (hwas htracked) hgens hguest
    · rw [Classical.not_imp, Option.not_isSome_iff_eq_none] at hkept
      obtain ⟨row, hrow⟩ := Option.isSome_iff_exists.mp hkept.1
      exact guest_gen_insert hsettled hstep hkept.2 hrow hguest

/-- On every run that reissues VMIDs only when they are settled, each request removes and deletes
nothing but the guest and the row of its own generation. -/
theorem requests_hit_own_generation {cluster : Provisioner.Cluster} {runners : Gh.Runners}
    {now : Time} (h : Along (step cfg) ReissuesSettled (init cluster runners now) labels) :
    Along (step cfg) RequestsHitOwnGeneration (init cluster runners now) labels := by
  refine along_of_invariant Settled
    (fun sys act sys' hinv hsettled hstep ↦ ⟨?_, hinv.step hsettled hstep⟩) ?_ h
  · intro task hmoving
    have hnames : ∀ named ∈ task.mentions, named ∈ mentioned sys := fun named hnamed ↦
      mem_mentioned.mpr (.inl ⟨task, mem_threads_of_moving hmoving, hnamed⟩)
    cases task with
    | destroyDelete request sync =>
      intro guest hguest
      have hnamed := hnames request.key (List.mem_singleton.mpr rfl)
      have hgen := hinv.guests request.vmid guest (tracked_iff.mpr (.inr ⟨_, hnamed⟩))
        (Provisioner.Cluster.find_eq_some.mp hguest).1
      exact hgen.trans (hinv.current _ hnamed)
    | destroyRow request sync =>
      exact fun _ ↦ hinv.current _ (hnames request.key (List.mem_singleton.mpr rfl))
    | _ => trivial
  · exact ⟨by simp [mentioned, init, Task.mentions], by simp [tracked, mentioned, init, Task.mentions]⟩

/-- A row is drained, swept up a second time while its request waits, and destroyed by the first of
its two requests. -/
def sweptTwice : List Act :=
  adoptNothing ++ cloneOne .warm false ++
    [.call (.forceDestroy 10000), .fire 0 .ok, .fire 0 .ok, .fire 0 .ok,
      .elapse (6 * Store.minute).toNat, .call .sweepStuckRows, .fire 0 .ok, .fire 0 .ok, .fire 0 .ok,
      .fire 0 .ok, .fire 0 .ok, .fire 0 .ok, .dispatch, .fire 0 .ok, .fire 0 .ok, .fire 0 .ok,
      .fire 0 .ok]

/-- The second request is carried out, and finds nothing, before the VMID is issued again. -/
theorem requests_hit_own_generation_sweptTwice :
    Along (step smallPool) RequestsHitOwnGeneration (init .empty ∅ Store.second)
        (sweptTwice ++ [.dispatch, .fire 0 .ok, .fire 0 .ok, .elapse (1 * Store.minute).toNat] ++
          cloneOne .warm false) ∧
      ∃ sys ∈ run (step smallPool) freshPool (sweptTwice ++
          [.dispatch, .fire 0 .ok, .fire 0 .ok, .elapse (1 * Store.minute).toNat] ++
          cloneOne .warm false),
        sys.shared.gens 10000 = 2 ∧ mentioned sys = [] :=
  ⟨requests_hit_own_generation (by decide), by decide⟩

/-- The VMID is issued again while the second request waits: it removes the new guest and deletes the
new row. -/
theorem stale_request_destroys_successor :
    ∃ sys ∈ run (step smallPool) freshPool (sweptTwice ++ [.elapse (1 * Store.minute).toNat] ++
        cloneOne .warm false ++ [.dispatch, .fire 0 .ok]),
      ∃ sys' ∈ run (step smallPool) sys [.fire 0 .ok, .fire 0 .ok, .fire 0 .ok],
        sys.threads.map Task.mentions = [[(10000, 1)]] ∧
        sys.shared.gens 10000 = 2 ∧
        (sys.shared.cluster.get 10000).map (·.gen) = some 2 ∧
        (sys.shared.store.get 10000).map (·.state) = some .warm ∧
        sys'.shared.cluster.get 10000 = none ∧ sys'.shared.store.get 10000 = none := by
  decide

end ScalesetProxmox.Pool
