import ScalesetProxmox.Pool.Eviction

/-!
# What an eviction plan commits to

`planEviction` finds victims exactly where the shape does not fit and the idle VMs together close both
gaps, and takes the shortest initial segment of its order that does. The order is a preference and not one
of size. A small VM that comes first stays in the plan when a larger one that comes later closes the gaps
alone, so the plan is the smallest of the segments and not the smallest set.
-/

namespace ScalesetProxmox.Pool

open Nodecap (Shape NodeState)

variable {candidates victims : List EvictionCandidate} {shape : Shape} {st : NodeState} {memGap : ℕ}
  {vcpuGap : ℤ} {part : List EvictionCandidate}

/-! ## The order -/

theorem EvictionCandidate.before_total (a b : EvictionCandidate) : a.before b ∨ b.before a = true := by
  unfold EvictionCandidate.before
  by_cases hpreferred : a.preferred = b.preferred
  · simpa [hpreferred] using le_total a.row.createdAt b.row.createdAt
  · cases ha : a.preferred <;> cases hb : b.preferred <;> simp_all

theorem EvictionCandidate.before_trans {a b c : EvictionCandidate} (hab : a.before b)
    (hbc : b.before c) : a.before c = true := by
  unfold EvictionCandidate.before at hab hbc ⊢
  cases ha : a.preferred <;> cases hb : b.preferred <;> cases hc : c.preferred <;>
    simp only [ha, hb, hc, ne_eq, not_true_eq_false, not_false_eq_true, reduceCtorEq, if_true, if_false,
      decide_eq_true_eq, Bool.false_eq_true] at hab hbc ⊢
  · exact hab.trans hbc
  · exact hab.trans hbc

instance : Std.Total fun a b : EvictionCandidate ↦ a.before b = true :=
  ⟨EvictionCandidate.before_total⟩

instance : IsTrans EvictionCandidate fun a b ↦ a.before b = true :=
  ⟨fun _ _ _ ↦ EvictionCandidate.before_trans⟩

/-- The candidates rearranged: warm before hot, old before young, and otherwise as they were. -/
structure StablyOrdered (candidates ordered : List EvictionCandidate) : Prop where
  perm : ordered.Perm candidates
  sorted : ordered.Pairwise fun a b ↦
    (b.preferred = true → a.preferred = true) ∧
      (a.preferred = b.preferred → a.row.createdAt ≤ b.row.createdAt)
  stable : ∀ a b, a.preferred = b.preferred → a.row.createdAt = b.row.createdAt →
    [a, b].Sublist candidates → [a, b].Sublist ordered

theorem stablyOrdered_evictionOrder (candidates : List EvictionCandidate) :
    StablyOrdered candidates (evictionOrder candidates) where
  perm := List.perm_insertionSort _ _
  sorted := by
    refine (List.pairwise_insertionSort _ candidates).imp fun {a b} hbefore ↦ ?_
    unfold EvictionCandidate.before at hbefore
    cases ha : a.preferred <;> cases hb : b.preferred <;> simp_all
  stable a b hpreferred hcreated hsublist := by
    refine List.pair_sublist_insertionSort ?_ hsublist
    simp [EvictionCandidate.before, hpreferred, hcreated]

/-! ## What a list of victims frees -/

theorem freedMem_le_of_sublist (h : part.Sublist victims) : freedMem part ≤ freedMem victims :=
  (h.map _).sum_le_sum fun _ _ ↦ Nat.zero_le _

theorem freedVCPU_le_of_sublist (h : part.Sublist victims) (hvcpus : ∀ c ∈ victims, 0 ≤ c.vcpus) :
    freedVCPU part ≤ freedVCPU victims := by
  refine (h.map _).sum_le_sum fun vcpus hmem ↦ ?_
  obtain ⟨c, hc, rfl⟩ := List.mem_map.mp hmem
  exact hvcpus c hc

theorem Covers.of_sublist (hcovers : Covers memGap vcpuGap part) (h : part.Sublist victims)
    (hvcpus : ∀ c ∈ victims, 0 ≤ c.vcpus) : Covers memGap vcpuGap victims :=
  ⟨hcovers.1.trans (freedMem_le_of_sublist h), hcovers.2.trans (freedVCPU_le_of_sublist h hvcpus)⟩

theorem covers_perm {other : List EvictionCandidate} (h : victims.Perm other) :
    Covers memGap vcpuGap victims ↔ Covers memGap vcpuGap other := by
  unfold Covers freedMem freedVCPU
  rw [(h.map _).sum_eq, (h.map EvictionCandidate.vcpus).sum_eq]

/-! ## The plan -/

theorem gap_pos_of_not_fitsNode (h : fitsNode st shape = false) :
    0 < Pool.memGap shape st ∨ 0 < Pool.vcpuGap shape st := by
  unfold fitsNode at h
  unfold Pool.memGap Pool.vcpuGap
  split_ifs at h with hmem
  · left
    rw [if_pos hmem]
    omega
  · right
    simp only [Bool.or_eq_false_iff, Bool.not_eq_false', decide_eq_false_iff_not, not_le] at h
    rw [if_pos h]
    omega

/-- Where there is a gap, some segment closes it if and only if all the candidates do. -/
theorem closable_iff_covers (hgap : 0 < memGap ∨ 0 < vcpuGap) (hvcpus : ∀ c ∈ victims, 0 ≤ c.vcpus) :
    Closable memGap vcpuGap victims ↔ Covers memGap vcpuGap victims := by
  constructor
  · rintro ⟨segment, hsegment, -, hcovers⟩
    exact hcovers.of_sublist hsegment.sublist hvcpus
  · intro hcovers
    refine ⟨victims, List.prefix_rfl, ?_, hcovers⟩
    rintro rfl
    obtain ⟨hmem, hcpu⟩ := hcovers
    simp only [freedMem, freedVCPU, List.map_nil, List.sum_nil] at hmem hcpu
    omega

theorem freed_of_planEviction (candidates : List EvictionCandidate) (shape : Shape) (st : NodeState) :
    (planEviction candidates shape st).freedMem = freedMem (planEviction candidates shape st).victims ∧
      (planEviction candidates shape st).freedVCPU =
        freedVCPU (planEviction candidates shape st).victims := by
  unfold planEviction
  split_ifs with hfits
  · exact ⟨rfl, rfl⟩
  · dsimp only
    cases htake : takeVictims { memGap := Pool.memGap shape st, vcpuGap := Pool.vcpuGap shape st }
        (evictionOrder candidates) with
    | none => exact ⟨rfl, rfl⟩
    | some plan =>
      obtain ⟨more, rfl, -⟩ := takeVictims_eq_some [] htake
      exact ⟨rfl, rfl⟩

/-- The victims are found where the shape does not fit and all the candidates together close the gaps, and
are then the shortest segment of the order that closes them. -/
theorem planEviction_spec (hvcpus : ∀ c ∈ candidates, 0 ≤ c.vcpus) (shape : Shape) (st : NodeState) :
    ((planEviction candidates shape st).victims ≠ [] ↔
      fitsNode st shape = false ∧ Covers (Pool.memGap shape st) (Pool.vcpuGap shape st) candidates) ∧
    ((planEviction candidates shape st).victims ≠ [] →
      ShortestCover (Pool.memGap shape st) (Pool.vcpuGap shape st) (evictionOrder candidates)
        (planEviction candidates shape st).victims) ∧
    StablyOrdered candidates (evictionOrder candidates) ∧
    (planEviction candidates shape st).freedMem = freedMem (planEviction candidates shape st).victims ∧
    (planEviction candidates shape st).freedVCPU = freedVCPU (planEviction candidates shape st).victims := by
  have hordered := stablyOrdered_evictionOrder candidates
  refine ⟨?_, fun hplanned ↦ (planEviction_shortest hplanned).2, hordered,
    freed_of_planEviction candidates shape st⟩
  rw [planEviction_ne_nil]
  refine and_congr_right fun hfits ↦ ?_
  rw [closable_iff_covers (gap_pos_of_not_fitsNode hfits) fun c hc ↦ hvcpus c (mem_evictionOrder.mp hc),
    covers_perm hordered.perm]

/-! ## Needless victims -/

/-- A proper part of a list is a part of what one removal leaves. -/
theorem exists_removed_of_sublist {whole : List EvictionCandidate} (h : part.Sublist whole)
    (hne : part ≠ whole) :
    ∃ before c after, whole = before ++ c :: after ∧ part.Sublist (before ++ after) := by
  induction h with
  | slnil => exact absurd rfl hne
  | @cons part rest c hsublist _ => exact ⟨[], c, rest, rfl, hsublist⟩
  | @cons_cons part rest c _ ih =>
    obtain ⟨before, removed, after, rfl, hsublist⟩ := ih fun heq ↦ hne (heq ▸ rfl)
    exact ⟨c :: before, removed, after, rfl, hsublist.cons_cons c⟩

theorem freed_removed (before after : List EvictionCandidate) (c : EvictionCandidate) :
    freedMem (before ++ c :: after) = freedMem (before ++ after) + c.memBytes ∧
      freedVCPU (before ++ c :: after) = freedVCPU (before ++ after) + c.vcpus := by
  simp only [freedMem, freedVCPU, List.map_append, List.map_cons, List.sum_append, List.sum_cons]
  omega

theorem minimal_iff (hvcpus : ∀ c ∈ victims, 0 ≤ c.vcpus) :
    (∀ part : List EvictionCandidate, part.Sublist victims → part ≠ victims → ¬ Covers memGap vcpuGap part) ↔
      ∀ c ∈ victims, freedMem victims < memGap + c.memBytes ∨ freedVCPU victims < vcpuGap + c.vcpus := by
  constructor
  · intro hminimal c hc
    obtain ⟨before, after, rfl⟩ := List.append_of_mem hc
    have hopen : ¬ Covers memGap vcpuGap (before ++ after) := by
      refine hminimal _ ((List.sublist_cons_self c after).append_left before) fun heq ↦ ?_
      have hlength := congrArg List.length heq
      simp at hlength
    obtain ⟨hmem, hcpu⟩ := freed_removed before after c
    unfold Covers at hopen
    omega
  · intro hneeded part hpart hne hcovers
    obtain ⟨before, c, after, rfl, hrest⟩ := exists_removed_of_sublist hpart hne
    have hclosed : Covers memGap vcpuGap (before ++ after) := by
      refine hcovers.of_sublist hrest fun d hd ↦ hvcpus d ?_
      exact ((List.sublist_cons_self c after).append_left before).subset hd
    obtain ⟨hmem, hcpu⟩ := freed_removed before after c
    have hlarge := hneeded c (List.mem_append_right _ List.mem_cons_self)
    unfold Covers at hclosed
    omega

theorem planEviction_subset : (planEviction candidates shape st).victims ⊆ candidates := by
  by_cases hplanned : (planEviction candidates shape st).victims = []
  · simp [hplanned]
  · intro c hc
    exact mem_evictionOrder.mp ((planEviction_shortest hplanned).2.initial.subset hc)

/-- The last VM of the shortest segment is needed: without it the segment would be shorter. -/
theorem ShortestCover.last_needed {ordered before : List EvictionCandidate} {last : EvictionCandidate}
    (h : ShortestCover memGap vcpuGap ordered (before ++ [last])) (hgap : 0 < memGap ∨ 0 < vcpuGap) :
    freedMem (before ++ [last]) < memGap + last.memBytes ∨
      freedVCPU (before ++ [last]) < vcpuGap + last.vcpus := by
  have hopen : ¬ Covers memGap vcpuGap before := by
    intro hcovers
    by_cases hnil : before = []
    · simp only [Covers, hnil, freedMem, freedVCPU, List.map_nil, List.sum_nil] at hcovers
      omega
    · have hinitial : before <+: ordered := (List.prefix_append before [last]).trans h.initial
      have hlength := (h.least before hinitial hnil hcovers).length_le
      simp at hlength
  obtain ⟨hmem, hcpu⟩ := freed_removed before [] last
  rw [List.append_nil] at hmem hcpu
  unfold Covers at hopen
  omega

/-- A plan takes no needless victim if and only if, in the shortest segment of the order that closes the
gaps, each VM before the last one frees more than the segment has in surplus, of memory or of vCPUs. -/
theorem no_needless_victim_iff (hvcpus : ∀ c ∈ candidates, 0 ≤ c.vcpus) (shape : Shape) (st : NodeState) :
    (∀ part : List EvictionCandidate, part.Sublist (planEviction candidates shape st).victims →
      part ≠ (planEviction candidates shape st).victims →
      ¬ Covers (Pool.memGap shape st) (Pool.vcpuGap shape st) part) ↔
    (fitsNode st shape = false → ∀ before last,
      ShortestCover (Pool.memGap shape st) (Pool.vcpuGap shape st) (evictionOrder candidates)
        (before ++ [last]) →
      ∀ c ∈ before, freedMem (before ++ [last]) < Pool.memGap shape st + c.memBytes ∨
        freedVCPU (before ++ [last]) < Pool.vcpuGap shape st + c.vcpus) := by
  rw [minimal_iff fun c hc ↦ hvcpus c (planEviction_subset hc)]
  constructor
  · intro hneeded hfits before last hshortest c hc
    rw [planEviction_victims hfits hshortest] at hneeded
    exact hneeded c (List.mem_append_left _ hc)
  · intro hneeded c hc
    obtain ⟨hfits, hshortest⟩ := planEviction_shortest (List.ne_nil_of_mem hc)
    obtain ⟨before, last, hvictims⟩ := (List.eq_nil_or_concat' _).resolve_left hshortest.ne_nil
    rw [hvictims] at hc hshortest ⊢
    rcases List.mem_append.mp hc with hbefore | hlast
    · exact hneeded hfits before last hshortest c hbefore
    · obtain rfl := List.mem_singleton.mp hlast
      exact hshortest.last_needed (gap_pos_of_not_fitsNode hfits)

/-- A node with 2 GiB left. -/
def nearlyFull : NodeState where
  totalBytes := 16 * 2 ^ 30
  reserveBytes := 0
  committedBytes := 14 * 2 ^ 30
  availableBytes := 2 * 2 ^ 30
  cpuGated := false
  limitVCPU := 0
  committedVCPU := 0
  availableVCPU := 0

/-- A warm VM of 1 GiB. -/
def smallWarm : EvictionCandidate where
  row := { vmid := 101, node := "pve1", profile := "small", poolKind := .warm, state := .warm }
  memBytes := 2 ^ 30
  vcpus := 1
  preferred := true

/-- A hot VM of some size. -/
def hotOf (memBytes : ℕ) : EvictionCandidate where
  row := { vmid := 102, node := "pve1", profile := "large", poolKind := .hot, state := .hot }
  memBytes := memBytes
  vcpus := 4
  preferred := false

theorem vcpus_nonneg_of_smallWarm (memBytes : ℕ) : ∀ c ∈ [hotOf memBytes, smallWarm], 0 ≤ c.vcpus := by
  simp [hotOf, smallWarm]

/-- For 8 GiB the node lacks 6 GiB, and the two VMs of 9 GiB close the gap. -/
theorem planEviction_spec_nearlyFull :
    (planEviction [hotOf (8 * 2 ^ 30), smallWarm] ⟨8 * 2 ^ 30, 2⟩ nearlyFull).victims =
        [smallWarm, hotOf (8 * 2 ^ 30)] ∧
      (planEviction [hotOf (8 * 2 ^ 30), smallWarm] ⟨8 * 2 ^ 30, 2⟩ nearlyFull).victims ≠ [] :=
  ⟨by decide +kernel,
    (planEviction_spec (vcpus_nonneg_of_smallWarm (8 * 2 ^ 30)) ⟨8 * 2 ^ 30, 2⟩ nearlyFull).1.mpr
      ⟨by decide +kernel, by decide +kernel⟩⟩

/-- With a hot VM of 5 GiB the shortest segment is both VMs. -/
theorem shortestCover_nearlyFull {before : List EvictionCandidate} {last : EvictionCandidate}
    (h : ShortestCover (Pool.memGap ⟨8 * 2 ^ 30, 2⟩ nearlyFull) (Pool.vcpuGap ⟨8 * 2 ^ 30, 2⟩ nearlyFull)
      (evictionOrder [hotOf (5 * 2 ^ 30), smallWarm]) (before ++ [last])) :
    before = [smallWarm] ∧ last = hotOf (5 * 2 ^ 30) := by
  have hvictims : (planEviction [hotOf (5 * 2 ^ 30), smallWarm] ⟨8 * 2 ^ 30, 2⟩ nearlyFull).victims =
      [smallWarm] ++ [hotOf (5 * 2 ^ 30)] := by decide +kernel
  rw [planEviction_victims (by decide +kernel) h] at hvictims
  obtain ⟨hbefore, hlast⟩ := List.append_inj' hvictims rfl
  exact ⟨hbefore, List.singleton_inj.mp hlast⟩

/-- Both are needed when the hot VM has 5 GiB. -/
theorem no_needless_victim_nearlyFull :
    (planEviction [hotOf (5 * 2 ^ 30), smallWarm] ⟨8 * 2 ^ 30, 2⟩ nearlyFull).victims ≠ [] ∧
    ∀ part : List EvictionCandidate,
      part.Sublist (planEviction [hotOf (5 * 2 ^ 30), smallWarm] ⟨8 * 2 ^ 30, 2⟩ nearlyFull).victims →
      part ≠ (planEviction [hotOf (5 * 2 ^ 30), smallWarm] ⟨8 * 2 ^ 30, 2⟩ nearlyFull).victims →
      ¬ Covers (Pool.memGap ⟨8 * 2 ^ 30, 2⟩ nearlyFull) (Pool.vcpuGap ⟨8 * 2 ^ 30, 2⟩ nearlyFull) part := by
  refine ⟨by decide +kernel,
    (no_needless_victim_iff (vcpus_nonneg_of_smallWarm (5 * 2 ^ 30)) ⟨8 * 2 ^ 30, 2⟩ nearlyFull).mpr ?_⟩
  intro _ before last hshortest
  obtain ⟨rfl, rfl⟩ := shortestCover_nearlyFull hshortest
  decide +kernel

/-- When the hot VM has 8 GiB it closes the gap alone, and the warm one is destroyed for nothing. -/
theorem small_warm_vm_is_needless :
    (planEviction [hotOf (8 * 2 ^ 30), smallWarm] ⟨8 * 2 ^ 30, 2⟩ nearlyFull).victims =
        [smallWarm, hotOf (8 * 2 ^ 30)] ∧
      [hotOf (8 * 2 ^ 30)].Sublist [smallWarm, hotOf (8 * 2 ^ 30)] ∧
      Covers (Pool.memGap ⟨8 * 2 ^ 30, 2⟩ nearlyFull) (Pool.vcpuGap ⟨8 * 2 ^ 30, 2⟩ nearlyFull)
        [hotOf (8 * 2 ^ 30)] :=
  ⟨by decide +kernel, by decide +kernel, by decide +kernel⟩

end ScalesetProxmox.Pool
