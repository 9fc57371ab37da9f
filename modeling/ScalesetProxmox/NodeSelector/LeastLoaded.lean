import ScalesetProxmox.NodeSelector.Stack
import Mathlib.Tactic.Positivity

/-!
# Offline nodes under `least_loaded`

`Fetch` turns the node list of the cluster into load scores. It reads the figures of every node and not its
status. Proxmox lists an offline node without figures, which is the best score there is, so an offline node
comes before every node with some load. The selection ranges over a map: what is said of it holds for every
order of the map's entries.
-/

namespace ScalesetProxmox.NodeSelector

inductive NodeHealth
  | online
  | offline
  | unknown
  deriving DecidableEq, Repr

/-- An entry of the cluster's node list. Nodes are host names, and `Select` lets the empty name stand for
no node. -/
structure NodeStatus where
  node : String
  status : NodeHealth
  /-- The part of the processors in use. -/
  cpu : ℚ
  mem : ℕ
  maxMem : ℕ
  named : node ≠ ""
  deriving DecidableEq

def NodeStatus.memFrac (ns : NodeStatus) : ℚ := if 0 < ns.maxMem then ns.mem / ns.maxMem else 0

def NodeStatus.score (ns : NodeStatus) : ℚ := 7 / 10 * ns.cpu + 3 / 10 * ns.memFrac

def NodeStatus.Online (ns : NodeStatus) : Prop := ns.status = .online

instance (ns : NodeStatus) : Decidable ns.Online := inferInstanceAs (Decidable (ns.status = .online))

/-- No list of nodes means all of them. -/
def want (nodes : List String) (name : String) : Bool := nodes.isEmpty || nodes.contains name

/-- A node that is listed twice keeps its last score. -/
def fetch (nodes : List String) (statuses : List NodeStatus) : Table String (String × ℚ) Prod.fst :=
  statuses.foldl
    (fun out ns ↦ if want nodes ns.node then out.put (ns.node, ns.score) else out) .empty

/-- The loop of `Select`. -/
def bestOf (avoid : List String) : String → ℚ → List (String × ℚ) → String
  | bestNode, _, [] => bestNode
  | bestNode, bestScore, (node, score) :: rest =>
    if node ∈ avoid then bestOf avoid bestNode bestScore rest
    else if bestNode = "" ∨ score < bestScore then bestOf avoid node score rest
    else bestOf avoid bestNode bestScore rest

/-- `leastLoaded.Select` on scores that are visited in this order. -/
def selectAmong (scores : List (String × ℚ)) (hint : Hint) : Except Err String :=
  if scores = [] then .error .noEligibleNodes
  else
    let bestNode := bestOf hint.avoid "" 0 scores
    if bestNode = "" then .error .allCandidatesAvoided else .ok bestNode

/-! ## What the loop finds -/

section

variable {avoid : List String} {scores : List (String × ℚ)} {best : Option (String × ℚ)}
  {picked : String × ℚ}

/-- As long as nodes have names, the empty one is the same as none. -/
theorem bestOf_eq_leastScore (hnamed : ∀ entry ∈ scores, entry.1 ≠ "")
    (hbest : ∀ entry ∈ best, entry.1 ≠ "") :
    bestOf avoid ((best.map Prod.fst).getD "") ((best.map Prod.snd).getD 0) scores =
      ((leastScore avoid best scores).map Prod.fst).getD "" := by
  induction scores generalizing best with
  | nil => rfl
  | cons entry rest ih =>
    obtain ⟨node, score⟩ := entry
    obtain ⟨hnode, hrest⟩ := List.forall_mem_cons.mp hnamed
    have hnext := ih hrest (show ∀ entry ∈ some (node, score), entry.1 ≠ "" by simpa using hnode)
    simp only [bestOf, leastScore]
    split_ifs with havoid hbetter
    · exact ih hrest hbest
    · cases best with
      | none => exact hnext
      | some kept =>
        have hlt : score < kept.2 := hbetter.resolve_left (hbest kept rfl)
        dsimp only
        rw [if_pos hlt]
        exact hnext
    · cases best with
      | none => exact absurd (.inl rfl) hbetter
      | some kept =>
        have hge : ¬ score < kept.2 := fun hlt ↦ hbetter (.inr hlt)
        dsimp only
        rw [if_neg hge]
        exact ih hrest hbest

theorem leastScore_le (h : leastScore avoid best scores = some picked) :
    (∀ kept ∈ best, picked.2 ≤ kept.2) ∧ ∀ entry ∈ scores, entry.1 ∉ avoid → picked.2 ≤ entry.2 := by
  induction scores generalizing best with
  | nil =>
    cases h
    exact ⟨fun kept hkept ↦ le_of_eq (by cases hkept; rfl), List.forall_mem_nil _⟩
  | cons entry rest ih =>
    obtain ⟨node, score⟩ := entry
    simp only [leastScore] at h
    rw [List.forall_mem_cons]
    split_ifs at h with havoid
    · obtain ⟨hbest, hrest⟩ := ih h
      exact ⟨hbest, absurd havoid, hrest⟩
    · cases best with
      | none =>
        obtain ⟨hbest, hrest⟩ := ih h
        exact ⟨fun _ hnone ↦ absurd hnone (by simp), fun _ ↦ hbest _ rfl, hrest⟩
      | some kept =>
        dsimp only at h
        split_ifs at h with hlt
        · obtain ⟨hbest, hrest⟩ := ih h
          have hscore := hbest _ rfl
          refine ⟨fun other hother ↦ ?_, fun _ ↦ hscore, hrest⟩
          cases hother
          exact hscore.trans hlt.le
        · obtain ⟨hbest, hrest⟩ := ih h
          exact ⟨hbest, fun _ ↦ (hbest _ rfl).trans (not_lt.mp hlt), hrest⟩

/-- A best node stays the best when no later one has a better score. -/
theorem leastScore_of_least (h : ∀ entry ∈ scores, entry.1 ∉ avoid → picked.2 ≤ entry.2) :
    leastScore avoid (some picked) scores = some picked := by
  induction scores with
  | nil => rfl
  | cons entry rest ih =>
    obtain ⟨node, score⟩ := entry
    obtain ⟨hentry, hrest⟩ := List.forall_mem_cons.mp h
    simp only [leastScore]
    split_ifs with havoid hlt
    · exact ih hrest
    · exact absurd (hentry havoid) (not_le.mpr hlt)
    · exact ih hrest

theorem wantedScores_of_want {nodes : List String} (h : ∀ entry ∈ scores, want nodes entry.1) :
    wantedScores nodes scores = scores :=
  List.filter_eq_self.mpr h

theorem selectAmong_eq {nodes : List String} (hnamed : ∀ entry ∈ scores, entry.1 ≠ "")
    (hwant : ∀ entry ∈ scores, want nodes entry.1) (hint : Hint) :
    selectAmong scores hint = selectLeastLoaded nodes (some scores) hint := by
  have hloop : bestOf hint.avoid "" 0 scores =
      ((leastScore hint.avoid none scores).map Prod.fst).getD "" :=
    @bestOf_eq_leastScore hint.avoid scores none hnamed (by simp)
  unfold selectAmong selectLeastLoaded
  rw [Option.map_some, wantedScores_of_want hwant, hloop]
  cases scores with
  | nil => rfl
  | cons first rest =>
    rw [if_neg (List.cons_ne_nil _ _)]
    dsimp only
    cases hpicked : leastScore hint.avoid none (first :: rest) with
    | none => rfl
    | some picked =>
      have hne : picked.1 ≠ "" := by
        rcases leastScore_mem hpicked with ⟨hmem, _⟩ | hnone
        · exact hnamed picked hmem
        · cases hnone
      rw [Option.map_some, Option.getD_some, if_neg hne]

theorem selectLeastLoaded_least {nodes : List String} {hint : Hint} {node : String}
    (hwant : ∀ entry ∈ scores, want nodes entry.1)
    (h : selectLeastLoaded nodes (some scores) hint = .ok node) :
    ∃ score, ((node, score) ∈ scores ∧ node ∉ hint.avoid) ∧
      ∀ entry ∈ scores, entry.1 ∉ hint.avoid → score ≤ entry.2 := by
  unfold selectLeastLoaded at h
  rw [Option.map_some, wantedScores_of_want hwant] at h
  split at h
  · cases h
  · cases h
  · next kept _ hkept =>
    cases hkept
    split at h
    · cases h
    · next picked score hpicked =>
      cases h
      refine ⟨score, ?_, (leastScore_le hpicked).2⟩
      rcases leastScore_mem hpicked with hmem | hnone
      · exact hmem
      · cases hnone

end

/-! ## Fresh scores -/

/-- The entry that counts for each node. -/
def listed (statuses : List NodeStatus) : Table String NodeStatus NodeStatus.node :=
  statuses.foldl Table.put .empty

def NodeStatus.entry (ns : NodeStatus) : String × ℚ := (ns.node, ns.score)

variable {nodes : List String} {statuses : List NodeStatus} {hint : Hint}

theorem get_fetch (name : String) : (fetch nodes statuses).get name =
    if want nodes name then ((listed statuses).get name).map NodeStatus.entry else none := by
  unfold fetch listed
  have hstart (name : String) : (Table.empty : Table String (String × ℚ) Prod.fst).get name =
      if want nodes name then
        ((Table.empty : Table String NodeStatus NodeStatus.node).get name).map NodeStatus.entry
      else none := by
    simp
  generalize (Table.empty : Table String (String × ℚ) Prod.fst) = out at hstart ⊢
  generalize (Table.empty : Table String NodeStatus NodeStatus.node) = table at hstart ⊢
  induction statuses generalizing out table with
  | nil => exact hstart name
  | cons ns rest ih =>
    rw [List.foldl_cons, List.foldl_cons]
    apply ih
    intro other
    by_cases hother : other = ns.node
    · subst hother
      rw [Table.get_put_self]
      split_ifs with hwant
      · exact Table.get_put_self out ns.entry
      · rw [hstart, if_neg hwant]
    · rw [Table.get_put_ne ns hother, ← hstart]
      split_ifs
      · exact Table.get_put_ne ns.entry hother
      · rfl

/-- A node that the selection may choose, whether it is online or not. -/
def Candidate (nodes : List String) (statuses : List NodeStatus) (hint : Hint) (ns : NodeStatus) : Prop :=
  (listed statuses).get ns.node = some ns ∧ want nodes ns.node = true ∧ ns.node ∉ hint.avoid

theorem mem_fetch {entry : String × ℚ} : entry ∈ (fetch nodes statuses).rows ↔
    ∃ ns, ((listed statuses).get ns.node = some ns ∧ want nodes ns.node) ∧ ns.entry = entry := by
  rw [Table.mem_rows, get_fetch]
  constructor
  · intro h
    split_ifs at h with hwant
    obtain ⟨ns, hns, rfl⟩ := Option.map_eq_some_iff.mp h
    exact ⟨ns, ⟨hns, hwant⟩, rfl⟩
  · rintro ⟨ns, ⟨hns, hwant⟩, rfl⟩
    change (if want nodes ns.node = true then ((listed statuses).get ns.node).map NodeStatus.entry else none) =
      some ns.entry
    rw [if_pos hwant, hns, Option.map_some]

variable {order : List (String × ℚ)}

/-- Each order of the scores is read as the model reads them. -/
theorem select_order_eq (horder : order.Perm (fetch nodes statuses).rows) :
    (∀ entry ∈ order, want nodes entry.1) ∧
      selectAmong order hint = selectLeastLoaded nodes (some order) hint := by
  have hentry : ∀ entry ∈ order, entry.1 ≠ "" ∧ want nodes entry.1 := by
    intro entry hentry
    obtain ⟨ns, ⟨_, hwant⟩, rfl⟩ := mem_fetch.mp (horder.mem_iff.mp hentry)
    exact ⟨ns.named, hwant⟩
  have hwant : ∀ entry ∈ order, want nodes entry.1 := fun entry h ↦ (hentry entry h).2
  exact ⟨hwant, selectAmong_eq (fun entry h ↦ (hentry entry h).1) hwant hint⟩

variable {ns : NodeStatus}

theorem Candidate.entry_mem (h : Candidate nodes statuses hint ns)
    (horder : order.Perm (fetch nodes statuses).rows) : ns.entry ∈ order :=
  horder.mem_iff.mpr (mem_fetch.mpr ⟨ns, ⟨h.1, h.2.1⟩, rfl⟩)

/-- What is returned has the least score of all candidates. -/
theorem candidate_of_selectAmong (horder : order.Perm (fetch nodes statuses).rows) {node : String}
    (h : selectAmong order hint = .ok node) :
    ∃ picked, (picked.node = node ∧ Candidate nodes statuses hint picked) ∧
      ∀ other, Candidate nodes statuses hint other → picked.score ≤ other.score := by
  obtain ⟨hwant, heq⟩ := @select_order_eq nodes statuses hint order horder
  obtain ⟨score, ⟨hmem, hfree⟩, hleast⟩ := selectLeastLoaded_least hwant (heq ▸ h)
  obtain ⟨picked, ⟨hlisted, hpicked⟩, hentry⟩ := mem_fetch.mp (horder.mem_iff.mp hmem)
  cases hentry
  refine ⟨picked, ⟨rfl, hlisted, hpicked, hfree⟩, fun other hother ↦ ?_⟩
  exact hleast other.entry (hother.entry_mem horder) hother.2.2

theorem selectAmong_isOk (horder : order.Perm (fetch nodes statuses).rows)
    (h : Candidate nodes statuses hint ns) : ∃ node, selectAmong order hint = .ok node := by
  obtain ⟨hwant, heq⟩ := @select_order_eq nodes statuses hint order horder
  rw [heq, selectLeastLoaded_ok_iff, Option.map_some, wantedScores_of_want hwant, Option.getD_some]
  exact ⟨ns.entry, h.entry_mem horder, h.2.2⟩

theorem exists_order_selecting (h : Candidate nodes statuses hint ns)
    (hleast : ∀ other, Candidate nodes statuses hint other → ns.score ≤ other.score) :
    ∃ order, order.Perm (fetch nodes statuses).rows ∧ selectAmong order hint = .ok ns.node := by
  have hmem := h.entry_mem (.refl _)
  have hperm := List.perm_cons_erase hmem
  refine ⟨_, hperm.symm, ?_⟩
  obtain ⟨hwant, heq⟩ := @select_order_eq nodes statuses hint _ hperm.symm
  have hfirst : leastScore hint.avoid none (ns.entry :: (fetch nodes statuses).rows.erase ns.entry) =
      some ns.entry := by
    rw [NodeStatus.entry, leastScore, if_neg h.2.2]
    refine leastScore_of_least fun entry hentry hfree ↦ ?_
    obtain ⟨other, ⟨hlisted, hother⟩, rfl⟩ := mem_fetch.mp (List.mem_of_mem_erase hentry)
    exact hleast other ⟨hlisted, hother, hfree⟩
  rw [heq, selectLeastLoaded, Option.map_some, wantedScores_of_want hwant]
  dsimp only
  rw [hfirst]
  rfl

/-! ## Online and offline candidates -/

theorem Candidate.eq_of_node {other : NodeStatus} (h : Candidate nodes statuses hint ns)
    (hother : Candidate nodes statuses hint other) (hnode : ns.node = other.node) : ns = other := by
  have hlisted := h.1
  rw [hnode, hother.1] at hlisted
  exact (Option.some.inj hlisted).symm

/-- Whatever the order, the selection returns an online candidate of least score among those. -/
def PlacesOnline (nodes : List String) (statuses : List NodeStatus) (hint : Hint) : Prop :=
  ∀ order, order.Perm (fetch nodes statuses).rows → ∃ picked, selectAmong order hint = .ok picked.node ∧
    (Candidate nodes statuses hint picked ∧ picked.Online) ∧
      ∀ other, Candidate nodes statuses hint other → other.Online → picked.score ≤ other.score

/-- Every candidate that is not online is behind one that is. -/
def Outbid (nodes : List String) (statuses : List NodeStatus) (hint : Hint) : Prop :=
  ∀ ns, Candidate nodes statuses hint ns → ¬ ns.Online →
    ∃ other, Candidate nodes statuses hint other ∧ other.Online ∧ other.score < ns.score

/-- Among the best candidates there is one that is not online, unless all of these are outbid. -/
theorem exists_least_not_online (h : ¬ Outbid nodes statuses hint) :
    ∃ ns, (Candidate nodes statuses hint ns ∧ ¬ ns.Online) ∧
      ∀ other, Candidate nodes statuses hint other → ns.score ≤ other.score := by
  simp only [Outbid, not_forall, not_exists, not_and, not_lt] at h
  obtain ⟨ns, hns, hoffline, hbefore⟩ := h
  obtain ⟨node, hnode⟩ := selectAmong_isOk (.refl _) hns
  obtain ⟨picked, ⟨_, hpicked⟩, hleast⟩ := candidate_of_selectAmong (.refl _) hnode
  by_cases honline : picked.Online
  · refine ⟨ns, ⟨hns, hoffline⟩, fun other hother ↦ ?_⟩
    exact (hbefore picked hpicked honline).trans (hleast other hother)
  · exact ⟨picked, ⟨hpicked, honline⟩, hleast⟩

/-- With an online candidate, the selection places on one of the best of these if and only if every
candidate that is not online has a worse score than some online one. -/
theorem leastLoaded_places_online_iff (honline : ∃ ns, Candidate nodes statuses hint ns ∧ ns.Online) :
    PlacesOnline nodes statuses hint ↔ Outbid nodes statuses hint := by
  constructor
  · intro hplaces
    by_contra hbid
    obtain ⟨ns, ⟨hns, hoffline⟩, hleast⟩ := exists_least_not_online hbid
    obtain ⟨order, horder, hselect⟩ := exists_order_selecting hns hleast
    obtain ⟨picked, hpicked, ⟨hcandidate, hup⟩, _⟩ := hplaces order horder
    rw [hselect] at hpicked
    rw [hns.eq_of_node hcandidate (Except.ok.inj hpicked)] at hoffline
    exact hoffline hup
  · intro hbid order horder
    obtain ⟨ns, hns, _⟩ := honline
    obtain ⟨node, hselect⟩ := selectAmong_isOk horder hns
    obtain ⟨picked, ⟨rfl, hpicked⟩, hleast⟩ := candidate_of_selectAmong horder hselect
    refine ⟨picked, hselect, ⟨hpicked, ?_⟩, fun other hother _ ↦ hleast other hother⟩
    by_contra hoffline
    obtain ⟨other, hother, _, hlt⟩ := hbid picked hpicked hoffline
    exact absurd (hleast other hother) (not_le.mpr hlt)

/-- Figures as Proxmox reports them: nothing is negative, and a node that is not online has none. -/
def NodeStatus.Reported (ns : NodeStatus) : Prop :=
  0 ≤ ns.cpu ∧ (¬ ns.Online → ns.cpu = 0 ∧ ns.mem = 0 ∧ ns.maxMem = 0)

theorem NodeStatus.Reported.score_nonneg (h : ns.Reported) : 0 ≤ ns.score := by
  have hmem : 0 ≤ ns.memFrac := by
    unfold NodeStatus.memFrac
    split_ifs
    · positivity
    · exact le_rfl
  have hcpu := h.1
  unfold NodeStatus.score
  positivity

theorem NodeStatus.Reported.score_eq_zero (h : ns.Reported) (hoffline : ¬ ns.Online) : ns.score = 0 := by
  obtain ⟨hcpu, _, hmax⟩ := h.2 hoffline
  simp [NodeStatus.score, NodeStatus.memFrac, hcpu, hmax]

theorem get_listed {name : String} (h : (listed statuses).get name = some ns) : ns ∈ statuses := by
  rcases Table.mem_of_get_foldl_put h with hmem | hempty
  · exact hmem
  · cases hempty

/-- An offline node without figures is never outbid. -/
theorem outbid_iff_all_online (hreported : ∀ ns ∈ statuses, ns.Reported) :
    Outbid nodes statuses hint ↔ ∀ ns, Candidate nodes statuses hint ns → ns.Online := by
  constructor
  · intro hbid ns hns
    by_contra hoffline
    obtain ⟨other, hother, _, hlt⟩ := hbid ns hns hoffline
    rw [(hreported ns (get_listed hns.1)).score_eq_zero hoffline] at hlt
    exact absurd (hreported other (get_listed hother.1)).score_nonneg (not_le.mpr hlt)
  · exact fun hall ns hns hoffline ↦ absurd (hall ns hns) hoffline

def busyNode : NodeStatus where
  node := "pve1"
  status := .online
  cpu := 1 / 2
  mem := 8
  maxMem := 64
  named := by decide

def downNode : NodeStatus where
  node := "pve2"
  status := .offline
  cpu := 0
  mem := 0
  maxMem := 0
  named := by decide

/-- The offline node is avoided. -/
theorem leastLoaded_places_online_avoiding :
    PlacesOnline ["pve1", "pve2"] [busyNode, downNode] { avoid := ["pve2"] } := by
  have honline : Candidate ["pve1", "pve2"] [busyNode, downNode] { avoid := ["pve2"] } busyNode :=
    ⟨rfl, by decide, by decide⟩
  refine (leastLoaded_places_online_iff ⟨busyNode, honline, rfl⟩).mpr fun ns hns hoffline ↦ ?_
  rcases List.mem_pair.mp (get_listed hns.1) with rfl | rfl
  · exact absurd rfl hoffline
  · exact absurd hns.2.2 (by decide)

/-- Nothing is avoided, and the offline node is returned. -/
theorem offline_node_is_least_loaded :
    (busyNode.Reported ∧ downNode.Reported) ∧
    (Candidate ["pve1", "pve2"] [busyNode, downNode] {} busyNode ∧ busyNode.Online) ∧
    ¬ downNode.Online ∧
    selectAmong (fetch ["pve1", "pve2"] [busyNode, downNode]).rows {} = .ok downNode.node := by
  refine ⟨⟨⟨by decide +kernel, by decide⟩, le_rfl, by decide⟩, ⟨⟨rfl, by decide, by decide⟩, rfl⟩,
    by decide, ?_⟩
  decide +kernel

end ScalesetProxmox.NodeSelector
