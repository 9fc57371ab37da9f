import ScalesetProxmox.Tags.Schema
import ScalesetProxmox.Table.Keyed

/-!
# Network interfaces and the firewall flag

A NIC is a string of attributes separated by commas, and Proxmox filters its traffic only if one of them
is `firewall=1`. A profile's overrides replace the first NICs of a clone; the others are patched in
place (`nicFirewallPatches`), which leaves every other attribute as it is.
-/

namespace ScalesetProxmox.Provisioner

open Text
open Tags (isSpace)

/-! ## Net strings -/

/-- One network interface of a profile. -/
structure CloneNIC where
  bridge : String
  vlanTag : ℤ := 0
  vlanUntagged : Bool := false
  mtu : ℤ := 0
  model : String := ""
  deriving DecidableEq, Repr

def CloneNIC.parts (nic : CloneNIC) : List String :=
  [if nic.model = "" then "virtio" else nic.model, "bridge=" ++ nic.bridge] ++
    (if !nic.vlanUntagged && 0 < nic.vlanTag then [s!"tag={nic.vlanTag}"] else []) ++
    (if 0 < nic.mtu then [s!"mtu={nic.mtu}"] else [])

def encodeNIC (nic : CloneNIC) (firewallOn : Bool) : String :=
  join ',' (nic.parts ++ if firewallOn then ["firewall=1"] else [])

def firewallValue (part : String) : Option String :=
  (cut '=' part).bind fun field ↦
    if trim isSpace field.1 = "firewall" then some (trim isSpace field.2) else none

/-- The loop of `forceNICFirewallFlag`: the first `firewall` attribute is set, and whether it had to be. -/
def setFlag : List String → Option (List String × Bool)
  | [] => none
  | part :: rest =>
    match firewallValue part with
    | some value => some (if value = "1" then (part :: rest, false) else ("firewall=1" :: rest, true))
    | none => (setFlag rest).map fun found ↦ (part :: found.1, found.2)

/-- The string with the flag set, and whether it is another one. -/
def forceNICFirewallFlag (nic : String) : String × Bool :=
  match setFlag (split ',' nic) with
  | some (parts, changed) => if changed then (join ',' parts, true) else (nic, false)
  | none => (nic ++ ",firewall=1", true)

/-- The values of the `firewall` attributes. -/
def firewallFlags (nic : String) : List String := (split ',' nic).filterMap firewallValue

def attributes (nic : String) : List String := (split ',' nic).filter fun part ↦ firewallValue part = none

/-- One of the attributes is `firewall=1`. -/
def Flagged (nic : String) : Prop := "1" ∈ firewallFlags nic

instance (nic : String) : Decidable (Flagged nic) :=
  inferInstanceAs (Decidable ("1" ∈ firewallFlags nic))

/-- There is one `firewall` attribute and it is on. -/
def FirewallOn (nic : String) : Prop := firewallFlags nic = ["1"]

instance (nic : String) : Decidable (FirewallOn nic) :=
  inferInstanceAs (Decidable (firewallFlags nic = ["1"]))

theorem firewallValue_flag : firewallValue "firewall=1" = some "1" := by decide +kernel

theorem flag_separated : ',' ∉ "firewall=1".toList := by decide

theorem split_append_flag (nic : String) :
    split ',' (nic ++ ",firewall=1") = split ',' nic ++ ["firewall=1"] := by
  have hflag : split ',' "firewall=1" = ["firewall=1"] := by decide +kernel
  rw [← hflag]
  exact split_append ',' nic "firewall=1"

theorem firewallFlags_append_flag (nic : String) :
    firewallFlags (nic ++ ",firewall=1") = firewallFlags nic ++ ["1"] := by
  simp [firewallFlags, split_append_flag, firewallValue_flag]

theorem filterMap_of_setFlag_none {parts : List String} (h : setFlag parts = none) :
    parts.filterMap firewallValue = [] := by
  induction parts with
  | nil => rfl
  | cons part rest ih =>
    unfold setFlag at h
    split at h
    · cases h
    · next hpart =>
      rw [List.filterMap_cons, hpart]
      exact ih (Option.map_eq_none_iff.mp h)

section SetFlag

variable {parts : List String} {found : List String × Bool}

/-- The loop stops at the first `firewall` attribute and leaves a set one in its place. -/
theorem exists_of_setFlag (h : setFlag parts = some found) :
    ∃ before part flag after, parts = before ++ part :: after ∧ found.1 = before ++ flag :: after ∧
      before.filterMap firewallValue = [] ∧ (firewallValue part).isSome ∧
      firewallValue flag = some "1" ∧ (flag = part ∨ flag = "firewall=1" ∧ found.2) := by
  induction parts generalizing found with
  | nil => cases h
  | cons part rest ih =>
    unfold setFlag at h
    split at h
    · next value hpart =>
      have hsome : (firewallValue part).isSome := by simp [hpart]
      split at h
      · next hvalue =>
        cases h
        exact ⟨[], part, part, rest, rfl, rfl, rfl, hsome, hvalue ▸ hpart, .inl rfl⟩
      · cases h
        exact ⟨[], part, "firewall=1", rest, rfl, rfl, rfl, hsome, firewallValue_flag,
          .inr ⟨rfl, rfl⟩⟩
    · next hpart =>
      obtain ⟨tail, htail, rfl⟩ := Option.map_eq_some_iff.mp h
      obtain ⟨before, found, flag, after, hrest, hfound, hbefore, hrest'⟩ := ih htail
      refine ⟨part :: before, found, flag, after, ?_, ?_, ?_, hrest'⟩
      · rw [hrest, List.cons_append]
      · rw [hfound, List.cons_append]
      · rw [List.filterMap_cons, hpart, hbefore]

theorem setFlag_flagged (h : setFlag parts = some found) : "1" ∈ found.1.filterMap firewallValue := by
  obtain ⟨before, part, flag, after, -, hfound, -, -, hflag, -⟩ := exists_of_setFlag h
  rw [hfound]
  exact List.mem_filterMap.mpr ⟨flag, by simp, hflag⟩

/-- The parts after the loop: one `firewall` attribute, set, and the others as they were. -/
theorem setFlag_some (h : setFlag parts = some found)
    (honce : (parts.filterMap firewallValue).length ≤ 1) :
    found.1.filterMap firewallValue = ["1"] ∧
      (found.1.filter fun part ↦ firewallValue part = none) =
        parts.filter fun part ↦ firewallValue part = none := by
  obtain ⟨before, part, flag, after, hparts, hfound, hbefore, hpart, hflag, -⟩ := exists_of_setFlag h
  obtain ⟨value, hvalue⟩ := Option.isSome_iff_exists.mp hpart
  rw [hparts, List.filterMap_append, hbefore, List.nil_append, List.filterMap_cons, hvalue] at honce
  have hafter : after.filterMap firewallValue = [] :=
    List.eq_nil_of_length_eq_zero (Nat.le_zero.mp (Nat.le_of_succ_le_succ honce))
  rw [hparts, hfound]
  constructor
  · rw [List.filterMap_append, hbefore, List.filterMap_cons, hflag, hafter, List.nil_append]
  · simp [hflag, hvalue]

theorem setFlag_separated (h : setFlag parts = some found)
    (hseparated : ∀ part ∈ parts, ',' ∉ part.toList) :
    found.1 ≠ [] ∧ ∀ part ∈ found.1, ',' ∉ part.toList := by
  obtain ⟨before, part, flag, after, hparts, hfound, -, -, -, hset⟩ := exists_of_setFlag h
  rw [hparts, List.forall_mem_append, List.forall_mem_cons] at hseparated
  obtain ⟨hbefore, hpart, hafter⟩ := hseparated
  have hflag : ',' ∉ flag.toList := by
    rcases hset with rfl | ⟨rfl, -⟩
    · exact hpart
    · exact flag_separated
  rw [hfound, List.forall_mem_append, List.forall_mem_cons]
  exact ⟨List.append_ne_nil_of_right_ne_nil _ (List.cons_ne_nil _ _), hbefore, hflag, hafter⟩

theorem setFlag_unchanged (h : setFlag parts = some found) (hsame : found.2 = false) :
    found.1 = parts := by
  obtain ⟨before, part, flag, after, hparts, hfound, -, -, -, hset⟩ := exists_of_setFlag h
  rcases hset with rfl | ⟨-, hchanged⟩
  · rw [hfound, hparts]
  · rw [hsame] at hchanged
    cases hchanged

end SetFlag

theorem force_unchanged {nic : String} (h : (forceNICFirewallFlag nic).2 = false) :
    (forceNICFirewallFlag nic).1 = nic := by
  unfold forceNICFirewallFlag at h ⊢
  split at h
  · split at h
    · cases h
    · next hchanged => simp [hchanged]
  · cases h

theorem split_force (nic : String) :
    split ',' (forceNICFirewallFlag nic).1 =
      ((setFlag (split ',' nic)).map Prod.fst).getD (split ',' nic ++ ["firewall=1"]) := by
  unfold forceNICFirewallFlag
  split
  · next parts changed hfound =>
    have hseparated := setFlag_separated hfound fun _ ↦ separator_notMem_of_mem_split
    rw [hfound, Option.map_some, Option.getD_some]
    split
    · exact split_join hseparated.2 hseparated.1
    · next hchanged => exact (setFlag_unchanged hfound (Bool.eq_false_iff.mpr hchanged)).symm
  · next hfound =>
    rw [hfound, Option.map_none, Option.getD_none]
    exact split_append_flag nic

theorem flagged_force (nic : String) : Flagged (forceNICFirewallFlag nic).1 := by
  unfold Flagged firewallFlags
  rw [split_force]
  cases hfound : setFlag (split ',' nic) with
  | some found => exact setFlag_flagged hfound
  | none => simp [firewallValue_flag]

/-- `forceNICFirewallFlag` sets the flag and touches nothing else. -/
theorem force_spec {nic : String} (honce : (firewallFlags nic).length ≤ 1) :
    FirewallOn (forceNICFirewallFlag nic).1 ∧
      attributes (forceNICFirewallFlag nic).1 = attributes nic := by
  unfold FirewallOn firewallFlags attributes
  rw [split_force]
  cases hfound : setFlag (split ',' nic) with
  | some found => exact setFlag_some hfound honce
  | none =>
    have hnone := filterMap_of_setFlag_none hfound
    simp [hnone, firewallValue_flag]

theorem encodeNIC_true (nic : CloneNIC) : encodeNIC nic true = join ',' nic.parts ++ ",firewall=1" :=
  join_append_singleton (by simp [CloneNIC.parts]) "firewall=1"

theorem flagged_encodeNIC (nic : CloneNIC) : Flagged (encodeNIC nic true) := by
  rw [Flagged, encodeNIC_true, firewallFlags_append_flag]
  exact List.mem_append_right _ (List.mem_singleton_self _)

theorem firewallOn_encodeNIC {nic : CloneNIC} (honce : (firewallFlags (encodeNIC nic true)).length ≤ 1) :
    FirewallOn (encodeNIC nic true) := by
  rw [encodeNIC_true, firewallFlags_append_flag] at honce
  have hnone : firewallFlags (join ',' nic.parts) = [] :=
    List.eq_nil_of_length_eq_zero (by simpa using honce)
  rw [FirewallOn, encodeNIC_true, firewallFlags_append_flag, hnone, List.nil_append]

/-! ## The NICs of a VM -/

/-- `net<index>`. -/
structure Nic where
  index : ℕ
  value : String
  deriving DecidableEq, Repr

abbrev Nets := Table ℕ Nic Nic.index

/-- An option of a `Config` call. -/
inductive VMOption
  | tags (value : String)
  | cores (count : ℤ)
  | memory (mb : ℤ)
  | net (nic : Nic)
  | ipconfig0 (value : String)
  deriving DecidableEq, Repr

def applyOption (nets : Nets) : VMOption → Nets
  | .net nic => nets.put nic
  | _ => nets

/-- The NICs after a `Config` call. -/
def applyOptions (nets : Nets) (options : List VMOption) : Nets := options.foldl applyOption nets

/-- The options that set the flag on the NICs from `overridden` on. -/
def nicFirewallPatches (nets : Nets) (overridden : ℕ) : List VMOption :=
  nets.rows.filterMap fun nic ↦
    if nic.index < overridden then none
    else if nic.value = "" then none
    else
      let forced := forceNICFirewallFlag nic.value
      if forced.2 then some (.net { nic with value := forced.1 }) else none

/-- The options that replace the first NICs. -/
def nicOverrides (nics : List CloneNIC) (firewallOn : Bool) : List VMOption :=
  nics.zipIdx.map fun entry ↦ .net { index := entry.2, value := encodeNIC entry.1 firewallOn }

theorem mem_nicFirewallPatches {nets : Nets} {overridden : ℕ} {nic : Nic} :
    .net nic ∈ nicFirewallPatches nets overridden ↔
      overridden ≤ nic.index ∧ ∃ original, nets.get nic.index = some original ∧ original.value ≠ "" ∧
        (forceNICFirewallFlag original.value).2 ∧
        nic.value = (forceNICFirewallFlag original.value).1 := by
  simp only [nicFirewallPatches, List.mem_filterMap]
  constructor
  · rintro ⟨original, hmem, hpatch⟩
    split_ifs at hpatch with hindex hvalue hforced
    cases hpatch
    exact ⟨not_lt.mp hindex, original, Table.get_of_mem_rows hmem, hvalue, hforced, rfl⟩
  · rintro ⟨hindex, original, hget, hvalue, hforced, hnic⟩
    have hkey : original.index = nic.index := Table.key_of_get hget
    refine ⟨original, Table.mem_rows.mpr (hkey ▸ hget), ?_⟩
    rw [if_neg (by omega), if_neg hvalue, if_pos hforced, ← hnic, hkey]

theorem mem_nicOverrides {nics : List CloneNIC} {firewallOn : Bool} {nic : Nic} :
    .net nic ∈ nicOverrides nics firewallOn ↔
      ∃ override, nics[nic.index]? = some override ∧ nic.value = encodeNIC override firewallOn := by
  simp only [nicOverrides, List.mem_map, VMOption.net.injEq]
  constructor
  · rintro ⟨entry, hmem, rfl⟩
    exact ⟨entry.1, List.mem_zipIdx_iff_getElem?.mp hmem, rfl⟩
  · rintro ⟨override, hget, hvalue⟩
    exact ⟨(override, nic.index), List.mem_zipIdx_iff_getElem?.mpr hget, by rw [← hvalue]⟩

/-- A NIC that no option names is as before. -/
theorem get_applyOptions_of_notMem {nets : Nets} {options : List VMOption} {i : ℕ}
    (h : ∀ nic : Nic, .net nic ∈ options → nic.index ≠ i) :
    (applyOptions nets options).get i = nets.get i := by
  induction options generalizing nets with
  | nil => rfl
  | cons option rest ih =>
    have hrest : ∀ nic : Nic, .net nic ∈ rest → nic.index ≠ i :=
      fun nic hnic ↦ h nic (List.mem_cons_of_mem _ hnic)
    refine (ih hrest).trans ?_
    cases option with
    | net nic => exact Table.get_put_ne _ (h nic List.mem_cons_self).symm
    | _ => rfl

theorem get_applyOptions_of_mem {nets : Nets} {options : List VMOption} (nic : Nic)
    (hmem : .net nic ∈ options)
    (honly : ∀ other : Nic, .net other ∈ options → other.index = nic.index → other = nic) :
    (applyOptions nets options).get nic.index = some nic := by
  induction options generalizing nets with
  | nil => cases hmem
  | cons option rest ih =>
    by_cases hrest : .net nic ∈ rest
    · exact ih hrest fun other hother ↦ honly other (List.mem_cons_of_mem _ hother)
    · have hunnamed : ∀ other : Nic, .net other ∈ rest → other.index ≠ nic.index := by
        intro other hother hindex
        exact hrest (honly other (List.mem_cons_of_mem _ hother) hindex ▸ hother)
      have hoption : option = .net nic := ((List.mem_cons.mp hmem).resolve_right hrest).symm
      refine (get_applyOptions_of_notMem hunnamed).trans ?_
      rw [hoption]
      exact Table.get_put_self _ _

/-- The first NICs are the overrides and the others those of `origin` with nothing changed but the flag,
which is on for all of them. -/
def Fenced (origin : Nets) (overrides : List CloneNIC) (nets : Nets) : Prop :=
  ∀ (i : ℕ) (nic : Nic), nets.get i = some nic → nic.value ≠ "" →
    FirewallOn nic.value ∧
      match overrides[i]? with
      | some override => nic.value = encodeNIC override true
      | none => ∃ original, origin.get i = some original ∧ attributes nic.value = attributes original.value

/-- No net string has two `firewall` attributes. -/
structure FlaggedOnce (origin : Nets) (overrides : List CloneNIC) : Prop where
  nets : ∀ nic ∈ origin.rows, (firewallFlags nic.value).length ≤ 1
  overrides : ∀ override ∈ overrides, (firewallFlags (encodeNIC override true)).length ≤ 1

/-- The options replace the first NICs and patch the others, and name no NIC besides. -/
def Rewrites (origin : Nets) (overrides : List CloneNIC) (options : List VMOption) : Prop :=
  ∀ nic : Nic, .net nic ∈ options ↔
    .net nic ∈ nicOverrides overrides true ∨ .net nic ∈ nicFirewallPatches origin overrides.length

section Rewrites

variable {origin : Nets} {overrides : List CloneNIC} {options : List VMOption} {i : ℕ}

theorem Rewrites.get_override (h : Rewrites origin overrides options) {override : CloneNIC}
    (hi : overrides[i]? = some override) :
    (applyOptions origin options).get i = some { index := i, value := encodeNIC override true } := by
  have hlt := (List.getElem?_eq_some_iff.mp hi).1
  refine get_applyOptions_of_mem ⟨i, encodeNIC override true⟩
    ((h _).mpr (Or.inl (mem_nicOverrides.mpr ⟨override, hi, rfl⟩))) ?_
  intro other hother hindex
  rcases (h other).mp hother with hsame | hpatch
  · obtain ⟨same, hsame, hvalue⟩ := mem_nicOverrides.mp hsame
    rw [hindex, hi] at hsame
    cases hsame
    cases other
    simp_all
  · have hle := (mem_nicFirewallPatches.mp hpatch).1
    rw [hindex] at hle
    exact absurd hle (not_le.mpr hlt)

/-- A NIC that is not overridden has its flag set, unless it is empty. -/
theorem Rewrites.get_inherited (h : Rewrites origin overrides options) (hi : overrides[i]? = none) :
    (applyOptions origin options).get i = (origin.get i).map fun nic ↦
      if nic.value = "" then nic else { nic with value := (forceNICFirewallFlag nic.value).1 } := by
  have hle : overrides.length ≤ i := List.getElem?_eq_none_iff.mp hi
  have hpatches : ∀ nic : Nic, .net nic ∈ options → nic.index = i →
      .net nic ∈ nicFirewallPatches origin overrides.length := by
    intro nic hnic hindex
    refine ((h nic).mp hnic).resolve_left fun hoverride ↦ ?_
    obtain ⟨override, hget, -⟩ := mem_nicOverrides.mp hoverride
    rw [hindex, hi] at hget
    cases hget
  cases hget : origin.get i with
  | none =>
    refine (get_applyOptions_of_notMem fun nic hnic hindex ↦ ?_).trans hget
    obtain ⟨-, original, horiginal, -⟩ := mem_nicFirewallPatches.mp (hpatches nic hnic hindex)
    rw [hindex, hget] at horiginal
    cases horiginal
  | some original =>
    have hkey : original.index = i := Table.key_of_get hget
    by_cases hpatched : original.value ≠ "" ∧ (forceNICFirewallFlag original.value).2 = true
    · rw [Option.map_some, if_neg hpatched.1, ← hkey]
      refine get_applyOptions_of_mem { original with value := (forceNICFirewallFlag original.value).1 }
        ((h _).mpr (Or.inr (mem_nicFirewallPatches.mpr ?_))) ?_
      · exact ⟨hkey ▸ hle, original, hkey ▸ hget, hpatched.1, hpatched.2, rfl⟩
      · intro other hother hindex
        obtain ⟨-, same, hsame, -, -, hvalue⟩ :=
          mem_nicFirewallPatches.mp (hpatches other hother (hindex.trans hkey))
        rw [hindex, hkey, hget] at hsame
        cases hsame
        cases other
        simp_all
    · refine (get_applyOptions_of_notMem fun nic hnic hindex ↦ ?_).trans ?_
      · obtain ⟨-, same, hsame, hvalue, hforced, -⟩ := mem_nicFirewallPatches.mp (hpatches nic hnic hindex)
        rw [hindex, hget] at hsame
        cases hsame
        exact hpatched ⟨hvalue, hforced⟩
      · rw [hget, Option.map_some]
        split_ifs with hvalue
        · rfl
        · have hunchanged := Bool.eq_false_iff.mpr fun hforced ↦ hpatched ⟨hvalue, hforced⟩
          rw [force_unchanged hunchanged]

/-- Overriding the first NICs and patching the others puts all of them on the firewall. -/
theorem Rewrites.flagged (h : Rewrites origin overrides options) {nic : Nic}
    (hmem : nic ∈ (applyOptions origin options).rows) (hvalue : nic.value ≠ "") : Flagged nic.value := by
  have hget := Table.get_of_mem_rows hmem
  cases hi : overrides[nic.index]? with
  | some override =>
    rw [h.get_override hi] at hget
    have hencoded : encodeNIC override true = nic.value := congrArg Nic.value (Option.some.inj hget)
    exact hencoded ▸ flagged_encodeNIC override
  | none =>
    rw [h.get_inherited hi] at hget
    obtain ⟨original, -, rfl⟩ := Option.map_eq_some_iff.mp hget
    by_cases hempty : original.value = ""
    · rw [if_pos hempty] at hvalue
      exact absurd hempty hvalue
    · rw [if_neg hempty]
      exact flagged_force original.value

/-- If no string has two `firewall` attributes, nothing else about them is changed. -/
theorem Rewrites.fenced (h : Rewrites origin overrides options) (honce : FlaggedOnce origin overrides) :
    Fenced origin overrides (applyOptions origin options) := by
  intro i nic hget hvalue
  cases hi : overrides[i]? with
  | some override =>
    rw [h.get_override hi] at hget
    cases hget
    exact ⟨firewallOn_encodeNIC (honce.overrides override (List.mem_of_getElem? hi)), rfl⟩
  | none =>
    rw [h.get_inherited hi] at hget
    obtain ⟨original, horiginal, rfl⟩ := Option.map_eq_some_iff.mp hget
    by_cases hempty : original.value = ""
    · rw [if_pos hempty] at hvalue
      exact absurd hempty hvalue
    · rw [if_neg hempty]
      have hkey : original.index = i := Table.key_of_get horiginal
      have hmem : original ∈ origin.rows := Table.mem_rows.mpr (hkey ▸ horiginal)
      obtain ⟨hflag, hothers⟩ := force_spec (honce.nets original hmem)
      exact ⟨hflag, original, horiginal, hothers⟩

end Rewrites

end ScalesetProxmox.Provisioner
