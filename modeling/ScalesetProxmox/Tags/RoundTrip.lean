import ScalesetProxmox.Config.Profiles

/-!
# Reading a clone's tags back

What `profileOf`, `templateOf` and `isOwnedBy` make of the wire tags of `initial`. The template
class and the owner come back as they went in. The profile comes back without its trailing dashes:
`profileNameRE` admits a name such as `gpu-`, and `sanitize` drops dashes at the ends.
-/

namespace ScalesetProxmox.Tags

open Text
open ScalesetProxmox.Configuration (profileName profileChar)

variable {start other name scaleSetName profile templateClass : String} {tags : List String}

/-! ## Finding a tag by its constant -/

/-- Neither of two constants begins the other, so no text begins with both. -/
theorem hasPrefix_append_eq_false (hstart : hasPrefix start other = false)
    (hother : hasPrefix other start = false) (text : String) :
    hasPrefix (start ++ text) other = false := by
  rw [Bool.eq_false_iff] at hstart hother ⊢
  rw [Ne, hasPrefix_iff] at hstart hother ⊢
  intro hprefix
  rw [String.toList_append] at hprefix
  rcases List.prefix_or_prefix_of_prefix hprefix (List.prefix_append start.toList text.toList) with h | h
  · exact hstart h
  · exact hother h

theorem findSome_cutPrefix {suffix : String} (hmem : start ++ suffix ∈ tags)
    (honly : ∀ tag ∈ tags, hasPrefix tag start → tag = start ++ suffix) :
    tags.findSome? (fun tag ↦ cutPrefix tag start) = some suffix := by
  induction tags with
  | nil => exact absurd hmem List.not_mem_nil
  | cons tag rest ih =>
    rw [List.findSome?_cons]
    cases htag : hasPrefix tag start with
    | true => rw [cutPrefix_eq_some.mpr (honly tag List.mem_cons_self htag)]
    | false =>
      have hne : start ++ suffix ≠ tag := by
        intro heq
        rw [← heq, hasPrefix_append] at htag
        exact Bool.false_ne_true htag.symm
      have hcut : cutPrefix tag start = none := by rw [cutPrefix, htag, if_neg Bool.false_ne_true]
      rw [hcut]
      exact ih (List.mem_of_ne_of_mem hne hmem) fun other hother ↦ honly other (.tail _ hother)

theorem firstSuffix_eq {suffix fallback wire : String} (hmem : start ++ suffix ∈ decode wire)
    (honly : ∀ tag ∈ decode wire, hasPrefix tag start → tag = start ++ suffix) (hne : suffix ≠ "") :
    firstSuffix start fallback wire = suffix := by
  rw [firstSuffix, findSome_cutPrefix hmem honly]
  exact if_neg hne

/-! ## What `sanitize` does to an accepted profile name -/

/-- The name without the dashes at its end. -/
def stripDashes (name : String) : String := String.ofList (name.toList.rdropWhile (· = '-'))

def endsInDash (name : String) : Bool := name.toList.getLast? = some '-'

theorem stripDashes_eq_self_iff : stripDashes name = name ↔ endsInDash name = false := by
  rw [stripDashes, ← String.toList_inj, String.toList_ofList, List.rdropWhile_eq_self_iff, endsInDash,
    decide_eq_false_iff_not]
  constructor
  · intro hlast heq
    have hne : name.toList ≠ [] := by
      intro hnil
      rw [hnil] at heq
      exact Option.some_ne_none _ heq.symm
    apply hlast hne
    rw [List.getLast?_eq_some_getLast hne, Option.some.injEq] at heq
    exact decide_eq_true heq
  · intro hlast hne hdash
    apply hlast
    rw [List.getLast?_eq_some_getLast hne, of_decide_eq_true hdash]

theorem toLower_eq_self {c : Char} (h : tagChar c) : c.toLower = c := by
  have hnot : ¬ (c.val ≥ 'A'.val ∧ c.val ≤ 'Z'.val) := by
    rcases tagChar_cases h with ⟨hlow, _⟩ | ⟨_, hhigh⟩ | rfl
    · have hlow : 'a'.val ≤ c.val := hlow
      intro hupper
      exact absurd (UInt32.le_trans hlow hupper.2) (by decide)
    · have hhigh : c.val ≤ '9'.val := hhigh
      intro hupper
      exact absurd (UInt32.le_trans hupper.1 hhigh) (by decide)
    · decide
  unfold Char.toLower
  rw [dif_neg hnot]

theorem sanitize_of_tagChar (h : ∀ c ∈ name.toList, tagChar c) :
    sanitize name = trim (· = '-') name := by
  have hlower : name.toList.map Char.toLower = name.toList := by
    conv_rhs => rw [← List.map_id name.toList]
    exact List.map_congr_left fun c hc ↦ toLower_eq_self (h c hc)
  have hfold : (name.toList.map fun c ↦
      if ('a' ≤ c ∧ c ≤ 'z') ∨ ('0' ≤ c ∧ c ≤ '9') then c else '-') = name.toList := by
    conv_rhs => rw [← List.map_id name.toList]
    apply List.map_congr_left
    intro c hc
    split_ifs with hkept
    · rfl
    · rcases tagChar_cases (h c hc) with hc | hc | rfl
      · exact absurd (.inl hc) hkept
      · exact absurd (.inr hc) hkept
      · rfl
  rw [sanitize, hlower, hfold, String.ofList_toList]

theorem profileChar_ne_dash {c : Char} (h : profileChar c) : c ≠ '-' := by
  rintro rfl
  exact absurd h (by decide)

/-- The first character of an accepted name is not a dash, so only its end is trimmed. -/
theorem sanitize_profileName (h : profileName name) : sanitize name = stripDashes name := by
  unfold profileName at h
  cases hchars : name.toList with
  | nil => simp [hchars] at h
  | cons first rest =>
    simp only [hchars, Bool.and_eq_true] at h
    have htag : ∀ c ∈ name.toList, tagChar c := by
      intro c hc
      rw [hchars, List.mem_cons] at hc
      rcases hc with rfl | hc
      · have := h.1.1
        simp only [profileChar, decide_eq_true_eq] at this
        exact decide_eq_true (this.imp_right .inl)
      · have := List.all_eq_true.mp h.1.2 c hc
        simp only [profileChar, Bool.or_eq_true, decide_eq_true_eq, or_assoc] at this
        exact decide_eq_true this
    have hfirst : name.toList.dropWhile (fun c ↦ decide (c = '-')) = name.toList := by
      rw [hchars, List.dropWhile_cons_of_neg]
      simpa using profileChar_ne_dash h.1.1
    rw [sanitize_of_tagChar htag, trim, hfirst, stripDashes]

theorem stripDashes_ne_empty (h : profileName name) : stripDashes name ≠ "" := by
  unfold profileName at h
  intro hempty
  have hnil := congrArg String.toList hempty
  rw [stripDashes, String.toList_ofList, String.toList_empty, List.rdropWhile_eq_nil_iff] at hnil
  cases hchars : name.toList with
  | nil => simp [hchars] at h
  | cons first rest =>
    simp only [hchars, Bool.and_eq_true] at h
    exact profileChar_ne_dash h.1.1 (of_decide_eq_true (hnil first (hchars ▸ List.mem_cons_self)))

theorem profileTag_of_profileName (h : profileName name) :
    profileTag name = profilePrefix ++ stripDashes name := by
  have hne : name ≠ "" := by
    rintro rfl
    exact absurd h (by decide)
  rw [profileTag, if_neg hne, sanitize_profileName h]

/-! ## The tags of a clone, read back -/

theorem eq_append_of_ownerTag {owner : String} (h : ownerTag scaleSetName = some owner) :
    owner = ownerPrefix ++ sanitize scaleSetName := by
  unfold ownerTag at h
  split_ifs at h
  exact (Option.some.inj h).symm

theorem eq_of_hasPrefix_of_mem_initial {tag : String}
    (h : initial scaleSetName profile templateClass = some tags) (htag : tag ∈ tags) :
    (hasPrefix tag profilePrefix → tag = profileTag profile) ∧
      (hasPrefix tag templatePrefix →
        tag = templateTag (if templateClass = "" then templateStable else templateClass)) := by
  obtain ⟨owner, howner, rfl⟩ := Option.map_eq_some_iff.mp h
  simp only [List.mem_cons, List.not_mem_nil, or_false] at htag
  rcases htag with rfl | rfl | rfl | rfl
  · exact ⟨fun hstart ↦ absurd hstart (by decide), fun hstart ↦ absurd hstart (by decide)⟩
  · rw [eq_append_of_ownerTag howner, hasPrefix_append_eq_false (by decide) (by decide),
      hasPrefix_append_eq_false (by decide) (by decide)]
    exact ⟨fun hstart ↦ absurd hstart Bool.false_ne_true, fun hstart ↦ absurd hstart Bool.false_ne_true⟩
  · refine ⟨fun _ ↦ rfl, fun hstart ↦ ?_⟩
    rw [profileTag, hasPrefix_append_eq_false (by decide) (by decide)] at hstart
    exact absurd hstart Bool.false_ne_true
  · refine ⟨fun hstart ↦ ?_, fun _ ↦ rfl⟩
    rw [templateTag, hasPrefix_append_eq_false (by decide) (by decide)] at hstart
    exact absurd hstart Bool.false_ne_true

theorem profileOf_encode_initial (hprofile : profileName profile)
    (h : initial scaleSetName profile templateClass = some tags) :
    profileOf (encode tags) = stripDashes profile := by
  have hplain := plain_of_mem_initial h
  rw [profileOf, firstSuffix_eq _ _ (stripDashes_ne_empty hprofile)]
  · rw [mem_decode_encode hplain, ← profileTag_of_profileName hprofile]
    obtain ⟨owner, -, rfl⟩ := Option.map_eq_some_iff.mp h
    simp
  · intro tag htag hstart
    rw [mem_decode_encode hplain] at htag
    rw [(eq_of_hasPrefix_of_mem_initial h htag).1 hstart, profileTag_of_profileName hprofile]

theorem templateOf_encode_initial
    (hclass : templateClass = templateStable ∨ templateClass = templateCandidate)
    (h : initial scaleSetName profile templateClass = some tags) :
    templateOf (encode tags) = templateClass := by
  have hplain := plain_of_mem_initial h
  have htemplate : templateTag (if templateClass = "" then templateStable else templateClass) =
      templatePrefix ++ templateClass := by
    rcases hclass with rfl | rfl
    · decide
    · decide
  have hne : templateClass ≠ "" := by
    rcases hclass with rfl | rfl
    · decide
    · decide
  rw [templateOf, firstSuffix_eq _ _ hne]
  · rw [mem_decode_encode hplain, ← htemplate]
    obtain ⟨owner, -, rfl⟩ := Option.map_eq_some_iff.mp h
    simp
  · intro tag htag hstart
    rw [mem_decode_encode hplain] at htag
    rw [(eq_of_hasPrefix_of_mem_initial h htag).2 hstart, htemplate]

theorem isOwnedBy_encode_initial_iff {owner otherOwner : String}
    (howner : ownerTag scaleSetName = some owner) (hother : ownerTag other = some otherOwner)
    (h : initial scaleSetName profile templateClass = some tags) :
    isOwnedBy (encode tags) other ↔ otherOwner = owner := by
  have hplain := plain_of_mem_initial h
  have hmarker : marker ∈ tags := marker_mem_initial h
  simp only [isOwnedBy, hother, decide_eq_true_eq, mem_decode_encode hplain, hmarker, true_and]
  rw [ownerTag_mem_initial h hother, howner, Option.some.injEq, eq_comm]

theorem profileTag_inj (hprofile : profileName profile) (hother : profileName other) :
    profileTag other = profileTag profile ↔ stripDashes other = stripDashes profile := by
  rw [profileTag_of_profileName hprofile, profileTag_of_profileName hother, ← String.toList_inj,
    String.toList_append, String.toList_append, List.append_cancel_left_eq, String.toList_inj]

/-- A clone's tags read back as they were written, but for a profile name that ends in a dash: such a
name comes back shorter, and shares its tag with the shorter name. -/
theorem initial_round_trip {scaleSetName owner profile templateClass : String}
    (howner : ownerTag scaleSetName = some owner) (hprofile : profileName profile = true)
    (hclass : templateClass = templateStable ∨ templateClass = templateCandidate) :
    ∃ tags, initial scaleSetName profile templateClass = some tags ∧
      (profileOf (encode tags) = profile ↔ endsInDash profile = false) ∧
      templateOf (encode tags) = templateClass ∧
      (∀ other, profileName other = true → endsInDash profile = false → endsInDash other = false →
        other ≠ profile → profileTag other ≠ profileTag profile) ∧
      ∀ other otherOwner, ownerTag other = some otherOwner →
        (isOwnedBy (encode tags) other = true ↔ otherOwner = owner) := by
  have hne : templateClass ≠ "" := by
    rcases hclass with rfl | rfl
    · decide
    · decide
  have hinitial : initial scaleSetName profile templateClass =
      some [marker, owner, profileTag profile, templateTag templateClass] := by
    rw [initial, howner, Option.map_some, if_neg hne]
  refine ⟨_, hinitial, ?_, templateOf_encode_initial hclass hinitial, ?_, ?_⟩
  · rw [profileOf_encode_initial hprofile hinitial, stripDashes_eq_self_iff]
  · intro other hother hdash hotherDash hdistinct htag
    rw [profileTag_inj hprofile hother, stripDashes_eq_self_iff.mpr hdash,
      stripDashes_eq_self_iff.mpr hotherDash] at htag
    exact hdistinct htag
  · intro other otherOwner hother
    exact isOwnedBy_encode_initial_iff howner hother hinitial

theorem initial_round_trip_gpu :
    ∃ tags, initial "linux" "gpu" "candidate" = some tags ∧ profileOf (encode tags) = "gpu" := by
  have howner : ownerTag "linux" = some "gh-scaleset-owner-linux" := by decide
  have hgpu : profileName "gpu" := by decide
  have hclass : "candidate" = templateStable ∨ "candidate" = templateCandidate := .inr rfl
  obtain ⟨tags, htags, hprofile, -⟩ := initial_round_trip howner hgpu hclass
  exact ⟨tags, htags, hprofile.mpr (by decide)⟩

/-- Two accepted profile names, one tag: the clones of `gpu-` are read back as clones of `gpu`. -/
theorem trailing_dash_lost :
    profileName "gpu-" = true ∧ profileName "gpu" = true ∧ profileTag "gpu-" = profileTag "gpu" ∧
      (initial "linux" "gpu-" "stable").map (fun tags ↦ profileOf (encode tags)) = some "gpu" := by
  decide +kernel

end ScalesetProxmox.Tags
