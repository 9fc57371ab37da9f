import ScalesetProxmox.Text.Separated
import Mathlib.Data.List.Dedup
import Mathlib.Data.List.Sort
import Mathlib.Data.String.Basic

/-!
# Proxmox tags

The tag schema of `internal/tags/tags.go`: which tags a clone carries, how a tag list is written on
the wire and read back, and when a tag string makes a VM one of ours. Names are ASCII wherever the
schema is used, so lower-casing is the ASCII one.

`mem_decode_encode` is the round trip: the tags read back from an encoded list are exactly the
encoded ones, provided each is made of the characters the schema keeps to.
-/

namespace ScalesetProxmox.Tags

open Text

variable {tag text scaleSetName profileName templateClass : String} {tags : List String}

def marker : String := "gh-scaleset"
def ownerPrefix : String := "gh-scaleset-owner-"
def profilePrefix : String := "gh-scaleset-profile-"
def templatePrefix : String := "gh-scaleset-template-"
def defaultProfile : String := "default"
def templateStable : String := "stable"
def templateCandidate : String := "candidate"

/-- A character after the first of a scale set name. -/
def nameChar (c : Char) : Bool := c.isAlphanum || c = '_' || c = '.' || c = '-'

/-- `scaleSetNameRE`. -/
def scaleSetNameOK (name : String) : Bool :=
  match name.toList with
  | [] => false
  | first :: rest => first.isAlphanum && rest.length ≤ 62 && rest.all nameChar

/-- A character that tags are made of. -/
def tagChar (c : Char) : Bool := ('a' ≤ c ∧ c ≤ 'z') ∨ ('0' ≤ c ∧ c ≤ '9') ∨ c = '-'

/-- Lower-case, fold what is not a letter or digit to a dash, drop dashes at the ends. -/
def sanitize (text : String) : String :=
  trim (· = '-') (String.ofList ((text.toList.map Char.toLower).map fun c ↦
    if ('a' ≤ c ∧ c ≤ 'z') ∨ ('0' ≤ c ∧ c ≤ '9') then c else '-'))

/-- `none` for a name outside `scaleSetNameRE`. -/
def ownerTag (scaleSetName : String) : Option String :=
  if scaleSetNameOK scaleSetName then some (ownerPrefix ++ sanitize scaleSetName) else none

def profileTag (profileName : String) : String :=
  profilePrefix ++ sanitize (if profileName = "" then defaultProfile else profileName)

def templateTag (templateClass : String) : String :=
  templatePrefix ++ sanitize (if templateClass = "" then templateStable else templateClass)

/-- The tag set of a new clone. -/
def initial (scaleSetName profileName templateClass : String) : Option (List String) :=
  (ownerTag scaleSetName).map fun owner ↦
    [marker, owner, profileTag profileName,
      templateTag (if templateClass = "" then templateStable else templateClass)]

/-- `unicode.IsSpace`. -/
def isSpace (c : Char) : Bool :=
  c.toNat ∈ [0x09, 0x0a, 0x0b, 0x0c, 0x0d, 0x20, 0x85, 0xa0, 0x1680, 0x2028, 0x2029, 0x202f, 0x205f,
    0x3000] ∨ (0x2000 ≤ c.toNat ∧ c.toNat ≤ 0x200a)

/-- Tags without surrounding blanks, the empty ones dropped. -/
def trimmed (tags : List String) : List String := (tags.map (trim isSpace)).filter (· ≠ "")

/-- Write a tag list on the wire: deduplicated, sorted and joined with semicolons. -/
def encode (tags : List String) : String :=
  join ';' ((trimmed tags).dedup.insertionSort (· ≤ ·))

/-- Read the tags off the wire. -/
def decode (wire : String) : List String := if wire = "" then [] else trimmed (split ';' wire)

def isOwnedBy (wireTags scaleSetName : String) : Bool :=
  match ownerTag scaleSetName with
  | none => false
  | some owner => marker ∈ decode wireTags ∧ owner ∈ decode wireTags

/-- What follows `start` in the first tag that has it, or `fallback` when there is none or nothing
follows. -/
def firstSuffix (start fallback wireTags : String) : String :=
  match (decode wireTags).findSome? fun tag ↦ cutPrefix tag start with
  | some suffix => if suffix = "" then fallback else suffix
  | none => fallback

def profileOf (wireTags : String) : String := firstSuffix profilePrefix defaultProfile wireTags

def templateOf (wireTags : String) : String := firstSuffix templatePrefix templateStable wireTags

/-! ## Encoding and decoding -/

/-- A tag in the schema's alphabet. -/
def Plain (tag : String) : Prop := tag ≠ "" ∧ ∀ c ∈ tag.toList, tagChar c = true

theorem tagChar_cases {c : Char} (h : tagChar c) :
    ('a' ≤ c ∧ c ≤ 'z') ∨ ('0' ≤ c ∧ c ≤ '9') ∨ c = '-' := by simpa [tagChar] using h

theorem isSpace_of_tagChar {c : Char} (h : tagChar c) : isSpace c = false := by
  have hrange : (0x61 ≤ c.toNat ∧ c.toNat ≤ 0x7a) ∨ (0x30 ≤ c.toNat ∧ c.toNat ≤ 0x39) ∨
      c.toNat = 0x2d := by
    rcases tagChar_cases h with h | h | rfl
    · exact .inl h
    · exact .inr (.inl h)
    · exact .inr (.inr rfl)
  simp only [isSpace, List.mem_cons, List.not_mem_nil, or_false, decide_eq_false_iff_not]
  omega

theorem separator_notMem_plain (h : Plain tag) : ';' ∉ tag.toList := fun hmem ↦
  absurd (h.2 _ hmem) (by decide)

theorem trim_plain (h : Plain tag) : trim isSpace tag = tag :=
  trim_eq_self fun c hc ↦ isSpace_of_tagChar (h.2 c hc)

theorem trimmed_plain (h : ∀ tag ∈ tags, Plain tag) : trimmed tags = tags := by
  have hmap : tags.map (trim isSpace) = tags := by
    conv_rhs => rw [← List.map_id tags]
    exact List.map_congr_left fun tag htag ↦ trim_plain (h tag htag)
  rw [trimmed, hmap, List.filter_eq_self]
  intro tag htag
  simpa using (h tag htag).1

theorem join_ne_empty (hplain : ∀ tag ∈ tags, Plain tag) (hne : tags ≠ []) : join ';' tags ≠ "" := by
  intro hempty
  have hsplit := split_join (fun tag htag ↦ separator_notMem_plain (hplain tag htag)) hne
  rw [hempty] at hsplit
  have hmem : "" ∈ tags := by
    rw [← hsplit]
    decide
  exact (hplain "" hmem).1 rfl

theorem mem_decode_encode (hplain : ∀ tag ∈ tags, Plain tag) : tag ∈ decode (encode tags) ↔ tag ∈ tags := by
  set sorted := tags.dedup.insertionSort (· ≤ ·) with hsorted
  have hmem : ∀ t, t ∈ sorted ↔ t ∈ tags := by
    intro t
    rw [hsorted, List.mem_insertionSort, List.mem_dedup]
  have hsortedPlain : ∀ t ∈ sorted, Plain t := fun t ht ↦ hplain t ((hmem t).mp ht)
  have hencode : encode tags = join ';' sorted := by rw [encode, trimmed_plain hplain]
  rw [hencode, ← hmem]
  by_cases hnil : sorted = []
  · have hdecode : decode (join ';' []) = [] := by decide
    rw [hnil, hdecode]
  · rw [decode, if_neg (join_ne_empty hsortedPlain hnil),
      split_join (fun t ht ↦ separator_notMem_plain (hsortedPlain t ht)) hnil,
      trimmed_plain hsortedPlain]

/-! ## The tags of a clone -/

theorem tagChar_of_mem_sanitize {c : Char} (h : c ∈ (sanitize text).toList) : tagChar c = true := by
  have hmem := mem_trim h
  rw [String.toList_ofList, List.mem_map] at hmem
  obtain ⟨d, _, rfl⟩ := hmem
  split_ifs with hd
  · exact decide_eq_true (hd.imp_right Or.inl)
  · decide

/-- A schema constant followed by a sanitized name. -/
theorem plain_append_sanitize {start : String} (hne : start ≠ "") (hstart : start.toList.all tagChar) :
    Plain (start ++ sanitize text) := by
  refine ⟨fun hempty ↦ hne ?_, fun c hc ↦ ?_⟩
  · have hlist := congrArg String.toList hempty
    rw [String.toList_append] at hlist
    exact String.toList_inj.mp (List.append_eq_nil_iff.mp hlist).1
  · rw [String.toList_append, List.mem_append] at hc
    exact hc.elim (List.all_eq_true.mp hstart c) tagChar_of_mem_sanitize

theorem plain_of_mem_initial (h : initial scaleSetName profileName templateClass = some tags) :
    ∀ tag ∈ tags, Plain tag := by
  simp only [initial, ownerTag, Option.map_eq_some_iff] at h
  obtain ⟨owner, howner, rfl⟩ := h
  split_ifs at howner
  cases howner
  intro tag htag
  simp only [List.mem_cons, List.not_mem_nil, or_false] at htag
  rcases htag with rfl | rfl | rfl | rfl
  · exact ⟨by decide, List.all_eq_true.mp (by decide)⟩
  · exact plain_append_sanitize (by decide) (by decide)
  · exact plain_append_sanitize (by decide) (by decide)
  · exact plain_append_sanitize (by decide) (by decide)

/-- Tags that begin with different constants of the same length differ. -/
theorem ownerPrefix_append_ne_of_cons {start rest : String} (h : hasPrefix start ownerPrefix = false)
    (hlength : ownerPrefix.toList.length ≤ start.toList.length) :
    ownerPrefix ++ text ≠ start ++ rest := by
  intro heq
  have hprefix : ownerPrefix.toList <+: start.toList ++ rest.toList := by
    rw [← String.toList_append, ← heq, String.toList_append]
    exact List.prefix_append _ _
  have hstart : ownerPrefix.toList <+: start.toList :=
    List.prefix_of_prefix_length_le hprefix (List.prefix_append _ _) hlength
  rw [← hasPrefix_iff, h] at hstart
  exact Bool.false_ne_true hstart

theorem marker_mem_initial (h : initial scaleSetName profileName templateClass = some tags) :
    marker ∈ tags := by
  obtain ⟨owner, _, rfl⟩ := Option.map_eq_some_iff.mp h
  exact List.mem_cons_self

theorem ownerTag_mem_initial {other owner : String}
    (h : initial scaleSetName profileName templateClass = some tags) (howner : ownerTag other = some owner) :
    owner ∈ tags ↔ ownerTag scaleSetName = some owner := by
  simp only [initial, Option.map_eq_some_iff] at h
  obtain ⟨own, hown, rfl⟩ := h
  rw [hown, Option.some.injEq]
  obtain ⟨_, rfl⟩ : scaleSetNameOK other = true ∧ ownerPrefix ++ sanitize other = owner := by
    unfold ownerTag at howner
    split_ifs at howner with hok
    exact ⟨hok, Option.some.inj howner⟩
  have hprofile : ownerPrefix ++ sanitize other ≠ profileTag profileName :=
    ownerPrefix_append_ne_of_cons (by decide) (by decide)
  have htemplate : ∀ templateClass, ownerPrefix ++ sanitize other ≠ templateTag templateClass :=
    fun _ ↦ ownerPrefix_append_ne_of_cons (by decide) (by decide)
  have hmarker : ownerPrefix ++ sanitize other ≠ marker := by
    intro heq
    have hlength := congrArg (fun s ↦ s.toList.length) heq
    simp only [String.toList_append, List.length_append] at hlength
    have : ownerPrefix.toList.length = 18 := by decide
    have : marker.toList.length = 11 := by decide
    omega
  simp only [List.mem_cons, List.not_mem_nil, or_false, hprofile, htemplate, hmarker, false_or]
  exact eq_comm

/-- A tagged clone is recognised as owned. -/
theorem isOwnedBy_encode_initial (h : initial scaleSetName profileName templateClass = some tags) :
    isOwnedBy (encode tags) scaleSetName = true := by
  have hplain := plain_of_mem_initial h
  simp only [initial, Option.map_eq_some_iff] at h
  obtain ⟨owner, howner, rfl⟩ := h
  simp [isOwnedBy, howner, mem_decode_encode hplain]

end ScalesetProxmox.Tags
