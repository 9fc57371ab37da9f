import Mathlib.Data.List.DropRight

/-!
# Text as separated fields

Trimming, cutting at a separator and joining, as functions of strings that evaluate through their
characters. `split_join` is the round trip that a wire format of separated fields rests on.
-/

namespace ScalesetProxmox.Text

variable {text : String} {separator : Char}

/-- Remove the characters of `drop` from both ends. -/
def trim (drop : Char → Bool) (text : String) : String :=
  String.ofList ((text.toList.dropWhile drop).rdropWhile drop)

/-- The fields between the separators. -/
def split (separator : Char) (text : String) : List String :=
  (text.toList.splitOn separator).map String.ofList

def join (separator : Char) (fields : List String) : String :=
  String.ofList ([separator].intercalate (fields.map String.toList))

/-- What stands before and after the first separator, if there is one. -/
def cut (separator : Char) (text : String) : Option (String × String) :=
  match text.toList.span (· ≠ separator) with
  | (_, []) => none
  | (before, _ :: after) => some (String.ofList before, String.ofList after)

/-- A text between quotation marks, as `%q` prints it when there is nothing to escape. -/
def quote (text : String) : String := "\"" ++ text ++ "\""

def hasPrefix (text start : String) : Bool := start.toList.isPrefixOf text.toList

def cutPrefix (text start : String) : Option String :=
  if hasPrefix text start then some (String.ofList (text.toList.drop start.toList.length)) else none

theorem hasPrefix_iff {start : String} :
    hasPrefix text start ↔ start.toList <+: text.toList := List.isPrefixOf_iff_prefix

theorem hasPrefix_append (start text : String) : hasPrefix (start ++ text) start = true := by
  rw [hasPrefix_iff, String.toList_append]
  exact List.prefix_append _ _

theorem cutPrefix_eq_some {start rest : String} :
    cutPrefix text start = some rest ↔ text = start ++ rest := by
  rw [cutPrefix, Option.ite_none_right_eq_some, Option.some.injEq, hasPrefix_iff]
  constructor
  · rintro ⟨⟨suffix, hsuffix⟩, rfl⟩
    apply String.toList_injective
    rw [← hsuffix, List.drop_left, String.toList_append, String.toList_ofList, hsuffix]
  · rintro rfl
    rw [String.toList_append, List.drop_left, String.ofList_toList]
    exact ⟨List.prefix_append _ _, rfl⟩

theorem mem_trim {drop : Char → Bool} {c : Char} (h : c ∈ (trim drop text).toList) : c ∈ text.toList := by
  rw [trim, String.toList_ofList] at h
  exact (List.dropWhile_sublist drop).mem ((List.rdropWhile_prefix drop _).sublist.mem h)

theorem trim_eq_self {drop : Char → Bool} (h : ∀ c ∈ text.toList, drop c = false) :
    trim drop text = text := by
  have hfront : text.toList.dropWhile drop = text.toList := by
    rw [List.dropWhile_eq_self_iff]
    intro hpos hdrop
    rw [h _ (List.getElem_mem hpos)] at hdrop
    exact Bool.false_ne_true hdrop
  have hback : text.toList.rdropWhile drop = text.toList := by
    rw [List.rdropWhile_eq_self_iff]
    intro hne hdrop
    rw [h _ (List.getLast_mem hne)] at hdrop
    exact Bool.false_ne_true hdrop
  rw [trim, hfront, hback, String.ofList_toList]

/-- Fields without the separator survive being joined and cut apart again. -/
theorem split_join {fields : List String} (hsep : ∀ field ∈ fields, separator ∉ field.toList)
    (hne : fields ≠ []) :
    split separator (join separator fields) = fields := by
  have hlist : ∀ chars ∈ fields.map String.toList, separator ∉ chars := by
    intro chars hchars
    obtain ⟨field, hfield, rfl⟩ := List.mem_map.mp hchars
    exact hsep field hfield
  rw [split, join, String.toList_ofList,
    List.splitOn_intercalate separator hlist (by simpa using hne), List.map_map]
  simp [Function.comp_def]

theorem split_append (separator : Char) (text rest : String) :
    split separator (text ++ String.ofList (separator :: rest.toList)) =
      split separator text ++ split separator rest := by
  rw [split, String.toList_append, String.toList_ofList, List.splitOn_append_cons_self, List.map_append,
    split, split]

theorem separator_notMem_of_mem_split {field : String} (h : field ∈ split separator text) :
    separator ∉ field.toList := by
  obtain ⟨chars, hchars, rfl⟩ := List.mem_map.mp h
  rw [String.toList_ofList]
  clear h
  generalize text.toList = whole at hchars
  induction whole generalizing chars with
  | nil => simp_all
  | cons c rest ih =>
    rw [List.splitOn_cons_eq_if_modifyHead] at hchars
    split at hchars
    · rcases List.mem_cons.mp hchars with rfl | htail
      · exact List.not_mem_nil
      · exact ih chars htail
    · next hc =>
      cases hsplit : rest.splitOn separator with
      | nil => simp [List.splitOn_ne_nil] at hsplit
      | cons head tail =>
        rw [hsplit, List.modifyHead_cons] at hchars
        rcases List.mem_cons.mp hchars with rfl | htail
        · intro hmem
          rcases List.mem_cons.mp hmem with rfl | hhead
          · exact hc (beq_self_eq_true _)
          · exact ih head (hsplit ▸ List.mem_cons_self) hhead
        · exact ih chars (hsplit ▸ List.mem_cons_of_mem _ htail)

theorem join_append_singleton {fields : List String} (hne : fields ≠ []) (last : String) :
    join separator (fields ++ [last]) =
      join separator fields ++ String.ofList (separator :: last.toList) := by
  have hlist : ∀ lists : List (List Char), lists ≠ [] →
      [separator].intercalate (lists ++ [last.toList]) =
        [separator].intercalate lists ++ separator :: last.toList := by
    intro lists hlists
    induction lists with
    | nil => exact absurd rfl hlists
    | cons first rest ih =>
      cases rest with
      | nil => simp
      | cons second rest =>
        rw [List.cons_append, List.cons_append, List.intercalate_cons_cons, List.intercalate_cons_cons,
          ← List.cons_append, ih (List.cons_ne_nil _ _)]
        simp
  rw [join, join, List.map_append, List.map_singleton, hlist _ (by simpa using hne), String.ofList_append]

end ScalesetProxmox.Text
