/-
# Looking up options

What setting, removing and extending an option does to the values that a map answers and
to the order of its tags.  A map is proper when no tag occurs twice and an option block can
hold every tag; all operations on such tags keep a map proper.
-/
import NetBoot.Options.Map
import Mathlib.Data.List.Nodup

namespace NetBoot.OptionMap

/-- The tags of a map, in order. -/
def tags (options : OptionMap) : List Tag := options.map Prod.fst

/-- No tag occurs twice, and every tag is one that an option block can hold. -/
structure Proper (options : OptionMap) : Prop where
  nodup : options.tags.Nodup
  encodable : ∀ tag ∈ options.tags, 1 ≤ tag ∧ tag ≤ 254

variable {options : OptionMap} {tag other : Tag} {value more : Bytes}

@[simp]
theorem tags_nil : tags [] = [] := rfl

@[simp]
theorem tags_cons (entry : Tag × Bytes) (options : OptionMap) :
    tags (entry :: options) = entry.1 :: tags options := rfl

theorem tags_append_singleton (options : OptionMap) (tag : Tag) (value : Bytes) :
    OptionMap.tags (options ++ [(tag, value)]) = options.tags ++ [tag] := List.map_append

theorem Proper.nil : Proper [] := ⟨List.nodup_nil, by simp⟩

theorem Proper.tail {entry : Tag × Bytes} (h : Proper (entry :: options)) : options.Proper :=
  ⟨(List.nodup_cons.mp h.nodup).2, fun tag mem => h.encodable tag (List.mem_cons_of_mem _ mem)⟩

/-! ## Values -/

theorem get?_cons (entry : Tag × Bytes) (tag : Tag) (options : OptionMap) :
    get? tag (entry :: options) = if entry.1 = tag then some entry.2 else get? tag options := rfl

theorem erase_cons (entry : Tag × Bytes) (tag : Tag) (options : OptionMap) :
    erase tag (entry :: options) =
      if entry.1 = tag then erase tag options else entry :: erase tag options := by
  simp [erase, List.filter_cons]

theorem get?_insert_self (tag : Tag) (value : Bytes) (options : OptionMap) :
    (options.insert tag value).get? tag = some value := by
  induction options with
  | nil => simp [insert, get?]
  | cons entry rest ih =>
    by_cases h : entry.1 = tag
    · simp [insert, get?, h]
    · simpa [insert, get?, h] using ih

theorem get?_insert_of_ne (h : other ≠ tag) (value : Bytes) (options : OptionMap) :
    (options.insert tag value).get? other = options.get? other := by
  induction options with
  | nil => simp [insert, get?, h.symm]
  | cons entry rest ih =>
    by_cases hentry : entry.1 = tag
    · simp [insert, get?, hentry, h.symm]
    · rw [insert, if_neg hentry, get?_cons, get?_cons, ih]

theorem get?_erase_self (tag : Tag) (options : OptionMap) :
    (options.erase tag).get? tag = none := by
  induction options with
  | nil => rfl
  | cons entry rest ih =>
    rw [erase_cons]
    split
    · exact ih
    next hentry => rw [get?_cons, if_neg hentry, ih]

theorem get?_erase_of_ne (h : other ≠ tag) (options : OptionMap) :
    (options.erase tag).get? other = options.get? other := by
  induction options with
  | nil => rfl
  | cons entry rest ih =>
    rw [erase_cons]
    split
    next hentry => rw [get?_cons, if_neg (hentry.trans_ne h.symm), ih]
    next => rw [get?_cons, get?_cons, ih]

/-- After an update the map answers the new value, or none if the option was removed. -/
theorem get?_update_self (tag : Tag) (value : Option Bytes) (options : OptionMap) :
    (options.update tag value).get? tag = value := by
  cases value with
  | none => exact get?_erase_self tag options
  | some bytes => exact get?_insert_self tag bytes options

/-- An update leaves the values of all other tags alone. -/
theorem get?_update_of_ne (h : other ≠ tag) (value : Option Bytes) (options : OptionMap) :
    (options.update tag value).get? other = options.get? other := by
  cases value with
  | none => exact get?_erase_of_ne h options
  | some bytes => exact get?_insert_of_ne h bytes options

/-- A map answers a value for each of its tags and for no other one. -/
theorem get?_eq_none_iff : options.get? tag = none ↔ tag ∉ options.tags := by
  induction options with
  | nil => simp [get?]
  | cons entry rest ih =>
    by_cases h : entry.1 = tag
    · simp [get?_cons, h]
    · rw [get?_cons, if_neg h, ih, tags_cons, List.mem_cons, not_or]
      exact ⟨fun absent => ⟨Ne.symm h, absent⟩, And.right⟩

/-! ## Tags -/

/-- A known tag keeps its place and a new one goes to the end. -/
theorem tags_insert (tag : Tag) (value : Bytes) (options : OptionMap) :
    (options.insert tag value).tags =
      if tag ∈ options.tags then options.tags else options.tags ++ [tag] := by
  induction options with
  | nil => rfl
  | cons entry rest ih =>
    by_cases h : entry.1 = tag
    · simp [insert, h]
    · rw [insert, if_neg h, tags_cons, ih, tags_cons]
      by_cases hrest : tag ∈ tags rest <;> simp [hrest, Ne.symm h]

theorem tags_extend (tag : Tag) (value : Bytes) (options : OptionMap) :
    (options.extend tag value).tags =
      if tag ∈ options.tags then options.tags else options.tags ++ [tag] := by
  induction options with
  | nil => rfl
  | cons entry rest ih =>
    by_cases h : entry.1 = tag
    · simp [extend, h]
    · rw [extend, if_neg h, tags_cons, ih, tags_cons]
      by_cases hrest : tag ∈ tags rest <;> simp [hrest, Ne.symm h]

/-- A new tag goes to the end. -/
theorem extend_of_not_mem (h : tag ∉ options.tags) :
    options.extend tag value = options ++ [(tag, value)] := by
  induction options with
  | nil => rfl
  | cons entry rest ih =>
    rw [tags_cons, List.mem_cons, not_or] at h
    rw [extend, if_neg (Ne.symm h.1), ih h.2, List.cons_append]

theorem insert_of_not_mem (h : tag ∉ options.tags) :
    options.insert tag value = options ++ [(tag, value)] := by
  induction options with
  | nil => rfl
  | cons entry rest ih =>
    rw [tags_cons, List.mem_cons, not_or] at h
    rw [insert, if_neg (Ne.symm h.1), ih h.2, List.cons_append]

/-- The last tag keeps its place. -/
theorem insert_append_self (h : tag ∉ options.tags) :
    OptionMap.insert tag more (options ++ [(tag, value)]) = options ++ [(tag, more)] := by
  induction options with
  | nil => simp [insert]
  | cons entry rest ih =>
    rw [tags_cons, List.mem_cons, not_or] at h
    rw [List.cons_append, insert, if_neg (Ne.symm h.1), ih h.2, List.cons_append]

theorem extend_append_self (h : tag ∉ options.tags) :
    OptionMap.extend tag more (options ++ [(tag, value)]) = options ++ [(tag, value ++ more)] := by
  induction options with
  | nil => simp [extend]
  | cons entry rest ih =>
    rw [tags_cons, List.mem_cons, not_or] at h
    rw [List.cons_append, extend, if_neg (Ne.symm h.1), ih h.2, List.cons_append]

/-! ## Proper maps -/

/-- One more tag that an option block can hold, unless it is known. -/
theorem Proper.of_tags {after : OptionMap} (h : options.Proper) (htag : 1 ≤ tag ∧ tag ≤ 254)
    (htags : after.tags = if tag ∈ options.tags then options.tags else options.tags ++ [tag]) :
    after.Proper := by
  by_cases hmem : tag ∈ options.tags
  · rw [if_pos hmem] at htags
    exact ⟨htags ▸ h.nodup, htags ▸ h.encodable⟩
  · rw [if_neg hmem] at htags
    refine ⟨?_, fun other mem => ?_⟩
    · rw [htags]
      exact h.nodup.append (List.nodup_singleton tag) (by simpa using hmem)
    · rw [htags, List.mem_append, List.mem_singleton] at mem
      rcases mem with mem | rfl
      · exact h.encodable other mem
      · exact htag

theorem Proper.insert (h : options.Proper) (htag : 1 ≤ tag ∧ tag ≤ 254) (value : Bytes) :
    (options.insert tag value).Proper :=
  h.of_tags htag (tags_insert tag value options)

theorem Proper.extend (h : options.Proper) (htag : 1 ≤ tag ∧ tag ≤ 254) (value : Bytes) :
    (options.extend tag value).Proper :=
  h.of_tags htag (tags_extend tag value options)

theorem Proper.erase (h : options.Proper) (tag : Tag) : (options.erase tag).Proper := by
  have hsub : (options.erase tag).tags.Sublist options.tags := List.filter_sublist.map Prod.fst
  exact ⟨h.nodup.sublist hsub, fun other mem => h.encodable other (hsub.subset mem)⟩

theorem Proper.update (h : options.Proper) (htag : 1 ≤ tag ∧ tag ≤ 254) (value : Option Bytes) :
    (options.update tag value).Proper := by
  cases value with
  | none => exact h.erase tag
  | some bytes => exact h.insert htag bytes

end NetBoot.OptionMap
