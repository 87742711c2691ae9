/-
# What stores make of option maps

A store sets or removes an option, or one of the options inside another one.  The new map can
be written as a block unless the tag of the carrying option is no byte.

Stores keep the tags of a map different, but the end tag can come among them, as that of a
carrying option.  Whoever reads the block of such a map finds the options in front of the end
tag and no others.
-/
import NetBoot.Proofs.Options.Length
import NetBoot.Proofs.Options.Nested
import Mathlib.Data.List.TakeWhile

namespace NetBoot

/-! ## Tags -/

namespace Tag

variable {tag : Int}

theorem inner_range (tag : Int) : 0 ≤ inner tag ∧ inner tag ≤ 255 := by
  simp only [inner]
  omega

/-- A tag that is a byte is that of a plain option. -/
theorem outer_eq_zero_iff : outer tag = 0 ↔ 0 ≤ tag ∧ tag ≤ 255 := by
  simp only [outer]
  omega

theorem inside_parts (nonneg : 0 ≤ outer tag) : inside (outer tag) (inner tag) = tag := by
  have hinner := inner_range tag
  rw [inside_eq nonneg hinner.1 (Int.lt_of_le_of_lt hinner.2 (by decide))]
  exact Int.ediv_mul_add_emod tag 256

/-- A tag is ordinary if neither of its parts is that of padding or of the end. -/
theorem ordinary_iff : Ordinary tag ↔ outer tag = 0 ∧ 1 ≤ tag ∧ tag ≤ 254 ∨
    (1 ≤ outer tag ∧ outer tag ≤ 254) ∧ 1 ≤ inner tag ∧ inner tag ≤ 254 := by
  constructor
  · exact Ordinary.parts
  · rintro (⟨-, least, most⟩ | ⟨carries, carried⟩)
    · exact .plain least most
    · rw [← inside_parts (Int.le_trans (by decide) carries.1)]
      exact .inside carries carried

theorem Ordinary.outer_range (h : Ordinary tag) : 0 ≤ outer tag ∧ outer tag ≤ 254 := by
  rcases h.parts with ⟨place, -⟩ | ⟨carries, -⟩
  · rw [place]
    decide
  · exact ⟨Int.le_trans (by decide) carries.1, carries.2⟩

end Tag

/-! ## Maps that can be written -/

namespace OptionBlock

variable {options : OptionMap} {body block : Bytes}

theorem exists_byte?_iff {number : Int} :
    (∃ byte, Bytes.byte? number = some byte) ↔ 0 ≤ number ∧ number ≤ 255 := by
  rw [Bytes.byte?]
  split <;> simp <;> omega

/-- A map can be written if and only if every tag is a byte. -/
theorem exists_body?_iff :
    (∃ body, body? options = some body) ↔ ∀ tag ∈ options.tags, 0 ≤ tag ∧ tag ≤ 255 := by
  induction options with
  | nil => simp [body?]
  | cons entry options ih =>
    rw [OptionMap.tags_cons, List.forall_mem_cons, ← ih, ← exists_byte?_iff, body?_cons,
      entryBytes?]
    constructor
    · rintro ⟨body, hbody⟩
      obtain ⟨first, hfirst, hrest⟩ := Option.bind_eq_some_iff.mp hbody
      obtain ⟨byte, hbyte, -⟩ := Option.map_eq_some_iff.mp hfirst
      obtain ⟨rest, hrest, -⟩ := Option.map_eq_some_iff.mp hrest
      exact ⟨⟨byte, hbyte⟩, rest, hrest⟩
    · rintro ⟨⟨byte, hbyte⟩, rest, hrest⟩
      rw [hbyte, hrest]
      exact ⟨_, rfl⟩

theorem exists_encode?_iff :
    (∃ block, encode? options = some block) ↔ ∀ tag ∈ options.tags, 0 ≤ tag ∧ tag ≤ 255 := by
  rw [← exists_body?_iff, encode?]
  cases body? options <;> simp

/-- What is written for the end tag starts with the end byte. -/
theorem exists_body?_stop {value : Bytes}
    (h : body? ((Tag.stop, value) :: options) = some body) :
    ∃ junk, body = endByte :: junk := by
  rw [body?_cons] at h
  obtain ⟨first, hfirst, h⟩ := Option.bind_eq_some_iff.mp h
  obtain ⟨rest, -, rfl⟩ := Option.map_eq_some_iff.mp h
  obtain ⟨byte, hbyte, rfl⟩ := Option.map_eq_some_iff.mp hfirst
  obtain rfl : endByte = byte := Option.some.inj hbyte
  cases hpieces : chunks value with
  | nil => exact absurd hpieces (chunks_ne_nil value)
  | cons piece pieces => exact ⟨_, rfl⟩

end OptionBlock

namespace OptionMap

variable {options changed : OptionMap} {tag : Tag} {value : Option Bytes} {block : Bytes}

/-- No tag occurs twice, and every tag is that of an option or that of the end.  All maps that
stores build are like this. -/
structure Accepted (options : OptionMap) : Prop where
  nodup : options.tags.Nodup
  range : ∀ tag : Int, tag ∈ options.tags → 1 ≤ tag ∧ tag ≤ 255

/-- The options that stand in front of the end tag. -/
def beforeStop (options : OptionMap) : OptionMap :=
  options.takeWhile fun entry => entry.1 ≠ Tag.stop

theorem Proper.accepted (h : options.Proper) : options.Accepted := by
  constructor
  · exact h.nodup
  · intro tag mem
    have hrange : 1 ≤ tag ∧ tag ≤ 254 := h.encodable tag mem
    omega

theorem Accepted.proper (h : options.Accepted) (new : Tag.stop ∉ options.tags) :
    options.Proper := by
  constructor
  · exact h.nodup
  · intro (tag : Int) mem
    have hrange := h.range tag mem
    have hne : tag ≠ (255 : Int) := by
      rintro rfl
      exact new mem
    show 1 ≤ tag ∧ tag ≤ (254 : Int)
    omega

theorem Accepted.bytes (h : options.Accepted) : ∀ tag ∈ options.tags, 0 ≤ tag ∧ tag ≤ 255 := by
  intro tag mem
  have hrange := h.range tag mem
  exact ⟨Int.le_trans (by decide) hrange.1, hrange.2⟩

theorem Accepted.sublist {fewer : OptionMap} (h : options.Accepted)
    (hsub : fewer.tags.Sublist options.tags) : fewer.Accepted :=
  ⟨h.nodup.sublist hsub, fun tag mem => h.range tag (hsub.subset mem)⟩

theorem Accepted.erase (h : options.Accepted) (tag : Tag) : (options.erase tag).Accepted :=
  h.sublist (List.filter_sublist.map Prod.fst)

theorem Accepted.insert {tag : Int} (h : options.Accepted) (htag : 1 ≤ tag ∧ tag ≤ 255)
    (value : Bytes) : (options.insert tag value).Accepted := by
  have htags := tags_insert tag value options
  by_cases known : tag ∈ options.tags
  · rw [if_pos known] at htags
    exact ⟨htags ▸ h.nodup, htags ▸ h.range⟩
  · rw [if_neg known] at htags
    constructor
    · rw [htags]
      exact h.nodup.append (List.nodup_singleton tag) (by simpa using known)
    · intro other mem
      rw [htags, List.mem_append, List.mem_singleton] at mem
      rcases mem with mem | rfl
      · exact h.range other mem
      · exact htag

theorem mem_tags_insert (tag : Tag) (value : Bytes) (options : OptionMap) :
    tag ∈ (options.insert tag value).tags := by
  rw [tags_insert]
  split
  next known => exact known
  next => exact List.mem_append_right _ (List.mem_singleton_self tag)

theorem beforeStop_of_not_mem (new : Tag.stop ∉ options.tags) : options.beforeStop = options := by
  rw [beforeStop, List.takeWhile_eq_self_iff]
  intro entry mem
  exact decide_eq_true fun hstop => new (hstop ▸ List.mem_map_of_mem mem)

/-- A map with the end tag is cut short at it. -/
theorem exists_beforeStop (known : Tag.stop ∈ options.tags) :
    ∃ value rest, options = options.beforeStop ++ (Tag.stop, value) :: rest := by
  induction options with
  | nil => simp at known
  | cons entry options ih =>
    obtain ⟨tag, value⟩ := entry
    by_cases hstop : tag = Tag.stop
    · subst hstop
      exact ⟨value, options, by simp [beforeStop]⟩
    · obtain ⟨found, rest, hparts⟩ :=
        ih ((List.mem_cons.mp known).resolve_left (Ne.symm hstop))
      refine ⟨found, rest, ?_⟩
      have hfront : beforeStop ((tag, value) :: options) = (tag, value) :: beforeStop options :=
        List.takeWhile_cons_of_pos (decide_eq_true hstop)
      rw [hfront, List.cons_append, ← hparts]

theorem stop_not_mem_beforeStop (options : OptionMap) :
    Tag.stop ∉ options.beforeStop.tags := by
  intro mem
  obtain ⟨entry, hentry, hstop⟩ := List.mem_map.mp mem
  rw [beforeStop] at hentry
  have hne := List.mem_takeWhile_imp hentry
  exact of_decide_eq_true hne hstop

/-- Whoever reads the block of a map that stores have built finds the options in front of the
end tag. -/
theorem Accepted.decode_block (h : options.Accepted)
    (hblock : OptionBlock.encode? options = some block) :
    OptionBlock.decode block = options.beforeStop := by
  by_cases known : Tag.stop ∈ options.tags
  · obtain ⟨value, rest, hparts⟩ := exists_beforeStop known
    have hfront : options.beforeStop.Proper :=
      (h.sublist ((List.takeWhile_sublist _).map Prod.fst)).proper (stop_not_mem_beforeStop _)
    obtain ⟨body, hbody, rfl⟩ := Option.map_eq_some_iff.mp hblock
    obtain ⟨front, hbefore, -, -, hdecode⟩ := OptionBlock.exists_decode_body hfront
    rw [hparts, OptionBlock.body?_append, hbefore, Option.bind_some] at hbody
    obtain ⟨behind, hbehind, rfl⟩ := Option.map_eq_some_iff.mp hbody
    obtain ⟨junk, rfl⟩ := OptionBlock.exists_body?_stop hbehind
    rw [List.append_assoc]
    exact hdecode _
  · have proper := h.proper known
    obtain ⟨-, found, hfound, hdecode⟩ := OptionBlock.decode_encode options proper
    obtain rfl := Option.some.inj (hfound.symm.trans hblock)
    rw [beforeStop_of_not_mem known]
    simpa using hdecode []

/-! ## What a store makes of a map -/

/-- What setting or removing an option makes of a map.  An option inside another one is set or
removed among those that its carrier has inside. -/
inductive Changes (options : OptionMap) (tag : Tag) (value : Option Bytes) : OptionMap → Prop
  /-- A plain option is set or removed itself. -/
  | plain (place : tag.outer = 0) : Changes options tag value (options.update tag value)
  /-- Nothing is left inside the carrying option, so it is removed. -/
  | emptied (place : tag.outer ≠ 0)
      (left : (options.carried tag.outer).update tag.inner value = []) :
      Changes options tag value (options.erase tag.outer)
  /-- What is inside the carrying option is written anew. -/
  | rewritten (place : tag.outer ≠ 0) {body : Bytes}
      (left : (options.carried tag.outer).update tag.inner value ≠ [])
      (written :
        OptionBlock.body? ((options.carried tag.outer).update tag.inner value) = some body) :
      Changes options tag value (options.insert tag.outer body)

theorem updated?_eq_some_iff :
    OptionRegion.updated? options tag value = some changed ↔
      options.Changes tag value changed := by
  by_cases place : tag.outer = 0
  · rw [OptionRegion.updated?, if_neg (not_not.mpr place), Option.some_inj]
    constructor
    · rintro rfl
      exact .plain place
    · intro changes
      cases changes with
      | plain => rfl
      | emptied nested => exact absurd place nested
      | rewritten nested => exact absurd place nested
  · have hinside : OptionBlock.decode ((options.get? tag.outer).getD []) =
        options.carried tag.outer := rfl
    rw [OptionRegion.updated?, if_pos place, OptionRegion.updateInner?, hinside]
    constructor
    · intro hupdated
      obtain ⟨content, hcontent, hchanged⟩ := Option.bind_eq_some_iff.mp hupdated
      obtain rfl := Option.some.inj hchanged
      split at hcontent
      next hempty =>
        obtain rfl := Option.some.inj hcontent
        exact .emptied place (List.isEmpty_iff.mp hempty)
      next hleft =>
        obtain ⟨body, hbody, rfl⟩ := Option.map_eq_some_iff.mp hcontent
        exact .rewritten place (fun hnil => hleft (List.isEmpty_iff.mpr hnil)) hbody
    · intro changes
      cases changes with
      | plain plain => exact absurd plain place
      | emptied _ left =>
        rw [left]
        rfl
      | rewritten _ left written =>
        rw [if_neg (fun hempty => left (List.isEmpty_iff.mp hempty)), written]
        rfl

theorem carried_of_not_mem (new : tag ∉ options.tags) : options.carried tag = [] := by
  rw [carried, get?_eq_none_iff.mpr new]
  exact OptionBlock.decode_nil

/-- A map of options that a block can hold has no others, neither plain ones nor inside one
another. -/
theorem Proper.lookup_eq_none (h : options.Proper) (framing : ¬tag.Ordinary) :
    options.lookup tag = none := by
  by_cases place : tag.outer = 0
  · rw [lookup_of_plain place]
    refine get?_eq_none_iff.mpr fun mem => framing ?_
    have hrange := h.encodable tag mem
    exact .plain hrange.1 hrange.2
  · rw [lookup_of_nested place]
    refine get?_eq_none_iff.mpr fun carried => framing ?_
    have hinner := (OptionBlock.proper_decode _).encodable tag.inner carried
    have houter : tag.outer ∈ options.tags := by
      by_contra new
      rw [carried_of_not_mem new] at carried
      cases carried
    exact Tag.ordinary_iff.mpr (.inr ⟨h.encodable tag.outer houter, hinner⟩)

theorem eq_or_mem_of_mem_update {other : Tag} (mem : other ∈ (options.update tag value).tags) :
    other = tag ∨ other ∈ options.tags := by
  cases value with
  | none => exact .inr ((List.filter_sublist.map Prod.fst).subset mem)
  | some bytes =>
    rw [update, tags_insert] at mem
    split at mem
    next => exact .inr mem
    next => exact (List.mem_append.mp mem).symm.imp_left List.mem_singleton.mp

theorem update_some_ne_nil (options : OptionMap) (tag : Tag) (bytes : Bytes) :
    options.update tag (some bytes) ≠ [] := by
  intro hnil
  have hfound := get?_update_self tag (some bytes) options
  rw [hnil] at hfound
  cases hfound

/-- Every option can be set or removed in a map: the tag of an option inside another one is
always a byte. -/
theorem exists_changes (options : OptionMap) (tag : Tag) (value : Option Bytes) :
    ∃ changed, options.Changes tag value changed := by
  by_cases place : tag.outer = 0
  · exact ⟨_, .plain place⟩
  by_cases left : (options.carried tag.outer).update tag.inner value = []
  · exact ⟨_, .emptied place left⟩
  have bytes : ∃ body,
      OptionBlock.body? ((options.carried tag.outer).update tag.inner value) = some body := by
    rw [OptionBlock.exists_body?_iff]
    intro known mem
    rcases eq_or_mem_of_mem_update mem with rfl | mem
    · exact Tag.inner_range tag
    · exact (OptionBlock.proper_decode _).accepted.bytes known mem
  obtain ⟨body, hbody⟩ := bytes
  exact ⟨_, .rewritten place left hbody⟩

/-- The new map can be written unless a value is stored inside an option whose tag is no
byte. -/
theorem Changes.exists_encode_iff (changes : options.Changes tag value changed)
    (h : options.Accepted) : (∃ block, OptionBlock.encode? changed = some block) ↔
      value = none ∨ 0 ≤ tag.outer ∧ tag.outer ≤ 255 := by
  have hbytes := h.bytes
  rw [OptionBlock.exists_encode?_iff]
  cases changes with
  | plain place =>
    constructor
    · intro _
      exact .inr ⟨Int.le_of_eq place.symm, place ▸ by decide⟩
    · intro _ known mem
      rcases eq_or_mem_of_mem_update mem with rfl | mem
      · exact Tag.outer_eq_zero_iff.mp place
      · exact hbytes known mem
  | emptied _ left =>
    constructor
    · intro _
      cases value with
      | none => exact .inl rfl
      | some bytes => exact absurd left (update_some_ne_nil _ _ bytes)
    · intro _ known mem
      exact hbytes known ((List.filter_sublist.map Prod.fst).subset mem)
  | @rewritten _ body left written =>
    constructor
    · intro bytes
      exact .inr (bytes tag.outer (mem_tags_insert _ _ _))
    · intro hcarrier known mem
      have hmem : known ∈ (options.update tag.outer (some body)).tags := mem
      rcases eq_or_mem_of_mem_update hmem with rfl | mem
      · rcases hcarrier with rfl | hcarrier
        · -- something is left inside, so the carrying option was known
          apply hbytes
          by_contra new
          rw [carried_of_not_mem new] at left
          exact left rfl
        · exact hcarrier
      · exact hbytes known mem

/-- A store that does not frame a block, and whose map can be written, builds a map like all
others. -/
theorem Accepted.changes (h : options.Accepted) (changes : options.Changes tag value changed)
    (framing : ¬(tag = Tag.pad ∨ tag = Tag.stop))
    (hblock : OptionBlock.encode? changed = some block) : changed.Accepted := by
  have hbytes := OptionBlock.exists_encode?_iff.mp ⟨block, hblock⟩
  cases changes with
  | plain place =>
    cases value with
    | none => exact h.erase tag
    | some bytes =>
      have hrange := Tag.outer_eq_zero_iff.mp place
      rw [not_or] at framing
      exact h.insert ⟨Int.lt_iff_le_and_ne.mpr ⟨hrange.1, Ne.symm framing.1⟩, hrange.2⟩ bytes
  | emptied => exact h.erase _
  | @rewritten place body left written =>
    have hrange := hbytes tag.outer (mem_tags_insert _ _ _)
    exact h.insert ⟨Int.lt_iff_le_and_ne.mpr ⟨hrange.1, Ne.symm place⟩, hrange.2⟩ body

end OptionMap
end NetBoot
