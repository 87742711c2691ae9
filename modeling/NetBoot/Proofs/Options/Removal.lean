/-
# Removing an option

The options of a region never take more bytes than the region uses: those that were received
are written in at most as many bytes, and a store that succeeds leaves room for the end byte
as well.  Removing an option that is there makes the others at least one byte shorter than all
were, which is the room that the end byte takes.  So an option that is there can be removed,
also from a region that is full to its last byte and has no end byte.
-/
import NetBoot.Proofs.Options.Normal
import NetBoot.Proofs.Options.Refusals

namespace NetBoot

namespace OptionBlock

/-- A shorter value takes fewer bytes. -/
theorem entrySize_lt {value other : Bytes} (shorter : value.length < other.length) :
    entrySize value < entrySize other := by
  simp only [entrySize, chunkLimit]
  omega

/-- The tag and the length of an option take two bytes, even if its value is empty. -/
theorem two_le_entrySize (value : Bytes) : 2 ≤ entrySize value := by
  simp only [entrySize]
  omega

end OptionBlock

namespace OptionMap

variable {options changed : OptionMap} {tag : Tag} {value block : Bytes}

theorem encodedSize_erase_le (tag : Tag) (options : OptionMap) :
    (options.erase tag).encodedSize ≤ options.encodedSize := by
  induction options with
  | nil => exact Nat.le_refl 0
  | cons entry options ih =>
    rw [erase_cons]
    split
    · exact Nat.le_trans ih (Nat.le_add_left _ _)
    · exact Nat.add_le_add_left ih _

/-- Without an option that is there, a map takes at least two bytes less. -/
theorem encodedSize_erase_lt (present : options.get? tag ≠ none) :
    (options.erase tag).encodedSize + 2 ≤ options.encodedSize := by
  induction options with
  | nil => exact absurd rfl present
  | cons entry options ih =>
    rw [erase_cons, encodedSize_cons]
    by_cases known : entry.1 = tag
    · rw [if_pos known]
      have hrest := encodedSize_erase_le tag options
      have hentry := OptionBlock.two_le_entrySize entry.2
      omega
    · rw [get?_cons, if_neg known] at present
      rw [if_neg known, encodedSize_cons]
      have hrest := ih present
      omega

/-- With a shorter value for an option that is there, a map takes fewer bytes. -/
theorem encodedSize_insert_lt (present : options.get? tag = some block)
    (shorter : value.length < block.length) :
    (options.insert tag value).encodedSize < options.encodedSize := by
  induction options with
  | nil => cases present
  | cons entry options ih =>
    rw [get?_cons] at present
    rw [insert]
    split at present
    next known =>
      obtain rfl := Option.some.inj present
      rw [if_pos known]
      exact Nat.add_lt_add_right (OptionBlock.entrySize_lt shorter) _
    next known =>
      rw [if_neg known]
      exact Nat.add_lt_add_left (ih present) _

theorem eq_nil_iff : options = [] ↔ ∀ tag, options.get? tag = none := by
  constructor
  · rintro rfl tag
    rfl
  · intro absent
    cases options with
    | nil => rfl
    | cons entry options =>
      have hentry := absent entry.1
      rw [get?_cons, if_pos rfl] at hentry
      cases hentry

/-- Nothing is inside an option if and only if the tags that it can carry have no values. -/
theorem carried_eq_nil_iff {carrier : Tag} (carries : 1 ≤ carrier ∧ carrier ≤ 254) :
    options.carried carrier = [] ↔
      ∀ other : Tag, other.outer = carrier → options.lookup other = none := by
  have nested {other : Tag} (place : other.outer = carrier) :
      options.lookup other = (options.carried carrier).get? other.inner := by
    have hne : other.outer ≠ 0 := place ▸ fun hzero => absurd (hzero ▸ carries.1) (by decide)
    rw [lookup_of_nested hne, place]
  constructor
  · intro hnil other place
    rw [nested place, hnil]
    rfl
  · intro absent
    refine eq_nil_iff.mpr fun (known : Int) => ?_
    -- a tag that a block can hold is the last byte of a tag that the option carries
    by_contra present
    have hrange : 1 ≤ known ∧ known ≤ 254 := (OptionBlock.proper_decode _).encodable known
      (not_not.mp fun new => present (get?_eq_none_iff.mpr new))
    have hinside := Tag.inside_eq (Int.le_trans (by decide) carries.1)
      (Int.le_trans (by decide) hrange.1) (Int.lt_of_le_of_lt hrange.2 (by decide))
    have place : (Tag.inside carrier known).outer = carrier := by
      rw [hinside, Tag.outer]
      omega
    have hinner : (Tag.inside carrier known).inner = known := by
      rw [hinside, Tag.inner]
      omega
    have hlookup := nested place
    rw [absent _ place, hinner] at hlookup
    exact present hlookup.symm

/-- Removing an option that is there, also one inside another option, makes the block shorter. -/
theorem Changes.encodedSize_lt (changes : options.Changes tag none changed)
    (present : options.lookup tag ≠ none) : changed.encodedSize < options.encodedSize := by
  cases changes with
  | plain place =>
    rw [lookup_of_plain place] at present
    exact Nat.lt_of_succ_lt (encodedSize_erase_lt present)
  | emptied place left =>
    rw [lookup_of_nested place] at present
    have known : options.get? tag.outer ≠ none := by
      intro absent
      rw [carried_of_not_mem (get?_eq_none_iff.mp absent)] at present
      exact present rfl
    exact Nat.lt_of_succ_lt (encodedSize_erase_lt known)
  | @rewritten place body left written =>
    rw [lookup_of_nested place] at present
    cases hblock : options.get? tag.outer with
    | none =>
      rw [carried_of_not_mem (get?_eq_none_iff.mp hblock)] at present
      exact absurd rfl present
    | some block =>
      rw [carried, hblock, Option.getD_some] at present written
      have hfewer := encodedSize_erase_lt present
      have hreceived := OptionBlock.encodedSize_decode_le block
      have hbody : body.length = ((OptionBlock.decode block).erase tag.inner).encodedSize :=
        OptionBlock.length_body written
      exact encodedSize_insert_lt hblock (by omega)

/-- After one of the options that it carries was removed, the carrying option is gone if and only
if nothing is left inside. -/
theorem Changes.get?_outer_eq_none_iff (changes : options.Changes tag none changed)
    (place : tag.outer ≠ 0) :
    changed.get? tag.outer = none ↔ changed.carried tag.outer = [] := by
  cases changes with
  | plain plain => exact absurd plain place
  | emptied _ left =>
    have hgone := get?_erase_self tag.outer options
    refine ⟨fun _ => carried_of_not_mem (get?_eq_none_iff.mp hgone), fun _ => hgone⟩
  | @rewritten _ body left written =>
    have hcarried : (options.insert tag.outer body).carried tag.outer =
        (options.carried tag.outer).erase tag.inner := by
      obtain ⟨found, hfound, -, hdecode, -⟩ :=
        OptionBlock.exists_decode_body ((OptionBlock.proper_decode _).erase tag.inner)
      obtain rfl := Option.some.inj (hfound.symm.trans written)
      rw [carried, get?_insert_self]
      exact hdecode
    rw [get?_insert_self, hcarried]
    exact ⟨fun h => absurd h (Option.some_ne_none body), fun h => absurd h left⟩

/-- Removing an option leaves all others as they are, apart from the option that carried it.  That
one is gone if and only if it carried no other option. -/
theorem Changes.removed (changes : options.Changes tag none changed) (ordinary : tag.Ordinary) :
    changed.lookup tag = none ∧
    (tag.outer ≠ 0 → (changed.lookup tag.outer = none ↔
      ∀ other : Tag, other.outer = tag.outer → other ≠ tag → options.lookup other = none)) ∧
    ∀ other : Tag, other ≠ tag → other ≠ tag.outer → other.outer ≠ tag →
      changed.lookup other = options.lookup other := by
  obtain ⟨found, hfound, -, hself, hothers⟩ := lookup_updated ordinary options none
  obtain rfl := Option.some.inj (hfound.symm.trans (updated?_eq_some_iff.mpr changes))
  refine ⟨hself, fun place => ?_, hothers⟩
  have carries := (ordinary.parts.resolve_left fun plain => place plain.1).1
  have hplain : Tag.outer tag.outer = 0 := Tag.outer_eq_zero_iff.mpr ⟨by omega, by omega⟩
  rw [lookup_of_plain hplain, changes.get?_outer_eq_none_iff place, carried_eq_nil_iff carries]
  refine forall₂_congr fun other hplace => ?_
  by_cases hother : other = tag
  · subst hother
    simp [hself]
  · have hcarrier : other ≠ tag.outer := fun h => place (hplace.symm.trans (h ▸ hplain))
    have hinside : other.outer ≠ tag := fun h => place (by rw [← h, hplace, hplain])
    rw [hothers other hother hcarrier hinside]
    exact ⟨fun h _ => h, fun h => h hother⟩

end OptionMap

namespace OptionRegion

variable {region : OptionRegion} {tag : Tag}

/-- The options of a region take no more bytes than the region uses, and a store, whatever its
outcome, leaves it so. -/
theorem Inside.encodedSize_store (inside : region.Inside)
    (h : region.options.encodedSize ≤ region.used) (tag : Tag) (value : Option Bytes) :
    (region.afterStore (region.store tag value)).options.encodedSize ≤
      (region.afterStore (region.store tag value)).used := by
  rcases region.store_cases tag value with
    ⟨options, block, -, hblock, fits, hstore⟩ | ⟨cause, hstore, -, hsame⟩
  · rw [hstore]
    rcases inside.write fits options with ⟨after, hafter, written⟩ | ⟨-, _, buffer, hout, -⟩
    · have hlength := OptionBlock.length_encode hblock
      rw [hafter, afterStore, written.options, written.used]
      omega
    · rw [hout]
      exact h
  · rw [hstore, hsame]
    exact h

theorem AnyStores.encodedSize_le {buffer : Bytes} {offset : Int} {capacity used : Option Int}
    (stores : AnyStores (ofBuffer buffer offset capacity used) region)
    (inside : (ofBuffer buffer offset capacity used).Inside) :
    region.options.encodedSize ≤ region.used := by
  induction stores with
  | rest =>
    rw [← inside.length_wire]
    exact Int.ofNat_le.mpr (OptionBlock.encodedSize_decode_le _)
  | store prior tag value ih => exact (prior.keep_ofBuffer inside).1.encodedSize_store ih tag value

/-- A region is made inside a buffer, over whatever bytes, and options are stored in it, under
any tags and with any outcomes.  An ordinary option that the region then has can be removed: no
store that removes one is refused, and only one that has to clear more bytes than any memory
holds fails.

Afterwards the option is gone and the region uses no more bytes than before.  The option that
carried it is gone as well if and only if it was the only one in there, and all others, those
inside the same option among them, are as before. -/
theorem AnyStores.remove_present {buffer : Bytes} {offset : Int} {capacity used : Option Int}
    (inside : (ofBuffer buffer offset capacity used).Inside)
    (stores : AnyStores (ofBuffer buffer offset capacity used) region)
    (ordinary : tag.Ordinary) (present : region.fetch tag ≠ none) :
    (∃ after, region.store tag none = .ok after ∧ after.fetch tag = none ∧
      after.used ≤ region.used ∧ after.used ≤ after.capacity ∧
      after.capacity = region.capacity ∧
      (tag.outer ≠ 0 → (after.fetch tag.outer = none ↔
        ∀ other : Tag, other.outer = tag.outer → other ≠ tag → region.fetch other = none)) ∧
      ∀ other : Tag, other ≠ tag → other ≠ tag.outer → other.outer ≠ tag →
        after.fetch other = region.fetch other) ∨
    Bytes.memoryLimit ≤ region.used ∧ region.RanOut (region.store tag none) := by
  have small := stores.encodedSize_le inside
  obtain ⟨inside, accepted⟩ := stores.keep_ofBuffer inside
  rcases store_ends accepted tag none with
    ⟨framing, -⟩ | ⟨-, carrier, -⟩ | ⟨-, -, changed, block, changes, hblock, -, hends⟩
  · exact absurd framing ordinary.not_framing
  · exact absurd (.inl rfl) carrier
  -- the end byte takes no more room than what the option leaves
  rw [fetch_eq_lookup] at present
  have hlength := OptionBlock.length_encode hblock
  have hshorter := changes.encodedSize_lt present
  have hsmall : (block.length : Int) ≤ region.used := by omega
  rcases hends with ⟨large, -⟩ | ⟨fits, hstore⟩
  · exact absurd (Int.lt_of_le_of_lt inside.used.2 large) (Int.not_lt.mpr hsmall)
  rw [hstore]
  rcases inside.write fits changed with ⟨after, hafter, written⟩ | hout
  · have hremoved := changes.removed ordinary
    rw [← written.options] at hremoved
    simp only [← fetch_eq_lookup] at hremoved
    obtain ⟨hself, houter, hothers⟩ := hremoved
    refine .inl ⟨after, hafter, hself, written.used ▸ hsmall, ?_, written.capacity, houter, hothers⟩
    rw [written.used, written.capacity]
    exact fits
  · exact .inr hout

/-- The only option inside another one is removed from a region that is full, has no end byte and
has an option in two parts. -/
theorem removed_from_full_region :
    let region := ofBuffer [12, 1, 104, 175, 3, 1, 1, 7, 12, 1, 105] 0 none none
    region.fetch (Tag.inside 175 1) = some [7] ∧
    ∃ after, region.store (Tag.inside 175 1) none = .ok after ∧
      after.fetch (Tag.inside 175 1) = none ∧ after.used ≤ region.used ∧
      after.fetch Tag.bootEncap = none ∧ after.fetch Tag.hostname = some [104, 105] := by
  intro region
  have inside : region.Inside := ⟨by decide, by decide, by decide⟩
  have present : region.fetch (Tag.inside 175 1) = some [7] := by decide +kernel
  have known : region.fetch Tag.hostname = some [104, 105] := by decide +kernel
  have emptied : (region.store (Tag.inside 175 1) none).toOption.map
      (fun after => after.fetch Tag.bootEncap) = some none := by decide +kernel
  rcases AnyStores.remove_present inside .rest
      (.inside (by decide) (by decide)) (present ▸ Option.some_ne_none _) with
    ⟨after, hafter, hself, hsmall, -, -, -, hothers⟩ | ⟨large, -⟩
  · rw [hafter] at emptied
    refine ⟨present, after, hafter, hself, hsmall, Option.some.inj emptied, ?_⟩
    rw [hothers Tag.hostname (by decide) (by decide) (by decide), known]
  · exact absurd large (by decide)

end OptionRegion
end NetBoot
