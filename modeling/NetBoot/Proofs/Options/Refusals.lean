/-
# Which stores are refused

A store works out the new map and its block before it writes anything.  It is refused if its
tag frames option blocks, if the option that would carry it has a tag that is no byte, and if
the block of the new map is larger than the region.  A store that is refused has changed
nothing, and one whose block just fits is not refused.

Only whole tags are compared with those that frame a block.  So the tags of padding and of the
end are accepted for an option inside another one, and that of the end for a carrying option.
Whoever reads the block then does not find the value again, nor any option behind the end tag.
-/
import NetBoot.Proofs.Options.Changes
import NetBoot.Proofs.Options.Footprint

namespace NetBoot.OptionRegion

variable {region after first : OptionRegion} {tag : Tag} {value : Option Bytes}
  {options : OptionMap} {block : Bytes} {cause : StoreError}

/-- Memory ran out.  All other errors are that the block has no space in the region, or that
no option can have the tag. -/
def StoreError.isMemory : StoreError → Bool
  | notCleared .negative _ => false
  | notCleared _ _ => true
  | _ => false

/-- No option can have the tag. -/
def StoreError.isTag : StoreError → Bool
  | framing _ => true
  | tagRange => true
  | _ => false

/-- A region after any number of stores of any tags, whatever their outcomes. -/
inductive AnyStores (first : OptionRegion) : OptionRegion → Prop
  | rest : AnyStores first first
  | store {region : OptionRegion} (prior : AnyStores first region) (tag : Tag)
      (value : Option Bytes) : AnyStores first (region.afterStore (region.store tag value))

/-! ## How a store ends -/

/-- Once the block is written, only memory can run out. -/
theorem isMemory_of_write (h : region.write options block = .error cause) :
    cause.isMemory = true := by
  rw [write] at h
  by_cases stale : region.used - block.length > 0
  · rw [if_pos stale] at h
    cases hsize : Bytes.ofSize (region.used - block.length) with
    | ok zeros =>
      rw [hsize] at h
      cases h
    | error reason =>
      rw [hsize, Except.error.injEq] at h
      subst h
      cases reason with
      | unindexable => rfl
      | noMemory => rfl
      | negative =>
        rw [Bytes.ofSize] at hsize
        split at hsize
        · cases hsize
        · rw [if_neg (Int.not_lt.mpr (Int.le_of_lt stale))] at hsize
          split at hsize <;> cases hsize
  · rw [if_neg stale] at h
    cases h

/-- A store that did not run out of memory has changed something only if it succeeded. -/
theorem afterStore_of_error (h : region.store tag value = .error cause)
    (memory : cause.isMemory = false) :
    region.afterStore (region.store tag value) = region := by
  rcases region.store_cases tag value with
    ⟨options, block, -, -, -, hstore⟩ | ⟨reason, hstore, -, hsame⟩
  · rw [hstore] at h
    rw [isMemory_of_write h] at memory
    cases memory
  · rw [hstore]
    exact hsame

/-- A store that runs out of memory clears more bytes than any memory holds. -/
theorem Inside.ranOut_of_error (inside : region.Inside)
    (h : region.store tag value = .error cause) (memory : cause.isMemory = true) :
    Bytes.memoryLimit ≤ region.used ∧ region.RanOut (region.store tag value) := by
  rcases region.store_cases tag value with
    ⟨options, block, -, -, fits, hstore⟩ | ⟨reason, hstore, hrefused, -⟩
  · rcases inside.write fits options with ⟨after, hafter, -⟩ | hout
    · rw [hstore, hafter] at h
      cases h
    · rw [hstore]
      exact hout
  · obtain rfl : reason = cause := Except.error.inj (hstore.symm.trans h)
    cases reason with
    | notCleared size written => exact absurd rfl (hrefused size written)
    | framing => cases memory
    | tagRange => cases memory
    | noSpace => cases memory

/-- How a store ends: its tag is refused, or the block of the new map is written if it fits. -/
theorem store_ends (accepted : region.options.Accepted) (tag : Tag) (value : Option Bytes) :
    (tag = Tag.pad ∨ tag = Tag.stop) ∧ region.store tag value = .error (.framing tag) ∨
    ¬(tag = Tag.pad ∨ tag = Tag.stop) ∧ ¬(value = none ∨ 0 ≤ tag.outer ∧ tag.outer ≤ 255) ∧
      region.store tag value = .error .tagRange ∨
    ¬(tag = Tag.pad ∨ tag = Tag.stop) ∧ (value = none ∨ 0 ≤ tag.outer ∧ tag.outer ≤ 255) ∧
      ∃ changed block, region.options.Changes tag value changed ∧
        OptionBlock.encode? changed = some block ∧ changed.Accepted ∧
        (region.capacity < block.length ∧
            region.store tag value = .error (.noSpace tag block.length region.capacity) ∨
          block.length ≤ region.capacity ∧
            region.store tag value = region.write changed block) := by
  by_cases framing : tag = Tag.pad ∨ tag = Tag.stop
  · exact .inl ⟨framing, if_pos framing⟩
  obtain ⟨changed, changes⟩ := region.options.exists_changes tag value
  have hiff := changes.exists_encode_iff accepted
  rw [store, if_neg framing, OptionMap.updated?_eq_some_iff.mpr changes]
  dsimp only
  cases hblock : OptionBlock.encode? changed with
  | none =>
    refine .inr (.inl ⟨framing, fun carrier => ?_, rfl⟩)
    obtain ⟨block, hfound⟩ := hiff.mpr carrier
    rw [hblock] at hfound
    cases hfound
  | some block =>
    refine .inr (.inr ⟨framing, hiff.mp ⟨block, hblock⟩, changed, block, changes, hblock,
      accepted.changes changes framing hblock, ?_⟩)
    dsimp only
    by_cases space : (block.length : Int) > region.capacity
    · rw [if_pos space]
      exact .inl ⟨space, rfl⟩
    · rw [if_neg space]
      exact .inr ⟨Int.not_lt.mp space, rfl⟩

/-! ## Any number of stores -/

theorem Inside.accepted_store (inside : region.Inside) (accepted : region.options.Accepted)
    (tag : Tag) (value : Option Bytes) :
    (region.afterStore (region.store tag value)).options.Accepted := by
  rcases store_ends accepted tag value with
    ⟨-, hstore⟩ | ⟨-, -, hstore⟩ | ⟨-, -, changed, block, -, -, haccepted, hends⟩
  · rw [hstore]
    exact accepted
  · rw [hstore]
    exact accepted
  · rcases hends with ⟨-, hstore⟩ | ⟨fits, hstore⟩
    · rw [hstore]
      exact accepted
    · rw [hstore]
      rcases inside.write fits changed with ⟨after, hafter, written⟩ | ⟨-, _, buffer, hout, -⟩
      · rw [hafter]
        exact written.options ▸ haccepted
      · rw [hout]
        exact accepted

/-- Through any stores, a region stays inside its buffer and its map can be written. -/
theorem AnyStores.keep (stores : AnyStores first region) (inside : first.Inside)
    (accepted : first.options.Accepted) : region.Inside ∧ region.options.Accepted := by
  induction stores with
  | rest => exact ⟨inside, accepted⟩
  | store prior tag value ih =>
    exact ⟨(ih.1.keeps_store tag value).2, ih.1.accepted_store ih.2 tag value⟩

theorem AnyStores.keep_ofBuffer {buffer : Bytes} {offset : Int} {capacity used : Option Int}
    (stores : AnyStores (ofBuffer buffer offset capacity used) region)
    (inside : (ofBuffer buffer offset capacity used).Inside) :
    region.Inside ∧ region.options.Accepted :=
  stores.keep inside (OptionBlock.proper_decode _).accepted

/-- What a store that is not refused leaves: the new map, and its block in the buffer. -/
theorem Inside.exists_written (inside : region.Inside) (accepted : region.options.Accepted)
    (stored : region.store tag value = .ok after) :
    ∃ changed block, region.options.Changes tag value changed ∧ changed.Accepted ∧
      OptionBlock.encode? changed = some block ∧ region.Written after changed block := by
  rcases store_ends accepted tag value with
    ⟨-, hstore⟩ | ⟨-, -, hstore⟩ | ⟨-, -, changed, block, changes, hblock, haccepted, hends⟩
  · rw [hstore] at stored
    cases stored
  · rw [hstore] at stored
    cases stored
  · rcases hends with ⟨-, hstore⟩ | ⟨fits, hstore⟩
    · rw [hstore] at stored
      cases stored
    · rw [hstore] at stored
      rcases inside.write fits changed with ⟨known, hwrite, written⟩ | ⟨-, _, _, hwrite, -⟩
      · obtain rfl : known = after := Except.ok.inj (hwrite.symm.trans stored)
        exact ⟨changed, block, changes, haccepted, hblock, written⟩
      · rw [hwrite] at stored
        cases stored

/-! ## Space -/

/-- A region is made inside a buffer, over whatever bytes, and options are stored in it, under
any tags and with any outcomes.  A store that is refused then changes nothing, and only one
that has to clear more bytes than any memory holds can fail in another way.

An option that a block can hold is refused for lack of space if and only if the block of the
new map, two bytes for each item that a value is cut into, the values and the end byte, is
larger than the region.  A block that just fits is written. -/
theorem AnyStores.refused_iff_larger {buffer : Bytes} {offset : Int} {capacity used : Option Int}
    (inside : (ofBuffer buffer offset capacity used).Inside)
    (stores : AnyStores (ofBuffer buffer offset capacity used) region) (tag : Tag)
    (value : Option Bytes) :
    (∀ cause, region.store tag value = .error cause →
      (cause.isMemory = false → region.afterStore (region.store tag value) = region) ∧
      (cause.isMemory = true →
        Bytes.memoryLimit ≤ region.used ∧ region.RanOut (region.store tag value))) ∧
    (tag.Ordinary → ∃ changed block, region.options.Changes tag value changed ∧
      OptionBlock.encode? changed = some block ∧ block.length = changed.encodedSize + 1 ∧
      (region.capacity < block.length →
        region.store tag value = .error (.noSpace tag block.length region.capacity)) ∧
      (block.length ≤ region.capacity →
        (∃ after, region.store tag value = .ok after ∧ after.options = changed ∧
          after.wire = block) ∨
        Bytes.memoryLimit ≤ region.used ∧ region.RanOut (region.store tag value))) := by
  obtain ⟨inside, accepted⟩ := stores.keep_ofBuffer inside
  constructor
  · intro cause hstore
    exact ⟨afterStore_of_error hstore, inside.ranOut_of_error hstore⟩
  · intro ordinary
    rcases store_ends accepted tag value with
      ⟨framing, -⟩ | ⟨-, carrier, -⟩ | ⟨-, -, changed, block, changes, hblock, -, hends⟩
    · exact absurd framing ordinary.not_framing
    · have hrange := ordinary.outer_range
      exact absurd (.inr ⟨hrange.1, Int.le_trans hrange.2 (by decide)⟩) carrier
    · refine ⟨changed, block, changes, hblock, OptionBlock.length_encode hblock, ?_⟩
      rcases hends with ⟨large, hstore⟩ | ⟨fits, hstore⟩
      · exact ⟨fun _ => hstore, fun fits => absurd large (Int.not_lt.mpr fits)⟩
      · refine ⟨fun large => absurd large (Int.not_lt.mpr fits), fun _ => ?_⟩
        rw [hstore]
        rcases inside.write fits changed with ⟨after, hafter, written⟩ | hout
        · exact .inl ⟨after, hafter, written.options, written.wire⟩
        · exact .inr hout

/-- An option inside another one is refused if its block is one byte too large, and written if
it just fits. -/
theorem refused_by_one_byte :
    let region := ofBuffer (Bytes.zeros 8) 0 none (some 0)
    (∃ after, region.store (Tag.inside 175 1) (some [1, 2, 3]) = .ok after ∧
      after.wire = [175, 5, 1, 3, 1, 2, 3, 255]) ∧
    region.store (Tag.inside 175 1) (some [1, 2, 3, 4]) =
      .error (.noSpace (Tag.inside 175 1) 9 8) := by
  intro region
  have inside : region.Inside := ⟨by decide, by decide, by decide⟩
  have ordinary : (Tag.inside 175 1).Ordinary := .inside (by decide) (by decide)
  have hstore := fun value => (AnyStores.refused_iff_larger inside .rest _ value).2 ordinary
  constructor
  · obtain ⟨changed, block, changes, hblock, -, -, hfits⟩ := hstore (some [1, 2, 3])
    have hchanged : updated? region.options (Tag.inside 175 1) (some [1, 2, 3]) =
        some [(175, [1, 3, 1, 2, 3])] := by decide +kernel
    have hencode : OptionBlock.encode? [(175, [1, 3, 1, 2, 3])] =
        some [175, 5, 1, 3, 1, 2, 3, 255] := by decide +kernel
    rw [OptionMap.updated?_eq_some_iff.mpr changes, Option.some_inj] at hchanged
    rw [hchanged, hencode, Option.some_inj] at hblock
    rcases hfits (hblock ▸ by decide) with ⟨after, hafter, -, hwire⟩ | ⟨large, -⟩
    · exact ⟨after, hafter, hwire.trans hblock.symm⟩
    · exact absurd large (by decide)
  · obtain ⟨changed, block, changes, -, hlength, hlarge, -⟩ := hstore (some [1, 2, 3, 4])
    have hchanged : updated? region.options (Tag.inside 175 1) (some [1, 2, 3, 4]) =
        some [(175, [1, 4, 1, 2, 3, 4])] := by decide +kernel
    rw [OptionMap.updated?_eq_some_iff.mpr changes, Option.some_inj] at hchanged
    have hnine : block.length = 9 := by
      rw [hlength, hchanged]
      rfl
    rw [hnine] at hlarge
    exact hlarge (by decide)

/-! ## Tags that cannot be read back -/

/-- No bytes have an option under a tag that is not ordinary. -/
theorem fetch_received_of_not_ordinary (received : Bytes) (framing : ¬tag.Ordinary) :
    (ofBuffer received 0 none none).fetch tag = none := by
  rw [fetch_eq_lookup]
  exact (OptionBlock.proper_decode _).lookup_eq_none framing

/-- A value is refused for its tag, and nothing changes, if and only if the whole tag frames a
block or that of the carrying option is no byte. -/
theorem refused_for_tag_iff (accepted : region.options.Accepted) (tag : Tag) (bytes : Bytes) :
    (∃ cause, region.store tag (some bytes) = .error cause ∧ cause.isTag = true ∧
        region.afterStore (region.store tag (some bytes)) = region) ↔
      (tag = Tag.pad ∨ tag = Tag.stop) ∨ ¬(0 ≤ tag.outer ∧ tag.outer ≤ 255) := by
  rcases store_ends accepted tag (some bytes) with
    ⟨framing, hstore⟩ | ⟨-, carrier, hstore⟩ | ⟨framing, carrier, changed, block, -, -, -, hends⟩
  · exact ⟨fun _ => .inl framing, fun _ => ⟨_, hstore, rfl, afterStore_of_error hstore rfl⟩⟩
  · refine ⟨fun _ => .inr fun range => carrier (.inr range), fun _ => ?_⟩
    exact ⟨_, hstore, rfl, afterStore_of_error hstore rfl⟩
  · have range := carrier.resolve_left (Option.some_ne_none bytes)
    constructor
    · rintro ⟨cause, hcause, htag, -⟩
      rcases hends with ⟨-, hstore⟩ | ⟨-, hstore⟩
      · rw [hcause, Except.error.injEq] at hstore
        subst hstore
        cases htag
      · have memory := isMemory_of_write (hstore.symm.trans hcause)
        cases cause with
        | framing => cases memory
        | tagRange => cases memory
        | noSpace => cases memory
        | notCleared => cases htag
    · rintro (refused | refused)
      · exact absurd refused framing
      · exact absurd range refused

/-- A region is made inside a buffer, over whatever bytes, and options are stored in it, under
any tags and with any outcomes.  A value is refused for its tag, and nothing changes, if and
only if the whole tag frames a block or that of the carrying option is no byte.

Whoever reads the bytes of the region after a store that was accepted finds the options that
stand in front of the end tag.  Unless that is the tag of a carrying option already, the value
is among them if and only if its tag is ordinary, and then all other options are as before.
A value under any other tag that is accepted, one with a part that frames a block, is not
found again. -/
theorem AnyStores.read_back_iff_ordinary {buffer : Bytes} {offset : Int}
    {capacity used : Option Int} (inside : (ofBuffer buffer offset capacity used).Inside)
    (stores : AnyStores (ofBuffer buffer offset capacity used) region) (tag : Tag)
    (bytes : Bytes) :
    ((∃ cause, region.store tag (some bytes) = .error cause ∧ cause.isTag = true ∧
        region.afterStore (region.store tag (some bytes)) = region) ↔
      (tag = Tag.pad ∨ tag = Tag.stop) ∨ ¬(0 ≤ tag.outer ∧ tag.outer ≤ 255)) ∧
    ∀ after, region.store tag (some bytes) = .ok after →
      OptionBlock.decode after.wire = after.options.beforeStop ∧
      (Tag.stop ∉ region.options.tags →
        ((ofBuffer after.wire 0 none none).fetch tag = some bytes ↔ tag.Ordinary)) ∧
      (Tag.stop ∉ region.options.tags → tag.Ordinary →
        ∀ other : Tag, other ≠ tag → other ≠ tag.outer → other.outer ≠ tag →
          (ofBuffer after.wire 0 none none).fetch other = region.fetch other) ∧
      (¬tag.Ordinary → (ofBuffer after.wire 0 none none).fetch tag = none) := by
  obtain ⟨inside, accepted⟩ := stores.keep_ofBuffer inside
  constructor
  · exact refused_for_tag_iff accepted tag bytes
  · intro after hafter
    obtain ⟨changed, block, changes, haccepted, hblock, written⟩ :=
      inside.exists_written accepted hafter
    have hreceived : OptionBlock.decode after.wire = after.options.beforeStop := by
      rw [written.wire, written.options]
      exact haccepted.decode_block hblock
    have lost : ¬tag.Ordinary → (ofBuffer after.wire 0 none none).fetch tag = none :=
      fetch_received_of_not_ordinary after.wire
    refine ⟨hreceived, fun new => ⟨fun found => ?_, fun ordinary => ?_⟩,
      fun new ordinary other => ?_, lost⟩
    · by_contra framing
      rw [lost framing] at found
      cases found
    · obtain ⟨hself, -, inStep⟩ :=
        Writable.fetch_store ⟨inside, accepted.proper new⟩ ordinary hafter
      rw [inStep.copy, hself]
    · obtain ⟨-, hothers, inStep⟩ :=
        Writable.fetch_store ⟨inside, accepted.proper new⟩ ordinary hafter
      rw [inStep.copy]
      exact hothers other

/-- A value is accepted inside an option under the tag of padding.  The reader does not find it,
and takes its length for the tag of the option beside it, whose value grows. -/
theorem padding_read_as_option :
    ∃ region after : OptionRegion,
      AnyStores (ofBuffer (Bytes.zeros 32) 0 none (some 0)) region ∧
      region.fetch (Tag.inside 175 2) = some [5] ∧
      region.store (Tag.inside 175 0) (some [1, 7]) = .ok after ∧
      (ofBuffer after.wire 0 none none).fetch (Tag.inside 175 0) = none ∧
      (ofBuffer after.wire 0 none none).fetch (Tag.inside 175 2) = some [5, 7] := by
  let first := ofBuffer (Bytes.zeros 32) 0 none (some 0)
  let region := first.afterStore (first.store (Tag.inside 175 2) (some [5]))
  have inside : first.Inside := ⟨by decide, by decide, by decide⟩
  have stores : AnyStores first region := .store .rest _ _
  have framing : ¬(Tag.inside 175 0).Ordinary := by
    rw [Tag.ordinary_iff]
    decide
  have held : region.fetch (Tag.inside 175 2) = some [5] := by decide +kernel
  have accepted : (region.store (Tag.inside 175 0) (some [1, 7])).toOption.map
      (fun after => (ofBuffer after.wire 0 none none).fetch (Tag.inside 175 2)) =
        some (some [5, 7]) := by decide +kernel
  cases hafter : region.store (Tag.inside 175 0) (some [1, 7]) with
  | error cause =>
    rw [hafter] at accepted
    cases accepted
  | ok after =>
    rw [hafter] at accepted
    obtain ⟨-, hstored⟩ := stores.read_back_iff_ordinary inside (Tag.inside 175 0) [1, 7]
    obtain ⟨-, -, -, hlost⟩ := hstored after hafter
    exact ⟨region, after, stores, held, hafter, hlost framing, Option.some.inj accepted⟩

end NetBoot.OptionRegion
