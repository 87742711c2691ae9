/-
# Storing options in a region

An option region keeps a map and an encoded block.  For a region inside its buffer, whatever
bytes it starts with, the two are in step after every successful store of an ordinary option,
whatever was stored before and with whatever outcome: reading the block from scratch gives
the map.  The store shows at its own tag, and at no other tag that is neither that of the
carrying option nor one that the option carries.

A store that finds no space changes nothing.  One whose region claims to use more than any
memory holds can fail after it has written its block; then map and block disagree until the
next store succeeds.
-/
import NetBoot.Proofs.Bytes.Range
import NetBoot.Proofs.Options.Nested

namespace NetBoot.OptionRegion

variable {region after first : OptionRegion} {tag : Tag} {value : Option Bytes}
  {options : OptionMap} {encoded : Bytes}

/-- The part of the buffer that the region uses. -/
def wire (region : OptionRegion) : Bytes :=
  region.buffer.slice region.offset (region.offset + region.used)

/-- The region lies inside its buffer, and its used part inside the region. -/
structure Inside (region : OptionRegion) : Prop where
  offset : 0 ≤ region.offset
  within : region.offset + region.capacity ≤ region.buffer.length
  used : 0 ≤ region.used ∧ region.used ≤ region.capacity

/-- The region lies inside its buffer, and its map can be written as a block. -/
structure Writable (region : OptionRegion) : Prop where
  inside : region.Inside
  proper : region.options.Proper

/-- The bytes of the region say what its map says; so a new region over these bytes, or over
a copy of them, answers every tag alike. -/
structure InStep (region : OptionRegion) : Prop where
  decode_wire : OptionBlock.decode region.wire = region.options
  again : ∀ tag, (ofBuffer region.buffer region.offset (some region.capacity)
    (some region.used)).fetch tag = region.fetch tag
  copy : ∀ tag, (ofBuffer region.wire 0 none none).fetch tag = region.fetch tag

/-- The region after a map was written into it as a block.  What stands before the region is
as it was. -/
structure Written (region after : OptionRegion) (options : OptionMap) (encoded : Bytes) :
    Prop where
  offset : after.offset = region.offset
  capacity : after.capacity = region.capacity
  length : after.buffer.length = region.buffer.length
  used : after.used = encoded.length
  options : after.options = options
  wire : after.wire = encoded
  before : after.buffer.slice 0 region.offset = region.buffer.slice 0 region.offset

/-- A store ran out of memory while it cleared what its block no longer uses.  It has changed
bytes of the buffer and nothing else. -/
def RanOut (region : OptionRegion) (outcome : Except StoreError OptionRegion) : Prop :=
  ∃ cause buffer, outcome = .error (.notCleared cause { region with buffer }) ∧
    buffer.length = region.buffer.length

/-- A region after any number of stores of ordinary options, whatever their outcomes. -/
inductive Stores (first : OptionRegion) : OptionRegion → Prop
  | rest : Stores first first
  | store {region : OptionRegion} (prior : Stores first region) (tag : Tag)
      (value : Option Bytes) (ordinary : tag.Ordinary) :
      Stores first (region.afterStore (region.store tag value))

/-- A region that is in step with its bytes answers as new regions over them do. -/
theorem inStep_of_decode (h : OptionBlock.decode region.wire = region.options) :
    region.InStep := by
  refine ⟨h, fun tag => ?_, fun tag => ?_⟩
  · rw [fetch_eq_lookup, fetch_eq_lookup, ← h]
    rfl
  · rw [fetch_eq_lookup, fetch_eq_lookup, ← h, ofBuffer]
    simp [Bytes.slice_all]

/-- A region that is made over bytes that are there is in step with them. -/
theorem inStep_ofBuffer (buffer : Bytes) (offset : Int) (capacity used : Option Int) :
    (ofBuffer buffer offset capacity used).InStep :=
  inStep_of_decode rfl

theorem Inside.wire_eq (inside : region.Inside) :
    region.wire = (region.buffer.drop region.offset.toNat).take region.used.toNat := by
  obtain ⟨offset, within, used⟩ := inside
  rw [wire, Bytes.slice_eq offset (by omega) (by omega)]
  congr 1
  omega

/-- There are zeros for a size that is not negative and fits into memory. -/
theorem ofSize_eq {size : Int} (positive : 0 ≤ size) (fits : size < Bytes.memoryLimit) :
    Bytes.ofSize size = .ok (Bytes.zeros size.toNat) := by
  have hlimit : Bytes.memoryLimit < Bytes.indexLimit := by decide
  have hindex : (0 : Int) < Bytes.indexLimit := by decide
  rw [Bytes.ofSize, if_neg (by omega), if_neg (by omega), if_neg (by omega)]

theorem exists_ofSize_eq_error {size : Int} (large : Bytes.memoryLimit ≤ size) :
    ∃ cause, Bytes.ofSize size = .error cause := by
  have hlimit : 0 < Bytes.memoryLimit := by decide
  rw [Bytes.ofSize]
  by_cases h : size < -Bytes.indexLimit ∨ Bytes.indexLimit ≤ size
  · exact ⟨_, if_pos h⟩
  · exact ⟨.noMemory, by rw [if_neg h, if_neg (by omega), if_pos large]⟩

theorem Inside.length_front (inside : region.Inside) :
    (region.buffer.take region.offset.toNat).length = region.offset.toNat := by
  obtain ⟨offset, within, used⟩ := inside
  rw [List.length_take]
  omega

/-- Writing a block puts it in front of as many zeros as it takes to clear what it no longer
uses, or, if there are not so many, leaves what stood behind it. -/
theorem Inside.write_eq (inside : region.Inside) (fits : (encoded.length : Int) ≤ region.capacity)
    (options : OptionMap) :
    region.write options encoded = .ok { region with
      buffer := region.buffer.take region.offset.toNat ++ (encoded ++
        (Bytes.zeros (region.used - encoded.length).toNat ++
          region.buffer.drop (region.offset + max region.used encoded.length).toNat))
      used := encoded.length
      options } ∨
    Bytes.memoryLimit ≤ region.used ∧ (encoded.length : Int) < region.used ∧
      ∃ cause, region.write options encoded = .error (.notCleared cause { region with
        buffer := region.buffer.take region.offset.toNat ++ (encoded ++
          region.buffer.drop (region.offset + encoded.length).toNat) }) := by
  obtain ⟨offset, within, used⟩ := inside
  let written := region.buffer.take region.offset.toNat ++ encoded ++
    region.buffer.drop (region.offset + encoded.length).toNat
  have hwritten : region.buffer.splice region.offset (region.offset + encoded.length) encoded =
      written := Bytes.splice_eq offset (by omega) (by omega)
  have hassoc : written = region.buffer.take region.offset.toNat ++ (encoded ++
    region.buffer.drop (region.offset + encoded.length).toNat) := List.append_assoc ..
  have hfront : (region.buffer.take region.offset.toNat ++ encoded).length =
      (region.offset + encoded.length).toNat := by
    rw [List.length_append, List.length_take]
    omega
  have hlength : written.length = region.buffer.length := by
    rw [List.length_append, hfront, List.length_drop]
    omega
  rw [OptionRegion.write, hwritten]
  by_cases stale : region.used - encoded.length > 0
  · rw [if_pos stale]
    by_cases memory : region.used - encoded.length < Bytes.memoryLimit
    · refine .inl ?_
      rw [ofSize_eq (by omega) memory]
      dsimp only
      rw [Bytes.splice_eq (by omega) (by omega) (by omega), ← hfront, List.take_left]
      have hrest : (region.offset + region.used).toNat =
          (region.offset + encoded.length).toNat + (region.used - encoded.length).toNat := by omega
      rw [Int.max_eq_left (by omega), hrest, ← List.drop_drop, ← List.drop_drop,
        List.drop_left' hfront, List.append_assoc, List.append_assoc]
    · obtain ⟨cause, hcause⟩ := exists_ofSize_eq_error (Int.not_lt.mp memory)
      rw [hcause, hassoc]
      exact .inr ⟨by omega, by omega, cause, rfl⟩
  · rw [if_neg stale]
    have hzeros : Bytes.zeros (region.used - encoded.length).toNat = [] := by
      rw [Int.toNat_of_nonpos (by omega)]
      rfl
    rw [hzeros, List.nil_append, Int.max_eq_right (by omega), hassoc]
    exact .inl rfl

/-- Other bytes from the start of the region on, as many as before, keep the length. -/
theorem Inside.length_tail (inside : region.Inside) {tail : Bytes}
    (size : tail.length = region.buffer.length - region.offset.toNat) :
    (region.buffer.take region.offset.toNat ++ tail).length = region.buffer.length := by
  rw [List.length_append, inside.length_front, size]
  obtain ⟨offset, within, used⟩ := inside
  omega

/-- What the region uses, if other bytes stand from its start on, as many as before. -/
theorem Inside.wire_tail (inside : region.Inside) {tail : Bytes} {used : Int}
    (size : tail.length = region.buffer.length - region.offset.toNat)
    (range : 0 ≤ used ∧ used ≤ region.capacity) (options : OptionMap) :
    ({ region with
      buffer := region.buffer.take region.offset.toNat ++ tail
      used
      options } : OptionRegion).wire = tail.take used.toNat := by
  rw [Inside.wire_eq, List.drop_left' inside.length_front]
  refine ⟨inside.offset, ?_, range⟩
  rw [inside.length_tail size]
  exact inside.within

/-- A block that fits is written into the region, unless the rest is too large to clear. -/
theorem Inside.write (inside : region.Inside) (fits : (encoded.length : Int) ≤ region.capacity)
    (options : OptionMap) :
    (∃ after, region.write options encoded = .ok after ∧
      region.Written after options encoded) ∨
    Bytes.memoryLimit ≤ region.used ∧ region.RanOut (region.write options encoded) := by
  obtain ⟨offset, within, used⟩ := id inside
  rcases inside.write_eq fits options with hwrite | ⟨large, shorter, cause, hwrite⟩
  · have size : (encoded ++ (Bytes.zeros (region.used - encoded.length).toNat ++
        region.buffer.drop (region.offset + max region.used encoded.length).toNat)).length =
        region.buffer.length - region.offset.toNat := by
      simp only [Bytes.zeros, List.length_append, List.length_replicate, List.length_drop]
      omega
    have hlength := inside.length_tail size
    refine .inl ⟨_, hwrite, rfl, rfl, hlength, rfl, rfl, ?_, ?_⟩
    · rw [inside.wire_tail size ⟨Int.natCast_nonneg _, fits⟩, Int.toNat_natCast, List.take_left]
    · dsimp only
      rw [Bytes.slice_eq (Int.le_refl 0) offset (by omega),
        Bytes.slice_eq (Int.le_refl 0) offset (by omega)]
      exact List.take_left' inside.length_front
  · refine .inr ⟨large, cause, _, hwrite, inside.length_tail ?_⟩
    rw [List.length_append, List.length_drop]
    omega

/-- What becomes of a store of an ordinary option: the new map is written as a block, or the
block does not fit and nothing changes, or the rest is too large to clear. -/
theorem Writable.store_cases (h : region.Writable) (ordinary : tag.Ordinary)
    (value : Option Bytes) :
    ∃ options encoded, updated? region.options tag value = some options ∧ options.Proper ∧
      OptionBlock.encode? options = some encoded ∧ OptionBlock.decode encoded = options ∧
      ((∃ after, region.store tag value = .ok after ∧ region.Written after options encoded ∧
          (encoded.length : Int) ≤ region.capacity) ∨
        region.capacity < encoded.length ∧
          region.store tag value = .error (.noSpace tag encoded.length region.capacity) ∨
        Bytes.memoryLimit ≤ region.used ∧ region.RanOut (region.store tag value)) := by
  obtain ⟨options, hupdated, hproper, -⟩ :=
    OptionMap.lookup_updated ordinary region.options value
  have proper := hproper h.proper
  obtain ⟨body, -, hblock, -, hdecode⟩ := OptionBlock.exists_decode_body proper
  refine ⟨options, _, hupdated, proper, hblock, hdecode [], ?_⟩
  rw [store, if_neg ordinary.not_framing, hupdated]
  dsimp only
  rw [hblock]
  dsimp only
  by_cases hspace : ((body ++ [OptionBlock.endByte]).length : Int) > region.capacity
  · rw [if_pos hspace]
    exact .inr (.inl ⟨hspace, rfl⟩)
  · rw [if_neg hspace]
    rcases h.inside.write (Int.not_lt.mp hspace) options with ⟨after, hafter, written⟩ | hout
    · exact .inl ⟨after, hafter, written, Int.not_lt.mp hspace⟩
    · exact .inr (.inr hout)

/-- A region whose map was written is writable again. -/
theorem Writable.written (h : region.Writable) (written : region.Written after options encoded)
    (proper : options.Proper) (fits : (encoded.length : Int) ≤ region.capacity) :
    after.Writable := by
  refine ⟨⟨?_, ?_, ?_⟩, written.options ▸ proper⟩
  · exact written.offset ▸ h.inside.offset
  · rw [written.offset, written.capacity, written.length]
    exact h.inside.within
  · rw [written.used, written.capacity]
    exact ⟨Int.natCast_nonneg _, fits⟩

theorem Written.inStep (written : region.Written after options encoded)
    (decodes : OptionBlock.decode encoded = options) : after.InStep := by
  apply inStep_of_decode
  rw [written.wire, written.options, decodes]

/-- A store of an ordinary option leaves a writable region, whatever its outcome, and unless
so many bytes are in use that it can run out of memory, map and bytes stay in step. -/
theorem Writable.store (h : region.Writable) (ordinary : tag.Ordinary) (value : Option Bytes) :
    (region.afterStore (region.store tag value)).Writable ∧
    ((region.used < Bytes.memoryLimit → region.InStep) →
      (region.afterStore (region.store tag value)).used < Bytes.memoryLimit →
      (region.afterStore (region.store tag value)).InStep) := by
  obtain ⟨options, encoded, -, proper, -, decodes, outcome⟩ := h.store_cases ordinary value
  rcases outcome with ⟨after, hstore, written, fits⟩ | ⟨-, hstore⟩ |
    ⟨large, _, buffer, hstore, hlength⟩
  · rw [hstore]
    exact ⟨h.written written proper fits, fun _ _ => written.inStep decodes⟩
  · rw [hstore]
    exact ⟨h, id⟩
  · rw [hstore]
    refine ⟨⟨⟨h.inside.offset, ?_, h.inside.used⟩, h.proper⟩, fun _ small => ?_⟩
    · rw [show (region.afterStore _).buffer = buffer from rfl, hlength]
      exact h.inside.within
    · exact absurd small (Int.not_lt.mpr large)

/-- Regions stay writable through any stores. -/
theorem Stores.writable (stores : Stores first region) (h : first.Writable)
    (inStep : first.InStep) :
    region.Writable ∧ (region.used < Bytes.memoryLimit → region.InStep) := by
  induction stores with
  | rest => exact ⟨h, fun _ => inStep⟩
  | store prior tag value ordinary ih =>
    obtain ⟨writable, hstep⟩ := ih.1.store ordinary value
    exact ⟨writable, hstep ih.2⟩

/-- A successful store shows at its own tag, leaves alone what other tags answer, and puts
map and bytes in step. -/
theorem Writable.fetch_store (h : region.Writable) (ordinary : tag.Ordinary)
    (stored : region.store tag value = .ok after) :
    after.fetch tag = value ∧
      (∀ other : Tag, other ≠ tag → other ≠ tag.outer → other.outer ≠ tag →
        after.fetch other = region.fetch other) ∧
      after.InStep := by
  obtain ⟨options, hupdated, -, hself, hothers⟩ :=
    OptionMap.lookup_updated ordinary region.options value
  obtain ⟨options', encoded, hupdated', -, -, decodes, outcome⟩ := h.store_cases ordinary value
  rw [hupdated, Option.some_inj] at hupdated'
  subst hupdated'
  have hwritten : region.Written after options encoded := by
    rcases outcome with ⟨known, hstore, written, -⟩ | ⟨-, hstore⟩ | ⟨-, cause, known, hstore, -⟩
    · rw [stored, Except.ok.injEq] at hstore
      exact hstore ▸ written
    · rw [stored] at hstore
      cases hstore
    · rw [stored] at hstore
      cases hstore
  refine ⟨?_, fun other hother hcarrier hinside => ?_, hwritten.inStep decodes⟩
  · rw [fetch_eq_lookup, hwritten.options, hself]
  · rw [fetch_eq_lookup, fetch_eq_lookup, hwritten.options,
      hothers other hother hcarrier hinside]

/-- A region is made inside a buffer, over whatever bytes, and any ordinary options are stored
in it, with whatever outcomes.  A store that succeeds then shows at its tag, and at no other
tag but that of the carrying option and those of the options carried; afterwards reading the
bytes of the region from scratch gives its map, so a new region over these bytes, or over a
copy of them, answers alike.  It succeeds as long as the block of the new map fits, and
otherwise changes nothing, unless the region uses more bytes than any memory holds; all
other regions are in step with their bytes at any time. -/
theorem Stores.keep_in_step {buffer : Bytes} {offset : Int} {capacity used : Option Int}
    (inside : (ofBuffer buffer offset capacity used).Inside)
    (stores : Stores (ofBuffer buffer offset capacity used) region) :
    (region.used < Bytes.memoryLimit → region.InStep) ∧
    ∀ (tag : Tag) (value : Option Bytes), tag.Ordinary →
      (∀ after, region.store tag value = .ok after →
        after.fetch tag = value ∧
        (∀ other : Tag, other ≠ tag → other ≠ tag.outer → other.outer ≠ tag →
          after.fetch other = region.fetch other) ∧
        after.InStep) ∧
      ∃ options block, updated? region.options tag value = some options ∧
        OptionBlock.encode? options = some block ∧
        ((block.length : Int) ≤ region.capacity ∧ (∃ after, region.store tag value = .ok after ∧
            after.options = options ∧ after.wire = block) ∨
          region.capacity < block.length ∧
            region.store tag value = .error (.noSpace tag block.length region.capacity) ∧
            region.afterStore (region.store tag value) = region ∨
          Bytes.memoryLimit ≤ region.used ∧ region.RanOut (region.store tag value)) := by
  obtain ⟨h, inStep⟩ :=
    stores.writable ⟨inside, OptionBlock.proper_decode _⟩ (inStep_ofBuffer _ _ _ _)
  refine ⟨inStep, fun tag value ordinary => ⟨fun after stored => h.fetch_store ordinary stored, ?_⟩⟩
  obtain ⟨options, block, hupdated, -, hblock, -, outcome⟩ := h.store_cases ordinary value
  refine ⟨options, block, hupdated, hblock, ?_⟩
  rcases outcome with ⟨after, hafter, written, fits⟩ | ⟨hspace, hstore⟩ | hout
  · exact .inl ⟨fits, after, hafter, written.options, written.wire⟩
  · exact .inr (.inl ⟨hspace, hstore, by rw [hstore]; rfl⟩)
  · exact .inr (.inr hout)

/-- An option inside another one is removed from a region whose last option was cut short,
after another one was put beside it. -/
theorem in_step_after_removal :
    ∃ region after : OptionRegion,
      Stores (ofBuffer ([255, 255, 12, 2, 104, 105, 175, 4, 1, 1, 7, 0, 3] ++ Bytes.zeros 11) 2
        (some 20) (some 11)) region ∧
      region.fetch (Tag.inside 175 1) = some [7] ∧
      region.store (Tag.inside 175 1) none = .ok after ∧
      after.fetch (Tag.inside 175 1) = none ∧
      after.fetch (Tag.inside 175 2) = region.fetch (Tag.inside 175 2) ∧
      OptionBlock.decode after.wire = after.options := by
  let first := ofBuffer ([255, 255, 12, 2, 104, 105, 175, 4, 1, 1, 7, 0, 3] ++ Bytes.zeros 11) 2
    (some 20) (some 11)
  let region := first.afterStore (first.store (Tag.inside 175 2) (some [10, 0]))
  have inside : first.Inside := ⟨by decide, by decide, by decide⟩
  have stores : Stores first region := .store .rest _ _ (.inside (by decide) (by decide))
  have removed : (region.store (Tag.inside 175 1) none).isOk = true := by decide +kernel
  have held : region.fetch (Tag.inside 175 1) = some [7] := by decide +kernel
  obtain ⟨-, hstore⟩ := stores.keep_in_step inside
  cases hafter : region.store (Tag.inside 175 1) none with
  | error cause =>
    rw [hafter] at removed
    cases removed
  | ok after =>
    obtain ⟨hself, hothers, inStep⟩ :=
      (hstore (Tag.inside 175 1) none (.inside (by decide) (by decide))).1 after hafter
    exact ⟨region, after, stores, held, hafter, hself,
      hothers (Tag.inside 175 2) (by decide) (by decide) (by decide), inStep.decode_wire⟩

end NetBoot.OptionRegion
