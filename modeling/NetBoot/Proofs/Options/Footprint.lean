/-
# What a store does to the buffer

A store of an option, whatever its tag and its outcome, keeps the size of the buffer and the
bytes in front of the region.  Bytes behind the part in use that are zero stay zero, because
what a shorter block no longer uses is cleared.  Once a store succeeded, the part in use ends
with the end byte, and no store takes that away.
-/
import NetBoot.Proofs.Options.Stores

namespace NetBoot.OptionRegion

variable {region after : OptionRegion} {tag : Tag} {value : Option Bytes}
  {options : OptionMap} {block : Bytes}

/-- Behind the part of the region that is in use, the buffer holds nothing but zeros. -/
def Clear (region : OptionRegion) : Prop :=
  ∀ byte ∈ region.buffer.drop (region.offset + region.used).toNat, byte = 0

/-- What a store leaves alone, whatever it stores and however it ends. -/
structure Keeps (region after : OptionRegion) : Prop where
  offset : after.offset = region.offset
  capacity : after.capacity = region.capacity
  length : after.buffer.length = region.buffer.length
  before : after.buffer.take region.offset.toNat = region.buffer.take region.offset.toNat
  clear : region.Clear → after.Clear

/-- The part of the region in use ends with the end byte, and unless so many bytes are in use
that a store can run out of memory, it is the block of the map. -/
structure Sealed (region : OptionRegion) : Prop where
  last : region.wire.getLast? = some OptionBlock.endByte
  block : region.used < Bytes.memoryLimit → OptionBlock.encode? region.options = some region.wire

theorem keeps_refl (region : OptionRegion) : region.Keeps region := ⟨rfl, rfl, rfl, rfl, id⟩

/-- A store writes the block of the new map, or it is refused and changes nothing. -/
theorem store_cases (region : OptionRegion) (tag : Tag) (value : Option Bytes) :
    (∃ options block, updated? region.options tag value = some options ∧
      OptionBlock.encode? options = some block ∧ (block.length : Int) ≤ region.capacity ∧
      region.store tag value = region.write options block) ∨
    ∃ cause, region.store tag value = .error cause ∧
      (∀ reason written, cause ≠ .notCleared reason written) ∧
      region.afterStore (.error cause) = region := by
  rw [store]
  split
  · exact .inr ⟨_, rfl, (fun _ _ same => by cases same), rfl⟩
  split
  · exact .inr ⟨_, rfl, (fun _ _ same => by cases same), rfl⟩
  next options hupdated =>
    split
    · exact .inr ⟨_, rfl, (fun _ _ same => by cases same), rfl⟩
    next block hblock =>
      split
      · exact .inr ⟨_, rfl, (fun _ _ same => by cases same), rfl⟩
      next fits => exact .inl ⟨options, block, hupdated, hblock, Int.not_lt.mp fits, rfl⟩

theorem Inside.length_wire (inside : region.Inside) :
    (region.wire.length : Int) = region.used := by
  obtain ⟨offset, within, used⟩ := id inside
  rw [inside.wire_eq, List.length_take, List.length_drop]
  omega

/-- A region keeps what it has to if other bytes stand from its start on, as many as before. -/
theorem Inside.keeps_tail (inside : region.Inside) (tail : Bytes) (used : Int)
    (options : OptionMap) (size : tail.length = region.buffer.length - region.offset.toNat)
    (clear : region.Clear → ∀ byte ∈ tail.drop used.toNat, byte = 0) (positive : 0 ≤ used) :
    region.Keeps { region with
      buffer := region.buffer.take region.offset.toNat ++ tail
      used
      options } := by
  have hfront := inside.length_front
  refine ⟨rfl, rfl, inside.length_tail size, List.take_left' hfront, fun h => ?_⟩
  · show ∀ byte ∈ (region.buffer.take region.offset.toNat ++ tail).drop
      (region.offset + used).toNat, byte = 0
    rw [Int.toNat_add inside.offset positive, ← List.drop_drop, List.drop_left' hfront]
    exact clear h

/-- Whatever is stored and however that ends, the region stays inside its buffer and keeps
what a store leaves alone. -/
theorem Inside.keeps_store (inside : region.Inside) (tag : Tag) (value : Option Bytes) :
    region.Keeps (region.afterStore (region.store tag value)) ∧
      (region.afterStore (region.store tag value)).Inside := by
  rcases region.store_cases tag value with
    ⟨options, block, -, -, fits, hstore⟩ | ⟨cause, hstore, -, hsame⟩
  · obtain ⟨offset, within, used⟩ := id inside
    rw [hstore]
    rcases inside.write_eq fits options with hwrite | ⟨-, stale, cause, hwrite⟩
    · rw [hwrite]
      have keeps := inside.keeps_tail (block ++ (Bytes.zeros (region.used - block.length).toNat ++
          region.buffer.drop (region.offset + max region.used block.length).toNat))
        block.length options (by simp [Bytes.zeros]; omega) ?_ (Int.natCast_nonneg _)
      · refine ⟨keeps, offset, ?_, Int.natCast_nonneg _, fits⟩
        exact keeps.length ▸ within
      · intro clear byte mem
        rw [Int.toNat_natCast, List.drop_left, List.mem_append] at mem
        rcases mem with mem | mem
        · exact List.eq_of_mem_replicate mem
        · refine clear byte (List.mem_of_mem_drop (i := (region.offset + max region.used
            block.length).toNat - (region.offset + region.used).toNat) ?_)
          rw [List.drop_drop, Nat.add_sub_of_le (by omega)]
          exact mem
    · rw [hwrite]
      have keeps := inside.keeps_tail (block ++
          region.buffer.drop (region.offset + block.length).toNat)
        region.used region.options (by simp; omega) ?_ used.1
      · exact ⟨keeps, offset, keeps.length ▸ within, used⟩
      · intro clear byte mem
        refine clear byte ?_
        rw [List.drop_append, List.drop_of_length_le (by omega), List.nil_append,
          List.drop_drop] at mem
        rwa [show (region.offset + block.length).toNat + (region.used.toNat - block.length) =
          (region.offset + region.used).toNat by omega] at mem
  · rw [hstore, hsame]
    exact ⟨keeps_refl region, inside⟩

/-- A block ends with the end byte. -/
theorem getLast?_block (hblock : OptionBlock.encode? options = some block) :
    block.getLast? = some OptionBlock.endByte := by
  obtain ⟨body, -, rfl⟩ := Option.map_eq_some_iff.mp hblock
  exact List.getLast?_concat

/-- A store that succeeded seals the region. -/
theorem Inside.sealed_of_store (inside : region.Inside)
    (stored : region.store tag value = .ok after) : after.Sealed := by
  rcases region.store_cases tag value with
    ⟨options, block, -, hblock, fits, hstore⟩ | ⟨_, hstore, -⟩
  · rw [hstore] at stored
    rcases inside.write fits options with ⟨known, hwrite, written⟩ | ⟨-, _, _, hwrite, -⟩
    · rw [hwrite, Except.ok.injEq] at stored
      subst stored
      exact ⟨written.wire ▸ getLast?_block hblock, fun _ => by
        rw [written.wire, written.options, hblock]⟩
    · rw [hwrite] at stored
      cases stored
  · rw [hstore] at stored
    cases stored

/-- A block that takes the place of a longer one leaves the last byte alone. -/
theorem Inside.getLast?_overwritten (inside : region.Inside)
    (shorter : (block.length : Int) < region.used) :
    ((block ++ region.buffer.drop (region.offset + block.length).toNat).take
      region.used.toNat).getLast? = region.wire.getLast? := by
  obtain ⟨offset, within, used⟩ := id inside
  have hlength := inside.length_wire
  have hwire : region.wire.drop block.length =
      (region.buffer.drop (region.offset + block.length).toNat).take
        (region.used.toNat - block.length) := by
    rw [inside.wire_eq, List.drop_take, List.drop_drop]
    congr 2
    omega
  have hlast : (region.wire.drop block.length).getLast? = region.wire.getLast? := by
    rw [List.getLast?_drop, if_neg (by omega)]
  rw [List.take_append, List.take_of_length_le (by omega), ← hwire,
    List.getLast?_append_of_ne_nil, hlast]
  intro hnil
  rw [List.drop_eq_nil_iff] at hnil
  omega

/-- A sealed region stays sealed, whatever is stored and however that ends. -/
theorem Sealed.store (h : region.Sealed) (inside : region.Inside) (tag : Tag)
    (value : Option Bytes) : (region.afterStore (region.store tag value)).Sealed := by
  cases hstored : region.store tag value with
  | ok after => exact inside.sealed_of_store hstored
  | error cause =>
    rcases region.store_cases tag value with
      ⟨options, block, -, -, fits, hstore⟩ | ⟨_, hstore, -, hsame⟩
    · rcases inside.write_eq fits options with hwrite | ⟨large, shorter, _, hwrite⟩
      · rw [hstore, hwrite] at hstored
        cases hstored
      · -- the block was written, but the last byte in use stands behind it
        rw [hstore, hwrite, Except.error.injEq] at hstored
        subst hstored
        obtain ⟨offset, within, used⟩ := id inside
        refine ⟨?_, fun small => absurd small (Int.not_lt.mpr large)⟩
        rw [afterStore, inside.wire_tail (by simp; omega) used,
          inside.getLast?_overwritten shorter, h.last]
    · rw [hstored, Except.error.injEq] at hstore
      subst hstore
      rw [hsame]
      exact h

/-- A store of an ordinary option after which the block is not shorter has nothing to clear, and
what fits into memory can be cleared: such a store succeeds as long as the block fits. -/
theorem Writable.store_of_clears (h : region.Writable) (ordinary : tag.Ordinary)
    (hupdated : updated? region.options tag value = some options)
    (hblock : OptionBlock.encode? options = some block)
    (clears : region.used ≤ block.length ∨ region.used < Bytes.memoryLimit) :
    (block.length : Int) ≤ region.capacity ∧ (∃ after, region.store tag value = .ok after) ∨
      region.capacity < block.length ∧
        region.store tag value = .error (.noSpace tag block.length region.capacity) := by
  obtain ⟨changed, encoded, hchanged, -, hencoded, -, outcome⟩ := h.store_cases ordinary value
  obtain rfl := Option.some.inj (hupdated.symm.trans hchanged)
  obtain rfl := Option.some.inj (hblock.symm.trans hencoded)
  rcases outcome with ⟨after, hafter, -, fits⟩ | hspace | ⟨large, _, _, hout, -⟩
  · exact .inl ⟨fits, after, hafter⟩
  · exact .inr hspace
  · exfalso
    have longer : region.used ≤ block.length := clears.resolve_right (Int.not_lt.mpr large)
    rcases region.store_cases tag value with
      ⟨again, encoded, hagain, hencoded, fits, hstore⟩ | ⟨cause, hstore, hrefused, -⟩
    · obtain rfl := Option.some.inj (hupdated.symm.trans hagain)
      obtain rfl := Option.some.inj (hblock.symm.trans hencoded)
      rcases h.inside.write_eq fits options with hwrite | ⟨-, shorter, -⟩
      · rw [hstore, hwrite] at hout
        cases hout
      · omega
    · exact hrefused _ _ (Except.error.inj (hstore.symm.trans hout))

end NetBoot.OptionRegion
