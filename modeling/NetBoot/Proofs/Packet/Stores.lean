/-
# Storing options in a packet

Options are stored in a packet one after the other, some in the option block and two in
fields of the header, with whatever outcomes.  A store never moves the block or the end of
the buffer.  One of the block leaves the header alone, and one of the header changes no byte
outside its field and no option of the block.

Once an option was stored in the block, the packet is what it sends: whoever reads its bytes
finds the same header and the same options.
-/
import NetBoot.Proofs.Options.Footprint
import NetBoot.Proofs.Packet.Carries

namespace NetBoot.Packet

variable {packet after first last : Packet} {permitted : Tag → Prop} {tag : Tag}
  {value : Option Bytes} {field : Header.Place} {buffer : Bytes} {length : Int}

/-- A packet after any number of stores, whatever their outcomes. -/
inductive Stores (permitted : Tag → Prop) (first : Packet) : Packet → Prop
  | rest : Stores permitted first first
  | store {packet : Packet} (prior : Stores permitted first packet) (tag : Tag)
      (value : Option Bytes) (allowed : permitted tag) :
      Stores permitted first (packet.afterStore (packet.store tag value))

/-- A packet after a number of stores, at least one of which succeeded and wrote the option
block. -/
def StoresOption (permitted : Tag → Prop) (first last : Packet) : Prop :=
  ∃ packet tag value after, Stores permitted first packet ∧ permitted tag ∧
    headerPlace? tag = none ∧ packet.store tag value = .ok after ∧ Stores permitted after last

theorem framed_ofBuffer (full : Header.length ≤ length) (within : length ≤ buffer.length) :
    (ofBuffer buffer (some length)).Framed := by
  refine ⟨rfl, Int.natCast_nonneg _, ?_, ?_⟩
  · show (Header.length : Int) + max 0 ((buffer.length : Int) - Header.length) ≤ buffer.length
    omega
  · show 0 ≤ max 0 (length - Header.length) ∧
      max 0 (length - Header.length) ≤ max 0 ((buffer.length : Int) - Header.length)
    omega

theorem Framed.full (h : packet.Framed) : Header.length ≤ packet.buffer.length := by
  obtain ⟨offset, _, within, used⟩ := h
  rw [buffer]
  omega

/-! ## Single stores -/

/-- A store in the block does to the packet what it does to the block. -/
theorem afterStore_of_block (place : headerPlace? tag = none) (packet : Packet)
    (value : Option Bytes) : packet.afterStore (packet.store tag value) =
      { packet with region := packet.region.afterStore (packet.region.store tag value) } := by
  rw [store, place]
  dsimp only
  cases packet.region.store tag value <;> rfl

/-- The options that are kept in the header have fields in the middle of it. -/
theorem offset_of_headerPlace (place : headerPlace? tag = some field) :
    16 ≤ field.offset ∧ field.offset + 4 ≤ 24 := by
  rw [headerPlace?] at place
  split at place
  · obtain rfl := Option.some.inj place
    decide
  split at place
  · obtain rfl := Option.some.inj place
    decide
  · cases place

/-- A store in the header puts four bytes into its field, or it fails and changes nothing. -/
theorem Framed.afterStore_of_header (h : packet.Framed) (place : headerPlace? tag = some field)
    (value : Option Bytes) : ∃ bytes : Bytes, bytes.length = 4 ∧
      packet.afterStore (packet.store tag value) =
        packet.withBuffer (packet.buffer.take field.offset ++ bytes ++
          packet.buffer.drop (field.offset + 4)) := by
  have hfield := offset_of_headerPlace place
  have hfull : 240 ≤ packet.buffer.length := h.full
  rw [store, place]
  dsimp only
  by_cases hlength : (value.getD Address.unspecified.toBytes).length = 4
  · refine ⟨_, hlength, ?_⟩
    rw [if_neg (not_not.mpr hlength)]
    show packet.withBuffer _ = _
    rw [Header.putAddress, Bytes.splice_eq (by omega) (by omega) (by omega)]
    rfl
  · refine ⟨(packet.buffer.drop field.offset).take 4, ?_, ?_⟩
    · rw [List.length_take, List.length_drop]
      omega
    · rw [if_pos hlength, List.append_assoc, ← List.drop_drop, List.take_append_drop,
        List.take_append_drop]
      rfl

/-- A store in the header keeps every byte outside its field, and the block with its map. -/
structure KeepsOutside (field : Header.Place) (packet after : Packet) : Prop where
  length : after.buffer.length = packet.buffer.length
  before : after.buffer.take field.offset = packet.buffer.take field.offset
  behind : after.buffer.drop (field.offset + 4) = packet.buffer.drop (field.offset + 4)
  region : after.region = { packet.region with buffer := after.buffer }

theorem Framed.store_header (h : packet.Framed) (place : headerPlace? tag = some field)
    (value : Option Bytes) :
    KeepsOutside field packet (packet.afterStore (packet.store tag value)) := by
  obtain ⟨bytes, hlength, hafter⟩ := h.afterStore_of_header place value
  have hfield := offset_of_headerPlace place
  have hfull : 240 ≤ packet.buffer.length := h.full
  have size : field.offset + 4 = field.offset + bytes.length := by omega
  have within : field.offset + 4 ≤ packet.buffer.length := by omega
  rw [hafter]
  exact ⟨Bytes.length_patch size within, Bytes.take_patch size within,
    Bytes.drop_patch size within, rfl⟩

/-- Bytes behind the fields in the header that hold options. -/
theorem KeepsOutside.drop (h : KeepsOutside field packet after)
    (place : headerPlace? tag = some field) {start : Nat} (behind : 24 ≤ start) :
    after.buffer.drop start = packet.buffer.drop start := by
  have hfield := offset_of_headerPlace place
  rw [show start = field.offset + 4 + (start - (field.offset + 4)) by omega, ← List.drop_drop,
    h.behind, List.drop_drop]

/-! ## Any number of stores -/

/-- What stays of a packet, whatever is stored in it. -/
structure Keeps (packet after : Packet) : Prop where
  framed : after.Framed
  length : after.buffer.length = packet.buffer.length
  header : (after.buffer.take Header.length).drop 24 = (packet.buffer.take Header.length).drop 24
  clear : packet.region.Clear → after.region.Clear
  sealed : packet.region.Sealed → after.region.Sealed

theorem Framed.keeps_refl (h : packet.Framed) : packet.Keeps packet := ⟨h, rfl, rfl, id, id⟩

theorem Keeps.trans (h : first.Keeps packet) (h' : packet.Keeps last) : first.Keeps last :=
  ⟨h'.framed, h'.length.trans h.length, h'.header.trans h.header, h'.clear ∘ h.clear,
    h'.sealed ∘ h.sealed⟩

/-- A store of the block leaves the header alone. -/
theorem Framed.take_store (h : packet.Framed) (place : headerPlace? tag = none)
    (value : Option Bytes) : (packet.afterStore (packet.store tag value)).buffer.take
      Header.length = packet.buffer.take Header.length := by
  have keeps := (h.inside.keeps_store tag value).1.before
  rw [h.offset, Int.toNat_natCast] at keeps
  rw [afterStore_of_block place]
  exact keeps

/-- Fields of the header lie in front of the block. -/
theorem Framed.keeps_of_outside (h : packet.Framed) (place : headerPlace? tag = some field)
    (keeps : KeepsOutside field packet after) : packet.Keeps after := by
  obtain ⟨offset, nonneg, within, used⟩ := h
  have hinside : after.region.Inside := by
    rw [keeps.region]
    exact ⟨nonneg, by rw [keeps.length]; exact within, used⟩
  have hdrop {start : Nat} (behind : 24 ≤ start) :
      after.region.buffer.drop start = packet.region.buffer.drop start := keeps.drop place behind
  have hbehind : 24 ≤ packet.region.offset.toNat := by
    rw [offset]
    decide
  have hused : after.region.used = packet.region.used := by rw [keeps.region]
  have hoffset : after.region.offset = packet.region.offset := by rw [keeps.region]
  have hwire : after.region.wire = packet.region.wire := by
    rw [hinside.wire_eq, OptionRegion.Inside.wire_eq ⟨nonneg, within, used⟩, hused, hoffset,
      hdrop hbehind]
  refine ⟨⟨hoffset.trans offset, hinside⟩, keeps.length, ?_, fun clear => ?_, fun sealed => ?_⟩
  · rw [List.drop_take, List.drop_take]
    exact congrArg _ (hdrop (Nat.le_refl 24))
  · rw [OptionRegion.Clear, hused, hoffset, hdrop (by omega)]
    exact clear
  · exact ⟨hwire ▸ sealed.last, by rw [hused, hwire, keeps.region]; exact sealed.block⟩

theorem Framed.keeps_store (h : packet.Framed) (tag : Tag) (value : Option Bytes) :
    packet.Keeps (packet.afterStore (packet.store tag value)) := by
  cases place : headerPlace? tag with
  | none =>
    have hheader := congrArg (List.drop 24) (h.take_store place value)
    obtain ⟨keeps, inside⟩ := h.inside.keeps_store tag value
    rw [afterStore_of_block place] at hheader ⊢
    exact ⟨⟨keeps.offset.trans h.offset, inside⟩, keeps.length, hheader, keeps.clear,
      fun sealed => sealed.store h.inside tag value⟩
  | some field =>
    have keeps := h.store_header place value
    generalize packet.afterStore (packet.store tag value) = after at keeps
    exact h.keeps_of_outside place keeps

theorem Stores.keeps (stores : Stores permitted first packet) (h : first.Framed) :
    first.Keeps packet := by
  induction stores with
  | rest => exact h.keeps_refl
  | store prior tag value _ ih => exact ih.trans (ih.framed.keeps_store tag value)

/-- Once an option was stored in the block, it is sealed. -/
theorem StoresOption.keeps_sealed (stores : StoresOption permitted first last)
    (h : first.Framed) : first.Keeps last ∧ last.region.Sealed := by
  obtain ⟨packet, tag, value, after, before, -, place, stored, later⟩ := stores
  have keeps := before.keeps h
  have hafter : packet.afterStore (packet.store tag value) = after := by
    rw [stored]
    rfl
  have hstep := keeps.framed.keeps_store tag value
  rw [hafter] at hstep
  have hlater := later.keeps hstep.framed
  refine ⟨(keeps.trans hstep).trans hlater, hlater.sealed ?_⟩
  rw [store, place] at stored
  dsimp only at stored
  cases hstore : packet.region.store tag value with
  | error cause =>
    rw [hstore] at stored
    cases stored
  | ok region =>
    rw [hstore, Except.ok.injEq] at stored
    rw [← stored]
    exact keeps.framed.inside.sealed_of_store hstore

theorem Framed.clear_iff (h : packet.Framed) :
    packet.region.Clear ↔ ∀ byte ∈ packet.buffer.drop packet.length.toNat, byte = 0 := by
  rw [OptionRegion.Clear, Packet.length, ← h.offset]
  rfl

/-- A sealed packet whose buffer is clear behind its block holds its header, the block of its
options, and zeros, and no more than the first two are sent. -/
theorem Framed.eq_block (h : packet.Framed) (sealed : packet.region.Sealed)
    (clear : packet.region.Clear) (memory : packet.region.used < Bytes.memoryLimit) :
    ∃ block rest, OptionBlock.encode? packet.options = some block ∧
      packet.buffer = packet.buffer.take Header.length ++ block ++ Bytes.zeros rest ∧
      packet.encode =
        Bytes.padRight Header.leastPacket (packet.buffer.take Header.length ++ block) := by
  obtain ⟨offset, inside⟩ := id h
  obtain ⟨-, within, used⟩ := id inside
  have hwire := inside.wire_eq
  rw [offset, Int.toNat_natCast] at hwire
  have hrest : packet.buffer.drop (packet.region.offset + packet.region.used).toNat =
      Bytes.zeros (packet.buffer.length - (packet.region.offset + packet.region.used).toNat) := by
    rw [← List.length_drop]
    exact List.eq_replicate_of_mem clear
  refine ⟨packet.region.wire, packet.buffer.length -
    (packet.region.offset + packet.region.used).toNat, sealed.block memory, ?_, h.encode_eq⟩
  rw [← hrest, hwire, List.append_assoc, offset,
    show ((Header.length : Int) + packet.region.used).toNat =
      Header.length + packet.region.used.toNat by omega, ← List.drop_drop]
  exact ((congrArg _ (List.take_append_drop _ _)).trans (List.take_append_drop _ _)).symm

/-- In a packet over a buffer that holds its data, anything is stored, with whatever outcomes.
The buffer keeps its length.  A store of the option block changes no byte of the header; one
of the header changes only the four bytes of its field, and no option of the block.  Once a
store of the block succeeded, the part in use ends with the end byte.  And if nothing but
zeros stood behind the packet, nothing else ever does: once a store of the block succeeded,
the buffer holds the header, the block of the options and zeros, and only that is sent.  (A
store that runs out of memory can leave a block that is not that of the options.) -/
theorem Stores.keep_to_their_places (full : Header.length ≤ length)
    (within : length ≤ buffer.length)
    (stores : Stores (fun _ => True) (ofBuffer buffer (some length)) packet) :
    packet.buffer.length = buffer.length ∧
    (∀ tag value, headerPlace? tag = none →
      (packet.afterStore (packet.store tag value)).buffer.take Header.length =
        packet.buffer.take Header.length) ∧
    (∀ tag value field, headerPlace? tag = some field →
      KeepsOutside field packet (packet.afterStore (packet.store tag value)) ∧
      ∀ other, headerPlace? other = none →
        (packet.afterStore (packet.store tag value)).fetch other = packet.fetch other) ∧
    (StoresOption (fun _ => True) (ofBuffer buffer (some length)) packet →
      packet.region.wire.getLast? = some OptionBlock.endByte) ∧
    ((∀ byte ∈ buffer.drop length.toNat, byte = 0) →
      (∀ byte ∈ packet.buffer.drop packet.length.toNat, byte = 0) ∧
      (StoresOption (fun _ => True) (ofBuffer buffer (some length)) packet →
        packet.region.used < Bytes.memoryLimit →
        ∃ block rest, OptionBlock.encode? packet.options = some block ∧
          packet.buffer = packet.buffer.take Header.length ++ block ++ Bytes.zeros rest ∧
          packet.encode = Bytes.padRight Header.leastPacket
            (packet.buffer.take Header.length ++ block))) := by
  have framed := framed_ofBuffer full within
  have keeps := stores.keeps framed
  have hlength : (ofBuffer buffer (some length)).length = length := by
    show (Header.length : Int) + max 0 (length - Header.length) = length
    omega
  have hclear (zeros : ∀ byte ∈ buffer.drop length.toNat, byte = 0) : packet.region.Clear := by
    apply keeps.clear
    rw [framed.clear_iff, hlength]
    exact zeros
  refine ⟨keeps.length, fun tag value place => keeps.framed.take_store place value,
    fun tag value field place => ?_, fun stored => (stored.keeps_sealed framed).2.last,
    fun zeros => ⟨keeps.framed.clear_iff.mp (hclear zeros), fun stored memory => ?_⟩⟩
  · have outside := keeps.framed.store_header place value
    refine ⟨outside, fun other hother => ?_⟩
    rw [fetch, fetch, hother]
    dsimp only
    rw [OptionRegion.fetch_eq_lookup, OptionRegion.fetch_eq_lookup, outside.region]
  · exact keeps.framed.eq_block (stored.keeps_sealed framed).2 (hclear zeros) memory

/-- A long option is stored, one in the header, and one with too few bytes for the header; the
long option is removed again, and the framing tags are refused. -/
theorem removed_option_leaves_zeros :
    ∃ packet : Packet,
      Stores (fun _ => True) (ofBuffer (Bytes.zeros 240 ++ [53, 1, 2, 255] ++ Bytes.zeros 56)
        (some 244)) packet ∧
      (∀ byte ∈ packet.buffer.drop packet.length.toNat, byte = 0) ∧
      packet.region.wire.getLast? = some OptionBlock.endByte ∧
      ∃ block rest, OptionBlock.encode? packet.options = some block ∧
        packet.buffer = packet.buffer.take Header.length ++ block ++ Bytes.zeros rest ∧
        packet.encode =
          Bytes.padRight Header.leastPacket (packet.buffer.take Header.length ++ block) := by
  let first := ofBuffer (Bytes.zeros 240 ++ [53, 1, 2, 255] ++ Bytes.zeros 56) (some 244)
  let second := first.afterStore (first.store 12 (some (List.replicate 30 7)))
  let third := second.afterStore (second.store Tag.yourAddress (some [10, 0, 0, 5]))
  let fourth := third.afterStore (third.store Tag.nextServer (some [10, 0, 0]))
  let fifth := fourth.afterStore (fourth.store 12 none)
  let packet := fifth.afterStore (fifth.store Tag.stop (some []))
  have begins : Stores (fun _ => True) first second := .store .rest _ _ trivial
  have goes : Stores (fun _ => True) second packet :=
    .store (.store (.store (.store .rest _ _ trivial) _ _ trivial) _ _ trivial) _ _ trivial
  have stores : Stores (fun _ => True) first packet :=
    .store (.store (.store (.store begins _ _ trivial) _ _ trivial) _ _ trivial) _ _ trivial
  have stored : first.store 12 (some (List.replicate 30 7)) = .ok second := by decide +kernel
  obtain ⟨-, -, -, hlast, hclear⟩ := stores.keep_to_their_places (by decide) (by decide +kernel)
  have option : StoresOption (fun _ => True) first packet :=
    ⟨first, 12, _, second, .rest, trivial, rfl, stored, goes⟩
  obtain ⟨zeros, hblock⟩ := hclear (by decide +kernel)
  exact ⟨packet, stores, zeros, hlast option, hblock option (by decide +kernel)⟩

/-! ## Sending -/

/-- Stores of ordinary options keep the map of a packet proper. -/
theorem Stores.proper (stores : Stores Tag.Ordinary first packet) (h : first.Framed)
    (proper : first.options.Proper) : packet.options.Proper := by
  induction stores with
  | rest => exact proper
  | @store packet prior tag value ordinary ih =>
    have framed := (prior.keeps h).framed
    cases place : headerPlace? tag with
    | none =>
      rw [afterStore_of_block place]
      exact (OptionRegion.Writable.store ⟨framed.inside, ih⟩ ordinary value).1.proper
    | some field =>
      rw [options, (framed.store_header place value).region]
      exact ih

theorem Stores.trans (stores : Stores permitted first packet)
    (later : Stores permitted packet last) : Stores permitted first last := by
  induction later with
  | rest => exact stores
  | store _ tag value allowed ih => exact ih.store tag value allowed

theorem StoresOption.stores (stores : StoresOption permitted first last) :
    Stores permitted first last := by
  obtain ⟨packet, tag, value, after, before, allowed, -, stored, later⟩ := stores
  have hafter : packet.afterStore (packet.store tag value) = after := by
    rw [stored]
    rfl
  exact (hafter ▸ before.store tag value allowed).trans later

/-- The number in the last field of the header is read from its last bytes. -/
theorem readWord?_magic (full : Header.length ≤ buffer.length) :
    Header.readWord? buffer .magic =
      some (Bytes.toNat (((buffer.take Header.length).drop 24).drop 212)) := by
  rw [Header.readWord?, if_pos (show Header.within buffer .magic = true from decide_eq_true full),
    List.drop_drop, List.drop_take]
  rfl

theorem addressBytes_take (full : Header.length ≤ buffer.length) (field : Header.Place) :
    Header.addressBytes (buffer.take Header.length) field = Header.addressBytes buffer field := by
  have hfield : field.offset + 4 ≤ Header.length := by cases field <;> decide
  have hlength : (buffer.take Header.length).length = Header.length := by
    rw [List.length_take, Nat.min_eq_left full]
  rw [Header.addressBytes, Header.addressBytes, Bytes.slice_eq (by omega) (by omega) (by omega),
    Bytes.slice_eq (by omega) (by omega) (by omega), List.drop_take, List.take_take,
    Nat.min_eq_left (by omega)]

/-- Ordinary options are stored in a valid packet, with whatever outcomes, and one of the block
at least succeeds.  Whoever receives what the packet then sends, filled up to the least size,
finds the same header, the same options in the same order and the same answer for every
tag.  (A packet of a size that no memory holds could run out of memory in a store.) -/
theorem StoresOption.parse_encode (valid : (ofBuffer buffer (some length)).isValid = true)
    (within : length ≤ buffer.length)
    (stores : StoresOption Tag.Ordinary (ofBuffer buffer (some length)) packet)
    (memory : packet.region.used < Bytes.memoryLimit) :
    ∃ received, parse packet.encode = .ok received ∧
      (packet.encode.length : Int) = max (Header.leastPacket : Int) packet.length ∧
      received.buffer.take Header.length = packet.buffer.take Header.length ∧
      received.options = packet.options ∧
      ∀ tag, received.fetch tag = packet.fetch tag := by
  rw [isValid, Bool.and_eq_true, Bool.and_eq_true, decide_eq_true_eq, decide_eq_true_eq,
    beq_iff_eq] at valid
  obtain ⟨⟨full, hfirst⟩, hmagic⟩ := valid
  have framed := framed_ofBuffer full within
  obtain ⟨keeps, sealed⟩ := stores.keeps_sealed framed
  have proper := stores.stores.proper framed (OptionBlock.proper_decode _)
  have hfull := keeps.framed.full
  have hheader : (packet.buffer.take Header.length).length = Header.length := by
    rw [List.length_take, Nat.min_eq_left hfull]
  have hwire : packet.region.wire.length = packet.region.used := keeps.framed.inside.length_wire
  have magic : Header.readWord? (packet.buffer.take Header.length) .magic =
      some Header.cookie := by
    rw [← hmagic, readWord?_magic (Nat.le_of_eq hheader.symm), readWord?_magic hfirst,
      List.take_take, Nat.min_self, keeps.header]
  have hblock := sealed.block memory
  obtain ⟨received, hreceived, hbuffer, hoptions⟩ :=
    exists_parse hheader magic proper hblock Header.leastPacket
  rw [← keeps.framed.encode_eq] at hreceived hbuffer
  have htake : received.buffer.take Header.length = packet.buffer.take Header.length := by
    rw [hbuffer, keeps.framed.encode_eq, Bytes.padRight, List.append_assoc, List.take_left' hheader]
  have hlong : Header.length ≤ received.buffer.length := by
    rw [hbuffer, keeps.framed.encode_eq, Bytes.padRight, List.length_append, List.length_append,
      hheader]
    omega
  refine ⟨received, hreceived, ?_, htake, hoptions, fun tag => ?_⟩
  · have hlength := congrArg List.length keeps.framed.encode_eq
    simp only [Bytes.padRight, List.length_append, hheader, Bytes.length_zeros] at hlength
    rw [Packet.length]
    omega
  · rw [fetch, fetch]
    cases headerPlace? tag with
    | none =>
      dsimp only
      rw [OptionRegion.fetch_eq_lookup, OptionRegion.fetch_eq_lookup]
      exact congrArg (OptionMap.lookup · tag) hoptions
    | some field =>
      dsimp only
      rw [← addressBytes_take hfull, ← htake, addressBytes_take hlong]

/-- A value that takes two items, an option inside another one and an address in the header,
stored in a buffer that was full of other bytes, over options of which the last is cut
short. -/
theorem split_value_is_received :
    ∃ packet received : Packet,
      StoresOption Tag.Ordinary (ofBuffer (Bytes.zeros 236 ++ [99, 130, 83, 99] ++
        [53, 1, 2, 12, 200] ++ List.replicate 400 9) (some 245)) packet ∧
      parse packet.encode = .ok received ∧ received.options = packet.options ∧
      received.fetch Tag.yourAddress = packet.fetch Tag.yourAddress := by
  let first := ofBuffer (Bytes.zeros 236 ++ [99, 130, 83, 99] ++ [53, 1, 2, 12, 200] ++
    List.replicate 400 9) (some 245)
  let second := first.afterStore (first.store 12 (some (List.replicate 300 7)))
  let third := second.afterStore (second.store Tag.yourAddress (some [10, 0, 0, 5]))
  let fourth := third.afterStore (third.store Tag.priority (some [1]))
  let packet := fourth.afterStore (fourth.store 60 (some (List.replicate 300 8)))
  have stored : first.store 12 (some (List.replicate 300 7)) = .ok second := by decide +kernel
  have later : Stores Tag.Ordinary second packet :=
    .store (.store (.store .rest _ _ (.inside (by decide) (by decide))) _ _
      (.inside (by decide) (by decide))) _ _ (.plain (by decide) (by decide))
  have stores : StoresOption Tag.Ordinary first packet :=
    ⟨first, 12, _, second, .rest, .plain (by decide) (by decide), rfl, stored, later⟩
  obtain ⟨received, hreceived, -, -, hoptions, hfetch⟩ :=
    stores.parse_encode (by decide +kernel) (by decide +kernel) (by decide +kernel)
  exact ⟨packet, received, stores, hreceived, hoptions, hfetch _⟩

end NetBoot.Packet
