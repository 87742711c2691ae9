/-
# What a packet carries

A packet carries a header and options if its buffer starts with the header and goes on with
the block of these options.  Writing a field changes the header and leaves the options
alone, and storing an option does the reverse.  Whoever reads what such a packet sends finds
the header and the options again, whatever else the buffer holds.
-/
import NetBoot.Proofs.Bytes.Words
import NetBoot.Proofs.Options.Stores

namespace NetBoot.Packet

variable {packet after : Packet} {header front old rest block : Bytes} {options : OptionMap}
  {tag : Tag} {value body : Bytes}

/-- The option block of a packet lies behind its header and inside its buffer. -/
structure Framed (packet : Packet) : Prop where
  offset : packet.region.offset = Header.length
  inside : packet.region.Inside

/-- The buffer of a packet starts with a full header, and the block that follows is that of
the options. -/
structure Carries (packet : Packet) (header : Bytes) (options : OptionMap) : Prop where
  full : header.length = Header.length
  begins : header <+: packet.buffer
  offset : packet.region.offset = Header.length
  writable : packet.region.Writable
  holds : packet.region.options = options
  wire : OptionBlock.encode? options = some packet.region.wire

theorem Carries.proper (h : packet.Carries header options) : options.Proper :=
  h.holds ▸ h.writable.proper

theorem Carries.take (h : packet.Carries header options) :
    packet.region.buffer.take Header.length = header :=
  h.full ▸ (List.prefix_iff_eq_take.mp h.begins).symm

/-! ## Plain options -/

theorem headerPlace?_of_plain (plain : 1 ≤ tag ∧ tag ≤ 254) : headerPlace? tag = none := by
  rw [headerPlace?, if_neg, if_neg]
  · rintro rfl
    exact absurd plain.2 (by decide)
  · rintro rfl
    exact absurd plain.2 (by decide)

theorem outer_of_plain (plain : 1 ≤ tag ∧ tag ≤ 254) : tag.outer = 0 :=
  Int.ediv_eq_zero_of_lt (Int.le_trans (by decide) plain.1)
    (Int.lt_of_le_of_lt plain.2 (by decide))

/-- A plain option is read from the block. -/
theorem fetch_of_plain (packet : Packet) (plain : 1 ≤ tag ∧ tag ≤ 254) :
    packet.fetch tag = packet.options.get? tag := by
  rw [fetch, headerPlace?_of_plain plain]
  exact if_neg (not_not.mpr (outer_of_plain plain))

/-! ## Writing -/

/-- Other bytes in a field of the header. -/
theorem Carries.rewrite (h : packet.Carries header options) (parts : header = front ++ old ++ rest)
    (size : value.length = old.length) :
    (packet.withBuffer (packet.buffer.take front.length ++ value ++
      packet.buffer.drop (front.length + value.length))).Carries (front ++ value ++ rest)
      options := by
  subst parts
  obtain ⟨full, ⟨tail, begins⟩, offset, ⟨⟨hoffset, within, used⟩, proper⟩, hoptions, wire⟩ := h
  have hbuffer : packet.buffer.take front.length ++ value ++
      packet.buffer.drop (front.length + value.length) = front ++ value ++ rest ++ tail := by
    rw [← begins, size]
    simp [List.append_assoc, List.drop_append]
  have hlength : (front ++ value ++ rest).length = (front ++ old ++ rest).length := by
    simp [size]
  have hregion : packet.region.buffer = front ++ old ++ rest ++ tail := begins.symm
  rw [hbuffer]
  have inside : (packet.withBuffer (front ++ value ++ rest ++ tail)).region.Inside := by
    refine ⟨hoffset, ?_, used⟩
    rw [hregion, List.length_append, ← hlength, ← List.length_append] at within
    exact within
  refine ⟨hlength.trans full, ⟨tail, rfl⟩, offset, ⟨inside, proper⟩, hoptions, ?_⟩
  -- the block lies behind the header, so its bytes are the same
  have hwire := OptionRegion.Inside.wire_eq ⟨hoffset, within, used⟩
  rw [hregion, offset, Int.toNat_natCast, List.drop_left' full] at hwire
  rw [wire, hwire, inside.wire_eq]
  show some _ = some (((front ++ value ++ rest ++ tail).drop packet.region.offset.toNat).take
    packet.region.used.toNat)
  rw [offset, Int.toNat_natCast, List.drop_left' (hlength.trans full)]

/-- Other bytes in one of the parts that make up the header. -/
theorem Carries.replace {parts : List Bytes} {start : Nat}
    (h : packet.Carries parts.flatten options) (index : Nat) (place : parts[index]? = some old)
    (hstart : (parts.take index).flatten.length = start) (size : value.length = old.length) :
    (packet.withBuffer (packet.buffer.take start ++ value ++
      packet.buffer.drop (start + value.length))).Carries (parts.set index value).flatten
      options := by
  obtain ⟨within, rfl⟩ := List.getElem?_eq_some_iff.mp place
  have hparts : parts.flatten =
      (parts.take index).flatten ++ parts[index] ++ (parts.drop (index + 1)).flatten := by
    conv_lhs => rw [← List.take_append_drop index parts, List.drop_eq_getElem_cons within]
    rw [List.flatten_append, List.flatten_cons, List.append_assoc]
  have hafter := h.rewrite hparts size
  rw [hstart] at hafter
  rw [List.set_eq_take_append_cons_drop, if_pos within, List.flatten_append, List.flatten_cons,
    ← List.append_assoc]
  exact hafter

/-- A number that is written into the header replaces the bytes of its field. -/
theorem Carries.setWord {parts : List Bytes} {field : Header.Word} {number : Int}
    (h : packet.Carries parts.flatten options) (index : Nat) (place : parts[index]? = some old)
    (start : (parts.take index).flatten.length = field.offset) (width : old.length = field.width)
    (hset : packet.setWord field number = (after, .ok ())) :
    after.Carries (parts.set index (Bytes.ofNat field.width number.toNat)).flatten options := by
  rw [Packet.setWord, Header.writeWord] at hset
  split at hset
  next found _ hsame =>
    obtain ⟨rfl, hok⟩ := Prod.mk.inj hset
    split at hsame
    · cases hword : Bytes.word? field.width number with
      | none =>
        rw [hword] at hsame
        obtain ⟨rfl, rfl⟩ := Prod.mk.inj hsame
        cases hok
      | some bytes =>
        obtain rfl := Bytes.ofNat_of_word? hword
        rw [hword] at hsame
        obtain ⟨rfl, -⟩ := Prod.mk.inj hsame
        have hsize : (Bytes.ofNat field.width number.toNat).length = old.length := by simp [width]
        have hafter := h.replace index place start hsize
        rw [Bytes.length_ofNat] at hafter
        exact hafter
    · obtain ⟨rfl, rfl⟩ := Prod.mk.inj hsame
      cases hok

/-- A short hardware address is written into its field, and its length into another one. -/
theorem Carries.setHardwareAddress {parts : List Bytes} {size : Bytes}
    (h : packet.Carries parts.flatten options) (index length : Nat)
    (place : parts[index]? = some old)
    (start : (parts.take index).flatten.length = Header.hardwareOffset)
    (width : old.length = Header.hardwareLimit)
    (counts : (parts.set index (value.padRight Header.hardwareLimit))[length]? = some size)
    (before : ((parts.set index (value.padRight Header.hardwareLimit)).take length).flatten.length =
      Header.Word.hlen.offset)
    (single : size.length = Header.Word.hlen.width)
    (hset : packet.setHardwareAddress value = (after, .ok ())) :
    after.Carries ((parts.set index (value.padRight Header.hardwareLimit)).set length
      (Bytes.ofNat Header.Word.hlen.width value.length)).flatten options := by
  rw [Packet.setHardwareAddress] at hset
  split at hset
  · cases (Prod.mk.inj hset).2
  next fits =>
    have hpadded : (value.padRight Header.hardwareLimit).length = Header.hardwareLimit :=
      Bytes.length_padRight (Nat.not_lt.mp fits)
    have hroom : Header.hardwareOffset + Header.hardwareLimit ≤ packet.buffer.length := by
      have hfull := h.begins.length_le
      rw [h.full] at hfull
      exact Nat.le_trans (by decide) hfull
    have hafter := h.replace index place start (hpadded.trans width.symm)
    rw [hpadded] at hafter
    dsimp only at hset
    rw [Bytes.splice_eq (by omega) (by omega) (by omega)] at hset
    exact hafter.setWord length counts before single hset

/-- A stored option shows in the options and leaves the header alone. -/
theorem Carries.store {value : Option Bytes} (h : packet.Carries header options)
    (ordinary : tag.Ordinary) (place : headerPlace? tag = none)
    (stored : packet.store tag value = .ok after) :
    ∃ changed, OptionRegion.updated? options tag value = some changed ∧
      after.Carries header changed := by
  obtain ⟨changed, encoded, hupdated, proper, hencoded, -, outcome⟩ :=
    h.writable.store_cases ordinary value
  rw [h.holds] at hupdated
  refine ⟨changed, hupdated, ?_⟩
  rw [Packet.store, place] at stored
  dsimp only at stored
  rcases outcome with ⟨region, hstore, written, fits⟩ | ⟨-, hstore⟩ | ⟨-, _, _, hstore, -⟩
  · rw [hstore] at stored
    obtain rfl := Except.ok.inj stored
    refine ⟨h.full, ?_, written.offset.trans h.offset, h.writable.written written proper fits,
      written.options, ?_⟩
    · -- what stands before the region is the header
      have hwithin := h.writable.inside.within
      have hused := h.writable.inside.used
      have hbefore := written.before
      rw [Bytes.slice_eq (Int.le_refl 0) h.writable.inside.offset (by rw [written.length]; omega),
        Bytes.slice_eq (Int.le_refl 0) h.writable.inside.offset (by omega), h.offset] at hbefore
      rw [← h.take]
      exact (show region.buffer.take Header.length = packet.region.buffer.take Header.length from
        hbefore) ▸ List.take_prefix _ _
    · rw [hencoded, ← written.wire]
  · rw [hstore] at stored
    cases stored
  · rw [hstore] at stored
    cases stored

/-- A new option goes to the end. -/
theorem Carries.append (h : packet.Carries header options) (plain : 1 ≤ tag ∧ tag ≤ 254)
    (new : tag ∉ options.tags) (stored : packet.store tag (some value) = .ok after) :
    after.Carries header (options ++ [(tag, value)]) := by
  obtain ⟨changed, hupdated, carries⟩ :=
    h.store (.plain plain.1 plain.2) (headerPlace?_of_plain plain) stored
  rw [OptionRegion.updated?, if_neg (not_not.mpr (outer_of_plain plain)), Option.some_inj]
    at hupdated
  rw [← OptionMap.insert_of_not_mem new]
  exact (show options.insert tag value = changed from hupdated) ▸ carries

/-- An option inside the last option changes that one's value. -/
theorem Carries.nest (h : packet.Carries header (options ++ [(tag, body)])) {inner : Tag}
    (ordinary : inner.Ordinary) (houter : inner.outer = tag) (place : headerPlace? inner = none)
    (stored : packet.store inner (some value) = .ok after) :
    ∃ inside, OptionRegion.updateInner? body inner.inner (some value) = some (some inside) ∧
      after.Carries header (options ++ [(tag, inside)]) := by
  have hlast : tag ∉ options.tags := by
    have hnodup := h.proper.nodup
    rw [OptionMap.tags, List.map_append, List.nodup_append] at hnodup
    exact fun mem => hnodup.2.2 tag mem tag (by simp) rfl
  have hbody : (options ++ [(tag, body)]).get? tag = some body := by
    rw [← OptionMap.insert_of_not_mem hlast, OptionMap.get?_insert_self]
  have hnested : inner.outer ≠ 0 := by
    have hencodable := h.proper.encodable tag (by simp [OptionMap.tags])
    intro hzero
    rw [← houter, hzero] at hencodable
    exact absurd hencodable.1 (by decide)
  obtain ⟨changed, hupdated, carries⟩ := h.store ordinary place stored
  rw [OptionRegion.updated?, if_pos hnested, houter, hbody] at hupdated
  obtain ⟨content, hcontent, hchanged⟩ := Option.bind_eq_some_iff.mp hupdated
  cases content with
  | none =>
    -- a value is stored, so the options inside cannot be gone
    exfalso
    rw [OptionRegion.updateInner?] at hcontent
    split at hcontent
    next hempty =>
      have hself := OptionMap.get?_update_self inner.inner (some value) (OptionBlock.decode body)
      rw [Option.getD_some, List.isEmpty_iff] at hempty
      rw [hempty] at hself
      cases hself
    · simp at hcontent
  | some inside =>
    refine ⟨inside, hcontent, ?_⟩
    rw [← OptionMap.insert_append_self hlast]
    exact Option.some.inj hchanged ▸ carries

/-! ## Sending and reading -/

/-- A packet sends its header and what is in use behind it. -/
theorem Framed.encode_eq (h : packet.Framed) : packet.encode =
    Bytes.padRight Header.leastPacket
      (packet.buffer.take Header.length ++ packet.region.wire) := by
  obtain ⟨offset, inside⟩ := h
  obtain ⟨-, within, used⟩ := id inside
  have hstop : packet.length.toNat = Header.length + packet.region.used.toNat := by
    rw [Packet.length]
    omega
  have hsent : packet.buffer.slice 0 packet.length =
      packet.buffer.take Header.length ++ packet.region.wire := by
    rw [Bytes.slice_eq (Int.le_refl 0) (by rw [Packet.length]; omega)
      (by rw [Packet.length, buffer]; omega), hstop,
      inside.wire_eq, offset, Int.toNat_zero, List.drop_zero, Nat.sub_zero, List.take_add,
      Int.toNat_natCast]
    rfl
  rw [encode, hsent]

/-- A packet sends its header and the block of its options, and no other byte of its buffer. -/
theorem Carries.encode (h : packet.Carries header options)
    (hblock : OptionBlock.encode? options = some block) :
    packet.encode = (header ++ block).padRight Header.leastPacket := by
  obtain rfl : packet.region.wire = block := Option.some.inj (h.wire.symm.trans hblock)
  have framed : packet.Framed := ⟨h.offset, h.writable.inside⟩
  rw [framed.encode_eq]
  exact congrArg (fun front => Bytes.padRight Header.leastPacket (front ++ packet.region.wire))
    h.take

/-- Data that is a header with the magic word and a block, filled up with zeros, is a packet
with the options of that block. -/
theorem exists_parse (full : header.length = Header.length)
    (magic : Header.readWord? header .magic = some Header.cookie) (proper : options.Proper)
    (hblock : OptionBlock.encode? options = some block) (width : Nat) :
    ∃ received, parse ((header ++ block).padRight width) = .ok received ∧
      received.buffer = (header ++ block).padRight width ∧ received.options = options := by
  let data := (header ++ block).padRight width
  have hdata : data = header ++ (block ++ Bytes.zeros (width - (header ++ block).length)) :=
    List.append_assoc ..
  have hlength : Header.length ≤ data.length := by
    rw [hdata, List.length_append, full]
    omega
  have hmagic : Header.readWord? data .magic = some Header.cookie := by
    rw [← magic, Header.readWord?, Header.readWord?, if_pos, if_pos, hdata, List.drop_append,
      List.take_append]
    · simp [full, Header.length, Header.Word.offset, Header.Word.width]
    · simp [Header.within, full, Header.length, Header.Word.offset, Header.Word.width]
    · exact decide_eq_true hlength
  have hvalid : (ofBytes data).isValid = true := by
    rw [isValid, Bool.and_eq_true, Bool.and_eq_true, decide_eq_true_eq, decide_eq_true_eq]
    refine ⟨⟨?_, ?_⟩, by simpa [ofBytes, ofBuffer, buffer, OptionRegion.ofBuffer] using hmagic⟩
    · exact Int.ofNat_le.mpr hlength
    · exact hlength
  refine ⟨ofBytes data, if_pos hvalid, rfl, ?_⟩
  obtain ⟨-, found, hfound, hdecode⟩ := OptionBlock.decode_encode options proper
  obtain rfl : found = block := Option.some.inj (hfound.symm.trans hblock)
  have hrest : data.slice Header.length
        (Header.length + max 0 ((data.length : Int) - (Header.length : Int))) =
      found ++ Bytes.zeros (width - (header ++ found).length) := by
    rw [Bytes.slice_eq (by omega) (by omega) (by omega), Int.toNat_natCast, hdata,
      List.drop_left' full, List.take_of_length_le]
    rw [← hdata, hdata]
    simp only [List.length_append]
    omega
  rw [Packet.options, ofBytes, ofBuffer, OptionRegion.ofBuffer]
  dsimp only [Option.getD_some, Option.getD_none]
  rw [hrest]
  exact hdecode _

end NetBoot.Packet
