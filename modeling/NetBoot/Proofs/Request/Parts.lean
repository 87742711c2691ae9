/-
# Parts of a request that can be written

A packet can be built from a template and a device if their numbers fit into their places, the
text is ASCII, and the features have codes of their own.  Then none of the parts that are put
into the packet can fail, and the header is written if the buffer holds it and the first
options.
-/
import NetBoot.Proofs.Options.Length
import NetBoot.Proofs.Request.Contents

namespace NetBoot

/-- The template can be written into a packet: numbers fit into their words and bytes, the
vendor class is ASCII, and the features have versions that fit into an item, and distinct
codes that an option can have and that the hardware does not take. -/
structure RequestTemplate.Encodable (template : RequestTemplate) : Prop where
  maxMessageSize : 0 ≤ template.maxMessageSize ∧ template.maxMessageSize < 65536
  vendorClass : ∀ char ∈ template.vendorClass.toList, char.toNat < 128
  clientArchitecture : 0 ≤ template.clientArchitecture ∧ template.clientArchitecture < 65536
  clientNdi : ∀ number ∈ template.clientNdi, 0 ≤ number ∧ number < 256
  requestedOptions : ∀ number ∈ template.requestedOptions, 0 ≤ number ∧ number < 256
  distinct : (template.features.map Feature.code).Nodup
  codes : ∀ feature ∈ template.features,
    1 ≤ feature.code ∧ feature.code ≤ 254 ∧ feature.code ≠ 0xb1
  versions : ∀ feature ∈ template.features, feature.version.length ≤ 255

/-- The device can be named in a packet: its numbers fit into their words and bytes.  Its
address may be of any length. -/
structure Device.Encodable (device : Device) : Prop where
  protocol : 0 ≤ device.protocol.number ∧ device.protocol.number < 256
  bus : 0 ≤ device.hardware.bus ∧ device.hardware.bus < 256
  vendor : 0 ≤ device.hardware.vendor ∧ device.hardware.vendor < 65536
  product : 0 ≤ device.hardware.product ∧ device.hardware.product < 65536

/-- What a client asks for by default can be written. -/
theorem RequestTemplate.encodable_default : RequestTemplate.Encodable {} := by
  have ascii : ({} : RequestTemplate).vendorClass.toList.all (·.toNat < 128) = true := by
    decide +kernel
  refine ⟨by decide, fun char member => ?_, by decide, by decide, by decide, by decide, by decide,
    by decide⟩
  exact of_decide_eq_true (List.all_eq_true.mp ascii char member)

namespace Request

variable {device : Device} {template : RequestTemplate} {block buffer : Bytes}
  {packet after : Packet}

/-! ## Numbers and texts that fit -/

theorem exists_word {number : Int} (fits : 0 ≤ number ∧ number < 65536) :
    ∃ bytes, word number = .ok bytes := by
  have hword : Bytes.word? 2 number = some (Bytes.ofNat 2 number.toNat) := if_pos fits
  exact ⟨_, by rw [word, hword]⟩

theorem exists_byteList {numbers : List Int} (fit : ∀ number ∈ numbers, 0 ≤ number ∧ number < 256) :
    ∃ bytes, byteList numbers = .ok bytes := by
  have hmap : ∃ bytes, numbers.mapM Bytes.byte? = some bytes := by
    induction numbers with
    | nil => exact ⟨[], rfl⟩
    | cons number numbers ih =>
      rw [List.forall_mem_cons] at fit
      obtain ⟨bytes, hbytes⟩ := ih fit.2
      have hbyte : Bytes.byte? number = some (UInt8.ofNat number.toNat) := if_pos fit.1
      exact ⟨_, by rw [List.mapM_cons, hbyte, hbytes]; rfl⟩
  obtain ⟨bytes, hbytes⟩ := hmap
  exact ⟨bytes, by rw [byteList, hbytes]⟩

theorem exists_ascii {text : String} (plain : ∀ char ∈ text.toList, char.toNat < 128) :
    ∃ bytes, ascii text = .ok bytes := by
  refine ⟨_, if_pos ?_⟩
  rw [List.all_eq_true]
  exact fun char mem => decide_eq_true (plain char mem)

theorem exists_templateBlock (h : template.Encodable) :
    ∃ block, templateBlock template = .ok block := by
  obtain ⟨size, hsize⟩ := exists_word h.maxMessageSize
  obtain ⟨vendor, hvendor⟩ := exists_ascii h.vendorClass
  obtain ⟨architecture, harchitecture⟩ := exists_word h.clientArchitecture
  obtain ⟨ndi, hndi⟩ := exists_byteList h.clientNdi
  obtain ⟨requested, hrequested⟩ := exists_byteList h.requestedOptions
  have hoptions : templateOptions template = .ok [(Tag.maxMessageSize, size),
      (Tag.vendorClassId, vendor), (Tag.clientArchitecture, architecture), (Tag.clientNdi, ndi),
      (Tag.parameterRequest, requested)] := by
    rw [templateOptions, hsize, hvendor, harchitecture, hndi, hrequested]
    rfl
  have proper : OptionMap.Proper [(Tag.maxMessageSize, size), (Tag.vendorClassId, vendor),
      (Tag.clientArchitecture, architecture), (Tag.clientNdi, ndi),
      (Tag.parameterRequest, requested)] := by
    have hnodup : ([57, 60, 93, 94, 55] : List Tag).Nodup := by decide
    have hrange : ∀ tag ∈ ([57, 60, 93, 94, 55] : List Tag), 1 ≤ tag ∧ tag ≤ 254 := by decide
    exact ⟨hnodup, hrange⟩
  obtain ⟨-, block, hblock, -⟩ := OptionBlock.decode_encode _ proper
  exact ⟨block, bind_eq_ok.mpr ⟨_, hoptions, by rw [hblock]⟩⟩

/-- Features whose codes and versions fit can be written, whether or not a code is repeated. -/
theorem exists_featureBlock_of_fit {features : List Feature}
    (fit : ∀ feature ∈ features, (1 ≤ feature.code ∧ feature.code ≤ 254) ∧
      feature.version.length ≤ 255) : ∃ block, featureBlock features = .ok block := by
  have hall : ∃ block, Feature.encodeAll? features = some block := by
    induction features with
    | nil => exact ⟨[], rfl⟩
    | cons feature features ih =>
      rw [List.forall_mem_cons] at fit
      obtain ⟨rest, hrest⟩ := ih fit.2
      obtain ⟨pieces, hpieces, rfl⟩ := Option.map_eq_some_iff.mp hrest
      have hcode : Bytes.byte? feature.code = some (UInt8.ofNat feature.code.toNat) :=
        if_pos (by omega)
      have hlength : Bytes.byte? feature.version.length =
          some (UInt8.ofNat (feature.version.length : Int).toNat) := if_pos (by omega)
      refine ⟨(UInt8.ofNat feature.code.toNat ::
        UInt8.ofNat (feature.version.length : Int).toNat :: feature.version) ++
          pieces.flatten, ?_⟩
      rw [Feature.encodeAll?, List.mapM_cons, Feature.encode?, hcode, hlength, hpieces]
      rfl
  obtain ⟨block, hblock⟩ := hall
  exact ⟨block, by rw [featureBlock, hblock]⟩

theorem exists_featureBlock (h : template.Encodable) :
    ∃ features, featureBlock template.features = .ok features :=
  exists_featureBlock_of_fit fun feature mem =>
    ⟨⟨(h.codes feature mem).1, (h.codes feature mem).2.1⟩, h.versions feature mem⟩

/-- The hardware is put behind the features, so the option that carries both grows. -/
theorem exists_updateInner_features {features : Bytes} (h : template.Encodable)
    (hfeatures : featureBlock template.features = .ok features) (hardware : Bytes) :
    ∃ entry, OptionRegion.updateInner? features Tag.busId.inner (some hardware) =
        some (some (features ++ entry)) ∧
      OptionBlock.body? (template.features.map Feature.entry ++ [(Tag.busId.inner, hardware)]) =
        some (features ++ entry) := by
  obtain ⟨hdecode, new⟩ := decode_featureBlock hfeatures h.distinct h.codes
  obtain ⟨entry, hentry⟩ : ∃ entry,
      OptionBlock.entryBytes? Tag.busId.inner hardware = some entry := ⟨_, rfl⟩
  have hbody : OptionBlock.body? (template.features.map Feature.entry ++
      [(Tag.busId.inner, hardware)]) = some (features ++ entry) := by
    rw [OptionBlock.body?_append_singleton, body?_of_featureBlock hfeatures, hentry]
    rfl
  refine ⟨entry, ?_, hbody⟩
  rw [OptionRegion.updateInner?, hdecode, OptionMap.update, OptionMap.insert_of_not_mem new,
    if_neg (by simp), hbody]
  rfl

theorem exists_hardwareId (h : device.Encodable) :
    ∃ hardware, hardwareId device.hardware = .ok hardware := by
  have hbus : Bytes.word? 1 device.hardware.bus = some _ := if_pos h.bus
  have hvendor : Bytes.word? 2 device.hardware.vendor = some _ := if_pos h.vendor
  have hproduct : Bytes.word? 2 device.hardware.product = some _ := if_pos h.product
  exact ⟨_, by rw [hardwareId, hbus, hvendor, hproduct]⟩

theorem exists_clientId (h : device.Encodable) : ∃ client, clientId device = .ok client := by
  have hnumber : Bytes.byte? device.protocol.number = some _ := if_pos h.protocol
  exact ⟨_, by rw [clientId, hnumber]⟩

/-! ## The header -/

/-- A number that fits is written into the header of a packet whose buffer holds one. -/
theorem exists_withWord (field : Header.Word) (number : Int)
    (full : Header.length ≤ packet.buffer.length)
    (fits : 0 ≤ number ∧ number < Nat.pow 256 field.width) :
    ∃ after, withWord packet field number = .ok after ∧ Header.length ≤ after.buffer.length := by
  have hfield : field.offset + field.width ≤ Header.length := by cases field <;> decide
  have hwithin : Header.within packet.buffer field = true :=
    decide_eq_true (Nat.le_trans hfield full)
  have hword : Bytes.word? field.width number = some (Bytes.ofNat field.width number.toNat) :=
    if_pos fits
  have hwritten : Header.writeWord packet.buffer field number =
      (Header.putWord packet.buffer field (Bytes.ofNat field.width number.toNat), true) := by
    rw [Header.writeWord, if_pos hwithin, hword]
  refine ⟨packet.withBuffer (Header.putWord packet.buffer field
    (Bytes.ofNat field.width number.toNat)), ?_, ?_⟩
  · rw [withWord, Packet.setWord, hwritten]
    rfl
  · show Header.length ≤ (Header.putWord packet.buffer field _).length
    rw [Header.putWord, Bytes.length_patch (by rw [Bytes.length_ofNat])
      (Nat.le_trans hfield full)]
    exact full

theorem exists_withAddress (full : Header.length ≤ packet.buffer.length) (address : Bytes) :
    ∃ after, withAddress packet address = .ok after := by
  rw [withAddress]
  split
  next short =>
    have hpadded : (address.padRight Header.hardwareLimit).length = Header.hardwareLimit :=
      Bytes.length_padRight short
    let field := address.padRight Header.hardwareLimit
    let filled := packet.withBuffer (packet.buffer.splice Header.hardwareOffset
      (Header.hardwareOffset + Header.hardwareLimit) field)
    have hfilled : Header.length ≤ filled.buffer.length := by
      have hroom : Header.hardwareOffset + Header.hardwareLimit ≤ packet.buffer.length :=
        Nat.le_trans (by decide) full
      show Header.length ≤ (packet.buffer.splice _ _ field).length
      rw [Bytes.length_splice (Int.natCast_nonneg _) (by omega) (by rw [hpadded])]
      exact full
    have hlength : 0 ≤ (address.length : Int) ∧
        (address.length : Int) < Nat.pow 256 (Header.Word.width .hlen) := by
      have hlimit : Header.hardwareLimit < 256 := by decide
      show 0 ≤ (address.length : Int) ∧ (address.length : Int) < 256
      omega
    obtain ⟨after, hafter, -⟩ := exists_withWord .hlen address.length hfilled hlength
    refine ⟨after, ?_⟩
    rw [Packet.setHardwareAddress, if_neg (Nat.not_lt.mpr short)]
    exact hafter
  · obtain ⟨unnamed, hunnamed, hfull⟩ :=
      exists_withWord .hlen 0 full (by decide)
    obtain ⟨after, hafter, -⟩ :=
      exists_withWord .flags Header.broadcastFlag hfull (by decide)
    exact ⟨after, bind_eq_ok.mpr ⟨unnamed, hunnamed, hafter⟩⟩

/-- The transaction number of a device fits into its field. -/
theorem transaction_lt (device : Device) : device.transaction < 256 ^ 4 := by
  have hlength : (device.address.drop (device.address.length - 4)).length ≤ 4 := by
    rw [List.length_drop]
    omega
  exact Nat.lt_of_lt_of_le (Bytes.toNat_lt _) (Nat.pow_le_pow_right (by decide) hlength)

/-- The header is written if the buffer has room for it and the first options. -/
theorem exists_framed (h : device.Encodable) (kind : MessageType)
    (room : Header.length + block.length ≤ buffer.length) :
    ∃ packet, framed device kind block buffer = .ok packet := by
  have hblank : Header.length ≤ (blank buffer block).buffer.length := by
    show Header.length ≤ ((Bytes.zeros buffer.length).splice _ _ block).length
    rw [Bytes.length_splice (Int.natCast_nonneg _) (by rw [Bytes.length_zeros]; omega)
      (Int.natCast_add _ _), Bytes.length_zeros]
    omega
  have hkind : 0 ≤ (kind.operation : Int) ∧
      (kind.operation : Int) < Nat.pow 256 (Header.Word.width .op) := by cases kind <;> decide
  have hxid : 0 ≤ (device.transaction : Int) ∧
      (device.transaction : Int) < Nat.pow 256 (Header.Word.width .xid) :=
    ⟨Int.natCast_nonneg _, Int.ofNat_lt.mpr (transaction_lt device)⟩
  obtain ⟨first, hfirst, full⟩ := exists_withWord .op kind.operation hblank hkind
  obtain ⟨second, hsecond, full⟩ := exists_withWord .htype device.protocol.number full h.protocol
  obtain ⟨third, hthird, full⟩ := exists_withWord .xid device.transaction full hxid
  obtain ⟨fourth, hfourth, full⟩ :=
    exists_withWord .magic Header.cookie full (by decide)
  obtain ⟨packet, hpacket⟩ := exists_withAddress full device.address
  refine ⟨packet, ?_⟩
  rw [framed, if_neg (Nat.not_lt.mpr room)]
  exact bind_eq_ok.mpr ⟨first, hfirst, bind_eq_ok.mpr ⟨second, hsecond, bind_eq_ok.mpr
    ⟨third, hthird, bind_eq_ok.mpr ⟨fourth, hfourth, hpacket⟩⟩⟩⟩

end Request
end NetBoot
