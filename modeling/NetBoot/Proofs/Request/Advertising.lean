/-
# Features as a server sees them

A client lists its features in one option, each with its version, and puts its hardware behind
them.  To do so it reads the list back.  So a feature that is listed once is advertised with just
the version that is listed, but one that is listed more often is advertised once, with all its
versions joined: the single byte that each of them has is then one of several.

Apart from this, what is advertised is what is listed: each code once, in the order of first
appearance, and then the hardware, and nothing else.  A buffer with room for all items of the list
is always large enough, whether some are repeated or not.
-/
import NetBoot.Proofs.Options.Normal
import NetBoot.Proofs.Request.Environment

namespace NetBoot

namespace Feature

variable {feature : Feature} {features : List Feature}

/-- All versions of a code in a list, joined in order. -/
def versionsOf (features : List Feature) (code : Int) : Bytes :=
  (features.filter fun feature => feature.code = code).flatMap Feature.version

/-- A feature as whoever reads the list finds it. -/
def item (feature : Feature) : UInt8 × Bytes := (Bytes.low feature.code, feature.version)

/-- Versions of one byte are as many bytes as there are versions. -/
theorem length_versionsOf (known : ∀ feature ∈ features, feature.Known) (code : Int) :
    (versionsOf features code).length = (features.map Feature.code).count code := by
  induction features with
  | nil => rfl
  | cons first features ih =>
    rw [List.forall_mem_cons] at known
    obtain ⟨byte, version⟩ := known.1.single
    rw [versionsOf, List.filter_cons, List.map_cons, List.count_cons, ← ih known.2]
    by_cases same : first.code = code
    · simp [same, versionsOf, version, Nat.add_comm]
    · simp [same, versionsOf]

/-- A version is the only one of its feature if and only if the feature is listed once. -/
theorem versionsOf_eq_iff (known : ∀ feature ∈ features, feature.Known)
    (mem : feature ∈ features) : versionsOf features feature.code = feature.version ↔
      (features.map Feature.code).count feature.code = 1 := by
  obtain ⟨byte, version⟩ := (known feature mem).single
  rw [← length_versionsOf known]
  constructor
  · intro alone
    rw [alone, version]
    rfl
  · intro one
    have listed : feature ∈ features.filter fun other => other.code = feature.code :=
      List.mem_filter.mpr ⟨mem, decide_eq_true rfl⟩
    obtain ⟨before, after, parts⟩ := List.append_of_mem listed
    rw [versionsOf, parts, List.flatMap_append, List.flatMap_cons, version, List.length_append,
      List.length_append, List.length_singleton] at one
    rw [versionsOf, parts, List.flatMap_append, List.flatMap_cons,
      List.eq_nil_of_length_eq_zero (show (before.flatMap Feature.version).length = 0 by omega),
      List.eq_nil_of_length_eq_zero (show (after.flatMap Feature.version).length = 0 by omega),
      List.nil_append, List.append_nil]

end Feature

namespace Request

variable {device : Device} {template : RequestTemplate} {uuid : Option Uuid}
  {offer : Option (Tag → Option Bytes)} {head block buffer inside features hardware : Bytes}
  {packet : Packet} {options : OptionMap} {outcome : Except Error Packet} {room : Nat}

/-! ## Reading a list of features back -/

/-- A list of features is written as one item for each. -/
theorem items_features {features : List Feature}
    (h : OptionBlock.body? (features.map Feature.entry) = some block)
    (fit : ∀ feature ∈ features, (1 ≤ feature.code ∧ feature.code ≤ 254) ∧
      feature.version.length ≤ 255) :
    OptionBlock.items block = features.map Feature.item := by
  induction features generalizing block with
  | nil =>
    obtain rfl := Option.some.inj h
    exact OptionBlock.items_remainder .empty
  | cons feature features ih =>
    rw [List.forall_mem_cons] at fit
    obtain ⟨⟨hcode, hversion⟩, fit⟩ := fit
    have fits : feature.version.length ≤ OptionBlock.chunkLimit := hversion
    obtain ⟨byte, hbyte, ordinary, -⟩ := OptionBlock.exists_byte hcode
    have hentry : OptionBlock.entryBytes? feature.code feature.version =
        some (OptionBlock.item byte feature.version) := by
      rw [OptionBlock.entryBytes?, hbyte, Option.map_some, OptionBlock.chunks, if_pos fits,
        List.flatMap_singleton]
    rw [List.map_cons, OptionBlock.body?_cons, Feature.entry, hentry, Option.bind_some] at h
    obtain ⟨rest, hrest, rfl⟩ := Option.map_eq_some_iff.mp h
    rw [OptionBlock.items_item ordinary fits, ih hrest fit, List.map_cons, Feature.item,
      (Bytes.low_of_byte? hbyte).2.2]

/-- What a list of features says when it is read back: each code once, where it is first, with
all versions that the list gives for it. -/
theorem decode_features {features : List Feature} (h : featureBlock features = .ok block)
    (fit : ∀ feature ∈ features, (1 ≤ feature.code ∧ feature.code ≤ 254) ∧
      feature.version.length ≤ 255) :
    (OptionBlock.decode block).tags = (features.map Feature.code).eraseDups ∧
      ∀ feature ∈ features, (OptionBlock.decode block).get? feature.code =
        some (Feature.versionsOf features feature.code) := by
  have toNat_low (feature : Feature) (mem : feature ∈ features) :
      ((Bytes.low feature.code).toNat : Int) = feature.code := by
    obtain ⟨byte, hbyte, -, hcode⟩ := OptionBlock.exists_byte (fit feature mem).1
    rw [← (Bytes.low_of_byte? hbyte).2.2, hcode]
  rw [OptionBlock.decode, OptionBlock.collect_eq_gather,
    items_features (body?_of_featureBlock h) fit]
  refine ⟨?_, fun feature mem => ?_⟩
  · rw [OptionBlock.tags_gather, List.map_map]
    exact congrArg List.eraseDups (List.map_congr_left toNat_low)
  · have listed : Bytes.low feature.code ∈ (features.map Feature.item).map Prod.fst := by
      rw [List.map_map]
      exact List.mem_map_of_mem mem
    have versions : OptionBlock.valueOf (features.map Feature.item) (Bytes.low feature.code) =
        Feature.versionsOf features feature.code := by
      rw [OptionBlock.valueOf, List.filter_map, List.flatMap_map, Feature.versionsOf]
      congr 1
      refine List.filter_congr fun other hother => ?_
      rw [Function.comp_apply, decide_eq_decide]
      refine ⟨fun same => ?_, congrArg Bytes.low⟩
      rw [← toNat_low other hother, ← toNat_low feature mem,
        show Bytes.low other.code = Bytes.low feature.code from same]
    rw [← versions, ← OptionBlock.get?_gather listed, toNat_low feature mem]

/-- The hardware has a code of its own. -/
theorem code_ne_busId {feature : Feature} (known : feature.Known) :
    feature.code ≠ Tag.busId.inner := by
  have hrange := known.code_range
  have hinner : Tag.busId.inner = 0xb1 := rfl
  omega

theorem busId_not_mem {features : List Feature} (h : featureBlock features = .ok block)
    (known : ∀ feature ∈ features, feature.Known) :
    Tag.busId.inner ∉ (OptionBlock.decode block).tags := by
  rw [(decode_features h (Feature.fit_of_known known)).1, List.mem_eraseDups, List.mem_map]
  rintro ⟨feature, mem, same⟩
  exact code_ne_busId (known feature mem) same

/-- Features with versions of one byte take three bytes each. -/
theorem length_features {features : List Feature} (h : featureBlock features = .ok block)
    (known : ∀ feature ∈ features, feature.Known) :
    block.length = 3 * features.length := by
  rw [OptionBlock.length_body (body?_of_featureBlock h)]
  clear h
  induction features with
  | nil => rfl
  | cons feature features ih =>
    rw [List.forall_mem_cons] at known
    obtain ⟨byte, version⟩ := known.1.single
    have hentry : OptionBlock.entrySize [byte] = 3 := by
      simp [OptionBlock.entrySize, OptionBlock.chunkLimit]
    rw [List.map_cons, OptionMap.encodedSize_cons, ih known.2, Feature.entry, version, hentry,
      List.length_cons]
    omega

/-! ## What is advertised -/

/-- What a packet says about the features of a client and its hardware. -/
structure Advertises (packet : Packet) (features : List Feature) (hardware : Bytes) : Prop where
  /-- The carrying option has each code once, then the hardware, and nothing else. -/
  inside : ∃ inside, packet.fetch Tag.bootEncap = some inside ∧
    (OptionBlock.decode inside).tags = (features.map Feature.code).eraseDups ++ [0xb1]
  /-- A feature has all the versions that are listed for it, joined in order. -/
  versions : ∀ feature ∈ features, packet.fetch (Tag.inside Tag.bootEncap feature.code) =
    some (Feature.versionsOf features feature.code)
  hardware : packet.fetch Tag.busId = some hardware

theorem advertises_of_contents (h : Encapsulates device template inside)
    (known : ∀ feature ∈ template.features, feature.Known)
    (hoptions : packet.options = contents device template uuid offer inside) :
    ∃ hardware, hardwareId device.hardware = .ok hardware ∧
      Advertises packet template.features hardware := by
  obtain ⟨features, hardware, hfeatures, hhardware, hinside⟩ := h.decode_eq_insert
  obtain ⟨htags, hversions⟩ := decode_features hfeatures (Feature.fit_of_known known)
  refine ⟨hardware, hhardware, ⟨inside, ?_, ?_⟩, fun feature mem => ?_, ?_⟩
  · rw [packet.fetch_of_plain (by decide), hoptions]
    cases offer <;> cases uuid <;> rfl
  · rw [hinside, OptionMap.tags_insert, if_neg (busId_not_mem hfeatures known), htags]
    rfl
  · have hrange := (known feature mem).code_range
    rw [fetch_inside_of_contents (by omega) hoptions, hinside,
      OptionMap.get?_insert_of_ne (code_ne_busId (known feature mem)), hversions feature mem]
  · have hbus : Tag.busId = Tag.inside Tag.bootEncap Tag.busId.inner := rfl
    rw [hbus, fetch_inside_of_contents (by decide) hoptions, hinside,
      OptionMap.get?_insert_self]

/-! ## Buffers that are large enough -/

/-- The hardware can be stored among features that were read back, and takes seven bytes more than
these, or less if some of them were repeated. -/
theorem exists_updateInner_listed (hhardware : hardwareId device.hardware = .ok hardware)
    (new : Tag.busId.inner ∉ (OptionBlock.decode features).tags) :
    ∃ inside, OptionRegion.updateInner? features Tag.busId.inner (some hardware) =
        some (some inside) ∧ inside.length ≤ features.length + 7 := by
  have hinsert : (OptionBlock.decode features).insert Tag.busId.inner hardware =
      OptionBlock.decode features ++ [(Tag.busId.inner, hardware)] :=
    OptionMap.insert_of_not_mem new
  obtain ⟨inside, hinside, -⟩ := OptionBlock.exists_decode_body
    ((OptionBlock.proper_decode features).update
      (show 1 ≤ Tag.busId.inner ∧ Tag.busId.inner ≤ 254 by decide) (some hardware))
  rw [OptionMap.update, hinsert] at hinside
  refine ⟨inside, ?_, ?_⟩
  · rw [OptionRegion.updateInner?, OptionMap.update, hinsert, if_neg (by simp), hinside]
    rfl
  · have hlength : hardware.length = 5 := by
      rw [hardwareId_eq_ok hhardware]
      simp
    have hsize : OptionBlock.entrySize hardware = 7 := by
      rw [OptionBlock.entrySize, hlength]
      rfl
    have hread := OptionBlock.encodedSize_decode_le features
    rw [OptionBlock.length_body hinside, OptionMap.encodedSize_append, OptionMap.encodedSize_cons,
      hsize, OptionMap.encodedSize_nil]
    omega

/-- A packet is built in a buffer that has room for the items of all features, whether some are
repeated or not, and that fits into memory. -/
theorem exists_build_of_room {features : Bytes}
    (h : RequestTemplate.Encodable { template with features := [] }) (h' : device.Encodable)
    (hfeatures : featureBlock template.features = .ok features)
    (new : Tag.busId.inner ∉ (OptionBlock.decode features).tags)
    (accepted : ∀ fetch, offer = some fetch → ∃ named, acceptOffer fetch = .ok named)
    {largest : Bytes} (covers : features.length + 7 ≤ largest.length)
    (fits : Header.length + (contents device template uuid offer largest).encodedSize + 1 ≤
      buffer.length) (small : buffer.length < Bytes.memoryLimit) :
    ∃ packet, build device template uuid offer buffer = .ok packet := by
  -- the first options do not depend on the features
  obtain ⟨block, hblock⟩ := exists_templateBlock h
  change templateBlock template = .ok block at hblock
  obtain ⟨hardware, hhardware⟩ := exists_hardwareId h'
  obtain ⟨client, hclient⟩ := exists_clientId h'
  obtain ⟨inside, hinside, hlength⟩ := exists_updateInner_listed hhardware new
  have htyped := tags_typed template (kindFor offer)
  have hcarrier := bootEncap_not_mem template offer
  have hsmall : ((buffer.length - Header.length : Nat) : Int) < Bytes.memoryLimit := by omega
  have hfeatureSize : OptionBlock.entrySize features ≤ OptionBlock.entrySize largest :=
    OptionBlock.entrySize_mono (by omega)
  have hinsideSize : OptionBlock.entrySize inside ≤ OptionBlock.entrySize largest :=
    OptionBlock.entrySize_mono (by omega)
  have hsize := encodedSize_contents device template uuid offer
  rw [hsize] at fits
  obtain ⟨first, hfirst, carries, space⟩ :=
    (yields_create h' (opening_of_templateBlock hblock) (kindFor offer) buffer).exists_packet
      (by omega)
  obtain ⟨second, hsecond, carries, space⟩ := (yields_withOffer carries space
    (htyped ▸ by decide) (htyped ▸ by decide) accepted).exists_packet
      (by rw [OptionMap.encodedSize_append]; omega)
  have hcarried (value : Bytes)
      (hvalue : OptionBlock.entrySize value ≤ OptionBlock.entrySize largest) :
      OptionMap.encodedSize (typed template (kindFor offer) ++ naming offer ++
        [(Tag.bootEncap, value)]) + 1 ≤ buffer.length - Header.length := by
    simp only [OptionMap.encodedSize_append, OptionMap.encodedSize_cons, OptionMap.encodedSize_nil]
    omega
  obtain ⟨third, hthird, carries, space⟩ :=
    (yields_append carries space (by decide) hcarrier).exists_packet (hcarried _ hfeatureSize)
  obtain ⟨fourth, hfourth, carries, space⟩ :=
    (yields_nest carries space hcarrier hinside (.inr hsmall)).exists_packet
      (hcarried _ hinsideSize)
  obtain ⟨packet, hpacket, -⟩ :=
    (yields_identified hclient carries space uuid).exists_packet (by rw [hsize]; omega)
  exact ⟨packet, bind_eq_ok.mpr ⟨block, hblock, bind_eq_ok.mpr ⟨first, hfirst,
    bind_eq_ok.mpr ⟨second, hsecond, bind_eq_ok.mpr ⟨features, hfeatures,
      bind_eq_ok.mpr ⟨third, hthird, bind_eq_ok.mpr ⟨hardware, hhardware,
        bind_eq_ok.mpr ⟨fourth, hfourth, bind_eq_ok.mpr ⟨client, hclient, hpacket⟩⟩⟩⟩⟩⟩⟩⟩⟩

/-- The features of a list that was read are advertised, in a discovery or in a request, by every
packet that is built with them.  The carrying option has each of their codes once, then the
hardware, and nothing else; and a feature has just the version that is listed for it if and only
if it is listed once.  A packet is built in every buffer that fits into memory and has room for
three bytes for each item of the list. -/
theorem parsed_features_are_advertised {text : String}
    (read : Feature.parse text = .ok template.features) :
    (∀ packet, build device template uuid offer buffer = .ok packet →
      (∃ hardware, hardwareId device.hardware = .ok hardware ∧
        Advertises packet template.features hardware) ∧
      ∀ feature ∈ template.features,
        packet.fetch (Tag.inside Tag.bootEncap feature.code) = some feature.version ↔
          (template.features.map Feature.code).count feature.code = 1) ∧
    (RequestTemplate.Encodable { template with features := [] } → device.Encodable →
      (∀ fetch, offer = some fetch → ∃ named, acceptOffer fetch = .ok named) →
      Header.length + (contents device template uuid offer
        (Bytes.zeros (3 * template.features.length + 7))).encodedSize + 1 ≤ buffer.length →
      buffer.length < Bytes.memoryLimit →
      ∃ packet, build device template uuid offer buffer = .ok packet) := by
  have known := Feature.known_of_parse read
  constructor
  · intro packet built
    obtain ⟨⟨inside, hinside, carries⟩, -⟩ := carries_build built
    obtain ⟨hardware, hhardware, advertises⟩ := advertises_of_contents hinside known carries.holds
    refine ⟨⟨hardware, hhardware, advertises⟩, fun feature mem => ?_⟩
    rw [advertises.versions feature mem, Option.some_inj, Feature.versionsOf_eq_iff known mem]
  · intro h h' accepted fits small
    obtain ⟨features, hfeatures⟩ := exists_featureBlock_of_fit (Feature.fit_of_known known)
    have hlength := length_features hfeatures known
    have covers : features.length + 7 ≤
        (Bytes.zeros (3 * template.features.length + 7)).length :=
      Nat.le_of_eq (by rw [Bytes.length_zeros, hlength])
    exact exists_build_of_room h h' hfeatures (busId_not_mem hfeatures known) accepted covers fits
      small

/-- A list with a feature that stands in it twice, and one that does not. -/
theorem repeated_feature_has_two_versions :
    ∃ (template : RequestTemplate) (packet : Packet),
      Feature.parse "TFTP,HTTP:2,tftp" = .ok template.features ∧
      build ⟨"net0", [2, 0, 0, 0, 0, 7], .ethernet, ⟨1, 32902, 5406⟩⟩ template none none
        (Bytes.zeros 552) = .ok packet ∧
      packet.fetch (Tag.inside Tag.bootEncap 0x13) = some [2] ∧
      packet.fetch (Tag.inside Tag.bootEncap 0x15) ≠ some [1] ∧
      packet.fetch (Tag.inside Tag.bootEncap 0x15) = some [1, 1] := by
  let device : Device := ⟨"net0", [2, 0, 0, 0, 0, 7], .ethernet, ⟨1, 32902, 5406⟩⟩
  let template : RequestTemplate := { features := [⟨0x15, [1]⟩, ⟨0x13, [2]⟩, ⟨0x15, [1]⟩] }
  have read : Feature.parse "TFTP,HTTP:2,tftp" = .ok template.features := by decide +kernel
  have encodable : RequestTemplate.Encodable { template with features := [] } :=
    { RequestTemplate.encodable_default with
      distinct := by decide
      codes := by decide
      versions := by decide }
  have named : device.Encodable := ⟨by decide, by decide, by decide, by decide⟩
  have size : Header.length + (contents device template none none
      (Bytes.zeros (3 * template.features.length + 7))).encodedSize + 1 ≤
        (Bytes.zeros 552).length := by decide +kernel
  obtain ⟨packet, built⟩ :=
    (@parsed_features_are_advertised device template none none (Bytes.zeros 552) _ read).2
      encodable named (by simp) size (by rw [Bytes.length_zeros]; decide)
  obtain ⟨⟨hardware, -, advertises⟩, once⟩ :=
    (parsed_features_are_advertised read).1 packet built
  have http : (⟨0x13, [2]⟩ : Feature) ∈ template.features := by decide
  have tftp : (⟨0x15, [1]⟩ : Feature) ∈ template.features := by decide
  refine ⟨template, packet, read, built, (once _ http).mpr (by decide), fun single => ?_,
    (advertises.versions _ tftp).trans (by decide)⟩
  exact absurd ((once _ tftp).mp single) (by decide)

end Request
end NetBoot
