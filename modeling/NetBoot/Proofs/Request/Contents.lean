/-
# What requests contain

A packet that a client builds is known byte by byte: behind its header stands one block with
the options of the template, the message type, the offer that is requested, the client's
features with its hardware, and its identifiers, in this order.  Nothing of what the buffer
held before is left, so a client that builds a packet again sends the same bytes.
-/
import NetBoot.Proofs.Request.Header
import NetBoot.Settings.Block

namespace NetBoot

/-- A feature and its version are written as an option and its value are. -/
theorem Feature.entryBytes?_of_encode? {feature : Feature} {bytes : Bytes}
    (h : feature.encode? = some bytes) :
    OptionBlock.entryBytes? feature.code feature.version = some bytes := by
  obtain ⟨code, hcode, h⟩ := Option.bind_eq_some_iff.mp h
  obtain ⟨size, hsize, h⟩ := Option.bind_eq_some_iff.mp h
  obtain ⟨-, hlimit, rfl⟩ := Bytes.low_of_byte? hsize
  have hshort : feature.version.length ≤ OptionBlock.chunkLimit :=
    Nat.le_of_lt_succ (Int.ofNat_lt.mp hlimit)
  rw [OptionBlock.entryBytes?, hcode, Option.map_some, OptionBlock.chunks, if_pos hshort,
    List.flatMap_singleton]
  exact h

/-- A feature with its version as an option with its value. -/
def Feature.entry (feature : Feature) : Tag × Bytes := (feature.code, feature.version)

theorem Feature.body?_of_encodeAll? {features : List Feature} {block : Bytes}
    (h : Feature.encodeAll? features = some block) :
    OptionBlock.body? (features.map Feature.entry) = some block := by
  induction features generalizing block with
  | nil => exact h
  | cons feature features ih =>
    obtain ⟨pieces, hpieces, rfl⟩ := Option.map_eq_some_iff.mp h
    rw [List.mapM_cons] at hpieces
    obtain ⟨piece, hpiece, hpieces⟩ := Option.bind_eq_some_iff.mp hpieces
    obtain ⟨rest, hrest, hcons⟩ := Option.bind_eq_some_iff.mp hpieces
    have hall : Feature.encodeAll? features = some rest.flatten := by
      rw [Feature.encodeAll?, hrest, Option.map_some]
    rw [List.map_cons, OptionBlock.body?_cons, ih hall]
    rw [Feature.entry, Feature.entryBytes?_of_encode? hpiece, ← Option.some.inj hcons]
    rfl

namespace Request

variable {device : Device} {template : RequestTemplate} {uuid : Option Uuid}
  {offer : Option (Tag → Option Bytes)} {kind : MessageType} {block buffer inside : Bytes}
  {packet after : Packet} {options : OptionMap}

/-! ## Steps of the build -/

/-- An offer that is taken names a server of four bytes and an address. -/
theorem acceptOffer_eq_ok {fetch : Tag → Option Bytes} {server address : Bytes}
    (h : acceptOffer fetch = .ok (server, address)) :
    fetch Tag.serverId = some server ∧ server.length = 4 ∧
      fetch Tag.yourAddress = some address ∧ address ≠ Address.unspecified.toBytes := by
  rw [acceptOffer] at h
  split at h
  · cases h
  next found hserver =>
    split at h
    · cases h
    next hlength =>
      split at h
      · cases h
      next known haddress =>
        split at h
        · cases h
        next hgiven =>
          obtain ⟨rfl, rfl⟩ := Prod.mk.inj (Except.ok.inj h)
          rw [Bool.or_eq_true, not_or, beq_iff_eq] at hgiven
          exact ⟨hserver, not_not.mp hlength, haddress, hgiven.2⟩

/-- The options that every packet of a client starts with. -/
def opening (template : RequestTemplate) : OptionMap :=
  [(Tag.maxMessageSize, Bytes.ofNat 2 template.maxMessageSize.toNat),
   (Tag.vendorClassId, template.vendorClass.toList.map fun char => UInt8.ofNat char.toNat),
   (Tag.clientArchitecture, Bytes.ofNat 2 template.clientArchitecture.toNat),
   (Tag.clientNdi, template.clientNdi.map Bytes.low),
   (Tag.parameterRequest, template.requestedOptions.map Bytes.low)]

/-- The options that name the offer that is requested. -/
def naming (offer : Option (Tag → Option Bytes)) : OptionMap :=
  match offer with
  | none => []
  | some fetch =>
    [(Tag.serverId, (fetch Tag.serverId).getD []),
     (Tag.requestedIp, (fetch Tag.yourAddress).getD [])]

/-- The options that identify the client. -/
def identifying (device : Device) (uuid : Option Uuid) : OptionMap :=
  (Tag.clientId, Bytes.low device.protocol.number :: device.address) ::
    uuid.toList.map fun uuid => (Tag.clientUuid, 0 :: uuid.bytes)

/-- All options of a packet, given what the carrying option has inside. -/
def contents (device : Device) (template : RequestTemplate) (uuid : Option Uuid)
    (offer : Option (Tag → Option Bytes)) (inside : Bytes) : OptionMap :=
  opening template ++ [(Tag.messageType, [UInt8.ofNat (kindFor offer).number])] ++ naming offer ++
    [(Tag.bootEncap, inside)] ++ identifying device uuid

/-! What a packet with these options answers. -/

theorem messageType_of_contents
    (h : packet.options = contents device template uuid offer inside) :
    packet.messageType = (kindFor offer).number := by
  rw [Packet.messageType, packet.fetch_of_plain (by decide), h]
  cases offer <;> rfl

theorem fetch_serverId_of_contents
    (h : packet.options = contents device template uuid offer inside) :
    packet.fetch Tag.serverId = offer.map fun fetch => (fetch Tag.serverId).getD [] := by
  rw [packet.fetch_of_plain (by decide), h]
  cases offer <;> cases uuid <;> rfl

theorem fetch_requestedIp_of_contents
    (h : packet.options = contents device template uuid offer inside) :
    packet.fetch Tag.requestedIp = offer.map fun fetch => (fetch Tag.yourAddress).getD [] := by
  rw [packet.fetch_of_plain (by decide), h]
  cases offer <;> cases uuid <;> rfl

/-- The options inside the carrying one that no field of the header stands for. -/
theorem fetch_inside_of_contents {code : Int} (range : 4 ≤ code ∧ code ≤ 255)
    (h : packet.options = contents device template uuid offer inside) :
    packet.fetch (Tag.inside Tag.bootEncap code) = (OptionBlock.decode inside).get? code := by
  have htag : Tag.inside Tag.bootEncap code = 175 * 256 + code :=
    Tag.inside_eq (by decide) (by omega) (by omega)
  have houter : (Tag.inside Tag.bootEncap code).outer = Tag.bootEncap := by
    rw [htag, Tag.outer, Tag.bootEncap]
    omega
  have hinner : (Tag.inside Tag.bootEncap code).inner = code := by
    rw [htag, Tag.inner]
    omega
  have hplace : Packet.headerPlace? (Tag.inside Tag.bootEncap code) = none := by
    have hyours : (175 * 256 + code : Int) ≠ 175 * 256 + 2 := by omega
    have hserver : (175 * 256 + code : Int) ≠ 175 * 256 + 3 := by omega
    rw [Packet.headerPlace?, htag]
    exact (if_neg hyours).trans (if_neg hserver)
  have hcarrier : packet.region.options.get? Tag.bootEncap = some inside := by
    rw [show packet.region.options = _ from h]
    cases offer <;> cases uuid <;> rfl
  rw [Packet.fetch, hplace]
  dsimp only
  rw [OptionRegion.fetch_eq_lookup, OptionMap.lookup_of_nested (by rw [houter]; decide), houter,
    hinner, OptionMap.carried, hcarrier, Option.getD_some]

/-- What the carrying option has inside: the client's features, and among them its
hardware. -/
def Encapsulates (device : Device) (template : RequestTemplate) (inside : Bytes) : Prop :=
  ∃ features hardware, featureBlock template.features = .ok features ∧
    hardwareId device.hardware = .ok hardware ∧
    OptionRegion.updateInner? features Tag.busId.inner (some hardware) = some (some inside)

theorem Encapsulates.unique {other : Bytes} (first : Encapsulates device template inside)
    (second : Encapsulates device template other) : inside = other := by
  obtain ⟨features, hardware, hfeatures, hhardware, hinside⟩ := first
  obtain ⟨features', hardware', hfeatures', hhardware', hother⟩ := second
  obtain rfl := Except.ok.inj (hfeatures.symm.trans hfeatures')
  obtain rfl := Except.ok.inj (hhardware.symm.trans hhardware')
  exact Option.some.inj (Option.some.inj (hinside.symm.trans hother))

theorem opening_of_templateBlock (h : templateBlock template = .ok block) :
    OptionBlock.encode? (opening template) = some block := by
  obtain ⟨options, hoptions, hblock⟩ := bind_eq_ok.mp h
  obtain ⟨size, hsize, hoptions⟩ := bind_eq_ok.mp hoptions
  obtain ⟨vendor, hvendor, hoptions⟩ := bind_eq_ok.mp hoptions
  obtain ⟨architecture, harchitecture, hoptions⟩ := bind_eq_ok.mp hoptions
  obtain ⟨ndi, hndi, hoptions⟩ := bind_eq_ok.mp hoptions
  obtain ⟨requested, hrequested, hoptions⟩ := bind_eq_ok.mp hoptions
  have hopening : options = opening template := by
    rw [opening, ← ofNat_of_word hsize, ← codes_of_ascii hvendor, ← ofNat_of_word harchitecture,
      ← low_of_byteList hndi, ← low_of_byteList hrequested]
    exact (Except.ok.inj hoptions).symm
  subst hopening
  split at hblock
  next found hfound => exact Except.ok.inj hblock ▸ hfound
  · cases hblock

theorem proper_opening (template : RequestTemplate) : (opening template).Proper := by
  have htags : (opening template).tags = [57, 60, 93, 94, 55] := rfl
  exact ⟨htags ▸ by decide, htags ▸ by decide⟩

theorem carries_create (hblock : OptionBlock.encode? (opening template) = some block)
    (built : create device kind block buffer = .ok packet) :
    packet.Carries (header device kind)
      (opening template ++ [(Tag.messageType, [UInt8.ofNat kind.number])]) := by
  obtain ⟨first, hframed, hstore⟩ := bind_eq_ok.mp built
  have hfirst := carries_framed (proper_opening template) hblock hframed
  have htags : (opening template).tags = [57, 60, 93, 94, 55] := rfl
  exact hfirst.append (by decide) (htags ▸ by decide) (lift_eq_ok.mp hstore)

theorem carries_withOffer {head : Bytes} {known : OptionMap} (h : packet.Carries head known)
    (server : Tag.serverId ∉ known.tags) (requested : Tag.requestedIp ∉ known.tags)
    (named : withOffer packet offer = .ok after) :
    after.Carries head (known ++ naming offer) ∧
    ∀ fetch, offer = some fetch → ∃ server address, acceptOffer fetch = .ok (server, address) := by
  cases offer with
  | none =>
    obtain rfl := Except.ok.inj named
    refine ⟨?_, fun fetch h => nomatch h⟩
    rwa [naming, List.append_nil]
  | some fetch =>
    obtain ⟨⟨identifier, address⟩, haccept, named⟩ := bind_eq_ok.mp named
    obtain ⟨middle, hidentifier, haddress⟩ := bind_eq_ok.mp named
    obtain ⟨hfetch, -, hyours, -⟩ := acceptOffer_eq_ok haccept
    have hmiddle := h.append (by decide) server (lift_eq_ok.mp hidentifier)
    have hnew : Tag.requestedIp ∉ OptionMap.tags (known ++ [(Tag.serverId, identifier)]) := by
      rw [OptionMap.tags_append_singleton, List.mem_append, not_or]
      exact ⟨requested, by decide⟩
    have hlast := hmiddle.append (by decide) hnew (lift_eq_ok.mp haddress)
    refine ⟨?_, ?_⟩
    · rw [naming, hfetch, hyours]
      rwa [List.append_assoc] at hlast
    · rintro _ ⟨⟩
      exact ⟨identifier, address, haccept⟩

theorem carries_withUuid {head : Bytes} {known : OptionMap} (h : packet.Carries head known)
    (new : Tag.clientUuid ∉ known.tags) (stored : withUuid packet uuid = .ok after) :
    after.Carries head
      (known ++ uuid.toList.map fun uuid => (Tag.clientUuid, 0 :: uuid.bytes)) := by
  cases uuid with
  | none =>
    obtain rfl := Except.ok.inj stored
    rwa [Option.toList_none, List.map_nil, List.append_nil]
  | some uuid => exact h.append (by decide) new (lift_eq_ok.mp stored)

theorem clientId_eq_ok {bytes : Bytes} (h : clientId device = .ok bytes) :
    bytes = Bytes.low device.protocol.number :: device.address := by
  rw [clientId] at h
  split at h
  next number hnumber =>
    rw [← Except.ok.inj h, (Bytes.low_of_byte? hnumber).2.2]
  · cases h

/-- The tags of a packet before and with the carrying option. -/
theorem tags_named (template : RequestTemplate) (offer : Option (Tag → Option Bytes))
    (number : UInt8) :
    OptionMap.tags (opening template ++ [(Tag.messageType, [number])] ++ naming offer) =
      [57, 60, 93, 94, 55, 53] ++ if offer.isSome then [54, 50] else [] := by
  cases offer <;> rfl

/-- A packet that was built carries its header and its contents, and the offer that it
requests named a server and an address. -/
theorem carries_build (built : build device template uuid offer buffer = .ok packet) :
    (∃ inside, Encapsulates device template inside ∧
      packet.Carries (header device (kindFor offer))
        (contents device template uuid offer inside)) ∧
    ∀ fetch, offer = some fetch → ∃ server address, acceptOffer fetch = .ok (server, address) := by
  obtain ⟨block, hblock, built⟩ := bind_eq_ok.mp built
  obtain ⟨first, hfirst, built⟩ := bind_eq_ok.mp built
  obtain ⟨second, hsecond, built⟩ := bind_eq_ok.mp built
  obtain ⟨features, hfeatures, built⟩ := bind_eq_ok.mp built
  obtain ⟨third, hthird, built⟩ := bind_eq_ok.mp built
  obtain ⟨hardware, hhardware, built⟩ := bind_eq_ok.mp built
  obtain ⟨fourth, hfourth, built⟩ := bind_eq_ok.mp built
  obtain ⟨client, hclient, built⟩ := bind_eq_ok.mp built
  obtain ⟨fifth, hfifth, built⟩ := bind_eq_ok.mp built
  have hcreate := carries_create (opening_of_templateBlock hblock) hfirst
  have htyped : OptionMap.tags (opening template ++
      [(Tag.messageType, [UInt8.ofNat (kindFor offer).number])]) = [57, 60, 93, 94, 55, 53] := rfl
  obtain ⟨hnamed, haccept⟩ :=
    carries_withOffer hcreate (htyped ▸ by decide) (htyped ▸ by decide) hsecond
  refine ⟨?_, haccept⟩
  have htags := tags_named template offer (UInt8.ofNat (kindFor offer).number)
  have hcarrier := hnamed.append (by decide) (by rw [htags]; cases offer.isSome <;> decide)
    (lift_eq_ok.mp hthird)
  obtain ⟨inside, hinside, hnested⟩ := hcarrier.nest (.inside (by decide) (by decide)) rfl rfl
    (lift_eq_ok.mp hfourth)
  refine ⟨inside, ⟨features, hardware, hfeatures, hhardware, hinside⟩, ?_⟩
  have hclients := hnested.append (by decide)
    (by rw [OptionMap.tags_append_singleton, htags]; cases offer.isSome <;> decide)
    (lift_eq_ok.mp hfifth)
  have hlast := carries_withUuid hclients
    (by
      rw [OptionMap.tags_append_singleton, OptionMap.tags_append_singleton, htags]
      cases offer.isSome <;> decide) built
  rw [clientId_eq_ok hclient, List.append_assoc, List.singleton_append] at hlast
  exact hlast

/-- What was in the buffer does not matter: a packet that is built again is sent as the same
bytes. -/
theorem encode_build_unique {other : Bytes} {again : Packet}
    (first : build device template uuid offer buffer = .ok packet)
    (second : build device template uuid offer other = .ok again) :
    packet.encode = again.encode := by
  obtain ⟨⟨inside, hinside, hfirst⟩, -⟩ := carries_build first
  obtain ⟨⟨inside', hinside', hsecond⟩, -⟩ := carries_build second
  obtain rfl := hinside.unique hinside'
  exact (hfirst.encode hfirst.wire).trans (hsecond.encode hfirst.wire).symm

/-! ## Reading what was sent -/

/-- Whoever receives the bytes that are sent finds the header and the contents. -/
theorem parse_build (built : build device template uuid offer buffer = .ok packet) :
    ∃ inside received, Encapsulates device template inside ∧
      Packet.parse packet.encode = .ok received ∧
      header device (kindFor offer) <+: received.buffer ∧
      received.options = contents device template uuid offer inside := by
  obtain ⟨⟨inside, hinside, hcarries⟩, -⟩ := carries_build built
  obtain ⟨received, hreceived, hbuffer, hoptions⟩ :=
    Packet.exists_parse hcarries.full (readWord?_magic_header _ _) hcarries.proper hcarries.wire
      Header.leastPacket
  refine ⟨inside, received, hinside, ?_, ?_, hoptions⟩
  · rw [hcarries.encode hcarries.wire, hreceived]
  · rw [hbuffer, Bytes.padRight, List.append_assoc]
    exact List.prefix_append _ _

theorem hardwareId_eq_ok {hardware : Hardware} {bytes : Bytes}
    (h : hardwareId hardware = .ok bytes) :
    bytes = Bytes.ofNat 1 hardware.bus.toNat ++ Bytes.ofNat 2 hardware.vendor.toNat ++
      Bytes.ofNat 2 hardware.product.toNat := by
  rw [hardwareId] at h
  split at h
  next bus vendor product hbus hvendor hproduct =>
    rw [← Except.ok.inj h, Bytes.ofNat_of_word? hbus, Bytes.ofNat_of_word? hvendor,
      Bytes.ofNat_of_word? hproduct]
  · cases h

theorem body?_of_featureBlock {features : List Feature}
    (h : featureBlock features = .ok block) :
    OptionBlock.body? (features.map Feature.entry) = some block := by
  rw [featureBlock] at h
  split at h
  next found hfound => exact Except.ok.inj h ▸ Feature.body?_of_encodeAll? hfound
  · cases h

theorem tags_features (features : List Feature) :
    OptionMap.tags (features.map Feature.entry) = features.map Feature.code := List.map_map ..

/-- Features with distinct codes, none of them that of the hardware, are read back from what
they are written as. -/
theorem decode_featureBlock {features : List Feature} (h : featureBlock features = .ok block)
    (distinct : (features.map Feature.code).Nodup)
    (codes : ∀ feature ∈ features,
      1 ≤ feature.code ∧ feature.code ≤ 254 ∧ feature.code ≠ Tag.busId.inner) :
    OptionBlock.decode block = features.map Feature.entry ∧
      Tag.busId.inner ∉ OptionMap.tags (features.map Feature.entry) := by
  rw [tags_features]
  have proper : OptionMap.Proper (features.map Feature.entry) := by
    refine ⟨tags_features features ▸ distinct, fun tag mem => ?_⟩
    rw [tags_features, List.mem_map] at mem
    obtain ⟨feature, mem, rfl⟩ := mem
    exact ⟨(codes feature mem).1, (codes feature mem).2.1⟩
  obtain ⟨body, hbody, -, hdecode, -⟩ := OptionBlock.exists_decode_body proper
  rw [body?_of_featureBlock h, Option.some_inj] at hbody
  refine ⟨hbody ▸ hdecode, ?_⟩
  rw [List.mem_map]
  rintro ⟨feature, mem, hcode⟩
  exact (codes feature mem).2.2 hcode

/-- The hardware is put among the options that the features are read back as. -/
theorem Encapsulates.decode_eq_insert (h : Encapsulates device template inside) :
    ∃ features hardware, featureBlock template.features = .ok features ∧
      hardwareId device.hardware = .ok hardware ∧
      OptionBlock.decode inside =
        (OptionBlock.decode features).insert Tag.busId.inner hardware := by
  obtain ⟨features, hardware, hfeatures, hhardware, hinside⟩ := h
  obtain ⟨after, hafter, hupdated⟩ :=
    OptionMap.exists_updateInner (show 1 ≤ Tag.busId.inner ∧ Tag.busId.inner ≤ 254 by decide)
      features (some hardware)
  obtain rfl := Option.some.inj (hinside.symm.trans hafter)
  exact ⟨features, hardware, hfeatures, hhardware, hupdated⟩

/-- The carrying option holds the client's features in order, and then its hardware. -/
theorem Encapsulates.decode (h : Encapsulates device template inside)
    (distinct : (template.features.map Feature.code).Nodup)
    (codes : ∀ feature ∈ template.features,
      1 ≤ feature.code ∧ feature.code ≤ 254 ∧ feature.code ≠ Tag.busId.inner) :
    OptionBlock.decode inside = template.features.map Feature.entry ++
      [(Tag.busId.inner, Bytes.ofNat 1 device.hardware.bus.toNat ++
        Bytes.ofNat 2 device.hardware.vendor.toNat ++
        Bytes.ofNat 2 device.hardware.product.toNat)] := by
  obtain ⟨features, hardware, hfeatures, hhardware, hinside⟩ := h.decode_eq_insert
  obtain ⟨hdecode, new⟩ := decode_featureBlock hfeatures distinct codes
  rw [hinside, hdecode, ← hardwareId_eq_ok hhardware]
  exact OptionMap.insert_of_not_mem new

/-- A discovery that is built, or a request that is built for an offer, is sent as a packet
that holds just these options, in this order: those of the template, the message type, for a
request the server that the offer names and the address that it offers, the option that
carries the client's features and behind them its hardware, the client's identifier, and that
of the system if it has one. -/
theorem build_sends_contents (offered : Option Packet)
    (reads : offer = offered.map Packet.fetch)
    (distinct : (template.features.map Feature.code).Nodup)
    (codes : ∀ feature ∈ template.features,
      1 ≤ feature.code ∧ feature.code ≤ 254 ∧ feature.code ≠ 0xb1)
    (built : build device template uuid offer buffer = .ok packet) :
    ∃ received server inside, Packet.parse packet.encode = .ok received ∧
      received.options = opening template ++
        (match offered with
          | none => [(Tag.messageType, [UInt8.ofNat MessageType.discover.number])]
          | some offered =>
            [(Tag.messageType, [UInt8.ofNat MessageType.request.number]), (Tag.serverId, server),
              (Tag.requestedIp, Header.addressBytes offered.buffer .your)]) ++
        (Tag.bootEncap, inside) :: identifying device uuid ∧
      (∀ packet, offered = some packet → packet.fetch Tag.serverId = some server ∧
        server.length = 4 ∧
        Header.addressBytes packet.buffer .your ≠ Address.unspecified.toBytes) ∧
      OptionBlock.decode inside =
        template.features.map (fun feature => (feature.code, feature.version)) ++
          [(0xb1, Bytes.ofNat 1 device.hardware.bus.toNat ++
            Bytes.ofNat 2 device.hardware.vendor.toNat ++
            Bytes.ofNat 2 device.hardware.product.toNat)] := by
  subst reads
  obtain ⟨inside, received, hinside, hreceived, -, hoptions⟩ := parse_build built
  have hdecode := hinside.decode distinct codes
  cases offered with
  | none =>
    refine ⟨received, [], inside, hreceived, ?_, ?_, hdecode⟩
    · rw [hoptions, contents, Option.map_none, naming, List.append_nil, List.append_assoc]
      rfl
    · rintro _ ⟨⟩
  | some offered =>
    obtain ⟨server, address, haccept⟩ := (carries_build built).2 offered.fetch rfl
    obtain ⟨hserver, hlength, haddress, hgiven⟩ := acceptOffer_eq_ok haccept
    obtain rfl : Header.addressBytes offered.buffer .your = address := Option.some.inj haddress
    refine ⟨received, server, inside, hreceived, ?_, ?_, hdecode⟩
    · rw [hoptions, contents, Option.map_some, naming, hserver, haddress, List.append_assoc,
        List.append_assoc, List.append_assoc]
      rfl
    · rintro _ ⟨⟩
      exact ⟨hserver, hlength, hgiven⟩

/-- A request for an offer in a settings block, with an address that does not fit into the
header, built in a buffer that is full of other bytes. -/
theorem request_for_block_contents :
    ∃ (block : Block) (packet received : Packet) (inside : Bytes),
      block = .ofReply (Bytes.zeros 16 ++ [10, 0, 0, 5] ++ Bytes.zeros 216 ++
        [99, 130, 83, 99, 53, 1, 2, 54, 4, 10, 0, 0, 1, 255]) Block.replyName ∧
      build ⟨"ib0", Bytes.zeros 19 ++ [7], .ipoib, ⟨1, 32902, 5406⟩⟩
        { vendorClass := "PXEClient", features := [⟨33, []⟩, ⟨16, [2, 0]⟩] }
        (some ⟨List.replicate 16 9⟩) (some block.fetch) (List.replicate 400 255) = .ok packet ∧
      Packet.parse packet.encode = .ok received ∧
      received.options.drop 5 = [(53, [3]), (54, [10, 0, 0, 1]), (50, [10, 0, 0, 5]),
        (175, inside), (61, 32 :: Bytes.zeros 19 ++ [7]), (97, 0 :: List.replicate 16 9)] ∧
      OptionBlock.decode inside =
        [(33, []), (16, [2, 0]), (177, [1, 128, 134, 21, 30])] := by
  let offered := Packet.ofBytes (Bytes.zeros 16 ++ [10, 0, 0, 5] ++ Bytes.zeros 216 ++
    [99, 130, 83, 99, 53, 1, 2, 54, 4, 10, 0, 0, 1, 255])
  let device : Device := ⟨"ib0", Bytes.zeros 19 ++ [7], .ipoib, ⟨1, 32902, 5406⟩⟩
  let template : RequestTemplate :=
    { vendorClass := "PXEClient", features := [⟨33, []⟩, ⟨16, [2, 0]⟩] }
  have succeeds : (build device template (some ⟨List.replicate 16 9⟩) (some offered.fetch)
      (List.replicate 400 255)).isOk = true := by decide +kernel
  have named : offered.fetch Tag.serverId = some [10, 0, 0, 1] := by decide +kernel
  have yours : Header.addressBytes offered.buffer .your = [10, 0, 0, 5] := by decide +kernel
  cases built : build device template (some ⟨List.replicate 16 9⟩) (some offered.fetch)
      (List.replicate 400 255) with
  | error cause =>
    rw [built] at succeeds
    cases succeeds
  | ok packet =>
    obtain ⟨received, server, inside, hreceived, hoptions, hoffer, hinside⟩ :=
      build_sends_contents (some offered) rfl (by decide) (by decide) built
    obtain rfl := Option.some.inj ((hoffer offered rfl).1.symm.trans named)
    refine ⟨_, packet, received, inside, rfl, built, hreceived, ?_, hinside.trans ?_⟩
    · rw [hoptions]
      simp only [yours]
      rfl
    · decide +kernel

end Request
end NetBoot
