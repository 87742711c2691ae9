/-
# How building a request ends

A request is built by storing one option after another, and each store makes the block longer.
So no block on the way is larger than the last one: the build fails for lack of space if and
only if the header and the block of all options are larger than the buffer.

An offer is looked at once the first options and the message type are stored.  So a buffer that
is too small for these is refused first, whatever the offer.  If the template and the device
can be written, a build fails for no other reason than the space and the offer, and these are
the errors that a client reckons with.
-/
import NetBoot.Proofs.Options.Footprint
import NetBoot.Proofs.Packet.Full
import NetBoot.Proofs.Request.Parts

namespace NetBoot.Request

variable {α : Type} {device : Device} {template : RequestTemplate} {uuid : Option Uuid}
  {offer : Option (Tag → Option Bytes)} {kind : MessageType} {head block buffer : Bytes}
  {packet after : Packet} {options more : OptionMap} {tag : Tag} {value : Bytes} {room : Nat}
  {outcome : Except Error Packet} {next : Packet → Except Error Packet} {cause : Error}

/-- The packet does not fit into its buffer. -/
def Error.isSpace : Error → Bool
  | noRoom .. => true
  | .packet (.option (.noSpace ..)) => true
  | _ => false

/-- The offer is none that can be requested. -/
def Error.isOffer : Error → Bool
  | noServer => true
  | noAddress => true
  | _ => false

theorem Error.isExpected_of_isSpace (h : cause.isSpace = true) : cause.isExpected = true := by
  unfold isSpace at h
  split at h
  · rfl
  · rfl
  · cases h

theorem Error.isExpected_of_isOffer (h : cause.isOffer = true) : cause.isExpected = true := by
  unfold isOffer at h
  split at h
  · rfl
  · rfl
  · cases h

theorem Error.isSpace_of_isOffer (h : cause.isOffer = true) : cause.isSpace = false := by
  unfold isOffer at h
  split at h
  · rfl
  · rfl
  · cases h

/-! ## Packets that grow -/

/-- The build has come to a packet with these options.  If their block is larger than the room
behind the header, it has failed for lack of space. -/
def Yields (outcome : Except Error Packet) (head : Bytes) (room : Nat) (options : OptionMap) :
    Prop :=
  options.encodedSize + 1 ≤ room ∧
      (∃ packet, outcome = .ok packet ∧ packet.Carries head options ∧
        packet.region.capacity = room) ∨
    room < options.encodedSize + 1 ∧ ∃ cause, outcome = .error cause ∧ cause.isSpace = true

theorem used_eq (h : packet.Carries head options) :
    packet.region.used = options.encodedSize + 1 := by
  rw [← h.writable.inside.length_wire, OptionBlock.length_encode h.wire, Int.natCast_succ]

theorem yields_ok (h : packet.Carries head options) (space : packet.region.capacity = room) :
    Yields (.ok packet) head room options := by
  refine .inl ⟨?_, packet, rfl, h, space⟩
  have hused := h.writable.inside.used
  rw [used_eq h, space] at hused
  omega

/-- There is a packet if the options fit. -/
theorem Yields.exists_packet (h : Yields outcome head room options)
    (fits : options.encodedSize + 1 ≤ room) :
    ∃ packet, outcome = .ok packet ∧ packet.Carries head options ∧
      packet.region.capacity = room := by
  rcases h with ⟨-, built⟩ | ⟨large, -⟩
  · exact built
  · exact absurd fits (Nat.not_le.mpr large)

/-- A part of the build that needs no space. -/
theorem Yields.pass {first : Except Error α} {next : α → Except Error Packet} {value : α}
    (passes : first = .ok value) (h : Yields (next value) head room options) :
    Yields (first >>= next) head room options := by
  subst passes
  exact h

/-- The next part of a build.  If there was no space for the options so far, there is none for
those of the whole build. -/
theorem Yields.bind (h : Yields outcome head room options)
    (grows : options.encodedSize ≤ more.encodedSize)
    (hnext : ∀ packet : Packet, packet.Carries head options → packet.region.capacity = room →
      Yields (next packet) head room more) :
    Yields (outcome >>= next) head room more := by
  rcases h with ⟨-, packet, rfl, carries, space⟩ | ⟨large, cause, rfl, lack⟩
  · exact hnext packet carries space
  · exact .inr ⟨by omega, cause, rfl, lack⟩

/-- A store that does not make the block shorter, or in a buffer that fits into memory. -/
theorem yields_store (h : packet.Carries head options) (space : packet.region.capacity = room)
    (ordinary : tag.Ordinary) (place : Packet.headerPlace? tag = none)
    (hupdated : OptionRegion.updated? options tag (some value) = some more)
    (clears : options.encodedSize ≤ more.encodedSize ∨ (room : Int) < Bytes.memoryLimit) :
    Yields (lift (packet.store tag (some value))) head room more := by
  obtain ⟨changed, hchanged, hproper, -⟩ := OptionMap.lookup_updated ordinary options (some value)
  obtain rfl := Option.some.inj (hupdated.symm.trans hchanged)
  obtain ⟨body, -, hblock, -⟩ := OptionBlock.exists_decode_body (hproper h.proper)
  have hlength := OptionBlock.length_encode hblock
  have hregion : OptionRegion.updated? packet.region.options tag (some value) = some more :=
    h.holds ▸ hupdated
  have hused := h.writable.inside.used
  rw [used_eq h, space] at hused
  rcases h.writable.store_of_clears ordinary hregion hblock (by rw [used_eq h]; omega) with
    ⟨fits, region, hstore⟩ | ⟨large, hstore⟩
  · have stored : packet.store tag (some value) = .ok { packet with region } := by
      rw [Packet.store, place]
      dsimp only
      rw [hstore]
    obtain ⟨known, hknown, carries⟩ := h.store ordinary place stored
    obtain rfl := Option.some.inj (hupdated.symm.trans hknown)
    have keeps := (h.writable.inside.keeps_store tag (some value)).1
    rw [hstore] at keeps
    rw [stored]
    exact yields_ok carries (keeps.capacity.trans space)
  · have refused : packet.store tag (some value) =
        .error (.option (.noSpace tag (body ++ [OptionBlock.endByte]).length room)) := by
      rw [Packet.store, place]
      dsimp only
      rw [hstore, space]
    rw [refused]
    exact .inr ⟨by omega, _, rfl, rfl⟩

/-- A new option goes to the end. -/
theorem yields_append (h : packet.Carries head options) (space : packet.region.capacity = room)
    (plain : 1 ≤ tag ∧ tag ≤ 254) (new : tag ∉ options.tags) :
    Yields (lift (packet.store tag (some value))) head room (options ++ [(tag, value)]) := by
  apply yields_store h space (.plain plain.1 plain.2) (Packet.headerPlace?_of_plain plain)
  · rw [OptionRegion.updated?, if_neg (not_not.mpr (Packet.outer_of_plain plain)),
      OptionMap.update, OptionMap.insert_of_not_mem new]
  · left
    rw [OptionMap.encodedSize_append]
    omega

/-- The hardware is stored among the features, inside the last option. -/
theorem yields_nest {features hardware inside : Bytes}
    (h : packet.Carries head (options ++ [(Tag.bootEncap, features)]))
    (space : packet.region.capacity = room) (new : Tag.bootEncap ∉ options.tags)
    (hinside : OptionRegion.updateInner? features Tag.busId.inner (some hardware) =
      some (some inside))
    (clears : features.length ≤ inside.length ∨ (room : Int) < Bytes.memoryLimit) :
    Yields (lift (packet.store Tag.busId (some hardware))) head room
      (options ++ [(Tag.bootEncap, inside)]) := by
  have ordinary : Tag.busId.Ordinary := .inside (by decide) (by decide)
  apply yields_store h space ordinary rfl
  · have hfound : (options ++ [(Tag.bootEncap, features)]).get? Tag.busId.outer =
        some features := by
      rw [show Tag.busId.outer = Tag.bootEncap from rfl, ← OptionMap.insert_of_not_mem new,
        OptionMap.get?_insert_self]
    rw [OptionRegion.updated?, if_pos (by decide), hfound, Option.getD_some, hinside]
    exact congrArg some (OptionMap.insert_append_self new)
  · refine clears.imp_left fun grows => ?_
    have hgrows : OptionBlock.entrySize features ≤ OptionBlock.entrySize inside :=
      OptionBlock.entrySize_mono grows
    simp only [OptionMap.encodedSize_append, OptionMap.encodedSize_cons]
    omega

/-! ## The header -/

theorem capacity_withWord {field : Header.Word} {number : Int}
    (written : withWord packet field number = .ok after) :
    after.region.capacity = packet.region.capacity := by
  rw [withWord] at written
  split at written
  next changed _ hset =>
    obtain rfl := Except.ok.inj written
    obtain rfl := (Prod.mk.inj hset).1
    rfl
  · cases written

theorem capacity_withAddress {address : Bytes} (written : withAddress packet address = .ok after) :
    after.region.capacity = packet.region.capacity := by
  rw [withAddress] at written
  split at written
  next short =>
    split at written
    next changed _ hset =>
      obtain rfl := Except.ok.inj written
      rw [Packet.setHardwareAddress, if_neg (Nat.not_lt.mpr short)] at hset
      obtain rfl := (Prod.mk.inj hset).1
      rfl
    · cases written
  · obtain ⟨unnamed, hunnamed, hflags⟩ := bind_eq_ok.mp written
    exact (capacity_withWord hflags).trans (capacity_withWord hunnamed)

/-- The options have the room behind the header. -/
theorem capacity_framed (built : framed device kind block buffer = .ok packet) :
    packet.region.capacity = (buffer.length - Header.length : Nat) := by
  rw [framed] at built
  split at built
  · cases built
  next room =>
    obtain ⟨first, hop, built⟩ := bind_eq_ok.mp built
    obtain ⟨second, hhtype, built⟩ := bind_eq_ok.mp built
    obtain ⟨third, hxid, built⟩ := bind_eq_ok.mp built
    obtain ⟨fourth, hmagic, built⟩ := bind_eq_ok.mp built
    rw [capacity_withAddress built, capacity_withWord hmagic, capacity_withWord hxid,
      capacity_withWord hhtype, capacity_withWord hop]
    show max 0 ((((Bytes.zeros buffer.length).splice _ _ block).length : Int) - Header.length) = _
    rw [Bytes.length_splice (Int.natCast_nonneg _) (by rw [Bytes.length_zeros]; omega)
      (Int.natCast_add _ _), Bytes.length_zeros]
    omega

theorem yields_framed (h : device.Encodable)
    (hblock : OptionBlock.encode? (opening template) = some block) (kind : MessageType)
    (buffer : Bytes) :
    Yields (framed device kind block buffer) (header device kind)
      (buffer.length - Header.length) (opening template) := by
  by_cases room : Header.length + block.length ≤ buffer.length
  · obtain ⟨packet, hpacket⟩ := exists_framed h kind room
    rw [hpacket]
    exact yields_ok (carries_framed (proper_opening template) hblock hpacket)
      (capacity_framed hpacket)
  · have hlength := OptionBlock.length_encode hblock
    rw [framed, if_pos (Nat.not_le.mp room)]
    exact .inr ⟨by omega, _, rfl, rfl⟩

/-! ## The whole build -/

/-- The options of a packet up to its message type. -/
def typed (template : RequestTemplate) (kind : MessageType) : OptionMap :=
  opening template ++ [(Tag.messageType, [UInt8.ofNat kind.number])]

theorem tags_typed (template : RequestTemplate) (kind : MessageType) :
    (typed template kind).tags = [57, 60, 93, 94, 55, 53] := rfl

theorem yields_create (h : device.Encodable)
    (hblock : OptionBlock.encode? (opening template) = some block) (kind : MessageType)
    (buffer : Bytes) :
    Yields (create device kind block buffer) (header device kind)
      (buffer.length - Header.length) (typed template kind) := by
  have htags : (opening template).tags = [57, 60, 93, 94, 55] := rfl
  apply (yields_framed h hblock kind buffer).bind
  · rw [typed, OptionMap.encodedSize_append]
    omega
  · intro packet carries space
    exact yields_append carries space (by decide) (htags ▸ by decide)

theorem acceptOffer_cases (fetch : Tag → Option Bytes) :
    (∃ named, acceptOffer fetch = .ok named) ∨
      ∃ cause, acceptOffer fetch = .error cause ∧ cause.isOffer = true := by
  rw [acceptOffer]
  split
  · exact .inr ⟨_, rfl, rfl⟩
  split
  · exact .inr ⟨_, rfl, rfl⟩
  split
  · exact .inr ⟨_, rfl, rfl⟩
  split
  · exact .inr ⟨_, rfl, rfl⟩
  · exact .inl ⟨_, rfl⟩

theorem yields_withOffer (h : packet.Carries head options) (space : packet.region.capacity = room)
    (server : Tag.serverId ∉ options.tags) (requested : Tag.requestedIp ∉ options.tags)
    (accepted : ∀ fetch, offer = some fetch → ∃ named, acceptOffer fetch = .ok named) :
    Yields (withOffer packet offer) head room (options ++ naming offer) := by
  cases offer with
  | none =>
    rw [naming, List.append_nil]
    exact yields_ok h space
  | some fetch =>
    obtain ⟨⟨identifier, address⟩, haccept⟩ := accepted fetch rfl
    obtain ⟨hserver, -, haddress, -⟩ := acceptOffer_eq_ok haccept
    have hnaming : naming (some fetch) =
        [(Tag.serverId, identifier)] ++ [(Tag.requestedIp, address)] := by
      rw [naming, hserver, haddress]
      rfl
    rw [hnaming, ← List.append_assoc]
    apply Yields.pass haccept
    apply (yields_append h space (by decide) server).bind
    · rw [OptionMap.encodedSize_append _ [(Tag.requestedIp, address)]]
      omega
    · intro middle carries space
      apply yields_append carries space (by decide)
      rw [OptionMap.tags_append_singleton, List.mem_append, not_or]
      exact ⟨requested, by decide⟩

theorem yields_withUuid (h : packet.Carries head options) (space : packet.region.capacity = room)
    (new : Tag.clientUuid ∉ options.tags) (uuid : Option Uuid) :
    Yields (withUuid packet uuid) head room
      (options ++ uuid.toList.map fun uuid => (Tag.clientUuid, 0 :: uuid.bytes)) := by
  cases uuid with
  | none =>
    rw [Option.toList_none, List.map_nil, List.append_nil]
    exact yields_ok h space
  | some uuid => exact yields_append h space (by decide) new

/-- What follows once the message type is stored and the offer was looked at. -/
theorem exists_build_eq (hblock : templateBlock template = .ok block) (device : Device)
    (uuid : Option Uuid) (offer : Option (Tag → Option Bytes)) (buffer : Bytes) :
    ∃ rest : Packet → Except Error Packet, build device template uuid offer buffer =
      create device (kindFor offer) block buffer >>= fun packet =>
        withOffer packet offer >>= rest :=
  ⟨_, by rw [build, hblock]; rfl⟩

theorem tags_contents (device : Device) (template : RequestTemplate) (uuid : Option Uuid)
    (offer : Option (Tag → Option Bytes)) (inside : Bytes) :
    (contents device template uuid offer inside).tags =
      [57, 60, 93, 94, 55, 53] ++ (if offer.isSome then [54, 50] else []) ++ [175, 61] ++
        if uuid.isSome then [97] else [] := by
  cases offer <;> cases uuid <;> rfl

theorem proper_contents (device : Device) (template : RequestTemplate) (uuid : Option Uuid)
    (offer : Option (Tag → Option Bytes)) (inside : Bytes) :
    (contents device template uuid offer inside).Proper := by
  have htags := tags_contents device template uuid offer inside
  constructor
  · rw [htags]
    cases offer.isSome <;> cases uuid.isSome <;> decide
  · rw [htags]
    cases offer.isSome <;> cases uuid.isSome <;> decide

/-- The carrying option is stored when no option has its tag. -/
theorem bootEncap_not_mem (template : RequestTemplate) (offer : Option (Tag → Option Bytes)) :
    Tag.bootEncap ∉ OptionMap.tags (typed template (kindFor offer) ++ naming offer) := by
  rw [typed, tags_named template offer (UInt8.ofNat (kindFor offer).number)]
  cases offer.isSome <;> decide

/-- What a packet has when the hardware is stored, with the client's identifiers behind it. -/
theorem contents_eq {client : Bytes} (hclient : clientId device = .ok client)
    (template : RequestTemplate) (uuid : Option Uuid) (offer : Option (Tag → Option Bytes))
    (inside : Bytes) : contents device template uuid offer inside =
      typed template (kindFor offer) ++ naming offer ++ [(Tag.bootEncap, inside)] ++
        [(Tag.clientId, client)] ++
          uuid.toList.map fun uuid => (Tag.clientUuid, 0 :: uuid.bytes) := by
  rw [contents, identifying, ← clientId_eq_ok hclient, typed]
  simp only [List.append_assoc, List.cons_append, List.nil_append]

theorem encodedSize_contents (device : Device) (template : RequestTemplate) (uuid : Option Uuid)
    (offer : Option (Tag → Option Bytes)) (inside : Bytes) :
    (contents device template uuid offer inside).encodedSize =
      (typed template (kindFor offer)).encodedSize + (naming offer).encodedSize +
        OptionBlock.entrySize inside + (identifying device uuid).encodedSize := by
  rw [contents, typed]
  simp only [OptionMap.encodedSize_append, OptionMap.encodedSize_cons, OptionMap.encodedSize_nil,
    Nat.add_zero]

/-- The last part of a build stores the client's identifiers. -/
theorem yields_identified {inside client : Bytes} (hclient : clientId device = .ok client)
    (h : packet.Carries head
      (typed template (kindFor offer) ++ naming offer ++ [(Tag.bootEncap, inside)]))
    (space : packet.region.capacity = room) (uuid : Option Uuid) :
    Yields (lift (packet.store Tag.clientId (some client)) >>= fun packet => withUuid packet uuid)
      head room (contents device template uuid offer inside) := by
  have htags := tags_named template offer (UInt8.ofNat (kindFor offer).number)
  have hclients : Tag.clientId ∉ OptionMap.tags (typed template (kindFor offer) ++ naming offer ++
      [(Tag.bootEncap, inside)]) := by
    rw [OptionMap.tags_append_singleton, typed, htags]
    cases offer.isSome <;> decide
  rw [contents_eq hclient]
  apply (yields_append h space (by decide) hclients).bind
  · rw [OptionMap.encodedSize_append _ (uuid.toList.map _)]
    omega
  intro packet carries space
  apply yields_withUuid carries space
  rw [OptionMap.tags_append_singleton, OptionMap.tags_append_singleton, typed, htags]
  cases offer.isSome <;> decide

/-- Unless the offer is refused, the whole build comes to a packet with all options, as long as
they fit. -/
theorem yields_build {hardware inside : Bytes} (h : template.Encodable) (h' : device.Encodable)
    (hhardware : hardwareId device.hardware = .ok hardware)
    (hinside : OptionBlock.body? (template.features.map Feature.entry ++
      [(Tag.busId.inner, hardware)]) = some inside) (uuid : Option Uuid) (buffer : Bytes)
    (accepted : ∀ fetch, offer = some fetch → ∃ named, acceptOffer fetch = .ok named) :
    Yields (build device template uuid offer buffer) (header device (kindFor offer))
      (buffer.length - Header.length) (contents device template uuid offer inside) := by
  obtain ⟨block, hblock⟩ := exists_templateBlock h
  obtain ⟨features, hfeatures⟩ := exists_featureBlock h
  obtain ⟨client, hclient⟩ := exists_clientId h'
  obtain ⟨entry, hentry, hbody⟩ := exists_updateInner_features h hfeatures hardware
  obtain rfl := Option.some.inj (hinside.symm.trans hbody)
  have htyped := tags_typed template (kindFor offer)
  have hsize := encodedSize_contents device template uuid offer (features ++ entry)
  have hgrows : features.length ≤ (features ++ entry).length := by
    rw [List.length_append]
    omega
  have hfirst := OptionBlock.entrySize_mono hgrows
  apply Yields.pass hblock
  apply (yields_create h' (opening_of_templateBlock hblock) (kindFor offer) buffer).bind
  · omega
  intro first carries space
  apply (yields_withOffer carries space (htyped ▸ by decide) (htyped ▸ by decide) accepted).bind
  · rw [OptionMap.encodedSize_append]
    omega
  intro second carries space
  have hcarrier := bootEncap_not_mem template offer
  apply Yields.pass hfeatures
  apply (yields_append carries space (by decide) hcarrier).bind
  · simp only [OptionMap.encodedSize_append, OptionMap.encodedSize_cons, OptionMap.encodedSize_nil]
    omega
  intro third carries space
  apply Yields.pass hhardware
  apply (yields_nest carries space hcarrier hentry (.inl hgrows)).bind
  · simp only [OptionMap.encodedSize_append, OptionMap.encodedSize_cons, OptionMap.encodedSize_nil]
    omega
  intro fourth carries space
  apply Yields.pass hclient
  exact yields_identified hclient carries space uuid

/-- How a build ends: the buffer is too small for the first options and the message type, or
else the offer is refused, or else the packet with all options is built if it fits. -/
theorem build_ends {hardware inside : Bytes} (h : template.Encodable) (h' : device.Encodable)
    (hblock : templateBlock template = .ok block)
    (hhardware : hardwareId device.hardware = .ok hardware)
    (hinside : OptionBlock.body? (template.features.map Feature.entry ++
      [(Tag.busId.inner, hardware)]) = some inside) (uuid : Option Uuid)
    (offer : Option (Tag → Option Bytes)) (buffer : Bytes) :
    (buffer.length < Header.length + block.length + 3 ∧
      ∃ cause, build device template uuid offer buffer = .error cause ∧ cause.isSpace = true) ∨
    Header.length + block.length + 3 ≤ buffer.length ∧
      ((∃ fetch cause, offer = some fetch ∧ acceptOffer fetch = .error cause ∧
          build device template uuid offer buffer = .error cause ∧ cause.isOffer = true) ∨
        (∀ fetch, offer = some fetch → ∃ named, acceptOffer fetch = .ok named) ∧
          Yields (build device template uuid offer buffer) (header device (kindFor offer))
            (buffer.length - Header.length) (contents device template uuid offer inside)) := by
  have hopening := opening_of_templateBlock hblock
  have hlength := OptionBlock.length_encode hopening
  have htyped : (typed template (kindFor offer)).encodedSize =
      (opening template).encodedSize + 3 := by
    simp [typed, OptionBlock.entrySize, OptionBlock.chunkLimit]
  obtain ⟨rest, hbuild⟩ := exists_build_eq hblock device uuid offer buffer
  rcases yields_create h' hopening (kindFor offer) buffer with
    ⟨fits, packet, hcreate, -⟩ | ⟨large, cause, hcreate, lack⟩
  · refine .inr ⟨by omega, ?_⟩
    by_cases accepted : ∀ fetch, offer = some fetch → ∃ named, acceptOffer fetch = .ok named
    · exact .inr ⟨accepted, yields_build h h' hhardware hinside uuid buffer accepted⟩
    · push Not at accepted
      obtain ⟨fetch, rfl, refused⟩ := accepted
      rcases acceptOffer_cases fetch with ⟨named, haccept⟩ | ⟨cause, hrefuse, lack⟩
      · exact absurd haccept (refused named)
      · refine .inl ⟨fetch, cause, rfl, hrefuse, ?_, lack⟩
        rw [hbuild, hcreate]
        show (acceptOffer fetch >>= _) >>= rest = _
        rw [hrefuse]
        rfl
  · refine .inl ⟨by omega, cause, ?_, lack⟩
    rw [hbuild, hcreate]
    rfl

/-- A packet is built from a template and a device that can be written, or the build fails with
an error that a client reckons with. -/
theorem expected_build (h : template.Encodable) (h' : device.Encodable) (uuid : Option Uuid)
    (offer : Option (Tag → Option Bytes)) (buffer : Bytes) (cause : Error)
    (failed : build device template uuid offer buffer = .error cause) :
    cause.isExpected = true := by
  obtain ⟨block, hblock⟩ := exists_templateBlock h
  obtain ⟨features, hfeatures⟩ := exists_featureBlock h
  obtain ⟨hardware, hhardware⟩ := exists_hardwareId h'
  obtain ⟨entry, -, hinside⟩ := exists_updateInner_features h hfeatures hardware
  rcases build_ends h h' hblock hhardware hinside uuid offer buffer with
    ⟨-, reason, hbuild, lack⟩ | ⟨-, ⟨fetch, reason, -, -, hbuild, lack⟩ | ⟨-, yields⟩⟩
  · obtain rfl := Except.error.inj (hbuild.symm.trans failed)
    exact Error.isExpected_of_isSpace lack
  · obtain rfl := Except.error.inj (hbuild.symm.trans failed)
    exact Error.isExpected_of_isOffer lack
  · rcases yields with ⟨-, packet, hbuild, -⟩ | ⟨-, reason, hbuild, lack⟩
    · rw [failed] at hbuild
      cases hbuild
    · obtain rfl := Except.error.inj (hbuild.symm.trans failed)
      exact Error.isExpected_of_isSpace lack

/-! ## Requests for offers in packets -/

/-- The offer can be requested: it names a server in four bytes, and an address. -/
structure Requestable (offer : Packet) : Prop where
  server : ∃ server, offer.fetch Tag.serverId = some server ∧ server.length = 4
  address : Header.addressBytes offer.buffer .your ≠ Address.unspecified.toBytes

/-- An offer in a valid packet is accepted if and only if it can be requested. -/
theorem requestable_iff {offer : Packet} (valid : offer.isValid = true) :
    Requestable offer ↔ ∃ named, acceptOffer offer.fetch = .ok named := by
  have hyours : offer.fetch Tag.yourAddress = some (Header.addressBytes offer.buffer .your) := rfl
  constructor
  · rintro ⟨⟨server, hserver, hlength⟩, haddress⟩
    have hgiven : Header.addressBytes offer.buffer .your ≠ [] := by
      rw [← List.length_pos_iff, Packet.length_addressBytes valid]
      decide
    refine ⟨(server, Header.addressBytes offer.buffer .your), ?_⟩
    rw [acceptOffer, hserver]
    dsimp only
    rw [if_neg (not_not.mpr hlength), hyours]
    dsimp only
    rw [if_neg (by simp [haddress, hgiven])]
  · rintro ⟨⟨server, address⟩, haccept⟩
    obtain ⟨hserver, hlength, haddress, hgiven⟩ := acceptOffer_eq_ok haccept
    obtain rfl := Option.some.inj (hyours.symm.trans haddress)
    exact ⟨⟨server, hserver, hlength⟩, hgiven⟩

theorem accepted_iff {offered : Option Packet}
    (valid : ∀ packet, offered = some packet → packet.isValid = true)
    (reads : offer = offered.map Packet.fetch) :
    (∀ fetch, offer = some fetch → ∃ named, acceptOffer fetch = .ok named) ↔
      ∀ packet, offered = some packet → Requestable packet := by
  subst reads
  cases offered with
  | none => simp
  | some packet => simp [requestable_iff (valid packet rfl)]

/-- A request that was built names a server and an address, each in four bytes. -/
theorem named_of_build {offered : Option Packet}
    (valid : ∀ packet, offered = some packet → packet.isValid = true)
    (reads : offer = offered.map Packet.fetch)
    (built : build device template uuid offer buffer = .ok packet)
    (request : packet.messageType = MessageType.request.number) :
    ∃ server address, packet.fetch Tag.serverId = some server ∧ server.length = 4 ∧
      packet.fetch Tag.requestedIp = some address ∧ address.length = 4 ∧
      address ≠ Address.unspecified.toBytes := by
  obtain ⟨⟨inside, -, carries⟩, haccept⟩ := carries_build built
  have hoptions : packet.options = contents device template uuid offer inside := carries.holds
  cases offered with
  | none =>
    subst reads
    rw [messageType_of_contents hoptions] at request
    exact absurd request (by decide)
  | some offered =>
    subst reads
    obtain ⟨server, address, haccept⟩ := haccept offered.fetch rfl
    obtain ⟨hserver, hlength, haddress, hgiven⟩ := acceptOffer_eq_ok haccept
    have hyours : Header.addressBytes offered.buffer .your = address := Option.some.inj haddress
    refine ⟨server, address, ?_, hlength, ?_,
      hyours ▸ Packet.length_addressBytes (valid offered rfl) _, hgiven⟩
    · rw [fetch_serverId_of_contents hoptions, Option.map_some, Option.map_some, hserver,
        Option.getD_some]
    · rw [fetch_requestedIp_of_contents hoptions, Option.map_some, Option.map_some, haddress,
        Option.getD_some]

/-- A discovery, or a request for an offer in a valid packet, is built in a buffer of any size.
If the buffer has no room for the header, the first options and the message type, there is no
space.  Otherwise the offer is refused if and only if it cannot be requested.  If it can, or if
there is none, the packet is built if and only if the buffer has room for the header and the
block of all options, and then it is as long as these: no buffer that could hold it is refused.

So a request that is built always names a server, and an address that is not the unspecified
one, each in four bytes. -/
theorem build_decided (h : template.Encodable) (h' : device.Encodable) (offered : Option Packet)
    (valid : ∀ packet, offered = some packet → packet.isValid = true)
    (reads : offer = offered.map Packet.fetch) (uuid : Option Uuid) (buffer : Bytes) :
    ∃ block hardware inside whole, templateBlock template = .ok block ∧
      hardwareId device.hardware = .ok hardware ∧
      OptionBlock.body? (template.features.map Feature.entry ++ [(Tag.busId.inner, hardware)]) =
        some inside ∧
      OptionBlock.encode? (contents device template uuid offer inside) = some whole ∧
      (buffer.length < Header.length + block.length + 3 →
        ∃ cause, build device template uuid offer buffer = .error cause ∧ cause.isSpace = true) ∧
      (Header.length + block.length + 3 ≤ buffer.length →
        ((∃ cause, build device template uuid offer buffer = .error cause ∧
            cause.isOffer = true) ↔
          ∃ packet, offered = some packet ∧ ¬Requestable packet)) ∧
      ((∀ packet, offered = some packet → Requestable packet) →
        (buffer.length < Header.length + whole.length →
          ∃ cause, build device template uuid offer buffer = .error cause ∧
            cause.isSpace = true) ∧
        (Header.length + whole.length ≤ buffer.length →
          ∃ packet, build device template uuid offer buffer = .ok packet ∧
            packet.length = Header.length + whole.length)) ∧
      ∀ packet, build device template uuid offer buffer = .ok packet →
        packet.messageType = MessageType.request.number →
        ∃ server address, packet.fetch Tag.serverId = some server ∧ server.length = 4 ∧
          packet.fetch Tag.requestedIp = some address ∧ address.length = 4 ∧
          address ≠ Address.unspecified.toBytes := by
  obtain ⟨block, hblock⟩ := exists_templateBlock h
  obtain ⟨features, hfeatures⟩ := exists_featureBlock h
  obtain ⟨hardware, hhardware⟩ := exists_hardwareId h'
  obtain ⟨entry, -, hinside⟩ := exists_updateInner_features h hfeatures hardware
  obtain ⟨-, whole, hwhole, -⟩ := OptionBlock.decode_encode _
    (proper_contents device template uuid offer (features ++ entry))
  have hlength := OptionBlock.length_encode hwhole
  have hends := build_ends h h' hblock hhardware hinside uuid offer buffer
  refine ⟨block, hardware, _, whole, hblock, hhardware, hinside, hwhole, fun small => ?_,
    fun room => ?_, fun requestable => ?_, fun packet built => named_of_build valid reads built⟩
  · rcases hends with ⟨-, failed⟩ | ⟨room, -⟩
    · exact failed
    · exact absurd small (Nat.not_lt.mpr room)
  · have hrefused : (∃ packet, offered = some packet ∧ ¬Requestable packet) ↔
        ¬∀ fetch, offer = some fetch → ∃ named, acceptOffer fetch = .ok named := by
      rw [accepted_iff valid reads]
      push Not
      rfl
    rw [hrefused]
    rcases hends with ⟨small, -⟩ | ⟨-, ⟨fetch, cause, hfetch, hrefuse, failed⟩ | ⟨accepted, yields⟩⟩
    · exact absurd small (Nat.not_lt.mpr room)
    · refine ⟨fun _ accepted => ?_, fun _ => ⟨cause, failed⟩⟩
      obtain ⟨named, haccept⟩ := accepted fetch hfetch
      rw [hrefuse] at haccept
      cases haccept
    · refine ⟨fun ⟨cause, hbuild, refused⟩ => ?_, fun refused => absurd accepted refused⟩
      rcases yields with ⟨-, packet, built, -⟩ | ⟨-, reason, failed, lack⟩
      · rw [built] at hbuild
        cases hbuild
      · obtain rfl := Except.error.inj (failed.symm.trans hbuild)
        rw [Error.isSpace_of_isOffer refused] at lack
        cases lack
  · rcases yields_build h h' hhardware hinside uuid buffer
        ((accepted_iff valid reads).mpr requestable) with
      ⟨fits, packet, hbuild, carries, -⟩ | ⟨large, failed⟩
    · refine ⟨fun small => ?_, fun _ => ⟨packet, hbuild, ?_⟩⟩
      · omega
      · rw [Packet.length, used_eq carries, hlength]
        omega
    · refine ⟨fun _ => failed, fun room => ?_⟩
      omega

/-- A request is built in a buffer of just the size that it takes, and in none that is one byte
smaller. -/
theorem request_fits_exactly :
    let offered := Packet.ofBytes (Bytes.zeros 16 ++ [10, 0, 0, 5] ++ Bytes.zeros 216 ++
      [99, 130, 83, 99, 53, 1, 2, 54, 4, 10, 0, 0, 1, 255])
    let device : Device := ⟨"net0", [2, 0, 0, 0, 0, 7], .ethernet, ⟨1, 32902, 5406⟩⟩
    let template : RequestTemplate := { features := [⟨33, []⟩, ⟨16, [2, 0]⟩] }
    (∃ packet, build device template none (some offered.fetch) (List.replicate 342 255) =
      .ok packet ∧ packet.length = 342) ∧
    ∃ cause, build device template none (some offered.fetch) (List.replicate 341 255) =
      .error cause ∧ cause.isSpace = true := by
  intro offered device template
  have h : template.Encodable :=
    { RequestTemplate.encodable_default with
      distinct := by decide
      codes := by decide
      versions := by decide }
  have h' : device.Encodable := ⟨by decide, by decide, by decide, by decide⟩
  have valid : ∀ packet, some offered = some packet → packet.isValid = true := by
    rintro _ ⟨⟩
    decide +kernel
  have requestable : ∀ packet, some offered = some packet → Requestable packet := by
    rintro _ ⟨⟩
    exact ⟨⟨[10, 0, 0, 1], by decide +kernel⟩, by decide +kernel⟩
  have hbody : OptionBlock.body? (template.features.map Feature.entry ++
      [(Tag.busId.inner, [1, 128, 134, 21, 30])]) =
        some [33, 0, 16, 2, 2, 0, 177, 5, 1, 128, 134, 21, 30] := by decide +kernel
  have hsize : (contents device template none (some offered.fetch)
      [33, 0, 16, 2, 2, 0, 177, 5, 1, 128, 134, 21, 30]).encodedSize = 101 := by decide +kernel
  have hends := build_decided h h' (some offered) valid rfl none
  have hlength : ∀ hardware inside whole, hardwareId device.hardware = .ok hardware →
      OptionBlock.body? (template.features.map Feature.entry ++
        [(Tag.busId.inner, hardware)]) = some inside →
      OptionBlock.encode? (contents device template none (some offered.fetch) inside) =
        some whole → whole.length = 102 := by
    intro hardware inside whole hhardware hinside hwhole
    have hknown : hardwareId device.hardware = .ok [1, 128, 134, 21, 30] := by decide +kernel
    obtain rfl := Except.ok.inj (hknown.symm.trans hhardware)
    obtain rfl := Option.some.inj (hbody.symm.trans hinside)
    rw [OptionBlock.length_encode hwhole, hsize]
  constructor
  · obtain ⟨_, hardware, inside, whole, -, hhardware, hinside, hwhole, -, -, hbuild, -⟩ :=
      hends (List.replicate 342 255)
    have hbound := hlength hardware inside whole hhardware hinside hwhole
    obtain ⟨packet, hpacket, hused⟩ := (hbuild requestable).2
      (by rw [hbound, List.length_replicate]; decide)
    exact ⟨packet, hpacket, by rw [hused, hbound]; rfl⟩
  · obtain ⟨_, hardware, inside, whole, -, hhardware, hinside, hwhole, -, -, hbuild, -⟩ :=
      hends (List.replicate 341 255)
    have hbound := hlength hardware inside whole hhardware hinside hwhole
    exact (hbuild requestable).1 (by rw [hbound, List.length_replicate]; decide)

end NetBoot.Request
