/-
# Requests of a configured client

The environment chooses three things that a request carries: the vendor class, which may be any
text, the client architecture, which may be any integer, and the features.  Features come from a
table and always fit, even if some are repeated.  So in a buffer that fits into memory a build
fails only as a client reckons with, as long as the vendor class is ASCII and the architecture
fits into a word.  Otherwise every build fails, before the buffer and the offer are looked at.
-/
import NetBoot.Config.Environment
import NetBoot.Proofs.Request.Outcome

namespace NetBoot

/-! ## What the environment chooses -/

/-- What the environment chooses for a request can be written. -/
structure RequestTemplate.Writable (template : RequestTemplate) : Prop where
  vendorClass : ∀ char ∈ template.vendorClass.toList, char.toNat < 128
  clientArchitecture : 0 ≤ template.clientArchitecture ∧ template.clientArchitecture < 65536

/-- Why no packet is built from a template that cannot be written. -/
def RequestTemplate.obstacle (template : RequestTemplate) : Request.Error :=
  if template.vendorClass.toList.all fun char => char.toNat < 128 then .wordRange else .notAscii

/-- The template is the usual one but for what the environment chooses, and its features fit. -/
structure RequestTemplate.Configured (template : RequestTemplate) : Prop where
  usual : ∃ vendorClass clientArchitecture features,
    template = { ({} : RequestTemplate) with vendorClass, clientArchitecture, features }
  features : ∀ feature ∈ template.features, (1 ≤ feature.code ∧ feature.code ≤ 254) ∧
    feature.version.length ≤ 255

namespace Feature

variable {feature : Feature} {item : List Char} {text : String} {features : List Feature}

/-- The feature has a code of the table and one byte for its version. -/
structure Known (feature : Feature) : Prop where
  listed : ∃ entry ∈ codes, feature.code = entry.2
  single : ∃ byte, feature.version = [byte]

theorem known_of_ofItem (read : ofItem item = .ok feature) : feature.Known := by
  rw [ofItem] at read
  dsimp only at read
  split at read
  · cases read
  next code hcode =>
    obtain ⟨upper, -, hlookup⟩ := Option.bind_eq_some_iff.mp hcode
    obtain ⟨before, after, hcodes, -⟩ := List.lookup_eq_some_iff.mp hlookup
    split at read
    · cases read
    · obtain rfl := Except.ok.inj read
      exact ⟨⟨(upper, code), hcodes ▸ by simp, rfl⟩, _, rfl⟩

/-- All features of a list that was read are known. -/
theorem known_of_parse (read : parse text = .ok features) :
    ∀ feature ∈ features, feature.Known := by
  rw [parse] at read
  generalize itemsOf text = items at read
  induction items generalizing features with
  | nil =>
    obtain rfl := Except.ok.inj read
    simp
  | cons item items ih =>
    rw [List.mapM_cons] at read
    obtain ⟨first, hfirst, read⟩ := Request.bind_eq_ok.mp read
    obtain ⟨rest, hrest, read⟩ := Request.bind_eq_ok.mp read
    obtain rfl := Except.ok.inj read
    exact List.forall_mem_cons.mpr ⟨known_of_ofItem hfirst, ih hrest⟩

/-- The codes of the table are those of options that a block can hold, and neither those that
stand for a field of the header nor that of the hardware. -/
theorem Known.code_range (known : feature.Known) :
    0x10 ≤ feature.code ∧ feature.code ≤ 0x24 := by
  have table : ∀ entry ∈ codes, 0x10 ≤ entry.2 ∧ entry.2 ≤ 0x24 := by decide
  obtain ⟨entry, mem, hcode⟩ := known.listed
  have hrange := table entry mem
  omega

theorem fit_of_known (known : ∀ feature ∈ features, feature.Known) :
    ∀ feature ∈ features, (1 ≤ feature.code ∧ feature.code ≤ 254) ∧
      feature.version.length ≤ 255 := by
  intro feature mem
  have hrange := (known feature mem).code_range
  obtain ⟨byte, version⟩ := (known feature mem).single
  exact ⟨by omega, by simp [version]⟩

end Feature

namespace Config

variable {environment : Environment} {config : Config} {text : Option String}
  {features : List Feature}

theorem fit_of_featuresOf (read : featuresOf text = .ok features) :
    ∀ feature ∈ features, (1 ≤ feature.code ∧ feature.code ≤ 254) ∧
      feature.version.length ≤ 255 := by
  rw [featuresOf] at read
  split at read
  · obtain rfl := Except.ok.inj read
    decide
  · split at read
    next hparse =>
      obtain rfl := Except.ok.inj read
      exact Feature.fit_of_known (Feature.known_of_parse hparse)
    · cases read

/-- Whatever the environment holds, a configuration that is read from it is the usual one but for
what the environment chooses. -/
theorem configured_of_environment (read : ofEnvironment environment = .ok config) :
    config.template.Configured := by
  obtain ⟨architecture, -, read⟩ := Request.bind_eq_ok.mp read
  obtain ⟨features, hfeatures, read⟩ := Request.bind_eq_ok.mp read
  obtain ⟨minTimeout, -, read⟩ := Request.bind_eq_ok.mp read
  obtain ⟨maxTimeout, -, read⟩ := Request.bind_eq_ok.mp read
  obtain ⟨maxAttempts, -, read⟩ := Request.bind_eq_ok.mp read
  obtain rfl := Except.ok.inj read
  exact ⟨⟨_, _, _, rfl⟩, fit_of_featuresOf hfeatures⟩

/-- Any text is taken for a vendor class, and any integer for an architecture. -/
theorem exists_of_texts (vendorClass : String) {text : String} {number : Int}
    (reads : Text.integer? text = some number) :
    ∃ config, ofEnvironment [("PXEDHCP_VENDOR_CLASS", vendorClass),
        ("PXEDHCP_CLIENT_ARCH", text)] = .ok config ∧
      config.template = { ({} : RequestTemplate) with
        vendorClass, clientArchitecture := number } := by
  let environment : Environment :=
    [("PXEDHCP_VENDOR_CLASS", vendorClass), ("PXEDHCP_CLIENT_ARCH", text)]
  have harchitecture : environment.lookup ("PXEDHCP_" ++ "CLIENT_ARCH") = some text := rfl
  have hread : readOr Text.integer? (some text) 0 = .ok number := by
    rw [readOr, reads]
  refine ⟨{ template := { vendorClass, clientArchitecture := number } }, ?_, rfl⟩
  rw [ofEnvironment]
  dsimp only
  rw [harchitecture, hread]
  rfl

end Config

/-! ## Builds that end as a client reckons with -/

namespace Request

variable {device : Device} {template : RequestTemplate} {uuid : Option Uuid}
  {offer : Option (Tag → Option Bytes)} {buffer : Bytes} {packet : Packet} {tag : Tag}
  {outcome : Except Error Packet} {next : Packet → Except Error Packet}

/-- Options can be added to the packet: its options can be written, and it fits into memory. -/
structure Sound (packet : Packet) : Prop where
  writable : packet.region.Writable
  small : packet.region.capacity < Bytes.memoryLimit

/-- The build has come to a packet to which options can be added, or failed as a client reckons
with. -/
def Reckoned (outcome : Except Error Packet) : Prop :=
  (∃ packet, outcome = .ok packet ∧ Sound packet) ∨
    ∃ cause, outcome = .error cause ∧ cause.isExpected = true

theorem reckoned_ok (h : Sound packet) : Reckoned (.ok packet) := .inl ⟨packet, rfl, h⟩

theorem Reckoned.bind (h : Reckoned outcome)
    (hnext : ∀ packet, Sound packet → Reckoned (next packet)) : Reckoned (outcome >>= next) := by
  rcases h with ⟨packet, rfl, sound⟩ | ⟨cause, rfl, expected⟩
  · exact hnext packet sound
  · exact .inr ⟨cause, rfl, expected⟩

/-- A part of the build that is no packet. -/
theorem Reckoned.pass {α : Type} {first : Except Error α} {next : α → Except Error Packet}
    {value : α} (passes : first = .ok value) (h : Reckoned (next value)) :
    Reckoned (first >>= next) := by
  subst passes
  exact h

/-- Whatever the options of the packet, storing one more fails only for lack of space. -/
theorem Sound.store (h : Sound packet) (ordinary : tag.Ordinary)
    (place : Packet.headerPlace? tag = none) (value : Bytes) :
    Reckoned (lift (packet.store tag (some value))) := by
  obtain ⟨options, encoded, -, proper, -, -, ends⟩ := h.writable.store_cases ordinary (some value)
  rw [Packet.store, place]
  dsimp only
  rcases ends with ⟨after, hstore, written, fits⟩ | ⟨-, hstore⟩ | ⟨large, -⟩
  · rw [hstore]
    exact reckoned_ok ⟨h.writable.written written proper fits, written.capacity ▸ h.small⟩
  · rw [hstore]
    exact .inr ⟨_, rfl, rfl⟩
  · have hused := h.writable.inside.used.2
    have hsmall := h.small
    omega

theorem Sound.withOffer (h : Sound packet) (offer : Option (Tag → Option Bytes)) :
    Reckoned (withOffer packet offer) := by
  cases offer with
  | none => exact reckoned_ok h
  | some fetch =>
    rcases acceptOffer_cases fetch with ⟨named, haccept⟩ | ⟨cause, hrefuse, refused⟩
    · apply Reckoned.pass haccept
      apply (h.store (.plain (by decide) (by decide)) rfl named.1).bind
      intro middle sound
      exact sound.store (.plain (by decide) (by decide)) rfl named.2
    · refine .inr ⟨cause, ?_, Error.isExpected_of_isOffer refused⟩
      rw [Request.withOffer, hrefuse]
      rfl

theorem Sound.withUuid (h : Sound packet) (uuid : Option Uuid) :
    Reckoned (withUuid packet uuid) := by
  cases uuid with
  | none => exact reckoned_ok h
  | some uuid => exact h.store (.plain (by decide) (by decide)) rfl _

/-- The first options and the message type are written, unless they do not fit. -/
theorem reckoned_create {block : Bytes} (h : device.Encodable)
    (hblock : templateBlock template = .ok block) (small : buffer.length < Bytes.memoryLimit)
    (kind : MessageType) : Reckoned (create device kind block buffer) := by
  rcases yields_create h (opening_of_templateBlock hblock) kind buffer with
    ⟨-, packet, hcreate, carries, space⟩ | ⟨-, cause, hcreate, lack⟩
  · rw [hcreate]
    refine reckoned_ok ⟨carries.writable, ?_⟩
    rw [space]
    omega
  · exact .inr ⟨cause, hcreate, Error.isExpected_of_isSpace lack⟩

/-- From a configured template that can be written, a packet is built, or the build fails as a
client reckons with. -/
theorem reckoned_build (configured : template.Configured) (writable : template.Writable)
    (h : device.Encodable) (small : buffer.length < Bytes.memoryLimit) (uuid : Option Uuid)
    (offer : Option (Tag → Option Bytes)) :
    Reckoned (build device template uuid offer buffer) := by
  obtain ⟨block, hblock⟩ : ∃ block, templateBlock template = .ok block := by
    obtain ⟨vendorClass, clientArchitecture, features, rfl⟩ := configured.usual
    -- the first options do not depend on the features
    have plain : RequestTemplate.Encodable
        { ({} : RequestTemplate) with vendorClass, clientArchitecture } :=
      { RequestTemplate.encodable_default with
        vendorClass := writable.vendorClass
        clientArchitecture := writable.clientArchitecture }
    obtain ⟨block, hblock⟩ := exists_templateBlock plain
    exact ⟨block, hblock⟩
  obtain ⟨features, hfeatures⟩ := exists_featureBlock_of_fit configured.features
  obtain ⟨hardware, hhardware⟩ := exists_hardwareId h
  obtain ⟨client, hclient⟩ := exists_clientId h
  apply Reckoned.pass hblock
  apply (reckoned_create h hblock small (kindFor offer)).bind
  intro first sound
  apply (sound.withOffer offer).bind
  intro second sound
  apply Reckoned.pass hfeatures
  apply (sound.store (.plain (by decide) (by decide)) rfl features).bind
  intro third sound
  apply Reckoned.pass hhardware
  apply (sound.store (.inside (by decide) (by decide)) rfl hardware).bind
  intro fourth sound
  apply Reckoned.pass hclient
  apply (sound.store (.plain (by decide) (by decide)) rfl client).bind
  intro fifth sound
  exact sound.withUuid uuid

/-- From a configured template with a vendor class that is not ASCII, or else with an architecture
that fits no word, nothing is built, whatever the buffer and the offer. -/
theorem build_of_not_writable (configured : template.Configured)
    (unwritable : ¬template.Writable) (device : Device) (uuid : Option Uuid)
    (offer : Option (Tag → Option Bytes)) (buffer : Bytes) :
    build device template uuid offer buffer = .error template.obstacle := by
  obtain ⟨vendorClass, clientArchitecture, features, rfl⟩ := configured.usual
  obtain ⟨size, hsize⟩ : ∃ size, word 1500 = .ok size := exists_word (by decide)
  by_cases plain : vendorClass.toList.all fun char => char.toNat < 128
  · have hplain (char : Char) (mem : char ∈ vendorClass.toList) : char.toNat < 128 :=
      of_decide_eq_true (List.all_eq_true.mp plain char mem)
    obtain ⟨vendor, hvendor⟩ := exists_ascii hplain
    have hword : word clientArchitecture = .error .wordRange := by
      have hnone : Bytes.word? 2 clientArchitecture = none :=
        if_neg fun fits => unwritable ⟨hplain, fits⟩
      rw [word, hnone]
    rw [RequestTemplate.obstacle, if_pos plain]
    rw [build, templateBlock, templateOptions, hsize, hvendor, hword]
    rfl
  · have hascii : ascii vendorClass = .error .notAscii := if_neg plain
    rw [RequestTemplate.obstacle, if_neg plain]
    rw [build, templateBlock, templateOptions, hsize, hascii]
    rfl

end Request
end NetBoot
