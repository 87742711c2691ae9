/-
# Building requests

A client sends two kinds of packet: a discovery, and a request for an offer that
it was made.  Both carry the options of a template, the client's features and
hardware, and its identifiers; a request also names the offering server and the
offered address.

A packet is built in a buffer of fixed size by storing one option after another.
Building fails when the buffer is too small, when an offer lacks a server or an
address, and when a number of the template or the device does not fit its place.
-/
import NetBoot.Config.Basic
import NetBoot.Device.Basic
import NetBoot.Packet.Basic
import NetBoot.Text.Utf8
import NetBoot.Uuid

namespace NetBoot.Request

/-- Why a packet could not be built. -/
inductive Error
  /-- The buffer does not hold the header and the first options. -/
  | noRoom (kind : MessageType) (needed available : Nat)
  /-- An offer names no server. -/
  | noServer
  /-- An offer offers no address. -/
  | noAddress
  /-- A number does not fit into its words. -/
  | wordRange
  /-- A number or a length does not fit into a byte. -/
  | byteRange
  /-- The vendor class holds a character outside ASCII. -/
  | notAscii
  /-- The packet refused a field or an option. -/
  | packet (cause : Packet.Error)
  deriving DecidableEq, Repr

/-- What is said of a packet that could not be built, where the library itself
refuses. -/
def Error.message : Error → Option String
  | noRoom kind needed available =>
    some (kind.name ++ " needs " ++ toString needed ++ " bytes, buffer holds " ++
      toString available)
  | noServer => some "DHCPOFFER carries no valid server identifier"
  | noAddress => some "DHCPOFFER carries no offered address"
  | packet cause => cause.message
  | _ => none

/-- Is this an error that a client reckons with?  The packet does not fit, or the
offer is not usable; all other errors show a template or a device that no packet
can be built from. -/
def Error.isExpected : Error → Bool
  | noRoom .. => true
  | noServer => true
  | noAddress => true
  | packet (.option (.noSpace ..)) => true
  | _ => false

/-- A word of two bytes. -/
def word (value : Int) : Except Error Bytes :=
  match Bytes.word? 2 value with
  | some bytes => .ok bytes
  | none => .error .wordRange

/-- A list of numbers as bytes. -/
def byteList (values : List Int) : Except Error Bytes :=
  match values.mapM Bytes.byte? with
  | some bytes => .ok bytes
  | none => .error .byteRange

/-- An ASCII text as bytes. -/
def ascii (text : String) : Except Error Bytes :=
  if text.toList.all fun char => char.toNat < 128 then .ok (Text.Utf8.encode text)
  else .error .notAscii

/-- The options of every packet of a client. -/
def templateOptions (template : RequestTemplate) : Except Error OptionMap := do
  let size ← word template.maxMessageSize
  let vendor ← ascii template.vendorClass
  let architecture ← word template.clientArchitecture
  let ndi ← byteList template.clientNdi
  let requested ← byteList template.requestedOptions
  pure [(Tag.maxMessageSize, size), (Tag.vendorClassId, vendor),
    (Tag.clientArchitecture, architecture), (Tag.clientNdi, ndi),
    (Tag.parameterRequest, requested)]

/-- The option block that every packet of a client starts with. -/
def templateBlock (template : RequestTemplate) : Except Error Bytes := do
  let options ← templateOptions template
  match OptionBlock.encode? options with
  | some block => .ok block
  | none => .error .byteRange

/-- Report a refusal of the packet as one of the build. -/
def lift (outcome : Except Packet.Error α) : Except Error α :=
  outcome.mapError .packet

/-- Write a number into the header of a packet. -/
def withWord (packet : Packet) (field : Header.Word) (value : Int) : Except Error Packet :=
  match packet.setWord field value with
  | (changed, .ok _) => .ok changed
  | (_, .error cause) => .error (.packet cause)

/-- Write the device's address into the header.  If it does not fit there, the
header says so and asks for a broadcast reply. -/
def withAddress (packet : Packet) (address : Bytes) : Except Error Packet :=
  if address.length ≤ Header.hardwareLimit then
    match packet.setHardwareAddress address with
    | (changed, .ok _) => .ok changed
    | (_, .error cause) => .error (.packet cause)
  else do
    let unnamed ← withWord packet .hlen 0
    withWord unnamed .flags Header.broadcastFlag

/-- A zeroed buffer that holds an option block, as a packet. -/
def blank (buffer block : Bytes) : Packet :=
  let size := Header.length + block.length
  Packet.ofBuffer ((Bytes.zeros buffer.length).splice Header.length size block) (some size)

/-- The packet with its header and the given first options. -/
def framed (device : Device) (kind : MessageType) (block buffer : Bytes) : Except Error Packet :=
  if buffer.length < Header.length + block.length then
    .error (.noRoom kind (Header.length + block.length) buffer.length)
  else do
    let packet := blank buffer block
    let packet ← withWord packet .op kind.operation
    let packet ← withWord packet .htype device.protocol.number
    let packet ← withWord packet .xid device.transaction
    let packet ← withWord packet .magic Header.cookie
    withAddress packet device.address

/-- A packet of a message type with the given first options. -/
def create (device : Device) (kind : MessageType) (block buffer : Bytes) :
    Except Error Packet := do
  let packet ← framed device kind block buffer
  lift (packet.store Tag.messageType (some [UInt8.ofNat kind.number]))

/-- What a buffer holds after it turned out to be too small for a packet: nothing
new if not even the first options fit, and the packet without its type if only
that did not fit. -/
def residue (device : Device) (kind : MessageType) (block buffer : Bytes) : Bytes :=
  match framed device kind block buffer with
  | .ok packet => packet.buffer
  | .error _ => buffer

/-- The server and the address that an offer names. -/
def acceptOffer (offer : Tag → Option Bytes) : Except Error (Bytes × Bytes) :=
  match offer Tag.serverId with
  | none => .error .noServer
  | some server =>
    if server.length ≠ 4 then .error .noServer
    else match offer Tag.yourAddress with
      | none => .error .noAddress
      | some address =>
        if address.isEmpty || address == Address.unspecified.toBytes then .error .noAddress
        else .ok (server, address)

/-- Store the server and the address of an offer. -/
def withOffer (packet : Packet) (offer : Option (Tag → Option Bytes)) : Except Error Packet :=
  match offer with
  | none => .ok packet
  | some offer => do
    let (server, address) ← acceptOffer offer
    let packet ← lift (packet.store Tag.serverId (some server))
    lift (packet.store Tag.requestedIp (some address))

/-- The client's features as the body of the carrying option. -/
def featureBlock (features : List Feature) : Except Error Bytes :=
  match Feature.encodeAll? features with
  | some block => .ok block
  | none => .error .byteRange

/-- The bus of a device and its identifiers on the wire. -/
def hardwareId (hardware : Hardware) : Except Error Bytes :=
  match Bytes.word? 1 hardware.bus, Bytes.word? 2 hardware.vendor,
      Bytes.word? 2 hardware.product with
  | some bus, some vendor, some product => .ok (bus ++ vendor ++ product)
  | _, _, _ => .error .wordRange

/-- The client identifier: the hardware type before the address. -/
def clientId (device : Device) : Except Error Bytes :=
  match Bytes.byte? device.protocol.number with
  | some number => .ok (number :: device.address)
  | none => .error .byteRange

/-- Store the system's identifier behind a type byte, if there is one. -/
def withUuid (packet : Packet) (uuid : Option Uuid) : Except Error Packet :=
  match uuid with
  | none => .ok packet
  | some uuid => lift (packet.store Tag.clientUuid (some (0 :: uuid.bytes)))

/-- The message type of a packet: a request if there is an offer. -/
def kindFor (offer : Option (Tag → Option Bytes)) : MessageType :=
  if offer.isSome then .request else .discover

/-- A discovery, or a request for an offer, built in a buffer. -/
def build (device : Device) (template : RequestTemplate) (uuid : Option Uuid)
    (offer : Option (Tag → Option Bytes)) (buffer : Bytes) : Except Error Packet := do
  let block ← templateBlock template
  let packet ← create device (kindFor offer) block buffer
  let packet ← withOffer packet offer
  let features ← featureBlock template.features
  let packet ← lift (packet.store Tag.bootEncap (some features))
  let hardware ← hardwareId device.hardware
  let packet ← lift (packet.store Tag.busId (some hardware))
  let client ← clientId device
  let packet ← lift (packet.store Tag.clientId (some client))
  withUuid packet uuid

end NetBoot.Request
