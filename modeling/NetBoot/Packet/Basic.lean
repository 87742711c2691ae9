/-
# Packets

A packet is a buffer that starts with a header and goes on with an option block.
The size of the buffer bounds the block.  Two options are kept in the header
instead of the block: the offered address and the address of the next server.

Reading or writing a field fails when the buffer is too short for it or the value
does not fit; a packet that came from the network may be of any length.
-/
import NetBoot.Options.Region
import NetBoot.Packet.Header
import NetBoot.Text.Quoted

namespace NetBoot

/-- A packet in a buffer. -/
structure Packet where
  /-- The option block and the buffer it lies in. -/
  region : OptionRegion
  /-- How many bytes of the buffer hold packet data. -/
  dataLength : Int
  deriving DecidableEq, Repr

namespace Packet

/-- Why reading or changing a packet failed. -/
inductive Error
  /-- A number lies outside the buffer or does not fit its field. -/
  | field
  /-- Something is not an address. -/
  | address
  /-- A hardware address is longer than its field. -/
  | hardwareLength (address : Bytes)
  /-- The value of an option kept in the header does not have four bytes. -/
  | addressLength (place : Header.Place) (length : Nat)
  /-- An option could not be stored. -/
  | option (cause : OptionRegion.StoreError)
  /-- Data is not a packet. -/
  | malformed (length : Nat)
  deriving DecidableEq, Repr

/-- What is said of an error, where the library itself refuses. -/
def Error.message : Error → Option String
  | field => none
  | address => none
  | hardwareLength bytes => some ("hardware address too long: " ++ Text.Quoted.ofBytes bytes)
  | addressLength place length =>
    some (place.name ++ " must be 4 bytes, got " ++ toString length)
  | option cause => cause.message
  | malformed length => some ("not a DHCP packet (" ++ toString length ++ " bytes)")

/-- The packet in a buffer of which `length` bytes, by default all, hold data. -/
def ofBuffer (buffer : Bytes) (length : Option Int) : Packet :=
  let size := length.getD buffer.length
  let capacity := max 0 ((buffer.length : Int) - Header.length)
  { region := .ofBuffer buffer Header.length (some capacity)
      (some (max 0 (size - Header.length))),
    dataLength := size }

/-- The packet that received data holds. -/
def ofBytes (data : Bytes) : Packet := ofBuffer data none

/-- The whole buffer. -/
def buffer (packet : Packet) : Bytes := packet.region.buffer

/-- The same packet over a changed buffer. -/
def withBuffer (packet : Packet) (buffer : Bytes) : Packet :=
  { packet with region := { packet.region with buffer } }

/-- The length of the header and the option block. -/
def length (packet : Packet) : Int := Header.length + packet.region.used

/-- The number in a header field. -/
def word (packet : Packet) (field : Header.Word) : Except Error Nat :=
  match Header.readWord? packet.buffer field with
  | some value => .ok value
  | none => .error .field

/-- Write a number into a header field.  A number that does not fit clears it. -/
def setWord (packet : Packet) (field : Header.Word) (value : Int) : Packet × Except Error Unit :=
  let (buffer, fits) := Header.writeWord packet.buffer field value
  (packet.withBuffer buffer, if fits then .ok () else .error .field)

/-- The address in a header field. -/
def address (packet : Packet) (field : Header.Place) : Except Error Address :=
  match Address.ofBytes? (Header.addressBytes packet.buffer field) with
  | some value => .ok value
  | none => .error .address

/-- Write an address into a header field. -/
def setAddress (packet : Packet) (field : Header.Place) (value : Address) : Packet :=
  packet.withBuffer (Header.putAddress packet.buffer field value.toBytes)

/-- The client's hardware address, as long as the header says it is. -/
def hardwareAddress (packet : Packet) : Except Error Bytes := do
  let size ← packet.word .hlen
  pure (packet.buffer.slice Header.hardwareOffset
    (Header.hardwareOffset + min size Header.hardwareLimit))

/-- Write the client's hardware address and its length. -/
def setHardwareAddress (packet : Packet) (value : Bytes) : Packet × Except Error Unit :=
  if value.length > Header.hardwareLimit then (packet, .error (.hardwareLength value))
  else
    let field := value.padRight Header.hardwareLimit
    let filled := packet.withBuffer (packet.buffer.splice Header.hardwareOffset
      (Header.hardwareOffset + Header.hardwareLimit) field)
    filled.setWord .hlen value.length

/-- A name field of the header without the zeros that fill it up. -/
def nameField (packet : Packet) (field : Nat × Nat) : Bytes :=
  (packet.buffer.slice field.1 (field.1 + field.2)).trimZeros

/-- The server's name in the header. -/
def serverName (packet : Packet) : Bytes := packet.nameField Header.serverName

/-- The name of the boot file in the header. -/
def bootFileName (packet : Packet) : Bytes := packet.nameField Header.bootFile

/-- Does the packet hold a full header with the magic word? -/
def isValid (packet : Packet) : Bool :=
  Header.length ≤ packet.dataLength && Header.length ≤ packet.buffer.length &&
    Header.readWord? packet.buffer .magic == some Header.cookie

/-- The packet that received data holds, if it is one. -/
def parse (data : Bytes) : Except Error Packet :=
  let packet := ofBytes data
  if packet.isValid then .ok packet else .error (.malformed data.length)

/-- The header field that an option is kept in. -/
def headerPlace? (tag : Tag) : Option Header.Place :=
  if tag = Tag.yourAddress then some .your
  else if tag = Tag.nextServer then some .server
  else none

/-- The value of an option. -/
def fetch (packet : Packet) (tag : Tag) : Option Bytes :=
  match headerPlace? tag with
  | some place => some (Header.addressBytes packet.buffer place)
  | none => packet.region.fetch tag

/-- Set the value of an option, or remove it when there is no value.  An option
kept in the header is cleared instead of removed. -/
def store (packet : Packet) (tag : Tag) (value : Option Bytes) : Except Error Packet :=
  match headerPlace? tag with
  | some place =>
    let bytes := value.getD Address.unspecified.toBytes
    if bytes.length ≠ 4 then .error (.addressLength place bytes.length)
    else .ok (packet.withBuffer (Header.putAddress packet.buffer place bytes))
  | none =>
    match packet.region.store tag value with
    | .ok region => .ok { packet with region }
    | .error cause => .error (.option cause)

/-- The packet after a store, whatever its outcome. -/
def afterStore (packet : Packet) : Except Error Packet → Packet
  | .ok stored => stored
  | .error (.option cause) => { packet with region := packet.region.afterStore (.error cause) }
  | .error _ => packet

/-- The options of the block, in order. -/
def options (packet : Packet) : OptionMap := packet.region.options

/-- The number of the message type, or zero for a packet without one. -/
def messageType (packet : Packet) : Nat :=
  match packet.fetch Tag.messageType with
  | some (first :: _) => first.toNat
  | _ => 0

/-- The bytes to send. -/
def encode (packet : Packet) : Bytes :=
  (packet.buffer.slice 0 packet.length).padRight Header.leastPacket

/-- The eight hexadecimal digits of a transaction number. -/
def xidText (value : Nat) : String :=
  "0x" ++ String.ofList (Text.Quoted.hexCode 8 value)

/-- One line about the packet. -/
def summary (packet : Packet) : String :=
  let fields := do
    let xid ← packet.word .xid
    let yours ← packet.address .your
    let server ← packet.address .server
    pure (MessageType.nameOfNumber packet.messageType ++ " xid=" ++ xidText xid ++
      " yiaddr=" ++ yours.toText ++ " siaddr=" ++ server.toText)
  match packet.isValid, fields with
  | true, .ok text => "DHCPPacket(" ++ text ++ ")"
  | _, _ => "DHCPPacket(<invalid, " ++ toString packet.dataLength ++ " bytes>)"

end Packet
end NetBoot
