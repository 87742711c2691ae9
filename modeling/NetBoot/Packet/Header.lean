/-
# The packet header

A packet starts with a fixed header of 240 bytes: small big-endian words, four
addresses, the client's hardware address, two zero-filled names and a magic word.
This module says where each field lies and reads and writes single words and
addresses of a buffer.

A word that does not fit its field leaves the field zeroed: the field is cleared
before the value is written.  A field that lies outside the buffer is left alone.
-/
import NetBoot.Address
import NetBoot.Bytes

namespace NetBoot.Header

/-- The length of the header. -/
def length : Nat := 240

/-- The magic word at the end of the header. -/
def cookie : Nat := 0x63825363

/-- Shorter packets are filled up with zeros before they are sent. -/
def leastPacket : Nat := 300

/-- The size of buffer that outgoing packets are built in by default. -/
def usualBuffer : Nat := 552

/-- The flag that asks for a broadcast reply. -/
def broadcastFlag : Nat := 0x8000

/-- The room for a hardware address. -/
def hardwareLimit : Nat := 16

/-- The fields that hold a number. -/
inductive Word
  | op | htype | hlen | hops | xid | secs | flags | magic
  deriving DecidableEq, Repr

/-- All number fields, in order. -/
def Word.all : List Word := [op, htype, hlen, hops, xid, secs, flags, magic]

/-- The name of a number field. -/
def Word.name : Word → String
  | op => "op"
  | htype => "htype"
  | hlen => "hlen"
  | hops => "hops"
  | xid => "xid"
  | secs => "secs"
  | flags => "flags"
  | magic => "magic"

/-- The position of a number in the header. -/
def Word.offset : Word → Nat
  | op => 0
  | htype => 1
  | hlen => 2
  | hops => 3
  | xid => 4
  | secs => 8
  | flags => 10
  | magic => 236

/-- The number of bytes of a number. -/
def Word.width : Word → Nat
  | op => 1
  | htype => 1
  | hlen => 1
  | hops => 1
  | xid => 4
  | secs => 2
  | flags => 2
  | magic => 4

/-- The fields that hold an address. -/
inductive Place
  | client | your | server | gateway
  deriving DecidableEq, Repr

/-- All address fields, in order. -/
def Place.all : List Place := [client, your, server, gateway]

/-- The position of an address in the header. -/
def Place.offset : Place → Nat
  | client => 12
  | your => 16
  | server => 20
  | gateway => 24

/-- The name of an address field. -/
def Place.name : Place → String
  | client => "ciaddr"
  | your => "yiaddr"
  | server => "siaddr"
  | gateway => "giaddr"

/-- The position of the hardware address. -/
def hardwareOffset : Nat := 28

/-- The position and size of the server's name. -/
def serverName : Nat × Nat := (44, 64)

/-- The position and size of the name of the boot file. -/
def bootFile : Nat × Nat := (108, 128)

/-- The shape of a field. -/
inductive Shape
  | number (width : Nat)
  | octets (count : Nat)
  deriving DecidableEq, Repr

/-- The letter code of a shape. -/
def Shape.code : Shape → String
  | number 1 => "B"
  | number 2 => "H"
  | number _ => "I"
  | octets count => toString count ++ "s"

/-- The name, position and shape of a number field. -/
def Word.entry (word : Word) : String × Nat × Shape := (word.name, word.offset, .number word.width)

/-- The name, position and shape of an address field. -/
def Place.entry (place : Place) : String × Nat × Shape := (place.name, place.offset, .octets 4)

/-- All fields with their names and positions, in order. -/
def layout : List (String × Nat × Shape) :=
  [Word.op, .htype, .hlen, .hops, .xid, .secs, .flags].map Word.entry ++
  Place.all.map Place.entry ++
  [("chaddr", hardwareOffset, .octets hardwareLimit),
   ("sname", serverName.1, .octets serverName.2), ("file", bootFile.1, .octets bootFile.2),
   Word.magic.entry]

/-- Does a field lie inside a buffer? -/
def within (buffer : Bytes) (field : Word) : Bool :=
  field.offset + field.width ≤ buffer.length

/-- The number in a field, if the buffer holds the field. -/
def readWord? (buffer : Bytes) (field : Word) : Option Nat :=
  if within buffer field then
    some (Bytes.toNat ((buffer.drop field.offset).take field.width))
  else none

/-- A buffer with other bytes in the place of a number. -/
def putWord (buffer : Bytes) (field : Word) (bytes : Bytes) : Bytes :=
  buffer.take field.offset ++ bytes ++ buffer.drop (field.offset + field.width)

/-- Write a number into a field.  The second part says whether that succeeded. -/
def writeWord (buffer : Bytes) (field : Word) (value : Int) : Bytes × Bool :=
  if within buffer field then
    match Bytes.word? field.width value with
    | some bytes => (putWord buffer field bytes, true)
    | none => (putWord buffer field (Bytes.zeros field.width), false)
  else (buffer, false)

/-- The bytes of an address field, fewer than four at the end of a short buffer. -/
def addressBytes (buffer : Bytes) (field : Place) : Bytes :=
  buffer.slice field.offset (field.offset + 4)

/-- A buffer with other bytes in the place of an address. -/
def putAddress (buffer : Bytes) (field : Place) (bytes : Bytes) : Bytes :=
  buffer.splice field.offset (field.offset + 4) bytes

end NetBoot.Header
