/-
# Network devices

What a client knows of the device that it configures: its name, its link-layer
address, the protocol of the link, which fixes the length of the address, and the
hardware behind it.
-/
import NetBoot.LinkAddress

namespace NetBoot

/-- A link-layer protocol. -/
structure LinkProtocol where
  name : String
  /-- The hardware type. -/
  number : Int
  addressLength : Int
  deriving DecidableEq, Repr

namespace LinkProtocol

def ethernet : LinkProtocol := ⟨"Ethernet", 1, 6⟩

def ipoib : LinkProtocol := ⟨"IPoIB", 32, 20⟩

/-- The known protocols. -/
def all : List LinkProtocol := [ethernet, ipoib]

/-- The protocol of a hardware type. -/
def ofNumber? (number : Int) : Option LinkProtocol :=
  all.find? fun protocol => protocol.number == number

end LinkProtocol

/-- The bus a device sits on and its identifiers there. -/
structure Hardware where
  bus : Int := 0
  vendor : Int := 0
  product : Int := 0
  deriving DecidableEq, Repr

/-- The kinds of bus. -/
def Hardware.buses : List (String × Nat) :=
  [("UNKNOWN", 0), ("PCI", 1), ("ISAPNP", 2), ("EISA", 3), ("MCA", 4), ("ISA", 5)]

/-- The number of the PCI bus. -/
def Hardware.pci : Int := 1

/-- A network device. -/
structure Device where
  name : String
  address : Bytes
  protocol : LinkProtocol := .ethernet
  hardware : Hardware := {}
  deriving DecidableEq, Repr

namespace Device

/-- An address does not have the length that the protocol asks for. -/
structure LengthError where
  protocol : LinkProtocol
  length : Nat
  deriving DecidableEq, Repr

/-- What is said of an address of the wrong length. -/
def LengthError.message (error : LengthError) : String :=
  error.protocol.name ++ " address must be " ++ toString error.protocol.addressLength ++
    " bytes, got " ++ toString error.length

/-- A device whose address has the right length. -/
def make (name : String) (address : Bytes) (protocol : LinkProtocol) (hardware : Hardware) :
    Except LengthError Device :=
  if (address.length : Int) = protocol.addressLength then
    .ok { name, address, protocol, hardware }
  else .error ⟨protocol, address.length⟩

/-- The text of the device's address. -/
def addressText (device : Device) : String := LinkAddress.toText device.address

/-- The transaction number of all packets of a device: the number that the last
four bytes of its address write.  Replies can so be told apart without any state. -/
def transaction (device : Device) : Nat :=
  Bytes.toNat (device.address.drop (device.address.length - 4))

end Device
end NetBoot
