/-
# Assignments to the header

The owner of a packet may assign a number, an address in any form or the client's
hardware address to a field of the header.  An assignment that is refused may still
have changed the packet: a number that does not fit leaves its field cleared.
-/
import NetBoot.Packet.Basic

namespace NetBoot.Packet

/-- What is assigned to a field of the header. -/
inductive Assignment
  | word (field : Header.Word) (value : Int)
  | address (field : Header.Place) (value : Address.Form)
  | hardware (address : Bytes)
  deriving DecidableEq, Repr

/-- Assign to a field of the header. -/
def assign (packet : Packet) : Assignment → Packet × Except Error Unit
  | .word field value => packet.setWord field value
  | .address field value =>
    match Address.ofForm? value with
    | some address => (packet.setAddress field address, .ok ())
    | none => (packet, .error .address)
  | .hardware address => packet.setHardwareAddress address

end NetBoot.Packet
