/-
# Replies

What a client reads off a server's reply before it decides which one to take: the
server's priority, its wish not to use proxy offers, and whether the reply is a
proxy offer itself, that is, one that offers no address.
-/
import NetBoot.Packet.Basic

namespace NetBoot.Packet

/-- The first byte of an option, or zero if it is absent or empty. -/
def leadingByte (value : Option Bytes) : Nat :=
  match value with
  | some (first :: _) => first.toNat
  | _ => 0

/-- The server's priority, zero unless it states one. -/
def priority (packet : Packet) : Nat :=
  leadingByte (packet.fetch Tag.priority)

/-- Does the server ask the client not to wait for proxy offers? -/
def refusesProxy (packet : Packet) : Bool :=
  leadingByte (packet.fetch Tag.noProxy) != 0

/-- A reply that offers no address comes from a proxy server. -/
def isProxyReply (packet : Packet) : Bool :=
  packet.fetch Tag.yourAddress == some Address.unspecified.toBytes

end NetBoot.Packet
