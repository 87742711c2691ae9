/-
# Option tags and message types

An option is known by its tag.  Tags 1 to 254 are ordinary options; 0 is padding
and 255 ends an option block.  An option carried inside another option has a tag
made of both: the outer tag in front of the last byte, the inner tag in the last
byte.  Tags are integers of any size, because a caller may ask for any.
-/

namespace NetBoot

/-- An option tag, possibly of an option inside another one. -/
abbrev Tag := Int

namespace Tag

/-- The names of the options in use. -/
def names : List (String × Tag) :=
  [("PAD", 0), ("SUBNET_MASK", 1), ("ROUTER", 3), ("DNS_SERVER", 6), ("LOG_SERVER", 7),
   ("HOSTNAME", 12), ("DOMAIN_NAME", 15), ("ROOT_PATH", 17), ("VENDOR_ENCAP", 43),
   ("REQUESTED_IP", 50), ("LEASE_TIME", 51), ("OPTION_OVERLOAD", 52), ("MESSAGE_TYPE", 53),
   ("SERVER_ID", 54), ("PARAMETER_REQUEST", 55), ("MESSAGE", 56), ("MAX_MESSAGE_SIZE", 57),
   ("RENEWAL_TIME", 58), ("REBINDING_TIME", 59), ("VENDOR_CLASS_ID", 60), ("CLIENT_ID", 61),
   ("TFTP_SERVER_NAME", 66), ("BOOTFILE_NAME", 67), ("CLIENT_ARCHITECTURE", 93),
   ("CLIENT_NDI", 94), ("CLIENT_UUID", 97), ("EB_ENCAP", 175), ("ISCSI_INITIATOR_IQN", 203),
   ("END", 255)]

def pad : Tag := 0
def subnetMask : Tag := 1
def router : Tag := 3
def dnsServer : Tag := 6
def logServer : Tag := 7
def hostname : Tag := 12
def domainName : Tag := 15
def rootPath : Tag := 17
def vendorEncap : Tag := 43
def requestedIp : Tag := 50
def leaseTime : Tag := 51
def messageType : Tag := 53
def serverId : Tag := 54
def parameterRequest : Tag := 55
def maxMessageSize : Tag := 57
def vendorClassId : Tag := 60
def clientId : Tag := 61
def tftpServerName : Tag := 66
def bootfileName : Tag := 67
def clientArchitecture : Tag := 93
def clientNdi : Tag := 94
def clientUuid : Tag := 97
def bootEncap : Tag := 175
def iscsiInitiator : Tag := 203
def stop : Tag := 255

/-- The tag of the option that carries this one; zero for a plain option. -/
def outer (tag : Tag) : Int := tag / 256

/-- The tag inside the carrying option. -/
def inner (tag : Tag) : Int := tag % 256

/-- Bitwise disjunction of integers in two's complement. -/
def bitOr (left right : Int) : Int :=
  match left, right with
  | .ofNat first, .ofNat second => .ofNat (first ||| second)
  | .negSucc first, .ofNat second => .negSucc (first - (first &&& second))
  | .ofNat first, .negSucc second => .negSucc (second - (second &&& first))
  | .negSucc first, .negSucc second => .negSucc (first &&& second)

/-- The tag of an option carried inside another option. -/
def inside (carrier option : Int) : Tag := bitOr (carrier * 256) option

/-- Priority of the server that sent the packet. -/
def priority : Tag := inside 175 0x01

/-- The offered address, as an option. -/
def yourAddress : Tag := inside 175 0x02

/-- The address of the next server, as an option. -/
def nextServer : Tag := inside 175 0x03

/-- The server asks not to wait for proxy offers. -/
def noProxy : Tag := inside 175 0xb0

/-- The bus and identifiers of the client's network hardware. -/
def busId : Tag := inside 175 0xb1

/-- The name of a tag for messages. -/
def name (tag : Tag) : String :=
  if tag.outer ≠ 0 then toString tag.outer ++ "." ++ toString tag.inner
  else match names.find? fun entry => entry.2 == tag with
    | some (known, _) => known
    | none => "Unknown(" ++ toString tag ++ ")"

end Tag

/-- The types of messages. -/
inductive MessageType
  | discover | offer | request | decline | ack | nak | release | inform
  deriving DecidableEq, Repr, Inhabited

namespace MessageType

/-- All message types in the order of their numbers. -/
def all : List MessageType :=
  [discover, offer, request, decline, ack, nak, release, inform]

/-- The number on the wire. -/
def number : MessageType → Nat
  | discover => 1
  | offer => 2
  | request => 3
  | decline => 4
  | ack => 5
  | nak => 6
  | release => 7
  | inform => 8

/-- The message type of a number. -/
def ofNumber? (number : Int) : Option MessageType :=
  all.find? fun kind => (kind.number : Int) == number

/-- The name without the protocol in front. -/
def label : MessageType → String
  | discover => "DISCOVER"
  | offer => "OFFER"
  | request => "REQUEST"
  | decline => "DECLINE"
  | ack => "ACK"
  | nak => "NAK"
  | release => "RELEASE"
  | inform => "INFORM"

/-- Does the message go from a server to a client? -/
def isReply : MessageType → Bool
  | offer => true
  | ack => true
  | nak => true
  | _ => false

/-- The operation code in the header: one for requests, two for replies. -/
def operation (kind : MessageType) : Nat :=
  if kind.isReply then 2 else 1

/-- The name of a message type number; zero stands for a packet without one. -/
def nameOfNumber (number : Int) : String :=
  if number = 0 then "BOOTP"
  else match ofNumber? number with
    | some kind => "DHCP" ++ kind.label
    | none => "DHCP<invalid>"

/-- The full name. -/
def name (kind : MessageType) : String := "DHCP" ++ kind.label

end MessageType
end NetBoot
