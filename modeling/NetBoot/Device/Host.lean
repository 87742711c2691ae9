/-
# Devices of a host

How a device is described from what the host says about a network interface: its
hardware type, its address and the identifiers of the hardware behind it.  The
host's answers are a value, so that the same rules run on any host.

Short addresses are asked for with a device request, whose argument starts with
the interface's name and whose answer holds the address from byte 18 on.  Longer
ones do not fit into the answer and are read from a file.
-/
import NetBoot.Device.Basic
import NetBoot.Files.Route
import NetBoot.Text.Integer
import NetBoot.Text.Line
import NetBoot.Uuid

namespace NetBoot

/-- What a host says about itself. -/
structure Host where
  files : Files := {}
  /-- The path of the folder with the files about network interfaces. -/
  networkRoot : String := "/sys/class/net"
  /-- The text of the file that holds the system's identifier. -/
  systemUuid : Option String := none
  /-- The answer to the request for a hardware address. -/
  hardwareAnswer : Option Bytes := none

namespace Host

/-- A text without white space around it, every end of line being a line feed. -/
def tidyText (text : String) : String :=
  Text.strip (String.ofList (Text.plainLines text.toList))

/-- The path of a file about an interface. -/
def fileRoute (host : Host) (interface property : String) : Route :=
  (((Route.ofText host.networkRoot).join interface).join property).tidy

/-- The text of a file about an interface. -/
def readText (host : Host) (interface property : String) : Except PathError String :=
  (host.files.read (host.fileRoute interface property)).map fun data =>
    tidyText (Text.Utf8.decode data)

/-- The number in a file about an interface, if there is one. -/
def readNumber? (host : Host) (interface property : String) : Option Int :=
  (host.readText interface property).toOption.bind Text.anyBaseInteger?

/-- The system's identifier, if the host tells it. -/
def uuid? (host : Host) : Option Uuid :=
  host.systemUuid.bind fun text => Uuid.ofText? (tidyText text)

end Host

namespace Device

/-- Why an interface could not be described. -/
inductive ProbeError
  /-- The request for the address failed. -/
  | request (cause : SystemError)
  /-- The file with the address cannot be read. -/
  | file (cause : PathError)
  /-- A text is no link-layer address. -/
  | notAddress (text : String)
  /-- The address does not suit the protocol. -/
  | length (cause : LengthError)
  deriving DecidableEq, Repr

/-- What is said of an interface that could not be described. -/
def ProbeError.message : ProbeError → String
  | request cause => cause.message
  | file cause => cause.message
  | notAddress text => LinkAddress.invalidMessage text
  | length cause => cause.message

/-- The number of the request for a hardware address. -/
def addressRequest : Int := 0x8927

/-- The argument of the request for the address of an interface. -/
def requestArgument (interface : String) : Bytes :=
  Bytes.padRight 256 ((Text.Utf8.encode interface).take 15)

/-- Where the address starts in the answer. -/
def answerOffset : Nat := 18

/-- The longest address that a request can answer. -/
def requestLimit : Int := 6

/-- Read the text of a link-layer address. -/
def addressOfText (text : String) : Except ProbeError Bytes :=
  match LinkAddress.ofText? text with
  | some address => .ok address
  | none => .error (.notAddress text)

/-- The address of an interface, and the arguments of the requests that were
answered. -/
def hostAddress (host : Host) (interface : String) (length : Int) :
    Except ProbeError Bytes × List Bytes :=
  if length > requestLimit then
    match host.readText interface "address" with
    | .ok text => (addressOfText text, [])
    | .error cause => (.error (.file cause), [])
  else
    let argument := requestArgument interface
    match host.hardwareAnswer with
    | none => (.error (.request .noDevice), [])
    | some answer =>
      let laid := argument.splice answerOffset (answerOffset + answer.length) answer
      (.ok (laid.slice answerOffset (answerOffset + length)), [argument])

/-- What the host knows of the hardware behind an interface. -/
def hostHardware (host : Host) (interface : String) : Hardware :=
  match host.readNumber? interface "device/vendor", host.readNumber? interface "device/device" with
  | some vendor, some product => ⟨Hardware.pci, vendor, product⟩
  | _, _ => {}

/-- The protocol of an interface; Ethernet unless the host names another one. -/
def hostProtocol (host : Host) (interface : String) : LinkProtocol :=
  ((host.readNumber? interface "type").bind LinkProtocol.ofNumber?).getD .ethernet

/-- Build a device, reporting a wrong address length as a failed description. -/
def probed (interface : String) (address : Bytes) (protocol : LinkProtocol)
    (hardware : Hardware) : Except ProbeError Device :=
  match make interface address protocol hardware with
  | .ok device => .ok device
  | .error cause => .error (.length cause)

/-- Describe an interface, with another address than its own if one is given.  A
given address that does not suit the protocol is taken for an Ethernet address.
The second part holds the arguments of the requests that were answered. -/
def ofInterface (host : Host) (interface : String) (override : Option String) :
    Except ProbeError Device × List Bytes :=
  let protocol := hostProtocol host interface
  let hardware := hostHardware host interface
  match override with
  | some text =>
    if text = "" then ofHost protocol hardware
    else match addressOfText text with
      | .error cause => (.error cause, [])
      | .ok address =>
        let suited :=
          if (address.length : Int) = protocol.addressLength then protocol else .ethernet
        (probed interface address suited hardware, [])
  | none => ofHost protocol hardware
where
  /-- Describe an interface with its own address. -/
  ofHost (protocol : LinkProtocol) (hardware : Hardware) : Except ProbeError Device × List Bytes :=
    match hostAddress host interface protocol.addressLength with
    | (.error cause, requests) => (.error cause, requests)
    | (.ok address, requests) => (probed interface address protocol hardware, requests)

end Device
end NetBoot
