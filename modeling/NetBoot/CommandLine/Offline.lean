/-
# Commands for packets

Two commands that need no network: one builds the packet that a client would send,
the other shows a packet that was captured.  Packets are read from files, as they
are or as hexadecimal text.
-/
import NetBoot.CommandLine.Command

namespace NetBoot.CommandLine

def macSwitch : Switch := { long := "--mac", short := some 'm', takesValue := true }

def typeSwitch : Switch := { long := "--htype", takesValue := true }

def offerSwitch : Switch := { long := "--offer", takesValue := true }

def hexSwitch : Switch := { long := "--hex" }

/-- Hexadecimal text in ASCII as bytes. -/
def ofHexFile? (data : Bytes) : Option Bytes :=
  if data.all fun byte => byte.toNat < 128 then
    Bytes.ofHexDigits? (data.map fun byte => Char.ofNat byte.toNat)
  else none

/-- Read a packet from a file; `place` is named in messages.  No reason is given for
text that is not hexadecimal. -/
def readPacket (place path : String) (asHex : Bool) : Run (Bytes × Packet) := do
  let data ← Run.orElse ((← Run.files).read (Route.ofText path)) fun cause =>
    Run.crash (.path cause)
  let bytes ←
    if asHex then match ofHexFile? data with
      | some bytes => pure bytes
      | none => Run.refuse (.badValue place "")
    else pure data
  match Packet.parse bytes with
  | .ok packet => pure (bytes, packet)
  | .error cause =>
    Run.fail ("[red]Error: " ++ path ++ ": " ++ cause.message.getD "" ++ "[/red]")

/-- The device of a hardware type and an address. -/
def deviceOf (number : Int) (address : String) : Run Device := do
  match LinkProtocol.ofNumber? number with
  | none =>
    Run.refuse (.badValue "--htype" ("unsupported hardware type " ++ toString number))
  | some protocol =>
    match LinkAddress.ofText? address with
    | none => Run.refuse (.badValue "--mac" (LinkAddress.invalidMessage address))
    | some bytes =>
      Run.orElse (Device.make "net0" bytes protocol {}) fun cause =>
        Run.refuse (.badValue "--mac" cause.message)

/-- Build the packet of a device, for an offer if there is one. -/
def buildFor (station : Station) (device : Device) (offer : Option Bytes) : Run Packet := do
  let config ← Run.config station
  match Request.build device config.template station.host.uuid?
      (offer.map fun data => (Packet.ofBytes data).fetch)
      (Bytes.zeros config.bufferLength.toNat) with
  | .ok packet => pure packet
  | .error cause =>
    if cause.isExpected then Run.fail ("[red]Error: " ++ cause.message.getD "" ++ "[/red]")
    else Run.crash (.building cause)

/-- Examine a switch of the command that builds a packet. -/
def examinePacket (_ : Station) (reading : Reading) (switch : Switch) : Run Unit := do
  if switch = macSwitch then
    if (reading.value? macSwitch).isNone then Run.refuse (.switchMissing macSwitch.hint)
  else if switch = typeSwitch then
    let _ ← readNumber Text.integer? "integer" reading typeSwitch
  else if switch = offerSwitch then
    match reading.value? offerSwitch with
    | some path => checkReadable offerSwitch.hint path
    | none => pure ()

/-- Build the packet that a client would send. -/
def runPacket (station : Station) (reading : Reading) (_ : String) : Run Unit := do
  let number ← readNumber Text.integer? "integer" reading typeSwitch
  let device ← deviceOf (number.getD 1) ((reading.value? macSwitch).getD "")
  let asHex := reading.has hexSwitch
  let offer ← match reading.value? offerSwitch with
    | none => pure none
    | some path => do
      let (data, _) ← readPacket "--offer" path asHex
      pure (some data)
  let packet ← buildFor station device offer
  if asHex then Run.echo (Bytes.toHex packet.encode) else Run.showPacket packet

/-- Build the packet that a client would send, without sending it. -/
def packetCommand : Command where
  name := "packet"
  about := [
    "Build the packet the client would send, without sending it.",
    "",
    "Examples:",
    "    # DHCPDISCOVER for an Ethernet device",
    "    pxedhcp dhcp packet -m 52:54:00:12:34:56",
    "",
    "    # DHCPREQUEST for a captured offer, as hex     pxedhcp dhcp packet -m",
    "    52:54:00:12:34:56 --offer offer.hex --hex"]
  purposes := [
    ⟨"-m, --mac TEXT", "Client hardware address  [required]"⟩,
    ⟨"--htype INTEGER", "ARP hardware type (1=Ethernet, 32=IPoIB)  [default: 1]"⟩,
    ⟨"--offer FILE", "Captured DHCPOFFER; builds the DHCPREQUEST for it"⟩,
    ⟨"--hex", "Print the packet as hex (and read --offer as hex)"⟩]
  switches := [macSwitch, typeSwitch, offerSwitch, hexSwitch]
  examine := examinePacket
  run := runPacket

/-- Show a packet that was captured. -/
def decodeCommand : Command where
  name := "decode"
  about := [
    "Decode a captured DHCP packet.",
    "",
    "Examples:",
    "    pxedhcp dhcp decode ack.bin",
    "    pxedhcp dhcp decode --hex offer.hex"]
  purposes := [⟨"--hex", "File contains hex text"⟩]
  switches := [hexSwitch]
  argument := some "PATH"
  examine := fun _ _ _ => pure ()
  examineArgument := fun _ path => checkReadable "'PATH'" path
  run := fun _ reading path => do
    let (_, packet) ← readPacket "PATH" path (reading.has hexSwitch)
    Run.showPacket packet

end NetBoot.CommandLine
