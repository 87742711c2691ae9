/-
# Leases

A lease sums up what a server acknowledged and what a proxy server added to it.
The address and the network settings come from the acknowledgement alone.  Where to
boot from is taken from the proxy reply first, setting by setting, and from the
acknowledgement where the proxy says nothing.
-/
import NetBoot.Calendar
import NetBoot.LinkAddress
import NetBoot.Settings.Tree
import NetBoot.Text.Json

namespace NetBoot

/-- A lease. -/
structure Lease where
  address : Option String := none
  subnetMask : Option String := none
  gateway : Option String := none
  dnsServers : List String := []
  domainName : Option String := none
  hostname : Option String := none
  leaseTime : Option Int := none
  serverId : Option String := none
  nextServer : Option String := none
  tftpServer : Option String := none
  bootFile : Option String := none
  rootPath : Option String := none
  fromProxy : Bool := false
  obtained : Option Moment := none
  expires : Option Moment := none
  transaction : Option Int := none
  clientAddress : Option String := none
  options : OptionMap := []
  proxyOptions : OptionMap := []
  deriving DecidableEq, Repr

namespace Lease

/-- Why there is no lease. -/
inductive Error
  /-- A reply is too short. -/
  | packet (cause : Packet.Error)
  /-- The lease ends after the end of the calendar. -/
  | calendar
  deriving DecidableEq, Repr

/-- The addresses in an option; an absent one holds none. -/
def addressList (value : Option Bytes) : List String :=
  (Address.groups (value.getD [])).map Address.toText

/-- The text of a setting in a packet. -/
def settingOf (name : String) (packet : Packet) : Option String :=
  Setting.textOf? name packet.fetch

/-- The text of a boot setting: the first one in the sources that is not empty. -/
def bootSetting (name : String) (sources : List Packet) : Option String :=
  sources.findSome? fun packet => (settingOf name packet).filter (· ≠ "")

/-- The next server of a packet's header, unless it is unspecified. -/
def headerServer (packet : Packet) : Except Packet.Error (Option String) := do
  let address ← packet.address .server
  pure (if address = Address.unspecified then none else some address.toText)

/-- The first next server in the headers of the sources. -/
def nextServerOf : List Packet → Except Packet.Error (Option String)
  | [] => .ok none
  | packet :: rest => do
    match ← headerServer packet with
    | some server => pure (some server)
    | none => nextServerOf rest

/-- The name of the boot file in a packet's header, if there is one. -/
def headerFile (packet : Packet) : Option String :=
  if packet.bootFileName.isEmpty then none else some (Text.Utf8.decode packet.bootFileName)

/-- The boot file: an option of any source goes before the headers. -/
def bootFileOf (sources : List Packet) : Option String :=
  match bootSetting "filename" sources with
  | some file => some file
  | none => sources.findSome? headerFile

/-- The sources of boot settings in the order in which they are asked. -/
def bootSources (reply : Packet) (proxy : Option Packet) : List Packet :=
  proxy.toList ++ [reply]

/-- The lease time in seconds that a packet states. -/
def leaseSeconds (packet : Packet) : Option Nat :=
  (packet.fetch Tag.leaseTime).map fun data => Bytes.toNat (Bytes.padLeft 4 (data.take 4))

/-- When a lease ends, if it does. -/
def expiry (now : Moment) (seconds : Option Nat) : Except Error (Option Moment) :=
  match seconds with
  | none => .ok none
  | some seconds =>
    if seconds = 0 then .ok none
    else match now.addSeconds? seconds with
      | some moment => .ok (some moment)
      | none => .error .calendar

/-- The lease of an acknowledgement and a proxy reply at a moment. -/
def ofReplies (reply : Packet) (proxy : Option Packet) (now : Moment) : Except Error Lease := do
  let sources := bootSources reply proxy
  let nextServer ← (nextServerOf sources).mapError .packet
  let address ← (reply.address .your).mapError .packet
  let expires ← expiry now (leaseSeconds reply)
  let transaction ← (reply.word .xid).mapError .packet
  let hardware ← reply.hardwareAddress.mapError .packet
  pure {
    address := some address.toText
    subnetMask := settingOf "netmask" reply
    gateway := (addressList (reply.fetch Tag.router)).head?
    dnsServers := addressList (reply.fetch Tag.dnsServer)
    domainName := settingOf "domain" reply
    hostname := settingOf "hostname" reply
    leaseTime := (leaseSeconds reply).map fun seconds => (seconds : Int)
    serverId := settingOf "server-id" reply
    nextServer
    tftpServer := bootSetting "tftp-server" sources
    bootFile := bootFileOf sources
    rootPath := bootSetting "root-path" sources
    fromProxy := proxy.isSome
    obtained := some now
    expires
    transaction := some transaction
    clientAddress := if hardware.isEmpty then none else some (LinkAddress.toText hardware)
    options := reply.options
    proxyOptions := ((proxy.map Packet.options).getD []) }

/-- Options by the text of their tags. -/
def optionsJson (options : OptionMap) : JsonValue :=
  .object (options.map fun (tag, value) => (toString tag, .text (Bytes.toHex value)))

/-- A lease as a JSON object. -/
def toJson (lease : Lease) : JsonValue :=
  .object
    [("ip_address", .ofText lease.address),
     ("subnet_mask", .ofText lease.subnetMask),
     ("gateway", .ofText lease.gateway),
     ("dns_servers", .array (lease.dnsServers.map .text)),
     ("domain_name", .ofText lease.domainName),
     ("hostname", .ofText lease.hostname),
     ("lease_time", .ofInteger lease.leaseTime),
     ("server_id", .ofText lease.serverId),
     ("next_server", .ofText lease.nextServer),
     ("tftp_server", .ofText lease.tftpServer),
     ("bootfile", .ofText lease.bootFile),
     ("root_path", .ofText lease.rootPath),
     ("proxy_dhcp", .boolean lease.fromProxy),
     ("obtained_at", .ofText (lease.obtained.map Moment.toIso)),
     ("expires_at", .ofText (lease.expires.map Moment.toIso)),
     ("transaction_id", .ofInteger lease.transaction),
     ("client_mac", .ofText lease.clientAddress),
     ("options", optionsJson lease.options),
     ("proxy_options", optionsJson lease.proxyOptions)]

end Lease
end NetBoot
