/-
# The catalogue of settings

The settings that have a name, and how option values are shown to a reader: by
the setting of the option if there is one that can show the value, and otherwise
as a message type, as printable text or as hexadecimal digits.
-/
import NetBoot.Setting.Format

namespace NetBoot.Setting

/-- All settings with a name. -/
def catalog : List Setting :=
  [⟨"ip", Tag.yourAddress, "ipv4", "IPv4 address"⟩,
   ⟨"netmask", Tag.subnetMask, "ipv4", "Subnet mask"⟩,
   ⟨"gateway", Tag.router, "ipv4", "Default gateway"⟩,
   ⟨"dns", Tag.dnsServer, "ipv4_list", "DNS servers"⟩,
   ⟨"hostname", Tag.hostname, "string", "Host name"⟩,
   ⟨"domain", Tag.domainName, "string", "DNS domain"⟩,
   ⟨"root-path", Tag.rootPath, "string", "NFS/iSCSI root path"⟩,
   ⟨"filename", Tag.bootfileName, "string", "Boot filename"⟩,
   ⟨"next-server", Tag.nextServer, "ipv4", "TFTP server"⟩,
   ⟨"tftp-server", Tag.tftpServerName, "string", "TFTP server name"⟩,
   ⟨"server-id", Tag.serverId, "ipv4", "DHCP server"⟩,
   ⟨"lease-time", Tag.leaseTime, "uint32", "Lease time"⟩,
   ⟨"priority", Tag.priority, "uint8", "Priority of these settings"⟩,
   ⟨"uuid", Tag.clientUuid, "uuid", "Client UUID"⟩]

/-- The setting of a name. -/
def named? (name : String) : Option Setting :=
  catalog.find? fun setting => setting.name == name

/-- The setting of an option; of several the last one counts. -/
def ofTag? (tag : Tag) : Option Setting :=
  catalog.reverse.find? fun setting => setting.tag == tag

/-- A byte that is printable ASCII. -/
def isPlain (byte : UInt8) : Bool :=
  32 ≤ byte.toNat && byte.toNat < 127

/-- An option value without a setting that shows it. -/
def plainValue (tag : Tag) (value : Bytes) : String :=
  match value with
  | [] => "(empty)"
  | first :: _ =>
    if tag = Tag.messageType then MessageType.nameOfNumber first.toNat
    else if value.all isPlain then String.ofList (value.map fun byte => Char.ofNat byte.toNat)
    else Bytes.toHex value

/-- An option value as it is shown to a reader. -/
def optionText (tag : Tag) (value : Bytes) : String :=
  match ofTag? tag with
  | some setting =>
    match setting.showData value with
    | .ok shown => shown
    | .error _ => plainValue tag value
  | none => plainValue tag value

end NetBoot.Setting
