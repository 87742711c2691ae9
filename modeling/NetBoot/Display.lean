/-
# Tables for readers

How packets and leases are shown to a person: as titled tables of text cells.  What
is printed is a list of lines, which may carry markup, and of tables; how they are
drawn is not decided here.
-/
import NetBoot.Lease

namespace NetBoot

/-- A table of text cells; a table without column titles has no header. -/
structure Table where
  title : String
  header : Option (List String)
  rows : List (List String)
  deriving DecidableEq, Repr

/-- Something that is printed. -/
inductive Printed
  | line (markup : String)
  | table (table : Table)
  deriving DecidableEq, Repr

namespace Display

/-- A field that may be missing or empty. -/
def orMissing (text : Option String) : String :=
  match text with
  | none => "N/A"
  | some words => if words = "" then "N/A" else words

/-- Is a field neither missing nor empty? -/
def given (text : Option String) : Bool :=
  (text.filter (· ≠ "")).isSome

/-- A whole number in hexadecimal with leading zeros up to a width, in which a sign
counts. -/
def hexNumber (width : Nat) (value : Int) : String :=
  let digits := Nat.toDigits 16 value.natAbs
  let sign := if value < 0 then ['-'] else []
  let zeros := List.replicate (width - digits.length - sign.length) '0'
  "0x" ++ String.ofList (sign ++ zeros ++ digits)

/-- The lease time in seconds and in whole hours. -/
def leaseTime (seconds : Option Int) : String :=
  match seconds with
  | none => "N/A"
  | some seconds =>
    if seconds = 0 then "N/A"
    else toString seconds ++ "s (" ++ toString (seconds / 3600) ++ "h)"

/-- A row that separates groups of rows. -/
def spacer : List String := ["", ""]

/-- The rows about booting, if there is anything to say. -/
def bootRows (lease : Lease) : List (List String) :=
  if given lease.tftpServer || given lease.bootFile || given lease.nextServer ||
      given lease.rootPath then
    [spacer,
     ["[bold]PXE Boot Info[/bold]", if lease.fromProxy then "[green]via ProxyDHCP[/green]" else ""],
     ["Next Server (siaddr)", orMissing lease.nextServer],
     ["TFTP Server", orMissing lease.tftpServer],
     ["Boot File", orMissing lease.bootFile]] ++
    (if given lease.rootPath then [["Root Path", orMissing lease.rootPath]] else [])
  else []

/-- The rows of options. -/
def optionRows (label : String) (options : OptionMap) : List (List String) :=
  options.map fun (tag, value) => [label ++ Tag.name tag, Setting.optionText tag value]

/-- The rows for a reader who wants to know everything. -/
def detailRows (lease : Lease) : List (List String) :=
  [spacer,
   ["Transaction ID", ((lease.transaction.map (hexNumber 8)).getD "N/A")],
   ["Client MAC", orMissing lease.clientAddress]] ++
  optionRows "Option " lease.options ++ optionRows "Proxy option " lease.proxyOptions

/-- A lease as a table. -/
def leaseTable (lease : Lease) (detailed : Bool) : Table :=
  { title := "DHCP Lease", header := none
    rows :=
      [["IP Address", orMissing lease.address],
       ["Subnet Mask", orMissing lease.subnetMask],
       ["Gateway", orMissing lease.gateway],
       ["DNS Servers",
        if lease.dnsServers.isEmpty then "N/A" else ", ".intercalate lease.dnsServers],
       ["Domain", orMissing lease.domainName],
       ["Hostname", orMissing lease.hostname],
       spacer,
       ["Lease Time", leaseTime lease.leaseTime],
       ["Server ID", orMissing lease.serverId]] ++
      bootRows lease ++ (if detailed then detailRows lease else []) }

/-- A row for a name field, unless it is empty. -/
def nameRow (label : String) (name : Bytes) : List (List String) :=
  if name.isEmpty then [] else [[label, Text.Utf8.decode name]]

/-- The header of a packet as a table. -/
def headerTable (packet : Packet) : Except Packet.Error Table := do
  let op ← packet.word .op
  let htype ← packet.word .htype
  let hlen ← packet.word .hlen
  let xid ← packet.word .xid
  let flags ← packet.word .flags
  let client ← packet.address .client
  let yours ← packet.address .your
  let server ← packet.address .server
  let gateway ← packet.address .gateway
  let hardware ← packet.hardwareAddress
  pure {
    title := MessageType.nameOfNumber packet.messageType, header := none
    rows :=
      [["op / htype / hlen", toString op ++ " / " ++ toString htype ++ " / " ++ toString hlen],
       ["xid", hexNumber 8 xid],
       ["flags", hexNumber 4 flags],
       ["ciaddr", client.toText],
       ["yiaddr", yours.toText],
       ["siaddr", server.toText],
       ["giaddr", gateway.toText],
       ["chaddr", if hardware.isEmpty then "(none)" else Bytes.toColonHex hardware]] ++
      nameRow "sname" packet.serverName ++ nameRow "file" packet.bootFileName }

/-- The row of an option. -/
def optionRow (indent : String) (tag : Tag) (value : Bytes) : List String :=
  [indent ++ Tag.name tag, toString value.length, Setting.optionText tag value]

/-- The rows of an option and of the options inside it. -/
def nestedRows (tag : Tag) (value : Bytes) : List (List String) :=
  let inside := if tag = Tag.bootEncap then OptionBlock.decode value else []
  optionRow "" tag value ::
    inside.map fun (inner, data) => optionRow "  " (Tag.inside tag inner) data

/-- The options of a packet as a table. -/
def optionTable (packet : Packet) : Table :=
  { title := "Options", header := some ["Tag", "Len", "Value"]
    rows := packet.options.flatMap fun (tag, value) => nestedRows tag value }

/-- A packet as two tables. -/
def packetTables (packet : Packet) : Except Packet.Error (List Printed) := do
  let header ← headerTable packet
  pure [.table header, .table (optionTable packet)]

end Display
end NetBoot
