/-
# The command for leases

Gets a lease for an interface and shows it, as tables or as JSON.  The interface and
the address may come from the configuration; switches go before it.
-/
import NetBoot.CommandLine.Offline

namespace NetBoot.CommandLine

def interfaceSwitch : Switch := { long := "--interface", short := some 'i', takesValue := true }

def verboseSwitch : Switch := { long := "--verbose", short := some 'v' }

def timeoutSwitch : Switch := { long := "--timeout", short := some 't', takesValue := true }

def retriesSwitch : Switch := { long := "--retries", short := some 'r', takesValue := true }

def jsonSwitch : Switch := { long := "--json-output" }

/-- Examine a switch. -/
def examineObtain (_ : Station) (reading : Reading) (switch : Switch) : Run Unit := do
  if switch = timeoutSwitch then
    let _ ← readNumber Text.real? "float" reading timeoutSwitch
  else if switch = retriesSwitch then
    let _ ← readNumber Text.integer? "integer" reading retriesSwitch

/-- The interface to use. -/
def chosenInterface (config : Config) (reading : Reading) : Run String :=
  match Config.nonEmpty (reading.value? interfaceSwitch), config.interface with
  | some interface, _ => pure interface
  | none, some interface => pure interface
  | none, none => Run.refuse .noInterface

/-- The configuration with what the switches say about repetitions. -/
def withSwitches (config : Config) (reading : Reading) : Run Config := do
  let timeout ← readNumber Text.real? "float" reading timeoutSwitch
  let retries ← readNumber Text.integer? "integer" reading retriesSwitch
  pure { config with
    macAddress := (Config.nonEmpty (reading.value? macSwitch)).or config.macAddress
    retry := { config.retry with
      maxTimeout := timeout.getD config.retry.maxTimeout
      maxAttempts := retries.getD config.retry.maxAttempts } }

/-- Describe an interface of the station's host. -/
def describe (station : Station) (interface : String) (address : Option String) :
    Run Device := do
  let host := { station.host with files := ← Run.files }
  Run.orElse (Device.ofInterface host interface address).1 fun cause =>
    Run.fail ("[red]Error: Cannot use interface " ++ interface ++ ": " ++ cause.message ++ "[/red]")

/-- What is said of a client that got no lease, if it is said to the reader. -/
def reasonOf? : ObtainError → Option String
  | .unregistered cause => some cause.message
  | .notStarted (.system cause) => some cause.message
  | .failed cause => some cause.message
  | _ => none

/-- Was the client refused for lack of privileges? -/
def lacksPrivileges : ObtainError → Bool
  | .notStarted (.system cause) => cause.isPermission
  | _ => false

/-- Say why there is no lease. -/
def reportFailure (asJson : Bool) (cause : ObtainError) : Run α := do
  if lacksPrivileges cause then
    Run.fail
      "[red]Error: Permission denied. Run as root or with CAP_NET_BIND_SERVICE capability.[/red]"
  match reasonOf? cause with
  | none => Run.crash (.obtaining cause)
  | some reason =>
    if asJson then
      Run.echo (JsonValue.object [("success", .boolean false), ("error", .text reason)]).compact
      throw .failed
    else Run.fail ("[red]Failed to obtain DHCP lease: " ++ reason ++ "[/red]")

/-- Get a lease for a device. -/
def leaseFor (station : Station) (config : Config) (device : Device) :
    Run (Except ObtainError Lease) := do
  let (tree, block) := SettingsTree.empty.add (.plain device.name)
  let profile : Profile Float :=
    { device, block, template := config.template, retry := config.retry
      bufferLength := config.bufferLength, uuid := station.host.uuid? }
  let network := Udp.Timeline.ofPlan station.kernel station.plan
  let (outcome, stage) := Client.obtain profile none station.moment tree network
  modify fun output =>
    { output with sent := output.sent ++ stage.network.endpoint.socket.sent }
  Run.logEvents stage.log station.moment
  pure outcome

/-- Show a lease. -/
def showLease (asJson detailed : Bool) (lease : Lease) : Run Unit := do
  if asJson then
    Run.echo (JsonValue.object [("success", .boolean true), ("lease", lease.toJson)]).pretty
  else
    Run.say ""
    Run.say "[green]Lease obtained successfully![/green]"
    Run.say ""
    Run.print (.table (Display.leaseTable lease detailed))

/-- Get a lease and show it. -/
def runObtain (station : Station) (reading : Reading) (_ : String) : Run Unit := do
  let found ← Run.config station
  let interface ← chosenInterface found reading
  let config ← withSwitches found reading
  let detailed := reading.has verboseSwitch
  let asJson := reading.has jsonSwitch
  if detailed then
    Run.withLogger (Logger.lower Severity.debug.name) fun cause =>
      Run.crash (.logging (.severity cause))
  let device ← describe station interface config.macAddress
  if !asJson && !detailed then
    Run.say ("[dim]Starting DHCP on " ++ interface ++ " (" ++ device.addressText ++ ")...[/dim]")
  match ← leaseFor station config device with
  | .ok lease => showLease asJson detailed lease
  | .error cause => reportFailure asJson cause

/-- Get a lease. -/
def obtainCommand : Command where
  name := "obtain"
  about := [
    "Obtain a DHCP lease (full DORA process).",
    "",
    "Performs complete DHCP handshake: - DHCPDISCOVER (broadcast) - DHCPOFFER",
    "(from DHCP and ProxyDHCP servers) - DHCPREQUEST (broadcast) - DHCPACK (from",
    "server)",
    "",
    "Examples:",
    "    # Obtain lease with verbose output",
    "    pxedhcp dhcp obtain -v -i eth0",
    "",
    "    # Give up sooner     pxedhcp dhcp obtain -i eth0 -r 3 -t 2"]
  purposes := [
    ⟨"-i, --interface TEXT", "Network interface to use"⟩,
    ⟨"-m, --mac TEXT", "Override MAC address (xx:xx:xx:xx:xx:xx)"⟩,
    ⟨"-v, --verbose", "Verbose debug output"⟩,
    ⟨"-t, --timeout FLOAT", "Maximum retransmission timeout in seconds"⟩,
    ⟨"-r, --retries INTEGER", "Transmissions per phase before giving up"⟩,
    ⟨"--json-output", "Output as JSON"⟩]
  switches :=
    [interfaceSwitch, macSwitch, verboseSwitch, timeoutSwitch, retriesSwitch, jsonSwitch]
  examine := examineObtain
  run := runObtain

end NetBoot.CommandLine
