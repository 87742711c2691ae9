/-
# The program

The program has one group of commands.  Its own switches come before the group's
name and set the log up, which happens after the name of the group is known and
before the words behind it are read.
-/
import NetBoot.CommandLine.Obtain

namespace NetBoot.CommandLine

/-- The version of the program. -/
def version : String := "0.1.0"

def versionSwitch : Switch := { long := "--version" }

def debugSwitch : Switch := { long := "--debug" }

def logSwitch : Switch := { long := "--log-file", takesValue := true }

/-- A group of commands. -/
structure CommandGroup where
  /-- How the group is called, from the program on. -/
  path : String
  /-- What the commands are for, line by line. -/
  about : List String
  switches : List Switch := []
  /-- What the switches are for, as the help page has it. -/
  purposes : List HelpEntry := []
  /-- The names of the commands in alphabetical order, with what they do. -/
  commands : List HelpEntry

/-- The help page of a group. -/
def CommandGroup.helpPage (group : CommandGroup) : HelpPage where
  usage := group.path ++ " [OPTIONS] COMMAND [ARGS]..."
  about := group.about
  switches := group.purposes ++ [helpEntry]
  commands := group.commands

/-- The commands. -/
def commands : List Command := [decodeCommand, obtainCommand, packetCommand]

/-- The name of the group of commands. -/
def groupName : String := "dhcp"

/-- The group of commands. -/
def commandGroup : CommandGroup where
  path := Logger.program ++ " " ++ groupName
  about := [
    "DHCP client operations for network boot.",
    "",
    "Acquires an address and boot configuration the way network-boot firmware",
    "does, including ProxyDHCP replies.",
    "",
    "Examples:",
    "    # Obtain a lease with full debug output",
    "    pxedhcp dhcp obtain -v -i eth0",
    "",
    "    # Show the DHCPDISCOVER that would be sent     pxedhcp dhcp packet -m",
    "    52:54:00:12:34:56",
    "",
    "    # Decode a captured reply     pxedhcp dhcp decode offer.bin",
    "",
    "Note: obtain requires root privileges."]
  commands := commands.map Command.entry

/-- The program as a group with one command, which is the group above. -/
def programGroup : CommandGroup where
  path := Logger.program
  about := ["pxedhcp - DHCP client for network boot."]
  switches := [versionSwitch, debugSwitch, logSwitch]
  purposes := [
    ⟨"--version", "Show the version and exit."⟩,
    ⟨"--debug", "Enable debug logging"⟩,
    ⟨"--log-file FILE", "Also log to this file"⟩]
  commands := [⟨groupName, commandGroup.about.headD ""⟩]

/-- Answer questions about the program, in the order in which they are asked. -/
def answerQuestions (group : CommandGroup) (reading : Reading) : Run Unit := do
  match reading.given.find? fun given =>
      given.switch = helpSwitch || given.switch = versionSwitch with
  | none => pure ()
  | some given =>
    Run.echo (if given.switch = versionSwitch then group.path ++ ", version " ++ version
      else group.helpPage.text)
    throw .answered

/-- Read the switches of a group of commands and answer or examine them. -/
def readSwitches (group : CommandGroup) (words : List String) : Run Reading := do
  let reading ← Run.orElse (read (group.switches ++ [helpSwitch]) false words) Run.refuse
  answerQuestions group reading
  match reading.value? logSwitch with
  | some file => checkWritable logSwitch.hint file
  | none => pure ()
  pure reading

/-- Read the words of a group of commands: its switches, the name of what follows
and the words behind the name. -/
def readGroup (group : CommandGroup) (words : List String) :
    Run (Reading × String × List String) := do
  if words.isEmpty then Run.refuse .nothing
  let reading ← readSwitches group words
  match reading.words with
  | [] => Run.refuse .noCommand
  | name :: rest => pure (reading, name, rest)

/-- Refuse the name of a command that is none of the group's.  If it looks like a
switch, it is taken for one before that. -/
def refuseName (group : CommandGroup) (words : List String) : Run α := do
  let _ ← readSwitches group words
  let name := words.headD ""
  Run.refuse (.unknownCommand name (Text.suggestions name (group.commands.map HelpEntry.name)))

/-- Run a command of the group. -/
def runGroup (station : Station) (words : List String) : Run Unit := do
  let (_, name, rest) ← readGroup commandGroup words
  match commands.find? fun command => command.name = name with
  | some command => command.start (commandGroup.path ++ " " ++ name) station rest
  | none => refuseName commandGroup (name :: rest)

/-- Run the program. -/
def program (station : Station) (words : List String) : Run Unit := do
  let (reading, name, rest) ← readGroup programGroup words
  if name ≠ groupName then refuseName programGroup (name :: rest)
  let setup := Logger.commandSetup (reading.has debugSwitch)
    (station.environment.lookup "PXEDHCP_LOG_LEVEL") (reading.value? logSwitch)
  Run.withLogger (Logger.setUp setup) fun cause => Run.crash (.logging cause)
  runGroup station rest

/-- Run the program and say how it ended and what it did. -/
def perform (station : Station) (words : List String) : Except Ending Unit × Output :=
  (program station words).run.run { logger := { files := station.host.files } }

end NetBoot.CommandLine
