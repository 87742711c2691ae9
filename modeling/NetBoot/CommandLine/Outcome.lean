/-
# What commands do

A command runs at a station: an environment, a host, a network and a time.
It prints tables and lines for a reader, echoes plain text for other programs, sends
packets and writes a log.  Whatever it has done stays done when it ends early.
-/
import NetBoot.Client
import NetBoot.CommandLine.Switch
import NetBoot.Config.Environment
import NetBoot.Device.Host
import NetBoot.Display
import NetBoot.Log.Logger

namespace NetBoot.CommandLine

/-- Where a command runs. -/
structure Station where
  environment : Environment
  host : Host
  kernel : Udp.Kernel
  plan : List (Udp.Planned Float)
  moment : Moment

/-- Why a command broke off. -/
inductive Crash
  | logging (cause : LogError)
  | path (cause : PathError)
  | configuration (cause : Config.EnvironmentError)
  | building (cause : Request.Error)
  | obtaining (cause : ObtainError)
  | showing (cause : Packet.Error)
  deriving DecidableEq, Repr

/-- How a command ended before it was done. -/
inductive Ending
  /-- It answered a question about itself. -/
  | answered
  /-- The command line is wrong. -/
  | refused (cause : UsageError)
  /-- It said what is wrong. -/
  | failed
  /-- It broke off. -/
  | crashed (cause : Crash)
  deriving DecidableEq, Repr

/-- The exit code of a command. -/
def exitCode : Except Ending Unit → Nat
  | .ok _ => 0
  | .error .answered => 0
  | .error (.refused _) => 2
  | .error .failed => 1
  | .error (.crashed _) => 1

/-- What a command has done. -/
structure Output where
  printed : List Printed := []
  /-- The plain text. -/
  echoed : String := ""
  sent : List Bytes := []
  logger : Logger := {}

/-- A command or a part of one. -/
abbrev Run (α : Type) := ExceptT Ending (StateM Output) α

namespace Run

/-- Print something. -/
def print (item : Printed) : Run Unit :=
  modify fun output => { output with printed := output.printed ++ [item] }

/-- Print a line. -/
def say (markup : String) : Run Unit := print (.line markup)

/-- Echo a line of plain text. -/
def echo (text : String) : Run Unit :=
  modify fun output => { output with echoed := output.echoed ++ text ++ "\n" }

/-- End because the command line is wrong. -/
def refuse (cause : UsageError) : Run α := throw (.refused cause)

/-- Say what is wrong and end. -/
def fail (markup : String) : Run α := do
  say markup
  throw .failed

/-- Break off. -/
def crash (cause : Crash) : Run α := throw (.crashed cause)

/-- A value, or else the end that an error means. -/
def orElse (outcome : Except ε α) (onError : ε → Run α) : Run α :=
  match outcome with
  | .ok value => pure value
  | .error cause => onError cause

/-- Change the logger in a way that may fail. -/
def withLogger (change : Logger → Except ε Unit × Logger) (onError : ε → Run Unit) :
    Run Unit := do
  let (outcome, logger) := change (← get).logger
  modify fun output => { output with logger }
  orElse outcome onError

/-- The files as they are now. -/
def files : Run Files := return (← get).logger.files

/-- Log events at a moment. -/
def logEvents (events : List (LogEvent Float)) (moment : Moment) : Run Unit :=
  modify fun output => { output with logger := output.logger.logEvents events moment }

/-- The client's configuration. -/
def config (station : Station) : Run Config :=
  orElse (Config.ofEnvironment station.environment) fun cause => crash (.configuration cause)

/-- Show a packet. -/
def showPacket (packet : Packet) : Run Unit := do
  let tables ← orElse (Display.packetTables packet) fun cause => crash (.showing cause)
  tables.forM print

end Run

/-- Refuse a path. -/
def refusePath (place path fault : String) : Run α :=
  Run.refuse (.badValue place ("File " ++ Text.Quoted.ofText path ++ " " ++ fault ++ "."))

/-- What a path leads to, if it leads anywhere.  A folder is refused. -/
def findFile (place path : String) : Run (Option FilePath) := do
  match (← Run.files).find (Route.ofText path) with
  | .ok (_, .folder) => refusePath place path "is a directory"
  | .ok (found, .file) => pure (some found)
  | .error .nul => Run.crash (.path .nul)
  | .error (.system _) => pure none

/-- Examine the path of a file to be read. -/
def checkReadable (place path : String) : Run Unit := do
  if (← findFile place path).isNone then refusePath place path "does not exist"

/-- Examine the path of a file to be written. -/
def checkWritable (place path : String) : Run Unit := do
  let _ ← findFile place path

/-- Examine a number that a switch was given, if it was given. -/
def readNumber (read : String → Option α) (kind : String) (reading : Reading) (switch : Switch) :
    Run (Option α) :=
  match reading.value? switch with
  | none => pure none
  | some word =>
    match read word with
    | some value => pure (some value)
    | none =>
      Run.refuse (.badValue switch.hint
        (Text.Quoted.ofText word ++ " is not a valid " ++ kind ++ "."))

end NetBoot.CommandLine
