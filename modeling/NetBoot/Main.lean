/-
# The program on a real machine

Gathers what the machine says before the program runs: its environment, the files
that the command line may name, its network interfaces and the time.  Afterwards the
output is shown and changed files are written.  Sockets that broadcast are not to be
had here, so the kernel is one that refuses to make them, and getting a lease
reports that.
-/
import NetBoot.CommandLine.Console
import NetBoot.CommandLine.Program
import Std.Time.DateTime.Timestamp

namespace NetBoot.Machine

/-- The content of a file, if it can be read. -/
def readBytes? (path : String) : IO (Option Bytes) := do
  let .ok content ← (IO.FS.readBinFile path).toBaseIO | return none
  return some content.toList

/-- The text of a file, if it can be read. -/
def readText? (path : String) : IO (Option String) := do
  return (← readBytes? path).map Text.Utf8.decode

/-- The variables of the environment that have the given names. -/
def readVariables (names : List String) : IO Environment := do
  let found ← names.eraseDups.mapM fun name =>
    return (← IO.getEnv name).map fun value => (name, value)
  return found.reduceOption

/-- The environment, with the first file of variables that exists loaded. -/
def environment (home : String) : IO Environment := do
  let files ← [home ++ "/.pxedhcp/.env", home ++ "/.config/pxedhcp/.env", ".env"].mapM readText?
  let concerned := files.reduceOption.flatMap EnvFile.concerned
  match EnvFile.loadFirst (← readVariables (Config.variableNames ++ concerned)) files with
  | .ok (environment, _) => return environment
  | .error (.variable name _) => throw (IO.userError ("cannot set the variable " ++ name))

/-- The words that may name a file or an interface: each word of a command line, and
what stands behind an equals sign in it. -/
def namesIn (words : List String) : List String :=
  words.flatMap fun word => word :: (CommandLine.cutValue word).2.toList

/-- Where a path is on the machine. -/
def locate (home : String) (path : FilePath) : String :=
  let start := match path.root with
    | .home => home ++ "/"
    | .working => "./"
    | .top => "/"
  start ++ "/".intercalate path.parts

/-- Add what is at a path. -/
def loadPath (home : String) (files : Files) (path : FilePath) : IO Files := do
  match ← (IO.FS.readBinFile (locate home path)).toBaseIO with
  | .ok content => return files.write path content.toList
  | .error (.inappropriateType ..) => return { files with folders := path :: files.folders }
  | .error _ => return files

/-- The files that words may name, and the log files with their backups. -/
def filesOf (home : String) (words : List String) : IO Files := do
  let routes := .ofPlace Logger.usualFile :: (namesIn words).map Route.ofText
  let backups := routes.flatMap fun route =>
    (List.range 5).map fun number => route.place.extended ("." ++ toString (number + 1))
  (routes.flatMap Route.places ++ backups).eraseDups.foldlM (loadPath home) {}

/-- The files of a machine with those about interfaces that may be used. -/
def withInterfaces (interfaces : List String) (files : Files) : IO Files := do
  let routes := interfaces.eraseDups.flatMap fun interface =>
    ["type", "address", "device/vendor", "device/device"].map (({} : Host).fileRoute interface)
  (routes.flatMap Route.places).eraseDups.foldlM (loadPath "/") files

/-- What the machine says about interfaces that may be used. -/
def hostOf (interfaces : List String) (files : Files) : IO Host := do
  let host : Host := { files := ← withInterfaces interfaces files }
  let addresses := interfaces.filterMap fun interface =>
    (host.readText interface "address").toOption.bind LinkAddress.ofText?
  return { host with
    systemUuid := ← readText? "/sys/class/dmi/id/product_uuid", hardwareAnswer := addresses.head? }

/-- The answers of an operating system without sockets for broadcasts. -/
def kernel : Udp.Kernel where
  refusal := fun _ => some (.numbered 38 "Function not implemented")
  sendFailure := fun _ => none
  watchable := false

/-- The time of day, in the calendar that leases and logs use. -/
def moment : IO Moment := do
  let now ← Std.Time.Timestamp.now
  return (Moment.ofUnixSeconds? now.toSecondsSinceUnixEpoch.toInt).getD default

/-- The machine as a station for a command line. -/
def station (home : String) (words : List String) : IO CommandLine.Station := do
  let environment ← environment home
  let interfaces := namesIn words ++ (environment.lookup "PXEDHCP_INTERFACE").toList
  let host ← hostOf interfaces (← filesOf home words)
  return { environment, host, kernel, plan := [], moment := ← moment }

/-- Write the files that have changed. -/
def save (home : String) (before after : Files) : IO Unit := do
  for (path, content) in after.contents do
    if before.read? path ≠ some content then
      IO.FS.createDirAll (locate home path.above)
      IO.FS.writeBinFile (locate home path) ⟨content.toArray⟩

/-- Show what a command has done. -/
def present (ending : Except CommandLine.Ending Unit) (output : CommandLine.Output) : IO Unit := do
  for line in output.logger.console do IO.eprintln line
  for line in output.printed.flatMap Console.draw do IO.println line
  IO.print output.echoed
  match ending with
  | .error (.refused cause) => IO.eprintln (cause.complaint?.getD "see --help")
  | .error (.crashed _) => IO.eprintln "Error: the program broke off"
  | _ => pure ()

end NetBoot.Machine

open NetBoot in
/-- Run the program on a command line. -/
def main (words : List String) : IO UInt32 := do
  let home := (← IO.getEnv "HOME").getD "/"
  let station ← Machine.station home words
  let (ending, output) := CommandLine.perform station words
  Machine.save home station.host.files output.logger.files
  Machine.present ending output
  return (CommandLine.exitCode ending).toUInt32
