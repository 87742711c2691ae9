/-
# Loggers

The program's logger: its threshold, and the console and files that it writes to.
Records of the program and of its parts go there.  A record that has nowhere to go
is still shown on the console, as nothing but its message, if it is a warning or
worse.

Setting the logger up again replaces its sinks.  The threshold is set first and the
file is opened last, so a failure leaves the logger changed as far as it came.
-/
import NetBoot.Files.Route
import NetBoot.Log.Event
import NetBoot.Log.Record
import NetBoot.Log.Rotation

namespace NetBoot

/-- Where records are written. -/
inductive LogSink
  | console
  | file (file : RotatedFile)
  deriving DecidableEq, Repr

/-- The least severity that a sink takes. -/
def LogSink.threshold : LogSink → Severity
  | console => .unset
  | file _ => .debug

/-- What a logger is told to be. -/
structure LogSetup where
  /-- The name of the threshold. -/
  level : String := "INFO"
  /-- The log file. -/
  file : Option String := none
  /-- The folder of the log file, if the file is not given. -/
  folder : Option String := none
  limit : Int := 10485760
  backups : Int := 5
  toConsole : Bool := true
  toFile : Bool := false
  deriving DecidableEq, Repr

/-- Why a logger could not be set up. -/
inductive LogError
  | severity (cause : SeverityError)
  | path (cause : PathError)
  deriving DecidableEq, Repr

/-- The program's logger, with the files it writes to and the entries it has shown
on the console. -/
structure Logger where
  threshold : Severity := .unset
  /-- Are records passed on to the loggers of other programs? -/
  passesOn : Bool := true
  sinks : List LogSink := []
  files : Files := {}
  console : List String := []
  deriving DecidableEq, Repr

namespace Logger

/-- The name of the program's logger. -/
def program : String := "pxedhcp"

/-- The name of the usual log file. -/
def fileName : String := program ++ ".log"

/-- The usual log file. -/
def usualFile : FilePath := ⟨.home, ["." ++ program, "logs", fileName]⟩

/-- A text, unless it is missing or empty. -/
def nonEmpty (text : Option String) : Option String := text.filter (· ≠ "")

/-- The path of the log file that a setup asks for: the file goes before the folder. -/
def chosenRoute (setup : LogSetup) : Route :=
  match nonEmpty setup.file, nonEmpty setup.folder with
  | some file, _ => (Route.ofText file).tidy
  | none, some folder => ((Route.ofText folder).join fileName).tidy
  | none, none => .ofPlace usualFile

/-- Open the log file that a setup asks for, in a folder that is made if need be. -/
def openFile (setup : LogSetup) (files : Files) : Except PathError LogSink × Files :=
  let route := chosenRoute setup
  match files.makeFolders route.parent with
  | (.error cause, made) => (.error cause, made)
  | (.ok _, made) =>
    match made.openToAppend route.place with
    | .error cause => (.error cause, made)
    | .ok opened => (.ok (.file ⟨route.place, setup.limit, setup.backups⟩), opened)

/-- Set the logger up. -/
def setUp (setup : LogSetup) (logger : Logger) : Except LogError Unit × Logger :=
  match Severity.named setup.level with
  | .error cause => (.error (.severity cause), logger)
  | .ok threshold =>
    let bare := { logger with
      threshold, sinks := if setup.toConsole then [.console] else [] }
    if setup.toFile then
      match openFile setup logger.files with
      | (.error cause, files) => (.error (.path cause), { bare with files })
      | (.ok sink, files) =>
        (.ok (), { bare with sinks := bare.sinks ++ [sink], files, passesOn := false })
    else (.ok (), { bare with passesOn := false })

/-- The threshold of a logger that leaves it to the default. -/
def usualThreshold : Severity := .warning

/-- The threshold that counts. -/
def effective (logger : Logger) : Severity :=
  if logger.threshold = .unset then usualThreshold else logger.threshold

/-- Lower the threshold to a named one, unless it is that low. -/
def lower (name : String) (logger : Logger) : Except SeverityError Unit × Logger :=
  match Severity.named name with
  | .error cause => (.error cause, logger)
  | .ok threshold =>
    (.ok (), if logger.effective.atMost threshold then logger else { logger with threshold })

/-- The setup of a command line: everything from debugging reports on, or from the
named threshold on, or else warnings. -/
def commandSetup (debug : Bool) (level : Option String) (file : Option String) : LogSetup :=
  { level := if debug then Severity.debug.name else level.getD usualThreshold.name
    file, toFile := file.isSome }

/-- Is a name that of the program or of one of its parts? -/
def isOwn (name : String) : Bool :=
  name == program || (program ++ ".").toList.isPrefixOf name.toList

/-- Do records of a name and a severity count? -/
def enabledFor (logger : Logger) (name : String) (severity : Severity) : Bool :=
  severity ≠ .unset &&
    (if isOwn name then logger.effective else usualThreshold).atMost severity

/-- Write a record to a sink. -/
def writeTo (sink : LogSink) (record : LogRecord) (logger : Logger) : Logger :=
  if sink.threshold.atMost record.severity then
    match sink with
    | .console => { logger with console := logger.console ++ [record.consoleEntry] }
    | .file file => { logger with files := file.write record.fileEntry logger.files }
  else logger

/-- Write a record wherever it goes. -/
def write (record : LogRecord) (logger : Logger) : Logger :=
  if isOwn record.name && !logger.sinks.isEmpty then
    logger.sinks.foldl (fun logger sink => logger.writeTo sink record) logger
  else if usualThreshold.atMost record.severity then
    { logger with console := logger.console ++ [record.message] }
  else logger

/-- Write a record if it counts, and say whether it did. -/
def log (record : LogRecord) (logger : Logger) : Bool × Logger :=
  if logger.enabledFor record.name record.severity then (true, logger.write record)
  else (false, logger)

/-- The record of an event at a moment. -/
def recordOf (event : LogEvent Float) (moment : Moment) : LogRecord :=
  { name := program ++ ".dhcp." ++ event.source.name, severity := event.level
    message := event.text Text.Fixed.hundredths, place := event.source.name, line := 0
    created := moment.unixSeconds }

/-- Log events that happened at a moment. -/
def logEvents (events : List (LogEvent Float)) (moment : Moment) (logger : Logger) : Logger :=
  events.foldl (fun logger event => (logger.log (recordOf event moment)).2) logger

end Logger
end NetBoot
