/-
# Log records

A record is a report with its circumstances.  It becomes one entry on the console
and one in a log file.  In a file the fields stand in columns, and the part of the
program that reports is named by the last part of the record's name, unless the
record says otherwise.
-/
import NetBoot.Calendar
import NetBoot.Log.Severity
import NetBoot.Text.Blank

namespace NetBoot

/-- A report with its circumstances. -/
structure LogRecord where
  name : String
  severity : Severity
  message : String
  /-- Where in the program the report was made. -/
  place : String := "f"
  line : Int := 1
  /-- When the record was made, in seconds since the start of 1970. -/
  created : Int
  /-- The part of the program, if it is not told by the name. -/
  subsystem : Option String := none
  deriving DecidableEq, Repr

namespace LogRecord

/-- What follows the last dot. -/
def lastPart (name : String) : String :=
  ((Text.splitAt '.' name.toList).map String.ofList).getLast?.getD ""

/-- When the record was made.  The year has only the digits that it needs. -/
def time (record : LogRecord) : String :=
  Moment.dateText 1 (record.created.fdiv 86400 + Moment.unixDay) ++ " " ++
    Moment.clockText (record.created.fmod 86400).toNat

/-- The record as an entry on the console. -/
def consoleEntry (record : LogRecord) : String :=
  record.time ++ " [" ++ record.severity.name ++ "] " ++ record.name ++ ": " ++ record.message

/-- The record as an entry in a file. -/
def fileEntry (record : LogRecord) : String :=
  " | ".intercalate
    [record.time, Text.column 8 record.severity.name,
     Text.column 10 (record.subsystem.getD (lastPart record.name)), Text.column 20 record.place,
     Text.column 4 (toString record.line), record.message]

end LogRecord
end NetBoot
