/-
# Severities

How serious a report is.  Severities are numbered in steps of ten and are chosen by
name, in any case and with two older names beside the usual ones.  No severity at
all is a threshold like the others, but no report has it.
-/
import NetBoot.Text.Upper

namespace NetBoot

/-- How serious a report is, or how serious it must be to count. -/
inductive Severity
  | unset | debug | info | warning | error | critical
  deriving DecidableEq, Repr

/-- Why a name chooses no severity. -/
inductive SeverityError
  /-- There is nothing of this name. -/
  | unknown
  /-- The name belongs to a text: the usual format of lines. -/
  | isFormat
  /-- The name belongs to a table: the styles of formats. -/
  | isTable
  deriving DecidableEq, Repr

namespace Severity

/-- The number of a severity. -/
def number : Severity → Nat
  | unset => 0
  | debug => 10
  | info => 20
  | warning => 30
  | error => 40
  | critical => 50

/-- The name of a severity. -/
def name : Severity → String
  | unset => "NOTSET"
  | debug => "DEBUG"
  | info => "INFO"
  | warning => "WARNING"
  | error => "ERROR"
  | critical => "CRITICAL"

/-- The names that choose a severity. -/
def names : List (String × Severity) :=
  ([unset, debug, info, warning, error, critical].map fun severity => (severity.name, severity)) ++
    [("WARN", warning), ("FATAL", critical)]

/-- The severity of exactly this name. -/
def ofName? (name : String) : Option Severity := names.lookup name

/-- The severity that a name chooses, in any case. -/
def named (name : String) : Except SeverityError Severity :=
  match Text.asciiUpper? name with
  | none => .error .unknown
  | some upper =>
    match ofName? upper with
    | some severity => .ok severity
    | none => .error <|
      if upper = "BASIC_FORMAT" then .isFormat
      else if upper = "_STYLES" then .isTable
      else .unknown

/-- Is the second severity at least as serious? -/
def atMost (severity other : Severity) : Bool := severity.number ≤ other.number

end Severity
end NetBoot
