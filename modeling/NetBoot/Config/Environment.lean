/-
# Configuration from the environment

The client's configuration is read from environment variables.  Variables that are
not set leave the usual values, and the first variable that cannot be read makes
the whole configuration fail.
-/
import NetBoot.Config.Basic
import NetBoot.Config.EnvFile
import NetBoot.Text.Real

namespace NetBoot.Config

/-- Why the environment gives no configuration. -/
inductive EnvironmentError
  /-- A variable does not hold a number. -/
  | number
  /-- The feature list cannot be read. -/
  | features (cause : Feature.ParseError)
  deriving DecidableEq, Repr

/-- What is said of an environment, where the library itself refuses it. -/
def EnvironmentError.message : EnvironmentError → Option String
  | number => none
  | features cause => cause.message

/-- The variables that belong to the program. -/
def variableNames : List String :=
  ["INTERFACE", "MAC", "VENDOR_CLASS", "CLIENT_ARCH", "FEATURES", "MIN_TIMEOUT", "MAX_TIMEOUT",
   "MAX_ATTEMPTS", "LOG_LEVEL"].map ("PXEDHCP_" ++ ·)

/-- A text, unless it is empty. -/
def nonEmpty (text : Option String) : Option String :=
  text.filter (· ≠ "")

/-- Read a variable with a given reader; a variable that is not set has the usual
value. -/
def readOr (read : String → Option α) (text : Option String) (usual : α) :
    Except EnvironmentError α :=
  match text with
  | none => .ok usual
  | some text =>
    match read text with
    | some value => .ok value
    | none => .error .number

/-- Read the feature list; an empty one leaves the usual features. -/
def featuresOf (text : Option String) : Except EnvironmentError (List Feature) :=
  match nonEmpty text with
  | none => .ok Feature.usual
  | some text =>
    match Feature.parse text with
    | .ok features => .ok features
    | .error cause => .error (.features cause)

/-- The configuration that environment variables describe. -/
def ofEnvironment (environment : Environment) : Except EnvironmentError Config := do
  let usual : Config := {}
  let setting := fun name => environment.lookup ("PXEDHCP_" ++ name)
  let architecture ← readOr Text.integer? (setting "CLIENT_ARCH") usual.template.clientArchitecture
  let features ← featuresOf (setting "FEATURES")
  let minTimeout ← readOr Text.real? (setting "MIN_TIMEOUT") usual.retry.minTimeout
  let maxTimeout ← readOr Text.real? (setting "MAX_TIMEOUT") usual.retry.maxTimeout
  let maxAttempts ← readOr Text.integer? (setting "MAX_ATTEMPTS") usual.retry.maxAttempts
  let vendorClass := (setting "VENDOR_CLASS").getD usual.template.vendorClass
  pure {
    interface := nonEmpty (setting "INTERFACE")
    macAddress := nonEmpty (setting "MAC")
    template := { usual.template with
      vendorClass, clientArchitecture := architecture, features }
    retry := { minTimeout, maxTimeout, maxAttempts } }

end NetBoot.Config
