/-
# Switches

The words of a command line as switches with their values, and as plain words.  A
switch has a long spelling and may have a short one.  The value of a long switch is
the next word, or stands behind an equals sign; the value of a short one is the
next word, or the rest of its own.  Short switches without values may share a word.
The word `--` ends the switches.
-/
import NetBoot.Text.Quoted
import NetBoot.Text.Similarity
import NetBoot.Text.Terminal

namespace NetBoot.CommandLine

/-- A switch that a command understands. -/
structure Switch where
  long : String
  short : Option Char := none
  takesValue : Bool := false
  deriving DecidableEq, Repr

/-- What is wrong with a command line. -/
inductive UsageError
  /-- A group of commands is given nothing at all, which asks for help. -/
  | nothing
  /-- No command is given. -/
  | noCommand
  | unknownCommand (name : String) (similar : List String)
  | unknownSwitch (name : String) (similar : List String)
  | valueMissing (name : String)
  | valueUnwanted (name : String)
  | switchMissing (hint : String)
  | argumentMissing (name : String)
  | extraWords (words : List String)
  /-- A switch or an argument has a value that cannot be used. -/
  | badValue (place reason : String)
  | noInterface
  deriving DecidableEq, Repr

namespace UsageError

/-- The words that a misspelled one may stand for. -/
def hint : List String → String
  | [] => ""
  | [single] => " Did you mean " ++ Text.Quoted.ofText single ++ "?"
  | several =>
    " (Did you mean one of: " ++ ", ".intercalate (several.map Text.Quoted.ofText) ++ "?)"

/-- What is said of a word that is not known. -/
def unknown (kind name : String) (similar : List String) : String :=
  "No such " ++ kind ++ " " ++ Text.Quoted.ofText name ++ "." ++ hint similar

/-- What is said of a command line; nothing is said to someone who needs help. -/
def message? : UsageError → Option String
  | nothing => none
  | noCommand => some "Missing command."
  | unknownCommand name similar => some (unknown "command" name similar)
  | unknownSwitch name similar => some (unknown "option" name similar)
  | valueMissing name => some ("Option " ++ Text.Quoted.ofText name ++ " requires an argument.")
  | valueUnwanted name =>
    some ("Option " ++ Text.Quoted.ofText name ++ " does not take a value.")
  | switchMissing hint => some ("Missing option " ++ hint ++ ".")
  | argumentMissing name => some ("Missing argument '" ++ name ++ "'.")
  | extraWords words =>
    some ("Got unexpected extra argument" ++ (if words.length = 1 then "" else "s") ++ " (" ++
      " ".intercalate words ++ ")")
  | badValue place reason => some ("Invalid value for " ++ place ++ ": " ++ reason)
  | noInterface => some "No interface given; use -i or set PXEDHCP_INTERFACE"

/-- What is written about a command line, without commands to a terminal. -/
def complaint? (error : UsageError) : Option String :=
  error.message?.map fun message => Text.withoutCommands ("Error: " ++ message)

end UsageError

/-- The short spelling of a switch as a word. -/
def shortWord (letter : Char) : String := String.ofList ['-', letter]

/-- How messages name a switch: all its spellings. -/
def Switch.hint (switch : Switch) : String :=
  let words := switch.long :: (switch.short.map shortWord).toList
  " / ".intercalate (words.map fun word => "'" ++ word ++ "'")

/-- A switch that was given, with its value; one that takes none has an empty value. -/
structure Given where
  switch : Switch
  value : String
  deriving DecidableEq, Repr

/-- What a command line says. -/
structure Reading where
  given : List Given := []
  words : List String := []
  deriving DecidableEq, Repr

namespace Reading

/-- Put switches before those that were read. -/
def addGiven (given : List Given) (reading : Reading) : Reading :=
  { reading with given := given ++ reading.given }

/-- Put a plain word before those that were read. -/
def addWord (word : String) (reading : Reading) : Reading :=
  { reading with words := word :: reading.words }

/-- Was a switch given? -/
def has (reading : Reading) (switch : Switch) : Bool :=
  reading.given.any fun given => given.switch = switch

/-- The value of a switch; the last one counts. -/
def value? (reading : Reading) (switch : Switch) : Option String :=
  (reading.given.reverse.find? fun given => given.switch = switch).map Given.value

end Reading

/-- Switches read from one word, and whether the next word was their value. -/
abbrev WordReading := Except UsageError (List Given × Bool)

/-- Read a switch that takes a value: the value is attached, or the next word. -/
def readValue (switch : Switch) (name : String) (attached next : Option String) : WordReading :=
  match attached, next with
  | some value, _ => .ok ([⟨switch, value⟩], false)
  | none, some value => .ok ([⟨switch, value⟩], true)
  | none, none => .error (.valueMissing name)

/-- Read the letters of a word of short switches. -/
def readLetters (switches : List Switch) (next : Option String) : List Char → WordReading
  | [] => .ok ([], false)
  | letter :: rest =>
    match switches.find? fun switch => switch.short = some letter with
    | none => .error (.unknownSwitch (shortWord letter) [])
    | some switch =>
      if switch.takesValue then
        readValue switch (shortWord letter)
          (if rest.isEmpty then none else some (String.ofList rest)) next
      else (readLetters switches next rest).map fun (given, took) =>
        (⟨switch, ""⟩ :: given, took)

/-- The name in a word and what stands behind an equals sign. -/
def cutValue (word : String) : String × Option String :=
  let chars := word.toList
  if chars.contains '=' then
    (String.ofList (chars.takeWhile (· ≠ '=')),
      some (String.ofList ((chars.dropWhile (· ≠ '=')).drop 1)))
  else (word, none)

/-- Read a word that starts with a dash.  A word that is no long spelling is taken
for short switches, unless it starts with two dashes. -/
def readSwitch (switches : List Switch) (word : String) (next : Option String) : WordReading :=
  let (name, attached) := cutValue word
  match switches.find? fun switch => switch.long = name with
  | some switch =>
    if switch.takesValue then readValue switch name attached next
    else if attached.isSome then .error (.valueUnwanted name)
    else .ok ([⟨switch, ""⟩], false)
  | none =>
    match word.toList with
    | '-' :: '-' :: _ =>
      .error (.unknownSwitch name (Text.suggestions name (switches.map Switch.long)))
    | _ :: letters => readLetters switches next letters
    | [] => .ok ([], false)

/-- Does a word stand for switches?  A single dash does not. -/
def isSwitchWord (word : String) : Bool :=
  match word.toList with
  | '-' :: _ :: _ => true
  | _ => false

/-- Read a command line.  Unless switches and words may be mixed, the first plain
word ends the switches. -/
def read (switches : List Switch) (mixed : Bool) : List String → Except UsageError Reading
  | [] => .ok {}
  | word :: rest =>
    if word = "--" then .ok { words := rest }
    else if isSwitchWord word then
      match readSwitch switches word rest.head?, rest with
      | .error cause, _ => .error cause
      | .ok (given, true), _ :: others => (read switches mixed others).map (·.addGiven given)
      | .ok (given, _), others => (read switches mixed others).map (·.addGiven given)
    else if mixed then (read switches mixed rest).map (·.addWord word)
    else .ok { words := word :: rest }

end NetBoot.CommandLine
