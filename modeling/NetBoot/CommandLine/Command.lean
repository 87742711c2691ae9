/-
# Commands

A command has switches, at most one argument, and a rule that examines each of them
before it runs.  Switches are examined in the order in which they were given, then
the argument, and then the switches that were not given.  A request for help is
answered before anything is examined, and words that are left over are noticed last.
-/
import NetBoot.CommandLine.Help
import NetBoot.CommandLine.Outcome

namespace NetBoot.CommandLine

/-- The switch that asks for help. -/
def helpSwitch : Switch := { long := "--help" }

/-- What is said of that switch. -/
def helpEntry : HelpEntry := ⟨helpSwitch.long, "Show this message and exit."⟩

/-- A command. -/
structure Command where
  name : String
  /-- What the command does, line by line; the first line is said of it in lists. -/
  about : List String
  /-- What the switches are for, as the help page has it. -/
  purposes : List HelpEntry
  switches : List Switch
  /-- What the argument is called, if there is one. -/
  argument : Option String := none
  /-- Examine a switch. -/
  examine : Station → Reading → Switch → Run Unit
  /-- Examine the argument. -/
  examineArgument : Station → String → Run Unit := fun _ _ => pure ()
  /-- Run the command; the text is the argument. -/
  run : Station → Reading → String → Run Unit

namespace Command

/-- The help page of a command. -/
def helpPage (path : String) (command : Command) : HelpPage where
  usage := path ++ " [OPTIONS]" ++ ((command.argument.map (" " ++ ·)).getD "")
  about := command.about
  switches := command.purposes ++ [helpEntry]

/-- What is said of a command in lists. -/
def entry (command : Command) : HelpEntry := ⟨command.name, command.about.headD ""⟩

/-- The switches of a command with the one for help. -/
def allSwitches (command : Command) : List Switch := command.switches ++ [helpSwitch]

/-- Examine the argument of a command that takes one. -/
def examineWords (command : Command) (station : Station) (reading : Reading) : Run Unit :=
  match command.argument, reading.words with
  | none, _ => pure ()
  | some name, [] => Run.refuse (.argumentMissing name)
  | some _, word :: _ => command.examineArgument station word

/-- The words that are left over. -/
def extraWords (command : Command) (reading : Reading) : List String :=
  if command.argument.isSome then reading.words.drop 1 else reading.words

/-- Examine a command line. -/
def examineAll (command : Command) (station : Station) (reading : Reading) : Run Unit := do
  let given := (reading.given.map Given.switch).eraseDups
  let others := command.switches.filter fun switch => !given.contains switch
  given.forM (command.examine station reading)
  command.examineWords station reading
  others.forM (command.examine station reading)
  match command.extraWords reading with
  | [] => pure ()
  | extra => Run.refuse (.extraWords extra)

/-- Read a command line and run the command. -/
def start (command : Command) (path : String) (station : Station) (words : List String) :
    Run Unit := do
  let reading ← Run.orElse (read command.allSwitches true words) Run.refuse
  if reading.has helpSwitch then
    Run.echo (command.helpPage path).text
    throw .answered
  command.examineAll station reading
  command.run station reading (reading.words.head?.getD "")

end Command
end NetBoot.CommandLine
