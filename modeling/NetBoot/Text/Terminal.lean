/-
# Terminal commands

Texts may hold commands to a terminal, such as a change of colour.  A command is an
escape character and an opening bracket, then parameters, then intermediate marks, and
one final character.  Where nobody watches, commands are dropped.  What begins like a
command and is none stays, and so does a command that only the dropping brings about.
-/

namespace NetBoot.Text

/-- The character that starts a command. -/
def escapeChar : Char := Char.ofNat 0x1b

/-- A character of the parameters of a command: a digit, a separator or a private mark. -/
def isParameter (char : Char) : Bool := '0' ≤ char && char ≤ '?'

/-- A mark between the parameters of a command and its end. -/
def isIntermediate (char : Char) : Bool := ' ' ≤ char && char ≤ '/'

/-- A character that ends a command: a letter, or one of the signs around the letters. -/
def endsCommand (char : Char) : Bool := '@' ≤ char && char ≤ '~'

/-- The length of the command at the start of some characters; zero if there is none. -/
def commandLength (chars : List Char) : Nat :=
  if [escapeChar, '['].isPrefixOf chars then
    let body := chars.drop 2
    let tail := body.dropWhile isParameter
    match tail.dropWhile isIntermediate with
    | final :: _ =>
      if endsCommand final then
        (body.takeWhile isParameter).length + (tail.takeWhile isIntermediate).length + 3
      else 0
    | [] => 0
  else 0

/-- The characters without the runs that `lengthOf` finds at their start; `skip`
characters of a run are still to be dropped. -/
def dropRuns (lengthOf : List Char → Nat) : (skip : Nat) → List Char → List Char
  | _, [] => []
  | skip + 1, _ :: rest => dropRuns lengthOf skip rest
  | 0, char :: rest =>
    match lengthOf (char :: rest) with
    | 0 => char :: dropRuns lengthOf 0 rest
    | length + 1 => dropRuns lengthOf length rest

/-- A text without commands. -/
def withoutCommands (text : String) : String :=
  String.ofList (dropRuns commandLength 0 text.toList)

end NetBoot.Text
