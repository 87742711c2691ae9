/-
# Files of environment variables

A file of environment variables holds one assignment a line: an optional `export`,
a name, which may stand in single quotes, and behind an equals sign a value.  A
value in quotes may run over several lines and has escapes; a bare value ends at
the end of its line or at a comment, which needs white space before it.  A line that
is none of this is skipped, and so is a byte order mark at the start of the file.

Values may refer to variables as `${NAME}` or `${NAME:-default}`.  A
variable of the environment goes before one that was assigned earlier in the file.

Loading a file fails if it has to set a variable that no environment can hold.
-/
import NetBoot.Text.Blank
import NetBoot.Text.Line

namespace NetBoot

/-- Environment variables by name. -/
abbrev Environment := List (String × String)

namespace EnvFile

/-- White space that does not end a line. -/
def isInlineBlank (char : Char) : Bool :=
  Text.isBlank char && char != '\n'

/-- A quote around a value or a name. -/
def singleQuote : Char := Char.ofNat 39

/-- The other quote around a value. -/
def doubleQuote : Char := Char.ofNat 34

/-- The character that starts an escape. -/
def backslash : Char := Char.ofNat 92

/-- The text before the quote that ends a quoted value, and what follows the quote.
A backslash takes the next character with it, whatever that is. -/
def untilQuote? (quote : Char) : List Char → Option (List Char × List Char)
  | [] => none
  | [last] => if last = quote then some ([], []) else none
  | char :: next :: rest =>
    if char = quote then some ([], next :: rest)
    else if char = backslash then
      (untilQuote? quote rest).map fun (value, tail) => (char :: next :: value, tail)
    else (untilQuote? quote (next :: rest)).map fun (value, tail) => (char :: value, tail)

/-- The character that an escape in double quotes stands for. -/
def doubleEscape? (char : Char) : Option Char :=
  if char = backslash ∨ char = singleQuote ∨ char = doubleQuote then some char
  else match char with
    | 'a' => some (Char.ofNat 7)
    | 'b' => some (Char.ofNat 8)
    | 'f' => some (Char.ofNat 12)
    | 'n' => some '\n'
    | 'r' => some '\r'
    | 't' => some '\t'
    | 'v' => some (Char.ofNat 11)
    | _ => none

/-- The character that an escape in single quotes stands for. -/
def singleEscape? (char : Char) : Option Char :=
  if char = backslash ∨ char = singleQuote then some char else none

/-- Replace escapes; a backslash that starts none is kept. -/
def unescape (escape? : Char → Option Char) : List Char → List Char
  | [] => []
  | [last] => [last]
  | char :: next :: rest =>
    if char = backslash then
      match escape? next with
      | some meant => meant :: unescape escape? rest
      | none => char :: unescape escape? (next :: rest)
    else char :: unescape escape? (next :: rest)

/-- Does a comment start here: white space and then a number sign? -/
def startsComment (chars : List Char) : Bool :=
  (chars.head?.map Text.isBlank).getD false && (chars.dropWhile Text.isBlank).head? == some '#'

/-- A bare value without the comment that may follow it. -/
def dropComment : List Char → List Char
  | [] => []
  | char :: rest => if startsComment (char :: rest) then [] else char :: dropComment rest

/-- A bare value at the start of some characters, which white space may precede, and
what follows it. -/
def bareValue (chars : List Char) : List Char × List Char :=
  let line := dropComment (chars.takeWhile (· != '\n'))
  (Text.stripWhile Text.isBlank line, chars.dropWhile (· != '\n'))

/-- The value behind an equals sign, and what follows it. -/
def value? (chars : List Char) : Option (List Char × List Char) :=
  match chars.dropWhile isInlineBlank with
  | [] => some ([], [])
  | first :: rest =>
    if first = singleQuote then
      (untilQuote? singleQuote rest).map fun (value, tail) => (unescape singleEscape? value, tail)
    else if first = doubleQuote then
      (untilQuote? doubleQuote rest).map fun (value, tail) => (unescape doubleEscape? value, tail)
    else some (bareValue chars)

/-- A character of a bare name. -/
def isNameChar (char : Char) : Bool :=
  char != '=' && char != '#' && !Text.isBlank char

/-- The name at the start of a line, and what follows it.  There is no name in
front of a comment. -/
def name? (chars : List Char) : Option (Option (List Char) × List Char) :=
  match chars with
  | [] => none
  | first :: rest =>
    if first = '#' then some (none, chars)
    else if first = singleQuote then
      let name := rest.takeWhile (· != singleQuote)
      match rest.dropWhile (· != singleQuote) with
      | _ :: tail => if name.isEmpty then none else some (some name, tail)
      | [] => none
    else
      let name := chars.takeWhile isNameChar
      if name.isEmpty then none else some (some name, chars.dropWhile isNameChar)

/-- Drop an `export` that stands before a name. -/
def dropExport (chars : List Char) : List Char :=
  let word := "export".toList
  if word.isPrefixOf chars then
    let tail := chars.drop word.length
    if (tail.head?.map isInlineBlank).getD false then tail.dropWhile isInlineBlank else chars
  else chars

/-- What follows a comment and the end of the line, if nothing else is left on it. -/
def endLine? (chars : List Char) : Option (List Char) :=
  let spaced := chars.dropWhile isInlineBlank
  let tail := if spaced.head? = some '#' then spaced.dropWhile (· != '\n') else spaced
  match tail with
  | [] => some []
  | char :: rest => if char = '\n' then some rest else none

/-- What follows the end of the line. -/
def skipLine (chars : List Char) : List Char :=
  (chars.dropWhile (· != '\n')).drop 1

/-- An assignment; a name without an equals sign has no value. -/
structure Assignment where
  name : String
  value : Option String
  deriving DecidableEq, Repr

/-- Read one line: what it assigns, if anything, and what follows it. -/
def line (chars : List Char) : Option Assignment × List Char :=
  let start := chars.dropWhile Text.isBlank
  if start.isEmpty then (none, [])
  else
    let body := dropExport start
    match name? body with
    | none => (none, skipLine body)
    | some (name, afterName) =>
      match afterName.dropWhile isInlineBlank with
      | '=' :: behind =>
        match value? behind with
        | none => (none, skipLine behind)
        | some (value, tail) => finish name (some value) tail
      | tail => finish name none tail
where
  /-- End the line behind an assignment. -/
  finish (name : Option (List Char)) (value : Option (List Char)) (tail : List Char) :
      Option Assignment × List Char :=
    match endLine? tail with
    | some rest => (name.map fun name => ⟨String.ofList name, value.map String.ofList⟩, rest)
    | none => (none, skipLine tail)

/-- The assignments of the lines, reading at most `lines` of them. -/
def assignmentsWithin : (lines : Nat) → List Char → List Assignment
  | 0, _ => []
  | lines + 1, chars =>
    if chars.isEmpty then []
    else
      let (found, rest) := line chars
      found.toList ++ assignmentsWithin lines rest

/-- The byte order mark. -/
def orderMark : Char := Char.ofNat 0xfeff

/-- The characters without a byte order mark before them. -/
def withoutMark (chars : List Char) : List Char :=
  if chars.head? = some orderMark then chars.drop 1 else chars

/-- The assignments of a file in order.  Each line has at least one character, so
there are no more lines than characters. -/
def assignments (text : String) : List Assignment :=
  let chars := Text.plainLines (withoutMark text.toList)
  assignmentsWithin chars.length chars

/-- The opening mark of a reference to a variable. -/
def openMark : List Char := ['$', Char.ofNat 0x7b]

/-- The closing mark of a reference to a variable. -/
def closeMark : Char := Char.ofNat 0x7d

/-- A reference to a variable at the start of a text: its name, its default and
what follows it. -/
def reference? (chars : List Char) : Option (List Char × Option (List Char) × List Char) :=
  if openMark.isPrefixOf chars then
    let body := chars.drop openMark.length
    let name := body.takeWhile fun char => char != closeMark && char != ':'
    match body.dropWhile fun char => char != closeMark && char != ':' with
    | [] => none
    | ':' :: '-' :: rest =>
      match rest.dropWhile (· != closeMark) with
      | [] => none
      | _ :: tail => some (name, some (rest.takeWhile (· != closeMark)), tail)
    | mark :: tail => if mark = closeMark then some (name, none, tail) else none
  else none

/-- The names of the variables that a text refers to. -/
def referencesIn : List Char → List String
  | [] => []
  | char :: rest =>
    match reference? (char :: rest) with
    | some (name, _) => String.ofList name :: referencesIn rest
    | none => referencesIn rest

/-- The names of all variables of an environment that a file depends on: those that
it assigns, and those that its values refer to. -/
def concerned (text : String) : List String :=
  (assignments text).flatMap fun assignment =>
    assignment.name :: referencesIn (assignment.value.getD "").toList

/-- Replace the references in a text, of which there are at most `count`
characters left. -/
def expandWithin (lookup : String → Option String) : (count : Nat) → List Char → List Char
  | 0, _ => []
  | _, [] => []
  | count + 1, char :: rest =>
    match reference? (char :: rest) with
    | some (name, fallback, tail) =>
      let meant := match lookup (String.ofList name) with
        | some value => value.toList
        | none => fallback.getD []
      meant ++ expandWithin lookup count tail
    | none => char :: expandWithin lookup count rest

/-- Replace the references in a value. -/
def expand (lookup : String → Option String) (value : String) : String :=
  String.ofList (expandWithin lookup value.length value.toList)

/-- The values that a file assigns, with references replaced, one after the other.
A name without a value counts as assigned, but refers to nothing. -/
def resolve (environment : Environment) (found : List Assignment) :
    List (String × Option String) :=
  found.foldl (fun resolved assignment =>
    let lookup := fun name =>
      match environment.lookup name with
      | some value => some value
      | none => (resolved.reverse.lookup name).map fun value => value.getD ""
    resolved ++ [(assignment.name, assignment.value.map (expand lookup))]) []

/-- Why a file cannot be loaded. -/
inductive LoadError
  /-- No environment holds a variable of this name or value. -/
  | variable (name value : String)
  deriving DecidableEq, Repr

/-- The character that ends a text for the operating system. -/
def endMark : Char := Char.ofNat 0

/-- Can an environment hold a variable? -/
def isSettable (name value : String) : Bool :=
  !name.toList.contains '=' && !name.toList.contains endMark && !value.toList.contains endMark

/-- The variables that a file sets, in the order of their first assignments.
Variables that are set already keep their values, and of several assignments the
last one counts. -/
def newVariables (environment : Environment) (text : String) : Environment :=
  let resolved := resolve environment (assignments text)
  let latest := resolved.reverse
  ((resolved.map Prod.fst).eraseDups.filter fun name => (environment.lookup name).isNone).filterMap
    fun name => (latest.lookup name).join.map fun value => (name, value)

/-- The environment after a file has been loaded. -/
def load (environment : Environment) (text : String) : Except LoadError Environment :=
  let fresh := newVariables environment text
  match fresh.find? fun (name, value) => !isSettable name value with
  | some (name, value) => .error (.variable name value)
  | none => .ok (environment ++ fresh)

/-- Load the first file that exists and say which one that was. -/
def loadFirst (environment : Environment) (files : List (Option String)) :
    Except LoadError (Environment × Option Nat) :=
  match (files.zipIdx).findSome? fun (file, index) => file.map fun text => (text, index) with
  | some (text, index) => (load environment text).map fun loaded => (loaded, some index)
  | none => .ok (environment, none)

end EnvFile
end NetBoot
