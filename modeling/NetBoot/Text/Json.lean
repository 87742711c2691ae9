/-
# JSON texts

JSON values without fractions, and the two ways they are written: on one line, or
with every member on a line of its own, indented by its depth.  Only printable
ASCII is written as itself; everything else in a text is escaped in UTF-16 units.
-/
import NetBoot.Text.Quoted

namespace NetBoot

/-- A JSON value. -/
inductive JsonValue
  | null
  | boolean (value : Bool)
  | integer (value : Int)
  | text (value : String)
  | array (items : List JsonValue)
  | object (members : List (String × JsonValue))

namespace JsonValue

/-- An escape of one UTF-16 unit. -/
def unitEscape (unit : Nat) : List Char :=
  Text.Quoted.backslash :: 'u' :: Text.Quoted.hexCode 4 unit

/-- One character of a text. -/
def escape (char : Char) : List Char :=
  let code := char.toNat
  if char = Text.Quoted.doubleQuote ∨ char = Text.Quoted.backslash then
    [Text.Quoted.backslash, char]
  else if char = '\n' then [Text.Quoted.backslash, 'n']
  else if char = '\r' then [Text.Quoted.backslash, 'r']
  else if char = '\t' then [Text.Quoted.backslash, 't']
  else if code = 8 then [Text.Quoted.backslash, 'b']
  else if code = 12 then [Text.Quoted.backslash, 'f']
  else if 32 ≤ code ∧ code < 127 then [char]
  else if code < 0x10000 then unitEscape code
  else
    unitEscape (0xd800 + (code - 0x10000) / 0x400) ++ unitEscape (0xdc00 + (code - 0x10000) % 0x400)

/-- A text in quotes. -/
def quoted (text : String) : String :=
  String.ofList
    (Text.Quoted.doubleQuote :: text.toList.flatMap escape ++ [Text.Quoted.doubleQuote])

/-- An optional text. -/
def ofText (value : Option String) : JsonValue :=
  (value.map text).getD null

/-- An optional number. -/
def ofInteger (value : Option Int) : JsonValue :=
  (value.map integer).getD null

/-- Where the members of a value are put. -/
inductive Layout
  /-- All on one line. -/
  | line
  /-- Each on a line of its own, indented by two for each level. -/
  | block
  deriving DecidableEq

/-- What separates two members at a depth. -/
def Layout.separator (layout : Layout) (depth : Nat) : String :=
  match layout with
  | .line => ", "
  | .block => ",\n" ++ String.ofList (List.replicate (2 * depth) ' ')

/-- What stands between a bracket and a member at a depth. -/
def Layout.gap (layout : Layout) (depth : Nat) : String :=
  match layout with
  | .line => ""
  | .block => "\n" ++ String.ofList (List.replicate (2 * depth) ' ')

/-- Members between brackets at a depth. -/
def Layout.enclose (layout : Layout) (depth : Nat) (opening closing : String)
    (members : List String) : String :=
  if members.isEmpty then opening ++ closing
  else
    opening ++ layout.gap (depth + 1) ++ (layout.separator (depth + 1)).intercalate members ++
      layout.gap depth ++ closing

mutual

/-- A value at a depth. -/
def render (layout : Layout) (depth : Nat) : JsonValue → String
  | null => "null"
  | boolean value => if value then "true" else "false"
  | integer value => toString value
  | text value => quoted value
  | array items => layout.enclose depth "[" "]" (renderItems layout depth items)
  | object members => layout.enclose depth "\x7b" "\x7d" (renderMembers layout depth members)

/-- The items of an array at a depth. -/
def renderItems (layout : Layout) (depth : Nat) : List JsonValue → List String
  | [] => []
  | item :: rest => render layout (depth + 1) item :: renderItems layout depth rest

/-- The members of an object at a depth. -/
def renderMembers (layout : Layout) (depth : Nat) : List (String × JsonValue) → List String
  | [] => []
  | (name, value) :: rest =>
    (quoted name ++ ": " ++ render layout (depth + 1) value) :: renderMembers layout depth rest

end

/-- A value on one line. -/
def compact (value : JsonValue) : String := render .line 0 value

/-- A value over several lines. -/
def pretty (value : JsonValue) : String := render .block 0 value

end JsonValue
end NetBoot
