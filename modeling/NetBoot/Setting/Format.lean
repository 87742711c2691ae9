/-
# Setting values as text

A setting is a named view of one option with a rule for showing its value.  The
rules read only the bytes they need: an address the first four, a number the
first one, two or four, an identifier the first sixteen.  A value that is too
short for an address or an identifier cannot be shown; a number that is too short
is filled up with zeros on the left.
-/
import NetBoot.Address
import NetBoot.Options.Tag
import NetBoot.Text.Quoted
import NetBoot.Text.Utf8
import NetBoot.Uuid

namespace NetBoot

/-- The rules for showing a value. -/
inductive ValueFormat
  | address | addresses | text | number (width : Nat) | hex | uuid
  deriving DecidableEq, Repr

namespace ValueFormat

/-- The rule that a name stands for. -/
def ofName? (name : String) : Option ValueFormat :=
  match name with
  | "ipv4" => some address
  | "ipv4_list" => some addresses
  | "string" => some text
  | "uint8" => some (number 1)
  | "uint16" => some (number 2)
  | "uint32" => some (number 4)
  | "hex" => some hex
  | "uuid" => some uuid
  | _ => none

end ValueFormat

/-- A named, typed view of an option. -/
structure Setting where
  name : String
  tag : Tag
  format : String
  description : String
  deriving DecidableEq, Repr

namespace Setting

/-- Why a value cannot be shown. -/
inductive ShowError
  /-- There is no rule of this name. -/
  | unknownFormat (name : String)
  /-- An address needs four bytes. -/
  | shortAddress (bytes : Bytes)
  /-- An identifier needs sixteen bytes. -/
  | shortUuid
  deriving DecidableEq, Repr

/-- What is said of a value that cannot be shown. -/
def ShowError.message : ShowError → String
  | unknownFormat name => Text.Quoted.ofText name
  | shortAddress bytes =>
    Text.Quoted.ofBytes bytes ++ " (len " ++ toString bytes.length ++
      " != 4) is not permitted as an IPv4 address"
  | shortUuid => "bytes is not a 16-char string"

/-- The text of a zero-terminated name: the bytes as lenient text without the
zeros at the end. -/
def nameText (data : Bytes) : String :=
  String.ofList (Text.stripEndWhile (· == Char.ofNat 0) (Text.Utf8.chars data))

/-- The bytes of an identifier, which a type byte may precede. -/
def uuidBytes (data : Bytes) : Bytes :=
  (if data.length = 17 then data.drop 1 else data).take 16

/-- Show a value by a rule. -/
def showValue (format : ValueFormat) (data : Bytes) : Except ShowError String :=
  match format with
  | .address =>
    match Address.ofBytes? (data.take 4) with
    | some address => .ok address.toText
    | none => .error (.shortAddress (data.take 4))
  | .addresses => .ok (", ".intercalate ((Address.groups data).map Address.toText))
  | .text => .ok (nameText data)
  | .number width => .ok (toString (Bytes.toNat (Bytes.padLeft width (data.take width))))
  | .hex => .ok (Bytes.toColonHex data)
  | .uuid =>
    match Uuid.ofBytes? (uuidBytes data) with
    | some uuid => .ok uuid.toText
    | none => .error .shortUuid

/-- Show a value of a setting. -/
def showData (setting : Setting) (data : Bytes) : Except ShowError String :=
  match ValueFormat.ofName? setting.format with
  | some format => showValue format data
  | none => .error (.unknownFormat setting.format)

end Setting
end NetBoot
