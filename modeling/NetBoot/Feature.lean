/-
# Features

The client tells the server what it can do: a list of feature codes, each with a
version of a few bytes.  The list has a text form, names with an optional version
number between commas, in any letter case and with white space around each part.
-/
import NetBoot.Bytes
import NetBoot.Text.Integer
import NetBoot.Text.Quoted
import NetBoot.Text.Upper

namespace NetBoot

/-- A feature with its version. -/
structure Feature where
  code : Int
  version : Bytes := [1]
  deriving DecidableEq, Repr

namespace Feature

/-- The codes of the named features. -/
def codes : List (String × Nat) :=
  [("PXE_EXT", 0x10), ("ISCSI", 0x11), ("AOE", 0x12), ("HTTP", 0x13), ("HTTPS", 0x14),
   ("TFTP", 0x15), ("FTP", 0x16), ("DNS", 0x17), ("BZIMAGE", 0x18), ("MULTIBOOT", 0x19),
   ("SLAM", 0x1a), ("SRP", 0x1b), ("NBI", 0x20), ("PXE", 0x21), ("ELF", 0x22),
   ("COMBOOT", 0x23), ("EFI", 0x24)]

/-- What a client offers unless it is told otherwise. -/
def usual : List Feature :=
  [⟨0x10, [2]⟩, ⟨0x15, [1]⟩, ⟨0x17, [1]⟩, ⟨0x13, [1]⟩]

/-- Why a feature list could not be read. -/
inductive ParseError
  /-- There is no feature of this name. -/
  | unknown (name : String)
  /-- A version is no number or does not fit into a byte. -/
  | version
  deriving DecidableEq, Repr

/-- What is said of a text that is no feature list, where the library itself
refuses it. -/
def ParseError.message : ParseError → Option String
  | unknown name => some ("unknown feature: " ++ Text.Quoted.ofText name)
  | version => none

/-- The code of a feature name in any letter case. -/
def codeOf? (name : String) : Option Nat :=
  (Text.asciiUpper? (Text.strip name)).bind fun upper => List.lookup upper codes

/-- The version byte of a version text; no text means one. -/
def versionByte? (text : List Char) : Option UInt8 :=
  if text.isEmpty then some 1 else (Text.integer? (String.ofList text)).bind Bytes.byte?

/-- Read one feature. -/
def ofItem (item : List Char) : Except ParseError Feature :=
  let (name, version) := Text.cutAt ':' item
  match codeOf? (String.ofList name) with
  | none => .error (.unknown (String.ofList name))
  | some code =>
    match versionByte? version with
    | none => .error .version
    | some byte => .ok ⟨code, [byte]⟩

/-- The parts of a feature list that are not blank. -/
def itemsOf (text : String) : List (List Char) :=
  ((Text.splitAt ',' text.toList).map (Text.stripWhile Text.isBlank)).filter (!·.isEmpty)

/-- Read a feature list. -/
def parse (text : String) : Except ParseError (List Feature) :=
  (itemsOf text).mapM ofItem

/-- One feature on the wire: its code, the length of its version, its version. -/
def encode? (feature : Feature) : Option Bytes := do
  let code ← Bytes.byte? feature.code
  let length ← Bytes.byte? feature.version.length
  pure (code :: length :: feature.version)

/-- A feature list on the wire. -/
def encodeAll? (features : List Feature) : Option Bytes :=
  (features.mapM encode?).map List.flatten

end Feature
end NetBoot
