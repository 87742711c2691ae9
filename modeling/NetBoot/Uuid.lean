/-
# Universally unique identifiers

Sixteen bytes, written as 32 hexadecimal digits in groups of 8, 4, 4, 4 and 12.
Reading is generous about the decoration around the digits: the marks `urn:` and
`uuid:`, braces at the ends and dashes anywhere are dropped, and what is left has
to be 32 characters that write one hexadecimal number.
-/
import NetBoot.Bytes
import NetBoot.Text.Integer

namespace NetBoot

/-- A 128-bit identifier. -/
structure Uuid where
  bytes : Bytes
  deriving DecidableEq, Repr

namespace Uuid

/-- The identifier that exactly sixteen bytes hold. -/
def ofBytes? (bytes : Bytes) : Option Uuid :=
  if bytes.length = 16 then some ⟨bytes⟩ else none

/-- Text in five groups. -/
def toText (uuid : Uuid) : String :=
  "-".intercalate <| [(0, 4), (4, 2), (6, 2), (8, 2), (10, 6)].map fun (start, count) =>
    Bytes.toHex ((uuid.bytes.drop start).take count)

/-- Remove every occurrence of a mark, from left to right. -/
def dropMark (mark : List Char) : (skip : Nat) → List Char → List Char
  | _, [] => []
  | 0, char :: rest =>
    if mark.isPrefixOf (char :: rest) then dropMark mark (mark.length - 1) rest
    else char :: dropMark mark 0 rest
  | skip + 1, _ :: rest => dropMark mark skip rest

/-- A brace, which may stand around the text of an identifier. -/
def isBrace (char : Char) : Bool :=
  char.toNat == 0x7b || char.toNat == 0x7d

/-- The characters of an identifier without its decoration. -/
def plainChars (text : String) : List Char :=
  let unmarked := dropMark "uuid:".toList 0 (dropMark "urn:".toList 0 text.toList)
  (Text.stripWhile isBrace unmarked).filter (· != '-')

/-- Read the text of an identifier. -/
def ofText? (text : String) : Option Uuid := do
  let chars := plainChars text
  if chars.length ≠ 32 then none
  else
    let value ← Text.hexInteger? (String.ofList chars)
    let bytes ← Bytes.word? 16 value
    pure ⟨bytes⟩

end Uuid
end NetBoot
