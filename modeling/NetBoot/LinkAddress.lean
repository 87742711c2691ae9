/-
# Link-layer addresses

A link-layer address is a byte string whose length depends on the kind of link.
It is written as hexadecimal bytes between colons; when it is read, colons and
dashes are dropped wherever they stand.
-/
import NetBoot.Bytes
import NetBoot.Text.Quoted

namespace NetBoot.LinkAddress

/-- The text of a link-layer address. -/
def toText (address : Bytes) : String :=
  Bytes.toColonHex address

/-- A character that separates the bytes of an address. -/
def isSeparator (char : Char) : Bool :=
  char == ':' || char == '-'

/-- Read the text of a link-layer address. -/
def ofText? (text : String) : Option Bytes :=
  Bytes.ofHexDigits? (text.toList.filter fun char => !isSeparator char)

/-- What is said of a text that is no link-layer address. -/
def invalidMessage (text : String) : String :=
  "invalid hardware address: " ++ Text.Quoted.ofText text

end NetBoot.LinkAddress
