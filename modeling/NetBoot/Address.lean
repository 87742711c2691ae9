/-
# IPv4 addresses

An address is four bytes.  Its text is four decimal octets between dots, without
leading zeros.  `ofBytes?` and `ofText?` refuse everything else, and
`ofInteger?` takes the number that the four bytes write.  Where an address may be
given in any of these forms, `ofForm?` reads it.
-/
import NetBoot.Bytes
import NetBoot.Text.Blank

namespace NetBoot

/-- An IPv4 address, most significant octet first. -/
structure Address where
  first : UInt8
  second : UInt8
  third : UInt8
  fourth : UInt8
  deriving DecidableEq, Repr, Inhabited

namespace Address

/-- The four bytes of an address. -/
def toBytes (address : Address) : Bytes :=
  [address.first, address.second, address.third, address.fourth]

/-- The address that exactly four bytes hold. -/
def ofBytes? : Bytes → Option Address
  | [first, second, third, fourth] => some ⟨first, second, third, fourth⟩
  | _ => none

/-- Dotted decimal text. -/
def toText (address : Address) : String :=
  ".".intercalate (address.toBytes.map fun octet => toString octet.toNat)

/-- The address with all bits zero. -/
def unspecified : Address := ⟨0, 0, 0, 0⟩

/-- One octet: one to three ASCII digits, no leading zero, at most 255. -/
def octet? (chars : List Char) : Option UInt8 :=
  if chars.isEmpty || chars.length > 3 || !chars.all Char.isDigit then none
  else if chars.head? = some '0' ∧ chars.length > 1 then none
  else
    let value := chars.foldl (fun value char => value * 10 + (char.toNat - 48)) 0
    if value < 256 then some (UInt8.ofNat value) else none

/-- Read dotted decimal text. -/
def ofText? (text : String) : Option Address := do
  let octets ← (Text.splitAt '.' text.toList).mapM octet?
  ofBytes? octets

/-- The address that an integer below `2 ^ 32` writes. -/
def ofInteger? (value : Int) : Option Address := do
  let bytes ← Bytes.word? 4 value
  ofBytes? bytes

/-- The forms in which an address may be given. -/
inductive Form
  | text (text : String)
  | number (value : Int)
  | octets (bytes : Bytes)
  deriving DecidableEq, Repr

/-- The address that is given, if it is one. -/
def ofForm? : Form → Option Address
  | .text text => ofText? text
  | .number value => ofInteger? value
  | .octets bytes => ofBytes? bytes

/-- The addresses of all complete groups of four bytes; an incomplete group at
the end is dropped. -/
def groups : Bytes → List Address
  | first :: second :: third :: fourth :: rest => ⟨first, second, third, fourth⟩ :: groups rest
  | _ => []

/-- The address that four bytes in a row hold. -/
def ofBytesAt? (bytes : Bytes) (position : Nat) : Option Address :=
  ofBytes? ((bytes.drop position).take 4)

/-- The addresses in a byte string, each one read from a window of four bytes. -/
def windows? (bytes : Bytes) : Option (List Address) :=
  (List.range' 0 (bytes.length / 4) 4).mapM fun position => ofBytesAt? bytes position

end Address
end NetBoot
