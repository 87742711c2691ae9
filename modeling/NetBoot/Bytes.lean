/-
# Byte strings

A byte string is a list of octets.  This module holds the operations that every
wire format here is built from: runs of zeros, big-endian words, hexadecimal
text, and the two range operations `slice` and `splice`.

A position in a byte string is an integer.  A negative position counts from the
end, and a position outside the string means the nearer end, so `slice` and
`splice` are total.  A splice may change the length of the string: bytes written
past the end are appended.
-/

namespace NetBoot

/-- A byte string. -/
abbrev Bytes := List UInt8

namespace Bytes

/-- `count` zero bytes. -/
def zeros (count : Nat) : Bytes :=
  List.replicate count 0

/-- Why there is no byte string of a size. -/
inductive SizeError
  /-- The size is below zero. -/
  | negative
  /-- No machine word can index so many bytes. -/
  | unindexable
  /-- No machine has memory for so many bytes. -/
  | noMemory
  deriving DecidableEq, Repr

/-- No index of a machine word reaches this far, in either direction. -/
def indexLimit : Int := Nat.pow 2 63

/-- No machine has memory for byte strings of this size. -/
def memoryLimit : Int := Nat.pow 2 36

/-- A zeroed byte string of a size, if there can be one. -/
def ofSize (size : Int) : Except SizeError Bytes :=
  if size < -indexLimit ∨ indexLimit ≤ size then .error .unindexable
  else if size < 0 then .error .negative
  else if memoryLimit ≤ size then .error .noMemory
  else .ok (zeros size.toNat)

/-- The index in `0..length` that a position stands for. -/
def place (length : Nat) (position : Int) : Nat :=
  if position < 0 then (position + length).toNat else min position.toNat length

/-- The bytes from `start` up to but not including `stop`. -/
def slice (bytes : Bytes) (start stop : Int) : Bytes :=
  let first := place bytes.length start
  (bytes.drop first).take (place bytes.length stop - first)

/-- Put `replacement` where the bytes from `start` up to `stop` were.  An empty
or reversed range is an insertion at its start. -/
def splice (bytes : Bytes) (start stop : Int) (replacement : Bytes) : Bytes :=
  let first := place bytes.length start
  let last := max first (place bytes.length stop)
  bytes.take first ++ replacement ++ bytes.drop last

/-- Fill up with zero bytes on the right to at least `width` bytes. -/
def padRight (width : Nat) (bytes : Bytes) : Bytes :=
  bytes ++ zeros (width - bytes.length)

/-- Fill up with zero bytes on the left to at least `width` bytes. -/
def padLeft (width : Nat) (bytes : Bytes) : Bytes :=
  zeros (width - bytes.length) ++ bytes

/-- Drop the zero bytes at the end. -/
def trimZeros (bytes : Bytes) : Bytes :=
  (bytes.reverse.dropWhile (· == 0)).reverse

/-- The number that the bytes write in base 256, most significant byte first. -/
def toNat (bytes : Bytes) : Nat :=
  bytes.foldl (fun value byte => value * 256 + byte.toNat) 0

/-- The `width` low-order base-256 digits of a number, most significant first. -/
def ofNat : (width : Nat) → (value : Nat) → Bytes
  | 0, _ => []
  | width + 1, value => ofNat width (value / 256) ++ [UInt8.ofNat (value % 256)]

/-- A number as a big-endian word of `width` bytes, if it fits. -/
def word? (width : Nat) (value : Int) : Option Bytes :=
  if 0 ≤ value ∧ value < Nat.pow 256 width then some (ofNat width value.toNat) else none

/-- One byte, if the number is one. -/
def byte? (value : Int) : Option UInt8 :=
  if 0 ≤ value ∧ value < 256 then some (UInt8.ofNat value.toNat) else none

/-- The lower-case hexadecimal digit of a number below sixteen. -/
def hexDigit (value : Nat) : Char :=
  if value < 10 then Char.ofNat (48 + value) else Char.ofNat (87 + value)

/-- The value of a hexadecimal digit of either case. -/
def hexValue? (digit : Char) : Option Nat :=
  let code := digit.toNat
  if 48 ≤ code ∧ code ≤ 57 then some (code - 48)
  else if 97 ≤ code ∧ code ≤ 102 then some (code - 87)
  else if 65 ≤ code ∧ code ≤ 70 then some (code - 55)
  else none

/-- The two hexadecimal digits of a byte. -/
def hexPair (byte : UInt8) : List Char :=
  [hexDigit (byte.toNat / 16), hexDigit (byte.toNat % 16)]

/-- Hexadecimal digits, two for each byte. -/
def hexDigits (bytes : Bytes) : List Char :=
  bytes.flatMap hexPair

/-- Hexadecimal text, two digits for each byte. -/
def toHex (bytes : Bytes) : String :=
  String.ofList (hexDigits bytes)

/-- Hexadecimal text with a colon between bytes. -/
def toColonHex (bytes : Bytes) : String :=
  ":".intercalate (bytes.map fun byte => String.ofList (hexPair byte))

/-- White space that may stand between the bytes of hexadecimal text. -/
def isGap (char : Char) : Bool :=
  char.toNat == 32 || (9 ≤ char.toNat && char.toNat ≤ 13)

/-- Read hexadecimal text: pairs of digits, with white space allowed before,
between and after pairs but never inside one. -/
def ofHexDigits? : List Char → Option Bytes
  | [] => some []
  | [single] => if isGap single then some [] else none
  | high :: low :: rest =>
    if isGap high then ofHexDigits? (low :: rest)
    else do
      let upper ← hexValue? high
      let lower ← hexValue? low
      let bytes ← ofHexDigits? rest
      pure (UInt8.ofNat (upper * 16 + lower) :: bytes)

/-- Read hexadecimal text. -/
def ofHex? (text : String) : Option Bytes :=
  ofHexDigits? text.toList

end Bytes
end NetBoot
