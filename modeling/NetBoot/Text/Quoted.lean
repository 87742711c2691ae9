/-
# Quoted text

How a text or a byte string is written inside a message: between quotes, with a
backslash before the quote and the backslash, letters for tab, line feed and
carriage return, and hexadecimal escapes for whatever is not printable.  Single
quotes are used unless the text holds a single quote and no double quote.
-/
import NetBoot.Bytes
import NetBoot.Text.Printable

namespace NetBoot.Text.Quoted

/-- The single quote. -/
def singleQuote : Char := Char.ofNat 39

/-- The double quote. -/
def doubleQuote : Char := Char.ofNat 34

/-- The backslash. -/
def backslash : Char := Char.ofNat 92

/-- The quote to put around some characters. -/
def quoteFor (chars : List Char) : Char :=
  if chars.contains singleQuote && !chars.contains doubleQuote then doubleQuote else singleQuote

/-- The lowest `width` hexadecimal digits of a code point. -/
def hexCode (width code : Nat) : List Char :=
  (List.range width).map fun place => Bytes.hexDigit (code / Nat.pow 16 (width - 1 - place) % 16)

/-- A hexadecimal escape of the shortest of the three widths that fits. -/
def hexEscape (code : Nat) : List Char :=
  if code < 0x100 then backslash :: 'x' :: hexCode 2 code
  else if code < 0x10000 then backslash :: 'u' :: hexCode 4 code
  else backslash :: 'U' :: hexCode 8 code

/-- One character inside quotes; `shown` says which ones stand for themselves. -/
def escape (shown : Char → Bool) (quote char : Char) : List Char :=
  if char = quote ∨ char = backslash then [backslash, char]
  else if char = '\t' then [backslash, 't']
  else if char = '\n' then [backslash, 'n']
  else if char = '\r' then [backslash, 'r']
  else if shown char then [char]
  else hexEscape char.toNat

/-- Characters between quotes. -/
def quote (shown : Char → Bool) (chars : List Char) : List Char :=
  let mark := quoteFor chars
  mark :: chars.flatMap (escape shown mark) ++ [mark]

/-- A text in quotes. -/
def ofText (text : String) : String :=
  String.ofList (quote isPrintable text.toList)

/-- A byte string in quotes, marked by a leading `b`.  Only printable ASCII is
shown as itself. -/
def ofBytes (bytes : Bytes) : String :=
  let chars := bytes.map fun byte => Char.ofNat byte.toNat
  String.ofList ('b' :: quote (fun char => 0x20 ≤ char.toNat && char.toNat < 0x7f) chars)

end NetBoot.Text.Quoted
