/-
# Integer texts

The grammar of an integer: white space, an optional sign, digits with single
underscores allowed between them, white space.  With a base of zero the digits
may carry a base mark (`0x`, `0o`, `0b`), and without one a number other than
zero must not begin with a zero.
-/
import NetBoot.Text.Blank
import NetBoot.Text.Digit

namespace NetBoot.Text

/-- White space that may surround a number.  In ASCII this is narrower than
`isBlank`: the information separators are not part of it. -/
def isNumberBlank (char : Char) : Bool :=
  if char.toNat < 127 then char.toNat == 32 || (9 ≤ char.toNat && char.toNat ≤ 13)
  else isBlank char

/-- Write the digits of every script as ASCII digits. -/
def plainDigit (char : Char) : Char :=
  match decimalValue? char with
  | some value => Char.ofNat (48 + value)
  | none => char

/-- The text of a number without its surrounding white space, in ASCII digits. -/
def numberChars (text : String) : List Char :=
  (stripWhile isNumberBlank text.toList).map plainDigit

/-- Take an optional sign off; the flag says whether it was a minus. -/
def takeSign : List Char → Bool × List Char
  | '-' :: rest => (true, rest)
  | '+' :: rest => (false, rest)
  | chars => (false, chars)

/-- The digits of a non-empty run in which each underscore stands between two
digits.  The flag says whether a digit was the last thing read. -/
def digitRun? (base : Nat) : (afterDigit : Bool) → List Char → Option (List Nat)
  | afterDigit, [] => if afterDigit then some [] else none
  | afterDigit, char :: rest =>
    if char = '_' then
      if afterDigit then digitRun? base false rest else none
    else do
      let value ← digitValue? base char
      let values ← digitRun? base true rest
      pure (value :: values)

/-- The number that digits write in a base. -/
def valueOfDigits (base : Nat) (digits : List Nat) : Nat :=
  digits.foldl (fun value digit => value * base + digit) 0

/-- Decimal numbers of more digits than this are refused. -/
def decimalDigitLimit : Nat := 4300

/-- An unsigned decimal number. -/
def decimalNat? (chars : List Char) : Option Nat := do
  let digits ← digitRun? 10 false chars
  if digits.length ≤ decimalDigitLimit then pure (valueOfDigits 10 digits) else none

/-- The base that a base mark announces. -/
def markedBase? : Char → Option Nat
  | 'x' => some 16
  | 'X' => some 16
  | 'o' => some 8
  | 'O' => some 8
  | 'b' => some 2
  | 'B' => some 2
  | _ => none

/-- Digits after a base mark; one underscore may stand right behind the mark. -/
def markedNat? (base : Nat) : List Char → Option Nat
  | '_' :: rest => (digitRun? base false rest).map (valueOfDigits base)
  | chars => (digitRun? base false chars).map (valueOfDigits base)

/-- An unsigned number in the base that its base mark announces, or ten.  A
leading zero without a mark is allowed in zero only. -/
def anyBaseNat? : List Char → Option Nat
  | '0' :: mark :: rest =>
    match markedBase? mark with
    | some base => markedNat? base rest
    | none => do
      let value ← decimalNat? ('0' :: mark :: rest)
      if value = 0 then pure 0 else none
  | chars => decimalNat? chars

/-- An unsigned hexadecimal number with an optional base mark. -/
def hexNat? : List Char → Option Nat
  | '0' :: mark :: rest =>
    if markedBase? mark = some 16 then markedNat? 16 rest
    else (digitRun? 16 false ('0' :: mark :: rest)).map (valueOfDigits 16)
  | chars => (digitRun? 16 false chars).map (valueOfDigits 16)

/-- Read a signed number with a given reader for what follows the sign. -/
def signed? (unsigned? : List Char → Option Nat) (text : String) : Option Int :=
  let (negative, rest) := takeSign (numberChars text)
  (unsigned? rest).map fun value => if negative then -(value : Int) else value

/-- Read a decimal integer. -/
def integer? (text : String) : Option Int := signed? decimalNat? text

/-- Read an integer whose base is shown by its base mark. -/
def anyBaseInteger? (text : String) : Option Int := signed? anyBaseNat? text

/-- Read a hexadecimal integer. -/
def hexInteger? (text : String) : Option Int := signed? hexNat? text

end NetBoot.Text
