/-
# Texts of real numbers

The grammar of a decimal fraction with an optional exponent, and of the words for
infinity and for "not a number".  The value is the double nearest to the decimal.
The exponent may be far outside the range of doubles; it is compared with the
range before any power of ten is computed, so reading stays cheap.
-/
import NetBoot.Text.Integer

namespace NetBoot.Text

/-- Is the character an ASCII digit? -/
def isDigit (char : Char) : Bool :=
  48 ≤ char.toNat && char.toNat ≤ 57

/-- Remove underscores, each of which must stand between two digits. -/
def dropUnderscores? : (afterDigit : Bool) → List Char → Option (List Char)
  | _, [] => some []
  | afterDigit, char :: rest =>
    if char = '_' then
      if afterDigit && (rest.head?.map isDigit).getD false then dropUnderscores? false rest
      else none
    else (dropUnderscores? (isDigit char) rest).map (char :: ·)

/-- A decimal before it is rounded: `digits * 10 ^ exponent`. -/
structure Decimal where
  digits : Nat
  exponent : Int
  deriving Repr, DecidableEq

/-- The nearest double.  Decimals at or above `10 ^ 310` are infinite and those
below `10 ^ (-330)` are zero whatever their digits. -/
def Decimal.toFloat (decimal : Decimal) : Float :=
  let size : Int := (Nat.toDigits 10 decimal.digits).length + decimal.exponent
  if decimal.digits = 0 then 0.0
  else if size > 311 then 1.0 / 0.0
  else if size < -330 then 0.0
  else Float.ofScientific decimal.digits (decimal.exponent < 0) decimal.exponent.natAbs

/-- The digits at the start of a text and what follows them. -/
def spanDigits (chars : List Char) : List Char × List Char :=
  (chars.takeWhile isDigit, chars.dropWhile isDigit)

/-- The value of a run of ASCII digits. -/
def natOfDigits (chars : List Char) : Nat :=
  chars.foldl (fun value char => value * 10 + (char.toNat - 48)) 0

/-- The exponent part of a decimal, which may be missing. -/
def exponent? : List Char → Option Int
  | [] => some 0
  | mark :: rest =>
    if mark = 'e' ∨ mark = 'E' then
      let (negative, digits) := takeSign rest
      if digits.isEmpty || !digits.all isDigit then none
      else
        let value := natOfDigits digits
        some (if negative then -(value : Int) else value)
    else none

/-- An unsigned decimal: digits with at most one point, of which there is at
least one digit, and an optional exponent. -/
def decimal? (chars : List Char) : Option Decimal :=
  let (whole, afterWhole) := spanDigits chars
  let (fraction, tail) := match afterWhole with
    | '.' :: rest => spanDigits rest
    | rest => ([], rest)
  if whole.isEmpty && fraction.isEmpty then none
  else (exponent? tail).map fun exponent =>
    { digits := natOfDigits (whole ++ fraction), exponent := exponent - fraction.length }

/-- Lower-case the ASCII letters. -/
def lowerLetters (chars : List Char) : List Char :=
  chars.map fun char =>
    if 65 ≤ char.toNat ∧ char.toNat ≤ 90 then Char.ofNat (char.toNat + 32) else char

/-- An unsigned real number or one of the words for a special value. -/
def unsignedReal? (chars : List Char) : Option Float :=
  let word := String.ofList (lowerLetters chars)
  if word = "inf" ∨ word = "infinity" then some (1.0 / 0.0)
  else if word = "nan" then some (0.0 / 0.0)
  else (decimal? chars).map Decimal.toFloat

/-- Read a real number. -/
def real? (text : String) : Option Float := do
  let chars ← dropUnderscores? false (numberChars text)
  let (negative, rest) := takeSign chars
  let value ← unsignedReal? rest
  pure (if negative then -value else value)

end NetBoot.Text
