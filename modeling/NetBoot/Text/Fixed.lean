/-
# Fixed-point text of a double

A double is a whole number times a power of two, so its decimal expansion can be
rounded exactly in whole numbers.  `Fixed.hundredths` rounds to the nearest
hundredth and sends a tie to the even neighbour.
-/

namespace NetBoot.Text.Fixed

/-- A finite double as sign, whole number and power of two. -/
structure Parts where
  negative : Bool
  mantissa : Nat
  exponent : Int

/-- The parts of a double; infinities and "not a number" have none. -/
def parts? (value : Float) : Option Parts :=
  let bits := value.toBits.toNat
  let negative := bits / Nat.pow 2 63 == 1
  let biased : Nat := bits / Nat.pow 2 52 % 2048
  let fraction := bits % Nat.pow 2 52
  if biased = 2047 then none
  else if biased = 0 then some ⟨negative, fraction, -1074⟩
  else some ⟨negative, fraction + Nat.pow 2 52, (biased : Int) - 1075⟩

/-- The whole number nearest to a quotient; a tie goes to the even one. -/
def roundQuotient (numerator denominator : Nat) : Nat :=
  let quotient := numerator / denominator
  let twice := 2 * (numerator % denominator)
  if twice < denominator then quotient
  else if twice > denominator then quotient + 1
  else quotient + quotient % 2

/-- The magnitude in hundredths. -/
def Parts.hundredths (parts : Parts) : Nat :=
  if parts.exponent < 0 then
    roundQuotient (parts.mantissa * 100) (Nat.pow 2 parts.exponent.natAbs)
  else parts.mantissa * Nat.pow 2 parts.exponent.natAbs * 100

/-- A number of hundredths with a point before its last two digits. -/
def ofHundredths (value : Nat) : String :=
  let cents := value % 100
  let padding := if cents < 10 then "0" else ""
  toString (value / 100) ++ "." ++ padding ++ toString cents

/-- The text of a double with two places after the point. -/
def hundredths (value : Float) : String :=
  match parts? value with
  | some parts => (if parts.negative then "-" else "") ++ ofHundredths parts.hundredths
  | none => if value.isNaN then "nan" else if value < 0.0 then "-inf" else "inf"

end NetBoot.Text.Fixed
