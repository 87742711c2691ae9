/-
# Upper case of names

Names of features and of log levels are ASCII words that may be written in any
case.  `asciiUpper?` upper-cases a text when the result is ASCII: beside the ASCII
letters some letters and ligatures have ASCII capitals.  Any other character makes
the upper-cased text something that no ASCII name equals.
-/

namespace NetBoot.Text

/-- Characters outside ASCII whose upper-case form is ASCII. -/
def asciiCapitals : List (Nat × String) :=
  [(0xdf, "SS"), (0x131, "I"), (0x17f, "S"), (0xfb00, "FF"), (0xfb01, "FI"), (0xfb02, "FL"),
   (0xfb03, "FFI"), (0xfb04, "FFL"), (0xfb05, "ST"), (0xfb06, "ST")]

/-- The upper-case form of a character, if it is ASCII. -/
def asciiCapital? (char : Char) : Option (List Char) :=
  if char.toNat < 128 then some [char.toUpper]
  else (asciiCapitals.lookup char.toNat).map String.toList

/-- The upper-case form of a text, if it is ASCII. -/
def asciiUpper? (text : String) : Option String :=
  (text.toList.mapM asciiCapital?).map fun parts => String.ofList parts.flatten

end NetBoot.Text
