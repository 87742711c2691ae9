/-
# White space

The characters that count as white space around a field, and the removal of such
characters from both ends of a text; also texts filled up with blanks.  The set is
larger than the ASCII one: it holds the four ASCII information separators, the
next-line control and the Unicode space separators.
-/

namespace NetBoot.Text

/-- The code points of white space, as closed ranges. -/
def blankRanges : List (Nat × Nat) :=
  [(0x09, 0x0d), (0x1c, 0x20), (0x85, 0x85), (0xa0, 0xa0), (0x1680, 0x1680),
   (0x2000, 0x200a), (0x2028, 0x2029), (0x202f, 0x202f), (0x205f, 0x205f),
   (0x3000, 0x3000)]

/-- White space. -/
def isBlank (char : Char) : Bool :=
  blankRanges.any fun (first, last) => first ≤ char.toNat && char.toNat ≤ last

/-- Drop the characters of a class from both ends. -/
def stripWhile (drop : Char → Bool) (chars : List Char) : List Char :=
  ((chars.dropWhile drop).reverse.dropWhile drop).reverse

/-- Drop white space from both ends. -/
def strip (text : String) : String :=
  String.ofList (stripWhile isBlank text.toList)

/-- Drop the characters of a class from the end. -/
def stripEndWhile (drop : Char → Bool) (chars : List Char) : List Char :=
  (chars.reverse.dropWhile drop).reverse

/-- A text filled up with blanks on the right to a width. -/
def column (width : Nat) (text : String) : String :=
  text ++ String.ofList (List.replicate (width - text.length) ' ')

/-- The parts of a list of characters between the occurrences of a separator.
There is always one part more than there are separators. -/
def splitAt (separator : Char) : List Char → List (List Char)
  | [] => [[]]
  | char :: rest =>
    if char = separator then [] :: splitAt separator rest
    else match splitAt separator rest with
      | [] => [[char]]
      | part :: parts => (char :: part) :: parts

/-- What stands before and after the first occurrence of a separator. -/
def cutAt (separator : Char) (chars : List Char) : List Char × List Char :=
  (chars.takeWhile (· != separator), (chars.dropWhile (· != separator)).drop 1)

end NetBoot.Text
