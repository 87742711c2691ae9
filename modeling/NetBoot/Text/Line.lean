/-
# Lines

The lines of a text.  A line ends at a line feed, a carriage return or both
together, and at the rarer line and page separators.  The end of the text ends its
last line, and a text that ends with a separator has no further line after it.
-/

namespace NetBoot.Text

/-- Characters that end a line. -/
def isLineEnd (char : Char) : Bool :=
  let code := char.toNat
  (0x0a ≤ code && code ≤ 0x0d) || (0x1c ≤ code && code ≤ 0x1e) || code == 0x85 ||
    code == 0x2028 || code == 0x2029

/-- Write a carriage return, also one before a line feed, as a line feed. -/
def plainLines : List Char → List Char
  | '\r' :: '\n' :: rest => '\n' :: plainLines rest
  | char :: rest => (if char = '\r' then '\n' else char) :: plainLines rest
  | [] => []

/-- The lines of characters that follow the characters of an open line, which are
given in reverse. -/
def linesFrom (begun : List Char) : List Char → List (List Char)
  | [] => if begun.isEmpty then [] else [begun.reverse]
  | char :: rest =>
    if isLineEnd char then begun.reverse :: linesFrom [] rest
    else linesFrom (char :: begun) rest

/-- The lines of a text. -/
def lines (text : String) : List String :=
  (linesFrom [] (plainLines text.toList)).map String.ofList

end NetBoot.Text
