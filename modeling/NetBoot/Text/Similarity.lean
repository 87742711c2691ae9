/-
# Similar words

How alike two words are, and the words of a list that are most like a given one.
Two words are compared by blocks they share: the longest block first, then the
blocks on either side of it.  Words count as similar if the shared characters make
up at least three fifths of both words together.
-/

namespace NetBoot.Text

/-- The length of the longest common beginning. -/
def commonStart : List Char → List Char → Nat
  | first :: rest, other :: others => if first = other then commonStart rest others + 1 else 0
  | _, _ => 0

/-- A block that two words share: where it starts in each, and its length. -/
structure SharedBlock where
  left : Nat
  right : Nat
  length : Nat
  deriving DecidableEq, Repr

/-- The longer of two blocks; the first one if neither is longer. -/
def SharedBlock.longer (first second : SharedBlock) : SharedBlock :=
  if first.length < second.length then second else first

/-- The longest block that two words share, as early as possible in the left word
and then in the right one. -/
def longestShared (left right : List Char) : SharedBlock :=
  let starts := (List.range left.length).flatMap fun first =>
    (List.range right.length).map fun second =>
      ⟨first, second, commonStart (left.drop first) (right.drop second)⟩
  starts.foldl SharedBlock.longer ⟨0, 0, 0⟩

/-- How many characters two words share, in at most `depth` nested blocks. -/
def sharedWithin : (depth : Nat) → List Char → List Char → Nat
  | 0, _, _ => 0
  | depth + 1, left, right =>
    let block := longestShared left right
    if block.length = 0 then 0
    else
      sharedWithin depth (left.take block.left) (right.take block.right) + block.length +
        sharedWithin depth (left.drop (block.left + block.length))
          (right.drop (block.right + block.length))

/-- How many characters two words share. -/
def sharedCount (left right : List Char) : Nat := sharedWithin left.length left right

/-- How similar a candidate is to a word: shared characters out of all. -/
structure Likeness where
  candidate : String
  shared : Nat
  total : Nat
  deriving DecidableEq, Repr

namespace Likeness

/-- Compare a candidate with a word. -/
def of (word candidate : String) : Likeness :=
  ⟨candidate, sharedCount candidate.toList word.toList, candidate.length + word.length⟩

/-- Do the shared characters make up three fifths? -/
def isClose (likeness : Likeness) : Bool := 3 * likeness.total ≤ 10 * likeness.shared

/-- Can a candidate be close to a word?  They share no more characters than the
shorter of the two has. -/
def canBeClose (word candidate : String) : Bool :=
  isClose ⟨candidate, min candidate.length word.length, candidate.length + word.length⟩

/-- Is the first at least as similar?  Of equally similar ones the later in the
alphabet goes first. -/
def goesFirst (first second : Likeness) : Bool :=
  let left := first.shared * second.total
  let right := second.shared * first.total
  right < left || (left == right && second.candidate ≤ first.candidate)

end Likeness

/-- The most that are suggested. -/
def suggestionLimit : Nat := 3

/-- The candidates most similar to a word, in alphabetical order. -/
def suggestions (word : String) (candidates : List String) : List String :=
  let likely := candidates.filter (Likeness.canBeClose word)
  let close := (likely.map (Likeness.of word)).filter Likeness.isClose
  let best := (close.mergeSort Likeness.goesFirst).take suggestionLimit
  (best.map Likeness.candidate).mergeSort fun first second => first ≤ second

end NetBoot.Text
