/-
# The option block format

An option block is a sequence of items: a padding byte, or a tag byte, a length
byte and that many bytes of value.  It ends at an end byte, where the bytes run
out, or at an item that is cut short.  A value longer than 255 bytes is written
as several items of one tag, and reading joins the values of a repeated tag.
-/
import NetBoot.Options.Map

namespace NetBoot.OptionBlock

/-- The padding byte. -/
def padByte : UInt8 := 0

/-- The byte that ends a block. -/
def endByte : UInt8 := 255

/-- The tag and value of every complete item, in order of occurrence. -/
def items : Bytes → List (UInt8 × Bytes)
  | [] => []
  | tag :: rest =>
    if tag = padByte then items rest
    else if tag = endByte then []
    else match rest with
      | [] => []
      | length :: body =>
        if body.length < length.toNat then []
        else (tag, body.take length.toNat) :: items (body.drop length.toNat)
termination_by bytes => bytes.length
decreasing_by
  all_goals simp only [List.length_cons, List.length_drop]
  all_goals omega

/-- Join the values of equal tags, keeping the order of first appearance. -/
def collect (found : List (UInt8 × Bytes)) : OptionMap :=
  found.foldl (fun options item => OptionMap.extend (item.1.toNat : Int) item.2 options) []

/-- Read an option block. -/
def decode (bytes : Bytes) : OptionMap :=
  collect (items bytes)

/-- The most bytes that one item can hold. -/
def chunkLimit : Nat := 255

/-- Cut a value into pieces that fit into one item each.  An empty value is one
empty piece. -/
def chunks (value : Bytes) : List Bytes :=
  if value.length ≤ chunkLimit then [value]
  else value.take chunkLimit :: chunks (value.drop chunkLimit)
termination_by value.length
decreasing_by
  simp only [List.length_drop, chunkLimit] at *
  omega

/-- One item. -/
def item (tag : UInt8) (value : Bytes) : Bytes :=
  tag :: UInt8.ofNat value.length :: value

/-- The items that carry the value of one tag.  There are none if the tag is no
byte. -/
def entryBytes? (tag : Tag) (value : Bytes) : Option Bytes :=
  (Bytes.byte? tag).map fun byte => (chunks value).flatMap (item byte)

/-- The items of all options without an end byte, if every tag is a byte. -/
def body? (options : OptionMap) : Option Bytes :=
  (options.mapM fun entry => entryBytes? entry.1 entry.2).map List.flatten

/-- The items of all options followed by an end byte. -/
def encode? (options : OptionMap) : Option Bytes :=
  (body? options).map (· ++ [endByte])

end NetBoot.OptionBlock
