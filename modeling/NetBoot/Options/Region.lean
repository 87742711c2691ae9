/-
# Options in a region of a buffer

An option region keeps a map of options and its encoded form in step: the map is
what reading answers, and every store writes the whole encoded block, ended by an
end byte, into the region.  Bytes that a shorter block no longer uses are zeroed.

A store fails on the two tags that frame a block, on a tag that no block can hold,
and when the encoded block is larger than the region; then it changes nothing.  A
region that claims to use more bytes than any memory holds is the exception: the
block is written, but what it no longer uses cannot be zeroed, and the store
counts as failed.
-/
import NetBoot.Options.Codec

namespace NetBoot

/-- An option block inside a buffer. -/
structure OptionRegion where
  /-- The whole buffer. -/
  buffer : Bytes
  /-- Where the region starts. -/
  offset : Int
  /-- The size of the region. -/
  capacity : Int
  /-- How much of the region is in use. -/
  used : Int
  /-- The options that the region holds. -/
  options : OptionMap
  deriving DecidableEq, Repr

namespace OptionRegion

/-- Why an option could not be stored. -/
inductive StoreError
  /-- The tag frames option blocks. -/
  | framing (tag : Tag)
  /-- The tag does not fit into a byte. -/
  | tagRange
  /-- The encoded block is larger than the region. -/
  | noSpace (tag : Tag) (needed : Nat) (available : Int)
  /-- The block was written, but the bytes it no longer uses cannot be zeroed. -/
  | notCleared (cause : Bytes.SizeError) (written : OptionRegion)
  deriving DecidableEq, Repr

/-- What is said of a failed store, where the library itself refuses it. -/
def StoreError.message : StoreError → Option String
  | framing tag => some ("cannot store option " ++ tag.name)
  | tagRange => none
  | notCleared .. => none
  | noSpace tag needed available =>
    some ("storing option " ++ tag.name ++ " needs " ++ toString needed ++ " bytes, " ++
      toString available ++ " available")

/-- The region of a buffer that starts at `offset`, with the options it holds.
The capacity defaults to the rest of the buffer and the used length to the
capacity. -/
def ofBuffer (buffer : Bytes) (offset : Int) (capacity used : Option Int) : OptionRegion :=
  let size := capacity.getD (buffer.length - offset)
  let length := used.getD size
  { buffer, offset, capacity := size, used := length,
    options := OptionBlock.decode (buffer.slice offset (offset + length)) }

/-- The value of an option, which may be one inside another option. -/
def fetch (region : OptionRegion) (tag : Tag) : Option Bytes :=
  if tag.outer ≠ 0 then do
    let block ← region.options.get? tag.outer
    (OptionBlock.decode block).get? tag.inner
  else region.options.get? tag

/-- Is the option present? -/
def contains (region : OptionRegion) (tag : Tag) : Bool :=
  (region.fetch tag).isSome

/-- The value of a carrying option after one of the options inside it has been
set or removed.  When nothing is left inside, there is no carrying option. -/
def updateInner? (block : Bytes) (tag : Int) (value : Option Bytes) : Option (Option Bytes) :=
  let inside := (OptionBlock.decode block).update tag value
  if inside.isEmpty then some none else (OptionBlock.body? inside).map some

/-- The option map after one option has been set or removed. -/
def updated? (options : OptionMap) (tag : Tag) (value : Option Bytes) : Option OptionMap :=
  if tag.outer ≠ 0 then do
    let block ← updateInner? ((options.get? tag.outer).getD []) tag.inner value
    pure (options.update tag.outer block)
  else some (options.update tag value)

/-- Write an encoded block into the region and zero what it no longer uses. -/
def write (region : OptionRegion) (options : OptionMap) (encoded : Bytes) :
    Except StoreError OptionRegion :=
  let finish := region.offset + encoded.length
  let written := region.buffer.splice region.offset finish encoded
  let stale := region.used - encoded.length
  let after := fun buffer => { region with buffer, used := encoded.length, options }
  if stale > 0 then
    match Bytes.ofSize stale with
    | .ok zeros => .ok (after (written.splice finish (region.offset + region.used) zeros))
    | .error cause => .error (.notCleared cause { region with buffer := written })
  else .ok (after written)

/-- Set the value of an option, or remove the option when there is no value. -/
def store (region : OptionRegion) (tag : Tag) (value : Option Bytes) :
    Except StoreError OptionRegion :=
  if tag = Tag.pad ∨ tag = Tag.stop then .error (.framing tag)
  else match updated? region.options tag value with
    | none => .error .tagRange
    | some options =>
      match OptionBlock.encode? options with
      | none => .error .tagRange
      | some encoded =>
        if (encoded.length : Int) > region.capacity then
          .error (.noSpace tag encoded.length region.capacity)
        else region.write options encoded

/-- The region after a store, whatever its outcome. -/
def afterStore (region : OptionRegion) : Except StoreError OptionRegion → OptionRegion
  | .ok stored => stored
  | .error (.notCleared _ written) => written
  | .error _ => region

end OptionRegion
end NetBoot
