/-
# Option maps

Option values by tag, in the order in which the tags first appeared.  Storing a
value for a known tag keeps its place; a new tag goes to the end.
-/
import NetBoot.Bytes
import NetBoot.Options.Tag

namespace NetBoot

/-- Option values by tag, in order of first appearance. -/
abbrev OptionMap := List (Tag × Bytes)

namespace OptionMap

/-- The value of a tag. -/
def get? (tag : Tag) : OptionMap → Option Bytes
  | [] => none
  | (known, value) :: rest => if known = tag then some value else get? tag rest

/-- Set the value of a tag. -/
def insert (tag : Tag) (value : Bytes) : OptionMap → OptionMap
  | [] => [(tag, value)]
  | (known, old) :: rest =>
    if known = tag then (known, value) :: rest else (known, old) :: insert tag value rest

/-- Append to the value of a tag, which is empty as long as the tag is unknown. -/
def extend (tag : Tag) (value : Bytes) : OptionMap → OptionMap
  | [] => [(tag, value)]
  | (known, old) :: rest =>
    if known = tag then (known, old ++ value) :: rest else (known, old) :: extend tag value rest

/-- Remove a tag. -/
def erase (tag : Tag) (options : OptionMap) : OptionMap :=
  options.filter fun entry => entry.1 ≠ tag

/-- Set the value of a tag, or remove the tag when there is no value. -/
def update (tag : Tag) (value : Option Bytes) (options : OptionMap) : OptionMap :=
  match value with
  | some bytes => options.insert tag bytes
  | none => options.erase tag

/-- The map that storing the given pairs one after the other leaves. -/
def ofPairs (pairs : List (Tag × Bytes)) : OptionMap :=
  pairs.foldl (fun options entry => options.insert entry.1 entry.2) []

end OptionMap
end NetBoot
