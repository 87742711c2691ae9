/-
# How long blocks are

An option takes two bytes for each item that its value is cut into, besides the bytes of the
value.  A block is as long as all its options, and its end byte.
-/
import NetBoot.Proofs.Options.RoundTrip

namespace NetBoot

namespace OptionBlock

variable {tag : Tag} {value other block : Bytes}

/-- The number of items that a value is cut into. -/
theorem length_chunks (value : Bytes) :
    (chunks value).length = max 1 ((value.length + 254) / chunkLimit) := by
  induction value using chunks.induct with
  | case1 value short =>
    rw [chunks, if_pos short, List.length_singleton]
    simp only [chunkLimit] at short ⊢
    omega
  | case2 value long ih =>
    rw [chunks, if_neg long, List.length_cons, ih, List.length_drop]
    simp only [chunkLimit] at long ⊢
    omega

theorem length_flatMap_item (byte : UInt8) (pieces : List Bytes) :
    (pieces.flatMap (item byte)).length = 2 * pieces.length + pieces.flatten.length := by
  induction pieces with
  | nil => rfl
  | cons piece pieces ih =>
    rw [List.flatMap_cons, List.length_append, ih, List.flatten_cons, List.length_append,
      List.length_cons, item, List.length_cons, List.length_cons]
    omega

/-- The bytes that the value of an option takes in a block: its own, and two for each item that it
is cut into. -/
def entrySize (value : Bytes) : Nat :=
  2 * max 1 ((value.length + 254) / chunkLimit) + value.length

theorem entrySize_mono (grows : value.length ≤ other.length) :
    entrySize value ≤ entrySize other := by
  simp only [entrySize, chunkLimit]
  omega

theorem length_entry (h : entryBytes? tag value = some block) :
    block.length = entrySize value := by
  obtain ⟨byte, -, rfl⟩ := Option.map_eq_some_iff.mp h
  rw [length_flatMap_item, length_chunks, flatten_chunks, entrySize]

end OptionBlock

namespace OptionMap

/-- The bytes that the options of a map take in a block, without its end byte. -/
def encodedSize : OptionMap → Nat
  | [] => 0
  | (_, value) :: options => OptionBlock.entrySize value + encodedSize options

@[simp]
theorem encodedSize_nil : encodedSize [] = 0 := rfl

@[simp]
theorem encodedSize_cons (entry : Tag × Bytes) (options : OptionMap) :
    encodedSize (entry :: options) = OptionBlock.entrySize entry.2 + encodedSize options := rfl

@[simp]
theorem encodedSize_append (options more : OptionMap) :
    encodedSize (options ++ more) = encodedSize options + encodedSize more := by
  induction options with
  | nil => exact (Nat.zero_add _).symm
  | cons entry options ih =>
    rw [List.cons_append, encodedSize_cons, ih, encodedSize_cons, Nat.add_assoc]

end OptionMap

namespace OptionBlock

variable {options : OptionMap} {block : Bytes}

theorem length_body (h : body? options = some block) : block.length = options.encodedSize := by
  induction options generalizing block with
  | nil =>
    obtain rfl := Option.some.inj h
    rfl
  | cons entry options ih =>
    rw [body?_cons] at h
    obtain ⟨first, hfirst, h⟩ := Option.bind_eq_some_iff.mp h
    obtain ⟨rest, hrest, rfl⟩ := Option.map_eq_some_iff.mp h
    rw [List.length_append, length_entry hfirst, ih hrest, OptionMap.encodedSize_cons]

/-- The length of a block: what its options take, and the end byte. -/
theorem length_encode (h : encode? options = some block) :
    block.length = options.encodedSize + 1 := by
  obtain ⟨body, hbody, rfl⟩ := Option.map_eq_some_iff.mp h
  rw [List.length_append, length_body hbody, List.length_singleton]

/-- Options at the end of a map stand at the end of its block. -/
theorem body?_append (options more : OptionMap) :
    body? (options ++ more) =
      (body? options).bind fun first => (body? more).map (first ++ ·) := by
  induction options with
  | nil =>
    show body? more = (body? more).map ([] ++ ·)
    cases body? more <;> rfl
  | cons entry options ih =>
    rw [List.cons_append, body?_cons, body?_cons, ih]
    cases entryBytes? entry.1 entry.2 with
    | none => rfl
    | some first =>
      cases body? options with
      | none => rfl
      | some second => cases body? more <;> simp

theorem body?_append_singleton (options : OptionMap) (tag : Tag) (value : Bytes) :
    body? (options ++ [(tag, value)]) =
      (body? options).bind fun first => (entryBytes? tag value).map (first ++ ·) := by
  rw [body?_append, body?_cons]
  cases entryBytes? tag value <;> simp [body?]

end OptionBlock
end NetBoot
