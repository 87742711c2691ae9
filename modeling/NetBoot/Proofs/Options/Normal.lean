/-
# Writing a received block anew

What is read from a block can always be written again.  The new block has no padding, and its
repeated options are joined and cut into pieces that are as long as they can be.  Reading it
gives the same options in the same order, and without its end byte it is no longer than the
block that was received: joining the values of two options never takes more items than both
took apart.
-/
import NetBoot.Proofs.Options.Length

namespace NetBoot

namespace OptionBlock

variable {value : Bytes}

/-- Joined values take no more bytes than the values apart. -/
theorem entrySize_append_le (value other : Bytes) :
    entrySize (value ++ other) ≤ entrySize value + entrySize other := by
  simp only [entrySize, chunkLimit, List.length_append]
  omega

theorem entrySize_of_fits (fits : value.length ≤ chunkLimit) :
    entrySize value = value.length + 2 := by
  simp only [entrySize, chunkLimit] at fits ⊢
  omega

/-- An item that was received took as many bytes as it takes when it is written. -/
theorem length_item (tag : UInt8) (fits : value.length ≤ chunkLimit) :
    (item tag value).length = entrySize value := by
  rw [entrySize_of_fits fits, item, List.length_cons, List.length_cons]

end OptionBlock

namespace OptionMap

/-- One more value makes the options longer by at most what it takes on its own. -/
theorem encodedSize_extend_le (tag : Tag) (value : Bytes) (options : OptionMap) :
    (options.extend tag value).encodedSize ≤
      options.encodedSize + OptionBlock.entrySize value := by
  induction options with
  | nil => exact Nat.le_of_eq (Nat.add_comm _ _)
  | cons entry options ih =>
    rw [extend]
    split
    · have hjoined := OptionBlock.entrySize_append_le entry.2 value
      simp only [encodedSize_cons]
      omega
    · simp only [encodedSize_cons]
      omega

end OptionMap

namespace OptionBlock

/-- The bytes that items take when each is written on its own. -/
def itemsSize : List (UInt8 × Bytes) → Nat
  | [] => 0
  | (_, value) :: found => entrySize value + itemsSize found

theorem itemsSize_append (found more : List (UInt8 × Bytes)) :
    itemsSize (found ++ more) = itemsSize found + itemsSize more := by
  induction found with
  | nil => exact (Nat.zero_add _).symm
  | cons item found ih => rw [List.cons_append, itemsSize, ih, itemsSize, Nat.add_assoc]

/-- However the items are interleaved, collecting them takes no more bytes than they did. -/
theorem encodedSize_collect_le (found : List (UInt8 × Bytes)) :
    (collect found).encodedSize ≤ itemsSize found := by
  -- the fold takes the items up from the front, so the induction adds them at the end
  induction found using List.reverseRecOn with
  | nil => exact Nat.le_refl 0
  | append_singleton found option ih =>
    rw [collect_append_singleton, itemsSize_append]
    exact Nat.le_trans (OptionMap.encodedSize_extend_le _ _ _) (Nat.add_le_add_right ih _)

/-- The complete options of a block stand in it, so they are no longer than it is. -/
theorem itemsSize_pieces_le (pieces : List Piece) :
    itemsSize (pieces.filterMap Piece.content?) ≤ (pieces.flatMap Piece.bytes).length := by
  induction pieces with
  | nil => exact Nat.le_refl 0
  | cons piece pieces ih =>
    rw [List.flatMap_cons, List.length_append]
    cases piece with
    | padding => exact Nat.le_trans ih (Nat.le_add_left _ _)
    | option tag value ordinary fits =>
      rw [Piece.bytes, length_item tag fits]
      exact Nat.add_le_add_left ih _

/-- Whatever the bytes of a block, the options that are read from it take no more. -/
theorem encodedSize_decode_le (raw : Bytes) : (decode raw).encodedSize ≤ raw.length := by
  obtain ⟨pieces, rest, hraw⟩ := exists_decomposes raw
  calc (decode raw).encodedSize
    _ ≤ itemsSize (items raw) := encodedSize_collect_le _
    _ = itemsSize (pieces.filterMap Piece.content?) := by rw [hraw.items_eq]
    _ ≤ (pieces.flatMap Piece.bytes).length := itemsSize_pieces_le pieces
    _ ≤ (pieces.flatMap Piece.bytes ++ rest).length := List.length_append ▸ Nat.le_add_right _ _
    _ = raw.length := by rw [hraw.bytes]

/-- Whatever the bytes of a block, the options that are read from it have different tags between
1 and 254, and can be written as a block again.  Both with and without its end byte, and with
anything behind that, the new block says the same in the same order; so writing what is read
from it gives the same block once more.  Without the end byte it is no longer than the bytes that
were received. -/
theorem encode_decode (raw : Bytes) :
    (decode raw).tags.Nodup ∧ (∀ tag ∈ (decode raw).tags, 1 ≤ tag ∧ tag ≤ 254) ∧
    ∃ body, body? (decode raw) = some body ∧ encode? (decode raw) = some (body ++ [endByte]) ∧
      body.length ≤ raw.length ∧ (body ++ [endByte]).length ≤ raw.length + 1 ∧
      decode body = decode raw ∧ decode (body ++ [endByte]) = decode raw ∧
      (∀ junk, decode (body ++ endByte :: junk) = decode raw) ∧
      body? (decode body) = some body ∧
      encode? (decode (body ++ [endByte])) = some (body ++ [endByte]) := by
  have proper := proper_decode raw
  obtain ⟨body, hbody, hblock, hdecode, hjunk⟩ := exists_decode_body proper
  have hlength : body.length ≤ raw.length := length_body hbody ▸ encodedSize_decode_le raw
  have hended : decode (body ++ [endByte]) = decode raw := hjunk []
  refine ⟨proper.nodup, proper.encodable, body, hbody, hblock, hlength, ?_, hdecode, hended,
    hjunk, ?_, ?_⟩
  · rw [List.length_append, List.length_singleton]
    exact Nat.succ_le_succ hlength
  · rw [hdecode, hbody]
  · rw [hended, hblock]

/-- An option that is repeated around another one and padding, one of its values empty, becomes
one option; the tail that is cut short is gone. -/
example : encode? (decode [12, 1, 110, 0, 6, 1, 9, 12, 0, 12, 2, 101, 116, 43, 5, 1]) =
    some [12, 3, 110, 101, 116, 6, 1, 9, 255] := by decide +kernel

end OptionBlock
end NetBoot
