/-
# Reading what was written

A proper map of options can be written as a block, and reading the block gives the map
back, with its tags in the same order.  This holds for values of any length, which are
written in pieces that fit into one item each, and for values whose bytes look like
padding, like the end of a block or like lengths.  Behind the end byte anything may stand.
-/
import NetBoot.Proofs.Options.Grammar

namespace NetBoot.OptionBlock

variable {options known : OptionMap} {byte : UInt8} {value rest : Bytes}

/-! ## Cutting values into pieces -/

theorem flatten_chunks (value : Bytes) : (chunks value).flatten = value := by
  induction value using chunks.induct with
  | case1 value short => rw [chunks, if_pos short, List.flatten_singleton]
  | case2 value long ih =>
    rw [chunks, if_neg long, List.flatten_cons, ih, List.take_append_drop]

theorem length_le_of_mem_chunks {piece : Bytes} (h : piece ∈ chunks value) :
    piece.length ≤ chunkLimit := by
  induction value using chunks.induct with
  | case1 value short =>
    rw [chunks, if_pos short, List.mem_singleton] at h
    exact h ▸ short
  | case2 value long ih =>
    rw [chunks, if_neg long, List.mem_cons] at h
    rcases h with rfl | h
    · exact List.length_take_le _ _
    · exact ih h

/-- Even an empty value is one piece. -/
theorem chunks_ne_nil (value : Bytes) : chunks value ≠ [] := by
  rw [chunks]
  split <;> simp

/-! ## Reading the items of one option -/

theorem items_flatMap_item (ordinary : IsOption byte) {pieces : List Bytes}
    (fits : ∀ piece ∈ pieces, piece.length ≤ chunkLimit) (rest : Bytes) :
    items (pieces.flatMap (item byte) ++ rest) = pieces.map (Prod.mk byte) ++ items rest := by
  induction pieces with
  | nil => rfl
  | cons piece pieces ih =>
    rw [List.forall_mem_cons] at fits
    rw [List.flatMap_cons, List.append_assoc, items_item ordinary fits.1, ih fits.2]
    rfl

/-- Collect options on top of those that are known. -/
def collectOnto (known : OptionMap) (found : List (UInt8 × Bytes)) : OptionMap :=
  found.foldl (fun options item => OptionMap.extend (item.1.toNat : Int) item.2 options) known

theorem collectOnto_append (known : OptionMap) (first second : List (UInt8 × Bytes)) :
    collectOnto known (first ++ second) = collectOnto (collectOnto known first) second :=
  List.foldl_append

/-- The pieces of a new option make up its value. -/
theorem collectOnto_pieces (new : (byte.toNat : Int) ∉ known.tags) {pieces : List Bytes}
    (h : pieces ≠ []) : collectOnto known (pieces.map (Prod.mk byte)) =
      known ++ [((byte.toNat : Int), pieces.flatten)] := by
  -- the first piece makes the option known, and each further one is appended to its value
  have hmore (pieces : List Bytes) (value : Bytes) :
      collectOnto (known ++ [((byte.toNat : Int), value)]) (pieces.map (Prod.mk byte)) =
        known ++ [((byte.toNat : Int), value ++ pieces.flatten)] := by
    induction pieces generalizing value with
    | nil => simp [collectOnto]
    | cons piece pieces ih =>
      rw [List.map_cons, collectOnto, List.foldl_cons, OptionMap.extend_append_self new,
        List.flatten_cons, ← List.append_assoc]
      exact ih (value ++ piece)
  cases pieces with
  | nil => exact absurd rfl h
  | cons piece pieces =>
    rw [List.map_cons, collectOnto, List.foldl_cons, OptionMap.extend_of_not_mem new]
    exact hmore pieces piece

/-! ## Writing a map -/

/-- A tag that a block can hold is a byte. -/
theorem exists_byte {tag : Int} (h : 1 ≤ tag ∧ tag ≤ 254) :
    ∃ byte, Bytes.byte? tag = some byte ∧ IsOption byte ∧ (byte.toNat : Int) = tag := by
  have hbyte : (UInt8.ofNat tag.toNat).toNat = tag.toNat := by
    rw [UInt8.toNat_ofNat', Nat.mod_eq_of_lt]
    omega
  refine ⟨UInt8.ofNat tag.toNat, if_pos (by omega), ?_, ?_⟩
  · rw [IsOption, hbyte]
    omega
  · rw [hbyte]
    omega

theorem body?_cons (entry : Tag × Bytes) (options : OptionMap) :
    body? (entry :: options) = (entryBytes? entry.1 entry.2).bind fun first =>
      (body? options).map (first ++ ·) := by
  rw [body?, List.mapM_cons, body?]
  cases entryBytes? entry.1 entry.2 with
  | none => rfl
  | some first => cases options.mapM fun entry => entryBytes? entry.1 entry.2 <;> rfl

/-- A proper map can be written, and whatever follows, its options are found again. -/
theorem exists_body (proper : options.Proper)
    (new : ∀ tag ∈ options.tags, tag ∉ known.tags) :
    ∃ body found, body? options = some body ∧
      (∀ rest, items (body ++ rest) = found ++ items rest) ∧
      collectOnto known found = known ++ options := by
  induction options generalizing known with
  | nil => exact ⟨[], [], rfl, fun _ => rfl, (List.append_nil known).symm⟩
  | cons entry options ih =>
    obtain ⟨tag, value⟩ := entry
    rw [OptionMap.tags_cons, List.forall_mem_cons] at new
    have nodup := List.nodup_cons.mp proper.nodup
    obtain ⟨byte, hbyte, ordinary, rfl⟩ := exists_byte (proper.encodable tag List.mem_cons_self)
    have hnew (other : Tag) (mem : other ∈ OptionMap.tags options) :
        other ∉ OptionMap.tags (known ++ [((byte.toNat : Int), value)]) := by
      rw [OptionMap.tags, List.map_append, List.mem_append, not_or, List.map_singleton,
        List.mem_singleton]
      exact ⟨new.2 other mem, fun hsame => nodup.1 (hsame ▸ mem)⟩
    obtain ⟨body, found, hbody, hitems, hcollect⟩ := ih proper.tail hnew
    refine ⟨(chunks value).flatMap (item byte) ++ body,
      (chunks value).map (Prod.mk byte) ++ found, ?_, fun rest => ?_, ?_⟩
    · rw [body?_cons, hbody, entryBytes?, hbyte]
      rfl
    · rw [List.append_assoc, items_flatMap_item ordinary fun _ => length_le_of_mem_chunks, hitems,
        List.append_assoc]
    · rw [collectOnto_append, collectOnto_pieces new.1 (chunks_ne_nil value), flatten_chunks,
        hcollect, List.append_assoc]
      rfl

/-- A proper map is read back from its block, with or without an end byte. -/
theorem exists_decode_body (proper : options.Proper) :
    ∃ body, body? options = some body ∧ encode? options = some (body ++ [endByte]) ∧
      decode body = options ∧ ∀ junk, decode (body ++ endByte :: junk) = options := by
  have new : ∀ tag ∈ options.tags, tag ∉ OptionMap.tags [] := by simp
  obtain ⟨body, found, hbody, hitems, hcollect⟩ := exists_body proper new
  have hdecode (rest : Bytes) (remainder : Remainder rest) : decode (body ++ rest) = options := by
    rw [decode, hitems, items_remainder remainder, List.append_nil]
    exact hcollect
  refine ⟨body, hbody, by rw [encode?, hbody]; rfl, ?_, fun junk => hdecode _ (.stop junk)⟩
  simpa using hdecode [] .empty

/-- Every map whose tags are different and stand in a block can be written, and reading the
block gives the map back in the same order: without an end byte, and with an end byte and
anything behind it. -/
theorem decode_encode (options : OptionMap) (proper : options.Proper) :
    (∃ body, body? options = some body ∧ decode body = options) ∧
    ∃ block, encode? options = some block ∧ ∀ junk, decode (block ++ junk) = options := by
  obtain ⟨body, hbody, hblock, hdecode, hjunk⟩ := exists_decode_body proper
  refine ⟨⟨body, hbody, hdecode⟩, _, hblock, fun junk => ?_⟩
  rw [List.append_assoc]
  exact hjunk junk

/-- Values that take several items, exactly full ones among them, an empty value, and one that
looks like an end byte, padding and a length. -/
theorem decode_encode_split_values :
    ∃ options : OptionMap,
      options = [(60, List.replicate 511 255), (12, []), (43, List.replicate 510 0),
        (1, [255, 0, 1])] ∧
      options.Proper ∧ (∃ body, body? options = some body ∧ decode body = options) ∧
      ∃ block, encode? options = some block ∧ ∀ junk, decode (block ++ junk) = options := by
  have proper : OptionMap.Proper [(60, List.replicate 511 255), (12, []),
      (43, List.replicate 510 0), (1, [255, 0, 1])] := ⟨by decide, by decide⟩
  exact ⟨_, rfl, proper, decode_encode _ proper⟩

end NetBoot.OptionBlock
