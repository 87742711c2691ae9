/-
# The grammar of option blocks

Every byte string is, in exactly one way, a sequence of pieces and a remainder.  A piece is
a padding byte or a complete option.  A remainder is empty, starts with the end byte, or
starts with an option that is cut short.  Reading a block tells what the options among its
pieces say, and no byte of the remainder has a part in it.
-/
import NetBoot.Options.Codec
import NetBoot.Proofs.Options.Lookup
import Mathlib.Data.List.Induction
import Mathlib.Logic.ExistsUnique

namespace NetBoot.OptionBlock

/-- The byte is the tag of an option: it is neither the padding byte nor the end byte. -/
def IsOption (tag : UInt8) : Prop := 1 ≤ tag.toNat ∧ tag.toNat ≤ 254

/-- A complete part of a block. -/
inductive Piece
  | padding
  | option (tag : UInt8) (value : Bytes) (ordinary : IsOption tag)
      (fits : value.length ≤ chunkLimit)

namespace Piece

/-- The bytes of a piece. -/
def bytes : Piece → Bytes
  | padding => [padByte]
  | option tag value _ _ => item tag value

/-- The tag and value of a piece that is an option. -/
def content? : Piece → Option (UInt8 × Bytes)
  | padding => none
  | option tag value _ _ => some (tag, value)

end Piece

/-- What can stand behind the last complete piece of a block. -/
inductive Remainder : Bytes → Prop
  | empty : Remainder []
  | stop (junk : Bytes) : Remainder (endByte :: junk)
  /-- The length of an option is missing. -/
  | unsized {tag : UInt8} (ordinary : IsOption tag) : Remainder [tag]
  /-- An option announces more bytes than there are. -/
  | short {tag length : UInt8} {body : Bytes} (ordinary : IsOption tag)
      (missing : body.length < length.toNat) : Remainder (tag :: length :: body)

/-- The byte string consists of the pieces and the remainder. -/
structure Decomposes (raw : Bytes) (pieces : List Piece) (rest : Bytes) : Prop where
  bytes : pieces.flatMap Piece.bytes ++ rest = raw
  remainder : Remainder rest

/-- All values of a tag in a list of options, joined in order. -/
def valueOf (found : List (UInt8 × Bytes)) (tag : UInt8) : Bytes :=
  (found.filter fun option => option.1 = tag).flatMap Prod.snd

/-- What a list of options says: its tags in order of first appearance, each with its joined
values. -/
def gather (found : List (UInt8 × Bytes)) : OptionMap :=
  (found.map Prod.fst).eraseDups.map fun tag => ((tag.toNat : Int), valueOf found tag)

variable {tag : UInt8} {value raw rest more : Bytes} {pieces : List Piece}

theorem IsOption.ne_padByte (h : IsOption tag) : tag ≠ padByte := by
  rintro rfl
  exact absurd h.1 (by decide)

theorem IsOption.ne_endByte (h : IsOption tag) : tag ≠ endByte := by
  rintro rfl
  exact absurd h.2 (by decide)

theorem isOption_of_ne (pad : tag ≠ padByte) (stop : tag ≠ endByte) : IsOption tag := by
  have hpad : tag.toNat ≠ 0 := fun h => pad (UInt8.toNat_inj.mp h)
  have hstop : tag.toNat ≠ 255 := fun h => stop (UInt8.toNat_inj.mp h)
  have hlt := tag.toNat_lt
  constructor <;> omega

/-- The length byte of an item that fits tells the length of its value. -/
theorem toNat_length (fits : value.length ≤ chunkLimit) :
    (UInt8.ofNat value.length).toNat = value.length := by
  rw [UInt8.toNat_ofNat', Nat.mod_eq_of_lt]
  exact Nat.lt_succ_of_le fits

/-! ## What reading a piece finds -/

theorem items_padding (rest : Bytes) : items (padByte :: rest) = items rest := by
  rw [items.eq_def]
  exact if_pos rfl

/-- The reader takes a tag and a length, and then as many bytes, if there are. -/
theorem items_option (ordinary : IsOption tag) (length : UInt8) (body : Bytes) :
    items (tag :: length :: body) = if body.length < length.toNat then []
      else (tag, body.take length.toNat) :: items (body.drop length.toNat) := by
  rw [items.eq_def]
  dsimp only
  rw [if_neg ordinary.ne_padByte, if_neg ordinary.ne_endByte]

/-- A complete item is found, whatever follows it. -/
theorem items_item (ordinary : IsOption tag) (fits : value.length ≤ chunkLimit) (rest : Bytes) :
    items (item tag value ++ rest) = (tag, value) :: items rest := by
  rw [item, List.cons_append, List.cons_append, items_option ordinary, toNat_length fits,
    if_neg (by simp), List.take_left, List.drop_left]

theorem items_pieces (pieces : List Piece) (rest : Bytes) :
    items (pieces.flatMap Piece.bytes ++ rest) = pieces.filterMap Piece.content? ++ items rest := by
  induction pieces with
  | nil => rfl
  | cons piece pieces ih =>
    rw [List.flatMap_cons, List.append_assoc]
    cases piece with
    | padding => exact (items_padding _).trans ih
    | option tag value ordinary fits =>
      rw [Piece.bytes, items_item ordinary fits, ih]
      rfl

/-- Nothing is found in a remainder. -/
theorem items_remainder (h : Remainder rest) : items rest = [] := by
  cases h with
  | empty => rw [items]
  | stop junk =>
    rw [items.eq_def]
    dsimp only
    rw [if_neg (by decide), if_pos rfl]
  | unsized ordinary =>
    rw [items.eq_def]
    dsimp only
    rw [if_neg ordinary.ne_padByte, if_neg ordinary.ne_endByte]
  | short ordinary missing => rw [items_option ordinary, if_pos missing]

theorem Decomposes.items_eq (h : Decomposes raw pieces rest) :
    items raw = pieces.filterMap Piece.content? := by
  rw [← h.bytes, items_pieces, items_remainder h.remainder, List.append_nil]

/-! ## Exactly one decomposition -/

/-- The bytes of one more piece stand in front. -/
theorem Decomposes.cons (h : Decomposes raw pieces rest) (piece : Piece) :
    Decomposes (piece.bytes ++ raw) (piece :: pieces) rest :=
  ⟨by rw [List.flatMap_cons, List.append_assoc, h.bytes], h.remainder⟩

theorem exists_decomposes (raw : Bytes) : ∃ pieces rest, Decomposes raw pieces rest := by
  -- the induction follows the reader from item to item
  induction raw using items.induct with
  | case1 => exact ⟨[], [], rfl, .empty⟩
  | case2 rest ih =>
    obtain ⟨pieces, last, h⟩ := ih
    exact ⟨_, _, h.cons .padding⟩
  | case3 rest => exact ⟨[], _, rfl, .stop rest⟩
  | case4 tag pad stop => exact ⟨[], _, rfl, .unsized (isOption_of_ne pad stop)⟩
  | case5 tag pad stop length body missing =>
    exact ⟨[], _, rfl, .short (isOption_of_ne pad stop) missing⟩
  | case6 tag pad stop length body complete ih =>
    obtain ⟨pieces, last, h⟩ := ih
    have hlength : (body.take length.toNat).length = length.toNat := by
      rw [List.length_take]
      exact Nat.min_eq_left (Nat.not_lt.mp complete)
    have fits : (body.take length.toNat).length ≤ chunkLimit := by
      have := length.toNat_lt
      rw [hlength, chunkLimit]
      omega
    have hpiece := h.cons (.option tag (body.take length.toNat) (isOption_of_ne pad stop) fits)
    rw [Piece.bytes, item, hlength, UInt8.ofNat_toNat, List.cons_append, List.cons_append,
      List.take_append_drop] at hpiece
    exact ⟨_, _, hpiece⟩

/-- A remainder does not start with a complete piece. -/
theorem not_remainder_of_piece (piece : Piece) (more : Bytes) :
    ¬Remainder (piece.bytes ++ more) := by
  cases piece with
  | padding =>
    intro h
    generalize hraw : Piece.padding.bytes ++ more = raw at h
    cases h with
    | empty => cases hraw
    | stop junk => exact absurd (List.cons.inj hraw).1 (by decide)
    | unsized ordinary => exact ordinary.ne_padByte (List.cons.inj hraw).1.symm
    | short ordinary missing => exact ordinary.ne_padByte (List.cons.inj hraw).1.symm
  | option tag value ordinary fits =>
    intro h
    have hitems := items_item ordinary fits more
    rw [show item tag value ++ more = _ from rfl] at hitems
    exact absurd (hitems.symm.trans (items_remainder h)) (by simp)

/-- Where two blocks agree, their first pieces are the same. -/
theorem Piece.bytes_append_inj {first second : Piece}
    (h : first.bytes ++ rest = second.bytes ++ more) : first = second ∧ rest = more := by
  cases first with
  | padding =>
    cases second with
    | padding => exact ⟨rfl, (List.cons.inj h).2⟩
    | option tag value ordinary fits =>
      exact absurd (List.cons.inj h).1.symm ordinary.ne_padByte
  | option tag value ordinary fits =>
    cases second with
    | padding => exact absurd (List.cons.inj h).1 ordinary.ne_padByte
    | option other content _ fits' =>
      obtain ⟨htag, hbody⟩ := List.cons.inj h
      obtain ⟨hsize, hbody⟩ := List.cons.inj hbody
      have hlength := congrArg UInt8.toNat hsize
      rw [toNat_length fits, toNat_length fits'] at hlength
      obtain ⟨rfl, hrest⟩ := List.append_inj hbody hlength
      subst htag
      exact ⟨rfl, hrest⟩

/-- A remainder is no block that starts with a piece. -/
theorem Decomposes.ne_nil_of_piece {piece : Piece} (h : Decomposes raw (piece :: pieces) rest) :
    ¬Remainder raw := by
  rw [← h.bytes, List.flatMap_cons, List.append_assoc]
  exact not_remainder_of_piece piece _

theorem Decomposes.unique {others : List Piece} (h : Decomposes raw pieces rest)
    (h' : Decomposes raw others more) : pieces = others ∧ rest = more := by
  induction pieces generalizing raw others with
  | nil =>
    have hrest : rest = raw := h.bytes
    cases others with
    | nil => exact ⟨rfl, hrest.trans h'.bytes.symm⟩
    | cons piece others => exact absurd (hrest ▸ h.remainder) h'.ne_nil_of_piece
  | cons piece pieces ih =>
    cases others with
    | nil =>
      have hmore : more = raw := h'.bytes
      exact absurd (hmore ▸ h'.remainder) h.ne_nil_of_piece
    | cons other others =>
      have hraw := h.bytes.trans h'.bytes.symm
      rw [List.flatMap_cons, List.flatMap_cons, List.append_assoc, List.append_assoc] at hraw
      obtain ⟨hpiece, htail⟩ := Piece.bytes_append_inj hraw
      obtain ⟨hpieces, hrest⟩ := ih ⟨htail, h.remainder⟩ ⟨rfl, h'.remainder⟩
      exact ⟨congrArg₂ List.cons hpiece hpieces, hrest⟩

/-! ## Joining the values of equal tags -/

/-- A tag that is listed once more is kept where it was first. -/
theorem eraseDups_append_singleton {α : Type} [BEq α] [LawfulBEq α] (tags : List α) (tag : α) :
    (tags ++ [tag]).eraseDups = if tag ∈ tags then tags.eraseDups else tags.eraseDups ++ [tag] := by
  rw [List.eraseDups_append]
  split
  next h => simp [List.removeAll, h]
  next h => simp [List.removeAll, h, List.eraseDups_cons]

/-- Tags that are told apart stay so when they are written otherwise. -/
theorem eraseDups_map {α β : Type} [BEq α] [LawfulBEq α] [BEq β] [LawfulBEq β] {f : α → β}
    (apart : ∀ first second, f first = f second → first = second) (tags : List α) :
    (tags.map f).eraseDups = tags.eraseDups.map f := by
  induction tags using List.reverseRecOn with
  | nil => rfl
  | append_singleton tags tag ih =>
    have mem : f tag ∈ tags.map f ↔ tag ∈ tags := by
      rw [List.mem_map]
      exact ⟨fun ⟨known, mem, same⟩ => apart known tag same ▸ mem, fun mem => ⟨tag, mem, rfl⟩⟩
    rw [List.map_append, List.map_singleton, eraseDups_append_singleton,
      eraseDups_append_singleton, ih]
    by_cases h : tag ∈ tags
    · rw [if_pos h, if_pos (mem.mpr h)]
    · rw [if_neg h, if_neg (fun found => h (mem.mp found)), List.map_append, List.map_singleton]

theorem nodup_eraseDups (tags : List UInt8) : tags.eraseDups.Nodup := by
  induction tags using List.reverseRecOn with
  | nil => simp
  | append_singleton tags tag ih =>
    rw [eraseDups_append_singleton]
    split
    · exact ih
    next h => exact ih.append (List.nodup_singleton tag) (by simpa using h)

theorem valueOf_append_singleton (found : List (UInt8 × Bytes)) (option : UInt8 × Bytes)
    (tag : UInt8) : valueOf (found ++ [option]) tag =
      valueOf found tag ++ if option.1 = tag then option.2 else [] := by
  rw [valueOf, List.filter_append, List.flatMap_append, List.filter_singleton]
  by_cases h : option.1 = tag <;> simp [valueOf, h]

/-- A tag that does not occur has no value. -/
theorem valueOf_of_not_mem {found : List (UInt8 × Bytes)} (h : tag ∉ found.map Prod.fst) :
    valueOf found tag = [] := by
  have hnone : (found.filter fun option => option.1 = tag) = [] := by
    rw [List.filter_eq_nil_iff]
    intro option mem htag
    rw [decide_eq_true_iff] at htag
    exact h (htag ▸ List.mem_map_of_mem mem)
  rw [valueOf, hnone]
  rfl

theorem mem_tags_gather {found : List (UInt8 × Bytes)}
    (h : (tag.toNat : Int) ∈ (gather found).tags) : tag ∈ found.map Prod.fst := by
  rw [OptionMap.tags, gather, List.map_map, List.mem_map] at h
  obtain ⟨known, mem, hsame⟩ := h
  obtain rfl : known = tag := UInt8.toNat_inj.mp (Int.ofNat_inj.mp hsame)
  exact List.mem_eraseDups.mp mem

/-- Extending a known option extends its value where it stands. -/
theorem extend_map {tags : List UInt8} (h : tag ∈ tags) (nodup : tags.Nodup)
    (valueOf : UInt8 → Bytes) :
    OptionMap.extend (tag.toNat : Int) more
        (tags.map fun known => ((known.toNat : Int), valueOf known)) =
      tags.map fun known =>
        ((known.toNat : Int), valueOf known ++ if tag = known then more else []) := by
  induction tags with
  | nil => simp at h
  | cons known tags ih =>
    rw [List.nodup_cons] at nodup
    rw [List.map_cons, List.map_cons, OptionMap.extend]
    by_cases hknown : tag = known
    · subst hknown
      rw [if_pos rfl, if_pos rfl, List.cons.injEq]
      refine ⟨rfl, List.map_congr_left fun other mem => ?_⟩
      rw [if_neg, List.append_nil]
      rintro rfl
      exact nodup.1 mem
    · have hne : (known.toNat : Int) ≠ tag.toNat := fun hsame =>
        hknown (UInt8.toNat_inj.mp (Int.ofNat_inj.mp hsame)).symm
      rw [if_neg hne, if_neg hknown, List.append_nil,
        ih ((List.mem_cons.mp h).resolve_left hknown) nodup.2]

theorem collect_append_singleton (found : List (UInt8 × Bytes)) (option : UInt8 × Bytes) :
    collect (found ++ [option]) =
      OptionMap.extend (option.1.toNat : Int) option.2 (collect found) := by
  rw [collect, List.foldl_append]
  rfl

/-- Collecting options one after the other gathers what they say. -/
theorem collect_eq_gather (found : List (UInt8 × Bytes)) : collect found = gather found := by
  -- the fold takes the options up from the front, so the induction adds them at the end
  induction found using List.reverseRecOn with
  | nil => rfl
  | append_singleton found option ih =>
    rw [collect_append_singleton, ih]
    by_cases h : option.1 ∈ found.map Prod.fst
    · rw [gather, extend_map (List.mem_eraseDups.mpr h) (nodup_eraseDups _)]
      simp only [gather, List.map_append, List.map_singleton, eraseDups_append_singleton, if_pos h,
        valueOf_append_singleton]
    · rw [OptionMap.extend_of_not_mem fun mem => h (mem_tags_gather mem)]
      simp only [gather, List.map_append, List.map_singleton, eraseDups_append_singleton, if_neg h,
        valueOf_append_singleton, valueOf_of_not_mem h, if_true, List.nil_append]
      refine congrArg (· ++ _) (List.map_congr_left fun tag mem => ?_)
      rw [if_neg, List.append_nil]
      rintro rfl
      exact h (List.mem_eraseDups.mp mem)

/-- Each tag is listed where it is first. -/
theorem tags_gather (found : List (UInt8 × Bytes)) :
    (gather found).tags = (found.map fun option => (option.1.toNat : Int)).eraseDups := by
  have apart (first second : UInt8) (same : (first.toNat : Int) = second.toNat) : first = second :=
    UInt8.toNat_inj.mp (Int.ofNat_inj.mp same)
  have tags : (found.map fun option => (option.1.toNat : Int)) =
      (found.map Prod.fst).map fun tag : UInt8 => (tag.toNat : Int) := by
    rw [List.map_map]
    rfl
  rw [tags, eraseDups_map apart, OptionMap.tags, gather, List.map_map]
  rfl

/-- An option is read as all the values of its tag. -/
theorem get?_gather {found : List (UInt8 × Bytes)} (mem : tag ∈ found.map Prod.fst) :
    (gather found).get? (tag.toNat : Int) = some (valueOf found tag) := by
  have listed (tags : List UInt8) (mem : tag ∈ tags) :
      OptionMap.get? (tag.toNat : Int)
        (tags.map fun tag => ((tag.toNat : Int), valueOf found tag)) =
          some (valueOf found tag) := by
    induction tags with
    | nil => simp at mem
    | cons known tags ih =>
      rw [List.map_cons, OptionMap.get?_cons]
      by_cases same : known = tag
      · rw [if_pos (by rw [same]), same]
      · rw [if_neg fun equal => same (UInt8.toNat_inj.mp (Int.ofNat_inj.mp equal)),
          ih ((List.mem_cons.mp mem).resolve_left (Ne.symm same))]
  exact listed _ (List.mem_eraseDups.mpr mem)

theorem decode_nil : decode [] = [] := by
  rw [decode, items]
  rfl

/-- The tag of every item that is found is that of an option. -/
theorem isOption_of_mem_items {option : UInt8 × Bytes} (h : option ∈ items raw) :
    IsOption option.1 := by
  obtain ⟨pieces, rest, hraw⟩ := exists_decomposes raw
  rw [hraw.items_eq, List.mem_filterMap] at h
  obtain ⟨piece, -, hcontent⟩ := h
  cases piece with
  | padding => cases hcontent
  | option tag value ordinary fits =>
    cases hcontent
    exact ordinary

/-- What is read from a block, whatever its bytes, is a proper map. -/
theorem proper_decode (raw : Bytes) : (decode raw).Proper := by
  have h (found : List (UInt8 × Bytes)) (ordinary : ∀ option ∈ found, IsOption option.1) :
      (collect found).Proper := by
    induction found using List.reverseRecOn with
    | nil => exact .nil
    | append_singleton found option ih =>
      rw [List.forall_mem_append] at ordinary
      have htag : IsOption option.1 := ordinary.2 option (List.mem_singleton_self option)
      rw [collect_append_singleton]
      exact (ih ordinary.1).extend ⟨Int.ofNat_le.mpr htag.1, Int.ofNat_le.mpr htag.2⟩ option.2
  exact h (items raw) fun _ => isOption_of_mem_items

/-- Every byte string is made of pieces and a remainder in exactly one way.  Reading it gives
the tags of the options among the pieces in order of first appearance, each with all its
values joined in order, and would give the same in front of any other remainder. -/
theorem decode_of_pieces (raw : Bytes) :
    (∃! parts : List Piece × Bytes, Decomposes raw parts.1 parts.2) ∧
    ∀ pieces rest, Decomposes raw pieces rest →
      decode raw = gather (pieces.filterMap Piece.content?) ∧
      ∀ other, Remainder other → decode (pieces.flatMap Piece.bytes ++ other) = decode raw := by
  have hdecode {raw rest : Bytes} {pieces : List Piece} (h : Decomposes raw pieces rest) :
      decode raw = gather (pieces.filterMap Piece.content?) := by
    rw [decode, collect_eq_gather, h.items_eq]
  refine ⟨?_, fun pieces rest h => ⟨hdecode h, fun other remainder => ?_⟩⟩
  · obtain ⟨pieces, rest, h⟩ := exists_decomposes raw
    refine ⟨(pieces, rest), h, fun parts h' => ?_⟩
    obtain ⟨hpieces, hrest⟩ := h'.unique h
    exact Prod.ext hpieces hrest
  · rw [hdecode h, hdecode ⟨rfl, remainder⟩]

/-- The values of a repeated option are joined across padding and other options, and an option
that is cut short says nothing. -/
example : decode [12, 1, 110, 0, 6, 1, 9, 12, 2, 101, 116, 0, 43, 5, 1] =
    [(12, [110, 101, 116]), (6, [9])] := by decide +kernel

end NetBoot.OptionBlock
