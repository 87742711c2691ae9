/-
# Ranges of byte strings

A position inside a byte string means itself, so inside a byte string a slice and a splice
are what they are on lists.  Other bytes in a range, as many as before, keep the length and
leave the bytes around them alone, and so whatever is read in front of the range or behind it.
-/
import NetBoot.Bytes
import Mathlib.Data.List.Basic

namespace NetBoot.Bytes

variable {bytes replacement : Bytes} {start stop : Int}

theorem place_eq {length : Nat} {position : Int} (nonneg : 0 ≤ position)
    (within : position ≤ length) : place length position = position.toNat := by
  rw [place, if_neg (by omega), Nat.min_eq_left]
  omega

theorem slice_eq (nonneg : 0 ≤ start) (ordered : start ≤ stop) (within : stop ≤ bytes.length) :
    bytes.slice start stop = (bytes.drop start.toNat).take (stop.toNat - start.toNat) := by
  rw [slice, place_eq nonneg (by omega), place_eq (by omega) within]

theorem splice_eq (nonneg : 0 ≤ start) (ordered : start ≤ stop) (within : stop ≤ bytes.length) :
    bytes.splice start stop replacement =
      bytes.take start.toNat ++ replacement ++ bytes.drop stop.toNat := by
  rw [splice, place_eq nonneg (by omega), place_eq (by omega) within, Nat.max_eq_right]
  omega

/-- A number of bytes from a position on. -/
theorem slice_natCast {start count : Nat} (within : start + count ≤ bytes.length) :
    bytes.slice start (start + count) = (bytes.drop start).take count := by
  rw [slice_eq (by omega) (by omega) (by omega)]
  congr 1
  omega

/-- Other bytes for a number of bytes from a position on. -/
theorem splice_natCast {start count : Nat} (within : start + count ≤ bytes.length) :
    bytes.splice start (start + count) replacement =
      bytes.take start ++ replacement ++ bytes.drop (start + count) := by
  rw [splice_eq (by omega) (by omega) (by omega)]
  congr 2

/-- A range depends on the length and on what stands behind its start. -/
theorem slice_congr {other : Bytes} {start : Nat} (length : other.length = bytes.length)
    (rest : other.drop start = bytes.drop start) (within : start ≤ bytes.length) (stop : Int) :
    other.slice start stop = bytes.slice start stop := by
  rw [slice, slice, length, place_eq (Int.natCast_nonneg start) (Int.ofNat_le.mpr within),
    Int.toNat_natCast, rest]

/-- The whole of a byte string. -/
theorem slice_all (bytes : Bytes) : bytes.slice 0 bytes.length = bytes := by
  rw [slice_eq (Int.le_refl 0) (by omega) (Int.le_refl _)]
  simp

/-- As many bytes as were there before keep the length. -/
theorem length_splice (nonneg : 0 ≤ start) (within : stop ≤ bytes.length)
    (size : stop = start + replacement.length) :
    (bytes.splice start stop replacement).length = bytes.length := by
  rw [splice_eq nonneg (by omega) within]
  simp only [List.length_append, List.length_take, List.length_drop]
  omega

/-! ## Other bytes in a range of a list -/

section

variable {part : Bytes} {start stop : Nat}

/-- Other bytes in a range, as many as before, keep the length. -/
theorem length_patch (size : stop = start + part.length) (within : stop ≤ bytes.length) :
    (bytes.take start ++ part ++ bytes.drop stop).length = bytes.length := by
  simp only [List.length_append, List.length_take, List.length_drop]
  omega

/-- What stands in front of the range stays. -/
theorem take_patch (size : stop = start + part.length) (within : stop ≤ bytes.length) :
    (bytes.take start ++ part ++ bytes.drop stop).take start = bytes.take start := by
  rw [List.append_assoc, List.take_left']
  rw [List.length_take]
  omega

/-- What stands behind the range stays. -/
theorem drop_patch (size : stop = start + part.length) (within : stop ≤ bytes.length) :
    (bytes.take start ++ part ++ bytes.drop stop).drop stop = bytes.drop stop := by
  rw [List.drop_left']
  rw [List.length_append, List.length_take]
  omega

/-- What is read from the range is what was put there. -/
theorem read_patch (within : start ≤ bytes.length) (rest : Bytes) :
    ((bytes.take start ++ part ++ rest).drop start).take part.length = part := by
  rw [List.append_assoc, List.drop_left' (List.length_take_of_le within), List.take_left]

/-- Byte strings of one length that differ in a range at most. -/
structure AgreeOutside (start stop : Nat) (before after : Bytes) : Prop where
  length : after.length = before.length
  front : after.take start = before.take start
  rest : after.drop stop = before.drop stop

variable {before after : Bytes}

theorem agreeOutside_patch (size : stop = start + part.length) (within : stop ≤ bytes.length) :
    AgreeOutside start stop bytes (bytes.take start ++ part ++ bytes.drop stop) :=
  ⟨length_patch size within, take_patch size within, drop_patch size within⟩

theorem AgreeOutside.drop_eq (h : AgreeOutside start stop before after) {first : Nat}
    (behind : stop ≤ first) : after.drop first = before.drop first := by
  rw [← Nat.add_sub_cancel' behind, ← List.drop_drop, h.rest, List.drop_drop]

theorem AgreeOutside.take_eq (h : AgreeOutside start stop before after) {last : Nat}
    (inFront : last ≤ start) : after.take last = before.take last := by
  rw [← Nat.min_eq_left inFront, ← List.take_take, h.front, List.take_take]

/-- The same is read from any other range. -/
theorem AgreeOutside.read_eq (h : AgreeOutside start stop before after) {first count : Nat}
    (apart : first + count ≤ start ∨ stop ≤ first) :
    (after.drop first).take count = (before.drop first).take count := by
  rcases apart with inFront | behind
  · rw [List.take_drop, List.take_drop, h.take_eq inFront]
  · rw [h.drop_eq behind]

end

end NetBoot.Bytes
