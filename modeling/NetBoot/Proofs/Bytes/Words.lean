/-
# Numbers and texts as bytes

Writing a number or an ASCII text as bytes can fail.  Where it does not, the bytes are
known: a number is written by its low-order digits in base 256, and a text by the codes of
its characters.
-/
import NetBoot.Request
import Mathlib.Algebra.Group.Nat.Defs
import Mathlib.Data.List.Basic
import Mathlib.Data.List.Induction

namespace NetBoot

namespace Bytes

/-- The byte of a number that fits into one. -/
def low (value : Int) : UInt8 := UInt8.ofNat value.toNat

@[simp]
theorem length_zeros (count : Nat) : (zeros count).length = count :=
  List.length_replicate

@[simp]
theorem length_ofNat (width value : Nat) : (ofNat width value).length = width := by
  induction width generalizing value with
  | zero => rfl
  | succ width ih => rw [ofNat, List.length_append, ih, List.length_singleton]

/-- The number that bytes write has as many digits in base 256. -/
theorem toNat_lt (bytes : Bytes) : toNat bytes < 256 ^ bytes.length := by
  -- the digits read so far make up the number that the next ones are put behind
  have hfold (bytes : Bytes) (value : Nat) :
      bytes.foldl (fun value byte => value * 256 + byte.toNat) value <
        (value + 1) * 256 ^ bytes.length := by
    induction bytes generalizing value with
    | nil => simp
    | cons byte bytes ih =>
      rw [List.foldl_cons, List.length_cons]
      calc bytes.foldl (fun value byte => value * 256 + byte.toNat) (value * 256 + byte.toNat)
          < (value * 256 + byte.toNat + 1) * 256 ^ bytes.length := ih _
        _ ≤ (value + 1) * 256 * 256 ^ bytes.length := by
          have hbyte := byte.toNat_lt
          exact Nat.mul_le_mul_right _ (by omega)
        _ = (value + 1) * 256 ^ (bytes.length + 1) := by
          rw [Nat.pow_succ, Nat.mul_assoc, Nat.mul_comm 256]
  have hbytes := hfold bytes 0
  rw [Nat.zero_add, Nat.one_mul] at hbytes
  exact hbytes

/-- The digits of the number that bytes write are these bytes. -/
theorem ofNat_toNat (bytes : Bytes) : ofNat bytes.length (toNat bytes) = bytes := by
  induction bytes using List.reverseRecOn with
  | nil => rfl
  | append_singleton bytes byte ih =>
    have hnumber : toNat (bytes ++ [byte]) = toNat bytes * 256 + byte.toNat := List.foldl_append
    have hbyte := byte.toNat_lt
    rw [List.length_append, List.length_singleton, ofNat, hnumber,
      show (toNat bytes * 256 + byte.toNat) / 256 = toNat bytes by omega,
      show (toNat bytes * 256 + byte.toNat) % 256 = byte.toNat by omega, ih, UInt8.ofNat_toNat]

/-- The number that digits write is the one that they were made of. -/
theorem toNat_ofNat {width value : Nat} (h : value < 256 ^ width) :
    toNat (ofNat width value) = value := by
  induction width generalizing value with
  | zero =>
    rw [Nat.pow_zero] at h
    rw [Nat.lt_one_iff.mp h]
    rfl
  | succ width ih =>
    have hfront : value / 256 < 256 ^ width := Nat.div_lt_of_lt_mul (by rwa [Nat.pow_succ'] at h)
    have hnumber : toNat (ofNat (width + 1) value) =
        toNat (ofNat width (value / 256)) * 256 + (UInt8.ofNat (value % 256)).toNat :=
      List.foldl_append
    rw [hnumber, ih hfront, UInt8.toNat_ofNat']
    omega

/-- Leading bytes make a word, with zeros in front of them if there are too few. -/
theorem length_padLeft_take (width : Nat) (bytes : Bytes) :
    (padLeft width (bytes.take width)).length = width := by
  rw [padLeft, List.length_append, length_zeros, List.length_take]
  omega

/-- Bytes that are not too many are filled up to the width. -/
theorem length_padRight {width : Nat} {bytes : Bytes} (short : bytes.length ≤ width) :
    (padRight width bytes).length = width := by
  rw [padRight, List.length_append, length_zeros]
  omega

/-- The number in a word is written as this word. -/
theorem word?_toNat {width : Nat} {word : Bytes} (full : word.length = width) :
    word? width (toNat word) = some word := by
  subst full
  have fits : 0 ≤ (toNat word : Int) ∧ (toNat word : Int) < Nat.pow 256 word.length :=
    ⟨Int.natCast_nonneg _, Int.ofNat_lt.mpr (toNat_lt word)⟩
  rw [word?, if_pos fits, Int.toNat_natCast, ofNat_toNat]

theorem ofNat_of_word? {width : Nat} {value : Int} {bytes : Bytes}
    (h : word? width value = some bytes) : bytes = ofNat width value.toNat := by
  rw [word?] at h
  split at h
  · exact (Option.some.inj h).symm
  · cases h

theorem low_of_byte? {value : Int} {byte : UInt8} (h : byte? value = some byte) :
    0 ≤ value ∧ value < 256 ∧ byte = low value := by
  rw [byte?] at h
  split at h
  next hrange => exact ⟨hrange.1, hrange.2, (Option.some.inj h).symm⟩
  · cases h

theorem low_of_mapM {values : List Int} {bytes : Bytes} (h : values.mapM byte? = some bytes) :
    bytes = values.map low := by
  induction values generalizing bytes with
  | nil => exact (Option.some.inj h).symm
  | cons value values ih =>
    rw [List.mapM_cons, Option.bind_eq_bind, Option.bind_eq_some_iff] at h
    obtain ⟨byte, hbyte, h⟩ := h
    rw [Option.bind_eq_bind, Option.bind_eq_some_iff] at h
    obtain ⟨rest, hrest, hcons⟩ := h
    rw [← Option.some.inj hcons, List.map_cons, ← ih hrest, (low_of_byte? hbyte).2.2]

end Bytes

namespace Text.Utf8

theorem toList_loop (bytes : ByteArray) (start : Nat) (front : List UInt8) :
    ByteArray.toList.loop bytes start front = front.reverse ++ bytes.data.toList.drop start := by
  induction start, front using ByteArray.toList.loop.induct bytes with
  | case1 start front within ih =>
    have hstart : start < bytes.data.toList.length := within
    have hbyte : bytes.get! start = bytes.data.toList[start] := by
      simp [ByteArray.get!, getElem!_pos bytes.data start within]
    rw [ByteArray.toList.loop, if_pos within, ih, List.reverse_cons, List.append_assoc,
      List.drop_eq_getElem_cons hstart, hbyte]
    rfl
  | case2 start front beyond =>
    rw [ByteArray.toList.loop, if_neg beyond, List.drop_eq_nil_of_le (Nat.not_lt.mp beyond),
      List.append_nil]

/-- An ASCII text is written by the codes of its characters. -/
theorem encode_of_ascii {text : String} (h : ∀ char ∈ text.toList, char.toNat < 128) :
    encode text = text.toList.map fun char => UInt8.ofNat char.toNat := by
  rw [encode, ByteArray.toList, toList_loop, String.toUTF8, ← String.utf8Encode_toList,
    List.utf8Encode, List.toList_data_toByteArray, List.map_eq_flatMap]
  apply List.flatMap_congr
  intro char mem
  have hsize : char.utf8Size = 1 := by
    have hcode : char.val ≤ 127 := Nat.le_of_lt_succ (h char mem)
    rw [Char.utf8Size]
    exact if_pos hcode
  rw [String.utf8EncodeChar_eq_singleton hsize]
  rfl

end Text.Utf8

namespace Request

theorem ofNat_of_word {value : Int} {bytes : Bytes} (h : word value = .ok bytes) :
    bytes = Bytes.ofNat 2 value.toNat := by
  rw [word] at h
  split at h
  next hword => exact Except.ok.inj h ▸ Bytes.ofNat_of_word? hword
  · cases h

theorem low_of_byteList {values : List Int} {bytes : Bytes} (h : byteList values = .ok bytes) :
    bytes = values.map Bytes.low := by
  rw [byteList] at h
  split at h
  next found hfound => exact Except.ok.inj h ▸ Bytes.low_of_mapM hfound
  · cases h

theorem codes_of_ascii {text : String} {bytes : Bytes} (h : ascii text = .ok bytes) :
    bytes = text.toList.map fun char => UInt8.ofNat char.toNat := by
  rw [ascii] at h
  split at h
  next hascii =>
    rw [List.all_eq_true] at hascii
    rw [← Except.ok.inj h]
    exact Text.Utf8.encode_of_ascii fun char mem => of_decide_eq_true (hascii char mem)
  · cases h

end Request
end NetBoot
