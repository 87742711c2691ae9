/-
# Decimal numbers in texts

A number that is written in ASCII digits is read back, with zeros in front of it or not, and
with white space on both sides.  Only a number of more digits than the reader takes is refused.
-/
import NetBoot.Proofs.Text.Parts
import NetBoot.Text.Integer

namespace NetBoot.Text

variable {char : Char} {chars rest before after : List Char} {number : Nat}

/-- A number in decimal digits, with zeros in front of it as long as these are not too many. -/
def IsDecimal (number : Nat) (chars : List Char) : Prop :=
  (∃ zeros, chars = List.replicate zeros '0' ++ Nat.toDigits 10 number) ∧
    chars.length ≤ decimalDigitLimit

/-- The value of an ASCII digit. -/
def digitValue (char : Char) : Nat := char.toNat - 48

theorem toNat_of_isDigit (h : char.isDigit = true) : 48 ≤ char.toNat ∧ char.toNat ≤ 57 := by
  simpa [Char.isDigit, UInt32.le_iff_toNat_le] using h

theorem digitValue?_of_isDigit (h : char.isDigit = true) :
    digitValue? 10 char = some (digitValue char) := by
  have hrange := toNat_of_isDigit h
  rw [digitValue?, if_pos hrange, if_pos (by omega), digitValue]

/-- ASCII digits stand for themselves. -/
theorem plainDigit_of_isDigit (h : char.isDigit = true) : plainDigit char = char := by
  have hrange := toNat_of_isDigit h
  have hvalue : decimalValue? char = some (char.toNat - 48) := by
    rw [decimalValue?, zeroDigits, List.find?_cons_of_pos (by simp; omega)]
    rfl
  rw [plainDigit, hvalue]
  simp only
  rw [Nat.add_sub_of_le hrange.1, Char.ofNat_toNat]

theorem isNumberBlank_of_isDigit (h : char.isDigit = true) : isNumberBlank char = false := by
  have hrange := toNat_of_isDigit h
  rw [isNumberBlank, if_pos (by omega)]
  simp
  omega

theorem isBlank_of_isDigit (h : char.isDigit = true) : isBlank char = false := by
  have hrange := toNat_of_isDigit h
  simp [isBlank, blankRanges]
  omega

theorem takeSign_of_isDigit (h : char.isDigit = true) (rest : List Char) :
    takeSign (char :: rest) = (false, char :: rest) := by
  have hrange := toNat_of_isDigit h
  unfold takeSign
  split
  next hsame =>
    obtain ⟨rfl, -⟩ := List.cons.inj hsame
    exact absurd hrange.1 (by decide)
  next hsame =>
    obtain ⟨rfl, -⟩ := List.cons.inj hsame
    exact absurd hrange.1 (by decide)
  · rfl

/-- A run of digits is read digit by digit. -/
theorem digitRun?_digits (h : ∀ char ∈ chars, char.isDigit = true) :
    digitRun? 10 true chars = some (chars.map digitValue) := by
  induction chars with
  | nil => rfl
  | cons char rest ih =>
    rw [List.forall_mem_cons] at h
    have hne : char ≠ '_' := by
      rintro rfl
      exact absurd h.1 (by decide)
    rw [digitRun?, if_neg hne, digitValue?_of_isDigit h.1, ih h.2]
    rfl

/-- A run has to start with a digit, and may do so. -/
theorem digitRun?_eq_of_isDigit (h : char.isDigit = true) (rest : List Char) :
    digitRun? 10 false (char :: rest) = digitRun? 10 true (char :: rest) := by
  have hne : char ≠ '_' := by
    rintro rfl
    exact absurd h (by decide)
  rw [digitRun?, digitRun?, if_neg hne, if_neg hne]

theorem valueOfDigits_digits (chars : List Char) :
    valueOfDigits 10 (chars.map digitValue) = Nat.ofDigitChars 10 chars 0 := by
  rw [valueOfDigits, List.foldl_map, Nat.ofDigitChars_eq_foldl]
  simp only [Nat.mul_comm _ 10]
  rfl

namespace IsDecimal

theorem isDigit (h : IsDecimal number chars) : ∀ char ∈ chars, char.isDigit = true := by
  obtain ⟨⟨zeros, rfl⟩, -⟩ := h
  intro char mem
  rcases List.mem_append.mp mem with mem | mem
  · rw [List.eq_of_mem_replicate mem]
    rfl
  · exact Nat.isDigit_of_mem_toDigits (by decide) (by decide) mem

theorem ne_nil (h : IsDecimal number chars) : chars ≠ [] := by
  obtain ⟨⟨zeros, rfl⟩, -⟩ := h
  simp [Nat.toDigits_ne_nil]

theorem ofDigitChars (h : IsDecimal number chars) : Nat.ofDigitChars 10 chars 0 = number := by
  obtain ⟨⟨zeros, rfl⟩, -⟩ := h
  rw [Nat.ofDigitChars_append, Nat.ofDigitChars_replicate_zero]
  simp

/-- A decimal number is read, whatever white space stands around it. -/
theorem integer?_eq (h : IsDecimal number chars)
    (hbefore : ∀ char ∈ before, isNumberBlank char = true)
    (hafter : ∀ char ∈ after, isNumberBlank char = true) :
    integer? (String.ofList (before ++ chars ++ after)) = some (number : Int) := by
  have digits := h.isDigit
  have stripped := stripWhile_around hbefore hafter
    (endsStay_of_forall fun char mem => isNumberBlank_of_isDigit (digits char mem))
  have plain : chars.map plainDigit = chars := by
    rw [List.map_congr_left fun char mem => plainDigit_of_isDigit (digits char mem), List.map_id']
  have value : decimalNat? chars = some number := by
    rw [decimalNat?]
    obtain ⟨first, rest, rfl⟩ := List.exists_cons_of_ne_nil h.ne_nil
    rw [digitRun?_eq_of_isDigit (digits first List.mem_cons_self), digitRun?_digits digits]
    simp only [Option.bind_eq_bind, Option.bind_some]
    rw [List.length_map, if_pos h.2, valueOfDigits_digits, h.ofDigitChars]
    rfl
  have sign : takeSign chars = (false, chars) := by
    obtain ⟨first, rest, rfl⟩ := List.exists_cons_of_ne_nil h.ne_nil
    exact takeSign_of_isDigit (digits first List.mem_cons_self) rest
  rw [integer?, signed?, numberChars, String.toList_ofList, stripped, plain, sign]
  simp only [value]
  rfl

end IsDecimal
end NetBoot.Text
