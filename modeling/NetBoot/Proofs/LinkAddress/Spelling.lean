/-
# How link-layer addresses are spelled

A link-layer address is written as pairs of hexadecimal digits between colons.  Others may
spell it differently: colons and dashes count for nothing, wherever they stand, a letter may
be a capital, and white space may stand around the pairs.  Every spelling of an address is
read as this address, and a text that spells none is refused.
-/
import NetBoot.LinkAddress
import Mathlib.Data.List.Forall2

namespace NetBoot

namespace Bytes

variable {char : Char} {value : Nat} {bytes : Bytes} {chars other : List Char}

/-! ## Digits and white space -/

/-- A hexadecimal digit of either case. -/
def IsHexDigit (char : Char) : Prop :=
  '0' ≤ char ∧ char ≤ '9' ∨ 'a' ≤ char ∧ char ≤ 'f' ∨ 'A' ≤ char ∧ char ≤ 'F'

instance decidableIsHexDigit (char : Char) : Decidable (IsHexDigit char) :=
  inferInstanceAs (Decidable (_ ∧ _ ∨ _ ∧ _ ∨ _ ∧ _))

/-- The white space of ASCII. -/
def asciiSpaces : List Char := [' ', '\t', '\n', '\x0b', '\x0c', '\r']

theorem isHexDigit_iff : IsHexDigit char ↔
    48 ≤ char.toNat ∧ char.toNat ≤ 57 ∨ 97 ≤ char.toNat ∧ char.toNat ≤ 102 ∨
      65 ≤ char.toNat ∧ char.toNat ≤ 70 :=
  Iff.rfl

theorem isGap_iff : isGap char = true ↔ char.toNat = 32 ∨ 9 ≤ char.toNat ∧ char.toNat ≤ 13 := by
  simp [isGap]

theorem isGap_iff_mem : isGap char = true ↔ char ∈ asciiSpaces := by
  constructor
  · intro gap
    have codes : char.toNat ∈ [32, 9, 10, 11, 12, 13] := by
      have hrange := isGap_iff.mp gap
      simp only [List.mem_cons, List.not_mem_nil, or_false]
      omega
    have table : ∀ code ∈ [32, 9, 10, 11, 12, 13], Char.ofNat code ∈ asciiSpaces := by decide
    exact Char.ofNat_toNat char ▸ table _ codes
  · have table : asciiSpaces.all isGap = true := by decide
    exact List.all_eq_true.mp table char

theorem isSome_hexValue?_iff : (hexValue? char).isSome = true ↔ IsHexDigit char := by
  rw [isHexDigit_iff, hexValue?]
  split_ifs <;> simp_all

/-- No digit is white space. -/
theorem isGap_of_isHexDigit (h : IsHexDigit char) : isGap char = false := by
  rw [isHexDigit_iff] at h
  rw [Bool.eq_false_iff, Ne, isGap_iff]
  omega

theorem isHexDigit_of_hexValue? (h : hexValue? char = some value) : IsHexDigit char := by
  rw [← isSome_hexValue?_iff, h]
  rfl

/-- Each of the sixteen digits has its own value. -/
theorem hexValue?_hexDigit (h : value < 16) : hexValue? (hexDigit value) = some value := by
  have table : ∀ value < 16, hexValue? (hexDigit value) = some value := by decide
  exact table value h

/-! ## Hexadecimal text -/

/-- The ways to write a byte string as hexadecimal text: a pair of digits for each byte, and
white space around the pairs. -/
inductive HexText : Bytes → List Char → Prop
  | nil : HexText [] []
  | space {bytes : Bytes} {char : Char} {chars : List Char} (space : isGap char = true)
      (later : HexText bytes chars) : HexText bytes (char :: chars)
  | pair {bytes : Bytes} {high low : Char} {upper lower : Nat} {chars : List Char}
      (first : hexValue? high = some upper) (second : hexValue? low = some lower)
      (later : HexText bytes chars) :
      HexText (UInt8.ofNat (upper * 16 + lower) :: bytes) (high :: low :: chars)

/-- White space in front of a text is skipped. -/
theorem ofHexDigits?_cons_of_gap (h : isGap char = true) (chars : List Char) :
    ofHexDigits? (char :: chars) = ofHexDigits? chars := by
  cases chars with
  | nil => exact if_pos h
  | cons low rest => exact if_pos h

/-- What is read is what hexadecimal text writes. -/
theorem ofHexDigits?_eq_some_iff : ofHexDigits? chars = some bytes ↔ HexText bytes chars := by
  constructor
  · intro h
    fun_induction ofHexDigits? chars generalizing bytes with
    | case1 => exact Option.some.inj h ▸ .nil
    | case2 single gap => exact Option.some.inj h ▸ .space gap .nil
    | case3 => cases h
    | case4 high low rest gap ih => exact .space gap (ih h)
    | case5 high low rest gap ih =>
      obtain ⟨upper, first, h⟩ := Option.bind_eq_some_iff.mp h
      obtain ⟨lower, second, h⟩ := Option.bind_eq_some_iff.mp h
      obtain ⟨later, hlater, hbytes⟩ := Option.bind_eq_some_iff.mp h
      exact Option.some.inj hbytes ▸ .pair first second (ih hlater)
  · intro h
    induction h with
    | nil => rfl
    | space space later ih => rw [ofHexDigits?_cons_of_gap space, ih]
    | pair first second later ih =>
      have digit := isGap_of_isHexDigit (isHexDigit_of_hexValue? first)
      rw [ofHexDigits?, if_neg (by rw [digit]; decide), first, second, ih]
      rfl

/-- The digits of a byte string write it. -/
theorem hexText_hexDigits (bytes : Bytes) : HexText bytes (hexDigits bytes) := by
  induction bytes with
  | nil => exact .nil
  | cons byte bytes ih =>
    have hbyte := byte.toNat_lt
    have high := hexValue?_hexDigit (show byte.toNat / 16 < 16 by omega)
    have low := hexValue?_hexDigit (show byte.toNat % 16 < 16 by omega)
    have pair := HexText.pair high low ih
    rwa [show byte.toNat / 16 * 16 + byte.toNat % 16 = byte.toNat by omega,
      UInt8.ofNat_toNat] at pair

namespace HexText

/-- Only digits and white space write bytes. -/
theorem isHexDigit_or_isGap (h : HexText bytes chars) :
    ∀ char ∈ chars, IsHexDigit char ∨ isGap char = true := by
  induction h with
  | nil => exact List.forall_mem_nil _
  | space space later ih => exact List.forall_mem_cons.mpr ⟨.inr space, ih⟩
  | pair first second later ih =>
    exact List.forall_mem_cons.mpr ⟨.inl (isHexDigit_of_hexValue? first),
      List.forall_mem_cons.mpr ⟨.inl (isHexDigit_of_hexValue? second), ih⟩⟩

/-- There are two digits for each byte. -/
theorem countP_isHexDigit (h : HexText bytes chars) :
    chars.countP (fun char => IsHexDigit char) = 2 * bytes.length := by
  induction h with
  | nil => rfl
  | space space later ih =>
    rw [List.countP_cons_of_neg, ih]
    intro digit
    rw [isGap_of_isHexDigit (of_decide_eq_true digit)] at space
    cases space
  | pair first second later ih =>
    have high := decide_eq_true (isHexDigit_of_hexValue? first)
    have low := decide_eq_true (isHexDigit_of_hexValue? second)
    simp only [List.countP_cons, high, low, ih, if_true, List.length_cons]
    omega

end HexText

/-! ## Capitals -/

/-- A capital is the same digit, and nothing else becomes a digit or white space. -/
theorem toUpper_alike (char : Char) :
    hexValue? char.toUpper = hexValue? char ∧ isGap char.toUpper = isGap char ∧
      LinkAddress.isSeparator char.toUpper = LinkAddress.isSeparator char := by
  by_cases ascii : char.toNat < 128
  · have table : ∀ code < 128, hexValue? (Char.ofNat code).toUpper = hexValue? (Char.ofNat code) ∧
        isGap (Char.ofNat code).toUpper = isGap (Char.ofNat code) ∧
        LinkAddress.isSeparator (Char.ofNat code).toUpper =
          LinkAddress.isSeparator (Char.ofNat code) := by
      decide
    exact Char.ofNat_toNat char ▸ table _ ascii
  · have same : char.toUpper = char := dif_neg fun lower =>
      ascii (Nat.lt_of_le_of_lt (UInt32.le_iff_toNat_le.mp lower.2) (by decide))
    rw [same]
    exact ⟨rfl, rfl, rfl⟩

/-- The letters of a text may be capitals. -/
theorem HexText.recase (h : HexText bytes chars)
    (recased : List.Forall₂ (fun char other => other = char ∨ other = char.toUpper) chars other) :
    HexText bytes other := by
  have alike {char other : Char} (same : other = char ∨ other = char.toUpper) :
      hexValue? other = hexValue? char ∧ isGap other = isGap char := by
    rcases same with rfl | rfl
    · exact ⟨rfl, rfl⟩
    · exact ⟨(toUpper_alike char).1, (toUpper_alike char).2.1⟩
  induction h generalizing other with
  | nil =>
    cases recased
    exact .nil
  | space space later ih =>
    cases recased with
    | cons same rest => exact .space ((alike same).2.trans space) (ih rest)
  | pair first second later ih =>
    cases recased with
    | cons high rest =>
      cases rest with
      | cons low rest =>
        exact .pair ((alike high).1.trans first) ((alike low).1.trans second) (ih rest)

end Bytes

namespace LinkAddress

variable {address : Bytes} {text : String} {written spelled : List Char}

/-- A text without its colons and dashes. -/
def bare (text : String) : List Char :=
  text.toList.filter fun char => char ≠ ':' ∧ char ≠ '-'

/-- Other spellings of a text: letters may be capitals, and each colon may be a dash or be left
out. -/
inductive Respells : List Char → List Char → Prop
  | nil : Respells [] []
  | same {written spelled : List Char} (char : Char) (later : Respells written spelled) :
      Respells (char :: written) (char :: spelled)
  | capital {written spelled : List Char} (char : Char) (later : Respells written spelled) :
      Respells (char :: written) (char.toUpper :: spelled)
  | dash {written spelled : List Char} (later : Respells written spelled) :
      Respells (':' :: written) ('-' :: spelled)
  | omitted {written spelled : List Char} (later : Respells written spelled) :
      Respells (':' :: written) spelled

theorem bare_eq (text : String) : bare text = text.toList.filter (!isSeparator ·) := by
  refine List.filter_congr fun char _ => ?_
  rw [Bool.eq_iff_iff]
  simp [isSeparator]

theorem ofText?_eq_some_iff : ofText? text = some address ↔ Bytes.HexText address (bare text) := by
  rw [bare_eq, ← Bytes.ofHexDigits?_eq_some_iff]
  rfl

theorem filter_hexPair (byte : UInt8) :
    (Bytes.hexPair byte).filter (!isSeparator ·) = Bytes.hexPair byte := by
  have table : ∀ value < 16, isSeparator (Bytes.hexDigit value) = false := by decide
  have hbyte := byte.toNat_lt
  simp [Bytes.hexPair, table (byte.toNat / 16) (by omega), table (byte.toNat % 16) (by omega)]

/-- Without its colons, the text of an address is its digits. -/
theorem bare_toText (address : Bytes) : bare (toText address) = Bytes.hexDigits address := by
  have pairs : ([':'].intercalate (address.map Bytes.hexPair)).filter (!isSeparator ·) =
      Bytes.hexDigits address := by
    induction address with
    | nil => rfl
    | cons byte rest ih =>
      cases rest with
      | nil => simpa [List.intercalate, Bytes.hexDigits] using filter_hexPair byte
      | cons next rest =>
        rw [List.map_cons] at ih
        rw [List.map_cons, List.map_cons, List.intercalate_cons_cons, List.filter_append, ih,
          List.filter_append, filter_hexPair]
        exact congrArg (· ++ _) (List.append_nil _)
  rw [bare_eq, toText, Bytes.toColonHex, String.toList_intercalate, List.map_map, ← pairs]
  simp [Function.comp_def]

/-- Other spellings differ in capitals only, once colons and dashes are gone. -/
theorem Respells.recased (h : Respells written spelled) :
    List.Forall₂ (fun char other => other = char ∨ other = char.toUpper)
      (written.filter (!isSeparator ·)) (spelled.filter (!isSeparator ·)) := by
  induction h with
  | nil => exact .nil
  | same char later ih =>
    by_cases separator : isSeparator char = true
    · simpa [separator] using ih
    · simpa [separator] using ih
  | capital char later ih =>
    have alike := (Bytes.toUpper_alike char).2.2
    by_cases separator : isSeparator char = true
    · simpa [alike, separator] using ih
    · simpa [alike, separator] using ih
  | dash later ih => simpa [isSeparator] using ih
  | omitted later ih => simpa [isSeparator] using ih

/-- The text of an address is read as this address, and so is every other spelling of it, with
dashes for colons or nothing between the bytes and with any letters as capitals.  A text is read
as an address if and only if, without colons and dashes, it has a pair of digits for each byte
and white space around the pairs alone.  So what is read is read again from its own text, and a
text with anything but digits and white space, or with an odd number of digits, is refused. -/
theorem spellings_are_read (text : String) :
    (∀ address, ofText? (toText address) = some address ∧
      (Respells (toText address).toList text.toList → ofText? text = some address)) ∧
    (∀ address, ofText? text = some address ↔ Bytes.HexText address (bare text)) ∧
    (ofText? text = none ∨ ∃ address, ofText? text = some address ∧
      ofText? (toText address) = some address) ∧
    ((∃ char ∈ bare text, ¬ Bytes.IsHexDigit char ∧ char ∉ Bytes.asciiSpaces) ∨
      (bare text).countP (fun char => Bytes.IsHexDigit char) % 2 = 1 → ofText? text = none) := by
  have written (address : Bytes) : Bytes.HexText address (bare (toText address)) :=
    bare_toText address ▸ Bytes.hexText_hexDigits address
  have reads (address : Bytes) : ofText? (toText address) = some address :=
    ofText?_eq_some_iff.mpr (written address)
  refine ⟨fun address => ⟨reads address, fun respells => ?_⟩, fun _ => ofText?_eq_some_iff, ?_, ?_⟩
  · have spelled := respells.recased
    rw [← bare_eq, ← bare_eq] at spelled
    exact ofText?_eq_some_iff.mpr ((written address).recase spelled)
  · cases h : ofText? text with
    | none => exact .inl rfl
    | some address => exact .inr ⟨address, rfl, reads address⟩
  · intro faulty
    by_contra found
    obtain ⟨address, h⟩ := Option.ne_none_iff_exists'.mp found
    have spells := ofText?_eq_some_iff.mp h
    rcases faulty with ⟨char, mem, digit, space⟩ | odd
    · rcases spells.isHexDigit_or_isGap char mem with known | gap
      · exact digit known
      · exact space (Bytes.isGap_iff_mem.mp gap)
    · rw [spells.countP_isHexDigit] at odd
      omega

/-- A text with a dash, a colon left out and two capitals, and one with three digits. -/
theorem capitals_and_dash_are_read :
    Respells (toText [0xaa, 0x0b, 0xcd]).toList "Aa-0bcD".toList ∧
    ofText? "Aa-0bcD" = some [0xaa, 0x0b, 0xcd] ∧
    (bare "aa:b").countP (fun char => Bytes.IsHexDigit char) % 2 = 1 ∧
    ofText? "aa:b" = none := by
  have respells : Respells (toText [0xaa, 0x0b, 0xcd]).toList "Aa-0bcD".toList :=
    .capital 'a' <| .same 'a' <| .dash <| .same '0' <| .same 'b' <| .omitted <| .same 'c' <|
      .capital 'd' .nil
  have odd : (bare "aa:b").countP (fun char => Bytes.IsHexDigit char) % 2 = 1 := by decide
  exact ⟨respells, ((spellings_are_read "Aa-0bcD").1 _).2 respells, odd,
    (spellings_are_read "aa:b").2.2.2 (.inr odd)⟩

end LinkAddress
end NetBoot
