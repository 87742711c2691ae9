/-
# Feature lists as they are written

A feature list is written as it comes: names in any letter case, versions in digits behind a
colon or not at all, spaces and tabs around each part, and commas with nothing between them.
All of this is read as the list that was meant.  A text is no feature list if and only if one of
its items is faulty: it has a name that is not in the table, or a version that is no number or
does not fit into a byte.
-/
import NetBoot.Feature
import NetBoot.Proofs.Text.Decimal
import Mathlib.Data.List.Basic

namespace NetBoot.Feature

/-! ## Writing a list -/

/-- A feature of the table as a list names it, with a version that may be left out. -/
structure Listed where
  name : String
  code : Nat
  known : (name, code) ∈ codes
  version : Option UInt8

/-- The feature that is meant; its version is one unless it is given. -/
def Listed.feature (listed : Listed) : Feature := ⟨listed.code, [listed.version.getD 1]⟩

/-- A text of spaces and tabs. -/
def IsPadding (chars : List Char) : Prop := ∀ char ∈ chars, char = ' ' ∨ char = '\t'

/-- A feature as an item of a list: its name in any letter case, and behind a colon its version in
digits if that is given, each with padding around it. -/
inductive Spells (listed : Listed) : List Char → Prop
  | named {before letters after : List Char}
      (spelled : letters.map Char.toUpper = listed.name.toList) (omitted : listed.version = none)
      (padded : IsPadding before ∧ IsPadding after) : Spells listed (before ++ letters ++ after)
  | versioned {before letters gap indent digits after : List Char} {version : UInt8}
      (spelled : letters.map Char.toUpper = listed.name.toList)
      (given : listed.version = some version) (written : Text.IsDecimal version.toNat digits)
      (padded : (IsPadding before ∧ IsPadding gap) ∧ IsPadding indent ∧ IsPadding after) :
      Spells listed (before ++ (letters ++ (gap ++ ':' :: indent) ++ digits) ++ after)

/-- The items of a list of features.  Blank ones may stand anywhere among them. -/
inductive Lists : List Listed → List (List Char) → Prop
  | nil : Lists [] []
  | blank {padding : List Char} {listed : List Listed} {items : List (List Char)}
      (padded : IsPadding padding) (prior : Lists listed items) : Lists listed (padding :: items)
  | feature {first : Listed} {item : List Char} {listed : List Listed} {items : List (List Char)}
      (spells : Spells first item) (prior : Lists listed items) :
      Lists (first :: listed) (item :: items)

variable {listed : Listed} {item letters padding : List Char} {char : Char}

/-! ## Names and padding -/

theorem IsPadding.isBlank (h : IsPadding padding) : ∀ char ∈ padding, Text.isBlank char = true := by
  intro char mem
  rcases h char mem with rfl | rfl <;> decide

theorem IsPadding.isNumberBlank (h : IsPadding padding) :
    ∀ char ∈ padding, Text.isNumberBlank char = true := by
  intro char mem
  rcases h char mem with rfl | rfl <;> decide

theorem IsPadding.not_mem (h : IsPadding padding) (space : char ≠ ' ') (tab : char ≠ '\t') :
    char ∉ padding := by
  intro mem
  rcases h char mem with same | same
  · exact space same
  · exact tab same

/-- A character of a name in the table, in any letter case. -/
def IsNameChar (char : Char) : Prop :=
  65 ≤ char.toNat ∧ char.toNat ≤ 90 ∨ char.toNat = 95 ∨ 97 ≤ char.toNat ∧ char.toNat ≤ 122

instance decidableIsNameChar (char : Char) : Decidable (IsNameChar char) :=
  inferInstanceAs (Decidable (_ ∧ _ ∨ _ ∨ _ ∧ _))

theorem isNameChar_of_toUpper (h : IsNameChar char.toUpper) : IsNameChar char := by
  by_cases lower : char.isLower = true
  · obtain ⟨least, greatest⟩ := Bool.and_eq_true_iff.mp lower
    exact .inr (.inr ⟨UInt32.le_iff_toNat_le.mp (of_decide_eq_true least),
      UInt32.le_iff_toNat_le.mp (of_decide_eq_true greatest)⟩)
  · have same : char.toUpper = char := dif_neg fun ⟨least, greatest⟩ =>
      lower (Bool.and_eq_true_iff.mpr ⟨decide_eq_true least, decide_eq_true greatest⟩)
    rwa [same] at h

theorem IsNameChar.isBlank (h : IsNameChar char) : Text.isBlank char = false := by
  simp only [IsNameChar] at h
  simp [Text.isBlank, Text.blankRanges]
  omega

/-- What spells a name is not empty and has no blanks, commas and colons. -/
theorem isNameChar_of_spelled (spelled : letters.map Char.toUpper = listed.name.toList) :
    letters ≠ [] ∧ ∀ char ∈ letters, IsNameChar char := by
  have table : ∀ entry ∈ codes, entry.1.toList ≠ [] ∧
      entry.1.toList.all fun char => IsNameChar char := by
    decide +kernel
  obtain ⟨given, chars⟩ := table _ listed.known
  rw [← spelled] at given chars
  refine ⟨by simpa using given, fun char mem => isNameChar_of_toUpper ?_⟩
  exact of_decide_eq_true (List.all_eq_true.mp chars _ (List.mem_map_of_mem mem))

theorem IsNameChar.not_mem {separator : Char} (h : ∀ char ∈ letters, IsNameChar char)
    (other : ¬ IsNameChar separator) : separator ∉ letters :=
  fun mem => other (h separator mem)

theorem asciiUpper?_spelled (spelled : letters.map Char.toUpper = listed.name.toList) :
    Text.asciiUpper? (String.ofList letters) = some listed.name := by
  have capitals (letters : List Char) (h : ∀ char ∈ letters, IsNameChar char) :
      letters.mapM Text.asciiCapital? = some (letters.map fun char => [char.toUpper]) := by
    induction letters with
    | nil => rfl
    | cons char letters ih =>
      rw [List.forall_mem_cons] at h
      have ascii : char.toNat < 128 := by
        have hrange := h.1
        simp only [IsNameChar] at hrange
        omega
      rw [List.mapM_cons, Text.asciiCapital?, if_pos ascii, ih h.2]
      rfl
  rw [Text.asciiUpper?, String.toList_ofList, capitals letters (isNameChar_of_spelled spelled).2,
    Option.map_some, ← List.flatMap_def, ← List.map_eq_flatMap, spelled, String.ofList_toList]

/-- A name in any letter case has its code in the table. -/
theorem codeOf?_spelled (spelled : letters.map Char.toUpper = listed.name.toList)
    (padded : IsPadding padding) :
    codeOf? (String.ofList (letters ++ padding)) = some listed.code := by
  have table : ∀ entry ∈ codes, List.lookup entry.1 codes = some entry.2 := by decide +kernel
  have chars := (isNameChar_of_spelled spelled).2
  have stripped := Text.stripWhile_around (List.forall_mem_nil _) padded.isBlank
    (Text.endsStay_of_forall fun char mem => (chars char mem).isBlank)
  rw [List.nil_append] at stripped
  rw [codeOf?, Text.strip, String.toList_ofList, stripped, asciiUpper?_spelled spelled]
  exact table _ listed.known

/-! ## Reading an item -/

theorem versionByte?_written {indent digits : List Char} {version : UInt8}
    (written : Text.IsDecimal version.toNat digits) (padded : IsPadding indent) :
    versionByte? (indent ++ digits) = some version := by
  have number := written.integer?_eq padded.isNumberBlank (List.forall_mem_nil _)
  rw [List.append_nil] at number
  have given : (indent ++ digits).isEmpty = false := by simp [written.ne_nil]
  have fits : Bytes.byte? (version.toNat : Int) = some (UInt8.ofNat version.toNat) := by
    have hlt := version.toNat_lt
    exact if_pos (by omega)
  rw [versionByte?, given, if_neg (by decide), number, Option.bind_some, fits, UInt8.ofNat_toNat]

/-- What spells a feature is neither blank nor divided by a comma, and is read as the feature. -/
theorem ofItem_spells (spells : Spells listed item) :
    ',' ∉ item ∧ Text.stripWhile Text.isBlank item ≠ [] ∧
      ofItem (Text.stripWhile Text.isBlank item) = .ok listed.feature := by
  cases spells with
  | @named before letters after spelled omitted padded =>
    obtain ⟨given, chars⟩ := isNameChar_of_spelled spelled
    have stripped := Text.stripWhile_around padded.1.isBlank padded.2.isBlank
      (Text.endsStay_of_forall fun char mem => (chars char mem).isBlank)
    refine ⟨?_, by rwa [stripped], ?_⟩
    · simp only [List.mem_append, not_or]
      exact ⟨⟨padded.1.not_mem (by decide) (by decide), IsNameChar.not_mem chars (by decide)⟩,
        padded.2.not_mem (by decide) (by decide)⟩
    · have code := codeOf?_spelled spelled (show IsPadding [] from List.forall_mem_nil _)
      rw [List.append_nil] at code
      rw [stripped, ofItem, Text.cutAt_of_not_mem (IsNameChar.not_mem chars (by decide))]
      simp only [code]
      rw [Listed.feature, omitted]
      rfl
  | @versioned before letters gap indent digits after version spelled given written padded =>
    obtain ⟨letters_ne, chars⟩ := isNameChar_of_spelled spelled
    obtain ⟨⟨hbefore, hgap⟩, hindent, hafter⟩ := padded
    have digitsOnly := written.isDigit
    have stripped := Text.stripWhile_around hbefore.isBlank hafter.isBlank
      (Text.endsStay_append
        (Text.endsStay_of_forall fun char mem => (chars char mem).isBlank)
        (Text.endsStay_of_forall fun char mem => Text.isBlank_of_isDigit (digitsOnly char mem))
        letters_ne written.ne_nil (gap ++ ':' :: indent))
    have digits_not_comma : ',' ∉ digits := fun mem => absurd (digitsOnly _ mem) (by decide)
    refine ⟨?_, by rw [stripped]; simp, ?_⟩
    · simp only [List.mem_append, List.mem_cons, not_or]
      exact ⟨⟨hbefore.not_mem (by decide) (by decide),
        ⟨IsNameChar.not_mem chars (by decide), hgap.not_mem (by decide) (by decide), by decide,
          hindent.not_mem (by decide) (by decide)⟩, digits_not_comma⟩,
        hafter.not_mem (by decide) (by decide)⟩
    · have name : ':' ∉ letters ++ gap := by
        rw [List.mem_append, not_or]
        exact ⟨IsNameChar.not_mem chars (by decide), hgap.not_mem (by decide) (by decide)⟩
      have parts : letters ++ (gap ++ ':' :: indent) ++ digits =
          letters ++ gap ++ ':' :: (indent ++ digits) := by simp
      rw [stripped, parts, ofItem, Text.cutAt_append name]
      simp only [codeOf?_spelled spelled hgap, versionByte?_written written hindent]
      rw [Listed.feature, given]
      rfl

/-! ## Reading a list -/

theorem itemsOf_intercalate {items : List (List Char)} (h : ∀ item ∈ items, ',' ∉ item) :
    itemsOf (String.ofList ([','].intercalate items)) =
      (items.map (Text.stripWhile Text.isBlank)).filter (!·.isEmpty) := by
  rw [itemsOf, String.toList_ofList, Text.splitAt_eq_splitOn]
  cases items with
  | nil => rfl
  | cons item items => rw [List.splitOn_intercalate ',' h (by simp)]

theorem Lists.not_mem {all : List Listed} {items : List (List Char)} (lists : Lists all items) :
    ∀ item ∈ items, ',' ∉ item := by
  induction lists with
  | nil => simp
  | blank padded _ ih =>
    exact List.forall_mem_cons.mpr ⟨padded.not_mem (by decide) (by decide), ih⟩
  | feature spells _ ih => exact List.forall_mem_cons.mpr ⟨(ofItem_spells spells).1, ih⟩

/-- The items that are not blank are read as the features that they spell. -/
theorem Lists.mapM_ofItem {all : List Listed} {items : List (List Char)} (lists : Lists all items) :
    ((items.map (Text.stripWhile Text.isBlank)).filter (!·.isEmpty)).mapM ofItem =
      .ok (all.map Listed.feature) := by
  induction lists with
  | nil => rfl
  | blank padded _ ih =>
    rw [List.map_cons, Text.stripWhile_eq_nil padded.isBlank, List.filter_cons_of_neg (by simp), ih]
  | feature spells _ ih =>
    obtain ⟨-, given, read⟩ := ofItem_spells spells
    rw [List.map_cons, List.filter_cons_of_pos (by simpa using given), List.mapM_cons, read, ih]
    rfl

/-! ## Texts that are no list -/

/-- What stands between the commas of a text, stripped, where it is not blank. -/
def itemsBetweenCommas (text : String) : List (List Char) :=
  ((text.toList.splitOn ',').map (Text.stripWhile Text.isBlank)).filter (· ≠ [])

theorem itemsOf_eq (text : String) : itemsOf text = itemsBetweenCommas text := by
  rw [itemsOf, itemsBetweenCommas, Text.splitAt_eq_splitOn]
  refine List.filter_congr fun item _ => ?_
  cases item <;> rfl

/-- An item that names no feature of the table, or gives a version that is no number or does not
fit into a byte. -/
inductive Faulty (item : List Char) : Prop
  | name (unknown : ∀ upper,
      Text.asciiUpper? (Text.strip (String.ofList (item.takeWhile (· != ':')))) = some upper →
        upper ∉ codes.map Prod.fst)
  | version {name version : List Char} (parts : item = name ++ ':' :: version) (first : ':' ∉ name)
      (given : version ≠ []) (misfit : ∀ number,
        Text.integer? (String.ofList version) = some number → ¬ (0 ≤ number ∧ number ≤ 255))

theorem codeOf?_eq_none_iff {name : String} : codeOf? name = none ↔
    ∀ upper, Text.asciiUpper? (Text.strip name) = some upper → upper ∉ codes.map Prod.fst := by
  rw [codeOf?, Option.bind_eq_none_iff]
  refine forall₂_congr fun upper _ => ?_
  rw [List.lookup_eq_none_iff, List.mem_map]
  constructor
  · rintro other ⟨entry, mem, rfl⟩
    simpa using other entry mem
  · intro missing entry mem
    rw [bne_iff_ne]
    rintro rfl
    exact missing ⟨entry, mem, rfl⟩

theorem byte?_eq_none_iff {number : Int} :
    Bytes.byte? number = none ↔ ¬ (0 ≤ number ∧ number ≤ 255) := by
  rw [Bytes.byte?, ite_eq_right_iff]
  simp only [reduceCtorEq, imp_false, Int.le_iff_lt_add_one]
  rfl

theorem versionByte?_eq_none_iff {version : List Char} : versionByte? version = none ↔
    version ≠ [] ∧ ∀ number, Text.integer? (String.ofList version) = some number →
      ¬ (0 ≤ number ∧ number ≤ 255) := by
  cases version with
  | nil => simp [versionByte?]
  | cons char rest =>
    rw [versionByte?, List.isEmpty_cons, if_neg (by decide), Option.bind_eq_none_iff]
    simp only [byte?_eq_none_iff, ne_eq, reduceCtorEq, not_false_eq_true, true_and]

/-- No feature is read from an item if and only if it is faulty. -/
theorem ofItem_eq_error_iff : (∃ cause, ofItem item = .error cause) ↔ Faulty item := by
  have hname : (Text.cutAt ':' item).1 = item.takeWhile (· != ':') := rfl
  constructor
  · rintro ⟨cause, failed⟩
    rw [ofItem] at failed
    dsimp only at failed
    split at failed
    next hcode => exact .name (codeOf?_eq_none_iff.mp hcode)
    next code hcode =>
      split at failed
      next hversion =>
        obtain ⟨given, misfit⟩ := versionByte?_eq_none_iff.mp hversion
        rcases Text.cutAt_cases ':' item with single | ⟨name, version, first, rfl⟩
        · rw [Text.cutAt_of_not_mem single] at given
          exact absurd rfl given
        · rw [Text.cutAt_append first] at given misfit
          exact .version rfl first given misfit
      · cases failed
  · rintro (unknown | @⟨name, version, rfl, first, given, misfit⟩)
    · have code := codeOf?_eq_none_iff.mpr unknown
      rw [← hname] at code
      exact ⟨_, by rw [ofItem]; simp only [code]; rfl⟩
    · have byte := versionByte?_eq_none_iff.mpr ⟨given, misfit⟩
      rw [ofItem, Text.cutAt_append first]
      cases code : codeOf? (String.ofList name) with
      | none => exact ⟨_, by simp only [code]; rfl⟩
      | some number => exact ⟨_, by simp only [code, byte]; rfl⟩

/-- Reading stops at the first item that cannot be read. -/
theorem mapM_ofItem_eq_error_iff (items : List (List Char)) :
    (∃ cause, items.mapM ofItem = .error cause) ↔ ∃ item ∈ items, Faulty item := by
  induction items with
  | nil => simp [pure, Except.pure]
  | cons item items ih =>
    rw [List.mapM_cons, List.exists_mem_cons_iff, ← ih, ← ofItem_eq_error_iff]
    cases ofItem item with
    | error cause => simp [bind, Except.bind]
    | ok feature =>
      cases items.mapM ofItem <;> simp [bind, Except.bind, pure, Except.pure]

/-- A list of features of the table is read as this list, in order and with one byte for each
version, however it is written: in any letter case, with or without versions, with any spaces and
tabs around names, versions and items, and with any number of blank items.  And a text is refused,
so that no feature is read from it, if and only if one of its items is faulty. -/
theorem parse_decided :
    (∀ all items, Lists all items →
      parse (String.ofList ([','].intercalate items)) = .ok (all.map Listed.feature)) ∧
    ∀ text, (∃ cause, parse text = .error cause) ↔
      ∃ item ∈ itemsBetweenCommas text, Faulty item := by
  refine ⟨fun all items lists => ?_, fun text => ?_⟩
  · rw [parse, itemsOf_intercalate lists.not_mem, lists.mapM_ofItem]
  · rw [parse, mapM_ofItem_eq_error_iff, itemsOf_eq]

/-- A list with blank items, a name in mixed case, and a version with padding and a zero in front
of it; one with a name that is not in the table; and one with a version that is one too large. -/
theorem list_with_blank_items_is_read :
    parse " pxe_Ext :\t02 ,, tftp," = .ok [⟨0x10, [2]⟩, ⟨0x15, [1]⟩] ∧
      (∃ cause, parse "TFTP,GOPHER" = .error cause) ∧ ∃ cause, parse "TFTP:256" = .error cause := by
  let extended : Listed := ⟨"PXE_EXT", 0x10, by decide, some 2⟩
  let plain : Listed := ⟨"TFTP", 0x15, by decide, none⟩
  have space : IsPadding [' '] := by simp [IsPadding]
  have tab : IsPadding ['\t'] := by simp [IsPadding]
  have empty : IsPadding [] := by simp [IsPadding]
  have written : Text.IsDecimal (2 : UInt8).toNat ['0', '2'] := ⟨⟨1, by decide⟩, by decide⟩
  have first : Spells extended ([' '] ++ (['p', 'x', 'e', '_', 'E', 'x', 't'] ++
      ([' '] ++ ':' :: ['\t']) ++ ['0', '2']) ++ [' ']) :=
    .versioned (by decide) rfl written ⟨⟨space, space⟩, tab, space⟩
  have second : Spells plain ([' '] ++ ['t', 'f', 't', 'p'] ++ []) :=
    .named (by decide) rfl ⟨space, empty⟩
  have unknown : Faulty ['G', 'O', 'P', 'H', 'E', 'R'] :=
    .name (codeOf?_eq_none_iff.mp (by decide +kernel))
  have misfit : versionByte? ['2', '5', '6'] = none := by decide +kernel
  obtain ⟨given, large⟩ := versionByte?_eq_none_iff.mp misfit
  have tooLarge : Faulty (['T', 'F', 'T', 'P'] ++ ':' :: ['2', '5', '6']) :=
    .version rfl (by decide) given large
  have read := parse_decided.1 _ _
    (.feature first (.blank empty (.feature second (.blank empty .nil))))
  have text : String.ofList ([','].intercalate
      [[' '] ++ (['p', 'x', 'e', '_', 'E', 'x', 't'] ++ ([' '] ++ ':' :: ['\t']) ++ ['0', '2']) ++
        [' '], [], [' '] ++ ['t', 'f', 't', 'p'] ++ [], []]) = " pxe_Ext :\t02 ,, tftp," := by
    decide +kernel
  rw [text] at read
  exact ⟨read, (parse_decided.2 _).mpr ⟨_, by decide +kernel, unknown⟩,
    (parse_decided.2 _).mpr ⟨_, by decide +kernel, tooLarge⟩⟩

end NetBoot.Feature
