/-
# Showing a value step by step

The ways of showing a value once more, written out with everything that one of their steps can
refuse: an address that is not four bytes long, a number that is not as wide as it is read, the
first byte of nothing, a value that is no ASCII.  A reader is prepared only for the first of these.
-/
import NetBoot.Setting.Catalog

namespace NetBoot.Setting

/-- Why a step of showing a value cannot be done. -/
inductive Refusal
  /-- The value cannot be shown by its rule.  This is what a reader is prepared for. -/
  | value (cause : ShowError)
  /-- There is no rule of this name. -/
  | rule (name : String)
  /-- A number is read from a word of another width. -/
  | width (word : Bytes)
  /-- There is no first byte. -/
  | empty
  /-- A byte is no ASCII character. -/
  | ascii (bytes : Bytes)

/-- The number in a word of a width. -/
def unpack (width : Nat) (word : Bytes) : Except Refusal Nat :=
  if word.length = width then .ok (Bytes.toNat word) else .error (.width word)

/-- The first byte. -/
def leading : Bytes → Except Refusal UInt8
  | [] => .error .empty
  | byte :: _ => .ok byte

/-- The text that ASCII characters make. -/
def asciiText (bytes : Bytes) : Except Refusal String :=
  if bytes.all (·.toNat < 128) then
    .ok (String.ofList (bytes.map fun byte => Char.ofNat byte.toNat))
  else .error (.ascii bytes)

/-- Show a value by a rule, step by step. -/
def stepwise (format : ValueFormat) (data : Bytes) : Except Refusal String :=
  match format with
  | .addresses =>
    match Address.windows? data with
    | some addresses => .ok (", ".intercalate (addresses.map Address.toText))
    | none => .error (.value (.shortAddress data))
  | .number width => do
    let number ← unpack width (Bytes.padLeft width (data.take width))
    pure (toString number)
  | format => (showValue format data).mapError .value

/-- Show a value of a setting, step by step. -/
def stepwiseData (setting : Setting) (data : Bytes) : Except Refusal String :=
  match ValueFormat.ofName? setting.format with
  | some format => stepwise format data
  | none => .error (.rule setting.format)

/-- The text of a setting, for a reader who is prepared for values that cannot be shown. -/
def stepwiseText (setting : Setting) (fetch : Tag → Option Bytes) :
    Except Refusal (Option String) :=
  match fetch setting.tag with
  | none => .ok none
  | some data =>
    match setting.stepwiseData data with
    | .ok shown => .ok (some shown)
    | .error (.value _) => .ok none
    | .error refusal => .error refusal

/-- An option value without a setting that shows it, step by step. -/
def stepwisePlain (tag : Tag) (value : Bytes) : Except Refusal String :=
  if tag = Tag.messageType ∧ value ≠ [] then do
    let first ← leading value
    pure (MessageType.nameOfNumber first.toNat)
  else if value ≠ [] ∧ value.all isPlain then asciiText value
  else
    let digits := Bytes.toHex value
    pure (if digits = "" then "(empty)" else digits)

/-- An option value as it is shown to a reader, step by step. -/
def stepwiseOption (tag : Tag) (value : Bytes) : Except Refusal String :=
  match ofTag? tag with
  | none => stepwisePlain tag value
  | some setting =>
    match setting.stepwiseData value with
    | .ok shown => .ok shown
    | .error (.value _) => stepwisePlain tag value
    | .error refusal => .error refusal

end NetBoot.Setting
