/-
# Settings as they are shown

A server writes into its options what it likes, and a reader should see as much of it as there is
to see, or nothing, but never a failure.  Showing a value takes steps that can refuse it.  A reader
is prepared only for values that are too short for an address or an identifier, and indeed nothing
else is ever refused.
-/
import NetBoot.Proofs.Lease.AddressLists
import NetBoot.Setting.Steps

namespace NetBoot

namespace Address

variable {bytes : Bytes}

theorem ofBytes?_eq_none_iff : ofBytes? bytes = none ↔ bytes.length ≠ 4 := by
  unfold ofBytes?
  split
  · simp
  next other =>
    refine ⟨fun _ four => ?_, fun _ => rfl⟩
    match bytes, four with
    | [first, second, third, fourth], _ => exact other first second third fourth rfl

/-- Each window holds an address. -/
theorem windows?_eq (bytes : Bytes) : windows? bytes = some (groups bytes) := by
  obtain ⟨tail, parts, short⟩ := groups_eq_iff.mp (Eq.refl (groups bytes))
  generalize groups bytes = addresses at parts
  subst parts
  induction addresses with
  | nil =>
    have count : tail.length / 4 = 0 := by omega
    rw [windows?, List.flatMap_nil, List.nil_append, count]
    rfl
  | cons address addresses ih =>
    let rest := addresses.flatMap toBytes ++ tail
    have count : (address.toBytes ++ rest).length / 4 = rest.length / 4 + 1 := by
      rw [List.length_append, show address.toBytes.length = 4 from rfl]
      omega
    have later : (List.range' 4 (rest.length / 4) 4).mapM (ofBytesAt? (address.toBytes ++ rest)) =
        some addresses := by
      have window : ofBytesAt? (address.toBytes ++ rest) ∘ (4 + ·) = ofBytesAt? rest := by
        funext position
        rw [Function.comp_apply, Nat.add_comm]
        rfl
      rw [← List.map_add_range' 0 (rest.length / 4) 4, List.mapM_map, window]
      exact ih
    rw [windows?, List.flatMap_cons, List.append_assoc, count, List.range'_succ, List.mapM_cons,
      later]
    rfl

end Address

namespace Setting

variable {setting : Setting} {format : ValueFormat} {tag : Tag} {data value : Bytes}

/-! ## No step refuses a value for which no one is prepared -/

theorem stepwise_eq (format : ValueFormat) (data : Bytes) :
    stepwise format data = (showValue format data).mapError .value := by
  cases format with
  | addresses => rw [stepwise, Address.windows?_eq]; rfl
  | number width =>
    rw [stepwise, unpack, if_pos (Bytes.length_padLeft_take width data)]
    rfl
  | address | text | hex | uuid => rfl

theorem stepwiseData_eq (known : ValueFormat.ofName? setting.format = some format) :
    setting.stepwiseData data = (showValue format data).mapError .value := by
  rw [stepwiseData, known]
  exact stepwise_eq format data

/-- With a known rule, a reader of a setting is prepared for everything. -/
theorem stepwiseText_eq (known : ValueFormat.ofName? setting.format = some format)
    (fetch : Tag → Option Bytes) :
    setting.stepwiseText fetch =
      .ok ((fetch setting.tag).bind fun data => (showValue format data).toOption) := by
  rw [stepwiseText]
  cases fetch setting.tag with
  | none => rfl
  | some data =>
    simp only [stepwiseData_eq known, Option.bind_some]
    cases showValue format data <;> rfl

theorem stepwisePlain_eq (tag : Tag) (value : Bytes) :
    stepwisePlain tag value = .ok (plainValue tag value) := by
  cases value with
  | nil =>
    rw [stepwisePlain, if_neg (by simp), if_neg (by simp)]
    rfl
  | cons first rest =>
    have given : first :: rest ≠ [] := List.cons_ne_nil first rest
    rw [stepwisePlain, plainValue]
    by_cases kind : tag = Tag.messageType
    · rw [if_pos ⟨kind, given⟩, if_pos kind]
      rfl
    · rw [if_neg fun both => kind both.1, if_neg kind]
      by_cases plain : (first :: rest).all isPlain = true
      · have ascii : (first :: rest).all (·.toNat < 128) = true := by
          rw [List.all_eq_true] at plain ⊢
          intro byte mem
          have hplain := plain byte mem
          simp only [isPlain, Bool.and_eq_true, decide_eq_true_eq] at hplain ⊢
          omega
        rw [if_pos ⟨given, plain⟩, if_pos plain, asciiText, if_pos ascii]
      · have digits : Bytes.toHex (first :: rest) ≠ "" := by
          simp [Bytes.toHex, Bytes.hexDigits, Bytes.hexPair]
        rw [if_neg fun both => plain both.2, if_neg plain]
        simp only [if_neg digits]
        rfl

theorem exists_format (mem : setting ∈ catalog) :
    ∃ format, ValueFormat.ofName? setting.format = some format := by
  have known : ∀ setting ∈ catalog, (ValueFormat.ofName? setting.format).isSome = true := by decide
  exact Option.isSome_iff_exists.mp (known setting mem)

/-- What is shown of an option can always be shown. -/
theorem stepwiseOption_eq (tag : Tag) (value : Bytes) :
    stepwiseOption tag value = .ok (optionText tag value) := by
  rw [stepwiseOption, optionText]
  cases found : ofTag? tag with
  | none => exact stepwisePlain_eq tag value
  | some setting =>
    have mem : setting ∈ catalog := List.mem_reverse.mp (List.mem_of_find?_eq_some found)
    obtain ⟨format, known⟩ := exists_format mem
    simp only [stepwiseData_eq known, showData, known]
    cases showValue format value with
    | ok shown => rfl
    | error cause => exact stepwisePlain_eq tag value

/-! ## What is shown -/

/-- What there is to see of a setting with a value. -/
structure Shows (setting : Setting) (value : Option Bytes) (shown : Option String) : Prop where
  /-- There is nothing to see if there is no value, or it is too short for its rule. -/
  nothing : shown = none ↔ value = none ∨ ∃ data, value = some data ∧
    (setting.format = "ipv4" ∧ data.length < 4 ∨ setting.format = "uuid" ∧ data.length < 16)
  /-- An address is the first four bytes. -/
  address : setting.format = "ipv4" → shown = value.bind fun data =>
    (Address.ofBytes? (data.take 4)).map Address.toText
  /-- A number is shown in decimal digits.  It is what the leading bytes write, with zeros in front
  of them if there are too few, and is written as a word by these bytes again. -/
  number : ∀ width, (setting.format, width) ∈ [("uint8", 1), ("uint32", 4)] →
    ∀ data, value = some data → ∃ number : Nat, shown = some (toString number) ∧
      number = Bytes.toNat (Bytes.padLeft width (data.take width)) ∧
      Bytes.word? width number = some (Bytes.padLeft width (data.take width))

theorem ofName?_eq_address_iff {name : String} :
    ValueFormat.ofName? name = some .address ↔ name = "ipv4" := by
  unfold ValueFormat.ofName?
  split <;> simp_all

theorem ofName?_eq_uuid_iff {name : String} :
    ValueFormat.ofName? name = some .uuid ↔ name = "uuid" := by
  unfold ValueFormat.ofName?
  split <;> simp_all

/-- A type byte in front of an identifier does not make up for a byte that is missing. -/
theorem length_uuidBytes_eq_iff : (uuidBytes data).length = 16 ↔ 16 ≤ data.length := by
  rw [uuidBytes]
  split
  · rw [List.length_take, List.length_drop]
    omega
  · rw [List.length_take]
    omega

/-- Only addresses and identifiers can be too short. -/
theorem toOption_showValue_eq_none_iff : (showValue format data).toOption = none ↔
    format = .address ∧ data.length < 4 ∨ format = .uuid ∧ data.length < 16 := by
  cases format with
  | address =>
    rw [toOption_showValue_address, Address.dottedAt?, Address.ofBytesAt?, Option.map_eq_none_iff,
      Address.ofBytes?_eq_none_iff, List.drop_zero, List.length_take]
    simp only [true_and, reduceCtorEq, false_and, or_false]
    omega
  | uuid =>
    have long := @length_uuidBytes_eq_iff data
    rw [showValue, Uuid.ofBytes?]
    split_ifs with h <;> simp [Except.toOption] <;> omega
  | addresses | text | number | hex => simp [showValue, Except.toOption]

/-- What is shown with a rule is what there is to see. -/
theorem shows_of_format (known : ValueFormat.ofName? setting.format = some format)
    (value : Option Bytes) :
    setting.Shows value (value.bind fun data => (showValue format data).toOption) := by
  constructor
  case nothing =>
    rw [← ofName?_eq_address_iff, ← ofName?_eq_uuid_iff, known]
    cases value with
    | none => simp
    | some data => simp [toOption_showValue_eq_none_iff]
  case address =>
    intro named
    obtain rfl := Option.some.inj (known.symm.trans (ofName?_eq_address_iff.mpr named))
    simp only [toOption_showValue_address]
    rfl
  case number =>
    rintro width listed data rfl
    have rule : ValueFormat.ofName? setting.format = some (.number width) := by
      rcases List.mem_pair.mp listed with same | same <;> obtain ⟨name, rfl⟩ := Prod.mk.inj same <;>
        rw [name] <;> rfl
    obtain rfl := Option.some.inj (known.symm.trans rule)
    exact ⟨_, rfl, rfl, Bytes.word?_toNat (Bytes.length_padLeft_take width data)⟩

/-- No reader of a setting and no reader of an option meets a failure, whatever a block or a tree of
blocks holds and whatever an option is.  A setting in the catalogue is found by its name.  It shows
nothing if it has no value, or one that is too short for an address or an identifier.  Otherwise an
address or a number is shown, which depends on as many leading bytes as it has. -/
theorem settings_are_shown :
    (∀ setting ∈ catalog, named? setting.name = some setting ∧ ∀ fetch : Tag → Option Bytes,
      ∃ shown, setting.stepwiseText fetch = .ok shown ∧ setting.fetchText fetch = .ok shown ∧
        setting.Shows (fetch setting.tag) shown) ∧
    ∀ tag value, stepwiseOption tag value = .ok (optionText tag value) := by
  refine ⟨fun setting mem => ⟨?_, fun fetch => ?_⟩, stepwiseOption_eq⟩
  · have known : ∀ setting ∈ catalog, named? setting.name = some setting := by decide
    exact known setting mem
  · obtain ⟨format, known⟩ := exists_format mem
    exact ⟨_, stepwiseText_eq known fetch, fetchText_eq known fetch, shows_of_format known _⟩

/-- A block with a netmask of two bytes, a lease time of two and an identifier of fifteen. -/
theorem short_values_are_shown :
    ∃ (block : Block) (netmask time identifier : Setting), netmask.name = "netmask" ∧
      time.name = "lease-time" ∧ identifier.name = "uuid" ∧
      netmask.fetchText block.fetch = .ok none ∧ time.fetchText block.fetch = .ok (some "258") ∧
      identifier.fetchText block.fetch = .ok none := by
  let block : Block := ⟨"server", .values [(Tag.subnetMask, [255, 255]), (Tag.leaseTime, [1, 2]),
    (Tag.clientUuid, Bytes.zeros 15)], none, []⟩
  let netmask : Setting := ⟨"netmask", Tag.subnetMask, "ipv4", "Subnet mask"⟩
  let time : Setting := ⟨"lease-time", Tag.leaseTime, "uint32", "Lease time"⟩
  let identifier : Setting := ⟨"uuid", Tag.clientUuid, "uuid", "Client UUID"⟩
  have found : block.fetch netmask.tag = some [255, 255] ∧ block.fetch time.tag = some [1, 2] ∧
      block.fetch identifier.tag = some (Bytes.zeros 15) := by decide +kernel
  obtain ⟨hmask, htime, hidentifier⟩ := found
  obtain ⟨mask, -, hmaskText, mask_shows⟩ :=
    (settings_are_shown.1 netmask (by decide)).2 block.fetch
  obtain ⟨seconds, -, htimeText, time_shows⟩ :=
    (settings_are_shown.1 time (by decide)).2 block.fetch
  obtain ⟨uuid, -, huuidText, uuid_shows⟩ :=
    (settings_are_shown.1 identifier (by decide)).2 block.fetch
  obtain ⟨number, rfl, hnumber, -⟩ := time_shows.number 4 (by decide) _ htime
  have nomask := mask_shows.nothing.mpr (.inr ⟨_, hmask, by decide⟩)
  have nouuid := uuid_shows.nothing.mpr (.inr ⟨_, hidentifier, by decide⟩)
  rw [nomask] at hmaskText
  rw [nouuid] at huuidText
  refine ⟨block, netmask, time, identifier, rfl, rfl, rfl, hmaskText, ?_, huuidText⟩
  rw [htimeText, hnumber]
  decide +kernel

end Setting
end NetBoot
