/-
# Assigning to fields of the header

Each field of the header has bytes of its own, and no two fields share a byte.  So what is
assigned to a field is read back from it, and every other field is read as before, the options
too.  One reading depends on two fields: the length of the hardware address says how much of it
is read, and both are assigned together.

What does not fit is refused.  A refused number leaves nothing but its own field changed, and
everything else that is refused changes nothing.
-/
import NetBoot.Packet.Assignment
import NetBoot.Proofs.Bytes.Words
import NetBoot.Proofs.Packet.Full

namespace NetBoot

namespace Header

/-! ## The fields and their bytes -/

/-- The fields of the header. -/
inductive Field
  | word (field : Word)
  | place (field : Place)
  | hardware
  | serverName
  | bootFile
  deriving DecidableEq

namespace Field

/-- All fields. -/
def all : List Field :=
  Word.all.map .word ++ Place.all.map .place ++ [.hardware, .serverName, .bootFile]

/-- Where a field starts. -/
def start : Field → Nat
  | word field => field.offset
  | place field => field.offset
  | hardware => hardwareOffset
  | serverName => Header.serverName.1
  | bootFile => Header.bootFile.1

/-- The number of bytes of a field. -/
def size : Field → Nat
  | word field => field.width
  | place _ => 4
  | hardware => hardwareLimit
  | serverName => Header.serverName.2
  | bootFile => Header.bootFile.2

/-- The bytes of a field in a buffer. -/
def content (field : Field) (buffer : Bytes) : Bytes := (buffer.drop field.start).take field.size

variable {field other : Field} {buffer : Bytes}

theorem mem_all (field : Field) : field ∈ all := by
  rcases field with word | place | _ | _ | _
  · cases word <;> decide
  · cases place <;> decide
  all_goals decide

theorem stop_le (field : Field) : field.start + field.size ≤ Header.length := by
  have table : ∀ field ∈ all, field.start + field.size ≤ Header.length := by decide
  exact table field field.mem_all

/-- No two fields share a byte. -/
theorem apart (different : field ≠ other) :
    field.start + field.size ≤ other.start ∨ other.start + other.size ≤ field.start := by
  have table : ∀ field ∈ all, ∀ other ∈ all, field ≠ other →
      field.start + field.size ≤ other.start ∨ other.start + other.size ≤ field.start := by
    decide +kernel
  exact table field field.mem_all other other.mem_all different

/-- Other bytes in a field of a buffer. -/
def rewrite (field : Field) (content buffer : Bytes) : Bytes :=
  buffer.take field.start ++ content ++ buffer.drop (field.start + field.size)

theorem agreeOutside_rewrite (field : Field) (full : Header.length ≤ buffer.length)
    {content : Bytes} (size : content.length = field.size) :
    Bytes.AgreeOutside field.start (field.start + field.size) buffer
      (field.rewrite content buffer) :=
  Bytes.agreeOutside_patch (by rw [size]) (Nat.le_trans field.stop_le full)

theorem content_rewrite (field : Field) (full : Header.length ≤ buffer.length)
    {content : Bytes} (size : content.length = field.size) :
    field.content (field.rewrite content buffer) = content := by
  rw [Field.content, ← size]
  exact Bytes.read_patch (Nat.le_trans (Nat.le_of_add_right_le field.stop_le) full) _

end Field

variable {buffer : Bytes}

theorem addressBytes_eq (full : Header.length ≤ buffer.length) (field : Place) :
    addressBytes buffer field = (Field.place field).content buffer :=
  Bytes.slice_natCast (Nat.le_trans (Field.place field).stop_le full)

end Header

namespace Packet

open Header (Field)

/-! ## Readings -/

/-- What a field of the header is read as. -/
inductive Reading
  | number (value : Nat)
  | address (value : Address)
  | bytes (value : Bytes)
  deriving DecidableEq

/-- Read a field of the header. -/
def read (packet : Packet) : Field → Except Error Reading
  | .word field => (packet.word field).map .number
  | .place field => (packet.address field).map .address
  | .hardware => packet.hardwareAddress.map .bytes
  | .serverName => .ok (.bytes packet.serverName)
  | .bootFile => .ok (.bytes packet.bootFileName)

/-- The fields that the reading of a field depends on. -/
def dependencies : Field → List Field
  | .hardware => [.hardware, .word .hlen]
  | field => [field]

variable {packet after : Packet} {field : Field}

theorem word_eq (full : Header.length ≤ packet.buffer.length) (field : Header.Word) :
    packet.word field = .ok (Bytes.toNat ((Field.word field).content packet.buffer)) := by
  rw [word, Header.readWord?_of_full full]
  rfl

/-- The hardware address is as much of its field as another field says. -/
theorem hardwareAddress_eq (full : Header.length ≤ packet.buffer.length) :
    packet.hardwareAddress = .ok ((Field.hardware.content packet.buffer).take
      (Bytes.toNat ((Field.word .hlen).content packet.buffer))) := by
  have hroom : Header.hardwareOffset + Header.hardwareLimit ≤ packet.buffer.length :=
    Nat.le_trans Field.hardware.stop_le full
  rw [hardwareAddress, word_eq full]
  generalize Bytes.toNat _ = size
  rw [Field.content, List.take_take]
  exact congrArg Except.ok (Bytes.slice_natCast (by omega))

theorem nameField_eq (full : Header.length ≤ packet.buffer.length) {name : Nat × Nat}
    (within : name.1 + name.2 ≤ Header.length) :
    packet.nameField name = Bytes.trimZeros ((packet.buffer.drop name.1).take name.2) := by
  rw [nameField, Bytes.slice_natCast (Nat.le_trans within full)]

/-- A reading depends on the bytes of its fields alone. -/
theorem read_congr (full : Header.length ≤ packet.buffer.length)
    (full' : Header.length ≤ after.buffer.length)
    (same : ∀ part ∈ dependencies field, part.content after.buffer = part.content packet.buffer) :
    after.read field = packet.read field := by
  cases field with
  | word field =>
    rw [read, read, word_eq full, word_eq full', same _ (List.mem_singleton_self _)]
  | place field =>
    rw [read, read, address, address, Header.addressBytes_eq full, Header.addressBytes_eq full',
      same _ (List.mem_singleton_self _)]
  | hardware =>
    rw [read, read, hardwareAddress_eq full, hardwareAddress_eq full', same .hardware (by decide),
      same (.word .hlen) (by decide)]
  | serverName =>
    rw [read, read, serverName, serverName, nameField_eq full (by decide),
      nameField_eq full' (by decide)]
    exact congrArg (Except.ok ∘ Reading.bytes ∘ Bytes.trimZeros)
      (same _ (List.mem_singleton_self _))
  | bootFile =>
    rw [read, read, bootFileName, bootFileName, nameField_eq full (by decide),
      nameField_eq full' (by decide)]
    exact congrArg (Except.ok ∘ Reading.bytes ∘ Bytes.trimZeros)
      (same _ (List.mem_singleton_self _))

/-! ## Writing -/

/-- A packet in which the bytes of some fields may have changed, and nothing else. -/
structure Rewrites (fields : List Field) (packet after : Packet) : Prop where
  region : after = packet.withBuffer after.buffer
  length : after.buffer.length = packet.buffer.length
  content : ∀ field ∉ fields, field.content after.buffer = field.content packet.buffer
  block : after.buffer.drop Header.length = packet.buffer.drop Header.length

theorem Rewrites.refl (fields : List Field) (packet : Packet) : Rewrites fields packet packet :=
  ⟨rfl, rfl, fun _ _ => rfl, rfl⟩

theorem Rewrites.full {fields : List Field} (h : Rewrites fields packet after)
    (full : Header.length ≤ packet.buffer.length) : Header.length ≤ after.buffer.length :=
  h.length ▸ full

theorem Rewrites.trans {fields others : List Field} {last : Packet}
    (h : Rewrites fields packet after) (h' : Rewrites others after last) :
    Rewrites (fields ++ others) packet last := by
  refine ⟨?_, h'.length.trans h.length, fun field untouched => ?_, h'.block.trans h.block⟩
  · rw [h'.region, h.region]
    rfl
  · rw [List.mem_append, not_or] at untouched
    exact (h'.content field untouched.2).trans (h.content field untouched.1)

theorem rewrites_rewrite (full : Header.length ≤ packet.buffer.length) {content : Bytes}
    (size : content.length = field.size) :
    Rewrites [field] packet (packet.withBuffer (field.rewrite content packet.buffer)) := by
  have agree := field.agreeOutside_rewrite full size
  refine ⟨rfl, agree.length, fun other different => ?_, agree.drop_eq field.stop_le⟩
  exact agree.read_eq (Field.apart (by simpa using different))

/-- A number is written into its field, or zeros if it does not fit. -/
theorem setWord_eq (full : Header.length ≤ packet.buffer.length) (field : Header.Word)
    (value : Int) : packet.setWord field value =
      (packet.withBuffer ((Field.word field).rewrite
        ((Bytes.word? field.width value).getD (Bytes.zeros field.width)) packet.buffer),
        if (Bytes.word? field.width value).isSome then .ok () else .error .field) := by
  have within : Header.within packet.buffer field = true :=
    decide_eq_true (Nat.le_trans (Field.word field).stop_le full)
  rw [setWord, Header.writeWord, if_pos within]
  cases Bytes.word? field.width value <;> rfl

theorem setAddress_eq (full : Header.length ≤ packet.buffer.length) (field : Header.Place)
    (value : Address) : packet.setAddress field value =
      packet.withBuffer ((Field.place field).rewrite value.toBytes packet.buffer) :=
  congrArg packet.withBuffer
    (Bytes.splice_natCast (Nat.le_trans (Field.place field).stop_le full))

/-- A hardware address is filled up with zeros, and its length goes into another field. -/
theorem setHardwareAddress_eq (full : Header.length ≤ packet.buffer.length) {value : Bytes}
    (short : value.length ≤ Header.hardwareLimit) : packet.setHardwareAddress value =
      (packet.withBuffer (Field.hardware.rewrite (value.padRight Header.hardwareLimit)
        packet.buffer)).setWord .hlen value.length := by
  rw [setHardwareAddress, if_neg (Nat.not_lt.mpr short)]
  exact congrArg (fun buffer => (packet.withBuffer buffer).setWord .hlen value.length)
    (Bytes.splice_natCast (Nat.le_trans Field.hardware.stop_le full))

/-! ## Assigning -/

namespace Assignment

/-- The field that is assigned to. -/
def target : Assignment → Field
  | word field _ => .word field
  | address field _ => .place field
  | hardware _ => .hardware

/-- The fields whose bytes are written. -/
def written : Assignment → List Field
  | word field _ => [.word field]
  | address field _ => [.place field]
  | hardware _ => [.hardware, .word .hlen]

/-- The fields that may be read differently afterwards. -/
def touched : Assignment → List Field
  | word .hlen _ => [.word .hlen, .hardware]
  | word field _ => [.word field]
  | address field _ => [.place field]
  | hardware _ => [.hardware, .word .hlen]

/-- What is assigned, if it fits. -/
def value? : Assignment → Option Reading
  | word field value =>
    if 0 ≤ value ∧ value < (256 ^ field.width : Nat) then some (.number value.toNat) else none
  | address _ form => (Address.ofForm? form).map .address
  | hardware octets =>
    if octets.length ≤ Header.hardwareLimit then some (.bytes octets) else none

/-- Why it is refused, if it does not fit. -/
def refusal : Assignment → Error
  | word .. => .field
  | address .. => .address
  | hardware octets => .hardwareLength octets

/-- What a refused assignment leaves of a packet. -/
def Spares (packet after : Packet) : Assignment → Prop
  | word field _ => Bytes.AgreeOutside field.offset (field.offset + field.width)
      packet.buffer after.buffer
  | address .. | hardware _ => after = packet

/-- Only what depends on a written field is read differently. -/
theorem not_mem_written {assignment : Assignment} (untouched : field ∉ assignment.touched) :
    ∀ part ∈ dependencies field, part ∉ assignment.written := by
  intro part depends mem
  cases assignment with
  | word target value =>
    cases field <;> cases target <;> simp_all [dependencies, written, touched]
  | address target form => cases field <;> simp_all [dependencies, written, touched]
  | hardware address => cases field <;> simp_all [dependencies, written, touched]

end Assignment

theorem rewrites_setWord (full : Header.length ≤ packet.buffer.length) (field : Header.Word)
    (value : Int) : Rewrites [.word field] packet (packet.setWord field value).1 := by
  rw [setWord_eq full]
  refine rewrites_rewrite full ?_
  cases h : Bytes.word? field.width value with
  | none => exact Bytes.length_zeros _
  | some bytes => exact Bytes.ofNat_of_word? h ▸ Bytes.length_ofNat _ _

theorem rewrites_assign (full : Header.length ≤ packet.buffer.length) (assignment : Assignment) :
    Rewrites assignment.written packet (packet.assign assignment).1 := by
  cases assignment with
  | word field value => exact rewrites_setWord full field value
  | address field form =>
    rw [assign]
    cases Address.ofForm? form with
    | none => exact .refl _ packet
    | some address =>
      dsimp only
      rw [setAddress_eq full]
      exact rewrites_rewrite full rfl
  | hardware address =>
    by_cases short : address.length ≤ Header.hardwareLimit
    · rw [assign, setHardwareAddress_eq full short]
      have filled : Rewrites [.hardware] packet _ :=
        rewrites_rewrite full (Bytes.length_padRight short)
      exact filled.trans (rewrites_setWord (filled.full full) .hlen address.length)
    · rw [assign, setHardwareAddress, if_pos (Nat.not_le.mp short)]
      exact .refl _ packet

/-- Assign to one field after the other, whatever the outcomes. -/
def assignAll (packet : Packet) (assignments : List Assignment) : Packet :=
  assignments.foldl (fun packet assignment => (packet.assign assignment).1) packet

theorem rewrites_assignAll (full : Header.length ≤ packet.buffer.length)
    (assignments : List Assignment) :
    Rewrites (assignments.flatMap Assignment.written) packet (packet.assignAll assignments) := by
  induction assignments generalizing packet with
  | nil => exact .refl _ packet
  | cons assignment assignments ih =>
    have first := rewrites_assign full assignment
    exact first.trans (ih (first.full full))

/-! ## What stays -/

/-- A packet that is read as before, some fields of its header apart. -/
structure ReadsAlike (touched : List Field) (packet after : Packet) : Prop where
  length : after.buffer.length = packet.buffer.length
  readings : ∀ field ∉ touched, after.read field = packet.read field
  options : after.options = packet.options
  /-- An option that is kept in the header is one of its fields. -/
  fetch : ∀ tag, (∀ field, headerPlace? tag = some field → Field.place field ∉ touched) →
    after.fetch tag = packet.fetch tag
  /-- Whoever takes the buffer for a new packet finds the same options. -/
  afresh : ∀ length,
    (ofBuffer after.buffer length).options = (ofBuffer packet.buffer length).options

theorem Rewrites.readsAlike {written touched : List Field} (h : Rewrites written packet after)
    (full : Header.length ≤ packet.buffer.length)
    (apart : ∀ field ∉ touched, ∀ part ∈ dependencies field, part ∉ written) :
    ReadsAlike touched packet after := by
  have full' := h.full full
  refine ⟨h.length, fun field untouched => ?_, ?_, fun tag untouched => ?_, fun length => ?_⟩
  · exact read_congr full full' fun part depends =>
      h.content part (apart field untouched part depends)
  · rw [h.region]
    rfl
  · rw [fetch, fetch]
    cases place : headerPlace? tag with
    | none =>
      rw [h.region]
      rfl
    | some field =>
      dsimp only
      rw [Header.addressBytes_eq full, Header.addressBytes_eq full', h.content]
      exact apart _ (untouched field place) _ (List.mem_singleton_self _)
  · rw [options, ofBuffer, ofBuffer, h.length]
    exact congrArg OptionBlock.decode (Bytes.slice_congr h.length h.block full _)

theorem readsAlike_assign (full : Header.length ≤ packet.buffer.length)
    (assignment : Assignment) :
    ReadsAlike assignment.touched packet (packet.assign assignment).1 :=
  (rewrites_assign full assignment).readsAlike full fun _ => Assignment.not_mem_written

theorem readsAlike_assignAll (full : Header.length ≤ packet.buffer.length)
    (assignments : List Assignment) :
    ReadsAlike (assignments.flatMap Assignment.touched) packet
      (packet.assignAll assignments) := by
  refine (rewrites_assignAll full assignments).readsAlike full
    fun field untouched part depends => ?_
  simp only [List.mem_flatMap, not_exists, not_and] at untouched ⊢
  exact fun assignment mem =>
    Assignment.not_mem_written (untouched assignment mem) part depends

/-! ## What is read back -/

/-- What comes of an assignment. -/
structure Settles (assignment : Assignment) (packet after : Packet)
    (outcome : Except Error Unit) : Prop where
  /-- What fits is read back. -/
  taken : ∀ value, assignment.value? = some value →
    outcome = .ok () ∧ after.read assignment.target = .ok value
  refused : assignment.value? = none →
    outcome = .error assignment.refusal ∧ assignment.Spares packet after
  /-- The length of a hardware address is assigned with it. -/
  counted : ∀ octets, assignment = .hardware octets → outcome = .ok () →
    after.word .hlen = .ok octets.length
  /-- The length alone says how much of the field is read. -/
  trimmed : ∀ size, assignment = .word .hlen size → outcome = .ok () →
    after.hardwareAddress = .ok ((Field.hardware.content packet.buffer).take size.toNat)

/-- A number that fits is read back. -/
theorem word_setWord (full : Header.length ≤ packet.buffer.length) {field : Header.Word}
    {value : Int} (fits : 0 ≤ value ∧ value < (256 ^ field.width : Nat)) :
    (packet.setWord field value).2 = .ok () ∧
      (packet.setWord field value).1.word field = .ok value.toNat := by
  have hword : Bytes.word? field.width value = some (Bytes.ofNat field.width value.toNat) :=
    if_pos fits
  have hfull := (rewrites_setWord full field value).full full
  rw [setWord_eq full, hword] at hfull ⊢
  refine ⟨rfl, ?_⟩
  dsimp only at hfull ⊢
  rw [word_eq hfull]
  refine congrArg Except.ok ?_
  show Bytes.toNat ((Field.word field).content ((Field.word field).rewrite _ packet.buffer)) = _
  rw [Field.content_rewrite _ full, Option.getD_some, Bytes.toNat_ofNat (by omega)]
  exact Bytes.length_ofNat _ _

theorem hardwareAddress_of_word (full : Header.length ≤ packet.buffer.length) {size : Nat}
    (h : packet.word .hlen = .ok size) :
    packet.hardwareAddress = .ok ((Field.hardware.content packet.buffer).take size) := by
  rw [word_eq full, Except.ok.injEq] at h
  rw [hardwareAddress_eq full, h]

namespace Settles

variable {assignment : Assignment}

theorem of_taken {value : Reading} (given : assignment.value? = some value)
    (same : after.read assignment.target = .ok value)
    (counted : ∀ octets, assignment = .hardware octets → after.word .hlen = .ok octets.length)
    (trimmed : ∀ size, assignment = .word .hlen size → after.hardwareAddress =
      .ok ((Field.hardware.content packet.buffer).take size.toNat)) :
    Settles assignment packet after (.ok ()) := by
  refine ⟨fun found h => ⟨rfl, ?_⟩, fun h => ?_, fun octets h _ => counted octets h,
    fun size h _ => trimmed size h⟩
  · rw [given, Option.some_inj] at h
    exact h ▸ same
  · rw [given] at h
    cases h

theorem of_refused (given : assignment.value? = none) (spares : assignment.Spares packet after) :
    Settles assignment packet after (.error assignment.refusal) := by
  refine ⟨fun value h => ?_, fun _ => ⟨rfl, spares⟩, ?_, ?_⟩
  · rw [given] at h
    cases h
  all_goals rintro _ _ ⟨⟩

/-- An assignment succeeds if and only if its value fits. -/
theorem succeeds_iff {outcome : Except Error Unit} (h : Settles assignment packet after outcome) :
    outcome = .ok () ↔ assignment.value?.isSome = true := by
  constructor
  · rintro rfl
    by_contra refused
    cases (h.refused (Option.not_isSome_iff_eq_none.mp refused)).1
  · intro given
    obtain ⟨value, given⟩ := Option.isSome_iff_exists.mp given
    exact (h.taken value given).1

end Settles

theorem settles_word (full : Header.length ≤ packet.buffer.length) (field : Header.Word)
    (value : Int) : Settles (.word field value) packet (packet.setWord field value).1
      (packet.setWord field value).2 := by
  by_cases fits : 0 ≤ value ∧ value < (256 ^ field.width : Nat)
  · have rewrites := rewrites_setWord full field value
    obtain ⟨taken, same⟩ := word_setWord full fits
    rw [taken]
    refine .of_taken (if_pos fits) ?_ (by rintro _ ⟨⟩) ?_
    · rw [Assignment.target, read, same]
      rfl
    · rintro size ⟨⟩
      rw [hardwareAddress_of_word (rewrites.full full) same, rewrites.content _ (by decide)]
  · have hword : Bytes.word? field.width value = none := if_neg fits
    rw [setWord_eq full, hword]
    have agree : Bytes.AgreeOutside field.offset (field.offset + field.width) packet.buffer
        ((Field.word field).rewrite (Bytes.zeros field.width) packet.buffer) :=
      (Field.word field).agreeOutside_rewrite full (Bytes.length_zeros _)
    exact .of_refused (if_neg fits) agree

theorem settles_address (full : Header.length ≤ packet.buffer.length) (field : Header.Place)
    (form : Address.Form) : Settles (.address field form) packet
      (packet.assign (.address field form)).1 (packet.assign (.address field form)).2 := by
  have given : Assignment.value? (.address field form) =
      (Address.ofForm? form).map .address := rfl
  rw [assign]
  cases hform : Address.ofForm? form with
  | none =>
    rw [hform] at given
    exact .of_refused given rfl
  | some address =>
    rw [hform] at given
    refine .of_taken given ?_ (by rintro _ ⟨⟩) (by rintro _ ⟨⟩)
    have rewrites : Rewrites [.place field] packet (packet.setAddress field address) :=
      setAddress_eq full field address ▸ rewrites_rewrite full rfl
    have content : (Field.place field).content (packet.setAddress field address).buffer =
        address.toBytes := by
      rw [setAddress_eq full]
      exact Field.content_rewrite _ full rfl
    rw [Assignment.target, read, Packet.address, Header.addressBytes_eq (rewrites.full full),
      content]
    rfl

theorem settles_hardware (full : Header.length ≤ packet.buffer.length) (octets : Bytes) :
    Settles (.hardware octets) packet (packet.setHardwareAddress octets).1
      (packet.setHardwareAddress octets).2 := by
  by_cases short : octets.length ≤ Header.hardwareLimit
  · have hpadded := Bytes.length_padRight short
    rw [setHardwareAddress_eq full short]
    have filled : Rewrites [.hardware] packet (packet.withBuffer (Field.hardware.rewrite
      (octets.padRight Header.hardwareLimit) packet.buffer)) := rewrites_rewrite full hpadded
    have content : Field.hardware.content (packet.withBuffer (Field.hardware.rewrite
        (octets.padRight Header.hardwareLimit) packet.buffer)).buffer =
        octets.padRight Header.hardwareLimit :=
      Field.content_rewrite _ full hpadded
    generalize packet.withBuffer _ = before at filled content
    have fits : (0 : Int) ≤ octets.length ∧
        (octets.length : Int) < (256 ^ Header.Word.hlen.width : Nat) := by
      have hlimit : Header.hardwareLimit < 256 ^ Header.Word.hlen.width := by decide
      omega
    have full' := filled.full full
    have counted := rewrites_setWord full' .hlen octets.length
    obtain ⟨taken, same⟩ := word_setWord full' fits
    rw [taken]
    refine .of_taken (if_pos short) ?_ (by rintro _ ⟨⟩; exact same) (by rintro _ ⟨⟩)
    rw [Assignment.target, read, hardwareAddress_of_word (counted.full full') same,
      counted.content _ (by decide), content, Int.toNat_natCast, Bytes.padRight, List.take_left]
    rfl
  · rw [setHardwareAddress, if_pos (Nat.not_le.mp short)]
    exact .of_refused (if_neg short) rfl

theorem settles_assign (full : Header.length ≤ packet.buffer.length) (assignment : Assignment) :
    Settles assignment packet (packet.assign assignment).1 (packet.assign assignment).2 := by
  cases assignment with
  | word field value => exact settles_word full field value
  | address field form => exact settles_address full field form
  | hardware octets => exact settles_hardware full octets

/-- In a packet whose buffer holds a header, any values are assigned to any fields of it, with
whatever outcomes, and then another one.  The fields that none of them touches are read as
before, and so are the options, whether they are kept or read anew from the buffer, which keeps
its length.  The last assignment succeeds if and only if its value fits; this value is then read
back, and no other field is read differently than before it, except that a hardware address and
its length depend on each other.  A number that does not fit changes no byte outside its field,
and what is no address or too long for a hardware address changes nothing at all. -/
theorem assignments_keep_to_their_fields (full : Header.length ≤ packet.buffer.length)
    (assignments : List Assignment) (assignment : Assignment) {reached : Packet}
    {outcome : Except Error Unit} (reaches : packet.assignAll assignments = reached)
    (assigns : reached.assign assignment = (after, outcome)) :
    ReadsAlike (assignments.flatMap Assignment.touched) packet reached ∧
      ReadsAlike assignment.touched reached after ∧ Settles assignment reached after outcome ∧
      (outcome = .ok () ↔ assignment.value?.isSome = true) := by
  have alike := readsAlike_assignAll full assignments
  rw [reaches] at alike
  have full' : Header.length ≤ reached.buffer.length := alike.length ▸ full
  have alike' := readsAlike_assign full' assignment
  have settles := settles_assign full' assignment
  rw [assigns] at alike' settles
  exact ⟨alike, alike', settles, settles.succeeds_iff⟩

/-- A number, one that does not fit, an address and a hardware address that ends with zeros are
assigned; then the length of the hardware address is shortened. -/
theorem shortened_address_is_trimmed :
    ∃ reached after : Packet,
      (ofBuffer (Bytes.zeros 240 ++ [53, 1, 5, 255]) none).assignAll [.word .op 2,
        .word .xid 5000000000, .address .your (.text "10.0.0.5"), .hardware [170, 0, 0]] =
          reached ∧
      reached.assign (.word .hlen 2) = (after, .ok ()) ∧
      reached.read .hardware = .ok (.bytes [170, 0, 0]) ∧
      after.read .hardware = .ok (.bytes [170, 0]) ∧
      after.read (.place .your) = .ok (.address ⟨10, 0, 0, 5⟩) ∧
      after.options = [(53, [5])] := by
  let packet := ofBuffer (Bytes.zeros 240 ++ [53, 1, 5, 255]) none
  let assignments : List Assignment := [.word .op 2, .word .xid 5000000000,
    .address .your (.text "10.0.0.5"), .hardware [170, 0, 0]]
  let reached := packet.assignAll assignments
  have assigns : reached.assign (.word .hlen 2) =
      ((reached.assign (.word .hlen 2)).1, .ok ()) := by
    decide +kernel
  have full : Header.length ≤ packet.buffer.length := by decide +kernel
  obtain ⟨first, last, settles, -⟩ :=
    assignments_keep_to_their_fields full assignments (.word .hlen 2) rfl assigns
  have options : packet.options = [(53, [5])] := by decide +kernel
  refine ⟨reached, _, rfl, assigns, by decide +kernel, ?_, ?_, ?_⟩
  · rw [read, settles.trimmed 2 rfl rfl]
    decide +kernel
  · rw [last.readings _ (by decide)]
    decide +kernel
  · rw [last.options, first.options, options]

end Packet
end NetBoot
