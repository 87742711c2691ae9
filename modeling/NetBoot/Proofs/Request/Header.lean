/-
# The header of requests

The header of a packet that a client builds is known field by field: it depends on the
device and on the kind of packet alone.  Each step of the build writes one field and leaves
the others and the options alone.
-/
import NetBoot.Proofs.Packet.Carries

namespace NetBoot.Request

variable {ε α β : Type} {device : Device} {kind : MessageType} {block buffer old : Bytes}
  {packet after : Packet} {options : OptionMap}

/-! ## Steps that succeed -/

theorem bind_eq_ok {first : Except ε α} {next : α → Except ε β} {result : β} :
    first >>= next = .ok result ↔ ∃ value, first = .ok value ∧ next value = .ok result := by
  cases first with
  | error cause =>
    constructor
    · rintro ⟨⟩
    · rintro ⟨value, ⟨⟩, -⟩
  | ok value =>
    constructor
    · exact fun h => ⟨value, rfl, h⟩
    · rintro ⟨_, ⟨⟩, h⟩
      exact h

theorem lift_eq_ok {outcome : Except Packet.Error α} {value : α} :
    lift outcome = .ok value ↔ outcome = .ok value := by
  cases outcome with
  | error cause => constructor <;> rintro ⟨⟩
  | ok found => constructor <;> rintro ⟨⟩ <;> rfl

/-! ## The header -/

/-- The fields of the header of the packets that a client sends, in order.  An address that
is too long for its field is left out, and a broadcast reply is asked for instead. -/
def headerFields (device : Device) (kind : MessageType) : List Bytes :=
  let fits := device.address.length ≤ Header.hardwareLimit
  [Bytes.ofNat 1 kind.operation, Bytes.ofNat 1 device.protocol.number.toNat,
   Bytes.ofNat 1 (if fits then device.address.length else 0), Bytes.zeros 1,
   Bytes.ofNat 4 device.transaction, Bytes.zeros 2,
   Bytes.ofNat 2 (if fits then 0 else Header.broadcastFlag), Bytes.zeros 4, Bytes.zeros 4,
   Bytes.zeros 4, Bytes.zeros 4,
   if fits then device.address.padRight Header.hardwareLimit
     else Bytes.zeros Header.hardwareLimit,
   Bytes.zeros 64, Bytes.zeros 128, Bytes.ofNat 4 Header.cookie]

/-- The header of the packets that a client sends. -/
def header (device : Device) (kind : MessageType) : Bytes := (headerFields device kind).flatten

theorem length_header (device : Device) (kind : MessageType) :
    (header device kind).length = Header.length := by
  have haddress : (if device.address.length ≤ Header.hardwareLimit then
      device.address.padRight Header.hardwareLimit
      else Bytes.zeros Header.hardwareLimit).length = Header.hardwareLimit := by
    split
    next short => exact Bytes.length_padRight short
    · exact Bytes.length_zeros _
  simp only [header, headerFields, List.flatten_cons, List.flatten_nil, List.length_append,
    Bytes.length_ofNat, Bytes.length_zeros, haddress]
  rfl

theorem readWord?_magic_header (device : Device) (kind : MessageType) :
    Header.readWord? (header device kind) .magic = some Header.cookie := by
  -- the magic word is the last field
  obtain ⟨front, hfront⟩ : ∃ front, header device kind = front ++ Bytes.ofNat 4 Header.cookie := by
    refine ⟨((headerFields device kind).take 14).flatten, ?_⟩
    conv_lhs => rw [header, ← List.take_append_drop 14 (headerFields device kind)]
    rw [List.flatten_append]
    rfl
  have hlength := length_header device kind
  rw [hfront, List.length_append, Bytes.length_ofNat] at hlength
  have hoffset : front.length = Header.Word.offset .magic := by
    have hmagic : Header.length = Header.Word.offset .magic + 4 := rfl
    omega
  rw [Header.readWord?, if_pos, hfront, List.drop_left' hoffset]
  · rfl
  · rw [Header.within, hfront, List.length_append, hoffset]
    rfl

/-- The fields of a header that nothing was written into. -/
def blankFields : List Bytes :=
  [1, 1, 1, 1, 4, 2, 2, 4, 4, 4, 4, Header.hardwareLimit, 64, 128, 4].map Bytes.zeros

theorem flatten_blankFields : blankFields.flatten = Bytes.zeros Header.length := by
  decide +kernel

theorem carries_blank (proper : options.Proper) (hblock : OptionBlock.encode? options = some block)
    (room : Header.length + block.length ≤ buffer.length) :
    (blank buffer block).Carries blankFields.flatten options := by
  obtain ⟨-, found, hfound, hdecode⟩ := OptionBlock.decode_encode options proper
  obtain rfl : found = block := Option.some.inj (hfound.symm.trans hblock)
  let whole := Bytes.zeros Header.length ++
    (found ++ Bytes.zeros (buffer.length - (Header.length + found.length)))
  have hwhole : (Bytes.zeros buffer.length).splice Header.length
      ((Header.length + found.length : Nat) : Int) found = whole := by
    have hroom : ((Header.length + found.length : Nat) : Int) ≤
        (Bytes.zeros buffer.length).length := by
      rw [Bytes.length_zeros]
      exact Int.ofNat_le.mpr room
    rw [Bytes.splice_eq (by omega) (by omega) hroom, Int.toNat_natCast, Int.toNat_natCast]
    simp [whole, Bytes.zeros, List.take_replicate, List.drop_replicate,
      Nat.min_eq_left (Nat.le_of_add_right_le room)]
  have hlength : whole.length = buffer.length := by
    simp only [whole, List.length_append, Bytes.length_zeros]
    omega
  have hblank : blank buffer found =
      Packet.ofBuffer whole (some ((Header.length + found.length : Nat) : Int)) := by
    rw [blank, hwhole]
  have hslice : whole.slice Header.length (Header.length + found.length) = found := by
    rw [Bytes.slice_eq (by omega) (by omega) (by rw [hlength]; omega)]
    simp [whole, Int.toNat_add]
  have hused : max 0 (((Header.length + found.length : Nat) : Int) - Header.length) =
      found.length := by omega
  have hoptions : (blank buffer found).region.options = options := by
    rw [hblank, Packet.ofBuffer, OptionRegion.ofBuffer]
    dsimp only [Option.getD_some]
    rw [hused, hslice]
    simpa using hdecode []
  rw [flatten_blankFields, hblank]
  rw [hblank] at hoptions
  refine ⟨Bytes.length_zeros _, List.prefix_append _ _, rfl, ⟨⟨?_, ?_, ?_⟩, hoptions ▸ proper⟩,
    hoptions, ?_⟩
  · exact Int.natCast_nonneg _
  · show (Header.length : Int) + max 0 ((whole.length : Int) - Header.length) ≤ whole.length
    omega
  · show 0 ≤ max 0 (((Header.length + found.length : Nat) : Int) - Header.length) ∧
      max 0 (((Header.length + found.length : Nat) : Int) - Header.length) ≤
        max 0 ((whole.length : Int) - Header.length)
    omega
  · rw [hblock, OptionRegion.wire]
    show some found = some (whole.slice Header.length
      (Header.length + max 0 (((Header.length + found.length : Nat) : Int) - Header.length)))
    rw [hused, hslice]

theorem carries_withWord {parts : List Bytes} {field : Header.Word} {number : Int}
    (h : packet.Carries parts.flatten options) (index : Nat) (place : parts[index]? = some old)
    (start : (parts.take index).flatten.length = field.offset) (width : old.length = field.width)
    (written : withWord packet field number = .ok after) :
    after.Carries (parts.set index (Bytes.ofNat field.width number.toNat)).flatten options := by
  rw [withWord] at written
  split at written
  next changed _ hset =>
    obtain rfl := Except.ok.inj written
    exact h.setWord index place start width hset
  · cases written

/-- The packet with its header and its first options. -/
theorem carries_framed (proper : options.Proper)
    (hblock : OptionBlock.encode? options = some block)
    (built : framed device kind block buffer = .ok packet) :
    packet.Carries (header device kind) options := by
  rw [framed] at built
  split at built
  · cases built
  next room =>
    obtain ⟨first, hop, built⟩ := bind_eq_ok.mp built
    obtain ⟨second, hhtype, built⟩ := bind_eq_ok.mp built
    obtain ⟨third, hxid, built⟩ := bind_eq_ok.mp built
    obtain ⟨fourth, hmagic, built⟩ := bind_eq_ok.mp built
    have hblank := carries_blank proper hblock (Nat.not_lt.mp room)
    have hfirst := carries_withWord hblank 0 rfl rfl rfl hop
    have hsecond := carries_withWord hfirst 1 rfl rfl rfl hhtype
    have hthird := carries_withWord hsecond 4 rfl rfl rfl hxid
    have hfourth := carries_withWord hthird 14 rfl rfl rfl hmagic
    rw [withAddress] at built
    split at built
    next fits =>
      split at built
      next changed _ hset =>
        obtain rfl := Except.ok.inj built
        have hafter := hfourth.setHardwareAddress 11 2 rfl rfl rfl rfl rfl rfl hset
        rw [header, headerFields, if_pos fits, if_pos fits, if_pos fits]
        exact hafter
      · cases built
    next long =>
      obtain ⟨unnamed, hlen, hflags⟩ := bind_eq_ok.mp built
      have hfifth := carries_withWord hfourth 2 rfl rfl rfl hlen
      have hafter := carries_withWord hfifth 6 rfl rfl rfl hflags
      rw [header, headerFields, if_neg long, if_neg long, if_neg long]
      exact hafter

end NetBoot.Request
