/-
# What a full header holds

A buffer that is at least as long as a header has room for every field of it.  So nothing that
is read from the header of a valid packet can be missing: neither a number nor an address nor
the client's hardware address.
-/
import NetBoot.Packet.Basic
import NetBoot.Proofs.Bytes.Range

namespace NetBoot

/-- In bytes as long as a header, every number is there to be read. -/
theorem Header.readWord?_of_full {data : Bytes} (full : 240 ≤ data.length) (field : Word) :
    readWord? data field = some (Bytes.toNat ((data.drop field.offset).take field.width)) := by
  have hfield : field.offset + field.width ≤ 240 := by cases field <;> decide
  rw [readWord?, if_pos]
  exact decide_eq_true (Nat.le_trans hfield full)

namespace Packet

variable {packet : Packet}

/-- The buffer of a valid packet is at least as long as a header. -/
theorem full_of_isValid (valid : packet.isValid = true) : 240 ≤ packet.buffer.length := by
  rw [isValid, Bool.and_eq_true, Bool.and_eq_true, decide_eq_true_eq, decide_eq_true_eq] at valid
  exact valid.1.2

theorem length_addressBytes (valid : packet.isValid = true) (field : Header.Place) :
    (Header.addressBytes packet.buffer field).length = 4 := by
  have full := full_of_isValid valid
  have hfield : field.offset + 4 ≤ 240 := by cases field <;> decide
  rw [Header.addressBytes, Bytes.slice_eq (by omega) (by omega) (by omega), List.length_take,
    List.length_drop]
  omega

/-- A valid packet has an address in each of the four fields. -/
theorem exists_address (valid : packet.isValid = true) (field : Header.Place) :
    ∃ address, packet.address field = .ok address ∧
      Header.addressBytes packet.buffer field = address.toBytes := by
  obtain ⟨first, second, third, fourth, hbytes⟩ :=
    List.length_eq_four.mp (length_addressBytes valid field)
  refine ⟨⟨first, second, third, fourth⟩, ?_, hbytes⟩
  rw [address, hbytes]
  rfl

/-- A valid packet has a number in each of its number fields. -/
theorem exists_word (valid : packet.isValid = true) (field : Header.Word) :
    ∃ value, packet.word field = .ok value := by
  rw [word, Header.readWord?_of_full (full_of_isValid valid)]
  exact ⟨_, rfl⟩

/-- A valid packet has a hardware address, which may be empty. -/
theorem exists_hardwareAddress (valid : packet.isValid = true) :
    ∃ hardware, packet.hardwareAddress = .ok hardware := by
  obtain ⟨size, hsize⟩ := exists_word valid .hlen
  rw [hardwareAddress, hsize]
  exact ⟨_, rfl⟩

end Packet
end NetBoot
