/-
# Lenient UTF-8

Reading text from bytes that a server sent.  Well-formed sequences become their
characters and every other byte is dropped.  The reader keeps the sequence it is
in the middle of; a byte that cannot continue it ends it without a character and
is then read as the start of the next one.
-/
import NetBoot.Bytes

namespace NetBoot.Text.Utf8

/-- A sequence that is being read: how many bytes are missing, the bits so far,
and the range that the next byte has to lie in. -/
structure Partial where
  missing : Nat
  bits : Nat
  low : Nat
  high : Nat

/-- Read a byte as the start of a sequence: the character it is, if it is a whole
one, and the sequence it opens. -/
def start (byte : Nat) : Option Char × Option Partial :=
  if byte < 0x80 then (some (Char.ofNat byte), none)
  else if byte < 0xc2 then (none, none)
  else if byte < 0xe0 then (none, some ⟨1, byte - 0xc0, 0x80, 0xbf⟩)
  else if byte = 0xe0 then (none, some ⟨2, 0, 0xa0, 0xbf⟩)
  else if byte = 0xed then (none, some ⟨2, 0xd, 0x80, 0x9f⟩)
  else if byte < 0xf0 then (none, some ⟨2, byte - 0xe0, 0x80, 0xbf⟩)
  else if byte = 0xf0 then (none, some ⟨3, 0, 0x90, 0xbf⟩)
  else if byte < 0xf4 then (none, some ⟨3, byte - 0xf0, 0x80, 0xbf⟩)
  else if byte = 0xf4 then (none, some ⟨3, 4, 0x80, 0x8f⟩)
  else (none, none)

/-- Read one byte after an open sequence, if there is one. -/
def step (state : Option Partial) (byte : Nat) : Option Char × Option Partial :=
  match state with
  | none => start byte
  | some sequence =>
    if sequence.low ≤ byte ∧ byte ≤ sequence.high then
      let bits := sequence.bits * 64 + byte % 64
      if sequence.missing ≤ 1 then (some (Char.ofNat bits), none)
      else (none, some ⟨sequence.missing - 1, bits, 0x80, 0xbf⟩)
    else start byte

/-- The characters of the bytes that follow an open sequence. -/
def charsFrom (state : Option Partial) : Bytes → List Char
  | [] => []
  | byte :: rest =>
    let (char, next) := step state byte.toNat
    char.toList ++ charsFrom next rest

/-- The well-formed characters of a byte string, in order. -/
def chars (bytes : Bytes) : List Char :=
  charsFrom none bytes

/-- The well-formed part of a byte string as text. -/
def decode (bytes : Bytes) : String :=
  String.ofList (chars bytes)

/-- The bytes of a text. -/
def encode (text : String) : Bytes :=
  text.toUTF8.toList

end NetBoot.Text.Utf8
