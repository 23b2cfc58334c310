/-
UTF-8: the bytes of a text, and the text of bytes or the place where they stop being text.

`encode` and the acceptance of `decode` are the standard library's encoding of `String`. What is added here is the
`Fault` of a refused byte sequence. It names the longest part at the front that is text (`validUpTo`), and how many
bytes after it can never be continued to a character (`wrongLength`, one to three). If the bytes end inside a
character that could still be completed, there is no such count.

A character is one of the byte sequences of this table; `tailOf` holds it, row by row:

    00..7F
    C2..DF  80..BF
    E0      A0..BF  80..BF
    E1..EC  80..BF  80..BF
    ED      80..9F  80..BF
    EE..EF  80..BF  80..BF
    F0      90..BF  80..BF  80..BF
    F1..F3  80..BF  80..BF  80..BF
    F4      80..8F  80..BF  80..BF

Results:
- `decode_encode`: the bytes of a text decode to that text.
- `encode_of_decode`: bytes that decode to a text are that text's bytes.
- `encode_ofList`: the bytes of a text are those of its characters.
-/

namespace QueryConsole

/-- a byte sequence, first byte first -/
abbrev Bytes := List UInt8

namespace Utf8

/-- the bytes of a text -/
def encode (text : String) : Bytes := text.toByteArray.data.toList

/-! ## Where text stops -/

/-- the first place at which bytes stop being text -/
structure Fault where
  /-- length of the longest part at the front that is text -/
  validUpTo : Nat
  /-- bytes after it that begin no character; none if the bytes end inside a character -/
  wrongLength : Option Nat
deriving DecidableEq, Repr

/-- the fault, in words -/
def Fault.message (fault : Fault) : String :=
  match fault.wrongLength with
  | some n => "invalid utf-8 sequence of " ++ toString n ++ " bytes from index " ++ toString fault.validUpTo
  | none => "incomplete utf-8 byte sequence from index " ++ toString fault.validUpTo

/-- the range of byte values that may stand at one place of a character -/
structure Span where
  low : UInt8
  high : UInt8
deriving DecidableEq, Repr

/-- the byte is in the span -/
def Span.holds (span : Span) (b : UInt8) : Bool := span.low ≤ b && b ≤ span.high

/-- any byte that continues a character -/
def continuing : Span := ⟨0x80, 0xBF⟩

/-- what must follow a character's first byte; nothing for a byte that begins no character -/
def tailOf (first : UInt8) : Option (List Span) :=
  if first < 0x80 then some []
  else if first < 0xC2 then none
  else if first < 0xE0 then some [continuing]
  else if first = 0xE0 then some [⟨0xA0, 0xBF⟩, continuing]
  else if first = 0xED then some [⟨0x80, 0x9F⟩, continuing]
  else if first < 0xF0 then some [continuing, continuing]
  else if first = 0xF0 then some [⟨0x90, 0xBF⟩, continuing, continuing]
  else if first < 0xF4 then some [continuing, continuing, continuing]
  else if first = 0xF4 then some [⟨0x80, 0x8F⟩, continuing, continuing]
  else none

/-- scan on from inside a character: it began at index `start`, `seen` of its bytes have passed, `wanted` must follow -/
def scan (start seen : Nat) : List Span → Bytes → Fault
  | _, [] => ⟨start, none⟩
  | [], b :: rest =>
    match tailOf b with
    | none => ⟨start + seen, some 1⟩
    | some spans => scan (start + seen) 1 spans rest
  | span :: wanted, b :: rest =>
    if span.holds b then scan start (seen + 1) wanted rest else ⟨start, some seen⟩

/-- the fault of bytes that are not text -/
def locate (bytes : Bytes) : Fault := scan 0 0 [] bytes

/-! ## Reading text -/

/-- the text of the bytes, or where they stop being text -/
def decode (bytes : Bytes) : Except Fault String :=
  match String.fromUTF8? bytes.toByteArray with
  | some text => .ok text
  | none => .error (locate bytes)

theorem toByteArray_encode (text : String) : (encode text).toByteArray = text.toByteArray := by
  apply ByteArray.ext
  simp [encode, List.data_toByteArray]

theorem decode_encode (text : String) : decode (encode text) = .ok text := by
  simp only [decode, toByteArray_encode, String.fromUTF8?, String.isValidUTF8, dif_pos]
  rfl

theorem encode_of_decode {bytes : Bytes} {text : String} (h : decode bytes = .ok text) : encode text = bytes := by
  simp only [decode, String.fromUTF8?] at h
  split at h
  next found heq =>
    split at heq
    · cases heq; cases h
      simp [encode, String.fromUTF8, List.data_toByteArray]
    · cases heq
  next => cases h

theorem encode_ofList (chars : List Char) : encode (String.ofList chars) = chars.flatMap String.utf8EncodeChar := by
  simp [encode, List.utf8Encode, List.data_toByteArray]

theorem length_encode (text : String) : (encode text).length = text.utf8ByteSize := by
  simp [encode]

/-- a text that is not empty has bytes -/
theorem encode_ne_nil {text : String} (h : text ≠ "") : encode text ≠ [] := by
  intro hnil
  have hempty : decode (encode text) = decode (encode "") := by rw [hnil]; rfl
  rw [decode_encode, decode_encode] at hempty
  exact h (by simpa using hempty)

end Utf8

end QueryConsole
