import QueryConsole.Link.Error

/-
The format of a frame: the length of the payload in four bytes, low byte first, then the payload.

Results:
- `declared_header`: a header declares the size it was made for, if that fits in four bytes.
- `header_declared`: four bytes are the header for the size that they declare.
- `toRead_header`: after the header of a payload that is accepted, the whole payload is to be read.
- `encode_eq_ok_iff`: what the frame of a payload is, and when there is one.
-/

namespace QueryConsole

namespace Frame

/-- length of the part before the payload -/
def headerSize : Nat := 4

/-- most bytes of a payload that a header can declare -/
def largest : Nat := 4294967295

/-- most bytes of a payload that a client accepts, unless told otherwise -/
def defaultLimit : UInt32 := 67108864

/-- the header for a payload of `size` bytes -/
def header (size : Nat) : Bytes :=
  [.ofNat size, .ofNat (size / 256), .ofNat (size / 65536), .ofNat (size / 16777216)]

/-- the size that a header declares -/
def declared (bytes : Bytes) : Nat := bytes.foldr (fun b higher => b.toNat + 256 * higher) 0

/-- the frame of a payload -/
def encode (payload : Bytes) : Except LinkError Bytes :=
  if payload.length ≤ largest then .ok (header payload.length ++ payload)
  else .error (.frameTooLarge payload.length largest)

/-- how many payload bytes there are to read after the bytes that should be a header -/
def toRead (limit : Nat) (head : Bytes) : Nat :=
  if head.length < headerSize ∨ declared head > limit then 0 else declared head

theorem length_header (size : Nat) : (header size).length = headerSize := rfl

theorem declared_header {size : Nat} (h : size ≤ largest) : declared (header size) = size := by
  simp only [largest] at h
  simp [declared, header]
  omega

theorem toRead_header {size limit : Nat} (h : size ≤ largest) (fits : size ≤ limit) :
    toRead limit (header size) = size := by
  simp [toRead, declared_header h, length_header, Nat.not_lt.2 fits]

theorem header_declared {bytes : Bytes} (h : bytes.length = headerSize) : header (declared bytes) = bytes := by
  match bytes, h with
  | [a, b, c, d], _ =>
    have := a.toNat_lt
    have := b.toNat_lt
    have := c.toNat_lt
    have := d.toNat_lt
    simp only [declared, header, List.foldr_cons, List.foldr_nil, List.cons.injEq, and_true, ← UInt8.toNat_inj,
      UInt8.toNat_ofNat']
    omega

theorem declared_le {bytes : Bytes} (h : bytes.length = headerSize) : declared bytes ≤ largest := by
  match bytes, h with
  | [a, b, c, d], _ =>
    have := a.toNat_lt
    have := b.toNat_lt
    have := c.toNat_lt
    have := d.toNat_lt
    simp only [declared, List.foldr_cons, List.foldr_nil, largest]
    omega

theorem encode_eq_ok_iff {payload frame : Bytes} :
    encode payload = .ok frame ↔ payload.length ≤ largest ∧ frame = header payload.length ++ payload := by
  unfold encode
  split
  · simp [*, eq_comm]
  · simp [*]

end Frame

end QueryConsole
