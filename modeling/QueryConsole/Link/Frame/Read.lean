import QueryConsole.Link.Frame.Format
import QueryConsole.Link.Stream

/-
Reading one frame from arriving bytes.

`fill` reads until it has the number of bytes it wants or the peer has closed its side. `read` fills the header, refuses
a size above the limit before it reads any payload, and then fills the payload piece by piece: its buffer grows by at
most `step` bytes at a time, so a header that lies about the size costs no more memory than the bytes that arrive.

Results:
- `fill_zero`: for no bytes there is no call.
- `payload_of_le`: a payload that is complete needs no more calls.
-/

namespace QueryConsole

namespace Frame

/-- most bytes by which the buffer of a payload grows at a time -/
def step : Nat := 65536

/-- go on reading until `want` more bytes are there; `got` and `log` hold what is there so far, newest first -/
def fillOn (got : Bytes) (log : Trace) (want : Nat) (inflow : Inflow) : Run Inflow LinkError Bytes :=
  if want = 0 then ⟨.ok got.reverse, inflow, log.reverse⟩
  else
    match _met : inflow.read want with
    | (.ok [], later) => ⟨.ok got.reverse, later, (.read want (.ok []) :: log).reverse⟩
    | (.ok (b :: piece), later) =>
      fillOn ((b :: piece).reverseAux got) (.read want (.ok (b :: piece)) :: log) (want - (piece.length + 1)) later
    | (.error cause, later) =>
      if cause.retryable then
        fillOn got (.counted .readInterrupted 1 :: .read want (.error cause) :: log) want later
      else
        (LinkError.raise (.transport "read" cause) later).after (.read want (.error cause) :: log).reverse
termination_by inflow.weight
decreasing_by
  · exact Inflow.weight_read_bytes _met
  · exact Inflow.weight_read_error _met

/-- read `want` bytes, or fewer if the peer closes its side before -/
def fill (want : Nat) : Act Inflow LinkError Bytes := fillOn [] [] want

/-- read the payload bytes from `start` on, of a payload of `size` bytes -/
def payload (size start : Nat) : Act Inflow LinkError Bytes :=
  if start < size then do
    let want := min (size - start) step
    Act.record [.reserved (start + want)]
    let piece ← fill want
    if piece.length < want then
      LinkError.raise (.connectionLost .payload size (start + piece.length))
    else
      let rest ← payload size (start + want)
      return piece ++ rest
  else
    return []
termination_by size - start
decreasing_by
  simp only [step]
  omega

/-- read one frame of at most `limit` payload bytes -/
def read (limit : Nat) : Act Inflow LinkError Bytes := do
  let head ← fill headerSize
  if head.length < headerSize then
    LinkError.raise (.connectionLost .header headerSize head.length)
  else if declared head > limit then
    LinkError.raise (.frameTooLarge (declared head) limit)
  else
    payload (declared head) 0

@[simp] theorem fill_zero (inflow : Inflow) : fill 0 inflow = ⟨.ok [], inflow, []⟩ := by
  simp [fill, fillOn]

theorem payload_of_le {size start : Nat} (h : size ≤ start) : payload size start = pure [] := by
  rw [payload, if_neg (by omega)]

end Frame

end QueryConsole
