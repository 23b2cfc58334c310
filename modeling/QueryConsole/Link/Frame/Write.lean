import QueryConsole.Link.Frame.Format
import QueryConsole.Link.Stream

/-
Writing one frame: all its bytes, then a flush, and only then does the frame count as written.

`deliver` is the part that a frame shares with a request: write all bytes to the link and flush it, and tell which of
the two failed.

Results:
- `write_of_length_gt`: a payload too long for a header is refused without a call.
-/

namespace QueryConsole

/-- write all bytes to the link and flush it -/
def Outflow.deliver (bytes : Bytes) : Act Outflow LinkError Unit := do
  (Outflow.writeAll .link bytes).rescue fun cause => LinkError.raise (.transport "write" cause)
  (Outflow.flush .link).rescue fun cause => LinkError.raise (.transport "flush" cause)

namespace Frame

/-- write a payload as one frame -/
def write (payload : Bytes) : Act Outflow LinkError Unit :=
  match encode payload with
  | .error e => LinkError.raise e
  | .ok frame => do
    Outflow.deliver frame
    Act.record [.counted .framesWritten 1]

theorem write_of_length_gt {payload : Bytes} (h : largest < payload.length) (outflow : Outflow) :
    write payload outflow =
      ⟨.error (.frameTooLarge payload.length largest), outflow, [.counted .frameTooLarge 1]⟩ := by
  simp [write, encode, Nat.not_le.2 h, LinkError.raise, LinkError.counter]

end Frame

end QueryConsole
