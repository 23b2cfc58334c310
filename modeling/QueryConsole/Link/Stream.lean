import QueryConsole.Act

/-
The two directions of a stream, as the calls on them see it.

An `Inflow` is what reads will meet: pieces of bytes as they arrive and failures, in order. A read never joins two
pieces, hands over at most as many bytes as there is room for, and hands over none when the peer has closed its side.
Once everything has arrived every read finds the peer's side closed.

An `Outflow` is what writes and flushes will meet. A write may take only a part of what it is offered. `writeAll`
offers the rest again until all is taken, re-issues an interrupted write, and gives up on any other failure and on a
write that takes nothing. A flush is not re-issued.

Results:
- `Inflow.weight_read_bytes`, `Inflow.weight_read_error`: a read that meets bytes or a failure leaves less to come.
- `Outflow.write_taken`: what a write takes is the front of what it was offered.
- `Outflow.run_writeAll_nil`: for no bytes there is no call.
-/

namespace QueryConsole

/-! ## Bytes that arrive -/

/-- what a read meets -/
inductive Arrival where
  /-- bytes that arrived together; none if the peer has closed its side for now -/
  | bytes (piece : Bytes)
  | failure (cause : IoError)
deriving DecidableEq, Repr

/-- how much one arrival can still occupy reads -/
def Arrival.weight : Arrival → Nat
  | .bytes piece => piece.length + 1
  | .failure _ => 1

/-- what the reads of one direction will meet, in order -/
structure Inflow where
  arrivals : List Arrival
  /-- most bytes that one read hands over -/
  chunk : Option Nat := none
deriving DecidableEq, Repr

namespace Inflow

/-- most bytes that one read into `room` bytes hands over -/
def most (inflow : Inflow) (room : Nat) : Nat :=
  match inflow.chunk with
  | none => room
  | some chunk => min room chunk

/-- one read into `room` bytes -/
def read (room : Nat) (inflow : Inflow) : Except IoError Bytes × Inflow :=
  match inflow.arrivals with
  | [] => (.ok [], inflow)
  | .failure cause :: later => (.error cause, { inflow with arrivals := later })
  | .bytes piece :: later =>
    match piece.drop (inflow.most room) with
    | [] => (.ok (piece.take (inflow.most room)), { inflow with arrivals := later })
    | b :: rest => (.ok (piece.take (inflow.most room)), { inflow with arrivals := .bytes (b :: rest) :: later })

/-- how much is still to come; every read that is not a closed side uses some of it up -/
def weight (inflow : Inflow) : Nat := inflow.arrivals.foldr (fun arrival n => arrival.weight + n) 0

theorem weight_read_error {room : Nat} {inflow later : Inflow} {e : IoError}
    (h : inflow.read room = (.error e, later)) : later.weight < inflow.weight := by
  unfold read at h
  split at h
  · cases h
  · next heq => cases h; simp [weight, heq, Arrival.weight]
  · split at h <;> cases h

theorem weight_read_bytes {room : Nat} {inflow later : Inflow} {b : UInt8} {piece : Bytes}
    (h : inflow.read room = (.ok (b :: piece), later)) : later.weight < inflow.weight := by
  unfold read at h
  split at h
  · cases h
  · cases h
  · next whole _ heq =>
    have split_length := congrArg List.length (List.take_append_drop (inflow.most room) whole)
    split at h <;> next rest =>
      simp only [Prod.mk.injEq, Except.ok.injEq] at h
      obtain ⟨taken, rfl⟩ := h
      simp only [taken, rest, List.length_append, List.length_cons, List.length_nil] at split_length
      simp only [weight, heq, Arrival.weight, List.foldr_cons, List.length_cons]
      omega

end Inflow

/-! ## Bytes that are written -/

/-- what a write meets -/
inductive Intake where
  /-- at most this many bytes are taken -/
  | takes (most : Nat)
  | refuses (cause : IoError)
deriving DecidableEq, Repr

/-- what the writes and flushes of one direction will meet, in order -/
structure Outflow where
  /-- what the coming writes meet, in order; after that all bytes are taken, as long as there is room -/
  intakes : List Intake := []
  /-- how many bytes are taken after the `intakes`; no number: any -/
  room : Option Nat := none
  /-- what a write meets for good once the room is used up; no failure: such a write takes nothing -/
  full : Option IoError := none
  /-- what the coming flushes meet, in order -/
  flushes : List (Except IoError Unit) := []
  /-- what each later flush meets -/
  flushEnd : Except IoError Unit := .ok ()

namespace Outflow

/-- one write of bytes: what it took of them -/
def write (offered : Bytes) (outflow : Outflow) : Except IoError Bytes × Outflow :=
  match outflow.intakes with
  | .takes most :: later => (.ok (offered.take most), { outflow with intakes := later })
  | .refuses cause :: later => (.error cause, { outflow with intakes := later })
  | [] =>
    match outflow.room, outflow.full with
    | none, _ => (.ok offered, outflow)
    | some 0, some cause => (.error cause, outflow)
    | some room, _ => (.ok (offered.take room), { outflow with room := some (room - offered.length) })

/-- one flush of a port -/
def flush (port : Port) : Act Outflow IoError Unit := fun outflow =>
  match outflow.flushes with
  | answer :: later => ⟨answer, { outflow with flushes := later }, [.flushed port answer]⟩
  | [] => ⟨outflow.flushEnd, outflow, [.flushed port outflow.flushEnd]⟩

theorem write_taken {offered taken : Bytes} {outflow later : Outflow}
    (h : outflow.write offered = (.ok taken, later)) : taken <+: offered := by
  unfold write at h
  split at h
  · cases h; exact List.take_prefix ..
  · cases h
  · split at h
    · cases h; exact List.prefix_refl _
    · cases h
    · cases h; exact List.take_prefix ..

theorem intakes_write (offered : Bytes) (outflow : Outflow) :
    (outflow.write offered).2.intakes = outflow.intakes.tail := by
  unfold write
  split
  · simp [*]
  · simp [*]
  · split <;> simp [*]

/-- an interrupted write is issued again; one that found no room is not, since it would be interrupted for ever -/
def reissues (outflow : Outflow) (cause : IoError) : Bool := cause.retryable && !outflow.intakes.isEmpty

/-- write all bytes to a port -/
def writeAll (port : Port) : Bytes → Act Outflow IoError Unit
  | [], outflow => ⟨.ok (), outflow, []⟩
  | b :: rest, outflow =>
    match _met : outflow.write (b :: rest) with
    | (.ok [], later) => ⟨.error .nothingTaken, later, [.wrote port (.ok [])]⟩
    | (.ok (c :: taken), later) =>
      (writeAll port (rest.drop taken.length) later).after [.wrote port (.ok (c :: taken))]
    | (.error cause, later) =>
      if _again : outflow.reissues cause then (writeAll port (b :: rest) later).after [.wrote port (.error cause)]
      else ⟨.error cause, later, [.wrote port (.error cause)]⟩
termination_by bytes outflow => outflow.intakes.length + bytes.length
decreasing_by
  · have := congrArg (·.2.intakes) _met
    simp only [intakes_write] at this
    simp only [← this, List.length_tail, List.length_drop, List.length_cons]
    omega
  · have := congrArg (·.2.intakes) _met
    simp only [intakes_write] at this
    simp only [reissues, Bool.and_eq_true, Bool.not_eq_true', List.isEmpty_eq_false_iff] at _again
    have := List.length_pos_iff.2 _again.2
    simp only [← ‹_ = later.intakes›, List.length_tail, List.length_cons]
    omega

@[simp] theorem run_writeAll_nil (port : Port) (outflow : Outflow) :
    writeAll port [] outflow = ⟨.ok (), outflow, []⟩ := by
  rw [writeAll]

end Outflow

/-! ## Both directions -/

/-- the stream to a peer -/
structure Link where
  inflow : Inflow
  outflow : Outflow := {}

namespace Link

/-- an act on the arriving direction -/
def receiving (act : Act Inflow ε α) : Act Link ε α := act.within Link.inflow fun inflow link => { link with inflow }

/-- an act on the departing direction -/
def sending (act : Act Outflow ε α) : Act Link ε α := act.within Link.outflow fun outflow link => { link with outflow }

end Link

end QueryConsole
