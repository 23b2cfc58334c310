import QueryConsole.Proofs.Flow.Replay

/-
Reading a frame in place: into buffers, by positions, from a reader that answers as it likes.

`read` says which bytes a frame takes; it has no buffer that a read could overrun and no position that could overflow.
Here the same reading is carried out with both. A buffer is filled through slices of it (`Filling`), a position is a sum
that has to fit in a machine word, and a sum that does not fit or a slice that begins outside leaves the reading
`broken`. One step is one read.

A `Reader` is anything that answers reads with no more bytes than it is given room for. It may go by the room it is
given, fail, recover, and interrupt for ever; an inflow is one of them.

Results:
- `comes_to_read`: from an inflow, reading in place comes to what `read` leaves: answer, rest of the inflow and events.
- `begins_read`: whatever the reader, what has been done so far is the beginning of what `read` does on an inflow of
  what the reads met.
-/

namespace QueryConsole

/-- what answers reads, and never with more bytes than it is given room for -/
structure Reader (σ : Type) where
  read : Nat → σ → Except IoError Bytes × σ
  fits : ∀ {room s s' piece}, read room s = (.ok piece, s') → piece.length ≤ room

/-- an inflow answers reads -/
def Inflow.reader : Reader Inflow := ⟨Inflow.read, Inflow.length_read⟩

namespace Frame

namespace InPlace

/-! ## Buffers and positions -/

/-- what can go wrong with a position -/
inductive Fault where
  /-- it does not fit in a machine word -/
  | overflow
  /-- it lies behind the end of what a slice is taken from -/
  | outOfBounds
deriving DecidableEq, Repr

/-- the sum of two positions -/
def add (a b : Nat) : Except Fault Nat := if a + b < USize.size then .ok (a + b) else .error .overflow

/-- how long the slice from `start` on is, of something `length` long -/
def sliceFrom (start length : Nat) : Except Fault Nat :=
  if start ≤ length then .ok (length - start) else .error .outOfBounds

/-- a buffer with bytes written over those from `start` on -/
def overwrite (buffer : Bytes) (start : Nat) (piece : Bytes) : Bytes :=
  buffer.take start ++ piece ++ buffer.drop (start + piece.length)

section Overwrite

variable {buffer piece : Bytes} {start : Nat}

theorem overwrite_nil (buffer : Bytes) (start : Nat) : overwrite buffer start [] = buffer := by
  simp [overwrite]

/-- what is written inside a buffer makes it no longer -/
theorem length_overwrite (h : start + piece.length ≤ buffer.length) :
    (overwrite buffer start piece).length = buffer.length := by
  simp only [overwrite, List.length_append, List.length_take, List.length_drop]
  omega

/-- what is written stands after what was there before -/
theorem take_overwrite (h : start ≤ buffer.length) :
    (overwrite buffer start piece).take (start + piece.length) = buffer.take start ++ piece :=
  List.take_left' (by rw [List.length_append, List.length_take_of_le h])

/-- writing goes on where it stopped -/
theorem overwrite_overwrite (h : start ≤ buffer.length) (rest : Bytes) :
    overwrite (overwrite buffer start piece) (start + piece.length) rest = overwrite buffer start (piece ++ rest) := by
  have hfront : (buffer.take start ++ piece).length = start + piece.length := by
    rw [List.length_append, List.length_take_of_le h]
  rw [overwrite, take_overwrite h, overwrite, ← List.drop_drop, List.drop_left' hfront, List.drop_drop, overwrite,
    List.length_append]
  simp only [List.append_assoc, Nat.add_assoc]

end Overwrite

/-- a buffer whose part from `start` on is being filled, and has been for `idx` bytes -/
structure Filling where
  buffer : Bytes
  start : Nat
  idx : Nat

namespace Filling

/-- how long the part is that is being filled -/
def want (f : Filling) : Nat := f.buffer.length - f.start

/-- how long the slice is that the next read is given: of the part that is being filled, what is not filled yet -/
def slice (f : Filling) : Except Fault Nat := do
  let part ← sliceFrom f.start f.buffer.length
  sliceFrom f.idx part

/-- the buffer after a read that put bytes into this slice -/
def put (f : Filling) (piece : Bytes) : Bytes := overwrite f.buffer (f.start + f.idx) piece

/-- the filling after such a read -/
def took (f : Filling) (piece : Bytes) : Filling := { f with buffer := f.put piece, idx := f.idx + piece.length }

theorem took_nil (f : Filling) : f.took [] = f := by
  rw [took, put, overwrite_nil, List.length_nil, Nat.add_zero]

theorem took_append {f : Filling} (h : f.start + f.idx ≤ f.buffer.length) (piece rest : Bytes) :
    (f.took piece).took rest = f.took (piece ++ rest) := by
  simp only [took, put, ← Nat.add_assoc, overwrite_overwrite h, List.length_append]

theorem slice_eq {f : Filling} (h : f.start + f.idx ≤ f.buffer.length) : f.slice = .ok (f.want - f.idx) := by
  have hstart : f.start ≤ f.buffer.length := by omega
  have hidx : f.idx ≤ f.buffer.length - f.start := by omega
  simp only [slice, sliceFrom, if_pos hstart]
  exact if_pos hidx

end Filling

/-! ## The reading -/

/-- how far a reading has come -/
inductive Stage where
  /-- a buffer is being filled: the one for the header, or the one for a payload of some size -/
  | filling (size : Option Nat) (f : Filling)
  | ended (answer : Except LinkError Bytes)
  | broken (fault : Fault)

/-- end in a failure, and count it -/
def fail (e : LinkError) : Stage × Trace := (.ended (.error e), [.counted e.counter 1])

/-- go on with a position, unless it went wrong -/
def checked (position : Except Fault Nat) (follow : Nat → Stage × Trace) : Stage × Trace :=
  match position with
  | .ok n => follow n
  | .error fault => (.broken fault, [])

/-- head of the loop over a payload: its buffer gets room for more, or the payload is complete -/
def grow (size : Nat) (buffer : Bytes) : Stage × Trace :=
  if buffer.length < size then
    checked (add buffer.length (growth size buffer.length)) fun length =>
      (.filling (some size) ⟨buffer ++ .replicate (length - buffer.length) 0, buffer.length, 0⟩, [.reserved length])
  else (.ended (.ok buffer), [])

/-- what follows when no more is read into a buffer: it is full, or the peer has closed its side -/
def filled (limit : Nat) : Option Nat → Filling → Stage × Trace
  | none, f =>
    if f.idx < headerSize then fail (.connectionLost .header headerSize f.idx)
    else if declared f.buffer > limit then fail (.frameTooLarge (declared f.buffer) limit)
    else grow (declared f.buffer) []
  | some size, f =>
    if f.idx < growth size f.start then
      checked (add f.start f.idx) fun received => fail (.connectionLost .payload size received)
    else grow size f.buffer

/-- head of the loop that fills a buffer -/
def goOn (limit : Nat) (size : Option Nat) (f : Filling) : Stage × Trace :=
  if f.idx < f.want then (.filling size f, []) else filled limit size f

/-- what follows a read -/
def next (limit : Nat) (size : Option Nat) (f : Filling) : Except IoError Bytes → Stage × Trace
  | .ok [] => filled limit size f
  | .ok (b :: piece) =>
    checked (add f.idx (b :: piece).length) fun idx => goOn limit size { f with buffer := f.put (b :: piece), idx }
  | .error cause =>
    if cause.retryable then (.filling size f, [.counted .readInterrupted 1]) else fail (.transport "read" cause)

/-- a stage of the reading, the state of the reader there, and what was done until then -/
structure Progress (σ : Type) where
  stage : Stage
  state : σ
  trace : Trace

variable {σ : Type}

/-- come to a stage, by some events after those so far -/
def enter (move : Stage × Trace) (s : σ) (past : Trace) : Progress σ := ⟨move.1, s, past ++ move.2⟩

/-- the next read, if there is one to make -/
def advance (reader : Reader σ) (limit : Nat) (p : Progress σ) : Progress σ :=
  match p.stage with
  | .filling size f =>
    match f.slice with
    | .ok room =>
      let (answer, later) := reader.read room p.state
      enter (next limit size f answer) later (p.trace ++ [.read room answer])
    | .error fault => { p with stage := .broken fault }
  | _ => p

/-- a buffer of so many bytes of which none is filled -/
def empty (length : Nat) : Filling := ⟨.replicate length 0, 0, 0⟩

/-- a reading from its start on, up to `n` reads -/
def after (reader : Reader σ) (limit : Nat) (s : σ) (n : Nat) : Progress σ :=
  (advance reader limit)^[n] ⟨.filling none (empty headerSize), s, []⟩

/-! ## Coming to what `read` leaves -/

theorem add_eq {a b : Nat} (h : a + b ≤ largest) : add a b = .ok (a + b) :=
  if_pos (h.trans_lt (lt_of_lt_of_le (by decide) USize.le_size))

/-- going on with a reading at one point of it comes to another -/
def Leads (reader : Reader σ) (limit : Nat) (p q : Progress σ) : Prop := ∃ n, (advance reader limit)^[n] p = q

namespace Leads

variable {reader : Reader σ} {limit : Nat} {p q r : Progress σ}

theorem refl (p : Progress σ) : Leads reader limit p p := ⟨0, rfl⟩

theorem head (h : Leads reader limit (advance reader limit p) q) : Leads reader limit p q := by
  obtain ⟨n, hn⟩ := h
  exact ⟨n + 1, hn⟩

theorem trans (hpq : Leads reader limit p q) (hqr : Leads reader limit q r) : Leads reader limit p r := by
  obtain ⟨m, hm⟩ := hpq
  obtain ⟨n, hn⟩ := hqr
  exact ⟨n + m, by rw [Function.iterate_add_apply, hm, hn]⟩

end Leads

variable {limit : Nat} {size : Option Nat} {f : Filling}

/-- a read of bytes leads on to the head of the loop -/
theorem next_bytes {b : UInt8} {piece : Bytes} (h : f.idx + (b :: piece).length ≤ largest) :
    next limit size f (.ok (b :: piece)) = goOn limit size (f.took (b :: piece)) := by
  simp only [next, add_eq h, checked]
  rfl

theorem next_retry {cause : IoError} (again : cause.retryable = true) :
    next limit size f (.error cause) = (.filling size f, [.counted .readInterrupted 1]) := if_pos again

theorem next_failure {cause : IoError} (last : ¬cause.retryable = true) :
    next limit size f (.error cause) = fail (.transport "read" cause) := if_neg last

/-- where there is something to be filled, the head of the loop comes to a read -/
theorem goOn_read {want : Nat} (hwant : want ≠ 0) (hlen : f.start + f.idx + want = f.buffer.length) :
    goOn limit size f = (.filling size f, []) ∧ f.slice = .ok want := by
  have hpart : f.want = f.idx + want := by
    rw [Filling.want]
    omega
  refine ⟨if_pos (by omega), ?_⟩
  rw [Filling.slice_eq (by omega), hpart, Nat.add_sub_cancel_left]

theorem leads_of_read {reader : Reader σ} {want : Nat} {s later : σ} {answer : Except IoError Bytes} {past : Trace}
    {q : Progress σ} (hwant : want ≠ 0) (hlen : f.start + f.idx + want = f.buffer.length)
    (met : reader.read want s = (answer, later))
    (h : Leads reader limit (enter (next limit size f answer) later (past ++ [.read want answer])) q) :
    Leads reader limit (enter (goOn limit size f) s past) q := by
  obtain ⟨hgo, hslice⟩ := @goOn_read limit size f want hwant hlen
  rw [hgo, enter, List.append_nil]
  apply Leads.head
  simpa only [advance, hslice, met] using h

/-- where filling a buffer leaves a reading -/
def filledBy (limit : Nat) (size : Option Nat) (f : Filling) (past : Trace) (r : Run Inflow LinkError Bytes) :
    Progress Inflow :=
  match r.answer with
  | .ok piece => enter (filled limit size (f.took piece)) r.state (past ++ r.trace)
  | .error e => ⟨.ended (.error e), r.state, past ++ r.trace⟩

theorem filledBy_ok (piece : Bytes) (later : Inflow) (past trace : Trace) :
    filledBy limit size f past ⟨.ok piece, later, trace⟩ =
      enter (filled limit size (f.took piece)) later (past ++ trace) := rfl

theorem filledBy_error (e : LinkError) (later : Inflow) (past trace : Trace) :
    filledBy limit size f past ⟨.error e, later, trace⟩ = ⟨.ended (.error e), later, past ++ trace⟩ := rfl

theorem filledBy_after (past trace : Trace) (r : Run Inflow LinkError Bytes) :
    filledBy limit size f past (r.after trace) = filledBy limit size f (past ++ trace) r := by
  rcases r with ⟨e | piece, later, rest⟩ <;> simp [filledBy, Run.after]

theorem filledBy_took (h : f.start + f.idx ≤ f.buffer.length) (past trace : Trace) (piece : Bytes)
    (r : Run Inflow LinkError Bytes) :
    filledBy limit size f past ⟨r.answer.map (piece ++ ·), r.state, trace ++ r.trace⟩ =
      filledBy limit size (f.took piece) (past ++ trace) r := by
  rcases r with ⟨e | rest, later, more⟩ <;> simp [filledBy, Except.map, Filling.took_append h]

/-- the reads that fill a buffer are those of `fill` -/
theorem leads_fill (limit : Nat) (size : Option Nat) (want : Nat) (inflow : Inflow) : ∀ f past,
    f.start + f.idx + want = f.buffer.length → f.idx + want ≤ largest →
    Leads Inflow.reader limit (enter (goOn limit size f) inflow past)
      (filledBy limit size f past (fill want inflow)) := by
  -- over the reads of `fill`: each moves the filling and the past, so both are arbitrary
  apply fill_induction (motive := fun want inflow r => ∀ f past,
    f.start + f.idx + want = f.buffer.length → f.idx + want ≤ largest →
    Leads Inflow.reader limit (enter (goOn limit size f) inflow past) (filledBy limit size f past r))
  · intro inflow f past hlen hfits
    have hfull : ¬ f.idx < f.want := by
      rw [Filling.want]
      omega
    rw [goOn, if_neg hfull, filledBy_ok, Filling.took_nil, List.append_nil]
    exact .refl _
  · intro want inflow later hwant met f past hlen hfits
    apply leads_of_read hwant hlen met
    rw [filledBy_ok, Filling.took_nil]
    exact .refl _
  · intro want inflow later b piece r hwant met ih f past hlen hfits
    have hroom : (b :: piece).length ≤ want := Inflow.length_read met
    have hlength : (f.put (b :: piece)).length = f.buffer.length := length_overwrite (by omega)
    apply leads_of_read hwant hlen met
    rw [next_bytes (by omega)]
    have hrest := ih (f.took (b :: piece)) (past ++ [.read want (.ok (b :: piece))])
      (by simp only [Filling.took, hlength]; omega) (by simp only [Filling.took]; omega)
    rwa [← filledBy_took (by omega)] at hrest
  · intro want inflow later cause r hwant met again ih f past hlen hfits
    have hrest := ih f (past ++ [.read want (.error cause), .counted .readInterrupted 1]) hlen hfits
    rw [(goOn_read hwant hlen).1, ← filledBy_after] at hrest
    apply leads_of_read hwant hlen met
    rw [next_retry again]
    simpa [enter] using hrest
  · intro want inflow later cause hwant met last f past hlen hfits
    apply leads_of_read hwant hlen met
    rw [next_failure last]
    rw [filledBy_error]
    simp only [enter, fail, List.append_assoc]
    exact .refl _

/-- a payload's buffer when it has just grown -/
def grown (size : Nat) (buffer : Bytes) : Filling :=
  ⟨buffer ++ .replicate (growth size buffer.length) 0, buffer.length, 0⟩

theorem grow_eq {size : Nat} {buffer : Bytes} (h : buffer.length < size) (hsize : size ≤ largest) :
    grow size buffer =
      (.filling (some size) (grown size buffer), [.reserved (buffer.length + growth size buffer.length)]) := by
  have hle := growth_le size buffer.length
  rw [grow, if_pos h, add_eq (by omega), checked, Nat.add_sub_cancel_left, grown]

theorem length_grown (size : Nat) (buffer : Bytes) :
    (grown size buffer).buffer.length = buffer.length + growth size buffer.length := by
  rw [grown, List.length_append, List.length_replicate]

/-- a part that just grew, filled to its end -/
theorem took_grown {size : Nat} {buffer piece : Bytes} (h : piece.length = growth size buffer.length) :
    (grown size buffer).took piece = ⟨buffer ++ piece, buffer.length, piece.length⟩ := by
  simp [grown, Filling.took, Filling.put, overwrite, h]

/-- the buffer of a payload grows, and the part that it grew by is filled by the reads of `fill` -/
theorem leads_grow (limit : Nat) {size : Nat} {buffer : Bytes} (h : buffer.length < size) (hsize : size ≤ largest)
    (inflow : Inflow) (past : Trace) :
    Leads Inflow.reader limit (enter (grow size buffer) inflow past)
      (filledBy limit (some size) (grown size buffer)
        (past ++ [.reserved (buffer.length + growth size buffer.length)])
        (fill (growth size buffer.length) inflow)) := by
  have hlen : (grown size buffer).start + (grown size buffer).idx + growth size buffer.length =
      (grown size buffer).buffer.length := (length_grown size buffer).symm
  have hfits : (grown size buffer).idx + growth size buffer.length ≤ largest := by
    have hidx : (grown size buffer).idx = 0 := rfl
    have hle := growth_le size buffer.length
    omega
  have hstart : enter (grow size buffer) inflow past =
      enter (goOn limit (some size) (grown size buffer)) inflow
        (past ++ [.reserved (buffer.length + growth size buffer.length)]) := by
    rw [(goOn_read (growth_pos h).ne' hlen).1, grow_eq h hsize]
    simp only [enter, List.append_nil]
  rw [hstart]
  exact leads_fill limit (some size) _ inflow (grown size buffer) _ hlen hfits

/-- the reads that complete a payload are those of `payload` -/
theorem leads_payload (limit : Nat) {size : Nat} (hsize : size ≤ largest) (start : Nat) (inflow : Inflow) :
    ∀ buffer past, buffer.length = start →
      Leads Inflow.reader limit (enter (grow size buffer) inflow past)
        ⟨.ended ((payload size start inflow).answer.map (buffer ++ ·)), (payload size start inflow).state,
          past ++ (payload size start inflow).trace⟩ := by
  -- over the parts by which the buffer grows; what it holds already stands before the answer of the rest
  apply payload_induction (motive := fun start inflow r => ∀ buffer past, buffer.length = start →
    Leads Inflow.reader limit (enter (grow size buffer) inflow past)
      ⟨.ended (r.answer.map (buffer ++ ·)), r.state, past ++ r.trace⟩)
  · intro start inflow h buffer past hstart
    rw [grow, if_neg (by omega)]
    simp only [enter, Except.map, List.append_nil]
    exact .refl _
  · rintro _ inflow e later trace h met buffer past rfl
    have hgrow := leads_grow limit h hsize inflow past
    rw [met, filledBy_error] at hgrow
    simpa [Except.map] using hgrow
  · rintro _ inflow piece later trace h met hlen buffer past rfl
    have hle := growth_le size buffer.length
    have hend : filled limit (some size) ((grown size buffer).took piece) =
        fail (.connectionLost .payload size (buffer.length + piece.length)) := by
      have hidx : ((grown size buffer).took piece).idx = piece.length := Nat.zero_add _
      have hstart : ((grown size buffer).took piece).start = buffer.length := rfl
      rw [filled, hidx, hstart, if_pos hlen, add_eq (by omega), checked]
    have hgrow := leads_grow limit h hsize inflow past
    rw [met, filledBy_ok, hend] at hgrow
    simpa [enter, fail, Except.map, LinkError.counter] using hgrow
  · rintro _ inflow piece later trace r h met hlen ih buffer past rfl
    have hlength : piece.length = growth size buffer.length := by
      obtain ⟨hle, rfl, -⟩ := fill_ok_full met hlen
      exact List.length_take_of_le hle
    have hnext : filled limit (some size) ((grown size buffer).took piece) = grow size (buffer ++ piece) := by
      rw [took_grown hlength, filled, if_neg (by rw [hlength]; exact lt_irrefl _)]
    have hgrow := leads_grow limit h hsize inflow past
    rw [met, filledBy_ok, hnext] at hgrow
    have hrest := ih (buffer ++ piece) (past ++ [.reserved (buffer.length + growth size buffer.length)] ++ trace)
      (by rw [List.length_append, hlength])
    apply hgrow.trans
    rcases r with ⟨e | rest, last, more⟩ <;> simpa [Except.map] using hrest

/-! ## A whole frame -/

/-- the buffer of the header, filled to its end -/
theorem took_header {piece : Bytes} (h : piece.length = headerSize) :
    (empty headerSize).took piece = ⟨piece, 0, headerSize⟩ := by
  simp [empty, Filling.took, Filling.put, overwrite, h]

/-- **Reading a frame in place comes to what `read` leaves.** -/
theorem comes_to_read (limit : Nat) (inflow : Inflow) :
    ∃ n, after Inflow.reader limit inflow n =
      ⟨.ended (read limit inflow).answer, (read limit inflow).state, (read limit inflow).trace⟩ := by
  have hfill := leads_fill limit none headerSize inflow (empty headerSize) [] (by decide) (by decide)
  rcases met : fill headerSize inflow with ⟨e | head, later, trace⟩
  · rw [met, filledBy_error] at hfill
    rw [read_failed met]
    exact hfill
  · rw [met, filledBy_ok] at hfill
    by_cases hshort : head.length < headerSize
    · have hidx : ((empty headerSize).took head).idx = head.length := Nat.zero_add _
      rw [filled, hidx, if_pos hshort] at hfill
      rw [read_short met hshort]
      exact hfill
    · have hlength : head.length = headerSize := by
        obtain ⟨hle, rfl, -⟩ := fill_ok_full met hshort
        exact List.length_take_of_le hle
      rw [took_header hlength, filled, if_neg (lt_irrefl _)] at hfill
      by_cases hlimit : declared head > limit
      · rw [if_pos hlimit] at hfill
        rw [read_tooLarge met hshort hlimit]
        exact hfill
      · rw [if_neg hlimit] at hfill
        have hpayload := leads_payload limit (declared_le hlength) 0 later [] trace rfl
        rw [read_payload met hshort hlimit]
        apply hfill.trans
        rcases hrest : payload (declared head) 0 later with ⟨e | rest, last, more⟩ <;>
          simpa [hrest, Run.after, Except.map] using hpayload

/-! ## Any reader -/

section AnyReader

variable {reader : Reader σ} {p : Progress σ}

/-- what one step of a reading can be: a read, a slice outside of its buffer, or nothing any more -/
theorem advance_cases (reader : Reader σ) (limit : Nat) (p : Progress σ) :
    (∃ size f room answer later, p.stage = .filling size f ∧ f.slice = .ok room ∧
        reader.read room p.state = (answer, later) ∧
        advance reader limit p = enter (next limit size f answer) later (p.trace ++ [.read room answer])) ∨
      (∃ size f fault, p.stage = .filling size f ∧ f.slice = .error fault ∧
        advance reader limit p = { p with stage := .broken fault }) ∨
      (∀ size f, p.stage ≠ .filling size f) ∧ advance reader limit p = p := by
  rcases p with ⟨size, f⟩ | answer | fault
  · rcases hslice : f.slice with fault | room
    · exact .inr (.inl ⟨size, f, fault, rfl, hslice, by simp only [advance, hslice]⟩)
    · exact .inl ⟨size, f, room, _, _, rfl, hslice, rfl, by simp only [advance, hslice]⟩
  · exact .inr (.inr ⟨by simp, rfl⟩)
  · exact .inr (.inr ⟨by simp, rfl⟩)

theorem advance_still (reader : Reader σ) (limit : Nat) (h : ∀ size f, p.stage ≠ .filling size f) :
    advance reader limit p = p := by
  rcases advance_cases reader limit p with ⟨size, f, -, -, -, hstage, -⟩ | ⟨size, f, -, hstage, -⟩ | ⟨-, hstep⟩
  · exact absurd hstage (h size f)
  · exact absurd hstage (h size f)
  · exact hstep

theorem noRead_checked {position : Except Fault Nat} {follow : Nat → Stage × Trace}
    (h : ∀ n, Trace.NoRead (follow n).2) : Trace.NoRead (checked position follow).2 := by
  cases position with
  | ok n => exact h n
  | error fault => exact Trace.noRead_nil

theorem noRead_fail (e : LinkError) : Trace.NoRead (fail e).2 := by simp [fail]

theorem noRead_grow (size : Nat) (buffer : Bytes) : Trace.NoRead (grow size buffer).2 := by
  rw [grow]
  split_ifs
  · exact noRead_checked fun n => by simp
  · exact Trace.noRead_nil

theorem noRead_filled (limit : Nat) (size : Option Nat) (f : Filling) : Trace.NoRead (filled limit size f).2 := by
  cases size with
  | none =>
    rw [filled]
    split_ifs
    · exact noRead_fail _
    · exact noRead_fail _
    · exact noRead_grow _ _
  | some size =>
    rw [filled]
    split_ifs
    · exact noRead_checked fun n => noRead_fail _
    · exact noRead_grow _ _

/-- what a read leads to is no further read -/
theorem noRead_next (limit : Nat) (size : Option Nat) (f : Filling) (answer : Except IoError Bytes) :
    Trace.NoRead (next limit size f answer).2 := by
  rcases answer with cause | _ | ⟨b, piece⟩
  · rw [next]
    split_ifs
    · simp
    · exact noRead_fail _
  · exact noRead_filled limit size f
  · rw [next]
    apply noRead_checked
    intro idx
    rw [goOn]
    split_ifs
    · exact Trace.noRead_nil
    · exact noRead_filled _ _ _

theorem after_succ (reader : Reader σ) (limit : Nat) (s : σ) (n : Nat) :
    after reader limit s (n + 1) = advance reader limit (after reader limit s n) :=
  Function.iterate_succ_apply' _ _ _

/-- a reading goes by what its reads meet, and by nothing else of the reader -/
theorem after_arrivals (reader : Reader σ) (limit : Nat) (s : σ) (n : Nat) : ∀ more,
    after Inflow.reader limit { arrivals := Trace.arrivals (after reader limit s n).trace ++ more } n =
      ⟨(after reader limit s n).stage, { arrivals := more }, (after reader limit s n).trace⟩ := by
  induction n with
  | zero => exact fun more => rfl
  | succ n ih =>
    intro more
    rw [after_succ, after_succ]
    rcases advance_cases reader limit (after reader limit s n) with
      ⟨size, f, room, answer, later, hstage, hslice, met, hstep⟩ | ⟨size, f, fault, hstage, hslice, hstep⟩ |
        ⟨hstage, hstep⟩
    · obtain ⟨arrival, harrival, hread⟩ : ∃ arrival, (Event.read room answer).arrival? = some arrival ∧
          Inflow.read room { arrivals := arrival :: more } = (answer, { arrivals := more }) := by
        cases answer with
        | ok piece => exact ⟨_, rfl, Inflow.read_fits (reader.fits met) more⟩
        | error cause => exact ⟨_, rfl, Inflow.read_failure room cause more⟩
      have hevents := (noRead_next limit size f answer).arrivals_eq_nil
      have hmet : Trace.arrivals (advance reader limit (after reader limit s n)).trace ++ more =
          Trace.arrivals (after reader limit s n).trace ++ arrival :: more := by
        rw [hstep, enter, Trace.arrivals_append, Trace.arrivals_append, hevents]
        simp [Trace.arrivals, harrival]
      rw [hmet, ih, hstep]
      simp only [advance, hstage, hslice, Inflow.reader, hread, enter]
    · rw [hstep, ih]
      simp only [advance, hstage, hslice]
    · rw [hstep, ih]
      exact advance_still _ _ hstage

theorem begins_advance (reader : Reader σ) (limit : Nat) (p : Progress σ) :
    p.trace <+: (advance reader limit p).trace := by
  rcases advance_cases reader limit p with ⟨size, f, room, answer, later, -, -, -, hstep⟩ |
      ⟨size, f, fault, -, -, hstep⟩ | ⟨-, hstep⟩
  · rw [hstep, enter, List.append_assoc]
    exact List.prefix_append _ _
  · rw [hstep]
  · rw [hstep]

theorem begins_after (reader : Reader σ) (limit : Nat) (s : σ) {m n : Nat} (h : m ≤ n) :
    (after reader limit s m).trace <+: (after reader limit s n).trace := by
  induction n, h using Nat.le_induction with
  | base => exact List.prefix_refl _
  | succ n hle ih =>
    rw [after_succ]
    exact ih.trans (begins_advance reader limit _)

/-- a reading that has ended makes no more reads -/
theorem after_ended {s : σ} {m n : Nat} {answer : Except LinkError Bytes} (h : m ≤ n)
    (hended : (after reader limit s m).stage = .ended answer) :
    after reader limit s n = after reader limit s m := by
  induction n, h using Nat.le_induction with
  | base => rfl
  | succ n hle ih =>
    rw [after_succ, ih]
    exact advance_still reader limit (by simp [hended])

/-- **Whatever the reader, reading in place does the beginning of what `read` does** on an inflow of what the reads
met. -/
theorem begins_read (reader : Reader σ) (limit : Nat) (s : σ) (n : Nat) :
    (after reader limit s n).trace <+:
      (read limit { arrivals := Trace.arrivals (after reader limit s n).trace }).trace := by
  set inflow : Inflow := { arrivals := Trace.arrivals (after reader limit s n).trace } with hinflow
  have hsame := after_arrivals reader limit s n []
  rw [List.append_nil, ← hinflow] at hsame
  obtain ⟨m, hm⟩ := comes_to_read limit inflow
  have htrace : (after reader limit s n).trace = (after Inflow.reader limit inflow n).trace := by rw [hsame]
  have hread : (read limit inflow).trace = (after Inflow.reader limit inflow m).trace := by rw [hm]
  rw [htrace, hread]
  -- the reading of the inflow has ended after `m` reads: those after it change nothing
  rcases Nat.le_total n m with hle | hle
  · exact begins_after Inflow.reader limit inflow hle
  · rw [after_ended hle (congrArg Progress.stage hm)]

end AnyReader

end InPlace

end Frame

end QueryConsole
