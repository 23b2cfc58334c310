import QueryConsole.Link.Frame.Read
import QueryConsole.Proofs.Flow.Arrivals

/-
Reading a frame is decoding what comes, flattened.

`fill`, `payload` and `read` loop over reads that never line up with what they want: pieces of any size, interruptions
anywhere, and an end that may fall on a boundary. `decode` is the pure reference: it looks at the bytes that come and at
what ends them, and knows nothing of pieces.

Each loop gets an induction principle in the data it runs over (`fill_induction`, `payload_induction`); all that is
known about a loop is proved by it, and no proof unfolds the accumulators of `fillOn`.

Results:
- `consumes_fill`, `answer_fill`; `consumes_payload`, `answer_payload`; `consumes_read`, `answer_read`: what each loop
  needs, and what it answers.
- `read_eq_decode`: the whole contract of `read`.
-/

namespace QueryConsole

namespace Frame

/-! ## The reference -/

/-- the failure of a frame whose bytes end inside a phase, by what ended them -/
def cutShort (ending : Option IoError) (phase : Phase) (expected received : Nat) : LinkError :=
  match ending with
  | none => .connectionLost phase expected received
  | some cause => .transport "read" cause

/-- the frame at the front of what comes -/
def decode (limit : Nat) (coming : Coming) : Except LinkError Bytes :=
  let size := declared (coming.bytes.take headerSize)
  if coming.bytes.length < headerSize then
    .error (cutShort coming.ending .header headerSize coming.bytes.length)
  else if size > limit then
    .error (.frameTooLarge size limit)
  else if headerSize + size ≤ coming.bytes.length then
    .ok ((coming.bytes.drop headerSize).take size)
  else
    .error (cutShort coming.ending .payload size (coming.bytes.length - headerSize))

/-- how many bytes of what comes belong to the frame at its front, as far as it is accepted -/
def extent (limit : Nat) (coming : Coming) : Nat := headerSize + toRead limit (coming.bytes.take headerSize)

/-! ## Filling a buffer -/

/-- the next `want` bytes, or all there are if the peer closes its side before; a failure before them is the answer -/
def upTo (want : Nat) (coming : Coming) : Except LinkError Bytes :=
  if want ≤ coming.bytes.length then .ok (coming.bytes.take want)
  else
    match coming.ending with
    | none => .ok coming.bytes
    | some cause => .error (.transport "read" cause)

theorem upTo_after {want : Nat} {piece : Bytes} {coming : Coming} (h : piece.length ≤ want) :
    upTo want (coming.after piece) = (upTo (want - piece.length) coming).map (piece ++ ·) := by
  have hle : want ≤ (coming.after piece).bytes.length ↔ want - piece.length ≤ coming.bytes.length := by
    simp only [Coming.after, List.length_append]
    omega
  simp only [upTo, hle]
  split_ifs
  · simp [Coming.after, List.take_append, List.take_of_length_le h, Except.map]
  · cases hend : coming.ending <;> simp [Coming.after, hend, Except.map]

variable {inflow later : Inflow} {want : Nat} {cause : IoError} {b : UInt8} {piece : Bytes} {trace : Trace}

/-- the accumulators of `fillOn` only stand before what it adds -/
theorem fillOn_eq (got : Bytes) (log : Trace) (want : Nat) (inflow : Inflow) :
    fillOn got log want inflow =
      ⟨(fill want inflow).answer.map (got.reverse ++ ·), (fill want inflow).state,
        log.reverse ++ (fill want inflow).trace⟩ := by
  induction hw : inflow.weight using Nat.strong_induction_on generalizing got log want inflow with
  | _ weight ih =>
    subst hw
    rw [fill, fillOn, fillOn]
    split_ifs
    · simp [Except.map]
    · split
      · simp [Except.map]
      · next b piece later met =>
        have ih := fun got log want => ih _ (Inflow.weight_read_bytes met) got log want later rfl
        simp only [ih]
        cases (fill (want - (piece.length + 1)) later).answer <;> simp [Except.map]
      · next cause later met =>
        have ih := fun got log want => ih _ (Inflow.weight_read_error met) got log want later rfl
        split_ifs
        · simp only [ih]
          cases (fill want later).answer <;> simp [Except.map]
        · simp [LinkError.raise, LinkError.counter, Except.map, Run.after]

theorem fill_end (hwant : want ≠ 0) (met : inflow.read want = (.ok [], later)) :
    fill want inflow = ⟨.ok [], later, [.read want (.ok [])]⟩ := by
  rw [fill, fillOn, if_neg hwant]
  split <;> simp_all

theorem fill_bytes (hwant : want ≠ 0) (met : inflow.read want = (.ok (b :: piece), later)) :
    fill want inflow =
      ⟨(fill (want - (b :: piece).length) later).answer.map ((b :: piece) ++ ·),
        (fill (want - (b :: piece).length) later).state,
        .read want (.ok (b :: piece)) :: (fill (want - (b :: piece).length) later).trace⟩ := by
  rw [fill, fillOn, if_neg hwant]
  split <;> simp_all [fillOn_eq]

theorem fill_retry (hwant : want ≠ 0) (met : inflow.read want = (.error cause, later)) (again : cause.retryable) :
    fill want inflow =
      (fill want later).after [.read want (.error cause), .counted .readInterrupted 1] := by
  show fillOn [] [] want inflow = _
  rw [fillOn, if_neg hwant]
  split
  · next heq => simp [met] at heq
  · next heq => simp [met] at heq
  · next heq =>
    obtain ⟨rfl, rfl⟩ : cause = _ ∧ later = _ := by simpa [met] using heq
    rw [if_pos again, fillOn_eq]
    cases h : (fill want later).answer <;> simp [Run.after, Except.map, h]

theorem fill_failure (hwant : want ≠ 0) (met : inflow.read want = (.error cause, later)) (last : ¬cause.retryable) :
    fill want inflow =
      ⟨.error (.transport "read" cause), later, [.read want (.error cause), .counted .transportError 1]⟩ := by
  rw [fill, fillOn, if_neg hwant]
  split <;> simp_all [LinkError.raise, LinkError.counter, Run.after]

/-- **What filling a buffer can do.** It is done, or its first read meets the closed side, bytes, an interruption or a
failure; after bytes and interruptions it goes on. -/
theorem fill_induction {motive : Nat → Inflow → Run Inflow LinkError Bytes → Prop}
    (done : ∀ inflow, motive 0 inflow ⟨.ok [], inflow, []⟩)
    (closed : ∀ want inflow later, want ≠ 0 → inflow.read want = (.ok [], later) →
      motive want inflow ⟨.ok [], later, [.read want (.ok [])]⟩)
    (bytes : ∀ want inflow later b piece (r : Run Inflow LinkError Bytes), want ≠ 0 →
      inflow.read want = (.ok (b :: piece), later) → motive (want - (b :: piece).length) later r →
      motive want inflow ⟨r.answer.map ((b :: piece) ++ ·), r.state, .read want (.ok (b :: piece)) :: r.trace⟩)
    (retry : ∀ want inflow later cause r, want ≠ 0 → inflow.read want = (.error cause, later) →
      cause.retryable = true → motive want later r →
      motive want inflow (r.after [.read want (.error cause), .counted .readInterrupted 1]))
    (failure : ∀ want inflow later cause, want ≠ 0 → inflow.read want = (.error cause, later) →
      ¬cause.retryable = true → motive want inflow
        ⟨.error (.transport "read" cause), later, [.read want (.error cause), .counted .transportError 1]⟩)
    (want : Nat) (inflow : Inflow) : motive want inflow (fill want inflow) := by
  induction hw : inflow.weight using Nat.strong_induction_on generalizing want inflow with
  | _ weight ih =>
    subst hw
    by_cases hwant : want = 0
    · subst hwant
      rw [fill_zero]
      exact done inflow
    · rcases met : inflow.read want with ⟨cause | _ | ⟨b, piece⟩, later⟩
      · have ih := ih _ (Inflow.weight_read_error met) want later rfl
        by_cases again : cause.retryable = true
        · rw [fill_retry hwant met again]
          exact retry want inflow later cause _ hwant met again ih
        · rw [fill_failure hwant met again]
          exact failure want inflow later cause hwant met again
      · rw [fill_end hwant met]
        exact closed want inflow later hwant met
      · rw [fill_bytes hwant met]
        exact bytes want inflow later b piece _ hwant met (ih _ (Inflow.weight_read_bytes met) _ later rfl)

/-- all that filling a buffer does is reading -/
theorem reading_fill (want : Nat) (inflow : Inflow) : ∀ event ∈ (fill want inflow).trace, event.isReading = true := by
  apply fill_induction (motive := fun _ _ r => ∀ event ∈ r.trace, event.isReading = true)
  · simp
  · simp [Event.isReading]
  · intro want inflow later b piece r hwant met ih
    simpa [Event.isReading] using ih
  · intro want inflow later cause r hwant met again ih
    simpa [Event.isReading] using ih
  · simp [Event.isReading]

/-- filling a buffer needs as many bytes as it has room for -/
theorem consumes_fill (want : Nat) (inflow : Inflow) : Consumes want inflow (fill want inflow) := by
  apply fill_induction (motive := fun want inflow r => Consumes want inflow r)
  · intro inflow
    exact .none rfl Trace.noRead_nil
  · intro want inflow later hwant met
    have hcoming := Inflow.coming_of_read_end (Nat.pos_of_ne_zero hwant) met
    exact .of_end [] (Nat.pos_of_ne_zero hwant) hcoming (by simp [hcoming, Coming.last]) Trace.noRead_nil
  · intro want inflow later b piece r hwant met ih
    exact .of_bytes met ih rfl rfl
  · intro want inflow later cause r hwant met again ih
    exact .of_retry (Nat.pos_of_ne_zero hwant) (Inflow.coming_of_read_retry met again) ih (by simp)
  · intro want inflow later cause hwant met last
    have hcoming := Inflow.coming_of_read_failure met last
    exact .of_end [.counted .transportError 1] (Nat.pos_of_ne_zero hwant) hcoming
      (by simp [hcoming, Coming.last]) (by simp)

/-- filling a buffer answers with what it took -/
theorem answer_fill (want : Nat) (inflow : Inflow) : (fill want inflow).answer = upTo want inflow.coming := by
  apply fill_induction (motive := fun want inflow r => r.answer = upTo want inflow.coming)
  · intro inflow
    simp [upTo]
  · intro want inflow later hwant met
    rw [Inflow.coming_of_read_end (Nat.pos_of_ne_zero hwant) met]
    simp [upTo]
  · intro want inflow later b piece r hwant met ih
    obtain ⟨hcoming, hlen⟩ := Inflow.coming_of_read_bytes met
    rw [ih, hcoming, upTo_after hlen]
  · intro want inflow later cause r hwant met again ih
    rw [Inflow.coming_of_read_retry met again, Run.answer_after, ih]
  · intro want inflow later cause hwant met last
    rw [Inflow.coming_of_read_failure met last]
    simp [upTo, hwant]

/-! ## Filling a payload, piece by piece -/

variable {size start : Nat} {e : LinkError}

/-- how many bytes the buffer of a payload grows by, once it holds `start` of them -/
def growth (size start : Nat) : Nat := min (size - start) step

theorem growth_pos (h : start < size) : 0 < growth size start := by
  simp only [growth, step]
  omega

theorem growth_le (size start : Nat) : growth size start ≤ size - start := Nat.min_le_left _ _

theorem payload_failed (h : start < size) (met : fill (growth size start) inflow = ⟨.error e, later, trace⟩) :
    payload size start inflow = ⟨.error e, later, .reserved (start + growth size start) :: trace⟩ := by
  rw [payload, if_pos h, Act.run_bind_ok (Act.run_record _ _), ← growth, Act.run_bind_error met]
  rfl

theorem payload_short (h : start < size) (met : fill (growth size start) inflow = ⟨.ok piece, later, trace⟩)
    (hlen : piece.length < growth size start) :
    payload size start inflow =
      ⟨.error (.connectionLost .payload size (start + piece.length)), later,
        .reserved (start + growth size start) :: trace ++ [.counted .connectionLost 1]⟩ := by
  rw [payload, if_pos h, Act.run_bind_ok (Act.run_record _ _), ← growth, Act.run_bind_ok met, if_pos hlen]
  rfl

theorem payload_more (h : start < size) (met : fill (growth size start) inflow = ⟨.ok piece, later, trace⟩)
    (hlen : ¬piece.length < growth size start) :
    payload size start inflow =
      ⟨(payload size (start + growth size start) later).answer.map (piece ++ ·),
        (payload size (start + growth size start) later).state,
        .reserved (start + growth size start) :: trace ++ (payload size (start + growth size start) later).trace⟩ := by
  rw [payload, if_pos h, Act.run_bind_ok (Act.run_record _ _), ← growth, Act.run_bind_ok met, if_neg hlen]
  rcases hrest : payload size (start + growth size start) later with ⟨e | rest, last, trace'⟩
  · rw [Act.run_bind_error hrest]
    rfl
  · rw [Act.run_bind_ok hrest]
    simp [Run.after, Except.map]

/-- **What filling a payload can do.** It is done, or its next piece fails, falls short or is whole. -/
theorem payload_induction {motive : Nat → Inflow → Run Inflow LinkError Bytes → Prop}
    (done : ∀ start inflow, size ≤ start → motive start inflow ⟨.ok [], inflow, []⟩)
    (failed : ∀ start inflow e later trace, start < size →
      fill (growth size start) inflow = ⟨.error e, later, trace⟩ →
      motive start inflow ⟨.error e, later, .reserved (start + growth size start) :: trace⟩)
    (short : ∀ start inflow piece later trace, start < size →
      fill (growth size start) inflow = ⟨.ok piece, later, trace⟩ → piece.length < growth size start →
      motive start inflow ⟨.error (.connectionLost .payload size (start + piece.length)), later,
        .reserved (start + growth size start) :: trace ++ [.counted .connectionLost 1]⟩)
    (more : ∀ start inflow piece later trace (r : Run Inflow LinkError Bytes), start < size →
      fill (growth size start) inflow = ⟨.ok piece, later, trace⟩ → ¬piece.length < growth size start →
      motive (start + growth size start) later r → motive start inflow
        ⟨r.answer.map (piece ++ ·), r.state, .reserved (start + growth size start) :: trace ++ r.trace⟩)
    (start : Nat) (inflow : Inflow) : motive start inflow (payload size start inflow) := by
  induction hn : size - start using Nat.strong_induction_on generalizing start inflow with
  | _ n ih =>
    subst hn
    by_cases h : start < size
    · rcases met : fill (growth size start) inflow with ⟨e | piece, later, trace⟩
      · rw [payload_failed h met]
        exact failed start inflow e later trace h met
      · by_cases hlen : piece.length < growth size start
        · rw [payload_short h met hlen]
          exact short start inflow piece later trace h met hlen
        · rw [payload_more h met hlen]
          have hlt : size - (start + growth size start) < size - start := by
            have := growth_pos h
            omega
          exact more start inflow piece later trace _ h met hlen (ih _ hlt _ later rfl)
    · rw [payload_of_le (Nat.not_lt.1 h)]
      exact done start inflow (Nat.not_lt.1 h)

/-- the bytes of a payload from `start` on; a failure tells how far into the payload the bytes reached -/
def payloadFrom (size start : Nat) (coming : Coming) : Except LinkError Bytes :=
  if size - start ≤ coming.bytes.length then .ok (coming.bytes.take (size - start))
  else .error (cutShort coming.ending .payload size (start + coming.bytes.length))

theorem payloadFrom_growth {size start : Nat} {coming : Coming} (h : growth size start ≤ coming.bytes.length) :
    (payloadFrom size (start + growth size start) (coming.drop (growth size start))).map
        (coming.bytes.take (growth size start) ++ ·) = payloadFrom size start coming := by
  have hsum : size - start = growth size start + (size - (start + growth size start)) := by
    have := growth_le size start
    omega
  have hle : size - (start + growth size start) ≤ (coming.drop (growth size start)).bytes.length ↔
      size - start ≤ coming.bytes.length := by
    simp only [Coming.drop, List.length_drop]
    omega
  simp only [payloadFrom, hle]
  split_ifs
  · rw [hsum, List.take_add]
    rfl
  · simp only [Coming.drop, List.length_drop, Except.map]
    congr 2
    omega

theorem fill_error (met : fill want inflow = ⟨.error e, later, trace⟩) :
    inflow.coming.bytes.length < want ∧ ∃ cause, inflow.coming.ending = some cause ∧ e = .transport "read" cause := by
  have hanswer := answer_fill want inflow
  rw [met, upTo] at hanswer
  split_ifs at hanswer with hle
  cases hend : inflow.coming.ending with
  | none => simp [hend] at hanswer
  | some cause => exact ⟨by omega, cause, rfl, by simpa [hend] using hanswer⟩

theorem fill_ok_short (met : fill want inflow = ⟨.ok piece, later, trace⟩) (hlen : piece.length < want) :
    inflow.coming = ⟨piece, none⟩ := by
  have hanswer := answer_fill want inflow
  rw [met, upTo] at hanswer
  split_ifs at hanswer with hle
  · simp only [Except.ok.injEq] at hanswer
    rw [hanswer, List.length_take] at hlen
    omega
  · rcases hcoming : inflow.coming with ⟨bytes, _ | cause⟩ <;> simp_all

theorem fill_ok_full (met : fill want inflow = ⟨.ok piece, later, trace⟩) (hlen : ¬piece.length < want) :
    want ≤ inflow.coming.bytes.length ∧ piece = inflow.coming.bytes.take want ∧
      later.coming = inflow.coming.drop want := by
  have hanswer := answer_fill want inflow
  have hleft := (consumes_fill want inflow).left
  rw [met] at hanswer hleft
  rw [upTo] at hanswer
  split_ifs at hanswer with hle
  · exact ⟨hle, by simpa using hanswer, hleft hle⟩
  · rcases hcoming : inflow.coming with ⟨bytes, _ | cause⟩
    · simp only [hcoming, Except.ok.injEq] at hanswer hle
      rw [hanswer] at hlen
      omega
    · simp [hcoming] at hanswer

/-- all that filling a payload does is reading -/
theorem reading_payload (size start : Nat) (inflow : Inflow) :
    ∀ event ∈ (payload size start inflow).trace, event.isReading = true := by
  apply payload_induction (motive := fun _ _ r => ∀ event ∈ r.trace, event.isReading = true)
  · simp
  · intro start inflow e later trace h met
    have hfill := reading_fill (growth size start) inflow
    rw [met] at hfill
    simpa [Event.isReading] using hfill
  · intro start inflow piece later trace h met hlen
    have hfill := reading_fill (growth size start) inflow
    rw [met] at hfill
    simpa [Event.isReading, or_imp, forall_and] using hfill
  · intro start inflow piece later trace r h met hlen ih
    have hfill := reading_fill (growth size start) inflow
    rw [met] at hfill
    simpa [Event.isReading, or_imp, forall_and] using ⟨hfill, ih⟩

/-- filling a payload needs all its bytes that are not there yet -/
theorem consumes_payload (size start : Nat) (inflow : Inflow) :
    Consumes (size - start) inflow (payload size start inflow) := by
  apply payload_induction (motive := fun start inflow r => Consumes (size - start) inflow r)
  · intro start inflow h
    rw [Nat.sub_eq_zero_of_le h]
    exact .none rfl Trace.noRead_nil
  · intro start inflow e later trace h met
    have hfill := consumes_fill (growth size start) inflow
    rw [met] at hfill
    exact (hfill.cut (fill_error met).1 (growth_le size start)).pad [.reserved (start + growth size start)] [] rfl
      (by simp) (by simp) (by simp)
  · intro start inflow piece later trace h met hlen
    have hfill := consumes_fill (growth size start) inflow
    rw [met] at hfill
    have hshort : inflow.coming.bytes.length < growth size start := by rwa [fill_ok_short met hlen]
    exact (hfill.cut hshort (growth_le size start)).pad [.reserved _] [.counted .connectionLost 1] rfl rfl (by simp)
      (by simp)
  · intro start inflow piece later trace r h met hlen ih
    obtain ⟨henough, -, -⟩ := fill_ok_full met hlen
    have hfill := consumes_fill (growth size start) inflow
    rw [met] at hfill
    have hsum : growth size start + (size - (start + growth size start)) = size - start := by
      have := growth_le size start
      omega
    have hboth := hfill.append henough ih
    rw [hsum] at hboth
    exact hboth.pad [.reserved (start + growth size start)] [] rfl (by simp) (by simp) (by simp)

/-- filling a payload answers with its bytes, or tells where in it they ended -/
theorem answer_payload (size start : Nat) (inflow : Inflow) :
    (payload size start inflow).answer = payloadFrom size start inflow.coming := by
  apply payload_induction (motive := fun start inflow r => r.answer = payloadFrom size start inflow.coming)
  · intro start inflow h
    simp [payloadFrom, Nat.sub_eq_zero_of_le h]
  · intro start inflow e later trace h met
    obtain ⟨hlt, cause, hend, rfl⟩ := fill_error met
    have := growth_le size start
    rw [payloadFrom, if_neg (by omega), hend, cutShort]
  · intro start inflow piece later trace h met hlen
    have := growth_le size start
    rw [fill_ok_short met hlen, payloadFrom, if_neg (by simp; omega), cutShort]
  · intro start inflow piece later trace r h met hlen ih
    obtain ⟨henough, rfl, hleft⟩ := fill_ok_full met hlen
    rw [ih, hleft, payloadFrom_growth henough]

/-! ## A whole frame -/

theorem read_failed (met : fill headerSize inflow = ⟨.error e, later, trace⟩) :
    ∀ limit, read limit inflow = ⟨.error e, later, trace⟩ :=
  fun _ => Act.run_bind_error met

theorem read_short (met : fill headerSize inflow = ⟨.ok piece, later, trace⟩) (hlen : piece.length < headerSize)
    (limit : Nat) :
    read limit inflow =
      ⟨.error (.connectionLost .header headerSize piece.length), later, trace ++ [.counted .connectionLost 1]⟩ := by
  rw [read, Act.run_bind_ok met, if_pos hlen]
  rfl

theorem read_tooLarge (met : fill headerSize inflow = ⟨.ok piece, later, trace⟩) (hlen : ¬piece.length < headerSize)
    {limit : Nat} (hlimit : declared piece > limit) :
    read limit inflow =
      ⟨.error (.frameTooLarge (declared piece) limit), later, trace ++ [.counted .frameTooLarge 1]⟩ := by
  rw [read, Act.run_bind_ok met, if_neg hlen, if_pos hlimit]
  rfl

theorem read_payload (met : fill headerSize inflow = ⟨.ok piece, later, trace⟩) (hlen : ¬piece.length < headerSize)
    {limit : Nat} (hlimit : ¬declared piece > limit) :
    read limit inflow = (payload (declared piece) 0 later).after trace := by
  rw [read, Act.run_bind_ok met, if_neg hlen, if_neg hlimit]

/-- all that reading a frame does is reading -/
theorem reading_read (limit : Nat) (inflow : Inflow) : ∀ event ∈ (read limit inflow).trace, event.isReading = true := by
  have hfill := reading_fill headerSize inflow
  rcases met : fill headerSize inflow with ⟨e | head, later, trace⟩
  · rw [met] at hfill
    rwa [read_failed met]
  · rw [met] at hfill
    by_cases hlen : head.length < headerSize
    · rw [read_short met hlen]
      simpa [Event.isReading, or_imp, forall_and] using hfill
    · by_cases hlimit : declared head > limit
      · rw [read_tooLarge met hlen hlimit]
        simpa [Event.isReading, or_imp, forall_and] using hfill
      · rw [read_payload met hlen hlimit]
        simpa [or_imp, forall_and] using ⟨hfill, reading_payload _ 0 later⟩

/-- reading a frame needs the bytes that belong to it -/
theorem consumes_read (limit : Nat) (inflow : Inflow) :
    Consumes (extent limit inflow.coming) inflow (read limit inflow) := by
  have hfill := consumes_fill headerSize inflow
  rcases met : fill headerSize inflow with ⟨e | head, later, trace⟩
  · rw [met] at hfill
    rw [read_failed met]
    exact hfill.cut (fill_error met).1 (Nat.le_add_right _ _)
  · rw [met] at hfill
    by_cases hlen : head.length < headerSize
    · rw [read_short met hlen]
      have hshort : inflow.coming.bytes.length < headerSize := by rwa [fill_ok_short met hlen]
      exact (hfill.cut hshort (Nat.le_add_right _ _)).pad [] [.counted .connectionLost 1] rfl rfl (by simp) (by simp)
    · obtain ⟨henough, rfl, -⟩ := fill_ok_full met hlen
      by_cases hlimit : declared (inflow.coming.bytes.take headerSize) > limit
      · rw [read_tooLarge met hlen hlimit, extent, toRead, if_pos (Or.inr hlimit)]
        exact hfill.pad [] [.counted .frameTooLarge 1] rfl rfl (by simp) (by simp)
      · rw [read_payload met hlen hlimit, extent, toRead, if_neg (not_or.2 ⟨hlen, hlimit⟩)]
        exact hfill.append henough (consumes_payload _ 0 later)

/-- reading a frame answers as the reference does -/
theorem answer_read (limit : Nat) (inflow : Inflow) : (read limit inflow).answer = decode limit inflow.coming := by
  rcases met : fill headerSize inflow with ⟨e | head, later, trace⟩
  · obtain ⟨hlt, cause, hend, rfl⟩ := fill_error met
    rw [read_failed met, decode, if_pos hlt, hend, cutShort]
  · by_cases hlen : head.length < headerSize
    · rw [read_short met hlen, fill_ok_short met hlen, decode, if_pos hlen, cutShort]
    · obtain ⟨henough, rfl, hleft⟩ := fill_ok_full met hlen
      rw [decode, if_neg (Nat.not_lt.2 henough)]
      by_cases hlimit : declared (inflow.coming.bytes.take headerSize) > limit
      · rw [read_tooLarge met hlen hlimit, if_pos hlimit]
      · rw [read_payload met hlen hlimit, if_neg hlimit, Run.answer_after, answer_payload, hleft, payloadFrom]
        simp only [Coming.drop, List.length_drop, Nat.sub_zero, Nat.zero_add, Nat.le_sub_iff_add_le henough,
          Nat.add_comm]

theorem extent_whole {limit : Nat} {coming : Coming} (hheader : headerSize ≤ coming.bytes.length)
    (hlimit : declared (coming.bytes.take headerSize) ≤ limit) :
    extent limit coming = headerSize + declared (coming.bytes.take headerSize) := by
  rw [extent, toRead, if_neg]
  simp only [List.length_take, gt_iff_lt, not_or, Nat.not_lt]
  omega

theorem extent_tooLarge {limit : Nat} {coming : Coming} (hlimit : limit < declared (coming.bytes.take headerSize)) :
    extent limit coming = headerSize := by
  rw [extent, toRead, if_pos (Or.inr hlimit), Nat.add_zero]

/-- **Reading a frame is decoding what comes.** Let `D` be the bytes that come, however they are cut into pieces and
wherever reads are interrupted, `t` what ends them, and `N` the size that their first four bytes declare. Answer and
bytes taken are a function of `D`, `t` and the limit:
(1) fewer than four bytes: the header is cut short, and all is taken;
(2) a size above the limit: it is refused, with four bytes taken, and no read begins once they are there;
(3) a whole frame: its payload, with exactly the frame taken, and no read begins once it is there;
(4) a payload that is cut short: all is taken. -/
theorem read_eq_decode (limit : Nat) (inflow : Inflow) :
    let D := inflow.coming.bytes
    let t := inflow.coming.ending
    let N := declared (D.take headerSize)
    let r := read limit inflow
    (∀ other : Inflow, other.coming = inflow.coming →
      (read limit other).answer = r.answer ∧ Trace.received (read limit other).trace = Trace.received r.trace) ∧
    (D.length < headerSize →
      r.answer = .error (cutShort t .header headerSize D.length) ∧ Trace.received r.trace = D) ∧
    (headerSize ≤ D.length → limit < N →
      r.answer = .error (.frameTooLarge N limit) ∧ Trace.received r.trace = D.take headerSize ∧
        r.trace.EachRead (fun got _ => got < headerSize) ∧ r.state.coming = ⟨D.drop headerSize, t⟩) ∧
    (headerSize ≤ D.length → N ≤ limit → headerSize + N ≤ D.length →
      r.answer = .ok ((D.drop headerSize).take N) ∧ Trace.received r.trace = D.take (headerSize + N) ∧
        r.trace.EachRead (fun got _ => got < headerSize + N) ∧ r.state.coming = ⟨D.drop (headerSize + N), t⟩) ∧
    (headerSize ≤ D.length → N ≤ limit → D.length < headerSize + N →
      r.answer = .error (cutShort t .payload N (D.length - headerSize)) ∧ Trace.received r.trace = D) := by
  intro D t N r
  have hanswer : r.answer = decode limit inflow.coming := answer_read limit inflow
  have hrun : Consumes (extent limit inflow.coming) inflow r := consumes_read limit inflow
  have hreads : r.trace.EachRead fun got _ => got < extent limit inflow.coming :=
    hrun.reads.mono fun got room hp => by omega
  refine ⟨fun other hother => ?_, fun hshort => ?_, fun hheader hlimit => ?_, fun hheader hlimit hwhole => ?_,
    fun hheader hlimit hcut => ?_⟩
  · rw [answer_read, (consumes_read limit other).received, hother, hanswer, hrun.received]
    exact ⟨rfl, rfl⟩
  · rw [hanswer, hrun.received, decode, if_pos hshort]
    exact ⟨rfl, List.take_of_length_le (hshort.le.trans (Nat.le_add_right _ _))⟩
  · rw [extent_tooLarge hlimit] at hrun hreads
    rw [hanswer, decode, if_neg (Nat.not_lt.2 hheader), if_pos hlimit]
    exact ⟨rfl, hrun.received, hreads, hrun.left hheader⟩
  · rw [extent_whole hheader hlimit] at hrun hreads
    rw [hanswer, decode, if_neg (Nat.not_lt.2 hheader), if_neg (Nat.not_lt.2 hlimit), if_pos hwhole]
    exact ⟨rfl, hrun.received, hreads, hrun.left hwhole⟩
  · rw [extent_whole hheader hlimit] at hrun
    rw [hanswer, decode, if_neg (Nat.not_lt.2 hheader), if_neg (Nat.not_lt.2 hlimit), if_neg (Nat.not_le.2 hcut)]
    exact ⟨rfl, hrun.received.trans (List.take_of_length_le hcut.le)⟩

example : decode 10 ⟨[2, 0, 0, 0, 104, 105, 1], none⟩ = .ok [104, 105] := by decide

example : decode 10 ⟨[2, 0, 0, 0, 104], none⟩ = .error (.connectionLost .payload 2 1) := by decide

/-- a frame that was read whole is the frame of its payload, and it has left the front of what comes -/
theorem encode_of_read {limit : Nat} (h : read limit inflow = ⟨.ok piece, later, trace⟩) :
    encode piece = .ok (Trace.received trace) ∧ inflow.coming = later.coming.after (Trace.received trace) := by
  have hanswer := answer_read limit inflow
  have hrun := consumes_read limit inflow
  have hreceived := hrun.received
  have hleft := hrun.left
  rw [h] at hanswer hreceived hleft
  simp only at hanswer hreceived hleft
  generalize inflow.coming = coming at hanswer hreceived hleft ⊢
  obtain ⟨D, t⟩ := coming
  rw [decode] at hanswer
  split_ifs at hanswer with hshort hlimit hwhole
  simp only [Nat.not_lt, gt_iff_lt, Except.ok.injEq] at hshort hlimit hwhole hanswer
  rw [extent_whole hshort hlimit] at hreceived hleft
  have hheader : (D.take headerSize).length = headerSize := List.length_take_of_le hshort
  have hlength : piece.length = declared (D.take headerSize) := by
    rw [hanswer, List.length_take, List.length_drop]
    omega
  have hframe : Trace.received trace = header piece.length ++ piece := by
    calc Trace.received trace = D.take (headerSize + declared (D.take headerSize)) := hreceived
      _ = D.take headerSize ++ (D.drop headerSize).take (declared (D.take headerSize)) := List.take_add
      _ = header piece.length ++ piece := by rw [hlength, header_declared hheader, hanswer]
  refine ⟨encode_eq_ok_iff.2 ⟨hlength ▸ declared_le hheader, hframe⟩, ?_⟩
  rw [hleft hwhole, hreceived]
  simp [Coming.after, Coming.drop]

end Frame

end QueryConsole
