import QueryConsole.Proofs.Client.Exchange
import QueryConsole.Proofs.Flow.FrameFront

/-
What receiving answers, by what comes.

A client that receives meets one of four things: the whole frame of a text, the whole frame of a payload that is no
text, a header above its limit, or bytes that end inside a frame. Each has an answer of its own (`Received`), and each
answer tells which of them it was. The size is looked at before the payload comes, and the payload is looked at when it
is whole: a frame that is cut is never taken for text that is wrong, whatever stands in it, and a character may be split
wherever the bytes are.

Results:
- `received_receive`: the answer, by the front of what comes.
- `state_receive`: the client stays open with a text, and is closed by a failure.
- `receive_classified`: both directions, for texts and for the two classes of failures.
-/

namespace QueryConsole

namespace Utf8

/-- bytes do not decode exactly if they are the bytes of no text -/
theorem decode_error_iff {bytes : Bytes} : (∃ fault, decode bytes = .error fault) ↔ ∀ text, encode text ≠ bytes := by
  constructor
  · rintro ⟨fault, hfault⟩ text rfl
    rw [decode_encode] at hfault
    cases hfault
  · intro hnone
    cases hdecode : decode bytes with
    | error fault => exact ⟨fault, rfl⟩
    | ok text => exact absurd (encode_of_decode hdecode) (hnone text)

end Utf8

namespace Client

open QueryConsole.Frame (Front)

variable {max : Nat} {front : Front} {answer : Except LinkError String} {limit : UInt32} {inflow : Inflow}
  {outflow : Outflow} {text : String} {e : LinkError}

/-- what a client answers to what stands at the front of the bytes that come -/
inductive Received (max : Nat) : Front → Except LinkError String → Prop
  | text (text : String) : Received max (.whole (Utf8.encode text)) (.ok text)
  | notText (payload : Bytes) (fault : Utf8.Fault) (none : ∀ text, Utf8.encode text ≠ payload) :
    Received max (.whole payload) (.error (.invalidUtf8 payload fault))
  | oversized (size : Nat) : Received max (.oversized size) (.error (.frameTooLarge size max))
  | cut (ending : Option IoError) (phase : Phase) (expected received : Nat) :
    Received max .cut (.error (Frame.cutShort ending phase expected received))

/-- what becomes of what was read -/
theorem received_verdict {read : Except LinkError Bytes} (h : Frame.Reading max front read) :
    Received max front (verdict read) := by
  cases h with
  | oversized size => exact .oversized size
  | cut ending phase expected received => exact .cut ending phase expected received
  | whole payload =>
    cases hdecode : Utf8.decode payload with
    | ok text =>
      rw [← Utf8.encode_of_decode hdecode, verdict_encode]
      exact .text text
    | error fault =>
      rw [verdict, hdecode]
      exact .notText payload fault (Utf8.decode_error_iff.1 ⟨fault, hdecode⟩)

/-- **Receiving answers by the front of what comes.** -/
theorem received_receive (limit : UInt32) (inflow : Inflow) (outflow : Outflow) :
    Received limit.toNat (Frame.front limit.toNat inflow.coming.bytes)
      (receive ⟨limit, some ⟨inflow, outflow⟩⟩).answer := by
  have hread := Frame.answer_read limit.toNat inflow
  rcases hrun : Frame.read limit.toNat inflow with ⟨answer, later, trace⟩
  rw [hrun] at hread
  obtain rfl : answer = Frame.decode limit.toNat inflow.coming := hread
  rw [receive_open hrun]
  exact received_verdict (Frame.decode_front limit.toNat inflow.coming)

/-! ## What an answer tells -/

theorem Received.ok_iff (h : Received max front answer) (text : String) :
    answer = .ok text ↔ front = .whole (Utf8.encode text) := by
  cases h with
  | text found =>
    have hinj : Utf8.encode found = Utf8.encode text → found = text := fun heq => by
      have := congrArg Utf8.decode heq
      simpa [Utf8.decode_encode] using this
    simpa using ⟨congrArg _, hinj⟩
  | notText payload fault none => simpa using (none text).symm
  | oversized size => simp
  | cut ending phase expected received => simp

/-- a failure that tells of bytes that are no valid response has seen a header above the limit, or a whole payload that
is no text -/
theorem Received.protocol_iff (h : Received max front answer) :
    (∃ e, answer = .error e ∧ e.isProtocol = true ∧ e.isTransport = false) ↔
      (∃ size, front = .oversized size) ∨
        ∃ payload, front = .whole payload ∧ ∀ text, Utf8.encode text ≠ payload := by
  cases h with
  | text text => simp
  | notText payload fault none => simpa [LinkError.isProtocol, LinkError.isTransport] using none
  | oversized size => simp [LinkError.isProtocol, LinkError.isTransport]
  | cut ending phase expected received =>
    have hclass := Frame.class_cutShort ending phase expected received
    simp [hclass]

theorem Received.transport_iff (h : Received max front answer) :
    (∃ e, answer = .error e ∧ e.isTransport = true ∧ e.isProtocol = false) ↔ front = .cut := by
  cases h with
  | text text => simp
  | notText payload fault none => simp [LinkError.isTransport]
  | oversized size => simp [LinkError.isTransport]
  | cut ending phase expected received =>
    have hclass := Frame.class_cutShort ending phase expected received
    simp [hclass]

theorem Received.tooLarge_iff (h : Received max front answer) (size : Nat) :
    answer = .error (.frameTooLarge size max) ↔ front = .oversized size := by
  cases h with
  | text text => simp
  | notText payload fault none => simp
  | oversized size' => simp
  | cut ending phase expected received => cases ending <;> simp [Frame.cutShort]

theorem Received.notText_iff (h : Received max front answer) (payload : Bytes) :
    (∃ fault, answer = .error (.invalidUtf8 payload fault)) ↔
      front = .whole payload ∧ ∀ text, Utf8.encode text ≠ payload := by
  cases h with
  | text text =>
    simp only [reduceCtorEq, exists_false, Front.whole.injEq, false_iff, not_and]
    rintro rfl hnone
    exact hnone text rfl
  | notText payload' fault none =>
    simp only [Except.error.injEq, LinkError.invalidUtf8.injEq, exists_and_left, exists_eq', and_true,
      Front.whole.injEq, iff_self_and]
    rintro rfl
    exact none
  | oversized size => simp
  | cut ending phase expected received => cases ending <;> simp [Frame.cutShort]

/-- a failure to receive is in exactly one of the two classes -/
theorem Received.class_error (h : Received max front (.error e)) : e.isTransport = !e.isProtocol := by
  cases h with
  | notText => rfl
  | oversized => rfl
  | cut ending phase expected received =>
    obtain ⟨htransport, hprotocol⟩ := Frame.class_cutShort ending phase expected received
    rw [htransport, hprotocol]
    rfl

/-! ## What becomes of the client -/

/-- **A text keeps the client open, behind exactly its frame; a failure closes it.** -/
theorem state_receive (limit : UInt32) (inflow : Inflow) (outflow : Outflow) :
    let r := receive ⟨limit, some ⟨inflow, outflow⟩⟩
    (∀ text, r.answer = .ok text → ∃ later, r.state = ⟨limit, some ⟨later, outflow⟩⟩ ∧
      Frame.encode (Utf8.encode text) = .ok (Trace.received r.trace) ∧
      inflow.coming = later.coming.after (Trace.received r.trace)) ∧
    ∀ e, r.answer = .error e → r.state = ⟨limit, none⟩ := by
  obtain ⟨trace, -, ⟨e, hrun⟩ | ⟨text, later, hrun, hframe, hcoming⟩⟩ := receive_cases limit inflow outflow
  · simp [hrun]
  · simp only [hrun, Except.ok.injEq, reduceCtorEq, false_implies, implies_true, and_true]
    rintro _ rfl
    exact ⟨later, rfl, hframe, hcoming⟩

/-- **Receiving accepts exactly framed text, and sorts its failures by what came.** Let `D` be the bytes that come
before the first end or failure of the stream, however they are cut into pieces and wherever reads are interrupted:
- the answer is a text exactly if `D` begins with its frame, within the limit; then the client stays open, and exactly
  the frame is taken;
- the failure is one of the protocol exactly if `D` begins with a header above the limit (and this is the failure), or
  with the whole frame of a payload that is no text (and this is the failure, with the payload as it is);
- the failure is one of the transport exactly if `D` ends inside a frame, whatever stands in it;
- every failure is in one of the two classes only, and closes the client. -/
theorem receive_classified (limit : UInt32) (inflow : Inflow) (outflow : Outflow) :
    let D := inflow.coming.bytes
    let max := limit.toNat
    let r := receive ⟨limit, some ⟨inflow, outflow⟩⟩
    (∀ text, r.answer = .ok text ↔ Frame.Whole max (Utf8.encode text) D) ∧
    (∀ text, r.answer = .ok text → ∃ later, r.state = ⟨limit, some ⟨later, outflow⟩⟩ ∧
      Frame.encode (Utf8.encode text) = .ok (Trace.received r.trace) ∧
      inflow.coming = later.coming.after (Trace.received r.trace)) ∧
    ((∃ e, r.answer = .error e ∧ e.isProtocol = true ∧ e.isTransport = false) ↔
      (∃ size, Frame.Oversized max size D) ∨
        ∃ payload, Frame.Whole max payload D ∧ ∀ text, Utf8.encode text ≠ payload) ∧
    (∀ size, r.answer = .error (.frameTooLarge size max) ↔ Frame.Oversized max size D) ∧
    (∀ payload, (∃ fault, r.answer = .error (.invalidUtf8 payload fault)) ↔
      Frame.Whole max payload D ∧ ∀ text, Utf8.encode text ≠ payload) ∧
    ((∃ e, r.answer = .error e ∧ e.isTransport = true ∧ e.isProtocol = false) ↔ Frame.Cut max D) ∧
    ∀ e, r.answer = .error e → r.state = ⟨limit, none⟩ ∧ e.isTransport = !e.isProtocol := by
  intro D max r
  have hreceived : Received max (Frame.front max D) r.answer := received_receive limit inflow outflow
  obtain ⟨hopen, hclosed⟩ := state_receive limit inflow outflow
  simp only [← Frame.front_eq_whole_iff, ← Frame.front_eq_oversized_iff, ← Frame.front_eq_cut_iff]
  refine ⟨hreceived.ok_iff, hopen, hreceived.protocol_iff, hreceived.tooLarge_iff, hreceived.notText_iff,
    hreceived.transport_iff, fun e he => ⟨hclosed e he, ?_⟩⟩
  rw [he] at hreceived
  exact hreceived.class_error

end Client

end QueryConsole
