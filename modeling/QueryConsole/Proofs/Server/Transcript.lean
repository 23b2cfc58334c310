import Mathlib
import QueryConsole.Proofs.Server.Connection

/-
The transcript of a connection: what a server hands to its handler and what it writes, for any peer and any handler.

`Inflow.pieces` are the pieces that the reads of a server bring, whatever the server does with them, and what ends
them. Each piece is answered with one frame, in order; the handler goes on from state to state over the pieces that are
text, and sees no others (`replies`, `Served`). The connection ends with the pieces, or in the middle of a frame whose
delivery is refused (`Outflow.Refused`).

A server that keeps one buffer for all its requests (`serveReusing`) does the same: a request is only the part of the
buffer that its own read filled.

Results:
- `length_encode_notText`: the answer to a piece that is not text always fits a frame.
- `serveConnection_cases`: a connection comes to the end of its pieces, or one delivery is refused.
- `serveReusing_eq`: what earlier requests left in the buffer is never seen.
- `serveConnection_transcript`: both, as the transcript of a connection.
-/

namespace QueryConsole

/-! ## The pieces that reads bring -/

namespace Inflow

variable {room : Nat} {inflow later : Inflow} {cause : IoError} {b : UInt8} {piece : Bytes}

/-- the pieces that reads into `room` bytes bring before the first end, and the failure that ends them; no failure: the
peer closes its side -/
def pieces (room : Nat) (inflow : Inflow) : List Bytes × Option IoError :=
  match _met : inflow.read room with
  | (.ok [], _) => ([], none)
  | (.ok (b :: piece), later) => ((b :: piece) :: (pieces room later).1, (pieces room later).2)
  | (.error cause, later) => if cause.retryable then pieces room later else ([], some cause)
termination_by inflow.weight
decreasing_by
  · exact weight_read_bytes _met
  · exact weight_read_error _met

theorem pieces_end (met : inflow.read room = (.ok [], later)) : inflow.pieces room = ([], none) := by
  rw [pieces]
  split <;> simp_all

theorem pieces_bytes (met : inflow.read room = (.ok (b :: piece), later)) :
    inflow.pieces room = ((b :: piece) :: (later.pieces room).1, (later.pieces room).2) := by
  rw [pieces]
  split <;> simp_all

theorem pieces_retry (met : inflow.read room = (.error cause, later)) (again : cause.retryable = true) :
    inflow.pieces room = later.pieces room := by
  rw [pieces]
  split <;> simp_all

theorem pieces_failure (met : inflow.read room = (.error cause, later)) (last : ¬ cause.retryable = true) :
    inflow.pieces room = ([], some cause) := by
  rw [pieces]
  split <;> simp_all

/-- what reads can bring: the end, a failure, or a piece; after interruptions and pieces they go on -/
theorem pieces_induction (room : Nat) {motive : Inflow → Prop}
    (closed : ∀ inflow later, inflow.read room = (.ok [], later) → motive inflow)
    (bytes : ∀ inflow later b piece, inflow.read room = (.ok (b :: piece), later) → motive later → motive inflow)
    (retry : ∀ inflow later cause, inflow.read room = (.error cause, later) → cause.retryable = true → motive later →
      motive inflow)
    (failure : ∀ inflow later cause, inflow.read room = (.error cause, later) → ¬ cause.retryable = true →
      motive inflow)
    (inflow : Inflow) : motive inflow := by
  induction hw : inflow.weight using Nat.strong_induction_on generalizing inflow with
  | _ weight ih =>
    subst hw
    rcases met : inflow.read room with ⟨cause | _ | ⟨b, piece⟩, later⟩
    · by_cases again : cause.retryable = true
      · exact retry inflow later cause met again (ih _ (weight_read_error met) later rfl)
      · exact failure inflow later cause met again
    · exact closed inflow later met
    · exact bytes inflow later b piece met (ih _ (weight_read_bytes met) later rfl)

/-- a piece is no larger than the room it is read into -/
theorem length_of_mem_pieces (inflow : Inflow) : ∀ piece ∈ (inflow.pieces room).1, piece.length ≤ room := by
  induction inflow using pieces_induction room with
  | closed inflow later met => simp [pieces_end met]
  | bytes inflow later b piece met ih => simpa [pieces_bytes met] using ⟨length_read met, ih⟩
  | retry inflow later cause met again ih => simpa [pieces_retry met again] using ih
  | failure inflow later cause met last => simp [pieces_failure met last]

end Inflow

/-! ## The answer to a piece that is not text -/

namespace Utf8

/-- a text has at most four bytes for each character -/
theorem length_encode_le (chars : List Char) : (encode (String.ofList chars)).length ≤ 4 * chars.length := by
  induction chars with
  | nil => exact Nat.le_refl _
  | cons c chars ih =>
    have hchar := c.utf8Size_le_four
    rw [length_encode] at ih ⊢
    rw [String.ofList_cons, String.utf8ByteSize_append, String.utf8ByteSize_singleton, List.length_cons]
    omega

/-- a fault lies in the bytes that were scanned -/
theorem scan_le (start seen : Nat) (wanted : List Span) (bytes : Bytes) :
    (scan start seen wanted bytes).validUpTo ≤ start + seen + bytes.length ∧
      ∀ n ∈ (scan start seen wanted bytes).wrongLength, n ≤ seen + bytes.length + 1 := by
  fun_induction scan start seen wanted bytes with
  | case1 => simp
  | case2 => simp
  | case3 start seen b rest spans htail ih =>
    exact ⟨ih.1.trans (by simp; omega), fun n hn => (ih.2 n hn).trans (by simp; omega)⟩
  | case4 start seen span wanted b rest hholds ih =>
    exact ⟨ih.1.trans (by simp; omega), fun n hn => (ih.2 n hn).trans (by simp; omega)⟩
  | case5 => simp; omega

/-- the words of a fault are few, if the bytes are -/
theorem length_message_locate {bytes : Bytes} (h : bytes.length < 9999) :
    (locate bytes).message.length ≤ 100 := by
  obtain ⟨hvalid, hwrong⟩ := scan_le 0 0 [] bytes
  have hdigits : ∀ n, n ≤ bytes.length + 1 → (toString n).length ≤ 5 := fun n hn =>
    Nat.repr_length n 5 (by decide) (by omega)
  have hindex := hdigits (locate bytes).validUpTo (by rw [locate]; omega)
  have hlength : ∀ n ∈ (locate bytes).wrongLength, (toString n).length ≤ 5 := fun n hn =>
    hdigits n (by have := hwrong n hn; omega)
  unfold Fault.message
  split
  · next n hn =>
    have hwords : "invalid utf-8 sequence of ".length = 26 ∧ " bytes from index ".length = 18 := ⟨rfl, rfl⟩
    have := hlength n hn
    simp only [String.length_append, hwords]
    omega
  · have hwords : "incomplete utf-8 byte sequence from index ".length = 42 := rfl
    simp only [String.length_append, hwords]
    omega

end Utf8

namespace Server

variable {answer : Handler η} {peer : String} {state : η} {inflow later : Inflow} {outflow : Outflow} {cause : IoError}
  {b : UInt8} {piece : Bytes} {pieces : List Bytes} {r : Run (Service η) LinkError Unit}

/-- the answer to a piece that is not text always fits a frame -/
theorem length_encode_notText (h : piece.length ≤ requestSize) :
    (Utf8.encode (notText (Utf8.locate piece))).length ≤ Frame.largest := by
  have hmessage : (Utf8.locate piece).message.length ≤ 100 :=
    Utf8.length_message_locate (by rw [requestSize] at h; omega)
  have hwords : "request is not valid utf8: ".length = 27 ∧ (Table.trailer 1).length = 19 := ⟨rfl, rfl⟩
  refine (Utf8.length_encode_le _).trans ?_
  simp only [Table.row, Table.cell, List.flatMap_cons, List.flatMap_nil, List.length_append, List.length_cons,
    List.length_nil, String.length_toList, String.length_append, hwords, Frame.largest]
  omega

/-! ## The replies -/

/-- the texts that answer some pieces, one after the other -/
def replies (answer : Handler η) : η → List Bytes → List String
  | _, [] => []
  | state, piece :: later => (replyFrom answer state piece).1 :: replies answer (replyFrom answer state piece).2 later

/-- the state of the handler after some pieces -/
def stateAfter (answer : Handler η) (state : η) (pieces : List Bytes) : η :=
  pieces.foldl (fun state piece => (replyFrom answer state piece).2) state

/-- the piece is the bytes of a text -/
def isText (piece : Bytes) : Bool := (Utf8.decode piece).isOk

theorem length_replyFrom (hshort : ∀ request state, (Utf8.encode (answer request state).1).length ≤ Frame.largest)
    (state : η) (h : piece.length ≤ requestSize) :
    (Utf8.encode (replyFrom answer state piece).1).length ≤ Frame.largest := by
  unfold replyFrom
  split
  · exact hshort _ _
  · next fault hdecode =>
    obtain rfl : Utf8.locate piece = fault := by
      simp only [Utf8.decode] at hdecode
      split at hdecode
      · cases hdecode
      · exact Except.error.inj hdecode
    rw [← notText_eq]
    exact length_encode_notText h

theorem length_of_mem_replies
    (hshort : ∀ request state, (Utf8.encode (answer request state).1).length ≤ Frame.largest)
    (h : ∀ piece ∈ pieces, piece.length ≤ requestSize) :
    ∀ text ∈ replies answer state pieces, (Utf8.encode text).length ≤ Frame.largest := by
  induction pieces generalizing state with
  | nil => simp [replies]
  | cons piece pieces ih =>
    obtain ⟨hpiece, hlater⟩ := List.forall_mem_cons.1 h
    exact List.forall_mem_cons.2 ⟨length_replyFrom hshort state hpiece, ih hlater⟩

/-- what a server does about a piece before it writes: it is counted, and given to the handler if it is text -/
theorem views_finding (peer : String) (piece : Bytes) :
    (Trace.handled (finding peer piece)).map Utf8.encode = [piece].filter isText ∧
      Trace.total .requests (finding peer piece) = 1 ∧
      Trace.total .requestNotUtf8 (finding peer piece) = [piece].countP (!isText ·) ∧
      Trace.total .framesWritten (finding peer piece) = 0 := by
  cases hdecode : Utf8.decode piece with
  | ok request =>
    have htext : isText piece = true := by simp [isText, hdecode, Except.isOk, Except.toBool]
    have hbytes := Utf8.encode_of_decode hdecode
    simp [finding, noted, hdecode, htext, hbytes, Event.request, Trace.total, Event.adds]
  | error fault =>
    have htext : isText piece = false := by simp [isText, hdecode, Except.isOk, Except.toBool]
    simp [finding, noted, hdecode, htext, Event.request, Trace.total, Event.adds]

end Server

/-! ## One frame -/

namespace Event

/-- the event is a write or a flush -/
def isWriting : Event → Bool
  | wrote .. | flushed .. => true
  | _ => false

end Event

/-- writes and flushes bring no piece, give the handler no request and count nothing -/
theorem Trace.views_of_isWriting {trace : Trace} (h : ∀ e ∈ trace, e.isWriting = true) :
    pieces trace = [] ∧ handled trace = [] ∧ ∀ counter, total counter trace = 0 := by
  induction trace with
  | nil => exact ⟨rfl, rfl, fun _ => rfl⟩
  | cons e trace ih =>
    obtain ⟨hwriting, hlater⟩ := List.forall_mem_cons.1 h
    obtain ⟨hpieces, hhandled, htotal⟩ := ih hlater
    cases e with
    | wrote | flushed =>
      refine ⟨by simpa [Event.piece] using hpieces, by simpa [Event.request] using hhandled, fun counter => ?_⟩
      exact (Nat.zero_add _).trans (htotal counter)
    | _ => cases hwriting

/-- **What writing a text can do.** It writes and flushes; either all bytes of the frame are taken and the frame is
counted, or a call is refused, and that call is the last. -/
theorem Frame.write_cases {text : String} (h : (Utf8.encode text).length ≤ largest) (outflow : Outflow) :
    ∃ later trace, (∀ e ∈ trace, e.isWriting = true) ∧
      ((write (Utf8.encode text) outflow = ⟨.ok (), later, trace ++ [.counted .framesWritten 1]⟩ ∧
          Trace.taken .link trace = ofText text) ∨
        ∃ e before last, trace = before ++ [last] ∧
          write (Utf8.encode text) outflow = ⟨.error e, later, trace ++ [.counted .transportError 1]⟩ ∧
          Outflow.Refused (ofText text) (Trace.taken .link trace) last e) := by
  rw [write, encode_ofText h]
  obtain ⟨later, writes, hwrites, hshape⟩ := Outflow.deliver_shape (ofText text) outflow
  have hwriting : ∀ e ∈ writes, e.isWriting = true := by
    intro e he
    obtain ⟨taken, rfl⟩ := hwrites e he
    rfl
  rcases hshape with ⟨hdeliver, htaken⟩ | ⟨e, before, last, hdeliver, hrefused, hlast⟩
  · refine ⟨later, writes ++ [.flushed .link (.ok ())], ?_, .inl ⟨Act.run_bind_ok hdeliver, ?_⟩⟩
    · exact List.forall_mem_append.2 ⟨hwriting, by simp [Event.isWriting]⟩
    · simpa [Event.taken] using htaken
  · refine ⟨later, before ++ [last], ?_, .inr ⟨e, before, last, rfl, ?_, hrefused⟩⟩
    · rcases hlast with rfl | ⟨cause, rfl, rfl⟩
      · exact hwriting
      · exact List.forall_mem_append.2 ⟨hwriting, by simp [Event.isWriting]⟩
    · rw [List.append_assoc]
      exact Act.run_bind_error hdeliver

namespace Server

variable {answer : Handler η} {peer : String} {state : η} {inflow later : Inflow} {outflow : Outflow} {cause : IoError}
  {b : UInt8} {piece : Bytes} {pieces frames : List Bytes} {service : Service η} {e : LinkError} {trace : Trace}
  {r : Run (Service η) LinkError Unit}

/-! ## A piece that is handled -/

/-- what a server does about a piece, with the events of writing the reply -/
def handling (peer : String) (piece : Bytes) (writing : Trace) : Trace :=
  .read requestSize (.ok piece) :: (finding peer piece ++ writing)

/-- the views of what a server does about a piece: the piece, the request that it is, and its part of the counts -/
theorem views_handling (peer : String) (b : UInt8) (piece : Bytes) (hwriting : ∀ e ∈ trace, e.isWriting = true)
    {counter : Counter} (hcounter : counter = .framesWritten ∨ counter = .transportError) :
    let all := handling peer (b :: piece) (trace ++ [.counted counter 1])
    Trace.pieces all = [b :: piece] ∧ (Trace.handled all).map Utf8.encode = [b :: piece].filter isText ∧
      Trace.total .requests all = 1 ∧ Trace.total .requestNotUtf8 all = [b :: piece].countP (!isText ·) ∧
      Trace.total .framesWritten all = (if counter = .framesWritten then 1 else 0) ∧
      Trace.taken .link all = Trace.taken .link trace := by
  obtain ⟨hhandled, hrequests, hnotText, hframes⟩ := views_finding peer (b :: piece)
  obtain ⟨hpieces', hhandled', htotal'⟩ := Trace.views_of_isWriting hwriting
  have hpieces := (noRead_finding peer (b :: piece)).pieces_eq_nil
  have htaken := taken_finding peer (b :: piece)
  have hread : ∀ counter trace, Trace.total counter (.read requestSize (.ok (b :: piece)) :: trace) =
      Trace.total counter trace := fun _ _ => Nat.zero_add _
  have hcount : ∀ wanted, Trace.total wanted [.counted counter 1] = if counter = wanted then 1 else 0 :=
    fun _ => Nat.add_zero _
  simp only [handling, Trace.pieces_cons, Trace.handled_cons, Trace.taken_cons, hread, Trace.pieces_append,
    Trace.handled_append, Trace.total_append, Trace.taken_append, hpieces, hpieces', hhandled', htotal', htaken, hcount,
    hrequests, hnotText, hframes]
  rcases hcounter with rfl | rfl <;> simpa [Event.piece, Event.request, Event.taken] using hhandled

/-! ## The transcript -/

/-- the frames that answer some pieces -/
def framesOf (answer : Handler η) (state : η) (pieces : List Bytes) : List Bytes :=
  (replies answer state pieces).map Frame.ofText

/-- how a connection ends whose pieces ended like this -/
def ended : Option IoError → Except LinkError Unit
  | none => .ok ()
  | some cause => .error (.transport "read" cause)

/-- exactly these pieces were read, and those of them that are text were handled, in order and in the state that the
ones before them left -/
structure Served (answer : Handler η) (state : η) (pieces : List Bytes) (r : Run (Service η) LinkError Unit) :
    Prop where
  read : Trace.pieces r.trace = pieces
  handled : (Trace.handled r.trace).map Utf8.encode = pieces.filter isText
  state : r.state.handler = stateAfter answer state pieces
  requests : Trace.total .requests r.trace = pieces.length
  notText : Trace.total .requestNotUtf8 r.trace = pieces.countP (!isText ·)

/-- all frames were written, and then the connection ended as its pieces did -/
structure Delivered (frames : List Bytes) (ending : Option IoError) (r : Run (Service η) LinkError Unit) : Prop where
  answer : r.answer = ended ending
  taken : Trace.taken .link r.trace = frames.flatten
  written : Trace.total .framesWritten r.trace = frames.length

/-- the frames before frame `j` were written, and then a call was refused and nothing was called any more -/
structure BrokenOff (frames : List Bytes) (j : Nat) (r : Run (Service η) LinkError Unit) : Prop where
  refused : ∃ frame part last e before, frames[j]? = some frame ∧ Outflow.Refused frame part last e ∧
    r.answer = .error e ∧ r.trace = before ++ [last, .counted .transportError 1] ∧
    Trace.taken .link r.trace = (frames.take j).flatten ++ part
  written : Trace.total .framesWritten r.trace = j

/-- an interrupted read changes nothing -/
theorem Served.retry (h : Served answer state pieces r) (cause : IoError) :
    Served answer state pieces (r.after [.read requestSize (.error cause)]) := by
  obtain ⟨hpieces, hhandled, hstate, hrequests, hnotText⟩ := h
  exact ⟨hpieces, hhandled, hstate, (Nat.zero_add _).trans hrequests, (Nat.zero_add _).trans hnotText⟩

theorem Delivered.retry {ending : Option IoError} (h : Delivered frames ending r) (cause : IoError) :
    Delivered frames ending (r.after [.read requestSize (.error cause)]) :=
  ⟨h.answer, h.taken, (Nat.zero_add _).trans h.written⟩

theorem BrokenOff.retry {j : Nat} (h : BrokenOff frames j r) (cause : IoError) :
    BrokenOff frames j (r.after [.read requestSize (.error cause)]) := by
  obtain ⟨⟨frame, part, last, e, before, hframe, hrefused, hanswer, htrace, htaken⟩, hwritten⟩ := h
  refine ⟨⟨frame, part, last, e, .read requestSize (.error cause) :: before, hframe, hrefused, hanswer, ?_, htaken⟩,
    (Nat.zero_add _).trans hwritten⟩
  rw [Run.trace_after, htrace]
  rfl

/-- a piece that is answered comes before the later ones -/
theorem Served.cons (h : Served answer (replyFrom answer state (b :: piece)).2 pieces r)
    (hwriting : ∀ e ∈ trace, e.isWriting = true) (peer : String) :
    Served answer state ((b :: piece) :: pieces)
      (r.after (handling peer (b :: piece) (trace ++ [.counted .framesWritten 1]))) := by
  obtain ⟨hpieces, hhandled, hrequests, hnotText, -, -⟩ := views_handling peer b piece hwriting (.inl rfl)
  constructor
  · rw [Run.trace_after, Trace.pieces_append, hpieces, h.read, List.singleton_append]
  · rw [Run.trace_after, Trace.handled_append, List.map_append, hhandled, h.handled, ← List.filter_append,
      List.singleton_append]
  · exact h.state
  · rw [Run.trace_after, Trace.total_append, hrequests, h.requests, List.length_cons, Nat.add_comm]
  · rw [Run.trace_after, Trace.total_append, hnotText, h.notText, ← List.countP_append, List.singleton_append]

theorem Delivered.cons {ending : Option IoError} {text : String} (h : Delivered frames ending r)
    (hwriting : ∀ e ∈ trace, e.isWriting = true) (htaken : Trace.taken .link trace = Frame.ofText text) (peer : String)
    (b : UInt8) (piece : Bytes) :
    Delivered (Frame.ofText text :: frames) ending
      (r.after (handling peer (b :: piece) (trace ++ [.counted .framesWritten 1]))) := by
  obtain ⟨-, -, -, -, hframes, htaken'⟩ := views_handling peer b piece hwriting (.inl rfl)
  constructor
  · exact h.answer
  · rw [Run.trace_after, Trace.taken_append, htaken', htaken, h.taken, List.flatten_cons]
  · rw [Run.trace_after, Trace.total_append, hframes, h.written, if_pos rfl, List.length_cons, Nat.add_comm]

theorem BrokenOff.cons {j : Nat} {text : String} (h : BrokenOff frames j r)
    (hwriting : ∀ e ∈ trace, e.isWriting = true) (htaken : Trace.taken .link trace = Frame.ofText text) (peer : String)
    (b : UInt8) (piece : Bytes) :
    BrokenOff (Frame.ofText text :: frames) (j + 1)
      (r.after (handling peer (b :: piece) (trace ++ [.counted .framesWritten 1]))) := by
  obtain ⟨-, -, -, -, hframes, htaken'⟩ := views_handling peer b piece hwriting (.inl rfl)
  obtain ⟨⟨frame, part, last, e, before, hframe, hrefused, hanswer, hlast, hbefore⟩, hwritten⟩ := h
  refine ⟨⟨frame, part, last, e, handling peer (b :: piece) (trace ++ [.counted .framesWritten 1]) ++ before, hframe,
    hrefused, hanswer, ?_, ?_⟩, ?_⟩
  · rw [Run.trace_after, hlast, List.append_assoc]
  · rw [Run.trace_after, Trace.taken_append, htaken', htaken, hbefore, List.take_succ_cons, List.flatten_cons,
      List.append_assoc]
  · rw [Run.trace_after, Trace.total_append, hframes, hwritten, if_pos rfl, Nat.add_comm]

/-- **What becomes of a connection.** All its pieces are answered, or one delivery is refused. -/
theorem serveConnection_cases
    (hshort : ∀ request state, (Utf8.encode (answer request state).1).length ≤ Frame.largest) (peer : String)
    (inflow : Inflow) (state : η) (outflow : Outflow) :
    let (pieces, ending) := inflow.pieces requestSize
    let r := serveConnection answer peer state inflow outflow
    (Served answer state pieces r ∧ Delivered (framesOf answer state pieces) ending r) ∨
      ∃ j, Served answer state (pieces.take (j + 1)) r ∧ BrokenOff (framesOf answer state pieces) j r := by
  -- an answered piece leaves another state of the handler and another departing direction
  induction inflow using Inflow.pieces_induction requestSize generalizing state outflow with
  | closed inflow later met =>
    rw [Inflow.pieces_end met, serveConnection_hangup met]
    exact .inl ⟨⟨rfl, rfl, rfl, rfl, rfl⟩, ⟨rfl, rfl, rfl⟩⟩
  | failure inflow later cause met last =>
    rw [Inflow.pieces_failure met last, serveConnection_failure met last]
    exact .inl ⟨⟨rfl, rfl, rfl, rfl, rfl⟩, ⟨rfl, rfl, rfl⟩⟩
  | retry inflow later cause met again ih =>
    rw [Inflow.pieces_retry met again, serveConnection_retry met again]
    rcases ih state outflow with ⟨hserved, hdelivered⟩ | ⟨j, hserved, hbroken⟩
    · exact .inl ⟨hserved.retry cause, hdelivered.retry cause⟩
    · exact .inr ⟨j, hserved.retry cause, hbroken.retry cause⟩
  | bytes inflow later b piece met ih =>
    rw [Inflow.pieces_bytes met]
    have hlength := length_replyFrom hshort state (Inflow.length_read met)
    obtain ⟨last, trace, hwriting, hwrite | ⟨e, before, call, htrace, hwrite, hrefused⟩⟩ :=
      Frame.write_cases hlength outflow
    · obtain ⟨hwrite, htaken⟩ := hwrite
      rw [serveConnection_answered met (answerPiece_of_write hwrite peer later)]
      rcases ih (replyFrom answer state (b :: piece)).2 last with ⟨hserved, hdelivered⟩ | ⟨j, hserved, hbroken⟩
      · exact .inl ⟨hserved.cons hwriting peer, hdelivered.cons hwriting htaken peer b piece⟩
      · exact .inr ⟨j + 1, hserved.cons hwriting peer, hbroken.cons hwriting htaken peer b piece⟩
    · -- the reply to this piece is refused: it is the last piece that was read
      rw [serveConnection_refused met (answerPiece_of_write hwrite peer later)]
      obtain ⟨hpieces, hhandled, hrequests, hnotText, hframes, htaken⟩ :=
        views_handling peer b piece hwriting (.inr rfl)
      refine .inr ⟨0, ⟨hpieces, hhandled, rfl, hrequests, hnotText⟩, ⟨?_, hframes⟩⟩
      refine ⟨_, Trace.taken .link trace, call, e, handling peer (b :: piece) before, rfl, hrefused, rfl, ?_, htaken⟩
      simp [handling, htrace]

/-! ## One buffer for all requests -/

/-- serve a connection with one buffer: each read fills its front, and the request is the part that was filled -/
def serveReusing (answer : Handler η) (peer : String) (buffer : Bytes) (state : η) (inflow : Inflow)
    (outflow : Outflow) : Run (Service η) LinkError Unit :=
  match _met : inflow.read buffer.length with
  | (.error cause, later) =>
    if cause.retryable then
      (serveReusing answer peer buffer state later outflow).after [.read buffer.length (.error cause)]
    else
      (LinkError.raise (.transport "read" cause) ⟨state, ⟨later, outflow⟩⟩).after [.read buffer.length (.error cause)]
  | (.ok [], later) =>
    ⟨.ok (), ⟨state, ⟨later, outflow⟩⟩, [.read buffer.length (.ok []), .told (.hangup peer)]⟩
  | (.ok (b :: piece), later) =>
    let filled := (b :: piece) ++ buffer.drop (piece.length + 1)
    let before := [.read buffer.length (.ok (b :: piece))]
    match answerPiece answer peer (filled.take (piece.length + 1)) ⟨state, ⟨later, outflow⟩⟩ with
    | ⟨.ok (), service, trace⟩ =>
      (serveReusing answer peer filled service.handler later service.link.outflow).after (before ++ trace)
    | ⟨.error e, service, trace⟩ => ⟨.error e, service, before ++ trace⟩
termination_by inflow.weight
decreasing_by
  · exact Inflow.weight_read_error _met
  · exact Inflow.weight_read_bytes _met

/-- what earlier requests left in the buffer is never seen -/
theorem serveReusing_eq (peer : String) (inflow : Inflow) (state : η) (outflow : Outflow) {buffer : Bytes}
    (hbuffer : buffer.length = requestSize) :
    serveReusing answer peer buffer state inflow outflow = serveConnection answer peer state inflow outflow := by
  induction inflow using Inflow.pieces_induction requestSize generalizing state outflow buffer with
  | closed inflow later met =>
    rw [serveConnection_hangup met, serveReusing]
    split <;> simp_all
  | failure inflow later cause met last =>
    rw [serveConnection_failure met last, serveReusing]
    split <;> simp_all [LinkError.raise, LinkError.counter, Run.after]
  | retry inflow later cause met again ih =>
    rw [serveConnection_retry met again, ← ih state outflow hbuffer, serveReusing]
    split <;> simp_all
  | bytes inflow later b piece met ih =>
    -- the buffer keeps its size, and its front is the piece, whatever is behind it
    have hroom := Inflow.length_read met
    have hfilled : ((b :: piece) ++ buffer.drop (piece.length + 1)).length = requestSize := by
      rw [List.length_append, List.length_drop, hbuffer, List.length_cons]
      rw [List.length_cons] at hroom
      omega
    have hrequest : ((b :: piece) ++ buffer.drop (piece.length + 1)).take (piece.length + 1) = b :: piece :=
      List.take_left' rfl
    rcases hanswer : answerPiece answer peer (b :: piece) ⟨state, ⟨later, outflow⟩⟩ with ⟨e | _, service, trace⟩
    · rw [serveConnection_refused met hanswer, serveReusing]
      split <;> simp_all
    · rw [serveConnection_answered met hanswer, ← ih service.handler service.link.outflow hfilled, serveReusing]
      split <;> simp_all

/-- **The transcript of a connection.** Whatever the peer sends, wherever reads and writes are interrupted or refused,
and whatever the handler answers, if its answers fit a frame:
- each piece is answered with one frame, and only pieces that are text are handled, each once and in order;
- either all pieces are answered, and the connection ends as they did, or the frame of one piece is refused: then that
  call is the last, the frames before it are written, and a part of that frame;
- keeping one buffer for all requests changes nothing. -/
theorem serveConnection_transcript (answer : Handler η)
    (hshort : ∀ request state, (Utf8.encode (answer request state).1).length ≤ Frame.largest) (peer : String)
    (state : η) (inflow : Inflow) (outflow : Outflow) :
    let (pieces, ending) := inflow.pieces requestSize
    let r := serveConnection answer peer state inflow outflow
    (∃ frames, (replies answer state pieces).map (fun text => Frame.encode (Utf8.encode text)) = frames.map .ok ∧
      ((Served answer state pieces r ∧ Delivered frames ending r) ∨
        ∃ j, Served answer state (pieces.take (j + 1)) r ∧ BrokenOff frames j r)) ∧
    ∀ buffer, buffer.length = requestSize → serveReusing answer peer buffer state inflow outflow = r := by
  refine ⟨⟨framesOf answer state (inflow.pieces requestSize).1, ?_,
    serveConnection_cases hshort peer inflow state outflow⟩, fun buffer => serveReusing_eq peer inflow state outflow⟩
  rw [framesOf, List.map_map]
  exact List.map_congr_left fun text htext =>
    Frame.encode_ofText (length_of_mem_replies hshort (Inflow.length_of_mem_pieces inflow) text htext)

/-- three requests, of which the second has a character that breaks off and is not text; the reply to the second is
refused after a part of it -/
theorem serveConnection_transcript_of_three :
    let answer : Handler Nat := fun request served => (if request = "hello" then "long" else "no", served + 1)
    let pieces : List Bytes := [[104, 101, 108, 108, 111], [97, 240, 159, 40], [104, 105]]
    let table := "request is not valid utf8: invalid utf-8 sequence of 2 bytes from index 1\t\nDONE TOTAL 0 LINES\n"
    let inflow : Inflow :=
      { arrivals :=
          [.bytes [104, 101, 108, 108, 111], .failure (.plain .interrupted), .bytes [97, 240, 159, 40],
            .bytes [104, 105]] }
    let outflow : Outflow := { intakes := [.takes 3, .refuses (.plain .interrupted)], room := some 10 }
    let r := serveConnection answer "peer" 0 inflow outflow
    (∀ request served, (Utf8.encode (answer request served).1).length ≤ Frame.largest) ∧
      inflow.pieces requestSize = (pieces, none) ∧ replies answer 0 pieces = ["long", table, "no"] ∧
      r.answer = .error (.transport "write" .nothingTaken) ∧
      Trace.taken .link r.trace = Frame.ofText "long" ++ [94, 0, 0, 0, 114] ∧
      ∃ frames, Served answer 0 (pieces.take 2) r ∧ BrokenOff frames 1 r := by
  intro answer pieces table inflow outflow r
  have hshort : ∀ request served, (Utf8.encode (answer request served).1).length ≤ Frame.largest := by
    intro request served
    simp only [answer]
    split <;> decide
  have hpieces : inflow.pieces requestSize = (pieces, none) := by cbv
  have hreplies : replies answer 0 pieces = ["long", table, "no"] := by cbv
  have hanswer : (serveConnection answer "peer" 0 inflow outflow).answer =
      .error (.transport "write" .nothingTaken) := by cbv
  have htaken : Trace.taken .link (serveConnection answer "peer" 0 inflow outflow).trace =
      Frame.ofText "long" ++ [94, 0, 0, 0, 114] := by cbv
  have hwritten : Trace.total .framesWritten (serveConnection answer "peer" 0 inflow outflow).trace = 1 := by cbv
  have htranscript := serveConnection_transcript answer hshort "peer" 0 inflow outflow
  rw [hpieces] at htranscript
  obtain ⟨⟨frames, -, ⟨-, hdelivered⟩ | ⟨j, hserved, hbroken⟩⟩, -⟩ := htranscript
  · cases hdelivered.answer.symm.trans hanswer
  · obtain rfl : j = 1 := hbroken.written.symm.trans hwritten
    exact ⟨hshort, hpieces, hreplies, hanswer, htaken, frames, hserved, hbroken⟩

end Server

end QueryConsole
