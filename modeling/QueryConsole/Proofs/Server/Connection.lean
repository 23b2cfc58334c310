import QueryConsole.Proofs.Flow.Delivery
import QueryConsole.Proofs.Flow.TextFrames
import QueryConsole.Server

/-
What a server does on one connection, over a direction that takes everything.

The steps of a connection come first, for any handler and any direction. After them the handler's answers depend on the
request alone, and the direction takes everything. Each read that brings bytes is followed by exactly one answer: the
handler's if the bytes are text, and a table that says so if they are not (`reply`). Then the server reads again. It
goes on like this until the peer closes its side, a read fails, or a reply is too long for a frame.

Results:
- `respond_eq`, `answerPiece_of_write`, `serveConnection_retry` and its siblings: the steps, for any handler.
- `answered_serving`: what was handled and written, wherever the server is.
- `answered_at_read`: when the server reads, everything before is answered.
- `length_handled_serving`: no request is longer than the buffer.
- `endless_serving`: on a stream that neither ends nor fails, the server does not stop.
- `responsive_serving`, `paced_serving`: it waits for nothing but bytes, and keeps pace with them.
-/

namespace QueryConsole

/-! ## Views of a trace -/

namespace Event

/-- the bytes that one read brought -/
def piece : Event → List Bytes
  | read _ (.ok (b :: rest)) => [b :: rest]
  | _ => []

/-- the request that one event gave to the handler -/
def request : Event → List String
  | handled text => [text]
  | _ => []

end Event

namespace Trace

/-- the pieces that the reads brought, in order -/
def pieces (trace : Trace) : List Bytes := trace.flatMap Event.piece

/-- the requests that the handler was given, in order -/
def handled (trace : Trace) : List String := trace.flatMap Event.request

@[simp] theorem pieces_nil : pieces [] = [] := rfl

@[simp] theorem pieces_cons (e : Event) (trace : Trace) : pieces (e :: trace) = e.piece ++ pieces trace := rfl

@[simp] theorem pieces_append (a b : Trace) : pieces (a ++ b) = pieces a ++ pieces b := by
  simp [pieces]

@[simp] theorem handled_nil : handled [] = [] := rfl

@[simp] theorem handled_cons (e : Event) (trace : Trace) : handled (e :: trace) = e.request ++ handled trace := rfl

@[simp] theorem handled_append (a b : Trace) : handled (a ++ b) = handled a ++ handled b := by
  simp [handled]

/-- the pieces are what was received -/
theorem flatten_pieces (trace : Trace) : (pieces trace).flatten = received trace := by
  induction trace with
  | nil => rfl
  | cons e trace ih =>
    rw [pieces_cons, List.flatten_append, ih, received_cons]
    congr 1
    cases e with
    | read room got => rcases got with _ | _ | ⟨b, rest⟩ <;> simp [Event.piece, Event.received]
    | _ => rfl

theorem NoRead.pieces_eq_nil {a : Trace} (h : NoRead a) : pieces a = [] := by
  rw [pieces, List.flatMap_eq_nil_iff]
  intro e he
  cases e with
  | read room got => exact absurd he (h room got)
  | _ => rfl

end Trace

namespace Server

section

variable {answer : Handler η} {peer : String} {state : η} {inflow later : Inflow} {outflow : Outflow} {cause : IoError}
  {b : UInt8} {piece : Bytes} {service : Service η} {e : LinkError} {trace : Trace}

/-! ## One piece, for any handler -/

/-- what a server notes about a piece, and gives to the handler -/
def noted (peer : String) (piece : Bytes) : Trace :=
  match Utf8.decode piece with
  | .ok request => [.told (.request peer request), .handled request]
  | .error _ => [.counted .requestNotUtf8 1]

/-- what a server does to find the reply to a piece -/
def finding (peer : String) (piece : Bytes) : Trace := .counted .requests 1 :: noted peer piece

/-- the text that answers a piece, and the state that the handler goes on in: the handler's answer to a piece that is
text, and a table of one cell for any other, which the handler is not asked about -/
def replyFrom (answer : Handler η) (state : η) (piece : Bytes) : String × η :=
  match Utf8.decode piece with
  | .ok request => answer request state
  | .error fault => ("request is not valid utf8: " ++ fault.message ++ "\t\nDONE TOTAL 0 LINES\n", state)

theorem respond_eq (answer : Handler η) (peer : String) (piece : Bytes) (service : Service η) :
    respond answer peer piece service = ⟨.ok (replyFrom answer service.handler piece).1,
      { service with handler := (replyFrom answer service.handler piece).2 }, noted peer piece⟩ := by
  cases hdecode : Utf8.decode piece with
  | ok request => simp only [respond, replyFrom, noted, hdecode]
  | error fault => simp only [respond, replyFrom, noted, hdecode, notText_eq]

/-- answering is noting the piece and writing the reply -/
theorem answerPiece_of_write {result : Except LinkError Unit} {last : Outflow} {trace : Trace}
    (h : Frame.write (Utf8.encode (replyFrom answer state piece).1) outflow = ⟨result, last, trace⟩)
    (peer : String) (inflow : Inflow) :
    answerPiece answer peer piece ⟨state, ⟨inflow, outflow⟩⟩ =
      ⟨result, ⟨(replyFrom answer state piece).2, ⟨inflow, last⟩⟩, finding peer piece ++ trace⟩ := by
  rw [answerPiece, Act.run_bind_ok (Act.run_record _ _), Act.run_bind_ok (respond_eq answer peer piece _)]
  simp [Link.sending, h, Run.after, finding]

/-! ## The steps of a connection -/

theorem serveConnection_retry (met : inflow.read requestSize = (.error cause, later)) (again : cause.retryable = true) :
    serveConnection answer peer state inflow outflow =
      (serveConnection answer peer state later outflow).after [.read requestSize (.error cause)] := by
  rw [serveConnection]
  split <;> simp_all

theorem serveConnection_failure (met : inflow.read requestSize = (.error cause, later))
    (last : ¬ cause.retryable = true) :
    serveConnection answer peer state inflow outflow = ⟨.error (.transport "read" cause), ⟨state, ⟨later, outflow⟩⟩,
      [.read requestSize (.error cause), .counted .transportError 1]⟩ := by
  rw [serveConnection]
  split <;> simp_all [LinkError.raise, LinkError.counter, Run.after]

theorem serveConnection_hangup (met : inflow.read requestSize = (.ok [], later)) :
    serveConnection answer peer state inflow outflow =
      ⟨.ok (), ⟨state, ⟨later, outflow⟩⟩, [.read requestSize (.ok []), .told (.hangup peer)]⟩ := by
  rw [serveConnection]
  split <;> simp_all

theorem serveConnection_answered (met : inflow.read requestSize = (.ok (b :: piece), later))
    (h : answerPiece answer peer (b :: piece) ⟨state, ⟨later, outflow⟩⟩ = ⟨.ok (), service, trace⟩) :
    serveConnection answer peer state inflow outflow =
      (serveConnection answer peer service.handler later service.link.outflow).after
        (.read requestSize (.ok (b :: piece)) :: trace) := by
  rw [serveConnection]
  split <;> simp_all

theorem serveConnection_refused (met : inflow.read requestSize = (.ok (b :: piece), later))
    (h : answerPiece answer peer (b :: piece) ⟨state, ⟨later, outflow⟩⟩ = ⟨.error e, service, trace⟩) :
    serveConnection answer peer state inflow outflow =
      ⟨.error e, service, .read requestSize (.ok (b :: piece)) :: trace⟩ := by
  rw [serveConnection]
  split <;> simp_all

end

variable {answer : String → String} {peer : String} {inflow later : Inflow} {cause : IoError} {b : UInt8}
  {piece : Bytes} {done : Trace}

/-! ## One piece, for answers that depend on the request alone -/

/-- the text that a piece is answered with -/
def reply (answer : String → String) (piece : Bytes) : String := (replyFrom (Handler.ofFun answer) () piece).1

/-- the frame that a piece is answered with -/
def frame (answer : String → String) (piece : Bytes) : Bytes := Frame.ofText (reply answer piece)

/-- the request that a piece is, if it is text -/
def requestOf (piece : Bytes) : List String :=
  match Utf8.decode piece with
  | .ok request => [request]
  | .error _ => []

theorem reply_encode (answer : String → String) (line : String) : reply answer (Utf8.encode line) = answer line := by
  simp only [reply, replyFrom, Utf8.decode_encode, Handler.ofFun]

theorem requestOf_encode (line : String) : requestOf (Utf8.encode line) = [line] := by
  simp only [requestOf, Utf8.decode_encode]

/-- what a server does to answer a piece -/
def answering (answer : String → String) (peer : String) (piece : Bytes) : Trace :=
  finding peer piece ++ [.wrote .link (.ok (frame answer piece)), .flushed .link (.ok ()), .counted .framesWritten 1]

/-- the reply to a piece is not too long for a frame -/
def Answerable (answer : String → String) (piece : Bytes) : Prop :=
  (Utf8.encode (reply answer piece)).length ≤ Frame.largest

theorem frame_ne_nil (answer : String → String) (piece : Bytes) : frame answer piece ≠ [] := by
  intro hnil
  have hlength := Frame.length_ofText (reply answer piece)
  rw [← frame, hnil, List.length_nil, Frame.headerSize] at hlength
  omega

/-- answering is noting the piece and writing the reply -/
theorem answerPiece_eq {result : Except LinkError Unit} {later : Outflow} {trace : Trace}
    (h : Frame.write (Utf8.encode (reply answer piece)) {} = ⟨result, later, trace⟩) (inflow : Inflow) :
    answerPiece (Handler.ofFun answer) peer piece ⟨(), ⟨inflow, {}⟩⟩ =
      ⟨result, ⟨(), ⟨inflow, later⟩⟩, finding peer piece ++ trace⟩ :=
  answerPiece_of_write h peer inflow

theorem answerPiece_open (h : Answerable answer piece) (peer : String) (inflow : Inflow) :
    answerPiece (Handler.ofFun answer) peer piece ⟨(), ⟨inflow, {}⟩⟩ =
      ⟨.ok (), ⟨(), ⟨inflow, {}⟩⟩, answering answer peer piece⟩ := by
  have hwrite : Frame.write (Utf8.encode (reply answer piece)) {} =
      ⟨.ok (), {}, Outflow.delivery (frame answer piece) ++ [.counted .framesWritten 1]⟩ := by
    rw [Frame.write, Frame.encode_ofText h]
    exact Act.run_bind_ok (Outflow.deliver_open _)
  rw [answerPiece_eq hwrite, Outflow.delivery, if_neg (frame_ne_nil answer piece)]
  rfl

theorem answerPiece_refused (h : ¬ Answerable answer piece) (peer : String) (inflow : Inflow) :
    answerPiece (Handler.ofFun answer) peer piece ⟨(), ⟨inflow, {}⟩⟩ =
      ⟨.error (.frameTooLarge (Utf8.encode (reply answer piece)).length Frame.largest), ⟨(), ⟨inflow, {}⟩⟩,
        finding peer piece ++ [.counted .frameTooLarge 1]⟩ :=
  answerPiece_eq (Frame.write_of_length_gt (Nat.not_le.1 h) {}) inflow

/-! ## A connection -/

/-- what a server does on a connection, over a direction that takes everything -/
def serving (answer : String → String) (peer : String) (inflow : Inflow) : Trace :=
  (serveConnection (Handler.ofFun answer) peer () inflow {}).trace

theorem serving_retry (met : inflow.read requestSize = (.error cause, later)) (again : cause.retryable = true) :
    serving answer peer inflow = .read requestSize (.error cause) :: serving answer peer later := by
  rw [serving, serveConnection_retry met again]
  rfl

theorem serving_failure (met : inflow.read requestSize = (.error cause, later)) (last : ¬ cause.retryable = true) :
    serving answer peer inflow = [.read requestSize (.error cause), .counted .transportError 1] := by
  rw [serving, serveConnection_failure met last]

theorem serving_hangup (met : inflow.read requestSize = (.ok [], later)) :
    serving answer peer inflow = [.read requestSize (.ok []), .told (.hangup peer)] := by
  rw [serving, serveConnection_hangup met]

theorem serving_answered (met : inflow.read requestSize = (.ok (b :: piece), later))
    (h : Answerable answer (b :: piece)) :
    serving answer peer inflow =
      .read requestSize (.ok (b :: piece)) :: (answering answer peer (b :: piece) ++ serving answer peer later) := by
  rw [serving, serveConnection_answered met (answerPiece_open h peer later)]
  rfl

theorem serving_refused (met : inflow.read requestSize = (.ok (b :: piece), later))
    (h : ¬ Answerable answer (b :: piece)) :
    serving answer peer inflow =
      .read requestSize (.ok (b :: piece)) :: (finding peer (b :: piece) ++ [.counted .frameTooLarge 1]) := by
  rw [serving, serveConnection_refused met (answerPiece_refused h peer later)]

/-- **What a server can do on a connection.** Its next read is interrupted, fails, meets the closed side, or brings a
piece that is answered or whose reply is refused; after interruptions and answers it goes on. -/
theorem serving_induction {motive : Inflow → Trace → Prop}
    (retry : ∀ inflow later cause, inflow.read requestSize = (.error cause, later) → cause.retryable = true →
      motive later (serving answer peer later) →
      motive inflow (.read requestSize (.error cause) :: serving answer peer later))
    (failure : ∀ inflow cause, ¬ cause.retryable = true →
      motive inflow [.read requestSize (.error cause), .counted .transportError 1])
    (hangup : ∀ inflow, motive inflow [.read requestSize (.ok []), .told (.hangup peer)])
    (answered : ∀ inflow later b piece, inflow.read requestSize = (.ok (b :: piece), later) →
      Answerable answer (b :: piece) → motive later (serving answer peer later) →
      motive inflow (.read requestSize (.ok (b :: piece)) ::
        (answering answer peer (b :: piece) ++ serving answer peer later)))
    (refused : ∀ inflow later b piece, inflow.read requestSize = (.ok (b :: piece), later) →
      ¬ Answerable answer (b :: piece) →
      motive inflow
        (.read requestSize (.ok (b :: piece)) :: (finding peer (b :: piece) ++ [.counted .frameTooLarge 1])))
    (inflow : Inflow) : motive inflow (serving answer peer inflow) := by
  induction hw : inflow.weight using Nat.strong_induction_on generalizing inflow with
  | _ weight ih =>
    subst hw
    rcases met : inflow.read requestSize with ⟨cause | _ | ⟨b, piece⟩, later⟩
    · by_cases again : cause.retryable = true
      · rw [serving_retry met again]
        exact retry inflow later cause met again (ih _ (Inflow.weight_read_error met) later rfl)
      · rw [serving_failure met again]
        exact failure inflow cause again
    · rw [serving_hangup met]
      exact hangup inflow
    · by_cases h : Answerable answer (b :: piece)
      · rw [serving_answered met h]
        exact answered inflow later b piece met h (ih _ (Inflow.weight_read_bytes met) later rfl)
      · rw [serving_refused met h]
        exact refused inflow later b piece met h

/-! ## What is written and handled -/

theorem noRead_finding (peer : String) (piece : Bytes) : (finding peer piece).NoRead := by
  unfold finding noted
  split <;> simp

theorem noRead_answering (answer : String → String) (peer : String) (piece : Bytes) :
    (answering answer peer piece).NoRead := by
  simp [answering, noRead_finding]

theorem handled_finding (peer : String) (piece : Bytes) : Trace.handled (finding peer piece) = requestOf piece := by
  unfold finding noted requestOf
  split <;> simp [Event.request]

theorem taken_finding (peer : String) (piece : Bytes) : Trace.taken .link (finding peer piece) = [] := by
  unfold finding noted
  split <;> simp [Event.taken]

/-- while the reply to a piece is being found, the handler has been given the piece, or not yet -/
theorem handled_of_part_finding (h : done <+: finding peer piece) :
    Trace.handled done = [] ∨ Trace.handled done = requestOf piece := by
  unfold finding noted at h
  unfold requestOf
  split at h
  · next request hdecode =>
    exact Trace.view_of_part Event.request
      (show done <+: [.counted .requests 1, .told (.request peer request)] ++ .handled request :: [] from h) rfl rfl
  · next fault hdecode =>
    exact Trace.view_of_part Event.request (show done <+: [] ++ .counted .requests 1 :: _ from h) rfl rfl

/-- a piece is handled, then its frame is written -/
theorem part_answering_cases (h : done <+: answering answer peer piece) :
    (Trace.handled done = [] ∧ Trace.taken .link done = []) ∨
    (Trace.handled done = requestOf piece ∧ Trace.taken .link done = []) ∨
    (Trace.handled done = requestOf piece ∧ Trace.taken .link done = frame answer piece) := by
  rcases Trace.prefix_of_append h with hfinding | ⟨more, rfl, hmore⟩
  · have htaken := Trace.view_of_part_nil (Event.taken .link) hfinding (taken_finding peer piece)
    rcases handled_of_part_finding hfinding with hyet | hhandled
    · exact .inl ⟨hyet, htaken⟩
    · exact .inr (.inl ⟨hhandled, htaken⟩)
  · have hquiet := Trace.view_of_part_nil Event.request hmore rfl
    have hhandled : Trace.handled (finding peer piece ++ more) = requestOf piece := by
      rw [Trace.handled_append, handled_finding, Trace.handled, hquiet, List.append_nil]
    have hframe := Trace.view_of_part (Event.taken .link)
      (show more <+: [] ++ .wrote .link (.ok (frame answer piece)) :: _ from hmore) rfl rfl
    rw [Event.taken, if_pos rfl] at hframe
    rw [Trace.taken_append, taken_finding, List.nil_append]
    rcases hframe with hyet | hwritten
    · exact .inr (.inl ⟨hhandled, hyet⟩)
    · exact .inr (.inr ⟨hhandled, hwritten⟩)

theorem handled_answering (answer : String → String) (peer : String) (piece : Bytes) :
    Trace.handled (answering answer peer piece) = requestOf piece := by
  simp [answering, handled_finding, Event.request]

theorem taken_answering (answer : String → String) (peer : String) (piece : Bytes) :
    Trace.taken .link (answering answer peer piece) = frame answer piece := by
  simp [answering, taken_finding, Event.taken]

/-- how far a server is with the pieces it has read: the handler was given the first `given` of them, and the frames of
the replies to the first `written` are written; at most the last piece is still in work -/
structure Answered (answer : String → String) (done : Trace) (given written : Nat) : Prop where
  order : written ≤ given
  bound : given ≤ (Trace.pieces done).length
  last : (Trace.pieces done).length ≤ written + 1
  handled : Trace.handled done = ((Trace.pieces done).take given).flatMap requestOf
  taken : Trace.taken .link done = ((Trace.pieces done).take written).flatMap (frame answer)

/-- nothing read, handled or written -/
theorem answered_none (hpieces : Trace.pieces done = []) (hhandled : Trace.handled done = [])
    (htaken : Trace.taken .link done = []) : Answered answer done 0 0 :=
  ⟨le_rfl, Nat.zero_le _, by rw [hpieces]; exact Nat.zero_le 1, hhandled, htaken⟩

theorem answered_nil (answer : String → String) : Answered answer [] 0 0 := answered_none rfl rfl rfl

/-- a piece was read, and its reply is being made -/
theorem answered_of_part {rest : Trace} (h : rest <+: answering answer peer (b :: piece)) :
    ∃ given written, Answered answer (.read requestSize (.ok (b :: piece)) :: rest) given written := by
  have hnone : Trace.pieces rest = [] :=
    Trace.view_of_part_nil Event.piece h (noRead_answering answer peer (b :: piece)).pieces_eq_nil
  have hpieces : Trace.pieces (.read requestSize (.ok (b :: piece)) :: rest) = [b :: piece] := by
    rw [Trace.pieces_cons, hnone]
    rfl
  rcases part_answering_cases h with ⟨hhandled, htaken⟩ | ⟨hhandled, htaken⟩ | ⟨hhandled, htaken⟩
  · exact ⟨0, 0, le_rfl, Nat.zero_le _, by rw [hpieces]; exact le_rfl, hhandled, htaken⟩
  · refine ⟨1, 0, Nat.zero_le _, by rw [hpieces]; exact le_rfl, by rw [hpieces]; exact le_rfl, ?_, htaken⟩
    rw [hpieces, Trace.handled_cons, hhandled]
    simp [Event.request]
  · refine ⟨1, 1, le_rfl, by rw [hpieces]; exact le_rfl, by rw [hpieces]; exact Nat.le_succ 1, ?_, ?_⟩
    · rw [hpieces, Trace.handled_cons, hhandled]
      simp [Event.request]
    · rw [hpieces, Trace.taken_cons, htaken]
      simp [Event.taken]

/-- events that neither read nor handle nor write change nothing -/
theorem Answered.quiet {given written : Nat} (h : Answered answer done given written) (before : Trace)
    (hpieces : Trace.pieces before = []) (hhandled : Trace.handled before = [])
    (htaken : Trace.taken .link before = []) : Answered answer (before ++ done) given written := by
  obtain ⟨horder, hbound, hlast, hgiven, hwritten⟩ := h
  have hsame : Trace.pieces (before ++ done) = Trace.pieces done := by
    rw [Trace.pieces_append, hpieces, List.nil_append]
  exact ⟨horder, hsame ▸ hbound, hsame ▸ hlast, by rw [Trace.handled_append, hhandled, hsame, hgiven, List.nil_append],
    by rw [Trace.taken_append, htaken, hsame, hwritten, List.nil_append]⟩

/-- a piece that is answered comes before the later ones -/
theorem Answered.cons {given written : Nat} (h : Answered answer done given written) (peer : String) (b : UInt8)
    (piece : Bytes) :
    Answered answer (.read requestSize (.ok (b :: piece)) :: (answering answer peer (b :: piece) ++ done)) (given + 1)
      (written + 1) := by
  obtain ⟨horder, hbound, hlast, hgiven, hwritten⟩ := h
  have hpieces : Trace.pieces (.read requestSize (.ok (b :: piece)) :: (answering answer peer (b :: piece) ++ done)) =
      (b :: piece) :: Trace.pieces done := by
    rw [Trace.pieces_cons, Trace.pieces_append, (noRead_answering answer peer (b :: piece)).pieces_eq_nil]
    rfl
  refine ⟨Nat.succ_le_succ horder, ?_, ?_, ?_, ?_⟩
  · rw [hpieces]
    exact Nat.succ_le_succ hbound
  · rw [hpieces]
    exact Nat.succ_le_succ hlast
  · rw [hpieces, Trace.handled_cons, Trace.handled_append, handled_answering, hgiven]
    rfl
  · rw [hpieces, Trace.taken_cons, Trace.taken_append, taken_answering, hwritten]
    rfl

/-- **How far a server is, wherever it is.** -/
theorem answered_serving (inflow : Inflow) :
    ∀ done, done <+: serving answer peer inflow → (∀ piece ∈ Trace.pieces done, Answerable answer piece) →
      ∃ given written, Answered answer done given written := by
  apply serving_induction (motive := fun _ trace => ∀ done, done <+: trace →
    (∀ piece ∈ Trace.pieces done, Answerable answer piece) → ∃ given written, Answered answer done given written)
  · intro inflow later cause met again ih done hdone hfits
    rcases List.prefix_cons_iff.1 hdone with rfl | ⟨rest, rfl, hrest⟩
    · exact ⟨0, 0, answered_nil answer⟩
    · obtain ⟨given, written, hlater⟩ := ih rest hrest hfits
      exact ⟨given, written, hlater.quiet [.read requestSize (.error cause)] rfl rfl rfl⟩
  · intro inflow cause last done hdone hfits
    exact ⟨0, 0, answered_none (Trace.view_of_part_nil Event.piece hdone rfl)
      (Trace.view_of_part_nil Event.request hdone rfl) (Trace.view_of_part_nil (Event.taken .link) hdone rfl)⟩
  · intro inflow done hdone hfits
    exact ⟨0, 0, answered_none (Trace.view_of_part_nil Event.piece hdone rfl)
      (Trace.view_of_part_nil Event.request hdone rfl) (Trace.view_of_part_nil (Event.taken .link) hdone rfl)⟩
  · intro inflow later b piece met hfit ih done hdone hfits
    rcases List.prefix_cons_iff.1 hdone with rfl | ⟨rest, rfl, hrest⟩
    · exact ⟨0, 0, answered_nil answer⟩
    · rcases Trace.prefix_of_append hrest with hpart | ⟨more, rfl, hmore⟩
      · exact answered_of_part hpart
      · obtain ⟨given, written, hlater⟩ := ih more hmore fun p hp => hfits p (by simp [hp])
        exact ⟨given + 1, written + 1, hlater.cons peer b piece⟩
  · intro inflow later b piece met hfit done hdone hfits
    rcases List.prefix_cons_iff.1 hdone with rfl | ⟨rest, rfl, hrest⟩
    · exact ⟨0, 0, answered_nil answer⟩
    · exact absurd (hfits (b :: piece) (by simp [Event.piece])) hfit

/-- the read that a server comes to next is its first, or a read before it was interrupted or brought a piece that is
answered -/
theorem next_read_cases {before : Trace} {room : Nat} {got : Except IoError Bytes}
    (hread : before ++ [.read room got] <+: serving answer peer inflow) :
    (before = [] ∧ room = requestSize) ∨
    (∃ cause later mid, inflow.read requestSize = (.error cause, later) ∧ cause.retryable = true ∧
      before = .read requestSize (.error cause) :: mid ∧ mid ++ [.read room got] <+: serving answer peer later) ∨
    ∃ b piece later mid, inflow.read requestSize = (.ok (b :: piece), later) ∧ Answerable answer (b :: piece) ∧
      before = .read requestSize (.ok (b :: piece)) :: (answering answer peer (b :: piece) ++ mid) ∧
      mid ++ [.read room got] <+: serving answer peer later := by
  -- nothing is read after the first read unless the server goes on
  have hend : ∀ {first rest}, before ++ [.read room got] <+: .read requestSize first :: rest → Trace.NoRead rest →
      before = [] ∧ room = requestSize := by
    intro first rest hread hrest
    rcases Trace.next_cons hread with ⟨rfl, heq⟩ | ⟨mid, rfl, hmid⟩
    · cases heq
      exact ⟨rfl, rfl⟩
    · exact absurd hmid hrest.not_read
  rcases met : inflow.read requestSize with ⟨cause | _ | ⟨b, piece⟩, later⟩
  · by_cases again : cause.retryable = true
    · rw [serving_retry met again] at hread
      rcases Trace.next_cons hread with ⟨rfl, heq⟩ | ⟨mid, rfl, hmid⟩
      · cases heq
        exact .inl ⟨rfl, rfl⟩
      · exact .inr (.inl ⟨cause, later, mid, rfl, again, rfl, hmid⟩)
    · rw [serving_failure met again] at hread
      exact .inl (hend hread (by simp))
  · rw [serving_hangup met] at hread
    exact .inl (hend hread (by simp))
  · by_cases h : Answerable answer (b :: piece)
    · rw [serving_answered met h] at hread
      rcases Trace.next_cons hread with ⟨rfl, heq⟩ | ⟨mid, rfl, hmid⟩
      · cases heq
        exact .inl ⟨rfl, rfl⟩
      · rcases Trace.next_append hmid with hpart | ⟨last, rfl, hlast⟩
        · exact absurd hpart (noRead_answering answer peer (b :: piece)).not_read
        · exact .inr (.inr ⟨b, piece, later, last, rfl, h, rfl, hlast⟩)
    · rw [serving_refused met h] at hread
      exact .inl (hend hread (by simp [noRead_finding]))

/-- **When a server reads, everything before is answered.** -/
theorem answered_at_read {before : Trace} {room : Nat} {got : Except IoError Bytes}
    (hread : before ++ [.read room got] <+: serving answer peer inflow) :
    Answered answer before (Trace.pieces before).length (Trace.pieces before).length := by
  induction hw : inflow.weight using Nat.strong_induction_on generalizing inflow before with
  | _ weight ih =>
    subst hw
    rcases next_read_cases hread with ⟨rfl, -⟩ | ⟨cause, later, mid, met, again, rfl, hmid⟩ |
      ⟨b, piece, later, mid, met, hfit, rfl, hmid⟩
    · exact answered_nil answer
    · have hlater := ih _ (Inflow.weight_read_error met) hmid rfl
      exact hlater.quiet [.read requestSize (.error cause)] rfl rfl rfl
    · have hlater := (ih _ (Inflow.weight_read_bytes met) hmid rfl).cons peer b piece
      have hpieces := (noRead_answering answer peer (b :: piece)).pieces_eq_nil
      simpa [Event.piece, hpieces, Nat.add_comm] using hlater

theorem encode_of_mem_requestOf {request : String} (h : request ∈ requestOf piece) : Utf8.encode request = piece := by
  unfold requestOf at h
  split at h
  · next found hdecode =>
    rw [List.mem_singleton.1 h]
    exact Utf8.encode_of_decode hdecode
  · simp at h

/-- a request is no longer than the buffer of the server -/
theorem length_handled_serving (answer : String → String) (peer : String) (inflow : Inflow) :
    ∀ request ∈ Trace.handled (serving answer peer inflow), (Utf8.encode request).length ≤ requestSize := by
  have hpiece : ∀ {inflow later : Inflow} {b : UInt8} {piece : Bytes},
      inflow.read requestSize = (.ok (b :: piece), later) →
      ∀ request ∈ requestOf (b :: piece), (Utf8.encode request).length ≤ requestSize := by
    intro inflow later b piece met request hrequest
    rw [encode_of_mem_requestOf hrequest]
    exact Inflow.length_read met
  apply serving_induction (motive := fun _ trace => ∀ request ∈ Trace.handled trace,
    (Utf8.encode request).length ≤ requestSize)
  · intro inflow later cause met again ih
    exact ih
  · intro inflow cause last request hrequest
    simp [Event.request] at hrequest
  · intro inflow request hrequest
    simp [Event.request] at hrequest
  · intro inflow later b piece met hfit ih request hrequest
    have hrequest : request ∈ requestOf (b :: piece) ∨ request ∈ Trace.handled (serving answer peer later) := by
      simpa [Event.request, handled_answering] using hrequest
    rcases hrequest with hnow | hlater
    · exact hpiece met request hnow
    · exact ih request hlater
  · intro inflow later b piece met hfit request hrequest
    rw [Trace.handled_cons, Trace.handled_append, handled_finding] at hrequest
    exact hpiece met request (by simpa [Event.request] using hrequest)

/-! ## What it depends on, and what it costs -/

/-- every read of a server has the same room -/
theorem room_serving {before : Trace} {room : Nat} {got : Except IoError Bytes}
    (hread : before ++ [.read room got] <+: serving answer peer inflow) : room = requestSize := by
  induction hw : inflow.weight using Nat.strong_induction_on generalizing inflow before with
  | _ weight ih =>
    subst hw
    rcases next_read_cases hread with ⟨-, hroom⟩ | ⟨cause, later, mid, met, -, -, hmid⟩ |
      ⟨b, piece, later, mid, met, -, -, hmid⟩
    · exact hroom
    · exact ih _ (Inflow.weight_read_error met) hmid rfl
    · exact ih _ (Inflow.weight_read_bytes met) hmid rfl

/-- the first read of a server meets what comes first -/
theorem serving_first (hlen : piece.length ≤ requestSize) (more : List Arrival) :
    [.read requestSize (.ok piece)] <+: serving answer peer { arrivals := .bytes piece :: more } := by
  have met := Inflow.read_fits hlen more
  cases piece with
  | nil =>
    rw [serving_hangup met]
    exact ⟨_, rfl⟩
  | cons b piece =>
    by_cases h : Answerable answer (b :: piece)
    · rw [serving_answered met h]
      exact ⟨_, rfl⟩
    · rw [serving_refused met h]
      exact ⟨_, rfl⟩

/-- a server can be brought to each of its reads again, and be given anything there -/
theorem replay_serving {before : Trace} {room : Nat} {got : Except IoError Bytes} {given : Bytes}
    (hread : before ++ [.read room got] <+: serving answer peer inflow) (hlen : given.length ≤ requestSize)
    (more : List Arrival) :
    before ++ [.read room (.ok given)] <+:
      serving answer peer { arrivals := Trace.arrivals before ++ .bytes given :: more } := by
  induction hw : inflow.weight using Nat.strong_induction_on generalizing inflow before with
  | _ weight ih =>
    subst hw
    rcases next_read_cases hread with ⟨rfl, rfl⟩ | ⟨cause, later, mid, met, again, rfl, hmid⟩ |
      ⟨b, piece, later, mid, met, hfit, rfl, hmid⟩
    · exact serving_first hlen more
    · have hagain := ih _ (Inflow.weight_read_error met) hmid rfl
      show _ <+: serving answer peer { arrivals := .failure cause :: (Trace.arrivals mid ++ .bytes given :: more) }
      rw [serving_retry (Inflow.read_failure requestSize cause _) again]
      simpa using hagain
    · have hagain := ih _ (Inflow.weight_read_bytes met) hmid rfl
      have hmet := Inflow.read_fits (Inflow.length_read met) (Trace.arrivals mid ++ .bytes given :: more)
      have harrivals : Trace.arrivals (.read requestSize (.ok (b :: piece)) ::
          (answering answer peer (b :: piece) ++ mid)) = .bytes (b :: piece) :: Trace.arrivals mid := by
        rw [← List.singleton_append, Trace.arrivals_append, Trace.arrivals_append,
          (noRead_answering answer peer (b :: piece)).arrivals_eq_nil]
        rfl
      rw [harrivals]
      show _ <+: serving answer peer { arrivals := .bytes (b :: piece) :: (Trace.arrivals mid ++ .bytes given :: more) }
      rw [serving_answered hmet hfit]
      simpa using hagain

/-- no write or flush of a server fails -/
theorem works_serving (inflow : Inflow) : ∀ event ∈ serving answer peer inflow, event.Works := by
  have hfinding : ∀ piece, ∀ event ∈ finding peer piece, event.Works := by
    intro piece
    unfold finding noted
    split <;> simp [Event.Works]
  apply serving_induction (motive := fun _ trace => ∀ event ∈ trace, event.Works)
  · intro inflow later cause met again ih
    simpa [Event.Works] using ih
  · simp [Event.Works]
  · simp [Event.Works]
  · intro inflow later b piece met hfit ih
    simp only [answering, List.forall_mem_cons, List.forall_mem_append]
    exact ⟨trivial, ⟨hfinding _, trivial, trivial, trivial, by simp⟩, ih⟩
  · intro inflow later b piece met hfit
    simp only [List.forall_mem_cons, List.forall_mem_append]
    exact ⟨trivial, hfinding _, trivial, by simp⟩

/-- a server waits for nothing but bytes -/
theorem responsive_serving (answer : String → String) (peer : String) : Responsive (serving answer peer) where
  works := works_serving
  reads inflow before room got hread := by
    have hroom := room_serving hread
    refine ⟨by rw [hroom, requestSize]; omega, fun piece hlen => ⟨_, replay_serving hread (hroom ▸ hlen) []⟩⟩

/-- a read that brings bytes pays for what follows it, up to seven events -/
theorem paced_piece {trace : Trace} (h : trace.Paced 8 7) (b : UInt8) (piece : Bytes) :
    Trace.Paced 8 0 (.read requestSize (.ok (b :: piece)) :: trace) := by
  intro done hdone hprompt
  rcases List.prefix_cons_iff.1 hdone with rfl | ⟨rest, rfl, hrest⟩
  · simp
  · have hcost := h rest hrest fun e he => hprompt e (List.mem_cons_of_mem _ he)
    simp only [Trace.received_cons, Event.received, List.length_append, List.length_cons]
    omega

/-- a server keeps pace with the bytes it reads -/
theorem paced_serving (inflow : Inflow) : (serving answer peer inflow).Paced 8 0 := by
  have hfinding : ∀ piece, (finding peer piece).Paced 8 3 := by
    intro piece
    apply Trace.Paced.of_length
    unfold finding noted
    split <;> simp
  apply serving_induction (motive := fun _ trace => trace.Paced 8 0)
  · intro inflow later cause met again ih
    exact .of_stuck fun h => h.2 _ _ rfl
  · intro inflow cause last
    exact .of_stuck fun h => h.2 _ _ rfl
  · intro inflow
    exact .of_stuck fun h => h.1 rfl
  · intro inflow later b piece met hfit ih
    have hrest : Trace.Paced 8 3 [.wrote .link (.ok (frame answer (b :: piece))), .flushed .link (.ok ()),
        .counted .framesWritten 1] := .of_length le_rfl
    exact paced_piece ((((hfinding _).append hrest).append ih).mono le_rfl (by omega)) b piece
  · intro inflow later b piece met hfit
    have hrest : Trace.Paced 8 1 [.counted .frameTooLarge 1] := .of_length le_rfl
    exact paced_piece (((hfinding _).append hrest).mono le_rfl (by omega)) b piece

/-- on a stream that neither ends nor fails, a server does not stop as long as its replies fit -/
theorem endless_serving (inflow : Inflow) : (∀ event ∈ serving answer peer inflow, event.Delivers) →
    (∀ piece ∈ Trace.pieces (serving answer peer inflow), Answerable answer piece) → False := by
  apply serving_induction (motive := fun _ trace => (∀ event ∈ trace, event.Delivers) →
    (∀ piece ∈ Trace.pieces trace, Answerable answer piece) → False)
  · intro inflow later cause met again ih hall hfits
    exact ih (fun e he => hall e (List.mem_cons_of_mem _ he)) hfits
  · intro inflow cause last hall hfits
    exact last (hall _ List.mem_cons_self)
  · intro inflow hall hfits
    exact hall _ List.mem_cons_self rfl
  · intro inflow later b piece met hfit ih hall hfits
    exact ih (fun e he => hall e (by simp [he])) fun p hp => hfits p (by simp [hp])
  · intro inflow later b piece met hfit hall hfits
    exact hfit (hfits (b :: piece) (by simp [Event.piece]))

end Server

end QueryConsole
