import QueryConsole.Proofs.Server.Connection

/-
Serving one connection, one call at a time.

Between two calls on its link a connection is at a `Stage`: before a read, with a piece to be answered, or with bytes of
a frame still to be written. A turn is what happens up to the next stage: one read, the finding of a reply, one write,
or the flush behind a frame. `serveFrom` is what serving does from a stage on, in the words of `serveConnection`.

Results:
- `turned`: what a turn can do. Serving from a stage on is one turn, and then serving from the next stage on, which is
  closer to the end by `rank`; or it ends with the turn.
- `writeTurn_cases`: what one write can do to the bytes of a frame.
-/

namespace QueryConsole

namespace Server

/-- where serving a connection is, between two calls -/
inductive Stage where
  | reading
  | answering (piece : Bytes)
  /-- bytes of a frame that are still to be written; none: the flush is next -/
  | writing (rest : Bytes)
deriving DecidableEq, Repr

variable {answer : String → String} {peer : String} {inflow later : Inflow} {outflow : Outflow} {link : Link}
  {cause : IoError} {b : UInt8} {piece rest : Bytes}

/-! ## Turns -/

/-- one read; after the closed side there is no next stage -/
def readTurn (peer : String) : Act Link LinkError (Option Stage) := fun link =>
  match link.inflow.read requestSize with
  | (.error cause, later) =>
    if cause.retryable then
      ⟨.ok (some .reading), { link with inflow := later }, [.read requestSize (.error cause)]⟩
    else
      (LinkError.raise (.transport "read" cause) { link with inflow := later }).after
        [.read requestSize (.error cause)]
  | (.ok [], later) =>
    ⟨.ok none, { link with inflow := later }, [.read requestSize (.ok []), .told (.hangup peer)]⟩
  | (.ok (b :: piece), later) =>
    ⟨.ok (some (.answering (b :: piece))), { link with inflow := later }, [.read requestSize (.ok (b :: piece))]⟩

/-- an act on a service whose handler keeps no state -/
def stateless (act : Act (Service Unit) ε α) : Act Link ε α :=
  act.within (fun link => ⟨(), link⟩) fun service _ => service.link

/-- find the reply to a piece, and the frame for it -/
def answerTurn (answer : String → String) (peer : String) (piece : Bytes) : Act Link LinkError (Option Stage) := do
  Act.record [.counted .requests 1]
  let response ← stateless (respond (Handler.ofFun answer) peer piece)
  match Frame.encode (Utf8.encode response) with
  | .ok frame => return some (.writing frame)
  | .error e => LinkError.raise e

/-- one write, or the flush behind the last one -/
def writeTurn : Bytes → Act Outflow LinkError Stage
  | [] => do
    (Outflow.flush .link).rescue fun cause => LinkError.raise (.transport "flush" cause)
    Act.record [.counted .framesWritten 1]
    return .reading
  | b :: rest => fun outflow =>
    match outflow.write (b :: rest) with
    | (.ok [], later) => (LinkError.raise (.transport "write" .nothingTaken) later).after [.wrote .link (.ok [])]
    | (.ok (c :: taken), later) =>
      ⟨.ok (.writing (rest.drop taken.length)), later, [.wrote .link (.ok (c :: taken))]⟩
    | (.error cause, later) =>
      if outflow.reissues cause then ⟨.ok (.writing (b :: rest)), later, [.wrote .link (.error cause)]⟩
      else (LinkError.raise (.transport "write" cause) later).after [.wrote .link (.error cause)]

/-- go on from a stage to the next one, if there is one -/
def turn (answer : String → String) (peer : String) : Stage → Act Link LinkError (Option Stage)
  | .reading => readTurn peer
  | .answering piece => answerTurn answer peer piece
  | .writing rest => do return some (← Link.sending (writeTurn rest))

/-! ## Serving from a stage on -/

/-- serve a connection to its end -/
def serveLink (answer : String → String) (peer : String) : Act Link LinkError Unit :=
  stateless fun service => serveConnection (Handler.ofFun answer) peer () service.link.inflow service.link.outflow

/-- write the rest of a frame -/
def finish (rest : Bytes) : Act Link LinkError Unit :=
  Link.sending (Outflow.deliver rest >>= fun _ => Act.record [.counted .framesWritten 1])

/-- serve a connection from a stage on to its end -/
def serveFrom (answer : String → String) (peer : String) : Stage → Act Link LinkError Unit
  | .reading => serveLink answer peer
  | .answering piece => do
    stateless (answerPiece (Handler.ofFun answer) peer piece)
    serveLink answer peer
  | .writing rest => do
    finish rest
    serveLink answer peer

/-- how far a stage is from the end: first by what can still arrive, then by what is still to be written -/
def rank : Stage → Link → ℕ × ℕ
  | .reading, link => (3 * link.inflow.weight, 0)
  | .answering _, link => (3 * link.inflow.weight + 2, 0)
  | .writing rest, link => (3 * link.inflow.weight + 1, link.outflow.intakes.length + rest.length)

/-- **What a turn can do.** It goes on to a stage that is closer to the end, and serving goes on from there; or serving
ends with it. That a connection has failed is reported later, and not by a turn. -/
inductive Turned (answer : String → String) (peer : String) (stage : Stage) (link : Link) : Prop
  | goesOn (next : Stage) (left : Link) (trace : Trace)
    (run : turn answer peer stage link = ⟨.ok (some next), left, trace⟩)
    (whole : serveFrom answer peer stage link = (serveFrom answer peer next left).after trace)
    (closer : Prod.Lex (· < ·) (· < ·) (rank next left) (rank stage link))
    (unreported : Trace.total .connectionError trace = 0)
  | ends (result : Except LinkError Unit) (left : Link) (trace : Trace)
    (run : turn answer peer stage link = ⟨result.map fun _ => none, left, trace⟩)
    (whole : serveFrom answer peer stage link = ⟨result, left, trace⟩)
    (unreported : Trace.total .connectionError trace = 0)

theorem serveLink_run (answer : String → String) (peer : String) (inflow : Inflow) (outflow : Outflow) :
    serveLink answer peer ⟨inflow, outflow⟩ =
      let r := serveConnection (Handler.ofFun answer) peer () inflow outflow
      ⟨r.answer, r.state.link, r.trace⟩ := rfl

theorem stateless_run {act : Act (Service Unit) ε α} {result : Except ε α} {last : Link} {trace : Trace}
    (h : act ⟨(), link⟩ = ⟨result, ⟨(), last⟩, trace⟩) : stateless act link = ⟨result, last, trace⟩ := by
  rw [stateless, Act.run_within, h]

/-- answering a piece is noting it and writing the reply -/
theorem answering_run {result : Except LinkError Unit} {last : Outflow} {trace : Trace}
    (h : Frame.write (Utf8.encode (reply answer piece)) outflow = ⟨result, last, trace⟩) (peer : String)
    (inflow : Inflow) :
    stateless (answerPiece (Handler.ofFun answer) peer piece) ⟨inflow, outflow⟩ =
      ⟨result, ⟨inflow, last⟩, finding peer piece ++ trace⟩ :=
  stateless_run (answerPiece_of_write h peer inflow)

/-! ## Reading -/

theorem turned_reading (answer : String → String) (peer : String) (link : Link) :
    Turned answer peer .reading link := by
  obtain ⟨inflow, outflow⟩ := link
  rcases met : inflow.read requestSize with ⟨cause | _ | ⟨b, piece⟩, later⟩
  · by_cases again : cause.retryable = true
    · refine .goesOn .reading ⟨later, outflow⟩ [.read requestSize (.error cause)] ?_ ?_ ?_ rfl
      · simp only [turn, readTurn, met, if_pos again]
      · rw [serveFrom, serveLink_run, serveConnection_retry met again]
        rfl
      · refine .left _ _ ?_
        have := Inflow.weight_read_error met
        show 3 * later.weight < 3 * inflow.weight
        omega
    · refine .ends (.error (.transport "read" cause)) ⟨later, outflow⟩
        [.read requestSize (.error cause), .counted .transportError 1] ?_ ?_ rfl
      · simp only [turn, readTurn, met, if_neg again]
        rfl
      · rw [serveFrom, serveLink_run, serveConnection_failure met again]
  · refine .ends (.ok ()) ⟨later, outflow⟩ [.read requestSize (.ok []), .told (.hangup peer)] ?_ ?_ rfl
    · simp only [turn, readTurn, met]
      rfl
    · rw [serveFrom, serveLink_run, serveConnection_hangup met]
  · refine .goesOn (.answering (b :: piece)) ⟨later, outflow⟩ [.read requestSize (.ok (b :: piece))] ?_ ?_ ?_ rfl
    · simp only [turn, readTurn, met]
    · rw [serveFrom, serveLink_run, serveFrom]
      rcases hwrite : Frame.write (Utf8.encode (reply answer (b :: piece))) outflow with ⟨e | _, last, trace⟩
      · rw [Act.run_bind_error (answering_run hwrite peer later)]
        rw [serveConnection_refused met (answerPiece_of_write hwrite peer later)]
        rfl
      · rw [Act.run_bind_ok (answering_run hwrite peer later)]
        rw [serveConnection_answered met (answerPiece_of_write hwrite peer later)]
        rfl
    · refine .left _ _ ?_
      have := Inflow.weight_read_bytes met
      show 3 * later.weight + 2 < 3 * inflow.weight
      omega

/-! ## Answering -/

theorem unreported_finding (peer : String) (piece : Bytes) :
    Trace.total .connectionError (finding peer piece) = 0 := by
  unfold finding noted
  split <;> rfl

theorem turned_answering (answer : String → String) (peer : String) (piece : Bytes) (link : Link) :
    Turned answer peer (.answering piece) link := by
  obtain ⟨inflow, outflow⟩ := link
  have hrespond : stateless (respond (Handler.ofFun answer) peer piece) ⟨inflow, outflow⟩ =
      ⟨.ok (reply answer piece), ⟨inflow, outflow⟩, noted peer piece⟩ :=
    stateless_run (respond_eq (Handler.ofFun answer) peer piece _)
  cases hframe : Frame.encode (Utf8.encode (reply answer piece)) with
  | error e =>
    have hwrite : Frame.write (Utf8.encode (reply answer piece)) outflow =
        ⟨.error e, outflow, [.counted e.counter 1]⟩ := by
      simp only [Frame.write, hframe]
      rfl
    refine .ends (.error e) ⟨inflow, outflow⟩ (finding peer piece ++ [.counted e.counter 1]) ?_ ?_ ?_
    · rw [turn, answerTurn, Act.run_bind_ok (Act.run_record _ _), Act.run_bind_ok hrespond, hframe]
      simp [LinkError.raise, Run.after, finding, Except.map]
    · rw [serveFrom, Act.run_bind_error (answering_run hwrite peer inflow)]
    · rw [Trace.total_append, unreported_finding]
      cases e <;> rfl
  | ok frame =>
    have hwrite : Frame.write (Utf8.encode (reply answer piece)) outflow =
        (Outflow.deliver frame >>= fun _ => Act.record [.counted .framesWritten 1]) outflow := by
      simp only [Frame.write, hframe]
    have hanswering : stateless (answerPiece (Handler.ofFun answer) peer piece) ⟨inflow, outflow⟩ =
        (finish frame ⟨inflow, outflow⟩).after (finding peer piece) := answering_run hwrite peer inflow
    refine .goesOn (.writing frame) ⟨inflow, outflow⟩ (finding peer piece) ?_ ?_ ?_ (unreported_finding peer piece)
    · rw [turn, answerTurn, Act.run_bind_ok (Act.run_record _ _), Act.run_bind_ok hrespond, hframe]
      simp [Run.after, finding]
    · exact Act.run_bind_after hanswering
    · exact .left _ _ (Nat.lt_succ_self _)

/-! ## Writing -/

theorem deliver_after {bytes bytes' : Bytes} {outflow' : Outflow} {trace : Trace}
    (h : Outflow.writeAll .link bytes outflow = (Outflow.writeAll .link bytes' outflow').after trace) :
    Outflow.deliver bytes outflow = (Outflow.deliver bytes' outflow').after trace :=
  Act.run_bind_after (Act.run_rescue_after h)

theorem deliver_failed {bytes : Bytes} {last : Outflow} {trace : Trace}
    (h : Outflow.writeAll .link bytes outflow = ⟨.error cause, last, trace⟩) :
    Outflow.deliver bytes outflow =
      ⟨.error (.transport "write" cause), last, trace ++ [.counted .transportError 1]⟩ := by
  refine Act.run_bind_error ?_
  simp only [Act.rescue, h]
  rfl

/-- **What one write can do.** It goes on with less to be written or fewer answers to come, or it fails; either way it
is the first of all writes of these bytes. -/
theorem writeTurn_cases (b : UInt8) (rest : Bytes) (outflow : Outflow) :
    (∃ left last taken, writeTurn (b :: rest) outflow = ⟨.ok (.writing left), last, [.wrote .link taken]⟩ ∧
      Outflow.writeAll .link (b :: rest) outflow = (Outflow.writeAll .link left last).after [.wrote .link taken] ∧
      last.intakes.length + left.length < outflow.intakes.length + (b :: rest).length) ∨
    ∃ cause last taken, writeTurn (b :: rest) outflow =
        ⟨.error (.transport "write" cause), last, [.wrote .link taken, .counted .transportError 1]⟩ ∧
      Outflow.writeAll .link (b :: rest) outflow = ⟨.error cause, last, [.wrote .link taken]⟩ := by
  have hintakes := Outflow.intakes_write (b :: rest) outflow
  rcases met : outflow.write (b :: rest) with ⟨cause | _ | ⟨c, taken⟩, later⟩
  · by_cases again : outflow.reissues cause = true
    · refine .inl ⟨b :: rest, later, .error cause, ?_, ?_, ?_⟩
      · simp only [writeTurn, met, if_pos again]
      · rw [Outflow.writeAll]
        split <;> simp_all
      · have hnonempty : outflow.intakes ≠ [] := by
          intro hnil
          simp [Outflow.reissues, hnil] at again
        have := List.length_pos_iff.2 hnonempty
        simp only [met] at hintakes
        rw [hintakes, List.length_tail]
        omega
    · refine .inr ⟨cause, later, .error cause, ?_, ?_⟩
      · simp only [writeTurn, met, if_neg again]
        rfl
      · rw [Outflow.writeAll]
        split <;> simp_all
  · refine .inr ⟨.nothingTaken, later, .ok [], ?_, ?_⟩
    · simp only [writeTurn, met]
      rfl
    · rw [Outflow.writeAll]
      split <;> simp_all
  · refine .inl ⟨rest.drop taken.length, later, .ok (c :: taken), ?_, ?_, ?_⟩
    · simp only [writeTurn, met]
    · rw [Outflow.writeAll]
      split <;> simp_all
    · simp only [met] at hintakes
      rw [hintakes, List.length_tail, List.length_drop, List.length_cons]
      omega

/-- with nothing to write, delivering is flushing -/
theorem deliver_nil (outflow : Outflow) :
    Outflow.deliver [] outflow = (Outflow.flush .link).rescue
      (fun cause => LinkError.raise (α := Unit) (.transport "flush" cause)) outflow := by
  have hnothing : (Outflow.writeAll .link []).rescue
      (fun cause => LinkError.raise (α := Unit) (.transport "write" cause)) outflow = ⟨.ok (), outflow, []⟩ := by
    simp only [Act.rescue, Outflow.run_writeAll_nil]
  exact Act.run_bind_ok hnothing

theorem finish_run {result : Except LinkError Unit} {last : Outflow} {trace : Trace}
    (h : (Outflow.deliver rest >>= fun _ => Act.record [.counted .framesWritten 1]) outflow = ⟨result, last, trace⟩)
    (inflow : Inflow) : finish rest ⟨inflow, outflow⟩ = ⟨result, ⟨inflow, last⟩, trace⟩ := by
  rw [finish, Link.sending, Act.run_within, h]

theorem turned_writing (answer : String → String) (peer : String) (rest : Bytes) (link : Link) :
    Turned answer peer (.writing rest) link := by
  obtain ⟨inflow, outflow⟩ := link
  -- a turn works on the departing direction alone, as finishing the frame does
  have hturn : ∀ {result last trace}, writeTurn rest outflow = ⟨result, last, trace⟩ →
      turn answer peer (.writing rest) ⟨inflow, outflow⟩ = ⟨result.map some, ⟨inflow, last⟩, trace⟩ := by
    intro result last trace h
    rw [turn, Act.run_bind_pure, Link.sending, Act.run_within, h]
  cases rest with
  | nil =>
    obtain ⟨result, last, hflush⟩ := Outflow.flush_eq .link outflow
    cases result with
    | ok _ =>
      have hdelivered : (Outflow.flush .link).rescue
          (fun cause => LinkError.raise (α := Unit) (.transport "flush" cause)) outflow =
          ⟨.ok (), last, [.flushed .link (.ok ())]⟩ := by
        simp only [Act.rescue, hflush]
      have hrun : writeTurn [] outflow =
          ⟨.ok .reading, last, [.flushed .link (.ok ()), .counted .framesWritten 1]⟩ := by
        rw [writeTurn, Act.run_bind_ok hdelivered]
        rfl
      have hfinish := finish_run (Act.run_bind_ok ((deliver_nil outflow).trans hdelivered)) inflow
      refine .goesOn .reading ⟨inflow, last⟩ [.flushed .link (.ok ()), .counted .framesWritten 1] (hturn hrun) ?_
        (.left _ _ (Nat.lt_succ_self _)) rfl
      exact Act.run_bind_ok hfinish
    | error cause =>
      have hrefused : (Outflow.flush .link).rescue
          (fun cause => LinkError.raise (α := Unit) (.transport "flush" cause)) outflow =
          ⟨.error (.transport "flush" cause), last, [.flushed .link (.error cause), .counted .transportError 1]⟩ := by
        simp only [Act.rescue, hflush]
        rfl
      have hrun : writeTurn [] outflow = ⟨.error (.transport "flush" cause), last,
          [.flushed .link (.error cause), .counted .transportError 1]⟩ :=
        Act.run_bind_error hrefused
      have hfinish := finish_run (Act.run_bind_error ((deliver_nil outflow).trans hrefused)) inflow
      exact .ends (.error (.transport "flush" cause)) ⟨inflow, last⟩
        [.flushed .link (.error cause), .counted .transportError 1] (hturn hrun) (Act.run_bind_error hfinish) rfl
  | cons b rest =>
    rcases writeTurn_cases b rest outflow with
      ⟨left, last, taken, hrun, hwrite, hless⟩ | ⟨cause, last, taken, hrun, hwrite⟩
    · have hfinish : finish (b :: rest) ⟨inflow, outflow⟩ =
          (finish left ⟨inflow, last⟩).after [.wrote .link taken] :=
        finish_run (Act.run_bind_after (deliver_after hwrite)) inflow
      exact .goesOn (.writing left) ⟨inflow, last⟩ [.wrote .link taken] (hturn hrun) (Act.run_bind_after hfinish)
        (.right _ hless) rfl
    · have hfinish := finish_run (Act.run_bind_error (deliver_failed hwrite)) inflow
      exact .ends (.error (.transport "write" cause)) ⟨inflow, last⟩
        [.wrote .link taken, .counted .transportError 1] (hturn hrun) (Act.run_bind_error hfinish) rfl

/-- **Every turn is one.** -/
theorem turned (answer : String → String) (peer : String) (stage : Stage) (link : Link) :
    Turned answer peer stage link := by
  cases stage with
  | reading => exact turned_reading answer peer link
  | answering piece => exact turned_answering answer peer piece link
  | writing rest => exact turned_writing answer peer rest link

end Server

end QueryConsole
