import QueryConsole.Client
import QueryConsole.Proofs.Flow.Delivery
import QueryConsole.Proofs.Flow.FrameDecoding

/-
What sending and receiving can do to an open client.

An open client is `⟨limit, some ⟨inflow, outflow⟩⟩`. Sending is a delivery and nothing else; receiving reads one frame
and turns its payload into text. Either keeps the link and goes on, or gives it up: `parting e` is what a client tells
when it gives the link up over `e`, `arrival payload` what it notes about a payload that is complete.

Results:
- `send_cases`: sending succeeds with the whole line taken, or closes the client with a front part of it taken.
- `receive_open`: receiving, by what reading the frame gave.
- `receive_cases`: receiving succeeds on exactly one frame of a text, or closes the client.
-/

namespace QueryConsole

namespace Client

variable {limit : UInt32} {inflow later : Inflow} {outflow : Outflow} {text : String} {e : LinkError} {trace : Trace}

/-- what a client tells that gives its link up over a failure -/
def parting (e : LinkError) : Trace := [.told (.failed e.message e.failureKind), .counted .close 1, .told .closed]

/-- what a client notes about a payload that has arrived whole -/
def arrival (payload : Bytes) : Trace :=
  [.sampled .receiveLatency, .counted .responsesReceived 1, .counted .responseBytes payload.length]

/-! ## Using the link -/

theorem onLink_ok {act : Act Link LinkError α} {a : α} {link link' : Link}
    (h : act link = ⟨.ok a, link', trace⟩) (limit : UInt32) :
    onLink act ⟨limit, some link⟩ = ⟨.ok a, ⟨limit, some link'⟩, trace⟩ := by
  simp only [onLink, h]

theorem onLink_error {act : Act Link LinkError α} {link link' : Link}
    (h : act link = ⟨.error e, link', trace⟩) (limit : UInt32) :
    onLink act ⟨limit, some link⟩ = ⟨.error e, ⟨limit, none⟩, trace ++ parting e⟩ := by
  simp only [onLink, h]
  rfl

/-! ## Sending -/

theorem sending_eq {act : Act Outflow ε α} {answer : Except ε α} {outflow' : Outflow}
    (h : act outflow = ⟨answer, outflow', trace⟩) (inflow : Inflow) :
    Link.sending act ⟨inflow, outflow⟩ = ⟨answer, ⟨inflow, outflow'⟩, trace⟩ := by
  simp [Link.sending, h]

/-- what a client notes about a line that was sent -/
def sending (line : String) : Trace :=
  [.counted .requestsSent 1, .counted .requestBytes (Utf8.encode line).length]

/-- **What sending can do.** The whole line is taken and the client stays open; or the client is closed, with a strict
front part of the line taken if a write failed, and all of it if the flush failed. Nothing is read. -/
theorem send_cases (line : String) (limit : UInt32) (inflow : Inflow) (outflow : Outflow) :
    ∃ outflow' trace, trace.NoRead ∧
      ((∃ cause,
          send line ⟨limit, some ⟨inflow, outflow⟩⟩ = ⟨.error (.transport "write" cause), ⟨limit, none⟩, trace⟩ ∧
          Trace.taken .link trace <+: Utf8.encode line ∧ Trace.taken .link trace ≠ Utf8.encode line) ∨
        (∃ cause,
          send line ⟨limit, some ⟨inflow, outflow⟩⟩ = ⟨.error (.transport "flush" cause), ⟨limit, none⟩, trace⟩ ∧
          Trace.taken .link trace = Utf8.encode line) ∨
        (send line ⟨limit, some ⟨inflow, outflow⟩⟩ = ⟨.ok (), ⟨limit, some ⟨inflow, outflow'⟩⟩, trace⟩ ∧
          Trace.taken .link trace = Utf8.encode line)) := by
  obtain ⟨outflow', trace, hread, h⟩ := Outflow.deliver_cases (Utf8.encode line) outflow
  have hparting : ∀ e, (trace ++ parting e).NoRead ∧
      Trace.taken .link (trace ++ parting e) = Trace.taken .link trace := by
    intro e
    simp [hread, parting, Event.taken]
  rcases h with ⟨cause, hrun, htaken⟩ | ⟨cause, hrun, htaken⟩ | ⟨hrun, htaken⟩
  · obtain ⟨hquiet, hsame⟩ := hparting (.transport "write" cause)
    refine ⟨outflow', _, hquiet, .inl ⟨cause, ?_, by rwa [hsame]⟩⟩
    exact Act.run_bind_error (onLink_error (sending_eq hrun inflow) limit)
  · obtain ⟨hquiet, hsame⟩ := hparting (.transport "flush" cause)
    refine ⟨outflow', _, hquiet, .inr (.inl ⟨cause, ?_, by rwa [hsame]⟩)⟩
    exact Act.run_bind_error (onLink_error (sending_eq hrun inflow) limit)
  · refine ⟨outflow', trace ++ sending line, by simpa [sending] using hread,
      .inr (.inr ⟨?_, by simpa [sending, Event.taken] using htaken⟩)⟩
    exact Act.run_bind_ok (onLink_ok (sending_eq hrun inflow) limit)

/-! ## Receiving -/

theorem receiving_eq {act : Act Inflow ε α} {answer : Except ε α} (h : act inflow = ⟨answer, later, trace⟩)
    (outflow : Outflow) : Link.receiving act ⟨inflow, outflow⟩ = ⟨answer, ⟨later, outflow⟩, trace⟩ := by
  simp [Link.receiving, h]

/-- what receiving does with the link -/
def response (limit : Nat) : Act Link LinkError String :=
  Link.receiving (Frame.read limit) >>= fun payload => Act.record (arrival payload) >>= fun _ => textOf payload

theorem receive_eq (limit : UInt32) (link : Link) :
    receive ⟨limit, some link⟩ = onLink (response limit.toNat) ⟨limit, some link⟩ := rfl

/-- what a client makes of a payload, or of the failure to read one -/
def verdict : Except LinkError Bytes → Except LinkError String
  | .error e => .error e
  | .ok payload =>
    match Utf8.decode payload with
    | .ok text => .ok text
    | .error fault => .error (.invalidUtf8 payload fault)

/-- what a client does once it has read a payload, or failed to -/
def afterword : Except LinkError Bytes → Trace
  | .error e => parting e
  | .ok payload =>
    match Utf8.decode payload with
    | .ok _ => arrival payload
    | .error fault => arrival payload ++ .counted .invalidUtf8 1 :: parting (.invalidUtf8 payload fault)

/-- the client after a use of its link: the link is kept if the use succeeded -/
def kept (limit : UInt32) (link : Link) : Except LinkError α → Client
  | .ok _ => ⟨limit, some link⟩
  | .error _ => ⟨limit, none⟩

theorem verdict_ok {answer : Except LinkError Bytes} (h : verdict answer = .ok text) :
    answer = .ok (Utf8.encode text) := by
  cases answer with
  | error e => cases h
  | ok payload =>
    cases hdecode : Utf8.decode payload with
    | error fault => simp [verdict, hdecode] at h
    | ok found =>
      obtain rfl : found = text := by simpa [verdict, hdecode] using h
      rw [Utf8.encode_of_decode hdecode]

theorem verdict_encode (text : String) : verdict (.ok (Utf8.encode text)) = .ok text := by
  simp [verdict, Utf8.decode_encode]

/-- what comes after a payload is neither read nor written -/
theorem quiet_afterword (answer : Except LinkError Bytes) :
    (afterword answer).NoRead ∧ Trace.taken .link (afterword answer) = [] := by
  unfold afterword
  split
  · simp [parting, Event.taken]
  · split <;> simp [arrival, parting, Event.taken]

/-- **Receiving is reading one frame and turning its payload into text.** -/
theorem receive_open {answer : Except LinkError Bytes} (h : Frame.read limit.toNat inflow = ⟨answer, later, trace⟩)
    (outflow : Outflow) :
    receive ⟨limit, some ⟨inflow, outflow⟩⟩ =
      ⟨verdict answer, kept limit ⟨later, outflow⟩ (verdict answer), trace ++ afterword answer⟩ := by
  rw [receive_eq]
  cases answer with
  | error e => exact onLink_error (Act.run_bind_error (receiving_eq h outflow)) limit
  | ok payload =>
    have hresponse : response limit.toNat ⟨inflow, outflow⟩ =
        (textOf payload ⟨later, outflow⟩).after (trace ++ arrival payload) := by
      rw [response, Act.run_bind_ok (receiving_eq h outflow), Act.run_bind_ok (Act.run_record _ _)]
      simp [Run.after]
    cases hdecode : Utf8.decode payload with
    | error fault =>
      have htext : textOf payload ⟨later, outflow⟩ =
          ⟨.error (.invalidUtf8 payload fault), ⟨later, outflow⟩, [.counted .invalidUtf8 1]⟩ := by
        simp only [textOf, hdecode]
        rfl
      rw [htext] at hresponse
      rw [onLink_error hresponse]
      simp [verdict, afterword, kept, hdecode]
    | ok text =>
      have htext : textOf payload ⟨later, outflow⟩ = ⟨.ok text, ⟨later, outflow⟩, []⟩ := by
        simp only [textOf, hdecode]
        rfl
      rw [htext] at hresponse
      rw [onLink_ok hresponse]
      simp [verdict, afterword, kept, hdecode]

/-- **What receiving can do.** It answers with a text and has taken exactly the frame of that text, or the client is
closed. Nothing is written. -/
theorem receive_cases (limit : UInt32) (inflow : Inflow) (outflow : Outflow) :
    ∃ trace, Trace.taken .link trace = [] ∧
      ((∃ e, receive ⟨limit, some ⟨inflow, outflow⟩⟩ = ⟨.error e, ⟨limit, none⟩, trace⟩) ∨
        (∃ text later, receive ⟨limit, some ⟨inflow, outflow⟩⟩ = ⟨.ok text, ⟨limit, some ⟨later, outflow⟩⟩, trace⟩ ∧
          Frame.encode (Utf8.encode text) = .ok (Trace.received trace) ∧
          inflow.coming = later.coming.after (Trace.received trace))) := by
  have htaken := Trace.taken_of_isReading (Frame.reading_read limit.toNat inflow) .link
  rcases h : Frame.read limit.toNat inflow with ⟨answer, later, trace⟩
  rw [h] at htaken
  have hrun := receive_open h outflow
  obtain ⟨hquiet, hnone⟩ := quiet_afterword answer
  refine ⟨trace ++ afterword answer, by rw [Trace.taken_append, htaken, hnone, List.append_nil], ?_⟩
  cases hverdict : verdict answer with
  | error e =>
    rw [hverdict] at hrun
    exact .inl ⟨e, hrun⟩
  | ok text =>
    rw [hverdict] at hrun
    obtain rfl := verdict_ok hverdict
    rw [Trace.received_append, hquiet.received_eq_nil, List.append_nil]
    exact .inr ⟨text, later, hrun, Frame.encode_of_read h⟩

/-! ## Invoking -/

variable {client client' : Client} {line : String}

theorem invoke_failed (h : send line client = ⟨.error e, client', trace⟩) :
    invoke line client = ⟨.error e, client', trace⟩ :=
  Act.run_bind_error h

theorem invoke_sent (h : send line client = ⟨.ok (), client', trace⟩) :
    invoke line client = (receive client').after trace :=
  Act.run_bind_ok h

end Client

end QueryConsole
