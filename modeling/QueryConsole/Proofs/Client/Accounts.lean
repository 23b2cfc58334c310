import QueryConsole.Proofs.Client.Life
import QueryConsole.Proofs.Flow.Calls
import QueryConsole.Proofs.Flow.Entries
import QueryConsole.Proofs.Flow.FrameFront

/-
The books of a client agree with what it did.

A life of requests makes calls on the stream: it sends lines and receives responses (`calls`; an invoke receives only
if its line went out). What a call enters into the books is a function of its answer alone (`Call.entries`), and the
entries of a life are those of its calls, in order. Two things are kept beside them: a link that is given up is one
close, and a read that is interrupted is one interruption. What a receive takes from the stream is told by its answer,
too: a whole frame, or what there was of one (`Unfinished`).

`Accounted` says all this of a part of a life; parts may be put one after the other (`Accounted.append`).

Results:
- `accounted_send`, `accounted_receive`, `accounted_perform`: one use of the stream, and one request.
- `accounted_life`, `accounted_over`: a life, and a life with its drop.
- `failures_life`: what the calls failed with is what the requests were answered with.
- `life_accounts`: all totals.
-/

namespace QueryConsole

namespace Client

variable {limit : UInt32} {link : Link} {inflow : Inflow} {outflow : Outflow} {client : Client} {request : Request}

/-! ## Calls -/

/-- one use of the stream, with its answer -/
inductive Call where
  | sent (line : String) (answer : Except LinkError Unit)
  | received (answer : Except LinkError String)
deriving DecidableEq, Repr

namespace Call

/-- the bytes of a line that was sent -/
def line? : Call → Option Bytes
  | sent line (.ok _) => some (Utf8.encode line)
  | _ => none

/-- the payload of a frame that arrived whole: that of a text, or one that is no text -/
def payload? : Call → Option Bytes
  | received (.ok text) => some (Utf8.encode text)
  | received (.error (.invalidUtf8 payload _)) => some payload
  | _ => none

/-- the failure of a receive that took no whole frame -/
def cut? : Call → Option LinkError
  | received (.error (.transport activity cause)) => some (.transport activity cause)
  | received (.error (.connectionLost phase expected n)) => some (.connectionLost phase expected n)
  | received (.error (.frameTooLarge size limit)) => some (.frameTooLarge size limit)
  | _ => none

/-- the failure of a call -/
def failure? : Call → Option LinkError
  | sent _ (.error e) | received (.error e) => some e
  | _ => none

/-- what a call enters into the books -/
def entries : Call → Trace
  | sent line (.ok _) => sending line
  | received (.ok text) => arrival (Utf8.encode text)
  | received (.error (.invalidUtf8 payload fault)) =>
    arrival payload ++ blame (.error (.invalidUtf8 payload fault) : Except LinkError String)
  | sent _ answer => blame answer
  | received answer => blame answer

end Call

/-- the calls that a request makes -/
def calls (client : Client) : Request → List Call
  | .send line => [.sent line (send line client).answer]
  | .receive => [.received (receive client).answer]
  | .invoke line =>
    match send line client with
    | ⟨.ok _, later, _⟩ => [.sent line (.ok ()), .received (receive later).answer]
    | ⟨.error e, _, _⟩ => [.sent line (.error e)]
  | .close => []

/-- the calls that requests make in turn -/
def callsInTurn : List Request → Client → List Call
  | [], _ => []
  | request :: later, client => calls client request ++ callsInTurn later (perform request client).state

/-- the failures that requests were answered with -/
def failures (runs : List (Run Client LinkError (Option String))) : List LinkError :=
  runs.filterMap fun r =>
    match r.answer with
    | .error e => some e
    | .ok _ => none

/-! ## What the books say -/

/-- the bytes of the frames that arrived whole -/
def wholeFrames (calls : List Call) : Nat := ((calls.filterMap Call.payload?).map (Frame.headerSize + ·.length)).sum

theorem wholeFrames_append (a b : List Call) : wholeFrames (a ++ b) = wholeFrames a + wholeFrames b := by
  simp [wholeFrames]

/-- what was taken beside whole frames, by the failures of the receives that took none: at most one failed so, for it
closed the client -/
inductive Unfinished (received coming : Bytes) : List LinkError → Nat → Prop
  | none : Unfinished received coming [] 0
  | tooLarge (size limit : Nat) : Unfinished received coming [.frameTooLarge size limit] Frame.headerSize
  | header (expected n : Nat) (all : received = coming) :
    Unfinished received coming [.connectionLost .header expected n] n
  | payload (expected n : Nat) (all : received = coming) :
    Unfinished received coming [.connectionLost .payload expected n] (Frame.headerSize + n)
  | failed (cause : IoError) (n : Nat) (all : received = coming) :
    Unfinished received coming [.transport "read" cause] n

theorem Unfinished.after {received coming : Bytes} {cuts : List LinkError} {n : Nat}
    (h : Unfinished received coming cuts n) (front : Bytes) :
    Unfinished (front ++ received) (front ++ coming) cuts n := by
  cases h with
  | none => exact .none
  | tooLarge size limit => exact .tooLarge size limit
  | header expected n all => exact .header expected n (by rw [all])
  | payload expected n all => exact .payload expected n (by rw [all])
  | failed cause n all => exact .failed cause n (by rw [all])

/-- what calls took from the stream: whole frames as long as the client is open, and then at most a part of one -/
inductive Drawn : Client → List Call → Bytes → Client → Prop
  | going {calls : List Call} {received : Bytes} {before now : Link} (limit : UInt32)
    (whole : received.length = wholeFrames calls) (uncut : calls.filterMap Call.cut? = [])
    (left : before.inflow.coming = now.inflow.coming.after received) :
    Drawn ⟨limit, some before⟩ calls received ⟨limit, some now⟩
  | ended {calls : List Call} {received : Bytes} {before : Link} (limit : UInt32) (rest : Nat)
    (length : received.length = wholeFrames calls + rest)
    (unfinished : Unfinished received before.inflow.coming.bytes (calls.filterMap Call.cut?) rest)
    (front : received <+: before.inflow.coming.bytes) : Drawn ⟨limit, some before⟩ calls received ⟨limit, none⟩
  | closed {calls : List Call} (limit : UInt32) (whole : wholeFrames calls = 0)
    (uncut : calls.filterMap Call.cut? = []) : Drawn ⟨limit, none⟩ calls [] ⟨limit, none⟩

variable {mid now : Client} {a b : List Call} {received more : Bytes}

theorem Drawn.append (h : Drawn client a received mid) (h' : Drawn mid b more now) :
    Drawn client (a ++ b) (received ++ more) now := by
  cases h with
  | going limit whole uncut left =>
    have hbytes := congrArg Coming.bytes left
    cases h' with
    | going _ whole' uncut' left' =>
      refine .going limit ?_ ?_ ?_
      · rw [List.length_append, whole, whole', wholeFrames_append]
      · rw [List.filterMap_append, uncut, uncut', List.append_nil]
      · rw [left, left']
        simp [Coming.after]
    | ended _ rest length unfinished front =>
      refine .ended limit rest ?_ ?_ ?_
      · rw [List.length_append, whole, length, wholeFrames_append, Nat.add_assoc]
      · rw [List.filterMap_append, uncut, hbytes]
        exact unfinished.after received
      · rw [hbytes]
        exact (List.prefix_append_right_inj received).2 front
  | ended limit rest length unfinished front =>
    cases h' with
    | closed _ whole uncut =>
      refine .ended limit rest ?_ ?_ ?_
      · rw [List.append_nil, length, wholeFrames_append, whole, Nat.add_zero]
      · rwa [List.append_nil, List.filterMap_append, uncut, List.append_nil]
      · rwa [List.append_nil]
  | closed limit whole uncut =>
    cases h' with
    | closed _ whole' uncut' =>
      refine .closed limit ?_ ?_
      · rw [wholeFrames_append, whole, whole']
      · rw [List.filterMap_append, uncut, uncut', List.append_nil]

/-- one for a link that is held -/
def held (client : Client) : Nat := if client.isClosed then 0 else 1

/-- a part of a life agrees with its books -/
structure Accounted (before : Client) (calls : List Call) (trace : Trace) (now : Client) : Prop where
  entries : trace.entries = calls.flatMap Call.entries
  closes : Trace.total .close trace + held now = held before
  interruptions : Trace.total .readInterrupted trace = trace.interruptions
  drawn : Drawn before calls (Trace.received trace) now

theorem Accounted.append {s t : Trace} (h : Accounted client a s mid) (h' : Accounted mid b t now) :
    Accounted client (a ++ b) (s ++ t) now where
  entries := by rw [Trace.entries_append, h.entries, h'.entries, List.flatMap_append]
  closes := by
    have := h.closes
    have := h'.closes
    rw [Trace.total_append]
    omega
  interruptions := by rw [Trace.total_append, Trace.interruptions_append, h.interruptions, h'.interruptions]
  drawn := by
    rw [Trace.received_append]
    exact h.drawn.append h'.drawn

theorem Accounted.nothing (client : Client) : Accounted client [] [] client where
  entries := rfl
  closes := Nat.zero_add _
  interruptions := rfl
  drawn := by
    obtain ⟨limit, _ | link⟩ := client
    · exact .closed limit rfl rfl
    · exact .going limit rfl rfl rfl

theorem entries_parting (e : LinkError) : (parting e).entries = [] := rfl

theorem entries_sending (line : String) : (sending line).entries = sending line := rfl

/-! ## Sending -/

/-- what a client does once it has delivered a line, or failed to -/
def sendingEnd (line : String) : Except LinkError Unit → Trace
  | .ok _ => sending line
  | .error e => parting e

theorem send_delivered {answer : Except LinkError Unit} {later : Outflow} {trace : Trace} {line : String}
    (h : Outflow.deliver (Utf8.encode line) outflow = ⟨answer, later, trace⟩) (limit : UInt32) (inflow : Inflow) :
    send line ⟨limit, some ⟨inflow, outflow⟩⟩ =
      ⟨answer, kept limit ⟨inflow, later⟩ answer, trace ++ sendingEnd line answer⟩ := by
  cases answer with
  | error e => exact Act.run_bind_error (onLink_error (sending_eq h inflow) limit)
  | ok _ => exact Act.run_bind_ok (onLink_ok (sending_eq h inflow) limit)

/-- a call to a closed client enters its refusal -/
theorem accounted_refused (limit : UInt32) {call : Call} (hentries : call.entries = [.counted .closedError 1])
    (hpayload : call.payload? = none) (hcut : call.cut? = none) :
    Accounted ⟨limit, none⟩ [call] [.counted .closedError 1] ⟨limit, none⟩ where
  entries := by simp [hentries, Trace.entries, Event.isEntry]
  closes := rfl
  interruptions := rfl
  drawn := .closed limit (by simp [wholeFrames, hpayload]) (by simp [hcut])

/-- what sending leaves agrees with its books: nothing is taken from the stream -/
theorem accounted_send (line : String) (client : Client) :
    Accounted client [.sent line (send line client).answer] (send line client).trace (send line client).state := by
  obtain ⟨limit, _ | ⟨inflow, outflow⟩⟩ := client
  · exact accounted_refused limit rfl rfl rfl
  · have hbooked := Outflow.booked_deliver (Utf8.encode line) outflow
    have hreceived := (Outflow.only_deliver (Utf8.encode line) outflow).received_eq_nil (by decide)
    rcases hrun : Outflow.deliver (Utf8.encode line) outflow with ⟨answer, later, trace⟩
    rw [hrun] at hbooked hreceived
    rw [send_delivered hrun]
    have hnone : Trace.received (trace ++ sendingEnd line answer) = [] := by
      cases answer <;> simp [hreceived, sendingEnd, parting, sending, Event.received]
    refine ⟨?_, ?_, ?_, ?_⟩
    · cases answer <;> simp [hbooked.entries, sendingEnd, entries_parting, entries_sending, Call.entries, blame]
    · cases answer <;> simp [hbooked.closes, sendingEnd, parting, sending, Event.adds, kept, held, isClosed]
    · cases answer <;>
        simp [hbooked.interruptions, sendingEnd, parting, sending, Event.adds, Trace.interruptions, Event.isInterrupted]
    · rw [hnone]
      cases answer with
      | error e => exact .ended limit 0 rfl .none List.nil_prefix
      | ok _ => exact .going limit rfl rfl rfl

/-! ## Receiving -/

/-- a payload that arrived whole is noted as such, whether it is a text or not -/
theorem call_verdict (payload : Bytes) :
    let call := Call.received (verdict (.ok payload))
    call.payload? = some payload ∧ call.cut? = none ∧
      call.entries = arrival payload ++ blame (verdict (.ok payload)) := by
  cases hdecode : Utf8.decode payload with
  | ok text =>
    obtain rfl := Utf8.encode_of_decode hdecode
    simp [verdict_encode, Call.payload?, Call.cut?, Call.entries, blame]
  | error fault => simp [verdict, hdecode, Call.payload?, Call.cut?, Call.entries, blame]

/-- a failure to read a frame is entered as itself, and taken for what it is -/
theorem call_cutShort (ending : Option IoError) (phase : Phase) (expected n : Nat) :
    let e := Frame.cutShort ending phase expected n
    let call := Call.received (.error e)
    call.payload? = none ∧ call.cut? = some e ∧ call.entries = blame (.error e : Except LinkError String) := by
  cases ending <;> exact ⟨rfl, rfl, rfl⟩

/-- a stream that ends inside a frame is taken to its end, and its failure tells how much there was of the frame -/
theorem unfinished_cutShort (ending : Option IoError) (phase : Phase) (expected n : Nat) (coming : Bytes) :
    Unfinished coming coming [Frame.cutShort ending phase expected n]
      (match phase with
        | .header => n
        | .payload => Frame.headerSize + n) := by
  cases ending with
  | none =>
    cases phase with
    | header => exact .header expected n rfl
    | payload => exact .payload expected n rfl
  | some cause => exact .failed cause _ rfl

variable {answer : Except LinkError Bytes} {later : Inflow} {trace : Trace}

/-- a frame that arrived whole is taken whole, whether its payload is a text or not -/
theorem drawn_whole {payload : Bytes} (h : Frame.read limit.toNat inflow = ⟨.ok payload, later, trace⟩)
    (outflow : Outflow) :
    Drawn ⟨limit, some ⟨inflow, outflow⟩⟩ [.received (verdict (.ok payload))] (Trace.received trace)
      (kept limit ⟨later, outflow⟩ (verdict (.ok payload))) := by
  obtain ⟨hframe, hcoming⟩ := Frame.encode_of_read h
  obtain ⟨hpayload, hcut, -⟩ := call_verdict payload
  have hwhole : (Trace.received trace).length = wholeFrames [.received (verdict (.ok payload))] := by
    rw [(Frame.encode_eq_ok_iff.1 hframe).2, List.length_append, Frame.length_header]
    simp [wholeFrames, hpayload]
  have huncut : [Call.received (verdict (.ok payload))].filterMap Call.cut? = [] := by
    rw [List.filterMap_cons, hcut, List.filterMap_nil]
  cases hverdict : verdict (.ok payload) with
  | ok text =>
    rw [hverdict] at hwhole huncut
    exact .going limit hwhole huncut hcoming
  | error e =>
    rw [hverdict] at hwhole huncut
    refine .ended limit 0 hwhole (by rw [huncut]; exact .none) ?_
    exact ⟨later.coming.bytes, (congrArg Coming.bytes hcoming).symm⟩

/-- **What a receive takes is told by its answer.** -/
theorem drawn_receive (h : Frame.read limit.toNat inflow = ⟨answer, later, trace⟩) (outflow : Outflow) :
    Drawn ⟨limit, some ⟨inflow, outflow⟩⟩ [.received (verdict answer)] (Trace.received trace)
      (kept limit ⟨later, outflow⟩ (verdict answer)) := by
  obtain ⟨-, hshort, hlarge, hwhole, hcut⟩ := Frame.read_eq_decode limit.toNat inflow
  have hpart := (Frame.consumes_read limit.toNat inflow).received
  rw [h] at hshort hlarge hwhole hcut hpart
  have hfront : Trace.received trace <+: inflow.coming.bytes := hpart ▸ List.take_prefix _ _
  -- a stream that ends inside a frame is taken to its end
  have hended : ∀ phase expected n, Trace.received trace = inflow.coming.bytes →
      answer = .error (Frame.cutShort inflow.coming.ending phase expected n) →
      inflow.coming.bytes.length = (match phase with | .header => n | .payload => Frame.headerSize + n) →
      Drawn ⟨limit, some ⟨inflow, outflow⟩⟩ [.received (verdict answer)] (Trace.received trace)
        (kept limit ⟨later, outflow⟩ (verdict answer)) := by
    rintro phase expected n hreceived rfl hlength
    obtain ⟨hpayload, hcall, -⟩ := call_cutShort inflow.coming.ending phase expected n
    refine .ended limit inflow.coming.bytes.length ?_ ?_ hfront
    · simp [wholeFrames, verdict, hpayload, hreceived]
    · rw [verdict, List.filterMap_cons, hcall, hreceived, hlength]
      exact unfinished_cutShort inflow.coming.ending phase expected n _
  by_cases hlong : Frame.headerSize ≤ inflow.coming.bytes.length
  · by_cases hlimit : limit.toNat < Frame.declared (inflow.coming.bytes.take Frame.headerSize)
    · obtain ⟨rfl, hreceived, -⟩ := hlarge hlong hlimit
      refine .ended limit Frame.headerSize ?_ (.tooLarge _ _) hfront
      rw [hreceived, List.length_take_of_le hlong]
      exact (Nat.zero_add _).symm
    · have hfits := Nat.not_lt.1 hlimit
      rcases Nat.lt_or_ge inflow.coming.bytes.length
        (Frame.headerSize + Frame.declared (inflow.coming.bytes.take Frame.headerSize)) with hless | hmore
      · obtain ⟨hanswer, hreceived⟩ := hcut hlong hfits hless
        exact hended .payload _ _ hreceived hanswer (Nat.add_sub_of_le hlong).symm
      · obtain ⟨rfl, -⟩ := hwhole hlong hfits hmore
        exact drawn_whole h outflow
  · obtain ⟨hanswer, hreceived⟩ := hshort (Nat.not_le.1 hlong)
    exact hended .header _ _ hreceived hanswer rfl

/-- what a client enters once it has read a payload, or failed to -/
theorem books_afterword (answer : Except LinkError Bytes) (limit : UInt32) (link : Link) :
    (afterword answer).entries =
        (match answer with | .ok payload => arrival payload ++ blame (verdict answer) | .error _ => []) ∧
      Trace.total .close (afterword answer) + held (kept limit link (verdict answer)) = 1 ∧
      Trace.total .readInterrupted (afterword answer) = 0 ∧ (afterword answer).interruptions = 0 := by
  cases answer with
  | error e => exact ⟨rfl, rfl, rfl, rfl⟩
  | ok payload =>
    cases hdecode : Utf8.decode payload with
    | ok text =>
      simp only [afterword, verdict, hdecode]
      exact ⟨rfl, rfl, rfl, rfl⟩
    | error fault =>
      simp only [afterword, verdict, hdecode]
      exact ⟨rfl, rfl, rfl, rfl⟩

/-- a receive enters its arrival, if a whole frame arrived, and its failure, if it failed -/
theorem entries_received {front : Frame.Front} (h : Frame.Reading limit.toNat front answer) (link : Link) :
    blame answer ++ (afterword answer).entries = (Call.received (verdict answer)).entries := by
  rw [(books_afterword answer limit link).1]
  cases h with
  | whole payload => exact (call_verdict payload).2.2.symm
  | oversized size => rfl
  | cut ending phase expected n => exact (List.append_nil _).trans (call_cutShort ending phase expected n).2.2.symm

/-- what receiving leaves agrees with its books -/
theorem accounted_receive (client : Client) :
    Accounted client [.received (receive client).answer] (receive client).trace (receive client).state := by
  obtain ⟨limit, _ | ⟨inflow, outflow⟩⟩ := client
  · exact accounted_refused limit rfl rfl rfl
  · have hbooked := Frame.booked_read limit.toNat inflow
    have hreading := Frame.decode_front limit.toNat inflow.coming
    rw [← Frame.answer_read] at hreading
    rcases hrun : Frame.read limit.toNat inflow with ⟨answer, later, trace⟩
    rw [hrun] at hbooked hreading
    obtain ⟨-, hcloses, hcounted, hmet⟩ := books_afterword answer limit ⟨later, outflow⟩
    rw [receive_open hrun]
    refine ⟨?_, ?_, ?_, ?_⟩
    · rw [Trace.entries_append, hbooked.entries, entries_received hreading ⟨later, outflow⟩]
      simp
    · rw [Trace.total_append, hbooked.closes, Nat.zero_add]
      exact hcloses
    · rw [Trace.total_append, Trace.interruptions_append, hcounted, hmet, hbooked.interruptions]
    · rw [Trace.received_append, (quiet_afterword answer).1.received_eq_nil, List.append_nil]
      exact drawn_receive hrun outflow

/-! ## Requests -/

/-- an invoke that sends its line receives next, and one that does not is over -/
theorem accounted_invoke (line : String) (client : Client) :
    Accounted client (calls client (.invoke line)) (invoke line client).trace (invoke line client).state := by
  have hsend := accounted_send line client
  rcases hrun : send line client with ⟨e | _, mid, trace⟩
  · rw [hrun] at hsend
    rw [invoke_failed hrun, calls, hrun]
    exact hsend
  · rw [hrun] at hsend
    rw [invoke_sent hrun, calls, hrun]
    exact hsend.append (accounted_receive mid)

theorem accounted_close (client : Client) :
    Accounted client [] (close client : Run Client ε Unit).trace (close client : Run Client ε Unit).state := by
  obtain ⟨limit, _ | link⟩ := client
  · exact .nothing _
  · exact ⟨rfl, rfl, rfl, .ended limit 0 rfl .none List.nil_prefix⟩

theorem state_close (client : Client) : (close client : Run Client ε Unit).state = ⟨client.limit, none⟩ := by
  obtain ⟨limit, _ | link⟩ := client <;> rfl

/-- **Each request agrees with its books.** -/
theorem accounted_perform (request : Request) (client : Client) :
    Accounted client (calls client request) (perform request client).trace (perform request client).state := by
  cases request with
  | send line =>
    rw [perform, Act.run_bind_pure]
    exact accounted_send line client
  | receive =>
    rw [perform, Act.run_bind_pure]
    exact accounted_receive client
  | invoke line =>
    rw [perform, Act.run_bind_pure]
    exact accounted_invoke line client
  | close =>
    rw [perform, Act.run_bind_pure]
    exact accounted_close client

/-- **A life agrees with its books.** -/
theorem accounted_life (requests : List Request) (client : Client) :
    let runs := Act.inTurn (requests.map perform) client
    Accounted client (callsInTurn requests client) (Run.wholeTrace runs) (Run.lastState client runs) := by
  induction requests generalizing client with
  | nil => exact .nothing client
  | cons request later ih => exact (accounted_perform request client).append (ih (perform request client).state)

/-- a life is over with the drop of the client -/
theorem accounted_over (requests : List Request) (client : Client) :
    let runs := Act.inTurn (requests.map perform) client
    let drop : Run Client LinkError Unit := close (Run.lastState client runs)
    Accounted client (callsInTurn requests client) (Run.wholeTrace runs ++ drop.trace)
      ⟨(Run.lastState client runs).limit, none⟩ := by
  intro runs drop
  have hlife := (accounted_life requests client).append (accounted_close (ε := LinkError) (Run.lastState client runs))
  rwa [List.append_nil, state_close] at hlife

/-! ## Failures -/

/-- what the calls of a request failed with is what the request is answered with -/
theorem failures_perform (request : Request) (client : Client) :
    (calls client request).filterMap Call.failure? = failures [perform request client] := by
  cases request with
  | send line =>
    rw [perform, Act.run_bind_pure, calls]
    cases (send line client).answer <;> rfl
  | receive =>
    rw [perform, Act.run_bind_pure, calls]
    cases (receive client).answer <;> rfl
  | invoke line =>
    rw [perform, Act.run_bind_pure, calls]
    rcases hrun : send line client with ⟨e | _, mid, trace⟩
    · rw [invoke_failed hrun]
      rfl
    · rw [invoke_sent hrun]
      show [Call.sent line (.ok ()), Call.received (receive mid).answer].filterMap Call.failure? =
        failures [⟨(receive mid).answer.map some, _, _⟩]
      cases (receive mid).answer <;> rfl
  | close =>
    rw [perform, Act.run_bind_pure, calls]
    obtain ⟨limit, _ | link⟩ := client <;> rfl

theorem failures_life (requests : List Request) (client : Client) :
    (callsInTurn requests client).filterMap Call.failure? = failures (Act.inTurn (requests.map perform) client) := by
  induction requests generalizing client with
  | nil => rfl
  | cons request later ih =>
    rw [callsInTurn, List.filterMap_append, failures_perform, ih, List.map_cons, Act.inTurn]
    exact (List.filterMap_append ..).symm

/-! ## Totals -/

/-- what is measured in the entries of calls may be taken from a view of them, if it may so for each call -/
theorem measure_entries {α : Type} {measure : Trace → Nat} (view : Call → Option α) (weight : α → Nat)
    (nil : measure [] = 0) (append : ∀ a b, measure (a ++ b) = measure a + measure b)
    (each : ∀ call : Call, measure call.entries = ((view call).map weight).getD 0) (calls : List Call) :
    measure (calls.flatMap Call.entries) = ((calls.filterMap view).map weight).sum := by
  induction calls with
  | nil => exact nil
  | cons call later ih =>
    rw [List.flatMap_cons, append, ih, each]
    cases hview : view call <;> simp [hview]

/-- a line that was sent is one request, with its bytes -/
theorem requests_entries (call : Call) :
    Trace.total .requestsSent call.entries = (call.line?.map fun _ => 1).getD 0 ∧
      Trace.total .requestBytes call.entries = (call.line?.map List.length).getD 0 := by
  rcases call with ⟨line, ⟨⟨⟩⟩ | _⟩ | ⟨⟨⟨⟩⟩ | text⟩ <;>
    simp [Call.entries, Call.line?, sending, arrival, blame, Event.adds, LinkError.counter]

/-- a frame that arrived whole is one response and one sample, with the bytes of its payload -/
theorem responses_entries (call : Call) :
    Trace.total .responsesReceived call.entries = (call.payload?.map fun _ => 1).getD 0 ∧
      Trace.samples .receiveLatency call.entries = (call.payload?.map fun _ => 1).getD 0 ∧
      Trace.total .responseBytes call.entries = (call.payload?.map List.length).getD 0 := by
  rcases call with ⟨line, ⟨⟨⟩⟩ | _⟩ | ⟨⟨⟨⟩⟩ | text⟩ <;>
    simp [Call.entries, Call.payload?, sending, arrival, blame, Event.adds, LinkError.counter, Trace.samples,
      Event.isSample]

/-- a failure is counted under its own name, and no frame is written -/
theorem failures_entries (call : Call) :
    (∀ e : LinkError, Trace.total e.counter call.entries =
        (call.failure?.map fun e' => if e'.counter = e.counter then 1 else 0).getD 0) ∧
      Trace.total .framesWritten call.entries = 0 := by
  refine ⟨fun e => ?_, ?_⟩
  · cases e <;> rcases call with ⟨line, ⟨⟨⟩⟩ | _⟩ | ⟨⟨⟨⟩⟩ | text⟩ <;>
      simp [Call.entries, Call.failure?, sending, arrival, blame, Event.adds, LinkError.counter]
  · rcases call with ⟨line, ⟨⟨⟩⟩ | _⟩ | ⟨⟨⟨⟩⟩ | text⟩ <;>
      simp [Call.entries, sending, arrival, blame, Event.adds, LinkError.counter]

namespace Accounted

variable {calls : List Call} {trace : Trace}

/-- all totals but two are those of a view of the calls -/
theorem total {α : Type} (h : Accounted client calls trace now) {counter : Counter} (hclose : counter ≠ .close)
    (hinterrupted : counter ≠ .readInterrupted) (view : Call → Option α) (weight : α → Nat)
    (each : ∀ call : Call, Trace.total counter call.entries = ((view call).map weight).getD 0) :
    Trace.total counter trace = ((calls.filterMap view).map weight).sum := by
  calc Trace.total counter trace
      = Trace.total counter trace.entries := (Trace.total_entries hclose hinterrupted trace).symm
    _ = Trace.total counter (calls.flatMap Call.entries) := by rw [h.entries]
    _ = ((calls.filterMap view).map weight).sum :=
      measure_entries view weight rfl (Trace.total_append counter) each calls

theorem requests (h : Accounted client calls trace now) :
    Trace.total .requestsSent trace = (calls.filterMap Call.line?).length ∧
      Trace.total .requestBytes trace = ((calls.filterMap Call.line?).map List.length).sum := by
  refine ⟨?_, ?_⟩
  · rw [h.total (by decide) (by decide) Call.line? _ fun call => (requests_entries call).1]
    simp
  · exact h.total (by decide) (by decide) _ _ fun call => (requests_entries call).2

theorem responses (h : Accounted client calls trace now) :
    Trace.total .responsesReceived trace = (calls.filterMap Call.payload?).length ∧
      Trace.samples .receiveLatency trace = (calls.filterMap Call.payload?).length ∧
      Trace.total .responseBytes trace = ((calls.filterMap Call.payload?).map List.length).sum := by
  refine ⟨?_, ?_, ?_⟩
  · rw [h.total (by decide) (by decide) Call.payload? _ fun call => (responses_entries call).1]
    simp
  · rw [← Trace.samples_entries, h.entries, measure_entries Call.payload? _ rfl (Trace.samples_append _)
      fun call => (responses_entries call).2.1]
    simp
  · exact h.total (by decide) (by decide) _ _ fun call => (responses_entries call).2.2

theorem written (h : Accounted client calls trace now) : Trace.total .framesWritten trace = 0 := by
  rw [h.total (α := Unit) (by decide) (by decide) (fun _ => none) (fun _ => 0) fun call => (failures_entries call).2]
  simp

theorem failed (h : Accounted client calls trace now) (e : LinkError) :
    Trace.total e.counter trace = (calls.filterMap Call.failure?).countP (·.counter = e.counter) := by
  obtain ⟨hclose, hinterrupted⟩ : e.counter ≠ .close ∧ e.counter ≠ .readInterrupted := by
    cases e <;> simp [LinkError.counter]
  rw [h.total hclose hinterrupted Call.failure? _ fun call => (failures_entries call).1 e]
  induction calls.filterMap Call.failure? with
  | nil => rfl
  | cons e' later ih => simp [List.countP_cons, ih, Nat.add_comm]

/-- a life that is over has read whole frames, and what there was of one more -/
theorem read {limit' : UInt32} (h : Accounted ⟨limit, some link⟩ calls trace ⟨limit', none⟩) :
    Trace.received trace <+: link.inflow.coming.bytes ∧
      ∃ rest, (Trace.received trace).length =
          Frame.headerSize * Trace.total .responsesReceived trace + Trace.total .responseBytes trace + rest ∧
        Unfinished (Trace.received trace) link.inflow.coming.bytes (calls.filterMap Call.cut?) rest := by
  obtain ⟨hresponses, -, hbytes⟩ := h.responses
  cases h.drawn with
  | ended _ rest length unfinished front =>
    refine ⟨front, rest, ?_, unfinished⟩
    rw [length, hresponses, hbytes, wholeFrames, List.sum_map_add, List.map_const', List.sum_replicate, smul_eq_mul,
      Nat.mul_comm]

end Accounted

/-- **The books of a life.** Requests to a new client over any stream, and then its drop. Let `calls` be what they do to
the stream. Then the totals are these:
- one request for each line that was sent, also within an invoke, with the bytes of all of them;
- one response and one sample for each frame that arrived whole, with the bytes of the payloads;
- what was read is the front of what comes: a header for each response, the bytes of the responses, and what there was
  of one frame that was not taken whole (`Unfinished`);
- one interruption for each read that was interrupted, no frame written, and one close;
- one failure of each kind for each request that was answered with a failure of this kind. -/
theorem life_accounts (limit : UInt32) (link : Link) (requests : List Request) :
    let client : Client := ⟨limit, some link⟩
    let runs := Act.inTurn (requests.map perform) client
    let drop : Run Client LinkError Unit := close (Run.lastState client runs)
    let trace := Run.wholeTrace runs ++ drop.trace
    let calls := callsInTurn requests client
    let lines := calls.filterMap Call.line?
    let payloads := calls.filterMap Call.payload?
    (Trace.total .requestsSent trace = lines.length ∧
      Trace.total .requestBytes trace = (lines.map List.length).sum) ∧
    (Trace.total .responsesReceived trace = payloads.length ∧
      Trace.samples .receiveLatency trace = payloads.length ∧
      Trace.total .responseBytes trace = (payloads.map List.length).sum) ∧
    (Trace.received trace <+: link.inflow.coming.bytes ∧
      ∃ rest, (Trace.received trace).length =
          Frame.headerSize * Trace.total .responsesReceived trace + Trace.total .responseBytes trace + rest ∧
        Unfinished (Trace.received trace) link.inflow.coming.bytes (calls.filterMap Call.cut?) rest) ∧
    Trace.total .readInterrupted trace = trace.interruptions ∧ Trace.total .framesWritten trace = 0 ∧
    Trace.total .close trace = 1 ∧
    ∀ e : LinkError, Trace.total e.counter trace = (failures runs).countP (·.counter = e.counter) := by
  intro client runs drop trace calls lines payloads
  have hbooks := accounted_over requests client
  refine ⟨hbooks.requests, hbooks.responses, hbooks.read, hbooks.interruptions, hbooks.written, hbooks.closes,
    fun e => ?_⟩
  rw [hbooks.failed e, failures_life]

end Client

end QueryConsole
