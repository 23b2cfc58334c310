import QueryConsole.Proofs.Client.Exchange

/-
The life of a client: open until it is closed or something fails, and closed from then on.

A life is any sequence of requests to one client over any link (`Act.inTurn` of `perform`), going on after failures.
While the client is open its link stands between two frames: it has taken the lines of all requests so far, and handed
over the frames of all texts that were answered. `perform_cases` says what one request can do to an open client; the run
lemmas carry it along a life.

Results:
- `life_cases`: what a life leaves of the link.
- `inTurn_closed`: a life after the end.
- `failed_send`, `Between.failed_send`: how far a send that fails has come, and what is on the link then.
- `client_life`: all of it, in every reachable state.
-/

namespace QueryConsole

namespace Client

/-- the bytes that a request is to send -/
def Request.bytes : Request → Bytes
  | .send line | .invoke line => Utf8.encode line
  | .receive | .close => []

/-- the texts that some requests were answered with -/
def texts (runs : List (Run Client LinkError (Option String))) : List String :=
  runs.filterMap fun r => r.answer.toOption.join

variable {limit : UInt32} {inflow : Inflow} {outflow : Outflow} {request : Request}

/-! ## One request -/

/-- the frame that an answer was made from; none for an answer without text -/
def FrameOf (answer : Option String) (frame : Bytes) : Prop :=
  match answer with
  | some text => Frame.encode (Utf8.encode text) = .ok frame
  | none => frame = []

/-- **What a request can do to an open client.** It is answered, with its line sent and the frame of its answer taken,
and the client is still open; or it is `close` or fails, and the client is closed. -/
theorem perform_cases (request : Request) (limit : UInt32) (inflow : Inflow) (outflow : Outflow) :
    (∃ answer inflow' outflow' trace,
      perform request ⟨limit, some ⟨inflow, outflow⟩⟩ = ⟨.ok answer, ⟨limit, some ⟨inflow', outflow'⟩⟩, trace⟩ ∧
      request ≠ .close ∧ Trace.taken .link trace = request.bytes ∧ FrameOf answer (Trace.received trace) ∧
      inflow.coming = inflow'.coming.after (Trace.received trace)) ∨
    (∃ answer trace, perform request ⟨limit, some ⟨inflow, outflow⟩⟩ = ⟨answer, ⟨limit, none⟩, trace⟩ ∧
      (request = .close ∨ ∃ e, answer = .error e)) := by
  cases request with
  | send line =>
    obtain ⟨outflow', trace, hread, h⟩ := send_cases line limit inflow outflow
    rcases h with ⟨cause, hrun, -⟩ | ⟨cause, hrun, -⟩ | ⟨hrun, htaken⟩
    · exact .inr ⟨_, trace, Act.run_bind_error hrun, .inr ⟨_, rfl⟩⟩
    · exact .inr ⟨_, trace, Act.run_bind_error hrun, .inr ⟨_, rfl⟩⟩
    · refine .inl ⟨none, inflow, outflow', trace, ?_, by simp, htaken, hread.received_eq_nil, ?_⟩
      · rw [perform, Act.run_bind_ok hrun]
        simp [Run.after]
      · simp [hread.received_eq_nil, Coming.after]
  | receive =>
    obtain ⟨trace, htaken, h⟩ := receive_cases limit inflow outflow
    rcases h with ⟨e, hrun⟩ | ⟨text, later, hrun, hframe, hcoming⟩
    · exact .inr ⟨_, trace, Act.run_bind_error hrun, .inr ⟨_, rfl⟩⟩
    · refine .inl ⟨some text, later, outflow, trace, ?_, by simp, htaken, hframe, hcoming⟩
      rw [perform, Act.run_bind_ok hrun]
      simp [Run.after]
  | invoke line =>
    obtain ⟨outflow', sent, hread, h⟩ := send_cases line limit inflow outflow
    rcases h with ⟨cause, hrun, -⟩ | ⟨cause, hrun, -⟩ | ⟨hrun, hsent⟩
    · exact .inr ⟨_, sent, Act.run_bind_error (invoke_failed hrun), .inr ⟨_, rfl⟩⟩
    · exact .inr ⟨_, sent, Act.run_bind_error (invoke_failed hrun), .inr ⟨_, rfl⟩⟩
    · obtain ⟨trace, htaken, h⟩ := receive_cases limit inflow outflow'
      have hinvoke := invoke_sent hrun
      rcases h with ⟨e, hrun'⟩ | ⟨text, later, hrun', hframe, hcoming⟩
      · rw [hrun'] at hinvoke
        exact .inr ⟨_, sent ++ trace, Act.run_bind_error hinvoke, .inr ⟨_, rfl⟩⟩
      · rw [hrun'] at hinvoke
        have hreceived : Trace.received (sent ++ trace) = Trace.received trace := by simp [hread.received_eq_nil]
        refine .inl ⟨some text, later, outflow', sent ++ trace, ?_, by simp, by simp [hsent, htaken, Request.bytes], ?_⟩
        · rw [perform, Act.run_bind_ok hinvoke]
          simp [Run.after]
        · rw [hreceived]
          exact ⟨hframe, hcoming⟩
  | close => exact .inr ⟨_, _, rfl, .inl rfl⟩

/-- a request that fails closes the client -/
theorem perform_error {link : Link} {e : LinkError} (h : (perform request ⟨limit, some link⟩).answer = .error e) :
    (perform request ⟨limit, some link⟩).state = ⟨limit, none⟩ := by
  rcases perform_cases request limit link.inflow link.outflow with
    ⟨answer, inflow', outflow', trace, hrun, -⟩ | ⟨answer, trace, hrun, -⟩
  · rw [hrun] at h
    cases h
  · rw [hrun]

/-! ## Lives -/

/-- a life after the end: every request but `close` is refused, and nothing else happens -/
theorem inTurn_closed (limit : UInt32) (requests : List Request) :
    Act.inTurn (requests.map perform) ⟨limit, none⟩ =
      requests.map fun request =>
        if request = .close then ⟨.ok none, ⟨limit, none⟩, []⟩
        else ⟨.error .closed, ⟨limit, none⟩, [.counted .closedError 1]⟩ := by
  induction requests with
  | nil => rfl
  | cons request later ih =>
    rw [List.map_cons, Act.inTurn, List.map_cons]
    by_cases hclose : request = .close
    · subst hclose
      rw [if_pos rfl]
      exact congrArg _ ih
    · rw [perform_closed hclose, if_neg hclose, ih]

theorem lastState_closed (limit : UInt32) (requests : List Request) :
    Run.lastState ⟨limit, none⟩ (Act.inTurn (requests.map perform) ⟨limit, none⟩) = ⟨limit, none⟩ := by
  induction requests with
  | nil => rfl
  | cons request later ih =>
    rw [List.map_cons, Act.inTurn, Run.lastState]
    by_cases hclose : request = .close
    · subst hclose
      exact ih
    · rw [perform_closed hclose]
      exact ih

/-- the link stands between two frames: it has taken the lines of all requests, and handed over the frames of all texts
that were answered, from the front of what came -/
structure Between (before now : Link) (requests : List Request)
    (runs : List (Run Client LinkError (Option String))) : Prop where
  sent : Trace.taken .link (Run.wholeTrace runs) = requests.flatMap Request.bytes
  received : ∃ frames : List Bytes,
    (texts runs).map (fun text => Frame.encode (Utf8.encode text)) = frames.map Except.ok ∧
      Trace.received (Run.wholeTrace runs) = frames.flatten ∧
      before.inflow.coming = now.inflow.coming.after frames.flatten

/-- a request that is answered puts its line and its frame before those of the later requests -/
theorem Between.cons {before mid now : Link} {requests : List Request}
    {runs : List (Run Client LinkError (Option String))} {answer : Option String} {client : Client} {trace : Trace}
    {frame : Bytes} (h : Between mid now requests runs) (htaken : Trace.taken .link trace = request.bytes)
    (hframe : FrameOf answer frame) (hreceived : Trace.received trace = frame)
    (hcoming : before.inflow.coming = mid.inflow.coming.after frame) :
    Between before now (request :: requests) (⟨.ok answer, client, trace⟩ :: runs) := by
  obtain ⟨frames, htexts, hflat, hlater⟩ := h.received
  refine ⟨?_, ?_⟩
  · rw [Run.wholeTrace_cons, Trace.taken_append, htaken, h.sent, List.flatMap_cons]
  · cases answer with
    | none =>
      obtain rfl : frame = [] := hframe
      refine ⟨frames, by simpa [texts, Except.toOption] using htexts, ?_, ?_⟩
      · simp [hreceived, hflat]
      · simpa [Coming.after] using hcoming.trans (congrArg (Coming.after []) hlater)
    | some text =>
      have hencode : Frame.encode (Utf8.encode text) = .ok frame := hframe
      refine ⟨frame :: frames, by simpa [texts, Except.toOption, hencode] using htexts, ?_, ?_⟩
      · simp [hreceived, hflat]
      · rw [hcoming, hlater]
        simp [Coming.after]

/-- **What a life leaves.** If the client is open, no request was `close` or failed, and the link stands between two
frames. If it is closed, some request was `close` or failed. -/
theorem life_cases (limit : UInt32) (link : Link) (requests : List Request) :
    let runs := Act.inTurn (requests.map perform) ⟨limit, some link⟩
    let client := Run.lastState ⟨limit, some link⟩ runs
    (∃ now, client = ⟨limit, some now⟩ ∧ Request.close ∉ requests ∧ (∀ r ∈ runs, ∃ answer, r.answer = .ok answer) ∧
      Between link now requests runs) ∨
    (client = ⟨limit, none⟩ ∧ (Request.close ∈ requests ∨ ∃ r ∈ runs, ∃ e, r.answer = .error e)) := by
  induction requests generalizing link with
  | nil =>
    refine .inl ⟨link, rfl, by simp, by simp [Act.inTurn], rfl, [], rfl, rfl, ?_⟩
    simp [Coming.after]
  | cons request later ih =>
    obtain ⟨inflow, outflow⟩ := link
    rw [List.map_cons, Act.inTurn]
    rcases perform_cases request limit inflow outflow with
      ⟨answer, inflow', outflow', trace, hrun, hclose, htaken, hframe, hcoming⟩ | ⟨answer, trace, hrun, hend⟩
    · rw [hrun]
      rcases ih ⟨inflow', outflow'⟩ with ⟨now, hlast, hnever, hok, hbetween⟩ | ⟨hlast, hend⟩
      · refine .inl ⟨now, hlast, by simp [hnever, Ne.symm hclose], ?_, hbetween.cons htaken hframe rfl hcoming⟩
        intro r hr
        rcases List.mem_cons.1 hr with rfl | hr
        · exact ⟨answer, rfl⟩
        · exact hok r hr
      · refine .inr ⟨hlast, hend.imp (List.mem_cons_of_mem _) ?_⟩
        rintro ⟨r, hr, e, he⟩
        exact ⟨r, List.mem_cons_of_mem _ hr, e, he⟩
    · rw [hrun]
      refine .inr ⟨lastState_closed limit later, ?_⟩
      rcases hend with rfl | ⟨e, rfl⟩
      · exact .inl List.mem_cons_self
      · exact .inr ⟨_, List.mem_cons_self, e, rfl⟩

/-- **How far a failed send has come.** It read nothing, closed the client, and left on the link a strict front part of
the line if a write failed, and all of it if the flush failed. Invoking fails in the same way, and does nothing more. -/
theorem failed_send {line : String} {e : LinkError} {link : Link}
    (h : (send line ⟨limit, some link⟩).answer = .error e) :
    let r := send line ⟨limit, some link⟩
    r.trace.NoRead ∧ perform (.send line) ⟨limit, some link⟩ = ⟨.error e, ⟨limit, none⟩, r.trace⟩ ∧
      perform (.invoke line) ⟨limit, some link⟩ = ⟨.error e, ⟨limit, none⟩, r.trace⟩ ∧
      ((∃ cause, e = .transport "write" cause ∧ Trace.taken .link r.trace <+: Utf8.encode line ∧
          Trace.taken .link r.trace ≠ Utf8.encode line) ∨
        ∃ cause, e = .transport "flush" cause ∧ Trace.taken .link r.trace = Utf8.encode line) := by
  obtain ⟨inflow, outflow⟩ := link
  have hperform : ∀ {trace}, send line ⟨limit, some ⟨inflow, outflow⟩⟩ = ⟨.error e, ⟨limit, none⟩, trace⟩ →
      perform (.send line) ⟨limit, some ⟨inflow, outflow⟩⟩ = ⟨.error e, ⟨limit, none⟩, trace⟩ ∧
      perform (.invoke line) ⟨limit, some ⟨inflow, outflow⟩⟩ = ⟨.error e, ⟨limit, none⟩, trace⟩ :=
    fun hrun => ⟨Act.run_bind_error hrun, Act.run_bind_error (invoke_failed hrun)⟩
  obtain ⟨outflow', trace, hread, hcases⟩ := send_cases line limit inflow outflow
  rcases hcases with ⟨cause, hrun, htaken⟩ | ⟨cause, hrun, htaken⟩ | ⟨hrun, -⟩
  · rw [hrun] at h
    obtain rfl : .transport "write" cause = e := by simpa using h
    obtain ⟨hsend, hinvoke⟩ := hperform hrun
    rw [hrun]
    exact ⟨hread, hsend, hinvoke, .inl ⟨cause, rfl, htaken⟩⟩
  · rw [hrun] at h
    obtain rfl : .transport "flush" cause = e := by simpa using h
    obtain ⟨hsend, hinvoke⟩ := hperform hrun
    rw [hrun]
    exact ⟨hread, hsend, hinvoke, .inr ⟨cause, rfl, htaken⟩⟩
  · rw [hrun] at h
    simp at h

/-- a send that fails leaves the lines before it and a front part of its own on the link -/
theorem Between.failed_send {before now : Link} {requests : List Request}
    {runs : List (Run Client LinkError (Option String))} (hbetween : Between before now requests runs) {line : String}
    {e : LinkError} (h : (send line ⟨limit, some now⟩).answer = .error e) :
    let trace := (send line ⟨limit, some now⟩).trace
    let lines := requests.flatMap Request.bytes
    let onLink := Trace.taken .link (Run.wholeTrace runs ++ trace)
    trace.NoRead ∧ perform (.send line) ⟨limit, some now⟩ = ⟨.error e, ⟨limit, none⟩, trace⟩ ∧
      perform (.invoke line) ⟨limit, some now⟩ = ⟨.error e, ⟨limit, none⟩, trace⟩ ∧
      ((∃ cause part, e = .transport "write" cause ∧ onLink = lines ++ part ∧ part <+: Utf8.encode line ∧
          part ≠ Utf8.encode line) ∨
        ∃ cause, e = .transport "flush" cause ∧ onLink = lines ++ Utf8.encode line) := by
  intro trace lines onLink
  obtain ⟨hread, hsend, hinvoke, hleft⟩ := Client.failed_send h
  have honLink : onLink = lines ++ Trace.taken .link trace := by
    calc onLink = Trace.taken .link (Run.wholeTrace runs) ++ Trace.taken .link trace := Trace.taken_append ..
      _ = lines ++ Trace.taken .link trace := by rw [hbetween.sent]
  refine ⟨hread, hsend, hinvoke, ?_⟩
  rcases hleft with ⟨cause, rfl, hpart, hstrict⟩ | ⟨cause, rfl, hall⟩
  · exact .inl ⟨cause, _, rfl, honLink, hpart, hstrict⟩
  · exact .inr ⟨cause, rfl, honLink.trans (by rw [hall])⟩

/-- **The life of a client.** In every state that requests to a new client lead to:
- the limit is the one it was made with;
- the client is open exactly if no request was `close` and none failed;
- while it is open, its link stands between two frames; a request that fails closes it at once, and a send that fails
  leaves the lines before it and a front part of its own on the link (all of it only if the flush failed), without a
  read, also as the first half of an invoke;
- once it is closed, every later request but `close` is refused as closed, and the link is not touched again. -/
theorem client_life (limit : UInt32) (link : Link) (requests : List Request) :
    let runs := Act.inTurn (requests.map perform) ⟨limit, some link⟩
    let client := Run.lastState ⟨limit, some link⟩ runs
    let lines := requests.flatMap Request.bytes
    client.limit = limit ∧
    (client.isClosed = false ↔ Request.close ∉ requests ∧ ∀ r ∈ runs, ∃ answer, r.answer = .ok answer) ∧
    (∀ now, client.link = some now →
      Between link now requests runs ∧
      (∀ request e, (perform request client).answer = .error e → (perform request client).state = ⟨limit, none⟩) ∧
      ∀ line e, (send line client).answer = .error e →
        let trace := (send line client).trace
        let onLink := Trace.taken .link (Run.wholeTrace runs ++ trace)
        trace.NoRead ∧ perform (.send line) client = ⟨.error e, ⟨limit, none⟩, trace⟩ ∧
          perform (.invoke line) client = ⟨.error e, ⟨limit, none⟩, trace⟩ ∧
          ((∃ cause part, e = .transport "write" cause ∧ onLink = lines ++ part ∧ part <+: Utf8.encode line ∧
              part ≠ Utf8.encode line) ∨
            ∃ cause, e = .transport "flush" cause ∧ onLink = lines ++ Utf8.encode line)) ∧
    (client.isClosed = true → ∀ later : List Request,
      Act.inTurn (later.map perform) client =
        later.map fun request =>
          if request = .close then ⟨.ok none, client, []⟩
          else ⟨.error .closed, client, [.counted .closedError 1]⟩) := by
  intro runs client lines
  rcases life_cases limit link requests with ⟨now, hlast, hnever, hok, hbetween⟩ | ⟨hlast, hend⟩
  · have hclient : client = ⟨limit, some now⟩ := hlast
    clear_value client
    subst hclient
    refine ⟨rfl, ⟨fun _ => ⟨hnever, hok⟩, fun _ => rfl⟩, ?_, fun hclosed => by simp [isClosed] at hclosed⟩
    intro now' hnow
    obtain rfl : now = now' := by simpa using hnow
    exact ⟨hbetween, fun request e => perform_error, fun line e => hbetween.failed_send⟩
  · have hclient : client = ⟨limit, none⟩ := hlast
    clear_value client
    subst hclient
    refine ⟨rfl, ⟨fun hopen => by simp [isClosed] at hopen, fun ⟨hnever, hok⟩ => ?_⟩, ?_, fun _ => ?_⟩
    · rcases hend with hclose | ⟨r, hr, e, he⟩
      · exact absurd hclose hnever
      · obtain ⟨answer, hanswer⟩ := hok r hr
        simp [hanswer] at he
    · intro now hnow
      simp at hnow
    · exact inTurn_closed limit

end Client

end QueryConsole
