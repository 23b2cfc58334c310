import QueryConsole.Proofs.Session.Showing

/-
Lines that are executed one after the other, on a screen that may fail in any call.

Whoever uses a shell may go on after a line that could not be shown. The screen has no part in the exchange of a line:
what is sent, received and timed, and whether the client stays open, is told by the exchange alone
(`Executed.exchange`), and so is the same on any two screens. A line whose exchange was answered has all lines before it
answered as well, however they were shown; so its response is the next frame of the stream, and what is shown of it is
never an earlier one (`Displays`).

Results:
- `executions_alike`: executions on two screens, by induction on the lines.
- `displays_execution`: what is displayed, by induction on the lines.
- `exchanges_undisturbed`: both together.
-/

namespace QueryConsole

namespace Shell

variable {line text : String} {lines : List String} {shell shell' : Shell} {timing : Bool} {limit : UInt32}
  {link link' : Link} {past first : Trace} {r : Run Shell SessionError Unit}

/-! ## The exchange tells all but the screen -/

/-- what an exchange leaves in the trace of an execution: its own events, and its time if it was answered -/
def timed (exchange : Run Client LinkError String) : Trace :=
  exchange.trace ++
    match exchange.answer with
    | .ok _ => [.sampled .roundTrip]
    | .error _ => []

/-- **Apart from the screen, an execution is its exchange.** -/
theorem Executed.exchange (h : Executed line shell r) :
    r.trace.offScreen = timed (Client.invoke line shell.client) ∧
      r.state.client = (Client.invoke line shell.client).state ∧
      ∀ e, r.answer = .error (.client e) ↔ (Client.invoke line shell.client).answer = .error e := by
  have hexchange := Client.offScreen_invoke line shell.client
  cases h with
  | failed exchange =>
    rw [exchange] at hexchange ⊢
    have hsame : Trace.offScreen _ = _ := hexchange
    exact ⟨hsame.trans (List.append_nil _).symm, rfl, fun e => by simp⟩
  | answered exchange showed =>
    rw [exchange] at hexchange ⊢
    have hsame : Trace.offScreen _ = _ := hexchange
    refine ⟨?_, rfl, fun e => ⟨fun h => ?_, fun h => by cases h⟩⟩
    · rw [Trace.offScreen_append, Trace.offScreen_append, showed.calls, hsame, List.append_nil]
      rfl
    · obtain rfl : _ = _ := h
      cases showed

/-- an execution whose exchange fails makes no call on the screen -/
theorem Executed.unseen (h : Executed line shell r) {e : LinkError}
    (hfailed : (Client.invoke line shell.client).answer = .error e) :
    r.state.screen = shell.screen ∧ ∀ event ∈ r.trace, event.on? ≠ some .screen := by
  have hexchange := Client.offScreen_invoke line shell.client
  cases h with
  | failed exchange =>
    rw [exchange] at hexchange
    exact ⟨rfl, Trace.offScreen_eq_self_iff.1 hexchange⟩
  | answered exchange =>
    rw [exchange] at hfailed
    cases hfailed

/-- each of some executions begins in the state that those before it left -/
theorem executed_at {k : Nat} (hline : lines[k]? = some line)
    (hrun : (Act.inTurn (lines.map execute) shell)[k]? = some r) :
    Executed line (Run.lastState shell ((Act.inTurn (lines.map execute) shell).take k)) r := by
  rw [Act.getElem?_inTurn, List.getElem?_map, hline] at hrun
  obtain rfl : execute line _ = r := Option.some.inj hrun
  exact executed line _

/-- **Executions of the same lines on two screens** do the same apart from the screen, as far as one looks. -/
theorem executions_alike (lines : List String) (hclient : shell.client = shell'.client) (k : Nat) :
    let runs := Act.inTurn (lines.map execute) shell
    let runs' := Act.inTurn (lines.map execute) shell'
    (Run.wholeTrace (runs.take k)).offScreen = (Run.wholeTrace (runs'.take k)).offScreen ∧
      (Run.lastState shell (runs.take k)).client = (Run.lastState shell' (runs'.take k)).client := by
  induction lines generalizing shell shell' k with
  | nil => simpa [Act.inTurn, Run.lastState] using hclient
  | cons line later ih =>
    cases k with
    | zero => exact ⟨rfl, hclient⟩
    | succ k =>
      obtain ⟨hfirst, hstate, -⟩ := (executed line shell).exchange
      obtain ⟨hfirst', hstate', -⟩ := (executed line shell').exchange
      rw [hclient, ← hfirst'] at hfirst
      rw [hclient, ← hstate'] at hstate
      obtain ⟨hlater, hlast⟩ := ih hstate k
      simp only [List.map_cons, Act.inTurn, List.take_succ_cons, Run.wholeTrace_cons, Trace.offScreen_append, hfirst,
        hlater, true_and]
      exact hlast

/-! ## What is displayed -/

/-- on the link an execution does what its exchange does -/
theorem views_execution {seen : Trace} (calls : seen.offScreen = []) (exchange : Trace) :
    Trace.taken .link (exchange ++ [.sampled .roundTrip] ++ seen) = Trace.taken .link exchange ∧
      Trace.received (exchange ++ [.sampled .roundTrip] ++ seen) = Trace.received exchange := by
  obtain ⟨htaken, hreceived, -⟩ := Trace.views_on_screen calls
  simp [htaken, hreceived, Event.taken, Event.received]

/-- a run displays the response to the last of some lines, over the link that there was before the first: all lines were
sent, and each was answered by one frame, in order; the client is open; and what is shown is the text of the last frame,
or a front part of it if the screen failed -/
structure Displays (timing : Bool) (limit : UInt32) (link : Link) (lines : List String) (text : String) (past : Trace)
    (r : Run Shell SessionError Unit) : Prop where
  sent : Trace.taken .link past = lines.flatMap Utf8.encode
  framed : ∃ (texts : List String) (frames : List Bytes) (rest : Bytes), (texts ++ [text]).length = lines.length ∧
    (texts ++ [text]).map (fun text => Frame.encode (Utf8.encode text)) = frames.map .ok ∧
    Trace.received past = frames.flatten ∧ link.inflow.coming.bytes = frames.flatten ++ rest
  isOpen : ∃ link', r.state.client = ⟨limit, some link'⟩
  shown : ∃ elapsed, Trace.taken .screen r.trace <+: (shown timing text elapsed).flatMap lineOf ∧
    (r.answer = .ok () ∧ Trace.taken .screen r.trace = (shown timing text elapsed).flatMap lineOf ∨
      ∃ cause, r.answer = .error (.io cause))

/-- an execution that is answered displays the response to its line -/
theorem Displays.of_answered {client : Client} {trace seen : Trace} {answer : Except SessionError Unit}
    {screen : Outflow} (hclient : shell.client = ⟨limit, some link⟩)
    (exchange : Client.invoke line shell.client = ⟨.ok text, client, trace⟩)
    (showed : Showed (Shell.shown shell.timing text (shell.laps.headD 0)) answer seen) :
    Displays shell.timing limit link [line] text (trace ++ [.sampled .roundTrip] ++ seen)
      ⟨answer, { shell with client, screen, laps := shell.laps.tail }, trace ++ [.sampled .roundTrip] ++ seen⟩ := by
  obtain ⟨link₀, link', hlink, hopen, htaken, hframe, hcoming⟩ := Client.invoke_answered exchange
  obtain ⟨rfl, rfl⟩ : limit = shell.client.limit ∧ link = link₀ := by simpa [hclient] using hlink
  have hnone := Client.taken_invoke line shell.client
  rw [exchange] at hnone
  obtain ⟨hsent, hreceived⟩ := views_execution showed.calls trace
  have hscreen : Trace.taken .screen (trace ++ [.sampled .roundTrip] ++ seen) = Trace.taken .screen seen := by
    simp [hnone, Event.taken]
  refine ⟨?_, ⟨[], [Trace.received trace], link'.inflow.coming.bytes, rfl, ?_, ?_, ?_⟩, ⟨link', hopen⟩,
    shell.laps.headD 0, ?_, ?_⟩
  · rw [hsent, htaken, List.flatMap_singleton]
  · simp [hframe]
  · rw [hreceived, List.flatten_singleton]
  · simp [hcoming, Coming.after]
  · exact hscreen ▸ showed.part
  · rw [hscreen]
    cases showed with
    | whole calls taken => exact .inl ⟨rfl, taken⟩
    | cut => exact .inr ⟨_, rfl⟩

/-- a line that is answered comes before it -/
theorem Displays.cons (h : Displays timing limit link' lines text past r) {response : String}
    (htaken : Trace.taken .link first = Utf8.encode line)
    (hframe : Frame.encode (Utf8.encode response) = .ok (Trace.received first))
    (hcoming : link.inflow.coming = link'.inflow.coming.after (Trace.received first)) :
    Displays timing limit link (line :: lines) text (first ++ past) r := by
  obtain ⟨hsent, ⟨texts, frames, rest, hlength, hframes, hreceived, harrived⟩, hopen, hshown⟩ := h
  refine ⟨?_, ⟨response :: texts, Trace.received first :: frames, rest, ?_, ?_, ?_, ?_⟩, hopen, hshown⟩
  · rw [Trace.taken_append, htaken, hsent, List.flatMap_cons]
  · rw [List.cons_append, List.length_cons, hlength, List.length_cons]
  · rw [List.cons_append, List.map_cons, hframe, hframes, List.map_cons]
  · rw [Trace.received_append, hreceived, List.flatten_cons]
  · rw [hcoming, Coming.after, harrived, List.flatten_cons, List.append_assoc]

/-- on a closed client no line is exchanged -/
theorem closed_executions (hclosed : shell.client = ⟨limit, none⟩) (lines : List String) :
    (Run.lastState shell (Act.inTurn (lines.map execute) shell)).client = ⟨limit, none⟩ := by
  induction lines generalizing shell with
  | nil => exact hclosed
  | cons line later ih =>
    refine ih ?_
    rw [(executed line shell).exchange.2.1, hclosed]
    rfl

/-- **An execution that is answered displays the response to its own line**, whatever was shown before. -/
theorem displays_execution {k : Nat} (hclient : shell.client = ⟨limit, some link⟩) (hline : lines[k]? = some line)
    (hanswer : (Client.invoke line
      (Run.lastState shell ((Act.inTurn (lines.map execute) shell).take k)).client).answer = .ok text)
    (hrun : (Act.inTurn (lines.map execute) shell)[k]? = some r) :
    Displays shell.timing limit link (lines.take (k + 1)) text
      (Run.wholeTrace ((Act.inTurn (lines.map execute) shell).take (k + 1))) r := by
  induction lines generalizing shell link k with
  | nil => cases hline
  | cons first later ih =>
    have hfirst := executed first shell
    cases k with
    | zero =>
      obtain rfl : first = line := by simpa using hline
      obtain rfl : execute first shell = r := by simpa [Act.inTurn] using hrun
      have hone : Run.wholeTrace ((Act.inTurn ((first :: later).map execute) shell).take 1) =
          (execute first shell).trace := List.append_nil _
      rw [hone]
      rw [show Run.lastState shell _ = shell from rfl] at hanswer
      generalize execute first shell = r at hfirst
      cases hfirst with
      | failed exchange =>
        rw [exchange] at hanswer
        cases hanswer
      | answered exchange showed =>
        rw [exchange] at hanswer
        obtain rfl : _ = text := Except.ok.inj hanswer
        exact .of_answered hclient exchange showed
    | succ k =>
      simp only [List.map_cons, Act.inTurn, List.take_succ_cons, List.getElem?_cons_succ, Run.lastState,
        Run.wholeTrace_cons] at hline hanswer hrun ⊢
      generalize execute first shell = r₀ at hfirst hanswer hrun ⊢
      cases hfirst with
      | failed exchange =>
        -- from then on the client is closed, and nothing is answered any more
        obtain rfl := Client.invoke_failure exchange
        rw [Act.take_inTurn, ← List.map_take, closed_executions rfl] at hanswer
        cases hanswer
      | answered exchange showed =>
        obtain ⟨link₀, link', hlink, rfl, htaken, hframe, hcoming⟩ := Client.invoke_answered exchange
        obtain ⟨rfl, rfl⟩ : limit = shell.client.limit ∧ link = link₀ := by simpa [hclient] using hlink
        obtain ⟨hsent, hreceived⟩ := views_execution showed.calls _
        exact (ih rfl hline hanswer hrun).cons (hsent.trans htaken) (hreceived ▸ hframe) (hreceived ▸ hcoming)

/-- **The screen does not disturb the exchanges.** Lines are executed one after the other on a shell, going on after
failures, over any stream; `runs` and `runs'` do so on two screens, each of which may fail in any call. Then:
- after each line the two have sent and received the same bytes and timed as many exchanges, and their clients are in
  the same state;
- an execution fails with a failure of the client exactly if its exchange does so, on both screens, and then it makes no
  call on the screen;
- an execution whose exchange is answered leaves the client open, whether the response can be shown or not; it shows the
  response to its own line: that of the frame which follows one frame for each line before it. -/
theorem exchanges_undisturbed (lines : List String) (limit : UInt32) (link : Link) (screen screen' : Outflow)
    (timing : Bool) (laps laps' : List Nat) :
    let shell : Shell := ⟨⟨limit, some link⟩, screen, timing, laps⟩
    let shell' : Shell := ⟨⟨limit, some link⟩, screen', timing, laps'⟩
    let runs := Act.inTurn (lines.map execute) shell
    let runs' := Act.inTurn (lines.map execute) shell'
    (∀ k,
      let past := Run.wholeTrace (runs.take k)
      let past' := Run.wholeTrace (runs'.take k)
      Trace.taken .link past = Trace.taken .link past' ∧ Trace.received past = Trace.received past' ∧
        Trace.samples .roundTrip past = Trace.samples .roundTrip past' ∧
        (Run.lastState shell (runs.take k)).client = (Run.lastState shell' (runs'.take k)).client) ∧
    ∀ k line r r', lines[k]? = some line → runs[k]? = some r → runs'[k]? = some r' →
      let exchange := Client.invoke line (Run.lastState shell (runs.take k)).client
      (∀ e, (r.answer = .error (.client e) ↔ exchange.answer = .error e) ∧
        (r'.answer = .error (.client e) ↔ exchange.answer = .error e)) ∧
      (∀ e, exchange.answer = .error e →
        r.state.screen = (Run.lastState shell (runs.take k)).screen ∧ ∀ event ∈ r.trace, event.on? ≠ some .screen) ∧
      ∀ text, exchange.answer = .ok text →
        Displays timing limit link (lines.take (k + 1)) text (Run.wholeTrace (runs.take (k + 1))) r := by
  intro shell shell' runs runs'
  have halike : ∀ k, (Run.wholeTrace (runs.take k)).offScreen = (Run.wholeTrace (runs'.take k)).offScreen ∧
      (Run.lastState shell (runs.take k)).client = (Run.lastState shell' (runs'.take k)).client :=
    executions_alike lines rfl
  refine ⟨fun k => ?_, fun k line r r' hline hrun hrun' => ?_⟩
  · obtain ⟨htraces, hclients⟩ := halike k
    refine ⟨?_, ?_, ?_, hclients⟩
    -- none of these views sees the screen
    · rw [← Trace.taken_offScreen, htraces, Trace.taken_offScreen]
    · rw [← Trace.received_offScreen, htraces, Trace.received_offScreen]
    · rw [← Trace.samples_offScreen, htraces, Trace.samples_offScreen]
  · have hexecuted : Executed line (Run.lastState shell (runs.take k)) r := executed_at hline hrun
    have hexecuted' : Executed line (Run.lastState shell' (runs'.take k)) r' := executed_at hline hrun'
    intro exchange
    refine ⟨fun e => ⟨hexecuted.exchange.2.2 e, ?_⟩, fun e => hexecuted.unseen, fun text hanswer => ?_⟩
    · show r'.answer = _ ↔ (Client.invoke line (Run.lastState shell (runs.take k)).client).answer = _
      rw [(halike k).2]
      exact hexecuted'.exchange.2.2 e
    · exact displays_execution rfl hline hanswer hrun

/-- the screen breaks off in the first response: the second line gets its own response all the same -/
theorem exchanges_undisturbed_after_break :
    let lines := ["a", "b"]
    let link : Link := ⟨{ arrivals := [.bytes [2, 0, 0, 0, 111, 107, 1, 0], .bytes [0, 0, 33]] }, {}⟩
    let screen : Outflow := { intakes := [.takes 1, .refuses (.plain .brokenPipe)] }
    let runs := Act.inTurn (lines.map execute) ⟨⟨16, some link⟩, screen, false, []⟩
    runs.map (·.answer) = [.error (.io (.plain .brokenPipe)), .ok ()] ∧
      ∃ r, runs[1]? = some r ∧ Displays false 16 link lines "!" (Run.wholeTrace runs) r := by
  have hanswers : (Act.inTurn (["a", "b"].map execute) ⟨⟨16, some ⟨{ arrivals := [.bytes [2, 0, 0, 0, 111, 107, 1, 0],
      .bytes [0, 0, 33]] }, {}⟩⟩, { intakes := [.takes 1, .refuses (.plain .brokenPipe)] }, false, []⟩).map (·.answer) =
      [.error (.io (.plain .brokenPipe)), .ok ()] := by cbv
  intro lines link screen runs
  have hexchange :
      (Client.invoke "b" (Run.lastState ⟨⟨16, some link⟩, screen, false, []⟩ (runs.take 1)).client).answer =
        .ok "!" := by
    simp only [runs, lines, link, screen]
    cbv
  refine ⟨hanswers, _, rfl, ?_⟩
  exact ((exchanges_undisturbed lines 16 link screen {} false [] []).2 1 "b" _ _ rfl rfl rfl).2.2 "!" hexchange

end Shell

end QueryConsole
