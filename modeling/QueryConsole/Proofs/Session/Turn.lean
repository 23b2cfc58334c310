import QueryConsole.Proofs.Client.Exchange
import QueryConsole.Proofs.Flow.Calls
import QueryConsole.Session.Shell

/-
One turn of a session: a line is sent, its response is received, and the response is shown.

A turn has three parts, and each makes calls on one object only: first the departing direction of the link, then the
arriving one, then the screen. A part that fails is the last. So what a turn did, wherever it stopped, is three traces
one after the other (`Shell.Turn`), and each part that has begun tells that the parts before it are complete.

Results:
- `invoke_phases`: invoking a line is sending it, and then, if it was sent, receiving.
- `showing_shape`: showing texts writes a front part of them; all of them, and flushed, if it succeeds.
- `turn_execute`: a turn in its three parts.
- `converse_of_turns`: what each turn does, all turns do.
- `run_parting`: a session is its talk, and then its client is closed.
-/

namespace QueryConsole

/-! ## An exchange -/

namespace Client

variable {act : Act Link LinkError α} {line text : String} {limit : UInt32} {client : Client} {o : Object}

theorem quiet_abandon (e : LinkError) (client : Client) :
    (abandon e client : Run Client LinkError α).trace.Quiet := by
  obtain ⟨limit, link⟩ := client
  cases link <;> simp [abandon, close, Trace.Quiet, Bind.bind, Act.bind, Run.after, Act.record, Act.fail, Event.on?]

theorem only_onLink (h : ∀ link, Trace.Only o (act link).trace) (client : Client) :
    Trace.Only o (onLink act client).trace := by
  obtain ⟨limit, link⟩ := client
  cases link with
  | none => exact (LinkError.quiet_raise _ _).only
  | some link =>
    have honly := h link
    rcases hact : act link with ⟨e | a, link', trace⟩
    · rw [hact] at honly
      simp only [onLink, hact]
      exact honly.append (quiet_abandon e _).only
    · rw [hact] at honly
      simpa only [onLink, hact] using honly

theorem only_send (line : String) (client : Client) : Trace.Only .outward (send line client).trace :=
  .bind (only_onLink (fun link => Outflow.only_deliver _ link.outflow) client) fun _ _ =>
    Trace.Quiet.only (by simp [Trace.Quiet, Act.record, Event.on?])

/-- a line that was sent is flushed -/
theorem unflushed_send (h : (send line client).answer = .ok ()) :
    Trace.unflushed .link (send line client).trace = [] := by
  obtain ⟨limit, link⟩ := client
  cases link with
  | none => cases h
  | some link =>
    obtain ⟨inflow, outflow⟩ := link
    have hflushed : (Outflow.deliver (Utf8.encode line) outflow).answer = .ok () →
        Trace.unflushed .link (Outflow.deliver (Utf8.encode line) outflow).trace = [] := Outflow.unflushed_deliver
    rcases hdeliver : Outflow.deliver (Utf8.encode line) outflow with ⟨e | _, outflow', trace⟩
    · have hsend : send line ⟨limit, some ⟨inflow, outflow⟩⟩ = ⟨.error e, ⟨limit, none⟩, trace ++ parting e⟩ :=
        Act.run_bind_error (onLink_error (sending_eq hdeliver inflow) limit)
      rw [hsend] at h
      cases h
    · have hsend : send line ⟨limit, some ⟨inflow, outflow⟩⟩ =
          ⟨.ok (), ⟨limit, some ⟨inflow, outflow'⟩⟩, trace ++ sending line⟩ :=
        Act.run_bind_ok (onLink_ok (sending_eq hdeliver inflow) limit)
      rw [hdeliver] at hflushed
      rw [hsend, Trace.unflushed_append (hflushed rfl)]
      rfl

/-- making text of a payload calls nothing -/
theorem quiet_textOf (payload : Bytes) (link : Link) : (textOf payload link).trace.Quiet := by
  cases hdecode : Utf8.decode payload with
  | ok text =>
    simp only [textOf, hdecode]
    simp [Trace.Quiet]
  | error fault =>
    simp only [textOf, hdecode]
    exact LinkError.quiet_raise _ link

theorem only_receive (client : Client) : Trace.Only .inward (receive client).trace := by
  refine only_onLink (fun link => .bind (Frame.only_read _ link.inflow) fun payload link => ?_) client
  refine .bind (Trace.Quiet.only (by simp [Trace.Quiet, Act.record, Event.on?])) fun _ link => ?_
  exact (quiet_textOf payload link).only

/-- **The phases of an invocation.** The line is sent; if that succeeds, a response is received, and its text comes from
exactly one frame. A failure closes the client. -/
theorem invoke_phases (line : String) (limit : UInt32) (link : Link) :
    ∃ sent got, Trace.Only .outward sent ∧ Trace.Only .inward got ∧ Trace.taken .link sent <+: Utf8.encode line ∧
      ((∃ e, invoke line ⟨limit, some link⟩ = ⟨.error e, ⟨limit, none⟩, sent⟩ ∧ got = []) ∨
        (Trace.taken .link sent = Utf8.encode line ∧ Trace.unflushed .link sent = [] ∧
          ((∃ e, invoke line ⟨limit, some link⟩ = ⟨.error e, ⟨limit, none⟩, sent ++ got⟩) ∨
            ∃ text link', invoke line ⟨limit, some link⟩ = ⟨.ok text, ⟨limit, some link'⟩, sent ++ got⟩ ∧
              Frame.encode (Utf8.encode text) = .ok (Trace.received got) ∧
              link.inflow.coming = link'.inflow.coming.after (Trace.received got)))) := by
  obtain ⟨inflow, outflow⟩ := link
  have hsent := only_send line ⟨limit, some ⟨inflow, outflow⟩⟩
  have hflushed : (send line ⟨limit, some ⟨inflow, outflow⟩⟩).answer = .ok () →
      Trace.unflushed .link (send line ⟨limit, some ⟨inflow, outflow⟩⟩).trace = [] := unflushed_send
  obtain ⟨outflow', sent, -, h⟩ := send_cases line limit inflow outflow
  rcases h with ⟨cause, hsend, htaken, -⟩ | ⟨cause, hsend, htaken⟩ | ⟨hsend, htaken⟩
  · rw [hsend] at hsent
    exact ⟨sent, [], hsent, by simp [Trace.Only], htaken, .inl ⟨_, invoke_failed hsend, rfl⟩⟩
  · rw [hsend] at hsent
    exact ⟨sent, [], hsent, by simp [Trace.Only], htaken ▸ List.prefix_refl _, .inl ⟨_, invoke_failed hsend, rfl⟩⟩
  · rw [hsend] at hsent hflushed
    have hgot := only_receive ⟨limit, some ⟨inflow, outflow'⟩⟩
    have hinvoke := invoke_sent hsend
    obtain ⟨got, -, ⟨e, hreceive⟩ | ⟨text, later, hreceive, hframe, hcoming⟩⟩ := receive_cases limit inflow outflow'
    · rw [hreceive] at hgot hinvoke
      exact ⟨sent, got, hsent, hgot, htaken ▸ List.prefix_refl _, .inr ⟨htaken, hflushed rfl, .inl ⟨e, hinvoke⟩⟩⟩
    · rw [hreceive] at hgot hinvoke
      exact ⟨sent, got, hsent, hgot, htaken ▸ List.prefix_refl _,
        .inr ⟨htaken, hflushed rfl, .inr ⟨text, _, hinvoke, hframe, hcoming⟩⟩⟩

end Client

theorem SessionError.quiet_tally (cause : SessionError) : cause.tally.Quiet := by
  cases cause <;> simp [tally, Trace.Quiet, Event.on?]

/-! ## The screen -/

namespace Shell

variable {shell shell' : Shell} {timing : Bool} {line response : String} {elapsed : Nat} {e : LinkError}
  {client : Client} {trace : Trace}

theorem withScreen_eq (act : Act Outflow IoError α) (shell : Shell) :
    withScreen act shell = ⟨(act shell.screen).answer.mapError .io, { shell with screen := (act shell.screen).state },
      (act shell.screen).trace⟩ := by
  rcases hact : act shell.screen with ⟨_ | _, screen, trace⟩ <;>
    simp [withScreen, Act.rescue, hact, Act.fail, Run.after, Except.mapError]

theorem withClient_eq (act : Act Client LinkError α) (shell : Shell) :
    withClient act shell = ⟨(act shell.client).answer.mapError .client,
      { shell with client := (act shell.client).state }, (act shell.client).trace⟩ := by
  rcases hact : act shell.client with ⟨_ | _, client, trace⟩ <;>
    simp [withClient, Act.rescue, hact, Act.fail, Run.after, Except.mapError]

/-- the bytes that show a text on a line of its own -/
def lineOf (text : String) : Bytes := Utf8.encode text ++ Utf8.encode "\n"

/-- show some texts, each on a line of its own -/
def showing : List String → Act Shell SessionError Unit
  | [] => flush
  | text :: later => do
    say text
    showing later

/-- what is shown of an exchange -/
def shown (timing : Bool) (response : String) (elapsed : Nat) : List String :=
  response :: if timing then ["(" ++ secondsText elapsed ++ " sec)"] else []

theorem greet_eq : greet = showing [greeting] := rfl

theorem say_shape (text : String) (shell : Shell) :
    ∃ answer screen trace, say text shell = ⟨answer, { shell with screen }, trace⟩ ∧ Trace.Only .screen trace ∧
      Trace.taken .screen trace <+: lineOf text ∧ (answer = .ok () → Trace.taken .screen trace = lineOf text) := by
  have honly : Trace.Only .screen (say text shell).trace := by
    rw [say, withScreen_eq]
    exact .bind (Outflow.only_writeAll .screen _ shell.screen) fun _ screen => Outflow.only_writeAll .screen _ screen
  rw [say, withScreen_eq] at honly ⊢
  refine ⟨_, _, _, rfl, honly, ?_⟩
  have htext := Outflow.taken_writeAll .screen (Utf8.encode text) shell.screen
  rcases hwrite : Outflow.writeAll .screen (Utf8.encode text) shell.screen with ⟨cause | _, screen, trace⟩
  · rw [hwrite] at htext
    rw [Act.run_bind_error hwrite]
    exact ⟨htext.1.trans (List.prefix_append _ _), fun h => by cases h⟩
  · rw [hwrite] at htext
    have hall : Trace.taken .screen trace = Utf8.encode text := htext.2.1 rfl
    obtain ⟨hpart, hwhole⟩ := Outflow.taken_writeAll .screen (Utf8.encode "\n") screen
    rw [Act.run_bind_ok hwrite, Run.trace_after, Trace.taken_append, hall, Run.answer_after]
    refine ⟨(List.prefix_append_right_inj _).2 hpart, fun h => congrArg _ (hwhole.1 ?_)⟩
    cases hanswer : (Outflow.writeAll .screen (Utf8.encode "\n") screen).answer with
    | error cause =>
      rw [hanswer] at h
      cases h
    | ok _ => rfl

theorem showing_shape (texts : List String) (shell : Shell) :
    ∃ answer screen trace, showing texts shell = ⟨answer, { shell with screen }, trace⟩ ∧ Trace.Only .screen trace ∧
      Trace.taken .screen trace <+: texts.flatMap lineOf ∧
      (answer = .ok () → Trace.taken .screen trace = texts.flatMap lineOf ∧
        ∃ writes, trace = writes ++ [.flushed .screen (.ok ())]) := by
  induction texts generalizing shell with
  | nil =>
    obtain ⟨answer, screen, hflush⟩ := Outflow.flush_eq .screen shell.screen
    refine ⟨answer.mapError .io, screen, [.flushed .screen answer], ?_, ?_, ?_, ?_⟩
    · rw [showing, flush, withScreen_eq, hflush]
    · simp [Trace.Only, Event.on?, Port.object]
    · simp [Event.taken]
    · intro h
      cases answer with
      | error cause => cases h
      | ok _ => exact ⟨rfl, [], rfl⟩
  | cons text texts ih =>
    obtain ⟨answer, screen, trace, hsay, honly, hpart, hwhole⟩ := say_shape text shell
    cases answer with
    | error e =>
      exact ⟨_, _, _, Act.run_bind_error hsay, honly, hpart.trans (List.prefix_append _ _), fun h => by cases h⟩
    | ok _ =>
      obtain ⟨answer', screen', trace', hshowing, honly', hpart', hwhole'⟩ := ih { shell with screen }
      have hrun : showing (text :: texts) shell = ⟨answer', { shell with screen := screen' }, trace ++ trace'⟩ := by
        rw [showing, Act.run_bind_ok hsay, hshowing]
        rfl
      refine ⟨_, _, _, hrun, honly.append honly', ?_, fun h => ?_⟩
      · rw [Trace.taken_append, hwhole rfl, List.flatMap_cons]
        exact (List.prefix_append_right_inj _).2 hpart'
      · obtain ⟨hall, writes, rfl⟩ := hwhole' h
        exact ⟨by rw [Trace.taken_append, hwhole rfl, hall, List.flatMap_cons], trace ++ writes,
          (List.append_assoc _ _ _).symm⟩

/-! ## A turn -/

/-- what an exchange notes about its time -/
theorem exchange_ok {text : String} (shell : Shell)
    (h : Client.invoke line shell.client = ⟨.ok text, client, trace⟩) :
    exchange line shell = ⟨.ok (text, shell.laps.headD 0), { shell with client, laps := shell.laps.tail },
      trace ++ [.sampled .roundTrip]⟩ := by
  have hclient : withClient (Client.invoke line) shell = ⟨.ok text, { shell with client }, trace⟩ := by
    rw [withClient_eq, h]
    rfl
  rw [exchange, Act.run_bind_ok hclient]
  rfl

theorem exchange_error (shell : Shell) (h : Client.invoke line shell.client = ⟨.error e, client, trace⟩) :
    exchange line shell = ⟨.error (.client e), { shell with client }, trace⟩ := by
  have hclient : withClient (Client.invoke line) shell = ⟨.error (.client e), { shell with client }, trace⟩ := by
    rw [withClient_eq, h]
    rfl
  rw [exchange, Act.run_bind_error hclient]

/-- a response that came is shown -/
theorem execute_ok (h : exchange line shell = ⟨.ok (response, elapsed), shell', trace⟩) :
    execute line shell = (showing (shown shell'.timing response elapsed) shell').after trace := by
  obtain ⟨answer, screen, said, hsay, -⟩ := say_shape response shell'
  rw [execute, Act.run_bind_ok h]
  congr 1
  cases answer with
  | error e =>
    have hshowing : showing (shown shell'.timing response elapsed) shell' = ⟨.error e, { shell' with screen }, said⟩ :=
      Act.run_bind_error hsay
    rw [hshowing]
    exact Act.run_bind_error hsay
  | ok _ =>
    have hshowing : showing (shown shell'.timing response elapsed) shell' =
        (showing (if shell'.timing then ["(" ++ secondsText elapsed ++ " sec)"] else []) { shell' with screen }).after
          said := Act.run_bind_ok hsay
    rw [hshowing]
    refine (Act.run_bind_ok hsay).trans ?_
    congr 1
    rw [Act.run_bind_ok (Act.run_get _)]
    cases shell'.timing
    · rfl
    · rfl

theorem execute_error (h : exchange line shell = ⟨.error (.client e), shell', trace⟩) :
    execute line shell = ⟨.error (.client e), shell', trace⟩ := Act.run_bind_error h

/-- what asking for a line leaves, if there is one -/
def asking (line : String) : Trace := [.asked (.ok (some line)), .counted .linesRead 1]

theorem take_failure (cause : SessionError) (shell : Shell) :
    take (.failure cause) shell = ⟨.error cause, shell, .asked (.error cause) :: cause.tally⟩ := rfl

theorem take_line (h : ¬ isBlank line = true) (shell : Shell) :
    take (.line line) shell = (execute line shell).after (asking line) := by
  simp only [take, h]
  rfl

theorem converse_ok {item : SourceItem} (h : take item shell = ⟨.ok (), shell', trace⟩) (later : Source) :
    converse shell (item :: later) = (converse shell' later).after trace := by
  simp only [converse, h]

theorem converse_error {item : SourceItem} {e : SessionError} (h : take item shell = ⟨.error e, shell', trace⟩)
    (later : Source) : converse shell (item :: later) = ⟨.error e, (later, shell'), trace⟩ := by
  simp only [converse, h]

/-- what each turn does, and follows one after another, all turns of a source do -/
theorem converse_of_turns {p : Shell → Trace → Shell → Prop}
    (done : ∀ shell, p shell [.asked (.ok none), .told .endOfInput] shell)
    (turn : ∀ item shell, p shell (take item shell).trace (take item shell).state)
    (append : ∀ {before mid now a b}, p before a mid → p mid b now → p before (a ++ b) now) (source : Source)
    (shell : Shell) : p shell (shell.converse source).trace (shell.converse source).state.2 := by
  induction source generalizing shell with
  | nil => exact done shell
  | cons item later ih =>
    have hturn := turn item shell
    rcases htake : take item shell with ⟨e | _, shell', trace⟩
    · rw [htake] at hturn
      rw [converse_error htake]
      exact hturn
    · rw [htake] at hturn
      rw [converse_ok htake]
      exact append hturn (ih shell')

/-- the three parts of a turn, as far as it has come; a part that has begun tells that those before it are complete -/
structure Turn (timing : Bool) (line : String) (sent got seen : Trace) : Prop where
  sends : Trace.Only .outward sent
  receives : Trace.Only .inward got
  shows : Trace.Only .screen seen
  ready : got = [] ∨ Trace.taken .link sent = Utf8.encode line ∧ Trace.unflushed .link sent = []
  answered : seen = [] ∨ ∃ text elapsed, Frame.encode (Utf8.encode text) = .ok (Trace.received got) ∧
    Trace.taken .screen seen <+: (shown timing text elapsed).flatMap lineOf

/-- a turn that comes to its end: the line is sent, one frame is received, and what was shown is flushed -/
structure Turn.Ended (sent got seen : Trace) : Prop where
  sent : Trace.unflushed .link sent = []
  got : ∃ text, Frame.encode (Utf8.encode text) = .ok (Trace.received got)
  seen : ∃ writes, seen = writes ++ [.flushed .screen (.ok ())]

/-- an exchange that fails is the end of its turn -/
theorem turn_of_error {sent got : Trace} (hexchange : exchange line shell = ⟨.error (.client e), shell', sent ++ got⟩)
    (hsent : Trace.Only .outward sent) (hgot : Trace.Only .inward got)
    (hready : got = [] ∨ Trace.taken .link sent = Utf8.encode line ∧ Trace.unflushed .link sent = []) :
    execute line shell = ⟨.error (.client e), shell', sent ++ got ++ []⟩ ∧ Turn timing line sent got [] := by
  rw [List.append_nil]
  exact ⟨execute_error hexchange, hsent, hgot, by simp [Trace.Only], hready, .inl rfl⟩

/-- **A turn in its three parts.** -/
theorem turn_execute (line : String) (shell : Shell) :
    ∃ answer shell' sent got seen, execute line shell = ⟨answer, shell', sent ++ got ++ seen⟩ ∧
      shell'.timing = shell.timing ∧ Turn shell.timing line sent got seen ∧
      (answer = .ok () → Turn.Ended sent got seen) := by
  obtain ⟨⟨limit, link⟩, screen, timing, laps⟩ := shell
  have hnone : ∀ o, Trace.Only o [] := by simp [Trace.Only]
  cases link with
  | none =>
    have hclosed : exchange line ⟨⟨limit, none⟩, screen, timing, laps⟩ =
        ⟨.error (.client .closed), ⟨⟨limit, none⟩, screen, timing, laps⟩, [.counted .closedError 1] ++ []⟩ :=
      exchange_closed line limit screen timing laps
    have hquiet : Trace.Quiet [.counted .closedError 1] := by simp [Trace.Quiet, Event.on?]
    obtain ⟨hexecute, hturn⟩ := turn_of_error hclosed hquiet.only (hnone _) (.inl rfl)
    exact ⟨_, _, _, _, _, hexecute, rfl, hturn, fun h => by cases h⟩
  | some link =>
    obtain ⟨sent, got, hsent, hgot, -, ⟨e, hinvoke, rfl⟩ | ⟨htaken, hflushed, hinvoke⟩⟩ :=
      Client.invoke_phases line limit link
    · rw [← List.append_nil sent] at hinvoke
      obtain ⟨hexecute, hturn⟩ := turn_of_error (exchange_error ⟨_, screen, timing, laps⟩ hinvoke) hsent hgot (.inl rfl)
      exact ⟨_, _, _, _, _, hexecute, rfl, hturn, fun h => by cases h⟩
    · rcases hinvoke with ⟨e, hinvoke⟩ | ⟨text, link', hinvoke, hframe, -⟩
      · have hexchange := exchange_error ⟨_, screen, timing, laps⟩ hinvoke
        obtain ⟨hexecute, hturn⟩ := turn_of_error hexchange hsent hgot (.inr ⟨htaken, hflushed⟩)
        exact ⟨_, _, _, _, _, hexecute, rfl, hturn, fun h => by cases h⟩
      · -- the time of the exchange is noted when the response has come
        have hlap : Trace.Only .inward (got ++ [.sampled .roundTrip]) :=
          hgot.append (Trace.Quiet.only (by simp [Trace.Quiet, Event.on?]))
        have hreceived : Trace.received (got ++ [.sampled .roundTrip]) = Trace.received got := by simp [Event.received]
        have hexchange := execute_ok (exchange_ok ⟨_, screen, timing, laps⟩ hinvoke)
        obtain ⟨answer, screen', seen, hshowing, honly, hpart, hwhole⟩ :=
          showing_shape (shown timing text (laps.headD 0)) ⟨⟨limit, some link'⟩, screen, timing, laps.tail⟩
        refine ⟨answer, ⟨⟨limit, some link'⟩, screen', timing, laps.tail⟩, sent, got ++ [.sampled .roundTrip], seen,
          ?_, rfl,
          ⟨hsent, hlap, honly, .inr ⟨htaken, hflushed⟩, .inr ⟨text, laps.headD 0, by rwa [hreceived], hpart⟩⟩,
          fun h => ⟨hflushed, ⟨text, by rwa [hreceived]⟩, (hwhole h).2⟩⟩
        rw [hexchange, hshowing]
        simp [Run.after]

end Shell

/-! ## A session -/

namespace Session

variable {shell : Shell} {trace : Trace} {e : SessionError}

theorem talk_greeted (session : Session) (h : Shell.greet session.shell = ⟨.ok (), shell, trace⟩) :
    talk session = ⟨(shell.converse session.source).answer,
      ⟨(shell.converse session.source).state.1, (shell.converse session.source).state.2⟩,
      trace ++ (shell.converse session.source).trace⟩ := by
  have hgreet : (withShell Shell.greet : Act Session SessionError Unit) session =
      ⟨.ok (), { session with shell }, trace⟩ := by
    simp [withShell, h]
  exact Act.run_bind_ok hgreet

theorem talk_refused (session : Session) (h : Shell.greet session.shell = ⟨.error e, shell, trace⟩) :
    talk session = ⟨.error e, { session with shell }, trace⟩ := by
  have hgreet : (withShell Shell.greet : Act Session SessionError Unit) session =
      ⟨.error e, { session with shell }, trace⟩ := by
    simp [withShell, h]
  exact Act.run_bind_error hgreet

/-- what a session notes at its end, when its talk ended like this: the client is closed, and a failure is told -/
def parting (answer : Except SessionError Unit) (client : Client) : Trace :=
  (Client.close client : Run Client SessionError Unit).trace ++
    match answer with
    | .ok _ => []
    | .error e => [.counted .sessionError 1, .told (.sessionError e.message)]

theorem quiet_parting (answer : Except SessionError Unit) (client : Client) : (parting answer client).Quiet := by
  obtain ⟨limit, link⟩ := client
  cases link <;> cases answer <;> simp [parting, Client.close, Trace.Quiet, Event.on?]

/-- at its end a session closes the client and tells a failure -/
theorem finish_parting (answer : Except SessionError Unit) (session : Session) :
    finish answer session = ⟨answer,
      { session with shell := { session.shell with client := ⟨session.shell.client.limit, none⟩ } },
      parting answer session.shell.client⟩ := by
  obtain ⟨source, ⟨⟨limit, link⟩, screen, timing, laps⟩⟩ := session
  cases answer <;> cases link <;> rfl

/-- a session is its talk, and then its client is closed -/
theorem run_parting (session : Session) :
    run session = ⟨(talk session).answer, ⟨(talk session).state.source,
      { (talk session).state.shell with client := ⟨(talk session).state.shell.client.limit, none⟩ }⟩,
      (talk session).trace ++ parting (talk session).answer (talk session).state.shell.client⟩ := by
  rw [run, finish_parting]
  rfl

/-- a session is its talk; then the client is closed, and nothing is called any more -/
theorem run_eq (session : Session) :
    ∃ last : Trace, last.Quiet ∧ run session = ⟨(talk session).answer,
      ⟨(talk session).state.source,
        { (talk session).state.shell with client := ⟨(talk session).state.shell.client.limit, none⟩ }⟩,
      (talk session).trace ++ last⟩ :=
  ⟨_, quiet_parting _ _, run_parting session⟩

end Session

end QueryConsole
