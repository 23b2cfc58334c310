import Mathlib
import QueryConsole.Proofs.Flow.FailStop
import QueryConsole.Proofs.Session.Turn

/-
The order of events in a session: at most one request is outstanding, and nothing is waited for with output held back.

A session makes calls on the link, the screen and the line source. Whatever these give, wherever they fail, and whether
times are shown or not, every call finds the session in order (`Orderly`): a read has a whole, flushed line before it; a
line is sent when all responses before it have been taken; nothing is waited for while the user has not been shown what
was written; and a response is shown when its frame was read and its payload is text. Between two turns the session is
settled (`Settled`); this is what one turn hands to the next. After a failure there is no call any more.

Results:
- `take_orderly`: one turn from a settled session is orderly, and settles it again.
- `each_converse`: so are all turns, by induction on the source.
- `failStop_talk`: nothing is called after a failure.
- `orderly_run`: the order of events in a session.
-/

namespace QueryConsole

namespace Trace

variable {a b before : Trace} {o : Object} {e : Event}

theorem Only.of_prefix (h : Only o b) (hab : a <+: b) : Only o a := fun e he => h e (hab.subset he)

/-- what was done of a trace with calls on one object, and the next event of it -/
theorem Only.next (h : Only o a) (hnext : before ++ [e] <+: a) : Only o before ∧ (e.on? = none ∨ e.on? = some o) :=
  ⟨h.of_prefix ((List.prefix_append _ _).trans hnext), h e (hnext.subset (by simp))⟩

theorem Only.not_asked (h : Only o a) (ho : o ≠ .source) : ∀ answer, .asked answer ∉ a :=
  fun _ hasked => h.ne ho _ hasked rfl

/-- the turn that a trace is in: the line that was asked for last, what came before it and what has happened since -/
structure InTurn (line : String) (earlier now before : Trace) : Prop where
  split : before = earlier ++ .asked (.ok (some line)) :: now
  last : ∀ answer, .asked answer ∉ now

/-- every line to be sent is answered: as many whole frames of texts have been received, and nothing else -/
def AllAnswered (trace : Trace) : Prop :=
  ∃ (texts : List String) (frames : List Bytes),
    texts.map (fun text => Frame.encode (Utf8.encode text)) = frames.map .ok ∧
    received trace = frames.flatten ∧ texts.length = (lines trace).length

end Trace

/-! ## What order is -/

/-- a call comes in order, after what happened before it -/
structure Orderly (timing : Bool) (before : Trace) (e : Event) : Prop where
  /-- a read waits for the response to a line that was sent as a whole and flushed -/
  receives : e.on? = some .inward → ∃ line earlier now, Trace.InTurn line earlier now before ∧
    Trace.taken .link now = Utf8.encode line ∧ Trace.unflushed .link before = []
  /-- a line is sent when the responses to all lines before it have been taken -/
  sends : e.on? = some .outward → ∃ line earlier now, Trace.InTurn line earlier now before ∧
    Trace.received now = [] ∧ Trace.AllAnswered earlier
  /-- nothing but the screen is called while the screen holds back what was written -/
  waits : e.on? ≠ none → e.on? ≠ some .screen → Trace.unflushed .screen before = []
  /-- what is shown is the greeting, or a response of which the whole frame was read and is text -/
  shows : e.on? = some .screen →
    ((∀ answer, .asked answer ∉ before) ∧ Trace.taken .screen (before ++ [e]) <+: Shell.lineOf greeting) ∨
    ∃ line earlier now text elapsed, Trace.InTurn line earlier now before ∧
      Frame.encode (Utf8.encode text) = .ok (Trace.received now) ∧
      Trace.taken .screen (now ++ [e]) <+: (Shell.shown timing text elapsed).flatMap Shell.lineOf

/-- a session between two turns: nothing is held back, and every line is answered -/
structure Settled (past : Trace) : Prop where
  shown : Trace.unflushed .screen past = []
  sent : Trace.unflushed .link past = []
  answered : Trace.AllAnswered past

namespace Orderly

variable {timing : Bool} {before past : Trace} {e : Event}

theorem of_quiet (he : e.on? = none) : Orderly timing before e where
  receives h := by simp [he] at h
  sends h := by simp [he] at h
  waits h := absurd he h
  shows h := by simp [he] at h

theorem of_source (he : e.on? = some .source) (hshown : Trace.unflushed .screen before = []) :
    Orderly timing before e where
  receives h := by simp [he] at h
  sends h := by simp [he] at h
  waits _ _ := hshown
  shows h := by simp [he] at h

theorem each_quiet {trace : Trace} (h : trace.Quiet) : Trace.Each (Orderly timing) past trace :=
  fun _ _ hnext => .of_quiet (h _ (hnext.subset (by simp)))

/-- asking for a line, whatever it gives -/
theorem each_asked {trace : Trace} (hshown : Trace.unflushed .screen past = []) (h : trace.Quiet)
    (answer : Except SessionError (Option String)) : Trace.Each (Orderly timing) past (.asked answer :: trace) := by
  intro before e hnext
  rcases Trace.next_cons hnext with ⟨rfl, rfl⟩ | ⟨mid, rfl, hmid⟩
  · rw [List.append_nil]
    exact .of_source rfl hshown
  · exact .of_quiet (h _ (hmid.subset (by simp)))

end Orderly

namespace Shell

variable {timing : Bool} {line : String} {past sent got seen before : Trace} {e : Event}

/-- asking for a line writes nothing -/
theorem unflushed_asking (h : Settled past) (port : Port) (line : String) :
    Trace.unflushed port (past ++ asking line) = [] := by
  cases port with
  | link => exact Trace.unflushed_append h.sent _
  | screen => exact Trace.unflushed_append h.shown _

/-- a part of a turn is in the turn of its line -/
theorem inTurn_asking (past : Trace) (line : String) (h : ∀ answer, .asked answer ∉ before) :
    Trace.InTurn line past (.counted .linesRead 1 :: before) (past ++ asking line ++ before) := by
  refine ⟨by simp [asking], fun answer hasked => ?_⟩
  rcases List.mem_cons.1 hasked with heq | hmem
  · cases heq
  · exact h answer hmem

/-- the sending part of a turn -/
theorem each_sent (h : Settled past) (hsent : Trace.Only .outward sent) (line : String) :
    Trace.Each (Orderly timing) (past ++ asking line) sent := by
  intro before e hnext
  obtain ⟨hbefore, hquiet | hcall⟩ := hsent.next hnext
  · exact .of_quiet hquiet
  · have hin := inTurn_asking past line (hbefore.not_asked (by decide))
    have hnone : Trace.received before = [] := hbefore.received_eq_nil (by decide)
    refine ⟨fun he => ?_, fun _ => ⟨line, past, _, hin, hnone, h.answered⟩, fun _ _ => ?_, fun he => ?_⟩
    · simp [hcall] at he
    · rw [hbefore.unflushed_append (by decide), unflushed_asking h]
    · simp [hcall] at he

/-- the receiving part of a turn -/
theorem each_got (h : Settled past) (hturn : Turn timing line sent got seen) :
    Trace.Each (Orderly timing) (past ++ asking line ++ sent) got := by
  intro before e hnext
  obtain ⟨hbefore, hquiet | hcall⟩ := hturn.receives.next hnext
  · exact .of_quiet hquiet
  · -- there is no receiving part unless the line was sent and flushed
    rcases hturn.ready with rfl | ⟨htaken, hflushed⟩
    · simp at hnext
    have hasked : ∀ answer, .asked answer ∉ sent ++ before := by
      simp [hturn.sends.not_asked, hbefore.not_asked]
    have hin := inTurn_asking past line hasked
    rw [← List.append_assoc] at hin
    refine ⟨fun _ => ⟨line, past, _, hin, ?_, ?_⟩, fun he => ?_, fun _ _ => ?_, fun he => ?_⟩
    · have hnone : Trace.taken .link before = [] := hbefore.taken_eq_nil (by decide)
      simp [Event.taken, htaken, hnone]
    · rw [hbefore.unflushed_append (by decide), Trace.unflushed_append (unflushed_asking h _ _), hflushed]
    · simp [hcall] at he
    · rw [hbefore.unflushed_append (by decide), hturn.sends.unflushed_append (by decide), unflushed_asking h]
    · simp [hcall] at he

/-- the showing part of a turn -/
theorem each_seen (past : Trace) (hturn : Turn timing line sent got seen) :
    Trace.Each (Orderly timing) (past ++ asking line ++ sent ++ got) seen := by
  intro before e hnext
  obtain ⟨hbefore, hquiet | hcall⟩ := hturn.shows.next hnext
  · exact .of_quiet hquiet
  · -- and no showing part unless a whole frame of text was received
    rcases hturn.answered with rfl | ⟨text, elapsed, hframe, hpart⟩
    · simp at hnext
    have hasked : ∀ answer, .asked answer ∉ sent ++ got ++ before := by
      simp [hturn.sends.not_asked, hturn.receives.not_asked, hbefore.not_asked]
    have hin := inTurn_asking past line hasked
    rw [← List.append_assoc, ← List.append_assoc] at hin
    refine ⟨fun he => ?_, fun he => ?_, fun _ hscreen => absurd hcall hscreen,
      fun _ => .inr ⟨line, past, _, text, elapsed, hin, ?_, ?_⟩⟩
    · simp [hcall] at he
    · simp [hcall] at he
    · have hsent : Trace.received sent = [] := hturn.sends.received_eq_nil (by decide)
      have hnone : Trace.received before = [] := hbefore.received_eq_nil (by decide)
      simpa [Event.received, hsent, hnone] using hframe
    · have hsent : Trace.taken .screen sent = [] := hturn.sends.taken_eq_nil (by decide)
      have hgot : Trace.taken .screen got = [] := hturn.receives.taken_eq_nil (by decide)
      have hnow : Trace.taken .screen (.counted .linesRead 1 :: (sent ++ got ++ before) ++ [e]) =
          Trace.taken .screen (before ++ [e]) := by simp [Event.taken, hsent, hgot]
      rw [hnow]
      exact (hnext.flatMap _).trans hpart

/-- a turn that comes to its end settles the session again -/
theorem settled_turn (h : Settled past) (hblank : ¬ isBlank line = true) (hturn : Turn timing line sent got seen)
    (hended : Turn.Ended sent got seen) : Settled (past ++ asking line ++ sent ++ got ++ seen) := by
  obtain ⟨texts, frames, hframes, hreceived, hlength⟩ := h.answered
  obtain ⟨text, hframe⟩ := hended.got
  refine ⟨?_, ?_, texts ++ [text], frames ++ [Trace.received got], ?_, ?_, ?_⟩
  · obtain ⟨writes, rfl⟩ := hended.seen
    rw [← List.append_assoc]
    exact Trace.unflushed_concat_flush .screen _
  · rw [hturn.shows.unflushed_append (by decide), hturn.receives.unflushed_append (by decide),
      Trace.unflushed_append (unflushed_asking h _ _), hended.sent]
  · simp [hframes, hframe]
  · have hsent : Trace.received sent = [] := hturn.sends.received_eq_nil (by decide)
    have hseen : Trace.received seen = [] := hturn.shows.received_eq_nil (by decide)
    simp [asking, Event.received, hreceived, hsent, hseen]
  · have hsent : Trace.lines sent = [] := hturn.sends.lines_eq_nil (by decide)
    have hgot : Trace.lines got = [] := hturn.receives.lines_eq_nil (by decide)
    have hseen : Trace.lines seen = [] := hturn.shows.lines_eq_nil (by decide)
    have hasking : Trace.lines (asking line) = [line] := by simp [Trace.lines, asking, Event.line, hblank]
    simp [hsent, hgot, hseen, hasking, hlength]

/-! ## Turn after turn -/

/-- a blank line is not sent -/
theorem settled_blank (h : Settled past) (hblank : isBlank line = true) :
    Settled (past ++ (asking line ++ [.counted .blankLines 1])) where
  shown := Trace.unflushed_append h.shown _
  sent := Trace.unflushed_append h.sent _
  answered := by
    have hlines : Trace.lines (asking line ++ [.counted .blankLines 1]) = [] := by
      simp [Trace.lines, asking, Event.line, hblank]
    obtain ⟨texts, frames, hframes, hreceived, hlength⟩ := h.answered
    exact ⟨texts, frames, hframes, by simp [asking, Event.received, hreceived], by simp [hlines, hlength]⟩

/-- **One turn is orderly, and settles the session again.** -/
theorem take_orderly (h : Settled past) (item : SourceItem) (shell : Shell) :
    Trace.Each (Orderly shell.timing) past (take item shell).trace ∧
      ((take item shell).answer = .ok () →
        Settled (past ++ (take item shell).trace) ∧ (take item shell).state.timing = shell.timing) := by
  cases item with
  | failure cause =>
    rw [take_failure]
    exact ⟨Orderly.each_asked h.shown cause.quiet_tally _, fun h => by cases h⟩
  | line text =>
    by_cases hblank : isBlank text = true
    · rw [take_blank hblank]
      exact ⟨Orderly.each_asked h.shown (by simp [Trace.Quiet, Event.on?]) _, fun _ => ⟨settled_blank h hblank, rfl⟩⟩
    · obtain ⟨answer, shell', sent, got, seen, hexecute, htiming, hturn, hended⟩ := turn_execute text shell
      have hasking : Trace.Each (Orderly shell.timing) past (asking text) :=
        Orderly.each_asked h.shown (by simp [Trace.Quiet, Event.on?]) _
      have heach := hasking.append (((each_sent h hturn.sends text).append (each_got h hturn)).append (by
        rw [← List.append_assoc]
        exact each_seen past hturn))
      rw [take_line hblank, hexecute]
      refine ⟨heach, fun hanswer => ⟨?_, htiming⟩⟩
      have hsettled := settled_turn h hblank hturn (hended hanswer)
      simpa [Run.after] using hsettled

/-- all turns of a source are orderly -/
theorem each_converse (source : Source) (h : Settled past) (shell : Shell) :
    Trace.Each (Orderly shell.timing) past (shell.converse source).trace := by
  -- what carries the induction is that a turn that succeeds leaves the session settled
  induction source generalizing past shell with
  | nil => exact Orderly.each_asked h.shown (by simp [Trace.Quiet, Event.on?]) _
  | cons item later ih =>
    obtain ⟨hfirst, hsettled⟩ := take_orderly h item shell
    rcases htake : take item shell with ⟨e | _, shell', trace⟩
    · rw [htake] at hfirst
      rwa [converse_error htake]
    · rw [htake] at hfirst hsettled
      obtain ⟨hpast, htiming⟩ := hsettled rfl
      have hlater := ih hpast shell'
      rw [htiming] at hlater
      rw [converse_ok htake]
      exact hfirst.append hlater

/-- the greeting is orderly, and settles a session that has only begun -/
theorem greet_orderly (shell : Shell) :
    Trace.Each (Orderly shell.timing) [] (greet shell).trace ∧
      ((greet shell).answer = .ok () → Settled (greet shell).trace ∧ (greet shell).state.timing = shell.timing) := by
  obtain ⟨answer, screen, trace, hgreet, honly, hpart, hwhole⟩ := showing_shape [greeting] shell
  rw [greet_eq, hgreet]
  refine ⟨fun before e hnext => ?_, fun h => ⟨⟨?_, ?_, [], [], rfl, ?_, ?_⟩, rfl⟩⟩
  · rw [List.nil_append]
    obtain ⟨hbefore, hquiet | hcall⟩ := honly.next hnext
    · exact .of_quiet hquiet
    · refine ⟨fun he => ?_, fun he => ?_, fun _ hscreen => absurd hcall hscreen, fun _ => .inl ⟨?_, ?_⟩⟩
      · simp [hcall] at he
      · simp [hcall] at he
      · exact hbefore.not_asked (by decide)
      · have hfront : Trace.taken .screen (before ++ [e]) <+: Trace.taken .screen trace := hnext.flatMap _
        exact hfront.trans (by simpa using hpart)
  · obtain ⟨writes, rfl⟩ := (hwhole h).2
    exact Trace.unflushed_concat_flush .screen _
  · exact honly.unflushed_append (by decide) []
  · exact honly.received_eq_nil (by decide)
  · simp [honly.lines_eq_nil (by decide)]

end Shell

/-! ## Nothing after a failure -/

theorem Client.failStop_onLink {act : Act Link LinkError α} (h : ∀ link, (act link).FailStop) (client : Client) :
    (onLink act client).FailStop := by
  obtain ⟨limit, link⟩ := client
  cases link with
  | none => exact .quiet (LinkError.quiet_raise _ _)
  | some link =>
    have hstop := h link
    rcases hact : act link with ⟨e | a, link', trace⟩
    · rw [hact] at hstop
      simp only [onLink, hact]
      exact .of_error rfl (hstop.stops.quiet (quiet_abandon e _))
    · rw [hact] at hstop
      simp only [onLink, hact]
      exact ⟨fun _ _ => hstop.unfailing a rfl, hstop.stops⟩

theorem Client.failStop_invoke (line : String) (client : Client) : (invoke line client).FailStop := by
  have hsend : ∀ client, (send line client).FailStop := fun client =>
    .bind (failStop_onLink (fun link => .within (Outflow.failStop_deliver _ _)) client) fun _ _ =>
      .quiet (by simp [Trace.Quiet, Act.record, Event.on?])
  refine .bind (hsend client) fun _ client => failStop_onLink (fun link => ?_) client
  exact .bind (.within (Frame.failStop_read _ _)) fun payload link =>
    .bind (.quiet (by simp [Trace.Quiet, Act.record, Event.on?])) fun _ link => .quiet (quiet_textOf payload link)

namespace Shell

theorem failStop_withScreen {act : Act Outflow IoError α} (h : ∀ screen, (act screen).FailStop) (shell : Shell) :
    (withScreen act shell).FailStop :=
  .rescue (.within (h _)) fun _ _ => ⟨by simp [Trace.Quiet, Act.fail], _, rfl⟩

theorem failStop_showing (texts : List String) (shell : Shell) : (showing texts shell).FailStop := by
  induction texts generalizing shell with
  | nil => exact failStop_withScreen (Outflow.failStop_flush .screen) shell
  | cons text texts ih =>
    refine .bind (failStop_withScreen (fun screen => ?_) shell) fun _ shell => ih shell
    exact .bind (Outflow.failStop_writeAll .screen _ screen) fun _ screen => Outflow.failStop_writeAll .screen _ screen

theorem failStop_exchange (line : String) (shell : Shell) : (exchange line shell).FailStop := by
  refine .bind (.rescue (.within (Client.failStop_invoke line shell.client)) fun _ _ => ?_) fun _ shell => ?_
  · exact ⟨by simp [Trace.Quiet, Act.fail], _, rfl⟩
  · exact .bind (.quiet (by simp [Trace.Quiet, lap, Event.on?])) fun _ _ => .quiet (by simp [Trace.Quiet])

theorem failStop_execute (line : String) (shell : Shell) : (execute line shell).FailStop := by
  have hexchange := failStop_exchange line shell
  rcases hrun : exchange line shell with ⟨e | ⟨response, elapsed⟩, shell', trace⟩
  · rw [hrun] at hexchange
    rw [execute, Act.run_bind_error hrun]
    exact .of_error rfl hexchange.stops
  · rw [hrun] at hexchange
    rw [execute_ok hrun]
    exact (failStop_showing _ shell').after (hexchange.unfailing _ rfl)

theorem failStop_take (item : SourceItem) (shell : Shell) : (take item shell).FailStop := by
  cases item with
  | failure cause =>
    rw [take_failure]
    exact .of_error rfl ((Trace.stops_singleton _).quiet cause.quiet_tally)
  | line text =>
    have hasking : Trace.Unfailing (asking text) := by simp [Trace.Unfailing, asking, Event.Fails]
    by_cases hblank : isBlank text = true
    · rw [take_blank hblank]
      have hblankLine : Run.FailStop (⟨.ok (), shell, [.counted .blankLines 1]⟩ : Run Shell SessionError Unit) :=
        .quiet (by simp [Trace.Quiet, Event.on?])
      exact hblankLine.after hasking
    · rw [take_line hblank]
      exact (failStop_execute text shell).after hasking

theorem failStop_converse (source : Source) (shell : Shell) : (shell.converse source).FailStop := by
  induction source generalizing shell with
  | nil =>
    have hquiet : Trace.Quiet [.told .endOfInput] := by simp [Trace.Quiet, Event.on?]
    exact ⟨by simp [converse, Trace.Unfailing, Event.Fails], (Trace.stops_singleton _).quiet hquiet⟩
  | cons item later ih =>
    have hfirst := failStop_take item shell
    rcases htake : take item shell with ⟨e | _, shell', trace⟩
    · rw [htake] at hfirst
      rw [converse_error htake]
      exact .of_error rfl hfirst.stops
    · rw [htake] at hfirst
      rw [converse_ok htake]
      exact (ih shell').after (hfirst.unfailing _ rfl)

end Shell

namespace Session

theorem failStop_talk (session : Session) : (talk session).FailStop := by
  have hgreet := Shell.failStop_showing [greeting] session.shell
  rw [← Shell.greet_eq] at hgreet
  rcases hrun : Shell.greet session.shell with ⟨e | _, shell, trace⟩
  · rw [hrun] at hgreet
    rw [talk_refused session hrun]
    exact .of_error rfl hgreet.stops
  · rw [hrun] at hgreet
    have hconverse := Shell.failStop_converse session.source shell
    have hclean : trace.Unfailing := hgreet.unfailing () rfl
    rw [talk_greeted session hrun]
    exact ⟨fun _ hanswer => hclean.append (hconverse.unfailing _ hanswer), .append hclean hconverse.stops⟩

theorem each_talk (session : Session) :
    Trace.Each (Orderly session.shell.timing) [] (talk session).trace := by
  obtain ⟨hgreet, hsettled⟩ := Shell.greet_orderly session.shell
  rcases hrun : Shell.greet session.shell with ⟨e | _, shell, trace⟩
  · rw [hrun] at hgreet
    rw [talk_refused session hrun]
    exact hgreet
  · rw [hrun] at hgreet hsettled
    obtain ⟨hpast, htiming⟩ := hsettled rfl
    have hconverse := Shell.each_converse session.source hpast shell
    rw [htiming] at hconverse
    rw [talk_greeted session hrun]
    exact hgreet.append hconverse

/-- **The order of events in a session.** Whatever the source, the link and the screen of a session give, and wherever
they fail: every event comes in order, and no call comes after one that failed. -/
theorem orderly_run (session : Session) :
    ∀ before e, before ++ [e] <+: (run session).trace →
      Orderly session.shell.timing before e ∧ (e.isCall = true → before.Unfailing) := by
  obtain ⟨last, hquiet, hrun⟩ := run_eq session
  have heach := (each_talk session).append (Orderly.each_quiet hquiet)
  have hstops := (failStop_talk session).stops.quiet hquiet
  intro before e hnext
  rw [hrun] at hnext
  exact ⟨heach before e hnext, hstops before e hnext⟩

/-- the first read of a session with one line: the greeting is shown and flushed, and so is the line sent -/
theorem orderly_run_at_first_read :
    let session : Session :=
      ⟨[.line "hi"], { client := { link := some ⟨{ arrivals := [.bytes [1, 0, 0, 0, 111]] }, {}⟩ } }⟩
    let before : Trace := [.wrote .screen (.ok (Utf8.encode greeting)), .wrote .screen (.ok [10]),
      .flushed .screen (.ok ()), .asked (.ok (some "hi")), .counted .linesRead 1, .wrote .link (.ok [104, 105]),
      .flushed .link (.ok ()), .counted .requestsSent 1, .counted .requestBytes 2]
    let e : Event := .read 4 (.ok [1, 0, 0, 0])
    before ++ [e] <+: (run session).trace ∧ Orderly true before e ∧ (e.isCall = true → before.Unfailing) := by
  intro session before e
  have htrace : (run session).trace.take 10 = before ++ [e] := by cbv
  have hnext : before ++ [e] <+: (run session).trace := htrace ▸ List.take_prefix 10 _
  exact ⟨hnext, orderly_run session before e hnext⟩

end Session

end QueryConsole
