import QueryConsole.Proofs.Session.Showing

/-
A session whose screen may fail, beside the same session on a screen that never fails.

Without times, two sessions over the same source and the same stream stay abreast (`Abreast`) turn by turn: they ask,
send, receive and show the same. They part when the screen of the one denies a call. That session is then over, and all
it has done apart from the screen is what the other one had done at the moment at which the text in question became due
(`Due`, `Cut`); the other one shows that text and goes on. So what the failing screen has taken is a front part of what
the other one takes.

Results:
- `Abreast.cut`: a turn in which the screen denies a call.
- `compared_turns`: all turns, by induction on the source.
- `compared_talk`: the greeting and all turns.
- `output_failure_cuts`: whole sessions.
-/

namespace QueryConsole

/-- no call on the object fails -/
def Trace.UnfailingOn (o : Object) (trace : Trace) : Prop := ∀ e ∈ trace, e.on? = some o → ¬ e.Fails

namespace Trace

variable {a b : Trace} {o : Object}

theorem UnfailingOn.append (ha : UnfailingOn o a) (hb : UnfailingOn o b) : UnfailingOn o (a ++ b) := by
  intro e he
  rcases List.mem_append.1 he with he | he
  · exact ha e he
  · exact hb e he

theorem unfailingOn_of_offScreen (h : offScreen a = a) : UnfailingOn .screen a :=
  fun e he hscreen => absurd hscreen (offScreen_eq_self_iff.1 h e he)

end Trace

namespace Source

variable {a b : Source}

theorem Unfailing.append (ha : a.Unfailing) (hb : b.Unfailing) : Unfailing (a ++ b) := by
  intro cause hmem
  rcases List.mem_append.1 hmem with hmem | hmem
  · exact ha cause hmem
  · exact hb cause hmem

theorem requests_append (h : a.Unfailing) (b : Source) : requests (a ++ b) = requests a ++ requests b := by
  induction a with
  | nil => rfl
  | cons item later ih =>
    have hlater : Unfailing later := fun cause hmem => h cause (List.mem_cons_of_mem _ hmem)
    cases item with
    | failure cause => exact absurd List.mem_cons_self (h cause)
    | line text =>
      by_cases hblank : isBlank text = true
      · rw [List.cons_append, requests_blank hblank, requests_blank hblank, ih hlater]
      · rw [List.cons_append, requests_line hblank, requests_line hblank, ih hlater, List.cons_append]

theorem unfailing_singleton (text : String) : Unfailing [.line text] := by
  simp [Unfailing]

end Source

namespace Session

variable {shell shell' : Shell} {source later left : Source} {past past' now now' trace trace' : Trace}
  {answer : Except SessionError Unit} {line text : String} {cause : IoError} {r r' : Run Session SessionError Unit}

/-! ## The moment at which a session is cut -/

/-- what an exchange of a line did that was answered with a text: the line was sent as a whole, and exactly the frame of
the text was received -/
structure Exchanged (line text : String) (exchange : Trace) : Prop where
  offScreen : exchange.offScreen = exchange
  asked : exchange.items = []
  sent : Trace.taken .link exchange = Utf8.encode line
  answered : Frame.encode (Utf8.encode text) = .ok (Trace.received exchange)

/-- what is due to be shown at a moment of a session, all that was due before it having been shown -/
inductive Due : Trace → Bytes → Prop
  /-- nothing has happened yet -/
  | greeting : Due [] (Shell.lineOf greeting)
  /-- all lines before this one were sent; it was asked for, and its exchange was answered -/
  | response {past exchange : Trace} {line text : String} (lines : past.items.Unfailing)
    (before : Trace.taken .link past = past.items.requests.flatMap Utf8.encode) (more : ¬ isBlank line = true)
    (exchanged : Exchanged line text exchange) : Due (past ++ Shell.asking line ++ exchange) (Shell.lineOf text)

/-- a session that its screen cuts, beside the other one: its last call is the one that the screen denied; up to there
it has done, apart from the screen, what the other one had done at a moment at which a text was due; all before that
text was shown, and a part of it; and the other one shows it -/
inductive Cut (source left : Source) (cause : IoError) : Trace → Trace → Prop
  | intro {before after moment rest : Trace} {last : Event} {due part : Bytes} (denied : last.Denies cause)
    (quiet : after.Quiet) (reached : Due moment due) (asked : source = moment.items ++ left)
    (same : before.offScreen = moment.offScreen)
    (shown : Trace.taken .screen before = Trace.taken .screen moment ++ part) (front : part <+: due)
    (whole : due <+: Trace.taken .screen rest) : Cut source left cause (before ++ last :: after) (moment ++ rest)

/-- what a session comes to, beside the same session on a screen that never fails: the same, or it is cut -/
inductive Compared (source : Source) (r r' : Run Session SessionError Unit) : Prop
  | agree (answer : r.answer = r'.answer) (left : r.state.source = r'.state.source)
    (client : r.state.shell.client = r'.state.shell.client) (same : r.trace.offScreen = r'.trace.offScreen)
    (shown : Trace.taken .screen r.trace = Trace.taken .screen r'.trace) (unfailing : r.trace.UnfailingOn .screen)
  | cut (cause : IoError) (answer : r.answer = .error (.io cause))
    (parted : Cut source r.state.source cause r.trace r'.trace)

/-- events that are no calls may come behind -/
theorem Cut.quiet (h : Cut source left cause trace trace') {last last' : Trace} (hlast : last.Quiet) :
    Cut source left cause (trace ++ last) (trace' ++ last') := by
  cases h with
  | intro denied quiet reached asked same shown front whole =>
    rw [List.append_assoc, List.cons_append, List.append_assoc]
    refine .intro denied (quiet.append hlast) reached asked same shown front (whole.trans ?_)
    rw [Trace.taken_append]
    exact List.prefix_append _ _

/-- the failing screen has taken a front part of what the other one takes -/
theorem Compared.taken_front (h : Compared source r r') : Trace.taken .screen r.trace <+: Trace.taken .screen r'.trace := by
  cases h with
  | agree answer left client same shown => exact shown ▸ List.prefix_refl _
  | cut cause answer parted =>
    generalize r.trace = trace, r'.trace = trace' at parted
    cases parted with
    | @intro before after moment rest last due part denied quiet reached asked same shown front whole =>
      have hafter : Trace.taken .screen after = [] := quiet.taken_eq_nil
      calc Trace.taken .screen (before ++ last :: after)
          = Trace.taken .screen before := by rw [Trace.taken_append, Trace.taken_cons, denied.taken, hafter]; simp
        _ = Trace.taken .screen moment ++ part := shown
        _ <+: Trace.taken .screen moment ++ Trace.taken .screen rest :=
          (List.prefix_append_right_inj _).2 (front.trans whole)
        _ = Trace.taken .screen (moment ++ rest) := (Trace.taken_append ..).symm

/-! ## Abreast -/

/-- two sessions that have done the same so far, and shown the same; all lines that they asked for were sent -/
structure Abreast (past past' : Trace) : Prop where
  same : past.offScreen = past'.offScreen
  shown : Trace.taken .screen past = Trace.taken .screen past'
  unfailing : past.UnfailingOn .screen
  lines : past'.items.Unfailing
  sent : Trace.taken .link past' = past'.items.requests.flatMap Utf8.encode

theorem Abreast.append (h : Abreast past past') (h' : Abreast now now') : Abreast (past ++ now) (past' ++ now') where
  same := by rw [Trace.offScreen_append, Trace.offScreen_append, h.same, h'.same]
  shown := by rw [Trace.taken_append, Trace.taken_append, h.shown, h'.shown]
  unfailing := h.unfailing.append h'.unfailing
  lines := by
    rw [Trace.items_append]
    exact h.lines.append h'.lines
  sent := by
    rw [Trace.taken_append, h.sent, h'.sent, Trace.items_append, Source.requests_append h.lines, List.flatMap_append]

/-- sessions that are abreast and end in the same way agree -/
theorem Abreast.agree (h : Abreast past past') (hclient : shell.client = shell'.client) (hnow : now.offScreen = now)
    (source : Source) (answer : Except SessionError Unit) (left : Source) :
    Compared source ⟨answer, ⟨left, shell⟩, past ++ now⟩ ⟨answer, ⟨left, shell'⟩, past' ++ now⟩ := by
  refine .agree rfl rfl hclient ?_ ?_ (h.unfailing.append (Trace.unfailingOn_of_offScreen hnow))
  · simp only [Trace.offScreen_append, h.same]
  · simp only [Trace.taken_append, h.shown]

/-! ## One turn -/

/-- two shells that differ in their screens only, as far as it matters without times; the second screen never fails -/
structure Alike (shell shell' : Shell) : Prop where
  client : shell.client = shell'.client
  timing : shell.timing = false
  timing' : shell'.timing = false
  screen : shell'.screen.NeverFails

/-- what a turn comes to on two such shells: both go on, abreast; both end, without the screen; or the screen denies a
call where the other one shows the response -/
inductive Turned : SourceItem → Run Shell SessionError Unit → Run Shell SessionError Unit → Prop
  | abreast {item : SourceItem} {first first' : Shell} {now now' : Trace} (same : Abreast now now')
    (asked : now'.items = [item]) (alike : Alike first first') :
    Turned item ⟨.ok (), first, now⟩ ⟨.ok (), first', now'⟩
  | ended {item : SourceItem} {e : SessionError} {first first' : Shell} {now : Trace}
    (client : first.client = first'.client) (calls : now.offScreen = now) :
    Turned item ⟨.error e, first, now⟩ ⟨.error e, first', now⟩
  | cut {line text : String} {cause : IoError} {first first' : Shell} {exchange before seen : Trace} {last : Event}
    (more : ¬ isBlank line = true) (exchanged : Exchanged line text exchange) (calls : before.offScreen = [])
    (part : Trace.taken .screen before <+: Shell.lineOf text) (denied : last.Denies cause)
    (whole : Trace.taken .screen seen = Shell.lineOf text) :
    Turned (.line line) ⟨.error (.io cause), first, Shell.asking line ++ exchange ++ (before ++ [last])⟩
      ⟨.ok (), first', Shell.asking line ++ exchange ++ seen⟩

/-- a blank line leaves sessions abreast -/
theorem abreast_blank (h : isBlank line = true) :
    Abreast (Shell.asking line ++ [.counted .blankLines 1]) (Shell.asking line ++ [.counted .blankLines 1]) := by
  refine ⟨rfl, rfl, Trace.unfailingOn_of_offScreen rfl, Source.unfailing_singleton line, ?_⟩
  exact (congrArg (List.flatMap Utf8.encode) (Source.requests_blank h [])).symm

theorem exchanged_invoke {client client' : Client} {trace : Trace}
    (h : Client.invoke line client = ⟨.ok text, client', trace⟩) :
    Exchanged line text (trace ++ [.sampled .roundTrip]) := by
  obtain ⟨-, -, -, -, hsent, hframe, -⟩ := Client.invoke_answered h
  have hoff := Client.offScreen_invoke line client
  have hitems := Client.items_invoke line client
  simp only [h] at hoff hitems
  refine ⟨?_, ?_, ?_, ?_⟩
  · rw [Trace.offScreen_append, hoff]
    rfl
  · rw [Trace.items_append, hitems]
    rfl
  · simp [hsent, Event.taken]
  · simpa [Event.received] using hframe

/-- a line that is exchanged and shown leaves sessions abreast -/
theorem abreast_shown {exchange seen seen' : Trace} (hblank : ¬ isBlank line = true) (h : Exchanged line text exchange)
    (calls : seen.offScreen = []) (calls' : seen'.offScreen = [])
    (shown : Trace.taken .screen seen = Trace.taken .screen seen') (unfailing : seen.Unfailing) :
    Abreast (Shell.asking line ++ exchange ++ seen) (Shell.asking line ++ exchange ++ seen') ∧
      Trace.items (Shell.asking line ++ exchange ++ seen') = [.line line] := by
  obtain ⟨hlink, -, hseen⟩ := Trace.views_on_screen calls'
  have hitems : Trace.items (Shell.asking line ++ exchange ++ seen') = [.line line] := by
    rw [Trace.items_append, Trace.items_append, h.asked, hseen]
    rfl
  have hquiet : Trace.offScreen (Shell.asking line ++ exchange) = Shell.asking line ++ exchange := by
    rw [Trace.offScreen_append, h.offScreen]
    rfl
  refine ⟨⟨?_, ?_, ?_, ?_, ?_⟩, hitems⟩
  · simp only [Trace.offScreen_append, calls, calls']
  · simp only [Trace.taken_append, shown]
  · exact (Trace.unfailingOn_of_offScreen hquiet).append fun e he _ => unfailing e he
  · rw [hitems]
    exact Source.unfailing_singleton line
  · rw [hitems, Source.requests_line hblank, Trace.taken_append, Trace.taken_append, h.sent, hlink]
    simp [Shell.asking, Event.taken, Source.requests]

/-- a line whose exchange is answered: the response is shown on both screens, or the first one cuts it -/
theorem turned_answered (h : Alike shell shell') (hblank : ¬ isBlank line = true) {client : Client} {trace : Trace}
    (hinvoke : Client.invoke line shell.client = ⟨.ok text, client, trace⟩) :
    Turned (.line line) (Shell.take (.line line) shell) (Shell.take (.line line) shell') := by
  obtain ⟨hclient, htiming, htiming', hscreen⟩ := h
  have hexchanged := exchanged_invoke hinvoke
  have hinvoke' := hinvoke
  rw [hclient] at hinvoke'
  have hdue : ∀ elapsed, (Shell.shown false text elapsed).flatMap Shell.lineOf = Shell.lineOf text := by
    simp [Shell.shown]
  obtain ⟨answer, screen, seen, hshowing, hshowed⟩ := Shell.showed_showing
    (Shell.shown shell.timing text (shell.laps.headD 0)) { shell with client, laps := shell.laps.tail }
  obtain ⟨screen', seen', hshowing', hscreen', hshowed'⟩ := Shell.showed_neverFails
    (Shell.shown shell'.timing text (shell'.laps.headD 0)) { shell' with client, laps := shell'.laps.tail } hscreen
  rw [Shell.take_line hblank, Shell.take_line hblank, Shell.execute_answered hinvoke, Shell.execute_answered hinvoke',
    hshowing, hshowing']
  simp only [Run.after, ← List.append_assoc (Shell.asking line)]
  rw [htiming] at hshowed
  rw [htiming'] at hshowed'
  cases hshowed' with
  | whole calls' taken' =>
    rw [hdue] at taken'
    cases hshowed with
    | whole calls taken unfailing =>
      rw [hdue] at taken
      obtain ⟨hsame, hasked⟩ := abreast_shown hblank hexchanged calls calls' (taken.trans taken'.symm) unfailing
      exact .abreast hsame hasked ⟨rfl, htiming, htiming', hscreen'⟩
    | cut calls part denied =>
      rw [hdue] at part
      exact .cut hblank hexchanged calls part denied taken'

/-- **One turn on two screens.** -/
theorem turned_take (h : Alike shell shell') (item : SourceItem) :
    Turned item (Shell.take item shell) (Shell.take item shell') := by
  cases item with
  | failure cause =>
    rw [Shell.take_failure, Shell.take_failure]
    refine .ended h.client ?_
    rw [Trace.offScreen_cons_other (by simp [Event.on?]), cause.quiet_tally.offScreen]
  | line line =>
    by_cases hblank : isBlank line = true
    · rw [Shell.take_blank hblank, Shell.take_blank hblank]
      exact .abreast (abreast_blank hblank) rfl h
    · rcases hinvoke : Client.invoke line shell.client with ⟨e | text, client, exchange⟩
      · have hoff := Client.offScreen_invoke line shell.client
        have hinvoke' := hinvoke
        rw [h.client] at hinvoke'
        rw [hinvoke] at hoff
        have hsame : Trace.offScreen exchange = exchange := hoff
        rw [Shell.take_line hblank, Shell.take_line hblank, Shell.execute_failed hinvoke,
          Shell.execute_failed hinvoke']
        refine .ended rfl ?_
        rw [Trace.offScreen_append, hsame]
        rfl
      · exact turned_answered h hblank hinvoke

/-! ## Turn by turn -/

/-- go through the source -/
def turns : Act Session SessionError Unit := fun session =>
  let r := session.shell.converse session.source
  ⟨r.answer, ⟨r.state.1, r.state.2⟩, r.trace⟩

theorem turns_ok {item : SourceItem} (h : Shell.take item shell = ⟨.ok (), shell', trace⟩) (later : Source) :
    turns ⟨item :: later, shell⟩ = (turns ⟨later, shell'⟩).after trace := by
  rw [turns, Shell.converse_ok h]
  rfl

theorem turns_error {item : SourceItem} {e : SessionError} (h : Shell.take item shell = ⟨.error e, shell', trace⟩)
    (later : Source) : turns ⟨item :: later, shell⟩ = ⟨.error e, ⟨later, shell'⟩, trace⟩ := by
  rw [turns, Shell.converse_error h]

/-- a turn in which the screen denies a call is where two sessions part -/
theorem Abreast.cut (h : Abreast past past') (hblank : ¬ isBlank line = true)
    {exchange before seen : Trace} {last : Event} (exchanged : Exchanged line text exchange)
    (calls : before.offScreen = [])
    (part : Trace.taken .screen before <+: Shell.lineOf text) (denied : last.Denies cause)
    (whole : Trace.taken .screen seen = Shell.lineOf text) (later : Source) (trace' : Trace) :
    Cut (past'.items ++ .line line :: later) later cause (past ++ (Shell.asking line ++ exchange ++ (before ++ [last])))
      (past' ++ (Shell.asking line ++ exchange ++ seen ++ trace')) := by
  have hcut : Cut (past'.items ++ .line line :: later) later cause
      (past ++ Shell.asking line ++ exchange ++ before ++ last :: [])
      (past' ++ Shell.asking line ++ exchange ++ (seen ++ trace')) := by
    refine .intro denied (by simp [Trace.Quiet]) (.response h.lines h.sent hblank exchanged) ?_ ?_ ?_ part ?_
    · simp [exchanged.asked, Shell.asking, Event.items]
    · simp only [Trace.offScreen_append, h.same, calls, List.append_nil]
    · simp only [Trace.taken_append, h.shown]
    · rw [Trace.taken_append, whole]
      exact List.prefix_append _ _
  simpa only [List.append_assoc] using hcut

/-- **All turns of a source.** -/
theorem compared_turns (source : Source) (h : Abreast past past') (halike : Alike shell shell') :
    Compared (past'.items ++ source) ((turns ⟨source, shell⟩).after past) ((turns ⟨source, shell'⟩).after past') := by
  -- a turn that is shown on both screens is one more thing that the two have done
  induction source generalizing past past' shell shell' with
  | nil => exact h.agree halike.client rfl _ _ _
  | cons item later ih =>
    have hturned := turned_take halike item
    generalize hrun : Shell.take item shell = r, hrun' : Shell.take item shell' = r' at hturned
    cases hturned with
    | abreast same asked alike =>
      have hlater := ih (h.append same) alike
      rw [Trace.items_append, asked, List.append_assoc, List.singleton_append] at hlater
      rw [turns_ok hrun, turns_ok hrun']
      simpa only [Run.after, List.append_assoc] using hlater
    | ended client calls =>
      rw [turns_error hrun, turns_error hrun']
      exact h.agree client calls _ _ _
    | cut more exchanged calls part denied whole =>
      rw [turns_error hrun, turns_ok hrun']
      exact .cut _ rfl (h.cut more exchanged calls part denied whole later _)

/-! ## Whole sessions -/

/-- **The greeting and all turns.** -/
theorem compared_talk (source : Source) (halike : Alike shell shell') :
    Compared source (talk ⟨source, shell⟩) (talk ⟨source, shell'⟩) := by
  obtain ⟨hclient, htiming, htiming', hscreen⟩ := halike
  obtain ⟨answer, screen, seen, hgreet, hshowed⟩ := Shell.showed_showing [greeting] shell
  obtain ⟨screen', seen', hgreet', hscreen', hshowed'⟩ := Shell.showed_neverFails [greeting] shell' hscreen
  rw [← Shell.greet_eq] at hgreet hgreet'
  have htalk' : talk ⟨source, shell'⟩ = (turns ⟨source, { shell' with screen := screen' }⟩).after seen' :=
    talk_greeted ⟨source, shell'⟩ hgreet'
  rw [htalk']
  cases hshowed' with
  | whole calls' taken' =>
    cases hshowed with
    | whole calls taken unfailing =>
      obtain ⟨hlink, -, hitems⟩ := Trace.views_on_screen calls'
      have habreast : Abreast seen seen' := by
        refine ⟨calls.trans calls'.symm, taken.trans taken'.symm, fun e he _ => unfailing e he, ?_, ?_⟩
        · simp [hitems, Source.Unfailing]
        · rw [hitems, hlink]
          rfl
      have htalk : talk ⟨source, shell⟩ = (turns ⟨source, { shell with screen }⟩).after seen :=
        talk_greeted ⟨source, shell⟩ hgreet
      have hlater : Alike { shell with screen } { shell' with screen := screen' } :=
        ⟨hclient, htiming, htiming', hscreen'⟩
      have hturns := compared_turns source habreast hlater
      rw [hitems, List.nil_append] at hturns
      rw [htalk]
      exact hturns
    | @cut before last cause calls part denied =>
      rw [talk_refused ⟨source, shell⟩ hgreet]
      have hpart : Trace.taken .screen before <+: Shell.lineOf greeting := by simpa using part
      have hcut : Cut source source cause (before ++ last :: [])
          ([] ++ (seen' ++ (turns ⟨source, { shell' with screen := screen' }⟩).trace)) := by
        refine .intro denied (by simp [Trace.Quiet]) .greeting rfl calls (List.nil_append _).symm hpart ?_
        rw [Trace.taken_append, taken']
        exact List.prefix_append _ _
      exact .cut cause rfl hcut

/-- closing the client at the end changes nothing about how two sessions compare -/
theorem Compared.run {session session' : Session} (h : Compared source (talk session) (talk session')) :
    Compared source (run session) (run session') := by
  rw [run_parting, run_parting]
  cases h with
  | agree answer left client same shown unfailing =>
    have hquiet := quiet_parting (talk session').answer (talk session').state.shell.client
    rw [answer, client]
    refine .agree rfl left rfl ?_ ?_ (unfailing.append (Trace.unfailingOn_of_offScreen hquiet.offScreen))
    · simp only [Trace.offScreen_append, same]
    · simp only [Trace.taken_append, shown]
  | cut cause answer parted => exact .cut cause answer (parted.quiet (quiet_parting _ _))

/-- **A screen that fails cuts a session cleanly.** A session without times on any screen, beside the same session on a
screen that never fails, over the same source and the same stream. What the screen takes is a front part of what the
other one takes, and the client is closed in the end. If no call on the screen fails, the two are the same. Otherwise
the session fails with what the screen denied the call for. This call is its last; all that it sent, received and took
from the source is what the other session had at the moment at which the text in question was due: nothing yet, if that
is the greeting; or the line of the response was sent as a whole, its frame received, and nothing after it. -/
theorem output_failure_cuts (source : Source) (client : Client) (screen screen' : Outflow)
    (hscreen : screen'.NeverFails) (laps laps' : List Nat) :
    let r := run ⟨source, ⟨client, screen, false, laps⟩⟩
    let r' := run ⟨source, ⟨client, screen', false, laps'⟩⟩
    Trace.taken .screen r.trace <+: Trace.taken .screen r'.trace ∧ r.state.shell.client.isClosed = true ∧
      Compared source r r' := by
  intro r r'
  have halike : Alike ⟨client, screen, false, laps⟩ ⟨client, screen', false, laps'⟩ := ⟨rfl, rfl, rfl, hscreen⟩
  have hcompared : Compared source r r' := (compared_talk source halike).run
  refine ⟨hcompared.taken_front, ?_, hcompared⟩
  show (Session.run _).state.shell.client.isClosed = true
  rw [run_parting]
  rfl

/-- a screen that breaks within the first response: the second line is not asked for -/
theorem output_failure_cuts_response :
    let source : Source := [.line "hi", .line "late"]
    let client : Client := ⟨16, some ⟨{ arrivals := [.bytes [2, 0, 0, 0, 111, 107, 1, 0, 0, 0, 33]] }, {}⟩⟩
    let screen : Outflow := { intakes := [.takes 22, .takes 1, .takes 1, .refuses (.plain .brokenPipe)] }
    let r := run ⟨source, ⟨client, screen, false, []⟩⟩
    let r' := run ⟨source, ⟨client, {}, false, []⟩⟩
    Outflow.NeverFails {} ∧ r.answer = .error (.io (.plain .brokenPipe)) ∧
      Trace.taken .screen r.trace <+: Trace.taken .screen r'.trace ∧
      Cut source [.line "late"] (.plain .brokenPipe) r.trace r'.trace := by
  intro source client screen r r'
  have hnever : Outflow.NeverFails {} := ⟨by simp, rfl, by simp, rfl⟩
  have hfails : (talk ⟨source, ⟨client, screen, false, []⟩⟩).answer = .error (.io (.plain .brokenPipe)) := by
    simp only [source, client, screen]
    cbv
  have hwhole : (talk ⟨source, ⟨client, {}, false, []⟩⟩).answer = .ok () := by
    simp only [source, client]
    cbv
  have hlate : (talk ⟨source, ⟨client, screen, false, []⟩⟩).state.source = [.line "late"] := by
    simp only [source, client, screen]
    cbv
  have hanswer : r.answer = .error (.io (.plain .brokenPipe)) := by rw [show r = _ from run_parting _, hfails]
  have hanswer' : r'.answer = .ok () := by rw [show r' = _ from run_parting _, hwhole]
  have hleft : r.state.source = [.line "late"] := by rw [show r = _ from run_parting _, hlate]
  obtain ⟨hfront, -, hcompared⟩ : Trace.taken .screen r.trace <+: Trace.taken .screen r'.trace ∧
      r.state.shell.client.isClosed = true ∧ Compared source r r' :=
    output_failure_cuts source client screen {} hnever [] []
  refine ⟨hnever, hanswer, hfront, ?_⟩
  cases hcompared with
  | agree answer =>
    rw [hanswer, hanswer'] at answer
    cases answer
  | cut cause answer parted =>
    rw [hanswer] at answer
    obtain rfl : IoError.plain .brokenPipe = cause := by simpa using answer
    rwa [hleft] at parted

end Session

end QueryConsole
