import QueryConsole.Proofs.Session.Pages

/-
The course of a session: how it goes through its source, turn by turn, and where it stops.

A course is told by the client and the source alone: which lines were answered, and by what; why the session stopped;
what it left; and all that it did apart from the screen (`Proceedings`, `Course`). Only whether and when the screen
failed a course cannot tell: there is one that stops after each answer, and one that stops at the greeting
(`Session.Sitting`). Apart from these there is one course through a source (`Course.unique`).

What is seen on the screen is told by the course: the greeting, and then a page for each answer, with its time if times
are shown (`pagesOf`). If the screen failed, that is why the session stopped (`Shows`).

Results:
- `Course.unique`: as long as the screen does not fail, there is one course.
- `course_converse`: going through a source goes a course, by induction on the source.
- `went_run`: and so does a whole session.
-/

namespace QueryConsole

/-! ## Courses -/

/-- why a session stopped -/
inductive Stop where
  /-- the input was over -/
  | finished
  /-- asking for a line failed -/
  | asking (cause : SessionError)
  /-- a line could not be sent -/
  | sending (e : LinkError)
  /-- a line was sent, and its response could not be received -/
  | receiving (e : LinkError)
  /-- the screen failed -/
  | showing (cause : IoError)

/-- how a session is answered that stopped for this reason -/
def Stop.answer : Stop → Except SessionError Unit
  | finished => .ok ()
  | asking cause => .error cause
  | sending e | receiving e => .error (.client e)
  | showing cause => .error (.io cause)

/-- what a session came to, apart from the screen -/
structure Proceedings where
  /-- the lines that were answered, with their responses -/
  answered : List (String × String) := []
  stop : Stop
  /-- what is left of the source -/
  left : Source
  client : Client
  trace : Trace

/-- what a line that is answered leaves, apart from the screen -/
def Shell.answering (line : String) (exchange : Trace) : Trace := asking line ++ exchange ++ [.sampled .roundTrip]

/-- **The courses through a source**, for a client that is in some state before it. -/
inductive Course : Client → Source → Proceedings → Prop
  /-- the input is over -/
  | finished (client : Client) :
    Course client [] { stop := .finished, left := [], client, trace := [.asked (.ok none), .told .endOfInput] }
  /-- asking for a line fails -/
  | asking (client : Client) (cause : SessionError) (later : Source) :
    Course client (.failure cause :: later)
      { stop := .asking cause, left := later, client, trace := .asked (.error cause) :: cause.tally }
  /-- a blank line is passed over -/
  | blank {client : Client} {line : String} {later : Source} {p : Proceedings} (none : isBlank line = true)
    (h : Course client later p) :
    Course client (.line line :: later) { p with trace := Shell.asking line ++ .counted .blankLines 1 :: p.trace }
  /-- a line cannot be sent -/
  | sending {client now : Client} {line : String} {e : LinkError} {sent : Trace} (more : ¬ isBlank line = true)
    (send : Client.send line client = ⟨.error e, now, sent⟩) (later : Source) :
    Course client (.line line :: later)
      { stop := .sending e, left := later, client := now, trace := Shell.asking line ++ sent }
  /-- a line is sent, and its response cannot be received -/
  | receiving {client mid now : Client} {line : String} {e : LinkError} {sent got : Trace}
    (more : ¬ isBlank line = true) (send : Client.send line client = ⟨.ok (), mid, sent⟩)
    (receive : Client.receive mid = ⟨.error e, now, got⟩) (later : Source) :
    Course client (.line line :: later)
      { stop := .receiving e, left := later, client := now, trace := Shell.asking line ++ (sent ++ got) }
  /-- a line is answered, and the screen fails -/
  | showing {client mid now : Client} {line response : String} {sent got : Trace} (more : ¬ isBlank line = true)
    (send : Client.send line client = ⟨.ok (), mid, sent⟩) (receive : Client.receive mid = ⟨.ok response, now, got⟩)
    (later : Source) (cause : IoError) :
    Course client (.line line :: later)
      { answered := [(line, response)], stop := .showing cause, left := later, client := now,
        trace := Shell.answering line (sent ++ got) }
  /-- a line is answered, and there is more to come -/
  | answered {client mid now : Client} {line response : String} {sent got : Trace} {later : Source} {p : Proceedings}
    (more : ¬ isBlank line = true) (send : Client.send line client = ⟨.ok (), mid, sent⟩)
    (receive : Client.receive mid = ⟨.ok response, now, got⟩) (h : Course now later p) :
    Course client (.line line :: later)
      { p with answered := (line, response) :: p.answered,
               trace := Shell.answering line (sent ++ got) ++ p.trace }

/-- **There is one course** through a source, unless the screen fails. -/
theorem Course.unique {client : Client} {source : Source} {p p' : Proceedings} (h : Course client source p)
    (h' : Course client source p') (hstop : ∀ cause, p.stop ≠ .showing cause)
    (hstop' : ∀ cause, p'.stop ≠ .showing cause) : p = p' := by
  induction h generalizing p' with
  | finished =>
    cases h'
    rfl
  | asking =>
    cases h'
    rfl
  | blank none h ih =>
    cases h' with
    | blank _ h' => rw [ih h' hstop hstop']
    | sending more | receiving more | showing more | answered more => exact absurd none more
  | sending more send =>
    cases h' with
    | blank none => exact absurd none more
    | sending _ send' =>
      cases send.symm.trans send'
      rfl
    | receiving _ send' | showing _ send' | answered _ send' => cases send.symm.trans send'
  | receiving more send receive =>
    cases h' with
    | blank none => exact absurd none more
    | sending _ send' => cases send.symm.trans send'
    | receiving _ send' receive' =>
      cases send.symm.trans send'
      cases receive.symm.trans receive'
      rfl
    | showing _ send' receive' | answered _ send' receive' =>
      cases send.symm.trans send'
      cases receive.symm.trans receive'
  | showing more send receive later cause => exact absurd rfl (hstop cause)
  | answered more send receive h ih =>
    cases h' with
    | blank none => exact absurd none more
    | sending _ send' => cases send.symm.trans send'
    | receiving _ send' receive' =>
      cases send.symm.trans send'
      cases receive.symm.trans receive'
    | showing _ _ _ later cause => exact absurd rfl (hstop' cause)
    | answered _ send' receive' h' =>
      cases send.symm.trans send'
      cases receive.symm.trans receive'
      rw [ih h' hstop hstop']

/-! ## Exchanges, call by call -/

namespace Client

variable {line : String} {client : Client}

/-- what an exchange comes to: its line is not sent; it is sent and not answered; or it is answered -/
inductive Invoked (line : String) (client : Client) : Run Client LinkError String → Prop
  | unsent {e : LinkError} {now : Client} {sent : Trace} (send : send line client = ⟨.error e, now, sent⟩) :
    Invoked line client ⟨.error e, now, sent⟩
  | unanswered {e : LinkError} {mid now : Client} {sent got : Trace} (send : send line client = ⟨.ok (), mid, sent⟩)
    (receive : receive mid = ⟨.error e, now, got⟩) : Invoked line client ⟨.error e, now, sent ++ got⟩
  | answered {response : String} {mid now : Client} {sent got : Trace}
    (send : send line client = ⟨.ok (), mid, sent⟩) (receive : receive mid = ⟨.ok response, now, got⟩) :
    Invoked line client ⟨.ok response, now, sent ++ got⟩

theorem invoked (line : String) (client : Client) : Invoked line client (invoke line client) := by
  rcases hsend : send line client with ⟨e | _, mid, sent⟩
  · rw [invoke_failed hsend]
    exact .unsent hsend
  · rcases hreceive : receive mid with ⟨e | response, now, got⟩
    · rw [invoke_sent hsend, hreceive]
      exact .unanswered hsend hreceive
    · rw [invoke_sent hsend, hreceive]
      exact .answered hsend hreceive

end Client

/-! ## What is seen -/

/-- the pages of some responses; the first of the times belongs to the first -/
def pagesOf (timing : Bool) (laps : List Nat) (responses : List String) : List Bytes :=
  responses.mapIdx fun i text => (Shell.shown timing text (laps.getD i 0)).flatMap Shell.lineOf

theorem pagesOf_cons (timing : Bool) (laps : List Nat) (text : String) (later : List String) :
    pagesOf timing laps (text :: later) =
      (Shell.shown timing text (laps.headD 0)).flatMap Shell.lineOf :: pagesOf timing laps.tail later := by
  cases laps <;> simp [pagesOf, List.mapIdx_cons]

/-- some pages are made on the screen, and nothing fails on it; or the session stopped because it denied a call -/
inductive Shows (pages : List Bytes) : Stop → Trace → Prop
  | whole {stop : Stop} {trace : Trace} (other : ∀ cause, stop ≠ .showing cause) (paged : trace.Paged pages) :
    Shows pages stop trace
  | cut {cause : IoError} {trace : Trace} {e : Event} (mem : e ∈ trace) (denied : e.Denies cause) :
    Shows pages (.showing cause) trace

namespace Shows

variable {made pages : List Bytes} {stop : Stop} {a b : Trace}

/-- pages come before it -/
theorem after (h : Shows pages stop b) (ha : a.Paged made) : Shows (made ++ pages) stop (a ++ b) := by
  cases h with
  | whole other paged => exact .whole other (ha.append paged)
  | cut mem denied => exact .cut (List.mem_append_right _ mem) denied

/-- the screen is not called before it -/
theorem after_offScreen (h : Shows pages stop b) (ha : a.offScreen = a) : Shows pages stop (a ++ b) :=
  h.after (.of_offScreen ha)

/-- nothing is called after it -/
theorem before_quiet (h : Shows pages stop a) (hb : b.Quiet) : Shows pages stop (a ++ b) := by
  cases h with
  | whole other paged =>
    have hboth : (a ++ b).Paged (pages ++ []) := paged.append (.of_offScreen hb.offScreen)
    rw [List.append_nil] at hboth
    exact .whole other hboth
  | cut mem denied => exact .cut (List.mem_append_left _ mem) denied

end Shows

/-! ## Going through a source -/

namespace Shell

variable {shell : Shell} {line response : String} {later : Source} {p : Proceedings} {client now : Client}
  {trace seen : Trace} {r : Run (Source × Shell) SessionError Unit}

/-- going through a source went this way -/
structure Goes (shell : Shell) (p : Proceedings) (r : Run (Source × Shell) SessionError Unit) : Prop where
  answer : r.answer = p.stop.answer
  left : r.state.1 = p.left
  client : r.state.2.client = p.client
  apart : r.trace.offScreen = p.trace
  shows : Shows (pagesOf shell.timing shell.laps (p.answered.map Prod.snd)) p.stop r.trace
  /-- a screen that never fails is no reason to stop -/
  steady : shell.screen.NeverFails → ∀ cause, p.stop ≠ .showing cause

/-- a run that does not call the screen -/
theorem Goes.of_offScreen (answer : r.answer = p.stop.answer) (left : r.state.1 = p.left)
    (client : r.state.2.client = p.client) (trace : r.trace = p.trace) (nothing : p.answered = [])
    (apart : p.trace.offScreen = p.trace) (other : ∀ cause, p.stop ≠ .showing cause) : Goes shell p r where
  answer := answer
  left := left
  client := client
  apart := trace ▸ apart
  shows := by
    rw [trace, nothing]
    exact .whole other (.of_offScreen apart)
  steady _ := other

/-- an exchange does not call the screen -/
theorem offScreen_of_invoke {answer : Except LinkError String} (h : Client.invoke line client = ⟨answer, now, trace⟩) :
    trace.offScreen = trace := by
  have hexchange := Client.offScreen_invoke line client
  rwa [h] at hexchange

theorem offScreen_asking (line : String) : (asking line).offScreen = asking line := rfl

/-- a line whose exchange fails is the last -/
theorem goes_failed {e : LinkError} (hmore : ¬ isBlank line = true)
    (h : Client.invoke line shell.client = ⟨.error e, now, trace⟩) (later : Source) {stop : Stop}
    (hanswer : stop.answer = .error (.client e)) (hother : ∀ cause, stop ≠ .showing cause) :
    Goes shell { stop, left := later, client := now, trace := asking line ++ trace }
      (shell.converse (.line line :: later)) := by
  have htake : take (.line line) shell = ⟨.error (.client e), { shell with client := now }, asking line ++ trace⟩ := by
    rw [take_line hmore, execute_failed h]
    rfl
  rw [converse_error htake]
  refine .of_offScreen hanswer.symm rfl rfl rfl rfl ?_ hother
  rw [Trace.offScreen_append, offScreen_asking, offScreen_of_invoke h]

theorem offScreen_answering (h : Client.invoke line client = ⟨.ok response, now, trace⟩) :
    (answering line trace).offScreen = answering line trace := by
  rw [answering, Trace.offScreen_append, Trace.offScreen_append, offScreen_of_invoke h]
  rfl

theorem take_answered (hmore : ¬ isBlank line = true)
    (h : Client.invoke line shell.client = ⟨.ok response, now, trace⟩) :
    take (.line line) shell = (showing (shown shell.timing response (shell.laps.headD 0))
      { shell with client := now, laps := shell.laps.tail }).after (answering line trace) := by
  rw [take_line hmore, execute_answered h]
  simp [Run.after, answering]

variable {screen : Outflow}

/-- a line whose response cannot be shown is the last -/
theorem goes_cut {cause : IoError} (hmore : ¬ isBlank line = true)
    (h : Client.invoke line shell.client = ⟨.ok response, now, trace⟩)
    (hshowing : showing (shown shell.timing response (shell.laps.headD 0))
      { shell with client := now, laps := shell.laps.tail } =
        ⟨.error (.io cause), { shell with client := now, screen, laps := shell.laps.tail }, seen⟩)
    (hcalls : seen.offScreen = []) {e : Event} (hmem : e ∈ seen) (hdenied : e.Denies cause) (later : Source) :
    Goes shell { answered := [(line, response)], stop := .showing cause, left := later, client := now,
                 trace := answering line trace } (shell.converse (.line line :: later)) := by
  have htake := take_answered hmore h
  rw [hshowing] at htake
  rw [converse_error htake]
  refine ⟨rfl, rfl, rfl, ?_, .cut (List.mem_append_right _ hmem) hdenied, fun hscreen => ?_⟩
  · rw [Trace.offScreen_append, offScreen_answering h, hcalls, List.append_nil]
  · cases (showing_steady hshowing hscreen).1

/-- a line whose response is shown comes before what follows it -/
theorem goes_answered (hmore : ¬ isBlank line = true)
    (h : Client.invoke line shell.client = ⟨.ok response, now, trace⟩)
    (hshowing : showing (shown shell.timing response (shell.laps.headD 0))
      { shell with client := now, laps := shell.laps.tail } =
        ⟨.ok (), { shell with client := now, screen, laps := shell.laps.tail }, seen⟩)
    (hcalls : seen.offScreen = [])
    (hgoes : Goes { shell with client := now, screen, laps := shell.laps.tail } p
      (converse { shell with client := now, screen, laps := shell.laps.tail } later)) :
    Goes shell { p with answered := (line, response) :: p.answered, trace := answering line trace ++ p.trace }
      (shell.converse (.line line :: later)) := by
  have htake := take_answered hmore h
  rw [hshowing] at htake
  rw [converse_ok htake]
  refine ⟨hgoes.answer, hgoes.left, hgoes.client, ?_, ?_, fun hscreen => ?_⟩
  · rw [Run.trace_after, Trace.offScreen_append, Trace.offScreen_append, offScreen_answering h, hcalls,
      List.append_nil, hgoes.apart]
  · have hfirst := (Trace.Paged.of_offScreen (offScreen_answering h)).append (paged_showing hshowing)
    rw [List.map_cons, pagesOf_cons]
    exact hgoes.shows.after hfirst
  · exact hgoes.steady (showing_steady hshowing hscreen).2

/-- **Going through a source goes a course.** -/
theorem course_converse (source : Source) (shell : Shell) :
    ∃ p, Course shell.client source p ∧ Goes shell p (shell.converse source) := by
  induction source generalizing shell with
  | nil => exact ⟨_, .finished _, .of_offScreen rfl rfl rfl rfl rfl rfl (by simp)⟩
  | cons item later ih =>
    cases item with
    | failure cause =>
      rw [converse_error (take_failure cause shell)]
      refine ⟨_, .asking _ cause later, .of_offScreen rfl rfl rfl rfl rfl ?_ (by simp)⟩
      rw [Trace.offScreen_cons_other (by simp [Event.on?]), cause.quiet_tally.offScreen]
    | line line =>
      by_cases hblank : isBlank line = true
      · obtain ⟨p, hcourse, hgoes⟩ := ih shell
        rw [converse_blank hblank]
        refine ⟨_, .blank hblank hcourse, hgoes.answer, hgoes.left, hgoes.client, ?_, ?_, hgoes.steady⟩
        · rw [Run.trace_after, Trace.offScreen_append, hgoes.apart]
          rfl
        · exact hgoes.shows.after_offScreen rfl
      · have hinvoked := Client.invoked line shell.client
        rcases hinvoke : Client.invoke line shell.client with ⟨answer, now, trace⟩
        rw [hinvoke] at hinvoked
        cases hinvoked with
        | unsent send => exact ⟨_, .sending hblank send later, goes_failed hblank hinvoke later rfl (by simp)⟩
        | unanswered send receive =>
          exact ⟨_, .receiving hblank send receive later, goes_failed hblank hinvoke later rfl (by simp)⟩
        | @answered response mid now sent got send receive =>
          obtain ⟨answer, screen, seen, hshowing, hshowed⟩ := showed_showing
            (shown shell.timing response (shell.laps.headD 0)) { shell with client := now, laps := shell.laps.tail }
          have hcalls := hshowed.calls
          cases hshowed with
          | whole =>
            obtain ⟨p, hcourse, hgoes⟩ := ih { shell with client := now, screen, laps := shell.laps.tail }
            exact ⟨_, .answered hblank send receive hcourse, goes_answered hblank hinvoke hshowing hcalls hgoes⟩
          | cut _ _ denied =>
            exact ⟨_, .showing hblank send receive later _,
              goes_cut hblank hinvoke hshowing hcalls (List.mem_append_right _ List.mem_cons_self) denied later⟩

end Shell

/-! ## Whole sessions -/

namespace Session

variable {session : Session} {client : Client} {source : Source} {p p' : Proceedings}

/-- the courses of a whole session: one through its source; or none if the greeting cannot be shown -/
inductive Sitting (client : Client) (source : Source) : Proceedings → Prop
  | unwelcome (cause : IoError) : Sitting client source { stop := .showing cause, left := source, client, trace := [] }
  | welcome {p : Proceedings} (course : Course client source p) : Sitting client source p

theorem Sitting.unique (h : Sitting client source p) (h' : Sitting client source p')
    (hstop : ∀ cause, p.stop ≠ .showing cause) (hstop' : ∀ cause, p'.stop ≠ .showing cause) : p = p' := by
  cases h with
  | unwelcome cause => exact absurd rfl (hstop cause)
  | welcome course =>
    cases h' with
    | unwelcome cause => exact absurd rfl (hstop' cause)
    | welcome course' => exact course.unique course' hstop hstop'

/-- a session went this way; it ended with its client closed -/
structure Went (session : Session) (p : Proceedings) (r : Run Session SessionError Unit) : Prop where
  sitting : Sitting session.shell.client session.source p
  answer : r.answer = p.stop.answer
  left : r.state.source = p.left
  client : r.state.shell.client = ⟨p.client.limit, none⟩
  apart : r.trace.offScreen = p.trace ++ parting p.stop.answer p.client
  shows : Shows (Shell.lineOf greeting :: pagesOf session.shell.timing session.shell.laps (p.answered.map Prod.snd))
    p.stop r.trace
  /-- a screen that never fails is no reason to stop -/
  steady : session.shell.screen.NeverFails → ∀ cause, p.stop ≠ .showing cause

/-- **A session goes a course.** -/
theorem went_run (session : Session) : ∃ p, Went session p (run session) := by
  obtain ⟨answer, screen, seen, hshowing, hshowed⟩ := Shell.showed_showing [greeting] session.shell
  have hcalls := hshowed.calls
  have hgreet := hshowing
  rw [← Shell.greet_eq] at hgreet
  cases hshowed with
  | @cut before last cause _ _ denied =>
    have htalk := talk_refused session hgreet
    refine ⟨_, .unwelcome cause, ?_, ?_, ?_, ?_, ?_, fun hscreen => ?_⟩
    · rw [run_parting, htalk]
      rfl
    · rw [run_parting, htalk]
    · rw [run_parting, htalk]
    · rw [run_parting, htalk, Trace.offScreen_append, hcalls, (quiet_parting _ _).offScreen]
      rfl
    · rw [run_parting, htalk]
      exact .cut (by simp) denied
    · cases (Shell.showing_steady hshowing hscreen).1
  | whole =>
    have htalk := talk_greeted session hgreet
    obtain ⟨p, hcourse, hgoes⟩ := Shell.course_converse session.source { session.shell with screen }
    refine ⟨p, .welcome hcourse, ?_, ?_, ?_, ?_, ?_, fun hscreen => hgoes.steady ?_⟩
    · rw [run_parting, htalk]
      exact hgoes.answer
    · rw [run_parting, htalk]
      exact hgoes.left
    · rw [run_parting, htalk, hgoes.client]
    · rw [run_parting, htalk, Trace.offScreen_append, Trace.offScreen_append, hcalls, hgoes.apart, hgoes.answer,
        hgoes.client, (quiet_parting _ _).offScreen, List.nil_append]
    · rw [run_parting, htalk]
      have hpages := hgoes.shows.after (Shell.paged_showing hshowing)
      rw [List.flatMap_singleton] at hpages
      exact hpages.before_quiet (quiet_parting _ _)
    · exact (Shell.showing_steady hshowing hscreen).2

end Session

end QueryConsole
