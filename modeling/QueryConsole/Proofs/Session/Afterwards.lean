import QueryConsole.Proofs.Client.Accounts
import QueryConsole.Proofs.Session.Showing

/-
What a session comes to that is over, and what its requests count in all.

A session is over once its client is closed: its first run closes it, and so does an execution whose exchange fails.
Nothing opens it again. From then on an execution is refused at once. A run still greets the user and goes through the
source, but comes no further than the first line that is not blank (`Skimmed`, `Refused`).

Each request counts one close if it gives up the link that the session held, and one failure of a session if it is a run
that fails (`Booked`). So over all requests and the drop of the client there is one close.

Results:
- `skimmed_converse`: going through a source on a closed client, by induction on the source.
- `refused_perform`: one request to a session that is over.
- `refused_later`: all later requests, by induction on the requests.
- `booked_perform`, `booked_requests`: what one request counts, and what all count.
- `over_after_run`: both together.
-/

namespace QueryConsole

/-- the item is a line that is not to be sent -/
def SourceItem.IsBlank : SourceItem → Prop
  | .line text => isBlank text = true
  | .failure _ => False

/-! ## Going through a source with a closed client -/

/-- what going through a source comes to if nothing can be sent: the items that are taken, the answer, and what is left.
Blank lines are passed over, and the first other item is the end. -/
inductive Skimmed : Source → Source → Except SessionError Unit → Source → Prop
  /-- only blank lines were left -/
  | through {source : Source} (blank : ∀ item ∈ source, item.IsBlank) : Skimmed source source (.ok ()) []
  /-- a line that cannot be sent -/
  | line {blanks left : Source} {text : String} (blank : ∀ item ∈ blanks, item.IsBlank) (more : ¬ isBlank text = true) :
    Skimmed (blanks ++ .line text :: left) (blanks ++ [.line text]) (.error (.client .closed)) left
  /-- asking for a line failed -/
  | failure {blanks left : Source} {cause : SessionError} (blank : ∀ item ∈ blanks, item.IsBlank) :
    Skimmed (blanks ++ .failure cause :: left) (blanks ++ [.failure cause]) (.error cause) left

namespace Skimmed

variable {source taken left : Source} {answer : Except SessionError Unit} {item : SourceItem}

theorem cons (h : Skimmed source taken answer left) (hblank : item.IsBlank) :
    Skimmed (item :: source) (item :: taken) answer left := by
  cases h with
  | through blank => exact .through (List.forall_mem_cons.2 ⟨hblank, blank⟩)
  | line blank more => exact .line (List.forall_mem_cons.2 ⟨hblank, blank⟩) more
  | failure blank => exact .failure (List.forall_mem_cons.2 ⟨hblank, blank⟩)

/-- **It succeeds exactly if only blank lines were left.** -/
theorem ok_iff (h : Skimmed source taken answer left) : answer = .ok () ↔ ∀ item ∈ source, item.IsBlank := by
  cases h with
  | through blank => exact ⟨fun _ => blank, fun _ => rfl⟩
  | line blank more =>
    refine ⟨fun hok => (by cases hok), fun hall => ?_⟩
    exact absurd (hall _ (List.mem_append_right _ List.mem_cons_self)) more
  | failure blank =>
    refine ⟨fun hok => (by cases hok), fun hall => ?_⟩
    exact False.elim (hall _ (List.mem_append_right _ List.mem_cons_self))

end Skimmed

namespace Shell

variable {shell : Shell}

/-- on a closed client an execution is refused, and nothing else happens -/
theorem execute_closed (h : shell.client.isClosed = true) (line : String) :
    execute line shell = ⟨.error (.client .closed), shell, [.counted .closedError 1]⟩ := by
  obtain ⟨⟨limit, _ | link⟩, screen, timing, laps⟩ := shell
  · exact execute_error (exchange_closed line limit screen timing laps)
  · cases h

theorem skimmed_converse (source : Source) (h : shell.client.isClosed = true) :
    ∃ answer left trace, converse shell source = ⟨answer, (left, shell), trace⟩ ∧
      Skimmed source trace.items answer left ∧ Trace.Only .source trace := by
  induction source with
  | nil => exact ⟨_, _, _, rfl, .through (by simp), by simp [Trace.Only, Event.on?]⟩
  | cons item later ih =>
    cases item with
    | failure cause =>
      have hitems : Trace.items (.asked (.error cause) :: cause.tally) = [.failure cause] := by
        cases cause <;> rfl
      have hskimmed : Skimmed ([] ++ .failure cause :: later) ([] ++ [.failure cause]) (.error cause) later :=
        .failure (by simp)
      refine ⟨_, _, _, converse_error (take_failure cause shell) later, ?_, ?_⟩
      · rw [hitems]
        exact hskimmed
      · exact Trace.Only.append (a := [.asked (.error cause)]) (by simp [Trace.Only, Event.on?]) cause.quiet_tally.only
    | line line =>
      by_cases hblank : isBlank line = true
      · obtain ⟨answer, left, trace, hconverse, hskimmed, honly⟩ := ih
        have hitem : SourceItem.IsBlank (.line line) := hblank
        have hblankLine :
            Trace.Only .source [.asked (.ok (some line)), .counted .linesRead 1, .counted .blankLines 1] := by
          simp [Trace.Only, Event.on?]
        exact ⟨answer, left, _, (converse_blank hblank shell later).trans (congrArg _ hconverse), hskimmed.cons hitem,
          hblankLine.append honly⟩
      · have htake : take (.line line) shell =
            ⟨.error (.client .closed), shell, asking line ++ [.counted .closedError 1]⟩ := by
          rw [take_line hblank, execute_closed h]
          rfl
        have hskimmed : Skimmed ([] ++ .line line :: later) ([] ++ [.line line]) (.error (.client .closed)) later :=
          .line (by simp) hblank
        refine ⟨_, _, _, converse_error htake later, hskimmed, ?_⟩
        simp [Trace.Only, asking, Event.on?]

end Shell

/-! ## Requests to a session that is over -/

namespace Session

variable {session : Session} {request : Request} {r : Run Session SessionError Unit}

/-- what a request comes to when a session is over: an execution leaves everything as it is; a run greets and goes
through the source, and nothing is called on the link -/
inductive Refused (session : Session) : Request → Run Session SessionError Unit → Prop
  | execute (line : String) :
    Refused session (.execute line) ⟨.error (.client .closed), session, [.counted .closedError 1]⟩
  | run {answer : Except SessionError Unit} {left : Source} {screen : Outflow} {trace : Trace}
    (greeted : Trace.taken .screen trace = Shell.lineOf greeting)
    (skimmed : Skimmed session.source trace.items answer left)
    (finished : answer = .ok () ↔ ∀ item ∈ session.source, item.IsBlank) (unlinked : trace.onLink = []) :
    Refused session .run ⟨answer, ⟨left, { session.shell with screen }⟩, trace⟩

/-- a session that is over stays so -/
theorem Refused.isClosed (h : Refused session request r) (hclosed : session.shell.client.isClosed = true) :
    r.state.shell.client.isClosed = true := by
  cases h <;> exact hclosed

/-- **One request to a session that is over.** -/
theorem refused_perform (hclosed : session.shell.client.isClosed = true) (hscreen : session.shell.screen.NeverFails)
    (request : Request) : Refused session request (perform request session) := by
  obtain ⟨source, shell⟩ := session
  cases request with
  | execute line =>
    have hexecute : execute line ⟨source, shell⟩ =
        ⟨.error (.client .closed), ⟨source, shell⟩, [.counted .closedError 1]⟩ := by
      simp only [execute, withShell, Act.run_within, Shell.execute_closed hclosed line]
    rw [perform, hexecute]
    exact .execute line
  | run =>
    obtain ⟨screen, greeted, hgreet, -, honly, hsaid⟩ := Shell.showing_neverFails shell [greeting] hscreen
    have hclosed' : Client.isClosed (Shell.client { shell with screen }) = true := hclosed
    obtain ⟨answer, left, trace, hconverse, hskimmed, hsource⟩ := Shell.skimmed_converse source hclosed'
    have htalk := talk_greeted ⟨source, shell⟩ hgreet
    rw [hconverse] at htalk
    have hlast := quiet_parting answer shell.client
    have hstate : (⟨shell.client.limit, none⟩ : Client) = shell.client := by
      obtain ⟨⟨limit, _ | link⟩, _⟩ := shell
      · rfl
      · cases hclosed
    rw [perform, run_parting, htalk]
    have hrefused : Refused ⟨source, shell⟩ .run ⟨answer, ⟨left, { shell with screen }⟩,
        greeted ++ trace ++ parting answer shell.client⟩ := by
      refine .run ?_ ?_ hskimmed.ok_iff ?_
      · have hnone : Trace.taken .screen trace = [] := hsource.taken_eq_nil (by decide)
        simp [hsaid, hnone, hlast.taken_eq_nil]
      · have hfirst : Trace.items greeted = [] := honly.items_eq_nil (by decide)
        have hend : Trace.items (parting answer shell.client) = [] := hlast.only.items_eq_nil (o := .screen) (by decide)
        simpa [hfirst, hend] using hskimmed
      · have hfirst : greeted.onLink = [] := honly.onLink_eq_nil (by decide) (by decide)
        have hmid : trace.onLink = [] := hsource.onLink_eq_nil (by decide) (by decide)
        have hend : (parting answer shell.client).onLink = [] :=
          hlast.only.onLink_eq_nil (o := .screen) (by decide) (by decide)
        simp [hfirst, hmid, hend]
    simpa only [hstate] using hrefused

/-! ## All later requests -/

theorem neverFails_execute (line : String) {shell : Shell} (h : shell.screen.NeverFails) :
    (Shell.execute line shell).state.screen.NeverFails := by
  rcases hinvoke : Client.invoke line shell.client with ⟨e | text, client, trace⟩
  · rw [Shell.execute_failed hinvoke]
    exact h
  · obtain ⟨screen, seen, hshowing, hscreen, -⟩ := Shell.showing_neverFails
      { shell with client, laps := shell.laps.tail } (Shell.shown shell.timing text (shell.laps.headD 0)) h
    rw [Shell.execute_answered hinvoke, hshowing]
    exact hscreen

theorem neverFails_take (item : SourceItem) {shell : Shell} (h : shell.screen.NeverFails) :
    (Shell.take item shell).state.screen.NeverFails := by
  cases item with
  | failure cause => exact h
  | line line =>
    by_cases hblank : isBlank line = true
    · rw [Shell.take_blank hblank]
      exact h
    · rw [Shell.take_line hblank]
      exact neverFails_execute line h

theorem neverFails_converse (source : Source) {shell : Shell} (h : shell.screen.NeverFails) :
    (shell.converse source).state.2.screen.NeverFails := by
  exact Shell.converse_of_turns (p := fun before _ now => before.screen.NeverFails → now.screen.NeverFails)
    (fun _ => id) (fun item _ => neverFails_take item) (fun ha hb => hb ∘ ha) source shell h

/-- a screen that never fails is one after any request -/
theorem neverFails_perform (request : Request) (h : session.shell.screen.NeverFails) :
    (perform request session).state.shell.screen.NeverFails := by
  cases request with
  | execute line => exact neverFails_execute line h
  | run =>
    obtain ⟨screen, greeted, hgreet, hscreen, -⟩ := Shell.showing_neverFails session.shell [greeting] h
    rw [perform, run_parting, talk_greeted session hgreet]
    exact neverFails_converse session.source hscreen

/-- a request that is a run, or an execution that fails with a failure of the client, is the end of a session -/
theorem isClosed_perform (h : request = .run ∨ ∃ e, (perform request session).answer = .error (.client e)) :
    (perform request session).state.shell.client.isClosed = true := by
  cases request with
  | run =>
    rw [perform, run_parting]
    rfl
  | execute line =>
    obtain hrun | ⟨e, hanswer⟩ := h
    · cases hrun
    have hexecuted := Shell.executed line session.shell
    have hstate : (perform (.execute line) session).state.shell = (Shell.execute line session.shell).state := rfl
    have hsame : (perform (.execute line) session).answer = (Shell.execute line session.shell).answer := rfl
    rw [hstate]
    rw [hsame] at hanswer
    generalize Shell.execute line session.shell = r at hexecuted hanswer
    cases hexecuted with
    | failed exchange =>
      rw [Client.invoke_failure exchange]
      rfl
    | answered exchange showed =>
      obtain rfl : _ = _ := hanswer
      cases showed

/-- what requests leave of a session that is over -/
theorem lastState_closed (hclosed : session.shell.client.isClosed = true) (hscreen : session.shell.screen.NeverFails)
    (requests : List Request) :
    let last := Run.lastState session (Act.inTurn (requests.map perform) session)
    last.shell.client.isClosed = true ∧ last.shell.screen.NeverFails := by
  induction requests generalizing session with
  | nil => exact ⟨hclosed, hscreen⟩
  | cons request later ih =>
    exact ih ((refused_perform hclosed hscreen request).isClosed hclosed) (neverFails_perform request hscreen)

/-- **All requests after the end of a session are refused.** -/
theorem refused_later {requests : List Request} {k j : Nat} {later : Request} {r' : Run Session SessionError Unit}
    (hscreen : session.shell.screen.NeverFails) (hrequest : requests[k]? = some request)
    (hrun : (Act.inTurn (requests.map perform) session)[k]? = some r)
    (hends : request = .run ∨ ∃ e, r.answer = .error (.client e)) (hlater : k < j)
    (hrequest' : requests[j]? = some later) (hrun' : (Act.inTurn (requests.map perform) session)[j]? = some r') :
    Refused (Run.lastState session ((Act.inTurn (requests.map perform) session).take j)) later r' := by
  induction requests generalizing session k j with
  | nil => cases hrequest
  | cons first rest ih =>
    obtain _ | j := j
    · cases hlater
    simp only [List.map_cons, Act.inTurn, List.getElem?_cons_succ, List.take_succ_cons, Run.lastState]
      at hrequest' hrun' ⊢
    have hnever := neverFails_perform first hscreen
    cases k with
    | zero =>
      obtain rfl : first = request := by simpa using hrequest
      obtain rfl : perform first session = r := by simpa [Act.inTurn] using hrun
      obtain ⟨hclosed, hlast⟩ := lastState_closed (isClosed_perform hends) hnever (rest.take j)
      rw [Act.getElem?_inTurn, List.getElem?_map, hrequest'] at hrun'
      cases hrun'
      rw [Act.take_inTurn, ← List.map_take]
      exact refused_perform hclosed hlast later
    | succ k => exact ih hnever hrequest hrun (Nat.lt_of_succ_lt_succ hlater) hrequest' hrun'

/-! ## What requests count -/

/-- a part of a session counts one close if it gives up the link, and no failure of the session -/
structure Booked (before : Client) (trace : Trace) (now : Client) : Prop where
  closes : Trace.total .close trace + Client.held now = Client.held before
  failures : Trace.total .sessionError trace = 0

variable {before mid now client : Client} {a b : Trace}

theorem Booked.append (h : Booked before a mid) (h' : Booked mid b now) : Booked before (a ++ b) now where
  closes := by
    calc Trace.total .close (a ++ b) + Client.held now
        = Trace.total .close a + (Trace.total .close b + Client.held now) := by rw [Trace.total_append, Nat.add_assoc]
      _ = Trace.total .close a + Client.held mid := by rw [h'.closes]
      _ = Client.held before := h.closes
  failures := by rw [Trace.total_append, h.failures, h'.failures]

/-- calls on the screen count nothing -/
theorem booked_screen (h : a.offScreen = []) (client : Client) : Booked client a client := by
  have hcloses := Trace.total_offScreen .close a
  have hfailures := Trace.total_offScreen .sessionError a
  rw [h] at hcloses hfailures
  exact ⟨by rw [← hcloses]; exact Nat.zero_add _, hfailures.symm⟩

theorem booked_exchange (line : String) (client : Client) :
    Booked client (Client.invoke line client).trace (Client.invoke line client).state := by
  have hbooks := Client.accounted_invoke line client
  refine ⟨hbooks.closes, ?_⟩
  rw [hbooks.total (α := Unit) (by decide) (by decide) (fun _ => none) (fun _ => 0) fun call => ?_]
  · simp
  · rcases call with ⟨line, ⟨⟨⟩⟩ | _⟩ | ⟨⟨⟨⟩⟩ | text⟩ <;>
      simp [Client.Call.entries, Client.sending, Client.arrival, blame, Event.adds, LinkError.counter]

theorem booked_execute (line : String) (shell : Shell) :
    Booked shell.client (Shell.execute line shell).trace (Shell.execute line shell).state.client := by
  have hexchange := booked_exchange line shell.client
  have hexecuted := Shell.executed line shell
  generalize Shell.execute line shell = r at hexecuted
  cases hexecuted with
  | failed exchange =>
    rw [exchange] at hexchange
    exact hexchange
  | @answered text client trace seen answer screen exchange showed =>
    rw [exchange] at hexchange
    have htime : Booked client [.sampled .roundTrip] client := ⟨Nat.zero_add _, rfl⟩
    exact (hexchange.append htime).append (booked_screen showed.calls client)

theorem booked_take (item : SourceItem) (shell : Shell) :
    Booked shell.client (Shell.take item shell).trace (Shell.take item shell).state.client := by
  cases item with
  | failure cause =>
    rw [Shell.take_failure]
    cases cause with
    | client e => exact ⟨by cases e <;> exact Nat.zero_add _, by cases e <;> rfl⟩
    | _ => exact ⟨Nat.zero_add _, rfl⟩
  | line line =>
    by_cases hblank : isBlank line = true
    · rw [Shell.take_blank hblank]
      exact ⟨Nat.zero_add _, rfl⟩
    · have hasking : Booked shell.client (Shell.asking line) shell.client := ⟨Nat.zero_add _, rfl⟩
      rw [Shell.take_line hblank]
      exact hasking.append (booked_execute line shell)

theorem booked_converse (source : Source) (shell : Shell) :
    Booked shell.client (shell.converse source).trace (shell.converse source).state.2.client :=
  Shell.converse_of_turns (p := fun before trace now => Booked before.client trace now.client)
    (fun _ => ⟨Nat.zero_add _, rfl⟩) booked_take Booked.append source shell

theorem booked_talk (session : Session) :
    Booked session.shell.client (talk session).trace (talk session).state.shell.client := by
  obtain ⟨answer, screen, seen, hgreet, hshowed⟩ := Shell.showed_showing [greeting] session.shell
  rw [← Shell.greet_eq] at hgreet
  have hgreeted := booked_screen hshowed.calls session.shell.client
  cases answer with
  | error e =>
    rw [talk_refused session hgreet]
    exact hgreeted
  | ok _ =>
    rw [talk_greeted session hgreet]
    exact hgreeted.append (booked_converse session.source { session.shell with screen })

/-- closing a client that is open is one close -/
theorem booked_close (client : Client) :
    Booked client (Client.close client : Run Client SessionError Unit).trace ⟨client.limit, none⟩ := by
  obtain ⟨limit, _ | link⟩ := client <;> exact ⟨rfl, rfl⟩

/-- the request was a run, and it failed -/
def failedRun : Request × Run Session SessionError Unit → Bool
  | (.run, ⟨.error _, _, _⟩) => true
  | _ => false

/-- **What one request counts.** -/
theorem booked_perform (request : Request) (session : Session) :
    let r := perform request session
    Trace.total .close r.trace + Client.held r.state.shell.client = Client.held session.shell.client ∧
      Trace.total .sessionError r.trace = if failedRun (request, r) then 1 else 0 := by
  intro r
  cases request with
  | execute line =>
    obtain ⟨hcloses, hfailures⟩ := booked_execute line session.shell
    exact ⟨hcloses, hfailures⟩
  | run =>
    obtain ⟨hcloses, hfailures⟩ := booked_talk session
    have hrun : r = _ := run_parting session
    rw [hrun]
    rcases htalk : talk session with ⟨answer, ⟨source, ⟨⟨limit, link⟩, screen, timing, laps⟩⟩, trace⟩
    rw [htalk] at hcloses hfailures
    rw [Trace.total_append, Trace.total_append, hfailures, ← hcloses]
    cases link <;> cases answer <;> exact ⟨rfl, rfl⟩

/-- **What all requests count.** -/
theorem booked_requests (requests : List Request) (session : Session) :
    let runs := Act.inTurn (requests.map perform) session
    Trace.total .close (Run.wholeTrace runs) + Client.held (Run.lastState session runs).shell.client =
        Client.held session.shell.client ∧
      Trace.total .sessionError (Run.wholeTrace runs) = (requests.zip runs).countP failedRun := by
  induction requests generalizing session with
  | nil => exact ⟨Nat.zero_add _, rfl⟩
  | cons request later ih =>
    obtain ⟨hfirst, hfailed⟩ := booked_perform request session
    obtain ⟨hlater, hfailures⟩ := ih (perform request session).state
    simp only [List.map_cons, Act.inTurn, Run.wholeTrace_cons, Trace.total_append, Run.lastState, List.zip_cons_cons,
      List.countP_cons, hfailed, hfailures]
    exact ⟨by omega, Nat.add_comm _ _⟩

/-- **A session is over after its first run.** Requests to run a session and to execute lines out of turn, in any order,
over any source and any stream, on a screen that never fails. After the first run, whatever it returned, and after any
execution that failed with a failure of the client:
- the stream is given up, and no later request makes a call on the link;
- each later execution is refused and leaves everything else as it is, the screen included;
- each later run shows the greeting, takes items up to and including the first that is no blank line, and fails with a
  closed client at a line and with the failure at a failure; it succeeds exactly if only blank lines were left.
Over all requests and the drop of the client there is one close, and one failure of the session for each run that
returned an error. -/
theorem over_after_run (source : Source) (limit : UInt32) (link : Link) (screen : Outflow)
    (hscreen : screen.NeverFails) (timing : Bool) (laps : List Nat) (requests : List Request) :
    let session : Session := ⟨source, ⟨⟨limit, some link⟩, screen, timing, laps⟩⟩
    let runs := Act.inTurn (requests.map perform) session
    let drop : Run Client SessionError Unit := Client.close (Run.lastState session runs).shell.client
    let trace := Run.wholeTrace runs ++ drop.trace
    (∀ k request r, requests[k]? = some request → runs[k]? = some r →
      request = .run ∨ (∃ e, r.answer = .error (.client e)) →
        r.state.shell.client.isClosed = true ∧
        ∀ j later r', k < j → requests[j]? = some later → runs[j]? = some r' →
          Refused (Run.lastState session (runs.take j)) later r') ∧
    Trace.total .close trace = 1 ∧ Trace.total .sessionError trace = (requests.zip runs).countP failedRun := by
  intro session runs drop trace
  obtain ⟨hcloses, hfailures⟩ := booked_requests requests session
  refine ⟨fun k request r hrequest hrun hends => ⟨?_, fun j later r' hlater hrequest' hrun' => ?_⟩, ?_, ?_⟩
  · have hperform := hrun
    rw [Act.getElem?_inTurn, List.getElem?_map, hrequest] at hperform
    obtain rfl : perform request _ = r := Option.some.inj hperform
    exact isClosed_perform hends
  · exact refused_later hscreen hrequest hrun hends hlater hrequest' hrun'
  · have hdrop : Trace.total .close drop.trace = Client.held (Run.lastState session runs).shell.client :=
      (booked_close _).closes
    rw [Trace.total_append, hdrop]
    exact hcloses
  · have hdrop : Trace.total .sessionError drop.trace = 0 := (booked_close _).failures
    rw [Trace.total_append, hfailures, hdrop, Nat.add_zero]

/-- lines out of turn, and three runs: the first fails as the server is gone, the second at a failure of the source, and
the third at a line that it cannot send -/
theorem over_after_run_thrice :
    let source : Source := [.line "a", .line " ", .failure .interrupted, .line "b", .line "c"]
    let link : Link := ⟨{ arrivals := [.bytes [2, 0, 0, 0, 111, 107, 1, 0]] }, {}⟩
    let screen : Outflow := { intakes := [.takes 1, .refuses (.plain .interrupted)] }
    let session : Session := ⟨source, ⟨⟨16, some link⟩, screen, true, [1200]⟩⟩
    let requests : List Request := [.execute "x", .run, .execute "y", .run, .run]
    let runs := Act.inTurn (requests.map perform) session
    let drop : Run Client SessionError Unit := Client.close (Run.lastState session runs).shell.client
    screen.NeverFails ∧ (∃ r, runs[3]? = some r ∧ Refused (Run.lastState session (runs.take 3)) .run r) ∧
      Trace.total .close (Run.wholeTrace runs ++ drop.trace) = 1 := by
  intro source link screen session requests runs drop
  have hscreen : screen.NeverFails := by
    refine ⟨?_, rfl, by simp [screen], rfl⟩
    exact List.forall_mem_cons.2 ⟨.inl ⟨0, rfl⟩, List.forall_mem_singleton.2 (.inr ⟨_, rfl, rfl⟩)⟩
  obtain ⟨hover, hcloses, -⟩ := over_after_run source 16 link screen hscreen true [1200] requests
  obtain ⟨-, hlater⟩ := hover 1 .run _ rfl rfl (.inl rfl)
  exact ⟨hscreen, ⟨_, rfl, hlater 3 .run _ (by decide) rfl rfl⟩, hcloses⟩

end Session

end QueryConsole
