import QueryConsole.Proofs.Client.Clues
import QueryConsole.Proofs.Session.Course

/-
What a session tells, and what a listener can conclude from it.

As long as lines are answered, nothing is told. So the clues of a session are those of its stop: the end of the input,
or the failure of an exchange, if it was one; that the link is given up; and the failure of the session, if it failed
(`Stop.clues`). The five ways to stop leave three different shapes, and so the clues tell which of them it was.

The clues of a client and of a session are told at two levels, failures and all else. A listener of low verbosity hears
the failures only, or nothing (`Clue.heard`).

Results:
- `Course.told`: the clues of a course, by induction on the course.
- `audible_eq_heard`: what a listener of some verbosity hears.
- `clues_tell_outcome`: clients, sessions and listeners.
-/

namespace QueryConsole

/-! ## Listeners -/

namespace Clue

/-- the clue tells a failure of a client or of a session -/
def isFailure : Clue → Bool
  | failed .. | sessionError _ => true
  | _ => false

/-- what is heard of the clues of a client or a session: all; or the failures; or nothing -/
def heard (verbosity : Nat) (clues : List Clue) : List Clue :=
  if info ≤ verbosity then clues else if error ≤ verbosity then clues.filter isFailure else []

/-- the clue is one of those that a client or a session tells after it has begun -/
inductive Usual : Clue → Prop
  | failed (text : String) (kind : FailureKind) : Usual (.failed text kind)
  | closed : Usual .closed
  | endOfInput : Usual .endOfInput
  | sessionError (text : String) : Usual (.sessionError text)

variable {clue : Clue} {clues : List Clue}

theorem Usual.level_eq (h : clue.Usual) : clue.level = if clue.isFailure then error else info := by
  cases h <;> rfl

theorem Usual.level_bounds (h : clue.Usual) : error ≤ clue.level ∧ clue.level ≤ info := by
  rw [h.level_eq]
  cases clue.isFailure <;> decide

/-- **What a listener hears.** -/
theorem audible_eq_heard (h : ∀ clue ∈ clues, clue.Usual) (verbosity : Nat) :
    audible verbosity clues = heard verbosity clues := by
  unfold audible heard
  split_ifs with hinfo herror
  · refine List.filter_eq_self.2 fun clue hclue => decide_eq_true ?_
    exact (h clue hclue).level_bounds.2.trans hinfo
  · refine List.filter_congr fun clue hclue => ?_
    rw [(h clue hclue).level_eq]
    cases clue.isFailure <;> simp [hinfo, herror]
  · refine List.filter_eq_nil_iff.2 fun clue hclue hheard => ?_
    exact herror ((h clue hclue).level_bounds.1.trans (of_decide_eq_true hheard))

end Clue

namespace Client

variable {line : String} {client : Client} {now : Client} {trace : Trace}

theorem used_of_send {answer : Except LinkError Unit} (h : send line client = ⟨answer, now, trace⟩)
    (hopen : client.isClosed = false) : Used client.limit ⟨answer, now, trace⟩ := by
  obtain ⟨limit, _ | link⟩ := client
  · cases hopen
  · rw [← h]
    exact used_send line limit link

theorem used_of_receive {answer : Except LinkError String} (h : receive client = ⟨answer, now, trace⟩)
    (hopen : client.isClosed = false) : Used client.limit ⟨answer, now, trace⟩ := by
  obtain ⟨limit, _ | link⟩ := client
  · cases hopen
  · rw [← h]
    exact used_receive limit link

end Client

/-! ## Sessions -/

/-- what a session tells that stopped for this reason -/
def Stop.clues : Stop → List Clue
  | finished => [.endOfInput, .closed]
  | asking cause => [.closed, .sessionError cause.message]
  | sending e | receiving e => [.failed e.message e.failureKind, .closed, .sessionError e.message]
  | showing cause => [.closed, .sessionError (SessionError.io cause).message]

namespace Session

variable {client : Client} {source : Source} {p : Proceedings}

/-- a session that fails over an open client gives it up and tells its failure -/
theorem clues_parting_open (h : client.isClosed = false) (e : SessionError) :
    (parting (.error e) client).clues = [.closed, .sessionError e.message] := by
  obtain ⟨limit, _ | link⟩ := client
  · cases h
  · rfl

end Session

theorem SessionError.clues_tally (cause : SessionError) : cause.tally.clues = [] := by
  cases cause <;> rfl

/-- a line that is answered tells nothing -/
theorem Shell.clues_answering {sent got : Trace} (hsent : sent.clues = []) (hgot : got.clues = []) {line : String} :
    (answering line (sent ++ got)).clues = [] := by
  rw [answering, List.append_assoc, List.append_assoc, Trace.clues_append, Trace.clues_silent hsent,
    Trace.clues_silent hgot]
  rfl

/-- **What a course tells** up to the end of its session, if the client is open before it. -/
theorem Course.told {client : Client} {source : Source} {p : Proceedings} (h : Course client source p)
    (hopen : client.isClosed = false) :
    (p.trace ++ Session.parting p.stop.answer p.client).clues = p.stop.clues := by
  induction h with
  | finished client =>
    obtain ⟨limit, _ | link⟩ := client
    · cases hopen
    · rfl
  | asking client cause later =>
    have hend := Session.clues_parting_open hopen cause
    have hnone : Trace.clues (.asked (.error cause) :: cause.tally) = [] := cause.clues_tally
    rw [Trace.clues_append, hnone]
    exact hend
  | blank none h ih => exact ih hopen
  | sending more send later =>
    cases Client.used_of_send send hopen with
    | lost other told =>
      rw [Trace.clues_append, Trace.clues_append, told]
      rfl
  | receiving more send receive later =>
    cases Client.used_of_send send hopen with
    | kept silent =>
      cases Client.used_of_receive receive rfl with
      | lost other told =>
        rw [Trace.clues_append, Trace.clues_append, Trace.clues_silent silent, told]
        rfl
  | showing more send receive later cause =>
    cases Client.used_of_send send hopen with
    | kept silent =>
      cases Client.used_of_receive receive rfl with
      | kept silent' =>
        rw [Trace.clues_silent (Shell.clues_answering silent silent')]
        exact Session.clues_parting_open rfl (.io cause)
  | answered more send receive h ih =>
    cases Client.used_of_send send hopen with
    | kept silent =>
      cases Client.used_of_receive receive rfl with
      | kept silent' => rw [List.append_assoc, Trace.clues_silent (Shell.clues_answering silent silent'), ih rfl]

namespace Stop

variable {stop : Stop}

/-- what is told tells the shape of the stop -/
theorem clues_eq_finished_iff : stop.clues = [.endOfInput, .closed] ↔ stop = .finished := by
  cases stop <;> simp [clues]

theorem clues_eq_exchange_iff :
    (∃ text kind text', stop.clues = [.failed text kind, .closed, .sessionError text']) ↔
      ∃ e, stop = .sending e ∨ stop = .receiving e := by
  cases stop <;> simp [clues]

theorem clues_eq_other_iff :
    (∃ text, stop.clues = [.closed, .sessionError text]) ↔
      (∃ cause, stop = .asking cause) ∨ ∃ cause, stop = .showing cause := by
  cases stop <;> simp [clues]

theorem answer_eq_ok_iff : stop.answer = .ok () ↔ stop = .finished := by
  cases stop <;> simp [answer]

/-- the last that a session tells that failed is its failure -/
theorem getLast?_clues {e : SessionError} (h : stop.answer = .error e) :
    stop.clues.getLast? = some (.sessionError e.message) := by
  cases stop <;> cases h <;> rfl

theorem usual_clues (stop : Stop) : ∀ clue ∈ stop.clues, clue.Usual := by
  cases stop <;> simp [clues, Clue.Usual.failed, Clue.Usual.closed, Clue.Usual.endOfInput, Clue.Usual.sessionError]

end Stop

/-- nothing is told by calls on the screen -/
theorem Trace.clues_offScreen (trace : Trace) : trace.offScreen.clues = trace.clues := by
  induction trace with
  | nil => rfl
  | cons e later ih =>
    by_cases he : e.on? = some .screen
    · have hnone : clues (e :: later) = clues later := by cases e <;> first | rfl | cases he
      rw [offScreen_cons_screen he, hnone, ih]
    · rw [offScreen_cons_other he]
      cases hclue : e.clue? <;> simpa [clues, hclue] using ih

namespace Session

variable {session : Session} {client : Client} {source : Source} {r : Run Session SessionError Unit} {p : Proceedings}

theorem Sitting.told (h : Sitting client source p) (hopen : client.isClosed = false) :
    (p.trace ++ parting p.stop.answer p.client).clues = p.stop.clues := by
  cases h with
  | unwelcome cause => exact clues_parting_open hopen (.io cause)
  | welcome course => exact course.told hopen

/-- **What a session tells** is told by its stop. -/
theorem Went.clues (h : Went session p r) (hopen : session.shell.client.isClosed = false) :
    r.trace.clues = p.stop.clues := by
  calc r.trace.clues
      = r.trace.offScreen.clues := (Trace.clues_offScreen r.trace).symm
    _ = (p.trace ++ parting p.stop.answer p.client).clues := by rw [h.apart]
    _ = p.stop.clues := h.sitting.told hopen

/-- **The clues tell the outcome.**
- Over any stream, any requests to one client and then its drop tell that the client is closed, and before that its one
  failure, if it had one; that an operation was refused as closed is never told.
- A session with an open client, over any source, stream and screen, tells the end of the input and the close exactly
  if it succeeds; the failure of the client, the close and the failure of the session exactly if an exchange failed; and
  the close and the failure of the session exactly if the source or the screen failed. The failure told last is the one
  that is returned, and for an exchange both have the same text.
- In both cases a listener hears all; or, at a verbosity below that of the ordinary course of a session, only the
  failures; or, below that of failures, nothing. -/
theorem clues_tell_outcome :
    (∀ (limit : UInt32) (link : Link) (requests : List Client.Request),
      let runs := Act.inTurn (requests.map Client.perform) ⟨limit, some link⟩
      let drop : Run Client LinkError Unit := Client.close (Run.lastState ⟨limit, some link⟩ runs)
      let clues := (Run.wholeTrace runs ++ drop.trace).clues
      (Client.losses runs = [] ∧ clues = [.closed] ∨
        ∃ e, Client.losses runs = [e] ∧
          clues = [.failed e.message (if e.isProtocol then .protocol else .transport), .closed]) ∧
      (∀ r ∈ runs, r.answer = .error .closed → r.trace.clues = []) ∧
      ∀ verbosity, Clue.audible verbosity clues = Clue.heard verbosity clues) ∧
    ∀ (source : Source) (limit : UInt32) (link : Link) (screen : Outflow) (timing : Bool) (laps : List Nat),
      let session : Session := ⟨source, ⟨⟨limit, some link⟩, screen, timing, laps⟩⟩
      let r := run session
      let clues := r.trace.clues
      ∃ p, Went session p r ∧
        (clues = [.endOfInput, .closed] ↔ r.answer = .ok ()) ∧
        ((∃ text kind text', clues = [.failed text kind, .closed, .sessionError text']) ↔
          ∃ e, p.stop = .sending e ∨ p.stop = .receiving e) ∧
        ((∃ text, clues = [.closed, .sessionError text]) ↔
          (∃ cause, p.stop = .asking cause) ∨ ∃ cause, p.stop = .showing cause) ∧
        (∀ e, p.stop = .sending e ∨ p.stop = .receiving e →
          r.answer = .error (.client e) ∧
          clues = [.failed e.message (if e.isProtocol then .protocol else .transport), .closed,
            .sessionError e.message]) ∧
        (∀ e, r.answer = .error e → clues.getLast? = some (.sessionError e.message)) ∧
        ∀ verbosity, Clue.audible verbosity clues = Clue.heard verbosity clues := by
  refine ⟨fun limit link requests => ?_, fun source limit link screen timing laps => ?_⟩
  · intro runs drop clues
    have htold := Client.told_life limit link requests
    refine ⟨htold, fun r hr => Client.refused_life hr, Clue.audible_eq_heard fun clue hclue => ?_⟩
    have hmem : clue ∈ clues := hclue
    rcases htold with ⟨-, hclues⟩ | ⟨e, -, hclues⟩
    · rw [show clues = _ from hclues, List.mem_singleton] at hmem
      exact hmem ▸ .closed
    · rw [show clues = _ from hclues] at hmem
      rcases List.mem_cons.1 hmem with rfl | hmem
      · exact .failed _ _
      · exact List.mem_singleton.1 hmem ▸ .closed
  · intro session r clues
    obtain ⟨p, hwent⟩ := went_run session
    have hclues : clues = p.stop.clues := hwent.clues rfl
    have hanswer : r.answer = p.stop.answer := hwent.answer
    clear_value clues
    subst hclues
    refine ⟨p, hwent, ?_, Stop.clues_eq_exchange_iff, Stop.clues_eq_other_iff, fun e he => ?_, fun e he => ?_,
      Clue.audible_eq_heard p.stop.usual_clues⟩
    · rw [hanswer, Stop.clues_eq_finished_iff, Stop.answer_eq_ok_iff]
    · rw [hanswer]
      rcases he with hstop | hstop <;> rw [hstop] <;> exact ⟨rfl, rfl⟩
    · exact Stop.getLast?_clues (hanswer ▸ he)

/-- the response announces too much -/
example : (run ⟨[.line "a"], ⟨⟨16, some ⟨{ arrivals := [.bytes [17, 0, 0, 0]] }, {}⟩⟩, {}, true, []⟩⟩).trace.clues =
    [.failed "malformed response: frame of 17 bytes exceeds the limit of 16 bytes" .protocol, .closed,
      .sessionError "malformed response: frame of 17 bytes exceeds the limit of 16 bytes"] := by
  decide +kernel

end Session

end QueryConsole
