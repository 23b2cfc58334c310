import QueryConsole.Proofs.Session.Piped
import QueryConsole.Proofs.Session.Showing

/-
Failures name what failed.

A failure of the session says of itself what failed: the exchange with the server, asking for a line, or the output. It
is attributed if the trace bears it out (`Attributed`): an exchange with that failure took place, or the line source
gave it, or the screen denied a call for this cause. A trace that bears a failure out still does with more around it
(`Attributed.mono`), so a turn that fails is enough for all turns, and these for a whole session.

Where a user is asked for a line, the line source's own word for a failure is not enough: reading the line must have
ended in the fault that the failure tells of (`Misread`), whichever fault that is.

One failure is not attributed. A script that cannot be read is reported like output that cannot be written, and nothing
was written at all (`load_unattributed`).

Results:
- `attributed_take`, `attributed_converse`: a turn that fails, and going through a source, by induction on the source.
- `attributed_perform`: a session that is asked to run or to execute a line.
- `nextRead_fails_iff`: asking a user for a line, whatever reading it ends in.
- `failsAsking_ofReadings`, `failsAsking_feed`: users and the sources of a console fail by asking only.
- `attributed_iff`: all operations; failures are attributed exactly if no script fails to be read.
-/

namespace QueryConsole

/-! ## What bears a failure out -/

/-- the failure is one of asking for a line -/
def SessionError.IsAsking : SessionError → Prop
  | .readline _ | .interrupted => True
  | .client _ | .io _ => False

/-- reading a line ended in a fault, and the failure tells of it: an interruption is told as one, and any other fault but
the end of the input in its words -/
inductive Misread : Except ReadlineFault String → SessionError → Prop
  | interrupted : Misread (.error .interrupted) .interrupted
  | fault {fault : ReadlineFault} (more : fault ≠ .endOfInput) (goesOn : fault ≠ .interrupted) :
      Misread (.error fault) (.readline fault.message)

/-- a trace bears a failure out -/
def Attributed (trace : Trace) : SessionError → Prop
  | .client e => ∃ line client now did, Client.invoke line client = ⟨.error e, now, did⟩ ∧ did <:+: trace
  | .io cause => ∃ event ∈ trace, event.Denies cause
  | cause => .asked (.error cause) ∈ trace

namespace Attributed

variable {a b : Trace} {e : SessionError}

theorem mono (h : Attributed a e) (hab : a <:+: b) : Attributed b e := by
  cases e with
  | client e =>
    obtain ⟨line, client, now, did, hinvoke, hdid⟩ := h
    exact ⟨line, client, now, did, hinvoke, hdid.trans hab⟩
  | io cause =>
    obtain ⟨event, hevent, hdenies⟩ := h
    exact ⟨event, hab.subset hevent, hdenies⟩
  | readline reason => exact hab.subset h
  | interrupted => exact hab.subset h

theorem append (h : Attributed a e) (b : Trace) : Attributed (a ++ b) e := h.mono (List.prefix_append a b).isInfix

theorem after (h : Attributed b e) (a : Trace) : Attributed (a ++ b) e := h.mono (List.suffix_append a b).isInfix

/-- a failure of asking that the source gave -/
theorem asked (h : e.IsAsking) (b : Trace) : Attributed (.asked (.error e) :: b) e := by
  cases e with
  | client e => exact h.elim
  | io cause => exact h.elim
  | readline reason => exact List.mem_cons_self
  | interrupted => exact List.mem_cons_self

end Attributed

/-! ## Sources -/

/-- the failures of a source are failures of asking -/
def Source.FailsAsking (source : Source) : Prop := ∀ cause, .failure cause ∈ source → cause.IsAsking

/-- what a user gives to a session whose lines are read and kept like this, up to the end of the input -/
def Source.ofReadings : List (Except ReadlineFault String × Except ReadlineFault Unit) → Source
  | [] => []
  | (reading, keeping) :: later =>
    match SourceItem.ofReading reading keeping with
    | none => []
    | some item => item :: ofReadings later

/-- a script gives its lines if it is text; otherwise it fails like output that cannot be written -/
theorem Source.ofScript_cases (file : Except IoError Bytes) :
    (∃ text, file = .ok (Utf8.encode text) ∧ ofScript file = .ok (ofLines (linesOf text))) ∨
      ∃ cause, ofScript file = .error (.io cause) ∧ ∀ text, file ≠ .ok (Utf8.encode text) := by
  match file with
  | .error cause => exact .inr ⟨cause, rfl, fun text h => by cases h⟩
  | .ok bytes =>
    rcases hdecode : Utf8.decode bytes with fault | text
    · refine .inr ⟨.notText, ofScript_notText hdecode, ?_⟩
      rintro text heq
      cases heq
      rw [Utf8.decode_encode] at hdecode
      cases hdecode
    · exact .inl ⟨text, by rw [Utf8.encode_of_decode hdecode], ofScript_decoded hdecode⟩

theorem Source.failsAsking_ofLines (lines : List String) : (ofLines lines).FailsAsking := by
  intro cause hmem
  simp [ofLines] at hmem

theorem SessionError.isAsking_ofReadline (fault : ReadlineFault) : (ofReadline fault).IsAsking := by
  cases fault <;> trivial

/-- **Asking a user for a line fails exactly if reading it does**, and tells of that fault, if the line can be kept. -/
theorem Source.nextRead_fails_iff {reading : Except ReadlineFault String} {s : σ} {e : SessionError} :
    (nextRead reading (.ok ()) s).answer = .error e ↔ Misread reading e := by
  constructor
  · intro h
    rcases reading with fault | text
    · cases fault with
      | endOfInput => cases h
      | interrupted =>
        cases h
        exact .interrupted
      | _ =>
        cases h
        exact .fault nofun nofun
    · cases h
  · rintro (_ | ⟨hmore, hgoesOn⟩)
    · rfl
    · rename_i fault
      cases fault with
      | endOfInput => exact absurd rfl hmore
      | interrupted => exact absurd rfl hgoesOn
      | _ => rfl

theorem SourceItem.isAsking_of_ofReading {reading : Except ReadlineFault String} {keeping : Except ReadlineFault Unit}
    {cause : SessionError} (h : ofReading reading keeping = some (.failure cause)) : cause.IsAsking := by
  rcases reading with fault | text
  · cases fault <;> cases h <;> trivial
  · cases keeping with
    | ok => cases h
    | error fault =>
      rw [ofReading] at h
      split at h
      · cases h
      · cases h
        exact SessionError.isAsking_ofReadline fault

/-- a user fails by asking only, however reading and keeping lines end -/
theorem Source.failsAsking_ofReadings (readings : List (Except ReadlineFault String × Except ReadlineFault Unit)) :
    (ofReadings readings).FailsAsking := by
  induction readings with
  | nil => exact failsAsking_ofLines []
  | cons first later ih =>
    obtain ⟨reading, keeping⟩ := first
    intro cause hmem
    rw [ofReadings] at hmem
    split at hmem
    · cases hmem
    · next item hgiven =>
      rcases List.mem_cons.1 hmem with rfl | hlater
      · exact SourceItem.isAsking_of_ofReading hgiven
      · exact ih cause hlater

namespace Terminal

variable {terminal later : Terminal} {cause : SessionError}

theorem isAsking_of_item (h : terminal.item? = some (.failure cause, later)) : cause.IsAsking := by
  obtain ⟨reading, -, hgiven⟩ := item_eq_some_iff.1 h
  exact SourceItem.isAsking_of_ofReading hgiven

theorem failsAsking_source (terminal : Terminal) : terminal.source.FailsAsking := by
  rcases hitem : terminal.item? with _ | ⟨item, later⟩
  · rw [source_over hitem]
    exact Source.failsAsking_ofLines []
  · have hless := input_item_lt hitem
    have hlater := failsAsking_source later
    rw [source_item hitem]
    intro cause hmem
    rcases List.mem_cons.1 hmem with rfl | hmem
    · exact isAsking_of_item hitem
    · exact hlater cause hmem
termination_by terminal.input.length

end Terminal

/-- **The sources of a console fail by asking only.** -/
theorem Console.failsAsking_feed {plan : Console.Plan} {around : Console.Surroundings} {lines : Console.Feed}
    (h : feed plan around = .ok lines) : lines.source.FailsAsking := by
  unfold feed at h
  split at h
  · rcases Source.ofScript_cases around.script with ⟨text, -, hscript⟩ | ⟨cause, hscript, -⟩
    · rw [hscript] at h
      cases h
      exact Source.failsAsking_ofLines _
    · rw [hscript] at h
      cases h
  · cases h
    exact Terminal.failsAsking_source _

/-! ## Turns -/

namespace Shell

variable {shell shell' : Shell} {texts : List String} {line : String} {trace : Trace} {e : SessionError}

theorem attributed_showing (h : showing texts shell = ⟨.error e, shell', trace⟩) : Attributed trace e := by
  obtain ⟨answer, screen, seen, hshowing, hshowed⟩ := showed_showing texts shell
  rw [h] at hshowing
  cases hshowing
  cases hshowed with
  | @cut before last cause calls part denied => exact ⟨last, by simp, denied⟩

theorem attributed_execute (h : execute line shell = ⟨.error e, shell', trace⟩) : Attributed trace e := by
  have hexecuted := executed line shell
  rw [h] at hexecuted
  cases hexecuted with
  | failed exchange => exact ⟨line, _, _, _, exchange, List.infix_rfl⟩
  | answered exchange showed =>
    cases showed with
    | @cut before last cause calls part denied => exact ⟨last, by simp, denied⟩

/-- **A turn that fails bears its failure out.** -/
theorem attributed_take {item : SourceItem} (hitem : ∀ cause, item = .failure cause → cause.IsAsking)
    (h : take item shell = ⟨.error e, shell', trace⟩) : Attributed trace e := by
  cases item with
  | failure cause =>
    rw [take_failure] at h
    cases h
    exact .asked (hitem _ rfl) _
  | line line =>
    by_cases hblank : isBlank line = true
    · rw [take_blank hblank] at h
      cases h
    · rw [take_line hblank] at h
      rcases hexecute : execute line shell with ⟨answer, now, did⟩
      rw [hexecute] at h
      cases h
      exact (attributed_execute hexecute).after _

/-- **Going through a source bears its failure out.** -/
theorem attributed_converse {source : Source} (hsource : source.FailsAsking)
    (h : (shell.converse source).answer = .error e) : Attributed (shell.converse source).trace e := by
  induction source generalizing shell with
  | nil => cases h
  | cons item later ih =>
    have hitem : ∀ cause, item = .failure cause → cause.IsAsking := by
      rintro cause rfl
      exact hsource cause List.mem_cons_self
    have hlater : Source.FailsAsking later := fun cause hmem => hsource cause (List.mem_cons_of_mem _ hmem)
    rcases htake : take item shell with ⟨e' | _, shell', trace⟩
    · rw [converse_error htake] at h ⊢
      cases h
      exact attributed_take hitem htake
    · rw [converse_ok htake] at h ⊢
      exact (ih hlater h).after trace

end Shell

/-! ## Sessions -/

namespace Session

variable {session : Session} {e : SessionError}

theorem attributed_talk (hsource : session.source.FailsAsking) (h : (talk session).answer = .error e) :
    Attributed (talk session).trace e := by
  rcases hgreet : Shell.greet session.shell with ⟨e' | _, shell, trace⟩
  · rw [talk_refused session hgreet] at h ⊢
    cases h
    rw [Shell.greet_eq] at hgreet
    exact Shell.attributed_showing hgreet
  · rw [talk_greeted session hgreet] at h ⊢
    exact (Shell.attributed_converse hsource h).after trace

/-- **A session bears out how it fails**, whatever it was asked to do. -/
theorem attributed_perform (request : Request) (hsource : session.source.FailsAsking)
    (h : (perform request session).answer = .error e) : Attributed (perform request session).trace e := by
  cases request with
  | run =>
    rw [perform, run_parting] at h ⊢
    exact (attributed_talk hsource h).append _
  | execute line =>
    rcases hexecute : Shell.execute line session.shell with ⟨answer, shell, trace⟩
    have hrun : perform (.execute line) session = ⟨answer, { session with shell }, trace⟩ := by
      simp [perform, execute, withShell, hexecute]
    rw [hrun] at h ⊢
    cases h
    exact Shell.attributed_execute hexecute

end Session

/-! ## All operations -/

/-- an operation, with what it is done to -/
inductive Operation where
  /-- load a script, from what reading its file gives -/
  | load (file : Except IoError Bytes)
  /-- ask a script for a line -/
  | nextOfScript (lines : List String)
  /-- ask a user for a line; reading it, and keeping it in the history, end like this -/
  | nextOfUser (reading : Except ReadlineFault String) (keeping : Except ReadlineFault Unit)
  /-- ask a session to run, or to execute a line -/
  | request (request : Session.Request) (session : Session)

namespace Operation

variable {e : SessionError}

/-- an operation fails with this -/
def Fails : Operation → SessionError → Prop
  | load file, e => Source.ofScript file = .error e
  | nextOfScript lines, e => (Source.next (Source.ofLines lines)).answer = .error e
  | nextOfUser reading keeping, e => (Source.nextRead reading keeping ()).answer = .error e
  | request asked session, e => (Session.perform asked session).answer = .error e

/-- what an operation does; loading a script calls neither the link, nor a line source, nor the screen -/
def trace : Operation → Trace
  | load _ => []
  | nextOfScript lines => (Source.next (Source.ofLines lines)).trace
  | nextOfUser reading keeping => (Source.nextRead reading keeping ()).trace
  | request asked session => (Session.perform asked session).trace

/-- the source of a session, if there is one, fails by asking only; the history of a user, if there is one, takes any
line -/
def FailsAsking : Operation → Prop
  | nextOfUser _ keeping => keeping = .ok ()
  | request _ session => session.source.FailsAsking
  | _ => True

/-- what failed in an operation bears a failure out: reading a line, or what its trace shows -/
def BearsOut : Operation → SessionError → Prop
  | nextOfUser reading _, e => Misread reading e
  | operation, e => Attributed operation.trace e

/-- nothing bears out a script that cannot be read -/
theorem load_unattributed {file : Except IoError Bytes} (h : (load file).Fails e) : ¬ (load file).BearsOut e := by
  rcases Source.ofScript_cases file with ⟨text, -, hscript⟩ | ⟨cause, hscript, -⟩
  · cases hscript.symm.trans h
  · cases hscript.symm.trans h
    rintro ⟨event, hevent, -⟩
    cases hevent

/-- any other operation bears out how it fails -/
theorem bearsOut_other {operation : Operation} (hother : ∀ file, operation ≠ .load file)
    (hsource : operation.FailsAsking) (h : operation.Fails e) : operation.BearsOut e := by
  cases operation with
  | load file => exact absurd rfl (hother file)
  | nextOfScript lines =>
    cases lines with
    | nil => cases h
    | cons line later => cases h
  | nextOfUser reading keeping =>
    obtain rfl : keeping = .ok () := hsource
    exact Source.nextRead_fails_iff.1 h
  | request asked session => exact Session.attributed_perform asked hsource h

/-- **Failures are attributed exactly if no script fails to be read.** An operation whose source fails by asking only
bears out whatever it fails with, unless it loads a script that cannot be read or is not text. That failure is told as
if output could not be written. Asking a user for a line fails exactly if reading it ended in a fault, and every fault,
wherever it comes from, is told as a failure of asking: an interruption as one, and any other in its words. -/
theorem attributed_iff (operation : Operation) (h : operation.FailsAsking) :
    ((∀ e, operation.Fails e → operation.BearsOut e) ↔
      ∀ file, operation = .load file → ∃ text, file = .ok (Utf8.encode text)) ∧
    (∀ file e, operation = .load file → operation.Fails e →
      ∃ cause, e = .io cause ∧ e.message = "could not write output: " ++ cause.message) ∧
    (∀ reading keeping e, operation = .nextOfUser reading keeping → (operation.Fails e ↔ Misread reading e)) ∧
    ∀ fault, (SessionError.ofReadline fault).IsAsking ∧
      SessionError.ofReadline fault = if fault = .interrupted then .interrupted else .readline fault.message := by
  refine ⟨⟨?_, ?_⟩, ?_, ?_, fun fault => ⟨SessionError.isAsking_ofReadline fault, SessionError.ofReadline_eq fault⟩⟩
  · rintro hall file rfl
    rcases Source.ofScript_cases file with ⟨text, hfile, -⟩ | ⟨cause, hscript, -⟩
    · exact ⟨text, hfile⟩
    · exact absurd (hall (.io cause) hscript) (load_unattributed hscript)
  · intro htext e hfails
    apply bearsOut_other _ h hfails
    rintro file rfl
    obtain ⟨text, rfl⟩ := htext file rfl
    cases (Source.ofScript_encode text).symm.trans hfails
  · rintro file e rfl hfails
    rcases Source.ofScript_cases file with ⟨text, -, hscript⟩ | ⟨cause, hscript, -⟩
    · cases hscript.symm.trans hfails
    · cases hscript.symm.trans hfails
      exact ⟨cause, rfl, rfl⟩
  · rintro reading keeping e rfl
    obtain rfl : keeping = .ok () := h
    exact Source.nextRead_fails_iff

/-- a session whose user interrupts it after a blank line, one whose output is refused, and a user whose terminal is gone
when it is asked for a line: all bear out how they fail -/
theorem attributed_iff_of_run :
    let interrupted := Operation.request .run
      ⟨.ofReadings [(.ok " ", .ok ()), (.error .interrupted, .ok ())], { client := ⟨1024, none⟩ }⟩
    let refused := Operation.request .run
      ⟨[.line "a"], { client := ⟨1024, none⟩, screen := { intakes := [.refuses (.system 32)] } }⟩
    let gone := Operation.nextOfUser (.error (.io (.system 5))) (.ok ())
    (interrupted.FailsAsking ∧ interrupted.Fails .interrupted ∧ interrupted.BearsOut .interrupted) ∧
      (refused.FailsAsking ∧ refused.Fails (.io (.system 32)) ∧ refused.BearsOut (.io (.system 32))) ∧
      gone.FailsAsking ∧ gone.Fails (.readline "Input/output error (os error 5)") ∧
        ∀ cause, ¬ gone.Fails (.io cause) := by
  intro interrupted refused gone
  have hinterrupted : interrupted.FailsAsking :=
    Source.failsAsking_ofReadings [(.ok " ", .ok ()), (.error .interrupted, .ok ())]
  have hrefused : refused.FailsAsking := Source.failsAsking_ofLines ["a"]
  have hanswer : ∀ session, (Session.run session).answer = (Session.talk session).answer := by
    intro session
    rw [Session.run_parting]
  have hfails : interrupted.Fails .interrupted := (hanswer _).trans (by cbv)
  have hfails' : refused.Fails (.io (.system 32)) := (hanswer _).trans (by cbv)
  have hwords : ReadlineFault.message (.io (.system 5)) = "Input/output error (os error 5)" := by decide
  have hgone : ∀ e, gone.Fails e ↔ Misread (.error (.io (.system 5))) e :=
    fun e => (attributed_iff gone rfl).2.2.1 _ _ e rfl
  refine ⟨⟨hinterrupted, hfails, ?_⟩, ⟨hrefused, hfails', ?_⟩, rfl, ?_, ?_⟩
  · apply (attributed_iff interrupted hinterrupted).1.2 _ _ hfails
    intro file heq
    exact absurd heq (by simp [interrupted])
  · apply (attributed_iff refused hrefused).1.2 _ _ hfails'
    intro file heq
    exact absurd heq (by simp [refused])
  · rw [← hwords]
    exact (hgone _).2 (.fault (by decide) (by decide))
  · intro cause hfails
    cases (hgone _).1 hfails

/-- a script that is not there is told as output that could not be written, and nothing bears that out -/
theorem missing_script_unattributed :
    let missing := Operation.load (.error (.system 2))
    missing.Fails (.io (.system 2)) ∧
      (SessionError.io (.system 2)).message = "could not write output: No such file or directory (os error 2)" ∧
      ¬ missing.BearsOut (.io (.system 2)) := by
  intro missing
  have hfails : missing.Fails (.io (.system 2)) := rfl
  exact ⟨hfails, by decide, load_unattributed hfails⟩

end Operation

end QueryConsole
