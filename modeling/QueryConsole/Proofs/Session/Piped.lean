import Mathlib
import QueryConsole.CommandLine
import QueryConsole.Proofs.Session.Asking
import QueryConsole.Proofs.Session.Scripts

/-
A script and piped standard input.

A script is cut into its lines before the session begins. Standard input is cut line by line, as the session asks: bytes
first, text afterwards, with the line remembered in a history. Asking standard input agrees with asking the source of
all that it will ever give, whatever the input holds (`agree_source`); so does asking two inputs with different
histories (`agree_history`). What an input gives that is text without backspaces is the lines of that text
(`readAll_encode`), by induction on the text, one line at a time.

Results:
- `sit_same_run`: a session that reads standard input as it goes is the session over all that the input will give.
- `sit_history`: the history changes nothing.
- `script_as_piped`: a script and an input with the same text give the same session, and the same run of the program.
-/

namespace QueryConsole

namespace Terminal

variable {terminal later : Terminal} {item : SourceItem} {chars : List Char} {text : String}

/-! ## All that asking will give -/

theorem readAllOn_over (h : terminal.item? = none) (given : Source) :
    terminal.readAllOn given = (given.reverse, terminal) := by
  rw [readAllOn]
  split <;> simp_all

theorem readAllOn_item (h : terminal.item? = some (item, later)) (given : Source) :
    terminal.readAllOn given = later.readAllOn (item :: given) := by
  rw [readAllOn]
  split <;> simp_all

/-- what was given before comes first -/
theorem readAllOn_eq (given : Source) (terminal : Terminal) :
    terminal.readAllOn given = (given.reverse ++ terminal.readAll.1, terminal.readAll.2) := by
  rw [readAll]
  rcases h : terminal.item? with _ | ⟨item, later⟩
  · rw [readAllOn_over h, readAllOn_over h, List.reverse_nil, List.append_nil]
  · have hless := input_item_lt h
    rw [readAllOn_item h, readAllOn_item h, readAllOn_eq (item :: given) later, readAllOn_eq [item] later]
    simp
termination_by terminal.input.length

theorem readAll_over (h : terminal.item? = none) : terminal.readAll = ([], terminal) := readAllOn_over h []

theorem readAll_item (h : terminal.item? = some (item, later)) :
    terminal.readAll = (item :: later.readAll.1, later.readAll.2) := by
  rw [readAll, readAllOn_item h, readAllOn_eq]
  rfl

theorem source_over (h : terminal.item? = none) : terminal.source = [] := by
  rw [source, readAll_over h]

theorem source_item (h : terminal.item? = some (item, later)) : terminal.source = item :: later.source := by
  rw [source, readAll_item h]
  rfl

/-! ## Standard input as a supply -/

theorem next_none (h : terminal.item? = none) : next terminal = ⟨.ok none, terminal, [.asked (.ok none)]⟩ := by
  rcases hread : terminal.readLine with _ | ⟨reading, later⟩
  · simp only [next, hread]
    rfl
  · by_cases hover : terminal.input = []
    · rw [next_readLine (readLine_over hover)]
      rfl
    · obtain ⟨⟨item, hitem⟩, -⟩ := readLine_more hover hread
      cases h.symm.trans (item_eq_some_iff.2 ⟨reading, hread, hitem⟩)

/-- asking for a line gives the item that there is -/
theorem next_item (h : terminal.item? = some (item, later)) : next terminal = Source.give (some item) later := by
  obtain ⟨reading, hread, hitem⟩ := item_eq_some_iff.1 h
  rw [next_readLine hread, Source.nextRead, hitem]

theorem next_line (h : terminal.item? = some (.line text, later)) :
    next terminal = ⟨.ok (some text), later, [.asked (.ok (some text))]⟩ := next_item h

theorem next_failure {cause : SessionError} (h : terminal.item? = some (.failure cause, later)) :
    next terminal = ⟨.error cause, later, .asked (.error cause) :: cause.tally⟩ := next_item h

/-- standard input is asked for its lines; each one takes some of it -/
def supply : Supply Terminal where
  ask := next
  size terminal := terminal.input.length
  lessens {terminal line} h := by
    rcases hitem : terminal.item? with _ | ⟨_ | cause, later⟩
    · rw [next_none hitem] at h
      cases h
    · rw [next_line hitem]
      exact input_item_lt hitem
    · rw [next_failure hitem] at h
      cases h

/-- an input agrees with the source of all that it will give -/
theorem agree_source : supply.Agree Source.supply fun terminal source => terminal.source = source := by
  rintro terminal _ rfl
  show (next terminal).Same _ (Source.next terminal.source)
  rcases hitem : terminal.item? with _ | ⟨_ | cause, later⟩
  · rw [next_none hitem, source_over hitem]
    exact ⟨rfl, source_over hitem, rfl⟩
  · rw [next_line hitem, source_item hitem]
    exact ⟨rfl, rfl, rfl⟩
  · rw [next_failure hitem, source_item hitem]
    exact ⟨rfl, rfl, rfl⟩

/-- the history after an item -/
def remembering (history : List String) : SourceItem → List String
  | .line text => remember text history
  | .failure _ => history

/-- what an input gives does not depend on the history -/
theorem item_history (input : Bytes) (history : List String) :
    item? ⟨input, history⟩ =
      (item? ⟨input, []⟩).map fun (item, later) => (item, ⟨later.input, remembering history item⟩) := by
  unfold item? readLine
  by_cases hover : input = []
  · simp only [if_pos hover]
    rfl
  · simp only [if_neg hover]
    cases Utf8.decode (cutLine 0x0A 0x0D input).1 with
    | error fault => rfl
    | ok keys =>
      simp only
      cases eraseBackspaces keys with
      | none => rfl
      | some line => rfl

/-- inputs that differ in their histories only agree -/
theorem agree_history : supply.Agree supply fun terminal terminal' => terminal.input = terminal'.input := by
  rintro ⟨input, history⟩ ⟨_, history'⟩ rfl
  show (next ⟨input, history⟩).Same _ (next ⟨input, history'⟩)
  have hitem := item_history input history
  have hitem' := item_history input history'
  rcases hgiven : item? ⟨input, []⟩ with _ | ⟨_ | cause, later⟩ <;> rw [hgiven] at hitem hitem'
  · rw [next_none hitem, next_none hitem']
    exact ⟨rfl, rfl, rfl⟩
  · rw [next_line hitem, next_line hitem']
    exact ⟨rfl, rfl, rfl⟩
  · rw [next_failure hitem, next_failure hitem']
    exact ⟨rfl, rfl, rfl⟩

/-! ## Text without backspaces -/

/-- the next line of a text is given as it is -/
theorem item_encode (hkeys : backspace ∉ chars) (hmore : chars ≠ []) (history : List String) :
    item? ⟨Utf8.encode (.ofList chars), history⟩ =
      some (.line (.ofList (cutLine '\n' '\r' chars).1), ⟨Utf8.encode (.ofList (cutLine '\n' '\r' chars).2),
        remember (.ofList (cutLine '\n' '\r' chars).1) history⟩) := by
  have hline : backspace ∉ (String.ofList (cutLine '\n' '\r' chars).1).toList := by
    rw [String.toList_ofList]
    exact fun hmem => hkeys (mem_of_mem_cutLine (.inl hmem))
  have hbytes : Utf8.encode (.ofList chars) ≠ [] := Utf8.encode_ne_nil fun hnil => hmore (by simpa using hnil)
  rw [item?, readLine, if_neg hbytes, Utf8.cutLine_encode]
  simp only [Utf8.decode_encode, erase_of_notMem hline]
  rfl

/-- **A text without backspaces gives its lines**, and then the end of the input. -/
theorem readAll_encode {chars : List Char} (hkeys : backspace ∉ chars) (history : List String) :
    ∃ history', readAll ⟨Utf8.encode (.ofList chars), history⟩ =
      (.ofLines ((splitLines '\n' '\r' chars).map .ofList), ⟨[], history'⟩) := by
  by_cases hmore : chars = []
  · rw [hmore]
    exact ⟨history, readAll_over rfl⟩
  · have hrest : backspace ∉ (cutLine '\n' '\r' chars).2 := fun hmem => hkeys (mem_of_mem_cutLine (.inr hmem))
    obtain ⟨history', hlater⟩ := readAll_encode hrest
      (remember (.ofList (cutLine '\n' '\r' chars).1) history)
    refine ⟨history', ?_⟩
    rw [readAll_item (item_encode hkeys hmore history), hlater, splitLines_eq_cutLine '\n' '\r' hmore]
    rfl
termination_by chars.length
decreasing_by exact length_cutLine_lt '\n' '\r' hmore

theorem source_encode (hkeys : backspace ∉ text.toList) (history : List String) :
    source ⟨Utf8.encode text, history⟩ = .ofLines (Source.linesOf text) := by
  obtain ⟨history', hall⟩ := readAll_encode hkeys history
  rw [String.ofList_toList] at hall
  rw [source, hall]
  rfl

theorem breaks_encode (hkeys : backspace ∉ text.toList) (history : List String) :
    breaks ⟨Utf8.encode text, history⟩ = false := by
  obtain ⟨history', hall⟩ := readAll_encode hkeys history
  rw [String.ofList_toList] at hall
  rw [breaks, hall]
  rfl

end Terminal

/-! ## The same session -/

namespace Supply

variable {σ τ : Type} {a : Supply σ} {b : Supply τ} {related : σ → τ → Prop} {s : σ} {t : τ} {lines : List String}

/-- supplies that agree give the same answers, however often they are asked -/
theorem Agree.answers (h : a.Agree b related) (hst : related s t) (n : Nat) :
    (Act.inTurn (List.replicate n a.ask) s).map (·.answer) =
      (Act.inTurn (List.replicate n b.ask) t).map (·.answer) := by
  induction n generalizing s t with
  | zero => rfl
  | succ n ih =>
    obtain ⟨hanswer, hstate, -⟩ := h hst
    rw [List.replicate_succ, List.replicate_succ, Act.inTurn, Act.inTurn, List.map_cons, List.map_cons, hanswer,
      ih hstate]

/-- supplies that agree play the same lines -/
theorem Agree.plays (h : a.Agree b related) (hst : related s t) :
    Act.Plays a.ask s lines ↔ Act.Plays b.ask t lines := by
  unfold Act.Plays
  simp only [h.answers hst]

end Supply

/-- **A session that reads standard input as it goes** is the session over all that the input will give. -/
theorem Terminal.sit_same_run (terminal : Terminal) (shell : Shell) :
    (Terminal.supply.sit terminal shell).Same
      (fun piped session => piped.1.source = session.source ∧ piped.2 = session.shell)
      (Session.run ⟨terminal.source, shell⟩) := by
  obtain ⟨hanswer, hstate, htrace⟩ := Supply.sit_same Terminal.agree_source rfl shell
  rw [Session.sit_source] at hanswer hstate htrace
  exact ⟨hanswer, hstate, htrace⟩

/-- **The history changes nothing**: sessions over the same input, whatever it holds, are the same for all histories. -/
theorem Terminal.sit_history (input : Bytes) (history history' : List String) (shell : Shell) :
    (Terminal.supply.sit ⟨input, history⟩ shell).Same
      (Supply.Beside fun terminal terminal' => terminal.input = terminal'.input)
      (Terminal.supply.sit ⟨input, history'⟩ shell) := by
  apply Supply.sit_same Terminal.agree_history
  rfl

namespace Console

variable {text : String} {plan : Plan} {around : Surroundings}

/-- the lines of a console with a script -/
theorem feed_script {path : String} (hpath : plan.settings.script = some path)
    (hfile : around.script = .ok (Utf8.encode text)) :
    feed plan around = .ok { source := .ofLines (Source.linesOf text) } := by
  simp only [feed, hpath, hfile, Source.ofScript_encode]
  rfl

/-- the lines of a console without a script; nothing else is written for them, and nothing ends the program -/
theorem feed_input (hkeys : backspace ∉ text.toList) (hpath : plan.settings.script = none)
    (hinput : around.input = Utf8.encode text) (hprompt : Terminal.writesPrompt around.terminal = false) :
    feed plan around = .ok { source := .ofLines (Source.linesOf text) } := by
  simp only [feed, hpath, hinput, Terminal.source_encode hkeys, Terminal.breaks_encode hkeys, hprompt]
  rfl

end Console

/-- **A script and standard input with the same text give the same session**, if there is no backspace in it. Both play
the lines of the text, whatever is in the history. Their sessions are answered alike and make the same calls, one by
one, with any client and any screen; so the same bytes are sent and received, the same is shown and the same is counted.
The program leaves the same, if the terminal is not of a kind that the prompt is written to. -/
theorem Source.script_as_piped {text : String} (hkeys : backspace ∉ text.toList) :
    ∃ source, ofScript (.ok (Utf8.encode text)) = .ok source ∧
      Act.Plays next source (linesOf text) ∧
      (∀ history, Act.Plays Terminal.next ⟨Utf8.encode text, history⟩ (linesOf text)) ∧
      (∀ (history : List String) (shell : Shell),
        (Terminal.supply.sit ⟨Utf8.encode text, history⟩ shell).Same
          (fun piped session => piped.1.source = session.source ∧ piped.2 = session.shell)
          (Session.run ⟨source, shell⟩)) ∧
      ∀ (plan : Console.Plan) (around : Console.Surroundings) (path : String),
        Terminal.writesPrompt around.terminal = false →
          Console.converse { plan with settings := { plan.settings with script := some path } }
              { around with script := .ok (Utf8.encode text) } =
            Console.converse { plan with settings := { plan.settings with script := none } }
              { around with input := Utf8.encode text } := by
  refine ⟨ofLines (linesOf text), ofScript_encode text, plays_ofLines _, ?_, ?_, ?_⟩
  · intro history
    have hsource := Terminal.source_encode hkeys history
    exact (Terminal.agree_source.plays hsource).2 (plays_ofLines (linesOf text))
  · intro history shell
    have hsame := Terminal.sit_same_run ⟨Utf8.encode text, history⟩ shell
    rwa [Terminal.source_encode hkeys history] at hsame
  · intro plan around path hprompt
    have hscript : Console.feed { plan with settings := { plan.settings with script := some path } }
        { around with script := .ok (Utf8.encode text) } = .ok { source := ofLines (linesOf text) } :=
      Console.feed_script rfl rfl
    have hinput : Console.feed { plan with settings := { plan.settings with script := none } }
        { around with input := Utf8.encode text } = .ok { source := ofLines (linesOf text) } :=
      Console.feed_input hkeys rfl rfl hprompt
    simp only [Console.converse, hscript, hinput]

/-- a text with both endings, a blank line, a line that begins with a space, a line that is given twice, and a last line
without an ending; the history holds a line of it already -/
theorem Source.script_as_piped_mixed :
    let text := "a\r\n\n b\na\na"
    let connection : Except IoError Link := .ok { inflow := ⟨[], none⟩ }
    backspace ∉ text.toList ∧ Terminal.writesPrompt "xterm" = false ∧
      Act.Plays Terminal.next ⟨Utf8.encode text, ["a"]⟩ ["a", "", " b", "a", "a"] ∧
      Console.converse ⟨{ script := some "session.sql" }, ⟨"localhost", 2000⟩⟩
          { connection, script := .ok (Utf8.encode text), terminal := "xterm" } =
        Console.converse ⟨{}, ⟨"localhost", 2000⟩⟩ { connection, input := Utf8.encode text, terminal := "xterm" } := by
  intro text connection
  have hkeys : backspace ∉ text.toList := by decide
  have hprompt : Terminal.writesPrompt "xterm" = false := by cbv
  have hlines : linesOf text = ["a", "", " b", "a", "a"] := by
    rw [linesOf_eq_iff]
    decide
  obtain ⟨source, -, -, hplays, -, hprogram⟩ := script_as_piped hkeys
  have hplays := hplays ["a"]
  rw [hlines] at hplays
  exact ⟨hkeys, hprompt, hplays,
    hprogram ⟨{}, ⟨"localhost", 2000⟩⟩ { connection, terminal := "xterm" } "session.sql" hprompt⟩

end QueryConsole
