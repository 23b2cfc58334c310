import QueryConsole.Session.Source
import QueryConsole.Text.Blank
import QueryConsole.Text.Keys

/-
Standard input as a line source, when it is not a terminal that the user can edit on.

Asking for a line takes the input up to its next line feed. A line that is text has its backspaces carried out; a line
that is not text is a failure, and the lines after it can still be read. A line whose backspaces break off gives nothing
any more, and neither does what follows it (`isBroken`): the program ends there. Lines that are given to the session are
also remembered in a history, newest first, apart from blank lines, lines that begin with white space and repetitions of
the line before.

On the few kinds of terminal that cannot edit a line the prompt is written before each line is asked for, also before
the input is found to be over; otherwise it is not written at all.

Results:
- `next_readLine`: asking for a line is reading one, and giving what that ended in.
- `next_over`: the end of the input stays the end.
- `input_item_lt`: each line that is asked for uses input up.
-/

namespace QueryConsole

/-- the input that is still to be read, and the lines that were read -/
structure Terminal where
  input : Bytes
  history : List String := []
deriving DecidableEq, Repr

namespace Terminal

/-- most lines of a history -/
def historySize : Nat := 1000000

/-- a line that begins with white space, or with nothing, is kept out of the history -/
def isPrivate (line : String) : Bool :=
  match line.toList with
  | [] => true
  | c :: _ => isBlankChar c

/-- the history after a line -/
def remember (line : String) (history : List String) : List String :=
  if isBlank line || isPrivate line || history.head? = some line then history
  else (line :: history).take historySize

/-- what reading the next line of the input ends in, and the terminal after it; none if its keys break off -/
def readLine (terminal : Terminal) : Option (Except ReadlineFault String × Terminal) :=
  if terminal.input = [] then some (.error .endOfInput, terminal)
  else
    let (line, rest) := cutLine 0x0A 0x0D terminal.input
    match Utf8.decode line with
    | .ok keys => (eraseBackspaces keys).map fun text => (.ok text, ⟨rest, remember text terminal.history⟩)
    | .error _ => some (.error (.io .notText), { terminal with input := rest })

/-- the program ends at the next line of the input -/
def isBroken (terminal : Terminal) : Bool := terminal.readLine.isNone

/-- what asking for a line gives; nothing if the input is over, or if the program ends at the line -/
def item? (terminal : Terminal) : Option (SourceItem × Terminal) :=
  terminal.readLine.bind fun (reading, later) => (SourceItem.ofReading reading (.ok ())).map fun item => (item, later)

section

variable {terminal later : Terminal} {reading : Except ReadlineFault String} {item : SourceItem}

theorem readLine_over (empty : terminal.input = []) : terminal.readLine = some (.error .endOfInput, terminal) :=
  if_pos empty

/-- what is read before the end of the input is an item, and takes its line -/
theorem readLine_more (more : terminal.input ≠ []) (h : terminal.readLine = some (reading, later)) :
    (∃ item, SourceItem.ofReading reading (.ok ()) = some item) ∧ later.input = (cutLine 0x0A 0x0D terminal.input).2 := by
  rw [readLine, if_neg more] at h
  dsimp only at h
  split at h
  · obtain ⟨text, _, eq⟩ := Option.map_eq_some_iff.mp h
    cases eq
    exact ⟨⟨.line text, rfl⟩, rfl⟩
  · cases h
    exact ⟨⟨.failure (.ofReadline (.io .notText)), rfl⟩, rfl⟩

theorem item_eq_some_iff :
    terminal.item? = some (item, later) ↔
      ∃ reading, terminal.readLine = some (reading, later) ∧
        SourceItem.ofReading reading (.ok ()) = some item := by
  constructor
  · intro h
    obtain ⟨⟨reading, left⟩, taken, given⟩ := Option.bind_eq_some_iff.mp h
    obtain ⟨found, same, eq⟩ := Option.map_eq_some_iff.mp given
    cases eq
    exact ⟨reading, taken, same⟩
  · rintro ⟨reading, taken, given⟩
    simp only [item?, taken, Option.bind_some, given, Option.map_some]

theorem input_item_lt (h : terminal.item? = some (item, later)) : later.input.length < terminal.input.length := by
  obtain ⟨reading, taken, given⟩ := item_eq_some_iff.mp h
  have more : terminal.input ≠ [] := by
    intro empty
    cases (readLine_over empty).symm.trans taken
    cases given
  rw [(readLine_more more taken).2]
  exact length_cutLine_lt 0x0A 0x0D more

end

/-- ask for a line -/
def next : Act Terminal SessionError (Option String) := fun terminal =>
  match terminal.readLine with
  | none => Source.give none terminal
  | some (reading, later) => Source.nextRead reading (.ok ()) later

/-- all that asking will give, and the terminal that gives no more; with what it gave before in reverse order -/
def readAllOn (given : Source) (terminal : Terminal) : Source × Terminal :=
  match _taken : terminal.item? with
  | none => (given.reverse, terminal)
  | some (item, later) => readAllOn (item :: given) later
termination_by terminal.input.length
decreasing_by exact input_item_lt _taken

/-- all that asking for lines will give, and the terminal that gives no more -/
def readAll (terminal : Terminal) : Source × Terminal := readAllOn [] terminal

/-- all that asking for lines will give -/
def source (terminal : Terminal) : Source := terminal.readAll.1

/-- asking for all lines ends the program -/
def breaks (terminal : Terminal) : Bool := terminal.readAll.2.isBroken

/-- the kinds of terminal that cannot edit a line -/
def plainKinds : List String := ["dumb", "cons25", "emacs"]

/-- the prompt is written before each line is asked for -/
def writesPrompt (kind : String) : Bool := kind.map Char.toLower ∈ plainKinds

theorem next_readLine {terminal later : Terminal} {reading : Except ReadlineFault String}
    (h : terminal.readLine = some (reading, later)) : next terminal = Source.nextRead reading (.ok ()) later := by
  simp only [next, h]

theorem next_over (history : List String) :
    next ⟨[], history⟩ = ⟨.ok none, ⟨[], history⟩, [.asked (.ok none)]⟩ := rfl

end Terminal

end QueryConsole
