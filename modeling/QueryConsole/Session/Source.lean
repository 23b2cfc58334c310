import QueryConsole.Act
import QueryConsole.Text.Blank
import QueryConsole.Text.Lines

/-
Line sources: where a session's lines come from.

A source is what asking for a line will give, in order: lines, and failures that are met once. After that the input is
over for good. A script is a file that is read whole before the session begins; it either is text or gives no source.

A user is asked line by line. Whatever reading a line ends in, `SourceItem.ofReading` is what it gives to the session:
its line, nothing at the end of the input, and a failure otherwise. A line that is not blank goes into a history first;
that could fail as reading can, though a history that is kept in memory takes any line.

Results:
- `next_nil`: the end of the input stays the end.
- `ofScript_notText`: a script that is not text gives no source.
-/

namespace QueryConsole

/-- what asking for a line gives -/
inductive SourceItem where
  | line (text : String)
  | failure (cause : SessionError)
deriving DecidableEq, Repr

/-- what reading a line from the user gives, and keeping it if it is not blank; nothing at the end of the input -/
def SourceItem.ofReading (reading : Except ReadlineFault String) (keeping : Except ReadlineFault Unit) :
    Option SourceItem :=
  match reading, keeping with
  | .ok text, .ok () => some (.line text)
  | .ok text, .error fault => if isBlank text then some (.line text) else some (.failure (.ofReadline fault))
  | .error .endOfInput, _ => none
  | .error fault, _ => some (.failure (.ofReadline fault))

/-- what asking for lines will give, next first; nothing more means that the input is over -/
abbrev Source := List SourceItem

namespace Source

/-- a source of lines that does not fail -/
def ofLines (lines : List String) : Source := lines.map .line

/-- give what there is to give to the session that asks for a line -/
def give : Option SourceItem → Act σ SessionError (Option String)
  | none => fun s => ⟨.ok none, s, [.asked (.ok none)]⟩
  | some (.line text) => fun s => ⟨.ok (some text), s, [.asked (.ok (some text))]⟩
  | some (.failure cause) => fun s => (cause.raise s).after [.asked (.error cause)]

/-- ask for a line -/
def next : Act Source SessionError (Option String) := fun source => give source.head? source.tail

/-- ask the user for a line; reading and keeping it end like this -/
def nextRead (reading : Except ReadlineFault String) (keeping : Except ReadlineFault Unit) :
    Act σ SessionError (Option String) :=
  give (SourceItem.ofReading reading keeping)

/-- the lines of a text -/
def linesOf (text : String) : List String := (splitLines '\n' '\r' text.toList).map String.ofList

/-- the source that plays a script back, from what reading its file gave -/
def ofScript (file : Except IoError Bytes) : Except SessionError Source :=
  match file with
  | .error cause => .error (.io cause)
  | .ok bytes =>
    match Utf8.decode bytes with
    | .ok text => .ok (ofLines (linesOf text))
    | .error _ => .error (.io .notText)

@[simp] theorem next_nil : next [] = ⟨.ok none, [], [.asked (.ok none)]⟩ := rfl

theorem ofScript_notText {bytes : Bytes} {fault : Utf8.Fault} (h : Utf8.decode bytes = .error fault) :
    ofScript (.ok bytes) = .error (.io .notText) := by
  simp [ofScript, h]

end Source

end QueryConsole
