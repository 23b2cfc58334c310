import QueryConsole.Client
import QueryConsole.Session.Source
import QueryConsole.Text.Blank

/-
The session at the console: read a line, send it, show the response, and go on until the input is over or something
fails.

A `Shell` is the part that outlives a line: the client and the user's screen. `execute` has one exchange and shows it;
`take` does so for a line that is not blank, and `converse` takes all that a source gives. A `Session` adds the source.
`run` greets the user, converses and closes the client, whatever happened. Blank lines are never sent: an empty request
puts nothing on the link, so no response to it would ever come.

A line is written as its text and then its newline. In how many calls the text itself goes out is documented nowhere and
left open here: a screen may take any part of what it is given before it refuses a call, so it can behave as it would
in any other number of calls.

Elapsed times are not computed here. A shell is told the times of its coming exchanges, in milliseconds (`laps`), and
shows them if `timing` is on.

Results:
- `exchange_closed`: on a closed client an exchange fails, and nothing is shown.
- `converse_nil`, `take_blank`, `converse_blank`: the end of the input, and a blank line.
-/

namespace QueryConsole

/-- the first line of a session -/
def greeting : String := "Welcome to the server."

/-- what a session works with, whatever line it is at -/
structure Shell where
  client : Client
  screen : Outflow := {}
  /-- show how long each exchange took -/
  timing : Bool := true
  /-- milliseconds that the coming exchanges take; none after the last -/
  laps : List Nat := []

/-- seconds with three decimal places -/
def secondsText (milliseconds : Nat) : String :=
  let fraction := toString (milliseconds % 1000)
  toString (milliseconds / 1000) ++ "." ++ String.ofList (List.replicate (3 - fraction.length) '0') ++ fraction

namespace Shell

/-- an act on the client -/
def withClient (act : Act Client LinkError α) : Act Shell SessionError α :=
  (act.within Shell.client fun client shell => { shell with client }).rescue fun e => Act.fail (.client e)

/-- an act on the screen -/
def withScreen (act : Act Outflow IoError α) : Act Shell SessionError α :=
  (act.within Shell.screen fun screen shell => { shell with screen }).rescue fun e => Act.fail (.io e)

/-- write a text and a newline to the screen -/
def say (text : String) : Act Shell SessionError Unit :=
  withScreen do
    Outflow.writeAll .screen (Utf8.encode text)
    Outflow.writeAll .screen (Utf8.encode "\n")

/-- show the user all that was written -/
def flush : Act Shell SessionError Unit := withScreen (Outflow.flush .screen)

/-- how long the exchange took that has just ended -/
def lap : Act Shell SessionError Nat := fun shell =>
  ⟨.ok (shell.laps.headD 0), { shell with laps := shell.laps.tail }, [.sampled .roundTrip]⟩

/-- send a line and wait for its response; the response and the time it took -/
def exchange (line : String) : Act Shell SessionError (String × Nat) := do
  let response ← withClient (Client.invoke line)
  return (response, ← lap)

/-- send a line and show its response -/
def execute (line : String) : Act Shell SessionError Unit := do
  let (response, elapsed) ← exchange line
  say response
  if (← Act.get).timing then say ("(" ++ secondsText elapsed ++ " sec)")
  flush

/-- deal with what asking for a line gave -/
def take : SourceItem → Act Shell SessionError Unit
  | .failure cause => do
    Act.record [.asked (.error cause)]
    cause.raise
  | .line text => do
    Act.record [.asked (.ok (some text)), .counted .linesRead 1]
    if isBlank text then Act.record [.counted .blankLines 1] else execute text

/-- deal with the lines of a source until it is over or something fails -/
def converse (shell : Shell) : Source → Run (Source × Shell) SessionError Unit
  | [] => ⟨.ok (), ([], shell), [.asked (.ok none), .told .endOfInput]⟩
  | item :: later =>
    match take item shell with
    | ⟨.ok (), shell, trace⟩ => (converse shell later).after trace
    | ⟨.error e, shell, trace⟩ => ⟨.error e, (later, shell), trace⟩

/-- greet the user -/
def greet : Act Shell SessionError Unit := do
  say greeting
  flush

end Shell

/-- a shell and where its lines come from -/
structure Session where
  source : Source
  shell : Shell

namespace Session

/-- an act on the shell -/
def withShell (act : Act Shell ε α) : Act Session ε α :=
  act.within Session.shell fun shell session => { session with shell }

/-- greet the user and converse -/
def talk : Act Session SessionError Unit := do
  withShell Shell.greet
  fun session =>
    let r := session.shell.converse session.source
    ⟨r.answer, ⟨r.state.1, r.state.2⟩, r.trace⟩

/-- close the client -/
def hangUp : Act Session ε Unit :=
  withShell (Client.close.within Shell.client fun client shell => { shell with client })

/-- end a session whose talk ended like this: close the client, and tell a failure -/
def finish : Except SessionError Unit → Act Session SessionError Unit
  | .ok () => hangUp
  | .error e => do
    hangUp
    Act.record [.counted .sessionError 1, .told (.sessionError e.message)]
    Act.fail e

/-- have a whole session; the client is closed at its end, whatever that is -/
def run : Act Session SessionError Unit := fun session =>
  let talked := talk session
  (finish talked.answer talked.state).after talked.trace

/-- execute one line, out of turn -/
def execute (line : String) : Act Session SessionError Unit := withShell (Shell.execute line)

/-- what a session may be asked to do -/
inductive Request where
  | run
  | execute (line : String)
deriving DecidableEq, Repr

/-- do as asked -/
def perform : Request → Act Session SessionError Unit
  | .run => run
  | .execute line => execute line

end Session

namespace Shell

theorem exchange_closed (line : String) (limit : UInt32) (screen : Outflow) (timing : Bool) (laps : List Nat) :
    exchange line ⟨⟨limit, none⟩, screen, timing, laps⟩ =
      ⟨.error (.client .closed), ⟨⟨limit, none⟩, screen, timing, laps⟩, [.counted .closedError 1]⟩ := rfl

theorem converse_nil (shell : Shell) :
    shell.converse [] = ⟨.ok (), ([], shell), [.asked (.ok none), .told .endOfInput]⟩ := rfl

theorem take_blank {text : String} (h : isBlank text = true) (shell : Shell) :
    take (.line text) shell =
      ⟨.ok (), shell, [.asked (.ok (some text)), .counted .linesRead 1, .counted .blankLines 1]⟩ := by
  simp only [take, h, if_true]
  rfl

theorem converse_blank {text : String} (h : isBlank text = true) (shell : Shell) (later : Source) :
    shell.converse (.line text :: later) = (shell.converse later).after
      [.asked (.ok (some text)), .counted .linesRead 1, .counted .blankLines 1] := by
  simp only [converse, take_blank h]

end Shell

end QueryConsole
