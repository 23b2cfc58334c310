import QueryConsole.Options.Settings
import QueryConsole.Server
import QueryConsole.Session.Shell
import QueryConsole.Session.Terminal

/-
The programs as a whole: from the words of a command line to an exit status.

`Console.start` reads the command line of the console. What it leaves to do needs the world around the program
(`Surroundings`): the link that a connection attempt gives, the script file, standard input. `Console.run` is the whole
program in given surroundings; its `Report` holds what was written, how the program ended and all that happened.
`Listener.start` and `Listener.run` are the same for the server, which goes on for as long as connections can arrive.

Results:
- `start_needs_two_words`: without exactly a host and a port the console shows how it is used, and ends.
- `start_of_free_word`: a free word ends the server before it listens.
-/

namespace QueryConsole

/-- how a program ends -/
inductive Ending where
  | status (code : UInt8)
  /-- the program broke off -/
  | aborted
  /-- the program does not end by itself -/
  | waiting
deriving DecidableEq, Repr

/-- what a program wrote, and how it ended -/
structure Outcome where
  out : Bytes := []
  err : String := ""
  ending : Ending
deriving DecidableEq, Repr

/-- a program that ends with one line for the user -/
def Outcome.told (text : String) (status : UInt8) : Outcome := { err := text ++ "\n", ending := .status status }

/-- what a program does after its command line is read: end at once, or go on -/
inductive Start (σ : Type) where
  | over (outcome : Outcome)
  | goesOn (settings : σ)

/-- read the command line of a program, and go on with what it gave -/
def Start.ofReading (reading : Options.Reading σ) (next : σ → List String → Start τ) : Start τ :=
  match reading with
  | .ends text status => .over (.told text status)
  | .breaks bad => .over { err := bad.message ++ "\n", ending := .aborted }
  | .ready settings free => next settings free

/-- the lines that a listener of clues is told during a trace -/
def clueLines (trace : Trace) : String := String.join (trace.clues.map fun clue => clue.line ++ "\n")

/-- what a run of a program leaves: its outcome and its trace -/
structure Report where
  outcome : Outcome
  trace : Trace

/-- a run that began with the start of a process, with the clues before the program's own words if there is a listener -/
def Report.logged (report : Report) (origin : Origin) (arguments : List String) (verbose : Bool) : Report :=
  let trace := .told (.newProcess origin arguments) :: report.trace
  let heard := if verbose then clueLines trace else ""
  ⟨{ report.outcome with err := heard ++ report.outcome.err }, trace⟩

namespace Console

/-- what the console needs to know to begin -/
structure Plan where
  settings : Options.ConsoleSettings
  server : Address

/-- the line for a port that is no number of a port -/
def badPort (text : String) (fault : NumeralFault) : String := "invalid port " ++ quoted text ++ ": " ++ fault.message

/-- the line for a script that gives no source -/
def badScript (path : String) (e : SessionError) : String := "could not load script " ++ path ++ ": " ++ e.message

/-- read the words of the command line -/
def start (words : List String) : Start Plan :=
  .ofReading (Options.Program.console.read words) fun settings free =>
    match free with
    | [host, port] =>
      match Numeral.read Address.largestPort port with
      | .error fault => .over (.told (badPort port fault) 1)
      | .ok n => .goesOn ⟨settings, ⟨host, UInt16.ofNat n⟩⟩
    | _ => .over (.told Options.Program.console.brief 1)

/-- the world around the console -/
structure Surroundings where
  /-- how the attempt to connect ends -/
  connection : Except IoError Link
  /-- how asking the link to hold nothing back ends -/
  undelayed : Except IoError Unit := .ok ()
  /-- what reading the script file gives, if there is one -/
  script : Except IoError Bytes := .ok []
  /-- standard input -/
  input : Bytes := []
  /-- the kind of terminal -/
  terminal : String := ""
  screen : Outflow := {}
  laps : List Nat := []

/-- what one event writes to standard output: bytes of the screen, and the prompt before a line is asked for -/
def written (prompt : Bytes) : Event → Bytes
  | .wrote .screen (.ok bytes) => bytes
  | .asked _ => prompt
  | _ => []

/-- the text for the user after a session that failed; none for one that the user interrupted -/
def farewell : Except SessionError Unit → String
  | .ok () => ""
  | .error .interrupted => ""
  | .error e => e.message ++ "\n"

/-- the status after a session: zero only if it ended well -/
def statusOf : Except SessionError Unit → UInt8
  | .ok () => 0
  | .error _ => 1

/-- where the lines come from -/
structure Feed where
  source : Source
  /-- what is written before each line is asked for -/
  prompt : Bytes := []
  /-- what asking for more lines ends the program with -/
  defect : Option String := none

/-- the lines of a console with this plan -/
def feed (plan : Plan) (around : Surroundings) : Except SessionError Feed :=
  match plan.settings.script with
  | some _ => (Source.ofScript around.script).map fun source => { source }
  | none =>
    let terminal : Terminal := ⟨around.input, []⟩
    .ok
      { source := terminal.source
        prompt := if Terminal.writesPrompt around.terminal then Utf8.encode plan.settings.prompt else []
        defect := if terminal.breaks then some Typed.brokenOff else none }

/-- what happened before the session was told that its input is over -/
def beforeEnd (trace : Trace) : Trace :=
  trace.takeWhile fun
    | .told .endOfInput => false
    | _ => true

/-- what a session leaves that got to the end of its lines, if asking for more ends the program -/
def broken (feed : Feed) (session : Run Session SessionError Unit) : Option Report :=
  match session.answer, feed.defect with
  | .ok (), some defect =>
    let trace := beforeEnd session.trace
    some ⟨{ out := trace.flatMap (written feed.prompt), err := defect ++ "\n", ending := .aborted }, trace⟩
  | _, _ => none

/-- what a session leaves -/
def reportOf (feed : Feed) (session : Run Session SessionError Unit) : Report :=
  (broken feed session).getD
    ⟨{ out := session.trace.flatMap (written feed.prompt), err := farewell session.answer,
       ending := .status (statusOf session.answer) }, session.trace⟩

/-- connect, have the session and end -/
def converse (plan : Plan) (around : Surroundings) : Report :=
  let attempt := Client.connectUndelayed plan.server.text plan.settings.client.maxResponseSize
    (plan.server.checked.bind fun _ => around.connection) around.undelayed ()
  match attempt.answer with
  | .error e => ⟨.told e.message 1, attempt.trace⟩
  | .ok client =>
    match feed plan around with
    | .error e => ⟨.told (badScript (plan.settings.script.getD "") e) 1, attempt.trace⟩
    | .ok lines =>
      let shell : Shell := { client, screen := around.screen, timing := !plan.settings.noTiming, laps := around.laps }
      let report := reportOf lines (Session.run ⟨lines.source, shell⟩)
      { report with trace := attempt.trace ++ report.trace }

/-- the whole program, called by its name and these words -/
def run (name : String) (words : List String) (around : Surroundings) : Report :=
  match start words with
  | .over outcome => ⟨outcome, []⟩
  | .goesOn plan => (converse plan around).logged .console (name :: words) plan.settings.verbose

theorem start_needs_two_words {words free : List String} {settings : Options.ConsoleSettings}
    (h : Options.Program.console.read words = .ready settings free) (few : free.length ≠ 2) :
    start words = .over (.told Options.Program.console.brief 1) := by
  simp only [start, Start.ofReading, h]
  match free, few with
  | [], _ => rfl
  | [_], _ => rfl
  | _ :: _ :: _ :: _, _ => rfl

end Console

namespace Listener

/-- read the words of the command line -/
def start (words : List String) : Start Options.ListenerSettings :=
  .ofReading (Options.Program.listener.read words) fun settings free =>
    if free.isEmpty then .goesOn settings else .over (.told "command takes no positional arguments" 1)

/-- what is written once the server listens -/
def started (settings : Options.ListenerSettings) : String := "Cli server started at " ++ settings.address.text ++ "\n"

/-- what an attempt to listen and to accept leaves for the user: how the program ends, and what it says then -/
def farewell : Except LinkError Unit → Ending × String
  | .ok () => (.waiting, "")
  | .error e => (.status 1, e.message ++ "\n")

/-- listen and serve; `listening` is what the operating system says to the address -/
def serve (settings : Options.ListenerSettings) (listening : Except IoError Unit) (arriving : List Server.Arriving) :
    Report :=
  let bound := Server.bind settings.address listening ()
  match bound.answer with
  | .error e => ⟨.told e.message 1, bound.trace⟩
  | .ok () =>
    let served := Server.serve settings.address (Handler.ofFun describe) arriving ()
    let (ending, err) := farewell served.answer
    ⟨{ out := Utf8.encode (started settings), err, ending }, bound.trace ++ served.trace⟩

/-- the whole program, called by its name and these words -/
def run (name : String) (words : List String) (listening : Options.ListenerSettings → Except IoError Unit)
    (arriving : List Server.Arriving) : Report :=
  match start words with
  | .over outcome => ⟨outcome, []⟩
  | .goesOn settings =>
    (serve settings (listening settings) arriving).logged .listener (name :: words) settings.verbose

theorem start_of_free_word {words free : List String} {settings : Options.ListenerSettings}
    (h : Options.Program.listener.read words = .ready settings free) (some_free : free ≠ []) :
    start words = .over (.told "command takes no positional arguments" 1) := by
  simp [start, Start.ofReading, h, some_free]

end Listener

end QueryConsole
