import QueryConsole.CommandLine
import QueryConsole.Main.Socket
import QueryConsole.Server

/-
The command line: the first word names the program, the console or the server that describes each request, and the
other words are that program's own.

Each step of a session is an act of the library. It is told what the socket met, and what it leaves is written: the
screen to standard output, clues to standard error.
-/

namespace QueryConsole

open Std.Async

/-- write what a program leaves, and end with its status -/
def Outcome.leave (outcome : Outcome) : IO UInt32 := do
  (← IO.getStdout).write (byteArray outcome.out)
  (← IO.getStderr).putStr outcome.err
  match outcome.ending with
  | .status code => return code.toUInt32
  | .aborted => return 134
  | .waiting => return 0

/-- tell the clues of a trace to a listener, if there is one -/
def tellClues (verbose : Bool) (trace : Trace) : IO Unit :=
  if verbose then do (← IO.getStderr).putStr (clueLines trace) else return

namespace Console

/-- write what a trace wrote to the screen -/
def showScreen (trace : Trace) : IO Unit := do
  let output ← IO.getStdout
  for event in trace do
    match event with
    | .wrote .screen (.ok bytes) => output.write (byteArray bytes)
    | .flushed .screen (.ok ()) => output.flush
    | _ => pure ()

/-- perform an act and show it; where it cannot be shown, what the act comes to on a screen that refuses -/
def perform (verbose : Bool) (act : Act Shell SessionError Unit) (shell : Shell) :
    IO (Run Shell SessionError Unit) := do
  let whole := act shell
  let r ← match ← outcomeOf (showScreen whole.trace) with
    | .ok () => pure whole
    | .error cause => pure (act { shell with screen := { intakes := [.refuses cause] } })
  tellClues verbose r.trace
  return r

/-- let the client of a shell face what an exchange meets -/
def facing (socket : TCP.Socket.Client) (shell : Shell) (line : String) : IO Shell := do
  let start ← IO.monoMsNow
  let intakes ← sendAll socket (Utf8.encode line)
  let arrivals ← if intakes.isEmpty then receiveFrame socket shell.client.limit.toNat else pure []
  let link := { inflow := { arrivals }, outflow := { intakes } }
  return { shell with client.link := some link, laps := [(← IO.monoMsNow) - start] }

/-- what asking for a line gives, and what gives the lines after it -/
inductive Asked (σ : Type) where
  | item (item : SourceItem) (later : σ)
  | over
  /-- the program ends, and tells this -/
  | broken (defect : String)

/-- deal with all that asking for lines gives; a defect if that ends the program -/
partial def answerAll (verbose : Bool) (socket : TCP.Socket.Client) (ask : σ → IO (Asked σ)) (lines : σ)
    (shell : Shell) : IO (Except String (Run Shell SessionError Unit)) := do
  match ← ask lines with
  | .broken defect => return .error defect
  | .over =>
    let r := shell.converse []
    tellClues verbose r.trace
    return .ok ⟨r.answer, r.state.2, []⟩
  | .item item lines =>
    let shell ← match item with
      | .line text => if isBlank text then pure shell else facing socket shell text
      | .failure _ => pure shell
    let r ← perform verbose (Shell.take item) shell
    match r.answer with
    | .ok () => answerAll verbose socket ask lines r.state
    | .error _ => return .ok r

/-- take bytes of standard input up to the end of a line; `got` holds them newest first -/
partial def inputLine (input : IO.FS.Stream) (got : Bytes) : IO Bytes := do
  match (← input.read 1).toList with
  | [] => return got.reverse
  | b :: _ => if b = 0x0A then return (b :: got).reverse else inputLine input (b :: got)

/-- ask standard input for a line -/
def askInput (prompt : Bytes) (terminal : Terminal) : IO (Asked Terminal) := do
  let output ← IO.getStdout
  output.write (byteArray prompt)
  output.flush
  match ← outcomeOf (inputLine (← IO.getStdin) []) with
  | .error cause => return .item (.failure (.ofReadline (.io cause))) terminal
  | .ok input =>
    let terminal := { terminal with input }
    match terminal.item? with
    | some (item, later) => return .item item later
    | none => return if terminal.isBroken then .broken Typed.brokenOff else .over

/-- ask a script for a line -/
def askSource : Source → IO (Asked Source)
  | [] => return .over
  | item :: later => return .item item later

/-- have the session over an open socket -/
def converseOver (socket : TCP.Socket.Client) (client : Client) (plan : Plan) : IO UInt32 := do
  let verbose := plan.settings.verbose
  let shell : Shell := { client, timing := !plan.settings.noTiming }
  let script ← match plan.settings.script with
    | some path => outcomeOf (return (← IO.FS.readBinFile path).toList)
    | none => pure (.ok [])
  let kind := (← IO.getEnv "TERM").getD ""
  match feed plan { connection := .ok { inflow := ⟨[], none⟩ }, script, terminal := kind } with
  | .error e => Outcome.leave (.told (badScript (plan.settings.script.getD "") e) 1)
  | .ok lines =>
    let prompt := if ← (← IO.getStdin).isTty then Utf8.encode plan.settings.prompt else lines.prompt
    let greeted ← perform verbose Shell.greet shell
    let talked ← match greeted.answer, plan.settings.script with
      | .error _, _ => pure (.ok greeted)
      | .ok (), some _ => answerAll verbose socket askSource lines.source greeted.state
      | .ok (), none => answerAll verbose socket (askInput prompt) ⟨[], []⟩ greeted.state
    match talked with
    | .error defect => Outcome.leave { err := defect ++ "\n", ending := .aborted }
    | .ok talked =>
      let r := Session.finish talked.answer ⟨[], talked.state⟩
      tellClues verbose r.trace
      Outcome.leave { err := farewell r.answer, ending := .status (statusOf r.answer) }

/-- the console -/
def main (words : List String) : IO UInt32 := do
  match start words with
  | .over outcome => outcome.leave
  | .goesOn plan =>
    let verbose := plan.settings.verbose
    tellClues verbose [.told (.newProcess .console ("sql-shell" :: words))]
    let dialled ← plan.server.dial
    let opened := Client.connectUndelayed plan.server.text plan.settings.client.maxResponseSize
      (dialled.map fun _ => { inflow := ⟨[], none⟩ }) (dialled.bind (·.2)) ()
    tellClues verbose opened.trace
    match dialled, opened.answer with
    | .ok (socket, _), .ok client => converseOver socket client plan
    | _, .error e => Outcome.leave (.told e.message 1)
    | .error cause, _ => Outcome.leave (.told cause.message 1)

end Console

namespace Listener

/-- serve one connection to its end, one read after the other -/
partial def serveSocket (verbose : Bool) (peer : String) (socket : TCP.Socket.Client) : IO Unit := do
  let handler := Handler.ofFun describe
  let ends (link : Link) : IO Unit := tellClues verbose (Server.serveApart handler ⟨peer, link⟩ ()).trace
  match ← receiveSome socket Server.requestSize with
  | .bytes (b :: piece) =>
    let r := Server.answerPiece handler peer (b :: piece) ⟨(), { inflow := ⟨[], none⟩ }⟩
    match ← sendAll socket (r.trace.taken .link) with
    | [] =>
      tellClues verbose r.trace
      serveSocket verbose peer socket
    | intakes => ends { inflow := ⟨[.bytes (b :: piece)], none⟩, outflow := { intakes } }
  | other => ends { inflow := ⟨[other], none⟩ }

/-- accept connections until that fails, and serve each apart -/
partial def acceptAll (verbose : Bool) (socket : TCP.Socket.Server) : IO UInt32 := do
  let accepted ← outcomeOf do
    let connection ← socket.accept.block
    return (connection, shownPeer (← connection.getPeerName))
  let arriving := accepted.map fun (_, peer) => { peer, link := { inflow := ⟨[], none⟩ } }
  let r : Run Unit LinkError Connection := Server.accept arriving ()
  tellClues verbose r.trace
  match accepted, r.answer with
  | .ok (connection, peer), .ok _ =>
    let _ ← IO.asTask (serveSocket verbose peer connection)
    acceptAll verbose socket
  | _, .error e => Outcome.leave (.told e.message 1)
  | .error cause, _ => Outcome.leave (.told cause.message 1)

/-- the server -/
def main (words : List String) : IO UInt32 := do
  match start words with
  | .over outcome => outcome.leave
  | .goesOn settings =>
    let verbose := settings.verbose
    tellClues verbose [.told (.newProcess .listener ("frame-sock-server" :: words))]
    let listening ← settings.address.listen
    let bound := Server.bind settings.address (listening.map fun _ => ()) ()
    match listening, bound.answer with
    | .ok socket, .ok () =>
      let output ← IO.getStdout
      output.putStr (started settings)
      output.flush
      tellClues verbose [.told (.listening settings.address.text)]
      acceptAll verbose socket
    | _, .error e => Outcome.leave (.told e.message 1)
    | .error cause, _ => Outcome.leave (.told cause.message 1)

end Listener

end QueryConsole

/-- the first word names the program -/
def main : List String → IO UInt32
  | "sql-shell" :: words => QueryConsole.Console.main words
  | "frame-sock-server" :: words => QueryConsole.Listener.main words
  | _ => do
    let briefs := [QueryConsole.Options.Program.console.brief, QueryConsole.Options.Program.listener.brief]
    (QueryConsole.Outcome.told ("\n".intercalate briefs) QueryConsole.Options.Program.usageError).leave
