import QueryConsole.Link.Address
import QueryConsole.Link.Frame.Format
import QueryConsole.Options.Grammar
import QueryConsole.Text.Numeral

/-
The settings of the programs, and how a command line gives them.

A `Program` is a first usage line, the options it knows and a way to make settings of the options given. `words` goes
back: a shortest command line for settings, with the options whose values are not the defaults, in the program's order.
A value that is no number, where one is needed, is a fault of its own (`BadValue`): it stops the program at once, and
only after all options have been found well formed.

Results:
- `console_words_default`, `listener_words_default`: the default settings need no words.
-/

namespace QueryConsole

namespace Options

/-- an option's argument that is no number -/
structure BadValue where
  name : String
  fault : NumeralFault
deriving DecidableEq, Repr

/-- the fault, in words for the user -/
def BadValue.message (bad : BadValue) : String :=
  "field --" ++ bad.name ++ " is unparseable: " ++ bad.fault.message

/-- the number an option was given, or the default -/
def Parsed.number (parsed : Parsed) (name : String) (largest default : Nat) : Except BadValue Nat :=
  match parsed.argument? name with
  | none => .ok default
  | some text =>
    match Numeral.read largest text with
    | .ok n => .ok n
    | .error fault => .error ⟨name, fault⟩

/-- the words for an option with an argument, unless the value is the default -/
def wordsFor [DecidableEq α] (name : String) (value default : α) (text : String) : List String :=
  if value = default then [] else ["--" ++ name, text]

/-- the word for an option without an argument, if it is set -/
def wordIf (name : String) (set : Bool) : List String := if set then ["--" ++ name] else []

/-! ## A client -/

/-- what can be set about a client -/
structure ClientSettings where
  maxResponseSize : UInt32 := Frame.defaultLimit
deriving DecidableEq, Repr

namespace ClientSettings

/-- the option, under a name that may begin with the name of what the client is part of -/
def form (name : String) : Form :=
  { name, hint := some "BYTES", help := "Largest response payload to accept, in bytes." }

/-- the settings that a command line gives; what it does not give stays the default -/
def ofParsed (name : String) (parsed : Parsed) : Except BadValue ClientSettings := do
  let limit ← parsed.number name Frame.largest Frame.defaultLimit.toNat
  return ⟨UInt32.ofNat limit⟩

/-- the shortest words that give the settings -/
def words (name : String) (settings : ClientSettings) : List String :=
  wordsFor name settings.maxResponseSize Frame.defaultLimit (toString settings.maxResponseSize)

end ClientSettings

/-! ## The console -/

/-- what the user is asked for a line with, unless told otherwise -/
def defaultPrompt : String := "(sql) "

/-- what can be set about the console -/
structure ConsoleSettings where
  prompt : String := defaultPrompt
  script : Option String := none
  noTiming : Bool := false
  verbose : Bool := false
  client : ClientSettings := {}
deriving DecidableEq, Repr

namespace ConsoleSettings

/-- the options of the console -/
def forms : List Form :=
  [.helpMenu,
    { name := "prompt", hint := some "PROMPT", help := "Prompt shown before each line." },
    { name := "script", hint := some "PATH", help := "Read lines from this file instead of the terminal." },
    { name := "no-timing", help := "Do not print the elapsed time of each request." },
    { name := "verbose", help := "Print clues about the session to stdout." },
    ClientSettings.form "client-max-response-size"]

/-- the settings that a command line gives; what it does not give stays the default -/
def ofParsed (parsed : Parsed) : Except BadValue ConsoleSettings := do
  let client ← ClientSettings.ofParsed "client-max-response-size" parsed
  return {
    prompt := (parsed.argument? "prompt").getD defaultPrompt
    script := parsed.argument? "script"
    noTiming := parsed.has "no-timing"
    verbose := parsed.has "verbose"
    client }

/-- the shortest words that give the settings -/
def words (settings : ConsoleSettings) : List String :=
  wordsFor "prompt" settings.prompt defaultPrompt settings.prompt ++
    wordsFor "script" settings.script none (settings.script.getD "") ++
    wordIf "no-timing" settings.noTiming ++ wordIf "verbose" settings.verbose ++
    settings.client.words "client-max-response-size"

end ConsoleSettings

/-! ## The listening server -/

/-- where the server listens, unless told otherwise -/
def defaultAddress : Address := ⟨"127.0.0.1", 7070⟩

/-- what can be set about the listening server -/
structure ListenerSettings where
  address : Address := defaultAddress
  verbose : Bool := false
deriving DecidableEq, Repr

namespace ListenerSettings

/-- the options of the listening server -/
def forms : List Form :=
  [.helpMenu,
    { name := "host", hint := some "HOST", help := "Address to listen on." },
    { name := "port", hint := some "PORT", help := "Port to listen on." },
    { name := "verbose", help := "Print a clue for every connection and request." }]

/-- the settings that a command line gives; what it does not give stays the default -/
def ofParsed (parsed : Parsed) : Except BadValue ListenerSettings := do
  let port ← parsed.number "port" Address.largestPort defaultAddress.port.toNat
  return {
    address := ⟨(parsed.argument? "host").getD defaultAddress.host, UInt16.ofNat port⟩
    verbose := parsed.has "verbose" }

/-- the shortest words that give the settings -/
def words (settings : ListenerSettings) : List String :=
  wordsFor "host" settings.address.host defaultAddress.host settings.address.host ++
    wordsFor "port" settings.address.port defaultAddress.port (toString settings.address.port) ++
    wordIf "verbose" settings.verbose

end ListenerSettings

/-! ## Programs -/

/-- how a program reads its command line into settings of type `σ` -/
structure Program (σ : Type) where
  /-- the first line of the usage text -/
  brief : String
  forms : List Form
  ofParsed : Parsed → Except BadValue σ

/-- what a command line comes to -/
inductive Reading (σ : Type) where
  | ready (settings : σ) (free : List String)
  /-- the program ends at once with a text for the user and a status -/
  | ends (text : String) (status : UInt8)
  /-- the program breaks off -/
  | breaks (bad : BadValue)

namespace Program

/-- a client by itself -/
def client : Program ClientSettings :=
  { brief := "USAGE: client"
    forms := [.helpMenu, ClientSettings.form "max-response-size"]
    ofParsed := ClientSettings.ofParsed "max-response-size" }

/-- the console, with a client inside it -/
def console : Program ConsoleSettings :=
  { brief := "USAGE: sql-shell [OPTIONS] <host> <port>"
    forms := ConsoleSettings.forms
    ofParsed := ConsoleSettings.ofParsed }

/-- the listening server -/
def listener : Program ListenerSettings :=
  { brief := "USAGE: frame-sock-server [--host HOST] [--port PORT]"
    forms := ListenerSettings.forms
    ofParsed := ListenerSettings.ofParsed }

/-- the status after a command line that cannot be read -/
def usageError : UInt8 := 64

/-- read a command line -/
def read (program : Program σ) (words : List String) : Reading σ :=
  match parse program.forms words with
  | .error fault => .ends ("could not parse command line: " ++ fault.message) usageError
  | .ok parsed =>
    if parsed.has Form.helpMenu.name then .ends (usage program.brief program.forms) 1
    else
      match program.ofParsed parsed with
      | .error bad => .breaks bad
      | .ok settings => .ready settings parsed.free

end Program

theorem console_words_default : ({} : ConsoleSettings).words = [] := by decide

theorem listener_words_default : ({} : ListenerSettings).words = [] := by decide

end Options

end QueryConsole
