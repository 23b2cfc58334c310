import QueryConsole.Trace.Metric

/-
Clues: what the program tells about a session while it runs, for whoever listens.

Each clue has an origin (the layer that tells it), a level and named values. A listener sets a verbosity and hears the
clues whose level is at most that.

Results:
- `audible_iff`: which clues a listener hears.
- `audible_mono`: raising the verbosity loses no clue.
-/

namespace QueryConsole

/-- the layer that tells a clue -/
inductive Origin where
  | link
  | server
  | console
  /-- the program around a server -/
  | listener
deriving DecidableEq, Repr

/-- the name of a layer in the log -/
def Origin.text : Origin → String
  | .link => "frame_sock"
  | .server => "frame_sock::server"
  | .console => "sql_shell"
  | .listener => "frame_sock_server"

/-- one named value of a clue -/
inductive ClueValue where
  | text (value : String)
  | flag (value : Bool)
  | list (values : List String)
deriving DecidableEq, Repr

/-- why a client gave its link up -/
inductive FailureKind where
  | transport
  | protocol
deriving DecidableEq, Repr

/-- the word for a reason in the log -/
def FailureKind.text : FailureKind → String
  | .transport => "transport"
  | .protocol => "protocol"

/-- only bytes that are no valid response blame the peer; all else is the stream -/
def LinkError.failureKind (e : LinkError) : FailureKind := if e.isProtocol then .protocol else .transport

/-- one thing that is told -/
inductive Clue where
  | newProcess (origin : Origin) (arguments : List String)
  | connected (address : String)
  | connectFailed (text : String)
  | failed (text : String) (kind : FailureKind)
  | closed
  | endOfInput
  | sessionError (text : String)
  | listening (address : String)
  | accepted (peer : String)
  | request (peer text : String)
  | hangup (peer : String)
  | connectionFailed (peer text : String)
deriving DecidableEq, Repr

namespace Clue

/-- the layer that tells the clue -/
def origin : Clue → Origin
  | newProcess origin _ => origin
  | connected _ | connectFailed _ | failed .. | closed => .link
  | endOfInput | sessionError _ => .console
  | listening _ | accepted _ | request .. | hangup _ | connectionFailed .. => .server

/-- told to every listener -/
def always : Nat := 0

/-- told about failures -/
def error : Nat := 3

/-- told about the ordinary course of a session -/
def info : Nat := 9

/-- the least verbosity at which the clue is heard -/
def level : Clue → Nat
  | newProcess .. => always
  | connectFailed _ | failed .. | sessionError _ | connectionFailed .. => error
  | connected _ | closed | endOfInput | listening _ | accepted _ | request .. | hangup _ => info

/-- the named values, in the order in which they are told -/
def values : Clue → List (String × ClueValue)
  | newProcess _ arguments => [("new_process", .list arguments)]
  | connected address => [("connect", .text address)]
  | connectFailed text => [("connect_failed", .text text)]
  | failed text kind => [("error", .text text), ("kind", .text kind.text)]
  | closed => [("close", .flag true)]
  | endOfInput => [("end_of_input", .flag true)]
  | sessionError text => [("session_error", .text text)]
  | listening address => [("listening", .text address)]
  | accepted peer => [("accept", .text peer)]
  | request peer text => [("peer", .text peer), ("request", .text text)]
  | hangup peer => [("hangup", .text peer)]
  | connectionFailed peer text => [("peer", .text peer), ("error", .text text)]

/-- the letter of a level in the log -/
def levelText (level : Nat) : String :=
  if level = always then "A" else if level = error then "E" else if level = info then "I" else toString level

/-- how a character is written in the log: only what would end the text or the line is escaped -/
def logChar : Char → List Char
  | '"' => ['\\', '"']
  | '\\' => ['\\', '\\']
  | '\n' => ['\\', 'n']
  | c => [c]

/-- a text as the log shows it -/
def logged (text : String) : String := String.ofList ('"' :: text.toList.flatMap logChar ++ ['"'])

end Clue

/-- a value as the log shows it -/
def ClueValue.line : ClueValue → String
  | .text value => Clue.logged value
  | .flag value => toString value
  | .list values => "[" ++ ", ".intercalate (values.map Clue.logged) ++ "]"

namespace Clue

/-- a clue as one line of a log: level, origin and values -/
def line (clue : Clue) : String :=
  let values := clue.values.map fun (name, value) => logged name ++ ": " ++ value.line
  levelText clue.level ++ " " ++ clue.origin.text ++ " \x7b" ++ ", ".intercalate values ++ "\x7d"

/-- the clues that a listener of this verbosity hears -/
def audible (verbosity : Nat) (clues : List Clue) : List Clue := clues.filter (·.level ≤ verbosity)

theorem audible_iff {verbosity : Nat} {clues : List Clue} {clue : Clue} :
    clue ∈ audible verbosity clues ↔ clue ∈ clues ∧ clue.level ≤ verbosity := by
  simp [audible]

theorem audible_mono {v w : Nat} (h : v ≤ w) {clues : List Clue} {clue : Clue} (heard : clue ∈ audible v clues) :
    clue ∈ audible w clues :=
  have ⟨member, low⟩ := audible_iff.1 heard
  audible_iff.2 ⟨member, Nat.le_trans low h⟩

end Clue

end QueryConsole
