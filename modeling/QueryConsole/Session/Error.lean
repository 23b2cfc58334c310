import QueryConsole.Link.Error

/-
Failures of a session at the console: of the exchange with the server, of reading a line, or of a file or the output.

`ReadlineFault` is what reading a line from the user can end in. All of them but one become a `readline` failure with
the fault's words; a user's interruption stays apart, since a program that is interrupted says nothing about it. The
editor may know more faults than are told apart here; of those only their words matter.

Results:
- `ofReadline_eq`: a fault is told in its words, unless it is an interruption.
-/

namespace QueryConsole

/-- what reading a line from the user can end in, besides a line -/
inductive ReadlineFault where
  | endOfInput
  | interrupted
  | windowResized
  | io (cause : IoError)
  /-- any other fault of the editor or its terminal, in its own words -/
  | other (words : String)
deriving DecidableEq, Repr

/-- the fault, in words -/
def ReadlineFault.message : ReadlineFault → String
  | .endOfInput => "EOF"
  | .interrupted => "Interrupted"
  | .windowResized => "WindowResized"
  | .io cause => cause.message
  | .other words => words

/-- why a session ended before its input was over, or could not begin -/
inductive SessionError where
  /-- the exchange with the server failed -/
  | client (cause : LinkError)
  /-- no line could be read; the reason in words -/
  | readline (reason : String)
  /-- the user interrupted the session -/
  | interrupted
  /-- the output could not be written, or a script could not be read -/
  | io (cause : IoError)
deriving DecidableEq, Repr

namespace SessionError

/-- what a user is shown -/
def message : SessionError → String
  | client cause => cause.message
  | readline reason => "could not read line: " ++ reason
  | interrupted => "interrupted"
  | io cause => "could not write output: " ++ cause.message

/-- the texts of the causes beneath a failure, nearest first -/
def causes : SessionError → List String
  | client cause => cause.message :: cause.causes
  | io cause => [cause.message]
  | _ => []

/-- what a fault of reading a line is to the session -/
def ofReadline : ReadlineFault → SessionError
  | .interrupted => interrupted
  | fault => readline fault.message

theorem ofReadline_eq (fault : ReadlineFault) :
    ofReadline fault = if fault = .interrupted then interrupted else readline fault.message := by
  cases fault <;> rfl

end SessionError

end QueryConsole
