import QueryConsole.IoError
import QueryConsole.Text.Utf8

/-
Failures of a link, the stream between a client and a server.

Each failure is a cause with its circumstances; `message` words it for a user. Two classes matter to a caller:
- `isTransport`: the byte stream itself failed, by the system's report, by ending inside a frame, or because it was
  closed on this side before;
- `isProtocol`: the stream delivered bytes that are no valid response.
Failures to connect or to listen are neither: there was no stream yet.

Results:
- `transport_protocol_disjoint`: no failure is in both classes.
- `setup_iff`: a failure in neither class is one to connect or to listen.
-/

namespace QueryConsole

/-- the part of a frame that was being read -/
inductive Phase where
  | header
  | payload
deriving DecidableEq, Repr

/-- the part of a frame, in words -/
def Phase.text : Phase → String
  | .header => "length prefix"
  | .payload => "payload"

/-- why a link could not be made, used or understood -/
inductive LinkError where
  /-- the server could not be reached -/
  | connect (address : String) (cause : IoError)
  /-- the address cannot be listened on -/
  | bind (address : String) (cause : IoError)
  /-- the system reported a failure during `activity` -/
  | transport (activity : String) (cause : IoError)
  /-- the stream ended inside a frame: `received` of `expected` bytes of the phase had arrived -/
  | connectionLost (phase : Phase) (expected received : Nat)
  /-- the link was closed on this side before -/
  | closed
  /-- a whole payload arrived, but it is not text -/
  | invalidUtf8 (payload : Bytes) (fault : Utf8.Fault)
  /-- a frame announces more bytes than are accepted -/
  | frameTooLarge (size limit : Nat)
deriving DecidableEq, Repr

namespace LinkError

/-- what a user is shown -/
def message : LinkError → String
  | connect address cause => "could not connect to " ++ address ++ ": " ++ cause.message
  | bind address cause => "could not listen on " ++ address ++ ": " ++ cause.message
  | transport activity cause => "connection lost during " ++ activity ++ ": " ++ cause.message
  | connectionLost phase expected received =>
    "connection lost: peer closed the stream after " ++ toString received ++ " of " ++ toString expected ++ " " ++
      phase.text ++ " bytes"
  | closed => "connection is closed"
  | invalidUtf8 _ fault => "malformed response: payload is not valid utf8: " ++ fault.message
  | frameTooLarge size limit =>
    "malformed response: frame of " ++ toString size ++ " bytes exceeds the limit of " ++ toString limit ++ " bytes"

/-- the texts of the causes beneath a failure, nearest first -/
def causes : LinkError → List String
  | connect _ cause => [cause.message]
  | bind _ cause => [cause.message]
  | transport _ cause => [cause.message]
  | invalidUtf8 _ fault => [fault.message]
  | _ => []

/-- the byte stream itself failed -/
def isTransport : LinkError → Bool
  | transport .. => true
  | connectionLost .. => true
  | closed => true
  | _ => false

/-- the stream delivered bytes that are no valid response -/
def isProtocol : LinkError → Bool
  | invalidUtf8 .. => true
  | frameTooLarge .. => true
  | _ => false

theorem transport_protocol_disjoint (e : LinkError) : ¬ (e.isTransport = true ∧ e.isProtocol = true) := by
  cases e <;> simp [isTransport, isProtocol]

theorem setup_iff (e : LinkError) :
    (e.isTransport = false ∧ e.isProtocol = false) ↔
      (∃ address cause, e = connect address cause) ∨ ∃ address cause, e = bind address cause := by
  cases e <;> simp [isTransport, isProtocol]

end LinkError

end QueryConsole
