import QueryConsole.Link.Address
import QueryConsole.Link.Frame.Write
import QueryConsole.Table
import QueryConsole.Text.Quoted

/-
A server: each piece that one read of a connection brings is one request, and each request is answered with one frame.

Requests have no frame of their own. Whatever one read hands over, at most `Server.requestSize` bytes, is given to the
handler as one request if it is text, and answered with a table that says so if it is not. A connection ends when the
peer has closed its side, or with the first read or write that fails.

Actors: the operating system, which hands over connections (`Arriving`) or fails to; the handler, which may keep a state
of its own; the peers, whose bytes arrive in any pieces.

Results:
- `notText_eq`: the words of the answer to a piece that is not text.
- `serve_hangup`: a peer that sends nothing ends its connection without an answer.
- `serve_stops`: accepting ends at the first failure to accept.
-/

namespace QueryConsole

/-- answers a request and goes on to a next state -/
abbrev Handler (η : Type) := String → η → String × η

/-- a handler whose answer depends on the request alone -/
def Handler.ofFun (answer : String → String) : Handler Unit := fun request _ => (answer request, ())

/-- one accepted connection -/
structure Connection where
  peer : String
  link : Link

/-- a connection that is being served, with the state of its handler -/
structure Service (η : Type) where
  handler : η
  link : Link

namespace Server

/-- most bytes of one request -/
def requestSize : Nat := 8192

/-- the answer to a piece that is not text -/
def notText (fault : Utf8.Fault) : String := Table.failure ("request is not valid utf8: " ++ fault.message)

/-- the text that answers one piece -/
def respond (answer : Handler η) (peer : String) (piece : Bytes) : Act (Service η) LinkError String := fun service =>
  match Utf8.decode piece with
  | .ok request =>
    let (response, handler) := answer request service.handler
    ⟨.ok response, { service with handler }, [.told (.request peer request), .handled request]⟩
  | .error fault => ⟨.ok (notText fault), service, [.counted .requestNotUtf8 1]⟩

/-- answer one piece with one frame -/
def answerPiece (answer : Handler η) (peer : String) (piece : Bytes) : Act (Service η) LinkError Unit := do
  Act.record [.counted .requests 1]
  let response ← respond answer peer piece
  (Link.sending (Frame.write (Utf8.encode response))).within Service.link fun link service => { service with link }

/-- serve a connection to its end -/
def serveConnection (answer : Handler η) (peer : String) (state : η) (inflow : Inflow) (outflow : Outflow) :
    Run (Service η) LinkError Unit :=
  match _met : inflow.read requestSize with
  | (.error cause, later) =>
    if cause.retryable then
      (serveConnection answer peer state later outflow).after [.read requestSize (.error cause)]
    else
      (LinkError.raise (.transport "read" cause) ⟨state, ⟨later, outflow⟩⟩).after
        [.read requestSize (.error cause)]
  | (.ok [], later) =>
    ⟨.ok (), ⟨state, ⟨later, outflow⟩⟩, [.read requestSize (.ok []), .told (.hangup peer)]⟩
  | (.ok (b :: piece), later) =>
    let before := [.read requestSize (.ok (b :: piece))]
    match answerPiece answer peer (b :: piece) ⟨state, ⟨later, outflow⟩⟩ with
    | ⟨.ok (), service, trace⟩ =>
      (serveConnection answer peer service.handler later service.link.outflow).after (before ++ trace)
    | ⟨.error e, service, trace⟩ => ⟨.error e, service, before ++ trace⟩
termination_by inflow.weight
decreasing_by
  · exact Inflow.weight_read_error _met
  · exact Inflow.weight_read_bytes _met

/-- listen on an address; `outcome` is what the operating system says to it -/
def bind (address : Address) (outcome : Except IoError Unit) : Act Unit LinkError Unit :=
  match address.checked.bind fun _ => outcome with
  | .ok () => pure ()
  | .error cause => LinkError.raise (.bind address.text cause)

/-- a listening server, as reports show it -/
def shown (address : Address) : String := "Server(" ++ quoted address.text ++ ")"

/-- what accepting a connection meets -/
abbrev Arriving := Except IoError Connection

/-- take what the operating system hands over: a connection, or a failure that ends the accepting -/
def accept : Arriving → Act η LinkError Connection
  | .ok connection => do
    Act.record [.counted .accept 1, .told (.accepted connection.peer)]
    return connection
  | .error cause => do
    Act.record [.counted .acceptError 1]
    LinkError.raise (.transport "accept" cause)

/-- serve an accepted connection with the handler's state -/
def serveAccepted (answer : Handler η) (connection : Connection) : Act η LinkError Link := fun state =>
  match serveConnection answer connection.peer state connection.link.inflow connection.link.outflow with
  | ⟨.ok (), service, trace⟩ => ⟨.ok service.link, service.handler, trace⟩
  | ⟨.error e, service, trace⟩ => ⟨.error e, service.handler, trace⟩

/-- accept one connection and serve it to its end -/
def serveOne (answer : Handler η) (arriving : Arriving) : Act η LinkError Unit := do
  let connection ← accept arriving
  discard (serveAccepted answer connection)

/-- serve a connection whose failure ends nothing but itself -/
def serveApart (answer : Handler η) (connection : Connection) : Act η LinkError Unit :=
  (discard (serveAccepted answer connection)).rescue fun e =>
    Act.record [.counted .connectionError 1, .told (.connectionFailed connection.peer e.message)]

/-- accept and serve connections until accepting fails; with no more to accept, wait -/
def serveArriving (answer : Handler η) : List Arriving → Act η LinkError Unit
  | [] => pure ()
  | arriving :: later => do
    let connection ← accept arriving
    serveApart answer connection
    serveArriving answer later

/-- serve an address -/
def serve (address : Address) (answer : Handler η) (arriving : List Arriving) : Act η LinkError Unit := do
  Act.record [.told (.listening address.text)]
  serveArriving answer arriving

theorem notText_eq (fault : Utf8.Fault) :
    notText fault = "request is not valid utf8: " ++ fault.message ++ "\t\nDONE TOTAL 0 LINES\n" :=
  Table.failure_eq _

theorem serve_hangup (answer : Handler η) (peer : String) (state : η) (outflow : Outflow) :
    serveConnection answer peer state ⟨[], none⟩ outflow =
      ⟨.ok (), ⟨state, ⟨⟨[], none⟩, outflow⟩⟩, [.read requestSize (.ok []), .told (.hangup peer)]⟩ := by
  rw [serveConnection]
  rfl

theorem serve_stops (answer : Handler η) (cause : IoError) (later : List Arriving) (state : η) :
    serveArriving answer (.error cause :: later) state =
      ⟨.error (.transport "accept" cause), state, [.counted .acceptError 1, .counted .transportError 1]⟩ := rfl

end Server

end QueryConsole
