import QueryConsole.Link.Frame.Read
import QueryConsole.Link.Frame.Write

/-
A client: one link to a server, over which requests go out as plain bytes and responses come back as frames.

A failure to send or receive leaves the stream at an unknown place between frames. So a client gives its link up at the
first failure, tells why, and refuses everything that it is asked to do afterwards.

Actors: callers `send`, `receive`, `invoke` (send, then receive) and `close`, in any order (`Client.Request`).

Results:
- `close_closed`: closing a closed client does nothing.
- `perform_closed`: a closed client does nothing but refuse.
- `limit_onLink`: no use of the link changes the client's limit.
-/

namespace QueryConsole

/-- one end of a link: open until it is closed or something fails, and closed from then on -/
structure Client where
  /-- most payload bytes of a response -/
  limit : UInt32 := Frame.defaultLimit
  /-- the link to the server, until it is given up -/
  link : Option Link

namespace Client

variable {ε α : Type}

/-- the link was given up -/
def isClosed (client : Client) : Bool := client.link.isNone

/-- give the link up -/
def close : Act Client ε Unit := fun client =>
  match client.link with
  | none => ⟨.ok (), client, []⟩
  | some _ => ⟨.ok (), { client with link := none }, [.counted .close 1, .told .closed]⟩

/-- tell a failure and give the link up -/
def abandon (e : LinkError) : Act Client LinkError α := do
  Act.record [.told (.failed e.message e.failureKind)]
  close
  Act.fail e

/-- use the link; a failure of the use is the end of the link -/
def onLink (act : Act Link LinkError α) : Act Client LinkError α := fun client =>
  match client.link with
  | none => LinkError.raise .closed client
  | some link =>
    match act link with
    | ⟨.ok a, link, trace⟩ => ⟨.ok a, { client with link := some link }, trace⟩
    | ⟨.error e, link, trace⟩ => (abandon e { client with link := some link }).after trace

/-- write the bytes of a line as they are, with nothing before or after them -/
def send (line : String) : Act Client LinkError Unit := do
  let bytes := Utf8.encode line
  onLink (Link.sending (Outflow.deliver bytes))
  Act.record [.counted .requestsSent 1, .counted .requestBytes bytes.length]

/-- the text of a payload -/
def textOf (payload : Bytes) : Act Link LinkError String :=
  match Utf8.decode payload with
  | .ok text => pure text
  | .error fault => LinkError.raise (.invalidUtf8 payload fault)

/-- read one response -/
def receive : Act Client LinkError String := do
  let client ← Act.get
  onLink do
    let payload ← Link.receiving (Frame.read client.limit.toNat)
    Act.record [.sampled .receiveLatency, .counted .responsesReceived 1, .counted .responseBytes payload.length]
    textOf payload

/-- send a line and wait for its response -/
def invoke (line : String) : Act Client LinkError String := do
  send line
  receive

/-- what a client may be asked to do -/
inductive Request where
  | send (line : String)
  | receive
  | invoke (line : String)
  | close
deriving DecidableEq, Repr

/-- do as asked; a response, if one was asked for -/
def perform : Request → Act Client LinkError (Option String)
  | .send line => do send line; return none
  | .receive => do return some (← Client.receive)
  | .invoke line => do return some (← Client.invoke line)
  | .close => do close; return none

/-- a client over a link whose connection attempt ended as `outcome`, and which was then asked to hold nothing back; that
ended as `undelayed`. Both failures are failures to connect, but only the first is told. -/
def connectUndelayed (address : String) (limit : UInt32) (outcome : Except IoError Link)
    (undelayed : Except IoError Unit) : Act Unit LinkError Client := do
  Act.record [.counted .connect 1]
  match outcome, undelayed with
  | .error cause, _ =>
    let e := LinkError.connect address cause
    Act.record [.counted e.counter 1, .told (.connectFailed e.message)]
    Act.fail e
  | .ok _, .error cause => LinkError.raise (.connect address cause)
  | .ok link, .ok () =>
    Act.record [.told (.connected address)]
    return { limit, link := some link }

/-- a client over a link that can be asked to hold nothing back -/
def connect (address : String) (limit : UInt32) (outcome : Except IoError Link) : Act Unit LinkError Client :=
  connectUndelayed address limit outcome (.ok ())

/-! ## A closed client -/

@[simp] theorem close_closed (limit : UInt32) :
    (close : Act Client ε Unit) ⟨limit, none⟩ = ⟨.ok (), ⟨limit, none⟩, []⟩ := rfl

theorem onLink_closed (act : Act Link LinkError α) (limit : UInt32) :
    onLink act ⟨limit, none⟩ = ⟨.error .closed, ⟨limit, none⟩, [.counted .closedError 1]⟩ := rfl

theorem perform_closed {request : Request} (h : request ≠ .close) (limit : UInt32) :
    perform request ⟨limit, none⟩ = ⟨.error .closed, ⟨limit, none⟩, [.counted .closedError 1]⟩ := by
  cases request with
  | close => exact absurd rfl h
  | _ => rfl

theorem limit_onLink (act : Act Link LinkError α) (client : Client) :
    (onLink act client).state.limit = client.limit := by
  obtain ⟨limit, link⟩ := client
  cases link with
  | none => rfl
  | some link =>
    rcases h : act link with ⟨_ | _, link', trace⟩
    · simp only [onLink, h]; rfl
    · simp only [onLink, h]

end Client

end QueryConsole
