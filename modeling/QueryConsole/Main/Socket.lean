import QueryConsole.Link.Address
import QueryConsole.Link.Frame.Format
import QueryConsole.Link.Stream
import Std.Async.DNS
import Std.Async.TCP

/-
Sockets of the operating system, and its failures as the library knows them.

Nothing is decided here: a call is made, and what it gave is handed over as arrivals, intakes and causes.
-/

namespace QueryConsole

open Std.Async Std.Net

/-- a failure that the system reports; the network calls report numbers that are counted down from zero -/
def IoError.ofSystem (e : IO.Error) : IoError :=
  let numbered (code : UInt32) : IoError :=
    let number := if code.toNat < 2147483648 then code.toNat else 4294967296 - code.toNat
    if number < 3000 then .system number else .worded .uncategorized (toString e)
  match e with
  | .alreadyExists _ code _ | .otherError code _ | .resourceBusy code _ | .resourceVanished code _
  | .unsupportedOperation code _ | .hardwareFault code _ | .unsatisfiedConstraints code _ | .illegalOperation code _
  | .protocolError code _ | .timeExpired code _ | .interrupted _ code _ | .noFileOrDirectory _ code _
  | .invalidArgument _ code _ | .permissionDenied _ code _ | .resourceExhausted _ code _
  | .inappropriateType _ code _ | .noSuchThing _ code _ => numbered code
  | .unexpectedEof => .plain .unexpectedEof
  | .userError text => .worded .other text

/-- what a call gives -/
def outcomeOf (call : IO α) : IO (Except IoError α) := do
  match ← call.toBaseIO with
  | .ok a => return .ok a
  | .error e => return .error (.ofSystem e)

/-- bytes as the system takes them -/
def byteArray (bytes : Bytes) : ByteArray := ⟨bytes.toArray⟩

/-- an address of the network, as reports show it -/
def shownPeer : SocketAddress → String
  | .v4 peer => peer.addr.toString ++ ":" ++ toString peer.port
  | .v6 peer => "[" ++ peer.addr.toString ++ "]:" ++ toString peer.port

namespace Address

/-- the addresses of the network that a host and port stand for -/
def resolve (address : Address) : IO (Except IoError (List SocketAddress)) := do
  match address.checked with
  | .error cause => return .error cause
  | .ok _ =>
    let place : IPAddr → SocketAddress
      | .v4 host => .v4 ⟨host, address.port⟩
      | .v6 host => .v6 ⟨host, address.port⟩
    match ← (DNS.getAddrInfo address.host (toString address.port)).block.toBaseIO with
    | .ok hosts => return .ok (hosts.toList.map place)
    | .error e =>
      return .error (.worded .uncategorized ("failed to lookup address information: " ++ toString e))

/-- try a call at each address of the network until one succeeds; the last failure, if none does -/
def firstOf (call : SocketAddress → IO α) : List SocketAddress → IoError → IO (Except IoError α)
  | [], cause => return .error cause
  | place :: later, _ => do
    match ← outcomeOf (call place) with
    | .ok a => return .ok a
    | .error cause => firstOf call later cause

/-- make a call at an address -/
def atFirst (address : Address) (call : SocketAddress → IO α) : IO (Except IoError α) := do
  match ← address.resolve with
  | .error cause => return .error cause
  | .ok places => firstOf call places (.worded .invalidInput "could not resolve to any addresses")

/-- connect to an address; with the socket, how asking it to hold nothing back ended -/
def dial (address : Address) : IO (Except IoError (TCP.Socket.Client × Except IoError Unit)) :=
  address.atFirst fun place => do
    let socket ← TCP.Socket.Client.mk
    (socket.connect place).block
    return (socket, ← outcomeOf socket.noDelay)

/-- listen on an address -/
def listen (address : Address) : IO (Except IoError TCP.Socket.Server) :=
  address.atFirst fun place => do
    let socket ← TCP.Socket.Server.mk
    socket.bind place
    socket.listen 128
    return socket

end Address

/-- send bytes; what a write of them meets -/
def sendAll (socket : TCP.Socket.Client) (bytes : Bytes) : IO (List Intake) := do
  match ← outcomeOf (socket.send (byteArray bytes)).block with
  | .ok () => return []
  | .error cause => return [.refuses cause]

/-- receive at most `room` bytes; what a read meets -/
def receiveSome (socket : TCP.Socket.Client) (room : Nat) : IO Arrival := do
  match ← outcomeOf (socket.recv? (UInt64.ofNat room)).block with
  | .ok none => return .bytes []
  | .ok (some piece) => return .bytes piece.toList
  | .error cause => return .failure cause

/-- receive `want` bytes more, or as many as there are before the end or a failure; newest first -/
partial def gather (socket : TCP.Socket.Client) (want : Nat) (got : List Arrival) : IO (List Arrival) := do
  if want = 0 then return got
  match ← receiveSome socket (min want 65536) with
  | .bytes (b :: piece) => gather socket (want - (piece.length + 1)) (.bytes (b :: piece) :: got)
  | other => return other :: got

/-- what the reads of one frame meet -/
def receiveFrame (socket : TCP.Socket.Client) (limit : Nat) : IO (List Arrival) := do
  let head ← gather socket Frame.headerSize []
  let bytes := head.reverse.flatMap fun
    | .bytes piece => piece
    | .failure _ => []
  return (← gather socket (Frame.toRead limit bytes) head).reverse

end QueryConsole
