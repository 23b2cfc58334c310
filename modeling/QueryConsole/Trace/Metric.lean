import QueryConsole.Session.Error

/-
What the program counts, and the names under which the counts are published.

A `Counter` only grows; a `Moment` gathers samples of a duration. `Counter.ofLink` and `Counter.ofConsole` list the
counters of the link layer and of the console in the order in which they are published.

Results:
- `labels_nodup`: two counters never share a name.
- `mem_published`: every counter is published.
-/

namespace QueryConsole

/-- what is counted -/
inductive Counter where
  | connect | close | requestsSent | requestBytes | responsesReceived | responseBytes | readInterrupted | framesWritten
  | connectError | bindError | transportError | connectionLost | closedError | invalidUtf8 | frameTooLarge
  | accept | acceptError | requests | requestNotUtf8 | connectionError
  | linesRead | blankLines | interrupted | sessionError
deriving DecidableEq, Repr

/-- what is sampled -/
inductive Moment where
  /-- the time from the start of a receive to the last byte of its frame -/
  | receiveLatency
  /-- the time of a whole exchange -/
  | roundTrip
deriving DecidableEq, Repr

namespace Counter

/-- the published name -/
def label : Counter → String
  | connect => "frame_sock.client.connect"
  | close => "frame_sock.client.close"
  | requestsSent => "frame_sock.client.requests_sent"
  | requestBytes => "frame_sock.client.request_bytes"
  | responsesReceived => "frame_sock.client.responses_recv"
  | responseBytes => "frame_sock.client.response_bytes"
  | readInterrupted => "frame_sock.read.interrupted"
  | framesWritten => "frame_sock.frames_written"
  | connectError => "frame_sock.error.connect"
  | bindError => "frame_sock.error.bind"
  | transportError => "frame_sock.error.transport"
  | connectionLost => "frame_sock.error.connection_lost"
  | closedError => "frame_sock.error.closed"
  | invalidUtf8 => "frame_sock.error.invalid_utf8"
  | frameTooLarge => "frame_sock.error.frame_too_large"
  | accept => "frame_sock.server.accept"
  | acceptError => "frame_sock.server.accept_error"
  | requests => "frame_sock.server.requests"
  | requestNotUtf8 => "frame_sock.server.request_not_utf8"
  | connectionError => "frame_sock.server.connection_error"
  | linesRead => "sql_shell.lines_read"
  | blankLines => "sql_shell.blank_lines"
  | interrupted => "sql_shell.interrupted"
  | sessionError => "sql_shell.session_error"

/-- the counters of the link layer, clients first -/
def ofLink : List Counter :=
  [connect, close, requestsSent, requestBytes, responsesReceived, responseBytes, readInterrupted, framesWritten,
    connectError, bindError, transportError, connectionLost, closedError, invalidUtf8, frameTooLarge,
    accept, acceptError, requests, requestNotUtf8, connectionError]

/-- the counters of the console -/
def ofConsole : List Counter := [linesRead, blankLines, interrupted, sessionError]

/-- all counters, as the console publishes them -/
def published : List Counter := ofConsole ++ ofLink

theorem labels_nodup : (published.map label).Nodup := by decide +kernel

theorem mem_published (c : Counter) : c ∈ published := by
  cases c <;> decide

end Counter

namespace Moment

/-- the published name -/
def label : Moment → String
  | receiveLatency => "frame_sock.client.receive_latency"
  | roundTrip => "sql_shell.round_trip"

/-- the moments of the link layer -/
def ofLink : List Moment := [receiveLatency]

/-- the moments of the console -/
def ofConsole : List Moment := [roundTrip]

end Moment

/-- the counter that grows by one when the failure arises -/
def LinkError.counter : LinkError → Counter
  | .connect .. => .connectError
  | .bind .. => .bindError
  | .transport .. => .transportError
  | .connectionLost .. => .connectionLost
  | .closed => .closedError
  | .invalidUtf8 .. => .invalidUtf8
  | .frameTooLarge .. => .frameTooLarge

end QueryConsole
