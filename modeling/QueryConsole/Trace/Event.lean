import QueryConsole.Trace.Clue

/-
Traces: everything that running a part of the program does, in order.

A trace is a list of events, oldest first. Some events are calls on the three outside objects (the link's two
directions, the line source, the screen) with what they met; the others are the program's own bookkeeping (counts,
samples, clues). All totals that a reader may ask for are functions of the trace: nothing is kept twice.

Results: each view of a trace turns `++` into the sum or concatenation of the views (`received_append`, `taken_append`,
`flushes_append`, `total_append`, `samples_append`, `clues_append`).
-/

namespace QueryConsole

/-- the two places that bytes are written to -/
inductive Port where
  /-- the stream to the peer -/
  | link
  /-- the user's output -/
  | screen
deriving DecidableEq, Repr

/-- one thing that happened -/
inductive Event where
  /-- a read of the link into `room` free bytes; no bytes: the peer has closed its side -/
  | read (room : Nat) (got : Except IoError Bytes)
  /-- the buffer of the payload now holds `size` bytes -/
  | reserved (size : Nat)
  /-- a write; what it took of the bytes it was offered -/
  | wrote (port : Port) (taken : Except IoError Bytes)
  | flushed (port : Port) (answer : Except IoError Unit)
  /-- the line source was asked for a line; no line: the input is over -/
  | asked (answer : Except SessionError (Option String))
  /-- a request was given to the handler of a server -/
  | handled (request : String)
  | counted (counter : Counter) (amount : Nat)
  | sampled (moment : Moment)
  | told (clue : Clue)

namespace Event

/-- bytes that one event read -/
def received : Event → Bytes
  | read _ (.ok got) => got
  | _ => []

/-- bytes that one event's write to the port took -/
def taken (port : Port) : Event → Bytes
  | wrote p (.ok bytes) => if p = port then bytes else []
  | _ => []

/-- the event is a successful flush of the port -/
def isFlush (port : Port) : Event → Bool
  | flushed p (.ok _) => p = port
  | _ => false

/-- what one event adds to a counter -/
def adds (counter : Counter) : Event → Nat
  | counted c amount => if c = counter then amount else 0
  | _ => 0

/-- the event is a sample of the moment -/
def isSample (moment : Moment) : Event → Bool
  | sampled m => m = moment
  | _ => false

/-- the clue that the event tells -/
def clue? : Event → Option Clue
  | told clue => some clue
  | _ => none

end Event

/-- all that happened, oldest first -/
abbrev Trace := List Event

namespace Trace

/-- bytes read from the link -/
def received (trace : Trace) : Bytes := trace.flatMap Event.received

/-- bytes that the writes to a port took -/
def taken (port : Port) (trace : Trace) : Bytes := trace.flatMap (Event.taken port)

/-- successful flushes of a port -/
def flushes (port : Port) (trace : Trace) : Nat := trace.countP (Event.isFlush port)

/-- growth of a counter -/
def total (counter : Counter) (trace : Trace) : Nat := trace.foldr (fun event n => event.adds counter + n) 0

/-- number of samples of a moment -/
def samples (moment : Moment) (trace : Trace) : Nat := trace.countP (Event.isSample moment)

/-- the clues, in order -/
def clues (trace : Trace) : List Clue := trace.filterMap Event.clue?

@[simp] theorem received_nil : received [] = [] := rfl

@[simp] theorem received_cons (e : Event) (trace : Trace) : received (e :: trace) = e.received ++ received trace := rfl

@[simp] theorem received_append (a b : Trace) : received (a ++ b) = received a ++ received b := by
  simp [received]

@[simp] theorem taken_nil (port : Port) : taken port [] = [] := rfl

@[simp] theorem taken_cons (port : Port) (e : Event) (trace : Trace) :
    taken port (e :: trace) = e.taken port ++ taken port trace := rfl

@[simp] theorem taken_append (port : Port) (a b : Trace) : taken port (a ++ b) = taken port a ++ taken port b := by
  simp [taken]

@[simp] theorem flushes_append (port : Port) (a b : Trace) :
    flushes port (a ++ b) = flushes port a + flushes port b := by
  simp [flushes]

@[simp] theorem total_append (counter : Counter) (a b : Trace) :
    total counter (a ++ b) = total counter a + total counter b := by
  simp only [total, List.foldr_append]
  induction a with
  | nil => simp
  | cons event later ih => simp only [List.foldr_cons, ih, Nat.add_assoc]

@[simp] theorem samples_append (moment : Moment) (a b : Trace) :
    samples moment (a ++ b) = samples moment a + samples moment b := by
  simp [samples]

@[simp] theorem clues_append (a b : Trace) : clues (a ++ b) = clues a ++ clues b := by
  simp [clues]

end Trace

end QueryConsole
