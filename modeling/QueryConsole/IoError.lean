/-
Failures that the operating system reports: what a read, a write, a flush, a connection attempt or opening a file can
end in.

An `IoError` comes in three shapes: a bare kind, a kind with words of its own, or a numbered error of the operating
system. Callers tell failures apart by `kind` alone and show `message` alone. One kind is special: an `interrupted` call
did nothing and may be issued again.

Results:
- `kind_plain`, `kind_worded`: a failure built from a kind has that kind.
- `retryable_iff`: the failures that are re-issued are exactly those of kind `interrupted`.
-/

namespace QueryConsole

/-- the kinds of failure that callers tell apart -/
inductive IoKind where
  | notFound | permissionDenied | connectionRefused | connectionReset | connectionAborted | notConnected
  | addrInUse | addrNotAvailable | networkUnreachable | hostUnreachable | brokenPipe | alreadyExists | wouldBlock
  | notADirectory | isADirectory | invalidInput | invalidData | timedOut | writeZero | interrupted | unsupported
  | unexpectedEof | outOfMemory | tooManyOpenFiles | other | uncategorized
deriving DecidableEq, Repr

/-- the text of a failure of which only the kind is known -/
def IoKind.text : IoKind → String
  | .notFound => "entity not found"
  | .permissionDenied => "permission denied"
  | .connectionRefused => "connection refused"
  | .connectionReset => "connection reset"
  | .connectionAborted => "connection aborted"
  | .notConnected => "not connected"
  | .addrInUse => "address in use"
  | .addrNotAvailable => "address not available"
  | .networkUnreachable => "network unreachable"
  | .hostUnreachable => "host unreachable"
  | .brokenPipe => "broken pipe"
  | .alreadyExists => "entity already exists"
  | .wouldBlock => "operation would block"
  | .notADirectory => "not a directory"
  | .isADirectory => "is a directory"
  | .invalidInput => "invalid input parameter"
  | .invalidData => "invalid data"
  | .timedOut => "timed out"
  | .writeZero => "write zero"
  | .interrupted => "operation interrupted"
  | .unsupported => "unsupported"
  | .unexpectedEof => "unexpected end of file"
  | .outOfMemory => "out of memory"
  | .tooManyOpenFiles => "too many open files"
  | .other => "other error"
  | .uncategorized => "uncategorized error"

/-- kind and text of the numbered errors of the operating system -/
def systemError : Nat → IoKind × String
  | 1 => (.permissionDenied, "Operation not permitted")
  | 2 => (.notFound, "No such file or directory")
  | 4 => (.interrupted, "Interrupted system call")
  | 5 => (.uncategorized, "Input/output error")
  | 11 => (.wouldBlock, "Resource temporarily unavailable")
  | 12 => (.outOfMemory, "Cannot allocate memory")
  | 13 => (.permissionDenied, "Permission denied")
  | 17 => (.alreadyExists, "File exists")
  | 20 => (.notADirectory, "Not a directory")
  | 21 => (.isADirectory, "Is a directory")
  | 22 => (.invalidInput, "Invalid argument")
  | 24 => (.tooManyOpenFiles, "Too many open files")
  | 32 => (.brokenPipe, "Broken pipe")
  | 98 => (.addrInUse, "Address already in use")
  | 99 => (.addrNotAvailable, "Cannot assign requested address")
  | 101 => (.networkUnreachable, "Network is unreachable")
  | 103 => (.connectionAborted, "Software caused connection abort")
  | 104 => (.connectionReset, "Connection reset by peer")
  | 107 => (.notConnected, "Transport endpoint is not connected")
  | 110 => (.timedOut, "Connection timed out")
  | 111 => (.connectionRefused, "Connection refused")
  | 113 => (.hostUnreachable, "No route to host")
  | number => (.uncategorized, "Unknown error " ++ toString number)

/-- one failure of the operating system -/
inductive IoError where
  /-- only the kind is known -/
  | plain (kind : IoKind)
  /-- a kind, told in words of its own -/
  | worded (kind : IoKind) (text : String)
  /-- a numbered error -/
  | system (number : Nat)
deriving DecidableEq, Repr

namespace IoError

/-- what callers tell failures apart by -/
def kind : IoError → IoKind
  | plain kind => kind
  | worded kind _ => kind
  | system number => (systemError number).1

/-- what a user is shown -/
def message : IoError → String
  | plain kind => kind.text
  | worded _ text => text
  | system number => (systemError number).2 ++ " (os error " ++ toString number ++ ")"

/-- a writer that takes no byte of a non-empty piece will never take it whole -/
def nothingTaken : IoError := worded .writeZero "failed to write whole buffer"

/-- bytes that were to be read as text are not UTF-8 -/
def notText : IoError := worded .invalidData "stream did not contain valid UTF-8"

/-- a path or host name with a zero byte in it cannot be handed to the operating system -/
def zeroByteInName : IoError := worded .invalidInput "file name contained an unexpected NUL byte"

/-- an interrupted call did nothing and may be issued again -/
def retryable (e : IoError) : Bool := e.kind == .interrupted

@[simp] theorem kind_plain (k : IoKind) : (plain k).kind = k := rfl

@[simp] theorem kind_worded (k : IoKind) (text : String) : (worded k text).kind = k := rfl

theorem retryable_iff (e : IoError) : e.retryable = true ↔ e.kind = .interrupted := by
  simp [retryable]

end IoError

end QueryConsole
