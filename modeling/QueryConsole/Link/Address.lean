import QueryConsole.IoError

/-
Addresses of servers: a host name or number and a port.

Results:
- `checked_eq_error_iff`: an address is refused before any connection attempt only for a zero byte in its host.
-/

namespace QueryConsole

/-- where a server is: a host, by name or number, and a port there -/
structure Address where
  host : String
  port : UInt16
deriving DecidableEq, Repr

namespace Address

/-- ports are numbers of two bytes -/
def largestPort : Nat := 65535

/-- an address in words: host, colon, port -/
def text (address : Address) : String := address.host ++ ":" ++ toString address.port

/-- the address, if its host can be handed to the operating system at all -/
def checked (address : Address) : Except IoError Address :=
  if '\x00' ∈ address.host.toList then .error .zeroByteInName else .ok address

theorem checked_eq_error_iff (address : Address) :
    address.checked = .error .zeroByteInName ↔ '\x00' ∈ address.host.toList := by
  unfold checked
  split <;> simp [*]

end Address

end QueryConsole
