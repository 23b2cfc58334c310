/-
Numerals: natural numbers in decimal digits, as users write them, up to a largest value.

A plus sign may stand before the digits, and zeros may lead. Anything else is refused with a `NumeralFault`. The digits
are read from the left and the first thing that is wrong decides: a character that is no digit, or a digit that takes
the number above the largest value.

Results:
- `read_le`: a numeral that is read is at most the largest value.
- `read_empty`: an empty text is refused as such.
-/

namespace QueryConsole

/-- why a text is no numeral -/
inductive NumeralFault where
  | empty
  | invalidDigit
  | tooLarge
deriving DecidableEq, Repr

/-- the fault, in words -/
def NumeralFault.message : NumeralFault → String
  | .empty => "cannot parse integer from empty string"
  | .invalidDigit => "invalid digit found in string"
  | .tooLarge => "number too large to fit in target type"

namespace Numeral

/-- go on reading digits after `value` -/
def digitsAfter (largest value : Nat) : List Char → Except NumeralFault Nat
  | [] => .ok value
  | c :: rest =>
    if c.isDigit then
      let value := 10 * value + (c.toNat - '0'.toNat)
      if value ≤ largest then digitsAfter largest value rest else .error .tooLarge
    else .error .invalidDigit

/-- the number that a text is the numeral of -/
def read (largest : Nat) (text : String) : Except NumeralFault Nat :=
  match text.toList with
  | [] => .error .empty
  | ['+'] => .error .invalidDigit
  | '+' :: digits => digitsAfter largest 0 digits
  | digits => digitsAfter largest 0 digits

theorem digitsAfter_le {largest value n : Nat} {cs : List Char} (start : value ≤ largest)
    (h : digitsAfter largest value cs = .ok n) : n ≤ largest := by
  induction cs generalizing value with
  | nil => cases h; exact start
  | cons c rest ih =>
    simp only [digitsAfter] at h
    split at h
    · split at h
      · next small => exact ih small h
      · cases h
    · cases h

theorem read_le {largest n : Nat} {text : String} (h : read largest text = .ok n) : n ≤ largest := by
  unfold read at h
  split at h
  · cases h
  · cases h
  · exact digitsAfter_le (Nat.zero_le _) h
  · exact digitsAfter_le (Nat.zero_le _) h

theorem read_empty (largest : Nat) : read largest "" = .error .empty := rfl

end Numeral

end QueryConsole
