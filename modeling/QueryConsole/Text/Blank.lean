/-
Blank text: the characters with the Unicode property White_Space, and the lines that hold nothing else.

Results:
- `isBlankChar_of_isWhitespace`: whatever the standard library calls white space is in the table.
- `isBlank_iff`: a line is blank when each of its characters is.
-/

namespace QueryConsole

/-- the ranges of code points with the property White_Space -/
def whiteSpace : List (Nat × Nat) :=
  [(0x09, 0x0D), (0x20, 0x20), (0x85, 0x85), (0xA0, 0xA0), (0x1680, 0x1680), (0x2000, 0x200A), (0x2028, 0x2029),
    (0x202F, 0x202F), (0x205F, 0x205F), (0x3000, 0x3000)]

/-- the character is white space -/
def isBlankChar (c : Char) : Bool := whiteSpace.any fun (low, high) => low ≤ c.toNat && c.toNat ≤ high

/-- nothing is left of the line when white space is taken off its ends -/
def isBlank (line : String) : Bool := line.toList.all isBlankChar

theorem isBlankChar_of_isWhitespace {c : Char} (h : c.isWhitespace = true) : isBlankChar c = true := by
  simp only [Char.isWhitespace, Bool.or_eq_true, decide_eq_true_eq] at h
  rcases h with ((rfl | rfl) | rfl) | rfl <;> decide

theorem isBlank_iff {line : String} : isBlank line = true ↔ ∀ c ∈ line.toList, isBlankChar c = true := by
  simp [isBlank]

end QueryConsole
