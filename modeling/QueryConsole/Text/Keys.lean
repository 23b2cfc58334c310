import QueryConsole.Text.Cluster

/-
Text as keys: each cluster is one key, and a backspace takes back the cluster before it, if there is one.

What was typed so far (`Typed`) is a text, and for each cluster of it the number of bytes that a backspace removes. That
number is kept in one byte. A cluster of 256 bytes or more therefore leaves the remainder of its length, and a backspace
on it removes only that much of its end. Where that would cut a character in two there is no text to go on with: typing
breaks off.

Results:
- `press_backspace_none`: at the beginning a backspace does nothing.
- `press_backspace_key`: it takes back a whole cluster of fewer than 256 bytes.
- `erase_of_notMem`: a text without backspaces stays as it is.
-/

namespace QueryConsole

/-- the key that takes a cluster back -/
def backspace : Char := '\x08'

/-- bytes that characters take up in a text -/
def byteCount (chars : List Char) : Nat := chars.foldr (fun c n => c.utf8Size + n) 0

/-- take characters of so many bytes off the front; none if there are not so many, or if the last would be cut in two -/
def dropBytes : Nat → List Char → Option (List Char)
  | 0, chars => some chars
  | _ + 1, [] => none
  | n + 1, c :: rest => if c.utf8Size ≤ n + 1 then dropBytes (n + 1 - c.utf8Size) rest else none

/-- what was typed so far -/
structure Typed where
  /-- the text, its last character first -/
  text : List Char := []
  /-- what a backspace removes of each cluster that it can still take back, in bytes, newest first -/
  sizes : List UInt8 := []
deriving DecidableEq, Repr

namespace Typed

/-- what the user is told where typing breaks off -/
def brokenOff : String := "assertion failed: self.is_char_boundary(new_len)"

/-- type one cluster; none if a backspace would cut a character in two -/
def press (typed : Typed) (key : List Char) : Option Typed :=
  if key = [backspace] then
    match typed.sizes with
    | [] => some typed
    | size :: sizes => (dropBytes size.toNat typed.text).map fun text => ⟨text, sizes⟩
  else some ⟨key.reverse ++ typed.text, UInt8.ofNat (byteCount key) :: typed.sizes⟩

end Typed

/-- a line with its backspaces carried out; none if that breaks off -/
def eraseBackspaces (line : String) : Option String :=
  if backspace ∈ line.toList then
    ((Cluster.clusters line.toList).foldlM Typed.press {}).map fun typed => String.ofList typed.text.reverse
  else some line

theorem byteCount_append (a b : List Char) : byteCount (a ++ b) = byteCount a + byteCount b := by
  induction a with
  | nil => simp [byteCount]
  | cons c rest ih =>
    simp only [byteCount, List.cons_append, List.foldr_cons] at ih ⊢
    omega

theorem byteCount_reverse (chars : List Char) : byteCount chars.reverse = byteCount chars := by
  induction chars with
  | nil => rfl
  | cons c rest ih =>
    rw [List.reverse_cons, byteCount_append, ih]
    simp only [byteCount, List.foldr_cons, List.foldr_nil]
    omega

theorem dropBytes_byteCount (front rest : List Char) : dropBytes (byteCount front) (front ++ rest) = some rest := by
  induction front with
  | nil => simp [byteCount, dropBytes]
  | cons c front ih =>
    have positive := c.utf8Size_pos
    obtain ⟨n, eq⟩ : ∃ n, byteCount (c :: front) = n + 1 := ⟨byteCount (c :: front) - 1, by
      simp only [byteCount, List.foldr_cons]
      omega⟩
    have split : n + 1 = c.utf8Size + byteCount front := eq ▸ rfl
    have fits : c.utf8Size ≤ n + 1 := by omega
    have left : n + 1 - c.utf8Size = byteCount front := by omega
    rw [eq, List.cons_append, dropBytes, if_pos fits, left, ih]

namespace Typed

theorem press_backspace_none (text : List Char) : press ⟨text, []⟩ [backspace] = some ⟨text, []⟩ := by
  simp [press]

theorem press_backspace_key {key : List Char} (typed : Typed) (other : key ≠ [backspace]) (small : byteCount key < 256) :
    (typed.press key).bind (·.press [backspace]) = some typed := by
  have size : (UInt8.ofNat (byteCount key)).toNat = byteCount key.reverse := by
    rw [byteCount_reverse, UInt8.toNat_ofNat', Nat.mod_eq_of_lt small]
  simp [press, other, size, dropBytes_byteCount]

end Typed

theorem erase_of_notMem {line : String} (h : backspace ∉ line.toList) : eraseBackspaces line = some line := by
  simp [eraseBackspaces, h]

end QueryConsole
