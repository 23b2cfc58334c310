/-
Lines: a sequence cut at its line feeds.

Each line loses its line feed, and a carriage return directly before that. What comes after the last line feed is a line
too, unless it is empty; a carriage return at its end stays. The cut is the same for characters and for bytes, so it
takes the two marks as arguments.

Results:
- `splitLines_nil`: there is no line in nothing.
- `length_cutLine_lt`: taking a line off leaves less.
- `not_mem_of_mem_splitLines`: no line holds a line feed.
-/

namespace QueryConsole

variable {α : Type} [DecidableEq α]

/-! ## All lines at once -/

/-- a line, from its items in reverse order, without a carriage return at its end -/
def closeLine (cr : α) : List α → List α
  | [] => []
  | a :: before => if a = cr then before.reverse else (a :: before).reverse

/-- cut the rest, with the lines and the open line before it, both in reverse order -/
def splitLinesOn (lf cr : α) (lines : List (List α)) (current : List α) : List α → List (List α)
  | [] => (if current.isEmpty then lines else current.reverse :: lines).reverse
  | a :: rest =>
    if a = lf then splitLinesOn lf cr (closeLine cr current :: lines) [] rest
    else splitLinesOn lf cr lines (a :: current) rest

/-- the lines of a sequence -/
def splitLines (lf cr : α) (items : List α) : List (List α) := splitLinesOn lf cr [] [] items

@[simp] theorem splitLines_nil (lf cr : α) : splitLines lf cr [] = [] := rfl

theorem mem_of_mem_closeLine {cr a : α} {line : List α} (h : a ∈ closeLine cr line) : a ∈ line := by
  cases line with
  | nil => simp [closeLine] at h
  | cons b before =>
    simp only [closeLine] at h
    split at h
    · exact List.mem_cons_of_mem b (List.mem_reverse.1 h)
    · exact List.mem_reverse.1 h

theorem not_mem_of_mem_splitLinesOn {lf cr : α} {lines : List (List α)} {current : List α} (items : List α)
    (closed : ∀ line ∈ lines, lf ∉ line) (fresh : lf ∉ current) {line : List α}
    (h : line ∈ splitLinesOn lf cr lines current items) : lf ∉ line := by
  induction items generalizing lines current with
  | nil =>
    simp only [splitLinesOn, List.mem_reverse] at h
    split at h
    · exact closed line h
    · rcases List.mem_cons.1 h with rfl | h
      · simpa using fresh
      · exact closed line h
  | cons a rest ih =>
    simp only [splitLinesOn] at h
    split at h
    · refine ih (fun line h => ?_) List.not_mem_nil h
      rcases List.mem_cons.1 h with rfl | h
      · exact fun inside => fresh (mem_of_mem_closeLine inside)
      · exact closed line h
    · next other =>
      exact ih closed (by simp [fresh, Ne.symm other]) h

theorem not_mem_of_mem_splitLines {lf cr : α} {items line : List α} (h : line ∈ splitLines lf cr items) :
    lf ∉ line :=
  not_mem_of_mem_splitLinesOn items (by simp) (by simp) h

/-! ## One line at a time -/

/-- a line without a carriage return at its end -/
def dropReturn (cr : α) (line : List α) : List α := if line.getLast? = some cr then line.dropLast else line

/-- the first line of a sequence that is not over, and what comes after it -/
def cutLine (lf cr : α) (items : List α) : List α × List α :=
  match items.dropWhile (· ≠ lf) with
  | [] => (items, [])
  | _ :: rest => (dropReturn cr (items.takeWhile (· ≠ lf)), rest)

theorem length_cutLine_lt (lf cr : α) {items : List α} (h : items ≠ []) :
    (cutLine lf cr items).2.length < items.length := by
  have pos := List.length_pos_iff.2 h
  have total := congrArg List.length (List.takeWhile_append_dropWhile (p := fun a => decide (a ≠ lf)) (l := items))
  unfold cutLine
  split
  · exact pos
  · next rest heq =>
    simp only [heq, List.length_append, List.length_cons] at total
    simp only
    omega

end QueryConsole
