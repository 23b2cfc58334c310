/-
Tables as they travel in responses: every cell is followed by a tab, every row by a newline, and a last line tells how
many rows come after the first, which holds the headings.

Results:
- `render_nil`: a table without rows is its last line.
- `toList_render`: the characters of a table, row by row.
- `failure_eq`: what a failure looks like.
-/

namespace QueryConsole

namespace Table

/-- one cell and the tab after it -/
def cell (text : String) : List Char := text.toList ++ ['\t']

/-- one row and the newline after it -/
def row (cells : List String) : List Char := cells.flatMap cell ++ ['\n']

/-- the last line of a table of so many rows -/
def trailer (rows : Nat) : String := "DONE TOTAL " ++ toString (rows - 1) ++ " LINES\n"

/-- the text of a table -/
def render (rows : List (List String)) : String := String.ofList (rows.flatMap row ++ (trailer rows.length).toList)

/-- a failure, as a table of one row with one cell -/
def failure (what : String) : String := render [[what]]

@[simp] theorem render_nil : render [] = trailer 0 := by
  simp [render]

theorem toList_render (rows : List (List String)) :
    (render rows).toList = rows.flatMap row ++ (trailer rows.length).toList := by
  simp [render]

theorem failure_eq (what : String) : failure what = what ++ "\t\nDONE TOTAL 0 LINES\n" := by
  have htrailer : trailer 1 = "DONE TOTAL 0 LINES\n" := rfl
  rw [← String.toList_inj, failure, toList_render, List.length_singleton, htrailer]
  simp [row, cell]

end Table

/-- the table that describes a request: its text and its length in bytes -/
def describe (request : String) : String :=
  Table.render [["request", "bytes"], [request, toString request.utf8ByteSize]]

end QueryConsole
