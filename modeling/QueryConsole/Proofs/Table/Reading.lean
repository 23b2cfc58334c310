import Mathlib.Tactic
import QueryConsole.Table

/-
Tables can be read back.

In the text of a table a tab ends a cell and a newline ends a row, and so does one for the last line. These marks end
pieces and do not stand between them: a row of no cells, a row of one empty cell and no row at all are three different
texts. `cut` takes a text apart at such a mark, and refuses one whose last piece has no end. `read` cuts a text into
lines and all lines but the last into cells, and looks into the last line for the number of rows.

A table with tabs or newlines in its cells cannot be read back by `read`. But its last line is still its own, whatever
stands in the cells, since it follows a newline and has none in it.

Results:
- `cut_eq_some_iff`: what a text is cut into.
- `read_eq_some_iff`: the texts that are read are those of the tables with plain cells, and each is read as its table.
- `lastLine_render`, `count_render`: the last line of any table, and the number in it.
- `tables_read_back`: all of it.
-/

namespace QueryConsole

namespace Table

variable {mark : Char} {text piece rest : List Char} {pieces later : List (List Char)} {cells : List String}
  {rows rows' : List (List String)} {lines : List (List Char)}

/-! ## Pieces that end with a mark -/

/-- pieces, each with the mark at its end -/
def ended (mark : Char) (pieces : List (List Char)) : List Char := pieces.flatMap (· ++ [mark])

/-- the pieces of a text in which the mark ends each of them -/
def cut (mark : Char) : List Char → Option (List (List Char))
  | [] => some []
  | c :: rest =>
    match cut mark rest with
    | none => none
    | some pieces =>
      if c = mark then some ([] :: pieces)
      else
        match pieces with
        | [] => none
        | piece :: later => some ((c :: piece) :: later)

@[simp] theorem ended_nil (mark : Char) : ended mark [] = [] := rfl

theorem ended_cons (mark : Char) (piece : List Char) (later : List (List Char)) :
    ended mark (piece :: later) = piece ++ mark :: ended mark later := by
  simp [ended]

theorem ended_concat (mark : Char) (pieces : List (List Char)) (last : List Char) :
    ended mark (pieces ++ [last]) = ended mark pieces ++ last ++ [mark] := by
  simp [ended]

/-- what stands before the end of a last piece is nothing, or ends with the mark -/
theorem ended_cases (mark : Char) (pieces : List (List Char)) :
    ended mark pieces = [] ∨ ∃ front, ended mark pieces = front ++ [mark] := by
  rcases List.eq_nil_or_concat pieces with rfl | ⟨front, last, rfl⟩
  · exact .inl rfl
  · exact .inr ⟨ended mark front ++ last, by rw [List.concat_eq_append, ended_concat]⟩

theorem cut_append (h : mark ∉ piece) (hrest : cut mark rest = some later) :
    cut mark (piece ++ mark :: rest) = some (piece :: later) := by
  induction piece with
  | nil => simp [cut, hrest]
  | cons c piece ih =>
    obtain ⟨hc, hpiece⟩ : mark ≠ c ∧ mark ∉ piece := by simpa using h
    rw [List.cons_append, cut, ih hpiece]
    simp [hc.symm]

theorem cut_ended (h : ∀ piece ∈ pieces, mark ∉ piece) : cut mark (ended mark pieces) = some pieces := by
  induction pieces with
  | nil => rfl
  | cons piece later ih =>
    obtain ⟨hpiece, hlater⟩ := List.forall_mem_cons.1 h
    rw [ended_cons]
    exact cut_append hpiece (ih hlater)

theorem ended_of_cut (h : cut mark text = some pieces) :
    text = ended mark pieces ∧ ∀ piece ∈ pieces, mark ∉ piece := by
  induction text generalizing pieces with
  | nil =>
    obtain rfl : [] = pieces := by simpa [cut] using h
    simp
  | cons c rest ih =>
    cases hrest : cut mark rest with
    | none => simp [cut, hrest] at h
    | some found =>
      obtain ⟨rfl, hfound⟩ := ih hrest
      by_cases hc : c = mark
      · obtain rfl : [] :: found = pieces := by simpa [cut, hrest, hc] using h
        exact ⟨by rw [ended_cons, hc, List.nil_append], List.forall_mem_cons.2 ⟨List.not_mem_nil, hfound⟩⟩
      · cases found with
        | nil => simp [cut, hc] at h
        | cons piece later =>
          obtain rfl : (c :: piece) :: later = pieces := by simpa [cut, hrest, hc] using h
          obtain ⟨hpiece, hlater⟩ := List.forall_mem_cons.1 hfound
          refine ⟨by simp only [ended_cons, List.cons_append], List.forall_mem_cons.2 ⟨?_, hlater⟩⟩
          simpa [hpiece] using Ne.symm hc

/-- **A text is cut into pieces exactly if it consists of them**, each without the mark and then the mark. -/
theorem cut_eq_some_iff : cut mark text = some pieces ↔ text = ended mark pieces ∧ ∀ piece ∈ pieces, mark ∉ piece := by
  refine ⟨ended_of_cut, ?_⟩
  rintro ⟨rfl, h⟩
  exact cut_ended h

/-! ## Rows and cells -/

/-- no mark stands in any cell -/
def Plain (rows : List (List String)) : Prop :=
  ∀ cells ∈ rows, ∀ cell ∈ cells, '\t' ∉ cell.toList ∧ '\n' ∉ cell.toList

/-- the last line of a table of so many rows, without its newline -/
def closing (rows : Nat) : String := "DONE TOTAL " ++ toString (rows - 1) ++ " LINES"

/-- a row without its newline -/
def inner (cells : List String) : List Char := ended '\t' (cells.map String.toList)

/-- the cells of a row without its newline -/
def readRow (line : List Char) : Option (List String) := (cut '\t' line).map (·.map String.ofList)

/-- the rows in some lines -/
def readRows : List (List Char) → Option (List (List String))
  | [] => some []
  | line :: later =>
    match readRow line, readRows later with
    | some cells, some rows => some (cells :: rows)
    | _, _ => none

/-- the rows of a table -/
def read (text : String) : Option (List (List String)) :=
  match cut '\n' text.toList with
  | none => none
  | some lines =>
    match readRows lines.dropLast with
    | none => none
    | some rows => if lines.getLast? = some (closing rows.length).toList then some rows else none

/-- a table is lines: its rows, and the last one -/
theorem render_eq_ended (rows : List (List String)) :
    (render rows).toList = ended '\n' (rows.map inner ++ [(closing rows.length).toList]) := by
  have hrow : ∀ cells, row cells = inner cells ++ ['\n'] := by
    intro cells
    simp only [row, inner, ended, List.flatMap_map]
    rfl
  have hlast : (trailer rows.length).toList = (closing rows.length).toList ++ ['\n'] := by
    simp [trailer, closing]
  have hrows : rows.flatMap row = ended '\n' (rows.map inner) := by
    rw [funext hrow, ended, List.flatMap_map]
  rw [toList_render, hlast, hrows, ended_concat, List.append_assoc]

theorem readRow_eq_some_iff {line : List Char} :
    readRow line = some cells ↔ line = inner cells ∧ ∀ cell ∈ cells, '\t' ∉ cell.toList := by
  simp only [readRow, Option.map_eq_some_iff, cut_eq_some_iff]
  constructor
  · rintro ⟨pieces, ⟨rfl, h⟩, rfl⟩
    simpa [inner, Function.comp_def] using h
  · rintro ⟨rfl, h⟩
    exact ⟨cells.map String.toList, ⟨rfl, by simpa using h⟩, by simp⟩

theorem readRows_eq_some_iff :
    readRows lines = some rows ↔ lines = rows.map inner ∧ ∀ cells ∈ rows, ∀ cell ∈ cells, '\t' ∉ cell.toList := by
  induction lines generalizing rows with
  | nil => cases rows <;> simp [readRows]
  | cons line later ih =>
    cases rows with
    | nil =>
      simp only [readRows]
      split <;> simp
    | cons cells rows =>
      have hstep : readRows (line :: later) = some (cells :: rows) ↔
          readRow line = some cells ∧ readRows later = some rows := by
        simp only [readRows]
        split
        · next hrow hrows => simp [hrow, hrows]
        · next hnone =>
          simp only [reduceCtorEq, false_iff, not_and]
          exact fun hrow hrows => hnone _ _ hrow hrows
      rw [hstep, readRow_eq_some_iff, ih, List.map_cons, List.cons.injEq, List.forall_mem_cons]
      tauto

theorem not_mem_inner_iff : '\n' ∉ inner cells ↔ ∀ cell ∈ cells, '\n' ∉ cell.toList := by
  simp [inner, ended]

/-- the last line has no newline in it -/
theorem not_mem_closing (n : Nat) : '\n' ∉ (closing n).toList := by
  have hdigits : '\n' ∉ Nat.toDigits 10 (n - 1) := by
    intro hmem
    have hdigit : '\n'.isDigit = true := Nat.isDigit_of_mem_toDigits (by decide) (by decide) hmem
    exact absurd hdigit (by decide)
  simpa [closing, Nat.toString_eq_ofList_toDigits] using hdigits

/-- **A text is read as a table exactly if it is the text of this table, and its cells are plain.** -/
theorem read_eq_some_iff {text : String} : read text = some rows ↔ Plain rows ∧ text = render rows := by
  constructor
  · intro h
    unfold read at h
    split at h
    · cases h
    · next lines hlines =>
      split at h
      · cases h
      · next found hfound =>
        split at h
        · next hlast =>
          obtain rfl : found = rows := by simpa using h
          obtain ⟨htext, hnewline⟩ := ended_of_cut hlines
          obtain ⟨hrows, htab⟩ := readRows_eq_some_iff.1 hfound
          have hsplit : lines = found.map inner ++ [(closing found.length).toList] := by
            rw [← hrows]
            exact (List.dropLast_append_getLast? _ hlast).symm
          refine ⟨fun cells hcells cell hcell => ⟨htab cells hcells cell hcell, ?_⟩, ?_⟩
          · have hline : inner cells ∈ lines := by
              rw [hsplit]
              exact List.mem_append_left _ (List.mem_map_of_mem hcells)
            exact not_mem_inner_iff.1 (hnewline _ hline) cell hcell
          · exact String.toList_injective (by rw [render_eq_ended, htext, hsplit])
        · cases h
  · rintro ⟨hplain, rfl⟩
    have hlines : cut '\n' (render rows).toList = some (rows.map inner ++ [(closing rows.length).toList]) := by
      rw [render_eq_ended]
      refine cut_ended fun line hline => ?_
      rcases List.mem_append.1 hline with hline | hline
      · obtain ⟨cells, hcells, rfl⟩ := List.mem_map.1 hline
        exact not_mem_inner_iff.2 fun cell hcell => (hplain cells hcells cell hcell).2
      · rw [List.mem_singleton.1 hline]
        exact not_mem_closing rows.length
    have hrows : readRows (rows.map inner) = some rows :=
      readRows_eq_some_iff.2 ⟨rfl, fun cells hcells cell hcell => (hplain cells hcells cell hcell).1⟩
    simp [read, hlines, hrows]

/-! ## The last line -/

/-- the last line of a text that ends with a newline: what stands between this one and the one before it, or all -/
def lastLine (text : List Char) : Option (List Char) :=
  match text.reverse with
  | '\n' :: before => some (before.takeWhile (· ≠ '\n')).reverse
  | _ => none

/-- the number that stands in the last line of a text -/
def count (text : String) : Option Nat :=
  (lastLine text.toList).map fun line => Nat.ofDigitChars 10 (line.filter Char.isDigit) 0

theorem lastLine_concat (front : List (List Char)) {last : List Char} (h : '\n' ∉ last) :
    lastLine (ended '\n' (front ++ [last])) = some last := by
  have hall : ∀ c ∈ last.reverse, decide (c ≠ '\n') = true := by
    intro c hc
    have hmem := List.mem_reverse.1 hc
    exact decide_eq_true fun heq => h (heq ▸ hmem)
  have hstop : ((ended '\n' front).reverse).takeWhile (fun c => decide (c ≠ '\n')) = [] := by
    rcases ended_cases '\n' front with hnil | ⟨before, hbefore⟩
    · simp [hnil]
    · simp [hbefore]
  rw [ended_concat, lastLine]
  simp only [List.reverse_append, List.reverse_cons, List.reverse_nil, List.nil_append, List.singleton_append]
  rw [List.takeWhile_append_of_pos hall, hstop, List.append_nil, List.reverse_reverse]

theorem lastLine_render (rows : List (List String)) :
    lastLine (render rows).toList = some (closing rows.length).toList := by
  rw [render_eq_ended]
  exact lastLine_concat _ (not_mem_closing rows.length)

/-- the digits of the last line are those of the number of rows under the headings -/
theorem count_render (rows : List (List String)) : count (render rows) = some (rows.length - 1) := by
  have hdigits : ((closing rows.length).toList).filter Char.isDigit = Nat.toDigits 10 (rows.length - 1) := by
    have hall : (Nat.toDigits 10 (rows.length - 1)).filter Char.isDigit = Nat.toDigits 10 (rows.length - 1) :=
      List.filter_eq_self.2 fun c hc => Nat.isDigit_of_mem_toDigits (by decide) (by decide) hc
    have hfront : ("DONE TOTAL ".toList).filter Char.isDigit = [] := by decide
    have hback : (" LINES".toList).filter Char.isDigit = [] := by decide
    simp only [closing, String.toList_append, List.filter_append, hfront, hback, Nat.toString_eq_ofList_toDigits,
      String.toList_ofList, hall, List.nil_append, List.append_nil]
  rw [count, lastLine_render, Option.map_some, hdigits, Nat.ofDigitChars_ten_toDigits]

/-- **Tables can be read back.** A text is read as some rows exactly if it is the text of these rows and no tab or
newline stands in a cell. So different rows of such cells have different texts, however many rows and cells there are,
empty ones included. The text of any table, whatever stands in its cells, ends with a newline, and its last line tells
the number of rows after the first. -/
theorem tables_read_back :
    (∀ (text : String) (rows : List (List String)), read text = some rows ↔ Plain rows ∧ text = render rows) ∧
    (∀ rows rows' : List (List String), Plain rows → Plain rows' → render rows = render rows' → rows = rows') ∧
    ∀ rows : List (List String), (render rows).toList.getLast? = some '\n' ∧
      lastLine (render rows).toList = some ("DONE TOTAL " ++ toString (rows.length - 1) ++ " LINES").toList ∧
      count (render rows) = some (rows.length - 1) := by
  refine ⟨fun text rows => read_eq_some_iff, fun rows rows' hplain hplain' hsame => ?_, fun rows => ?_⟩
  · have hread : read (render rows) = some rows := read_eq_some_iff.2 ⟨hplain, rfl⟩
    have hread' : read (render rows) = some rows' := read_eq_some_iff.2 ⟨hplain', hsame⟩
    exact Option.some.inj (hread.symm.trans hread')
  · refine ⟨?_, lastLine_render rows, count_render rows⟩
    rw [render_eq_ended, ended_concat]
    exact List.getLast?_concat

/-- rows of no cells, of an empty cell and of a cell that looks like a last line -/
theorem tables_read_back_ragged :
    Plain [[], [""], ["DONE TOTAL 7 LINES", ""]] ∧
      read (render [[], [""], ["DONE TOTAL 7 LINES", ""]]) = some [[], [""], ["DONE TOTAL 7 LINES", ""]] ∧
      render [[], [""], ["DONE TOTAL 7 LINES", ""]] ≠ render [[], [], ["DONE TOTAL 7 LINES", ""]] ∧
      count (render [[], [""], ["DONE TOTAL 7 LINES\n", ""]]) = some 2 := by
  have hplain : Plain [[], [""], ["DONE TOTAL 7 LINES", ""]] := by
    unfold Plain
    decide
  have hplain' : Plain [[], [], ["DONE TOTAL 7 LINES", ""]] := by
    unfold Plain
    decide
  obtain ⟨hread, hinjective, hlast⟩ := tables_read_back
  refine ⟨hplain, (hread _ _).2 ⟨hplain, rfl⟩, fun hsame => ?_, (hlast _).2.2⟩
  exact absurd (hinjective _ _ hplain hplain' hsame) (by decide)

end Table

end QueryConsole
