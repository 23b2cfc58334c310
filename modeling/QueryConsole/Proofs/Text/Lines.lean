import Mathlib.Tactic
import QueryConsole.Text.Lines
import QueryConsole.Text.Utf8

/-
Lines, however they are cut out.

A sequence is empty, or it is one line without a line feed, or it begins with a line and its line feed
(`lines_induction`). Cutting all lines at once and cutting one line at a time come to the same in each of these cases
(`splitLines_eq_cutLine`). What a sequence of lines looks like when it is written is a relation of its own (`Written`):
each line has an ending, and only the last one may do without.

A text is cut as characters, and its bytes are cut as bytes. The two marks are single bytes, and no byte of any other
character is one of them; so the first line of the bytes is the bytes of the first line (`cutLine_encode`).

Results:
- `splitLines_written`: lines that were written are cut out again.
- `splitLines_refed_iff`: and so are lines that were cut out of anything, unless one ends with a carriage return.
- `splitLines_eq_cutLine`: all lines at once, and one line at a time.
- `cutLine_encode`: the first line of the bytes of a text.
-/

namespace QueryConsole

variable {α : Type} [DecidableEq α] {lf cr : α} {line rest items : List α} {lines : List (List α)}

/-! ## The end of a line -/

theorem closeLine_reverse (cr : α) (line : List α) : closeLine cr line.reverse = dropReturn cr line := by
  rcases List.eq_nil_or_concat line with rfl | ⟨front, a, rfl⟩
  · rfl
  · simp [closeLine, dropReturn]

theorem dropReturn_concat (cr : α) (line : List α) : dropReturn cr (line ++ [cr]) = line := by
  simp [dropReturn]

/-- a line is kept as it is exactly if it does not end with a carriage return -/
theorem dropReturn_eq_self_iff : dropReturn cr line = line ↔ line.getLast? ≠ some cr := by
  unfold dropReturn
  split
  · next hlast =>
    have hne : line ≠ [] := by
      rintro rfl
      cases hlast
    have hshort : line.dropLast.length < line.length := by
      rw [List.length_dropLast]
      exact Nat.sub_lt (List.length_pos_iff.2 hne) Nat.one_pos
    exact ⟨fun h => absurd (congrArg List.length h) hshort.ne, fun h => absurd hlast h⟩
  · next hlast => exact ⟨fun _ => hlast, fun _ => rfl⟩

theorem mem_of_mem_dropReturn {a : α} (h : a ∈ dropReturn cr line) : a ∈ line := by
  unfold dropReturn at h
  split at h
  · exact List.mem_of_mem_dropLast h
  · exact h

/-! ## All lines at once -/

/-- lines that are already cut off stand before the others -/
theorem splitLinesOn_closed (lf cr : α) (lines : List (List α)) (current items : List α) :
    splitLinesOn lf cr lines current items = lines.reverse ++ splitLinesOn lf cr [] current items := by
  induction items generalizing lines current with
  | nil => by_cases h : current.isEmpty <;> simp [splitLinesOn, h]
  | cons a rest ih =>
    by_cases h : a = lf
    · simp only [splitLinesOn, if_pos h]
      rw [ih (closeLine cr current :: lines), ih [closeLine cr current]]
      simp
    · simp only [splitLinesOn, if_neg h]
      exact ih lines (a :: current)

/-- what holds no line feed goes on with the line that is open -/
theorem splitLinesOn_append (h : lf ∉ line) (lines : List (List α)) (current rest : List α) :
    splitLinesOn lf cr lines current (line ++ rest) = splitLinesOn lf cr lines (line.reverse ++ current) rest := by
  induction line generalizing current with
  | nil => rfl
  | cons a line ih =>
    obtain ⟨ha, hline⟩ : lf ≠ a ∧ lf ∉ line := by simpa using h
    simp only [List.cons_append, splitLinesOn, if_neg ha.symm]
    rw [ih hline]
    simp

theorem splitLines_open (h : lf ∉ line) (hne : line ≠ []) : splitLines lf cr line = [line] := by
  have happend : splitLinesOn lf cr [] [] (line ++ []) = splitLinesOn lf cr [] (line.reverse ++ []) [] :=
    splitLinesOn_append h [] [] []
  rw [List.append_nil] at happend
  rw [splitLines, happend]
  simp [splitLinesOn, hne]

theorem splitLines_ended (h : lf ∉ line) (rest : List α) :
    splitLines lf cr (line ++ lf :: rest) = dropReturn cr line :: splitLines lf cr rest := by
  rw [splitLines, splitLinesOn_append h, List.append_nil, splitLinesOn, if_pos rfl, splitLinesOn_closed,
    closeLine_reverse]
  rfl

/-- **By the lines of a sequence**: there is none; there is one without an end; or the first one has an end. -/
theorem lines_induction (lf : α) {motive : List α → Prop} (empty : motive [])
    (last : ∀ line, lf ∉ line → line ≠ [] → motive line)
    (ended : ∀ line rest, lf ∉ line → motive rest → motive (line ++ lf :: rest)) (items : List α) : motive items := by
  by_cases hmem : lf ∈ items
  · obtain ⟨line, rest, hsplit, hline⟩ := List.eq_append_cons_of_mem hmem
    have hrest := lines_induction lf empty last ended rest
    rw [hsplit]
    exact ended line rest hline hrest
  · by_cases hne : items = []
    · rw [hne]
      exact empty
    · exact last items hmem hne
termination_by items.length
decreasing_by
  rw [hsplit, List.length_append, List.length_cons]
  omega

/-! ## Lines that are written -/

/-- what a line ends with -/
inductive LineEnd where
  | feed
  | returnFeed
deriving DecidableEq, Repr

/-- the marks of an ending -/
def LineEnd.marks (lf cr : α) : LineEnd → List α
  | feed => [lf]
  | returnFeed => [cr, lf]

/-- **Lines as they are written**: each is followed by an ending of its own, but a last line that is not empty may have
none -/
inductive Written (lf cr : α) : List (List α) → List α → Prop
  | nothing : Written lf cr [] []
  | last {line : List α} (more : line ≠ []) : Written lf cr [line] line
  | line {lines : List (List α)} {rest : List α} (line : List α) (ending : LineEnd) (h : Written lf cr lines rest) :
    Written lf cr (line :: lines) (line ++ ending.marks lf cr ++ rest)

/-- an ending is taken off again, if the line before it does not end like one -/
theorem splitLines_line (hmarks : lf ≠ cr) (h : lf ∉ line) (hlast : line.getLast? ≠ some cr) (ending : LineEnd)
    (rest : List α) :
    splitLines lf cr (line ++ ending.marks lf cr ++ rest) = line :: splitLines lf cr rest := by
  cases ending with
  | feed =>
    have hsplit : line ++ LineEnd.feed.marks lf cr ++ rest = line ++ lf :: rest := by simp [LineEnd.marks]
    rw [hsplit, splitLines_ended h, dropReturn_eq_self_iff.2 hlast]
  | returnFeed =>
    have hsplit : line ++ LineEnd.returnFeed.marks lf cr ++ rest = (line ++ [cr]) ++ lf :: rest := by
      simp [LineEnd.marks]
    have hfresh : lf ∉ line ++ [cr] := by simp [h, hmarks]
    rw [hsplit, splitLines_ended hfresh, dropReturn_concat]

/-- **Lines that were written are cut out again**, whichever endings they have. -/
theorem splitLines_written (hmarks : lf ≠ cr) (h : Written lf cr lines items)
    (hlines : ∀ line ∈ lines, lf ∉ line ∧ line.getLast? ≠ some cr) : splitLines lf cr items = lines := by
  induction h with
  | nothing => rfl
  | last more => exact splitLines_open (hlines _ List.mem_cons_self).1 more
  | line line ending h ih =>
    obtain ⟨hline, hlater⟩ := List.forall_mem_cons.1 hlines
    rw [splitLines_line hmarks hline.1 hline.2, ih hlater]

/-- lines, each with a line feed at its end -/
def refed (lf : α) (lines : List (List α)) : List α := lines.flatMap (· ++ [lf])

theorem splitLines_refed (h : ∀ line ∈ lines, lf ∉ line) :
    splitLines lf cr (refed lf lines) = lines.map (dropReturn cr) := by
  induction lines with
  | nil => rfl
  | cons line later ih =>
    obtain ⟨hline, hlater⟩ := List.forall_mem_cons.1 h
    have hcons : refed lf (line :: later) = line ++ lf :: refed lf later := by simp [refed]
    rw [hcons, splitLines_ended hline, ih hlater, List.map_cons]

/-- **Lines that were cut out are cut out again** once each has a line feed, exactly if none ends with a carriage
return. -/
theorem splitLines_refed_iff (h : ∀ line ∈ lines, lf ∉ line) :
    splitLines lf cr (refed lf lines) = lines ↔ ∀ line ∈ lines, line.getLast? ≠ some cr := by
  have hmap : lines.map (dropReturn cr) = lines ↔ ∀ line ∈ lines, dropReturn cr line = line := by
    constructor
    · intro hsame line hline
      exact List.map_inj_left.1 (hsame.trans (List.map_id lines).symm) line hline
    · intro hall
      exact (List.map_congr_left hall).trans (List.map_id' lines)
  rw [splitLines_refed h, hmap]
  simp only [dropReturn_eq_self_iff]

/-! ## One line at a time -/

theorem cutLine_open (h : lf ∉ line) : cutLine lf cr line = (line, []) := by
  have hnone : line.dropWhile (· ≠ lf) = [] := by
    rw [← List.append_nil line, List.dropWhile_append_of_pos]
    · rfl
    · intro a ha
      exact decide_eq_true fun heq => h (heq ▸ ha)
  simp only [cutLine, hnone]

theorem cutLine_ended (h : lf ∉ line) (rest : List α) :
    cutLine lf cr (line ++ lf :: rest) = (dropReturn cr line, rest) := by
  have hall : ∀ a ∈ line, decide (a ≠ lf) = true := by
    intro a ha
    exact decide_eq_true fun heq => h (heq ▸ ha)
  have hdrop : (line ++ lf :: rest).dropWhile (· ≠ lf) = lf :: rest := by
    rw [List.dropWhile_append_of_pos hall]
    simp
  have htake : (line ++ lf :: rest).takeWhile (· ≠ lf) = line := by
    rw [List.takeWhile_append_of_pos hall]
    simp
  simp only [cutLine, hdrop, htake]

/-- what is cut off, and what comes after it, was there before -/
theorem mem_of_mem_cutLine {a : α} (h : a ∈ (cutLine lf cr items).1 ∨ a ∈ (cutLine lf cr items).2) : a ∈ items := by
  induction items using lines_induction lf with
  | empty => simp [cutLine] at h
  | last line hline => simpa [cutLine_open hline] using h
  | ended line rest hline =>
    rw [cutLine_ended hline] at h
    rcases h with h | h
    · exact List.mem_append_left _ (mem_of_mem_dropReturn h)
    · exact List.mem_append_right _ (List.mem_cons_of_mem _ h)

/-- **All lines at once are the first one and the lines of what comes after it.** -/
theorem splitLines_eq_cutLine (lf cr : α) (h : items ≠ []) :
    splitLines lf cr items = (cutLine lf cr items).1 :: splitLines lf cr (cutLine lf cr items).2 := by
  induction items using lines_induction lf with
  | empty => exact absurd rfl h
  | last line hline hne => rw [splitLines_open hline hne, cutLine_open hline, splitLines_nil]
  | ended line rest hline => rw [splitLines_ended hline, cutLine_ended hline]

/-! ## Lines of bytes -/

namespace Utf8

variable {mark c : Char} {chars : List Char}

/-- the byte of a character that has only one -/
def byteOf (mark : Char) : UInt8 := .ofNat mark.toNat

/-- no other character has this byte among its bytes -/
theorem mem_utf8EncodeChar_iff (h : mark.toNat < 128) : byteOf mark ∈ String.utf8EncodeChar c ↔ c = mark := by
  have hmark : (byteOf mark).toNat = mark.toNat := by
    rw [byteOf, UInt8.toNat_ofNat']
    omega
  have hval : ∀ d : Char, d.val.toNat = d.toNat := fun d => rfl
  constructor
  · intro hmem
    have hcode : c.toNat = mark.toNat := by
      simp only [String.utf8EncodeChar, hval] at hmem
      split_ifs at hmem <;>
        simp only [List.mem_cons, List.not_mem_nil, or_false, ← UInt8.toNat_inj, UInt8.toNat_ofNat', hmark] at hmem <;>
        omega
    exact Char.toNat_inj.1 hcode
  · rintro rfl
    simp only [String.utf8EncodeChar, hval]
    rw [if_pos (by omega)]
    exact List.mem_singleton.2 rfl

theorem utf8EncodeChar_mark (h : mark.toNat < 128) : String.utf8EncodeChar mark = [byteOf mark] := by
  rw [String.utf8EncodeChar]
  exact if_pos (Nat.le_of_lt_succ h)

theorem byteOf_mem_encode_iff (h : mark.toNat < 128) : byteOf mark ∈ encode (.ofList chars) ↔ mark ∈ chars := by
  simp only [encode_ofList, List.mem_flatMap, mem_utf8EncodeChar_iff h, exists_eq_right]

/-- the bytes of a text end with this byte exactly if the text ends with its character -/
theorem getLast?_encode_iff (h : mark.toNat < 128) :
    (encode (.ofList chars)).getLast? = some (byteOf mark) ↔ chars.getLast? = some mark := by
  rcases List.eq_nil_or_concat chars with rfl | ⟨front, c, rfl⟩
  · simp only [encode_ofList, List.flatMap_nil, List.getLast?_nil, reduceCtorEq]
  · rw [List.concat_eq_append, encode_ofList, List.flatMap_append, List.flatMap_singleton, List.getLast?_append,
      List.getLast?_concat, Option.some.injEq]
    constructor
    · intro hlast
      have hne : String.utf8EncodeChar c ≠ [] := by
        rw [← List.length_pos_iff, String.length_utf8EncodeChar]
        exact c.utf8Size_pos
      rw [List.getLast?_eq_getLast_of_ne_nil hne, Option.some_or, Option.some.injEq] at hlast
      have hmem : byteOf mark ∈ String.utf8EncodeChar c := hlast ▸ List.getLast_mem hne
      exact (mem_utf8EncodeChar_iff h).1 hmem
    · rintro rfl
      rw [utf8EncodeChar_mark h]
      rfl

theorem dropReturn_encode (chars : List Char) :
    dropReturn 0x0D (encode (.ofList chars)) = encode (.ofList (dropReturn '\r' chars)) := by
  have hreturn : byteOf '\r' = 0x0D := rfl
  by_cases hlast : chars.getLast? = some '\r'
  · have hsplit : chars = chars.dropLast ++ ['\r'] := (List.dropLast_append_getLast? _ hlast).symm
    have hbytes : encode (.ofList (chars.dropLast ++ ['\r'])) = encode (.ofList chars.dropLast) ++ [0x0D] := by
      rw [encode_ofList, encode_ofList, List.flatMap_append, List.flatMap_singleton, utf8EncodeChar_mark (by decide),
        hreturn]
    rw [hsplit, hbytes, dropReturn_concat, dropReturn_concat]
  · have hbytes : (encode (.ofList chars)).getLast? ≠ some 0x0D := by
      rw [← hreturn, Ne, getLast?_encode_iff (by decide)]
      exact hlast
    rw [dropReturn_eq_self_iff.2 hbytes, dropReturn_eq_self_iff.2 hlast]

/-- **The first line of the bytes of a text is the bytes of its first line.** -/
theorem cutLine_encode (chars : List Char) :
    cutLine 0x0A 0x0D (encode (.ofList chars)) =
      (encode (.ofList (cutLine '\n' '\r' chars).1), encode (.ofList (cutLine '\n' '\r' chars).2)) := by
  have hfeed : byteOf '\n' = 0x0A := rfl
  have hfresh : ∀ {line : List Char}, '\n' ∉ line → 0x0A ∉ encode (.ofList line) := by
    intro line hline
    rw [← hfeed, byteOf_mem_encode_iff (by decide)]
    exact hline
  by_cases hmem : '\n' ∈ chars
  · obtain ⟨line, rest, rfl, hline⟩ := List.eq_append_cons_of_mem hmem
    have hbytes : encode (.ofList (line ++ '\n' :: rest)) = encode (.ofList line) ++ 0x0A :: encode (.ofList rest) := by
      rw [encode_ofList, encode_ofList, encode_ofList, List.flatMap_append, List.flatMap_cons,
        utf8EncodeChar_mark (by decide), hfeed]
      rfl
    rw [hbytes, cutLine_ended (hfresh hline), cutLine_ended hline, dropReturn_encode]
  · rw [cutLine_open (hfresh hmem), cutLine_open hmem]
    rfl

end Utf8

end QueryConsole
