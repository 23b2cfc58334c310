import Mathlib
import QueryConsole.Table
import QueryConsole.Text.Utf8

/-
The description of a request tells the request.

A description is a table, and the request is one of its cells. A table is no safe place for any text: a request with
tabs and newlines in it may look like more cells, more rows, or a whole table with a number of its own. But all that
stands around the request is known. It follows the headings (`heading`), and before the last line (`closing`) stands the
number of its bytes, which has no tab in it. So the last tab of what is left is the end of the request, whatever tabs it
has itself. `read` cuts a description at these three places.

Results:
- `cutLast_eq_some_iff`: where a text is cut.
- `describe_eq`: the parts of a description.
- `read_eq_some_iff`: what is read from a text.
- `described_request`: the request and its number of bytes are read from a description, and no other request has it.
-/

namespace QueryConsole

namespace Description

variable {mark : Char} {text front back : List Char}

/-! ## The last mark of a text -/

/-- what stands before the last mark of a text, and what stands after it -/
def cutLast (mark : Char) : List Char → Option (List Char × List Char)
  | [] => none
  | c :: rest =>
    match cutLast mark rest with
    | some (front, back) => some (c :: front, back)
    | none => if c = mark then some ([], rest) else none

theorem cutLast_of_notMem (h : mark ∉ text) : cutLast mark text = none := by
  induction text with
  | nil => rfl
  | cons c rest ih =>
    obtain ⟨hc, hrest⟩ : mark ≠ c ∧ mark ∉ rest := by simpa using h
    rw [cutLast, ih hrest]
    exact if_neg hc.symm

theorem cutLast_append (front : List Char) (h : mark ∉ back) :
    cutLast mark (front ++ mark :: back) = some (front, back) := by
  induction front with
  | nil =>
    rw [List.nil_append, cutLast, cutLast_of_notMem h]
    exact if_pos rfl
  | cons c front ih => rw [List.cons_append, cutLast, ih]

/-- **A text is cut at a mark that no other one follows.** -/
theorem cutLast_eq_some_iff :
    cutLast mark text = some (front, back) ↔ text = front ++ mark :: back ∧ mark ∉ back := by
  constructor
  · intro h
    -- a text with a mark in it has a last one, and there is only one place to cut it
    have hmem : mark ∈ text.reverse := by
      by_contra hnone
      rw [cutLast_of_notMem (by simpa using hnone)] at h
      cases h
    obtain ⟨after, before, hsplit, hlast⟩ := List.eq_append_cons_of_mem hmem
    have htext : text = before.reverse ++ mark :: after.reverse := by
      rw [← List.reverse_reverse text, hsplit]
      simp
    have hback : mark ∉ after.reverse := by simpa using hlast
    rw [htext, cutLast_append _ hback] at h
    cases h
    exact ⟨htext, hback⟩
  · rintro ⟨rfl, h⟩
    exact cutLast_append front h

/-! ## The parts of a description -/

/-- what every description begins with -/
def heading : String := "request\tbytes\t\n"

/-- what follows the number of bytes -/
def closing : String := "\t\nDONE TOTAL 1 LINES\n"

/-- the request in a description, and the number after it: cut out between what every description begins and ends with,
at the last tab -/
def read (description : String) : Option (String × String) := do
  let rest ← description.toList.dropPrefix? heading.toList
  let middle ← rest.dropSuffix? closing.toList
  let (request, number) ← cutLast '\t' middle
  return (String.ofList request, String.ofList number)

/-- **What is read from a text** is what stands in it between the fixed parts, on both sides of the last tab. -/
theorem read_eq_some_iff {description request number : String} :
    read description = some (request, number) ↔
      description = heading ++ request ++ "\t" ++ number ++ closing ∧ '\t' ∉ number.toList := by
  have hmiddle : description = heading ++ request ++ "\t" ++ number ++ closing ↔
      description.toList = heading.toList ++ (request.toList ++ '\t' :: number.toList ++ closing.toList) := by
    rw [← String.toList_inj]
    simp
  rw [hmiddle]
  constructor
  · intro h
    simp only [read, Option.bind_eq_bind, Option.bind_eq_some_iff, Option.pure_def, Option.some.injEq, Prod.mk.injEq,
      List.dropPrefix?_eq_some_iff, List.dropSuffix?_eq_some_iff, beq_iff_eq, Prod.exists, cutLast_eq_some_iff] at h
    obtain ⟨rest, ⟨_, htext, rfl⟩, middle, ⟨_, rfl, rfl⟩, front, back, ⟨rfl, hback⟩, rfl, rfl⟩ := h
    exact ⟨by simpa using htext, by simpa using hback⟩
  · rintro ⟨htext, hnumber⟩
    have hrest : description.toList.dropPrefix? heading.toList =
        some (request.toList ++ '\t' :: number.toList ++ closing.toList) :=
      List.dropPrefix?_eq_some_iff.2 ⟨_, htext, by simp⟩
    have hcut : (request.toList ++ '\t' :: number.toList ++ closing.toList).dropSuffix? closing.toList =
        some (request.toList ++ '\t' :: number.toList) :=
      List.dropSuffix?_eq_some_iff.2 ⟨_, rfl, by simp⟩
    simp only [read, Option.bind_eq_bind, hrest, Option.bind_some, hcut, cutLast_append _ hnumber]
    simp

/-- **The parts of a description.** -/
theorem describe_eq (request : String) :
    describe request = heading ++ request ++ "\t" ++ toString (Utf8.encode request).length ++ closing := by
  have hone : Nat.toDigits 10 1 = ['1'] := by decide
  apply String.toList_inj.1
  rw [Utf8.length_encode]
  simp [describe, Table.toList_render, Table.row, Table.cell, Table.trailer, heading, closing, hone]

/-- a number has no tab in it -/
theorem tab_notMem_toString (n : Nat) : '\t' ∉ (toString n).toList := by
  intro h
  rw [Nat.toString_eq_ofList_toDigits, String.toList_ofList] at h
  have hdigit : '\t'.isDigit = true := Nat.isDigit_of_mem_toDigits (by decide) (by decide) h
  exact absurd hdigit (by decide)

/-- **The description of a request tells the request.** For any request, whatever characters it has: its description is
the fixed heading, the request, a tab, its number of bytes in decimal digits, and the fixed closing. Cut there and at
the last tab, the description gives the request and that number; a text gives both only if it is this description; and
no other request has the same description. -/
theorem described_request (request : String) :
    let bytes := toString (Utf8.encode request).length
    describe request = heading ++ request ++ "\t" ++ bytes ++ closing ∧
    read (describe request) = some (request, bytes) ∧
    (∀ text, read text = some (request, bytes) ↔ text = describe request) ∧
    ∀ request', describe request' = describe request ↔ request' = request := by
  intro bytes
  have hread : ∀ request', read (describe request') = some (request', toString (Utf8.encode request').length) := by
    intro request'
    exact read_eq_some_iff.2 ⟨describe_eq request', tab_notMem_toString _⟩
  refine ⟨describe_eq request, hread request, fun text => ⟨fun h => ?_, fun h => ?_⟩, fun request' => ⟨fun h => ?_, ?_⟩⟩
  · rw [(read_eq_some_iff.1 h).1, describe_eq request]
  · rw [h]
    exact hread request
  · have hboth := (hread request').symm.trans (h ▸ hread request)
    exact congrArg Prod.fst (Option.some.inj hboth)
  · rintro rfl
    rfl

/-- a request that looks like the rest of a description, with two characters of two bytes each -/
example : read (describe "é\t3\t\nDONE TOTAL 1 LINES\né") = some ("é\t3\t\nDONE TOTAL 1 LINES\né", "27") := by cbv

end Description

end QueryConsole
