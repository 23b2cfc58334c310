import QueryConsole.Text.Quoted.Table

/-
Quoted text: a text between quotation marks, with everything escaped that cannot be read back from the page.

A quotation mark, a backslash and the common controls have short escapes; any other character of `hidden` is written as
its code point in hexadecimal digits between braces.

Results:
- `quoted_plain`: text that needs no escape is shown as it is.
-/

namespace QueryConsole

namespace Quoted

/-- the character cannot be told from the page -/
def isHidden (c : Char) : Bool := hidden.any fun (low, high) => low ≤ c.toNat && c.toNat ≤ high

/-- how a character is written between quotation marks -/
def escape (c : Char) : List Char :=
  match c with
  | '"' => ['\\', '"']
  | '\\' => ['\\', '\\']
  | '\n' => ['\\', 'n']
  | '\r' => ['\\', 'r']
  | '\t' => ['\\', 't']
  | '\x00' => ['\\', '0']
  | c => if isHidden c then ['\\', 'u', '\x7b'] ++ Nat.toDigits 16 c.toNat ++ ['\x7d'] else [c]

theorem flatMap_escape_plain {cs : List Char} (h : ∀ c ∈ cs, escape c = [c]) : cs.flatMap escape = cs := by
  induction cs with
  | nil => rfl
  | cons c rest ih =>
    rw [List.flatMap_cons, h c List.mem_cons_self, ih fun d inside => h d (List.mem_cons_of_mem c inside)]
    rfl

end Quoted

/-- a text between quotation marks -/
def quoted (text : String) : String := String.ofList ('"' :: text.toList.flatMap Quoted.escape ++ ['"'])

theorem quoted_plain {text : String} (h : ∀ c ∈ text.toList, Quoted.escape c = [c]) :
    quoted text = "\"" ++ text ++ "\"" := by
  apply String.toList_inj.1
  simp [quoted, Quoted.flatMap_escape_plain h]

end QueryConsole
