/-
Options on a command line.

A program knows some options (`Form`). An option is written with one hyphen or two before its name. If it takes an
argument, that follows an equals sign or is the next word, whatever that word looks like. The first word that is no
option ends the options, and it and all words after it are free; so does the word `--`, which is dropped. A word is an
option if it begins with a hyphen and is more than that.

Which of several faults is reported: the first word that is wrong by itself, and only then the first form, in the
program's order, that was given more than once.

Results:
- `parse_free`: words that begin with a free one are all free.
- `parse_separator`: all words after the separator are free.
-/

namespace QueryConsole

namespace Options

/-- one option that a program knows -/
structure Form where
  name : String
  /-- another name, of one letter -/
  short : Option String := none
  /-- what its argument is, for the usage text; none if it takes no argument -/
  hint : Option String := none
  help : String
deriving DecidableEq, Repr

/-- the name belongs to this form -/
def Form.isCalled (form : Form) (name : String) : Bool := form.name = name || form.short = some name

/-- the option that asks for the usage text; every program knows it -/
def Form.helpMenu : Form := { name := "help", short := some "h", help := "Print this help menu." }

/-- what is wrong with a command line -/
inductive Fault where
  | unrecognized (name : String)
  | unexpectedArgument (name : String)
  | missingArgument (name : String)
  | repeated (name : String)
deriving DecidableEq, Repr

/-- the fault, in words for the user -/
def Fault.message : Fault → String
  | .unrecognized name => "Unrecognized option: '" ++ name ++ "'"
  | .unexpectedArgument name => "Option '" ++ name ++ "' does not take an argument"
  | .missingArgument name => "Argument to option '" ++ name ++ "' missing"
  | .repeated name => "Option '" ++ name ++ "' given more than once"

/-- one option as it was given: its form's name and its argument -/
structure Given where
  name : String
  argument : Option String
deriving DecidableEq, Repr

/-- a command line that is well formed: the options given, in order, and the free words -/
structure Parsed where
  given : List Given
  free : List String
deriving DecidableEq, Repr

/-- what kind of word this is -/
inductive Word where
  | free
  | separator
  /-- an option's name and what follows its first equals sign -/
  | option (name : String) (argument : Option String)
deriving DecidableEq, Repr

/-- cut at the first equals sign -/
def cutArgument (cs : List Char) : String × Option String :=
  (String.ofList (cs.takeWhile (· ≠ '=')),
    match cs.dropWhile (· ≠ '=') with
    | [] => none
    | _ :: argument => some (String.ofList argument))

/-- what kind of word a text is; nothing but its front decides -/
def Word.ofText (text : String) : Word :=
  match text.toList with
  | ['-', '-'] => .separator
  | '-' :: '-' :: cs => .option (cutArgument cs).1 (cutArgument cs).2
  | '-' :: c :: cs => .option (cutArgument (c :: cs)).1 (cutArgument (c :: cs)).2
  | _ => .free

/-- read the words, looking at nothing but one option at a time -/
def readWords (forms : List Form) : List String → Except Fault Parsed
  | [] => .ok ⟨[], []⟩
  | text :: rest =>
    match Word.ofText text with
    | .free => .ok ⟨[], text :: rest⟩
    | .separator => .ok ⟨[], rest⟩
    | .option name argument =>
      match forms.find? (·.isCalled name) with
      | none => .error (.unrecognized name)
      | some form =>
        let add (argument : Option String) (parsed : Parsed) : Parsed :=
          { parsed with given := ⟨form.name, argument⟩ :: parsed.given }
        match form.hint, argument, rest with
        | none, none, rest => (readWords forms rest).map (add none)
        | none, some _, _ => .error (.unexpectedArgument name)
        | some _, some argument, rest => (readWords forms rest).map (add (some argument))
        | some _, none, argument :: rest => (readWords forms rest).map (add (some argument))
        | some _, none, [] => .error (.missingArgument name)

/-- read a command line -/
def parse (forms : List Form) (words : List String) : Except Fault Parsed :=
  match readWords forms words with
  | .error fault => .error fault
  | .ok parsed =>
    match forms.find? fun form => 1 < parsed.given.countP (·.name = form.name) with
    | some form => .error (.repeated form.name)
    | none => .ok parsed

namespace Parsed

/-- the option was given -/
def has (parsed : Parsed) (name : String) : Bool := parsed.given.any (·.name = name)

/-- the argument that the option was given with -/
def argument? (parsed : Parsed) (name : String) : Option String :=
  (parsed.given.find? (·.name = name)).bind (·.argument)

end Parsed

/-! ## The usage text -/

/-- the column in which help texts begin -/
def helpColumn : Nat := 24

/-- the rows that tell about one option -/
def Form.usage (form : Form) : String :=
  let called := "    " ++ (form.short.elim "    " fun short => "-" ++ short ++ ", ") ++ "-" ++ form.name ++ " " ++
    form.hint.getD ""
  let spaces (n : Nat) := String.ofList (List.replicate n ' ')
  if called.length < helpColumn then called ++ spaces (helpColumn - called.length) ++ form.help
  else called ++ "\n" ++ spaces helpColumn ++ form.help

/-- the whole usage text of a program, after its first line `brief` -/
def usage (brief : String) (forms : List Form) : String :=
  brief ++ "\n\nOptions:\n" ++ "\n".intercalate (forms.map Form.usage) ++ "\n"

/-! ## Words that are free -/

theorem parse_free {text : String} (h : Word.ofText text = .free) (forms : List Form) (rest : List String) :
    parse forms (text :: rest) = .ok ⟨[], text :: rest⟩ := by
  have once : forms.find? (fun _ => false) = none := List.find?_eq_none.2 (by simp)
  simp [parse, readWords, h, once]

theorem parse_separator (forms : List Form) (rest : List String) :
    parse forms ("--" :: rest) = .ok ⟨[], rest⟩ := by
  have h : Word.ofText "--" = .separator := by decide
  have once : forms.find? (fun _ => false) = none := List.find?_eq_none.2 (by simp)
  simp [parse, readWords, h, once]

end Options

end QueryConsole
