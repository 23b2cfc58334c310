import Mathlib
import QueryConsole.Proofs.Text.Lines
import QueryConsole.Session.Source

/-
Scripts play back what was written.

A source plays some lines (`Act.Plays`) if asking it gives these, each once and in order, and then the end of the input,
however often it is asked again. So a source plays one list of lines only (`Plays.unique`). What a script plays is cut
out of its text; that lines which were written are cut out again is known from the text alone.

Results:
- `plays_ofLines`: a source of lines plays them.
- `ofScript_encode`: the source that a script gives, if it is text.
- `scripts_play_back`: from lines to a script and back, and from a script to lines and back.
-/

namespace QueryConsole

/-! ## What a source plays -/

namespace Act

variable {σ : Type} {ask : Act σ SessionError (Option String)} {s s' : σ} {trace : Trace} {text : String}
  {lines lines' : List String}

/-- asking gives these lines, each once and in order, and then the end of the input at every later call -/
def Plays (ask : Act σ SessionError (Option String)) (s : σ) (lines : List String) : Prop :=
  ∀ more, (inTurn (List.replicate (lines.length + more) ask) s).map (·.answer) =
    lines.map (fun line => .ok (some line)) ++ List.replicate more (.ok none)

/-- a source that is over, and stays as it is when asked, plays nothing -/
theorem Plays.over (h : ask s = ⟨.ok none, s, trace⟩) : Plays ask s [] := by
  intro more
  rw [List.length_nil, Nat.zero_add, List.map_nil, List.nil_append]
  induction more with
  | zero => rfl
  | succ more ih =>
    rw [List.replicate_succ, List.replicate_succ, inTurn, h]
    exact congrArg (_ :: ·) ih

/-- the line that asking gives comes before those that the source plays from then on -/
theorem Plays.line (h : ask s = ⟨.ok (some text), s', trace⟩) (hlater : Plays ask s' lines) :
    Plays ask s (text :: lines) := by
  intro more
  have hcount : (text :: lines).length + more = (lines.length + more) + 1 := by
    rw [List.length_cons]
    omega
  rw [hcount, List.replicate_succ, inTurn, h]
  exact congrArg (_ :: ·) (hlater more)

/-- a source plays one list of lines only -/
theorem Plays.unique (h : Plays ask s lines) (h' : Plays ask s lines') : lines = lines' := by
  -- asked as often as for both lists together, it gave all lines of either list
  let given : Except SessionError (Option String) → Option String := fun answer =>
    match answer with
    | .ok line => line
    | .error _ => none
  have hlines : ∀ (lines : List String) (more : Nat),
      (lines.map (fun line => Except.ok (some line)) ++ List.replicate more (Except.ok none)).filterMap given =
        lines := by
    intro lines more
    rw [List.filterMap_append, List.filterMap_replicate_of_none rfl, List.append_nil, List.filterMap_map]
    exact List.filterMap_some
  have hsame := h lines'.length
  rw [Nat.add_comm, h' lines.length] at hsame
  calc lines = _ := (hlines lines lines'.length).symm
    _ = _ := congrArg (List.filterMap given) hsame.symm
    _ = lines' := hlines lines' lines.length

end Act

namespace Source

variable {lines : List String} {text : String}

theorem plays_ofLines (lines : List String) : Act.Plays next (ofLines lines) lines := by
  induction lines with
  | nil => exact .over next_nil
  | cons line later ih => exact .line rfl ih

/-! ## What a script plays -/

/-- a script that is text plays its lines -/
theorem ofScript_encode (text : String) : ofScript (.ok (Utf8.encode text)) = .ok (ofLines (linesOf text)) := by
  simp only [ofScript, Utf8.decode_encode]

theorem ofScript_decoded {bytes : Bytes} (h : Utf8.decode bytes = .ok text) :
    ofScript (.ok bytes) = .ok (ofLines (linesOf text)) := by
  rw [← Utf8.encode_of_decode h, ofScript_encode]

theorem map_toList_linesOf (text : String) : (linesOf text).map String.toList = splitLines '\n' '\r' text.toList := by
  simp [linesOf, Function.comp_def]

/-- the lines of a text, if it is cut into these -/
theorem linesOf_eq_iff : linesOf text = lines ↔ splitLines '\n' '\r' text.toList = lines.map String.toList := by
  rw [← map_toList_linesOf]
  exact (List.map_injective_iff.2 fun _ _ => String.toList_injective).eq_iff.symm

theorem notMem_of_mem_linesOf (text : String) : ∀ line ∈ linesOf text, '\n' ∉ line.toList := by
  intro line hline
  have hmem : line.toList ∈ splitLines '\n' '\r' text.toList := by
    rw [← map_toList_linesOf]
    exact List.mem_map_of_mem hline
  exact not_mem_of_mem_splitLines hmem

/-- a text that is some lines, each with a newline at its end -/
def textOf (lines : List String) : String := String.join (lines.map (· ++ "\n"))

theorem toList_textOf (lines : List String) : (textOf lines).toList = refed '\n' (lines.map String.toList) := by
  simp [textOf, refed, String.toList_join, List.flatMap_map]

/-- lines that were written as a text are the lines of that text -/
theorem linesOf_written (h : Written '\n' '\r' (lines.map String.toList) text.toList)
    (hlines : ∀ line ∈ lines, '\n' ∉ line.toList ∧ line.toList.getLast? ≠ some '\r') : linesOf text = lines :=
  linesOf_eq_iff.2 (splitLines_written (by decide) h (List.forall_mem_map.2 hlines))

/-- lines are the lines of the text that is made of them exactly if none ends with a carriage return -/
theorem linesOf_textOf_iff (h : ∀ line ∈ lines, '\n' ∉ line.toList) :
    linesOf (textOf lines) = lines ↔ ∀ line ∈ lines, line.toList.getLast? ≠ some '\r' := by
  rw [linesOf_eq_iff, toList_textOf, splitLines_refed_iff (List.forall_mem_map.2 h), List.forall_mem_map]

/-- **Scripts play back what was written.**
- Lines without newlines, none with a carriage return at its end, are written with an ending of its own for each, but
  perhaps none for a last line that is not empty: the script of this text plays exactly these lines.
- A script that is text plays lines without newlines; and the script that is made of them, with a newline for each,
  plays them again exactly if none of them ends with a carriage return.
- A script that is not text gives no source. -/
theorem scripts_play_back :
    (∀ (lines : List String) (text : String), Written '\n' '\r' (lines.map String.toList) text.toList →
      (∀ line ∈ lines, '\n' ∉ line.toList ∧ line.toList.getLast? ≠ some '\r') →
      ∃ source, ofScript (.ok (Utf8.encode text)) = .ok source ∧ Act.Plays next source lines) ∧
    (∀ (bytes : Bytes) (text : String), Utf8.decode bytes = .ok text →
      ∃ source lines source', ofScript (.ok bytes) = .ok source ∧ Act.Plays next source lines ∧
        (∀ line ∈ lines, '\n' ∉ line.toList) ∧ ofScript (.ok (Utf8.encode (textOf lines))) = .ok source' ∧
        (Act.Plays next source' lines ↔ ∀ line ∈ lines, line.toList.getLast? ≠ some '\r')) ∧
    ∀ (bytes : Bytes) (fault : Utf8.Fault), Utf8.decode bytes = .error fault →
      ofScript (.ok bytes) = .error (.io .notText) := by
  refine ⟨?_, ?_, ?_⟩
  · intro lines text hwritten hlines
    have hplays := plays_ofLines (linesOf text)
    rw [linesOf_written hwritten hlines] at hplays
    exact ⟨_, ofScript_encode text, by rwa [linesOf_written hwritten hlines]⟩
  · intro bytes text hdecode
    have hfree := notMem_of_mem_linesOf text
    refine ⟨_, linesOf text, _, ofScript_decoded hdecode, plays_ofLines _, hfree, ofScript_encode _, ?_⟩
    rw [← linesOf_textOf_iff hfree]
    constructor
    · intro hplays
      exact (plays_ofLines _).unique hplays
    · intro hsame
      rw [hsame]
      exact plays_ofLines _
  · intro bytes fault hfault
    exact ofScript_notText hfault

/-- five lines with mixed endings, two of them empty and one with a carriage return inside; a script with a line that
ends with a carriage return, which is lost when the line is written with a newline; and a script that is not text -/
theorem scripts_play_back_mixed :
    let lines := ["a", "", "b\rc", "", "d"]
    let text := "a\n\r\nb\rc\r\n\nd"
    Written '\n' '\r' (lines.map String.toList) text.toList ∧
      (∃ source, ofScript (.ok (Utf8.encode text)) = .ok source ∧ Act.Plays next source lines) ∧
      (∃ source lines, ofScript (.ok (Utf8.encode "a\r\r\nb")) = .ok source ∧ Act.Plays next source lines ∧
        lines = ["a\r", "b"] ∧ ofScript (.ok (Utf8.encode (textOf lines))) = .ok (ofLines ["a", "b"])) ∧
      ofScript (.ok [0x61, 0xFF]) = .error (.io .notText) := by
  intro lines text
  have hwritten : Written '\n' '\r' (lines.map String.toList) text.toList := by
    have hlast : Written '\n' '\r' [['d']] ['d'] := .last (by decide)
    have hall := hlast.line [] .feed |>.line ['b', '\r', 'c'] .returnFeed |>.line [] .returnFeed |>.line ['a'] .feed
    have hlines : lines.map String.toList = [['a'], [], ['b', '\r', 'c'], [], ['d']] := by decide
    have htext : text.toList = ['a', '\n', '\r', '\n', 'b', '\r', 'c', '\r', '\n', '\n', 'd'] := by decide
    rw [hlines, htext]
    exact hall
  have hlines : ∀ line ∈ lines, '\n' ∉ line.toList ∧ line.toList.getLast? ≠ some '\r' := by decide
  obtain ⟨hthere, hback, hnone⟩ := scripts_play_back
  obtain ⟨source, played, source', hscript, hplays, -⟩ := hback _ _ (Utf8.decode_encode "a\r\r\nb")
  have hsource : source = ofLines ["a\r", "b"] := by
    have hgiven : ofScript (.ok (Utf8.encode "a\r\r\nb")) = .ok (ofLines ["a\r", "b"]) := by
      rw [ofScript_encode]
      rfl
    exact Except.ok.inj (hscript.symm.trans hgiven)
  have hplayed : played = ["a\r", "b"] := hplays.unique (hsource ▸ plays_ofLines _)
  refine ⟨hwritten, hthere lines text hwritten hlines, ⟨source, played, hscript, hplays, hplayed, ?_⟩, ?_⟩
  · rw [hplayed, ofScript_encode]
    rfl
  · have hfault : Utf8.decode [0x61, 0xFF] = .error ⟨1, some 1⟩ := by cbv
    exact hnone _ _ hfault

end Source

end QueryConsole
