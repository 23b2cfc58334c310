import QueryConsole.Proofs.Session.Cut

/-
What a port is given, flush by flush.

A page is what a successful flush lets through: the bytes that the port took since the one before it (`Trace.pages`).
Pages of a trace that ends flushed are followed by those of what comes next; so the pages of a session can be told turn
by turn (`Trace.Paged`).

Results:
- `pages_append`: how pages follow each other.
- `flushes_eq_length`: the flushes of a trace, by its pages.
- `paged_showing`: texts that are shown make one page.
- `showing_steady`: on a screen that never fails they are shown.
-/

namespace QueryConsole

namespace Trace

variable {port : Port} {held : Bytes} {e : Event} {later a b : Trace}

/-- what a port holds back after a trace, if it held some bytes before -/
def holds (port : Port) (held : Bytes) (trace : Trace) : Bytes :=
  trace.foldl (fun held e => if e.isFlush port then [] else held ++ e.taken port) held

/-- what each successful flush of a port lets through, if the port held some bytes before -/
def pagesFrom (port : Port) (held : Bytes) : Trace → List Bytes
  | [] => []
  | e :: later =>
    if e.isFlush port then held :: pagesFrom port [] later else pagesFrom port (held ++ e.taken port) later

/-- what each successful flush of a port lets through -/
def pages (port : Port) (trace : Trace) : List Bytes := pagesFrom port [] trace

theorem holds_start (port : Port) (trace : Trace) : holds port [] trace = unflushed port trace := rfl

theorem holds_flush (h : e.isFlush port = true) (held : Bytes) (later : Trace) :
    holds port held (e :: later) = holds port [] later := by
  unfold holds
  rw [List.foldl_cons, if_pos h]

theorem holds_other (h : ¬ e.isFlush port = true) (held : Bytes) (later : Trace) :
    holds port held (e :: later) = holds port (held ++ e.taken port) later := by
  unfold holds
  rw [List.foldl_cons, if_neg h]

theorem pagesFrom_flush (h : e.isFlush port = true) (held : Bytes) (later : Trace) :
    pagesFrom port held (e :: later) = held :: pagesFrom port [] later := if_pos h

theorem pagesFrom_other (h : ¬ e.isFlush port = true) (held : Bytes) (later : Trace) :
    pagesFrom port held (e :: later) = pagesFrom port (held ++ e.taken port) later := if_neg h

theorem pagesFrom_append (held : Bytes) (a b : Trace) :
    pagesFrom port held (a ++ b) = pagesFrom port held a ++ pagesFrom port (holds port held a) b := by
  induction a generalizing held with
  | nil => rfl
  | cons e later ih =>
    by_cases hflush : e.isFlush port = true
    · rw [List.cons_append, pagesFrom_flush hflush, pagesFrom_flush hflush, holds_flush hflush, ih, List.cons_append]
    · rw [List.cons_append, pagesFrom_other hflush, pagesFrom_other hflush, holds_other hflush, ih]

/-- pages that end flushed are followed by those of what comes later -/
theorem pages_append (h : unflushed port a = []) (b : Trace) : pages port (a ++ b) = pages port a ++ pages port b := by
  unfold pages
  rw [pagesFrom_append, holds_start, h]

/-- there is a page for each successful flush -/
theorem flushes_eq_length (port : Port) (trace : Trace) : flushes port trace = (pages port trace).length := by
  have hfrom : ∀ held, flushes port trace = (pagesFrom port held trace).length := by
    induction trace with
    | nil => exact fun _ => rfl
    | cons e later ih =>
      intro held
      by_cases hflush : e.isFlush port = true
      · rw [pagesFrom_flush hflush, List.length_cons, ← ih, flushes, List.countP_cons_of_pos hflush]
        rfl
      · rw [pagesFrom_other hflush, ← ih, flushes, List.countP_cons_of_neg hflush]
        rfl
  exact hfrom []

/-- calls on other objects make no page -/
theorem pagesFrom_of_other (port : Port) (h : ∀ e ∈ a, e.on? ≠ some port.object) (held : Bytes) :
    pagesFrom port held a = [] ∧ holds port held a = held := by
  induction a with
  | nil => exact ⟨rfl, rfl⟩
  | cons e later ih =>
    obtain ⟨hfirst, hlater⟩ := List.forall_mem_cons.1 h
    obtain ⟨htaken, hflush⟩ := Event.taken_eq_nil hfirst
    have hno : ¬ e.isFlush port = true := by simp [hflush]
    rw [pagesFrom_other hno, holds_other hno, htaken, List.append_nil]
    exact ih hlater

/-- writes make no page -/
theorem pagesFrom_of_writes (h : ∀ e ∈ a, ∃ taken, e = .wrote port taken) (held : Bytes) :
    pagesFrom port held a = [] ∧ holds port held a = held ++ taken port a := by
  induction a generalizing held with
  | nil => exact ⟨rfl, (List.append_nil held).symm⟩
  | cons e later ih =>
    obtain ⟨⟨bytes, rfl⟩, hlater⟩ := List.forall_mem_cons.1 h
    have hno : ¬ (Event.wrote port bytes).isFlush port = true := by simp [Event.isFlush]
    rw [pagesFrom_other hno, holds_other hno, taken_cons, ← List.append_assoc]
    exact ih hlater _

/-! ## Pages on the screen -/

/-- the trace makes these pages on the screen and holds nothing back, and no call on the screen fails -/
structure Paged (made : List Bytes) (trace : Trace) : Prop where
  pages : pages .screen trace = made
  rest : unflushed .screen trace = []
  unfailing : UnfailingOn .screen trace

variable {made made' : List Bytes}

theorem Paged.append (ha : Paged made a) (hb : Paged made' b) : Paged (made ++ made') (a ++ b) where
  pages := by rw [pages_append ha.rest, ha.pages, hb.pages]
  rest := by rw [unflushed_append ha.rest, hb.rest]
  unfailing := ha.unfailing.append hb.unfailing

/-- what makes no call on the screen makes no page -/
theorem Paged.of_offScreen (h : offScreen a = a) : Paged [] a := by
  obtain ⟨hpages, hholds⟩ := pagesFrom_of_other .screen (offScreen_eq_self_iff.1 h) []
  exact ⟨hpages, hholds, unfailingOn_of_offScreen h⟩

/-- writes and a flush after them make one page -/
theorem Paged.of_writes (h : ∀ e ∈ a, ∃ taken, e = .wrote .screen taken)
    (hunfailing : Unfailing (a ++ [.flushed .screen (.ok ())])) :
    Paged [taken .screen a] (a ++ [.flushed .screen (.ok ())]) := by
  obtain ⟨hpages, hholds⟩ := pagesFrom_of_writes h []
  refine ⟨?_, unflushed_concat_flush _ _, fun e he _ => hunfailing e he⟩
  rw [Trace.pages, pagesFrom_append, hpages, hholds]
  have hflush : (Event.flushed .screen (.ok ())).isFlush .screen = true := rfl
  rw [pagesFrom_flush hflush]
  rfl

end Trace

namespace Shell

variable {shell shell' : Shell} {text : String} {texts : List String} {e : Event} {seen : Trace}

/-- saying a text is writing -/
theorem mem_say (h : e ∈ (say text shell).trace) : ∃ taken, e = .wrote .screen taken := by
  rw [say, withScreen_eq] at h
  rcases hfirst : Outflow.writeAll .screen (Utf8.encode text) shell.screen with ⟨cause | _, screen, trace⟩
  · rw [Act.run_bind_error hfirst] at h
    exact Outflow.mem_writeAll (by rw [hfirst]; exact h)
  · rw [Act.run_bind_ok hfirst, Run.trace_after] at h
    rcases List.mem_append.1 h with h | h
    · exact Outflow.mem_writeAll (by rw [hfirst]; exact h)
    · exact Outflow.mem_writeAll h

/-- showing that succeeds is writing, and a flush after it -/
theorem writes_of_showing (h : showing texts shell = ⟨.ok (), shell', seen⟩) :
    ∃ writes, seen = writes ++ [.flushed .screen (.ok ())] ∧ ∀ e ∈ writes, ∃ taken, e = .wrote .screen taken := by
  induction texts generalizing shell seen with
  | nil =>
    obtain ⟨answer, later, hflush⟩ := Outflow.flush_eq .screen shell.screen
    rw [showing, flush, withScreen_eq, hflush] at h
    cases answer with
    | error cause => cases h
    | ok _ =>
      cases h
      exact ⟨[], rfl, by simp⟩
  | cons text later ih =>
    have hwrites := @mem_say shell text
    rcases hsay : say text shell with ⟨e | _, mid, trace⟩
    · rw [showing, Act.run_bind_error hsay] at h
      cases h
    · rw [hsay] at hwrites
      rcases hlater : showing later mid with ⟨e | _, last, trace'⟩
      · rw [showing, Act.run_bind_ok hsay, hlater] at h
        cases h
      · rw [showing, Act.run_bind_ok hsay, hlater] at h
        cases h
        obtain ⟨writes, rfl, hmore⟩ := ih hlater
        exact ⟨trace ++ writes, (List.append_assoc ..).symm, List.forall_mem_append.2 ⟨fun e => hwrites, hmore⟩⟩

/-- showing succeeds on a screen that never fails, and leaves one -/
theorem showing_steady {answer : Except SessionError Unit} (h : showing texts shell = ⟨answer, shell', seen⟩)
    (hscreen : shell.screen.NeverFails) : answer = .ok () ∧ shell'.screen.NeverFails := by
  obtain ⟨screen, trace, hshown, hlater, -⟩ := showing_neverFails shell texts hscreen
  rw [h] at hshown
  cases hshown
  exact ⟨rfl, hlater⟩

/-- **Texts that are shown make one page**, with a line for each. -/
theorem paged_showing (h : showing texts shell = ⟨.ok (), shell', seen⟩) :
    seen.Paged [texts.flatMap lineOf] := by
  have hstop := failStop_showing texts shell
  obtain ⟨answer, screen, seen', hshape, -, -, hwhole⟩ := showing_shape texts shell
  rw [h] at hstop hshape
  cases hshape
  have htaken : Trace.taken .screen seen = texts.flatMap lineOf := (hwhole rfl).1
  obtain ⟨writes, rfl, hwrites⟩ := writes_of_showing h
  have hall : Trace.taken .screen writes = texts.flatMap lineOf := by simpa [Event.taken] using htaken
  rw [← hall]
  exact .of_writes hwrites (hstop.unfailing () rfl)

end Shell

end QueryConsole
