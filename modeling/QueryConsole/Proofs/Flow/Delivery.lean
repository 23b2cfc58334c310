import QueryConsole.Link.Frame.Write
import QueryConsole.Proofs.Flow.Arrivals

/-
Delivering bytes: all of them, then a flush.

Whatever a direction takes of each write, and wherever it interrupts one, the bytes it has taken in the end are a front
part of what was to be written, and all of it exactly if the writing succeeded. A delivery reads nothing.

Results:
- `taken_writeAll`: what writing takes, and when it succeeds.
- `deliver_cases`: a delivery that succeeds took everything; one that fails took a strict front part if it failed in a
  write, and everything if it failed in the flush.
- `deliver_shape`: the events of a delivery, in order: writes, then at most one flush, and nothing after a failed one.
- `deliver_open`: a delivery over a direction that takes everything.
-/

namespace QueryConsole

namespace Outflow

variable {port : Port} {bytes : Bytes} {outflow : Outflow}

/-- writing only writes -/
theorem mem_writeAll {event : Event} (h : event ∈ (writeAll port bytes outflow).trace) :
    ∃ taken, event = .wrote port taken := by
  fun_induction writeAll port bytes outflow with
  | case1 => simp at h
  | case2 => exact ⟨_, by simpa using h⟩
  | case3 b rest outflow c taken later met ih =>
    rcases List.mem_cons.1 h with rfl | h
    · exact ⟨_, rfl⟩
    · exact ih h
  | case4 b rest outflow cause later met again ih =>
    rcases List.mem_cons.1 h with rfl | h
    · exact ⟨_, rfl⟩
    · exact ih h
  | case5 => exact ⟨_, by simpa using h⟩

/-- what is taken is a front part, and the writing succeeds exactly if it is all -/
theorem taken_writeAll (port : Port) (bytes : Bytes) (outflow : Outflow) :
    Trace.taken port (writeAll port bytes outflow).trace <+: bytes ∧
      ((writeAll port bytes outflow).answer = .ok () ↔
        Trace.taken port (writeAll port bytes outflow).trace = bytes) := by
  fun_induction writeAll port bytes outflow with
  | case1 => simp
  | case2 => simp [Event.taken]
  | case3 b rest outflow c taken later met ih =>
    obtain ⟨more, hmore⟩ := write_taken met
    obtain ⟨rfl, rfl⟩ : c = b ∧ taken ++ more = rest := by simpa using hmore
    simpa [Event.taken] using ih
  | case4 b rest outflow cause later met again ih => simpa [Event.taken] using ih
  | case5 => simp [Event.taken]

/-! ## Writing, then flushing -/

/-- what a flush leaves: its answer is an event, and no byte is read or taken -/
theorem flush_eq (port : Port) (outflow : Outflow) :
    ∃ answer later, flush port outflow = ⟨answer, later, [.flushed port answer]⟩ := by
  unfold flush
  split
  · exact ⟨_, _, rfl⟩
  · exact ⟨_, _, rfl⟩

/-- writing fails with the failure of its last write, or because that write took nothing -/
theorem writeAll_error {cause : IoError} (h : (writeAll port bytes outflow).answer = .error cause) :
    ∃ before taken, (writeAll port bytes outflow).trace = before ++ [.wrote port taken] ∧
      (taken = .error cause ∨ taken = .ok [] ∧ cause = .nothingTaken) := by
  fun_induction writeAll port bytes outflow with
  | case1 => simp at h
  | case2 =>
    obtain rfl : .nothingTaken = cause := by simpa using h
    exact ⟨[], .ok [], rfl, .inr ⟨rfl, rfl⟩⟩
  | case3 b rest outflow c taken later met ih =>
    obtain ⟨before, last, htrace, hlast⟩ := ih h
    exact ⟨.wrote port (.ok (c :: taken)) :: before, last, by simp [htrace], hlast⟩
  | case4 b rest outflow cause' later met again ih =>
    obtain ⟨before, last, htrace, hlast⟩ := ih h
    exact ⟨.wrote port (.error cause') :: before, last, by simp [htrace], hlast⟩
  | case5 b rest outflow cause' later met again =>
    obtain rfl : cause' = cause := by simpa using h
    exact ⟨[], .error cause', rfl, .inl rfl⟩

/-- how a delivery failed: in which call, and what it had taken by then -/
inductive Refused (bytes taken : Bytes) : Event → LinkError → Prop
  | write (cause : IoError) (part : taken <+: bytes) (strict : taken ≠ bytes) :
    Refused bytes taken (.wrote .link (.error cause)) (.transport "write" cause)
  | nothing (part : taken <+: bytes) (strict : taken ≠ bytes) :
    Refused bytes taken (.wrote .link (.ok [])) (.transport "write" .nothingTaken)
  | flush (cause : IoError) (whole : taken = bytes) :
    Refused bytes taken (.flushed .link (.error cause)) (.transport "flush" cause)

/-- **The events of a delivery.** Writes, and if they took everything a flush. If it fails, its last call is the one
that failed. -/
theorem deliver_shape (bytes : Bytes) (outflow : Outflow) :
    ∃ later writes, (∀ event ∈ writes, ∃ taken, event = .wrote .link taken) ∧
      ((deliver bytes outflow = ⟨.ok (), later, writes ++ [.flushed .link (.ok ())]⟩ ∧
          Trace.taken .link writes = bytes) ∨
        ∃ e before last, deliver bytes outflow = ⟨.error e, later, before ++ [last, .counted .transportError 1]⟩ ∧
          Refused bytes (Trace.taken .link (before ++ [last])) last e ∧
          (before ++ [last] = writes ∨ ∃ cause, before = writes ∧ last = .flushed .link (.error cause))) := by
  have htaken := taken_writeAll .link bytes outflow
  have hwrites : ∀ event ∈ (writeAll .link bytes outflow).trace, ∃ taken, event = .wrote .link taken :=
    fun event => mem_writeAll
  rcases hwrite : writeAll .link bytes outflow with ⟨cause | _, later, trace⟩
  · obtain ⟨before, last, htrace, hlast⟩ := writeAll_error (congrArg Run.answer hwrite)
    rw [hwrite] at htaken hwrites htrace
    obtain rfl : trace = before ++ [.wrote .link last] := htrace
    refine ⟨later, _, hwrites, .inr ⟨.transport "write" cause, before, _, ?_, ?_, .inl rfl⟩⟩
    · apply Act.run_bind_error
      simp [Act.rescue, hwrite, LinkError.raise, LinkError.counter, Run.after]
    · have hstrict : Trace.taken .link (before ++ [.wrote .link last]) ≠ bytes := by simpa using htaken.2
      rcases hlast with rfl | ⟨rfl, rfl⟩
      · exact .write cause htaken.1 hstrict
      · exact .nothing htaken.1 hstrict
  · rw [hwrite] at htaken hwrites
    have hall : Trace.taken .link trace = bytes := htaken.2.1 rfl
    have hfirst : (writeAll .link bytes).rescue
        (fun cause => LinkError.raise (α := Unit) (.transport "write" cause)) outflow = ⟨.ok (), later, trace⟩ := by
      simp only [Act.rescue, hwrite]
    obtain ⟨answer, last, hflush⟩ := flush_eq .link later
    refine ⟨last, trace, hwrites, ?_⟩
    rw [deliver, Act.run_bind_ok hfirst]
    cases answer with
    | error cause =>
      refine .inr ⟨.transport "flush" cause, trace, .flushed .link (.error cause), ?_, ?_, .inr ⟨cause, rfl, rfl⟩⟩
      · simp [Act.rescue, hflush, LinkError.raise, LinkError.counter, Run.after]
      · exact .flush cause (by simp [Event.taken, hall])
    | ok _ => exact .inl ⟨by simp [Act.rescue, hflush, Run.after], hall⟩

/-- **What a delivery can do.** It fails in a write, before everything is taken; it fails in the flush after it; or it
succeeds. It never reads. -/
theorem deliver_cases (bytes : Bytes) (outflow : Outflow) :
    ∃ later trace, trace.NoRead ∧
      ((∃ cause, deliver bytes outflow = ⟨.error (.transport "write" cause), later, trace⟩ ∧
          Trace.taken .link trace <+: bytes ∧ Trace.taken .link trace ≠ bytes) ∨
        (∃ cause, deliver bytes outflow = ⟨.error (.transport "flush" cause), later, trace⟩ ∧
          Trace.taken .link trace = bytes) ∨
        (deliver bytes outflow = ⟨.ok (), later, trace⟩ ∧ Trace.taken .link trace = bytes)) := by
  obtain ⟨later, writes, hwrites, hshape⟩ := deliver_shape bytes outflow
  have hread : writes.NoRead := by
    intro room got h
    obtain ⟨taken, heq⟩ := hwrites _ h
    cases heq
  rcases hshape with ⟨hdeliver, htaken⟩ | ⟨e, before, last, hdeliver, hrefused, hlast⟩
  · exact ⟨later, _, by simpa using hread, .inr (.inr ⟨hdeliver, by simpa [Event.taken] using htaken⟩)⟩
  · have hcalls : Trace.NoRead (before ++ [last]) := by
      rcases hlast with rfl | ⟨cause, rfl, rfl⟩
      · exact hread
      · simpa using hread
    have hsame : Trace.taken .link (before ++ [last, .counted .transportError 1]) =
        Trace.taken .link (before ++ [last]) := by simp [Event.taken]
    refine ⟨later, before ++ [last, .counted .transportError 1], by simpa using hcalls, ?_⟩
    rw [hsame]
    cases hrefused with
    | write cause part strict => exact .inl ⟨cause, hdeliver, part, strict⟩
    | nothing part strict => exact .inl ⟨.nothingTaken, hdeliver, part, strict⟩
    | flush cause whole => exact .inr (.inl ⟨cause, hdeliver, whole⟩)

/-! ## A direction that takes everything -/

/-- what a delivery does on a direction that takes everything: one write, if there is a byte, and a flush -/
def delivery (bytes : Bytes) : Trace :=
  (if bytes = [] then [] else [.wrote .link (.ok bytes)]) ++ [.flushed .link (.ok ())]

theorem writeAll_open (port : Port) (bytes : Bytes) :
    writeAll port bytes {} = ⟨.ok (), {}, if bytes = [] then [] else [.wrote port (.ok bytes)]⟩ := by
  cases bytes with
  | nil => exact run_writeAll_nil port {}
  | cons b rest =>
    have hwrite : write (b :: rest) {} = (.ok (b :: rest), {}) := rfl
    rw [writeAll]
    split
    · next heq => simp [hwrite] at heq
    · next c taken later heq =>
      obtain ⟨⟨rfl, rfl⟩, rfl⟩ : (b = c ∧ rest = taken) ∧ {} = later := by simpa [hwrite] using heq
      simp [Run.after]
    · next heq => simp [hwrite] at heq

theorem deliver_open (bytes : Bytes) : deliver bytes {} = ⟨.ok (), {}, delivery bytes⟩ := by
  have hfirst : (writeAll .link bytes).rescue (fun cause => LinkError.raise (α := Unit) (.transport "write" cause)) {} =
      ⟨.ok (), {}, if bytes = [] then [] else [.wrote .link (.ok bytes)]⟩ := by
    simp only [Act.rescue, writeAll_open]
  rw [deliver, Act.run_bind_ok hfirst]
  rfl

end Outflow

end QueryConsole
