import QueryConsole.Proofs.Flow.Delivery
import QueryConsole.Proofs.Flow.FrameDecoding

/-
What the calls on a link enter into the books.

An entry is a count or a sample. Two kinds of counts are kept apart, since they go with something else that can be seen:
an interruption goes with the read that was interrupted, and a close with the client that gives its link up. All other
entries of a trace are its `entries`. Delivering bytes and reading a frame enter one thing only: the failure that they
end in, once and at the end (`Booked`).

Results:
- `total_entries`, `samples_entries`: totals may be taken from the entries.
- `booked_deliver`, `booked_read`: what delivering and reading enter.
-/

namespace QueryConsole

namespace Event

/-- the event is an entry about neither an interruption nor a close -/
def isEntry : Event → Bool
  | counted .close _ | counted .readInterrupted _ => false
  | counted .. | sampled _ => true
  | _ => false

/-- the event is a read that was interrupted -/
def isInterrupted : Event → Bool
  | read _ (.error cause) => cause.retryable
  | _ => false

/-- a failure is entered as itself -/
@[simp] theorem isEntry_failure (e : LinkError) : (counted e.counter 1).isEntry = true := by
  cases e <;> rfl

end Event

namespace Trace

variable {counter : Counter} {trace : Trace}

/-- the entries of a trace about neither interruptions nor closes, in order -/
def entries (trace : Trace) : Trace := trace.filter Event.isEntry

/-- number of reads that were interrupted -/
def interruptions (trace : Trace) : Nat := trace.countP Event.isInterrupted

@[simp] theorem entries_append (a b : Trace) : entries (a ++ b) = entries a ++ entries b := List.filter_append ..

@[simp] theorem interruptions_append (a b : Trace) : interruptions (a ++ b) = interruptions a + interruptions b :=
  List.countP_append

@[simp] theorem total_nil (counter : Counter) : total counter [] = 0 := rfl

@[simp] theorem total_cons (counter : Counter) (e : Event) (trace : Trace) :
    total counter (e :: trace) = e.adds counter + total counter trace := rfl

theorem total_entries (hclose : counter ≠ .close) (hinterrupted : counter ≠ .readInterrupted) (trace : Trace) :
    total counter trace.entries = total counter trace := by
  induction trace with
  | nil => rfl
  | cons e later ih =>
    by_cases hentry : e.isEntry = true
    · rw [entries, List.filter_cons_of_pos hentry, total_cons, total_cons]
      exact congrArg _ ih
    · have hadds : e.adds counter = 0 := by
        cases e with
        | counted c amount => cases c <;> simp_all [Event.isEntry, Event.adds, eq_comm]
        | _ => rfl
      rw [entries, List.filter_cons_of_neg hentry, total_cons, hadds, Nat.zero_add]
      exact ih

theorem samples_entries (moment : Moment) (trace : Trace) : samples moment trace.entries = samples moment trace := by
  rw [samples, entries, List.countP_filter, samples]
  congr 1
  funext e
  cases e <;> simp [Event.isSample, Event.isEntry]

/-- the trace enters its interruptions and nothing else -/
structure Plain (trace : Trace) : Prop where
  entries : trace.entries = []
  interruptions : total .readInterrupted trace = trace.interruptions
  closes : total .close trace = 0

theorem Plain.nil : Plain [] := ⟨rfl, rfl, rfl⟩

theorem Plain.append {a b : Trace} (ha : a.Plain) (hb : b.Plain) : (a ++ b).Plain where
  entries := by rw [entries_append, ha.entries, hb.entries, List.append_nil]
  interruptions := by rw [total_append, interruptions_append, ha.interruptions, hb.interruptions]
  closes := by rw [total_append, ha.closes, hb.closes]

/-- a trace whose events enter nothing one by one -/
theorem Plain.of_each (h : ∀ e ∈ trace, Plain [e]) : Plain trace := by
  induction trace with
  | nil => exact .nil
  | cons e later ih => exact (h e List.mem_cons_self).append (ih fun e' he' => h e' (List.mem_cons_of_mem _ he'))

end Trace

/-- the entry about the failure that an answer may be -/
def blame : Except LinkError α → Trace
  | .ok _ => []
  | .error e => [.counted e.counter 1]

@[simp] theorem entries_blame (answer : Except LinkError α) : (blame answer).entries = blame answer := by
  cases answer <;> simp [blame, Trace.entries]

@[simp] theorem closes_blame (answer : Except LinkError α) : Trace.total .close (blame answer) = 0 := by
  cases answer with
  | ok a => rfl
  | error e => cases e <;> rfl

/-- failures are no interruptions -/
@[simp] theorem interruptions_blame (answer : Except LinkError α) :
    Trace.total .readInterrupted (blame answer) = 0 ∧ (blame answer).interruptions = 0 := by
  cases answer with
  | ok a => exact ⟨rfl, rfl⟩
  | error e => cases e <;> exact ⟨rfl, rfl⟩

theorem blame_map (f : α → β) (answer : Except LinkError α) : blame (answer.map f) = blame answer := by
  cases answer <;> rfl

/-- a run that enters its interruptions, then the failure it ends in, and nothing else -/
def Booked (r : Run σ LinkError α) : Prop := ∃ part : Trace, part.Plain ∧ r.trace = part ++ blame r.answer

namespace Booked

variable {r : Run σ LinkError α} {r' : Run τ LinkError β} {part : Trace}

/-- a run that succeeds enters its interruptions only -/
theorem plain {a : α} (h : Booked r) (hanswer : r.answer = .ok a) : r.trace.Plain := by
  obtain ⟨part, hpart, htrace⟩ := h
  rwa [htrace, hanswer, blame, List.append_nil]

theorem entries (h : Booked r) : r.trace.entries = blame r.answer := by
  obtain ⟨part, hpart, htrace⟩ := h
  rw [htrace, Trace.entries_append, hpart.entries, entries_blame, List.nil_append]

theorem closes (h : Booked r) : Trace.total .close r.trace = 0 := by
  obtain ⟨part, hpart, htrace⟩ := h
  rw [htrace, Trace.total_append, hpart.closes, closes_blame]

theorem interruptions (h : Booked r) : Trace.total .readInterrupted r.trace = r.trace.interruptions := by
  obtain ⟨part, hpart, htrace⟩ := h
  obtain ⟨hcounted, hmet⟩ := interruptions_blame r.answer
  rw [htrace, Trace.total_append, Trace.interruptions_append, hpart.interruptions, hcounted, hmet]

/-- what enters nothing may stand before -/
theorem after (h : Booked r) (hpart : part.Plain) (htrace : r'.trace = part ++ r.trace)
    (hanswer : blame r'.answer = blame r.answer) : Booked r' := by
  obtain ⟨rest, hrest, heq⟩ := h
  exact ⟨part ++ rest, hpart.append hrest, by rw [htrace, heq, hanswer, List.append_assoc]⟩

end Booked

/-! ## Delivering -/

theorem Outflow.booked_deliver (bytes : Bytes) (outflow : Outflow) : Booked (Outflow.deliver bytes outflow) := by
  obtain ⟨later, writes, hwrites, hshape⟩ := deliver_shape bytes outflow
  have hplain : writes.Plain := by
    refine .of_each fun event hevent => ?_
    obtain ⟨taken, rfl⟩ := hwrites event hevent
    exact ⟨rfl, rfl, rfl⟩
  have hflush : ∀ answer, Trace.Plain (writes ++ [.flushed .link answer]) :=
    fun answer => hplain.append ⟨rfl, rfl, rfl⟩
  rcases hshape with ⟨hrun, -⟩ | ⟨e, before, last, hrun, hrefused, hlast⟩
  · rw [hrun]
    exact ⟨_, hflush _, (List.append_nil _).symm⟩
  · have hcalls : Trace.Plain (before ++ [last]) := by
      rcases hlast with rfl | ⟨cause, rfl, rfl⟩
      · exact hplain
      · exact hflush _
    have hcounter : e.counter = .transportError := by cases hrefused <;> rfl
    rw [hrun]
    exact ⟨_, hcalls, by rw [blame, hcounter, List.append_assoc]; rfl⟩

/-! ## Reading -/

namespace Frame

theorem booked_fill (want : Nat) (inflow : Inflow) : Booked (fill want inflow) := by
  apply fill_induction (motive := fun _ _ r => Booked r)
  · intro inflow
    exact ⟨[], .nil, rfl⟩
  · intro want inflow later hwant met
    exact ⟨[.read want (.ok [])], ⟨rfl, rfl, rfl⟩, rfl⟩
  · intro want inflow later b piece r hwant met ih
    have hread : Trace.Plain [.read want (.ok (b :: piece))] := ⟨rfl, rfl, rfl⟩
    exact ih.after hread rfl (blame_map _ _)
  · intro want inflow later cause r hwant met again ih
    have hread : Trace.Plain [.read want (.error cause), .counted .readInterrupted 1] :=
      ⟨rfl, by simp [Event.adds, Trace.interruptions, Event.isInterrupted, again], rfl⟩
    exact ih.after hread rfl rfl
  · intro want inflow later cause hwant met last
    have hread : Trace.Plain [.read want (.error cause)] :=
      ⟨rfl, by simp [Event.adds, Trace.interruptions, Event.isInterrupted, last], rfl⟩
    exact ⟨_, hread, rfl⟩

theorem booked_payload (size start : Nat) (inflow : Inflow) : Booked (payload size start inflow) := by
  have hgrow : ∀ n, Trace.Plain [.reserved n] := fun n => ⟨rfl, rfl, rfl⟩
  apply payload_induction (motive := fun _ _ r => Booked r)
  · intro start inflow h
    exact ⟨[], .nil, rfl⟩
  · intro start inflow e later trace h met
    have hfill := booked_fill (growth size start) inflow
    rw [met] at hfill
    exact hfill.after (hgrow _) rfl rfl
  · intro start inflow piece later trace h met hlen
    have hfill := booked_fill (growth size start) inflow
    rw [met] at hfill
    exact ⟨_, (hgrow _).append (hfill.plain rfl), rfl⟩
  · intro start inflow piece later trace r h met hlen ih
    have hfill := booked_fill (growth size start) inflow
    rw [met] at hfill
    exact ih.after ((hgrow _).append (hfill.plain rfl)) rfl (blame_map _ _)

theorem booked_read (limit : Nat) (inflow : Inflow) : Booked (read limit inflow) := by
  have hfill := booked_fill headerSize inflow
  rcases met : fill headerSize inflow with ⟨e | head, later, trace⟩
  · rw [met] at hfill
    rw [read_failed met]
    exact hfill.after .nil rfl rfl
  · rw [met] at hfill
    by_cases hlen : head.length < headerSize
    · rw [read_short met hlen]
      exact ⟨trace, hfill.plain rfl, rfl⟩
    · by_cases hlimit : declared head > limit
      · rw [read_tooLarge met hlen hlimit]
        exact ⟨trace, hfill.plain rfl, rfl⟩
      · rw [read_payload met hlen hlimit]
        exact (booked_payload _ 0 later).after (hfill.plain rfl) rfl rfl

end Frame

end QueryConsole
