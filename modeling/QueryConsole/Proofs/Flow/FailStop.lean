import QueryConsole.Proofs.Flow.Calls
import QueryConsole.Proofs.Flow.Replay

/-
Nothing is called any more once a call has failed.

A call that was interrupted has not failed, as long as it is issued again; a read that finds the peer's side closed and
a write that takes nothing have. A run is fail-stop (`Run.FailStop`) if it makes no call after a failed one, and meets
no failure at all if it gives an answer. The property follows acts through `>>=`, so it is proved once for each
primitive.

Results:
- `FailStop.bind`, `FailStop.rescue`, `FailStop.within`: how it follows acts.
- `failStop_writeAll`, `failStop_flush`, `failStop_deliver`: writing.
- `failStop_read`: reading a frame.
-/

namespace QueryConsole

namespace Event

/-- the event is a call that failed and is not issued again -/
def Fails : Event → Prop
  | read _ (.ok piece) => piece = []
  | wrote _ (.ok taken) => taken = []
  | read _ (.error cause) | wrote _ (.error cause) => ¬ cause.retryable = true
  | flushed _ (.error _) | asked (.error _) => True
  | _ => False

theorem Fails.isCall {e : Event} (h : e.Fails) : e.isCall = true := by
  cases e with
  | read | wrote | flushed | asked => rfl
  | _ => exact h.elim

end Event

namespace Trace

variable {a b : Trace}

/-- no event of the trace failed -/
def Unfailing (trace : Trace) : Prop := ∀ e ∈ trace, ¬ e.Fails

/-- no call of the trace comes after a failed one -/
def Stops (trace : Trace) : Prop := ∀ before e, before ++ [e] <+: trace → e.isCall = true → Unfailing before

theorem Quiet.unfailing (h : Quiet a) : Unfailing a := fun e he hfails => by
  have hcall := hfails.isCall
  rw [Event.isCall, h e he] at hcall
  cases hcall

theorem Unfailing.append (ha : Unfailing a) (hb : Unfailing b) : Unfailing (a ++ b) := by
  intro e he
  rcases List.mem_append.1 he with he | he
  · exact ha e he
  · exact hb e he

theorem Unfailing.of_prefix (h : Unfailing b) (hab : a <+: b) : Unfailing a := fun e he => h e (hab.subset he)

theorem Unfailing.stops (h : Unfailing a) : Stops a :=
  fun _ _ hnext _ => h.of_prefix ((List.prefix_append _ _).trans hnext)

theorem Stops.append (ha : Unfailing a) (hb : Stops b) : Stops (a ++ b) := by
  intro before e hnext hcall
  rcases next_append hnext with hfirst | ⟨mid, rfl, hsecond⟩
  · exact ha.stops before e hfirst hcall
  · exact ha.append (hb mid e hsecond hcall)

/-- whatever a trace failed in, events that are no calls may follow -/
theorem Stops.quiet (ha : Stops a) (hb : Quiet b) : Stops (a ++ b) := by
  intro before e hnext hcall
  rcases next_append hnext with hfirst | ⟨mid, rfl, hsecond⟩
  · exact ha before e hfirst hcall
  · rw [Event.isCall, hb e (hsecond.subset (by simp))] at hcall
    cases hcall

theorem stops_singleton (e : Event) : Stops [e] := by
  intro before next hnext _
  rcases next_cons hnext with ⟨rfl, -⟩ | ⟨mid, rfl, hmid⟩
  · simp [Unfailing]
  · simp at hmid

/-- what can follow the first event -/
theorem stops_cons {e : Event} (he : ¬ e.Fails) (h : Stops a) : Stops (e :: a) :=
  Stops.append (a := [e]) (by simpa [Unfailing] using he) h

end Trace

/-- a run that makes no call after a failed one, and meets no failure if it gives an answer -/
structure Run.FailStop (r : Run σ ε α) : Prop where
  unfailing : ∀ a, r.answer = .ok a → r.trace.Unfailing
  stops : r.trace.Stops

namespace Run.FailStop

variable {σ τ ε δ α β : Type} {act : Act σ ε α} {next : α → Act σ ε β} {s : σ} {r : Run σ ε α} {trace : Trace}

/-- a run that makes no call -/
theorem quiet (h : r.trace.Quiet) : r.FailStop := ⟨fun _ _ => h.unfailing, h.unfailing.stops⟩

/-- a run that gives no answer -/
theorem of_error {e : ε} (herror : r.answer = .error e) (h : r.trace.Stops) : r.FailStop where
  unfailing a hanswer := by rw [herror] at hanswer; cases hanswer
  stops := h

/-- a run after events that did not fail -/
theorem after (ha : trace.Unfailing) (h : r.FailStop) : (r.after trace).FailStop where
  unfailing a hanswer := ha.append (h.unfailing a hanswer)
  stops := .append ha h.stops

theorem bind (h : (act s).FailStop) (hnext : ∀ a s', (next a s').FailStop) : ((act >>= next) s).FailStop := by
  rcases hact : act s with ⟨e | a, s', trace⟩
  · rw [hact] at h
    rw [Act.run_bind_error hact]
    exact .of_error rfl h.stops
  · rw [hact] at h
    rw [Act.run_bind_ok hact]
    exact (hnext a s').after (h.unfailing a rfl)

/-- an act whose failure is told without a further call -/
theorem rescue {handler : ε → Act σ δ α} (h : (act s).FailStop)
    (hquiet : ∀ e s', (handler e s').trace.Quiet ∧ ∃ d, (handler e s').answer = .error d) :
    ((act.rescue handler) s).FailStop := by
  rcases hact : act s with ⟨e | a, s', trace⟩
  · rw [hact] at h
    simp only [Act.rescue, hact]
    obtain ⟨hsilent, d, herror⟩ := hquiet e s'
    exact .of_error herror (h.stops.quiet hsilent)
  · rw [hact] at h
    simp only [Act.rescue, hact]
    exact ⟨fun _ _ => h.unfailing a rfl, h.stops⟩

theorem within {part : τ → σ} {put : σ → τ → τ} {t : τ} (h : (act (part t)).FailStop) :
    ((act.within part put) t).FailStop :=
  ⟨h.unfailing, h.stops⟩

end Run.FailStop

/-! ## Writing -/

namespace Outflow

theorem failStop_writeAll (port : Port) (bytes : Bytes) (outflow : Outflow) :
    (writeAll port bytes outflow).FailStop := by
  fun_induction writeAll port bytes outflow with
  | case1 => exact .quiet (by simp [Trace.Quiet])
  | case2 => exact .of_error rfl (Trace.stops_singleton _)
  | case3 b rest outflow c taken later met ih => exact ih.after (by simp [Trace.Unfailing, Event.Fails])
  | case4 b rest outflow cause later met again ih =>
    have hretry : cause.retryable = true := by
      simp only [reissues, Bool.and_eq_true] at again
      exact again.1
    exact ih.after (by simp [Trace.Unfailing, Event.Fails, hretry])
  | case5 => exact .of_error rfl (Trace.stops_singleton _)

theorem failStop_flush (port : Port) (outflow : Outflow) : (flush port outflow).FailStop := by
  obtain ⟨answer, later, hflush⟩ := flush_eq port outflow
  rw [hflush]
  refine ⟨fun a hanswer => ?_, Trace.stops_singleton _⟩
  obtain rfl : answer = .ok a := hanswer
  simp [Trace.Unfailing, Event.Fails]

theorem failStop_deliver (bytes : Bytes) (outflow : Outflow) : (deliver bytes outflow).FailStop := by
  have hraise : ∀ activity cause (s : Outflow),
      (LinkError.raise (α := Unit) (.transport activity cause) s).trace.Quiet ∧
        ∃ d, (LinkError.raise (α := Unit) (.transport activity cause) s).answer = .error d :=
    fun activity cause s => ⟨by simp [Trace.Quiet, LinkError.raise, Event.on?], _, rfl⟩
  exact .bind (.rescue (failStop_writeAll _ _ _) (hraise _)) fun _ s => .rescue (failStop_flush _ s) (hraise _)

end Outflow

/-! ## Reading -/

namespace Frame

variable {want size start : Nat} {inflow : Inflow}

/-- filling a buffer stops at its first failure, and has met none if the buffer is full -/
theorem failStop_fill (want : Nat) (inflow : Inflow) :
    (fill want inflow).trace.Stops ∧
      ∀ piece, (fill want inflow).answer = .ok piece → want ≤ piece.length → (fill want inflow).trace.Unfailing := by
  apply fill_induction (motive := fun want _ r =>
    r.trace.Stops ∧ ∀ piece, r.answer = .ok piece → want ≤ piece.length → r.trace.Unfailing)
  · intro inflow
    exact ⟨Trace.Unfailing.stops (by simp [Trace.Unfailing]), fun _ _ _ => by simp [Trace.Unfailing]⟩
  · intro want inflow later hwant met
    refine ⟨Trace.stops_singleton _, fun piece hanswer hfull => ?_⟩
    obtain rfl : [] = piece := by simpa using hanswer
    exact absurd (Nat.le_zero.1 hfull) hwant
  · intro want inflow later b bs r hwant met ih
    have hread : ¬ (Event.read want (.ok (b :: bs))).Fails := by simp [Event.Fails]
    refine ⟨Trace.stops_cons hread ih.1, fun piece hanswer hfull => ?_⟩
    cases hrest : r.answer with
    | error e => simp [hrest, Except.map] at hanswer
    | ok rest =>
      obtain rfl : b :: bs ++ rest = piece := by simpa [hrest, Except.map] using hanswer
      rw [List.length_append] at hfull
      exact Trace.Unfailing.append (a := [_]) (by simpa [Trace.Unfailing] using hread) (ih.2 rest hrest (by omega))
  · intro want inflow later cause r hwant met again ih
    have hread : Trace.Unfailing [.read want (.error cause), .counted .readInterrupted 1] := by
      simp [Trace.Unfailing, Event.Fails, again]
    exact ⟨.append hread ih.1, fun piece hanswer hfull => hread.append (ih.2 piece hanswer hfull)⟩
  · intro want inflow later cause hwant met last
    refine ⟨?_, fun piece hanswer => by cases hanswer⟩
    exact (Trace.stops_singleton (.read want (.error cause))).quiet (b := [.counted .transportError 1])
      (by simp [Trace.Quiet, Event.on?])

theorem failStop_payload (size start : Nat) (inflow : Inflow) : (payload size start inflow).FailStop := by
  have hgrow : ∀ n, ¬ (Event.reserved n).Fails := fun n h => h
  apply payload_induction (motive := fun _ _ r => r.FailStop)
  · intro start inflow h
    exact .quiet (by simp [Trace.Quiet])
  · intro start inflow e later trace h met
    have hfill := (failStop_fill (growth size start) inflow).1
    rw [met] at hfill
    exact .of_error rfl (Trace.stops_cons (hgrow _) hfill)
  · intro start inflow piece later trace h met hlen
    have hfill := (failStop_fill (growth size start) inflow).1
    rw [met] at hfill
    refine .of_error rfl ?_
    exact (Trace.stops_cons (hgrow _) hfill).quiet (b := [.counted .connectionLost 1])
      (by simp [Trace.Quiet, Event.on?])
  · intro start inflow piece later trace r h met hlen ih
    have hfill := (failStop_fill (growth size start) inflow).2 piece
    rw [met] at hfill
    have hclean : Trace.Unfailing (.reserved (start + growth size start) :: trace) :=
      Trace.Unfailing.append (a := [_]) (by simpa [Trace.Unfailing] using hgrow _) (hfill rfl (Nat.not_lt.1 hlen))
    refine ⟨fun a hanswer => ?_, .append hclean ih.stops⟩
    cases hrest : r.answer with
    | error e => simp [hrest, Except.map] at hanswer
    | ok rest => exact hclean.append (ih.unfailing rest hrest)

/-- reading a frame stops at its first failure -/
theorem failStop_read (limit : Nat) (inflow : Inflow) : (read limit inflow).FailStop := by
  have hfill := failStop_fill headerSize inflow
  rcases met : fill headerSize inflow with ⟨e | head, later, trace⟩
  · rw [met] at hfill
    rw [read_failed met]
    exact .of_error rfl hfill.1
  · rw [met] at hfill
    by_cases hlen : head.length < headerSize
    · rw [read_short met hlen]
      exact .of_error rfl (hfill.1.quiet (by simp [Trace.Quiet, Event.on?]))
    · by_cases hlimit : declared head > limit
      · rw [read_tooLarge met hlen hlimit]
        exact .of_error rfl (hfill.1.quiet (by simp [Trace.Quiet, Event.on?]))
      · rw [read_payload met hlen hlimit]
        exact (failStop_payload _ 0 later).after (hfill.2 head rfl (Nat.not_lt.1 hlen))

end Frame

end QueryConsole
