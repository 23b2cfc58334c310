import QueryConsole.Proofs.Flow.Delivery
import QueryConsole.Proofs.Flow.FrameSequence

/-
Frames written one after the other, to a writer that may die at any byte.

Somebody who writes payloads as frames goes on until a call fails (`Act.upToFailure`). A call is acknowledged exactly if
the whole frame was taken and the one flush after it succeeded (`Attempt`). So what the writer has taken in the end is
the frames that were acknowledged, and of the next one a strict front part if the failure was in a write, and all of it
if it was in the flush (`WrittenOut`). Whoever reads these bytes back neither misses an acknowledged payload nor gets
one that was not written as a whole.

Results:
- `attempt_write`: how far one call comes.
- `writtenOut_writes`: all calls up to the first failure, by induction on the payloads.
- `WrittenOut.cut`: the bytes taken are the stream of all frames, cut after the last whole one.
- `written_read_back`: the calls, their bytes, and what is read back from them.
-/

namespace QueryConsole

/-! ## Up to the first failure -/

namespace Act

variable {σ ε α : Type} {act : Act σ ε α} {s s' : σ} {trace : Trace}

/-- acts one after the other until one of them fails; each begins in the state that the one before it left -/
def upToFailure : List (Act σ ε α) → σ → List (Run σ ε α)
  | [], _ => []
  | act :: later, s =>
    match act s with
    | ⟨.ok a, s', trace⟩ => ⟨.ok a, s', trace⟩ :: upToFailure later s'
    | ⟨.error e, s', trace⟩ => [⟨.error e, s', trace⟩]

theorem upToFailure_ok {a : α} (h : act s = ⟨.ok a, s', trace⟩) (later : List (Act σ ε α)) :
    upToFailure (act :: later) s = ⟨.ok a, s', trace⟩ :: upToFailure later s' := by
  simp only [upToFailure, h]

theorem upToFailure_error {e : ε} (h : act s = ⟨.error e, s', trace⟩) (later : List (Act σ ε α)) :
    upToFailure (act :: later) s = [⟨.error e, s', trace⟩] := by
  simp only [upToFailure, h]

end Act

/-! ## The flushes of a trace -/

/-- what the event was answered, if it is a flush of the port -/
def Event.flushAnswer? (port : Port) : Event → Option (Except IoError Unit)
  | .flushed p answer => if p = port then some answer else none
  | _ => none

namespace Trace

/-- what the flushes of a port were answered, in order -/
def flushAnswers (port : Port) (trace : Trace) : List (Except IoError Unit) :=
  trace.filterMap (Event.flushAnswer? port)

@[simp] theorem flushAnswers_append (port : Port) (a b : Trace) :
    flushAnswers port (a ++ b) = flushAnswers port a ++ flushAnswers port b := List.filterMap_append ..

/-- writes flush nothing and count nothing -/
theorem views_of_writes {port : Port} {writes : Trace} (h : ∀ event ∈ writes, ∃ taken, event = .wrote port taken) :
    flushAnswers port writes = [] ∧ total .framesWritten writes = 0 := by
  induction writes with
  | nil => exact ⟨rfl, rfl⟩
  | cons event later ih =>
    obtain ⟨⟨taken, rfl⟩, hlater⟩ := List.forall_mem_cons.1 h
    obtain ⟨hflushes, htotal⟩ := ih hlater
    exact ⟨hflushes, (Nat.zero_add _).trans htotal⟩

end Trace

namespace Frame

variable {payload frame bytes : Bytes} {payloads frames : List Bytes} {answer : Except LinkError Unit} {trace : Trace}

/-! ## One call -/

/-- how far a call to write a frame comes: it is acknowledged, or it fails in a write or in the flush -/
inductive Attempt (frame : Bytes) (trace : Trace) : Except LinkError Unit → Prop
  | acknowledged (taken : Trace.taken .link trace = frame) (flushed : trace.flushAnswers .link = [.ok ()])
    (counted : Trace.total .framesWritten trace = 1) : Attempt frame trace (.ok ())
  | write (cause : IoError) (part : Trace.taken .link trace <+: frame) (strict : Trace.taken .link trace ≠ frame)
    (flushed : trace.flushAnswers .link = []) (counted : Trace.total .framesWritten trace = 0) :
    Attempt frame trace (.error (.transport "write" cause))
  | flush (cause : IoError) (taken : Trace.taken .link trace = frame)
    (flushed : trace.flushAnswers .link = [.error cause]) (counted : Trace.total .framesWritten trace = 0) :
    Attempt frame trace (.error (.transport "flush" cause))

/-- **A call is acknowledged exactly if the whole frame was taken and its one flush succeeded.** -/
theorem Attempt.ok_iff (h : Attempt frame trace answer) :
    answer = .ok () ↔ Trace.taken .link trace = frame ∧ trace.flushAnswers .link = [.ok ()] := by
  cases h with
  | acknowledged taken flushed => simp [taken, flushed]
  | write cause part strict flushed => simp [strict]
  | flush cause taken flushed => simp [flushed]

theorem attempt_write (h : encode payload = .ok frame) (outflow : Outflow) :
    Attempt frame (write payload outflow).trace (write payload outflow).answer := by
  obtain ⟨later, writes, hwrites, hshape⟩ := Outflow.deliver_shape frame outflow
  obtain ⟨hflushes, htotal⟩ := Trace.views_of_writes hwrites
  simp only [write, h]
  rcases hshape with ⟨hdeliver, htaken⟩ | ⟨e, before, last, hdeliver, hrefused, hlast⟩
  · rw [Act.run_bind_ok hdeliver, Act.run_record]
    refine .acknowledged ?_ ?_ ?_
    · simpa [Event.taken] using htaken
    · rw [Run.trace_after, List.append_assoc, Trace.flushAnswers_append, hflushes]
      rfl
    · rw [Run.trace_after, List.append_assoc, Trace.total_append, htotal]
      rfl
  · -- what is noted about a failure is no call
    rw [Act.run_bind_error hdeliver, List.append_cons]
    have htaken : Trace.taken .link (before ++ [last] ++ [.counted .transportError 1]) =
        Trace.taken .link (before ++ [last]) := by simp [Event.taken]
    have hcalls : Trace.flushAnswers .link (before ++ [last] ++ [.counted .transportError 1]) =
        Trace.flushAnswers .link (before ++ [last]) := by
      rw [Trace.flushAnswers_append]
      exact List.append_nil _
    have hcount : Trace.total .framesWritten (before ++ [last] ++ [.counted .transportError 1]) =
        Trace.total .framesWritten (before ++ [last]) := Trace.total_append ..
    rcases hlast with rfl | ⟨cause, rfl, rfl⟩
    · cases hrefused with
      | write cause part strict =>
        exact .write cause (htaken ▸ part) (htaken ▸ strict) (hcalls.trans hflushes) (hcount.trans htotal)
      | nothing part strict =>
        exact .write .nothingTaken (htaken ▸ part) (htaken ▸ strict) (hcalls.trans hflushes) (hcount.trans htotal)
      | flush cause whole =>
        obtain ⟨taken, hflush⟩ := hwrites (.flushed .link (.error cause)) (by simp)
        cases hflush
    · cases hrefused with
      | flush _ whole =>
        refine .flush cause (htaken.trans whole) ?_ ?_
        · rw [hcalls, Trace.flushAnswers_append, hflushes]
          rfl
        · rw [hcount, Trace.total_append, htotal]
          rfl

/-! ## All calls -/

/-- what writing frames comes to when `k` of them are acknowledged: what the calls were answered, the bytes that were
taken, and how many whole frames there are among them -/
inductive WrittenOut (frames : List Bytes) (k : Nat) : List (Except LinkError Unit) → Bytes → Nat → Prop
  | all (last : k = frames.length) : WrittenOut frames k (List.replicate k (.ok ())) frames.flatten k
  | write {frame part : Bytes} (cause : IoError) (next : frames[k]? = some frame) (front : part <+: frame)
    (strict : part ≠ frame) :
    WrittenOut frames k (List.replicate k (.ok ()) ++ [.error (.transport "write" cause)])
      ((frames.take k).flatten ++ part) k
  | flush {frame : Bytes} (cause : IoError) (next : frames[k]? = some frame) :
    WrittenOut frames k (List.replicate k (.ok ()) ++ [.error (.transport "flush" cause)])
      ((frames.take k).flatten ++ frame) (k + 1)

/-- a frame that is acknowledged comes before the others -/
theorem WrittenOut.cons {k n : Nat} {answers : List (Except LinkError Unit)} (h : WrittenOut frames k answers bytes n)
    (frame : Bytes) : WrittenOut (frame :: frames) (k + 1) (.ok () :: answers) (frame ++ bytes) (n + 1) := by
  cases h with
  | all last => exact .all (congrArg (· + 1) last)
  | write cause next front strict =>
    rw [← List.append_assoc]
    exact .write cause next front strict
  | flush cause next =>
    rw [← List.append_assoc]
    exact .flush cause next

/-- **All calls up to the first failure.** -/
theorem writtenOut_writes (h : payloads.map encode = frames.map .ok) (outflow : Outflow) :
    let runs := Act.upToFailure (payloads.map write) outflow
    ∃ k n, WrittenOut frames k (runs.map (·.answer)) (Trace.taken .link (Run.wholeTrace runs)) n ∧
      Trace.total .framesWritten (Run.wholeTrace runs) = k ∧
      ∀ call ∈ runs.zip frames, Attempt call.2 call.1.trace call.1.answer := by
  induction payloads generalizing frames outflow with
  | nil =>
    obtain rfl : frames = [] := by simpa using h.symm
    exact ⟨0, 0, .all rfl, rfl, by simp⟩
  | cons payload payloads ih =>
    obtain _ | ⟨frame, frames⟩ := frames
    · cases h
    obtain ⟨hframe, hframes⟩ := List.cons_eq_cons.1 h
    have hattempt := attempt_write hframe outflow
    rcases hrun : write payload outflow with ⟨e | _, later, trace⟩
    · rw [hrun] at hattempt
      simp only [List.map_cons, Act.upToFailure_error hrun, Run.wholeTrace_cons, Run.wholeTrace_nil, List.append_nil,
        List.map_nil, List.zip_cons_cons, List.zip_nil_left, List.forall_mem_singleton]
      have hfirst := hattempt
      cases hattempt with
      | write cause part strict flushed counted => exact ⟨0, 0, .write cause rfl part strict, counted, hfirst⟩
      | flush cause taken flushed counted =>
        refine ⟨0, 1, ?_, counted, hfirst⟩
        rw [taken]
        exact .flush cause rfl
    · rw [hrun] at hattempt
      obtain ⟨k, n, hwritten, hcounted, hlater⟩ := ih hframes later
      simp only [List.map_cons, Act.upToFailure_ok hrun, Run.wholeTrace_cons, Trace.taken_append, Trace.total_append,
        List.zip_cons_cons, List.forall_mem_cons]
      have hfirst := hattempt
      cases hattempt with
      | acknowledged taken flushed counted =>
        rw [taken, counted, hcounted, Nat.add_comm]
        exact ⟨k + 1, n + 1, hwritten.cons frame, rfl, hfirst, hlater⟩

/-! ## What is read back -/

/-- **The bytes taken are the stream of all frames, cut after the last whole one.** -/
theorem WrittenOut.cut {k n : Nat} {answers : List (Except LinkError Unit)} (h : WrittenOut frames k answers bytes n)
    (hframes : ∀ f ∈ frames, 0 < f.length) : bytes <+: frames.flatten ∧ endingBy bytes.length frames = n := by
  have hsplit : ∀ {frame : Bytes}, frames[k]? = some frame →
      (frames.take k).flatten ++ frame <+: frames.flatten := by
    intro frame hnext
    refine ⟨(frames.drop (k + 1)).flatten, ?_⟩
    obtain ⟨hk, rfl⟩ := List.getElem?_eq_some_iff.1 hnext
    rw [List.append_assoc, ← List.flatten_cons, ← List.drop_eq_getElem_cons hk, ← List.flatten_append,
      List.take_append_drop]
  cases h with
  | all last => exact ⟨List.prefix_refl _, by rw [endingBy_length, last]⟩
  | @write frame part cause next front strict =>
    have hlt : part.length < frame.length :=
      lt_of_le_of_ne front.length_le fun heq => strict (front.eq_of_length heq)
    have hk : k ≤ frames.length := (List.getElem?_eq_some_iff.1 next).1.le
    refine ⟨((List.prefix_append_right_inj _).2 front).trans (hsplit next), ?_⟩
    rw [List.length_append]
    refine endingBy_within hk fun f hf => ?_
    rw [next] at hf
    obtain rfl : frame = f := Option.some.inj hf
    exact hlt
  | @flush frame cause next =>
    obtain ⟨hk, rfl⟩ := List.getElem?_eq_some_iff.1 next
    refine ⟨hsplit next, ?_⟩
    have hwhole : (frames.take k).flatten ++ frames[k] = (frames.take (k + 1)).flatten := by
      rw [List.take_add_one, List.getElem?_eq_getElem hk, List.flatten_append]
      simp
    rw [hwhole]
    exact endingBy_within (n := 0) hk fun f hf => hframes f (List.mem_of_getElem? hf)

/-- **A writer that fails never yields a false frame.** Payloads that are not too long are written as frames until a
call fails, to a writer that may take any part of each write, interrupt it, take nothing, fail, or fail to flush. Then:
- a call is acknowledged exactly if its whole frame was taken and its one flush succeeded;
- the bytes taken are the frames of the `k` acknowledged payloads, then of the next one a strict front part if the
  failure was in a write, and all of it if it was in the flush, and nothing if there was no failure; and `k` frames were
  counted as written;
- read back, however they are cut into pieces, they give the acknowledged payloads, the next one only if its flush
  failed, and then a failure that tells where the stream ends. -/
theorem written_read_back (payloads : List Bytes) (hsize : ∀ p ∈ payloads, p.length ≤ largest) (outflow : Outflow) :
    let runs := Act.upToFailure (payloads.map write) outflow
    let taken := Trace.taken .link (Run.wholeTrace runs)
    ∃ frames k n, payloads.map encode = frames.map .ok ∧
      (∀ call ∈ runs.zip frames,
        call.1.answer = .ok () ↔ Trace.taken .link call.1.trace = call.2 ∧
          call.1.trace.flushAnswers .link = [.ok ()]) ∧
      WrittenOut frames k (runs.map (·.answer)) taken n ∧
      Trace.total .framesWritten (Run.wholeTrace runs) = k ∧
      ∀ limit, (∀ p ∈ payloads, p.length ≤ limit) → ∀ inflow : Inflow, inflow.coming = ⟨taken, none⟩ →
        ∃ e, Locates payloads frames n taken.length e ∧
          (Act.inTurn (List.replicate (n + 1) (read limit)) inflow).map (·.answer) =
            (payloads.take n).map .ok ++ [.error e] := by
  intro runs taken
  have hencode := map_encode hsize
  obtain ⟨k, n, hwritten, hcounted, hattempts⟩ := writtenOut_writes hencode outflow
  have hlengths : ∀ f ∈ payloads.map of, 0 < f.length := by
    intro f hf
    obtain ⟨p, -, rfl⟩ := List.mem_map.1 hf
    rw [length_of]
    exact Nat.lt_of_lt_of_le (by decide) (Nat.le_add_right headerSize _)
  obtain ⟨hfront, hending⟩ := hwritten.cut hlengths
  refine ⟨payloads.map of, k, n, hencode, fun call hcall => (hattempts call hcall).ok_iff, hwritten, hcounted,
    fun limit hlimit inflow hcoming => ?_⟩
  have hfit : ∀ p ∈ payloads, p.length ≤ largest ∧ p.length ≤ limit := fun p hp => ⟨hsize p hp, hlimit p hp⟩
  have hcut : taken = (payloads.map of).flatten.take taken.length := List.prefix_iff_eq_take.1 hfront
  rw [hcut] at hcoming
  obtain ⟨e, hplace, hanswers⟩ := reads_cut hfit hfront.length_le hcoming
  rw [hending] at hplace hanswers
  exact ⟨e, hplace, hanswers⟩

/-- a writer that takes the first frame in three writes, one of them interrupted, and dies in the flush of the second:
the second payload is read back, though it was not acknowledged -/
theorem written_read_back_unflushed :
    let payloads : List Bytes := [[104], [], [105, 106]]
    let outflow : Outflow := { intakes := [.takes 3, .refuses (.plain .interrupted)],
                               flushes := [.ok (), .error (.plain .brokenPipe)] }
    let runs := Act.upToFailure (payloads.map write) outflow
    let inflow : Inflow := { arrivals := [.bytes [1, 0, 0], .bytes [0, 104, 0, 0, 0, 0]] }
    (∀ p ∈ payloads, p.length ≤ largest) ∧ (∀ p ∈ payloads, p.length ≤ 10) ∧
      runs.map (·.answer) = [.ok (), .error (.transport "flush" (.plain .brokenPipe))] ∧
      ∃ frames e, WrittenOut frames 1 (runs.map (·.answer)) inflow.coming.bytes 2 ∧ Locates payloads frames 2 9 e ∧
        (Act.inTurn (List.replicate 3 (read 10)) inflow).map (·.answer) = [.ok [104], .ok [], .error e] := by
  intro payloads outflow runs inflow
  have hsize : ∀ p ∈ payloads, p.length ≤ largest := by decide
  have hlimit : ∀ p ∈ payloads, p.length ≤ 10 := by decide
  have hanswers : runs.map (·.answer) = [.ok (), .error (.transport "flush" (.plain .brokenPipe))] := by
    simp only [runs, payloads, outflow]
    cbv
  have htaken : Trace.taken .link (Run.wholeTrace runs) = [1, 0, 0, 0, 104, 0, 0, 0, 0] := by
    simp only [runs, payloads, outflow]
    cbv
  have hcounted : Trace.total .framesWritten (Run.wholeTrace runs) = 1 := by
    simp only [runs, payloads, outflow]
    cbv
  obtain ⟨frames, k, n, hframes, -, hwritten, hcount, hback⟩ := written_read_back payloads hsize outflow
  obtain rfl : [[1, 0, 0, 0, 104], [0, 0, 0, 0], [2, 0, 0, 0, 105, 106]] = frames :=
    List.map_injective_iff.2 (fun _ _ => Except.ok.inj) hframes
  obtain rfl : 1 = k := hcounted.symm.trans hcount
  obtain ⟨-, hending⟩ := hwritten.cut (by decide)
  rw [htaken] at hending hwritten hback
  obtain rfl : 2 = n := hending
  obtain ⟨e, hplace, hread⟩ := hback 10 hlimit inflow rfl
  exact ⟨hsize, hlimit, hanswers, _, e, hwritten, hplace, hread⟩

end Frame

end QueryConsole
