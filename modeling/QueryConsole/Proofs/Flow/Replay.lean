import QueryConsole.Proofs.Flow.FrameDecoding

/-
What reading does depends on what its reads meet, and on nothing else.

A reader that has come some way can be brought there again: `Trace.arrivals` collects what the reads of a trace met, and
an inflow of exactly these arrivals leads through the same trace. At its next read it may be given any bytes that fit
the room. This is what lets a reader be run against a peer whose bytes are not known beforehand.

A reader also keeps pace with its bytes (`Paced`): on a stream whose every read brings bytes, the number of events is
bounded by the number of bytes.

Results:
- `Replays.bind`, `Paced.bind`: both properties follow acts through `>>=`.
- `replays_read`, `paced_read`: reading a frame has both.
-/

namespace QueryConsole

/-! ## What reads met -/

namespace Event

/-- what a read met -/
def arrival? : Event → Option Arrival
  | read _ (.ok piece) => some (.bytes piece)
  | read _ (.error cause) => some (.failure cause)
  | _ => none

/-- the event can happen on a stream that neither ends nor fails: a read brings bytes or is interrupted, and whatever is
written is taken -/
def Delivers : Event → Prop
  | read _ (.ok piece) => piece ≠ []
  | read _ (.error cause) => cause.retryable = true
  | wrote _ (.error _) | flushed _ (.error _) => False
  | _ => True

instance : DecidablePred Delivers
  | read _ (.ok piece) => inferInstanceAs (Decidable (piece ≠ []))
  | read _ (.error cause) => inferInstanceAs (Decidable (cause.retryable = true))
  | wrote _ (.error _) | flushed _ (.error _) => isFalse id
  | wrote _ (.ok _) | flushed _ (.ok _) => isTrue trivial
  | reserved _ | asked _ | handled _ | counted _ _ | sampled _ | told _ => isTrue trivial

/-- the same, and no read is interrupted -/
def Prompt (e : Event) : Prop := e.Delivers ∧ ∀ room cause, e ≠ .read room (.error cause)

/-- the event is no write or flush that failed -/
def Works : Event → Prop
  | wrote _ (.error _) | flushed _ (.error _) => False
  | _ => True

theorem Works.delivers {e : Event} (h : e.Works) (hread : ∀ room got, e ≠ .read room got) : e.Delivers := by
  cases e with
  | read room got => exact absurd rfl (hread room got)
  | wrote port taken => cases taken <;> exact h
  | flushed port answer => cases answer <;> exact h
  | _ => trivial

theorem Works.prompt {e : Event} (h : e.Works) (hread : ∀ room got, e ≠ .read room got) : e.Prompt :=
  ⟨h.delivers hread, fun room cause => hread room (.error cause)⟩

/-- a read that is given what is there, as far as it has room -/
theorem prompt_read {room : Nat} {pending : Bytes} (hroom : 0 < room) (hpending : pending ≠ []) :
    (read room (.ok (pending.take room))).Prompt := by
  refine ⟨?_, fun _ _ h => by cases h⟩
  rw [Delivers, ne_eq, List.take_eq_nil_iff, not_or]
  exact ⟨hroom.ne', hpending⟩

theorem works_of_isReading {e : Event} (h : e.isReading = true) : e.Works := by
  cases e with
  | wrote | flushed => cases h
  | _ => trivial

end Event

namespace Trace

variable {a b before done : Trace} {e next : Event}

/-- what the reads of a trace met, in order -/
def arrivals (trace : Trace) : List Arrival := trace.filterMap Event.arrival?

@[simp] theorem arrivals_append (a b : Trace) : arrivals (a ++ b) = arrivals a ++ arrivals b := by
  simp [arrivals]

theorem NoRead.arrivals_eq_nil (h : NoRead a) : arrivals a = [] := by
  rw [arrivals, List.filterMap_eq_nil_iff]
  intro e he
  cases e with
  | read room got => exact absurd he (h room got)
  | _ => rfl

/-- what has been done of two traces: a part of the first, or all of it and a part of the second -/
theorem prefix_of_append (h : done <+: a ++ b) : done <+: a ∨ ∃ more, done = a ++ more ∧ more <+: b := by
  obtain ⟨rest, h⟩ := h
  rcases List.append_eq_append_iff.1 h with ⟨mid, rfl, -⟩ | ⟨mid, rfl, hmid⟩
  · exact .inl (List.prefix_append _ _)
  · exact .inr ⟨mid, rfl, rest, hmid.symm⟩

/-- the next event is the first one, or the first one has happened -/
theorem next_cons (h : before ++ [next] <+: e :: a) :
    (before = [] ∧ next = e) ∨ ∃ mid, before = e :: mid ∧ mid ++ [next] <+: a := by
  cases before with
  | nil => exact .inl ⟨rfl, by simpa using h⟩
  | cons c mid =>
    obtain ⟨rfl, hmid⟩ : c = e ∧ mid ++ [next] <+: a := by simpa using h
    exact .inr ⟨mid, rfl, hmid⟩

/-- the next event is one of the first trace, or it is one of the second and the first is done -/
theorem next_append (h : before ++ [next] <+: a ++ b) :
    before ++ [next] <+: a ∨ ∃ mid, before = a ++ mid ∧ mid ++ [next] <+: b := by
  induction a generalizing before with
  | nil => exact .inr ⟨before, rfl, h⟩
  | cons e a ih =>
    rcases next_cons h with ⟨rfl, rfl⟩ | ⟨mid, rfl, hmid⟩
    · exact .inl (by simp)
    · rcases ih hmid with hfirst | ⟨mid', rfl, hsecond⟩
      · exact .inl (by simpa using hfirst)
      · exact .inr ⟨mid', rfl, hsecond⟩

/-- every event of the trace has the property, given all that happened before it -/
def Each (p : Trace → Event → Prop) (past trace : Trace) : Prop :=
  ∀ before e, before ++ [e] <+: trace → p (past ++ before) e

theorem Each.append {p : Trace → Event → Prop} {past : Trace} (ha : Each p past a) (hb : Each p (past ++ a) b) :
    Each p past (a ++ b) := by
  intro before e hnext
  rcases next_append hnext with hfirst | ⟨mid, rfl, hsecond⟩
  · exact ha before e hfirst
  · rw [← List.append_assoc]
    exact hb mid e hsecond

/-- a part of a trace shows nothing in a view in which all of it shows nothing -/
theorem view_of_part_nil (view : Event → List β) (h : done <+: a) (ha : a.flatMap view = []) :
    done.flatMap view = [] := by
  obtain ⟨rest, rfl⟩ := h
  rw [List.flatMap_append] at ha
  exact (List.append_eq_nil_iff.1 ha).1

/-- a part of a trace shows what the only visible event of it shows, or nothing yet -/
theorem view_of_part (view : Event → List β) (h : done <+: a ++ e :: b) (ha : a.flatMap view = [])
    (hb : b.flatMap view = []) : done.flatMap view = [] ∨ done.flatMap view = view e := by
  rcases prefix_of_append h with hfirst | ⟨more, rfl, hmore⟩
  · exact .inl (view_of_part_nil view hfirst ha)
  · rcases List.prefix_cons_iff.1 hmore with rfl | ⟨last, rfl, hlast⟩
    · exact .inl (by rw [List.append_nil, ha])
    · refine .inr ?_
      rw [List.flatMap_append, List.flatMap_cons, ha, view_of_part_nil view hlast hb, List.append_nil,
        List.nil_append]

theorem NoRead.not_read {room : Nat} {got : Except IoError Bytes} (h : NoRead a) : ¬ before ++ [.read room got] <+: a :=
  fun hmem => h room got (hmem.subset (by simp))

end Trace

namespace Inflow

/-- what ends an inflow is not re-issued -/
theorem ending_final {inflow : Inflow} {cause : IoError} (h : inflow.coming.ending = some cause) :
    ¬ cause.retryable = true := by
  obtain ⟨arrivals, chunk⟩ := inflow
  simp only [coming] at h
  induction arrivals with
  | nil => simp [comingFrom] at h
  | cons arrival later ih =>
    cases arrival with
    | failure e =>
      by_cases again : e.retryable = true
      · simp only [comingFrom, if_pos again] at h
        exact ih h
      · simp only [comingFrom, if_neg again, Option.some.injEq] at h
        exact h ▸ again
    | bytes piece =>
      simp only [comingFrom] at h
      split_ifs at h
      exact ih h

theorem not_delivers_last (inflow : Inflow) (room : Nat) : ¬ (Event.read room inflow.coming.last).Delivers := by
  cases h : inflow.coming.ending with
  | none => simp [Coming.last, h, Event.Delivers]
  | some cause => simpa [Coming.last, h, Event.Delivers] using ending_final h

end Inflow

/-- what only meets bytes and interruptions finds as many bytes as it needs -/
theorem Consumes.enough {need : Nat} {inflow : Inflow} {r : Run Inflow ε α} (h : Consumes need inflow r)
    (hall : ∀ e ∈ r.trace, e.Delivers) : need ≤ inflow.coming.bytes.length := by
  by_contra hlt
  obtain ⟨room, hmem⟩ := h.short (Nat.not_le.1 hlt)
  exact inflow.not_delivers_last room (hall _ hmem)

theorem Inflow.read_fits {room : Nat} {piece : Bytes} (h : piece.length ≤ room) (more : List Arrival) :
    Inflow.read room { arrivals := .bytes piece :: more } = (.ok piece, { arrivals := more }) := by
  simp [read, most, List.drop_of_length_le h, List.take_of_length_le h]

theorem Inflow.read_failure (room : Nat) (cause : IoError) (more : List Arrival) :
    Inflow.read room { arrivals := .failure cause :: more } = (.error cause, { arrivals := more }) := rfl

/-- a read hands over no more than there is room for -/
theorem Inflow.length_read {room : Nat} {inflow later : Inflow} {piece : Bytes}
    (h : inflow.read room = (.ok piece, later)) : piece.length ≤ room := by
  cases piece with
  | nil => exact Nat.zero_le _
  | cons b piece => exact (coming_of_read_bytes h).2

/-! ## Acts that can be brought again to where they were -/

/-- an act that depends on what its reads meet, and on nothing else of the inflow -/
structure Replays (act : Act Inflow ε α) : Prop where
  /-- meeting the same, it does the same, and leaves what comes then -/
  whole : ∀ inflow more, act { arrivals := (act inflow).trace.arrivals ++ more } =
    ⟨(act inflow).answer, { arrivals := more }, (act inflow).trace⟩
  /-- meeting the same up to a read, it comes to this read, whatever comes then -/
  part : ∀ inflow before room got piece more, before ++ [.read room got] <+: (act inflow).trace →
    piece.length ≤ room →
    before ++ [.read room (.ok piece)] <+: (act { arrivals := Trace.arrivals before ++ .bytes piece :: more }).trace

namespace Replays

variable {act : Act Inflow ε α} {next : α → Act Inflow ε β}

/-- an act that reads nothing -/
theorem still {answer : Except ε α} {trace : Trace} (h : trace.NoRead) :
    Replays fun inflow => ⟨answer, inflow, trace⟩ where
  whole inflow more := by simp [h.arrivals_eq_nil]
  part inflow before room got piece more hread hlen := absurd hread h.not_read

theorem pure (a : α) : Replays (Pure.pure a : Act Inflow ε α) :=
  @still ε α (.ok a) [] Trace.noRead_nil

theorem raise (e : LinkError) : Replays (LinkError.raise e : Act Inflow LinkError α) :=
  @still LinkError α (.error e) [.counted e.counter 1] (by simp)

theorem record {trace : Trace} (h : trace.NoRead) : Replays (Act.record trace : Act Inflow ε Unit) :=
  @still ε Unit (.ok ()) trace h

theorem bind (h : Replays act) (hnext : ∀ a, Replays (next a)) : Replays (act >>= next) where
  whole inflow more := by
    have hwhole := h.whole inflow
    rcases hact : act inflow with ⟨e | a, later, trace⟩
    · rw [hact] at hwhole
      rw [Act.run_bind_error hact, Act.run_bind_error (hwhole more)]
    · rw [hact] at hwhole
      have hagain := (hnext a).whole later more
      rw [Act.run_bind_ok hact, Run.trace_after, Trace.arrivals_append, List.append_assoc, Act.run_bind_ok (hwhole _),
        hagain]
      rfl
  part inflow before room got piece more hread hlen := by
    have hwhole := h.whole inflow
    have hpart := h.part inflow before room got piece more
    -- the acts do what the first of them does, and maybe more
    have hfirst : ∀ inflow, (act inflow).trace <+: ((act >>= next) inflow).trace := by
      intro inflow
      rcases hact : act inflow with ⟨e | a, later, trace⟩
      · rw [Act.run_bind_error hact]
      · rw [Act.run_bind_ok hact]
        exact List.prefix_append _ _
    rcases hact : act inflow with ⟨e | a, later, trace⟩
    · rw [Act.run_bind_error hact] at hread
      rw [hact] at hpart
      exact (hpart hread hlen).trans (hfirst _)
    · rw [hact] at hpart hwhole
      rw [Act.run_bind_ok hact] at hread
      rcases Trace.next_append hread with hearly | ⟨mid, rfl, hlate⟩
      · exact (hpart hearly hlen).trans (hfirst _)
      · have hagain := (hnext a).part later mid room got piece more hlate hlen
        simp only [Trace.arrivals_append, List.append_assoc]
        rw [Act.run_bind_ok (hwhole _), Run.trace_after]
        exact (List.prefix_append_right_inj _).2 hagain

end Replays

namespace Frame

theorem fill_first {want : Nat} {piece : Bytes} (hwant : want ≠ 0) (hlen : piece.length ≤ want) (more : List Arrival) :
    [.read want (.ok piece)] <+: (fill want { arrivals := .bytes piece :: more }).trace := by
  have hfits := Inflow.read_fits hlen more
  cases piece with
  | nil => rw [fill_end hwant hfits]
  | cons b piece =>
    rw [fill_bytes hwant hfits]
    exact ⟨_, rfl⟩

/-- meeting the same, filling a buffer does the same -/
theorem fill_again (want : Nat) (inflow : Inflow) : ∀ more,
    fill want { arrivals := (fill want inflow).trace.arrivals ++ more } =
      ⟨(fill want inflow).answer, { arrivals := more }, (fill want inflow).trace⟩ := by
  apply fill_induction (motive := fun want inflow r => ∀ more,
    fill want { arrivals := r.trace.arrivals ++ more } = ⟨r.answer, { arrivals := more }, r.trace⟩)
  · intro inflow more
    exact fill_zero _
  · intro want inflow later hwant met more
    exact fill_end hwant (Inflow.read_fits (Nat.zero_le _) more)
  · intro want inflow later b piece r hwant met ih more
    have hfits := Inflow.read_fits (Inflow.length_read met) (r.trace.arrivals ++ more)
    exact (fill_bytes hwant hfits).trans (by rw [ih])
  · intro want inflow later cause r hwant met again ih more
    have hmet := Inflow.read_failure want cause (r.trace.arrivals ++ more)
    exact (fill_retry hwant hmet again).trans (by rw [ih]; rfl)
  · intro want inflow later cause hwant met last more
    exact fill_failure hwant (Inflow.read_failure want cause more) last

/-- meeting the same up to a read, filling a buffer comes to this read -/
theorem fill_up_to (want : Nat) (inflow : Inflow) : ∀ before room (got : Except IoError Bytes) piece more,
    before ++ [Event.read room got] <+: (fill want inflow).trace → piece.length ≤ room →
    before ++ [Event.read room (.ok piece)] <+:
      (fill want { arrivals := Trace.arrivals before ++ .bytes piece :: more }).trace := by
  apply fill_induction (motive := fun want inflow r => ∀ before room (got : Except IoError Bytes) piece more,
    before ++ [Event.read room got] <+: r.trace → piece.length ≤ room →
    before ++ [Event.read room (.ok piece)] <+:
      (fill want { arrivals := Trace.arrivals before ++ .bytes piece :: more }).trace)
  · intro inflow before room got piece more hread
    exact absurd hread (Trace.noRead_nil.not_read)
  · intro want inflow later hwant met before room got piece more hread hlen
    rcases Trace.next_cons hread with ⟨rfl, hnext⟩ | ⟨mid, rfl, hmid⟩
    · cases hnext
      exact fill_first hwant hlen more
    · exact absurd hmid (Trace.noRead_nil.not_read)
  · intro want inflow later b bs r hwant met ih before room got piece more hread hlen
    rcases Trace.next_cons hread with ⟨rfl, hnext⟩ | ⟨mid, rfl, hmid⟩
    · cases hnext
      exact fill_first hwant hlen more
    · have hfits := Inflow.read_fits (Inflow.length_read met) (Trace.arrivals mid ++ .bytes piece :: more)
      have hagain := ih mid room got piece more hmid hlen
      show _ <+: (fill want { arrivals := .bytes (b :: bs) :: (Trace.arrivals mid ++ .bytes piece :: more) }).trace
      rw [fill_bytes hwant hfits]
      simpa using hagain
  · intro want inflow later cause r hwant met again ih before room got piece more hread hlen
    rcases Trace.next_cons hread with ⟨rfl, hnext⟩ | ⟨mid, rfl, hmid⟩
    · cases hnext
      exact fill_first hwant hlen more
    · rcases Trace.next_cons hmid with ⟨rfl, hnext⟩ | ⟨mid, rfl, hrest⟩
      · cases hnext
      · have hagain := ih mid room got piece more hrest hlen
        show _ <+: (fill want { arrivals := .failure cause :: (Trace.arrivals mid ++ .bytes piece :: more) }).trace
        rw [fill_retry hwant (Inflow.read_failure want cause _) again]
        simpa using hagain
  · intro want inflow later cause hwant met last before room got piece more hread hlen
    rcases Trace.next_cons hread with ⟨rfl, hnext⟩ | ⟨mid, rfl, hmid⟩
    · cases hnext
      exact fill_first hwant hlen more
    · exact absurd hmid (Trace.NoRead.not_read (by simp))

theorem replays_fill (want : Nat) : Replays (fill want) := ⟨fill_again want, fill_up_to want⟩

theorem replays_payload (size start : Nat) : Replays (payload size start) := by
  induction hn : size - start using Nat.strong_induction_on generalizing start with
  | _ n ih =>
    subst hn
    rw [payload]
    split_ifs with h
    · refine (Replays.record (by simp)).bind fun _ => (replays_fill _).bind fun piece => ?_
      split_ifs
      · exact .raise _
      · have hlt : size - (start + growth size start) < size - start := by
          have := growth_pos h
          omega
        exact (ih _ hlt _ rfl).bind fun rest => .pure _
    · exact .pure _

/-- reading a frame depends on what its reads meet -/
theorem replays_read (limit : Nat) : Replays (read limit) := by
  refine (replays_fill _).bind fun head => ?_
  split_ifs
  · exact .raise _
  · exact .raise _
  · exact replays_payload _ _

end Frame

/-! ## Parties -/

/-- what somebody may have done who does `whole inflow` when `inflow` comes: a part of it -/
def Conduct (whole : Inflow → Trace) (done : Trace) : Prop := ∃ inflow, done <+: whole inflow

theorem Conduct.of_prefix {whole : Inflow → Trace} {done more : Trace} (h : Conduct whole more) (hpart : done <+: more) :
    Conduct whole done := by
  obtain ⟨inflow, hmore⟩ := h
  exact ⟨inflow, hpart.trans hmore⟩

/-- somebody who waits for nothing but bytes: what is written works, and a read asks for bytes and goes on with any -/
structure Responsive (whole : Inflow → Trace) : Prop where
  works : ∀ inflow, ∀ event ∈ whole inflow, event.Works
  reads : ∀ inflow before room got, before ++ [.read room got] <+: whole inflow →
    0 < room ∧ ∀ piece, piece.length ≤ room → Conduct whole (before ++ [.read room (.ok piece)])

/-- somebody who waits for nothing but bytes has come to the end, or does something that works, or waits for bytes -/
theorem Responsive.next {whole : Inflow → Trace} {done : Trace} {inflow : Inflow} (h : Responsive whole)
    (hdone : done <+: whole inflow) :
    done = whole inflow ∨
      (∃ event, event.Works ∧ (∀ room got, event ≠ .read room got) ∧ done ++ [event] <+: whole inflow) ∨
      ∃ room, 0 < room ∧ (∃ got, done ++ [.read room got] <+: whole inflow) ∧
        ∀ piece, piece.length ≤ room → Conduct whole (done ++ [.read room (.ok piece)]) := by
  obtain ⟨rest, hrest⟩ := hdone
  cases rest with
  | nil => exact .inl (by simpa using hrest)
  | cons event rest =>
    have hnext : done ++ [event] <+: whole inflow := ⟨rest, by simpa using hrest⟩
    by_cases hread : ∃ room got, event = .read room got
    · obtain ⟨room, got, rfl⟩ := hread
      obtain ⟨hroom, hany⟩ := h.reads inflow done room got hnext
      exact .inr (.inr ⟨room, hroom, ⟨got, hnext⟩, hany⟩)
    · have hworks := h.works inflow event (hnext.subset (by simp))
      exact .inr (.inl ⟨event, hworks, fun room got heq => hread ⟨room, got, heq⟩, hnext⟩)

/-! ## Acts that keep pace with their bytes -/

/-- however far the trace has come on a prompt stream, it has at most `rate` events for each byte and `cost` more -/
def Trace.Paced (rate cost : Nat) (trace : Trace) : Prop :=
  ∀ done, done <+: trace → (∀ e ∈ done, e.Prompt) → done.length ≤ rate * (Trace.received done).length + cost

namespace Trace

variable {rate cost cost' : Nat} {a b : Trace}

/-- a trace of at most `cost` events -/
theorem Paced.of_length (h : a.length ≤ cost) : Paced rate cost a := by
  intro done hdone _
  have := hdone.length_le
  omega

theorem Paced.mono {rate' : Nat} (h : Paced rate cost a) (hrate : rate ≤ rate') (hcost : cost ≤ cost') :
    Paced rate' cost' a := by
  intro done hdone hprompt
  have := h done hdone hprompt
  have := Nat.mul_le_mul_right (received done).length hrate
  omega

/-- one trace after the other costs what both cost -/
theorem Paced.append (h : Paced rate cost a) (h' : Paced rate cost' b) : Paced rate (cost + cost') (a ++ b) := by
  intro done hdone hprompt
  rcases prefix_of_append hdone with hfirst | ⟨more, rfl, hsecond⟩
  · have := h done hfirst hprompt
    omega
  · have := h a (List.prefix_refl a) fun e he => hprompt e (by simp [he])
    have := h' more hsecond fun e he => hprompt e (by simp [he])
    simp only [received_append, List.length_append, Nat.mul_add]
    omega

/-- a read that meets the end of its stream is not passed -/
theorem Paced.of_stuck {room : Nat} {got : Except IoError Bytes} (h : ¬ (Event.read room got).Prompt) :
    Paced rate cost (.read room got :: a) := by
  intro done hdone hprompt
  rcases List.prefix_cons_iff.1 hdone with rfl | ⟨rest, rfl, -⟩
  · simp
  · exact absurd (hprompt _ List.mem_cons_self) h

end Trace

namespace Frame

theorem paced_fill (want : Nat) (inflow : Inflow) : (fill want inflow).trace.Paced 1 0 := by
  apply fill_induction (motive := fun _ _ r => r.trace.Paced 1 0)
  · intro inflow
    exact .of_length (Nat.zero_le _)
  · intro want inflow later hwant met
    exact .of_stuck fun h => h.1 rfl
  · intro want inflow later b piece r hwant met ih done hdone hprompt
    rcases List.prefix_cons_iff.1 hdone with rfl | ⟨rest, rfl, hrest⟩
    · simp
    · have := ih rest hrest fun e he => hprompt e (List.mem_cons_of_mem _ he)
      simp only [Trace.received_cons, Event.received, List.length_append, List.length_cons]
      omega
  · intro want inflow later cause r hwant met again ih
    exact .of_stuck fun h => h.2 _ _ rfl
  · intro want inflow later cause hwant met last
    exact .of_stuck fun h => h.2 _ _ rfl

theorem paced_payload (size start : Nat) (inflow : Inflow) : (payload size start inflow).trace.Paced 2 2 := by
  have hgrow : ∀ start, Trace.Paced 2 1 [.reserved (start + growth size start)] := fun start => .of_length le_rfl
  apply payload_induction (motive := fun _ _ r => r.trace.Paced 2 2)
  · intro start inflow h
    exact .of_length (Nat.zero_le _)
  · intro start inflow e later trace h met
    have hfill : trace.Paced 1 0 := by simpa only [met] using paced_fill (growth size start) inflow
    have hpiece : Trace.Paced 2 1 trace := hfill.mono (by omega) (by omega)
    exact (hgrow start).append hpiece
  · intro start inflow piece later trace h met hlen
    have hfill : trace.Paced 1 0 := by simpa only [met] using paced_fill (growth size start) inflow
    have hpiece : Trace.Paced 2 0 trace := hfill.mono (by omega) le_rfl
    have hlost : Trace.Paced 2 1 [.counted .connectionLost 1] := .of_length le_rfl
    exact ((hgrow start).append hpiece).append hlost
  · intro start inflow piece later trace r h met hlen ih
    have hfill : trace.Paced 1 0 := by simpa only [met] using paced_fill (growth size start) inflow
    have hpiece : Trace.Paced 2 0 trace := hfill.mono (by omega) le_rfl
    have hreceived := (consumes_fill (growth size start) inflow).received
    rw [met] at hreceived
    intro done hdone hprompt
    rcases Trace.prefix_of_append hdone with hfirst | ⟨more, rfl, hsecond⟩
    · have := (hgrow start).append hpiece done hfirst hprompt
      omega
    · -- a piece of the payload that is whole pays for the growth of the buffer
      have henough := (fill_ok_full met hlen).1
      have hlength : growth size start = (Trace.received trace).length := by
        rw [hreceived, List.length_take_of_le henough]
      have := growth_pos h
      have := hfill trace (List.prefix_refl _) fun e he => hprompt e (by simp [he])
      have := ih more hsecond fun e he => hprompt e (by simp [he])
      simp only [Trace.received_append, Trace.received_cons, Event.received, List.nil_append, List.length_append,
        List.length_cons]
      omega

/-- reading a frame keeps pace with its bytes -/
theorem paced_read (limit : Nat) (inflow : Inflow) : (read limit inflow).trace.Paced 2 2 := by
  have hfill : (fill headerSize inflow).trace.Paced 2 0 := (paced_fill headerSize inflow).mono (by omega) le_rfl
  rcases met : fill headerSize inflow with ⟨e | head, later, trace⟩
  · rw [met] at hfill
    rw [read_failed met]
    exact hfill.mono le_rfl (by omega)
  · rw [met] at hfill
    by_cases hlen : head.length < headerSize
    · have hlost : Trace.Paced 2 2 [.counted .connectionLost 1] := .of_length (by decide)
      rw [read_short met hlen]
      exact hfill.append hlost
    · by_cases hlimit : declared head > limit
      · have hrefused : Trace.Paced 2 2 [.counted .frameTooLarge 1] := .of_length (by decide)
        rw [read_tooLarge met hlen hlimit]
        exact hfill.append hrefused
      · rw [read_payload met hlen hlimit]
        exact hfill.append (paced_payload _ 0 later)

end Frame

end QueryConsole
