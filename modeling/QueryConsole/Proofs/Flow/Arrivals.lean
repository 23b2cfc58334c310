import Mathlib.Tactic
import QueryConsole.Link.Stream

/-
What still comes from a direction, whatever the pieces it is cut into.

`Inflow.coming` flattens an inflow: the bytes that its reads will hand over before its first end, and the failure that
ends it (none if the peer closes its side). Interruptions are re-issued, so they leave no mark on it. One read takes a
piece off the front of what comes, or meets the end of it (`coming_of_read_bytes`, `coming_of_read_end`,
`coming_of_read_retry`, `coming_of_read_failure`).

`Trace.EachRead` speaks about every read of a trace at once: how many bytes came before it, and how much room it was
given. `Consumes need` is the contract of an act that needs so many bytes: it takes exactly the next `need` bytes, asks
for none beyond them, and meets the end if they are not there.

Results:
- `eachRead_append`, `eachRead_cons_read`: the reads of a trace, part by part.
- `Consumes.append`: acts one after the other need the sum of their needs.
- `Consumes.cut`: an act that met the end has consumed all there was, however much more was needed.
-/

namespace QueryConsole

/-! ## The flat view -/

/-- what still comes: bytes, and the failure that ends them; no failure: the peer closes its side -/
structure Coming where
  bytes : Bytes
  ending : Option IoError
deriving DecidableEq, Repr

namespace Coming

/-- what the read meets that finds no byte left -/
def last (coming : Coming) : Except IoError Bytes :=
  match coming.ending with
  | none => .ok []
  | some cause => .error cause

/-- the same with bytes before it -/
def after (piece : Bytes) (coming : Coming) : Coming := ⟨piece ++ coming.bytes, coming.ending⟩

/-- what comes after the first `n` bytes -/
def drop (n : Nat) (coming : Coming) : Coming := ⟨coming.bytes.drop n, coming.ending⟩

theorem drop_drop (m n : Nat) (coming : Coming) : (coming.drop m).drop n = coming.drop (m + n) := by
  simp [drop, List.drop_drop]

theorem drop_after (piece : Bytes) (n : Nat) (coming : Coming) :
    (coming.after piece).drop (piece.length + n) = coming.drop n := by
  simp [drop, after, List.drop_append]

end Coming

namespace Inflow

/-- what comes from some arrivals, read in chunks of at most `chunk` bytes -/
def comingFrom (chunk : Option Nat) : List Arrival → Coming
  | [] => ⟨[], none⟩
  | .failure cause :: later => if cause.retryable then comingFrom chunk later else ⟨[], some cause⟩
  | .bytes piece :: later =>
    if piece = [] ∨ chunk = some 0 then ⟨[], none⟩ else (comingFrom chunk later).after piece

/-- what comes from an inflow -/
def coming (inflow : Inflow) : Coming := comingFrom inflow.chunk inflow.arrivals

variable {room : Nat} {inflow later : Inflow} {cause : IoError} {b : UInt8} {piece : Bytes}

theorem most_eq_zero_iff (hroom : 0 < room) : inflow.most room = 0 ↔ inflow.chunk = some 0 := by
  unfold most
  split
  · simp [*]; omega
  · simp only [*, Option.some.injEq]; omega

theorem most_le (inflow : Inflow) (room : Nat) : inflow.most room ≤ room := by
  unfold most
  split
  · exact le_rfl
  · exact Nat.min_le_left _ _

theorem coming_of_read_end (hroom : 0 < room) (h : inflow.read room = (.ok [], later)) :
    inflow.coming = ⟨[], none⟩ := by
  obtain ⟨arrivals, chunk⟩ := inflow
  match arrivals with
  | [] => rfl
  | .failure cause :: rest => simp [read] at h
  | .bytes piece :: rest =>
    have hpiece : piece.take (most ⟨.bytes piece :: rest, chunk⟩ room) = [] := by
      simp only [read] at h
      split at h <;> simpa using congrArg Prod.fst h
    rw [List.take_eq_nil_iff, most_eq_zero_iff hroom] at hpiece
    simp only [coming, comingFrom, if_pos hpiece.symm]

theorem coming_of_read_bytes (h : inflow.read room = (.ok (b :: piece), later)) :
    inflow.coming = later.coming.after (b :: piece) ∧ (b :: piece).length ≤ room := by
  obtain ⟨arrivals, chunk⟩ := inflow
  match arrivals with
  | [] => simp [read] at h
  | .failure cause :: rest => simp [read] at h
  | .bytes whole :: rest =>
    set most := most ⟨.bytes whole :: rest, chunk⟩ room with hmost
    have hsplit := List.take_append_drop most whole
    have htaken : whole.take most = b :: piece := by
      simp only [read, ← hmost] at h
      split at h <;> simpa using congrArg Prod.fst h
    have hlen : (b :: piece).length ≤ room := by
      rw [← htaken]
      exact (List.length_take_le _ _).trans (most_le _ _)
    refine ⟨?_, hlen⟩
    have hchunk : chunk ≠ some 0 := by
      intro hc
      have : most = 0 := by simp [hmost, Inflow.most, hc]
      simp [this] at htaken
    simp only [read, ← hmost] at h
    split at h <;> next hdrop =>
      obtain rfl := (Prod.ext_iff.1 h).2
      rw [htaken, hdrop] at hsplit
      simp [coming, comingFrom, hchunk, Coming.after, ← hsplit]

theorem coming_of_read_retry (h : inflow.read room = (.error cause, later)) (again : cause.retryable = true) :
    inflow.coming = later.coming := by
  obtain ⟨arrivals, chunk⟩ := inflow
  match arrivals with
  | [] => simp [read] at h
  | .bytes piece :: rest => simp only [read] at h; split at h <;> cases h
  | .failure cause :: rest =>
    simp only [read, Prod.mk.injEq, Except.error.injEq] at h
    obtain ⟨rfl, rfl⟩ := h
    simp [coming, comingFrom, again]

theorem coming_of_read_failure (h : inflow.read room = (.error cause, later)) (last : ¬cause.retryable = true) :
    inflow.coming = ⟨[], some cause⟩ := by
  obtain ⟨arrivals, chunk⟩ := inflow
  match arrivals with
  | [] => simp [read] at h
  | .bytes piece :: rest => simp only [read] at h; split at h <;> cases h
  | .failure cause :: rest =>
    simp only [read, Prod.mk.injEq, Except.error.injEq] at h
    obtain ⟨rfl, rfl⟩ := h
    simp [coming, comingFrom, last]

end Inflow

/-! ## The reads of a trace -/

namespace Event

/-- the event is part of reading: a read itself, a buffer that grows, or a count -/
def isReading : Event → Bool
  | read .. | reserved _ | counted .. => true
  | _ => false

theorem received_eq_nil {e : Event} (h : ∀ room got, e ≠ .read room got) : e.received = [] := by
  cases e with
  | read room got => exact absurd rfl (h room got)
  | _ => rfl

end Event

namespace Trace

theorem taken_of_isReading {trace : Trace} (h : ∀ event ∈ trace, event.isReading = true) (port : Port) :
    taken port trace = [] := by
  rw [taken, List.flatMap_eq_nil_iff]
  intro event hmem
  have hreading := h event hmem
  cases event with
  | wrote => simp [Event.isReading] at hreading
  | _ => rfl

/-- the trace has no read -/
def NoRead (trace : Trace) : Prop := ∀ room got, .read room got ∉ trace

/-- every read of the trace begins as `p` allows: by the number of bytes read before it, and its room -/
def EachRead (p : Nat → Nat → Prop) (trace : Trace) : Prop :=
  ∀ before room got after, trace = before ++ .read room got :: after → p (received before).length room

variable {p q : Nat → Nat → Prop} {a b : Trace}

theorem EachRead.mono (h : EachRead p a) (hpq : ∀ got room, p got room → q got room) : EachRead q a :=
  fun before room got after ha => hpq _ _ (h before room got after ha)

@[simp] theorem noRead_nil : NoRead [] := by simp [NoRead]

@[simp] theorem noRead_cons {e : Event} : NoRead (e :: a) ↔ (∀ room got, e ≠ .read room got) ∧ NoRead a := by
  simp only [NoRead, List.mem_cons, not_or, forall_and]
  exact and_congr_left fun _ => forall₂_congr fun _ _ => ne_comm

@[simp] theorem noRead_append : NoRead (a ++ b) ↔ NoRead a ∧ NoRead b := by
  simp only [NoRead, List.mem_append, not_or, forall_and]

theorem NoRead.received_eq_nil (h : NoRead a) : received a = [] := by
  rw [received, List.flatMap_eq_nil_iff]
  intro e he
  apply Event.received_eq_nil
  rintro room got rfl
  exact h room got he

theorem NoRead.eachRead (h : NoRead a) : EachRead p a := by
  rintro before room got after rfl
  exact absurd (by simp) (h room got)

theorem eachRead_append :
    EachRead p (a ++ b) ↔ EachRead p a ∧ EachRead (fun got => p ((received a).length + got)) b := by
  refine ⟨fun h => ⟨?_, ?_⟩, fun ⟨ha, hb⟩ => ?_⟩
  · rintro before room got after rfl
    exact h before room got (after ++ b) (by simp)
  · rintro before room got after rfl
    simpa using h (a ++ before) room got after (by simp)
  · intro before room got after h
    rcases List.append_eq_append_iff.1 h with ⟨mid, rfl, hmid⟩ | ⟨mid, rfl, hmid⟩
    · simpa using hb mid room got after hmid
    · cases mid with
      | nil => simpa using hb [] room got after (by simpa using hmid.symm)
      | cons e rest =>
        obtain ⟨rfl, rfl⟩ : .read room got = e ∧ after = rest ++ b := by simpa using hmid
        exact ha before room got rest rfl

theorem eachRead_read {room : Nat} {got : Except IoError Bytes} : EachRead p [.read room got] ↔ p 0 room := by
  refine ⟨fun h => h [] room got [] rfl, fun h before room' got' after heq => ?_⟩
  cases before with
  | nil =>
    obtain ⟨⟨rfl, -⟩, -⟩ : (room = room' ∧ got = got') ∧ [] = after := by simpa using heq
    exact h
  | cons e rest => simp at heq

theorem eachRead_cons_read {room : Nat} {got : Except IoError Bytes} :
    EachRead p (.read room got :: a) ↔ p 0 room ∧ EachRead (fun n => p ((received [.read room got]).length + n)) a := by
  rw [← List.singleton_append, eachRead_append, eachRead_read]

end Trace

/-! ## Acts that need a number of bytes -/

variable {ε δ α β : Type}

/-- a run that needs the next `need` bytes: it takes them and asks for none beyond, or it meets the end before -/
structure Consumes (need : Nat) (inflow : Inflow) (r : Run Inflow ε α) : Prop where
  received : Trace.received r.trace = inflow.coming.bytes.take need
  reads : r.trace.EachRead fun got room => 0 < room ∧ got + room ≤ need
  left : need ≤ inflow.coming.bytes.length → r.state.coming = inflow.coming.drop need
  short : inflow.coming.bytes.length < need → ∃ room, .read room inflow.coming.last ∈ r.trace

namespace Consumes

variable {m n : Nat} {inflow : Inflow} {r : Run Inflow ε α} {r' : Run Inflow δ β}

/-- a run without reads needs nothing -/
theorem none (hstate : r.state = inflow) (h : r.trace.NoRead) : Consumes 0 inflow r where
  received := by rw [List.take_zero, h.received_eq_nil]
  reads := h.eachRead
  left _ := by simp [hstate, Coming.drop]
  short hlt := absurd hlt (Nat.not_lt_zero _)

/-- a run that wanted bytes and found the end -/
theorem of_end {ending : Option IoError} (quiet : Trace) (hn : 0 < n) (hcoming : inflow.coming = ⟨[], ending⟩)
    (htrace : r.trace = .read n inflow.coming.last :: quiet) (h : quiet.NoRead) :
    Consumes n inflow r where
  received := by
    cases ending <;> simp [htrace, hcoming, Coming.last, Event.received, h.received_eq_nil]
  reads := by
    rw [htrace, Trace.eachRead_cons_read]
    exact ⟨by omega, h.eachRead⟩
  left hle := by
    rw [hcoming] at hle
    exact absurd hle (by simp; omega)
  short _ := ⟨n, by simp [htrace]⟩

/-- a run that got bytes from its first read -/
theorem of_bytes {later : Inflow} {b : UInt8} {piece : Bytes} (met : inflow.read n = (.ok (b :: piece), later))
    (h : Consumes (n - (b :: piece).length) later r') (hstate : r.state = r'.state)
    (htrace : r.trace = .read n (.ok (b :: piece)) :: r'.trace) : Consumes n inflow r := by
  obtain ⟨hcoming, hlen⟩ := Inflow.coming_of_read_bytes met
  have hn : n = (b :: piece).length + (n - (b :: piece).length) := by omega
  refine ⟨?_, ?_, fun hle => ?_, fun hlt => ?_⟩
  · rw [htrace, Trace.received_cons, h.received, hcoming, Coming.after, List.take_append, List.take_of_length_le hlen]
    rfl
  · rw [htrace, Trace.eachRead_cons_read]
    refine ⟨by simp at hlen; omega, h.reads.mono fun got room hp => ⟨hp.1, ?_⟩⟩
    simp only [Trace.received_cons, Trace.received_nil, Event.received, List.append_nil]
    omega
  · rw [hstate, h.left (by simp [hcoming, Coming.after] at hle ⊢; omega), hcoming, ← Coming.drop_after, ← hn]
  · obtain ⟨room, hmem⟩ := h.short (by simp [hcoming, Coming.after] at hlt ⊢; omega)
    rw [htrace, hcoming]
    exact ⟨room, List.mem_cons_of_mem _ hmem⟩

/-- a run whose first read was interrupted -/
theorem of_retry {later : Inflow} {cause : IoError} {quiet : Trace} (hn : 0 < n)
    (hcoming : inflow.coming = later.coming) (h : Consumes n later r) (hquiet : quiet.NoRead) :
    Consumes n inflow (r.after (.read n (.error cause) :: quiet)) where
  received := by simp [h.received, hcoming, Event.received, hquiet.received_eq_nil]
  reads := by
    rw [Run.trace_after, List.cons_append, Trace.eachRead_cons_read, Trace.eachRead_append, hquiet.received_eq_nil]
    exact ⟨by omega, hquiet.eachRead, by simpa [Event.received] using h.reads⟩
  left hle := by
    rw [hcoming] at hle ⊢
    exact h.left hle
  short hlt := by
    rw [hcoming] at hlt ⊢
    obtain ⟨room, hmem⟩ := h.short hlt
    exact ⟨room, List.mem_append_right _ hmem⟩

/-- acts one after the other need the sum of their needs -/
theorem append (h : Consumes m inflow r) (enough : m ≤ inflow.coming.bytes.length) (h' : Consumes n r.state r') :
    Consumes (m + n) inflow (r'.after r.trace) where
  received := by
    have := h'.received
    rw [h.left enough] at this
    simp [h.received, this, Coming.drop, List.take_add]
  reads := by
    rw [Run.trace_after, Trace.eachRead_append]
    refine ⟨h.reads.mono fun got room hp => ⟨hp.1, by omega⟩, h'.reads.mono fun got room hp => ⟨hp.1, ?_⟩⟩
    rw [h.received, List.length_take]
    omega
  left hn := by
    have := h'.left
    rw [h.left enough] at this
    rw [Run.state_after, this (by simp [Coming.drop]; omega), Coming.drop_drop]
  short hn := by
    have := h'.short
    rw [h.left enough] at this
    obtain ⟨room, hmem⟩ := this (by simp [Coming.drop]; omega)
    exact ⟨room, List.mem_append_right _ hmem⟩

/-- what is done without a read, before and after, changes nothing -/
theorem pad (before behind : Trace) (h : Consumes n inflow r) (hstate : r'.state = r.state)
    (htrace : r'.trace = before ++ r.trace ++ behind) (hbefore : before.NoRead) (hbehind : behind.NoRead) :
    Consumes n inflow r' where
  received := by simp [htrace, h.received, hbefore.received_eq_nil, hbehind.received_eq_nil]
  reads := by
    rw [htrace, Trace.eachRead_append, Trace.eachRead_append, hbefore.received_eq_nil]
    exact ⟨⟨hbefore.eachRead, by simpa using h.reads⟩, hbehind.eachRead⟩
  left hle := by rw [hstate, h.left hle]
  short hlt := by
    obtain ⟨room, hmem⟩ := h.short hlt
    exact ⟨room, by simp [htrace, hmem]⟩

/-- a run that met the end has consumed all there was, however much more was needed -/
theorem cut (h : Consumes m inflow r) (hshort : inflow.coming.bytes.length < m) (hle : m ≤ n) :
    Consumes n inflow r where
  received := by rw [h.received, List.take_of_length_le (by omega), List.take_of_length_le (by omega)]
  reads := h.reads.mono fun got room hp => ⟨hp.1, by omega⟩
  left hn := by omega
  short _ := h.short hshort

end Consumes

end QueryConsole
