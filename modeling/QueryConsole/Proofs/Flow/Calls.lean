import QueryConsole.Proofs.Flow.Delivery
import QueryConsole.Proofs.Flow.FrameDecoding
import QueryConsole.Text.Blank

/-
The calls of a trace: what each is made on, and what they leave unflushed.

A call is what leaves the program: a read, a write, a flush, or asking for a line. Each is made on one of four objects:
the two directions of the link, the screen and the line source (`Object`). All other events are the program's own
notes. A part of the program often makes calls on one object only (`Trace.Only`), and then all views of the others pass
over it.

Results:
- `Only.taken_eq_nil`, `Only.received_eq_nil`, `Only.lines_eq_nil`, `Only.unflushed_append`: the views that pass over
  it.
- `unflushed_append`: a trace after one that is flushed leaves unflushed what it leaves alone.
- `Only.bind`, `Only.rescue`: how it follows acts.
- `only_writeAll`, `only_flush`, `only_deliver`, `only_read`: what the primitives make calls on.
- `unflushed_deliver`: a delivery that succeeds leaves nothing unflushed.
-/

namespace QueryConsole

/-- what a call is made on -/
inductive Object where
  /-- the bytes that arrive on the link -/
  | inward
  /-- the bytes that leave on the link -/
  | outward
  | screen
  | source
deriving DecidableEq, Repr

/-- what writes to a port are made on -/
def Port.object : Port → Object
  | .link => .outward
  | .screen => .screen

namespace Event

/-- what the event is a call on, if it is one -/
def on? : Event → Option Object
  | read .. => some .inward
  | wrote port _ | flushed port _ => some port.object
  | asked _ => some .source
  | _ => none

/-- the event is a call that leaves the program -/
def isCall (e : Event) : Bool := e.on?.isSome

/-- the lines to be sent that one event brought: blank lines are not -/
def line : Event → List String
  | asked (.ok (some text)) => if isBlank text then [] else [text]
  | _ => []

variable {e : Event} {port : Port}

theorem taken_eq_nil (h : e.on? ≠ some port.object) : e.taken port = [] ∧ e.isFlush port = false := by
  cases e with
  | wrote p answer =>
    have hne : p ≠ port := fun heq => h (heq ▸ rfl)
    exact ⟨by cases answer <;> simp [taken, hne], rfl⟩
  | flushed p answer =>
    have hne : p ≠ port := fun heq => h (heq ▸ rfl)
    exact ⟨rfl, by cases answer <;> simp [isFlush, hne]⟩
  | _ => exact ⟨rfl, rfl⟩

theorem line_eq_nil (h : e.on? ≠ some .source) : e.line = [] := by
  cases e with
  | asked => exact absurd rfl h
  | _ => rfl

end Event

namespace Trace

variable {o : Object} {port : Port} {a b past : Trace}

/-- the lines to be sent that asking for lines gave -/
def lines (trace : Trace) : List String := trace.flatMap Event.line

@[simp] theorem lines_append (a b : Trace) : lines (a ++ b) = lines a ++ lines b := by
  simp [lines]

/-- bytes that a port took since it was last flushed with success -/
def unflushed (port : Port) (trace : Trace) : Bytes :=
  trace.foldl (fun held e => if e.isFlush port then [] else held ++ e.taken port) []

/-- what is flushed has no part in what is left unflushed later -/
theorem unflushed_append (h : unflushed port a = []) (b : Trace) : unflushed port (a ++ b) = unflushed port b := by
  rw [unflushed, List.foldl_append, ← unflushed, h, unflushed]

theorem unflushed_concat_flush (port : Port) (a : Trace) : unflushed port (a ++ [.flushed port (.ok ())]) = [] := by
  simp [unflushed, Event.isFlush]

/-- no event of the trace is a call -/
def Quiet (trace : Trace) : Prop := ∀ e ∈ trace, e.on? = none

/-- the trace makes calls on one object only -/
def Only (o : Object) (trace : Trace) : Prop := ∀ e ∈ trace, e.on? = none ∨ e.on? = some o

theorem Quiet.only (h : Quiet a) : Only o a := fun e he => .inl (h e he)

theorem Quiet.append (ha : Quiet a) (hb : Quiet b) : Quiet (a ++ b) := by
  intro e he
  rcases List.mem_append.1 he with he | he
  · exact ha e he
  · exact hb e he

theorem Only.append (ha : Only o a) (hb : Only o b) : Only o (a ++ b) := by
  intro e he
  rcases List.mem_append.1 he with he | he
  · exact ha e he
  · exact hb e he

/-- calls on one object are not on another -/
theorem Only.ne (h : Only o a) {o' : Object} (hne : o ≠ o') : ∀ e ∈ a, e.on? ≠ some o' := by
  intro e he heq
  rcases h e he with hnone | hsome
  · rw [hnone] at heq
    cases heq
  · exact hne (Option.some.inj (hsome.symm.trans heq))

theorem Only.noRead (h : Only o a) (hne : o ≠ .inward) : NoRead a := by
  intro room got hread
  exact h.ne hne _ hread rfl

theorem Only.received_eq_nil (h : Only o a) (hne : o ≠ .inward) : received a = [] := (h.noRead hne).received_eq_nil

theorem Only.taken_eq_nil (h : Only o a) (hne : o ≠ port.object) : taken port a = [] := by
  rw [taken, List.flatMap_eq_nil_iff]
  exact fun e he => (Event.taken_eq_nil (h.ne hne e he)).1

theorem Quiet.taken_eq_nil (h : Quiet a) : taken port a = [] := by
  rw [taken, List.flatMap_eq_nil_iff]
  exact fun e he => (Event.taken_eq_nil (by simp [h e he])).1

theorem Only.lines_eq_nil (h : Only o a) (hne : o ≠ .source) : lines a = [] := by
  rw [lines, List.flatMap_eq_nil_iff]
  exact fun e he => Event.line_eq_nil (h.ne hne e he)

/-- calls on other objects change nothing about what a port holds -/
theorem Only.unflushed_append (h : Only o a) (hne : o ≠ port.object) (past : Trace) :
    unflushed port (past ++ a) = unflushed port past := by
  rw [unflushed, List.foldl_append, ← unflushed]
  generalize unflushed port past = held
  induction a with
  | nil => rfl
  | cons e a ih =>
    obtain ⟨htaken, hflush⟩ := Event.taken_eq_nil (h.ne hne e List.mem_cons_self)
    rw [List.foldl_cons, hflush, htaken, if_neg Bool.false_ne_true, List.append_nil]
    exact ih fun e he => h e (List.mem_cons_of_mem _ he)

/-! ## Following acts -/

variable {σ ε δ α β : Type} {act : Act σ ε α} {next : α → Act σ ε β} {s : σ}

theorem Only.bind (h : Only o (act s).trace) (hnext : ∀ a s', Only o (next a s').trace) :
    Only o ((act >>= next) s).trace := by
  rcases hact : act s with ⟨e | a, s', trace⟩
  · rw [hact] at h
    rwa [Act.run_bind_error hact]
  · rw [hact] at h
    rw [Act.run_bind_ok hact]
    exact h.append (hnext a s')

theorem Only.rescue {handler : ε → Act σ δ α} (h : Only o (act s).trace)
    (hhandler : ∀ e s', Only o (handler e s').trace) : Only o ((act.rescue handler) s).trace := by
  rcases hact : act s with ⟨e | a, s', trace⟩
  · rw [hact] at h
    simp only [Act.rescue, hact]
    exact h.append (hhandler e s')
  · rw [hact] at h
    simpa only [Act.rescue, hact] using h

end Trace

/-! ## Writing and reading -/

theorem LinkError.quiet_raise {σ α : Type} (e : LinkError) (s : σ) : (raise e s : Run σ LinkError α).trace.Quiet := by
  simp [raise, Trace.Quiet, Event.on?]

namespace Outflow

theorem only_writeAll (port : Port) (bytes : Bytes) (outflow : Outflow) :
    Trace.Only port.object (writeAll port bytes outflow).trace := by
  intro e he
  obtain ⟨taken, rfl⟩ := mem_writeAll he
  exact .inr rfl

theorem only_flush (port : Port) (outflow : Outflow) : Trace.Only port.object (flush port outflow).trace := by
  obtain ⟨answer, later, hflush⟩ := flush_eq port outflow
  simp [hflush, Trace.Only, Event.on?]

theorem only_deliver (bytes : Bytes) (outflow : Outflow) : Trace.Only .outward (deliver bytes outflow).trace :=
  .bind (.rescue (only_writeAll .link bytes outflow) fun _ s => (LinkError.quiet_raise _ s).only)
    fun _ s => .rescue (only_flush .link s) fun _ s => (LinkError.quiet_raise _ s).only

/-- a delivery that succeeds leaves nothing unflushed -/
theorem unflushed_deliver {bytes : Bytes} {outflow : Outflow} (h : (deliver bytes outflow).answer = .ok ()) :
    Trace.unflushed .link (deliver bytes outflow).trace = [] := by
  obtain ⟨later, writes, -, ⟨hdeliver, -⟩ | ⟨e, before, last, hdeliver, -⟩⟩ := deliver_shape bytes outflow
  · rw [hdeliver]
    exact Trace.unflushed_concat_flush .link writes
  · rw [hdeliver] at h
    cases h

end Outflow

theorem Frame.only_read (limit : Nat) (inflow : Inflow) : Trace.Only .inward (read limit inflow).trace := by
  intro e he
  have hreading := reading_read limit inflow e he
  cases e with
  | read => exact .inr rfl
  | reserved | counted => exact .inl rfl
  | _ => cases hreading

end QueryConsole
