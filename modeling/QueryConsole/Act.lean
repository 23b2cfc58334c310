import QueryConsole.Trace.Event

/-
Acts: parts of the program that change a state, leave a trace and end in a value or a failure.

An `Act σ ε α` takes a state and gives a `Run`: the answer, the state afterwards and the events of this act alone. Acts
are put together with `do`; a failure skips the rest and keeps the state and the events of what came before it.

Results:
- `run_pure`, `run_bind_ok`, `run_bind_error`: how acts follow each other.
- `run_bind_after`, `run_rescue_after`: the first events of an act are the first of what is made of it.
- `run_within`: an act on a part of a state leaves the rest alone.
- `begins_bind`: an act begins with its first part.
- `take_inTurn`, `getElem?_inTurn`: acts in turn may be cut anywhere.
- the monad laws (`LawfulMonad`).
-/

namespace QueryConsole

/-- what an act leaves -/
structure Run (σ ε α : Type) where
  answer : Except ε α
  state : σ
  trace : Trace

/-- a state goes in; an answer, the next state and the events of this act alone come out -/
def Act (σ ε α : Type) : Type := σ → Run σ ε α

namespace Run

/-- the same run with events before its own -/
def after (trace : Trace) (r : Run σ ε α) : Run σ ε α := { r with trace := trace ++ r.trace }

@[simp] theorem answer_after (trace : Trace) (r : Run σ ε α) : (r.after trace).answer = r.answer := rfl

@[simp] theorem state_after (trace : Trace) (r : Run σ ε α) : (r.after trace).state = r.state := rfl

/-- the state that the last of some runs left; `start` if there is none -/
def lastState (start : σ) : List (Run σ ε α) → σ
  | [] => start
  | r :: later => lastState r.state later

/-- all that some runs did, one after the other -/
def wholeTrace (runs : List (Run σ ε α)) : Trace := runs.flatMap (·.trace)

@[simp] theorem wholeTrace_nil : wholeTrace ([] : List (Run σ ε α)) = [] := rfl

@[simp] theorem wholeTrace_cons (r : Run σ ε α) (runs : List (Run σ ε α)) :
    wholeTrace (r :: runs) = r.trace ++ wholeTrace runs := rfl

@[simp] theorem trace_after (trace : Trace) (r : Run σ ε α) : (r.after trace).trace = trace ++ r.trace := rfl

end Run

namespace Act

variable {σ τ ε δ α β : Type}

/-- answer at once: the state stays and nothing happens -/
def pure (a : α) : Act σ ε α := fun s => ⟨.ok a, s, []⟩

/-- go on with the answer of an act; its failure is the failure of the whole -/
def bind (act : Act σ ε α) (next : α → Act σ ε β) : Act σ ε β := fun s =>
  match act s with
  | ⟨.ok a, s', trace⟩ => (next a s').after trace
  | ⟨.error e, s', trace⟩ => ⟨.error e, s', trace⟩

instance : Monad (Act σ ε) where
  pure := Act.pure
  bind := Act.bind

/-- end in a failure -/
def fail (e : ε) : Act σ ε α := fun s => ⟨.error e, s, []⟩

/-- add events to the trace -/
def record (trace : Trace) : Act σ ε Unit := fun s => ⟨.ok (), s, trace⟩

/-- answer with the state itself -/
def get : Act σ ε σ := fun s => ⟨.ok s, s, []⟩

/-- change the state without an event -/
def modify (f : σ → σ) : Act σ ε Unit := fun s => ⟨.ok (), f s, []⟩

/-- what follows a failure -/
def rescue (act : Act σ ε α) (handler : ε → Act σ δ α) : Act σ δ α := fun s =>
  match act s with
  | ⟨.ok a, s', trace⟩ => ⟨.ok a, s', trace⟩
  | ⟨.error e, s', trace⟩ => (handler e s').after trace

/-- an act on a part of the state -/
def within (part : τ → σ) (put : σ → τ → τ) (act : Act σ ε α) : Act τ ε α := fun t =>
  let r := act (part t)
  ⟨r.answer, put r.state t, r.trace⟩

/-- acts one after the other, going on after failures; each begins in the state that the one before it left -/
def inTurn : List (Act σ ε α) → σ → List (Run σ ε α)
  | [], _ => []
  | act :: later, s =>
    let r := act s
    r :: inTurn later r.state

/-! ## How acts follow each other -/

@[simp] theorem run_pure (a : α) (s : σ) : (Pure.pure a : Act σ ε α) s = ⟨.ok a, s, []⟩ := rfl

@[simp] theorem run_fail (e : ε) (s : σ) : (fail e : Act σ ε α) s = ⟨.error e, s, []⟩ := rfl

@[simp] theorem run_record (trace : Trace) (s : σ) : (record trace : Act σ ε Unit) s = ⟨.ok (), s, trace⟩ := rfl

@[simp] theorem run_get (s : σ) : (get : Act σ ε σ) s = ⟨.ok s, s, []⟩ := rfl

@[simp] theorem run_modify (f : σ → σ) (s : σ) : (modify f : Act σ ε Unit) s = ⟨.ok (), f s, []⟩ := rfl

theorem run_bind_ok {act : Act σ ε α} {next : α → Act σ ε β} {s s' : σ} {a : α} {trace : Trace}
    (h : act s = ⟨.ok a, s', trace⟩) : (act >>= next) s = (next a s').after trace := by
  show Act.bind act next s = _
  simp [Act.bind, h]

theorem run_bind_error {act : Act σ ε α} {next : α → Act σ ε β} {s s' : σ} {e : ε} {trace : Trace}
    (h : act s = ⟨.error e, s', trace⟩) : (act >>= next) s = ⟨.error e, s', trace⟩ := by
  show Act.bind act next s = _
  simp [Act.bind, h]

/-- events before an act stay before what follows it -/
theorem run_bind_after {act act' : Act σ ε α} {next : α → Act σ ε β} {s s' : σ} {trace : Trace}
    (h : act s = (act' s').after trace) : (act >>= next) s = ((act' >>= next) s').after trace := by
  rcases h' : act' s' with ⟨e | a, s'', later⟩
  · rw [h'] at h
    rw [run_bind_error h, run_bind_error h']
    rfl
  · rw [h'] at h
    rw [run_bind_ok h, run_bind_ok h']
    simp [Run.after]

theorem run_rescue_after {act act' : Act σ ε α} {handler : ε → Act σ δ α} {s s' : σ} {trace : Trace}
    (h : act s = (act' s').after trace) : act.rescue handler s = (act'.rescue handler s').after trace := by
  rcases h' : act' s' with ⟨e | a, s'', later⟩ <;> simp [rescue, h, h', Run.after]

/-- a change of the answer is all that returning it does -/
theorem run_bind_pure (act : Act σ ε α) (f : α → β) (s : σ) :
    (act >>= fun a => Pure.pure (f a)) s = ⟨(act s).answer.map f, (act s).state, (act s).trace⟩ := by
  rcases h : act s with ⟨e | a, s', trace⟩
  · rw [run_bind_error h]
    rfl
  · rw [run_bind_ok h]
    simp [Run.after, Except.map]

/-- what an act did is the front of what it did with the next one -/
theorem begins_bind (act : Act σ ε α) (next : α → Act σ ε β) (s : σ) :
    (act s).trace <+: ((act >>= next) s).trace := by
  rcases h : act s with ⟨e | a, s', trace⟩
  · exact ⟨[], by rw [run_bind_error h, List.append_nil]⟩
  · exact ⟨(next a s').trace, by rw [run_bind_ok h, Run.trace_after]⟩

@[simp] theorem run_within (part : τ → σ) (put : σ → τ → τ) (act : Act σ ε α) (t : τ) :
    act.within part put t = ⟨(act (part t)).answer, put (act (part t)).state t, (act (part t)).trace⟩ := rfl

theorem length_inTurn (acts : List (Act σ ε α)) (s : σ) : (inTurn acts s).length = acts.length := by
  induction acts generalizing s with
  | nil => rfl
  | cons act later ih => simp [inTurn, ih]

/-- the first of some acts in turn are the first of their runs -/
theorem take_inTurn (acts : List (Act σ ε α)) (s : σ) (k : Nat) : (inTurn acts s).take k = inTurn (acts.take k) s := by
  induction acts generalizing s k with
  | nil => simp [inTurn]
  | cons act later ih =>
    cases k with
    | zero => rfl
    | succ k => simp [inTurn, ih]

/-- each of some acts in turn begins in the state that those before it left -/
theorem getElem?_inTurn (acts : List (Act σ ε α)) (s : σ) (k : Nat) :
    (inTurn acts s)[k]? = acts[k]?.map fun act => act (Run.lastState s ((inTurn acts s).take k)) := by
  induction acts generalizing s k with
  | nil => rfl
  | cons act later ih =>
    cases k with
    | zero => rfl
    | succ k => simp [inTurn, Run.lastState, ih]

instance : LawfulMonad (Act σ ε) := LawfulMonad.mk' (Act σ ε)
  (by
    intro α act
    funext s
    show Act.bind act (fun a => Act.pure a) s = act s
    rcases h : act s with ⟨_ | _, s', trace⟩ <;> simp [Act.bind, Act.pure, h, Run.after])
  (by
    intro α β a next
    funext s
    show Act.bind (Act.pure a) next s = next a s
    simp [Act.bind, Act.pure, Run.after])
  (by
    intro α β γ act next last
    funext s
    show Act.bind (Act.bind act next) last s = Act.bind act (fun a => Act.bind (next a) last) s
    rcases h : act s with ⟨_ | a, s', trace⟩
    · simp [Act.bind, h]
    · rcases h' : next a s' with ⟨_ | b, s'', trace'⟩ <;> simp [Act.bind, h, h', Run.after])

end Act

/-- end in a failure of the link, and count it -/
def LinkError.raise (e : LinkError) : Act σ LinkError α := fun s => ⟨.error e, s, [.counted e.counter 1]⟩

/-- what raising a failure of the session counts, on the console and beneath it -/
def SessionError.tally : SessionError → Trace
  | .client cause => [.counted cause.counter 1]
  | .interrupted => [.counted .interrupted 1]
  | _ => []

/-- end in a failure of the session that arises here, and count it -/
def SessionError.raise (e : SessionError) : Act σ SessionError α := fun s => ⟨.error e, s, e.tally⟩

end QueryConsole
