import QueryConsole.Proofs.Session.Turn

/-
Sessions that ask for one line at a time.

A session is told beforehand what asking for lines will give. A program that reads its lines as it goes asks for one,
deals with it, and asks again. What it asks is a supply: any state that can be asked for lines and gives them only for
so long. `Supply.sit` is a whole session over a supply.

Two supplies may hold quite different states. If related states answer alike and stay related, they agree (`Agree`), and
then the sessions over them go in step: they are answered alike and do the same, call by call, and leave related states
(`Run.Same`).

Results:
- `follow_same`: one supply is followed as the other is, by induction on what is still to come.
- `sit_same`: supplies that agree give the same session.
- `sit_source`: a session that asks a source for its lines is the session that is told all of them.
-/

namespace QueryConsole

/-! ## Runs in step -/

namespace Run

variable {σ τ ε α : Type} {related : σ → τ → Prop} {r : Run σ ε α} {r' : Run τ ε α}

/-- two runs that are answered alike and do the same, and leave related states -/
structure Same (related : σ → τ → Prop) (r : Run σ ε α) (r' : Run τ ε α) : Prop where
  answer : r.answer = r'.answer
  state : related r.state r'.state
  trace : r.trace = r'.trace

/-- the same may come before both -/
theorem Same.after (h : Same related r r') (trace : Trace) : Same related (r.after trace) (r'.after trace) where
  answer := h.answer
  state := h.state
  trace := congrArg (trace ++ ·) h.trace

end Run

/-! ## Supplies -/

/-- where lines can be asked for; each line that is given leaves less to come -/
structure Supply (τ : Type) where
  ask : Act τ SessionError (Option String)
  /-- how much is still to come -/
  size : τ → Nat
  lessens : ∀ {t : τ} {line : String}, (ask t).answer = .ok (some line) → size (ask t).state < size t

namespace Shell

/-- deal with a line that was given -/
def deal (line : String) : Act Shell SessionError Unit := do
  Act.record [.counted .linesRead 1]
  if isBlank line then Act.record [.counted .blankLines 1] else execute line

/-- to take a line is to ask for it and to deal with it -/
theorem take_eq_deal (line : String) (shell : Shell) :
    take (.line line) shell = (deal line shell).after [.asked (.ok (some line))] := by
  by_cases hblank : isBlank line = true
  · simp only [take_blank hblank, deal, hblank, if_true]
    rfl
  · simp only [take_line hblank, deal, hblank]
    rfl

end Shell

namespace Supply

variable {σ τ : Type} {supply : Supply τ} {t later : τ} {shell dealt : Shell} {line : String} {e : SessionError}
  {trace done : Trace}

/-- ask for a line, deal with it, and go on until no line is given or something fails -/
def follow (supply : Supply τ) (t : τ) (shell : Shell) : Run (τ × Shell) SessionError Unit :=
  match _given : supply.ask t with
  | ⟨.error e, later, trace⟩ => ⟨.error e, (later, shell), trace⟩
  | ⟨.ok none, later, trace⟩ => ⟨.ok (), (later, shell), trace ++ [.told .endOfInput]⟩
  | ⟨.ok (some line), later, trace⟩ =>
    match Shell.deal line shell with
    | ⟨.ok (), shell, done⟩ => (follow supply later shell).after (trace ++ done)
    | ⟨.error e, shell, done⟩ => ⟨.error e, (later, shell), trace ++ done⟩
termination_by supply.size t
decreasing_by
  have hless := supply.lessens (congrArg Run.answer _given)
  rwa [_given] at hless

/-- greet the user and follow a supply -/
def talk (supply : Supply τ) (t : τ) (shell : Shell) : Run (τ × Shell) SessionError Unit :=
  match Shell.greet shell with
  | ⟨.ok (), shell, trace⟩ => (supply.follow t shell).after trace
  | ⟨.error e, shell, trace⟩ => ⟨.error e, (t, shell), trace⟩

/-- have a whole session over a supply -/
def sit (supply : Supply τ) (t : τ) (shell : Shell) : Run (τ × Shell) SessionError Unit :=
  let talked := supply.talk t shell
  let ended := Session.finish talked.answer ⟨[], talked.state.2⟩
  ⟨ended.answer, (talked.state.1, ended.state.shell), talked.trace ++ ended.trace⟩

theorem follow_failed (h : supply.ask t = ⟨.error e, later, trace⟩) (shell : Shell) :
    supply.follow t shell = ⟨.error e, (later, shell), trace⟩ := by
  rw [follow]
  split <;> simp_all

theorem follow_over (h : supply.ask t = ⟨.ok none, later, trace⟩) (shell : Shell) :
    supply.follow t shell = ⟨.ok (), (later, shell), trace ++ [.told .endOfInput]⟩ := by
  rw [follow]
  split <;> simp_all

theorem follow_dealt (h : supply.ask t = ⟨.ok (some line), later, trace⟩)
    (hdeal : Shell.deal line shell = ⟨.ok (), dealt, done⟩) :
    supply.follow t shell = (supply.follow later dealt).after (trace ++ done) := by
  rw [follow]
  split <;> simp_all

theorem follow_stopped (h : supply.ask t = ⟨.ok (some line), later, trace⟩)
    (hdeal : Shell.deal line shell = ⟨.error e, dealt, done⟩) :
    supply.follow t shell = ⟨.error e, (later, dealt), trace ++ done⟩ := by
  rw [follow]
  split <;> simp_all

/-! ## Supplies that agree -/

/-- related states answer alike, do the same and stay related -/
def Agree (a : Supply σ) (b : Supply τ) (related : σ → τ → Prop) : Prop :=
  ∀ {s : σ} {t : τ}, related s t → (a.ask s).Same related (b.ask t)

/-- related states, with the same shell beside them -/
def Beside (related : σ → τ → Prop) (s : σ × Shell) (t : τ × Shell) : Prop := related s.1 t.1 ∧ s.2 = t.2

variable {a : Supply σ} {b : Supply τ} {related : σ → τ → Prop} {s : σ}

/-- **Supplies that agree are followed in step.** -/
theorem follow_same (h : a.Agree b related) {s : σ} {t : τ} (hst : related s t) (shell : Shell) :
    (a.follow s shell).Same (Beside related) (b.follow t shell) := by
  obtain ⟨hanswer, hstate, htrace⟩ := h hst
  rcases ha : a.ask s with ⟨answer, s', trace⟩
  rcases hb : b.ask t with ⟨answer', t', trace'⟩
  rw [ha, hb] at hanswer hstate htrace
  obtain rfl : answer = answer' := hanswer
  obtain rfl : trace = trace' := htrace
  match answer with
  | .error e =>
    rw [follow_failed ha, follow_failed hb]
    exact ⟨rfl, ⟨hstate, rfl⟩, rfl⟩
  | .ok none =>
    rw [follow_over ha, follow_over hb]
    exact ⟨rfl, ⟨hstate, rfl⟩, rfl⟩
  | .ok (some line) =>
    rcases hdeal : Shell.deal line shell with ⟨e | _, shell', done⟩
    · rw [follow_stopped ha hdeal, follow_stopped hb hdeal]
      exact ⟨rfl, ⟨hstate, rfl⟩, rfl⟩
    · have hless : a.size s' < a.size s := by
        have hless := a.lessens (congrArg Run.answer ha)
        rwa [ha] at hless
      have hlater := follow_same h hstate shell'
      rw [follow_dealt ha hdeal, follow_dealt hb hdeal]
      exact hlater.after _
termination_by a.size s

theorem talk_same (h : a.Agree b related) (hst : related s t) (shell : Shell) :
    (a.talk s shell).Same (Beside related) (b.talk t shell) := by
  unfold talk
  split
  · exact (follow_same h hst _).after _
  · exact ⟨rfl, ⟨hst, rfl⟩, rfl⟩

/-- **Supplies that agree give the same session.** -/
theorem sit_same (h : a.Agree b related) (hst : related s t) (shell : Shell) :
    (a.sit s shell).Same (Beside related) (b.sit t shell) := by
  obtain ⟨hanswer, ⟨hstate, hshell⟩, htrace⟩ := talk_same h hst shell
  simp only [sit, hanswer, hshell, htrace]
  exact ⟨rfl, ⟨hstate, rfl⟩, rfl⟩

end Supply

/-! ## Sources as supplies -/

namespace Source

variable {source later : Source} {answer : Except SessionError (Option String)} {trace : Trace}

/-- a source is asked for its lines -/
def supply : Supply Source where
  ask := next
  size := List.length
  lessens {source line} h := by
    match source with
    | [] => cases h
    | .line text :: later => exact Nat.lt_succ_self _
    | .failure cause :: later => cases h

/-- **To follow a source is to converse with it.** -/
theorem follow_eq_converse (source : Source) (shell : Shell) : supply.follow source shell = shell.converse source := by
  induction source generalizing shell with
  | nil =>
    have hasked : supply.ask [] = ⟨.ok none, [], [.asked (.ok none)]⟩ := rfl
    exact Supply.follow_over hasked shell
  | cons item later ih =>
    cases item with
    | failure cause =>
      have hasked : supply.ask (.failure cause :: later) =
          ⟨.error cause, later, .asked (.error cause) :: cause.tally⟩ := rfl
      rw [Supply.follow_failed hasked, Shell.converse_error (Shell.take_failure cause shell)]
    | line line =>
      have hasked : supply.ask (.line line :: later) = ⟨.ok (some line), later, [.asked (.ok (some line))]⟩ := rfl
      have htake := Shell.take_eq_deal line shell
      rcases hdeal : Shell.deal line shell with ⟨e | _, shell', done⟩
      · rw [hdeal] at htake
        rw [Supply.follow_stopped hasked hdeal, Shell.converse_error htake]
      · rw [hdeal] at htake
        rw [Supply.follow_dealt hasked hdeal, Shell.converse_ok htake, ih]

end Source

namespace Session

/-- **A session that asks a source for its lines is the session that is told all of them.** -/
theorem sit_source (source : Source) (shell : Shell) :
    Source.supply.sit source shell = ⟨(run ⟨source, shell⟩).answer,
      ((run ⟨source, shell⟩).state.source, (run ⟨source, shell⟩).state.shell), (run ⟨source, shell⟩).trace⟩ := by
  have htalk : Source.supply.talk source shell = ⟨(talk ⟨source, shell⟩).answer,
      ((talk ⟨source, shell⟩).state.source, (talk ⟨source, shell⟩).state.shell), (talk ⟨source, shell⟩).trace⟩ := by
    rcases hgreet : Shell.greet shell with ⟨e | _, shell', trace⟩
    · rw [talk_refused ⟨source, shell⟩ hgreet]
      simp only [Supply.talk, hgreet]
    · rw [talk_greeted ⟨source, shell⟩ hgreet]
      simp only [Supply.talk, hgreet, Source.follow_eq_converse]
      rfl
  rw [Supply.sit, htalk, run_parting, finish_parting]

end Session

end QueryConsole
