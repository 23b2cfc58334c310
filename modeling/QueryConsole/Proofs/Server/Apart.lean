import QueryConsole.Proofs.Server.Turns

/-
A server with many connections at once.

Each accepted connection is served by a worker of its own. A move is one turn of one worker, or the acceptance of one
more connection; moves come in any order (`run`). The workers share the handler, whose answers depend on the request
alone, and the books. What one worker has done and what it would still do if it were left alone (`Worker.ahead`) is
together what serving its connection alone does, and no move of another worker changes that.

Actors: the workers; the operating system, which hands over connections or fails to, and decides whose turn it is.

Results:
- `ahead_advance`: a turn of a worker is the first part of what it would do alone.
- `apart_run`: the invariant, in every state that moves lead to.
- `finishes`, `comes_to_rest`: what has begun can always be brought to its end.
- `serveArriving_run`: serving one connection after the other is one of the orders.
- `connections_apart`: what each connection sees, what is counted, and when accepting ends.
-/

namespace QueryConsole

namespace Server

/-- how far the serving of a connection is -/
inductive Status where
  | serving (stage : Stage)
  /-- the connection has failed, which is still to be reported -/
  | failed (e : LinkError)
  | finished (result : Except LinkError Unit)

/-- one connection that is being served -/
structure Worker where
  /-- the connection as it was accepted -/
  connection : Connection
  /-- its stream, as it is now -/
  link : Link
  status : Status
  /-- what the worker has done -/
  done : Trace

/-- what is reported of a connection that has failed -/
def report (peer : String) (e : LinkError) : Trace :=
  [.counted .connectionError 1, .told (.connectionFailed peer e.message)]

namespace Worker

/-- a worker that begins with a connection -/
def start (connection : Connection) : Worker := ⟨connection, connection.link, .serving .reading, []⟩

/-- what a worker does next, and what it leaves -/
def next (answer : String → String) (w : Worker) : Status × Link × Trace :=
  match w.status with
  | .serving stage =>
    match turn answer w.connection.peer stage w.link with
    | ⟨.ok (some next), left, trace⟩ => (.serving next, left, trace)
    | ⟨.ok none, left, trace⟩ => (.finished (.ok ()), left, trace)
    | ⟨.error e, left, trace⟩ => (.failed e, left, trace)
  | .failed e => (.finished (.error e), w.link, report w.connection.peer e)
  | .finished result => (.finished result, w.link, [])

/-- let a worker have its turn -/
def advance (answer : String → String) (w : Worker) : Worker :=
  let (status, link, trace) := w.next answer
  { w with status, link, done := w.done ++ trace }

/-- the connection has failed, and is finished -/
def hasFailed (w : Worker) : Bool :=
  match w.status with
  | .finished (.error _) => true
  | _ => false

end Worker

/-- a server while it serves -/
structure Serving where
  /-- what accepting will still meet -/
  arriving : List Arriving
  /-- why accepting ended, once it has -/
  ended : Option LinkError := none
  workers : List Worker := []
  /-- all that happened, in the order in which it did -/
  log : Trace := []

/-- whose turn it is -/
inductive Move where
  | accept
  | work (i : Nat)
deriving DecidableEq, Repr

/-- one move; who has nothing to do does nothing -/
def move (answer : String → String) (s : Serving) : Move → Serving
  | .accept =>
    match s.ended, s.arriving with
    | none, arriving :: later =>
      match (accept arriving : Act Unit LinkError Connection) () with
      | ⟨.ok connection, (), trace⟩ =>
        { s with arriving := later, workers := s.workers ++ [.start connection], log := s.log ++ trace }
      | ⟨.error e, (), trace⟩ => { s with arriving := later, ended := some e, log := s.log ++ trace }
    | _, _ => s
  | .work i =>
    match s.workers[i]? with
    | some w => { s with workers := s.workers.set i (w.advance answer), log := s.log ++ (w.next answer).2.2 }
    | none => s

/-- a server that is handed these connections, after some moves -/
def run (answer : String → String) (arriving : List Arriving) (moves : List Move) : Serving :=
  moves.foldl (move answer) { arriving }

variable {answer : String → String} {arriving : List Arriving} {peer : String} {s : Serving} {w : Worker}

/-! ## A worker that is left alone -/

/-- a run with the report of its failure, if it failed -/
def reported (peer : String) (r : Run Link LinkError Unit) : Run Link LinkError Unit :=
  match r.answer with
  | .ok _ => r
  | .error e => { r with trace := r.trace ++ report peer e }

theorem reported_after (peer : String) (trace : Trace) (r : Run Link LinkError Unit) :
    reported peer (r.after trace) = (reported peer r).after trace := by
  obtain ⟨answer, left, trace'⟩ := r
  cases answer <;> simp [reported, Run.after]

/-- serving a connection alone, with the report of its failure -/
def alone (answer : String → String) (connection : Connection) : Run Link LinkError Unit :=
  reported connection.peer (serveLink answer connection.peer connection.link)

/-- what a worker would still do if it were left alone -/
def Worker.ahead (answer : String → String) (w : Worker) : Run Link LinkError Unit :=
  match w.status with
  | .serving stage => reported w.connection.peer (serveFrom answer w.connection.peer stage w.link)
  | .failed e => ⟨.error e, w.link, report w.connection.peer e⟩
  | .finished result => ⟨result, w.link, []⟩

/-- **A turn of a worker is the first part of what it would do alone.** -/
theorem ahead_advance (answer : String → String) (w : Worker) :
    w.ahead answer = ((w.advance answer).ahead answer).after (w.next answer).2.2 := by
  obtain ⟨connection, link, status, done⟩ := w
  cases status with
  | finished result => rfl
  | failed e => rfl
  | serving stage =>
    cases turned answer connection.peer stage link with
    | goesOn next left trace hrun hwhole closer unreported =>
      simp only [Worker.ahead, Worker.advance, Worker.next, hrun]
      rw [hwhole, reported_after]
    | ends result left trace hrun hwhole unreported =>
      cases result with
      | ok _ =>
        simp only [Worker.ahead, Worker.advance, Worker.next, hrun, Except.map]
        rw [hwhole]
        simp [reported, Run.after]
      | error e =>
        simp only [Worker.ahead, Worker.advance, Worker.next, hrun, Except.map]
        rw [hwhole]
        simp [reported, Run.after]

/-- a worker has done the first part of what serving its connection alone does, and its failure was reported exactly if
it has failed and is finished -/
structure Faithful (answer : String → String) (w : Worker) : Prop where
  whole : alone answer w.connection = (w.ahead answer).after w.done
  reports : Trace.total .connectionError w.done = if w.hasFailed then 1 else 0

theorem Faithful.start (answer : String → String) (connection : Connection) :
    Faithful answer (.start connection) := ⟨rfl, rfl⟩

theorem reports_next (answer : String → String) (w : Worker) :
    Trace.total .connectionError (w.next answer).2.2 + (if w.hasFailed then 1 else 0) =
      if (w.advance answer).hasFailed then 1 else 0 := by
  obtain ⟨connection, link, status, done⟩ := w
  cases status with
  | finished result => cases result <;> rfl
  | failed e => rfl
  | serving stage =>
    cases turned answer connection.peer stage link with
    | goesOn next left trace hrun hwhole closer unreported =>
      simp only [Worker.advance, Worker.next, hrun, unreported]
      rfl
    | ends result left trace hrun hwhole unreported =>
      cases result <;> simp only [Worker.advance, Worker.next, hrun, Except.map, unreported] <;> rfl

theorem Faithful.advance (h : Faithful answer w) : Faithful answer (w.advance answer) where
  whole := by
    calc alone answer w.connection
        = (w.ahead answer).after w.done := h.whole
      _ = (((w.advance answer).ahead answer).after (w.next answer).2.2).after w.done := by rw [← ahead_advance]
      _ = ((w.advance answer).ahead answer).after (w.advance answer).done := by
        simp [Run.after, Worker.advance]
  reports := by
    rw [← reports_next, ← h.reports, Nat.add_comm]
    exact Trace.total_append _ _ _

/-! ## Many workers -/

/-- one worker of many: what is added up over them grows by what it adds -/
theorem sum_set {α : Type} {f : α → Nat} {a a' : α} {d : Nat} {list : List α} {i : Nat} (h : list[i]? = some a)
    (hadd : f a' = f a + d) : ((list.set i a').map f).sum = (list.map f).sum + d := by
  induction list generalizing i with
  | nil => simp at h
  | cons b list ih =>
    cases i with
    | zero =>
      obtain rfl : b = a := by simpa using h
      simp only [List.set_cons_zero, List.map_cons, List.sum_cons, hadd]
      omega
    | succ i =>
      simp only [List.set_cons_succ, List.map_cons, List.sum_cons, ih (by simpa using h)]
      omega

/-- what is kept by one worker of many is kept by all of them -/
theorem map_set {α β : Type} {f : α → β} {a a' : α} {list : List α} {i : Nat} (h : list[i]? = some a)
    (hsame : f a' = f a) : (list.set i a').map f = list.map f := by
  obtain ⟨hlt, rfl⟩ := List.getElem?_eq_some_iff.1 h
  rw [List.map_set, hsame, ← List.getElem_map f (h := by simpa using hlt), List.set_getElem_self]

/-- one for each worker of a kind adds up to how many there are -/
theorem sum_ones {α : Type} (p : α → Bool) (list : List α) :
    (list.map fun a => if p a then 1 else 0).sum = list.countP p := by
  induction list with
  | nil => rfl
  | cons a list ih => rw [List.map_cons, List.sum_cons, ih, List.countP_cons, Nat.add_comm]

/-- how far accepting is: all connections so far have a worker, and if accepting has ended it met a failure -/
inductive Accepting (arriving : List Arriving) (s : Serving) : Prop
  | going (ended : s.ended = none) (met : arriving = s.workers.map (.ok ·.connection) ++ s.arriving)
  | failed (cause : IoError) (ended : s.ended = some (.transport "accept" cause))
    (met : arriving = s.workers.map (.ok ·.connection) ++ .error cause :: s.arriving)

/-- the workers do not disturb each other -/
structure Apart (answer : String → String) (arriving : List Arriving) (s : Serving) : Prop where
  faithful : ∀ w ∈ s.workers, Faithful answer w
  logged : ∀ w ∈ s.workers, w.done.Sublist s.log
  totals : ∀ counter, counter ≠ .accept → counter ≠ .acceptError → counter ≠ .transportError →
    Trace.total counter s.log = (s.workers.map (Trace.total counter ·.done)).sum
  accepting : Accepting arriving s

theorem Apart.start (answer : String → String) (arriving : List Arriving) : Apart answer arriving { arriving } where
  faithful := by simp
  logged := by simp
  totals _ _ _ _ := rfl
  accepting := .going rfl rfl

variable {connection : Connection} {cause : IoError} {coming : List Arriving} {ended : Option LinkError}
  {workers : List Worker} {log : Trace} {i : Nat}

theorem move_accepted : move answer ⟨.ok connection :: coming, none, workers, log⟩ .accept =
    ⟨coming, none, workers ++ [.start connection],
      log ++ [.counted .accept 1, .told (.accepted connection.peer)]⟩ := rfl

theorem move_refused : move answer ⟨.error cause :: coming, none, workers, log⟩ .accept =
    ⟨coming, some (.transport "accept" cause), workers, log ++ [.counted .acceptError 1, .counted .transportError 1]⟩ :=
  rfl

theorem move_work (h : workers[i]? = some w) : move answer ⟨coming, ended, workers, log⟩ (.work i) =
    ⟨coming, ended, workers.set i (w.advance answer), log ++ (w.next answer).2.2⟩ := by
  simp only [move, h]

/-- what is in the log stays in it -/
theorem logged_more (h : ∀ w ∈ workers, w.done.Sublist log) (more : Trace) :
    ∀ w ∈ workers, w.done.Sublist (log ++ more) :=
  fun w hw => (h w hw).trans (List.sublist_append_left log more)

theorem Apart.accept (h : Apart answer arriving s) : Apart answer arriving (move answer s .accept) := by
  obtain ⟨coming, ended, workers, log⟩ := s
  cases ended with
  | some e => exact h
  | none =>
    obtain ⟨hfaithful, hlogged, htotals, ⟨-, hmet⟩ | ⟨cause, hended, -⟩⟩ := h
    · match coming with
      | [] => exact ⟨hfaithful, hlogged, htotals, .going rfl hmet⟩
      | .ok connection :: later =>
        rw [move_accepted]
        refine ⟨?_, ?_, ?_, .going rfl ?_⟩
        · exact List.forall_mem_append.2 ⟨hfaithful, List.forall_mem_singleton.2 (.start answer connection)⟩
        · exact List.forall_mem_append.2 ⟨logged_more hlogged _, List.forall_mem_singleton.2 (List.nil_sublist _)⟩
        · intro counter haccept hrefused htransport
          have hcount : Trace.total counter [.counted .accept 1, .told (.accepted connection.peer)] = 0 := by
            simp [Trace.total, Event.adds, haccept.symm]
          rw [Trace.total_append, htotals counter haccept hrefused htransport, hcount, List.map_append, List.sum_append]
          rfl
        · rw [hmet, List.map_append, List.append_assoc]
          rfl
      | .error cause :: later =>
        rw [move_refused]
        refine ⟨hfaithful, ?_, ?_, .failed cause rfl hmet⟩
        · exact logged_more hlogged _
        · intro counter haccept hrefused htransport
          have hcount : Trace.total counter [.counted .acceptError 1, .counted .transportError 1] = 0 := by
            simp [Trace.total, Event.adds, hrefused.symm, htransport.symm]
          rw [Trace.total_append, htotals counter haccept hrefused htransport, hcount, Nat.add_zero]
    · cases hended

theorem Apart.work (h : Apart answer arriving s) (i : Nat) : Apart answer arriving (move answer s (.work i)) := by
  obtain ⟨coming, ended, workers, log⟩ := s
  cases hworker : workers[i]? with
  | none => simpa [move, hworker] using h
  | some w =>
    obtain ⟨hfaithful, hlogged, htotals, haccepting⟩ := h
    have hmem : w ∈ workers := List.mem_of_getElem? hworker
    have hconnections : (workers.set i (w.advance answer)).map (fun w => (.ok w.connection : Arriving)) =
        workers.map (.ok ·.connection) := map_set hworker rfl
    rw [move_work hworker]
    refine ⟨?_, ?_, ?_, ?_⟩
    · intro w' hw'
      rcases List.mem_or_eq_of_mem_set hw' with hw' | rfl
      · exact hfaithful w' hw'
      · exact (hfaithful w hmem).advance
    · intro w' hw'
      rcases List.mem_or_eq_of_mem_set hw' with hw' | rfl
      · exact logged_more hlogged _ w' hw'
      · exact (hlogged w hmem).append (List.Sublist.refl _)
    · intro counter haccept hrefused htransport
      have hadd : Trace.total counter (w.advance answer).done =
          Trace.total counter w.done + Trace.total counter (w.next answer).2.2 := Trace.total_append ..
      rw [Trace.total_append, htotals counter haccept hrefused htransport]
      exact (sum_set hworker hadd).symm
    · rcases haccepting with ⟨hended, hmet⟩ | ⟨cause, hended, hmet⟩
      · exact .going hended (by rw [hmet, hconnections])
      · exact .failed cause hended (by rw [hmet, hconnections])

/-- one move -/
theorem Apart.moved (h : Apart answer arriving s) (m : Move) : Apart answer arriving (move answer s m) := by
  cases m with
  | accept => exact h.accept
  | work i => exact h.work i

theorem Apart.all_moved (h : Apart answer arriving s) (moves : List Move) :
    Apart answer arriving (moves.foldl (move answer) s) := by
  induction moves generalizing s with
  | nil => exact h
  | cons m later ih => exact ih (h.moved m)

/-- **The workers do not disturb each other, in whatever order the moves come.** -/
theorem apart_run (answer : String → String) (arriving : List Arriving) (moves : List Move) :
    Apart answer arriving (run answer arriving moves) :=
  (Apart.start answer arriving).all_moved moves

/-! ## What a connection sees -/

/-- serving alone is serving the connection, and the report of its failure -/
theorem alone_eq (answer : String → String) (connection : Connection) :
    let r := serveConnection (Handler.ofFun answer) connection.peer () connection.link.inflow connection.link.outflow
    (alone answer connection).answer = r.answer ∧
      Trace.taken .link (alone answer connection).trace = Trace.taken .link r.trace ∧
      serveApart (Handler.ofFun answer) connection () = ⟨.ok (), (), (alone answer connection).trace⟩ := by
  intro r
  have halone : alone answer connection = reported connection.peer ⟨r.answer, r.state.link, r.trace⟩ := rfl
  rcases hserve : r with ⟨e | _, ⟨⟨⟩, left⟩, trace⟩
  · have haccepted : serveAccepted (Handler.ofFun answer) connection () = ⟨.error e, (), trace⟩ := by
      simp only [serveAccepted]
      rw [show serveConnection _ _ _ _ _ = _ from hserve]
    have hdiscard : discard (serveAccepted (Handler.ofFun answer) connection) () = ⟨.error e, (), trace⟩ :=
      Act.run_bind_error haccepted
    rw [hserve] at halone
    rw [halone]
    refine ⟨rfl, ?_, ?_⟩
    · simp [reported, report, Event.taken]
    · simp only [serveApart, Act.rescue, hdiscard]
      rfl
  · have haccepted : serveAccepted (Handler.ofFun answer) connection () = ⟨.ok left, (), trace⟩ := by
      simp only [serveAccepted]
      rw [show serveConnection _ _ _ _ _ = _ from hserve]
    have hdiscard : discard (serveAccepted (Handler.ofFun answer) connection) () = ⟨.ok (), (), trace⟩ :=
      (Act.run_bind_ok haccepted).trans (congrArg _ (List.append_nil trace))
    rw [hserve] at halone
    rw [halone]
    refine ⟨rfl, rfl, ?_⟩
    simp only [serveApart, Act.rescue, hdiscard]
    rfl

/-- a worker that is finished has nothing ahead -/
theorem ahead_finished {result : Except LinkError Unit} (h : w.status = .finished result) :
    w.ahead answer = ⟨result, w.link, []⟩ := by
  unfold Worker.ahead
  rw [h]

/-! ## Left to themselves, workers finish -/

/-- a worker when it has done all that is ahead of it -/
def Worker.finish (answer : String → String) (w : Worker) : Worker :=
  let r := w.ahead answer
  { w with link := r.state, status := .finished r.answer, done := w.done ++ r.trace }

/-- turns of this worker alone let it do all that is ahead of it -/
def Finishes (answer : String → String) (w : Worker) : Prop :=
  ∀ (coming ended) (workers : List Worker) (log i), workers[i]? = some w →
    ∃ moves : List Move, moves.foldl (move answer) ⟨coming, ended, workers, log⟩ =
      ⟨coming, ended, workers.set i (w.finish answer), log ++ (w.ahead answer).trace⟩

theorem Finishes.of_advance (h : Finishes answer (w.advance answer)) : Finishes answer w := by
  intro coming ended workers log i hworker
  have hlt : i < workers.length := (List.getElem?_eq_some_iff.1 hworker).1
  obtain ⟨moves, hmoves⟩ := h coming ended _ (log ++ (w.next answer).2.2) i (List.getElem?_set_self hlt)
  have hfinish : (w.advance answer).finish answer = w.finish answer := by
    unfold Worker.finish
    rw [ahead_advance answer w]
    simp [Worker.advance, Run.after]
  refine ⟨.work i :: moves, ?_⟩
  rw [List.foldl_cons, move_work hworker, hmoves, hfinish, List.set_set, ahead_advance answer w, Run.trace_after,
    List.append_assoc]

theorem finishes_finished {connection : Connection} {link : Link} {result : Except LinkError Unit} {done : Trace} :
    Finishes answer ⟨connection, link, .finished result, done⟩ := by
  intro coming ended workers log i hworker
  refine ⟨[], ?_⟩
  obtain ⟨hlt, hworker⟩ := List.getElem?_eq_some_iff.1 hworker
  have hfinish : (Worker.mk connection link (.finished result) done).finish answer = workers[i] := by
    rw [hworker]
    simp [Worker.finish, Worker.ahead]
  rw [hfinish, List.set_getElem_self]
  simp [Worker.ahead]

/-- **A worker that has all the turns finishes.** -/
theorem finishes (answer : String → String) (w : Worker) : Finishes answer w := by
  obtain ⟨connection, link, status, done⟩ := w
  have hfailed : ∀ link e done, Finishes answer ⟨connection, link, .failed e, done⟩ :=
    fun _ _ _ => .of_advance finishes_finished
  cases status with
  | finished result => exact finishes_finished
  | failed e => exact hfailed _ _ _
  | serving stage =>
    -- each turn lowers the rank
    induction h : rank stage link using (Prod.lex Nat.lt_wfRel Nat.lt_wfRel).wf.induction
      generalizing stage link done with
    | _ measure ih =>
      subst h
      apply Finishes.of_advance
      cases turned answer connection.peer stage link with
      | goesOn next left trace hrun hwhole closer unreported =>
        simp only [Worker.advance, Worker.next, hrun]
        exact ih _ closer _ _ _ rfl
      | ends result left trace hrun hwhole unreported =>
        cases result with
        | ok _ =>
          simp only [Worker.advance, Worker.next, hrun, Except.map]
          exact finishes_finished
        | error e =>
          simp only [Worker.advance, Worker.next, hrun, Except.map]
          exact hfailed _ _ _

/-! ## One connection after the other -/

/-- nothing is left to be done: every worker is finished, and every connection that was handed over has one unless
accepting has ended -/
structure Serving.AtRest (s : Serving) : Prop where
  finished : ∀ w ∈ s.workers, ∃ result, w.status = .finished result
  accepted : s.ended = none → s.arriving = []

/-- serving one connection after the other is some order of the moves, which leads to rest -/
theorem serveArriving_moves (answer : String → String) (coming : List Arriving) {workers : List Worker}
    (hfinished : ∀ w ∈ workers, ∃ result, w.status = .finished result) (log : Trace) :
    ∃ moves : List Move,
      let s := moves.foldl (move answer) ⟨coming, none, workers, log⟩
      let r := serveArriving (Handler.ofFun answer) coming ()
      s.log = log ++ r.trace ∧ r.answer = s.ended.elim (.ok ()) .error ∧ s.AtRest := by
  induction coming generalizing workers log with
  | nil => exact ⟨[], (List.append_nil log).symm, rfl, hfinished, fun _ => rfl⟩
  | cons met later ih =>
    cases met with
    | error cause =>
      refine ⟨[.accept], ?_⟩
      rw [List.foldl_cons, move_refused]
      exact ⟨rfl, rfl, hfinished, fun hopen => by cases hopen⟩
    | ok connection =>
      have haccepted : (accept (.ok connection) : Act Unit LinkError Connection) () =
          ⟨.ok connection, (), [.counted .accept 1, .told (.accepted connection.peer)]⟩ := rfl
      obtain ⟨-, -, hserved⟩ := alone_eq answer connection
      obtain ⟨serving, hserving⟩ := finishes answer (.start connection) later none _
        (log ++ [.counted .accept 1, .told (.accepted connection.peer)]) _
        (List.getElem?_concat_length (l := workers))
      have hfinished' : ∀ w ∈ workers ++ [(Worker.start connection).finish answer],
          ∃ result, w.status = .finished result :=
        List.forall_mem_append.2 ⟨hfinished, List.forall_mem_singleton.2 ⟨_, rfl⟩⟩
      obtain ⟨moves, hlog, hanswer, hrest⟩ := ih hfinished'
        (log ++ [.counted .accept 1, .told (.accepted connection.peer)] ++ (alone answer connection).trace)
      refine ⟨.accept :: serving ++ moves, ?_⟩
      rw [List.cons_append, List.foldl_cons, move_accepted, List.foldl_append, hserving]
      have hset : (workers ++ [Worker.start connection]).set workers.length ((Worker.start connection).finish answer) =
          workers ++ [(Worker.start connection).finish answer] := by
        simp
      have htrace : ((Worker.start connection).ahead answer).trace = (alone answer connection).trace := rfl
      rw [hset, htrace]
      refine ⟨?_, ?_, hrest⟩
      · rw [hlog, serveArriving, Act.run_bind_ok haccepted, Act.run_bind_ok hserved]
        simp [Run.after]
      · rw [hanswer.symm, serveArriving, Act.run_bind_ok haccepted, Act.run_bind_ok hserved]
        rfl

/-- **Serving one connection after the other is one of the orders.** It leads to rest, and accepting ends as it does
there. -/
theorem serveArriving_run (answer : String → String) (arriving : List Arriving) :
    ∃ moves : List Move,
      let s := run answer arriving moves
      let r := serveArriving (Handler.ofFun answer) arriving ()
      s.log = r.trace ∧ r.answer = s.ended.elim (.ok ()) .error ∧ s.AtRest :=
  serveArriving_moves answer arriving (List.forall_mem_nil _) []

/-- the workers that are not finished yet can all be let finish -/
theorem all_finish (answer : String → String) (coming : List Arriving) (ended : Option LinkError)
    {done : List Worker} (hdone : ∀ w ∈ done, ∃ result, w.status = .finished result) (rest : List Worker)
    (log : Trace) :
    ∃ (moves : List Move) (workers : List Worker) (later : Trace),
      moves.foldl (move answer) ⟨coming, ended, done ++ rest, log⟩ = ⟨coming, ended, workers, later⟩ ∧
        ∀ w ∈ workers, ∃ result, w.status = .finished result := by
  induction rest generalizing done log with
  | nil => exact ⟨[], done, log, by simp, hdone⟩
  | cons w rest ih =>
    have hworker : (done ++ w :: rest)[done.length]? = some w := by simp
    obtain ⟨serving, hserving⟩ := finishes answer w coming ended _ log _ hworker
    have hset : (done ++ w :: rest).set done.length (w.finish answer) = done ++ [w.finish answer] ++ rest := by simp
    have hdone' : ∀ w' ∈ done ++ [w.finish answer], ∃ result, w'.status = .finished result :=
      List.forall_mem_append.2 ⟨hdone, List.forall_mem_singleton.2 ⟨_, rfl⟩⟩
    obtain ⟨moves, workers, later, hmoves, hall⟩ := ih hdone' (log ++ (w.ahead answer).trace)
    refine ⟨serving ++ moves, workers, later, ?_, hall⟩
    rw [List.foldl_append, hserving, hset, hmoves]

/-- **From every state some moves lead to rest.** -/
theorem comes_to_rest (answer : String → String) (s : Serving) :
    ∃ moves : List Move, (moves.foldl (move answer) s).AtRest := by
  obtain ⟨coming, ended, workers, log⟩ := s
  obtain ⟨moves, workers', later, hmoves, hall⟩ :=
    all_finish answer coming ended (List.forall_mem_nil _) workers log
  rw [List.nil_append] at hmoves
  cases ended with
  | some e =>
    refine ⟨moves, ?_⟩
    rw [hmoves]
    exact ⟨hall, fun hopen => by cases hopen⟩
  | none =>
    obtain ⟨rest, -, -, hrest⟩ := serveArriving_moves answer coming hall later
    refine ⟨moves ++ rest, ?_⟩
    rw [List.foldl_append, hmoves]
    exact hrest

/-! ## All of it -/

/-- **The connections of one server do not disturb each other.** Whatever connections arrive, and in whatever order the
moves come:
- what a worker has done is the first part of what serving its connection alone does, and so are the bytes that were
  taken from it; when it is finished it has done all of that, with the same result;
- the connections that failed are counted one by one, and what is counted while serving adds up over the connections;
- accepting has ended only if it has met a failure to accept, and each connection before that has its worker;
- some more moves bring all of them to their end.
-/
theorem connections_apart (answer : String → String) (arriving : List Arriving) (moves : List Move) :
    let s := run answer arriving moves
    (∀ w ∈ s.workers,
      let r := serveConnection (Handler.ofFun answer) w.connection.peer () w.connection.link.inflow
        w.connection.link.outflow
      let apart := serveApart (Handler.ofFun answer) w.connection ()
      w.done.Sublist s.log ∧ w.done <+: apart.trace ∧
        Trace.taken .link w.done <+: Trace.taken .link r.trace ∧
        ∀ result, w.status = .finished result →
          result = r.answer ∧ w.done = apart.trace ∧ Trace.taken .link w.done = Trace.taken .link r.trace) ∧
      Trace.total .connectionError s.log = s.workers.countP (·.hasFailed) ∧
      (∀ counter ∈ [.requests, .requestNotUtf8, .framesWritten],
        Trace.total counter s.log = (s.workers.map (Trace.total counter ·.done)).sum) ∧
      ((s.ended = none ∧ arriving = s.workers.map (.ok ·.connection) ++ s.arriving) ∨
        ∃ cause, s.ended = some (.transport "accept" cause) ∧
          arriving = s.workers.map (.ok ·.connection) ++ .error cause :: s.arriving) ∧
      ∃ later, (run answer arriving (moves ++ later)).AtRest := by
  intro s
  obtain ⟨hfaithful, hlogged, htotals, haccepting⟩ := apart_run answer arriving moves
  refine ⟨?_, ?_, ?_, ?_, ?_⟩
  · intro w hw r apart
    obtain ⟨hanswer, htaken, hwhole⟩ := alone_eq answer w.connection
    have hfaith := (hfaithful w hw).whole
    have htrace : apart.trace = w.done ++ (w.ahead answer).trace := by
      calc apart.trace
          = (alone answer w.connection).trace := congrArg Run.trace hwhole
        _ = w.done ++ (w.ahead answer).trace := by rw [hfaith, Run.trace_after]
    have hbytes : Trace.taken .link r.trace = Trace.taken .link w.done ++ Trace.taken .link (w.ahead answer).trace := by
      rw [← htaken, hfaith, Run.trace_after, Trace.taken_append]
    refine ⟨hlogged w hw, ⟨_, htrace.symm⟩, ⟨_, hbytes.symm⟩, ?_⟩
    intro result hfinished
    rw [ahead_finished hfinished, List.append_nil] at htrace
    rw [ahead_finished hfinished] at hbytes hfaith
    refine ⟨?_, htrace.symm, by simpa using hbytes.symm⟩
    rw [← hanswer, hfaith]
    rfl
  · calc Trace.total .connectionError s.log
        = (s.workers.map (Trace.total .connectionError ·.done)).sum :=
          htotals _ (by decide) (by decide) (by decide)
      _ = (s.workers.map fun w => if w.hasFailed then 1 else 0).sum :=
          congrArg List.sum (List.map_congr_left fun w hw => (hfaithful w hw).reports)
      _ = s.workers.countP (·.hasFailed) := sum_ones ..
  · intro counter hcounter
    simp only [List.mem_cons, List.not_mem_nil, or_false] at hcounter
    rcases hcounter with rfl | rfl | rfl <;> exact htotals _ (by decide) (by decide) (by decide)
  · rcases haccepting with ⟨hended, hmet⟩ | ⟨cause, hended, hmet⟩
    · exact .inl ⟨hended, hmet⟩
    · exact .inr ⟨cause, hended, hmet⟩
  · obtain ⟨later, hrest⟩ := comes_to_rest answer s
    refine ⟨later, ?_⟩
    rwa [run, List.foldl_append]

-- one connection is answered, with a frame that is written in two parts, while another one fails
example :
    let a : Connection := ⟨"a", ⟨{ arrivals := [.bytes [104, 105]] }, { intakes := [.takes 3] }⟩⟩
    let b : Connection := ⟨"b", ⟨{ arrivals := [.failure (.plain .connectionReset)] }, {}⟩⟩
    let moves : List Move := [.accept, .work 0, .accept, .work 0, .work 1, .work 0, .work 0, .work 1, .work 0, .work 0]
    (run id [.ok a, .ok b] moves).workers.map (·.status) =
      [.finished (.ok ()), .finished (.error (.transport "read" (.plain .connectionReset)))] := by
  rfl

end Server

end QueryConsole
