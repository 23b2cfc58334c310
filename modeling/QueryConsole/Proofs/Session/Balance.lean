import QueryConsole.Proofs.Session.Afterwards
import QueryConsole.Proofs.Session.Course

/-
The books of a session balance, wherever it stops.

Five numbers are kept while a session goes through its source: the lines it was given, the blank ones among them, its
exchanges, the requests that were sent and the responses that arrived (`Trace.balance`). Each part of a turn adds its
own to them, so the books of a course are those of its turns and those of the stop: of the last line the books tell how
far its exchange came (`Stop.failed`, `Stop.unanswered`, `Stop.notText`). The screen has no part in this.

Results:
- `balance_send`, `balance_receive`: what the calls on the link add.
- `Course.balanced`: the books of a course, by induction on the course.
- `run_balances`: the books of a whole session.
-/

namespace QueryConsole

/-! ## Books -/

/-- five numbers of a session -/
@[ext] structure Balance where
  lines : Nat
  blanks : Nat
  trips : Nat
  sent : Nat
  received : Nat
deriving DecidableEq

namespace Balance

instance : Add Balance where
  add a b := ⟨a.lines + b.lines, a.blanks + b.blanks, a.trips + b.trips, a.sent + b.sent, a.received + b.received⟩

@[simp] theorem mk_add (a b c d e a' b' c' d' e' : Nat) :
    (⟨a, b, c, d, e⟩ + ⟨a', b', c', d', e'⟩ : Balance) = ⟨a + a', b + b', c + c', d + d', e + e'⟩ := rfl

end Balance

namespace Trace

/-- what a trace adds to the books -/
def balance (trace : Trace) : Balance where
  lines := total .linesRead trace
  blanks := total .blankLines trace
  trips := samples .roundTrip trace
  sent := total .requestsSent trace
  received := total .responsesReceived trace

theorem balance_append (a b : Trace) : (a ++ b).balance = a.balance + b.balance := by
  simp [balance]

/-- the books know nothing of the screen -/
theorem balance_offScreen (trace : Trace) : trace.offScreen.balance = trace.balance := by
  simp only [balance, total_offScreen, samples_offScreen]

end Trace

/-! ## Calls on the link -/

namespace Client

variable {line response : String} {client now : Client} {trace : Trace} {e : LinkError} {calls : List Call}

/-- calls on the link enter nothing of the console's -/
theorem console_entries (call : Call) :
    Trace.total .linesRead call.entries = 0 ∧ Trace.total .blankLines call.entries = 0 ∧
      Trace.samples .roundTrip call.entries = 0 := by
  rcases call with ⟨line, ⟨⟨⟩⟩ | _⟩ | ⟨⟨⟨⟩⟩ | text⟩ <;>
    simp [Call.entries, sending, arrival, blame, Event.adds, LinkError.counter, Trace.samples, Event.isSample]

theorem Accounted.balance (h : Accounted client calls trace now) :
    trace.balance = ⟨0, 0, 0, (calls.filterMap Call.line?).length, (calls.filterMap Call.payload?).length⟩ := by
  have hnone : ∀ measure : Trace → Nat, measure [] = 0 → (∀ a b, measure (a ++ b) = measure a + measure b) →
      (∀ call : Call, measure call.entries = 0) → measure (calls.flatMap Call.entries) = 0 := by
    intro measure nil append each
    rw [measure_entries (fun _ => none) (fun _ : Unit => 0) nil append each]
    simp
  ext
  · show Trace.total .linesRead trace = 0
    rw [← Trace.total_entries (by decide) (by decide), h.entries]
    exact hnone _ rfl (Trace.total_append _) fun call => (console_entries call).1
  · show Trace.total .blankLines trace = 0
    rw [← Trace.total_entries (by decide) (by decide), h.entries]
    exact hnone _ rfl (Trace.total_append _) fun call => (console_entries call).2.1
  · show Trace.samples .roundTrip trace = 0
    rw [← Trace.samples_entries, h.entries]
    exact hnone _ rfl (Trace.samples_append _) fun call => (console_entries call).2.2
  · exact h.requests.1
  · exact h.responses.1

theorem items_send {answer : Except LinkError Unit} (h : send line client = ⟨answer, now, trace⟩) :
    trace.items = [] := by
  have honly := only_send line client
  rw [h] at honly
  exact honly.items_eq_nil (by decide)

theorem items_receive {answer : Except LinkError String} (h : receive client = ⟨answer, now, trace⟩) :
    trace.items = [] := by
  have honly := only_receive client
  rw [h] at honly
  exact honly.items_eq_nil (by decide)

/-- a line that is sent is one request -/
theorem balance_send (h : send line client = ⟨.ok (), now, trace⟩) : trace.balance = ⟨0, 0, 0, 1, 0⟩ := by
  have hbooks := accounted_send line client
  rw [h] at hbooks
  exact hbooks.balance

theorem balance_unsent (h : send line client = ⟨.error e, now, trace⟩) : trace.balance = ⟨0, 0, 0, 0, 0⟩ := by
  have hbooks := accounted_send line client
  rw [h] at hbooks
  exact hbooks.balance

/-- a response that is received is one response -/
theorem balance_receive (h : receive client = ⟨.ok response, now, trace⟩) : trace.balance = ⟨0, 0, 0, 0, 1⟩ := by
  have hbooks := accounted_receive client
  rw [h] at hbooks
  exact hbooks.balance

end Client

/-! ## Stops -/

namespace Stop

/-- one for a stop at an exchange that failed -/
def failed : Stop → Nat
  | sending _ | receiving _ => 1
  | _ => 0

/-- one for a stop at an exchange that failed after its line was sent -/
def unanswered : Stop → Nat
  | receiving _ => 1
  | _ => 0

/-- one for a stop at a response that arrived and was no text -/
def notText : Stop → Nat
  | receiving (.invalidUtf8 ..) => 1
  | _ => 0

end Stop

/-- a response that arrived is one, also if it is no text -/
theorem Client.balance_unreceived {client now : Client} {trace : Trace} {e : LinkError}
    (h : receive client = ⟨.error e, now, trace⟩) : trace.balance = ⟨0, 0, 0, 0, (Stop.receiving e).notText⟩ := by
  have hbooks := accounted_receive client
  rw [h] at hbooks
  have hcall : ([Call.received (.error e)].filterMap Call.payload?).length = (Stop.receiving e).notText := by
    cases e <;> rfl
  rw [hbooks.balance, hcall]
  rfl

/-! ## Courses -/

/-- the lines of a source -/
def Source.texts (source : Source) : List String :=
  source.filterMap fun
    | .line text => some text
    | .failure _ => none

/-- the books of a course agree with what it took of its source, and with where it stopped -/
structure Balanced (source : Source) (p : Proceedings) : Prop where
  split : source = p.trace.items ++ p.left
  balance : p.trace.balance = ⟨p.trace.items.texts.length, p.trace.items.texts.countP isBlank, p.answered.length,
    p.answered.length + p.stop.unanswered, p.answered.length + p.stop.notText⟩
  lines : p.trace.items.texts.length = p.trace.items.texts.countP isBlank + p.answered.length + p.stop.failed

namespace Shell

variable {client now : Client} {line : String} {sent got : Trace}

theorem balance_asking (line : String) : (asking line).balance = ⟨1, 0, 0, 0, 0⟩ := rfl

variable {mid : Client} {response : String}

/-- a line that is answered is one line, one exchange, one request and one response -/
theorem balance_answering (send : Client.send line client = ⟨.ok (), mid, sent⟩)
    (receive : Client.receive mid = ⟨.ok response, now, got⟩) :
    (answering line (sent ++ got)).balance = ⟨1, 0, 1, 1, 1⟩ := by
  have htrip : Trace.balance [.sampled .roundTrip] = ⟨0, 0, 1, 0, 0⟩ := rfl
  rw [answering, Trace.balance_append, Trace.balance_append, Trace.balance_append, balance_asking,
    Client.balance_send send, Client.balance_receive receive, htrip]
  rfl

theorem items_answering (send : Client.send line client = ⟨.ok (), mid, sent⟩)
    (receive : Client.receive mid = ⟨.ok response, now, got⟩) :
    (answering line (sent ++ got)).items = [.line line] := by
  rw [answering, Trace.items_append, Trace.items_append, Trace.items_append, Client.items_send send,
    Client.items_receive receive]
  rfl

end Shell

namespace Balanced

variable {line : String} {later : Source} {p : Proceedings} {first : Trace}

/-- a line comes before it: a blank one, or one that is answered -/
theorem cons (h : Balanced later p) (answered : List (String × String)) (hitems : first.items = [.line line])
    (hfirst : first.balance = ⟨1, [line].countP isBlank, answered.length, answered.length, answered.length⟩)
    (hone : [line].countP isBlank + answered.length = 1) :
    Balanced (.line line :: later) { p with answered := answered ++ p.answered, trace := first ++ p.trace } := by
  have htexts : Source.texts (first ++ p.trace).items = [line] ++ p.trace.items.texts := by
    rw [Trace.items_append, hitems]
    rfl
  have hlines := h.lines
  refine ⟨?_, ?_, ?_⟩
  · rw [Trace.items_append, hitems]
    exact congrArg _ h.split
  · rw [htexts, Trace.balance_append, hfirst, h.balance, List.countP_append, List.length_append, List.length_append]
    ext <;> simp [Nat.add_assoc]
  · simp only [htexts, List.countP_append, List.length_append, List.length_singleton]
    omega

/-- the session stops at a line -/
theorem of_stop (answered : List (String × String)) (stop : Stop) {client : Client} (hmore : ¬ isBlank line = true)
    (hitems : first.items = [.line line]) (hfirst : first.balance = ⟨1, 0, answered.length,
      answered.length + stop.unanswered, answered.length + stop.notText⟩) (hone : answered.length + stop.failed = 1)
    (later : Source) :
    Balanced (.line line :: later) { answered, stop, left := later, client, trace := first } where
  split := by
    rw [hitems]
    rfl
  balance := by
    simp [hitems, Source.texts, hfirst, hmore]
  lines := by
    simp [hitems, Source.texts, hmore, hone]

end Balanced

/-- asking for a line that fails adds nothing -/
theorem SessionError.balance_tally (cause : SessionError) : cause.tally.balance = ⟨0, 0, 0, 0, 0⟩ := by
  cases cause with
  | client e => cases e <;> rfl
  | _ => rfl

/-- **The books of a course.** -/
theorem Course.balanced {client : Client} {source : Source} {p : Proceedings} (h : Course client source p) :
    Balanced source p := by
  induction h with
  | finished client => exact ⟨rfl, rfl, rfl⟩
  | asking client cause later =>
    have hitems : Trace.items (.asked (.error cause) :: cause.tally) = [.failure cause] := by
      rw [Trace.items_cons, (cause.quiet_tally.only (o := .screen)).items_eq_nil (by decide)]
      rfl
    have hbalance : Trace.balance (.asked (.error cause) :: cause.tally) = ⟨0, 0, 0, 0, 0⟩ := by
      rw [← List.singleton_append, Trace.balance_append, cause.balance_tally]
      rfl
    refine ⟨?_, ?_, ?_⟩
    · rw [hitems]
      rfl
    · rw [hitems]
      exact hbalance
    · rw [hitems]
      rfl
  | @blank client line later p none h ih =>
    have hone : [line].countP isBlank = 1 := by simp [none]
    have hfirst : Trace.balance (Shell.asking line ++ [.counted .blankLines 1]) = ⟨1, 1, 0, 0, 0⟩ := rfl
    exact ih.cons [] rfl (by rw [hfirst, hone]; rfl) (by rw [hone]; rfl)
  | @sending client now line e sent more send later =>
    refine .of_stop [] (.sending e) more ?_ ?_ rfl later
    · rw [Trace.items_append, Client.items_send send]
      rfl
    · rw [Trace.balance_append, Client.balance_unsent send]
      rfl
  | @receiving client mid now line e sent got more send receive later =>
    refine .of_stop [] (.receiving e) more ?_ ?_ rfl later
    · rw [Trace.items_append, Trace.items_append, Client.items_send send, Client.items_receive receive]
      rfl
    · rw [Trace.balance_append, Trace.balance_append, Client.balance_send send, Client.balance_unreceived receive,
        Shell.balance_asking]
      simp [Stop.unanswered]
  | @showing client mid now line response sent got more send receive later cause =>
    exact .of_stop [(line, response)] (.showing cause) more (Shell.items_answering send receive)
      (Shell.balance_answering send receive) rfl later
  | @answered client mid now line response sent got later p more send receive h ih =>
    have hnone : [line].countP isBlank = 0 := by simp [more]
    exact ih.cons [(line, response)] (Shell.items_answering send receive)
      (by rw [Shell.balance_answering send receive, hnone]; rfl) (by rw [hnone]; rfl)

/-! ## Whole sessions -/

namespace Session

variable {session : Session} {client : Client} {source : Source} {p : Proceedings} {r : Run Session SessionError Unit}

theorem Sitting.balanced (h : Sitting client source p) : Balanced source p := by
  cases h with
  | unwelcome cause => exact ⟨rfl, rfl, rfl⟩
  | welcome course => exact course.balanced

theorem balance_parting (answer : Except SessionError Unit) (client : Client) :
    (parting answer client).balance = ⟨0, 0, 0, 0, 0⟩ := by
  obtain ⟨limit, _ | link⟩ := client <;> cases answer <;> rfl

/-- the books of a run are those of its course -/
theorem Went.balance (h : Went session p r) : r.trace.balance = p.trace.balance ∧ r.trace.items = p.trace.items := by
  have hend : (parting p.stop.answer p.client).items = [] :=
    ((quiet_parting _ _).only (o := .screen)).items_eq_nil (by decide)
  constructor
  · calc r.trace.balance
        = p.trace.balance + (parting p.stop.answer p.client).balance := by
          rw [← Trace.balance_offScreen, h.apart, Trace.balance_append]
      _ = p.trace.balance := by rw [balance_parting]; rfl
  · rw [← Trace.items_offScreen, h.apart, Trace.items_append, hend, List.append_nil]

theorem failedRun_run (r : Run Session SessionError Unit) :
    (if failedRun (.run, r) then 1 else 0) = match r.answer with | .ok _ => 0 | .error _ => 1 := by
  rcases r with ⟨_ | _, _, _⟩ <;> rfl

/-- **The books of a session balance.** A session with an open client, over any source, any stream and any screen, with
times shown or not. It went some course `p`. Let `trips` be the exchanges of the course that were completed. Then:
- what it took of the source and what it left are the source; it counted a line for each line that it took, and a blank
  line for each of these that has nothing but white space;
- the lines are the blank ones, the trips, and one more if the session stopped because an exchange failed;
- the requests sent are the trips, and one more if it stopped because a response could not be received;
- the responses are the trips, and one more if it stopped because a response was no text;
- it counted a failure of the session exactly if it returned an error, and one close. -/
theorem run_balances (source : Source) (limit : UInt32) (link : Link) (screen : Outflow) (timing : Bool)
    (laps : List Nat) :
    let session : Session := ⟨source, ⟨⟨limit, some link⟩, screen, timing, laps⟩⟩
    let r := run session
    let texts := r.trace.items.texts
    let trips := Trace.samples .roundTrip r.trace
    ∃ p, Went session p r ∧ trips = p.answered.length ∧
      source = r.trace.items ++ r.state.source ∧
      Trace.total .linesRead r.trace = texts.length ∧ Trace.total .blankLines r.trace = texts.countP isBlank ∧
      Trace.total .linesRead r.trace = Trace.total .blankLines r.trace + trips + p.stop.failed ∧
      Trace.total .requestsSent r.trace = trips + p.stop.unanswered ∧
      Trace.total .responsesReceived r.trace = trips + p.stop.notText ∧
      Trace.total .sessionError r.trace = (match r.answer with | .ok _ => 0 | .error _ => 1) ∧
      Trace.total .close r.trace = 1 := by
  intro session r texts trips
  obtain ⟨p, hwent⟩ := went_run session
  obtain ⟨hbalance, hitems⟩ := hwent.balance
  obtain ⟨hsplit, hbooks, hlines⟩ := hwent.sitting.balanced
  rw [← hbalance, ← hitems] at hbooks
  rw [← hitems] at hlines hsplit
  obtain ⟨hread, hblank, htrips, hsent, hreceived⟩ : Trace.total .linesRead r.trace = texts.length ∧
      Trace.total .blankLines r.trace = texts.countP isBlank ∧ trips = p.answered.length ∧
      Trace.total .requestsSent r.trace = p.answered.length + p.stop.unanswered ∧
      Trace.total .responsesReceived r.trace = p.answered.length + p.stop.notText := by
    simpa [Trace.balance] using hbooks
  obtain ⟨hcloses, hfailures⟩ := booked_perform .run session
  refine ⟨p, hwent, htrips, ?_, hread, hblank, ?_, ?_, ?_, ?_, ?_⟩
  · rw [hwent.left]
    exact hsplit
  · rw [hread, hblank, htrips]
    exact hlines
  · rw [hsent, htrips]
  · rw [hreceived, htrips]
  · exact hfailures.trans (failedRun_run r)
  · have hend : r.state.shell.client = ⟨p.client.limit, none⟩ := hwent.client
    have hheld : Trace.total .close r.trace + Client.held r.state.shell.client = 1 := hcloses
    rw [hend] at hheld
    exact hheld

/-- a blank line, a line that is answered, and one whose response is no text -/
example : (run ⟨[.line " ", .line "a", .line "b"], ⟨⟨16, some ⟨{ arrivals := [.bytes [1, 0, 0, 0, 111],
    .bytes [1, 0, 0, 0, 255]] }, {}⟩⟩, {}, false, []⟩⟩).trace.balance = ⟨3, 1, 1, 2, 2⟩ := by
  decide +kernel

end Session

end QueryConsole
