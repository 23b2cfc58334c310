import QueryConsole.Proofs.Client.Accounts
import QueryConsole.Proofs.Client.Reception

/-
What a client tells about its life.

Calls on the stream tell nothing, and neither do the counts beside them. So a client that uses its link tells nothing as
long as the use succeeds; if it fails, the client tells the failure and that it gives the link up (`Used`), and nothing
ever after. A link that is given up without a failure, by `close` or by the drop of the client, is told once, too.

A failure of an open client is never that the client is closed. So of all failures that a life was answered with at most
one is another one, and this is the one that was told.

Results:
- `used_send`, `used_receive`, `used_perform`: what a use of an open link tells.
- `perform_refused`: who is refused as closed tells nothing.
- `told_life`: a life with its drop, by induction on the requests.
-/

namespace QueryConsole

/-! ## Calls tell nothing -/

namespace Trace

variable {trace : Trace}

/-- what is told after silence -/
theorem clues_silent (h : trace.clues = []) (later : Trace) : (trace ++ later).clues = later.clues := by
  rw [clues_append, h, List.nil_append]

/-- who only reads tells nothing -/
theorem clues_of_isReading (h : ∀ event ∈ trace, event.isReading = true) : trace.clues = [] := by
  rw [clues, List.filterMap_eq_nil_iff]
  intro event hevent
  have hreading := h event hevent
  cases event with
  | told => cases hreading
  | _ => rfl

end Trace

theorem Outflow.clues_deliver (bytes : Bytes) (outflow : Outflow) : (deliver bytes outflow).trace.clues = [] := by
  obtain ⟨later, writes, hwrites, hshape⟩ := deliver_shape bytes outflow
  have hnone : writes.clues = [] := by
    rw [Trace.clues, List.filterMap_eq_nil_iff]
    intro event hevent
    obtain ⟨taken, rfl⟩ := hwrites event hevent
    rfl
  rcases hshape with ⟨hrun, -⟩ | ⟨e, before, last, hrun, -, hlast⟩
  · rw [hrun]
    exact Trace.clues_silent hnone _
  · have hcalls : Trace.clues (before ++ [last]) = [] := by
      rcases hlast with rfl | ⟨cause, rfl, rfl⟩
      · exact hnone
      · exact Trace.clues_silent hnone _
    rw [hrun, List.append_cons]
    exact Trace.clues_silent hcalls _

namespace Client

variable {limit : UInt32} {client : Client} {request : Request}

/-! ## Using an open link -/

/-- what a client tells that gives its link up over a failure -/
def telling (e : LinkError) : List Clue := [.failed e.message e.failureKind, .closed]

theorem clues_parting (e : LinkError) : (parting e).clues = telling e := rfl

/-- what a use of an open link comes to: nothing is told, and the link is kept; or the use fails, this is told, and the
link is given up -/
inductive Used (limit : UInt32) : Run Client LinkError α → Prop
  | kept {a : α} {link : Link} {trace : Trace} (silent : trace.clues = []) :
    Used limit ⟨.ok a, ⟨limit, some link⟩, trace⟩
  | lost {e : LinkError} {trace : Trace} (other : e ≠ .closed) (told : trace.clues = telling e) :
    Used limit ⟨.error e, ⟨limit, none⟩, trace⟩

theorem used_send (line : String) (limit : UInt32) (link : Link) : Used limit (send line ⟨limit, some link⟩) := by
  obtain ⟨inflow, outflow⟩ := link
  have hclues := Outflow.clues_deliver (Utf8.encode line) outflow
  obtain ⟨later, trace, -, hdeliver⟩ := Outflow.deliver_cases (Utf8.encode line) outflow
  have hlost : ∀ e, e ≠ .closed → Outflow.deliver (Utf8.encode line) outflow = ⟨.error e, later, trace⟩ →
      Used limit (send line ⟨limit, some ⟨inflow, outflow⟩⟩) := by
    intro e hother hrun
    rw [hrun] at hclues
    rw [send_delivered hrun]
    exact .lost hother ((Trace.clues_silent hclues _).trans (clues_parting e))
  rcases hdeliver with ⟨cause, hrun, -⟩ | ⟨cause, hrun, -⟩ | ⟨hrun, -⟩
  · exact hlost _ (by simp) hrun
  · exact hlost _ (by simp) hrun
  · rw [hrun] at hclues
    rw [send_delivered hrun]
    exact .kept (Trace.clues_silent hclues _)

theorem clues_afterword (answer : Except LinkError Bytes) :
    (afterword answer).clues = match verdict answer with | .ok _ => [] | .error e => telling e := by
  cases answer with
  | error e => rfl
  | ok payload => cases hdecode : Utf8.decode payload <;> simp only [afterword, verdict, hdecode] <;> rfl

/-- what an open client is answered is never that it is closed -/
theorem Received.ne_closed {max : Nat} {front : Frame.Front} {e : LinkError} (h : Received max front (.error e)) :
    e ≠ .closed := by
  cases h with
  | cut ending => cases ending <;> simp [Frame.cutShort]
  | _ => simp

theorem used_receive (limit : UInt32) (link : Link) : Used limit (receive ⟨limit, some link⟩) := by
  obtain ⟨inflow, outflow⟩ := link
  have hclues := Trace.clues_of_isReading (Frame.reading_read limit.toNat inflow)
  have hreceived := received_receive limit inflow outflow
  rcases hrun : Frame.read limit.toNat inflow with ⟨answer, later, trace⟩
  rw [hrun] at hclues
  rw [receive_open hrun] at hreceived ⊢
  have htrace : Trace.clues (trace ++ afterword answer) = (afterword answer).clues := Trace.clues_silent hclues _
  rw [clues_afterword] at htrace
  cases hverdict : verdict answer with
  | ok text =>
    rw [hverdict] at htrace
    exact .kept htrace
  | error e =>
    rw [hverdict] at htrace hreceived
    exact .lost hreceived.ne_closed htrace

/-- an invoke is a use of the link like its parts -/
theorem used_invoke (line : String) (limit : UInt32) (link : Link) : Used limit (invoke line ⟨limit, some link⟩) := by
  have hsend := used_send line limit link
  rcases hrun : send line ⟨limit, some link⟩ with ⟨e | _, mid, trace⟩
  · rw [hrun] at hsend
    rw [invoke_failed hrun]
    cases hsend with
    | lost other told => exact .lost other told
  · rw [hrun] at hsend
    rw [invoke_sent hrun]
    cases hsend with
    | @kept _ link' _ silent =>
      have hreceive := used_receive limit link'
      generalize receive ⟨limit, some link'⟩ = r at hreceive
      cases hreceive with
      | kept silent' => exact .kept ((Trace.clues_silent silent _).trans silent')
      | lost other told => exact .lost other ((Trace.clues_silent silent _).trans told)

theorem Used.map {r : Run Client LinkError α} (h : Used limit r) (f : α → β) :
    Used limit ⟨r.answer.map f, r.state, r.trace⟩ := by
  cases h with
  | kept silent => exact .kept silent
  | lost other told => exact .lost other told

/-- **Every request but `close` is a use of the link.** -/
theorem used_perform (h : request ≠ .close) (limit : UInt32) (link : Link) :
    Used limit (perform request ⟨limit, some link⟩) := by
  cases request with
  | send line =>
    rw [perform, Act.run_bind_pure]
    exact (used_send line limit link).map _
  | receive =>
    rw [perform, Act.run_bind_pure]
    exact (used_receive limit link).map _
  | invoke line =>
    rw [perform, Act.run_bind_pure]
    exact (used_invoke line limit link).map _
  | close => exact absurd rfl h

/-- **Who is refused as closed tells nothing.** -/
theorem perform_refused (h : (perform request client).answer = .error .closed) :
    (perform request client).trace.clues = [] := by
  obtain ⟨limit, _ | link⟩ := client
  · by_cases hclose : request = .close
    · subst hclose
      cases h
    · rw [perform_closed hclose]
      rfl
  · by_cases hclose : request = .close
    · subst hclose
      cases h
    · have hused := used_perform hclose limit link
      generalize perform request ⟨limit, some link⟩ = r at h hused
      cases hused with
      | kept => cases h
      | lost other =>
        cases h
        exact absurd rfl other

/-! ## Lives -/

/-- the failures that some requests were answered with, apart from being refused as closed -/
def losses (runs : List (Run Client LinkError (Option String))) : List LinkError := (failures runs).filter (· ≠ .closed)

theorem losses_cons (r : Run Client LinkError (Option String)) (runs : List (Run Client LinkError (Option String))) :
    losses (r :: runs) = losses [r] ++ losses runs := by
  rw [losses, losses, losses, ← List.filter_append, failures, failures, failures, ← List.filterMap_append,
    List.singleton_append]

/-- a closed client tells nothing any more -/
theorem silent_closed (limit : UInt32) (requests : List Request) :
    let runs := Act.inTurn (requests.map perform) ⟨limit, none⟩
    losses runs = [] ∧ (Run.wholeTrace runs).clues = [] := by
  induction requests with
  | nil => exact ⟨rfl, rfl⟩
  | cons request later ih =>
    obtain ⟨hlosses, hclues⟩ := ih
    by_cases hclose : request = .close
    · subst hclose
      exact ⟨hlosses, hclues⟩
    · have hrefused := perform_closed hclose limit
      have hstate : (perform request ⟨limit, none⟩).state = ⟨limit, none⟩ := by rw [hrefused]
      simp only [List.map_cons, Act.inTurn, hstate]
      rw [losses_cons, Run.wholeTrace_cons, Trace.clues_append, hlosses, hclues, hrefused]
      exact ⟨rfl, rfl⟩

/-- whatever closed the client was the last to tell something: later requests do not, and neither does the drop -/
theorem last_to_tell (r : Run Client LinkError (Option String)) (hstate : r.state = ⟨limit, none⟩) (start : Client)
    (later : List Request) :
    let runs := r :: Act.inTurn (later.map perform) r.state
    let drop : Run Client LinkError Unit := close (Run.lastState start runs)
    losses runs = losses [r] ∧ (Run.wholeTrace runs ++ drop.trace).clues = r.trace.clues := by
  intro runs drop
  obtain ⟨hlosses, hclues⟩ := silent_closed limit later
  have hdrop : drop.trace = [] := by
    show (close (Run.lastState r.state (Act.inTurn (later.map perform) r.state)) : Run Client LinkError Unit).trace = []
    rw [hstate, lastState_closed]
    rfl
  refine ⟨?_, ?_⟩
  · rw [losses_cons, hstate, hlosses, List.append_nil]
  · rw [hdrop, List.append_nil, Run.wholeTrace_cons, Trace.clues_append, hstate, hclues, List.append_nil]

/-- **What a life tells that ends with the drop of its client.** -/
theorem told_life (limit : UInt32) (link : Link) (requests : List Request) :
    let runs := Act.inTurn (requests.map perform) ⟨limit, some link⟩
    let drop : Run Client LinkError Unit := close (Run.lastState ⟨limit, some link⟩ runs)
    let clues := (Run.wholeTrace runs ++ drop.trace).clues
    losses runs = [] ∧ clues = [.closed] ∨ ∃ e, losses runs = [e] ∧ clues = telling e := by
  induction requests generalizing link with
  | nil => exact .inl ⟨rfl, rfl⟩
  | cons request later ih =>
    rw [List.map_cons, Act.inTurn]
    by_cases hclose : request = .close
    · subst hclose
      obtain ⟨hlosses, hclues⟩ := last_to_tell (perform .close ⟨limit, some link⟩) rfl ⟨limit, some link⟩ later
      exact .inl ⟨hlosses, hclues⟩
    · have hused := used_perform hclose limit link
      generalize perform request ⟨limit, some link⟩ = r at hused
      cases hused with
      | @kept answer link' trace silent =>
        -- a request that keeps the link is silent, and leaves the telling to those after it
        let runs := Act.inTurn (later.map perform) ⟨limit, some link'⟩
        let drop : Run Client LinkError Unit := close (Run.lastState ⟨limit, some link'⟩ runs)
        have hlosses : losses (⟨.ok answer, ⟨limit, some link'⟩, trace⟩ :: runs) = losses runs := losses_cons _ _
        have hclues : Trace.clues (trace ++ Run.wholeTrace runs ++ drop.trace) =
            Trace.clues (Run.wholeTrace runs ++ drop.trace) := by
          rw [List.append_assoc, Trace.clues_silent silent]
        show losses (_ :: runs) = [] ∧ Trace.clues (trace ++ Run.wholeTrace runs ++ drop.trace) = _ ∨
          ∃ e, losses (_ :: runs) = [e] ∧ Trace.clues (trace ++ Run.wholeTrace runs ++ drop.trace) = _
        rw [hlosses, hclues]
        exact ih link'
      | @lost e trace other told =>
        obtain ⟨hlosses, hclues⟩ := last_to_tell ⟨.error e, ⟨limit, none⟩, trace⟩ rfl ⟨limit, some link⟩ later
        refine .inr ⟨e, ?_, hclues.trans told⟩
        rw [hlosses]
        simp [losses, failures, other]

/-- nothing is told by those requests of a life that are refused as closed -/
theorem refused_life {requests : List Request} {r : Run Client LinkError (Option String)}
    (hmem : r ∈ Act.inTurn (requests.map perform) client) (h : r.answer = .error .closed) : r.trace.clues = [] := by
  obtain ⟨k, hk⟩ := List.getElem?_of_mem hmem
  rw [Act.getElem?_inTurn, List.getElem?_map] at hk
  cases hrequest : requests[k]? with
  | none => simp [hrequest] at hk
  | some request =>
    rw [hrequest] at hk
    obtain rfl : perform request _ = r := Option.some.inj hk
    exact perform_refused h

end Client

end QueryConsole
