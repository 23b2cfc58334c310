import QueryConsole.Proofs.Client.Exchange
import QueryConsole.Proofs.Flow.TextFrames

/-
A client that invokes lines in turn, over a direction that takes everything.

Its life is a list of runs, one for each line: the line is sent, one frame is read, and something is noted about it. If
that gave a text the client goes on with the next line; if not, all later lines are refused. What comes from the peer is
compared with the frames of some replies (`Meets`).

Results:
- `taken_invoking`: wherever the client is, it has sent a number of whole lines.
- `answers_invoking`: the answers, in the order of the replies.
- `answered_invoking`: how much was read and sent, once some lines were answered.
- `responsive_invoking`, `paced_invoking`: it waits for nothing but bytes, and keeps pace with them.
- `write_invoking`, `waiting_invoking`: when it writes, and what it lacks when it waits.
-/

namespace QueryConsole

namespace Client

variable {limit : UInt32} {line : String} {lines replies : List String} {inflow later : Inflow} {trace done : Trace}
  {answer : Except LinkError Bytes} {text : String} {e : LinkError}

/-! ## One invoke -/

/-- what a client does to send a line over a direction that takes everything -/
def sent (line : String) : Trace := Outflow.delivery (Utf8.encode line) ++ sending line

theorem send_open (line : String) (limit : UInt32) (inflow : Inflow) :
    send line ⟨limit, some ⟨inflow, {}⟩⟩ = ⟨.ok (), ⟨limit, some ⟨inflow, {}⟩⟩, sent line⟩ :=
  Act.run_bind_ok (onLink_ok (sending_eq (Outflow.deliver_open _) inflow) limit)

theorem invoke_open (h : Frame.read limit.toNat inflow = ⟨answer, later, trace⟩) (line : String) :
    invoke line ⟨limit, some ⟨inflow, {}⟩⟩ =
      ⟨verdict answer, kept limit ⟨later, {}⟩ (verdict answer), sent line ++ (trace ++ afterword answer)⟩ := by
  rw [invoke_sent (send_open line limit inflow), receive_open h]
  rfl

/-- a client that is closed refuses a line -/
def refusal (limit : UInt32) : Run Client LinkError String := ⟨.error .closed, ⟨limit, none⟩, [.counted .closedError 1]⟩

theorem noRead_sent (line : String) : (sent line).NoRead := by
  unfold sent Outflow.delivery
  split_ifs <;> simp [sending]

theorem taken_sent (line : String) : Trace.taken .link (sent line) = Utf8.encode line := by
  unfold sent Outflow.delivery
  split_ifs with h <;> simp [sending, Event.taken, h]

/-! ## Invoking lines in turn -/

/-- the runs of a client that invokes lines in turn, over a direction that takes everything -/
def invoking (limit : UInt32) (lines : List String) (inflow : Inflow) : List (Run Client LinkError String) :=
  Act.inTurn (lines.map invoke) ⟨limit, some ⟨inflow, {}⟩⟩

theorem length_invoking (limit : UInt32) (lines : List String) (inflow : Inflow) :
    (invoking limit lines inflow).length = lines.length := by
  rw [invoking, Act.length_inTurn, List.length_map]

theorem inTurn_refused (limit : UInt32) (lines : List String) :
    Act.inTurn (lines.map invoke) ⟨limit, none⟩ = lines.map fun _ => refusal limit := by
  induction lines with
  | nil => rfl
  | cons line lines ih => exact congrArg (refusal limit :: ·) ih

/-- a line that is answered, and the lines after it -/
theorem invoking_answered (h : Frame.read limit.toNat inflow = ⟨answer, later, trace⟩)
    (hverdict : verdict answer = .ok text) (line : String) (lines : List String) :
    invoking limit (line :: lines) inflow =
      ⟨.ok text, ⟨limit, some ⟨later, {}⟩⟩, sent line ++ (trace ++ afterword answer)⟩ ::
        invoking limit lines later := by
  rw [invoking, List.map_cons, Act.inTurn, invoke_open h, hverdict]
  rfl

/-- a line that fails, and the lines after it -/
theorem invoking_failed (h : Frame.read limit.toNat inflow = ⟨answer, later, trace⟩)
    (hverdict : verdict answer = .error e) (line : String) (lines : List String) :
    invoking limit (line :: lines) inflow =
      ⟨.error e, ⟨limit, none⟩, sent line ++ (trace ++ afterword answer)⟩ ::
        lines.map fun _ => refusal limit := by
  rw [invoking, List.map_cons, Act.inTurn, invoke_open h, hverdict]
  exact congrArg (_ :: ·) (inTurn_refused limit lines)

/-- **What invoking lines in turn can do.** There is no line; or the first is sent, one frame is read, and either the
later lines follow or they are refused. -/
theorem invoking_induction {motive : List String → Inflow → List (Run Client LinkError String) → Prop}
    (done : ∀ inflow, motive [] inflow [])
    (answered : ∀ line lines inflow answer later trace text runs,
      Frame.read limit.toNat inflow = ⟨answer, later, trace⟩ → verdict answer = .ok text → motive lines later runs →
      motive (line :: lines) inflow
        (⟨.ok text, ⟨limit, some ⟨later, {}⟩⟩, sent line ++ (trace ++ afterword answer)⟩ :: runs))
    (failed : ∀ line lines inflow answer later trace e,
      Frame.read limit.toNat inflow = ⟨answer, later, trace⟩ → verdict answer = .error e →
      motive (line :: lines) inflow
        (⟨.error e, ⟨limit, none⟩, sent line ++ (trace ++ afterword answer)⟩ :: lines.map fun _ => refusal limit))
    (lines : List String) (inflow : Inflow) : motive lines inflow (invoking limit lines inflow) := by
  induction lines generalizing inflow with
  | nil => exact done inflow
  | cons line lines ih =>
    rcases h : Frame.read limit.toNat inflow with ⟨answer, later, trace⟩
    cases hverdict : verdict answer with
    | ok text =>
      rw [invoking_answered h hverdict]
      exact answered line lines inflow answer later trace text _ h hverdict (ih later)
    | error e =>
      rw [invoking_failed h hverdict]
      exact failed line lines inflow answer later trace e h hverdict

/-! ## What is sent -/

/-- the line of an invoke is sent at its very beginning, or not yet -/
theorem taken_within {rest : Trace} (h : done <+: sent line ++ rest) (hrest : Trace.taken .link rest = []) :
    Trace.taken .link done = [] ∨ Trace.taken .link done = Utf8.encode line := by
  by_cases hempty : Utf8.encode line = []
  · refine .inl (Trace.view_of_part_nil (Event.taken .link) h ?_)
    rw [← Trace.taken, Trace.taken_append, taken_sent, hempty, hrest, List.append_nil]
  · rw [sent, Outflow.delivery, if_neg hempty, List.append_assoc, List.append_assoc] at h
    have hquiet : Trace.taken .link ([.flushed .link (.ok ())] ++ (sending line ++ rest)) = [] := by
      simp [sending, Event.taken, hrest]
    have hview := Trace.view_of_part (Event.taken .link) (show done <+: [] ++ .wrote .link _ :: _ from h) rfl hquiet
    rwa [Event.taken, if_pos rfl] at hview

theorem taken_reading (h : Frame.read limit.toNat inflow = ⟨answer, later, trace⟩) :
    Trace.taken .link (trace ++ afterword answer) = [] := by
  have hread := Trace.taken_of_isReading (Frame.reading_read limit.toNat inflow) .link
  rw [h] at hread
  rw [Trace.taken_append, hread, (quiet_afterword answer).2, List.append_nil]

theorem taken_refusals (limit : UInt32) (lines : List String) :
    Trace.taken .link (Run.wholeTrace (lines.map fun _ => refusal limit)) = [] := by
  induction lines with
  | nil => rfl
  | cons line lines ih => exact ih

/-- **Wherever the client is, it has sent a number of whole lines.** -/
theorem taken_invoking (lines : List String) (inflow : Inflow) :
    ∀ done, done <+: Run.wholeTrace (invoking limit lines inflow) →
      ∃ k ≤ lines.length, Trace.taken .link done = (lines.take k).flatMap Utf8.encode := by
  apply invoking_induction (motive := fun lines _ runs => ∀ done, done <+: Run.wholeTrace runs →
    ∃ k ≤ lines.length, Trace.taken .link done = (lines.take k).flatMap Utf8.encode)
  · intro inflow done hdone
    obtain rfl := List.prefix_nil.1 hdone
    exact ⟨0, le_rfl, rfl⟩
  · intro line lines inflow answer later trace text runs h hverdict ih done hdone
    rcases Trace.prefix_of_append hdone with hfirst | ⟨more, rfl, hmore⟩
    · rcases taken_within hfirst (taken_reading h) with hnone | hline
      · exact ⟨0, Nat.zero_le _, hnone⟩
      · exact ⟨1, by simp, by simpa using hline⟩
    · obtain ⟨k, hk, htaken⟩ := ih more hmore
      refine ⟨k + 1, by simpa using hk, ?_⟩
      rw [Trace.taken_append, Trace.taken_append, taken_sent, taken_reading h, htaken]
      simp
  · intro line lines inflow answer later trace e h hverdict done hdone
    have hquiet : Trace.taken .link (trace ++ afterword answer ++
        Run.wholeTrace (lines.map fun _ => refusal limit)) = [] := by
      rw [Trace.taken_append, taken_reading h, taken_refusals, List.append_nil]
    rw [Run.wholeTrace_cons, List.append_assoc] at hdone
    rcases taken_within hdone hquiet with hnone | hline
    · exact ⟨0, Nat.zero_le _, hnone⟩
    · exact ⟨1, by simp, by simpa using hline⟩

/-! ## What is answered -/

/-- what the first `n` invokes are answered with when these replies come back: each in its turn, until one is too long
for the client, which is closed by it; fewer if there are not so many replies -/
def answers (limit : Nat) : Nat → List String → List (Except LinkError String)
  | 0, _ => []
  | _ + 1, [] => []
  | n + 1, reply :: later =>
    if (Utf8.encode reply).length ≤ limit then .ok reply :: answers limit n later
    else .error (.frameTooLarge (Utf8.encode reply).length limit) :: List.replicate n (.error .closed)

/-- replies that fit are the answers -/
theorem answers_fit {limit : Nat} (n : Nat) {replies : List String}
    (hfits : ∀ reply ∈ replies, (Utf8.encode reply).length ≤ limit) :
    answers limit n replies = (replies.take n).map .ok := by
  induction n generalizing replies with
  | zero => rfl
  | succ n ih =>
    cases replies with
    | nil => rfl
    | cons reply later =>
      rw [answers, if_pos (hfits reply List.mem_cons_self), ih fun r hr => hfits r (List.mem_cons_of_mem _ hr)]
      rfl

/-- on a stream that neither ends nor fails, a trace has read the front of the frames of the replies -/
structure Meets (done : Trace) (replies : List String) : Prop where
  delivers : ∀ e ∈ done, e.Delivers
  received : Trace.received done <+: replies.flatMap Frame.ofText

theorem Meets.of_part (h : Meets done replies) {before : Trace} (hbefore : before <+: done) : Meets before replies := by
  obtain ⟨rest, rfl⟩ := hbefore
  refine ⟨fun e he => h.delivers e (by simp [he]), List.IsPrefix.trans ⟨Trace.received rest, ?_⟩ h.received⟩
  rw [Trace.received_append]

/-- an invoke that met the front of some frames read the first of them, or was answered with its size -/
theorem Meets.first {rest : Trace} (hmeets : Meets (sent line ++ (trace ++ afterword answer) ++ rest) replies)
    (h : Frame.read limit.toNat inflow = ⟨answer, later, trace⟩)
    (hlarge : ∀ reply ∈ replies, (Utf8.encode reply).length ≤ Frame.largest) :
    ∃ reply others, replies = reply :: others ∧
      ((Utf8.encode reply).length ≤ limit.toNat → answer = .ok (Utf8.encode reply) ∧
        Trace.received (sent line ++ (trace ++ afterword answer)) = Frame.ofText reply ∧ Meets rest others) ∧
      (limit.toNat < (Utf8.encode reply).length →
        answer = .error (.frameTooLarge (Utf8.encode reply).length limit.toNat)) := by
  obtain ⟨hall, hmet⟩ := hmeets
  have hread : ∀ e ∈ (Frame.read limit.toNat inflow).trace, e.Delivers := by
    rw [h]
    exact fun e he => hall e (by simp [he])
  have hreceived : Trace.received (sent line ++ (trace ++ afterword answer)) = Trace.received trace := by
    calc Trace.received (sent line ++ (trace ++ afterword answer))
        = Trace.received (sent line) ++ (Trace.received trace ++ Trace.received (afterword answer)) := by
          rw [Trace.received_append, Trace.received_append]
      _ = Trace.received trace := by
          rw [(noRead_sent line).received_eq_nil, (quiet_afterword answer).1.received_eq_nil, List.nil_append,
            List.append_nil]
  rw [Trace.received_append, hreceived] at hmet
  have hfront := (List.prefix_append _ _).trans hmet
  cases replies with
  | nil =>
    have hsome := Frame.header_le_received hread
    rw [h, List.prefix_nil.1 hfront] at hsome
    exact absurd hsome (by decide)
  | cons reply others =>
    rw [List.flatMap_cons] at hfront hmet
    obtain ⟨hfits, hrefused⟩ := Frame.read_reply hread (hlarge reply List.mem_cons_self) (by rwa [h])
    rw [h] at hfits hrefused
    refine ⟨reply, others, rfl, fun hlimit => ?_, hrefused⟩
    obtain ⟨hanswer, hwhole⟩ := hfits hlimit
    rw [hwhole] at hmet hreceived
    exact ⟨hanswer, hreceived, fun e he => hall e (by simp [he]), (List.prefix_append_right_inj _).1 hmet⟩

/-- **The answers come in the order of the replies.** -/
theorem answers_invoking (lines : List String) (inflow : Inflow) :
    ∀ replies j, (∀ reply ∈ replies, (Utf8.encode reply).length ≤ Frame.largest) → j ≤ lines.length →
      Meets (Run.wholeTrace ((invoking limit lines inflow).take j)) replies →
      ((invoking limit lines inflow).take j).map (·.answer) = answers limit.toNat j replies := by
  apply invoking_induction (motive := fun lines _ runs => ∀ replies j,
    (∀ reply ∈ replies, (Utf8.encode reply).length ≤ Frame.largest) → j ≤ lines.length →
    Meets (Run.wholeTrace (runs.take j)) replies → (runs.take j).map (·.answer) = answers limit.toNat j replies)
  · intro inflow replies j hlarge hj hmeets
    obtain rfl : j = 0 := Nat.le_zero.1 hj
    rfl
  · intro line lines inflow answer later trace text runs h hverdict ih replies j hlarge hj hmeets
    cases j with
    | zero => rfl
    | succ j =>
      obtain ⟨reply, others, rfl, hfits, hrefused⟩ := hmeets.first h hlarge
      by_cases hlimit : (Utf8.encode reply).length ≤ limit.toNat
      · obtain ⟨rfl, -, hothers⟩ := hfits hlimit
        obtain rfl : reply = text := by simpa [verdict_encode] using hverdict
        have hrest := ih others j (fun r hr => hlarge r (List.mem_cons_of_mem _ hr)) (Nat.le_of_succ_le_succ hj) hothers
        rw [answers, if_pos hlimit, ← hrest]
        rfl
      · rw [hrefused (Nat.not_le.1 hlimit)] at hverdict
        cases hverdict
  · intro line lines inflow answer later trace e h hverdict replies j hlarge hj hmeets
    cases j with
    | zero => rfl
    | succ j =>
      obtain ⟨reply, others, rfl, hfits, hrefused⟩ := hmeets.first h hlarge
      by_cases hlimit : (Utf8.encode reply).length ≤ limit.toNat
      · obtain ⟨rfl, -, -⟩ := hfits hlimit
        simp [verdict_encode] at hverdict
      · rw [hrefused (Nat.not_le.1 hlimit)] at hverdict
        cases hverdict
        have hlength : j ≤ lines.length := Nat.le_of_succ_le_succ hj
        rw [answers, if_neg hlimit, List.take_succ_cons, List.map_cons, List.map_take, List.map_map]
        simp [Function.comp_def, refusal, List.take_replicate, Nat.min_eq_left hlength]

example : answers 2 3 ["a", "long", "b"] = [.ok "a", .error (.frameTooLarge 4 2), .error .closed] := by decide

theorem largest_of_limit (hfits : ∀ reply ∈ replies, (Utf8.encode reply).length ≤ limit.toNat) :
    ∀ reply ∈ replies, (Utf8.encode reply).length ≤ Frame.largest := by
  intro reply hreply
  have := hfits reply hreply
  have := limit.toNat_lt
  rw [Frame.largest]
  omega

/-- an invoke that met the front of some frames that fit has read the first of them, and is answered with its text -/
theorem Meets.fits {rest : Trace} (hmeets : Meets (sent line ++ (trace ++ afterword answer) ++ rest) replies)
    (h : Frame.read limit.toNat inflow = ⟨answer, later, trace⟩)
    (hfits : ∀ reply ∈ replies, (Utf8.encode reply).length ≤ limit.toNat) :
    ∃ reply others, replies = reply :: others ∧ verdict answer = .ok reply ∧
      Trace.received (sent line ++ (trace ++ afterword answer)) = Frame.ofText reply ∧ Meets rest others := by
  obtain ⟨reply, others, rfl, hfirst, -⟩ := hmeets.first h (largest_of_limit hfits)
  obtain ⟨rfl, hreceived, hothers⟩ := hfirst (hfits reply List.mem_cons_self)
  exact ⟨reply, others, rfl, verdict_encode reply, hreceived, hothers⟩

/-- **How far a client is that has got some answers.** It has read the frames of so many replies, and sent so many
lines. -/
theorem answered_invoking (lines : List String) (inflow : Inflow) :
    ∀ (replies : List String) j, (∀ reply ∈ replies, (Utf8.encode reply).length ≤ limit.toNat) → j ≤ lines.length →
      Meets (Run.wholeTrace ((invoking limit lines inflow).take j)) replies →
      j ≤ replies.length ∧
      Trace.received (Run.wholeTrace ((invoking limit lines inflow).take j)) = (replies.take j).flatMap Frame.ofText ∧
      Trace.taken .link (Run.wholeTrace ((invoking limit lines inflow).take j)) =
        (lines.take j).flatMap Utf8.encode := by
  apply invoking_induction (motive := fun lines _ runs => ∀ (replies : List String) j,
    (∀ reply ∈ replies, (Utf8.encode reply).length ≤ limit.toNat) → j ≤ lines.length →
    Meets (Run.wholeTrace (runs.take j)) replies →
    j ≤ replies.length ∧ Trace.received (Run.wholeTrace (runs.take j)) = (replies.take j).flatMap Frame.ofText ∧
    Trace.taken .link (Run.wholeTrace (runs.take j)) = (lines.take j).flatMap Utf8.encode)
  · intro inflow replies j hfits hj hmeets
    obtain rfl : j = 0 := Nat.le_zero.1 hj
    exact ⟨Nat.zero_le _, rfl, rfl⟩
  · intro line lines inflow answer later trace text runs h hverdict ih replies j hfits hj hmeets
    cases j with
    | zero => exact ⟨Nat.zero_le _, rfl, rfl⟩
    | succ j =>
      obtain ⟨reply, others, rfl, -, hreceived, hothers⟩ := hmeets.fits h hfits
      obtain ⟨hlength, hframes, hlines⟩ :=
        ih others j (fun r hr => hfits r (List.mem_cons_of_mem _ hr)) (Nat.le_of_succ_le_succ hj) hothers
      rw [List.take_succ_cons, List.take_succ_cons, List.take_succ_cons, Run.wholeTrace_cons, Trace.received_append,
        Trace.taken_append, hreceived, hframes, hlines, Trace.taken_append, taken_sent, taken_reading h,
        List.append_nil]
      exact ⟨Nat.succ_le_succ hlength, rfl, rfl⟩
  · intro line lines inflow answer later trace e h hverdict replies j hfits hj hmeets
    cases j with
    | zero => exact ⟨Nat.zero_le _, rfl, rfl⟩
    | succ j =>
      obtain ⟨reply, others, -, hok, -⟩ := hmeets.fits h hfits
      rw [hok] at hverdict
      cases hverdict

/-! ## What it depends on, and what it costs -/

theorem noRead_refusals (limit : UInt32) (lines : List String) :
    (Run.wholeTrace (lines.map fun _ => refusal limit)).NoRead := by
  induction lines with
  | nil => exact Trace.noRead_nil
  | cons line lines ih => simpa [refusal] using ih

/-- a client that has a line to invoke sends it and reads -/
theorem invoking_begins (limit : UInt32) (line : String) (lines : List String) (inflow : Inflow) :
    sent line ++ (Frame.read limit.toNat inflow).trace <+: Run.wholeTrace (invoking limit (line :: lines) inflow) := by
  rcases h : Frame.read limit.toNat inflow with ⟨answer, later, trace⟩
  cases hverdict : verdict answer with
  | ok text =>
    rw [invoking_answered h hverdict, Run.wholeTrace_cons]
    exact ⟨_, by simp only [List.append_assoc]; rfl⟩
  | error e =>
    rw [invoking_failed h hverdict, Run.wholeTrace_cons]
    exact ⟨_, by simp only [List.append_assoc]; rfl⟩

/-- the read that a client comes to next is for its first line, or that is answered and it is for a later one -/
theorem next_read_cases {before : Trace} {room : Nat} {got : Except IoError Bytes}
    (hread : before ++ [.read room got] <+: Run.wholeTrace (invoking limit (line :: lines) inflow)) :
    (∃ mid, before = sent line ++ mid ∧ mid ++ [.read room got] <+: (Frame.read limit.toNat inflow).trace) ∨
    ∃ answer later trace text mid, Frame.read limit.toNat inflow = ⟨answer, later, trace⟩ ∧ verdict answer = .ok text ∧
      before = sent line ++ (trace ++ afterword answer) ++ mid ∧
      mid ++ [.read room got] <+: Run.wholeTrace (invoking limit lines later) := by
  rcases h : Frame.read limit.toNat inflow with ⟨answer, later, trace⟩
  have hfirst : before ++ [.read room got] <+: sent line ++ (trace ++ afterword answer) →
      ∃ mid, before = sent line ++ mid ∧ mid ++ [.read room got] <+: trace := by
    intro hread
    rcases Trace.next_append hread with hsent | ⟨mid, rfl, hmid⟩
    · exact absurd hsent (noRead_sent line).not_read
    · rcases Trace.next_append hmid with hmid | ⟨last, -, hlast⟩
      · exact ⟨mid, rfl, hmid⟩
      · exact absurd hlast (quiet_afterword answer).1.not_read
  cases hverdict : verdict answer with
  | ok text =>
    rw [invoking_answered h hverdict, Run.wholeTrace_cons] at hread
    rcases Trace.next_append hread with hread | ⟨mid, rfl, hmid⟩
    · exact .inl (hfirst hread)
    · exact .inr ⟨answer, later, trace, text, mid, rfl, hverdict, rfl, hmid⟩
  | error e =>
    rw [invoking_failed h hverdict, Run.wholeTrace_cons] at hread
    rcases Trace.next_append hread with hread | ⟨mid, rfl, hmid⟩
    · exact .inl (hfirst hread)
    · exact absurd hmid (noRead_refusals limit lines).not_read

/-- a client that invokes lines can be brought to each of its reads again, and be given anything there -/
theorem replay_invoking (lines : List String) (inflow : Inflow) :
    ∀ before room (got : Except IoError Bytes) piece more,
      before ++ [Event.read room got] <+: Run.wholeTrace (invoking limit lines inflow) → piece.length ≤ room →
      before ++ [Event.read room (.ok piece)] <+: Run.wholeTrace
        (invoking limit lines { arrivals := Trace.arrivals before ++ .bytes piece :: more }) := by
  induction lines generalizing inflow with
  | nil =>
    intro before room got piece more hread
    exact absurd hread Trace.noRead_nil.not_read
  | cons line lines ih =>
    intro before room got piece more hread hlen
    have hreplay := Frame.replays_read limit.toNat
    rcases next_read_cases hread with ⟨mid, rfl, hmid⟩ | ⟨answer, later, trace, text, mid, h, hverdict, rfl, hmid⟩
    · have hagain := hreplay.part inflow mid room got piece more hmid hlen
      rw [Trace.arrivals_append, (noRead_sent line).arrivals_eq_nil, List.nil_append, List.append_assoc]
      exact ((List.prefix_append_right_inj _).2 hagain).trans (invoking_begins limit line lines _)
    · have hagain := ih later mid room got piece more hmid hlen
      have hwhole := hreplay.whole inflow
      rw [h] at hwhole
      simp only [Trace.arrivals_append, (noRead_sent line).arrivals_eq_nil,
        (quiet_afterword answer).1.arrivals_eq_nil, List.nil_append, List.append_assoc]
      rw [invoking_answered (hwhole _) hverdict, Run.wholeTrace_cons]
      simpa only [List.append_assoc, List.prefix_append_right_inj] using hagain

/-- every read of a client asks for bytes -/
theorem room_pos_invoking (lines : List String) (inflow : Inflow) {before : Trace} {room : Nat}
    {got : Except IoError Bytes} (hread : before ++ [.read room got] <+: Run.wholeTrace (invoking limit lines inflow)) :
    0 < room := by
  induction lines generalizing inflow before with
  | nil => exact absurd hread Trace.noRead_nil.not_read
  | cons line lines ih =>
    rcases next_read_cases hread with ⟨mid, rfl, rest, hmid⟩ | ⟨answer, later, trace, text, mid, h, hverdict, rfl, hmid⟩
    · have hreads := (Frame.consumes_read limit.toNat inflow).reads
      exact (hreads mid room got rest (by simpa using hmid.symm)).1
    · exact ih later hmid

theorem works_sent (line : String) : ∀ event ∈ sent line, event.Works := by
  unfold sent Outflow.delivery
  split_ifs <;> simp [sending, Event.Works]

theorem works_afterword (answer : Except LinkError Bytes) : ∀ event ∈ afterword answer, event.Works := by
  unfold afterword
  split
  · simp [parting, Event.Works]
  · split <;> simp [arrival, parting, Event.Works]

theorem works_invoke (h : Frame.read limit.toNat inflow = ⟨answer, later, trace⟩) :
    ∀ event ∈ sent line ++ (trace ++ afterword answer), event.Works := by
  have hreading := Frame.reading_read limit.toNat inflow
  rw [h] at hreading
  rw [List.forall_mem_append, List.forall_mem_append]
  exact ⟨works_sent line, fun event hevent => Event.works_of_isReading (hreading event hevent),
    works_afterword answer⟩

/-- no write or flush of a client fails -/
theorem works_invoking (lines : List String) (inflow : Inflow) :
    ∀ event ∈ Run.wholeTrace (invoking limit lines inflow), event.Works := by
  apply invoking_induction (motive := fun _ _ runs => ∀ event ∈ Run.wholeTrace runs, event.Works)
  · simp
  · intro line lines inflow answer later trace text runs h hverdict ih
    rw [Run.wholeTrace_cons, List.forall_mem_append]
    exact ⟨works_invoke h, ih⟩
  · intro line lines inflow answer later trace e h hverdict
    rw [Run.wholeTrace_cons, List.forall_mem_append]
    refine ⟨works_invoke h, ?_⟩
    simp [Run.wholeTrace, refusal, Event.Works]

/-- a client that invokes lines waits for nothing but bytes -/
theorem responsive_invoking (limit : UInt32) (lines : List String) :
    Responsive fun inflow => Run.wholeTrace (invoking limit lines inflow) where
  works := works_invoking lines
  reads inflow before room got hread :=
    ⟨room_pos_invoking lines inflow hread,
      fun piece hlen => ⟨_, replay_invoking lines inflow before room got piece [] hread hlen⟩⟩

theorem paced_invoke (h : Frame.read limit.toNat inflow = ⟨answer, later, trace⟩) (line : String) :
    (sent line ++ (trace ++ afterword answer)).Paced 2 13 := by
  have hsent : (sent line).Paced 2 4 := by
    apply Trace.Paced.of_length
    unfold sent Outflow.delivery
    split_ifs <;> simp [sending]
  have hafterword : (afterword answer).Paced 2 7 := by
    apply Trace.Paced.of_length
    unfold afterword
    split
    · simp [parting]
    · split <;> simp [arrival, parting]
  have hread := Frame.paced_read limit.toNat inflow
  rw [h] at hread
  exact hsent.append (hread.append hafterword)

/-- a client that invokes lines keeps pace with the bytes it reads -/
theorem paced_invoking (lines : List String) (inflow : Inflow) :
    (Run.wholeTrace (invoking limit lines inflow)).Paced 2 (13 * lines.length) := by
  apply invoking_induction (motive := fun lines _ runs => (Run.wholeTrace runs).Paced 2 (13 * lines.length))
  · intro inflow
    exact .of_length (Nat.zero_le _)
  · intro line lines inflow answer later trace text runs h hverdict ih
    exact ((paced_invoke h line).append ih).mono le_rfl (by simp; omega)
  · intro line lines inflow answer later trace e h hverdict
    have hrefusals : (Run.wholeTrace (lines.map fun _ => refusal limit)).Paced 2 lines.length :=
      .of_length (by simp [Run.wholeTrace, refusal, List.length_flatMap])
    exact ((paced_invoke h line).append hrefusals).mono le_rfl (by simp; omega)

/-! ## Where it writes, and where it waits -/

theorem not_taken {event : Event} {before a : Trace} (ha : Trace.taken .link a = []) (h : before ++ [event] <+: a)
    (hevent : event.taken .link ≠ []) : False :=
  hevent (List.flatMap_eq_nil_iff.1 ha event (h.subset (by simp)))

/-- in one invoke the first event is the only one that writes -/
theorem first_write {rest before : Trace} {event : Event} (hrest : Trace.taken .link rest = [])
    (h : before ++ [event] <+: sent line ++ rest) (hevent : event.taken .link ≠ []) :
    before = [] ∧ event.taken .link = Utf8.encode line := by
  by_cases hempty : Utf8.encode line = []
  · refine absurd hevent fun hevent => not_taken ?_ h hevent
    rw [Trace.taken_append, taken_sent, hempty, hrest, List.append_nil]
  · rw [sent, Outflow.delivery, if_neg hempty, List.append_assoc, List.append_assoc, List.singleton_append] at h
    rcases Trace.next_cons h with ⟨rfl, rfl⟩ | ⟨mid, rfl, hmid⟩
    · exact ⟨rfl, rfl⟩
    · exact (not_taken (by simp [sending, Event.taken, hrest]) hmid hevent).elim

/-- **A client writes a line when all lines before it are answered.** -/
theorem write_invoking (lines : List String) (inflow : Inflow) :
    ∀ (before : Trace) (event : Event), before ++ [event] <+: Run.wholeTrace (invoking limit lines inflow) →
      event.taken .link ≠ [] → ∃ j line, lines[j]? = some line ∧
        before = Run.wholeTrace ((invoking limit lines inflow).take j) ∧ event.taken .link = Utf8.encode line := by
  apply invoking_induction (motive := fun lines _ runs => ∀ (before : Trace) (event : Event),
    before ++ [event] <+: Run.wholeTrace runs → event.taken .link ≠ [] → ∃ j line, lines[j]? = some line ∧
      before = Run.wholeTrace (runs.take j) ∧ event.taken .link = Utf8.encode line)
  · intro inflow before event h
    exact absurd h (by simp)
  · intro line lines inflow answer later trace text runs h hverdict ih before event hnext hevent
    rcases Trace.next_append hnext with hnext | ⟨mid, rfl, hmid⟩
    · obtain ⟨rfl, hline⟩ := first_write (taken_reading h) hnext hevent
      exact ⟨0, line, rfl, rfl, hline⟩
    · obtain ⟨j, next, hget, rfl, hline⟩ := ih mid event hmid hevent
      exact ⟨j + 1, next, by simpa using hget, rfl, hline⟩
  · intro line lines inflow answer later trace e h hverdict before event hnext hevent
    rw [Run.wholeTrace_cons, List.append_assoc] at hnext
    have hquiet : Trace.taken .link (trace ++ afterword answer ++
        Run.wholeTrace (lines.map fun _ => refusal limit)) = [] := by
      rw [Trace.taken_append, taken_reading h, taken_refusals, List.append_nil]
    obtain ⟨rfl, hline⟩ := first_write hquiet hnext hevent
    exact ⟨0, line, rfl, rfl, hline⟩

/-- **A client that waits lacks the reply to its last line.** -/
theorem waiting_invoking {room : Nat} {got : Except IoError Bytes} (lines : List String) (inflow : Inflow)
    (before : Trace) (replies : List String) (hfits : ∀ reply ∈ replies, (Utf8.encode reply).length ≤ limit.toNat)
    (hread : before ++ [.read room got] <+: Run.wholeTrace (invoking limit lines inflow))
    (hmeets : Meets before replies) :
    ∃ j < lines.length, Trace.taken .link before = (lines.take (j + 1)).flatMap Utf8.encode ∧
      (j < replies.length → Trace.received before ≠ (replies.take (j + 1)).flatMap Frame.ofText) := by
  induction lines generalizing inflow before replies with
  | nil => exact absurd hread Trace.noRead_nil.not_read
  | cons line lines ih =>
    rcases next_read_cases hread with ⟨mid, rfl, hmid⟩ | ⟨answer, later, trace, text, mid, h, hverdict, rfl, hmid⟩
    · have hpart : mid <+: (Frame.read limit.toNat inflow).trace := (List.prefix_append _ _).trans hmid
      have hquiet := Trace.taken_of_isReading (Frame.reading_read limit.toNat inflow) .link
      have hnone := Trace.view_of_part_nil (Event.taken .link) hpart hquiet
      refine ⟨0, by simp, ?_, fun hreplies hwhole => ?_⟩
      · rw [Trace.taken_append, taken_sent, Trace.taken, hnone]
        simp
      · cases replies with
        | nil => exact absurd hreplies (by simp)
        | cons reply others =>
          have hfit := hfits reply List.mem_cons_self
          refine Frame.read_waits hmid (largest_of_limit hfits reply List.mem_cons_self) hfit ?_
          simpa [(noRead_sent line).received_eq_nil] using hwhole
    · obtain ⟨reply, others, rfl, -, hreceived, hothers⟩ := hmeets.fits h hfits
      obtain ⟨j, hj, htaken, hwaits⟩ :=
        ih later mid others (fun r hr => hfits r (List.mem_cons_of_mem _ hr)) hmid hothers
      refine ⟨j + 1, by simpa using hj, ?_, fun hreplies hwhole => ?_⟩
      · rw [Trace.taken_append, Trace.taken_append, taken_sent, taken_reading h, htaken]
        simp
      · rw [Trace.received_append, hreceived, List.take_succ_cons, List.flatMap_cons,
          List.append_cancel_left_eq] at hwhole
        exact hwaits (by simpa using hreplies) hwhole

end Client

end QueryConsole
