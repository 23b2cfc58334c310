import QueryConsole.Proofs.Client.Life
import QueryConsole.Proofs.Flow.FrameFront

/-
What the limit of a client is good for.

Two clients over the same link that differ in their limit are asked for the same. They do the same until a header comes
that declares more than the lower limit (`Client.Exceeds`). There the lower one reads the header, and nothing more, and
gives its link up (`Declined`), whatever comes behind the header; what it did up to there the other one did too.

Results:
- `read_within`, `read_oversized`: the same for reading one frame.
- `perform_within`, `perform_exceeding`: one request.
- `life_within`, `life_exceeding`: any requests.
-/

namespace QueryConsole

/-- the same run, with its last state seen through `f` -/
def Run.mapState {τ : Type} (f : σ → τ) (r : Run σ ε α) : Run τ ε α := ⟨r.answer, f r.state, r.trace⟩

/-- acts that do the same in states that `f` relates, one after the other -/
theorem Act.bind_mapState {f : σ → σ} {act act' : Act σ ε α} {next next' : α → Act σ ε β} {s : σ}
    (h : act' (f s) = (act s).mapState f)
    (hnext : ∀ a, (act s).answer = .ok a → next' a (f (act s).state) = (next a (act s).state).mapState f) :
    (act' >>= next') (f s) = ((act >>= next) s).mapState f := by
  rcases hact : act s with ⟨e | a, s', trace⟩
  · rw [hact] at h
    rw [Act.run_bind_error hact, Act.run_bind_error h]
    rfl
  · rw [hact] at h hnext
    rw [Act.run_bind_ok hact, Act.run_bind_ok h, hnext a rfl]
    rfl

/-! ## One frame -/

namespace Frame

variable {limit limit' size : Nat} {inflow : Inflow}

/-- reading a frame whose header declares no more than the limit is the same under a higher one -/
theorem read_within (hle : limit ≤ limit') (h : ∀ size, ¬ Oversized limit size inflow.coming.bytes) :
    read limit' inflow = read limit inflow := by
  rcases met : fill headerSize inflow with ⟨e | head, later, trace⟩
  · rw [read_failed met, read_failed met]
  · by_cases hlen : head.length < headerSize
    · rw [read_short met hlen, read_short met hlen]
    · obtain ⟨henough, rfl, -⟩ := fill_ok_full met hlen
      have hwithin : declared (inflow.coming.bytes.take headerSize) ≤ limit := by
        by_contra hmore
        obtain ⟨hheader, hlargest⟩ := begins_header henough
        exact h _ ⟨Nat.not_le.1 hmore, hlargest, hheader⟩
      rw [read_payload met hlen (Nat.not_lt.2 hwithin), read_payload met hlen (Nat.not_lt.2 (hwithin.trans hle))]

/-- the header that declares `size` is all that is read, and no read begins once it is there -/
structure HeaderOnly (size : Nat) (trace : Trace) : Prop where
  received : Trace.received trace = header size
  reads : trace.EachRead fun got _ => got < headerSize

/-- **A frame above the limit is refused after its header**, which is read in the same way under any limit. -/
theorem read_oversized (h : Oversized limit size inflow.coming.bytes) :
    ∃ later trace, read limit inflow =
        ⟨.error (.frameTooLarge size limit), later, trace ++ [.counted .frameTooLarge 1]⟩ ∧
      HeaderOnly size trace ∧ ∀ limit', trace <+: (read limit' inflow).trace := by
  obtain ⟨hmore, hlargest, hheader⟩ := h
  obtain ⟨henough, hdeclared⟩ := declared_of_header hlargest hheader
  have hfill := consumes_fill headerSize inflow
  rcases met : fill headerSize inflow with ⟨e | head, later, trace⟩
  · exact absurd (fill_error met).1 (Nat.not_lt.2 henough)
  · rw [met] at hfill
    have hlen : ¬ head.length < headerSize := by
      intro hlt
      rw [fill_ok_short met hlt] at henough
      exact absurd hlt (Nat.not_lt.2 henough)
    obtain ⟨-, hhead, -⟩ := fill_ok_full met hlen
    have hsize : declared head = size := by rw [hhead, hdeclared]
    have hreceived : Trace.received trace = header size := by
      rw [hfill.received, ← hdeclared, header_declared (List.length_take_of_le henough)]
    refine ⟨later, trace, ?_, ⟨hreceived, hfill.reads.mono fun got room hp => by omega⟩, fun limit' => ?_⟩
    · rw [read_tooLarge met hlen (hsize.symm ▸ hmore), hsize]
    · by_cases hlimit : declared head > limit'
      · rw [read_tooLarge met hlen hlimit]
        exact List.prefix_append _ _
      · rw [read_payload met hlen hlimit]
        exact List.prefix_append _ _

end Frame

namespace Client

variable {limit limit' : UInt32} {size : Nat} {inflow : Inflow} {client : Client} {request : Request} {line : String}

/-- the same client with another limit -/
def withLimit (limit : UInt32) (client : Client) : Client := { client with limit }

/-- the request comes to a receive that meets a header above the limit of the client -/
def Exceeds (size : Nat) (request : Request) (client : Client) : Prop :=
  (request = .receive ∨ ∃ line, request = .invoke line ∧ (send line client).answer = .ok ()) ∧
    ∃ link, client.link = some link ∧ Frame.Oversized client.limit.toNat size link.inflow.coming.bytes

/-! ## Below the limit -/

theorem onLink_withLimit (act : Act Link LinkError α) (limit' : UInt32) (client : Client) :
    onLink act (client.withLimit limit') = (onLink act client).mapState (withLimit limit') := by
  obtain ⟨limit, link⟩ := client
  cases link with
  | none => rfl
  | some link =>
    rcases hact : act link with ⟨e | a, link', trace⟩
    · rw [onLink_error hact]
      exact onLink_error hact limit'
    · rw [onLink_ok hact]
      exact onLink_ok hact limit'

theorem send_withLimit (line : String) (limit' : UInt32) (client : Client) :
    send line (client.withLimit limit') = (send line client).mapState (withLimit limit') :=
  Act.bind_mapState (onLink_withLimit _ limit' client) fun _ _ => rfl

/-- what comes to a client has no header above its limit at the front -/
def Fits (client : Client) : Prop :=
  ∀ link size, client.link = some link → ¬ Frame.Oversized client.limit.toNat size link.inflow.coming.bytes

theorem receive_within (hle : client.limit ≤ limit') (h : client.Fits) :
    receive (client.withLimit limit') = (receive client).mapState (withLimit limit') := by
  obtain ⟨limit, link⟩ := client
  cases link with
  | none => rfl
  | some link =>
    have hread : Frame.read limit'.toNat link.inflow = Frame.read limit.toNat link.inflow :=
      Frame.read_within hle fun size => h link size rfl
    have hresponse : response limit'.toNat link = response limit.toNat link := by
      have hreceiving :
          Link.receiving (Frame.read limit'.toNat) link = Link.receiving (Frame.read limit.toNat) link := by
        simp only [Link.receiving, Act.run_within, hread]
      simp only [response, Bind.bind, Act.bind, hreceiving]
    calc receive ⟨limit', some link⟩
        = onLink (response limit'.toNat) ⟨limit', some link⟩ := receive_eq limit' link
      _ = onLink (response limit.toNat) ⟨limit', some link⟩ := by simp only [onLink, hresponse]
      _ = (onLink (response limit.toNat) ⟨limit, some link⟩).mapState (withLimit limit') :=
        onLink_withLimit _ limit' ⟨limit, some link⟩
      _ = (receive ⟨limit, some link⟩).mapState (withLimit limit') := by rw [receive_eq]

theorem state_send (line : String) (client : Client) :
    (send line client).state.limit = client.limit ∧
      ∀ link, (send line client).state.link = some link → ∃ outflow, client.link = some ⟨link.inflow, outflow⟩ := by
  obtain ⟨limit, link⟩ := client
  cases link with
  | none => exact ⟨rfl, fun link h => by cases h⟩
  | some link =>
    obtain ⟨inflow, outflow⟩ := link
    obtain ⟨outflow', trace, -, ⟨cause, hrun, -⟩ | ⟨cause, hrun, -⟩ | ⟨hrun, -⟩⟩ := send_cases line limit inflow outflow
    · rw [hrun]
      exact ⟨rfl, fun link h => by cases h⟩
    · rw [hrun]
      exact ⟨rfl, fun link h => by cases h⟩
    · rw [hrun]
      refine ⟨rfl, fun link h => ⟨outflow, ?_⟩⟩
      cases h
      rfl

/-- an invocation that sends its line stands at the same place of the stream as before -/
theorem fits_sent (hsent : (send line client).answer = .ok ()) (h : ∀ size, ¬ Exceeds size (.invoke line) client) :
    (send line client).state.Fits := by
  obtain ⟨hlimit, hlink⟩ := state_send line client
  intro link size hstate hover
  obtain ⟨outflow, hbefore⟩ := hlink link hstate
  rw [hlimit] at hover
  exact h size ⟨.inr ⟨line, rfl, hsent⟩, ⟨link.inflow, outflow⟩, hbefore, hover⟩

theorem invoke_within (hle : client.limit ≤ limit') (h : ∀ size, ¬ Exceeds size (.invoke line) client) :
    invoke line (client.withLimit limit') = (invoke line client).mapState (withLimit limit') := by
  refine Act.bind_mapState (send_withLimit line limit' client) fun _ hsent => ?_
  have hlimit : (send line client).state.limit ≤ limit' := by rwa [(state_send line client).1]
  exact receive_within hlimit (fits_sent hsent h)

/-- **A request that does not exceed the limit is done in the same way under a higher one.** -/
theorem perform_within (hle : client.limit ≤ limit') (h : ∀ size, ¬ Exceeds size request client) :
    perform request (client.withLimit limit') = (perform request client).mapState (withLimit limit') := by
  cases request with
  | send line => exact Act.bind_mapState (send_withLimit line limit' client) fun _ _ => rfl
  | receive =>
    have hfits : client.Fits := fun link size hlink hover => h size ⟨.inl rfl, link, hlink, hover⟩
    exact Act.bind_mapState (receive_within hle hfits) fun _ _ => rfl
  | invoke line => exact Act.bind_mapState (invoke_within hle h) fun _ _ => rfl
  | close =>
    obtain ⟨limit, link⟩ := client
    cases link <;> rfl

/-! ## Above the limit -/

/-- what a client does once it has seen that a frame is above its limit -/
def rejection (limit : UInt32) (size : Nat) : Trace :=
  .counted .frameTooLarge 1 :: parting (.frameTooLarge size limit.toNat)

/-- a frame of `size` bytes is refused: after `past` its header is read, and nothing is read after it; up to there the
other trace is the same -/
def Refused (limit : UInt32) (size : Nat) (past trace trace' : Trace) : Prop :=
  ∃ head last : Trace, Frame.HeaderOnly size head ∧ last.NoRead ∧
    trace = past ++ head ++ rejection limit size ++ last ∧ past ++ head <+: trace'

/-- a run that fails because a frame of `size` bytes is refused, and closes the client; nothing was read before, and up
to the refusal the other trace is the same -/
structure Declined (limit : UInt32) (size : Nat) (r : Run Client LinkError α) (trace' : Trace) : Prop where
  answer : r.answer = .error (.frameTooLarge size limit.toNat)
  state : r.state = ⟨limit, none⟩
  refused : ∃ past, past.NoRead ∧ Refused limit size past r.trace trace'

variable {past trace trace' trace'' : Trace}

theorem Refused.after (h : Refused limit size past trace trace') (before : Trace) :
    Refused limit size (before ++ past) (before ++ trace) (before ++ trace') := by
  obtain ⟨head, last, hhead, hlast, rfl, hcommon⟩ := h
  refine ⟨head, last, hhead, hlast, by simp, ?_⟩
  rw [List.append_assoc]
  exact (List.prefix_append_right_inj _).2 hcommon

/-- anything may come behind the refusal but a read -/
theorem Refused.more (h : Refused limit size past trace trace') {more : Trace} (hmore : more.NoRead) :
    Refused limit size past (trace ++ more) trace' := by
  obtain ⟨head, last, hhead, hlast, rfl, hcommon⟩ := h
  exact ⟨head, last ++ more, hhead, by simp [hlast, hmore], by simp, hcommon⟩

/-- the other trace may go on -/
theorem Refused.longer (h : Refused limit size past trace trace') (hlonger : trace' <+: trace'') :
    Refused limit size past trace trace'' := by
  obtain ⟨head, last, hhead, hlast, htrace, hcommon⟩ := h
  exact ⟨head, last, hhead, hlast, htrace, hcommon.trans hlonger⟩

theorem Declined.bind {act : Act Client LinkError α} (h : Declined limit size (act client) trace')
    (next : α → Act Client LinkError β) (hlonger : trace' <+: trace'') :
    Declined limit size ((act >>= next) client) trace'' := by
  obtain ⟨hanswer, hstate, past, hnone, hrefused⟩ := h
  rcases hact : act client with ⟨answer, state, trace⟩
  rw [hact] at hanswer hstate hrefused
  obtain rfl : answer = _ := hanswer
  rw [Act.run_bind_error hact]
  exact ⟨rfl, hstate, past, hnone, hrefused.longer hlonger⟩

theorem declined_receive (h : Frame.Oversized limit.toNat size inflow.coming.bytes) (outflow : Outflow)
    (limit' : UInt32) : Declined limit size (receive ⟨limit, some ⟨inflow, outflow⟩⟩)
      (receive ⟨limit', some ⟨inflow, outflow⟩⟩).trace := by
  obtain ⟨later, trace, hread, hheader, hcommon⟩ := Frame.read_oversized h
  have hrun := receive_open hread outflow
  rcases hread' : Frame.read limit'.toNat inflow with ⟨answer', later', trace'⟩
  have hrun' := receive_open hread' outflow
  have hfront : trace <+: trace' := by simpa [hread'] using hcommon limit'.toNat
  rw [hrun, hrun']
  refine ⟨rfl, rfl, [], Trace.noRead_nil, trace, [], hheader, Trace.noRead_nil, ?_, ?_⟩
  · simp [afterword, rejection]
  · exact hfront.trans (List.prefix_append _ _)

theorem invoke_exceeding (h : Exceeds size (.invoke line) client) (limit' : UInt32) :
    Declined client.limit size (invoke line client) (invoke line (client.withLimit limit')).trace := by
  obtain ⟨hreceive | ⟨_, hline, hsent⟩, link, hlink, hover⟩ := h
  · cases hreceive
  · cases hline
    obtain ⟨limit, _⟩ := client
    obtain rfl : _ = some link := hlink
    obtain ⟨inflow, outflow⟩ := link
    obtain ⟨outflow', sent, hnone, ⟨cause, hrun, -⟩ | ⟨cause, hrun, -⟩ | ⟨hrun, -⟩⟩ :=
      send_cases line limit inflow outflow
    · rw [hrun] at hsent
      cases hsent
    · rw [hrun] at hsent
      cases hsent
    · have hrun' : send line ⟨limit', some ⟨inflow, outflow⟩⟩ = ⟨.ok (), ⟨limit', some ⟨inflow, outflow'⟩⟩, sent⟩ := by
        have hsame := send_withLimit line limit' ⟨limit, some ⟨inflow, outflow⟩⟩
        rw [hrun] at hsame
        exact hsame
      have hinvoke' : invoke line (withLimit limit' ⟨limit, some ⟨inflow, outflow⟩⟩) =
          (receive ⟨limit', some ⟨inflow, outflow'⟩⟩).after sent := invoke_sent hrun'
      obtain ⟨hanswer, hstate, past, hquiet, hrefused⟩ := declined_receive hover outflow' limit'
      rw [invoke_sent hrun, hinvoke']
      exact ⟨hanswer, hstate, sent ++ past, by simp [hnone, hquiet], hrefused.after sent⟩

/-- **A request that exceeds the limit is declined after the header.** -/
theorem perform_exceeding (h : Exceeds size request client) (limit' : UInt32) :
    Declined client.limit size (perform request client) (perform request (client.withLimit limit')).trace := by
  cases request with
  | send line => simp [Exceeds] at h
  | close => simp [Exceeds] at h
  | invoke line => exact (invoke_exceeding h limit').bind _ (Act.begins_bind _ _ _)
  | receive =>
    obtain ⟨-, link, hlink, hover⟩ := h
    obtain ⟨limit, _⟩ := client
    obtain rfl : _ = some link := hlink
    exact (declined_receive hover link.outflow limit').bind _ (Act.begins_bind _ _ _)

/-! ## Lives -/

theorem limit_perform (request : Request) (client : Client) : (perform request client).state.limit = client.limit := by
  obtain ⟨limit, link⟩ := client
  cases link with
  | none => cases request <;> rfl
  | some link =>
    obtain ⟨inflow, outflow⟩ := link
    obtain ⟨answer, inflow', outflow', trace, hrun, -⟩ | ⟨answer, trace, hrun, -⟩ :=
      perform_cases request limit inflow outflow
    · rw [hrun]
    · rw [hrun]

theorem limit_invoke (line : String) (client : Client) : (invoke line client).state.limit = client.limit := by
  have hperform := limit_perform (.invoke line) client
  rwa [perform, Act.run_bind_pure] at hperform

/-- what requests to a client do, one after the other -/
abbrev life (client : Client) (requests : List Request) : List (Run Client LinkError (Option String)) :=
  Act.inTurn (requests.map perform) client

/-- the client before the request at `k` -/
def before (client : Client) (requests : List Request) (k : Nat) : Client :=
  Run.lastState client ((client.life requests).take k)

theorem before_succ (client : Client) (request : Request) (requests : List Request) (k : Nat) :
    client.before (request :: requests) (k + 1) = (perform request client).state.before requests k := rfl

theorem before_closed (limit : UInt32) (requests : List Request) (k : Nat) :
    before ⟨limit, none⟩ requests k = ⟨limit, none⟩ := by
  rw [before, life, Act.take_inTurn, ← List.map_take]
  exact lastState_closed limit (requests.take k)

/-- **Up to the first request that exceeds the limit, a life is the same under a higher one.** -/
theorem life_within {requests : List Request} {k : Nat} (hle : client.limit ≤ limit')
    (h : ∀ j < k, ∀ request size, requests[j]? = some request → ¬ Exceeds size request (client.before requests j)) :
    ((client.withLimit limit').life requests).take k =
      ((client.life requests).take k).map (·.mapState (withLimit limit')) := by
  induction requests generalizing client k with
  | nil => simp [life, Act.inTurn]
  | cons request later ih =>
    cases k with
    | zero => rfl
    | succ k =>
      have hfirst := perform_within hle fun size => h 0 (Nat.succ_pos k) request size rfl
      have hlimit : (perform request client).state.limit ≤ limit' := by rwa [limit_perform]
      have hlater := ih hlimit fun j hj => h (j + 1) (Nat.succ_lt_succ hj)
      simp only [life, List.map_cons, Act.inTurn, List.take_succ_cons, hfirst]
      exact congrArg _ hlater

/-- **A request that exceeds the limit is declined, and all before it is the same under a higher limit.** -/
theorem life_exceeding {requests : List Request} {k : Nat} (hle : client.limit ≤ limit')
    (hrequest : requests[k]? = some request) (h : Exceeds size request (client.before requests k)) :
    ((client.withLimit limit').life requests).take k =
        ((client.life requests).take k).map (·.mapState (withLimit limit')) ∧
      ∃ r r', (client.life requests)[k]? = some r ∧ ((client.withLimit limit').life requests)[k]? = some r' ∧
        Declined client.limit size r r'.trace := by
  induction requests generalizing client k with
  | nil => cases hrequest
  | cons first later ih =>
    cases k with
    | zero =>
      obtain rfl : first = request := by simpa using hrequest
      exact ⟨rfl, _, _, rfl, rfl, perform_exceeding h limit'⟩
    | succ k =>
      -- a client that has declined is closed, and comes to no further receive
      have hwithin : ∀ size, ¬ Exceeds size first client := by
        intro size' hfirst
        obtain ⟨-, link, hlink, -⟩ := h
        rw [before_succ, (perform_exceeding hfirst limit').state, before_closed] at hlink
        cases hlink
      have hfirst := perform_within hle hwithin
      have hlimit := limit_perform first client
      obtain ⟨hsame, r, r', hr, hr', hdeclined⟩ := ih (hlimit.symm ▸ hle) hrequest h
      simp only [life, List.map_cons, Act.inTurn, List.take_succ_cons, hfirst, List.getElem?_cons_succ]
      rw [hlimit] at hdeclined
      exact ⟨congrArg _ hsame, r, r', hr, hr', hdeclined⟩

end Client

end QueryConsole
