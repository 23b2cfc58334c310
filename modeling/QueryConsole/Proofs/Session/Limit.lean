import Mathlib
import QueryConsole.Proofs.Client.Limit
import QueryConsole.Proofs.Session.Turn

/-
What the limit of its client is good for in a session.

Of a session only the exchanges can come to the limit. So a session is the same under a higher limit if none of its
turns comes to a receive that meets a header above its own (`Session.Exceeds`). The first turn that does ends it: the
header is read and nothing more, and what was said, sent and counted up to there is the same under the higher limit.

Results:
- `take_within`, `take_exceeding`: one turn.
- `converse_within`, `converse_exceeding`: the turns of a source, by induction.
- `run_within`, `run_exceeding`: whole sessions.
- `limit_matters_above`: requests to a client and sessions together.
-/

namespace QueryConsole

namespace Shell

variable {limit limit' : UInt32} {size k : Nat} {shell : Shell} {line : String} {item : SourceItem} {source : Source}

/-- the same shell with another limit of its client -/
def withLimit (limit : UInt32) (shell : Shell) : Shell := { shell with client := shell.client.withLimit limit }

/-- the turn at `k` is reached, and comes to a receive that meets a header above the limit -/
def Exceeds (size : Nat) : Source → Nat → Shell → Prop
  | [], _, _ => False
  | item :: _, 0, shell =>
    ∃ line, item = .line line ∧ ¬ isBlank line = true ∧ Client.Exceeds size (.invoke line) shell.client
  | item :: later, k + 1, shell => (take item shell).answer = .ok () ∧ Exceeds size later k (take item shell).state

/-- an end of a session, or of a part of it, because a frame of `size` bytes is refused; up to there the other trace is
the same -/
structure Declined (limit : UInt32) (size : Nat) (answer : Except SessionError Unit) (client : Client)
    (trace trace' : Trace) : Prop where
  answer : answer = .error (.client (.frameTooLarge size limit.toNat))
  client : client = ⟨limit, none⟩
  refused : ∃ past, Client.Refused limit size past trace trace'

theorem Declined.after {answer : Except SessionError Unit} {client : Client} {trace trace' : Trace}
    (h : Declined limit size answer client trace trace') (before : Trace) :
    Declined limit size answer client (before ++ trace) (before ++ trace') := by
  obtain ⟨hanswer, hclient, past, hrefused⟩ := h
  exact ⟨hanswer, hclient, before ++ past, hrefused.after before⟩

theorem Declined.longer {answer : Except SessionError Unit} {client : Client} {trace trace' trace'' : Trace}
    (h : Declined limit size answer client trace trace') (hlonger : trace' <+: trace'') :
    Declined limit size answer client trace trace'' := by
  obtain ⟨hanswer, hclient, past, hrefused⟩ := h
  exact ⟨hanswer, hclient, past, hrefused.longer hlonger⟩

/-! ## The screen -/

theorem withScreen_withLimit (act : Act Outflow IoError α) (limit' : UInt32) (shell : Shell) :
    withScreen act (shell.withLimit limit') = (withScreen act shell).mapState (withLimit limit') := by
  rw [withScreen_eq, withScreen_eq]
  rfl

/-- what is shown, and how, does not depend on the limit -/
theorem showing_withLimit (texts : List String) (limit' : UInt32) (shell : Shell) :
    showing texts (shell.withLimit limit') = (showing texts shell).mapState (withLimit limit') := by
  induction texts generalizing shell with
  | nil => exact withScreen_withLimit _ limit' shell
  | cons text later ih => exact Act.bind_mapState (withScreen_withLimit _ limit' shell) fun _ _ => ih _

/-! ## One turn -/

theorem execute_within
    (h : Client.invoke line (shell.client.withLimit limit') =
      (Client.invoke line shell.client).mapState (Client.withLimit limit')) :
    execute line (shell.withLimit limit') = (execute line shell).mapState (withLimit limit') := by
  rcases hinvoke : Client.invoke line shell.client with ⟨e | text, client, trace⟩
  · rw [hinvoke] at h
    rw [execute_error (exchange_error shell hinvoke)]
    exact execute_error (exchange_error (shell.withLimit limit') h)
  · rw [hinvoke] at h
    rw [execute_ok (exchange_ok shell hinvoke)]
    have hshowing := showing_withLimit (shown shell.timing text (shell.laps.headD 0)) limit'
      { shell with client, laps := shell.laps.tail }
    refine (execute_ok (exchange_ok (shell.withLimit limit') h)).trans ?_
    exact congrArg (Run.after _) hshowing

/-- a turn leaves the limit as it is -/
theorem limit_take (item : SourceItem) (shell : Shell) : (take item shell).state.client.limit = shell.client.limit := by
  cases item with
  | failure cause => rfl
  | line text =>
    by_cases hblank : isBlank text = true
    · rw [take_blank hblank]
    · have hlimit := Client.limit_invoke text shell.client
      rw [take_line hblank]
      rcases hinvoke : Client.invoke text shell.client with ⟨e | response, client, trace⟩
      · rw [hinvoke] at hlimit
        rw [execute_error (exchange_error shell hinvoke)]
        exact hlimit
      · rw [hinvoke] at hlimit
        obtain ⟨answer, screen, seen, hshowing, -⟩ := showing_shape
          (shown shell.timing response (shell.laps.headD 0)) { shell with client, laps := shell.laps.tail }
        rw [execute_ok (exchange_ok shell hinvoke), hshowing]
        exact hlimit

/-- **A turn that does not exceed the limit is the same under a higher one.** -/
theorem take_within (hle : shell.client.limit ≤ limit')
    (h : ∀ size line, item = .line line → ¬ isBlank line = true →
      ¬ Client.Exceeds size (.invoke line) shell.client) :
    take item (shell.withLimit limit') = (take item shell).mapState (withLimit limit') := by
  cases item with
  | failure cause => rfl
  | line text =>
    by_cases hblank : isBlank text = true
    · rw [take_blank hblank, take_blank hblank]
      rfl
    · have hinvoke := Client.invoke_within hle fun size => h size text rfl hblank
      rw [take_line hblank, take_line hblank, execute_within hinvoke]
      rfl

/-- **A turn that exceeds the limit is declined.** -/
theorem take_exceeding (hblank : ¬ isBlank line = true) (h : Client.Exceeds size (.invoke line) shell.client)
    (limit' : UInt32) :
    Declined shell.client.limit size (take (.line line) shell).answer (take (.line line) shell).state.client
      (take (.line line) shell).trace (take (.line line) (shell.withLimit limit')).trace := by
  obtain ⟨hanswer, hstate, past, -, hrefused⟩ := Client.invoke_exceeding h limit'
  rcases hinvoke : Client.invoke line shell.client with ⟨answer, client, trace⟩
  rw [hinvoke] at hanswer hstate hrefused
  obtain rfl : answer = _ := hanswer
  have htake : take (.line line) shell = ⟨.error (.client (.frameTooLarge size shell.client.limit.toNat)),
      { shell with client }, asking line ++ trace⟩ := by
    rw [take_line hblank, execute_error (exchange_error shell hinvoke)]
    rfl
  have hlonger : (Client.invoke line (shell.client.withLimit limit')).trace <+:
      (execute line (shell.withLimit limit')).trace := by
    have hclient : (withClient (Client.invoke line) (shell.withLimit limit')).trace =
        (Client.invoke line (shell.client.withLimit limit')).trace := by
      rw [withClient_eq]
      rfl
    rw [← hclient]
    exact (Act.begins_bind _ _ _).trans (Act.begins_bind _ _ _)
  rw [htake, take_line hblank]
  exact ⟨rfl, hstate, asking line ++ past, (hrefused.longer hlonger).after (asking line)⟩

/-! ## The turns of a source -/

theorem converse_within (hle : shell.client.limit ≤ limit') (h : ∀ k size, ¬ Exceeds size source k shell) :
    converse (shell.withLimit limit') source = (converse shell source).mapState (Prod.map id (withLimit limit')) := by
  induction source generalizing shell with
  | nil => rfl
  | cons item later ih =>
    have htake := take_within hle fun size line hitem hblank hexceeds => h 0 size ⟨line, hitem, hblank, hexceeds⟩
    have hlimit := limit_take item shell
    rcases hrun : take item shell with ⟨e | _, shell', trace⟩
    · rw [hrun] at htake
      rw [converse_error hrun]
      exact converse_error htake later
    · rw [hrun] at htake hlimit
      have hwithin : ∀ k size, ¬ Exceeds size later k shell' :=
        fun k size hexceeds => h (k + 1) size (by simpa [Exceeds, hrun] using hexceeds)
      have hlater := ih (hlimit.symm ▸ hle) hwithin
      rw [converse_ok hrun]
      refine (converse_ok htake later).trans ?_
      exact congrArg (Run.after trace) hlater

theorem begins_converse (item : SourceItem) (later : Source) (shell : Shell) :
    (take item shell).trace <+: (converse shell (item :: later)).trace := by
  rcases hrun : take item shell with ⟨e | _, shell', trace⟩
  · rw [converse_error hrun]
  · rw [converse_ok hrun]
    exact List.prefix_append _ _

theorem converse_exceeding (hle : shell.client.limit ≤ limit') (h : Exceeds size source k shell) :
    (converse shell source).state.1 = source.drop (k + 1) ∧
      Declined shell.client.limit size (converse shell source).answer (converse shell source).state.2.client
        (converse shell source).trace (converse (shell.withLimit limit') source).trace := by
  induction source generalizing shell k with
  | nil => exact h.elim
  | cons item later ih =>
    cases k with
    | zero =>
      obtain ⟨line, rfl, hblank, hexceeds⟩ := h
      have hdeclined := (take_exceeding hblank hexceeds limit').longer (begins_converse _ later _)
      rcases hrun : take (.line line) shell with ⟨answer, shell', trace⟩
      rw [hrun] at hdeclined
      obtain rfl : answer = _ := hdeclined.answer
      rw [converse_error hrun]
      exact ⟨rfl, hdeclined⟩
    | succ k =>
      obtain ⟨hok, hlater⟩ := h
      -- a turn that has come to its end did not exceed the limit
      have hwithin : ∀ size line, item = .line line → ¬ isBlank line = true →
          ¬ Client.Exceeds size (.invoke line) shell.client := by
        rintro size line rfl hblank hexceeds
        rw [(take_exceeding hblank hexceeds limit').answer] at hok
        cases hok
      have htake := take_within hle hwithin
      have hlimit := limit_take item shell
      rcases hrun : take item shell with ⟨answer, shell', trace⟩
      rw [hrun] at hok hlater htake hlimit
      obtain rfl : answer = _ := hok
      obtain ⟨hleft, hdeclined⟩ := ih (hlimit.symm ▸ hle) hlater
      rw [hlimit] at hdeclined
      rw [converse_ok hrun, show converse (shell.withLimit limit') (item :: later) = _ from converse_ok htake later]
      exact ⟨hleft, hdeclined.after trace⟩

end Shell

/-! ## Whole sessions -/

namespace Session

variable {limit limit' : UInt32} {size k : Nat} {session : Session}

/-- the same session with another limit of its client -/
def withLimit (limit : UInt32) (session : Session) : Session := { session with shell := session.shell.withLimit limit }

/-- the user is greeted, and the turn at `k` is reached and comes to a receive that meets a header above the limit -/
def Exceeds (size k : Nat) (session : Session) : Prop :=
  (Shell.greet session.shell).answer = .ok () ∧
    Shell.Exceeds size session.source k (Shell.greet session.shell).state

theorem greet_withLimit (limit' : UInt32) (shell : Shell) :
    Shell.greet (shell.withLimit limit') = (Shell.greet shell).mapState (Shell.withLimit limit') := by
  rw [Shell.greet_eq]
  exact Shell.showing_withLimit _ limit' shell

theorem client_greet (shell : Shell) : (Shell.greet shell).state.client = shell.client := by
  obtain ⟨answer, screen, trace, hshowing, -⟩ := Shell.showing_shape [greeting] shell
  rw [Shell.greet_eq, hshowing]

theorem talk_within (hle : session.shell.client.limit ≤ limit') (h : ∀ k size, ¬ Exceeds size k session) :
    talk (session.withLimit limit') = (talk session).mapState (withLimit limit') := by
  have hgreet := greet_withLimit limit' session.shell
  have hclient := client_greet session.shell
  rcases hrun : Shell.greet session.shell with ⟨e | _, shell, trace⟩
  · rw [hrun] at hgreet
    rw [talk_refused session hrun]
    exact talk_refused (session.withLimit limit') hgreet
  · rw [hrun] at hgreet hclient
    have hconverse : Shell.converse (shell.withLimit limit') session.source =
        (Shell.converse shell session.source).mapState (Prod.map id (Shell.withLimit limit')) :=
      Shell.converse_within (hclient.symm ▸ hle) fun k size hexceeds =>
        h k size ⟨by rw [hrun], by rw [hrun]; exact hexceeds⟩
    have htalk' : talk (session.withLimit limit') =
        let r := Shell.converse (shell.withLimit limit') session.source
        ⟨r.answer, ⟨r.state.1, r.state.2⟩, trace ++ r.trace⟩ := talk_greeted (session.withLimit limit') hgreet
    rw [htalk', hconverse, talk_greeted session hrun]
    rfl

theorem finish_withLimit (talked : Except SessionError Unit) (limit' : UInt32) (session : Session) :
    finish talked (session.withLimit limit') = (finish talked session).mapState (withLimit limit') := by
  have hhangUp : ∀ {ε}, (hangUp (session.withLimit limit') : Run Session ε Unit) =
      (hangUp session).mapState (withLimit limit') := by
    obtain ⟨source, ⟨⟨limit, link⟩, screen, timing, laps⟩⟩ := session
    cases link <;> intros <;> rfl
  cases talked with
  | ok _ => exact hhangUp
  | error e => exact Act.bind_mapState hhangUp fun _ _ => rfl

/-- **A session none of whose turns exceeds the limit is the same under a higher one.** -/
theorem run_within (hle : session.shell.client.limit ≤ limit') (h : ∀ k size, ¬ Exceeds size k session) :
    run (session.withLimit limit') = (run session).mapState (withLimit limit') := by
  unfold run
  rw [talk_within hle h]
  simp only [Run.mapState]
  rw [finish_withLimit]
  rfl

/-- **A session is declined at the first turn that exceeds the limit.** -/
theorem run_exceeding (hle : session.shell.client.limit ≤ limit') (h : Exceeds size k session) :
    (run session).state.source = session.source.drop (k + 1) ∧
      Shell.Declined session.shell.client.limit size (run session).answer (run session).state.shell.client
        (run session).trace (run (session.withLimit limit')).trace := by
  obtain ⟨hok, hexceeds⟩ := h
  have hgreet := greet_withLimit limit' session.shell
  have hclient := client_greet session.shell
  rcases hrun : Shell.greet session.shell with ⟨answer, shell, trace⟩
  rw [hrun] at hok hexceeds hgreet hclient
  obtain rfl : answer = _ := hok
  obtain ⟨hleft, hdeclined⟩ := Shell.converse_exceeding (hclient.symm ▸ hle) hexceeds
  obtain ⟨last, hquiet, hsession⟩ := run_eq session
  obtain ⟨last', -, hsession'⟩ := run_eq (session.withLimit limit')
  rw [hsession, hsession', talk_greeted session hrun, talk_greeted (session.withLimit limit') hgreet]
  rw [hclient] at hdeclined
  obtain ⟨hanswer, hstate, past, hrefused⟩ := hdeclined
  have hnone : last.NoRead := hquiet.only.noRead (o := .screen) (by decide)
  refine ⟨hleft, hanswer, ?_, trace ++ past, ?_⟩
  · simp only [hstate]
  · exact ((hrefused.after trace).more hnone).longer (List.prefix_append _ last')

/-- **The limit of a client matters only for frames above it.** Of two clients over the same stream that differ in their
limit only:
- the same requests do the same, except for the limit that the clients keep, up to the first receive that meets a header
  above the lower limit; there the lower one has a failure that tells the declared size and its limit, has read the
  header and nothing more, and is closed, whatever comes behind the header; up to the end of the header the higher one
  did the same;
- a session with the one is the same as a session with the other if none of its turns comes to such a receive; the first
  turn that does ends the session of the lower one in this way, with the rest of the source left. -/
theorem limit_matters_above (client : Client) (limit' : UInt32) (hle : client.limit ≤ limit') :
    (∀ requests : List Client.Request,
      let runs := client.life requests
      let runs' := (client.withLimit limit').life requests
      (∀ k, (∀ j < k, ∀ request size, requests[j]? = some request →
          ¬ Client.Exceeds size request (client.before requests j)) →
        runs'.take k = (runs.take k).map (·.mapState (Client.withLimit limit'))) ∧
      ∀ k request size, requests[k]? = some request → Client.Exceeds size request (client.before requests k) →
        runs'.take k = (runs.take k).map (·.mapState (Client.withLimit limit')) ∧
        ∃ r r', runs[k]? = some r ∧ runs'[k]? = some r' ∧ Client.Declined client.limit size r r'.trace) ∧
    ∀ (source : Source) (screen : Outflow) (timing : Bool) (laps : List Nat),
      let session : Session := ⟨source, ⟨client, screen, timing, laps⟩⟩
      let r := run session
      let r' := run (session.withLimit limit')
      ((∀ k size, ¬ Exceeds size k session) → r' = r.mapState (withLimit limit')) ∧
      ∀ k size, Exceeds size k session → r.state.source = source.drop (k + 1) ∧
        Shell.Declined client.limit size r.answer r.state.shell.client r.trace r'.trace := by
  refine ⟨fun requests => ⟨fun k h => ?_, fun k request size hrequest h => ?_⟩,
    fun source screen timing laps => ⟨fun h => ?_, fun k size h => ?_⟩⟩
  · exact Client.life_within hle h
  · exact Client.life_exceeding hle hrequest h
  · exact run_within hle h
  · exact run_exceeding hle h

/-- two frames, and a limit that the second one is above: as an answer to a request, and in a session -/
theorem limit_matters_above_second_frame :
    let arrivals : List Arrival :=
      [.bytes [2, 0, 0], .failure (.plain .interrupted), .bytes [0, 104, 105, 3, 0, 0, 0, 97]]
    let client : Client := ⟨2, some ⟨{ arrivals }, {}⟩⟩
    let requests : List Client.Request := [.receive, .invoke "q"]
    let session : Session := ⟨[.line "a", .line "b"], ⟨client, {}, false, []⟩⟩
    client.limit ≤ 5 ∧ Client.Exceeds 3 (.invoke "q") (client.before requests 1) ∧ Exceeds 3 1 session ∧
      (∃ r r', (client.life requests)[1]? = some r ∧ ((client.withLimit 5).life requests)[1]? = some r' ∧
        Client.Declined 2 3 r r'.trace) ∧
      (run session).answer = .error (.client (.frameTooLarge 3 2)) ∧ (run session).state.source = [] := by
  intro arrivals client requests session
  -- what is left of the stream after the first frame, however it was asked for
  let now : Client := ⟨2, some ⟨{ arrivals := [.bytes [3, 0, 0, 0, 97]] }, {}⟩⟩
  have hover : Frame.Oversized 2 3 (Inflow.coming { arrivals := [.bytes [3, 0, 0, 0, 97]] }).bytes :=
    ⟨by decide, by decide, by decide⟩
  have hexceeds : ∀ line, (Client.send line now).answer = .ok () → Client.Exceeds 3 (.invoke line) now :=
    fun line hsent => ⟨.inr ⟨line, rfl, hsent⟩, _, rfl, hover⟩
  have hrequest : Client.Exceeds 3 (.invoke "q") (client.before requests 1) := by
    have hbefore : client.before requests 1 = now := by
      show (Client.perform .receive client).state = now
      cbv
    rw [hbefore]
    exact hexceeds "q" (by cbv)
  have hsession : Exceeds 3 1 session := by
    have hgreet : (Shell.greet session.shell).answer = .ok () := by cbv
    have htake : (Shell.take (.line "a") (Shell.greet session.shell).state).answer = .ok () := by cbv
    have hstate : (Shell.take (.line "a") (Shell.greet session.shell).state).state.client = now := by cbv
    refine ⟨hgreet, htake, "b", rfl, by decide, ?_⟩
    rw [hstate]
    exact hexceeds "b" (by cbv)
  have hle : client.limit ≤ 5 := by decide
  obtain ⟨hlife, htalk⟩ := limit_matters_above client 5 hle
  obtain ⟨hleft, hdeclined⟩ := (htalk [.line "a", .line "b"] {} false []).2 1 3 hsession
  exact ⟨hle, hrequest, hsession, ((hlife requests).2 1 _ 3 rfl hrequest).2, hdeclined.answer, hleft⟩

end Session

end QueryConsole
