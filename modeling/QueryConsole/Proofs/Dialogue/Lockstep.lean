import QueryConsole.Proofs.Dialogue.Interleaving

/-
A client and a server over an ideal transport: no read is interrupted, and each read of the server is given all bytes
that are on their way to it, as far as they fit its buffer.

Even so the server takes one read for one request. As long as every line fits the buffer the two go in step: no line is
sent before the one before it is answered, so what is on its way to the server is one whole line or nothing
(`Lockstep`). A longer line is cut, and its parts are answered as if they were lines.

Results:
- `lockstep_reachable`: the invariant, for lines that fit.
- `Lockstep.goes_on`, `Lockstep.length_le`: a conversation that is not finished goes on, and none goes on for ever.
- `everyLineAnswered_iff`: every line gets its own answer exactly if every line fits the buffer of the server.
-/

namespace QueryConsole

/-- no read is interrupted, and a read of the server is given all there is, as far as it has room -/
def Transport.ideal : Transport where
  client _ e := e.Prompt
  server pending e := e.Prompt ∧ ∀ room got, e = .read room got → got = .ok (pending.take room)
  client_delivers _ _ h := h.1
  server_delivers _ _ h := h.1.1

namespace Dialogue

variable {parties : Parties} {s s' : Dialogue}

/-- all lines were invoked, and all invokes have returned -/
def Finished (parties : Parties) (s : Dialogue) : Prop := ∃ inflow, s.client = parties.client inflow

/-- **Every line gets its own answer.** -/
structure EveryLineAnswered (parties : Parties) : Prop where
  /-- a conversation that is not finished goes on -/
  goes_on : ∀ s, Reachable .ideal parties s → ¬ Finished parties s → ∃ s', Step .ideal parties s s'
  /-- no conversation goes on for ever -/
  ends : ∃ bound, ∀ s, Reachable .ideal parties s → s.client.length + s.server.length ≤ bound
  /-- the invokes are answered with what the handler makes of their own lines -/
  answers : ∀ s, Reachable .ideal parties s → ∀ runs, Returned parties s runs →
    runs.map (·.answer) = (parties.lines.take runs.length).map fun line => .ok (parties.answer line)
  /-- in the end all of them have returned so -/
  returned : ∀ s, Reachable .ideal parties s → Finished parties s → ∃ runs, Returned parties s runs ∧
    runs.map (·.answer) = parties.lines.map fun line => .ok (parties.answer line)
  /-- the handler is given the lines, whole and in order -/
  handled : ∀ s, Reachable .ideal parties s → Trace.handled s.server <+: parties.lines
  /-- in the end it was given every line, and no byte is left on its way -/
  finished : ∀ s, Reachable .ideal parties s → Finished parties s →
    Trace.handled s.server = parties.lines ∧ s.requests = [] ∧ s.responses = []

/-! ## Lines that fit the buffer of the server -/

/-- what was asked of the two parties: lines with at least one byte that fit the buffer, and answers that fit the
limit -/
structure Fits (parties : Parties) : Prop where
  lines : ∀ line ∈ parties.lines, Utf8.encode line ≠ [] ∧ (Utf8.encode line).length ≤ Server.requestSize
  answers : ∀ line ∈ parties.lines, (Utf8.encode (parties.answer line)).length ≤ parties.limit.toNat

theorem Fits.lines_ne_nil (hfits : Fits parties) : ∀ line ∈ parties.lines, Utf8.encode line ≠ [] :=
  fun line hline => (hfits.lines line hline).1

/-- the pieces that the server has read are the first lines, and what is on its way to it is the next line or nothing -/
structure Lockstep (parties : Parties) (s : Dialogue) (asked : Nat) : Prop where
  bound : asked ≤ parties.lines.length
  pieces : Trace.pieces s.server = (parties.lines.take asked).map Utf8.encode
  pending : s.requests = [] ∨ ∃ line, parties.lines[asked]? = some line ∧ s.requests = Utf8.encode line

theorem Lockstep.replies_eq {asked : Nat} (h : Lockstep parties s asked) :
    s.replies parties = (parties.lines.take asked).map parties.answer := by
  rw [replies, h.pieces, List.map_map]
  exact List.map_congr_left fun line _ => Server.reply_encode parties.answer line

theorem Lockstep.length_replies {asked : Nat} (h : Lockstep parties s asked) : (s.replies parties).length = asked := by
  rw [h.replies_eq, List.length_map, List.length_take_of_le h.bound]

theorem Lockstep.replies_fit {asked : Nat} (h : Lockstep parties s asked) (hfits : Fits parties) :
    ∀ reply ∈ s.replies parties, (Utf8.encode reply).length ≤ parties.limit.toNat := by
  intro reply hreply
  rw [h.replies_eq] at hreply
  obtain ⟨line, hline, rfl⟩ := List.mem_map.1 hreply
  exact hfits.answers line (List.mem_of_mem_take hline)

/-- of parts that are not empty, fewer make less -/
theorem take_eq_of_flatMap {f : α → List β} {parts : List α} (hparts : ∀ part ∈ parts, f part ≠ []) {i j : Nat}
    (hi : i ≤ j) (hj : j ≤ parts.length) {rest : List β}
    (h : (parts.take j).flatMap f ++ rest = (parts.take i).flatMap f) : i = j ∧ rest = [] := by
  obtain ⟨k, rfl⟩ := Nat.exists_eq_add_of_le hi
  rw [List.take_add, List.flatMap_append, List.append_assoc, List.append_right_eq_self, List.append_eq_nil_iff,
    List.flatMap_eq_nil_iff] at h
  refine ⟨?_, h.2⟩
  cases k with
  | zero => rfl
  | succ k =>
    have hlt : i < parts.length := by omega
    have hmem : parts[i] ∈ (parts.drop i).take (k + 1) := by
      rw [List.drop_eq_getElem_cons hlt, List.take_succ_cons]
      exact List.mem_cons_self
    exact absurd (h.1 _ hmem) (hparts _ (List.getElem_mem hlt))

/-- parts that are not empty are counted by what they make -/
theorem count_eq_of_flatMap {f : α → List β} {parts : List α} (hparts : ∀ part ∈ parts, f part ≠ []) {i j : Nat}
    (hi : i ≤ parts.length) (hj : j ≤ parts.length) (h : (parts.take j).flatMap f = (parts.take i).flatMap f) :
    i = j := by
  rcases Nat.le_total i j with hle | hle
  · exact (take_eq_of_flatMap hparts hle hj (by rw [List.append_nil, h])).1
  · exact (take_eq_of_flatMap hparts hle hi (by rw [List.append_nil, h])).1.symm

theorem Lockstep.received_eq {asked : Nat} (h : Lockstep parties s asked) :
    Trace.received s.server = (parties.lines.take asked).flatMap Utf8.encode := by
  rw [← Trace.flatten_pieces, h.pieces, List.flatMap_def]

/-- a client that has got some answers has got no more than there were requests, and has sent all it has to -/
theorem Lockstep.answered {asked j : Nat} {inflow : Inflow} (h : Lockstep parties s asked) (hfits : Fits parties)
    (hchannels : Channels parties s) (hj : j ≤ parties.lines.length)
    (hdone : s.client = Run.wholeTrace ((Client.invoking parties.limit parties.lines inflow).take j)) :
    j = asked ∧ s.requests = [] ∧ Trace.received s.client = (s.replies parties).flatMap Frame.ofText := by
  have hmeets := hchannels.meets (Client.largest_of_limit (h.replies_fit hfits))
  rw [hdone] at hmeets
  obtain ⟨hasked, hreceived, htaken⟩ :=
    Client.answered_invoking parties.lines inflow (s.replies parties) j (h.replies_fit hfits) hj hmeets
  have hrequests := hchannels.requests
  rw [h.received_eq, hdone, htaken] at hrequests
  obtain ⟨rfl, hnone⟩ :=
    take_eq_of_flatMap hfits.lines_ne_nil (h.length_replies ▸ hasked) h.bound hrequests
  refine ⟨rfl, hnone, ?_⟩
  rw [hdone, hreceived, List.take_of_length_le h.length_replies.le]

/-- a line is sent when no line is on its way -/
theorem Lockstep.client {asked : Nat} {e : Event} (h : Lockstep parties s asked) (hfits : Fits parties)
    (hchannels : Channels parties s) (acts : Conduct parties.client (s.client ++ [e])) (rest : Bytes) :
    Lockstep parties ⟨s.client ++ [e], s.server, s.requests ++ e.taken .link, rest⟩ asked := by
  refine ⟨h.bound, h.pieces, ?_⟩
  by_cases hquiet : e.taken .link = []
  · simpa [hquiet] using h.pending
  · obtain ⟨inflow, hnext⟩ := acts
    obtain ⟨j, line, hline, hdone, hwritten⟩ := Client.write_invoking parties.lines inflow s.client e hnext hquiet
    have hj : j < parties.lines.length := (List.getElem?_eq_some_iff.1 hline).1
    obtain ⟨rfl, hnone, -⟩ := h.answered hfits hchannels hj.le hdone
    exact .inr ⟨line, hline, by rw [hnone, hwritten, List.nil_append]⟩

/-- a read of the server is given the line that is on its way, and all of it -/
theorem Lockstep.read {asked : Nat} {rest : Bytes} (h : Lockstep parties s asked) (hfits : Fits parties)
    (hsome : s.requests.take Server.requestSize ≠ [])
    (takes : s.requests = s.requests.take Server.requestSize ++ rest) (responses : Bytes) :
    Lockstep parties
      ⟨s.client, s.server ++ [.read Server.requestSize (.ok (s.requests.take Server.requestSize))], rest, responses⟩
      (asked + 1) := by
  rcases h.pending with hnone | ⟨line, hline, hpending⟩
  · exact absurd (by rw [hnone, List.take_nil]) hsome
  · obtain ⟨hlt, hget⟩ := List.getElem?_eq_some_iff.1 hline
    have hshort := (hfits.lines line (hget ▸ List.getElem_mem hlt)).2
    have hwhole : s.requests.take Server.requestSize = Utf8.encode line := by
      rw [hpending, List.take_of_length_le hshort]
    rw [hwhole] at hsome takes ⊢
    refine ⟨hlt, ?_, .inl ?_⟩
    · have hpiece : Event.piece (.read Server.requestSize (.ok (Utf8.encode line))) = [Utf8.encode line] := by
        obtain ⟨b, piece, hcons⟩ := List.exists_cons_of_ne_nil hsome
        rw [hcons]
        rfl
      rw [Trace.pieces_append, h.pieces, List.take_add_one, hline, List.map_append, Trace.pieces_cons, hpiece]
      rfl
    · rwa [hpending, List.self_eq_append_right] at takes

/-- **The step lemma.** A line is only sent when none is on its way, and only read as a whole. -/
theorem Lockstep.step {asked : Nat} (h : Lockstep parties s asked) (hfits : Fits parties)
    (hchannels : Channels parties s) (hstep : Step .ideal parties s s') : ∃ asked', Lockstep parties s' asked' := by
  cases hstep with
  | @client e rest acts meets takes => exact ⟨asked, h.client hfits hchannels acts rest⟩
  | @server e rest acts meets takes =>
    by_cases hread : ∃ room got, e = .read room got
    · obtain ⟨room, got, rfl⟩ := hread
      obtain ⟨inflow, hnext⟩ := acts
      obtain rfl := Server.room_serving hnext
      obtain rfl := meets.2 _ _ rfl
      exact ⟨asked + 1, h.read hfits meets.1.1 takes _⟩
    · -- what is no read leaves the channel as it is
      have hquiet : ∀ room got, e ≠ .read room got := fun room got heq => hread ⟨room, got, heq⟩
      have hpieces : Trace.pieces [e] = [] := Trace.NoRead.pieces_eq_nil (by simpa using hquiet)
      refine ⟨asked, h.bound, ?_, ?_⟩
      · rw [Trace.pieces_append, hpieces, List.append_nil, h.pieces]
      · rw [Event.received_eq_nil hquiet, List.nil_append] at takes
        exact takes ▸ h.pending

theorem lockstep_reachable (hfits : Fits parties) (h : Reachable .ideal parties s) :
    ∃ asked, Lockstep parties s asked := by
  induction h with
  | refl => exact ⟨0, Nat.zero_le _, rfl, .inl rfl⟩
  | tail hbefore hstep ih =>
    obtain ⟨asked, hlock⟩ := ih
    exact hlock.step hfits (channels_reachable hbefore) hstep

/-! ## It goes on, and ends -/

/-- the frames of all pieces are the frames of the replies -/
theorem frames_eq (parties : Parties) (s : Dialogue) :
    (Trace.pieces s.server).flatMap (Server.frame parties.answer) = (s.replies parties).flatMap Frame.ofText := by
  rw [replies, List.flatMap_map]
  rfl

/-- the two do not both wait for each other -/
theorem Lockstep.not_stuck {asked room room' : Nat} {got got' : Except IoError Bytes} {inflow inflow' : Inflow}
    (h : Lockstep parties s asked) (hfits : Fits parties) (hchannels : Channels parties s)
    (hclient : s.client ++ [.read room got] <+: parties.client inflow)
    (hserver : s.server ++ [.read room' got'] <+: parties.server inflow') :
    ¬ (s.requests = [] ∧ s.responses = []) := by
  rintro ⟨hrequests, hresponses⟩
  have hmeets := hchannels.meets (Client.largest_of_limit (h.replies_fit hfits))
  obtain ⟨j, hj, htaken, hlacks⟩ := Client.waiting_invoking parties.lines inflow s.client (s.replies parties)
    (h.replies_fit hfits) hclient hmeets
  -- all that was sent was read, so the last line sent is the last one asked
  have hsent := hchannels.requests
  rw [hrequests, List.append_nil, h.received_eq, htaken] at hsent
  have hasked : j + 1 = asked := count_eq_of_flatMap hfits.lines_ne_nil hj h.bound hsent
  -- all that was asked was answered, and all answers were read
  have hwritten := (Server.answered_at_read hserver).taken
  have hreceived := hchannels.responses
  rw [hresponses, List.append_nil, hwritten, List.take_length, frames_eq] at hreceived
  have hlength := h.length_replies
  refine hlacks (by omega) ?_
  rw [hreceived, List.take_of_length_le (by omega)]

/-- **A conversation that is not finished goes on.** -/
theorem Lockstep.goes_on {asked : Nat} (h : Lockstep parties s asked) (hfits : Fits parties)
    (hchannels : Channels parties s) : Finished parties s ∨ ∃ s', Step .ideal parties s s' := by
  obtain ⟨inflow, hclient⟩ := hchannels.client
  obtain ⟨inflow', hserver⟩ := hchannels.server
  rcases (Client.responsive_invoking parties.limit parties.lines).next hclient with
    hend | ⟨e, hworks, hno, hnext⟩ | ⟨room, hroom, ⟨got, hwaits⟩, hany⟩
  · exact .inl ⟨inflow, hend⟩
  · exact .inr ⟨_, .client ⟨inflow, hnext⟩ (hworks.prompt hno) (by rw [Event.received_eq_nil hno, List.nil_append])⟩
  · by_cases hresponses : s.responses = []
    · rcases (Server.responsive_serving parties.answer parties.peer).next hserver with
        hend | ⟨e, hworks, hno, hnext⟩ | ⟨room', hroom', ⟨got', hwaits'⟩, hany'⟩
      · -- the server does not stop
        have hfit := Client.largest_of_limit (h.replies_fit hfits)
        refine (Server.endless_serving inflow' (hend ▸ hchannels.server_delivers) ?_).elim
        rw [← hend]
        exact fun piece hpiece => hfit _ (List.mem_map_of_mem hpiece)
      · refine .inr ⟨_, .server ⟨inflow', hnext⟩ ⟨hworks.prompt hno, fun room got heq => ?_⟩
          (by rw [Event.received_eq_nil hno, List.nil_append])⟩
        exact absurd heq (hno room got)
      · by_cases hrequests : s.requests = []
        · exact absurd ⟨hrequests, hresponses⟩ (h.not_stuck hfits hchannels hwaits hwaits')
        · refine .inr ⟨_, .server (hany' (s.requests.take room') (List.length_take_le _ _))
            ⟨Event.prompt_read hroom' hrequests, fun room got heq => ?_⟩ (List.take_append_drop room' s.requests).symm⟩
          cases heq
          rfl
    · exact .inr ⟨_, .client (hany (s.responses.take room) (List.length_take_le _ _))
        (Event.prompt_read hroom hresponses) (List.take_append_drop room s.responses).symm⟩

theorem prompt_reachable (h : Reachable .ideal parties s) :
    (∀ e ∈ s.client, e.Prompt) ∧ ∀ e ∈ s.server, e.Prompt := by
  induction h with
  | refl => simp
  | tail _ hstep ih =>
    cases hstep with
    | @client e rest acts meets takes =>
      have hnow : e.Prompt := meets
      exact ⟨List.forall_mem_append.2 ⟨ih.1, by simpa using hnow⟩, ih.2⟩
    | @server e rest acts meets takes =>
      have hnow : e.Prompt := meets.1
      exact ⟨ih.1, List.forall_mem_append.2 ⟨ih.2, by simpa using hnow⟩⟩

/-- the most events of a conversation: each party does so many for a byte it reads, and the client some more for a
line -/
def mostEvents (parties : Parties) : Nat :=
  2 * ((parties.lines.map parties.answer).flatMap Frame.ofText).length + 13 * parties.lines.length +
    8 * (parties.lines.flatMap Utf8.encode).length

/-- **No conversation goes on for ever.** -/
theorem Lockstep.length_le {asked : Nat} (h : Lockstep parties s asked) (hfits : Fits parties)
    (hreach : Reachable .ideal parties s) : s.client.length + s.server.length ≤ mostEvents parties := by
  have hchannels := channels_reachable hreach
  obtain ⟨hclient, hserver⟩ := prompt_reachable hreach
  have hreplies : (Trace.received s.client).length ≤
      ((parties.lines.map parties.answer).flatMap Frame.ofText).length := by
    have hmeets := hchannels.meets (Client.largest_of_limit (h.replies_fit hfits))
    refine (hmeets.received.trans ?_).length_le
    rw [h.replies_eq]
    exact ((List.take_prefix asked parties.lines).map parties.answer).flatMap _
  have hlines : (Trace.received s.server).length ≤ (parties.lines.flatMap Utf8.encode).length := by
    rw [h.received_eq]
    exact ((List.take_prefix asked parties.lines).flatMap _).length_le
  obtain ⟨inflow, hdone⟩ := hchannels.client
  obtain ⟨inflow', hdone'⟩ := hchannels.server
  have hcost := Client.paced_invoking parties.lines inflow s.client hdone hclient
  have hcost' := Server.paced_serving inflow' s.server hdone' hserver
  rw [mostEvents]
  omega

/-! ## What is answered -/

theorem Lockstep.answers {asked : Nat} (h : Lockstep parties s asked) (hfits : Fits parties)
    (hchannels : Channels parties s) {runs : List (Run Client LinkError String)} (hreturned : Returned parties s runs) :
    runs.map (·.answer) = (parties.lines.take runs.length).map fun line => .ok (parties.answer line) := by
  have hanswers := hchannels.answers_returned (Client.largest_of_limit (h.replies_fit hfits)) hreturned
  rw [Client.answers_fit _ (h.replies_fit hfits)] at hanswers
  -- as many have returned as were answered
  have hlength : runs.length ≤ asked := by
    have := congrArg List.length hanswers
    rw [List.length_map, List.length_map, List.length_take, h.length_replies] at this
    omega
  calc runs.map (·.answer) = ((s.replies parties).take runs.length).map .ok := hanswers
    _ = (((parties.lines.take asked).map parties.answer).take runs.length).map .ok := by rw [h.replies_eq]
    _ = ((parties.lines.take runs.length).map parties.answer).map .ok := by
        rw [← List.map_take, List.take_take, Nat.min_eq_left hlength]
    _ = (parties.lines.take runs.length).map fun line => .ok (parties.answer line) := List.map_map

/-- in the end there is a run for each line -/
theorem Finished.returned (h : Finished parties s) :
    ∃ runs, Returned parties s runs ∧ runs.length = parties.lines.length := by
  obtain ⟨inflow, hclient⟩ := h
  have hwhole : s.client = Run.wholeTrace (Client.invoking parties.limit parties.lines inflow) := hclient
  refine ⟨_, ⟨inflow, ?_, List.prefix_refl _, ?_⟩, Client.length_invoking parties.limit parties.lines inflow⟩
  · rw [hclient]
  · rw [hwhole]

/-- the pieces that the handler is given are the lines -/
theorem Lockstep.requests_eq {asked : Nat} (h : Lockstep parties s asked) (given : Nat) :
    ((Trace.pieces s.server).take given).flatMap Server.requestOf = (parties.lines.take asked).take given := by
  calc ((Trace.pieces s.server).take given).flatMap Server.requestOf
      = (((parties.lines.take asked).take given).map Utf8.encode).flatMap Server.requestOf := by
        rw [h.pieces, ← List.map_take]
    _ = ((parties.lines.take asked).take given).flatMap fun line => [line] := by
        simp only [List.flatMap_map, Server.requestOf_encode]
    _ = (parties.lines.take asked).take given := List.flatMap_singleton' _

theorem Lockstep.handled {asked : Nat} (h : Lockstep parties s asked) (hfits : Fits parties)
    (hchannels : Channels parties s) : Trace.handled s.server <+: parties.lines := by
  obtain ⟨given, written, hanswered⟩ := hchannels.answered (Client.largest_of_limit (h.replies_fit hfits))
  rw [hanswered.handled, h.requests_eq]
  exact (List.take_prefix _ _).trans (List.take_prefix _ _)

/-- in the end the handler was given every line, and nothing is left on its way -/
theorem Lockstep.finished {asked : Nat} (h : Lockstep parties s asked) (hfits : Fits parties)
    (hchannels : Channels parties s) (hfinished : Finished parties s) :
    Trace.handled s.server = parties.lines ∧ s.requests = [] ∧ s.responses = [] := by
  obtain ⟨inflow, hclient⟩ := hfinished
  have hall : s.client = Run.wholeTrace
      ((Client.invoking parties.limit parties.lines inflow).take parties.lines.length) := by
    rw [hclient, List.take_of_length_le (Client.length_invoking _ _ _).le]
    rfl
  obtain ⟨rfl, hrequests, hreceived⟩ := h.answered hfits hchannels le_rfl hall
  obtain ⟨given, written, hanswered⟩ := hchannels.answered (Client.largest_of_limit (h.replies_fit hfits))
  -- the client has read the frames of all replies, so the server has written them all
  have hframes := hchannels.responses
  rw [hreceived, hanswered.taken, ← frames_eq] at hframes
  have hbound := hanswered.order.trans hanswered.bound
  have hnonempty : ∀ piece ∈ Trace.pieces s.server, Server.frame parties.answer piece ≠ [] :=
    fun piece _ => Server.frame_ne_nil parties.answer piece
  obtain ⟨hwritten, hresponses⟩ :=
    take_eq_of_flatMap hnonempty hbound le_rfl (by rw [List.take_length]; exact hframes)
  -- what is written was handled before
  have hlength : (Trace.pieces s.server).length = parties.lines.length := by
    rw [h.pieces, List.length_map, List.take_length]
  have hgiven : parties.lines.length ≤ given := by
    have := hanswered.order
    omega
  refine ⟨?_, hrequests, hresponses⟩
  rw [hanswered.handled, h.requests_eq, List.take_length, List.take_of_length_le hgiven]

/-! ## Lines that do not fit -/

theorem Step.length {transport : Transport} (hstep : Step transport parties s s') :
    s'.client.length + s'.server.length = s.client.length + s.server.length + 1 := by
  cases hstep with
  | client => simp only [List.length_append, List.length_singleton]; omega
  | server => simp only [List.length_append, List.length_singleton]; omega

/-- a conversation that goes on, but not for ever, comes to its end -/
theorem EveryLineAnswered.comes_to_end (h : EveryLineAnswered parties) :
    ∃ s, Reachable .ideal parties s ∧ Finished parties s := by
  by_contra hnever
  obtain ⟨bound, hbound⟩ := h.ends
  have hlong : ∀ n, ∃ s, Reachable .ideal parties s ∧ n ≤ s.client.length + s.server.length := by
    intro n
    induction n with
    | zero => exact ⟨{}, .refl, Nat.zero_le _⟩
    | succ n ih =>
      obtain ⟨s, hreach, hlength⟩ := ih
      obtain ⟨s', hstep⟩ := h.goes_on s hreach fun hfinished => hnever ⟨s, hreach, hfinished⟩
      exact ⟨s', hreach.tail hstep, by rw [hstep.length]; omega⟩
  obtain ⟨s, hreach, hlength⟩ := hlong (bound + 1)
  have := hbound s hreach
  omega

/-- lines that get their own answers fit the buffer of the server -/
theorem EveryLineAnswered.short (h : EveryLineAnswered parties) :
    ∀ line ∈ parties.lines, (Utf8.encode line).length ≤ Server.requestSize := by
  obtain ⟨s, hreach, hfinished⟩ := h.comes_to_end
  obtain ⟨inflow, rest, hserver⟩ := (channels_reachable hreach).server
  intro line hline
  rw [← (h.finished s hreach hfinished).1] at hline
  refine Server.length_handled_serving parties.answer parties.peer inflow line ?_
  rw [← Parties.server, ← hserver, Trace.handled_append]
  exact List.mem_append_left _ hline

/-- **Every line gets its own answer exactly if every line fits the buffer of the server**, for lines that are not empty
and answers that fit the limit of the client. -/
theorem everyLineAnswered_iff (parties : Parties) (hlines : ∀ line ∈ parties.lines, line ≠ "")
    (hanswers : ∀ line ∈ parties.lines, (Utf8.encode (parties.answer line)).length ≤ parties.limit.toNat) :
    EveryLineAnswered parties ↔ ∀ line ∈ parties.lines, (Utf8.encode line).length ≤ Server.requestSize := by
  refine ⟨fun h => h.short, fun hshort => ?_⟩
  have hfits : Fits parties := ⟨fun line hline => ⟨Utf8.encode_ne_nil (hlines line hline), hshort line hline⟩, hanswers⟩
  have hlock : ∀ {s}, Reachable .ideal parties s → ∃ asked, Lockstep parties s asked :=
    fun hreach => lockstep_reachable hfits hreach
  refine ⟨?_, ⟨mostEvents parties, ?_⟩, ?_, ?_, ?_, ?_⟩
  · intro s hreach hunfinished
    obtain ⟨asked, h⟩ := hlock hreach
    exact (h.goes_on hfits (channels_reachable hreach)).resolve_left hunfinished
  · intro s hreach
    obtain ⟨asked, h⟩ := hlock hreach
    exact h.length_le hfits hreach
  · intro s hreach runs hreturned
    obtain ⟨asked, h⟩ := hlock hreach
    exact h.answers hfits (channels_reachable hreach) hreturned
  · intro s hreach hfinished
    obtain ⟨asked, h⟩ := hlock hreach
    obtain ⟨runs, hreturned, hlength⟩ := hfinished.returned
    have hanswers := h.answers hfits (channels_reachable hreach) hreturned
    rw [hlength, List.take_length] at hanswers
    exact ⟨runs, hreturned, hanswers⟩
  · intro s hreach
    obtain ⟨asked, h⟩ := hlock hreach
    exact h.handled hfits (channels_reachable hreach)
  · intro s hreach hfinished
    obtain ⟨asked, h⟩ := hlock hreach
    exact h.finished hfits (channels_reachable hreach) hfinished

/-- two short lines get their own answers -/
theorem everyLineAnswered_of_two_lines :
    let parties : Parties := { limit := 100, lines := ["a", "bc"], answer := fun line => line ++ "!", peer := "peer" }
    (∀ line ∈ parties.lines, line ≠ "") ∧
      (∀ line ∈ parties.lines, (Utf8.encode (parties.answer line)).length ≤ parties.limit.toNat) ∧
      EveryLineAnswered parties := by
  intro parties
  have hlines : ∀ line ∈ parties.lines, line ≠ "" := by decide
  have hanswers : ∀ line ∈ parties.lines, (Utf8.encode (parties.answer line)).length ≤ parties.limit.toNat := by
    decide
  have hshort : ∀ line ∈ parties.lines, (Utf8.encode line).length ≤ Server.requestSize := by decide
  exact ⟨hlines, hanswers, (everyLineAnswered_iff parties hlines hanswers).2 hshort⟩

/-- a text has at least one byte for each character -/
theorem length_le_encode (chars : List Char) : chars.length ≤ (Utf8.encode (String.ofList chars)).length := by
  induction chars with
  | nil => exact Nat.zero_le _
  | cons c chars ih =>
    have hchar : 0 < c.utf8Size := c.utf8Size_pos
    rw [Utf8.length_encode] at ih ⊢
    rw [String.ofList_cons, String.utf8ByteSize_append, String.utf8ByteSize_singleton, List.length_cons]
    omega

/-- **A line of one byte too many does not get its own answer.** -/
theorem long_line_not_answered :
    let parties : Parties :=
      { limit := 100, lines := [String.ofList (List.replicate 8193 'a')], answer := fun _ => "ok", peer := "peer" }
    (∀ line ∈ parties.lines, line ≠ "") ∧
      (∀ line ∈ parties.lines, (Utf8.encode (parties.answer line)).length ≤ parties.limit.toNat) ∧
      ¬ EveryLineAnswered parties := by
  intro parties
  have hlength := length_le_encode (List.replicate 8193 'a')
  rw [List.length_replicate] at hlength
  refine ⟨fun line hline => ?_, fun line _ => ?_, fun h => ?_⟩
  · rw [List.mem_singleton.1 hline]
    intro hempty
    rw [hempty] at hlength
    exact absurd hlength (by decide)
  · show (Utf8.encode "ok").length ≤ 100
    decide
  · have hshort := h.short _ List.mem_cons_self
    rw [Server.requestSize] at hshort
    omega

end Dialogue

end QueryConsole
