import Mathlib
import QueryConsole.Proofs.Client.Invoking
import QueryConsole.Proofs.Server.Connection

/-
A client and a server over two channels, with their steps in any order.

The client invokes lines in turn, the server serves one connection with a handler that depends on the request alone.
Between them are two channels that lose and reorder nothing. A state is what each party has done and what is on its way
in each direction. A step is one event of one party: what it writes joins the end of its channel, and what it reads
leaves the front of the other. A party may do whatever its program does on some inflow (`Conduct`); what a read is given
is for the `Transport` to say.

Actors: the client, the server, and the transport, which cuts the bytes into any pieces (`Transport.arbitrary`).

Results:
- `client_goes_on`, `server_goes_on`: several events of one party in a row.
- `channels_reachable`: both channels, in every reachable state.
- `dialogue_sound`: what was sent, read, written and answered, in every reachable state.
-/

namespace QueryConsole

/-- a client that has lines to invoke, and a server that answers them -/
structure Parties where
  /-- the limit of the client -/
  limit : UInt32
  lines : List String
  /-- the handler of the server -/
  answer : String → String
  peer : String

namespace Parties

/-- what the client does when this comes to it -/
def client (parties : Parties) (inflow : Inflow) : Trace :=
  Run.wholeTrace (Client.invoking parties.limit parties.lines inflow)

/-- what the server does when this comes to it -/
def server (parties : Parties) (inflow : Inflow) : Trace := Server.serving parties.answer parties.peer inflow

end Parties

/-- the middle of a conversation -/
structure Dialogue where
  /-- what the client has done -/
  client : Trace := []
  /-- what the server has done -/
  server : Trace := []
  /-- bytes on their way to the server -/
  requests : Bytes := []
  /-- bytes on their way to the client -/
  responses : Bytes := []

/-- what may happen to the two parties, by the bytes that are on their way to them; no stream ends and no call fails -/
structure Transport where
  client : Bytes → Event → Prop
  server : Bytes → Event → Prop
  client_delivers : ∀ pending e, client pending e → e.Delivers
  server_delivers : ∀ pending e, server pending e → e.Delivers

/-- reads are given any bytes from the front, or are interrupted -/
def Transport.arbitrary : Transport where
  client _ e := e.Delivers
  server _ e := e.Delivers
  client_delivers _ _ h := h
  server_delivers _ _ h := h

namespace Dialogue

/-- one event of one party -/
inductive Step (transport : Transport) (parties : Parties) : Dialogue → Dialogue → Prop
  | client {s : Dialogue} {e : Event} {rest : Bytes} (acts : Conduct parties.client (s.client ++ [e]))
      (meets : transport.client s.responses e) (takes : s.responses = e.received ++ rest) :
      Step transport parties s ⟨s.client ++ [e], s.server, s.requests ++ e.taken .link, rest⟩
  | server {s : Dialogue} {e : Event} {rest : Bytes} (acts : Conduct parties.server (s.server ++ [e]))
      (meets : transport.server s.requests e) (takes : s.requests = e.received ++ rest) :
      Step transport parties s ⟨s.client, s.server ++ [e], rest, s.responses ++ e.taken .link⟩

/-- the states of a conversation that begins with nothing done -/
def Reachable (transport : Transport) (parties : Parties) (s : Dialogue) : Prop :=
  Relation.ReflTransGen (Step transport parties) {} s

variable {transport : Transport} {parties : Parties} {s s' : Dialogue}

/-- the texts that the pieces which the server has read are answered with -/
def replies (parties : Parties) (s : Dialogue) : List String :=
  (Trace.pieces s.server).map (Server.reply parties.answer)

/-- the runs of the invokes that have returned, or of the first of them -/
def Returned (parties : Parties) (s : Dialogue) (runs : List (Run Client LinkError String)) : Prop :=
  ∃ inflow, s.client <+: parties.client inflow ∧ runs <+: Client.invoking parties.limit parties.lines inflow ∧
    Run.wholeTrace runs <+: s.client

/-! ## Several events of one party -/

section

variable {done : Trace} {rest : Bytes}

/-- the client goes on for several events, reading no more than what is on its way to it -/
theorem Reachable.client_goes_on (h : Reachable .arbitrary parties s)
    (acts : Conduct parties.client (s.client ++ done)) (delivers : ∀ e ∈ done, e.Delivers)
    (takes : s.responses = Trace.received done ++ rest) :
    Reachable .arbitrary parties ⟨s.client ++ done, s.server, s.requests ++ Trace.taken .link done, rest⟩ := by
  induction done generalizing s with
  | nil =>
    rw [Trace.received_nil, List.nil_append] at takes
    subst takes
    simpa using h
  | cons e done ih =>
    rw [List.append_cons] at acts
    rw [Trace.received_cons, List.append_assoc] at takes
    have hstep : Step .arbitrary parties s
        ⟨s.client ++ [e], s.server, s.requests ++ e.taken .link, Trace.received done ++ rest⟩ :=
      .client (acts.of_prefix (List.prefix_append _ _)) (delivers e List.mem_cons_self) takes
    have hlater := ih (h.tail hstep) acts (fun e' he' => delivers e' (List.mem_cons_of_mem e he')) rfl
    simpa using hlater

/-- the server goes on for several events, reading no more than what is on its way to it -/
theorem Reachable.server_goes_on (h : Reachable .arbitrary parties s)
    (acts : Conduct parties.server (s.server ++ done)) (delivers : ∀ e ∈ done, e.Delivers)
    (takes : s.requests = Trace.received done ++ rest) :
    Reachable .arbitrary parties ⟨s.client, s.server ++ done, rest, s.responses ++ Trace.taken .link done⟩ := by
  induction done generalizing s with
  | nil =>
    rw [Trace.received_nil, List.nil_append] at takes
    subst takes
    simpa using h
  | cons e done ih =>
    rw [List.append_cons] at acts
    rw [Trace.received_cons, List.append_assoc] at takes
    have hstep : Step .arbitrary parties s
        ⟨s.client, s.server ++ [e], Trace.received done ++ rest, s.responses ++ e.taken .link⟩ :=
      .server (acts.of_prefix (List.prefix_append _ _)) (delivers e List.mem_cons_self) takes
    have hlater := ih (h.tail hstep) acts (fun e' he' => delivers e' (List.mem_cons_of_mem e he')) rfl
    simpa using hlater

end

/-! ## The channels -/

/-- each party does what its program does, on a stream that neither ends nor fails; what it has read and what is still
on its way is what the other has written -/
structure Channels (parties : Parties) (s : Dialogue) : Prop where
  client : Conduct parties.client s.client
  server : Conduct parties.server s.server
  client_delivers : ∀ e ∈ s.client, e.Delivers
  server_delivers : ∀ e ∈ s.server, e.Delivers
  requests : Trace.received s.server ++ s.requests = Trace.taken .link s.client
  responses : Trace.received s.client ++ s.responses = Trace.taken .link s.server

theorem channels_start (parties : Parties) : Channels parties {} where
  client := ⟨⟨[], none⟩, List.nil_prefix⟩
  server := ⟨⟨[], none⟩, List.nil_prefix⟩
  client_delivers := by simp
  server_delivers := by simp
  requests := rfl
  responses := rfl

theorem Channels.step (h : Channels parties s) (hstep : Step transport parties s s') : Channels parties s' := by
  cases hstep with
  | @client e rest acts meets takes =>
    refine ⟨acts, h.server, ?_, h.server_delivers, ?_, ?_⟩
    · intro event hevent
      rcases List.mem_append.1 hevent with hbefore | hnow
      · exact h.client_delivers event hbefore
      · rw [List.mem_singleton.1 hnow]
        exact transport.client_delivers _ e meets
    · rw [Trace.taken_append, ← h.requests, List.append_assoc]
      simp
    · rw [← h.responses, takes, Trace.received_append, List.append_assoc]
      simp
  | @server e rest acts meets takes =>
    refine ⟨h.client, acts, h.client_delivers, ?_, ?_, ?_⟩
    · intro event hevent
      rcases List.mem_append.1 hevent with hbefore | hnow
      · exact h.server_delivers event hbefore
      · rw [List.mem_singleton.1 hnow]
        exact transport.server_delivers _ e meets
    · rw [← h.requests, takes, Trace.received_append, List.append_assoc]
      simp
    · rw [Trace.taken_append, ← h.responses, List.append_assoc]
      simp

theorem channels_reachable (h : Reachable transport parties s) : Channels parties s := by
  induction h with
  | refl => exact channels_start parties
  | tail _ hstep ih => exact ih.step hstep

/-! ## What is said -/

/-- how far the server is, if all replies fit a frame -/
theorem Channels.answered (h : Channels parties s)
    (hfits : ∀ reply ∈ s.replies parties, (Utf8.encode reply).length ≤ Frame.largest) :
    ∃ given written, Server.Answered parties.answer s.server given written := by
  obtain ⟨inflow, hserver⟩ := h.server
  exact Server.answered_serving inflow s.server hserver fun piece hpiece => hfits _ (List.mem_map_of_mem hpiece)

/-- what the client reads is the front of the frames of the replies -/
theorem Channels.meets (h : Channels parties s)
    (hfits : ∀ reply ∈ s.replies parties, (Utf8.encode reply).length ≤ Frame.largest) :
    Client.Meets s.client (s.replies parties) := by
  obtain ⟨given, written, hanswered⟩ := h.answered hfits
  have hfront : Trace.received s.client <+: Trace.taken .link s.server := ⟨_, h.responses⟩
  refine ⟨h.client_delivers, hfront.trans ?_⟩
  rw [hanswered.taken, replies, List.flatMap_map]
  exact (List.take_prefix written _).flatMap _

/-- the invokes that have returned were answered with the replies -/
theorem Channels.answers_returned (h : Channels parties s)
    (hfits : ∀ reply ∈ s.replies parties, (Utf8.encode reply).length ≤ Frame.largest)
    {runs : List (Run Client LinkError String)} (hreturned : Returned parties s runs) :
    runs.map (·.answer) = Client.answers parties.limit.toNat runs.length (s.replies parties) := by
  obtain ⟨inflow, hclient, hruns, hdone⟩ := hreturned
  have htake := List.prefix_iff_eq_take.1 hruns
  have hlength := Client.length_invoking parties.limit parties.lines inflow ▸ hruns.length_le
  have hmeets := (h.meets hfits).of_part hdone
  rw [htake] at hmeets ⊢
  rw [List.length_take_of_le hruns.length_le]
  exact Client.answers_invoking parties.lines inflow (s.replies parties) runs.length hfits hlength hmeets

/-- **What is said in a dialogue, however its steps are ordered and its bytes are cut.** In every state that can be
reached:
- the client has sent a number of whole lines;
- the pieces that the server has read, and the bytes on their way to it, are what the client has sent;
- the bytes that the server has written are the frames of the replies to all pieces, or to all but the last;
- the invokes that have returned were answered with these replies, in their order (`Client.answers`). -/
theorem dialogue_sound (h : Reachable .arbitrary parties s)
    (hfits : ∀ reply ∈ s.replies parties, (Utf8.encode reply).length ≤ Frame.largest) :
    (∃ k ≤ parties.lines.length, Trace.taken .link s.client = (parties.lines.take k).flatMap Utf8.encode) ∧
    (Trace.pieces s.server).flatten ++ s.requests = Trace.taken .link s.client ∧
    (∃ frames : List Bytes,
      (s.replies parties).map (fun reply => Frame.encode (Utf8.encode reply)) = frames.map Except.ok ∧
      (Trace.taken .link s.server = frames.flatten ∨ Trace.taken .link s.server = frames.dropLast.flatten)) ∧
    ∀ runs, Returned parties s runs →
      runs.map (·.answer) = Client.answers parties.limit.toNat runs.length (s.replies parties) := by
  have hchannels := channels_reachable h
  refine ⟨?_, ?_, ?_, ?_⟩
  · obtain ⟨inflow, hclient⟩ := hchannels.client
    exact Client.taken_invoking parties.lines inflow s.client hclient
  · rw [Trace.flatten_pieces, hchannels.requests]
  · obtain ⟨given, written, hanswered⟩ := hchannels.answered hfits
    have hframes : Trace.taken .link s.server = (((s.replies parties).map Frame.ofText).take written).flatten := by
      calc Trace.taken .link s.server
          = ((Trace.pieces s.server).take written).flatMap (Server.frame parties.answer) := hanswered.taken
        _ = (((Trace.pieces s.server).take written).map (Server.frame parties.answer)).flatten := List.flatMap_def ..
        _ = (((s.replies parties).map Frame.ofText).take written).flatten := by
            rw [replies, List.map_map, ← List.map_take]
            rfl
    have hlength : ((s.replies parties).map Frame.ofText).length = (Trace.pieces s.server).length := by
      rw [replies, List.length_map, List.length_map]
    refine ⟨(s.replies parties).map Frame.ofText, ?_, ?_⟩
    · rw [List.map_map]
      exact List.map_congr_left fun reply hreply => Frame.encode_ofText (hfits reply hreply)
    · have := hanswered.order
      have := hanswered.bound
      rcases Nat.lt_or_ge written (Trace.pieces s.server).length with hlt | hge
      · refine .inr ?_
        rw [hframes, List.dropLast_eq_take, hlength, Nat.sub_eq_of_eq_add (Nat.le_antisymm hanswered.last hlt)]
      · refine .inl ?_
        rw [hframes, List.take_of_length_le (hlength ▸ hge)]
  · intro runs hreturned
    exact hchannels.answers_returned hfits hreturned

/-- two lines, of which the server has read a part of the first, and then the rest of it together with the second up to
the middle of its last character; the first piece is text and the second is not, and both invokes have returned -/
theorem dialogue_sound_of_pieces :
    let parties : Parties := { limit := 100, lines := ["ab", "cé"], answer := fun line => line ++ "!", peer := "peer" }
    let table := "request is not valid utf8: incomplete utf-8 byte sequence from index 2\t\nDONE TOTAL 0 LINES\n"
    let inflow : Inflow := { arrivals := [.bytes [2, 0, 0], .bytes [0, 97], .bytes [33], .bytes (Frame.ofText table)] }
    let answered (piece : Bytes) : Trace :=
      .read Server.requestSize (.ok piece) :: Server.answering parties.answer parties.peer piece
    let s : Dialogue :=
      { client := parties.client inflow, server := answered [97] ++ answered [98, 99, 195], requests := [169] }
    Reachable .arbitrary parties s ∧ (∀ reply ∈ s.replies parties, (Utf8.encode reply).length ≤ Frame.largest) ∧
      Trace.pieces s.server = [[97], [98, 99, 195]] ∧ s.replies parties = ["a!", table] ∧
      (Trace.pieces s.server).flatten ++ s.requests = Trace.taken .link s.client ∧
      ∃ runs, Returned parties s runs ∧ runs.map (·.answer) = [.ok "a!", .ok table] := by
  intro parties table inflow answered s
  have hpieces : Trace.pieces s.server = [[97], [98, 99, 195]] := rfl
  have hreplies : s.replies parties = ["a!", table] := by cbv
  have hfits : ∀ reply ∈ s.replies parties, (Utf8.encode reply).length ≤ Frame.largest := by
    rw [hreplies]
    decide
  -- the client: a line is sent, a frame is read and the next line is sent, another frame is read
  let first : Trace :=
    [.read 4 (.ok [2, 0, 0]), .read 1 (.ok [0]), .reserved 2, .read 2 (.ok [97]), .read 1 (.ok [33])]
  let second : Trace := [.read 4 (.ok [91, 0, 0, 0]), .reserved 91, .read 91 (.ok (Utf8.encode table))]
  let begun := Client.sent "ab"
  let resumed := first ++ Client.arrival (Utf8.encode "a!") ++ Client.sent "cé"
  let ended := second ++ Client.arrival (Utf8.encode table)
  have hclient : parties.client inflow = begun ++ resumed ++ ended := by
    have hfirst : Frame.read parties.limit.toNat inflow =
        ⟨.ok (Utf8.encode "a!"), { arrivals := [.bytes (Frame.ofText table)] }, first⟩ := by cbv
    have hsecond : Frame.read parties.limit.toNat { arrivals := [.bytes (Frame.ofText table)] } =
        ⟨.ok (Utf8.encode table), { arrivals := [] }, second⟩ := by cbv
    rw [Parties.client, Client.invoking_answered hfirst (Client.verdict_encode _),
      Client.invoking_answered hsecond (Client.verdict_encode _)]
    simp [begun, resumed, ended, Client.invoking, Act.inTurn, Client.afterword, Utf8.decode_encode]
  have hacts : ∀ done, done <+: begun ++ resumed ++ ended → Conduct parties.client done :=
    fun done hdone => ⟨inflow, hclient ▸ hdone⟩
  -- the server: a piece is read and answered, and another one
  have hacts' : ∀ done, done <+: s.server → Conduct parties.server done := by
    intro done hdone
    refine ⟨{ arrivals := [.bytes [97], .bytes [98, 99, 195]] }, hdone.trans ?_⟩
    have hread : Inflow.read Server.requestSize { arrivals := [.bytes [97], .bytes [98, 99, 195]] } =
        (.ok [97], { arrivals := [.bytes [98, 99, 195]] }) := rfl
    have hread' : Inflow.read Server.requestSize { arrivals := [.bytes [98, 99, 195]] } =
        (.ok [98, 99, 195], { arrivals := [] }) := rfl
    have hanswerable : ∀ piece ∈ Trace.pieces s.server, Server.Answerable parties.answer piece :=
      fun piece hpiece => hfits _ (List.mem_map_of_mem hpiece)
    rw [hpieces] at hanswerable
    rw [Parties.server, Server.serving_answered hread (hanswerable _ (by simp)),
      Server.serving_answered hread' (hanswerable _ (by simp))]
    simp [s, answered]
  -- they take turns
  have hbegun : Reachable .arbitrary parties ⟨begun, [], [97, 98], []⟩ :=
    Reachable.client_goes_on .refl (hacts begun (by simp)) (by decide) rfl
  have hpart : Reachable .arbitrary parties ⟨begun, answered [97], [98], Frame.ofText "a!"⟩ :=
    hbegun.server_goes_on (hacts' (answered [97]) (by simp [s])) (by decide) rfl
  have hresumed : Reachable .arbitrary parties ⟨begun ++ resumed, answered [97], [98, 99, 195, 169], []⟩ :=
    hpart.client_goes_on (hacts (begun ++ resumed) (by simp)) (by decide) rfl
  have hmerged : Reachable .arbitrary parties ⟨begun ++ resumed, s.server, [169], Frame.ofText table⟩ :=
    hresumed.server_goes_on (hacts' s.server (by simp)) (by decide) rfl
  have hreach : Reachable .arbitrary parties s := by
    have hended : Reachable .arbitrary parties ⟨begun ++ resumed ++ ended, s.server, [169], []⟩ :=
      hmerged.client_goes_on (hacts _ (List.prefix_refl _)) (by decide) (by decide)
    rwa [← hclient] at hended
  have hreturned : Returned parties s (Client.invoking parties.limit parties.lines inflow) :=
    ⟨inflow, List.prefix_refl _, List.prefix_refl _, List.prefix_refl _⟩
  obtain ⟨-, hsent, -, hanswers⟩ := dialogue_sound hreach hfits
  refine ⟨hreach, hfits, hpieces, hreplies, hsent, _, hreturned, ?_⟩
  rw [hanswers _ hreturned, hreplies, Client.length_invoking]
  decide

end Dialogue

end QueryConsole
