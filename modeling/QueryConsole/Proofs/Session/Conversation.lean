import Mathlib
import QueryConsole.Proofs.Session.Turn

/-
What a session comes to, over any source and any stream: the exchanges of its lines, one after the other.

The screen never fails here, and no times are shown. A session has the exchanges of the lines that are not blank, in
order, until one of them fails or the source does (`Source.requests`). What the user sees, what is on the link and what
is left of the source are all told by how many exchanges were answered, and by what came next (`Conversed`,
`TalkEnding`).

Results:
- `writeAll_neverFails`, `showing_neverFails`: on such a screen all is shown.
- `take_exchange`: a turn is the exchange of its line, and its response on the screen.
- `conversed_converse`: all turns, by induction on the source.
- `run_exchanges`: a whole session.
-/

namespace QueryConsole

/-! ## A screen that never fails -/

namespace Outflow

variable {port : Port} {outflow : Outflow} {bytes : Bytes}

/-- no write or flush fails: each write takes a byte at least, or is interrupted, and flushes succeed -/
structure NeverFails (outflow : Outflow) : Prop where
  intakes : ∀ intake ∈ outflow.intakes, (∃ n, intake = .takes (n + 1)) ∨
    ∃ cause, intake = .refuses cause ∧ cause.retryable = true
  room : outflow.room = none
  flushes : ∀ answer ∈ outflow.flushes, answer = .ok ()
  flushEnd : outflow.flushEnd = .ok ()

/-- a write to a direction that never fails takes a byte, or is issued again -/
theorem NeverFails.write (h : outflow.NeverFails) (b : UInt8) (rest : Bytes) :
    (outflow.write (b :: rest)).2.NeverFails ∧
      ((∃ taken, (outflow.write (b :: rest)).1 = .ok (b :: taken)) ∨
        ∃ cause, (outflow.write (b :: rest)).1 = .error cause ∧ outflow.reissues cause = true) := by
  obtain ⟨intakes, room, full, flushes, flushEnd⟩ := outflow
  obtain ⟨hintakes, hroom, hflushes, hend⟩ := h
  obtain rfl : room = none := hroom
  cases intakes with
  | nil => exact ⟨⟨hintakes, rfl, hflushes, hend⟩, .inl ⟨rest, rfl⟩⟩
  | cons intake intakes =>
    obtain ⟨hfirst, hlater⟩ := List.forall_mem_cons.1 hintakes
    rcases hfirst with ⟨n, rfl⟩ | ⟨cause, rfl, again⟩
    · exact ⟨⟨hlater, rfl, hflushes, hend⟩, .inl ⟨rest.take n, rfl⟩⟩
    · exact ⟨⟨hlater, rfl, hflushes, hend⟩, .inr ⟨cause, rfl, by simp [reissues, again]⟩⟩

theorem writeAll_neverFails (port : Port) (bytes : Bytes) (h : outflow.NeverFails) :
    (writeAll port bytes outflow).answer = .ok () ∧ (writeAll port bytes outflow).state.NeverFails := by
  fun_induction writeAll port bytes outflow with
  | case1 => exact ⟨rfl, h⟩
  | case2 b rest outflow later met =>
    obtain ⟨hlater, ⟨taken, htaken⟩ | ⟨cause, hcause, -⟩⟩ := h.write b rest
    · simp [met] at htaken
    · simp [met] at hcause
  | case3 b rest outflow c taken later met ih =>
    have hlater := (h.write b rest).1
    rw [met] at hlater
    exact ih hlater
  | case4 b rest outflow cause later met again ih =>
    have hlater := (h.write b rest).1
    rw [met] at hlater
    exact ih hlater
  | case5 b rest outflow cause later met again =>
    obtain ⟨hlater, ⟨taken, htaken⟩ | ⟨cause', hcause, hagain⟩⟩ := h.write b rest
    · simp [met] at htaken
    · obtain rfl : cause = cause' := by simpa [met] using hcause
      exact absurd hagain again

theorem flush_neverFails (port : Port) (h : outflow.NeverFails) :
    (flush port outflow).answer = .ok () ∧ (flush port outflow).state.NeverFails := by
  obtain ⟨intakes, room, full, flushes, flushEnd⟩ := outflow
  obtain ⟨hintakes, hroom, hflushes, hend⟩ := h
  cases flushes with
  | nil => exact ⟨hend, hintakes, hroom, hflushes, hend⟩
  | cons answer flushes =>
    obtain ⟨hfirst, hlater⟩ := List.forall_mem_cons.1 hflushes
    exact ⟨hfirst, hintakes, hroom, hlater, hend⟩

end Outflow

namespace Shell

variable {shell : Shell} {line : String}

theorem say_neverFails (text : String) (h : shell.screen.NeverFails) :
    ∃ screen trace, say text shell = ⟨.ok (), { shell with screen }, trace⟩ ∧ screen.NeverFails := by
  obtain ⟨htext, hmid⟩ := Outflow.writeAll_neverFails .screen (Utf8.encode text) h
  obtain ⟨hnewline, hlast⟩ := Outflow.writeAll_neverFails .screen (Utf8.encode "\n") hmid
  rw [say, withScreen_eq]
  rcases hfirst : Outflow.writeAll .screen (Utf8.encode text) shell.screen with ⟨answer, screen, trace⟩
  rw [hfirst] at htext hnewline hlast
  obtain rfl : answer = .ok () := htext
  rw [Act.run_bind_ok hfirst, Run.answer_after, hnewline]
  exact ⟨_, _, rfl, hlast⟩

/-- on a screen that never fails all is shown -/
theorem showing_neverFails (shell : Shell) (texts : List String) (h : shell.screen.NeverFails) :
    ∃ screen trace, showing texts shell = ⟨.ok (), { shell with screen }, trace⟩ ∧ screen.NeverFails ∧
      Trace.Only .screen trace ∧ Trace.taken .screen trace = texts.flatMap lineOf := by
  have hrun : ∃ screen trace, showing texts shell = ⟨.ok (), { shell with screen }, trace⟩ ∧ screen.NeverFails := by
    induction texts generalizing shell with
    | nil =>
      obtain ⟨hanswer, hlast⟩ := Outflow.flush_neverFails .screen h
      rw [showing, flush, withScreen_eq, hanswer]
      exact ⟨_, _, rfl, hlast⟩
    | cons text texts ih =>
      obtain ⟨screen, trace, hsay, hscreen⟩ := say_neverFails text h
      obtain ⟨screen', trace', hshowing, hscreen'⟩ := ih { shell with screen } hscreen
      rw [showing, Act.run_bind_ok hsay, hshowing]
      exact ⟨screen', _, rfl, hscreen'⟩
  obtain ⟨screen, trace, hshowing, hscreen⟩ := hrun
  obtain ⟨answer, screen', trace', hshape, honly, -, hwhole⟩ := showing_shape texts shell
  rw [hshowing] at hshape
  cases hshape
  exact ⟨screen, trace, hshowing, hscreen, honly, (hwhole rfl).1⟩

/-! ## A turn -/

/-- **A turn is the exchange of its line, and its response on the screen.** A failure of the exchange is its failure. -/
theorem take_exchange (shell : Shell) (hblank : ¬ isBlank line = true) (htiming : shell.timing = false)
    (hscreen : shell.screen.NeverFails) {answer : Except LinkError String} {client : Client} {trace : Trace}
    (h : Client.invoke line shell.client = ⟨answer, client, trace⟩) :
    match answer with
    | .error e => take (.line line) shell = ⟨.error (.client e), { shell with client }, asking line ++ trace⟩
    | .ok text => ∃ screen seen, screen.NeverFails ∧ Trace.Only .screen seen ∧
        Trace.taken .screen seen = lineOf text ∧
        take (.line line) shell = ⟨.ok (), { shell with client, screen, laps := shell.laps.tail },
          asking line ++ (trace ++ .sampled .roundTrip :: seen)⟩ := by
  rw [take_line hblank]
  cases answer with
  | error e =>
    rw [execute_error (exchange_error shell h)]
    rfl
  | ok text =>
    obtain ⟨screen, seen, hshowing, hlast, honly, htaken⟩ :=
      showing_neverFails { shell with client, laps := shell.laps.tail } (shown shell.timing text (shell.laps.headD 0))
        hscreen
    refine ⟨screen, seen, hlast, honly, ?_, ?_⟩
    · rw [htaken, htiming]
      simp [shown]
    · rw [execute_ok (exchange_ok shell h), hshowing]
      simp [Run.after]

end Shell

/-! ## What is left of a source, and what was on the link -/

/-- the lines to be sent that come before the first failure of a source -/
def Source.requests : Source → List String
  | [] => []
  | .failure _ :: _ => []
  | .line text :: later => if isBlank text then requests later else text :: requests later

/-- asking does not fail -/
def Source.Unfailing (source : Source) : Prop := ∀ cause, .failure cause ∉ source

/-- the calls on the link, in order -/
def Trace.onLink (trace : Trace) : Trace := trace.filter fun e => e.on? = some .inward ∨ e.on? = some .outward

namespace Trace

variable {a : Trace} {o : Object}

@[simp] theorem onLink_append (a b : Trace) : onLink (a ++ b) = onLink a ++ onLink b := List.filter_append ..

theorem Only.onLink_eq_nil (h : Only o a) (hin : o ≠ .inward) (hout : o ≠ .outward) : onLink a = [] := by
  rw [onLink, List.filter_eq_nil_iff]
  intro e he
  simp [h.ne hin e he, h.ne hout e he]

end Trace

namespace Source

variable {source : Source} {text : String}

theorem requests_blank (h : isBlank text = true) (later : Source) :
    requests (.line text :: later) = requests later := by
  simp only [requests, h, if_true]

theorem requests_line (h : ¬ isBlank text = true) (later : Source) :
    requests (.line text :: later) = text :: requests later := by
  simp only [requests, h, if_false, Bool.false_eq_true]

theorem Unfailing.cons (h : source.Unfailing) (text : String) : Unfailing (.line text :: source) := by
  simpa [Unfailing] using h

/-- a line to be sent has bytes -/
theorem encode_ne_nil_of_mem_requests (source : Source) : ∀ line ∈ source.requests, Utf8.encode line ≠ [] := by
  induction source with
  | nil => simp [requests]
  | cons item later ih =>
    cases item with
    | failure cause => simp [requests]
    | line text =>
      by_cases hblank : isBlank text = true
      · rwa [requests_blank hblank]
      · rw [requests_line hblank]
        refine List.forall_mem_cons.2 ⟨Utf8.encode_ne_nil fun hempty => ?_, ih⟩
        rw [hempty] at hblank
        exact hblank rfl

end Source

/-! ## The whole conversation -/

namespace Client

/-- the exchanges of some lines, one after the other -/
def exchanges (client : Client) (lines : List String) : List (Run Client LinkError String) :=
  Act.inTurn (lines.map invoke) client

theorem exchanges_cons {client client' : Client} {line : String} {answer : Except LinkError String} {trace : Trace}
    (h : invoke line client = ⟨answer, client', trace⟩) (lines : List String) :
    client.exchanges (line :: lines) = ⟨answer, client', trace⟩ :: client'.exchanges lines := by
  rw [exchanges, List.map_cons, Act.inTurn, h]
  rfl

/-- **What an exchange can do on an open link.** The line is sent, and one frame is taken and is the text of the answer;
or the client is closed, with a front part of the line sent. -/
theorem invoke_cases (line : String) (limit : UInt32) (link : Link) :
    ∃ trace, Trace.taken .screen trace = [] ∧
      ((∃ e, invoke line ⟨limit, some link⟩ = ⟨.error e, ⟨limit, none⟩, trace⟩ ∧
          Trace.taken .link trace <+: Utf8.encode line) ∨
        ∃ text link' frame, invoke line ⟨limit, some link⟩ = ⟨.ok text, ⟨limit, some link'⟩, trace⟩ ∧
          Trace.taken .link trace = Utf8.encode line ∧ Frame.encode (Utf8.encode text) = .ok frame ∧
          link.inflow.coming = link'.inflow.coming.after frame) := by
  obtain ⟨sent, got, hsent, hgot, hpart, hphases⟩ := invoke_phases line limit link
  have hscreen : Trace.taken .screen (sent ++ got) = [] := by
    have hfirst : Trace.taken .screen sent = [] := hsent.taken_eq_nil (by decide)
    have hsecond : Trace.taken .screen got = [] := hgot.taken_eq_nil (by decide)
    rw [Trace.taken_append, hfirst, hsecond, List.append_nil]
  have hlink : Trace.taken .link (sent ++ got) = Trace.taken .link sent := by
    have hsecond : Trace.taken .link got = [] := hgot.taken_eq_nil (by decide)
    rw [Trace.taken_append, hsecond, List.append_nil]
  refine ⟨sent ++ got, hscreen, ?_⟩
  rw [hlink]
  rcases hphases with ⟨e, hinvoke, rfl⟩ | ⟨htaken, -, ⟨e, hinvoke⟩ | ⟨text, link', hinvoke, hframe, hcoming⟩⟩
  · rw [List.append_nil]
    exact .inl ⟨e, hinvoke, hpart⟩
  · exact .inl ⟨e, hinvoke, hpart⟩
  · exact .inr ⟨text, link', _, hinvoke, htaken, hframe, hcoming⟩

end Client

/-- how a conversation ends when `k` exchanges were answered, by what comes next: its answer, what is left of the
source, and what was sent -/
inductive TalkEnding (source : Source) (exchanges : List (Run Client LinkError String)) (k : Nat) :
    Except SessionError Unit → Source → Bytes → Prop
  /-- the input is over -/
  | finished (all : k = source.requests.length) (unfailing : source.Unfailing) :
    TalkEnding source exchanges k (.ok ()) [] (source.requests.flatMap Utf8.encode)
  /-- asking for a line failed -/
  | asking {taken left : Source} {cause : SessionError} (all : k = source.requests.length)
    (split : source = taken ++ .failure cause :: left) (unfailing : taken.Unfailing) :
    TalkEnding source exchanges k (.error cause) left (source.requests.flatMap Utf8.encode)
  /-- the exchange of the next line failed -/
  | exchange {taken left : Source} {line : String} {e : LinkError} {part : Bytes}
    (split : source = taken ++ .line line :: left) (unfailing : taken.Unfailing)
    (before : taken.requests = source.requests.take k) (next : source.requests[k]? = some line)
    (failed : (exchanges[k]?).map (·.answer) = some (.error e)) (sent : part <+: Utf8.encode line) :
    TalkEnding source exchanges k (.error (.client e)) left ((source.requests.take k).flatMap Utf8.encode ++ part)

/-- a conversation with a server, over the link that a client has: its exchanges up to the first failure, with their
texts on the screen after what was said before -/
structure Conversed (said : List String) (source : Source) (limit : UInt32) (link : Link) (texts : List String)
    (answer : Except SessionError Unit) (left : Source) (trace : Trace) : Prop where
  /-- these are the texts of the first exchanges -/
  answered : (((Client.mk limit (some link)).exchanges source.requests).take texts.length).map (·.answer) =
    texts.map .ok
  /-- and these are the frames on the stream, in order -/
  framed : ∃ (frames : List Bytes) (rest : Bytes),
    texts.map (fun text => Frame.encode (Utf8.encode text)) = frames.map .ok ∧
    link.inflow.coming.bytes = frames.flatten ++ rest
  shown : Trace.taken .screen trace = (said ++ texts).flatMap Shell.lineOf
  /-- nothing else is called on the link -/
  linked : trace.onLink = (Run.wholeTrace
    (((Client.mk limit (some link)).exchanges source.requests).take (texts.length + 1))).onLink
  ending : TalkEnding source ((Client.mk limit (some link)).exchanges source.requests) texts.length answer left
    (Trace.taken .link trace)

namespace TalkEnding

variable {source left : Source} {exchanges : List (Run Client LinkError String)} {k : Nat} {text : String}
  {answer : Except SessionError Unit} {sent : Bytes} {r : Run Client LinkError String}

/-- a blank line before it changes nothing -/
theorem blank (h : TalkEnding source exchanges k answer left sent) (hblank : isBlank text = true) :
    TalkEnding (.line text :: source) exchanges k answer left sent := by
  have hsame := Source.requests_blank hblank source
  cases h with
  | finished all unfailing =>
    rw [← hsame] at all ⊢
    exact .finished all (unfailing.cons text)
  | asking all split unfailing =>
    rw [← hsame] at all ⊢
    exact .asking all (congrArg _ split) (unfailing.cons text)
  | exchange split unfailing before next failed sent =>
    rw [← hsame] at next ⊢
    exact .exchange (congrArg _ split) (unfailing.cons text)
      (by rw [Source.requests_blank hblank, hsame, before]) next failed sent

/-- a line that is answered comes before it -/
theorem line (h : TalkEnding source exchanges k answer left sent) (hblank : ¬ isBlank text = true)
    (r : Run Client LinkError String) :
    TalkEnding (.line text :: source) (r :: exchanges) (k + 1) answer left (Utf8.encode text ++ sent) := by
  have hmore := Source.requests_line hblank source
  have hsent : ∀ k, Utf8.encode text ++ (source.requests.take k).flatMap Utf8.encode =
      ((Source.requests (.line text :: source)).take (k + 1)).flatMap Utf8.encode := by
    intro k
    rw [hmore, List.take_succ_cons, List.flatMap_cons]
  have hall : k = source.requests.length → k + 1 = (Source.requests (.line text :: source)).length := by
    intro hk
    rw [hmore, List.length_cons, hk]
  have hbytes : Utf8.encode text ++ source.requests.flatMap Utf8.encode =
      (Source.requests (.line text :: source)).flatMap Utf8.encode := by
    rw [hmore, List.flatMap_cons]
  cases h with
  | finished all unfailing =>
    rw [hbytes]
    exact .finished (hall all) (unfailing.cons text)
  | asking all split unfailing =>
    rw [hbytes]
    exact .asking (hall all) (congrArg _ split) (unfailing.cons text)
  | exchange split unfailing before next failed part =>
    rw [← List.append_assoc, hsent]
    exact .exchange (congrArg _ split) (unfailing.cons text)
      (by rw [Source.requests_line hblank, hmore, before, List.take_succ_cons]) (by rwa [hmore]) failed part

end TalkEnding

namespace Conversed

variable {said texts : List String} {source left : Source} {limit : UInt32} {link link' : Link} {text line : String}
  {answer : Except SessionError Unit} {trace : Trace} {e : LinkError}

/-- a blank line before a conversation changes nothing -/
theorem blank (h : Conversed [] source limit link texts answer left trace) (hblank : isBlank line = true)
    {before : Trace} (hbefore : Trace.Only .source before) :
    Conversed [] (.line line :: source) limit link texts answer left (before ++ trace) := by
  have hscreen : Trace.taken .screen before = [] := hbefore.taken_eq_nil (by decide)
  have hlink : Trace.taken .link before = [] := hbefore.taken_eq_nil (by decide)
  have hcalls : before.onLink = [] := hbefore.onLink_eq_nil (by decide) (by decide)
  obtain ⟨hanswered, hframed, hshown, hlinked, hending⟩ := h
  constructor
  · rwa [Source.requests_blank hblank]
  · exact hframed
  · rwa [Trace.taken_append, hscreen, List.nil_append]
  · rwa [Trace.onLink_append, hcalls, List.nil_append, Source.requests_blank hblank]
  · rw [Trace.taken_append, hlink, List.nil_append, Source.requests_blank hblank]
    exact hending.blank hblank

/-- a line whose exchange fails is the end of a conversation -/
theorem of_failed (hblank : ¬ isBlank line = true) {client : Client}
    (h : Client.invoke line ⟨limit, some link⟩ = ⟨.error e, client, trace⟩) (hscreen : Trace.taken .screen trace = [])
    (hpart : Trace.taken .link trace <+: Utf8.encode line) (source : Source) :
    Conversed [] (.line line :: source) limit link [] (.error (.client e)) source (Shell.asking line ++ trace) := by
  have hexchanges := Client.exchanges_cons h source.requests
  rw [← Source.requests_line hblank] at hexchanges
  constructor
  · rfl
  · exact ⟨[], link.inflow.coming.bytes, rfl, rfl⟩
  · rw [Trace.taken_append, hscreen]
    rfl
  · rw [hexchanges, Trace.onLink_append]
    simp [Shell.asking, Trace.onLink, Event.on?]
  · have hnext : (Source.requests (.line line :: source))[0]? = some line := by rw [Source.requests_line hblank]; rfl
    have hsplit : SourceItem.line line :: source = [] ++ .line line :: source := rfl
    exact .exchange hsplit (by simp [Source.Unfailing]) rfl hnext (by rw [hexchanges]; rfl) hpart

/-- a line that is answered comes before a conversation -/
theorem cons (h : Conversed [] source limit link' texts answer left trace) (hblank : ¬ isBlank line = true)
    {first seen : Trace} {frame : Bytes}
    (hinvoke : Client.invoke line ⟨limit, some link⟩ = ⟨.ok text, ⟨limit, some link'⟩, first⟩)
    (hscreen : Trace.taken .screen first = []) (htaken : Trace.taken .link first = Utf8.encode line)
    (hframe : Frame.encode (Utf8.encode text) = .ok frame)
    (hcoming : link.inflow.coming = link'.inflow.coming.after frame)
    (hseen : Trace.Only .screen seen) (hshown : Trace.taken .screen seen = Shell.lineOf text) :
    Conversed [] (.line line :: source) limit link (text :: texts) answer left
      (Shell.asking line ++ (first ++ .sampled .roundTrip :: seen) ++ trace) := by
  have hexchanges := Client.exchanges_cons hinvoke source.requests
  rw [← Source.requests_line hblank] at hexchanges
  have hsent : Trace.taken .link (Shell.asking line ++ (first ++ .sampled .roundTrip :: seen)) = Utf8.encode line := by
    have hnone : Trace.taken .link seen = [] := hseen.taken_eq_nil (by decide)
    simp [Shell.asking, Event.taken, htaken, hnone]
  have hcalls : Trace.onLink (Shell.asking line ++ (first ++ .sampled .roundTrip :: seen)) = first.onLink := by
    have hnone : Trace.onLink (.sampled .roundTrip :: seen) = [] := hseen.onLink_eq_nil (by decide) (by decide)
    rw [Trace.onLink_append, Trace.onLink_append, hnone, List.append_nil]
    rfl
  obtain ⟨hanswered, ⟨frames, rest, hframes, harrived⟩, htexts, hlinked, hending⟩ := h
  constructor
  · rw [hexchanges]
    simp [hanswered]
  · refine ⟨frame :: frames, rest, by rw [List.map_cons, hframe, hframes, List.map_cons], ?_⟩
    rw [hcoming, Coming.after, harrived, List.flatten_cons, List.append_assoc]
  · simp [Shell.asking, Event.taken, hscreen, hshown, htexts]
  · rw [hexchanges, Trace.onLink_append, hcalls, hlinked, List.length_cons, List.take_succ_cons, Run.wholeTrace_cons,
      Trace.onLink_append]
  · rw [hexchanges, Trace.taken_append, hsent]
    exact hending.line hblank _

/-- what is said on the screen before a conversation, and what is noted after it -/
theorem after_said (h : Conversed [] source limit link texts answer left trace) {before last : Trace}
    (hbefore : Trace.Only .screen before) (hsaid : Trace.taken .screen before = said.flatMap Shell.lineOf)
    (hlast : last.Quiet) : Conversed said source limit link texts answer left (before ++ trace ++ last) := by
  have hlink : Trace.taken .link (before ++ trace ++ last) = Trace.taken .link trace := by
    have hfirst : Trace.taken .link before = [] := hbefore.taken_eq_nil (by decide)
    have hend : Trace.taken .link last = [] := hlast.taken_eq_nil
    simp [hfirst, hend]
  have hcalls : Trace.onLink (before ++ trace ++ last) = trace.onLink := by
    have hfirst : before.onLink = [] := hbefore.onLink_eq_nil (by decide) (by decide)
    have hend : last.onLink = [] := hlast.only.onLink_eq_nil (o := .screen) (by decide) (by decide)
    simp [hfirst, hend]
  obtain ⟨hanswered, hframed, hshown, hlinked, hending⟩ := h
  refine ⟨hanswered, hframed, ?_, hcalls.trans hlinked, hlink ▸ hending⟩
  have hend : Trace.taken .screen last = [] := hlast.taken_eq_nil
  simp [hsaid, hshown, hend]

end Conversed

namespace Shell

/-- **All turns of a source.** -/
theorem conversed_converse (source : Source) (limit : UInt32) (link : Link) (screen : Outflow)
    (hscreen : screen.NeverFails) (laps : List Nat) :
    ∃ texts answer left shell trace,
      converse ⟨⟨limit, some link⟩, screen, false, laps⟩ source = ⟨answer, (left, shell), trace⟩ ∧
      shell.client.limit = limit ∧ Conversed [] source limit link texts answer left trace := by
  -- an answered line leaves another link, another screen and fewer laps, but the same limit
  induction source generalizing link screen laps with
  | nil =>
    refine ⟨[], _, _, _, _, rfl, rfl, rfl, ⟨[], _, rfl, rfl⟩, rfl, rfl, ?_⟩
    exact .finished rfl (by simp [Source.Unfailing])
  | cons item later ih =>
    cases item with
    | failure cause =>
      have honly : Trace.Only .source (.asked (.error cause) :: cause.tally) :=
        Trace.Only.append (a := [.asked (.error cause)]) (by simp [Trace.Only, Event.on?]) cause.quiet_tally.only
      have hscreen : Trace.taken .screen (.asked (.error cause) :: cause.tally) = [] := honly.taken_eq_nil (by decide)
      have hlink : Trace.taken .link (.asked (.error cause) :: cause.tally) = [] := honly.taken_eq_nil (by decide)
      have hsplit : SourceItem.failure cause :: later = [] ++ .failure cause :: later := rfl
      refine ⟨[], .error cause, later, ⟨⟨limit, some link⟩, screen, false, laps⟩, .asked (.error cause) :: cause.tally,
        rfl, rfl, rfl, ⟨[], _, rfl, rfl⟩, hscreen, ?_, ?_⟩
      · exact honly.onLink_eq_nil (by decide) (by decide)
      · rw [hlink]
        exact .asking rfl hsplit (by simp [Source.Unfailing])
    | line text =>
      by_cases hblank : isBlank text = true
      · obtain ⟨texts, answer, left, shell, trace, hconverse, hlimit, hconversed⟩ := ih link screen hscreen laps
        have hbefore :
            Trace.Only .source [.asked (.ok (some text)), .counted .linesRead 1, .counted .blankLines 1] := by
          simp [Trace.Only, Event.on?]
        refine ⟨texts, answer, left, shell, _, ?_, hlimit, hconversed.blank hblank hbefore⟩
        rw [converse_blank hblank, hconverse]
        rfl
      · obtain ⟨first, hnone, ⟨e, hinvoke, hpart⟩ | ⟨response, link', frame, hinvoke, htaken, hframe, hcoming⟩⟩ :=
          Client.invoke_cases text limit link
        · have htake := take_exchange ⟨⟨limit, some link⟩, screen, false, laps⟩ hblank rfl hscreen hinvoke
          refine ⟨[], _, later, _, _, converse_error htake later, rfl, .of_failed hblank hinvoke hnone hpart later⟩
        · obtain ⟨screen', seen, hscreen', hseen, hshown, htake⟩ :=
            take_exchange ⟨⟨limit, some link⟩, screen, false, laps⟩ hblank rfl hscreen hinvoke
          obtain ⟨texts, answer, left, shell, trace, hconverse, hlimit, hconversed⟩ :=
            ih link' screen' hscreen' laps.tail
          refine ⟨response :: texts, answer, left, shell, _, ?_, hlimit,
            hconversed.cons hblank hinvoke hnone htaken hframe hcoming hseen hshown⟩
          rw [converse_ok htake, hconverse]
          rfl

end Shell

namespace Session

/-- **A whole session.** Over any source and any stream, on a screen that never fails and without times: the greeting
is shown, and then the texts of the exchanges up to the first failure, each of which is the text of the next frame on
the stream. Nothing but these exchanges is called on the link; every line that is sent has bytes; and the client is
closed in the end. -/
theorem run_exchanges (source : Source) (limit : UInt32) (link : Link) (screen : Outflow) (hscreen : screen.NeverFails)
    (laps : List Nat) :
    let r := run ⟨source, ⟨⟨limit, some link⟩, screen, false, laps⟩⟩
    (∃ texts, Conversed [greeting] source limit link texts r.answer r.state.source r.trace) ∧
      (∀ line ∈ source.requests, Utf8.encode line ≠ []) ∧ r.state.shell.client = ⟨limit, none⟩ := by
  intro r
  obtain ⟨screen', greeted, hgreet, hscreen', honly, hsaid⟩ :=
    Shell.showing_neverFails ⟨⟨limit, some link⟩, screen, false, laps⟩ [greeting] hscreen
  obtain ⟨texts, answer, left, shell, trace, hconverse, hlimit, hconversed⟩ :=
    Shell.conversed_converse source limit link screen' hscreen' laps
  have htalk := talk_greeted ⟨source, ⟨⟨limit, some link⟩, screen, false, laps⟩⟩ hgreet
  rw [hconverse] at htalk
  obtain ⟨last, hquiet, hrun⟩ := run_eq ⟨source, ⟨⟨limit, some link⟩, screen, false, laps⟩⟩
  rw [htalk] at hrun
  rw [show r = _ from hrun]
  refine ⟨⟨texts, hconversed.after_said honly hsaid hquiet⟩, source.encode_ne_nil_of_mem_requests, ?_⟩
  rw [← hlimit]

/-- a session with one exchange, that ends when asking for a line fails: what comes after that is left to the source -/
theorem run_exchanges_interrupted :
    let source : Source := [.line "hi", .line " ", .failure .interrupted, .line "late"]
    let link : Link := ⟨{ arrivals := [.bytes [1, 0], .bytes [0, 0, 111, 2]] }, {}⟩
    let screen : Outflow := { intakes := [.takes 5, .refuses (.plain .interrupted)] }
    let r := run ⟨source, ⟨⟨16, some link⟩, screen, false, []⟩⟩
    screen.NeverFails ∧ source.requests = ["hi"] ∧
      (∃ texts, Conversed [greeting] source 16 link texts (.error .interrupted) [.line "late"] r.trace) ∧
      r.state.shell.client = ⟨16, none⟩ := by
  intro source link screen r
  have hscreen : screen.NeverFails := by
    refine ⟨?_, rfl, by simp [screen], rfl⟩
    exact List.forall_mem_cons.2 ⟨.inl ⟨4, rfl⟩, List.forall_mem_singleton.2 (.inr ⟨_, rfl, rfl⟩)⟩
  obtain ⟨hconversed, -, hclosed⟩ := run_exchanges source 16 link screen hscreen []
  obtain ⟨last, -, hrun⟩ := run_eq ⟨source, ⟨⟨16, some link⟩, screen, false, []⟩⟩
  have hanswer : (talk ⟨source, ⟨⟨16, some link⟩, screen, false, []⟩⟩).answer = .error .interrupted := by cbv
  have hleft : (talk ⟨source, ⟨⟨16, some link⟩, screen, false, []⟩⟩).state.source = [.line "late"] := by cbv
  have hsame : r.answer = .error .interrupted ∧ r.state.source = [.line "late"] := by
    rw [show r = _ from hrun]
    exact ⟨hanswer, hleft⟩
  rw [show _ = _ from hsame.1, show _ = _ from hsame.2] at hconversed
  exact ⟨hscreen, rfl, hconversed, hclosed⟩

end Session

end QueryConsole
