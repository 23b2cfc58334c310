import Mathlib
import QueryConsole.Proofs.Session.Conversation
import QueryConsole.Proofs.Session.EventOrder

/-
What the screen has to do with a session: it shows what is ready, and all else is done without it.

Showing texts is made of calls on the screen and nothing else (`OnlyShows`). Either all texts are written and flushed,
or the screen denies a call, and this is the last one (`Showed`). Executing a line is its exchange, and then, if that
was answered, showing the response (`Executed`). So all that is not called on the screen (`Trace.offScreen`) is told by
the exchange alone.

Results:
- `taken_offScreen`, `received_offScreen`, `samples_offScreen`, `items_offScreen`, `total_offScreen`: the views that do
  not see the screen.
- `showed_showing`: what showing some texts comes to.
- `executed`: what executing a line comes to.
- `invoke_answered`: an exchange that is answered took one frame.
-/

namespace QueryConsole

/-! ## Beside the screen -/

/-- what asking for a line gave, if it gave one or failed -/
def Event.items : Event → Source
  | asked (.ok (some text)) => [.line text]
  | asked (.error cause) => [.failure cause]
  | _ => []

/-- the call on the screen fails, for this cause -/
inductive Event.Denies : Event → IoError → Prop
  | write (cause : IoError) : Denies (.wrote .screen (.error cause)) cause
  | nothing : Denies (.wrote .screen (.ok [])) .nothingTaken
  | flush (cause : IoError) : Denies (.flushed .screen (.error cause)) cause

theorem Event.Denies.on_screen {e : Event} {cause : IoError} (h : e.Denies cause) : e.on? = some .screen := by
  cases h <;> rfl

/-- a call that fails takes nothing -/
theorem Event.Denies.taken {e : Event} {cause : IoError} (h : e.Denies cause) (port : Port) : e.taken port = [] := by
  cases h <;> simp [Event.taken]

namespace Trace

variable {a b : Trace} {o : Object}

/-- all that happened apart from the calls on the screen -/
def offScreen (trace : Trace) : Trace := trace.filter fun e => e.on? ≠ some .screen

/-- what asking for lines gave, in order, until the input was over -/
def items (trace : Trace) : Source := trace.flatMap Event.items

@[simp] theorem offScreen_append (a b : Trace) : offScreen (a ++ b) = offScreen a ++ offScreen b :=
  List.filter_append ..

@[simp] theorem items_nil : items [] = [] := rfl

@[simp] theorem items_cons (e : Event) (a : Trace) : items (e :: a) = e.items ++ items a := rfl

@[simp] theorem items_append (a b : Trace) : items (a ++ b) = items a ++ items b := by
  simp [items]

theorem offScreen_cons_screen {e : Event} (he : e.on? = some .screen) (a : Trace) : offScreen (e :: a) = offScreen a :=
  List.filter_cons_of_neg (by simp [he])

theorem offScreen_cons_other {e : Event} (he : e.on? ≠ some .screen) (a : Trace) :
    offScreen (e :: a) = e :: offScreen a :=
  List.filter_cons_of_pos (by simp [he])

theorem offScreen_eq_self_iff : offScreen a = a ↔ ∀ e ∈ a, e.on? ≠ some .screen := by
  simp [offScreen, List.filter_eq_self]

theorem offScreen_eq_nil_iff : offScreen a = [] ↔ ∀ e ∈ a, e.on? = some .screen := by
  simp [offScreen, List.filter_eq_nil_iff]

theorem Only.offScreen (h : Only o a) (ho : o ≠ .screen) : Trace.offScreen a = a :=
  offScreen_eq_self_iff.2 (h.ne ho)

theorem Quiet.offScreen (h : Quiet a) : Trace.offScreen a = a := h.only.offScreen (o := .source) (by decide)

theorem Only.items_eq_nil (h : Only o a) (ho : o ≠ .source) : items a = [] := by
  rw [items, List.flatMap_eq_nil_iff]
  intro e he
  have hsource := h.ne ho e he
  cases e <;> first | rfl | exact absurd rfl hsource

/-- a view that no call on the screen adds to -/
theorem flatMap_offScreen {β : Type} {view : Event → List β} (h : ∀ e : Event, e.on? = some .screen → view e = [])
    (trace : Trace) : trace.offScreen.flatMap view = trace.flatMap view := by
  induction trace with
  | nil => rfl
  | cons e later ih =>
    by_cases he : e.on? = some .screen
    · rw [offScreen_cons_screen he, List.flatMap_cons, h e he, ih, List.nil_append]
    · rw [offScreen_cons_other he, List.flatMap_cons, List.flatMap_cons, ih]

theorem taken_offScreen (trace : Trace) : taken .link trace.offScreen = taken .link trace :=
  flatMap_offScreen (fun e he => (Event.taken_eq_nil (by simp [he, Port.object])).1) trace

theorem received_offScreen (trace : Trace) : received trace.offScreen = received trace :=
  flatMap_offScreen (fun e he => by cases e <;> first | rfl | cases he) trace

theorem items_offScreen (trace : Trace) : items trace.offScreen = items trace :=
  flatMap_offScreen (fun e he => by cases e <;> first | rfl | cases he) trace

theorem samples_offScreen (moment : Moment) (trace : Trace) :
    samples moment trace.offScreen = samples moment trace := by
  rw [samples, offScreen, List.countP_filter]
  refine List.countP_congr fun e _ => ?_
  cases e <;> simp [Event.isSample, Event.on?]

theorem total_offScreen (counter : Counter) (trace : Trace) : total counter trace.offScreen = total counter trace := by
  induction trace with
  | nil => rfl
  | cons e later ih =>
    by_cases he : e.on? = some .screen
    · have hnone : e.adds counter = 0 := by cases e <;> first | rfl | cases he
      rw [offScreen_cons_screen he, ih, total, total, List.foldr_cons, hnone, Nat.zero_add]
    · rw [offScreen_cons_other he]
      exact congrArg (e.adds counter + ·) ih

/-- calls on the screen add nothing to these views -/
theorem views_on_screen {seen : Trace} (calls : seen.offScreen = []) :
    taken .link seen = [] ∧ received seen = [] ∧ items seen = [] := by
  rw [← taken_offScreen, ← received_offScreen, ← items_offScreen, calls]
  exact ⟨rfl, rfl, rfl⟩

end Trace

/-! ## Showing -/

/-- a run that makes calls on the screen only, and fails exactly in its last call -/
structure Run.OnlyShows {σ ε α : Type} (failure : IoError → ε) (r : Run σ ε α) : Prop where
  calls : r.trace.offScreen = []
  denied : ∀ e, r.answer = .error e →
    ∃ before last cause, r.trace = before ++ [last] ∧ last.Denies cause ∧ e = failure cause

theorem Run.OnlyShows.bind {σ ε α β : Type} {failure : IoError → ε} {act : Act σ ε α} {next : α → Act σ ε β} {s : σ}
    (h : (act s).OnlyShows failure) (hnext : ∀ a s', (next a s').OnlyShows failure) :
    ((act >>= next) s).OnlyShows failure := by
  rcases hact : act s with ⟨e | a, s', trace⟩
  · rw [hact] at h
    rw [Act.run_bind_error hact]
    exact ⟨h.calls, fun e' he' => h.denied e' (by simpa using he')⟩
  · rw [hact] at h
    obtain ⟨hcalls, hdenied⟩ := hnext a s'
    have hfirst : Trace.offScreen trace = [] := h.calls
    rw [Act.run_bind_ok hact]
    refine ⟨by rw [Run.trace_after, Trace.offScreen_append, hfirst, hcalls, List.nil_append], fun e he => ?_⟩
    obtain ⟨before, last, cause, htrace, hlast, heq⟩ := hdenied e he
    exact ⟨trace ++ before, last, cause, by rw [Run.trace_after, htrace, List.append_assoc], hlast, heq⟩

namespace Outflow

theorem onlyShows_writeAll (bytes : Bytes) (outflow : Outflow) : (writeAll .screen bytes outflow).OnlyShows id := by
  refine ⟨Trace.offScreen_eq_nil_iff.2 fun e he => ?_, fun cause hanswer => ?_⟩
  · obtain ⟨taken, rfl⟩ := mem_writeAll he
    rfl
  · obtain ⟨before, taken, htrace, rfl | ⟨rfl, rfl⟩⟩ := writeAll_error hanswer
    · exact ⟨before, _, cause, htrace, .write cause, rfl⟩
    · exact ⟨before, _, _, htrace, .nothing, rfl⟩

theorem onlyShows_flush (outflow : Outflow) : (flush .screen outflow).OnlyShows id := by
  obtain ⟨answer, later, hflush⟩ := flush_eq .screen outflow
  rw [hflush]
  refine ⟨rfl, fun cause hanswer => ?_⟩
  obtain rfl : answer = .error cause := hanswer
  exact ⟨[], _, cause, rfl, .flush cause, rfl⟩

end Outflow

namespace Shell

variable {line : String} {shell : Shell} {texts : List String} {answer : Except SessionError Unit} {seen : Trace}

theorem onlyShows_withScreen {act : Act Outflow IoError α} (h : ∀ screen, (act screen).OnlyShows id) (shell : Shell) :
    (withScreen act shell).OnlyShows .io := by
  obtain ⟨hcalls, hdenied⟩ := h shell.screen
  rw [withScreen_eq]
  refine ⟨hcalls, fun e he => ?_⟩
  cases hanswer : (act shell.screen).answer with
  | error cause =>
    obtain ⟨before, last, _, htrace, hlast, rfl⟩ := hdenied cause hanswer
    exact ⟨before, last, cause, htrace, hlast, by simpa [hanswer, Except.mapError] using he.symm⟩
  | ok a => simp [hanswer, Except.mapError] at he

theorem onlyShows_showing (texts : List String) (shell : Shell) : (showing texts shell).OnlyShows .io := by
  induction texts generalizing shell with
  | nil => exact onlyShows_withScreen Outflow.onlyShows_flush shell
  | cons text later ih =>
    refine .bind (onlyShows_withScreen (fun screen => ?_) shell) fun _ shell => ih shell
    exact .bind (Outflow.onlyShows_writeAll _ screen) fun _ screen => Outflow.onlyShows_writeAll _ screen

/-- what showing some texts comes to, with calls on the screen only: all of them are written and flushed; or the screen
denies a call, the last one -/
inductive Showed (texts : List String) : Except SessionError Unit → Trace → Prop
  | whole {seen : Trace} (calls : seen.offScreen = []) (taken : Trace.taken .screen seen = texts.flatMap lineOf)
    (unfailing : seen.Unfailing) : Showed texts (.ok ()) seen
  | cut {before : Trace} {last : Event} {cause : IoError} (calls : before.offScreen = [])
    (part : Trace.taken .screen before <+: texts.flatMap lineOf) (denied : last.Denies cause) :
    Showed texts (.error (.io cause)) (before ++ [last])

/-- **What showing some texts comes to.** -/
theorem showed_showing (texts : List String) (shell : Shell) :
    ∃ answer screen seen, showing texts shell = ⟨answer, { shell with screen }, seen⟩ ∧ Showed texts answer seen := by
  obtain ⟨hcalls, hdenied⟩ := onlyShows_showing texts shell
  have hstop := failStop_showing texts shell
  obtain ⟨answer, screen, seen, hshowing, -, hpart, hwhole⟩ := showing_shape texts shell
  rw [hshowing] at hcalls hdenied hstop
  refine ⟨answer, screen, seen, hshowing, ?_⟩
  cases answer with
  | error e =>
    obtain ⟨before, last, cause, rfl, hlast, rfl⟩ := hdenied e rfl
    rw [Trace.offScreen_append] at hcalls
    rw [Trace.taken_append, Trace.taken_cons, hlast.taken, Trace.taken_nil, List.append_nil, List.append_nil] at hpart
    exact .cut (List.append_eq_nil_iff.1 hcalls).1 hpart hlast
  | ok _ => exact .whole hcalls (hwhole rfl).1 (hstop.unfailing () rfl)

/-- showing makes calls on the screen only -/
theorem Showed.calls (h : Showed texts answer seen) : seen.offScreen = [] := by
  cases h with
  | whole calls => exact calls
  | cut calls part denied =>
    rw [Trace.offScreen_append, calls, Trace.offScreen_cons_screen denied.on_screen]
    rfl

/-- a screen that never fails shows all -/
theorem showed_neverFails (texts : List String) (shell : Shell) (h : shell.screen.NeverFails) :
    ∃ screen seen, showing texts shell = ⟨.ok (), { shell with screen }, seen⟩ ∧ screen.NeverFails ∧
      Showed texts (.ok ()) seen := by
  obtain ⟨screen, seen, hshowing, hscreen, -⟩ := showing_neverFails shell texts h
  obtain ⟨answer, screen', seen', hshowing', hshowed⟩ := showed_showing texts shell
  rw [hshowing] at hshowing'
  cases hshowing'
  exact ⟨screen, seen, hshowing, hscreen, hshowed⟩

/-- what is shown is a front part of the texts -/
theorem Showed.part (h : Showed texts answer seen) : Trace.taken .screen seen <+: texts.flatMap lineOf := by
  cases h with
  | whole calls taken => exact taken ▸ List.prefix_refl _
  | cut calls part denied => simpa [denied.taken] using part

/-! ## Executing a line -/

/-- an exchange that fails is all of an execution -/
theorem execute_failed {e : LinkError} {client : Client} {trace : Trace}
    (h : Client.invoke line shell.client = ⟨.error e, client, trace⟩) :
    execute line shell = ⟨.error (.client e), { shell with client }, trace⟩ :=
  execute_error (exchange_error shell h)

/-- an exchange that is answered is timed, and its response is shown -/
theorem execute_answered {text : String} {client : Client} {trace : Trace}
    (h : Client.invoke line shell.client = ⟨.ok text, client, trace⟩) :
    execute line shell = (showing (shown shell.timing text (shell.laps.headD 0))
      { shell with client, laps := shell.laps.tail }).after (trace ++ [.sampled .roundTrip]) :=
  execute_ok (exchange_ok shell h)

/-- what executing a line comes to: its exchange fails, and that is all; or it is answered, and the response is shown as
far as the screen allows -/
inductive Executed (line : String) (shell : Shell) : Run Shell SessionError Unit → Prop
  | failed {e : LinkError} {client : Client} {trace : Trace}
    (exchange : Client.invoke line shell.client = ⟨.error e, client, trace⟩) :
    Executed line shell ⟨.error (.client e), { shell with client }, trace⟩
  | answered {text : String} {client : Client} {trace seen : Trace} {answer : Except SessionError Unit}
    {screen : Outflow} (exchange : Client.invoke line shell.client = ⟨.ok text, client, trace⟩)
    (showed : Showed (shown shell.timing text (shell.laps.headD 0)) answer seen) :
    Executed line shell ⟨answer, { shell with client, screen, laps := shell.laps.tail },
      trace ++ [.sampled .roundTrip] ++ seen⟩

/-- **What executing a line comes to.** -/
theorem executed (line : String) (shell : Shell) : Executed line shell (execute line shell) := by
  rcases hinvoke : Client.invoke line shell.client with ⟨e | text, client, trace⟩
  · rw [execute_failed hinvoke]
    exact .failed hinvoke
  · obtain ⟨answer, screen, seen, hshowing, hshowed⟩ := showed_showing
      (shown shell.timing text (shell.laps.headD 0)) { shell with client, laps := shell.laps.tail }
    rw [execute_answered hinvoke, hshowing]
    exact .answered hinvoke hshowed

end Shell

/-! ## Exchanges -/

namespace Client

variable {line text : String} {client client' : Client} {trace : Trace} {e : LinkError}

/-- an exchange makes calls on the link only -/
theorem calls_invoke (line : String) (client : Client) :
    ∀ e ∈ (invoke line client).trace, e.on? ≠ some .screen ∧ e.on? ≠ some .source := by
  have hsend := only_send line client
  rcases hrun : send line client with ⟨e | _, mid, trace⟩
  · rw [hrun] at hsend
    rw [invoke_failed hrun]
    exact fun e he => ⟨hsend.ne (by decide) e he, hsend.ne (by decide) e he⟩
  · rw [hrun] at hsend
    have hreceive := only_receive mid
    rw [invoke_sent hrun, Run.trace_after]
    refine fun e he => ?_
    rcases List.mem_append.1 he with he | he
    · exact ⟨hsend.ne (by decide) e he, hsend.ne (by decide) e he⟩
    · exact ⟨hreceive.ne (by decide) e he, hreceive.ne (by decide) e he⟩

theorem offScreen_invoke (line : String) (client : Client) :
    (invoke line client).trace.offScreen = (invoke line client).trace :=
  Trace.offScreen_eq_self_iff.2 fun e he => (calls_invoke line client e he).1

theorem items_invoke (line : String) (client : Client) : (invoke line client).trace.items = [] := by
  rw [Trace.items, List.flatMap_eq_nil_iff]
  intro e he
  have hsource := (calls_invoke line client e he).2
  cases e <;> first | rfl | exact absurd rfl hsource

theorem taken_invoke (line : String) (client : Client) : Trace.taken .screen (invoke line client).trace = [] := by
  rw [Trace.taken, List.flatMap_eq_nil_iff]
  exact fun e he => (Event.taken_eq_nil (calls_invoke line client e he).1).1

/-- an exchange that is answered has sent its line and taken one frame, and leaves the client open -/
theorem invoke_answered (h : invoke line client = ⟨.ok text, client', trace⟩) :
    ∃ link link', client = ⟨client.limit, some link⟩ ∧ client' = ⟨client.limit, some link'⟩ ∧
      Trace.taken .link trace = Utf8.encode line ∧ Frame.encode (Utf8.encode text) = .ok (Trace.received trace) ∧
      link.inflow.coming = link'.inflow.coming.after (Trace.received trace) := by
  obtain ⟨limit, _ | link⟩ := client
  · cases h
  · obtain ⟨sent, got, hsent, hgot, -, ⟨e, hinvoke, -⟩ | ⟨htaken, -, ⟨e, hinvoke⟩ | ⟨text', link', hinvoke, hframe,
      hcoming⟩⟩⟩ := invoke_phases line limit link
    · rw [hinvoke] at h
      cases h
    · rw [hinvoke] at h
      cases h
    · rw [hinvoke] at h
      cases h
      have hnone : Trace.received sent = [] := hsent.received_eq_nil (by decide)
      have hlink : Trace.taken .link got = [] := hgot.taken_eq_nil (by decide)
      refine ⟨link, link', rfl, rfl, ?_, ?_, ?_⟩
      · rw [Trace.taken_append, htaken, hlink, List.append_nil]
      · rwa [Trace.received_append, hnone]
      · rwa [Trace.received_append, hnone]

/-- an exchange that fails leaves the client closed -/
theorem invoke_failure (h : invoke line client = ⟨.error e, client', trace⟩) : client' = ⟨client.limit, none⟩ := by
  obtain ⟨limit, _ | link⟩ := client
  · cases h
    rfl
  · obtain ⟨_, -, ⟨_, hinvoke, -⟩ | ⟨_, _, _, hinvoke, -⟩⟩ := invoke_cases line limit link
    · rw [hinvoke] at h
      cases h
      rfl
    · rw [hinvoke] at h
      cases h

end Client

end QueryConsole
