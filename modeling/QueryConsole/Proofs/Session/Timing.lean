import QueryConsole.Proofs.Session.Clues

/-
A session that shows times, beside the same session without times.

Both go the same course: times are shown on the screen and nowhere else, and a screen that never fails is no reason to
stop. So all that does not see the screen is the same in both, whatever the times are (`Went.same`, `views_alike`). On
the screen both make the same pages, but that each page with a response has one more line if times are shown
(`pagesOf_timed`). The page is told by the flushes, not by what stands in it, so a response may look like a time.

Results:
- `Went.same`: two sessions with the same client and source go the same course.
- `pagesOf_plain`, `pagesOf_timed`: the pages without and with times.
- `times_only_added`: both sessions.
-/

namespace QueryConsole

/-- what is shown of the time that an exchange took -/
def timeLine (milliseconds : Nat) : Bytes := Shell.lineOf ("(" ++ secondsText milliseconds ++ " sec)")

theorem pagesOf_plain (laps : List Nat) (responses : List String) :
    pagesOf false laps responses = responses.map Shell.lineOf := by
  refine List.ext_getElem? fun i => ?_
  simp [pagesOf, Shell.shown]

/-- a page with a time is the page without it, and one line more -/
theorem pagesOf_timed (laps : List Nat) (responses : List String) :
    pagesOf true laps responses =
      (responses.map Shell.lineOf).mapIdx fun i page => page ++ timeLine (laps.getD i 0) := by
  refine List.ext_getElem? fun i => ?_
  simp [pagesOf, Shell.shown, timeLine, Function.comp_def]

namespace Trace

/-- traces that differ in calls on the screen only, in the views that do not see them -/
theorem views_alike {a b : Trace} (h : a.offScreen = b.offScreen) :
    taken .link a = taken .link b ∧ received a = received b ∧ items a = items b ∧ clues a = clues b ∧
      (∀ counter, total counter a = total counter b) ∧ ∀ moment, samples moment a = samples moment b := by
  refine ⟨?_, ?_, ?_, ?_, fun counter => ?_, fun moment => ?_⟩
  · rw [← taken_offScreen, h, taken_offScreen]
  · rw [← received_offScreen, h, received_offScreen]
  · rw [← items_offScreen, h, items_offScreen]
  · rw [← clues_offScreen, h, clues_offScreen]
  · rw [← total_offScreen, h, total_offScreen]
  · rw [← samples_offScreen, h, samples_offScreen]

end Trace

namespace Session

variable {session session' : Session} {p p' : Proceedings} {r r' : Run Session SessionError Unit}

/-- **Sessions on screens that never fail go the same course**, whether times are shown or not. -/
theorem Went.same (h : Went session p r) (h' : Went session' p' r') (hsource : session.source = session'.source)
    (hclient : session.shell.client = session'.shell.client) (hscreen : session.shell.screen.NeverFails)
    (hscreen' : session'.shell.screen.NeverFails) : p = p' := by
  have hsitting := h.sitting
  rw [hsource, hclient] at hsitting
  exact hsitting.unique h'.sitting (h.steady hscreen) (h'.steady hscreen')

/-- on a screen that never fails all pages are shown -/
theorem Went.paged (h : Went session p r) (hscreen : session.shell.screen.NeverFails) :
    r.trace.Paged (Shell.lineOf greeting ::
      pagesOf session.shell.timing session.shell.laps (p.answered.map Prod.snd)) := by
  have hsteady := h.steady hscreen
  have hshows := h.shows
  generalize hstop : p.stop = stop at hsteady hshows
  cases hshows with
  | whole other paged => exact paged
  | cut => exact absurd rfl (hsteady _)

/-- **Timing only adds times.** Two sessions over the same source and the same stream, on screens that never fail, the
one with times shown and the other without, whatever the times are. Then:
- they return the same, leave the same of the source, and end with the same closed client;
- apart from the screen they do the same in the same order: they send and receive the same bytes, take the same items,
  tell the same clues, and count and sample the same;
- they flush the screen equally often and leave nothing unflushed; the first page of both is the greeting, and the
  others are the responses without times, and these with one line for the time at the end of each. -/
theorem times_only_added (source : Source) (client : Client) (screen screen' : Outflow) (hscreen : screen.NeverFails)
    (hscreen' : screen'.NeverFails) (laps laps' : List Nat) :
    let session : Session := ⟨source, ⟨client, screen, true, laps⟩⟩
    let session' : Session := ⟨source, ⟨client, screen', false, laps'⟩⟩
    let r := run session
    let r' := run session'
    (r.answer = r'.answer ∧ r.state.source = r'.state.source ∧ r.state.shell.client = r'.state.shell.client ∧
      r.state.shell.client.isClosed = true) ∧
    (r.trace.offScreen = r'.trace.offScreen ∧ Trace.taken .link r.trace = Trace.taken .link r'.trace ∧
      Trace.received r.trace = Trace.received r'.trace ∧ r.trace.items = r'.trace.items ∧
      r.trace.clues = r'.trace.clues ∧ (∀ counter, Trace.total counter r.trace = Trace.total counter r'.trace) ∧
      ∀ moment, Trace.samples moment r.trace = Trace.samples moment r'.trace) ∧
    Trace.flushes .screen r.trace = Trace.flushes .screen r'.trace ∧
    Trace.unflushed .screen r.trace = [] ∧ Trace.unflushed .screen r'.trace = [] ∧
    ∃ p, Went session p r ∧ Went session' p r' ∧
      let plain := p.answered.map fun answered => Shell.lineOf answered.2
      r'.trace.pages .screen = Shell.lineOf greeting :: plain ∧
      r.trace.pages .screen = Shell.lineOf greeting :: plain.mapIdx fun i page => page ++ timeLine (laps.getD i 0) := by
  intro session session' r r'
  obtain ⟨p, hwent⟩ := went_run session
  obtain ⟨p', hwent'⟩ := went_run session'
  obtain rfl : p = p' := hwent.same hwent' rfl rfl hscreen hscreen'
  obtain ⟨hpages, hrest, -⟩ := hwent.paged hscreen
  obtain ⟨hpages', hrest', -⟩ := hwent'.paged hscreen'
  have hplain : pagesOf false laps' (p.answered.map Prod.snd) =
      p.answered.map fun answered => Shell.lineOf answered.2 := by
    rw [pagesOf_plain, List.map_map]
    rfl
  have htimed : pagesOf true laps (p.answered.map Prod.snd) = (p.answered.map fun answered =>
      Shell.lineOf answered.2).mapIdx fun i page => page ++ timeLine (laps.getD i 0) := by
    rw [pagesOf_timed, List.map_map]
    rfl
  have hapart : r.trace.offScreen = r'.trace.offScreen := hwent.apart.trans hwent'.apart.symm
  refine ⟨⟨hwent.answer.trans hwent'.answer.symm, hwent.left.trans hwent'.left.symm,
    hwent.client.trans hwent'.client.symm, ?_⟩, ⟨hapart, Trace.views_alike hapart⟩, ?_, hrest, hrest', p, hwent, hwent',
    hpages'.trans (congrArg _ hplain), hpages.trans (congrArg _ htimed)⟩
  · rw [hwent.client]
    rfl
  · rw [Trace.flushes_eq_length, Trace.flushes_eq_length, hpages, hpages']
    simp [session, session', hplain, htimed]

/-- the one response looks like a time -/
theorem times_only_added_lookalike :
    let client : Client := ⟨16, some ⟨{ arrivals := [.bytes [7, 0, 0, 0, 40, 49], .bytes [32, 115, 101, 99, 41]] }, {}⟩⟩
    let screen : Outflow := { intakes := [.takes 1, .refuses (.plain .interrupted)] }
    let r := run ⟨[.line "a"], ⟨client, screen, true, [1200]⟩⟩
    let r' := run ⟨[.line "a"], ⟨client, {}, false, []⟩⟩
    screen.NeverFails ∧ Outflow.NeverFails {} ∧ r.answer = r'.answer ∧
      r'.trace.pages .screen = [Shell.lineOf greeting, Shell.lineOf "(1 sec)"] ∧
      r.trace.pages .screen = [Shell.lineOf greeting, Shell.lineOf "(1 sec)" ++ Shell.lineOf "(1.200 sec)"] := by
  intro client screen r r'
  have hscreen : screen.NeverFails := by
    refine ⟨?_, rfl, by simp [screen], rfl⟩
    exact List.forall_mem_cons.2 ⟨.inl ⟨0, rfl⟩, List.forall_mem_singleton.2 (.inr ⟨_, rfl, rfl⟩)⟩
  have hscreen' : Outflow.NeverFails {} := ⟨by simp, rfl, by simp, rfl⟩
  obtain ⟨⟨hanswer, -⟩, -⟩ := times_only_added [.line "a"] client screen {} hscreen hscreen' [1200] []
  have hplain : r'.trace.pages .screen = [Shell.lineOf greeting, Shell.lineOf "(1 sec)"] := by cbv
  have htimed : r.trace.pages .screen =
      [Shell.lineOf greeting, Shell.lineOf "(1 sec)" ++ Shell.lineOf "(1.200 sec)"] := by cbv
  exact ⟨hscreen, hscreen', hanswer, hplain, htimed⟩

end Session

end QueryConsole
