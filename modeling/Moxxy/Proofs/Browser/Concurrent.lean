import Moxxy.Proofs.Browser.Interference
import Moxxy.Proofs.Browser.Interleaving
import Moxxy.Proofs.Browser.Numbering

/-!
The bridge under every interleaving of its coroutines on the event loop: the writes a request and
`cleanup` can make to the globals, the exceptions that can leave `handle_action`, and what every run
of the loop keeps.
-/

namespace Moxxy

open Prog

/--
The writes a `handle_action` coroutine makes to the globals, each relative to the globals it
replaces. A write and the reads it depends on sit in one slice, so no other coroutine runs between
them.
-/
inductive RequestWrite : Session → Session → Prop where
  /-- `reset_idle`. -/
  | clock (s : Session) (now : Nat) : RequestWrite s { s with lastActivity := now }
  /-- `ensure_browser` keeping the playwright it started. -/
  | start (s : Session) (playwright : Playwright) :
      RequestWrite s { s with playwrightInstance := some playwright }
  /-- `ensure_browser` keeping the browser it launched. -/
  | launch (s : Session) (browser : Browser) :
      RequestWrite s { s with browserInstance := some browser }
  /-- `get_current_page` keeping the page it opened, as the current tab. -/
  | openTab (s : Session) (page : Page) :
      RequestWrite s
        { s with pages := s.pages.set page.handle page, currentTab := some page.handle }
  /-- `take_snapshot` emptying the table. -/
  | clearTable (s : Session) : RequestWrite s { s with snapshotRefs := .empty }
  /-- `build_snapshot_text` numbering a tree into the table. -/
  | number (s : Session) (tree : AxNode) :
      RequestWrite s { s with snapshotRefs := (buildSnapshotText tree s.snapshotRefs 0).1 }
  /-- `close` popping the current tab. -/
  | popTab (s : Session) {tab : Nat} {page : Page} {rest : PyDict Nat Page}
      (current : s.currentTab = some tab) (popped : s.pages.pop tab = some (page, rest)) :
      RequestWrite s { s with pages := rest }
  /-- `close` switching to the last tab left, or to none. -/
  | switchTab (s : Session) : RequestWrite s { s with currentTab := s.pages.keys.getLast? }

/-- The writes of `cleanup`: it forgets the browser and playwright, and nothing else. -/
inductive CleanupWrite : Session → Session → Prop where
  /-- Forgetting the browser. -/
  | closeBrowser (s : Session) : CleanupWrite s { s with browserInstance := none }
  /-- Forgetting playwright. -/
  | stop (s : Session) : CleanupWrite s { s with playwrightInstance := none }

/-- The writes any coroutine of the bridge makes. -/
inductive BridgeWrite (s t : Session) : Prop where
  | request (write : RequestWrite s t)
  | cleanup (write : CleanupWrite s t)

/-- The exception a piece of pure code raised, if it raised one. -/
def raisedBy {α : Type} : Except PyException α → Option PyException
  | .ok _ => none
  | .error exception => some exception

/--
What reading a request's arguments raises in the branch of its action, before the branch awaits
anything: `args[0]`, `len(args)`, `int()` and `.startswith` on values of the wrong type, as the
branch reads them.
-/
def argsError (action : String) (args : Json) : Option PyException :=
  if action = "navigate" then if args.truthy then raisedBy (navigateUrl args) else none
  else if action = "click" then if args.truthy then raisedBy (readRef args) else none
  else if action = "type" then
    match args.pyLen with
    | .error exception => some exception
    | .ok count =>
      if count < 2 then none
      else
        match readRef args with
        | .ok (.ok _) => raisedBy (args.getItem 1)
        | other => raisedBy other
  else if action = "scroll" then raisedBy (scrollDirection args)
  else if action = "evaluate" then if args.truthy then raisedBy (args.getItem 0) else none
  else if action = "wait" then raisedBy (waitMs args)
  else none

/--
The exceptions that can leave a `handle_action` coroutine while other coroutines run at its awaits:
playwright's `Error` from an await no `try` encloses, the two `RuntimeError`s of `tabs` when tabs
were opened or closed while it awaited a title, and what the request's own arguments raise.
-/
inductive Escapes (request : Request) : PyException → Prop where
  | playwright (message : String) : Escapes request (.playwright message)
  | resized : Escapes request changedSizeError
  | keysChanged : Escapes request keysChangedError
  | args {exception : PyException} (read : argsError request.action request.args = some exception) :
      Escapes request exception

section Request

variable {request : Request}

/-- `launch`'s body: it leaves a browser set, whatever ran at its awaits. -/
theorem launchBrowser_wpI {post : Except PyException Unit → Session → Prop}
    (launched : ∀ s', s'.browserInstance.isSome → post (.ok ()) s')
    (fails : ∀ message s', post (.error (.playwright message)) s') (s : Session) :
    launchBrowser.wpI RequestWrite post s := by
  -- Playwright is read in the slice that assigned it, and the browser is set in the slice that
  -- launched it.
  obtain ⟨browser, playwright, pages, tab, refs, last⟩ := s
  cases playwright <;>
    simp [launchBrowser, wpI_bind, launched, fails, RequestWrite.start, RequestWrite.launch]

/-- `ensure_browser` returns a browser, whatever ran at its awaits. -/
theorem ensureBrowser_wpI {post : Except PyException (Option Browser) → Session → Prop}
    (opened : ∀ browser s', post (.ok (some browser)) s')
    (fails : ∀ message s', post (.error (.playwright message)) s') (s : Session) :
    ensureBrowser.wpI RequestWrite post s := by
  -- After a launch the browser is read in the same slice.
  have relaunch : (do launchBrowser; return (← getSession).browserInstance :
      Prog (Option Browser)).wpI RequestWrite post s := by
    rw [wpI_bind]
    refine launchBrowser_wpI (fun s' launched => ?_) fails s
    obtain ⟨browser, found⟩ := Option.isSome_iff_exists.1 launched
    simpa [wpI_bind, found] using opened browser s'
  simp only [ensureBrowser, wpI_bind, wpI_getSession]
  cases connected : s.browserInstance with
  | none => exact relaunch
  | some browser =>
    intro alive
    cases alive
    · -- A browser that is no longer connected is replaced.
      exact relaunch
    · -- A connected browser is kept, and read in the slice that asked.
      show post (.ok s.browserInstance) s
      exact connected ▸ opened browser s

/-- `pages[current_tab]` with the current tab present: its page, and no `KeyError`. -/
theorem wpI_currentPage {allowed : Session → Session → Prop}
    {post : Except PyException Page → Session → Prop} {s : Session} (present : tabMissing s = false)
    (holds : ∀ page, post (.ok page) s) : (currentPage s).wpI allowed post s := by
  obtain ⟨t, current, listed⟩ := tabMissing_eq_false.1 present
  obtain ⟨page, found⟩ := Option.isSome_iff_exists.1 (PyDict.contains_iff_get?.1 listed)
  simp [currentPage, current, found, holds]

/--
`get_current_page` raises only playwright's errors, whatever ran at its awaits: the tab it found or
opened is read in the same slice.
-/
theorem getCurrentPage_guarantees : getCurrentPage.Guarantees RequestWrite (Escapes request) :=
  fun s => by
  simp only [getCurrentPage, wpI_bind]
  refine ensureBrowser_wpI (fun browser s' => ?_) (fun message _ => .playwright message) s
  cases missing : tabMissing s'
  · -- The current tab is there: `pages[current_tab]` is read in the slice that checked it.
    simp only [missing, Bool.false_eq_true, if_false, wpI_bind, wpI_pure, wpI_getSession]
    exact wpI_currentPage missing fun _ => trivial
  · -- The page opened is assigned, made current and read in the slice its creation resumed.
    simp [missing, wpI_bind, RequestWrite.openTab, currentPage, Escapes.playwright]

end Request

/-- `reset_idle` only sets the clock. -/
theorem resetIdle_guarantees {escapes : PyException → Prop} :
    resetIdle.Guarantees RequestWrite escapes :=
  (guarantees_ask _).bind fun now => guarantees_modifySession fun s => .clock s now

/-- Numbering into the table writes the numbered table, whatever the tree raises. -/
theorem buildIntoRefs_guarantees (tree : AxNode) :
    (buildIntoRefs tree).Guarantees RequestWrite fun _ => True := fun s =>
  ⟨.number s tree, by
    show wpI RequestWrite (match (buildSnapshotText tree s.snapshotRefs 0).2 with
      | .ok text => .pure text | .error raised => .raise raised) _ _
    -- The walk's text is returned, or what the walk raised is raised, after the one write.
    split <;> trivial⟩

/-- The part of `take_snapshot` in its `try` writes only the table. -/
theorem snapshotText_guarantees (page : Page) :
    (snapshotText page).Guarantees RequestWrite fun _ => True :=
  (guarantees_await _ fun _ => trivial).bind fun tree => by
    split
    · -- No tree: the fixed text.
      exact guarantees_pure _
    · -- A tree: numbered into the table, then the URL and the title, in a `try`.
      exact (buildIntoRefs_guarantees _).bind fun _ => (guarantees_ask _).bind fun _ =>
        (guarantees_await _ fun _ => trivial).bind fun _ => guarantees_pure _

/-- `take_snapshot` raises nothing, whatever ran at its awaits. -/
theorem takeSnapshot_guarantees {escapes : PyException → Prop} (page : Page) :
    (takeSnapshot page).Guarantees RequestWrite escapes :=
  (guarantees_modifySession RequestWrite.clearTable).bind fun _ =>
    (snapshotText_guarantees page).attempt.bind fun snapshot => by
      cases snapshot <;> exact guarantees_pure _

/-- Counting matches writes nothing. -/
theorem locateByRole_guarantees (page : Page) (ref : Int) (role name : String) :
    (locateByRole page ref role name).Guarantees RequestWrite fun _ => True := fun s => by
  simp [locateByRole, wpI_bind]

/-- `find_element_by_ref` raises nothing, whatever ran at its awaits. -/
theorem findElementByRef_guarantees {escapes : PyException → Prop} (page : Page) (ref : Int) :
    (findElementByRef page ref).Guarantees RequestWrite escapes :=
  guarantees_getSession.bind fun s => by
    split
    · -- A stale reference: the message, before any await.
      exact guarantees_pure _
    · -- A known one: the count, in a `try`.
      exact (locateByRole_guarantees _ _ _ _).attempt.bind fun found => by
        cases found <;> exact guarantees_pure _

/-- An await inside a `try`: any error it raises is caught. -/
theorem guarantees_await_caught {allowed : Session → Session → Prop} (c : Call) :
    (await c).Guarantees allowed fun _ => True :=
  guarantees_await c fun _ => trivial

/--
`navigate` raises what its URL raises and what `get_current_page` raises: loading and settling are
in a `try`.
-/
theorem navigateAction_guarantees (args : Json) :
    (navigateAction args).Guarantees RequestWrite (Escapes ⟨"navigate", args⟩) := by
  unfold navigateAction
  cases truthy : args.truthy
  · -- Empty arguments: the failure.
    exact guarantees_pure _
  · refine Guarantees.ofExcept_bind (fun raised failed => .args ?_) fun url _ => ?_
    · -- What reading the URL raises is what its arguments raise.
      simp [argsError, truthy, raisedBy, failed]
    refine getCurrentPage_guarantees.bind fun page => Guarantees.bind
      ((guarantees_await_caught _).bind fun _ => guarantees_await_caught _).attempt fun loaded => ?_
    cases loaded
    · -- Loading or settling raised: the failure.
      exact guarantees_pure _
    · -- Both went through: the snapshot.
      exact (takeSnapshot_guarantees page).bind fun _ => guarantees_pure _

/-- `snapshot` raises only what `get_current_page` raises. -/
theorem snapshotAction_guarantees {request : Request} :
    snapshotAction.Guarantees RequestWrite (Escapes request) :=
  getCurrentPage_guarantees.bind fun page =>
    (takeSnapshot_guarantees page).bind fun _ => guarantees_pure _

/--
`click` raises what reading its reference raises and what `get_current_page` raises: the click and
its snapshot are in a `try`.
-/
theorem clickAction_guarantees (args : Json) :
    (clickAction args).Guarantees RequestWrite (Escapes ⟨"click", args⟩) := by
  unfold clickAction
  cases truthy : args.truthy
  · -- Empty arguments: the failure.
    exact guarantees_pure _
  · refine Guarantees.ofExcept_bind (fun raised failed => .args ?_) fun parsed _ => ?_
    · -- What reading the reference raises is what its arguments raise.
      simp [argsError, truthy, raisedBy, failed]
    cases parsed with
    -- A reference refused: the failure.
    | error invalid => exact guarantees_pure _
    | ok ref =>
      refine getCurrentPage_guarantees.bind fun page =>
        (findElementByRef_guarantees _ _).bind fun found => ?_
      cases found
      · -- No element for the reference: the failure.
        exact guarantees_pure _
      · -- The click, settling and the snapshot, in a `try`.
        refine Guarantees.bind ((guarantees_await_caught _).bind fun _ =>
          (guarantees_await_caught _).bind fun _ => takeSnapshot_guarantees page).attempt
          fun clicked => ?_
        cases clicked <;> exact guarantees_pure _

/--
`type` raises what reading its arguments raises and what `get_current_page` raises: both ways of
typing are in a `try`.
-/
theorem typeAction_guarantees (args : Json) :
    (typeAction args).Guarantees RequestWrite (Escapes ⟨"type", args⟩) := by
  unfold typeAction
  refine Guarantees.ofExcept_bind (fun raised failed => .args ?_) fun count counted => ?_
  · -- What `len(args)` raises is what its arguments raise.
    simp [argsError, failed]
  split
  · -- Fewer than two arguments: the failure.
    exact guarantees_pure _
  · -- Two or more: the reference, then the text.
    rename_i enough
    refine Guarantees.ofExcept_bind (fun raised failed => .args ?_) fun parsed read => ?_
    · simp [argsError, counted, enough, failed, raisedBy]
    cases parsed with
    -- A reference refused: the failure.
    | error invalid => exact guarantees_pure _
    | ok ref =>
      refine Guarantees.ofExcept_bind (fun raised failed => .args ?_) fun text _ => ?_
      · simp [argsError, counted, enough, read, failed, raisedBy]
      refine getCurrentPage_guarantees.bind fun page =>
        (findElementByRef_guarantees _ _).bind fun found => ?_
      cases found
      · -- No element for the reference: the failure.
        exact guarantees_pure _
      · -- Filling, in a `try`, then typing when filling raised.
        refine (guarantees_await_caught _).attempt.bind fun filled => ?_
        cases filled
        · -- Filling raised: typing and settling, in a `try` of their own.
          refine Guarantees.bind ((guarantees_await_caught _).bind fun _ =>
            guarantees_await_caught _).attempt fun typed => ?_
          cases typed <;> exact guarantees_pure _
        · -- Filling went through: the success.
          exact guarantees_pure _

/-- `screenshot` raises only what `get_current_page` raises. -/
theorem screenshotAction_guarantees {request : Request} :
    screenshotAction.Guarantees RequestWrite (Escapes request) :=
  getCurrentPage_guarantees.bind fun _ => Guarantees.bind
    ((guarantees_ask _).bind fun _ => (guarantees_await_caught _).bind fun _ =>
      guarantees_pure _).attempt fun saved => by
    cases saved <;> exact guarantees_pure _

/-- The end of `scroll`'s `try` raises only into that `try`. -/
theorem scrolled_guarantees (page : Page) (shown : String) :
    (scrolled page shown).Guarantees RequestWrite fun _ => True :=
  (guarantees_await_caught _).bind fun _ =>
    (takeSnapshot_guarantees page).bind fun _ => guarantees_pure _

/-- The body of `scroll` raises only through its outer `try`. -/
theorem scrollBody_guarantees (page : Page) (direction : Json) :
    (scrollBody page direction).Guarantees RequestWrite fun _ => True := by
  unfold scrollBody
  refine Guarantees.bind ?_ fun moved => ?_
  · split
    · -- A named direction runs its script.
      exact (guarantees_await_caught _).bind fun _ => guarantees_pure _
    · -- Any other direction is a reference, unless `int()` refuses it.
      split
      · -- A reference `int()` refuses: the failure.
        exact guarantees_pure _
      · -- A value `int()` raises on: the raise, caught by the outer `try`.
        exact guarantees_raise trivial
      · -- A reference: its element scrolled into view, in the outer `try`.
        refine (findElementByRef_guarantees _ _).bind fun found => ?_
        cases found
        · exact guarantees_pure _
        · exact (guarantees_await_caught _).bind fun _ => guarantees_pure _
  · -- Settling and the snapshot, when the move went through.
    cases moved
    · exact guarantees_pure _
    · exact scrolled_guarantees page _

/--
`scroll` raises what reading its direction raises and what `get_current_page` raises: its body is
in a `try`.
-/
theorem scrollAction_guarantees (args : Json) :
    (scrollAction args).Guarantees RequestWrite (Escapes ⟨"scroll", args⟩) :=
  Guarantees.ofExcept_bind (fun raised failed => .args (by simp [argsError, failed, raisedBy]))
    fun direction _ => getCurrentPage_guarantees.bind fun page =>
      (scrollBody_guarantees page _).attempt.bind fun scrolled => by
        cases scrolled <;> exact guarantees_pure _

/-- `evaluate` raises what reading its script raises and what `get_current_page` raises. -/
theorem evaluateAction_guarantees (args : Json) :
    (evaluateAction args).Guarantees RequestWrite (Escapes ⟨"evaluate", args⟩) := by
  unfold evaluateAction
  cases truthy : args.truthy
  · -- Empty arguments: the failure.
    exact guarantees_pure _
  · refine Guarantees.ofExcept_bind (fun raised failed => .args ?_) fun code _ => ?_
    · -- What reading the script raises is what its arguments raise.
      simp [argsError, truthy, raisedBy, failed]
    exact getCurrentPage_guarantees.bind fun _ => (guarantees_await_caught _).attempt.bind
      fun result => by cases result <;> exact guarantees_pure _

/-- `back` and `forward` raise only what `get_current_page` raises. -/
theorem historyAction_guarantees {request : Request} (move : Page → Nat → Call)
    (moved failed : String) :
    (historyAction move moved failed).Guarantees RequestWrite (Escapes request) :=
  getCurrentPage_guarantees.bind fun page => Guarantees.bind
    ((guarantees_await_caught _).bind fun _ => (guarantees_await_caught _).bind fun _ =>
      takeSnapshot_guarantees page).attempt fun snapshot => by
    cases snapshot <;> exact guarantees_pure _

/--
`wait` raises what reading its milliseconds raises, what `get_current_page` raises, and the
playwright `Error` of its sleep.
-/
theorem waitAction_guarantees (args : Json) :
    (waitAction args).Guarantees RequestWrite (Escapes ⟨"wait", args⟩) :=
  Guarantees.ofExcept_bind (fun raised failed => .args (by simp [argsError, failed, raisedBy]))
    fun _ _ => getCurrentPage_guarantees.bind fun _ =>
      (guarantees_await _ Escapes.playwright).bind fun _ => guarantees_pure _

/-- A line of `tabs` raises nothing: reading the title and URL is in a `try`. -/
theorem tabLine_guarantees {escapes : PyException → Prop} (s : Session) (index tab : Nat)
    (page : Page) : (tabLine s index tab page).Guarantees RequestWrite escapes :=
  Guarantees.bind ((guarantees_await_caught _).bind fun _ =>
    (guarantees_ask _).bind fun _ => guarantees_pure _).attempt fun _ => guarantees_pure _

/-- Where the loop of `tabs` stops, it raises only the iterator's two errors. -/
theorem tabsEnd_guarantees {request : Request} (step : IterStep Nat Page) :
    (tabsEnd step).Guarantees RequestWrite (Escapes request) := by
  cases step with
  -- No entry left, as expected: the loop ends.
  | exhausted => exact guarantees_pure _
  -- The dictionary changed size: `RuntimeError`.
  | resized => exact guarantees_raise .resized
  -- Its keys changed under the same size: `RuntimeError`.
  | keysChanged => exact guarantees_raise .keysChanged
  -- An entry where none was expected: the keys changed too.
  | item => exact guarantees_raise .keysChanged

/--
Each step of the loop of `tabs` may find the dictionary resized, or its keys changed, by a coroutine
that ran while it awaited the previous title; nothing else escapes.
-/
theorem tabLines_guarantees {request : Request} (used remaining pos index : Nat) :
    (tabLines used remaining pos index).Guarantees RequestWrite (Escapes request) := by
  induction remaining generalizing pos index with
  | zero =>
    -- The iterator expects no more entries.
    exact guarantees_getSession.bind fun _ => tabsEnd_guarantees _
  | succ remaining ih =>
    -- One more line, or the iterator stops.
    refine guarantees_getSession.bind fun s => ?_
    split
    · -- A tab: its line, then the rest of the loop.
      exact (tabLine_guarantees _ _ _ _).bind fun _ => (ih _ _).bind fun _ => guarantees_pure _
    · -- The iterator stopped, or raised.
      exact tabsEnd_guarantees _

/-- `tabs` raises only the two errors of its loop. -/
theorem tabsAction_guarantees {request : Request} :
    tabsAction.Guarantees RequestWrite (Escapes request) :=
  guarantees_getSession.bind fun _ =>
    (tabLines_guarantees _ _ _ _).bind fun _ => guarantees_pure _

/--
After `close` awaited the page, the switch: the last tab left is made current and read in the same
slice, so `pages[current_tab]` finds it.
-/
theorem closeSwitch_guarantees {request : Request} : (do
    match (← getSession).pages.keys.getLast? with
    | some last =>
      modifySession fun s => { s with currentTab := some last }
      let next ← currentPage (← getSession)
      let snapshot ← takeSnapshot next
      return Response.success s!"Tab closed. Switched to another tab.\n\n{snapshot}"
    | none =>
      modifySession fun s => { s with currentTab := none }
      return .success "Tab closed. No tabs remaining." : Prog Response).Guarantees RequestWrite
      (Escapes request) := fun s => by
  have switched := RequestWrite.switchTab s
  rw [wpI_bind, wpI_getSession]
  dsimp only
  cases last : s.pages.keys.getLast? with
  -- No tab left: none is current.
  | none =>
    rw [last] at switched
    simp [wpI_bind, switched]
  -- The last tab left is made current and snapshotted.
  | some t =>
    rw [last] at switched
    obtain ⟨page, found⟩ := PyDict.get?_of_mem_keys (List.mem_of_getLast?_eq_some last)
    have present : tabMissing { s with currentTab := some t } = false := by
      simp [tabMissing, PyDict.contains_iff_get?, found]
    rw [wpI_bind, wpI_modifySession]
    refine ⟨switched, ?_⟩
    rw [wpI_bind, wpI_getSession]
    dsimp only
    rw [wpI_bind]
    exact wpI_currentPage present fun next =>
      (takeSnapshot_guarantees next).bind (fun _ => guarantees_pure _) _

/--
`close` pops the current tab in the slice that found it, and raises nothing, whatever ran while it
awaited the page.
-/
theorem closeAction_guarantees {request : Request} :
    closeAction.Guarantees RequestWrite (Escapes request) := fun s => by
  rw [closeAction, wpI_bind, wpI_getSession]
  dsimp only
  split
  · -- No current tab: the message.
    trivial
  · -- The current tab, popped in the slice that found it, then closed in a `try`.
    rename_i page rest popped
    obtain ⟨tab, current, pop⟩ := Option.bind_eq_some.1 popped
    rw [wpI_bind, wpI_modifySession]
    exact ⟨.popTab s current pop, ((guarantees_await_caught _).attempt.bind fun _ =>
      closeSwitch_guarantees) _⟩

/--
`handle_action` raises only playwright's errors, the two errors of `tabs`, and what its arguments
raise, whatever the other coroutines do at its awaits: never a `KeyError` from `pages[current_tab]`
and never an `AttributeError` of `ensure_browser` or `get_current_page`.
-/
theorem handleAction_guarantees (action : String) (args : Json) :
    (handleAction action args).Guarantees RequestWrite (Escapes ⟨action, args⟩) :=
  resetIdle_guarantees.bind fun _ =>
    guarantees_ite (fun named => named ▸ navigateAction_guarantees args) fun _ =>
    guarantees_ite (fun _ => snapshotAction_guarantees) fun _ =>
    guarantees_ite (fun named => named ▸ clickAction_guarantees args) fun _ =>
    guarantees_ite (fun named => named ▸ typeAction_guarantees args) fun _ =>
    guarantees_ite (fun _ => screenshotAction_guarantees) fun _ =>
    guarantees_ite (fun named => named ▸ scrollAction_guarantees args) fun _ =>
    guarantees_ite (fun named => named ▸ evaluateAction_guarantees args) fun _ =>
    guarantees_ite (fun _ => historyAction_guarantees _ _ _) fun _ =>
    guarantees_ite (fun _ => historyAction_guarantees _ _ _) fun _ =>
    guarantees_ite (fun _ => tabsAction_guarantees) fun _ =>
    guarantees_ite (fun _ => closeAction_guarantees) fun _ =>
    guarantees_ite (fun named => named ▸ waitAction_guarantees args) fun _ =>
    guarantees_pure _

/-- `cleanup` raises nothing: both of its awaits are in a `try`. -/
theorem cleanup_guarantees {escapes : PyException → Prop} :
    cleanup.Guarantees CleanupWrite escapes := by
  -- The part after the browser is closed: stop playwright.
  have stop : (do
      match (← getSession).playwrightInstance with
      | some playwright =>
        let _ ← (await (.stop playwright)).attempt
        modifySession fun s => { s with playwrightInstance := none }
      | none => Pure.pure () : Prog Unit).Guarantees CleanupWrite escapes :=
    guarantees_getSession.bind fun s => by
      split
      · -- Playwright runs: stopped in a `try`, then forgotten.
        exact (guarantees_await_caught _).attempt.bind fun _ =>
          guarantees_modifySession CleanupWrite.stop
      · -- Playwright does not run: nothing to stop.
        exact guarantees_pure _
  unfold cleanup
  refine guarantees_getSession.bind fun s => ?_
  dsimp only
  split
  · -- The browser runs: closed in a `try`, then forgotten.
    exact (guarantees_await_caught _).attempt.bind fun _ =>
      (guarantees_modifySession CleanupWrite.closeBrowser).bind fun _ => stop
  · -- No browser: on to playwright.
    exact (guarantees_pure _).bind fun _ => stop

/-- What each job may raise: `handle_action` the exceptions above, `cleanup` nothing. -/
def Job.Escapes : Job → PyException → Prop
  | .action request => Moxxy.Escapes request
  | .cleanup => fun _ => False

/-- Every job raises only what it may, whatever the other coroutines do at its awaits. -/
theorem Job.prog_guarantees : (job : Job) → job.prog.Guarantees BridgeWrite job.Escapes
  | .action ⟨_, _⟩ => ((handleAction_guarantees _ _).map some).widen fun _ _ => .request
  | .cleanup => (cleanup_guarantees.map _).widen fun _ _ => .cleanup

/--
What every interleaving keeps of the globals: the table's keys are `1, …, m`, so exactly those
references resolve, and every tab id is the id of its own page.
-/
structure BridgeInvariant (s : Session) : Prop where
  numbered : ∃ m, Numbered s.snapshotRefs m
  keyed : ∀ tab page, s.pages.get? tab = some page → page.handle = tab

namespace BridgeInvariant

/-- The globals at import keep it: an empty table and no tab. -/
theorem initial (start : Nat) : BridgeInvariant (Session.initial start) :=
  ⟨⟨0, .empty⟩, fun _ _ found => by simp [Session.initial] at found⟩

/-- Every write a coroutine makes keeps the invariant. -/
theorem write {s t : Session} (inv : BridgeInvariant s) (write : BridgeWrite s t) :
    BridgeInvariant t := by
  rcases write with write | write
  case cleanup => cases write <;> exact ⟨inv.numbered, inv.keyed⟩
  cases write with
  -- Neither the table nor any tab's page changes.
  | clock | start | launch | switchTab => exact ⟨inv.numbered, inv.keyed⟩
  | openTab page =>
    -- The new tab's id is its own page's id; the other tabs are as they were.
    refine ⟨inv.numbered, fun tab found opened => ?_⟩
    by_cases same : tab = page.handle
    · subst same
      rw [PyDict.get?_set_self, Option.some.injEq] at opened
      rw [← opened]
    · exact inv.keyed tab found (by rwa [PyDict.get?_set_ne _ same] at opened)
  -- An empty table is numbered up to 0.
  | clearTable => exact ⟨⟨0, .empty⟩, inv.keyed⟩
  | number tree =>
    -- Numbering appends `len(refs) + 1` for each shown node, whatever the table held.
    obtain ⟨m, numbered⟩ := inv.numbered
    refine ⟨⟨m + (tree.walk 0).1.length, ?_⟩, inv.keyed⟩
    rw [buildSnapshotText_walk]
    exact numberShown_numbered numbered _
  -- The current tab popped.
  | popTab _ popped =>
    -- Popping hides one tab and keeps the others.
    refine ⟨inv.numbered, fun tab found left => inv.keyed tab found ?_⟩
    rw [PyDict.get?_of_pop popped] at left
    split at left
    · -- The popped tab is gone.
      cases left
    · -- Any other tab is as it was.
      exact left

end BridgeInvariant

/--
Every run of the loop on submitted coroutines keeps, from globals satisfying the invariant, the
invariant and what each coroutine may still raise.
-/
theorem LoopRun.bridgeGuarded {s : Session} {jobs : List Job} {schedule : List Nat}
    {final : Loop} {invariant : Session → Prop}
    (keeps : ∀ s t, invariant s → BridgeWrite s t → invariant t) (holds : invariant s)
    (run : LoopRun ⟨s, jobs.map Coroutine.fresh⟩ schedule final) :
    final.Guarded BridgeWrite Job.Escapes invariant :=
  run.guarded keeps ⟨holds, fun co member => by
    obtain ⟨job, _, rfl⟩ := List.mem_map.1 member
    exact Job.prog_guarantees job⟩

/--
In every interleaving of submitted coroutines from globals satisfying the invariant, the globals
keep it: the table's keys are `1, …, m` and every tab id is its page's id.
-/
theorem loopRun_keepsBridgeInvariant {s : Session} {jobs : List Job} {schedule : List Nat}
    {final : Loop} (inv : BridgeInvariant s)
    (run : LoopRun ⟨s, jobs.map Coroutine.fresh⟩ schedule final) :
    BridgeInvariant final.session :=
  (run.bridgeGuarded (fun _ _ inv write => inv.write write) inv).session

/-- The globals once Chromium runs and one tab, page `4`, is open and current. -/
def oneTabOpen : Session :=
  { Session.initial 0 with browserInstance := some ⟨2⟩, playwrightInstance := some ⟨1⟩,
                           pages := PyDict.empty.set 4 ⟨4⟩, currentTab := some 4 }

/-- They are reached from the start by three writes, so they keep the invariant. -/
theorem BridgeInvariant.oneTabOpen : BridgeInvariant oneTabOpen :=
  (((BridgeInvariant.initial 0).write (.request (.start _ ⟨1⟩))).write
    (.request (.launch _ ⟨2⟩))).write (.request (.openTab _ ⟨4⟩))

/-- A `tabs` and a `close` request, submitted together. -/
def tabsThenClose : List Job := [.action ⟨"tabs", .array []⟩, .action ⟨"close", .array []⟩]

/--
`tabs` awaits the title of the one tab, `close` pops that tab in the meantime, and `tabs` resumes on
a dictionary one entry shorter.
-/
def closeDuringTabsEvents : List LoopEvent :=
  [.slice 0 [.query .time 2], .slice 1 [.query .time 3],
    .reply 0 (.call (.title ⟨4⟩) (.ok "Example")),
    .slice 0 [.query (.url ⟨4⟩) "https://example.com"]]

/-- The run where `close` pops the tab that `tabs` is listing keeps it. -/
theorem loopRun_keepsBridgeInvariant_closeDuringTabs :
    BridgeInvariant oneTabOpen ∧ ∃ final,
      LoopRun ⟨oneTabOpen, tabsThenClose.map .fresh⟩ (closeDuringTabsEvents.map LoopEvent.index)
        final ∧
      BridgeInvariant final.session := by
  have run : LoopRun ⟨oneTabOpen, tabsThenClose.map .fresh⟩
      (closeDuringTabsEvents.map LoopEvent.index) _ := Loop.replay_run rfl
  exact ⟨.oneTabOpen, _, run, loopRun_keepsBridgeInvariant .oneTabOpen run⟩

/--
In every interleaving of submitted coroutines, from any globals, a coroutine that ended with an
exception raised one its job may raise: a `handle_action` only playwright's `Error`, the two
`RuntimeError`s of `tabs`, or what its arguments raise, never a `KeyError` from `pages` or an
`AttributeError` of `ensure_browser`; a `cleanup` nothing at all.
-/
theorem loopRun_raisesOnly {s : Session} {jobs : List Job} {schedule : List Nat} {final : Loop}
    (run : LoopRun ⟨s, jobs.map Coroutine.fresh⟩ schedule final) :
    ∀ co ∈ final.coroutines, ∀ exception, co.task = .done (.error exception) →
      co.job.Escapes exception := fun co member exception done => by
  have guarded : final.Guarded BridgeWrite Job.Escapes fun _ => True :=
    run.bridgeGuarded (fun _ _ _ _ => trivial) trivial
  have holds := guarded.tasks co member
  rw [done] at holds
  exact holds

/-- A `tabs`, a `close` and a `snapshot` request, submitted together. -/
def tabsCloseSnapshot : List Job :=
  [.action ⟨"tabs", .array []⟩, .action ⟨"close", .array []⟩, .action ⟨"snapshot", .array []⟩]

/--
`tabs` awaits the title of the one tab; `close` pops it, and `snapshot` finds no tab and opens page
`5`, which takes the next slot of the dictionary. `tabs` resumes on a dictionary of the size it
started with, and meets an entry where it expected none.
-/
def reopenDuringTabsEvents : List LoopEvent :=
  [.slice 0 [.query .time 2], .slice 1 [.query .time 3],
    .reply 1 (.call (.closePage ⟨4⟩) (.ok ())), .slice 1 [],
    .slice 2 [.query .time 4, .query (.isConnected ⟨2⟩) true],
    .reply 2 (.call (.newContext ⟨2⟩ userAgent) (.ok ⟨7⟩)), .slice 2 [],
    .reply 2 (.call (.newPage ⟨7⟩) (.ok ⟨5⟩)), .slice 2 [],
    .reply 0 (.call (.title ⟨4⟩) (.ok "Example")),
    .slice 0 [.query (.url ⟨4⟩) "https://example.com"]]

/-- A `navigate` whose arguments are a dict: `args[0]` raises `KeyError: 0`. -/
def dictNavigate : List Job := [.action ⟨"navigate", .object [("url", .string "example.com")]⟩]

/--
Each kind of exception is reached: `tabs` ends with the resized dictionary when `close` pops the tab
it is listing, with the changed keys when a new tab takes its place, and a `navigate` given a dict
ends with `KeyError: 0`; in each run every coroutine raised what it may.
-/
theorem loopRun_raisesOnly_tabsAndArgs :
    (∃ final, LoopRun ⟨oneTabOpen, tabsThenClose.map .fresh⟩
        (closeDuringTabsEvents.map LoopEvent.index) final ∧
      (∀ co ∈ final.coroutines, ∀ exception, co.task = .done (.error exception) →
        co.job.Escapes exception) ∧
      ∃ co, final.coroutines[0]? = some co ∧ co.task = .done (.error changedSizeError)) ∧
    (∃ final, LoopRun ⟨oneTabOpen, tabsCloseSnapshot.map .fresh⟩
        (reopenDuringTabsEvents.map LoopEvent.index) final ∧
      (∀ co ∈ final.coroutines, ∀ exception, co.task = .done (.error exception) →
        co.job.Escapes exception) ∧
      ∃ co, final.coroutines[0]? = some co ∧ co.task = .done (.error keysChangedError)) ∧
    ∃ final, LoopRun ⟨oneTabOpen, dictNavigate.map .fresh⟩ [0] final ∧
      (∀ co ∈ final.coroutines, ∀ exception, co.task = .done (.error exception) →
        co.job.Escapes exception) ∧
      ∃ co, final.coroutines[0]? = some co ∧ co.task = .done (.error (.keyError "0")) := by
  have resized : LoopRun ⟨oneTabOpen, tabsThenClose.map .fresh⟩
      (closeDuringTabsEvents.map LoopEvent.index) _ := Loop.replay_run rfl
  have changed : LoopRun ⟨oneTabOpen, tabsCloseSnapshot.map .fresh⟩
      (reopenDuringTabsEvents.map LoopEvent.index) _ := Loop.replay_run rfl
  have keyed : LoopRun ⟨oneTabOpen, dictNavigate.map .fresh⟩
      ([LoopEvent.slice 0 [.query .time 2]].map LoopEvent.index) _ := Loop.replay_run rfl
  exact ⟨⟨_, resized, loopRun_raisesOnly resized, _, rfl, rfl⟩,
    ⟨_, changed, loopRun_raisesOnly changed, _, rfl, rfl⟩,
    ⟨_, keyed, loopRun_raisesOnly keyed, _, rfl, rfl⟩⟩

/-- A request sets the browser and playwright only to ones it launched or started. -/
theorem RequestWrite.keepsHandles {s t : Session} (write : RequestWrite s t) :
    (s.browserInstance.isSome → t.browserInstance.isSome) ∧
      (s.playwrightInstance.isSome → t.playwrightInstance.isSome) := by
  cases write <;> simp

/--
No request tears the browser down: in every interleaving of `handle_action` coroutines alone, a
browser and a playwright set at the start are still set at the end, since `ensure_browser` only
ever replaces them and only `cleanup` forgets them.
-/
theorem loopRun_requestsKeepBrowser {s : Session} {jobs : List Job} {schedule : List Nat}
    {final : Loop} (requests : ∀ job ∈ jobs, job ≠ .cleanup)
    (run : LoopRun ⟨s, jobs.map Coroutine.fresh⟩ schedule final) :
    (s.browserInstance.isSome → final.session.browserInstance.isSome) ∧
      (s.playwrightInstance.isSome → final.session.playwrightInstance.isSome) := by
  -- Every coroutine writes only what a request writes, and each such write keeps both handles set.
  have guarded : final.Guarded RequestWrite Job.Escapes fun t =>
      (s.browserInstance.isSome → t.browserInstance.isSome) ∧
        (s.playwrightInstance.isSome → t.playwrightInstance.isSome) :=
    run.guarded
      (fun _ _ kept write => ⟨write.keepsHandles.1 ∘ kept.1, write.keepsHandles.2 ∘ kept.2⟩)
      ⟨⟨id, id⟩, fun co member => by
        obtain ⟨job, listed, rfl⟩ := List.mem_map.1 member
        cases job with
        -- A request writes only what a request writes.
        | action request => exact (handleAction_guarantees _ _).map some
        -- The jobs hold no `cleanup`.
        | cleanup => exact absurd rfl (requests _ listed)⟩
  exact guarded.session

/-- In the run where `close` pops the tab `tabs` is listing, Chromium keeps running. -/
theorem loopRun_requestsKeepBrowser_closeDuringTabs :
    (∀ job ∈ tabsThenClose, job ≠ .cleanup) ∧ ∃ final,
      LoopRun ⟨oneTabOpen, tabsThenClose.map .fresh⟩ (closeDuringTabsEvents.map LoopEvent.index)
        final ∧
      final.session.browserInstance.isSome ∧ final.session.playwrightInstance.isSome := by
  have run : LoopRun ⟨oneTabOpen, tabsThenClose.map .fresh⟩
      (closeDuringTabsEvents.map LoopEvent.index) _ := Loop.replay_run rfl
  have requests : ∀ job ∈ tabsThenClose, job ≠ .cleanup := by simp [tabsThenClose]
  have kept := loopRun_requestsKeepBrowser requests run
  exact ⟨requests, _, run, kept.1 rfl, kept.2 rfl⟩

/-- The table that numbering `trees` in turn into an empty table leaves. -/
def numberAll (trees : List AxNode) : Refs :=
  trees.foldl (fun refs tree => (buildSnapshotText tree refs 0).1) .empty

/-- Numbering one more tree extends the fold by it. -/
theorem numberAll_append_singleton (trees : List AxNode) (tree : AxNode) :
    numberAll (trees ++ [tree]) = (buildSnapshotText tree (numberAll trees) 0).1 := by
  simp [numberAll, List.foldl_append]

/--
The table numbers whole trees: the trees numbered since it was last emptied, one after the other,
each from where the one before left the table.
-/
def WholeTrees (s : Session) : Prop := ∃ trees, s.snapshotRefs = numberAll trees

/--
Every write keeps the table one of whole trees: emptying it starts a new list, and numbering a
tree, which happens in one slice, adds the whole tree to the list.
-/
theorem WholeTrees.write {s t : Session} (whole : WholeTrees s) (write : BridgeWrite s t) :
    WholeTrees t := by
  obtain ⟨trees, numbered⟩ := whole
  rcases write with write | write
  case cleanup => cases write <;> exact ⟨trees, numbered⟩
  cases write with
  -- The table is untouched.
  | clock | start | launch | openTab | popTab | switchTab => exact ⟨trees, numbered⟩
  -- An emptied table numbers no tree.
  | clearTable => exact ⟨[], rfl⟩
  -- A numbered tree is numbered whole, in one slice.
  | number tree =>
    refine ⟨trees ++ [tree], ?_⟩
    show (buildSnapshotText tree s.snapshotRefs 0).1 = _
    rw [numberAll_append_singleton, numbered]

end Moxxy
