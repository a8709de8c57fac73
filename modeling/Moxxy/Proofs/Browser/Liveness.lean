import Moxxy.Proofs.Browser.Serial

/-!
The current page and the browser: nothing checks that the page kept in `pages` is still open, or
that it belongs to the browser `ensure_browser` returns.
-/

namespace Moxxy

/--
The pages a trace opened, each with the browser it was opened in: `new_context` on a browser, then
`new_page` in that context. `contexts` holds the contexts opened before.
-/
def openedIn : List Answer → List (Context × Browser) → List (Page × Browser)
  | [], _ => []
  | .call (.newContext browser _) (.ok context) :: rest, contexts =>
    openedIn rest ((context, browser) :: contexts)
  | .call (.newPage context) (.ok page) :: rest, contexts =>
    match contexts.lookup context with
    | some browser => (page, browser) :: openedIn rest contexts
    | none => openedIn rest contexts
  | _ :: rest, contexts => openedIn rest contexts

/-- A current tab that `pages` holds is not missing. -/
theorem tabMissing_of_held {s : Session} {t : Nat} {page : Page} (current : s.currentTab = some t)
    (held : s.pages.get? t = some page) : tabMissing s = false := by
  simp [tabMissing, current, PyDict.contains_iff_get?, held]

/--
With the current tab in `pages`, `get_current_page` returns that tab's page and leaves the tabs,
whatever `ensure_browser` did before: also when it launched a new browser.
-/
theorem getCurrentPage_reusesTab {s s' : Session} {answers : List Answer}
    {outcome : Except PyException Page} {t : Nat} {page : Page} (current : s.currentTab = some t)
    (held : s.pages.get? t = some page) (run : getCurrentPage.Runs s answers outcome s') :
    (∀ found, outcome = .ok found → found = page) ∧ s'.pages = s.pages ∧
      s'.currentTab = s.currentTab := by
  have spec : getCurrentPage.wp (fun _ o s'' => (∀ found, o = .ok found → found = page) ∧
      s''.pages = s.pages ∧ s''.currentTab = s.currentTab) s := by
    apply getCurrentPage_spec
    intro tr o browser playwright pages tab _ _ opens _ returns
    rcases opens with ⟨rfl, rfl⟩ | ⟨missing, _⟩
    · -- The tab was there: `pages[current_tab]` is its page.
      refine ⟨fun found ok => ?_, rfl, rfl⟩
      obtain ⟨t', same, found'⟩ := returns found ok
      rw [current, Option.some_inj] at same
      subst same
      exact Option.some_inj.1 (found'.symm.trans held)
    · simp [tabMissing_of_held current held] at missing
  exact Prog.wp_iff.1 spec _ _ _ run

/-- Over a serial run with no `close`, the current tab and its page stay as they were. -/
theorem SerialRun.keepsTab {s s' : Session} {handled : List Handled} (run : SerialRun s handled s')
    (noClose : ∀ call ∈ handled, call.request.action ≠ "close") {t : Nat} {page : Page}
    (current : s.currentTab = some t) (held : s.pages.get? t = some page) :
    s'.currentTab = some t ∧ s'.pages.get? t = some page := by
  induction run with
  | nil => exact ⟨current, held⟩
  | cons call _ ih =>
    -- Any other action only opens a tab when the current one is missing.
    rcases (handleAction_step call).1.tabs.2 (noClose _ (.head _)) with ⟨pages, tab⟩ | ⟨missing, _⟩
    · exact ih (fun c listed => noClose c (.tail _ listed)) (tab ▸ current) (pages ▸ held)
    · simp [tabMissing_of_held current held] at missing

/-- What playwright raises on a page whose browser has gone. -/
def pageClosedError : String := "Target page, context or browser has been closed"

/--
A `snapshot` after the browser of the first one disconnected: `ensure_browser` launches browser
5, and the tree is read from page 4, which is still the current tab.
-/
def snapshotAfterDisconnect : Handled where
  request := ⟨"snapshot", .array []⟩
  answers := [.query .time 2, .query (.isConnected ⟨2⟩) false,
    .call (.launch ⟨1⟩ true launchArgs) (.ok ⟨5⟩),
    .call (.accessibilitySnapshot ⟨4⟩) (.error pageClosedError)]
  outcome := .ok (.success ("Error taking snapshot: " ++ pageClosedError))

/--
After the browser disconnects, `ensure_browser` launches browser 5, yet `get_current_page` goes on
returning page 4, opened in browser 2: the call reads page 4's tree, `get_current_page` returns
page 4 from then on whatever the driver answers, and every later call but `close` keeps page 4 as
the current tab.
-/
theorem relaunch_keepsOldPage :
    ∃ s, SerialRun (Session.initial 0) [firstSnapshot, snapshotAfterDisconnect] s ∧
      openedIn firstSnapshot.answers [] = [(⟨4⟩, ⟨2⟩)] ∧
      s.browserInstance = some ⟨5⟩ ∧ s.currentTab = some 4 ∧ s.pages.get? 4 = some ⟨4⟩ ∧
      (∀ answers outcome s', getCurrentPage.Runs s answers outcome s' →
        ∀ found, outcome = .ok found → found = ⟨4⟩) ∧
      ∀ later s', SerialRun s later s' → (∀ call ∈ later, call.request.action ≠ "close") →
        s'.currentTab = some 4 ∧ s'.pages.get? 4 = some ⟨4⟩ := by
  obtain ⟨s, run, browser, current, held⟩ : ∃ s,
      SerialRun (Session.initial 0) [firstSnapshot, snapshotAfterDisconnect] s ∧
      s.browserInstance = some ⟨5⟩ ∧ s.currentTab = some 4 ∧ s.pages.get? 4 = some ⟨4⟩ :=
    ⟨_, .cons (Prog.replay_runs rfl) (.cons (Prog.replay_runs rfl) (.nil _)), rfl, rfl, rfl⟩
  exact ⟨s, run, rfl, browser, current, held,
    fun _ _ _ again => (getCurrentPage_reusesTab current held again).1,
    fun _ _ later noClose => later.keepsTab noClose current held⟩

end Moxxy
