import Moxxy.Proofs.Browser.Runs

/-!
One specification per helper coroutine: which globals it may change, what it reads, and what it
returns.
-/

namespace Moxxy

/--
The trees the driver answered `page.accessibility.snapshot()` with, in order; an error is a read
that raised.
-/
def snapshotReads : List Answer → List (Except String AxNode)
  | [] => []
  | .call (.accessibilitySnapshot _) reply :: rest => reply :: snapshotReads rest
  | _ :: rest => snapshotReads rest

/--
The table `take_snapshot` leaves after a read: the tree numbered from scratch, or empty if the read
raised.
-/
def tableOf : Except String AxNode → Refs
  | .ok tree => (buildSnapshotText tree .empty 0).1
  | .error _ => .empty

/-- The locator a call uses on the live page: to count, click, fill or scroll into view. -/
def Call.locator? : Call → Option Locator
  | .count locator | .click locator _ | .fill locator _ _ | .scrollIntoViewIfNeeded locator _ =>
    some locator
  | _ => none

/-- The locators the driver was asked to use, in order. -/
def locators : List Answer → List Locator
  | [] => []
  | .call c _ :: rest => c.locator?.toList ++ locators rest
  | .query .. :: rest => locators rest

/-- The calls `get_current_page` awaits: starting playwright, launching Chromium, and opening. -/
def Call.opensPage : Call → Bool
  | .start | .launch .. | .newContext .. | .newPage _ => true
  | _ => false

/-- An exception of `get_current_page` on the answers `tr`: the error one of its calls answered. -/
def PageRaised (tr : List Answer) (raised : PyException) : Prop :=
  ∃ c message, c.opensPage = true ∧ Answer.call c (.error message) ∈ tr ∧
    raised = .playwright message

@[simp] theorem snapshotReads_nil : snapshotReads [] = [] := rfl

@[simp] theorem snapshotReads_append (front back : List Answer) :
    snapshotReads (front ++ back) = snapshotReads front ++ snapshotReads back := by
  induction front with
  | nil => rfl
  | cons answer rest ih =>
    rcases answer with ⟨c, reply⟩ | ⟨q, reply⟩
    · cases c <;> simp [snapshotReads, ih]
    · simp [snapshotReads, ih]

@[simp] theorem snapshotReads_query (q : Query) (reply : q.Reply) (rest : List Answer) :
    snapshotReads (.query q reply :: rest) = snapshotReads rest := rfl

@[simp] theorem locators_nil : locators [] = [] := rfl

@[simp] theorem locators_call (c : Call) (reply : Except String c.Reply) (rest : List Answer) :
    locators (.call c reply :: rest) = c.locator?.toList ++ locators rest := rfl

@[simp] theorem locators_query (q : Query) (reply : q.Reply) (rest : List Answer) :
    locators (.query q reply :: rest) = locators rest := rfl

@[simp] theorem locators_append (front back : List Answer) :
    locators (front ++ back) = locators front ++ locators back := by
  induction front with
  | nil => rfl
  | cons answer rest ih => rcases answer with ⟨c, reply⟩ | ⟨q, reply⟩ <;> simp [ih]

/-- More answers after an exception of `get_current_page` leave it one. -/
theorem PageRaised.append {tr : List Answer} {raised : PyException} (more : List Answer)
    (page : PageRaised tr raised) : PageRaised (tr ++ more) raised :=
  let ⟨c, message, opens, answered, same⟩ := page
  ⟨c, message, opens, List.mem_append_left more answered, same⟩

/-- A call of `get_current_page` that answered an error raises it. -/
theorem pageRaised_call {c : Call} (opens : c.opensPage = true) (message : String)
    (rest : List Answer) : PageRaised (.call c (.error message) :: rest) (.playwright message) :=
  ⟨c, message, opens, .head _, rfl⟩

/-- Answers before an exception of `get_current_page` leave it one. -/
theorem PageRaised.prepend {tr : List Answer} {raised : PyException} (front : List Answer)
    (page : PageRaised tr raised) : PageRaised (front ++ tr) raised :=
  let ⟨c, message, opens, answered, same⟩ := page
  ⟨c, message, opens, List.mem_append_right front answered, same⟩

/-- `time.time()` and the assignment: only `last_activity` changes. -/
@[simp] theorem wp_resetIdle (post : List Answer → Except PyException Unit → Session → Prop)
    (s : Session) : resetIdle.wp post s =
      ∀ now, post [.query .time now] (.ok ()) { s with lastActivity := now } := by
  simp [resetIdle, Prog.wp_bind]

/--
Launching Chromium, after starting playwright unless it runs: only the two handles change, a launch
that went through leaves a browser, and what raises is the error `start` or `launch` answered.
-/
theorem launchBrowser_spec {post : List Answer → Except PyException Unit → Session → Prop}
    {s : Session}
    (holds : ∀ tr o browser playwright, snapshotReads tr = [] → locators tr = [] →
      (o = .ok () → browser.isSome) → (∀ raised, o = .error raised → PageRaised tr raised) →
      post tr o { s with browserInstance := browser, playwrightInstance := playwright }) :
    launchBrowser.wp post s := by
  -- A call of `start` or `launch` that answered an error raises it.
  have failed : ∀ c message rest, c.opensPage = true → ∀ raised,
      Except.error (PyException.playwright message) = (Except.error raised : Except _ Unit) →
      PageRaised (.call c (.error message) :: rest) raised :=
    fun c message rest opens _ same => by cases same; exact pageRaised_call opens message rest
  obtain ⟨browser, playwright, pages, tab, refs, last⟩ := s
  cases playwright with
  | none =>
    -- Playwright is started first, and a failed start ends the launch there.
    simp only [launchBrowser, Prog.wp_bind, wp_getSession, Option.isNone_none, if_true, wp_await,
      wp_modifySession, List.nil_append, List.singleton_append, List.append_nil]
    refine ⟨fun message => holds _ _ _ _ rfl rfl nofun (failed _ _ _ rfl),
      fun playwright => ⟨fun message => holds _ _ _ _ rfl rfl nofun ?_,
        fun browser => holds _ _ _ _ rfl rfl (fun _ => rfl) nofun⟩⟩
    exact fun raised same => (failed (.launch playwright true launchArgs) message [] rfl raised
      same).prepend [_]
  | some playwright =>
    -- Playwright runs: Chromium is launched with it.
    simp only [launchBrowser, Prog.wp_bind, wp_getSession, Option.isNone_some, Bool.false_eq_true,
      if_false, Prog.wp_pure, wp_await, wp_modifySession, List.nil_append, List.append_nil]
    exact ⟨fun message => holds _ _ _ _ rfl rfl nofun (failed _ _ _ rfl),
      fun browser => holds _ _ _ _ rfl rfl (fun _ => rfl) nofun⟩

section Ensure

variable {post : List Answer → Except PyException (Option Browser) → Session → Prop} {s : Session}
  (holds : ∀ tr o browser playwright, snapshotReads tr = [] → locators tr = [] →
    (∀ found, o = .ok found → found = browser ∧ found.isSome) →
    (∀ raised, o = .error raised → PageRaised tr raised) →
    post tr o { s with browserInstance := browser, playwrightInstance := playwright })
include holds

/--
Launching after a check that read `pre`, then reading `browser_instance` back: the browser returned
is the one the launch left, and what raises is what `start` or `launch` answered.
-/
theorem relaunch_spec (pre : List Answer) (reads : snapshotReads pre = [])
    (used : locators pre = []) :
    (do launchBrowser; return (← getSession).browserInstance : Prog (Option Browser)).wp
      (fun tr => post (pre ++ tr)) s := by
  rw [Prog.wp_bind]
  apply launchBrowser_spec
  intro tr o browser playwright reads' used' launched raised
  have reads'' : snapshotReads (pre ++ tr) = [] := by simp [reads, reads']
  have used'' : locators (pre ++ tr) = [] := by simp [used, used']
  cases o with
  | error e =>
    exact holds _ _ _ _ reads'' used'' nofun
      fun _ same => by cases same; exact (raised e rfl).prepend pre
  | ok _ =>
    simpa [Prog.wp_bind] using holds (pre ++ tr) (.ok browser) browser playwright reads'' used''
      (fun _ same => by cases same; exact ⟨rfl, launched rfl⟩) nofun

/--
`ensure_browser` changes only the two handles, reads no tree and uses no locator. It returns
`browser_instance` as it leaves it, which is then set, and what it raises is the error `start` or
`launch` answered.
-/
theorem ensureBrowser_spec : ensureBrowser.wp post s := by
  simp only [ensureBrowser, Prog.wp_bind, wp_getSession]
  cases connected : s.browserInstance with
  | none => simpa using relaunch_spec holds [] rfl rfl
  | some browser =>
    intro alive
    cases alive
    · -- A browser that is no longer connected is replaced.
      exact relaunch_spec holds [.query (.isConnected browser) false] rfl rfl
    · -- A connected browser is kept and returned.
      obtain ⟨_, playwright, pages, tab, refs, last⟩ := s
      cases connected
      exact holds [.query (.isConnected browser) true] (.ok (some browser)) (some browser)
        playwright rfl rfl (fun _ same => by cases same; exact ⟨rfl, rfl⟩) nofun

end Ensure

@[simp] theorem tabMissing_handles (s : Session) (browser : Option Browser)
    (playwright : Option Playwright) :
    tabMissing { s with browserInstance := browser, playwrightInstance := playwright } =
      tabMissing s := rfl

/-- The current tab is there exactly when `current_tab` is a key of `pages`. -/
theorem tabMissing_eq_false {s : Session} :
    tabMissing s = false ↔ ∃ t, s.currentTab = some t ∧ s.pages.contains t = true := by
  unfold tabMissing
  split <;> simp_all

/--
The tabs `get_current_page` leaves: as they were, or, when the current tab is missing, one more page
made current.
-/
def OpensTab (s : Session) (pages : PyDict Nat Page) (tab : Option Nat) : Prop :=
  (pages = s.pages ∧ tab = s.currentTab) ∨
    (tabMissing s = true ∧ ∃ page : Page, pages = s.pages.set page.handle page ∧
      tab = some page.handle)

/--
`get_current_page` reads no tree and uses no locator, changes only the handles and the tabs as
`OpensTab` allows, raises only an error one of its calls answered (never on `pages[current_tab]`),
and returns the current tab's page.
-/
theorem getCurrentPage_spec {post : List Answer → Except PyException Page → Session → Prop}
    {s : Session}
    (holds : ∀ tr o browser playwright pages tab, snapshotReads tr = [] → locators tr = [] →
      OpensTab s pages tab → (∀ raised, o = .error raised → PageRaised tr raised) →
      (∀ page, o = .ok page → ∃ t, tab = some t ∧ pages.get? t = some page) →
      post tr o
        { s with browserInstance := browser, playwrightInstance := playwright, pages := pages,
                 currentTab := tab }) :
    getCurrentPage.wp post s := by
  simp only [getCurrentPage, Prog.wp_bind]
  apply ensureBrowser_spec
  intro tr o browser playwright reads used found raised
  cases o with
  | error e =>
    exact holds _ _ _ _ _ _ (by simpa using reads) (by simpa using used) (.inl ⟨rfl, rfl⟩)
      (by simpa using raised) (by simp)
  | ok opened =>
    obtain ⟨rfl, launched⟩ := found opened rfl
    simp only [wp_getSession, tabMissing_handles]
    by_cases missing : tabMissing s = true
    · -- A missing tab is opened in a new context of the browser and becomes current.
      rw [if_pos missing]
      obtain ⟨browser, rfl⟩ := Option.isSome_iff_exists.1 launched
      have failed : ∀ rest c message, c.opensPage = true → Answer.call c (.error message) ∈ rest →
          ∀ raised, Except.error (PyException.playwright message) =
            (Except.error raised : Except _ Page) → PageRaised (tr ++ rest) raised :=
        fun rest c message opens answered _ same => by
          cases same
          exact (show PageRaised rest _ from ⟨c, message, opens, answered, rfl⟩).prepend tr
      simp only [Prog.wp_bind, wp_await, wp_modifySession, wp_getSession, List.append_assoc,
        List.singleton_append]
      refine ⟨fun message => ?_, fun context => ⟨fun message => ?_, fun page => ?_⟩⟩
      · exact holds _ _ _ _ _ _ (by simp [reads, snapshotReads]) (by simp [used, Call.locator?])
          (.inl ⟨rfl, rfl⟩) (failed _ (.newContext browser userAgent) message rfl (by simp)) nofun
      · exact holds _ _ _ _ _ _ (by simp [reads, snapshotReads]) (by simp [used, Call.locator?])
          (.inl ⟨rfl, rfl⟩) (failed _ (.newPage context) message rfl (by simp)) nofun
      · simp only [currentPage, PyDict.get?_set_self, Prog.wp_pure_node, List.append_nil]
        exact holds _ (.ok page) _ _ _ (some page.handle) (by simp [reads, snapshotReads])
          (by simp [used, Call.locator?]) (.inr ⟨missing, page, rfl, rfl⟩) nofun (by simp)
    · -- The current tab is there: `pages[current_tab]` finds it.
      rw [if_neg missing]
      obtain ⟨t, current, present⟩ := tabMissing_eq_false.1 (Bool.eq_false_iff.2 missing)
      obtain ⟨page, found⟩ := Option.isSome_iff_exists.1 (PyDict.contains_iff_get?.1 present)
      simpa [Prog.wp_bind, currentPage, current, found, reads] using
        holds tr (.ok page) opened playwright s.pages s.currentTab reads used (.inl ⟨rfl, rfl⟩)
          nofun (by simp [current, found])

/-- Numbering into the global table: the table keeps what the walk added, even when it raised. -/
@[simp] theorem wp_buildIntoRefs (tree : AxNode)
    (post : List Answer → Except PyException String → Session → Prop) (s : Session) :
    (buildIntoRefs tree).wp post s =
      post [] (buildSnapshotText tree s.snapshotRefs 0).2
        { s with snapshotRefs := (buildSnapshotText tree s.snapshotRefs 0).1 } := by
  simp only [buildIntoRefs, Prog.wp]
  split <;> simp_all

/--
`take_snapshot` never raises, reads one tree, uses no locator, and leaves exactly the table of
what it read.
-/
theorem takeSnapshot_spec {post : List Answer → Except PyException String → Session → Prop}
    {s : Session} {page : Page}
    (holds : ∀ tr read text, snapshotReads tr = [read] → locators tr = [] →
      post tr (.ok text) { s with snapshotRefs := tableOf read }) :
    (takeSnapshot page).wp post s := by
  have built : ∀ tree tr text, snapshotReads tr = [.ok tree] → locators tr = [] →
      post tr (.ok text) { s with snapshotRefs := (buildSnapshotText tree .empty 0).1 } :=
    fun tree tr text reads used => holds tr (.ok tree) text reads used
  simp only [takeSnapshot, snapshotText, Prog.wp_bind, wp_modifySession, Prog.wp_attempt, wp_await]
  refine ⟨fun message => ?_, fun tree => ?_⟩
  · -- The read raised: the table stays empty.
    simpa using holds _ (.error message) _ (by simp [snapshotReads]) (by simp [Call.locator?])
  · -- The read answered: an empty page is not walked, any other tree is numbered into the table.
    cases tree
    case none => simpa using built .none _ _ (by simp [snapshotReads]) (by simp [Call.locator?])
    all_goals
      simp only [Prog.wp_bind, wp_buildIntoRefs]
      split <;> simp [built, snapshotReads, Call.locator?]

/-- The role and name a locator queries the page by. -/
def Locator.target : Locator → String × String
  | .byRole _ role name _ => (role, name)
  | .first locator => locator.target

/--
`find_element_by_ref` changes no global, reads no tree and never raises. A reference the table
does not hold is reported stale with no locator used; for one it holds, every locator it uses and
the one it returns query by the role and name of its descriptor.
-/
theorem findElementByRef_spec
    {post : List Answer → Except PyException (Except String Locator) → Session → Prop}
    {s : Session} {page : Page} {ref : Int}
    (holds : ∀ tr found, snapshotReads tr = [] →
      (refEntry s.snapshotRefs ref = none → found = .error (staleRefError ref) ∧ locators tr = []) →
      (∀ info, refEntry s.snapshotRefs ref = some info →
        (∀ locator ∈ locators tr, locator.target = (info.role, info.name)) ∧
          ∀ locator, found = .ok locator → locator.target = (info.role, info.name)) →
      post tr (.ok found) s) :
    (findElementByRef page ref).wp post s := by
  simp only [findElementByRef, Prog.wp_bind, wp_getSession]
  cases entry : refEntry s.snapshotRefs ref with
  | none => simpa using holds [] _ rfl (fun _ => ⟨rfl, rfl⟩) (by simp)
  | some info =>
    -- Counting the matches may raise; the message is caught and returned.
    have fresh : ∀ tr found, snapshotReads tr = [] →
        (∀ locator ∈ locators tr, locator.target = (info.role, info.name)) →
        (∀ locator, found = .ok locator → locator.target = (info.role, info.name)) →
        post tr (.ok found) s :=
      fun tr found reads used returned => holds tr found reads (by simp [entry])
        (by simpa [entry] using And.intro used returned)
    simp [locateByRole, Prog.wp_bind, fresh, snapshotReads, Call.locator?, Locator.target]

end Moxxy
