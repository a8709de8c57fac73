import Moxxy.Proofs.Browser.Lookup
import Moxxy.Proofs.Browser.Numbering

/-! Serial runs of `handle_action`: the reference table, the tabs, and stale references. -/

namespace Moxxy

section TableSteps

variable {s s' : Session} {tr : List Answer} {o : Except PyException Response}

/-- A call that read no tree left the table as it was. -/
theorem TableStep.of_quiet (step : TableStep s tr o s') (quiet : snapshotReads tr = []) :
    s'.snapshotRefs = s.snapshotRefs := by
  rcases step with ⟨_, same⟩ | ⟨_, _, reads, _, _⟩
  · exact same
  · simp [quiet] at reads

/-- A call that read one tree left that tree's table. -/
theorem TableStep.of_read {read : Except String AxNode} (step : TableStep s tr o s')
    (reads : snapshotReads tr = [read]) : s'.snapshotRefs = tableOf read := by
  rcases step with ⟨quiet, _⟩ | ⟨_, _, again, refs, _⟩
  · simp [quiet] at reads
  · rw [reads, List.singleton_inj] at again
    rw [refs, again]

end TableSteps

/-- The step every call takes, read off one of its runs. -/
theorem handleAction_step {action : String} {args : Json} {s s' : Session}
    {answers : List Answer} {outcome : Except PyException Response}
    (run : (handleAction action args).Runs s answers outcome s') :
    Effect (TabStep action) s answers outcome s' ∧
      (Snapshots action s → Snapshotted (snapshotReads answers) outcome) ∧
      (¬Snapshots action s → snapshotReads answers = []) :=
  Prog.wp_iff.1 (handleAction_effect action args s) _ _ _ run

/--
The table changes only on a success, and then wholesale: a call that did not succeed leaves it;
a successful call that snapshots leaves exactly the table of the tree it read, whatever was
there before; any other call leaves it.
-/
theorem handleAction_snapshotRefs {action : String} {args : Json} {s s' : Session}
    {answers : List Answer} {outcome : Except PyException Response}
    (run : (handleAction action args).Runs s answers outcome s') :
    ((∀ result, outcome ≠ .ok (.success result)) → s'.snapshotRefs = s.snapshotRefs) ∧
      ((∃ result, outcome = .ok (.success result)) → Snapshots action s →
        ∃ read, snapshotReads answers = [read] ∧ s'.snapshotRefs = tableOf read) ∧
      (¬Snapshots action s → s'.snapshotRefs = s.snapshotRefs) := by
  obtain ⟨⟨table, _⟩, snapshotted, quiet⟩ := handleAction_step run
  refine ⟨fun failed => ?_, fun ⟨result, succeeded⟩ snapshots => ?_,
    fun other => table.of_quiet (quiet other)⟩
  · -- Replacing the table needs a success.
    rcases table with ⟨_, same⟩ | ⟨_, result, _, _, succeeded⟩
    · exact same
    · exact absurd succeeded (failed result)
  · -- A success that snapshots read its tree.
    rcases table with ⟨none, _⟩ | ⟨read, _, reads, refs, _⟩
    · exact absurd none (snapshotted snapshots result succeeded)
    · exact ⟨read, reads, refs⟩

/-- A page whose tree shows one button. -/
def buttonPage : AxNode := .node "button" "Go" "" []

/-- A page whose tree shows one link. -/
def linkPage : AxNode := .node "link" "Home" "" []

/-- The shop, as the snapshot call returns it. -/
def shopPage : AxNode := shopTree.toNode

/-- A first `snapshot`: playwright starts, Chromium launches, a tab opens and shows `buttonPage`. -/
def firstSnapshot : Handled where
  request := ⟨"snapshot", .array []⟩
  answers := [.query .time 1, .call .start (.ok ⟨1⟩), .call (.launch ⟨1⟩ true launchArgs) (.ok ⟨2⟩),
    .call (.newContext ⟨2⟩ userAgent) (.ok ⟨3⟩), .call (.newPage ⟨3⟩) (.ok ⟨4⟩),
    .call (.accessibilitySnapshot ⟨4⟩) (.ok buttonPage), .query (.url ⟨4⟩) "https://example.com",
    .call (.title ⟨4⟩) (.ok "Example")]
  outcome := .ok (.success "Page: Example\nURL: https://example.com\n---\n[1] button \"Go\"")

/-- A second `snapshot` of the same tab, now showing `shopPage`. -/
def shopSnapshot : Handled where
  request := ⟨"snapshot", .array []⟩
  answers := [.query .time 2, .query (.isConnected ⟨2⟩) true,
    .call (.accessibilitySnapshot ⟨4⟩) (.ok shopPage), .query (.url ⟨4⟩) "https://shop.example",
    .call (.title ⟨4⟩) (.ok "Shop")]
  outcome := .ok (.success ("Page: Shop\nURL: https://shop.example\n---\n[1] WebArea \"Shop\"\n" ++
    "  [2] button \"Buy\"\n  [3] link \"Cart\"\n  [4] textbox \"Search\" value=\"socks\""))

/-- The shop's snapshot replaces the first snapshot's table by the shop's four shown nodes. -/
theorem handleAction_snapshotRefs_shop :
    ∃ opened final,
      (handleAction "snapshot" (.array [])).Runs (Session.initial 0) firstSnapshot.answers
        firstSnapshot.outcome opened ∧
      opened.snapshotRefs.entries = [(1, ⟨"button", "Go"⟩)] ∧
      (handleAction "snapshot" (.array [])).Runs opened shopSnapshot.answers shopSnapshot.outcome
        final ∧
      final.snapshotRefs.entries = [(1, ⟨"WebArea", "Shop"⟩), (2, ⟨"button", "Buy"⟩),
        (3, ⟨"link", "Cart"⟩), (4, ⟨"textbox", "Search"⟩)] := by
  have run : SerialRun (Session.initial 0) [firstSnapshot, shopSnapshot] _ :=
    .cons (Prog.replay_runs rfl) (.cons (Prog.replay_runs rfl) (.nil _))
  obtain _ | ⟨first, _ | ⟨shop, _⟩⟩ := run
  obtain ⟨_, reads, refs⟩ := (handleAction_snapshotRefs first).2.1 ⟨_, rfl⟩ (.inl (by decide))
  obtain ⟨_, reads', refs'⟩ := (handleAction_snapshotRefs shop).2.1 ⟨_, rfl⟩ (.inl (by decide))
  cases reads
  cases reads'
  exact ⟨_, _, first, by rw [refs]; rfl, shop, by rw [refs']; rfl⟩

/--
The tabs as every serial run from the start keeps them: at most one, current exactly when there is
one.
-/
structure TabInvariant (s : Session) : Prop where
  noTab : s.currentTab = none ↔ s.pages.entries = []
  current : ∀ tab, s.currentTab = some tab → s.pages.contains tab = true
  atMostOne : s.pages.len ≤ 1

namespace TabInvariant

variable {s s' : Session}

/-- The globals at import keep it: no tab, and none current. -/
theorem initial (start : Nat) : TabInvariant (Session.initial start) :=
  ⟨by simp [Session.initial], by simp [Session.initial], by simp [Session.initial]⟩

/-- The current tab is missing only when there are no tabs at all. -/
theorem entries_of_missing (inv : TabInvariant s) (missing : tabMissing s = true) :
    s.pages.entries = [] := by
  cases tab : s.currentTab with
  | none => exact inv.noTab.1 tab
  | some t => simp [tabMissing, tab, inv.current t tab] at missing

/-- Closing the current tab leaves no tab. -/
theorem rest_of_pop (inv : TabInvariant s) {page : Page} {rest : PyDict Nat Page}
    (popped : s.currentTab.bind s.pages.pop = some (page, rest)) : rest.entries = [] := by
  obtain ⟨t, current, popped⟩ := Option.bind_eq_some.1 popped
  obtain ⟨found, left⟩ := PyDict.pop_eq_some popped
  simp [left, PyDict.entries_of_len_le_one inv.atMostOne found]

/-- Opening a tab where there is none keeps the invariant. -/
theorem opens (inv : TabInvariant s) (opens : Opens s s') : TabInvariant s' := by
  rcases opens with ⟨pages, tab⟩ | ⟨missing, page, pages, tab⟩
  · exact ⟨by rw [pages, tab]; exact inv.noTab, by rw [pages, tab]; exact inv.current,
      by rw [pages]; exact inv.atMostOne⟩
  · -- The one new tab is the only one.
    have empty := inv.entries_of_missing missing
    have opened : s'.pages.entries = [(page.handle, page)] := by
      rw [pages, PyDict.entries_set_of_not_contains (PyDict.contains_of_entries_nil empty _), empty]
      rfl
    refine ⟨by simp [opened, tab], fun t current => ?_, by simp [PyDict.len, opened]⟩
    rw [tab, Option.some_inj] at current
    simp [PyDict.contains, PyDict.keys, opened, current]

/-- Closing the current tab keeps the invariant. -/
theorem closes (inv : TabInvariant s) (closes : ClosesTab s s') : TabInvariant s' := by
  unfold ClosesTab at closes
  split at closes
  · obtain ⟨pages, tab⟩ := closes
    exact ⟨by rw [pages, tab]; exact inv.noTab, by rw [pages, tab]; exact inv.current,
      by rw [pages]; exact inv.atMostOne⟩
  · rename_i popped
    obtain ⟨pages, tab⟩ := closes
    have empty := inv.rest_of_pop popped
    exact ⟨by simp [pages, tab, empty, PyDict.keys], by simp [tab, empty, PyDict.keys],
      by simp [pages, PyDict.len, empty]⟩

/-- Every call keeps the invariant. -/
theorem step {action : String} {tr : List Answer} {o : Except PyException Response}
    (inv : TabInvariant s) (effect : Effect (TabStep action) s tr o s') : TabInvariant s' := by
  by_cases close : action = "close"
  · exact inv.closes (effect.tabs.1 close)
  · exact inv.opens (effect.tabs.2 close)

end TabInvariant

/-- Every serial run keeps the invariant. -/
theorem SerialRun.tabInvariant {s s' : Session} {handled : List Handled}
    (run : SerialRun s handled s') (inv : TabInvariant s) : TabInvariant s' := by
  induction run with
  | nil => exact inv
  | cons step _ ih => exact ih (inv.step (handleAction_step step).1)

/--
In every serial run from the start: at most one tab, current exactly when there is one;
`get_current_page` never fails on a missing key; and `close` with a current tab leaves none.
-/
theorem serialRun_tabInvariant {start : Nat} {handled : List Handled} {s : Session}
    (run : SerialRun (Session.initial start) handled s) :
    TabInvariant s ∧
      (∀ answers outcome s', getCurrentPage.Runs s answers outcome s' →
        ∀ key, outcome ≠ .error (.keyError key)) ∧
      (∀ (args : Json) answers outcome s', s.currentTab ≠ none →
        (handleAction "close" args).Runs s answers outcome s' →
        s'.pages.entries = [] ∧ s'.currentTab = none) := by
  have inv := run.tabInvariant (TabInvariant.initial start)
  refine ⟨inv, fun answers outcome s' opened => ?_,
    fun args answers outcome s' present closed => ?_⟩
  · -- `get_current_page` opens a tab before it reads a missing one, and raises only driver errors.
    exact Prog.wp_iff.1 (@getCurrentPage_spec (fun _ o _ => ∀ key, o ≠ .error (.keyError key)) _
      fun _ _ _ _ _ _ _ _ _ raised _ key keyed => by
        obtain ⟨_, _, _, _, wrong⟩ := raised _ keyed
        cases wrong) _ _ _ opened
  · -- The one tab is popped, and none is left to switch to.
    obtain ⟨t, current⟩ := Option.ne_none_iff_exists'.1 present
    obtain ⟨page, found⟩ :=
      Option.isSome_iff_exists.1 (PyDict.contains_iff_get?.1 (inv.current t current))
    obtain ⟨rest, popped⟩ : ∃ rest, s.currentTab.bind s.pages.pop = some (page, rest) :=
      ⟨_, by simp [current, PyDict.pop, found]; rfl⟩
    have closes := (handleAction_step closed).1.tabs.1 rfl
    have empty := inv.rest_of_pop popped
    unfold ClosesTab at closes
    rw [popped] at closes
    simp [closes.1, closes.2, empty, PyDict.keys]

/-- `click 1` on the page of the first snapshot, which shows the button again. -/
def clickButton : Handled where
  request := ⟨"click", .array [.string "1"]⟩
  answers := [.query .time 2, .query (.isConnected ⟨2⟩) true,
    .call (.count (.byRole ⟨4⟩ "button" "Go" false)) (.ok 1),
    .call (.click (.byRole ⟨4⟩ "button" "Go" false) 5000) (.ok ()),
    .call (.waitForTimeout ⟨4⟩ 500) (.ok ()), .call (.accessibilitySnapshot ⟨4⟩) (.ok buttonPage),
    .query (.url ⟨4⟩) "https://example.com", .call (.title ⟨4⟩) (.ok "Example")]
  outcome :=
    .ok (.success "Clicked [1].\n\nPage: Example\nURL: https://example.com\n---\n[1] button \"Go\"")

/-- `tabs` with the one tab open. -/
def listTabs : Handled where
  request := ⟨"tabs", .array []⟩
  answers := [.query .time 3, .call (.title ⟨4⟩) (.ok "Example"),
    .query (.url ⟨4⟩) "https://example.com"]
  outcome := .ok (.success "Open tabs:\n  [0] Example -- https://example.com *")

/-- `close` of the one tab. -/
def closeTab : Handled where
  request := ⟨"close", .array []⟩
  answers := [.query .time 4, .call (.closePage ⟨4⟩) (.ok ())]
  outcome := .ok (.success "Tab closed. No tabs remaining.")

/-- A `snapshot` with no tab left: a new context and page `7` are opened. -/
def reopenSnapshot : Handled where
  request := ⟨"snapshot", .array []⟩
  answers := [.query .time 5, .query (.isConnected ⟨2⟩) true,
    .call (.newContext ⟨2⟩ userAgent) (.ok ⟨6⟩), .call (.newPage ⟨6⟩) (.ok ⟨7⟩),
    .call (.accessibilitySnapshot ⟨7⟩) (.ok buttonPage), .query (.url ⟨7⟩) "https://example.com",
    .call (.title ⟨7⟩) (.ok "Example")]
  outcome := .ok (.success "Page: Example\nURL: https://example.com\n---\n[1] button \"Go\"")

/--
Five calls: the first snapshot opens a tab, a click and `tabs` keep it, `close` closes it, and a
last snapshot opens page `7` as the one tab.
-/
theorem serialRun_tabInvariant_reopen :
    ∃ s, SerialRun (Session.initial 0)
        [firstSnapshot, clickButton, listTabs, closeTab, reopenSnapshot] s ∧
      TabInvariant s ∧ s.currentTab = some 7 ∧ s.pages.len = 1 := by
  have run : SerialRun (Session.initial 0)
      [firstSnapshot, clickButton, listTabs, closeTab, reopenSnapshot] _ :=
    .cons (Prog.replay_runs rfl) (.cons (Prog.replay_runs rfl) (.cons (Prog.replay_runs rfl)
      (.cons (Prog.replay_runs rfl) (.cons (Prog.replay_runs rfl) (.nil _)))))
  exact ⟨_, run, (serialRun_tabInvariant run).1, rfl, rfl⟩

/-- Calls that read no tree leave the table, over a whole serial run. -/
theorem SerialRun.snapshotRefs_quiet {s s' : Session} {handled : List Handled}
    (run : SerialRun s handled s') (quiet : ∀ call ∈ handled, snapshotReads call.answers = []) :
    s'.snapshotRefs = s.snapshotRefs := by
  induction run with
  | nil => rfl
  | cons step _ ih =>
    rw [ih fun call listed => quiet call (.tail _ listed),
      (handleAction_step step).1.table.of_quiet (quiet _ (.head _))]

/--
A reference is resolved against the table of the latest snapshot: after a call that read the
tree `read`, and any number of calls that read none, a call given `ref` fails as stale, using no
locator, when that table has no entry `ref` (unless `get_current_page` raised before the lookup);
otherwise every locator it counts, clicks, fills or scrolls to queries by that entry's role and
name, whichever snapshot first issued `ref`.
-/
theorem serialRun_resolvesLatest {s mid final : Session} {snap : Handled} {later : List Handled}
    {read : Except String AxNode} {request : Request} {ref : Int} {answers : List Answer}
    {outcome : Except PyException Response}
    (run : SerialRun s (snap :: later) mid) (took : snapshotReads snap.answers = [read])
    (since : ∀ call ∈ later, snapshotReads call.answers = [])
    (gives : GivesRef request ref)
    (use : (handleAction request.action request.args).Runs mid answers outcome final) :
    Resolves (tableOf read) ref answers outcome := by
  cases run with
  | cons step rest =>
    -- The snapshot left its table, and nothing after it changed the table.
    have latest : mid.snapshotRefs = tableOf read := by
      rw [rest.snapshotRefs_quiet since, (handleAction_step step).1.table.of_read took]
    rw [← latest]
    exact Prog.wp_iff.1 (handleAction_resolves gives mid) _ _ _ use

/--
After the first snapshot numbered the button `1`, `click 1` counts and clicks by the button's role
and name, the entry of the latest table.
-/
theorem serialRun_resolvesLatest_button :
    Resolves (tableOf (.ok buttonPage)) 1 clickButton.answers clickButton.outcome := by
  have run : SerialRun (Session.initial 0) [firstSnapshot, clickButton] _ :=
    .cons (Prog.replay_runs rfl) (.cons (Prog.replay_runs rfl) (.nil _))
  cases run with
  | cons first rest =>
    cases rest with
    | cons click _ =>
      exact serialRun_resolvesLatest (.cons first (.nil _)) rfl (fun _ none => nomatch none)
        (show GivesRef clickButton.request 1 from .inl ⟨rfl, rfl⟩) click

/-- A second `snapshot` of the same tab, now showing `linkPage`. -/
def secondSnapshot : Handled where
  request := ⟨"snapshot", .array []⟩
  answers := [.query .time 2, .query (.isConnected ⟨2⟩) true,
    .call (.accessibilitySnapshot ⟨4⟩) (.ok linkPage), .query (.url ⟨4⟩) "https://example.com/home",
    .call (.title ⟨4⟩) (.ok "Home")]
  outcome := .ok (.success "Page: Home\nURL: https://example.com/home\n---\n[1] link \"Home\"")

/-- `click 1` after the second snapshot: reference 1 is now the link. -/
def clickLink : Handled where
  request := ⟨"click", .array [.string "1"]⟩
  answers := [.query .time 3, .query (.isConnected ⟨2⟩) true,
    .call (.count (.byRole ⟨4⟩ "link" "Home" false)) (.ok 1),
    .call (.click (.byRole ⟨4⟩ "link" "Home" false) 5000) (.ok ()),
    .call (.waitForTimeout ⟨4⟩ 500) (.ok ()), .call (.accessibilitySnapshot ⟨4⟩) (.ok linkPage),
    .query (.url ⟨4⟩) "https://example.com/home", .call (.title ⟨4⟩) (.ok "Home")]
  outcome := .ok (.success
    "Clicked [1].\n\nPage: Home\nURL: https://example.com/home\n---\n[1] link \"Home\"")

/--
Reference 1, issued by the first snapshot for the button, is not refused as stale after a second
snapshot: it is resolved to the link the second snapshot numbered 1.
-/
theorem staleRef_resolvedByNewerSnapshot :
    ∃ final, SerialRun (Session.initial 0) [firstSnapshot, secondSnapshot, clickLink] final ∧
      snapshotReads firstSnapshot.answers = [.ok buttonPage] ∧
      refEntry (tableOf (.ok buttonPage)) 1 = some ⟨"button", "Go"⟩ ∧
      snapshotReads secondSnapshot.answers = [.ok linkPage] ∧
      GivesRef clickLink.request 1 ∧
      clickLink.outcome ≠ .ok (.failure (staleRefError 1)) ∧
      locators clickLink.answers =
        [.byRole ⟨4⟩ "link" "Home" false, .byRole ⟨4⟩ "link" "Home" false] := by
  refine ⟨_, .cons (Prog.replay_runs rfl) (.cons (Prog.replay_runs rfl)
    (.cons (Prog.replay_runs rfl) (.nil _))), rfl, rfl, rfl, .inl ⟨rfl, rfl⟩,
    fun refused => ?_, rfl⟩
  cases refused

end Moxxy
