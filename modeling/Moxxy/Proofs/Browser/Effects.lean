import Moxxy.Proofs.Browser.Specs

/-!
What each branch of `handle_action` does to the globals: the table, the tabs, and the trees it
reads.
-/

namespace Moxxy

/--
How a call leaves the table: untouched with no tree read, or, on success, replaced by the table
of the one tree it read.
-/
def TableStep (s : Session) (tr : List Answer) (o : Except PyException Response) (s' : Session) :
    Prop :=
  (snapshotReads tr = [] ∧ s'.snapshotRefs = s.snapshotRefs) ∨
    ∃ read result, snapshotReads tr = [read] ∧ s'.snapshotRefs = tableOf read ∧
      o = .ok (.success result)

/-- The tabs as `get_current_page` leaves them. -/
def Opens (s s' : Session) : Prop := OpensTab s s'.pages s'.currentTab

/--
The tabs as `close` leaves them: with no current tab nothing changes; otherwise the current tab
is popped from `pages` and the last one left, if any, made current.
-/
def ClosesTab (s s' : Session) : Prop :=
  match s.currentTab.bind s.pages.pop with
  | none => s'.pages = s.pages ∧ s'.currentTab = s.currentTab
  | some (_, rest) => s'.pages = rest ∧ s'.currentTab = rest.keys.getLast?

/-- What one branch may do: the table as `TableStep` says, and the tabs as `moves` says. -/
structure Effect (moves : Session → Session → Prop) (s : Session) (tr : List Answer)
    (o : Except PyException Response) (s' : Session) : Prop where
  table : TableStep s tr o s'
  tabs : moves s s'

/--
What the rest of a branch may do once it has its page: the table as `TableStep` says, and nothing to
the tabs.
-/
structure Kept (s : Session) (tr : List Answer) (o : Except PyException Response) (s' : Session) :
    Prop where
  table : TableStep s tr o s'
  pages : s'.pages = s.pages
  currentTab : s'.currentTab = s.currentTab

/-- A branch that snapshots read a tree whenever it succeeded. -/
def Snapshotted (reads : List (Except String AxNode)) (o : Except PyException Response) : Prop :=
  ∀ result, o = .ok (.success result) → reads ≠ []

/-- An end that read no tree and wrote no global. -/
theorem Kept.quiet {s : Session} {tr : List Answer} {o : Except PyException Response}
    (quiet : snapshotReads tr = []) : Kept s tr o s :=
  ⟨.inl ⟨quiet, rfl⟩, rfl, rfl⟩

/-- A success right after `take_snapshot`: the table is the one of the tree just read. -/
theorem Kept.snapshot {s : Session} {tr : List Answer} {read : Except String AxNode}
    {result : String} (reads : snapshotReads tr = [read]) :
    Kept s tr (.ok (.success result)) { s with snapshotRefs := tableOf read } :=
  ⟨.inr ⟨read, result, reads, rfl, rfl⟩, rfl, rfl⟩

/-- A raise caught into a failure: no success, so the table was left as it was. -/
theorem Kept.caught {s s' : Session} {tr : List Answer} {exception : PyException} {message : String}
    (kept : Kept s tr (.error exception) s') : Kept s tr (.ok (.failure message)) s' := by
  obtain ⟨table | ⟨_, _, _, _, never⟩, pages, tab⟩ := kept
  · -- A table left alone stays so.
    exact ⟨.inl table, pages, tab⟩
  · -- The table is replaced only on a success, and this was a raise.
    cases never

/-- A branch that ends before its first await: nothing read and nothing changed. -/
theorem Effect.stay {s : Session} {o : Except PyException Response} : Effect Opens s [] o s :=
  ⟨.inl ⟨rfl, rfl⟩, .inl ⟨rfl, rfl⟩⟩

/--
Opening the branch with `get_current_page`: what the rest keeps, the whole branch does, and a
property of the reads and the outcome that the rest has, and that holds when `get_current_page`
raises, carries over.
-/
theorem getCurrentPage_bind {k : Page → Prog Response} {s : Session}
    (extra : List (Except String AxNode) → Except PyException Response → Prop)
    (raised : ∀ exception, extra [] (.error exception))
    (rest : ∀ s₁ page, OpensTab s s₁.pages s₁.currentTab → s₁.snapshotRefs = s.snapshotRefs →
      (k page).wp (fun tr o s' => Kept s₁ tr o s' ∧ extra (snapshotReads tr) o) s₁) :
    (getCurrentPage >>= k).wp
      (fun tr o s' => Effect Opens s tr o s' ∧ extra (snapshotReads tr) o) s := by
  rw [Prog.wp_bind]
  apply getCurrentPage_spec
  intro tr o browser playwright pages tab reads _ opens _ _
  cases o with
  -- `get_current_page` raised: the tabs as it left them, and nothing read.
  | error exception => exact ⟨⟨.inl ⟨reads, rfl⟩, opens⟩, by rw [reads]; exact raised exception⟩
  | ok page =>
    -- The page is found without reading a tree, so the rest's reads are the branch's.
    refine Prog.wp_mono (rest _ page opens rfl) fun tr' o s' ⟨kept, more⟩ => ⟨⟨?_, ?_⟩, ?_⟩
    · simpa [TableStep, reads] using kept.table
    · exact show OpensTab _ _ _ by rw [kept.pages, kept.currentTab]; exact opens
    · simpa [reads] using more

/--
`navigate`: it snapshots after the page has loaded and settled, and fails or raises with nothing
read otherwise.
-/
theorem navigateAction_effect (args : Json) (s : Session) :
    (navigateAction args).wp
      (fun tr o s' => Effect Opens s tr o s' ∧ Snapshotted (snapshotReads tr) o) s := by
  unfold navigateAction
  split
  · -- Empty arguments: the failure, before any call.
    exact ⟨.stay, by simp [Snapshotted]⟩
  rw [Prog.wp_ofExcept_bind]
  cases navigateUrl args with
  -- A URL that cannot be read raises before any call.
  | error raised => exact ⟨.stay, by simp [Snapshotted]⟩
  | ok url =>
    apply getCurrentPage_bind Snapshotted (by simp [Snapshotted])
    intro s₁ page _ _
    simp only [Prog.wp_bind, Prog.wp_attempt, await, Prog.wp_call, forall_except, Prog.wp_pure,
      Prog.wp_pure_node, Prog.wp_raise]
    -- The load raises, settling raises, or both went through and the page is snapshotted.
    refine ⟨fun _ => ?_, fun _ => ⟨fun _ => ?_, fun _ => ?_⟩⟩
    iterate 2
      exact ⟨.quiet (by simp [snapshotReads]), by simp [Snapshotted]⟩
    · apply takeSnapshot_spec
      intro tr read text reads _
      exact ⟨.snapshot (by simp [snapshotReads, reads]),
        by simp [Snapshotted, snapshotReads, reads]⟩

/-- `snapshot`: it always snapshots once it has its page. -/
theorem snapshotAction_effect (s : Session) :
    snapshotAction.wp
      (fun tr o s' => Effect Opens s tr o s' ∧ Snapshotted (snapshotReads tr) o) s := by
  apply getCurrentPage_bind Snapshotted (by simp [Snapshotted])
  intro s₁ page _ _
  rw [Prog.wp_bind]
  apply takeSnapshot_spec
  intro tr read text reads _
  simp only [Prog.wp_pure, List.append_nil]
  exact ⟨.snapshot reads, by simp [Snapshotted, reads]⟩

/--
`click`: it snapshots after a click that went through, and fails or raises with nothing read
otherwise.
-/
theorem clickAction_effect (args : Json) (s : Session) :
    (clickAction args).wp
      (fun tr o s' => Effect Opens s tr o s' ∧ Snapshotted (snapshotReads tr) o) s := by
  unfold clickAction
  split
  · -- Empty arguments: the failure, before any call.
    exact ⟨.stay, by simp [Snapshotted]⟩
  rw [Prog.wp_ofExcept_bind]
  -- The reference raises, is refused, or is read.
  rcases readRef args with raised | invalid | ref
  · exact ⟨.stay, by simp [Snapshotted]⟩
  · exact ⟨.stay, by simp [Snapshotted]⟩
  apply getCurrentPage_bind Snapshotted (by simp [Snapshotted])
  intro s₁ page _ _
  rw [Prog.wp_bind]
  apply findElementByRef_spec
  intro tr found reads _ _
  cases found with
  -- No element for the reference: the failure, with no tree read.
  | error err => exact ⟨.quiet (by simp [reads]), by simp [Snapshotted]⟩
  | ok locator =>
    simp only [Prog.wp_bind, Prog.wp_attempt, await, Prog.wp_call, forall_except, Prog.wp_pure,
      Prog.wp_pure_node, Prog.wp_raise]
    -- The click raises, settling raises, or both went through and the page is snapshotted.
    refine ⟨fun _ => ?_, fun _ => ⟨fun _ => ?_, fun _ => ?_⟩⟩
    iterate 2
      exact ⟨.quiet (by simp [snapshotReads, reads]), by simp [Snapshotted]⟩
    · apply takeSnapshot_spec
      intro tr' read text reads' _
      exact ⟨.snapshot (by simp [snapshotReads, reads, reads']),
        by simp [Snapshotted, snapshotReads, reads, reads']⟩

/-- `type`: it fills or types into the element without reading a tree. -/
theorem typeAction_effect (args : Json) (s : Session) :
    (typeAction args).wp (fun tr o s' => Effect Opens s tr o s' ∧ snapshotReads tr = []) s := by
  unfold typeAction
  rw [Prog.wp_ofExcept_bind]
  cases args.pyLen with
  -- Arguments with no length raise before any call.
  | error raised => exact ⟨.stay, rfl⟩
  | ok count =>
    dsimp only
    split
    · -- Fewer than two arguments: the failure, before any call.
      exact ⟨.stay, rfl⟩
    rw [Prog.wp_ofExcept_bind]
    -- The reference raises, is refused, or is read.
    rcases readRef args with raised | invalid | ref
    · exact ⟨.stay, rfl⟩
    · exact ⟨.stay, rfl⟩
    dsimp only
    rw [Prog.wp_ofExcept_bind]
    cases args.getItem 1 with
    -- The text cannot be read: a raise before any call.
    | error raised => exact ⟨.stay, rfl⟩
    | ok text =>
      apply getCurrentPage_bind (fun reads _ => reads = []) (fun _ => rfl)
      intro s₁ page _ _
      rw [Prog.wp_bind]
      apply findElementByRef_spec
      intro tr found reads _ _
      cases found with
      -- No element for the reference: the failure, with no tree read.
      | error err => exact ⟨.quiet (by simp [reads]), by simp [reads]⟩
      | ok locator =>
        simp only [Prog.wp_bind, Prog.wp_attempt, await, Prog.wp_call, forall_except,
          Prog.wp_pure, Prog.wp_pure_node, Prog.wp_raise]
        -- Filling or typing, and settling, each raise or go through; none reads a tree.
        refine ⟨fun _ => ⟨fun _ => ?_, fun _ => ⟨fun _ => ?_, fun _ => ?_⟩⟩, fun _ => ?_⟩ <;>
          exact ⟨.quiet (by simp [snapshotReads, reads]), by simp [snapshotReads, reads]⟩

/-- `screenshot`: it saves the viewport without reading a tree. -/
theorem screenshotAction_effect (s : Session) :
    screenshotAction.wp (fun tr o s' => Effect Opens s tr o s' ∧ snapshotReads tr = []) s := by
  apply getCurrentPage_bind (fun reads _ => reads = []) (fun _ => rfl)
  intro s₁ page _ _
  simp only [Prog.wp_bind, Prog.wp_attempt, await, Prog.wp_call, forall_except, Prog.wp_pure,
    Prog.wp_pure_node, Prog.wp_raise, wp_ask]
  intro tmp
  -- The screenshot raises or is saved; neither reads a tree.
  refine ⟨fun _ => ?_, fun _ => ?_⟩ <;>
    exact ⟨.quiet (by simp [snapshotReads]), by simp [snapshotReads]⟩

/-- `evaluate`: it runs the script without reading a tree. -/
theorem evaluateAction_effect (args : Json) (s : Session) :
    (evaluateAction args).wp (fun tr o s' => Effect Opens s tr o s' ∧ snapshotReads tr = []) s := by
  unfold evaluateAction
  split
  · -- Empty arguments: the failure, before any call.
    exact ⟨.stay, rfl⟩
  rw [Prog.wp_ofExcept_bind]
  cases args.getItem 0 with
  -- The script cannot be read: a raise before any call.
  | error raised => exact ⟨.stay, rfl⟩
  | ok code =>
    apply getCurrentPage_bind (fun reads _ => reads = []) (fun _ => rfl)
    intro s₁ page _ _
    simp only [Prog.wp_bind, Prog.wp_attempt, await, Prog.wp_call, forall_except, Prog.wp_pure,
      Prog.wp_pure_node, Prog.wp_raise]
    -- The script raises in the page or returns; neither reads a tree.
    refine ⟨fun _ => ?_, fun _ => ?_⟩ <;>
      exact ⟨.quiet (by simp [snapshotReads]), by simp [snapshotReads]⟩

/-- `wait`: it sleeps without reading a tree; a driver error is raised, not caught. -/
theorem waitAction_effect (args : Json) (s : Session) :
    (waitAction args).wp (fun tr o s' => Effect Opens s tr o s' ∧ snapshotReads tr = []) s := by
  unfold waitAction
  rw [Prog.wp_ofExcept_bind]
  cases waitMs args with
  -- The time cannot be read: a raise before any call.
  | error raised => exact ⟨.stay, rfl⟩
  | ok ms =>
    apply getCurrentPage_bind (fun reads _ => reads = []) (fun _ => rfl)
    intro s₁ page _ _
    simp only [Prog.wp_bind, await, Prog.wp_call, forall_except, Prog.wp_pure, Prog.wp_pure_node,
      Prog.wp_raise]
    -- The sleep raises or returns; neither reads a tree.
    refine ⟨fun _ => ?_, fun _ => ?_⟩ <;>
      exact ⟨.quiet (by simp [snapshotReads]), by simp [snapshotReads]⟩

/--
`back` and `forward`: they snapshot after the move went through, and fail with nothing read
otherwise.
-/
theorem historyAction_effect {move : Page → Nat → Call} (moved failed : String) (s : Session)
    (moves : ∀ page timeout reply rest,
      snapshotReads (.call (move page timeout) reply :: rest) = snapshotReads rest) :
    (historyAction move moved failed).wp
      (fun tr o s' => Effect Opens s tr o s' ∧ Snapshotted (snapshotReads tr) o) s := by
  apply getCurrentPage_bind Snapshotted (by simp [Snapshotted])
  intro s₁ page _ _
  simp only [Prog.wp_bind, Prog.wp_attempt, await, Prog.wp_call, forall_except, Prog.wp_pure,
    Prog.wp_pure_node, Prog.wp_raise]
  -- The move raises, settling raises, or both went through and the page is snapshotted.
  refine ⟨fun _ => ?_, fun _ => ⟨fun _ => ?_, fun _ => ?_⟩⟩
  iterate 2
    exact ⟨.quiet (by simp [moves, snapshotReads]), by simp [Snapshotted]⟩
  · apply takeSnapshot_spec
    intro tr read text reads _
    exact ⟨.snapshot (by simp [moves, snapshotReads, reads]),
      by simp [Snapshotted, moves, snapshotReads, reads]⟩

/-- `back`. -/
theorem backAction_effect (s : Session) :
    backAction.wp (fun tr o s' => Effect Opens s tr o s' ∧ Snapshotted (snapshotReads tr) o) s :=
  historyAction_effect _ _ s fun _ _ _ _ => rfl

/-- `forward`. -/
theorem forwardAction_effect (s : Session) :
    forwardAction.wp (fun tr o s' => Effect Opens s tr o s' ∧ Snapshotted (snapshotReads tr) o) s :=
  historyAction_effect _ _ s fun _ _ _ _ => rfl

/-- The end of `scroll`'s `try`, after answers that read no tree: it snapshots when it succeeds. -/
theorem scrolled_effect (page : Page) (shown : String) (s : Session) (pre : List Answer)
    (quiet : snapshotReads pre = []) :
    (scrolled page shown).wp
      (fun tr o s' => Kept s (pre ++ tr) o s' ∧ Snapshotted (snapshotReads (pre ++ tr)) o) s := by
  simp only [scrolled, Prog.wp_bind, await, Prog.wp_call, forall_except, Prog.wp_pure,
    Prog.wp_pure_node, Prog.wp_raise]
  -- Settling raises, or it went through and the page is snapshotted.
  refine ⟨fun _ => ⟨.quiet (by simp [snapshotReads, quiet]), by simp [Snapshotted]⟩, fun _ => ?_⟩
  apply takeSnapshot_spec
  intro tr read text reads _
  exact ⟨.snapshot (by simp [snapshotReads, quiet, reads]),
    by simp [Snapshotted, snapshotReads, quiet, reads]⟩

/-- The inside of `scroll`'s `try`: it snapshots exactly when it succeeds. -/
theorem scrollBody_effect (page : Page) (direction : Json) (s : Session) :
    (scrollBody page direction).wp
      (fun tr o s' => Kept s tr o s' ∧ Snapshotted (snapshotReads tr) o) s := by
  simp only [scrollBody, Prog.wp_bind]
  cases namedDirection direction with
  | some named =>
    -- A named direction runs its script, then settles and snapshots.
    obtain ⟨name, script⟩ := named
    simp only [await, Prog.wp_call, forall_except, Prog.wp_pure, Prog.wp_pure_node, Prog.wp_raise,
      Prog.wp_bind]
    exact ⟨fun _ => ⟨.quiet (by simp [snapshotReads]), by simp [Snapshotted]⟩,
      fun reply => scrolled_effect page name s [.call _ (.ok reply)] rfl⟩
  | none =>
    -- Any other direction is a reference, resolved as `click` resolves it.
    cases direction.readInt with
    -- A reference that is not a number leaves the body at once.
    | invalid shown => exact ⟨.quiet rfl, by simp [Snapshotted]⟩
    | raises raised => exact ⟨.quiet rfl, by simp [Snapshotted]⟩
    | value ref shown =>
      simp only [Prog.wp_bind]
      apply findElementByRef_spec
      intro pre found quiet _ _
      cases found with
      -- No element for the reference: the failure, with no tree read.
      | error err => exact ⟨.quiet (by simp [quiet]), by simp [Snapshotted]⟩
      | ok locator =>
        simp only [await, Prog.wp_call, forall_except, Prog.wp_pure, Prog.wp_pure_node,
          Prog.wp_raise, Prog.wp_bind]
        refine ⟨fun _ => ⟨.quiet (by simp [snapshotReads, quiet]), by simp [Snapshotted]⟩,
          fun reply => ?_⟩
        refine Prog.wp_mono (scrolled_effect page shown s
          (pre ++ [.call (.scrollIntoViewIfNeeded locator 5000) (.ok reply)])
          (by simp [snapshotReads, quiet])) fun tr o s' scrolled => ?_
        simpa using scrolled

/-- `scroll`: its `try` catches what the inside raises into a failure. -/
theorem scrollAction_effect (args : Json) (s : Session) :
    (scrollAction args).wp
      (fun tr o s' => Effect Opens s tr o s' ∧ Snapshotted (snapshotReads tr) o) s := by
  unfold scrollAction
  rw [Prog.wp_ofExcept_bind]
  cases scrollDirection args with
  -- The direction cannot be read: a raise before any call.
  | error raised => exact ⟨.stay, by simp [Snapshotted]⟩
  | ok direction =>
    apply getCurrentPage_bind Snapshotted (by simp [Snapshotted])
    intro s₁ page _ _
    simp only [Prog.wp_bind, Prog.wp_attempt]
    refine Prog.wp_mono (scrollBody_effect page _ s₁) fun tr o s' ⟨kept, snapshotted⟩ => ?_
    cases o with
    -- The body returned: its own response.
    | ok response => simpa using ⟨kept, snapshotted⟩
    -- The body raised: the failure, with the table as the body left it.
    | error raised => exact ⟨by simpa using kept.caught, by simp [Snapshotted]⟩

/-- A line of `tabs` reads a title and a URL only: no tree, and no global written. -/
theorem tabLine_quiet (found : Session) (index tab : Nat) (page : Page) (s : Session) :
    (tabLine found index tab page).wp (fun tr _ s' => s' = s ∧ snapshotReads tr = []) s := by
  simp only [tabLine, Prog.wp_bind, Prog.wp_attempt, await, Prog.wp_call, forall_except,
    Prog.wp_pure, Prog.wp_pure_node, Prog.wp_raise, wp_ask]
  exact ⟨fun _ => by simp [snapshotReads], fun _ _ => by simp [snapshotReads]⟩

/-- The end of the loop reads nothing. -/
theorem tabsEnd_quiet (step : IterStep Nat Page) (s : Session) :
    (tabsEnd step).wp (fun tr _ s' => s' = s ∧ snapshotReads tr = []) s := by
  cases step <;> simp [tabsEnd]

/-- The loop of `tabs` reads titles and URLs only: it reads no tree and writes no global. -/
theorem tabLines_quiet (used remaining pos index : Nat) (s : Session) :
    (tabLines used remaining pos index).wp (fun tr _ s' => s' = s ∧ snapshotReads tr = []) s := by
  induction remaining generalizing pos index with
  -- No slot left: the end of the loop.
  | zero => exact tabsEnd_quiet _ s
  | succ remaining ih =>
    rw [tabLines]
    simp only [Prog.wp_bind, wp_getSession]
    split
    · -- A line, then the rest of the loop from the next slot.
      rw [Prog.wp_bind]
      refine Prog.wp_mono (tabLine_quiet _ _ _ _ s) fun tr o s' ⟨same, quiet⟩ => ?_
      subst same
      cases o with
      -- The title raised: the loop ends there.
      | error raised => simp [quiet]
      | ok line =>
        dsimp only
        rw [Prog.wp_bind]
        refine Prog.wp_mono (ih _ _) fun tr' o s' ⟨same, quiet'⟩ => ?_
        cases o <;> simp [same, quiet, quiet']
    · -- The slot holds no tab: the end of the loop.
      exact tabsEnd_quiet _ s

/-- `tabs`: it lists the tabs and changes nothing. -/
theorem tabsAction_effect (s : Session) :
    tabsAction.wp (fun tr o s' => Effect Opens s tr o s' ∧ snapshotReads tr = []) s := by
  simp only [tabsAction, Prog.wp_bind, wp_getSession]
  refine Prog.wp_mono (tabLines_quiet _ _ _ 0 s) fun tr o s' ⟨same, quiet⟩ => ?_
  subst same
  cases o <;> simpa [quiet] using ⟨.inl ⟨quiet, rfl⟩, .inl ⟨rfl, rfl⟩⟩

/-- A `close` that closes the current tab and leaves another one. -/
def ClosesLeaving (s : Session) : Prop :=
  ∃ page rest, s.currentTab.bind s.pages.pop = some (page, rest) ∧ rest.entries ≠ []

/--
`close`: it pops the current tab and makes the last one left current; it snapshots when a tab is
left, and reads nothing otherwise.
-/
theorem closeAction_effect (s : Session) :
    closeAction.wp (fun tr o s' => Effect ClosesTab s tr o s' ∧
      (ClosesLeaving s → Snapshotted (snapshotReads tr) o) ∧
      (¬ClosesLeaving s → snapshotReads tr = [])) s := by
  simp only [closeAction, Prog.wp_bind, wp_getSession]
  cases popped : s.currentTab.bind s.pages.pop with
  | none =>
    -- No current tab to close: nothing changes.
    exact ⟨⟨.inl ⟨rfl, rfl⟩, by simp [ClosesTab, popped]⟩, by simp [ClosesLeaving, popped]⟩
  | some closed =>
    obtain ⟨page, rest⟩ := closed
    simp only [Prog.wp_bind, Prog.wp_attempt, await, Prog.wp_call, forall_except, Prog.wp_pure,
      Prog.wp_pure_node, Prog.wp_raise, wp_modifySession, wp_getSession, List.nil_append,
      List.singleton_append]
    have leaving : ClosesLeaving s ↔ rest.entries ≠ [] := by
      refine ⟨fun ⟨_, _, again, filled⟩ => ?_, fun filled => ⟨page, rest, popped, filled⟩⟩
      rw [popped] at again
      cases again
      exact filled
    -- Closing the page may raise or not; the tabs are switched the same way after it.
    refine ⟨fun _ => ?_, fun _ => ?_⟩
    all_goals
      cases last : rest.keys.getLast? with
      | none =>
        -- No tab is left: none is current, and nothing is read.
        have empty : rest.entries = [] := by simpa [PyDict.keys] using last
        refine ⟨⟨.inl ⟨by simp [snapshotReads], rfl⟩, by simp [ClosesTab, popped, last]⟩,
          by simp [leaving, empty, snapshotReads]⟩
      | some last =>
        -- The last tab left becomes current and is snapshotted.
        obtain ⟨next, found⟩ := PyDict.get?_of_mem_keys (List.mem_of_mem_getLast? last)
        simp only [currentPage, found, Prog.wp_pure_node, Prog.wp_bind, wp_modifySession,
          wp_getSession]
        apply takeSnapshot_spec
        intro tr read text reads _
        have filled : rest.entries ≠ [] := by
          intro empty
          simp [PyDict.keys, empty] at last
        exact ⟨⟨.inr ⟨read, _, by simp [snapshotReads, reads], rfl, rfl⟩,
            by simp [ClosesTab, popped, last]⟩,
          by simp [leaving, filled, Snapshotted, snapshotReads, reads]⟩

/-- The actions whose success always comes with a snapshot. -/
def snapshotActions : List String := ["navigate", "snapshot", "click", "scroll", "back", "forward"]

/-- Whether a call of `action` from `s` snapshots when it succeeds. -/
def Snapshots (action : String) (s : Session) : Prop :=
  action ∈ snapshotActions ∨ (action = "close" ∧ ClosesLeaving s)

/-- An action outside the six that is not `close` does not snapshot. -/
theorem not_snapshots {action : String} {s : Session} (unlisted : action ∉ snapshotActions)
    (other : action ≠ "close") : ¬Snapshots action s
  | .inl listed => unlisted listed
  | .inr ⟨closing, _⟩ => other closing

/-- The tabs as a call of `action` leaves them: `close` closes, every other action opens. -/
def TabStep (action : String) (s s' : Session) : Prop :=
  (action = "close" → ClosesTab s s') ∧ (action ≠ "close" → Opens s s')

/-- A branch other than `close` moves the tabs as its action does. -/
theorem Effect.opens {action : String} {s s' : Session} {tr : List Answer}
    {o : Except PyException Response} (effect : Effect Opens s tr o s') (other : action ≠ "close") :
    Effect (TabStep action) s tr o s' :=
  ⟨effect.table, fun closing => (other closing).elim, fun _ => effect.tabs⟩

/-- `reset_idle` only sets the clock, which no effect reads. -/
theorem Effect.clock {action : String} {s s' : Session} {now : Nat} {tr : List Answer}
    {o : Except PyException Response}
    (effect : Effect (TabStep action) { s with lastActivity := now } tr o s') :
    Effect (TabStep action) s (.query .time now :: tr) o s' :=
  ⟨effect.table, effect.tabs⟩

section Branches

variable {action : String} {s s' : Session} {now : Nat} {tr : List Answer}
  {o : Except PyException Response}

/-- A branch of one of the six snapshotting actions does what the call does. -/
private theorem callEffect_of_snapshotting (listed : action ∈ snapshotActions)
    (effect : Effect Opens { s with lastActivity := now } tr o s')
    (snapshotted : Snapshotted (snapshotReads tr) o) :
    Effect (TabStep action) s (.query .time now :: tr) o s' ∧
      (Snapshots action s → Snapshotted (snapshotReads (.query .time now :: tr)) o) ∧
      (¬Snapshots action s → snapshotReads (.query .time now :: tr) = []) :=
  ⟨(effect.opens (by rintro rfl; exact absurd listed (by decide))).clock, fun _ => snapshotted,
    fun no => (no (.inl listed)).elim⟩

/-- A branch of an action that neither snapshots nor closes does what the call does. -/
private theorem callEffect_of_quiet (unlisted : action ∉ snapshotActions) (other : action ≠ "close")
    (effect : Effect Opens { s with lastActivity := now } tr o s') (quiet : snapshotReads tr = []) :
    Effect (TabStep action) s (.query .time now :: tr) o s' ∧
      (Snapshots action s → Snapshotted (snapshotReads (.query .time now :: tr)) o) ∧
      (¬Snapshots action s → snapshotReads (.query .time now :: tr) = []) :=
  ⟨(effect.opens other).clock, fun yes => (not_snapshots unlisted other yes).elim, fun _ => quiet⟩

end Branches

/--
Every call of `handle_action`: the table changes as `TableStep` allows and the tabs as its
action's `TabStep`; a call that `Snapshots` read a tree whenever it succeeded, and any other call
read none.
-/
theorem handleAction_effect (action : String) (args : Json) (s : Session) :
    (handleAction action args).wp (fun tr o s' => Effect (TabStep action) s tr o s' ∧
      (Snapshots action s → Snapshotted (snapshotReads tr) o) ∧
      (¬Snapshots action s → snapshotReads tr = [])) s := by
  simp only [handleAction, Prog.wp_bind, wp_resetIdle, List.singleton_append]
  intro now
  -- The `if` chain in the source's order: the six snapshotting actions go through
  -- `callEffect_of_snapshotting`, the quiet ones through `callEffect_of_quiet`, and `close` on
  -- its own.
  by_cases navigate : action = "navigate"
  · subst navigate
    rw [if_pos rfl]
    exact Prog.wp_mono (navigateAction_effect args _) fun _ _ _ ⟨effect, snapshotted⟩ =>
      callEffect_of_snapshotting (by decide) effect snapshotted
  rw [if_neg navigate]
  by_cases snapshot : action = "snapshot"
  · subst snapshot
    rw [if_pos rfl]
    exact Prog.wp_mono (snapshotAction_effect _) fun _ _ _ ⟨effect, snapshotted⟩ =>
      callEffect_of_snapshotting (by decide) effect snapshotted
  rw [if_neg snapshot]
  by_cases click : action = "click"
  · subst click
    rw [if_pos rfl]
    exact Prog.wp_mono (clickAction_effect args _) fun _ _ _ ⟨effect, snapshotted⟩ =>
      callEffect_of_snapshotting (by decide) effect snapshotted
  rw [if_neg click]
  by_cases type : action = "type"
  · subst type
    rw [if_pos rfl]
    exact Prog.wp_mono (typeAction_effect args _) fun _ _ _ ⟨effect, quiet⟩ =>
      callEffect_of_quiet (by decide) (by decide) effect quiet
  rw [if_neg type]
  by_cases screenshot : action = "screenshot"
  · subst screenshot
    rw [if_pos rfl]
    exact Prog.wp_mono (screenshotAction_effect _) fun _ _ _ ⟨effect, quiet⟩ =>
      callEffect_of_quiet (by decide) (by decide) effect quiet
  rw [if_neg screenshot]
  by_cases scroll : action = "scroll"
  · subst scroll
    rw [if_pos rfl]
    exact Prog.wp_mono (scrollAction_effect args _) fun _ _ _ ⟨effect, snapshotted⟩ =>
      callEffect_of_snapshotting (by decide) effect snapshotted
  rw [if_neg scroll]
  by_cases evaluate : action = "evaluate"
  · subst evaluate
    rw [if_pos rfl]
    exact Prog.wp_mono (evaluateAction_effect args _) fun _ _ _ ⟨effect, quiet⟩ =>
      callEffect_of_quiet (by decide) (by decide) effect quiet
  rw [if_neg evaluate]
  by_cases back : action = "back"
  · subst back
    rw [if_pos rfl]
    exact Prog.wp_mono (backAction_effect _) fun _ _ _ ⟨effect, snapshotted⟩ =>
      callEffect_of_snapshotting (by decide) effect snapshotted
  rw [if_neg back]
  by_cases forward : action = "forward"
  · subst forward
    rw [if_pos rfl]
    exact Prog.wp_mono (forwardAction_effect _) fun _ _ _ ⟨effect, snapshotted⟩ =>
      callEffect_of_snapshotting (by decide) effect snapshotted
  rw [if_neg forward]
  by_cases tabs : action = "tabs"
  · subst tabs
    rw [if_pos rfl]
    exact Prog.wp_mono (tabsAction_effect _) fun _ _ _ ⟨effect, quiet⟩ =>
      callEffect_of_quiet (by decide) (by decide) effect quiet
  rw [if_neg tabs]
  by_cases close : action = "close"
  · subst close
    rw [if_pos rfl]
    exact Prog.wp_mono (closeAction_effect _) fun tr o s' ⟨effect, leaving, staying⟩ =>
      ⟨Effect.clock ⟨effect.table, fun _ => effect.tabs, fun other => (other rfl).elim⟩,
        fun yes => leaving (yes.resolve_left (by decide)).2,
        fun no => staying fun closes => no (.inr ⟨rfl, closes⟩)⟩
  rw [if_neg close]
  by_cases wait : action = "wait"
  · subst wait
    rw [if_pos rfl]
    exact Prog.wp_mono (waitAction_effect args _) fun _ _ _ ⟨effect, quiet⟩ =>
      callEffect_of_quiet (by decide) (by decide) effect quiet
  rw [if_neg wait]
  -- Any other action is refused without a driver call.
  exact ⟨⟨.inl ⟨rfl, rfl⟩, fun closing => (close closing).elim, fun _ => Or.inl ⟨rfl, rfl⟩⟩,
    fun yes => (not_snapshots (by simp [snapshotActions, *]) close yes).elim, fun _ => rfl⟩

end Moxxy
