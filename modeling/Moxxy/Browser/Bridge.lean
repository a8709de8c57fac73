import Moxxy.Browser.Session

/-!
The coroutines `handle_action` builds on: the browser and its current page, snapshots, element
lookup and cleanup.
-/

namespace Moxxy

/-- `reset_idle()`: `last_activity = time.time()`. -/
def resetIdle : Prog Unit := do
  let now : Nat ← ask .time
  modifySession fun s => { s with lastActivity := now }

/-- The flags `ensure_browser` launches Chromium with. -/
def launchArgs : List String := ["--no-sandbox", "--disable-blink-features=AutomationControlled"]

/--
The body of `ensure_browser`'s `if`: start playwright unless it runs, then launch Chromium and keep
it as `browser_instance`.
-/
def launchBrowser : Prog Unit := do
  if (← getSession).playwrightInstance.isNone then
    let playwright : Playwright ← await .start
    modifySession fun s => { s with playwrightInstance := some playwright }
  -- `playwright_instance.chromium` is read again once the start has been awaited.
  match (← getSession).playwrightInstance with
  | none => .raise (.attributeError "'NoneType' object has no attribute 'chromium'")
  | some playwright =>
    let browser : Browser ← await (.launch playwright true launchArgs)
    modifySession fun s => { s with browserInstance := some browser }

/--
`ensure_browser()`: launch a browser unless one is connected; the value is `browser_instance`.
-/
def ensureBrowser : Prog (Option Browser) := do
  let s ← getSession
  let connected ← match s.browserInstance with
    | none => pure false
    | some browser => (ask (.isConnected browser) : Prog Bool)
  if !connected then launchBrowser
  return (← getSession).browserInstance

/-- `pages[current_tab]`, with the KeyError Python raises for a missing key. -/
def currentPage (s : Session) : Prog Page :=
  match s.currentTab with
  | none => .raise (.keyError "None")
  | some tab =>
    match s.pages.get? tab with
    | some page => .pure page
    | none => .raise (.keyError (toString tab))

/-- `current_tab is None or current_tab not in pages`. -/
def tabMissing (s : Session) : Bool :=
  match s.currentTab with
  | none => true
  | some tab => !s.pages.contains tab

/--
`get_current_page()`: the current tab's page, first opening a tab in a new context if there is none.
-/
def getCurrentPage : Prog Page := do
  let browser ← ensureBrowser
  if tabMissing (← getSession) then
    match browser with
    | none => .raise (.attributeError "'NoneType' object has no attribute 'new_context'")
    | some browser =>
      let context : Context ← await (.newContext browser userAgent)
      let page : Page ← await (.newPage context)
      -- `pages[tab_id] = page` and `current_tab = tab_id`, with no await between them.
      modifySession fun s =>
        { s with pages := s.pages.set page.handle page, currentTab := some page.handle }
  currentPage (← getSession)

/--
`build_snapshot_text(tree, snapshot_refs)`: numbering into the global table, which keeps its new
entries even if the walk raises.
-/
def buildIntoRefs (tree : AxNode) : Prog String :=
  .read fun s =>
    let built := buildSnapshotText tree s.snapshotRefs 0
    .write { s with snapshotRefs := built.1 } <|
      match built.2 with
      | .ok text => .pure text
      | .error raised => .raise raised

/--
The part of `take_snapshot` inside its `try`: read the tree, number it, and add the page header.
-/
def snapshotText (page : Page) : Prog String := do
  let tree : AxNode ← await (.accessibilitySnapshot page)
  match tree with
  | .none => return "(empty page -- no accessibility tree)"
  | tree =>
    let text ← buildIntoRefs tree
    let url : String ← ask (.url page)
    let title : String ← await (.title page)
    let header := s!"Page: {title}\nURL: {url}\n---\n"
    return header ++ (if text.isEmpty then "(no interactive elements found)" else text)

/--
`take_snapshot(page)`: empty the table, then the numbered snapshot, or the error that stopped it.
-/
def takeSnapshot (page : Page) : Prog String := do
  modifySession fun s => { s with snapshotRefs := .empty }
  match ← (snapshotText page).attempt with
  | .ok snapshot => return snapshot
  | .error raised => return "Error taking snapshot: " ++ raised.str

/-- The table entry of a reference number: keys are positive, so a negative number has none. -/
def refEntry (refs : Refs) (ref : Int) : Option Descriptor :=
  if ref < 0 then none else refs.get? ref.toNat

/-- The stale-reference error of `find_element_by_ref`. -/
def staleRefError (ref : Int) : String :=
  s!"Ref [{ref}] not found. Take a new snapshot first."

/--
The part of `find_element_by_ref` inside its `try`: count the matches, preferring one exact match.
-/
def locateByRole (page : Page) (ref : Int) (role name : String) : Prog (Except String Locator) := do
  let locator := Locator.byRole page role name false
  let count : Nat ← await (.count locator)
  if count = 0 then
    return .error s!"Element [{ref}] ({role} \"{name}\") no longer found on page."
  if count > 1 then
    let exactLocator := Locator.byRole page role name true
    let exactCount : Nat ← await (.count exactLocator)
    if exactCount = 1 then return .ok exactLocator else return .ok (.first locator)
  return .ok locator

/--
`find_element_by_ref(page, ref)`: a locator for the table's descriptor of `ref`, or the error text.
-/
def findElementByRef (page : Page) (ref : Int) : Prog (Except String Locator) := do
  match refEntry (← getSession).snapshotRefs ref with
  | none => return .error (staleRefError ref)
  | some info =>
    match ← (locateByRole page ref info.role info.name).attempt with
    | .ok found => return found
    | .error raised => return .error (s!"Error finding element [{ref}]: " ++ raised.str)

/--
`cleanup()`: close the browser and stop playwright, ignoring their errors, and forget both handles.
-/
def cleanup : Prog Unit := do
  match (← getSession).browserInstance with
  | some browser =>
    let _ ← (await (.closeBrowser browser)).attempt
    modifySession fun s => { s with browserInstance := none }
  | none => pure ()
  match (← getSession).playwrightInstance with
  | some playwright =>
    let _ ← (await (.stop playwright)).attempt
    modifySession fun s => { s with playwrightInstance := none }
  | none => pure ()

end Moxxy
