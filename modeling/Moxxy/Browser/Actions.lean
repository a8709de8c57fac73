import Moxxy.Browser.Bridge

/-!
`handle_action`: the twelve actions of the bridge, one coroutine per branch, and serial runs of
requests.
-/

namespace Moxxy

/--
The dictionary `handle_action` returns: `{"success": True, "result": ...}` or `{"success": False,
"error": ...}`.
-/
inductive Response where
  | success (result : String)
  | failure (error : String)
  deriving DecidableEq, Repr

/-!
The arguments are the request's `args` as `json.loads` made it, read as Python reads any value:
`not args`, `args[0]`, `len(args)` and `int(...)`. What they raise before the first await leaves the
coroutine.
-/

/--
`url = args[0]`, with `https://` put before a text that starts with neither scheme; only a string
has `startswith`.
-/
def navigateUrl (args : Json) : Except PyException String := do
  match ← args.getItem 0 with
  | .string url =>
    return if !url.startsWith "http://" && !url.startsWith "https://" then "https://" ++ url
      else url
  | other =>
    let name := other.typeName
    throw (.attributeError s!"'{name}' object has no attribute 'startswith'")

/--
The `navigate` branch: load the URL, prefixing `https://` when it has no scheme, then snapshot.
-/
def navigateAction (args : Json) : Prog Response :=
  if !args.truthy then return .failure "navigate requires a URL"
  else do
    let url ← Prog.ofExcept (navigateUrl args)
    let page ← getCurrentPage
    match ← (do
        let _ ← await (.goto page url "domcontentloaded" 30000)
        await (.waitForTimeout page 1000) : Prog Unit).attempt with
    | .error raised => return .failure ("Navigation failed: " ++ raised.str)
    | .ok () =>
      let snapshot ← takeSnapshot page
      return .success snapshot

/-- The `snapshot` branch. -/
def snapshotAction : Prog Response := do
  let page ← getCurrentPage
  let snapshot ← takeSnapshot page
  return .success snapshot

/--
`try: ref = int(args[0]) except ValueError: ...`: the reference, or the `Invalid ref` error for a
value `int()` refuses with a ValueError; whatever else `args[0]` or `int()` raises escapes.
-/
def readRef (args : Json) : Except PyException (Except String Int) := do
  let arg ← args.getItem 0
  match arg.readInt with
  | .value ref _ => return .ok ref
  | .invalid shown => return .error s!"Invalid ref: {shown}"
  | .raises raised => throw raised

/-- The `click` branch: resolve the reference, click within 5 s, settle, and snapshot. -/
def clickAction (args : Json) : Prog Response :=
  if !args.truthy then return .failure "click requires a ref number"
  else do
    match ← Prog.ofExcept (readRef args) with
    | .error invalid => return .failure invalid
    | .ok ref =>
      let page ← getCurrentPage
      match ← findElementByRef page ref with
      | .error err => return .failure err
      | .ok locator =>
        match ← (do
            let _ ← await (.click locator 5000)
            let _ ← await (.waitForTimeout page 500)
            takeSnapshot page).attempt with
        | .ok snapshot => return .success s!"Clicked [{ref}].\n\n{snapshot}"
        | .error raised => return .failure ("Click failed: " ++ raised.str)

/--
The `type` branch: fill the field, or else click it and type key by key. Playwright takes only a
string to fill or type, so any other `args[1]` fails both ways.
-/
def typeAction (args : Json) : Prog Response := do
  let count ← Prog.ofExcept args.pyLen
  if count < 2 then return .failure "type requires ref and text"
  else
    match ← Prog.ofExcept (readRef args) with
    | .error invalid => return .failure invalid
    | .ok ref =>
      let text ← Prog.ofExcept (args.getItem 1)
      let page ← getCurrentPage
      match ← findElementByRef page ref with
      | .error err => return .failure err
      | .ok locator =>
        match ← (await (.fill locator text 5000)).attempt with
        | .ok filled =>
          let typed := text.acceptedText filled
          return .success s!"Typed \"{typed}\" into [{ref}]."
        | .error _ =>
          match ← (do
              let _ ← await (.click locator 3000)
              await (.keyboardType page text)).attempt with
          | .ok pressed =>
            let typed := text.acceptedText pressed
            return .success s!"Typed \"{typed}\" into [{ref}] (via keyboard)."
          | .error raised => return .failure ("Type failed: " ++ raised.str)

/-- The `screenshot` branch: save the viewport to a fresh temporary path. -/
def screenshotAction : Prog Response := do
  let page ← getCurrentPage
  match ← (do
      let tmp : String ← ask (.mktemp ".png" "moxxy_screenshot_")
      let _ ← await (.screenshot page tmp false)
      return tmp : Prog String).attempt with
  | .ok tmp => return .success s!"Screenshot saved to: {tmp}"
  | .error raised => return .failure ("Screenshot failed: " ++ raised.str)

/-- The scripts `scroll` runs for its four named directions. -/
def scrollScript (direction : String) : Option String :=
  if direction = "down" then some "window.scrollBy(0, window.innerHeight)"
  else if direction = "up" then some "window.scrollBy(0, -window.innerHeight)"
  else if direction = "top" then some "window.scrollTo(0, 0)"
  else if direction = "bottom" then some "window.scrollTo(0, document.body.scrollHeight)"
  else none

/-- A direction equal to one of the four texts, with its script; no other value equals a text. -/
def namedDirection : Json → Option (String × String)
  | .string direction => (scrollScript direction).map (direction, ·)
  | _ => none

/-- `direction = args[0] if args else "down"`. -/
def scrollDirection (args : Json) : Except PyException Json :=
  if args.truthy then args.getItem 0 else .ok (.string "down")

/-- The end of `scroll`'s `try` once the page has moved: settle, then snapshot. -/
def scrolled (page : Page) (shown : String) : Prog Response := do
  let _ ← await (.waitForTimeout page 300)
  let snapshot ← takeSnapshot page
  return .success s!"Scrolled {shown}.\n\n{snapshot}"

/--
The part of `scroll` inside its outer `try`, returning early from within it as the source does. On
the way it keeps `str(direction)` for the message.
-/
def scrollBody (page : Page) (direction : Json) : Prog Response := do
  let moved ← (match namedDirection direction with
    | some (name, script) => do
      let _ ← await (.evaluate page (.string script))
      pure (.ok name)
    | none =>
      -- Any other direction is tried as a reference: the inner `try` catches only `int()`'s
      -- ValueError, the outer one whatever else it raises.
      match direction.readInt with
      | .invalid shown => pure (.error (.failure s!"Unknown scroll direction: {shown}"))
      | .raises raised => .raise raised
      | .value ref shown => do
        match ← findElementByRef page ref with
        | .error err => pure (.error (.failure err))
        | .ok locator => do
          let _ ← await (.scrollIntoViewIfNeeded locator 5000)
          pure (.ok shown) : Prog (Except Response String))
  match moved with
  | .error response => return response
  | .ok shown => scrolled page shown

/--
The `scroll` branch: a named direction, or a reference to scroll into view; `down` by default.
-/
def scrollAction (args : Json) : Prog Response := do
  let direction ← Prog.ofExcept (scrollDirection args)
  let page ← getCurrentPage
  match ← (scrollBody page direction).attempt with
  | .ok response => return response
  | .error raised => return .failure ("Scroll failed: " ++ raised.str)

/-- The `evaluate` branch: run the script in the page and return its result as JSON text. -/
def evaluateAction (args : Json) : Prog Response :=
  if !args.truthy then return .failure "evaluate requires JavaScript code"
  else do
    let code ← Prog.ofExcept (args.getItem 0)
    let page ← getCurrentPage
    match ← (await (.evaluate page code)).attempt with
    | .ok result => return .success (code.accepted result)
    | .error raised => return .failure ("JS evaluation failed: " ++ raised.str)

/-- The `back` and `forward` branches: move through history within 15 s, settle, and snapshot. -/
def historyAction (move : Page → Nat → Call) (moved failed : String) : Prog Response := do
  let page ← getCurrentPage
  match ← (do
      let _ ← await (move page 15000)
      let _ ← await (.waitForTimeout page 500)
      takeSnapshot page).attempt with
  | .ok snapshot => return .success (moved ++ "\n\n" ++ snapshot)
  | .error raised => return .failure (failed ++ raised.str)

/-- The `back` branch. -/
def backAction : Prog Response :=
  historyAction .goBack "Navigated back." "Back navigation failed: "

/-- The `forward` branch. -/
def forwardAction : Prog Response :=
  historyAction .goForward "Navigated forward." "Forward navigation failed: "

/-- What the dictionary iterator raises once the dictionary's size has changed. -/
def changedSizeError : PyException := .runtimeError "dictionary changed size during iteration"

/-- What it raises on meeting an entry after as many as the dictionary had when it started. -/
def keysChangedError : PyException := .runtimeError "dictionary keys changed during iteration"

/--
The line of `tabs` for the tab `tab` and its page, the `index`-th: marked when it is the current tab
in `s`, the globals as the loop found them, with the title and URL, or `(closed)` and nothing if
reading them raises.
-/
def tabLine (s : Session) (index tab : Nat) (page : Page) : Prog String := do
  let marker := if s.currentTab = some tab then " *" else ""
  let shown ← (do
    let title : String ← await (.title page)
    let url : String ← ask (.url page)
    return (title, url) : Prog (String × String)).attempt
  let (title, url) := match shown with
    | .ok shown => shown
    | .error _ => ("(closed)", "")
  return s!"  [{index}] {title} -- {url}{marker}"

/--
Where the loop of `tabs` stops: the iterator exhausted, or one of its two errors. An item where the
iterator expects none is an entry beyond those it started with, so the keys changed.
-/
def tabsEnd : IterStep Nat Page → Prog (List String)
  | .exhausted => return []
  | .resized => .raise changedSizeError
  | .keysChanged | .item .. => .raise keysChangedError

/--
The loop of `tabs` over `enumerate(pages.items())`: the iterator was made when `pages` had `used`
entries, stands at slot `pos` and still expects `remaining` entries; `index` numbers the lines.
Each step of the iterator reads `pages` as it is then.
-/
def tabLines (used : Nat) : Nat → Nat → Nat → Prog (List String)
  | 0, pos, _ => do
    let s ← getSession
    tabsEnd (s.pages.iterNext used pos 0)
  | remaining + 1, pos, index => do
    let s ← getSession
    match s.pages.iterNext used pos (remaining + 1) with
    | .item (tab, page) next => do
      let line ← tabLine s index tab page
      let lines ← tabLines used remaining next (index + 1)
      return line :: lines
    | step => tabsEnd step

/-- The `tabs` branch: one line per tracked tab, the current one marked. -/
def tabsAction : Prog Response := do
  let s ← getSession
  let lines ← tabLines s.pages.len s.pages.len 0 0
  return .success ("Open tabs:\n" ++ "\n".intercalate lines)

/-- The `close` branch: close the current tab and switch to the last tab opened, if any remains. -/
def closeAction : Prog Response := do
  let s ← getSession
  match s.currentTab.bind s.pages.pop with
  | none => return .success "No tab to close."
  | some (page, rest) =>
    modifySession fun s => { s with pages := rest }
    let _ ← (await (.closePage page)).attempt
    match (← getSession).pages.keys.getLast? with
    | some last =>
      modifySession fun s => { s with currentTab := some last }
      let next ← currentPage (← getSession)
      let snapshot ← takeSnapshot next
      return .success s!"Tab closed. Switched to another tab.\n\n{snapshot}"
    | none =>
      modifySession fun s => { s with currentTab := none }
      return .success "Tab closed. No tabs remaining."

/-- `ms = 1000; if args: try: ms = int(args[0]) except ValueError: pass`. -/
def waitMs (args : Json) : Except PyException Int :=
  if args.truthy then do
    match (← args.getItem 0).readInt with
    | .value ms _ => return ms
    | .invalid _ => return 1000
    | .raises raised => throw raised
  else return 1000

/-- The `wait` branch: sleep for the requested milliseconds, 1000 by default, at most 30000. -/
def waitAction (args : Json) : Prog Response := do
  let ms := min (← Prog.ofExcept (waitMs args)) 30000
  let page ← getCurrentPage
  let _ ← await (.waitForTimeout page ms)
  return .success s!"Waited {ms}ms."

/-- The error for an action outside the table. -/
def unknownAction (action : String) : String :=
  s!"Unknown action: {action}. Available: navigate, snapshot, click, type, screenshot, scroll, " ++
    "evaluate, back, forward, tabs, close, wait"

/--
`handle_action(action, args)`: note the activity, then run the action's branch.

The `close` branch declares `global current_tab` after the `tabs` branch has read the name, which
CPython refuses to compile (`name 'current_tab' is used prior to global declaration`); the model
reads the declaration as if it opened the function, as the code means it.
-/
def handleAction (action : String) (args : Json) : Prog Response := do
  resetIdle
  if action = "navigate" then navigateAction args
  else if action = "snapshot" then snapshotAction
  else if action = "click" then clickAction args
  else if action = "type" then typeAction args
  else if action = "screenshot" then screenshotAction
  else if action = "scroll" then scrollAction args
  else if action = "evaluate" then evaluateAction args
  else if action = "back" then backAction
  else if action = "forward" then forwardAction
  else if action = "tabs" then tabsAction
  else if action = "close" then closeAction
  else if action = "wait" then waitAction args
  else return .failure (unknownAction action)

/-- A request: the action, and its arguments as the JSON body gives them, whatever their type. -/
structure Request where
  action : String
  args : Json
  deriving DecidableEq, Repr

/-- A request handled to its end: the driver's answers in order, and how `handle_action` ended. -/
structure Handled where
  request : Request
  answers : List Answer
  outcome : Except PyException Response

/-- A serial run: every request is handled to its end before the next one starts. -/
inductive SerialRun : Session → List Handled → Session → Prop where
  | nil (s : Session) : SerialRun s [] s
  | cons {s mid final : Session} {handled : Handled} {rest : List Handled} :
      (handleAction handled.request.action handled.request.args).Runs s handled.answers
        handled.outcome mid →
      SerialRun mid rest final → SerialRun s (handled :: rest) final

end Moxxy
