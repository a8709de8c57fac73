import Moxxy.Browser.Snapshot
import Moxxy.Python.Json

/-!
The playwright surface `bridge.py` drives: its handles, the calls it awaits and the values it reads
without awaiting.
-/

namespace Moxxy

/-- The handle `async_playwright().start()` returns. -/
structure Playwright where
  handle : Nat
  deriving DecidableEq, Repr

/-- A browser launched through playwright. -/
structure Browser where
  handle : Nat
  deriving DecidableEq, Repr

/-- A browsing context of a browser. -/
structure Context where
  handle : Nat
  deriving DecidableEq, Repr

/-- A page; `id(page)`, its tab id in `pages`, is its handle. -/
structure Page where
  handle : Nat
  deriving DecidableEq, Repr

/-- A locator: a query the driver evaluates against the live page when it is used. -/
inductive Locator where
  /-- `page.get_by_role(role, name=name, exact=exact)`. -/
  | byRole (page : Page) (role name : String) (exact : Bool)
  /-- `locator.first`. -/
  | first (locator : Locator)
  deriving DecidableEq, Repr

/-- The user agent `get_current_page` gives every new context. -/
def userAgent : String :=
  "Mozilla/5.0 (Windows NT 10.0; Win64; x64) AppleWebKit/537.36 (KHTML, like Gecko) " ++
    "Chrome/120.0.0.0 Safari/537.36"

/--
A driver call the bridge awaits: it suspends the coroutine and may raise playwright's `Error`.
-/
inductive Call where
  | start
  | launch (playwright : Playwright) (headless : Bool) (args : List String)
  | newContext (browser : Browser) (userAgent : String)
  | newPage (context : Context)
  | goto (page : Page) (url waitUntil : String) (timeout : Nat)
  | waitForTimeout (page : Page) (ms : Int)
  | accessibilitySnapshot (page : Page)
  | title (page : Page)
  | count (locator : Locator)
  | click (locator : Locator) (timeout : Nat)
  | fill (locator : Locator) (text : Json) (timeout : Nat)
  | keyboardType (page : Page) (text : Json)
  | screenshot (page : Page) (path : String) (fullPage : Bool)
  | evaluate (page : Page) (script : Json)
  | scrollIntoViewIfNeeded (locator : Locator) (timeout : Nat)
  | goBack (page : Page) (timeout : Nat)
  | goForward (page : Page) (timeout : Nat)
  | closePage (page : Page)
  | closeBrowser (browser : Browser)
  | stop (playwright : Playwright)
  deriving DecidableEq, Repr

/-- What a call returns when it does not raise. -/
@[reducible] def Call.Reply : Call → Type
  | .start => Playwright
  | .launch .. => Browser
  | .newContext .. => Context
  | .newPage _ => Page
  | .accessibilitySnapshot _ => AxNode
  | .title _ => String
  | .count _ => Nat
  -- The bridge passes request values on as texts; playwright refuses any other value.
  | .fill _ text _ => text.Accepts Unit
  | .keyboardType _ text => text.Accepts Unit
  -- `page.evaluate` returns a value the bridge hands to `json.dumps`: the reply is that text.
  | .evaluate _ script => script.Accepts String
  | _ => Unit

/-- A value the bridge reads from its surroundings without awaiting; these never raise. -/
inductive Query where
  /-- `time.time()`, in whole seconds. -/
  | time
  /-- `browser.is_connected()`. -/
  | isConnected (browser : Browser)
  /-- `page.url`. -/
  | url (page : Page)
  /-- `tempfile.mktemp(suffix=suffix, prefix=prefix)`. -/
  | mktemp (suffix pre : String)
  deriving DecidableEq, Repr

/-- What a query returns. -/
@[reducible] def Query.Reply : Query → Type
  | .time => Nat
  | .isConnected _ => Bool
  | .url _ => String
  | .mktemp .. => String

/-- The message of a `RecursionError` raised by a call past the recursion limit. -/
def recursionMessage : String := "maximum recursion depth exceeded while calling a Python object"

mutual

/--
Playwright's `_ax_node_from_protocol`, which turns the tree the driver sends into the dictionary
`page.accessibility.snapshot()` returns, one Python call per level. `frames` is how many calls the
recursion limit still allows; a tree nested deeper makes the copy, and with it the snapshot call,
raise `RecursionError`.
-/
def axNodeFromProtocol : Nat → AxTree → Except String AxNode
  | 0, _ => .error recursionMessage
  | frames + 1, .node role name value children =>
    (axNodesFromProtocol frames children).map (.node role name value)

/--
The children in order, as `list(map(_ax_node_from_protocol, children))` converts them, up to the
first that raises.
-/
def axNodesFromProtocol : Nat → List AxTree → Except String (List AxNode)
  | _, [] => .ok []
  | frames, child :: rest => do
    let child ← axNodeFromProtocol frames child
    let rest ← axNodesFromProtocol frames rest
    return child :: rest

end

/-- One answer the surroundings gave: a call's value or error message, or a query's value. -/
inductive Answer where
  | call (call : Call) (reply : Except String call.Reply)
  | query (query : Query) (reply : query.Reply)

end Moxxy
