import Moxxy.Browser.Driver

/-!
The bridge's globals and its coroutines: code that reads and writes the globals, queries and awaits
the driver, and raises.
-/

namespace Moxxy

/-- The globals of `bridge.py` that the actions read and write. -/
structure Session where
  browserInstance : Option Browser
  playwrightInstance : Option Playwright
  /-- `pages`: tab id to page, in the order the tabs were opened. -/
  pages : PyDict Nat Page
  currentTab : Option Nat
  snapshotRefs : Refs
  lastActivity : Nat

/-- The globals at import: no browser, no tab, an empty table, and the clock as it read then. -/
def Session.initial (startTime : Nat) : Session :=
  ⟨none, none, .empty, none, .empty, startTime⟩

/--
A coroutine of the bridge, as the event loop sees it.

Between two `call` nodes the code runs without yielding; a `call` is an `await` of the driver,
where other coroutines may run before the reply comes back.
-/
inductive Prog (α : Type) where
  | pure (value : α)
  | raise (exception : PyException)
  /-- Read the globals. -/
  | read (resume : Session → Prog α)
  /-- Assign the globals. -/
  | write (session : Session) (resume : Prog α)
  /-- Read a value from the surroundings without awaiting. -/
  | query (query : Query) (resume : query.Reply → Prog α)
  /-- Await a driver call, which answers with a value or the message of the error it raised. -/
  | call (call : Call) (resume : Except String call.Reply → Prog α)

namespace Prog

variable {α β : Type}

/-- Running one coroutine and then another on its value; an exception skips the rest. -/
def bind : Prog α → (α → Prog β) → Prog β
  | .pure value, next => next value
  | .raise exception, _ => .raise exception
  | .read resume, next => .read fun s => (resume s).bind next
  | .write s resume, next => .write s (resume.bind next)
  | .query q resume, next => .query q fun reply => (resume reply).bind next
  | .call c resume, next => .call c fun reply => (resume reply).bind next

instance : Monad Prog where
  pure := .pure
  bind := bind

/-- `try: ... except Exception as e: ...`: the value, or the exception raised, as a result. -/
def attempt : Prog α → Prog (Except PyException α)
  | .pure value => .pure (.ok value)
  | .raise exception => .pure (.error exception)
  | .read resume => .read fun s => (resume s).attempt
  | .write s resume => .write s resume.attempt
  | .query q resume => .query q fun reply => (resume reply).attempt
  | .call c resume => .call c fun reply => (resume reply).attempt

end Prog

/-- Read the globals. -/
def getSession : Prog Session := .read .pure

/-- Assign the globals from their current values. -/
def modifySession (change : Session → Session) : Prog Unit :=
  .read fun s => .write (change s) (.pure ())

/-- Read a value from the surroundings. -/
def ask (q : Query) : Prog q.Reply := .query q .pure

/-- `await` a driver call: its value, or playwright's `Error` raised in the coroutine. -/
def await (c : Call) : Prog c.Reply :=
  .call c fun
    | .ok reply => .pure reply
    | .error message => .raise (.playwright message)

/-- Python code that runs without touching the globals: its value, or the exception it raises. -/
def Prog.ofExcept {α : Type} : Except PyException α → Prog α
  | .ok value => .pure value
  | .error exception => .raise exception

/--
One run of a coroutine to its end, against any surroundings: the answers it got in order, how it
ended, and the globals it left.
-/
inductive Prog.Runs {α : Type} : Prog α → Session → List Answer → Except PyException α → Session →
    Prop where
  | pure (value : α) (s : Session) : Prog.Runs (.pure value) s [] (.ok value) s
  | raise (exception : PyException) (s : Session) :
      Prog.Runs (.raise exception) s [] (.error exception) s
  | read {resume : Session → Prog α} {s : Session} {answers outcome final} :
      Prog.Runs (resume s) s answers outcome final →
        Prog.Runs (.read resume) s answers outcome final
  | write {t : Session} {resume : Prog α} {s : Session} {answers outcome final} :
      Prog.Runs resume t answers outcome final → Prog.Runs (.write t resume) s answers outcome final
  | query {q : Query} {resume : q.Reply → Prog α} (reply : q.Reply) {s : Session}
      {answers outcome final} : Prog.Runs (resume reply) s answers outcome final →
      Prog.Runs (.query q resume) s (.query q reply :: answers) outcome final
  | call {c : Call} {resume : Except String c.Reply → Prog α} (reply : Except String c.Reply)
      {s : Session} {answers outcome final} : Prog.Runs (resume reply) s answers outcome final →
      Prog.Runs (.call c resume) s (.call c reply :: answers) outcome final

end Moxxy
