import Moxxy.Browser.Actions

/-!
The bridge's event loop: the coroutines `run_coroutine_threadsafe` submits run in slices between
their awaits, and the loop may run the slices of different coroutines in any order.
-/

namespace Moxxy

/--
A coroutine submitted to the loop: `handle_action` for a request, from `do_POST`, or `cleanup()`,
from the idle watchdog, the signal handler or the end of `main`.
-/
inductive Job where
  | action (request : Request)
  | cleanup

/-- What the coroutine runs: `handle_action` returns its dictionary, `cleanup` returns `None`. -/
def Job.prog : Job → Prog (Option Response)
  | .action request => some <$> handleAction request.action request.args
  | .cleanup => (fun () => none) <$> Moxxy.cleanup

/-- A coroutine's state on the loop: ready to run, suspended at an await, or finished. -/
inductive Task where
  | ready (code : Prog (Option Response))
  | waiting (call : Call) (resume : Except String call.Reply → Prog (Option Response))
  | done (outcome : Except PyException (Option Response))

/-- Where a slice leaves a coroutine: suspended at the await it stopped at, or finished. -/
def Task.ofProg : Prog (Option Response) → Task
  | .call c resume => .waiting c resume
  | .pure value => .done (.ok value)
  | .raise exception => .done (.error exception)
  | code => .ready code

/-- A coroutine on the loop: its job, its state, and the answers it has had so far. -/
structure Coroutine where
  job : Job
  task : Task
  answers : List Answer

/-- A coroutine as it is submitted: nothing of it has run. -/
def Coroutine.fresh (job : Job) : Coroutine := ⟨job, .ready job.prog, []⟩

/--
Running a coroutine without yielding to the loop, up to its next await or to its end: the
answers of the values it read on the way, and where it stopped.
-/
inductive Prog.Sync {α : Type} : Prog α → Session → List Answer → Prog α → Session → Prop where
  | pure (value : α) (s : Session) : Prog.Sync (.pure value) s [] (.pure value) s
  | raise (exception : PyException) (s : Session) :
      Prog.Sync (.raise exception) s [] (.raise exception) s
  /-- An await gives the loop back. -/
  | await (c : Call) (resume : Except String c.Reply → Prog α) (s : Session) :
      Prog.Sync (.call c resume) s [] (.call c resume) s
  | read {resume : Session → Prog α} {s : Session} {answers next s'} :
      Prog.Sync (resume s) s answers next s' → Prog.Sync (.read resume) s answers next s'
  | write {t : Session} {resume : Prog α} {s : Session} {answers next s'} :
      Prog.Sync resume t answers next s' → Prog.Sync (.write t resume) s answers next s'
  | query {q : Query} {resume : q.Reply → Prog α} (reply : q.Reply) {s : Session}
      {answers next s'} : Prog.Sync (resume reply) s answers next s' →
      Prog.Sync (.query q resume) s (.query q reply :: answers) next s'

/-- The loop: the globals, and the coroutines in the order they were submitted. -/
structure Loop where
  session : Session
  coroutines : List Coroutine

/--
One step of the loop on coroutine `i`: run it from where it is ready up to its next await or its
end, or hand it the reply its await was waiting for.
-/
inductive LoopStep : Nat → Loop → Loop → Prop where
  | slice {i : Nat} {loop : Loop} {co : Coroutine} {code next : Prog (Option Response)}
      {answers : List Answer} {s' : Session}
      (found : loop.coroutines[i]? = some co) (ready : co.task = .ready code)
      (sync : code.Sync loop.session answers next s') :
      LoopStep i loop ⟨s', loop.coroutines.set i
        { co with task := .ofProg next, answers := co.answers ++ answers }⟩
  | reply {i : Nat} {loop : Loop} {co : Coroutine} {c : Call}
      {resume : Except String c.Reply → Prog (Option Response)}
      (found : loop.coroutines[i]? = some co) (waiting : co.task = .waiting c resume)
      (reply : Except String c.Reply) :
      LoopStep i loop ⟨loop.session, loop.coroutines.set i
        { co with task := .ready (resume reply), answers := co.answers ++ [.call c reply] }⟩

/-- A run of the loop: the coroutine each step was taken on, in order. -/
inductive LoopRun : Loop → List Nat → Loop → Prop where
  | nil (loop : Loop) : LoopRun loop [] loop
  | step {i : Nat} {loop mid final : Loop} {schedule : List Nat} :
      LoopStep i loop mid → LoopRun mid schedule final → LoopRun loop (i :: schedule) final

/--
Coroutines run one at a time in submission order, each to its end: each with the answers it had
and the outcome it finished with.
-/
inductive SerialJobs : Session → List Coroutine → Session → Prop where
  | nil (s : Session) : SerialJobs s [] s
  | cons {s mid final : Session} {co : Coroutine} {rest : List Coroutine}
      {outcome : Except PyException (Option Response)} :
      co.job.prog.Runs s co.answers outcome mid → co.task = .done outcome →
      SerialJobs mid rest final → SerialJobs s (co :: rest) final

end Moxxy
