import Mathlib.Data.List.Sort
import Moxxy.Browser.Loop
import Moxxy.Proofs.Browser.Serial

/-!
The event loop against serial runs: run in submission order, coroutines behave as if run one at a
time; overlapping at their awaits, they do not.
-/

namespace Moxxy

/-- A slice followed by a run of what it stopped at is a run from where the slice started. -/
theorem Prog.Sync.runs {α : Type} {p next : Prog α} {s s' f : Session} {answers rest : List Answer}
    {outcome : Except PyException α} (sync : p.Sync s answers next s')
    (run : next.Runs s' rest outcome f) : p.Runs s (answers ++ rest) outcome f := by
  induction sync with
  -- The slice stopped: the run from there is the whole run.
  | pure | raise | await => exact run
  -- A value the slice read, wrote or was answered heads the run.
  | read _ ih => exact .read (ih run)
  | write _ ih => exact .write (ih run)
  | query reply _ ih => exact .query reply (ih run)

/-- What a coroutine's state still does when it runs alone to its end. -/
def Task.Runs : Task → Session → List Answer → Except PyException (Option Response) → Session →
    Prop
  | .ready code => code.Runs
  | .waiting c resume => (Prog.call c resume).Runs
  | .done outcome => fun s answers o f => answers = [] ∧ o = outcome ∧ f = s

/--
`co'` is `co` taken on from `s` to `s'`: the same job, some more answers, and what `co'` still
does is what `co` still did after those answers.
-/
def Coroutine.Advanced (co : Coroutine) (s : Session) (co' : Coroutine) (s' : Session) : Prop :=
  co'.job = co.job ∧ ∃ added, co'.answers = co.answers ++ added ∧
    ∀ rest outcome f, co'.task.Runs s' rest outcome f → co.task.Runs s (added ++ rest) outcome f

/-- A coroutine is taken on by no step to itself. -/
theorem Coroutine.Advanced.refl (co : Coroutine) (s : Session) : co.Advanced s co s :=
  ⟨rfl, [], by simp, fun _ _ _ run => run⟩

/-- Taking a coroutine on twice takes it on by both steps' answers. -/
theorem Coroutine.Advanced.trans {co co₁ co₂ : Coroutine} {s s₁ s₂ : Session}
    (first : co.Advanced s co₁ s₁) (second : co₁.Advanced s₁ co₂ s₂) : co.Advanced s co₂ s₂ := by
  obtain ⟨job₁, added₁, answers₁, runs₁⟩ := first
  obtain ⟨job₂, added₂, answers₂, runs₂⟩ := second
  refine ⟨job₂.trans job₁, added₁ ++ added₂, by simp [answers₂, answers₁], fun rest o f run => ?_⟩
  simpa using runs₁ _ o f (runs₂ rest o f run)

/-- Putting back what a list holds changes nothing. -/
private theorem set_of_getElem? {l : List Coroutine} {i : Nat} {co : Coroutine}
    (found : l[i]? = some co) : l.set i co = l :=
  List.ext_getElem? fun j => by
    by_cases same : i = j
    · -- The slot put back.
      subst same
      simp [found, (List.getElem?_eq_some_iff.1 found).1]
    · -- Every other slot is untouched.
      simp [List.getElem?_set_ne same]

/-- A step on a later coroutine is a step of the coroutines after the first. -/
theorem LoopStep.tail {i : Nat} {s : Session} {co : Coroutine} {cos : List Coroutine}
    {loop' : Loop} (step : LoopStep (i + 1) ⟨s, co :: cos⟩ loop') :
    ∃ cos', loop'.coroutines = co :: cos' ∧ LoopStep i ⟨s, cos⟩ ⟨loop'.session, cos'⟩ := by
  cases step with
  -- Either kind of step on slot `i + 1` is the same step on slot `i` of the tail.
  | slice found ready sync => exact ⟨_, rfl, .slice (by simpa using found) ready sync⟩
  | reply found waiting reply => exact ⟨_, rfl, .reply (by simpa using found) waiting reply⟩

/-- Steps on later coroutines are a run of the coroutines after the first, which stays put. -/
theorem LoopRun.tail {loop final : Loop} {schedule : List Nat} {co : Coroutine}
    {cos : List Coroutine} (run : LoopRun loop schedule final) (later : ∀ j ∈ schedule, 1 ≤ j)
    (first : loop.coroutines = co :: cos) :
    ∃ cos', final.coroutines = co :: cos' ∧
      LoopRun ⟨loop.session, cos⟩ (schedule.map (· - 1)) ⟨final.session, cos'⟩ := by
  induction run generalizing cos with
  | nil loop => exact ⟨cos, first, .nil _⟩
  -- A step on a later coroutine, then the rest by induction.
  | @step j loop mid final schedule step _ ih =>
    obtain ⟨i, rfl⟩ : ∃ i, j = i + 1 := ⟨j - 1, by have := later j (.head _); omega⟩
    obtain ⟨session, coroutines⟩ := loop
    subst first
    obtain ⟨cos₁, moved, step'⟩ := step.tail
    obtain ⟨cos', finished, run'⟩ := ih (fun j listed => later j (.tail _ listed)) moved
    exact ⟨cos', finished, .step step' run'⟩

/-- A run over a schedule in two parts passes through the loop between them. -/
theorem LoopRun.split {loop final : Loop} {front back : List Nat}
    (run : LoopRun loop (front ++ back) final) :
    ∃ mid, LoopRun loop front mid ∧ LoopRun mid back final := by
  induction front generalizing loop with
  | nil => exact ⟨loop, .nil _, run⟩
  -- The first step of the front, then the rest by induction.
  | cons i front ih =>
    cases run with
    | step step rest =>
      obtain ⟨mid, first, second⟩ := ih rest
      exact ⟨mid, .step step first, second⟩

section Solo

variable {base : List Coroutine} {i : Nat} {s s' : Session} {co : Coroutine}

/-- A slice of coroutine `i`, with the list written as `i` put there. -/
theorem LoopStep.slice_at (inRange : i < base.length) {code next : Prog (Option Response)}
    {answers : List Answer} (ready : co.task = .ready code) (sync : code.Sync s answers next s') :
    LoopStep i ⟨s, base.set i co⟩
      ⟨s', base.set i { co with task := .ofProg next, answers := co.answers ++ answers }⟩ := by
  have step := LoopStep.slice (show (Loop.coroutines ⟨s, base.set i co⟩)[i]? = some co by
    simp [inRange]) ready sync
  rwa [List.set_set] at step

/-- A reply to coroutine `i`, with the list written as `i` put there. -/
theorem LoopStep.reply_at (inRange : i < base.length) {c : Call}
    {resume : Except String c.Reply → Prog (Option Response)}
    (waiting : co.task = .waiting c resume) (reply : Except String c.Reply) :
    LoopStep i ⟨s, base.set i co⟩
      ⟨s, base.set i
        { co with task := .ready (resume reply), answers := co.answers ++ [.call c reply] }⟩ := by
  have step := LoopStep.reply (show (Loop.coroutines ⟨s, base.set i co⟩)[i]? = some co by
    simp [inRange]) waiting reply
  rwa [List.set_set] at step

/--
A coroutine whose slices since it was last ready read `pre` runs alone to its end: the loop can
take it there, on no other coroutine.
-/
private theorem LoopRun.ofRuns_from (inRange : i < base.length) {q : Prog (Option Response)}
    {answers : List Answer} {outcome : Except PyException (Option Response)}
    (run : q.Runs s answers outcome s') (p : Prog (Option Response)) (s₀ : Session)
    (pre : List Answer) (co : Coroutine) (ready : co.task = .ready p)
    (leads : ∀ more next s₁, q.Sync s more next s₁ → p.Sync s₀ (pre ++ more) next s₁) :
    ∃ schedule, (∀ j ∈ schedule, j = i) ∧ LoopRun ⟨s₀, base.set i co⟩ schedule
      ⟨s', base.set i
        { co with task := .done outcome, answers := co.answers ++ (pre ++ answers) }⟩ := by
  induction run generalizing p s₀ pre co with
  -- A return: one slice ends the coroutine.
  | pure value =>
    exact ⟨[i], by simp, .step (.slice_at inRange ready (leads [] _ _ (.pure value _))) (.nil _)⟩
  -- A raise: one slice ends the coroutine.
  | raise exception =>
    exact ⟨[i], by simp,
      .step (.slice_at inRange ready (leads [] _ _ (.raise exception _))) (.nil _)⟩
  -- A value read or written joins the slice.
  | read _ ih => exact ih p s₀ pre co ready fun more next s₁ sync => leads more next s₁ (.read sync)
  | write _ ih =>
    exact ih p s₀ pre co ready fun more next s₁ sync => leads more next s₁ (.write sync)
  -- A query answered joins the slice's answers.
  | @query q resume reply s answers outcome final _ ih =>
    have rest := ih p s₀ (pre ++ [.query q reply]) co ready fun more next s₁ sync => by
      simpa using leads _ next s₁ (.query reply sync)
    rwa [List.append_assoc, List.singleton_append] at rest
  | @call c resume reply s answers outcome final _ ih =>
    -- A slice up to the await, the reply, then the rest from where the reply resumed it.
    obtain ⟨schedule, only, rest⟩ :=
      ih (resume reply) s []
        ⟨co.job, .ready (resume reply), co.answers ++ (pre ++ []) ++ [.call c reply]⟩ rfl
        fun _ _ _ sync => sync
    refine ⟨i :: i :: schedule, by simpa using only, .step (.slice_at inRange ready
      (leads [] _ _ (.await c resume s))) (.step (.reply_at inRange rfl reply) ?_)⟩
    simpa using rest

end Solo

/--
A coroutine ready at code that runs alone to its end: the loop can take it there, on no other
coroutine.
-/
theorem LoopRun.ofRuns {p : Prog (Option Response)} {loop : Loop} {s' : Session}
    {answers : List Answer} {outcome : Except PyException (Option Response)} {i : Nat}
    {co : Coroutine} (run : p.Runs loop.session answers outcome s')
    (found : loop.coroutines[i]? = some co) (ready : co.task = .ready p) :
    ∃ schedule, (∀ j ∈ schedule, j = i) ∧ LoopRun loop schedule
      ⟨s', loop.coroutines.set i
        { co with task := .done outcome, answers := co.answers ++ answers }⟩ := by
  have put := set_of_getElem? found
  have started := LoopRun.ofRuns_from (List.getElem?_eq_some_iff.1 found).1 run p loop.session []
    co ready fun _ _ _ sync => sync
  rw [put] at started
  simpa using started

/-- A step of the coroutines after the first is a step of them all. -/
theorem LoopStep.cons {i : Nat} {loop loop' : Loop} (step : LoopStep i loop loop')
    (co : Coroutine) :
    LoopStep (i + 1) ⟨loop.session, co :: loop.coroutines⟩
      ⟨loop'.session, co :: loop'.coroutines⟩ := by
  cases step with
  -- Either kind of step of the tail is a step of the whole, one slot on.
  | slice found ready sync => exact .slice (by simpa using found) ready sync
  | reply found waiting reply => exact .reply (by simpa using found) waiting reply

/-- A run of the coroutines after the first is a run of them all, the first staying put. -/
theorem LoopRun.cons {loop final : Loop} {schedule : List Nat} (run : LoopRun loop schedule final)
    (co : Coroutine) :
    LoopRun ⟨loop.session, co :: loop.coroutines⟩ (schedule.map (· + 1))
      ⟨final.session, co :: final.coroutines⟩ := by
  induction run with
  | nil => exact .nil _
  | step step _ ih => exact .step (step.cons co) ih

/-- Two runs, one after the other, are one run. -/
theorem LoopRun.append {loop mid final : Loop} {front back : List Nat}
    (first : LoopRun loop front mid) (second : LoopRun mid back final) :
    LoopRun loop (front ++ back) final := by
  induction first with
  | nil => exact second
  | step step _ ih => exact .step step (ih second)

/-- Coroutines run one at a time have all finished. -/
theorem SerialJobs.finished {s s' : Session} {cos : List Coroutine} (serial : SerialJobs s cos s') :
    ∀ co ∈ cos, ∃ outcome, co.task = .done outcome := by
  induction serial with
  | nil => simp
  -- The first finished by its serial run, the others by induction.
  | cons _ done _ ih =>
    rintro co (_ | ⟨_, listed⟩)
    · exact ⟨_, done⟩
    · exact ih co listed

/--
Running coroutines one at a time is a run of the loop: each in submission order, from its first
slice to its end, leaves the same globals, answers and outcomes.
-/
theorem SerialJobs.loopRun {s s' : Session} {cos : List Coroutine} (serial : SerialJobs s cos s') :
    ∃ schedule, schedule.Sorted (· ≤ ·) ∧
      LoopRun ⟨s, cos.map fun co => .fresh co.job⟩ schedule ⟨s', cos⟩ := by
  induction serial with
  | nil s => exact ⟨[], .nil, .nil _⟩
  | @cons s mid final co rest outcome run done _ ih =>
    obtain ⟨later, sorted, runLater⟩ := ih
    obtain ⟨job, task, answers⟩ := co
    subst done
    obtain ⟨first, only, runFirst⟩ := LoopRun.ofRuns (i := 0)
      (show job.prog.Runs (Loop.session ⟨s, .fresh job :: rest.map fun co => .fresh co.job⟩) answers
        _ mid from run) (show _ = some (Coroutine.fresh job) by simp) rfl
    refine ⟨first ++ later.map (· + 1), ?_, runFirst.append (runLater.cons _)⟩
    -- The steps on the first coroutine come before those on the others.
    obtain ⟨n, rfl⟩ : ∃ n, first = List.replicate n 0 := ⟨_, List.eq_replicate_iff.2 ⟨rfl, only⟩⟩
    refine List.pairwise_append.2 ⟨List.pairwise_replicate.2 (.inr le_rfl),
      List.pairwise_map.2 (sorted.imp (Nat.add_le_add_right · 1)), ?_⟩
    simp

/-- Running a slice against recorded answers: where it stops, when they are the values it reads. -/
def Prog.replaySlice {α : Type} :
    Prog α → Session → List Answer → Option (Prog α × Session)
  | .pure value, s, [] => some (.pure value, s)
  | .raise exception, s, [] => some (.raise exception, s)
  | .call c resume, s, [] => some (.call c resume, s)
  | .read resume, s, answers => (resume s).replaySlice s answers
  | .write t resume, _, answers => resume.replaySlice t answers
  | .query q resume, s, .query asked reply :: rest =>
    if same : asked = q then (resume (same ▸ reply)).replaySlice s rest else none
  | _, _, _ => none

/-- A slice replay that fits is a slice. -/
theorem Prog.replaySlice_sync {α : Type} {p next : Prog α} {s s' : Session}
    {answers : List Answer} (fits : p.replaySlice s answers = some (next, s')) :
    p.Sync s answers next s' := by
  induction p generalizing s answers with
  -- Code that has stopped fits no more answers.
  | pure value =>
    cases answers with
    | nil => cases fits; exact .pure value _
    | cons _ _ => cases fits
  | raise exception =>
    cases answers with
    | nil => cases fits; exact .raise exception _
    | cons _ _ => cases fits
  -- An await ends the slice: it fits only when no answers are left.
  | call c resume =>
    cases answers with
    | nil => cases fits; exact .await c resume _
    | cons _ _ => cases fits
  -- A value read or written is not an answer.
  | read resume ih => exact .read (ih s fits)
  | write t resume ih => exact .write (ih fits)
  | query q resume ih =>
    rcases answers with _ | ⟨_ | ⟨asked, reply⟩, rest⟩
    · -- No answer for the query.
      cases fits
    · -- A call's answer where the query was due.
      cases fits
    · -- A query's answer: it fits when it is this query's.
      by_cases same : asked = q
      · subst same
        exact .query reply (ih reply ((dif_pos rfl).symm.trans fits))
      · cases (dif_neg same).symm.trans fits

/--
A recorded step of the loop: a slice of coroutine `i` with the values it read, or a reply to its
await.
-/
inductive LoopEvent where
  | slice (i : Nat) (answers : List Answer)
  | reply (i : Nat) (answer : Answer)

/-- The coroutine an event is a step of. -/
def LoopEvent.index : LoopEvent → Nat
  | .slice i _ => i
  | .reply i _ => i

/-- Running the loop through recorded events, when each is a step it can take. -/
def Loop.replay (loop : Loop) : List LoopEvent → Option Loop
  | [] => some loop
  | .slice i answers :: rest =>
    match loop.coroutines.get? i with
    | some co =>
      match co.task with
      | .ready code =>
        match code.replaySlice loop.session answers with
        | some (next, s') =>
          Loop.replay ⟨s', loop.coroutines.set i
            { co with task := .ofProg next, answers := co.answers ++ answers }⟩ rest
        | none => none
      | _ => none
    | none => none
  | .reply i (.call called reply) :: rest =>
    match loop.coroutines.get? i with
    | some co =>
      match co.task with
      | .waiting c resume =>
        if same : called = c then
          Loop.replay ⟨loop.session, loop.coroutines.set i
            { co with task := .ready (resume (same ▸ reply)),
                      answers := co.answers ++ [.call c (same ▸ reply)] }⟩ rest
        else none
      | _ => none
    | none => none
  | .reply _ (.query _ _) :: _ => none

/-- A loop replay that fits is a run of the loop. -/
theorem Loop.replay_run {loop final : Loop} {events : List LoopEvent}
    (fits : loop.replay events = some final) : LoopRun loop (events.map LoopEvent.index) final := by
  induction events generalizing loop with
  | nil => cases fits; exact .nil _
  | cons event rest ih =>
    -- A slice, a reply to a call, or a query's answer, which is never a reply.
    rcases event with ⟨i, answers⟩ | ⟨i, ⟨called, reply⟩ | ⟨_, _⟩⟩
    · -- A slice: the coroutine was ready and the slice fits.
      simp only [replay] at fits
      split at fits <;> try cases fits
      rename_i co found
      split at fits <;> try cases fits
      rename_i code ready
      split at fits <;> try cases fits
      rename_i next s' sliced
      exact .step (.slice (List.get?_eq_getElem? .. ▸ found) ready (Prog.replaySlice_sync sliced))
        (ih fits)
    · -- A reply: the coroutine was waiting on that call.
      simp only [replay] at fits
      split at fits <;> try cases fits
      rename_i co found
      split at fits <;> try cases fits
      rename_i c resume waiting
      split at fits
      · rename_i same
        subst same
        exact .step (.reply (List.get?_eq_getElem? .. ▸ found) waiting reply) (ih fits)
      · cases fits
    · -- A query's answer as a reply fits nothing.
      simp [replay] at fits

end Moxxy
