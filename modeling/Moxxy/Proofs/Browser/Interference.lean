import Mathlib.Logic.Relation
import Moxxy.Browser.Loop
import Moxxy.Proofs.Browser.Runs

/-!
What a coroutine guarantees when the loop may run others at each of its awaits: every write it
makes is one a given relation allows, and it ends as a postcondition says, whatever the others do.
-/

namespace Moxxy

namespace Prog

variable {α β : Type} {allowed : Session → Session → Prop}

/--
What a postcondition needs of the start when other coroutines may run at every await: each write
must be a step `allowed` permits from the globals it replaces, and after an await the coroutine
resumes on whatever globals the others left.
-/
def wpI (allowed : Session → Session → Prop) :
    Prog α → (Except PyException α → Session → Prop) → Session → Prop
  | .pure value, post, s => post (.ok value) s
  | .raise exception, post, s => post (.error exception) s
  | .read resume, post, s => (resume s).wpI allowed post s
  | .write t resume, post, s => allowed s t ∧ resume.wpI allowed post t
  | .query _ resume, post, s => ∀ reply, (resume reply).wpI allowed post s
  | .call _ resume, post, _ => ∀ reply s', (resume reply).wpI allowed post s'

/-- A weaker postcondition follows from a stronger one. -/
theorem wpI_mono {p : Prog α} {post post' : Except PyException α → Session → Prop}
    {s : Session} (holds : p.wpI allowed post s) (weaker : ∀ o s', post o s' → post' o s') :
    p.wpI allowed post' s := by
  -- Every node passes the postcondition on; only the ends use it.
  induction p generalizing s with
  | pure value => exact weaker _ _ holds
  | raise exception => exact weaker _ _ holds
  | read resume ih => exact ih s holds
  | write t resume ih => exact ⟨holds.1, ih holds.2⟩
  | query q resume ih => exact fun reply => ih reply (holds reply)
  | call c resume ih => exact fun reply s' => ih reply (holds reply s')

/-- What a program writes under one relation it writes under any wider one. -/
theorem wpI_widen {allowed' : Session → Session → Prop} {p : Prog α}
    {post : Except PyException α → Session → Prop} {s : Session} (holds : p.wpI allowed post s)
    (wider : ∀ s t, allowed s t → allowed' s t) : p.wpI allowed' post s := by
  -- Only a write consults the relation.
  induction p generalizing s with
  | pure value => exact holds
  | raise exception => exact holds
  | read resume ih => exact ih s holds
  | write t resume ih => exact ⟨wider _ _ holds.1, ih holds.2⟩
  | query q resume ih => exact fun reply => ih reply (holds reply)
  | call c resume ih => exact fun reply s' => ih reply (holds reply s')

/-- Running `p` then `next`: `next` starts from wherever `p` ended, on its value. -/
theorem wpI_bind (p : Prog α) (next : α → Prog β)
    (post : Except PyException β → Session → Prop) (s : Session) :
    (p >>= next).wpI allowed post s = p.wpI allowed (fun o s' => match o with
      | .ok value => (next value).wpI allowed post s'
      | .error exception => post (.error exception) s') s := by
  -- At each end `next` starts or the exception passes through; every other node is copied.
  induction p generalizing s with
  | pure value => rfl
  | raise exception => rfl
  | read resume ih => exact ih s s
  | write t resume ih => exact congrArg (allowed s t ∧ ·) (ih t)
  | query q resume ih => exact forall_congr fun reply => ih reply s
  | call c resume ih => exact forall_congr fun reply => forall_congr fun s' => ih reply s'

/-- Catching turns every exception of `p` into a value. -/
@[simp] theorem wpI_attempt (p : Prog α)
    (post : Except PyException (Except PyException α) → Session → Prop) (s : Session) :
    p.attempt.wpI allowed post s = p.wpI allowed (fun o s' => post (.ok o) s') s := by
  -- An exception at the end becomes the value; every other node is copied.
  induction p generalizing s with
  | pure value => rfl
  | raise exception => rfl
  | read resume ih => exact ih s s
  | write t resume ih => exact congrArg (allowed s t ∧ ·) (ih t)
  | query q resume ih => exact forall_congr fun reply => ih reply s
  | call c resume ih => exact forall_congr fun reply => forall_congr fun s' => ih reply s'

/-- A conditional runs one of its branches. -/
@[simp] theorem wpI_ite (c : Prop) [Decidable c] (yes no : Prog α)
    (post : Except PyException α → Session → Prop) (s : Session) :
    (if c then yes else no).wpI allowed post s =
      if c then yes.wpI allowed post s else no.wpI allowed post s := by
  split <;> rfl

@[simp] theorem wpI_pure (value : α) (post : Except PyException α → Session → Prop)
    (s : Session) : (Pure.pure value : Prog α).wpI allowed post s = post (.ok value) s := rfl

@[simp] theorem wpI_pure_node (value : α) (post : Except PyException α → Session → Prop)
    (s : Session) : (Prog.pure value).wpI allowed post s = post (.ok value) s := rfl

@[simp] theorem wpI_raise (exception : PyException)
    (post : Except PyException α → Session → Prop) (s : Session) :
    (Prog.raise exception : Prog α).wpI allowed post s = post (.error exception) s := rfl

@[simp] theorem wpI_getSession (post : Except PyException Session → Session → Prop)
    (s : Session) : getSession.wpI allowed post s = post (.ok s) s := rfl

/-- An assignment of the globals must be an allowed step. -/
@[simp] theorem wpI_modifySession (change : Session → Session)
    (post : Except PyException Unit → Session → Prop) (s : Session) :
    (modifySession change).wpI allowed post s =
      (allowed s (change s) ∧ post (.ok ()) (change s)) := rfl

@[simp] theorem wpI_ask (q : Query) (post : Except PyException q.Reply → Session → Prop)
    (s : Session) : (ask q).wpI allowed post s = ∀ reply, post (.ok reply) s := rfl

/-- An await answers with a value or playwright's `Error`, on globals the others may change. -/
@[simp] theorem wpI_await (c : Call) (post : Except PyException c.Reply → Session → Prop)
    (s : Session) : (await c).wpI allowed post s =
      ((∀ message s', post (.error (.playwright message)) s') ∧
        ∀ reply s', post (.ok reply) s') := by
  show (∀ reply s', _) = _
  rw [forall_except]
  rfl

/-- The outcomes that escape within a set of exceptions: every value, and the exceptions listed. -/
def EndsWithin (escapes : PyException → Prop) : Except PyException α → Prop
  | .ok _ => True
  | .error exception => escapes exception

/-- A value is within every list of exceptions. -/
@[simp] theorem endsWithin_ok {escapes : PyException → Prop} (value : α) :
    EndsWithin escapes (.ok value : Except PyException α) := trivial

/-- An exception is within a list exactly when it is listed. -/
@[simp] theorem endsWithin_error {escapes : PyException → Prop} (exception : PyException) :
    EndsWithin escapes (.error exception : Except PyException α) = escapes exception := rfl

/--
A coroutine that, from any globals and under any interference, writes only allowed steps and raises
only listed exceptions.
-/
def Guarantees (allowed : Session → Session → Prop) (escapes : PyException → Prop)
    (p : Prog α) : Prop :=
  ∀ s, p.wpI allowed (fun o _ => EndsWithin escapes o) s

section Guarantees

variable {escapes : PyException → Prop}

/-- A value raises nothing. -/
theorem guarantees_pure (value : α) : (Pure.pure value : Prog α).Guarantees allowed escapes :=
  fun _ => trivial

/-- An exception escapes when it is listed. -/
theorem guarantees_raise {exception : PyException} (listed : escapes exception) :
    (Prog.raise exception : Prog α).Guarantees allowed escapes :=
  fun _ => listed

/-- A query neither writes nor raises. -/
theorem guarantees_ask (q : Query) : (ask q).Guarantees allowed escapes :=
  fun _ _ => trivial

/-- A read neither writes nor raises. -/
theorem guarantees_getSession : getSession.Guarantees allowed escapes :=
  fun _ => trivial

/-- An assignment guarantees its write when every globals may be changed that way. -/
theorem guarantees_modifySession {change : Session → Session}
    (permitted : ∀ s, allowed s (change s)) : (modifySession change).Guarantees allowed escapes :=
  fun s => ⟨permitted s, trivial⟩

/-- An await may raise any playwright `Error`. -/
theorem guarantees_await (c : Call) (listed : ∀ message, escapes (.playwright message)) :
    (await c).Guarantees allowed escapes :=
  fun _ => (wpI_await c _ _).symm ▸ ⟨fun message _ => listed message, fun _ _ => trivial⟩

/-- A conditional guarantees what each branch guarantees when it is taken. -/
theorem guarantees_ite {c : Prop} [Decidable c] {yes no : Prog α}
    (first : c → yes.Guarantees allowed escapes) (second : ¬c → no.Guarantees allowed escapes) :
    (if c then yes else no).Guarantees allowed escapes := by
  split
  case isTrue taken => exact first taken
  case isFalse skipped => exact second skipped

/-- A coroutine guaranteeing its part, followed on each value by one guaranteeing the rest. -/
theorem Guarantees.bind {p : Prog α} {next : α → Prog β} (first : p.Guarantees allowed escapes)
    (rest : ∀ value, (next value).Guarantees allowed escapes) :
    (p >>= next).Guarantees allowed escapes := fun s => by
  rw [wpI_bind]
  refine wpI_mono (first s) fun o s' ends => ?_
  cases o with
  | ok value => exact rest value s'
  | error exception => exact ends

/-- A `try` around a coroutine lets none of its exceptions escape. -/
theorem Guarantees.attempt {p : Prog α} {raised : PyException → Prop}
    (writes : p.Guarantees allowed raised) : p.attempt.Guarantees allowed escapes := fun s => by
  rw [wpI_attempt]
  exact wpI_mono (writes s) fun _ _ _ => trivial

/--
Pure code that may raise, followed by a coroutine on its value: it guarantees its exception when it
raises, and the rest guarantees the rest.
-/
theorem Guarantees.ofExcept_bind {e : Except PyException α} {next : α → Prog β}
    (raised : ∀ exception, e = .error exception → escapes exception)
    (rest : ∀ value, e = .ok value → (next value).Guarantees allowed escapes) :
    (Prog.ofExcept e >>= next).Guarantees allowed escapes := by
  cases e with
  | error exception => exact guarantees_raise (raised exception rfl)
  | ok value => exact rest value rfl

/-- Mapping the value changes neither the writes nor the exceptions. -/
theorem Guarantees.map {p : Prog α} (f : α → β) (holds : p.Guarantees allowed escapes) :
    (f <$> p).Guarantees allowed escapes :=
  holds.bind fun _ => guarantees_pure _

/-- A guarantee under one relation is one under any wider relation. -/
theorem Guarantees.widen {allowed' : Session → Session → Prop} {p : Prog α}
    (holds : p.Guarantees allowed escapes) (wider : ∀ s t, allowed s t → allowed' s t) :
    p.Guarantees allowed' escapes := fun s =>
  wpI_widen (holds s) wider

end Guarantees

/--
A slice of a coroutine is a chain of allowed writes, and what the coroutine guarantees still holds
from where the slice stopped.
-/
theorem Sync.wpI {p next : Prog α} {s s' : Session} {answers : List Answer}
    {post : Except PyException α → Session → Prop} (sync : p.Sync s answers next s')
    (holds : p.wpI allowed post s) :
    Relation.ReflTransGen allowed s s' ∧ next.wpI allowed post s' := by
  -- Each write of the slice is one more allowed step; reads and queries take none.
  induction sync with
  | pure => exact ⟨.refl, holds⟩
  | raise => exact ⟨.refl, holds⟩
  | await => exact ⟨.refl, holds⟩
  | read _ ih => exact ih holds
  | write _ ih =>
    obtain ⟨steps, rest⟩ := ih holds.2
    exact ⟨.head holds.1 steps, rest⟩
  | query reply _ ih => exact ih (holds reply)

/-- A slice stops only at an await or at the coroutine's end. -/
theorem Sync.stops {p next : Prog α} {s s' : Session} {answers : List Answer}
    (sync : p.Sync s answers next s') :
    (∃ value, next = .pure value) ∨ (∃ exception, next = .raise exception) ∨
      ∃ c resume, next = .call c resume := by
  induction sync with
  | pure value => exact .inl ⟨value, rfl⟩
  | raise exception => exact .inr (.inl ⟨exception, rfl⟩)
  | await c resume => exact .inr (.inr ⟨c, resume, rfl⟩)
  | read _ ih => exact ih
  | write _ ih => exact ih
  | query _ _ ih => exact ih

end Prog

/--
A coroutine on the loop that guarantees its writes and exceptions: from any globals when ready, on
every reply and any globals when waiting, and in how it ended when done.
-/
def Task.Guarantees (allowed : Session → Session → Prop) (escapes : PyException → Prop) :
    Task → Prop
  | .ready code => code.Guarantees allowed escapes
  | .waiting _ resume => ∀ reply, (resume reply).Guarantees allowed escapes
  | .done outcome => Prog.EndsWithin escapes outcome

/-- Where a slice stops, the coroutine keeps what it guaranteed from there. -/
theorem Task.guarantees_ofProg {allowed : Session → Session → Prop}
    {escapes : PyException → Prop} {p next : Prog (Option Response)} {s s' : Session}
    {answers : List Answer}
    (sync : p.Sync s answers next s')
    (holds : next.wpI allowed (fun o _ => Prog.EndsWithin escapes o) s') :
    (Task.ofProg next).Guarantees allowed escapes := by
  rcases sync.stops with ⟨value, rfl⟩ | ⟨exception, rfl⟩ | ⟨c, resume, rfl⟩
  · -- Finished with a value.
    exact holds
  · -- Finished with an exception.
    exact holds
  · -- Suspended at an await: every reply resumes it on any globals.
    exact fun reply s'' => holds reply s''

/--
A loop whose globals satisfy an invariant and each of whose coroutines guarantees its writes and
the exceptions its job may raise.
-/
structure Loop.Guarded (allowed : Session → Session → Prop)
    (escapes : Job → PyException → Prop) (invariant : Session → Prop) (loop : Loop) :
    Prop where
  session : invariant loop.session
  tasks : ∀ co ∈ loop.coroutines, co.task.Guarantees allowed (escapes co.job)

section Loop

variable {allowed : Session → Session → Prop} {escapes : Job → PyException → Prop}
  {invariant : Session → Prop}

/-- An invariant every allowed step keeps holds along a chain of them. -/
theorem invariant_of_steps (keeps : ∀ s t, invariant s → allowed s t → invariant t)
    {s s' : Session} (steps : Relation.ReflTransGen allowed s s') (holds : invariant s) :
    invariant s' := by
  -- One allowed step at a time.
  induction steps with
  | refl => exact holds
  | tail _ step ih => exact keeps _ _ ih step

/-- Replacing one coroutine by a guaranteeing one keeps every coroutine guaranteeing. -/
theorem guarantees_set {cos : List Coroutine}
    (all : ∀ co ∈ cos, co.task.Guarantees allowed (escapes co.job)) (i : Nat) {co : Coroutine}
    (holds : co.task.Guarantees allowed (escapes co.job)) :
    ∀ other ∈ cos.set i co, other.task.Guarantees allowed (escapes other.job) :=
  fun other member => by
  rcases List.mem_or_eq_of_mem_set member with old | rfl
  · -- A coroutine that was there.
    exact all other old
  · -- The one put in.
    exact holds

/--
One step of the loop keeps the invariant and every coroutine's guarantee: a slice writes only steps
that keep the invariant, and a reply changes no globals.
-/
theorem LoopStep.guarded (keeps : ∀ s t, invariant s → allowed s t → invariant t) {i : Nat}
    {loop loop' : Loop} (step : LoopStep i loop loop')
    (guarded : loop.Guarded allowed escapes invariant) :
    loop'.Guarded allowed escapes invariant := by
  cases step with
  | slice found ready sync =>
    -- The slice runs the ready coroutine from the loop's globals.
    have holds := guarded.tasks _ (List.getElem?_mem found)
    rw [ready] at holds
    obtain ⟨steps, rest⟩ := Prog.Sync.wpI sync (holds _)
    exact ⟨invariant_of_steps keeps steps guarded.session,
      guarantees_set guarded.tasks i (Task.guarantees_ofProg sync rest)⟩
  | reply found waiting reply =>
    -- The reply resumes the coroutine, which guaranteed every reply.
    have holds := guarded.tasks _ (List.getElem?_mem found)
    rw [waiting] at holds
    exact ⟨guarded.session, guarantees_set guarded.tasks i (holds reply)⟩

/-- Every run of the loop keeps the invariant and every coroutine's guarantee. -/
theorem LoopRun.guarded (keeps : ∀ s t, invariant s → allowed s t → invariant t)
    {loop final : Loop} {schedule : List Nat} (run : LoopRun loop schedule final)
    (guarded : loop.Guarded allowed escapes invariant) :
    final.Guarded allowed escapes invariant := by
  -- Step by step, each keeping what `LoopStep.guarded` keeps.
  induction run with
  | nil => exact guarded
  | step step _ ih => exact ih (step.guarded keeps guarded)

end Loop

end Moxxy
