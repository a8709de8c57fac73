import Moxxy.Browser.Actions

/-! What every run of a coroutine guarantees, computed backwards through its code. -/

namespace Moxxy

namespace Prog

variable {α β : Type}

/--
What a postcondition needs of the start: it holds of every run, whatever the surroundings answer.
-/
def wp : Prog α → (List Answer → Except PyException α → Session → Prop) → Session → Prop
  | .pure value, post, s => post [] (.ok value) s
  | .raise exception, post, s => post [] (.error exception) s
  | .read resume, post, s => (resume s).wp post s
  | .write t resume, post, _ => resume.wp post t
  | .query q resume, post, s => ∀ reply, (resume reply).wp (fun tr => post (.query q reply :: tr)) s
  | .call c resume, post, s => ∀ reply, (resume reply).wp (fun tr => post (.call c reply :: tr)) s

/-- The postcondition holds of every run exactly when it holds backwards from the end. -/
theorem wp_iff {p : Prog α} {post : List Answer → Except PyException α → Session → Prop}
    {s : Session} : p.wp post s ↔ ∀ answers outcome final, p.Runs s answers outcome final →
      post answers outcome final := by
  -- Each constructor has exactly the runs of its continuation, after its one answer if it has one.
  induction p generalizing s post with
  | pure value =>
    refine ⟨fun holds answers outcome final run => ?_, fun all => all _ _ _ (.pure value s)⟩
    cases run
    exact holds
  | raise exception =>
    refine ⟨fun holds answers outcome final run => ?_, fun all => all _ _ _ (.raise exception s)⟩
    cases run
    exact holds
  | read resume ih =>
    refine ⟨fun holds answers outcome final run => ?_, fun all => (ih s).2 fun a o f run =>
      all a o f (.read run)⟩
    cases run with
    | read run => exact (ih s).1 holds _ _ _ run
  | write t resume ih =>
    refine ⟨fun holds answers outcome final run => ?_, fun all => ih.2 fun a o f run =>
      all a o f (.write run)⟩
    cases run with
    | write run => exact ih.1 holds _ _ _ run
  | query q resume ih =>
    refine ⟨fun holds answers outcome final run => ?_, fun all reply => (ih reply).2
      fun a o f run => all _ o f (.query reply run)⟩
    cases run with
    | query reply run => exact (ih reply).1 (holds reply) _ _ _ run
  | call c resume ih =>
    refine ⟨fun holds answers outcome final run => ?_, fun all reply => (ih reply).2
      fun a o f run => all _ o f (.call reply run)⟩
    cases run with
    | call reply run => exact (ih reply).1 (holds reply) _ _ _ run

/--
Running a coroutine against recorded answers, in order: how it ends and the globals it leaves,
when the answers are those of its calls and queries.
-/
def replay : Prog α → Session → List Answer → Option (Except PyException α × Session)
  | .pure value, s, [] => some (.ok value, s)
  | .raise exception, s, [] => some (.error exception, s)
  | .read resume, s, answers => (resume s).replay s answers
  | .write t resume, _, answers => resume.replay t answers
  | .query q resume, s, .query asked reply :: rest =>
    if same : asked = q then (resume (same ▸ reply)).replay s rest else none
  | .call c resume, s, .call called reply :: rest =>
    if same : called = c then (resume (same ▸ reply)).replay s rest else none
  | _, _, _ => none

/-- A replay that fits is a run. -/
theorem replay_runs {p : Prog α} {s : Session} {answers : List Answer}
    {outcome : Except PyException α} {final : Session}
    (fits : p.replay s answers = some (outcome, final)) : p.Runs s answers outcome final := by
  induction p generalizing s answers with
  | pure value =>
    cases answers with
    | nil => cases fits; exact .pure value _
    | cons _ _ => cases fits
  | raise exception =>
    cases answers with
    | nil => cases fits; exact .raise exception _
    | cons _ _ => cases fits
  | read resume ih => exact .read (ih s fits)
  | write t resume ih => exact .write (ih fits)
  | query q resume ih =>
    -- The next answer must be this query's.
    rcases answers with _ | ⟨_ | ⟨asked, reply⟩, rest⟩
    · cases fits
    · cases fits
    · by_cases same : asked = q
      · subst same
        exact .query reply (ih reply ((dif_pos rfl).symm.trans fits))
      · cases (dif_neg same).symm.trans fits
  | call c resume ih =>
    rcases answers with _ | ⟨⟨called, reply⟩ | _, rest⟩
    · cases fits
    · by_cases same : called = c
      · subst same
        exact .call reply (ih reply ((dif_pos rfl).symm.trans fits))
      · cases (dif_neg same).symm.trans fits
    · cases fits

/-- A weaker postcondition follows from a stronger one. -/
theorem wp_mono {p : Prog α} {post post' : List Answer → Except PyException α → Session → Prop}
    {s : Session} (holds : p.wp post s) (weaker : ∀ tr o s', post tr o s' → post' tr o s') :
    p.wp post' s :=
  wp_iff.2 fun tr o s' run => weaker tr o s' (wp_iff.1 holds tr o s' run)

/-- Running `p` then `next`: every run of `p`, followed on success by every run of `next`. -/
theorem wp_bind (p : Prog α) (next : α → Prog β)
    (post : List Answer → Except PyException β → Session → Prop) (s : Session) :
    (p >>= next).wp post s = p.wp (fun tr o s' => match o with
      | .ok value => (next value).wp (fun tr' => post (tr ++ tr')) s'
      | .error exception => post tr (.error exception) s') s := by
  -- The answers of the first part come before those of the second.
  induction p generalizing s post with
  | pure value => rfl
  | raise exception => rfl
  | read resume ih => exact ih s post s
  | write t resume ih => exact ih post t
  | query q resume ih =>
    show (∀ reply, _) = ∀ reply, _
    exact forall_congr fun reply => ih reply _ s
  | call c resume ih =>
    show (∀ reply, _) = ∀ reply, _
    exact forall_congr fun reply => ih reply _ s

/-- Catching turns every exception of `p` into a value. -/
@[simp] theorem wp_attempt (p : Prog α)
    (post : List Answer → Except PyException (Except PyException α) → Session → Prop)
    (s : Session) : p.attempt.wp post s = p.wp (fun tr o s' => post tr (.ok o) s') s := by
  induction p generalizing s post with
  | pure value => rfl
  | raise exception => rfl
  | read resume ih => exact ih s post s
  | write t resume ih => exact ih post t
  | query q resume ih =>
    show (∀ reply, _) = ∀ reply, _
    exact forall_congr fun reply => ih reply _ s
  | call c resume ih =>
    show (∀ reply, _) = ∀ reply, _
    exact forall_congr fun reply => ih reply _ s

/-- A conditional runs one of its branches. -/
@[simp] theorem wp_ite (c : Prop) [Decidable c] (yes no : Prog α)
    (post : List Answer → Except PyException α → Session → Prop) (s : Session) :
    (if c then yes else no).wp post s = if c then yes.wp post s else no.wp post s := by
  split <;> rfl

@[simp] theorem wp_pure (value : α) (post : List Answer → Except PyException α → Session → Prop)
    (s : Session) : (Pure.pure value : Prog α).wp post s = post [] (.ok value) s := rfl

/-- The same, for a branch written with the constructor. -/
@[simp] theorem wp_pure_node (value : α)
    (post : List Answer → Except PyException α → Session → Prop) (s : Session) :
    (Prog.pure value).wp post s = post [] (.ok value) s := rfl

/-- A driver call seen as its node: every reply, recorded before the rest. -/
theorem wp_call (c : Call) (resume : Except String c.Reply → Prog α)
    (post : List Answer → Except PyException α → Session → Prop) (s : Session) :
    (Prog.call c resume).wp post s =
      ∀ reply, (resume reply).wp (fun tr => post (.call c reply :: tr)) s := rfl

@[simp] theorem wp_raise (exception : PyException)
    (post : List Answer → Except PyException α → Session → Prop) (s : Session) :
    (Prog.raise exception : Prog α).wp post s = post [] (.error exception) s := rfl

/-- Code that touches no global ends at once, with its value or its exception. -/
@[simp] theorem wp_ofExcept (e : Except PyException α)
    (post : List Answer → Except PyException α → Session → Prop) (s : Session) :
    (Prog.ofExcept e).wp post s = post [] e s := by
  cases e <;> rfl

/-- The same, followed by more code: an exception skips it, a value runs it. -/
@[simp] theorem wp_ofExcept_bind (e : Except PyException α) (next : α → Prog β)
    (post : List Answer → Except PyException β → Session → Prop) (s : Session) :
    (Prog.ofExcept e >>= next).wp post s = match e with
      | .ok value => (next value).wp post s
      | .error exception => post [] (.error exception) s := by
  cases e <;> rfl

end Prog

/-- A statement about every result of a call is one about every error and one about every value. -/
@[simp] theorem forall_except {ε α : Type} {P : Except ε α → Prop} :
    (∀ result, P result) ↔ (∀ error, P (.error error)) ∧ ∀ value, P (.ok value) :=
  ⟨fun all => ⟨fun _ => all _, fun _ => all _⟩, fun both result => by
    cases result with
    | error error => exact both.1 error
    | ok value => exact both.2 value⟩

@[simp] theorem wp_getSession (post : List Answer → Except PyException Session → Session → Prop)
    (s : Session) : getSession.wp post s = post [] (.ok s) s := rfl

@[simp] theorem wp_modifySession (change : Session → Session)
    (post : List Answer → Except PyException Unit → Session → Prop) (s : Session) :
    (modifySession change).wp post s = post [] (.ok ()) (change s) := rfl

@[simp] theorem wp_ask (q : Query)
    (post : List Answer → Except PyException q.Reply → Session → Prop)
    (s : Session) : (ask q).wp post s = ∀ reply, post [.query q reply] (.ok reply) s := rfl

@[simp] theorem wp_await (c : Call)
    (post : List Answer → Except PyException c.Reply → Session → Prop)
    (s : Session) : (await c).wp post s =
      ((∀ message, post [.call c (.error message)] (.error (.playwright message)) s) ∧
        ∀ reply, post [.call c (.ok reply)] (.ok reply) s) := by
  -- The call answers once, with a value or with the message of playwright's `Error`.
  show (∀ reply, _) = _
  rw [forall_except]
  rfl

end Moxxy
