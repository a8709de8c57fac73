import Moxxy.Proofs.Browser.Effects

/-! How `click`, `type` and `scroll` resolve a reference: against the table as the call found it. -/

namespace Moxxy

/--
How a call that hands `find_element_by_ref` the reference `ref` comes out against the table
`refs`. A reference the table does not hold fails as stale, or `get_current_page` raised before the
lookup, and no locator is used either way. For one it holds, every locator the call counts,
clicks, fills or scrolls to queries by its descriptor's role and name.
-/
def Resolves (refs : Refs) (ref : Int) (tr : List Answer) (o : Except PyException Response) :
    Prop :=
  (refEntry refs ref = none →
      (o = .ok (.failure (staleRefError ref)) ∨
          ∃ raised, o = .error raised ∧ PageRaised tr raised) ∧
        locators tr = []) ∧
    ∀ info, refEntry refs ref = some info →
      ∀ locator ∈ locators tr, locator.target = (info.role, info.name)

/-- Answers that use no locator, before the lookup, change nothing about how it resolved. -/
theorem Resolves.prepend {refs : Refs} {ref : Int} {pre tr : List Answer}
    {o : Except PyException Response} (unused : locators pre = [])
    (resolves : Resolves refs ref tr o) : Resolves refs ref (pre ++ tr) o := by
  obtain ⟨stale, found⟩ := resolves
  refine ⟨fun missing => ?_, fun info entry => by simpa [unused] using found info entry⟩
  obtain ⟨failed | ⟨raised, rfl, page⟩, used⟩ := stale missing
  · exact ⟨.inl failed, by simp [unused, used]⟩
  · exact ⟨.inr ⟨raised, rfl, page.prepend pre⟩, by simp [unused, used]⟩

/-- A call where `get_current_page` raised, with no locator used, resolved nothing wrongly. -/
theorem resolves_pageRaised {refs : Refs} {ref : Int} {tr : List Answer} {raised : PyException}
    (unused : locators tr = []) (page : PageRaised tr raised) :
    Resolves refs ref tr (.error raised) :=
  ⟨fun _ => ⟨.inr ⟨raised, rfl, page⟩, unused⟩, by simp [unused]⟩

/--
The lookup and what follows it: a stale reference is returned as the failure, and what the call
does with a found locator uses that locator only.
-/
theorem findElementByRef_bind {page : Page} {ref : Int} {s : Session}
    {k : Except String Locator → Prog Response}
    (failed : ∀ err, k (.error err) = pure (.failure err))
    (found : ∀ locator,
      (k (.ok locator)).wp (fun tr _ _ => ∀ used ∈ locators tr, used = locator) s) :
    (findElementByRef page ref >>= k).wp (fun tr o _ => Resolves s.snapshotRefs ref tr o) s := by
  rw [Prog.wp_bind]
  apply findElementByRef_spec
  intro tr result _ stale located
  cases result with
  | error err =>
    dsimp only
    rw [failed, Prog.wp_pure, List.append_nil]
    refine ⟨fun missing => ?_, fun info entry => (located info entry).1⟩
    obtain ⟨same, unused⟩ := stale missing
    cases same
    exact ⟨.inl rfl, unused⟩
  | ok locator =>
    refine Prog.wp_mono (found locator) fun tr' o _ only => ⟨fun missing => ?_,
      fun info entry used listed => ?_⟩
    · cases (stale missing).1
    · -- A locator of the lookup, or the one it returned.
      obtain ⟨counted, returned⟩ := located info entry
      rcases List.mem_append.1 (by simpa using listed) with listed | listed
      · exact counted used listed
      · rw [only used listed]
        exact returned locator rfl

/-- Opening the call with `get_current_page`, which leaves the table and uses no locator. -/
theorem getCurrentPage_bind_resolves {k : Page → Prog Response} {s : Session} {ref : Int}
    (rest : ∀ s₁ page, s₁.snapshotRefs = s.snapshotRefs →
      (k page).wp (fun tr o _ => Resolves s.snapshotRefs ref tr o) s₁) :
    (getCurrentPage >>= k).wp (fun tr o _ => Resolves s.snapshotRefs ref tr o) s := by
  rw [Prog.wp_bind]
  apply getCurrentPage_spec
  intro tr o _ _ _ _ _ unused _ raised _
  cases o with
  | error e => exact resolves_pageRaised unused (raised e rfl)
  | ok page => exact Prog.wp_mono (rest _ page rfl) fun tr' o _ => Resolves.prepend unused

/-- What `readRef` reads a reference from: `args[0]`, which `int()` takes. -/
theorem readRef_eq_ok {args : Json} {ref : Int} (parsed : readRef args = .ok (.ok ref)) :
    ∃ arg shown, args.getItem 0 = .ok arg ∧ arg.readInt = .value ref shown := by
  unfold readRef at parsed
  cases first : args.getItem 0 with
  | error raised =>
    rw [first] at parsed
    cases parsed
  | ok arg =>
    rw [first] at parsed
    cases read : arg.readInt <;> simp_all [bind, Except.bind, pure, Except.pure, throw,
      throwThe, MonadExceptOf.throw]

/-- `click` resolves its reference against the table it started with. -/
theorem clickAction_resolves {args : Json} {ref : Int} (parsed : readRef args = .ok (.ok ref))
    (s : Session) :
    (clickAction args).wp (fun tr o _ => Resolves s.snapshotRefs ref tr o) s := by
  obtain ⟨_, _, first, _⟩ := readRef_eq_ok parsed
  unfold clickAction
  rw [if_neg (by simp [Json.truthy_of_getItem first]), Prog.wp_ofExcept_bind, parsed]
  apply getCurrentPage_bind_resolves
  intro s₁ page same
  rw [← same]
  apply findElementByRef_bind (fun _ => rfl)
  intro locator
  -- Clicking, settling and snapshotting use only the locator found.
  simp only [Prog.wp_bind, Prog.wp_attempt, await, Prog.wp_call, forall_except, Prog.wp_pure,
    Prog.wp_pure_node, Prog.wp_raise]
  refine ⟨fun _ => by simp [Call.locator?], fun _ => ⟨fun _ => by simp [Call.locator?],
    fun _ => ?_⟩⟩
  apply takeSnapshot_spec
  intro tr _ _ _ unused
  simp [Call.locator?, unused]

/-- `type` given at least two arguments resolves its reference against the table it started with. -/
theorem typeAction_resolves {args : Json} {ref : Int} {n : Nat}
    (parsed : readRef args = .ok (.ok ref)) (len : args.pyLen = .ok n) (two : 2 ≤ n)
    (s : Session) :
    (typeAction args).wp (fun tr o _ => Resolves s.snapshotRefs ref tr o) s := by
  obtain ⟨_, _, first, _⟩ := readRef_eq_ok parsed
  obtain ⟨text, second⟩ := Json.getItem_of_lt first len two
  unfold typeAction
  rw [Prog.wp_ofExcept_bind, len]
  dsimp only
  rw [if_neg (by omega), Prog.wp_ofExcept_bind, parsed]
  dsimp only
  rw [Prog.wp_ofExcept_bind, second]
  apply getCurrentPage_bind_resolves
  intro s₁ page same
  rw [← same]
  apply findElementByRef_bind (fun _ => rfl)
  intro locator
  -- Filling, or clicking and typing, use only the locator found.
  simp only [Prog.wp_bind, Prog.wp_attempt, await, Prog.wp_call, forall_except, Prog.wp_pure,
    Prog.wp_pure_node, Prog.wp_raise]
  simp [Call.locator?]

/-- `scroll` given a direction that `int()` reads as `ref` resolves it against its table. -/
theorem scrollAction_resolves {args direction : Json} {ref : Int} {shown : String}
    (given : scrollDirection args = .ok direction) (unnamed : namedDirection direction = none)
    (parsed : direction.readInt = .value ref shown) (s : Session) :
    (scrollAction args).wp (fun tr o _ => Resolves s.snapshotRefs ref tr o) s := by
  unfold scrollAction
  rw [Prog.wp_ofExcept_bind, given]
  apply getCurrentPage_bind_resolves
  intro s₁ page same
  rw [← same]
  simp only [scrollBody, unnamed, parsed, Prog.wp_bind, Prog.wp_attempt]
  apply findElementByRef_spec
  intro tr found _ stale located
  cases found with
  | error err =>
    -- A stale reference is returned as the failure from inside the `try`.
    refine ⟨fun missing => ?_, fun info entry locator used => ?_⟩
    · obtain ⟨same, unused⟩ := stale missing
      cases same
      exact ⟨.inl rfl, by simpa using unused⟩
    · exact (located info entry).1 locator (by simpa using used)
  | ok locator =>
    -- After the lookup, only the locator found is scrolled to; the snapshot uses none.
    have kept : ∀ tr' o, (∀ used ∈ locators tr', used ∈ locators tr ∨ used = locator) →
        Resolves s₁.snapshotRefs ref tr' o := fun tr' o within =>
      ⟨fun missing => (by cases (stale missing).1), fun info entry used listed => by
        rcases within used listed with counted | rfl
        · exact (located info entry).1 used counted
        · exact (located info entry).2 used rfl⟩
    simp only [await, Prog.wp_call, forall_except, Prog.wp_pure, Prog.wp_pure_node, Prog.wp_raise,
      Prog.wp_bind]
    refine ⟨fun _ => kept _ _ (by simp [Call.locator?]), fun _ => ?_⟩
    simp only [scrolled, Prog.wp_bind, await, Prog.wp_call, forall_except, Prog.wp_pure,
      Prog.wp_pure_node, Prog.wp_raise]
    refine ⟨fun _ => kept _ _ (by simp [Call.locator?]), fun _ => ?_⟩
    apply takeSnapshot_spec
    intro tr' _ _ _ unused
    exact kept _ _ (by simp [Call.locator?, unused])

/--
A request that hands `find_element_by_ref` the reference `ref`: `click`, or `type` with at least
two arguments, whose first argument `int()` reads as `ref`; or `scroll` whose direction is none of
the named ones and `int()` reads as `ref`.
-/
def GivesRef (request : Request) (ref : Int) : Prop :=
  (request.action = "click" ∧ readRef request.args = .ok (.ok ref)) ∨
    (request.action = "type" ∧ readRef request.args = .ok (.ok ref) ∧
      ∃ n, request.args.pyLen = .ok n ∧ 2 ≤ n) ∨
    (request.action = "scroll" ∧ ∃ direction shown, scrollDirection request.args = .ok direction ∧
      namedDirection direction = none ∧ direction.readInt = .value ref shown)

/-- Every call that hands over a reference resolves it against the table it started with. -/
theorem handleAction_resolves {request : Request} {ref : Int} (gives : GivesRef request ref)
    (s : Session) :
    (handleAction request.action request.args).wp
      (fun tr o _ => Resolves s.snapshotRefs ref tr o) s := by
  obtain ⟨action, args⟩ := request
  simp only [handleAction, Prog.wp_bind, wp_resetIdle]
  intro now
  rcases gives with ⟨click, parsed⟩ | ⟨type, parsed, n, len, two⟩ |
    ⟨scroll, direction, shown, given, unnamed, parsed⟩
  · subst click
    rw [if_neg (by decide), if_neg (by decide), if_pos rfl]
    exact Prog.wp_mono (clickAction_resolves parsed _) fun _ _ _ resolved =>
      resolved.prepend rfl
  · subst type
    rw [if_neg (by decide), if_neg (by decide), if_neg (by decide), if_pos rfl]
    exact Prog.wp_mono (typeAction_resolves parsed len two _) fun _ _ _ resolved =>
      resolved.prepend rfl
  · subst scroll
    rw [if_neg (by decide), if_neg (by decide), if_neg (by decide), if_neg (by decide),
      if_neg (by decide), if_pos rfl]
    exact Prog.wp_mono (scrollAction_resolves given unnamed parsed _) fun _ _ _ resolved =>
      resolved.prepend rfl

end Moxxy
