import Mathlib.Algebra.Ring.Int.Defs
import Moxxy.Fetch.HtmlToText

/-!
What `HTMLToText` shows: the skip counter against the elements the markup opens, and the order of
what a link writes.
-/

namespace Moxxy

/-- A start or end tag of one of `SKIP_TAGS`. -/
def HtmlEvent.isSkipTag : HtmlEvent → Bool
  | .startTag tag _ | .endTag tag => skipTags.contains (pyLower tag)
  | .data _ => false

/-- A start or end tag `a`. -/
def HtmlEvent.isA : HtmlEvent → Bool
  | .startTag tag _ | .endTag tag => pyLower tag == "a"
  | .data _ => false

/-- A start or end tag, not text. -/
def HtmlEvent.isTag : HtmlEvent → Bool
  | .data _ => false
  | _ => true

/-- The text of a text event. -/
def HtmlEvent.text? : HtmlEvent → Option String
  | .data text => some text
  | _ => none

/--
The elements open after some events, innermost first, as the markup says: a start tag opens one,
an end tag closes the innermost open element of its name, and closes nothing when none is open.
-/
def openElements : List String → List HtmlEvent → List String
  | stack, [] => stack
  | stack, .startTag tag _ :: rest => openElements (tag :: stack) rest
  | stack, .endTag tag :: rest => openElements (stack.erase tag) rest
  | stack, .data _ :: rest => openElements stack rest

section Feed

variable {p : HtmlToText}

/-- Feeding no events leaves the converter as it was. -/
@[simp] theorem feed_nil : p.feed [] = p := rfl

/-- Feeding events handles the first, then feeds the rest to the converter it left. -/
@[simp] theorem feed_cons (event : HtmlEvent) (rest : List HtmlEvent) :
    p.feed (event :: rest) = (p.handle event).feed rest := rfl

/-- Feeding two runs of events one after the other is feeding them joined. -/
@[simp] theorem feed_append (front back : List HtmlEvent) :
    p.feed (front ++ back) = (p.feed front).feed back :=
  List.foldl_append _ _ _ _

/-- Inside a skip element, every event but a skip tag changes nothing. -/
theorem handle_hidden (hidden : p.skipDepth ≠ 0) {event : HtmlEvent}
    (notSkip : event.isSkipTag = false) : p.handle event = p := by
  cases event with
  | startTag tag attrs =>
    simp only [HtmlEvent.isSkipTag] at notSkip
    simp only [HtmlToText.handle, HtmlToText.handleStarttag]
    rw [if_neg (Bool.eq_false_iff.1 notSkip), if_pos hidden]
  | endTag tag =>
    simp only [HtmlEvent.isSkipTag] at notSkip
    simp only [HtmlToText.handle, HtmlToText.handleEndtag]
    rw [if_neg (Bool.eq_false_iff.1 notSkip), if_pos hidden]
  | data text => simp [HtmlToText.handle, HtmlToText.handleData, hidden]

/-- Inside a skip element, events with no skip tag among them change nothing. -/
theorem feed_hidden (hidden : p.skipDepth ≠ 0) {events : List HtmlEvent}
    (notSkip : ∀ event ∈ events, event.isSkipTag = false) : p.feed events = p := by
  induction events with
  | nil => rfl
  | cons event rest ih =>
    rw [feed_cons, handle_hidden hidden (notSkip event (.head _))]
    exact ih fun e listed => notSkip e (.tail _ listed)

/-- What an event does to the skip counter: a skip start tag adds one, a skip end tag takes one. -/
def HtmlEvent.skipShift : HtmlEvent → Int
  | .startTag tag _ => if skipTags.contains (pyLower tag) then 1 else 0
  | .endTag tag => if skipTags.contains (pyLower tag) then -1 else 0
  | .data _ => 0

/-- Inside a skip element an event moves the skip counter by its shift, and changes nothing else. -/
theorem handle_hidden_shift (hidden : p.skipDepth ≠ 0) (event : HtmlEvent) :
    p.handle event = { p with skipDepth := p.skipDepth + event.skipShift } := by
  by_cases skip : event.isSkipTag
  · -- A skip tag moves the counter whatever the depth.
    cases event with
    | startTag tag attrs =>
      simp only [HtmlEvent.isSkipTag] at skip
      simp only [HtmlToText.handle, HtmlToText.handleStarttag, HtmlEvent.skipShift]
      rw [if_pos skip, if_pos skip]
    | endTag tag =>
      simp only [HtmlEvent.isSkipTag] at skip
      simp only [HtmlToText.handle, HtmlToText.handleEndtag, HtmlEvent.skipShift]
      rw [if_pos skip, if_pos skip]
      rfl
    | data text => simp [HtmlEvent.isSkipTag] at skip
  · -- Anything else is dropped, and its shift is zero.
    rw [handle_hidden hidden (Bool.eq_false_iff.2 skip)]
    cases event <;> simp_all [HtmlEvent.isSkipTag, HtmlEvent.skipShift]

/--
Events after each of which the skip counter is still positive change only the counter: nothing is
written, buffered or switched.
-/
theorem feed_hidden_shift {events : List HtmlEvent}
    (staysHidden : ∀ k ≤ events.length,
      0 < p.skipDepth + ((events.take k).map HtmlEvent.skipShift).sum) :
    p.feed events = { p with skipDepth := p.skipDepth + (events.map HtmlEvent.skipShift).sum } := by
  induction events generalizing p with
  | nil => simp
  | cons event rest ih =>
    have hidden : p.skipDepth ≠ 0 := by have := staysHidden 0 (by simp); simp at this; omega
    rw [feed_cons, handle_hidden_shift hidden, ih fun k within => ?_]
    · simp only [List.map_cons, List.sum_cons, Int.add_assoc]
    · -- After this event, the prefixes of the rest are those of the events one longer.
      have later := staysHidden (k + 1) (by simpa using within)
      simp only [List.take_succ_cons, List.map_cons, List.sum_cons] at later
      show 0 < p.skipDepth + event.skipShift + _
      omega

/--
A skip element whose inner skip tags nest, fed in a state whose skip depth is not negative: whatever
it holds, the parser ends as it started, having written, buffered and switched nothing.
-/
theorem feed_skipElement (visible : 0 ≤ p.skipDepth) {opening closing : String}
    (attrs : List (String × Option String)) (opens : skipTags.contains (pyLower opening) = true)
    (closes : skipTags.contains (pyLower closing) = true) {body : List HtmlEvent}
    (nested : ∀ k ≤ body.length, 0 ≤ ((body.take k).map HtmlEvent.skipShift).sum)
    (balanced : (body.map HtmlEvent.skipShift).sum = 0) :
    p.feed (.startTag opening attrs :: body ++ [.endTag closing]) = p := by
  have start : p.handle (.startTag opening attrs) = { p with skipDepth := p.skipDepth + 1 } := by
    simp only [HtmlToText.handle, HtmlToText.handleStarttag]
    rw [if_pos opens]
  -- The body runs one level down and comes back to it.
  have inside : ({ p with skipDepth := p.skipDepth + 1 } : HtmlToText).feed body =
      { p with skipDepth := p.skipDepth + 1 } := by
    rw [feed_hidden_shift fun k within => by have := nested k within; simp only; omega, balanced]
    simp
  -- The end tag climbs back to where the element started.
  rw [List.cons_append, feed_cons, start, feed_append, inside]
  simp only [feed_cons, feed_nil, HtmlToText.handle, HtmlToText.handleEndtag]
  rw [if_pos closes]
  simp

/-- A `noscript` holding an `svg`, fed at the start: the parser is left as it was. -/
theorem feed_skipElement_noscript :
    0 ≤ HtmlToText.init.skipDepth ∧ skipTags.contains (pyLower "noscript") = true ∧
      (∀ k ≤ [HtmlEvent.startTag "svg" [], .data "x", .endTag "svg"].length,
        0 ≤ (([HtmlEvent.startTag "svg" [], .data "x", .endTag "svg"].take k).map
          HtmlEvent.skipShift).sum) ∧
      ([HtmlEvent.startTag "svg" [], .data "x", .endTag "svg"].map HtmlEvent.skipShift).sum = 0 ∧
      HtmlToText.init.feed (.startTag "noscript" [] ::
        [HtmlEvent.startTag "svg" [], .data "x", .endTag "svg"] ++ [.endTag "noscript"]) =
        HtmlToText.init :=
  ⟨by decide, by decide, by decide, by decide,
    feed_skipElement (by decide) [] (by decide) (by decide) (by decide) (by decide)⟩

end Feed

section Links

variable {p : HtmlToText}

/-- A condition on the whole state is a condition on each of its fields. -/
theorem ite_mk (c : Prop) [Decidable c] (r r' : List String) (d d' : Int) (l l' : Option String)
    (t t' : List String) (i i' : Bool) :
    (if c then (⟨r, d, l, t, i⟩ : HtmlToText) else ⟨r', d', l', t', i'⟩) =
      ⟨if c then r else r', if c then d else d', if c then l else l', if c then t else t',
        if c then i else i'⟩ := by
  split <;> rfl

/-- A shown start tag other than `a` neither reads nor writes the link fields. -/
theorem handleStarttag_relink {tag : String} {attrs : List (String × Option String)}
    (notA : pyLower tag ≠ "a") (link : Option String) (text : List String) :
    { p with currentLink := link, linkText := text }.handleStarttag tag attrs =
      { p.handleStarttag tag attrs with currentLink := link, linkText := text } := by
  obtain ⟨r, d, l, t, i⟩ := p
  simp only [HtmlToText.handleStarttag, HtmlToText.push, notA, if_false, ite_mk, ite_self]

/-- A shown end tag other than `a` neither reads nor writes the link fields. -/
theorem handleEndtag_relink {tag : String} (notA : pyLower tag ≠ "a") (link : Option String)
    (text : List String) :
    { p with currentLink := link, linkText := text }.handleEndtag tag =
      { p.handleEndtag tag with currentLink := link, linkText := text } := by
  obtain ⟨r, d, l, t, i⟩ := p
  simp only [HtmlToText.handleEndtag, HtmlToText.push, notA, if_false, ite_mk, ite_self]

/-- A start tag that is neither a skip tag nor `a` leaves the skip depth. -/
theorem handleStarttag_skipDepth {tag : String} {attrs : List (String × Option String)}
    (notSkip : skipTags.contains (pyLower tag) = false) (notA : pyLower tag ≠ "a") :
    (p.handleStarttag tag attrs).skipDepth = p.skipDepth := by
  obtain ⟨r, d, l, t, i⟩ := p
  simp only [HtmlToText.handleStarttag, HtmlToText.push, notSkip, notA, if_false, ite_mk, ite_self,
    Bool.false_eq_true]

/-- An end tag that is not a skip tag leaves the skip depth. -/
theorem handleEndtag_skipDepth {tag : String} (notSkip : skipTags.contains (pyLower tag) = false)
    (notA : pyLower tag ≠ "a") : (p.handleEndtag tag).skipDepth = p.skipDepth := by
  obtain ⟨r, d, l, t, i⟩ := p
  simp only [HtmlToText.handleEndtag, HtmlToText.push, notSkip, notA, if_false, ite_mk, ite_self,
    Bool.false_eq_true]

/-- An event that is neither a skip tag nor `a` leaves the skip depth. -/
theorem handle_skipDepth {event : HtmlEvent} (notSkip : event.isSkipTag = false)
    (notA : event.isA = false) : (p.handle event).skipDepth = p.skipDepth := by
  cases event with
  | startTag tag attrs =>
    simp only [HtmlEvent.isSkipTag, HtmlEvent.isA, beq_eq_false_iff_ne] at notSkip notA
    exact handleStarttag_skipDepth notSkip notA
  | endTag tag =>
    simp only [HtmlEvent.isSkipTag, HtmlEvent.isA, beq_eq_false_iff_ne] at notSkip notA
    exact handleEndtag_skipDepth notSkip notA
  | data d =>
    simp only [HtmlToText.handle, HtmlToText.handleData]
    split_ifs <;> rfl

/-- Events with no skip tag and no `a` leave the skip depth. -/
theorem feed_skipDepth {events : List HtmlEvent}
    (plain : ∀ event ∈ events, event.isSkipTag = false ∧ event.isA = false) :
    (p.feed events).skipDepth = p.skipDepth := by
  induction events generalizing p with
  | nil => rfl
  | cons event rest ih =>
    obtain ⟨notSkip, notA⟩ := plain event (.head _)
    rw [feed_cons, ih fun e listed => plain e (List.mem_cons_of_mem event listed),
      handle_skipDepth notSkip notA]

/--
Inside a link, tags that are neither skip tags nor `a` act as they would outside it, and the text
is buffered as it comes.
-/
theorem feed_inLink {href : String} {events : List HtmlEvent} (shown : p.skipDepth = 0)
    (plain : ∀ event ∈ events, event.isSkipTag = false ∧ event.isA = false) (text : List String) :
    { p with currentLink := some href, linkText := text }.feed events =
      { p.feed (events.filter HtmlEvent.isTag) with
        currentLink := some href, linkText := text ++ events.filterMap HtmlEvent.text? } := by
  induction events generalizing p text with
  | nil => simp
  | cons event rest ih =>
    obtain ⟨notSkip, notA⟩ := plain event (.head _)
    have plain' := fun e listed => plain e (List.mem_cons_of_mem event listed)
    cases event with
    | startTag tag attrs =>
      simp only [HtmlEvent.isSkipTag, HtmlEvent.isA, beq_eq_false_iff_ne] at notSkip notA
      rw [feed_cons, HtmlToText.handle, handleStarttag_relink notA,
        ih ((handleStarttag_skipDepth notSkip notA).trans shown) plain']
      simp [HtmlEvent.isTag, HtmlEvent.text?, HtmlToText.handle]
    | endTag tag =>
      simp only [HtmlEvent.isSkipTag, HtmlEvent.isA, beq_eq_false_iff_ne] at notSkip notA
      rw [feed_cons, HtmlToText.handle, handleEndtag_relink notA,
        ih ((handleEndtag_skipDepth notSkip notA).trans shown) plain']
      simp [HtmlEvent.isTag, HtmlEvent.text?, HtmlToText.handle]
    | data d =>
      -- The text joins the buffer; nothing is written.
      have buffered : { p with currentLink := some href, linkText := text }.handleData d =
          { p with currentLink := some href, linkText := text ++ [d] } := by
        simp [HtmlToText.handleData, shown]
      rw [feed_cons, HtmlToText.handle, buffered, ih shown plain']
      simp [HtmlEvent.isTag, HtmlEvent.text?]

/--
`<a>` with a usable `href`, outside a skip element: the link opens on an empty buffer, and nothing
is written.
-/
theorem handleStarttag_a {attrs : List (String × Option String)} {href : String}
    (shown : p.skipDepth = 0) (target : linkTarget (hrefOf attrs) = some href) :
    p.handleStarttag "a" attrs = { p with currentLink := some href, linkText := [] } := by
  obtain ⟨r, d, l, t, i⟩ := p
  simp only at shown
  subst shown
  simp [HtmlToText.handleStarttag, target, pyLower, skipTags, blockTags, headingTags]

/-- `</a>` in an open link, outside a skip element: the link's text is written as `[text](href)`. -/
theorem handleEndtag_a {href : String} (shown : p.skipDepth = 0)
    (link : p.currentLink = some href) :
    p.handleEndtag "a" =
      { p with
        result := p.result ++ linkMarkdown href p.linkText
        currentLink := none
        linkText := [] } := by
  obtain ⟨r, d, l, t, i⟩ := p
  simp only at shown link
  subst shown link
  simp [HtmlToText.handleEndtag, pyLower, skipTags, blockTags]

/--
A link whose body holds no skip tag and no other `a`, from outside a skip element: the body's
tags write their marks first, in their order, as they would with no link, and only then comes
`[text](href)` of the body's text, joined and stripped at its two ends.
-/
theorem feed_link {attrs : List (String × Option String)} {href : String} {body : List HtmlEvent}
    (shown : p.skipDepth = 0) (target : linkTarget (hrefOf attrs) = some href)
    (plain : ∀ event ∈ body, event.isSkipTag = false ∧ event.isA = false) :
    p.feed (.startTag "a" attrs :: body ++ [.endTag "a"]) =
      { p.feed (body.filter HtmlEvent.isTag) with
        result := (p.feed (body.filter HtmlEvent.isTag)).result ++
          linkMarkdown href (body.filterMap HtmlEvent.text?),
        currentLink := none, linkText := [] } := by
  have tagsShown : (p.feed (body.filter HtmlEvent.isTag)).skipDepth = 0 :=
    (feed_skipDepth fun e listed => plain e (List.mem_of_mem_filter listed)).trans shown
  rw [List.cons_append, feed_cons, HtmlToText.handle, handleStarttag_a shown target, feed_append,
    feed_inLink shown plain, feed_cons, feed_nil, HtmlToText.handle,
    handleEndtag_a (p := { p.feed (body.filter HtmlEvent.isTag) with
      currentLink := some href, linkText := [] ++ body.filterMap HtmlEvent.text? }) tagsShown rfl]
  rfl

/--
A link whose text is in bold: the `b` tags go to the converter as they come, and the link becomes
one Markdown link of its text.
-/
theorem feed_link_bold :
    HtmlToText.init.skipDepth = 0 ∧ linkTarget (hrefOf [("href", some "u")]) = some "u" ∧
      (∀ event ∈ [HtmlEvent.startTag "b" [], .data "x", .endTag "b"],
        event.isSkipTag = false ∧ event.isA = false) ∧
      HtmlToText.init.feed
          (.startTag "a" [("href", some "u")] :: [.startTag "b" [], .data "x", .endTag "b"] ++
            [.endTag "a"]) =
        { HtmlToText.init.feed ([HtmlEvent.startTag "b" [], .data "x", .endTag "b"].filter
            HtmlEvent.isTag) with
          result := (HtmlToText.init.feed
              ([HtmlEvent.startTag "b" [], .data "x", .endTag "b"].filter
                HtmlEvent.isTag)).result ++
            linkMarkdown "u" ([HtmlEvent.startTag "b" [], .data "x", .endTag "b"].filterMap
              HtmlEvent.text?),
          currentLink := none, linkText := [] } :=
  ⟨rfl, by decide, by decide, feed_link rfl (by decide) (by decide)⟩

end Links

/--
A stray `</script>` drives `skip_depth` to -1, which is truthy: every later event without a skip
tag is dropped, though no skip element is open; and the body of a later `<script>` is shown.
-/
theorem strayScriptEnd_hidesText :
    (∀ rest, (∀ event ∈ rest, event.isSkipTag = false) →
      HtmlToText.init.feed (.endTag "script" :: rest) = { HtmlToText.init with skipDepth := -1 }) ∧
    openElements [] [.endTag "script"] = [] ∧
    (HtmlToText.init.feed [.endTag "script", .data "Visible"]).getText = "" ∧
    openElements [] [.endTag "script", .startTag "script" []] = ["script"] ∧
    (HtmlToText.init.feed
      [.endTag "script", .startTag "script" [], .data "alert(1)", .endTag "script"]).getText =
      "alert(1)" := by
  refine ⟨fun rest notSkip => ?_, rfl, by decide, rfl, by decide⟩
  exact feed_hidden (p := { HtmlToText.init with skipDepth := -1 }) (by decide) notSkip

/--
The marks of tags inside a link are written ahead of it, not inside its brackets, and the link's
text keeps its inner whitespace as it came.
-/
theorem linkMarks_leaveLink :
    (HtmlToText.init.feed [.startTag "a" [("href", some "u")], .startTag "b" [], .data "x",
      .endTag "b", .endTag "a"]).getText = "****[x](u)" ∧
    (HtmlToText.init.feed [.startTag "a" [("href", some "u")], .data "two\n  lines",
      .endTag "a"]).getText = "[two\n  lines](u)" :=
  ⟨by decide, by decide⟩

end Moxxy
