import Mathlib.Data.List.Infix
import Moxxy.Fetch.SearchWeb
import Moxxy.Proofs.Fetch.GetText

/-!
What `search_web`'s cleanup leaves of markup: `re.sub(r"<[^>]+>", "", text)` leaves no tag behind,
and leaves a text alone exactly when it holds none, so the titles and snippets it lists hold no tag
and cleaning them once more changes nothing.
-/

namespace Moxxy

/-- Whether a tag can start right after a `<`: something other than `>`, and a `>` later on. -/
def opensTag : List Char → Bool
  | [] => false
  | c :: rest => c != '>' && rest.contains '>'

/-- `re.search(r"<[^>]+>", text) is not None`: some `<` opens a tag. -/
def hasTag : List Char → Bool
  | [] => false
  | c :: rest => (c == '<' && opensTag rest) || hasTag rest

section HasTag

/-- What follows a `<` opens no tag when no `>` is in it. -/
theorem opensTag_of_unclosed {cs : List Char} (unclosed : '>' ∉ cs) : opensTag cs = false := by
  cases cs with
  | nil => rfl
  | cons c rest => simp_all [opensTag]

/-- A text without `>` holds no tag. -/
theorem hasTag_of_unclosed {cs : List Char} (unclosed : '>' ∉ cs) : hasTag cs = false := by
  induction cs with
  | nil => rfl
  | cons c rest ih =>
    have restUnclosed : '>' ∉ rest := fun closes => unclosed (List.mem_cons_of_mem _ closes)
    simp [hasTag, opensTag_of_unclosed restUnclosed, ih restUnclosed]

/-- A character other than `<` opens no tag. -/
@[simp] theorem hasTag_cons_of_ne {c : Char} (other : c ≠ '<') (rest : List Char) :
    hasTag (c :: rest) = hasTag rest := by
  simp [hasTag, other]

/-- `<>` is no tag, and opens none. -/
@[simp] theorem hasTag_emptyTag (rest : List Char) : hasTag ('<' :: '>' :: rest) = hasTag rest := by
  simp [hasTag, opensTag]

/-- Text in front of a tag keeps it. -/
theorem hasTag_append_left (front : List Char) {cs : List Char} (tag : hasTag cs = true) :
    hasTag (front ++ cs) = true := by
  induction front with
  | nil => exact tag
  | cons c rest ih => simp [hasTag, ih]

/-- A `>` that closes a tag still closes it with more text behind. -/
theorem opensTag_append {cs : List Char} (back : List Char) (opens : opensTag cs = true) :
    opensTag (cs ++ back) = true := by
  cases cs with
  | nil => cases opens
  | cons c rest => simp_all [opensTag]

/-- Text behind a tag keeps it. -/
theorem hasTag_append_right {cs : List Char} (back : List Char) (tag : hasTag cs = true) :
    hasTag (cs ++ back) = true := by
  induction cs with
  | nil => cases tag
  | cons c rest ih =>
    simp only [hasTag, List.cons_append, Bool.or_eq_true, Bool.and_eq_true] at tag ⊢
    rcases tag with ⟨opening, opens⟩ | inside
    · exact .inl ⟨opening, opensTag_append back opens⟩
    · exact .inr (ih inside)

/-- The first `>` of a text that has one, and what stands before it. -/
theorem exists_first_close {cs : List Char} (closes : '>' ∈ cs) :
    ∃ inner rest, cs = inner ++ '>' :: rest ∧ '>' ∉ inner := by
  induction cs with
  | nil => cases closes
  | cons c more ih =>
    by_cases first : c = '>'
    · exact ⟨[], more, by rw [first]; rfl, List.not_mem_nil _⟩
    · obtain ⟨inner, rest, rfl, unclosed⟩ := ih (by simpa [Ne.symm first] using closes)
      exact ⟨c :: inner, rest, rfl, by simp [Ne.symm first, unclosed]⟩

/-- A tag inside a text is a tag of the text. -/
theorem hasTag_of_infix {cs text : List Char} (inside : cs <:+: text) (tag : hasTag cs = true) :
    hasTag text = true := by
  obtain ⟨front, back, rfl⟩ := inside
  rw [List.append_assoc]
  exact hasTag_append_left front (hasTag_append_right back tag)

/--
`hasTag` is the regex's search: a `<`, then a text without `>` that is not empty, then a `>`.
-/
theorem hasTag_iff (cs : List Char) :
    hasTag cs = true ↔ ∃ body, body ≠ [] ∧ '>' ∉ body ∧ '<' :: body ++ ['>'] <:+: cs := by
  constructor
  · induction cs with
    | nil => intro tag; cases tag
    | cons c rest ih =>
      intro tag
      simp only [hasTag, Bool.or_eq_true, Bool.and_eq_true, beq_iff_eq] at tag
      rcases tag with ⟨rfl, opens⟩ | inside
      · -- The match runs from this `<` to the first `>` after the next character.
        cases rest with
        | nil => cases opens
        | cons d more =>
          simp only [opensTag, Bool.and_eq_true, bne_iff_ne, ne_eq, List.elem_eq_mem,
            decide_eq_true_eq] at opens
          obtain ⟨inner, after, rfl, unclosed⟩ := exists_first_close opens.2
          exact ⟨d :: inner, List.cons_ne_nil _ _, by simp [Ne.symm opens.1, unclosed],
            ⟨[], after, by simp⟩⟩
      · obtain ⟨body, filled, unclosed, inside⟩ := ih inside
        exact ⟨body, filled, unclosed, inside.trans (List.suffix_cons _ _).isInfix⟩
  · rintro ⟨body, filled, unclosed, inside⟩
    apply hasTag_of_infix inside
    obtain ⟨d, more, rfl⟩ := List.exists_cons_of_ne_nil filled
    simp only [List.mem_cons, not_or] at unclosed
    simp [hasTag, opensTag, Ne.symm unclosed.1]

example : hasTag "1 <> 2 > 0".data = false ∧ hasTag "<<b>".data = true := by decide

end HasTag

section StripTags

/-- A `<` whose `>` never comes is kept with everything after it. -/
theorem stripTagsFrom_unclosed (pending : List Char) {rest : List Char} (unclosed : '>' ∉ rest) :
    stripTagsFrom (some pending) rest = pending ++ rest := by
  induction rest generalizing pending with
  | nil => simp [stripTagsFrom]
  | cons c more ih =>
    simp only [List.mem_cons, not_or] at unclosed
    simp [stripTagsFrom, Ne.symm unclosed.1, ih _ unclosed.2]

/--
What the automaton writes from any state it reaches (nothing pending, or a `<` and no `>` since)
holds no tag: a tag's `>` always ends its removal.
-/
theorem hasTag_stripTagsFrom (cs : List Char) :
    ∀ state : Option (List Char), (∀ pending, state = some pending →
      ∃ inner, pending = '<' :: inner ∧ '>' ∉ inner) →
      hasTag (stripTagsFrom state cs) = false := by
  induction cs with
  | nil =>
    rintro (_ | pending) reached
    · rfl
    · obtain ⟨inner, rfl, unclosed⟩ := reached _ rfl
      exact hasTag_of_unclosed (by simpa [stripTagsFrom] using unclosed)
  | cons c rest ih =>
    have clean := ih none fun _ no => nomatch no
    rintro (_ | pending) reached
    · -- Nothing pending: a `<` starts one; anything else is written as it is.
      by_cases opening : c = '<'
      · simp only [stripTagsFrom, opening, if_true]
        exact ih _ fun _ same => ⟨[], (Option.some.inj same).symm, by simp⟩
      · simp [stripTagsFrom, opening, clean]
    · -- A `<` pending: a `>` ends it, anything else is added to it.
      obtain ⟨inner, rfl, unclosed⟩ := reached _ rfl
      by_cases closing : c = '>'
      · -- `<>` is written back; a tag with something inside goes.
        by_cases empty : inner = [] <;> simp [stripTagsFrom, closing, empty, clean]
      · simp only [stripTagsFrom, closing, if_false]
        exact ih _ fun _ same => ⟨inner ++ [c], (Option.some.inj same).symm, by
          simp [unclosed, Ne.symm closing]⟩

/-- The cleanup leaves a text alone when it holds no tag. -/
theorem stripTagsFrom_of_tagFree {cs : List Char} (clean : hasTag cs = false) :
    stripTagsFrom none cs = cs := by
  induction cs with
  | nil => rfl
  | cons c rest ih =>
    simp only [hasTag, Bool.or_eq_false_iff, Bool.and_eq_false_iff, beq_eq_false_iff_ne] at clean
    obtain ⟨unopened, cleanRest⟩ := clean
    by_cases opening : c = '<'
    · subst opening
      -- A `<` that opens no tag is followed by `>` at once, or by no `>` at all.
      cases rest with
      | nil => simp [stripTagsFrom]
      | cons d more =>
        by_cases closing : d = '>'
        · subst closing
          have moreClean : stripTagsFrom none more = more := by
            simpa [stripTagsFrom] using ih cleanRest
          simp [stripTagsFrom, moreClean]
        · have unclosed : '>' ∉ d :: more := by
            have closes : more.contains '>' = false := by
              simpa [opensTag, closing] using unopened
            simpa [Ne.symm closing] using closes
          simpa [stripTagsFrom] using stripTagsFrom_unclosed ['<'] unclosed
    · simp [stripTagsFrom, opening, ih cleanRest]

/-- The text of a piece of markup holds no tag, and cleaning it once more gives it back. -/
theorem markupText_tagFree (markup : String) :
    hasTag (markupText markup).data = false ∧
      markupText (markupText markup) = markupText markup := by
  have stripped := hasTag_stripTagsFrom markup.data none fun _ no => nomatch no
  -- `strip()` keeps a middle part of a text that holds no tag.
  have clean : hasTag (markupText markup).data = false := by
    cases tag : hasTag (markupText markup).data with
    | false => rfl
    | true => simpa [stripped] using hasTag_of_infix (pyStrip_middle _) tag
  refine ⟨clean, ?_⟩
  calc markupText (markupText markup)
      = pyStrip (markupText markup) := by
        rw [markupText, stripTagsFrom_of_tagFree clean]
    _ = markupText markup := pyStrip_pyStrip _

/-- A kept result's title is the text of its markup. -/
theorem keptResult_title {unquote : String → String} {href titleMarkup : String}
    {result : SearchResult} (kept : keptResult unquote href titleMarkup = some result) :
    result.title = markupText titleMarkup := by
  simp only [keptResult] at kept
  split_ifs at kept
  cases kept
  rfl

end StripTags

/--
For every text, `re.sub(r"<[^>]+>", "", text)` leaves no tag, and leaves the text as it is exactly
when it holds none; so on every results page, each title `search_web` keeps and each snippet it
scans holds no tag, and cleaning it once more gives it back.
-/
theorem searchWeb_removesEveryTag (unquote : String → String) (blocks : List ResultBlock)
    (cs : List Char) :
    hasTag (stripTagsFrom none cs) = false ∧ (stripTagsFrom none cs = cs ↔ hasTag cs = false) ∧
      (∀ result ∈ searchResults unquote blocks,
        hasTag result.title.data = false ∧ markupText result.title = result.title) ∧
      ∀ snippet ∈ searchSnippets blocks,
        hasTag snippet.data = false ∧ markupText snippet = snippet := by
  have stripped := hasTag_stripTagsFrom cs none fun _ no => nomatch no
  refine ⟨stripped, ⟨fun same => same ▸ stripped, stripTagsFrom_of_tagFree⟩, ?_, ?_⟩
  · intro result listed
    obtain ⟨anchor, _, kept⟩ := List.mem_filterMap.1 listed
    rw [keptResult_title kept]
    exact markupText_tagFree _
  · intro snippet scanned
    obtain ⟨markup, _, rfl⟩ := List.mem_map.1 scanned
    exact markupText_tagFree markup

end Moxxy
