import Moxxy.Fetch.SearchWeb

/-!
How `search_web` pairs results with snippets: the two scans are joined by index, which is the
pairing by block only on pages where every block has a kept result exactly when it has a snippet.
-/

namespace Moxxy

/-- The result a block lists: its anchor, when the title and the link pass. -/
def ResultBlock.result (unquote : String → String) (block : ResultBlock) : Option SearchResult :=
  block.anchor.bind fun anchor => keptResult unquote anchor.1 anchor.2

/-- Each kept result of the page with its own block's snippet, as text. -/
def ownResults (unquote : String → String) (blocks : List ResultBlock) :
    List (SearchResult × Option String) :=
  blocks.filterMap fun block =>
    (block.result unquote).map fun result => (result, block.snippet.map markupText)

/-- An entry printed with a given snippet, shown when there is one and it is not empty. -/
def entryWithSnippet (i : Nat) (result : SearchResult) (snippet : Option String) : String :=
  let title := result.title
  let link := result.link
  let entry := s!"{i}. **{title}**\n   {link}"
  match snippet with
  | some snippet => if snippet ≠ "" then entry ++ s!"\n   {snippet}" else entry
  | none => entry

/-- The listing of the pairing by block: the first ten kept results, each with its own snippet. -/
def ownListing (unquote : String → String) (blocks : List ResultBlock) : List String :=
  ((ownResults unquote blocks).take 10).mapIdx fun j own => entryWithSnippet (j + 1) own.1 own.2

/-- A page on which every block has a kept result exactly when it has a snippet. -/
def Aligned (unquote : String → String) (blocks : List ResultBlock) : Prop :=
  ∀ block ∈ blocks, (block.result unquote).isSome = block.snippet.isSome

/-- The `i`-th entry is printed with the snippet at index `i - 1` of the scan. -/
theorem searchEntry_eq (i : Nat) (result : SearchResult) (snippets : List String) :
    searchEntry i result snippets = entryWithSnippet i result (snippets.get? (i - 1)) := rfl

/-- An empty snippet prints as no snippet. -/
@[simp] theorem entryWithSnippet_getD (i : Nat) (result : SearchResult) (snippet : Option String) :
    entryWithSnippet i result (some (snippet.getD "")) = entryWithSnippet i result snippet := by
  cases snippet <;> rfl

/-- The results scan lists exactly the kept results, in block order. -/
theorem searchResults_eq (unquote : String → String) (blocks : List ResultBlock) :
    searchResults unquote blocks = (ownResults unquote blocks).map Prod.fst := by
  -- Both sides keep, block by block, the anchor that passes.
  simp only [searchResults, ownResults, ResultBlock.result, List.filterMap_filterMap,
    List.map_filterMap, Option.map_map, Function.comp_def, Option.map_id']

/-- On an aligned page the snippet scan lists each kept result's own snippet, in the same order. -/
theorem searchSnippets_of_aligned {unquote : String → String} {blocks : List ResultBlock}
    (aligned : Aligned unquote blocks) :
    searchSnippets blocks = (ownResults unquote blocks).map fun own => own.2.getD "" := by
  induction blocks with
  | nil => rfl
  | cons block rest ih =>
    have rest := ih fun other member => aligned other (List.mem_cons_of_mem _ member)
    have both := aligned block (List.mem_cons_self _ _)
    simp only [searchSnippets, ownResults] at rest ⊢
    -- A block counts in both scans or in neither.
    cases kept : block.result unquote <;> cases found : block.snippet <;>
      simp_all [List.filterMap_cons]

/-- The listing's `j`-th entry, for a listing built from any results and snippets. -/
theorem searchEntries_getElem? (results : List SearchResult) (snippets : List String) (j : Nat) :
    (searchEntries results snippets)[j]? =
      ((results.take 10)[j]?).map fun result => entryWithSnippet (j + 1) result snippets[j]? := by
  simp [searchEntries, searchEntry_eq]

/-- On an aligned page the listing pairs every result with its own block's snippet. -/
theorem searchEntries_of_aligned {unquote : String → String} {blocks : List ResultBlock}
    (aligned : Aligned unquote blocks) :
    searchEntries (searchResults unquote blocks) (searchSnippets blocks) =
      ownListing unquote blocks := by
  apply List.ext_getElem?
  intro j
  rw [searchEntries_getElem?, searchResults_eq, searchSnippets_of_aligned aligned]
  simp only [ownListing, List.getElem?_mapIdx, List.getElem?_map, List.getElem?_take]
  -- Result and snippet are read at the same index of the same list.
  split
  · cases (ownResults unquote blocks)[j]? <;> simp
  · rfl

/-- A block whose result is dropped adds nothing to the kept results. -/
theorem ownResults_cons_of_dropped {unquote : String → String} {dropped : ResultBlock}
    (unlisted : dropped.result unquote = none) (blocks : List ResultBlock) :
    ownResults unquote (dropped :: blocks) = ownResults unquote blocks := by
  simp [ownResults, unlisted]

/--
In front of an aligned page, a block with a snippet whose result is dropped moves every snippet one
result down: the first listed result gets that block's snippet, each later one the snippet of the
block before its own.
-/
theorem searchEntries_of_dropped {unquote : String → String} {dropped : ResultBlock}
    {markup : String} {blocks : List ResultBlock} (unlisted : dropped.result unquote = none)
    (found : dropped.snippet = some markup) (aligned : Aligned unquote blocks) :
    (∀ (within : 0 < (ownResults unquote blocks).length),
      (searchEntries (searchResults unquote (dropped :: blocks))
          (searchSnippets (dropped :: blocks)))[0]? =
        some (entryWithSnippet 1 (ownResults unquote blocks)[0].1 (some (markupText markup)))) ∧
    ∀ j, j + 1 < 10 → ∀ (within : j + 1 < (ownResults unquote blocks).length),
      (searchEntries (searchResults unquote (dropped :: blocks))
          (searchSnippets (dropped :: blocks)))[j + 1]? =
        some (entryWithSnippet (j + 2) (ownResults unquote blocks)[j + 1].1
          (ownResults unquote blocks)[j].2) := by
  have snippets : searchSnippets (dropped :: blocks) =
      markupText markup :: (ownResults unquote blocks).map fun own => own.2.getD "" := by
    rw [← searchSnippets_of_aligned aligned]
    simp [searchSnippets, found]
  rw [searchResults_eq, ownResults_cons_of_dropped unlisted, snippets]
  refine ⟨fun within => ?_, fun j listed within => ?_⟩
  · simp [searchEntries_getElem?, List.getElem?_take, within]
  · have earlier : j < (ownResults unquote blocks).length := by omega
    simp [searchEntries_getElem?, List.getElem?_take, listed, within,
      List.getElem?_eq_getElem earlier]

/--
A page whose first block is an ad with a relative link, which the results scan drops, while the
snippet scan keeps its snippet.
-/
def droppedAdPage : List ResultBlock :=
  [⟨some ("/y.js?ad_domain=shop.example", "Shop <b>deals</b>"), some "Ad: <b>deals</b> today"⟩,
    ⟨some ("https://b.example", "<b>B</b>"), some "About B"⟩]

/-- A page whose first result has no snippet. -/
def snippetlessFirstPage : List ResultBlock :=
  [⟨some ("https://a.example", "A"), none⟩, ⟨some ("https://b.example", "B"), some "About B"⟩]

/--
`search_web` pairs results and snippets by index, not by block. The ad's snippet is printed under
the next result, and a result without a snippet takes the next block's; the pairing is the one by
block on every aligned page, and one dropped result in front of an aligned page moves every snippet
one result down.
-/
theorem searchWeb_pairsSnippetsByIndex :
    (∀ unquote, searchWeb unquote "q" droppedAdPage =
        "--- SEARCH RESULTS FOR: q ---\n\n\n1. **B**\n   https://b.example\n   Ad: deals today" ++
          "\n\n\nUse `browser fetch <url>` to read any of these pages." ∧
      ownListing unquote droppedAdPage = ["1. **B**\n   https://b.example\n   About B"]) ∧
    (∀ unquote, searchWeb unquote "q" snippetlessFirstPage =
        "--- SEARCH RESULTS FOR: q ---\n\n\n1. **A**\n   https://a.example\n   About B" ++
          "\n\n2. **B**\n   https://b.example" ++
          "\n\n\nUse `browser fetch <url>` to read any of these pages." ∧
      ownListing unquote snippetlessFirstPage =
        ["1. **A**\n   https://a.example", "2. **B**\n   https://b.example\n   About B"]) ∧
    (∀ unquote blocks, Aligned unquote blocks →
      searchEntries (searchResults unquote blocks) (searchSnippets blocks) =
        ownListing unquote blocks) ∧
    ∀ unquote (dropped : ResultBlock) markup blocks, dropped.result unquote = none →
      dropped.snippet = some markup → Aligned unquote blocks →
      ∀ j, j + 1 < 10 → ∀ (within : j + 1 < (ownResults unquote blocks).length),
        (searchEntries (searchResults unquote (dropped :: blocks))
            (searchSnippets (dropped :: blocks)))[j + 1]? =
          some (entryWithSnippet (j + 2) (ownResults unquote blocks)[j + 1].1
            (ownResults unquote blocks)[j].2) := by
  refine ⟨fun unquote => ?_, fun unquote => ?_, fun _ _ aligned => searchEntries_of_aligned aligned,
    fun _ _ _ _ unlisted found aligned => (searchEntries_of_dropped unlisted found aligned).2⟩
  · -- The ad's link is relative, so only the second block's result is listed.
    have kept : searchResults unquote droppedAdPage = [⟨"B", "https://b.example"⟩] := rfl
    have own : ownResults unquote droppedAdPage =
        [(⟨"B", "https://b.example"⟩, some "About B")] := rfl
    exact ⟨by simp only [searchWeb, kept]; decide, by simp only [ownListing, own]; decide⟩
  · -- Both results are listed; only the second block has a snippet.
    have kept : searchResults unquote snippetlessFirstPage =
        [⟨"A", "https://a.example"⟩, ⟨"B", "https://b.example"⟩] := rfl
    have own : ownResults unquote snippetlessFirstPage =
        [(⟨"A", "https://a.example"⟩, none), (⟨"B", "https://b.example"⟩, some "About B")] := rfl
    exact ⟨by simp only [searchWeb, kept]; decide, by simp only [ownListing, own]; decide⟩

end Moxxy
