import Moxxy.Python.Builtins

/-!
`search_web` of `fetch.py`, from the results page on: its two scans of the page, the results it
keeps, and the listing it prints.
-/

namespace Moxxy

/--
`re.sub(r"<[^>]+>", "", text)`, as the leftmost matches fall: from a `<`, everything up to the next
`>` goes when something stands between them. `pending` is the text since a `<` whose `>` has not
come yet; if none comes, it stays.
-/
def stripTagsFrom : Option (List Char) → List Char → List Char
  | none, [] => []
  | some pending, [] => pending
  | none, c :: rest =>
    if c = '<' then stripTagsFrom (some ['<']) rest else c :: stripTagsFrom none rest
  | some pending, c :: rest =>
    if c = '>' then
      (if pending = ['<'] then '<' :: '>' :: stripTagsFrom none rest else stripTagsFrom none rest)
    else stripTagsFrom (some (pending ++ [c])) rest

/-- The text of a piece of markup: tags removed, then `strip()`. -/
def markupText (markup : String) : String := pyStrip ⟨stripTagsFrom none markup.data⟩

/--
`re.search(r"uddg=([^&]+)", link)`: the value after the first `uddg=` that is followed by something
other than `&`, up to the next `&`.
-/
def uddgValue : List Char → Option (List Char)
  | [] => none
  | c :: rest =>
    let value := (rest.drop 4).takeWhile (· ≠ '&')
    if "uddg=".data.isPrefixOf (c :: rest) && !value.isEmpty then some value else uddgValue rest

/--
DuckDuckGo's redirect: a link carrying `uddg=` is replaced by that value, decoded by `unquote`
(`urllib.parse.unquote`); any other link is kept.
-/
def redirectTarget (unquote : String → String) (link : String) : String :=
  if pyContains link "uddg=" then
    match uddgValue link.data with
    | some value => unquote ⟨value⟩
    | none => link
  else link

/-- A result as `search_web` keeps it: `{"title": title, "link": link}`. -/
structure SearchResult where
  title : String
  link : String
  deriving DecidableEq, Repr

/--
One `result__a` match, from its `href` and its title's markup: kept with a title and an `http` link.
-/
def keptResult (unquote : String → String) (href titleMarkup : String) : Option SearchResult :=
  let link := redirectTarget unquote href
  let title := markupText titleMarkup
  if title ≠ "" ∧ pyStartsWith link "http" then some ⟨title, link⟩ else none

/--
One result block of the page: its `result__a` anchor (the `href` and the title's markup), if it
has one, and its `result__snippet` anchor's markup, if it has one.
-/
structure ResultBlock where
  anchor : Option (String × String)
  snippet : Option String
  deriving DecidableEq, Repr

/-- The `result__a` scan: every block's anchor in page order, kept when its title and link pass. -/
def searchResults (unquote : String → String) (blocks : List ResultBlock) : List SearchResult :=
  (blocks.filterMap ResultBlock.anchor).filterMap fun anchor => keptResult unquote anchor.1 anchor.2

/-- The `result__snippet` scan: every block's snippet in page order, as text. -/
def searchSnippets (blocks : List ResultBlock) : List String :=
  (blocks.filterMap ResultBlock.snippet).map markupText

/--
The entry of the `i`-th result (from one): its title and link, and the snippet at index `i - 1`
when there is one and it is not empty.
-/
def searchEntry (i : Nat) (result : SearchResult) (snippets : List String) : String :=
  let title := result.title
  let link := result.link
  let entry := s!"{i}. **{title}**\n   {link}"
  match snippets.get? (i - 1) with
  | some snippet => if snippet ≠ "" then entry ++ s!"\n   {snippet}" else entry
  | none => entry

/-- The loop over `enumerate(results[:10], 1)`. -/
def searchEntries (results : List SearchResult) (snippets : List String) : List String :=
  (results.take 10).mapIdx fun j result => searchEntry (j + 1) result snippets

/--
`search_web(query)` on the page the search returned, as its result blocks, with `unquote` for
`urllib.parse.unquote`.
-/
def searchWeb (unquote : String → String) (query : String) (blocks : List ResultBlock) : String :=
  let results := searchResults unquote blocks
  let snippets := searchSnippets blocks
  if results.isEmpty then s!"No search results found for: {query}\nTry different search terms."
  else
    "\n\n".intercalate ([s!"--- SEARCH RESULTS FOR: {query} ---\n"] ++
      searchEntries results snippets ++
      ["\nUse `browser fetch <url>` to read any of these pages."])

end Moxxy
