import Moxxy.Python.Builtins

/-!
`HTMLToText` of `fetch.py` (both copies, which differ only in how they spell a tag test): its state,
its three handlers, and `get_text`.
-/

namespace Moxxy

/--
An event `HTMLParser.feed` hands to its handler: a start tag with its attributes (a bare attribute
has the value `None`), an end tag, or the text between tags. `HTMLParser` lower-cases tag names; a
self-closing tag is its start tag then its end tag, as `handle_startendtag` does.
-/
inductive HtmlEvent where
  | startTag (tag : String) (attrs : List (String × Option String))
  | endTag (tag : String)
  | data (text : String)
  deriving DecidableEq, Repr

/-- `BLOCK_TAGS`: a line break before and after. -/
def blockTags : List String :=
  ["p", "div", "br", "h1", "h2", "h3", "h4", "h5", "h6", "li", "tr", "blockquote", "pre", "section",
    "article", "header", "footer", "dd", "dt", "figcaption", "table"]

/-- `SKIP_TAGS`: nothing inside is shown. -/
def skipTags : List String := ["script", "style", "noscript", "svg", "head", "template"]

/-- `HEADING_TAGS`. -/
def headingTags : List String := ["h1", "h2", "h3", "h4", "h5", "h6"]

/-- The parser's state: `result`, `skip_depth`, `current_link`, `link_text` and `in_pre`. -/
structure HtmlToText where
  result : List String
  skipDepth : Int
  currentLink : Option String
  linkText : List String
  inPre : Bool
  deriving DecidableEq, Repr

/-- `HTMLToText()`: nothing written, nothing skipped, no link, outside `<pre>`. -/
def HtmlToText.init : HtmlToText := ⟨[], 0, none, [], false⟩

/-- `self.result.append(text)`. -/
def HtmlToText.push (p : HtmlToText) (text : String) : HtmlToText :=
  { p with result := p.result ++ [text] }

/--
`dict(attrs).get("href", "")`: the last `href` attribute wins. A bare `href` gives `None`, which the
code treats as it treats `""`: both are falsy and nothing else reads them.
-/
def hrefOf (attrs : List (String × Option String)) : String :=
  match (attrs.filter (·.1 == "href")).getLast? with
  | some (_, some href) => href
  | _ => ""

/--
The link an `<a>` opens: an `href` that is non-empty and starts with neither `#` nor `javascript:`.
-/
def linkTarget (href : String) : Option String :=
  if href ≠ "" ∧ !pyStartsWith href "#" ∧ !pyStartsWith href "javascript:" then some href else none

/-- `int(tag[1])` for a heading tag. -/
def headingLevel (tag : String) : Nat := (tag.get ⟨1⟩).toNat - '0'.toNat

/-- `"#" * level`. -/
def hashes (level : Nat) : String := ⟨List.replicate level '#'⟩

/--
`re.sub(r"\s+", " ", data)`: each run of whitespace becomes one space; `inSpace` says one was just
written.
-/
def squeezeSpace : Bool → List Char → List Char
  | _, [] => []
  | inSpace, c :: rest =>
    if isSpace c then (if inSpace then squeezeSpace true rest else ' ' :: squeezeSpace true rest)
    else c :: squeezeSpace false rest

/--
`re.sub(r"\n{3,}", "\n\n", text)`: a run of newlines keeps at most two; `run` counts those written.
-/
def squeezeNewlines : Nat → List Char → List Char
  | _, [] => []
  | run, c :: rest =>
    if c = '\n' then
      (if run < 2 then c :: squeezeNewlines (run + 1) rest else squeezeNewlines run rest)
    else c :: squeezeNewlines 0 rest

/--
`handle_starttag`: a skip tag deepens the skip; inside one nothing happens; else the tag's marks.
-/
def HtmlToText.handleStarttag (p : HtmlToText) (tag : String)
    (attrs : List (String × Option String)) : HtmlToText :=
  let tag := pyLower tag
  if skipTags.contains tag then { p with skipDepth := p.skipDepth + 1 }
  else if p.skipDepth ≠ 0 then p
  else
    let p := if blockTags.contains tag then p.push "\n" else p
    let p := if headingTags.contains tag then p.push ("\n" ++ hashes (headingLevel tag) ++ " ")
      else p
    let p := if tag = "a" then
        match linkTarget (hrefOf attrs) with
        | some href => { p with currentLink := some href, linkText := [] }
        | none => p
      else p
    let p := if tag = "li" then p.push "\n- " else p
    let p := if tag = "br" then p.push "\n" else p
    let p := if tag = "pre" then { p with inPre := true }.push "\n```\n" else p
    let p := if tag = "code" ∧ !p.inPre then p.push "`" else p
    let p := if tag = "strong" ∨ tag = "b" then p.push "**" else p
    if tag = "em" ∨ tag = "i" then p.push "*" else p

/--
What the end of a link writes: `[text](href)` of its buffered text, stripped, unless that is empty.
-/
def linkMarkdown (href : String) (linkText : List String) : List String :=
  let text := pyStrip (String.join linkText)
  if text = "" then [] else [s!"[{text}]({href})"]

/--
`handle_endtag`: a skip tag undoes one level of skip; inside one nothing happens; else the marks.
-/
def HtmlToText.handleEndtag (p : HtmlToText) (tag : String) : HtmlToText :=
  let tag := pyLower tag
  if skipTags.contains tag then { p with skipDepth := p.skipDepth - 1 }
  else if p.skipDepth ≠ 0 then p
  else
    let p := if tag = "a" then
        match p.currentLink with
        | some href =>
          { p with
            result := p.result ++ linkMarkdown href p.linkText
            currentLink := none
            linkText := [] }
        | none => p
      else p
    let p := if blockTags.contains tag then p.push "\n" else p
    let p := if tag = "pre" then { p with inPre := false }.push "\n```\n" else p
    let p := if tag = "code" ∧ !p.inPre then p.push "`" else p
    let p := if tag = "strong" ∨ tag = "b" then p.push "**" else p
    if tag = "em" ∨ tag = "i" then p.push "*" else p

/--
`handle_data`: dropped inside a skip, buffered inside a link, else written with its whitespace
squeezed outside `<pre>`.
-/
def HtmlToText.handleData (p : HtmlToText) (data : String) : HtmlToText :=
  if p.skipDepth ≠ 0 then p
  else if p.currentLink.isSome then { p with linkText := p.linkText ++ [data] }
  else p.push (if p.inPre then data else ⟨squeezeSpace false data.toList⟩)

/-- The handler `HTMLParser` calls for one event. -/
def HtmlToText.handle (p : HtmlToText) : HtmlEvent → HtmlToText
  | .startTag tag attrs => p.handleStarttag tag attrs
  | .endTag tag => p.handleEndtag tag
  | .data text => p.handleData text

/-- Feeding markup: the handler called on each of its events in turn. -/
def HtmlToText.feed (p : HtmlToText) (events : List HtmlEvent) : HtmlToText :=
  events.foldl HtmlToText.handle p

/--
`get_text`: the pieces joined, runs of three or more newlines cut to two, and the ends stripped.
-/
def HtmlToText.getText (p : HtmlToText) : String :=
  pyStrip ⟨squeezeNewlines 0 (String.join p.result).toList⟩

end Moxxy
