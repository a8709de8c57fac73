import Moxxy.Fetch.HtmlToText

/-!
What `fetch.py` prints around the page text: its error messages, the content-quality warnings, the
RSS listing, and the report of fetch mode in both copies of the script.
-/

namespace Moxxy

/-- `format_http_error(e, url)`, from the error's status code and reason. -/
def formatHttpError (code : Int) (reason url : String) : String :=
  if code = 404 ∨ code = 410 then
    s!"HTTP {code}: Page not found at {url}\nDO NOT RETRY -- this page does not exist. " ++
      "Check the URL for typos."
  else if code = 403 then
    s!"HTTP 403: Access forbidden at {url}\nThe server blocked this request. " ++
      s!"Try: browser navigate {url}"
  else if code = 429 then s!"HTTP 429: Rate limited at {url}\nWait before retrying this URL."
  else if 500 ≤ code ∧ code < 600 then
    s!"HTTP {code}: Server error at {url}\nThis may be temporary -- you can retry once."
  else s!"HTTP {code}: {reason} for {url}"

/--
`format_url_error(e, url)`, from `str(e.reason)`, with `lower` for Python's `str.lower`, which
maps more than `A`-`Z`.
-/
def formatUrlError (lower : String → String) (reason url : String) : String :=
  if pyContains reason "Name or service not known" || pyContains reason "nodename nor servname" ||
      pyContains reason "getaddrinfo" then
    s!"DNS resolution failed for {url}\nDO NOT RETRY -- the domain does not exist. Check the URL."
  else if pyContains reason "timed out" || pyContains (lower reason) "timeout" then
    s!"Connection timed out for {url}\nYou can retry once."
  else if pyContains reason "Connection refused" then
    s!"Connection refused by {url}\nThe server is not accepting connections."
  else if pyContains (lower reason) "certificate" || pyContains (lower reason) "ssl" then
    s!"SSL/TLS error for {url}: {reason}"
  else s!"Network error for {url}: {reason}"

/-- `antibot_markers`: a phrase of an anti-bot page, and what it means. -/
def antibotMarkers : List (String × String) :=
  [("enable javascript", "This page requires JavaScript to render."),
    ("please enable cookies", "This page requires cookies."),
    ("checking your browser", "Cloudflare or similar anti-bot protection detected."),
    ("just a moment", "Anti-bot challenge page detected."),
    ("ray id", "Cloudflare protection page detected."),
    ("captcha", "CAPTCHA challenge detected."),
    ("access denied", "Access was denied by the server.")]

/--
The loop over `antibot_markers`: the warning of the first marker in the lowered text, when the text
has fewer than 2000 characters; the loop stops there.
-/
def antibotWarning (textLower : String) (length : Nat) (url : String) :
    List (String × String) → List String
  | [] => []
  | (marker, msg) :: rest =>
    if pyContains textLower marker ∧ length < 2000 then
      [s!"WARNING: {msg} Try: browser navigate {url}"]
    else antibotWarning textLower length url rest

/--
`check_content_quality(text, url)`: an anti-bot warning, or else a thin-content warning when the
stripped text has fewer than 200 characters.
-/
def checkContentQuality (lower : String → String) (text url : String) : List String :=
  let warnings := antibotWarning (lower text) text.length url antibotMarkers
  let stripped := (pyStrip text).length
  if stripped < 200 ∧ warnings.isEmpty then
    warnings ++ [s!"WARNING: Very little content extracted ({stripped} chars). " ++
      s!"The page may require JavaScript. Try: browser navigate {url}"]
  else warnings

/-- An `<item>` of a feed: the stripped texts of its children, `""` for one it lacks. -/
structure RssItem where
  title : String
  link : String
  pubDate : String
  source : String
  description : String
  deriving DecidableEq, Repr

/--
One item's lines in `parse_rss`: its entry, then at most three of the linked titles in its
description that are not empty and differ from its title. `anchors` stands for the regex scan of
the description, giving each `<a href="...">title</a>` match as its link and raw title.
-/
def rssLines (anchors : String → List (String × String)) (i : Nat) (item : RssItem) :
    List String :=
  let title := item.title
  let subArticles := if item.description = "" then [] else
    (anchors item.description).filterMap fun anchor =>
      let subTitle := pyStrip anchor.2
      if subTitle ≠ "" ∧ subTitle ≠ title then some s!"  - {subTitle}" else none
  let entry := s!"{i}. **{title}**"
  let entry := if item.source ≠ "" then entry ++ " â€” " ++ item.source else entry
  let entry := if item.pubDate ≠ "" then entry ++ s!" ({item.pubDate})" else entry
  let entry := if item.link ≠ "" then entry ++ s!"\n   {item.link}" else entry
  entry :: subArticles.take 3

/-- `parse_rss(xml_text)` on the items the XML holds: nothing without items, else their lines. -/
def parseRss (anchors : String → List (String × String)) (items : List RssItem) :
    Option String :=
  if items = [] then none
  else some ("\n\n".intercalate
    ((items.mapIdx fun j item => rssLines anchors (j + 1) item).flatten))

/-- The character limit of every listing the script prints. -/
def outputLimit : Nat := 15000

/-- Printing a text under the limit: the text, or its first 15000 characters and the note. -/
def printLimited (text note : String) : List String :=
  if text.length > outputLimit then [text.take outputLimit, note] else [text]

/-- `html.lstrip().startswith(...)` for the three openings of an RSS or Atom document. -/
def looksLikeFeed (html : String) : Bool :=
  let stripped : String := ⟨html.data.dropWhile isSpace⟩
  pyStartsWith stripped "<?xml" || pyStartsWith stripped "<rss" || pyStartsWith stripped "<feed"

/--
The lines fetch mode of `browser/fetch.py` prints once the page is fetched: its URL as asked and
as answered (`""` for none), its raw text, what `parse_rss` makes of that text (its `None` or text,
or the message of the exception it raises), and the events `HTMLParser.feed` hands over for it.
-/
def pageReport (lower : String → String) (url finalUrl html : String)
    (rss : Except String (Option String)) (events : List HtmlEvent) : List String :=
  let redirectNote := if finalUrl ≠ "" ∧ finalUrl ≠ url then s!"(Redirected to: {finalUrl})\n"
    else ""
  let shown := if finalUrl ≠ "" then finalUrl else url
  let noted := if redirectNote ≠ "" then [redirectNote] else []
  let htmlReport : Unit → List String := fun () =>
    let text := (HtmlToText.init.feed events).getText
    if pyStrip text = "" then
      [s!"Warning: No readable content extracted from {url}",
        s!"The page may require JavaScript -- try: browser navigate {url}"]
    else
      let warnings := checkContentQuality lower text url
      [s!"--- CONTENT FROM {shown} ---\n"] ++ noted ++
        printLimited text "\n\n... [TRUNCATED - PAGE TOO LONG] ..." ++
        (if warnings.isEmpty then [] else "\n---" :: warnings)
  if looksLikeFeed html then
    match rss with
    | .error message => [s!"Error fetching {url}: {message}"]
    | .ok (some listing) =>
      if listing ≠ "" then [s!"--- FEED FROM {shown} ---\n"] ++ noted ++ [listing]
      else htmlReport ()
    | .ok none => htmlReport ()
  else htmlReport ()

/-- The lines `browse_network/fetch.py` prints once the page is fetched. -/
def browseReport (url : String) (events : List HtmlEvent) : List String :=
  let text := (HtmlToText.init.feed events).getText
  if pyStrip text = "" then
    [s!"Warning: No readable content extracted from {url}",
      "The page may require JavaScript to render content."]
  else
    [s!"--- CONTENT FROM {url} ---\n"] ++
      printLimited text "\n\n... [TRUNCATED - PAGE TOO LONG] ..."

end Moxxy
