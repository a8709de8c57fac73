import Moxxy.Fetch.Report
import Moxxy.Fetch.SearchWeb

/-!
`main()` of both fetch scripts and of `web_crawler`: the arguments, the Google News detours, the
handlers of the exceptions fetching raises, the browser's life around the crawl, and the exit
status. What the libraries answer (the network, `xml.etree`, `HTMLParser`'s tokenizer,
`urllib.parse`, playwright and `html2text`) is a parameter; everything the scripts do with the
answers is modelled.
-/

namespace Moxxy

/--
What fetching can raise, as the handlers of `main` tell them apart: an `HTTPError` with its code
and reason, any other `URLError` with `str(e.reason)`, a `socket.timeout`, and any other exception,
each with `str(e)`.
-/
inductive FetchError where
  | http (code : Int) (reason : String)
  | url (reason : String)
  | timeout (message : String)
  | other (message : String)
  deriving DecidableEq, Repr

/-- The URL fetch mode reads: the argument, with `https://` in front unless it has a scheme. -/
def withScheme (arg : String) : String :=
  if !pyStartsWith arg "http://" && !pyStartsWith arg "https://" then "https://" ++ arg else arg

/--
What the libraries answer `browser/fetch.py`: the text and final URL `fetch_url` returns for a URL
(`""` for none), or what it raises; the items `xml.etree` finds in a text, or the message of its
`ParseError`; the links `parse_rss`'s regex finds in a description; the events `HTMLParser` hands
over for a text; the result blocks of the page `search_web` fetches for a query, or what fetching
it raises; `urllib.parse.unquote`; `str.lower`; whether `urlparse` finds a Google News article
(host with `news.google.com`, path with `/articles/`); and `google_news_to_rss`, whose URLs are
never empty.
-/
structure FetchServices where
  fetchUrl : String → Except FetchError (String × String)
  rssItems : String → Except String (List RssItem)
  anchors : String → List (String × String)
  events : String → List HtmlEvent
  searchPage : String → Except FetchError (List ResultBlock)
  unquote : String → String
  lower : String → String
  isNewsArticle : String → Bool
  googleNewsToRss : String → Option String

/-- `parse_rss(text)`: its listing or `None`, or the message of the `ParseError` it raises. -/
def FetchServices.readRss (w : FetchServices) (text : String) : Except String (Option String) :=
  (w.rssItems text).map (parseRss w.anchors)

/-- The advice printed for a Google News article link, which only a browser can follow. -/
def newsArticleAdvice (url : String) : String :=
  "Google News article links (news.google.com/rss/articles/...) are JavaScript redirects " ++
    "that cannot be fetched directly.\n\nTo read this article, try one of these approaches:\n" ++
    s!"1. Use `browser navigate {url}` to follow the JS redirect and read the page\n" ++
    "2. Search for the article title directly: `browser search \"<article title>\"`\n" ++
    "   then `browser fetch <direct-url>` on the result"

/-- The lines printed for the listing of a Google News feed. -/
def newsResults (listing : String) : List String :=
  "--- NEWS RESULTS ---\n" :: printLimited listing "\n\n... [TRUNCATED] ..."

/--
Fetch mode once `fetch_url(url)` has returned the page: the report, and the exit status, which is 1
only when the page looked like a feed and `parse_rss` raised.
-/
def pageMain (w : FetchServices) (url finalUrl html : String) : List String × Nat :=
  let rss := w.readRss html
  let status := match rss with
    | .error _ => if looksLikeFeed html then 1 else 0
    | .ok _ => 0
  (pageReport w.lower url finalUrl html rss (w.events html), status)

/--
The `try` block of fetch mode on a URL with its scheme: what it prints and the status it exits with,
or the exception that leaves it. A Google News article gets advice; a Google News page is read
through its feed, and when the feed lists nothing the page itself is fetched.
-/
def fetchPage (w : FetchServices) (url : String) : Except FetchError (List String × Nat) :=
  let direct : Unit → Except FetchError (List String × Nat) := fun () =>
    (w.fetchUrl url).map fun fetched => pageMain w url fetched.2 fetched.1
  if w.isNewsArticle url then .ok ([newsArticleAdvice url], 0)
  else
    match w.googleNewsToRss url with
    | none => direct ()
    | some rssUrl =>
      match w.fetchUrl rssUrl with
      | .error raised => .error raised
      | .ok (xml, _) =>
        match w.readRss xml with
        | .error message => .error (.other message)
        | .ok (some listing) => if listing ≠ "" then .ok (newsResults listing, 0) else direct ()
        | .ok none => direct ()

/-- The handlers of fetch mode: the line each exception prints. -/
def fetchFailure (lower : String → String) (url : String) : FetchError → String
  | .http code reason => formatHttpError code reason url
  | .url reason => formatUrlError lower reason url
  | .timeout _ => s!"Connection timed out for {url}\nYou can retry once."
  | .other message => s!"Error fetching {url}: {message}"

/--
The handlers of search mode: an HTTP error names the search, a network error DuckDuckGo's host, and
a timeout is one more exception.
-/
def searchFailure (lower : String → String) (query : String) : FetchError → String
  | .http code reason => formatHttpError code reason s!"DuckDuckGo search for: {query}"
  | .url reason => formatUrlError lower reason "https://html.duckduckgo.com"
  | .timeout message => s!"Search error: {message}"
  | .other message => s!"Search error: {message}"

/-- Search mode: the listing under the limit and status 0, or the one line of its handler and 1. -/
def searchMode (w : FetchServices) (query : String) : List String × Nat :=
  match w.searchPage query with
  | .ok blocks => (printLimited (searchWeb w.unquote query blocks) "\n\n... [TRUNCATED] ...", 0)
  | .error raised => ([searchFailure w.lower query raised], 1)

/--
`main()` of `browser/fetch.py` on `sys.argv`: what it prints, one entry a `print`, and its exit
status.
-/
def fetchMain (w : FetchServices) : List String → List String × Nat
  | _ :: "--search" :: word :: words => searchMode w (" ".intercalate (word :: words))
  | _ :: arg :: _ =>
    let url := withScheme arg
    match fetchPage w url with
    | .ok printed => printed
    | .error raised => ([fetchFailure w.lower url raised], 1)
  | _ => (["Usage: fetch.py <URL> | fetch.py --search <query>"], 1)

/-- The handlers of `browse_network/fetch.py`, where a timeout is one more exception. -/
def browseFailure (url : String) : FetchError → String
  | .http code reason => s!"HTTP Error {code}: {reason} for {url}"
  | .url reason => s!"URL Error: {reason} for {url}"
  | .timeout message => s!"Error fetching {url}: {message}"
  | .other message => s!"Error fetching {url}: {message}"

/--
`main()` of `browse_network/fetch.py` on `sys.argv`, with the text its own `fetch_url` returns for a
URL, or what that raises, and the events `HTMLParser` hands over for a text.
-/
def browseNetworkMain (fetchUrl : String → Except FetchError String)
    (events : String → List HtmlEvent) : List String → List String × Nat
  | _ :: arg :: _ =>
    let url := withScheme arg
    match fetchUrl url with
    | .ok html => (browseReport url (events html), 0)
    | .error raised => ([browseFailure url raised], 1)
  | _ => (["Usage: browse_network <URL>"], 1)

/-- The one line `web_crawler` prints for a page's text: its first 15000 characters, and a note. -/
def crawlOutput (text : String) : String :=
  let output := text.take outputLimit
  if text.length > outputLimit then output ++ "\n\n... [TRUNCATED - PAGE TOO LONG] ..." else output

/--
What playwright and `html2text` answer `web_crawler`: entering `async_playwright()`, launching
Chromium, opening its context and its page, each of which may raise with a message; for a URL, the
text `html2text` makes of the page loaded with `networkidle` and then with `domcontentloaded`, or
the message of what the load raised; and closing the browser and leaving `async_playwright()`,
which may raise too.
-/
structure CrawlServices where
  start : Except String Unit
  launch : Except String Unit
  newContext : Except String Unit
  newPage : Except String Unit
  load : String → Except String String
  retry : String → Except String String
  close : Except String Unit
  stop : Except String Unit

/-- `launch`, `new_context` and `new_page`, awaited in turn before the `try`. -/
def CrawlServices.setup (w : CrawlServices) : Except String Unit := do
  w.launch
  w.newContext
  w.newPage

/--
How a run of `web_crawler` ends: `main` returns, `sys.exit(1)` is called, or an exception no handler
catches escapes, which Python reports with a traceback and exit status 1.
-/
inductive CrawlEnd where
  | returned
  | exited
  | raised (message : String)
  deriving DecidableEq, Repr

/-- The exit status of each ending. -/
def CrawlEnd.status : CrawlEnd → Nat
  | .returned => 0
  | .exited | .raised _ => 1

/--
Cleanup that runs however a block ended, a `finally` or the exit of `async with`: an exception it
raises replaces the ending, `SystemExit` included.
-/
def CrawlEnd.cleanup (ending : CrawlEnd) : Except String Unit → CrawlEnd
  | .ok () => ending
  | .error message => .raised message

/--
A run of `web_crawler`: what it prints on stdout, one entry a `print`, what it prints on stderr,
and how it ends.
-/
structure CrawlRun where
  stdout : List String
  stderr : List String
  ending : CrawlEnd
  deriving DecidableEq, Repr

/--
The `try` of `web_crawler` and its handlers, on the page that opened: the load with `networkidle`,
and after a warning on stderr the load with `domcontentloaded`.
-/
def crawlPage (w : CrawlServices) (url : String) : CrawlRun :=
  match w.load url with
  | .ok text =>
    if pyStrip text = "" then ⟨[s!"Warning: Extracted content for {url} is empty."], [], .returned⟩
    else ⟨[s!"--- CONTENT FOR {url} ---", crawlOutput text], [], .returned⟩
  | .error message =>
    let warning := s!"Warning: networkidle failed for {url}: {message}"
    match w.retry url with
    | .ok text =>
      if pyStrip text ≠ "" then
        ⟨[s!"--- CONTENT FOR {url} (Fallback) ---", crawlOutput text], [warning], .returned⟩
      else ⟨[s!"Error: Could not extract content from {url}"], [warning], .exited⟩
    | .error failure =>
      ⟨[s!"Error: Both crawl attempts failed for {url}: {failure}"], [warning], .exited⟩

/--
The body of `async with async_playwright()`: the browser, its context and its page, then the `try`,
whose `finally` closes the browser.
-/
def crawlBody (w : CrawlServices) (url : String) : CrawlRun :=
  match w.setup with
  | .error message => ⟨[], [], .raised message⟩
  | .ok () =>
    let page := crawlPage w url
    { page with ending := page.ending.cleanup w.close }

/-- `main()` of `web_crawler/crawler.py` on `sys.argv`. -/
def crawlerMain (w : CrawlServices) : List String → CrawlRun
  | _ :: url :: _ =>
    match w.start with
    | .error message => ⟨[], [], .raised message⟩
    | .ok () =>
      -- Leaving `async with` stops playwright, however the body ended.
      let body := crawlBody w url
      { body with ending := body.ending.cleanup w.stop }
  | _ => ⟨["Usage: web_crawler <URL>"], [], .exited⟩

end Moxxy
