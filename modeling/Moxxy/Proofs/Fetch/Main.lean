import Mathlib.Data.List.Infix
import Moxxy.Fetch.Main

/-!
How the fetch scripts and `web_crawler` fail: whatever goes wrong in the scripts' own handling,
`main` makes one `print` call and exits with status 1, and when it was reading a URL that call names
it. A printed message may itself hold several lines.
-/

namespace Moxxy

section Messages

/-- A text holds whatever it is appended to. -/
theorem infix_append_right_data {u s : String} (inside : u.data <:+: s.data) (t : String) :
    u.data <:+: (s ++ t).data := by
  rw [String.data_append]
  exact inside.trans (List.prefix_append _ _).isInfix

/-- A text holds whatever is appended last. -/
theorem infix_append_self_data (s u : String) : u.data <:+: (s ++ u).data := by
  rw [String.data_append]
  exact (List.suffix_append _ _).isInfix

/-- Every message of `format_http_error` names the URL. -/
theorem formatHttpError_names_url (code : Int) (reason url : String) :
    url.data <:+: (formatHttpError code reason url).data := by
  -- In each branch the URL is one piece of the message: peel off what follows it.
  unfold formatHttpError
  split_ifs <;> repeat' first | exact infix_append_self_data _ _ | apply infix_append_right_data

/-- Every message of `format_url_error` names the URL. -/
theorem formatUrlError_names_url (lower : String → String) (reason url : String) :
    url.data <:+: (formatUrlError lower reason url).data := by
  unfold formatUrlError
  split_ifs <;> repeat' first | exact infix_append_self_data _ _ | apply infix_append_right_data

/-- Every line a handler of fetch mode prints names the URL. -/
theorem fetchFailure_names_url (lower : String → String) (url : String) (raised : FetchError) :
    url.data <:+: (fetchFailure lower url raised).data := by
  cases raised with
  | http code reason => exact formatHttpError_names_url code reason url
  | url reason => exact formatUrlError_names_url lower reason url
  | timeout _ | other _ =>
    repeat' first | exact infix_append_self_data _ _ | apply infix_append_right_data

/-- Every line a handler of `browse_network/fetch.py` prints names the URL. -/
theorem browseFailure_names_url (url : String) (raised : FetchError) :
    url.data <:+: (browseFailure url raised).data := by
  cases raised <;> repeat' first | exact infix_append_self_data _ _ | apply infix_append_right_data

end Messages

section FetchMode

variable (w : FetchServices)

/-- Once the page is fetched, fetch mode fails only when `parse_rss` raises on a feed. -/
theorem pageMain_failed (url finalUrl html : String)
    (failed : (pageMain w url finalUrl html).2 ≠ 0) :
    ∃ message : String,
      (pageMain w url finalUrl html).1 = [s!"Error fetching {url}: {message}"] := by
  unfold pageMain at failed ⊢
  cases rss : w.readRss html with
  | ok _ => simp [rss] at failed
  | error message =>
    by_cases feed : looksLikeFeed html = true
    · exact ⟨message, by simp [pageReport, feed]⟩
    · simp [rss, feed] at failed

/-- Fetching the page itself fails, if at all, with one print naming the URL. -/
theorem fetchDirect_failed {url : String} {printed : List String × Nat}
    (ran : (w.fetchUrl url).map (fun fetched => pageMain w url fetched.2 fetched.1) = .ok printed)
    (failed : printed.2 ≠ 0) : ∃ line, printed.1 = [line] ∧ url.data <:+: line.data := by
  cases fetched : w.fetchUrl url with
  | error _ => simp [fetched, Except.map] at ran
  | ok page =>
    simp only [fetched, Except.map, Except.ok.injEq] at ran
    subst ran
    -- The line is the one the generic handler would print.
    obtain ⟨message, printed⟩ := pageMain_failed w url page.2 page.1 failed
    exact ⟨_, printed, fetchFailure_names_url w.lower url (.other message)⟩

/--
The `try` block of fetch mode, when it ends without an exception but with status 1, made one print
call, naming the URL.
-/
theorem fetchPage_failed {url : String} {printed : List String × Nat}
    (ran : fetchPage w url = .ok printed) (failed : printed.2 ≠ 0) :
    ∃ line, printed.1 = [line] ∧ url.data <:+: line.data := by
  unfold fetchPage at ran
  split_ifs at ran with article
  · -- The advice for an article exits with 0.
    cases ran
    exact absurd rfl failed
  · split at ran
    · exact fetchDirect_failed w ran failed
    · -- Through the feed: a listing exits with 0; an empty one falls back to the page.
      split at ran
      · cases ran
      · split at ran
        · cases ran
        · split_ifs at ran
          · cases ran
            exact absurd rfl failed
          · exact fetchDirect_failed w ran failed
        · exact fetchDirect_failed w ran failed

end FetchMode

/--
`browser/fetch.py` exits with a nonzero status only after one print call; in fetch mode it names the
URL.
-/
theorem fetchMain_failed (w : FetchServices) (argv : List String)
    (failed : (fetchMain w argv).2 ≠ 0) :
    ∃ line, (fetchMain w argv).1 = [line] ∧
      ∀ script arg rest, argv = script :: arg :: rest → (arg = "--search" → rest = []) →
        (withScheme arg).data <:+: line.data := by
  rcases argv with _ | ⟨script, _ | ⟨arg, rest⟩⟩
  · exact ⟨_, rfl, fun _ _ _ no => nomatch no⟩
  · exact ⟨_, rfl, fun _ _ _ no => nomatch no⟩
  by_cases search : arg = "--search" ∧ rest ≠ []
  · -- Search mode prints once when it fails, and reads no URL.
    obtain ⟨rfl, queried⟩ := search
    obtain ⟨word, words, rfl⟩ := List.exists_cons_of_ne_nil queried
    rw [fetchMain.eq_1] at failed ⊢
    have unread : ∀ script' arg rest,
        script :: "--search" :: word :: words = script' :: arg :: rest →
        (arg = "--search" → rest = []) → False := by
      intro _ _ _ same plain
      simp only [List.cons_eq_cons] at same
      obtain ⟨-, rfl, rfl⟩ := same
      exact nomatch plain rfl
    unfold searchMode at failed ⊢
    cases searched : w.searchPage (" ".intercalate (word :: words)) with
    | ok _ => simp [searched] at failed
    | error _ => exact ⟨_, rfl, fun _ _ _ same plain => (unread _ _ _ same plain).elim⟩
  · -- Fetch mode: its handlers and the feed's parse error both name the URL.
    rw [fetchMain.eq_2 _ _ _ _ fun _ _ same more => search ⟨same, by simp [more]⟩] at failed ⊢
    have read : ∀ {line : String}, (withScheme arg).data <:+: line.data → ∀ script' arg' rest',
        script :: arg :: rest = script' :: arg' :: rest' → (arg' = "--search" → rest' = []) →
          (withScheme arg').data <:+: line.data := by
      intro _ named _ _ _ same _
      simp only [List.cons_eq_cons] at same
      exact same.2.1 ▸ named
    cases ran : fetchPage w (withScheme arg) with
    | ok printed =>
      simp only [ran] at failed ⊢
      obtain ⟨line, printed, named⟩ := fetchPage_failed w ran failed
      exact ⟨line, printed, read named⟩
    | error raised => exact ⟨_, rfl, read (fetchFailure_names_url _ _ _)⟩

/--
`browse_network/fetch.py` exits with a nonzero status only after one print call, naming the URL.
-/
theorem browseNetworkMain_failed (fetchUrl : String → Except FetchError String)
    (events : String → List HtmlEvent) (argv : List String)
    (failed : (browseNetworkMain fetchUrl events argv).2 ≠ 0) :
    ∃ line, (browseNetworkMain fetchUrl events argv).1 = [line] ∧
      ∀ script arg rest, argv = script :: arg :: rest → (withScheme arg).data <:+: line.data := by
  rcases argv with _ | ⟨script, _ | ⟨arg, rest⟩⟩
  · exact ⟨_, rfl, fun _ _ _ no => nomatch no⟩
  · exact ⟨_, rfl, fun _ _ _ no => nomatch no⟩
  simp only [browseNetworkMain] at failed ⊢
  cases fetched : fetchUrl (withScheme arg) with
  | ok _ => simp [fetched] at failed
  | error raised =>
    refine ⟨_, rfl, fun _ _ _ same => ?_⟩
    simp only [List.cons_eq_cons] at same
    exact same.2.1 ▸ browseFailure_names_url _ _

/--
In both fetch scripts, every run that exits with a nonzero status makes exactly one `print` call,
whose text may span several lines; in fetch mode, which reads a URL argument rather than `--search`
and a query, that text names the URL as read, with `https://` in front when it had no scheme.
-/
theorem fetchScripts_failWithOnePrint (w : FetchServices)
    (fetchUrl : String → Except FetchError String) (events : String → List HtmlEvent)
    (argv : List String) :
    ((fetchMain w argv).2 ≠ 0 → ∃ line, (fetchMain w argv).1 = [line] ∧
      ∀ script arg rest, argv = script :: arg :: rest → (arg = "--search" → rest = []) →
        (withScheme arg).data <:+: line.data) ∧
    ((browseNetworkMain fetchUrl events argv).2 ≠ 0 →
      ∃ line, (browseNetworkMain fetchUrl events argv).1 = [line] ∧
        ∀ script arg rest, argv = script :: arg :: rest → (withScheme arg).data <:+: line.data) :=
  ⟨fetchMain_failed w argv, browseNetworkMain_failed fetchUrl events argv⟩

/-- A site that answers every request with 404. -/
def notFoundServices : FetchServices where
  fetchUrl _ := .error (.http 404 "Not Found")
  rssItems _ := .ok []
  anchors _ := []
  events _ := []
  searchPage _ := .error (.http 404 "Not Found")
  unquote := id
  lower := pyLower
  isNewsArticle _ := false
  googleNewsToRss _ := none

/-- Both scripts asked for a missing page without a scheme. -/
def missingPageArgv : List String := ["fetch.py", "example.com/missing"]

/--
There both scripts fail, and `browser/fetch.py` says in its one print, over two lines, not to retry
the page it names.
-/
theorem fetchScripts_failWithOnePrint_notFound :
    (fetchMain notFoundServices missingPageArgv).2 ≠ 0 ∧
      (browseNetworkMain (fun _ => .error (.http 404 "Not Found")) (fun _ => [])
        missingPageArgv).2 ≠ 0 ∧
      (fetchMain notFoundServices missingPageArgv).1 =
        ["HTTP 404: Page not found at https://example.com/missing\nDO NOT RETRY -- " ++
          "this page does not exist. Check the URL for typos."] ∧
      (∃ line, (fetchMain notFoundServices missingPageArgv).1 = [line] ∧
        ∀ script arg rest, missingPageArgv = script :: arg :: rest →
          (arg = "--search" → rest = []) → (withScheme arg).data <:+: line.data) ∧
      ∃ line, (browseNetworkMain (fun _ => .error (.http 404 "Not Found")) (fun _ => [])
          missingPageArgv).1 = [line] ∧
        ∀ script arg rest, missingPageArgv = script :: arg :: rest →
          (withScheme arg).data <:+: line.data :=
  have failed := fetchScripts_failWithOnePrint notFoundServices
    (fun _ => .error (.http 404 "Not Found")) (fun _ => []) missingPageArgv
  ⟨by decide, by decide, by decide, failed.1 (by decide), failed.2 (by decide)⟩

section Crawler

variable (w : CrawlServices)

/-- Cleanup that raises makes the status nonzero; cleanup that returns keeps it. -/
@[simp] theorem CrawlEnd.status_cleanup (ending : CrawlEnd) (cleanup : Except String Unit) :
    (ending.cleanup cleanup).status ≠ 0 ↔ ending.status ≠ 0 ∨ ∃ message, cleanup = .error message :=
  by cases cleanup <;> simp [CrawlEnd.cleanup, CrawlEnd.status]

/-- A run ends with `sys.exit(1)` past a cleanup only when the cleanup returned. -/
theorem CrawlEnd.cleanup_eq_exited {ending : CrawlEnd} {cleanup : Except String Unit}
    (exited : ending.cleanup cleanup = .exited) : ending = .exited ∧ cleanup = .ok () := by
  cases cleanup with
  | ok => exact ⟨exited, rfl⟩
  | error => cases exited

/-- An exception escapes past a cleanup when the block raised it or the cleanup did. -/
theorem CrawlEnd.cleanup_eq_raised {ending : CrawlEnd} {cleanup : Except String Unit}
    {message : String} (raised : ending.cleanup cleanup = .raised message) :
    ending = .raised message ∨ cleanup = .error message := by
  cases cleanup with
  | ok => exact .inl raised
  | error => cases raised; exact .inr rfl

/-- Some step of the browser's life raises: entering playwright, the setup, closing, or leaving. -/
def CrawlServices.Raises : Prop :=
  (∃ message, w.start = .error message) ∨ (∃ message, w.setup = .error message) ∨
    (∃ message, w.close = .error message) ∨ ∃ message, w.stop = .error message

/-- The crawl of a page fails: the first load raises, and the second raises or reads blank. -/
def PageFails (url : String) : Prop :=
  (∃ message, w.load url = .error message) ∧ ∀ text, w.retry url = .ok text → pyStrip text = ""

/-- The handlers catch every exception of the loads: the `try` never lets one escape. -/
theorem crawlPage_not_raised (url message : String) :
    (crawlPage w url).ending ≠ .raised message := by
  unfold crawlPage
  cases w.load url with
  | ok text => by_cases blank : pyStrip text = "" <;> simp [blank]
  | error _ =>
    cases w.retry url with
    | ok text => by_cases blank : pyStrip text = "" <;> simp [blank]
    | error _ => simp

/-- The `try` exits with status 1 exactly when both loads fail or the second reads blank. -/
theorem crawlPage_failed_iff (url : String) :
    (crawlPage w url).ending.status ≠ 0 ↔ PageFails w url := by
  unfold crawlPage PageFails
  cases loaded : w.load url with
  | ok text =>
    -- A first load that returns, blank or not, ends with status 0.
    by_cases blank : pyStrip text = "" <;> simp [blank, CrawlEnd.status]
  | error first =>
    cases retried : w.retry url with
    | ok text => by_cases blank : pyStrip text = "" <;> simp [retried, blank, CrawlEnd.status]
    | error message => simp [retried, CrawlEnd.status]

/-- The `try` calls `sys.exit(1)` only after one print, naming the URL. -/
theorem crawlPage_exited (url : String) (exited : (crawlPage w url).ending = .exited) :
    ∃ line, (crawlPage w url).stdout = [line] ∧ url.data <:+: line.data := by
  unfold crawlPage at exited ⊢
  cases loaded : w.load url with
  | ok text =>
    rw [loaded] at exited
    by_cases blank : pyStrip text = "" <;> simp [blank] at exited
  | error _ =>
    -- Both lines of the second attempt's failures end with the URL or hold it.
    cases retried : w.retry url with
    | ok text =>
      by_cases blank : pyStrip text = ""
      · simp only [retried, blank, ne_eq, not_true_eq_false, if_false]
        exact ⟨_, rfl, by
          repeat' first | exact infix_append_self_data _ _ | apply infix_append_right_data⟩
      · simp [loaded, retried, blank] at exited
    | error message =>
      simp only [retried]
      exact ⟨_, rfl, by
        repeat' first | exact infix_append_self_data _ _ | apply infix_append_right_data⟩

/-- The body of `async with` exits with status 1 when its setup, its `try` or its close fails. -/
theorem crawlBody_failed_iff (url : String) :
    (crawlBody w url).ending.status ≠ 0 ↔ (∃ message, w.setup = .error message) ∨
      PageFails w url ∨ ∃ message, w.close = .error message := by
  unfold crawlBody
  cases w.setup with
  | error message => simp [CrawlEnd.status]
  | ok => simp [crawlPage_failed_iff]

/--
With a URL, `web_crawler` exits with status 1 exactly when the browser's life or the crawl fails.
-/
theorem crawlerMain_failed_iff (script url : String) (rest : List String) :
    (crawlerMain w (script :: url :: rest)).ending.status ≠ 0 ↔ w.Raises ∨ PageFails w url := by
  unfold crawlerMain CrawlServices.Raises
  cases w.start with
  | error message => simp [CrawlEnd.status]
  | ok =>
    -- Past the start, the status is the body's, unless leaving `async with` raises.
    simp only [CrawlEnd.status_cleanup, crawlBody_failed_iff]
    constructor
    · rintro ((setup | page | close) | stop)
      exacts [.inl (.inr (.inl setup)), .inr page, .inl (.inr (.inr (.inl close))),
        .inl (.inr (.inr (.inr stop)))]
    · rintro ((⟨_, ⟨⟩⟩ | setup | close | stop) | page)
      exacts [.inl (.inl setup), .inl (.inr (.inr close)), .inr stop, .inl (.inr (.inl page))]

/-- `web_crawler` calls `sys.exit(1)` only after one print, naming the URL when it was given one. -/
theorem crawlerMain_exited (argv : List String) (exited : (crawlerMain w argv).ending = .exited) :
    ∃ line, (crawlerMain w argv).stdout = [line] ∧
      ∀ script url rest, argv = script :: url :: rest → url.data <:+: line.data := by
  rcases argv with _ | ⟨script, _ | ⟨url, rest⟩⟩
  · exact ⟨_, rfl, fun _ _ _ no => nomatch no⟩
  · exact ⟨_, rfl, fun _ _ _ no => nomatch no⟩
  simp only [crawlerMain] at exited ⊢
  -- Only a run whose every step of the browser's life returned can end with `sys.exit(1)`.
  cases started : w.start with
  | error => simp [started] at exited
  | ok =>
    simp only [started] at exited ⊢
    have body := (CrawlEnd.cleanup_eq_exited exited).1
    unfold crawlBody at body ⊢
    cases set : w.setup with
    | error => simp [set] at body
    | ok =>
      simp only [set] at body ⊢
      obtain ⟨line, printed, named⟩ := crawlPage_exited w url (CrawlEnd.cleanup_eq_exited body).1
      refine ⟨line, printed, fun _ _ _ same => ?_⟩
      simp only [List.cons_eq_cons] at same
      exact same.2.1 ▸ named

/-- An exception escapes `web_crawler` only from a step of the browser's life. -/
theorem crawlerMain_raised (argv : List String) {message : String}
    (raised : (crawlerMain w argv).ending = .raised message) : w.Raises := by
  rcases argv with _ | ⟨script, _ | ⟨url, rest⟩⟩
  · cases raised
  · cases raised
  simp only [crawlerMain] at raised
  cases started : w.start with
  | error => exact .inl ⟨_, started⟩
  | ok =>
    simp only [started] at raised
    rcases CrawlEnd.cleanup_eq_raised raised with body | stop
    · unfold crawlBody at body
      cases set : w.setup with
      | error => exact .inr (.inl ⟨_, set⟩)
      | ok =>
        simp only [set] at body
        rcases CrawlEnd.cleanup_eq_raised body with page | close
        · exact absurd page (crawlPage_not_raised w url message)
        · exact .inr (.inr (.inl ⟨_, close⟩))
    · exact .inr (.inr (.inr ⟨_, stop⟩))

end Crawler

/--
`web_crawler` ends with a nonzero status either by `sys.exit(1)`, after exactly one print, which
names the URL when one was given, or by an exception of the browser's life (entering playwright,
launching Chromium, opening its context or page, closing it, leaving playwright), which nothing
catches. Given a URL, the status is nonzero exactly when one of these raises, or the load with
`networkidle` raises and the load with `domcontentloaded` raises or reads a blank page. So, with a
browser that starts and closes cleanly, a blank page exits with 0 when the first load returns it,
and with 1 when only the second does.
-/
theorem crawlerMain_exitsAfterOnePrint (w : CrawlServices) (argv : List String) :
    ((crawlerMain w argv).ending = .exited → ∃ line, (crawlerMain w argv).stdout = [line] ∧
      ∀ script url rest, argv = script :: url :: rest → url.data <:+: line.data) ∧
    (∀ message, (crawlerMain w argv).ending = .raised message → w.Raises) ∧
    ∀ script url rest, argv = script :: url :: rest →
      ((crawlerMain w argv).ending.status ≠ 0 ↔ w.Raises ∨ PageFails w url) :=
  ⟨crawlerMain_exited w argv, fun _ raised => crawlerMain_raised w argv raised,
    fun script url rest given => given ▸ crawlerMain_failed_iff w script url rest⟩

/-- A browser that starts and closes cleanly, on a page whose first load times out. -/
def timeoutServices (retry : String → Except String String) (close : Except String Unit) :
    CrawlServices where
  start := .ok ()
  launch := .ok ()
  newContext := .ok ()
  newPage := .ok ()
  load _ := .error "Timeout 45000ms exceeded."
  retry := retry
  close := close
  stop := .ok ()

/--
A page whose first load times out and whose second reads blank: the crawler warns on stderr, prints
once, naming the page, and exits with 1. Had the second load read the page but closing the browser
raised, it would print the page's two lines and still exit with 1, by that exception.
-/
theorem crawlerMain_exitsAfterOnePrint_blankRetry :
    crawlerMain (timeoutServices (fun _ => .ok "  \n") (.ok ())) ["crawler.py", "example.com"] =
        ⟨["Error: Could not extract content from example.com"],
          ["Warning: networkidle failed for example.com: Timeout 45000ms exceeded."], .exited⟩ ∧
      (∃ line, (crawlerMain (timeoutServices (fun _ => .ok "  \n") (.ok ()))
          ["crawler.py", "example.com"]).stdout = [line] ∧
        ∀ script url rest, ["crawler.py", "example.com"] = script :: url :: rest →
          url.data <:+: line.data) ∧
      (crawlerMain (timeoutServices (fun _ => .ok "Hello") (.error "Target closed"))
          ["crawler.py", "example.com"]).stdout.length = 2 ∧
      (crawlerMain (timeoutServices (fun _ => .ok "Hello") (.error "Target closed"))
          ["crawler.py", "example.com"]).ending = .raised "Target closed" ∧
      (CrawlServices.Raises (timeoutServices (fun _ => .ok "Hello") (.error "Target closed")) ∨
        PageFails (timeoutServices (fun _ => .ok "Hello") (.error "Target closed"))
          "example.com") :=
  have blank := crawlerMain_exitsAfterOnePrint (timeoutServices (fun _ => .ok "  \n") (.ok ()))
    ["crawler.py", "example.com"]
  have closed := crawlerMain_exitsAfterOnePrint
    (timeoutServices (fun _ => .ok "Hello") (.error "Target closed")) ["crawler.py", "example.com"]
  ⟨by decide, blank.1 (by decide), by decide, by decide, (closed.2.2 _ _ _ rfl).1 (by decide)⟩

end Moxxy
