import Mathlib.Data.List.Infix
import Moxxy.Fetch.Report
import Moxxy.Proofs.Fetch.GetText

/-!
What fetch mode reports around the page text: when `check_content_quality` warns, and how the
report of `browser/fetch.py` extends the one of `browse_network/fetch.py`.
-/

namespace Moxxy

/-- A text ends with whatever is appended last. -/
theorem suffix_append_data (front back : String) : back.data <:+ (front ++ back).data := by
  rw [String.data_append]
  exact List.suffix_append _ _

section Quality

variable (textLower : String) (length : Nat) (url : String)

/-- The marker loop warns of nothing exactly when the text is long or holds none of the markers. -/
theorem antibotWarning_eq_nil_iff (markers : List (String × String)) :
    antibotWarning textLower length url markers = [] ↔
      2000 ≤ length ∨ ∀ marker ∈ markers, pyContains textLower marker.1 = false := by
  induction markers with
  | nil => simp [antibotWarning]
  | cons marker rest ih =>
    obtain ⟨phrase, msg⟩ := marker
    by_cases found : pyContains textLower phrase = true ∧ length < 2000
    · -- The loop stops at this marker with its warning.
      simp only [antibotWarning, if_pos found, List.cons_ne_nil, false_iff, not_or, not_le]
      exact ⟨found.2, fun all => by simp [found.1] at all⟩
    · -- The loop goes on to the next marker.
      rw [antibotWarning, if_neg found, ih]
      by_cases short : length < 2000
      · have absent : pyContains textLower phrase = false := by simpa [short] using found
        simp [absent]
      · simp only [not_lt] at short
        simp [short]

/-- The marker loop stops at its first warning. -/
theorem antibotWarning_length_le (markers : List (String × String)) :
    (antibotWarning textLower length url markers).length ≤ 1 := by
  induction markers with
  | nil => simp [antibotWarning]
  | cons marker rest ih =>
    simp only [antibotWarning]
    split
    · simp
    · exact ih

/-- The marker loop's warning sends the reader to `browser navigate` on the same URL. -/
theorem antibotWarning_navigate (markers : List (String × String)) :
    ∀ warning ∈ antibotWarning textLower length url markers,
      (" Try: browser navigate " ++ url).data <:+ warning.data := by
  induction markers with
  | nil => simp [antibotWarning]
  | cons marker rest ih =>
    simp only [antibotWarning]
    split
    · simp only [List.mem_singleton, forall_eq, toString_string, String.append_empty,
        String.append_assoc]
      exact (suffix_append_data _ _).trans (suffix_append_data _ _)
    · exact ih

end Quality

/--
For every text, URL and case mapping, `check_content_quality` gives at most one warning; it gives
none exactly when the text is long or holds no anti-bot marker in lower case, and its stripped form
has at least 200 characters; and every warning ends by sending the reader to `browser navigate` on
the same URL.
-/
theorem checkContentQuality_spec (lower : String → String) (text url : String) :
    (checkContentQuality lower text url).length ≤ 1 ∧
      (checkContentQuality lower text url = [] ↔
        (2000 ≤ text.length ∨ ∀ marker ∈ antibotMarkers, pyContains (lower text) marker.1 = false) ∧
          200 ≤ (pyStrip text).length) ∧
      ∀ warning ∈ checkContentQuality lower text url,
        (" Try: browser navigate " ++ url).data <:+ warning.data := by
  have one := antibotWarning_length_le (lower text) text.length url antibotMarkers
  have none := antibotWarning_eq_nil_iff (lower text) text.length url antibotMarkers
  have navigate := antibotWarning_navigate (lower text) text.length url antibotMarkers
  simp only [checkContentQuality]
  split
  · -- Thin content: the anti-bot loop found nothing, and the one warning is about length.
    rename_i thin
    rw [List.isEmpty_iff.1 thin.2]
    refine ⟨by simp, by simp [not_le.2 thin.1], ?_⟩
    have advice : "The page may require JavaScript. Try: browser navigate " =
        "The page may require JavaScript." ++ " Try: browser navigate " := by decide
    simp only [List.nil_append, List.mem_singleton, forall_eq, toString_string,
      String.append_empty, String.append_assoc, advice]
    exact (suffix_append_data _ _).trans <| (suffix_append_data _ _).trans <|
      (suffix_append_data _ _).trans (suffix_append_data _ _)
  · -- Otherwise the anti-bot loop's result stands.
    rename_i enough
    refine ⟨one, ?_, navigate⟩
    by_cases thin : (pyStrip text).length < 200
    · -- A short text passes only because a marker was found.
      have warned : antibotWarning (lower text) text.length url antibotMarkers ≠ [] :=
        fun empty => enough ⟨thin, by simp [empty]⟩
      simp only [warned, false_iff, not_and, not_le]
      exact fun _ => thin
    · simp only [not_lt] at thin
      simp [thin, none]

/--
On every page fetched where it was asked, not read as a feed, and with readable text,
`browser/fetch.py` prints exactly what `browse_network/fetch.py` prints, then its quality warnings
after a `---` line when there are any.
-/
theorem pageReport_extendsBrowseReport {lower : String → String} {url finalUrl html : String}
    {rss : Except String (Option String)} {events : List HtmlEvent}
    (direct : finalUrl = "" ∨ finalUrl = url)
    (notFeed : looksLikeFeed html = false ∨ rss = .ok none)
    (readable : (HtmlToText.init.feed events).getText ≠ "") :
    pageReport lower url finalUrl html rss events =
      browseReport url events ++
        (if (checkContentQuality lower (HtmlToText.init.feed events).getText url).isEmpty then []
          else "\n---" :: checkContentQuality lower (HtmlToText.init.feed events).getText url) := by
  -- The text is stripped already, so both copies find it readable.
  have shownText : pyStrip (HtmlToText.init.feed events).getText ≠ "" := by
    rwa [HtmlToText.getText, pyStrip_pyStrip]
  -- Without a redirect, the URL shown is the one asked for and no note is printed.
  have shown : (if finalUrl ≠ "" then finalUrl else url) = url := by
    rcases direct with rfl | rfl <;> simp
  have unnoted : ¬ (finalUrl ≠ "" ∧ finalUrl ≠ url) := by
    rcases direct with rfl | rfl <;> simp
  rcases notFeed with plain | parsed
  · simp [pageReport, browseReport, plain, shown, unnoted, shownText]
  · simp [pageReport, browseReport, parsed, shown, unnoted, shownText]

/-- A page with one paragraph, `Hello`. -/
def helloPage : List HtmlEvent := [.startTag "p" [], .data "Hello", .endTag "p"]

/-- There the browser copy adds the thin-content warning after the other copy's report. -/
theorem pageReport_extendsBrowseReport_hello :
    ("" = "" ∨ "" = "https://example.com") ∧
      (looksLikeFeed "<p>Hello</p>" = false ∨
        (.ok none : Except String (Option String)) = .ok none) ∧
      (HtmlToText.init.feed helloPage).getText ≠ "" ∧
      pageReport pyLower "https://example.com" "" "<p>Hello</p>" (.ok none) helloPage =
        browseReport "https://example.com" helloPage ++
          (if (checkContentQuality pyLower (HtmlToText.init.feed helloPage).getText
              "https://example.com").isEmpty then []
            else "\n---" :: checkContentQuality pyLower (HtmlToText.init.feed helloPage).getText
              "https://example.com") :=
  ⟨.inl rfl, .inl (by decide), by decide,
    pageReport_extendsBrowseReport (.inl rfl) (.inl (by decide)) (by decide)⟩

end Moxxy
