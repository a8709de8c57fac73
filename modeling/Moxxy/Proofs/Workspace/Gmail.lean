import Mathlib.Data.List.Infix
import Moxxy.Workspace.Requests

/-!
What a mail reader makes of the messages `gmail_send` writes: a lenient reader, which ends a header
line at CRLF, a bare LF or a bare CR, reads back exactly the header lines meant and the body as
given when no header field holds CR or LF; `gmail_reply` copies the subject it answers unchecked, so
a CRLF there starts a header line of the sender's choosing, even for a reader that breaks at CRLF
alone.
-/

namespace Moxxy

/-- A CRLF line break, as characters. -/
abbrev crlf : List Char := ['\r', '\n']

/-- `text.split("\r\n")`: the pieces between CRLF line breaks. -/
def crlfLines : List Char → List (List Char)
  | [] => [[]]
  | '\r' :: '\n' :: rest => [] :: crlfLines rest
  | c :: rest =>
    match crlfLines rest with
    | line :: more => (c :: line) :: more
    | [] => [[c]]

/--
What a mail reader (RFC 5322) makes of a raw message: the lines before the first empty one are its
header lines, and what follows that empty line is its body.
-/
def readMail (raw : String) : List String × String :=
  let lines := crlfLines raw.data
  let headers := lines.takeWhile (· ≠ [])
  (headers.map String.mk, ⟨crlf.intercalate (lines.drop (headers.length + 1))⟩)

/-- A text with no CRLF line break in it. -/
def NoCrlf (cs : List Char) : Prop := ¬ crlf <:+: cs

instance : DecidablePred NoCrlf := fun cs => inferInstanceAs (Decidable (¬ crlf <:+: cs))

section Lines

/-- A character other than CR starts no line break. -/
theorem noCrlf_cons_of_ne {c : Char} (other : c ≠ '\r') (rest : List Char) :
    NoCrlf (c :: rest) ↔ NoCrlf rest := by
  simp only [NoCrlf, List.infix_cons_iff, List.cons_prefix_cons, Ne.symm other, false_and, false_or]

/-- Text without CR in front of a text without line break adds none. -/
theorem noCrlf_append {front : List Char} (noCR : '\r' ∉ front) {cs : List Char}
    (single : NoCrlf cs) :
    NoCrlf (front ++ cs) := by
  induction front with
  | nil => exact single
  | cons c rest ih =>
    simp only [List.mem_cons, not_or] at noCR
    exact (noCrlf_cons_of_ne (Ne.symm noCR.1) _).2 (ih noCR.2)

/-- Joining puts the separator between the first item and the join of the others. -/
theorem intercalate_cons_of_ne_nil {α : Type} (sep first : List α) {rest : List (List α)}
    (filled : rest ≠ []) :
    sep.intercalate (first :: rest) = first ++ sep ++ sep.intercalate rest := by
  obtain ⟨next, more, rfl⟩ := List.exists_cons_of_ne_nil filled
  simp [intercalate_cons_eq]

/-- Every text has at least one line. -/
theorem crlfLines_ne_nil (cs : List Char) : crlfLines cs ≠ [] := by
  induction cs using crlfLines.induct with
  | case1 => simp [crlfLines]
  | case2 rest _ => simp [crlfLines]
  | case3 c rest notBreak line more split _ => simp [crlfLines.eq_3 c rest notBreak, split]
  | case4 c rest notBreak split _ => simp [crlfLines.eq_3 c rest notBreak, split]

/-- Joining the lines of a text with CRLF gives the text back. -/
theorem intercalate_crlfLines (cs : List Char) : crlf.intercalate (crlfLines cs) = cs := by
  induction cs using crlfLines.induct with
  | case1 => rfl
  | case2 rest ih =>
    rw [crlfLines, intercalate_cons_of_ne_nil _ _ (crlfLines_ne_nil rest), ih]
    rfl
  | case3 c rest notBreak line more split ih =>
    rw [split, intercalate_cons_eq] at ih
    rw [crlfLines.eq_3 c rest notBreak, split, intercalate_cons_eq, List.cons_append, ih]
  | case4 c rest notBreak split _ => exact absurd split (crlfLines_ne_nil rest)

/-- A line without a break, then CRLF: that line is the first. -/
theorem crlfLines_line {line : List Char} (single : NoCrlf line) (rest : List Char) :
    crlfLines (line ++ crlf ++ rest) = line :: crlfLines rest := by
  induction line with
  | nil => simp [crlfLines]
  | cons c more ih =>
    -- `c` starts no break: a CR in the line is followed by something other than LF.
    have notBreak : ∀ after, c = '\r' → more ++ crlf ++ rest = '\n' :: after → False := by
      rintro after rfl joined
      cases more with
      | nil => cases joined
      | cons d more =>
        cases (List.cons_eq_cons.1 joined).1
        exact (single (List.prefix_append crlf more).isInfix).elim
    have moreSingle : NoCrlf more := fun inside =>
      single (inside.trans (List.suffix_cons _ _).isInfix)
    rw [List.cons_append, List.cons_append, crlfLines.eq_3 c _ notBreak, ih moreSingle]

/-- Lines without breaks joined with CRLF, then one more text: the lines, then that text's. -/
theorem crlfLines_intercalate {lines : List (List Char)} (single : ∀ line ∈ lines, NoCrlf line)
    (last : List Char) :
    crlfLines (crlf.intercalate (lines ++ [last])) = lines ++ crlfLines last := by
  induction lines with
  | nil => simp [intercalate_cons_eq]
  | cons line more ih =>
    have rest := ih fun other member => single other (List.mem_cons_of_mem _ member)
    rw [List.cons_append, intercalate_cons_of_ne_nil _ _ (by simp),
      crlfLines_line (single line (List.mem_cons_self _ _)), rest, List.cons_append]

end Lines

section Messages

/--
Joining with CRLF a line that holds CRLF itself: the same as joining its two parts as lines of
their own.
-/
theorem intercalate_crlf_split (front : List String) (first second : String) (back : List String) :
    "\r\n".intercalate (front ++ (first ++ "\r\n" ++ second) :: back) =
      "\r\n".intercalate (front ++ first :: second :: back) := by
  apply String.ext
  simp only [intercalate_data, List.map_append, List.map_cons, String.data_append]
  cases front with
  | nil => simp [intercalate_cons_eq]
  | cons line more => simp [intercalate_cons_eq]

/--
A reader of header lines that are neither empty nor broken, an empty line and a body, joined with
CRLF, reads back those header lines and that body.
-/
theorem readMail_intercalate {headers : List String}
    (single : ∀ line ∈ headers, NoCrlf line.data ∧ line ≠ "") (body : String) :
    readMail ("\r\n".intercalate (headers ++ ["", body])) = (headers, body) := by
  have lines : crlfLines ("\r\n".intercalate (headers ++ ["", body])).data =
      headers.map String.data ++ [] :: crlfLines body.data := by
    rw [intercalate_data, show headers ++ ["", body] = (headers ++ [""]) ++ [body] by simp,
      List.map_append, List.map_singleton]
    rw [crlfLines_intercalate]
    · simp
    · intro line member
      simp only [List.map_append, List.map_singleton, List.mem_append, List.mem_map,
        List.mem_singleton] at member
      rcases member with ⟨header, listed, rfl⟩ | rfl
      · exact (single header listed).1
      · exact fun inside => by simpa using inside.length_le
  -- Every header line is kept, and the empty line ends them.
  have taken : (headers.map String.data ++ [] :: crlfLines body.data).takeWhile (· ≠ []) =
      headers.map String.data := by
    rw [List.takeWhile_append_of_pos]
    · simp
    · simpa [String.ext_iff] using fun line member => (single line member).2
  -- What follows the empty line is the body's lines.
  have dropped : (headers.map String.data ++ [] :: crlfLines body.data).drop (headers.length + 1) =
      crlfLines body.data := by
    rw [show headers.map String.data ++ [] :: crlfLines body.data =
      (headers.map String.data ++ [[]]) ++ crlfLines body.data by simp, List.drop_left' (by simp)]
  simp only [readMail, lines, taken, List.length_map, dropped, intercalate_crlfLines]
  simp [Function.comp_def]

/-- A header line of a fixed name and a field without line break is neither empty nor broken. -/
theorem headerLine_single {name : String} (noCR : '\r' ∉ name.data) (filled : name ≠ "")
    {field : String} (single : NoCrlf field.data) :
    NoCrlf (name ++ field).data ∧ name ++ field ≠ "" := by
  refine ⟨by rw [String.data_append]; exact noCrlf_append noCR single, fun empty => filled ?_⟩
  simpa [String.ext_iff] using congrArg (·.data.take name.length) empty

end Messages

section Lenient

/-- A character that ends a line for a lenient reader: CR or LF. -/
def IsBreak (c : Char) : Prop := c = '\r' ∨ c = '\n'

instance : DecidablePred IsBreak := fun c => inferInstanceAs (Decidable (c = '\r' ∨ c = '\n'))

/--
A lenient mail reader, as Python's `email` parser reads headers: each header line ends at CRLF, a
bare LF or a bare CR; the first empty line ends the header lines, and the body is all that follows
it, as it is. `line` is the header line read so far.
-/
def readHeaders : List Char → List Char → List (List Char) × List Char
  | line, [] => (if line.isEmpty then [] else [line], [])
  | line, '\r' :: '\n' :: rest =>
    if line.isEmpty then ([], rest) else Prod.map (line :: ·) id (readHeaders [] rest)
  | line, c :: rest =>
    if IsBreak c then
      if line.isEmpty then ([], rest) else Prod.map (line :: ·) id (readHeaders [] rest)
    else readHeaders (line ++ [c]) rest

/-- What the lenient reader makes of a raw message: its header lines and its body. -/
def readMailLenient (raw : String) : List String × String :=
  Prod.map (List.map String.mk) String.mk (readHeaders [] raw.data)

/-- Characters without a line break extend the header line being read. -/
theorem readHeaders_open (line : List Char) {more : List Char} (clean : ∀ c ∈ more, ¬ IsBreak c)
    (rest : List Char) : readHeaders line (more ++ rest) = readHeaders (line ++ more) rest := by
  induction more generalizing line with
  | nil => simp
  | cons c more ih =>
    have notBreak : ¬ IsBreak c := clean c (.head _)
    -- `c` is neither CR nor LF, so it starts no line break.
    have notCR : c ≠ '\r' := fun same => notBreak (.inl same)
    rw [List.cons_append, readHeaders.eq_3 line c _ (fun _ same _ => notCR same), if_neg notBreak,
      ih _ fun d listed => clean d (.tail _ listed), List.append_assoc, List.singleton_append]

/-- A CRLF after a non-empty header line ends it; the reader goes on with the next one. -/
theorem readHeaders_line {line : List Char} (filled : line ≠ []) (rest : List Char) :
    readHeaders line (crlf ++ rest) = Prod.map (line :: ·) id (readHeaders [] rest) := by
  simp [readHeaders, List.isEmpty_iff, filled]

/--
Header lines free of CR and LF, each followed by CRLF, then an empty line and a body: the lenient
reader reads back those header lines and the body as it is.
-/
theorem readHeaders_intercalate {headers : List (List Char)}
    (single : ∀ line ∈ headers, (∀ c ∈ line, ¬ IsBreak c) ∧ line ≠ []) (body : List Char) :
    readHeaders [] (crlf.intercalate (headers ++ [[], body])) = (headers, body) := by
  induction headers with
  | nil => simp [intercalate_cons_eq, readHeaders]
  | cons line more ih =>
    obtain ⟨clean, filled⟩ := single line (.head _)
    -- The first header line is read whole, then ended by its CRLF.
    rw [List.cons_append, intercalate_cons_of_ne_nil _ _ (by simp), List.append_assoc,
      readHeaders_open [] clean, List.nil_append, readHeaders_line filled,
      ih fun other listed => single other (.tail _ listed)]
    rfl

/-- A header line of a fixed name and a field free of CR and LF is neither empty nor broken. -/
theorem headerLine_clean {name : String} (noBreak : ∀ c ∈ name.data, ¬ IsBreak c)
    (filled : name ≠ "") {field : String} (clean : ∀ c ∈ field.data, ¬ IsBreak c) :
    (∀ c ∈ (name ++ field).data, ¬ IsBreak c) ∧ (name ++ field).data ≠ [] := by
  refine ⟨fun c listed => ?_, fun empty => filled ?_⟩
  · rw [String.data_append, List.mem_append] at listed
    exact listed.elim (noBreak c) (clean c)
  · simpa [String.ext_iff] using congrArg (List.take name.length) empty

end Lenient

/--
The header lines `gmail_send` means to write: `To`, then `Cc` and `Bcc` when given and not empty,
then `Subject` and `Content-Type`.
-/
def gmailHeaderLines (recipient subject : String) (cc bcc : Option String) (html : Bool) :
    List String :=
  ["To: " ++ recipient] ++ ((cc.filter (· != "")).map ("Cc: " ++ ·)).toList ++
    ((bcc.filter (· != "")).map ("Bcc: " ++ ·)).toList ++
    ["Subject: " ++ subject,
      "Content-Type: " ++ (if html then "text/html" else "text/plain") ++ "; charset=utf-8"]

/-- `gmail_send`'s lines are its header lines, an empty line and the body. -/
theorem gmailMessageLines_eq (recipient subject body : String) (cc bcc : Option String)
    (html : Bool) :
    gmailMessageLines recipient subject body cc bcc html =
      gmailHeaderLines recipient subject cc bcc html ++ ["", body] := by
  unfold gmailMessageLines gmailHeaderLines
  rcases cc with _ | cc <;> rcases bcc with _ | bcc <;>
    simp only [Option.filter, Option.map, Option.toList] <;> split_ifs <;> simp_all

/-- The fixed names of `gmail_send`'s header lines that carry a field. -/
def fieldNames : List String := ["To: ", "Cc: ", "Bcc: ", "Subject: "]

/-- A line written for an optional field: the field's value, with the name in front. -/
theorem mem_optionalLine {name line : String} {field : Option String}
    (member : line ∈ ((field.filter (· != "")).map (name ++ ·)).toList) :
    ∃ value ∈ field.toList, line = name ++ value := by
  rcases field with _ | value
  · cases member
  · simp only [Option.filter_some] at member
    split_ifs at member
    · exact ⟨value, by simp, by simpa using member⟩
    · cases member

/--
Every header line `gmail_send` means has a property `P` when its fixed names give `P` to every
field with a property `Q`, every given field has `Q`, and the `Content-Type` line has `P`.
-/
theorem gmailHeaderLines_all {Q P : String → Prop} {recipient subject : String}
    {cc bcc : Option String}
    (named : ∀ name ∈ fieldNames, ∀ field, Q field → P (name ++ field))
    (typed : ∀ html : Bool,
      P ("Content-Type: " ++ (if html then "text/html" else "text/plain") ++ "; charset=utf-8"))
    (fields : ∀ field ∈ [recipient, subject] ++ cc.toList ++ bcc.toList, Q field) (html : Bool) :
    ∀ line ∈ gmailHeaderLines recipient subject cc bcc html, P line := by
  intro line member
  simp only [gmailHeaderLines, List.mem_append, List.mem_cons, List.mem_singleton,
    List.not_mem_nil, or_false] at member
  rcases member with ((rfl | copied) | blind) | rfl | rfl
  · exact named _ (by simp [fieldNames]) _ (fields _ (by simp))
  · -- A `Cc` line is written only for a copied address given.
    obtain ⟨value, given, rfl⟩ := mem_optionalLine copied
    exact named _ (by simp [fieldNames]) _ (fields _ (by simp [given]))
  · -- So is a `Bcc` line.
    obtain ⟨value, given, rfl⟩ := mem_optionalLine blind
    exact named _ (by simp [fieldNames]) _ (fields _ (by simp [given]))
  · exact named _ (by simp [fieldNames]) _ (fields _ (by simp))
  · exact typed html

/-- Each header line meant is neither empty nor broken when no field holds a CRLF. -/
theorem gmailHeaderLines_single {recipient subject : String} {cc bcc : Option String}
    (single : ∀ field ∈ [recipient, subject] ++ cc.toList ++ bcc.toList, NoCrlf field.data)
    (html : Bool) :
    ∀ line ∈ gmailHeaderLines recipient subject cc bcc html, NoCrlf line.data ∧ line ≠ "" :=
  gmailHeaderLines_all (fun name listed _ field => by
      simp only [fieldNames, List.mem_cons, List.mem_singleton, List.not_mem_nil, or_false]
        at listed
      rcases listed with rfl | rfl | rfl | rfl <;>
        exact headerLine_single (by decide) (by decide) field)
    (fun html => by cases html <;> decide) single html

/-- Each header line meant is neither empty nor holds CR or LF when no field holds either. -/
theorem gmailHeaderLines_clean {recipient subject : String} {cc bcc : Option String}
    (clean : ∀ field ∈ [recipient, subject] ++ cc.toList ++ bcc.toList,
      ∀ c ∈ field.data, ¬ IsBreak c) (html : Bool) :
    ∀ line ∈ gmailHeaderLines recipient subject cc bcc html,
      (∀ c ∈ line.data, ¬ IsBreak c) ∧ line.data ≠ [] :=
  gmailHeaderLines_all (fun name listed _ field => by
      simp only [fieldNames, List.mem_cons, List.mem_singleton, List.not_mem_nil, or_false]
        at listed
      rcases listed with rfl | rfl | rfl | rfl <;>
        exact headerLine_clean (by decide) (by decide) field)
    (fun html => by cases html <;> decide) clean html

/--
For every body and every choice of header fields holding neither CR nor LF, a lenient mail reader,
which ends a header line at CRLF, a bare LF or a bare CR, reads the message `gmail_send` writes back
as exactly the header lines meant, and the body as given, whatever line breaks it holds.
-/
theorem gmailSend_readBack (recipient subject body : String) (cc bcc : Option String) (html : Bool)
    (clean : ∀ field ∈ [recipient, subject] ++ cc.toList ++ bcc.toList,
      ∀ c ∈ field.data, ¬ IsBreak c) :
    readMailLenient (gmailRawMessage recipient subject body cc bcc html) =
      (gmailHeaderLines recipient subject cc bcc html, body) := by
  have lines := gmailHeaderLines_clean clean html
  rw [readMailLenient, gmailRawMessage, gmailMessageLines_eq, intercalate_data, List.map_append,
    List.map_cons, List.map_singleton, readHeaders_intercalate _ body.data]
  · simp [Function.comp_def]
  · intro line member
    obtain ⟨header, listed, rfl⟩ := List.mem_map.1 member
    exact lines header listed

/--
A message to Ann, copied to Bob, whose body has a CRLF and a bare LF: the lenient reader reads it
back as sent.
-/
theorem gmailSend_readBack_lunch :
    (∀ field ∈ ["ann@example.com", "Lunch"] ++ (some "bob@example.com").toList ++
        (none : Option String).toList, ∀ c ∈ field.data, ¬ IsBreak c) ∧
      readMailLenient (gmailRawMessage "ann@example.com" "Lunch" "Noon?\r\nBob\nAnn"
          (some "bob@example.com") none false) =
        (gmailHeaderLines "ann@example.com" "Lunch" (some "bob@example.com") none false,
          "Noon?\r\nBob\nAnn") :=
  ⟨by decide, gmailSend_readBack _ _ _ _ _ _ (by decide)⟩

/--
A subject holding a CRLF and then a line, written by `gmail_send`: a reader takes that line for a
header line of its own.
-/
theorem gmailRawMessage_injects {recipient subject injected : String} (body : String)
    {cc : Option String} (single : ∀ field ∈ [recipient, subject] ++ cc.toList, NoCrlf field.data)
    (injectedLine : NoCrlf injected.data) (filled : injected ≠ "") :
    injected ∈ (readMail (gmailRawMessage recipient (subject ++ "\r\n" ++ injected) body cc
      none false)).1 := by
  -- The header lines meant with the subject's first line alone are neither empty nor broken.
  have meant := @gmailHeaderLines_single recipient subject cc none (by simpa using single) false
  -- The line after the CRLF stands between the subject's first line and `Content-Type`.
  have lines : gmailMessageLines recipient (subject ++ "\r\n" ++ injected) body cc none false =
      (["To: " ++ recipient] ++ ((cc.filter (· != "")).map ("Cc: " ++ ·)).toList) ++
        ("Subject: " ++ subject ++ "\r\n" ++ injected) ::
          ["Content-Type: text/plain; charset=utf-8", "", body] := by
    rw [gmailMessageLines_eq]
    simp [gmailHeaderLines, String.append_assoc]
  rw [gmailRawMessage, lines, intercalate_crlf_split, show ∀ (front : List String) (first second
      third : String), front ++ first :: second :: third :: ["", body] =
        (front ++ [first, second, third]) ++ ["", body] by simp, readMail_intercalate]
  · simp
  · intro line member
    rcases List.mem_append.1 member with written | listed
    · exact meant line (List.mem_append_left _ (List.mem_append_left _ written))
    simp only [List.mem_cons, List.not_mem_nil, or_false] at listed
    rcases listed with rfl | rfl | rfl
    · exact meant _ (by simp [gmailHeaderLines])
    · exact ⟨injectedLine, filled⟩
    · exact meant _ (by simp [gmailHeaderLines])

/--
`gmail_reply` writes the subject it answers into the reply unchecked. For every email whose sender
and copied addresses hold no CRLF but whose subject holds a CRLF and then a line, and for every
body, a mail reader finds that line among the reply's header lines: a `Bcc:` line there sends the
reply to whoever the email's sender named.
-/
theorem gmailReply_injectsHeader (headers : List (String × String)) (body : String)
    (replyAll : Bool) {subject injected : String}
    (answered : headerValue headers "Subject" = some (subject ++ "\r\n" ++ injected))
    (sender : NoCrlf ((headerValue headers "From").getD "").data)
    (copied : ∀ cc, replyAll = true → headerValue headers "Cc" = some cc → NoCrlf cc.data)
    (firstLine : NoCrlf subject.data) (injectedLine : NoCrlf injected.data)
    (filled : injected ≠ "") :
    injected ∈ (readMail (gmailReplyMessage headers body replyAll)).1 := by
  -- The addresses copied, if any, hold no line break.
  have ccSingle : ∀ cc ∈ (if replyAll then headerValue headers "Cc" else none).toList,
      NoCrlf cc.data := by
    intro cc member
    split_ifs at member with all
    · exact copied cc all (Option.mem_toList.1 member)
    · cases member
  unfold gmailReplyMessage
  simp only [answered, Option.getD_some]
  generalize (if replyAll then headerValue headers "Cc" else none) = cc at ccSingle ⊢
  have single : ∀ {first : String}, NoCrlf first.data →
      ∀ field ∈ [(headerValue headers "From").getD "", first] ++ cc.toList, NoCrlf field.data := by
    intro first firstSingle field member
    simp only [List.mem_append, List.mem_cons, List.mem_singleton, List.not_mem_nil,
      or_false] at member
    rcases member with (rfl | rfl) | listed
    · exact sender
    · exact firstSingle
    · exact ccSingle field listed
  by_cases re : pyStartsWith (subject ++ "\r\n" ++ injected) "Re:" = true
  · -- The subject starts with `Re:` and is written as it came.
    rw [if_pos re]
    exact gmailRawMessage_injects body (single firstLine) injectedLine filled
  · -- `Re: ` is written in front, which adds no line break.
    rw [if_neg re]
    have prefixed : NoCrlf ("Re: " ++ subject).data := by
      rw [String.data_append]
      exact noCrlf_append (by decide) firstLine
    simpa only [toString_string, String.append_empty, String.append_assoc] using
      gmailRawMessage_injects body (single prefixed) injectedLine filled

/-- An email from Eve whose subject carries a second line, `Bcc: eve@example.com`. -/
def smuggledBcc : List (String × String) :=
  [("From", "eve@example.com"), ("Subject", "Invoice\r\nBcc: eve@example.com")]

/-- Answering it, the reply carries `Bcc: eve@example.com` among its header lines. -/
theorem gmailReply_injectsHeader_smuggledBcc :
    headerValue smuggledBcc "Subject" = some ("Invoice" ++ "\r\n" ++ "Bcc: eve@example.com") ∧
      "Bcc: eve@example.com" ∈ (readMail (gmailReplyMessage smuggledBcc "Paid." false)).1 :=
  ⟨by decide, @gmailReply_injectsHeader smuggledBcc "Paid." false "Invoice" "Bcc: eve@example.com"
    (by decide) (by decide) (fun _ never => nomatch never) (by decide) (by decide) (by decide)⟩

end Moxxy
