import Moxxy.Python.Builtins

/-!
What `google_workspace.py` builds for Google's APIs from its arguments: the raw message
`gmail_send` writes, with the fields `gmail_reply` takes from the email it answers, and the queries
`drive_list` and `drive_search` send to Drive. What the APIs do with them (fetching, sending,
searching) is left out; a message is the one before `base64.urlsafe_b64encode`, which decoding
gives back.
-/

namespace Moxxy

/--
`message_lines` of `gmail_send(service, to, subject, body, cc, bcc, html)`, with `recipient` for
`to`: the header lines, an empty line and the body. `cc` and `bcc` are written when given and not
empty.
-/
def gmailMessageLines (recipient subject body : String) (cc bcc : Option String) (html : Bool) :
    List String :=
  let lines := [s!"To: {recipient}"]
  let lines := match cc with
    | some cc => if cc ≠ "" then lines ++ [s!"Cc: {cc}"] else lines
    | none => lines
  let lines := match bcc with
    | some bcc => if bcc ≠ "" then lines ++ [s!"Bcc: {bcc}"] else lines
    | none => lines
  let lines := lines ++ [s!"Subject: {subject}"]
  let contentType := if html then "text/html" else "text/plain"
  lines ++ [s!"Content-Type: {contentType}; charset=utf-8", "", body]

/-- `raw_message` of `gmail_send`: the lines joined with CRLF. -/
def gmailRawMessage (recipient subject body : String) (cc bcc : Option String) (html : Bool) :
    String :=
  "\r\n".intercalate (gmailMessageLines recipient subject body cc bcc html)

/-- `{h['name']: h['value'] for h in headers}.get(name)`: the last value given for the name. -/
def headerValue (headers : List (String × String)) (name : String) : Option String :=
  headers.reverse.lookup name

/--
The message `gmail_reply(service, message_id, body, reply_all)` sends, from the headers of the
email it answers: to that email's sender, under its subject with `Re: ` in front unless it starts
with `Re:`, and copied to its `Cc` when replying to all.
-/
def gmailReplyMessage (headers : List (String × String)) (body : String) (replyAll : Bool) :
    String :=
  let recipient := (headerValue headers "From").getD ""
  let subject := (headerValue headers "Subject").getD ""
  let subject := if pyStartsWith subject "Re:" then subject else s!"Re: {subject}"
  let cc := if replyAll then headerValue headers "Cc" else none
  gmailRawMessage recipient subject body cc none false

/--
The query of `drive_list(service, folder_id, query)`: the folder's files not in the trash, and the
caller's own terms when given and not empty.
-/
def driveListQuery (folderId : String) (query : Option String) : String :=
  let q := s!"'{folderId}' in parents and trashed = false"
  match query with
  | some query => if query ≠ "" then s!"{q} and {query}" else q
  | none => q

/--
The query of `drive_search(service, query)`: files whose name holds the term, not in the trash.
-/
def driveSearchQuery (query : String) : String :=
  s!"name contains '{query}' and trashed = false"

end Moxxy
