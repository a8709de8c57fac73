import Moxxy.Browser.Server

/-!
`main()` of `google_workspace.py` and its six dispatchers: from `sys.argv` to the lines printed and
the exit status, the one API wrapper called, or the exception that `main`'s own code raises. What a
wrapper does once called is left out: it returns a dict that `print_json` prints, or raises anything
other than `HttpError`, the one exception it catches. What `json.loads`, refreshing the token and
building a service client do are parameters.
-/

namespace Moxxy

/-- An exception that `main`'s own code raises, ending the run with a traceback and status 1. -/
inductive Raised where
  /-- `IndexError`: `args[i]` past the end of the arguments. -/
  | indexError
  /-- `ValueError`: `int(text)` on a text that is not a number. -/
  | valueError (text : String)
  /-- What `json.loads` raises on a text that is not JSON, with its message. -/
  | jsonError (message : String)
  /-- What `creds.refresh(Request())` raises, with its message. -/
  | refreshError (message : String)
  /-- What `build(name, version, credentials=creds)` raises, with its message. -/
  | buildError (message : String)
  deriving DecidableEq, Repr

/--
The API wrapper a dispatcher calls, with the arguments it passes; the wrapper's own defaults stand
for those it leaves out.
-/
inductive ApiCall where
  | gmailList (maxResults : Int) (label : Option String)
  | gmailSearch (query : String)
  | gmailRead (messageId : String)
  | gmailSend (recipient subject body : String) (cc : Option String)
  | gmailReply (messageId body : String)
  | gmailLabel (messageId : String) (addLabels removeLabels : List String)
  | gmailTrash (messageId : String)
  | gmailLabels
  | driveList (folderId : String)
  | driveSearch (query : String)
  | driveGet (fileId : String)
  | driveDownload (fileId : String) (outputPath : Option String)
  | driveUpload (filePath folderId : String)
  | driveCreateFolder (name parentId : String)
  | driveShare (fileId email role : String)
  | driveDelete (fileId : String)
  | driveMove (fileId newFolderId : String)
  | calendarList (maxResults : Int)
  | calendarCreate (summary startTime endTime : String) (location description : Option String)
  | calendarUpdate (eventId : String) (summary startTime endTime location : Option String)
  | calendarDelete (eventId : String)
  | calendarFreebusy (timeMin timeMax : String)
  | chatListSpaces
  | chatSend (spaceName message : String)
  | chatListMessages (spaceName : String)
  | docsCreate (title : String) (content : Option String)
  | docsRead (documentId : String)
  | docsAppend (documentId content : String)
  | sheetsCreate (title : String)
  | sheetsRead (spreadsheetId rangeName : String)
  | sheetsWrite (spreadsheetId rangeName : String) (values : Json)
  | sheetsAppend (spreadsheetId rangeName : String) (values : Json)
  | sheetsClear (spreadsheetId rangeName : String)
  deriving Repr

/--
How a run ends when `main`'s own code raises nothing: the lines it printed and its exit status (0
when `main` returns), or the one wrapper it called, which then prints its result or raises.
-/
inductive Outcome where
  | exit (lines : List String) (status : Nat)
  | call (call : ApiCall)
  deriving Repr

/-- `args[i]`, or the `IndexError` it raises past the end. -/
def argAt (args : List String) (i : Nat) : Except Raised String :=
  match args[i]? with
  | some value => .ok value
  | none => .error .indexError

/-- `int(text)`, or the `ValueError` it raises. -/
def intArg (text : String) : Except Raised Int :=
  match pyInt text with
  | some n => .ok n
  | none => .error (.valueError text)

/-- `json.loads(text)`, with `loads` what the library answers, or the error it raises. -/
def loadsArg (loads : String → Except String Json) (text : String) : Except Raised Json :=
  match loads text with
  | .ok values => .ok values
  | .error message => .error (.jsonError message)

/-- `if <short>: print(usage); sys.exit(1)`, before the rest of a branch. -/
def exitWithUsage (short : Prop) [Decidable short] (usage : String) (rest : Except Raised Outcome) :
    Except Raised Outcome :=
  if short then .ok (.exit [usage] 1) else rest

/--
`value = args[0] if args else None`, then `if not value: print(f"Error: {what} required");
sys.exit(1)`, before the rest of a branch.
-/
def requireFirst (what : String) (args : List String) (rest : String → Except Raised Outcome) :
    Except Raised Outcome :=
  match args[0]? with
  | some value => if value = "" then .ok (.exit [s!"Error: {what} required"] 1) else rest value
  | none => .ok (.exit [s!"Error: {what} required"] 1)

/--
`dispatch_gmail(service, action, args)`. `str.split(",")` is `String.splitOn ","`, which splits at
each comma as Python does.
-/
def dispatchGmail (action : Option String) (args : List String) : Except Raised Outcome :=
  if action = some "list" then do
    let maxResults ← if args ≠ [] then argAt args 0 >>= intArg else pure 20
    pure (.call (.gmailList maxResults args[1]?))
  else if action = some "search" then
    pure (.call (.gmailSearch (args[0]?.getD "")))
  else if action = some "read" then
    requireFirst "message_id" args fun messageId => pure (.call (.gmailRead messageId))
  else if action = some "send" then
    exitWithUsage (args.length < 3) "Usage: gmail send <to> <subject> <body> [cc]" do
      let recipient ← argAt args 0
      let subject ← argAt args 1
      let body ← argAt args 2
      pure (.call (.gmailSend recipient subject body args[3]?))
  else if action = some "reply" then
    exitWithUsage (args.length < 2) "Usage: gmail reply <message_id> <body>" do
      let messageId ← argAt args 0
      let body ← argAt args 1
      pure (.call (.gmailReply messageId body))
  else if action = some "label" then
    exitWithUsage (args.length < 2)
      "Usage: gmail label <message_id> <add_labels> [remove_labels]" do
      let addLabels ← if args.length > 1 then (·.splitOn ",") <$> argAt args 1 else pure []
      let removeLabels ← if args.length > 2 then (·.splitOn ",") <$> argAt args 2 else pure []
      let messageId ← argAt args 0
      pure (.call (.gmailLabel messageId addLabels removeLabels))
  else if action = some "trash" then
    requireFirst "message_id" args fun messageId => pure (.call (.gmailTrash messageId))
  else if action = some "labels" then
    pure (.call .gmailLabels)
  else
    pure (.exit ["Gmail actions: list, search, read, send, reply, label, trash, labels"] 0)

/-- `dispatch_drive(service, action, args)`. -/
def dispatchDrive (action : Option String) (args : List String) : Except Raised Outcome :=
  if action = some "list" then
    pure (.call (.driveList (args[0]?.getD "root")))
  else if action = some "search" then
    pure (.call (.driveSearch (args[0]?.getD "")))
  else if action = some "get" then
    requireFirst "file_id" args fun fileId => pure (.call (.driveGet fileId))
  else if action = some "download" then
    exitWithUsage (args = []) "Usage: drive download <file_id> [output_path]" do
      let fileId ← argAt args 0
      pure (.call (.driveDownload fileId args[1]?))
  else if action = some "upload" then
    exitWithUsage (args = []) "Usage: drive upload <file_path> [folder_id]" do
      let filePath ← argAt args 0
      pure (.call (.driveUpload filePath (args[1]?.getD "root")))
  else if action = some "mkdir" then
    exitWithUsage (args.length < 1) "Usage: drive mkdir <name> [parent_id]" do
      let name ← argAt args 0
      pure (.call (.driveCreateFolder name (args[1]?.getD "root")))
  else if action = some "share" then
    exitWithUsage (args.length < 3) "Usage: drive share <file_id> <email> <role>" do
      let fileId ← argAt args 0
      let email ← argAt args 1
      let role ← argAt args 2
      pure (.call (.driveShare fileId email role))
  else if action = some "delete" then
    requireFirst "file_id" args fun fileId => pure (.call (.driveDelete fileId))
  else if action = some "move" then
    exitWithUsage (args.length < 2) "Usage: drive move <file_id> <new_folder_id>" do
      let fileId ← argAt args 0
      let newFolderId ← argAt args 1
      pure (.call (.driveMove fileId newFolderId))
  else
    pure (.exit
      ["Drive actions: list, search, get, download, upload, mkdir, share, delete, move"] 0)

/-- `dispatch_calendar(service, action, args)`. -/
def dispatchCalendar (action : Option String) (args : List String) : Except Raised Outcome :=
  if action = some "list" then do
    let maxResults ← if args ≠ [] then argAt args 0 >>= intArg else pure 20
    pure (.call (.calendarList maxResults))
  else if action = some "create" then
    exitWithUsage (args.length < 3)
      "Usage: calendar create <summary> <start_time> <end_time> [location] [description]" do
      let summary ← argAt args 0
      let startTime ← argAt args 1
      let endTime ← argAt args 2
      pure (.call (.calendarCreate summary startTime endTime args[3]? args[4]?))
  else if action = some "update" then
    exitWithUsage (args.length < 2)
      "Usage: calendar update <event_id> [summary] [start] [end] [location]" do
      let eventId ← argAt args 0
      pure (.call (.calendarUpdate eventId args[1]? args[2]? args[3]? args[4]?))
  else if action = some "delete" then
    requireFirst "event_id" args fun eventId => pure (.call (.calendarDelete eventId))
  else if action = some "freebusy" then
    exitWithUsage (args.length < 2) "Usage: calendar freebusy <time_min> <time_max>" do
      let timeMin ← argAt args 0
      let timeMax ← argAt args 1
      pure (.call (.calendarFreebusy timeMin timeMax))
  else
    pure (.exit ["Calendar actions: list, create, update, delete, freebusy"] 0)

/-- `dispatch_chat(service, action, args)`. -/
def dispatchChat (action : Option String) (args : List String) : Except Raised Outcome :=
  if action = some "spaces" then
    pure (.call .chatListSpaces)
  else if action = some "send" then
    exitWithUsage (args.length < 2) "Usage: chat send <space_name> <message>" do
      let spaceName ← argAt args 0
      let message ← argAt args 1
      pure (.call (.chatSend spaceName message))
  else if action = some "messages" then
    exitWithUsage (args = []) "Usage: chat messages <space_name>" do
      let spaceName ← argAt args 0
      pure (.call (.chatListMessages spaceName))
  else
    pure (.exit ["Chat actions: spaces, send, messages"] 0)

/-- `dispatch_docs(service, action, args)`. -/
def dispatchDocs (action : Option String) (args : List String) : Except Raised Outcome :=
  if action = some "create" then
    pure (.call (.docsCreate (args[0]?.getD "Untitled") args[1]?))
  else if action = some "read" then
    requireFirst "document_id" args fun documentId => pure (.call (.docsRead documentId))
  else if action = some "append" then
    exitWithUsage (args.length < 2) "Usage: docs append <document_id> <content>" do
      let documentId ← argAt args 0
      let content ← argAt args 1
      pure (.call (.docsAppend documentId content))
  else
    pure (.exit ["Docs actions: create, read, append"] 0)

/-- `dispatch_sheets(service, action, args)`, with `loads` what `json.loads` answers. -/
def dispatchSheets (loads : String → Except String Json) (action : Option String)
    (args : List String) : Except Raised Outcome :=
  if action = some "create" then
    pure (.call (.sheetsCreate (args[0]?.getD "Untitled Spreadsheet")))
  else if action = some "read" then
    exitWithUsage (args = []) "Usage: sheets read <spreadsheet_id> [range]" do
      let spreadsheetId ← argAt args 0
      pure (.call (.sheetsRead spreadsheetId (args[1]?.getD "Sheet1")))
  else if action = some "write" then
    exitWithUsage (args.length < 3) "Usage: sheets write <spreadsheet_id> <range> <json_values>" do
      let values ← argAt args 2 >>= loadsArg loads
      let spreadsheetId ← argAt args 0
      let rangeName ← argAt args 1
      pure (.call (.sheetsWrite spreadsheetId rangeName values))
  else if action = some "append" then
    exitWithUsage (args.length < 3) "Usage: sheets append <spreadsheet_id> <range> <json_values>" do
      let values ← argAt args 2 >>= loadsArg loads
      let spreadsheetId ← argAt args 0
      let rangeName ← argAt args 1
      pure (.call (.sheetsAppend spreadsheetId rangeName values))
  else if action = some "clear" then
    exitWithUsage (args.length < 2) "Usage: sheets clear <spreadsheet_id> <range>" do
      let spreadsheetId ← argAt args 0
      let rangeName ← argAt args 1
      pure (.call (.sheetsClear spreadsheetId rangeName))
  else
    pure (.exit ["Sheets actions: create, read, write, append, clear"] 0)

/-- The lines `print_usage()` prints, `print()` printing an empty one. -/
def printUsage : List String :=
  ["Google Workspace Skill", "", "Usage: google_workspace <service> <action> [args...]", "",
    "Services:",
    "  gmail     - Email operations (list, read, send, search, reply, label, trash)",
    "  drive     - File storage (list, search, get, download, upload, mkdir, share, delete, move)",
    "  calendar  - Calendar events (list, create, update, delete, freebusy)",
    "  chat      - Google Chat (spaces, send, messages)",
    "  docs      - Google Docs (create, read, append)",
    "  sheets    - Google Sheets (create, read, write, append, clear)", "",
    "Required vault secrets:", "  GOOGLE_CLIENT_ID", "  GOOGLE_CLIENT_SECRET",
    "  GOOGLE_REFRESH_TOKEN"]

/-- The vault keys `get_credentials` reads from the environment. -/
def vaultKeys : List String := ["GOOGLE_CLIENT_ID", "GOOGLE_CLIENT_SECRET", "GOOGLE_REFRESH_TOKEN"]

/-- The lines `get_credentials` prints before `sys.exit(1)` when a vault key is missing. -/
def missingCredentials : List String :=
  ["Error: Missing Google OAuth credentials in vault.", "Required vault keys:",
    "  - GOOGLE_CLIENT_ID", "  - GOOGLE_CLIENT_SECRET", "  - GOOGLE_REFRESH_TOKEN",
    "\nTo obtain these:", "  1. Go to https://console.cloud.google.com/apis/credentials",
    "  2. Create OAuth 2.0 Client ID (Desktop app)",
    "  3. Run the setup_oauth.py script to get a refresh token"]

/--
`get_credentials()`, then the rest of `main`: every vault key must be set and not empty
(`all([...])` on the values `os.environ.get` returns), and refreshing the token may raise.
-/
def getCredentials (env : String → Option String) (refresh : Except String Unit)
    (rest : Except Raised Outcome) : Except Raised Outcome :=
  if vaultKeys.all fun key => (env key).any (· != "") then
    match refresh with
    | .ok () => rest
    | .error message => .error (.refreshError message)
  else .ok (.exit missingCredentials 1)

/--
`service = get_service(name, version, creds)`, then the dispatcher: `build` gives what
`googleapiclient`'s `build` does for a service and version, which may raise (fetching the discovery
document, or an unknown name or version).
-/
def getService (build : String → String → Except String Unit) (name version : String)
    (dispatch : Except Raised Outcome) : Except Raised Outcome :=
  match build name version with
  | .ok () => dispatch
  | .error message => .error (.buildError message)

/--
The `if` chain of `main` on the service's name, each service built and handed to its dispatcher.
-/
def dispatchService (build : String → String → Except String Unit)
    (loads : String → Except String Json) (serviceName : String) (action : Option String)
    (args : List String) : Except Raised Outcome :=
  if serviceName = "gmail" then getService build "gmail" "v1" (dispatchGmail action args)
  else if serviceName = "drive" then getService build "drive" "v3" (dispatchDrive action args)
  else if serviceName = "calendar" then
    getService build "calendar" "v3" (dispatchCalendar action args)
  else if serviceName = "chat" then getService build "chat" "v1" (dispatchChat action args)
  else if serviceName = "docs" then getService build "docs" "v1" (dispatchDocs action args)
  else if serviceName = "sheets" then
    getService build "sheets" "v4" (dispatchSheets loads action args)
  else .ok (.exit [s!"Unknown service: {serviceName}",
    "Available services: gmail, drive, calendar, chat, docs, sheets"] 1)

/--
`main()` of `google_workspace.py` on `sys.argv`, with `env` for `os.environ.get`, `refresh` for what
`creds.refresh(Request())` does, `build` for what building a service client does, and `loads` for
`json.loads`. The action is `sys.argv[2]` when given, and the dispatcher's arguments are
`sys.argv[3:]`.
-/
def workspaceMain (env : String → Option String) (refresh : Except String Unit)
    (build : String → String → Except String Unit) (loads : String → Except String Json) :
    List String → Except Raised Outcome
  | _ :: serviceName :: rest =>
    getCredentials env refresh (dispatchService build loads serviceName rest.head? (rest.drop 1))
  | _ => .ok (.exit printUsage 1)

end Moxxy
