import Moxxy.Workspace.Main

/-!
What a run of `google_workspace.py` ends with: every argument a dispatcher reads is behind a check
of the argument count, so `main`'s own code never raises `IndexError`; and a run that calls no API
exits with status 0 only by printing the dispatcher's actions line, which names exactly the actions
for which it is not printed.
-/

namespace Moxxy

/--
What a branch for an action a dispatcher knows ends with: one line and status 1, one API call, or an
exception that `Raises` allows.
-/
inductive Branch (Raises : Raised → Prop) : Except Raised Outcome → Prop
  | refused (line : String) : Branch Raises (.ok (.exit [line] 1))
  | called (call : ApiCall) : Branch Raises (.ok (.call call))
  | raised {raised : Raised} : Raises raised → Branch Raises (.error raised)

/-- The line a dispatcher prints for an action it does not know: its title, then its actions. -/
def actionsLine (title : String) (actions : List String) : String :=
  title ++ " actions: " ++ ", ".intercalate actions

/--
How a dispatcher that handles `actions` ends for `action`: its actions line and status 0 when the
action is none of them, and one of its branches otherwise.
-/
inductive Dispatched (title : String) (actions : List String) (Raises : Raised → Prop)
    (action : Option String) : Except Raised Outcome → Prop
  | unknown : (∀ a ∈ actions, action ≠ some a) →
      Dispatched title actions Raises action (.ok (.exit [actionsLine title actions] 0))
  | handled {result : Except Raised Outcome} : (∃ a ∈ actions, action = some a) →
      Branch Raises result → Dispatched title actions Raises action result

/--
What a dispatcher may raise: `int()`'s error on the count given to `gmail list` or `calendar list`,
and `json.loads`'s on the values given to `sheets write` or `sheets append`.
-/
def ServiceRaises (loads : String → Except String Json) (serviceName : String)
    (action : Option String) (args : List String) (raised : Raised) : Prop :=
  (∃ text, (serviceName = "gmail" ∨ serviceName = "calendar") ∧ action = some "list" ∧
    args[0]? = some text ∧ pyInt text = none ∧ raised = .valueError text) ∨
  (∃ text message, serviceName = "sheets" ∧ (action = some "write" ∨ action = some "append") ∧
    args[2]? = some text ∧ loads text = .error message ∧ raised = .jsonError message)

section Branches

variable {Raises : Raised → Prop}

/-- `args[i]` below the count is the argument. -/
theorem argAt_of_lt {args : List String} {i : Nat} (within : i < args.length) :
    argAt args i = .ok args[i] := by
  simp [argAt, List.getElem?_eq_getElem within]

/-- Reading an argument below the count raises nothing. -/
theorem Branch.arg {args : List String} {i : Nat} {rest : String → Except Raised Outcome}
    (within : i < args.length) (each : ∀ value, Branch Raises (rest value)) :
    Branch Raises (argAt args i >>= rest) := by
  rw [argAt_of_lt within]
  exact each _

/-- Reading an argument below the count and mapping it raises nothing. -/
theorem Branch.mapArg {α : Type} {f : String → α} {args : List String} {i : Nat}
    {rest : α → Except Raised Outcome} (within : i < args.length)
    (each : ∀ value, Branch Raises (rest (f value))) :
    Branch Raises (f <$> argAt args i >>= rest) := by
  rw [argAt_of_lt within]
  exact each _

/-- A check of the argument count: too few print the usage line and exit with 1. -/
theorem Branch.usage {short : Prop} [Decidable short] {usage : String}
    {rest : Except Raised Outcome} (enough : ¬ short → Branch Raises rest) :
    Branch Raises (exitWithUsage short usage rest) := by
  unfold exitWithUsage
  split_ifs with few
  · -- Too few arguments: the usage line.
    exact .refused usage
  · -- Enough: the branch goes on.
    exact enough few

/-- A required first argument: missing or empty, it prints an error line and exits with 1. -/
theorem Branch.required {what : String} {args : List String} {rest : String → Except Raised Outcome}
    (each : ∀ value, Branch Raises (rest value)) : Branch Raises (requireFirst what args rest) := by
  unfold requireFirst
  split
  · -- A first argument: refused when empty.
    split_ifs
    · exact .refused _
    · exact each _
  · -- No argument: the error line.
    exact .refused _

/-- The count of `list`, `int(args[0]) if args else 20`: `int()` raises on a text not a number. -/
theorem Branch.count {args : List String} {rest : Int → Except Raised Outcome}
    (each : ∀ n, Branch Raises (rest n))
    (invalid : ∀ text, args[0]? = some text → pyInt text = none → Raises (.valueError text)) :
    Branch Raises (if args ≠ [] then argAt args 0 >>= intArg >>= rest else pure 20 >>= rest) := by
  split_ifs with given
  · -- A count given: `int()` reads it.
    have within : 0 < args.length := List.length_pos.2 given
    rw [argAt_of_lt within]
    show Branch Raises (intArg args[0] >>= rest)
    unfold intArg
    cases parsed : pyInt args[0] with
    | some n => exact each n
    -- Not a number: `int()` raises.
    | none => exact .raised (invalid _ (List.getElem?_eq_getElem within) parsed)
  · -- No count: 20.
    exact each 20

/-- The values of `sheets write` and `sheets append`: `json.loads(args[2])` may raise. -/
theorem Branch.values {loads : String → Except String Json} {args : List String}
    {rest : Json → Except Raised Outcome} (within : 2 < args.length)
    (each : ∀ values, Branch Raises (rest values))
    (invalid : ∀ text message, args[2]? = some text → loads text = .error message →
      Raises (.jsonError message)) :
    Branch Raises (argAt args 2 >>= loadsArg loads >>= rest) := by
  rw [argAt_of_lt within]
  show Branch Raises (loadsArg loads args[2] >>= rest)
  unfold loadsArg
  cases loaded : loads args[2] with
  | ok values => exact each values
  -- Not JSON: `json.loads` raises.
  | error message => exact .raised (invalid _ message (List.getElem?_eq_getElem within) loaded)

end Branches

section Dispatchers

variable {title : String} {actions : List String} {Raises : Raised → Prop} {action : Option String}
  {result : Except Raised Outcome}

/-- A dispatcher raises only what its branches allow. -/
theorem Dispatched.raises (dispatched : Dispatched title actions Raises action result)
    {raised : Raised} (ran : result = .error raised) : Raises raised := by
  subst ran
  rcases dispatched with _ | ⟨-, branch⟩
  cases branch with
  | raised allowed => exact allowed

/-- A dispatcher exits with status 0, calling nothing, exactly on an action it does not know. -/
theorem Dispatched.exitsZero_iff (dispatched : Dispatched title actions Raises action result)
    (lines : List String) :
    result = .ok (.exit lines 0) ↔
      lines = [actionsLine title actions] ∧ ∀ a ∈ actions, action ≠ some a := by
  cases dispatched with
  | unknown unlisted =>
    constructor
    · -- The actions line is the one printed.
      intro same
      cases same
      exact ⟨rfl, unlisted⟩
    · -- Printing it is what an unknown action does.
      rintro ⟨rfl, -⟩
      rfl
  | handled listed branch =>
    -- A known action's branch never exits with 0, and the action is listed.
    obtain ⟨a, member, rfl⟩ := listed
    refine ⟨fun same => ?_, fun ⟨_, unlisted⟩ => absurd rfl (unlisted a member)⟩
    subst same
    nomatch branch

/--
A dispatcher whose known actions each lead to a branch, and whose other actions print its actions
line, ends as `Dispatched` says for every action.
-/
theorem Dispatched.intro {dispatch : Option String → Except Raised Outcome}
    {Raises : Option String → Raised → Prop}
    (known : ∀ a ∈ actions, Branch (Raises (some a)) (dispatch (some a)))
    (unknown : ∀ action, (∀ a ∈ actions, action ≠ some a) →
      dispatch action = .ok (.exit [actionsLine title actions] 0))
    (action : Option String) :
    Dispatched title actions (Raises action) action (dispatch action) := by
  by_cases listed : ∃ a ∈ actions, action = some a
  · -- A known action: its branch.
    obtain ⟨a, member, rfl⟩ := listed
    exact .handled ⟨a, member, rfl⟩ (known a member)
  · -- Any other: the actions line.
    push_neg at listed
    exact unknown action listed ▸ .unknown listed

variable (loads : String → Except String Json) (args : List String)

/-- The actions `dispatch_gmail` handles. -/
def gmailActions : List String :=
  ["list", "search", "read", "send", "reply", "label", "trash", "labels"]

/-- `dispatch_gmail` handles its actions and prints them for any other. -/
theorem dispatchGmail_dispatched :
    Dispatched "Gmail" gmailActions (ServiceRaises loads "gmail" action args) action
      (dispatchGmail action args) := by
  refine @Dispatched.intro "Gmail" gmailActions (dispatchGmail · args)
    (ServiceRaises loads "gmail" · args) (fun a listed => ?_) (fun action unlisted => ?_) action
  · -- The known actions, one case each.
    simp only [gmailActions, List.mem_cons, List.not_mem_nil, or_false] at listed
    rcases listed with rfl | rfl | rfl | rfl | rfl | rfl | rfl | rfl <;> simp only [dispatchGmail]
    · -- `list`: the count.
      exact Branch.count (fun _ => .called _) fun text first invalid =>
        .inl ⟨text, .inl rfl, rfl, first, invalid, rfl⟩
    · -- `search`: the query, or an empty one when none is given.
      exact .called _
    · -- `read`: the message id.
      exact Branch.required fun _ => .called _
    · -- `send`: the recipient, subject and body behind the count check.
      exact Branch.usage fun enough => Branch.arg (by omega) fun _ =>
        Branch.arg (by omega) fun _ => Branch.arg (by omega) fun _ => .called _
    · -- `reply`: the message id and body behind the count check.
      exact Branch.usage fun enough => Branch.arg (by omega) fun _ =>
        Branch.arg (by omega) fun _ => .called _
    · -- The labels are read only where the count allows.
      refine Branch.usage fun enough => ?_
      rw [if_pos (by omega)]
      refine Branch.mapArg (by omega) fun _ => ?_
      split_ifs with third
      · exact Branch.mapArg third fun _ => Branch.arg (by omega) fun _ => .called _
      · exact Branch.arg (by omega) fun _ => .called _
    · -- `trash`: the message id.
      exact Branch.required fun _ => .called _
    · -- `labels`: nothing to read.
      exact .called _
  · -- Any other action: the actions line.
    simp only [gmailActions, List.forall_mem_cons, List.forall_mem_nil, and_true] at unlisted
    simp only [dispatchGmail, unlisted, if_false]
    rfl

/-- The actions `dispatch_drive` handles. -/
def driveActions : List String :=
  ["list", "search", "get", "download", "upload", "mkdir", "share", "delete", "move"]

/-- `dispatch_drive` handles its actions and prints them for any other; it raises nothing. -/
theorem dispatchDrive_dispatched :
    Dispatched "Drive" driveActions (ServiceRaises loads "drive" action args) action
      (dispatchDrive action args) := by
  refine @Dispatched.intro "Drive" driveActions (dispatchDrive · args)
    (ServiceRaises loads "drive" · args) (fun a listed => ?_) (fun action unlisted => ?_) action
  · -- The known actions, one case each.
    simp only [driveActions, List.mem_cons, List.not_mem_nil, or_false] at listed
    rcases listed with rfl | rfl | rfl | rfl | rfl | rfl | rfl | rfl | rfl <;>
      simp only [dispatchDrive]
    · -- `list`: the folder, or `root` when none is given.
      exact .called _
    · -- `search`: the query, or an empty one when none is given.
      exact .called _
    · -- `get`: the file id.
      exact Branch.required fun _ => .called _
    · -- `download`: the file id behind the check for an empty list.
      exact Branch.usage fun given => Branch.arg (List.length_pos.2 given) fun _ => .called _
    · -- `upload`: the path behind the check for an empty list.
      exact Branch.usage fun given => Branch.arg (List.length_pos.2 given) fun _ => .called _
    · -- `mkdir`: the name behind the count check.
      exact Branch.usage fun enough => Branch.arg (by omega) fun _ => .called _
    · -- `share`: the file, the address and the role behind the count check.
      exact Branch.usage fun enough => Branch.arg (by omega) fun _ =>
        Branch.arg (by omega) fun _ => Branch.arg (by omega) fun _ => .called _
    · -- `delete`: the file id.
      exact Branch.required fun _ => .called _
    · -- `move`: the file and the folder behind the count check.
      exact Branch.usage fun enough => Branch.arg (by omega) fun _ =>
        Branch.arg (by omega) fun _ => .called _
  · -- Any other action: the actions line.
    simp only [driveActions, List.forall_mem_cons, List.forall_mem_nil, and_true] at unlisted
    simp only [dispatchDrive, unlisted, if_false]
    rfl

/-- The actions `dispatch_calendar` handles. -/
def calendarActions : List String := ["list", "create", "update", "delete", "freebusy"]

/-- `dispatch_calendar` handles its actions and prints them for any other. -/
theorem dispatchCalendar_dispatched :
    Dispatched "Calendar" calendarActions (ServiceRaises loads "calendar" action args) action
      (dispatchCalendar action args) := by
  refine @Dispatched.intro "Calendar" calendarActions (dispatchCalendar · args)
    (ServiceRaises loads "calendar" · args) (fun a listed => ?_) (fun action unlisted => ?_) action
  · -- The known actions, one case each.
    simp only [calendarActions, List.mem_cons, List.not_mem_nil, or_false] at listed
    rcases listed with rfl | rfl | rfl | rfl | rfl <;> simp only [dispatchCalendar]
    · -- `list`: the count.
      exact Branch.count (fun _ => .called _) fun text first invalid =>
        .inl ⟨text, .inr rfl, rfl, first, invalid, rfl⟩
    · -- `create`: the summary, start and end behind the count check.
      exact Branch.usage fun enough => Branch.arg (by omega) fun _ =>
        Branch.arg (by omega) fun _ => Branch.arg (by omega) fun _ => .called _
    · -- `update`: the event behind the count check; the fields only when given.
      exact Branch.usage fun enough => Branch.arg (by omega) fun _ => .called _
    · -- `delete`: the event id.
      exact Branch.required fun _ => .called _
    · -- `freebusy`: the two times behind the count check.
      exact Branch.usage fun enough => Branch.arg (by omega) fun _ =>
        Branch.arg (by omega) fun _ => .called _
  · -- Any other action: the actions line.
    simp only [calendarActions, List.forall_mem_cons, List.forall_mem_nil, and_true] at unlisted
    simp only [dispatchCalendar, unlisted, if_false]
    rfl

/-- The actions `dispatch_chat` handles. -/
def chatActions : List String := ["spaces", "send", "messages"]

/-- `dispatch_chat` handles its actions and prints them for any other; it raises nothing. -/
theorem dispatchChat_dispatched :
    Dispatched "Chat" chatActions (ServiceRaises loads "chat" action args) action
      (dispatchChat action args) := by
  refine @Dispatched.intro "Chat" chatActions (dispatchChat · args)
    (ServiceRaises loads "chat" · args) (fun a listed => ?_) (fun action unlisted => ?_) action
  · -- The known actions, one case each.
    simp only [chatActions, List.mem_cons, List.not_mem_nil, or_false] at listed
    rcases listed with rfl | rfl | rfl <;> simp only [dispatchChat]
    · -- `spaces`: nothing to read.
      exact .called _
    · -- `send`: the space and the message behind the count check.
      exact Branch.usage fun enough => Branch.arg (by omega) fun _ =>
        Branch.arg (by omega) fun _ => .called _
    · -- `messages`: the space behind the check for an empty list.
      exact Branch.usage fun given => Branch.arg (List.length_pos.2 given) fun _ => .called _
  · -- Any other action: the actions line.
    simp only [chatActions, List.forall_mem_cons, List.forall_mem_nil, and_true] at unlisted
    simp only [dispatchChat, unlisted, if_false]
    rfl

/-- The actions `dispatch_docs` handles. -/
def docsActions : List String := ["create", "read", "append"]

/-- `dispatch_docs` handles its actions and prints them for any other; it raises nothing. -/
theorem dispatchDocs_dispatched :
    Dispatched "Docs" docsActions (ServiceRaises loads "docs" action args) action
      (dispatchDocs action args) := by
  refine @Dispatched.intro "Docs" docsActions (dispatchDocs · args)
    (ServiceRaises loads "docs" · args) (fun a listed => ?_) (fun action unlisted => ?_) action
  · -- The known actions, one case each.
    simp only [docsActions, List.mem_cons, List.not_mem_nil, or_false] at listed
    rcases listed with rfl | rfl | rfl <;> simp only [dispatchDocs]
    · -- `create`: the title, read only when given.
      exact .called _
    · -- `read`: the document id.
      exact Branch.required fun _ => .called _
    · -- `append`: the document and the content behind the count check.
      exact Branch.usage fun enough => Branch.arg (by omega) fun _ =>
        Branch.arg (by omega) fun _ => .called _
  · -- Any other action: the actions line.
    simp only [docsActions, List.forall_mem_cons, List.forall_mem_nil, and_true] at unlisted
    simp only [dispatchDocs, unlisted, if_false]
    rfl

/-- The actions `dispatch_sheets` handles. -/
def sheetsActions : List String := ["create", "read", "write", "append", "clear"]

/-- `dispatch_sheets` handles its actions and prints them for any other. -/
theorem dispatchSheets_dispatched :
    Dispatched "Sheets" sheetsActions (ServiceRaises loads "sheets" action args) action
      (dispatchSheets loads action args) := by
  refine @Dispatched.intro "Sheets" sheetsActions (dispatchSheets loads · args)
    (ServiceRaises loads "sheets" · args) (fun a listed => ?_) (fun action unlisted => ?_) action
  · -- The known actions, one case each.
    simp only [sheetsActions, List.mem_cons, List.not_mem_nil, or_false] at listed
    rcases listed with rfl | rfl | rfl | rfl | rfl <;> simp only [dispatchSheets]
    · -- `create`: the title, read only when given.
      exact .called _
    · -- `read`: the spreadsheet behind the check for an empty list.
      exact Branch.usage fun given => Branch.arg (List.length_pos.2 given) fun _ => .called _
    · -- `write`: the values, which `json.loads` may refuse, behind the count check.
      exact Branch.usage fun enough => Branch.values (by omega)
        (fun _ => Branch.arg (by omega) fun _ => Branch.arg (by omega) fun _ => .called _)
        fun text message third failed => .inr ⟨text, message, rfl, .inl rfl, third, failed, rfl⟩
    · -- `append`: the values, which `json.loads` may refuse, behind the count check.
      exact Branch.usage fun enough => Branch.values (by omega)
        (fun _ => Branch.arg (by omega) fun _ => Branch.arg (by omega) fun _ => .called _)
        fun text message third failed => .inr ⟨text, message, rfl, .inr rfl, third, failed, rfl⟩
    · -- `clear`: the spreadsheet and the range behind the count check.
      exact Branch.usage fun enough => Branch.arg (by omega) fun _ =>
        Branch.arg (by omega) fun _ => .called _
  · -- Any other action: the actions line.
    simp only [sheetsActions, List.forall_mem_cons, List.forall_mem_nil, and_true] at unlisted
    simp only [dispatchSheets, unlisted, if_false]
    rfl

variable (build : String → String → Except String Unit)

/--
`get_service` either hands on to the dispatcher or raises what building the client raised; which
one does not depend on the dispatcher.
-/
theorem getService_cases (name version : String) :
    (∀ dispatch, getService build name version dispatch = dispatch) ∨
    ∃ message, build name version = .error message ∧
      ∀ dispatch, getService build name version dispatch = .error (.buildError message) := by
  cases built : build name version with
  -- The client is built: the dispatcher runs.
  | ok => exact .inl fun _ => by simp [getService, built]
  -- The build raised: its message, whatever the dispatcher.
  | error message => exact .inr ⟨message, rfl, fun _ => by simp [getService, built]⟩

/-- A service `main` knows: its client is built and its dispatcher runs, or the build raises. -/
theorem knownService_cases {serviceName version title : String} {actions : List String}
    {dispatch : Option String → List String → Except Raised Outcome}
    (runs : ∀ action args, dispatchService build loads serviceName action args =
      getService build serviceName version (dispatch action args))
    (dispatched : ∀ action args, Dispatched title actions
      (ServiceRaises loads serviceName action args) action (dispatch action args)) :
    (∃ title actions, ∀ action args, Dispatched title actions
      (ServiceRaises loads serviceName action args) action
      (dispatchService build loads serviceName action args)) ∨
    (∃ version message, build serviceName version = .error message ∧ ∀ action args,
      dispatchService build loads serviceName action args = .error (.buildError message)) ∨
    ∀ action args, dispatchService build loads serviceName action args =
      .ok (.exit [s!"Unknown service: {serviceName}",
        "Available services: gmail, drive, calendar, chat, docs, sheets"] 1) := by
  rcases getService_cases build serviceName version with passed | ⟨message, failed, raises⟩
  · -- The client is built: the dispatcher's cases.
    exact .inl ⟨title, actions, fun action args => by rw [runs, passed]; exact dispatched _ _⟩
  · -- The build raised.
    exact .inr (.inl ⟨version, message, failed, fun action args => by rw [runs, raises]⟩)

/--
`main` builds each service it knows and hands it to a dispatcher, unless the build raises, and
prints the services for any other name.
-/
theorem dispatchService_cases (serviceName : String) :
    (∃ title actions, ∀ action args, Dispatched title actions
      (ServiceRaises loads serviceName action args) action
      (dispatchService build loads serviceName action args)) ∨
    (∃ version message, build serviceName version = .error message ∧ ∀ action args,
      dispatchService build loads serviceName action args = .error (.buildError message)) ∨
    ∀ action args, dispatchService build loads serviceName action args =
      .ok (.exit [s!"Unknown service: {serviceName}",
        "Available services: gmail, drive, calendar, chat, docs, sheets"] 1) := by
  by_cases gmail : serviceName = "gmail"
  · -- Each of the six names runs its own dispatcher on its own client.
    subst gmail
    exact knownService_cases loads build (fun _ _ => rfl) fun _ args =>
      dispatchGmail_dispatched loads args
  by_cases drive : serviceName = "drive"
  · subst drive
    exact knownService_cases loads build (fun _ _ => rfl) fun _ args =>
      dispatchDrive_dispatched loads args
  by_cases calendar : serviceName = "calendar"
  · subst calendar
    exact knownService_cases loads build (fun _ _ => rfl) fun _ args =>
      dispatchCalendar_dispatched loads args
  by_cases chat : serviceName = "chat"
  · subst chat
    exact knownService_cases loads build (fun _ _ => rfl) fun _ args =>
      dispatchChat_dispatched loads args
  by_cases docs : serviceName = "docs"
  · subst docs
    exact knownService_cases loads build (fun _ _ => rfl) fun _ args =>
      dispatchDocs_dispatched loads args
  by_cases sheets : serviceName = "sheets"
  · subst sheets
    exact knownService_cases loads build (fun _ _ => rfl) fun _ args =>
      dispatchSheets_dispatched loads args
  -- Any other name is none of the six.
  exact .inr (.inr fun _ _ => by
    simp only [dispatchService, gmail, drive, calendar, chat, docs, sheets, if_false])

end Dispatchers

/--
`get_credentials` either lets `main` go on, or prints the missing keys and exits with 1, or raises
what refreshing the token raises; which one does not depend on what follows.
-/
theorem getCredentials_cases (env : String → Option String) (refresh : Except String Unit) :
    (∀ rest, getCredentials env refresh rest = rest) ∨
    (∀ rest, getCredentials env refresh rest = .ok (.exit missingCredentials 1)) ∨
    ∃ message, refresh = .error message ∧
      ∀ rest, getCredentials env refresh rest = .error (.refreshError message) := by
  by_cases signedIn : vaultKeys.all fun key => (env key).any (· != "")
  · -- Every vault key is set: the token is refreshed.
    cases refresh with
    -- The refresh went through: `main` goes on.
    | ok _ => exact .inl fun _ => by simp [getCredentials, signedIn]
    -- The refresh raised.
    | error message =>
      exact .inr (.inr ⟨message, rfl, fun _ => by simp [getCredentials, signedIn]⟩)
  · -- A key is missing: the list of keys to set.
    exact .inr (.inl fun _ => by simp [getCredentials, signedIn])

/-- What `main` of `google_workspace.py` can raise on `argv` before any API wrapper runs. -/
inductive MainRaises (refresh : Except String Unit) (build : String → String → Except String Unit)
    (loads : String → Except String Json) : List String → Raised → Prop
  /-- Refreshing the token raised. -/
  | refresh {argv : List String} {message : String} :
      refresh = .error message → MainRaises refresh build loads argv (.refreshError message)
  /-- Building the client of the service named raised. -/
  | service {script serviceName version message : String} {rest : List String} :
      build serviceName version = .error message →
      MainRaises refresh build loads (script :: serviceName :: rest) (.buildError message)
  /-- `int()` on the count given to `gmail list` or `calendar list`. -/
  | count {script serviceName text : String} {rest : List String} :
      (serviceName = "gmail" ∨ serviceName = "calendar") → pyInt text = none →
      MainRaises refresh build loads (script :: serviceName :: "list" :: text :: rest)
        (.valueError text)
  /-- `json.loads` on the values given to `sheets write` or `sheets append`. -/
  | values {script action spreadsheetId rangeName text message : String} {rest : List String} :
      (action = "write" ∨ action = "append") → loads text = .error message →
      MainRaises refresh build loads
        (script :: "sheets" :: action :: spreadsheetId :: rangeName :: text :: rest)
        (.jsonError message)

section Main

variable (env : String → Option String) (refresh : Except String Unit)
  (build : String → String → Except String Unit) (loads : String → Except String Json)

/--
How a run of `main` ends: with status 1 before any dispatcher (the usage, missing credentials or an
unknown service), with what the refresh or the build of the service's client raises, or as the
dispatcher of its service ends, for every action and arguments.
-/
theorem workspaceMain_cases (argv : List String) :
    (∃ lines, workspaceMain env refresh build loads argv = .ok (.exit lines 1)) ∨
    (∃ message, refresh = .error message ∧
      workspaceMain env refresh build loads argv = .error (.refreshError message)) ∨
    (∃ script serviceName rest version message, argv = script :: serviceName :: rest ∧
      build serviceName version = .error message ∧
      workspaceMain env refresh build loads argv = .error (.buildError message)) ∨
    ∃ script serviceName rest title actions, argv = script :: serviceName :: rest ∧
      ∀ rest', Dispatched title actions (ServiceRaises loads serviceName rest'.head? (rest'.drop 1))
        rest'.head? (workspaceMain env refresh build loads (script :: serviceName :: rest')) := by
  rcases argv with _ | ⟨script, _ | ⟨serviceName, rest⟩⟩
  · -- No service named: the usage line.
    exact .inl ⟨_, rfl⟩
  · -- No service named: the usage line.
    exact .inl ⟨_, rfl⟩
  simp only [workspaceMain]
  rcases getCredentials_cases env refresh with passed | missing | ⟨message, failed, raises⟩
  · -- Signed in: the service's dispatcher, its failed build, or the unknown name.
    simp only [passed]
    rcases dispatchService_cases loads build serviceName with ⟨title, actions, dispatched⟩ |
      ⟨version, message, failed, unbuilt⟩ | unknown
    · -- The dispatcher runs on the service's client.
      exact .inr (.inr (.inr ⟨script, serviceName, rest, title, actions, rfl,
        fun _ => dispatched _ _⟩))
    · -- Building the client raised.
      exact .inr (.inr (.inl ⟨script, serviceName, rest, version, message, rfl, failed,
        unbuilt _ _⟩))
    · -- An unknown service: its two lines.
      exact .inl ⟨_, unknown _ _⟩
  · -- A vault key missing: the list of keys.
    exact .inl ⟨_, missing _⟩
  · -- The refresh raised.
    exact .inr (.inl ⟨message, failed, raises _⟩)

/--
Every argument `google_workspace.py` reads is behind a check of the argument count: for every
environment, every answer of the token refresh, of `build` and of `json.loads`, and every
`sys.argv`, `main`'s own code never raises `IndexError`, and the only exceptions it raises before an
API wrapper runs are the refresh's, what building the service's client raises, `int()`'s on the
count given to `gmail list` or `calendar list`, and `json.loads`'s on the values given to
`sheets write` or `sheets append`.
-/
theorem workspaceMain_raisesOnly (argv : List String) {raised : Raised}
    (ran : workspaceMain env refresh build loads argv = .error raised) :
    raised ≠ .indexError ∧ MainRaises refresh build loads argv raised := by
  have only : MainRaises refresh build loads argv raised := by
    rcases workspaceMain_cases env refresh build loads argv with ⟨_, exits⟩ |
      ⟨message, failed, raises⟩ |
      ⟨script, serviceName, rest, version, message, rfl, failed, raises⟩ |
      ⟨script, serviceName, rest, title, actions, rfl, dispatched⟩
    · -- Status 1 raises nothing.
      nomatch exits.symm.trans ran
    · -- The refresh raised.
      cases raises.symm.trans ran
      exact .refresh failed
    · -- The build of the client raised.
      cases raises.symm.trans ran
      exact .service failed
    · -- The dispatcher raised: the count or the values.
      rcases (dispatched rest).raises ran with
        ⟨text, service, listed, first, invalid, rfl⟩ |
        ⟨text, message, rfl, writes, third, failed, rfl⟩
      · -- The count: the action is `list` and the count its first argument.
        rcases rest with _ | ⟨_, _ | ⟨_, more⟩⟩ <;> simp at listed first
        subst listed first
        exact .count service invalid
      · -- The values: the action writes or appends, and the values are its third argument.
        rcases rest with _ | ⟨_, _ | ⟨_, _ | ⟨_, _ | ⟨_, more⟩⟩⟩⟩ <;> simp at writes third
        subst third
        exact .values writes failed
  exact ⟨fun index => (by subst index; cases only), only⟩

/--
A run that calls no API exits with status 0 only by printing the actions line of the service it
was asked for, and that line names exactly the actions for which it is not printed: for every
environment, every answer of the refresh, of `build` and of `json.loads`, and every `sys.argv` that
ends so, a run for the same service prints that line and exits with 0 exactly when its action, if
any, is none of those named.
-/
theorem workspaceMain_listsActions (argv : List String) {lines : List String}
    (ran : workspaceMain env refresh build loads argv = .ok (.exit lines 0)) :
    ∃ script serviceName rest title actions, argv = script :: serviceName :: rest ∧
      lines = [actionsLine title actions] ∧
      ∀ rest', workspaceMain env refresh build loads (script :: serviceName :: rest') =
        .ok (.exit lines 0) ↔ ∀ a ∈ actions, rest'.head? ≠ some a := by
  rcases workspaceMain_cases env refresh build loads argv with ⟨_, exits⟩ | ⟨_, -, raises⟩ |
    ⟨_, _, _, _, _, rfl, -, raises⟩ | ⟨script, serviceName, rest, title, actions, rfl, dispatched⟩
  · -- Status 1 is not status 0.
    nomatch exits.symm.trans ran
  · -- A raise is not an exit.
    nomatch raises.symm.trans ran
  · -- A raise is not an exit.
    nomatch raises.symm.trans ran
  · -- The line is the dispatcher's, and it is printed exactly for the actions it does not name.
    obtain ⟨printed, -⟩ := ((dispatched rest).exitsZero_iff lines).1 ran
    exact ⟨script, serviceName, rest, title, actions, rfl, printed, fun rest' =>
      ((dispatched rest').exitsZero_iff lines).trans (and_iff_right printed)⟩

end Main

/-- An environment holding every vault key. -/
def signedInEnv : String → Option String := fun _ => some "set"

/-- A `build` that makes every client, and one whose discovery request Drive refuses. -/
def builds (driveRefused : Bool) (name _version : String) : Except String Unit :=
  if driveRefused && name = "drive" then .error "<HttpError 403 when requesting discovery>"
  else .ok ()

/--
Asking Gmail for `ten` emails: `int("ten")` raises, and nothing else could; asking for the Drive
files when the client cannot be built raises what `build` raised.
-/
theorem workspaceMain_raisesOnly_tenEmails :
    workspaceMain signedInEnv (.ok ()) (builds false) (fun _ => .ok .null)
        ["google_workspace.py", "gmail", "list", "ten"] = .error (.valueError "ten") ∧
      Raised.valueError "ten" ≠ .indexError ∧
      MainRaises (.ok ()) (builds false) (fun _ => .ok .null)
        ["google_workspace.py", "gmail", "list", "ten"] (.valueError "ten") ∧
      workspaceMain signedInEnv (.ok ()) (builds true) (fun _ => .ok .null)
          ["google_workspace.py", "drive", "list"] =
        .error (.buildError "<HttpError 403 when requesting discovery>") ∧
      MainRaises (.ok ()) (builds true) (fun _ => .ok .null)
        ["google_workspace.py", "drive", "list"]
        (.buildError "<HttpError 403 when requesting discovery>") :=
  have ran : workspaceMain signedInEnv (.ok ()) (builds false) (fun _ => .ok .null)
      ["google_workspace.py", "gmail", "list", "ten"] = .error (.valueError "ten") := rfl
  have refused : workspaceMain signedInEnv (.ok ()) (builds true) (fun _ => .ok .null)
      ["google_workspace.py", "drive", "list"] =
        .error (.buildError "<HttpError 403 when requesting discovery>") := rfl
  have ten := workspaceMain_raisesOnly _ _ _ _ _ ran
  ⟨ran, ten.1, ten.2, refused, (workspaceMain_raisesOnly _ _ _ _ _ refused).2⟩

/-- Asking Docs to publish: it prints the actions it has, and exits with 0. -/
theorem workspaceMain_listsActions_docsPublish :
    workspaceMain signedInEnv (.ok ()) (builds false) (fun _ => .ok .null)
        ["google_workspace.py", "docs", "publish"] =
      .ok (.exit ["Docs actions: create, read, append"] 0) ∧
    ∃ script serviceName rest title actions,
      ["google_workspace.py", "docs", "publish"] = script :: serviceName :: rest ∧
      ["Docs actions: create, read, append"] = [actionsLine title actions] ∧
      ∀ rest', workspaceMain signedInEnv (.ok ()) (builds false) (fun _ => .ok .null)
          (script :: serviceName :: rest') = .ok (.exit ["Docs actions: create, read, append"] 0) ↔
        ∀ a ∈ actions, rest'.head? ≠ some a :=
  have ran : workspaceMain signedInEnv (.ok ()) (builds false) (fun _ => .ok .null)
      ["google_workspace.py", "docs", "publish"] =
        .ok (.exit ["Docs actions: create, read, append"] 0) := rfl
  ⟨ran, workspaceMain_listsActions _ _ _ _ _ ran⟩

end Moxxy
