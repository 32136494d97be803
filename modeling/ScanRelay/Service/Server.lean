import ScanRelay.Editor.Params
import ScanRelay.Engine.Schedule

/-!
# The server

Answers requests and follows notifications. Scans run as tasks of their own; a handler only starts
them. A handler takes one step after the other, and what it did stands even when it fails later.
-/

namespace ScanRelay

/-- Why a request was refused or a notification failed. -/
inductive ServerFault
  | params (fault : Fault)
  | notAFile (url : Url)
  | notAUrl (text : String) (fault : UrlFault)
  | inlineValues (reason : String)
  | unknownCommand (name : String)
  | noDescription
  | badDescription (fault : UrlFault)
  | noArgument
  | noPathInArgument
  | badArgument
  | noFolder (path : String)
  | payload (fault : Settings.PayloadFault)
  | settings (fault : SettingsFault)

def ServerFault.message : ServerFault → String
  | params fault => fault.message
  | notAFile url => "Not a file URI: " ++ url.toText
  | notAUrl text fault => "Invalid URI: " ++ text ++ ": " ++ fault.message
  | inlineValues reason => reason
  | unknownCommand name => "Unknown command: " ++ name
  | noDescription => "Missing description URL"
  | badDescription fault => "Invalid description URL: " ++ fault.message
  | noArgument => "Missing folder path argument"
  | noPathInArgument => "URI object has no recognizable path field"
  | badArgument => "Invalid path argument: expected string or URI object"
  | noFolder path => "No workspace folder for " ++ path
  | payload fault => "Invalid configuration: " ++ fault.message
  | settings fault => "Invalid configuration: " ++ fault.message

structure Server where
  workspace : Workspace
  hovers : HoverService
  /-- Once the server has stopped, all scans are cancelled. -/
  stopped : Bool
  nextRequest : Int32

/-- Hands the hover documents among events to the hover service. -/
def Server.hand (s : Server) (events : List Event) : Server :=
  { s with hovers := s.hovers.sendAll (Event.hovers events) }

/-- The server in the course of a handler, what the handler did, and the tasks that it started. -/
structure Handled where
  server : Server
  events : List Event
  tasks : List Task

namespace Handled

/-- Something more was done. -/
def told (h : Handled) (events : List Event) : Handled := { h with events := h.events ++ events }

/-- The workspace was changed. -/
def changed (h : Handled) (change : Workspace × List Event) : Handled :=
  { h.told change.2 with server := { h.server with workspace := change.1 } }

def started (h : Handled) (t : Task) : Handled := { h with tasks := h.tasks ++ [t] }

/-- The hovers of all files were dropped. -/
def dropped (h : Handled) : Handled :=
  { h with server := { h.server with hovers := h.server.hovers.clear } }

/-- The editor was asked to open a URL. -/
def asked (h : Handled) (url : Url) : Handled :=
  { h.told [.send (.openUrl h.server.nextRequest.toInt url)] with
    server := { h.server with nextRequest := h.server.nextRequest + 1 } }

/-- The hovers among what was done are handed on. -/
def handed (h : Handled) : Handled := { h with server := h.server.hand h.events }

end Handled

/-- The work on a message. When it fails, there still is what was done until then. -/
abbrev Handler (α : Type) : Type := ExceptT ServerFault (StateM Handled) α

namespace Handler

/-- What comes of a handler, and what was done by its end, after what was done before it. -/
def run {α : Type} (x : Handler α) (h : Handled) : Except ServerFault α × Handled := x h

def workspace : Handler Workspace := do return (← get).server.workspace

def tell (events : List Event) : Handler Unit := modify (·.told events)

def change (op : Workspace → Workspace × List Event) : Handler Unit :=
  modify fun h => h.changed (op h.server.workspace)

/-- Adds a folder, if it is one of files. -/
def addFolder (f : EditorFolder) : Handler (Option Folder) :=
  modifyGet fun h =>
    let (w, folder) := h.server.workspace.addEditorFolder f
    (folder, h.changed (w, []))

def start (t : Task) : Handler Unit := modify (·.started t)

def dropHovers : Handler Unit := modify Handled.dropped

def openUrl (url : Url) : Handler Unit := modify (·.asked url)

end Handler

structure Request where
  id : RequestId
  method : String
  params : Json

structure Notification where
  method : String
  params : Json

/-- A failure as one of the server. -/
def orFault {ε α : Type} (fault : ε → ServerFault) : Except ε α → Except ServerFault α
  | .ok a => .ok a
  | .error e => .error (fault e)

def Schema.readParams {α : Type} (s : Schema) (read : Json → α) (j : Json) :
    Except ServerFault α :=
  orFault .params (s.decode read j)

/-- The path of a file. -/
def Url.filePath (u : Url) : Except ServerFault String :=
  match u.toFilePath? with
  | some path => .ok path
  | none => .error (.notAFile u)

/-- The path of a file whose URL is given as text. -/
def filePathOf (text : String) : Except ServerFault String := do
  let url ← orFault (.notAUrl text) (Url.parse text)
  url.filePath

/-- Forgets what lay under a path, if the name is that of a file. -/
def Workspace.forgetNamed (w : Workspace) (name : String) : Workspace × List Event :=
  match filePathOf name with
  | .ok path => w.handleDeleted path
  | .error _ => (w, [])

namespace Server

def new (w : Workspace) : Server := ⟨w, .new, false, 1⟩

def unchanged (s : Server) : Handled := ⟨s, [], []⟩

/-! ## Requests -/

def workspaceScan : String := "findings.workspaceScan"

def folderScan : String := "findings.workspaceFolderScan"

def clearCache : String := "findings.clearCache"

def openDescription : String := "findings.openDescription"

def commands : List String := [workspaceScan, folderScan, clearCache, openDescription]

def hover (params : Json) : Handler Json := do
  let r ← HoverRequest.schema.readParams HoverRequest.ofJson params
  let path ← r.url.filePath
  return .ofOption HoverText.toJson ((← get).server.hovers.table.textAt path r.position)

/-- The action that opens the description of an issue. -/
def action (i : Issue) (description : String) : Json :=
  let title := "Open description of " ++ i.id
  .ofMembers [("title", .text title), ("kind", .text "quickfix"),
    ("command", .ofMembers [("title", .text title), ("command", .text openDescription),
      ("arguments", .array [.text description])])]

def codeActions (params : Json) : Handler Json := do
  let r ← RangeRequest.actionSchema.readParams RangeRequest.ofJson params
  let path ← r.url.filePath
  match (← Handler.workspace).folderContaining path with
  | none => return .array []
  | some f =>
    return .array ((f.issuesFor path r.range).filterMap fun i => i.descriptionUrl.map (action i))

/-- Asks the scanner for values. An attempt that fails has been made. -/
def inlineValues (params : Json) : Handler Json := do
  let r ← RangeRequest.inlineSchema.readParams RangeRequest.ofJson params
  let path ← r.url.filePath
  let w ← Handler.workspace
  match w.folderContaining path with
  | none => return .array []
  | some _ =>
    let (values, events) := Folder.inlineValues w.scanner.inline path r.range
    Handler.tell events
    return .array ((← orFault .inlineValues values).map InlineValue.toJson)

/-- The path that an argument of a command names: a path, a URL of a file, or an object with either
of them. -/
def pathOfArgument (j : Json) : Except ServerFault String :=
  let member? (name : String) : Option String := (j.member? name).bind Json.text?
  match j with
  | .text s => if "file://".toList.isPrefixOf s.toList then filePathOf s else .ok s
  | .object _ =>
    match member? "fsPath", member? "external", member? "path" with
    | some path, _, _ => .ok path
    | none, some text, _ => filePathOf text
    | none, none, some path => .ok path
    | none, none, none => .error .noPathInArgument
  | _ => .error .badArgument

def firstPath : List Json → Except ServerFault String
  | [] => .error .noArgument
  | j :: _ => pathOfArgument j

def perform (r : CommandRequest) : Handler Unit := do
  if r.command = workspaceScan then
    Handler.change Workspace.clearIssues
    Handler.start .workspace
  else if r.command = folderScan then
    let path ← firstPath r.arguments
    let w ← Handler.workspace
    match (w.folder? path).or (w.folderContaining path) with
    | none => throw (.noFolder path)
    | some f =>
      Handler.change fun w => w.onFolder f.ref Folder.clear
      Handler.start (.single (.folder f.ref))
  else if r.command = clearCache then
    Handler.change Workspace.clearIssues
    Handler.dropHovers
  else if r.command = openDescription then
    match r.arguments.head?.bind Json.text? with
    | none => throw .noDescription
    | some text => Handler.openUrl (← orFault .badDescription (Url.parse text))
  else throw (.unknownCommand r.command)

def executeCommand (params : Json) : Handler Json := do
  perform (← CommandRequest.schema.readParams CommandRequest.ofJson params)
  return .null

def methodNotFound : Int := -32601

def internalError : Int := -32603

def reply (id : RequestId) (result : Except Refusal Json) : Event := .send (.reply id result)

def refuse (id : RequestId) (fault : ServerFault) : Event :=
  reply id (.error ⟨internalError, fault.message⟩)

/-- The answer to a request of a method that is not known. -/
def unhandled (r : Request) : Event :=
  reply r.id (.error ⟨methodNotFound, "Unhandled method: " ++ r.method⟩)

/-- The handler of a request, if its method is known. -/
def requestHandler? (r : Request) : Option (Handler Json) :=
  if r.method = "textDocument/hover" then some (hover r.params)
  else if r.method = "textDocument/codeAction" then some (codeActions r.params)
  else if r.method = "textDocument/inlineValue" then some (inlineValues r.params)
  else if r.method = "workspace/executeCommand" then some (executeCommand r.params)
  else none

/-- Answers a request by its handler. The answer comes last, also when the handler fails. -/
def answer (s : Server) (id : RequestId) (x : Handler Json) : Handled :=
  match x.run s.unchanged with
  | (.ok j, h) => h.told [reply id (.ok j)]
  | (.error fault, h) => h.told [refuse id fault]

/-- Handles a request. -/
def request (s : Server) (r : Request) : Handled :=
  match requestHandler? r with
  | some x => (s.answer r.id x).handed
  | none => ⟨s, [unhandled r], []⟩

/-! ## Notifications -/

def didOpen (params : Json) : Handler Unit := do
  let url ← Params.openedSchema.readParams Params.documentOfJson params
  let path ← url.filePath
  Handler.start (.single (.file path))

/-- A save makes the issues of the file out of date, so it is scanned anew. -/
def didSave (params : Json) : Handler Unit := do
  let url ← Params.savedSchema.readParams Params.documentOfJson params
  let path ← url.filePath
  match (← Handler.workspace).folderContaining path with
  | none => return
  | some f =>
    Handler.change fun w => w.onFolder f.ref fun f => f.clearFile w.hasInline path
    Handler.start (.single (.file path))

/-- Adds a folder and has it scanned, if it is one of files. -/
def openFolder (f : EditorFolder) : Handler Unit := do
  match ← Handler.addFolder f with
  | some folder => Handler.start (.single (.folder folder.ref))
  | none => return

/-- Folders are removed first. -/
def didChangeFolders (params : Json) : Handler Unit := do
  let c ← FolderChange.schema.readParams FolderChange.ofJson params
  c.removed.forM fun f => Handler.change (·.removeEditorFolder f)
  c.added.forM openFolder

def didChangeSettings (params : Json) : Handler Unit := do
  let payload ← Params.settingsSchema.readParams Params.settingsOfJson params
  let next ← orFault .payload ((← Handler.workspace).settings.update payload)
  orFault .settings next.validate
  Handler.change (·.applySettings next)

/-- Forgets files that are gone. Names that are no URLs of files are passed over. -/
def forget (names : List String) : Handler Unit :=
  names.forM fun name => Handler.change (·.forgetNamed name)

def didDelete (params : Json) : Handler Unit := do
  forget (← Params.deletedSchema.readParams Params.deletedOfJson params)

def didRename (params : Json) : Handler Unit := do
  forget (← Params.renamedSchema.readParams Params.renamedOfJson params)

/-- The handler of a notification. Those of other methods are passed over. -/
def notificationHandler (n : Notification) : Handler Unit :=
  if n.method = "textDocument/didOpen" then didOpen n.params
  else if n.method = "textDocument/didSave" then didSave n.params
  else if n.method = "workspace/didChangeWorkspaceFolders" then didChangeFolders n.params
  else if n.method = "workspace/didChangeConfiguration" then didChangeSettings n.params
  else if n.method = "workspace/didDeleteFiles" then didDelete n.params
  else if n.method = "workspace/didRenameFiles" then didRename n.params
  else return

/-- Handles a notification. When it fails, the user is shown why. -/
def notify (s : Server) (n : Notification) : Handled :=
  match (notificationHandler n).run s.unchanged with
  | (.ok (), h) => h.handed
  | (.error fault, h) => (h.told [.send (.note (.ofError fault.message))]).handed

/-- Cancels all scans. -/
def stop (s : Server) : Server := { s with stopped := true }

/-! ## Tasks -/

/-- The server after tasks were polled, with all hovers taken up. -/
def follow {α : Type} (s : Server) (p : Polled α) : Server :=
  let s := { s with workspace := p.workspace }.hand p.events
  { s with hovers := s.hovers.settle }

/-- Runs tasks until each is finished or hangs. -/
def runTasks (s : Server) (tasks : List Task) : Polled (List Task) × Server :=
  let p := Task.run s.workspace s.stopped tasks
  (p, s.follow p)

end Server

end ScanRelay
