import ScanRelay.Editor.Abilities
import ScanRelay.Editor.Diagnostic

/-!
# What editors send

The parameters of the requests and notifications that are understood. A schema checks all that an
editor may send; of that, only what is needed is kept.
-/

namespace ScanRelay

namespace Params

/-- Fields with which an editor asks to be told of progress. -/
def progress (rest : Fields) : Fields :=
  .cons "" .merged (.record "WorkDoneProgressParams"
    (.ofOptional [("workDoneToken", .numberOrText "NumberOrString")])) rest

def partialResult (rest : Fields) : Fields :=
  .cons "" .merged (.record "PartialResultParams"
    (.ofOptional [("partialResultToken", .numberOrText "NumberOrString")])) rest

def document : Schema := .record "TextDocumentIdentifier" (.ofRequired [("uri", .url)] .nil)

def urlOf (document : Json) : Url := (document.field 0 "uri").asUrl

end Params

open Params

/-! ## Requests -/

/-- A place in a file. -/
structure HoverRequest where
  url : Url
  position : Position

namespace HoverRequest

def schema : Schema :=
  .record "HoverParams" <|
    .cons "" .merged (.record "TextDocumentPositionParams"
      (.ofRequired [("textDocument", document), ("position", Position.schema)] .nil)) <|
    progress .nil

def ofJson (j : Json) : HoverRequest where
  url := urlOf (j.field 0 "textDocument")
  position := Position.ofJson (j.field 1 "position")

end HoverRequest

/-- A part of a file for which actions or values are asked. -/
structure RangeRequest where
  url : Url
  range : Range

namespace RangeRequest

def actionContext : Schema :=
  .record "CodeActionContext" <|
    .cons "diagnostics" .required (.list Diagnostic.schema) <|
    .ofOptional [("only", .list .text), ("triggerKind", .int32)]

def actionSchema : Schema :=
  .record "CodeActionParams" <|
    .ofRequired [("textDocument", document), ("range", Range.schema), ("context", actionContext)] <|
    progress <| partialResult .nil

def inlineContext : Schema :=
  .record "InlineValueContext"
    (.ofRequired [("frameId", .int32), ("stoppedLocation", Range.schema)] .nil)

def inlineSchema : Schema :=
  .record "InlineValueParams" <|
    progress <|
    .ofRequired [("textDocument", document), ("range", Range.schema), ("context", inlineContext)]
      .nil

def ofJson (j : Json) : RangeRequest where
  url := urlOf (j.field 0 "textDocument")
  range := Range.ofJson (j.field 1 "range")

end RangeRequest

structure CommandRequest where
  command : String
  arguments : List Json

namespace CommandRequest

def schema : Schema :=
  .record "ExecuteCommandParams" <|
    .cons "command" .required .text <|
    .cons "arguments" .default (.list .any) <|
    progress .nil

def ofJson (j : Json) : CommandRequest where
  command := (j.field 0 "command").asText
  arguments := (j.field 1 "arguments").items

end CommandRequest

/-! ## Notifications -/

namespace Params

def openedSchema : Schema :=
  .record "DidOpenTextDocumentParams" (.ofRequired [("textDocument", .record "TextDocumentItem"
    (.ofRequired [("uri", .url), ("languageId", .text), ("version", .int32), ("text", .text)]
      .nil))] .nil)

def savedSchema : Schema :=
  .record "DidSaveTextDocumentParams" <|
    .cons "textDocument" .required document <| .ofOptional [("text", .text)]

/-- The document that was opened or saved. -/
def documentOfJson (j : Json) : Url := urlOf (j.field 0 "textDocument")

end Params

/-- A folder as an editor names it. -/
structure EditorFolder where
  url : Url
  name : String

namespace EditorFolder

def schema : Schema := .record "WorkspaceFolder" (.ofRequired [("uri", .url), ("name", .text)] .nil)

def ofJson (j : Json) : EditorFolder where
  url := (j.field 0 "uri").asUrl
  name := (j.field 1 "name").asText

end EditorFolder

structure FolderChange where
  added : List EditorFolder
  removed : List EditorFolder

namespace FolderChange

def schema : Schema :=
  .record "DidChangeWorkspaceFoldersParams" (.ofRequired [("event",
    .record "WorkspaceFoldersChangeEvent" (.ofRequired
      [("added", .list EditorFolder.schema), ("removed", .list EditorFolder.schema)] .nil))] .nil)

def ofJson (j : Json) : FolderChange where
  added := ((j.field 0 "event").field 0 "added").asList EditorFolder.ofJson
  removed := ((j.field 0 "event").field 1 "removed").asList EditorFolder.ofJson

end FolderChange

namespace Params

def settingsSchema : Schema :=
  .record "DidChangeConfigurationParams" (.ofRequired [("settings", .any)] .nil)

def settingsOfJson (j : Json) : Json := j.field 0 "settings"

def deletedSchema : Schema :=
  .record "DeleteFilesParams" (.ofRequired
    [("files", .list (.record "FileDelete" (.ofRequired [("uri", .text)] .nil)))] .nil)

def deletedOfJson (j : Json) : List String :=
  (j.field 0 "files").asList fun f => (f.field 0 "uri").asText

def renamedSchema : Schema :=
  .record "RenameFilesParams" (.ofRequired [("files", .list (.record "FileRename"
    (.ofRequired [("oldUri", .text), ("newUri", .text)] .nil)))] .nil)

/-- The old names of renamed files. -/
def renamedOfJson (j : Json) : List String :=
  (j.field 0 "files").asList fun f => (f.field 0 "oldUri").asText

end Params

/-! ## The start -/

/-- What an editor says about itself at the start. -/
structure EditorStart where
  root : Option Url
  options : Option Json
  folders : List EditorFolder

namespace EditorStart

def schema : Schema :=
  .record "InitializeParams" <|
    .cons "processId" .optional (.optional .uint32) <|
    .cons "rootPath" .optional (.optional .text) <|
    .cons "rootUri" .optional (.optional .url) <|
    .cons "initializationOptions" .optional (.optional .any) <|
    .cons "capabilities" .required EditorAbilities.schema <|
    .cons "trace" .optional (.optional (.variants ["off", "messages", "verbose"])) <|
    .cons "workspaceFolders" .optional (.optional (.list EditorFolder.schema)) <|
    .cons "clientInfo" .optional (.optional (.record "ClientInfo"
      (.cons "name" .required .text (.ofOptional [("version", .text)])))) <|
    .cons "locale" .optional (.optional .text) <|
    progress .nil

def ofJson (j : Json) : EditorStart where
  root := (j.field 2 "rootUri").asOption Json.asUrl
  options := (j.field 3 "initializationOptions").asOption fun v => v
  folders := (j.field 6 "workspaceFolders").asList EditorFolder.ofJson

end EditorStart

end ScanRelay
