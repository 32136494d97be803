import ScanRelay.Editor.Diagnostic

/-!
# Messages to the editor

Everything that is sent to an editor: diagnostics, notes to the user, how a scan ended, answers to
requests, and one request of our own.
-/

namespace ScanRelay

/-- What tells a request from others. -/
abbrev RequestId := NumberOrText

/-- A note that the editor shows to its user. -/
structure UserNote where
  kind : Int
  text : String

namespace UserNote

def schema : Schema :=
  .record "ShowMessageParams" (.ofRequired [("type", .int32), ("message", .text)] .nil)

def ofJson (j : Json) : UserNote :=
  ⟨(j.field 0 "type").asInt, (j.field 1 "message").asText⟩

def toJson (n : UserNote) : Json := .ofMembers [("type", .int n.kind), ("message", .text n.text)]

/-- The note about an error. -/
def ofError (message : String) : UserNote :=
  ⟨1, "Scan engine encountered an error: " ++ message⟩

end UserNote

inductive ScanVerdict
  | success
  | error
deriving DecidableEq, Inhabited

namespace ScanVerdict

def all : List ScanVerdict := [success, error]

def name : ScanVerdict → String
  | success => "success"
  | error => "error"

end ScanVerdict

/-- How a scan of a folder ended. Without a product it is about all of them. -/
structure ScanStatus where
  verdict : ScanVerdict
  product : Option Product
  folder : String
  issues : List Issue

namespace ScanStatus

def schema : Schema :=
  .record "ScanStatusParams" <|
    .cons "status" .required (.variants (ScanVerdict.all.map ScanVerdict.name)) <|
    .cons "product" .optional (.optional Product.schema) <|
    .cons "folderPath" .required .text <|
    .cons "issues" .required (.list Issue.schema) .nil

def ofJson (j : Json) : ScanStatus where
  verdict := named ScanVerdict.name ScanVerdict.all (j.field 0 "status")
  product := (j.field 1 "product").asOption Product.ofJson
  folder := (j.field 2 "folderPath").asText
  issues := (j.field 3 "issues").asList Issue.ofJson

def toJson (s : ScanStatus) : Json :=
  .ofMembers [("status", .text s.verdict.name), ("product", .ofOption Product.toJson s.product),
    ("folderPath", .text s.folder), ("issues", issuesJson s.issues)]

end ScanStatus

/-- Why a request was not answered. -/
structure Refusal where
  code : Int
  message : String

inductive Message
  | diagnostics (d : FileDiagnostics)
  | note (n : UserNote)
  | scanStatus (s : ScanStatus)
  | reply (id : RequestId) (result : Except Refusal Json)
  /-- Asks the editor to open a URL outside of it. -/
  | openUrl (id : Int) (url : Url)

namespace Message

def diagnosticsMethod : String := "textDocument/publishDiagnostics"

def noteMethod : String := "window/showMessage"

def scanMethod : String := "$/findings.scan"

def openMethod : String := "window/showDocument"

def notice (method : String) (params : Json) : Json :=
  .ofMembers [("method", .text method), ("params", params)]

def toJson : Message → Json
  | diagnostics d => notice diagnosticsMethod d.toJson
  | note n => notice noteMethod n.toJson
  | scanStatus s => notice scanMethod s.toJson
  | reply id (.ok result) => .ofMembers [("id", id.toJson), ("result", result)]
  | reply id (.error r) =>
    .ofMembers [("id", id.toJson),
      ("error", .ofMembers [("code", .int r.code), ("message", .text r.message)])]
  | openUrl id url =>
    .ofMembers [("id", .int id), ("method", .text openMethod),
      ("params", .ofMembers [("uri", .url url), ("external", .bool true),
        ("takeFocus", .bool true)])]

def isScanStatus : Message → Bool
  | scanStatus _ => true
  | _ => false

end Message

end ScanRelay
