import ScanRelay.Finding.Wire
import ScanRelay.Url.FilePath

/-!
# Diagnostics

The marks that an editor shows in a file, and their JSON. `Diagnostic.ofIssue` makes one from an
issue: the id of the issue is its code, and the data lets the issue be found again.
-/

namespace ScanRelay

inductive NumberOrText
  | number (n : Int)
  | text (s : String)

namespace NumberOrText

def ofJson (j : Json) : NumberOrText :=
  match j with
  | .text s => .text s
  | j => .number j.asInt

def toJson : NumberOrText → Json
  | number n => .int n
  | text s => .text s

end NumberOrText

/-- Reads the text of a URL that has been checked. -/
def Json.asUrl (j : Json) : Url :=
  match Url.parse j.asText with
  | .ok u => u
  | .error _ => ⟨"", none, .bare "", none, none⟩

def Json.url (u : Url) : Json := .text u.toText

/-- Another place that has to do with a diagnostic. -/
structure RelatedPlace where
  url : Url
  range : Range
  message : String

structure Diagnostic where
  range : Range
  severity : Option Int
  code : Option NumberOrText
  /-- Where the code is described. -/
  codeUrl : Option Url
  source : Option String
  message : String
  related : Option (List RelatedPlace)
  tags : Option (List Int)
  data : Option Json

namespace RelatedPlace

def locationSchema : Schema :=
  .record "Location" (.ofRequired [("uri", .url), ("range", Range.schema)] .nil)

def schema : Schema :=
  .record "DiagnosticRelatedInformation"
    (.ofRequired [("location", locationSchema), ("message", .text)] .nil)

def ofJson (j : Json) : RelatedPlace where
  url := ((j.field 0 "location").field 0 "uri").asUrl
  range := Range.ofJson ((j.field 0 "location").field 1 "range")
  message := (j.field 1 "message").asText

def toJson (p : RelatedPlace) : Json :=
  .ofMembers [("location", .ofMembers [("uri", .url p.url), ("range", p.range.toJson)]),
    ("message", .text p.message)]

end RelatedPlace

/-- A member that is left out when there is nothing to write. -/
def Json.whenSome {α : Type} (name : String) (write : α → Json) : Option α → List (String × Json)
  | some a => [(name, write a)]
  | none => []

namespace Diagnostic

def codeUrlSchema : Schema := .record "CodeDescription" (.ofRequired [("href", .url)] .nil)

def schema : Schema :=
  .record "Diagnostic" <|
    .cons "range" .required Range.schema <|
    .cons "severity" .optional (.optional .int32) <|
    .cons "code" .optional (.optional (.numberOrText "NumberOrString")) <|
    .cons "codeDescription" .optional (.optional codeUrlSchema) <|
    .cons "source" .optional (.optional .text) <|
    .cons "message" .required .text <|
    .cons "relatedInformation" .optional (.optional (.list RelatedPlace.schema)) <|
    .cons "tags" .optional (.optional (.list .int32)) <|
    .cons "data" .optional (.optional .any) .nil

def ofJson (j : Json) : Diagnostic where
  range := Range.ofJson (j.field 0 "range")
  severity := (j.field 1 "severity").asOption Json.asInt
  code := (j.field 2 "code").asOption NumberOrText.ofJson
  codeUrl := (j.field 3 "codeDescription").asOption fun d => (d.field 0 "href").asUrl
  source := (j.field 4 "source").asOption Json.asText
  message := (j.field 5 "message").asText
  related := (j.field 6 "relatedInformation").asOption (Json.asList RelatedPlace.ofJson)
  tags := (j.field 7 "tags").asOption (Json.asList Json.asInt)
  data := (j.field 8 "data").asOption fun v => v

def toJson (d : Diagnostic) : Json :=
  .ofMembers <|
    [("range", d.range.toJson), ("message", .text d.message)]
    ++ Json.whenSome "severity" Json.int d.severity
    ++ Json.whenSome "code" NumberOrText.toJson d.code
    ++ Json.whenSome "codeDescription" (fun u => .ofMembers [("href", .url u)]) d.codeUrl
    ++ Json.whenSome "source" Json.text d.source
    ++ Json.whenSome "relatedInformation" (fun ps => .array (ps.map RelatedPlace.toJson)) d.related
    ++ Json.whenSome "tags" (fun ts => .array (ts.map Json.int)) d.tags
    ++ Json.whenSome "data" (fun v => v) d.data

/-- Who is named as the origin of our diagnostics. -/
def sourceName : String := "findings-lsp"

/-- How editors number severities. -/
def severityNumber : Severity → Int
  | .critical | .high => 1
  | .medium => 2
  | .low => 3

/-- A description that is no URL is left out. -/
def ofIssue (i : Issue) : Diagnostic where
  range := i.range
  severity := some (severityNumber i.severity)
  code := some (.text i.id)
  codeUrl := i.descriptionUrl.bind fun s => (Url.parse s).toOption
  source := some sourceName
  message := i.message
  related := none
  tags := none
  data := some (.ofMembers [("id", .text i.id), ("product", .ofOption Product.toJson i.product),
    ("issueType", i.issueType.toJson), ("filterableIssueType", i.category.toJson)])

end Diagnostic

/-- All diagnostics of one file. They replace those sent before. -/
structure FileDiagnostics where
  url : Url
  diagnostics : List Diagnostic
  version : Option Int

namespace FileDiagnostics

def ofIssues (url : Url) (issues : List Issue) : FileDiagnostics :=
  ⟨url, issues.map Diagnostic.ofIssue, none⟩

def schema : Schema :=
  .record "PublishDiagnosticsParams" <|
    .cons "uri" .required .url <|
    .cons "diagnostics" .required (.list Diagnostic.schema) <|
    .cons "version" .optional (.optional .int32) .nil

def ofJson (j : Json) : FileDiagnostics where
  url := (j.field 0 "uri").asUrl
  diagnostics := (j.field 1 "diagnostics").asList Diagnostic.ofJson
  version := (j.field 2 "version").asOption Json.asInt

def toJson (d : FileDiagnostics) : Json :=
  .ofMembers <|
    [("uri", .url d.url), ("diagnostics", .array (d.diagnostics.map Diagnostic.toJson))]
    ++ Json.whenSome "version" Json.int d.version

end FileDiagnostics

end ScanRelay
