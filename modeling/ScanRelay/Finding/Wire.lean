import ScanRelay.Finding.Issue
import ScanRelay.Json.Schema
import ScanRelay.Json.Tree

/-!
# Issues as JSON

How ranges and issues are written and which documents are read as such. Parts of an issue that say
nothing are left out when it is written.
-/

namespace ScanRelay

def Json.uint32 (n : UInt32) : Json := .nat n.toNat

def Json.asUInt32 (j : Json) : UInt32 := UInt32.ofNat j.asNat

namespace Position

def schema : Schema :=
  .record "Position" (.ofRequired [("line", .uint32), ("character", .uint32)] .nil)

def ofJson (j : Json) : Position :=
  ⟨(j.field 0 "line").asUInt32, (j.field 1 "character").asUInt32⟩

def toJson (p : Position) : Json :=
  .ofMembers [("line", .uint32 p.line), ("character", .uint32 p.character)]

end Position

namespace Range

def schema : Schema :=
  .record "Range" (.ofRequired [("start", Position.schema), ("end", Position.schema)] .nil)

def ofJson (j : Json) : Range :=
  ⟨Position.ofJson (j.field 0 "start"), Position.ofJson (j.field 1 "end")⟩

def toJson (r : Range) : Json :=
  .ofMembers [("start", r.start.toJson), ("end", r.stop.toJson)]

end Range

/-- The member of a list that has the name of a variant, or the default. -/
def named {α : Type} [Inhabited α] (name : α → String) (all : List α) (j : Json) : α :=
  (all.find? fun a => name a = j.variantName).getD default

namespace Severity

def schema : Schema := .variants [low.name, medium.name, high.name, critical.name]

def ofJson (j : Json) : Severity := named name all j

def toJson (s : Severity) : Json := .text s.name

end Severity

namespace Product

def schema : Schema := .variants (all.map name)

def ofJson (j : Json) : Product := named name all j

def toJson (p : Product) : Json := .text p.name

end Product

namespace Category

def schema : Schema := .variants (all.map name)

def ofJson (j : Json) : Category := named name all j

def toJson (c : Category) : Json := .text c.name

end Category

namespace IssueType

def schema : Schema := .variants (all.map name)

def ofJson (j : Json) : IssueType := named name all j

def toJson (t : IssueType) : Json := .text t.name

end IssueType

def Json.texts (ts : List String) : Json := .array (ts.map .text)

namespace Issue

def schema : Schema :=
  .record "Issue" <|
    .cons "id" .required .text <|
    .cons "affectedFilePath" .required .text <|
    .cons "range" .required Range.schema <|
    .cons "severity" .required Severity.schema <|
    .cons "product" .default (.optional Product.schema) <|
    .cons "issueType" .required IssueType.schema <|
    .cons "message" .required .text <|
    .cons "formattedMessage" .default .text <|
    .cons "issueDescriptionUrl" .default (.optional .text) <|
    .cons "cwes" .default (.list .text) <|
    .cons "cves" .default (.list .text) <|
    .cons "additionalData" .default (.optional .any) .nil

def ofJson (j : Json) : Issue where
  id := (j.field 0 "id").asText
  path := (j.field 1 "affectedFilePath").asText
  range := Range.ofJson (j.field 2 "range")
  severity := Severity.ofJson (j.field 3 "severity")
  product := (j.field 4 "product").asOption Product.ofJson
  issueType := IssueType.ofJson (j.field 5 "issueType")
  message := (j.field 6 "message").asText
  formattedMessage := (j.field 7 "formattedMessage").asText
  descriptionUrl := (j.field 8 "issueDescriptionUrl").asOption Json.asText
  cwes := (j.field 9 "cwes").asList Json.asText
  cves := (j.field 10 "cves").asList Json.asText
  additionalData := (j.field 11 "additionalData").asOption fun v => v

def toJson (i : Issue) : Json :=
  let optional (name : String) : Option Json → List (String × Json)
    | some v => [(name, v)]
    | none => []
  let many (name : String) (ts : List String) : List (String × Json) :=
    if ts.isEmpty then [] else [(name, .texts ts)]
  .ofMembers <|
    [("id", .text i.id), ("affectedFilePath", .text i.path), ("range", i.range.toJson),
      ("severity", i.severity.toJson)]
    ++ optional "product" (i.product.map Product.toJson)
    ++ [("issueType", i.issueType.toJson), ("message", .text i.message),
      ("formattedMessage", .text i.formattedMessage)]
    ++ optional "issueDescriptionUrl" (i.descriptionUrl.map .text)
    ++ many "cwes" i.cwes
    ++ many "cves" i.cves
    ++ optional "additionalData" i.additionalData

def decode (j : Json) : Except Fault Issue := schema.decode ofJson j

/-- Reads a text that holds a list of issues. -/
def listOfText (s : String) : Except Fault (List Issue) :=
  Json.decodeText (fun tree => (Schema.list schema).check tree) (Json.asList ofJson) s

end Issue

def issuesJson (issues : List Issue) : Json := .array (issues.map Issue.toJson)

end ScanRelay
