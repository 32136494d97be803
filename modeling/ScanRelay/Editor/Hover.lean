import ScanRelay.Data.Table
import ScanRelay.Finding.Wire

/-!
# Hovers

What an editor shows over a place in a file. The hovers of a file arrive as one document, which
replaces the one before it; an empty document takes the file away.
-/

namespace ScanRelay

structure Hover where
  id : String
  range : Range
  message : String
deriving DecidableEq

structure HoverDocument where
  path : String
  hovers : List Hover
deriving DecidableEq

namespace Hover

def ofIssue (i : Issue) : Hover := ⟨i.identity, i.range, i.hoverText⟩

def schema : Schema :=
  .record "Hover" (.ofRequired [("id", .text), ("range", Range.schema), ("message", .text)] .nil)

def ofJson (j : Json) : Hover where
  id := (j.field 0 "id").asText
  range := Range.ofJson (j.field 1 "range")
  message := (j.field 2 "message").asText

def toJson (h : Hover) : Json :=
  .ofMembers [("id", .text h.id), ("range", h.range.toJson), ("message", .text h.message)]

end Hover

namespace HoverDocument

def ofIssues (path : String) (issues : List Issue) : HoverDocument :=
  ⟨path, issues.map Hover.ofIssue⟩

def schema : Schema :=
  .record "HoverDocument" (.ofRequired [("path", .text), ("hovers", .list Hover.schema)] .nil)

def ofJson (j : Json) : HoverDocument where
  path := (j.field 0 "path").asText
  hovers := (j.field 1 "hovers").asList Hover.ofJson

def toJson (d : HoverDocument) : Json :=
  .ofMembers [("path", .text d.path), ("hovers", .array (d.hovers.map Hover.toJson))]

end HoverDocument

/-- The text shown at a position, and the range that it is for. -/
structure HoverText where
  value : String
  range : Range

def HoverText.toJson (h : HoverText) : Json :=
  .ofMembers [("contents", .ofMembers [("kind", .text "markdown"), ("value", .text h.value)]),
    ("range", h.range.toJson)]

/-- The hovers of every file that has some. -/
abbrev HoverTable := Table (List Hover)

namespace HoverTable

def apply (t : HoverTable) (d : HoverDocument) : HoverTable :=
  if d.hovers.isEmpty then t.erase d.path else t.insert d.path d.hovers

def applyAll (t : HoverTable) (ds : List HoverDocument) : HoverTable := ds.foldl apply t

/-- The hovers whose range holds the position, in the order of the document. -/
def hoversAt (t : HoverTable) (path : String) (p : Position) : List Hover :=
  ((t.get? path).getD []).filter fun h => h.range.contains p

/-- What stands between the texts of two hovers. -/
def separator : String := "\n\n---\n\n"

/-- All texts at a position as one, with the range of the first. -/
def textAt (t : HoverTable) (path : String) (p : Position) : Option HoverText :=
  match t.hoversAt path p with
  | [] => none
  | h :: rest => some ⟨separator.intercalate ((h :: rest).map (·.message)), h.range⟩

end HoverTable

/-- The hovers of an editor, with the documents that were sent and not yet taken up. -/
structure HoverService where
  table : HoverTable
  queue : List HoverDocument
  /-- Documents sent after the end are lost. -/
  running : Bool

namespace HoverService

def new : HoverService := ⟨.empty, [], true⟩

def send (s : HoverService) (d : HoverDocument) : HoverService :=
  if s.running then { s with queue := s.queue ++ [d] } else s

def sendAll (s : HoverService) (ds : List HoverDocument) : HoverService := ds.foldl send s

/-- Takes up everything that was sent. -/
def settle (s : HoverService) : HoverService :=
  { s with table := s.table.applyAll s.queue, queue := [] }

def apply (s : HoverService) (d : HoverDocument) : HoverService :=
  { s with table := s.table.apply d }

def clear (s : HoverService) : HoverService := { s with table := .empty }

/-- Ends the service; what was not yet taken up is lost. -/
def stop (s : HoverService) : HoverService := { s with queue := [], running := false }

end HoverService

end ScanRelay
