import ScanRelay.Engine.Publish
import ScanRelay.Engine.Scanner
import ScanRelay.Store.Cache

/-!
# Folders

A root of the workspace with the cache of its issues. Every operation gives the folder after it and
the events it caused. A scan has two halves, one before the scanner is entered and one after it has
returned, because other operations may come between them.
-/

namespace ScanRelay

structure Folder where
  path : String
  name : String
  scanned : Bool
  cache : Cache
  /-- Tells folders apart that had the same path at different times. -/
  stamp : Nat

/-- What taking in a report comes to, with what the log says of telemetry that was not taken. -/
structure Intake where
  folder : Folder
  events : List Event
  log : List String

namespace Folder

def new (path name : String) (stamp : Nat) : Folder :=
  ⟨Path.normalize path, name, false, .empty, stamp⟩

def contains (f : Folder) (path : String) : Bool := Path.contains f.path path

def isTrusted (s : Settings) (f : Folder) : Bool := s.trust.trusts f.path

/-! ## Results of scans -/

/-- Publishes all cached issues. -/
def publish (s : Settings) (f : Folder) (product : Option Product) : List Event :=
  Publish.folder f.path product f.cache.entries s.filter

/-- Takes in the report of a scan: its issues are merged, what is new is given to telemetry, and the
folder is shown. The report of a failed scan only reaches the user. -/
def takeIn (merge : Cache → Tally → List Issue → Cache.Merge) (sink : TelemetrySink) (s : Settings)
    (f : Folder) (r : ScanReport) : Intake :=
  match r.outcome with
  | .error _ => ⟨f, [.send (.scanStatus ⟨.error, r.product, f.path, []⟩)], []⟩
  | .ok issues =>
    let merged := merge f.cache .empty issues
    let sent := ScanDone.toSend s.analytics r (merged.tally.ensure r.product)
    let f := { f with cache := merged.cache }
    ⟨f, sent.map .telemetry ++ f.publish s r.product, sent.filterMap sink.complaint?⟩

def processReport (s : Settings) (f : Folder) (r : ScanReport) : Folder × List Event :=
  let taken := f.takeIn Cache.merge .standard s r
  (taken.folder, taken.events)

/-- The end of a scan of the whole folder. A cancelled scan leaves no trace. -/
def finishFolderScan (s : Settings) (f : Folder) (cancelled : Bool) (r : ScanReport) :
    Folder × List Event :=
  if cancelled then (f, [])
  else
    let (g, events) := f.processReport s r
    ({ g with scanned := g.scanned || r.outcome.isOk }, events)

/-- The end of a scan of one file. -/
def finishFileScan (s : Settings) (f : Folder) (cancelled : Bool) (r : ScanReport) :
    Folder × List Event :=
  if cancelled then (f, []) else f.processReport s r

/-- How a scan begins. -/
inductive Start
  /-- The folder is not trusted. -/
  | refused
  /-- The file has cached issues, which are shown again instead. -/
  | replayed (folder : Folder) (events : List Event)
  /-- The scanner is entered. -/
  | entered

def startFolderScan (s : Settings) (f : Folder) : Start :=
  if f.isTrusted s then .entered else .refused

def startFileScan (s : Settings) (f : Folder) (path : String) : Start :=
  if !f.isTrusted s then .refused
  else if (f.cache.issuesOf path).isEmpty then .entered
  else
    let (g, events) := f.processReport s (.ofKnown (f.cache.issuesOf path))
    .replayed g events

/-! ## Clearing -/

/-- Forgets one file. `inline` tells whether the scanner keeps inline values. -/
def clearFile (inline : Bool) (f : Folder) (path : String) : Folder × List Event :=
  ({ f with cache := f.cache.erase path, scanned := false },
    (if inline then [.clearInline path] else []) ++ Publish.clear path)

/-- Whether `part` occurs in a text. -/
def occursIn (part : List Char) : List Char → Bool
  | [] => part.isEmpty
  | c :: rest => part.isPrefixOf (c :: rest) || occursIn part rest

/-- Forgets every file whose path contains `root` as text. -/
def clearUnder (inline : Bool) (f : Folder) (root : String) : Folder × List Event :=
  let (g, events) := f.cache.walk (fun (g, events) path _ =>
    if occursIn root.toList path.toList then
      let (g, more) := Folder.clearFile inline g path
      ((g, events ++ more), true)
    else ((g, events), true)) (f, [])
  ({ g with scanned := false }, events)

/-- Forgets everything. -/
def clear (f : Folder) : Folder × List Event :=
  ({ f with cache := .empty, scanned := false }, f.cache.keys.flatMap Publish.clear)

/-- Drops the issues of a category, and returns the files that lost any with what they have left. -/
def removeCategory (f : Folder) (c : Category) : Folder × List (String × List Issue) :=
  let keep (issues : List Issue) : List Issue := issues.filter fun i => i.category ≠ c
  ({ f with cache := f.cache.mapValues fun _ issues => keep issues },
    f.cache.entries.filterMap fun e =>
      if (keep e.2).length = e.2.length then none else some (e.1, keep e.2))

/-- Drops the issues of a category and publishes the files that lost any. -/
def clearCategory (s : Settings) (f : Folder) (c : Category) : Folder × List Event :=
  let (g, changed) := f.removeCategory c
  (g, changed.flatMap fun e => Publish.file e.1 (s.filter.visible e.2))

/-! ## Questions -/

/-- The cached issues of a file that meet a range. -/
def issuesFor (f : Folder) (path : String) (r : Range) : List Issue :=
  (f.cache.issuesOf path).filter fun i => i.range.overlaps r

/-- The inline values of a file; none when the scanner keeps no such values. -/
def inlineValues (source : Option InlineSource) (path : String) (r : Range) :
    InlineSource × List Event :=
  match source with
  | none => (.ok [], [])
  | some values => (values, [.readInline path r])

end Folder

end ScanRelay
