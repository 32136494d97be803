import ScanRelay.Editor.Params
import ScanRelay.Engine.Folder
import ScanRelay.Policy.Wire

/-!
# The workspace

The folders that are open in the editor, by their normalized paths, with the settings they share
and the scanner that serves them. Folders may lie in one another; of those around it a file belongs
to the one with the longest path. A folder that was removed is still known to the scans that run in
it.
-/

namespace ScanRelay

/-- A folder as a scan knows it. -/
structure FolderRef where
  path : String
  stamp : Nat
deriving DecidableEq

structure Workspace where
  settings : Settings
  scanner : Scanner
  folders : Table Folder
  /-- The folders that were removed. -/
  retired : List Folder
  nextStamp : Nat

def Folder.ref (f : Folder) : FolderRef := ⟨f.path, f.stamp⟩

namespace Workspace

def new (settings : Settings) (scanner : Scanner) : Workspace :=
  ⟨settings, scanner, .empty, [], 0⟩

def hasInline (w : Workspace) : Bool := w.scanner.inline.isSome

/-! ## Folders -/

/-- The folder at a path. -/
def folder? (w : Workspace) (path : String) : Option Folder := w.folders.get? (Path.normalize path)

/-- Adds a folder, unless there is one at the path. -/
def add (w : Workspace) (path name : String) : Workspace :=
  if w.folders.contains (Path.normalize path) then w
  else
    { w with
      folders := w.folders.insert (Path.normalize path) (.new path name w.nextStamp)
      nextStamp := w.nextStamp + 1 }

/-- Adds a folder under the last part of its path. -/
def addPath (w : Workspace) (path : String) : Workspace := w.add path (Path.folderName path)

/-- Adds the folder that an editor names, if it is one of files. -/
def addEditorFolder (w : Workspace) (f : EditorFolder) : Workspace × Option Folder :=
  match f.url.toFilePath? with
  | some path => let w := w.add path f.name; (w, w.folder? path)
  | none => (w, none)

/-- Removes a folder and clears what it published. -/
def remove (w : Workspace) (path : String) : Workspace × List Event :=
  match w.folder? path with
  | none => (w, [])
  | some f =>
    let (f, events) := f.clear
    ({ w with
      folders := w.folders.erase (Path.normalize path)
      retired := f :: w.retired }, events)

def removeEditorFolder (w : Workspace) (f : EditorFolder) : Workspace × List Event :=
  match f.url.toFilePath? with
  | some path => w.remove path
  | none => (w, [])

/-- The later of two folders with the longer path. -/
def deeper (best : Option Folder) (f : Folder) : Option Folder :=
  match best with
  | some b => if f.path.utf8ByteSize < b.path.utf8ByteSize then some b else some f
  | none => some f

/-- The folder with the longest path among those that contain a path. -/
def folderContaining (w : Workspace) (path : String) : Option Folder :=
  (w.folders.values.filter fun f => f.contains path).foldl deeper none

/-- The folder that a scan knows, open or removed. -/
def resolve (w : Workspace) (r : FolderRef) : Option Folder :=
  match w.folders.get? r.path with
  | some f => if f.stamp = r.stamp then some f else w.retired.find? fun f => f.stamp = r.stamp
  | none => w.retired.find? fun f => f.stamp = r.stamp

/-- Puts a changed folder back where it was. -/
def putBack (w : Workspace) (f : Folder) : Workspace :=
  match w.folders.get? f.path with
  | some g =>
    if g.stamp = f.stamp then { w with folders := w.folders.insert f.path f }
    else { w with retired := w.retired.map fun g => if g.stamp = f.stamp then f else g }
  | none => { w with retired := w.retired.map fun g => if g.stamp = f.stamp then f else g }

/-- An operation on the folder that a scan knows. -/
def onFolder (w : Workspace) (r : FolderRef) (op : Folder → Folder × List Event) :
    Workspace × List Event :=
  match w.resolve r with
  | some f => let (f, events) := op f; (w.putBack f, events)
  | none => (w, [])

/-- How an operation on every open folder is done, with what it is that tells of the events. -/
abbrev EachFolder (ε : Type) : Type :=
  Workspace → (Folder → Folder × List Event) → Workspace × List ε

/-- An operation on every open folder, in the order of their paths. -/
def onEach (w : Workspace) (op : Folder → Folder × List Event) : Workspace × List Event :=
  ({ w with folders := w.folders.mapValues fun _ f => (op f).1 },
    w.folders.values.flatMap fun f => (op f).2)

/-- The workspace that an editor asks for at the start: its folders, or its root when it names no
folder of files. -/
def ofEditor (w : Workspace) (folders : List EditorFolder) (root : Option Url) : Workspace :=
  let w := folders.foldl (fun w f => (w.addEditorFolder f).1) w
  if w.folders.isEmpty then
    match root.bind Url.toFilePath? with
    | some path => w.addPath path
    | none => w
  else w

/-! ## Operations on all folders -/

def clearIssues (w : Workspace) : Workspace × List Event := w.onEach Folder.clear

/-- Forgets what lay under a path that was deleted or renamed. -/
def handleDeleted (w : Workspace) (path : String) : Workspace × List Event :=
  w.onEach fun f =>
    if f.contains path || Path.contains path f.path then f.clearUnder w.hasInline path
    else (f, [])

/-- Drops the issues of a category from all caches and shows nothing. -/
def removeCategory (w : Workspace) (c : Category) : Workspace :=
  { w with folders := w.folders.mapValues fun _ f => (f.removeCategory c).1 }

section EachFolder

variable {ε : Type} (each : EachFolder ε) (w : Workspace)

def clearCategoryBy (c : Category) : Workspace × List ε :=
  each w fun f => f.clearCategory w.settings c

def republishBy : List ε := (each w fun f => (f, f.publish w.settings none)).2

/-- Installs settings. Categories that were just switched off are dropped from the caches. When
nothing else about the filters changed, the files that lost issues are published; otherwise all
files are. -/
def applySettingsBy (next : Settings) : Workspace × List ε :=
  let before := w.settings.filter
  let after := next.filter
  let w := { w with settings := next }
  let disabled := before.issueTypes.newlyDisabled after.issueTypes
  let onlyDisabled := !disabled.isEmpty && before.severity = after.severity
    && (after.issueTypes.newlyDisabled before.issueTypes).isEmpty
  if onlyDisabled then
    disabled.foldl (fun (w, events) c =>
      let (w, more) := w.clearCategoryBy each c
      (w, events ++ more)) (w, [])
  else
    let w := disabled.foldl removeCategory w
    (w, if before = after then [] else w.republishBy each)

end EachFolder

def clearCategory : Workspace → Category → Workspace × List Event := clearCategoryBy onEach

/-- Shows all cached issues by the current filters. -/
def republish : Workspace → List Event := republishBy onEach

def applySettings : Workspace → Settings → Workspace × List Event := applySettingsBy onEach

end Workspace

end ScanRelay
