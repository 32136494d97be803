import ScanRelay.Engine.Workspace

/-!
# Scans as tasks

A task runs one or more scans side by side, each as a strand. Time passes in rounds: in a round
every task is polled once, and a task polls its strands from left to right. A strand needs a permit
from the time it starts until it is finished, and a permit that comes free in a round can be taken
in the same round by a strand further right.
-/

namespace ScanRelay

/-- What a strand is to scan. -/
inductive ScanJob
  /-- A file, in the folder around it. -/
  | file (path : String)
  /-- A file in a given folder. -/
  | fileIn (folder : FolderRef) (path : String)
  | folder (folder : FolderRef)

/-- A scan inside the scanner. Without a file it is one of the whole folder. -/
structure OpenScan where
  folder : FolderRef
  file : Option String
  run : ScanRun

inductive Strand
  | queued (job : ScanJob)
  | underway (scan : OpenScan)
  | finished

/-- The workspace after a poll, the strand after it, and what happened. -/
structure Polled (α : Type) where
  workspace : Workspace
  left : α
  events : List Event

namespace OpenScan

/-- Whether a poll changes anything. -/
def canMove (cancelled : Bool) (o : OpenScan) : Bool :=
  0 < o.run.rounds || !o.run.hangs || cancelled

/-- The scanner has returned. -/
def finish (w : Workspace) (cancelled : Bool) (o : OpenScan) : Workspace × List Event :=
  w.onFolder o.folder fun f =>
    match o.file with
    | none => f.finishFolderScan w.settings cancelled o.run.report
    | some _ => f.finishFileScan w.settings cancelled o.run.report

def poll (w : Workspace) (cancelled : Bool) (o : OpenScan) : Polled Strand :=
  match o.run.rounds with
  | n + 1 => ⟨w, .underway { o with run := { o.run with rounds := n } }, []⟩
  | 0 =>
    if o.run.hangs && !cancelled then ⟨w, .underway o, []⟩
    else
      let (w, events) := o.finish w cancelled
      ⟨w, .finished, events⟩

/-- Enters the scanner, and polls it for the first time. -/
def enter (w : Workspace) (cancelled : Bool) (f : Folder) (file : Option String) :
    Polled Strand :=
  let path := file.getD f.path
  let (run, scanner) := w.scanner.next w.settings.scanner cancelled path f.path
  let p := OpenScan.poll { w with scanner := scanner } cancelled ⟨f.ref, file, run⟩
  { p with events := .scan path f.path cancelled :: p.events }

end OpenScan

namespace Strand

def isFinished : Strand → Bool
  | finished => true
  | _ => false

def startFile (w : Workspace) (cancelled : Bool) (f : Folder) (path : String) : Polled Strand :=
  match f.startFileScan w.settings path with
  | .refused => ⟨w, .finished, []⟩
  | .replayed f events => ⟨w.putBack f, .finished, events⟩
  | .entered => OpenScan.enter w cancelled f (some path)

def startFolder (w : Workspace) (cancelled : Bool) (f : Folder) : Polled Strand :=
  match f.startFolderScan w.settings with
  | .entered => OpenScan.enter w cancelled f none
  | _ => ⟨w, .finished, []⟩

def start (w : Workspace) (cancelled : Bool) (job : ScanJob) : Polled Strand :=
  match job with
  | .file path =>
    match w.folderContaining path with
    | some f => startFile w cancelled f path
    | none => ⟨w, .finished, []⟩
  | .fileIn r path =>
    match w.resolve r with
    | some f => startFile w cancelled f path
    | none => ⟨w, .finished, []⟩
  | .folder r =>
    match w.resolve r with
    | some f => startFolder w cancelled f
    | none => ⟨w, .finished, []⟩

end Strand

inductive Task
  /-- Scans of all folders, which are looked up when the task is first polled. -/
  | workspace
  /-- Strands, with the number of permits that are free. -/
  | strands (free : Nat) (strands : List Strand)

/-- More permits than this cannot be given out. -/
def Task.mostPermits : Nat := UInt64.size / 8 - 1

/-- The permits of a new semaphore, if there can be so many. -/
def Semaphore.new? (permits : Nat) : Option Nat :=
  if permits ≤ Task.mostPermits then some permits else none

/-- The scans that may be inside the scanner at once. -/
def Workspace.mostScans (w : Workspace) : Nat := max w.settings.limits.maxConcurrentScans.toNat 1

/-- The strands of a scan of folders. -/
def Strand.queue (fs : List Folder) : List Strand := fs.map fun f => .queued (.folder f.ref)

namespace Task

/-- A task of one scan. -/
def single (job : ScanJob) : Task := .strands 1 [.queued job]

/-- The strands of a scan of the whole workspace. The task fails when it is to allow more scans at
once than there can be permits. -/
def openWorkspace (w : Workspace) : Task :=
  match Semaphore.new? w.mostScans with
  | some permits => .strands permits (Strand.queue w.folders.values)
  | none => .strands 0 []

/-- Polls strands from left to right, with `free` permits. -/
def pollStrands (w : Workspace) (cancelled : Bool) (free : Nat) :
    List Strand → Polled (Nat × List Strand)
  | [] => ⟨w, (free, []), []⟩
  | .finished :: rest =>
    let p := pollStrands w cancelled free rest
    { p with left := (p.left.1, .finished :: p.left.2) }
  | .queued job :: rest =>
    if free = 0 then
      let p := pollStrands w cancelled free rest
      { p with left := (p.left.1, .queued job :: p.left.2) }
    else
      let s := Strand.start w cancelled job
      let free := if s.left.isFinished then free else free - 1
      let p := pollStrands s.workspace cancelled free rest
      ⟨p.workspace, (p.left.1, s.left :: p.left.2), s.events ++ p.events⟩
  | .underway o :: rest =>
    let s := o.poll w cancelled
    let free := if s.left.isFinished then free + 1 else free
    let p := pollStrands s.workspace cancelled free rest
    ⟨p.workspace, (p.left.1, s.left :: p.left.2), s.events ++ p.events⟩

def poll (w : Workspace) (cancelled : Bool) (t : Task) : Polled Task :=
  let polled (free : Nat) (ss : List Strand) : Polled Task :=
    let p := pollStrands w cancelled free ss
    ⟨p.workspace, .strands p.left.1 p.left.2, p.events⟩
  match t with
  | workspace =>
    match openWorkspace w with
    | strands free ss => polled free ss
    | workspace => ⟨w, workspace, []⟩
  | strands free ss => polled free ss

/-- Whether a poll changes anything. -/
def canMove (cancelled : Bool) : Task → Bool
  | workspace => true
  | strands free ss => ss.any fun
    | .queued _ => 0 < free
    | .underway o => o.canMove cancelled
    | .finished => false

def isFinished : Task → Bool
  | workspace => false
  | strands _ ss => ss.all Strand.isFinished

/-- Polls each task once. -/
def round (w : Workspace) (cancelled : Bool) : List Task → Polled (List Task)
  | [] => ⟨w, [], []⟩
  | t :: rest =>
    let s := t.poll w cancelled
    let p := round s.workspace cancelled rest
    ⟨p.workspace, s.left :: p.left, s.events ++ p.events⟩

/-- Lets rounds pass until nothing moves, at most `fuel` of them. -/
def rounds (cancelled : Bool) : Nat → Polled (List Task) → Polled (List Task)
  | 0, p => p
  | fuel + 1, p =>
    if p.left.any (canMove cancelled) then
      let q := round p.workspace cancelled p.left
      rounds cancelled fuel { q with events := p.events ++ q.events }
    else p

/-- More rounds than a strand can need, when no run of the scanner is busy for more than `busy`
rounds. -/
def need (folders busy : Nat) : Task → Nat
  | workspace => folders * (busy + 2) + 1
  | strands _ ss => ss.foldl (fun n s => n + match s with
    | .queued _ => busy + 2
    | .underway o => o.run.rounds + 1
    | .finished => 0) 0

/-- Lets tasks run until each is finished or hangs. -/
def run (w : Workspace) (cancelled : Bool) (ts : List Task) : Polled (List Task) :=
  let busy := w.scanner.busy w.settings.scanner
  let fuel := ts.foldl (fun n t => n + need w.folders.size busy t) 1
  rounds cancelled fuel ⟨w, ts, []⟩

end Task

/-- When a scan is cancelled. -/
inductive Cancel
  | never
  | beforehand
  /-- As soon as nothing moves. -/
  | whenStuck
deriving DecidableEq

/-- Runs one task and gives up what still hangs at the end. -/
def Workspace.run (w : Workspace) (cancel : Cancel) (t : Task) : Workspace × List Event :=
  let p := Task.run w (cancel = .beforehand) [t]
  if cancel = .whenStuck then
    let q := Task.run p.workspace true p.left
    (q.workspace, p.events ++ q.events)
  else (p.workspace, p.events)

end ScanRelay
