import ScanRelay.Finding.Wire
import ScanRelay.Policy.Settings
import ScanRelay.Scan.Report
import ScanRelay.Text.Blank
import ScanRelay.Text.Utf8

/-!
# Scanners that are programs

A scanner may be a program that is started in the folder, with the path to scan as its last
argument, and that writes a list of issues. Many such programs end with a failure status when they
found something, so the status counts only when there is no list.
-/

namespace ScanRelay

/-- A program about to be started. -/
structure Launch where
  binary : String
  args : List String
  folder : String
  env : Table String

/-- What a program wrote, and its status unless a signal ended it. -/
structure ProgramOutput where
  stdout : List UInt8
  stderr : List UInt8
  status : Option Int

/-- What comes of starting a program. -/
inductive ProgramRun
  /-- It cannot be started. -/
  | impossible
  /-- It ends by itself after some milliseconds. -/
  | ended (ms : Nat) (output : ProgramOutput)

namespace Command

def launchOf (s : ScannerSettings) (binary path folder : String) : Launch :=
  ⟨binary, s.args ++ [path], folder, s.env⟩

/-- Completes an issue by the product of the scanner and the folder of its file. -/
def stamp (product : Option Product) (folder : String) (i : Issue) : Issue :=
  { i with
    product := i.product.or product
    path := if Path.isAbsolute i.path then i.path else Path.join folder i.path }

/-- The error of a program that gave no list of issues. -/
def exited (o : ProgramOutput) : ScanError :=
  .exited (o.status.getD (-1)) (trimBlank (Utf8.decodeText o.stderr))

/-- What the output of a program says. -/
def classify (product : Option Product) (folder : String) (o : ProgramOutput) :
    Except ScanError (List Issue) :=
  let text := Utf8.decodeText o.stdout
  let success := o.status = some 0
  if allBlank text then
    if success then .ok [] else .error (exited o)
  else
    match Issue.listOfText text with
    | .ok issues => .ok (issues.map (stamp product folder))
    | .error fault => .error (if success then .invalidOutput fault else exited o)

/-- Runs the scanner on a path in a folder. `cancelAt` is the millisecond in which the scan is
cancelled, zero when it was cancelled before. A run that is both cancelled and late counts as
cancelled, and one that ends when its time is up counts as late. -/
def run (s : ScannerSettings) (start : Launch → ProgramRun) (cancelAt : Option Nat)
    (path folder : String) : Nat × Except ScanError (List Issue) :=
  let limit := s.timeoutSeconds.toNat * 1000
  match s.binaryPath with
  | none => (0, .error .notConfigured)
  | some binary =>
    if cancelAt = some 0 then (0, .error (.cancelled path))
    else
      match start (launchOf s binary path folder) with
      | .impossible => (0, .error (.failed path ("Failed to spawn " ++ binary)))
      | .ended ms output =>
        let last := min ms limit
        if cancelAt.any fun t => t ≤ last then (cancelAt.getD 0, .error (.cancelled path))
        else if limit ≤ ms then (limit, .error (.timeout path s.timeoutSeconds))
        else (ms, classify s.product folder output)

/-- The report of a run. -/
def scan (s : ScannerSettings) (start : Launch → ProgramRun) (cancelAt : Option Nat)
    (path folder : String) : ScanReport :=
  let (ms, outcome) := run s start cancelAt path folder
  ⟨s.product, outcome, UInt64.ofNat ms, none⟩

end Command

end ScanRelay
