import ScanRelay.Scan.Command

/-!
# Scanners

The engine knows a scanner by what its runs do. The runs are either laid down in advance, or those
of a program.
-/

namespace ScanRelay

structure InlineValue where
  range : Range
  text : String

namespace InlineValue

def schema : Schema :=
  .record "InlineValue" (.ofRequired [("range", Range.schema), ("text", .text)] .nil)

def ofJson (j : Json) : InlineValue :=
  ⟨Range.ofJson (j.field 0 "range"), (j.field 1 "text").asText⟩

def toJson (v : InlineValue) : Json :=
  .ofMembers [("range", v.range.toJson), ("text", .text v.text)]

end InlineValue

/-- Values that a scanner offers to show inside a file, or the reason it cannot. -/
abbrev InlineSource := Except String (List InlineValue)

/-- One run of a scanner: for how many rounds it is busy, whether it then waits to be cancelled, and
what it reports. -/
structure ScanRun where
  rounds : Nat
  hangs : Bool
  report : ScanReport

inductive ScanSource
  /-- The next runs. The last of them repeats. -/
  | script (runs : List ScanRun)
  /-- A program, by what comes of starting it. A round is a second. -/
  | program (start : Launch → ProgramRun)

structure Scanner where
  source : ScanSource
  /-- Nothing when the scanner keeps no inline values. -/
  inline : Option InlineSource

namespace ScanRun

/-- A run that finds nothing. -/
def idle : ScanRun := ⟨0, false, ⟨none, .ok [], 0, none⟩⟩

/-- The run of a program, which is busy to the end of its last second. -/
def ofProgram (s : ScannerSettings) (start : Launch → ProgramRun) (cancelled : Bool)
    (path folder : String) : ScanRun :=
  let r := Command.scan s start (if cancelled then some 0 else none) path folder
  ⟨r.durationMs.toNat / 1000 + 1, false, r⟩

end ScanRun

namespace Scanner

/-- The next run, on a path in a folder, and the scanner after it. -/
def next (s : Scanner) (settings : ScannerSettings) (cancelled : Bool) (path folder : String) :
    ScanRun × Scanner :=
  match s.source with
  | .script [] => (.idle, s)
  | .script [run] => (run, s)
  | .script (run :: rest) => (run, { s with source := .script rest })
  | .program start => (.ofProgram settings start cancelled path folder, s)

/-- No run is busy for more rounds than this. -/
def busy (s : Scanner) (settings : ScannerSettings) : Nat :=
  match s.source with
  | .script runs => (runs.map (·.rounds)).foldl max 0
  | .program _ => settings.timeoutSeconds.toNat + 1

end Scanner

end ScanRelay
