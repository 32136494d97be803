import ScanRelay.Calendar.Instant
import ScanRelay.Finding.Issue
import ScanRelay.Json.Fault

/-!
# Reports of scans

A scan ends with a report: the issues it found or the reason it failed, never both.
-/

namespace ScanRelay

inductive ScanError
  /-- The scanner could not be run. -/
  | failed (path reason : String)
  | cancelled (path : String)
  | timeout (path : String) (seconds : UInt64)
  /-- The scanner gave no list of issues and ended with this status. -/
  | exited (status : Int) (stderr : String)
  | invalidOutput (fault : Fault)
  | notConfigured

def ScanError.message : ScanError → String
  | failed path reason => "Failed to scan " ++ path ++ ": " ++ reason
  | cancelled path => "Scan of " ++ path ++ " was cancelled"
  | timeout path seconds =>
    "Scan timeout after " ++ toString seconds.toNat ++ "s for " ++ path
  | exited status stderr => "Scanner exited with status " ++ toString status ++ ": " ++ stderr
  | invalidOutput fault => "Invalid scanner output: " ++ fault.message
  | notConfigured => "No scanner binary configured"

structure ScanReport where
  product : Option Product
  outcome : Except ScanError (List Issue)
  durationMs : UInt64
  finished : Option Instant

namespace ScanReport

/-- The report of a look into what is known already. -/
def ofKnown (issues : List Issue) : ScanReport := ⟨none, .ok issues, 0, none⟩

end ScanReport

end ScanRelay
