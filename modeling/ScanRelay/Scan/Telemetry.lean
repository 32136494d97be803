import ScanRelay.Finding.Tally
import ScanRelay.Policy.Settings
import ScanRelay.Scan.Report

/-!
# Telemetry

A successful scan of a known product is reported with the number of new issues of each severity.
-/

namespace ScanRelay

structure ScanDone where
  deviceId : String
  integrationName : String
  integrationVersion : String
  product : Product
  counts : SeverityCount
  durationMs : UInt64
  finished : Option Instant

namespace ScanDone

def applicationName : String := "findings-lsp"

def applicationVersion : String := "0.1.0"

/-- The system that the program is built for. -/
def os : String := "Linux"

def arch : String := "x86_64"

/-- The event of a scan whose new issues were counted; there is none for a failed scan, nor without
a product. -/
def ofReport (settings : AnalyticsSettings) (r : ScanReport) (counted : Tally) : Option ScanDone :=
  match r.product, r.outcome with
  | some p, .ok _ => some {
      deviceId := settings.deviceId
      integrationName := settings.integrationName
      integrationVersion := settings.integrationVersion
      product := p
      counts := counted.get (some p)
      durationMs := r.durationMs
      finished := r.finished }
  | _, _ => none

/-- What is sent for a scan. -/
def toSend (settings : AnalyticsSettings) (r : ScanReport) (counted : Tally) : List ScanDone :=
  if settings.enabled then (ofReport settings r counted).toList else []

def attributes (e : ScanDone) : Json :=
  .ofMembers [("deviceId", .text e.deviceId), ("application", .text applicationName),
    ("applicationVersion", .text applicationVersion), ("os", .text os), ("arch", .text arch),
    ("integrationName", .text e.integrationName),
    ("integrationVersion", .text e.integrationVersion), ("eventType", .text "Scan done"),
    ("status", .text "Success"), ("scanType", .text e.product.label),
    ("uniqueIssueCount", e.counts.toJson), ("durationMs", .text (toString e.durationMs.toNat)),
    ("timestampFinished", .ofOption (fun t => .text t.toText) e.finished)]

def toJson (e : ScanDone) : Json :=
  .ofMembers [("data", .ofMembers [("type", .text "analytics"), ("attributes", e.attributes)])]

end ScanDone

/-- Where telemetry goes. It takes what it is given, or says why not. -/
abbrev TelemetrySink := ScanDone → Except String Unit

namespace TelemetrySink

/-- The sink of the program itself, which takes everything. -/
def standard : TelemetrySink := fun _ => .ok ()

/-- What the log says when something is not taken. -/
def complaint? (sink : TelemetrySink) (e : ScanDone) : Option String :=
  match sink e with
  | .ok () => none
  | .error reason => some ("Error sending analytics: " ++ reason)

end TelemetrySink

end ScanRelay
