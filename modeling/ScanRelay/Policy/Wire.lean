import ScanRelay.Finding.Wire
import ScanRelay.Policy.Settings

/-!
# Settings as JSON

Every part of the settings may be missing and then has its default. A part that is there has to be
of its kind. `Settings.ofPayload` reads what an editor sends at the start, and
`Settings.update` applies a later change part by part.
-/

namespace ScanRelay

def Json.uint64 (n : UInt64) : Json := .number (.natural n)

def Json.asUInt64 (j : Json) : UInt64 := UInt64.ofNat j.asNat

namespace TrustSettings

def schema : Schema :=
  .record "TrustConfig" (.ofDefault [("enabled", .bool), ("trustedFolders", .list .text)])

def ofJson (j : Json) : TrustSettings where
  enabled := (j.field 0 "enabled").asBool
  trustedFolders := (j.field 1 "trustedFolders").asList Json.asText

def toJson (t : TrustSettings) : Json :=
  .ofMembers [("enabled", .bool t.enabled), ("trustedFolders", .texts t.trustedFolders)]

end TrustSettings

namespace SeverityFilter

def schema : Schema :=
  .record "SeverityFilter"
    (.ofDefault [("critical", .bool), ("high", .bool), ("medium", .bool), ("low", .bool)])

def ofJson (j : Json) : SeverityFilter where
  critical := j.fieldD 0 "critical" Json.asBool true
  high := j.fieldD 1 "high" Json.asBool true
  medium := j.fieldD 2 "medium" Json.asBool true
  low := j.fieldD 3 "low" Json.asBool true

def toJson (f : SeverityFilter) : Json :=
  .ofMembers [("critical", .bool f.critical), ("high", .bool f.high), ("medium", .bool f.medium),
    ("low", .bool f.low)]

end SeverityFilter

namespace CategoryFilter

def schema : Schema :=
  .record "IssueTypeFilter" (.ofDefault [("openSource", .bool), ("codeSecurity", .bool),
    ("codeQuality", .bool), ("infrastructureAsCode", .bool)])

def ofJson (j : Json) : CategoryFilter where
  openSource := j.fieldD 0 "openSource" Json.asBool true
  codeSecurity := j.fieldD 1 "codeSecurity" Json.asBool true
  codeQuality := j.fieldD 2 "codeQuality" Json.asBool true
  infrastructureAsCode := j.fieldD 3 "infrastructureAsCode" Json.asBool true

def toJson (f : CategoryFilter) : Json :=
  .ofMembers [("openSource", .bool f.openSource), ("codeSecurity", .bool f.codeSecurity),
    ("codeQuality", .bool f.codeQuality), ("infrastructureAsCode", .bool f.infrastructureAsCode)]

end CategoryFilter

namespace FilterSettings

def schema : Schema :=
  .record "FilterConfig"
    (.ofDefault [("severity", SeverityFilter.schema), ("issueTypes", CategoryFilter.schema)])

def ofJson (j : Json) : FilterSettings where
  severity := j.fieldD 0 "severity" SeverityFilter.ofJson .standard
  issueTypes := j.fieldD 1 "issueTypes" CategoryFilter.ofJson .standard

def toJson (f : FilterSettings) : Json :=
  .ofMembers [("severity", f.severity.toJson), ("issueTypes", f.issueTypes.toJson)]

end FilterSettings

namespace ScannerSettings

def schema : Schema :=
  .record "ScannerConfig" (.ofDefault [("binaryPath", .optional .path), ("args", .list .text),
    ("env", .table .text), ("product", .optional Product.schema),
    ("timeoutSeconds", .natural "u64" (UInt64.size - 1))])

def envOfJson (j : Json) : Table String :=
  match j with
  | .object members => .ofList (members.map fun m => (m.1, m.2.asText))
  | _ => .empty

def ofJson (j : Json) : ScannerSettings where
  binaryPath := (j.field 0 "binaryPath").asOption Json.asText
  args := j.fieldD 1 "args" (Json.asList Json.asText) standard.args
  env := envOfJson (j.field 2 "env")
  product := (j.field 3 "product").asOption Product.ofJson
  timeoutSeconds := j.fieldD 4 "timeoutSeconds" Json.asUInt64 standard.timeoutSeconds

def toJson (s : ScannerSettings) : Json :=
  .ofMembers [("binaryPath", .ofOption .text s.binaryPath), ("args", .texts s.args),
    ("env", .object (s.env.entries.map fun e => (e.1, .text e.2))),
    ("product", .ofOption Product.toJson s.product),
    ("timeoutSeconds", .uint64 s.timeoutSeconds)]

end ScannerSettings

namespace LimitSettings

def schema : Schema :=
  .record "LimitsConfig" (.ofDefault [("maxConcurrentScans", .natural "usize" (UInt64.size - 1))])

def ofJson (j : Json) : LimitSettings where
  maxConcurrentScans := j.fieldD 0 "maxConcurrentScans" Json.asUInt64 standard.maxConcurrentScans

def toJson (l : LimitSettings) : Json :=
  .ofMembers [("maxConcurrentScans", .uint64 l.maxConcurrentScans)]

end LimitSettings

namespace AnalyticsSettings

def schema : Schema :=
  .record "AnalyticsConfig" (.ofDefault [("enabled", .bool), ("deviceId", .text),
    ("integrationName", .text), ("integrationVersion", .text)])

/-- Reads the settings on the given device, which they may call by another name. -/
def ofJson (deviceId : String) (j : Json) : AnalyticsSettings where
  enabled := j.fieldD 0 "enabled" Json.asBool true
  deviceId := j.fieldD 1 "deviceId" Json.asText deviceId
  integrationName := j.fieldD 2 "integrationName" Json.asText ""
  integrationVersion := j.fieldD 3 "integrationVersion" Json.asText ""

def toJson (a : AnalyticsSettings) : Json :=
  .ofMembers [("enabled", .bool a.enabled), ("deviceId", .text a.deviceId),
    ("integrationName", .text a.integrationName),
    ("integrationVersion", .text a.integrationVersion)]

end AnalyticsSettings

namespace Settings

def schema : Schema :=
  .record "LspConfig" (.ofDefault [("trust", TrustSettings.schema),
    ("filter", FilterSettings.schema), ("scanner", ScannerSettings.schema),
    ("limits", LimitSettings.schema), ("analytics", AnalyticsSettings.schema)])

def ofJson (deviceId : String) (j : Json) : Settings where
  trust := j.fieldD 0 "trust" TrustSettings.ofJson .standard
  filter := j.fieldD 1 "filter" FilterSettings.ofJson .standard
  scanner := j.fieldD 2 "scanner" ScannerSettings.ofJson .standard
  limits := j.fieldD 3 "limits" LimitSettings.ofJson .standard
  analytics := j.fieldD 4 "analytics" (AnalyticsSettings.ofJson deviceId) (.standard deviceId)

def toJson (s : Settings) : Json :=
  .ofMembers [("trust", s.trust.toJson), ("filter", s.filter.toJson),
    ("scanner", s.scanner.toJson), ("limits", s.limits.toJson), ("analytics", s.analytics.toJson)]

/-! ## Changes -/

/-- A change of the settings is no object. -/
inductive PayloadFault
  | notAnObject
deriving DecidableEq

def PayloadFault.message : PayloadFault → String
  | notAnObject => "settings must be a JSON object"

/-- The member of an editor's settings that holds ours. -/
def sectionName : String := "findings"

/-- Our settings among an editor's. -/
def payloadOf (j : Json) : Json := (j.member? sectionName).getD j

/-- The part of this name, if it is there and can be read. -/
def part? {α : Type} (schema : Schema) (read : Json → α) (name : String) (payload : Json) :
    Option α := do
  let j ← payload.member? name
  (schema.decode read j).toOption

/-- Applies a change. A part that is missing or cannot be read stays as it is, and so does each
field of the analytics settings. -/
def update (s : Settings) (j : Json) : Except PayloadFault Settings :=
  let payload := payloadOf j
  if !payload.isObject then .error .notAnObject
  else
    let filter := (payload.member? "filter").getD .null
    let analytics := (payload.member? "analytics").getD .null
    let text? (name : String) : Option String := (analytics.member? name).bind Json.text?
    .ok {
      trust := (part? TrustSettings.schema TrustSettings.ofJson "trust" payload).getD s.trust
      filter := {
        severity := (part? SeverityFilter.schema SeverityFilter.ofJson "severity" filter).getD
          s.filter.severity
        issueTypes := (part? CategoryFilter.schema CategoryFilter.ofJson "issueTypes" filter).getD
          s.filter.issueTypes }
      scanner := (part? ScannerSettings.schema ScannerSettings.ofJson "scanner" payload).getD
        s.scanner
      limits := (part? LimitSettings.schema LimitSettings.ofJson "limits" payload).getD s.limits
      analytics := {
        enabled := ((analytics.member? "enabled").bind Json.bool?).getD s.analytics.enabled
        deviceId := (text? "deviceId").getD s.analytics.deviceId
        integrationName := (text? "integrationName").getD s.analytics.integrationName
        integrationVersion := (text? "integrationVersion").getD s.analytics.integrationVersion } }

/-- The settings that an editor sends at the start, on the given device. Settings that cannot be
read as a whole are applied to the defaults as a change. -/
def ofPayload (deviceId : String) (j : Json) : Except PayloadFault Settings :=
  match schema.decode (ofJson deviceId) (payloadOf j) with
  | .ok s => .ok s
  | .error _ => update (standard deviceId) j

end Settings

end ScanRelay
