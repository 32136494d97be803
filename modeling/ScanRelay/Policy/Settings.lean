import ScanRelay.Data.Table
import ScanRelay.Finding.Issue
import ScanRelay.Path.Basic

/-!
# Settings

Everything that users can set: which folders may be scanned, which issues are shown, how the
scanner is run, how many scans run at once, and what is reported about them.
-/

namespace ScanRelay

structure TrustSettings where
  enabled : Bool
  trustedFolders : List String
deriving DecidableEq

/-- Which severities are shown. -/
structure SeverityFilter where
  critical : Bool
  high : Bool
  medium : Bool
  low : Bool
deriving DecidableEq

/-- Which categories are shown. -/
structure CategoryFilter where
  openSource : Bool
  codeSecurity : Bool
  codeQuality : Bool
  infrastructureAsCode : Bool
deriving DecidableEq

structure FilterSettings where
  severity : SeverityFilter
  issueTypes : CategoryFilter
deriving DecidableEq

structure ScannerSettings where
  binaryPath : Option String
  args : List String
  env : Table String
  product : Option Product
  timeoutSeconds : UInt64
deriving DecidableEq

structure LimitSettings where
  maxConcurrentScans : UInt64
deriving DecidableEq

structure AnalyticsSettings where
  enabled : Bool
  deviceId : String
  integrationName : String
  integrationVersion : String
deriving DecidableEq

structure Settings where
  trust : TrustSettings
  filter : FilterSettings
  scanner : ScannerSettings
  limits : LimitSettings
  analytics : AnalyticsSettings
deriving DecidableEq

/-! ## Defaults -/

def TrustSettings.standard : TrustSettings := ⟨false, []⟩

def SeverityFilter.standard : SeverityFilter := ⟨true, true, true, true⟩

def CategoryFilter.standard : CategoryFilter := ⟨true, true, true, true⟩

def FilterSettings.standard : FilterSettings := ⟨.standard, .standard⟩

def ScannerSettings.standard : ScannerSettings := ⟨none, ["test", "--json"], .empty, none, 300⟩

def LimitSettings.standard : LimitSettings := ⟨2⟩

/-- The defaults on a device. -/
def AnalyticsSettings.standard (deviceId : String) : AnalyticsSettings := ⟨true, deviceId, "", ""⟩

/-- The defaults on a device. -/
def Settings.standard (deviceId : String) : Settings :=
  ⟨.standard, .standard, .standard, .standard, .standard deviceId⟩

/-! ## Filters and trust -/

def SeverityFilter.shows (f : SeverityFilter) : Severity → Bool
  | .critical => f.critical
  | .high => f.high
  | .medium => f.medium
  | .low => f.low

def CategoryFilter.shows (f : CategoryFilter) : Category → Bool
  | .openSource => f.openSource
  | .codeSecurity => f.codeSecurity
  | .codeQuality => f.codeQuality
  | .infrastructureAsCode => f.infrastructureAsCode

/-- The categories that `f` shows and `next` does not. -/
def CategoryFilter.newlyDisabled (f next : CategoryFilter) : List Category :=
  Category.all.filter fun c => f.shows c && !next.shows c

def FilterSettings.shows (f : FilterSettings) (i : Issue) : Bool :=
  f.severity.shows i.severity && f.issueTypes.shows i.category

/-- The issues that are shown, in their order. -/
def FilterSettings.visible (f : FilterSettings) (issues : List Issue) : List Issue :=
  issues.filter f.shows

/-- Whether a folder may be scanned: its path begins with a trusted path, as text. -/
def TrustSettings.trusts (t : TrustSettings) (folder : String) : Bool :=
  !t.enabled || t.trustedFolders.any fun path => path.toList.isPrefixOf folder.toList

/-! ## Validity -/

inductive SettingsFault
  | noTimeout
  | noConcurrency
deriving DecidableEq

def SettingsFault.message : SettingsFault → String
  | noTimeout => "Scan timeout must be greater than 0"
  | noConcurrency => "Max concurrent scans must be greater than 0"

def Settings.validate (s : Settings) : Except SettingsFault Unit :=
  if s.scanner.timeoutSeconds = 0 then .error .noTimeout
  else if s.limits.maxConcurrentScans = 0 then .error .noConcurrency
  else .ok ()

end ScanRelay
