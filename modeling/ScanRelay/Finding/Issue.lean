import ScanRelay.Finding.Range
import ScanRelay.Json.Basic

/-!
# Issues

What a scanner reports about a place in a file. An issue is told from others by its id together
with its file.
-/

namespace ScanRelay

inductive Severity
  | low
  | medium
  | high
  | critical
deriving DecidableEq, Inhabited

namespace Severity

/-- All severities, the gravest first. -/
def all : List Severity := [critical, high, medium, low]

def name : Severity → String
  | low => "low"
  | medium => "medium"
  | high => "high"
  | critical => "critical"

/-- Graver severities have greater ranks. -/
def rank : Severity → Nat
  | low => 0
  | medium => 1
  | high => 2
  | critical => 3

def compare (a b : Severity) : Ordering := Ord.compare a.rank b.rank

end Severity

/-- The family of scanners that found an issue. -/
inductive Product
  | openSource
  | code
  | infrastructureAsCode
  | unknown
deriving DecidableEq, Inhabited

namespace Product

def all : List Product := [openSource, code, infrastructureAsCode, unknown]

def name : Product → String
  | openSource => "openSource"
  | code => "code"
  | infrastructureAsCode => "infrastructureAsCode"
  | unknown => "unknown"

/-- The product as users read it. -/
def label : Product → String
  | openSource => "Open Source"
  | code => "Code"
  | infrastructureAsCode => "Infrastructure As Code"
  | unknown => "unknown"

/-- Issues without a product are counted as unknown. -/
def orUnknown (p : Option Product) : Product := p.getD unknown

end Product

/-- The kinds of issues that can be switched on and off. -/
inductive Category
  | openSource
  | codeSecurity
  | codeQuality
  | infrastructureAsCode
deriving DecidableEq, Inhabited

namespace Category

def all : List Category := [openSource, codeSecurity, codeQuality, infrastructureAsCode]

def name : Category → String
  | openSource => "openSource"
  | codeSecurity => "codeSecurity"
  | codeQuality => "codeQuality"
  | infrastructureAsCode => "infrastructureAsCode"

end Category

inductive IssueType
  | dependencyVulnerability
  | licenceIssue
  | codeSecurityVulnerability
  | codeQualityIssue
  | infrastructureIssue
deriving DecidableEq, Inhabited

namespace IssueType

def all : List IssueType :=
  [dependencyVulnerability, licenceIssue, codeSecurityVulnerability, codeQualityIssue,
    infrastructureIssue]

def name : IssueType → String
  | dependencyVulnerability => "dependencyVulnerability"
  | licenceIssue => "licenceIssue"
  | codeSecurityVulnerability => "codeSecurityVulnerability"
  | codeQualityIssue => "codeQualityIssue"
  | infrastructureIssue => "infrastructureIssue"

def category : IssueType → Category
  | dependencyVulnerability | licenceIssue => .openSource
  | codeSecurityVulnerability => .codeSecurity
  | codeQualityIssue => .codeQuality
  | infrastructureIssue => .infrastructureAsCode

end IssueType

structure Issue where
  /-- Set by the scanner, and unique only within one file. -/
  id : String
  path : String
  range : Range
  severity : Severity
  product : Option Product
  issueType : IssueType
  message : String
  /-- Markdown, empty when the scanner sent none. -/
  formattedMessage : String
  descriptionUrl : Option String
  cwes : List String
  cves : List String
  additionalData : Option Json

namespace Issue

/-- The text that tells issues apart. -/
def identity (i : Issue) : String := i.id ++ "|" ++ i.path

def category (i : Issue) : Category := i.issueType.category

/-- What a hover shows: the markdown, or the plain message. -/
def hoverText (i : Issue) : String :=
  if i.formattedMessage = "" then i.message else i.formattedMessage

def toText (i : Issue) : String :=
  i.id ++ " [" ++ i.severity.name ++ "] " ++ i.message ++ " @ " ++ i.path ++ ":" ++ i.range.toText

end Issue

end ScanRelay
