import ScanRelay.Calendar.Instant
import ScanRelay.Data.Table
import ScanRelay.Decimal.Binary64
import ScanRelay.Decimal.Shortest
import ScanRelay.Editor.Abilities
import ScanRelay.Editor.Diagnostic
import ScanRelay.Editor.Hover
import ScanRelay.Editor.Message
import ScanRelay.Editor.Params
import ScanRelay.Engine.Event
import ScanRelay.Engine.Folder
import ScanRelay.Engine.Publish
import ScanRelay.Engine.Scanner
import ScanRelay.Engine.Schedule
import ScanRelay.Engine.Workspace
import ScanRelay.Finding.Issue
import ScanRelay.Finding.Range
import ScanRelay.Finding.Tally
import ScanRelay.Finding.Wire
import ScanRelay.Json.Basic
import ScanRelay.Json.Document
import ScanRelay.Json.Fault
import ScanRelay.Json.Inspect
import ScanRelay.Json.Lexeme
import ScanRelay.Json.Printer
import ScanRelay.Json.Schema
import ScanRelay.Json.Tree
import ScanRelay.Main
import ScanRelay.Path.Basic
import ScanRelay.Policy.Settings
import ScanRelay.Policy.Wire
import ScanRelay.Proofs.Acts
import ScanRelay.Proofs.Batching
import ScanRelay.Proofs.CacheHits
import ScanRelay.Proofs.CategoryClearing
import ScanRelay.Proofs.Clashes
import ScanRelay.Proofs.Clearing
import ScanRelay.Proofs.Concurrency
import ScanRelay.Proofs.Containment
import ScanRelay.Proofs.Deletion
import ScanRelay.Proofs.Display
import ScanRelay.Proofs.Failures
import ScanRelay.Proofs.FileUrls
import ScanRelay.Proofs.Findings
import ScanRelay.Proofs.FolderChanges
import ScanRelay.Proofs.Handlers
import ScanRelay.Proofs.Identity
import ScanRelay.Proofs.Ledger
import ScanRelay.Proofs.Lookup
import ScanRelay.Proofs.Merging
import ScanRelay.Proofs.Operation
import ScanRelay.Proofs.Overlap
import ScanRelay.Proofs.Parts
import ScanRelay.Proofs.Passes
import ScanRelay.Proofs.Permits
import ScanRelay.Proofs.ProgramOutput
import ScanRelay.Proofs.Publications
import ScanRelay.Proofs.Publishing
import ScanRelay.Proofs.ReadBack
import ScanRelay.Proofs.Reconfigure
import ScanRelay.Proofs.Records
import ScanRelay.Proofs.Removal
import ScanRelay.Proofs.Rescan
import ScanRelay.Proofs.Routing
import ScanRelay.Proofs.SaveScans
import ScanRelay.Proofs.Saving
import ScanRelay.Proofs.Sessions
import ScanRelay.Proofs.SettingsEdits
import ScanRelay.Proofs.Shutdown
import ScanRelay.Proofs.Spellings
import ScanRelay.Proofs.Status
import ScanRelay.Proofs.Telemetry
import ScanRelay.Proofs.Toggle
import ScanRelay.Proofs.Traces
import ScanRelay.Proofs.UrlRoundTrip
import ScanRelay.Proofs.UrlText
import ScanRelay.Proofs.View
import ScanRelay.Proofs.Walks
import ScanRelay.Proofs.Written
import ScanRelay.Scan.Command
import ScanRelay.Scan.Report
import ScanRelay.Scan.Telemetry
import ScanRelay.Service.Abilities
import ScanRelay.Service.Frame
import ScanRelay.Service.Incoming
import ScanRelay.Service.Invocation
import ScanRelay.Service.Server
import ScanRelay.Service.Session
import ScanRelay.Store.Cache
import ScanRelay.Text.Blank
import ScanRelay.Text.CodeSet
import ScanRelay.Text.Composition
import ScanRelay.Text.CompositionTable
import ScanRelay.Text.Pieces
import ScanRelay.Text.Printable
import ScanRelay.Text.Quoted
import ScanRelay.Text.Utf8
import ScanRelay.Url.Basic
import ScanRelay.Url.FilePath
import ScanRelay.Url.FoldTable
import ScanRelay.Url.Host
import ScanRelay.Url.Label
import ScanRelay.Url.LabelTable
import ScanRelay.Url.Name
import ScanRelay.Url.Percent
import ScanRelay.Url.Punycode
