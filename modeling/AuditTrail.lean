import AuditTrail.Access.Caller
import AuditTrail.Access.Route
import AuditTrail.Event.Basic
import AuditTrail.Event.Build
import AuditTrail.Event.Kind
import AuditTrail.Event.View
import AuditTrail.Export.Content
import AuditTrail.Export.Files
import AuditTrail.Export.Row
import AuditTrail.Export.SheetFile
import AuditTrail.Export.Workbook
import AuditTrail.Failure
import AuditTrail.Json.Read
import AuditTrail.Json.Write
import AuditTrail.Number.Arith
import AuditTrail.Number.Decimal
import AuditTrail.Number.Exact
import AuditTrail.Number.Shortest
import AuditTrail.Number.Text
import AuditTrail.Proofs.AccessRecords
import AuditTrail.Proofs.EventFields
import AuditTrail.Proofs.FilterMatch
import AuditTrail.Proofs.Gathering
import AuditTrail.Proofs.KeyOrder
import AuditTrail.Proofs.ListingPages
import AuditTrail.Proofs.Monadic
import AuditTrail.Proofs.PageCount
import AuditTrail.Proofs.ReadOnlyWork
import AuditTrail.Proofs.ScalarFields
import AuditTrail.Proofs.SortMerge
import AuditTrail.Proofs.SortRuns
import AuditTrail.Proofs.SortSearch
import AuditTrail.Proofs.StableSort
import AuditTrail.Proofs.StoreReads
import AuditTrail.Proofs.ValueOrder
import AuditTrail.Report.Health
import AuditTrail.Report.Paging
import AuditTrail.Request.Basic
import AuditTrail.Request.Read
import AuditTrail.Request.Select
import AuditTrail.Service.Basic
import AuditTrail.Service.Clock
import AuditTrail.Service.Export
import AuditTrail.Service.Listing
import AuditTrail.Service.Recorders
import AuditTrail.Service.Reports
import AuditTrail.Settings
import AuditTrail.Sorting
import AuditTrail.Sorting.Gallop
import AuditTrail.Sorting.Merge
import AuditTrail.Store.Collection
import AuditTrail.Store.Cond
import AuditTrail.Store.Db
import AuditTrail.Store.Order
import AuditTrail.Text.Blank
import AuditTrail.Text.Case
import AuditTrail.Text.Digit
import AuditTrail.Text.Printable
import AuditTrail.Text.Surrogate
import AuditTrail.Time.Calendar
import AuditTrail.Time.Iso
import AuditTrail.Time.Stamp
import AuditTrail.Validation.Form
import AuditTrail.Validation.Issue
import AuditTrail.Validation.Scalar
import AuditTrail.Validation.Stamp
import AuditTrail.Value
import AuditTrail.Value.Compare
import AuditTrail.Value.Diff
import AuditTrail.Value.Display
import AuditTrail.Value.Equality
import AuditTrail.Value.Hash
import AuditTrail.Value.Plain
import AuditTrail.Value.Tagged
import AuditTrail.Web.App
import AuditTrail.Web.Capture
import AuditTrail.Web.Documentation
import AuditTrail.Web.Endpoint
import AuditTrail.Web.Message
import AuditTrail.Web.Target
import AuditTrail.Proofs.ExportedEvents
import AuditTrail.Proofs.StoredEvents
import AuditTrail.Proofs.StoreFaults
import AuditTrail.Proofs.WritesInFlight
import AuditTrail.Proofs.EncodedText
import AuditTrail.Proofs.EventStore
import AuditTrail.Proofs.ExportRows
import AuditTrail.Proofs.PageLinks
import AuditTrail.Proofs.EventWrites
import AuditTrail.Proofs.AdminGuard
import AuditTrail.Proofs.InsertionOrder
import AuditTrail.Proofs.LevelCounts
import AuditTrail.Proofs.ListingSummary
import AuditTrail.Proofs.InsertFaults
import AuditTrail.Proofs.Ingestion
import AuditTrail.Proofs.CaptureAccounting
import AuditTrail.Proofs.ServiceReads
import AuditTrail.Proofs.SessionStore
import AuditTrail.Proofs.StoredReads
import AuditTrail.Proofs.ReportOutcomes
import AuditTrail.Proofs.ListingRequests
import AuditTrail.Proofs.CreationWindows
import AuditTrail.Proofs.CriticalEvents
import AuditTrail.Proofs.CalendarText
import AuditTrail.Proofs.DayTables
import AuditTrail.Proofs.DailyStatistics
import AuditTrail.Proofs.ReportFrames
import AuditTrail.Proofs.SweepSelection
import AuditTrail.Proofs.RetentionSweep
import AuditTrail.Proofs.AdminActions
import AuditTrail.Proofs.ExportRequests
import AuditTrail.Proofs.ExportSheets
import AuditTrail.Proofs.JsonText
import AuditTrail.Proofs.ExportTexts
import AuditTrail.Proofs.FieldChanges
import AuditTrail.Proofs.PlainValues
import AuditTrail.Proofs.SchedulerFuel
import AuditTrail.Proofs.MainLine
import AuditTrail.Proofs.SessionOrder
