import DoubleEntry.CommandLine.Action
import DoubleEntry.CommandLine.Arguments
import DoubleEntry.CommandLine.Command
import DoubleEntry.CommandLine.Failure
import DoubleEntry.CommandLine.FileText
import DoubleEntry.CommandLine.Files
import DoubleEntry.CommandLine.Host
import DoubleEntry.CommandLine.LogSession
import DoubleEntry.CommandLine.Presentation
import DoubleEntry.CommandLine.Run
import DoubleEntry.CommandLine.Session
import DoubleEntry.Envelope
import DoubleEntry.Error
import DoubleEntry.EventLog.Event
import DoubleEntry.EventLog.Log
import DoubleEntry.EventLog.Snapshot
import DoubleEntry.Json.Basic
import DoubleEntry.Json.Decode
import DoubleEntry.Json.Double
import DoubleEntry.Json.Printer
import DoubleEntry.Json.Reader
import DoubleEntry.Json.Record
import DoubleEntry.Json.Written
import DoubleEntry.Ledger.Accounts
import DoubleEntry.Ledger.Status
import DoubleEntry.Ledger.Transfers
import DoubleEntry.Ledger.Verifications
import DoubleEntry.Main
import DoubleEntry.Migration.Catalog
import DoubleEntry.Migration.Codec
import DoubleEntry.Migration.Run
import DoubleEntry.Migration.Schema
import DoubleEntry.Money.Amount
import DoubleEntry.Money.Currency
import DoubleEntry.Record.Basic
import DoubleEntry.Record.Codec
import DoubleEntry.Record.Rules
import DoubleEntry.Settings.Config
import DoubleEntry.Settings.File
import DoubleEntry.Store.Cancel
import DoubleEntry.Store.Database
import DoubleEntry.Store.Perform
import DoubleEntry.Store.Query
import DoubleEntry.Store.Row
import DoubleEntry.Store.Scope
import DoubleEntry.Store.Snapshot
import DoubleEntry.Store.Totals
import DoubleEntry.Store.Work
import DoubleEntry.Text.Blank
import DoubleEntry.Text.Decimal
import DoubleEntry.Text.Grid
import DoubleEntry.Text.Path
import DoubleEntry.Text.Quoted
import DoubleEntry.Text.Ranges
import DoubleEntry.Text.Style
import DoubleEntry.Text.Uppercase
import DoubleEntry.Text.Width
import DoubleEntry.Time.Calendar
import DoubleEntry.Time.Instant
import DoubleEntry.Time.Rfc3339
import DoubleEntry.Proofs.Text.Numeral
import DoubleEntry.Proofs.Json.Numeral
import DoubleEntry.Proofs.Json.ReadBack
import DoubleEntry.Proofs.Json.Fields
import DoubleEntry.Proofs.Json.Meaning
import DoubleEntry.Proofs.Settings.File
import DoubleEntry.Proofs.Settings.Saving
import DoubleEntry.Proofs.Time.Calendar
import DoubleEntry.Proofs.Time.RoundTrip
import DoubleEntry.Proofs.Store.Statement
import DoubleEntry.Proofs.Store.Atomicity
import DoubleEntry.Proofs.Ledger.Books
import DoubleEntry.Proofs.Store.Frame
import DoubleEntry.Proofs.Store.Kept
import DoubleEntry.Proofs.Ledger.Effect
import DoubleEntry.Proofs.Ledger.Audit
import DoubleEntry.Proofs.Ledger.Conservation
import DoubleEntry.Proofs.Ledger.StatusTotals
import DoubleEntry.Proofs.Ledger.Additions
import DoubleEntry.Proofs.Ledger.TransferOutcome
import DoubleEntry.Proofs.Ledger.CommitOrder
import DoubleEntry.Proofs.Ledger.Closing
import DoubleEntry.Proofs.Migration.AllOrNothing
import DoubleEntry.Proofs.Migration.Upgrade
import DoubleEntry.Proofs.Ledger.AppendOnly
import DoubleEntry.Proofs.Ledger.Integrity
import DoubleEntry.Proofs.Ledger.Verification
import DoubleEntry.Proofs.Ledger.Lifetime
import DoubleEntry.Proofs.Store.SingleStatement
import DoubleEntry.Proofs.Ledger.Alike
import DoubleEntry.Proofs.CommandLine.Alike
import DoubleEntry.Proofs.CommandLine.Privacy
import DoubleEntry.Proofs.Ledger.LockOrder
import DoubleEntry.Proofs.Json.Format
import DoubleEntry.Proofs.Record.Format
import DoubleEntry.Proofs.CommandLine.Kept
import DoubleEntry.Proofs.CommandLine.Outcome
import DoubleEntry.Proofs.Ledger.Traceable
import DoubleEntry.Proofs.CommandLine.JsonOption
import DoubleEntry.Proofs.CommandLine.Presentation
import DoubleEntry.Proofs.CommandLine.Clearing
import DoubleEntry.Proofs.Outcome
import DoubleEntry.Proofs.Settings.Resolution
import DoubleEntry.Proofs.Text.Pattern
import DoubleEntry.Proofs.Record.Registration
import DoubleEntry.Proofs.Text.Uppercase
import DoubleEntry.Proofs.Envelope
import DoubleEntry.Proofs.Money.Amount
import DoubleEntry.Proofs.Money.Currency
import DoubleEntry.Proofs.Text.Trimmed
import DoubleEntry.Proofs.Text.Integer
import DoubleEntry.Proofs.Ledger.Preserved
import DoubleEntry.Proofs.Ledger.Rules
import DoubleEntry.Proofs.Ledger.ConfirmationOutcome
import DoubleEntry.Proofs.Ledger.BalancePairs
import DoubleEntry.Proofs.Ledger.StatusOutcome
import DoubleEntry.Proofs.EventLog.Reads
import DoubleEntry.Proofs.EventLog.Order
import DoubleEntry.Proofs.Ledger.Paging
import DoubleEntry.Proofs.Ledger.ReadBack
