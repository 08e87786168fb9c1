/-
DoubleEntry/Ledger/Status.lean

The state of the ledger at a glance.
-/
import DoubleEntry.Record.Codec
import DoubleEntry.Store.Totals

namespace DoubleEntry

/-- The numbers of rows, and the total of each currency in use. -/
structure LedgerStatus where
  counts : LedgerCounts
  balances : List (Currency × Int64)
  deriving DecidableEq, Repr

namespace LedgerStatus

/-- The status of a ledger. -/
def of (db : Database) : Except Error LedgerStatus := do
  return { counts := ← db.counts, balances := ← db.totals }

/-- The total of a currency, nothing if no account holds it. -/
def totalFor (s : LedgerStatus) (c : Currency) : Int64 :=
  ((s.balances.find? fun b => b.1 = c).map (·.2)).getD 0

/-- The status as JSON. -/
def toJson (s : LedgerStatus) : Json :=
  .object
    [("total_accounts", .ofNat s.counts.accounts), ("total_entries", .ofNat s.counts.entries),
      ("total_transfers", .ofNat s.counts.transfers),
      ("balances", .array (s.balances.map fun (c, total) =>
        .object [("currency", c.toJson), ("total", .ofInt64 total)]))]

end LedgerStatus

end DoubleEntry
