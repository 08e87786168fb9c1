/-
DoubleEntry/Store/Totals.lean

Totals over the whole ledger: how many rows it has, and how much money its
accounts hold in each currency.

Accounts are grouped by their stored currency text.  Of several texts that
stand for one currency, the last in the order of texts counts.  A total is
the exact sum; one that leaves 64 bits is a failure of the database.
-/
import DoubleEntry.Store.Database
import DoubleEntry.Text.Decimal

namespace DoubleEntry

open DoubleEntry.Text

/-- The numbers of rows of the ledger's tables. -/
structure LedgerCounts where
  accounts : Nat
  entries : Nat
  transfers : Nat
  deriving DecidableEq, Repr

namespace Database

/-- Fails unless a table is there. -/
def requireTable (db : Database) (table : Table) : Except Error Unit :=
  if db.catalog.hasTable table.name then .ok ()
  else .error (.database (.noSuchTable table.name))

/-- The numbers of rows. -/
def counts (db : Database) : Except Error LedgerCounts := do
  db.requireTable Migration.accountTable
  db.requireTable Migration.entryTable
  db.requireTable Migration.transferTable
  return {
    accounts := db.rows.accounts.length
    entries := db.rows.entries.length
    transfers := db.rows.transfers.length }

/-- The stored currency texts, each once, in their order. -/
def currencyTexts (accounts : List AccountRow) : List String :=
  (accounts.map (·.currency)).eraseDups.mergeSort fun a b => a ≤ b

/-- The exact sum of the balances stored under a currency text. -/
def sumOf (accounts : List AccountRow) (text : String) : Int :=
  ((accounts.filter fun r => r.currency = text).map fun r => r.balance.toInt).foldr (· + ·) 0

/-- The currency and total of the accounts stored under a currency text. -/
def group (accounts : List AccountRow) (text : String) : Except Error (Currency × Int64) := do
  let currency ← (readCurrency text).mapError .database
  match toInt64? (sumOf accounts text) with
  | some total => return (currency, total)
  | none => .error (.database .outOfRange)

/-- The total of each currency that some account holds, in the order of
currencies. -/
def totals (db : Database) : Except Error (List (Currency × Int64)) := do
  db.requireTable Migration.accountTable
  let groups ← (currencyTexts db.rows.accounts).mapM (group db.rows.accounts)
  return Currency.all.filterMap fun c => groups.reverse.find? fun g => g.1 = c

end Database

end DoubleEntry
