/-
DoubleEntry/Store/Snapshot.lean

A ledger database as JSON, for the file in which it is kept.  Every row is
an object with the columns of its table, just as they are stored.
-/
import DoubleEntry.Migration.Codec
import DoubleEntry.Store.Database

namespace DoubleEntry

open DoubleEntry.Json

/-! ### Rows -/

/-- A row of an account as JSON. -/
def AccountRow.toJson (r : AccountRow) : Json :=
  .object
    [("id", .ofInt64 r.id), ("owner", .string r.owner), ("balance", .ofInt64 r.balance),
      ("currency", .string r.currency), ("created_at", .string r.createdAt)]

/-- Reads the row of an account. -/
def AccountRow.ofWritten? (w : Written) : Option AccountRow :=
  match w.fields? Migration.accountTable.columnNames with
  | some [id, owner, balance, currency, createdAt] => do
      return {
        id := ← required Written.int64? id
        owner := ← required Written.string? owner
        balance := ← required Written.int64? balance
        currency := ← required Written.string? currency
        createdAt := ← required Written.string? createdAt }
  | _ => none

/-- A row of an entry as JSON. -/
def EntryRow.toJson (r : EntryRow) : Json :=
  .object
    [("id", .ofInt64 r.id), ("account_id", .ofInt64 r.accountId), ("amount", .ofInt64 r.amount),
      ("created_at", .string r.createdAt)]

/-- Reads the row of an entry. -/
def EntryRow.ofWritten? (w : Written) : Option EntryRow :=
  match w.fields? Migration.entryTable.columnNames with
  | some [id, accountId, amount, createdAt] => do
      return {
        id := ← required Written.int64? id
        accountId := ← required Written.int64? accountId
        amount := ← required Written.int64? amount
        createdAt := ← required Written.string? createdAt }
  | _ => none

/-- A row of a transfer as JSON. -/
def TransferRow.toJson (r : TransferRow) : Json :=
  .object
    [("id", .ofInt64 r.id), ("from_account_id", .ofInt64 r.fromId),
      ("to_account_id", .ofInt64 r.toId), ("amount", .ofInt64 r.amount),
      ("created_at", .string r.createdAt)]

/-- Reads the row of a transfer. -/
def TransferRow.ofWritten? (w : Written) : Option TransferRow :=
  match w.fields? Migration.transferTable.columnNames with
  | some [id, fromId, toId, amount, createdAt] => do
      return {
        id := ← required Written.int64? id
        fromId := ← required Written.int64? fromId
        toId := ← required Written.int64? toId
        amount := ← required Written.int64? amount
        createdAt := ← required Written.string? createdAt }
  | _ => none

/-- A row of a user as JSON. -/
def UserRow.toJson (r : UserRow) : Json :=
  .object
    [("username", .string r.username), ("full_name", .string r.fullName),
      ("email", .string r.email), ("is_email_verified", .bool r.isEmailVerified),
      ("created_at", .string r.createdAt)]

/-- Reads the row of a user. -/
def UserRow.ofWritten? (w : Written) : Option UserRow :=
  match w.fields? Migration.userTable.columnNames with
  | some [username, fullName, email, isEmailVerified, createdAt] => do
      return {
        username := ← required Written.string? username
        fullName := ← required Written.string? fullName
        email := ← required Written.string? email
        isEmailVerified := ← required Written.bool? isEmailVerified
        createdAt := ← required Written.string? createdAt }
  | _ => none

/-- A row of a verification as JSON. -/
def VerificationRow.toJson (r : VerificationRow) : Json :=
  .object
    [("id", .ofInt64 r.id), ("username", .string r.username), ("email", .string r.email),
      ("secret_code", .string r.secretCode), ("is_used", .bool r.isUsed),
      ("created_at", .string r.createdAt), ("expired_at", .string r.expiredAt)]

/-- Reads the row of a verification. -/
def VerificationRow.ofWritten? (w : Written) : Option VerificationRow :=
  match w.fields? Migration.verificationTable.columnNames with
  | some [id, username, email, secretCode, isUsed, createdAt, expiredAt] => do
      return {
        id := ← required Written.int64? id
        username := ← required Written.string? username
        email := ← required Written.string? email
        secretCode := ← required Written.string? secretCode
        isUsed := ← required Written.bool? isUsed
        createdAt := ← required Written.string? createdAt
        expiredAt := ← required Written.string? expiredAt }
  | _ => none

/-! ### Databases -/

/-- Sequences as JSON. -/
def Sequences.toJson (s : Sequences) : Json :=
  .array [.ofNat s.account, .ofNat s.entry, .ofNat s.transfer, .ofNat s.verification]

/-- Reads sequences. -/
def Sequences.ofWritten? (w : Written) : Option Sequences := do
  match ← w.list? Written.uint64? with
  | [account, entry, transfer, verification] =>
      return {
        account := account.toNat
        entry := entry.toNat
        transfer := transfer.toNat
        verification := verification.toNat }
  | _ => none

namespace Database

/-- The parts of a database: the names of the tables, and the rest. -/
def fieldNames : List String :=
  ["catalog", "sequences"]
    ++ [Migration.accountTable, Migration.entryTable, Migration.transferTable,
        Migration.userTable, Migration.verificationTable].map Table.name

/-- A database as JSON. -/
def toJson (db : Database) : Json :=
  .object <| fieldNames.zip
    [ db.catalog.toJson, db.sequences.toJson,
      .array (db.rows.accounts.map AccountRow.toJson),
      .array (db.rows.entries.map EntryRow.toJson),
      .array (db.rows.transfers.map TransferRow.toJson),
      .array (db.rows.users.map UserRow.toJson),
      .array (db.rows.verifications.map VerificationRow.toJson) ]

/-- Reads a database. -/
def ofWritten? (w : Written) : Option Database :=
  match w.fields? fieldNames with
  | some [catalog, sequences, accounts, entries, transfers, users, verifications] => do
      return {
        catalog := ← required Catalog.ofWritten? catalog
        sequences := ← required Sequences.ofWritten? sequences
        rows := {
          accounts := ← required (Written.list? AccountRow.ofWritten?) accounts
          entries := ← required (Written.list? EntryRow.ofWritten?) entries
          transfers := ← required (Written.list? TransferRow.ofWritten?) transfers
          users := ← required (Written.list? UserRow.ofWritten?) users
          verifications := ← required (Written.list? VerificationRow.ofWritten?) verifications } }
  | _ => none

end Database

end DoubleEntry
