/-
DoubleEntry/Migration/Schema.lean

The migrations of the ledger database and of the event log.
-/
import DoubleEntry.Migration.Run

namespace DoubleEntry.Migration

/-! ### Tables -/

/-- A column that makes up the key. -/
def keyColumn (name : String) (type : ColumnType) : Column :=
  { name, type, isRequired := true, isUnique := true }

/-- A key that is drawn from a sequence. -/
def drawnColumn (name sequence : String) : Column :=
  { keyColumn name .bigint with default := .nextOf sequence }

/-- A column that has to have a value. -/
def requiredColumn (name : String) (type : ColumnType) : Column :=
  { name, type, isRequired := true }

/-- A truth value that is false unless another is given. -/
def flagColumn (name : String) : Column :=
  { requiredColumn name .boolean with default := .value }

/-- The accounts. -/
def accountTable : Table :=
  { name := "accounts"
    columns :=
      [ drawnColumn "id" "seq_accounts",
        requiredColumn "owner" .varchar,
        requiredColumn "balance" .bigint,
        requiredColumn "currency" .varchar,
        requiredColumn "created_at" .varchar ] }

/-- The entries. -/
def entryTable : Table :=
  { name := "entries"
    columns :=
      [ drawnColumn "id" "seq_entries",
        requiredColumn "account_id" .bigint,
        requiredColumn "amount" .bigint,
        requiredColumn "created_at" .varchar ] }

/-- The transfers. -/
def transferTable : Table :=
  { name := "transfers"
    columns :=
      [ drawnColumn "id" "seq_transfers",
        requiredColumn "from_account_id" .bigint,
        requiredColumn "to_account_id" .bigint,
        requiredColumn "amount" .bigint,
        requiredColumn "created_at" .varchar ] }

/-- The users. -/
def userTable : Table :=
  { name := "users"
    columns :=
      [ keyColumn "username" .varchar,
        requiredColumn "full_name" .varchar,
        { requiredColumn "email" .varchar with isUnique := true },
        flagColumn "is_email_verified",
        requiredColumn "created_at" .varchar ] }

/-- The verifications of email addresses. -/
def verificationTable : Table :=
  { name := "verify_emails"
    columns :=
      [ drawnColumn "id" "seq_verify_emails",
        requiredColumn "username" .varchar,
        requiredColumn "email" .varchar,
        requiredColumn "secret_code" .varchar,
        flagColumn "is_used",
        requiredColumn "created_at" .varchar,
        requiredColumn "expired_at" .varchar ] }

/-- The entries of the event log. -/
def logTable : Table :=
  { name := "sys_logs"
    columns :=
      [ keyColumn "id" .ubigint,
        requiredColumn "timestamp" .bigint,
        requiredColumn "entry_point" .varchar,
        requiredColumn "app_version" .varchar,
        requiredColumn "platform" .varchar,
        requiredColumn "event" .varchar,
        { name := "command", type := .varchar },
        { name := "operation_id", type := .varchar },
        { name := "error_kind", type := .varchar },
        { name := "error_message", type := .varchar } ] }

/-! ### Lists -/

/-- The migration that creates the table of records. -/
def records : Migration :=
  { name := bootstrapName, statements := [.createIfAbsent recordTable] }

/-- The migrations of the ledger database. -/
def ledger : List Migration :=
  [ records,
    { name := "001_ledger_schema.sql"
      statements :=
        [ .createSequence "seq_accounts",
          .createSequence "seq_entries",
          .createSequence "seq_transfers",
          .createIfAbsent accountTable,
          .createIndex accountTable.name "owner",
          .createIfAbsent entryTable,
          .createIndex entryTable.name "account_id",
          .createIfAbsent transferTable,
          .createIndex transferTable.name "from_account_id",
          .createIndex transferTable.name "to_account_id" ] },
    { name := "002_email_verification.sql"
      statements :=
        [ .createSequence "seq_verify_emails",
          .createIfAbsent userTable,
          .createIfAbsent verificationTable ] } ]

/-- The migrations of the event log. -/
def eventLog : List Migration :=
  [ records,
    { name := "001_event_log.sql"
      statements := [.createIfAbsent logTable, .createIndex logTable.name "timestamp"] } ]

end DoubleEntry.Migration
