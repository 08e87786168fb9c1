/-
DoubleEntry/Record/Codec.lean

Records as JSON.  A record is an object with its fields in a fixed order;
instants are texts in UTC, currencies are their codes.
-/
import DoubleEntry.Json.Record
import DoubleEntry.Record.Basic
import DoubleEntry.Time.Rfc3339

namespace DoubleEntry

open DoubleEntry.Json

/-! ### Fields -/

/-- Reads an instant. -/
def Instant.ofWritten? (w : Written) : Option Instant :=
  w.string?.bind Instant.readLoosely?

/-- An instant as JSON. -/
def Instant.toJson (t : Instant) : Json :=
  .string t.text

/-- Reads a currency: its code and nothing else. -/
def Currency.ofWritten? (w : Written) : Option Currency :=
  w.name?.bind Currency.ofCode?

/-- A currency as JSON. -/
def Currency.toJson (c : Currency) : Json :=
  .string c.code

/-! ### Accounts -/

/-- The fields of an account. -/
def Account.fieldNames : List String :=
  ["id", "owner", "balance", "currency", "created_at"]

/-- An account as JSON. -/
def Account.toJson (a : Account) : Json :=
  .object
    [("id", .ofInt64 a.id), ("owner", .string a.owner), ("balance", .ofInt64 a.balance),
      ("currency", a.currency.toJson), ("created_at", a.createdAt.toJson)]

/-- Reads an account. -/
def Account.ofWritten? (w : Written) : Option Account :=
  match w.fields? fieldNames with
  | some [id, owner, balance, currency, createdAt] => do
      return {
        id := ← required Written.int64? id
        owner := ← required Written.string? owner
        balance := ← required Written.int64? balance
        currency := ← required Currency.ofWritten? currency
        createdAt := ← required Instant.ofWritten? createdAt }
  | _ => none

/-! ### Entries -/

/-- The fields of an entry. -/
def Entry.fieldNames : List String :=
  ["id", "account_id", "amount", "created_at"]

/-- An entry as JSON. -/
def Entry.toJson (e : Entry) : Json :=
  .object
    [("id", .ofInt64 e.id), ("account_id", .ofInt64 e.accountId), ("amount", .ofInt64 e.amount),
      ("created_at", e.createdAt.toJson)]

/-- Reads an entry. -/
def Entry.ofWritten? (w : Written) : Option Entry :=
  match w.fields? fieldNames with
  | some [id, accountId, amount, createdAt] => do
      return {
        id := ← required Written.int64? id
        accountId := ← required Written.int64? accountId
        amount := ← required Written.int64? amount
        createdAt := ← required Instant.ofWritten? createdAt }
  | _ => none

/-! ### Transfers -/

/-- The fields of a transfer. -/
def Transfer.fieldNames : List String :=
  ["id", "from_account_id", "to_account_id", "amount", "created_at"]

/-- A transfer as JSON. -/
def Transfer.toJson (t : Transfer) : Json :=
  .object
    [("id", .ofInt64 t.id), ("from_account_id", .ofInt64 t.fromId),
      ("to_account_id", .ofInt64 t.toId), ("amount", .ofInt64 t.amount),
      ("created_at", t.createdAt.toJson)]

/-- Reads a transfer. -/
def Transfer.ofWritten? (w : Written) : Option Transfer :=
  match w.fields? fieldNames with
  | some [id, fromId, toId, amount, createdAt] => do
      return {
        id := ← required Written.int64? id
        fromId := ← required Written.int64? fromId
        toId := ← required Written.int64? toId
        amount := ← required Written.int64? amount
        createdAt := ← required Instant.ofWritten? createdAt }
  | _ => none

/-- The fields of a request. -/
def TransferRequest.fieldNames : List String :=
  ["from_account_id", "to_account_id", "amount"]

/-- A request as JSON. -/
def TransferRequest.toJson (r : TransferRequest) : Json :=
  .object
    [("from_account_id", .ofInt64 r.fromId), ("to_account_id", .ofInt64 r.toId),
      ("amount", .ofInt64 r.amount)]

/-- Reads a request. -/
def TransferRequest.ofWritten? (w : Written) : Option TransferRequest :=
  match w.fields? fieldNames with
  | some [fromId, toId, amount] => do
      return {
        fromId := ← required Written.int64? fromId
        toId := ← required Written.int64? toId
        amount := ← required Written.int64? amount }
  | _ => none

/-- The fields of the receipt of a transfer. -/
def TransferReceipt.fieldNames : List String :=
  ["transfer", "from_entry", "to_entry", "from_account", "to_account"]

/-- The receipt of a transfer as JSON. -/
def TransferReceipt.toJson (r : TransferReceipt) : Json :=
  .object
    [("transfer", r.transfer.toJson), ("from_entry", r.fromEntry.toJson),
      ("to_entry", r.toEntry.toJson), ("from_account", r.fromAccount.toJson),
      ("to_account", r.toAccount.toJson)]

/-- Reads the receipt of a transfer. -/
def TransferReceipt.ofWritten? (w : Written) : Option TransferReceipt :=
  match w.fields? fieldNames with
  | some [transfer, fromEntry, toEntry, fromAccount, toAccount] => do
      return {
        transfer := ← required Transfer.ofWritten? transfer
        fromEntry := ← required Entry.ofWritten? fromEntry
        toEntry := ← required Entry.ofWritten? toEntry
        fromAccount := ← required Account.ofWritten? fromAccount
        toAccount := ← required Account.ofWritten? toAccount }
  | _ => none

/-! ### Adjustments -/

/-- The fields of the receipt of an adjustment. -/
def AdjustmentReceipt.fieldNames : List String :=
  ["entry", "account"]

/-- The receipt of an adjustment as JSON. -/
def AdjustmentReceipt.toJson (r : AdjustmentReceipt) : Json :=
  .object [("entry", r.entry.toJson), ("account", r.account.toJson)]

/-- Reads the receipt of an adjustment. -/
def AdjustmentReceipt.ofWritten? (w : Written) : Option AdjustmentReceipt :=
  match w.fields? fieldNames with
  | some [entry, account] => do
      return {
        entry := ← required Entry.ofWritten? entry
        account := ← required Account.ofWritten? account }
  | _ => none

/-! ### Users -/

/-- The fields of a user. -/
def User.fieldNames : List String :=
  ["username", "full_name", "email", "is_email_verified", "created_at"]

/-- A user as JSON. -/
def User.toJson (u : User) : Json :=
  .object
    [("username", .string u.username), ("full_name", .string u.fullName),
      ("email", .string u.email), ("is_email_verified", .bool u.isEmailVerified),
      ("created_at", u.createdAt.toJson)]

/-- Reads a user. -/
def User.ofWritten? (w : Written) : Option User :=
  match w.fields? fieldNames with
  | some [username, fullName, email, isEmailVerified, createdAt] => do
      return {
        username := ← required Written.string? username
        fullName := ← required Written.string? fullName
        email := ← required Written.string? email
        isEmailVerified := ← required Written.bool? isEmailVerified
        createdAt := ← required Instant.ofWritten? createdAt }
  | _ => none

/-! ### Verifications -/

/-- The fields of a verification. -/
def Verification.fieldNames : List String :=
  ["id", "username", "email", "secret_code", "is_used", "created_at", "expired_at"]

/-- A verification as JSON. -/
def Verification.toJson (v : Verification) : Json :=
  .object
    [("id", .ofInt64 v.id), ("username", .string v.username), ("email", .string v.email),
      ("secret_code", .string v.secretCode), ("is_used", .bool v.isUsed),
      ("created_at", v.createdAt.toJson), ("expired_at", v.expiredAt.toJson)]

/-- Reads a verification. -/
def Verification.ofWritten? (w : Written) : Option Verification :=
  match w.fields? fieldNames with
  | some [id, username, email, secretCode, isUsed, createdAt, expiredAt] => do
      return {
        id := ← required Written.int64? id
        username := ← required Written.string? username
        email := ← required Written.string? email
        secretCode := ← required Written.string? secretCode
        isUsed := ← required Written.bool? isUsed
        createdAt := ← required Instant.ofWritten? createdAt
        expiredAt := ← required Instant.ofWritten? expiredAt }
  | _ => none

/-- The fields of the receipt of a verification. -/
def VerificationReceipt.fieldNames : List String :=
  ["user", "verify_email"]

/-- The receipt of a verification as JSON. -/
def VerificationReceipt.toJson (r : VerificationReceipt) : Json :=
  .object [("user", r.user.toJson), ("verify_email", r.verification.toJson)]

/-- Reads the receipt of a verification. -/
def VerificationReceipt.ofWritten? (w : Written) : Option VerificationReceipt :=
  match w.fields? fieldNames with
  | some [user, verification] => do
      return {
        user := ← required User.ofWritten? user
        verification := ← required Verification.ofWritten? verification }
  | _ => none

end DoubleEntry
