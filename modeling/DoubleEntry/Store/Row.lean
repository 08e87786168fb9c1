/-
DoubleEntry/Store/Row.lean

The rows of the ledger's tables.  A row holds currencies and instants as
text; reading a row back into a record fails when such a text cannot be
read.
-/
import DoubleEntry.Record.Basic
import DoubleEntry.Time.Rfc3339

namespace DoubleEntry

/-! ### Rows -/

/-- A row of the table of accounts. -/
structure AccountRow where
  id : Int64
  owner : String
  balance : Int64
  currency : String
  createdAt : String
  deriving DecidableEq, Repr

/-- A row of the table of entries. -/
structure EntryRow where
  id : Int64
  accountId : Int64
  amount : Int64
  createdAt : String
  deriving DecidableEq, Repr

/-- A row of the table of transfers. -/
structure TransferRow where
  id : Int64
  fromId : Int64
  toId : Int64
  amount : Int64
  createdAt : String
  deriving DecidableEq, Repr

/-- A row of the table of users. -/
structure UserRow where
  username : String
  fullName : String
  email : String
  isEmailVerified : Bool
  createdAt : String
  deriving DecidableEq, Repr

/-- A row of the table of verifications. -/
structure VerificationRow where
  id : Int64
  username : String
  email : String
  secretCode : String
  isUsed : Bool
  createdAt : String
  expiredAt : String
  deriving DecidableEq, Repr

/-! ### Reading rows back -/

/-- Reads a stored instant. -/
def readInstant (column text : String) : Except Fault Instant :=
  match Instant.read? text with
  | some t => .ok t
  | none => .error (.undecodable column)

/-- Reads a stored currency. -/
def readCurrency (text : String) : Except Fault Currency :=
  match Currency.parse text with
  | .ok c => .ok c
  | .error _ => .error (.undecodable "currency")

/-- Reads an account. -/
def AccountRow.read (r : AccountRow) : Except Fault Account := do
  return {
    id := r.id
    owner := r.owner
    balance := r.balance
    currency := ← readCurrency r.currency
    createdAt := ← readInstant "created_at" r.createdAt }

/-- Reads an entry. -/
def EntryRow.read (r : EntryRow) : Except Fault Entry := do
  return {
    id := r.id
    accountId := r.accountId
    amount := r.amount
    createdAt := ← readInstant "created_at" r.createdAt }

/-- Reads a transfer. -/
def TransferRow.read (r : TransferRow) : Except Fault Transfer := do
  return {
    id := r.id
    fromId := r.fromId
    toId := r.toId
    amount := r.amount
    createdAt := ← readInstant "created_at" r.createdAt }

/-- Reads a user. -/
def UserRow.read (r : UserRow) : Except Fault User := do
  return {
    username := r.username
    fullName := r.fullName
    email := r.email
    isEmailVerified := r.isEmailVerified
    createdAt := ← readInstant "created_at" r.createdAt }

/-- Reads a verification. -/
def VerificationRow.read (r : VerificationRow) : Except Fault Verification := do
  return {
    id := r.id
    username := r.username
    email := r.email
    secretCode := r.secretCode
    isUsed := r.isUsed
    createdAt := ← readInstant "created_at" r.createdAt
    expiredAt := ← readInstant "expired_at" r.expiredAt }

end DoubleEntry
