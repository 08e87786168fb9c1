/-
DoubleEntry/Record/Basic.lean

The records of the ledger: accounts, the signed entries against them,
transfers, users, and the verifications of their email addresses; and what
an operation that changes several of them gives back.
-/
import DoubleEntry.Money.Currency
import DoubleEntry.Time.Instant

namespace DoubleEntry

/-! ### Stored records -/

/-- A holder of a balance, in minor units of one currency. -/
structure Account where
  id : Int64
  owner : String
  balance : Int64
  currency : Currency
  createdAt : Instant
  deriving DecidableEq, Repr

/-- One movement of money against one account: a debit if negative. -/
structure Entry where
  id : Int64
  accountId : Int64
  amount : Int64
  createdAt : Instant
  deriving DecidableEq, Repr

/-- A movement of money from one account to another. -/
structure Transfer where
  id : Int64
  fromId : Int64
  toId : Int64
  amount : Int64
  createdAt : Instant
  deriving DecidableEq, Repr

/-- A registered user. -/
structure User where
  username : String
  fullName : String
  email : String
  isEmailVerified : Bool
  createdAt : Instant
  deriving DecidableEq, Repr

/-- A one-time code for an email address. -/
structure Verification where
  id : Int64
  username : String
  email : String
  secretCode : String
  isUsed : Bool
  createdAt : Instant
  expiredAt : Instant
  deriving DecidableEq, Repr

/-! ### Requests and receipts -/

/-- A transfer that is asked for. -/
structure TransferRequest where
  fromId : Int64
  toId : Int64
  amount : Int64
  deriving DecidableEq, Repr

/-- All that a transfer wrote, with the accounts as it left them. -/
structure TransferReceipt where
  transfer : Transfer
  fromEntry : Entry
  toEntry : Entry
  fromAccount : Account
  toAccount : Account
  deriving DecidableEq, Repr

/-- What an adjustment of a balance wrote. -/
structure AdjustmentReceipt where
  entry : Entry
  account : Account
  deriving DecidableEq, Repr

/-- Both records that a confirmed code changed. -/
structure VerificationReceipt where
  user : User
  verification : Verification
  deriving DecidableEq, Repr

/-! ### Facts about records -/

/-- Whether an entry takes money out of its account. -/
def Entry.isDebit (e : Entry) : Bool :=
  e.amount.toInt < 0

/-- Whether a code is no longer valid at an instant: from its expiry on. -/
def Verification.isExpiredAt (v : Verification) (now : Instant) : Bool :=
  !now.before v.expiredAt

end DoubleEntry
