/-
DoubleEntry/Store/Query.lean

The queries that the store answers, each with the type of its answer.
-/
import DoubleEntry.Record.Basic

namespace DoubleEntry

/-- A part of a list: at most `limit` rows from row number `offset` on. -/
structure Page where
  limit : Int64
  offset : Int64
  deriving DecidableEq, Repr

/-- A query to the store. -/
inductive Query where
  | createAccount (owner : String) (balance : Int64) (currency : Currency)
  | account (id : Int64)
  /-- The account, which no other transaction changes until this one ends. -/
  | accountForUpdate (id : Int64)
  /-- Adds to a balance. -/
  | addBalance (id amount : Int64)
  /-- The accounts in the order of their ids, all or those of one owner. -/
  | accounts (owner : Option String) (page : Page)
  | deleteAccount (id : Int64)
  | createEntry (accountId amount : Int64)
  | entry (id : Int64)
  | entries (accountId : Int64) (page : Page)
  | createTransfer (request : TransferRequest)
  | transfer (id : Int64)
  /-- The transfers into or out of an account. -/
  | transfers (accountId : Int64) (page : Page)
  | createUser (username fullName email : String)
  | user (username : String)
  /-- Sets the fields that are given and keeps the others. -/
  | updateUser (username : String) (fullName : Option String) (isEmailVerified : Option Bool)
  | createVerification (username email secretCode : String) (lifetime : Duration)
  | verification (id : Int64)
  | updateVerification (id : Int64) (isUsed : Bool)
  deriving DecidableEq, Repr

namespace Query

/-- What a query answers when it succeeds. -/
@[reducible] def Answer : Query → Type
  | createAccount .. | account .. | accountForUpdate .. | addBalance .. => Account
  | accounts .. => List Account
  | deleteAccount .. => Unit
  | createEntry .. | entry .. => Entry
  | entries .. => List Entry
  | createTransfer .. | transfer .. => Transfer
  | transfers .. => List Transfer
  | createUser .. | user .. | updateUser .. => User
  | createVerification .. | verification .. | updateVerification .. => Verification

/-- The name of a query. -/
def name : Query → String
  | createAccount .. => "create_account"
  | account .. => "get_account"
  | accountForUpdate .. => "get_account_for_update"
  | addBalance .. => "add_account_balance"
  | accounts .. => "list_accounts"
  | deleteAccount .. => "delete_account"
  | createEntry .. => "create_entry"
  | entry .. => "get_entry"
  | entries .. => "list_entries"
  | createTransfer .. => "create_transfer"
  | transfer .. => "get_transfer"
  | transfers .. => "list_transfers"
  | createUser .. => "create_user"
  | user .. => "get_user"
  | updateUser .. => "update_user"
  | createVerification .. => "create_verify_email"
  | verification .. => "get_verify_email"
  | updateVerification .. => "update_verify_email"

/-- The id that tells apart queries of one name: of the row asked for, or of
the account that rows belong to. -/
def subject? : Query → Option Int64
  | account id | accountForUpdate id | addBalance id _ | deleteAccount id => some id
  | createEntry id _ | entry id | entries id _ => some id
  | transfer id | transfers id _ => some id
  | verification id | updateVerification id _ => some id
  | createAccount .. | accounts .. | createTransfer .. | createUser .. | user .. | updateUser .. =>
      none
  | createVerification .. => none

end Query

end DoubleEntry
