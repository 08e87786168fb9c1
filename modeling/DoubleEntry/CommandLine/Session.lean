/-
DoubleEntry/CommandLine/Session.lean

The commands on the ledger.  Each is an action on the database that ends
with the text to print.

A record is printed as JSON or as text for a terminal.  Text may need more
from the ledger than the record has: transfers and entries do not say in
which currency they are, so that one of their accounts is looked up.
-/
import DoubleEntry.CommandLine.Action
import DoubleEntry.CommandLine.Command
import DoubleEntry.CommandLine.Presentation
import DoubleEntry.Json.Printer
import DoubleEntry.Ledger.Accounts
import DoubleEntry.Ledger.Verifications
import DoubleEntry.Text.Blank

namespace DoubleEntry.CommandLine

open DoubleEntry.Text DoubleEntry.CommandLine.Action

/-- A run of one command on an open ledger. -/
structure Session where
  json : Bool
  color : Bool
  reply : Option Bool
  env : Surroundings
  /-- The size of a page where none is given. -/
  pageSize : Int64
  /-- How long codes are valid. -/
  lifetime : Duration
  /-- The next code to be issued. -/
  secretCode : String

/-! ### Printing -/

/-- JSON as it is printed. -/
def jsonText (j : Json) : String :=
  lines [j.pretty]

/-- JSON or text, whichever is wanted. -/
def present {σ : Type} (json : Bool) (j : Json) (text : Action σ String) : Action σ String :=
  if json then pure (jsonText j) else text

/-- A list as JSON, or as text that says so when it is empty. -/
def presentList {σ α : Type} (json color : Bool) (toJson : α → Json) (none : String)
    (items : List α) (text : Action σ String) : Action σ String :=
  present json (.array (items.map toJson)) <|
    if items.isEmpty then pure (infoLine color none) else text

/-- What was deleted, as JSON. -/
def deletedJson (what : Json) : Json :=
  .object [("deleted", what)]

/-- What is printed when a question was answered in the negative. -/
def cancelledText : String :=
  lines ["Cancelled."]

namespace Session

variable (s : Session)

/-- A page: its size as given or the usual one. -/
def page (limit : Option Int64) (offset : Int64) : Page :=
  { limit := limit.getD s.pageSize, offset }

/-- The currency of an account. -/
def currencyOf (accountId : Int64) : Action Database Currency := do
  return (← perform (Ledger.getAccount s.env accountId)).currency

/-! ### Accounts -/

/-- Closes an account, once that has been confirmed. -/
def closeAccount (id : Int64) (force : Bool) : Action Database String := do
  let a ← perform (Ledger.getAccount s.env id)
  let question := "Close account " ++ int64Text a.id ++ " (" ++ a.owner ++ ")?"
  if ← confirm (force || s.json) s.reply question then
    perform (Ledger.closeAccount s.env id)
    present s.json (deletedJson (.ofInt64 id))
      (pure (successLine s.color ("Closed account " ++ int64Text id)))
  else return cancelledText

/-- The commands about accounts. -/
def runAccount : AccountCommand → Action Database String
  | .openNew owner currency balance => do
      let a ← perform (Ledger.openAccount s.env owner balance currency)
      present s.json a.toJson (pure (openedText s.color a))
  | .info id => do
      let a ← perform (Ledger.getAccount s.env id)
      present s.json a.toJson (pure (accountTable [a]))
  | .list owner limit offset => do
      let as ← perform (Ledger.listAccounts s.env owner (s.page limit offset))
      presentList s.json s.color Account.toJson "No accounts found." as (pure (accountTable as))
  | .close id force => s.closeAccount id force
  | .adjust id amount => do
      let r ← perform (Ledger.adjustBalance s.env id amount)
      present s.json r.toJson (pure (adjustedText s.color r))

/-! ### Transfers and entries -/

/-- The commands about transfers. -/
def runTransfer : TransferCommand → Action Database String
  | .send fromId toId amount => do
      let r ← perform (Ledger.transferFunds s.env { fromId, toId, amount })
      present s.json r.toJson (pure (sentText s.color r))
  | .info id => do
      let t ← perform (Ledger.getTransfer s.env id)
      present s.json t.toJson do
        return transferTable s.color none (← s.currencyOf t.fromId) [t]
  | .list accountId limit offset => do
      let ts ← perform (Ledger.listTransfers s.env accountId (s.page limit offset))
      presentList s.json s.color Transfer.toJson "No transfers found." ts do
        return transferTable s.color (some accountId) (← s.currencyOf accountId) ts

/-- The commands about entries. -/
def runEntry : EntryCommand → Action Database String
  | .info id => do
      let e ← perform (Ledger.getEntry s.env id)
      present s.json e.toJson do
        return entryTable s.color (← s.currencyOf e.accountId) [e]
  | .list accountId limit offset => do
      let es ← perform (Ledger.listEntries s.env accountId (s.page limit offset))
      presentList s.json s.color Entry.toJson "No entries found." es do
        return entryTable s.color (← s.currencyOf accountId) es

/-! ### Users and verifications -/

/-- The commands about users. -/
def runUser : UserCommand → Action Database String
  | .register username fullName email => do
      let u ← perform (Ledger.createUser s.env username fullName email)
      present s.json u.toJson (pure (registeredText s.color u))
  | .info username => do
      let u ← perform (Ledger.getUser s.env username)
      present s.json u.toJson (pure (userTable s.color u))

/-- The commands about verifications.  Blanks around a code do not count. -/
def runVerify : VerifyCommand → Action Database String
  | .request username => do
      let v ← perform (Ledger.requestVerification s.env s.lifetime username s.secretCode)
      present s.json v.toJson (pure (issuedText s.color v))
  | .confirm id secretCode => do
      let r ← perform (Ledger.verifyEmail s.env id (trim secretCode))
      present s.json r.toJson (pure (confirmedText s.color r))

/-! ### Status -/

/-- The command that shows the status of the ledger. -/
def runStatus : Action Database String := do
  let status ← look LedgerStatus.of
  present s.json status.toJson (pure (statusText s.color status))

end Session

end DoubleEntry.CommandLine
