/-
DoubleEntry/Ledger/Transfers.lean

Moving money.  A transfer is one unit of work: the transfer, a debit, a
credit, and two additions to balances.

Balances are always changed in the order of the account ids, whatever the
direction of the transfer, so that two transfers over the same accounts wait
for one another instead of waiting in a circle.
-/
import DoubleEntry.Record.Rules
import DoubleEntry.Store.Work

namespace DoubleEntry.Ledger

/-! ### Units of work -/

/-- Two account ids in the order in which they are changed. -/
def lockOrder (a b : Int64) : Int64 × Int64 :=
  if a.toInt ≤ b.toInt then (a, b) else (b, a)

/-- Adds to two balances, the lower id first; gives the accounts in the
order of the arguments. -/
def addMoney (id₁ amount₁ id₂ amount₂ : Int64) : Work (Account × Account) :=
  if (lockOrder id₁ id₂).1 = id₁ then do
    let account₁ ← Work.query (.addBalance id₁ amount₁)
    let account₂ ← Work.query (.addBalance id₂ amount₂)
    return (account₁, account₂)
  else do
    let account₂ ← Work.query (.addBalance id₂ amount₂)
    let account₁ ← Work.query (.addBalance id₁ amount₁)
    return (account₁, account₂)

/-- The unit of work of a transfer. -/
def transferWork (r : TransferRequest) : Work TransferReceipt := do
  Work.check r.validate
  let transfer ← Work.query (.createTransfer r)
  let fromEntry ← Work.query (.createEntry r.fromId (-r.amount))
  let toEntry ← Work.query (.createEntry r.toId r.amount)
  let (fromAccount, toAccount) ← addMoney r.fromId (-r.amount) r.toId r.amount
  return { transfer, fromEntry, toEntry, fromAccount, toAccount }

/-! ### Operations -/

/-- Carries out a transfer unless the token is cancelled. -/
def transferFundsWith (env : Surroundings) (token : CancelToken) (r : TransferRequest)
    (db : Database) : Ran TransferReceipt :=
  (transferWork r).execute env token db

/-- Carries out a transfer. -/
def transferFunds (env : Surroundings) (r : TransferRequest) (db : Database) :
    Ran TransferReceipt :=
  transferFundsWith env {} r db

/-- Looks up a transfer. -/
def getTransfer (env : Surroundings) (id : Int64) (db : Database) : Ran Transfer :=
  submit (env.clock 0) (.transfer id) db

/-- Looks up an entry. -/
def getEntry (env : Surroundings) (id : Int64) (db : Database) : Ran Entry :=
  submit (env.clock 0) (.entry id) db

/-- The queries for a page of rows that belong to an account, which has to
exist. -/
def pageWork (accountId : Int64) (page : Page) (q : Query) : Work q.Answer := do
  Work.check (checkPage page.limit page.offset)
  let _ ← Work.query (.account accountId)
  Work.query q

/-- The transfers into or out of an account. -/
def listTransfers (env : Surroundings) (accountId : Int64) (page : Page) (db : Database) :
    Ran (List Transfer) :=
  (pageWork accountId page (.transfers accountId page)).submitEach env.clock db

/-- The entries of an account. -/
def listEntries (env : Surroundings) (accountId : Int64) (page : Page) (db : Database) :
    Ran (List Entry) :=
  (pageWork accountId page (.entries accountId page)).submitEach env.clock db

end DoubleEntry.Ledger
