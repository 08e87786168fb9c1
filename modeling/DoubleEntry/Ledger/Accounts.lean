/-
DoubleEntry/Ledger/Accounts.lean

Opening, listing, closing and adjusting accounts.
-/
import DoubleEntry.Ledger.Transfers

namespace DoubleEntry.Ledger

open DoubleEntry.Text

/-! ### Opening and looking up -/

/-- The owner and the currency of an account that is to be opened: the name
without the blanks around it, and a currency by its code. -/
def checkOpening (owner currency : String) : Except Error (String × Currency) := do
  ensure (!allBlank owner) .blankOwner
  let currency ← Currency.parse currency
  return (trim owner, currency)

/-- Opens an account. -/
def openAccount (env : Surroundings) (owner : String) (balance : Int64) (currency : String)
    (db : Database) : Ran Account :=
  match checkOpening owner currency with
  | .ok (owner, currency) => submit (env.clock 0) (.createAccount owner balance currency) db
  | .error e => { outcome := .error e, db }

/-- Looks up an account. -/
def getAccount (env : Surroundings) (id : Int64) (db : Database) : Ran Account :=
  submit (env.clock 0) (.account id) db

/-- The accounts, all or those of one owner. -/
def listAccounts (env : Surroundings) (owner : Option String) (page : Page) (db : Database) :
    Ran (List Account) :=
  match checkPage page.limit page.offset with
  | .ok () => submit (env.clock 0) (.accounts owner page) db
  | .error e => { outcome := .error e, db }

/-! ### Closing -/

/-- The unit of work that closes an account: no entry may refer to it. -/
def closeWork (id : Int64) : Work Unit := do
  let _ ← Work.query (.accountForUpdate id)
  let entries ← Work.query (.entries id { limit := 1, offset := 0 })
  Work.check (ensure entries.isEmpty (.accountInUse id))
  Work.query (.deleteAccount id)

/-- Closes an account. -/
def closeAccount (env : Surroundings) (id : Int64) (db : Database) : Ran Unit :=
  (closeWork id).execute env {} db

/-! ### Adjusting -/

/-- The unit of work of an adjustment: an entry and the same addition to the
balance. -/
def adjustWork (id amount : Int64) : Work AdjustmentReceipt := do
  let _ ← Work.query (.accountForUpdate id)
  let entry ← Work.query (.createEntry id amount)
  let account ← Work.query (.addBalance id amount)
  return { entry, account }

/-- Credits or debits an account by itself. -/
def adjustBalance (env : Surroundings) (id amount : Int64) (db : Database) :
    Ran AdjustmentReceipt :=
  match ensure (amount ≠ 0) .zeroAdjustment with
  | .ok () => (adjustWork id amount).execute env {} db
  | .error e => { outcome := .error e, db }

end DoubleEntry.Ledger
