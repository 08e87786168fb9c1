/-
DoubleEntry/Store/Perform.lean

What each query does to the database and what it answers.

* An id is taken from its sequence before anything is checked, and is gone
  even when the row is then refused.
* Usernames and emails are unique, and the amount of a transfer is positive.
  A balance that leaves 64 bits, a negative limit or offset, and a missing
  table are failures of the database.
* A change is made before the changed row is read back, so that a row which
  cannot be read back has been changed all the same.

A failure that the database raised itself spoils the transaction it
happens in.  A row that is missing or cannot be read back does not.
-/
import DoubleEntry.Store.Database
import DoubleEntry.Store.Query
import DoubleEntry.Text.Decimal

namespace DoubleEntry

open DoubleEntry.Text

/-! ### Results of statements -/

/-- What a statement gave and what it left behind. -/
structure Performed (α : Type) where
  result : Except Error α
  db : Database
  /-- Whether the database itself failed. -/
  spoils : Bool

namespace Performed

/-- A failure of the database. -/
def refused {α : Type} (e : Error) (db : Database) : Performed α :=
  { result := .error e, db, spoils := true }

/-- A row that is not there. -/
def missing {α : Type} (what : Missing) (db : Database) : Performed α :=
  { result := .error (.notFound what), db, spoils := false }

/-- What was read from rows, or that they could not be read. -/
def reading {α : Type} (r : Except Fault α) (db : Database) : Performed α :=
  { result := r.mapError .database, db, spoils := false }

end Performed

open Performed

/-- Runs a statement on a table that has to be there. -/
def withTable {α : Type} (table : Table) (db : Database) (statement : Performed α) : Performed α :=
  if db.catalog.hasTable table.name then statement
  else refused (.database (.noSuchTable table.name)) db

/-- Reads the row that was looked up in a table. -/
def findRow {ρ α : Type} (table : Table) (row? : Option ρ) (read : ρ → Except Fault α)
    (what : Missing) (db : Database) : Performed α :=
  withTable table db <|
    match row? with
    | some row => reading (read row) db
    | none => missing what db

/-- The sum of two 64-bit integers, if it is one. -/
def checkedAdd (a b : Int64) : Option Int64 :=
  toInt64? (a.toInt + b.toInt)

/-- The rows of a page. -/
def Page.select {α : Type} (p : Page) (rows : List α) : List α :=
  (rows.drop p.offset.toInt.toNat).take p.limit.toInt.toNat

/-- Reads a page of rows. -/
def readPage {ρ α : Type} (read : ρ → Except Fault α) (p : Page) (rows : List ρ)
    (db : Database) : Performed (List α) :=
  if p.limit.toInt < 0 ∨ p.offset.toInt < 0 then refused (.database .badPage) db
  else reading ((p.select rows).mapM read) db

/-- Goes on with the id that comes after the last one given. -/
def withNextId {α : Type} (last : Nat) (db : Database) (statement : Int64 → Performed α) :
    Performed α :=
  (toInt64? (last + 1 : Nat)).elim (refused (.database .sequenceExhausted) db) statement

/-! ### Accounts -/

/-- Stores a new account. -/
def createAccount (now : Instant) (owner : String) (balance : Int64) (currency : Currency)
    (db : Database) : Performed Account :=
  withTable Migration.accountTable db <|
    withNextId db.sequences.account db fun id =>
      let row : AccountRow :=
        { id, owner, balance, currency := currency.code, createdAt := now.storedText }
      reading row.read
        { db with
          rows := { db.rows with accounts := db.rows.accounts ++ [row] }
          sequences := { db.sequences with account := db.sequences.account + 1 } }

/-- The row of an account. -/
def Rows.account? (rows : Rows) (id : Int64) : Option AccountRow :=
  rows.accounts.find? fun r => r.id = id

/-- Looks up an account. -/
def findAccount (id : Int64) (db : Database) : Performed Account :=
  findRow Migration.accountTable (db.rows.account? id) AccountRow.read (.account id) db

/-- Adds to the balance of an account. -/
def addBalance (id amount : Int64) (db : Database) : Performed Account :=
  withTable Migration.accountTable db <|
    match db.rows.account? id with
    | none => missing (.account id) db
    | some row =>
        match checkedAdd row.balance amount with
        | none => refused (.database .outOfRange) db
        | some balance =>
            let row := { row with balance }
            reading row.read
              (db.withRows
                { db.rows with
                  accounts := db.rows.accounts.map fun r => if r.id = id then row else r })

/-- The accounts, all or those of one owner. -/
def listAccounts (owner : Option String) (page : Page) (db : Database) :
    Performed (List Account) :=
  withTable Migration.accountTable db <|
    let rows :=
      match owner with
      | some o => db.rows.accounts.filter fun r => r.owner = o
      | none => db.rows.accounts
    readPage AccountRow.read page rows db

/-- Removes an account. -/
def deleteAccount (id : Int64) (db : Database) : Performed Unit :=
  withTable Migration.accountTable db <|
    match db.rows.account? id with
    | none => missing (.account id) db
    | some _ =>
        reading (.ok ())
          (db.withRows
            { db.rows with accounts := db.rows.accounts.filter fun r => r.id ≠ id })

/-! ### Entries -/

/-- Stores a new entry. -/
def createEntry (now : Instant) (accountId amount : Int64) (db : Database) : Performed Entry :=
  withTable Migration.entryTable db <|
    withNextId db.sequences.entry db fun id =>
      let row : EntryRow := { id, accountId, amount, createdAt := now.storedText }
      reading row.read
        { db with
          rows := { db.rows with entries := db.rows.entries ++ [row] }
          sequences := { db.sequences with entry := db.sequences.entry + 1 } }

/-- Looks up an entry. -/
def findEntry (id : Int64) (db : Database) : Performed Entry :=
  findRow Migration.entryTable (db.rows.entries.find? fun r => r.id = id) EntryRow.read (.entry id)
    db

/-- The entries of an account. -/
def listEntries (accountId : Int64) (page : Page) (db : Database) : Performed (List Entry) :=
  withTable Migration.entryTable db <|
    readPage EntryRow.read page (db.rows.entries.filter fun r => r.accountId = accountId) db

/-! ### Transfers -/

/-- Stores a new transfer. -/
def createTransfer (now : Instant) (t : TransferRequest) (db : Database) : Performed Transfer :=
  withTable Migration.transferTable db <|
    withNextId db.sequences.transfer db fun id =>
      let db :=
        { db with sequences := { db.sequences with transfer := db.sequences.transfer + 1 } }
      if 0 < t.amount.toInt then
        let row : TransferRow :=
          { id, fromId := t.fromId, toId := t.toId, amount := t.amount,
            createdAt := now.storedText }
        reading row.read (db.withRows { db.rows with transfers := db.rows.transfers ++ [row] })
      else refused (.constraint .checkFailed) db

/-- Looks up a transfer. -/
def findTransfer (id : Int64) (db : Database) : Performed Transfer :=
  findRow Migration.transferTable (db.rows.transfers.find? fun r => r.id = id) TransferRow.read
    (.transfer id) db

/-- The transfers into or out of an account. -/
def listTransfers (accountId : Int64) (page : Page) (db : Database) :
    Performed (List Transfer) :=
  withTable Migration.transferTable db <|
    readPage TransferRow.read page
      (db.rows.transfers.filter fun r => r.fromId = accountId || r.toId = accountId) db

/-! ### Users -/

/-- Stores a new user. -/
def createUser (now : Instant) (username fullName email : String) (db : Database) :
    Performed User :=
  withTable Migration.userTable db <|
    if db.rows.users.any fun r => r.username = username || r.email = email then
      refused (.constraint .duplicateKey) db
    else
      let row : UserRow :=
        { username, fullName, email, isEmailVerified := false, createdAt := now.storedText }
      reading row.read (db.withRows { db.rows with users := db.rows.users ++ [row] })

/-- The row of a user. -/
def Rows.user? (rows : Rows) (username : String) : Option UserRow :=
  rows.users.find? fun r => r.username = username

/-- Looks up a user. -/
def findUser (username : String) (db : Database) : Performed User :=
  findRow Migration.userTable (db.rows.user? username) UserRow.read (.user username) db

/-- Sets the fields of a user that are given. -/
def updateUser (username : String) (fullName : Option String) (isEmailVerified : Option Bool)
    (db : Database) : Performed User :=
  withTable Migration.userTable db <|
    match db.rows.user? username with
    | none => missing (.user username) db
    | some row =>
        let row :=
          { row with
            fullName := fullName.getD row.fullName
            isEmailVerified := isEmailVerified.getD row.isEmailVerified }
        reading row.read
          (db.withRows
            { db.rows with
              users := db.rows.users.map fun r => if r.username = username then row else r })

/-! ### Verifications -/

/-- Stores a new verification that expires at a given instant. -/
def createVerification (now expiredAt : Instant) (username email secretCode : String)
    (db : Database) : Performed Verification :=
  withTable Migration.verificationTable db <|
    withNextId db.sequences.verification db fun id =>
      let row : VerificationRow :=
        { id, username, email, secretCode, isUsed := false, createdAt := now.storedText,
          expiredAt := expiredAt.storedText }
      reading row.read
        { db with
          rows := { db.rows with verifications := db.rows.verifications ++ [row] }
          sequences := { db.sequences with verification := db.sequences.verification + 1 } }

/-- The row of a verification. -/
def Rows.verification? (rows : Rows) (id : Int64) : Option VerificationRow :=
  rows.verifications.find? fun r => r.id = id

/-- Looks up a verification. -/
def findVerification (id : Int64) (db : Database) : Performed Verification :=
  findRow Migration.verificationTable (db.rows.verification? id) VerificationRow.read
    (.verification id) db

/-- Sets whether a code is used. -/
def updateVerification (id : Int64) (isUsed : Bool) (db : Database) : Performed Verification :=
  withTable Migration.verificationTable db <|
    match db.rows.verification? id with
    | none => missing (.verification id) db
    | some row =>
        let row := { row with isUsed }
        reading row.read
          (db.withRows
            { db.rows with
              verifications :=
                db.rows.verifications.map fun r => if r.id = id then row else r })

/-! ### Queries -/

/-- Whether a query comes to grief before it reaches the database: the
expiry of a new verification has to be an instant. -/
def Query.isImpossible (now : Instant) : Query → Bool
  | .createVerification _ _ _ lifetime => (now.add? lifetime).isNone
  | _ => false

/-- Performs a query at an instant. -/
def Query.perform (now : Instant) : (q : Query) → Database → Performed q.Answer
  | .createAccount owner balance currency, db =>
      DoubleEntry.createAccount now owner balance currency db
  | .account id, db => findAccount id db
  | .accountForUpdate id, db => findAccount id db
  | .addBalance id amount, db => DoubleEntry.addBalance id amount db
  | .accounts owner page, db => listAccounts owner page db
  | .deleteAccount id, db => DoubleEntry.deleteAccount id db
  | .createEntry accountId amount, db => DoubleEntry.createEntry now accountId amount db
  | .entry id, db => findEntry id db
  | .entries accountId page, db => listEntries accountId page db
  | .createTransfer request, db => DoubleEntry.createTransfer now request db
  | .transfer id, db => findTransfer id db
  | .transfers accountId page, db => listTransfers accountId page db
  | .createUser username fullName email, db => DoubleEntry.createUser now username fullName email db
  | .user username, db => findUser username db
  | .updateUser username fullName isEmailVerified, db =>
      DoubleEntry.updateUser username fullName isEmailVerified db
  | .createVerification username email secretCode lifetime, db =>
      DoubleEntry.createVerification now (now.later lifetime) username email secretCode db
  | .verification id, db => findVerification id db
  | .updateVerification id isUsed, db => DoubleEntry.updateVerification id isUsed db

end DoubleEntry
