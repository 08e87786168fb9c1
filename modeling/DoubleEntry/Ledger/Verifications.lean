/-
DoubleEntry/Ledger/Verifications.lean

Users and the verification of their email addresses.  Confirming a code
marks the code used and the user verified in one transaction.

A code is compared before anything else about it is looked at, so that a
wrong code is told nothing but that it is wrong.
-/
import DoubleEntry.Record.Rules
import DoubleEntry.Store.Work

namespace DoubleEntry.Ledger

open DoubleEntry.Text

/-! ### Users -/

/-- Registers a user. -/
def createUser (env : Surroundings) (username fullName email : String) (db : Database) :
    Ran User :=
  match User.validateNew username fullName email with
  | .ok () => submit (env.clock 0) (.createUser username (trim fullName) email) db
  | .error e => { outcome := .error e, db }

/-- Looks up a user. -/
def getUser (env : Surroundings) (username : String) (db : Database) : Ran User :=
  submit (env.clock 0) (.user username) db

/-! ### Codes -/

/-- The unit of work that issues a code for the address of a user. -/
def requestWork (lifetime : Duration) (username secretCode : String) : Work Verification := do
  let user ← Work.query (.user username)
  Work.check (ensure (!user.isEmailVerified) (.alreadyVerified username))
  Work.query (.createVerification user.username user.email secretCode lifetime)

/-- Issues a code that is valid for a while. -/
def requestVerification (env : Surroundings) (lifetime : Duration) (username secretCode : String)
    (db : Database) : Ran Verification :=
  (requestWork lifetime username secretCode).execute env {} db

/-- Looks up a verification. -/
def getVerification (env : Surroundings) (id : Int64) (db : Database) : Ran Verification :=
  submit (env.clock 0) (.verification id) db

/-- The unit of work that confirms a code at an instant. -/
def confirmWork (id : Int64) (secretCode : String) (now : Instant) : Work VerificationReceipt := do
  let record ← Work.query (.verification id)
  Work.check (ensure (record.secretCode = secretCode) .wrongCode)
  Work.check (ensure (!record.isUsed) .codeUsed)
  Work.check (ensure (!record.isExpiredAt now) .codeExpired)
  let verification ← Work.query (.updateVerification id true)
  let user ← Work.query (.updateUser verification.username none (some true))
  return { user, verification }

/-- Confirms a code. -/
def verifyEmail (env : Surroundings) (id : Int64) (secretCode : String) (db : Database) :
    Ran VerificationReceipt :=
  (confirmWork id secretCode (env.clock 0)).execute env {} db

end DoubleEntry.Ledger
