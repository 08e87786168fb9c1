/-
DoubleEntry/Error.lean

What can go wrong, by cause.  Each cause has one text, `message`, and each
error falls into one of four kinds, which is all that a caller can act on.
-/
import DoubleEntry.Text.Decimal
import DoubleEntry.Text.Quoted

namespace DoubleEntry

open DoubleEntry.Text

/-! ### Causes -/

/-- A row that was looked for and is not there. -/
inductive Missing where
  | account (id : Int64)
  | entry (id : Int64)
  | transfer (id : Int64)
  | user (username : String)
  | verification (id : Int64)
  | described (what : String)
  deriving DecidableEq, Repr

/-- A rule that a request or a row breaks. -/
inductive Violation where
  | amountNotPositive (amount : Int64)
  | transferToItself (account : Int64)
  | zeroAdjustment
  | accountInUse (account : Int64)
  | blankOwner
  | unsupportedCurrency (code : String)
  | malformedUsername
  | blankFullName
  | malformedEmail (email : String)
  | limitTooSmall (limit : Int64)
  | negativeOffset (offset : Int64)
  | alreadyVerified (username : String)
  | wrongCode
  | codeUsed
  | codeExpired
  /-- A unique column of the database already holds the value. -/
  | duplicateKey
  /-- A check of the database refused the row. -/
  | checkFailed
  | described (what : String)
  deriving DecidableEq, Repr

/-- A failure of the database itself. -/
inductive Fault where
  | noSuchTable (table : String)
  | outOfRange
  | badPage
  | undecodable (column : String)
  /-- An earlier failure in the transaction left it unusable. -/
  | transactionSpoiled
  | sequenceExhausted
  /-- A failure that was asked for. -/
  | injected (method : String)
  | described (what : String)
  deriving DecidableEq, Repr

/-- Something wrong with the settings. -/
inductive ConfigProblem where
  | invalidFile (path : String)
  | lifetimeNotANumber (text : String)
  | emptyDbFile
  | lifetimeNotPositive (minutes : Int64)
  | pageSizeTooSmall (size : Int64)
  | described (what : String)
  deriving DecidableEq, Repr

/-- An error of the ledger. -/
inductive Error where
  | notFound (what : Missing)
  | constraint (what : Violation)
  | aborted (reason : String)
  /-- Undoing the work failed after the work itself had failed. -/
  | rollbackFailed (first : Error) (rollback : String)
  | cancelled
  | database (fault : Fault)
  | config (problem : ConfigProblem)
  | io (reason : String)
  | json (reason : String)
  deriving DecidableEq, Repr

/-! ### Kinds -/

/-- The kinds of errors that a caller can tell apart. -/
inductive ErrorKind where
  | notFound
  | constraintViolation
  | transactionAborted
  | rollbackFailed
  deriving DecidableEq, Repr

/-- The name of a kind. -/
def ErrorKind.name : ErrorKind → String
  | .notFound => "not_found"
  | .constraintViolation => "constraint_violation"
  | .transactionAborted => "transaction_aborted"
  | .rollbackFailed => "rollback_failed"

/-- The kind with a name. -/
def ErrorKind.ofName? (s : String) : Option ErrorKind :=
  [notFound, constraintViolation, transactionAborted, rollbackFailed].find? fun k => k.name = s

/-- The kind of an error.  Failures of the database, the files and the
settings all count as an aborted transaction. -/
def Error.kind : Error → ErrorKind
  | .notFound _ => .notFound
  | .constraint _ => .constraintViolation
  | .rollbackFailed _ _ => .rollbackFailed
  | .aborted _ | .cancelled | .database _ | .config _ | .io _ | .json _ => .transactionAborted

/-! ### Texts -/

/-- What is missing, in words. -/
def Missing.message : Missing → String
  | .account id => "account " ++ int64Text id
  | .entry id => "entry " ++ int64Text id
  | .transfer id => "transfer " ++ int64Text id
  | .user username => "user " ++ username
  | .verification id => "verify email " ++ int64Text id
  | .described what => what

/-- The rule that is broken, in words. -/
def Violation.message : Violation → String
  | .amountNotPositive amount => "transfer amount must be positive, got " ++ int64Text amount
  | .transferToItself id => "cannot transfer from account " ++ int64Text id ++ " to itself"
  | .zeroAdjustment => "adjustment amount cannot be zero"
  | .accountInUse id => "account " ++ int64Text id ++ " has entries and cannot be deleted"
  | .blankOwner => "owner cannot be empty"
  | .unsupportedCurrency code => "unsupported currency: " ++ quote code
  | .malformedUsername => "username must be 3-100 lowercase letters, digits or underscores"
  | .blankFullName => "full name cannot be empty"
  | .malformedEmail email => "invalid email address: " ++ email
  | .limitTooSmall limit => "limit must be at least 1, got " ++ int64Text limit
  | .negativeOffset offset => "offset cannot be negative, got " ++ int64Text offset
  | .alreadyVerified username => "email of " ++ username ++ " is already verified"
  | .wrongCode => "invalid secret code"
  | .codeUsed => "verification code already used"
  | .codeExpired => "verification code expired"
  | .duplicateKey => "Constraint Error: duplicate key"
  | .checkFailed => "Constraint Error: check failed"
  | .described what => what

/-- The failure of the database, in words. -/
def Fault.message : Fault → String
  | .noSuchTable table => "no such table: " ++ table
  | .outOfRange => "value out of range"
  | .badPage => "limit and offset must not be negative"
  | .undecodable column => "cannot read column " ++ column
  | .transactionSpoiled => "current transaction is aborted"
  | .sequenceExhausted => "sequence exhausted"
  | .injected method => "injected failure in " ++ method
  | .described what => what

/-- The problem with the settings, in words. -/
def ConfigProblem.message : ConfigProblem → String
  | .invalidFile path => "invalid " ++ path ++ ": malformed settings"
  | .lifetimeNotANumber text => "TALLY_VERIFY_EMAIL_TTL_MINUTES is not a number: " ++ text
  | .emptyDbFile => "dbFile cannot be empty"
  | .lifetimeNotPositive minutes =>
      "verifyEmailTtlMinutes must be positive, got " ++ int64Text minutes
  | .pageSizeTooSmall size => "defaultPageSize must be at least 1, got " ++ int64Text size
  | .described what => what

/-- The text of an error. -/
def Error.message : Error → String
  | .notFound what => "Not found: " ++ what.message
  | .constraint what => "Constraint violation: " ++ what.message
  | .aborted reason => "Transaction aborted: " ++ reason
  | .rollbackFailed first rollback =>
      "Rollback failed: " ++ rollback ++ " (original error: " ++ first.message ++ ")"
  | .cancelled => "Operation cancelled"
  | .database fault => "Database error: " ++ fault.message
  | .config problem => "Configuration error: " ++ problem.message
  | .io reason => "IO error: " ++ reason
  | .json reason => "JSON error: " ++ reason

/-- Whether an error says that something is missing. -/
def Error.isNotFound (e : Error) : Bool :=
  e.kind = .notFound

end DoubleEntry
