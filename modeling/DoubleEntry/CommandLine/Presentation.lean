/-
DoubleEntry/CommandLine/Presentation.lean

How records are shown on a terminal.
-/
import DoubleEntry.EventLog.Log
import DoubleEntry.Ledger.Status
import DoubleEntry.Money.Amount
import DoubleEntry.Text.Grid

namespace DoubleEntry.CommandLine

open DoubleEntry.Text

/-! ### Lines -/

/-- Texts as lines. -/
def lines (ls : List String) : String :=
  String.join (ls.map fun l => l ++ "\n")

/-- The line that reports a success. -/
def successLine (color : Bool) (text : String) : String :=
  lines [styled color .green text]

/-- The line that says there is nothing to show. -/
def infoLine (color : Bool) (text : String) : String :=
  lines [styled color .cyan text]

/-- The line that reports a failure. -/
def errorLine (color : Bool) (text : String) : String :=
  lines [styled color .red ("Error: " ++ text)]

/-- The mark before a line that reports a movement of money. -/
def checkMark (color : Bool) : String :=
  styled color .green "✓"

/-- A table with a header. -/
def tableWith (header : List String) (rows : List (List String)) : String :=
  lines [Grid.render { header := some header, rows }]

/-! ### Accounts -/

/-- Accounts as a table. -/
def accountTable (accounts : List Account) : String :=
  tableWith ["ID", "Owner", "Balance", "Opened"] <|
    accounts.map fun a =>
      [int64Text a.id, a.owner, amountText a.balance a.currency, a.createdAt.display]

/-- What is shown when an account has been opened. -/
def openedText (color : Bool) (a : Account) : String :=
  successLine color <|
    "Opened account " ++ int64Text a.id ++ " for " ++ a.owner ++ " with "
      ++ amountText a.balance a.currency

/-- What is shown when a balance has been adjusted. -/
def adjustedText (color : Bool) (r : AdjustmentReceipt) : String :=
  lines
    [ checkMark color ++ " Entry " ++ int64Text r.entry.id ++ ": "
        ++ signedText color r.entry.amount r.account.currency,
      "  New balance: " ++ styled color .bold (amountText r.account.balance r.account.currency) ]

/-! ### Transfers and entries -/

/-- What is shown when a transfer has been carried out. -/
def sentText (color : Bool) (r : TransferReceipt) : String :=
  lines
    [ checkMark color ++ " Transfer " ++ int64Text r.transfer.id ++ ": "
        ++ styled color .bold (amountText r.transfer.amount r.fromAccount.currency)
        ++ " from account " ++ int64Text r.transfer.fromId ++ " to account "
        ++ int64Text r.transfer.toId,
      "  Account " ++ int64Text r.fromAccount.id ++ ": "
        ++ amountText r.fromAccount.balance r.fromAccount.currency,
      "  Account " ++ int64Text r.toAccount.id ++ ": "
        ++ amountText r.toAccount.balance r.toAccount.currency ]

/-- The amount of a transfer: as it is, or with a sign as one of its
accounts sees it. -/
def transferAmount (color : Bool) (viewer : Option Int64) (currency : Currency) (t : Transfer) :
    String :=
  match viewer with
  | none => amountText t.amount currency
  | some id =>
      if id = t.fromId then signedText color (-t.amount) currency
      else signedText color t.amount currency

/-- Transfers as a table. -/
def transferTable (color : Bool) (viewer : Option Int64) (currency : Currency)
    (ts : List Transfer) : String :=
  tableWith ["ID", "From", "To", "Amount", "Time"] <|
    ts.map fun t =>
      [int64Text t.id, int64Text t.fromId, int64Text t.toId,
        transferAmount color viewer currency t, t.createdAt.display]

/-- Entries as a table. -/
def entryTable (color : Bool) (currency : Currency) (es : List Entry) : String :=
  tableWith ["ID", "Account", "Amount", "Time"] <|
    es.map fun e =>
      [int64Text e.id, int64Text e.accountId, signedText color e.amount currency,
        e.createdAt.display]

/-! ### Users and verifications -/

/-- What is shown when a user has registered. -/
def registeredText (color : Bool) (u : User) : String :=
  successLine color ("Registered user " ++ u.username)
    ++ lines ["Run `tally verify request " ++ u.username ++ "` to verify " ++ u.email]

/-- A user as a table. -/
def userTable (color : Bool) (u : User) : String :=
  let verified :=
    if u.isEmailVerified then styled color .green "yes" else styled color .yellow "no"
  lines
    [ Grid.render
        { rows :=
            [ ["Username", u.username], ["Full name", u.fullName], ["Email", u.email],
              ["Verified", verified], ["Created", u.createdAt.display] ] } ]

/-- What is shown when a code has been issued. -/
def issuedText (color : Bool) (v : Verification) : String :=
  lines
    [ styled color .bold "Verification code issued",
      "  Email:   " ++ v.email,
      "  ID:      " ++ int64Text v.id,
      "  Code:    " ++ v.secretCode,
      "  Expires: " ++ v.expiredAt.display,
      "",
      "Confirm with `tally verify confirm " ++ int64Text v.id ++ " <code>`" ]

/-- What is shown when a code has been confirmed. -/
def confirmedText (color : Bool) (r : VerificationReceipt) : String :=
  successLine color ("Verified " ++ r.verification.email ++ " for " ++ r.user.username)

/-! ### Status -/

/-- The status of the ledger. -/
def statusText (color : Bool) (s : LedgerStatus) : String :=
  let balances :=
    if s.balances.isEmpty then []
    else
      ["", styled color .bold "Balances by Currency"]
        ++ s.balances.map fun (c, total) => "  " ++ amountText total c
  lines <|
    [ styled color .bold "Ledger Status",
      "",
      Grid.render
        { rows :=
            [ ["Accounts", natText s.counts.accounts],
              ["Transfers", natText s.counts.transfers],
              ["Entries", natText s.counts.entries] ] } ]
      ++ balances

/-! ### The event log -/

/-- The time of a log entry. -/
def entryTime (e : LogEntry) : String :=
  (Instant.ofMillis e.timestamp.toInt).display

/-- The error of a log entry in short. -/
def errorMark (color : Bool) (e : LogEntry) : String :=
  match e.errorKind, e.errorMessage with
  | some kind, _ => styled color .red kind
  | none, some _ => styled color .red "!"
  | none, none => ""

/-- The latest errors among log entries, at most three. -/
def recentErrorLines (color : Bool) (es : List LogEntry) : List String :=
  let errors := (es.filter fun e => e.errorMessage.isSome).take 3
  if errors.isEmpty then []
  else
    ["", styled color .boldRed "Recent Errors:"]
      ++ errors.map fun e =>
        "  " ++ styled color .dimmed (entryTime e) ++ " [" ++ e.command.getD e.event ++ "]: "
          ++ e.errorMessage.getD "Unknown error"

/-- Log entries as a table, and below it the latest errors unless only
errors are listed. -/
def logText (color onlyErrors : Bool) (es : List LogEntry) : String :=
  tableWith ["Time", "Event", "Command", "Error"]
      (es.map fun e => [entryTime e, e.event, e.command.getD "", errorMark color e])
    ++ lines (if onlyErrors then [] else recentErrorLines color es)

/-- What is known about an event log. -/
structure LogStats where
  total : Nat
  byKind : List (String × Nat)
  path : String
  size : Nat
  deriving Repr

/-- The number of errors. -/
def LogStats.errors (s : LogStats) : Nat :=
  (s.byKind.map (·.2)).foldr (· + ·) 0

/-- What is known about an event log, as JSON. -/
def LogStats.toJson (s : LogStats) : Json :=
  .object
    [("total_entries", .ofNat s.total), ("error_count", .ofNat s.errors),
      ("errors_by_kind", .object (s.byKind.map fun (kind, n) => (kind, .ofNat n))),
      ("database_path", .string s.path), ("database_size_bytes", .ofNat s.size)]

/-- What is known about an event log. -/
def LogStats.text (color : Bool) (s : LogStats) : String :=
  lines <|
    [ styled color .bold "Log Statistics",
      "  Total entries: " ++ natText s.total,
      "  Errors: " ++ natText s.errors ]
      ++ (s.byKind.map fun (kind, n) => "    " ++ kind ++ ": " ++ natText n)
      ++ [ "  Database: " ++ s.path,
        "  Size: " ++ natText s.size ++ " bytes" ]

end DoubleEntry.CommandLine
