/-
DoubleEntry/Proofs/Ledger/Integrity.lean

The integrity of what is stored, in every state that a run comes to: by
queries submitted by themselves, by programs in transactions, be they kept,
failed or cancelled, and by the operations of the ledger.

* In each of the four tables that number their rows, ids strictly increase in
  the order in which they were given.  None is given twice, though rows may
  have been removed and transactions undone in the meantime.
* Usernames are different, and so are emails; amounts of transfers are
  positive; balances and amounts are 64-bit integers.
* What the tables declare is what they enforce, and the only thing that they
  refuse a row for.
-/
import DoubleEntry.Proofs.Ledger.Steps
import DoubleEntry.Proofs.Store.Constraints

namespace DoubleEntry.Ledger

/-- What holds of a database that a run has come to, with the ids that were
answered on the way. -/
structure Integrity (steps : List Step) (db : Database) : Prop where
  /-- Ids that are stored stand in the order in which they were drawn, -/
  stored : ∀ series, Drawn (db.sequences.last series) (db.rows.ids series)
  /-- and so do all ids that were answered, whether or not their rows were
  kept and are still there. -/
  answered : ∀ series, Drawn (db.sequences.last series)
    (createdIds series (({} : Database).issued steps))
  /-- Ids that come to be stored or answered later are beyond all of these. -/
  later : ∀ (later : List Step) (series : Series),
    (∀ id ∈ (db.after later).rows.ids series,
      id ∈ db.rows.ids series ∨ (db.sequences.last series : Int) < id.toInt) ∧
    ∀ id ∈ createdIds series (db.issued later), (db.sequences.last series : Int) < id.toInt
  usernames : (db.rows.users.map (·.username)).Nodup
  emails : (db.rows.users.map (·.email)).Nodup
  amounts : ∀ t ∈ db.rows.transfers, 0 < t.amount.toInt
  balances : ∀ r ∈ db.rows.accounts,
    -9223372036854775808 ≤ r.balance.toInt ∧ r.balance.toInt ≤ 9223372036854775807
  entries : ∀ e ∈ db.rows.entries,
    -9223372036854775808 ≤ e.amount.toInt ∧ e.amount.toInt ≤ 9223372036854775807
  /-- A query by itself is answered with a violated constraint only where it
  violates one, and then stores nothing. -/
  refused : ∀ (now : Instant) (q : Query) (v : Violation),
    (submit now q db).outcome = .error (.constraint v) →
      q.Violates db.rows ∧ (submit now q db).db.rows = db.rows
  /-- On a migrated ledger a query that violates one is always answered so, but
  for a transfer when all ids of 64 bits have been drawn. -/
  violates : .migrate ∈ steps → ∀ (now : Instant) (q : Query), q.Violates db.rows →
    (∃ v, (submit now q db).outcome = .error (.constraint v)) ∨
      q.LacksTransferId db.sequences ∧
        (submit now q db).outcome = .error (.database .sequenceExhausted)

theorem int64_bounds (n : Int64) :
    -9223372036854775808 ≤ n.toInt ∧ n.toInt ≤ 9223372036854775807 := by
  have hlow := n.le_toInt
  have hhigh := n.toInt_lt
  omega

/-- **What is stored is sound**, whatever has been done with the ledger. -/
theorem integrity (steps : List Step) : Integrity steps (({} : Database).after steps) := by
  have hkeyed : Database.Keyed {} := .empty {}
  have hgrown := hkeyed.grown steps
  constructor
  case stored => exact hgrown.keyed.ids
  case answered => exact fun series => (hgrown.drawn series).toDrawn
  case later =>
    intro later series
    have hlater := hgrown.keyed.grown later
    exact ⟨hlater.appended.ids series, (hlater.drawn series).above⟩
  case usernames => exact hgrown.keyed.usernames
  case emails => exact hgrown.keyed.emails
  case amounts => exact hgrown.keyed.amounts
  case balances => exact fun r _ => int64_bounds r.balance
  case entries => exact fun e _ => int64_bounds e.amount
  case refused => exact fun now q v => submit_refused
  case violates =>
    intro hmigrate now q hviolates
    have hmigrated : (({} : Database).after steps).Migrated :=
      Database.migrated_after (.inl rfl) (.inl hmigrate)
    apply submit_of_violates hviolates
    · rw [hmigrated]
      decide +kernel
    · rw [hmigrated]
      exact Database.fresh_hasTable.2.2

end DoubleEntry.Ledger
