/-
DoubleEntry/Proofs/Store/Preserved.lean

Invariants of the rows, whatever ids are gone and whatever tables there are.
`Query.Preserves inv q` says that the change which a query makes, if it takes
effect, keeps an invariant.  Then

* a unit of work keeps it that issues only such queries, run by itself or in a
  transaction (`Work.submitEach_preserves`, `Work.execute_preserves`);
* every transaction keeps it, of whatever program, if every query does
  (`Transaction.run_preserves`).

So an invariant is proved once for each change that is possible, and never for
an operation.
-/
import DoubleEntry.Proofs.Store.Transaction

namespace DoubleEntry

variable {α : Type} {inv : Rows → Prop} {db db' : Database} {q : Query} {env : Surroundings}

/-! ### Queries -/

/-- The query keeps an invariant of the rows when it takes effect. -/
def Query.Preserves (inv : Rows → Prop) (q : Query) : Prop :=
  ∀ {db db' : Database}, Change db q db' → inv db.rows → inv db'.rows

/-- A query that does not take effect leaves the rows alone. -/
theorem CameOut.preserves {outcome : Outcome α} (h : CameOut outcome (Change db q) db db')
    (hq : q.Preserves inv) (hdb : inv db.rows) : inv db'.rows := by
  cases h with
  | done effect change => exact hq change hdb
  | failed effect s forward same =>
      rw [same]
      exact hdb

theorem submit_preserves (hq : q.Preserves inv) (now : Instant) (hdb : inv db.rows) :
    inv (submit now q db).db.rows :=
  (submit_made now q db).cameOut.preserves hq hdb

/-! ### Units of work -/

namespace Work

variable {w : Work α}

theorem submitEach_preserves (hw : w.Issues (Query.Preserves inv)) (clock : Nat → Instant)
    (hdb : inv db.rows) : inv (w.submitEach clock db).db.rows :=
  submitEach_keeps (R := fun d d' => inv d.rows → inv d'.rows) hw (fun _ h => h)
    (fun h h' hd => h' (h hd))
    (fun q hq now d => (perform_cameOut now q d).preserves hq) clock db hdb

theorem execute_preserves (hw : w.Issues (Query.Preserves inv)) (env : Surroundings)
    (token : CancelToken) (hdb : inv db.rows) : inv (w.execute env token db).db.rows :=
  execute_keeps (R := fun d d' => inv d.rows → inv d'.rows) hw (fun _ h => h)
    (fun h h' hd => h' (h hd)) (fun _ _ _ h => h)
    (fun q hq now d => (perform_cameOut now q d).preserves hq) env token db hdb

end Work

/-! ### Transactions of any kind -/

section Every

variable (hinv : ∀ q : Query, q.Preserves inv)

include hinv

/-- Within a transaction a program keeps what every query keeps. -/
theorem Program.run_preserves (p : Program α) {s : Scope} (hs : inv s.db.rows) :
    inv (p.run env s).2.db.rows := by
  induction p generalizing s with
  | done a => exact hs
  | fail e => exact hs
  | crash => exact hs
  | cancel next ih => exact ih (s := s.cancel) hs
  | call q next ih =>
      have hissue : inv (s.issue env q).2.db.rows :=
        (s.issue_made env q).cameOut.preserves (hinv q) hs
      simp only [run]
      rcases houtcome : s.issue env q with ⟨outcome, s'⟩
      rw [houtcome] at hissue
      cases outcome with
      | ok a => exact ih (.ok a) hissue
      | error e => exact ih (.error e) hissue
      | crash => exact hissue

theorem Transaction.run_preserves (t : Transaction) (hdb : inv db.rows) :
    inv (t.run db).rows := by
  cases t with
  | statement now q => exact submit_preserves (hinv q) now hdb
  | program env token p =>
      rcases program_cases env token p db with ⟨-, hrun⟩ | ⟨-, hrun⟩
      · rw [hrun]
        exact hdb
      · rw [hrun]
        split
        · exact p.run_preserves hinv hdb
        · exact hdb

theorem Transaction.runAll_preserves (ts : List Transaction) (hdb : inv db.rows) :
    inv (runAll ts db).rows := by
  induction ts generalizing db with
  | nil => exact hdb
  | cons t ts ih => exact ih (t.run_preserves hinv hdb)

end Every

end DoubleEntry
