/-
DoubleEntry/Proofs/Ledger/Played.lean

What has come between two databases, query by query.  `Played P db issued db'`
says that the queries `issued` lead from one to the other: each was performed
at an instant with `P`, or held back, and before, between and after them no row
has changed (`Idle`).

A program does this within its transaction (`Program.played`), and a run with
the queries of those transactions that were kept (`Database.played`).  So what
every such query keeps is kept by a run (`Played.keeps`), and what one of them
has brought about holds until a later one of them undoes it: a run falls apart
at every query (`Played.split`).
-/
import DoubleEntry.Proofs.Ledger.Steps

namespace DoubleEntry

variable {α : Type} {P : Instant → Prop} {db db' db'' : Database} {i : Issued}
  {issued issued' : List Issued} {env : Surroundings}

/-! ### One query -/

/-- A query is performed at an instant of some kind, or it is held back. -/
inductive Issued.Took (P : Instant → Prop) (db : Database) : Issued → Database → Prop
  | performed {now : Instant} {q : Query} (time : P now) (possible : q.isImpossible now = false) :
      Took P db ⟨q, .ofExcept (q.perform now db).result⟩ (q.perform now db).db
  | held {q : Query} {outcome : Outcome q.Answer} (effect : outcome.tookEffect = false) :
      Took P db ⟨q, outcome⟩ db

theorem Issued.Took.made (h : i.Took P db db') : i.Made db db' := by
  cases h with
  | performed time possible => exact perform_made _ _ db
  | held effect => exact Issued.made_of_held effect

theorem Issued.Took.succeeds (h : i.Took P db db') : db.Succeeds db' := by
  cases h with
  | performed time possible => exact .perform _ _ db
  | held effect => exact .refl db

theorem submit_took {now : Instant} (hnow : P now) (q : Query) (db : Database) :
    Issued.Took P db ⟨q, (submit now q db).outcome⟩ (submit now q db).db := by
  unfold submit
  split
  case isTrue => exact .held rfl
  case isFalse hpossible => exact .performed hnow (Bool.eq_false_iff.mpr hpossible)

theorem Scope.issue_took (henv : ∀ n, P (env.clock n)) (q : Query) (s : Scope) :
    Issued.Took P s.db ⟨q, (s.issue env q).1⟩ (s.issue env q).2.db := by
  unfold issue answer
  dsimp only
  split
  · exact .held rfl
  split
  · exact .held rfl
  case isFalse hpossible =>
    split
    · exact .held rfl
    split
    · exact .held rfl
    · exact .performed (henv _) (Bool.eq_false_iff.mpr hpossible)

/-! ### What was played -/

/-- No row has changed; ids may be gone, and the migrations may have been
run. -/
structure Idle (db db' : Database) : Prop where
  rows : db'.rows = db.rows
  sequences : db.sequences ≤ db'.sequences
  catalog : db'.catalog = db.catalog ∨ db'.Migrated

namespace Idle

theorem refl (db : Database) : Idle db db where
  rows := rfl
  sequences := Sequences.le_refl _
  catalog := .inl rfl

theorem trans (h : Idle db db') (h' : Idle db' db'') : Idle db db'' where
  rows := h'.rows.trans h.rows
  sequences := Sequences.le_trans h.sequences h'.sequences
  catalog := by
    rcases h'.catalog with hsame | hmigrated
    · rcases h.catalog with hsame' | hmigrated
      · exact .inl (hsame.trans hsame')
      · exact .inr (hsame.trans hmigrated)
    · exact .inr hmigrated

end Idle

/-- Queries lead from one database to another. -/
inductive Played (P : Instant → Prop) : Database → List Issued → Database → Prop
  | idle {db db' : Database} (idle : Idle db db') : Played P db [] db'
  | issued {db db₁ db₂ db' : Database} {i : Issued} {later : List Issued} (idle : Idle db db₁)
      (took : i.Took P db₁ db₂) (played : Played P db₂ later db') : Played P db (i :: later) db'

namespace Played

theorem refl (db : Database) : Played P db [] db :=
  .idle (.refl db)

theorem issue (h : i.Took P db db') (h' : Played P db' issued db'') :
    Played P db (i :: issued) db'' :=
  .issued (.refl db) h h'

theorem after_idle (h : Idle db db') (h' : Played P db' issued db'') :
    Played P db issued db'' := by
  cases h' with
  | idle idle => exact .idle (h.trans idle)
  | issued idle took played => exact .issued (h.trans idle) took played

theorem trans (h : Played P db issued db') (h' : Played P db' issued' db'') :
    Played P db (issued ++ issued') db'' := by
  induction h with
  | idle idle => exact h'.after_idle idle
  | issued idle took played ih => exact .issued idle took (ih h')

/-- Before and after a query there is a database each. -/
theorem split {before later : List Issued} (h : Played P db (before ++ i :: later) db') :
    ∃ db₁ db₂, Played P db before db₁ ∧ i.Took P db₁ db₂ ∧ Played P db₂ later db' := by
  induction before generalizing db with
  | nil =>
      cases h with
      | issued idle took played => exact ⟨_, _, .idle idle, took, played⟩
  | cons j before ih =>
      cases h with
      | issued idle took played =>
          obtain ⟨db₁, db₂, hbefore, hi, hlater⟩ := ih played
          exact ⟨db₁, db₂, .issued idle took hbefore, hi, hlater⟩

/-- What each of the queries keeps, and what holds while no row changes, is
kept. -/
theorem keeps {M : Database → Prop} (h : Played P db issued db')
    (hidle : ∀ {d d' : Database}, Idle d d' → M d → M d')
    (htook : ∀ i ∈ issued, ∀ {d d' : Database}, i.Took P d d' → M d → M d') (hdb : M db) :
    M db' := by
  induction h with
  | idle idle => exact hidle idle hdb
  | issued idle took played ih =>
      obtain ⟨hfirst, hlater⟩ := List.forall_mem_cons.mp htook
      exact ih hlater (hfirst took (hidle idle hdb))

theorem keyed (h : Played P db issued db') (hdb : db.Keyed) : db'.Keyed :=
  h.keeps (M := Database.Keyed) (fun idle hd => hd.of_rows idle.rows idle.sequences)
    (fun _ _ _ _ took hd => (took.made.grown hd).keyed) hdb

theorem sequences (h : Played P db issued db') : db.sequences ≤ db'.sequences :=
  h.keeps (M := fun d => db.sequences ≤ d.sequences)
    (fun idle hd => Sequences.le_trans hd idle.sequences)
    (fun _ _ _ _ took hd => Sequences.le_trans hd took.succeeds.sequences) (Sequences.le_refl _)

/-- Tables are not lost. -/
theorem migrated (h : Played P db issued db') (hdb : db.Migrated) : db'.Migrated := by
  refine h.keeps (M := Database.Migrated) ?_ ?_ hdb
  · intro d d' idle hd
    exact idle.catalog.elim (fun hsame => hsame.trans hd) id
  · exact fun i _ d d' took hd => took.succeeds.catalog.trans hd

/-- There are no tables, or all of them. -/
theorem empty_or_migrated (h : Played P db issued db') (hdb : db.catalog = {} ∨ db.Migrated) :
    db'.catalog = {} ∨ db'.Migrated := by
  refine h.keeps (M := fun d => d.catalog = {} ∨ d.Migrated) ?_ ?_ hdb
  · intro d d' idle hd
    rcases idle.catalog with hsame | hmigrated
    · unfold Database.Migrated
      rw [hsame]
      exact hd
    · exact .inr hmigrated
  · intro i hi d d' took hd
    unfold Database.Migrated
    rw [took.succeeds.catalog]
    exact hd

end Played

/-! ### Transactions -/

/-- The queries of a transaction that was kept. -/
def Transcript.keptIssued (t : Transcript) : List Issued :=
  if t.kept then t.issued else []

/-- The queries of those transactions that were kept. -/
def keptIn (log : List Transcript) : List Issued :=
  log.flatMap (·.keptIssued)

/-- Within a transaction every query is seen. -/
theorem Program.played (henv : ∀ n, P (env.clock n)) (p : Program α) (s : Scope) :
    Played P s.db (p.issued env s) (p.run env s).2.db := by
  induction p generalizing s with
  | done a => exact .refl s.db
  | fail e => exact .refl s.db
  | crash => exact .refl s.db
  | cancel next ih => exact ih s.cancel
  | call q next ih =>
      have htook := s.issue_took henv q
      simp only [issued, run]
      rcases houtcome : s.issue env q with ⟨outcome, s'⟩
      rw [houtcome] at htook
      cases outcome with
      | ok a => exact .issue htook (ih (.ok a) s')
      | error e => exact .issue htook (ih (.error e) s')
      | crash => exact .issue htook (.refl s'.db)

namespace Transaction

/-- The clock shows only instants of some kind. -/
def Clocked (P : Instant → Prop) : Transaction → Prop
  | statement now _ => P now
  | program env _ _ => ∀ n, P (env.clock n)

theorem played {t : Transaction} (hclock : t.Clocked P) (db : Database) :
    Played P db (t.transcript db).keptIssued (t.run db) := by
  cases t with
  | statement now q => exact .issue (submit_took hclock q db) (.refl _)
  | program env token p =>
      rcases program_cases env token p db with ⟨htranscript, hrun⟩ | ⟨htranscript, hrun⟩
      · rw [htranscript, hrun]
        exact .refl db
      · have hplayed := p.played hclock { db }
        rw [htranscript, hrun]
        unfold Transcript.keptIssued
        split
        · exact hplayed
        · exact .idle ⟨rfl, hplayed.sequences, .inl rfl⟩

theorem played_all {ts : List Transaction} (hclock : ∀ t ∈ ts, t.Clocked P) (db : Database) :
    Played P db (keptIn (transcripts ts db)) (runAll ts db) := by
  induction ts generalizing db with
  | nil => exact .refl db
  | cons t ts ih =>
      obtain ⟨ht, hts⟩ := List.forall_mem_cons.mp hclock
      exact (t.played ht db).trans (ih hts (t.run db))

end Transaction

theorem Work.statements_clocked {clock : Nat → Instant} (hclock : ∀ n, P (clock n)) (w : Work α)
    (db : Database) : ∀ t ∈ w.statements clock db, t.Clocked P := by
  induction w generalizing clock db with
  | done a | fail e | crash =>
      intro t ht
      cases ht
  | cancel next ih => exact ih hclock db
  | call q next ih =>
      simp only [statements]
      refine List.forall_mem_cons.mpr ⟨hclock 0, ?_⟩
      rcases submit (clock 0) q db with ⟨outcome, db'⟩
      cases outcome with
      | ok a => exact ih a (fun n => hclock (n + 1)) db'
      | error e | crash =>
          intro t ht
          cases ht

/-! ### Runs -/

namespace Ledger

theorem Operation.transactions_clocked (henv : ∀ n, P (env.clock n)) (op : Operation)
    (db : Database) : ∀ t ∈ op.transactions env db, t.Clocked P := by
  have hnone : ∀ t ∈ ([] : List Transaction), t.Clocked P := by
    intro t ht
    cases ht
  have hstatement : ∀ q, ∀ t ∈ [Transaction.statement (env.clock 0) q], t.Clocked P :=
    fun q => List.forall_mem_singleton.mpr (henv 0)
  have hprogram : ∀ {β : Type} (token : CancelToken) (p : Program β),
      ∀ t ∈ [Transaction.program env token p], t.Clocked P :=
    fun token p => List.forall_mem_singleton.mpr henv
  cases op with
  | openAccount owner balance currency =>
      simp only [transactions]
      cases checkOpening owner currency with
      | ok checked => exact hstatement _
      | error e => exact hnone
  | listAccounts owner page =>
      simp only [transactions]
      cases checkPage page.limit page.offset with
      | ok u => exact hstatement _
      | error e => exact hnone
  | adjustBalance id amount =>
      simp only [transactions]
      cases ensure (amount ≠ 0) .zeroAdjustment with
      | ok u => exact hprogram _ _
      | error e => exact hnone
  | createUser username fullName email =>
      simp only [transactions]
      cases User.validateNew username fullName email with
      | ok u => exact hstatement _
      | error e => exact hnone
  | transferFundsWith token cancelled request =>
      cases cancelled with
      | none => exact hprogram _ _
      | some n => exact hprogram _ _
  | closeAccount id | transferFunds request | requestVerification lifetime username secretCode
  | verifyEmail id secretCode => exact hprogram _ _
  | listTransfers accountId page | listEntries accountId page =>
      exact Work.statements_clocked henv _ db
  | getAccount id | getTransfer id | getEntry id | getUser username | getVerification id =>
      exact hstatement _
  | status => exact hnone

namespace Step

/-- The clock shows only instants of some kind. -/
def Clocked (P : Instant → Prop) : Step → Prop
  | transaction t => t.Clocked P
  | operation env _ => ∀ n, P (env.clock n)
  | migrate => True

/-- Whatever the clock shows. -/
theorem clocked_true (step : Step) : step.Clocked fun _ => True := by
  cases step with
  | transaction t =>
      cases t with
      | statement now q => trivial
      | program env token p => exact fun _ => trivial
  | operation env op => exact fun _ => trivial
  | migrate => trivial

theorem played {step : Step} (hclock : step.Clocked P) (hdb : db.catalog = {} ∨ db.Migrated) :
    Played P db (keptIn (Transaction.transcripts (step.transactions db) db)) (step.run db) := by
  cases step with
  | transaction t => exact Transaction.played_all (List.forall_mem_singleton.mpr hclock) db
  | operation env op =>
      have hall := Transaction.played_all (op.transactions_clocked hclock db) db
      rw [← op.perform_db] at hall
      exact hall
  | migrate => exact .idle ⟨rfl, Sequences.le_refl _, .inr (Database.migrated_migrate hdb)⟩

end Step

end Ledger

namespace Database

/-- The queries of a run that were kept. -/
def keptIssued (db : Database) (steps : List Ledger.Step) : List Issued :=
  keptIn (db.transcripts steps)

/-- **What was played in a run.** -/
theorem played {steps : List Ledger.Step} (hclock : ∀ step ∈ steps, step.Clocked P)
    (hdb : db.catalog = {} ∨ db.Migrated) : Played P db (db.keptIssued steps) (db.after steps) := by
  induction steps generalizing db with
  | nil => exact .refl db
  | cons step steps ih =>
      obtain ⟨hstep, hsteps⟩ := List.forall_mem_cons.mp hclock
      have hplayed := step.played hstep hdb
      have hboth := hplayed.trans (ih hsteps (hplayed.empty_or_migrated hdb))
      unfold keptIssued keptIn transcripts
      rw [List.flatMap_append]
      exact hboth

end Database

end DoubleEntry
