/-
DoubleEntry/Proofs/Store/Atomicity.lean

Units of work are all or nothing.  `execute_atomic` says it of every unit,
wherever it fails or its token is cancelled:

* a unit that is kept has run its statements in order, each as if it had
  been submitted by itself;
* a unit that is not kept leaves everything as it was but the sequences,
  which stand where the unit left them;
* once the token is cancelled nothing is answered and nothing changes;
* later work does not see a unit that was not kept, but for the ids that are
  gone.

The induction is on the unit, over any scope it may start in: the scope of a
later statement is not the one that was opened.
-/
import DoubleEntry.Proofs.Store.Answers
import DoubleEntry.Proofs.Store.SpentIds

namespace DoubleEntry

variable {α : Type} {env : Surroundings} {s s' : Scope}

/-! ### Statements in a scope -/

namespace Scope

/-- A query that is answered has got past the token and the failures: it was
performed. -/
theorem issue_ok {q : Query} {a : q.Answer} (h : (s.issue env q).1 = .ok a) :
    s.cancelled = false ∧ s.spoiled = false ∧
      q.isImpossible (env.clock s.calls.length) = false ∧
      (q.perform (env.clock s.calls.length) s.db).result = .ok a ∧
      (s.issue env q).2 =
        { s with
          db := (q.perform (env.clock s.calls.length) s.db).db
          calls := q :: s.calls } := by
  unfold issue answer at h ⊢
  dsimp only at h ⊢
  -- each way past the statement gives no answer
  split at h
  · cases h
  next hfail =>
  split at h
  · cases h
  next himpossible =>
  split at h
  · cases h
  next hcancelled =>
  split at h
  · cases h
  next hspoiled =>
  have hok : (q.perform (env.clock s.calls.length) s.db).result = .ok a := by
    cases hr : (q.perform (env.clock s.calls.length) s.db).result with
    | ok b =>
        rw [hr] at h
        cases h
        rfl
    | error e =>
        rw [hr] at h
        cases h
  have hsound := (perform_proper (env.clock s.calls.length) q s.db).sound a hok
  refine ⟨Bool.eq_false_iff.mpr hcancelled, Bool.eq_false_iff.mpr hspoiled,
    Bool.eq_false_iff.mpr himpossible, hok, ?_⟩
  rw [if_neg hfail, if_neg himpossible, if_neg hcancelled, if_neg hspoiled, hsound,
    Bool.eq_false_iff.mpr hspoiled]

/-- However a query ends, the catalog of the scope is left alone, its
sequences do not go back, and its token stays as it is. -/
theorem issue_proper (env : Surroundings) (q : Query) (s : Scope) :
    (s.issue env q).2.db.catalog = s.db.catalog ∧
      s.db.sequences ≤ (s.issue env q).2.db.sequences ∧
      (s.issue env q).2.cancelled = s.cancelled := by
  unfold issue answer
  dsimp only
  split
  · exact ⟨rfl, Sequences.le_refl _, rfl⟩
  split
  · exact ⟨rfl, Sequences.le_refl _, rfl⟩
  split
  · exact ⟨rfl, Sequences.le_refl _, rfl⟩
  split
  · exact ⟨rfl, Sequences.le_refl _, rfl⟩
  have hproper := perform_proper (env.clock s.calls.length) q s.db
  exact ⟨hproper.catalog, hproper.sequences, rfl⟩

/-- Once the token is cancelled a query changes nothing. -/
theorem issue_db_of_cancelled (h : s.cancelled = true) (env : Surroundings) (q : Query) :
    (s.issue env q).2.db = s.db := by
  unfold issue answer
  dsimp only
  split
  · rfl
  split
  · rfl
  rw [h]

/-- Once the token is cancelled a query is answered with that, or breaks off
before it gets as far as the token. -/
theorem issue_outcome_of_cancelled (h : s.cancelled = true) {q : Query}
    (hfail : env.failOn ≠ some q.name) :
    (s.issue env q).1 =
      if q.isImpossible (env.clock s.calls.length) then .crash else .error .cancelled := by
  unfold issue answer
  dsimp only
  rw [if_neg hfail, if_pos h]
  split <;> rfl

end Scope

/-! ### Units in a scope -/

namespace Work

/-- The case of a statement: it ends the unit, or the unit goes on behind
it. -/
theorem run_call (env : Surroundings) (q : Query) (next : q.Answer → Work α) (s : Scope) :
    ((call q next).run env s).2 = (s.issue env q).2 ∧
        (∀ v, ((call q next).run env s).1 ≠ .ok v) ∨
      ∃ a, (s.issue env q).1 = .ok a ∧
        (call q next).run env s = (next a).run env (s.issue env q).2 := by
  simp only [run]
  rcases hissue : s.issue env q with ⟨outcome, s'⟩
  cases outcome with
  | ok a => exact .inr ⟨a, rfl, rfl⟩
  | error e => exact .inl ⟨rfl, fun v h => by cases h⟩
  | crash => exact .inl ⟨rfl, fun v h => by cases h⟩

/-- A unit leaves the catalog alone, and its sequences do not go back. -/
theorem run_proper (env : Surroundings) (w : Work α) (s : Scope) :
    (w.run env s).2.db.catalog = s.db.catalog ∧ s.db.sequences ≤ (w.run env s).2.db.sequences := by
  induction w generalizing s with
  | done a => exact ⟨rfl, Sequences.le_refl _⟩
  | fail e => exact ⟨rfl, Sequences.le_refl _⟩
  | crash => exact ⟨rfl, Sequences.le_refl _⟩
  | cancel next ih => exact ih s.cancel
  | call q next ih =>
      obtain ⟨hcatalog, hsequences, -⟩ := s.issue_proper env q
      rcases run_call env q next s with ⟨hscope, -⟩ | ⟨a, -, hrun⟩
      · rw [hscope]
        exact ⟨hcatalog, hsequences⟩
      · obtain ⟨hcatalog', hsequences'⟩ := ih a (s.issue env q).2
        rw [hrun]
        exact ⟨hcatalog'.trans hcatalog, Sequences.le_trans hsequences hsequences'⟩

/-- A token that is cancelled stays so. -/
theorem run_cancelled (env : Surroundings) (w : Work α) (h : s.cancelled = true) :
    (w.run env s).2.cancelled = true := by
  induction w generalizing s with
  | done a => exact h
  | fail e => exact h
  | crash => exact h
  | cancel next ih => exact ih rfl
  | call q next ih =>
      have hissue : (s.issue env q).2.cancelled = true := (s.issue_proper env q).2.2.trans h
      rcases run_call env q next s with ⟨hscope, -⟩ | ⟨a, -, hrun⟩
      · rw [hscope]
        exact hissue
      · rw [hrun]
        exact ih a hissue

/-- Once its token is cancelled a unit changes nothing. -/
theorem run_db_of_cancelled (env : Surroundings) (w : Work α) (h : s.cancelled = true) :
    (w.run env s).2.db = s.db := by
  induction w generalizing s with
  | done a => rfl
  | fail e => rfl
  | crash => rfl
  | cancel next ih => exact ih rfl
  | call q next ih =>
      have hdb := s.issue_db_of_cancelled h env q
      rcases run_call env q next s with ⟨hscope, -⟩ | ⟨a, ha, -⟩
      · rw [hscope, hdb]
      · -- no query is answered any more
        have hcancelled := (Scope.issue_ok ha).1
        rw [h] at hcancelled
        cases hcancelled

/-- A unit that ends with a value has not spoiled its scope, and has run its
statements as if each had been submitted by itself. -/
theorem run_ok {w : Work α} {v : α} (h : w.run env s = (.ok v, s')) (hspoiled : s.spoiled = false) :
    s'.spoiled = false ∧ (s'.cancelled = false →
      w.submitEach (fun n => env.clock (s.calls.length + n)) s.db =
        { outcome := .ok v, db := s'.db }) := by
  induction w generalizing s with
  | done a =>
      cases h
      exact ⟨hspoiled, fun _ => rfl⟩
  | fail e => cases h
  | crash => cases h
  | cancel next ih =>
      -- the scope is cancelled to its end, so there is nothing to show
      have hcancelled : s'.cancelled = true := by
        have := run_cancelled env next (s := s.cancel) rfl
        rw [show next.run env s.cancel = (.ok v, s') from h] at this
        exact this
      refine ⟨(ih h hspoiled).1, fun hkept => ?_⟩
      rw [hcancelled] at hkept
      cases hkept
  | call q next ih =>
      rcases run_call env q next s with ⟨-, hnot⟩ | ⟨a, ha, hrun⟩
      · exact absurd (congrArg Prod.fst h) (hnot v)
      · obtain ⟨-, -, hpossible, hresult, hscope⟩ := Scope.issue_ok ha
        rw [hrun, hscope] at h
        obtain ⟨hsound, hrest⟩ := ih a h hspoiled
        refine ⟨hsound, fun hkept => ?_⟩
        -- behind the statement the clock is read once more
        have hclock : (fun n => env.clock (s.calls.length + (n + 1))) =
            fun n => env.clock ((q :: s.calls).length + n) := by
          funext n
          rw [List.length_cons]
          congr 1
          omega
        have hsubmit := submit_ok_iff.mpr ⟨hpossible, hresult, rfl⟩
        simp only [submitEach, Nat.add_zero, hsubmit, hclock]
        exact hrest hkept

end Work

/-! ### Work over other sequences -/

/-- The scope over other sequences. -/
def Scope.withSequences (s : Scope) (t : Sequences) : Scope :=
  { s with db := s.db.withSequences t }

/-- The outcome over other sequences. -/
def Ran.withSequences (r : Ran α) (t : Sequences) : Ran α :=
  { r with db := r.db.withSequences t }

variable {t : Sequences}

/-- A query that draws no id does not see how many ids are gone. -/
theorem Scope.issue_withSequences {q : Query}
    (h : (s.issue env q).2.db.sequences = s.db.sequences) (ht : s.db.sequences ≤ t) :
    (s.withSequences t).issue env q =
      ((s.issue env q).1, (s.issue env q).2.withSequences t) := by
  unfold issue answer at h ⊢
  dsimp only [Scope.withSequences] at h ⊢
  by_cases hfail : env.failOn = some q.name
  · rw [if_pos hfail, if_pos hfail]
  rw [if_neg hfail] at h
  rw [if_neg hfail, if_neg hfail]
  by_cases himpossible : q.isImpossible (env.clock s.calls.length) = true
  · rw [if_pos himpossible, if_pos himpossible]
  rw [if_neg himpossible] at h
  rw [if_neg himpossible, if_neg himpossible]
  by_cases hcancelled : s.cancelled = true
  · rw [if_pos hcancelled, if_pos hcancelled]
  rw [if_neg hcancelled] at h
  rw [if_neg hcancelled, if_neg hcancelled]
  by_cases hspoiled : s.spoiled = true
  · rw [if_pos hspoiled, if_pos hspoiled]
  rw [if_neg hspoiled] at h
  rw [if_neg hspoiled, if_neg hspoiled, perform_withSequences h ht]
  rfl

/-- Nor does a unit of which no statement draws one. -/
theorem Work.run_withSequences {w : Work α}
    (h : (w.run env s).2.db.sequences = s.db.sequences) (ht : s.db.sequences ≤ t) :
    w.run env (s.withSequences t) = ((w.run env s).1, (w.run env s).2.withSequences t) := by
  induction w generalizing s with
  | done a => rfl
  | fail e => rfl
  | crash => rfl
  | cancel next ih => exact ih (s := s.cancel) h ht
  | call q next ih =>
      obtain ⟨-, hforward, -⟩ := s.issue_proper env q
      -- the statement draws no id, since the sequences do not come back
      have hissued : (s.issue env q).2.db.sequences = s.db.sequences := by
        rcases run_call env q next s with ⟨hscope, -⟩ | ⟨a, -, hrun⟩
        · rw [← hscope]
          exact h
        · obtain ⟨-, hrest⟩ := run_proper env (next a) (s.issue env q).2
          rw [hrun] at h
          rw [h] at hrest
          exact Sequences.le_antisymm hrest hforward
      have hissue := Scope.issue_withSequences hissued ht
      simp only [run, hissue] at h ⊢
      rcases houtcome : s.issue env q with ⟨outcome, s'⟩
      rw [houtcome] at h hissued
      cases outcome with
      | ok a => exact ih a (h.trans hissued.symm) (hissued.symm ▸ ht)
      | error e => rfl
      | crash => rfl

/-- Whether it is kept or not, a unit leaves the sequences where it took
them. -/
theorem Scope.close_sequences (start : Database) (outcome : Outcome α) (s : Scope) :
    (s.close start outcome).db.sequences = s.db.sequences := by
  unfold close
  cases outcome with
  | ok v => cases s.cancelled <;> cases s.spoiled <;> rfl
  | error e => rfl
  | crash => rfl

theorem Scope.close_withSequences (start : Database) (outcome : Outcome α) (s : Scope)
    (t : Sequences) :
    (s.withSequences t).close (start.withSequences t) outcome =
      (s.close start outcome).withSequences t := by
  unfold close withSequences
  cases outcome with
  | ok v => cases s.cancelled <;> cases s.spoiled <;> rfl
  | error e => rfl
  | crash => rfl

/-- Nor does its execution. -/
theorem Work.execute_withSequences {token : CancelToken} {w : Work α} {db : Database}
    (h : (w.execute env token db).db.sequences = db.sequences) (ht : db.sequences ≤ t) :
    w.execute env token (db.withSequences t) = (w.execute env token db).withSequences t := by
  unfold execute at h ⊢
  cases htoken : token.check with
  | error e => rfl
  | ok u =>
      rw [htoken] at h
      -- closing leaves the sequences where the unit has left them
      have hdrawn : (w.run env { db }).2.db.sequences = db.sequences := by
        rw [← h]
        exact (Scope.close_sequences db _ _).symm
      have hrun := run_withSequences (s := { db }) hdrawn ht
      have hscope : ({ db := db.withSequences t } : Scope) =
          ({ db } : Scope).withSequences t := rfl
      simp only [hscope, hrun]
      exact Scope.close_withSequences db _ _ t

/-! ### Atomicity -/

/-- What holds of the execution of a unit of work. -/
structure Work.Atomic (env : Surroundings) (token : CancelToken) (w : Work α) (db : Database) :
    Prop where
  /-- It succeeds exactly when the unit does with its token not cancelled. -/
  ok_iff : ∀ v, (w.execute env token db).outcome = .ok v ↔
    token.isCancelled = false ∧ (w.run env { db }).1 = .ok v ∧
      (w.run env { db }).2.cancelled = false
  /-- Then the statements of the unit have been run in order. -/
  kept : ∀ v, (w.execute env token db).outcome = .ok v →
    w.submitEach env.clock db = { outcome := .ok v, db := (w.execute env token db).db }
  /-- Otherwise all is as before, except that the sequences may have moved. -/
  undone : (∀ v, (w.execute env token db).outcome ≠ .ok v) →
    ∃ s, db.sequences ≤ s ∧ (w.execute env token db).db = db.withSequences s
  /-- A token that is cancelled beforehand keeps the unit from starting. -/
  unstarted : token.isCancelled = true →
    (w.execute env token db) = { outcome := .error .cancelled, db }
  /-- An error is the unit's own, or tells that a unit without one was cancelled. -/
  error_iff : ∀ e, (w.execute env token db).outcome = .error e ↔
    if token.isCancelled then e = .cancelled
    else (w.run env { db }).1 = .error e ∨
      e = .cancelled ∧ (∃ v, (w.run env { db }).1 = .ok v) ∧ (w.run env { db }).2.cancelled = true
  /-- Only a unit that breaks off makes the execution break off. -/
  crash_iff : (w.execute env token db).outcome = .crash ↔
    token.isCancelled = false ∧ (w.run env { db }).1 = .crash
  /-- Behind a cancellation nothing changes, whatever is left of the unit. -/
  silent : ∀ (rest : Work α) (s : Scope), ((Work.cancel rest).run env s).2.db = s.db ∧
    ((Work.cancel rest).run env s).2.cancelled = true
  /-- Nor is any statement answered there but with the cancellation, unless it
  breaks off on the way to the token. -/
  refused : ∀ (q : Query) (s : Scope), s.cancelled = true → env.failOn ≠ some q.name →
    (s.issue env q).1 =
      if q.isImpossible (env.clock s.calls.length) then .crash else .error .cancelled
  /-- A later unit runs as if one that was not kept had not been executed,
  unless it draws ids; -/
  later : (∀ v, (w.execute env token db).outcome ≠ .ok v) →
    ∀ {β : Type} (env' : Surroundings) (token' : CancelToken) (w' : Work β),
      (w'.execute env' token' db).db.sequences = db.sequences →
        w'.execute env' token' (w.execute env token db).db =
          (w'.execute env' token' db).withSequences (w.execute env token db).db.sequences
  /-- and a later query that draws one does the same under another id. -/
  later_draw : (∀ v, (w.execute env token db).outcome ≠ .ok v) →
    (w.execute env token db).db.sequences.Available → ∀ (now : Instant) (q : Query),
      q.SameButId (q.perform now db) (q.perform now (w.execute env token db).db)

variable {o : Outcome α} {start db : Database} {token : CancelToken}

/-- A token that is cancelled keeps every unit from starting. -/
theorem Work.execute_cancelled (h : token.isCancelled = true)
    (env : Surroundings) (w : Work α) (db : Database) :
    w.execute env token db = { outcome := .error .cancelled, db } := by
  unfold execute CancelToken.check
  rw [h]
  rfl

/-- With any other token it is run in a scope of its own. -/
theorem Work.execute_eq_close (h : token.isCancelled = false)
    (env : Surroundings) (w : Work α) (db : Database) :
    w.execute env token db = (w.run env { db }).2.close db (w.run env { db }).1 := by
  unfold execute CancelToken.check
  rw [h]
  rfl

namespace Scope

theorem close_ok_iff {v : α} :
    (s.close start o).outcome = .ok v ↔ o = .ok v ∧ s.cancelled = false := by
  unfold close
  cases o with
  | ok a => cases s.cancelled <;> cases s.spoiled <;> simp
  | error e => simp
  | crash => simp

theorem close_error_iff {e : Error} :
    (s.close start o).outcome = .error e ↔
      o = .error e ∨ e = .cancelled ∧ (∃ v, o = .ok v) ∧ s.cancelled = true := by
  unfold close
  cases o with
  | ok a => cases s.cancelled <;> cases s.spoiled <;> simp [eq_comm]
  | error e => simp
  | crash => simp

theorem close_crash_iff : (s.close start o).outcome = .crash ↔ o = .crash := by
  unfold close
  cases o with
  | ok a => cases s.cancelled <;> cases s.spoiled <;> simp
  | error e => simp
  | crash => simp

/-- A scope that is not closed with success goes back to where it started. -/
theorem close_undone (h : ∀ v, (s.close start o).outcome ≠ .ok v) :
    (s.close start o).db = start.withSequences s.db.sequences := by
  unfold close at h ⊢
  cases o with
  | ok a =>
      cases hcancelled : s.cancelled with
      | true => rfl
      | false =>
          rw [hcancelled] at h
          cases hspoiled : s.spoiled with
          | true => rfl
          | false =>
              rw [hspoiled] at h
              exact absurd rfl (h a)
  | error e => rfl
  | crash => rfl

/-- A scope that is closed with success, and is not spoiled, is kept. -/
theorem close_kept {v : α} (h : (s.close start o).outcome = .ok v) (hspoiled : s.spoiled = false) :
    (s.close start o).db = s.db := by
  obtain ⟨rfl, hcancelled⟩ := close_ok_iff.mp h
  unfold close
  rw [hcancelled, hspoiled]
  rfl

end Scope

namespace Work

/-- An execution that succeeds has run the statements of its unit in order. -/
theorem execute_kept {w : Work α} {v : α} (h : (w.execute env token db).outcome = .ok v) :
    w.submitEach env.clock db = { outcome := .ok v, db := (w.execute env token db).db } := by
  cases htoken : token.isCancelled with
  | true =>
      rw [execute_cancelled htoken] at h
      cases h
  | false =>
      rw [execute_eq_close htoken] at h ⊢
      obtain ⟨hunit, hcancelled⟩ := Scope.close_ok_iff.mp h
      obtain ⟨hspoiled, hkept⟩ := run_ok (s := { db }) (Prod.ext hunit rfl) rfl
      rw [Scope.close_kept h hspoiled]
      simpa only [List.length_nil, Nat.zero_add] using hkept hcancelled

/-- One that does not succeed changes at most the sequences. -/
theorem execute_undone {w : Work α} (h : ∀ v, (w.execute env token db).outcome ≠ .ok v) :
    ∃ s, db.sequences ≤ s ∧ (w.execute env token db).db = db.withSequences s := by
  cases htoken : token.isCancelled with
  | true =>
      rw [execute_cancelled htoken]
      exact ⟨db.sequences, Sequences.le_refl _, rfl⟩
  | false =>
      rw [execute_eq_close htoken] at h ⊢
      exact ⟨_, (run_proper env w { db }).2, Scope.close_undone h⟩

/-- **The execution of a unit of work is atomic.** -/
theorem execute_atomic (env : Surroundings) (token : CancelToken) (w : Work α) (db : Database) :
    w.Atomic env token db where
  ok_iff v := by
    cases htoken : token.isCancelled with
    | true =>
        rw [execute_cancelled htoken]
        simp only [reduceCtorEq, false_and]
    | false =>
        rw [execute_eq_close htoken, Scope.close_ok_iff]
        simp only [true_and]
  kept _ := execute_kept
  undone := execute_undone
  unstarted h := execute_cancelled h env w db
  error_iff e := by
    cases htoken : token.isCancelled with
    | true =>
        rw [execute_cancelled htoken]
        simp only [Outcome.error.injEq, if_true]
        exact eq_comm
    | false =>
        rw [execute_eq_close htoken, Scope.close_error_iff]
        simp only [Bool.false_eq_true, if_false]
  crash_iff := by
    cases htoken : token.isCancelled with
    | true =>
        rw [execute_cancelled htoken]
        simp only [reduceCtorEq, false_and]
    | false =>
        rw [execute_eq_close htoken, Scope.close_crash_iff]
        simp only [true_and]
  silent rest s :=
    ⟨run_db_of_cancelled env rest (s := s.cancel) rfl, run_cancelled env rest (s := s.cancel) rfl⟩
  refused q s h hfail := Scope.issue_outcome_of_cancelled h hfail
  later h _ env' token' w' hdraws := by
    obtain ⟨s, hs, hdb⟩ := execute_undone h
    rw [hdb]
    exact execute_withSequences hdraws hs
  later_draw h havailable now q := by
    obtain ⟨s, hs, hdb⟩ := execute_undone h
    rw [hdb] at havailable ⊢
    exact perform_sameButId hs havailable

end Work

end DoubleEntry
