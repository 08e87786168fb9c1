/-
DoubleEntry/Proofs/Store/Steady.lean

Units that nothing disturbs.  Where the token is left alone and no query is
made to fail, a transaction adds nothing to a unit but the way back: its
queries are answered as if each were submitted by itself, and the unit ends
the same (`run_eq_submitEach`).

* `execute_of_answered`: a unit that gives a value by itself is kept.
* `execute_of_refused`: one that fails leaves the rows alone, and fails with
  the same error.

What a unit does by itself is found out query by query, from the front
(`submitEach_of_answered`, `submitEach_of_refused`, `submitEach_map`).
-/
import DoubleEntry.Proofs.Store.Atomicity

namespace DoubleEntry

variable {α : Type} {env : Surroundings} {db db' : Database} {s : Scope} {token : CancelToken}

/-! ### Queries of an undisturbed scope -/

/-- In a scope that is neither cancelled nor spoiled a query ends as if it
were submitted by itself, and one that is answered leaves the scope so. -/
theorem Scope.issue_eq_submit (hfail : env.failOn = none) (hcancelled : s.cancelled = false)
    (hspoiled : s.spoiled = false) (q : Query) :
    let ran := submit (env.clock s.calls.length) q s.db
    (s.issue env q).1 = ran.outcome ∧ (s.issue env q).2.db = ran.db ∧
      (s.issue env q).2.cancelled = false ∧ (s.issue env q).2.calls = q :: s.calls ∧
        ∀ a, ran.outcome = .ok a → (s.issue env q).2.spoiled = false := by
  intro ran
  have hnot : ¬ env.failOn = some q.name := by rw [hfail]; simp
  by_cases himpossible : q.isImpossible (env.clock s.calls.length) = true
  · -- the query breaks off before it gets to the database
    have hissue : s.issue env q = (.crash, { s with calls := q :: s.calls }) := by
      simp only [issue, if_neg hnot, if_pos himpossible]
    have hran : ran = { outcome := .crash, db := s.db } := if_pos himpossible
    rw [hissue, hran]
    exact ⟨rfl, rfl, hcancelled, rfl, fun _ h => by cases h⟩
  · let p := q.perform (env.clock s.calls.length) s.db
    have hissue : s.issue env q = (.ofExcept p.result,
        { s with db := p.db, spoiled := p.spoils, calls := q :: s.calls }) := by
      simp only [issue, answer, if_neg hnot, if_neg himpossible, hcancelled, hspoiled,
        Bool.false_eq_true, if_false]
      rfl
    have hran : ran = { outcome := .ofExcept p.result, db := p.db } :=
      submit_of_perform (Bool.eq_false_iff.mpr himpossible) rfl
    rw [hissue, hran]
    refine ⟨rfl, rfl, hcancelled, rfl, ?_⟩
    intro a ha
    have hok : p.result = .ok a := by
      cases hr : p.result with
      | ok b =>
          rw [hr] at ha
          cases ha
          rfl
      | error e =>
          rw [hr] at ha
          cases ha
    exact (perform_proper _ q s.db).sound a hok

/-! ### Undisturbed units -/

namespace Work

/-- The unit leaves its token alone. -/
def NeverCancels : Work α → Prop
  | done _ => True
  | fail _ => True
  | crash => True
  | cancel _ => False
  | call _ next => ∀ a, (next a).NeverCancels

theorem neverCancels_query (q : Query) : (query q).NeverCancels :=
  fun _ => trivial

theorem neverCancels_bind {β : Type} {w : Work β} {f : β → Work α} (hw : w.NeverCancels)
    (hf : ∀ b, (f b).NeverCancels) : (w >>= f).NeverCancels := by
  induction w with
  | done b => exact hf b
  | fail e => trivial
  | crash => trivial
  | cancel next ih => exact hw.elim
  | call q next ih => exact fun a => ih a (hw a)

theorem neverCancels_check (r : Except Error α) : (check r).NeverCancels := by
  cases r <;> trivial

/-- In a transaction such a unit ends as by itself, over the same database.
If it gives a value, it leaves the scope as undisturbed as it was. -/
theorem run_eq_submitEach {w : Work α} (hw : w.NeverCancels) (hfail : env.failOn = none)
    (hcancelled : s.cancelled = false) (hspoiled : s.spoiled = false) :
    let ran := w.submitEach (fun n => env.clock (s.calls.length + n)) s.db
    (w.run env s).1 = ran.outcome ∧ (w.run env s).2.db = ran.db ∧
      (w.run env s).2.cancelled = false ∧
        ∀ v, ran.outcome = .ok v → (w.run env s).2.spoiled = false := by
  induction w generalizing s with
  | done a => exact ⟨rfl, rfl, hcancelled, fun _ _ => hspoiled⟩
  | fail e => exact ⟨rfl, rfl, hcancelled, fun _ h => by cases h⟩
  | crash => exact ⟨rfl, rfl, hcancelled, fun _ h => by cases h⟩
  | cancel next ih => exact hw.elim
  | call q next ih =>
      obtain ⟨houtcome, hdb, hcancelled', hcalls, hsound⟩ :=
        Scope.issue_eq_submit hfail hcancelled hspoiled q
      simp only [run, submitEach, Nat.add_zero]
      rcases hissue : s.issue env q with ⟨outcome, s'⟩
      rcases hsubmit : submit (env.clock s.calls.length) q s.db with ⟨outcome', db'⟩
      rw [hissue, hsubmit] at houtcome hdb hsound
      rw [hissue] at hcancelled' hcalls
      obtain rfl : outcome = outcome' := houtcome
      obtain rfl : s'.db = db' := hdb
      cases outcome with
      | ok a =>
          -- the clock has been read once more behind the query
          have hclock : (fun n => env.clock (s.calls.length + (n + 1))) =
              fun n => env.clock (s'.calls.length + n) := by
            funext n
            rw [show s'.calls = q :: s.calls from hcalls, List.length_cons]
            congr 1
            omega
          simp only [hclock]
          exact ih a (hw a) hcancelled' (hsound a rfl)
      | error e => exact ⟨rfl, rfl, hcancelled', fun _ h => by cases h⟩
      | crash => exact ⟨rfl, rfl, hcancelled', fun _ h => by cases h⟩

/-- A unit that gives a value by itself is kept. -/
theorem execute_of_answered {w : Work α} {v : α} (hw : w.NeverCancels) (hfail : env.failOn = none)
    (htoken : token.isCancelled = false)
    (h : w.submitEach env.clock db = { outcome := .ok v, db := db' }) :
    w.execute env token db = { outcome := .ok v, db := db' } := by
  obtain ⟨houtcome, hdb, hcancelled, hsound⟩ := run_eq_submitEach (s := { db }) hw hfail rfl rfl
  simp only [List.length_nil, Nat.zero_add, h] at houtcome hdb hsound
  have hspoiled := hsound v rfl
  rw [execute_eq_close htoken, houtcome]
  simp only [Scope.close, hcancelled, hspoiled, Bool.false_eq_true, if_false, hdb]

/-- A unit that fails by itself is undone; the ids it has drawn are gone. -/
theorem execute_of_refused {w : Work α} {e : Error} (hw : w.NeverCancels)
    (hfail : env.failOn = none) (htoken : token.isCancelled = false)
    (h : w.submitEach env.clock db = { outcome := .error e, db := db' }) :
    w.execute env token db = { outcome := .error e, db := db.withSequences db'.sequences } := by
  obtain ⟨houtcome, hdb, -, -⟩ := run_eq_submitEach (s := { db }) hw hfail rfl rfl
  simp only [List.length_nil, Nat.zero_add, h] at houtcome hdb
  rw [execute_eq_close htoken, houtcome]
  simp only [Scope.close, Scope.rolledBack, hdb]
  rfl

/-- A unit that breaks off by itself does so in a transaction. -/
theorem execute_of_crashed {w : Work α} (hw : w.NeverCancels) (hfail : env.failOn = none)
    (htoken : token.isCancelled = false)
    (h : w.submitEach env.clock db = { outcome := .crash, db := db' }) :
    w.execute env token db = { outcome := .crash, db := db.withSequences db'.sequences } := by
  obtain ⟨houtcome, hdb, -, -⟩ := run_eq_submitEach (s := { db }) hw hfail rfl rfl
  simp only [List.length_nil, Nat.zero_add, h] at houtcome hdb
  rw [execute_eq_close htoken, houtcome]
  simp only [Scope.close, Scope.rolledBack, hdb]
  rfl

/-! ### Units by themselves, from the front -/

section Front

variable {β : Type} (clock : Nat → Instant) {q : Query} {f : q.Answer → Work α}

/-- Behind a query that is answered the rest goes on. -/
theorem submitEach_of_answered {a : q.Answer}
    (h : submit (clock 0) q db = { outcome := .ok a, db := db' }) :
    (query q >>= f).submitEach clock db = (f a).submitEach (fun n => clock (n + 1)) db' := by
  show (call q f).submitEach clock db = _
  simp only [submitEach, h]

/-- A query that fails ends the unit. -/
theorem submitEach_of_refused {e : Error}
    (h : submit (clock 0) q db = { outcome := .error e, db := db' }) :
    (query q >>= f).submitEach clock db = { outcome := .error e, db := db' } := by
  show (call q f).submitEach clock db = _
  simp only [submitEach, h]

/-- What is made of the value of a unit takes no further query. -/
theorem submitEach_map (w : Work β) (g : β → α) (clock : Nat → Instant) (db : Database) :
    (w >>= fun b => done (g b)).submitEach clock db = (w.submitEach clock db).map g := by
  induction w generalizing clock db with
  | done b => rfl
  | fail e => rfl
  | crash => rfl
  | cancel next ih => exact ih clock db
  | call q next ih =>
      show (call q fun a => next a >>= fun b => done (g b)).submitEach clock db = _
      simp only [submitEach]
      rcases submit (clock 0) q db with ⟨outcome, db'⟩
      cases outcome with
      | ok a => exact ih a _ db'
      | error e => rfl
      | crash => rfl

end Front

end Work

end DoubleEntry
