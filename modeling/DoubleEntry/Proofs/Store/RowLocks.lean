/-
DoubleEntry/Proofs/Store/RowLocks.lean

Units of work side by side, on a store that locks rows.  A query that reads an
account for an update, or adds to its balance, locks the row of the account;
the row stays locked until the unit ends.  A unit whose next query is about a
row that another unit has locked waits, and any unit that does not wait may
take the next step.  How the store answers, and what its state is, is left
open (`LockingStore`).

A unit locks upwards if each row that it asks for has no lower id than those
that it has locked (`Work.LocksUpwards`), whatever it is answered.  Where all
units do, the rows that are waited for grow along every chain of units in
which each waits for the next (`System.Ordered.rows_grow`).  Hence

* no chain closes to a circle (`System.Ordered.no_circle`), and
* while a unit has not ended, some unit can take a step
  (`System.Ordered.progress`), since the last unit of a chain waits for none.

The first fails if the order is not kept: two units that lock two rows the one
up and the other down may wait for each other (`opposite_orders_block`).
-/
import Mathlib.Data.Fintype.Card
import Mathlib.Data.Fintype.EquivFin
import Mathlib.Order.WellFounded
import DoubleEntry.Store.Work

namespace DoubleEntry

open Relation

variable {α β σ : Type} {n : ℕ}

/-! ### Rows that are locked -/

/-- The account whose row a query locks. -/
def Query.lockedRow? : Query → Option Int64
  | .accountForUpdate id => some id
  | .addBalance id _ => some id
  | _ => none

/-- A store that `n` units of work use at the same time, with a state of its
own. -/
structure LockingStore (n : ℕ) (σ : Type) where
  /-- Whether an account has a row that can be locked. -/
  hasRow : σ → Int64 → Bool
  /-- Answers a query of a unit. -/
  answer : Fin n → (q : Query) → σ → Outcome q.Answer × σ
  /-- Cancels the token of a unit. -/
  cancel : Fin n → σ → σ
  /-- Ends the transaction of a unit, which ended with a value or not. -/
  close : Fin n → Bool → σ → σ

/-- The rows that a unit has locked behind a query. -/
def LockingStore.lock (store : LockingStore n σ) (q : Query) (state : σ) (locked : List Int64) :
    List Int64 :=
  (q.lockedRow?.filter (store.hasRow state)).toList ++ locked

/-! ### Units that are under way -/

/-- What is left of a unit of work, and the rows that it has locked. -/
inductive Task (α : Type) where
  | running (w : Work α) (locked : List Int64)
  | ended (outcome : Outcome α)

/-- Work that goes on from the outcome of a query: it hands on the first
error. -/
def Work.resume (next : β → Work α) : Outcome β → Work α
  | .ok b => next b
  | .error e => .fail e
  | .crash => .crash

namespace Task

/-- The rows that a unit has locked; they are free once it has ended. -/
def locked : Task α → List Int64
  | running _ rows => rows
  | ended _ => []

/-- The row that the next query of a unit locks. -/
def wanted? : Task α → Option Int64
  | running (.call q _) _ => q.lockedRow?
  | _ => none

/-- Whether a unit has ended. -/
def isEnded : Task α → Bool
  | running _ _ => false
  | ended _ => true

/-- One step of a unit on its own: a query, or the end of its transaction. -/
def next? (store : LockingStore n σ) (u : Fin n) : Task α → σ → Option (Task α × σ)
  | running (.done a) _, state => some (ended (.ok a), store.close u true state)
  | running (.fail e) _, state => some (ended (.error e), store.close u false state)
  | running .crash _, state => some (ended .crash, store.close u false state)
  | running (.cancel w) rows, state => some (running w rows, store.cancel u state)
  | running (.call q next) rows, state =>
      let (outcome, state') := store.answer u q state
      some (running (.resume next outcome) (store.lock q state rows), state')
  | ended _, _ => none

end Task

/-! ### Units side by side -/

/-- Units of work under way on one store. -/
structure System (Answer : Fin n → Type) (σ : Type) where
  state : σ
  tasks : ∀ u, Task (Answer u)

namespace System

variable {Answer : Fin n → Type} {store : LockingStore n σ} {s s' : System Answer σ}
  {u v w : Fin n} {row row' : Int64}

/-- The next query of one unit is about a row that the other has locked. -/
def WaitsFor (s : System Answer σ) (u v : Fin n) : Prop :=
  u ≠ v ∧ ∃ row ∈ (s.tasks v).locked, (s.tasks u).wanted? = some row

instance (s : System Answer σ) : DecidableRel s.WaitsFor :=
  fun u v => inferInstanceAs (Decidable (u ≠ v ∧ _))

/-- The units when one of them has come to a task and the store to a state. -/
def proceed (s : System Answer σ) (u : Fin n) (p : Task (Answer u) × σ) : System Answer σ where
  state := p.2
  tasks := Function.update s.tasks u p.1

@[simp] theorem proceed_self (p : Task (Answer u) × σ) : (s.proceed u p).tasks u = p.1 :=
  Function.update_self ..

theorem proceed_of_ne (h : v ≠ u) (p : Task (Answer u) × σ) :
    (s.proceed u p).tasks v = s.tasks v :=
  Function.update_of_ne h ..

/-- The step of a unit, unless it waits or has ended. -/
def step? (store : LockingStore n σ) (s : System Answer σ) (u : Fin n) :
    Option (System Answer σ) :=
  if ∃ v, s.WaitsFor u v then none
  else ((s.tasks u).next? store u s.state).map (s.proceed u)

/-- The units after some turns; a unit that waits or has ended lets its turn
pass. -/
def after (store : LockingStore n σ) (s : System Answer σ) (turns : List (Fin n)) :
    System Answer σ :=
  turns.foldl (fun s u => (s.step? store u).getD s) s

/-- What the units have at first, and every step keeps, they have after all
turns. -/
theorem after_induction {motive : System Answer σ → Prop} (start : motive s)
    (step : ∀ {s s' u}, motive s → s.step? store u = some s' → motive s')
    (turns : List (Fin n)) : motive (s.after store turns) := by
  induction turns generalizing s with
  | nil => exact start
  | cons u turns ih =>
      show motive (((s.step? store u).getD s).after store turns)
      cases hstep : s.step? store u with
      | none => exact ih start
      | some s' => exact ih (step start hstep)

/-- A unit that takes a step waits for none, and the step is its own. -/
theorem step?_eq_some (h : s.step? store u = some s') :
    (∀ v, ¬ s.WaitsFor u v) ∧ ∃ task state,
      (s.tasks u).next? store u s.state = some (task, state) ∧ s.proceed u (task, state) = s' := by
  unfold step? at h
  split at h
  case isTrue => cases h
  case isFalse hfree =>
    obtain ⟨⟨task, state⟩, hnext, hs'⟩ := Option.map_eq_some_iff.mp h
    exact ⟨not_exists.mp hfree, task, state, hnext, hs'⟩

/-- A unit that has not ended takes a step, or it waits. -/
theorem step?_or_waits (store : LockingStore n σ) (h : (s.tasks u).isEnded = false) :
    (∃ s', s.step? store u = some s') ∨ ∃ v, s.WaitsFor u v := by
  by_cases hwaits : ∃ v, s.WaitsFor u v
  · exact .inr hwaits
  · have hnext : ∃ p, (s.tasks u).next? store u s.state = some p := by
      cases htask : s.tasks u with
      | ended outcome =>
          rw [htask] at h
          cases h
      | running w rows => cases w <;> exact ⟨_, rfl⟩
    obtain ⟨p, hp⟩ := hnext
    refine .inl ⟨s.proceed u p, ?_⟩
    unfold step?
    rw [if_neg hwaits, hp, Option.map_some]

end System

/-! ### Locking upwards -/

/-- Behind the rows that are locked, the unit locks no row with a lower id. -/
def Work.LocksUpwards : List Int64 → Work α → Prop
  | _, done _ => True
  | _, fail _ => True
  | _, crash => True
  | locked, cancel next => next.LocksUpwards locked
  | locked, call q next =>
      (∀ row ∈ q.lockedRow?, ∀ r ∈ locked, r.toInt ≤ row.toInt) ∧
        ∀ a, (next a).LocksUpwards (q.lockedRow?.toList ++ locked)

/-- What is left of the unit locks upwards. -/
def Task.LocksUpwards : Task α → Prop
  | running w locked => w.LocksUpwards locked
  | ended _ => True

namespace Work

/-- With fewer rows locked, the unit still locks upwards. -/
theorem LocksUpwards.of_subset {w : Work α} {locked locked' : List Int64}
    (h : w.LocksUpwards locked) (hsub : locked' ⊆ locked) : w.LocksUpwards locked' := by
  induction w generalizing locked locked' with
  | done a => trivial
  | fail e => trivial
  | crash => trivial
  | cancel next ih => exact ih h hsub
  | call q next ih =>
      obtain ⟨hrow, hnext⟩ := h
      refine ⟨fun row hq r hr => hrow row hq r (hsub hr), fun a => ih a (hnext a) ?_⟩
      exact List.append_subset.mpr
        ⟨List.subset_append_left _ _, List.Subset.trans hsub (List.subset_append_right _ _)⟩

/-- A unit that goes on locks upwards, if it does whatever it is answered. -/
theorem locksUpwards_resume {next : β → Work α} {locked : List Int64}
    (h : ∀ b, (next b).LocksUpwards locked) (outcome : Outcome β) :
    (resume next outcome).LocksUpwards locked := by
  cases outcome with
  | ok b => exact h b
  | error e => trivial
  | crash => trivial

end Work

namespace Task

variable {store : LockingStore n σ} {u : Fin n} {t t' : Task α} {state state' : σ}

/-- A row that the unit asks for is no lower than those it has locked. -/
theorem LocksUpwards.le_wanted (h : t.LocksUpwards) {row r : Int64}
    (hwanted : t.wanted? = some row) (hr : r ∈ t.locked) : r.toInt ≤ row.toInt := by
  cases t with
  | ended outcome => cases hwanted
  | running w rows =>
      cases w with
      | call q next => exact h.1 row hwanted r hr
      | _ => cases hwanted

/-- Each step leaves a unit that locks upwards. -/
theorem LocksUpwards.next (h : t.LocksUpwards) (hnext : t.next? store u state = some (t', state')) :
    t'.LocksUpwards := by
  cases t with
  | ended outcome => cases hnext
  | running w rows =>
      cases w with
      | done a => cases hnext; trivial
      | fail e => cases hnext; trivial
      | crash => cases hnext; trivial
      | cancel w => cases hnext; exact h
      | call q next =>
          cases hnext
          refine Work.locksUpwards_resume (fun b => (h.2 b).of_subset ?_) _
          -- the row may be missing, so that nothing is locked
          refine List.append_subset.mpr ⟨?_, List.subset_append_right _ _⟩
          intro row hrow
          exact List.mem_append_left _
            (Option.mem_toList.mpr (Option.filter_eq_some_iff.mp (Option.mem_toList.mp hrow)).1)

/-- The only row that a step locks is the one that was asked for. -/
theorem locked_next (hnext : t.next? store u state = some (t', state')) {row : Int64}
    (hrow : row ∈ t'.locked) : row ∈ t.locked ∨ t.wanted? = some row := by
  cases t with
  | ended outcome => cases hnext
  | running w rows =>
      cases w with
      | done a => cases hnext; cases hrow
      | fail e => cases hnext; cases hrow
      | crash => cases hnext; cases hrow
      | cancel w => cases hnext; exact .inl hrow
      | call q next =>
          cases hnext
          rcases List.mem_append.mp hrow with hnew | hold
          · exact .inr (Option.filter_eq_some_iff.mp (Option.mem_toList.mp hnew)).1
          · exact .inl hold

end Task

/-! ### No circle of waiting units -/

namespace System

variable {Answer : Fin n → Type} {store : LockingStore n σ} {s s' : System Answer σ}
  {u v w : Fin n} {row row' : Int64}

/-- No row is locked twice, and every unit locks upwards. -/
structure Ordered (s : System Answer σ) : Prop where
  exclusive : ∀ {u v row}, row ∈ (s.tasks u).locked → row ∈ (s.tasks v).locked → u = v
  upwards : ∀ u, (s.tasks u).LocksUpwards

/-- A unit that waits for another has not been let down: the other is still
under way. -/
theorem WaitsFor.isEnded_eq (h : s.WaitsFor u v) : (s.tasks v).isEnded = false := by
  obtain ⟨-, row, hrow, -⟩ := h
  cases htask : s.tasks v with
  | running w rows => rfl
  | ended outcome =>
      rw [htask] at hrow
      cases hrow

namespace Ordered

/-- Each step keeps the order. -/
theorem step (h : s.Ordered) (hstep : s.step? store u = some s') : s'.Ordered := by
  obtain ⟨hfree, task, state, hnext, rfl⟩ := step?_eq_some hstep
  -- a row of the unit that took the step is locked by no other
  have hown : ∀ {v row}, v ≠ u → row ∈ task.locked → row ∉ (s.tasks v).locked := by
    intro v row hne hrow hother
    rcases Task.locked_next hnext hrow with hold | hwanted
    · exact hne (h.exclusive hother hold)
    · exact hfree v ⟨hne.symm, row, hother, hwanted⟩
  constructor
  case exclusive =>
    intro v w row hv hw
    by_cases hvu : v = u <;> by_cases hwu : w = u
    · rw [hvu, hwu]
    · subst hvu
      rw [proceed_self] at hv
      rw [proceed_of_ne hwu] at hw
      exact absurd hw (hown hwu hv)
    · subst hwu
      rw [proceed_of_ne hvu] at hv
      rw [proceed_self] at hw
      exact absurd hv (hown hvu hw)
    · rw [proceed_of_ne hvu] at hv
      rw [proceed_of_ne hwu] at hw
      exact h.exclusive hv hw
  case upwards =>
    intro v
    by_cases hvu : v = u
    · subst hvu
      rw [proceed_self]
      exact (h.upwards v).next hnext
    · rw [proceed_of_ne hvu]
      exact h.upwards v

/-- A unit that waits, and is waited for, asks for a higher row than the unit
behind it. -/
theorem wanted_lt (h : s.Ordered) (huv : s.WaitsFor u v) (hvw : s.WaitsFor v w)
    (hu : (s.tasks u).wanted? = some row) (hv : (s.tasks v).wanted? = some row') :
    row.toInt < row'.toInt := by
  obtain ⟨-, r, hr, hr'⟩ := huv
  obtain rfl : r = row := Option.some.inj (hr'.symm.trans hu)
  obtain ⟨hne, x, hx, hx'⟩ := hvw
  obtain rfl : x = row' := Option.some.inj (hx'.symm.trans hv)
  have hle : r.toInt ≤ x.toInt := (h.upwards v).le_wanted hv hr
  -- a unit does not wait for a row that it has locked itself
  have hother : r ≠ x := fun heq => hne (h.exclusive (heq ▸ hr) hx)
  have hdiff : r.toInt ≠ x.toInt := fun heq => hother (Int64.toInt_inj.mp heq)
  omega

/-- Along a chain of waiting units, the rows that they ask for grow. -/
theorem rows_grow (h : s.Ordered) (hchain : TransGen s.WaitsFor u v) (hvw : s.WaitsFor v w)
    (hu : (s.tasks u).wanted? = some row) (hv : (s.tasks v).wanted? = some row') :
    row.toInt < row'.toInt := by
  induction hchain generalizing w row' with
  | single huv => exact h.wanted_lt huv hvw hu hv
  | tail _ hxv ih =>
      obtain ⟨-, r, -, hx⟩ := id hxv
      have hlower := ih hxv hx
      have hhigher := h.wanted_lt hxv hvw hx hv
      omega

/-- No unit waits for itself, along whatever chain. -/
theorem no_circle (h : s.Ordered) (u : Fin n) : ¬ TransGen s.WaitsFor u u := by
  intro hchain
  obtain ⟨v, huv, -⟩ := TransGen.head'_iff.mp hchain
  obtain ⟨-, row, -, hu⟩ := id huv
  exact lt_irrefl _ (h.rows_grow hchain huv hu hu)

/-- While a unit has not ended, some unit can take a step. -/
theorem progress (h : s.Ordered) (store : LockingStore n σ)
    (hrunning : ∃ u, (s.tasks u).isEnded = false) : ∃ u s', s.step? store u = some s' := by
  -- the units are finitely many, so that each chain of waiting units has a last
  have htrans : IsTrans (Fin n) fun v u => TransGen s.WaitsFor u v :=
    ⟨fun _ _ _ hba hcb => hcb.trans hba⟩
  have hirrefl : Std.Irrefl fun v u => TransGen s.WaitsFor u v := ⟨h.no_circle⟩
  have hwf := Finite.wellFounded_of_trans_of_irrefl fun v u => TransGen s.WaitsFor u v
  obtain ⟨u, hu, hlast⟩ := hwf.has_min { u | (s.tasks u).isEnded = false } hrunning
  rcases step?_or_waits store hu with ⟨s', hstep⟩ | ⟨v, hwaits⟩
  · exact ⟨u, s', hstep⟩
  · exact absurd (.single hwaits) (hlast v hwaits.isEnded_eq)

end Ordered

end System

/-! ### Rows in opposite orders -/

/-- A store that has every row and grants every addition to a balance. -/
def grantingStore : LockingStore n Unit where
  hasRow _ _ := true
  answer _ q _ :=
    match q with
    | .addBalance id amount =>
        (.ok { id, owner := "", balance := amount, currency := .usd, createdAt := .ofNanos 0 }, ())
    | _ => (.error .cancelled, ())
  cancel _ _ := ()
  close _ _ _ := ()

/-- A unit that adds to two balances, in the order given. -/
def addInTurn (id₁ id₂ : Int64) : Work Account := do
  let _ ← Work.query (.addBalance id₁ 1)
  Work.query (.addBalance id₂ 1)

/-- **Opposite orders may block.**  Two units that lock two rows in opposite
orders may come to wait for each other. -/
theorem opposite_orders_block :
    let units : System (fun _ : Fin 2 => Account) Unit :=
      { state := ()
        tasks := fun u => .running (if u = 0 then addInTurn 1 2 else addInTurn 2 1) [] }
    let s := units.after grantingStore [0, 1]
    s.WaitsFor 0 1 ∧ s.WaitsFor 1 0 := by
  decide

/-! ### One unit alone -/

/-- A scope as the store of a unit of work that has it to itself. -/
def Scope.asStore (env : Surroundings) : LockingStore 1 Scope where
  hasRow s id := (s.db.rows.account? id).isSome
  answer _ q s := s.issue env q
  cancel _ s := s.cancel
  close _ _ s := s

/-- A single unit. -/
def System.alone (t : Task α) (state : σ) : System (fun _ : Fin 1 => α) σ where
  state
  tasks _ := t

/-- A single unit never waits. -/
theorem System.after_alone {store : LockingStore 1 σ} {t t' : Task α} {state state' : σ}
    (hnext : t.next? store 0 state = some (t', state')) (turns : List (Fin 1)) :
    (alone t state).after store (0 :: turns) = (alone t' state').after store turns := by
  have hfree : ¬ ∃ v, (alone t state).WaitsFor 0 v := by
    rintro ⟨v, hne, -⟩
    exact hne (Subsingleton.elim _ _)
  have hproceed : (alone t state).proceed 0 (t', state') = alone t' state' := by
    unfold proceed alone
    congr 1
    funext v
    rw [Subsingleton.elim v 0, Function.update_self]
  have hstep : (alone t state).step? store 0 = some (alone t' state') := by
    unfold step?
    rw [if_neg hfree]
    show (t.next? store 0 state).map _ = _
    rw [hnext, Option.map_some, hproceed]
  show ((((alone t state).step? store 0).getD (alone t state)).after store turns) = _
  rw [hstep, Option.getD_some]

/-- **A unit that is alone goes through a scope as it does when it is run
there.** -/
theorem Work.run_alone (env : Surroundings) (w : Work α) (scope : Scope) (locked : List Int64) :
    ∃ turns, (System.alone (.running w locked) scope).after (Scope.asStore env) turns =
      .alone (.ended (w.run env scope).1) (w.run env scope).2 := by
  induction w generalizing scope locked with
  | done a => exact ⟨[0], System.after_alone rfl []⟩
  | fail e => exact ⟨[0], System.after_alone rfl []⟩
  | crash => exact ⟨[0], System.after_alone rfl []⟩
  | cancel next ih =>
      obtain ⟨turns, hturns⟩ := ih scope.cancel locked
      exact ⟨0 :: turns, (System.after_alone rfl turns).trans hturns⟩
  | call q next ih =>
      simp only [run]
      rcases hissue : scope.issue env q with ⟨outcome, scope'⟩
      have hcall : (Task.running (.call q next) locked).next? (Scope.asStore env) 0 scope =
          some (.running (.resume next outcome) ((Scope.asStore env).lock q scope locked),
            scope') := by
        simp only [Task.next?, Scope.asStore, hissue]
      cases outcome with
      | ok a =>
          obtain ⟨turns, hturns⟩ := ih a scope' _
          exact ⟨0 :: turns, (System.after_alone hcall turns).trans hturns⟩
      | error e => exact ⟨[0, 0], (System.after_alone hcall [0]).trans (System.after_alone rfl [])⟩
      | crash => exact ⟨[0, 0], (System.after_alone hcall [0]).trans (System.after_alone rfl [])⟩

end DoubleEntry
