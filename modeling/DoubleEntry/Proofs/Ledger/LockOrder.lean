/-
DoubleEntry/Proofs/Ledger/LockOrder.lean

The operations that change balances, side by side on a store that locks rows:
transfers, additions to two balances, and adjustments.  Each locks the rows of
its accounts in the order of their ids, whatever the direction of the money
and whatever the store answers (`BalanceChange.locksUpwards`).  Hence they
never wait for one another in a circle, in whatever order they take their
turns, and there is always one that can go on (`no_deadlock`).
-/
import DoubleEntry.Ledger.Accounts
import DoubleEntry.Proofs.Store.RowLocks

namespace DoubleEntry

variable {α β : Type} {locked : List Int64}

/-! ### Units put together -/

namespace Work

theorem locksUpwards_check_bind {r : Except Error β} {f : β → Work α}
    (hf : ∀ b, (f b).LocksUpwards locked) : (check r >>= f).LocksUpwards locked := by
  cases r with
  | ok b => exact hf b
  | error e => trivial

/-- A query that locks no row, before more work. -/
theorem locksUpwards_query_bind {q : Query} {f : q.Answer → Work α} (hq : q.lockedRow? = none)
    (hf : ∀ a, (f a).LocksUpwards locked) : (query q >>= f).LocksUpwards locked := by
  refine ⟨fun row hrow => ?_, fun a => ?_⟩
  · rw [hq] at hrow
    cases hrow
  · rw [hq]
    exact hf a

/-- A query that locks a row no lower than those locked before it. -/
theorem locksUpwards_lock_bind {q : Query} {f : q.Answer → Work α} {row : Int64}
    (hq : q.lockedRow? = some row) (hle : ∀ r ∈ locked, r.toInt ≤ row.toInt)
    (hf : ∀ a, (f a).LocksUpwards (row :: locked)) : (query q >>= f).LocksUpwards locked := by
  refine ⟨fun row' hrow' r hr => ?_, fun a => ?_⟩
  · obtain rfl : row = row' := Option.some.inj (hq.symm.trans hrow')
    exact hle r hr
  · rw [hq]
    exact hf a

/-- Work that locks nothing more may follow. -/
theorem locksUpwards_bind {w : Work α} {f : α → Work β} (hw : w.LocksUpwards locked)
    (hf : ∀ a locked, (f a).LocksUpwards locked) : (w >>= f).LocksUpwards locked := by
  induction w generalizing locked with
  | done a => exact hf a locked
  | fail e => trivial
  | crash => trivial
  | cancel next ih => exact ih hw
  | call q next ih => exact ⟨hw.1, fun a => ih a (hw.2 a)⟩

end Work

namespace Ledger

/-! ### Changes of balances -/

/-- An operation that changes balances. -/
inductive BalanceChange where
  | transfer (request : TransferRequest)
  | addition (id₁ amount₁ id₂ amount₂ : Int64)
  | adjustment (id amount : Int64)

namespace BalanceChange

/-- What an operation answers. -/
@[reducible] def Answer : BalanceChange → Type
  | transfer .. => TransferReceipt
  | addition .. => Account × Account
  | adjustment .. => AdjustmentReceipt

/-- The unit of work of an operation. -/
def work : (c : BalanceChange) → Work c.Answer
  | transfer request => transferWork request
  | addition id₁ amount₁ id₂ amount₂ => addMoney id₁ amount₁ id₂ amount₂
  | adjustment id amount => adjustWork id amount

end BalanceChange

/-- Two additions lock the lower row first, or one row twice. -/
theorem addMoney_locksUpwards (id₁ amount₁ id₂ amount₂ : Int64) :
    (addMoney id₁ amount₁ id₂ amount₂).LocksUpwards [] := by
  -- additions in the order of the ids
  have hpair : ∀ {a b x y : Int64} {f : Account → Account → Account × Account},
      a.toInt ≤ b.toInt →
        (do let p ← Work.query (.addBalance a x)
            let q ← Work.query (.addBalance b y)
            return f p q : Work (Account × Account)).LocksUpwards [] := by
    intro a b x y f hle
    refine Work.locksUpwards_lock_bind rfl (fun r hr => absurd hr List.not_mem_nil) fun p => ?_
    refine Work.locksUpwards_lock_bind rfl (fun r hr => ?_) fun q => trivial
    rw [List.mem_singleton.mp hr]
    exact hle
  unfold addMoney lockOrder
  by_cases hle : id₁.toInt ≤ id₂.toInt
  · rw [if_pos hle, if_pos rfl]
    exact hpair hle
  · rw [if_neg hle]
    split
    case isTrue heq =>
      have hid : id₂ = id₁ := heq
      rw [hid]
      exact hpair le_rfl
    case isFalse =>
      exact hpair (f := fun p q => (q, p)) (by omega)

theorem transferWork_locksUpwards (r : TransferRequest) : (transferWork r).LocksUpwards [] := by
  refine Work.locksUpwards_check_bind fun _ => ?_
  refine Work.locksUpwards_query_bind rfl fun transfer => ?_
  refine Work.locksUpwards_query_bind rfl fun fromEntry => ?_
  refine Work.locksUpwards_query_bind rfl fun toEntry => ?_
  exact Work.locksUpwards_bind (addMoney_locksUpwards _ _ _ _) fun _ _ => trivial

/-- An adjustment locks one row, and then locks it again. -/
theorem adjustWork_locksUpwards (id amount : Int64) : (adjustWork id amount).LocksUpwards [] := by
  refine Work.locksUpwards_lock_bind rfl (fun r hr => absurd hr List.not_mem_nil) fun _ => ?_
  refine Work.locksUpwards_query_bind rfl fun entry => ?_
  refine Work.locksUpwards_lock_bind rfl (fun r hr => ?_) fun account => trivial
  rw [List.mem_singleton.mp hr]

/-- Every operation that changes balances locks upwards. -/
theorem BalanceChange.locksUpwards (c : BalanceChange) : c.work.LocksUpwards [] := by
  cases c with
  | transfer request => exact transferWork_locksUpwards request
  | addition id₁ amount₁ id₂ amount₂ => exact addMoney_locksUpwards id₁ amount₁ id₂ amount₂
  | adjustment id amount => exact adjustWork_locksUpwards id amount

/-! ### Changes side by side -/

/-- Operations that are about to start, one unit of work for each. -/
def sideBySide {σ : Type} (changes : List BalanceChange) (state : σ) :
    System (fun u : Fin changes.length => (changes.get u).Answer) σ where
  state
  tasks u := .running (changes.get u).work []

/-- In whatever order the operations take their turns, they lock upwards. -/
theorem ordered_after {σ : Type} (changes : List BalanceChange)
    (store : LockingStore changes.length σ) (state : σ) (turns : List (Fin changes.length)) :
    ((sideBySide changes state).after store turns).Ordered := by
  apply System.after_induction
  case start =>
    constructor
    case exclusive => intro u v row hu; cases hu
    case upwards => exact fun u => (changes.get u).locksUpwards
  case step =>
    intro s s' u h hstep
    exact h.step hstep

/-- **Operations that change balances never block each other.**  Let any number
of transfers, additions and adjustments, over any accounts, take turns in any
order on a store that locks the rows they change.  Then there is no circle of
operations of which each waits for a row that the next has locked; and while
one of them has not ended, there is one that can take a step. -/
theorem no_deadlock {σ : Type} (changes : List BalanceChange)
    (store : LockingStore changes.length σ) (state : σ) (turns : List (Fin changes.length)) :
    let s := (sideBySide changes state).after store turns
    (∀ u, ¬ Relation.TransGen s.WaitsFor u u) ∧
      ((∃ u, (s.tasks u).isEnded = false) → ∃ u s', s.step? store u = some s') := by
  intro s
  have hordered : s.Ordered := ordered_after changes store state turns
  exact ⟨hordered.no_circle, hordered.progress store⟩

end Ledger

end DoubleEntry
