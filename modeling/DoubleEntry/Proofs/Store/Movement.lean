/-
DoubleEntry/Proofs/Store/Movement.lean

Movements of money between the rows of accounts.  `Moved delta` relates two
lists of rows that differ in their balances only, each by what `delta` says
of the account's id.  Movements compose (`Moved.trans`), and the sum over
any choice of the accounts changes by the sum of what was moved
(`Moved.sum_filter`).  Adding to one balance is a movement on that account
(`moved_replaceAccount`), as long as no other row has its id.
-/
import Mathlib.Data.List.Forall2
import Mathlib.Data.List.Nodup
import DoubleEntry.Proofs.Store.Answers

namespace DoubleEntry

/-! ### Movements -/

/-- The row with another balance: the old one and what was moved to it. -/
structure AccountRow.Moved (delta : Int64 → Int) (r r' : AccountRow) : Prop where
  frame : r' = { r with balance := r'.balance }
  balance : r'.balance.toInt = r.balance.toInt + delta r.id

/-- All rows after a movement. -/
def Moved (delta : Int64 → Int) (rows rows' : List AccountRow) : Prop :=
  List.Forall₂ (AccountRow.Moved delta) rows rows'

/-- A movement on one account. -/
def movement (id : Int64) (amount : Int) : Int64 → Int :=
  fun x => if x = id then amount else 0

variable {delta delta' : Int64 → Int} {r r' r'' : AccountRow} {rows rows' rows'' : List AccountRow}

namespace AccountRow.Moved

theorem id_eq (h : r.Moved delta r') : r'.id = r.id := by
  rw [h.frame]

theorem currency_eq (h : r.Moved delta r') : r'.currency = r.currency := by
  rw [h.frame]

theorem createdAt_eq (h : r.Moved delta r') : r'.createdAt = r.createdAt := by
  rw [h.frame]

theorem exists_read_iff (h : r.Moved delta r') :
    (∃ a, r'.read = .ok a) ↔ ∃ a, r.read = .ok a := by
  rw [h.frame]
  exact r.exists_read_withBalance r'.balance

theorem trans (h : r.Moved delta r') (h' : r'.Moved delta' r'') :
    r.Moved (fun id => delta id + delta' id) r'' where
  frame := by
    rw [h'.frame, h.frame]
  balance := by
    rw [h'.balance, h.balance, h.id_eq]
    omega

end AccountRow.Moved

/-- A row that is moved ends as what was moved says. -/
theorem AccountRow.Moved.unique (h : r.Moved delta r') (h' : r.Moved delta r'') : r' = r'' := by
  have hbalance : r'.balance = r''.balance :=
    Int64.toInt_inj.mp (h.balance.trans h'.balance.symm)
  rw [h.frame, h'.frame, hbalance]

namespace Moved

/-- Nothing was moved. -/
theorem zero (rows : List AccountRow) : Moved (fun _ => 0) rows rows :=
  List.forall₂_same.mpr fun _ _ => ⟨rfl, (Int.add_zero _).symm⟩

/-- What was moved determines the rows behind it. -/
theorem unique (h : Moved delta rows rows') (h' : Moved delta rows rows'') : rows' = rows'' := by
  induction h generalizing rows'' with
  | nil =>
      cases h'
      rfl
  | cons hr _ ih =>
      rcases h' with - | ⟨hr', htail'⟩
      rw [hr.unique hr', ih htail']

theorem trans (h : Moved delta rows rows') (h' : Moved delta' rows' rows'') :
    Moved (fun id => delta id + delta' id) rows rows'' := by
  induction h generalizing rows'' with
  | nil =>
      cases h'
      exact .nil
  | cons hr _ ih =>
      rcases h' with - | ⟨hr', htail'⟩
      exact .cons (hr.trans hr') (ih htail')

/-- A movement keeps whatever does not depend on the balance. -/
theorem map_eq {β : Type} {f : AccountRow → β}
    (hf : ∀ r r', AccountRow.Moved delta r r' → f r' = f r) (h : Moved delta rows rows') :
    rows'.map f = rows.map f := by
  induction h with
  | nil => rfl
  | cons hr _ ih => rw [List.map_cons, List.map_cons, hf _ _ hr, ih]

theorem ids (h : Moved delta rows rows') : rows'.map (·.id) = rows.map (·.id) :=
  h.map_eq fun _ _ hr => hr.id_eq

theorem currencies (h : Moved delta rows rows') :
    rows'.map (·.currency) = rows.map (·.currency) :=
  h.map_eq fun _ _ hr => hr.currency_eq

theorem exists_of_mem (h : Moved delta rows rows') (hr' : r' ∈ rows') :
    ∃ r ∈ rows, r.Moved delta r' := by
  induction h with
  | nil => cases hr'
  | cons hr _ ih =>
      rcases List.mem_cons.mp hr' with rfl | htail
      · exact ⟨_, List.mem_cons_self, hr⟩
      · obtain ⟨r, hmem, hmoved⟩ := ih htail
        exact ⟨r, List.mem_cons_of_mem _ hmem, hmoved⟩

theorem exists_moved (h : Moved delta rows rows') (hr : r ∈ rows) :
    ∃ r' ∈ rows', r.Moved delta r' := by
  induction h with
  | nil => cases hr
  | cons hmoved _ ih =>
      rcases List.mem_cons.mp hr with rfl | htail
      · exact ⟨_, List.mem_cons_self, hmoved⟩
      · obtain ⟨r', hmem, hmoved⟩ := ih htail
        exact ⟨r', List.mem_cons_of_mem _ hmem, hmoved⟩

/-- The balance under an id changes by what was moved to it. -/
theorem find?_balance (h : Moved delta rows rows') (id : Int64) :
    (rows'.find? (·.id = id)).map (·.balance.toInt) =
      (rows.find? (·.id = id)).map fun r => r.balance.toInt + delta id := by
  induction h with
  | nil => rfl
  | @cons r r' _ _ hr _ ih =>
      by_cases hid : r.id = id
      · have hid' : r'.id = id := hr.id_eq.trans hid
        simp [hid, hid', hr.balance]
      · have hid' : r'.id ≠ id := hr.id_eq ▸ hid
        simp [hid, hid', ih]

/-- The sum over a choice of the accounts changes by what was moved to
them. -/
theorem sum_filter {p : AccountRow → Bool}
    (hp : ∀ r r', AccountRow.Moved delta r r' → p r' = p r) (h : Moved delta rows rows') :
    ((rows'.filter p).map (·.balance.toInt)).sum =
      ((rows.filter p).map (·.balance.toInt)).sum + ((rows.filter p).map (delta ·.id)).sum := by
  induction h with
  | nil => rfl
  | @cons r r' _ _ hr _ ih =>
      have hpr := hp r r' hr
      cases hchosen : p r with
      | true =>
          rw [hchosen] at hpr
          rw [List.filter_cons_of_pos hpr, List.filter_cons_of_pos hchosen]
          simp only [List.map_cons, List.sum_cons, ih, hr.balance]
          omega
      | false =>
          rw [hchosen] at hpr
          rw [List.filter_cons_of_neg (by simp [hpr]), List.filter_cons_of_neg (by simp [hchosen]),
            ih]

/-- The sum over all accounts. -/
theorem sum (h : Moved delta rows rows') :
    (rows'.map (·.balance.toInt)).sum =
      (rows.map (·.balance.toInt)).sum + (rows.map (delta ·.id)).sum := by
  have hall := h.sum_filter (p := fun _ => true) fun _ _ _ => rfl
  simpa only [List.filter_true] using hall

end Moved

/-! ### Movements on one account -/

theorem movement_self (id : Int64) (amount : Int) : movement id amount id = amount :=
  if_pos rfl

theorem movement_of_ne {id x : Int64} (h : x ≠ id) (amount : Int) : movement id amount x = 0 :=
  if_neg h

/-- Accounts without the one in question are not moved. -/
theorem sum_movement_eq_zero {id : Int64} {amount : Int} (h : ∀ r ∈ rows, r.id ≠ id) :
    (rows.map (movement id amount ·.id)).sum = 0 := by
  induction rows with
  | nil => rfl
  | cons r rows ih =>
      obtain ⟨hr, hrows⟩ := List.forall_mem_cons.mp h
      rw [List.map_cons, List.sum_cons, movement_of_ne hr, ih hrows]
      rfl

/-- Among accounts with different ids, only the one in question is moved. -/
theorem sum_movement (amount : Int) (hids : (rows.map (·.id)).Nodup) (hr : r ∈ rows) :
    (rows.map (movement r.id amount ·.id)).sum = amount := by
  induction rows with
  | nil => cases hr
  | cons s rows ih =>
      obtain ⟨hs, hrows⟩ := List.nodup_cons.mp hids
      rw [List.map_cons, List.sum_cons]
      rcases List.mem_cons.mp hr with rfl | hr
      · have hothers : ∀ x ∈ rows, x.id ≠ r.id := by
          intro x hx heq
          exact hs (List.mem_map.mpr ⟨x, hx, heq⟩)
        rw [movement_self, sum_movement_eq_zero hothers, Int.add_zero]
      · have hne : s.id ≠ r.id := by
          intro heq
          exact hs (List.mem_map.mpr ⟨r, hr, heq.symm⟩)
        rw [movement_of_ne hne, ih hrows hr, Int.zero_add]

/-- Among a choice of accounts with different ids, it is moved if chosen. -/
theorem sum_movement_filter (amount : Int) (p : AccountRow → Bool)
    (hids : (rows.map (·.id)).Nodup) (hr : r ∈ rows) :
    ((rows.filter p).map (movement r.id amount ·.id)).sum = if p r then amount else 0 := by
  cases hchosen : p r with
  | true =>
      rw [if_pos rfl]
      apply sum_movement amount (hids.sublist (List.filter_sublist.map _))
      exact List.mem_filter.mpr ⟨hr, hchosen⟩
  | false =>
      rw [if_neg Bool.false_ne_true]
      apply sum_movement_eq_zero
      intro x hx hid
      obtain ⟨hmem, hx⟩ := List.mem_filter.mp hx
      rw [List.inj_on_of_nodup_map hids hmem hr hid, hchosen] at hx
      cases hx

/-- Adding to the balance of an account moves money on that account. -/
theorem moved_replaceAccount {rows : Rows} {balance : Int64} {amount : Int}
    (hids : (rows.accounts.map (·.id)).Nodup) (hr : r ∈ rows.accounts)
    (hbalance : balance.toInt = r.balance.toInt + amount) :
    Moved (movement r.id amount) rows.accounts
      (rows.replaceAccount { r with balance }).accounts := by
  unfold Moved Rows.replaceAccount
  rw [List.forall₂_map_right_iff, List.forall₂_same]
  intro x hx
  dsimp only
  split
  case isTrue hid =>
    -- the only row with this id
    obtain rfl : x = r := List.inj_on_of_nodup_map hids hx hr hid
    exact ⟨rfl, by rw [movement_self]; exact hbalance⟩
  case isFalse hid =>
    refine ⟨rfl, ?_⟩
    rw [movement_of_ne hid, Int.add_zero]

end DoubleEntry
