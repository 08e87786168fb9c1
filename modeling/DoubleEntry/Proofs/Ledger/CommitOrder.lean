/-
DoubleEntry/Proofs/Ledger/CommitOrder.lean

The order in which transfers are committed.  Transfers that are asked for at
the same time are made one after the other, each in a transaction of its own;
a `Turn` is one of them, and `answersTo` and `afterTurns` are what a list of
turns comes to.

Each transfer that is made adds its amount to one balance and takes it from
another, whatever the other balances are (`TransferRequest.moves`).  What is
added up does not depend on the order (`Carried.perm`), nor does it matter in
which order the balances are strained (`Bears.perm`).  `commit_order` says so of
whole lists of transfers, and what those who draw on one account are told in
turn.
-/
import DoubleEntry.Proofs.Ledger.Conservation
import DoubleEntry.Proofs.Ledger.References
import DoubleEntry.Proofs.Ledger.TransferOutcome
import Mathlib.Algebra.Order.BigOperators.Group.List

namespace DoubleEntry

/-! ### Requests and rows -/

namespace TransferRequest

variable (r : TransferRequest)

/-- What a transfer adds to the balance of an account. -/
def moves (id : Int64) : Int :=
  movement r.fromId (-r.amount.toInt) id + movement r.toId r.amount.toInt id

/-- The entries of a transfer, each as an account and an amount. -/
def postings : List (Int64 × Int64) :=
  [(r.fromId, -r.amount), (r.toId, r.amount)]

instance (id : Int64) : Decidable (r.Touches id) :=
  inferInstanceAs (Decidable (r.fromId = id ∨ r.toId = id))

variable {r}

theorem moves_of_not_touches {id : Int64} (h : ¬ r.Touches id) : r.moves id = 0 := by
  have hfrom : id ≠ r.fromId := fun heq => h (.inl heq.symm)
  have hto : id ≠ r.toId := fun heq => h (.inr heq.symm)
  simp [moves, movement_of_ne hfrom, movement_of_ne hto]

theorem moves_fromId (h : r.fromId ≠ r.toId) : r.moves r.fromId = -r.amount.toInt := by
  simp [moves, movement_self, movement_of_ne h]

/-- No balance changes by more than the amount. -/
theorem natAbs_moves_le (hpos : 0 < r.amount.toInt) (hne : r.fromId ≠ r.toId) (id : Int64) :
    ((r.moves id).natAbs : Int) ≤ r.amount.toInt := by
  simp only [moves, movement]
  split
  case isTrue hfrom =>
    subst hfrom
    simp only [hne, if_false]
    omega
  case isFalse hfrom => split <;> omega

end TransferRequest

/-- An entry as an account and an amount. -/
def EntryRow.posting (e : EntryRow) : Int64 × Int64 :=
  (e.accountId, e.amount)

/-- The balance of an account. -/
def Rows.balance? (rows : Rows) (id : Int64) : Option Int :=
  (rows.account? id).map (·.balance.toInt)

/-- The value of a success. -/
def Outcome.value? {α : Type} : Outcome α → Option α
  | .ok a => some a
  | _ => none

/-! ### What transfers have done together -/

/-- What transfers that were made have done: the balances have changed by
all that was moved, and the rows are stored behind the others. -/
structure Carried (requests : List TransferRequest) (db db' : Database) : Prop where
  accounts : Moved (fun id => (requests.map (·.moves id)).sum) db.rows.accounts db'.rows.accounts
  transfers : db'.rows.transfers.map (·.request) = db.rows.transfers.map (·.request) ++ requests
  entries : db'.rows.entries.map (·.posting) =
    db.rows.entries.map (·.posting) ++ requests.flatMap (·.postings)

namespace Carried

variable {requests requests' : List TransferRequest} {db db' db'' : Database}

/-- Where the rows are the same, nothing was made. -/
theorem of_rows (h : db'.rows = db.rows) : Carried [] db db' where
  accounts := by
    rw [h]
    exact .zero _
  transfers := by rw [h, List.append_nil]
  entries := by rw [h, List.flatMap_nil, List.append_nil]

theorem trans (h : Carried requests db db') (h' : Carried requests' db' db'') :
    Carried (requests ++ requests') db db'' where
  accounts := by
    have hsum : (fun id => ((requests ++ requests').map (·.moves id)).sum) =
        fun id => (requests.map (·.moves id)).sum + (requests'.map (·.moves id)).sum := by
      funext id
      rw [List.map_append, List.sum_append]
    rw [hsum]
    exact h.accounts.trans h'.accounts
  transfers := by rw [h'.transfers, h.transfers, List.append_assoc]
  entries := by rw [h'.entries, h.entries, List.flatMap_append, List.append_assoc]

/-- The balances do not tell in which order transfers were made, and the rows
only by their own order. -/
theorem perm (h : Carried requests db db') (h' : Carried requests' db db'')
    (hperm : requests.Perm requests') :
    db'.rows.accounts = db''.rows.accounts ∧
      (db'.rows.transfers.map (·.request)).Perm (db''.rows.transfers.map (·.request)) ∧
      (db'.rows.entries.map (·.posting)).Perm (db''.rows.entries.map (·.posting)) := by
  have hsum : (fun id => (requests.map (·.moves id)).sum) =
      fun id => (requests'.map (·.moves id)).sum := by
    funext id
    exact (hperm.map _).sum_eq
  refine ⟨?_, ?_, ?_⟩
  · apply h.accounts.unique
    rw [hsum]
    exact h'.accounts
  · rw [h.transfers, h'.transfers]
    exact hperm.append_left _
  · rw [h.entries, h'.entries]
    exact (hperm.flatMap_right _).append_left _

theorem balance?_eq (h : Carried requests db db') (id : Int64) :
    db'.rows.balance? id =
      (db.rows.balance? id).map (· + (requests.map (·.moves id)).sum) := by
  show (db'.rows.accounts.find? _).map _ = ((db.rows.accounts.find? _).map _).map _
  rw [h.accounts.find?_balance id, Option.map_map]
  rfl

theorem ids (h : Carried requests db db') (hids : (db.rows.accounts.map (·.id)).Nodup) :
    (db'.rows.accounts.map (·.id)).Nodup := by
  rw [h.accounts.ids]
  exact hids

end Carried

namespace Ledger

variable {env : Surroundings} {db db' : Database} {r : TransferRequest}

/-- A transfer that was made has done what its request asked for. -/
theorem TransferMade.carried {t : TransferRow} {debit credit : EntryRow}
    (h : TransferMade t debit credit db db') : Carried [t.request] db db' where
  accounts := by
    simp only [List.map_singleton, List.sum_singleton]
    exact h.accounts
  transfers := by
    rw [h.transfers, List.map_append]
    rfl
  entries := by
    have hdebit : debit.amount = -t.amount := by
      apply Int64.toInt_inj.mp
      rw [h.debit_amount, toInt_neg_of_pos h.amount]
    have hcredit : credit.amount = t.amount := Int64.toInt_inj.mp h.credit_amount
    rw [h.entries, List.map_append]
    simp [EntryRow.posting, TransferRequest.postings, TransferRow.request, h.debit_account,
      h.credit_account, hdebit, hcredit]

/-! ### The account that is answered -/

/-- A balance that was added to is answered as it is stored, and no other is
touched. -/
theorem stored_of_answers {id amount : Int64} {a : Account}
    (h : (addBalance id amount db).Answers a db') :
    Stored db'.rows id a ∧ ∀ x, x ≠ id → db'.rows.account? x = db.rows.account? x := by
  obtain ⟨-, row, balance, hrow, -, hread, rfl⟩ := answers_addBalance_iff.mp h
  obtain ⟨-, rfl⟩ := Rows.account?_eq_some hrow
  let after : AccountRow := { row with balance }
  have hrow : db.rows.account? after.id = some row := hrow
  exact ⟨⟨after, Rows.account?_replaceAccount_self hrow, hread⟩,
    fun x hx => Rows.account?_replaceAccount_of_ne hx⟩

/-- Both accounts of an addition are answered as they are stored. -/
theorem addMoney_stored {clock : Nat → Instant} {id₁ id₂ amount₁ amount₂ : Int64}
    {accounts : Account × Account} (hne : id₁ ≠ id₂)
    (h : (addMoney id₁ amount₁ id₂ amount₂).submitEach clock db =
      { outcome := .ok accounts, db := db' }) :
    Stored db'.rows id₁ accounts.1 ∧ Stored db'.rows id₂ accounts.2 := by
  have hkept : ∀ {x y : Int64} {a : Account} {db₁ db₂ : Database}, x ≠ y → Stored db₁.rows x a →
      (∀ z, z ≠ y → db₂.rows.account? z = db₁.rows.account? z) → Stored db₂.rows x a := by
    rintro x y a db₁ db₂ hxy ⟨row, hrow, hread⟩ hsame
    exact ⟨row, (hsame x hxy).trans hrow, hread⟩
  simp only [addMoney] at h
  -- the account that was changed first is not the one that was changed last
  split at h
  · rw [Work.submitEach_query_bind] at h
    obtain ⟨a₁, db₁, hfirst, h⟩ := h
    obtain ⟨hstored₁, -⟩ := stored_of_answers (submit_ok_iff.mp hfirst).2
    rw [Work.submitEach_query_bind] at h
    obtain ⟨a₂, db₂, hsecond, h⟩ := h
    obtain ⟨hstored₂, hsame⟩ := stored_of_answers (submit_ok_iff.mp hsecond).2
    cases h
    exact ⟨hkept hne hstored₁ hsame, hstored₂⟩
  · rw [Work.submitEach_query_bind] at h
    obtain ⟨a₂, db₁, hfirst, h⟩ := h
    obtain ⟨hstored₂, -⟩ := stored_of_answers (submit_ok_iff.mp hfirst).2
    rw [Work.submitEach_query_bind] at h
    obtain ⟨a₁, db₂, hsecond, h⟩ := h
    obtain ⟨hstored₁, hsame⟩ := stored_of_answers (submit_ok_iff.mp hsecond).2
    cases h
    exact ⟨hstored₁, hkept hne.symm hstored₂ hsame⟩

/-- The source of a transfer is answered as the transfer left it. -/
theorem transferWork_stored {clock : Nat → Instant} {receipt : TransferReceipt}
    (h : (transferWork r).submitEach clock db = { outcome := .ok receipt, db := db' }) :
    Stored db'.rows r.fromId receipt.fromAccount := by
  rw [transferWork_eq_check, Work.submitEach_check_bind] at h
  obtain ⟨_, hvalid, h⟩ := h
  obtain ⟨-, hne⟩ := TransferRequest.validate_ok_iff.mp hvalid
  simp only [transferStatements] at h
  rw [Work.submitEach_query_bind] at h
  obtain ⟨transfer, db₁, -, h⟩ := h
  rw [Work.submitEach_query_bind] at h
  obtain ⟨fromEntry, db₂, -, h⟩ := h
  rw [Work.submitEach_query_bind] at h
  obtain ⟨toEntry, db₃, -, h⟩ := h
  obtain ⟨accounts, db₄, k, hadd, h⟩ := Work.submitEach_bind h
  cases h
  exact (addMoney_stored hne hadd).1

/-! ### One transfer -/

/-- A transfer that succeeds has been made, and is answered with the balance
that its source has then. -/
theorem transferFunds_made (hids : (db.rows.accounts.map (·.id)).Nodup) {receipt : TransferReceipt}
    (h : (transferFunds env r db).outcome = .ok receipt) :
    ∃ t debit credit, TransferRow.request t = r ∧
      TransferMade t debit credit db (transferFunds env r db).db ∧
      (transferFunds env r db).db.rows.balance? r.fromId =
        some receipt.fromAccount.balance.toInt := by
  have hwork := Work.execute_kept h
  obtain ⟨t, debit, credit, hfrom, hto, hamount, hmade, -⟩ := transferWork_made hids hwork
  obtain ⟨row, hrow, hread⟩ := transferWork_stored hwork
  refine ⟨t, debit, credit, ?_, hmade, ?_⟩
  · rw [TransferRow.request, hfrom, hto, hamount]
  · obtain ⟨-, -, ha⟩ := AccountRow.read_eq_ok_iff.mp hread
    rw [ha, Rows.balance?]
    exact congrArg (Option.map _) hrow

/-- One that does not succeed leaves the rows alone. -/
theorem transferFunds_rows (h : ∀ receipt, (transferFunds env r db).outcome ≠ .ok receipt) :
    (transferFunds env r db).db.rows = db.rows := by
  obtain ⟨s, -, hdb⟩ := Work.execute_undone h
  show ((transferWork r).execute env {} db).db.rows = db.rows
  rw [hdb]
  rfl

/-! ### Turns -/

/-- A transfer that is asked for, and what it meets when its turn comes. -/
structure Turn where
  env : Surroundings
  request : TransferRequest

/-- Makes the transfer in a transaction of its own. -/
def Turn.run (t : Turn) (db : Database) : Ran TransferReceipt :=
  transferFunds t.env t.request db

/-- What each of those who ask is answered. -/
def answersTo : List Turn → Database → List (TransferRequest × Outcome TransferReceipt)
  | [], _ => []
  | t :: turns, db => (t.request, (t.run db).outcome) :: answersTo turns (t.run db).db

/-- The database behind all turns. -/
def afterTurns : List Turn → Database → Database
  | [], db => db
  | t :: turns, db => afterTurns turns (t.run db).db

/-- Every turn has ended with a receipt. -/
def AllMade (turns : List Turn) (db : Database) : Prop :=
  ∀ answer ∈ answersTo turns db, ∃ receipt, answer.2 = .ok receipt

variable {t : Turn} {turns : List Turn}

theorem allMade_cons_iff :
    AllMade (t :: turns) db ↔
      (∃ receipt, (t.run db).outcome = .ok receipt) ∧ AllMade turns (t.run db).db :=
  List.forall_mem_cons

/-- Turns that all succeed have together done what was asked for. -/
theorem AllMade.carried (hids : (db.rows.accounts.map (·.id)).Nodup) (h : AllMade turns db) :
    Carried (turns.map (·.request)) db (afterTurns turns db) := by
  induction turns generalizing db with
  | nil => exact .of_rows rfl
  | cons t turns ih =>
      obtain ⟨⟨receipt, hreceipt⟩, hrest⟩ := allMade_cons_iff.mp h
      obtain ⟨row, debit, credit, hrequest, hmade, -⟩ := transferFunds_made hids hreceipt
      have hfirst := hmade.carried
      rw [hrequest] at hfirst
      exact hfirst.trans (ih (hfirst.ids hids) hrest)

/-! ### Turns that cannot fail -/

/-- The ledger can bear requests in any order: ids are left for all of them,
each is for a positive amount from one account to another, and no balance can
leave 64 bits even if all amounts come together. -/
structure Bears (requests : List TransferRequest) (db : Database) : Prop where
  usable : db.Usable
  transferIds : db.sequences.transfer + requests.length ≤ 9223372036854775807
  entryIds : db.sequences.entry + 2 * requests.length ≤ 9223372036854775807
  positive : ∀ r ∈ requests, 0 < r.amount.toInt
  distinct : ∀ r ∈ requests, r.fromId ≠ r.toId
  source : ∀ r ∈ requests, ∃ row ∈ db.rows.accounts, row.id = r.fromId
  target : ∀ r ∈ requests, ∃ row ∈ db.rows.accounts, row.id = r.toId
  fits : ∀ row ∈ db.rows.accounts,
    row.balance.toInt.natAbs + (requests.map (·.amount.toInt)).sum ≤ 9223372036854775807

namespace Bears

variable {requests requests' : List TransferRequest}

theorem perm (h : Bears requests db) (hperm : requests.Perm requests') : Bears requests' db where
  usable := h.usable
  transferIds := hperm.length_eq ▸ h.transferIds
  entryIds := hperm.length_eq ▸ h.entryIds
  positive r hr := h.positive r (hperm.mem_iff.mpr hr)
  distinct r hr := h.distinct r (hperm.mem_iff.mpr hr)
  source r hr := h.source r (hperm.mem_iff.mpr hr)
  target r hr := h.target r (hperm.mem_iff.mpr hr)
  fits := by
    rw [← (hperm.map (·.amount.toInt)).sum_eq]
    exact h.fits

/-- Amounts that are positive add up to something. -/
theorem sum_nonneg (h : ∀ r ∈ requests, 0 < r.amount.toInt) :
    0 ≤ (requests.map (·.amount.toInt)).sum := by
  apply List.sum_nonneg
  intro x hx
  obtain ⟨r, hr, rfl⟩ := List.mem_map.mp hx
  exact Int.le_of_lt (h r hr)

/-- An account that is there is found. -/
theorem exists_account? {id : Int64} (hid : ∃ row ∈ db.rows.accounts, row.id = id) :
    ∃ row ∈ db.rows.accounts, db.rows.account? id = some row := by
  have hfound := (account?_isSome_iff db.rows id).mpr (List.mem_map.mpr hid)
  obtain ⟨row, hrow⟩ := Option.isSome_iff_exists.mp hfound
  exact ⟨row, (Rows.account?_eq_some hrow).1, hrow⟩

/-- Nothing stands against the first of them. -/
theorem transferError?_eq_none (h : Bears (r :: requests) db) :
    transferError? db.rows r = none := by
  have hpos := h.positive r List.mem_cons_self
  have hrest := sum_nonneg fun x hx => h.positive x (List.mem_cons_of_mem r hx)
  obtain ⟨source, hsource, hfrom⟩ := exists_account? (h.source r List.mem_cons_self)
  obtain ⟨target, htarget, hto⟩ := exists_account? (h.target r List.mem_cons_self)
  have hlow := h.fits source hsource
  have hhigh := h.fits target htarget
  simp only [List.map_cons, List.sum_cons] at hlow hhigh
  rw [transferError?_eq_none_iff]
  exact ⟨hpos, h.distinct r List.mem_cons_self, ⟨source, hfrom, by omega⟩, target, hto, by omega⟩

/-- The first of them is made. -/
theorem made (henv : env.Orderly) (h : Bears (r :: requests) db) :
    ∃ receipt, (transferFunds env r db).outcome = .ok receipt := by
  have htransfer := h.transferIds
  have hentry := h.entryIds
  simp only [List.length_cons] at htransfer hentry
  have hids : db.sequences.CoverTransfer := ⟨by omega, by omega⟩
  obtain ⟨receipt, _, _, _, db', hwork, -⟩ :=
    transferWork_of_none henv.clock h.usable hids h.transferError?_eq_none
  have hran : transferFunds env r db = { outcome := .ok receipt, db := db' } :=
    Work.execute_of_answered (neverCancels_transferWork r) henv.failOn rfl hwork
  exact ⟨receipt, by rw [hran]⟩

/-- Behind it the ledger can bear the others. -/
theorem tail (h : Bears (r :: requests) db)
    (hok : ∃ receipt, (transferFunds env r db).outcome = .ok receipt) :
    Bears requests (transferFunds env r db).db := by
  obtain ⟨receipt, hreceipt⟩ := hok
  obtain ⟨t, debit, credit, hrequest, hmade, -⟩ := transferFunds_made h.usable.ids hreceipt
  have hmoved : Moved t.request.moves db.rows.accounts (transferFunds env r db).db.rows.accounts :=
    hmade.accounts
  rw [hrequest] at hmoved
  have hcatalog : (transferFunds env r db).db.catalog = db.catalog :=
    (Database.Succeeds.execute (transferWork r) env {} db).catalog
  have htransfer := h.transferIds
  have hentry := h.entryIds
  simp only [List.length_cons] at htransfer hentry
  have hthere : ∀ {id}, (∃ row ∈ db.rows.accounts, row.id = id) →
      ∃ row ∈ (transferFunds env r db).db.rows.accounts, row.id = id :=
    exists_account_of_moved hmoved
  constructor
  case usable =>
    constructor
    case accountTable => exact hcatalog ▸ h.usable.accountTable
    case entryTable => exact hcatalog ▸ h.usable.entryTable
    case transferTable => exact hcatalog ▸ h.usable.transferTable
    case ids => exact hmoved.ids ▸ h.usable.ids
    case readable =>
      intro row' hrow'
      obtain ⟨row, hrow, hmove⟩ := hmoved.exists_of_mem hrow'
      obtain ⟨a, ha⟩ := h.usable.readable row hrow
      rw [hmove.frame]
      exact ⟨_, AccountRow.read_withBalance ha _⟩
  case transferIds =>
    rw [hmade.transfer_sequence]
    omega
  case entryIds =>
    rw [hmade.entry_sequence]
    omega
  case positive => exact fun x hx => h.positive x (List.mem_cons_of_mem r hx)
  case distinct => exact fun x hx => h.distinct x (List.mem_cons_of_mem r hx)
  case source => exact fun x hx => hthere (h.source x (List.mem_cons_of_mem r hx))
  case target => exact fun x hx => hthere (h.target x (List.mem_cons_of_mem r hx))
  case fits =>
    intro row' hrow'
    obtain ⟨row, hrow, hmove⟩ := hmoved.exists_of_mem hrow'
    have hbefore := h.fits row hrow
    have hstep := TransferRequest.natAbs_moves_le (h.positive r List.mem_cons_self)
      (h.distinct r List.mem_cons_self) row.id
    simp only [List.map_cons, List.sum_cons] at hbefore
    rw [hmove.balance]
    omega

/-- All of them are made, one after the other. -/
theorem allMade (h : Bears (turns.map (·.request)) db) (henv : ∀ t ∈ turns, t.env.Orderly) :
    AllMade turns db := by
  induction turns generalizing db with
  | nil =>
      intro answer hanswer
      cases hanswer
  | cons t turns ih =>
      obtain ⟨ht, hturns⟩ := List.forall_mem_cons.mp henv
      have hmade := h.made ht
      exact allMade_cons_iff.mpr ⟨hmade, ih (h.tail hmade) hturns⟩

end Bears

/-! ### What the callers are told -/

/-- How far below a balance the source of each transfer of one kind was, as
those who asked for it were told. -/
def drawnBelow (start : Int) (r : TransferRequest)
    (answers : List (TransferRequest × Outcome TransferReceipt)) : List Int :=
  answers.filterMap fun answer =>
    if answer.1 = r then answer.2.value?.map (start - ·.fromAccount.balance.toInt) else none

/-- A turn that is not of an account leaves its balance alone, whether or not
it succeeds. -/
theorem Turn.balance?_of_not_touches (hids : (db.rows.accounts.map (·.id)).Nodup) {id : Int64}
    (h : ¬ t.request.Touches id) : (t.run db).db.rows.balance? id = db.rows.balance? id := by
  by_cases hok : ∃ receipt, (t.run db).outcome = .ok receipt
  · obtain ⟨receipt, hreceipt⟩ := hok
    obtain ⟨row, debit, credit, hrequest, hmade, -⟩ := transferFunds_made hids hreceipt
    have hcarried := hmade.carried
    rw [hrequest] at hcarried
    rw [show (t.run db).db.rows.balance? id = _ from hcarried.balance?_eq id]
    simp [TransferRequest.moves_of_not_touches h]
  · have hrows : (t.run db).db.rows = db.rows :=
      transferFunds_rows fun receipt hreceipt => hok ⟨receipt, hreceipt⟩
    rw [hrows]

/-- No turn takes an account's id from it. -/
theorem Turn.ids (hids : (db.rows.accounts.map (·.id)).Nodup) :
    ((t.run db).db.rows.accounts.map (·.id)).Nodup := by
  by_cases hok : ∃ receipt, (t.run db).outcome = .ok receipt
  · obtain ⟨receipt, hreceipt⟩ := hok
    obtain ⟨row, debit, credit, -, hmade, -⟩ := transferFunds_made hids hreceipt
    exact hmade.carried.ids hids
  · have hrows : (t.run db).db.rows = db.rows :=
      transferFunds_rows fun receipt hreceipt => hok ⟨receipt, hreceipt⟩
    rw [hrows]
    exact hids

/-- A turn that succeeds takes its amount from the source, and is answered
with what is left there. -/
theorem Turn.balance?_of_made (hids : (db.rows.accounts.map (·.id)).Nodup)
    {receipt : TransferReceipt} (h : (t.run db).outcome = .ok receipt) {balance : Int}
    (hbalance : db.rows.balance? t.request.fromId = some balance) :
    (t.run db).db.rows.balance? t.request.fromId = some (balance - t.request.amount.toInt) ∧
      receipt.fromAccount.balance.toInt = balance - t.request.amount.toInt := by
  obtain ⟨row, debit, credit, hrequest, hmade, htold⟩ := transferFunds_made hids h
  have hne : t.request.fromId ≠ t.request.toId := by
    rw [← hrequest]
    exact hmade.distinct
  have hcarried := hmade.carried
  rw [hrequest] at hcarried
  have hafter : (t.run db).db.rows.balance? t.request.fromId =
      some (balance - t.request.amount.toInt) := by
    rw [show (t.run db).db.rows.balance? _ = _ from hcarried.balance?_eq _, hbalance]
    simp [TransferRequest.moves_fromId hne, Int.sub_eq_add_neg]
  exact ⟨hafter, Option.some.inj (htold.symm.trans hafter)⟩

/-- If so many amounts have been drawn already, the others follow. -/
theorem drawnBelow_answersTo (hids : (db.rows.accounts.map (·.id)).Nodup) {start : Int}
    {drawn : Nat} (hothers : ∀ t ∈ turns, t.request = r ∨ ¬ t.request.Touches r.fromId)
    (hmade : ∀ answer ∈ answersTo turns db, answer.1 = r → ∃ receipt, answer.2 = .ok receipt)
    (hbalance : db.rows.balance? r.fromId = some (start - drawn * r.amount.toInt)) :
    drawnBelow start r (answersTo turns db) =
      (List.range (turns.countP (·.request = r))).map
        fun k => ((drawn + k + 1 : Nat) : Int) * r.amount.toInt := by
  induction turns generalizing db drawn with
  | nil => rfl
  | cons t turns ih =>
      obtain ⟨ht, hturns⟩ := List.forall_mem_cons.mp hothers
      obtain ⟨hanswer, hanswers⟩ := List.forall_mem_cons.mp hmade
      by_cases hrequest : t.request = r
      · subst hrequest
        obtain ⟨receipt, hreceipt⟩ := hanswer rfl
        obtain ⟨hafter, htold⟩ := Turn.balance?_of_made hids hreceipt hbalance
        have hone : start - drawn * t.request.amount.toInt - t.request.amount.toInt =
            start - (drawn + 1 : Nat) * t.request.amount.toInt := by
          rw [Int.natCast_add, Int.add_mul]
          omega
        rw [hone] at hafter htold
        have hfirst : drawnBelow start t.request (answersTo (t :: turns) db) =
            (start - receipt.fromAccount.balance.toInt) ::
              drawnBelow start t.request (answersTo turns (t.run db).db) := by
          show List.filterMap _ (_ :: _) = _
          rw [List.filterMap_cons_some]
          · rfl
          · rw [if_pos rfl, hreceipt]
            rfl
        rw [hfirst, htold, Int.sub_sub_self, ih (Turn.ids hids) hturns hanswers hafter,
          List.countP_cons_of_pos (by simp), List.range_succ_eq_map, List.map_cons, List.map_map]
        congr 1
        apply List.map_congr_left
        intro k _
        show ((drawn + 1 + k + 1 : Nat) : Int) * _ = ((drawn + (k + 1) + 1 : Nat) : Int) * _
        congr 2
        omega
      · have hrest : ¬ t.request.Touches r.fromId := ht.resolve_left hrequest
        have hafter : (t.run db).db.rows.balance? r.fromId =
            some (start - drawn * r.amount.toInt) :=
          (Turn.balance?_of_not_touches hids hrest).trans hbalance
        have hskip : drawnBelow start r (answersTo (t :: turns) db) =
            drawnBelow start r (answersTo turns (t.run db).db) := by
          show List.filterMap _ (_ :: _) = _
          rw [List.filterMap_cons_none]
          · rfl
          · rw [if_neg hrequest]
        rw [hskip, ih (Turn.ids hids) hturns hanswers hafter,
          List.countP_cons_of_neg (by simpa using hrequest)]

/-! ### The order of transfers -/

/-- **The order in which transfers are committed does not matter.**  Any two
orders in which all of them succeed end with the same accounts, and with the
same transfers and entries stored in some order.  If the ledger can bear the
requests, they succeed in every order.  And those who draw the same amount
from one account among transfers that are not of it, each with success, are
told that the account is one amount lower than at the start, then two, and so
on. -/
theorem commit_order (hdb : db.Usable) :
    (∀ turns turns' : List Turn, (turns.map (·.request)).Perm (turns'.map (·.request)) →
      AllMade turns db → AllMade turns' db →
      let rows := (afterTurns turns db).rows
      let rows' := (afterTurns turns' db).rows
      rows.accounts = rows'.accounts ∧
        (rows.transfers.map (·.request)).Perm (rows'.transfers.map (·.request)) ∧
        (rows.entries.map (·.posting)).Perm (rows'.entries.map (·.posting))) ∧
    (∀ (requests : List TransferRequest) (turns : List Turn), Bears requests db →
      requests.Perm (turns.map (·.request)) → (∀ t ∈ turns, t.env.Orderly) →
      AllMade turns db) ∧
    ∀ (r : TransferRequest) (turns : List Turn) (start : Int),
      db.rows.balance? r.fromId = some start →
      (∀ t ∈ turns, t.request = r ∨ ¬ t.request.Touches r.fromId) →
      (∀ answer ∈ answersTo turns db, answer.1 = r → ∃ receipt, answer.2 = .ok receipt) →
      drawnBelow start r (answersTo turns db) =
        (List.range (turns.countP (·.request = r))).map
          fun k => ((k + 1 : Nat) : Int) * r.amount.toInt := by
  refine ⟨?_, ?_, ?_⟩
  · intro turns turns' hperm hmade hmade'
    exact (hmade.carried hdb.ids).perm (hmade'.carried hdb.ids) hperm
  · intro requests turns hbears hperm henv
    exact (hbears.perm hperm).allMade henv
  · intro r turns start hstart hothers hmade
    have hnone : db.rows.balance? r.fromId = some (start - (0 : Nat) * r.amount.toInt) := by
      rw [hstart]
      simp
    simpa using drawnBelow_answersTo hdb.ids hothers hmade hnone

/-- Ann sends Carol 5 twice, and Carol sends Bob 50. -/
def crossingRequests : List TransferRequest :=
  [⟨1, 3, 5⟩, ⟨1, 3, 5⟩, ⟨3, 2, 50⟩]

/-- Whether Carol sends money after she was sent some or before, all of them
end with the same; Ann is told of 5 and then 10 less than she had. -/
theorem commit_order_of_carol :
    let db := (Books.after (openedCalls ++ [.atEpoch (.openAccount "carol" 0 "USD")])).db
    let turns := crossingRequests.map (Turn.mk epoch)
    let turns' := turns.reverse
    db.Usable ∧ Bears crossingRequests db ∧ AllMade turns db ∧ AllMade turns' db ∧
      (afterTurns turns db).rows.accounts = (afterTurns turns' db).rows.accounts ∧
      drawnBelow 100 ⟨1, 3, 5⟩ (answersTo turns db) = [5, 10] := by
  intro db turns turns'
  have husable : db.Usable := (audited_after _).kept.usable
  have hepoch : epoch.Orderly := by
    refine ⟨rfl, ?_⟩
    intro n
    show (⟨0, 0⟩ : Instant).IsRegular
    decide
  have hbears : Bears crossingRequests db := by
    constructor
    case usable => exact husable
    all_goals decide +kernel
  obtain ⟨hsame, hmade, htold⟩ := commit_order husable
  have hall : AllMade turns db := by
    apply hmade crossingRequests turns hbears (.refl _)
    intro t ht
    obtain ⟨r, -, rfl⟩ := List.mem_map.mp ht
    exact hepoch
  have hperm : turns.Perm turns' := turns.reverse_perm.symm
  have hall' : AllMade turns' db := by
    apply hmade crossingRequests turns' hbears (hperm.map Turn.request)
    intro t ht
    obtain ⟨r, -, rfl⟩ := List.mem_map.mp (hperm.mem_iff.mpr ht)
    exact hepoch
  refine ⟨husable, hbears, hall, hall', ?_, ?_⟩
  · exact (hsame turns turns' (hperm.map _) hall hall').1
  · have hstart : db.rows.balance? 1 = some 100 := by decide +kernel
    have hothers : ∀ t ∈ turns, t.request = ⟨1, 3, 5⟩ ∨ ¬ t.request.Touches 1 := by decide
    rw [htold ⟨1, 3, 5⟩ turns 100 hstart hothers fun answer hanswer _ => hall answer hanswer]
    decide

end Ledger

end DoubleEntry
