/-
DoubleEntry/Proofs/Ledger/BalancePairs.lean

Two amounts that are added to the balances of a pair of accounts do the same in
whichever order the accounts are named.  As units of work the two ways are the
same but for the order of the answers (`addMoney_comm`), so nothing can tell
them apart: not the queries that are issued, not the database that is left, and
not the error, whatever state the transaction is in and whatever is made to
fail.

`addMoney_pair` says this together with what the additions come to in a
transaction that nothing disturbs, and with what they come to if both accounts
are one.
-/
import DoubleEntry.Proofs.Ledger.TransferOutcome

namespace DoubleEntry

variable {α β : Type} {env : Surroundings}

/-! ### Queries that are issued -/

/-- However a query ends, it is on record. -/
theorem Scope.issue_calls (env : Surroundings) (q : Query) (s : Scope) :
    (s.issue env q).2.calls = q :: s.calls := by
  unfold issue answer
  dsimp only
  split
  · rfl
  split
  · rfl
  split
  · rfl
  split <;> rfl

namespace Work

/-- The queries that the unit issues are these in this order, whatever their
answers are, as long as they are answered. -/
def Follows : Work α → List Query → Prop
  | done _, qs => qs = []
  | fail _, _ => True
  | crash, _ => True
  | cancel next, qs => next.Follows qs
  | call q next, qs => ∃ rest, qs = q :: rest ∧ ∀ a, (next a).Follows rest

/-- **Such a unit issues its queries from the front**, and all of them before
it gives a value. -/
theorem Follows.run_calls {w : Work α} {qs : List Query} (hw : w.Follows qs)
    (env : Surroundings) (s : Scope) :
    ∃ issued, issued <+: qs ∧ (w.run env s).2.calls = issued.reverse ++ s.calls ∧
      ∀ v, (w.run env s).1 = .ok v → issued = qs := by
  induction w generalizing s qs with
  | done a => exact ⟨[], List.nil_prefix, rfl, fun _ _ => hw.symm⟩
  | fail e => exact ⟨[], List.nil_prefix, rfl, fun v h => by cases h⟩
  | crash => exact ⟨[], List.nil_prefix, rfl, fun v h => by cases h⟩
  | cancel next ih => exact ih hw s.cancel
  | call q next ih =>
      obtain ⟨rest, rfl, hnext⟩ := hw
      have hcalls := s.issue_calls env q
      rcases run_call env q next s with ⟨hscope, hnot⟩ | ⟨a, -, hrun⟩
      · refine ⟨[q], List.prefix_append [q] rest, ?_, fun v h => absurd h (hnot v)⟩
        rw [hscope, hcalls]
        rfl
      · obtain ⟨issued, hissued, hrest, hall⟩ := ih a (hnext a) (s.issue env q).2
        refine ⟨q :: issued, (List.prefix_cons_inj q).mpr hissued, ?_, fun v h => ?_⟩
        · rw [hrun, hrest, hcalls, List.reverse_cons, List.append_assoc]
          rfl
        · rw [hrun] at h
          rw [hall v h]

/-- What is made of the value of a unit issues no further query. -/
theorem run_map (g : α → β) (w : Work α) (s : Scope) :
    (g <$> w).run env s = ((w.run env s).1.map g, (w.run env s).2) := by
  induction w generalizing s with
  | done a => rfl
  | fail e => rfl
  | crash => rfl
  | cancel next ih => exact ih s.cancel
  | call q next ih =>
      show (call q fun a => g <$> next a).run env s = _
      simp only [run]
      rcases s.issue env q with ⟨outcome, s'⟩
      cases outcome with
      | ok a => exact ih a s'
      | error e => rfl
      | crash => rfl

/-- A query that is answered on the way to a value has been performed. -/
theorem run_query_bind_ok {q : Query} {f : q.Answer → Work α} {s : Scope} {v : α}
    (h : ((query q >>= f).run env s).1 = .ok v) :
    ∃ a, (q.perform (env.clock s.calls.length) s.db).Answers a (s.issue env q).2.db ∧
      (query q >>= f).run env s = (f a).run env (s.issue env q).2 := by
  rcases run_call env q f s with ⟨-, hnot⟩ | ⟨a, ha, hrun⟩
  · exact absurd h (hnot v)
  · obtain ⟨-, -, -, hresult, hscope⟩ := Scope.issue_ok ha
    refine ⟨a, ⟨hresult, ?_⟩, hrun⟩
    rw [hscope]

end Work

namespace Ledger

variable {s : Scope} {id id₁ id₂ amount₁ amount₂ : Int64}

/-! ### Either way round -/

/-- The additions to two balances in the order in which they are made: the
account with the lower id comes first. -/
def additionsUpwards (id₁ amount₁ id₂ amount₂ : Int64) : List Query :=
  if id₁.toInt < id₂.toInt then [.addBalance id₁ amount₁, .addBalance id₂ amount₂]
  else [.addBalance id₂ amount₂, .addBalance id₁ amount₁]

theorem addMoney_follows (hne : id₁ ≠ id₂) (amount₁ amount₂ : Int64) :
    (addMoney id₁ amount₁ id₂ amount₂).Follows (additionsUpwards id₁ amount₁ id₂ amount₂) := by
  rw [addMoney_eq hne, additionsUpwards]
  split <;> exact ⟨_, rfl, fun _ => ⟨_, rfl, fun _ => rfl⟩⟩

/-- **It does not matter which of two accounts is named first**, but for the
order of the answers. -/
theorem addMoney_comm (hne : id₁ ≠ id₂) (amount₁ amount₂ : Int64) :
    addMoney id₂ amount₂ id₁ amount₁ = Prod.swap <$> addMoney id₁ amount₁ id₂ amount₂ := by
  have hvalue : id₁.toInt ≠ id₂.toInt := fun h => hne (Int64.toInt_inj.mp h)
  rw [addMoney_eq hne, addMoney_eq hne.symm]
  by_cases hlt : id₁.toInt < id₂.toInt
  · rw [if_pos hlt, if_neg (by omega)]
    rfl
  · rw [if_neg hlt, if_pos (by omega)]
    rfl

/-! ### The same account twice -/

/-- Two movements on one account are a movement of their sum. -/
theorem movement_add (id : Int64) (amount amount' : Int) :
    (fun x => movement id amount x + movement id amount' x) = movement id (amount + amount') := by
  funext x
  unfold movement
  split
  · rfl
  · rfl

theorem addMoney_self_eq (id amount₁ amount₂ : Int64) :
    addMoney id amount₁ id amount₂ =
      Work.query (.addBalance id amount₁) >>= fun a₁ =>
        Work.query (.addBalance id amount₂) >>= fun a₂ => .done (a₁, a₂) := by
  have horder : (lockOrder id id).1 = id := by
    rw [lockOrder, if_pos le_rfl]
  rw [addMoney, if_pos horder]
  rfl

/-- What is added to the balance of one account in two parts is the sum. -/
theorem addMoney_self (hids : (s.db.rows.accounts.map (·.id)).Nodup)
    {accounts : Account × Account} :
    let ran := (addMoney id amount₁ id amount₂).run env s
    ran.1 = .ok accounts →
      ran.2.db = s.db.withRows { s.db.rows with accounts := ran.2.db.rows.accounts } ∧
        Moved (movement id (amount₁.toInt + amount₂.toInt)) s.db.rows.accounts
          ran.2.db.rows.accounts := by
  intro ran h
  simp only [ran, addMoney_self_eq] at h ⊢
  obtain ⟨a₁, hfirst, hrun⟩ := Work.run_query_bind_ok h
  have hadded₁ := balanceAdded_of_answers hids hfirst
  rw [hrun] at h
  obtain ⟨a₂, hsecond, hrest⟩ := Work.run_query_bind_ok h
  have hadded₂ := balanceAdded_of_answers (hadded₁.accounts.ids ▸ hids) hsecond
  obtain ⟨hmoved, -, hframe⟩ := hadded₁.trans hadded₂
  rw [movement_add] at hmoved
  rw [hrun, hrest]
  exact ⟨hframe, hmoved⟩

/-! ### Pairs -/

/-- The balance of an account that is there can take an amount. -/
def CanTake (rows : Rows) (id amount : Int64) : Prop :=
  ∃ row, rows.account? id = some row ∧
    -9223372036854775808 ≤ row.balance.toInt + amount.toInt ∧
      row.balance.toInt + amount.toInt ≤ 9223372036854775807

theorem pairError?_eq_none_iff_canTake {rows : Rows} :
    pairError? rows id₁ amount₁ id₂ amount₂ = none ↔
      CanTake rows id₁ amount₁ ∧ CanTake rows id₂ amount₂ := by
  rw [pairError?_eq_none_iff, Rows.additionError?_eq_none_iff, Rows.additionError?_eq_none_iff]
  rfl

section Undisturbed

variable (hne : id₁ ≠ id₂) (hfail : env.failOn = none) (hcancelled : s.cancelled = false)
  (hspoiled : s.spoiled = false) (hdb : s.db.Usable)

include hne hfail hcancelled hspoiled hdb

/-- Where nothing disturbs them, both additions are made if nothing stands
against them. -/
theorem run_addMoney_of_none (h : pairError? s.db.rows id₁ amount₁ id₂ amount₂ = none) :
    let ran := (addMoney id₁ amount₁ id₂ amount₂).run env s
    ∃ a₁ a₂, ran.1 = .ok (a₁, a₂) ∧ PairAdded id₁ amount₁ id₂ amount₂ a₁ a₂ s.db ran.2.db := by
  obtain ⟨houtcome, hleft, -, -⟩ := Work.run_eq_submitEach
    (neverCancels_addMoney id₁ amount₁ id₂ amount₂) hfail hcancelled hspoiled
  obtain ⟨a₁, a₂, db', hwork, hadded⟩ := addMoney_of_none hdb.accountTable hdb.readable hne
    hdb.ids (fun n => env.clock (s.calls.length + n)) h
  rw [hwork] at houtcome hleft
  refine ⟨a₁, a₂, houtcome, ?_⟩
  rw [hleft]
  exact hadded

/-- Otherwise the error is what stands against them. -/
theorem run_addMoney_of_some {e : Error}
    (h : pairError? s.db.rows id₁ amount₁ id₂ amount₂ = some e) :
    ((addMoney id₁ amount₁ id₂ amount₂).run env s).1 = .error e := by
  obtain ⟨houtcome, -, -, -⟩ := Work.run_eq_submitEach
    (neverCancels_addMoney id₁ amount₁ id₂ amount₂) hfail hcancelled hspoiled
  obtain ⟨db', hwork, -⟩ := addMoney_of_some hdb.accountTable hdb.readable hne
    (fun n => env.clock (s.calls.length + n)) h
  rw [hwork] at houtcome
  exact houtcome

end Undisturbed

/-- **Adding to a pair of balances.**  Whatever state a transaction is in, and
whatever is made to fail, it does not matter which of two accounts is named
first: the same queries are issued, that of the lower id first, the same is
left, and the answers are swapped or the error is the same.  Nor does it
matter where each addition is kept by itself.  In a transaction that nothing
disturbs the additions are made exactly if both accounts are there
and neither sum leaves 64 bits, and the accounts are answered as they are
stored; otherwise the error is the first that stands against them.  If both
accounts are one, then a success adds the exact sum to its balance. -/
theorem addMoney_pair (env : Surroundings) (s : Scope) (id₁ amount₁ id₂ amount₂ : Int64) :
    let ran := (addMoney id₁ amount₁ id₂ amount₂).run env s
    let upwards := additionsUpwards id₁ amount₁ id₂ amount₂
    (id₁ ≠ id₂ →
      (addMoney id₂ amount₂ id₁ amount₁).run env s = (ran.1.map Prod.swap, ran.2) ∧
      (∀ clock db, (addMoney id₂ amount₂ id₁ amount₁).submitEach clock db =
        ((addMoney id₁ amount₁ id₂ amount₂).submitEach clock db).map Prod.swap) ∧
      (∃ issued, issued <+: upwards ∧ ran.2.calls = issued.reverse ++ s.calls ∧
        ∀ accounts, ran.1 = .ok accounts → issued = upwards) ∧
      (env.failOn = none → s.cancelled = false → s.spoiled = false → s.db.Usable →
        ((∃ accounts, ran.1 = .ok accounts) ↔
          CanTake s.db.rows id₁ amount₁ ∧ CanTake s.db.rows id₂ amount₂) ∧
        (∀ accounts, ran.1 = .ok accounts →
          PairAdded id₁ amount₁ id₂ amount₂ accounts.1 accounts.2 s.db ran.2.db) ∧
        ((∀ accounts, ran.1 ≠ .ok accounts) →
          ∃ e, ran.1 = .error e ∧
            pairError? s.db.rows id₁ amount₁ id₂ amount₂ = some e))) ∧
    (id₁ = id₂ → (s.db.rows.accounts.map (·.id)).Nodup →
      ∀ accounts, ran.1 = .ok accounts →
        ran.2.db = s.db.withRows { s.db.rows with accounts := ran.2.db.rows.accounts } ∧
          Moved (movement id₁ (amount₁.toInt + amount₂.toInt)) s.db.rows.accounts
            ran.2.db.rows.accounts) := by
  intro ran upwards
  constructor
  case right =>
    rintro rfl hids accounts h
    exact addMoney_self hids h
  case left =>
  intro hne
  refine ⟨?_, ?_, (addMoney_follows hne amount₁ amount₂).run_calls env s, ?_⟩
  · rw [addMoney_comm hne, Work.run_map]
  · intro clock db
    rw [addMoney_comm hne]
    exact Work.submitEach_map _ Prod.swap clock db
  intro hfail hcancelled hspoiled hdb
  rw [← pairError?_eq_none_iff_canTake]
  cases herror : pairError? s.db.rows id₁ amount₁ id₂ amount₂ with
  | none =>
      obtain ⟨a₁, a₂, hok, hadded⟩ :=
        run_addMoney_of_none hne hfail hcancelled hspoiled hdb herror
      refine ⟨iff_of_true ⟨_, hok⟩ rfl, ?_, fun hnot => absurd hok (hnot _)⟩
      intro accounts haccounts
      cases hok.symm.trans haccounts
      exact hadded
  | some e =>
      have hfailed : ran.1 = .error e :=
        run_addMoney_of_some hne hfail hcancelled hspoiled hdb herror
      have hnot : ∀ accounts, ran.1 ≠ .ok accounts := by
        intro accounts h
        cases hfailed.symm.trans h
      refine ⟨iff_of_false ?_ (fun h => by cases h), ?_, fun _ => ⟨e, hfailed, rfl⟩⟩
      · rintro ⟨accounts, h⟩
        exact hnot accounts h
      · exact fun accounts h => absurd h (hnot accounts)

/-- Bob, whose account has the higher id, gives Ann 20; and Ann is given 5 and
then 7. -/
theorem addMoney_pair_of_bob :
    let s : Scope := { db := (Books.after openedCalls).db }
    s.db.Usable ∧
      (∃ accounts, ((addMoney 2 (-20) 1 20).run epoch s).1 = .ok accounts) ∧
      ∃ accounts, ((addMoney 1 5 1 7).run epoch s).1 = .ok accounts ∧
        Moved (movement 1 12) s.db.rows.accounts
          ((addMoney 1 5 1 7).run epoch s).2.db.rows.accounts := by
  intro s
  have hdb : s.db.Usable := (audited_after openedCalls).kept.usable
  have hpair := (addMoney_pair epoch s 2 (-20) 1 20).1 (by decide)
  have hmade := hpair.2.2.2 rfl rfl rfl hdb
  refine ⟨hdb, hmade.1.mpr ⟨?_, ?_⟩, ?_⟩
  · exact ⟨⟨2, "bob", 20, "USD", "1970-01-01T00:00:00+00:00"⟩, by decide +kernel, by decide⟩
  · exact ⟨⟨1, "ann", 100, "USD", "1970-01-01T00:00:00+00:00"⟩, by decide +kernel, by decide⟩
  · let before : Account := ⟨1, "ann", 105, .usd, ⟨0, 0⟩⟩
    let after : Account := ⟨1, "ann", 112, .usd, ⟨0, 0⟩⟩
    have hran : ((addMoney 1 5 1 7).run epoch s).1 = .ok (before, after) := by decide +kernel
    exact ⟨_, hran, ((addMoney_pair epoch s 1 5 1 7).2 rfl hdb.ids _ hran).2⟩

end Ledger

end DoubleEntry
