/-
DoubleEntry/Proofs/Ledger/Effect.lean

What a call does to the accounts, the entries and the transfers.  There are
five cases (`Effect`): nothing at all, an account opened, an account closed,
an adjustment and a transfer.  `Call.effect` says that every call has one of
them, whatever its arguments, its clock, its token and the failures on its
way, and that its answer tells which; the invariants of whole runs are
proved from these cases and never look at an operation again.
-/
import DoubleEntry.Proofs.Ledger.Books
import DoubleEntry.Proofs.Ledger.Queries
import DoubleEntry.Proofs.Ledger.Units

namespace DoubleEntry.Ledger

variable {db db' : Database} {α : Type}

/-! ### Cases -/

/-- What a call did to the accounts, the entries and the transfers. -/
inductive Effect (db db' : Database) (e : Event) : Prop
  | idle (same : db.rows.SameLedger db'.rows) (opening : e.opening? = none)
      (adjustment : e.adjustment? = none) (transfer : e.transfer? = none)
  | opened (row : AccountRow) (made : AccountOpened row db db')
      (opening : e.opening? = some (row.id, row.balance)) (adjustment : e.adjustment? = none)
      (transfer : e.transfer? = none)
  | closed (id : Int64) (made : AccountClosed id db db') (opening : e.opening? = none)
      (adjustment : e.adjustment? = none) (transfer : e.transfer? = none)
  | adjusted (entry : EntryRow) (made : AdjustmentMade entry db db') (opening : e.opening? = none)
      (adjustment : e.adjustment? = some (entry.accountId, entry.amount))
      (transfer : e.transfer? = none)
  | transferred (t : TransferRow) (debit credit : EntryRow)
      (made : TransferMade t debit credit db db') (opening : e.opening? = none)
      (adjustment : e.adjustment? = none)
      (transfer : e.transfer? = some ⟨t.fromId, t.toId, t.amount⟩)

/-! ### The shape of the database -/

/-- Every effect keeps the shape of the database. -/
theorem Effect.wellKept {e : Event} (h : Effect db db' e) (hdb : db.Succeeds db')
    (hkept : db.WellKept) : db'.WellKept := by
  obtain ⟨hcatalog, haccounts, hentries, htransfers, hlegible⟩ := hkept
  obtain ⟨hcat, haccount, hentry, htransfer, -⟩ := hdb
  cases h with
  | idle same =>
      refine ⟨hcat.trans hcatalog, ?_, ?_, ?_, ?_⟩
      · rw [same.accounts]
        exact haccounts.mono haccount
      · rw [same.entries]
        exact hentries.mono hentry
      · rw [same.transfers]
        exact htransfers.mono htransfer
      · rw [same.accounts]
        exact hlegible
  | opened row made =>
      refine ⟨hcat.trans hcatalog, ?_, ?_, ?_, ?_⟩
      · rw [made.accounts, made.sequence, List.map_append]
        exact haccounts.append made.id
      · rw [made.entries]
        exact hentries.mono hentry
      · rw [made.transfers]
        exact htransfers.mono htransfer
      · rw [made.accounts]
        intro r hr
        rcases List.mem_append.mp hr with hr | hr
        · exact hlegible r hr
        · rw [List.mem_singleton.mp hr]
          exact made.legible
  | closed id made =>
      have hsub : db'.rows.accounts.Sublist db.rows.accounts := by
        rw [made.accounts]
        exact List.filter_sublist
      refine ⟨hcat.trans hcatalog, ?_, ?_, ?_, ?_⟩
      · exact (haccounts.mono haccount).sublist (hsub.map _)
      · rw [made.entries]
        exact hentries.mono hentry
      · rw [made.transfers]
        exact htransfers.mono htransfer
      · intro r hr
        exact hlegible r (hsub.subset hr)
  | adjusted entry made =>
      refine ⟨hcat.trans hcatalog, ?_, ?_, ?_, ?_⟩
      · rw [made.accounts.ids]
        exact haccounts.mono haccount
      · rw [made.entries, made.sequence, List.map_append]
        exact hentries.append made.id
      · rw [made.transfers]
        exact htransfers.mono htransfer
      · intro r' hr'
        obtain ⟨r, hr, hmoved⟩ := made.accounts.exists_of_mem hr'
        exact hmoved.isLegible (hlegible r hr)
  | transferred t debit credit made =>
      refine ⟨hcat.trans hcatalog, ?_, ?_, ?_, ?_⟩
      · rw [made.accounts.ids]
        exact haccounts.mono haccount
      · -- two ids are drawn, first that of the debit
        have hcredit : credit.id.toInt = (db.sequences.entry + 1 : Nat) + 1 := by
          rw [made.credit_id]
          omega
        rw [made.entries, made.entry_sequence, List.map_append]
        have hboth := (hentries.append made.debit_id).append hcredit
        rw [List.append_assoc] at hboth
        exact hboth
      · rw [made.transfers, made.transfer_sequence, List.map_append]
        exact htransfers.append made.id
      · intro r' hr'
        obtain ⟨r, hr, hmoved⟩ := made.accounts.exists_of_mem hr'
        exact hmoved.isLegible (hlegible r hr)

/-! ### Opening -/

/-- A call that opens an account does so, or nothing. -/
theorem openAccount_effect {env : Surroundings} (h : (env.clock 0).IsRegular) (owner : String)
    (balance : Int64) (currency : String) (db : Database) :
    Effect db (openAccount env owner balance currency db).db
      ⟨.openAccount owner balance currency, (openAccount env owner balance currency db).outcome⟩ := by
  unfold openAccount
  rcases checkOpening owner currency with e | ⟨owner', c⟩
  · exact .idle (.refl _) rfl rfl rfl
  dsimp only
  rcases createAccount_answers h owner' balance c db with ⟨a, db', hanswer⟩ | ⟨e, hrefused⟩
  · have hsubmit : submit (env.clock 0) (.createAccount owner' balance c) db =
        { outcome := .ok a, db := db' } := submit_ok_iff.mpr ⟨rfl, hanswer⟩
    obtain ⟨-, id, hid, hread, rfl⟩ := answers_createAccount_iff.mp hanswer
    rw [AccountRow.read_written h] at hread
    cases hread
    rw [hsubmit]
    exact .opened (.written (env.clock 0) id owner' balance c)
      ⟨hid, AccountRow.isLegible_written h .., rfl, rfl, rfl, rfl⟩ rfl rfl rfl
  · have hsubmit : submit (env.clock 0) (.createAccount owner' balance c) db =
        { outcome := .error e, db } := by
      simp only [submit, Query.isImpossible, Query.perform, hrefused]
      rfl
    rw [hsubmit]
    exact .idle (.refl _) rfl rfl rfl

/-! ### Calls -/

/-- A unit that was not kept has had no effect. -/
theorem effect_of_not_ok {env : Surroundings} {token : CancelToken} {w : Work α} {e : Event}
    (h : ∀ v, (w.execute env token db).outcome ≠ .ok v) (opening : e.opening? = none)
    (adjustment : e.adjustment? = none) (transfer : e.transfer? = none) :
    Effect db (w.execute env token db).db e := by
  obtain ⟨s, -, hdb⟩ := Work.execute_undone h
  rw [hdb]
  exact .idle (.refl _) opening adjustment transfer

theorem closeAccount_effect (env : Surroundings) (id : Int64) (db : Database) :
    Effect db (closeAccount env id db).db
      ⟨.closeAccount id, (closeAccount env id db).outcome⟩ := by
  unfold closeAccount
  by_cases hok : ∃ v, ((closeWork id).execute env {} db).outcome = .ok v
  · obtain ⟨v, hv⟩ := hok
    exact .closed id (closeWork_closed (Work.execute_kept hv)) rfl rfl rfl
  · exact effect_of_not_ok (fun v hv => hok ⟨v, hv⟩) rfl rfl rfl

theorem adjustBalance_effect (hkept : db.WellKept) (env : Surroundings) (id amount : Int64) :
    Effect db (adjustBalance env id amount db).db
      ⟨.adjustBalance id amount, (adjustBalance env id amount db).outcome⟩ := by
  unfold adjustBalance
  rcases ensure (amount ≠ 0) .zeroAdjustment with e | u
  · exact .idle (.refl _) rfl rfl rfl
  dsimp only
  cases houtcome : ((adjustWork id amount).execute env {} db).outcome with
  | ok receipt =>
      obtain ⟨entry, hid, hamount, hmade, -⟩ :=
        adjustWork_made hkept.accounts.nodup (Work.execute_kept houtcome)
      refine .adjusted entry hmade rfl ?_ rfl
      rw [hid, hamount]
      rfl
  | error e =>
      refine effect_of_not_ok (fun v hv => ?_) rfl rfl rfl
      rw [houtcome] at hv
      cases hv
  | crash =>
      refine effect_of_not_ok (fun v hv => ?_) rfl rfl rfl
      rw [houtcome] at hv
      cases hv

/-- A transfer that is executed has been made, wherever its token might have
been cancelled. -/
theorem transfer_effect (hkept : db.WellKept) (env : Surroundings) (token : CancelToken)
    {r : TransferRequest} {w : Work TransferReceipt}
    (hw : ∀ clock db, w.submitEach clock db = (transferWork r).submitEach clock db)
    {e : Outcome TransferReceipt → Event} (opening : ∀ o, (e o).opening? = none)
    (adjustment : ∀ o, (e o).adjustment? = none) (made : ∀ v, (e (.ok v)).transfer? = some r)
    (refused : ∀ o, (∀ v, o ≠ .ok v) → (e o).transfer? = none) :
    Effect db (w.execute env token db).db (e (w.execute env token db).outcome) := by
  by_cases hok : ∃ v, (w.execute env token db).outcome = .ok v
  · obtain ⟨v, hv⟩ := hok
    -- a unit that was kept did not see its token cancelled
    have hmade := Work.execute_kept hv
    rw [hw] at hmade
    obtain ⟨t, debit, credit, hfrom, hto, hamount, hmade, -⟩ :=
      transferWork_made hkept.accounts.nodup hmade
    have hconfirmed : (e (w.execute env token db).outcome).transfer? =
        some ⟨t.fromId, t.toId, t.amount⟩ := by
      rw [hv, made, hfrom, hto, hamount]
    exact .transferred t debit credit hmade (opening _) (adjustment _) hconfirmed
  · have hnot : ∀ v, (w.execute env token db).outcome ≠ .ok v := fun v hv => hok ⟨v, hv⟩
    exact effect_of_not_ok hnot (opening _) (adjustment _) (refused _ hnot)

/-- Whether an operation may change accounts, entries or transfers. -/
def Operation.changesLedger : Operation → Bool
  | openAccount .. | closeAccount .. | adjustBalance .. => true
  | transferFunds .. | transferFundsWith .. => true
  | _ => false

/-- The queries of all others leave these tables alone. -/
theorem Operation.sameLedger {op : Operation} (h : op.changesLedger = false) (env : Surroundings)
    (db : Database) : db.rows.SameLedger (op.perform env db).db.rows := by
  cases op with
  | openAccount | closeAccount | adjustBalance | transferFunds | transferFundsWith => cases h
  | getAccount id => exact submit_sameLedger rfl _ db
  | listAccounts owner page =>
      show db.rows.SameLedger (Ledger.listAccounts env owner page db).db.rows
      unfold Ledger.listAccounts
      rcases checkPage page.limit page.offset with e | u
      · exact .refl _
      · exact submit_sameLedger rfl _ db
  | getTransfer id => exact submit_sameLedger rfl _ db
  | listTransfers accountId page => exact Work.submitEach_sameLedger (pageWork_issues rfl rfl) _ db
  | getEntry id => exact submit_sameLedger rfl _ db
  | listEntries accountId page => exact Work.submitEach_sameLedger (pageWork_issues rfl rfl) _ db
  | createUser username fullName email =>
      show db.rows.SameLedger (Ledger.createUser env username fullName email db).db.rows
      unfold Ledger.createUser
      rcases User.validateNew username fullName email with e | u
      · exact .refl _
      · exact submit_sameLedger rfl _ db
  | getUser username => exact submit_sameLedger rfl _ db
  | requestVerification lifetime username secretCode =>
      exact Work.execute_sameLedger (requestWork_issues rfl fun _ _ => rfl) _ _ db
  | getVerification id => exact submit_sameLedger rfl _ db
  | verifyEmail id secretCode => exact Work.execute_sameLedger (confirmWork_issues rfl rfl fun _ => rfl) _ _ db
  | status => exact .refl _

/-- **Every call has one of the effects, and its answer tells which.** -/
theorem Call.effect (c : Call) (hkept : db.WellKept) :
    Effect db (c.perform db).db ⟨c.operation, (c.perform db).outcome⟩ := by
  obtain ⟨operation, env, hregular⟩ := c
  cases operation with
  | openAccount owner balance currency =>
      exact openAccount_effect (hregular rfl) owner balance currency db
  | closeAccount id => exact closeAccount_effect env id db
  | adjustBalance id amount => exact adjustBalance_effect hkept env id amount
  | transferFunds request =>
      exact transfer_effect (e := fun o => ⟨.transferFunds request, o⟩) hkept env {}
        (fun _ _ => rfl) (fun _ => rfl) (fun _ => rfl) (fun _ => rfl)
        fun _ hnot => Event.transfer?_of_not_ok hnot
  | transferFundsWith token cancelled request =>
      cases cancelled with
      | none =>
          exact transfer_effect (e := fun o => ⟨.transferFundsWith token none request, o⟩) hkept env
            token (fun _ _ => rfl) (fun _ => rfl) (fun _ => rfl) (fun _ => rfl)
            fun _ hnot => Event.transfer?_of_not_ok hnot
      | some n =>
          exact transfer_effect (e := fun o => ⟨.transferFundsWith token (some n) request, o⟩) hkept
            env token (Work.submitEach_cancelAfter n _) (fun _ => rfl) (fun _ => rfl)
            (fun _ => rfl) fun _ hnot => Event.transfer?_of_not_ok hnot
  | getAccount | listAccounts | getTransfer | listTransfers | getEntry | listEntries | createUser
  | getUser | requestVerification | getVerification | verifyEmail | status =>
      exact .idle (Operation.sameLedger rfl env db) rfl rfl rfl

/-- No call touches the catalog, and none sets a sequence back. -/
theorem Call.succeeds (c : Call) (db : Database) : db.Succeeds (c.perform db).db := by
  obtain ⟨operation, env, -⟩ := c
  cases operation with
  | openAccount owner balance currency =>
      show db.Succeeds (openAccount env owner balance currency db).db
      unfold openAccount
      rcases checkOpening owner currency with e | ⟨owner', c⟩
      · exact .refl db
      · exact .submit _ _ db
  | getAccount id => exact .submit _ _ db
  | listAccounts owner page =>
      show db.Succeeds (listAccounts env owner page db).db
      unfold listAccounts
      rcases checkPage page.limit page.offset with e | u
      · exact .refl db
      · exact .submit _ _ db
  | closeAccount id => exact .execute _ _ _ db
  | adjustBalance id amount =>
      show db.Succeeds (adjustBalance env id amount db).db
      unfold adjustBalance
      rcases ensure (amount ≠ 0) .zeroAdjustment with e | u
      · exact .refl db
      · exact .execute _ _ _ db
  | transferFunds request => exact .execute _ _ _ db
  | transferFundsWith token cancelled request =>
      cases cancelled with
      | none => exact .execute _ _ _ db
      | some n => exact .execute _ _ _ db
  | getTransfer id => exact .submit _ _ db
  | listTransfers accountId page => exact .submitEach _ _ db
  | getEntry id => exact .submit _ _ db
  | listEntries accountId page => exact .submitEach _ _ db
  | createUser username fullName email =>
      show db.Succeeds (createUser env username fullName email db).db
      unfold createUser
      rcases User.validateNew username fullName email with e | u
      · exact .refl db
      · exact .submit _ _ db
  | getUser username => exact .submit _ _ db
  | requestVerification lifetime username secretCode => exact .execute _ _ _ db
  | getVerification id => exact .submit _ _ db
  | verifyEmail id secretCode => exact .execute _ _ _ db
  | status => exact .refl db

end DoubleEntry.Ledger
