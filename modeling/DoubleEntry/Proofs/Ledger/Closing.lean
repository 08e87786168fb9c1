/-
DoubleEntry/Proofs/Ledger/Closing.lean

Closing an account, in full.  `closingError?` says from the rows alone why an
account cannot be closed: it is not there, or an entry refers to it.
Otherwise its row, and nothing else, is removed (`closeAccount_eq`).

What is gone stays gone (`Books.Gone.after`): ids are not drawn twice, so no
later account takes the id of a closed one, and without an account under the
id there is no entry and no transfer that names it.  `referential_integrity`
puts this together with the references that are kept and with what the
history says of the accounts that can be closed.
-/
import DoubleEntry.Proofs.Ledger.Conservation
import DoubleEntry.Proofs.Ledger.References
import DoubleEntry.Proofs.Store.Steady
import DoubleEntry.Proofs.Store.Usable

namespace DoubleEntry.Ledger

variable {env : Surroundings} {db : Database} {id : Int64}

/-! ### Why an account is not closed -/

/-- Why an account cannot be closed. -/
def closingError? (rows : Rows) (id : Int64) : Option Error :=
  if (rows.account? id).isSome then
    if (rows.entries.filter fun e => e.accountId = id).isEmpty then none
    else some (.constraint (.accountInUse id))
  else some (.notFound (.account id))

/-! ### The outcome -/

/-- What is done about an account that was found. -/
def removeUnused (id : Int64) (entries : List Entry) : Work Unit :=
  Work.check (ensure entries.isEmpty (.accountInUse id)) >>= fun _ =>
    Work.query (.deleteAccount id)

theorem neverCancels_closeWork (id : Int64) : (closeWork id).NeverCancels := by
  unfold closeWork
  refine Work.neverCancels_bind (Work.neverCancels_query _) fun account => ?_
  refine Work.neverCancels_bind (Work.neverCancels_query _) fun entries => ?_
  exact Work.neverCancels_bind (Work.neverCancels_check _) fun _ => Work.neverCancels_query _

/-- An account that is there comes down to its first entry. -/
theorem submitEach_closeWork {row : AccountRow} {a : Account} {es : List Entry}
    (clock : Nat → Instant) (haccounts : db.catalog.hasTable Migration.accountTable.name = true)
    (hrow : db.rows.account? id = some row) (hread : row.read = .ok a)
    (hfirst : submit (clock 1) (.entries id { limit := 1, offset := 0 }) db =
      { outcome := .ok es, db }) :
    (closeWork id).submitEach clock db =
      (removeUnused id es).submitEach (fun n => clock (n + 2)) db := by
  refine (Work.submitEach_of_answered clock
    (submit_accountForUpdate_of_some haccounts hrow hread)).trans ?_
  exact Work.submitEach_of_answered (fun n => clock (n + 1)) hfirst

/-- **The outcome of closing.**  Where nothing is made to fail, an account is
closed unless something stands against it; nothing else is changed, and
nothing at all if it is not closed. -/
theorem closeAccount_eq (henv : env.failOn = none) (hkept : db.WellKept)
    (hreadable : ∀ e ∈ db.rows.entries, ∃ v, e.read = .ok v) (id : Int64) :
    closeAccount env id db =
      match closingError? db.rows id with
      | none => { outcome := .ok (), db := db.withRows (db.rows.removeAccount id) }
      | some e => { outcome := .error e, db } := by
  have husable := hkept.usable
  have haccounts := husable.accountTable
  have hnever := neverCancels_closeWork id
  unfold closingError?
  cases hrow : db.rows.account? id with
  | none =>
      have hwork : (closeWork id).submitEach env.clock db =
          { outcome := .error (.notFound (.account id)), db } :=
        Work.submitEach_of_refused env.clock (submit_accountForUpdate_of_none haccounts hrow)
      exact Work.execute_of_refused hnever henv rfl hwork
  | some row =>
      obtain ⟨a, ha⟩ := husable.readable row (Rows.account?_eq_some hrow).1
      obtain ⟨es, hfirst, hempty⟩ := submit_firstEntry husable.entryTable hreadable
      have hwork := submitEach_closeWork env.clock haccounts hrow ha hfirst
      unfold removeUnused at hwork
      rw [hempty] at hwork
      dsimp only [Option.isSome_some, if_true]
      cases hunused : (db.rows.entries.filter fun e => e.accountId = id).isEmpty with
      | true =>
          rw [hunused] at hwork
          have hdelete := submit_deleteAccount haccounts hrow (env.clock 2)
          exact Work.execute_of_answered hnever henv rfl
            (hwork.trans (Work.submitEach_query.mpr hdelete))
      | false =>
          rw [hunused] at hwork
          exact Work.execute_of_refused hnever henv rfl hwork

theorem closingError?_eq_none_iff (rows : Rows) (id : Int64) :
    closingError? rows id = none ↔
      (rows.account? id).isSome = true ∧ ¬ ∃ e ∈ rows.entries, e.accountId = id := by
  unfold closingError?
  cases (rows.account? id).isSome with
  | false => simp
  | true => simp

theorem eq_of_closingError?_eq_some {rows : Rows} {e : Error} (h : closingError? rows id = some e) :
    e = if (rows.account? id).isSome = true then .constraint (.accountInUse id)
      else .notFound (.account id) := by
  unfold closingError? at h
  split at h
  case isTrue hopen =>
    split at h
    case isTrue => cases h
    case isFalse =>
      cases h
      rw [if_pos hopen]
  case isFalse hmissing =>
    cases h
    rw [if_neg hmissing]

/-- Among accounts with different ids, one is removed with its id. -/
theorem filter_id_ne_eq_append {before after : List AccountRow} {row : AccountRow}
    (hids : ((before ++ row :: after).map (·.id)).Nodup) :
    (before ++ row :: after).filter (fun r => r.id ≠ row.id) = before ++ after := by
  rw [List.map_append, List.map_cons, List.nodup_append, List.nodup_cons] at hids
  obtain ⟨-, ⟨hafter, -⟩, hbefore⟩ := hids
  have hkeep : ∀ r ∈ before ++ after, decide (r.id ≠ row.id) = true := by
    intro r hr
    rw [decide_eq_true_eq]
    rcases List.mem_append.mp hr with hr | hr
    · exact hbefore _ (List.mem_map_of_mem hr) _ List.mem_cons_self
    · intro heq
      exact hafter (List.mem_map.mpr ⟨r, hr, heq⟩)
  rw [List.filter_append, List.filter_cons_of_neg (by simp), ← List.filter_append,
    List.filter_eq_self.mpr hkeep]

/-! ### Gone accounts -/

/-- An account was opened under the id and is no longer there. -/
structure Books.Gone (b : Books) (id : Int64) : Prop where
  opened : id ∈ b.openings.map (·.1)
  missing : id ∉ b.db.rows.accounts.map (·.id)

namespace Books.Gone

variable {b : Books}

/-- No call brings the account back: a new one has the next id. -/
theorem record (h : b.Gone id) (haudited : b.Audited) (c : Call) : (b.record c).Gone id := by
  have heffect : Effect b.db (b.record c).db _ := c.effect haudited.kept
  constructor
  case opened =>
    rw [b.openings_record c, List.map_append]
    exact List.mem_append_left _ h.opened
  case missing =>
    cases heffect with
    | idle same =>
        rw [same.accounts]
        exact h.missing
    | opened row made =>
        rw [made.accounts, List.map_append, List.mem_append]
        rintro (hold | hnew)
        · exact h.missing hold
        · exact haudited.drawn.ne made.id h.opened (List.mem_singleton.mp hnew)
    | closed closedId made =>
        rw [made.accounts]
        intro hmem
        exact h.missing ((List.filter_sublist.map _).subset hmem)
    | adjusted entry made =>
        rw [made.accounts.ids]
        exact h.missing
    | transferred t debit credit made =>
        rw [made.accounts.ids]
        exact h.missing

/-- A gone account is not referred to. -/
theorem without (h : b.Gone id) (haudited : b.Audited) : b.db.rows.Without id := by
  have hnone : ¬ ∃ r ∈ b.db.rows.accounts, r.id = id := fun hid =>
    h.missing (List.mem_map.mpr hid)
  constructor
  case accounts =>
    intro r hr hid
    exact hnone ⟨r, hr, hid⟩
  case entries =>
    intro e he hid
    exact hnone (haudited.account_of_entry ⟨e, he, hid⟩)
  case transfers =>
    intro t ht htouches
    exact hnone (haudited.account_of_transfer ht htouches)

/-- What is gone stays gone, and its id is not among those of later
accounts. -/
theorem after {calls : List Call} (h : (after calls).Gone id) (later : List Call) :
    (Books.after (calls ++ later)).Gone id ∧
      ∃ opened, (Books.after (calls ++ later)).openings = (Books.after calls).openings ++ opened ∧
        ∀ o ∈ opened, o.1 ≠ id := by
  have hgone : (Books.after (calls ++ later)).Gone id ∧
      ∃ opened,
        (Books.after (calls ++ later)).openings = (Books.after calls).openings ++ opened := by
    apply Books.later_induction
      (motive := fun b => b.Gone id ∧ ∃ opened, b.openings = (Books.after calls).openings ++ opened)
    · exact ⟨h, [], (List.append_nil _).symm⟩
    · rintro calls' c ⟨hgone, opened, hopened⟩
      refine ⟨hgone.record (audited_after calls') c, opened ++ (Event.opening?
        ⟨c.operation, (c.perform (Books.after calls').db).outcome⟩).toList, ?_⟩
      rw [openings_record, hopened, List.append_assoc]
  obtain ⟨hgone, opened, hopened⟩ := hgone
  refine ⟨hgone, opened, hopened, ?_⟩
  -- all ids that were ever drawn are different
  have hnodup := (audited_after (calls ++ later)).drawn.nodup
  rw [hopened, List.map_append, List.nodup_append] at hnodup
  intro o ho heq
  exact hnodup.2.2 id h.opened o.1 (List.mem_map_of_mem ho) heq.symm

end Books.Gone

/-! ### Referential integrity -/

/-- A call that closes an account. -/
def Call.closing (env : Surroundings) (id : Int64) : Call where
  operation := .closeAccount id
  env
  regular h := by cases h

variable {b : Books}

/-- An account that was closed is gone, and no other was opened. -/
theorem gone_of_closed (h : b.Audited)
    (hok : (closeAccount env id b.db).outcome = .ok ()) :
    (b.record (Call.closing env id)).Gone id ∧
      (b.record (Call.closing env id)).openings = b.openings := by
  have hclosed : AccountClosed id b.db (b.record (Call.closing env id)).db :=
    closeWork_closed (Work.execute_kept hok)
  have hopenings : (b.record (Call.closing env id)).openings = b.openings := by
    rw [b.openings_record]
    exact List.append_nil _
  refine ⟨⟨?_, ?_⟩, hopenings⟩
  · obtain ⟨r, hr, rfl⟩ := hclosed.account
    rw [hopenings]
    exact h.opened.subset (List.mem_map_of_mem hr)
  · rw [hclosed.accounts]
    intro hmem
    obtain ⟨r, hr, hid⟩ := List.mem_map.mp hmem
    have hne := (List.mem_filter.mp hr).2
    rw [decide_eq_true_eq] at hne
    exact hne hid

/-- The account that is removed is one row, still with the balance that it was
opened with. -/
theorem Books.Audited.removed (h : b.Audited) {row : AccountRow}
    (hrow : b.db.rows.account? id = some row)
    (hunused : ¬ ∃ e ∈ b.db.rows.entries, e.accountId = id) :
    ∃ before after, b.db.rows.accounts = before ++ row :: after ∧ row.id = id ∧
      (id, row.balance) ∈ b.openings ∧
        b.db.rows.removeAccount id = { b.db.rows with accounts := before ++ after } := by
  obtain ⟨hmem, rfl⟩ := Rows.account?_eq_some hrow
  obtain ⟨before, after, haccounts⟩ := List.append_of_mem hmem
  refine ⟨before, after, haccounts, rfl, ?_, ?_⟩
  · -- an account without entries has the balance of its opening
    have hopened := h.opened.subset (List.mem_map_of_mem hmem)
    obtain ⟨⟨_, opening⟩, ho, rfl⟩ := List.mem_map.mp hopened
    have hbalance := h.balanced row hmem _ ho rfl
    have hsum : entrySum row.id b.db.rows.entries = 0 := by
      apply sumWhere_eq_zero
      intro e he
      rw [decide_eq_false_iff_not]
      intro hid
      exact hunused ⟨e, he, hid⟩
    rw [hsum, Int.add_zero] at hbalance
    rw [Int64.toInt_inj.mp hbalance]
    exact ho
  · have hids := h.kept.accounts.nodup
    rw [haccounts] at hids
    unfold Rows.removeAccount
    rw [haccounts, filter_id_ne_eq_append hids]

/-- An account that is there and was never touched is removed; on any other
call nothing happens. -/
theorem closed_or_refused (haudited : b.Audited) (hrecorded : b.Recorded)
    (henv : env.failOn = none) (id : Int64) :
    let rows := b.db.rows
    let conditions := (rows.account? id).isSome = true ∧ ¬ b.Touched id
    (conditions ∧ ∃ before row after, rows.accounts = before ++ row :: after ∧ row.id = id ∧
        (id, row.balance) ∈ b.openings ∧
        closeAccount env id b.db =
          { outcome := .ok ()
            db := b.db.withRows { rows with accounts := before ++ after } }) ∨
      (¬ conditions ∧
        closeAccount env id b.db =
          { outcome := .error (if (rows.account? id).isSome then .constraint (.accountInUse id)
              else .notFound (.account id))
            db := b.db }) := by
  intro rows conditions
  have hran := closeAccount_eq henv haudited.kept hrecorded.readable id
  have hconditions : closingError? rows id = none ↔ conditions := by
    unfold conditions
    rw [hrecorded.touched_iff haudited]
    exact closingError?_eq_none_iff rows id
  cases herror : closingError? rows id with
  | none =>
      left
      obtain ⟨hopen, hnot⟩ := hconditions.mp herror
      refine ⟨⟨hopen, hnot⟩, ?_⟩
      obtain ⟨row, hrow⟩ := Option.isSome_iff_exists.mp hopen
      rw [hrecorded.touched_iff haudited] at hnot
      obtain ⟨before, after, haccounts, hid, hopening, hremoved⟩ := haudited.removed hrow hnot
      refine ⟨before, row, after, haccounts, hid, hopening, ?_⟩
      rw [hran, ← hremoved, herror]
  | some e =>
      right
      constructor
      · rw [← hconditions, herror]
        exact Option.some_ne_none e
      · rw [hran, herror, ← eq_of_closingError?_eq_some herror]

/-- The id of a closed account is never seen again. -/
theorem closed_forever {calls : List Call}
    (hok : (closeAccount env id (Books.after calls).db).outcome = .ok ()) (later : List Call) :
    let books' := Books.after (calls ++ Call.closing env id :: later)
    books'.db.rows.Without id ∧
      ∃ opened, books'.openings = (Books.after calls).openings ++ opened ∧
        ∀ o ∈ opened, o.1 ≠ id := by
  obtain ⟨hgone, hopenings⟩ := gone_of_closed (audited_after calls) hok
  rw [← Books.after_append_singleton] at hgone hopenings
  obtain ⟨hstays, opened, hopened, hothers⟩ := hgone.after later
  rw [hopenings] at hopened
  have hcalls : calls ++ Call.closing env id :: later =
      (calls ++ [Call.closing env id]) ++ later := by
    rw [List.append_assoc]
    rfl
  rw [← hcalls] at hstays hopened
  exact ⟨hstays.without (audited_after _), opened, hopened, hothers⟩

/-- **Referential integrity.**  After any run the entries and the transfers
refer to accounts that are there.  An account is closed exactly if it is
there and neither an adjustment nor a transfer has ever touched it; just its
row is then removed, and otherwise nothing changes.  The id of a closed
account is never seen again: no account, entry or transfer has it at any
later time, nor any account that is opened. -/
theorem referential_integrity (calls : List Call) :
    let books := Books.after calls
    let rows := books.db.rows
    (∀ e ∈ rows.entries, (rows.account? e.accountId).isSome = true) ∧
      (∀ t ∈ rows.transfers,
        (rows.account? t.fromId).isSome = true ∧ (rows.account? t.toId).isSome = true) ∧
      (∀ (env : Surroundings) (id : Int64), env.failOn = none →
        let ran := closeAccount env id books.db
        (ran.outcome = .ok () ↔ (rows.account? id).isSome = true ∧ ¬ books.Touched id) ∧
          (ran.outcome = .ok () →
            ∃ before row after, rows.accounts = before ++ row :: after ∧ row.id = id ∧
              (id, row.balance) ∈ books.openings ∧
              ran.db = books.db.withRows { rows with accounts := before ++ after }) ∧
          (ran.outcome ≠ .ok () →
            ran.db = books.db ∧
              ran.outcome = .error (if (rows.account? id).isSome then .constraint (.accountInUse id)
                else .notFound (.account id)))) ∧
      ∀ (env : Surroundings) (id : Int64), (closeAccount env id books.db).outcome = .ok () →
        ∀ later : List Call,
          let books' := Books.after (calls ++ Call.closing env id :: later)
          books'.db.rows.Without id ∧
            ∃ opened, books'.openings = books.openings ++ opened ∧ ∀ o ∈ opened, o.1 ≠ id := by
  intro books rows
  have haudited : books.Audited := audited_after calls
  have hrecorded : books.Recorded := recorded_after calls
  have hthere : ∀ id, (∃ r ∈ rows.accounts, r.id = id) → (rows.account? id).isSome = true := by
    intro id hid
    rw [account?_isSome_iff]
    exact List.mem_map.mpr hid
  refine ⟨?_, ?_, ?_, ?_⟩
  · intro e he
    exact hthere _ (haudited.account_of_entry ⟨e, he, rfl⟩)
  · intro t ht
    exact ⟨hthere _ (haudited.account_of_transfer ht (Or.inl rfl)),
      hthere _ (haudited.account_of_transfer ht (Or.inr rfl))⟩
  · intro env id henv ran
    rcases closed_or_refused haudited hrecorded henv id with
      ⟨hconditions, before, row, after, haccounts, hid, hopening, hran⟩ | ⟨hnot, hran⟩
    · have hclosed : ran = _ := hran
      rw [hclosed]
      refine ⟨iff_of_true rfl hconditions, ?_, fun hne => absurd rfl hne⟩
      intro _
      exact ⟨before, row, after, haccounts, hid, hopening, rfl⟩
    · have hrefused : ran = _ := hran
      rw [hrefused]
      refine ⟨⟨?_, ?_⟩, ?_, ?_⟩
      · intro hok
        cases hok
      · intro hconditions
        exact absurd hconditions hnot
      · intro hok
        cases hok
      · intro _
        exact ⟨rfl, rfl⟩
  · intro env id hok later
    exact closed_forever hok later

/-- Ann sends Bob 30; Carol has an account that is not used. -/
def closableCalls : List Call :=
  [.atEpoch (.openAccount "ann" 100 "USD"), .atEpoch (.openAccount "bob" 20 "USD"),
    .atEpoch (.openAccount "carol" 7 "EUR"), .atEpoch (.transferFunds ⟨1, 2, 30⟩)]

/-- Bob's account stays; Carol's is closed, and gone for good. -/
theorem referential_integrity_of_carol :
    let books := Books.after closableCalls
    (closeAccount epoch 2 books.db).outcome = .error (.constraint (.accountInUse 2)) ∧
      (closeAccount epoch 3 books.db).outcome = .ok () ∧
      ∀ later : List Call,
        (Books.after (closableCalls ++ Call.closing epoch 3 :: later)).db.rows.Without 3 := by
  intro books
  obtain ⟨-, -, hclosing, hgone⟩ := referential_integrity closableCalls
  have hbob : (closeAccount epoch 2 books.db).outcome ≠ .ok () := by decide +kernel
  have hcarol : (closeAccount epoch 3 books.db).outcome = .ok () := by decide +kernel
  have hopen : (books.db.rows.account? 2).isSome = true := by decide +kernel
  refine ⟨?_, hcarol, fun later => (hgone epoch 3 hcarol later).1⟩
  have hrefused := ((hclosing epoch 2 rfl).2.2 hbob).2
  rw [hrefused, if_pos hopen]

end DoubleEntry.Ledger
