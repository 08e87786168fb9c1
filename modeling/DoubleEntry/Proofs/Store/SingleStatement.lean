/-
DoubleEntry/Proofs/Store/SingleStatement.lean

Statements outside a transaction.  Each is kept by itself, and what it
changes stays changed even if the changed row cannot be read back.  So a
statement that fails leaves the rows alone only where every row that it may
write can be read (`Performed.Clean`).

At a regular instant all rows can be read that are ever written, with one
exception: nothing keeps the expiry of a verification within the years 0 to
9999, and the text of any other year is not read back.  `failed_statement`
says that a failing statement changes nothing unless it writes such an
expiry, and that one which writes it fails and is kept all the same.
-/
import DoubleEntry.Proofs.Store.Addition
import DoubleEntry.Proofs.Store.Frame
import DoubleEntry.Proofs.Store.Tables

namespace DoubleEntry

open Performed

variable {α : Type} {db db' : Database} {rows : Rows} {now : Instant}

/-! ### Rows that can be read back -/

/-- A verification was stored at a regular instant; it expires at an instant
of any year. -/
structure VerificationRow.Dated (r : VerificationRow) : Prop where
  created : ∃ t : Instant, t.IsRegular ∧ r.createdAt = t.storedText
  expires : ∃ t : Instant, t.nanos < 1000000000 ∧ r.expiredAt = t.storedText

/-- The rows that a statement may change in place: accounts and users can be
read, and verifications but for their expiry. -/
structure Rows.Legible (rows : Rows) : Prop where
  accounts : rows.AccountsReadable
  users : ∀ r ∈ rows.users, ∃ u, r.read = .ok u
  verifications : ∀ r ∈ rows.verifications, r.Dated

theorem UserRow.exists_read_written (h : now.IsRegular) (username fullName email : String) :
    ∃ u, (written now username fullName email).read = .ok u :=
  exists_read_iff.mpr ⟨now, readInstant_storedText h _⟩

/-- A user can be read whatever its name is and whether or not its email is
confirmed. -/
theorem UserRow.exists_read_with {r : UserRow} (h : ∃ u, r.read = .ok u) (fullName : String)
    (isEmailVerified : Bool) : ∃ u, { r with fullName, isEmailVerified }.read = .ok u := by
  rw [exists_read_iff] at h ⊢
  exact h

theorem VerificationRow.dated_written (h : now.IsRegular) (lifetime : Duration) (id : Int64)
    (username email secretCode : String) :
    (written now (now.later lifetime) id username email secretCode).Dated where
  created := ⟨now, h, rfl⟩
  expires := ⟨_, Instant.later_nanos_lt h.nanos_lt lifetime, rfl⟩

/-- A verification is dated the same whether or not its code is used. -/
theorem VerificationRow.Dated.withIsUsed {r : VerificationRow} (h : r.Dated) (isUsed : Bool) :
    { r with isUsed }.Dated where
  created := h.created
  expires := h.expires

theorem Rows.user?_mem {username : String} {r : UserRow} (h : rows.user? username = some r) :
    r ∈ rows.users :=
  List.mem_of_find?_eq_some h

theorem Rows.verification?_mem {id : Int64} {r : VerificationRow}
    (h : rows.verification? id = some r) : r ∈ rows.verifications :=
  List.mem_of_find?_eq_some h

/-- At a regular instant every statement writes such rows only. -/
theorem legible_perform (h : db.rows.Legible) (hnow : now.IsRegular) (q : Query) :
    (q.perform now db).db.rows.Legible := by
  obtain ⟨haccounts, husers, hverifications⟩ := h
  have hrefl : db.rows.Legible := ⟨haccounts, husers, hverifications⟩
  cases q with
  | account id | accountForUpdate id | entry id | transfer id | user username | verification id =>
      apply withTable_db (motive := fun d => d.rows.Legible) hrefl
      split <;> exact hrefl
  | accounts owner page | entries accountId page | transfers accountId page =>
      apply withTable_db (motive := fun d => d.rows.Legible) hrefl
      rw [readPage_db]
      exact hrefl
  | createAccount owner balance currency =>
      apply withTable_db (motive := fun d => d.rows.Legible) hrefl
      apply withNextId_db (motive := fun d => d.rows.Legible) hrefl
      intro id
      have hnew := AccountRow.read_written hnow id owner balance currency
      exact ⟨List.forall_mem_append.mpr ⟨haccounts, List.forall_mem_singleton.mpr ⟨_, hnew⟩⟩, husers,
        hverifications⟩
  | createEntry accountId amount =>
      apply withTable_db (motive := fun d => d.rows.Legible) hrefl
      apply withNextId_db (motive := fun d => d.rows.Legible) hrefl
      intro id
      exact ⟨haccounts, husers, hverifications⟩
  | createTransfer request =>
      apply withTable_db (motive := fun d => d.rows.Legible) hrefl
      apply withNextId_db (motive := fun d => d.rows.Legible) hrefl
      intro id
      dsimp only
      split
      · exact ⟨haccounts, husers, hverifications⟩
      · exact hrefl
  | createUser username fullName email =>
      apply withTable_db (motive := fun d => d.rows.Legible) hrefl
      split
      · exact hrefl
      · have hnew := UserRow.exists_read_written hnow username fullName email
        exact ⟨haccounts, List.forall_mem_append.mpr ⟨husers, List.forall_mem_singleton.mpr hnew⟩,
          hverifications⟩
  | createVerification username email secretCode lifetime =>
      apply withTable_db (motive := fun d => d.rows.Legible) hrefl
      apply withNextId_db (motive := fun d => d.rows.Legible) hrefl
      intro id
      have hnew := VerificationRow.dated_written hnow lifetime id username email secretCode
      exact ⟨haccounts, husers,
        List.forall_mem_append.mpr ⟨hverifications, List.forall_mem_singleton.mpr hnew⟩⟩
  | addBalance id amount =>
      apply withTable_db (motive := fun d => d.rows.Legible) hrefl
      cases hrow : db.rows.account? id with
      | none => exact hrefl
      | some row =>
          obtain ⟨a, ha⟩ := haccounts row (Rows.account?_eq_some hrow).1
          dsimp only
          split
          · exact hrefl
          · exact ⟨forall_mem_replaced haccounts ⟨_, AccountRow.read_withBalance ha _⟩, husers,
              hverifications⟩
  | deleteAccount id =>
      apply withTable_db (motive := fun d => d.rows.Legible) hrefl
      split
      · exact hrefl
      · refine ⟨?_, husers, hverifications⟩
        intro r hr
        exact haccounts r (List.mem_filter.mp hr).1
  | updateUser username fullName isEmailVerified =>
      apply withTable_db (motive := fun d => d.rows.Legible) hrefl
      cases hrow : db.rows.user? username with
      | none => exact hrefl
      | some row =>
          have hread := husers row (Rows.user?_mem hrow)
          exact ⟨haccounts, forall_mem_replaced husers (UserRow.exists_read_with hread _ _),
            hverifications⟩
  | updateVerification id isUsed =>
      apply withTable_db (motive := fun d => d.rows.Legible) hrefl
      cases hrow : db.rows.verification? id with
      | none => exact hrefl
      | some row =>
          have hdated := hverifications row (Rows.verification?_mem hrow)
          exact ⟨haccounts, husers, forall_mem_replaced hverifications (hdated.withIsUsed _)⟩

/-! ### States of the store -/

/-- A state that statements and units of work can bring the store to from the
empty one, at regular instants. -/
inductive Database.Reached : Database → Prop
  | fresh : Reached .fresh
  | submitted {db : Database} {now : Instant} (before : Reached db) (regular : now.IsRegular)
      (q : Query) : Reached (submit now q db).db
  | executed {db : Database} {env : Surroundings} {β : Type} (before : Reached db)
      (regular : ∀ n, (env.clock n).IsRegular) (token : CancelToken) (w : Work β) :
      Reached (w.execute env token db).db

theorem legible_submit (h : db.rows.Legible) (hnow : now.IsRegular) (q : Query) :
    (submit now q db).db.rows.Legible := by
  rcases submit_db now q db with hdb | hdb
  · rw [hdb]
    exact h
  · rw [hdb]
    exact legible_perform h hnow q

theorem legible_submitEach (h : db.rows.Legible) {clock : Nat → Instant}
    (hclock : ∀ n, (clock n).IsRegular) (w : Work α) :
    (w.submitEach clock db).db.rows.Legible := by
  induction w generalizing clock db with
  | done a => exact h
  | fail e => exact h
  | crash => exact h
  | cancel next ih => exact ih h hclock
  | call q next ih =>
      have hsubmit := legible_submit h (hclock 0) q
      simp only [Work.submitEach]
      generalize submit (clock 0) q db = ran at hsubmit
      obtain ⟨outcome, db₁⟩ := ran
      cases outcome with
      | ok a => exact ih a hsubmit fun n => hclock (n + 1)
      | error e => exact hsubmit
      | crash => exact hsubmit

theorem legible_execute (h : db.rows.Legible) {env : Surroundings}
    (hclock : ∀ n, (env.clock n).IsRegular) (token : CancelToken) (w : Work α) :
    (w.execute env token db).db.rows.Legible := by
  by_cases hok : ∃ v, (w.execute env token db).outcome = .ok v
  · -- a unit that is kept has been run by itself
    obtain ⟨v, hv⟩ := hok
    have hkept := legible_submitEach h hclock w
    rw [Work.execute_kept hv] at hkept
    exact hkept
  · obtain ⟨s, -, hdb⟩ := Work.execute_undone fun v hv => hok ⟨v, hv⟩
    rw [hdb]
    exact h

namespace Database.Reached

theorem legible (h : db.Reached) : db.rows.Legible := by
  induction h with
  | fresh =>
      constructor
      case accounts => intro r hr; cases hr
      case users => intro r hr; cases hr
      case verifications => intro r hr; cases hr
  | submitted before regular q ih => exact legible_submit ih regular q
  | executed before regular token w ih => exact legible_execute ih regular token w

theorem catalog (h : db.Reached) : db.catalog = Database.fresh.catalog := by
  induction h with
  | fresh => rfl
  | submitted before regular q ih => exact (Succeeds.submit _ q _).catalog.trans ih
  | executed before regular token w ih => exact (Succeeds.execute w _ token _).catalog.trans ih

theorem verificationTable (h : db.Reached) :
    db.catalog.hasTable Migration.verificationTable.name = true := by
  rw [h.catalog]
  decide +kernel

end Database.Reached

/-! ### Clean failures -/

namespace Performed

/-- A statement that does not answer has left the rows alone. -/
def Clean (db : Database) (p : Performed α) : Prop :=
  (∀ a, p.result ≠ .ok a) → p.db.rows = db.rows

theorem clean_refused (e : Error) (h : db'.rows = db.rows) :
    (refused e db' : Performed α).Clean db :=
  fun _ => h

theorem clean_missing (what : Missing) : (missing what db : Performed α).Clean db :=
  fun _ => rfl

/-- Where no row is changed, it does not matter what can be read. -/
theorem clean_reading (r : Except Fault α) : (reading r db).Clean db :=
  fun _ => rfl

/-- Where one is, it has to be a row that can be read. -/
theorem clean_reading_of_ok {r : Except Fault α} (h : ∃ a, r = .ok a) (db' : Database) :
    (reading r db').Clean db := by
  obtain ⟨a, rfl⟩ := h
  intro hfails
  exact absurd rfl (hfails a)

theorem clean_withTable (table : Table) {p : Performed α} (h : p.Clean db) :
    (withTable table db p).Clean db := by
  unfold withTable
  split
  · exact h
  · exact clean_refused _ rfl

theorem clean_withNextId (last : Nat) {p : Int64 → Performed α} (h : ∀ id, (p id).Clean db) :
    (withNextId last db p).Clean db := by
  unfold withNextId
  generalize Text.toInt64? (last + 1 : Nat) = next
  cases next with
  | some id => exact h id
  | none => exact clean_refused _ rfl

theorem clean_readPage {ρ : Type} (read : ρ → Except Fault α) (page : Page) (rows : List ρ) :
    (readPage read page rows db).Clean db := by
  unfold readPage
  split
  · exact clean_refused _ rfl
  · exact clean_reading _

end Performed

/-- The query writes a verification whose expiry is of a year with a sign. -/
def Query.WritesFarExpiry (now : Instant) (rows : Rows) : Query → Prop
  | .createVerification _ _ _ lifetime => (now.later lifetime).HasSignedYear
  | .updateVerification id _ => ∃ (row : VerificationRow) (expiry : Instant),
      rows.verification? id = some row ∧ row.expiredAt = expiry.storedText ∧
        expiry.HasSignedYear
  | _ => False

/-- A verification with any other expiry can be read. -/
theorem VerificationRow.Dated.exists_read {r : VerificationRow} (h : r.Dated)
    (hnear : ∀ expiry : Instant, r.expiredAt = expiry.storedText → ¬ expiry.HasSignedYear) :
    ∃ v, r.read = .ok v := by
  obtain ⟨created, hregular, hcreated⟩ := h.created
  obtain ⟨expiry, hnanos, hexpires⟩ := h.expires
  have hexpiry : expiry.IsRegular :=
    (Instant.isRegular_or_hasSignedYear hnanos).resolve_right (hnear expiry hexpires)
  rw [read_eq hregular hcreated, hexpires, readInstant_storedText hexpiry]
  exact ⟨_, rfl⟩

/-- At a regular instant every other statement fails cleanly. -/
theorem perform_clean (h : db.rows.Legible) (hnow : now.IsRegular) {q : Query}
    (hq : ¬ q.WritesFarExpiry now db.rows) : (q.perform now db).Clean db := by
  obtain ⟨haccounts, husers, hverifications⟩ := h
  cases q with
  | account id | accountForUpdate id | entry id | transfer id | user username | verification id =>
      apply clean_withTable
      split
      · exact clean_reading _
      · exact clean_missing _
  | accounts owner page | entries accountId page | transfers accountId page =>
      exact clean_withTable _ (clean_readPage _ _ _)
  | createAccount owner balance currency =>
      apply clean_withTable
      apply clean_withNextId
      intro id
      exact clean_reading_of_ok ⟨_, AccountRow.read_written hnow id owner balance currency⟩ _
  | createEntry accountId amount =>
      apply clean_withTable
      apply clean_withNextId
      intro id
      exact clean_reading_of_ok ⟨_, EntryRow.read_written hnow id accountId amount⟩ _
  | createTransfer request =>
      apply clean_withTable
      apply clean_withNextId
      intro id
      dsimp only
      split
      · exact clean_reading_of_ok ⟨_, TransferRow.read_written hnow id request⟩ _
      · exact clean_refused _ rfl
  | createUser username fullName email =>
      apply clean_withTable
      split
      · exact clean_refused _ rfl
      · exact clean_reading_of_ok (UserRow.exists_read_written hnow username fullName email) _
  | createVerification username email secretCode lifetime =>
      apply clean_withTable
      apply clean_withNextId
      intro id
      have hnanos := Instant.later_nanos_lt hnow.nanos_lt lifetime
      have hnear : ¬ (now.later lifetime).HasSignedYear := hq
      have hexpiry : (now.later lifetime).IsRegular :=
        (Instant.isRegular_or_hasSignedYear hnanos).resolve_right hnear
      have hread : ∃ v, (VerificationRow.written now (now.later lifetime) id username email
          secretCode).read = .ok v := by
        rw [VerificationRow.read_eq hnow rfl]
        exact ⟨_, by rw [VerificationRow.written, readInstant_storedText hexpiry]; rfl⟩
      exact clean_reading_of_ok hread _
  | addBalance id amount =>
      apply clean_withTable
      cases hrow : db.rows.account? id with
      | none => exact clean_missing _
      | some row =>
          obtain ⟨a, ha⟩ := haccounts row (Rows.account?_eq_some hrow).1
          dsimp only
          split
          · exact clean_refused _ rfl
          · exact clean_reading_of_ok ⟨_, AccountRow.read_withBalance ha _⟩ _
  | deleteAccount id =>
      apply clean_withTable
      split
      · exact clean_missing _
      · exact clean_reading_of_ok ⟨(), rfl⟩ _
  | updateUser username fullName isEmailVerified =>
      apply clean_withTable
      cases hrow : db.rows.user? username with
      | none => exact clean_missing _
      | some row =>
          have hread := husers row (Rows.user?_mem hrow)
          exact clean_reading_of_ok (UserRow.exists_read_with hread _ _) _
  | updateVerification id isUsed =>
      apply clean_withTable
      cases hrow : db.rows.verification? id with
      | none => exact clean_missing _
      | some row =>
          have hdated := (hverifications row (Rows.verification?_mem hrow)).withIsUsed isUsed
          refine clean_reading_of_ok (hdated.exists_read ?_) _
          intro expiry hexpires hyear
          exact hq ⟨row, expiry, hrow, hexpires, hyear⟩

/-! ### Far expiries -/

/-- The database with a new verification, under an id that was drawn. -/
def Database.addVerification (db : Database) (row : VerificationRow) : Database :=
  { db with
    rows := { db.rows with verifications := db.rows.verifications ++ [row] }
    sequences := { db.sequences with verification := db.sequences.verification + 1 } }

/-- A verification with a far expiry is stored, and then cannot be read. -/
theorem submit_createVerification_of_hasSignedYear {lifetime : Duration} (hnow : now.IsRegular)
    (htable : db.catalog.hasTable Migration.verificationTable.name = true)
    (hlast : db.sequences.verification < 9223372036854775807)
    (hinstant : (now.add? lifetime).isSome = true) (hyear : (now.later lifetime).HasSignedYear)
    (username email secretCode : String) :
    ∃ id, submit now (.createVerification username email secretCode lifetime) db =
      { outcome := .error (.database (.undecodable "expired_at"))
        db := db.addVerification
          (.written now (now.later lifetime) id username email secretCode) } := by
  obtain ⟨id, hid⟩ := exists_nextId hlast
  let row := VerificationRow.written now (now.later lifetime) id username email secretCode
  have hread : row.read = .error (.undecodable "expired_at") := by
    rw [VerificationRow.read_eq hnow rfl]
    show (readInstant "expired_at" (now.later lifetime).storedText).map _ = _
    rw [readInstant_of_hasSignedYear hyear]
    rfl
  have hperform : createVerification now (now.later lifetime) username email secretCode db =
      reading row.read (db.addVerification row) := by
    unfold createVerification withTable
    rw [if_pos htable, withNextId_some hid]
    rfl
  have hpossible : (Query.createVerification username email secretCode lifetime).isImpossible now =
      false := by
    show (now.add? lifetime).isNone = false
    rw [← Option.not_isSome, hinstant]
    rfl
  rw [hread] at hperform
  exact ⟨id, submit_of_perform hpossible hperform⟩

/-- One that has a far expiry is changed, and then cannot be read. -/
theorem submit_updateVerification_of_hasSignedYear {id : Int64} {row : VerificationRow}
    {expiry : Instant} (hdb : db.Reached) (hrow : db.rows.verification? id = some row)
    (hexpires : row.expiredAt = expiry.storedText) (hyear : expiry.HasSignedYear)
    (isUsed : Bool) :
    submit now (.updateVerification id isUsed) db =
      { outcome := .error (.database (.undecodable "expired_at"))
        db := db.withRows { db.rows with
          verifications := db.rows.verifications.map fun r =>
            if r.id = id then { row with isUsed } else r } } := by
  have hdated := hdb.legible.verifications row (Rows.verification?_mem hrow)
  obtain ⟨created, hregular, hcreated⟩ := hdated.created
  have hread : { row with isUsed }.read = .error (.undecodable "expired_at") := by
    rw [VerificationRow.read_eq (r := { row with isUsed }) hregular hcreated]
    show (readInstant "expired_at" row.expiredAt).map _ = _
    rw [hexpires, readInstant_of_hasSignedYear hyear]
    rfl
  have hperform : updateVerification id isUsed db = reading { row with isUsed }.read
      (db.withRows { db.rows with
        verifications := db.rows.verifications.map fun r =>
          if r.id = id then { row with isUsed } else r }) := by
    unfold updateVerification withTable
    rw [if_pos hdb.verificationTable, hrow]
  rw [hread] at hperform
  exact submit_of_perform (q := .updateVerification id isUsed) rfl hperform

/-! ### Failing statements -/

/-- **Failing statements.**  A statement that is submitted by itself at a
regular instant and does not answer changes no row, unless it writes a
verification whose expiry is of a year with a sign.  A new verification of
that kind is stored although the statement fails, and one that is stored is
changed although the statement fails. -/
theorem failed_statement (hdb : db.Reached) (hnow : now.IsRegular) :
    (∀ q : Query, ¬ q.WritesFarExpiry now db.rows →
      (∀ a, (submit now q db).outcome ≠ .ok a) → (submit now q db).db.rows = db.rows) ∧
      (∀ (username email secretCode : String) (lifetime : Duration),
        (now.add? lifetime).isSome = true → (now.later lifetime).HasSignedYear →
        db.sequences.verification < 9223372036854775807 →
        ∃ id, submit now (.createVerification username email secretCode lifetime) db =
          { outcome := .error (.database (.undecodable "expired_at"))
            db := db.addVerification
              (.written now (now.later lifetime) id username email secretCode) }) ∧
      ∀ (id : Int64) (isUsed : Bool) (row : VerificationRow) (expiry : Instant),
        db.rows.verification? id = some row → row.expiredAt = expiry.storedText →
        expiry.HasSignedYear →
        submit now (.updateVerification id isUsed) db =
          { outcome := .error (.database (.undecodable "expired_at"))
            db := db.withRows { db.rows with
              verifications := db.rows.verifications.map fun r =>
                if r.id = id then { row with isUsed } else r } } := by
  refine ⟨?_, ?_, ?_⟩
  · intro q hq hfails
    have hclean := perform_clean hdb.legible hnow hq
    by_cases himpossible : q.isImpossible now = true
    · -- the statement is not even begun
      have hsubmit : submit now q db = { outcome := .crash, db } := if_pos himpossible
      rw [hsubmit]
    · rw [submit_of_perform (Bool.eq_false_iff.mpr himpossible) rfl] at hfails ⊢
      apply hclean
      intro a ha
      rw [ha] at hfails
      exact hfails a rfl
  · intro username email secretCode lifetime hinstant hyear hlast
    exact submit_createVerification_of_hasSignedYear hnow hdb.verificationTable hlast hinstant hyear
      username email secretCode
  · intro id isUsed row expiry hrow hexpires hyear
    exact submit_updateVerification_of_hasSignedYear hdb hrow hexpires hyear isUsed

/-- The start of 1970. -/
def startOf1970 : Instant :=
  { seconds := 0, nanos := 0 }

/-- A name that is taken is refused, and nothing changes. -/
theorem failed_statement_of_ann :
    let once := (submit startOf1970 (.createUser "ann" "Ann" "ann@example.com") .fresh).db
    let again := submit startOf1970 (.createUser "ann" "Ann B" "b@example.com") once
    again.outcome = .error (.constraint .duplicateKey) ∧ again.db.rows = once.rows := by
  intro once again
  have hregular : startOf1970.IsRegular := by decide
  have hrefused : again.outcome = .error (.constraint .duplicateKey) := by decide +kernel
  refine ⟨hrefused, ?_⟩
  apply (failed_statement (.submitted .fresh hregular _) hregular).1
  · exact id
  · intro a ha
    rw [hrefused] at ha
    cases ha

/-- **Not every failing statement leaves the rows alone**: a verification
that expires after more than nine thousand years is stored. -/
theorem failed_statement_stores_row :
    ¬ ∀ (db : Database) (now : Instant) (q : Query), db.Reached → now.IsRegular →
      q.isImpossible now = false → (∃ e, (submit now q db).outcome = .error e) →
      (submit now q db).db.rows = db.rows := by
  intro h
  let q : Query := .createVerification "ann" "ann@example.com" "secret" ⟨300000000000000000000⟩
  have hfails : (submit startOf1970 q .fresh).outcome =
      .error (.database (.undecodable "expired_at")) := by decide +kernel
  have hstored : (submit startOf1970 q .fresh).db.rows.verifications.length = 1 := by
    decide +kernel
  have hsame := h .fresh startOf1970 q .fresh (by decide) (by decide) ⟨_, hfails⟩
  rw [hsame] at hstored
  cases hstored

end DoubleEntry
