/-
DoubleEntry/Proofs/Ledger/ConfirmationOutcome.lean

What becomes of a code that is to be confirmed, in full.
`Rows.confirmationError?` says from the rows and the request alone whether the
code is refused and with which error: the record is looked up first, then the
code is compared, then it has to be unused and in time, and last its user has
to be there.  `confirmation_outcome` says that the code is confirmed exactly
where nothing stands against it, which two fields are changed then, and that a
refused one leaves everything as it was.  A wrong code is told nothing but that
it is wrong, whatever else is stored.

The ledger may be in any state in which its users and verifications have keys
and can be read (`Database.HoldsCodes`).  The user of a code need not be there.
-/
import DoubleEntry.Proofs.Ledger.Alike
import DoubleEntry.Proofs.Ledger.Units
import DoubleEntry.Proofs.Store.SingleStatement
import DoubleEntry.Proofs.Store.Steady
import DoubleEntry.Proofs.Store.UserAnswers

namespace DoubleEntry

/-! ### States -/

/-- The tables of users and verifications are there, their rows have keys, and
each of them can be read. -/
structure Database.HoldsCodes (db : Database) : Prop where
  userTable : db.catalog.hasTable Migration.userTable.name = true
  verificationTable : db.catalog.hasTable Migration.verificationTable.name = true
  usernames : (db.rows.users.map (·.username)).Nodup
  ids : (db.rows.verifications.map (·.id)).Nodup
  users : ∀ r ∈ db.rows.users, ∃ u, r.read = .ok u
  verifications : ∀ r ∈ db.rows.verifications, ∃ v, r.read = .ok v

/-! ### Reading verifications -/

/-- A code that is used is read like one that is not. -/
theorem VerificationRow.read_withIsUsed {r : VerificationRow} {v : Verification}
    (h : r.read = .ok v) (isUsed : Bool) : { r with isUsed }.read = .ok { v with isUsed } := by
  obtain ⟨hcreated, hexpires, hv⟩ := read_eq_ok_iff.mp h
  apply read_eq_ok_iff.mpr
  refine ⟨hcreated, hexpires, ?_⟩
  rw [hv]

/-- A verification can be read if both of its instants are of the years 0 to
9999. -/
theorem VerificationRow.exists_read_of_isRegular {r : VerificationRow} {created expires : Instant}
    (hcreated : created.IsRegular) (hexpires : expires.IsRegular)
    (hcreatedText : r.createdAt = created.storedText)
    (hexpiresText : r.expiredAt = expires.storedText) : ∃ v, r.read = .ok v := by
  rw [read_eq hcreated hcreatedText, hexpiresText, readInstant_storedText hexpires]
  exact ⟨_, rfl⟩

/-! ### Expiry -/

/-- Whether a stored code can still be confirmed at an instant. -/
def VerificationRow.isOpenAt (r : VerificationRow) (now : Instant) : Bool :=
  (Instant.read? r.expiredAt).any now.before

/-- Instants are ordered by their seconds, and within a second by their
nanoseconds. -/
theorem Instant.before_iff {t t' : Instant} :
    t.before t' = true ↔
      t.seconds < t'.seconds ∨ t.seconds = t'.seconds ∧ t.nanos < t'.nanos := by
  simp only [before, Bool.or_eq_true, Bool.and_eq_true, decide_eq_true_eq]

theorem VerificationRow.isOpenAt_iff {r : VerificationRow} {now : Instant} :
    r.isOpenAt now = true ↔ ∃ expiry, Instant.read? r.expiredAt = some expiry ∧
      (now.seconds < expiry.seconds ∨
        now.seconds = expiry.seconds ∧ now.nanos < expiry.nanos) := by
  unfold isOpenAt
  rw [Option.any_eq_true]
  exact exists_congr fun expiry => and_congr_right fun _ => Instant.before_iff

/-- The expiry that is read from a row is the one that its text tells. -/
theorem VerificationRow.isOpenAt_of_read {r : VerificationRow} {v : Verification}
    (h : r.read = .ok v) (now : Instant) : r.isOpenAt now = !v.isExpiredAt now := by
  obtain ⟨-, hexpires, -⟩ := read_eq_ok_iff.mp h
  have hexpiry : Instant.read? r.expiredAt = some v.expiredAt := by
    unfold readInstant at hexpires
    split at hexpires
    case h_1 expiry hread =>
      cases hexpires
      exact hread
    case h_2 => cases hexpires
  unfold isOpenAt
  rw [hexpiry]
  exact (Bool.not_not _).symm

/-! ### Why a code is refused -/

/-- The rule that a code breaks, if any: it has to be the one that is stored,
unused and in time. -/
def VerificationRow.violation? (r : VerificationRow) (secretCode : String) (now : Instant) :
    Option Violation :=
  if r.secretCode ≠ secretCode then some .wrongCode
  else if r.isUsed then some .codeUsed
  else if r.isOpenAt now then none
  else some .codeExpired

/-- Why a code is refused, if it is. -/
def Rows.confirmationError? (rows : Rows) (id : Int64) (secretCode : String) (now : Instant) :
    Option Error :=
  match rows.verification? id with
  | none => some (.notFound (.verification id))
  | some row =>
      match row.violation? secretCode now with
      | some v => some (.constraint v)
      | none =>
          if rows.user? row.username = none then some (.notFound (.user row.username)) else none

theorem Rows.user?_eq_none_iff {rows : Rows} {username : String} :
    rows.user? username = none ↔ ∀ u ∈ rows.users, u.username ≠ username :=
  find?_key_eq_none_iff

theorem VerificationRow.violation?_eq_none_iff {r : VerificationRow} {secretCode : String}
    {now : Instant} :
    r.violation? secretCode now = none ↔
      r.secretCode = secretCode ∧ r.isUsed = false ∧ r.isOpenAt now = true := by
  unfold violation?
  split
  case isTrue hwrong => exact iff_of_false (fun h => by cases h) fun h => hwrong h.1
  case isFalse hright =>
    simp only [not_not.mp hright, true_and]
    cases r.isUsed <;> cases r.isOpenAt now <;> decide

namespace Ledger

variable {env : Surroundings} {token : CancelToken} {db : Database} {id : Int64}
  {secretCode : String} {now : Instant}

/-- The code of a row can be confirmed: it is the one that is told, it is
unused and in time, and its user is there. -/
structure Confirmable (rows : Rows) (secretCode : String) (now : Instant) (row : VerificationRow) :
    Prop where
  code : row.secretCode = secretCode
  unused : row.isUsed = false
  inTime : ∃ expiry, Instant.read? row.expiredAt = some expiry ∧
    (now.seconds < expiry.seconds ∨ now.seconds = expiry.seconds ∧ now.nanos < expiry.nanos)
  user : ∃ u ∈ rows.users, u.username = row.username

/-- Nothing stands against a code that can be confirmed. -/
theorem confirmationError?_eq_none_iff {rows : Rows} :
    rows.confirmationError? id secretCode now = none ↔
      ∃ row, rows.verification? id = some row ∧ Confirmable rows secretCode now row := by
  unfold Rows.confirmationError?
  cases rows.verification? id with
  | none => simp only [reduceCtorEq, false_and, exists_false]
  | some row =>
      simp only [Option.some.injEq, exists_eq_left']
      constructor
      · intro h
        split at h
        · cases h
        case h_2 hnone =>
          obtain ⟨hcode, hunused, hopen⟩ := VerificationRow.violation?_eq_none_iff.mp hnone
          split at h
          · cases h
          case isFalse huser =>
            obtain ⟨u, hu⟩ := Option.ne_none_iff_exists'.mp huser
            exact ⟨hcode, hunused, VerificationRow.isOpenAt_iff.mp hopen, u, Rows.user?_mem hu,
              Rows.user?_username hu⟩
      · rintro ⟨hcode, hunused, hopen, u, hu, hname⟩
        have huser : rows.user? row.username ≠ none := fun hnone =>
          Rows.user?_eq_none_iff.mp hnone u hu hname
        rw [VerificationRow.violation?_eq_none_iff.mpr
          ⟨hcode, hunused, VerificationRow.isOpenAt_iff.mpr hopen⟩]
        exact if_neg huser

/-! ### What a confirmation changes -/

/-- The record of a code was marked used and its user verified, and no other
field of any row was changed; and what was answered is what is stored. -/
structure ConfirmationStored (row : VerificationRow) (receipt : VerificationReceipt)
    (db db' : Database) : Prop where
  frame : db' = db.withRows
    { db.rows with
      users := db.rows.users.map fun u =>
        if u.username = row.username then { u with isEmailVerified := true } else u
      verifications := db.rows.verifications.map fun v =>
        if v.id = row.id then { v with isUsed := true } else v }
  user : ∃ u ∈ db'.rows.users, u.username = row.username ∧ u.read = .ok receipt.user
  verification : ∃ v ∈ db'.rows.verifications, v.id = row.id ∧ v.read = .ok receipt.verification

/-! ### Statements -/

section Statements

variable {row : VerificationRow} (t : Instant)

theorem submit_verification_of_none (hdb : db.HoldsCodes) (h : db.rows.verification? id = none) :
    submit t (.verification id) db =
      { outcome := .error (.notFound (.verification id)), db } := by
  have hperform : findVerification id db = Performed.missing (.verification id) db := by
    rw [findVerification, h]
    exact Performed.findRow_none hdb.verificationTable _ _
  exact submit_of_perform (q := .verification id) rfl hperform

theorem submit_verification_of_some (hdb : db.HoldsCodes)
    (h : db.rows.verification? id = some row) {v : Verification} (hread : row.read = .ok v) :
    submit t (.verification id) db = { outcome := .ok v, db } := by
  apply submit_ok_iff.mpr
  exact ⟨rfl, answers_findVerification_iff.mpr ⟨hdb.verificationTable, row, h, hread, rfl⟩⟩

/-- A code is marked used, and the same instants are read from it. -/
theorem submit_updateVerification (hdb : db.HoldsCodes) (h : db.rows.verification? id = some row)
    {v : Verification} (hread : row.read = .ok v) :
    submit t (.updateVerification id true) db =
      { outcome := .ok { v with isUsed := true }
        db := db.withRows (db.rows.replaceVerification { row with isUsed := true }) } := by
  apply submit_ok_iff.mpr
  exact ⟨rfl, answers_updateVerification_iff.mpr
    ⟨hdb.verificationTable, row, h, VerificationRow.read_withIsUsed hread true, rfl⟩⟩

theorem submit_updateUser_of_none {username : String}
    (htable : db.catalog.hasTable Migration.userTable.name = true)
    (h : db.rows.user? username = none) :
    submit t (.updateUser username none (some true)) db =
      { outcome := .error (.notFound (.user username)), db } := by
  have hperform : updateUser username none (some true) db = Performed.missing (.user username) db := by
    unfold updateUser withTable
    rw [if_pos htable, h]
  exact submit_of_perform (q := .updateUser username none (some true)) rfl hperform

theorem submit_updateUser_of_some {username : String} {u : UserRow}
    (htable : db.catalog.hasTable Migration.userTable.name = true)
    (h : db.rows.user? username = some u) (hread : ∃ user, u.read = .ok user) :
    ∃ user, ({ u with isEmailVerified := true } : UserRow).read = .ok user ∧
      submit t (.updateUser username none (some true)) db =
        { outcome := .ok user
          db := db.withRows (db.rows.replaceUser { u with isEmailVerified := true }) } := by
  obtain ⟨user, hverified⟩ := UserRow.exists_read_with hread u.fullName true
  refine ⟨user, hverified, submit_ok_iff.mpr ⟨rfl, answers_updateUser_iff.mpr ?_⟩⟩
  exact ⟨htable, u, h, hverified, rfl⟩

end Statements

/-! ### The unit of work -/

section Check

variable {α : Type} {v : Violation} {f : Unit → Work α} {condition : Bool}

theorem check_ensure_of_false (h : condition = false) :
    Work.check (ensure condition v) >>= f = .fail (.constraint v) := by
  rw [h]
  rfl

theorem check_ensure_of_true (h : condition = true) :
    Work.check (ensure condition v) >>= f = f () := by
  rw [h]
  rfl

end Check

/-- What a confirmation does behind its checks. -/
def confirmStatements (id : Int64) : Work VerificationReceipt :=
  Work.query (.updateVerification id true) >>= fun verification =>
    Work.query (.updateUser verification.username none (some true)) >>= fun user =>
      .done { user, verification }

section Unit

variable {row : VerificationRow} (hdb : db.HoldsCodes) (clock : Nat → Instant)

include hdb

/-- A record that is there is checked, and changed only where it breaks no
rule. -/
theorem submitEach_confirmWork (hrow : db.rows.verification? id = some row) :
    (confirmWork id secretCode now).submitEach clock db =
      match row.violation? secretCode now with
      | some v => { outcome := .error (.constraint v), db }
      | none => (confirmStatements id).submitEach (fun n => clock (n + 1)) db := by
  obtain ⟨record, hread⟩ := hdb.verifications row (Rows.verification?_mem hrow)
  obtain ⟨-, -, hrecord⟩ := VerificationRow.read_eq_ok_iff.mp hread
  have hcode : record.secretCode = row.secretCode := by rw [hrecord]
  have hused : record.isUsed = row.isUsed := by rw [hrecord]
  refine (Work.submitEach_of_answered clock (submit_verification_of_some _ hdb hrow hread)).trans ?_
  rw [hcode, hused, ← VerificationRow.isOpenAt_of_read hread now]
  unfold VerificationRow.violation?
  by_cases hwrong : row.secretCode ≠ secretCode
  · rw [if_pos hwrong, check_ensure_of_false (decide_eq_false hwrong)]
    rfl
  rw [if_neg hwrong, check_ensure_of_true (decide_eq_true (not_not.mp hwrong))]
  cases row.isUsed with
  | true => rfl
  | false =>
      cases row.isOpenAt now with
      | true => rfl
      | false => rfl

/-- A record that is changed leaves its user to be verified. -/
theorem submitEach_confirmStatements (hrow : db.rows.verification? id = some row)
    {record : Verification} (hread : row.read = .ok record) :
    (confirmStatements id).submitEach clock db =
      (Work.query (.updateUser row.username none (some true)) >>= fun user =>
          .done { user, verification := { record with isUsed := true } }).submitEach
        (fun n => clock (n + 1))
        (db.withRows (db.rows.replaceVerification { row with isUsed := true })) := by
  obtain ⟨-, -, hrecord⟩ := VerificationRow.read_eq_ok_iff.mp hread
  have hname : record.username = row.username := by rw [hrecord]
  refine (Work.submitEach_of_answered clock (submit_updateVerification _ hdb hrow hread)).trans ?_
  dsimp only
  rw [hname]

/-- A code without a user is marked used in vain. -/
theorem submitEach_confirmStatements_of_none (hrow : db.rows.verification? id = some row)
    (huser : db.rows.user? row.username = none) :
    ∃ db', (confirmStatements id).submitEach clock db =
        { outcome := .error (.notFound (.user row.username)), db := db' } ∧
      db'.sequences = db.sequences := by
  obtain ⟨record, hread⟩ := hdb.verifications row (Rows.verification?_mem hrow)
  let db₁ := db.withRows (db.rows.replaceVerification { row with isUsed := true })
  have htable₁ : db₁.catalog.hasTable Migration.userTable.name = true := hdb.userTable
  have huser₁ : db₁.rows.user? row.username = none := huser
  refine ⟨db₁, ?_, rfl⟩
  rw [submitEach_confirmStatements hdb clock hrow hread]
  exact Work.submitEach_of_refused _ (submit_updateUser_of_none _ htable₁ huser₁)

/-- Any other code is marked used, and its user is verified. -/
theorem submitEach_confirmStatements_of_some {u : UserRow}
    (hrow : db.rows.verification? id = some row) (huser : db.rows.user? row.username = some u) :
    ∃ receipt db', (confirmStatements id).submitEach clock db =
        { outcome := .ok receipt, db := db' } ∧ ConfirmationStored row receipt db db' := by
  have hrowMem := Rows.verification?_mem hrow
  have huMem := Rows.user?_mem huser
  have hname : u.username = row.username := Rows.user?_username huser
  obtain ⟨record, hread⟩ := hdb.verifications row hrowMem
  let db₁ := db.withRows (db.rows.replaceVerification { row with isUsed := true })
  have htable₁ : db₁.catalog.hasTable Migration.userTable.name = true := hdb.userTable
  have huser₁ : db₁.rows.user? row.username = some u := huser
  obtain ⟨user, hverified, hsubmit⟩ :=
    submit_updateUser_of_some (clock 1) htable₁ huser₁ (hdb.users u huMem)
  let db₂ := db₁.withRows (db₁.rows.replaceUser { u with isEmailVerified := true })
  refine ⟨{ user, verification := { record with isUsed := true } }, db₂, ?_, ?_⟩
  · rw [submitEach_confirmStatements hdb clock hrow hread]
    exact Work.submitEach_of_answered _ hsubmit
  constructor
  case frame =>
    -- the rows that were found are the only ones with their keys
    have hverifications := replaced_eq_map (fun v : VerificationRow => { v with isUsed := true })
      fun v hv hid => List.inj_on_of_nodup_map hdb.ids hv hrowMem hid
    have husers := replaced_eq_map (fun u : UserRow => { u with isEmailVerified := true })
      fun u' hu' hname => List.inj_on_of_nodup_map hdb.usernames hu' huMem hname
    rw [← hname, ← hverifications, ← husers]
    rfl
  case user =>
    refine ⟨{ u with isEmailVerified := true }, ?_, hname, hverified⟩
    exact mem_replaced_iff.mpr (.inr ⟨rfl, u, huMem, rfl⟩)
  case verification =>
    refine ⟨{ row with isUsed := true }, ?_, rfl, VerificationRow.read_withIsUsed hread true⟩
    exact mem_replaced_iff.mpr (.inr ⟨rfl, row, hrowMem, rfl⟩)

/-- A code that something stands against is refused with that. -/
theorem confirmWork_of_some {e : Error}
    (h : db.rows.confirmationError? id secretCode now = some e) :
    ∃ db', (confirmWork id secretCode now).submitEach clock db =
        { outcome := .error e, db := db' } ∧ db'.sequences = db.sequences := by
  unfold Rows.confirmationError? at h
  cases hrow : db.rows.verification? id with
  | none =>
      rw [hrow] at h
      cases h
      exact ⟨db, Work.submitEach_of_refused _ (submit_verification_of_none _ hdb hrow), rfl⟩
  | some row =>
      rw [submitEach_confirmWork hdb clock hrow]
      simp only [hrow] at h
      cases hviolation : row.violation? secretCode now with
      | some v =>
          rw [hviolation] at h
          cases h
          exact ⟨db, rfl, rfl⟩
      | none =>
          simp only [hviolation, Option.ite_none_right_eq_some, Option.some.injEq] at h
          obtain ⟨huser, rfl⟩ := h
          exact submitEach_confirmStatements_of_none hdb _ hrow huser

/-- Any other code is confirmed. -/
theorem confirmWork_of_none (hrow : db.rows.verification? id = some row)
    (h : Confirmable db.rows secretCode now row) :
    ∃ receipt db', (confirmWork id secretCode now).submitEach clock db =
        { outcome := .ok receipt, db := db' } ∧ ConfirmationStored row receipt db db' := by
  have hviolation := VerificationRow.violation?_eq_none_iff.mpr
    ⟨h.code, h.unused, VerificationRow.isOpenAt_iff.mpr h.inTime⟩
  obtain ⟨u, hu, hname⟩ := h.user
  have huser : db.rows.user? row.username = some u := by
    rw [← hname]
    exact find?_key hdb.usernames hu
  rw [submitEach_confirmWork hdb clock hrow, hviolation]
  exact submitEach_confirmStatements_of_some hdb _ hrow huser

end Unit

/-! ### The outcome -/

/-- A record is found under an id if and only if it has the id. -/
theorem verification?_eq_some_iff (hdb : db.HoldsCodes) {row : VerificationRow} :
    db.rows.verification? id = some row ↔ row ∈ db.rows.verifications ∧ row.id = id :=
  find?_key_eq_some_iff hdb.ids

/-- The record of a code is there, and its code is another one. -/
def HasOtherCode (rows : Rows) (id : Int64) (secretCode : String) : Prop :=
  ∃ row ∈ rows.verifications, row.id = id ∧ row.secretCode ≠ secretCode

section Undisturbed

variable (hfail : env.failOn = none) (htoken : token.isCancelled = false) (hdb : db.HoldsCodes)

include hfail htoken hdb

/-- A confirmation that is refused changes nothing at all. -/
theorem execute_confirmWork_of_some {e : Error}
    (h : db.rows.confirmationError? id secretCode now = some e) :
    (confirmWork id secretCode now).execute env token db = { outcome := .error e, db } := by
  obtain ⟨db', hwork, hsequences⟩ := confirmWork_of_some hdb env.clock h
  have hran := Work.execute_of_refused (neverCancels_confirmWork _ _ _) hfail htoken hwork
  rw [hsequences] at hran
  exact hran

/-- A wrong code is told that it is wrong. -/
theorem execute_confirmWork_of_hasOtherCode (h : HasOtherCode db.rows id secretCode)
    (now : Instant) :
    (confirmWork id secretCode now).execute env token db =
      { outcome := .error (.constraint .wrongCode), db } := by
  obtain ⟨row, hrow, hid, hwrong⟩ := h
  apply execute_confirmWork_of_some hfail htoken hdb
  unfold Rows.confirmationError?
  rw [(verification?_eq_some_iff hdb).mpr ⟨hrow, hid⟩]
  simp only [VerificationRow.violation?, if_pos hwrong]

/-- **The outcome of a confirmation.**  In a transaction that nothing disturbs
a code is confirmed exactly if its record is there, the code is the stored one,
it is unused, the instant is before its expiry, and its user is there.  Then
the record is used and the user verified, nothing else has changed, and what is
answered is what is stored.  Otherwise nothing changes, and the error is the
first that stands against it.  A code that is wrong gets the same answer
whatever else is stored. -/
theorem confirmation_outcome (id : Int64) (secretCode : String) (now : Instant) :
    let ran := (confirmWork id secretCode now).execute env token db
    ((∃ receipt, ran.outcome = .ok receipt) ↔
        ∃ row ∈ db.rows.verifications, row.id = id ∧
          Confirmable db.rows secretCode now row) ∧
      (∀ receipt, ran.outcome = .ok receipt →
        ∃ row ∈ db.rows.verifications, row.id = id ∧ ConfirmationStored row receipt db ran.db) ∧
      ((∀ receipt, ran.outcome ≠ .ok receipt) →
        ran.db = db ∧ ∃ e, ran.outcome = .error e ∧
          db.rows.confirmationError? id secretCode now = some e) ∧
      ∀ (env' : Surroundings) (token' : CancelToken) (db' : Database) (now' : Instant),
        env'.failOn = none → token'.isCancelled = false → db'.HoldsCodes →
        HasOtherCode db.rows id secretCode → HasOtherCode db'.rows id secretCode →
        ((confirmWork id secretCode now').execute env' token' db').outcome = ran.outcome := by
  intro ran
  have hsecret : ∀ (env' : Surroundings) (token' : CancelToken) (db' : Database) (now' : Instant),
      env'.failOn = none → token'.isCancelled = false → db'.HoldsCodes →
      HasOtherCode db.rows id secretCode → HasOtherCode db'.rows id secretCode →
      ((confirmWork id secretCode now').execute env' token' db').outcome = ran.outcome := by
    intro env' token' db' now' hfail' htoken' hdb' hother hother'
    have hran : ran = _ := execute_confirmWork_of_hasOtherCode hfail htoken hdb hother now
    rw [hran, execute_confirmWork_of_hasOtherCode hfail' htoken' hdb' hother' now']
  cases herror : db.rows.confirmationError? id secretCode now with
  | none =>
      obtain ⟨row, hrow, hconfirmable⟩ := confirmationError?_eq_none_iff.mp herror
      have hmem := (verification?_eq_some_iff hdb).mp hrow
      obtain ⟨receipt, db', hwork, hstored⟩ :=
        confirmWork_of_none hdb env.clock hrow hconfirmable
      have hran : ran = { outcome := .ok receipt, db := db' } :=
        Work.execute_of_answered (neverCancels_confirmWork _ _ _) hfail htoken hwork
      rw [hran] at hsecret ⊢
      refine ⟨iff_of_true ⟨receipt, rfl⟩ ⟨row, hmem.1, hmem.2, hconfirmable⟩, ?_, ?_, hsecret⟩
      · intro answered hanswered
        cases hanswered
        exact ⟨row, hmem.1, hmem.2, hstored⟩
      · intro hnot
        exact absurd rfl (hnot receipt)
  | some e =>
      have hran : ran = { outcome := .error e, db } :=
        execute_confirmWork_of_some hfail htoken hdb herror
      rw [hran] at hsecret ⊢
      refine ⟨?_, ?_, fun _ => ⟨rfl, e, rfl, rfl⟩, hsecret⟩
      · apply iff_of_false
        · rintro ⟨receipt, hreceipt⟩
          cases hreceipt
        · rintro ⟨row, hrow, hid, hconfirmable⟩
          have hfound := (verification?_eq_some_iff hdb).mpr ⟨hrow, hid⟩
          rw [confirmationError?_eq_none_iff.mpr ⟨row, hfound, hconfirmable⟩] at herror
          cases herror
      · intro receipt hreceipt
        cases hreceipt

end Undisturbed

/-- Ann is sent a code for one second, and confirms it in the last
nanosecond. -/
theorem confirmation_outcome_of_ann :
    let joined := (submit startOf1970 (.createUser "ann" "Ann" "ann@example.com") .fresh).db
    let code : Query := .createVerification "ann" "ann@example.com" "secret" ⟨1000000000⟩
    let db := (submit startOf1970 code joined).db
    let env := Surroundings.at startOf1970
    env.failOn = none ∧ ({} : CancelToken).isCancelled = false ∧ db.HoldsCodes ∧
      ∃ receipt, ((confirmWork 1 "secret" ⟨0, 999999999⟩).execute env {} db).outcome =
        .ok receipt := by
  intro joined code db env
  let expiry : Instant := ⟨1, 0⟩
  have hregular : startOf1970.IsRegular := by decide
  have hexpiry : expiry.IsRegular := by decide
  let user : UserRow := .written startOf1970 "ann" "Ann" "ann@example.com"
  let row : VerificationRow := .written startOf1970 expiry 1 "ann" "ann@example.com" "secret"
  have hrows : db.rows = { users := [user], verifications := [row] } := by decide +kernel
  have hdb : db.HoldsCodes := by
    constructor
    case userTable => decide +kernel
    case verificationTable => decide +kernel
    case usernames =>
      rw [hrows]
      exact List.nodup_singleton _
    case ids =>
      rw [hrows]
      exact List.nodup_singleton _
    case users =>
      rw [hrows]
      exact List.forall_mem_singleton.mpr (UserRow.exists_read_written hregular _ _ _)
    case verifications =>
      rw [hrows]
      exact List.forall_mem_singleton.mpr
        (VerificationRow.exists_read_of_isRegular hregular hexpiry rfl rfl)
  refine ⟨rfl, rfl, hdb, ?_⟩
  refine (confirmation_outcome rfl rfl hdb 1 "secret" ⟨0, 999999999⟩).1.mpr ⟨row, ?_, rfl, ?_⟩
  · rw [hrows]
    exact List.mem_singleton_self _
  constructor
  case code => rfl
  case unused => rfl
  case inTime => exact ⟨expiry, Instant.read?_storedText hexpiry, .inl (by decide)⟩
  case user =>
    rw [hrows]
    exact ⟨user, List.mem_singleton_self _, rfl⟩

end Ledger

end DoubleEntry
