/-
DoubleEntry/Proofs/Ledger/VerificationEffect.lean

What an operation does to users and verifications.  There are four cases
(`VerificationEffect`): nothing, a user registered, a code issued to a user who
is not verified, and an unused code confirmed together with the user it was
issued to.  `Operation.verificationEffect` says that every operation has one of
them, whatever its arguments, its clock and the failures on its way, and that
only a confirmation is answered as one.

Both rows that a confirmation changes are changed in one transaction: a unit
that does not get to its end leaves them both as they were.
-/
import DoubleEntry.Proofs.Ledger.Books
import DoubleEntry.Proofs.Ledger.Queries
import DoubleEntry.Proofs.Ledger.Units
import DoubleEntry.Proofs.Store.Issued

namespace DoubleEntry

variable {α : Type} {db db' : Database} {q : Query}

/-! ### Queries that leave users alone -/

/-- The same users and verifications. -/
structure Rows.SameUsers (r r' : Rows) : Prop where
  users : r'.users = r.users
  verifications : r'.verifications = r.verifications

namespace Rows.SameUsers

theorem refl (r : Rows) : r.SameUsers r :=
  ⟨rfl, rfl⟩

theorem trans {r₁ r₂ r₃ : Rows} (h : r₁.SameUsers r₂) (h' : r₂.SameUsers r₃) :
    r₁.SameUsers r₃ :=
  ⟨h'.users.trans h.users, h'.verifications.trans h.verifications⟩

end Rows.SameUsers

/-- Whether a query changes users or verifications. -/
def Query.changesUsers : Query → Bool
  | .createUser .. | .updateUser .. | .createVerification .. | .updateVerification .. => true
  | _ => false

theorem Change.sameUsers (h : Change db q db') (hq : q.changesUsers = false) :
    db.rows.SameUsers db'.rows := by
  cases h with
  | createUser | updateUser | createVerification | updateVerification => cases hq
  | createAccount | addBalance | deleteAccount | createEntry | createTransfer | lookUp =>
      exact ⟨rfl, rfl⟩

/-- All other queries leave these tables as they are. -/
theorem perform_sameUsers (hq : q.changesUsers = false) (now : Instant) (db : Database) :
    db.rows.SameUsers (q.perform now db).db.rows := by
  cases perform_cameOut now q db with
  | done effect change => exact change.sameUsers hq
  | failed effect s forward same =>
      rw [same]
      exact .refl _

theorem submit_sameUsers (hq : q.changesUsers = false) (now : Instant) (db : Database) :
    db.rows.SameUsers (submit now q db).db.rows := by
  rcases submit_db now q db with hdb | hdb
  · rw [hdb]
    exact .refl db.rows
  · rw [hdb]
    exact perform_sameUsers hq now db

theorem Work.submitEach_sameUsers {w : Work α} (hw : w.Issues (·.changesUsers = false))
    (clock : Nat → Instant) (db : Database) :
    db.rows.SameUsers (w.submitEach clock db).db.rows :=
  submitEach_keeps (R := fun d d' => d.rows.SameUsers d'.rows) hw (fun _ => .refl _) .trans
    (fun _ hq => perform_sameUsers hq) clock db

theorem Work.execute_sameUsers {w : Work α} (hw : w.Issues (·.changesUsers = false))
    (env : Surroundings) (token : CancelToken) (db : Database) :
    db.rows.SameUsers (w.execute env token db).db.rows :=
  execute_keeps (R := fun d d' => d.rows.SameUsers d'.rows) hw (fun _ => .refl _) .trans
    (fun _ _ _ => .refl _) (fun _ hq => perform_sameUsers hq) env token db

/-- Cancelling the token adds no query. -/
theorem Work.issues_cancelAfter {P : Query → Prop} {w : Work α} (hw : w.Issues P) (n : Nat) :
    (w.cancelAfter n).Issues P := by
  induction w generalizing n with
  | done a => cases n <;> trivial
  | fail e => cases n <;> trivial
  | crash => cases n <;> trivial
  | cancel next ih =>
      cases n with
      | zero => exact hw
      | succ n => exact ih hw (n + 1)
  | call q next ih =>
      cases n with
      | zero => exact hw
      | succ n => exact ⟨hw.1, fun a => ih a (hw.2 a) n⟩

namespace Ledger

/-! ### Transfers -/

theorem transferWork_leavesUsers (r : TransferRequest) :
    (transferWork r).Issues (·.changesUsers = false) :=
  transferWork_issues (fun _ => ⟨rfl, rfl, rfl⟩) rfl rfl

/-! ### Issuing and confirming codes -/

/-- A code was issued to a user who was not verified. -/
structure CodeIssued (user : UserRow) (row : VerificationRow) (db db' : Database) : Prop where
  user_mem : user ∈ db.rows.users
  unverified : user.isEmailVerified = false
  id : row.id.toInt = db.sequences.verification + 1
  username : row.username = user.username
  email : row.email = user.email
  unused : row.isUsed = false
  users : db'.rows.users = db.rows.users
  verifications : db'.rows.verifications = db.rows.verifications ++ [row]

/-- An unused code was confirmed, and with it the user it was issued to. -/
structure CodeConfirmed (user : UserRow) (row : VerificationRow) (db db' : Database) : Prop where
  user_mem : user ∈ db.rows.users
  row_mem : row ∈ db.rows.verifications
  unused : row.isUsed = false
  owner : user.username = row.username
  users : db'.rows.users =
    (db.rows.replaceUser { user with isEmailVerified := true }).users
  verifications : db'.rows.verifications =
    (db.rows.replaceVerification { row with isUsed := true }).verifications

theorem requestWork_issued {clock : Nat → Instant} {lifetime : Duration}
    {username secretCode : String} {v : Verification}
    (h : (requestWork lifetime username secretCode).submitEach clock db =
      { outcome := .ok v, db := db' }) :
    ∃ user row, CodeIssued user row db db' := by
  unfold requestWork at h
  rw [Work.submitEach_query_bind] at h
  obtain ⟨u, db₁, hfind, h⟩ := h
  obtain ⟨-, hfind⟩ := submit_ok_iff.mp hfind
  obtain ⟨-, user, huser, hread, rfl⟩ := answers_findUser_iff.mp hfind
  have hu := UserRow.eq_of_read hread
  rw [Work.submitEach_check_bind] at h
  obtain ⟨_, hunverified, h⟩ := h
  rw [Work.submitEach_query] at h
  obtain ⟨-, hcreate⟩ := submit_ok_iff.mp h
  obtain ⟨-, id, hid, -, rfl⟩ := answers_createVerification_iff.mp hcreate
  have hverified : u.isEmailVerified = user.isEmailVerified := by rw [hu]
  rw [ensure_ok_iff, hverified, Bool.not_eq_true'] at hunverified
  refine ⟨user, _, Rows.user?_mem huser, hunverified, hid, ?_, ?_, rfl, rfl, rfl⟩
  · show u.username = user.username
    rw [hu]
  · show u.email = user.email
    rw [hu]

theorem confirmWork_confirmed {clock : Nat → Instant} {id : Int64} {secretCode : String}
    {now : Instant} {receipt : VerificationReceipt}
    (h : (confirmWork id secretCode now).submitEach clock db =
      { outcome := .ok receipt, db := db' }) :
    ∃ user row, row.id = id ∧ CodeConfirmed user row db db' := by
  unfold confirmWork at h
  rw [Work.submitEach_query_bind] at h
  obtain ⟨record, db₁, hfind, h⟩ := h
  obtain ⟨-, hfind⟩ := submit_ok_iff.mp hfind
  obtain ⟨-, row, hrow, hread, rfl⟩ := answers_findVerification_iff.mp hfind
  obtain rfl := Rows.verification?_id hrow
  have hrecord := VerificationRow.eq_of_read hread
  rw [Work.submitEach_check_bind] at h
  obtain ⟨_, -, h⟩ := h
  rw [Work.submitEach_check_bind] at h
  obtain ⟨_, hunused, h⟩ := h
  rw [Work.submitEach_check_bind] at h
  obtain ⟨_, -, h⟩ := h
  have hused : record.isUsed = row.isUsed := by rw [hrecord]
  rw [ensure_ok_iff, hused, Bool.not_eq_true'] at hunused
  rw [Work.submitEach_query_bind] at h
  obtain ⟨verification, db₂, hupdate, h⟩ := h
  obtain ⟨-, hupdate⟩ := submit_ok_iff.mp hupdate
  obtain ⟨-, row', hrow', hread', rfl⟩ := answers_updateVerification_iff.mp hupdate
  obtain rfl : row = row' := Option.some.inj (hrow.symm.trans hrow')
  have hname : verification.username = row.username := by
    rw [VerificationRow.eq_of_read hread']
  rw [Work.submitEach_query_bind] at h
  obtain ⟨u, db₃, hverify, h⟩ := h
  obtain ⟨-, hverify⟩ := submit_ok_iff.mp hverify
  obtain ⟨-, user, huser, -, rfl⟩ := answers_updateUser_iff.mp hverify
  cases h
  exact ⟨user, row, rfl, Rows.user?_mem huser, Rows.verification?_mem hrow, hunused,
    (Rows.user?_username huser).trans hname, rfl, rfl⟩

/-! ### Effects -/

/-- The id of a code that was confirmed. -/
def Event.confirmation? : Event → Option Int64
  | { operation := .verifyEmail id _, outcome := .ok _ } => some id
  | _ => none

/-- What an operation did to users and verifications. -/
inductive VerificationEffect (db db' : Database) (e : Event) : Prop
  | idle (same : db.rows.SameUsers db'.rows) (confirmation : e.confirmation? = none)
  | registered (user : UserRow) (fresh : ∀ r ∈ db.rows.users, r.username ≠ user.username)
      (unverified : user.isEmailVerified = false)
      (users : db'.rows.users = db.rows.users ++ [user])
      (verifications : db'.rows.verifications = db.rows.verifications)
      (confirmation : e.confirmation? = none)
  | requested (user : UserRow) (row : VerificationRow) (made : CodeIssued user row db db')
      (confirmation : e.confirmation? = none)
  | confirmed (user : UserRow) (row : VerificationRow) (made : CodeConfirmed user row db db')
      (confirmation : e.confirmation? = some row.id)

theorem createUser_effect (env : Surroundings) (username fullName email : String)
    (db : Database) :
    VerificationEffect db (createUser env username fullName email db).db
      ⟨.createUser username fullName email,
        (createUser env username fullName email db).outcome⟩ := by
  unfold createUser
  rcases User.validateNew username fullName email with e | u
  · exact .idle (.refl _) rfl
  dsimp only
  have hmade := submit_made (env.clock 0) (.createUser username (Text.trim fullName) email) db
  generalize submit (env.clock 0) _ db = ran at hmade
  obtain ⟨outcome, db'⟩ := ran
  cases hmade.cameOut with
  | done effect change =>
      cases change with
      | createUser now username fullName email fresh =>
          let user := UserRow.written now username (Text.trim fullName) email
          exact .registered user (fun r hr => (fresh r hr).1) rfl rfl rfl rfl
      | lookUp q only => cases only
  | failed effect s forward same =>
      rw [same]
      exact .idle (.refl _) rfl

/-- A unit that was not kept has had no effect. -/
theorem verificationEffect_of_not_ok {env : Surroundings} {w : Work α} {e : Event}
    (h : ∀ v, (w.execute env {} db).outcome ≠ .ok v) (confirmation : e.confirmation? = none) :
    VerificationEffect db (w.execute env {} db).db e := by
  obtain ⟨s, -, hdb⟩ := Work.execute_undone h
  rw [hdb]
  exact .idle (.refl _) confirmation

theorem requestVerification_effect (env : Surroundings) (lifetime : Duration)
    (username secretCode : String) (db : Database) :
    VerificationEffect db (requestVerification env lifetime username secretCode db).db
      ⟨.requestVerification lifetime username secretCode,
        (requestVerification env lifetime username secretCode db).outcome⟩ := by
  unfold requestVerification
  by_cases hok : ∃ v, ((requestWork lifetime username secretCode).execute env {} db).outcome = .ok v
  · obtain ⟨v, hv⟩ := hok
    obtain ⟨user, row, hmade⟩ := requestWork_issued (Work.execute_kept hv)
    exact .requested user row hmade rfl
  · exact verificationEffect_of_not_ok (fun v hv => hok ⟨v, hv⟩) rfl

theorem verifyEmail_effect (env : Surroundings) (id : Int64) (secretCode : String)
    (db : Database) :
    VerificationEffect db (verifyEmail env id secretCode db).db
      ⟨.verifyEmail id secretCode, (verifyEmail env id secretCode db).outcome⟩ := by
  unfold verifyEmail
  cases houtcome : ((confirmWork id secretCode (env.clock 0)).execute env {} db).outcome with
  | ok receipt =>
      obtain ⟨user, row, rfl, hmade⟩ := confirmWork_confirmed (Work.execute_kept houtcome)
      exact .confirmed user row hmade rfl
  | error e =>
      refine verificationEffect_of_not_ok (fun v hv => ?_) rfl
      rw [houtcome] at hv
      cases hv
  | crash =>
      refine verificationEffect_of_not_ok (fun v hv => ?_) rfl
      rw [houtcome] at hv
      cases hv

/-- **Every operation has one of the effects, and its answer tells whether it
is a confirmation.** -/
theorem Operation.verificationEffect (env : Surroundings) (op : Operation) (db : Database) :
    VerificationEffect db (op.perform env db).db ⟨op, (op.perform env db).outcome⟩ := by
  cases op with
  | createUser username fullName email => exact createUser_effect env username fullName email db
  | requestVerification lifetime username secretCode =>
      exact requestVerification_effect env lifetime username secretCode db
  | verifyEmail id secretCode => exact verifyEmail_effect env id secretCode db
  -- the queries of all others leave these tables alone
  | openAccount owner balance currency =>
      refine .idle ?_ rfl
      show db.rows.SameUsers (Ledger.openAccount env owner balance currency db).db.rows
      unfold Ledger.openAccount
      rcases checkOpening owner currency with e | ⟨owner', c⟩
      · exact .refl _
      · exact submit_sameUsers rfl _ db
  | listAccounts owner page =>
      refine .idle ?_ rfl
      show db.rows.SameUsers (Ledger.listAccounts env owner page db).db.rows
      unfold Ledger.listAccounts
      rcases checkPage page.limit page.offset with e | u
      · exact .refl _
      · exact submit_sameUsers rfl _ db
  | closeAccount id => exact .idle (Work.execute_sameUsers (closeWork_issues rfl rfl rfl) _ _ db) rfl
  | adjustBalance id amount =>
      refine .idle ?_ rfl
      show db.rows.SameUsers (Ledger.adjustBalance env id amount db).db.rows
      unfold Ledger.adjustBalance
      rcases ensure (amount ≠ 0) .zeroAdjustment with e | u
      · exact .refl _
      · exact Work.execute_sameUsers (adjustWork_issues rfl rfl rfl) _ _ db
  | transferFunds request =>
      exact .idle (Work.execute_sameUsers (transferWork_leavesUsers request) _ _ db) rfl
  | transferFundsWith token cancelled request =>
      have hissues := transferWork_leavesUsers request
      cases cancelled with
      | none => exact .idle (Work.execute_sameUsers hissues _ _ db) rfl
      | some n =>
          exact .idle (Work.execute_sameUsers (Work.issues_cancelAfter hissues n) _ _ db) rfl
  | listTransfers accountId page | listEntries accountId page =>
      exact .idle (Work.submitEach_sameUsers (pageWork_issues rfl rfl) _ db) rfl
  | getAccount id | getTransfer id | getEntry id | getUser username | getVerification id =>
      exact .idle (submit_sameUsers rfl _ db) rfl
  | status => exact .idle (.refl _) rfl

end Ledger

end DoubleEntry
