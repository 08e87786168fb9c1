/-
DoubleEntry/Proofs/Store/Written.lean

The rows that the store writes, and what is read from them.  A row that was
written at a regular instant is read back as it was meant
(`AccountRow.read_written` and its likes); whether any row can be read
depends on its texts alone, and all else that is read stands in the row
(`AccountRow.read_eq_ok_iff` and its likes).
-/
import DoubleEntry.Proofs.Time.RoundTrip
import DoubleEntry.Store.Row

namespace DoubleEntry

/-! ### Texts -/

theorem readCurrency_code (c : Currency) : readCurrency c.code = .ok c := by
  unfold readCurrency
  rw [Currency.parse_code]

variable {now : Instant}

theorem readInstant_storedText (h : now.IsRegular) (column : String) :
    readInstant column now.storedText = .ok now := by
  unfold readInstant
  rw [Instant.read?_storedText h]

theorem readInstant_of_hasSignedYear (h : now.HasSignedYear) (column : String) :
    readInstant column now.storedText = .error (.undecodable column) := by
  unfold readInstant
  rw [Instant.read?_storedText_of_hasSignedYear h]

/-- Outside a leap second no other instant is read back than the one that was
stored. -/
theorem eq_of_readInstant_storedText {column : String} {t : Instant}
    (hnow : now.nanos < 1000000000) (h : readInstant column now.storedText = .ok t) : t = now := by
  rcases Instant.isRegular_or_hasSignedYear hnow with hregular | hsigned
  · rw [readInstant_storedText hregular] at h
    cases h
    rfl
  · rw [readInstant_of_hasSignedYear hsigned] at h
    cases h

/-! ### Written rows -/

/-- The row of a new account. -/
def AccountRow.written (now : Instant) (id : Int64) (owner : String) (balance : Int64)
    (currency : Currency) : AccountRow :=
  { id, owner, balance, currency := currency.code, createdAt := now.storedText }

/-- The row of a new entry. -/
def EntryRow.written (now : Instant) (id accountId amount : Int64) : EntryRow :=
  { id, accountId, amount, createdAt := now.storedText }

/-- The row of a new transfer. -/
def TransferRow.written (now : Instant) (id : Int64) (r : TransferRequest) : TransferRow :=
  { id, fromId := r.fromId, toId := r.toId, amount := r.amount, createdAt := now.storedText }

/-- The row of a new user. -/
def UserRow.written (now : Instant) (username fullName email : String) : UserRow :=
  { username, fullName, email, isEmailVerified := false, createdAt := now.storedText }

/-- The row of a new verification. -/
def VerificationRow.written (now expiredAt : Instant) (id : Int64)
    (username email secretCode : String) : VerificationRow :=
  { id, username, email, secretCode, isUsed := false, createdAt := now.storedText,
    expiredAt := expiredAt.storedText }

/-- A new account is read back as it was given. -/
theorem AccountRow.read_written (h : now.IsRegular) (id : Int64) (owner : String)
    (balance : Int64) (currency : Currency) :
    (written now id owner balance currency).read =
      .ok { id, owner, balance, currency, createdAt := now } := by
  unfold AccountRow.read written
  rw [readCurrency_code, readInstant_storedText h]
  rfl

/-- A new entry is read back as it was given. -/
theorem EntryRow.read_written (h : now.IsRegular) (id accountId amount : Int64) :
    (written now id accountId amount).read =
      .ok { id, accountId, amount, createdAt := now } := by
  unfold EntryRow.read written
  rw [readInstant_storedText h]
  rfl

/-- A new transfer is read back as it was given. -/
theorem TransferRow.read_written (h : now.IsRegular) (id : Int64) (r : TransferRequest) :
    (written now id r).read =
      .ok { id, fromId := r.fromId, toId := r.toId, amount := r.amount, createdAt := now } := by
  unfold TransferRow.read written
  rw [readInstant_storedText h]
  rfl

/-! ### Reading rows -/

theorem bind_eq_ok_iff {ε α β : Type} {x : Except ε α} {f : α → Except ε β} {b : β} :
    x >>= f = .ok b ↔ ∃ a, x = .ok a ∧ f a = .ok b := by
  cases x with
  | ok a =>
      refine ⟨fun h => ⟨a, rfl, h⟩, ?_⟩
      rintro ⟨_, ⟨⟩, h⟩
      exact h
  | error e =>
      refine ⟨fun h => (by cases h), ?_⟩
      rintro ⟨_, ⟨⟩, -⟩

/-- What is read from the row of an account. -/
theorem AccountRow.read_eq_ok_iff {r : AccountRow} {a : Account} :
    r.read = .ok a ↔
      readCurrency r.currency = .ok a.currency ∧
        readInstant "created_at" r.createdAt = .ok a.createdAt ∧
          a = { id := r.id, owner := r.owner, balance := r.balance,
                currency := a.currency, createdAt := a.createdAt } := by
  simp only [AccountRow.read, bind_eq_ok_iff]
  constructor
  · rintro ⟨c, hcurrency, t, hcreated, ⟨⟩⟩
    exact ⟨hcurrency, hcreated, rfl⟩
  · rintro ⟨hcurrency, hcreated, ha⟩
    exact ⟨_, hcurrency, _, hcreated, congrArg Except.ok ha.symm⟩

theorem AccountRow.eq_of_read {r : AccountRow} {a : Account} (h : r.read = .ok a) :
    a = { id := r.id, owner := r.owner, balance := r.balance, currency := a.currency,
          createdAt := a.createdAt } :=
  (read_eq_ok_iff.mp h).2.2

/-- What is read from the row of an entry. -/
theorem EntryRow.read_eq_ok_iff {r : EntryRow} {e : Entry} :
    r.read = .ok e ↔
      readInstant "created_at" r.createdAt = .ok e.createdAt ∧
        e = { id := r.id, accountId := r.accountId, amount := r.amount,
              createdAt := e.createdAt } := by
  simp only [EntryRow.read, bind_eq_ok_iff]
  constructor
  · rintro ⟨t, hcreated, ⟨⟩⟩
    exact ⟨hcreated, rfl⟩
  · rintro ⟨hcreated, he⟩
    exact ⟨_, hcreated, congrArg Except.ok he.symm⟩

theorem EntryRow.eq_of_read {r : EntryRow} {e : Entry} (h : r.read = .ok e) :
    e = { id := r.id, accountId := r.accountId, amount := r.amount, createdAt := e.createdAt } :=
  (read_eq_ok_iff.mp h).2

/-- What is read from the row of a transfer. -/
theorem TransferRow.read_eq_ok_iff {r : TransferRow} {t : Transfer} :
    r.read = .ok t ↔
      readInstant "created_at" r.createdAt = .ok t.createdAt ∧
        t = { id := r.id, fromId := r.fromId, toId := r.toId, amount := r.amount,
              createdAt := t.createdAt } := by
  simp only [TransferRow.read, bind_eq_ok_iff]
  constructor
  · rintro ⟨created, hcreated, ⟨⟩⟩
    exact ⟨hcreated, rfl⟩
  · rintro ⟨hcreated, ht⟩
    exact ⟨_, hcreated, congrArg Except.ok ht.symm⟩

theorem TransferRow.eq_of_read {r : TransferRow} {t : Transfer} (h : r.read = .ok t) :
    t = { id := r.id, fromId := r.fromId, toId := r.toId, amount := r.amount,
          createdAt := t.createdAt } :=
  (read_eq_ok_iff.mp h).2

/-- What is read from the row of a user. -/
theorem UserRow.read_eq_ok_iff {r : UserRow} {u : User} :
    r.read = .ok u ↔
      readInstant "created_at" r.createdAt = .ok u.createdAt ∧
        u = { username := r.username, fullName := r.fullName, email := r.email,
              isEmailVerified := r.isEmailVerified, createdAt := u.createdAt } := by
  simp only [UserRow.read, bind_eq_ok_iff]
  constructor
  · rintro ⟨t, hcreated, ⟨⟩⟩
    exact ⟨hcreated, rfl⟩
  · rintro ⟨hcreated, hu⟩
    exact ⟨_, hcreated, congrArg Except.ok hu.symm⟩

theorem UserRow.eq_of_read {r : UserRow} {u : User} (h : r.read = .ok u) :
    u = { username := r.username, fullName := r.fullName, email := r.email,
          isEmailVerified := r.isEmailVerified, createdAt := u.createdAt } :=
  (read_eq_ok_iff.mp h).2

/-- What is read from the row of a verification. -/
theorem VerificationRow.read_eq_ok_iff {r : VerificationRow} {v : Verification} :
    r.read = .ok v ↔
      readInstant "created_at" r.createdAt = .ok v.createdAt ∧
        readInstant "expired_at" r.expiredAt = .ok v.expiredAt ∧
          v = { id := r.id, username := r.username, email := r.email,
                secretCode := r.secretCode, isUsed := r.isUsed, createdAt := v.createdAt,
                expiredAt := v.expiredAt } := by
  simp only [VerificationRow.read, bind_eq_ok_iff]
  constructor
  · rintro ⟨t, hcreated, t', hexpired, ⟨⟩⟩
    exact ⟨hcreated, hexpired, rfl⟩
  · rintro ⟨hcreated, hexpired, hv⟩
    exact ⟨_, hcreated, _, hexpired, congrArg Except.ok hv.symm⟩

theorem VerificationRow.eq_of_read {r : VerificationRow} {v : Verification} (h : r.read = .ok v) :
    v = { id := r.id, username := r.username, email := r.email, secretCode := r.secretCode,
          isUsed := r.isUsed, createdAt := v.createdAt, expiredAt := v.expiredAt } :=
  (read_eq_ok_iff.mp h).2.2

/-- Whether an account can be read does not depend on its balance. -/
theorem AccountRow.exists_read_withBalance (r : AccountRow) (balance : Int64) :
    (∃ a, { r with balance }.read = .ok a) ↔ ∃ a, r.read = .ok a := by
  have hread : ∀ {r : AccountRow} {a : Account} (balance : Int64), r.read = .ok a →
      { r with balance }.read = .ok { a with balance } := by
    intro r a balance h
    obtain ⟨hcurrency, hcreated, ha⟩ := read_eq_ok_iff.mp h
    apply read_eq_ok_iff.mpr
    refine ⟨hcurrency, hcreated, ?_⟩
    rw [ha]
  constructor
  · rintro ⟨a, h⟩
    exact ⟨_, hread (r := { r with balance }) r.balance h⟩
  · rintro ⟨a, h⟩
    exact ⟨_, hread balance h⟩

/-! What is read from a row has the key of the row, and belongs to the same
accounts. -/

theorem AccountRow.id_of_read {r : AccountRow} {a : Account} (h : r.read = .ok a) : a.id = r.id :=
  congrArg Account.id (eq_of_read h)

theorem AccountRow.owner_of_read {r : AccountRow} {a : Account} (h : r.read = .ok a) :
    a.owner = r.owner :=
  congrArg Account.owner (eq_of_read h)

theorem EntryRow.id_of_read {r : EntryRow} {e : Entry} (h : r.read = .ok e) : e.id = r.id :=
  congrArg Entry.id (eq_of_read h)

theorem EntryRow.accountId_of_read {r : EntryRow} {e : Entry} (h : r.read = .ok e) :
    e.accountId = r.accountId :=
  congrArg Entry.accountId (eq_of_read h)

theorem TransferRow.id_of_read {r : TransferRow} {t : Transfer} (h : r.read = .ok t) :
    t.id = r.id :=
  congrArg Transfer.id (eq_of_read h)

theorem TransferRow.fromId_of_read {r : TransferRow} {t : Transfer} (h : r.read = .ok t) :
    t.fromId = r.fromId :=
  congrArg Transfer.fromId (eq_of_read h)

theorem TransferRow.toId_of_read {r : TransferRow} {t : Transfer} (h : r.read = .ok t) :
    t.toId = r.toId :=
  congrArg Transfer.toId (eq_of_read h)

theorem UserRow.username_of_read {r : UserRow} {u : User} (h : r.read = .ok u) :
    u.username = r.username :=
  congrArg User.username (eq_of_read h)

theorem VerificationRow.id_of_read {r : VerificationRow} {v : Verification}
    (h : r.read = .ok v) : v.id = r.id :=
  congrArg Verification.id (eq_of_read h)

/-- Whether a user can be read depends on when it was stored. -/
theorem UserRow.exists_read_iff {r : UserRow} :
    (∃ u, r.read = .ok u) ↔ ∃ t, readInstant "created_at" r.createdAt = .ok t := by
  unfold UserRow.read
  cases readInstant "created_at" r.createdAt with
  | ok t => exact iff_of_true ⟨_, rfl⟩ ⟨t, rfl⟩
  | error e =>
      apply iff_of_false
      · rintro ⟨u, h⟩
        cases h
      · rintro ⟨t, h⟩
        cases h

/-- Whether a verification can be read that was stored at a regular instant
depends on its expiry. -/
theorem VerificationRow.read_eq {r : VerificationRow} (h : now.IsRegular)
    (hcreated : r.createdAt = now.storedText) :
    r.read = (readInstant "expired_at" r.expiredAt).map fun expiredAt =>
      { id := r.id, username := r.username, email := r.email, secretCode := r.secretCode,
        isUsed := r.isUsed, createdAt := now, expiredAt } := by
  unfold VerificationRow.read
  rw [hcreated, readInstant_storedText h]
  cases readInstant "expired_at" r.expiredAt <;> rfl

end DoubleEntry
