/-
DoubleEntry/Proofs/Store/Keyed.lean

The keys of the tables, and what the tables check.  Four tables number their
rows (`Series`); their ids are drawn from a sequence and so stand in the order
in which the rows were stored.  No two users share a username or an email, and
every transfer is of a positive amount.  `Database.Keyed` says all of this.

It is kept by every change that a query can make (`Change.keyed`).  Nor do ids
matter that were drawn in vain, or what tables there are
(`Database.Keyed.of_rows`).
-/
import DoubleEntry.Proofs.Store.Change
import DoubleEntry.Proofs.Store.Kept

namespace DoubleEntry

variable {db db' : Database} {q : Query}

/-! ### Numbered tables -/

/-- A table that numbers its rows. -/
inductive Series where
  | account
  | entry
  | transfer
  | verification
  deriving DecidableEq

/-- The ids of the rows that are stored, in their order. -/
def Rows.ids (rows : Rows) : Series → List Int64
  | .account => rows.accounts.map (·.id)
  | .entry => rows.entries.map (·.id)
  | .transfer => rows.transfers.map (·.id)
  | .verification => rows.verifications.map (·.id)

/-- The id given last. -/
def Sequences.last (s : Sequences) : Series → Nat
  | .account => s.account
  | .entry => s.entry
  | .transfer => s.transfer
  | .verification => s.verification

theorem Sequences.last_le {s t : Sequences} (h : s ≤ t) (series : Series) :
    s.last series ≤ t.last series := by
  obtain ⟨haccount, hentry, htransfer, hverification⟩ := h
  cases series with
  | account => exact haccount
  | entry => exact hentry
  | transfer => exact htransfer
  | verification => exact hverification

/-! ### Keyed databases -/

/-- Ids were drawn from their sequences, usernames and emails are different,
and amounts of transfers are positive. -/
structure Database.Keyed (db : Database) : Prop where
  ids : ∀ series, Drawn (db.sequences.last series) (db.rows.ids series)
  usernames : (db.rows.users.map (·.username)).Nodup
  emails : (db.rows.users.map (·.email)).Nodup
  amounts : ∀ t ∈ db.rows.transfers, 0 < t.amount.toInt

namespace Database.Keyed

/-- An empty database is keyed, whether or not it has tables. -/
theorem empty (catalog : Catalog) : Keyed { catalog } where
  ids series := by
    cases series with
    | account | entry | transfer | verification => exact .nil
  usernames := List.nodup_nil
  emails := List.nodup_nil
  amounts t ht := by cases ht

/-- A database has its keys from its rows, as long as no sequence goes back. -/
theorem of_rows (h : db.Keyed) (hrows : db'.rows = db.rows) (hs : db.sequences ≤ db'.sequences) :
    db'.Keyed where
  ids series := by
    rw [hrows]
    exact (h.ids series).mono (Sequences.last_le hs series)
  usernames := hrows ▸ h.usernames
  emails := hrows ▸ h.emails
  amounts := hrows ▸ h.amounts

theorem user_eq (h : db.Keyed) {r s : UserRow} (hr : r ∈ db.rows.users) (hs : s ∈ db.rows.users)
    (hname : r.username = s.username) : r = s :=
  List.inj_on_of_nodup_map h.usernames hr hs hname

theorem account_eq (h : db.Keyed) {r s : AccountRow} (hr : r ∈ db.rows.accounts)
    (hs : s ∈ db.rows.accounts) (hid : r.id = s.id) : r = s :=
  List.inj_on_of_nodup_map (h.ids .account).nodup hr hs hid

theorem verification_eq (h : db.Keyed) {r s : VerificationRow} (hr : r ∈ db.rows.verifications)
    (hs : s ∈ db.rows.verifications) (hid : r.id = s.id) : r = s :=
  List.inj_on_of_nodup_map (h.ids .verification).nodup hr hs hid

end Database.Keyed

/-! ### Changes keep the keys -/

/-- A change adds a row under the next id to a numbered table, or at most
removes rows from it. -/
theorem Change.ids (h : Change db q db') (series : Series) :
    (db'.rows.ids series).Sublist (db.rows.ids series) ∧
        db'.sequences.last series = db.sequences.last series ∨
      ∃ id : Int64, id.toInt = db.sequences.last series + 1 ∧
        db'.rows.ids series = db.rows.ids series ++ [id] ∧
        db'.sequences.last series = db.sequences.last series + 1 := by
  have hsame : db'.rows.ids series = db.rows.ids series →
      db'.sequences.last series = db.sequences.last series →
      (db'.rows.ids series).Sublist (db.rows.ids series) ∧
        db'.sequences.last series = db.sequences.last series := by
    intro hids hlast
    rw [hids]
    exact ⟨.refl _, hlast⟩
  cases h with
  | createAccount now id owner balance currency drawn =>
      cases series with
      | account => exact .inr ⟨id, drawn, List.map_append, rfl⟩
      | entry | transfer | verification => exact .inl (hsame rfl rfl)
  | createEntry now id accountId amount drawn =>
      cases series with
      | entry => exact .inr ⟨id, drawn, List.map_append, rfl⟩
      | account | transfer | verification => exact .inl (hsame rfl rfl)
  | createTransfer now id request drawn positive =>
      cases series with
      | transfer => exact .inr ⟨id, drawn, List.map_append, rfl⟩
      | account | entry | verification => exact .inl (hsame rfl rfl)
  | createVerification now expiredAt id username email secretCode lifetime drawn =>
      cases series with
      | verification => exact .inr ⟨id, drawn, List.map_append, rfl⟩
      | account | entry | transfer => exact .inl (hsame rfl rfl)
  | addBalance row balance amount found sum =>
      cases series with
      | account => exact .inl (hsame (map_replaced fun x _ hid => hid.symm) rfl)
      | entry | transfer | verification => exact .inl (hsame rfl rfl)
  | deleteAccount row found =>
      cases series with
      | account => exact .inl ⟨List.filter_sublist.map _, rfl⟩
      | entry | transfer | verification => exact .inl (hsame rfl rfl)
  | updateVerification row isUsed found =>
      cases series with
      | verification => exact .inl (hsame (map_replaced fun x _ hid => hid.symm) rfl)
      | account | entry | transfer => exact .inl (hsame rfl rfl)
  | createUser | updateUser | lookUp =>
      cases series with
      | account | entry | transfer | verification => exact .inl (hsame rfl rfl)

/-- A change leaves the users' names and addresses alone, or adds a user whose
name and address are new. -/
theorem Change.users (h : Change db q db') (hkeyed : db.Keyed) :
    (db'.rows.users.map (·.username)).Nodup ∧ (db'.rows.users.map (·.email)).Nodup := by
  have husernames := hkeyed.usernames
  have hemails := hkeyed.emails
  cases h with
  | createUser now username fullName email fresh =>
      have hname : username ∉ db.rows.users.map (·.username) := by
        intro hmem
        obtain ⟨r, hr, heq⟩ := List.mem_map.mp hmem
        exact (fresh r hr).1 heq
      have hemail : email ∉ db.rows.users.map (·.email) := by
        intro hmem
        obtain ⟨r, hr, heq⟩ := List.mem_map.mp hmem
        exact (fresh r hr).2 heq
      let new := UserRow.written now username fullName email
      have hnames : (db.rows.users ++ [new]).map (·.username) =
          (db.rows.users.map (·.username)).concat username := by
        rw [List.map_append, List.concat_eq_append]
        rfl
      have haddresses : (db.rows.users ++ [new]).map (·.email) =
          (db.rows.users.map (·.email)).concat email := by
        rw [List.map_append, List.concat_eq_append]
        rfl
      exact ⟨hnames ▸ (List.nodup_concat _ _).mpr ⟨hname, husernames⟩,
        haddresses ▸ (List.nodup_concat _ _).mpr ⟨hemail, hemails⟩⟩
  | updateUser row fullName isEmailVerified found =>
      have hsame : ∀ x ∈ db.rows.users, x.username = row.username → x = row :=
        fun x hx => hkeyed.user_eq hx (Rows.user?_mem found)
      let new := row.updated fullName isEmailVerified
      have hnames : (db.rows.replaceUser new).users.map (·.username) =
          db.rows.users.map (·.username) :=
        map_replaced fun x _ hname => Eq.symm hname
      have haddresses : (db.rows.replaceUser new).users.map (·.email) =
          db.rows.users.map (·.email) :=
        map_replaced fun x hx hname => by rw [hsame x hx hname]; rfl
      exact ⟨hnames ▸ husernames, haddresses ▸ hemails⟩
  | createAccount | createEntry | createTransfer | createVerification | addBalance | deleteAccount
  | updateVerification | lookUp => exact ⟨husernames, hemails⟩

theorem Change.amounts (h : Change db q db') (hdb : ∀ t ∈ db.rows.transfers, 0 < t.amount.toInt) :
    ∀ t ∈ db'.rows.transfers, 0 < t.amount.toInt := by
  cases h with
  | createTransfer now id request drawn positive =>
      exact List.forall_mem_append.mpr ⟨hdb, List.forall_mem_singleton.mpr positive⟩
  | createAccount | createEntry | createUser | createVerification | addBalance | deleteAccount
  | updateUser | updateVerification | lookUp => exact hdb

theorem Change.keyed (h : Change db q db') (hkeyed : db.Keyed) : db'.Keyed where
  ids series := by
    have hdrawn := hkeyed.ids series
    rcases h.ids series with ⟨hsub, hlast⟩ | ⟨id, hid, hids, hlast⟩
    · rw [hlast]
      exact hdrawn.sublist hsub
    · rw [hlast, hids]
      exact hdrawn.append hid
  usernames := (h.users hkeyed).1
  emails := (h.users hkeyed).2
  amounts := h.amounts hkeyed.amounts

/-- No change sets a sequence back. -/
theorem Change.sequences (h : Change db q db') : db.sequences ≤ db'.sequences := by
  cases h with
  | createAccount => exact ⟨Nat.le_succ _, Nat.le_refl _, Nat.le_refl _, Nat.le_refl _⟩
  | createEntry => exact ⟨Nat.le_refl _, Nat.le_succ _, Nat.le_refl _, Nat.le_refl _⟩
  | createTransfer => exact ⟨Nat.le_refl _, Nat.le_refl _, Nat.le_succ _, Nat.le_refl _⟩
  | createVerification => exact ⟨Nat.le_refl _, Nat.le_refl _, Nat.le_refl _, Nat.le_succ _⟩
  | createUser | addBalance | deleteAccount | updateUser | updateVerification | lookUp =>
      exact Sequences.le_refl _

end DoubleEntry
