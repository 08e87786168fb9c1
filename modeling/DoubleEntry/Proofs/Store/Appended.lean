/-
DoubleEntry/Proofs/Store/Appended.lean

What queries leave of the rows that were there before.  `Appended queries`
relates two databases between which the queries have taken effect: entries and
transfers were only added, a balance has changed by what was added to it
(`addedTo`), a user keeps all but the fields that were set, and a verification
keeps all but whether its code is used.  It is a preorder over lists of
queries (`Appended.of_rows`, `Appended.trans`), and every change that a query can
make is of this kind (`Change.appended`).

An account may be closed; but its id is not given again, so an account that is
there at both times is the same one.
-/
import DoubleEntry.Proofs.Store.Keyed

namespace DoubleEntry

variable {db db' db'' : Database} {q : Query} {queries queries' : List Query}

/-! ### What queries add and set -/

/-- What a query adds to the balance of each account. -/
def Query.addition : Query → Int64 → Int
  | .addBalance id amount => movement id amount.toInt
  | _ => fun _ => 0

/-- What queries have added to the balance of an account. -/
def addedTo (queries : List Query) (id : Int64) : Int :=
  (queries.map (·.addition id)).sum

/-- Whether a query sets the full name of a user. -/
def Query.setsFullName (username : String) : Query → Bool
  | .updateUser name (some _) _ => name = username
  | _ => false

/-- Whether a query sets whether the email of a user is verified. -/
def Query.setsVerified (username : String) : Query → Bool
  | .updateUser name _ (some _) => name = username
  | _ => false

theorem addedTo_nil (id : Int64) : addedTo [] id = 0 := rfl

theorem addedTo_append (queries queries' : List Query) (id : Int64) :
    addedTo (queries ++ queries') id = addedTo queries id + addedTo queries' id := by
  unfold addedTo
  rw [List.map_append, List.sum_append]

theorem addedTo_singleton (q : Query) : addedTo [q] = q.addition := by
  funext id
  exact List.sum_singleton

/-! ### Rows -/

/-- An account to which nothing was added stays as it is. -/
theorem AccountRow.Moved.refl {delta : Int64 → Int} {r : AccountRow} (h : delta r.id = 0) :
    r.Moved delta r where
  frame := rfl
  balance := by rw [h, Int.add_zero]

/-- The same user; a field that no query has set is as it was. -/
structure UserRow.Kept (queries : List Query) (r r' : UserRow) : Prop where
  username : r'.username = r.username
  email : r'.email = r.email
  createdAt : r'.createdAt = r.createdAt
  fullName : (∀ q ∈ queries, q.setsFullName r.username = false) → r'.fullName = r.fullName
  isEmailVerified : (∀ q ∈ queries, q.setsVerified r.username = false) →
    r'.isEmailVerified = r.isEmailVerified

namespace UserRow.Kept

variable {r r' r'' : UserRow}

theorem refl (queries : List Query) (r : UserRow) : r.Kept queries r :=
  ⟨rfl, rfl, rfl, fun _ => rfl, fun _ => rfl⟩

theorem trans (h : r.Kept queries r') (h' : r'.Kept queries' r'') :
    r.Kept (queries ++ queries') r'' where
  username := h'.username.trans h.username
  email := h'.email.trans h.email
  createdAt := h'.createdAt.trans h.createdAt
  fullName hnot := by
    obtain ⟨hfirst, hsecond⟩ := List.forall_mem_append.mp hnot
    rw [← h.username] at hsecond
    exact (h'.fullName hsecond).trans (h.fullName hfirst)
  isEmailVerified hnot := by
    obtain ⟨hfirst, hsecond⟩ := List.forall_mem_append.mp hnot
    rw [← h.username] at hsecond
    exact (h'.isEmailVerified hsecond).trans (h.isEmailVerified hfirst)

/-- A user is updated in the fields that are given. -/
theorem updated (r : UserRow) (fullName : Option String) (isEmailVerified : Option Bool) :
    r.Kept [.updateUser r.username fullName isEmailVerified]
      (r.updated fullName isEmailVerified) where
  username := rfl
  email := rfl
  createdAt := rfl
  fullName hnot := by
    cases fullName with
    | none => rfl
    | some name =>
        have hset := hnot _ (List.mem_singleton_self _)
        simp [Query.setsFullName] at hset
  isEmailVerified hnot := by
    cases isEmailVerified with
    | none => rfl
    | some flag =>
        have hset := hnot _ (List.mem_singleton_self _)
        simp [Query.setsVerified] at hset

end UserRow.Kept

/-! ### Databases -/

/-- What was stored is still there, but for what the queries have done to it;
and what has come to be stored has an id that was drawn since. -/
structure Appended (queries : List Query) (db db' : Database) : Prop where
  sequences : db.sequences ≤ db'.sequences
  ids : ∀ series, ∀ id ∈ db'.rows.ids series,
    id ∈ db.rows.ids series ∨ (db.sequences.last series : Int) < id.toInt
  entries : db.rows.entries <+: db'.rows.entries
  transfers : db.rows.transfers <+: db'.rows.transfers
  accounts : ∀ r' ∈ db'.rows.accounts,
    (∃ r ∈ db.rows.accounts, r.Moved (addedTo queries) r') ∨ db.sequences.account < r'.id.toInt
  users : ∀ r ∈ db.rows.users, ∃ r' ∈ db'.rows.users, r.Kept queries r'
  verifications : ∀ r ∈ db.rows.verifications, ∃ r' ∈ db'.rows.verifications,
    r' = { r with isUsed := r'.isUsed }

namespace Appended

/-- Without a query that has taken effect the rows are the same. -/
theorem of_rows (hrows : db'.rows = db.rows) (hs : db.sequences ≤ db'.sequences) :
    Appended [] db db' where
  sequences := hs
  ids series id hid := by
    rw [hrows] at hid
    exact .inl hid
  entries := hrows ▸ List.prefix_refl _
  transfers := hrows ▸ List.prefix_refl _
  accounts r hr := by
    rw [hrows] at hr
    exact .inl ⟨r, hr, .refl (addedTo_nil _)⟩
  users r hr := by
    rw [hrows]
    exact ⟨r, hr, .refl [] r⟩
  verifications r hr := by
    rw [hrows]
    exact ⟨r, hr, rfl⟩

theorem trans (h : Appended queries db db') (h' : Appended queries' db' db'') :
    Appended (queries ++ queries') db db'' where
  sequences := Sequences.le_trans h.sequences h'.sequences
  ids series id hid := by
    have hforward := Sequences.last_le h.sequences series
    rcases h'.ids series id hid with hold | hnew
    · exact h.ids series id hold
    · right
      omega
  entries := h.entries.trans h'.entries
  transfers := h.transfers.trans h'.transfers
  accounts r'' hr'' := by
    have hforward := h.sequences.1
    rcases h'.accounts r'' hr'' with ⟨r', hr', hmoved'⟩ | hnew
    · rcases h.accounts r' hr' with ⟨r, hr, hmoved⟩ | hnew
      · refine .inl ⟨r, hr, ?_⟩
        have hboth : addedTo (queries ++ queries') =
            fun id => addedTo queries id + addedTo queries' id := by
          funext id
          exact addedTo_append queries queries' id
        rw [hboth]
        exact hmoved.trans hmoved'
      · -- the account was opened in between
        right
        rw [hmoved'.id_eq]
        exact hnew
    · right
      omega
  users r hr := by
    obtain ⟨r', hr', hkept⟩ := h.users r hr
    obtain ⟨r'', hr'', hkept'⟩ := h'.users r' hr'
    exact ⟨r'', hr'', hkept.trans hkept'⟩
  verifications r hr := by
    obtain ⟨r', hr', hkept⟩ := h.verifications r hr
    obtain ⟨r'', hr'', hkept'⟩ := h'.verifications r' hr'
    refine ⟨r'', hr'', ?_⟩
    rw [hkept', hkept]

end Appended

/-! ### Changes -/

/-- An id that is new is the next of its sequence. -/
theorem Change.ids_new (h : Change db q db') (series : Series) :
    ∀ id ∈ db'.rows.ids series,
      id ∈ db.rows.ids series ∨ (db.sequences.last series : Int) < id.toInt := by
  intro id hid
  rcases h.ids series with ⟨hsub, -⟩ | ⟨next, hnext, hids, -⟩
  · exact .inl (hsub.subset hid)
  · rw [hids, List.mem_append, List.mem_singleton] at hid
    rcases hid with hold | rfl
    · exact .inl hold
    · right
      omega

theorem Change.entries_prefix (h : Change db q db') : db.rows.entries <+: db'.rows.entries := by
  cases h with
  | createEntry => exact List.prefix_append _ _
  | createAccount | createTransfer | createUser | createVerification | addBalance | deleteAccount
  | updateUser | updateVerification | lookUp => exact List.prefix_refl _

theorem Change.transfers_prefix (h : Change db q db') :
    db.rows.transfers <+: db'.rows.transfers := by
  cases h with
  | createTransfer => exact List.prefix_append _ _
  | createAccount | createEntry | createUser | createVerification | addBalance | deleteAccount
  | updateUser | updateVerification | lookUp => exact List.prefix_refl _

/-- An account has the balance it had and what the query has added to it, or
it was opened by the query. -/
theorem Change.accounts_moved (h : Change db q db') (hkeyed : db.Keyed) :
    ∀ r' ∈ db'.rows.accounts, (∃ r ∈ db.rows.accounts, r.Moved q.addition r') ∨
      db.sequences.account < r'.id.toInt := by
  have hsame : (∀ id, q.addition id = 0) → ∀ r ∈ db.rows.accounts,
      (∃ r₀ ∈ db.rows.accounts, r₀.Moved q.addition r) ∨ db.sequences.account < r.id.toInt :=
    fun hzero r hr => .inl ⟨r, hr, .refl (hzero r.id)⟩
  cases h with
  | createAccount now id owner balance currency drawn =>
      refine List.forall_mem_append.mpr ⟨hsame fun _ => rfl, List.forall_mem_singleton.mpr ?_⟩
      right
      show (db.sequences.account : Int) < id.toInt
      omega
  | addBalance row balance amount found sum =>
      intro r' hr'
      have hids : (db.rows.accounts.map (·.id)).Nodup := (hkeyed.ids .account).nodup
      have hmoved := moved_replaceAccount hids (Rows.account?_eq_some found).1 sum
      exact .inl (hmoved.exists_of_mem hr')
  | deleteAccount row found =>
      intro r' hr'
      exact hsame (fun _ => rfl) r' (List.mem_filter.mp hr').1
  | createEntry | createTransfer | createUser | createVerification | updateUser
  | updateVerification => exact hsame fun _ => rfl
  | lookUp q only =>
      refine hsame fun _ => ?_
      cases q with
      | addBalance id amount => cases only
      | _ => rfl

/-- A user keeps all but the fields that the query has set. -/
theorem Change.users_kept (h : Change db q db') (hkeyed : db.Keyed) :
    ∀ r ∈ db.rows.users, ∃ r' ∈ db'.rows.users, r.Kept [q] r' := by
  intro r hr
  cases h with
  | createUser => exact ⟨r, List.mem_append_left _ hr, .refl _ r⟩
  | updateUser row fullName isEmailVerified found =>
      by_cases hname : r.username = row.username
      · obtain rfl := hkeyed.user_eq hr (Rows.user?_mem found) hname
        exact ⟨_, List.mem_map.mpr ⟨r, hr, if_pos rfl⟩, .updated r fullName isEmailVerified⟩
      · exact ⟨r, List.mem_map.mpr ⟨r, hr, if_neg hname⟩, .refl _ r⟩
  | createAccount | createEntry | createTransfer | createVerification | addBalance | deleteAccount
  | updateVerification | lookUp => exact ⟨r, hr, .refl _ r⟩

/-- A verification keeps all but whether its code is used. -/
theorem Change.verifications_kept (h : Change db q db') (hkeyed : db.Keyed) :
    ∀ r ∈ db.rows.verifications, ∃ r' ∈ db'.rows.verifications,
      r' = { r with isUsed := r'.isUsed } := by
  intro r hr
  cases h with
  | createVerification => exact ⟨r, List.mem_append_left _ hr, rfl⟩
  | updateVerification row isUsed found =>
      by_cases hid : r.id = row.id
      · obtain rfl := hkeyed.verification_eq hr (Rows.verification?_mem found) hid
        exact ⟨_, List.mem_map.mpr ⟨r, hr, if_pos rfl⟩, rfl⟩
      · exact ⟨r, List.mem_map.mpr ⟨r, hr, if_neg hid⟩, rfl⟩
  | createAccount | createEntry | createTransfer | createUser | addBalance | deleteAccount
  | updateUser | lookUp => exact ⟨r, hr, rfl⟩

theorem Change.appended (h : Change db q db') (hkeyed : db.Keyed) : Appended [q] db db' where
  sequences := h.sequences
  ids := h.ids_new
  entries := h.entries_prefix
  transfers := h.transfers_prefix
  accounts := by
    rw [addedTo_singleton]
    exact h.accounts_moved hkeyed
  users := h.users_kept hkeyed
  verifications := h.verifications_kept hkeyed

end DoubleEntry
