/-
DoubleEntry/Proofs/Ledger/AppendOnly.lean

The history of a ledger is append-only.  Between any two moments of a run,
entries and transfers are only added, users and verifications stay, and what
may change of a row is changed by a query that was committed in between and by
nothing else (`append_only`).

An account may be closed.  One that is there at both moments is the same
account, since no id is given twice, and its balance differs by what was added
to it.
-/
import DoubleEntry.Proofs.Ledger.Steps

namespace DoubleEntry

namespace Ledger

/-- What holds of what is stored at two moments, with the queries that were
committed in between. -/
structure AppendOnly (committed : List Query) (rows rows' : Rows) : Prop where
  entries : rows.entries <+: rows'.entries
  transfers : rows.transfers <+: rows'.transfers
  /-- An account that is there at both moments has the balance it had, and what
  was added to it. -/
  accounts : ∀ r ∈ rows.accounts, ∀ r' ∈ rows'.accounts, r'.id = r.id →
    r'.owner = r.owner ∧ r'.currency = r.currency ∧ r'.createdAt = r.createdAt ∧
      r'.balance.toInt = r.balance.toInt + addedTo committed r.id
  /-- A user is still found, with the fields that were not set as they were. -/
  users : ∀ r ∈ rows.users, ∃ r', rows'.user? r.username = some r' ∧ r.Kept committed r'
  /-- A verification is still found, the same but for whether its code is used. -/
  verifications : ∀ r ∈ rows.verifications, ∃ r', rows'.verification? r.id = some r' ∧
    r' = { r with isUsed := r'.isUsed }

/-- Growth adds to what is stored. -/
theorem appendOnly_of_grown {issued : List Issued} {committed : List Query}
    {db db' : Database} (h : Grown issued committed db db') (hkeyed : db.Keyed) :
    AppendOnly committed db.rows db'.rows where
  entries := h.appended.entries
  transfers := h.appended.transfers
  accounts r hr r' hr' hid := by
    rcases h.appended.accounts r' hr' with ⟨r₀, hr₀, hmoved⟩ | hnew
    · obtain rfl := hkeyed.account_eq hr₀ hr (hmoved.id_eq.symm.trans hid)
      rw [hmoved.balance, hmoved.frame]
      exact ⟨rfl, rfl, rfl, rfl⟩
    · -- an id that was drawn since is not that of an earlier account
      have hbound := (hkeyed.ids .account).bounded r.id (List.mem_map_of_mem hr)
      rw [hid] at hnew
      exact absurd hnew (Int.not_lt.mpr hbound)
  users r hr := by
    obtain ⟨r', hr', hkept⟩ := h.appended.users r hr
    refine ⟨r', ?_, hkept⟩
    rw [← hkept.username]
    exact find?_key h.keyed.usernames hr'
  verifications r hr := by
    obtain ⟨r', hr', hkept⟩ := h.appended.verifications r hr
    have hid : r'.id = r.id := by rw [hkept]
    refine ⟨r', ?_, hkept⟩
    rw [← hid]
    exact find?_key (h.keyed.ids .verification).nodup hr'

/-- **The history is append-only**: between any two moments of any run, and as
it is seen within a transaction that is still open. -/
theorem append_only (before later : List Step) :
    let db := ({} : Database).after before
    AppendOnly (db.committed later) db.rows (db.after later).rows ∧
      ∀ {α : Type} (env : Surroundings) (p : Program α),
        AppendOnly (effective (p.issued env { db })) db.rows (p.run env { db }).2.db.rows := by
  intro db
  have hkeyed : db.Keyed := ((Database.Keyed.empty {}).grown before).keyed
  refine ⟨appendOnly_of_grown (hkeyed.grown later) hkeyed, ?_⟩
  intro α env p
  exact appendOnly_of_grown (p.grown env hkeyed) hkeyed

end Ledger

end DoubleEntry
