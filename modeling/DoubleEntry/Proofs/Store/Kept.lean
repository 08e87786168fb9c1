/-
DoubleEntry/Proofs/Store/Kept.lean

The shape that every database of the ledger keeps: all tables are there, the
rows of a table stand in the order of their ids, no id is beyond its
sequence, and every account can be read.  `Database.WellKept` names it.  It
is kept by every statement that draws an id for a new row, by money that is
moved, and by the removal of rows.
-/
import DoubleEntry.Proofs.Store.Frame
import DoubleEntry.Proofs.Store.Movement

namespace DoubleEntry

/-! ### Ids -/

/-- Ids that were drawn from a sequence, one after the other. -/
structure Drawn (last : Nat) (ids : List Int64) : Prop where
  increasing : ids.Pairwise fun a b => a.toInt < b.toInt
  bounded : ∀ id ∈ ids, id.toInt ≤ last

namespace Drawn

variable {last last' : Nat} {ids ids' : List Int64} {id : Int64}

theorem nil : Drawn last [] where
  increasing := .nil
  bounded := by simp

theorem mono (h : Drawn last ids) (hlast : last ≤ last') : Drawn last' ids where
  increasing := h.increasing
  bounded id hid := by
    have hbound := h.bounded id hid
    omega

theorem sublist (h : Drawn last ids) (hsub : ids'.Sublist ids) : Drawn last ids' where
  increasing := h.increasing.sublist hsub
  bounded id hid := h.bounded id (hsub.subset hid)

/-- The next id of the sequence comes after all others. -/
theorem append (h : Drawn last ids) (hid : id.toInt = last + 1) : Drawn (last + 1) (ids ++ [id]) where
  increasing := by
    rw [List.pairwise_append]
    refine ⟨h.increasing, List.pairwise_singleton _ _, ?_⟩
    intro a ha b hb
    rw [List.mem_singleton] at hb
    subst hb
    have hbound := h.bounded a ha
    omega
  bounded := by
    intro a ha
    rcases List.mem_append.mp ha with ha | ha
    · have hbound := h.bounded a ha
      omega
    · rw [List.mem_singleton] at ha
      subst ha
      omega

/-- The next id of the sequence is none of the others. -/
theorem ne (h : Drawn last ids) (hid : id.toInt = last + 1) {a : Int64} (ha : a ∈ ids) :
    a ≠ id := by
  rintro rfl
  have hbound := h.bounded a ha
  omega

theorem nodup (h : Drawn last ids) : ids.Nodup :=
  h.increasing.imp fun hlt heq => by
    rw [heq] at hlt
    exact Int.lt_irrefl _ hlt

end Drawn

/-! ### Accounts that can be read -/

/-- The row has the code of a currency and an instant. -/
def AccountRow.IsLegible (r : AccountRow) : Prop :=
  ∃ (c : Currency) (t : Instant), r.currency = c.code ∧
    readInstant "created_at" r.createdAt = .ok t

theorem AccountRow.isLegible_written {now : Instant} (h : now.IsRegular) (id : Int64)
    (owner : String) (balance : Int64) (currency : Currency) :
    (written now id owner balance currency).IsLegible :=
  ⟨currency, now, rfl, readInstant_storedText h _⟩

/-- The currency that is read is the one whose code is stored. -/
theorem AccountRow.IsLegible.currency_eq {r : AccountRow} {c : Currency} (hr : r.IsLegible)
    (h : readCurrency r.currency = .ok c) : r.currency = c.code := by
  obtain ⟨d, -, hd, -⟩ := hr
  rw [hd, readCurrency_code] at h
  cases h
  exact hd

theorem AccountRow.Moved.isLegible {delta : Int64 → Int} {r r' : AccountRow}
    (h : r.Moved delta r') (hr : r.IsLegible) : r'.IsLegible := by
  obtain ⟨c, t, hcurrency, hcreated⟩ := hr
  exact ⟨c, t, h.currency_eq.trans hcurrency, by rw [h.createdAt_eq]; exact hcreated⟩

/-! ### Databases -/

namespace Database

/-- The shape of a database of the ledger. -/
structure WellKept (db : Database) : Prop where
  catalog : db.catalog = fresh.catalog
  accounts : Drawn db.sequences.account (db.rows.accounts.map (·.id))
  entries : Drawn db.sequences.entry (db.rows.entries.map (·.id))
  transfers : Drawn db.sequences.transfer (db.rows.transfers.map (·.id))
  legible : ∀ r ∈ db.rows.accounts, r.IsLegible

/-- Every account is stored under the code of its currency. -/
theorem WellKept.codes {db : Database} (h : db.WellKept) :
    ∀ r ∈ db.rows.accounts, ∃ c : Currency, r.currency = c.code := by
  intro r hr
  obtain ⟨c, -, hc, -⟩ := h.legible r hr
  exact ⟨c, hc⟩

theorem wellKept_fresh : fresh.WellKept where
  catalog := rfl
  accounts := .nil
  entries := .nil
  transfers := .nil
  legible r hr := by cases hr

/-- The tables of the ledger are those of the empty one. -/
theorem fresh_hasTable :
    fresh.catalog.hasTable Migration.accountTable.name = true ∧
      fresh.catalog.hasTable Migration.entryTable.name = true ∧
      fresh.catalog.hasTable Migration.transferTable.name = true := by
  decide +kernel

end Database

end DoubleEntry
