/-
DoubleEntry/Proofs/Store/Issued.lean

Queries that were issued, and what they have done together.  `Grown` relates
two databases by the queries issued between them, and those of them that were
committed:

* the keys of the later database are in order (`Database.Keyed`);
* of the rows of the earlier one only that has changed which the committed
  queries have changed (`Appended`);
* the ids that were answered, committed or not, were drawn one after the other
  since (`DrawnAfter`).

Each query that is issued makes such a step (`Issued.Made.grown`), be it
submitted by itself or in a transaction, and steps compose (`Grown.trans`).
-/
import DoubleEntry.Proofs.Store.Appended
import DoubleEntry.Proofs.Store.UserAnswers

namespace DoubleEntry

open Performed

variable {db db' db'' : Database} {q : Query}

/-! ### Issued queries -/

/-- A query that was issued, and how it came out. -/
structure Issued where
  query : Query
  outcome : Outcome query.Answer

namespace Issued

/-- The id that was answered for a new row of a table. -/
def created? : Series → Issued → Option Int64
  | .account, { query := .createAccount .., outcome := .ok account } => some account.id
  | .entry, { query := .createEntry .., outcome := .ok entry } => some entry.id
  | .transfer, { query := .createTransfer .., outcome := .ok transfer } => some transfer.id
  | .verification, { query := .createVerification .., outcome := .ok verification } =>
      some verification.id
  | _, _ => none

/-- A query has come out as queries do, and an id that it answered is the next
of its sequence. -/
structure Made (i : Issued) (db db' : Database) : Prop where
  cameOut : CameOut i.outcome (Change db i.query) db db'
  created : ∀ (series : Series) (id : Int64), i.created? series = some id →
    id.toInt = db.sequences.last series + 1 ∧
      db'.sequences.last series = db.sequences.last series + 1

/-- Only an answer tells an id. -/
theorem created?_of_not_ok {series : Series} {outcome : Outcome q.Answer}
    (h : ∀ a, outcome ≠ .ok a) : created? series ⟨q, outcome⟩ = none := by
  cases outcome with
  | ok a => exact absurd rfl (h a)
  | error e => cases series <;> cases q <;> rfl
  | crash => cases series <;> cases q <;> rfl

end Issued

/-- The queries that have taken effect. -/
def effective (issued : List Issued) : List Query :=
  (issued.filter (·.outcome.tookEffect)).map (·.query)

theorem effective_of_effect {i : Issued} (h : i.outcome.tookEffect = true) :
    effective [i] = [i.query] := by
  have hfilter : [i].filter (·.outcome.tookEffect) = [i] := List.filter_cons_of_pos h
  rw [effective, hfilter]
  rfl

theorem effective_of_no_effect {i : Issued} (h : i.outcome.tookEffect = false) :
    effective [i] = [] := by
  have hfilter : [i].filter (·.outcome.tookEffect) = [] :=
    List.filter_cons_of_neg (Bool.eq_false_iff.mp h)
  rw [effective, hfilter]
  rfl

/-- The ids that were answered for new rows of a table. -/
def createdIds (series : Series) (issued : List Issued) : List Int64 :=
  issued.filterMap (·.created? series)

theorem effective_cons (i : Issued) (issued : List Issued) :
    effective (i :: issued) = effective [i] ++ effective issued := by
  unfold effective
  rw [← List.map_append, ← List.filter_append]
  rfl

theorem createdIds_append (series : Series) (issued issued' : List Issued) :
    createdIds series (issued ++ issued') = createdIds series issued ++ createdIds series issued' :=
  List.filterMap_append

/-! ### Each query -/

/-- The answer to a query that stores a row has the id that was drawn for
it. -/
theorem perform_created {now : Instant} {a : q.Answer} {series : Series} {id : Int64}
    (h : (q.perform now db).result = .ok a)
    (hid : Issued.created? series ⟨q, .ok a⟩ = some id) :
    id.toInt = db.sequences.last series + 1 ∧
      (q.perform now db).db.sequences.last series = db.sequences.last series + 1 := by
  have hanswers : (q.perform now db).Answers a (q.perform now db).db := ⟨h, rfl⟩
  cases q with
  | createAccount owner balance currency =>
      cases series with
      | account =>
          cases hid
          obtain ⟨-, id, hdrawn, hread, hdb⟩ := answers_createAccount_iff.mp hanswers
          obtain ⟨-, -, ha⟩ := AccountRow.read_eq_ok_iff.mp hread
          rw [hdb, ha]
          exact ⟨hdrawn, rfl⟩
      | entry | transfer | verification => cases hid
  | createEntry accountId amount =>
      cases series with
      | entry =>
          cases hid
          obtain ⟨-, id, hdrawn, hread, hdb⟩ := answers_createEntry_iff.mp hanswers
          rw [hdb, EntryRow.eq_of_read hread]
          exact ⟨hdrawn, rfl⟩
      | account | transfer | verification => cases hid
  | createTransfer request =>
      cases series with
      | transfer =>
          cases hid
          obtain ⟨-, id, hdrawn, -, hread, hdb⟩ := answers_createTransfer_iff.mp hanswers
          rw [hdb, TransferRow.eq_of_read hread]
          exact ⟨hdrawn, rfl⟩
      | account | entry | verification => cases hid
  | createVerification username email secretCode lifetime =>
      cases series with
      | verification =>
          cases hid
          obtain ⟨-, id, hdrawn, hread, hdb⟩ := answers_createVerification_iff.mp hanswers
          rw [hdb, VerificationRow.eq_of_read hread]
          exact ⟨hdrawn, rfl⟩
      | account | entry | transfer => cases hid
  | _ => cases series <;> cases hid

/-- A query that is performed. -/
theorem perform_made (now : Instant) (q : Query) (db : Database) :
    Issued.Made ⟨q, .ofExcept (q.perform now db).result⟩ db (q.perform now db).db where
  cameOut := perform_cameOut now q db
  created series id hid := by
    cases hresult : (q.perform now db).result with
    | ok a =>
        rw [hresult] at hid
        exact perform_created hresult hid
    | error e =>
        rw [hresult, Issued.created?_of_not_ok] at hid
        · cases hid
        · intro a h
          cases h

/-- A query that is held back before it is performed. -/
theorem Issued.made_of_held {outcome : Outcome q.Answer} (h : outcome.tookEffect = false) :
    Issued.Made ⟨q, outcome⟩ db db where
  cameOut := .failed h db.sequences (Sequences.le_refl _) rfl
  created series id hid := by
    rw [Issued.created?_of_not_ok] at hid
    · cases hid
    · rintro a rfl
      cases h

/-- A query that is submitted by itself. -/
theorem submit_made (now : Instant) (q : Query) (db : Database) :
    Issued.Made ⟨q, (submit now q db).outcome⟩ db (submit now q db).db := by
  unfold submit
  split
  · exact Issued.made_of_held rfl
  · exact perform_made now q db

/-- A query that is issued in a transaction. -/
theorem Scope.issue_made (env : Surroundings) (q : Query) (s : Scope) :
    Issued.Made ⟨q, (s.issue env q).1⟩ s.db (s.issue env q).2.db := by
  unfold issue answer
  dsimp only
  split
  · exact Issued.made_of_held rfl
  split
  · exact Issued.made_of_held rfl
  split
  · exact Issued.made_of_held rfl
  split
  · exact Issued.made_of_held rfl
  · exact perform_made _ q s.db

/-! ### Ids drawn since -/

/-- Ids that were drawn one after the other since the sequence stood at
`first`. -/
structure DrawnAfter (first last : Nat) (ids : List Int64) : Prop extends Drawn last ids where
  forward : first ≤ last
  above : ∀ id ∈ ids, (first : Int) < id.toInt

namespace DrawnAfter

variable {first middle last : Nat} {ids ids' : List Int64}

theorem nil (h : first ≤ last) : DrawnAfter first last [] where
  toDrawn := .nil
  forward := h
  above id hid := by cases hid

theorem singleton {id : Int64} (h : id.toInt = first + 1) : DrawnAfter first (first + 1) [id] where
  toDrawn := by
    have hnil : Drawn first [] := .nil
    exact hnil.append h
  forward := Nat.le_succ first
  above := by
    rw [List.forall_mem_singleton, h]
    omega

theorem append (h : DrawnAfter first middle ids) (h' : DrawnAfter middle last ids') :
    DrawnAfter first last (ids ++ ids') where
  increasing := by
    rw [List.pairwise_append]
    refine ⟨h.increasing, h'.increasing, ?_⟩
    intro a ha b hb
    have hbound := h.bounded a ha
    have habove := h'.above b hb
    omega
  bounded := by
    rw [List.forall_mem_append]
    exact ⟨(h.toDrawn.mono h'.forward).bounded, h'.bounded⟩
  forward := Nat.le_trans h.forward h'.forward
  above := by
    rw [List.forall_mem_append]
    refine ⟨h.above, ?_⟩
    intro id hid
    have habove := h'.above id hid
    have hforward := h.forward
    omega

end DrawnAfter

/-! ### Growth -/

/-- What queries have done that were issued, and of which some were
committed. -/
structure Grown (issued : List Issued) (committed : List Query) (db db' : Database) : Prop where
  keyed : db'.Keyed
  appended : Appended committed db db'
  drawn : ∀ series, DrawnAfter (db.sequences.last series) (db'.sequences.last series)
    (createdIds series issued)

namespace Grown

variable {issued issued' : List Issued} {committed committed' : List Query}

theorem of_rows (h : db.Keyed) (hrows : db'.rows = db.rows) (hs : db.sequences ≤ db'.sequences) :
    Grown [] [] db db' where
  keyed := h.of_rows hrows hs
  appended := .of_rows hrows hs
  drawn series := .nil (Sequences.last_le hs series)

theorem refl (h : db.Keyed) : Grown [] [] db db :=
  of_rows h rfl (Sequences.le_refl _)

theorem trans (h : Grown issued committed db db') (h' : Grown issued' committed' db' db'') :
    Grown (issued ++ issued') (committed ++ committed') db db'' where
  keyed := h'.keyed
  appended := h.appended.trans h'.appended
  drawn series := by
    rw [createdIds_append]
    exact (h.drawn series).append (h'.drawn series)

/-- What is left when nothing of it is kept: the ids are gone. -/
theorem undone (h : Grown issued committed db db') (hkeyed : db.Keyed) :
    Grown issued [] db (db.withSequences db'.sequences) where
  keyed := hkeyed.of_rows rfl h.appended.sequences
  appended := .of_rows rfl h.appended.sequences
  drawn := h.drawn

end Grown

/-- One query makes a step. -/
theorem Issued.Made.grown {i : Issued} (h : i.Made db db') (hkeyed : db.Keyed) :
    Grown [i] (effective [i]) db db' := by
  have hdrawn : db.sequences ≤ db'.sequences → ∀ series,
      DrawnAfter (db.sequences.last series) (db'.sequences.last series)
        (createdIds series [i]) := by
    intro hforward series
    cases hid : i.created? series with
    | none =>
        have hnone : createdIds series [i] = [] := List.filterMap_cons_none hid
        rw [hnone]
        exact .nil (Sequences.last_le hforward series)
    | some id =>
        obtain ⟨hnext, hlast⟩ := h.created series id hid
        have hsome : createdIds series [i] = [id] := List.filterMap_cons_some hid
        rw [hsome, hlast]
        exact .singleton hnext
  cases h.cameOut with
  | done effect change =>
      rw [effective_of_effect effect]
      exact ⟨change.keyed hkeyed, change.appended hkeyed, hdrawn change.sequences⟩
  | failed effect s forward same =>
      rw [effective_of_no_effect effect]
      rw [same] at hdrawn ⊢
      exact ⟨hkeyed.of_rows rfl forward, .of_rows rfl forward, hdrawn forward⟩

end DoubleEntry
